import LibRdp.Coding.Cbor
import LibRdp.Common
import Mathlib.Computability.Language

/-! # The validator of WebAuthn messages

The build without a CBOR library checks messages itself: it skips one item, and the items in it by
recursion, and looks whether the message ends there.
-/

namespace LibRdp.Channels

open Coding (fromBigEndian)
open Coding.Cbor

/-! ## Reading heads -/

/-- `RDP_WEBAUTHN_MAX_MESSAGE`. -/
def webauthnMaxMessage : Nat := 1048576

/-- `RDP_WEBAUTHN_CBOR_INDEFINITE`, which is `UINT64_MAX`. -/
def cborIndefinite : Nat := 2 ^ 64 - 1

/-- `rdp_webauthn_cbor_item`. -/
structure CborItem where
  major : Nat
  value : Nat
  headerLen : Nat
  deriving Repr, DecidableEq

def argumentAt (data : Bytes) (offset count : Nat) : Attempt Nat :=
  if offset + count ≤ data.length then
    pure (fromBigEndian 256 (((data.drop offset).take count).map UInt8.toNat))
  else .error (.fault .outOfBounds)

def cborReadArgument (data : Bytes) (major count : Nat) : Attempt CborItem :=
  if data.length < count + 1 then refuse .protocolError
  else do
    let value ← argumentAt data 1 count
    pure { major, value, headerLen := count + 1 }

/-- `rdp_webauthn_cbor_read_item`. -/
def cborReadItem (data : Bytes) : Attempt CborItem :=
  match data with
  | [] => refuse .protocolError
  | first :: _ =>
      let major := (first >>> 5).toNat
      let ai := (first &&& 0x1f).toNat
      if ai = 31 then pure { major, value := cborIndefinite, headerLen := 1 }
      else if ai < 24 then pure { major, value := ai, headerLen := 1 }
      else if ai = 24 then cborReadArgument data major 1
      else if ai = 25 then cborReadArgument data major 2
      else if ai = 26 then cborReadArgument data major 4
      else if ai = 27 then cborReadArgument data major 8
      else refuse .protocolError

/-- `rdp_webauthn_cbor_is_break`. -/
def cborIsBreak (data : Bytes) : Bool := data.head? == some 0xff

/-! ## Skipping items -/

/-- `data + offset` with `length - offset` bytes. -/
def dataFrom (data : Bytes) (offset : Nat) : Attempt Bytes :=
  if offset ≤ data.length then pure (data.drop offset) else .error (.fault .underflow)

def skipChunk (major : Nat) (data : Bytes) (offset : Nat) : Attempt Nat := do
  let left ← dataFrom data offset
  let chunk ← cborReadItem left
  if chunk.major ≠ major ∨ chunk.value = cborIndefinite ∨ chunk.value > sizeMax ∨
      chunk.headerLen > left.length ∨ chunk.value > left.length - chunk.headerLen then
    refuse .protocolError
  else pure (offset + (chunk.headerLen + chunk.value))

/-- An element of an array. The source leaves the first check out where it has just looked for a
    break, which is a stronger one. -/
def skipElement (skip : Bytes → Attempt Nat) (data : Bytes) (offset : Nat) : Attempt Nat :=
  if offset > data.length then refuse .protocolError
  else do
    let left ← dataFrom data offset
    let child ← skip left
    if child > left.length then refuse .protocolError else pure (offset + child)

def skipPair (skip : Bytes → Attempt Nat) (data : Bytes) (offset : Nat) : Attempt Nat := do
  let offset ← skipElement skip data offset
  skipElement skip data offset

/-- `for (i = 0; i < item.value; i++)`. -/
def skipCounted (entry : Bytes → Nat → Attempt Nat) (data : Bytes) :
    (fuel count offset : Nat) → Attempt Nat
  | _, 0, offset => pure offset
  | 0, _ + 1, _ => .error (.fault .outOfFuel)
  | fuel + 1, count + 1, offset => do
      let offset ← entry data offset
      skipCounted entry data fuel count offset

/-- `while (1)`, up to a break. -/
def skipUntilBreak (entry : Bytes → Nat → Attempt Nat) (data : Bytes) :
    (fuel offset : Nat) → Attempt Nat
  | 0, _ => .error (.fault .outOfFuel)
  | fuel + 1, offset =>
      if offset ≥ data.length then refuse .protocolError
      else do
        let left ← dataFrom data offset
        if cborIsBreak left then pure (offset + 1)
        else do
          let offset ← entry data offset
          skipUntilBreak entry data fuel offset

/-- `rdp_webauthn_cbor_skip` after the head of an item; `skip` is the call one level deeper. Every
    turn of a loop but the last takes a byte at least, which is what the fuel says. -/
def skipContent (skip : Bytes → Attempt Nat) (item : CborItem) (data : Bytes) : Attempt Nat :=
  let fuel := data.length + 1
  if item.major = 7 ∧ item.value = cborIndefinite then refuse .protocolError
  else if item.major = 0 ∨ item.major = 1 ∨ item.major = 7 then pure item.headerLen
  else if item.major = 2 ∨ item.major = 3 then
    if item.value = cborIndefinite then
      skipUntilBreak (skipChunk item.major) data fuel item.headerLen
    else if item.value > sizeMax ∨ item.headerLen > data.length ∨
        item.value > data.length - item.headerLen then refuse .protocolError
    else pure (item.headerLen + item.value)
  else if item.major = 4 then
    if item.value = cborIndefinite then skipUntilBreak (skipElement skip) data fuel item.headerLen
    else skipCounted (skipElement skip) data fuel item.value item.headerLen
  else if item.major = 5 then
    if item.value = cborIndefinite then skipUntilBreak (skipPair skip) data fuel item.headerLen
    else skipCounted (skipPair skip) data fuel item.value item.headerLen
  else if item.major = 6 then
    if item.value = cborIndefinite then refuse .protocolError
    else skipElement skip data item.headerLen
  else refuse .protocolError

/-- `rdp_webauthn_cbor_skip` where so many levels are left. -/
def cborSkipWithin : (levels : Nat) → Bytes → Attempt Nat
  | 0, _ => refuse .protocolError
  | levels + 1, data => do
      let item ← cborReadItem data
      skipContent (cborSkipWithin levels) item data

/-- `rdp_webauthn_cbor_skip`; a depth of more than 16 is refused. -/
def cborSkip (data : Bytes) (depth : Nat) : Attempt Nat := cborSkipWithin (17 - depth) data

/-- `rdp_webauthn_validate_cbor` without a CBOR library. -/
def validateCbor (data : Bytes) : Attempt Unit :=
  if data.length = 0 ∨ data.length > webauthnMaxMessage then refuse .invalidArgument
  else do
    let consumed ← cborSkip data 0
    if consumed = data.length then pure () else refuse .protocolError

/-! ## What heads are to the validator -/

def headValue (head : Head) : Nat := if head.info = 31 then cborIndefinite else head.value

def readHead (head : Head) : CborItem :=
  { major := head.major, value := headValue head, headerLen := head.bytes.length }

/-- The kinds that `rdp_webauthn_cbor_skip` sees. -/
def readKind (head : Head) : Kind :=
  if headValue head = cborIndefinite then
    match head.major with
    | 0 | 1 => .scalar
    | 2 | 3 => .chunked
    | 4 => .openHolder 1
    | 5 => .openHolder 2
    | _ => .malformed
  else kindOf head.major (some (headValue head))

theorem major_bits (byte : UInt8) : (byte >>> 5).toNat = byte.toNat / 32 := by
  rw [UInt8.toNat_shiftRight, Nat.shiftRight_eq_div_pow]
  rfl

theorem info_bits (byte : UInt8) : (byte &&& 0x1f).toNat = byte.toNat % 32 := by
  rw [UInt8.toNat_and]
  exact Nat.and_two_pow_sub_one_eq_mod byte.toNat 5

theorem cborReadArgument_eq (first : UInt8) (rest : Bytes) (major count : Nat) :
    cborReadArgument (first :: rest) major count =
      if rest.length < count then refuse .protocolError
      else .ok { major, value := fromBigEndian 256 ((rest.take count).map UInt8.toNat),
                 headerLen := count + 1 } := by
  unfold cborReadArgument argumentAt
  rw [List.length_cons]
  by_cases short : rest.length < count
  · rw [if_pos (by omega), if_pos short]
  · rw [if_neg (by omega), if_neg short, if_pos (by omega)]
    rfl

theorem cborReadItem_eq (first : UInt8) (rest : Bytes) :
    cborReadItem (first :: rest) =
      match followingLength (first.toNat % 32) with
      | none => refuse .protocolError
      | some count =>
        if rest.length < count then refuse .protocolError
        else .ok { major := first.toNat / 32
                   value := if first.toNat % 32 = 31 then cborIndefinite
                     else if first.toNat % 32 < 24 then first.toNat % 32
                     else fromBigEndian 256 ((rest.take count).map UInt8.toNat)
                   headerLen := count + 1 } := by
  simp only [cborReadItem, major_bits, info_bits, cborReadArgument_eq, followingLength]
  generalize first.toNat % 32 = info
  by_cases open' : info = 31
  · subst open'
    simp
  by_cases small : info < 24
  · simp [open', small]
  rw [if_neg open', if_neg small, if_neg small]
  split
  · simp
  split
  · simp
  split
  · simp
  split
  · simp
  · simp

theorem cborReadItem_takes (head : Head) (rest : Bytes) :
    cborReadItem (head.bytes ++ rest) = .ok (readHead head) := by
  obtain ⟨first, following, whole⟩ := head
  change cborReadItem (first :: (following ++ rest)) = _
  rw [cborReadItem_eq, whole]
  simp only
  rw [if_neg (by rw [List.length_append]; omega), List.take_left]
  rfl

theorem cborReadItem_ends (data : Bytes) :
    (∃ (head : Head) (rest : Bytes), data = head.bytes ++ rest) ∨
      cborReadItem data = refuse .protocolError := by
  cases data with
  | nil => exact .inr rfl
  | cons first rest =>
    rw [cborReadItem_eq]
    cases follows : followingLength (first.toNat % 32) with
    | none => exact .inr rfl
    | some count =>
      by_cases short : rest.length < count
      · exact .inr (if_pos short)
      have long : (rest.take count).length = count := by
        rw [List.length_take]
        omega
      refine .inl ⟨⟨first, rest.take count, by rw [follows, long]⟩, rest.drop count, ?_⟩
      change first :: rest = first :: (rest.take count ++ rest.drop count)
      rw [List.take_append_drop]

/-! ## Steps that find words of a language -/

/-- Behind `front`, a step finds a word of a language, or it refuses. -/
structure Finds (front : Bytes) (step : Bytes → Attempt Nat) (language : Language UInt8) : Prop where
  ends : ∀ tail, (∃ word rest, tail = word ++ rest ∧ word ∈ language ∧
      step (front ++ tail) = .ok (front.length + word.length)) ∨
    step (front ++ tail) = refuse .protocolError
  takes : ∀ word rest, word ∈ language →
    step (front ++ (word ++ rest)) = .ok (front.length + word.length)

def Recognizes (step : Bytes → Nat → Attempt Nat) (language : Language UInt8) : Prop :=
  ∀ front, Finds front (step · front.length) language

variable {front : Bytes} {step next : Bytes → Nat → Attempt Nat} {language others : Language UInt8}

theorem Finds.of_eq {step step' : Bytes → Attempt Nat} (found : Finds front step language)
    (same : ∀ tail, step' (front ++ tail) = step (front ++ tail)) : Finds front step' language where
  ends tail := by
    rw [same]
    exact found.ends tail
  takes word rest held := by
    rw [same]
    exact found.takes word rest held

theorem Finds.refused : Finds front (fun _ => refuse .protocolError) 0 where
  ends _ := .inr rfl
  takes _ _ held := held.elim

theorem Finds.nothing : Finds front (fun _ => pure front.length) 1 where
  ends tail := .inl ⟨[], tail, rfl, Language.nil_mem_one, rfl⟩
  takes word rest held := by
    rw [(Language.mem_one word).mp held]
    rfl

def bytesOf (length : Nat) : Language UInt8 := {word | word.length = length}

variable {length : Nat} {head : Head}

theorem Finds.bytes :
    Finds front (fun data =>
      if length > data.length - front.length then refuse .protocolError
      else pure (front.length + length)) (bytesOf length) where
  ends tail := by
    rw [List.length_append, Nat.add_sub_cancel_left]
    by_cases short : length > tail.length
    · exact .inr (if_pos short)
    have long : (tail.take length).length = length := by
      rw [List.length_take]
      omega
    refine .inl ⟨tail.take length, tail.drop length, (List.take_append_drop _ _).symm, long, ?_⟩
    rw [if_neg short, long]
    rfl
  takes word rest held := by
    cases held
    rw [List.length_append, Nat.add_sub_cancel_left, if_neg (by rw [List.length_append]; omega)]
    rfl

theorem Recognizes.bind (first : Recognizes step language) (second : Recognizes next others) :
    Recognizes (fun data offset => step data offset >>= next data) (language * others) := by
  intro front
  constructor
  · intro tail
    obtain ⟨word, rest, rfl, held, found⟩ | refused := (first front).ends tail
    · obtain ⟨word', rest', rfl, held', found'⟩ | refused := (second (front ++ word)).ends rest
      · refine .inl ⟨word ++ word', rest', (List.append_assoc _ _ _).symm,
          Language.append_mem_mul held held', ?_⟩
        simp only [List.append_assoc, List.length_append] at found found' ⊢
        rw [found, ok_bind, found', Nat.add_assoc]
      · simp only [List.append_assoc, List.length_append] at found refused ⊢
        rw [found, ok_bind]
        exact .inr refused
    · simp only [refused]
      exact .inr rfl
  · intro both rest held
    obtain ⟨word, here, word', there, rfl⟩ := Language.mem_mul.mp held
    have found := (first front).takes word (word' ++ rest) here
    have found' := (second (front ++ word)).takes word' rest there
    simp only [List.append_assoc, List.length_append] at found found' ⊢
    rw [found, ok_bind, found', Nat.add_assoc]

variable {fuel : Nat}

theorem Recognizes.counted (each : Recognizes step language) (filled : [] ∉ language) :
    ∀ {count : Nat} {front tail : Bytes}, tail.length < fuel →
      (∃ word rest, tail = word ++ rest ∧ word ∈ language ^ count ∧
        skipCounted step (front ++ tail) fuel count front.length =
          .ok (front.length + word.length)) ∨
      skipCounted step (front ++ tail) fuel count front.length = refuse .protocolError := by
  induction fuel with
  | zero => exact fun none => absurd none (Nat.not_lt_zero _)
  | succ fuel ih =>
    intro count front tail enough
    cases count with
    | zero => exact .inl ⟨[], tail, rfl, Language.nil_mem_one, rfl⟩
    | succ count =>
      rw [skipCounted]
      obtain ⟨word, rest, rfl, held, found⟩ | refused := (each front).ends tail
      · have some' : word.length ≠ 0 := fun none =>
          filled (List.eq_nil_of_length_eq_zero none ▸ held)
        rw [List.length_append] at enough
        have next := @ih count (front ++ word) rest (by omega)
        rw [found, ok_bind]
        rw [List.append_assoc, List.length_append] at next
        obtain ⟨word', rest', rfl, held', found'⟩ | refused := next
        · refine .inl ⟨word ++ word', rest', (List.append_assoc _ _ _).symm, ?_, ?_⟩
          · rw [pow_succ']
            exact Language.append_mem_mul held held'
          · rw [found', List.length_append, Nat.add_assoc]
        · exact .inr refused
      · rw [refused]
        exact .inr rfl

variable {count major : Nat}

theorem Recognizes.counted_takes (each : Recognizes step language) (filled : [] ∉ language) :
    ∀ {fuel : Nat} {front word rest : Bytes}, (word ++ rest).length < fuel →
      word ∈ language ^ count →
        skipCounted step (front ++ (word ++ rest)) fuel count front.length =
          .ok (front.length + word.length) := by
  induction count with
  | zero =>
    intro fuel front word rest _ held
    rw [(Language.mem_one word).mp held]
    rw [skipCounted]
    rfl
  | succ count ih =>
    intro fuel front both rest enough held
    rw [pow_succ'] at held
    obtain ⟨word, here, word', there, rfl⟩ := Language.mem_mul.mp held
    have some' : word.length ≠ 0 := fun none =>
      filled (List.eq_nil_of_length_eq_zero none ▸ here)
    cases fuel with
    | zero => exact absurd enough (Nat.not_lt_zero _)
    | succ fuel =>
      have found := (each front).takes word (word' ++ rest) here
      simp only [List.length_append] at enough
      have next := @ih fuel (front ++ word) word' rest (by rw [List.length_append]; omega) there
      simp only [List.append_assoc, List.length_append] at found next ⊢
      rw [skipCounted, found, ok_bind, next, Nat.add_assoc]

theorem dataFrom_append (front tail : Bytes) :
    dataFrom (front ++ tail) front.length = .ok tail := by
  rw [dataFrom, if_pos (by rw [List.length_append]; omega), List.drop_left]
  rfl

def Opens (language : Language UInt8) : Prop :=
  ∀ word ∈ language, ∃ byte rest, word = byte :: rest ∧ byte ≠ breakByte

theorem Opens.filled (opens : Opens language) : [] ∉ language := by
  intro held
  obtain ⟨byte, rest, empty, -⟩ := opens [] held
  cases empty

def upToBreak (language : Language UInt8) : Language UInt8 :=
  {word | ∃ words : List Bytes, (∀ held ∈ words, held ∈ language) ∧
    word = words.flatten ++ [breakByte]}

theorem skipUntilBreak_break (rest : Bytes) :
    skipUntilBreak step (front ++ breakByte :: rest) (fuel + 1) front.length =
      .ok (front.length + 1) := by
  rw [skipUntilBreak, if_neg (by rw [List.length_append, List.length_cons]; omega),
    dataFrom_append, ok_bind]
  exact if_pos rfl

theorem skipUntilBreak_entry {byte : UInt8} (other : byte ≠ breakByte) (rest : Bytes) :
    skipUntilBreak step (front ++ byte :: rest) (fuel + 1) front.length =
      step (front ++ byte :: rest) front.length >>=
        skipUntilBreak step (front ++ byte :: rest) fuel := by
  rw [skipUntilBreak, if_neg (by rw [List.length_append, List.length_cons]; omega),
    dataFrom_append, ok_bind]
  exact if_neg (by simpa [cborIsBreak, breakByte] using other)

theorem Recognizes.untilBreak (each : Recognizes step language) (opens : Opens language) :
    ∀ {front tail : Bytes}, tail.length < fuel →
      (∃ word rest, tail = word ++ rest ∧ word ∈ upToBreak language ∧
        skipUntilBreak step (front ++ tail) fuel front.length =
          .ok (front.length + word.length)) ∨
      skipUntilBreak step (front ++ tail) fuel front.length = refuse .protocolError := by
  induction fuel with
  | zero => exact fun none => absurd none (Nat.not_lt_zero _)
  | succ fuel ih =>
    intro front tail enough
    cases tail with
    | nil =>
      right
      rw [skipUntilBreak, List.append_nil, if_pos (Nat.le_refl _)]
    | cons byte tail =>
      by_cases ends : byte = breakByte
      · subst ends
        exact .inl ⟨[breakByte], tail, rfl, ⟨[], nofun, rfl⟩, skipUntilBreak_break tail⟩
      rw [skipUntilBreak_entry ends]
      obtain ⟨word, rest, split, held, found⟩ | refused := (each front).ends (byte :: tail)
      · obtain ⟨first, others, rfl, -⟩ := opens word held
        rw [found, ok_bind]
        rw [split, List.length_append, List.length_cons] at enough
        have next := @ih (front ++ first :: others) rest (by omega)
        rw [List.append_assoc, ← split, List.length_append] at next
        obtain ⟨word', rest', rfl, ⟨words, each', rfl⟩, found'⟩ | refused := next
        · refine .inl ⟨(first :: others) ++ (words.flatten ++ [breakByte]), rest',
            split.trans (List.append_assoc _ _ _).symm,
            ⟨(first :: others) :: words, ?_, (List.append_assoc _ _ _).symm⟩, ?_⟩
          · exact List.forall_mem_cons.mpr ⟨held, each'⟩
          · rw [found']
            simp only [List.length_append, Nat.add_assoc]
        · exact .inr refused
      · rw [refused]
        exact .inr rfl

theorem Recognizes.untilBreak_takes (each : Recognizes step language) (opens : Opens language)
    {words : List Bytes} (held : ∀ word ∈ words, word ∈ language) (rest : Bytes) :
    ∀ {fuel : Nat} {front : Bytes}, (words.flatten ++ breakByte :: rest).length < fuel →
      skipUntilBreak step (front ++ (words.flatten ++ breakByte :: rest)) fuel front.length =
        .ok (front.length + (words.flatten ++ [breakByte]).length) := by
  induction words with
  | nil =>
    intro fuel front enough
    cases fuel with
    | zero => exact absurd enough (Nat.not_lt_zero _)
    | succ fuel => exact skipUntilBreak_break rest
  | cons word words ih =>
    intro fuel front enough
    obtain ⟨here, later⟩ := List.forall_mem_cons.mp held
    obtain ⟨byte, others, rfl, other⟩ := opens word here
    cases fuel with
    | zero => exact absurd enough (Nat.not_lt_zero _)
    | succ fuel =>
      have found := (each front).takes _ (words.flatten ++ breakByte :: rest) here
      rw [List.flatten_cons, List.append_assoc, List.length_append, List.length_cons] at enough
      have next := @ih later fuel (front ++ byte :: others) (by omega)
      rw [List.append_assoc, List.length_append] at next
      rw [List.flatten_cons, List.append_assoc]
      rw [List.cons_append] at found next ⊢
      rw [skipUntilBreak_entry other, found, ok_bind, next]
      simp only [List.length_append, Nat.add_assoc]

/-! ## The language of the validator -/

theorem headValue_le (head : Head) : headValue head ≤ sizeMax := by
  have := head.value_lt
  unfold headValue sizeMax cborIndefinite
  split <;> omega

def chunkLanguage (major : Nat) : Language UInt8 :=
  {word | ∃ chunk : Head × Bytes, chunk.1.major = major ∧
    readKind chunk.1 = .string chunk.2.length ∧ word = chunk.1.bytes ++ chunk.2}

/-- What follows a head; `inner` are the items one level deeper. -/
def contentLanguage (inner : Language UInt8) (head : Head) : Language UInt8 :=
  match readKind head with
  | .scalar => 1
  | .string length => bytesOf length
  | .chunked => upToBreak (chunkLanguage head.major)
  | .holder count => inner ^ count
  | .openHolder group => upToBreak (inner ^ group)
  | .malformed => 0

theorem readKind_of_break (same : head.initial = breakByte) : readKind head = .malformed := by
  have info : head.info = 31 := by rw [Head.info, same]; rfl
  have major : head.major = 7 := by rw [Head.major, same]; rfl
  rw [readKind, headValue, if_pos info, if_pos rfl, major]
  rfl

theorem readKind_string :
    readKind head = .string length ↔
      (head.major = 2 ∨ head.major = 3) ∧ headValue head ≠ cborIndefinite ∧
        headValue head = length := by
  have range := head.major_lt
  unfold readKind
  split
  · rename_i endless
    constructor
    · intro string
      split at string <;> cases string
    · exact fun string => absurd endless string.2.1
  rename_i ends
  generalize head.major = major at range ⊢
  obtain rfl | rfl | rfl | rfl | rfl | rfl | rfl | rfl : major = 0 ∨ major = 1 ∨ major = 2 ∨
    major = 3 ∨ major = 4 ∨ major = 5 ∨ major = 6 ∨ major = 7 := by omega
  all_goals simp [kindOf, ends]

theorem chunkLanguage_opens (major : Nat) : Opens (chunkLanguage major) := by
  rintro word ⟨⟨head, content⟩, -, string, rfl⟩
  refine ⟨head.initial, head.following ++ content, rfl, fun same => ?_⟩
  rw [readKind_of_break same] at string
  cases string

theorem skipChunk_recognizes (string : major = 2 ∨ major = 3) :
    Recognizes (skipChunk major) (chunkLanguage major) := by
  intro front
  constructor
  · intro tail
    simp only [skipChunk, dataFrom_append, ok_bind]
    obtain ⟨head, rest, rfl⟩ | refused := cborReadItem_ends tail
    · rw [cborReadItem_takes, ok_bind]
      split
      · exact .inr rfl
      rename_i fits
      simp only [readHead, not_or, Decidable.not_not, Nat.not_lt, gt_iff_lt, List.length_append,
        Nat.add_sub_cancel_left] at fits
      obtain ⟨same, ends, -, -, short⟩ := fits
      have long : (rest.take (headValue head)).length = headValue head := by
        rw [List.length_take]
        omega
      refine .inl ⟨head.bytes ++ rest.take (headValue head), rest.drop (headValue head), ?_,
        ⟨(head, rest.take (headValue head)), same, ?_, rfl⟩, ?_⟩
      · rw [List.append_assoc, List.take_append_drop]
      · exact readKind_string.mpr ⟨same ▸ string, ends, long.symm⟩
      · rw [List.length_append, long]
        rfl
    · rw [refused]
      exact .inr rfl
  · rintro word rest ⟨⟨head, content⟩, same, held, rfl⟩
    obtain ⟨-, ends, long⟩ := readKind_string.mp held
    simp only at long
    have short := headValue_le head
    simp only [skipChunk, dataFrom_append, ok_bind, List.append_assoc]
    rw [cborReadItem_takes, ok_bind, if_neg]
    · rw [List.length_append, ← long]
      rfl
    · simp only [readHead, not_or, Decidable.not_not, Nat.not_lt, gt_iff_lt, List.length_append,
        Nat.add_sub_cancel_left]
      exact ⟨same, ends, short, by omega, by omega⟩

section Elements

variable {skip : Bytes → Attempt Nat} {inner : Language UInt8}

theorem skipElement_recognizes (found : Finds [] skip inner) :
    Recognizes (skipElement skip) inner := by
  intro front
  have here (tail : Bytes) : skipElement skip (front ++ tail) front.length =
      skip tail >>= fun child =>
        if child > tail.length then refuse .protocolError else pure (front.length + child) := by
    rw [skipElement, if_neg (by rw [List.length_append]; omega), dataFrom_append, ok_bind]
  constructor
  · intro tail
    simp only [here]
    obtain ⟨word, rest, rfl, held, skipped⟩ | refused := found.ends tail
    · rw [List.nil_append, List.length_nil, Nat.zero_add] at skipped
      refine .inl ⟨word, rest, rfl, held, ?_⟩
      rw [skipped, ok_bind, if_neg (by rw [List.length_append]; omega)]
      rfl
    · rw [List.nil_append] at refused
      rw [refused]
      exact .inr rfl
  · intro word rest held
    have skipped := found.takes word rest held
    rw [List.nil_append, List.length_nil, Nat.zero_add] at skipped
    simp only [here]
    rw [skipped, ok_bind, if_neg (by rw [List.length_append]; omega)]
    rfl

theorem skipPair_recognizes (found : Finds [] skip inner) :
    Recognizes (skipPair skip) (inner ^ 2) := by
  rw [pow_two]
  exact (skipElement_recognizes found).bind (skipElement_recognizes found)

theorem Opens.pow_succ {count : Nat} (opens : Opens inner) : Opens (inner ^ (count + 1)) := by
  intro word held
  rw [pow_succ'] at held
  obtain ⟨first, here, others, -, rfl⟩ := Language.mem_mul.mp held
  obtain ⟨byte, rest, rfl, other⟩ := opens first here
  exact ⟨byte, rest ++ others, rfl, other⟩

variable {entry : Bytes → Nat → Attempt Nat}

theorem Finds.counted {language : Language UInt8} (each : Recognizes entry language)
    (opens : Opens language) (front : Bytes) (count : Nat) :
    Finds front (fun data => skipCounted entry data (data.length + 1) count front.length)
      (language ^ count) where
  ends tail := each.counted opens.filled (by rw [List.length_append]; omega)
  takes word rest held := each.counted_takes opens.filled
    (by simp only [List.length_append]; omega) held

theorem Finds.untilBreak {language : Language UInt8} (each : Recognizes entry language)
    (opens : Opens language) (front : Bytes) :
    Finds front (fun data => skipUntilBreak entry data (data.length + 1) front.length)
      (upToBreak language) where
  ends tail := each.untilBreak opens (by rw [List.length_append]; omega)
  takes word rest held := by
    obtain ⟨words, held, rfl⟩ := held
    rw [List.append_assoc]
    exact each.untilBreak_takes opens held rest
      (by simp only [List.length_append, List.length_cons, List.length_nil]; omega)

theorem skipContent_finds (found : Finds [] skip inner) (opens : Opens inner) (head : Head) :
    Finds head.bytes (skipContent skip (readHead head)) (contentLanguage inner head) := by
  have range := head.major_lt
  have element := skipElement_recognizes found
  have pair := skipPair_recognizes found
  have opens' : Opens (inner ^ 2) := opens.pow_succ
  have majors : head.major = 0 ∨ head.major = 1 ∨ head.major = 2 ∨ head.major = 3 ∨
    head.major = 4 ∨ head.major = 5 ∨ head.major = 6 ∨ head.major = 7 := by omega
  unfold contentLanguage readKind readHead
  by_cases endless : headValue head = cborIndefinite
  · obtain major | major | major | major | major | major | major | major := majors
    all_goals simp only [major, endless, if_true]
    iterate 2 exact Finds.nothing.of_eq fun tail => by simp [skipContent]
    · exact (Finds.untilBreak (skipChunk_recognizes (.inl rfl)) (chunkLanguage_opens 2) _).of_eq
        fun tail => by simp [skipContent]
    · exact (Finds.untilBreak (skipChunk_recognizes (.inr rfl)) (chunkLanguage_opens 3) _).of_eq
        fun tail => by simp [skipContent]
    · rw [pow_one]
      exact (Finds.untilBreak element opens _).of_eq fun tail => by simp [skipContent]
    · exact (Finds.untilBreak pair opens' _).of_eq fun tail => by simp [skipContent]
    iterate 2 exact Finds.refused.of_eq fun tail => by simp [skipContent]
  obtain major | major | major | major | major | major | major | major := majors
  all_goals simp only [major, endless, if_false, kindOf]
  iterate 2 exact Finds.nothing.of_eq fun tail => by simp [skipContent]
  · refine Finds.bytes.of_eq fun tail => ?_
    simp [skipContent, endless, Nat.not_lt.mpr (headValue_le head)]
  · refine Finds.bytes.of_eq fun tail => ?_
    simp [skipContent, endless, Nat.not_lt.mpr (headValue_le head)]
  · exact (Finds.counted element opens _ _).of_eq fun tail => by simp [skipContent, endless]
  · rw [pow_mul]
    exact (Finds.counted pair opens' _ _).of_eq fun tail => by simp [skipContent, endless]
  · rw [pow_one]
    exact (element _).of_eq fun tail => by simp [skipContent, endless]
  · exact Finds.nothing.of_eq fun tail => by simp [skipContent, endless]

end Elements

/-- The items that the validator takes where so many levels are left. -/
def itemLanguage (levels : Nat) : Language UInt8 :=
  {word | ∃ item : Item, item.Fits readKind ∧ item.height < levels ∧ item.spell = word}

theorem readKind_breakless : Item.Breakless readKind := fun _ same => readKind_of_break same

theorem itemLanguage_opens (levels : Nat) : Opens (itemLanguage levels) := by
  rintro word ⟨item, fits, -, rfl⟩
  exact fits.spell_cons readKind_breakless

variable {levels : Nat} {word : Bytes}

theorem mem_itemLanguage_pow :
    word ∈ itemLanguage levels ^ count ↔ ∃ items : List Item, items.length = count ∧
      Item.FitsAll readKind items ∧ Item.heightAll items ≤ levels ∧ Item.spellAll items = word := by
  induction count generalizing word with
  | zero =>
    rw [pow_zero, Language.mem_one]
    constructor
    · rintro rfl
      exact ⟨[], rfl, trivial, Nat.zero_le _, rfl⟩
    · rintro ⟨items, none, -, -, rfl⟩
      rw [List.eq_nil_of_length_eq_zero none]
      rfl
  | succ count ih =>
    rw [pow_succ', Language.mem_mul]
    constructor
    · rintro ⟨_, ⟨item, fits, low, rfl⟩, others, held, rfl⟩
      obtain ⟨items, many, fits', low', rfl⟩ := ih.mp held
      exact ⟨item :: items, congrArg (· + 1) many, ⟨fits, fits'⟩, Nat.max_le.mpr ⟨low, low'⟩, rfl⟩
    · rintro ⟨items, many, fits, low, rfl⟩
      cases items with
      | nil => cases many
      | cons item items =>
        obtain ⟨here, later⟩ := Nat.max_le.mp low
        exact ⟨item.spell, ⟨item, fits.1, here, rfl⟩, Item.spellAll items,
          ih.mpr ⟨items, Nat.succ.inj many, fits.2, later, rfl⟩, rfl⟩

theorem mem_upToBreak {language : Language UInt8} :
    word ∈ upToBreak language ↔
      ∃ count, ∃ front ∈ language ^ count, word = front ++ [breakByte] := by
  constructor
  · rintro ⟨words, held, rfl⟩
    exact ⟨words.length, words.flatten, Language.mem_pow.mpr ⟨words, rfl, rfl, held⟩, rfl⟩
  · rintro ⟨count, front, held, rfl⟩
    obtain ⟨words, rfl, -, held⟩ := Language.mem_pow.mp held
    exact ⟨words, held, rfl⟩

theorem mem_upToBreak_items {group : Nat} :
    word ∈ upToBreak (itemLanguage levels ^ group) ↔ ∃ items : List Item, group ∣ items.length ∧
      Item.FitsAll readKind items ∧ Item.heightAll items ≤ levels ∧
      word = Item.spellAll items ++ [breakByte] := by
  rw [mem_upToBreak]
  constructor
  · rintro ⟨count, front, held, rfl⟩
    rw [← pow_mul] at held
    obtain ⟨items, many, fits, low, rfl⟩ := mem_itemLanguage_pow.mp held
    exact ⟨items, ⟨count, many⟩, fits, low, rfl⟩
  · rintro ⟨items, ⟨count, many⟩, fits, low, rfl⟩
    refine ⟨count, Item.spellAll items, ?_, rfl⟩
    rw [← pow_mul]
    exact mem_itemLanguage_pow.mpr ⟨items, many, fits, low, rfl⟩

theorem mem_upToBreak_chunks :
    word ∈ upToBreak (chunkLanguage major) ↔ ∃ chunks : List (Head × Bytes),
      (∀ chunk ∈ chunks, chunk.1.major = major ∧ readKind chunk.1 = .string chunk.2.length) ∧
      word = spellChunks chunks ++ [breakByte] := by
  constructor
  · rintro ⟨words, held, rfl⟩
    induction words with
    | nil => exact ⟨[], nofun, rfl⟩
    | cons word words ih =>
      obtain ⟨⟨chunk, major, string, rfl⟩, later⟩ := List.forall_mem_cons.mp held
      obtain ⟨chunks, each, same⟩ := ih later
      refine ⟨chunk :: chunks, List.forall_mem_cons.mpr ⟨⟨major, string⟩, each⟩, ?_⟩
      rw [List.flatten_cons, List.append_assoc, same, spellChunks]
      simp only [List.append_assoc]
  · rintro ⟨chunks, each, rfl⟩
    refine ⟨chunks.map fun chunk => chunk.1.bytes ++ chunk.2, ?_, ?_⟩
    · intro word held
      obtain ⟨chunk, here, rfl⟩ := List.mem_map.mp held
      exact ⟨chunk, (each chunk here).1, (each chunk here).2, rfl⟩
    · congr 1
      clear each
      induction chunks with
      | nil => rfl
      | cons chunk chunks ih => rw [spellChunks, List.map_cons, List.flatten_cons, ih, List.append_assoc]

theorem mem_itemLanguage_succ :
    word ∈ itemLanguage (levels + 1) ↔ ∃ head : Head,
      ∃ content ∈ contentLanguage (itemLanguage levels) head, word = head.bytes ++ content := by
  constructor
  · rintro ⟨item, fits, low, rfl⟩
    refine ⟨item.head, item.body, ?_, item.spell_eq⟩
    cases item with
    | scalar head =>
      rw [contentLanguage, Item.head, show readKind head = .scalar from fits]
      exact Language.nil_mem_one
    | string head content =>
      rw [contentLanguage, Item.head, show readKind head = .string content.length from fits]
      rfl
    | chunked head chunks =>
      rw [contentLanguage, Item.head, fits.1]
      exact mem_upToBreak_chunks.mpr ⟨chunks, fits.2, rfl⟩
    | holder head items =>
      rw [contentLanguage, Item.head, fits.1]
      exact mem_itemLanguage_pow.mpr ⟨items, rfl, fits.2, Nat.le_of_lt_succ low, rfl⟩
    | openHolder head items =>
      obtain ⟨⟨group, opens, divides⟩, held⟩ := fits
      rw [contentLanguage, Item.head, opens]
      exact mem_upToBreak_items.mpr ⟨items, divides, held, Nat.le_of_lt_succ low, rfl⟩
  · rintro ⟨head, content, held, rfl⟩
    unfold contentLanguage at held
    cases opens : readKind head with
    | scalar =>
      rw [opens] at held
      refine ⟨.scalar head, opens, Nat.succ_pos _, ?_⟩
      rw [(Language.mem_one content).mp held, List.append_nil, Item.spell]
    | string length =>
      rw [opens] at held
      cases held
      exact ⟨.string head content, opens, Nat.succ_pos _, rfl⟩
    | chunked =>
      rw [opens] at held
      obtain ⟨chunks, each, rfl⟩ := mem_upToBreak_chunks.mp held
      exact ⟨.chunked head chunks, ⟨opens, each⟩, Nat.succ_pos _, rfl⟩
    | holder count =>
      rw [opens] at held
      obtain ⟨items, rfl, fits, low, rfl⟩ := mem_itemLanguage_pow.mp held
      exact ⟨.holder head items, ⟨opens, fits⟩, Nat.lt_succ_of_le low, rfl⟩
    | openHolder group =>
      rw [opens] at held
      obtain ⟨items, divides, fits, low, rfl⟩ := mem_upToBreak_items.mp held
      exact ⟨.openHolder head items, ⟨⟨group, opens, divides⟩, fits⟩, Nat.lt_succ_of_le low, rfl⟩
    | malformed =>
      rw [opens] at held
      exact held.elim

theorem cborSkipWithin_finds (levels : Nat) :
    Finds [] (cborSkipWithin levels) (itemLanguage levels) := by
  induction levels with
  | zero =>
    refine ⟨fun tail => .inr rfl, ?_⟩
    rintro word rest ⟨item, -, low, -⟩
    exact absurd low (Nat.not_lt_zero _)
  | succ levels ih =>
    have content := skipContent_finds ih (itemLanguage_opens levels)
    constructor
    · intro tail
      rw [List.nil_append, cborSkipWithin]
      obtain ⟨head, rest, rfl⟩ | refused := cborReadItem_ends tail
      · rw [cborReadItem_takes, ok_bind]
        obtain ⟨word, rest', rfl, held, found⟩ | refused := (content head).ends rest
        · refine .inl ⟨head.bytes ++ word, rest', (List.append_assoc _ _ _).symm,
            mem_itemLanguage_succ.mpr ⟨head, word, held, rfl⟩, ?_⟩
          rw [found, List.length_append, List.length_nil, Nat.zero_add]
        · exact .inr refused
      · rw [refused]
        exact .inr rfl
    · intro word rest held
      obtain ⟨head, word', held', rfl⟩ := mem_itemLanguage_succ.mp held
      rw [List.nil_append, cborSkipWithin, List.append_assoc, cborReadItem_takes, ok_bind,
        (content head).takes word' rest held', List.length_append, List.length_nil, Nat.zero_add]

end LibRdp.Channels
