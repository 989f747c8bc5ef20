import LibRdp.Bulk.Mppc
import LibRdp.Coding.Codec
import LibRdp.Coding.Lz77

/-! # MPPC bit codes

The bit strings of literals, match offsets and match lengths, and that the
reading functions of the decompressor invert them at both levels. A token is
read in either direction: every prefix the decoder accepts is the code of one
token, and the code of every encodable token is accepted.
-/

namespace LibRdp.Bulk

open Machine Coding

def BitReader.bits (reader : BitReader) : List Bool :=
  if reader.data.length > sizeMax / 8 then [] else (msbBits reader.data).drop reader.bit

def bitView : View BitReader := ⟨fun _ => True, BitReader.bits⟩

def BitReader.advance (reader : BitReader) (n : Nat) : BitReader :=
  { reader with bit := reader.bit + n }

@[simp] theorem bits_length (reader : BitReader) : reader.bits.length = reader.bitsRemaining := by
  simp only [BitReader.bits, BitReader.bitsRemaining]
  split
  · rfl
  · rw [List.length_drop, msbBits_length]
    split <;> omega

@[simp] theorem advance_bits (reader : BitReader) (n : Nat) :
    (reader.advance n).bits = reader.bits.drop n := by
  by_cases long : reader.data.length > sizeMax / 8
  · simp [BitReader.bits, BitReader.advance, long]
  · simp [BitReader.bits, BitReader.advance, long, List.drop_drop]

private theorem current_eq {reader : BitReader} {b : Bool} {rest : List Bool}
    (here : reader.bits = b :: rest) : reader.current = b.toNat := by
  have short : ¬ reader.data.length > sizeMax / 8 := by
    intro long
    simp [BitReader.bits, long] at here
  rw [BitReader.bits, if_neg short] at here
  have inside : reader.bit < 8 * reader.data.length := by
    have := congrArg List.length here
    simp at this
    omega
  have head : (msbBits reader.data)[reader.bit]? = some b := by
    have := congrArg List.head? here
    rwa [List.head?_drop, List.head?_cons] at this
  rw [msbBits_getElem? _ inside, Option.some.injEq] at head
  rw [BitReader.current, ← head, Nat.toNat_testBit, Nat.and_one_is_mod,
    Nat.shiftRight_eq_div_pow]

private theorem readBitsLoop_eq (n acc : Nat) (reader : BitReader)
    (enough : n ≤ reader.bits.length) :
    readBitsLoop n acc reader = (acc * 2 ^ n + ofMsb (reader.bits.take n), reader.advance n) := by
  induction n generalizing acc reader with
  | zero => simp [readBitsLoop, ofMsb, BitReader.advance]
  | succ n ih =>
    obtain ⟨b, rest, here⟩ : ∃ b rest, reader.bits = b :: rest :=
      List.exists_cons_of_length_pos (by omega)
    have tail : (reader.advance 1).bits = rest := by simp [here]
    have shifted : acc <<< 1 ||| b.toNat = 2 * acc + b.toNat := by
      rw [← Nat.shiftLeft_add_eq_or_of_lt (by cases b <;> simp), Nat.shiftLeft_eq]
      omega
    have rec_ := ih (2 * acc + b.toNat) (reader.advance 1)
      (by rw [tail]; rw [here, List.length_cons] at enough; omega)
    rw [readBitsLoop, current_eq here, shifted]
    simp only [BitReader.advance] at rec_ ⊢
    rw [rec_]
    simp only [BitReader.advance] at tail
    rw [tail, here, List.take_succ_cons, ofMsb_cons]
    have len : (rest.take n).length = n := by
      rw [List.length_take]
      rw [here, List.length_cons] at enough
      omega
    rw [len]
    simp only [Prod.mk.injEq]
    refine ⟨by ring, ?_⟩
    congr 1
    omega

theorem readBits_codec {n : Nat} (small : n ≤ 31) :
    Codec bitView (fun r => readBits r n) (msb n) (· < 2 ^ n) where
  sound {r a r'} _ run := by
    simp only [readBits] at run
    split at run
    · cases run
    next cond =>
      have enough : n ≤ r.bits.length := by
        rw [bits_length]
        omega
      rw [readBitsLoop_eq _ _ _ enough] at run
      simp only [Nat.zero_mul, Nat.zero_add, Option.some.injEq, Prod.mk.injEq] at run
      obtain ⟨rfl, rfl⟩ := run
      have len : (r.bits.take n).length = n := by simpa using enough
      have low := ofMsb_lt (r.bits.take n)
      have spelled := msb_ofMsb (r.bits.take n)
      rw [len] at low spelled
      refine ⟨trivial, low, ?_⟩
      simp only [bitView, advance_bits, spelled, List.take_append_drop]
  complete {r a rest} _ low spelled := by
    have enough : n ≤ r.bits.length := by
      simp only [bitView] at spelled
      rw [spelled]
      simp
    refine ⟨r.advance n, ?_, trivial, ?_⟩
    · simp only [readBits]
      rw [if_neg (by rw [← bits_length]; omega), readBitsLoop_eq _ _ _ enough]
      simp only [bitView] at spelled
      have front : (msb n a ++ rest).take n = msb n a := List.take_left' (msb_length n a)
      rw [spelled, front, ofMsb_msb, Nat.mod_eq_of_lt low]
      simp
    · simp only [bitView, advance_bits] at spelled ⊢
      rw [spelled, List.drop_left' (msb_length n a)]

theorem readBits_advance {n v : Nat} {r r' : BitReader} (run : readBits r n = some (v, r')) :
    r' = r.advance n := by
  simp only [readBits] at run
  split at run
  · cases run
  rw [readBitsLoop_eq _ _ _ (by rw [bits_length]; omega)] at run
  cases run
  rfl

theorem readBit_codec : Codec bitView (fun r => readBits r 1) (msb 1) (· < 2) :=
  readBits_codec (by omega)

/-- The code of a match offset: the class prefix, then the offset within the class. -/
def offsetCode : MppcLevel → Nat → List Bool
  | .k8, v =>
      if v < 64 then [true, true, true, true] ++ msb 6 v
      else if v < 320 then [true, true, true, false] ++ msb 8 (v - 64)
      else [true, true, false] ++ msb 13 (v - 320)
  | .k64, v =>
      if v < 64 then [true, true, true, true, true] ++ msb 6 v
      else if v < 320 then [true, true, true, true, false] ++ msb 8 (v - 64)
      else if v < 2368 then [true, true, true, false] ++ msb 11 (v - 320)
      else [true, true, false] ++ msb 16 (v - 2368)

def offsetLimit : MppcLevel → Nat
  | .k8 => 8512
  | .k64 => 67904

theorem readBased_codec (offsetClass : Nat × Nat) (small : offsetClass.1 ≤ 31) :
    Codec bitView (fun r => readBased r offsetClass) (fun v => msb offsetClass.1 (v - offsetClass.2))
      (fun v => offsetClass.2 ≤ v ∧ v - offsetClass.2 < 2 ^ offsetClass.1) :=
  (readBits_codec small).base offsetClass.2 (fun _ => rfl)

/-- What `rdp_bulk_mppc_read_offset` reads after the two leading ones. -/
def readOffsetTail (level : MppcLevel) (reader : BitReader) : Option (Nat × BitReader) := do
  let (bit, reader) ← readBits reader 1
  if bit = 0 then readBased reader (longOffset level)
  else
    let (bit, reader) ← readBits reader 1
    if bit = 0 then readBased reader (middleOffset level)
    else match level with
      | .k64 => do
          let (bit, reader) ← readBits reader 1
          if bit = 0 then readBased reader (8, 64) else readBits reader 6
      | .k8 => readBits reader 6

private theorem sixBits_codec : Codec bitView (fun r => readBits r 6) (msb 6) (· < 64) :=
  readBits_codec (by omega)

private theorem nearOffset_codec : Codec bitView
    (fun r => (readBits r 1).bind
      (fun p => if p.1 = 0 then readBased p.2 (8, 64) else readBits p.2 6))
    (fun v => if 64 ≤ v then false :: msb 8 (v - 64) else true :: msb 6 v)
    (fun v => (64 ≤ v ∧ v - 64 < 2 ^ 8) ∨ v < 64) :=
  .branch (64 ≤ ·) readBit_codec (readBased_codec (8, 64) (by decide)) sixBits_codec
    (fun _ ok => ok.1) (fun _ ok => by omega) (fun _ => rfl)

private theorem tail8k_codec : Codec bitView (readOffsetTail .k8)
    (fun v => (offsetCode .k8 v).drop 2) (· < offsetLimit .k8) := by
  have long := readBased_codec (longOffset .k8) (by decide)
  refine (Codec.branch (320 ≤ ·) readBit_codec long nearOffset_codec
    (fun _ ok => ok.1) ?_ (fun _ => rfl)).congr ?_ ?_
  · intro v ok
    omega
  · intro v
    simp only [longOffset, offsetLimit]
    omega
  · intro v _
    simp only [offsetCode, longOffset]
    grind

private theorem tail64k_codec : Codec bitView (readOffsetTail .k64)
    (fun v => (offsetCode .k64 v).drop 2) (· < offsetLimit .k64) := by
  have short := Codec.branch (320 ≤ ·) readBit_codec
    (readBased_codec (middleOffset .k64) (by decide)) nearOffset_codec (fun _ ok => ok.1)
    (by intro v ok; omega) (fun _ => rfl)
  have long := readBased_codec (longOffset .k64) (by decide)
  refine (Codec.branch (2368 ≤ ·) readBit_codec long short
    (fun _ ok => ok.1) ?_ (fun _ => rfl)).congr ?_ ?_
  · intro v ok
    simp only [middleOffset] at ok
    omega
  · intro v
    simp only [longOffset, middleOffset, offsetLimit]
    omega
  · intro v _
    simp only [offsetCode, longOffset, middleOffset]
    grind

private theorem readOffset_eq (level : MppcLevel) (reader : BitReader) :
    mppcReadOffset reader level = (readBits reader 1).bind (fun p => (readBits p.2 1).bind
      (fun q => if p.1 ≠ 1 ∨ q.1 ≠ 1 then none else readOffsetTail level q.2)) := rfl

theorem offsetCode_head (level : MppcLevel) (v : Nat) :
    offsetCode level v = [true, true] ++ (offsetCode level v).drop 2 := by
  cases level <;> simp only [offsetCode] <;> grind

theorem readOffset_codec (level : MppcLevel) :
    Codec bitView (fun r => mppcReadOffset r level) (offsetCode level) (· < offsetLimit level) := by
  have tail : Codec bitView (readOffsetTail level) (fun v => (offsetCode level v).drop 2)
      (· < offsetLimit level) := by
    cases level with
    | k8 => exact tail8k_codec
    | k64 => exact tail64k_codec
  constructor
  · intro r a r' wf run
    rw [readOffset_eq, Option.bind_eq_some_iff] at run
    obtain ⟨⟨first, r₁⟩, got₁, run⟩ := run
    rw [Option.bind_eq_some_iff] at run
    obtain ⟨⟨second, r₂⟩, got₂, run⟩ := run
    obtain ⟨wf₁, -, spelled₁⟩ := readBit_codec.sound wf got₁
    obtain ⟨wf₂, -, spelled₂⟩ := readBit_codec.sound wf₁ got₂
    split at run
    · cases run
    next ones =>
      obtain ⟨rfl, rfl⟩ : first = 1 ∧ second = 1 := by omega
      obtain ⟨wf', ok, spelled⟩ := tail.sound wf₂ run
      refine ⟨wf', ok, ?_⟩
      rw [spelled₁, spelled₂, spelled, offsetCode_head]
      rfl
  · intro r a rest wf ok spelled
    rw [offsetCode_head, List.append_assoc] at spelled
    obtain ⟨r₁, got₁, wf₁, left₁⟩ := readBit_codec.complete (a := 1) wf (by omega) spelled
    obtain ⟨r₂, got₂, wf₂, left₂⟩ := readBit_codec.complete (a := 1) wf₁ (by omega) left₁
    obtain ⟨r', run, wf', left⟩ := tail.complete wf₂ ok left₂
    refine ⟨r', ?_, wf', left⟩
    rw [readOffset_eq, got₁, Option.bind_some, got₂, Option.bind_some, if_neg (by omega)]
    exact run

/-- Classes that follow one another without a gap from `low` up to `high`. -/
def Contiguous : Nat → Nat → List (Nat × Nat) → Prop
  | low, high, [] => low = high
  | low, high, (valueBits, base) :: classes =>
      base = low ∧ valueBits ≤ 31 ∧ Contiguous (base + 2 ^ valueBits) high classes

variable {classes : List (Nat × Nat)}

private theorem Contiguous.le {low high : Nat} (h : Contiguous low high classes) : low ≤ high := by
  induction classes generalizing low with
  | nil => exact Nat.le_of_eq h
  | cons c classes ih =>
    obtain ⟨rfl, _, rest⟩ := h
    have := ih rest
    have := Nat.two_pow_pos c.1
    omega

private theorem readValue_codec (valueBits base : Nat) (small : valueBits ≤ 31) :
    Codec bitView
      (fun r => if valueBits > 0 then (readBits r valueBits).bind (fun p => some (base + p.1, p.2))
        else some (base, r))
      (fun v => msb valueBits (v - base)) (fun v => base ≤ v ∧ v - base < 2 ^ valueBits) := by
  by_cases some_ : valueBits > 0
  · refine (readBits_codec small).base base ?_
    intro r
    rw [if_pos some_]
  obtain rfl : valueBits = 0 := by omega
  constructor
  · intro r a r' wf run
    obtain ⟨rfl, rfl⟩ : base = a ∧ r = r' := by simpa using run
    exact ⟨wf, by simp, by simp [msb]⟩
  · intro r a rest wf ok spelled
    refine ⟨r, ?_, wf, by simpa [msb] using spelled⟩
    have : a = base := by omega
    simp [this]

theorem readPrefixedValue_codec {low high : Nat} (chain : Contiguous low high classes) :
    Codec bitView (readPrefixedValue classes) (prefixedCode classes)
      (fun v => low ≤ v ∧ v < high) := by
  induction classes generalizing low with
  | nil =>
    constructor
    · intro r a r' _ run
      cases run
    · intro r a rest _ ok _
      simp only [Contiguous] at chain
      omega
  | cons c classes ih =>
    obtain ⟨rfl, small, rest⟩ := chain
    have grows := rest.le
    have positive := Nat.two_pow_pos c.1
    have value := readValue_codec c.1 c.2 small
    have later := ih rest
    have eqn : ∀ r, readPrefixedValue (c :: classes) r = (readBits r 1).bind (fun p =>
        if p.1 = 0 then
          if c.1 > 0 then (readBits p.2 c.1).bind (fun q => some (c.2 + q.1, q.2))
          else some (c.2, p.2)
        else readPrefixedValue classes p.2) := by
      intro r
      rw [readPrefixedValue]
      cases got : readBits r 1 with
      | none => rfl
      | some p =>
        obtain ⟨bit, r₁⟩ := p
        have small := (readBit_codec.sound trivial got).2.1
        obtain rfl | rfl : bit = 0 ∨ bit = 1 := by omega
        · rfl
        · rfl
    have select := Codec.branch (· < c.2 + 2 ^ c.1) readBit_codec value later
      (fun v ok => by omega) (fun v ok => by omega) eqn
    refine select.congr ?_ ?_
    · intro v
      constructor
      · omega
      · omega
    · intro v _
      rfl


def lengthLimit : MppcLevel → Nat
  | .k8 => 8192
  | .k64 => 65536

def lengthCode (level : MppcLevel) : Nat → List Bool := prefixedCode (lengthClasses level)

theorem readLength_codec (level : MppcLevel) :
    Codec bitView (fun r => mppcReadLength r level) (lengthCode level)
      (fun v => 3 ≤ v ∧ v < lengthLimit level) := by
  cases level with
  | k8 =>
    exact readPrefixedValue_codec
      (by simp [lengthClasses, lengthClassesCommon, Contiguous, lengthLimit])
  | k64 =>
    exact readPrefixedValue_codec
      (by simp [lengthClasses, lengthClasses64k, Contiguous, lengthLimit])

abbrev Token := Lz77.Token UInt8

def literalCode (b : UInt8) : List Bool :=
  if b.toNat < 0x80 then false :: msb 7 b.toNat else true :: false :: msb 7 (b.toNat - 0x80)

def tokenCode (level : MppcLevel) : Token → List Bool
  | .literal b => literalCode b
  | .copy offset length => offsetCode level offset ++ lengthCode level length

def encodeTokens (level : MppcLevel) (tokens : List Token) : List Bool :=
  tokens.flatMap (tokenCode level)

def Encodable (level : MppcLevel) : Token → Prop
  | .literal _ => True
  | .copy offset length => offset < offsetLimit level ∧ 3 ≤ length ∧ length < lengthLimit level

@[simp] theorem encodeTokens_nil (level : MppcLevel) : encodeTokens level [] = [] := rfl

@[simp] theorem encodeTokens_cons (level : MppcLevel) (t : Token) (tokens : List Token) :
    encodeTokens level (t :: tokens) = tokenCode level t ++ encodeTokens level tokens := rfl

theorem tokenCode_length (level : MppcLevel) (t : Token) : 8 ≤ (tokenCode level t).length := by
  cases t with
  | literal b =>
    simp only [tokenCode, literalCode]
    split <;> simp
  | copy offset length =>
    simp only [tokenCode, List.length_append]
    cases level with
    | k8 =>
      simp only [offsetCode]
      split
      · simp; omega
      · split <;> simp <;> omega
    | k64 =>
      simp only [offsetCode]
      split
      · simp; omega
      split
      · simp; omega
      · split <;> simp <;> omega

end LibRdp.Bulk
