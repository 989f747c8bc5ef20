import LibRdp.Graphics.ZgfxHistory
import LibRdp.Coding.Bits

/-! # The bit codes of RDP8 segments

The code of a token is taken from the table the decoder searches; a reader is
seen as the bits it still has to deliver, followed by the unused bits of the
last byte. The lemmas say of each read that what is spelled first is returned.
-/

namespace LibRdp.Graphics

open Machine Coding Lz77

/-- The reader delivers `bits`, and the bytes then hold `unused` bits more. -/
structure BitReader.Spells (reader : BitReader) (unused : Nat) (bits : List Bool) : Prop where
  cached : reader.cache < 2 ^ reader.cacheBits
  few : reader.cacheBits < 8
  remaining : reader.bitsRemaining = bits.length
  stream : ∃ tail : List Bool, tail.length = unused ∧
    msb reader.cacheBits reader.cache ++ msbBits reader.current = bits ++ tail

theorem fillCache_spells {count : Nat} (small : count ≤ 24) {current : Bytes}
    {cache cacheBits : Nat} (cached : cache < 2 ^ cacheBits) (few : cacheBits < count + 8)
    (enough : count ≤ cacheBits + 8 * current.length) :
    ∃ current' cache' cacheBits', fillCache count current cache cacheBits =
        some (current', cache', cacheBits') ∧ cache' < 2 ^ cacheBits' ∧ count ≤ cacheBits' ∧
      cacheBits' < count + 8 ∧
      msb cacheBits' cache' ++ msbBits current' = msb cacheBits cache ++ msbBits current := by
  induction current generalizing cache cacheBits with
  | nil =>
    simp only [List.length_nil] at enough
    exact ⟨[], cache, cacheBits, by simp [fillCache, show ¬ cacheBits < count by omega], cached,
      by omega, few, rfl⟩
  | cons b current ih =>
    by_cases short : cacheBits < count
    · have narrow : cache < 2 ^ 23 :=
        Nat.lt_of_lt_of_le cached (Nat.pow_le_pow_right (by decide) (by omega))
      have byte := b.toNat_lt
      have shifted : (cache <<< 8 ||| b.toNat) % 2 ^ 32 = cache * 2 ^ 8 + b.toNat := by
        rw [← Nat.shiftLeft_add_eq_or_of_lt byte, Nat.shiftLeft_eq]
        omega
      have wider : cache * 2 ^ 8 + b.toNat < 2 ^ (cacheBits + 8) := by
        rw [Nat.pow_add]
        omega
      have bits : (cacheBits + 8) % 256 = cacheBits + 8 := by omega
      obtain ⟨current', cache', cacheBits', ran, cached', enough', few', same⟩ :=
        ih wider (by omega) (by rw [List.length_cons] at enough; omega)
      refine ⟨current', cache', cacheBits', ?_, cached', enough', few', ?_⟩
      · rw [fillCache, if_pos short, shifted, bits, ran]
      · rw [same, msb_add byte]
        simp [msbBits]
    · exact ⟨b :: current, cache, cacheBits, by simp [fillCache, short], cached, by omega, few, rfl⟩

theorem readBits_spells {reader : BitReader} {unused : Nat} {bits rest : List Bool}
    (spells : reader.Spells unused (bits ++ rest)) (small : bits.length ≤ 24) :
    ∃ reader', readBits reader bits.length = some (ofMsb bits, reader') ∧
      reader'.Spells unused rest := by
  obtain ⟨cached, few, remaining, tail, length, stream⟩ := spells
  have lengths := congrArg List.length stream
  simp only [List.length_append, msb_length, msbBits_length] at lengths remaining
  obtain ⟨current, cache, cacheBits, ran, cached', enough, few', same⟩ :=
    fillCache_spells small cached (by omega)
      (show bits.length ≤ reader.cacheBits + 8 * reader.current.length by omega)
  obtain ⟨k, rfl⟩ : ∃ k, cacheBits = bits.length + k := ⟨cacheBits - bits.length, by omega⟩
  have split : msb (bits.length + k) cache ++ msbBits current = bits ++ (rest ++ tail) := by
    rw [same, stream, List.append_assoc]
  obtain ⟨spare, first, second⟩ : ∃ spare, msb (bits.length + k) cache = bits ++ spare ∧
      spare ++ msbBits current = rest ++ tail := by
    refine ⟨(msb (bits.length + k) cache).drop bits.length, ?_, ?_⟩
    · have front := congrArg (List.take bits.length) split
      rw [List.take_append_of_le_length (by rw [msb_length]; omega), List.take_left] at front
      conv => lhs; rw [← List.take_append_drop bits.length (msb (bits.length + k) cache), front]
    · have back := congrArg (List.drop bits.length) split
      rw [List.drop_append_of_le_length (by rw [msb_length]; omega), List.drop_left] at back
      exact back
  have width : spare.length = k := by
    have := congrArg List.length first
    simp only [List.length_append, msb_length] at this
    omega
  have value : cache = ofMsb bits * 2 ^ k + ofMsb spare := by
    have number := congrArg ofMsb first
    rw [ofMsb_msb, ofMsb_append, Nat.mod_eq_of_lt cached', width] at number
    exact number
  have low : ofMsb spare < 2 ^ k := width ▸ ofMsb_lt spare
  have high : cache >>> k = ofMsb bits := by
    rw [Nat.shiftRight_eq_div_pow, value, Nat.mul_comm, Nat.mul_add_div (Nat.two_pow_pos k),
      Nat.div_eq_of_lt low, Nat.add_zero]
  have masked : cache &&& (if k = 0 then 0 else 1 <<< k - 1) = ofMsb spare := by
    have mask : (if k = 0 then 0 else 1 <<< k - 1) = 2 ^ k - 1 := by
      split
      · next none_ => simp [none_]
      · rw [Nat.one_shiftLeft]
    rw [mask, Nat.and_two_pow_sub_one_eq_mod, value, Nat.mul_comm, Nat.mul_add_mod,
      Nat.mod_eq_of_lt low]
  refine ⟨⟨current, reader.bitsRemaining - bits.length, ofMsb spare, k⟩, ?_, low, by simp only; omega, ?_,
    tail,
    length, ?_⟩
  · rw [readBits, if_neg (by omega), ran]
    simp only [Option.bind_eq_bind, Option.bind_some, Nat.add_sub_cancel_left, high, masked]
    rfl
  · simp only
    omega
  · rw [← second]
    congr 1
    rw [← width, msb_ofMsb]

section Reading

variable {reader : BitReader} {unused : Nat} {rest : List Bool}

variable {v extra : Nat} {bits : List Bool} {token : GraphicsToken}

theorem readBits_number {n : Nat} (spells : reader.Spells unused (msb n v ++ rest))
    (width : n ≤ 24) (small : v < 2 ^ n) :
    ∃ reader', readBits reader n = some (v, reader') ∧ reader'.Spells unused rest := by
  have read := readBits_spells spells (by rw [msb_length]; exact width)
  rwa [msb_length, ofMsb_msb, Nat.mod_eq_of_lt small] at read

theorem readPrefix_spells {code : Nat} (spells : reader.Spells unused (bits ++ rest))
    (fits : code * 2 ^ bits.length + ofMsb bits < 65536) :
    ∃ reader', readPrefix bits.length code reader =
        some (code * 2 ^ bits.length + ofMsb bits, reader') ∧ reader'.Spells unused rest := by
  induction bits generalizing code reader with
  | nil => exact ⟨reader, by simp [readPrefix, ofMsb], spells⟩
  | cons b bits ih =>
    have whole : code * 2 ^ (b :: bits).length + ofMsb (b :: bits) =
        (2 * code + b.toNat) * 2 ^ bits.length + ofMsb bits := by
      rw [ofMsb_cons, List.length_cons, Nat.pow_succ]
      ring
    have bound : 2 * code + b.toNat < 65536 := by
      have : 2 * code + b.toNat ≤ (2 * code + b.toNat) * 2 ^ bits.length :=
        Nat.le_mul_of_pos_right _ (Nat.two_pow_pos _)
      omega
    have one : ([b] : List Bool).length ≤ 24 := by simp
    obtain ⟨reader₁, read, spells₁⟩ := readBits_spells
      (show reader.Spells unused ([b] ++ (bits ++ rest)) from spells) one
    have bit : ofMsb [b] = b.toNat := by simp [ofMsb]
    have appended : (code <<< 1 ||| b.toNat) % 65536 = 2 * code + b.toNat := by
      have low : b.toNat < 2 ^ 1 := by cases b <;> decide
      rw [← Nat.shiftLeft_add_eq_or_of_lt low, Nat.shiftLeft_eq, Nat.pow_one, Nat.mul_comm]
      exact Nat.mod_eq_of_lt bound
    obtain ⟨reader₂, ran, spells₂⟩ := ih spells₁ (whole ▸ fits)
    refine ⟨reader₂, ?_, spells₂⟩
    rw [bit] at read
    rw [whole, List.length_cons, readPrefix]
    simp only [List.length_cons, List.length_nil] at read
    simp only [read, Option.bind_eq_bind, Option.bind_some, appended, ran]

def GraphicsToken.code (token : GraphicsToken) : List Bool := msb token.prefixLength token.prefixCode

/-- The search passes every entry before `token`: none is longer, and none is a prefix of its
    code. -/
def Selects (token : GraphicsToken) : List GraphicsToken → Nat → Bool
  | [], _ => false
  | entry :: entries, codeBits =>
      codeBits ≤ entry.prefixLength && entry.prefixLength ≤ token.prefixLength &&
        (if entry = token then token.prefixCode < 2 ^ token.prefixLength
        else ofMsb (token.code.take entry.prefixLength) != entry.prefixCode &&
          Selects token entries entry.prefixLength)

theorem graphicsTokens_select : ∀ token ∈ graphicsTokens, Selects token graphicsTokens 0 = true ∧
    token.prefixLength ≤ 8 := by decide

theorem findToken_selects {entries : List GraphicsToken} {codeBits : Nat}
    (selected : Selects token entries codeBits = true) (short : token.prefixLength ≤ 8)
    (spells : reader.Spells unused (token.code.drop codeBits ++ rest)) :
    ∃ reader', findToken entries (ofMsb (token.code.take codeBits)) codeBits reader =
        some (token, reader') ∧ reader'.Spells unused rest := by
  induction entries generalizing codeBits reader with
  | nil => cases selected
  | cons entry entries ih =>
    simp only [Selects, Bool.and_eq_true, decide_eq_true_eq] at selected
    obtain ⟨⟨longer, within⟩, selected⟩ := selected
    have width : token.code.length = token.prefixLength := msb_length _ _
    -- The bits read for this entry, and the code they complete.
    obtain ⟨bits, taken⟩ : ∃ bits, bits =
        (token.code.drop codeBits).take (entry.prefixLength - codeBits) := ⟨_, rfl⟩
    have count : bits.length = entry.prefixLength - codeBits := by
      rw [taken, List.length_take, List.length_drop, width]
      omega
    have joined : token.code.take codeBits ++ bits = token.code.take entry.prefixLength := by
      rw [taken, ← List.take_add]
      congr 1
      omega
    have remaining : token.code.drop codeBits = bits ++ token.code.drop entry.prefixLength := by
      rw [taken, show entry.prefixLength = codeBits + (entry.prefixLength - codeBits) by omega,
        ← List.drop_drop, Nat.add_sub_cancel_left, List.take_append_drop]
    have value : ofMsb (token.code.take codeBits) * 2 ^ bits.length + ofMsb bits =
        ofMsb (token.code.take entry.prefixLength) := by
      rw [← ofMsb_append, joined]
    have fits : ofMsb (token.code.take codeBits) * 2 ^ bits.length + ofMsb bits < 65536 := by
      rw [value]
      have bound := ofMsb_lt (token.code.take entry.prefixLength)
      have narrow : 2 ^ (token.code.take entry.prefixLength).length ≤ 2 ^ 8 := by
        refine Nat.pow_le_pow_right (by decide) ?_
        rw [List.length_take]
        omega
      omega
    rw [remaining, List.append_assoc] at spells
    obtain ⟨reader₁, read, spells₁⟩ := readPrefix_spells spells fits
    rw [value, count] at read
    by_cases found : entry = token
    · subst found
      rw [if_pos rfl, decide_eq_true_eq] at selected
      have whole : ofMsb (entry.code.take entry.prefixLength) = entry.prefixCode := by
        rw [List.take_of_length_le (by omega), GraphicsToken.code, ofMsb_msb,
          Nat.mod_eq_of_lt selected]
      rw [List.drop_of_length_le (by omega), List.nil_append] at spells₁
      refine ⟨reader₁, ?_, spells₁⟩
      simp [findToken, read, whole]
    rw [if_neg found, Bool.and_eq_true, bne_iff_ne] at selected
    obtain ⟨differs, later⟩ := selected
    obtain ⟨reader₂, ran, spells₂⟩ := ih later spells₁
    refine ⟨reader₂, ?_, spells₂⟩
    simp only [findToken, read, Option.bind_eq_bind, Option.bind_some, if_neg differs]
    rw [Nat.max_eq_right longer, ran]

def GraphicsToken.spell (token : GraphicsToken) (v : Nat) : List Bool :=
  token.code ++ msb token.valueBits (v - token.valueBase)

theorem findToken_spell (listed : token ∈ graphicsTokens) (low : token.valueBase ≤ v)
    (high : v < token.valueBase + 2 ^ token.valueBits)
    (spells : reader.Spells unused (token.spell v ++ rest)) :
    ∃ reader₁ reader₂, findToken graphicsTokens 0 0 reader = some (token, reader₁) ∧
      readValue token reader₁ = some (v, reader₂) ∧ reader₂.Spells unused rest := by
  obtain ⟨selected, short⟩ := graphicsTokens_select token listed
  have width : ∀ token ∈ graphicsTokens, token.valueBits ≤ 24 := by decide
  rw [GraphicsToken.spell, List.append_assoc] at spells
  obtain ⟨reader₁, found, spells₁⟩ := findToken_selects selected short
    (show reader.Spells unused (token.code.drop 0 ++ _) from spells)
  have none_ : ofMsb (token.code.take 0) = 0 := by simp [ofMsb]
  rw [none_] at found
  by_cases valued : token.valueBits > 0
  · obtain ⟨reader₂, read, spells₂⟩ := readBits_number spells₁ (width token listed)
      (show v - token.valueBase < 2 ^ token.valueBits by omega)
    refine ⟨reader₁, reader₂, found, ?_, spells₂⟩
    simp only [readValue, if_pos valued, read, Option.bind_eq_bind, Option.bind_some]
    simp only [pure, Option.some.injEq, Prod.mk.injEq, and_true]
    omega
  have noBits : token.valueBits = 0 := by omega
  rw [noBits, Nat.pow_zero] at high
  rw [noBits, msb, List.nil_append] at spells₁
  refine ⟨reader₁, reader₁, found, ?_, spells₁⟩
  rw [readValue, if_neg valued]
  congr 2
  omega

/-- Classes of doubling width: `extra` bits from `2 ^ extra` on, then one bit more, and so on. -/
def doublingClasses : Nat → Nat → List (Nat × Nat)
  | 0, extra => [(extra, 2 ^ extra)]
  | left + 1, extra => (extra, 2 ^ extra) :: doublingClasses left (extra + 1)

/-- Three alone, then 4 to 7 with two bits, up to 32768 to 65535 with fifteen. -/
def lengthClasses : List (Nat × Nat) := (0, 3) :: doublingClasses 13 2

def lengthCode : Nat → List Bool := prefixedCode lengthClasses

private theorem lengthLoop_class {left : Nat} (width : extra ≤ 24) (low : 2 ^ extra ≤ v)
    (high : v < 2 ^ extra + 2 ^ extra)
    (spells : reader.Spells unused (false :: msb extra (v - 2 ^ extra) ++ rest)) :
    ∃ reader', lengthLoop left (2 ^ extra) extra reader = some (v, reader') ∧
      reader'.Spells unused rest := by
  have first : reader.Spells unused (msb 1 0 ++ (msb extra (v - 2 ^ extra) ++ rest)) := spells
  obtain ⟨reader₁, read, spells₁⟩ := readBits_number first (by decide) (by decide)
  obtain ⟨reader₂, read₂, spells₂⟩ := readBits_number spells₁ width (by omega)
  refine ⟨reader₂, ?_, spells₂⟩
  unfold lengthLoop
  simp only [read, Option.bind_eq_bind, Option.bind_some, if_pos, read₂]
  simp only [pure, Option.some.injEq, Prod.mk.injEq, and_true]
  omega

theorem lengthLoop_spells {left : Nat} (width : extra + left ≤ 24) (low : 2 ^ extra ≤ v)
    (high : v < 2 ^ (extra + left + 1))
    (spells : reader.Spells unused (prefixedCode (doublingClasses left extra) v ++ rest)) :
    ∃ reader', lengthLoop left (2 ^ extra) extra reader = some (v, reader') ∧
      reader'.Spells unused rest := by
  have double : 2 ^ (extra + 1) = 2 ^ extra + 2 ^ extra := by
    rw [Nat.pow_succ]
    omega
  induction left generalizing extra reader with
  | zero =>
    rw [Nat.add_zero, double] at high
    rw [doublingClasses, prefixedCode, if_pos high] at spells
    exact lengthLoop_class width low high spells
  | succ left ih =>
    by_cases here : v < 2 ^ extra + 2 ^ extra
    · rw [doublingClasses, prefixedCode, if_pos here] at spells
      exact lengthLoop_class (by omega) low here spells
    rw [doublingClasses, prefixedCode, if_neg here] at spells
    have first : reader.Spells unused
      (msb 1 1 ++ (prefixedCode (doublingClasses left (extra + 1)) v ++ rest)) := spells
    obtain ⟨reader₁, read, spells₁⟩ := readBits_number first (by decide) (by decide)
    obtain ⟨reader₂, ran, spells₂⟩ := ih (show extra + 1 + left ≤ 24 by omega)
      (by omega) (by rwa [show extra + 1 + left + 1 = extra + (left + 1) + 1 by omega]) spells₁
      (by rw [Nat.pow_succ]; omega)
    refine ⟨reader₂, ?_, spells₂⟩
    unfold lengthLoop
    simp only [read, Option.bind_eq_bind, Option.bind_some]
    rw [if_neg (by decide), ← Nat.pow_succ]
    exact ran

theorem readBit_spells (b : Bool) (spells : reader.Spells unused (b :: rest)) :
    ∃ reader', readBits reader 1 = some (b.toNat, reader') ∧ reader'.Spells unused rest := by
  have one : ([b] : List Bool).length ≤ 24 := by simp
  obtain ⟨reader', read, spells'⟩ := readBits_spells
    (show reader.Spells unused ([b] ++ rest) from spells) one
  refine ⟨reader', ?_, spells'⟩
  simpa [ofMsb] using read

private theorem readLength_eq (reader : BitReader) : readLength reader = (readBits reader 1).bind
    (fun p => if p.1 = 0 then some (3, p.2) else lengthLoop 13 4 2 p.2) := rfl

theorem readLength_spells (low : 3 ≤ v) (high : v ≤ 65535)
    (spells : reader.Spells unused (lengthCode v ++ rest)) :
    ∃ reader', readLength reader = some (v, reader') ∧ reader'.Spells unused rest := by
  obtain ⟨classes, named⟩ : ∃ classes, classes = doublingClasses 13 2 := ⟨_, rfl⟩
  rw [lengthCode, lengthClasses, ← named, prefixedCode] at spells
  by_cases three : v < 3 + 2 ^ 0
  · rw [if_pos three, msb, List.cons_append, List.nil_append] at spells
    obtain ⟨reader₁, read, spells₁⟩ := readBit_spells false spells
    refine ⟨reader₁, ?_, spells₁⟩
    obtain rfl : v = 3 := by omega
    rw [readLength_eq, read, Option.bind_some, if_pos (show false.toNat = 0 from rfl)]
  rw [if_neg three, List.cons_append] at spells
  obtain ⟨reader₁, read, spells₁⟩ := readBit_spells true spells
  rw [named] at spells₁
  have fits : v < 2 ^ (2 + 13 + 1) := by omega
  obtain ⟨reader₂, ran, spells₂⟩ := lengthLoop_spells (by omega) (by omega) fits spells₁
  have four : (2 : Nat) ^ 2 = 4 := rfl
  rw [four] at ran
  refine ⟨reader₂, ?_, spells₂⟩
  rw [readLength_eq, read, Option.bind_some, if_neg (show true.toNat ≠ 0 by decide), ran]

theorem BitReader.Spells.cacheBits_eq (spells : reader.Spells unused bits) :
    reader.cacheBits = (bits.length + unused) % 8 := by
  obtain ⟨-, few, -, tail, length, stream⟩ := spells
  have lengths := congrArg List.length stream
  simp only [List.length_append, msb_length, msbBits_length] at lengths
  omega

theorem BitReader.Spells.aligned {padding : List Bool} {bytes : Bytes}
    (spells : reader.Spells unused (padding ++ (msbBits bytes ++ rest)))
    (toByte : padding.length = reader.cacheBits) :
    ∃ current, reader.current = bytes ++ current ∧
      BitReader.Spells ⟨current, rest.length, 0, 0⟩ unused rest := by
  obtain ⟨-, -, -, tail, length, stream⟩ := spells
  rw [List.append_assoc, List.append_assoc] at stream
  obtain ⟨-, whole⟩ := List.append_inj stream (by rw [msb_length, toByte])
  obtain ⟨current, split, left⟩ := msbBits_eq_append whole
  exact ⟨current, split, Nat.two_pow_pos 0, Nat.succ_pos 7, rfl, tail, length, left⟩

end Reading

end LibRdp.Graphics
