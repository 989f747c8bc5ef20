import LibRdp.Bulk.Rdp6Table

/-! # RDP6 bit codes

A packet spells tokens: a symbol of the literal-and-offset code, extra offset
bits for a new match, and for every match a symbol of the length code with its
extra bits. Lengths have several spellings, so spelling is a relation. Reading
a token depends on the packet alone; it returns what is spelled first, and it
misses a spelled token only when fewer bits are left than a table lookup needs.
-/

namespace LibRdp.Bulk

open Machine Coding

def Rdp6BitReader.stream (reader : Rdp6BitReader) : List Bool :=
  lsb reader.bitCount reader.bits ++ lsbBits reader.rest

def Rdp6BitReader.Clean (reader : Rdp6BitReader) : Prop := reader.bits < 2 ^ reader.bitCount

variable {data : Bytes} {n : Nat} {rest : List Bool}

theorem readerInit_eq (long : 4 ≤ data.length) :
    ∃ reader, rdp6ReaderInit data = .ok reader ∧ reader.Clean ∧ reader.stream = lsbBits data := by
  obtain _ | ⟨b0, _ | ⟨b1, _ | ⟨b2, _ | ⟨b3, rest⟩⟩⟩⟩ := data
  all_goals try (simp at long; done)
  refine ⟨⟨rest, u32Le b0 b1 b2 b3, 32⟩, rfl, ?_, ?_⟩
  · have := b0.toNat_lt
    have := b1.toNat_lt
    have := b2.toNat_lt
    have := b3.toNat_lt
    simp only [Rdp6BitReader.Clean, u32Le]
    omega
  · have whole : lsb 32 (u32Le b0 b1 b2 b3) =
        lsb 8 b0.toNat ++ (lsb 8 b1.toNat ++ (lsb 8 b2.toNat ++ lsb 8 b3.toNat)) := by
      rw [← lsb_add b2.toNat_lt, ← lsb_add b1.toNat_lt, ← lsb_add b0.toNat_lt, u32Le]
      congr 1
      ring
    simp [Rdp6BitReader.stream, whole, lsbBits]

theorem readerInit_short (short : data.length < 4) :
    rdp6ReaderInit data = .error .protocolError := by
  obtain _ | ⟨b0, _ | ⟨b1, _ | ⟨b2, _ | ⟨b3, rest⟩⟩⟩⟩ := data
  · rfl
  · rfl
  · rfl
  · rfl
  · simp only [List.length_cons] at short
    omega

theorem refill_eq (count : Nat) (rest : Bytes) {bits bitCount : Nat} (clean : bits < 2 ^ bitCount) :
    (refill count rest bits bitCount).Clean ∧
      (refill count rest bits bitCount).stream = lsb bitCount bits ++ lsbBits rest ∧
      (count ≤ (refill count rest bits bitCount).bitCount ∨
        (refill count rest bits bitCount).rest = []) := by
  induction rest generalizing bits bitCount with
  | nil => exact ⟨clean, rfl, .inr rfl⟩
  | cons b rest ih =>
    rw [refill]
    split
    · have joined : bits ||| b.toNat <<< bitCount = bits + 2 ^ bitCount * b.toNat := by
        rw [Nat.lor_comm, ← Nat.shiftLeft_add_eq_or_of_lt clean, Nat.shiftLeft_eq]
        ring
      have fits : bits + 2 ^ bitCount * b.toNat < 2 ^ (bitCount + 8) := by
        have := Nat.mul_le_mul_left (2 ^ bitCount) (show b.toNat + 1 ≤ 2 ^ 8 from b.toNat_lt)
        rw [Nat.mul_add] at this
        rw [Nat.pow_add]
        omega
      rw [joined]
      obtain ⟨clean', stream, deep⟩ := ih fits
      refine ⟨clean', ?_, deep⟩
      rw [stream, lsb_add clean, List.append_assoc]
      rfl
    · next deep => exact ⟨clean, rfl, .inl (Nat.le_of_not_lt deep)⟩

variable {reader : Rdp6BitReader}

theorem readerEnsure_eq (clean : reader.Clean) {count : Nat} (small : count ≤ 32) :
    if count ≤ reader.stream.length then
      ∃ reader', rdp6ReaderEnsure reader count = .ok reader' ∧ reader'.Clean ∧
        reader'.stream = reader.stream ∧ count ≤ reader'.bitCount
    else rdp6ReaderEnsure reader count = .error .protocolError := by
  obtain ⟨clean', stream, deep⟩ := refill_eq count reader.rest clean
  have total := congrArg List.length stream
  simp only [Rdp6BitReader.stream, List.length_append, lsb_length, lsbBits_length] at total
  simp only [rdp6ReaderEnsure, if_neg (Nat.not_lt.mpr small)]
  simp only [Rdp6BitReader.stream, List.length_append, lsb_length, lsbBits_length]
  split
  · next enough =>
      have reached : count ≤ (refill count reader.rest reader.bits reader.bitCount).bitCount := by
        rcases deep with deep | used
        · exact deep
        · rw [used] at total
          simp only [List.length_nil] at total
          omega
      refine ⟨_, if_pos reached, clean', stream, reached⟩
  · exact if_neg (by omega)

theorem consume_eq (clean : reader.Clean) (deep : n ≤ reader.bitCount) :
    (reader.consume n).Clean ∧
      reader.stream = lsb n (reader.bits % 2 ^ n) ++ (reader.consume n).stream := by
  obtain ⟨rest, bits, bitCount⟩ := reader
  obtain ⟨k, rfl⟩ : ∃ k, bitCount = n + k := ⟨bitCount - n, by simp only at deep; omega⟩
  simp only [Rdp6BitReader.Clean] at clean
  have front : lsb n (bits % 2 ^ n) = (lsb (n + k) bits).take n := by
    rw [lsb_take _ (by omega)]
    apply ofLsb_injective
    · simp
    · rw [ofLsb_lsb, ofLsb_lsb, Nat.mod_mod]
  refine ⟨?_, ?_⟩
  · simp only [Rdp6BitReader.Clean, Rdp6BitReader.consume, Nat.shiftRight_eq_div_pow,
      Nat.add_sub_cancel_left]
    rw [Nat.div_lt_iff_lt_mul (Nat.two_pow_pos n), ← Nat.pow_add, Nat.add_comm]
    exact clean
  · simp only [Rdp6BitReader.stream, Rdp6BitReader.consume, Nat.add_sub_cancel_left,
      Nat.shiftRight_eq_div_pow]
    rw [front, ← lsb_drop, ← List.append_assoc, List.take_append_drop]

theorem readerRead_eq (clean : reader.Clean) (small : n ≤ 31) :
    if n ≤ reader.stream.length then
      ∃ v reader', rdp6ReaderRead reader n = .ok (v, reader') ∧ reader'.Clean ∧ v < 2 ^ n ∧
        reader.stream = lsb n v ++ reader'.stream
    else rdp6ReaderRead reader n = .error .protocolError := by
  by_cases none_ : n = 0
  · subst none_
    rw [if_pos (Nat.zero_le _)]
    exact ⟨0, reader, rfl, clean, by decide, rfl⟩
  have ensured := readerEnsure_eq clean (show n ≤ 32 by omega)
  simp only [rdp6ReaderRead, if_neg (Nat.not_lt.mpr small), if_neg none_]
  split
  · next enough =>
      rw [if_pos enough] at ensured
      obtain ⟨reader₁, ran, clean₁, stream₁, deep⟩ := ensured
      obtain ⟨clean', spelled⟩ := consume_eq clean₁ deep
      refine ⟨reader₁.bits % 2 ^ n, reader₁.consume n, ?_, clean', Nat.mod_lt _ (Nat.two_pow_pos n),
        by rw [← stream₁, spelled]⟩
      rw [ran, ← Nat.and_two_pow_sub_one_eq_mod]
      rfl
  next short =>
    rw [if_neg short] at ensured
    rw [ensured]
    rfl

theorem readerRead_code (clean : reader.Clean) {v : Nat} (small : n ≤ 31) (low : v < 2 ^ n)
    (spelled : reader.stream = lsb n v ++ rest) :
    ∃ reader', rdp6ReaderRead reader n = .ok (v, reader') ∧ reader'.Clean ∧
      reader'.stream = rest := by
  have read := readerRead_eq clean small
  rw [if_pos (by rw [spelled]; simp)] at read
  obtain ⟨v', reader', ran, clean', low', spelled'⟩ := read
  obtain ⟨sameBits, sameRest⟩ := List.append_inj (spelled.symm.trans spelled') (by simp)
  have same : v' = v := by
    have := congrArg ofLsb sameBits
    rwa [ofLsb_lsb, ofLsb_lsb, Nat.mod_eq_of_lt low, Nat.mod_eq_of_lt low', eq_comm] at this
  exact ⟨reader', same ▸ ran, clean', sameRest.symm⟩

section Symbols

variable {table : Memory DecodeEntry} {width : Nat} {lengths : List Nat}

theorem decodeSymbol_eq (built : IsPrefixTable table width lengths)
    (complete : Complete width lengths.length (lengthOf lengths)) (narrow : width ≤ 15)
    {reader : Rdp6BitReader} (clean : reader.Clean) :
    if width ≤ reader.stream.length then
      ∃ s reader', rdp6DecodeSymbol reader table width = .ok (.ok (s, reader')) ∧
        s < lengths.length ∧ reader'.Clean ∧
        reader.stream = symbolCode lengths s ++ reader'.stream
    else rdp6DecodeSymbol reader table width = .ok (.error .protocolError) := by
  have ensured := readerEnsure_eq clean (show width ≤ 32 by omega)
  split
  · next enough =>
      rw [if_pos enough] at ensured
      obtain ⟨reader₁, ran, clean₁, stream₁, deep⟩ := ensured
      have index : reader₁.bits % 2 ^ width < 2 ^ width := Nat.mod_lt _ (Nat.two_pow_pos width)
      obtain ⟨s, symbol, starts, cell⟩ := built.entry _ index
      have low := complete.low s symbol
      have high := complete.high s symbol
      obtain ⟨clean', spelled⟩ := consume_eq clean₁ (show lengthOf lengths s ≤ reader₁.bitCount by omega)
      have code : symbolCode lengths s =
          lsb (lengthOf lengths s) (reader₁.bits % 2 ^ lengthOf lengths s) := by
        have wide : (symbolCode lengths s).length = lengthOf lengths s := by
          simp [symbolCode, codeBits]
        rw [prefix_lsb_iff _ (by omega), wide, Nat.mod_mod_of_dvd _ (Nat.pow_dvd_pow 2 high)] at starts
        rw [starts, ← wide, lsb_ofLsb]
      refine ⟨s, reader₁.consume (lengthOf lengths s), ?_, symbol, clean', ?_⟩
      · have positive : ¬ (lengthOf lengths s = 0 ∨ reader₁.bitCount < lengthOf lengths s) := by omega
        have loaded : table.load (reader₁.bits % 2 ^ width) = .ok ⟨s, lengthOf lengths s⟩ := by
          rw [Memory.load_of_lt (by rw [built.size]; exact index), cell]
        simp [rdp6DecodeSymbol, Nat.not_lt.mpr narrow, ran, Nat.and_two_pow_sub_one_eq_mod, loaded,
          positive]
      · rw [← stream₁, spelled, code]
  · next short =>
      rw [if_neg short] at ensured
      simp [rdp6DecodeSymbol, Nat.not_lt.mpr narrow, ensured]

theorem decodeSymbol_code (built : IsPrefixTable table width lengths)
    (complete : Complete width lengths.length (lengthOf lengths)) (narrow : width ≤ 15)
    {reader : Rdp6BitReader} (clean : reader.Clean) {s : Nat} (symbol : s < lengths.length)
    {rest : List Bool} (spelled : reader.stream = symbolCode lengths s ++ rest)
    (enough : width ≤ reader.stream.length) :
    ∃ reader', rdp6DecodeSymbol reader table width = .ok (.ok (s, reader')) ∧ reader'.Clean ∧
      reader'.stream = rest := by
  have read := decodeSymbol_eq built complete narrow clean
  rw [if_pos enough] at read
  obtain ⟨s', reader', ran, symbol', clean', spelled'⟩ := read
  obtain ⟨rfl, rfl⟩ := complete.codeBits_append symbol' symbol (spelled'.symm.trans spelled)
  exact ⟨reader', ran, clean', rfl⟩

end Symbols

/-- The code of a literal, of the end mark 256 or of an offset symbol. -/
def lecCode (symbol : Nat) : List Bool := symbolCode rdp6LecLengths symbol

def lomCode (symbol : Nat) : List Bool := symbolCode rdp6LomLengths symbol

inductive Rdp6Token where
  | literal (value : UInt8)
  | newMatch (offset length : Nat)
  | repeatMatch (slot length : Nat)
  deriving Repr, DecidableEq

def LengthSpelled (length : Nat) (bits : List Bool) : Prop :=
  ∃ symbol extra, symbol < rdp6LomBits.length ∧ extra < 2 ^ rdp6LomBits.getD symbol 0 ∧
    length = rdp6LomBase.getD symbol 0 + extra ∧
    bits = lomCode symbol ++ lsb (rdp6LomBits.getD symbol 0) extra

inductive Rdp6Token.Spelled : Rdp6Token → List Bool → Prop where
  | literal (b : UInt8) : Spelled (.literal b) (lecCode b.toNat)
  | newMatch {index extra length : Nat} {bits : List Bool} : index < rdp6CopyOffsetBits.length →
      extra < 2 ^ rdp6CopyOffsetBits.getD index 0 → LengthSpelled length bits →
      Spelled (.newMatch (rdp6CopyOffsetBase.getD index 0 + extra - 1) length)
        (lecCode (257 + index) ++ (lsb (rdp6CopyOffsetBits.getD index 0) extra ++ bits))
  | repeatMatch {slot length : Nat} {bits : List Bool} : slot < 4 → LengthSpelled length bits →
      Spelled (.repeatMatch slot length) (lecCode (289 + slot) ++ bits)

inductive SpelledAll : List Rdp6Token → List Bool → Prop where
  | nil : SpelledAll [] []
  | cons {t : Rdp6Token} {tokens : List Rdp6Token} {a b : List Bool} :
      t.Spelled a → SpelledAll tokens b → SpelledAll (t :: tokens) (a ++ b)

structure Rdp6State.Prepared (state : Rdp6State) : Prop where
  ready : state.tablesReady = true
  lec : state.literalOffset = rdp6LecTable
  lom : state.matchLength = rdp6LomTable

private theorem lomBits_le (symbol : Nat) : rdp6LomBits.getD symbol 0 ≤ 31 := by
  have all : ∀ b ∈ rdp6LomBits, b ≤ 31 := by decide
  by_cases inside : symbol < rdp6LomBits.length
  · rw [List.getD_eq_getElem?_getD, List.getElem?_eq_getElem inside]
    exact all _ (List.getElem_mem inside)
  · simp [List.getD_eq_getElem?_getD, List.getElem?_eq_none (Nat.le_of_not_lt inside)]

theorem copyOffsetBits_le (index : Nat) : rdp6CopyOffsetBits.getD index 0 ≤ 31 := by
  have all : ∀ b ∈ rdp6CopyOffsetBits, b ≤ 31 := by decide
  by_cases inside : index < rdp6CopyOffsetBits.length
  · rw [List.getD_eq_getElem?_getD, List.getElem?_eq_getElem inside]
    exact all _ (List.getElem_mem inside)
  · simp [List.getD_eq_getElem?_getD, List.getElem?_eq_none (Nat.le_of_not_lt inside)]

theorem readMatchLength_cases (clean : reader.Clean) :
    (∃ length bits reader', LengthSpelled length bits ∧ reader'.Clean ∧
      reader.stream = bits ++ reader'.stream ∧ ∀ state : Rdp6State, state.Prepared →
        rdp6ReadMatchLength state reader = .ok (.ok (length, reader'))) ∨
    ∀ state : Rdp6State, state.Prepared →
      rdp6ReadMatchLength state reader = .ok (.error .protocolError) := by
  have symbol := decodeSymbol_eq rdp6LomTable_isPrefixTable rdp6Lom_complete (by decide) clean
  split at symbol
  · obtain ⟨s, reader₁, ran, -, clean₁, spelled₁⟩ := symbol
    by_cases known : s < rdp6LomBits.length
    · have extra := readerRead_eq clean₁ (lomBits_le s)
      split at extra
      · obtain ⟨v, reader₂, ran₂, clean₂, low, spelled₂⟩ := extra
        refine .inl ⟨rdp6LomBase.getD s 0 + v, _, reader₂, ⟨s, v, known, low, rfl, rfl⟩, clean₂, ?_, ?_⟩
        · rw [spelled₁, spelled₂, List.append_assoc]
          rfl
        · intro state prepared
          simp [-List.getD_eq_getElem?_getD, rdp6ReadMatchLength, prepared.lom, ran, Nat.not_le.mpr known, ran₂]
      refine .inr ?_
      intro state prepared
      simp [-List.getD_eq_getElem?_getD, rdp6ReadMatchLength, prepared.lom, ran, Nat.not_le.mpr known, extra]
    refine .inr ?_
    intro state prepared
    simp [-List.getD_eq_getElem?_getD, rdp6ReadMatchLength, prepared.lom, ran, Nat.le_of_not_lt known]
  · refine .inr ?_
    intro state prepared
    simp [-List.getD_eq_getElem?_getD, rdp6ReadMatchLength, prepared.lom, symbol]

theorem readMatchLength_code (clean : reader.Clean) {length : Nat} {bits : List Bool}
    (isLength : LengthSpelled length bits) (spelled : reader.stream = bits ++ rest)
    (ahead : rdp6LomTableBits ≤ rest.length) :
    ∃ reader', reader'.Clean ∧ reader'.stream = rest ∧ ∀ state : Rdp6State, state.Prepared →
      rdp6ReadMatchLength state reader = .ok (.ok (length, reader')) := by
  obtain ⟨symbol, extra, known, low, rfl, rfl⟩ := isLength
  have listed : symbol < rdp6LomLengths.length := known.trans (by decide)
  rw [List.append_assoc] at spelled
  have enough : rdp6LomTableBits ≤ reader.stream.length := by
    rw [spelled]
    simp only [List.length_append]
    omega
  obtain ⟨reader₁, ran, clean₁, left₁⟩ := decodeSymbol_code rdp6LomTable_isPrefixTable
    rdp6Lom_complete (by decide) clean listed spelled enough
  obtain ⟨reader₂, ran₂, clean₂, left₂⟩ := readerRead_code clean₁ (lomBits_le symbol) low left₁
  refine ⟨reader₂, clean₂, left₂, ?_⟩
  intro state prepared
  simp [-List.getD_eq_getElem?_getD, rdp6ReadMatchLength, prepared.lom, ran, Nat.not_le.mpr known, ran₂]

end LibRdp.Bulk
