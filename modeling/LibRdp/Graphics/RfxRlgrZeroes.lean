import LibRdp.Graphics.RfxRlgrCore

/-! # Tiles of zeros

The encoder writes a tile of zeros as zero bits for whole runs, and a last run that is cut short.
It follows the parameter of the decoder, so that the decoder reads the same runs back.
-/

namespace LibRdp.Graphics

open Coding

/-- `rdp_rfx_bit_writer`. -/
structure RfxBitWriter where
  buffer : Bytes
  current : Nat
  bits : Nat
  deriving Repr, DecidableEq

/-- `rdp_rfx_bit_writer_init`. -/
def rfxBitWriterInit (buffer : Bytes) : RfxBitWriter := { buffer, current := 0, bits := 0 }

/-- `rdp_rfx_write_bit`. -/
def rfxWriteBit (writer : RfxBitWriter) (bit : Nat) : Attempt RfxBitWriter :=
  if bit > 1 then refuse .invalidArgument
  else
    let current := (writer.current * 2 ||| bit) % 256
    if writer.bits + 1 = 8 then
      .ok { buffer := writer.buffer ++ [UInt8.ofNat current], current := 0, bits := 0 }
    else .ok { writer with current, bits := writer.bits + 1 }

/-- The loop of `rdp_rfx_write_bits`, from the bit below `count` on. -/
def rfxWriteBitsLoop (value : Nat) : Nat → RfxBitWriter → Attempt RfxBitWriter
  | 0, writer => .ok writer
  | count + 1, writer => do
      let writer ← rfxWriteBit writer (value / 2 ^ count % 2)
      rfxWriteBitsLoop value count writer

/-- `rdp_rfx_write_bits`. -/
def rfxWriteBits (writer : RfxBitWriter) (value count : Nat) : Attempt RfxBitWriter :=
  if count > 31 ∨ count > 0 ∧ value / 2 ^ count ≠ 0 then refuse .invalidArgument
  else rfxWriteBitsLoop value count writer

/-- `rdp_rfx_bit_writer_flush`. -/
def rfxBitWriterFlush (writer : RfxBitWriter) : Bytes :=
  if writer.bits = 0 then writer.buffer
  else writer.buffer ++ [UInt8.ofNat (writer.current * 2 ^ (8 - writer.bits) % 256)]

/-- The loop of `rdp_rfx_rlgr_write_zeroes`. -/
def rlgrWriteZeroesLoop (writer : RfxBitWriter) (remaining kp : Nat) : Attempt RfxBitWriter :=
  if remaining > 0 then
    let chunk := 2 ^ rfxParamShift kp
    if chunk ≤ remaining then do
      let writer ← rfxWriteBit writer 0
      rlgrWriteZeroesLoop writer (remaining - chunk) (rfxUpdateParam kp rlgrUpGr)
    else do
      let writer ← rfxWriteBit writer 1
      rfxWriteBits writer (rfxU32 remaining) (rfxParamShift kp)
  else .ok writer
termination_by remaining
decreasing_by
  have some' := Nat.two_pow_pos (rfxParamShift kp)
  omega

/-- `rdp_rfx_rlgr_write_zeroes`. -/
def rlgrWriteZeroes (buffer : Bytes) (count : Nat) : Attempt Bytes :=
  if count = 0 then refuse .invalidArgument
  else do
    let writer ← rlgrWriteZeroesLoop (rfxBitWriterInit buffer) count (2 ^ rlgrLs)
    .ok (rfxBitWriterFlush writer)

/-- All bits that went into a writer: those of the complete bytes, and the rest. -/
def RfxBitWriter.Spells (writer : RfxBitWriter) (bits : List Bool) : Prop :=
  ∃ rest, bits = msbBits writer.buffer ++ rest ∧ rest.length = writer.bits ∧ rest.length < 8 ∧
    writer.current = ofMsb rest

theorem msbBits_byte {bits : List Bool} (whole : bits.length = 8) :
    msbBits [UInt8.ofNat (ofMsb bits % 256)] = bits := by
  have below : ofMsb bits < 256 := by
    have below := ofMsb_lt bits
    rwa [whole] at below
  have same := msb_ofMsb bits
  rw [whole] at same
  rw [msbBits, List.flatMap_singleton, Nat.mod_eq_of_lt below, UInt8.toNat_ofNat_of_lt' below, same]

theorem ofMsb_zeros (count : Nat) : ofMsb (List.replicate count false) = 0 := by
  induction count with
  | zero => rfl
  | succ count ih =>
    rw [List.replicate_succ, ofMsb_cons, ih]
    exact Nat.zero_mul _

theorem ofMsb_or (rest : List Bool) (bit : Bool) :
    ofMsb rest * 2 ||| bit.toNat = ofMsb (rest ++ [bit]) := by
  have low : bit.toNat < 2 ^ 1 := Bool.toNat_lt bit
  have sum := Nat.two_pow_add_eq_or_of_lt low (ofMsb rest)
  rw [ofMsb_snoc, Nat.mul_comm]
  exact sum.symm

theorem init_spells (buffer : Bytes) : (rfxBitWriterInit buffer).Spells (msbBits buffer) :=
  ⟨[], (List.append_nil _).symm, rfl, Nat.zero_lt_succ 7, rfl⟩

theorem writeBit_spells {writer : RfxBitWriter} {bits : List Bool} (spells : writer.Spells bits)
    (bit : Bool) :
    ∃ next, rfxWriteBit writer bit.toNat = .ok next ∧ next.Spells (bits ++ [bit]) := by
  obtain ⟨rest, rfl, length, short, same⟩ := spells
  have below := ofMsb_lt (rest ++ [bit])
  have longer : (rest ++ [bit]).length = writer.bits + 1 := by
    rw [List.length_append, length, List.length_singleton]
  rw [rfxWriteBit, if_neg (Nat.not_lt.mpr (Bool.toNat_le bit)), same, ofMsb_or]
  by_cases whole : writer.bits + 1 = 8
  · refine ⟨_, if_pos whole, [], ?_, rfl, Nat.zero_lt_succ 7, rfl⟩
    rw [msbBits_append, msbBits_byte (longer.trans whole), List.append_nil, List.append_assoc]
  refine ⟨_, if_neg whole, rest ++ [bit], List.append_assoc _ _ _, longer, by omega, ?_⟩
  have small : 2 ^ (rest ++ [bit]).length ≤ 2 ^ 8 := Nat.pow_le_pow_right (by decide) (by omega)
  exact Nat.mod_eq_of_lt (Nat.lt_of_lt_of_le below small)

theorem flush_spells {writer : RfxBitWriter} {bits : List Bool} (spells : writer.Spells bits) :
    ∃ padding < 8, msbBits (rfxBitWriterFlush writer) = bits ++ List.replicate padding false := by
  obtain ⟨rest, rfl, length, short, same⟩ := spells
  unfold rfxBitWriterFlush
  split
  · refine ⟨0, Nat.zero_lt_succ 7, ?_⟩
    rw [List.eq_nil_of_length_eq_zero (by omega : rest.length = 0), List.append_nil,
      List.replicate_zero, List.append_nil]
  refine ⟨8 - writer.bits, by omega, ?_⟩
  have shifted : writer.current * 2 ^ (8 - writer.bits) =
      ofMsb (rest ++ List.replicate (8 - writer.bits) false) := by
    rw [ofMsb_append, ofMsb_zeros, List.length_replicate, same, Nat.add_zero]
  rw [shifted, msbBits_append, msbBits_byte, List.append_assoc]
  rw [List.length_append, List.length_replicate]
  omega

theorem writeBitsLoop_spells (value count : Nat) {writer : RfxBitWriter} {bits : List Bool}
    (spells : writer.Spells bits) :
    ∃ next, rfxWriteBitsLoop value count writer = .ok next ∧
      next.Spells (bits ++ msb count value) := by
  induction count generalizing writer bits with
  | zero => exact ⟨writer, rfl, by rwa [msb, List.append_nil]⟩
  | succ count ih =>
    have bit : value / 2 ^ count % 2 = (value.testBit count).toNat := (Nat.toNat_testBit _ _).symm
    obtain ⟨next, written, spells'⟩ := writeBit_spells spells (value.testBit count)
    obtain ⟨last, done, spells''⟩ := ih spells'
    refine ⟨last, ?_, ?_⟩
    · rw [rfxWriteBitsLoop, bit, written]
      exact done
    · rwa [msb, ← List.singleton_append, ← List.append_assoc]

def rlgrZeroBits (remaining kp : Nat) : List Bool :=
  if remaining > 0 then
    let chunk := 2 ^ rfxParamShift kp
    if chunk ≤ remaining then
      false :: rlgrZeroBits (remaining - chunk) (rfxUpdateParam kp rlgrUpGr)
    else true :: msb (rfxParamShift kp) remaining
  else []
termination_by remaining
decreasing_by
  have some' := Nat.two_pow_pos (rfxParamShift kp)
  omega

theorem writeZeroesLoop_spells (remaining kp : Nat) (saturated : kp ≤ 80) {writer : RfxBitWriter}
    {bits : List Bool} (spells : writer.Spells bits) :
    ∃ next, rlgrWriteZeroesLoop writer remaining kp = .ok next ∧
      next.Spells (bits ++ rlgrZeroBits remaining kp) := by
  induction remaining, kp using rlgrZeroBits.induct generalizing writer bits with
  | case1 remaining kp some' chunk whole ih =>
    obtain ⟨next, written, spells'⟩ := writeBit_spells spells false
    obtain ⟨last, done, spells''⟩ := ih (rfxUpdateParam_le _ _) spells'
    refine ⟨last, ?_, ?_⟩
    · rw [rlgrWriteZeroesLoop, if_pos some', if_pos whole]
      exact (bind_eq_ok.mpr ⟨next, written, done⟩)
    · rw [rlgrZeroBits, if_pos some', if_pos whole]
      rwa [← List.singleton_append, ← List.append_assoc]
  | case2 remaining kp some' chunk short =>
    have small := rfxParamShift_le saturated
    have below : remaining < 2 ^ rfxParamShift kp := Nat.not_le.mp short
    have word : rfxU32 remaining = remaining := by
      refine Nat.mod_eq_of_lt (Nat.lt_of_lt_of_le below ?_)
      exact Nat.pow_le_pow_right (by decide) (by omega)
    obtain ⟨next, written, spells'⟩ := writeBit_spells spells true
    obtain ⟨last, done, spells''⟩ := writeBitsLoop_spells remaining (rfxParamShift kp) spells'
    refine ⟨last, ?_, ?_⟩
    · rw [rlgrWriteZeroesLoop, if_pos some', if_neg short]
      refine bind_eq_ok.mpr ⟨next, written, ?_⟩
      rw [word, rfxWriteBits, if_neg, done]
      rw [Nat.div_eq_of_lt below]
      omega
    · rw [rlgrZeroBits, if_pos some', if_neg short]
      rwa [← List.singleton_append, ← List.append_assoc]
  | case3 remaining kp none' =>
    refine ⟨writer, ?_, ?_⟩
    · rw [rlgrWriteZeroesLoop, if_neg none']
    · rwa [rlgrZeroBits, if_neg none', List.append_nil]

theorem rlgrZeroBits_length (remaining kp : Nat) (saturated : kp ≤ 80) :
    (rlgrZeroBits remaining kp).length ≤ remaining + 11 := by
  induction remaining, kp using rlgrZeroBits.induct with
  | case1 remaining kp some' chunk whole ih =>
    have rest := ih (rfxUpdateParam_le _ _)
    have positive : 0 < chunk := Nat.two_pow_pos _
    rw [rlgrZeroBits, if_pos some', if_pos whole]
    change (rlgrZeroBits (remaining - chunk) _).length + 1 ≤ _
    omega
  | case2 remaining kp some' chunk short =>
    have small := rfxParamShift_le saturated
    rw [rlgrZeroBits, if_pos some', if_neg short, List.length_cons, msb_length]
    omega
  | case3 remaining kp none' =>
    rw [rlgrZeroBits, if_neg none']
    exact Nat.zero_le _

theorem rfxReadBits_append {length count : Nat} {bits rest : List Bool} (short : length ≤ sizeMax / 8)
    (small : count ≤ 31) (whole : bits.length = count) :
    rfxReadBits ⟨length, bits ++ rest⟩ count = .ok (ofMsb bits, ⟨length, rest⟩) := by
  have enough : count ≤ (bits ++ rest).length := by
    rw [List.length_append]
    omega
  rw [rfxReadBits, if_neg (Nat.not_lt.mpr small), if_neg (Nat.not_lt.mpr short),
    if_neg (Nat.not_lt.mpr enough)]
  dsimp only
  rw [← whole, List.take_left, List.drop_left]

theorem update_up_ge {kp : Nat} (runs : 8 ≤ kp) : 8 ≤ rfxUpdateParam kp rlgrUpGr := by
  unfold rfxUpdateParam rlgrUpGr rlgrKpMax
  omega

theorem shift_pos {kp : Nat} (runs : 8 ≤ kp) : rfxParamShift kp > 0 := by
  unfold rfxParamShift rlgrLs
  omega

theorem rlgrCode_runs (mode : RlgrMode) {room : Nat} {state : RlgrState}
    (positive : rfxParamShift state.kp > 0) : rlgrCode mode room state = rlgrRunCode room state :=
  if_pos positive

theorem coefficients_zeros (mode : RlgrMode) {length : Nat} (short : length ≤ sizeMax / 8)
    (padding : List Bool) (krp room kp : Nat) (runs : 8 ≤ kp) (saturated : kp ≤ 80) :
    rlgrCoefficients mode room ⟨⟨length, rlgrZeroBits room kp ++ padding⟩, kp, krp⟩ =
      List.replicate room 0 := by
  induction room, kp using rlgrZeroBits.induct with
  | case1 room kp some' chunk whole ih =>
    have positive := shift_pos runs
    have read : rfxReadBits ⟨length, rlgrZeroBits room kp ++ padding⟩ 1 = .ok (0,
        ⟨length, rlgrZeroBits (room - chunk) (rfxUpdateParam kp rlgrUpGr) ++ padding⟩) := by
      rw [rlgrZeroBits, if_pos some', if_pos whole]
      exact rfxReadBits_append short (by decide) (rfl : [false].length = 1)
    have coded : rlgrCode mode room ⟨⟨length, rlgrZeroBits room kp ++ padding⟩, kp, krp⟩ =
        some (List.replicate chunk 0, ⟨⟨length,
          rlgrZeroBits (room - chunk) (rfxUpdateParam kp rlgrUpGr) ++ padding⟩,
          rfxUpdateParam kp rlgrUpGr, krp⟩) := by
      rw [rlgrCode_runs mode positive, rlgrRunCode, read]
      exact if_neg (Nat.not_lt.mpr whole)
    rw [rlgrCoefficients_some some' coded, List.take_of_length_le (by
      rw [List.length_replicate]
      exact whole), List.length_replicate, ih (update_up_ge runs) (rfxUpdateParam_le _ _),
      List.replicate_append_replicate, Nat.add_sub_cancel' whole]
  | case2 room kp some' chunk long =>
    have positive := shift_pos runs
    have small := rfxParamShift_le saturated
    have below : room < 2 ^ rfxParamShift kp := Nat.not_le.mp long
    have read : rfxReadBits ⟨length, rlgrZeroBits room kp ++ padding⟩ 1 =
        .ok (1, ⟨length, msb (rfxParamShift kp) room ++ padding⟩) := by
      rw [rlgrZeroBits, if_pos some', if_neg long]
      exact rfxReadBits_append short (by decide) (rfl : [true].length = 1)
    have counted : rfxReadBits ⟨length, msb (rfxParamShift kp) room ++ padding⟩ (rfxParamShift kp) =
        .ok (room, ⟨length, padding⟩) := by
      rw [rfxReadBits_append short (by omega) (msb_length _ _), ofMsb_msb, Nat.mod_eq_of_lt below]
    have coded : rlgrCode mode room ⟨⟨length, rlgrZeroBits room kp ++ padding⟩, kp, krp⟩ =
        some (List.replicate room 0, ⟨⟨length, padding⟩, kp, krp⟩) := by
      rw [rlgrCode_runs mode positive, rlgrRunCode, read]
      change ((rfxReadBits ⟨length, msb (rfxParamShift kp) room ++ padding⟩
        (rfxParamShift kp)).toOption.bind _) = _
      rw [counted]
      exact (if_neg (Nat.lt_irrefl room)).trans (if_pos rfl)
    rw [rlgrCoefficients_some some' coded, List.take_of_length_le (by
      rw [List.length_replicate]), List.length_replicate, Nat.sub_self, rlgrCoefficients_full,
      List.append_nil]
  | case3 room kp none' =>
    rw [Nat.eq_zero_of_not_pos none', rlgrCoefficients_full]
    rfl

/-- For as many coefficients as the decoder takes it reads the zeros back. -/
theorem rlgr_zeroes_round_trip (mode : RlgrMode) (count : Nat) (some' : 1 ≤ count)
    (fits : count ≤ sizeMax / 4) :
    ∃ data, rlgrWriteZeroes [] count = .ok data ∧
      rfxRlgrDecode mode data count = .ok (List.replicate count 0) := by
  obtain ⟨writer, written, spells⟩ :=
    writeZeroesLoop_spells count (2 ^ rlgrLs) (Nat.le_of_ble_eq_true rfl) (init_spells [])
  obtain ⟨padding, few, flushed⟩ := flush_spells spells
  have bits := rlgrZeroBits_length count (2 ^ rlgrLs) (Nat.le_of_ble_eq_true rfl)
  have same := congrArg List.length flushed
  rw [msbBits_length, List.length_append, List.length_append, List.length_replicate] at same
  have short : (rfxBitWriterFlush writer).length ≤ sizeMax / 8 := by
    have none' : (msbBits []).length = 0 := rfl
    unfold sizeMax at *
    omega
  refine ⟨rfxBitWriterFlush writer, ?_, ?_⟩
  · rw [rlgrWriteZeroes, if_neg (Nat.ne_of_gt some'), written]
    rfl
  · have start : rlgrStart (rfxBitWriterFlush writer) = ⟨⟨(rfxBitWriterFlush writer).length,
        rlgrZeroBits count (2 ^ rlgrLs) ++ List.replicate padding false⟩, 2 ^ rlgrLs, 2 ^ rlgrLs⟩ := by
      rw [rlgrStart, rfxBitReaderAttach, flushed]
      rfl
    have zeros := coefficients_zeros mode short (List.replicate padding false) (2 ^ rlgrLs)
      count (2 ^ rlgrLs) (Nat.le_of_ble_eq_true rfl) (Nat.le_of_ble_eq_true rfl)
    rw [rfxRlgrDecode, rlgrDecoded_eq, if_neg (by omega), start, zeros, rlgrSettle,
      if_pos List.length_replicate]

theorem rlgr_zeroes_round_trip_sample :
    ∃ data, rlgrWriteZeroes [] 4096 = .ok data ∧
      rfxRlgrDecode .rlgr3 data 4096 = .ok (List.replicate 4096 0) :=
  rlgr_zeroes_round_trip .rlgr3 4096 (by decide) (by decide)

/-- The decoder refuses counts for which an array of coefficients has no size. -/
theorem rlgr_zeroes_refused :
    ¬∀ (mode : RlgrMode) (count : Nat), 1 ≤ count → count ≤ sizeMax →
      ∃ data, rlgrWriteZeroes [] count = .ok data ∧
        rfxRlgrDecode mode data count = .ok (List.replicate count 0) := by
  intro always
  obtain ⟨data, _, decoded⟩ := always .rlgr1 (2 ^ 62) (by decide) (by decide)
  rw [rfxRlgrDecode, rlgrDecoded_eq, if_pos (.inr (by decide))] at decoded
  cases decoded

end LibRdp.Graphics
