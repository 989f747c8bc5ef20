import LibRdp.Coding.Bits
import LibRdp.Graphics.GdiFields

/-! # Run lengths and Golomb codes of RemoteFX

The coefficients of a tile are written as runs of zeros and single values. Two parameters
follow what is read: `kp` says how long runs are expected to be, `krp` how large values are.
Progressive tiles are read in the first mode, and a stream that ends early stands for zeros.
-/

namespace LibRdp.Graphics

open Coding

/-- `RDP_RFX_TILE_COEFFICIENTS`. -/
def rfxTileCoefficients : Nat := 4096

/-- `RDP_RFX_RLGR_*`. -/
def rlgrKpMax : Int := 80
def rlgrLs : Nat := 3
def rlgrUpGr : Int := 4
def rlgrDnGr : Int := 6
def rlgrUqGr : Int := 3
def rlgrDqGr : Int := 3

/-- `rdp_rfx_clamp_i32`. -/
def rfxClampI32 (value : Int) : Int := max (-2 ^ 31) (min value (2 ^ 31 - 1))

/-- `rdp_rfx_bit_reader`: the length of its data, and the bits that are left of them. -/
structure RfxBitReader where
  length : Nat
  bits : List Bool
  deriving Repr, DecidableEq

/-- `rdp_rfx_bit_reader_attach`. -/
def rfxBitReaderAttach (data : Bytes) : RfxBitReader := { length := data.length, bits := msbBits data }

/-- `rdp_rfx_read_bits`. -/
def rfxReadBits (reader : RfxBitReader) (count : Nat) : Attempt (Nat × RfxBitReader) :=
  if count > 31 then refuse .invalidArgument
  else if reader.length > sizeMax / 8 then refuse .protocolError
  else if count > reader.bits.length then refuse .protocolError
  else .ok (ofMsb (reader.bits.take count), { reader with bits := reader.bits.drop count })

/-- `rdp_rfx_read_bits_padded`: bits behind the end are zero. -/
def rfxReadBitsPadded (reader : RfxBitReader) (count : Nat) : Attempt (Nat × RfxBitReader) :=
  if count > 31 then refuse .invalidArgument
  else if reader.length > sizeMax / 8 then refuse .protocolError
  else
    let read := reader.bits.take count
    .ok (ofMsb read * 2 ^ (count - read.length), { reader with bits := reader.bits.drop count })

variable {reader next : RfxBitReader}

theorem rfxReadBits_left {count value : Nat} (read : rfxReadBits reader count = .ok (value, next)) :
    next.bits.length + count = reader.bits.length := by
  simp only [rfxReadBits, refuse_else, Except.ok.injEq, Prod.mk.injEq] at read
  obtain ⟨-, -, inside, rfl, rfl⟩ := read
  rw [List.length_drop]
  omega

/-- `rdp_rfx_update_param`: the parameter afterwards; what it returns is the parameter divided by
    `2 ^ rlgrLs`, which its callers keep beside it as `k` and `kr`. -/
def rfxUpdateParam (param : Nat) (delta : Int) : Nat := (max 0 (min (param + delta) rlgrKpMax)).toNat

/-- `k` and `kr`. -/
def rfxParamShift (param : Nat) : Nat := param / 2 ^ rlgrLs

theorem rfxUpdateParam_le (param : Nat) (delta : Int) : rfxUpdateParam param delta ≤ 80 := by
  unfold rfxUpdateParam rlgrKpMax
  omega

theorem rfxParamShift_le {param : Nat} (saturated : param ≤ 80) : rfxParamShift param ≤ 10 := by
  unfold rfxParamShift rlgrLs
  omega

/-- `uint32_t` arithmetic, which wraps. -/
def rfxU32 (value : Nat) : Nat := value % 2 ^ 32

/-- `rdp_rfx_from_2mag_sign`. -/
def rfxFrom2magSign (value : Nat) : Int :=
  let magnitude := int32 (rfxU32 (value + 1) / 2)
  if value = 0 then 0 else if value % 2 ≠ 0 then int32 (-magnitude) else magnitude

/-- The loop of `rdp_rfx_get_gr_code`: the ones before the next zero. -/
def rfxReadOnes (reader : RfxBitReader) (ones : Nat) : Attempt (Nat × RfxBitReader) :=
  match opened : rfxReadBits reader 1 with
  | .error stop => .error stop
  | .ok (bit, next) =>
      if bit = 0 then .ok (ones, next)
      else if ones > 0x001fffff then refuse .protocolError
      else rfxReadOnes next (ones + 1)
termination_by reader.bits.length
decreasing_by
  have left := rfxReadBits_left opened
  omega

/-- `rdp_rfx_get_gr_code`: the magnitude, and `krp` afterwards. -/
def rfxGetGrCode (reader : RfxBitReader) (krp : Nat) : Attempt ((Nat × Nat) × RfxBitReader) := do
  let (ones, reader) ← rfxReadOnes reader 0
  let (low, reader) ← rfxReadBits reader (rfxParamShift krp)
  let magnitude := rfxU32 (ones * 2 ^ rfxParamShift krp) ||| low
  let krp :=
    if ones = 0 then rfxUpdateParam krp (-2) else if ones ≠ 1 then rfxUpdateParam krp ones else krp
  pure ((magnitude, krp), reader)

theorem rfxReadOnes_left {ones count : Nat} (read : rfxReadOnes reader ones = .ok (count, next)) :
    next.bits.length + count < reader.bits.length + ones ∧ ones ≤ count := by
  fun_induction rfxReadOnes reader ones with
  | case1 => cases read
  | case2 _ _ _ opened =>
    have left := rfxReadBits_left opened
    cases read
    omega
  | case3 => cases read
  | case4 _ _ _ _ opened _ _ ih =>
    have left := rfxReadBits_left opened
    have less := ih read
    omega

theorem rfxGetGrCode_left {krp : Nat} {code : Nat × Nat}
    (read : rfxGetGrCode reader krp = .ok (code, next)) :
    next.bits.length < reader.bits.length := by
  obtain ⟨⟨ones, first⟩, opened, read⟩ := bind_eq_ok.mp read
  obtain ⟨⟨low, second⟩, closed, read⟩ := bind_eq_ok.mp read
  cases read
  have left := rfxReadOnes_left opened
  have left' := rfxReadBits_left closed
  omega

/-- `rdp_rfx_rlgr_tail_or_error` where the tail may be filled. -/
def rlgrTail (count : Nat) (written : List Int) : List Int :=
  written ++ List.replicate (count - written.length) 0

def rlgrReadValue (reader : RfxBitReader) (krp : Nat) : Attempt ((Int × Nat) × RfxBitReader) := do
  let (sign, reader) ← rfxReadBits reader 1
  let ((magnitude, krp), reader) ← rfxGetGrCode reader krp
  let magnitude := int32 (rfxU32 (magnitude + 1))
  pure ((if sign ≠ 0 then int32 (-magnitude) else magnitude, krp), reader)

theorem rlgrReadValue_left {krp : Nat} {value : Int × Nat}
    (read : rlgrReadValue reader krp = .ok (value, next)) :
    next.bits.length < reader.bits.length := by
  obtain ⟨⟨sign, first⟩, opened, read⟩ := bind_eq_ok.mp read
  obtain ⟨⟨code, second⟩, closed, read⟩ := bind_eq_ok.mp read
  cases read
  have left := rfxReadBits_left opened
  have left' := rfxGetGrCode_left closed
  omega

/-- The loop of `rdp_rfx_rlgr_decode_core` in the mode `RDP_RFX_RLGR1` and with a tail that may be
    filled. The inner loop over zero bits is a round of its own. -/
def rlgrLoop (count : Nat) (reader : RfxBitReader) (kp krp : Nat) (written : List Int) : List Int :=
  if written.length ≥ count then written
  else if rfxParamShift kp > 0 then
    match _opened : rfxReadBits reader 1 with
    | .error _ => rlgrTail count written
    | .ok (bit, reader₁) =>
        if bit = 0 then
          let run := 2 ^ rfxParamShift kp
          if run > count - written.length then rlgrTail count written
          else
            rlgrLoop count reader₁ (rfxUpdateParam kp rlgrUpGr) krp (written ++ List.replicate run 0)
        else
          match _counted : rfxReadBits reader₁ (rfxParamShift kp) with
          | .error _ => rlgrTail count written
          | .ok (run, reader₂) =>
              if run > count - written.length then rlgrTail count written
              else if written.length + run = count then written ++ List.replicate run 0
              else
                match valued : rlgrReadValue reader₂ krp with
                | .error _ => rlgrTail count (written ++ List.replicate run 0)
                | .ok ((value, krp), reader₃) =>
                    rlgrLoop count reader₃ (rfxUpdateParam kp (-rlgrDnGr)) krp
                      (written ++ List.replicate run 0 ++ [value])
  else
    match coded : rfxGetGrCode reader krp with
    | .error _ => rlgrTail count written
    | .ok ((magnitude, krp), reader₁) =>
        if magnitude = 0 then
          rlgrLoop count reader₁ (rfxUpdateParam kp rlgrUqGr) krp (written ++ [0])
        else
          rlgrLoop count reader₁ (rfxUpdateParam kp (-rlgrDqGr)) krp
            (written ++ [rfxFrom2magSign magnitude])
termination_by reader.bits.length
decreasing_by
  · have left := rfxReadBits_left _opened
    omega
  · have left := rfxReadBits_left _opened
    have left' := rfxReadBits_left _counted
    have left'' := rlgrReadValue_left valued
    omega
  · exact rfxGetGrCode_left coded
  · exact rfxGetGrCode_left coded

/-- `rdp_rfx_rlgr_decode_core` in the mode `RDP_RFX_RLGR1` and with a tail that may be filled. -/
def rlgrDecode (data : Bytes) (count : Nat) : List Int :=
  rlgrLoop count (rfxBitReaderAttach data) (2 ^ rlgrLs) (2 ^ rlgrLs) []

theorem rlgrDecode_nil (count : Nat) : rlgrDecode [] count = List.replicate count 0 := by
  unfold rlgrDecode rlgrLoop
  split
  · rename_i none'
    rw [Nat.eq_zero_of_le_zero none']
    rfl
  · rfl

/-- The loop of `rdp_rfx_differential_decode` behind a coefficient. -/
def differentialLoop (previous : Int) : List Int → List Int
  | [] => []
  | value :: rest =>
      let value := rfxClampI32 (previous + value)
      value :: differentialLoop value rest

/-- `rdp_rfx_differential_decode`. -/
def differentialDecode : List Int → List Int
  | [] => []
  | value :: rest => value :: differentialLoop value rest

end LibRdp.Graphics
