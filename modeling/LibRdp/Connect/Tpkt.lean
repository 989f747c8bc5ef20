import LibRdp.Common

/-! # TPKT frames and X.224 data

`rdp_tpkt_write`, `rdp_tpkt_parse`, `rdp_x224_wrap_data` and `rdp_x224_parse_data`, and the
big-endian numbers that the connect exchange uses throughout. A writer returns the bytes it
appends.
-/

namespace LibRdp.Connect

/-- `rdp_buffer_append_u16_be` and `rdp_buffer_append_u32_be`. -/
def u16BeBytes (v : Nat) : Bytes := [UInt8.ofNat (v / 256), UInt8.ofNat v]

def u32BeBytes (v : Nat) : Bytes :=
  [UInt8.ofNat (v / 16777216), UInt8.ofNat (v / 65536), UInt8.ofNat (v / 256), UInt8.ofNat v]

/-- `rdp_stream_read_u16_be` and `rdp_stream_read_u32_be`. -/
def readU16Be : Bytes → Attempt (UInt16 × Bytes)
  | b0 :: b1 :: rest => .ok (UInt16.ofNat (u16Le b1 b0), rest)
  | _ => refuse .protocolError

def readU32Be : Bytes → Attempt (UInt32 × Bytes)
  | b0 :: b1 :: b2 :: b3 :: rest => .ok (UInt32.ofNat (u32Le b3 b2 b1 b0), rest)
  | _ => refuse .protocolError

@[simp] theorem u16BeBytes_length (v : Nat) : (u16BeBytes v).length = 2 := rfl

@[simp] theorem readU16Be_append {v : Nat} (small : v < 65536) (rest : Bytes) :
    readU16Be (u16BeBytes v ++ rest) = .ok (UInt16.ofNat v, rest) := by
  simp only [u16BeBytes, List.cons_append, List.nil_append, readU16Be, u16Le_bytes small]

/-- `rdp_tpkt`; the length of the payload is that of the list. -/
structure Tpkt where
  payload : Bytes
  totalLen : UInt16
  deriving Repr, DecidableEq

/-- `rdp_tpkt_write`. -/
def tpktWrite (payload : Bytes) : Attempt Bytes :=
  if 65535 - 4 < payload.length then refuse .invalidArgument
  else .ok ([3, 0] ++ u16BeBytes (payload.length + 4) ++ payload)

/-- `rdp_tpkt_parse`; what stands behind the packet is left for the next one. -/
def tpktParse (data : Bytes) : Attempt Tpkt := do
  if data.length < 4 then refuse .protocolError
  else
    let (version, stream) ← readU8 data
    let (reserved, stream) ← readU8 stream
    let (total, _) ← readU16Be stream
    if version ≠ 3 ∨ reserved ≠ 0 ∨ total < 4 ∨ data.length < total.toNat then
      refuse .protocolError
    else pure ⟨(data.drop 4).take (total.toNat - 4), total⟩

theorem tpktParse_write {payload : Bytes} (short : payload.length ≤ 65531) :
    ∃ packet, tpktWrite payload = .ok packet ∧ ∀ rest,
      tpktParse (packet ++ rest) = .ok ⟨payload, UInt16.ofNat (payload.length + 4)⟩ := by
  refine ⟨[3, 0] ++ u16BeBytes (payload.length + 4) ++ payload, ?_, fun rest => ?_⟩
  · rw [tpktWrite, if_neg (by omega)]
  · have total : (UInt16.ofNat (payload.length + 4)).toNat = payload.length + 4 := by
      rw [UInt16.toNat_ofNat']
      exact Nat.mod_eq_of_lt (by omega)
    have least : ¬UInt16.ofNat (payload.length + 4) < 4 := by
      rw [UInt16.lt_iff_toNat_lt, total]
      exact Nat.not_lt.mpr (Nat.le_add_left 4 _)
    have room : ¬(([3, 0] ++ u16BeBytes (payload.length + 4) ++ payload) ++ rest).length < 4 := by
      simp only [List.length_append, u16BeBytes_length, List.length_cons, List.length_nil]
      omega
    have held : ¬(([3, 0] ++ u16BeBytes (payload.length + 4) ++ payload) ++ rest).length <
        payload.length + 4 := by
      simp only [List.length_append, u16BeBytes_length, List.length_cons, List.length_nil]
      omega
    have cut : ((([3, 0] ++ u16BeBytes (payload.length + 4) ++ payload) ++ rest).drop 4).take
        (payload.length + 4 - 4) = payload := by
      change (payload ++ rest).take (payload.length + 4 - 4) = payload
      rw [Nat.add_sub_cancel, List.take_left]
    have read : readU16Be (u16BeBytes (payload.length + 4) ++ (payload ++ rest)) =
        .ok (UInt16.ofNat (payload.length + 4), payload ++ rest) :=
      readU16Be_append (by omega) _
    rw [tpktParse, if_neg room]
    simp only [List.append_assoc, List.cons_append, List.nil_append, readU8_cons,
      ok_bind] at cut held ⊢
    rw [read]
    simp only [ok_bind, total, ne_eq, not_true_eq_false, least, held, or_self, if_false,
      cut, attempt_pure]

/-- `rdp_x224_wrap_data`. -/
def x224WrapData (payload : Bytes) : Attempt Bytes := .ok ([0x02, 0xf0, 0x80] ++ payload)

/-- `rdp_x224_parse_data`. -/
def x224ParseData : Bytes → Attempt Bytes
  | b0 :: b1 :: b2 :: data =>
      if b0 ≠ 0x02 ∨ b1 ≠ 0xf0 ∨ b2 ≠ 0x80 then refuse .protocolError else .ok data
  | _ => refuse .protocolError

theorem x224ParseData_wrap (payload : Bytes) :
    (x224WrapData payload >>= x224ParseData) = .ok payload := rfl

end LibRdp.Connect
