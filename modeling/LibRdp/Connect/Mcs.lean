import LibRdp.Connect.Tpkt
import LibRdp.Coding.Frame

/-! # MCS connect PDUs

The BER numbers of `mcs.c`, the connect initial and the connect response. A connect initial is
read field by field; a connect response by a scanner that goes into every constructed item.
-/

namespace LibRdp.Connect

open Coding

/-- `rdp_mcs_write_ber_length`. -/
def writeBerLength (length : Nat) : Bytes :=
  if length < 0x80 then [UInt8.ofNat length]
  else
    let digits := bigEndian 256 length
    UInt8.ofNat (0x80 + digits.length) :: digits.map UInt8.ofNat

/-- `rdp_mcs_read_ber_length`. -/
def readBerLength (stream : Bytes) : Attempt (Nat × Bytes) := do
  let (first, stream) ← readU8 stream
  if first < 0x80 then pure (first.toNat, stream)
  else
    let count := first.toNat - 0x80
    if count = 0 ∨ 8 < count ∨ stream.length < count then refuse .protocolError
    else
      let (digits, stream) ← readBytes stream count
      pure (fromBigEndian 256 (digits.map UInt8.toNat), stream)

/-- The loop of `rdp_mcs_write_ber_integer`: zeros that the sign of the next byte makes up for. -/
def trimInteger : Bytes → Bytes
  | first :: second :: rest =>
      if first = 0 ∧ second < 0x80 then trimInteger (second :: rest) else first :: second :: rest
  | bytes => bytes

/-- `rdp_mcs_write_ber_integer`. -/
def writeBerInteger (value : UInt32) : Bytes :=
  let trimmed := trimInteger (u32BeBytes value.toNat)
  let bytes := if 0x80 ≤ trimmed.headD 0 then 0 :: trimmed else trimmed
  [0x02] ++ writeBerLength bytes.length ++ bytes

/-- `rdp_mcs_write_ber_octet_string`. -/
def writeBerOctetString (data : Bytes) : Bytes := [0x04] ++ writeBerLength data.length ++ data

/-- `rdp_mcs_write_domain_parameters`. -/
def writeDomainParameters (maxChannels maxUsers maxTokens priorities minThroughput maxHeight
    maxPduSize protocolVersion : UInt32) : Bytes :=
  let body := [maxChannels, maxUsers, maxTokens, priorities, minThroughput, maxHeight,
    maxPduSize, protocolVersion].flatMap writeBerInteger
  [0x30] ++ writeBerLength body.length ++ body

/-- `rdp_mcs_read_ber_octet_string`. -/
def readBerOctetString (stream : Bytes) : Attempt (Bytes × Bytes) := do
  let (tag, stream) ← readU8 stream
  if tag ≠ 0x04 then refuse .protocolError
  else
    let (length, stream) ← readBerLength stream
    readBytes stream length

/-- `rdp_mcs_skip_ber_sequence`. -/
def skipBerSequence (stream : Bytes) : Attempt Bytes := do
  let (tag, stream) ← readU8 stream
  if tag ≠ 0x30 then refuse .protocolError
  else
    let (length, stream) ← readBerLength stream
    let (_, stream) ← readBytes stream length
    pure stream

/-- `rdp_mcs_read_upward_flag`. -/
def readUpwardFlag (stream : Bytes) : Attempt Bytes := do
  let (tag, stream) ← readU8 stream
  if tag ≠ 0x01 then refuse .protocolError
  else
    let (length, stream) ← readBerLength stream
    if length ≠ 1 then refuse .protocolError
    else
      let (value, stream) ← readU8 stream
      if value = 0 then refuse .protocolError else pure stream

def globalChannelId : Nat := 1003

def maxPduSize : UInt32 := 65528

/-- `rdp_mcs_write_connect_initial`. -/
def writeConnectInitial (gccData : Bytes) : Attempt Bytes :=
  let body := writeBerOctetString [0x01] ++ writeBerOctetString [0x01] ++ [0x01, 0x01, 0xff] ++
    writeDomainParameters 34 2 0 1 0 1 65535 2 ++ writeDomainParameters 1 1 1 1 0 1 1056 2 ++
    writeDomainParameters 65535 64535 65535 1 0 1 65535 2 ++ writeBerOctetString gccData
  .ok ([0x7f, 0x65] ++ writeBerLength body.length ++ body)

/-- `rdp_mcs_parse_connect_initial`, with the user data it exposes. -/
def parseConnectInitial (data : Bytes) : Attempt Bytes := do
  let (tag0, stream) ← readU8 data
  let (tag1, stream) ← readU8 stream
  if tag0 ≠ 0x7f ∨ tag1 ≠ 0x65 then refuse .protocolError
  else
    let (bodyLen, stream) ← readBerLength stream
    if bodyLen ≠ stream.length then refuse .protocolError
    else
      let (calling, stream) ← readBerOctetString stream
      if calling.length = 0 then refuse .protocolError
      else
        let (called, stream) ← readBerOctetString stream
        if called.length = 0 then refuse .protocolError
        else
          let stream ← readUpwardFlag stream
          let stream ← skipBerSequence stream
          let stream ← skipBerSequence stream
          let stream ← skipBerSequence stream
          let (userData, stream) ← readBerOctetString stream
          if userData.length = 0 ∨ stream.length ≠ 0 then refuse .protocolError
          else pure userData

/-- `rdp_mcs_connect_response`. -/
structure McsConnectResponse where
  hasResult : Bool := false
  result : UInt8 := 0
  userData : Option Bytes := none
  deriving Repr, DecidableEq

/-- `rdp_mcs_write_connect_response`. -/
def writeConnectResponse (gccData : Bytes) : Attempt Bytes :=
  let body := [0x0a] ++ writeBerLength 1 ++ [0] ++ writeBerInteger 0 ++
    writeDomainParameters 34 3 0 1 0 1 maxPduSize 2 ++ writeBerOctetString gccData
  .ok ([0x7f, 0x66] ++ writeBerLength body.length ++ body)

/-- The loop of `rdp_mcs_read_ber_tag`; `room` is how many bytes the tag may still get. -/
def readBerTagRest : Nat → Bytes → Attempt (Bytes × Bytes)
  | 0, _ => refuse .protocolError
  | room + 1, stream => do
      let (next, stream) ← readU8 stream
      if 0x80 ≤ next then
        let (more, stream) ← readBerTagRest room stream
        pure (next :: more, stream)
      else pure ([next], stream)

/-- `rdp_mcs_read_ber_tag`: the tag and whether its item is constructed. -/
def readBerTag (stream : Bytes) : Attempt ((Bytes × Bool) × Bytes) := do
  let (first, stream) ← readU8 stream
  let constructed : Bool := first &&& 0x20 ≠ 0
  if first &&& 0x1f = 0x1f then
    let (more, stream) ← readBerTagRest 7 stream
    pure ((first :: more, constructed), stream)
  else pure (([first], constructed), stream)

/-- The two branches of `rdp_mcs_scan_connect_response` that take what they find. -/
def visitItem (response : McsConnectResponse) (tag payload : Bytes) : McsConnectResponse :=
  if tag = [0x0a] ∧ payload.length = 1 then
    { response with hasResult := true, result := payload.headD 0 }
  else if tag = [0x04] then { response with userData := some payload }
  else response

/-- The body of the loop of `rdp_mcs_scan_connect_response`; `deeper` is the function's call of
itself. -/
def scanItem (deeper : Bytes → McsConnectResponse → Attempt McsConnectResponse)
    (response : McsConnectResponse) (stream : Bytes) : Attempt (McsConnectResponse × Bytes) := do
  let ((tag, constructed), stream) ← readBerTag stream
  let (itemLen, stream) ← readBerLength stream
  let (payload, stream) ← readBytes stream itemLen
  if (tag = [0x0a] ∧ itemLen = 1) ∨ tag = [0x04] ∨ ¬constructed then
    pure (visitItem response tag payload, stream)
  else
    let response ← deeper payload response
    pure (response, stream)

theorem readU8_consumes : Consumes readU8 := by
  intro stream a rest read
  unfold readU8 at read
  split at read
  · cases read
    exact Nat.lt_succ_self _
  · cases read

theorem readBerLength_moves : Moves readBerLength := by
  refine .bind readU8_moves fun first => .ite (.pure _) (.ite (.error _) ?_)
  exact .bind (readBytes_moves _) fun digits => .pure _

theorem readBerTagRest_moves (room : Nat) : Moves (readBerTagRest room) := by
  induction room with
  | zero => exact .error _
  | succ room ih =>
    exact .bind readU8_moves fun next => .ite (.bind ih fun more => .pure _) (.pure _)

theorem readBerTag_consumes : Consumes readBerTag :=
  .bind readU8_consumes fun _ =>
    .ite (.bind (readBerTagRest_moves 7) fun _ => .pure _) (.pure _)

theorem scanItem_consumes (deeper : Bytes → McsConnectResponse → Attempt McsConnectResponse)
    (response : McsConnectResponse) : Consumes (scanItem deeper response) := by
  refine .bind readBerTag_consumes fun tag => .bind readBerLength_moves fun itemLen => ?_
  refine .bind (readBytes_moves itemLen) fun payload => .ite (.pure _) ?_
  intro stream next rest read
  obtain ⟨found, -, read⟩ := bind_eq_ok.mp read
  cases read
  exact List.suffix_refl _

/-- `rdp_mcs_scan_connect_response`; `levels` is `9 - depth`. -/
def scanConnectResponse : Nat → Bytes → McsConnectResponse → Attempt McsConnectResponse
  | 0, _, _ => refuse .protocolError
  | levels + 1, data, response => do
      let items : Consumer UInt8 Stop McsConnectResponse :=
        ⟨scanItem (scanConnectResponse levels), scanItem_consumes _⟩
      let response ← items.drain response data
      if response.hasResult then pure response else refuse .protocolError

/-- `rdp_mcs_parse_connect_response`. -/
def parseConnectResponse (data : Bytes) : Attempt McsConnectResponse :=
  scanConnectResponse 9 data {}

end LibRdp.Connect
