import LibRdp.Common
import LibRdp.Machine.Reassembly

/-! # Dynamic virtual-channel PDUs

Every PDU starts with a byte of command, priority (or length code) and width code,
followed by the channel id in one, two or four bytes. What the writers produce reads
back as it was written; what a parser accepts names the command and the channel that
the dispatchers look at first.
-/

namespace LibRdp.Channels

/-- The commands of `RDP_DYNAMIC_CHANNEL_CMD_*`. -/
def cmdCreate : Nat := 1
def cmdDataFirst : Nat := 2
def cmdData : Nat := 3
def cmdClose : Nat := 4
def cmdCapabilities : Nat := 5
def cmdDataFirstCompressed : Nat := 6
def cmdDataCompressed : Nat := 7
def cmdSoftSyncRequest : Nat := 8
def cmdSoftSyncResponse : Nat := 9

/-- `RDP_DYNAMIC_CHANNEL_STATUS_OK` and `RDP_DYNAMIC_CHANNEL_STATUS_NOT_SUPPORTED`. -/
def createStatusOk : UInt32 := 0
def createStatusNotSupported : UInt32 := 0xc00000bb

/-- `RDP_DYNAMIC_CHANNEL_MAX_PDU_SIZE` and `RDP_DYNAMIC_CHANNEL_SINGLE_MESSAGE_LIMIT`. -/
def maxPduSize : Nat := 1600
def singleMessageLimit : Nat := 1590

def readNumber (stream : Bytes) (width : Nat) : Attempt (UInt32 × Bytes) :=
  if width = 1 then do
    let (b, stream) ← readU8 stream
    pure (UInt32.ofNat b.toNat, stream)
  else if width = 2 then do
    let (v, stream) ← readU16Le stream
    pure (UInt32.ofNat v.toNat, stream)
  else if width = 4 then readU32Le stream
  else refuse .protocolError

def writeNumber (value : UInt32) (width : Nat) : Attempt Bytes :=
  if width = 1 then
    if value.toNat > 0xff then refuse .invalidArgument else .ok [UInt8.ofNat value.toNat]
  else if width = 2 then
    if value.toNat > 0xffff then refuse .invalidArgument else .ok (u16LeBytes value.toNat)
  else if width = 4 then .ok (u32LeBytes value.toNat)
  else refuse .invalidArgument

/-- `rdp_dynamic_channel_channel_id_code`. -/
def channelIdCode (channelId : UInt32) (channelIdBytes : Nat) : Attempt Nat :=
  if channelIdBytes = 1 then
    if channelId.toNat > 0xff then refuse .invalidArgument else .ok 0
  else if channelIdBytes = 2 then
    if channelId.toNat > 0xffff then refuse .invalidArgument else .ok 1
  else if channelIdBytes = 4 then .ok 2
  else refuse .invalidArgument

def numberWidth (value : Nat) : Nat :=
  if value ≤ 0xff then 1 else if value ≤ 0xffff then 2 else 4

/-- `rdp_dynamic_channel_read_channel_id`, `_read_length`, `_write_channel_id`, `_write_length`,
    `_length_bytes` and `_select_channel_id_bytes`: the source repeats one function for each. -/
abbrev readChannelId := readNumber
abbrev readLength := readNumber
abbrev writeChannelId := writeNumber
abbrev writeLength := writeNumber
abbrev lengthBytesOf := numberWidth
abbrev selectChannelIdBytes := numberWidth

/-- `rdp_dynamic_channel_length_code`. -/
def lengthCode (lengthBytes : Nat) : Nat :=
  if lengthBytes = 1 then 0 else if lengthBytes = 2 then 1 else 2

/-- `rdp_dynamic_channel_validate_priority`. -/
def validatePriority (priority : Nat) : Attempt Unit :=
  if priority ≤ 3 then .ok () else refuse .invalidArgument

/-- `rdp_dynamic_channel_header`. -/
structure DynamicHeader where
  raw : UInt8
  command : Nat
  priority : Nat
  channelIdBytes : Nat
  lengthBytes : Nat
  deriving Repr, DecidableEq

def codeWidth (code : Nat) : Nat := if code = 0 then 1 else if code = 1 then 2 else 4

/-- `rdp_dynamic_channel_parse_header`. -/
def parseHeader : Bytes → Attempt DynamicHeader
  | [] => refuse .protocolError
  | raw :: _ =>
      let command := raw.toNat / 16
      let priority := raw.toNat / 4 % 4
      let cbId := raw.toNat % 4
      if command = 0 ∨ command > cmdSoftSyncResponse then refuse .protocolError
      else if cbId = 3 then refuse .protocolError
      else if command = cmdDataFirst ∨ command = cmdDataFirstCompressed then
        if priority = 3 then refuse .protocolError
        else .ok { raw, command, priority, channelIdBytes := codeWidth cbId
                   lengthBytes := codeWidth priority }
      else .ok { raw, command, priority, channelIdBytes := codeWidth cbId, lengthBytes := 0 }

def headerByte (command priority code : Nat) : UInt8 :=
  UInt8.ofNat (16 * command + 4 * priority + code)

/-- What every parser of a channel PDU starts with: its own command and a channel id. -/
def parseChannel (command : Nat) (data : Bytes) : Attempt (DynamicHeader × UInt32 × Bytes) := do
  let header ← parseHeader data
  if header.command ≠ command then refuse .protocolError
  else do
    let (channelId, stream) ← readChannelId (data.drop 1) header.channelIdBytes
    pure (header, channelId, stream)

/-- `rdp_dynamic_channel_create_request`. -/
structure CreateRequest where
  channelId : UInt32
  channelIdBytes : Nat
  priority : Nat
  name : Bytes
  deriving Repr, DecidableEq

/-- `rdp_dynamic_channel_create_response`. -/
structure CreateResponse where
  channelId : UInt32
  channelIdBytes : Nat
  statusCode : UInt32
  deriving Repr, DecidableEq

/-- `rdp_dynamic_channel_data_pdu`. -/
structure DataPdu where
  channelId : UInt32
  channelIdBytes : Nat
  data : Bytes
  deriving Repr, DecidableEq

/-- `rdp_dynamic_channel_data_first_pdu`. -/
structure DataFirstPdu where
  channelId : UInt32
  channelIdBytes : Nat
  totalLength : UInt32
  data : Bytes
  deriving Repr, DecidableEq

/-- `rdp_dynamic_channel_close_pdu`. -/
structure ClosePdu where
  channelId : UInt32
  channelIdBytes : Nat
  deriving Repr, DecidableEq

/-- `rdp_dynamic_channel_parse_create_request`: the name ends at the first zero byte. -/
def parseCreateRequest (data : Bytes) : Attempt CreateRequest := do
  let (header, channelId, stream) ← parseChannel cmdCreate data
  let name := stream.takeWhile (· ≠ 0)
  if name.length = stream.length ∨ name.length = 0 then refuse .protocolError
  else pure { channelId, channelIdBytes := header.channelIdBytes, priority := header.priority, name }

/-- `rdp_dynamic_channel_parse_create_response`. -/
def parseCreateResponse (data : Bytes) : Attempt CreateResponse := do
  let (header, channelId, stream) ← parseChannel cmdCreate data
  let (statusCode, stream) ← readU32Le stream
  if stream.length ≠ 0 then refuse .protocolError
  else pure { channelId, channelIdBytes := header.channelIdBytes, statusCode }

/-- `rdp_dynamic_channel_parse_data`. -/
def parseData (data : Bytes) : Attempt DataPdu := do
  let (header, channelId, stream) ← parseChannel cmdData data
  pure { channelId, channelIdBytes := header.channelIdBytes, data := stream }

def parseFirst (command : Nat) (data : Bytes) : Attempt DataFirstPdu := do
  let (header, channelId, stream) ← parseChannel command data
  let (totalLength, stream) ← readLength stream header.lengthBytes
  if totalLength.toNat = 0 then refuse .protocolError
  else if stream.length > totalLength.toNat then refuse .protocolError
  else pure { channelId, channelIdBytes := header.channelIdBytes, totalLength, data := stream }

/-- `rdp_dynamic_channel_parse_data_first`. -/
def parseDataFirst (data : Bytes) : Attempt DataFirstPdu := parseFirst cmdDataFirst data

/-- `rdp_dynamic_channel_parse_compressed_data_first`. -/
def parseCompressedDataFirst (data : Bytes) : Attempt DataFirstPdu := do
  let pdu ← parseFirst cmdDataFirstCompressed data
  if pdu.data.length < 2 then refuse .protocolError else pure pdu

/-- `rdp_dynamic_channel_parse_compressed_data`. -/
def parseCompressedData (data : Bytes) : Attempt DataPdu := do
  let (header, channelId, stream) ← parseChannel cmdDataCompressed data
  if stream.length < 2 then refuse .protocolError
  else pure { channelId, channelIdBytes := header.channelIdBytes, data := stream }

/-- `rdp_dynamic_channel_parse_close`. -/
def parseClose (data : Bytes) : Attempt ClosePdu := do
  let (header, channelId, stream) ← parseChannel cmdClose data
  if stream.length ≠ 0 then refuse .protocolError
  else pure { channelId, channelIdBytes := header.channelIdBytes }

/-- `rdp_dynamic_channel_capabilities`; the charges themselves are not used. -/
structure Capabilities where
  version : UInt16
  hasPriorityCharges : Bool
  deriving Repr, DecidableEq

/-- `rdp_dynamic_channel_parse_capabilities`. -/
def parseCapabilities (data : Bytes) : Attempt Capabilities := do
  let header ← parseHeader data
  if header.command ≠ cmdCapabilities ∨ data.length < 4 then refuse .protocolError
  else do
    let (_, stream) ← readU8 (data.drop 1)
    let (version, stream) ← readU16Le stream
    if version = 0 then refuse .protocolError
    else if version ≥ 2 then
      if stream.length = 0 then pure { version, hasPriorityCharges := false }
      else if stream.length ≠ 8 then refuse .protocolError
      else pure { version, hasPriorityCharges := true }
    else if stream.length ≠ 0 then refuse .protocolError
    else pure { version, hasPriorityCharges := false }

def writeChannel (command priority : Nat) (channelId : UInt32) (channelIdBytes : Nat)
    (rest : Bytes) : Attempt Bytes := do
  let code ← channelIdCode channelId channelIdBytes
  let id ← writeChannelId channelId channelIdBytes
  pure (headerByte command priority code :: (id ++ rest))

/-- `rdp_dynamic_channel_write_create_request`. -/
def writeCreateRequest (channelId : UInt32) (channelIdBytes priority : Nat) (name : Bytes) :
    Attempt Bytes :=
  if name.length = 0 then refuse .invalidArgument
  else do
    validatePriority priority
    writeChannel cmdCreate priority channelId channelIdBytes (name ++ [0])

/-- `rdp_dynamic_channel_write_create_response`. -/
def writeCreateResponse (channelId : UInt32) (channelIdBytes : Nat) (statusCode : UInt32) :
    Attempt Bytes :=
  writeChannel cmdCreate 0 channelId channelIdBytes (u32LeBytes statusCode.toNat)

/-- `rdp_dynamic_channel_write_data_ex`. -/
def writeDataEx (channelId : UInt32) (channelIdBytes priority : Nat) (data : Bytes) :
    Attempt Bytes := do
  validatePriority priority
  writeChannel cmdData priority channelId channelIdBytes data

/-- `rdp_dynamic_channel_write_data_first_ex`; the priority is checked and not written. -/
def writeDataFirstEx (channelId : UInt32) (channelIdBytes priority : Nat) (totalLength : UInt32)
    (data : Bytes) : Attempt Bytes :=
  if totalLength.toNat = 0 ∨ data.length > totalLength.toNat then refuse .invalidArgument
  else do
    validatePriority priority
    let _ ← channelIdCode channelId channelIdBytes
    let lengthBytes := lengthBytesOf totalLength.toNat
    if 1 + channelIdBytes + lengthBytes + data.length > maxPduSize then refuse .invalidArgument
    else do
      let length ← writeLength totalLength lengthBytes
      writeChannel cmdDataFirst (lengthCode lengthBytes) channelId channelIdBytes (length ++ data)

/-- `rdp_dynamic_channel_write_close`. -/
def writeClose (channelId : UInt32) (channelIdBytes : Nat) : Attempt Bytes :=
  writeChannel cmdClose 0 channelId channelIdBytes []

def NumberFits (value : UInt32) (width : Nat) : Prop :=
  width = 1 ∧ value.toNat ≤ 0xff ∨ width = 2 ∧ value.toNat ≤ 0xffff ∨ width = 4

theorem numberWidth_fits (value : UInt32) : NumberFits value (numberWidth value.toNat) := by
  unfold NumberFits numberWidth
  split
  · exact .inl ⟨rfl, ‹_›⟩
  split
  · exact .inr (.inl ⟨rfl, ‹_›⟩)
  · exact .inr (.inr rfl)

theorem codeWidth_lengthCode (value : Nat) :
    codeWidth (lengthCode (numberWidth value)) = numberWidth value ∧
      lengthCode (numberWidth value) ≤ 2 := by
  unfold numberWidth
  split
  · decide
  · split <;> decide

theorem writeNumber_ok {value : UInt32} {width : Nat} (fits : NumberFits value width) :
    ∃ wire, writeNumber value width = .ok wire ∧ wire.length = width ∧
      ∀ rest, readNumber (wire ++ rest) width = .ok (value, rest) := by
  obtain ⟨rfl, small⟩ | ⟨rfl, small⟩ | rfl := fits
  · refine ⟨[UInt8.ofNat value.toNat], ?_, rfl, fun rest => ?_⟩
    · rw [writeNumber, if_pos rfl, if_neg (by omega)]
    · have back : (UInt8.ofNat value.toNat).toNat = value.toNat := by
        rw [UInt8.toNat_ofNat', Nat.mod_eq_of_lt (by omega)]
      simp only [readNumber, if_true, List.cons_append, List.nil_append, readU8, ok_bind,
        attempt_pure, back, UInt32.ofNat_toNat]
  · refine ⟨u16LeBytes value.toNat, ?_, rfl, fun rest => ?_⟩
    · rw [writeNumber, if_neg (by decide), if_pos rfl, if_neg (by omega)]
    · have back : (UInt16.ofNat value.toNat).toNat = value.toNat := by
        rw [UInt16.toNat_ofNat', Nat.mod_eq_of_lt (by omega)]
      have read := readU16Le_append (UInt16.ofNat value.toNat) rest
      rw [back] at read
      rw [readNumber, if_neg (by decide), if_pos rfl, read]
      simp only [ok_bind, attempt_pure, back, UInt32.ofNat_toNat]
  · exact ⟨u32LeBytes value.toNat, rfl, rfl, fun rest => readU32Le_append value rest⟩

variable {channelId : UInt32}

theorem channelIdCode_ok {width : Nat} (fits : NumberFits channelId width) :
    ∃ code, channelIdCode channelId width = .ok code ∧ code ≤ 2 ∧ codeWidth code = width := by
  obtain ⟨rfl, small⟩ | ⟨rfl, small⟩ | rfl := fits
  · exact ⟨0, by rw [channelIdCode, if_pos rfl, if_neg (by omega)], by decide, rfl⟩
  · exact ⟨1, by rw [channelIdCode, if_neg (by decide), if_pos rfl, if_neg (by omega)], by decide,
      rfl⟩
  · exact ⟨2, rfl, by decide, rfl⟩

theorem parseHeader_byte {command priority code : Nat} (rest : Bytes) (some : 0 < command)
    (known : command ≤ cmdSoftSyncResponse) (width : code ≤ 2) (small : priority ≤ 3)
    (first : command = cmdDataFirst ∨ command = cmdDataFirstCompressed → priority ≤ 2) :
    parseHeader (headerByte command priority code :: rest) =
      .ok { raw := headerByte command priority code, command, priority
            channelIdBytes := codeWidth code
            lengthBytes :=
              if command = cmdDataFirst ∨ command = cmdDataFirstCompressed then codeWidth priority
              else 0 } := by
  have nine : cmdSoftSyncResponse = 9 := rfl
  have raw : (headerByte command priority code).toNat = 16 * command + 4 * priority + code := by
    rw [headerByte, UInt8.toNat_ofNat', Nat.mod_eq_of_lt (by omega)]
  have isCommand : (headerByte command priority code).toNat / 16 = command := by omega
  have isPriority : (headerByte command priority code).toNat / 4 % 4 = priority := by omega
  have isCode : (headerByte command priority code).toNat % 4 = code := by omega
  simp only [parseHeader, isCommand, isPriority, isCode]
  rw [if_neg (by omega), if_neg (by omega)]
  split
  · rw [if_neg (by have := first ‹_›; omega)]
  · rfl

theorem writeChannel_ok {command priority width : Nat} {channelId : UInt32} (rest : Bytes)
    (fits : NumberFits channelId width) (some : 0 < command)
    (known : command ≤ cmdSoftSyncResponse) (small : priority ≤ 3)
    (first : command = cmdDataFirst ∨ command = cmdDataFirstCompressed → priority ≤ 2) :
    ∃ wire header, writeChannel command priority channelId width rest = .ok wire ∧
      wire.length = 1 + width + rest.length ∧
      parseChannel command wire = .ok (header, channelId, rest) ∧
      header.priority = priority ∧ header.channelIdBytes = width ∧
      header.lengthBytes =
        (if command = cmdDataFirst ∨ command = cmdDataFirstCompressed then codeWidth priority
        else 0) := by
  obtain ⟨code, coded, short, same⟩ := channelIdCode_ok fits
  obtain ⟨id, wrote, size, reads⟩ := writeNumber_ok fits
  have header := parseHeader_byte (id ++ rest) some known short small first
  have wireLength : (headerByte command priority code :: (id ++ rest)).length =
      1 + width + rest.length := by
    simp only [List.length_cons, List.length_append, size]
    omega
  generalize lengths :
    (if command = cmdDataFirst ∨ command = cmdDataFirstCompressed then codeWidth priority else 0) =
      lengthBytes at header ⊢
  refine ⟨headerByte command priority code :: (id ++ rest),
    { raw := headerByte command priority code, command, priority, channelIdBytes := width
      lengthBytes }, ?_, wireLength, ?_, rfl, rfl, rfl⟩
  · simp only [writeChannel, coded, writeChannelId, wrote, ok_bind, attempt_pure]
  · simp only [parseChannel, header, ok_bind, ne_eq, not_true_eq_false, if_false,
      List.drop_one, List.tail_cons, same, readChannelId, reads, attempt_pure]

section RoundTrip

variable {channelId : UInt32} {width priority : Nat}

theorem validatePriority_ok (small : priority ≤ 3) : validatePriority priority = .ok () := if_pos small

variable (fits : NumberFits channelId width)
include fits

theorem writeDataEx_ok (small : priority ≤ 3) (data : Bytes) :
    ∃ wire, writeDataEx channelId width priority data = .ok wire ∧
      wire.length = 1 + width + data.length ∧
      parseData wire = .ok { channelId, channelIdBytes := width, data } := by
  obtain ⟨wire, header, wrote, size, parsed, _, bytes, _⟩ :=
    @writeChannel_ok cmdData priority width channelId data fits (by decide) (by decide) small
      (fun first => absurd first (by decide))
  refine ⟨wire, ?_, size, ?_⟩
  · simp only [writeDataEx, validatePriority_ok small, ok_bind, wrote]
  · simp only [parseData, parsed, ok_bind, attempt_pure, bytes]

omit fits in
theorem writeDataFirstEx_ok (fits : NumberFits channelId width) (small : priority ≤ 3)
    {totalLength : UInt32} {data : Bytes} (some : 0 < totalLength.toNat)
    (within : data.length ≤ totalLength.toNat)
    (sized : 1 + width + numberWidth totalLength.toNat + data.length ≤ maxPduSize) :
    ∃ wire, writeDataFirstEx channelId width priority totalLength data = .ok wire ∧
      wire.length = 1 + width + numberWidth totalLength.toNat + data.length ∧
      parseDataFirst wire = .ok { channelId, channelIdBytes := width, totalLength, data } := by
  obtain ⟨code, coded, _, _⟩ := channelIdCode_ok fits
  obtain ⟨length, wroteLength, lengthSize, reads⟩ :=
    writeNumber_ok (numberWidth_fits totalLength)
  obtain ⟨sameWidth, shortCode⟩ := codeWidth_lengthCode totalLength.toNat
  obtain ⟨wire, header, wrote, size, parsed, _, bytes, lengthBytes⟩ :=
    @writeChannel_ok cmdDataFirst (lengthCode (numberWidth totalLength.toNat)) width channelId
      (length ++ data) fits (by decide) (by decide) (by omega) (fun _ => shortCode)
  rw [if_pos (.inl rfl), sameWidth] at lengthBytes
  refine ⟨wire, ?_, ?_, ?_⟩
  · simp only [writeDataFirstEx, writeLength, lengthBytesOf]
    rw [if_neg (by omega), validatePriority_ok small, ok_bind, coded, ok_bind,
      if_neg (by omega), wroteLength, ok_bind, wrote]
  · rw [size, List.length_append, lengthSize]
    omega
  · simp only [parseDataFirst, parseFirst, parsed, ok_bind, lengthBytes, readLength, reads]
    rw [if_neg (by omega), if_neg (by omega), attempt_pure, bytes]

theorem writeClose_ok :
    ∃ wire, writeClose channelId width = .ok wire ∧
      parseClose wire = .ok { channelId, channelIdBytes := width } := by
  obtain ⟨wire, header, wrote, _, parsed, _, bytes, _⟩ :=
    @writeChannel_ok cmdClose 0 width channelId [] fits (by decide) (by decide) (by decide)
      (by decide)
  refine ⟨wire, wrote, ?_⟩
  simp only [parseClose, parsed, ok_bind, List.length_nil, ne_eq, not_true_eq_false,
    if_false, attempt_pure, bytes]

theorem writeCreateResponse_ok (statusCode : UInt32) :
    ∃ wire, writeCreateResponse channelId width statusCode = .ok wire ∧
      parseCreateResponse wire = .ok { channelId, channelIdBytes := width, statusCode } := by
  obtain ⟨wire, header, wrote, _, parsed, _, bytes, _⟩ :=
    @writeChannel_ok cmdCreate 0 width channelId (u32LeBytes statusCode.toNat) fits (by decide)
      (by decide) (by decide) (by decide)
  have read := readU32Le_append statusCode []
  rw [List.append_nil] at read
  refine ⟨wire, wrote, ?_⟩
  simp only [parseCreateResponse, parsed, ok_bind, read, List.length_nil, ne_eq,
    not_true_eq_false, if_false, attempt_pure, bytes]

theorem writeCreateRequest_ok (small : priority ≤ 3) {name : Bytes} (some : name ≠ [])
    (text : ∀ byte ∈ name, byte ≠ 0) :
    ∃ wire, writeCreateRequest channelId width priority name = .ok wire ∧
      parseCreateRequest wire = .ok { channelId, channelIdBytes := width, priority, name } := by
  obtain ⟨wire, header, wrote, _, parsed, same, bytes, _⟩ :=
    @writeChannel_ok cmdCreate priority width channelId (name ++ [0]) fits (by decide) (by decide)
      small (fun first => absurd first (by decide))
  have length : 0 < name.length := List.length_pos_iff.mpr some
  have ends : (name ++ [0]).takeWhile (· ≠ (0 : UInt8)) = name := by
    rw [List.takeWhile_append_of_pos (by simpa using text)]
    simp
  refine ⟨wire, ?_, ?_⟩
  · rw [writeCreateRequest, if_neg (by omega), validatePriority_ok small, ok_bind, wrote]
  · simp only [parseCreateRequest, parsed, ok_bind, ends, List.length_append,
      List.length_singleton]
    rw [if_neg (by omega), attempt_pure, same, bytes]

end RoundTrip

def namesChannel (command : Nat) : Bool :=
  command ≠ cmdCapabilities && command ≠ cmdSoftSyncRequest && command ≠ cmdSoftSyncResponse

def pduChannel (data : Bytes) : Option UInt32 :=
  match parseHeader data with
  | .ok header =>
      if namesChannel header.command then
        match readChannelId (data.drop 1) header.channelIdBytes with
        | .ok (channelId, _) => some channelId
        | .error _ => none
      else none
  | .error _ => none

section Inversion

variable {command : Nat} {data : Bytes}

theorem parseChannel_inv {header : DynamicHeader} {channelId : UInt32} {stream : Bytes}
    (names : namesChannel command = true)
    (parsed : parseChannel command data = .ok (header, channelId, stream)) :
    parseHeader data = .ok header ∧ header.command = command ∧
      pduChannel data = some channelId := by
  obtain ⟨header', isHeader, parsed⟩ := bind_eq_ok.mp parsed
  split at parsed
  · cases parsed
  rename_i same
  obtain ⟨⟨id, rest⟩, read, last⟩ := bind_eq_ok.mp parsed
  cases last
  have isCommand : header.command = command := Decidable.not_not.mp same
  refine ⟨isHeader, isCommand, ?_⟩
  simp only [pduChannel, isHeader, isCommand, names, read, if_true]

theorem parseData_inv {pdu : DataPdu} (parsed : parseData data = .ok pdu) :
    ∃ header, parseHeader data = .ok header ∧ header.command = cmdData ∧
      pduChannel data = some pdu.channelId := by
  obtain ⟨⟨header, channelId, stream⟩, start, last⟩ := bind_eq_ok.mp parsed
  cases last
  exact ⟨header, parseChannel_inv rfl start⟩

theorem parseFirst_inv {pdu : DataFirstPdu} (names : namesChannel command = true)
    (parsed : parseFirst command data = .ok pdu) :
    ∃ header, parseHeader data = .ok header ∧ header.command = command ∧
      pduChannel data = some pdu.channelId ∧ 0 < pdu.totalLength.toNat ∧
      pdu.data.length ≤ pdu.totalLength.toNat := by
  simp only [parseFirst, bind_eq_ok, refuse_else, attempt_pure, Except.ok.injEq] at parsed
  obtain ⟨⟨header, channelId, stream⟩, start, totalLength, -, some, fits, rfl⟩ := parsed
  obtain ⟨isHeader, same, channel⟩ := parseChannel_inv names start
  exact ⟨header, isHeader, same, channel, Nat.pos_of_ne_zero some, Nat.not_lt.mp fits⟩

theorem parseCreateRequest_inv {request : CreateRequest}
    (parsed : parseCreateRequest data = .ok request) :
    ∃ header, parseHeader data = .ok header ∧ header.command = cmdCreate ∧
      pduChannel data = some request.channelId := by
  simp only [parseCreateRequest, bind_eq_ok, refuse_else, attempt_pure, Except.ok.injEq] at parsed
  obtain ⟨⟨header, channelId, stream⟩, start, -, rfl⟩ := parsed
  exact ⟨header, parseChannel_inv rfl start⟩

theorem parseCreateResponse_inv {response : CreateResponse}
    (parsed : parseCreateResponse data = .ok response) :
    ∃ header, parseHeader data = .ok header ∧ header.command = cmdCreate ∧
      pduChannel data = some response.channelId := by
  simp only [parseCreateResponse, bind_eq_ok, refuse_else, attempt_pure, Except.ok.injEq] at parsed
  obtain ⟨⟨header, channelId, stream⟩, start, statusCode, -, -, rfl⟩ := parsed
  exact ⟨header, parseChannel_inv rfl start⟩

theorem parseClose_inv {pdu : ClosePdu} (parsed : parseClose data = .ok pdu) :
    ∃ header, parseHeader data = .ok header ∧ header.command = cmdClose ∧
      pduChannel data = some pdu.channelId := by
  simp only [parseClose, bind_eq_ok, refuse_else, attempt_pure, Except.ok.injEq] at parsed
  obtain ⟨⟨header, channelId, stream⟩, start, -, rfl⟩ := parsed
  exact ⟨header, parseChannel_inv rfl start⟩

end Inversion

def ofChannel (channelId : UInt32) (data : Bytes) : Option Bytes :=
  if pduChannel data = some channelId then some data else none

theorem ofChannel_some {data wire : Bytes} (isOwn : ofChannel channelId data = some wire) :
    data = wire ∧ pduChannel data = some channelId := by
  unfold ofChannel at isOwn
  split at isOwn
  · cases isOwn
    exact ⟨rfl, ‹_›⟩
  · cases isOwn

theorem ofChannel_none {data : Bytes} (isOther : ofChannel channelId data = none) :
    pduChannel data ≠ some channelId := by
  unfold ofChannel at isOther
  split at isOther
  · cases isOther
  · assumption

inductive ReadsPiece (channelId : UInt32) (wire : Bytes) : Machine.Piece UInt8 → Prop where
  | first (parsed : parseDataFirst wire = .ok { channelId, channelIdBytes, totalLength, data }) :
      ReadsPiece channelId wire (.first totalLength.toNat data)
  | more (parsed : parseData wire = .ok { channelId, channelIdBytes, data }) :
      ReadsPiece channelId wire (.more data)

theorem ReadsPiece.own {wire : Bytes} {piece : Machine.Piece UInt8}
    (reads : ReadsPiece channelId wire piece) : ofChannel channelId wire = some wire := by
  cases reads with
  | first parsed =>
    obtain ⟨_, _, _, channel, _⟩ := parseFirst_inv rfl parsed
    exact if_pos channel
  | more parsed =>
    obtain ⟨_, _, _, channel⟩ := parseData_inv parsed
    exact if_pos channel

end LibRdp.Channels
