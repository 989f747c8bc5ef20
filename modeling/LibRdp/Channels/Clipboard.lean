import LibRdp.Common

/-! # Messages of the clipboard channel

A packet is a type, flags and a payload of the announced length. Requests for data and for
file contents are answered by responses; a response to a request for data does not say which
request it answers, one for file contents has its stream id.
-/

namespace LibRdp.Channels

/-- `RDP_CLIPBOARD_CB_*` of the packet types. -/
def cbMonitorReady : UInt16 := 0x0001
def cbFormatList : UInt16 := 0x0002
def cbFormatListResponse : UInt16 := 0x0003
def cbFormatDataRequest : UInt16 := 0x0004
def cbFormatDataResponse : UInt16 := 0x0005
def cbClipCaps : UInt16 := 0x0007
def cbFileContentsRequest : UInt16 := 0x0008
def cbFileContentsResponse : UInt16 := 0x0009
def cbLockClipData : UInt16 := 0x000a
def cbUnlockClipData : UInt16 := 0x000b

/-- `RDP_CLIPBOARD_CB_*` of the flags. -/
def cbResponseOk : UInt16 := 0x0001
def cbResponseFail : UInt16 := 0x0002
def cbAsciiNames : UInt16 := 0x0004

/-- `RDP_CLIPBOARD_CAPSTYPE_GENERAL`. -/
def capsTypeGeneral : UInt16 := 0x0001

/-- `RDP_CLIPBOARD_FILECONTENTS_*`. -/
def fileContentsSize : UInt32 := 0x00000001
def fileContentsRange : UInt32 := 0x00000002

/-- `RDP_CLIPBOARD_SHORT_FORMAT_NAME_LEN`. -/
def shortFormatNameLen : Nat := 36

/-- `rdp_clipboard_packet`. -/
structure ClipboardPacket where
  type : UInt16
  flags : UInt16
  payload : Bytes
  deriving Repr, DecidableEq

/-- `rdp_clipboard_parse_packet`. -/
def clipboardParsePacket (data : Bytes) : Attempt ClipboardPacket := do
  let (type, stream) ← readU16Le data
  let (flags, stream) ← readU16Le stream
  let (length, stream) ← readU32Le stream
  if length.toNat ≠ stream.length then refuse .protocolError
  else pure { type, flags, payload := stream }

/-- `rdp_clipboard_response_flag`. -/
def clipboardResponseFlag (flags : UInt16) : Bool := flags == cbResponseOk || flags == cbResponseFail

/-- `rdp_clipboard_require_packet`. -/
def clipboardRequirePacket (packet : ClipboardPacket) (type flagsMask : UInt16) : Attempt Unit :=
  if packet.type ≠ type ∨ packet.flags &&& ~~~flagsMask ≠ 0 then refuse .protocolError else pure ()

/-- `rdp_clipboard_capabilities`: the number of sets and the flags of the last general one. -/
structure ClipboardCapabilities where
  count : UInt16
  generalFlags : Option UInt32
  deriving Repr, DecidableEq

/-- The loop of `rdp_clipboard_parse_capabilities`. -/
def parseCapabilitySets : Nat → Bytes → Option UInt32 → Attempt (Option UInt32 × Bytes)
  | 0, stream, general => pure (general, stream)
  | count + 1, before, general => do
      let (type, stream) ← readU16Le before
      let (length, stream) ← readU16Le stream
      if length < 4 ∨ length.toNat - 4 > stream.length then refuse .protocolError
      else if type = capsTypeGeneral then
        if length < 12 then refuse .protocolError
        else
          let (_, stream) ← readU32Le stream
          let (flags, _) ← readU32Le stream
          parseCapabilitySets count (before.drop length.toNat) (some flags)
      else parseCapabilitySets count (before.drop length.toNat) general

/-- `rdp_clipboard_parse_capabilities`. -/
def clipboardParseCapabilities (packet : ClipboardPacket) : Attempt ClipboardCapabilities := do
  clipboardRequirePacket packet cbClipCaps 0
  let (count, stream) ← readU16Le packet.payload
  let (_, stream) ← readU16Le stream
  let (generalFlags, stream) ← parseCapabilitySets count.toNat stream none
  if stream ≠ [] then refuse .protocolError else pure { count, generalFlags }

/-- `librdp_server_clipboard_format`, and `rdp_clipboard_format_entry`. -/
structure ClipboardFormat where
  formatId : UInt32
  name : Bytes
  deriving Repr, DecidableEq

def utf16NullAt : Bytes → Option Nat
  | b0 :: b1 :: rest => if b0 = 0 ∧ b1 = 0 then some 0 else (utf16NullAt rest).map (· + 2)
  | _ => none

/-- `rdp_clipboard_find_utf16_null`. -/
def clipboardFindUtf16Null (data : Bytes) : Option Nat :=
  if data.length % 2 ≠ 0 then none else utf16NullAt data

/-- The id and the name of the long entry at the front of a list, with what follows it. -/
def longFormatEntry (data : Bytes) : Attempt (ClipboardFormat × Bytes) := do
  if data.length < 6 then refuse .protocolError
  else
    let (formatId, names) ← readU32Le data
    match clipboardFindUtf16Null names with
    | none => refuse .protocolError
    | some nameLen => pure ({ formatId, name := names.take nameLen }, names.drop (nameLen + 2))

/-- The loop of `rdp_clipboard_format_list_entry_count` over long names; each round takes six
    bytes or more, so as many rounds as there are bytes suffice. -/
def countLongFormats : Nat → Bytes → Nat → Attempt Nat
  | 0, _, found => pure found
  | rounds + 1, data, found =>
      if data = [] then pure found
      else do
        let (_, rest) ← longFormatEntry data
        if found = 2 ^ 32 - 1 then refuse .protocolError
        else countLongFormats rounds rest (found + 1)

/-- `rdp_clipboard_format_list_entry_count`. -/
def formatListEntryCount (data : Bytes) (longNames : Bool) : Attempt Nat :=
  if !longNames then
    if data.length % shortFormatNameLen ≠ 0 then refuse .protocolError
    else pure (data.length / shortFormatNameLen)
  else countLongFormats data.length data 0

/-- The loop of `rdp_clipboard_format_list_get_entry` over long names. -/
def getLongFormat (index : Nat) (data : Bytes) : Attempt ClipboardFormat :=
  if data = [] then refuse .invalidArgument
  else do
    let (entry, rest) ← longFormatEntry data
    match index with
    | 0 => pure entry
    | index + 1 => getLongFormat index rest

/-- `rdp_clipboard_format_list_get_entry` of a list with the flags of its packet. -/
def formatListGetEntry (flags : UInt16) (data : Bytes) (longNames : Bool) (index : Nat) :
    Attempt ClipboardFormat := do
  if !longNames then
    let count ← formatListEntryCount data longNames
    if index ≥ count then refuse .invalidArgument
    else
      let (formatId, item) ← readU32Le (data.drop (index * shortFormatNameLen))
      let field := item.take 32
      let name :=
        if flags &&& cbAsciiNames ≠ 0 then field.takeWhile (· != 0)
        else field.take ((clipboardFindUtf16Null field).getD 32)
      pure { formatId, name }
  else getLongFormat index data

/-- `rdp_clipboard_parse_format_data_request`, `_parse_lock` and `_parse_unlock`: one number. -/
def clipboardParseNumber (packet : ClipboardPacket) (type : UInt16) : Attempt UInt32 := do
  clipboardRequirePacket packet type 0
  if packet.payload.length ≠ 4 then refuse .protocolError
  else (readU32Le packet.payload).map Prod.fst

/-- `rdp_clipboard_format_data_response` and `rdp_clipboard_file_contents_response`; the first
    has no stream id. -/
structure ClipboardResponse where
  flags : UInt16
  streamId : UInt32 := 0
  data : Bytes
  deriving Repr, DecidableEq

/-- `rdp_clipboard_parse_format_data_response`. -/
def clipboardParseFormatDataResponse (packet : ClipboardPacket) : Attempt ClipboardResponse :=
  if packet.type ≠ cbFormatDataResponse ∨ !clipboardResponseFlag packet.flags then
    refuse .protocolError
  else if packet.flags = cbResponseFail ∧ packet.payload ≠ [] then refuse .protocolError
  else pure { flags := packet.flags, data := packet.payload }

/-- `rdp_clipboard_parse_file_contents_response`. -/
def clipboardParseFileContentsResponse (packet : ClipboardPacket) : Attempt ClipboardResponse :=
  if packet.type ≠ cbFileContentsResponse ∨ !clipboardResponseFlag packet.flags ∨
      packet.payload.length < 4 then refuse .protocolError
  else if packet.flags = cbResponseFail ∧ packet.payload.length ≠ 4 then refuse .protocolError
  else do
    let (streamId, data) ← readU32Le packet.payload
    pure { flags := packet.flags, streamId, data }

/-- `rdp_clipboard_file_contents_request`; `lindex` is the signed index as 32 bits. -/
structure FileContentsRequest where
  streamId : UInt32
  lindex : UInt32
  flags : UInt32
  position : UInt64
  requested : UInt32
  clipDataId : Option UInt32 := none
  deriving Repr, DecidableEq

def FileContentsRequest.valid (request : FileContentsRequest) : Bool :=
  (request.flags == fileContentsSize && request.position == 0 && request.requested == 8) ||
    request.flags == fileContentsRange

/-- `rdp_clipboard_parse_file_contents_request`. -/
def clipboardParseFileContentsRequest (packet : ClipboardPacket) :
    Attempt FileContentsRequest := do
  clipboardRequirePacket packet cbFileContentsRequest 0
  if packet.payload.length ≠ 24 ∧ packet.payload.length ≠ 28 then refuse .protocolError
  else
    let (streamId, stream) ← readU32Le packet.payload
    let (lindex, stream) ← readU32Le stream
    let (flags, stream) ← readU32Le stream
    let (low, stream) ← readU32Le stream
    let (high, stream) ← readU32Le stream
    let (requested, stream) ← readU32Le stream
    let clipDataId ←
      if packet.payload.length = 28 then (readU32Le stream).map fun read => some read.1
      else pure none
    let position := high.toUInt64 <<< 32 ||| low.toUInt64
    let request := { streamId, lindex, flags, position, requested, clipDataId }
    if !request.valid then refuse .protocolError else pure request

/-- `rdp_clipboard_write_header`. -/
def clipboardWriteHeader (type flags : UInt16) (dataLen : Nat) : Bytes :=
  u16LeBytes type.toNat ++ (u16LeBytes flags.toNat ++ u32LeBytes dataLen)

/-- `rdp_clipboard_write_format_data_request`. -/
def clipboardWriteFormatDataRequest (formatId : UInt32) : Bytes :=
  clipboardWriteHeader cbFormatDataRequest 0 4 ++ u32LeBytes formatId.toNat

/-- `rdp_clipboard_write_file_contents_request`. -/
def clipboardWriteFileContentsRequest (request : FileContentsRequest) : Attempt Bytes :=
  if !request.valid then refuse .invalidArgument
  else
    pure (clipboardWriteHeader cbFileContentsRequest 0
        (if request.clipDataId.isSome then 28 else 24) ++
      u32LeBytes request.streamId.toNat ++ u32LeBytes request.lindex.toNat ++
      u32LeBytes request.flags.toNat ++ u32LeBytes (request.position.toNat % 2 ^ 32) ++
      u32LeBytes (request.position.toNat / 2 ^ 32) ++ u32LeBytes request.requested.toNat ++
      (request.clipDataId.elim [] fun id => u32LeBytes id.toNat))

def responseFlag (ok : Bool) : UInt16 := if ok then cbResponseOk else cbResponseFail

/-- `rdp_clipboard_write_format_data_response`. -/
def clipboardWriteFormatDataResponse (ok : Bool) (data : Bytes) : Attempt Bytes :=
  if data.length > 2 ^ 32 - 1 ∨ (!ok ∧ data ≠ []) then refuse .invalidArgument
  else pure (clipboardWriteHeader cbFormatDataResponse (responseFlag ok) data.length ++ data)

/-- `rdp_clipboard_write_file_contents_response`. -/
def clipboardWriteFileContentsResponse (ok : Bool) (streamId : UInt32) (data : Bytes) :
    Attempt Bytes :=
  if data.length > 2 ^ 32 - 1 - 4 ∨ (!ok ∧ data ≠ []) then refuse .invalidArgument
  else
    pure (clipboardWriteHeader cbFileContentsResponse (responseFlag ok) (data.length + 4) ++
      (u32LeBytes streamId.toNat ++ data))

theorem clipboardParsePacket_write (type flags : UInt16) {payload : Bytes}
    (fits : payload.length < 2 ^ 32) :
    clipboardParsePacket (clipboardWriteHeader type flags payload.length ++ payload) =
      .ok { type, flags, payload } := by
  have length : (UInt32.ofNat payload.length).toNat = payload.length :=
    UInt32.toNat_ofNat_of_lt' fits
  have read : readU32Le (u32LeBytes payload.length ++ payload) =
      .ok (UInt32.ofNat payload.length, payload) := by
    rw [← readU32Le_append, length]
  simp only [clipboardWriteHeader, clipboardParsePacket, List.append_assoc, readU16Le_append, read,
    ok_bind, attempt_pure, length, ne_eq, not_true_eq_false, if_false]

theorem responseFlag_isFlag (ok : Bool) : clipboardResponseFlag (responseFlag ok) = true := by
  cases ok <;> rfl

variable {ok : Bool} {data bytes : Bytes}

theorem responseFlag_fails (fails : responseFlag ok = cbResponseFail) : ok = false := by
  cases ok with
  | false => rfl
  | true => exact absurd fails (by decide)

theorem clipboardParse_formatDataResponse
    (written : clipboardWriteFormatDataResponse ok data = .ok bytes) :
    clipboardParsePacket bytes =
        .ok { type := cbFormatDataResponse, flags := responseFlag ok, payload := data } ∧
      clipboardParseFormatDataResponse
          { type := cbFormatDataResponse, flags := responseFlag ok, payload := data } =
        .ok { flags := responseFlag ok, data } := by
  unfold clipboardWriteFormatDataResponse at written
  split at written
  · cases written
  rename_i valid
  cases written
  refine ⟨clipboardParsePacket_write _ _ (by omega), ?_⟩
  have whole : ¬ (responseFlag ok = cbResponseFail ∧ data ≠ []) := by
    rintro ⟨fails, some⟩
    exact valid (.inr ⟨by rw [responseFlag_fails fails]; rfl, some⟩)
  simp only [clipboardParseFormatDataResponse, responseFlag_isFlag, ne_eq, not_true_eq_false,
    Bool.not_true, Bool.false_eq_true, or_self, if_false, if_neg whole, attempt_pure]

theorem clipboardParse_fileContentsResponse {streamId : UInt32}
    (written : clipboardWriteFileContentsResponse ok streamId data = .ok bytes) :
    clipboardParsePacket bytes =
        .ok { type := cbFileContentsResponse, flags := responseFlag ok
              payload := u32LeBytes streamId.toNat ++ data } ∧
      clipboardParseFileContentsResponse
          { type := cbFileContentsResponse, flags := responseFlag ok
            payload := u32LeBytes streamId.toNat ++ data } =
        .ok { flags := responseFlag ok, streamId, data } := by
  unfold clipboardWriteFileContentsResponse at written
  split at written
  · cases written
  rename_i valid
  cases written
  have length : (u32LeBytes streamId.toNat ++ data).length = data.length + 4 := by
    rw [List.length_append, u32LeBytes_length, Nat.add_comm]
  refine ⟨?_, ?_⟩
  · rw [← length]
    exact clipboardParsePacket_write _ _ (by omega)
  · have whole : ¬ (responseFlag ok = cbResponseFail ∧ data.length + 4 ≠ 4) := by
      rintro ⟨fails, some⟩
      refine valid (.inr ⟨by rw [responseFlag_fails fails]; rfl, ?_⟩)
      rintro rfl
      exact some rfl
    have long : ¬ data.length + 4 < 4 := by omega
    simp only [clipboardParseFileContentsResponse, responseFlag_isFlag, length, ne_eq,
      not_true_eq_false, Bool.not_true, Bool.false_eq_true, long, or_self, if_false,
      readU32Le_append, ok_bind, attempt_pure]
    rw [if_neg whole]

end LibRdp.Channels
