import LibRdp.Channels.Clipboard
import LibRdp.Server.Peer

/-! # The clipboard of a server peer

The peer remembers one request for data and one for file contents: the last of each kind
that was sent. A response is matched against that memory and handed to the application.
-/

namespace LibRdp.Server

open Channels

/-- `RDP_SERVER_MAX_CLIPBOARD_FORMATS`. -/
def maxClipboardFormats : Nat := 4096

/-- `librdp_server_clipboard_event_type`. -/
inductive ClipboardEventType where
  | monitorReady
  | capabilities
  | formatList
  | formatListResponse
  | formatDataRequest
  | formatDataResponse
  | fileContentsRequest
  | fileContentsResponse
  | lock
  | unlock
  | cancelled
  deriving Repr, DecidableEq

/-- `librdp_server_clipboard_event`. -/
structure ClipboardEvent where
  type : ClipboardEventType
  relatedType : Option ClipboardEventType := none
  status : Status := .ok
  channelId : UInt16 := 0
  flags : UInt16 := 0
  reconnectGeneration : UInt32 := 0
  capabilityCount : UInt32 := 0
  generalFlags : UInt32 := 0
  formats : List ClipboardFormat := []
  formatCount : UInt32 := 0
  longFormatNames : Bool := false
  success : Bool := false
  formatId : UInt32 := 0
  streamId : UInt32 := 0
  fileIndex : UInt32 := 0
  fileFlags : UInt32 := 0
  position : UInt64 := 0
  requestedBytes : UInt32 := 0
  clipDataId : Option UInt32 := none
  data : Bytes := []
  deriving Repr, DecidableEq

/-- The part of `librdp_server_peer` that the clipboard uses; the fields from `monitorReadySent` on
    are those with the name `clipboard_*`. -/
structure ClipboardPeer where
  state : PeerState := .new
  callback : Bool := false
  monitorReadySent : Bool := false
  monitorReadyReceived : Bool := false
  capabilitiesSent : Bool := false
  capabilitiesReceived : Bool := false
  formatsSent : Bool := false
  formatsAccepted : Bool := false
  pendingFormat : Bool := false
  pendingFile : Bool := false
  locked : Bool := false
  formatCount : UInt32 := 0
  pendingFormatId : UInt32 := 0
  pendingFileStreamId : UInt32 := 0
  lockedClipDataId : UInt32 := 0
  reconnectGeneration : UInt32 := 0
  deriving Repr, DecidableEq

/-- `peer->clipboard_callback`, if it is set. -/
def clipboardCallback (peer : ClipboardPeer) (event : ClipboardEvent) : List ClipboardEvent :=
  if peer.callback then [event] else []

/-- `rdp_server_emit_clipboard_cancel`. -/
def emitClipboardCancel (peer : ClipboardPeer) (relatedType : ClipboardEventType)
    (formatId streamId : UInt32) : List ClipboardEvent :=
  clipboardCallback peer
    { type := .cancelled, relatedType := some relatedType, status := .cancelled
      reconnectGeneration := peer.reconnectGeneration, formatId, streamId }

def cancelPending (peer : ClipboardPeer) : List ClipboardEvent :=
  (if peer.pendingFormat then
    emitClipboardCancel peer .formatDataResponse peer.pendingFormatId 0 else []) ++
  (if peer.pendingFile then
    emitClipboardCancel peer .fileContentsResponse 0 peer.pendingFileStreamId else [])

/-- `librdp_server_peer_cancel_clipboard_requests`. -/
def cancelClipboardRequests (peer : ClipboardPeer) :
    (Status × List ClipboardEvent) × ClipboardPeer :=
  if peer.state = .closed then ((.state, []), peer)
  else
    ((.ok, cancelPending peer),
      { peer with
        pendingFormat := false, pendingFile := false, pendingFormatId := 0
        pendingFileStreamId := 0 })

/-- `rdp_server_clipboard_state_reset`. -/
def clipboardStateReset (peer : ClipboardPeer) (reconnect : Bool) :
    List ClipboardEvent × ClipboardPeer :=
  (if reconnect then cancelPending peer else [],
    { state := peer.state, callback := peer.callback
      reconnectGeneration :=
        if reconnect then peer.reconnectGeneration + 1 else peer.reconnectGeneration })

/-- `librdp_server_peer_send_clipboard_format_data_request`; `send` is
    `rdp_server_send_static_named_buffer` for the clipboard. -/
def sendClipboardFormatDataRequest (peer : ClipboardPeer) (send : UInt16 → Bytes → Status)
    (channelId : UInt16) (formatId : UInt32) : Status × ClipboardPeer :=
  match send channelId (clipboardWriteFormatDataRequest formatId) with
  | .ok => (.ok, { peer with pendingFormat := true, pendingFormatId := formatId })
  | status => (status, peer)

/-- `librdp_server_peer_send_clipboard_file_contents_request`. -/
def sendClipboardFileContentsRequest (peer : ClipboardPeer) (send : UInt16 → Bytes → Status)
    (channelId : UInt16) (request : FileContentsRequest) : Status × ClipboardPeer :=
  match clipboardWriteFileContentsRequest request with
  | .error _ => (.invalidArgument, peer)
  | .ok payload =>
      match send channelId payload with
      | .ok => (.ok, { peer with pendingFile := true, pendingFileStreamId := request.streamId })
      | status => (status, peer)

/-- The formats of a list, which are read for an application that listens. -/
def readFormats (peer : ClipboardPeer) (packet : ClipboardPacket) (longNames : Bool) (count : Nat) :
    Attempt (List ClipboardFormat) :=
  if count > 0 ∧ peer.callback then
    (List.range count).mapM (formatListGetEntry packet.flags packet.payload longNames)
  else pure []

def handleFormatList (peer : ClipboardPeer) (packet : ClipboardPacket) (typed : ClipboardEvent) :
    Attempt (Option ClipboardEvent × ClipboardPeer) := do
  clipboardRequirePacket packet cbFormatList cbAsciiNames
  let longNames := packet.flags &&& cbAsciiNames == 0
  let count ← formatListEntryCount packet.payload longNames
  if count > maxClipboardFormats then refuse .limitExceeded
  else
    let formats ← readFormats peer packet longNames count
    pure (some { typed with
        type := .formatList, formats, formatCount := UInt32.ofNat count, longFormatNames := longNames },
      { peer with formatCount := UInt32.ofNat count, formatsAccepted := false })

def handleFormatDataResponse (peer : ClipboardPeer) (packet : ClipboardPacket)
    (typed : ClipboardEvent) : Attempt (Option ClipboardEvent × ClipboardPeer) := do
  let response ← clipboardParseFormatDataResponse packet
  if !peer.pendingFormat then refuse .protocolError
  else
    pure (some { typed with
        type := .formatDataResponse, success := response.flags &&& cbResponseOk != 0
        formatId := peer.pendingFormatId, data := response.data },
      { peer with pendingFormat := false, pendingFormatId := 0 })

def handleFileContentsResponse (peer : ClipboardPeer) (packet : ClipboardPacket)
    (typed : ClipboardEvent) : Attempt (Option ClipboardEvent × ClipboardPeer) := do
  let response ← clipboardParseFileContentsResponse packet
  if !peer.pendingFile then refuse .protocolError
  else if response.streamId ≠ peer.pendingFileStreamId then refuse .protocolError
  else
    pure (some { typed with
        type := .fileContentsResponse, success := response.flags &&& cbResponseOk != 0
        streamId := response.streamId, data := response.data },
      { peer with pendingFile := false, pendingFileStreamId := 0 })

/-- The branches of `rdp_server_update_clipboard_state`: the typed event, if the packet has one,
    and the peer. `typed` has the fields that all events share, its type is not set yet. -/
def handleClipboardPacket (peer : ClipboardPeer) (packet : ClipboardPacket)
    (typed : ClipboardEvent) : Attempt (Option ClipboardEvent × ClipboardPeer) := do
  if packet.type = cbMonitorReady then
    pure (some { typed with type := .monitorReady }, { peer with monitorReadyReceived := true })
  else if packet.type = cbClipCaps then
    let capabilities ← clipboardParseCapabilities packet
    pure (some { typed with
        type := .capabilities, capabilityCount := capabilities.count.toUInt32
        generalFlags := capabilities.generalFlags.getD 0 },
      { peer with capabilitiesReceived := true })
  else if packet.type = cbFormatList then handleFormatList peer packet typed
  else if packet.type = cbFormatListResponse then
    if !peer.formatsSent then refuse .protocolError
    else
      let success := packet.flags &&& cbResponseOk != 0
      pure (some { typed with type := .formatListResponse, success },
        { peer with formatsAccepted := success })
  else if packet.type = cbFormatDataRequest then
    let formatId ← clipboardParseNumber packet cbFormatDataRequest
    pure (some { typed with type := .formatDataRequest, formatId }, peer)
  else if packet.type = cbFormatDataResponse then handleFormatDataResponse peer packet typed
  else if packet.type = cbFileContentsRequest then
    let request ← clipboardParseFileContentsRequest packet
    pure (some { typed with
        type := .fileContentsRequest, streamId := request.streamId, fileIndex := request.lindex
        fileFlags := request.flags, position := request.position
        requestedBytes := request.requested, clipDataId := request.clipDataId }, peer)
  else if packet.type = cbFileContentsResponse then handleFileContentsResponse peer packet typed
  else if packet.type = cbLockClipData then
    let clipDataId ← clipboardParseNumber packet cbLockClipData
    pure (some { typed with type := .lock, clipDataId := some clipDataId },
      { peer with locked := true, lockedClipDataId := clipDataId })
  else if packet.type = cbUnlockClipData then
    let clipDataId ← clipboardParseNumber packet cbUnlockClipData
    if !peer.locked ∨ peer.lockedClipDataId = clipDataId then
      pure (some { typed with type := .unlock, clipDataId := some clipDataId },
        { peer with locked := false, lockedClipDataId := 0 })
    else refuse .protocolError
  else pure (none, peer)

def clipboardStop : Stop → Status
  | .returned status => status
  | .fault _ => .protocolError

/-- `rdp_server_update_clipboard_state` on an event of the clipboard channel. -/
def updateClipboardState (peer : ClipboardPeer) (channelId : UInt16) (data : Bytes) :
    (Status × List ClipboardEvent) × ClipboardPeer :=
  match clipboardParsePacket data with
  | .error stop => ((clipboardStop stop, []), peer)
  | .ok packet =>
      let typed : ClipboardEvent :=
        { type := .cancelled, channelId, flags := packet.flags
          reconnectGeneration := peer.reconnectGeneration }
      match handleClipboardPacket peer packet typed with
      | .error stop => ((clipboardStop stop, []), peer)
      | .ok (event, after) =>
          ((.ok, event.elim [] (clipboardCallback after)), after)

end LibRdp.Server
