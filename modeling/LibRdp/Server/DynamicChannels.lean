import LibRdp.Machine.Table
import LibRdp.Channels.DynamicChannel

/-! # Dynamic virtual channels of a server peer

A table of slots, each free or in one of three stages: waiting for the client's answer,
open, or waiting for the client's close. The application opens, closes and cancels
channels, the client creates, answers, feeds and closes them with PDUs. What lies
behind the table (the transport, the callbacks, the extension handlers and their state)
is a parameter that every result is uniform in.
-/

namespace LibRdp.Server

open Machine Channels

/-- `RDP_SERVER_MAX_DYNAMIC_CHANNELS`. -/
def maxDynamicChannels : Nat := 64

/-- `RDP_SERVER_DYNAMIC_CHANNEL_NAME_CAPACITY`. -/
def dynamicChannelNameCapacity : Nat := 64

/-- `RDP_SERVER_DYNAMIC_MESSAGE_MAX`. -/
def dynamicMessageMax : Nat := 64 * 1024 * 1024

/-- `rdp_server_dynamic_channel`. -/
structure DynamicChannel where
  channelId : UInt32 := 0
  channelIdBytes : Nat := 0
  priority : Nat := 0
  isOpen : Bool := false
  pendingOpen : Bool := false
  closing : Bool := false
  cancelledOpen : Bool := false
  name : Bytes := []
  fragment : Bytes := []
  fragmentExpected : UInt32 := 0
  deriving Repr, DecidableEq

def DynamicChannel.used (channel : DynamicChannel) : Bool :=
  channel.isOpen || channel.pendingOpen || channel.closing

/-- The dynamic types of `librdp_server_channel_event_type`. -/
inductive DynamicEventType where
  | opened
  | closed
  | data
  deriving Repr, DecidableEq

/-- `librdp_server_channel_event`; `slot` stands for the channel record it is about. -/
structure DynamicEvent where
  type : DynamicEventType
  slot : Nat
  channelId : UInt32
  priority : Nat
  name : Bytes
  data : Bytes := []
  deriving Repr, DecidableEq

inductive Verdict where
  | publish
  | late
  | failed (status : Status)
  deriving Repr, DecidableEq

/-- What the table relies on; `π` is the rest of the peer. -/
structure DynamicHooks (π : Type) where
  /-- `librdp_server_peer_send_channel_data` on the static channel. -/
  send : π → Bytes → Status × π
  /-- `rdp_server_extension_classify_name` and `rdp_server_extension_family_valid`. -/
  family : Bytes → Nat
  familyValid : Nat → Bool
  /-- `rdp_server_dynamic_provider_ready`. -/
  providerReady : π → Bytes → Bool
  /-- The accept callback. -/
  accept : π → CreateRequest → Bool × π
  /-- The handlers in `rdp_server_dynamic_emit_reassembled`. -/
  handle : π → DynamicChannel → Bytes → Verdict × π
  /-- The soft-sync branch of the dispatcher. -/
  softSync : π → List DynamicChannel → Bytes → Status × π

/-- The part of `librdp_server_peer` that dynamic channels use. -/
structure DynamicPeer (π : Type) where
  active : Bool
  staticChannelId : UInt16
  channelsReady : Bool
  capabilitiesSent : Bool
  version : UInt16
  channels : List DynamicChannel
  channelCount : Nat
  rest : π

structure DynamicAnswer where
  status : Status
  delivered : Option Bytes := none
  events : List DynamicEvent := []
  sent : List Bytes := []
  deriving Repr, DecidableEq

section Operations

variable {π : Type} (hooks : DynamicHooks π) (peer : DynamicPeer π)

def DynamicChannel.openFor (channelId : UInt32) (channel : DynamicChannel) : Bool :=
  channel.isOpen && channel.channelId == channelId

def DynamicChannel.usedFor (channelId : UInt32) (channel : DynamicChannel) : Bool :=
  channel.used && channel.channelId == channelId

/-- `rdp_server_find_dynamic_channel`. -/
def findDynamicChannel (channelId : UInt32) : Option (Nat × DynamicChannel) :=
  Table.lookup (DynamicChannel.openFor channelId) peer.channels

/-- `rdp_server_find_dynamic_channel_any`. -/
def findDynamicChannelAny (channelId : UInt32) : Option (Nat × DynamicChannel) :=
  Table.lookup (DynamicChannel.usedFor channelId) peer.channels

/-- `rdp_server_find_pending_dynamic_channel`. -/
def findPendingDynamicChannel (channelId : UInt32) : Option (Nat × DynamicChannel) :=
  (findDynamicChannelAny peer channelId).filter fun found => found.2.pendingOpen

/-- `rdp_server_allocate_dynamic_channel`. -/
def allocateDynamicChannel : Option (Nat × DynamicChannel) :=
  Table.lookup (fun channel => !channel.used) peer.channels

/-- `rdp_server_dynamic_channel_name_valid`. -/
def dynamicChannelNameValid (name : Bytes) : Bool :=
  name.length ≠ 0 && decide (name.length < dynamicChannelNameCapacity) &&
    name.all fun ch => decide (0x21 ≤ ch) && decide (ch ≤ 0x7e)

/-- `rdp_server_emit_dynamic_channel_event`. -/
def dynamicEvent (type : DynamicEventType) (slot : Nat) (channel : DynamicChannel)
    (data : Bytes := []) : DynamicEvent :=
  { type, slot, channelId := channel.channelId, priority := channel.priority, name := channel.name
    data }

/-- `rdp_server_send_dynamic_packet`: the status, what was sent, and the peer. -/
def sendDynamicPacket (packet : Bytes) : Status × List Bytes × DynamicPeer π :=
  if peer.staticChannelId = 0 then (.invalidArgument, [], peer)
  else
    let (status, rest) := hooks.send peer.rest packet
    (status, if status = .ok then [packet] else [], { peer with rest })

/-- `librdp_server_peer_open_dynamic_channel`. -/
def openDynamicChannel (channelId : UInt32) (priority : Nat) (name : Bytes) :
    DynamicAnswer × DynamicPeer π :=
  if channelId = 0 ∨ priority > 3 ∨ !dynamicChannelNameValid name then
    ({ status := .invalidArgument }, peer)
  else if !peer.active ∨ !peer.channelsReady ∨ peer.staticChannelId = 0 then
    ({ status := .state }, peer)
  else if (findDynamicChannelAny peer channelId).isSome then ({ status := .invalidArgument }, peer)
  else
    match allocateDynamicChannel peer with
    | none => ({ status := .limitExceeded }, peer)
    | some (slot, _) =>
        let channelIdBytes := selectChannelIdBytes channelId.toNat
        match writeCreateRequest channelId channelIdBytes priority name with
        | .error _ => ({ status := .invalidArgument }, peer)
        | .ok packet =>
            let (status, sent, peer) := sendDynamicPacket hooks peer packet
            if status = .ok then
              ({ status, sent }, { peer with
                channels := peer.channels.set slot
                  { channelId, channelIdBytes, priority, pendingOpen := true, name } })
            else ({ status, sent }, peer)

/-- `librdp_server_peer_close_dynamic_channel`. -/
def closeDynamicChannel (channelId : UInt32) : Exec (DynamicAnswer × DynamicPeer π) :=
  if !peer.active then pure ({ status := .state }, peer)
  else
    match findDynamicChannel peer channelId with
    | none => pure ({ status := .invalidArgument }, peer)
    | some (slot, channel) =>
        match writeClose channelId channel.channelIdBytes with
        | .error _ => pure ({ status := .invalidArgument }, peer)
        | .ok packet =>
            let (status, sent, peer) := sendDynamicPacket hooks peer packet
            if status = .ok then do
              let channelCount ← checkedSub peer.channelCount 1
              pure ({ status, sent, events := [dynamicEvent .closed slot channel] }, { peer with
                channelCount
                channels := peer.channels.set slot
                  { channel with isOpen := false, closing := true, fragment := [] } })
            else pure ({ status, sent }, peer)

def DynamicChannel.cancelled (family : Nat) (channel : DynamicChannel) : DynamicChannel :=
  if !channel.pendingOpen || channel.cancelledOpen then channel
  else if hooks.family channel.name = family then { channel with cancelledOpen := true }
  else channel

/-- `rdp_server_dynamic_channels_cancel_pending_family`. -/
def cancelPendingFamily (family : Nat) : DynamicPeer π :=
  if !hooks.familyValid family then peer
  else { peer with channels := peer.channels.map (DynamicChannel.cancelled hooks family) }

def resetEvents : Nat → List DynamicChannel → List DynamicEvent
  | _, [] => []
  | slot, channel :: rest =>
      if channel.used then dynamicEvent .closed slot channel :: resetEvents (slot + 1) rest
      else resetEvents (slot + 1) rest

/-- `rdp_server_dynamic_channels_reset`. -/
def resetDynamicChannels (emitCloseEvents : Bool) : DynamicAnswer × DynamicPeer π :=
  ({ status := .ok, events := if emitCloseEvents then resetEvents 0 peer.channels else [] },
    { peer with
      channels := peer.channels.map fun _ => {}
      channelCount := 0
      staticChannelId := 0
      channelsReady := false
      capabilitiesSent := false
      version := 0 })

/-- The answer to a create request: sent if it can be, whatever becomes of it. -/
def sendCreateResponse (request : CreateRequest) (statusCode : UInt32) :
    List Bytes × DynamicPeer π :=
  match writeCreateResponse request.channelId request.channelIdBytes statusCode with
  | .error _ => ([], peer)
  | .ok packet => (sendDynamicPacket hooks peer packet).2

def acceptCreate (request : CreateRequest) : Bool × DynamicPeer π :=
  if !hooks.providerReady peer.rest request.name then (false, peer)
  else
    let (accepted, rest) := hooks.accept peer.rest request
    (accepted, { peer with rest })

/-- `rdp_server_dynamic_handle_create` on a parsed request. -/
def admitCreate (request : CreateRequest) : DynamicAnswer × DynamicPeer π :=
  if request.name.length ≥ dynamicChannelNameCapacity then
    let (sent, peer) := sendCreateResponse hooks peer request createStatusNotSupported
    ({ status := .limitExceeded, sent }, peer)
  else if (findDynamicChannelAny peer request.channelId).isSome then
    let (sent, peer) := sendCreateResponse hooks peer request createStatusNotSupported
    ({ status := .protocolError, sent }, peer)
  else
    let (accepted, peer) := acceptCreate hooks peer request
    if !accepted then
      let (sent, peer) := sendCreateResponse hooks peer request createStatusNotSupported
      ({ status := .ok, sent }, peer)
    else
      match allocateDynamicChannel peer with
      | none =>
          let (sent, peer) := sendCreateResponse hooks peer request createStatusNotSupported
          ({ status := .limitExceeded, sent }, peer)
      | some (slot, _) =>
          let (sent, peer) := sendCreateResponse hooks peer request createStatusOk
          let channel : DynamicChannel :=
            { channelId := request.channelId, channelIdBytes := request.channelIdBytes
              priority := request.priority, isOpen := true, name := request.name }
          ({ status := .ok, sent, events := [dynamicEvent .opened slot channel] }, { peer with
            channels := peer.channels.set slot channel
            channelCount := peer.channelCount + 1 })

/-- `rdp_server_dynamic_handle_create`. -/
def handleCreate (data : Bytes) : DynamicAnswer × DynamicPeer π :=
  match parseCreateRequest data with
  | .error _ => ({ status := .protocolError }, peer)
  | .ok request => admitCreate hooks peer request

/-- `rdp_server_dynamic_handle_create_response` on the slot it finds. -/
def handleCreateResponse (response : CreateResponse) (slot : Nat) (channel : DynamicChannel) :
    DynamicAnswer × DynamicPeer π :=
  if channel.cancelledOpen then
    ({ status := .ok }, { peer with channels := peer.channels.set slot {} })
  else if response.statusCode ≠ createStatusOk then
    ({ status := .ok }, { peer with channels := peer.channels.set slot {} })
  else
    ({ status := .ok, events := [dynamicEvent .opened slot channel] }, { peer with
      channels := peer.channels.set slot { channel with pendingOpen := false, isOpen := true }
      channelCount := peer.channelCount + 1 })

/-- The create branch of the dispatcher: a response when an open is pending under its id, else a
    request. -/
def handleCreateMessage (data : Bytes) : DynamicAnswer × DynamicPeer π :=
  match parseCreateResponse data with
  | .error _ => handleCreate hooks peer data
  | .ok response =>
      match findPendingDynamicChannel peer response.channelId with
      | none => handleCreate hooks peer data
      | some (slot, channel) => handleCreateResponse peer response slot channel

/-- `rdp_server_dynamic_emit_reassembled`. -/
def emitReassembled (slot : Nat) (channel : DynamicChannel) (data : Bytes) :
    DynamicAnswer × DynamicPeer π :=
  let (verdict, rest) := hooks.handle peer.rest channel data
  let peer := { peer with rest }
  match verdict with
  | .publish =>
      ({ status := .ok, delivered := some data
         events := [dynamicEvent .data slot channel data] }, peer)
  | .late => ({ status := .ok, delivered := some data }, peer)
  | .failed status => ({ status, delivered := some data }, peer)

/-- The slot after a fragment: delivered and empty when the message is complete. -/
def takeFragment (slot : Nat) (channel : DynamicChannel) : DynamicAnswer × DynamicPeer π :=
  if channel.fragment.length = channel.fragmentExpected.toNat then
    let (answer, peer) := emitReassembled hooks peer slot channel channel.fragment
    (answer, { peer with
      channels := peer.channels.set slot { channel with fragment := [], fragmentExpected := 0 } })
  else ({ status := .ok }, { peer with channels := peer.channels.set slot channel })

/-- `rdp_server_dynamic_handle_data_first`. -/
def handleDataFirst (data : Bytes) : DynamicAnswer × DynamicPeer π :=
  match parseDataFirst data with
  | .error _ => ({ status := .protocolError }, peer)
  | .ok pdu =>
      match findDynamicChannel peer pdu.channelId with
      | none => ({ status := .protocolError }, peer)
      | some (slot, channel) =>
          if channel.fragment.length ≠ 0 ∨ pdu.totalLength.toNat < pdu.data.length then
            ({ status := .protocolError }, peer)
          else if pdu.totalLength.toNat > dynamicMessageMax then
            ({ status := .limitExceeded }, peer)
          else
            takeFragment hooks peer slot
              { channel with
                fragmentExpected := pdu.totalLength, fragment := channel.fragment ++ pdu.data }

/-- `rdp_server_dynamic_handle_data`. -/
def handleData (data : Bytes) : Exec (DynamicAnswer × DynamicPeer π) :=
  match parseData data with
  | .error _ => pure ({ status := .protocolError }, peer)
  | .ok pdu =>
      match findDynamicChannel peer pdu.channelId with
      | none => pure ({ status := .protocolError }, peer)
      | some (slot, channel) =>
          if channel.fragment.length = 0 then pure (emitReassembled hooks peer slot channel pdu.data)
          else if channel.fragment.length > channel.fragmentExpected.toNat ∨
              pdu.data.length = 0 then pure ({ status := .protocolError }, peer)
          else do
            let room ← checkedSub channel.fragmentExpected.toNat channel.fragment.length
            if pdu.data.length > room then pure ({ status := .protocolError }, peer)
            else
              pure (takeFragment hooks peer slot
                { channel with fragment := channel.fragment ++ pdu.data })

/-- `rdp_server_dynamic_handle_close`. -/
def handleClose (data : Bytes) : Exec (DynamicAnswer × DynamicPeer π) :=
  match parseClose data with
  | .error _ => pure ({ status := .protocolError }, peer)
  | .ok pdu =>
      match findDynamicChannelAny peer pdu.channelId with
      | none => pure ({ status := .protocolError }, peer)
      | some (slot, channel) =>
          if channel.closing then
            pure ({ status := .ok }, { peer with channels := peer.channels.set slot {} })
          else if !channel.isOpen ∨ channel.pendingOpen then
            pure ({ status := .protocolError }, peer)
          else do
            let channelCount ← checkedSub peer.channelCount 1
            pure ({ status := .ok, events := [dynamicEvent .closed slot channel] }, { peer with
              channelCount
              channels := peer.channels.set slot {} })

def handleCapabilities (data : Bytes) : DynamicAnswer × DynamicPeer π :=
  match parseCapabilities data with
  | .error _ => ({ status := .protocolError }, peer)
  | .ok caps =>
      if !peer.capabilitiesSent ∨ caps.hasPriorityCharges ∨ data.length ≠ 4 ∨ caps.version > 3 then
        ({ status := .protocolError }, peer)
      else ({ status := .ok }, { peer with version := caps.version, channelsReady := true })

/-- `rdp_server_handle_dynamic_channel_message`. -/
def handleDynamicMessage (data : Bytes) : Exec (DynamicAnswer × DynamicPeer π) :=
  match parseHeader data with
  | .error _ => pure ({ status := .protocolError }, peer)
  | .ok header =>
      if header.command = cmdCapabilities then pure (handleCapabilities peer data)
      else if !peer.channelsReady then pure ({ status := .protocolError }, peer)
      else if header.command = cmdCreate then pure (handleCreateMessage hooks peer data)
      else if header.command = cmdDataFirst then pure (handleDataFirst hooks peer data)
      else if header.command = cmdData then handleData hooks peer data
      else if header.command = cmdClose then handleClose peer data
      else if header.command = cmdSoftSyncRequest then
        let (status, rest) := hooks.softSync peer.rest peer.channels data
        pure ({ status }, { peer with rest })
      else pure ({ status := .unsupported }, peer)

end Operations

/-- What reaches the table; `elsewhere` is the rest of the server, which may change whatever the
    table does not own. -/
inductive DynamicInput (π : Type) where
  | openChannel (channelId : UInt32) (priority : Nat) (name : Bytes)
  | closeChannel (channelId : UInt32)
  | cancelFamily (family : Nat)
  | reset (emitCloseEvents : Bool)
  | message (data : Bytes)
  | elsewhere (active : Bool) (staticChannelId : UInt16) (capabilitiesSent : Bool) (rest : π)

def dynamicStep {π : Type} (hooks : DynamicHooks π) (peer : DynamicPeer π) :
    DynamicInput π → Exec (DynamicAnswer × DynamicPeer π)
  | .openChannel channelId priority name =>
      pure (openDynamicChannel hooks peer channelId priority name)
  | .closeChannel channelId => closeDynamicChannel hooks peer channelId
  | .cancelFamily family => pure ({ status := .ok }, cancelPendingFamily hooks peer family)
  | .reset emitCloseEvents => pure (resetDynamicChannels peer emitCloseEvents)
  | .message data => handleDynamicMessage hooks peer data
  | .elsewhere active staticChannelId capabilitiesSent rest =>
      pure ({ status := .ok }, { peer with active, staticChannelId, capabilitiesSent, rest })

def dynamicPeerInit {π : Type} (rest : π) : DynamicPeer π :=
  { active := false, staticChannelId := 0, channelsReady := false, capabilitiesSent := false
    version := 0, channels := List.replicate maxDynamicChannels {}, channelCount := 0, rest }

end LibRdp.Server
