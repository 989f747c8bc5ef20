import LibRdp.Server.DeviceHandshake
import LibRdp.Server.DynamicChannels

/-! # What carries an extension family of a server peer

The record of a family is one for all that belongs to it: the dynamic channels whose names
map to the family, the devices of its type and the static channel. Each of them rewrites the
record as a whole when it opens, is refused or closes.
-/

namespace LibRdp.Server

open Machine Channels

/-- The dynamic channels of a peer, its device redirection with the records of the families, and
    `auth_redirection_pending`. -/
structure ExtensionPeer (π : Type) where
  table : DynamicPeer π
  redirection : RedirectionPeer
  authPending : Bool := false

/-- The table of dynamic channels sorts its channels into families by their names. -/
def familyHooks {π : Type} (hooks : DynamicHooks π) : DynamicHooks π :=
  { hooks with
    family := fun name => (extensionClassifyName name).code
    familyValid := fun family => decide (0 < family ∧ family ≤ ExtensionFamily.geometryTracking.code) }

/-- The record after `rdp_server_extension_state_mark_rx`. -/
def ExtensionState.received (staticChannelId : UInt16) (dynamicChannelId : UInt32) (priority : Nat)
    (state : ExtensionState) : ExtensionState :=
  { state with
    negotiated := true, active := true, isOpen := true
    staticChannelId := if staticChannelId ≠ 0 then staticChannelId else state.staticChannelId
    dynamicChannelId := if dynamicChannelId ≠ 0 then dynamicChannelId else state.dynamicChannelId
    dynamicPriority := if dynamicChannelId ≠ 0 then priority else state.dynamicPriority }

/-- The record after `librdp_server_peer_cancel_extension`. -/
def ExtensionState.cancel (state : ExtensionState) : ExtensionState :=
  { state with
    dynamicChannelId := if state.pendingOpen then 0 else state.dynamicChannelId
    dynamicPriority := if state.pendingOpen then 0 else state.dynamicPriority
    pendingOpen := false, closing := false, pendingRequests := 0, cancelled := true }

def ExtensionPeer.mark {π : Type} (peer : ExtensionPeer π)
    (f : ExtensionStates → ExtensionStates) : ExtensionPeer π :=
  { peer with
    redirection := { peer.redirection with extensions := f peer.redirection.extensions } }

/-- The record of a family is closed; for the authentication family the pending call is forgotten
    too. -/
def ExtensionPeer.markClose {π : Type} (peer : ExtensionPeer π) (family : ExtensionFamily) :
    ExtensionPeer π :=
  { peer.mark (extensionStateMarkClose · family) with
    authPending := peer.authPending && family != .authRedirection }

/-- What the peer notes down where it reports that a channel was opened or closed. -/
def markEvent {π : Type} (peer : ExtensionPeer π) (event : DynamicEvent) : ExtensionPeer π :=
  match event.type with
  | .opened =>
      peer.mark (extensionStateMarkOpen · (extensionClassifyName event.name) 0 event.channelId
        event.priority)
  | .closed => peer.markClose (extensionClassifyName event.name)
  | .data => peer

section Messages

variable {π : Type} (hooks : DynamicHooks π) (table : DynamicPeer π) (data : Bytes)

def dynamicCommand : Option Nat :=
  match parseHeader data with
  | .ok header =>
      if header.command ≠ cmdCapabilities ∧ table.channelsReady then some header.command else none
  | .error _ => none

def answeredOpen : Option (CreateResponse × Nat × DynamicChannel) :=
  if dynamicCommand table data = some cmdCreate then
    match parseCreateResponse data with
    | .error _ => none
    | .ok response => (findPendingDynamicChannel table response.channelId).map (response, ·)
  else none

def acceptedCreate : Option CreateRequest :=
  if dynamicCommand table data = some cmdCreate ∧ (answeredOpen table data).isNone then
    match parseCreateRequest data with
    | .error _ => none
    | .ok request =>
        if request.name.length < dynamicChannelNameCapacity ∧
            (findDynamicChannelAny table request.channelId).isNone ∧
            (acceptCreate hooks table request).1 ∧ (allocateDynamicChannel table).isSome then
          some request
        else none
  else none

def closedChannel : Option (Nat × DynamicChannel) :=
  if dynamicCommand table data = some cmdClose then
    match parseClose data with
    | .error _ => none
    | .ok pdu => (findDynamicChannelAny table pdu.channelId).filter fun found =>
        !found.2.closing && found.2.isOpen && !found.2.pendingOpen
  else none

end Messages

/-- The open that the client refuses is noted down as a close, without an event. -/
def markRejected {π : Type} (peer : ExtensionPeer π) (data : Bytes) : ExtensionPeer π :=
  match answeredOpen peer.table data with
  | none => peer
  | some (response, _, channel) =>
      if channel.cancelledOpen ∨ response.statusCode = createStatusOk then peer
      else peer.markClose (extensionClassifyName channel.name)

/-- What may happen to what carries a family. `receive` is the note of any message that was
    accepted on a static or a dynamic channel, `authAnswer` the arrival of an answer to the pending
    call, `connect` the connection sequence, which resets everything. -/
inductive ExtensionInput (π : Type) where
  | openChannel (channelId : UInt32) (priority : Nat) (name : Bytes)
  | closeChannel (channelId : UInt32)
  | message (data : Bytes)
  | resetChannels (emitCloseEvents : Bool)
  | elsewhere (active : Bool) (staticChannelId : UInt16) (capabilitiesSent : Bool) (rest : π)
  | redirection (input : RedirectionInput)
  | cancelExtension (family : ExtensionFamily)
  | recordTimeout (family : ExtensionFamily)
  | receive (family : ExtensionFamily) (staticChannelId : UInt16) (dynamicChannelId : UInt32)
      (priority : Nat)
  | join (name : Bytes) (channelId : UInt16)
  | authCall (sent : Status)
  | authAnswer
  | connect (reconnect : Bool)

section Steps

variable {π : Type} (charset : Charset) (hooks : DynamicHooks π) (peer : ExtensionPeer π)

/-- `librdp_server_peer_open_dynamic_channel`. -/
def openFamilyChannel (channelId : UInt32) (priority : Nat) (name : Bytes) :
    Status × ExtensionPeer π :=
  let (answer, table) := openDynamicChannel (familyHooks hooks) peer.table channelId priority name
  let peer := { peer with table }
  if answer.status = .ok then
    (.ok, peer.mark (extensionStateMarkPendingOpen · (extensionClassifyName name) channelId priority))
  else (answer.status, peer)

def noteEvents (result : DynamicAnswer × DynamicPeer π) : Status × ExtensionPeer π :=
  (result.1.status, result.1.events.foldl markEvent { peer with table := result.2 })

/-- `librdp_server_peer_cancel_extension`. -/
def cancelExtension (family : ExtensionFamily) : Status × ExtensionPeer π :=
  if !family.valid then (.invalidArgument, peer)
  else if peer.redirection.drive.state = .closed then (.state, peer)
  else
    let table := cancelPendingFamily (familyHooks hooks) peer.table family.code
    (.ok, { ({ peer with table }).mark (·.modify family (·.cancel)) with
      authPending := peer.authPending && family != .authRedirection })

/-- `librdp_server_peer_record_extension_timeout`. -/
def recordExtensionTimeout (family : ExtensionFamily) : Status × ExtensionPeer π :=
  if !family.valid then (.invalidArgument, peer)
  else if peer.redirection.drive.state = .closed then (.state, peer)
  else if family = .authRedirection then
    (.ok, { peer.mark (·.modify family ({ · with pendingRequests := 0 })) with
      authPending := false })
  else (.ok, peer)

/-- The end of `librdp_server_peer_send_auth_redirection_call`, once the call was sent. -/
def authRedirectionCall (sent : Status) : Status × ExtensionPeer π :=
  if peer.authPending then (.state, peer)
  else if sent = .ok then
    (.ok, { peer.mark (·.modify .authRedirection fun state =>
        { state with pendingRequests := saturate state.pendingRequests }) with
      authPending := true })
  else (sent, peer)

/-- The answer to the pending call, in `rdp_server_dynamic_emit_reassembled`. -/
def authRedirectionAnswer : ExtensionPeer π :=
  if !peer.authPending then peer
  else
    { peer.mark (·.modify .authRedirection fun state =>
        { state with pendingRequests := decrement state.pendingRequests }) with
      authPending := false }

/-- The resets of `rdp_server_handle_mcs_connect`, which go over the drives, the records and the
    dynamic channels. -/
def connectExtensions (reconnect : Bool) : ExtensionPeer π :=
  let drive := (driveStateReset peer.redirection.drive reconnect).2
  let extensions := extensionStatesReset peer.redirection.extensions reconnect
  let peer := { peer with redirection := { peer.redirection with drive, extensions } }
  let (_, peer) := noteEvents peer
    (resetDynamicChannels peer.table (decide (peer.table.channelCount > 0)))
  { peer with authPending := false }

def extensionStep : ExtensionInput π → Exec (Status × ExtensionPeer π)
  | .openChannel channelId priority name => .ok (openFamilyChannel hooks peer channelId priority name)
  | .closeChannel channelId => do
      let result ← closeDynamicChannel (familyHooks hooks) peer.table channelId
      pure (noteEvents peer result)
  | .message data => do
      let result ← handleDynamicMessage (familyHooks hooks) peer.table data
      pure (noteEvents (markRejected peer data) result)
  | .resetChannels emitCloseEvents =>
      let (status, peer) := noteEvents peer (resetDynamicChannels peer.table emitCloseEvents)
      .ok (status, { peer with authPending := false })
  | .elsewhere active staticChannelId capabilitiesSent rest =>
      .ok (.ok, { peer with
        table := { peer.table with active, staticChannelId, capabilitiesSent, rest } })
  | .redirection input => do
      let (out, redirection) ← redirectionStep charset peer.redirection input
      pure (out.status, { peer with redirection })
  | .cancelExtension family => .ok (cancelExtension hooks peer family)
  | .recordTimeout family => .ok (recordExtensionTimeout peer family)
  | .receive family staticChannelId dynamicChannelId priority =>
      .ok (.ok, peer.mark (·.modify family (·.received staticChannelId dynamicChannelId priority)))
  | .join name channelId =>
      .ok (.ok, peer.mark (extensionStateMarkOpen · (extensionClassifyName name) channelId 0 0))
  | .authCall sent => .ok (authRedirectionCall peer sent)
  | .authAnswer => .ok (.ok, authRedirectionAnswer peer)
  | .connect reconnect => .ok (.ok, connectExtensions peer reconnect)

end Steps

/-- A peer as `librdp_server_accept` leaves it. -/
def extensionStart {π : Type} (rest : π) (accepted : RedirectionPeer) : ExtensionPeer π :=
  { table := dynamicPeerInit rest
    redirection :=
      { redirectionStart accepted with extensions := extensionStatesReset (fun _ => {}) false } }

end LibRdp.Server
