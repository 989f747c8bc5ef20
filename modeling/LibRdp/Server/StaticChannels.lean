import LibRdp.Machine.Run
import LibRdp.Channels.VirtualChannel

/-! # Static virtual channels of a server peer

The server collects the fragments of a message and hands the message to the channel's
handler with its last fragment. Every packet repeats the announced length; whatever
does not fit the message in progress resets the channel. The handlers behind
`rdp_server_dispatch_static_channel_payload`, and the part of the peer they own, are
parameters.
-/

namespace LibRdp.Server

open Machine Channels

/-- `RDP_SERVER_STATIC_MESSAGE_MAX`. -/
def staticMessageMax : Nat := 64 * 1024 * 1024

/-- `RDP_SERVER_STATIC_CHANNEL_CHUNK_SIZE`. -/
def staticChannelChunkSize : Nat := 1600

/-- `RDP_GCC_MAX_SERVER_CHANNELS`. -/
def maxServerChannels : Nat := 64

/-- `rdp_server_static_channel`. -/
structure StaticChannel where
  fragment : Bytes := []
  fragmentExpected : UInt32 := 0
  fragmenting : Bool := false
  deriving Repr, DecidableEq

/-- `rdp_server_dispatch_static_channel_payload`: the handlers of a message. -/
abbrev StaticDispatch (π : Type) := π → Nat → UInt16 → Bytes → Status × π

/-- What one packet leads to; `delivered` is the message handed to the channel's handler. -/
structure StaticHandled (π : Type) where
  status : Status
  delivered : Option Bytes := none
  channel : StaticChannel := {}
  rest : π

section Handle

variable {π : Type} (dispatch : StaticDispatch π)

/-- The rest of `rdp_server_handle_static_channel_message` for a fragment after the first. -/
def continueStaticChannel (rest : π) (index : Nat) (channelId : UInt16) (channel : StaticChannel)
    (packet : VirtualChannelPacket) : Exec (StaticHandled π) :=
  if ¬channel.fragmenting ∨ channel.fragmentExpected ≠ packet.length ∨
      packet.payload.length = 0 then
    pure { status := .protocolError, rest }
  else do
    let room ← checkedSub channel.fragmentExpected.toNat packet.payload.length
    if channel.fragment.length > room then pure { status := .protocolError, rest }
    else
      let fragment := channel.fragment ++ packet.payload
      if ¬packet.last then
        if fragment.length ≥ channel.fragmentExpected.toNat then
          pure { status := .protocolError, rest }
        else pure { status := .ok, channel := { channel with fragment }, rest }
      else if fragment.length ≠ channel.fragmentExpected.toNat then
        pure { status := .protocolError, rest }
      else
        let (status, rest) := dispatch rest index channelId fragment
        pure { status, delivered := some fragment, rest }

/-- `rdp_server_handle_static_channel_message` once the packet is parsed. -/
def handleStaticPacket (rest : π) (index : Nat) (channelId : UInt16) (channel : StaticChannel)
    (dataLen : Nat) (packet : VirtualChannelPacket) : Exec (StaticHandled π) := do
  let room ← checkedSub dataLen 8
  if packet.payload.length > room ∨ packet.payload.length + 8 ≠ dataLen ∨
      packet.length.toNat > staticMessageMax then
    pure { status := .protocolError, rest }
  else if packet.whole then
    if channel.fragmenting ∨ packet.payload.length ≠ packet.length.toNat then
      pure { status := .protocolError, rest }
    else
      let (status, rest) := dispatch rest index channelId packet.payload
      pure { status, delivered := some packet.payload, channel, rest }
  else if packet.first then
    if channel.fragmenting ∨ packet.length = 0 ∨ packet.payload.length = 0 ∨
        packet.payload.length ≥ packet.length.toNat then
      pure { status := .protocolError, rest }
    else
      pure { status := .ok, rest
             channel := { fragment := packet.payload, fragmentExpected := packet.length
                          fragmenting := true } }
  else continueStaticChannel dispatch rest index channelId channel packet

/-- `rdp_server_handle_static_channel_message` on the channel it finds. -/
def handleStaticMessage (rest : π) (index : Nat) (channelId : UInt16) (channel : StaticChannel)
    (data : Bytes) : Exec (StaticHandled π) :=
  match virtualChannelParsePacket data with
  | .error (.returned status) => pure { status, rest }
  | .error (.fault fault) => .error fault
  | .ok packet => handleStaticPacket dispatch rest index channelId channel data.length packet

/-- The part of `librdp_server_peer` that static channels use. -/
structure StaticPeer (π : Type) where
  advertisedChannelCount : Nat
  staticChannels : List StaticChannel
  rest : π

inductive StaticInput where
  | message (index : Nat) (channelId : UInt16) (data : Bytes)
  | reset

/-- `rdp_server_handle_static_channel_message`; an advertised index lies within the table. -/
def receiveStaticMessage (peer : StaticPeer π) (index : Nat) (channelId : UInt16) (data : Bytes) :
    Exec ((Status × Option Bytes) × StaticPeer π) :=
  if index ≥ peer.advertisedChannelCount then pure ((.invalidArgument, none), peer)
  else
    match peer.staticChannels[index]? with
    | none => .error .outOfBounds
    | some channel => do
        let handled ← handleStaticMessage dispatch peer.rest index channelId channel data
        pure ((handled.status, handled.delivered),
          { peer with
            staticChannels := peer.staticChannels.set index handled.channel
            rest := handled.rest })

def staticStep (peer : StaticPeer π) :
    StaticInput → Exec ((Status × Option Bytes) × StaticPeer π)
  | .message index channelId data => receiveStaticMessage dispatch peer index channelId data
  | .reset => pure ((.ok, none), { peer with staticChannels := peer.staticChannels.map fun _ => {} })

def staticPeerInit (advertisedChannelCount : Nat) (rest : π) : StaticPeer π :=
  { advertisedChannelCount, staticChannels := List.replicate maxServerChannels {}, rest }

end Handle

def chunkFlags (offset chunk dataLen : Nat) : UInt32 :=
  (if offset = 0 then flagFirst else 0) ||| (if offset + chunk = dataLen then flagLast else 0)

/-- The loop of `librdp_server_peer_send_channel_data`: the packets of the chunks from an offset
    on. -/
def sendChunks (data : Bytes) : Nat → Nat → Attempt (List Bytes)
  | 0, _ => .error (.fault .outOfFuel)
  | fuel + 1, offset => do
      let left := data.length - offset
      let chunk := if left > staticChannelChunkSize then staticChannelChunkSize else left
      let packet ← virtualChannelWriteFragment ((data.drop offset).take chunk) data.length
        (chunkFlags offset chunk data.length)
      if offset + chunk < data.length then do
        let packets ← sendChunks data fuel (offset + chunk)
        pure (packet :: packets)
      else pure [packet]

/-- `librdp_server_peer_send_channel_data` on a joined channel of an active peer whose transport
    accepts every packet: the packets it sends. -/
def sendChannelData (data : Bytes) : Attempt (List Bytes) :=
  if data.length > staticMessageMax then refuse .limitExceeded
  else sendChunks data (data.length + 1) 0

/-- The packet fits the channel: alone between two messages, first of a longer message, or the
    next part of the message in progress. -/
def StaticChannel.Fits (channel : StaticChannel) (dataLen : Nat) (packet : VirtualChannelPacket) :
    Prop :=
  packet.payload.length + 8 = dataLen ∧ packet.length.toNat ≤ staticMessageMax ∧
    (packet.whole ∧ channel.fragmenting = false ∨
      packet.first ∧ ¬packet.last ∧ channel.fragmenting = false ∧ 0 < packet.payload.length ∧
        packet.payload.length < packet.length.toNat ∨
      ¬packet.first ∧ channel.fragmenting = true ∧ channel.fragmentExpected = packet.length ∧
        0 < packet.payload.length ∧
        (if packet.last then
          channel.fragment.length + packet.payload.length = packet.length.toNat
        else channel.fragment.length + packet.payload.length < packet.length.toNat))

inductive StaticOutcome (channel : StaticChannel) (dataLen : Nat) (packet : VirtualChannelPacket) :
    Status → Option Bytes → StaticChannel → Prop where
  | refused : ¬channel.Fits dataLen packet →
      StaticOutcome channel dataLen packet .protocolError none {}
  | whole : packet.whole → channel.fragmenting = false →
      StaticOutcome channel dataLen packet status (some packet.payload) channel
  | started : packet.first → ¬packet.last → channel.fragmenting = false →
      0 < packet.payload.length → packet.payload.length < packet.length.toNat →
      packet.length.toNat ≤ staticMessageMax →
      StaticOutcome channel dataLen packet .ok none
        { fragment := packet.payload, fragmentExpected := packet.length, fragmenting := true }
  | extended : ¬packet.first → ¬packet.last → channel.fragmenting = true →
      channel.fragment.length + packet.payload.length < channel.fragmentExpected.toNat →
      StaticOutcome channel dataLen packet .ok none
        { channel with fragment := channel.fragment ++ packet.payload }
  | complete : ¬packet.first → packet.last → channel.fragmenting = true →
      channel.fragment.length + packet.payload.length = channel.fragmentExpected.toNat →
      StaticOutcome channel dataLen packet status (some (channel.fragment ++ packet.payload)) {}

section Outcome

variable {π : Type} {dispatch : StaticDispatch π} {rest : π} {index dataLen : Nat}
  {channelId : UInt16} {channel : StaticChannel} {packet : VirtualChannelPacket}

theorem continueStaticChannel_outcome (bounded : packet.payload.length ≤ packet.length.toNat)
    (next : ¬packet.first) :
    ∃ handled,
      continueStaticChannel dispatch rest index channelId channel packet = .ok handled ∧
      StaticOutcome channel dataLen packet handled.status handled.delivered handled.channel := by
  have partly : ¬packet.whole := fun whole => next (packet.whole_iff.mp whole).1
  unfold continueStaticChannel
  split
  · rename_i misfit
    refine ⟨_, rfl, .refused ?_⟩
    intro ⟨_, _, fits⟩
    grind
  rename_i going
  simp only [not_or, Decidable.not_not] at going
  obtain ⟨fragmenting, same, some⟩ := going
  rw [checkedSub_of_le (by rw [same]; exact bounded), ok_bind]
  split
  · rename_i excess
    refine ⟨_, rfl, .refused ?_⟩
    intro ⟨_, _, fits⟩
    grind
  rename_i fitting
  have appended := @List.length_append _ channel.fragment packet.payload
  simp only
  split
  · rename_i more
    split
    · refine ⟨_, rfl, .refused ?_⟩
      intro ⟨_, _, fits⟩
      grind
    · exact ⟨_, rfl, .extended next more fragmenting (by omega)⟩
  rename_i last
  rw [Decidable.not_not] at last
  split
  · refine ⟨_, rfl, .refused ?_⟩
    intro ⟨_, _, fits⟩
    grind
  · exact ⟨_, rfl, .complete next last fragmenting (by omega)⟩

theorem handleStaticPacket_outcome {data : Bytes}
    (parsed : virtualChannelParsePacket data = .ok packet) :
    ∃ handled,
      handleStaticPacket dispatch rest index channelId channel data.length packet = .ok handled ∧
      StaticOutcome channel data.length packet handled.status handled.delivered handled.channel := by
  obtain ⟨bounded, sized, complete⟩ := parsePacket_bounds parsed
  unfold handleStaticPacket
  rw [checkedSub_of_le (by omega), ok_bind]
  split
  · refine ⟨_, rfl, .refused ?_⟩
    intro ⟨exactly, small, _⟩
    omega
  rename_i sound
  split
  · rename_i whole
    have both := packet.whole_iff.mp whole
    split
    · refine ⟨_, rfl, .refused ?_⟩
      intro ⟨_, _, fits⟩
      have := complete whole
      grind
    · exact ⟨_, rfl, .whole whole (by grind)⟩
  rename_i partly
  split
  · rename_i first
    have more : ¬packet.last := fun last => partly (packet.whole_iff.mpr ⟨first, last⟩)
    split
    · rename_i misfit
      refine ⟨_, rfl, .refused ?_⟩
      intro ⟨_, _, fits⟩
      have zero : packet.length = 0 → packet.length.toNat = 0 := fun zero => by rw [zero]; rfl
      grind
    · refine ⟨_, rfl, .started first more ?_ ?_ ?_ ?_⟩ <;> grind
  · exact continueStaticChannel_outcome bounded ‹_›

theorem handleStaticMessage_cases (data : Bytes) :
    ∃ handled, handleStaticMessage dispatch rest index channelId channel data = .ok handled ∧
      ((∃ stop, virtualChannelParsePacket data = .error stop) ∧
          handled.status = .protocolError ∧ handled.delivered = none ∧ handled.channel = {} ∨
        ∃ packet, virtualChannelParsePacket data = .ok packet ∧
          StaticOutcome channel data.length packet handled.status handled.delivered
            handled.channel) := by
  unfold handleStaticMessage
  cases parsed : virtualChannelParsePacket data with
  | error stop =>
    cases parsePacket_error parsed
    exact ⟨_, rfl, .inl ⟨⟨_, rfl⟩, rfl, rfl, rfl⟩⟩
  | ok packet =>
    obtain ⟨handled, done, outcome⟩ := handleStaticPacket_outcome parsed
    exact ⟨handled, done, .inr ⟨packet, rfl, outcome⟩⟩

end Outcome

structure StaticChannel.Sound (channel : StaticChannel) : Prop where
  collecting : channel.fragmenting = true → 0 < channel.fragment.length ∧
    channel.fragment.length < channel.fragmentExpected.toNat ∧
    channel.fragmentExpected.toNat ≤ staticMessageMax
  idle : channel.fragmenting = false → channel.fragment = [] ∧ channel.fragmentExpected = 0

theorem StaticChannel.sound_new : StaticChannel.Sound {} :=
  ⟨fun fragmenting => (by cases fragmenting), fun _ => ⟨rfl, rfl⟩⟩

variable {channel channel' : StaticChannel} {packet : VirtualChannelPacket}
  {delivered : Option Bytes}

variable {dataLen : Nat} {status : Status}

theorem StaticOutcome.sound
    (outcome : StaticOutcome channel dataLen packet status delivered channel')
    (sound : channel.Sound) : channel'.Sound := by
  cases outcome with
  | refused => exact StaticChannel.sound_new
  | whole => exact sound
  | started _ _ _ some less small => exact ⟨fun _ => ⟨some, less, small⟩, fun idle => by cases idle⟩
  | extended _ _ fragmenting less =>
    obtain ⟨some, _, small⟩ := sound.collecting fragmenting
    constructor
    · intro _
      refine ⟨?_, ?_, small⟩
      · simp only [List.length_append]
        omega
      · simpa using less
    · intro idle
      exact absurd fragmenting (by simpa using idle)
  | complete => exact StaticChannel.sound_new

theorem StaticOutcome.error_idle
    (outcome : StaticOutcome channel dataLen packet status delivered channel')
    (sound : channel.Sound) (failed : status ≠ .ok) :
    channel'.fragmenting = false ∧ channel'.fragment = [] := by
  cases outcome with
  | refused | complete => exact ⟨rfl, rfl⟩
  | whole _ idle => exact ⟨idle, (sound.idle idle).1⟩
  | started | extended => exact absurd rfl failed

section Reach

variable {π : Type} {dispatch : StaticDispatch π} {peer peer' : StaticPeer π} {index : Nat}
  {channelId : UInt16}

variable {answer : Status × Option Bytes}

variable {data : Bytes} {rest : π} {input : StaticInput} {count : Nat}

theorem receiveStaticMessage_cases
    (received : receiveStaticMessage dispatch peer index channelId data = .ok (answer, peer')) :
    peer' = peer ∨ ∃ channel handled, peer.staticChannels[index]? = some channel ∧
      handleStaticMessage dispatch peer.rest index channelId channel data = .ok handled ∧
      answer = (handled.status, handled.delivered) ∧
      peer' = { peer with
        staticChannels := peer.staticChannels.set index handled.channel
        rest := handled.rest } := by
  unfold receiveStaticMessage at received
  split at received
  · cases received
    exact .inl rfl
  split at received
  · cases received
  rename_i channel held
  obtain ⟨handled, done, last⟩ := bind_eq_ok.mp received
  cases last
  exact .inr ⟨channel, handled, held, done, rfl, rfl⟩

theorem handleStaticMessage_sound {channel : StaticChannel} {handled : StaticHandled π}
    (sound : channel.Sound)
    (done : handleStaticMessage dispatch rest index channelId channel data = .ok handled) :
    handled.channel.Sound ∧ (handled.status ≠ .ok →
      handled.channel.fragmenting = false ∧ handled.channel.fragment = []) := by
  obtain ⟨handled', done', cases'⟩ := @handleStaticMessage_cases π dispatch rest index channelId
    channel data
  cases done.symm.trans done'
  obtain ⟨_, _, _, reset⟩ | ⟨packet, _, outcome⟩ := cases'
  · rw [reset]
    exact ⟨StaticChannel.sound_new, fun _ => ⟨rfl, rfl⟩⟩
  · exact ⟨outcome.sound sound, outcome.error_idle sound⟩

theorem staticStep_sound (sound : ∀ channel ∈ peer.staticChannels, channel.Sound)
    (stepped : staticStep dispatch peer input = .ok (answer, peer')) :
    ∀ channel ∈ peer'.staticChannels, channel.Sound := by
  intro channel held
  cases input with
  | message index channelId data =>
    obtain rfl | ⟨old, handled, before, done, _, rfl⟩ := receiveStaticMessage_cases stepped
    · exact sound channel held
    · obtain kept | rfl := List.mem_or_eq_of_mem_set held
      · exact sound channel kept
      · exact (handleStaticMessage_sound (sound old (List.mem_of_getElem? before)) done).1
  | reset =>
    cases stepped
    obtain ⟨_, _, rfl⟩ := List.mem_map.mp held
    exact StaticChannel.sound_new

theorem reachable_sound
    (reached : Reachable (staticStep dispatch) (staticPeerInit count rest) peer) :
    ∀ channel ∈ peer.staticChannels, channel.Sound := by
  apply reached.invariant fun peer => ∀ channel ∈ peer.staticChannels, channel.Sound
  · intro channel held
    rw [List.eq_of_mem_replicate held]
    exact StaticChannel.sound_new
  · intro peer input answer peer' sound stepped
    exact staticStep_sound sound stepped

theorem staticStep_size (stepped : staticStep dispatch peer input = .ok (answer, peer')) :
    peer'.staticChannels.length = peer.staticChannels.length ∧
      peer'.advertisedChannelCount = peer.advertisedChannelCount := by
  cases input with
  | message index channelId data =>
    obtain rfl | ⟨_, _, _, _, _, rfl⟩ := receiveStaticMessage_cases stepped
    · exact ⟨rfl, rfl⟩
    · exact ⟨List.length_set, rfl⟩
  | reset =>
    cases stepped
    exact ⟨List.length_map _, rfl⟩

theorem reachable_size
    (reached : Reachable (staticStep dispatch) (staticPeerInit count rest) peer) :
    peer.staticChannels.length = maxServerChannels ∧ peer.advertisedChannelCount = count := by
  apply reached.invariant fun peer =>
    peer.staticChannels.length = maxServerChannels ∧ peer.advertisedChannelCount = count
  · exact ⟨List.length_replicate, rfl⟩
  · intro peer input answer peer' sized stepped
    obtain ⟨sameLength, sameCount⟩ := staticStep_size stepped
    exact ⟨sameLength.trans sized.1, sameCount.trans sized.2⟩

end Reach

end LibRdp.Server
