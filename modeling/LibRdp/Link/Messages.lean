import LibRdp.Server.DynamicMessages
import LibRdp.Client.DynamicMessages

/-! # Messages between a server peer and a client session

The two ends have receivers of their own. Both hand over a message that is cut into
pieces exactly once, with one difference: the server forgets a message that has
started without data.
-/

namespace LibRdp.Link

open Machine Channels

/-- The server accepts every PDU, hands over the message at the last and has none in progress
    afterwards. -/
def ServerDelivers {π : Type} (hooks : Server.DynamicHooks π) (peer : Server.DynamicPeer π)
    (channelId : UInt32) (pieces : List Bytes) (message : Bytes) (inputs : List Bytes) : Prop :=
  ∃ outs peer', run (Server.handleDynamicMessage hooks) peer inputs = .ok (outs, peer') ∧
    heardAnswers (ofChannel channelId) Server.hears inputs outs =
      List.replicate pieces.length (.ok, none) ++ [(.ok, some message)] ∧
    ∃ slot channel, Server.findDynamicChannel peer' channelId = some (slot, channel) ∧
      channel.fragment = []

/-- The client accepts every PDU, hands over the message at the last and has none in progress
    afterwards. -/
def ClientDelivers {σ δ : Type} [Inhabited δ] (hooks : Client.DynamicHooks σ δ)
    (session : Client.DynamicSession σ δ) (channelId : UInt32) (pieces : List Bytes)
    (message : Bytes) (inputs : List Bytes) : Prop :=
  ∃ outs session', run (Client.handleDynamicChannel hooks) session inputs = .ok (outs, session') ∧
    heardAnswers (ofChannel channelId) Client.hears inputs outs =
      List.replicate pieces.length (.ok, none) ++ [(.ok, some message)] ∧
    ∃ slot entry, Client.dynamicChannelFind session'.table channelId = some (slot, entry) ∧
      entry.fragmenting = false

section Server

variable {π : Type} {hooks : Server.DynamicHooks π} {rest : π} {peer : Server.DynamicPeer π}
  {channelId : UInt32} {slot : Nat} {channel : Server.DynamicChannel} {message first : Bytes}
  {pieces wires inputs : List Bytes}

theorem server_idle
    (reached : Reachable (Server.dynamicStep hooks) (Server.dynamicPeerInit rest) peer)
    (isOpen : Server.findDynamicChannel peer channelId = some (slot, channel))
    (empty : channel.fragment = []) : Server.Idle channelId peer := by
  obtain ⟨ok, readyOk⟩ := Server.dynamicPeer_reachable_ok reached
  obtain ⟨held, passes⟩ := Table.lookup_some isOpen
  obtain ⟨isOpen', _⟩ := Server.DynamicChannel.openFor_usedFor passes
  have used : channel.used = true := by
    rw [Server.DynamicChannel.used, isOpen', Bool.true_or, Bool.true_or]
  exact ⟨ok, readyOk held used, slot, channel, isOpen, empty⟩

theorem server_delivers_iff (idle : Server.Idle channelId peer)
    (accepts : Server.Accepts hooks message) (some : message ≠ [])
    (limit : message.length ≤ Server.dynamicMessageMax)
    (cuts : Cuts (ReadsPiece channelId) message first pieces wires)
    (own : inputs.filterMap (ofChannel channelId) = wires) :
    ServerDelivers hooks peer channelId pieces message inputs ↔ first ≠ [] ∨ pieces.length = 1 := by
  by_cases empty : first = []
  · subst empty
    have whole : pieces.flatten = message := cuts.whole
    constructor
    · rintro ⟨outs, peer', ran, heard, _⟩
      obtain ⟨outs', peer'', ran', heard', _⟩ := @Server.server_empty_first _ hooks peer channelId
        message _ Server.DynamicAnswer.delivered id pieces wires
        (fun answer quiet => congrArg Prod.snd quiet) (fun _ _ _ delivered _ => delivered) cuts limit
        inputs own idle
      rw [ran] at ran'
      cases ran'
      -- both readings of the answers are known, so the pieces handed over are known
      have delivered := @heardAnswers_map _ _ _ _ (ofChannel channelId) Server.hears _ Prod.snd inputs
        outs
      simp only [Server.hears] at delivered
      rw [heard', heard] at delivered
      cases pieces with
      | nil => exact absurd whole.symm some
      | cons piece pieces =>
        cases pieces with
        | nil => exact .inr rfl
        | cons piece' pieces => simp [List.replicate_succ] at delivered
    · intro condition
      obtain ⟨piece, rfl⟩ := List.length_eq_one_iff.mp (condition.resolve_left (by simp))
      have same : piece = message := by simpa using whole
      subst same
      obtain ⟨outs, peer', ran, heard, _, _, isIdle⟩ := @Server.server_empty_first _ hooks peer channelId
        piece _ Server.hears (fun data => (.ok, data)) [piece] wires (fun _ quiet => quiet)
        (fun data isPiece answer delivered accepted => by
          rw [List.mem_singleton.mp isPiece] at delivered accepted ⊢
          rw [Server.hears, accepted accepts, delivered]) cuts limit inputs own idle
      exact ⟨outs, peer', ran, heard, isIdle⟩
  · refine ⟨fun _ => .inl empty, fun _ => ?_⟩
    obtain ⟨outs, peer', ran, heard, _, _, isIdle⟩ :=
      (Server.server_reassembler (fun _ same => same) (fun answer delivered accepted => by
        rw [Server.hears, accepted accepts, delivered]) limit).delivers cuts (.inl empty) own idle
    exact ⟨outs, peer', ran, heard, isIdle⟩

end Server

section Client

variable {σ δ : Type} [Inhabited δ] {hooks : Client.DynamicHooks σ δ} {rest : σ}
  {session : Client.DynamicSession σ δ} {channelId : UInt32} {slot : Nat}
  {entry : Client.DynamicChannel δ} {message first : Bytes} {pieces wires inputs : List Bytes}

theorem client_idle {limit messageLimit : Nat} {within : limit ≤ Client.maxDynamicChannels}
    (reached : Reachable (Client.dynamicStep hooks)
      (Client.dynamicSessionInit δ within messageLimit rest) session)
    (isActive : Client.dynamicChannelFind session.table channelId = some (slot, entry))
    (idle : entry.fragmenting = false) (small : message.length ≤ session.messageLimit) :
    Client.Idle channelId message.length session :=
  ⟨Client.dynamicSession_reachable_fed reached, small, slot, entry, isActive, idle⟩

theorem client_delivers (idle : Client.Idle channelId message.length session)
    (accepts : Client.Accepts hooks message)
    (cuts : Cuts (ReadsPiece channelId) message first pieces wires)
    (own : inputs.filterMap (ofChannel channelId) = wires) :
    ClientDelivers hooks session channelId pieces message inputs := by
  obtain ⟨outs, session', ran, heard, _, _, isIdle⟩ :=
    (Client.client_reassembler (fun _ same => same) (fun answer delivered accepted => by
      rw [Client.hears, accepted accepts, delivered])).delivers cuts (.inl trivial) own idle
  exact ⟨outs, session', ran, heard, isIdle⟩

end Client

/-- Both receivers take a message that is cut into a first piece and further pieces, under any
    interleaving with the PDUs of other channels, exactly when the first piece has data or one
    further piece has it all. -/
theorem dynamic_receivers_deliver_iff {π σ δ : Type} [Inhabited δ]
    {serverHooks : Server.DynamicHooks π} {clientHooks : Client.DynamicHooks σ δ}
    {peerRest : π} {sessionRest : σ} {limit messageLimit : Nat}
    {within : limit ≤ Client.maxDynamicChannels} {peer : Server.DynamicPeer π}
    {session : Client.DynamicSession σ δ} {channelId : UInt32} {message first : Bytes}
    {pieces wires serverInputs clientInputs : List Bytes} {slot slot' : Nat}
    {channel : Server.DynamicChannel} {entry : Client.DynamicChannel δ}
    (peerReached : Reachable (Server.dynamicStep serverHooks) (Server.dynamicPeerInit peerRest) peer)
    (sessionReached : Reachable (Client.dynamicStep clientHooks)
      (Client.dynamicSessionInit δ within messageLimit sessionRest) session)
    (isOpen : Server.findDynamicChannel peer channelId = some (slot, channel))
    (isActive : Client.dynamicChannelFind session.table channelId = some (slot', entry))
    (empty : channel.fragment = []) (idle : entry.fragmenting = false)
    (some : message ≠ []) (serverLimit : message.length ≤ Server.dynamicMessageMax)
    (clientLimit : message.length ≤ session.messageLimit)
    (serverAccepts : Server.Accepts serverHooks message)
    (clientAccepts : Client.Accepts clientHooks message)
    (cuts : Cuts (ReadsPiece channelId) message first pieces wires)
    (serverOwn : serverInputs.filterMap (ofChannel channelId) = wires)
    (clientOwn : clientInputs.filterMap (ofChannel channelId) = wires) :
    (ServerDelivers serverHooks peer channelId pieces message serverInputs ∧
      ClientDelivers clientHooks session channelId pieces message clientInputs) ↔
      first ≠ [] ∨ pieces.length = 1 := by
  have server := server_delivers_iff (server_idle peerReached isOpen empty) serverAccepts some
    serverLimit cuts serverOwn
  have client := client_delivers (client_idle sessionReached isActive idle clientLimit) clientAccepts
    cuts clientOwn
  rw [server]
  exact ⟨fun both => both.1, fun condition => ⟨condition, client⟩⟩

/-! ## There and back

What either end sends, the other hands over. -/

/-- A message was sent in PDUs within the size limit, and the receiver, handling them in order, hands
    over that message at the last of them and nothing else. -/
def Arrives {σ ο : Type} (step : σ → Bytes → Exec (ο × σ)) (delivered : ο → Option Bytes)
    (receiver : σ) (message : Bytes) (status : Status) (sent : List Bytes) : Prop :=
  status = .ok ∧ (∀ wire ∈ sent, wire.length ≤ maxPduSize) ∧
    ∃ outs receiver', run step receiver sent = .ok (outs, receiver') ∧
      outs.map delivered = List.replicate (sent.length - 1) none ++ [some message]

/-- Every message within the receiver's limit arrives, in both directions. The limit of a client is
    one that its settings accept. -/
theorem dynamic_messages_arrive {π σ δ : Type} [Inhabited δ]
    {serverHooks : Server.DynamicHooks π} {clientHooks : Client.DynamicHooks σ δ}
    {peerRest : π} {sessionRest : σ} {limit messageLimit : Nat}
    {within : limit ≤ Client.maxDynamicChannels} {peer : Server.DynamicPeer π}
    {session : Client.DynamicSession σ δ} {channelId : UInt32} {channelIdBytes priority : Nat}
    {message : Bytes} {slot slot' : Nat} {channel : Server.DynamicChannel}
    {entry : Client.DynamicChannel δ}
    (peerReached : Reachable (Server.dynamicStep serverHooks) (Server.dynamicPeerInit peerRest) peer)
    (sessionReached : Reachable (Client.dynamicStep clientHooks)
      (Client.dynamicSessionInit δ within messageLimit sessionRest) session)
    (isOpen : Server.findDynamicChannel peer channelId = some (slot, channel))
    (isActive : Client.dynamicChannelFind session.table channelId = some (slot', entry))
    (empty : channel.fragment = []) (idle : entry.fragmenting = false)
    (active : peer.active = true) (serverJoined : peer.staticChannelId ≠ 0)
    (clientJoined : session.dynamicChannelId ≠ 0)
    (serverTransmits : Server.Transmits serverHooks) (clientTransmits : Client.Transmits clientHooks)
    (serverFits : NumberFits channelId channel.channelIdBytes) (serverPriority : channel.priority ≤ 3)
    (clientFits : NumberFits channelId channelIdBytes) (clientPriority : priority ≤ 3)
    (some : message ≠ [])
    (settings : session.messageLimit ≤ Client.settingsLimitDynamicMessageBytes) :
    (message.length ≤ session.messageLimit →
      let answer := (Server.sendDynamicChannelData serverHooks peer channelId message).1
      Arrives (Client.handleDynamicChannel clientHooks) Client.DynamicAnswer.delivered session message
        answer.status answer.sent) ∧
    (message.length ≤ Server.dynamicMessageMax →
      let answer := (Client.sendDynamicChannelDataPriority clientHooks session channelId channelIdBytes
        priority message).1
      Arrives (Server.handleDynamicMessage serverHooks) Server.DynamicAnswer.delivered peer message
        answer.status answer.sent) := by
  constructor
  · intro small
    obtain ⟨wires, peer', sent, sends, bounded⟩ := Server.sendDynamicChannelData_ok serverTransmits
      active serverJoined isOpen serverFits serverPriority some (Nat.le_trans small settings)
    rw [sent]
    exact ⟨rfl, bounded, Client.receives_sent (client_idle sessionReached isActive idle small) sends⟩
  · intro small
    obtain ⟨wires, session', sent, sends, bounded⟩ := @Client.sendDynamicChannelDataPriority_ok _ _ _
      clientHooks session channelId channelIdBytes priority message clientTransmits clientJoined
      clientFits clientPriority some (Nat.le_trans small (by decide))
    rw [sent]
    exact ⟨rfl, bounded, Server.receives_sent (server_idle peerReached isOpen empty) small sends⟩

def plainClientHooks : Client.DynamicHooks Unit Unit where
  write := fun _ _ => (.ok, ())
  createStatus := fun _ _ => createStatusOk
  isInternalName := fun _ => false
  created := fun _ _ => (.ok, ())
  closed := fun _ _ => ()
  handle := fun _ _ _ => (.ok, ())
  decode := fun _ data => (.ok, data, ())
  capabilities := fun _ _ => (.ok, ())
  softSync := fun _ _ _ => (.ok, ())
  softSyncResponse := fun _ => .ok

def openPeer : Server.DynamicPeer Unit :=
  { Server.dynamicPeerInit () with
    active := true, staticChannelId := 1004, channelsReady := true, capabilitiesSent := true
    version := 1, channelCount := 1
    channels := (List.replicate Server.maxDynamicChannels {}).set 0
      { channelId := 7, channelIdBytes := 1, isOpen := true, name := [0x78] } }

theorem openPeer_reachable :
    Reachable (Server.dynamicStep Server.plainHooks) (Server.dynamicPeerInit ()) openPeer := by
  have started : Reachable (Server.dynamicStep Server.plainHooks) (Server.dynamicPeerInit ()) _ :=
    .step .init (i := .elsewhere true 1004 true ()) rfl
  have ready : Reachable (Server.dynamicStep Server.plainHooks) (Server.dynamicPeerInit ()) _ :=
    .step started (i := .message [0x50, 0, 1, 0]) rfl
  exact .step ready (i := .message [0x10, 7, 0x78, 0]) rfl

theorem everyChannel : 64 ≤ Client.maxDynamicChannels := Nat.le_refl 64

def activeSession : Client.DynamicSession Unit Unit :=
  { Client.dynamicSessionInit Unit everyChannel 4096 () with
    connected := true, dynamicChannelId := 1004
    table :=
      { Client.channelTableInit Unit everyChannel with
        channels := (List.replicate Client.maxDynamicChannels {}).set 0
          { channelId := 7, generation := 1, channelIdBytes := 1, active := true, name := [0x78] } } }

theorem activeSession_reachable :
    Reachable (Client.dynamicStep plainClientHooks)
      (Client.dynamicSessionInit Unit (Nat.le_refl 64) 4096 ()) activeSession := by
  have started : Reachable (Client.dynamicStep plainClientHooks)
      (Client.dynamicSessionInit Unit (Nat.le_refl 64) 4096 ()) _ :=
    .step .init (i := .elsewhere true 1004 ()) rfl
  exact .step started (i := .message [0x10, 7, 0x78, 0]) rfl

theorem plain_accepts (message : Bytes) : Server.Accepts Server.plainHooks message ∧
    Client.Accepts plainClientHooks message :=
  ⟨fun _ _ => .inl rfl, fun _ _ => rfl⟩

theorem dynamic_receivers_deliver_iff_two_pieces :
    ServerDelivers Server.plainHooks openPeer 7 [[2]] [1, 2] [[0x20, 7, 2, 1], [0x30, 7, 2]] ∧
      ClientDelivers plainClientHooks activeSession 7 [[2]] [1, 2]
        [[0x20, 7, 2, 1], [0x30, 7, 2]] := by
  have cuts : Cuts (ReadsPiece 7) [1, 2] [1] [[2]] [[0x20, 7, 2, 1], [0x30, 7, 2]] :=
    { whole := rfl
      nonempty := by simp
      encoded := ⟨_, _, rfl, @ReadsPiece.first 7 _ 1 2 _ rfl, .cons (.more rfl) .nil⟩ }
  have own : [[0x20, 7, 2, 1], [0x30, 7, 2]].filterMap (ofChannel 7) =
      [[0x20, 7, 2, 1], [0x30, 7, 2]] := rfl
  exact (dynamic_receivers_deliver_iff openPeer_reachable activeSession_reachable rfl rfl rfl rfl
    (by simp) (by decide) (by decide) (plain_accepts _).1 (plain_accepts _).2 cuts own own).mpr
    (.inl (by simp))

def longMessage : Bytes := List.replicate 3000 5

theorem dynamic_messages_arrive_long :
    (let answer := (Server.sendDynamicChannelData Server.plainHooks openPeer 7 longMessage).1
     answer.sent.length = 2 ∧ Arrives (Client.handleDynamicChannel plainClientHooks)
       Client.DynamicAnswer.delivered activeSession longMessage answer.status answer.sent) ∧
    (let answer :=
      (Client.sendDynamicChannelDataPriority plainClientHooks activeSession 7 2 2 longMessage).1
     answer.sent.length = 2 ∧ Arrives (Server.handleDynamicMessage Server.plainHooks)
       Server.DynamicAnswer.delivered openPeer longMessage answer.status answer.sent) := by
  have long : longMessage.length = 3000 := List.length_replicate
  have both := @dynamic_messages_arrive _ _ _ _ Server.plainHooks plainClientHooks _ _ _ _ _ openPeer
    activeSession 7 2 2 longMessage _ _ _ _ openPeer_reachable activeSession_reachable rfl rfl rfl rfl
    rfl (by decide) (by decide) (fun _ _ _ => rfl) (fun _ _ _ => rfl) (.inl ⟨rfl, by decide⟩)
    (by decide) (.inr (.inl ⟨rfl, by decide⟩)) (by decide) (List.ne_nil_of_length_eq_add_one long)
    (by decide)
  rw [long] at both
  exact ⟨⟨by decide +kernel, both.1 (by decide)⟩, by decide +kernel, both.2 (by decide)⟩

/-- A message that starts without data and goes on in two pieces is handed over as two. -/
theorem server_splits_empty_first :
    Cuts (ReadsPiece 7) [1, 2] [] [[1], [2]] [[0x20, 7, 2], [0x30, 7, 1], [0x30, 7, 2]] ∧
      Reachable (Server.dynamicStep Server.plainHooks) (Server.dynamicPeerInit ()) openPeer ∧
      ¬ServerDelivers Server.plainHooks openPeer 7 [[1], [2]] [1, 2]
        [[0x20, 7, 2], [0x30, 7, 1], [0x30, 7, 2]] := by
  refine ⟨?_, openPeer_reachable, ?_⟩
  · exact {
      whole := rfl
      nonempty := by simp
      encoded := ⟨_, _, rfl, @ReadsPiece.first 7 _ 1 2 _ rfl, .cons (.more rfl) (.cons (.more rfl) .nil)⟩ }
  · rintro ⟨outs, peer', ran, heard, _⟩
    cases ran
    cases heard

end LibRdp.Link
