import LibRdp.Link.ServerSide
import LibRdp.Link.ClientSide
import LibRdp.Link.Messages

/-! # Agreement on which channels are open

A server peer and a client session joined by two queues, in which PDUs stay in order.
Every step moves every channel by at most one move of its life, so the phases of that
life hold in every run, and with empty queues both ends hold the same channels.
-/

namespace LibRdp.Link

open Machine Channels

structure Connection (π σ δ : Type) [Inhabited δ] where
  peer : Server.DynamicPeer π
  session : Client.DynamicSession σ δ
  toClient : List Bytes
  toServer : List Bytes

inductive ConnectionInput where
  | serverOpen (channelId : UInt32) (priority : Nat) (name : Bytes)
  | serverClose (channelId : UInt32)
  | cancel (family : Nat)
  | clientOpen (name : Bytes) (priority : Nat)
  | clientClose (channelId : UInt32)
  | deliverToClient
  | deliverToServer

section Definitions

variable {π σ δ : Type} [Inhabited δ] (serverHooks : Server.DynamicHooks π)
  (clientHooks : Client.DynamicHooks σ δ)

def connectionStep (connection : Connection π σ δ) :
    ConnectionInput → Exec (Status × Connection π σ δ)
  | .serverOpen channelId priority name =>
      let (answer, peer) :=
        Server.openDynamicChannel serverHooks connection.peer channelId priority name
      pure (answer.status,
        { connection with peer, toClient := connection.toClient ++ answer.sent })
  | .serverClose channelId => do
      let (answer, peer) ← Server.closeDynamicChannel serverHooks connection.peer channelId
      pure (answer.status,
        { connection with peer, toClient := connection.toClient ++ answer.sent })
  | .cancel family =>
      pure (.ok, { connection with
        peer := Server.cancelPendingFamily serverHooks connection.peer family })
  | .clientOpen name priority =>
      let (answer, session) := (Client.channelOpen clientHooks connection.session name priority).2
      pure (answer.status,
        { connection with session, toServer := connection.toServer ++ answer.sent })
  | .clientClose channelId =>
      let (answer, session) := Client.channelClose clientHooks connection.session channelId
      pure (answer.status,
        { connection with session, toServer := connection.toServer ++ answer.sent })
  | .deliverToClient =>
      match connection.toClient with
      | [] => pure (.ok, connection)
      | wire :: rest => do
          let (answer, session) ← Client.handleDynamicChannel clientHooks connection.session wire
          pure (answer.status, { connection with
            session, toClient := rest, toServer := connection.toServer ++ answer.sent })
  | .deliverToServer =>
      match connection.toServer with
      | [] => pure (.ok, connection)
      | wire :: rest => do
          let (answer, peer) ← Server.handleDynamicMessage serverHooks connection.peer wire
          pure (answer.status, { connection with
            peer, toServer := rest, toClient := connection.toClient ++ answer.sent })

/-- Both ends after the capabilities exchange, with no channel open. -/
def connectionInit (δ : Type) [Inhabited δ] (version channelId : UInt16) {limit : Nat}
    (within : limit ≤ Client.maxDynamicChannels) (messageLimit : Nat) (peerRest : π)
    (sessionRest : σ) : Connection π σ δ :=
  { peer := { Server.dynamicPeerInit peerRest with
      active := true, staticChannelId := channelId, channelsReady := true, capabilitiesSent := true
      version }
    session := { Client.dynamicSessionInit δ within messageLimit sessionRest with
      connected := true, dynamicChannelId := channelId }
    toClient := []
    toServer := [] }

/-- The two sides never pick the same id: the server picks from `ours`, the client from the rest. -/
def PicksApart (ours : UInt32 → Bool) (connection : Connection π σ δ) : ConnectionInput → Prop
  | .serverOpen channelId _ _ => ours channelId = true
  | .clientOpen _ _ => ∀ channelId,
      (Client.dynamicChannelAllocateId connection.session.table).1 = some channelId →
        ours channelId = false
  | _ => True

/-- When a step leaves no channel behind. The server cancels an open only when the client has let the
    channel go and is not asked for it any more, a request reaches a client that has a free entry, and
    a close reaches a client that has closed the channel itself. -/
def LeavesNone (connection : Connection π σ δ) : ConnectionInput → Prop
  | .cancel family =>
      ∀ (slot : Nat) (channel : Server.DynamicChannel),
        connection.peer.channels[slot]? = some channel → channel.pendingOpen = true →
        channel.cancelledOpen = false → serverHooks.familyValid family = true →
        serverHooks.family channel.name = family →
        Client.dynamicChannelFindAny connection.session.table channel.channelId = none ∧
          ∀ wire ∈ connection.toClient, ∀ request, parseCreateRequest wire = .ok request →
            request.channelId ≠ channel.channelId
  | .deliverToClient =>
      ∀ wire rest, connection.toClient = wire :: rest →
        (∀ request, parseCreateRequest wire = .ok request →
          Client.dynamicChannelFindAny connection.session.table request.channelId = none →
          (Client.dynamicChannelFreeSlot connection.session.table).isSome = true) ∧
        ∀ pdu, parseClose wire = .ok pdu →
          Client.dynamicChannelFind connection.session.table pdu.channelId = none
  | _ => True

/-- Both ends hold the same channels, and no slot waits for anything. -/
def Agreed (connection : Connection π σ δ) : Prop :=
  (∀ channelId, (Client.dynamicChannelFind connection.session.table channelId).isSome =
    (Server.findDynamicChannel connection.peer channelId).isSome) ∧
  ∀ (slot : Nat) (channel : Server.DynamicChannel), connection.peer.channels[slot]? = some channel →
    channel.pendingOpen = false ∧ channel.closing = false

end Definitions

def about (channelId : UInt32) (queue : List (UInt32 × Pdu)) : List Pdu :=
  queue.filterMap fun entry => if entry.1 = channelId then some entry.2 else none

section Views

variable {π σ δ : Type} [Inhabited δ] {connection : Connection π σ δ} {channelId id : UInt32}
  {pdu : Pdu} {toClient toServer queue : List (UInt32 × Pdu)} {wires : List Bytes} {wire : Bytes}

theorem about_append (queue later : List (UInt32 × Pdu)) (id : UInt32) :
    about id (queue ++ later) = about id queue ++ about id later :=
  List.filterMap_append

theorem about_of (channelId : UInt32) (pdus : List Pdu) (id : UInt32) :
    about id (pdus.map (Prod.mk channelId)) = if id = channelId then pdus else [] := by
  unfold about
  rw [List.filterMap_map]
  by_cases same : id = channelId
  · subst same
    simp
  · have apart : ¬channelId = id := fun equal => same equal.symm
    simp [same, apart]

theorem about_cons (queue : List (UInt32 × Pdu)) (channelId : UInt32) (pdu : Pdu) (id : UInt32) :
    about id ((channelId, pdu) :: queue) =
      if id = channelId then pdu :: about id queue else about id queue := by
  unfold about
  by_cases same : id = channelId
  · subst same
    simp
  · have apart : ¬channelId = id := fun equal => same equal.symm
    simp [same, apart]

theorem mem_about (isHeld : pdu ∈ about channelId queue) : (channelId, pdu) ∈ queue := by
  obtain ⟨entry, isEntry, same⟩ := List.mem_filterMap.mp isHeld
  split at same
  · rename_i here
    cases same
    rw [← here]
    exact isEntry
  · cases same

/-- What both ends and the queues hold of a channel; the queues are given as they were meant. -/
def Connection.view (connection : Connection π σ δ) (toClient toServer : List (UInt32 × Pdu))
    (channelId : UInt32) : View :=
  { server := connection.peer.stage channelId
    client := connection.session.stage channelId
    toClient := about channelId toClient
    toServer := about channelId toServer }

structure Wired (connection : Connection π σ δ) (toClient toServer : List (UInt32 × Pdu)) : Prop where
  server : Server.Joined connection.peer
  client : Client.Joined connection.session
  toClient : List.Forall₂ Reads connection.toClient toClient
  toServer : List.Forall₂ Reads connection.toServer toServer

theorem request_about (reads : List.Forall₂ Reads wires queue)
    (isAsked : Pdu.request ∈ about channelId queue) :
    ∃ wire ∈ wires, ∃ request, parseCreateRequest wire = .ok request ∧
      request.channelId = channelId := by
  have held := mem_about isAsked
  clear isAsked
  induction reads with
  | nil => cases held
  | @cons first entry wires queue reads _ ih =>
    cases held with
    | head =>
      cases reads with
      | request parsed => exact ⟨first, List.mem_cons_self .., _, parsed, rfl⟩
    | tail _ later =>
      obtain ⟨wire, isWire, found⟩ := ih later
      exact ⟨wire, List.mem_cons_of_mem _ isWire, found⟩

end Views

section Steps

variable {π σ δ : Type} [Inhabited δ] {serverHooks : Server.DynamicHooks π}
  {clientHooks : Client.DynamicHooks σ δ} {ours : UInt32 → Bool}
  {connection connection' : Connection π σ δ} {toClient toServer : List (UInt32 × Pdu)}
  {status : Status} {channelId : UInt32}

/-- The connection goes on with every channel where it was or one move further. -/
def Follows (ours : UInt32 → Bool) (connection : Connection π σ δ)
    (toClient toServer : List (UInt32 × Pdu)) (connection' : Connection π σ δ) : Prop :=
  ∃ toClient' toServer', Wired connection' toClient' toServer' ∧
    ∀ id, connection'.view toClient' toServer' id = connection.view toClient toServer id ∨
      Moves (ours id) (connection.view toClient toServer id) (connection'.view toClient' toServer' id)

section Turns

variable {peer peer' : Server.DynamicPeer π} {session session' : Client.DynamicSession σ δ}
  {wires wires' before sent : List Bytes}

theorem client_follows (channelId : UInt32) (taken answers : List Pdu) {stage : ClientStage}
    (server : Server.Joined peer) (turned : Client.Turned session channelId stage session')
    (readsClient : List.Forall₂ Reads wires toClient)
    (readsServer : List.Forall₂ Reads wires' toServer)
    (reads : List.Forall₂ Reads sent (answers.map (Prod.mk channelId)))
    (moves : Moves (ours channelId)
      ⟨peer.stage channelId, session.stage channelId, taken ++ about channelId toClient,
        about channelId toServer⟩
      ⟨peer.stage channelId, stage, about channelId toClient, about channelId toServer ++ answers⟩) :
    Follows ours ⟨peer, session, before, wires'⟩ (taken.map (Prod.mk channelId) ++ toClient) toServer
      ⟨peer, session', wires, wires' ++ sent⟩ := by
  refine ⟨toClient, toServer ++ answers.map (Prod.mk channelId),
    ⟨server, turned.joined, readsClient, List.rel_append readsServer reads⟩, fun id => ?_⟩
  simp only [Connection.view, turned.stage, about_append, about_of]
  by_cases same : id = channelId
  · subst same
    simp only [if_true]
    exact .inr moves
  · simp only [if_neg same, List.append_nil, List.nil_append, true_or]

theorem server_follows (channelId : UInt32) (taken answers : List Pdu) {stage : ServerStage}
    (client : Client.Joined session) (turned : Server.Turned peer channelId stage peer')
    (readsClient : List.Forall₂ Reads wires toClient)
    (readsServer : List.Forall₂ Reads wires' toServer)
    (reads : List.Forall₂ Reads sent (answers.map (Prod.mk channelId)))
    (moves : Moves (ours channelId)
      ⟨peer.stage channelId, session.stage channelId, about channelId toClient,
        taken ++ about channelId toServer⟩
      ⟨stage, session.stage channelId, about channelId toClient ++ answers,
        about channelId toServer⟩) :
    Follows ours ⟨peer, session, wires, before⟩ toClient (taken.map (Prod.mk channelId) ++ toServer)
      ⟨peer', session, wires ++ sent, wires'⟩ := by
  refine ⟨toClient ++ answers.map (Prod.mk channelId), toServer,
    ⟨turned.joined, client, List.rel_append readsClient reads, readsServer⟩, fun id => ?_⟩
  simp only [Connection.view, turned.stage, about_append, about_of]
  by_cases same : id = channelId
  · subst same
    simp only [if_true]
    exact .inr moves
  · simp only [if_neg same, List.append_nil, List.nil_append, true_or]

end Turns

variable {priority : Nat} {name : Bytes}

variable (wired : Wired connection toClient toServer)
include wired

theorem serverOpen_follows (sends : Server.SendsAll serverHooks) (picks : ours channelId = true)
    (taken : connectionStep serverHooks clientHooks connection (.serverOpen channelId priority name) =
      .ok (status, connection')) : Follows ours connection toClient toServer connection' := by
  cases result : Server.openDynamicChannel serverHooks connection.peer channelId priority name with
  | mk answer peer' =>
    simp only [connectionStep, result, pure_eq_ok] at taken
    cases taken
    rcases Server.openDynamicChannel_turned sends wired.server priority name result with
      ⟨none, turned⟩ | ⟨free, wire, sent, reads, turned⟩
    · rw [none, List.append_nil]
      refine ⟨toClient, toServer, ⟨turned.joined, wired.client, wired.toClient, wired.toServer⟩,
        fun id => .inl ?_⟩
      simp only [Connection.view, turned.still id]
    · rw [sent]
      refine server_follows channelId [] [.request] wired.client turned wired.toClient
        wired.toServer (.cons reads .nil) ?_
      rw [free]
      exact .serverOpen picks

theorem serverClose_follows (sends : Server.SendsAll serverHooks)
    (taken : connectionStep serverHooks clientHooks connection (.serverClose channelId) =
      .ok (status, connection')) : Follows ours connection toClient toServer connection' := by
  obtain ⟨⟨answer, peer'⟩, result, taken⟩ := bind_eq_ok.mp taken
  cases taken
  rcases Server.closeDynamicChannel_turned sends wired.server result with
    ⟨none, turned⟩ | ⟨-, isOpen, wire, sent, reads, turned⟩
  · rw [none, List.append_nil]
    refine ⟨toClient, toServer, ⟨turned.joined, wired.client, wired.toClient, wired.toServer⟩,
      fun id => .inl ?_⟩
    simp only [Connection.view, turned.still id]
  · rw [sent]
    refine server_follows channelId [] [.close] wired.client turned wired.toClient
      wired.toServer (.cons reads .nil) ?_
    rw [isOpen]
    exact .serverClose

theorem cancel_follows {family : Nat}
    (leaves : LeavesNone serverHooks connection (.cancel family))
    (taken : connectionStep serverHooks clientHooks connection (.cancel family) =
      .ok (status, connection')) : Follows ours connection toClient toServer connection' := by
  cases taken
  obtain ⟨joined, stages⟩ := @Server.cancelPendingFamily_turned _ serverHooks _ wired.server family
  refine ⟨toClient, toServer, ⟨joined, wired.client, wired.toClient, wired.toServer⟩, fun id => ?_⟩
  rcases stages id with same | ⟨pending, cancelled, slot, channel, held, rfl, isPending, live, valid, member⟩
  · left
    simp only [Connection.view, same]
  · right
    obtain ⟨missed, asked⟩ := leaves slot channel held isPending live valid member
    have free := Client.dynamicChannelFindAny_none.mp missed
    simp only [Connection.view, pending, cancelled, free]
    refine .cancel fun isAsked => ?_
    obtain ⟨wire, isWire, request, parsed, same⟩ := request_about wired.toClient isAsked
    exact asked wire isWire request parsed same

theorem clientOpen_follows (writes : Client.WritesAll clientHooks)
    (picks : PicksApart ours connection (.clientOpen name priority))
    (taken : connectionStep serverHooks clientHooks connection (.clientOpen name priority) =
      .ok (status, connection')) : Follows ours connection toClient toServer connection' := by
  cases result : (Client.channelOpen clientHooks connection.session name priority).2 with
  | mk answer session' =>
    simp only [connectionStep, result, pure_eq_ok] at taken
    cases taken
    rcases Client.channelOpen_turned writes wired.client result with
      ⟨none, turned⟩ | ⟨channelId, allocated, free, wire, sent, reads, turned⟩
    · rw [none, List.append_nil]
      refine ⟨toClient, toServer, ⟨wired.server, (turned 0).joined, wired.toClient, wired.toServer⟩,
        fun id => .inl ?_⟩
      simp only [Connection.view, (turned id).still id]
    · rw [sent]
      refine client_follows channelId [] [.request] wired.server turned wired.toClient
        wired.toServer (.cons reads .nil) ?_
      rw [free]
      exact .clientOpen (picks channelId allocated)

theorem clientClose_follows (writes : Client.WritesAll clientHooks)
    (taken : connectionStep serverHooks clientHooks connection (.clientClose channelId) =
      .ok (status, connection')) : Follows ours connection toClient toServer connection' := by
  cases result : Client.channelClose clientHooks connection.session channelId with
  | mk answer session' =>
    simp only [connectionStep, result, pure_eq_ok] at taken
    cases taken
    rcases Client.channelClose_turned writes wired.client result with
      ⟨none, turned⟩ | ⟨active, wire, sent, reads, turned⟩
    · rw [none, List.append_nil]
      refine ⟨toClient, toServer, ⟨wired.server, turned.joined, wired.toClient, wired.toServer⟩,
        fun id => .inl ?_⟩
      simp only [Connection.view, turned.still id]
    · rw [sent]
      refine client_follows channelId [] [.close] wired.server turned wired.toClient
        wired.toServer (.cons reads .nil) ?_
      rw [active]
      exact .clientClose

theorem deliverToClient_follows (writes : Client.WritesAll clientHooks)
    (agrees : Client.AgreesToAll clientHooks)
    (phase : ∀ id, Phase (ours id) (connection.view toClient toServer id))
    (leaves : LeavesNone serverHooks connection .deliverToClient)
    (taken : connectionStep serverHooks clientHooks connection .deliverToClient =
      .ok (status, connection')) : Follows ours connection toClient toServer connection' := by
  obtain ⟨peer, session, wires, wires'⟩ := connection
  obtain ⟨server, client, readsClient, readsServer⟩ := wired
  cases readsClient with
  | nil =>
    cases taken
    exact ⟨[], toServer, ⟨server, client, .nil, readsServer⟩, fun id => .inl rfl⟩
  | @cons wire entry wires toClient reads readsClient =>
    obtain ⟨channelId, pdu⟩ := entry
    obtain ⟨⟨answer, session'⟩, result, taken⟩ := bind_eq_ok.mp taken
    cases taken
    have here := phase channelId
    simp only [Connection.view, about_cons, if_true] at here
    obtain ⟨meetsRequest, meetsAnswer⟩ := here.client_meets
    cases pdu with
    | request =>
      have free := meetsRequest rfl
      have room : (Client.dynamicChannelFreeSlot session.table).isSome = true := by
        cases reads with
        | request parsed =>
          exact (leaves wire wires rfl).1 _ parsed (Client.dynamicChannelFindAny_none.mpr free)
      obtain ⟨reply, sent, readsReply, turned⟩ :=
        Client.request_turned writes agrees client reads free room result
      rw [sent]
      refine client_follows channelId [.request] [.accepted] server turned readsClient
        readsServer (.cons readsReply .nil) ?_
      rw [free]
      exact .clientAccepts
    | accepted =>
      have opening := meetsAnswer (.inl rfl)
      cases reads with
      | @accepted response parsed width agreed =>
        obtain ⟨none, turned⟩ := Client.response_turned client parsed width opening result
        rw [none]
        refine client_follows response.channelId [.accepted] [] server turned readsClient
          readsServer .nil ?_
        rw [opening, if_pos agreed, List.append_nil]
        exact .clientAccepted
    | refused =>
      have opening := meetsAnswer (.inr rfl)
      cases reads with
      | @refused response parsed width differs =>
        obtain ⟨none, turned⟩ := Client.response_turned client parsed width opening result
        rw [none]
        refine client_follows response.channelId [.refused] [] server turned readsClient
          readsServer .nil ?_
        rw [opening, if_neg differs, List.append_nil]
        exact .clientRefused
    | close =>
      have notActive : session.stage channelId ≠ .active := by
        cases reads with
        | close parsed =>
          exact Client.dynamicChannelFind_none ((leaves wire wires rfl).2 _ parsed)
      obtain ⟨_, active, _⟩ | ⟨none, _, turned⟩ :=
        and_or_left.mp (Client.close_turned client reads result)
      · exact absurd active notActive
      · rw [none]
        refine client_follows channelId [.close] [] server turned readsClient readsServer .nil ?_
        rw [List.append_nil]
        exact .clientIgnores notActive

theorem deliverToServer_follows (sends : Server.SendsAll serverHooks)
    (phase : ∀ id, Phase (ours id) (connection.view toClient toServer id))
    (taken : connectionStep serverHooks clientHooks connection .deliverToServer =
      .ok (status, connection')) : Follows ours connection toClient toServer connection' := by
  obtain ⟨peer, session, wires, wires'⟩ := connection
  obtain ⟨server, client, readsClient, readsServer⟩ := wired
  cases readsServer with
  | nil =>
    cases taken
    exact ⟨toClient, [], ⟨server, client, readsClient, .nil⟩, fun id => .inl rfl⟩
  | @cons wire entry wires' toServer reads readsServer =>
    obtain ⟨channelId, pdu⟩ := entry
    obtain ⟨⟨answer, peer'⟩, result, taken⟩ := bind_eq_ok.mp taken
    cases taken
    have here := phase channelId
    simp only [Connection.view, about_cons, if_true] at here
    obtain ⟨meetsRequest, meetsAnswer, notRefused⟩ := here.server_meets
    cases pdu with
    | request =>
      have free := meetsRequest rfl
      obtain ⟨reply, sent, outcome⟩ := Server.request_turned sends server reads free result
      rw [sent]
      rcases outcome with ⟨readsReply, turned⟩ | ⟨readsReply, turned⟩
      · refine server_follows channelId [.request] [.accepted] client turned readsClient
          readsServer (.cons readsReply .nil) ?_
        rw [free]
        exact .serverAccepts
      · refine server_follows channelId [.request] [.refused] client turned readsClient
          readsServer (.cons readsReply .nil) ?_
        rw [free]
        exact .serverRefuses
    | accepted =>
      obtain ⟨none, pending, turned⟩ | ⟨none, cancelled, turned⟩ :=
        and_or_left.mp (Server.accepted_turned server reads (meetsAnswer rfl) result)
      · rw [none]
        refine server_follows channelId [.accepted] [] client turned readsClient readsServer .nil ?_
        rw [pending, List.append_nil]
        exact .serverAccepted
      · rw [none]
        refine server_follows channelId [.accepted] [] client turned readsClient readsServer .nil ?_
        rw [cancelled, List.append_nil]
        exact .serverDrops
    | refused => exact absurd rfl notRefused
    | close =>
      obtain ⟨none, turned⟩ := Server.close_turned server reads result
      rw [none]
      refine server_follows channelId [.close] [] client turned readsClient readsServer .nil ?_
      rw [List.append_nil]
      exact .serverTakesClose

theorem connectionStep_follows (sends : Server.SendsAll serverHooks)
    (writes : Client.WritesAll clientHooks) (agrees : Client.AgreesToAll clientHooks)
    (phase : ∀ id, Phase (ours id) (connection.view toClient toServer id))
    {input : ConnectionInput} (picks : PicksApart ours connection input)
    (leaves : LeavesNone serverHooks connection input)
    (taken : connectionStep serverHooks clientHooks connection input = .ok (status, connection')) :
    Follows ours connection toClient toServer connection' := by
  cases input with
  | serverOpen channelId priority name => exact serverOpen_follows wired sends picks taken
  | serverClose channelId => exact serverClose_follows wired sends taken
  | cancel family => exact cancel_follows wired leaves taken
  | clientOpen name priority => exact clientOpen_follows wired writes picks taken
  | clientClose channelId => exact clientClose_follows wired writes taken
  | deliverToClient => exact deliverToClient_follows wired writes agrees phase leaves taken
  | deliverToServer => exact deliverToServer_follows wired sends phase taken

end Steps

section Runs

variable {π σ δ : Type} [Inhabited δ] {serverHooks : Server.DynamicHooks π}
  {clientHooks : Client.DynamicHooks σ δ} {ours : UInt32 → Bool} {connection : Connection π σ δ}

def InPhase (ours : UInt32 → Bool) (connection : Connection π σ δ) : Prop :=
  ∃ toClient toServer, Wired connection toClient toServer ∧
    ∀ id, Phase (ours id) (connection.view toClient toServer id)

theorem connectionInit_inPhase {version channelId : UInt16} {limit messageLimit : Nat}
    {within : limit ≤ Client.maxDynamicChannels} {peerRest : π} {sessionRest : σ}
    (joined : channelId ≠ 0) :
    InPhase ours (connectionInit δ version channelId within messageLimit peerRest sessionRest) := by
  have unused : Table.Every (fun entry : Client.DynamicChannel δ => entry.used = false)
      (List.replicate Client.maxDynamicChannels {}) := Table.every_replicate _ rfl
  refine ⟨[], [], ⟨⟨Server.dynamicPeerInit_ok peerRest, ?_, rfl, joined⟩,
    ⟨List.length_replicate, ?_, ?_⟩, .nil, .nil⟩, ?_⟩
  · exact Table.every_replicate _ (fun used => nomatch used)
  · intro i j a b atI _ used
    rw [unused atI] at used
    cases used
  · exact Table.every_replicate _ (fun used => nomatch used)
  · intro id
    have server : Server.slotOf (connectionInit δ version channelId within messageLimit peerRest
        sessionRest).peer id = none := Table.entryOf_unused (Server.dynamicPeerInit_free peerRest)
    have client : Client.entryFor (connectionInit δ version channelId within messageLimit peerRest
        sessionRest).session id = none := Table.entryOf_unused unused
    rw [Connection.view, Server.DynamicPeer.stage, Client.DynamicSession.stage, server, client]
    cases ours id with
    | true => exact .away stale_nil stale_nil
    | false => exact .left stale_nil .done

theorem InPhase.agreed (phases : InPhase ours connection) (none : connection.toClient = [])
    (none' : connection.toServer = []) : Agreed connection := by
  obtain ⟨toClient, toServer, ⟨server, client, readsClient, readsServer⟩, phase⟩ := phases
  rw [none] at readsClient
  rw [none'] at readsServer
  cases readsClient
  cases readsServer
  have quiet := fun id => (phase id).quiet rfl rfl
  constructor
  · intro channelId
    cases isActive : Client.dynamicChannelFind connection.session.table channelId with
    | none =>
      cases isOpen : Server.findDynamicChannel connection.peer channelId with
      | none => rfl
      | some pair =>
        obtain ⟨_, _, _, _, opened⟩ := Server.findDynamicChannel_some server isOpen
        have notActive := Client.dynamicChannelFind_none isActive
        rcases quiet channelId with ⟨free, _⟩ | ⟨_, active⟩
        · rw [opened] at free
          cases free
        · exact absurd active notActive
    | some pair =>
      obtain ⟨_, _, _, active⟩ := Client.dynamicChannelFind_some client isActive
      cases isOpen : Server.findDynamicChannel connection.peer channelId with
      | some pair => rfl
      | none =>
        have notOpened := Server.findDynamicChannel_none isOpen
        rcases quiet channelId with ⟨_, free⟩ | ⟨opened, _⟩
        · rw [active] at free
          cases free
        · exact absurd opened notOpened
  · intro slot channel held
    have slotOk := server.table.slots held
    cases used : channel.used with
    | false =>
      simp only [Server.DynamicChannel.used, Bool.or_eq_false_iff] at used
      exact ⟨used.1.2, used.2⟩
    | true =>
      have stage := server.stage_eq held used
      have opened : channel.isOpen = true := by
        rcases quiet channel.channelId with ⟨free, _⟩ | ⟨opened, _⟩
        · exact absurd (stage.symm.trans free) channel.stage_cases.1
        · exact channel.stage_cases.2 (stage.symm.trans opened)
      exact slotOk.openAlone opened

/-- In every run in which no step leaves a channel behind, both ends hold the same channels whenever
    nothing is in flight. -/
theorem channels_agree (sends : Server.SendsAll serverHooks) (writes : Client.WritesAll clientHooks)
    (agrees : Client.AgreesToAll clientHooks) {version channelId : UInt16} {limit messageLimit : Nat}
    {within : limit ≤ Client.maxDynamicChannels} {peerRest : π} {sessionRest : σ}
    (joined : channelId ≠ 0)
    (reached : ReachableWithin (connectionStep serverHooks clientHooks)
      (fun connection input =>
        PicksApart ours connection input ∧ LeavesNone serverHooks connection input)
      (connectionInit δ version channelId within messageLimit peerRest sessionRest) connection)
    (none : connection.toClient = []) (none' : connection.toServer = []) : Agreed connection := by
  have phases : InPhase ours connection := by
    refine reached.invariant (InPhase ours) (connectionInit_inPhase joined) ?_
    intro before input status after ⟨toClient, toServer, wired, phase⟩ ⟨picks, leaves⟩ taken
    obtain ⟨toClient', toServer', wired', moves⟩ :=
      connectionStep_follows wired sends writes agrees phase picks leaves taken
    refine ⟨toClient', toServer', wired', fun id => ?_⟩
    rcases moves id with same | move
    · rw [same]
      exact phase id
    · exact move.phase (phase id)
  exact phases.agreed none none'

end Runs

def plainConnection : Connection Unit Unit Unit :=
  connectionInit Unit 1 1004 everyChannel 4096 () ()

def plainWith (slot : Server.DynamicChannel) (count : Nat) (entry : Client.DynamicChannel Unit)
    (toClient toServer : List Bytes) : Connection Unit Unit Unit :=
  { plainConnection with
    peer := { plainConnection.peer with
      channels := plainConnection.peer.channels.set 0 slot, channelCount := count }
    session := { plainConnection.session with
      table := { plainConnection.session.table with
        channels := plainConnection.session.table.channels.set 0 entry } }
    toClient
    toServer }

def plainSlot : Server.DynamicChannel := { channelId := 7, channelIdBytes := 1, name := [0x78] }
def plainEntry : Client.DynamicChannel Unit :=
  { channelId := 7, generation := 1, channelIdBytes := 1, active := true, name := [0x78] }

def plainAsked : Connection Unit Unit Unit :=
  plainWith { plainSlot with pendingOpen := true } 0 {} [[0x10, 7, 0x78, 0]] []

def plainAnswered : Connection Unit Unit Unit :=
  plainWith { plainSlot with pendingOpen := true } 0 plainEntry [] [[0x10, 7, 0, 0, 0, 0]]

def plainOpen : Connection Unit Unit Unit :=
  plainWith { plainSlot with isOpen := true } 1 plainEntry [] []

abbrev PlainReaches (within : Connection Unit Unit Unit → ConnectionInput → Prop) :
    Connection Unit Unit Unit → Prop :=
  ReachableWithin (connectionStep Server.plainHooks plainClientHooks) within plainConnection

theorem plainOpen_reached {within : Connection Unit Unit Unit → ConnectionInput → Prop}
    (opens : within plainConnection (.serverOpen 7 0 [0x78]))
    (delivers : within plainAsked .deliverToClient)
    (delivers' : within plainAnswered .deliverToServer) : PlainReaches within plainOpen := by
  have asked : PlainReaches within plainAsked := .step .init opens rfl
  have answered : PlainReaches within plainAnswered := .step asked delivers rfl
  exact .step answered delivers' rfl

theorem leaves_none_of {connection : Connection Unit Unit Unit} {wire : Bytes} {rest : List Bytes}
    (first : connection.toClient = wire :: rest)
    (room : (Client.dynamicChannelFreeSlot connection.session.table).isSome = true)
    (gone : ∀ pdu, parseClose wire = .ok pdu →
      Client.dynamicChannelFind connection.session.table pdu.channelId = none) :
    LeavesNone Server.plainHooks connection .deliverToClient := by
  intro wire' rest' split
  rw [first] at split
  cases split
  exact ⟨fun _ _ _ => room, gone⟩

/-- Both ends close the channel before either hears of the other's close. -/
theorem channels_agree_crossing : ∃ connection, (∃ outs,
    run (connectionStep Server.plainHooks plainClientHooks) plainOpen [.serverClose 7, .clientClose 7,
      .deliverToClient, .deliverToServer] = .ok (outs, connection)) ∧
    (Server.findDynamicChannel plainOpen.peer 7).isSome = true ∧
    (Server.findDynamicChannel connection.peer 7).isSome = false ∧ Agreed connection := by
  let within : Connection Unit Unit Unit → ConnectionInput → Prop := fun connection input =>
    PicksApart (fun _ => true) connection input ∧ LeavesNone Server.plainHooks connection input
  have opened := @plainOpen_reached within ⟨rfl, trivial⟩
    ⟨trivial, leaves_none_of rfl rfl nofun⟩ ⟨trivial, trivial⟩
  have closing : PlainReaches within
      (plainWith { plainSlot with closing := true } 0 plainEntry [[0x40, 7]] []) :=
    .step (i := ConnectionInput.serverClose 7) opened ⟨trivial, trivial⟩ rfl
  have crossing : PlainReaches within
      (plainWith { plainSlot with closing := true } 0 { generation := 2 } [[0x40, 7]] [[0x40, 7]]) :=
    .step (i := ConnectionInput.clientClose 7) closing ⟨trivial, trivial⟩ rfl
  have ignored : PlainReaches within
      (plainWith { plainSlot with closing := true } 0 { generation := 2 } [] [[0x40, 7]]) :=
    .step crossing (i := ConnectionInput.deliverToClient)
      ⟨trivial, leaves_none_of rfl rfl (by rintro _ ⟨⟩; rfl)⟩ rfl
  have closed := ReachableWithin.step (i := ConnectionInput.deliverToServer) ignored ⟨trivial, trivial⟩ rfl
  exact ⟨_, ⟨_, rfl⟩, rfl, rfl, channels_agree (fun _ _ => rfl) (fun _ _ => rfl) (fun _ _ => rfl)
    (by decide) closed rfl rfl⟩

/-- The server closes the channel, the client takes the close without an answer, and the slot waits
    for ever. -/
theorem closed_channel_stays_behind : ∃ connection : Connection Unit Unit Unit,
    ReachableWithin (connectionStep Server.plainHooks plainClientHooks) (PicksApart (fun _ => true))
        plainConnection connection ∧
      Client.AgreesToAll plainClientHooks ∧ connection.toClient = [] ∧ connection.toServer = [] ∧
      ¬Agreed connection := by
  have opened := @plainOpen_reached (PicksApart (fun _ => true)) rfl trivial trivial
  have closes : PicksApart (fun _ => true) plainOpen (.serverClose 7) := trivial
  have delivers : ∀ connection : Connection Unit Unit Unit,
    PicksApart (fun _ => true) connection .deliverToClient := fun _ => trivial
  have closing : PlainReaches (PicksApart (fun _ => true))
      (plainWith { plainSlot with closing := true } 0 plainEntry [[0x40, 7]] []) :=
    .step opened closes rfl
  have closed : PlainReaches (PicksApart (fun _ => true))
      (plainWith { plainSlot with closing := true } 0 { generation := 2 } [] []) :=
    .step closing (delivers _) rfl
  refine ⟨_, closed, fun _ _ => rfl, rfl, rfl, fun agreed => ?_⟩
  have waits := (agreed.2 0 { plainSlot with closing := true } rfl).2
  cases waits

end LibRdp.Link
