import LibRdp.Client.DynamicChannels
import LibRdp.Link.Protocol

/-! # The client's side of a channel's life

What each call and each PDU of the server does to the stages that the client holds its
channels in, while the transport takes what the client writes and the client agrees to
what it is asked for.
-/

namespace LibRdp.Client

open Machine Channels Link

section Stages

variable {σ δ : Type} [Inhabited δ]

def DynamicChannel.stage (entry : DynamicChannel δ) : ClientStage :=
  if entry.active then .active else .opening

def stageOf : Option (DynamicChannel δ) → ClientStage
  | none => .free
  | some entry => entry.stage

abbrev entryFor (session : DynamicSession σ δ) (channelId : UInt32) : Option (DynamicChannel δ) :=
  Table.entryOf DynamicChannel.used DynamicChannel.channelId channelId session.table.channels

def DynamicSession.stage (session : DynamicSession σ δ) (channelId : UInt32) : ClientStage :=
  stageOf (entryFor session channelId)

/-- The entry is unused, or its id is in the width it needs; only the client's own are opening. -/
def DynamicChannel.EntryOk (entry : DynamicChannel δ) : Prop :=
  entry.used = true → entry.channelIdBytes = numberWidth entry.channelId.toNat ∧
    (entry.opening = true → entry.clientInitiated = true)

structure Joined (session : DynamicSession σ δ) : Prop where
  size : session.table.channels.length = maxDynamicChannels
  ids : Table.Distinct DynamicChannel.used DynamicChannel.channelId session.table.channels
  entries : Table.Every DynamicChannel.EntryOk session.table.channels

structure Turned (session : DynamicSession σ δ) (channelId : UInt32) (stage : ClientStage)
    (session' : DynamicSession σ δ) : Prop where
  joined : Joined session'
  stage : ∀ id, session'.stage id = if id = channelId then stage else session.stage id

variable {session : DynamicSession σ δ} {channelId : UInt32} {slot : Nat}
  {entry new : DynamicChannel δ}

theorem entryFor_none (free : session.stage channelId = .free) : entryFor session channelId = none := by
  cases found : entryFor session channelId with
  | none => rfl
  | some entry =>
    rw [DynamicSession.stage, found] at free
    simp only [stageOf, DynamicChannel.stage] at free
    split at free <;> cases free

theorem dynamicChannelFindAny_entryFor :
    (dynamicChannelFindAny session.table channelId).map Prod.snd = entryFor session channelId := rfl

theorem dynamicChannelFindAny_none :
    dynamicChannelFindAny session.table channelId = none ↔ session.stage channelId = .free := by
  constructor
  · intro missed
    rw [DynamicSession.stage, ← dynamicChannelFindAny_entryFor, missed]
    rfl
  · intro free
    exact Option.map_eq_none_iff.mp (entryFor_none free)

theorem dynamicChannelFindAny_some
    (found : dynamicChannelFindAny session.table channelId = some (slot, entry)) :
    session.table.channels[slot]? = some entry ∧ entry.used = true ∧ entry.channelId = channelId ∧
      session.stage channelId = entry.stage := by
  obtain ⟨held, passes⟩ := Table.lookup_some found
  simp only [DynamicChannel.usedFor, Bool.and_eq_true, beq_iff_eq] at passes
  refine ⟨held, passes.1, passes.2, ?_⟩
  rw [DynamicSession.stage, ← dynamicChannelFindAny_entryFor, found]
  rfl

theorem dynamicChannelFind_some (joined : Joined session)
    (found : dynamicChannelFind session.table channelId = some (slot, entry)) :
    session.table.channels[slot]? = some entry ∧ entry.used = true ∧ entry.channelId = channelId ∧
      session.stage channelId = .active := by
  obtain ⟨held, passes⟩ := Table.lookup_some found
  obtain ⟨active, used, same⟩ := DynamicChannel.activeFor_used passes
  refine ⟨held, used, same, ?_⟩
  rw [DynamicSession.stage, entryFor, ← same, joined.ids.entryOf_eq held used]
  exact if_pos active

theorem dynamicChannelFind_none (missed : dynamicChannelFind session.table channelId = none) :
    session.stage channelId ≠ .active := by
  intro isActive
  cases found : entryFor session channelId with
  | none =>
    rw [DynamicSession.stage, found] at isActive
    cases isActive
  | some entry =>
    obtain ⟨slot, held, used, same⟩ := Table.entryOf_some found
    have fails := Table.lookup_none missed held
    rw [DynamicSession.stage, found] at isActive
    simp only [stageOf, DynamicChannel.stage] at isActive
    simp_all [DynamicChannel.activeFor]

theorem rewrites_found (held : session.table.channels[slot]? = some entry) (used : entry.used = true)
    (same : entry.channelId = channelId) (kept : new.used = true → new.channelId = channelId) :
    Table.Rewrites DynamicChannel.used DynamicChannel.channelId channelId session.table.channels slot
      entry new where
  held := held
  was := fun _ => same
  now := kept
  fresh := fun unused => by
    rw [used] at unused
    cases unused

theorem rewrites_taken (free : session.stage channelId = .free)
    (allocated : dynamicChannelFreeSlot session.table = some (slot, entry))
    (same : new.channelId = channelId) :
    Table.Rewrites DynamicChannel.used DynamicChannel.channelId channelId session.table.channels slot
      entry new where
  held := (dynamicChannelFreeSlot_held allocated).1
  was := fun used => by
    rw [(dynamicChannelFreeSlot_held allocated).2] at used
    cases used
  now := fun _ => same
  fresh := fun _ => entryFor_none free

theorem Turned.same (joined : Joined session) {session' : DynamicSession σ δ}
    (same : session'.table.channels = session.table.channels) :
    Turned session channelId (session.stage channelId) session' where
  joined := ⟨same ▸ joined.size, same ▸ joined.ids, same ▸ joined.entries⟩
  stage := fun id => by
    simp only [DynamicSession.stage, entryFor, same]
    split
    · rename_i here
      rw [here]
    · rfl

variable {session' : DynamicSession σ δ}

theorem Turned.still (turned : Turned session channelId (session.stage channelId) session')
    (id : UInt32) : session'.stage id = session.stage id := by
  rw [turned.stage]
  split
  · rename_i here
    rw [here]
  · rfl

theorem turned_set (joined : Joined session)
    (rewrites : Table.Rewrites DynamicChannel.used DynamicChannel.channelId channelId
      session.table.channels slot entry new) (now : new.EntryOk)
    (set : session'.table.channels = session.table.channels.set slot new) :
    Turned session channelId (if new.used then new.stage else .free) session' where
  joined := by
    refine ⟨?_, ?_, ?_⟩
    · rw [set, List.length_set, joined.size]
    · rw [set]
      exact rewrites.distinct joined.ids
    · rw [set]
      exact joined.entries.set now
  stage := fun id => by
    simp only [DynamicSession.stage, entryFor, set]
    rw [rewrites.entryOf_set joined.ids id]
    split
    · cases new.used <;> rfl
    · rfl

theorem turned_cleared (joined : Joined session)
    (held : session.table.channels[slot]? = some entry) (used : entry.used = true)
    (same : entry.channelId = channelId)
    (set : session'.table.channels = session.table.channels.set slot (dynamicChannelClearEntry entry)) :
    Turned session channelId .free session' := by
  have rewrites : Table.Rewrites DynamicChannel.used DynamicChannel.channelId channelId
    session.table.channels slot entry (dynamicChannelClearEntry entry) :=
    rewrites_found held used same (fun used => nomatch used)
  exact turned_set joined rewrites (fun used => nomatch used) set

end Stages

section Calls

variable {σ δ : Type} [Inhabited δ] {hooks : DynamicHooks σ δ} {session session' : DynamicSession σ δ}
  {channelId : UInt32} {slot : Nat} {entry : DynamicChannel δ} {answer : DynamicAnswer}

def WritesAll (hooks : DynamicHooks σ δ) : Prop :=
  ∀ rest packet, (hooks.write rest packet).1 = .ok

theorem writeChannelPdu_sent (writes : WritesAll hooks) (session : DynamicSession σ δ)
    (packet : Bytes) :
    ∃ rest, writeChannelPdu hooks session packet = (.ok, [packet], { session with rest }) := by
  refine ⟨(hooks.write session.rest packet).2, ?_⟩
  simp only [writeChannelPdu, writes session.rest packet, if_true]

theorem dynamicChannelHandle_some {table : ChannelTable δ} {old : DynamicChannel δ}
    (free : dynamicChannelFreeSlot table = some (slot, old))
    (counted : entry.generation = (dynamicChannelClearEntry old).generation) :
    dynamicChannelHandle slot entry ≠ 0 := by
  obtain ⟨held, _⟩ := Table.lookup_some free
  rw [List.getElem?_take] at held
  have inside : slot < maxDynamicChannels := by
    split at held
    · exact Nat.lt_of_lt_of_le ‹_› table.within
    · cases held
  have some : entry.generation ≠ 0 := by
    rw [counted]
    exact one_or_self_ne_zero _
  rw [dynamicChannelHandle, if_neg (by simp only [some, or_false]; omega)]
  intro zero
  have bits := handle_bits inside entry.generation
  rw [zero] at bits
  have none : (0 : UInt64).toNat = 0 := rfl
  omega

theorem dynamicChannelAddOpening_cases {table : ChannelTable δ} {channelIdBytes priority : Nat}
    {name : Bytes} (some : name ≠ []) (missed : dynamicChannelFindAny table channelId = none) :
    dynamicChannelFreeSlot table = none ∧
        dynamicChannelAddOpening table channelId channelIdBytes priority name =
          (.limitExceeded, none, 0, table) ∨
      ∃ slot old new handle, dynamicChannelFreeSlot table = Option.some (slot, old) ∧
        new = { dynamicChannelClearEntry old with
          channelId, channelIdBytes, priority, opening := true, clientInitiated := true
          name := name.take (dynamicChannelNameMax - 1) } ∧
        dynamicChannelAddOpening table channelId channelIdBytes priority name =
          (.ok, Option.some slot, handle, { table with channels := table.channels.set slot new }) := by
  have named : ¬name.length = 0 := by
    rw [List.length_eq_zero_iff]
    exact some
  have unseen : ¬(dynamicChannelFindAny table channelId).isSome = true := by
    rw [missed]
    nofun
  unfold dynamicChannelAddOpening
  rw [if_neg named, if_neg unseen]
  cases free : dynamicChannelFreeSlot table with
  | none => exact .inl ⟨rfl, rfl⟩
  | some pair =>
    obtain ⟨new, isNew⟩ : ∃ new : DynamicChannel δ, new = { dynamicChannelClearEntry pair.2 with
        channelId, channelIdBytes, priority, opening := true, clientInitiated := true
        name := name.take (dynamicChannelNameMax - 1) } := ⟨_, rfl⟩
    have nonzero : dynamicChannelHandle pair.1 new ≠ 0 :=
      dynamicChannelHandle_some free (by rw [isNew])
    refine .inr ⟨pair.1, pair.2, new, dynamicChannelHandle pair.1 new, rfl, isNew, ?_⟩
    subst isNew
    simp only [if_pos nonzero]

theorem channelOpen_turned (writes : WritesAll hooks) (joined : Joined session) {name : Bytes}
    {priority : Nat} (result : (channelOpen hooks session name priority).2 = (answer, session')) :
    answer.sent = [] ∧ (∀ id, Turned session id (session.stage id) session') ∨
      ∃ channelId, (dynamicChannelAllocateId session.table).1 = some channelId ∧
        session.stage channelId = .free ∧ ∃ wire, answer.sent = [wire] ∧
          Reads wire (channelId, .request) ∧ Turned session channelId .opening session' := by
  unfold channelOpen at result
  split at result
  · cases result
    exact .inl ⟨rfl, fun _ => .same joined rfl⟩
  rename_i valid
  split at result
  · cases result
    exact .inl ⟨rfl, fun _ => .same joined rfl⟩
  obtain ⟨channelId, next, allocated, _, missed⟩ := dynamicChannelAllocateId_some joined.size
  have free : session.stage channelId = .free := dynamicChannelFindAny_none.mp missed
  simp only [not_or, Bool.not_eq_true, Bool.not_eq_false', dynamicChannelNamePublicValid,
    Bool.and_eq_true, decide_eq_true_eq, ne_eq, List.length_eq_zero_iff] at valid
  obtain ⟨⟨⟨some, _⟩, text⟩, small, _⟩ := valid
  obtain ⟨wire, wrote, reads⟩ := @writeCreateRequest_reads channelId _ rfl priority
    (Nat.not_lt.mp small) name some (name_text (by decide) text)
  rw [allocated] at result
  rcases @dynamicChannelAddOpening_cases _ _ channelId
      { session.table with nextDynamicChannelId := next } (selectChannelIdBytes channelId.toNat)
      priority name some missed with ⟨_, added⟩ | ⟨slot, old, new, handle, vacant, isNew, added⟩
  · have opening : dynamicChannelFindOpening { session.table with nextDynamicChannelId := next }
        channelId = none := by
      rw [dynamicChannelFindOpening]
      exact congrArg (Option.filter _) missed
    simp only [added, ne_eq, reduceCtorEq, not_false_eq_true, if_true, abandonOpening, opening]
      at result
    cases result
    exact .inl ⟨rfl, fun _ => .same joined rfl⟩
  · obtain ⟨rest, sent⟩ := writeChannelPdu_sent writes
      { session with table := { session.table with
          nextDynamicChannelId := next, channels := session.table.channels.set slot new } } wire
    simp only [added, ne_eq, not_true_eq_false, if_false, wrote, sent] at result
    cases result
    refine .inr ⟨channelId, by rw [allocated], free, wire, rfl, reads, ?_⟩
    have taken : Table.Rewrites DynamicChannel.used DynamicChannel.channelId channelId
        session.table.channels slot old new := by
      refine rewrites_taken free vacant ?_
      rw [isNew]
    have now : new.EntryOk := by
      rw [isNew]
      exact fun _ => ⟨rfl, fun _ => rfl⟩
    have stage : (if new.used then new.stage else .free) = ClientStage.opening := by
      rw [isNew]
      rfl
    rw [← stage]
    exact turned_set joined taken now rfl

theorem channelClose_turned (writes : WritesAll hooks) (joined : Joined session)
    (result : channelClose hooks session channelId = (answer, session')) :
    answer.sent = [] ∧ Turned session channelId (session.stage channelId) session' ∨
      session.stage channelId = .active ∧ ∃ wire, answer.sent = [wire] ∧
        Reads wire (channelId, .close) ∧ Turned session channelId .free session' := by
  unfold channelClose at result
  split at result
  · cases result
    exact .inl ⟨rfl, .same joined rfl⟩
  rename_i slot entry required
  have found : dynamicChannelFind session.table channelId = some (slot, entry) := by
    unfold requireUserChannel at required
    split at required
    · cases required
    split at required
    · cases required
    split at required
    · cases required
    split at required
    · cases required
    · cases required
      assumption
  obtain ⟨held, used, same, active⟩ := dynamicChannelFind_some joined found
  obtain ⟨wire, wrote, reads⟩ := writeClose_reads (joined.entries held used).1
  obtain ⟨rest, sent⟩ := writeChannelPdu_sent writes session wire
  simp only [wrote, sent, if_true] at result
  cases result
  rw [same] at reads
  exact .inr ⟨active, wire, rfl, reads, turned_cleared joined held used same rfl⟩

end Calls

section Messages

variable {σ δ : Type} [Inhabited δ] {hooks : DynamicHooks σ δ} {session session' : DynamicSession σ δ}
  {channelId : UInt32} {wire : Bytes} {answer : DynamicAnswer}

def AgreesToAll (hooks : DynamicHooks σ δ) : Prop :=
  ∀ rest request, hooks.createStatus rest request = createStatusOk

theorem handleDynamicChannel_create {header : DynamicHeader} (isHeader : parseHeader wire = .ok header)
    (create : header.command = cmdCreate) :
    handleDynamicChannel hooks session wire = .ok (handleCreate hooks session wire) := by
  simp only [handleDynamicChannel, isHeader, create]
  rfl

theorem handleDynamicChannel_close {pdu : ClosePdu} (parsed : parseClose wire = .ok pdu) :
    handleDynamicChannel hooks session wire = .ok (handleClose hooks session wire) := by
  obtain ⟨header, isHeader, close, _⟩ := parseClose_inv parsed
  simp only [handleDynamicChannel, isHeader, close]
  rfl

theorem announceCreated_told (request : CreateRequest) (sent : List Bytes) :
    (announceCreated hooks session request sent).1.sent = sent ∧
      (announceCreated hooks session request sent).2.table = session.table := by
  unfold announceCreated
  split
  · exact ⟨rfl, rfl⟩
  · exact ⟨rfl, rfl⟩

theorem request_turned (writes : WritesAll hooks) (agrees : AgreesToAll hooks) (joined : Joined session)
    (reads : Reads wire (channelId, .request)) (free : session.stage channelId = .free)
    (room : (dynamicChannelFreeSlot session.table).isSome = true)
    (result : handleDynamicChannel hooks session wire = .ok (answer, session')) :
    ∃ reply, answer.sent = [reply] ∧ Reads reply (channelId, .accepted) ∧
      Turned session channelId .active session' := by
  cases reads with
  | @request request parsed width =>
    obtain ⟨header, isHeader, create, about⟩ := parseCreateRequest_inv parsed
    have missed := dynamicChannelFindAny_none.mpr free
    have asked : handleCreate hooks session wire = handleCreateRequest hooks session wire := by
      unfold handleCreate
      cases isResponse : parseCreateResponse wire with
      | error => rfl
      | ok response =>
        -- nothing is opening under the id, so the PDU is not taken for an answer
        obtain ⟨_, _, _, about'⟩ := parseCreateResponse_inv isResponse
        rw [about] at about'
        simp only [dynamicChannelFindOpening, ← Option.some.inj about', missed, Option.filter_none]
    rw [handleDynamicChannel_create isHeader create, asked] at result
    have result := Except.ok.inj result
    obtain ⟨reply, wrote, reads⟩ := writeCreateResponse_reads width createStatusOk
    rcases dynamicChannelAdd_cases session.table request with
      ⟨status, failed, added⟩ | ⟨slot, old, new, vacant, _, isNew, added⟩
    · obtain ⟨pair, vacant⟩ := Option.isSome_iff_exists.mp room
      simp only [dynamicChannelAdd, missed, Option.isSome_none, Bool.false_eq_true, if_false, vacant,
        Prod.mk.injEq] at added
      exact absurd added.1.symm failed
    · obtain ⟨rest, sent⟩ := writeChannelPdu_sent writes { session with
          table := { session.table with channels := session.table.channels.set slot new } } reply
      simp only [handleCreateRequest, parsed, agrees session.rest request, wrote, added, sent, if_true,
        ne_eq, not_true_eq_false, if_false] at result
      obtain ⟨told, table⟩ := @announceCreated_told _ _ _ hooks { session with
        table := { session.table with channels := session.table.channels.set slot new }, rest }
        request [reply]
      rw [result] at told table
      refine ⟨reply, told, reads, ?_⟩
      have taken : Table.Rewrites DynamicChannel.used DynamicChannel.channelId request.channelId
          session.table.channels slot old new := by
        refine rewrites_taken free vacant ?_
        rw [isNew]
      have now : new.EntryOk := by
        rw [isNew]
        exact fun _ => ⟨width, fun opening => absurd opening Bool.false_ne_true⟩
      have stage : (if new.used then new.stage else .free) = ClientStage.active := by
        rw [isNew]
        rfl
      rw [← stage]
      exact turned_set joined taken now (congrArg ChannelTable.channels table)

theorem response_turned (joined : Joined session) {response : CreateResponse}
    (parsed : parseCreateResponse wire = .ok response)
    (width : response.channelIdBytes = numberWidth response.channelId.toNat)
    (opening : session.stage response.channelId = .opening)
    (result : handleDynamicChannel hooks session wire = .ok (answer, session')) :
    answer.sent = [] ∧ Turned session response.channelId
      (if response.statusCode = createStatusOk then .active else .free) session' := by
  obtain ⟨header, isHeader, create, _⟩ := parseCreateResponse_inv parsed
  rw [handleDynamicChannel_create isHeader create] at result
  have result := Except.ok.inj result
  cases found : dynamicChannelFindAny session.table response.channelId with
  | none =>
    rw [dynamicChannelFindAny_none.mp found] at opening
    cases opening
  | some pair =>
    obtain ⟨slot, entry⟩ := pair
    obtain ⟨held, used, same, stage⟩ := dynamicChannelFindAny_some found
    obtain ⟨own, initiated⟩ := joined.entries held used
    have notActive : entry.active = false := by
      rw [stage, DynamicChannel.stage] at opening
      split at opening
      · cases opening
      · rename_i notActive
        simpa using notActive
    have isOpening : entry.opening = true := by
      rw [DynamicChannel.used, notActive, Bool.false_or] at used
      exact used
    have isFound : dynamicChannelFindOpening session.table response.channelId = some (slot, entry) := by
      rw [dynamicChannelFindOpening, found, Option.filter_some, isOpening, initiated isOpening]
      rfl
    have sameWidth : ¬entry.channelIdBytes ≠ response.channelIdBytes := by
      rw [own, width, same]
      exact fun differs => differs rfl
    simp only [handleCreate, parsed, isFound, handleCreateResponse, if_neg sameWidth] at result
    split at result
    · rename_i agreed
      cases result
      rw [if_pos agreed]
      have rewrites : Table.Rewrites DynamicChannel.used DynamicChannel.channelId response.channelId
        session.table.channels slot entry (dynamicChannelAnswered entry) :=
        rewrites_found held used same (fun _ => same)
      have now : (dynamicChannelAnswered entry).EntryOk := fun _ =>
        ⟨own, fun opening => absurd opening Bool.false_ne_true⟩
      exact ⟨rfl, turned_set joined rewrites now rfl⟩
    rename_i refused
    cases result
    rw [if_neg refused]
    exact ⟨rfl, turned_cleared joined held used same rfl⟩

theorem close_turned (joined : Joined session) (reads : Reads wire (channelId, .close))
    (result : handleDynamicChannel hooks session wire = .ok (answer, session')) :
    answer.sent = [] ∧
      (session.stage channelId = .active ∧ Turned session channelId .free session' ∨
        session.stage channelId ≠ .active ∧
          Turned session channelId (session.stage channelId) session') := by
  cases reads with
  | @close pdu parsed width =>
    rw [handleDynamicChannel_close parsed] at result
    have result := Except.ok.inj result
    simp only [handleClose, parsed] at result
    cases found : dynamicChannelFind session.table pdu.channelId with
    | none =>
      rw [found] at result
      cases result
      exact ⟨rfl, .inr ⟨dynamicChannelFind_none found, .same joined rfl⟩⟩
    | some pair =>
      obtain ⟨slot, entry⟩ := pair
      obtain ⟨held, used, same, active⟩ := dynamicChannelFind_some joined found
      rw [found] at result
      cases result
      exact ⟨rfl, .inl ⟨active, turned_cleared joined held used same rfl⟩⟩

end Messages

end LibRdp.Client
