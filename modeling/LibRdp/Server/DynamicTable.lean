import LibRdp.Server.DynamicChannels

/-! # The table of a server peer over whole runs

A call moves at most one slot along the life of a channel: free, waiting for an
answer, open, waiting for a close, free again. Only a cancellation and a reset touch
several slots. Everything that holds of the table in every run (ids, flags, the
separate count of open channels, the events raised) follows from this description.
-/

namespace LibRdp.Server

open Machine Channels

/-! ## The life of a slot -/

inductive SlotMove (slot : Nat) : DynamicChannel → List DynamicEvent → DynamicChannel → Prop where
  | gathered (isOpen : channel.isOpen = true) (fragment : Bytes) (fragmentExpected : UInt32) :
      SlotMove slot channel [] { channel with fragment, fragmentExpected }
  | delivered (isOpen : channel.isOpen = true) (data fragment : Bytes) (fragmentExpected : UInt32) :
      SlotMove slot channel [dynamicEvent .data slot channel data]
        { channel with fragment, fragmentExpected }
  | requested (free : old.used = false) (channelId : UInt32) (channelIdBytes priority : Nat)
      (name : Bytes) :
      SlotMove slot old [] { channelId, channelIdBytes, priority, pendingOpen := true, name }
  | accepted (free : old.used = false) (request : CreateRequest)
      (isNew : new = { channelId := request.channelId, channelIdBytes := request.channelIdBytes
                       priority := request.priority, isOpen := true, name := request.name }) :
      SlotMove slot old [dynamicEvent .opened slot new] new
  | answered (pending : channel.pendingOpen = true) (live : channel.cancelledOpen = false) :
      SlotMove slot channel [dynamicEvent .opened slot channel]
        { channel with pendingOpen := false, isOpen := true }
  | dropped (pending : channel.pendingOpen = true) : SlotMove slot channel [] {}
  | closing (isOpen : channel.isOpen = true) :
      SlotMove slot channel [dynamicEvent .closed slot channel]
        { channel with isOpen := false, closing := true, fragment := [] }
  | released (closing : channel.closing = true) : SlotMove slot channel [] {}
  | closed (isOpen : channel.isOpen = true) :
      SlotMove slot channel [dynamicEvent .closed slot channel] {}

structure DynamicChannel.Ok (channel : DynamicChannel) : Prop where
  openAlone : channel.isOpen = true → channel.pendingOpen = false ∧ channel.closing = false
  pendingAlone : channel.pendingOpen = true → channel.closing = false
  cancelled : channel.cancelledOpen = true → channel.pendingOpen = true

def DynamicChannel.announced (channel : DynamicChannel) : Bool := channel.isOpen || channel.closing

def DynamicEvent.opensSlot (slot : Nat) (event : DynamicEvent) : Bool :=
  event.type == .opened && event.slot == slot

section SlotMove

variable {slot : Nat} {old new : DynamicChannel} {events : List DynamicEvent}

theorem emptyChannel_ok : DynamicChannel.Ok {} where
  openAlone := nofun
  pendingAlone := nofun
  cancelled := nofun

variable (move : SlotMove slot old events new)
include move

theorem SlotMove.ok (ok : old.Ok) : new.Ok := by
  cases move with
  | gathered | delivered => exact ⟨ok.openAlone, ok.pendingAlone, ok.cancelled⟩
  | requested => exact ⟨nofun, fun _ => rfl, nofun⟩
  | accepted _ _ isNew =>
    subst isNew
    exact ⟨fun _ => ⟨rfl, rfl⟩, nofun, nofun⟩
  | answered pending live =>
    refine ⟨fun _ => ⟨rfl, ok.pendingAlone pending⟩, nofun, fun cancelled => ?_⟩
    rw [live] at cancelled
    cases cancelled
  | closing isOpen =>
    refine ⟨nofun, fun pending => ?_, ok.cancelled⟩
    rw [(ok.openAlone isOpen).1] at pending
    cases pending
  | dropped | released | closed => exact emptyChannel_ok

variable {event : DynamicEvent}

theorem SlotMove.own_slot (raised : event ∈ events) : event.slot = slot := by
  cases move <;> simp_all [dynamicEvent]

theorem SlotMove.data_open (raised : event ∈ events) (data : event.type = .data) :
    old.isOpen = true ∧ new.isOpen = true ∧ old.channelId = event.channelId := by
  cases move <;> simp_all [dynamicEvent]

theorem SlotMove.announces (ok : old.Ok) (used : new.used = true) :
    old.announced.toNat + events.countP (DynamicEvent.opensSlot slot) = new.announced.toNat := by
  cases move with
  | gathered | requested | dropped | released | closed => simp_all [DynamicChannel.announced,
      DynamicChannel.used]
  | delivered => simp [DynamicChannel.announced, DynamicEvent.opensSlot, dynamicEvent]
  | accepted free _ isNew => simp_all [DynamicChannel.announced, DynamicEvent.opensSlot,
      dynamicEvent, DynamicChannel.used]
  | answered pending =>
    have alone := ok.pendingAlone pending
    have notOpen : old.isOpen = false := by
      cases isOpen : old.isOpen with
      | false => rfl
      | true => rw [(ok.openAlone isOpen).1] at pending; cases pending
    simp [DynamicChannel.announced, DynamicEvent.opensSlot, dynamicEvent, alone, notOpen]
  | closing isOpen => simp [DynamicChannel.announced, DynamicEvent.opensSlot, dynamicEvent, isOpen]

theorem SlotMove.others_silent {other : Nat} (apart : other ≠ slot) :
    events.countP (DynamicEvent.opensSlot other) = 0 := by
  rw [List.countP_eq_zero]
  intro event raised opens
  simp only [DynamicEvent.opensSlot, Bool.and_eq_true, beq_iff_eq] at opens
  exact apart (opens.2.symm.trans (move.own_slot raised))

end SlotMove

/-! ## Moves of the table -/

/-- A pending open may be marked as cancelled; nothing else changes. -/
def MarksCancelled (mark : DynamicChannel → DynamicChannel) : Prop :=
  ∀ channel, mark channel = channel ∨
    channel.pendingOpen = true ∧ mark channel = { channel with cancelledOpen := true }

/-- What one call does to the table and to the count of open channels; `touches` are the ids whose
    slots it may move. -/
inductive TableMove (touches : UInt32 → Prop) (channels : List DynamicChannel) (count : Nat) :
    List DynamicEvent → List DynamicChannel → Nat → Prop where
  | same : TableMove touches channels count [] channels count
  | slot (touched : touches about) (held : channels[slot]? = some old)
      (move : SlotMove slot old events new)
      (wasAbout : old.used = true → old.channelId = about)
      (isAbout : new.used = true → new.channelId = about)
      (fresh : old.used = false →
        Table.lookup (DynamicChannel.usedFor about) channels = none) :
      TableMove touches channels count events (channels.set slot new)
        (count - old.isOpen.toNat + new.isOpen.toNat)
  | cancelled (every : ∀ channelId, touches channelId) (marks : MarksCancelled mark) :
      TableMove touches channels count [] (channels.map mark) count
  | reset (every : ∀ channelId, touches channelId)
      (closes : ∀ event ∈ events, event.type = .closed) :
      TableMove touches channels count events (channels.map fun _ => {}) 0

structure TableOk (channels : List DynamicChannel) (count : Nat) : Prop where
  size : channels.length = maxDynamicChannels
  ids : Table.Distinct DynamicChannel.used DynamicChannel.channelId channels
  slots : Table.Every DynamicChannel.Ok channels
  counted : count = channels.countP DynamicChannel.isOpen

section TableMove

variable {channels channels' : List DynamicChannel} {count count' slot : Nat}
  {touches : UInt32 → Prop} {events : List DynamicEvent} {channel : DynamicChannel}

theorem TableOk.open_counted (ok : TableOk channels count) (held : channels[slot]? = some channel)
    (isOpen : channel.isOpen = true) : 1 ≤ count := by
  rw [ok.counted]
  exact List.countP_pos_iff.mpr ⟨channel, List.mem_of_getElem? held, isOpen⟩

theorem countP_set_channel {new : DynamicChannel} (held : channels[slot]? = some channel) :
    (channels.set slot new).countP DynamicChannel.isOpen =
      channels.countP DynamicChannel.isOpen - channel.isOpen.toNat + new.isOpen.toNat := by
  obtain ⟨inside, here⟩ := List.getElem?_eq_some_iff.mp held
  rw [List.countP_set inside, here]
  cases channel.isOpen <;> cases new.isOpen <;> rfl

variable {mark : DynamicChannel → DynamicChannel}

theorem MarksCancelled.keeps (marks : MarksCancelled mark) (channel : DynamicChannel) :
    (mark channel).isOpen = channel.isOpen ∧ (mark channel).pendingOpen = channel.pendingOpen ∧
      (mark channel).closing = channel.closing ∧ (mark channel).channelId = channel.channelId := by
  cases marks channel with
  | inl same => rw [same]; exact ⟨rfl, rfl, rfl, rfl⟩
  | inr marked => rw [marked.2]; exact ⟨rfl, rfl, rfl, rfl⟩

theorem MarksCancelled.ok (marks : MarksCancelled mark) (ok : channel.Ok) : (mark channel).Ok := by
  cases marks channel with
  | inl same => rw [same]; exact ok
  | inr marked =>
    rw [marked.2]
    exact ⟨ok.openAlone, ok.pendingAlone, fun _ => marked.1⟩

variable (move : TableMove touches channels count events channels' count')
include move

theorem TableMove.ok (ok : TableOk channels count) : TableOk channels' count' := by
  cases move with
  | same => exact ok
  | @slot about slot old events new _ held move wasAbout isAbout fresh =>
    refine ⟨by rw [List.length_set, ok.size], ?_, ok.slots.set (move.ok (ok.slots held)), ?_⟩
    · cases before : old.used with
      | true =>
        apply ok.ids.set_same held
        intro after
        exact ⟨before, (isAbout after).trans (wasAbout before).symm⟩
      | false =>
        apply ok.ids.set
        intro after j other _ atJ usedOther same
        have missed := Table.lookup_none (fresh before) atJ
        simp [DynamicChannel.usedFor, usedOther, same, isAbout after] at missed
    · rw [countP_set_channel held, ok.counted]
  | cancelled _ marks =>
    refine ⟨by rw [List.length_map, ok.size], ?_, ok.slots.map (fun _ => marks.ok), ?_⟩
    · apply ok.ids.map
      intro channel used
      obtain ⟨isOpen, pending, closing, same⟩ := marks.keeps channel
      simp only [DynamicChannel.used, isOpen, pending, closing] at used
      exact ⟨used, same⟩
    · rw [ok.counted, List.countP_map]
      congr 1
      funext channel
      exact (marks.keeps channel).1.symm
  | reset closes =>
    refine ⟨by rw [List.length_map, ok.size], ok.ids.map nofun,
      ok.slots.map (fun _ _ => emptyChannel_ok), ?_⟩
    · rw [List.countP_map, eq_comm, List.countP_eq_zero]
      intro _ _ isOpen
      cases isOpen

theorem TableMove.data_open {event : DynamicEvent} (raised : event ∈ events)
    (data : event.type = .data) :
    ∃ before after, channels[event.slot]? = some before ∧ channels'[event.slot]? = some after ∧
      before.isOpen = true ∧ after.isOpen = true ∧ before.channelId = event.channelId := by
  cases move with
  | same | cancelled => cases raised
  | slot _ held move =>
    obtain ⟨wasOpen, isOpen, same⟩ := move.data_open raised data
    rw [move.own_slot raised]
    exact ⟨_, _, held, Table.getElem?_set_held held, wasOpen, isOpen, same⟩
  | reset _ closes =>
    rw [closes event raised] at data
    cases data

theorem TableMove.find_other {p : DynamicChannel → Bool} {channelId : UInt32}
    (other : ¬touches channelId)
    (only : ∀ channel, p channel = true → channel.used = true ∧ channel.channelId = channelId) :
    Table.lookup p channels' = Table.lookup p channels := by
  cases move with
  | same => rfl
  | @slot about slot old events new touched held _ wasAbout isAbout =>
    have apart : about ≠ channelId := fun same => other (same ▸ touched)
    apply Table.lookup_set_unseen held
    · cases passes : p old with
      | false => rfl
      | true =>
        obtain ⟨used, same⟩ := only old passes
        exact absurd ((wasAbout used).symm.trans same) apart
    · cases passes : p new with
      | false => rfl
      | true =>
        obtain ⟨used, same⟩ := only new passes
        exact absurd ((isAbout used).symm.trans same) apart
  | cancelled every => exact absurd (every channelId) other
  | reset every => exact absurd (every channelId) other

end TableMove

/-! ## What each call does -/

section Calls

variable {π : Type} {hooks : DynamicHooks π} {peer : DynamicPeer π} {touches : UInt32 → Prop}
  {slot : Nat} {channel : DynamicChannel}

structure Moved (touches : UInt32 → Prop) (peer : DynamicPeer π)
    (result : DynamicAnswer × DynamicPeer π) : Prop where
  table : TableMove touches peer.channels peer.channelCount result.1.events result.2.channels
    result.2.channelCount
  ready : peer.channelsReady = true → result.2.channelsReady = true

theorem Moved.same {status : Status} {delivered : Option Bytes} {sent : List Bytes} {rest : π} :
    Moved touches peer ({ status, delivered, sent }, { peer with rest }) :=
  ⟨.same, id⟩

/-! Sending and asking leave everything but the rest of the peer alone. -/

theorem sendDynamicPacket_rest (packet : Bytes) :
    ∃ status sent rest, sendDynamicPacket hooks peer packet = (status, sent, { peer with rest }) := by
  unfold sendDynamicPacket
  split
  · exact ⟨_, _, peer.rest, rfl⟩
  · exact ⟨_, _, _, rfl⟩

theorem sendCreateResponse_rest (request : CreateRequest) (statusCode : UInt32) :
    ∃ sent rest, sendCreateResponse hooks peer request statusCode = (sent, { peer with rest }) := by
  unfold sendCreateResponse
  cases writeCreateResponse request.channelId request.channelIdBytes statusCode with
  | error => exact ⟨_, peer.rest, rfl⟩
  | ok packet =>
    obtain ⟨status, sent, rest, same⟩ := @sendDynamicPacket_rest _ hooks peer packet
    exact ⟨sent, rest, by simp only [same]⟩

theorem acceptCreate_rest (request : CreateRequest) :
    ∃ accepted rest, acceptCreate hooks peer request = (accepted, { peer with rest }) := by
  unfold acceptCreate
  split
  · exact ⟨_, peer.rest, rfl⟩
  · exact ⟨_, _, rfl⟩

theorem emitReassembled_rest (data : Bytes) :
    ∃ answer rest, emitReassembled hooks peer slot channel data = (answer, { peer with rest }) ∧
      answer.delivered = some data ∧
      (answer.events = [] ∨ answer.events = [dynamicEvent .data slot channel data]) := by
  unfold emitReassembled
  cases handled : hooks.handle peer.rest channel data with
  | mk verdict rest =>
    cases verdict with
    | publish => exact ⟨_, rest, rfl, rfl, .inr rfl⟩
    | late => exact ⟨_, rest, rfl, rfl, .inl rfl⟩
    | failed status => exact ⟨_, rest, rfl, rfl, .inl rfl⟩

variable {events : List DynamicEvent} {channelId : UInt32}

theorem tableMove_taken {old new : DynamicChannel} (touched : touches channelId)
    (allocated : allocateDynamicChannel peer = some (slot, old))
    (fresh : findDynamicChannelAny peer channelId = none)
    (move : old.used = false → SlotMove slot old events new) (isAbout : new.channelId = channelId) :
    TableMove touches peer.channels peer.channelCount events (peer.channels.set slot new)
      (peer.channelCount + new.isOpen.toNat) := by
  obtain ⟨held, passes⟩ := Table.lookup_some allocated
  have free : old.used = false := by simpa using passes
  have notOpen : old.isOpen = false := by
    simp only [DynamicChannel.used, Bool.or_eq_false_iff] at free
    exact free.1.1
  have moved : TableMove touches peer.channels peer.channelCount events
      (peer.channels.set slot new) (peer.channelCount - old.isOpen.toNat + new.isOpen.toNat) :=
    .slot touched held (move free) (fun used => by rw [free] at used; cases used) (fun _ => isAbout)
      (fun _ => fresh)
  rwa [notOpen] at moved

theorem tableMove_found {old new : DynamicChannel}
    (touched : touches channelId) (held : peer.channels[slot]? = some old)
    (usedFor : DynamicChannel.usedFor channelId old = true) (move : SlotMove slot old events new)
    (isAbout : new.used = true → new.channelId = channelId) :
    TableMove touches peer.channels peer.channelCount events (peer.channels.set slot new)
      (peer.channelCount - old.isOpen.toNat + new.isOpen.toNat) := by
  simp only [DynamicChannel.usedFor, Bool.and_eq_true, beq_iff_eq] at usedFor
  refine .slot touched held move (fun _ => usedFor.2) isAbout (fun free => ?_)
  rw [usedFor.1] at free
  cases free

theorem openDynamicChannel_moved (channelId : UInt32) (priority : Nat) (name : Bytes) :
    Moved (channelId = ·) peer (openDynamicChannel hooks peer channelId priority name) := by
  unfold openDynamicChannel
  split
  · exact .same
  split
  · exact .same
  split
  · exact .same
  rename_i unseen
  cases allocated : allocateDynamicChannel peer with
  | none => exact .same
  | some found =>
    obtain ⟨slot, old⟩ := found
    simp only
    split
    · exact .same
    rename_i packet _
    obtain ⟨status, sent, rest, same⟩ := @sendDynamicPacket_rest _ hooks peer packet
    simp only [same]
    split
    · exact ⟨tableMove_taken rfl allocated (Option.not_isSome_iff_eq_none.mp unseen)
        (.requested · channelId _ priority name) rfl, id⟩
    · exact .same

variable {channelId : UInt32}

theorem DynamicChannel.openFor_usedFor (found : channel.openFor channelId = true) :
    channel.isOpen = true ∧ channel.usedFor channelId = true := by
  simp only [DynamicChannel.openFor, Bool.and_eq_true, beq_iff_eq] at found
  simp only [DynamicChannel.usedFor, DynamicChannel.used, found, Bool.true_or, BEq.rfl,
    Bool.and_self, and_self]

theorem closeDynamicChannel_moved (ok : TableOk peer.channels peer.channelCount)
    (channelId : UInt32) :
    ∃ result, closeDynamicChannel hooks peer channelId = .ok result ∧
      Moved (channelId = ·) peer result := by
  unfold closeDynamicChannel
  split
  · exact ⟨_, rfl, .same⟩
  cases found : findDynamicChannel peer channelId with
  | none => exact ⟨_, rfl, .same⟩
  | some pair =>
    obtain ⟨slot, channel⟩ := pair
    obtain ⟨held, passes⟩ := Table.lookup_some found
    obtain ⟨isOpen, usedFor⟩ := DynamicChannel.openFor_usedFor passes
    simp only
    split
    · exact ⟨_, rfl, .same⟩
    rename_i packet _
    obtain ⟨status, sent, rest, same⟩ := @sendDynamicPacket_rest _ hooks peer packet
    simp only [same]
    split
    · rw [checkedSub_of_le (ok.open_counted held isOpen)]
      have move := tableMove_found rfl held usedFor (.closing isOpen) (fun _ => by
        simp only [DynamicChannel.usedFor, Bool.and_eq_true, beq_iff_eq] at usedFor
        exact usedFor.2)
      rw [isOpen] at move
      exact ⟨_, rfl, move, id⟩
    · exact ⟨_, rfl, .same⟩

theorem marksCancelled (family : Nat) : MarksCancelled (DynamicChannel.cancelled hooks family) := by
  intro channel
  unfold DynamicChannel.cancelled
  split
  · exact .inl rfl
  rename_i live
  split
  · exact .inr ⟨by simp_all, rfl⟩
  · exact .inl rfl

theorem cancelPendingFamily_moved (family : Nat) :
    Moved (fun _ => True) peer ({ status := .ok }, cancelPendingFamily hooks peer family) := by
  unfold cancelPendingFamily
  split
  · exact .same
  · exact ⟨.cancelled (fun _ => trivial) (marksCancelled family), id⟩

theorem resetEvents_closed (start : Nat) (channels : List DynamicChannel) :
    ∀ event ∈ resetEvents start channels, event.type = .closed := by
  induction channels generalizing start with
  | nil => nofun
  | cons channel rest ih =>
    intro event raised
    unfold resetEvents at raised
    split at raised
    · cases raised with
      | head => rfl
      | tail _ later => exact ih (start + 1) event later
    · exact ih (start + 1) event raised

theorem resetDynamicChannels_moved (emitCloseEvents : Bool) :
    TableMove (fun _ => True) peer.channels peer.channelCount
      (resetDynamicChannels peer emitCloseEvents).1.events (peer.channels.map fun _ => {}) 0 := by
  apply TableMove.reset (fun _ => trivial)
  cases emitCloseEvents with
  | true => exact resetEvents_closed 0 peer.channels
  | false => nofun

/-! ## What each message does -/

theorem admitCreate_moved (request : CreateRequest) (touched : touches request.channelId) :
    Moved touches peer (admitCreate hooks peer request) := by
  -- every refusal sends an answer and leaves the table alone
  have refused : ∀ (status : Status) (rest : π), ∃ sent rest',
      sendCreateResponse hooks { peer with rest } request createStatusNotSupported =
        (sent, { peer with rest := rest' }) ∧
      Moved touches peer ({ status, sent }, { peer with rest := rest' }) := by
    intro status rest
    obtain ⟨sent, rest', same⟩ := @sendCreateResponse_rest _ hooks { peer with rest } request
      createStatusNotSupported
    exact ⟨sent, rest', same, .same⟩
  unfold admitCreate
  split
  · obtain ⟨sent, rest, same, moved⟩ := refused .limitExceeded peer.rest
    simp only [same]
    exact moved
  split
  · obtain ⟨sent, rest, same, moved⟩ := refused .protocolError peer.rest
    simp only [same]
    exact moved
  rename_i unseen
  obtain ⟨accepted, rest, asked⟩ := @acceptCreate_rest _ hooks peer request
  simp only [asked]
  split
  · obtain ⟨sent, rest', same, moved⟩ := refused .ok rest
    simp only [same]
    exact moved
  cases allocated : allocateDynamicChannel { peer with rest } with
  | none =>
    obtain ⟨sent, rest', same, moved⟩ := refused .limitExceeded rest
    simp only [same]
    exact moved
  | some found =>
    obtain ⟨slot, old⟩ := found
    obtain ⟨sent, rest', same⟩ := @sendCreateResponse_rest _ hooks { peer with rest } request
      createStatusOk
    simp only [same]
    exact ⟨@tableMove_taken _ peer touches slot _ request.channelId old _ touched allocated
      (Option.not_isSome_iff_eq_none.mp unseen) (.accepted · request rfl) rfl, id⟩

theorem handleCreate_moved (data : Bytes) :
    Moved (pduChannel data = some ·) peer (handleCreate hooks peer data) := by
  unfold handleCreate
  cases parsed : parseCreateRequest data with
  | error => exact .same
  | ok request =>
    obtain ⟨_, _, _, touched⟩ := parseCreateRequest_inv parsed
    exact admitCreate_moved request touched

variable (ok : TableOk peer.channels peer.channelCount)
include ok

theorem handleCreateMessage_moved (data : Bytes) :
    Moved (pduChannel data = some ·) peer (handleCreateMessage hooks peer data) := by
  unfold handleCreateMessage
  cases parsed : parseCreateResponse data with
  | error => exact handleCreate_moved data
  | ok response =>
    simp only
    cases found : findPendingDynamicChannel peer response.channelId with
    | none => exact handleCreate_moved data
    | some pair =>
      obtain ⟨slot, channel⟩ := pair
      obtain ⟨_, _, _, touched⟩ := parseCreateResponse_inv parsed
      obtain ⟨any, pending⟩ := Option.filter_eq_some_iff.mp found
      obtain ⟨held, usedFor⟩ := Table.lookup_some any
      have notOpen : channel.isOpen = false := by
        cases isOpen : channel.isOpen with
        | false => rfl
        | true =>
          have alone := ((ok.slots held).openAlone isOpen).1
          simp only at pending
          rw [alone] at pending
          cases pending
      have dropped := @tableMove_found _ peer (pduChannel data = some ·) slot _ _ _ _ touched held
        usedFor (.dropped pending) nofun
      rw [notOpen] at dropped
      simp only [handleCreateResponse]
      split
      · exact ⟨dropped, id⟩
      rename_i live
      split
      · exact ⟨dropped, id⟩
      have answered := @tableMove_found _ peer (pduChannel data = some ·) slot _ _ _ _ touched
        held usedFor
        (.answered pending (by simpa using live)) (fun _ => by
          simp only [DynamicChannel.usedFor, Bool.and_eq_true, beq_iff_eq] at usedFor
          exact usedFor.2)
      rw [notOpen] at answered
      exact ⟨answered, id⟩

omit ok in
theorem tableMove_fed (ok : TableOk peer.channels peer.channelCount) {new : DynamicChannel}
    (touched : touches channelId)
    (held : peer.channels[slot]? = some channel) (found : channel.openFor channelId = true) (move : SlotMove slot channel events new)
    (kept : new.isOpen = channel.isOpen) (same : new.channelId = channel.channelId) :
    TableMove touches peer.channels peer.channelCount events (peer.channels.set slot new)
      peer.channelCount := by
  obtain ⟨isOpen, usedFor⟩ := DynamicChannel.openFor_usedFor found
  have moved := tableMove_found touched held usedFor move (fun _ => by
    simp only [DynamicChannel.usedFor, Bool.and_eq_true, beq_iff_eq] at usedFor
    exact same.trans usedFor.2)
  rwa [kept, isOpen, Bool.toNat_true, Nat.sub_add_cancel (ok.open_counted held isOpen)] at moved

theorem takeFragment_moved (touched : touches channelId) {fragment : Bytes}
    {fragmentExpected : UInt32} (held : peer.channels[slot]? = some channel)
    (found : channel.openFor channelId = true) :
    Moved touches peer
      (takeFragment hooks peer slot { channel with fragment, fragmentExpected }) := by
  obtain ⟨isOpen, _⟩ := DynamicChannel.openFor_usedFor found
  unfold takeFragment
  split
  · obtain ⟨answer, rest, same, _, raised⟩ := @emitReassembled_rest _ hooks peer slot
      { channel with fragment, fragmentExpected } fragment
    simp only [same]
    refine ⟨?_, id⟩
    cases raised with
    | inl quiet =>
      rw [quiet]
      exact tableMove_fed ok touched held found (.gathered isOpen [] 0) rfl rfl
    | inr published =>
      rw [published]
      exact tableMove_fed ok touched held found (.delivered isOpen fragment [] 0) rfl rfl
  · exact ⟨tableMove_fed ok touched held found (.gathered isOpen fragment fragmentExpected) rfl rfl, id⟩

theorem handleDataFirst_moved (data : Bytes) :
    Moved (pduChannel data = some ·) peer (handleDataFirst hooks peer data) := by
  unfold handleDataFirst
  cases parsed : parseDataFirst data with
  | error => exact .same
  | ok pdu =>
    obtain ⟨_, _, _, touched, _⟩ := parseFirst_inv rfl parsed
    simp only
    cases found : findDynamicChannel peer pdu.channelId with
    | none => exact .same
    | some pair =>
      obtain ⟨slot, channel⟩ := pair
      obtain ⟨held, passes⟩ := Table.lookup_some found
      simp only
      split
      · exact .same
      split
      · exact .same
      · exact takeFragment_moved ok touched held passes

theorem handleData_moved (data : Bytes) :
    ∃ result, handleData hooks peer data = .ok result ∧ Moved (pduChannel data = some ·) peer result := by
  unfold handleData
  cases parsed : parseData data with
  | error => exact ⟨_, rfl, .same⟩
  | ok pdu =>
    obtain ⟨_, _, _, touched⟩ := parseData_inv parsed
    simp only
    cases found : findDynamicChannel peer pdu.channelId with
    | none => exact ⟨_, rfl, .same⟩
    | some pair =>
      obtain ⟨slot, channel⟩ := pair
      obtain ⟨held, passes⟩ := Table.lookup_some found
      obtain ⟨isOpen, _⟩ := DynamicChannel.openFor_usedFor passes
      simp only
      split
      · -- no message in progress: the slot itself is left as it is
        obtain ⟨answer, rest, same, _, raised⟩ := @emitReassembled_rest _ hooks peer slot channel
          pdu.data
        refine ⟨_, rfl, ?_, by rw [same]; exact id⟩
        simp only [same]
        have sameTable : peer.channels.set slot channel = peer.channels := by
          obtain ⟨inside, rfl⟩ := List.getElem?_eq_some_iff.mp held
          exact List.set_getElem_self inside
        cases raised with
        | inl quiet =>
          rw [quiet]
          exact .same
        | inr published =>
          have move := @tableMove_fed _ peer (pduChannel data = some ·) slot channel _ _ ok _ touched
            held passes (.delivered isOpen pdu.data channel.fragment channel.fragmentExpected) rfl rfl
          rw [published]
          rwa [sameTable] at move
      · split
        · exact ⟨_, rfl, .same⟩
        · rename_i inBounds
          rw [checkedSub_of_le (by omega), ok_bind]
          split
          · exact ⟨_, rfl, .same⟩
          · exact ⟨_, rfl, takeFragment_moved ok touched held passes⟩

theorem handleClose_moved (data : Bytes) :
    ∃ result, handleClose peer data = .ok result ∧ Moved (pduChannel data = some ·) peer result := by
  unfold handleClose
  cases parsed : parseClose data with
  | error => exact ⟨_, rfl, .same⟩
  | ok pdu =>
    obtain ⟨_, _, _, touched⟩ := parseClose_inv parsed
    simp only
    cases found : findDynamicChannelAny peer pdu.channelId with
    | none => exact ⟨_, rfl, .same⟩
    | some pair =>
      obtain ⟨slot, channel⟩ := pair
      obtain ⟨held, passes⟩ := Table.lookup_some found
      simp only
      split
      · rename_i closing
        have notOpen : channel.isOpen = false := by
          cases isOpen : channel.isOpen with
          | false => rfl
          | true =>
            rw [((ok.slots held).openAlone isOpen).2] at closing
            cases closing
        have released := @tableMove_found _ peer (pduChannel data = some ·) slot _ _ _ _ touched
          held passes (.released closing) nofun
        rw [notOpen] at released
        exact ⟨_, rfl, released, id⟩
      split
      · exact ⟨_, rfl, .same⟩
      rename_i stage
      have isOpen : channel.isOpen = true := by simp_all
      rw [checkedSub_of_le (ok.open_counted held isOpen)]
      have closed := @tableMove_found _ peer (pduChannel data = some ·) slot _ _ _ _ touched
        held passes (.closed isOpen) nofun
      rw [isOpen] at closed
      exact ⟨_, rfl, closed, id⟩

omit ok

theorem handleCapabilities_moved (data : Bytes) :
    Moved touches peer (handleCapabilities peer data) := by
  unfold handleCapabilities
  split
  · exact .same
  split
  · exact .same
  · exact ⟨.same, fun _ => rfl⟩

theorem handleDynamicMessage_moved (ok : TableOk peer.channels peer.channelCount) (data : Bytes) :
    ∃ result, handleDynamicMessage hooks peer data = .ok result ∧
      Moved (pduChannel data = some ·) peer result := by
  unfold handleDynamicMessage
  split
  · exact ⟨_, rfl, .same⟩
  split
  · exact ⟨_, rfl, handleCapabilities_moved data⟩
  split
  · exact ⟨_, rfl, .same⟩
  split
  · exact ⟨_, rfl, handleCreateMessage_moved ok data⟩
  split
  · exact ⟨_, rfl, handleDataFirst_moved ok data⟩
  split
  · exact handleData_moved ok data
  split
  · exact handleClose_moved ok data
  split
  · exact ⟨_, rfl, .same⟩
  · exact ⟨_, rfl, .same⟩

theorem dynamicStep_moved (ok : TableOk peer.channels peer.channelCount) (input : DynamicInput π) :
    ∃ answer peer' touches, dynamicStep hooks peer input = .ok (answer, peer') ∧
      TableMove touches peer.channels peer.channelCount answer.events peer'.channels
        peer'.channelCount := by
  cases input with
  | openChannel channelId priority name =>
    exact ⟨_, _, _, rfl, (openDynamicChannel_moved channelId priority name).table⟩
  | closeChannel channelId =>
    obtain ⟨result, closed, moved⟩ := @closeDynamicChannel_moved _ hooks peer ok channelId
    exact ⟨result.1, result.2, _, closed, moved.table⟩
  | cancelFamily family => exact ⟨_, _, _, rfl, (cancelPendingFamily_moved family).table⟩
  | reset emitCloseEvents => exact ⟨_, _, _, rfl, resetDynamicChannels_moved emitCloseEvents⟩
  | message data =>
    obtain ⟨result, handled, moved⟩ := @handleDynamicMessage_moved _ hooks peer ok data
    exact ⟨result.1, result.2, _, handled, moved.table⟩
  | elsewhere active staticChannelId capabilitiesSent rest => exact ⟨_, _, fun _ => True, rfl, .same⟩

/-! ## Channels exist only on a peer that is ready -/

def ReadyOk (peer : DynamicPeer π) : Prop :=
  Table.Every (fun channel => channel.used = true → peer.channelsReady = true) peer.channels

theorem ReadyOk.not_found (readyOk : ReadyOk peer) (notReady : peer.channelsReady = false)
    (channelId : UInt32) : findDynamicChannel peer channelId = none := by
  cases found : findDynamicChannel peer channelId with
  | none => rfl
  | some pair =>
    obtain ⟨held, passes⟩ := Table.lookup_some found
    obtain ⟨isOpen, _⟩ := DynamicChannel.openFor_usedFor passes
    have used : pair.2.used = true := by
      rw [DynamicChannel.used, isOpen, Bool.true_or, Bool.true_or]
    have ready := readyOk held used
    rw [notReady] at ready
    cases ready

variable {input : DynamicInput π} {answer : DynamicAnswer} {peer' : DynamicPeer π}

theorem dynamicStep_not_ready (readyOk : ReadyOk peer) (notReady : peer.channelsReady = false)
    (taken : dynamicStep hooks peer input = .ok (answer, peer')) :
    Table.Every (fun channel => channel.used = false) peer'.channels := by
  have free : Table.Every (fun channel => channel.used = false) peer.channels := by
    intro slot channel held
    cases used : channel.used with
    | false => rfl
    | true =>
      have ready := readyOk held used
      rw [notReady] at ready
      cases ready
  cases input with
  | openChannel channelId priority name =>
    simp only [dynamicStep, openDynamicChannel, notReady, Bool.not_false, pure_eq_ok,
      Except.ok.injEq] at taken
    split at taken
    · cases taken
      exact free
    simp only [true_or, or_true, if_true] at taken
    cases taken
    exact free
  | closeChannel channelId =>
    simp only [dynamicStep, closeDynamicChannel, readyOk.not_found notReady] at taken
    split at taken <;> cases taken <;> exact free
  | cancelFamily family =>
    cases taken
    unfold cancelPendingFamily
    split
    · exact free
    apply free.map
    intro channel isFree
    obtain ⟨isOpen, pending, closing, _⟩ := (@marksCancelled _ hooks family).keeps channel
    rw [DynamicChannel.used, isOpen, pending, closing]
    exact isFree
  | reset emitCloseEvents =>
    cases taken
    exact free.map (fun _ _ => rfl)
  | message data =>
    simp only [dynamicStep, handleDynamicMessage, notReady, Bool.not_false, if_true] at taken
    split at taken
    · cases taken
      exact free
    split at taken
    · simp only [handleCapabilities] at taken
      split at taken
      · cases taken
        exact free
      · split at taken <;> cases taken <;> exact free
    · cases taken
      exact free
  | elsewhere active staticChannelId capabilitiesSent rest =>
    cases taken
    exact free

theorem dynamicStep_ready (ok : TableOk peer.channels peer.channelCount) (readyOk : ReadyOk peer)
    (taken : dynamicStep hooks peer input = .ok (answer, peer')) : ReadyOk peer' := by
  cases ready : peer.channelsReady with
  | false =>
    have free := dynamicStep_not_ready readyOk ready taken
    intro slot channel held used
    rw [free held] at used
    cases used
  | true =>
    cases input with
    | openChannel channelId priority name =>
      have kept := (@openDynamicChannel_moved _ hooks peer channelId priority name).ready ready
      rw [Except.ok.inj taken] at kept
      exact fun _ _ _ _ => kept
    | closeChannel channelId =>
      obtain ⟨result, closed, moved⟩ := @closeDynamicChannel_moved _ hooks peer ok channelId
      rw [dynamicStep, closed] at taken
      cases taken
      exact fun _ _ _ _ => moved.ready ready
    | cancelFamily family =>
      cases taken
      exact fun _ _ _ _ => (@cancelPendingFamily_moved _ hooks peer family).ready ready
    | reset emitCloseEvents =>
      cases taken
      intro slot channel held used
      simp only [List.getElem?_map] at held
      obtain ⟨_, _, rfl⟩ := Option.map_eq_some_iff.mp held
      cases used
    | message data =>
      obtain ⟨result, handled, moved⟩ := @handleDynamicMessage_moved _ hooks peer ok data
      rw [dynamicStep, handled] at taken
      cases taken
      exact fun _ _ _ _ => moved.ready ready
    | elsewhere active staticChannelId capabilitiesSent rest =>
      cases taken
      exact fun _ _ _ _ => ready

end Calls

/-! ## Whole runs -/

structure WatchedPeer (π : Type) where
  peer : DynamicPeer π
  openings : Nat → Nat

/-- An occupation lasts while the slot is in use; a free slot starts again from zero. -/
def countOpenings (openings : Nat → Nat) (events : List DynamicEvent)
    (channels : List DynamicChannel) (slot : Nat) : Nat :=
  if channels[slot]?.any DynamicChannel.used then
    openings slot + events.countP (DynamicEvent.opensSlot slot)
  else 0

def watchedStep {π : Type} (hooks : DynamicHooks π) (watched : WatchedPeer π)
    (input : DynamicInput π) : Exec (DynamicAnswer × WatchedPeer π) := do
  let (answer, peer) ← dynamicStep hooks watched.peer input
  pure (answer, { peer, openings := countOpenings watched.openings answer.events peer.channels })

def watchedInit {π : Type} (rest : π) : WatchedPeer π :=
  { peer := dynamicPeerInit rest, openings := fun _ => 0 }

structure WatchedPeer.Ok {π : Type} (watched : WatchedPeer π) : Prop where
  table : TableOk watched.peer.channels watched.peer.channelCount
  announced : ∀ slot, watched.openings slot =
    (watched.peer.channels[slot]?.any DynamicChannel.announced).toNat

section Watched

variable {π : Type} {hooks : DynamicHooks π}

variable {channel : DynamicChannel}

theorem DynamicChannel.announced_used (free : channel.used = false) :
    channel.announced = false := by
  simp only [DynamicChannel.used, Bool.or_eq_false_iff] at free
  simp only [DynamicChannel.announced, free, Bool.or_self]

theorem TableMove.announces {channels channels' : List DynamicChannel} {count count' : Nat}
    {touches : UInt32 → Prop} {events : List DynamicEvent}
    (move : TableMove touches channels count events channels' count') (ok : TableOk channels count)
    {openings : Nat → Nat} (before : ∀ slot, openings slot =
      (channels[slot]?.any DynamicChannel.announced).toNat) (slot : Nat) :
    countOpenings openings events channels' slot =
      (channels'[slot]?.any DynamicChannel.announced).toNat := by
  unfold countOpenings
  cases after : channels'[slot]? with
  | none => rfl
  | some new =>
    simp only [Option.any_some]
    split
    · rename_i used
      rw [before slot]
      cases move with
      | same =>
        rw [after]
        simp
      | cancelled _ marks =>
        rw [List.getElem?_map] at after
        obtain ⟨old, held, rfl⟩ := Option.map_eq_some_iff.mp after
        obtain ⟨isOpen, _, closing, _⟩ := marks.keeps old
        rw [held]
        simp [DynamicChannel.announced, isOpen, closing]
      | reset =>
        rw [List.getElem?_map] at after
        obtain ⟨_, _, rfl⟩ := Option.map_eq_some_iff.mp after
        cases used
      | slot _ held move =>
        cases Table.getElem?_set_cases after with
        | inl here =>
          obtain ⟨rfl, rfl, _⟩ := here
          rw [held]
          exact move.announces (ok.slots held) used
        | inr there =>
          rw [there.2, move.others_silent there.1]
          rfl
    · rename_i free
      rw [DynamicChannel.announced_used (by simpa using free)]
      rfl

theorem dynamicPeerInit_free (rest : π) :
    Table.Every (fun channel => channel.used = false) (dynamicPeerInit rest).channels :=
  Table.every_replicate _ rfl

theorem dynamicPeerInit_ok (rest : π) :
    TableOk (dynamicPeerInit rest).channels (dynamicPeerInit rest).channelCount where
  size := rfl
  ids := by
    intro i j a b atI _ usedA
    rw [dynamicPeerInit_free rest atI] at usedA
    cases usedA
  slots := Table.every_replicate _ emptyChannel_ok
  counted := rfl

theorem dynamicPeer_reachable_ok {rest : π} {peer : DynamicPeer π}
    (reached : Reachable (dynamicStep hooks) (dynamicPeerInit rest) peer) :
    TableOk peer.channels peer.channelCount ∧ ReadyOk peer := by
  apply reached.invariant (fun peer => TableOk peer.channels peer.channelCount ∧ ReadyOk peer)
  · refine ⟨dynamicPeerInit_ok rest, ?_⟩
    intro slot channel held used
    rw [dynamicPeerInit_free rest held] at used
    cases used
  · intro before input answer after ⟨ok, readyOk⟩ taken
    obtain ⟨answer', after', _, taken', moved⟩ := @dynamicStep_moved _ hooks _ ok input
    refine ⟨?_, dynamicStep_ready ok readyOk taken⟩
    rw [taken'] at taken
    cases taken
    exact moved.ok ok

theorem watchedInit_ok (rest : π) : (watchedInit rest).Ok where
  table := dynamicPeerInit_ok rest
  announced := by
    intro slot
    cases held : (watchedInit rest).peer.channels[slot]? with
    | none => rfl
    | some channel =>
      rw [List.eq_of_mem_replicate (List.mem_of_getElem? held)]
      rfl

theorem watchedStep_ok {watched : WatchedPeer π} (ok : watched.Ok) (input : DynamicInput π) :
    ∃ answer watched' touches, watchedStep hooks watched input = .ok (answer, watched') ∧
      TableMove touches watched.peer.channels watched.peer.channelCount answer.events
        watched'.peer.channels watched'.peer.channelCount ∧ watched'.Ok := by
  obtain ⟨answer, peer, touches, taken, moved⟩ :=
    @dynamicStep_moved _ hooks watched.peer ok.table input
  refine ⟨answer,
    { peer, openings := countOpenings watched.openings answer.events peer.channels }, touches, ?_,
    moved, ?_⟩
  · simp only [watchedStep, taken, ok_bind, pure_eq_ok]
  · exact ⟨moved.ok ok.table, moved.announces ok.table ok.announced⟩

theorem watched_reachable_ok {rest : π} {watched : WatchedPeer π}
    (reached : Reachable (watchedStep hooks) (watchedInit rest) watched) : watched.Ok := by
  apply reached.invariant WatchedPeer.Ok (watchedInit_ok rest)
  intro before input answer after ok taken
  obtain ⟨answer', after', _, taken', _, ok'⟩ := @watchedStep_ok _ hooks _ ok input
  rw [taken'] at taken
  cases taken
  exact ok'

theorem DynamicChannel.Ok.one_stage (ok : channel.Ok) (used : channel.used = true) :
    [channel.isOpen, channel.pendingOpen, channel.closing].count true = 1 := by
  have openAlone := ok.openAlone
  have pendingAlone := ok.pendingAlone
  unfold DynamicChannel.used at used
  cases isOpen : channel.isOpen <;> cases pending : channel.pendingOpen <;>
    cases closing : channel.closing <;> simp_all

/-- In every state that any calls and any bytes lead to: ids are distinct among the slots in use,
    each of these is in exactly one stage, only a pending open is cancelled, the count is that of
    the open slots, and no occupation was announced as open twice. Every further call is answered
    (so no decrement wraps), and raises data events only for slots that are open. -/
theorem dynamic_table_invariant (hooks : DynamicHooks π) (rest : π) {watched : WatchedPeer π}
    (reached : Reachable (watchedStep hooks) (watchedInit rest) watched) :
    Table.Distinct DynamicChannel.used DynamicChannel.channelId watched.peer.channels ∧
      (∀ (slot : Nat) channel, watched.peer.channels[slot]? = some channel →
        (channel.used = true →
          [channel.isOpen, channel.pendingOpen, channel.closing].count true = 1) ∧
        (channel.cancelledOpen = true → channel.pendingOpen = true)) ∧
      watched.peer.channelCount = watched.peer.channels.countP DynamicChannel.isOpen ∧
      (∀ slot, watched.openings slot ≤ 1) ∧
      ∀ input, ∃ answer watched', watchedStep hooks watched input = .ok (answer, watched') ∧
        ∀ event ∈ answer.events, event.type = .data →
          ∃ before after, watched.peer.channels[event.slot]? = some before ∧
            watched'.peer.channels[event.slot]? = some after ∧ before.isOpen = true ∧
            after.isOpen = true ∧ before.channelId = event.channelId := by
  have ok := watched_reachable_ok reached
  refine ⟨ok.table.ids, ?_, ok.table.counted, ?_, ?_⟩
  · intro slot channel held
    exact ⟨(ok.table.slots held).one_stage, (ok.table.slots held).cancelled⟩
  · intro slot
    rw [ok.announced]
    exact Bool.toNat_le _
  · intro input
    obtain ⟨answer, watched', _, taken, moved, _⟩ := @watchedStep_ok _ hooks _ ok input
    exact ⟨answer, watched', taken, fun event raised data => moved.data_open raised data⟩

end Watched

/-- Handlers that publish everything, and a transport that takes every packet. -/
def plainHooks : DynamicHooks Unit where
  send := fun _ _ => (.ok, ())
  family := fun _ => 0
  familyValid := fun _ => true
  providerReady := fun _ _ => true
  accept := fun _ _ => (true, ())
  handle := fun _ _ _ => (.publish, ())
  softSync := fun _ _ _ => (.ok, ())

theorem dynamic_table_invariant_pending : ∃ watched : WatchedPeer Unit,
    (watched.peer.channels.any fun channel => channel.pendingOpen) = true ∧
      watched.peer.channelCount = watched.peer.channels.countP DynamicChannel.isOpen := by
  have started : Reachable (watchedStep plainHooks) (watchedInit ()) _ :=
    .step .init (i := .elsewhere true 1004 true ()) rfl
  have ready : Reachable (watchedStep plainHooks) (watchedInit ()) _ :=
    .step started (i := .message [0x50, 0, 1, 0]) rfl
  have pending : Reachable (watchedStep plainHooks) (watchedInit ()) _ :=
    .step ready (i := .openChannel 7 1 [0x78]) rfl
  exact ⟨_, rfl, (dynamic_table_invariant plainHooks () pending).2.2.1⟩

end LibRdp.Server
