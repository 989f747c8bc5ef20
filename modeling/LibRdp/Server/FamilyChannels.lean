import LibRdp.Server.FamilyCarriers

/-! # Dynamic channels as carriers of a family

Each call on the table of dynamic channels moves one slot, and the record of the family of
that slot follows it.
-/

namespace LibRdp.Server

open Machine Machine.Table Channels

inductive MessageEffect {π : Type} (hooks : DynamicHooks π) (table : DynamicPeer π)
    (data : Bytes) : List DynamicEvent → List DynamicChannel → Prop where
  | fed {events : List DynamicEvent} {channels : List DynamicChannel}
      (noAnswer : answeredOpen table data = none)
      (published : ∀ event ∈ events, event.type = .data)
      (kept : channels = table.channels ∨ ∃ slot old fragment fragmentExpected,
        table.channels[slot]? = some old ∧
        channels = table.channels.set slot { old with fragment, fragmentExpected }) :
      MessageEffect hooks table data events channels
  | created {request : CreateRequest} {slot : Nat} {old new : DynamicChannel}
      (noAnswer : answeredOpen table data = none)
      (about : acceptedCreate hooks table data = some request)
      (held : table.channels[slot]? = some old) (free : old.used = false)
      (isNew : new = { channelId := request.channelId, channelIdBytes := request.channelIdBytes
                       priority := request.priority, isOpen := true, name := request.name }) :
      MessageEffect hooks table data [dynamicEvent .opened slot new] (table.channels.set slot new)
  | opened {response : CreateResponse} {slot : Nat} {channel : DynamicChannel}
      (about : answeredOpen table data = some (response, slot, channel))
      (held : table.channels[slot]? = some channel) (pending : channel.pendingOpen = true)
      (live : channel.cancelledOpen = false) (accepted : response.statusCode = createStatusOk) :
      MessageEffect hooks table data [dynamicEvent .opened slot channel]
        (table.channels.set slot { channel with pendingOpen := false, isOpen := true })
  | dropped {response : CreateResponse} {slot : Nat} {channel : DynamicChannel}
      (about : answeredOpen table data = some (response, slot, channel))
      (held : table.channels[slot]? = some channel) (pending : channel.pendingOpen = true)
      (refused : channel.cancelledOpen = true ∨ response.statusCode ≠ createStatusOk) :
      MessageEffect hooks table data [] (table.channels.set slot {})
  | closed {slot : Nat} {channel : DynamicChannel} (noAnswer : answeredOpen table data = none)
      (about : closedChannel table data = some (slot, channel))
      (held : table.channels[slot]? = some channel) (isOpen : channel.isOpen = true) :
      MessageEffect hooks table data [dynamicEvent .closed slot channel] (table.channels.set slot {})
  | released {slot : Nat} {channel : DynamicChannel} (noAnswer : answeredOpen table data = none)
      (held : table.channels[slot]? = some channel) :
      MessageEffect hooks table data [] (table.channels.set slot {})

section Messages

variable {π : Type} {hooks : DynamicHooks π} {table table' : DynamicPeer π} {data : Bytes}
  {answer : DynamicAnswer}

theorem MessageEffect.same (noAnswer : answeredOpen table data = none) :
    MessageEffect hooks table data [] table.channels :=
  .fed noAnswer (fun _ held => absurd held List.not_mem_nil) (.inl rfl)

theorem answeredOpen_other {command : Nat} (command' : dynamicCommand table data = some command)
    (other : command ≠ cmdCreate) : answeredOpen table data = none := by
  rw [answeredOpen, command', if_neg]
  intro same
  cases same
  exact other rfl

variable (noAnswer : answeredOpen table data = none)
include noAnswer

theorem takeFragment_effect {slot : Nat} {old : DynamicChannel} {fragment : Bytes}
    {fragmentExpected : UInt32} (held : table.channels[slot]? = some old) :
    MessageEffect hooks table data
      (takeFragment hooks table slot { old with fragment, fragmentExpected }).1.events
      (takeFragment hooks table slot { old with fragment, fragmentExpected }).2.channels := by
  unfold takeFragment
  split
  · obtain ⟨answer, rest, same, _, raised⟩ := @emitReassembled_rest _ hooks table slot
      { old with fragment, fragmentExpected } fragment
    simp only [same]
    refine .fed noAnswer ?_ (.inr ⟨slot, old, [], 0, held, rfl⟩)
    intro event inside
    cases raised with
    | inl quiet =>
      rw [quiet] at inside
      exact absurd inside List.not_mem_nil
    | inr published =>
      rw [published] at inside
      rw [List.mem_singleton.mp inside]
      rfl
  · refine .fed noAnswer ?_ (.inr ⟨slot, old, fragment, fragmentExpected, held, rfl⟩)
    exact fun _ inside => absurd inside List.not_mem_nil

theorem emitReassembled_effect {slot : Nat} {channel : DynamicChannel} {message : Bytes} :
    MessageEffect hooks table data (emitReassembled hooks table slot channel message).1.events
      (emitReassembled hooks table slot channel message).2.channels := by
  obtain ⟨answer, rest, same, _, raised⟩ := @emitReassembled_rest _ hooks table slot channel message
  simp only [same]
  refine .fed noAnswer ?_ (.inl rfl)
  intro event inside
  cases raised with
  | inl quiet =>
    rw [quiet] at inside
    exact absurd inside List.not_mem_nil
  | inr published =>
    rw [published] at inside
    rw [List.mem_singleton.mp inside]
    rfl

theorem handleDataFirst_effect :
    MessageEffect hooks table data (handleDataFirst hooks table data).1.events
      (handleDataFirst hooks table data).2.channels := by
  unfold handleDataFirst
  split
  · exact .same noAnswer
  split
  · exact .same noAnswer
  rename_i found
  obtain ⟨held, _⟩ := lookup_some found
  split
  · exact .same noAnswer
  split
  · exact .same noAnswer
  · exact takeFragment_effect noAnswer held

theorem handleData_effect (handled : handleData hooks table data = .ok (answer, table')) :
    MessageEffect hooks table data answer.events table'.channels := by
  unfold handleData at handled
  split at handled
  · cases handled
    exact .same noAnswer
  split at handled
  · cases handled
    exact .same noAnswer
  rename_i found
  obtain ⟨held, _⟩ := lookup_some found
  split at handled
  · obtain ⟨rfl, rfl⟩ := Prod.mk.inj (Except.ok.inj handled)
    exact emitReassembled_effect noAnswer
  split at handled
  · cases handled
    exact .same noAnswer
  obtain ⟨room, _, handled⟩ := bind_eq_ok.mp handled
  split at handled
  · cases handled
    exact .same noAnswer
  · obtain ⟨rfl, rfl⟩ := Prod.mk.inj (Except.ok.inj handled)
    exact takeFragment_effect noAnswer held

omit noAnswer in
theorem handleClose_effect (command : dynamicCommand table data = some cmdClose)
    (handled : handleClose table data = .ok (answer, table')) :
    MessageEffect hooks table data answer.events table'.channels := by
  have noAnswer := answeredOpen_other command (by decide)
  unfold handleClose at handled
  split at handled
  · cases handled
    exact .same noAnswer
  rename_i pdu parsed
  split at handled
  · cases handled
    exact .same noAnswer
  rename_i slot channel found
  obtain ⟨held, _⟩ := lookup_some found
  split at handled
  · cases handled
    exact .released noAnswer held
  rename_i notClosing
  split at handled
  · cases handled
    exact .same noAnswer
  rename_i stage
  obtain ⟨count, _, handled⟩ := bind_eq_ok.mp handled
  cases handled
  simp only [Bool.not_eq_true', not_or, Bool.not_eq_false, Bool.not_eq_true] at stage
  refine .closed noAnswer ?_ held stage.1
  simp only [closedChannel, command, if_true, parsed, found, Option.filter_some, notClosing,
    stage, Bool.not_false, Bool.and_self]

theorem admitCreate_effect {request : CreateRequest}
    (command : dynamicCommand table data = some cmdCreate)
    (parsed : parseCreateRequest data = .ok request) :
    MessageEffect hooks table data (admitCreate hooks table request).1.events
      (admitCreate hooks table request).2.channels := by
  have refused : ∀ (status : Status) (rest : π) (code : UInt32),
      MessageEffect hooks table data
        ({ status, sent := (sendCreateResponse hooks { table with rest } request code).1 } :
          DynamicAnswer).events
        (sendCreateResponse hooks { table with rest } request code).2.channels := by
    intro status rest code
    obtain ⟨sent, rest', same⟩ := @sendCreateResponse_rest _ hooks { table with rest } request code
    rw [same]
    exact .same noAnswer
  unfold admitCreate
  split
  · exact refused .limitExceeded table.rest createStatusNotSupported
  rename_i short
  split
  · exact refused .protocolError table.rest createStatusNotSupported
  rename_i unseen
  obtain ⟨accepted, rest, asked⟩ := @acceptCreate_rest _ hooks table request
  simp only [asked]
  split
  · exact refused .ok rest createStatusNotSupported
  rename_i isAccepted
  cases allocated : allocateDynamicChannel { table with rest } with
  | none => exact refused .limitExceeded rest createStatusNotSupported
  | some found =>
    obtain ⟨slot, old⟩ := found
    obtain ⟨held, passes⟩ := lookup_some allocated
    obtain ⟨sent, rest', same⟩ := @sendCreateResponse_rest _ hooks { table with rest }
      request createStatusOk
    simp only [same]
    have free : allocateDynamicChannel table = some (slot, old) := allocated
    refine .created noAnswer ?_ held (by simpa using passes) rfl
    simp only [acceptedCreate, command, noAnswer, parsed, asked, free, Option.isNone_none,
      Option.isSome_some, and_self, if_true]
    rw [if_pos]
    simp only [Bool.not_eq_true', Bool.not_eq_false] at isAccepted
    exact ⟨Nat.not_le.mp short, by simpa using unseen, isAccepted, trivial⟩

omit noAnswer in
theorem handleCreateMessage_effect (command : dynamicCommand table data = some cmdCreate) :
    MessageEffect hooks table data (handleCreateMessage hooks table data).1.events
      (handleCreateMessage hooks table data).2.channels := by
  have create : answeredOpen table data = none →
      MessageEffect hooks table data (handleCreate hooks table data).1.events
        (handleCreate hooks table data).2.channels := by
    intro noAnswer
    unfold handleCreate
    cases parsed : parseCreateRequest data with
    | error => exact .same noAnswer
    | ok request => exact admitCreate_effect noAnswer command parsed
  unfold handleCreateMessage
  cases parsed : parseCreateResponse data with
  | error => exact create (by simp only [answeredOpen, command, if_true, parsed])
  | ok response =>
    dsimp only
    cases found : findPendingDynamicChannel table response.channelId with
    | none => exact create (by simp only [answeredOpen, command, if_true, parsed, found,
        Option.map_none])
    | some pair =>
      obtain ⟨slot, channel⟩ := pair
      obtain ⟨any, pending⟩ := Option.filter_eq_some_iff.mp found
      obtain ⟨held, _⟩ := lookup_some any
      have about : answeredOpen table data = some (response, slot, channel) := by
        simp only [answeredOpen, command, if_true, parsed, found, Option.map_some]
      simp only [handleCreateResponse]
      split
      · rename_i cancelled
        exact .dropped about held pending (.inl cancelled)
      rename_i live
      split
      · rename_i refused
        exact .dropped about held pending (.inr refused)
      · rename_i accepted
        exact .opened about held pending (by simpa using live) (Decidable.not_not.mp accepted)

theorem handleCapabilities_effect :
    MessageEffect hooks table data (handleCapabilities table data).1.events
      (handleCapabilities table data).2.channels := by
  unfold handleCapabilities
  split
  · exact .same noAnswer
  split
  · exact .same noAnswer
  · exact .same noAnswer

omit noAnswer

theorem handleDynamicMessage_effect
    (handled : handleDynamicMessage hooks table data = .ok (answer, table')) :
    MessageEffect hooks table data answer.events table'.channels := by
  unfold handleDynamicMessage at handled
  cases parsed : parseHeader data with
  | error =>
    rw [parsed] at handled
    cases handled
    exact .same (by simp only [answeredOpen, dynamicCommand, parsed, reduceCtorEq, if_false])
  | ok header =>
    simp only [parsed] at handled
    by_cases caps : header.command = cmdCapabilities
    · rw [if_pos caps] at handled
      have noAnswer : answeredOpen table data = none := by
        simp only [answeredOpen, dynamicCommand, parsed, caps, ne_eq, not_true_eq_false,
          false_and, if_false, reduceCtorEq]
      have same := Except.ok.inj handled
      rw [← (Prod.mk.inj same).1, ← (Prod.mk.inj same).2]
      exact handleCapabilities_effect noAnswer
    rw [if_neg caps] at handled
    cases ready : table.channelsReady with
    | false =>
      simp only [ready, Bool.not_false, if_true] at handled
      cases handled
      exact .same (by simp only [answeredOpen, dynamicCommand, parsed, ready,
        Bool.false_eq_true, and_false, if_false, reduceCtorEq])
    | true =>
      have command : dynamicCommand table data = some header.command := by
        simp only [dynamicCommand, parsed, ready, ne_eq, caps, not_false_eq_true, and_self,
          if_true]
      simp only [ready, Bool.not_true, Bool.false_eq_true, if_false] at handled
      by_cases create : header.command = cmdCreate
      · rw [if_pos create] at handled
        obtain ⟨rfl, rfl⟩ := Prod.mk.inj (Except.ok.inj handled)
        exact handleCreateMessage_effect (create ▸ command)
      rw [if_neg create] at handled
      have noAnswer := answeredOpen_other command create
      by_cases first : header.command = cmdDataFirst
      · rw [if_pos first] at handled
        obtain ⟨rfl, rfl⟩ := Prod.mk.inj (Except.ok.inj handled)
        exact handleDataFirst_effect noAnswer
      rw [if_neg first] at handled
      by_cases more : header.command = cmdData
      · rw [if_pos more] at handled
        exact handleData_effect noAnswer handled
      rw [if_neg more] at handled
      by_cases close : header.command = cmdClose
      · rw [if_pos close] at handled
        exact handleClose_effect (close ▸ command) handled
      rw [if_neg close] at handled
      split at handled
      · cases handled
        exact .same noAnswer
      · cases handled
        exact .same noAnswer

end Messages

section Calls

variable {π : Type} {hooks : DynamicHooks π} {table table' : DynamicPeer π} {channelId : UInt32}
  {priority : Nat} {name : Bytes} {answer : DynamicAnswer}

theorem openDynamicChannel_effect
    (opened : openDynamicChannel hooks table channelId priority name = (answer, table')) :
    (answer.status = .ok ∧ ∃ slot old channelIdBytes, table.channels[slot]? = some old ∧
      old.used = false ∧ table'.channels = table.channels.set slot
        { channelId, channelIdBytes, priority, pendingOpen := true, name }) ∨
      answer.status ≠ .ok ∧ table'.channels = table.channels := by
  have refused : ∀ status : Status, (({ status } : DynamicAnswer), table) = (answer, table') →
      status ≠ .ok → answer.status ≠ .ok ∧ table'.channels = table.channels := by
    intro status same failed
    obtain ⟨rfl, rfl⟩ := Prod.mk.inj same
    exact ⟨failed, rfl⟩
  unfold openDynamicChannel at opened
  split at opened
  · exact .inr (refused _ opened nofun)
  split at opened
  · exact .inr (refused _ opened nofun)
  split at opened
  · exact .inr (refused _ opened nofun)
  cases allocated : allocateDynamicChannel table with
  | none =>
    rw [allocated] at opened
    exact .inr (refused _ opened nofun)
  | some found =>
    obtain ⟨slot, old⟩ := found
    obtain ⟨held, passes⟩ := lookup_some allocated
    simp only [allocated] at opened
    split at opened
    · exact .inr (refused _ opened nofun)
    rename_i packet _
    obtain ⟨status, sent, rest, same⟩ := @sendDynamicPacket_rest _ hooks table packet
    simp only [same] at opened
    split at opened
    · rename_i isSent
      obtain ⟨rfl, rfl⟩ := Prod.mk.inj opened
      exact .inl ⟨isSent, slot, old, _, held, by simpa using passes, rfl⟩
    rename_i failed
    obtain ⟨rfl, rfl⟩ := Prod.mk.inj opened
    exact .inr ⟨failed, rfl⟩

theorem closeDynamicChannel_effect
    (closed : closeDynamicChannel hooks table channelId = .ok (answer, table')) :
    (∃ slot channel packet, table.active = true ∧
      findDynamicChannel table channelId = some (slot, channel) ∧
      writeClose channelId channel.channelIdBytes = .ok packet ∧
      (sendDynamicPacket hooks table packet).1 = .ok ∧
      answer.events = [dynamicEvent .closed slot channel] ∧
      table'.channels = table.channels.set slot
        { channel with isOpen := false, closing := true, fragment := [] }) ∨
      answer.events = [] ∧ table'.channels = table.channels := by
  unfold closeDynamicChannel at closed
  split at closed
  · cases closed
    exact .inr ⟨rfl, rfl⟩
  rename_i active
  cases found : findDynamicChannel table channelId with
  | none =>
    rw [found] at closed
    cases closed
    exact .inr ⟨rfl, rfl⟩
  | some pair =>
    obtain ⟨slot, channel⟩ := pair
    simp only [found] at closed
    split at closed
    · cases closed
      exact .inr ⟨rfl, rfl⟩
    rename_i packet written
    obtain ⟨status, sent, rest, same⟩ := @sendDynamicPacket_rest _ hooks table packet
    simp only [same] at closed
    split at closed
    · rename_i isSent
      obtain ⟨count, _, closed⟩ := bind_eq_ok.mp closed
      cases closed
      exact .inl ⟨slot, channel, packet, by simpa using active, rfl, written,
        by rw [same, isSent], rfl, rfl⟩
    · cases closed
      exact .inr ⟨rfl, rfl⟩

end Calls

section Slots

variable {π : Type} {peer peer' : ExtensionPeer π} {slot : Nat} {old new : DynamicChannel}
  {family : ExtensionFamily}

structure SlotSet (peer peer' : ExtensionPeer π) (slot : Nat) (old new : DynamicChannel) :
    Prop where
  held : peer.table.channels[slot]? = some old
  channels : peer'.table.channels = peer.table.channels.set slot new
  devices : peer'.redirection.drive.devices = peer.redirection.drive.devices

theorem SlotSet.opens (set : SlotSet peer peer' slot old new) (family : ExtensionFamily) :
    openCarriers peer' family + (if old.carries family then 1 else 0) =
      openCarriers peer family + (if new.carries family then 1 else 0) := by
  have count : (peer.table.channels.set slot new).countP (·.carries family) +
      (if old.carries family then 1 else 0) =
        peer.table.channels.countP (·.carries family) + (if new.carries family then 1 else 0) :=
    countP_set set.held
  unfold openCarriers
  rw [set.channels, set.devices]
  omega

theorem SlotSet.pendings (set : SlotSet peer peer' slot old new) (family : ExtensionFamily) :
    pendingCarriers peer' family + (if old.seeks family then 1 else 0) =
      pendingCarriers peer family + (if new.seeks family then 1 else 0) := by
  unfold pendingCarriers
  rw [set.channels]
  exact countP_set set.held

theorem FewerCarriers.of_eq (channels : peer'.table.channels = peer.table.channels)
    (devices : peer'.redirection.drive.devices = peer.redirection.drive.devices) :
    FewerCarriers peer peer' family := by
  constructor
  · rw [openCarriers, openCarriers, channels, devices]
  · rw [pendingCarriers, pendingCarriers, channels]

theorem SlotSet.fewer (set : SlotSet peer peer' slot old new)
    (carries : new.carries family = true → old.carries family = true)
    (seeks : new.seeks family = true → old.seeks family = true) :
    FewerCarriers peer peer' family := by
  have opens := set.opens family
  have pendings := set.pendings family
  constructor
  · cases new.carries family <;> grind
  · cases new.seeks family <;> grind

theorem SlotSet.others (set : SlotSet peer peer' slot old new) {name : Bytes}
    (own : new.name = name) {other : ExtensionFamily} (apart : other ≠ extensionClassifyName name) :
    FewerCarriers peer peer' other := by
  have differs : (extensionClassifyName new.name == other) = false := by
    rw [own, beq_eq_false_iff_ne]
    exact fun same => apart same.symm
  apply set.fewer
  · simp [DynamicChannel.carries, differs]
  · simp [DynamicChannel.seeks, differs]

theorem SlotSet.emptied (set : SlotSet peer peer' slot old {}) (family : ExtensionFamily) :
    FewerCarriers peer peer' family :=
  set.fewer nofun nofun

theorem SlotSet.none_left (set : SlotSet peer peer' slot old new)
    (was : old.carries family = true ∨ old.seeks family = true)
    (gone : new.carries family = false)
    (seeks : new.seeks family = true → old.seeks family = true ∧ old.carries family = true)
    (sole : openCarriers peer family + pendingCarriers peer family = 1) :
    openCarriers peer' family + pendingCarriers peer' family = 0 := by
  have opens := set.opens family
  have pendings := set.pendings family
  rw [gone] at opens
  grind

end Slots

section Steps

variable {π : Type} {hooks : DynamicHooks π} {peer peer' : ExtensionPeer π}

variable {channel : DynamicChannel} {answer : DynamicAnswer} {table' : DynamicPeer π}

theorem DynamicChannel.carries_own (isOpen : channel.isOpen = true) :
    channel.carries (extensionClassifyName channel.name) = true := by
  simp [DynamicChannel.carries, isOpen]

theorem DynamicChannel.seeks_own (pending : channel.pendingOpen = true)
    (live : channel.cancelledOpen = false) :
    channel.seeks (extensionClassifyName channel.name) = true := by
  simp [DynamicChannel.seeks, pending, live]

theorem DynamicChannel.free_carries (free : channel.used = false) (family : ExtensionFamily) :
    channel.carries family = false ∧ channel.seeks family = false := by
  simp only [DynamicChannel.used, Bool.or_eq_false_iff] at free
  simp [DynamicChannel.carries, DynamicChannel.seeks, free]

theorem foldl_markEvent_data {events : List DynamicEvent}
    (published : ∀ event ∈ events, event.type = .data) (peer : ExtensionPeer π) :
    events.foldl markEvent peer = peer := by
  induction events with
  | nil => rfl
  | cons event rest ih =>
    rw [List.foldl_cons, markEvent, published event List.mem_cons_self]
    exact ih fun event held => published event (.tail _ held)

theorem foldl_markEvent_keeps (events : List DynamicEvent) (peer : ExtensionPeer π) :
    (events.foldl markEvent peer).table = peer.table ∧
      (events.foldl markEvent peer).redirection.drive = peer.redirection.drive := by
  induction events generalizing peer with
  | nil => exact ⟨rfl, rfl⟩
  | cons event rest ih =>
    obtain ⟨table, drive⟩ := ih (markEvent peer event)
    rw [List.foldl_cons, table, drive]
    unfold markEvent
    split
    · exact ⟨rfl, rfl⟩
    · exact ⟨rfl, rfl⟩
    · exact ⟨rfl, rfl⟩

theorem openFamilyChannel_covered (covered : Covered peer) (channelId : UInt32) (priority : Nat)
    (name : Bytes) : Covered (openFamilyChannel hooks peer channelId priority name).2 := by
  obtain ⟨⟨answer, table'⟩, opened⟩ :
      ∃ r, openDynamicChannel (familyHooks hooks) peer.table channelId priority name = r := ⟨_, rfl⟩
  simp only [openFamilyChannel, opened]
  cases openDynamicChannel_effect opened with
  | inl taken =>
    obtain ⟨ok, slot, old, channelIdBytes, held, free, channels⟩ := taken
    rw [if_pos ok]
    have set : SlotSet peer (({ peer with table := table' } : ExtensionPeer π).mark
        (extensionStateMarkPendingOpen · (extensionClassifyName name) channelId priority)) slot old
        { channelId, channelIdBytes, priority, pendingOpen := true, name } :=
      ⟨held, channels, rfl⟩
    apply covered.markPendingOpen rfl
    · intro other apart
      exact set.others rfl apart
    · have opens := set.opens (extensionClassifyName name)
      rw [(DynamicChannel.free_carries free _).1] at opens
      exact Nat.le_of_eq opens
  | inr refused =>
    rw [if_neg refused.1]
    exact Covered.fewer covered (fun _ => rfl) fun _ => .of_eq refused.2 rfl

theorem closeDynamicChannel_covered (covered : Covered peer) {channelId : UInt32}
    (spares : SparesCarriers hooks peer (.closeChannel channelId))
    (closed : closeDynamicChannel (familyHooks hooks) peer.table channelId = .ok (answer, table')) :
    Covered (noteEvents peer (answer, table')).2 := by
  cases closeDynamicChannel_effect closed with
  | inl sent =>
    obtain ⟨slot, channel, packet, active, found, written, isSent, events, channels⟩ := sent
    obtain ⟨held, passes⟩ := lookup_some found
    have carried := DynamicChannel.carries_own (DynamicChannel.openFor_usedFor passes).1
    simp only [noteEvents, events, List.foldl_cons, List.foldl_nil]
    have set : SlotSet peer (markEvent { peer with table := table' }
        (dynamicEvent .closed slot channel)) slot channel
        { channel with isOpen := false, closing := true, fragment := [] } :=
      ⟨held, channels, rfl⟩
    apply covered.markClose rfl
    · intro other apart
      exact set.others rfl apart
    · intro valid
      exact set.none_left (.inl carried) rfl (fun seeks => ⟨seeks, carried⟩)
        (spares slot channel packet active found written isSent valid)
  | inr quiet =>
    simp only [noteEvents, quiet.1, List.foldl_nil]
    exact Covered.fewer covered (fun _ => rfl) fun _ => .of_eq quiet.2 rfl

theorem markRejected_none {data : Bytes} (noAnswer : answeredOpen peer.table data = none) :
    markRejected peer data = peer := by
  rw [markRejected, noAnswer]

theorem handleDynamicMessage_covered (covered : Covered peer) {data : Bytes}
    (spares : MessageSpares hooks peer data)
    (handled : handleDynamicMessage (familyHooks hooks) peer.table data = .ok (answer, table')) :
    Covered (noteEvents (markRejected peer data) (answer, table')).2 := by
  have effect := handleDynamicMessage_effect handled
  obtain ⟨events, eventsEq⟩ : ∃ events, answer.events = events := ⟨_, rfl⟩
  obtain ⟨channels, channelsEq⟩ : ∃ channels, table'.channels = channels := ⟨_, rfl⟩
  simp only [noteEvents, eventsEq]
  rw [eventsEq, channelsEq] at effect
  cases effect with
  | fed noAnswer published kept =>
    rw [markRejected_none noAnswer, foldl_markEvent_data published]
    refine Covered.fewer covered (fun _ => rfl) ?_
    intro family
    cases kept with
    | inl same => exact .of_eq (channelsEq.trans same) rfl
    | inr moved =>
      obtain ⟨slot, old, fragment, fragmentExpected, held, same⟩ := moved
      exact SlotSet.fewer ⟨held, channelsEq.trans same, rfl⟩ id id
  | @created request slot old new noAnswer about held free isNew =>
    rw [markRejected_none noAnswer, List.foldl_cons, List.foldl_nil]
    have named : new.name = request.name := by rw [isNew]
    have set : SlotSet peer (markEvent { peer with table := table' }
        (dynamicEvent .opened slot new)) slot old new := ⟨held, channelsEq, rfl⟩
    have idle : new.seeks (extensionClassifyName new.name) = false := by
      rw [isNew]
      rfl
    have pendings := set.pendings (extensionClassifyName new.name)
    rw [(DynamicChannel.free_carries free _).2, idle] at pendings
    apply covered.markOpen rfl (fun other apart => set.others rfl apart)
    · exact Nat.le_of_eq pendings
    · intro last
      refine pendings.trans ?_
      have spared := spares.created request about
      rw [← named] at spared
      exact spared last
  | @opened response slot channel about held pending live accepted =>
    have same : markRejected peer data = peer := by
      rw [markRejected, about]
      exact if_pos (.inr accepted)
    rw [same, List.foldl_cons, List.foldl_nil]
    have set : SlotSet peer (markEvent { peer with table := table' }
        (dynamicEvent .opened slot channel)) slot channel
        { channel with pendingOpen := false, isOpen := true } := ⟨held, channelsEq, rfl⟩
    have pendings := set.pendings (extensionClassifyName channel.name)
    rw [DynamicChannel.seeks_own pending live] at pendings
    simp only [if_true, DynamicChannel.seeks, Bool.false_and, Bool.false_eq_true, if_false,
      Nat.add_zero] at pendings
    apply covered.markOpen rfl (fun other apart => set.others rfl apart)
    · exact Nat.le_of_succ_le (Nat.le_of_eq pendings)
    · intro last
      exact Nat.succ.inj (pendings.trans (spares.opened response slot channel about live accepted last))
  | @dropped response slot channel about held pending refused =>
    rw [List.foldl_nil, markRejected, about]
    dsimp only
    split
    · have set : SlotSet peer { peer with table := table' } slot channel {} :=
        ⟨held, channelsEq, rfl⟩
      exact Covered.fewer covered (fun _ => rfl) set.emptied
    rename_i live
    simp only [not_or, Bool.not_eq_true] at live
    have seeks := DynamicChannel.seeks_own pending live.1
    have set : SlotSet peer { peer.markClose (extensionClassifyName channel.name) with
        table := table' } slot channel {} := ⟨held, channelsEq, rfl⟩
    apply covered.markClose rfl (fun other _ => set.emptied other)
    intro valid
    exact set.none_left (.inr seeks) rfl (fun seeks => absurd seeks Bool.false_ne_true)
      (spares.rejected response slot channel about live.1 live.2 valid)
  | @closed slot channel noAnswer about held isOpen =>
    rw [markRejected_none noAnswer, List.foldl_cons, List.foldl_nil]
    have set : SlotSet peer (markEvent { peer with table := table' }
        (dynamicEvent .closed slot channel)) slot channel {} := ⟨held, channelsEq, rfl⟩
    apply covered.markClose rfl (fun other _ => set.emptied other)
    intro valid
    exact set.none_left (.inl (DynamicChannel.carries_own isOpen)) rfl (fun seeks => absurd seeks Bool.false_ne_true)
      (spares.closed slot channel about valid)
  | @released slot channel noAnswer held =>
    rw [markRejected_none noAnswer, List.foldl_nil]
    have set : SlotSet peer { peer with table := table' } slot channel {} :=
      ⟨held, channelsEq, rfl⟩
    exact Covered.fewer covered (fun _ => rfl) set.emptied

end Steps

end LibRdp.Server
