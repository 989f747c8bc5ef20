import LibRdp.Server.DynamicTable
import LibRdp.Link.Protocol

/-! # The server's side of a channel's life

What each call and each PDU of the client does to the stages that the server holds its
channels in, while the transport takes what the server sends.
-/

namespace LibRdp.Server

open Machine Channels Link

def DynamicChannel.stage (channel : DynamicChannel) : ServerStage :=
  if channel.isOpen then .opened
  else if channel.closing then .closing
  else if channel.cancelledOpen then .cancelled
  else .pending

def stageOf : Option DynamicChannel → ServerStage
  | none => .free
  | some channel => channel.stage

abbrev slotOf {π : Type} (peer : DynamicPeer π) (channelId : UInt32) : Option DynamicChannel :=
  Table.entryOf DynamicChannel.used DynamicChannel.channelId channelId peer.channels

def DynamicPeer.stage {π : Type} (peer : DynamicPeer π) (channelId : UInt32) : ServerStage :=
  stageOf (slotOf peer channelId)

def DynamicChannel.WidthOk (channel : DynamicChannel) : Prop :=
  channel.used = true → channel.channelIdBytes = numberWidth channel.channelId.toNat

structure Joined {π : Type} (peer : DynamicPeer π) : Prop where
  table : TableOk peer.channels peer.channelCount
  widths : Table.Every DynamicChannel.WidthOk peer.channels
  ready : peer.channelsReady = true
  channel : peer.staticChannelId ≠ 0

structure Turned {π : Type} (peer : DynamicPeer π) (channelId : UInt32) (stage : ServerStage)
    (peer' : DynamicPeer π) : Prop where
  joined : Joined peer'
  stage : ∀ id, peer'.stage id = if id = channelId then stage else peer.stage id

section Stages

variable {π : Type} {peer : DynamicPeer π} {channelId : UInt32} {slot : Nat}
  {channel new : DynamicChannel}

theorem DynamicChannel.stage_opened (isOpen : channel.isOpen = true) : channel.stage = .opened := by
  rw [DynamicChannel.stage, if_pos isOpen]

theorem DynamicChannel.stage_closing (isClosing : channel.closing = true)
    (notOpen : channel.isOpen = false) : channel.stage = .closing := by
  rw [DynamicChannel.stage, notOpen, isClosing]
  rfl

theorem DynamicChannel.Ok.pending_flags (ok : channel.Ok) (pending : channel.pendingOpen = true) :
    channel.isOpen = false ∧ channel.closing = false := by
  refine ⟨?_, ok.pendingAlone pending⟩
  cases isOpen : channel.isOpen with
  | false => rfl
  | true =>
    rw [(ok.openAlone isOpen).1] at pending
    cases pending

theorem DynamicChannel.Ok.closing_alone (ok : channel.Ok) (isClosing : channel.closing = true) :
    channel.isOpen = false := by
  cases isOpen : channel.isOpen with
  | false => rfl
  | true =>
    rw [(ok.openAlone isOpen).2] at isClosing
    cases isClosing

theorem DynamicChannel.waits_flags (waits : channel.stage = .pending ∨ channel.stage = .cancelled) :
    channel.isOpen = false ∧ channel.closing = false := by
  cases isOpen : channel.isOpen with
  | true => simp [DynamicChannel.stage, isOpen] at waits
  | false =>
    cases isClosing : channel.closing with
    | true => simp [DynamicChannel.stage, isOpen, isClosing] at waits
    | false => exact ⟨rfl, rfl⟩

theorem DynamicChannel.stage_pending (ok : channel.Ok) (pending : channel.pendingOpen = true) :
    channel.stage = if channel.cancelledOpen then .cancelled else .pending := by
  obtain ⟨notOpen, notClosing⟩ := ok.pending_flags pending
  rw [DynamicChannel.stage, notOpen, notClosing]
  rfl

theorem DynamicChannel.stage_cases (channel : DynamicChannel) :
    channel.stage ≠ .free ∧ (channel.stage = .opened → channel.isOpen = true) := by
  unfold DynamicChannel.stage
  split
  · exact ⟨nofun, fun _ => ‹_›⟩
  split
  · exact ⟨nofun, nofun⟩
  split
  · exact ⟨nofun, nofun⟩
  · exact ⟨nofun, nofun⟩

theorem slotOf_none (free : peer.stage channelId = .free) : slotOf peer channelId = none := by
  cases found : slotOf peer channelId with
  | none => rfl
  | some channel =>
    rw [DynamicPeer.stage, found] at free
    exact absurd free channel.stage_cases.1

theorem findDynamicChannelAny_slotOf :
    (findDynamicChannelAny peer channelId).map Prod.snd = slotOf peer channelId := rfl

theorem findDynamicChannelAny_none (free : peer.stage channelId = .free) :
    findDynamicChannelAny peer channelId = none :=
  Option.map_eq_none_iff.mp (slotOf_none free)

theorem findDynamicChannelAny_some (found : findDynamicChannelAny peer channelId = some (slot, channel)) :
    peer.channels[slot]? = some channel ∧ channel.used = true ∧ channel.channelId = channelId ∧
      peer.stage channelId = channel.stage := by
  obtain ⟨held, passes⟩ := Table.lookup_some found
  simp only [DynamicChannel.usedFor, Bool.and_eq_true, beq_iff_eq] at passes
  refine ⟨held, passes.1, passes.2, ?_⟩
  rw [DynamicPeer.stage, ← findDynamicChannelAny_slotOf, found]
  rfl

theorem findDynamicChannel_some (joined : Joined peer)
    (found : findDynamicChannel peer channelId = some (slot, channel)) :
    peer.channels[slot]? = some channel ∧ channel.isOpen = true ∧ channel.used = true ∧
      channel.channelId = channelId ∧ peer.stage channelId = .opened := by
  obtain ⟨held, passes⟩ := Table.lookup_some found
  obtain ⟨isOpen, usedFor⟩ := DynamicChannel.openFor_usedFor passes
  simp only [DynamicChannel.usedFor, Bool.and_eq_true, beq_iff_eq] at usedFor
  obtain ⟨used, same⟩ := usedFor
  refine ⟨held, isOpen, used, same, ?_⟩
  rw [DynamicPeer.stage, slotOf, ← same, joined.table.ids.entryOf_eq held used]
  exact DynamicChannel.stage_opened isOpen

theorem findDynamicChannel_none (missed : findDynamicChannel peer channelId = none) :
    peer.stage channelId ≠ .opened := by
  intro isOpened
  cases found : slotOf peer channelId with
  | none =>
    rw [DynamicPeer.stage, found] at isOpened
    cases isOpened
  | some channel =>
    obtain ⟨slot, held, used, same⟩ := Table.entryOf_some found
    have fails := Table.lookup_none missed held
    rw [DynamicPeer.stage, found] at isOpened
    simp only [DynamicChannel.openFor, same, BEq.rfl, Bool.and_true] at fails
    rw [channel.stage_cases.2 isOpened] at fails
    cases fails

theorem Joined.stage_eq (joined : Joined peer) (held : peer.channels[slot]? = some channel)
    (used : channel.used = true) : peer.stage channel.channelId = channel.stage := by
  rw [DynamicPeer.stage, slotOf, joined.table.ids.entryOf_eq held used]
  rfl

theorem rewrites_found (held : peer.channels[slot]? = some channel) (used : channel.used = true)
    (same : channel.channelId = channelId) (kept : new.used = true → new.channelId = channelId) :
    Table.Rewrites DynamicChannel.used DynamicChannel.channelId channelId peer.channels slot channel
      new where
  held := held
  was := fun _ => same
  now := kept
  fresh := fun unused => by
    rw [used] at unused
    cases unused

theorem rewrites_taken (free : peer.stage channelId = .free)
    (allocated : allocateDynamicChannel peer = some (slot, channel))
    (same : new.channelId = channelId) :
    Table.Rewrites DynamicChannel.used DynamicChannel.channelId channelId peer.channels slot channel
      new where
  held := (Table.lookup_some allocated).1
  was := fun used => by
    have passes := (Table.lookup_some allocated).2
    simp only [used, Bool.not_true, Bool.false_eq_true] at passes
  now := fun _ => same
  fresh := fun _ => slotOf_none free

theorem Turned.same (joined : Joined peer) (rest : π) :
    Turned peer channelId (peer.stage channelId) { peer with rest } where
  joined := ⟨joined.table, joined.widths, joined.ready, joined.channel⟩
  stage := fun id => by
    split
    · rename_i here
      rw [here]
      rfl
    · rfl

theorem Turned.still {peer' : DynamicPeer π}
    (turned : Turned peer channelId (peer.stage channelId) peer') (id : UInt32) :
    peer'.stage id = peer.stage id := by
  rw [turned.stage]
  split
  · rename_i here
    rw [here]
  · rfl

theorem turned_set (joined : Joined peer) {count : Nat} {rest : π}
    (rewrites : Table.Rewrites DynamicChannel.used DynamicChannel.channelId channelId peer.channels
      slot channel new) (ok : TableOk (peer.channels.set slot new) count) (width : new.WidthOk) :
    Turned peer channelId (if new.used then new.stage else .free)
      { peer with channels := peer.channels.set slot new, channelCount := count, rest } where
  joined := ⟨ok, joined.widths.set width, joined.ready, joined.channel⟩
  stage := fun id => by
    simp only [DynamicPeer.stage, slotOf]
    rw [rewrites.entryOf_set joined.table.ids id]
    split
    · cases new.used <;> rfl
    · rfl

theorem turned_cleared (joined : Joined peer) {count : Nat} {rest : π}
    (held : peer.channels[slot]? = some channel) (used : channel.used = true)
    (same : channel.channelId = channelId) (ok : TableOk (peer.channels.set slot {}) count) :
    Turned peer channelId .free
      { peer with channels := peer.channels.set slot {}, channelCount := count, rest } := by
  have rewrites : Table.Rewrites DynamicChannel.used DynamicChannel.channelId channelId peer.channels
    slot channel {} := rewrites_found held used same (fun used => nomatch used)
  exact turned_set joined rewrites ok (fun used => nomatch used)

end Stages

def SendsAll {π : Type} (hooks : DynamicHooks π) : Prop :=
  ∀ rest packet, (hooks.send rest packet).1 = .ok

section Calls

variable {π : Type} {hooks : DynamicHooks π} {peer : DynamicPeer π} {channelId : UInt32}

theorem sendDynamicPacket_sent (sends : SendsAll hooks) (joined : Joined peer) (packet : Bytes) :
    ∃ rest, sendDynamicPacket hooks peer packet = (.ok, [packet], { peer with rest }) := by
  refine ⟨(hooks.send peer.rest packet).2, ?_⟩
  simp only [sendDynamicPacket, if_neg joined.channel, sends peer.rest packet, if_true]

variable {answer : DynamicAnswer} {peer' : DynamicPeer π}

theorem openDynamicChannel_turned (sends : SendsAll hooks) (joined : Joined peer) (priority : Nat)
    (name : Bytes)
    (result : openDynamicChannel hooks peer channelId priority name = (answer, peer')) :
    answer.sent = [] ∧ Turned peer channelId (peer.stage channelId) peer' ∨
      peer.stage channelId = .free ∧ ∃ wire, answer.sent = [wire] ∧
        Reads wire (channelId, .request) ∧ Turned peer channelId .pending peer' := by
  have moved := (@openDynamicChannel_moved _ hooks peer channelId priority name).table.ok joined.table
  rw [result] at moved
  unfold openDynamicChannel at result
  split at result
  · cases result
    exact .inl ⟨rfl, .same joined _⟩
  rename_i valid
  split at result
  · cases result
    exact .inl ⟨rfl, .same joined _⟩
  split at result
  · cases result
    exact .inl ⟨rfl, .same joined _⟩
  rename_i unseen
  have missed := Option.not_isSome_iff_eq_none.mp unseen
  have free : peer.stage channelId = .free := by
    rw [DynamicPeer.stage, ← findDynamicChannelAny_slotOf, missed]
    rfl
  cases allocated : allocateDynamicChannel peer with
  | none =>
    rw [allocated] at result
    cases result
    exact .inl ⟨rfl, .same joined _⟩
  | some found =>
    obtain ⟨slot, old⟩ := found
    simp only [not_or, Bool.not_eq_true, Bool.not_eq_false', dynamicChannelNameValid,
      Bool.and_eq_true, decide_eq_true_eq, ne_eq, List.length_eq_zero_iff] at valid
    obtain ⟨_, small, ⟨some, _⟩, text⟩ := valid
    obtain ⟨wire, wrote, reads⟩ := @writeCreateRequest_reads channelId _ rfl priority
      (Nat.not_lt.mp small) name some (name_text (by decide) text)
    obtain ⟨rest, sent⟩ := sendDynamicPacket_sent sends joined wire
    simp only [allocated, wrote, sent, if_true] at result
    cases result
    refine .inr ⟨free, wire, rfl, reads, ?_⟩
    exact turned_set joined (rewrites_taken free allocated rfl) moved (fun _ => rfl)

theorem closeDynamicChannel_turned (sends : SendsAll hooks) (joined : Joined peer)
    (result : closeDynamicChannel hooks peer channelId = .ok (answer, peer')) :
    answer.sent = [] ∧ Turned peer channelId (peer.stage channelId) peer' ∨
      (findDynamicChannel peer channelId).isSome = true ∧ peer.stage channelId = .opened ∧
        ∃ wire, answer.sent = [wire] ∧ Reads wire (channelId, .close) ∧
          Turned peer channelId .closing peer' := by
  obtain ⟨_, taken, moved⟩ := @closeDynamicChannel_moved _ hooks peer joined.table channelId
  rw [result] at taken
  cases taken
  have ok := moved.table.ok joined.table
  unfold closeDynamicChannel at result
  split at result
  · cases result
    exact .inl ⟨rfl, .same joined _⟩
  cases found : findDynamicChannel peer channelId with
  | none =>
    rw [found] at result
    cases result
    exact .inl ⟨rfl, .same joined _⟩
  | some pair =>
    obtain ⟨slot, channel⟩ := pair
    obtain ⟨held, isOpen, used, same, stage⟩ := findDynamicChannel_some joined found
    have own : channel.channelIdBytes = numberWidth channel.channelId.toNat :=
      joined.widths held used
    obtain ⟨wire, wrote, reads⟩ := writeClose_reads own
    rw [same] at wrote reads
    obtain ⟨rest, sent⟩ := sendDynamicPacket_sent sends joined wire
    simp only [found, wrote, sent, if_true, ok_bind, pure_eq_ok,
      checkedSub_of_le (joined.table.open_counted held isOpen)] at result
    cases result
    refine .inr ⟨rfl, stage, wire, rfl, reads, ?_⟩
    let closing : DynamicChannel :=
      { channel with isOpen := false, closing := true, fragment := [] }
    have rewrites : Table.Rewrites DynamicChannel.used DynamicChannel.channelId channelId
      peer.channels slot channel closing := rewrites_found held used same (fun _ => same)
    have kept : closing.WidthOk := fun _ => own
    have now : closing.used = true := Bool.or_true _
    have turned : Turned peer channelId (if closing.used then closing.stage else .free)
      { peer with
        channels := peer.channels.set slot closing, channelCount := peer.channelCount - 1, rest } :=
      turned_set joined rewrites ok kept
    rw [if_pos now] at turned
    exact turned

theorem cancelPendingFamily_turned (joined : Joined peer) (family : Nat) :
    Joined (cancelPendingFamily hooks peer family) ∧
      ∀ id, (cancelPendingFamily hooks peer family).stage id = peer.stage id ∨
        peer.stage id = .pending ∧ (cancelPendingFamily hooks peer family).stage id = .cancelled ∧
          ∃ (slot : Nat) (channel : DynamicChannel), peer.channels[slot]? = some channel ∧
            channel.channelId = id ∧ channel.pendingOpen = true ∧ channel.cancelledOpen = false ∧
            hooks.familyValid family = true ∧ hooks.family channel.name = family := by
  have ok := (@cancelPendingFamily_moved _ hooks peer family).table.ok joined.table
  unfold cancelPendingFamily at ok ⊢
  split
  · exact ⟨joined, fun id => .inl rfl⟩
  rename_i valid
  simp only [if_neg valid] at ok
  have marks := @marksCancelled _ hooks family
  have kept : ∀ channel, (DynamicChannel.cancelled hooks family channel).used = channel.used ∧
      (DynamicChannel.cancelled hooks family channel).channelId = channel.channelId := by
    intro channel
    rcases marks channel with same | ⟨_, marked⟩
    · rw [same]
      exact ⟨rfl, rfl⟩
    · rw [marked]
      exact ⟨rfl, rfl⟩
  have widths : Table.Every DynamicChannel.WidthOk
      (peer.channels.map (DynamicChannel.cancelled hooks family)) := by
    apply joined.widths.map
    intro channel width
    rcases marks channel with same | ⟨_, marked⟩
    · rw [same]
      exact width
    · rw [marked]
      exact width
  refine ⟨⟨ok, widths, joined.ready, joined.channel⟩, fun id => ?_⟩
  simp only [DynamicPeer.stage, slotOf, Table.entryOf_map kept]
  cases found : Table.entryOf DynamicChannel.used DynamicChannel.channelId id peer.channels with
  | none => exact .inl rfl
  | some channel =>
    obtain ⟨slot, held, used, same⟩ := Table.entryOf_some found
    have slotOk := joined.table.slots held
    simp only [Option.map_some, stageOf, DynamicChannel.cancelled]
    split
    · exact .inl rfl
    rename_i live
    simp only [Bool.or_eq_true, Bool.not_eq_true', not_or, Bool.not_eq_false,
      Bool.not_eq_true] at live
    obtain ⟨pending, live⟩ := live
    split
    · rename_i member
      obtain ⟨notOpen, notClosing⟩ := slotOk.pending_flags pending
      refine .inr ⟨?_, ?_, slot, channel, held, same, pending, live, by simpa using valid, member⟩
      · rw [DynamicChannel.stage_pending slotOk pending, live]
        rfl
      · simp [DynamicChannel.stage, notOpen, notClosing]
    · exact .inl rfl

end Calls

section Messages

variable {π : Type} {hooks : DynamicHooks π} {peer peer' : DynamicPeer π} {channelId : UInt32}
  {wire : Bytes} {answer : DynamicAnswer}

theorem handleDynamicMessage_create (joined : Joined peer) {header : DynamicHeader}
    (isHeader : parseHeader wire = .ok header) (create : header.command = cmdCreate) :
    handleDynamicMessage hooks peer wire = .ok (handleCreateMessage hooks peer wire) := by
  simp only [handleDynamicMessage, isHeader, create, joined.ready]
  rfl

theorem handleDynamicMessage_close (joined : Joined peer) {pdu : ClosePdu}
    (parsed : parseClose wire = .ok pdu) :
    handleDynamicMessage hooks peer wire = handleClose peer wire := by
  obtain ⟨header, isHeader, close, _⟩ := parseClose_inv parsed
  simp only [handleDynamicMessage, isHeader, close, joined.ready]
  rfl

theorem sendCreateResponse_sent (sends : SendsAll hooks) (joined : Joined peer)
    {request : CreateRequest} (width : request.channelIdBytes = numberWidth request.channelId.toNat)
    (statusCode : UInt32) :
    ∃ wire rest, sendCreateResponse hooks peer request statusCode = ([wire], { peer with rest }) ∧
      Reads wire
        (request.channelId, if statusCode = createStatusOk then .accepted else .refused) := by
  obtain ⟨wire, wrote, reads⟩ := writeCreateResponse_reads width statusCode
  obtain ⟨rest, sent⟩ := sendDynamicPacket_sent sends joined wire
  exact ⟨wire, rest, by simp only [sendCreateResponse, wrote, sent], reads⟩

theorem admitCreate_turned (sends : SendsAll hooks) (joined : Joined peer) {request : CreateRequest}
    (width : request.channelIdBytes = numberWidth request.channelId.toNat)
    (free : peer.stage request.channelId = .free)
    (result : admitCreate hooks peer request = (answer, peer')) :
    ∃ reply, answer.sent = [reply] ∧
      (Reads reply (request.channelId, .accepted) ∧ Turned peer request.channelId .opened peer' ∨
        Reads reply (request.channelId, .refused) ∧ Turned peer request.channelId .free peer') := by
  have ok := (@admitCreate_moved _ hooks peer (fun _ => True) request trivial).table.ok joined.table
  rw [result] at ok
  have stays : ∀ rest, Turned peer request.channelId .free { peer with rest } := by
    intro rest
    have same := @Turned.same _ _ request.channelId joined rest
    rw [free] at same
    exact same
  have refuses : ∀ (before : DynamicPeer π), (∃ rest, before = { peer with rest }) →
      ∃ reply rest, sendCreateResponse hooks before request createStatusNotSupported =
          ([reply], { peer with rest }) ∧ Reads reply (request.channelId, .refused) := by
    rintro _ ⟨rest, rfl⟩
    exact sendCreateResponse_sent sends (stays rest).joined width createStatusNotSupported
  unfold admitCreate at result
  split at result
  · obtain ⟨reply, rest, sent, reads⟩ := refuses peer ⟨peer.rest, rfl⟩
    simp only [sent] at result
    cases result
    exact ⟨reply, rfl, .inr ⟨reads, stays rest⟩⟩
  rw [findDynamicChannelAny_none free] at result
  obtain ⟨agreed, rest, asked⟩ := @acceptCreate_rest _ hooks peer request
  simp only [Option.isSome_none, Bool.false_eq_true, if_false, asked] at result
  split at result
  · obtain ⟨reply, rest', sent, reads⟩ := refuses { peer with rest } ⟨rest, rfl⟩
    simp only [sent] at result
    cases result
    exact ⟨reply, rfl, .inr ⟨reads, stays rest'⟩⟩
  cases allocated : allocateDynamicChannel peer with
  | none =>
    obtain ⟨reply, rest', sent, reads⟩ := refuses { peer with rest } ⟨rest, rfl⟩
    have same : allocateDynamicChannel { peer with rest } = none := allocated
    simp only [same, sent] at result
    cases result
    exact ⟨reply, rfl, .inr ⟨reads, stays rest'⟩⟩
  | some found =>
    obtain ⟨slot, old⟩ := found
    obtain ⟨reply, rest', sent, reads⟩ :=
      @sendCreateResponse_sent _ hooks _ sends (stays rest).joined _ width createStatusOk
    have same : allocateDynamicChannel { peer with rest } = some (slot, old) := allocated
    simp only [same, sent] at result
    cases result
    exact ⟨reply, rfl, .inl ⟨reads,
      turned_set joined (rewrites_taken free allocated rfl) ok (fun _ => width)⟩⟩

theorem request_turned (sends : SendsAll hooks) (joined : Joined peer)
    (reads : Reads wire (channelId, .request)) (free : peer.stage channelId = .free)
    (result : handleDynamicMessage hooks peer wire = .ok (answer, peer')) :
    ∃ reply, answer.sent = [reply] ∧
      (Reads reply (channelId, .accepted) ∧ Turned peer channelId .opened peer' ∨
        Reads reply (channelId, .refused) ∧ Turned peer channelId .free peer') := by
  cases reads with
  | @request request parsed width =>
    obtain ⟨header, isHeader, create, about⟩ := parseCreateRequest_inv parsed
    have asked : handleCreateMessage hooks peer wire = admitCreate hooks peer request := by
      unfold handleCreateMessage handleCreate
      rw [parsed]
      cases isResponse : parseCreateResponse wire with
      | error => rfl
      | ok response =>
        -- nothing is pending under the id, so the PDU is not taken for an answer
        obtain ⟨_, _, _, about'⟩ := parseCreateResponse_inv isResponse
        rw [about] at about'
        simp only [findPendingDynamicChannel, ← Option.some.inj about',
          findDynamicChannelAny_none free, Option.filter_none]
    rw [handleDynamicMessage_create joined isHeader create, asked] at result
    exact admitCreate_turned sends joined width free (Except.ok.inj result)

theorem accepted_turned (joined : Joined peer) (reads : Reads wire (channelId, .accepted))
    (waits : peer.stage channelId = .pending ∨ peer.stage channelId = .cancelled)
    (result : handleDynamicMessage hooks peer wire = .ok (answer, peer')) :
    answer.sent = [] ∧
      (peer.stage channelId = .pending ∧ Turned peer channelId .opened peer' ∨
        peer.stage channelId = .cancelled ∧ Turned peer channelId .free peer') := by
  obtain ⟨_, taken, moved⟩ := @handleDynamicMessage_moved _ hooks peer joined.table wire
  rw [result] at taken
  cases taken
  have ok := moved.table.ok joined.table
  cases reads with
  | @accepted response parsed width agrees =>
    obtain ⟨header, isHeader, create, _⟩ := parseCreateResponse_inv parsed
    rw [handleDynamicMessage_create joined isHeader create] at result
    have result := Except.ok.inj result
    cases found : findDynamicChannelAny peer response.channelId with
    | none =>
      have free : peer.stage response.channelId = .free := by
        rw [DynamicPeer.stage, ← findDynamicChannelAny_slotOf, found]
        rfl
      simp [free] at waits
    | some pair =>
      obtain ⟨slot, channel⟩ := pair
      obtain ⟨held, used, same, stage⟩ := findDynamicChannelAny_some found
      rw [stage] at waits ⊢
      have slotOk := joined.table.slots held
      obtain ⟨notOpen, notClosing⟩ := DynamicChannel.waits_flags waits
      have pending : channel.pendingOpen = true := by
        simpa [DynamicChannel.used, notOpen, notClosing] using used
      have isPending : findPendingDynamicChannel peer response.channelId = some (slot, channel) := by
        rw [findPendingDynamicChannel, found, Option.filter_some, if_pos pending]
      simp only [handleCreateMessage, parsed, isPending, handleCreateResponse] at result
      rw [DynamicChannel.stage_pending slotOk pending]
      cases cancelled : channel.cancelledOpen with
      | true =>
        simp only [cancelled, if_true] at result
        cases result
        exact ⟨rfl, .inr ⟨rfl, turned_cleared joined held used same ok⟩⟩
      | false =>
        have live : ¬channel.cancelledOpen = true := by
          rw [cancelled]
          exact Bool.false_ne_true
        rw [if_neg live, if_neg (fun differs => differs agrees)] at result
        cases result
        let opened : DynamicChannel := { channel with pendingOpen := false, isOpen := true }
        have rewrites : Table.Rewrites DynamicChannel.used DynamicChannel.channelId
          response.channelId peer.channels slot channel opened :=
          rewrites_found held used same (fun _ => same)
        have own : channel.channelIdBytes = numberWidth channel.channelId.toNat :=
          joined.widths held used
        have kept : opened.WidthOk := fun _ => own
        exact ⟨rfl, .inl ⟨rfl, turned_set joined rewrites ok kept⟩⟩

theorem close_turned (joined : Joined peer) (reads : Reads wire (channelId, .close))
    (result : handleDynamicMessage hooks peer wire = .ok (answer, peer')) :
    answer.sent = [] ∧ Turned peer channelId (peer.stage channelId).afterClose peer' := by
  obtain ⟨_, taken, moved⟩ := @handleDynamicMessage_moved _ hooks peer joined.table wire
  rw [result] at taken
  cases taken
  have ok := moved.table.ok joined.table
  cases reads with
  | @close pdu parsed width =>
    rw [handleDynamicMessage_close joined parsed] at result
    simp only [handleClose, parsed] at result
    cases found : findDynamicChannelAny peer pdu.channelId with
    | none =>
      have free : peer.stage pdu.channelId = .free := by
        rw [DynamicPeer.stage, ← findDynamicChannelAny_slotOf, found]
        rfl
      rw [found] at result
      cases result
      have stays := @Turned.same _ _ pdu.channelId joined peer.rest
      rw [free] at stays ⊢
      exact ⟨rfl, stays⟩
    | some pair =>
      obtain ⟨slot, channel⟩ := pair
      obtain ⟨held, used, same, stage⟩ := findDynamicChannelAny_some found
      have slotOk := joined.table.slots held
      have stays := @Turned.same _ _ pdu.channelId joined peer.rest
      rw [stage] at stays ⊢
      simp only [found] at result
      cases isClosing : channel.closing with
      | true =>
        have notOpen := slotOk.closing_alone isClosing
        simp only [isClosing, if_true, pure_eq_ok] at result
        cases result
        rw [DynamicChannel.stage_closing isClosing notOpen]
        exact ⟨rfl, turned_cleared joined held used same ok⟩
      | false =>
        cases isOpen : channel.isOpen with
        | true =>
          have notPending := (slotOk.openAlone isOpen).1
          simp only [isClosing, isOpen, notPending, Bool.false_eq_true, if_false, Bool.not_true,
            or_self, ok_bind, pure_eq_ok,
            checkedSub_of_le (joined.table.open_counted held isOpen)] at result
          cases result
          rw [DynamicChannel.stage_opened isOpen]
          exact ⟨rfl, turned_cleared joined held used same ok⟩
        | false =>
          have pending : channel.pendingOpen = true := by
            simpa [DynamicChannel.used, isOpen, isClosing] using used
          simp only [isClosing, isOpen, Bool.false_eq_true, if_false, Bool.not_false, true_or,
            if_true, pure_eq_ok] at result
          cases result
          rw [DynamicChannel.stage_pending slotOk pending] at stays ⊢
          cases cancelled : channel.cancelledOpen <;> rw [cancelled] at stays <;> exact ⟨rfl, stays⟩

end Messages

end LibRdp.Server
