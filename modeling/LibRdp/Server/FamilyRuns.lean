import LibRdp.Server.FamilyDevices

/-! # Families stay open through runs that spare their carriers

Each mark is made where something carries a family or ceases to. A run in which no step
takes away the record of a family that something else still carries keeps every record
true to its carriers.
-/

namespace LibRdp.Server

open Machine Machine.Table Channels

section Steps

variable {π : Type} {hooks : DynamicHooks π} {peer peer' : ExtensionPeer π}

theorem Covered.of_none (opens : ∀ family, openCarriers peer family = 0)
    (pendings : ∀ family, pendingCarriers peer family = 0) : Covered peer := by
  intro family _
  rw [opens, pendings]
  exact .none _

theorem resetEvents_named (start : Nat) (channels : List DynamicChannel) {event : DynamicEvent}
    (raised : event ∈ resetEvents start channels) :
    ∃ channel ∈ channels, channel.used = true ∧ event.name = channel.name := by
  induction channels generalizing start with
  | nil => exact absurd raised List.not_mem_nil
  | cons channel rest ih =>
    have later : ∀ {start}, event ∈ resetEvents start rest →
        ∃ channel' ∈ channel :: rest, channel'.used = true ∧ event.name = channel'.name := by
      intro start raised
      obtain ⟨channel', held, used⟩ := ih start raised
      exact ⟨channel', .tail _ held, used⟩
    unfold resetEvents at raised
    split at raised
    · rename_i used
      cases raised with
      | head => exact ⟨channel, List.mem_cons_self, used, rfl⟩
      | tail _ raised => exact later raised
    · exact later raised

theorem blankChannels_countP {channels : List DynamicChannel} {p : DynamicChannel → Bool}
    (blank : p {} = false) : (channels.map fun _ => ({} : DynamicChannel)).countP p = 0 := by
  rw [List.countP_eq_zero]
  intro channel held
  obtain ⟨_, _, rfl⟩ := List.mem_map.mp held
  rw [blank]
  exact Bool.false_ne_true

theorem foldl_markEvent_covered {events : List DynamicEvent} (covered : Covered peer)
    (closes : ∀ event ∈ events, event.type = .closed ∧
      openCarriers peer (extensionClassifyName event.name) +
        pendingCarriers peer (extensionClassifyName event.name) = 0) :
    Covered (events.foldl markEvent peer) := by
  induction events generalizing peer with
  | nil => exact covered
  | cons event rest ih =>
    obtain ⟨closed, none⟩ := closes event List.mem_cons_self
    rw [List.foldl_cons]
    have marked : markEvent peer event = peer.markClose (extensionClassifyName event.name) := by
      rw [markEvent, closed]
    rw [marked]
    apply ih
    · exact covered.markClose rfl (fun other _ => .of_eq rfl rfl) (fun _ => none)
    · exact fun event held => closes event (.tail _ held)

theorem resetDynamicChannels_covered (covered : Covered peer) {emitCloseEvents : Bool}
    (spares : SparesCarriers hooks peer (.resetChannels emitCloseEvents)) :
    Covered (noteEvents peer (resetDynamicChannels peer.table emitCloseEvents)).2 := by
  have pendings : ∀ family, pendingCarriers
      { peer with table := (resetDynamicChannels peer.table emitCloseEvents).2 } family = 0 :=
    fun _ => blankChannels_countP rfl
  have opens : ∀ family, openCarriers
      { peer with table := (resetDynamicChannels peer.table emitCloseEvents).2 } family =
        peer.redirection.drive.devices.countP (·.carries family) := by
    intro family
    refine Eq.trans ?_ (Nat.zero_add _)
    exact congrArg (· + peer.redirection.drive.devices.countP (·.carries family))
      (blankChannels_countP rfl)
  apply foldl_markEvent_covered
  · refine Covered.fewer covered (fun _ => rfl) ?_
    intro family
    constructor
    · rw [opens]
      exact Nat.le_add_left _ _
    · rw [pendings]
      exact Nat.zero_le _
  · intro event raised
    cases emitCloseEvents with
    | false => exact absurd raised List.not_mem_nil
    | true =>
      refine ⟨resetEvents_closed 0 _ event raised, ?_⟩
      obtain ⟨channel, held, used, named⟩ := resetEvents_named 0 _ raised
      rw [opens, pendings, named, Nat.add_zero, List.countP_eq_zero]
      intro device inside
      rw [spares rfl channel held used device inside]
      exact Bool.false_ne_true

variable {family : ExtensionFamily}

theorem ExtensionFamily.code_inj {other : ExtensionFamily} (same : family.code = other.code) :
    family = other := by
  rw [← ExtensionFamily.ofNat_ctorIdx family, ← ExtensionFamily.ofNat_ctorIdx other]
  exact congrArg ExtensionFamily.ofNat same

theorem familyHooks_valid (valid : family.valid = true) :
    (familyHooks hooks).familyValid family.code = true := by
  cases family with
  | unknown => cases valid
  | _ => rfl

theorem DynamicChannel.cancelled_carries (family other : ExtensionFamily)
    (channel : DynamicChannel) :
    (channel.cancelled (familyHooks hooks) family.code).carries other = channel.carries other ∧
      (channel.cancelled (familyHooks hooks) family.code).seeks other =
        (channel.seeks other && other != family) := by
  unfold DynamicChannel.cancelled
  split
  · rename_i idle
    refine ⟨rfl, ?_⟩
    simp only [Bool.or_eq_true, Bool.not_eq_true'] at idle
    simp only [DynamicChannel.seeks]
    cases idle with
    | inl idle => simp [idle]
    | inr idle => simp [idle]
  split
  · rename_i same
    refine ⟨rfl, ?_⟩
    have own : extensionClassifyName channel.name = family := ExtensionFamily.code_inj same
    by_cases apart : other = family
    · simp [DynamicChannel.seeks, apart]
    have differs : (extensionClassifyName channel.name == other) = false := by
      rw [own, beq_eq_false_iff_ne]
      exact fun same => apart same.symm
    simp [DynamicChannel.seeks, differs]
  rename_i differs
  refine ⟨rfl, ?_⟩
  by_cases apart : other = family
  · have other' : (extensionClassifyName channel.name == other) = false := by
      rw [apart, beq_eq_false_iff_ne]
      exact fun same => differs (congrArg ExtensionFamily.code same)
    simp [DynamicChannel.seeks, other']
  · simp [apart]

theorem cancelExtension_covered (covered : Covered peer) (family : ExtensionFamily) :
    Covered (cancelExtension hooks peer family).2 := by
  unfold cancelExtension
  split
  · exact covered
  rename_i valid
  split
  · exact covered
  simp only [Bool.not_eq_true', Bool.not_eq_false] at valid
  have channels : (cancelPendingFamily (familyHooks hooks) peer.table family.code).channels =
      peer.table.channels.map (DynamicChannel.cancelled (familyHooks hooks) family.code) := by
    simp only [cancelPendingFamily, familyHooks_valid valid, Bool.not_true, Bool.false_eq_true,
      if_false]
  have opens : ∀ other, (cancelPendingFamily (familyHooks hooks) peer.table
      family.code).channels.countP (·.carries other) =
        peer.table.channels.countP (·.carries other) := by
    intro other
    rw [channels, List.countP_map]
    apply List.countP_congr
    intro channel _
    exact iff_of_eq (congrArg (· = true)
      (DynamicChannel.cancelled_carries family other channel).1)
  have pendings : ∀ other, (cancelPendingFamily (familyHooks hooks) peer.table
      family.code).channels.countP (·.seeks other) =
        peer.table.channels.countP (fun channel => channel.seeks other && other != family) := by
    intro other
    rw [channels, List.countP_map]
    apply List.countP_congr
    intro channel _
    exact iff_of_eq (congrArg (· = true)
      (DynamicChannel.cancelled_carries family other channel).2)
  apply covered.modify rfl
  · intro other _
    constructor
    · exact Nat.le_of_eq (congrArg (· + _) (opens other))
    · refine Nat.le_trans (Nat.le_of_eq (pendings other)) (List.countP_mono_left ?_)
      intro channel _ both
      exact (Bool.and_eq_true _ _ ▸ both).1
  · intro _ ok
    refine ⟨?_, ?_⟩
    · intro some
      exact ok.isOpen (Nat.lt_of_lt_of_eq some (congrArg (· + _) (opens family)))
    · intro some
      have none := pendings family
      simp only [bne_self_eq_false, Bool.and_false, List.countP_false] at none
      exact absurd (Nat.lt_of_lt_of_eq some none) (Nat.lt_irrefl 0)

variable (covered : Covered peer)
include covered

theorem Covered.recorded {f : ExtensionState → ExtensionState}
    (own : FamilyOk (peer.record family) (openCarriers peer family) (pendingCarriers peer family) →
      FamilyOk (f (peer.record family)) (openCarriers peer family) (pendingCarriers peer family))
    (authPending : Bool) : Covered { peer.mark (·.modify family f) with authPending } := by
  refine Covered.modify covered rfl ?_ ?_
  · exact fun _ _ => .of_eq rfl rfl
  · exact fun _ => own

theorem recordExtensionTimeout_covered
    (spares : SparesCarriers hooks peer (.recordTimeout family)) :
    Covered (recordExtensionTimeout peer family).2 := by
  unfold recordExtensionTimeout
  split
  · exact covered
  split
  · exact covered
  split
  · rename_i auth
    refine Covered.recorded covered ?_ _
    intro ok
    refine ⟨ok.isOpen, ?_⟩
    intro some
    exact absurd (Nat.lt_of_lt_of_eq some (spares auth)) (Nat.lt_irrefl 0)
  · exact covered

theorem receive_covered (family : ExtensionFamily) (staticChannelId : UInt16)
    (dynamicChannelId : UInt32) (priority : Nat) :
    Covered (peer.mark (·.modify family (·.received staticChannelId dynamicChannelId priority))) := by
  refine Covered.recorded covered ?_ peer.authPending
  intro ok
  exact ⟨fun _ => ⟨rfl, rfl⟩, ok.requests⟩

theorem authRedirectionCall_covered (sent : Status) :
    Covered (authRedirectionCall peer sent).2 := by
  unfold authRedirectionCall
  split
  · exact covered
  split
  · refine Covered.recorded covered ?_ _
    intro ok
    exact ⟨ok.isOpen, fun _ => saturate_pos _⟩
  · exact covered

theorem authRedirectionAnswer_covered (spares : SparesCarriers hooks peer .authAnswer) :
    Covered (authRedirectionAnswer peer) := by
  unfold authRedirectionAnswer
  split
  · exact covered
  rename_i waits
  simp only [Bool.not_eq_true', Bool.not_eq_false] at waits
  refine Covered.recorded covered ?_ _
  intro ok
  refine ⟨ok.isOpen, ?_⟩
  intro some
  have requests := ok.requests some
  have more : (peer.record .authRedirection).pendingRequests.toNat ≠ 1 := by
    intro one
    have none := spares waits (UInt32.toNat_inj.mp one)
    exact absurd (Nat.lt_of_lt_of_eq some none) (Nat.lt_irrefl 0)
  rw [decrement_toNat]
  omega

omit covered

theorem connectExtensions_covered (reconnect : Bool) :
    Covered (connectExtensions peer reconnect) := by
  apply Covered.of_none
  · intro family
    simp only [connectExtensions, noteEvents, openCarriers, foldl_markEvent_keeps]
    exact (congrArg₂ (· + ·) (blankChannels_countP rfl) (blankDevices_countP family))
  · intro family
    simp only [connectExtensions, noteEvents, pendingCarriers, foldl_markEvent_keeps]
    exact blankChannels_countP rfl

theorem noteEvents_drive (result : DynamicAnswer × DynamicPeer π) :
    (noteEvents peer result).2.redirection.drive = peer.redirection.drive :=
  (foldl_markEvent_keeps result.1.events { peer with table := result.2 }).2

theorem markRejected_drive (data : Bytes) :
    (markRejected peer data).redirection.drive = peer.redirection.drive := by
  unfold markRejected
  split
  · rfl
  split
  · rfl
  · rfl

structure FamiliesOk (peer : ExtensionPeer π) : Prop where
  covered : Covered peer
  tables : DriveTables peer.redirection.drive

theorem FamiliesOk.of_call {result : Status × ExtensionPeer π} {status : Status}
    (taken : (.ok result : Exec (Status × ExtensionPeer π)) = .ok (status, peer'))
    (covered : Covered result.2) (tables : DriveTables result.2.redirection.drive) :
    FamiliesOk peer' := by
  cases taken
  exact ⟨covered, tables⟩

theorem extensionStep_ok {charset : Charset} (ok : FamiliesOk peer) {input : ExtensionInput π}
    {status : Status} (spares : SparesCarriers hooks peer input)
    (taken : extensionStep charset hooks peer input = .ok (status, peer')) : FamiliesOk peer' := by
  obtain ⟨covered, tables⟩ := ok
  cases input with
  | openChannel channelId priority name =>
    have next := @openFamilyChannel_covered _ hooks _ covered channelId priority name
    have drive : (openFamilyChannel hooks peer channelId priority name).2.redirection.drive =
        peer.redirection.drive := by
      unfold openFamilyChannel
      dsimp only
      split
      · rfl
      · rfl
    rw [← drive] at tables
    exact .of_call taken next tables
  | closeChannel channelId =>
    obtain ⟨result, closed, taken⟩ := bind_eq_ok.mp taken
    have next := closeDynamicChannel_covered covered spares closed
    rw [← noteEvents_drive result] at tables
    exact .of_call taken next tables
  | message data =>
    obtain ⟨result, handled, taken⟩ := bind_eq_ok.mp taken
    have next := handleDynamicMessage_covered covered spares handled
    rw [← markRejected_drive data, ← noteEvents_drive result] at tables
    exact .of_call taken next tables
  | resetChannels emitCloseEvents =>
    have next := resetDynamicChannels_covered covered spares
    rw [← noteEvents_drive (resetDynamicChannels peer.table emitCloseEvents)] at tables
    exact .of_call taken next tables
  | elsewhere active staticChannelId capabilitiesSent rest =>
    cases taken
    exact ⟨covered, tables⟩
  | redirection input =>
    obtain ⟨⟨out, redirection⟩, stepped, taken⟩ := bind_eq_ok.mp taken
    cases taken
    exact ⟨redirectionStep_covered covered tables spares stepped,
      redirectionStep_tables tables stepped⟩
  | cancelExtension family =>
    have next := @cancelExtension_covered _ hooks _ covered family
    have drive : (cancelExtension hooks peer family).2.redirection.drive =
        peer.redirection.drive := by
      unfold cancelExtension
      split
      · rfl
      split
      · rfl
      · rfl
    rw [← drive] at tables
    exact .of_call taken next tables
  | recordTimeout family =>
    have next := recordExtensionTimeout_covered covered spares
    have drive : (recordExtensionTimeout peer family).2.redirection.drive =
        peer.redirection.drive := by
      unfold recordExtensionTimeout
      split
      · rfl
      split
      · rfl
      split
      · rfl
      · rfl
    rw [← drive] at tables
    exact .of_call taken next tables
  | receive family staticChannelId dynamicChannelId priority =>
    cases taken
    exact ⟨receive_covered covered family staticChannelId dynamicChannelId priority, tables⟩
  | join name channelId =>
    cases taken
    refine ⟨?_, tables⟩
    refine Covered.markOpen covered rfl ?_ (Nat.le_refl _) spares
    exact fun _ _ => .of_eq rfl rfl
  | authCall sent =>
    have next := authRedirectionCall_covered covered sent
    have drive : (authRedirectionCall peer sent).2.redirection.drive =
        peer.redirection.drive := by
      unfold authRedirectionCall
      split
      · rfl
      split
      · rfl
      · rfl
    rw [← drive] at tables
    exact .of_call taken next tables
  | authAnswer =>
    have next := authRedirectionAnswer_covered covered spares
    have drive : (authRedirectionAnswer peer).redirection.drive = peer.redirection.drive := by
      unfold authRedirectionAnswer
      split
      · rfl
      · rfl
    rw [← drive] at tables
    exact .of_call taken next tables
  | connect reconnect =>
    have next := @connectExtensions_covered _ peer reconnect
    have drive : (connectExtensions peer reconnect).redirection.drive =
        (driveStateReset peer.redirection.drive reconnect).2 := noteEvents_drive _
    have tables := driveTables_reset peer.redirection.drive reconnect
    rw [← drive] at tables
    exact .of_call taken next tables

end Steps

theorem freeChannels_countP {size : Nat} {p : DynamicChannel → Bool} (blank : p {} = false) :
    (List.replicate size ({} : DynamicChannel)).countP p = 0 := by
  rw [List.countP_replicate, blank, if_neg Bool.false_ne_true]

/-- In every run whose steps spare the carriers of a family, the record of each family is open and
    active while a channel or a device carries it, and has a request while an open waits. -/
theorem families_stay_open {π : Type} (charset : Charset) (hooks : DynamicHooks π) (rest : π)
    (accepted : RedirectionPeer) {peer : ExtensionPeer π}
    (reached : ReachableWithin (extensionStep charset hooks) (SparesCarriers hooks)
      (extensionStart rest accepted) peer) : FamiliesOpen peer := by
  have start : FamiliesOk (extensionStart rest accepted) := by
    refine ⟨Covered.of_none ?_ ?_, driveTables_reset _ false⟩
    · intro family
      refine congrArg₂ (· + ·) ?_ (blankDevices_countP family)
      exact freeChannels_countP rfl
    · intro family
      exact freeChannels_countP rfl
  have ok := reached.invariant FamiliesOk start fun _ _ _ _ ok spares taken =>
    extensionStep_ok ok spares taken
  exact ok.covered.familiesOpen

def createVideo (channelId : UInt8) : Bytes := [0x10, channelId] ++ nameBytes "TSMF" ++ [0]

theorem families_stay_open_video :
    ∃ peer : ExtensionPeer Unit, FamiliesOpen peer ∧
      peer.table.channels.countP (fun channel => channel.isOpen &&
        extensionClassifyName channel.name == .video) = 2 ∧
      (peer.record .video).isOpen = true := by
  have started : ReachableWithin (extensionStep noCharset plainHooks) (SparesCarriers plainHooks)
      (extensionStart () driveServer) _ :=
    .step .init (i := ExtensionInput.elsewhere true 1004 true ()) trivial rfl
  have ready : ReachableWithin (extensionStep noCharset plainHooks) (SparesCarriers plainHooks)
      (extensionStart () driveServer) _ :=
    .step started (i := ExtensionInput.message [0x50, 0, 1, 0]) ⟨nofun, nofun, nofun, nofun⟩ rfl
  have one : ReachableWithin (extensionStep noCharset plainHooks) (SparesCarriers plainHooks)
      (extensionStart () driveServer) _ :=
    .step ready (i := ExtensionInput.message (createVideo 7))
      ⟨fun _ about last => (by cases about; rfl), nofun, nofun, nofun⟩ rfl
  have two : ReachableWithin (extensionStep noCharset plainHooks) (SparesCarriers plainHooks)
      (extensionStart () driveServer) _ :=
    .step one (i := ExtensionInput.message (createVideo 8))
      ⟨fun _ about last => (by cases about; rfl), nofun, nofun, nofun⟩ rfl
  exact ⟨_, families_stay_open noCharset plainHooks () driveServer two, rfl, rfl⟩

/-- The client closes the second of two channels for video, and the record of the family is closed
    although the first is open. -/
theorem closing_one_video_closes_family :
    ∃ peer, Reachable (extensionStep noCharset plainHooks) (extensionStart () driveServer) peer ∧
      ¬ FamiliesOpen peer := by
  have started : Reachable (extensionStep noCharset plainHooks) (extensionStart () driveServer) _ :=
    .step .init (i := .elsewhere true 1004 true ()) rfl
  have ready : Reachable (extensionStep noCharset plainHooks) (extensionStart () driveServer) _ :=
    .step started (i := .message [0x50, 0, 1, 0]) rfl
  have one : Reachable (extensionStep noCharset plainHooks) (extensionStart () driveServer) _ :=
    .step ready (i := .message (createVideo 7)) rfl
  have two : Reachable (extensionStep noCharset plainHooks) (extensionStart () driveServer) _ :=
    .step one (i := .message (createVideo 8)) rfl
  have closed : Reachable (extensionStep noCharset plainHooks) (extensionStart () driveServer) _ :=
    .step two (i := .message [0x40, 8]) rfl
  refine ⟨_, closed, ?_⟩
  intro families
  have still := (families .video rfl).1
    (.inl ⟨_, List.mem_of_getElem? (rfl : _[0]? = some _), rfl, rfl⟩)
  exact absurd still.1 (by decide)

end LibRdp.Server
