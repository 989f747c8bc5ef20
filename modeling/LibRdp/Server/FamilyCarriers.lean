import LibRdp.Server.ExtensionFamilies
import LibRdp.Server.DynamicTable

/-! # A family is open while something carries it

The carriers of a family are counted: open channels and registered devices on the one hand,
opens that wait for an answer on the other. A mark that closes the record of a family, or that
takes its last request, is harmless if no other carrier is left.
-/

namespace LibRdp.Server

open Machine Machine.Table Channels

/-- An open channel of a family, an open that waits for an answer, and a device of a family. -/
def DynamicChannel.carries (family : ExtensionFamily) (channel : DynamicChannel) : Bool :=
  channel.isOpen && extensionClassifyName channel.name == family

def DynamicChannel.seeks (family : ExtensionFamily) (channel : DynamicChannel) : Bool :=
  channel.pendingOpen && !channel.cancelledOpen && extensionClassifyName channel.name == family

def RedirectedDevice.carries (family : ExtensionFamily) (device : RedirectedDevice) : Bool :=
  device.present && redirectedDeviceFamily device.deviceType == family

section Carriers

variable {π : Type}

def openCarriers (peer : ExtensionPeer π) (family : ExtensionFamily) : Nat :=
  peer.table.channels.countP (·.carries family) +
    peer.redirection.drive.devices.countP (·.carries family)

def pendingCarriers (peer : ExtensionPeer π) (family : ExtensionFamily) : Nat :=
  peer.table.channels.countP (·.seeks family)

def ExtensionPeer.record (peer : ExtensionPeer π) (family : ExtensionFamily) : ExtensionState :=
  peer.redirection.extensions family

/-- A family with an open channel or a registered device is open and active, and one with an open
    that waits and was not cancelled has a pending request. -/
def FamiliesOpen (peer : ExtensionPeer π) : Prop :=
  ∀ family : ExtensionFamily, family.valid = true →
    ((∃ channel ∈ peer.table.channels,
        channel.isOpen = true ∧ extensionClassifyName channel.name = family) ∨
      (∃ device ∈ peer.redirection.drive.devices,
        device.present = true ∧ redirectedDeviceFamily device.deviceType = family) →
      (peer.record family).isOpen = true ∧ (peer.record family).active = true) ∧
    ((∃ channel ∈ peer.table.channels, channel.pendingOpen = true ∧
        channel.cancelledOpen = false ∧ extensionClassifyName channel.name = family) →
      1 ≤ (peer.record family).pendingRequests)

def SoleCarrier (peer : ExtensionPeer π) (family : ExtensionFamily) : Prop :=
  family.valid = true → openCarriers peer family + pendingCarriers peer family = 1

def LastRequest (peer : ExtensionPeer π) (family : ExtensionFamily) : Prop :=
  (peer.record family).pendingOpen = true ∧ (peer.record family).pendingRequests = 1

structure MessageSpares (hooks : DynamicHooks π) (peer : ExtensionPeer π) (data : Bytes) :
    Prop where
  created : ∀ request, acceptedCreate (familyHooks hooks) peer.table data = some request →
    LastRequest peer (extensionClassifyName request.name) →
    pendingCarriers peer (extensionClassifyName request.name) = 0
  opened : ∀ response slot channel,
    answeredOpen peer.table data = some (response, slot, channel) →
    channel.cancelledOpen = false → response.statusCode = createStatusOk →
    LastRequest peer (extensionClassifyName channel.name) →
    pendingCarriers peer (extensionClassifyName channel.name) = 1
  rejected : ∀ response slot channel,
    answeredOpen peer.table data = some (response, slot, channel) →
    channel.cancelledOpen = false → response.statusCode ≠ createStatusOk →
    SoleCarrier peer (extensionClassifyName channel.name)
  closed : ∀ slot channel, closedChannel peer.table data = some (slot, channel) →
    SoleCarrier peer (extensionClassifyName channel.name)

structure DevicesSpare (peer : ExtensionPeer π) (data : Bytes) : Prop where
  announced : ∀ list, deviceParseDeviceListAnnounce data = .ok list → ∀ announce ∈ list,
    LastRequest peer (redirectedDeviceFamily announce.deviceType) →
    pendingCarriers peer (redirectedDeviceFamily announce.deviceType) = 0
  removed : ∀ ids, deviceParseDeviceRemove data = .ok ids →
    ∀ device ∈ peer.redirection.drive.devices, device.present = true → device.deviceId ∈ ids →
    (∀ channel ∈ peer.table.channels,
      channel.carries (redirectedDeviceFamily device.deviceType) = false ∧
      channel.seeks (redirectedDeviceFamily device.deviceType) = false) ∧
    ∀ other ∈ peer.redirection.drive.devices,
      other.carries (redirectedDeviceFamily device.deviceType) = true → other.deviceId ∈ ids

/-- A step does not close a family that something else still carries, nor take its last request
    while another open waits. -/
def SparesCarriers (hooks : DynamicHooks π) (peer : ExtensionPeer π) : ExtensionInput π → Prop
  | .closeChannel channelId => ∀ slot channel packet, peer.table.active = true →
      findDynamicChannel peer.table channelId = some (slot, channel) →
      writeClose channelId channel.channelIdBytes = .ok packet →
      (sendDynamicPacket (familyHooks hooks) peer.table packet).1 = .ok →
      SoleCarrier peer (extensionClassifyName channel.name)
  | .message data => MessageSpares hooks peer data
  | .resetChannels emitCloseEvents => emitCloseEvents = true →
      ∀ channel ∈ peer.table.channels, channel.used = true →
      ∀ device ∈ peer.redirection.drive.devices,
        device.carries (extensionClassifyName channel.name) = false
  | .redirection (.message channelId data _) =>
      peer.redirection.announceSent = true → channelId = peer.redirection.channelId →
      peer.redirection.ready = true → DevicesSpare peer data
  | .join name _ => LastRequest peer (extensionClassifyName name) →
      pendingCarriers peer (extensionClassifyName name) = 0
  | .recordTimeout family => family = .authRedirection → pendingCarriers peer family = 0
  | .authAnswer => peer.authPending = true →
      (peer.record .authRedirection).pendingRequests = 1 →
      pendingCarriers peer .authRedirection = 0
  | _ => True

structure FamilyOk (state : ExtensionState) (opens pendings : Nat) : Prop where
  isOpen : 0 < opens → state.isOpen = true ∧ state.active = true
  requests : 0 < pendings → 0 < state.pendingRequests.toNat

def Covered (peer : ExtensionPeer π) : Prop :=
  ∀ family : ExtensionFamily, family.valid = true →
    FamilyOk (peer.record family) (openCarriers peer family) (pendingCarriers peer family)

theorem Covered.familiesOpen {peer : ExtensionPeer π} (covered : Covered peer) :
    FamiliesOpen peer := by
  intro family valid
  have ok := covered family valid
  refine ⟨?_, ?_⟩
  · intro carried
    apply ok.isOpen
    cases carried with
    | inl held =>
      obtain ⟨channel, inside, isOpen, same⟩ := held
      have some := List.countP_pos_iff.mpr
        ⟨channel, inside, show channel.carries family = true by
          simp [DynamicChannel.carries, isOpen, same]⟩
      exact Nat.lt_of_lt_of_le some (Nat.le_add_right _ _)
    | inr held =>
      obtain ⟨device, inside, present, same⟩ := held
      have some := List.countP_pos_iff.mpr
        ⟨device, inside, show device.carries family = true by
          simp [RedirectedDevice.carries, present, same]⟩
      exact Nat.lt_of_lt_of_le some (Nat.le_add_left _ _)
  · rintro ⟨channel, inside, pending, live, same⟩
    have some := List.countP_pos_iff.mpr
      ⟨channel, inside, show channel.seeks family = true by
        simp [DynamicChannel.seeks, pending, live, same]⟩
    exact UInt32.le_iff_toNat_le.mpr (ok.requests some)

section Marks

variable {state : ExtensionState} {opens pendings opens' pendings' : Nat}

theorem FamilyOk.fewer (ok : FamilyOk state opens pendings) (opens : opens' ≤ opens)
    (pendings : pendings' ≤ pendings) : FamilyOk state opens' pendings' :=
  ⟨fun some => ok.isOpen (by omega), fun some => ok.requests (by omega)⟩

theorem FamilyOk.none (state : ExtensionState) : FamilyOk state 0 0 := ⟨nofun, nofun⟩

theorem FamilyOk.opened (ok : FamilyOk state opens pendings) {staticChannelId : UInt16}
    {dynamicChannelId : UInt32} {priority : Nat} (fewer : pendings' ≤ pendings)
    (last : state.pendingOpen = true ∧ state.pendingRequests = 1 → pendings' = 0) :
    FamilyOk (state.opened staticChannelId dynamicChannelId priority) opens' pendings' := by
  refine ⟨fun _ => ⟨rfl, rfl⟩, ?_⟩
  intro some
  have requests := ok.requests (by omega)
  simp only [ExtensionState.opened]
  split
  · rename_i takes
    have more : state.pendingRequests ≠ 1 := fun one => by
      have := last ⟨takes.1, one⟩
      omega
    have apart : state.pendingRequests.toNat ≠ 1 := fun one => more (UInt32.toNat_inj.mp one)
    have one : (1 : UInt32) ≤ state.pendingRequests := UInt32.le_iff_toNat_le.mpr requests
    have : (1 : UInt32).toNat = 1 := rfl
    rw [UInt32.toNat_sub_of_le _ _ one]
    omega
  · exact requests

theorem saturate_pos (count : UInt32) : 0 < (saturate count).toNat := by
  unfold saturate
  split
  · rename_i below
    have small := count.toNat_lt
    have apart : count.toNat ≠ 4294967295 := fun most => below (UInt32.toNat_inj.mp most)
    rw [UInt32.toNat_add, Nat.mod_eq_of_lt]
    · exact Nat.succ_pos _
    · have : (1 : UInt32).toNat = 1 := rfl
      omega
  rename_i most
  rw [Decidable.not_not.mp most]
  decide

theorem FamilyOk.pending (ok : FamilyOk state opens pendings) {dynamicChannelId : UInt32}
    {priority : Nat} (fewer : opens' ≤ opens) :
    FamilyOk (state.pending dynamicChannelId priority) opens' pendings' :=
  ⟨fun some => ok.isOpen (by omega), fun _ => saturate_pos _⟩

end Marks

section Peers

variable {peer peer' : ExtensionPeer π} {family : ExtensionFamily}

structure FewerCarriers (peer peer' : ExtensionPeer π) (family : ExtensionFamily) : Prop where
  opens : openCarriers peer' family ≤ openCarriers peer family
  pendings : pendingCarriers peer' family ≤ pendingCarriers peer family

variable (covered : Covered peer)
include covered

theorem Covered.fewer (records : ∀ family, peer'.record family = peer.record family)
    (fewer : ∀ family, FewerCarriers peer peer' family) : Covered peer' := by
  intro family valid
  rw [records]
  exact (covered family valid).fewer (fewer family).opens (fewer family).pendings

theorem Covered.modify {f : ExtensionState → ExtensionState}
    (records : peer'.redirection.extensions = peer.redirection.extensions.modify family f)
    (others : ∀ other, other ≠ family → FewerCarriers peer peer' other)
    (own : family.valid = true → FamilyOk (peer.record family) (openCarriers peer family)
        (pendingCarriers peer family) →
      FamilyOk (f (peer.record family)) (openCarriers peer' family) (pendingCarriers peer' family)) :
    Covered peer' := by
  intro other valid
  by_cases same : other = family
  · subst same
    have record : peer'.record other = f (peer.record other) := by
      simp only [ExtensionPeer.record, records, ExtensionStates.modify, valid, and_self, if_true]
    rw [record]
    exact own valid (covered other valid)
  have record : peer'.record other = peer.record other := by
    simp only [ExtensionPeer.record, records, ExtensionStates.modify, same, false_and, if_false]
  rw [record]
  exact (covered other valid).fewer (others other same).opens (others other same).pendings

variable {dynamicChannelId : UInt32} {priority : Nat}

theorem Covered.markOpen {staticChannelId : UInt16}
    (records : peer'.redirection.extensions = extensionStateMarkOpen peer.redirection.extensions
      family staticChannelId dynamicChannelId priority)
    (others : ∀ other, other ≠ family → FewerCarriers peer peer' other)
    (fewer : pendingCarriers peer' family ≤ pendingCarriers peer family)
    (last : LastRequest peer family → pendingCarriers peer' family = 0) : Covered peer' := by
  apply covered.modify records others
  intro _ ok
  exact ok.opened fewer last

theorem Covered.markPendingOpen
    (records : peer'.redirection.extensions = extensionStateMarkPendingOpen
      peer.redirection.extensions family dynamicChannelId priority)
    (others : ∀ other, other ≠ family → FewerCarriers peer peer' other)
    (fewer : openCarriers peer' family ≤ openCarriers peer family) : Covered peer' := by
  apply covered.modify records others
  intro _ ok
  exact ok.pending fewer

theorem Covered.markClose (records : peer'.redirection.extensions =
      extensionStateMarkClose peer.redirection.extensions family)
    (others : ∀ other, other ≠ family → FewerCarriers peer peer' other)
    (none : family.valid = true → openCarriers peer' family + pendingCarriers peer' family = 0) :
    Covered peer' := by
  apply covered.modify records others
  intro valid _
  obtain ⟨opens, pendings⟩ := Nat.add_eq_zero_iff.mp (none valid)
  rw [opens, pendings]
  exact .none _

end Peers

end Carriers

end LibRdp.Server
