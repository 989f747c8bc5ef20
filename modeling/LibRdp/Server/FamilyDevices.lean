import LibRdp.Server.FamilyChannels

/-! # Devices as carriers of a family

A list of removals may close the record of a family before the last of its devices is gone.
What counts is that none of the family is left when the list is through.
-/

namespace LibRdp.Server

open Machine Machine.Table Channels

section Registry

variable {charset : Charset} {drive drive' : DrivePeer}

theorem blankDevices_countP {size : Nat} (family : ExtensionFamily) :
    (List.replicate size ({} : RedirectedDevice)).countP (·.carries family) = 0 := by
  rw [List.countP_eq_zero]
  intro device held
  rw [List.eq_of_mem_replicate held]
  exact Bool.false_ne_true

variable {family : ExtensionFamily}

theorem countP_carries_set {devices : List RedirectedDevice} {i : Nat}
    {old new : RedirectedDevice} (held : devices[i]? = some old)
    (other : new.carries family = false) :
    (devices.set i new).countP (·.carries family) ≤ devices.countP (·.carries family) := by
  have count : (devices.set i new).countP (·.carries family) +
      (if old.carries family then 1 else 0) =
        devices.countP (·.carries family) + (if new.carries family then 1 else 0) :=
    countP_set held
  rw [other] at count
  exact Nat.le_of_add_right_le (Nat.le_of_eq count)

theorem DriveMove.fewer {input : DriveInput} {out : DriveOutput}
    (moved : DriveMove drive input out drive')
    (other : ∀ channelId announce, input = .announce channelId announce →
      family ≠ redirectedDeviceFamily announce.deviceType) :
    drive'.devices.countP (·.carries family) ≤ drive.devices.countP (·.carries family) := by
  cases moved with
  | quiet => exact Nat.le_refl _
  | @added channelId _ announce i old new held free present generation id type =>
    apply countP_carries_set held
    have differs : (redirectedDeviceFamily new.deviceType == family) = false := by
      rw [type, beq_eq_false_iff_ne]
      exact fun same => other _ announce rfl same.symm
    rw [RedirectedDevice.carries, differs, Bool.and_false]
  | dropped found => exact countP_carries_set (hasId_some found).1 rfl
  | removed found _ dropped =>
    rw [dropped]
    exact countP_carries_set (hasId_some found).1 rfl
  | submitted => exact Nat.le_refl _
  | cancelled => exact Nat.le_refl _
  | absorbed => exact Nat.le_refl _
  | completed _ _ _ files =>
    rw [← files.sameDrives.devices]
    exact Nat.le_refl _
  | reset =>
    refine Nat.le_trans (Nat.le_of_eq ?_) (Nat.zero_le _)
    exact blankDevices_countP family

theorem redirectedDeviceRemove_gone (tables : DriveTables drive) {deviceId : UInt32}
    {device : RedirectedDevice} (held : device ∈ (redirectedDeviceRemove drive deviceId).2.devices)
    (present : device.present = true) :
    device ∈ drive.devices ∧ device.deviceId ≠ deviceId := by
  unfold redirectedDeviceRemove at held
  cases found : lookup (·.hasId deviceId) drive.devices with
  | none =>
    rw [found] at held
    refine ⟨held, ?_⟩
    intro same
    obtain ⟨j, atJ⟩ := List.getElem?_of_mem held
    have missed := lookup_none found atJ
    simp [RedirectedDevice.hasId, present, same] at missed
  | some pair =>
    obtain ⟨i, slot⟩ := pair
    obtain ⟨atI, presentI, idI⟩ := hasId_some found
    simp only [found] at held
    have blanked : device ∈ drive.devices.set i {} := by
      by_cases kind : slot.deviceType = deviceTypeFilesystem
      · rw [if_pos kind] at held
        exact held
      · rw [if_neg kind] at held
        exact held
    obtain ⟨j, atJ⟩ := List.getElem?_of_mem blanked
    by_cases here : i = j
    · rw [here, List.getElem?_set_self (List.getElem?_eq_some_iff.mp (here ▸ atI)).1] at atJ
      cases atJ
      cases present
    rw [List.getElem?_set_ne here] at atJ
    refine ⟨List.mem_of_getElem? atJ, ?_⟩
    exact fun same => here (tables.deviceIds atI atJ presentI present (idI.trans same.symm))

end Registry

section Lists

variable {π : Type} {charset : Charset} {peer peer' : ExtensionPeer π}

theorem redirectedDeviceFamily_valid (type : UInt32) :
    (redirectedDeviceFamily type).valid = true := by
  unfold redirectedDeviceFamily
  repeat' split
  all_goals rfl

theorem announceDevices_covered {list : List DeviceAnnounce} (covered : Covered peer)
    (spares : ∀ announce ∈ list, LastRequest peer (redirectedDeviceFamily announce.deviceType) →
      pendingCarriers peer (redirectedDeviceFamily announce.deviceType) = 0)
    (send : ChannelSend) (channelId : UInt16) (i : Nat) :
    Covered { peer with
      redirection := (announceDevices charset send channelId i peer.redirection list).2 } := by
  induction list generalizing i peer with
  | nil => exact covered
  | cons announce rest ih =>
    have later : ∀ other ∈ rest, LastRequest peer (redirectedDeviceFamily other.deviceType) →
        pendingCarriers peer (redirectedDeviceFamily other.deviceType) = 0 :=
      fun other held => spares other (.tail _ held)
    simp only [announceDevices]
    split
    · split
      · exact ih covered later (i + 1)
      · exact covered
    split
    · rename_i events drive stored
      have moved := redirectedDeviceStore_moves stored
      refine @ih { peer with
        redirection := { peer.redirection with
          drive
          extensions := extensionStateMarkOpen peer.redirection.extensions
            (redirectedDeviceFamily announce.deviceType) channelId 0 0 } } ?_ ?_ (i + 1)
      · refine Covered.markOpen covered rfl ?_ (Nat.le_refl _) (spares announce List.mem_cons_self)
        intro other apart
        refine ⟨Nat.add_le_add_left ?_ _, Nat.le_refl _⟩
        apply moved.fewer
        intro _ _ same
        cases same
        exact apart
      · intro other held last
        by_cases same : redirectedDeviceFamily other.deviceType =
            redirectedDeviceFamily announce.deviceType
        · have shut := last.1
          simp only [ExtensionPeer.record, extensionStateMarkOpen, ExtensionStates.modify, same,
            redirectedDeviceFamily_valid, and_self, if_true] at shut
          cases shut
        · refine later other held ?_
          simpa only [LastRequest, ExtensionPeer.record, extensionStateMarkOpen,
            ExtensionStates.modify, same, false_and, if_false] using last
    · exact covered

/-- Only devices carry the family, and all of them are among the ids. -/
def OnlyDevices (peer : ExtensionPeer π) (family : ExtensionFamily) (ids : List UInt32) : Prop :=
  (∀ channel ∈ peer.table.channels,
    channel.carries family = false ∧ channel.seeks family = false) ∧
  ∀ device ∈ peer.redirection.drive.devices, device.carries family = true → device.deviceId ∈ ids

theorem OnlyDevices.none {family : ExtensionFamily} (only : OnlyDevices peer family []) :
    openCarriers peer family = 0 ∧ pendingCarriers peer family = 0 := by
  refine ⟨Nat.add_eq_zero_iff.mpr ⟨?_, ?_⟩, ?_⟩
  · rw [List.countP_eq_zero]
    intro channel held
    rw [(only.1 channel held).1]
    exact Bool.false_ne_true
  · rw [List.countP_eq_zero]
    intro device held carries
    exact absurd (only.2 device held carries) List.not_mem_nil
  · rw [pendingCarriers, List.countP_eq_zero]
    intro channel held
    rw [(only.1 channel held).2]
    exact Bool.false_ne_true

theorem removeDevices_covered {ids : List UInt32} (tables : DriveTables peer.redirection.drive)
    (left : ∀ family : ExtensionFamily, family.valid = true →
      FamilyOk (peer.record family) (openCarriers peer family) (pendingCarriers peer family) ∨
        OnlyDevices peer family ids)
    (spares : ∀ device ∈ peer.redirection.drive.devices, device.present = true →
      device.deviceId ∈ ids → OnlyDevices peer (redirectedDeviceFamily device.deviceType) ids) :
    Covered { peer with redirection := (removeDevices peer.redirection ids).2 } := by
  induction ids generalizing peer with
  | nil =>
    intro family valid
    cases left family valid with
    | inl ok => exact ok
    | inr only =>
      obtain ⟨opens, pendings⟩ := only.none
      have none : FamilyOk (peer.record family) (openCarriers peer family)
          (pendingCarriers peer family) := by
        rw [opens, pendings]
        exact .none _
      exact none
  | cons deviceId rest ih =>
    obtain ⟨left', step, missing, closing⟩ := removeDevices_cons peer.redirection deviceId rest
    rw [step]
    have moved : DriveMove peer.redirection.drive (.remove deviceId) _
        (redirectedDeviceRemove peer.redirection.drive deviceId).2 :=
      redirectedDeviceRemove_moves rfl
    -- what is left of a family whose devices all go
    have shift : ∀ {family : ExtensionFamily} {extensions : ExtensionStates},
        OnlyDevices peer family (deviceId :: rest) →
        OnlyDevices { peer with
          redirection := { peer.redirection with
            drive := (redirectedDeviceRemove peer.redirection.drive deviceId).2
            extensions } } family rest := by
      intro family extensions only
      refine ⟨only.1, ?_⟩
      intro device held carries
      have present : device.present = true := by
        simp only [RedirectedDevice.carries, Bool.and_eq_true] at carries
        exact carries.1
      obtain ⟨before, apart⟩ := redirectedDeviceRemove_gone tables held present
      exact (List.mem_cons.mp (only.2 device before carries)).resolve_left apart
    refine @ih { peer with
      redirection := { peer.redirection with
        drive := (redirectedDeviceRemove peer.redirection.drive deviceId).2
        extensions := left' } } (moved.tables tables) ?_ ?_
    · intro family valid
      cases left family valid with
      | inr only => exact .inr (shift only)
      | inl ok =>
        have fewer : ∀ extensions : ExtensionStates, FewerCarriers peer { peer with
            redirection := { peer.redirection with
              drive := (redirectedDeviceRemove peer.redirection.drive deviceId).2
              extensions } } family :=
          fun _ => ⟨Nat.add_le_add_left (moved.fewer (fun _ _ other => by cases other)) _,
            Nat.le_refl _⟩
        cases found : findRedirectedDevice peer.redirection.drive deviceId with
        | none =>
          rw [missing found]
          exact .inl (ok.fewer (fewer _).opens (fewer _).pendings)
        | some device =>
          obtain ⟨⟨i, device'⟩, found', rfl⟩ := Option.map_eq_some_iff.mp found
          obtain ⟨atI, present, id⟩ := hasId_some found'
          by_cases same : family = redirectedDeviceFamily device'.deviceType
          · have only := spares device' (List.mem_of_getElem? atI) present
              (id ▸ List.mem_cons_self)
            rw [← same] at only
            exact .inr (shift only)
          left
          rw [closing _ found]
          have kept : extensionStateMarkClose peer.redirection.extensions
              (redirectedDeviceFamily device'.deviceType) family = peer.record family := by
            simp only [extensionStateMarkClose, ExtensionStates.modify, same, false_and,
              if_false, ExtensionPeer.record]
          rw [← kept] at ok
          exact ok.fewer (fewer _).opens (fewer _).pendings
    · intro device held present inside
      obtain ⟨before, _⟩ := redirectedDeviceRemove_gone tables held present
      exact shift (spares device before present (.tail _ inside))

end Lists

section Steps

variable {π : Type} {charset : Charset} {hooks : DynamicHooks π} {peer : ExtensionPeer π}

variable {redirection redirection' : RedirectionPeer}

variable {data : Bytes} {input : RedirectionInput}

theorem LifecycleMove.keeps_devices (moved : LifecycleMove data redirection redirection') :
    redirection'.drive = redirection.drive ∧ redirection'.extensions = redirection.extensions := by
  cases moved with
  | same => exact ⟨rfl, rfl⟩
  | confirmed => exact ⟨rfl, rfl⟩
  | named => exact ⟨rfl, rfl⟩
  | received => exact ⟨rfl, rfl⟩

theorem deviceRedirectionStart_keeps (redirection : RedirectionPeer)
    (advertised : List AdvertisedChannel) (random : Option UInt32) (send : ChannelSend) :
    (deviceRedirectionStart redirection advertised random send).2.drive = redirection.drive ∧
      (deviceRedirectionStart redirection advertised random send).2.extensions =
        redirection.extensions := by
  unfold deviceRedirectionStart
  split
  · exact ⟨rfl, rfl⟩
  split
  · exact ⟨rfl, rfl⟩
  dsimp only
  split
  · exact ⟨rfl, rfl⟩
  split
  · exact ⟨rfl, rfl⟩
  split
  · exact ⟨rfl, rfl⟩
  split
  · exact ⟨rfl, rfl⟩
  split
  · exact ⟨rfl, rfl⟩
  · exact ⟨rfl, rfl⟩

variable {send : ChannelSend} {channelId : UInt16} {out : DriveOutput}

theorem handleDeviceRedirectionLifecycle_channel {header : DeviceHeader}
    (core : header.component = componentCore)
    (done : handleDeviceRedirectionLifecycle redirection send channelId data header =
      (.ok, redirection')) :
    redirection.announceSent = true ∧ channelId = redirection.channelId := by
  unfold handleDeviceRedirectionLifecycle at done
  have other : header.component ≠ componentPrinter := by
    rw [core]
    decide
  rw [if_neg other] at done
  split at done
  · cases (Prod.mk.inj done).1
  rename_i passes
  simp only [Bool.not_eq_true', not_or, Bool.not_eq_false, not_not] at passes
  exact passes.2

theorem Covered.fewerDevices (covered : Covered peer)
    (records : redirection.extensions = peer.redirection.extensions)
    (fewer : ∀ family : ExtensionFamily, redirection.drive.devices.countP (·.carries family) ≤
      peer.redirection.drive.devices.countP (·.carries family)) :
    Covered { peer with redirection } := by
  refine Covered.fewer covered ?_ ?_
  · exact fun family => congrFun records family
  · exact fun family => ⟨Nat.add_le_add_left (fewer family) _, Nat.le_refl _⟩

theorem Covered.sameDevices (covered : Covered peer)
    (drive : redirection.drive = peer.redirection.drive)
    (records : redirection.extensions = peer.redirection.extensions) :
    Covered { peer with redirection } := by
  apply covered.fewerDevices records
  intro family
  rw [drive]

theorem updateRedirectedDevices_covered (covered : Covered peer)
    (tables : DriveTables peer.redirection.drive)
    (spares : SparesCarriers hooks peer (.redirection (.message channelId data send))) :
    Covered { peer with
      redirection :=
        (updateRedirectedDevices charset peer.redirection send channelId data).2 } := by
  unfold updateRedirectedDevices
  split
  · exact covered
  rename_i header _ _
  split
  · exact covered
  obtain ⟨⟨status, next⟩, done⟩ : ∃ r,
      handleDeviceRedirectionLifecycle peer.redirection send channelId data header = r :=
    ⟨_, rfl⟩
  obtain ⟨moved, kind⟩ := handleDeviceRedirectionLifecycle_moves done
  obtain ⟨drive, records⟩ := moved.keeps_devices
  have same := covered.sameDevices drive records
  simp only [done]
  split
  · exact same
  rename_i ok
  simp only [not_or, not_not] at ok
  obtain ⟨rfl, core⟩ := ok
  obtain ⟨announced, channel⟩ := handleDeviceRedirectionLifecycle_channel core done
  unfold applyDeviceMessage
  cases kind with
  | inl exchange =>
    have quiet : header.packetId ≠ pakidDeviceListAnnounce ∧
        header.packetId ≠ pakidDeviceListRemove ∧
        header.packetId ≠ pakidDeviceIoCompletion := by
      rcases exchange with kind | kind | kind <;> rw [kind] <;> decide
    rw [if_neg quiet.1, if_neg quiet.2.1, if_neg quiet.2.2]
    exact same
  | inr through =>
    obtain ⟨rfl, ready⟩ := through
    have spared := spares announced channel (ready rfl)
    split
    · split
      · exact covered
      · rename_i list parsed
        exact announceDevices_covered covered (spared.announced list parsed) send channelId 0
    split
    · split
      · exact covered
      · rename_i ids parsed
        exact removeDevices_covered tables (fun family valid => .inl (covered family valid))
          (spared.removed ids parsed)
    split
    · refine Covered.fewerDevices covered rfl ?_
      intro family
      apply (handleCompletion_moves rfl).fewer
      intro _ _ other
      cases other
    · exact covered

theorem redirectionStep_covered (covered : Covered peer)
    (tables : DriveTables peer.redirection.drive)
    (spares : SparesCarriers hooks peer (.redirection input))
    (taken : redirectionStep charset peer.redirection input = .ok (out, redirection)) :
    Covered { peer with redirection } := by
  -- what the application and the connection do to the drives registers nothing
  have calls : ∀ {driveInput : DriveInput} {out : DriveOutput} {drive : DrivePeer},
      (∀ channelId announce, driveInput ≠ .announce channelId announce) →
      DriveMove peer.redirection.drive driveInput out drive →
      Covered { peer with redirection := { peer.redirection with drive } } := by
    intro driveInput out drive noAnnounce moved
    refine Covered.fewerDevices covered rfl ?_
    intro family
    exact moved.fewer fun channelId announce same => absurd same (noAnnounce channelId announce)
  cases input with
  | message channelId data send =>
    cases taken
    exact updateRedirectedDevices_covered covered tables spares
  | start advertised random send =>
    obtain ⟨drive, records⟩ :=
      deviceRedirectionStart_keeps peer.redirection advertised random send
    cases taken
    exact covered.sameDevices drive records
  | reset =>
    cases taken
    exact covered
  | driveReset reconnect =>
    cases taken
    refine Covered.fewerDevices covered rfl ?_
    intro family
    refine Nat.le_trans (Nat.le_of_eq ?_) (Nat.zero_le _)
    exact blankDevices_countP family
  | submit request send =>
    cases taken
    exact calls (fun _ _ other => by cases other) (submitDriveRequest_moves rfl)
  | cancel requestId =>
    cases taken
    exact calls (fun _ _ other => by cases other) (cancelDriveRequest_moves rfl)
  | setCallback callback =>
    cases taken
    exact calls (fun _ _ other => by cases other)
      (@driveStep_moves charset _ _ _ (.setCallback callback) rfl)
  | setState state =>
    cases taken
    exact covered
  | setProviders providers =>
    cases taken
    exact covered

variable (tables : DriveTables redirection.drive)
include tables

theorem announceDevices_tables {list : List DeviceAnnounce} (send : ChannelSend)
    (channelId : UInt16) (i : Nat) :
    DriveTables (announceDevices charset send channelId i redirection list).2.drive := by
  induction list generalizing i redirection with
  | nil => exact tables
  | cons announce rest ih =>
    simp only [announceDevices]
    split
    · split
      · exact ih tables (i + 1)
      · exact tables
    split
    · rename_i stored
      exact ih ((redirectedDeviceStore_moves stored).tables tables) (i + 1)
    · exact tables

theorem removeDevices_tables {ids : List UInt32} :
    DriveTables (removeDevices redirection ids).2.drive := by
  induction ids generalizing redirection with
  | nil => exact tables
  | cons deviceId rest ih => exact ih ((redirectedDeviceRemove_moves rfl).tables tables)

theorem updateRedirectedDevices_tables (channelId : UInt16) (data : Bytes) (send : ChannelSend) :
    DriveTables (updateRedirectedDevices charset redirection send channelId data).2.drive := by
  unfold updateRedirectedDevices
  split
  · exact tables
  rename_i header _ _
  split
  · exact tables
  obtain ⟨⟨status, next⟩, done⟩ : ∃ r,
      handleDeviceRedirectionLifecycle redirection send channelId data header = r := ⟨_, rfl⟩
  have drive := (handleDeviceRedirectionLifecycle_moves done).1.keeps_devices.1
  simp only [done]
  rw [← drive] at tables
  split
  · exact tables
  unfold applyDeviceMessage
  split
  · split
    · exact tables
    · exact announceDevices_tables tables send channelId 0
  split
  · split
    · exact tables
    · exact removeDevices_tables tables
  split
  · exact (handleCompletion_moves rfl).tables tables
  · exact tables

theorem redirectionStep_tables
    (taken : redirectionStep charset redirection input = .ok (out, redirection')) :
    DriveTables redirection'.drive := by
  cases input with
  | message channelId data send =>
    cases taken
    exact updateRedirectedDevices_tables tables channelId data send
  | start advertised random send =>
    rw [← (deviceRedirectionStart_keeps redirection advertised random send).1] at tables
    cases taken
    exact tables
  | reset =>
    cases taken
    exact tables
  | driveReset reconnect =>
    cases taken
    exact driveTables_reset _ reconnect
  | submit request send =>
    cases taken
    exact (submitDriveRequest_moves rfl).tables tables
  | cancel requestId =>
    cases taken
    exact (cancelDriveRequest_moves rfl).tables tables
  | setCallback callback =>
    cases taken
    exact (@driveStep_moves charset _ _ _ (.setCallback callback) rfl).tables tables
  | setState state =>
    cases taken
    exact (@driveStep_moves charset _ _ _ (.setState state) rfl).tables tables
  | setProviders providers =>
    cases taken
    exact tables

end Steps

end LibRdp.Server
