import LibRdp.Server.Drive

/-! # The drive tables stay in step with each other

Each table is counted, holds no id twice, and a file or a request names a drive of this
generation. Every operation rewrites one slot of one table, except that the removal of a
drive takes its files and its requests along.
-/

namespace LibRdp.Server

open Machine Machine.Table Channels

theorem requestIdOf_toNat (generation completionId : UInt32) :
    (requestIdOf generation completionId).toNat =
      generation.toNat * 2 ^ 32 + completionId.toNat := by
  have small := completionId.toNat_lt
  have small' := generation.toNat_lt
  have fits : generation.toNat <<< 32 % 2 ^ 64 = generation.toNat <<< 32 := by
    rw [Nat.shiftLeft_eq]
    exact Nat.mod_eq_of_lt (by omega)
  simp only [requestIdOf, UInt64.toNat_or, UInt64.toNat_shiftLeft, UInt32.toNat_toUInt64]
  rw [show (32 : UInt64).toNat % 64 = 32 from rfl, fits,
    ← Nat.shiftLeft_add_eq_or_of_lt small, Nat.shiftLeft_eq]

variable {completionId : UInt32} {pending : List DrivePending}

variable {generation : UInt32} {peer : DrivePeer}

theorem requestIdOf_inj {completionId' : UInt32}
    (same : requestIdOf generation completionId = requestIdOf generation completionId') :
    completionId = completionId' := by
  have equal := congrArg UInt64.toNat same
  rw [requestIdOf_toNat, requestIdOf_toNat] at equal
  exact UInt32.toNat_inj.mp (by omega)

theorem requestIdOf_ne_zero (moved : completionId ≠ 0) :
    requestIdOf generation completionId ≠ 0 := by
  intro zero
  have equal := congrArg UInt64.toNat zero
  rw [requestIdOf_toNat] at equal
  have positive : completionId.toNat ≠ 0 := fun none => moved (UInt32.toNat_inj.mp none)
  have : (0 : UInt64).toNat = 0 := rfl
  omega

theorem nextCompletionId_found {attempts k : Nat} {next : UInt32} (early : k < attempts)
    (free : pending.any (·.waitsFor (skipZero^[k] (skipZero next))) = false) :
    (nextCompletionId pending attempts next).1 ≠ 0 ∧
      pending.any (·.waitsFor (nextCompletionId pending attempts next).1) = false := by
  induction attempts generalizing next k with
  | zero => cases early
  | succ attempts ih =>
    simp only [nextCompletionId]
    cases taken : pending.any (·.waitsFor (skipZero next)) with
    | false =>
      simp only [Bool.false_eq_true, if_false]
      exact ⟨skipZero_ne_zero next, taken⟩
    | true =>
      simp only [if_true]
      cases k with
      | zero =>
        rw [Function.iterate_zero, id_eq, taken] at free
        cases free
      | succ k => exact ih (Nat.lt_of_succ_lt_succ early) free

theorem nextCompletionId_fresh (short : pending.length ≤ maxDriveRequests) (next : UInt32) :
    (nextCompletionId pending (maxDriveRequests + 1) next).1 ≠ 0 ∧
      pending.any (·.waitsFor (nextCompletionId pending (maxDriveRequests + 1) next).1) = false := by
  have round : maxDriveRequests + 1 ≤ counterPeriod := by decide
  have apart := skipZero_iterates_nodup (skipZero_ne_zero next) round
  have one : ∀ (id : UInt32) (slot : DrivePending), slot.waitsFor id = true →
      slot.completionId = id := by
    intro id slot waits
    simpa using (Bool.and_eq_true_iff.mp waits).2
  have more : pending.length < ((List.range (maxDriveRequests + 1)).map
      (skipZero^[·] (skipZero next))).length := by
    rw [List.length_map, List.length_range]
    omega
  obtain ⟨id, isCandidate, free⟩ := exists_missing apart one more
  obtain ⟨k, inside, rfl⟩ := List.mem_map.mp isCandidate
  apply nextCompletionId_found (List.mem_range.mp inside)
  rw [Bool.eq_false_iff]
  intro taken
  obtain ⟨slot, held, waits⟩ := List.any_eq_true.mp taken
  obtain ⟨i, atI⟩ := List.getElem?_of_mem held
  rw [lookup_none free atI] at waits
  cases waits

def OnDrive (peer : DrivePeer) (generation deviceId : UInt32) : Prop :=
  generation = peer.generation ∧ ∃ device, findRedirectedDevice peer deviceId = some device ∧
    device.deviceType = deviceTypeFilesystem ∧ device.generation = peer.generation

structure DriveRegistry (peer : DrivePeer) : Prop where
  deviceCount : peer.deviceCount.toNat = peer.devices.countP (·.present)
  fileCount : peer.fileCount.toNat = peer.files.countP (·.present)
  pendingCount : peer.pendingCount.toNat = peer.pending.countP (·.present)
  deviceIds : Distinct (·.present) (·.deviceId) peer.devices
  fileIds : Distinct (·.present) (fun file => (file.deviceId, file.fileId)) peer.files
  completionIds : Distinct (·.present) (·.completionId) peer.pending
  requestIds : Distinct (·.present) (·.requestId) peer.pending
  fileOnDrive : Every (fun file => file.present → OnDrive peer file.generation file.deviceId)
    peer.files
  pendingOnDrive : Every
    (fun pending => pending.present → OnDrive peer pending.generation pending.deviceId) peer.pending

def DeviceSlot (peer : DrivePeer) (device : RedirectedDevice) : Prop :=
  device.present → device.generation = peer.generation ∧ device.deviceId ≠ 0

def FileSlot (peer : DrivePeer) (file : DriveFile) : Prop :=
  file.present → OnDrive peer file.generation file.deviceId ∧ file.fileId ≠ 0

/-- What a request slot holds. The application listens while a request waits, and a slot that
    is free is not marked as cancelled. -/
def PendingSlot (peer : DrivePeer) (pending : DrivePending) : Prop :=
  (pending.present → OnDrive peer pending.generation pending.deviceId ∧
    pending.completionId ≠ 0 ∧
    pending.requestId = requestIdOf pending.generation pending.completionId ∧
    peer.callback = true) ∧
  (pending.present = false → pending.cancelled = false)

structure DriveTables (peer : DrivePeer) : Prop where
  generation : peer.generation ≠ 0
  deviceCount : peer.deviceCount.toNat = peer.devices.countP (·.present)
  fileCount : peer.fileCount.toNat = peer.files.countP (·.present)
  pendingCount : peer.pendingCount.toNat = peer.pending.countP (·.present)
  pendingLength : peer.pending.length = maxDriveRequests
  deviceIds : Distinct (·.present) (·.deviceId) peer.devices
  fileIds : Distinct (·.present) (fun file => (file.deviceId, file.fileId)) peer.files
  completionIds : Distinct (·.present) (·.completionId) peer.pending
  devices : Every (DeviceSlot peer) peer.devices
  files : Every (FileSlot peer) peer.files
  pending : Every (PendingSlot peer) peer.pending

theorem DriveTables.requestIds (tables : DriveTables peer) :
    Distinct (·.present) (·.requestId) peer.pending := by
  intro i j a b atI atJ presentA presentB same
  obtain ⟨⟨generationA, _⟩, _, idA, _⟩ := (tables.pending atI).1 presentA
  obtain ⟨⟨generationB, _⟩, _, idB, _⟩ := (tables.pending atJ).1 presentB
  have equal : requestIdOf peer.generation a.completionId =
      requestIdOf peer.generation b.completionId := by
    rw [← generationA, ← idA, generationA, ← generationB, ← idB]
    exact same
  exact tables.completionIds atI atJ presentA presentB (requestIdOf_inj equal)

theorem DriveTables.registry (tables : DriveTables peer) :
    DriveRegistry peer where
  deviceCount := tables.deviceCount
  fileCount := tables.fileCount
  pendingCount := tables.pendingCount
  deviceIds := tables.deviceIds
  fileIds := tables.fileIds
  completionIds := tables.completionIds
  requestIds := tables.requestIds
  fileOnDrive := fun _ _ held present => (tables.files held present).1
  pendingOnDrive := fun _ _ held present => ((tables.pending held).1 present).1

section Searches

variable {peer : DrivePeer} {i : Nat}

variable {deviceId : UInt32} {pending : DrivePending} {device : RedirectedDevice}

variable {fileId : UInt32}

theorem findFile_some {generation : UInt32} {file : DriveFile}
    (found : findFile peer generation deviceId fileId = some (i, file)) :
    peer.files[i]? = some file ∧ file.present = true ∧ file.generation = generation ∧
      file.deviceId = deviceId ∧ file.fileId = fileId := by
  obtain ⟨held, passes⟩ := lookup_some found
  simp only [Bool.and_eq_true, beq_iff_eq] at passes
  obtain ⟨⟨⟨present, generation⟩, device⟩, its⟩ := passes
  exact ⟨held, present, generation, device, its⟩

theorem findPending_some {requestId : UInt64}
    (found : findPending peer requestId = some (i, pending)) :
    peer.pending[i]? = some pending ∧ pending.present = true ∧ pending.requestId = requestId := by
  unfold findPending at found
  split at found
  · cases found
  obtain ⟨held, passes⟩ := lookup_some found
  simp only [Bool.and_eq_true, beq_iff_eq] at passes
  exact ⟨held, passes⟩

theorem findCompletion_some {completionId : UInt32}
    (found : findCompletion peer deviceId completionId = some (i, pending)) :
    peer.pending[i]? = some pending ∧ pending.present = true ∧ pending.deviceId = deviceId ∧
      pending.completionId = completionId := by
  unfold findCompletion at found
  split at found
  · cases found
  obtain ⟨held, passes⟩ := lookup_some found
  simp only [Bool.and_eq_true, beq_iff_eq] at passes
  obtain ⟨⟨present, device⟩, its⟩ := passes
  exact ⟨held, present, device, its⟩

theorem hasId_some (found : lookup (·.hasId deviceId) peer.devices = some (i, device)) :
    peer.devices[i]? = some device ∧ device.present = true ∧ device.deviceId = deviceId := by
  obtain ⟨held, passes⟩ := lookup_some found
  simp only [RedirectedDevice.hasId, Bool.and_eq_true, beq_iff_eq] at passes
  exact ⟨held, passes⟩

theorem validateDevice_onDrive {handle : DeviceHandle}
    (valid : validateDevice peer handle = .ok device) :
    findRedirectedDevice peer handle.deviceId = some device ∧
      OnDrive peer handle.generation handle.deviceId := by
  unfold validateDevice at valid
  split at valid
  · cases valid
  split at valid
  · cases valid
  rename_i current
  rw [ne_eq, not_not] at current
  split at valid
  · cases valid
  rename_i found
  split at valid
  · cases valid
  rename_i fits
  cases valid
  rw [not_or, ne_eq, not_not, ne_eq, not_not] at fits
  exact ⟨found, current, device, found, fits.1, fits.2.trans current⟩

theorem validateFile_device {handle : FileHandle} (valid : validateFile peer handle = .ok device) :
    validateDevice peer { generation := handle.generation, deviceId := handle.deviceId } =
        .ok device ∧
      (findFile peer handle.generation handle.deviceId handle.fileId).isSome := by
  unfold validateFile at valid
  split at valid
  · cases valid
  obtain ⟨device, checked, valid⟩ := bind_eq_ok.mp valid
  split at valid
  · cases valid
  rename_i open_
  cases valid
  exact ⟨checked, by simpa [Option.isSome_iff_ne_none] using open_⟩

theorem validateRequest_onDrive {request : DriveRequest}
    (valid : validateRequest peer request = .ok (device, fileId)) :
    OnDrive peer peer.generation device.deviceId := by
  have fromDevice : ∀ {handle : DeviceHandle}, validateDevice peer handle = .ok device →
      OnDrive peer peer.generation device.deviceId := by
    intro handle checked
    obtain ⟨found, on⟩ := validateDevice_onDrive checked
    obtain ⟨i, _, _, its⟩ := entryOf_some found
    rw [its]
    exact ⟨rfl, on.2⟩
  unfold validateRequest at valid
  split at valid
  · cases checked : validateDevice peer request.device with
    | error status =>
      rw [checked] at valid
      cases valid
    | ok device =>
      rw [checked] at valid
      cases valid
      exact fromDevice checked
  cases checked : validateFile peer request.file with
  | error status =>
    rw [checked] at valid
    cases valid
  | ok device =>
    rw [checked] at valid
    cases valid
    exact fromDevice (validateFile_device checked).1

end Searches

section Moves

variable {peer peer' : DrivePeer}

structure SameDrives (peer peer' : DrivePeer) : Prop where
  generation : peer'.generation = peer.generation
  callback : peer'.callback = peer.callback
  devices : peer'.devices = peer.devices
  deviceCount : peer'.deviceCount = peer.deviceCount

variable (same : SameDrives peer peer')
include same

theorem SameDrives.find (deviceId : UInt32) :
    findRedirectedDevice peer' deviceId = findRedirectedDevice peer deviceId := by
  rw [findRedirectedDevice, findRedirectedDevice, same.devices]

theorem SameDrives.onDrive {generation deviceId : UInt32} (on : OnDrive peer generation deviceId) :
    OnDrive peer' generation deviceId := by
  unfold OnDrive
  rw [same.generation, same.find]
  exact on

theorem SameDrives.deviceSlot {device : RedirectedDevice} (slot : DeviceSlot peer device) :
    DeviceSlot peer' device := by
  unfold DeviceSlot
  rw [same.generation]
  exact slot

theorem SameDrives.fileSlot {file : DriveFile} (slot : FileSlot peer file) : FileSlot peer' file :=
  fun present => ⟨same.onDrive (slot present).1, (slot present).2⟩

theorem SameDrives.pendingSlot {pending : DrivePending} (slot : PendingSlot peer pending) :
    PendingSlot peer' pending := by
  refine ⟨?_, slot.2⟩
  intro present
  obtain ⟨on, completion, id, heard⟩ := slot.1 present
  exact ⟨same.onDrive on, completion, id, same.callback.trans heard⟩

omit same

theorem fileSlot_blank (peer : DrivePeer) : FileSlot peer {} := nofun

theorem pendingSlot_blank (peer : DrivePeer) : PendingSlot peer {} := ⟨nofun, fun _ => rfl⟩

theorem deviceSlot_blank (peer : DrivePeer) : DeviceSlot peer {} := nofun

variable {i : Nat} {count : UInt32} {old : RedirectedDevice}

theorem DriveTables.setFile (tables : DriveTables peer) {old new : DriveFile}
    (held : peer.files[i]? = some old) (slot : FileSlot peer new)
    (apart : new.present = true → ∀ {j b}, j ≠ i → peer.files[j]? = some b → b.present = true →
      (b.deviceId, b.fileId) ≠ (new.deviceId, new.fileId))
    (counted : count.toNat + (if old.present then 1 else 0) =
      peer.fileCount.toNat + (if new.present then 1 else 0)) :
    DriveTables { peer with files := peer.files.set i new, fileCount := count } := by
  have same : SameDrives peer { peer with files := peer.files.set i new, fileCount := count } :=
    ⟨rfl, rfl, rfl, rfl⟩
  have moved := @countP_set _ (·.present) _ _ _ new held
  exact {
    tables with
    fileCount := by
      have := tables.fileCount
      show count.toNat = (peer.files.set i new).countP _
      omega
    fileIds := tables.fileIds.set apart
    devices := fun _ _ held => same.deviceSlot (tables.devices held)
    files := (tables.files.set slot : Every _ _)
    pending := fun _ _ held => same.pendingSlot (tables.pending held) }

theorem DriveTables.setPending (tables : DriveTables peer) {i : Nat} {old new : DrivePending}
    {count next : UInt32} (held : peer.pending[i]? = some old) (slot : PendingSlot peer new)
    (apart : new.present = true → ∀ {j b}, j ≠ i → peer.pending[j]? = some b → b.present = true →
      b.completionId ≠ new.completionId)
    (counted : count.toNat + (if old.present then 1 else 0) =
      peer.pendingCount.toNat + (if new.present then 1 else 0)) :
    DriveTables
      { peer with
        pending := peer.pending.set i new, pendingCount := count, nextCompletionId := next } := by
  have same : SameDrives peer
      { peer with
        pending := peer.pending.set i new, pendingCount := count, nextCompletionId := next } :=
    ⟨rfl, rfl, rfl, rfl⟩
  have moved := @countP_set _ (·.present) _ _ _ new held
  exact {
    tables with
    pendingCount := by
      have := tables.pendingCount
      show count.toNat = (peer.pending.set i new).countP _
      omega
    pendingLength := by
      rw [List.length_set]
      exact tables.pendingLength
    completionIds := tables.completionIds.set apart
    devices := fun _ _ held => same.deviceSlot (tables.devices held)
    files := fun _ _ held => same.fileSlot (tables.files held)
    pending := (tables.pending.set slot : Every _ _) }

theorem findRedirectedDevice_eq (peer : DrivePeer) (deviceId : UInt32) :
    findRedirectedDevice peer deviceId = entryOf (·.present) (·.deviceId) deviceId peer.devices :=
  rfl

theorem decrement_toNat (count : UInt32) : (decrement count).toNat = count.toNat - 1 := by
  unfold decrement
  split
  · rename_i some
    exact UInt32.toNat_sub_of_le _ _ (UInt32.le_iff_toNat_le.mpr (UInt32.lt_iff_toNat_lt.mp some))
  rename_i none
  have zero : count.toNat = 0 := Nat.le_zero.mp (UInt32.le_iff_toNat_le.mp (UInt32.not_lt.mp none))
  omega

theorem foldl_decrement_toNat {α : Type} (l : List α) (count : UInt32) :
    (l.foldl (fun count _ => decrement count) count).toNat = count.toNat - l.length := by
  induction l generalizing count with
  | nil => rfl
  | cons a l ih =>
    rw [List.foldl_cons, ih, decrement_toNat, List.length_cons]
    omega

theorem increment_toNat {most : Nat} (room : ¬ count.toNat ≥ most) (small : most < 2 ^ 32) :
    (count + 1).toNat = count.toNat + 1 := by
  rw [UInt32.toNat_add]
  exact Nat.mod_eq_of_lt (by have : (1 : UInt32).toNat = 1 := rfl; omega)

theorem DriveTables.addDevice (tables : DriveTables peer) {new : RedirectedDevice}
    (held : peer.devices[i]? = some old) (free : old.present = false)
    (present : new.present = true) (slot : DeviceSlot peer new)
    (fresh : findRedirectedDevice peer new.deviceId = none)
    (room : ¬ peer.deviceCount.toNat ≥ maxRedirectedDevices) :
    DriveTables
      { peer with devices := peer.devices.set i new, deviceCount := peer.deviceCount + 1 } := by
  have rewrites : Rewrites (·.present) (·.deviceId) new.deviceId peer.devices i old new :=
    ⟨held, fun was => absurd (free.symm.trans was) nofun, fun _ => rfl, fun _ => fresh⟩
  have moved := @countP_set _ (·.present) _ _ _ new held
  -- who is on a drive is on another one
  have kept : ∀ {generation deviceId}, OnDrive peer generation deviceId →
      OnDrive { peer with devices := peer.devices.set i new, deviceCount := peer.deviceCount + 1 }
        generation deviceId := by
    intro generation deviceId on
    obtain ⟨current, device, found, isDrive, its⟩ := on
    refine ⟨current, device, ?_, isDrive, its⟩
    have other : deviceId ≠ new.deviceId := by
      intro same
      rw [same, fresh] at found
      cases found
    rw [findRedirectedDevice_eq]
    rw [rewrites.entryOf_set tables.deviceIds, if_neg other]
    exact found
  exact {
    tables with
    deviceCount := by
      have := tables.deviceCount
      have := increment_toNat room (by decide)
      show (peer.deviceCount + 1).toNat = (peer.devices.set i new).countP _
      rw [free, present] at moved
      simp only [Bool.false_eq_true, if_false, if_true] at moved
      omega
    deviceIds := rewrites.distinct tables.deviceIds
    devices := (tables.devices.set slot : Every _ _)
    files := fun _ _ held present => ⟨kept (tables.files held present).1, (tables.files held present).2⟩
    pending := by
      intro j pending held
      refine ⟨?_, (tables.pending held).2⟩
      intro present
      obtain ⟨on, rest⟩ := (tables.pending held).1 present
      exact ⟨kept on, rest⟩ }

theorem foldl_decrement_blank {α : Type} {table : List α} {present hit : α → Bool} {blank : α}
    (counted : count.toNat = table.countP present) (blanks : present blank = false)
    (inside : ∀ a, hit a = true → present a = true) :
    ((table.filter hit).foldl (fun count _ => decrement count) count).toNat =
      (table.map fun a => if hit a then blank else a).countP present := by
  have moved := @countP_map_blank _ present table hit blank blanks
  have both : (fun a => hit a && present a) = hit := by
    funext a
    cases isHit : hit a with
    | false => rfl
    | true => exact inside a isHit
  rw [both] at moved
  rw [foldl_decrement_toNat, counted, ← List.countP_eq_length_filter]
  omega

theorem DriveTables.dropFiles (tables : DriveTables peer) (deviceId : UInt32) :
    DriveTables (removeDeviceFiles peer deviceId) := by
  have same : SameDrives peer (removeDeviceFiles peer deviceId) := ⟨rfl, rfl, rfl, rfl⟩
  exact {
    tables with
    fileCount := by
      apply foldl_decrement_blank tables.fileCount rfl
      intro file hit
      exact (Bool.and_eq_true_iff.mp hit).1
    fileIds := tables.fileIds.clear {} rfl _
    devices := fun _ _ held => same.deviceSlot (tables.devices held)
    files := Every.clear (fun _ _ held => same.fileSlot (tables.files held)) {} (fileSlot_blank _) _
    pending := fun _ _ held => same.pendingSlot (tables.pending held) }

theorem DriveTables.dropPending (tables : DriveTables peer) (deviceId : UInt32) :
    DriveTables (cancelDeviceRequests peer deviceId).2 := by
  have same : SameDrives peer (cancelDeviceRequests peer deviceId).2 := ⟨rfl, rfl, rfl, rfl⟩
  exact {
    tables with
    pendingCount := by
      apply foldl_decrement_blank tables.pendingCount rfl
      intro pending hit
      exact (Bool.and_eq_true_iff.mp hit).1
    pendingLength := by
      show (peer.pending.map _).length = _
      rw [List.length_map]
      exact tables.pendingLength
    completionIds := tables.completionIds.clear {} rfl _
    devices := fun _ _ held => same.deviceSlot (tables.devices held)
    files := fun _ _ held => same.fileSlot (tables.files held)
    pending := Every.clear (fun _ _ held => same.pendingSlot (tables.pending held)) {}
      (pendingSlot_blank _) _ }

theorem DriveTables.entryOf_cleared (tables : DriveTables peer)
    (held : peer.devices[i]? = some old) (present : old.present = true) (deviceId : UInt32) :
    entryOf (·.present) (·.deviceId) deviceId (peer.devices.set i {}) =
      if deviceId = old.deviceId then none else findRedirectedDevice peer deviceId := by
  have rewrites : Rewrites (·.present) (·.deviceId) old.deviceId peer.devices i old {} :=
    ⟨held, fun _ => rfl, nofun, fun free => absurd (free.symm.trans present) nofun⟩
  exact rewrites.entryOf_set tables.deviceIds deviceId

theorem DriveTables.dropDevice (tables : DriveTables peer) (held : peer.devices[i]? = some old)
    (present : old.present = true)
    (noFile : Every (fun file => file.present → file.deviceId ≠ old.deviceId) peer.files)
    (noPending : Every (fun pending => pending.present → pending.deviceId ≠ old.deviceId)
      peer.pending) :
    DriveTables
      { peer with devices := peer.devices.set i {}, deviceCount := decrement peer.deviceCount } := by
  have moved := @countP_set _ (·.present) _ _ _ {} held
  have kept : ∀ {generation deviceId}, OnDrive peer generation deviceId → deviceId ≠ old.deviceId →
      OnDrive
        { peer with devices := peer.devices.set i {}, deviceCount := decrement peer.deviceCount }
        generation deviceId := by
    intro generation deviceId on other
    obtain ⟨current, device, found, isDrive, its⟩ := on
    refine ⟨current, device, ?_, isDrive, its⟩
    rw [findRedirectedDevice_eq]
    rw [tables.entryOf_cleared held present, if_neg other]
    exact found
  exact {
    tables with
    deviceCount := by
      have := tables.deviceCount
      show (decrement peer.deviceCount).toNat = (peer.devices.set i {}).countP _
      rw [decrement_toNat]
      rw [present] at moved
      simp only [Bool.false_eq_true, if_false, if_true] at moved
      omega
    deviceIds := tables.deviceIds.set nofun
    devices := (tables.devices.set (deviceSlot_blank _) : Every _ _)
    files := fun _ _ held present =>
      ⟨kept (tables.files held present).1 (noFile held present), (tables.files held present).2⟩
    pending := by
      intro j pending held
      refine ⟨?_, (tables.pending held).2⟩
      intro present
      obtain ⟨on, rest⟩ := (tables.pending held).1 present
      exact ⟨kept on (noPending held present), rest⟩ }

theorem driveTables_reset (peer : DrivePeer) (reconnect : Bool) :
    DriveTables (driveStateReset peer reconnect).2 where
  generation := by
    simp only [driveStateReset]
    split
    · decide
    rename_i some
    split
    · exact skipZero_ne_zero _
    · exact some
  deviceCount := by simp [driveStateReset, List.countP_replicate]
  fileCount := by simp [driveStateReset, List.countP_replicate]
  pendingCount := by simp [driveStateReset, List.countP_replicate]
  pendingLength := by simp [driveStateReset]
  deviceIds := distinct_replicate _ rfl
  fileIds := distinct_replicate _ rfl
  completionIds := distinct_replicate _ rfl
  devices := every_replicate _ (deviceSlot_blank _)
  files := every_replicate _ (fileSlot_blank _)
  pending := every_replicate _ (pendingSlot_blank _)

end Moves

end LibRdp.Server
