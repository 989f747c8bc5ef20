import LibRdp.Server.DriveRequests

/-! # When a drive handle is stale

A handle names what it was given out for by the generation and by ids that the client
chooses. A reconnect leaves the generation behind. Within a generation a handle is refused
as soon as what it names is gone, and it stays refused until the client uses the same id
again: then the old handle names the newcomer.
-/

namespace LibRdp.Server

open Machine Machine.Table Channels

def Announces (deviceId : UInt32) (input : DriveInput) : Prop :=
  ∃ channelId announce, input = .announce channelId announce ∧ announce.deviceId = deviceId

def Opens (deviceId fileId : UInt32) (input : DriveInput) : Prop :=
  ∃ data, input = .completion data ∧
    (deviceParseIoCompletion data).map (·.deviceId) = .ok deviceId ∧
    (filesystemParseCreateResponse data).map Prod.fst = .ok fileId

def DriveInput.isReconnect : DriveInput → Bool
  | .reconnect => true
  | _ => false

def NoFile (peer : DrivePeer) (deviceId fileId : UInt32) : Prop :=
  Every (fun file => file.present → ¬ (file.deviceId = deviceId ∧ file.fileId = fileId)) peer.files

section Absence

variable {charset : Charset} {peer peer' : DrivePeer} {input : DriveInput} {out : DriveOutput}
  {deviceId fileId : UInt32}

/-! ## Generations -/

theorem DriveMove.generation_eq (moved : DriveMove peer input out peer') (tables : DriveTables peer) :
    peer'.generation = skipZero^[if input.isReconnect then 1 else 0] peer.generation := by
  cases moved with
  | reset =>
    simp only [DriveInput.isReconnect, if_true, Function.iterate_one, driveStateReset,
      if_neg tables.generation]
  | removed found drive dropped =>
    rw [dropped]
    rfl
  | completed answers found live files => exact files.sameDrives.generation
  | @quiet _ _ state callback next noReset =>
    cases input with
    | reconnect => exact absurd rfl noReset
    | _ => rfl
  | _ => rfl

variable {inputs : List DriveInput} {request : DriveRequest}

variable {outs : List DriveOutput}

theorem generation_run (tables : DriveTables peer)
    (ran : run (driveStep charset) peer inputs = .ok (outs, peer')) :
    peer'.generation = skipZero^[inputs.countP (·.isReconnect)] peer.generation := by
  induction inputs generalizing peer outs with
  | nil =>
    cases ran
    rfl
  | cons input rest ih =>
    obtain ⟨out, next, outs', taken, later, rfl⟩ := run_cons_split ran
    have moved := driveStep_moves taken
    rw [ih (moved.tables tables) later, moved.generation_eq tables, List.countP_cons,
      Function.iterate_add_apply]

theorem generation_left (tables : DriveTables peer)
    (ran : run (driveStep charset) peer inputs = .ok (outs, peer'))
    (few : inputs.countP (·.isReconnect) < counterPeriod) (left : DriveInput.reconnect ∈ inputs) :
    peer'.generation ≠ peer.generation := by
  intro back
  rw [generation_run tables ran] at back
  have none := skipZero_iterate_injective tables.generation few (by decide : 0 < counterPeriod) back
  rw [List.countP_eq_zero] at none
  exact none _ left rfl

/-! ## What is gone stays gone -/

theorem DriveMove.device_missing (moved : DriveMove peer input out peer') (tables : DriveTables peer)
    (silent : ¬ Announces deviceId input) (missing : findRedirectedDevice peer deviceId = none) :
    findRedirectedDevice peer' deviceId = none := by
  have cleared : ∀ {k i slot}, lookup (·.hasId k) peer.devices = some (i, slot) →
      entryOf (·.present) (·.deviceId) deviceId (peer.devices.set i {}) = none := by
    intro k i slot found
    obtain ⟨held, present, _⟩ := hasId_some found
    rw [tables.entryOf_cleared held present, missing, ite_self]
  cases moved with
  | @added _ channelId announce i old new held free present generation id type nonzero fresh =>
    have rewrites : Rewrites (·.present) (·.deviceId) announce.deviceId peer.devices i old new :=
      ⟨held, fun was => absurd (free.symm.trans was) nofun, fun _ => id, fun _ => fresh⟩
    rw [findRedirectedDevice_eq]
    rw [rewrites.entryOf_set tables.deviceIds, if_neg]
    · exact missing
    · intro same
      exact silent ⟨_, announce, rfl, same.symm⟩
  | dropped found => exact cleared found
  | removed found drive dropped =>
    rw [dropped]
    exact cleared found
  | completed answers found live files =>
    rw [← files.sameDrives.find] at missing
    exact missing
  | reset => exact entryOf_unused (every_replicate _ rfl)
  | _ => exact missing

theorem DriveMove.file_missing (moved : DriveMove peer input out peer')
    (silent : ¬ Opens deviceId fileId input) (missing : NoFile peer deviceId fileId) :
    NoFile peer' deviceId fileId := by
  cases moved with
  | removed found drive dropped =>
    rw [dropped]
    exact Every.clear missing {} nofun _
  | @completed data _ left i pending completion event answers found live files =>
    show NoFile left deviceId fileId
    cases files with
    | same => exact missing
    | opened answers creates =>
      apply Every.set missing
      intro _ same
      obtain ⟨rfl, rfl⟩ := same
      exact silent ⟨data, rfl, answers, creates⟩
    | closed found =>
      apply Every.set missing
      nofun
  | reset =>
    apply every_replicate
    nofun
  | _ => exact missing

theorem device_missing_run (tables : DriveTables peer)
    (ran : run (driveStep charset) peer inputs = .ok (outs, peer'))
    (silent : ∀ input ∈ inputs, ¬ Announces deviceId input)
    (missing : findRedirectedDevice peer deviceId = none) :
    findRedirectedDevice peer' deviceId = none := by
  have both : DriveTables peer' ∧ findRedirectedDevice peer' deviceId = none := by
    apply run_invariant (fun peer => DriveTables peer ∧ findRedirectedDevice peer deviceId = none) _
      ⟨tables, missing⟩ ran
    intro peer input out peer' held inv taken
    have moved := driveStep_moves taken
    exact ⟨moved.tables inv.1, moved.device_missing inv.1 (silent input held) inv.2⟩
  exact both.2

theorem file_missing_run (ran : run (driveStep charset) peer inputs = .ok (outs, peer'))
    (silent : ∀ input ∈ inputs, ¬ Opens deviceId fileId input)
    (missing : NoFile peer deviceId fileId) : NoFile peer' deviceId fileId := by
  apply run_invariant (NoFile · deviceId fileId) _ missing ran
  intro _ input _ _ held missing taken
  exact (driveStep_moves taken).file_missing (silent input held) missing

/-! ## What makes a handle stale -/

theorem removed_missing (tables : DriveTables peer)
    (taken : driveStep charset peer (.remove deviceId) = .ok (out, peer')) :
    findRedirectedDevice peer' deviceId = none := by
  have cleared : ∀ {i slot}, lookup (·.hasId deviceId) peer.devices = some (i, slot) →
      entryOf (·.present) (·.deviceId) deviceId (peer.devices.set i {}) = none := by
    intro i slot found
    obtain ⟨held, present, rfl⟩ := hasId_some found
    rw [tables.entryOf_cleared held present, if_pos rfl]
  cases done : redirectedDeviceRemove peer deviceId with
  | mk events after =>
    simp only [driveStep, done] at taken
    cases taken
    unfold redirectedDeviceRemove at done
    split at done
    · rename_i missed
      cases done
      rw [findRedirectedDevice, missed]
      rfl
    rename_i i slot found
    by_cases drive : slot.deviceType = deviceTypeFilesystem
    · simp only [if_pos drive] at done
      cases done
      exact cleared found
    simp only [if_neg drive] at done
    cases done
    exact cleared found

theorem DriveTables.noFile (tables : DriveTables peer)
    (missing : findRedirectedDevice peer deviceId = none) : NoFile peer deviceId fileId := by
  intro i file held present same
  obtain ⟨_, device, found, _⟩ := (tables.files held present).1
  rw [same.1, missing] at found
  cases found

theorem removeFile_missing (tables : DriveTables peer) (deviceId fileId : UInt32) :
    NoFile (removeFile peer peer.generation deviceId fileId) deviceId fileId := by
  unfold removeFile
  split
  · rename_i missed
    intro i file held present same
    have current := (tables.files held present).1.1
    have fails := lookup_none missed held
    simp [present, current, same.1, same.2] at fails
  rename_i i file found
  obtain ⟨held, present, _, rfl, rfl⟩ := findFile_some found
  intro j other atJ presentJ same
  cases getElem?_set_cases atJ with
  | inl here =>
    rw [here.2.1] at presentJ
    cases presentJ
  | inr there =>
    apply there.1
    exact tables.fileIds there.2 held presentJ present (Prod.ext same.1 same.2)

/-! ## What a handle names when it is given out -/

variable {event : DriveEvent}

theorem mem_emitCancel {pending : DrivePending}
    (raised : event ∈ emitCancel peer pending) : event.type = .requestCancelled := by
  unfold emitCancel driveCallback at raised
  split at raised
  · rw [List.mem_singleton.mp raised]
  · cases raised

theorem mem_emitDevice {device : RedirectedDevice} {type : DriveEventType}
    (raised : event ∈ emitDevice peer device type) :
    event.type = type ∧ event.device = ⟨device.generation, device.deviceId⟩ := by
  unfold emitDevice driveCallback at raised
  split at raised
  · rw [List.mem_singleton.mp raised]
    exact ⟨rfl, rfl⟩
  · cases raised

theorem DriveMove.raised (moved : DriveMove peer input out peer')
    (raised : event ∈ out.events) :
    (event.type = .deviceAdded ∧ ∃ announce channelId, input = .announce channelId announce ∧
      announce.deviceId ≠ 0 ∧ event.device = ⟨peer'.generation, announce.deviceId⟩) ∨
    (event.type = .requestCompleted ∧ ∃ i pending left, peer.pending[i]? = some pending ∧
      pending.present = true ∧ peer' = clearPending left i ∧
      (Succeeds event .create → event.file.generation = peer.generation ∧
        event.file.reserved = 0 ∧
        storeFile peer event.file.deviceId event.file.fileId = (.ok, left)) ∧
      (Succeeds event .close → event.file = fillFileHandle pending ∧
        left = removeFile peer pending.generation pending.deviceId pending.fileId)) ∨
    event.type = .requestCancelled ∨ event.type = .deviceRemoved := by
  cases moved with
  | quiet noReset heard silent | dropped found other silent | absorbed held present late silent
  | submitted listens valid room held isFree completion silent =>
    rw [silent] at raised
    cases raised
  | added held free present generation id type nonzero fresh room events =>
    rw [events] at raised
    split at raised
    · obtain ⟨isAdded, names⟩ := mem_emitDevice raised
      rw [generation, id] at names
      exact .inl ⟨isAdded, _, _, rfl, nonzero, names⟩
    · cases raised
  | removed found drive dropped events =>
    rw [events] at raised
    cases List.mem_append.mp raised with
    | inl cancels =>
      obtain ⟨pending, _, inside⟩ := List.mem_flatMap.mp cancels
      split at inside
      · cases inside
      · exact .inr (.inr (.inl (mem_emitCancel inside)))
    | inr removes => exact .inr (.inr (.inr (mem_emitDevice removes).1))
  | cancelled found live events =>
    rw [events] at raised
    exact .inr (.inr (.inl (mem_emitCancel raised)))
  | completed answers found live files isCompletion its opens closes events =>
    obtain ⟨held, present, _⟩ := findCompletion_some found
    rw [events, driveCallback] at raised
    split at raised
    · rw [List.mem_singleton.mp raised]
      exact .inr (.inl ⟨isCompletion, _, _, _, held, present, rfl, opens, closes⟩)
    · cases raised
  | reset events =>
    rw [events] at raised
    cases List.mem_append.mp raised with
    | inl cancels =>
      obtain ⟨pending, _, inside⟩ := List.mem_flatMap.mp cancels
      exact .inr (.inr (.inl (mem_emitCancel inside)))
    | inr removes =>
      obtain ⟨device, _, inside⟩ := List.mem_flatMap.mp removes
      exact .inr (.inr (.inr (mem_emitDevice inside).1))

theorem DriveMove.added_handle (moved : DriveMove peer input out peer')
    (raised : event ∈ out.events) (isAdded : event.type = .deviceAdded) :
    event.device.generation = peer'.generation ∧ event.device.deviceId ≠ 0 := by
  cases moved.raised raised with
  | inl added =>
    obtain ⟨_, announce, channelId, _, nonzero, names⟩ := added
    rw [names]
    exact ⟨rfl, nonzero⟩
  | inr other =>
    rcases other with ⟨type, _⟩ | type | type
    all_goals
      rw [isAdded] at type
      cases type

theorem storeFile_held {left : DrivePeer} (stored : storeFile peer deviceId fileId = (.ok, left)) :
    fileId ≠ 0 ∧ left.generation = peer.generation ∧ ∃ i : Nat, left.files[i]? =
      some { present := true, generation := peer.generation, deviceId, fileId } := by
  unfold storeFile at stored
  split at stored
  · cases stored
  rename_i nonzero
  split at stored
  · cases stored
  split at stored
  · cases stored
  split at stored
  · cases stored
  rename_i found
  cases stored
  exact ⟨nonzero, rfl, _, getElem?_set_held (lookup_some found).1⟩

theorem DriveTables.onDrive_ne_zero (tables : DriveTables peer) {generation : UInt32}
    (on : OnDrive peer generation deviceId) : deviceId ≠ 0 := by
  obtain ⟨_, device, found, _⟩ := on
  obtain ⟨i, held, present, rfl⟩ := entryOf_some found
  exact (tables.devices held present).2

theorem DriveMove.opened_handle (moved : DriveMove peer input out peer') (tables : DriveTables peer)
    (raised : event ∈ out.events) (isCompletion : event.type = .requestCompleted)
    (opened : Succeeds event .create) :
    event.file.generation = peer'.generation ∧ event.file.deviceId ≠ 0 ∧ event.file.fileId ≠ 0 ∧
      event.file.reserved = 0 := by
  rcases moved.raised raised with ⟨type, _⟩ | ⟨_, i, pending, left, held, present, rest⟩ | type | type
  · rw [isCompletion] at type
    cases type
  · obtain ⟨rfl, opens, _⟩ := rest
    obtain ⟨generation, reserved, stored⟩ := opens opened
    obtain ⟨nonzero, same, j, atJ⟩ := storeFile_held stored
    have after := moved.tables tables
    have on := (after.files atJ rfl).1
    refine ⟨?_, after.onDrive_ne_zero on, nonzero, reserved⟩
    rw [generation, ← same]
    rfl
  · rw [isCompletion] at type
    cases type
  · rw [isCompletion] at type
    cases type

theorem DriveMove.closed_missing (moved : DriveMove peer input out peer') (tables : DriveTables peer)
    (raised : event ∈ out.events) (isCompletion : event.type = .requestCompleted)
    (closed : Succeeds event .close) (some : event.file.fileId ≠ 0) :
    NoFile peer' event.file.deviceId event.file.fileId := by
  rcases moved.raised raised with ⟨type, _⟩ | ⟨_, i, pending, left, held, present, rest⟩ | type | type
  · rw [isCompletion] at type
    cases type
  · obtain ⟨rfl, _, closes⟩ := rest
    obtain ⟨file, rfl⟩ := closes closed
    rw [file, fillFileHandle] at some ⊢
    split
    · rw [((tables.pending held).1 present).1.1]
      exact removeFile_missing tables pending.deviceId pending.fileId
    rename_i none
    rw [if_neg none] at some
    exact absurd rfl some
  · rw [isCompletion] at type
    cases type
  · rw [isCompletion] at type
    cases type

/-! ## Handles that are refused -/

variable {first last : List DriveInput} {handle : DeviceHandle} {send : UInt16 → Bytes → Status}

theorem removed_stays_missing (tables : DriveTables peer)
    (ran : run (driveStep charset) peer (first ++ .remove deviceId :: last) = .ok (outs, peer'))
    (silent : ∀ input ∈ last, ¬ Announces deviceId input) :
    findRedirectedDevice peer' deviceId = none := by
  obtain ⟨_, _, middle, _, ran₁, ran₂⟩ := run_cut ran
  obtain ⟨out, next, outs', taken, ran₃, _⟩ := run_cons_split ran₂
  have tables₁ := driveTables_run tables ran₁
  exact device_missing_run ((driveStep_moves taken).tables tables₁) ran₃ silent
    (removed_missing tables₁ taken)

theorem removed_file_stays_missing (tables : DriveTables peer)
    (ran : run (driveStep charset) peer (first ++ .remove deviceId :: last) = .ok (outs, peer'))
    (silent : ∀ input ∈ last, ¬ Opens deviceId fileId input) : NoFile peer' deviceId fileId := by
  obtain ⟨_, _, middle, _, ran₁, ran₂⟩ := run_cut ran
  obtain ⟨out, next, outs', taken, ran₃, _⟩ := run_cons_split ran₂
  have tables₁ := driveTables_run tables ran₁
  have tables₂ := (driveStep_moves taken).tables tables₁
  exact file_missing_run ran₃ silent (tables₂.noFile (removed_missing tables₁ taken))

theorem closed_file_stays_missing {first last : List DriveOutput}
    (tables : DriveTables peer)
    (ran : run (driveStep charset) peer inputs = .ok (first ++ out :: last, peer'))
    (raised : event ∈ out.events) (isCompletion : event.type = .requestCompleted)
    (closed : Succeeds event .close) (some : event.file.fileId ≠ 0)
    (silent : ∀ input ∈ inputs.drop (first.length + 1),
      ¬ Opens event.file.deviceId event.file.fileId input) :
    NoFile peer' event.file.deviceId event.file.fileId := by
  obtain ⟨before, after, middle, rfl, ran₁, ran₂⟩ := run_split ran
  cases after with
  | nil => cases ran₂
  | cons input rest =>
    obtain ⟨out', next, outs', taken, ran₃, same⟩ := run_cons_split ran₂
    cases same
    have tables₁ := driveTables_run tables ran₁
    have missing := (driveStep_moves taken).closed_missing tables₁ raised isCompletion closed some
    rw [run_length ran₁, List.drop_length_add_append] at silent
    exact file_missing_run ran₃ silent missing

/-- The peer reconnected, or the device was removed and was not announced again. -/
def DeviceStale (deviceId : UInt32) (inputs : List DriveInput) : Prop :=
  DriveInput.reconnect ∈ inputs ∨
  ∃ first last, inputs = first ++ .remove deviceId :: last ∧
    ∀ input ∈ last, ¬ Announces deviceId input

/-- The peer reconnected, or the device was removed or the file was closed, and no file was opened
    under the same id since. -/
def FileStale (file : FileHandle) (inputs : List DriveInput) (outs : List DriveOutput) : Prop :=
  DriveInput.reconnect ∈ inputs ∨
  (∃ first last, inputs = first ++ .remove file.deviceId :: last ∧
    ∀ input ∈ last, ¬ Opens file.deviceId file.fileId input) ∨
  (∃ first out last, outs = first ++ out :: last ∧
    (∃ event ∈ out.events, event.type = .requestCompleted ∧ Succeeds event .close ∧
      event.file = file) ∧
    ∀ input ∈ inputs.drop (first.length + 1), ¬ Opens file.deviceId file.fileId input)

theorem validateDevice_state (shape : handle.generation ≠ 0 ∧ handle.deviceId ≠ 0)
    (gone : handle.generation ≠ peer.generation ∨
      findRedirectedDevice peer handle.deviceId = none) :
    validateDevice peer handle = .error .state := by
  unfold validateDevice
  rw [if_neg (not_or.mpr shape)]
  split
  · rfl
  rename_i current
  cases gone with
  | inl left => exact absurd left current
  | inr missing => rw [missing]

theorem validateDevice_error {status : Status}
    (refused : validateDevice peer handle = .error status) :
    status = .invalidArgument ∧ (handle.generation = 0 ∨ handle.deviceId = 0) ∨
      status = .state := by
  unfold validateDevice at refused
  split at refused
  · rename_i blank
    cases refused
    exact .inl ⟨rfl, blank⟩
  split at refused
  · cases refused
    exact .inr rfl
  split at refused
  · cases refused
    exact .inr rfl
  split at refused
  · cases refused
    exact .inr rfl
  · cases refused

theorem validateFile_state {handle : FileHandle} (shape : handle.generation ≠ 0 ∧
      handle.deviceId ≠ 0 ∧ handle.fileId ≠ 0 ∧ handle.reserved = 0)
    (gone : handle.generation ≠ peer.generation ∨ NoFile peer handle.deviceId handle.fileId) :
    validateFile peer handle = .error .state := by
  obtain ⟨generation, device, file, reserved⟩ := shape
  unfold validateFile
  rw [if_neg (by rw [not_or, ne_eq, not_not]; exact ⟨file, reserved⟩)]
  cases checked : validateDevice peer ⟨handle.generation, handle.deviceId⟩ with
  | error status =>
    have state : status = .state := by
      cases validateDevice_error checked with
      | inl blank => exact absurd blank.2 (not_or.mpr ⟨generation, device⟩)
      | inr state => exact state
    rw [state]
    rfl
  | ok found =>
    have current := (validateDevice_onDrive checked).2.1
    have missing : findFile peer handle.generation handle.deviceId handle.fileId = none := by
      cases gone with
      | inl left => exact absurd current left
      | inr missing =>
        cases looked : findFile peer handle.generation handle.deviceId handle.fileId with
        | none => rfl
        | some slot =>
          obtain ⟨held, present, _, its⟩ := findFile_some looked
          exact absurd its (missing held present)
    simp only [bind, Except.bind, missing, Option.isNone_none, if_true]

theorem submit_state (refused : validateRequest peer request = .error .state) :
    (submitDriveRequest peer request send).1.1 = .state := by
  unfold submitDriveRequest
  split
  · rfl
  · rw [refused]

/-- The check of a handle does not fail with `OK`. -/
theorem validateRequest_error {status : Status}
    (refused : validateRequest peer request = .error status) : status ≠ .ok := by
  have ofDevice : ∀ {handle : DeviceHandle}, validateDevice peer handle = .error status →
      status ≠ .ok := by
    intro handle failed
    rcases validateDevice_error failed with ⟨rfl, _⟩ | rfl
    · nofun
    · nofun
  have inside {x : Except Status RedirectedDevice} {fileId : UInt32}
      (failed : x.map (·, fileId) = .error status) : x = .error status := by
    cases x with
    | error => exact congrArg Except.error (Except.error.inj failed)
    | ok => cases failed
  unfold validateRequest at refused
  split at refused
  · exact ofDevice (inside refused)
  have refused := inside refused
  unfold validateFile at refused
  split at refused
  · cases refused
    nofun
  rcases bind_eq_error.mp refused with failed | ⟨device, _, refused⟩
  · exact ofDevice failed
  · split at refused
    · cases refused
      nofun
    · cases refused

theorem submit_accepts (accepted : (submitDriveRequest peer request send).1.1 = .ok) :
    ∃ device fileId, validateRequest peer request = .ok (device, fileId) := by
  unfold submitDriveRequest at accepted
  split at accepted
  · cases accepted
  cases checked : validateRequest peer request with
  | error status =>
    rw [checked] at accepted
    exact absurd accepted (validateRequest_error checked)
  | ok found => exact ⟨found.1, found.2, rfl⟩

variable {peer₀ peer₁ : DrivePeer} {before later : List DriveInput} {outs₀ outs : List DriveOutput}
  {event : DriveEvent}

/-- A handle that an event gave out is refused with `STATE` when it is stale, and a request is
    accepted only on a drive that is registered now, or a file that is open now, under the ids of
    the handle and in its generation. -/
theorem stale_handles_refused
    (ran : run (driveStep charset) driveStart before = .ok (outs₀, peer₀))
    (taken : driveStep charset peer₀ input = .ok (out, peer₁)) (raised : event ∈ out.events)
    (goesOn : run (driveStep charset) peer₁ later = .ok (outs, peer))
    (few : later.countP (·.isReconnect) < counterPeriod) (request : DriveRequest)
    (send : UInt16 → Bytes → Status) :
    (event.type = .deviceAdded → request.device = event.device →
      (request.operation = .create ∨ request.operation = .shutdown) →
      (DeviceStale event.device.deviceId later →
        (submitDriveRequest peer request send).1.1 = .state) ∧
      ((submitDriveRequest peer request send).1.1 = .ok →
        OnDrive peer event.device.generation event.device.deviceId)) ∧
    (event.type = .requestCompleted → Succeeds event .create → request.file = event.file →
      ¬ (request.operation = .create ∨ request.operation = .shutdown) →
      (FileStale event.file later outs →
        (submitDriveRequest peer request send).1.1 = .state) ∧
      ((submitDriveRequest peer request send).1.1 = .ok →
        OnDrive peer event.file.generation event.file.deviceId ∧
        (findFile peer event.file.generation event.file.deviceId event.file.fileId).isSome)) := by
  have tables₀ := driveTables_run driveTables_start ran
  have moved := driveStep_moves taken
  have tables₁ := moved.tables tables₀
  have left : DriveInput.reconnect ∈ later → peer₁.generation ≠ peer.generation :=
    fun reconnected same => generation_left tables₁ goesOn few reconnected same.symm
  constructor
  · intro isAdded uses operation
    obtain ⟨generation, nonzero⟩ := moved.added_handle raised isAdded
    have check : validateRequest peer request =
        (validateDevice peer event.device).map (·, 0) := by
      rw [validateRequest, if_pos operation, uses]
    constructor
    · intro stale
      apply submit_state
      rw [check, validateDevice_state]
      · rfl
      · exact ⟨generation ▸ tables₁.generation, nonzero⟩
      · cases stale with
        | inl reconnected => exact .inl (generation ▸ left reconnected)
        | inr removed =>
            obtain ⟨first, last, rfl, silent⟩ := removed
            exact .inr (removed_stays_missing tables₁ goesOn silent)
    · intro accepted
      obtain ⟨device, fileId, valid⟩ := submit_accepts accepted
      rw [check] at valid
      cases checked : validateDevice peer event.device with
      | error status =>
          rw [checked] at valid
          cases valid
      | ok found => exact (validateDevice_onDrive checked).2
  · intro isCompletion opened uses operation
    obtain ⟨generation, shape⟩ := moved.opened_handle tables₀ raised isCompletion opened
    have check : validateRequest peer request =
        (validateFile peer event.file).map (·, event.file.fileId) := by
      rw [validateRequest, if_neg operation, uses]
    constructor
    · intro stale
      apply submit_state
      rw [check, validateFile_state]
      · rfl
      · exact ⟨generation ▸ tables₁.generation, shape⟩
      · rcases stale with reconnected | removed | closed
        · exact .inl (generation ▸ left reconnected)
        · obtain ⟨first, last, rfl, silent⟩ := removed
          exact .inr (removed_file_stays_missing tables₁ goesOn silent)
        · obtain ⟨first, closing, last, rfl, ⟨event', raised', isCompletion', closes, same⟩, silent⟩ :=
            closed
          rw [← same] at silent shape ⊢
          exact .inr (closed_file_stays_missing tables₁ goesOn raised' isCompletion' closes
            shape.2.1 silent)
    · intro accepted
      obtain ⟨device, fileId, valid⟩ := submit_accepts accepted
      rw [check] at valid
      cases checked : validateFile peer event.file with
      | error status =>
          rw [checked] at valid
          cases valid
      | ok found =>
          obtain ⟨onDevice, isOpen⟩ := validateFile_device checked
          exact ⟨(validateDevice_onDrive onDevice).2, isOpen⟩

end Absence

/-! ## Handles that name a newcomer -/

/-- The request that shuts the first drive down, through the handle its announcement gave out. -/
def shutdownRequest : DriveRequest :=
  { operation := .shutdown, device := ⟨1, 1⟩, build := fun _ _ _ => .ok [] }

def firstAdded : DriveEvent :=
  { type := .deviceAdded, device := ⟨1, 1⟩, preferredName := firstDevice.preferredName
    name := some [0x43] }

def noDrive (generation : UInt32) : DrivePeer :=
  { driveStart with state := .active, callback := true, generation }

theorem listening_run :
    run (driveStep noCharset) driveStart [.setState .active, .setCallback true] =
      .ok ([{}, {}], noDrive 1) := rfl

theorem firstDrive_step :
    driveStep noCharset (noDrive 1) (.announce 7 firstDrive) =
      .ok ({ events := [firstAdded] }, oneDrive 0) := rfl

def fileAnswer : DriveInput :=
  .completion (deviceWriteIoCompletion
    { deviceId := 1, completionId := 1, ioStatus := 0, payload := [9, 0, 0, 0, 1] })

/-- A read through the handle of the file that the answer opens. -/
def readRequest : DriveRequest :=
  { operation := .read, file := ⟨1, 1, 9, 0⟩, build := fun _ _ _ => .ok [] }

def oneFile : DrivePeer :=
  { oneDrive 1 with
    fileCount := 1
    files := driveStart.files.set 0 { present := true, generation := 1, deviceId := 1, fileId := 9 } }

def fileOpened : DriveEvent :=
  { type := .requestCompleted, requestId := requestIdOf 1 1, operation := some .create
    device := ⟨1, 1⟩, file := readRequest.file, information := 1 }

/-- The handle of a drive and that of a file on it, after the client connected again. -/
theorem stale_handles_refused_reconnect :
    (submitDriveRequest (noDrive 2) shutdownRequest fun _ _ => .ok).1.1 = .state ∧
      (submitDriveRequest oneFile readRequest fun _ _ => .ok).1.1 = .ok ∧
      (submitDriveRequest (driveStateReset oneFile true).2 readRequest fun _ _ => .ok).1.1 =
        .state := by
  have reconnected : run (driveStep noCharset) (oneDrive 0) [.reconnect] =
      .ok ([{ events := (driveStateReset (oneDrive 0) true).1 }], noDrive 2) := rfl
  have drive := (stale_handles_refused listening_run firstDrive_step List.mem_cons_self reconnected
    (by decide) shutdownRequest fun _ _ => .ok).1
  have asked := run_append openFirstDrive_run
    (run_singleton (oneDrive_submit (.inl rfl) 0 (.ok [])))
  have opened : driveStep noCharset
      { oneDrive 1 with
        pending := driveStart.pending.set 0 (firstPending 1 .create), pendingCount := 1 }
      fileAnswer = .ok ({ events := [fileOpened] }, oneFile) := by decide +kernel
  have gone := run_singleton (rfl : driveStep noCharset oneFile .reconnect =
    .ok ({ events := (driveStateReset oneFile true).1 }, (driveStateReset oneFile true).2))
  have file := (stale_handles_refused asked opened List.mem_cons_self gone (by decide) readRequest
    fun _ _ => .ok).2
  exact ⟨(drive rfl rfl (.inr rfl)).1 (.inl List.mem_cons_self), by decide +kernel,
    (file rfl ⟨rfl, rfl⟩ rfl (by decide)).1 (.inl List.mem_cons_self)⟩

theorem noDrive_reconnects {generation : UInt32} (count : Nat) (some : generation ≠ 0) :
    ∃ outs, run (driveStep noCharset) (noDrive generation)
      (List.replicate count .reconnect) = .ok (outs, noDrive (skipZero^[count] generation)) := by
  induction count generalizing generation with
  | zero => exact ⟨[], rfl⟩
  | succ count ih =>
    have step : driveStep noCharset (noDrive generation) .reconnect =
        .ok ({ events := (driveStateReset (noDrive generation) true).1 },
          noDrive (skipZero generation)) := by
      simp only [driveStep, driveStateReset, noDrive, if_neg some, if_true]
      rfl
    obtain ⟨outs, ran⟩ := ih (skipZero_ne_zero generation)
    rw [List.replicate_succ, run_cons_ok step, ran]
    exact ⟨_, rfl⟩

/-- A handle that was given out for a device that is gone is accepted for a device that came later:
    one announced under the same id in the same generation, and one announced after 2^32 - 1
    reconnects, which lead back to the generation. -/
theorem old_handle_names_newcomer :
    ∃ before outs₀ given event, run (driveStep noCharset) driveStart before = .ok (outs₀, given) ∧
      event ∈ outs₀.flatMap (·.events) ∧ event.type = .deviceAdded ∧
      shutdownRequest.device = event.device ∧
      (∃ outs peer,
        run (driveStep noCharset) given [.remove event.device.deviceId, .announce 7 firstDrive] =
          .ok (outs, peer) ∧
        (submitDriveRequest peer shutdownRequest fun _ _ => .ok).1.1 = .ok) ∧
      (∃ outs peer,
        run (driveStep noCharset) given
          (List.replicate (2 ^ 32 - 1) .reconnect ++ [.announce 7 firstDrive]) = .ok (outs, peer) ∧
        (submitDriveRequest peer shutdownRequest fun _ _ => .ok).1.1 = .ok) := by
  have given := run_append listening_run (run_singleton firstDrive_step)
  refine ⟨_, _, _, firstAdded, given, List.mem_cons_self, rfl, rfl, ?_, ?_⟩
  · exact ⟨_, _, rfl, by decide +kernel⟩
  · have first : run (driveStep noCharset) (oneDrive 0) [.reconnect] =
        .ok ([{ events := (driveStateReset (oneDrive 0) true).1 }], noDrive (skipZero 1)) := rfl
    have back : skipZero^[counterPeriod - 1] (skipZero 1) = 1 := by
      apply UInt32.toNat_inj.mp
      rw [skipZero_iterate_toNat (by decide)]
      decide
    obtain ⟨outs, ran⟩ := noDrive_reconnects (counterPeriod - 1) (skipZero_ne_zero 1)
    rw [back] at ran
    have all := run_append (run_append first ran) (run_singleton firstDrive_step)
    refine ⟨_, _, all, ?_⟩
    decide +kernel

end LibRdp.Server
