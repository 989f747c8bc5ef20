import LibRdp.Server.DriveTables

/-! # What a step does to the drive tables

Every step is one of nine moves. The invariant of the tables is kept move by move, and so
over every run.
-/

namespace LibRdp.Server

open Machine Machine.Table Channels

inductive FileMove (peer : DrivePeer) (data : Bytes) : DrivePeer → Prop where
  | same : FileMove peer data peer
  | opened {deviceId fileId : UInt32} {i : Nat} {old : DriveFile}
      (answers : (deviceParseIoCompletion data).map (·.deviceId) = .ok deviceId)
      (creates : (filesystemParseCreateResponse data).map Prod.fst = .ok fileId)
      (nonzero : fileId ≠ 0) (fresh : findFile peer peer.generation deviceId fileId = none)
      (room : ¬ peer.fileCount.toNat ≥ maxDriveFiles)
      (held : peer.files[i]? = some old) (free : old.present = false) :
      FileMove peer data
        { peer with
          files := peer.files.set i
            { present := true, generation := peer.generation, deviceId, fileId }
          fileCount := peer.fileCount + 1 }
  | closed {generation deviceId fileId : UInt32} {i : Nat} {file : DriveFile}
      (found : findFile peer generation deviceId fileId = some (i, file)) :
      FileMove peer data
        { peer with files := peer.files.set i {}, fileCount := decrement peer.fileCount }

def Succeeds (event : DriveEvent) (operation : DriveOperation) : Prop :=
  event.operation = some operation ∧ event.ioStatus = ioStatusSuccess

inductive DriveMove (peer : DrivePeer) : DriveInput → DriveOutput → DrivePeer → Prop where
  | quiet {state : PeerState} {callback : Bool} {next : UInt32} (noReset : input ≠ .reconnect)
      (heard : callback = false → peer.callback = false ∨ peer.pendingCount = 0)
      (silent : out.events = []) (noId : out.requestId = 0) :
      DriveMove peer input out { peer with state, callback, nextCompletionId := next }
  | added {announce : DeviceAnnounce} {i : Nat} {old new : RedirectedDevice}
      (held : peer.devices[i]? = some old) (free : old.present = false)
      (present : new.present = true) (generation : new.generation = peer.generation)
      (id : new.deviceId = announce.deviceId) (type : new.deviceType = announce.deviceType)
      (nonzero : announce.deviceId ≠ 0)
      (fresh : findRedirectedDevice peer announce.deviceId = none)
      (room : ¬ peer.deviceCount.toNat ≥ maxRedirectedDevices)
      (events : out.events =
        if new.deviceType = deviceTypeFilesystem then emitDevice peer new .deviceAdded else [])
      (noId : out.requestId = 0) :
      DriveMove peer (.announce channelId announce) out
        { peer with devices := peer.devices.set i new, deviceCount := peer.deviceCount + 1 }
  | dropped {deviceId : UInt32} {i : Nat} {slot : RedirectedDevice}
      (found : lookup (·.hasId deviceId) peer.devices = some (i, slot))
      (other : slot.deviceType ≠ deviceTypeFilesystem)
      (silent : out.events = []) (noId : out.requestId = 0) :
      DriveMove peer (.remove deviceId) out
        { peer with devices := peer.devices.set i {}, deviceCount := decrement peer.deviceCount }
  | removed {deviceId : UInt32} {i : Nat} {slot : RedirectedDevice} {left : DrivePeer}
      (found : lookup (·.hasId deviceId) peer.devices = some (i, slot))
      (drive : slot.deviceType = deviceTypeFilesystem)
      (dropped : left = removeDeviceFiles (cancelDeviceRequests peer deviceId).2 deviceId)
      (events : out.events =
        (cancelDeviceRequests peer deviceId).1 ++ emitDevice left slot .deviceRemoved)
      (noId : out.requestId = 0) :
      DriveMove peer (.remove deviceId) out
        { left with devices := left.devices.set i {}, deviceCount := decrement left.deviceCount }
  | submitted {request : DriveRequest} {device : RedirectedDevice} {fileId next : UInt32} {i : Nat}
      {free : DrivePending}
      (listens : peer.callback = true)
      (valid : validateRequest peer request = .ok (device, fileId))
      (room : ¬ peer.pendingCount.toNat ≥ maxDriveRequests)
      (held : peer.pending[i]? = some free) (isFree : free.present = false)
      (completion : completionId =
        (nextCompletionId peer.pending (maxDriveRequests + 1) peer.nextCompletionId).1)
      (silent : out.events = [])
      (id : out.requestId = requestIdOf peer.generation completionId) :
      DriveMove peer (.submit request send) out
        { peer with
          pending := peer.pending.set i
            { free with
              present := true, generation := peer.generation, completionId
              deviceId := device.deviceId, fileId, informationClass := request.informationClass
              operation := some request.operation
              requestId := requestIdOf peer.generation completionId }
          pendingCount := peer.pendingCount + 1, nextCompletionId := next }
  | cancelled {i : Nat} {pending : DrivePending}
      (found : findPending peer requestId = some (i, pending)) (live : pending.cancelled = false)
      (events : out.events = emitCancel peer pending) (noId : out.requestId = 0) :
      DriveMove peer (.cancel requestId) out
        { peer with pending := peer.pending.set i { pending with cancelled := true } }
  | absorbed {i : Nat} {pending : DrivePending}
      (held : peer.pending[i]? = some pending) (present : pending.present = true)
      (late : pending.cancelled = true)
      (silent : out.events = []) (noId : out.requestId = 0) :
      DriveMove peer (.completion data) out (clearPending peer i)
  | completed {left : DrivePeer} {i : Nat} {pending : DrivePending} {completion : IoCompletion}
      {event : DriveEvent}
      (answers : deviceParseIoCompletion data = .ok completion)
      (found : findCompletion peer completion.deviceId completion.completionId = some (i, pending))
      (live : pending.cancelled = false)
      (files : FileMove peer data left)
      (isCompletion : event.type = .requestCompleted) (its : event.requestId = pending.requestId)
      (opens : Succeeds event .create → event.file.generation = peer.generation ∧
        event.file.reserved = 0 ∧
        storeFile peer event.file.deviceId event.file.fileId = (.ok, left))
      (closes : Succeeds event .close → event.file = fillFileHandle pending ∧
        left = removeFile peer pending.generation pending.deviceId pending.fileId)
      (events : out.events = driveCallback peer event) (noId : out.requestId = 0) :
      DriveMove peer (.completion data) out (clearPending left i)
  | reset (events : out.events = (driveStateReset peer true).1) (noId : out.requestId = 0) :
      DriveMove peer .reconnect out (driveStateReset peer true).2

section Moves

variable {charset : Charset} {peer peer' : DrivePeer} {out : DriveOutput}

theorem DriveMove.same {input : DriveInput} (noReset : input ≠ .reconnect)
    (silent : out.events = []) (noId : out.requestId = 0) : DriveMove peer input out peer :=
  .quiet noReset (fun off => .inl off) silent noId

variable {i : Nat}

theorem lookup_free {slots : List α} {present : α → Bool} {old : α}
    (found : lookup (!present ·) slots = some (i, old)) :
    slots[i]? = some old ∧ present old = false := by
  obtain ⟨held, free⟩ := lookup_some found
  exact ⟨held, by simpa using free⟩

variable {status : Status} {events : List DriveEvent} {data : Bytes} {pending : DrivePending}

theorem redirectedDeviceStore_moves {channelId : UInt16} {announce : DeviceAnnounce}
    (done : redirectedDeviceStore charset peer channelId announce = ((status, events), peer')) :
    DriveMove peer (.announce channelId announce) { status, events } peer' := by
  unfold redirectedDeviceStore at done
  split at done
  · cases done
    exact .same nofun rfl rfl
  rename_i some
  split at done
  · cases done
    exact .same nofun rfl rfl
  rename_i fresh
  split at done
  · cases done
    exact .same nofun rfl rfl
  rename_i room
  split at done
  · cases done
    exact .same nofun rfl rfl
  split at done
  · cases done
    exact .same nofun rfl rfl
  rename_i found
  cases done
  obtain ⟨held, free⟩ := lookup_free found
  exact .added held free rfl rfl rfl rfl some (by simpa using fresh) room rfl rfl

variable {deviceId : UInt32} {requestId : UInt64}

theorem redirectedDeviceRemove_moves
    (done : redirectedDeviceRemove peer deviceId = (events, peer')) :
    DriveMove peer (.remove deviceId) { events } peer' := by
  unfold redirectedDeviceRemove at done
  split at done
  · cases done
    exact .same nofun rfl rfl
  rename_i i slot found
  by_cases drive : slot.deviceType = deviceTypeFilesystem
  · simp only [if_pos drive] at done
    cases done
    exact .removed found drive rfl rfl rfl
  simp only [if_neg drive] at done
  cases done
  exact .dropped found drive rfl rfl

theorem submitDriveRequest_moves {request : DriveRequest} {send : UInt16 → Bytes → Status}
    (done : submitDriveRequest peer request send = ((status, requestId), peer')) :
    DriveMove peer (.submit request send) { status, requestId } peer' := by
  unfold submitDriveRequest at done
  split at done
  · cases done
    exact .same nofun rfl rfl
  rename_i listens
  split at done
  · cases done
    exact .same nofun rfl rfl
  rename_i device fileId valid
  unfold submitOn at done
  split at done
  · cases done
    exact .same nofun rfl rfl
  rename_i room
  have quiet : ∀ {status next},
      DriveMove peer (.submit request send) { status, requestId := 0 }
        { peer with nextCompletionId := next } :=
    fun {_ _} => .quiet nofun (fun off => .inl off) rfl rfl
  simp only at done
  split at done
  · cases done
    exact quiet
  rename_i i free found
  obtain ⟨held, isFree⟩ := lookup_free found
  split at done
  · cases done
    exact quiet
  split at done
  · cases done
    exact quiet
  split at done
  · cases done
    refine .submitted ?_ valid room held isFree rfl rfl rfl
    simpa using fun off => listens (.inr off)
  · cases done
    exact quiet

theorem cancelDriveRequest_moves
    (done : cancelDriveRequest peer requestId = ((status, events), peer')) :
    DriveMove peer (.cancel requestId) { status, events } peer' := by
  unfold cancelDriveRequest at done
  split at done
  · cases done
    exact .same nofun rfl rfl
  split at done
  · cases done
    exact .same nofun rfl rfl
  split at done
  · cases done
    exact .same nofun rfl rfl
  rename_i found
  split at done
  · cases done
    exact .same nofun rfl rfl
  rename_i live
  cases done
  exact .cancelled found (by simpa using live) rfl rfl

theorem FileMove.sameDrives (moved : FileMove peer data peer') : SameDrives peer peer' := by
  cases moved with
  | same => exact ⟨rfl, rfl, rfl, rfl⟩
  | opened => exact ⟨rfl, rfl, rfl, rfl⟩
  | closed => exact ⟨rfl, rfl, rfl, rfl⟩

theorem storeFile_moves {deviceId fileId : UInt32} {data : Bytes}
    (done : storeFile peer deviceId fileId = (.ok, peer'))
    (answers : (deviceParseIoCompletion data).map (·.deviceId) = .ok deviceId)
    (creates : (filesystemParseCreateResponse data).map Prod.fst = .ok fileId) :
    FileMove peer data peer' := by
  unfold storeFile at done
  split at done
  · cases done
  rename_i nonzero
  split at done
  · cases done
  rename_i fresh
  split at done
  · cases done
  rename_i room
  split at done
  · cases done
  rename_i found
  cases done
  obtain ⟨held, free⟩ := lookup_free found
  exact .opened answers creates nonzero (by simpa using fresh) room held free

theorem removeFile_moves (peer : DrivePeer) (generation deviceId fileId : UInt32) (data : Bytes) :
    FileMove peer data (removeFile peer generation deviceId fileId) := by
  unfold removeFile
  split
  · exact .same
  · rename_i found
    exact .closed found

variable {event : DriveEvent}

variable {event' : DriveEvent}

theorem parseSuccess_create (create : pending.operation = some .create)
    (parsed : parseSuccess pending data event = .ok event') :
    (filesystemParseCreateResponse data).map Prod.fst = .ok event'.file.fileId := by
  simp only [parseSuccess, create] at parsed
  obtain ⟨⟨fileId, information⟩, read, made⟩ := bind_eq_ok.mp parsed
  cases made
  rw [read]
  rfl

theorem parseSuccess_about (parsed : parseSuccess pending data event = .ok event') :
    event'.type = event.type ∧ event'.requestId = event.requestId ∧
      event'.operation = event.operation ∧ event'.ioStatus = event.ioStatus ∧
      (pending.operation ≠ some .create → event'.file = event.file) := by
  unfold parseSuccess at parsed
  split at parsed
  · rename_i create
    obtain ⟨_, _, made⟩ := bind_eq_ok.mp parsed
    cases made
    exact ⟨rfl, rfl, rfl, rfl, fun other => absurd create other⟩
  all_goals first
    | (obtain ⟨_, _, made⟩ := bind_eq_ok.mp parsed
       cases made
       exact ⟨rfl, rfl, rfl, rfl, fun _ => rfl⟩)
    | (cases parsed
       exact ⟨rfl, rfl, rfl, rfl, fun _ => rfl⟩)

structure AboutRequest (pending : DrivePending) (completion : IoCompletion) (event : DriveEvent) :
    Prop where
  type : event.type = .requestCompleted
  requestId : event.requestId = pending.requestId
  operation : event.operation = pending.operation
  ioStatus : event.ioStatus = completion.ioStatus
  file : pending.operation ≠ some .create → event.file = fillFileHandle pending

theorem commitCompletion_moves {completion : IoCompletion}
    (answers : deviceParseIoCompletion data = .ok completion)
    (found : findCompletion peer completion.deviceId completion.completionId = some (i, pending))
    (current : pending.generation = peer.generation) (live : pending.cancelled = false)
    (creates : pending.operation = some .create → completion.ioStatus = ioStatusSuccess →
      (filesystemParseCreateResponse data).map Prod.fst = .ok event.file.fileId)
    (about : AboutRequest pending completion event)
    (done : commitCompletion peer i pending completion event = ((status, events), peer')) :
    DriveMove peer (.completion data) { status, events } peer' := by
  obtain ⟨_, _, its, _⟩ := findCompletion_some found
  unfold commitCompletion at done
  split at done
  · rename_i isCreate
    split at done
    · rename_i left stored
      cases done
      have moved := @storeFile_moves peer _ _ _ data stored (by rw [answers]; rfl)
        (creates isCreate.1 isCreate.2)
      have delivers : driveCallback left = driveCallback peer := by
        unfold driveCallback
        rw [moved.sameDrives.callback]
      rw [delivers]
      have isCompletion : DriveEvent.type
          { event with file := ⟨pending.generation, pending.deviceId, event.file.fileId, 0⟩ } =
            .requestCompleted := about.type
      refine .completed answers found live moved isCompletion about.requestId ?_ ?_ rfl rfl
      · intro _
        rw [← its] at stored
        exact ⟨current, rfl, stored⟩
      · intro closes
        have isClose := about.operation.symm.trans closes.1
        rw [isCreate.1] at isClose
        cases isClose
    · cases done
      exact .same nofun rfl rfl
  · rename_i notCreate
    have noOpen : ∀ {left : DrivePeer}, Succeeds event .create →
        event.file.generation = peer.generation ∧ event.file.reserved = 0 ∧
          storeFile peer event.file.deviceId event.file.fileId = (.ok, left) := by
      intro left opens
      exact absurd ⟨about.operation.symm.trans opens.1, about.ioStatus.symm.trans opens.2⟩ notCreate
    split at done
    · rename_i isClose
      cases done
      have moved := removeFile_moves peer pending.generation pending.deviceId pending.fileId data
      have delivers : driveCallback (removeFile peer pending.generation pending.deviceId
          pending.fileId) = driveCallback peer := by
        unfold driveCallback
        rw [moved.sameDrives.callback]
      rw [delivers]
      refine .completed answers found live moved about.type about.requestId noOpen ?_ rfl rfl
      intro _
      refine ⟨about.file ?_, rfl⟩
      rw [isClose.1]
      nofun
    · rename_i notClose
      cases done
      refine .completed answers found live .same about.type about.requestId noOpen ?_ rfl rfl
      intro closes
      exact absurd ⟨about.operation.symm.trans closes.1, about.ioStatus.symm.trans closes.2⟩ notClose

theorem handleCompletion_moves (done : handleCompletion peer data = ((status, events), peer')) :
    DriveMove peer (.completion data) { status, events } peer' := by
  unfold handleCompletion at done
  split at done
  · cases done
    exact .same nofun rfl rfl
  rename_i completion answers
  split at done
  · cases done
    exact .same nofun rfl rfl
  rename_i device _
  split at done
  · cases done
    exact .same nofun rfl rfl
  split at done
  · cases done
    exact .same nofun rfl rfl
  rename_i i pending found
  split at done
  · cases done
    exact .same nofun rfl rfl
  rename_i current
  rw [ne_eq, not_not] at current
  split at done
  · rename_i late
    cases done
    obtain ⟨held, present, _⟩ := findCompletion_some found
    exact .absorbed held present late rfl rfl
  rename_i live
  simp only at done
  split at done
  · cases done
    exact .same nofun rfl rfl
  rename_i event parsed
  refine commitCompletion_moves answers found current (by simpa using live) ?_ ?_ done
  · intro create success
    rw [if_pos success] at parsed
    exact parseSuccess_create create parsed
  · split at parsed
    · obtain ⟨type, id, operation, ioStatus, file⟩ := parseSuccess_about parsed
      exact ⟨type, id, operation, ioStatus, file⟩
    · cases parsed
      exact ⟨rfl, rfl, rfl, rfl, fun _ => rfl⟩

theorem driveStep_moves {input : DriveInput}
    (step : driveStep charset peer input = .ok (out, peer')) : DriveMove peer input out peer' := by
  cases input with
  | announce channelId announce =>
    cases step
    exact redirectedDeviceStore_moves rfl
  | remove deviceId =>
    cases step
    exact redirectedDeviceRemove_moves rfl
  | submit request send =>
    cases step
    exact submitDriveRequest_moves rfl
  | cancel requestId =>
    cases step
    exact cancelDriveRequest_moves rfl
  | completion data =>
    cases step
    exact handleCompletion_moves rfl
  | reconnect =>
    cases step
    exact .reset rfl rfl
  | setCallback callback =>
    unfold driveStep setDriveCallback at step
    simp only at step
    split at step
    · cases step
      exact .same nofun rfl rfl
    split at step
    · cases step
      exact .same nofun rfl rfl
    rename_i idle
    cases step
    refine .quiet nofun ?_ rfl rfl
    intro off
    right
    simpa [off, UInt32.not_lt] using idle
  | setState state =>
    cases step
    exact .quiet nofun (fun off => .inl off) rfl rfl

theorem DriveTables.listens (tables : DriveTables peer) (held : peer.pending[i]? = some pending)
    (present : pending.present = true) : peer.callback = true :=
  ((tables.pending held).1 present).2.2.2

theorem DriveTables.otherCompletion (tables : DriveTables peer)
    (held : peer.pending[i]? = some pending) (present : pending.present = true) {j : Nat}
    {other : DrivePending} (apart : j ≠ i) (atJ : peer.pending[j]? = some other)
    (presentJ : other.present = true) : other.completionId ≠ pending.completionId :=
  fun same => apart (tables.completionIds atJ held presentJ present same)

theorem DriveTables.clearPending (tables : DriveTables peer)
    (held : peer.pending[i]? = some pending) (present : pending.present = true) :
    DriveTables (clearPending peer i) := by
  have some : 0 < peer.pending.countP (·.present) := countP_pos_of_held held present
  have := tables.pendingCount
  refine @DriveTables.setPending peer tables i pending {} _ peer.nextCompletionId held
    (pendingSlot_blank _) nofun ?_
  rw [present, decrement_toNat]
  simp only [if_true, Bool.false_eq_true, if_false]
  omega

theorem FileMove.tables (moved : FileMove peer data peer') (tables : DriveTables peer)
    (on : ∀ deviceId, (deviceParseIoCompletion data).map (·.deviceId) = .ok deviceId →
      OnDrive peer peer.generation deviceId) : DriveTables peer' := by
  cases moved with
  | same => exact tables
  | @opened deviceId fileId i old answers creates nonzero fresh room held free =>
    refine tables.setFile held (fun _ => ⟨on deviceId answers, nonzero⟩) ?_ ?_
    · intro _ j file _ atJ present same
      have current := (tables.files atJ present).1.1
      cases same
      have fails := lookup_none fresh atJ
      simp [present, current] at fails
    · rw [free, increment_toNat room (by decide)]
      rfl
  | @closed generation deviceId fileId i file found =>
    obtain ⟨held, present, _⟩ := findFile_some found
    have some : 0 < peer.files.countP (·.present) := countP_pos_of_held held present
    have := tables.fileCount
    refine tables.setFile held (fileSlot_blank _) nofun ?_
    rw [present, decrement_toNat]
    simp only [if_true, Bool.false_eq_true, if_false]
    omega

theorem FileMove.pending_eq (moved : FileMove peer data peer') : peer'.pending = peer.pending := by
  cases moved <;> rfl

theorem not_onDrive {generation : UInt32} {slot : RedirectedDevice}
    (found : lookup (·.hasId deviceId) peer.devices = some (i, slot))
    (other : slot.deviceType ≠ deviceTypeFilesystem) : ¬ OnDrive peer generation deviceId := by
  intro on
  obtain ⟨_, device, same, drive, _⟩ := on
  rw [findRedirectedDevice, found] at same
  cases same
  exact other drive

theorem DriveMove.tables {input : DriveInput} (moved : DriveMove peer input out peer')
    (tables : DriveTables peer) : DriveTables peer' := by
  cases moved with
  | @quiet _ _ state callback next noReset heard =>
    refine { tables with devices := tables.devices, files := tables.files, pending := ?_ }
    intro i pending held
    refine ⟨?_, (tables.pending held).2⟩
    intro present
    obtain ⟨on, completion, id, listens⟩ := (tables.pending held).1 present
    refine ⟨on, completion, id, ?_⟩
    cases callback with
    | true => rfl
    | false =>
      cases heard rfl with
      | inl off => exact absurd (off.symm.trans listens) nofun
      | inr idle =>
        have some : 0 < peer.pending.countP (·.present) := countP_pos_of_held held present
        have counted := tables.pendingCount
        rw [idle] at counted
        exact absurd counted.symm (Nat.ne_of_gt some)
  | added held free present generation id type nonzero fresh room =>
    apply tables.addDevice held free present (fun _ => ⟨generation, ?_⟩) ?_ room
    · rw [id]
      exact fresh
    · rw [id]
      exact nonzero
  | @dropped _ deviceId i slot found other =>
    obtain ⟨held, present, rfl⟩ := hasId_some found
    apply tables.dropDevice held present
    · intro j file atJ presentJ same
      exact not_onDrive found other (same ▸ (tables.files atJ presentJ).1)
    · intro j pending atJ presentJ same
      exact not_onDrive found other (same ▸ ((tables.pending atJ).1 presentJ).1)
  | @removed _ deviceId i slot left found drive dropped =>
    obtain ⟨held, present, rfl⟩ := hasId_some found
    have rest := (tables.dropPending slot.deviceId).dropFiles slot.deviceId
    rw [← dropped] at rest
    have devices : left.devices = peer.devices := by rw [dropped]; rfl
    refine rest.dropDevice (by rw [devices]; exact held) present ?_ ?_
    all_goals
      rw [dropped]
      intro j entry atJ presentJ same
      simp only [removeDeviceFiles, cancelDeviceRequests, List.getElem?_map] at atJ
      obtain ⟨was, _, rfl⟩ := Option.map_eq_some_iff.mp atJ
      split at presentJ
      · cases presentJ
      rename_i missed
      rw [if_neg missed] at same
      simp [presentJ, same] at missed
  | @submitted _ completionId _ request device fileId next i free listens valid room held isFree
      completion =>
      obtain ⟨nonzero, unused⟩ :=
        nextCompletionId_fresh (Nat.le_of_eq tables.pendingLength) peer.nextCompletionId
      rw [← completion] at nonzero unused
      refine tables.setPending held ⟨fun _ => ⟨?_, nonzero, rfl, listens⟩, nofun⟩ ?_ ?_
      · exact validateRequest_onDrive valid
      · intro _ j other apart atJ presentJ same
        rw [List.any_eq_false] at unused
        have fails := unused other (List.mem_of_getElem? atJ)
        simp [DrivePending.waitsFor, presentJ, same] at fails
      · rw [isFree, increment_toNat room (by decide)]
        rfl
  | @cancelled _ requestId i pending found live =>
    obtain ⟨held, present, _⟩ := findPending_some found
    have slot := tables.pending held
    refine @DriveTables.setPending peer tables i pending _ peer.pendingCount peer.nextCompletionId
      held ⟨slot.1, fun free => absurd (free.symm.trans present) nofun⟩ ?_ rfl
    intro _ j other apart atJ presentJ
    exact tables.otherCompletion held present apart atJ presentJ
  | absorbed held present => exact tables.clearPending held present
  | @completed data _ left i pending completion event answers found live files =>
    obtain ⟨held, present, device, _⟩ := findCompletion_some found
    refine (files.tables tables ?_).clearPending (by rw [files.pending_eq]; exact held) present
    intro deviceId same
    rw [answers] at same
    cases same
    have on := ((tables.pending held).1 present).1
    rw [device] at on
    exact ⟨rfl, on.2⟩
  | reset => exact driveTables_reset peer true

theorem driveTables_run {inputs : List DriveInput} {outs : List DriveOutput}
    (tables : DriveTables peer) (ran : run (driveStep charset) peer inputs = .ok (outs, peer')) :
    DriveTables peer' := by
  apply run_invariant DriveTables _ tables ran
  intro peer input out peer' _ tables taken
  exact (driveStep_moves taken).tables tables

end Moves

end LibRdp.Server
