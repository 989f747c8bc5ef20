import LibRdp.Server.DriveRuns

/-! # Every drive request is settled once

A request that was handed out is completed or cancelled exactly once: what was handed out
is, at every moment, what was settled and what still waits. The ids themselves are numbers
of 32 bits beside the generation, so one is handed out again after a whole round of them.
-/

namespace LibRdp.Server

open Machine Machine.Table Channels

/-- The event is the last word on a request: completed or cancelled. -/
def DriveEvent.settles (requestId : UInt64) (event : DriveEvent) : Bool :=
  (event.type == .requestCompleted || event.type == .requestCancelled) &&
    event.requestId == requestId

def DrivePending.awaits (requestId : UInt64) (pending : DrivePending) : Bool :=
  pending.present && (!pending.cancelled && pending.requestId == requestId)

def DriveOutput.handsOut (requestId : UInt64) (out : DriveOutput) : Bool :=
  out.requestId != 0 && out.requestId == requestId

def settledIn (requestId : UInt64) (outs : List DriveOutput) : Nat :=
  (outs.flatMap (·.events)).countP (·.settles requestId)

def waitingIn (requestId : UInt64) (peer : DrivePeer) : Nat :=
  peer.pending.countP (·.awaits requestId)

section Account

variable {charset : Charset} {peer peer' : DrivePeer} {out : DriveOutput} {requestId : UInt64}

theorem emitDevice_settles (peer : DrivePeer) (device : RedirectedDevice) {type : DriveEventType}
    (added : type = .deviceAdded ∨ type = .deviceRemoved) :
    (emitDevice peer device type).countP (·.settles requestId) = 0 := by
  unfold emitDevice driveCallback
  cases added with
  | inl is => cases peer.callback <;> simp [is, DriveEvent.settles]
  | inr is => cases peer.callback <;> simp [is, DriveEvent.settles]

theorem emitCancel_settles (listens : peer.callback = true) (pending : DrivePending) :
    (emitCancel peer pending).countP (·.settles requestId) =
      if pending.requestId == requestId then 1 else 0 := by
  simp [emitCancel, driveCallback, listens, DriveEvent.settles, List.countP_cons]

theorem account_set {pending pending' : List DrivePending} {i : Nat} {old new : DrivePending}
    (held : pending[i]? = some old) (set : pending' = pending.set i new) {settled handed : Nat}
    (even : settled + (if new.awaits requestId then 1 else 0) =
      (if old.awaits requestId then 1 else 0) + handed) :
    settled + pending'.countP (·.awaits requestId) =
      pending.countP (·.awaits requestId) + handed := by
  have moved := @countP_set _ (·.awaits requestId) _ _ _ new held
  rw [← set] at moved
  omega

variable {input : DriveInput} {outs : List DriveOutput}

theorem DriveMove.account (moved : DriveMove peer input out peer') (tables : DriveTables peer)
    (requestId : UInt64) :
    out.events.countP (·.settles requestId) + waitingIn requestId peer' =
      waitingIn requestId peer + if out.handsOut requestId then 1 else 0 := by
  have none : out.requestId = 0 → out.handsOut requestId = false := by
    intro noId
    simp [DriveOutput.handsOut, noId]
  cases moved with
  | quiet noReset heard silent noId =>
    rw [silent, none noId]
    exact Nat.zero_add _
  | added held free present generation id type nonzero fresh room events noId =>
    have silent : out.events.countP (·.settles requestId) = 0 := by
      rw [events]
      split
      · exact emitDevice_settles peer _ (.inl rfl)
      · rfl
    rw [silent, none noId]
    exact Nat.zero_add _
  | dropped found other silent noId =>
    rw [silent, none noId]
    exact Nat.zero_add _
  | @removed _ deviceId i slot left found drive dropped events noId =>
    rw [events, none noId, List.countP_append, emitDevice_settles left slot (.inr rfl)]
    have cancels : (cancelDeviceRequests peer deviceId).1.countP (·.settles requestId) =
        peer.pending.countP fun pending =>
          (pending.present && pending.deviceId == deviceId) && pending.awaits requestId := by
      apply countP_flatMap_filter
      intro pending held hit
      obtain ⟨i, atI⟩ := List.getElem?_of_mem held
      have present := (Bool.and_eq_true_iff.mp hit).1
      cases late : pending.cancelled with
      | true => simp [DrivePending.awaits, late]
      | false =>
        simp [DrivePending.awaits, late, present, emitCancel_settles (tables.listens atI present)]
    have blanked := @countP_map_blank _ (·.awaits requestId) peer.pending
      (fun pending => pending.present && pending.deviceId == deviceId) {} rfl
    have pending : waitingIn requestId { left with
        devices := left.devices.set i {}, deviceCount := decrement left.deviceCount } =
        (peer.pending.map fun pending =>
          if pending.present && pending.deviceId == deviceId then {} else pending).countP
            (·.awaits requestId) := by
      rw [dropped]
      rfl
    rw [cancels, pending]
    unfold waitingIn
    simp only [Bool.false_eq_true, if_false]
    omega
  | @submitted _ completionId _ request device fileId next i free listens valid room held isFree
      completion silent id =>
      have nonzero := (nextCompletionId_fresh (Nat.le_of_eq tables.pendingLength)
        peer.nextCompletionId).1
      rw [← completion] at nonzero
      have live := (tables.pending held).2 isFree
      apply account_set held rfl
      rw [silent]
      simp [DrivePending.awaits, DriveOutput.handsOut, isFree, live, id,
        requestIdOf_ne_zero nonzero]
  | @cancelled _ requestId' i pending found live events noId =>
    obtain ⟨held, present, _⟩ := findPending_some found
    apply account_set held rfl
    rw [events, none noId, emitCancel_settles (tables.listens held present)]
    simp [DrivePending.awaits, live, present]
  | absorbed held present late silent noId =>
    apply account_set held rfl
    rw [silent, none noId]
    simp [DrivePending.awaits, late]
  | @completed data _ left i pending completion event answers found live files isCompletion its
      opens closes events noId =>
      obtain ⟨held, present, _⟩ := findCompletion_some found
      apply account_set held (by rw [← files.pending_eq]; rfl)
      rw [events, none noId, driveCallback, if_pos (tables.listens held present)]
      simp [DriveEvent.settles, DrivePending.awaits, isCompletion, its, live, present,
        List.countP_cons]
  | reset events noId =>
    rw [events, none noId]
    have cleared : waitingIn requestId (driveStateReset peer true).2 = 0 := by
      simp [waitingIn, driveStateReset, List.countP_replicate, DrivePending.awaits]
    have cancels : ((peer.pending.filter fun pending =>
        pending.present && !pending.cancelled).flatMap (emitCancel peer)).countP
          (·.settles requestId) = waitingIn requestId peer := by
      have counted := @countP_flatMap_filter _ (·.requestId == requestId) peer.pending _
        (fun pending => pending.present && !pending.cancelled) (emitCancel peer)
        (·.settles requestId) fun pending held hit => by
          obtain ⟨i, atI⟩ := List.getElem?_of_mem held
          exact emitCancel_settles (tables.listens atI (Bool.and_eq_true_iff.mp hit).1) pending
      rw [counted, waitingIn]
      apply List.countP_congr
      intro pending _
      rw [DrivePending.awaits, Bool.and_assoc]
    have removes : ((peer.devices.filter fun device =>
        device.present && device.deviceType == deviceTypeFilesystem).flatMap
          (emitDevice peer · .deviceRemoved)).countP (·.settles requestId) = 0 := by
      rw [List.countP_flatMap]
      simp [Function.comp_def, emitDevice_settles peer _ (.inr rfl)]
    rw [cleared]
    simp only [driveStateReset, if_true, List.countP_append, cancels, removes]
    simp

theorem account_run {inputs : List DriveInput} (tables : DriveTables peer)
    (ran : run (driveStep charset) peer inputs = .ok (outs, peer')) (requestId : UInt64) :
    settledIn requestId outs + waitingIn requestId peer' =
      waitingIn requestId peer + outs.countP (·.handsOut requestId) := by
  induction inputs generalizing peer outs with
  | nil =>
    cases ran
    exact Nat.zero_add _
  | cons input rest ih =>
    obtain ⟨out, next, outs', taken, later, rfl⟩ := run_cons_split ran
    have moved := driveStep_moves taken
    have now := moved.account tables requestId
    have then_ := ih (moved.tables tables) later
    simp only [settledIn, List.flatMap_cons, List.countP_append, List.countP_cons] at then_ ⊢
    omega

theorem DriveTables.waiting_le_one (tables : DriveTables peer) (requestId : UInt64) :
    waitingIn requestId peer ≤ 1 := by
  apply tables.requestIds.countP_le_one
  intro pending awaits
  simp only [DrivePending.awaits, Bool.and_eq_true, beq_iff_eq] at awaits
  exact ⟨awaits.1, awaits.2.2⟩

theorem DriveMove.silent_of_handsOut (moved : DriveMove peer input out peer')
    (hands : out.handsOut requestId = true) : out.events = [] := by
  have id : out.requestId ≠ 0 := by
    simp only [DriveOutput.handsOut, Bool.and_eq_true, bne_iff_ne] at hands
    exact hands.1
  cases moved with
  | submitted listens valid room held isFree completion silent => exact silent
  | quiet _ _ _ noId | dropped _ _ _ noId | cancelled _ _ _ noId | reset _ noId => exact absurd noId id
  | added held free present generation id' type nonzero fresh room events noId => exact absurd noId id
  | removed found drive dropped events noId => exact absurd noId id
  | absorbed held present late silent noId => exact absurd noId id
  | completed answers found live files isCompletion its opens closes events noId =>
    exact absurd noId id

theorem handed_out_settled {next : DrivePeer} {later : List DriveInput}
    (tables : DriveTables peer) (taken : driveStep charset peer input = .ok (out, next))
    (hands : out.handsOut requestId = true)
    (ran : run (driveStep charset) next later = .ok (outs, peer'))
    (once : ∀ other ∈ outs, other.handsOut requestId = false) :
    settledIn requestId outs + waitingIn requestId peer' = 1 := by
  have moved := driveStep_moves taken
  have now := moved.account tables requestId
  have account := account_run (moved.tables tables) ran requestId
  have atMost := (moved.tables tables).waiting_le_one requestId
  have none : outs.countP (·.handsOut requestId) = 0 := by
    rw [List.countP_eq_zero]
    intro other held hands
    rw [once other held] at hands
    cases hands
  rw [moved.silent_of_handsOut hands, hands] at now
  simp only [List.countP_nil, if_true] at now
  omega

theorem handleCompletion_refused {data : Bytes} {status : Status} {events : List DriveEvent}
    (done : handleCompletion peer data = ((status, events), peer')) (refused : status ≠ .ok) :
    peer' = peer ∧ events = [] := by
  unfold handleCompletion at done
  split at done
  · cases done
    exact ⟨rfl, rfl⟩
  split at done
  · cases done
    exact ⟨rfl, rfl⟩
  split at done
  · cases done
    exact ⟨rfl, rfl⟩
  split at done
  · cases done
    exact ⟨rfl, rfl⟩
  split at done
  · cases done
    exact ⟨rfl, rfl⟩
  split at done
  · cases done
    exact absurd rfl refused
  simp only at done
  split at done
  · cases done
    exact ⟨rfl, rfl⟩
  unfold commitCompletion at done
  split at done
  · split at done
    · cases done
      exact absurd rfl refused
    · cases done
      exact ⟨rfl, rfl⟩
  split at done
  · cases done
    exact absurd rfl refused
  · cases done
    exact absurd rfl refused

theorem driveTables_start : DriveTables driveStart := driveTables_reset {} false

/-- In every run the tables are counted, hold no id twice and refer to drives that are there; a
    completion id is always found; a completion that is refused changes nothing; and each time an id
    is handed out, its request is settled at most once until the id is handed out again, and exactly
    once when its slot is gone. -/
theorem drive_requests_settled {inputs : List DriveInput} {outs : List DriveOutput}
    (ran : run (driveStep charset) driveStart inputs = .ok (outs, peer)) :
    DriveRegistry peer ∧
    (nextCompletionId peer.pending (maxDriveRequests + 1) peer.nextCompletionId).1 ≠ 0 ∧
    (∀ data status events after, handleCompletion peer data = ((status, events), after) →
      status ≠ .ok → after = peer ∧ events = []) ∧
    (∀ requestId, settledIn requestId outs + waitingIn requestId peer =
      outs.countP (·.handsOut requestId)) ∧
    (∀ requestId before out later, outs = before ++ out :: later →
      out.handsOut requestId = true → (∀ other ∈ later, other.handsOut requestId = false) →
      settledIn requestId later ≤ 1 ∧
      ((∀ pending ∈ peer.pending, pending.present → pending.requestId ≠ requestId) →
        settledIn requestId later = 1)) := by
  have tables := driveTables_run driveTables_start ran
  refine ⟨tables.registry, ?_, ?_, ?_, ?_⟩
  · exact (nextCompletionId_fresh (Nat.le_of_eq tables.pendingLength) _).1
  · intro data status events after done refused
    exact handleCompletion_refused done refused
  · intro requestId
    have account := account_run driveTables_start ran requestId
    have none : waitingIn requestId driveStart = 0 := by
      simp [waitingIn, driveStart, driveStateReset, List.countP_replicate, DrivePending.awaits]
    rw [none, Nat.zero_add] at account
    exact account
  · intro requestId before out later cut hands once
    subst cut
    obtain ⟨inputs₁, inputs₂, middle, rfl, ran₁, ran₂⟩ := run_split ran
    cases inputs₂ with
    | nil => cases ran₂
    | cons input rest =>
        obtain ⟨out', next, outs', taken, ran₃, same⟩ := run_cons_split ran₂
        cases same
        have settled := handed_out_settled (driveTables_run driveTables_start ran₁) taken hands ran₃
          once
        refine ⟨by omega, ?_⟩
        intro gone
        have none : waitingIn requestId peer = 0 := by
          rw [waitingIn, List.countP_eq_zero]
          intro pending held awaits
          simp only [DrivePending.awaits, Bool.and_eq_true, beq_iff_eq] at awaits
          exact gone pending held awaits.1 awaits.2.2
        omega

end Account

def noCharset : Charset :=
  ⟨fun _ => .error .protocolError, fun _ => .error .protocolError, nofun, nofun⟩

def firstDrive : DeviceAnnounce :=
  { deviceType := deviceTypeFilesystem, deviceId := 1
    preferredDosName := [0x43, 0, 0, 0, 0, 0, 0, 0] }

def firstDevice : RedirectedDevice :=
  { present := true, deviceId := 1, deviceType := deviceTypeFilesystem, generation := 1
    channelId := 7, preferredName := firstDrive.preferredDosName ++ [0], name := some [0x43] }

def oneDrive (next : UInt32) : DrivePeer :=
  { driveStart with
    state := .active, callback := true, nextCompletionId := next, deviceCount := 1
    devices := driveStart.devices.set 0 firstDevice }

def openFirstDrive : List DriveInput :=
  [.setState .active, .setCallback true, .announce 7 firstDrive]

def submitFirst (operation : DriveOperation) (packet : Except Status Bytes) : DriveInput :=
  .submit { operation, device := ⟨1, 1⟩, build := fun _ _ _ => packet } fun _ _ => .ok

abbrev shutdownFirst : Except Status Bytes → DriveInput := submitFirst .shutdown

def firstPending (completionId : UInt32) (operation : DriveOperation) : DrivePending :=
  { present := true, generation := 1, completionId, deviceId := 1, operation := some operation
    requestId := requestIdOf 1 completionId }

def failFirst : DriveInput :=
  .completion (deviceWriteIoCompletion { deviceId := 1, completionId := 1, ioStatus := 1 })

def firstRound : List DriveInput := [shutdownFirst (.ok []), failFirst]

theorem nextCompletionId_idle {pending : List DrivePending} (attempts : Nat) (next : UInt32)
    (idle : Every (·.present = false) pending) :
    nextCompletionId pending (attempts + 1) next = (skipZero next, skipZero next) := by
  have free : pending.any (·.waitsFor (skipZero next)) = false := by
    rw [List.any_eq_false]
    intro slot held waits
    obtain ⟨i, atI⟩ := List.getElem?_of_mem held
    simp [DrivePending.waitsFor, idle atI] at waits
  simp only [nextCompletionId, free, Bool.false_eq_true, if_false]

theorem oneDrive_submit {operation : DriveOperation}
    (whole : operation = .create ∨ operation = .shutdown) (next : UInt32)
    (packet : Except Status Bytes) :
    driveStep noCharset (oneDrive next) (submitFirst operation packet) = .ok (
      match packet with
      | .error status => ({ status }, oneDrive (skipZero next))
      | .ok _ =>
        ({ requestId := requestIdOf 1 (skipZero next) },
          { oneDrive (skipZero next) with
            pending := driveStart.pending.set 0 (firstPending (skipZero next) operation)
            pendingCount := 1 })) := by
  have free : lookup (!·.present) (oneDrive next).pending = some (0, {}) := rfl
  have idle : Every (·.present = false) (oneDrive next).pending := every_replicate _ rfl
  have room : ¬ (0 : UInt32).toNat ≥ maxDriveRequests := by decide
  have active : ¬ (PeerState.active ≠ .active ∨ (!true) = true) := by decide
  have valid : validateRequest (oneDrive next)
      { operation, device := ⟨1, 1⟩, build := fun _ _ _ => packet } = .ok (firstDevice, 0) := by
    rw [validateRequest, if_pos whole]
    rfl
  have counted : (oneDrive next).pendingCount = 0 := rfl
  have isActive : (oneDrive next).state = .active := rfl
  have listens : (oneDrive next).callback = true := rfl
  simp only [driveStep, submitFirst, submitDriveRequest, isActive, listens, if_neg active, valid,
    submitOn, counted, if_neg room, free, nextCompletionId_idle maxDriveRequests _ idle]
  rw [if_neg (skipZero_ne_zero _)]
  cases packet with
  | error status => rfl
  | ok packet => rfl

def failedFirst : DriveEvent :=
  { type := .requestCompleted, requestId := requestIdOf 1 1, operation := some .shutdown
    ioStatus := 1, device := ⟨1, 1⟩ }

theorem failFirst_step :
    driveStep noCharset
      { oneDrive 1 with
        pending := driveStart.pending.set 0 (firstPending 1 .shutdown), pendingCount := 1 } failFirst =
      .ok ({ events := [failedFirst] }, oneDrive 1) := rfl

theorem firstRound_run {next : UInt32} (first : skipZero next = 1) :
    run (driveStep noCharset) (oneDrive next) firstRound =
      .ok ([{ requestId := requestIdOf 1 1 }, { events := [failedFirst] }], oneDrive 1) := by
  have submitted := oneDrive_submit (.inr rfl) next (.ok [])
  rw [first] at submitted
  rw [firstRound, run_cons_ok submitted, run_singleton failFirst_step]
  rfl

theorem refused_run (count : Nat) (next : UInt32) :
    run (driveStep noCharset) (oneDrive next)
        (List.replicate count (shutdownFirst (.error .invalidArgument))) =
      .ok (List.replicate count { status := .invalidArgument }, oneDrive (skipZero^[count] next)) := by
  induction count generalizing next with
  | zero => rfl
  | succ count ih =>
    rw [List.replicate_succ, run_cons_ok (oneDrive_submit (.inr rfl) next (.error .invalidArgument)),
      ih]
    rfl

theorem openFirstDrive_run :
    run (driveStep noCharset) driveStart openFirstDrive =
      .ok ([{}, {}, { events := [{ type := .deviceAdded, device := ⟨1, 1⟩
                                   preferredName := firstDevice.preferredName
                                   name := some [0x43] }] }], oneDrive 0) := rfl

theorem drive_requests_settled_first :
    DriveRegistry (oneDrive 1) ∧
      settledIn (requestIdOf 1 1) [{ events := [failedFirst] }] ≤ 1 := by
  have ran := run_append openFirstDrive_run (firstRound_run (by decide : skipZero 0 = 1))
  obtain ⟨registry, _, _, _, settled⟩ := drive_requests_settled ran
  refine ⟨registry, ?_⟩
  have once : ∀ other ∈ [({ events := [failedFirst] } : DriveOutput)],
      other.handsOut (requestIdOf 1 1) = false := by
    intro other held
    rw [List.mem_singleton.mp held]
    rfl
  exact (settled (requestIdOf 1 1) _ { requestId := requestIdOf 1 1 } [_] rfl (by decide) once).1

/-- After a whole round of completion ids the first request id is handed out again, and it is
    settled a second time. -/
theorem request_id_settled_twice :
    ∃ inputs outs peer, run (driveStep noCharset) driveStart inputs = .ok (outs, peer) ∧
      settledIn (requestIdOf 1 1) outs = 2 := by
  have round : skipZero (skipZero^[counterPeriod - 1] 1) = 1 := by
    rw [← Function.iterate_succ_apply' skipZero]
    apply UInt32.toNat_inj.mp
    rw [skipZero_iterate_toNat (by decide)]
    decide
  have ran := run_append openFirstDrive_run (run_append (firstRound_run (by decide))
    (run_append (refused_run (counterPeriod - 1) 1) (firstRound_run round)))
  refine ⟨_, _, _, ran, ?_⟩
  have quiet : settledIn (requestIdOf 1 1)
      (List.replicate (counterPeriod - 1) { status := .invalidArgument }) = 0 := by
    rw [settledIn, List.countP_eq_zero]
    intro event held
    obtain ⟨out, isQuiet, inside⟩ := List.mem_flatMap.mp held
    rw [List.eq_of_mem_replicate isQuiet] at inside
    cases inside
  simp only [settledIn, List.flatMap_append, List.countP_append] at quiet ⊢
  rw [quiet]
  rfl

end LibRdp.Server
