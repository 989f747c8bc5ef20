import LibRdp.Bulk.Decompressor
import LibRdp.Graphics.Zgfx
import LibRdp.Machine.Run

/-! # Reassembly of fast-path updates

All kinds of updates share one accumulator. It is emptied by a first fragment,
by a complete update and after a delivery; a refused update leaves it as it is,
and the size limit is tested against it before a first fragment empties it.
-/

namespace LibRdp.Client

open Machine

def fastpathFragmentSingle : UInt8 := 0x00
def fastpathFragmentLast : UInt8 := 0x01
def fastpathFragmentFirst : UInt8 := 0x02
def fastpathFragmentNext : UInt8 := 0x03

def bulkTypeRdp8 : UInt8 := 0x04

/-- `rdp_fastpath_update`. -/
structure FastpathUpdate where
  updateCode : UInt8
  fragmentation : UInt8
  compression : UInt8
  compressionFlags : UInt8
  data : Bytes
  deriving Repr, DecidableEq

/-- The fields of `librdp_session` that fast-path payloads read and change. The buffer
    `fastpath_decompressed` is emptied before each use, so it is no part of the state. -/
structure FastpathSession where
  frameBytes : Nat
  fragmenting : Bool
  fragmentUpdateCode : UInt8
  fragment : Bytes
  bulkDecompressor : Bulk.Decompressor
  bulkRdp8Decompressor : Graphics.Decompressor
  limitsRejected : Nat

def fastpathSessionInit (frameBytes : Nat) : FastpathSession :=
  ⟨frameBytes, false, 0, [], Bulk.decompressorInit, Graphics.decompressorInit, 0⟩

/-- `rdp_session_fastpath_fragment_reset`. -/
def fastpathFragmentReset (session : FastpathSession) : FastpathSession :=
  { session with fragmenting := false, fragmentUpdateCode := 0, fragment := [] }

/-- `rdp_session_decompress_bulk_payload`: the status, the session and the decoded bytes. -/
def decompressBulkPayload (session : FastpathSession) (flags : UInt8) (data : Bytes) :
    Exec (Status × FastpathSession × Bytes) :=
  if flags &&& Bulk.bulkFlagsMask = 0 then .ok (.ok, session, data)
  else if flags &&& Bulk.bulkTypeMask = bulkTypeRdp8 then do
    let (status, d, decoded) ← Graphics.decodeSegmentedData session.bulkRdp8Decompressor data []
    pure (status, { session with bulkRdp8Decompressor := d }, decoded)
  else do
    let (status, d, decoded) ← Bulk.decompress session.bulkDecompressor flags data []
    pure (status, { session with bulkDecompressor := d }, decoded)

/-- `rdp_session_limit_rejected`. -/
def limitRejected (session : FastpathSession) : Status × FastpathSession :=
  (.limitExceeded, { session with limitsRejected := session.limitsRejected + 1 })

structure Delivery where
  data : Bytes
  fromFragment : Bool
  deriving Repr, DecidableEq

/-- `rdp_session_fastpath_payload` once the payload is decompressed. -/
def fastpathAssemble (session : FastpathSession) (update : FastpathUpdate) (payload : Bytes) :
    (Status × Option Delivery) × FastpathSession :=
  if update.fragmentation = fastpathFragmentSingle then
    let session := if session.fragmenting then fastpathFragmentReset session else session
    ((.ok, some ⟨payload, false⟩), session)
  else if payload.length > session.frameBytes ∨
      session.fragment.length > session.frameBytes - payload.length then
    let (status, session) := limitRejected session
    ((status, none), session)
  else if update.fragmentation = fastpathFragmentFirst then
    let session := fastpathFragmentReset session
    ((.ok, none), { session with
      fragment := payload, fragmenting := true, fragmentUpdateCode := update.updateCode })
  else if update.fragmentation ≠ fastpathFragmentNext ∧
      update.fragmentation ≠ fastpathFragmentLast then
    ((.protocolError, none), session)
  else if session.fragmenting = false ∨ session.fragmentUpdateCode ≠ update.updateCode then
    ((.protocolError, none), session)
  else
    let session := { session with fragment := session.fragment ++ payload }
    if update.fragmentation = fastpathFragmentNext then ((.ok, none), session)
    else ((.ok, some ⟨session.fragment, true⟩), session)

def updatePayload (session : FastpathSession) (update : FastpathUpdate) :
    Exec (Status × FastpathSession × Bytes) :=
  if update.compression ≠ 0 then
    decompressBulkPayload session update.compressionFlags update.data
  else .ok (.ok, session, update.data)

/-- `rdp_session_fastpath_payload`. -/
def fastpathPayload (session : FastpathSession) (update : FastpathUpdate) :
    Exec ((Status × Option Delivery) × FastpathSession) := do
  let (status, session, payload) ← updatePayload session update
  if status = .ok then pure (fastpathAssemble session update payload)
  else pure ((status, none), session)

/-- The calls a session receives. `rdp_session_process_fastpath_packet` resets the accumulator
    after each delivery from it. -/
inductive FastpathCall where
  | payload (update : FastpathUpdate)
  | fragmentReset

def fastpathStep (session : FastpathSession) :
    FastpathCall → Exec ((Status × Option Delivery) × FastpathSession)
  | .payload update => fastpathPayload session update
  | .fragmentReset => .ok ((.ok, none), fastpathFragmentReset session)

def FastpathSession.Settled (session : FastpathSession) : Prop :=
  session.fragmenting = false → session.fragment = []

section Runs

variable {session session' : FastpathSession} {frameBytes : Nat}

theorem fastpathAssemble_settled (update : FastpathUpdate) (payload : Bytes)
    (settled : session.Settled) : (fastpathAssemble session update payload).2.Settled := by
  unfold fastpathAssemble
  split
  · dsimp only
    split
    · exact fun _ => rfl
    · exact settled
  split
  · exact settled
  split
  · exact fun idle => by cases idle
  split
  · exact settled
  split
  · exact settled
  next running =>
    simp only [not_or, Bool.not_eq_false] at running
    have busy : ∀ s : FastpathSession, s.fragmenting = session.fragmenting → s.Settled := by
      intro s same idle
      rw [same, running.1] at idle
      cases idle
    dsimp only
    split
    · exact busy _ rfl
    · exact busy _ rfl

theorem updatePayload_settled {update : FastpathUpdate} {payload : Bytes} {status : Status}
    (ran : updatePayload session update = .ok (status, session', payload))
    (settled : session.Settled) : session'.Settled := by
  unfold updatePayload decompressBulkPayload at ran
  split at ran
  · split at ran
    · cases ran
      exact settled
    split at ran
    · obtain ⟨⟨status', d, decoded⟩, -, last⟩ := bind_eq_ok.mp ran
      simp only [pure_eq_ok, Except.ok.injEq, Prod.mk.injEq] at last
      obtain ⟨-, rfl, -⟩ := last
      exact settled
    obtain ⟨⟨status', d, decoded⟩, -, last⟩ := bind_eq_ok.mp ran
    simp only [pure_eq_ok, Except.ok.injEq, Prod.mk.injEq] at last
    obtain ⟨-, rfl, -⟩ := last
    exact settled
  · cases ran
    exact settled

theorem fastpathStep_settled {call : FastpathCall} {answer : Status × Option Delivery}
    (taken : fastpathStep session call = .ok (answer, session')) (settled : session.Settled) :
    session'.Settled := by
  cases call with
  | fragmentReset =>
    cases taken
    exact fun _ => rfl
  | payload update =>
    obtain ⟨⟨status, s, payload⟩, unpacked, last⟩ := bind_eq_ok.mp taken
    have settled' := updatePayload_settled unpacked settled
    dsimp only at last
    split at last
    · have assembled := fastpathAssemble_settled update payload settled'
      rw [Except.ok.inj last] at assembled
      exact assembled
    · cases last
      exact settled'

theorem fastpath_reachable_settled
    (reached : Reachable fastpathStep (fastpathSessionInit frameBytes) session) :
    session.Settled := by
  refine reached.invariant FastpathSession.Settled (fun _ => rfl) ?_
  intro s call answer s' settled taken
  exact fastpathStep_settled taken settled

end Runs

def fragmentCall (code fragmentation : UInt8) (data : Bytes) : FastpathCall :=
  .payload ⟨code, fragmentation, 0, 0, data⟩

/-- A message cut into a first fragment, any number of middle ones and a last one. -/
def fragmentCalls (code : UInt8) (first : Bytes) (middle : List Bytes) (last : Bytes) :
    List FastpathCall :=
  fragmentCall code fastpathFragmentFirst first ::
    (middle.map (fragmentCall code fastpathFragmentNext) ++
      [fragmentCall code fastpathFragmentLast last])

section Fragments

variable {session : FastpathSession} {code : UInt8}

theorem fastpathStep_fragment (session : FastpathSession) (code fragmentation : UInt8) (data : Bytes) :
    fastpathStep session (fragmentCall code fragmentation data) =
      .ok (fastpathAssemble session ⟨code, fragmentation, 0, 0, data⟩ data) := rfl

structure Collecting (limit : Nat) (code : UInt8) (last : Bytes) (done todo : List Bytes)
    (session : FastpathSession) : Prop where
  bound : session.frameBytes = limit
  running : session.fragmenting = true ∧ session.fragmentUpdateCode = code
  collected : session.fragment = done.flatten
  fits : done.flatten.length + todo.flatten.length + last.length ≤ limit

variable {limit : Nat} {last : Bytes} {done : List Bytes}

theorem fastpathStep_next {piece : Bytes} {todo : List Bytes}
    (collecting : Collecting limit code last done (piece :: todo) session) :
    ∃ session', fastpathStep session (fragmentCall code fastpathFragmentNext piece) =
        .ok ((.ok, none), session') ∧ Collecting limit code last (done ++ [piece]) todo session' := by
  obtain ⟨bound, ⟨running, same⟩, collected, fits⟩ := collecting
  rw [List.flatten_cons, List.length_append] at fits
  refine ⟨{ session with fragment := session.fragment ++ piece }, ?_, ?_⟩
  · have room : ¬ (piece.length > session.frameBytes ∨
        session.fragment.length > session.frameBytes - piece.length) := by
      rw [bound, collected]
      omega
    have busy : ¬ (session.fragmenting = false ∨ session.fragmentUpdateCode ≠ code) := by
      simp [running, same]
    rw [fastpathStep_fragment, fastpathAssemble]
    simp only [if_neg room, if_neg busy]
    rfl
  · refine ⟨bound, ⟨running, same⟩, ?_, ?_⟩
    · rw [collected]
      simp
    · simp only [List.flatten_append, List.flatten_cons, List.flatten_nil, List.append_nil,
        List.length_append]
      omega

theorem fastpathStep_last (collecting : Collecting limit code last done [] session) :
    ∃ session', fastpathStep session (fragmentCall code fastpathFragmentLast last) =
      .ok ((.ok, some ⟨done.flatten ++ last, true⟩), session') := by
  obtain ⟨bound, ⟨running, same⟩, collected, fits⟩ := collecting
  have room : ¬ (last.length > session.frameBytes ∨
      session.fragment.length > session.frameBytes - last.length) := by
    rw [bound, collected]
    omega
  refine ⟨{ session with fragment := session.fragment ++ last }, ?_⟩
  have busy : ¬ (session.fragmenting = false ∨ session.fragmentUpdateCode ≠ code) := by
    simp [running, same]
  rw [fastpathStep_fragment, fastpathAssemble, ← collected]
  simp only [if_neg room, if_neg busy]
  rfl

theorem fastpathStep_first {first last : Bytes} {middle : List Bytes}
    (fits : first.length + middle.flatten.length + last.length ≤ session.frameBytes)
    (room : session.fragment.length + first.length ≤ session.frameBytes) :
    ∃ session', fastpathStep session (fragmentCall code fastpathFragmentFirst first) =
        .ok ((.ok, none), session') ∧
      Collecting session.frameBytes code last [first] middle session' := by
  have guard : ¬ (first.length > session.frameBytes ∨
      session.fragment.length > session.frameBytes - first.length) := by
    omega
  refine ⟨{ fastpathFragmentReset session with
    fragment := first, fragmenting := true, fragmentUpdateCode := code }, ?_,
    ⟨rfl, ⟨rfl, rfl⟩, List.flatten_singleton.symm, ?_⟩⟩
  · rw [fastpathStep_fragment, fastpathAssemble]
    simp only [if_neg guard]
    rfl
  · rw [List.flatten_singleton]
    exact fits

theorem fastpathStep_first_refused {first : Bytes}
    (full : session.frameBytes < session.fragment.length + first.length) :
    ∃ session', fastpathStep session (fragmentCall code fastpathFragmentFirst first) =
      .ok ((.limitExceeded, none), session') := by
  have guard : first.length > session.frameBytes ∨
      session.fragment.length > session.frameBytes - first.length := by
    omega
  refine ⟨(limitRejected session).2, ?_⟩
  rw [fastpathStep_fragment, fastpathAssemble]
  simp only [if_pos guard]
  rfl

theorem fastpathStep_single {update : FastpathUpdate} {unpacked : FastpathSession} {payload : Bytes}
    (settled : session.Settled) (single : update.fragmentation = fastpathFragmentSingle)
    (read : updatePayload session update = .ok (.ok, unpacked, payload)) :
    ∃ session', fastpathStep session (.payload update) =
        .ok ((.ok, some ⟨payload, false⟩), session') ∧
      session'.fragmenting = false ∧ session'.fragment = [] := by
  have settled' := updatePayload_settled read settled
  have ran : fastpathStep session (.payload update) = .ok ((.ok, some ⟨payload, false⟩),
      if unpacked.fragmenting then fastpathFragmentReset unpacked else unpacked) := by
    simp only [fastpathStep, fastpathPayload, read, ok_bind, if_true, fastpathAssemble, single]
    rfl
  cases running : unpacked.fragmenting with
  | true =>
    rw [running] at ran
    exact ⟨_, ran, rfl, rfl⟩
  | false =>
    rw [running] at ran
    exact ⟨_, ran, running, settled' running⟩

/-- In every reachable state: a complete update delivers exactly its own payload and leaves no
    partial message; a message in fragments is delivered once, whole and at its last fragment,
    exactly if its first fragment fits beside what is left over. -/
theorem fastpath_delivers_iff {frameBytes : Nat}
    (reached : Reachable fastpathStep (fastpathSessionInit frameBytes) session)
    (code : UInt8) (first last : Bytes) (middle : List Bytes)
    (fits : (first ++ middle.flatten ++ last).length ≤ session.frameBytes) :
    (∀ update unpacked payload, update.fragmentation = fastpathFragmentSingle →
      updatePayload session update = .ok (.ok, unpacked, payload) →
      ∃ session', fastpathStep session (.payload update) =
          .ok ((.ok, some ⟨payload, false⟩), session') ∧
        session'.fragmenting = false ∧ session'.fragment = []) ∧
    ((∃ session', run fastpathStep session (fragmentCalls code first middle last) =
        .ok (List.replicate (middle.length + 1) (.ok, none) ++
          [(.ok, some ⟨first ++ middle.flatten ++ last, true⟩)], session')) ↔
      session.fragment.length + first.length ≤ session.frameBytes) := by
  have settled := fastpath_reachable_settled reached
  simp only [List.length_append] at fits
  refine ⟨fun update unpacked payload => fastpathStep_single settled, ?_, ?_⟩
  · rintro ⟨session', ran⟩
    by_contra full
    obtain ⟨refused, taken⟩ := @fastpathStep_first_refused session code first
      (Nat.lt_of_not_le full)
    rw [fragmentCalls, run_cons_ok taken, List.replicate_succ] at ran
    cases rest : run fastpathStep refused (middle.map (fragmentCall code fastpathFragmentNext) ++
        [fragmentCall code fastpathFragmentLast last]) with
    | error fault =>
        rw [rest] at ran
        cases ran
    | ok answers =>
        rw [rest] at ran
        cases ran
  · intro room
    obtain ⟨s₁, started, collecting⟩ := @fastpathStep_first session code first last middle fits room
    have next : ∀ done piece todo s, Collecting session.frameBytes code last done (piece :: todo) s →
        ∃ s', fastpathStep s (fragmentCall code fastpathFragmentNext piece) = .ok ((.ok, none), s') ∧
          Collecting session.frameBytes code last (done ++ [piece]) todo s' :=
      fun _ _ _ _ => fastpathStep_next
    rw [← List.append_nil middle] at collecting
    obtain ⟨s₂, ran, collecting₂⟩ := run_each next collecting
    obtain ⟨s₃, ended⟩ := fastpathStep_last collecting₂
    refine ⟨s₃, ?_⟩
    have whole := run_append ran (run_singleton ended)
    rw [fragmentCalls, run_cons_ok started, whole]
    simp [Except.map, List.replicate_succ]

end Fragments

/-- A byte is left over from an unfinished message; the next message comes in three fragments. -/
theorem fastpath_delivers_iff_leftover : ∃ session,
    fastpathStep (fastpathSessionInit 8) (fragmentCall 1 fastpathFragmentFirst [9]) =
      .ok ((.ok, none), session) ∧ session.fragment = [9] ∧
    ∃ session', run fastpathStep session (fragmentCalls 1 [1, 2] [[4]] [3]) =
      .ok ([(.ok, none), (.ok, none), (.ok, some ⟨[1, 2, 4, 3], true⟩)], session') := by
  have left : fastpathStep (fastpathSessionInit 8) (fragmentCall 1 fastpathFragmentFirst [9]) =
      .ok ((.ok, none), _) := rfl
  have deliver := fastpath_delivers_iff (.step .init left) 1 [1, 2] [3] [[4]] (by decide)
  exact ⟨_, left, rfl, deliver.2.mpr (by decide)⟩

/-- After an unfinished message of three bytes, a message of three bytes within a limit of four
    is refused. -/
theorem fastpath_first_counts_leftover : ∃ session answers session',
    Reachable fastpathStep (fastpathSessionInit 4) session ∧
    run fastpathStep session (fragmentCalls 1 [5, 6] [] [7]) = .ok (answers, session') ∧
    answers = [(.limitExceeded, none), (.ok, some ⟨[1, 2, 3, 7], true⟩)] ∧
    ([5, 6] ++ [7] : Bytes).length ≤ 4 := by
  exact ⟨_, _, _, Reachable.init.step (i := fragmentCall 1 fastpathFragmentFirst [1, 2, 3]) rfl,
    rfl, rfl, by decide⟩

end LibRdp.Client
