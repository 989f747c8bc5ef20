import LibRdp.Coding.Raster
import LibRdp.Coding.Runs
import LibRdp.Graphics.NsCodecPlanes

/-! # Planes in runs

A plane of at least five bytes is sent as the maximal runs of all but its last four bytes, and
these four as they are. The decoder is given here once more with every write it makes, into a
buffer whose end is checked: it never writes behind it, and gives what the decoder that only
appends gives.
-/

namespace LibRdp.Graphics

open Machine Coding

/-- What a round of the loop writes: a byte that is checked by `left` alone, or a run. -/
inductive NscodecRleToken where
  | literal (value : UInt8)
  | run (value : UInt8) (count : Nat)
  deriving Repr, DecidableEq

/-- A run that `left` bytes have room for. -/
def nscodecRleRun (left : Nat) (value : UInt8) (run : Nat) (rest : Bytes) :
    Attempt (NscodecRleToken × Bytes) :=
  if run = 0 ∨ run > left then refuse .protocolError else pure (.run value run, rest)

/-- What a round of the loop of `rdp_nscodec_decode_rle_plane_into` reads, with `left` bytes to go. -/
def nscodecRleToken (left : Nat) (input : Bytes) : Attempt (NscodecRleToken × Bytes) :=
  match input with
  | [] => refuse .protocolError
  | value :: rest =>
      if left = 5 then pure (.literal value, rest)
      else
        match rest with
        | [] => refuse .protocolError
        | next :: behind =>
            if value ≠ next then pure (.literal value, next :: behind)
            else
              match behind with
              | [] => refuse .protocolError
              | factor :: tail =>
                  if factor < 0xff then nscodecRleRun left value (factor.toNat + 2) tail
                  else
                    match tail with
                    | b0 :: b1 :: b2 :: b3 :: tail =>
                        nscodecRleRun left value (u32Le b0 b1 b2 b3) tail
                    | _ => refuse .protocolError

variable {left : Nat} {token : NscodecRleToken} {input output : Bytes}

variable {rest block : Bytes} {outputLen : Nat}

theorem nscodecRleRun_ok {run : Nat} {value : UInt8} {rest' : Bytes}
    (read : nscodecRleRun left value run rest = .ok (token, rest')) :
    rest' = rest ∧ ∀ value count, token = .run value count → count ≤ left := by
  unfold nscodecRleRun at read
  split at read
  · cases read
  rename_i inside
  cases read
  refine ⟨rfl, ?_⟩
  rintro value count ⟨⟩
  omega

theorem nscodecRleToken_ok (read : nscodecRleToken left input = .ok (token, rest)) :
    rest.length < input.length ∧ ∀ value count, token = .run value count → count ≤ left := by
  unfold nscodecRleToken at read
  split at read
  · cases read
  split at read
  · cases read
    exact ⟨Nat.lt_succ_self _, fun _ _ same => by cases same⟩
  split at read
  · cases read
  split at read
  · cases read
    exact ⟨Nat.lt_succ_self _, fun _ _ same => by cases same⟩
  split at read
  · cases read
  split at read
  · obtain ⟨rfl, inside⟩ := nscodecRleRun_ok read
    simp only [List.length_cons]
    exact ⟨by omega, inside⟩
  split at read
  · obtain ⟨rfl, inside⟩ := nscodecRleRun_ok read
    simp only [List.length_cons]
    exact ⟨by omega, inside⟩
  · cases read

/-- The loop of `rdp_nscodec_decode_rle_plane_into`, which writes from `outOffset` on. -/
def nscodecRleStores (left outOffset : Nat) (input output : Bytes) : Exec (Status × Bytes) :=
  if left ≤ 4 then
    if left ≠ 4 ∨ input.length ≠ 4 then .ok (.protocolError, output)
    else do
      let room ← checkedSub output.length outOffset
      if room < 4 then pure (.protocolError, output)
      else do
        let output ← writeBlock output outOffset input
        pure (.ok, output)
  else
    match _read : nscodecRleToken left input with
    | .error (.returned status) => .ok (status, output)
    | .error (.fault fault) => .error fault
    | .ok (.literal value, rest) => do
        let output ← writeBlock output outOffset [value]
        nscodecRleStores (left - 1) (outOffset + 1) rest output
    | .ok (.run value count, rest) => do
        let room ← checkedSub output.length outOffset
        if count > room then pure (.protocolError, output)
        else do
          let output ← writeBlock output outOffset (List.replicate count value)
          nscodecRleStores (left - count) (outOffset + count) rest output
termination_by input.length
decreasing_by all_goals exact (nscodecRleToken_ok _read).1

/-- `rdp_nscodec_decode_rle_plane`; `malloc` gives nothing, or a buffer with something in it. -/
def nscodecDecodeRlePlane (malloc : Option (Nat → UInt8)) (input output : Bytes) :
    Exec (Status × Bytes) :=
  if output.length = 0 then .ok (.invalidArgument, output)
  else if output.length ≤ 4 then
    if input.length ≠ output.length then .ok (.protocolError, output)
    else do
      let output ← writeBlock output 0 input
      pure (.ok, output)
  else
    match malloc with
    | none => .ok (.noMemory, output)
    | some garbage => do
        let (status, scratch) ←
          nscodecRleStores output.length 0 input ((List.range output.length).map garbage)
        if status = .ok then do
          let output ← writeBlock output 0 scratch
          pure (status, output)
        else pure (status, output)

theorem nscodecRleToken_error {stop : Stop} (failed : nscodecRleToken left input = .error stop) :
    stop = .returned .protocolError := by
  have refused : ∀ {α : Type}, (refuse .protocolError : Attempt α) = .error stop →
      stop = .returned .protocolError := by
    rintro α ⟨⟩
    rfl
  have run : ∀ {value run rest}, nscodecRleRun left value run rest = .error stop →
      stop = .returned .protocolError := by
    intro value run rest failed
    unfold nscodecRleRun at failed
    split at failed
    · exact refused failed
    · cases failed
  unfold nscodecRleToken at failed
  repeat' split at failed
  all_goals first | exact refused failed | exact run failed | cases failed

theorem nscodecRleRun_loop (outputLen left count : Nat) (value : UInt8) (tail output : Bytes) :
    (if count = 0 ∨ count > left then refuse .protocolError
      else do
        let room ← clearSub outputLen output.length
        if count > room then refuse .protocolError
        else nscodecRleLoop outputLen (left - count) tail (output ++ List.replicate count value)) =
      (do
        let (token, rest) ← nscodecRleRun left value count tail
        match token with
        | .literal value => nscodecRleLoop outputLen (left - 1) rest (output ++ [value])
        | .run value count => do
            let room ← clearSub outputLen output.length
            if count > room then refuse .protocolError
            else
              nscodecRleLoop outputLen (left - count) rest
                (output ++ List.replicate count value)) := by
  unfold nscodecRleRun
  split <;> rfl

theorem nscodecRleLoop_token (more : 4 < left) :
    nscodecRleLoop outputLen left input output = (do
      let (token, rest) ← nscodecRleToken left input
      match token with
      | .literal value => nscodecRleLoop outputLen (left - 1) rest (output ++ [value])
      | .run value count => do
          let room ← clearSub outputLen output.length
          if count > room then refuse .protocolError
          else
            nscodecRleLoop outputLen (left - count) rest (output ++ List.replicate count value)) := by
  rw [nscodecRleLoop.eq_def, if_neg (Nat.not_le.mpr more)]
  cases input with
  | nil => rfl
  | cons value rest =>
    by_cases five : left = 5
    · simp only [nscodecRleToken, if_pos five]
      rfl
    simp only [nscodecRleToken, if_neg five]
    cases rest with
    | nil => rfl
    | cons next behind =>
      by_cases apart : value ≠ next
      · simp only [if_pos apart]
        rfl
      simp only [if_neg apart]
      cases behind with
      | nil => rfl
      | cons factor tail =>
        by_cases small : factor < 0xff
        · simp only [if_pos small]
          exact nscodecRleRun_loop ..
        simp only [if_neg small]
        obtain _ | ⟨b0, _ | ⟨b1, _ | ⟨b2, _ | ⟨b3, tail⟩⟩⟩⟩ := tail
        · rfl
        · rfl
        · rfl
        · rfl
        · exact nscodecRleRun_loop ..

/-- A loop with its writes gives what one that appends gives, and never faults. -/
def StoresAs (outputLen : Nat) (result : Attempt Bytes) (stores : Exec (Status × Bytes)) : Prop :=
  ∃ status output, stores = .ok (status, output) ∧ output.length = outputLen ∧
    if status = .ok then result = .ok output else result = refuse status

theorem StoresAs.refuse (whole : output.length = outputLen) :
    StoresAs outputLen (refuse .protocolError) (.ok (.protocolError, output)) :=
  ⟨_, _, rfl, whole, rfl⟩

theorem writeBlock_rest {done scratch : Bytes} (fits : block.length ≤ scratch.length) :
    writeBlock (done ++ scratch) done.length block =
      .ok (done ++ block ++ scratch.drop block.length) := by
  have inside : done.length + block.length ≤ (done ++ scratch).length := by
    rw [List.length_append]
    omega
  rw [writeBlock, if_pos inside, List.take_left, ← List.drop_drop, List.drop_left]

theorem writeBlock_over {buffer : Bytes} (same : block.length = buffer.length) :
    writeBlock buffer 0 block = .ok block := by
  rw [writeBlock, if_pos (by omega), List.drop_eq_nil_of_le (by omega), List.take_zero,
    List.nil_append, List.append_nil]

theorem nscodecRleStores_spec {outputLen left : Nat} {input done scratch : Bytes}
    (whole : done.length + left = outputLen) (rest : scratch.length = left) :
    StoresAs outputLen (nscodecRleLoop outputLen left input done)
      (nscodecRleStores left done.length input (done ++ scratch)) := by
  induction length : input.length using Nat.strongRecOn generalizing left input done scratch with
  | ind n ih =>
    have full : (done ++ scratch).length = outputLen := by
      rw [List.length_append, rest, whole]
    have room : checkedSub (done ++ scratch).length done.length = .ok left := by
      rw [checkedSub_of_le (by omega), full, ← whole, Nat.add_sub_cancel_left]
    have room' : clearSub outputLen done.length = .ok left := by
      rw [clearSub, if_pos (by omega), ← whole, Nat.add_sub_cancel_left]
    by_cases few : left ≤ 4
    · rw [nscodecRleStores, nscodecRleLoop.eq_def, if_pos few, if_pos few]
      by_cases sizes : left ≠ 4 ∨ input.length ≠ 4
      · rw [if_pos sizes, if_pos sizes]
        exact .refuse full
      have enough : ¬ left < 4 := by omega
      have fits : input.length ≤ scratch.length := by omega
      rw [if_neg sizes, if_neg sizes, room, ok_bind, if_neg enough, room', ok_bind,
        if_neg enough, writeBlock_rest fits, List.drop_eq_nil_of_le (by omega), List.append_nil]
      refine ⟨.ok, done ++ input, rfl, ?_, rfl⟩
      rw [List.length_append]
      omega
    have more : 4 < left := Nat.not_le.mp few
    -- What is written next fits, and the rest is as long as what is left then.
    have next : ∀ (block : Bytes) {rest' : Bytes}, block.length ≤ left → rest'.length < input.length →
        StoresAs outputLen (nscodecRleLoop outputLen (left - block.length) rest' (done ++ block))
          (writeBlock (done ++ scratch) done.length block >>= fun output =>
            nscodecRleStores (left - block.length) (done.length + block.length) rest' output) := by
      intro block rest' fits shorter
      rw [writeBlock_rest (by omega), ok_bind, ← List.length_append]
      refine ih rest'.length (by omega) ?_ ?_ rfl
      · rw [List.length_append]
        omega
      · rw [List.length_drop, rest]
    rw [nscodecRleLoop_token more, nscodecRleStores, if_neg few]
    split
    · rename_i status failed
      rw [failed]
      cases nscodecRleToken_error failed
      exact .refuse full
    · rename_i fault failed
      cases nscodecRleToken_error failed
    · rename_i value rest' read
      rw [read]
      exact next [value] (by simp only [List.length_singleton]; omega)
        (nscodecRleToken_ok read).1
    · rename_i value count rest' read
      obtain ⟨shorter, inside⟩ := nscodecRleToken_ok read
      have fits : ¬ count > left := Nat.not_lt.mpr (inside value count rfl)
      have later := next (List.replicate count value)
        (by rw [List.length_replicate]; omega) shorter
      rw [read, ok_bind, room, ok_bind, if_neg fits]
      simp only [room', ok_bind, if_neg fits]
      rwa [List.length_replicate] at later

theorem nscodecRleStores_whole (garbage : Nat → UInt8) (outputLen : Nat) (input : Bytes) :
    StoresAs outputLen (nscodecRleLoop outputLen outputLen input [])
      (nscodecRleStores outputLen 0 input ((List.range outputLen).map garbage)) := by
  have spec := @nscodecRleStores_spec outputLen outputLen input []
    ((List.range outputLen).map garbage) (Nat.zero_add outputLen) (by simp)
  exact spec

def nscodecRunBytes (run : Run UInt8) : Bytes :=
  if run.length = 1 then [run.value]
  else if run.length - 2 < 255 then [run.value, run.value, UInt8.ofNat (run.length - 2)]
  else [run.value, run.value, 0xff] ++ u32LeBytes run.length

def nscodecPlaneBytes (plane : Bytes) : Bytes :=
  (maximalRuns (plane.take (plane.length - 4))).flatMap nscodecRunBytes ++
    plane.drop (plane.length - 4)

theorem nscodecRunBytes_head (run : Run UInt8) :
    ∃ behind, nscodecRunBytes run = run.value :: behind := by
  unfold nscodecRunBytes
  split
  · exact ⟨_, rfl⟩
  · split <;> exact ⟨_, rfl⟩

theorem nscodecRleToken_run {left : Nat} {run : Run UInt8} {rest : Bytes}
    (fits : run.length + 4 ≤ left) (small : run.length < 2 ^ 32) (more : rest ≠ [])
    (apart : run.length = 1 → left ≠ 5 → ∀ next ∈ rest.head?, run.value ≠ next) :
    nscodecRleToken left (nscodecRunBytes run ++ rest) =
      .ok (if run.length = 1 then .literal run.value else .run run.value run.length, rest) := by
  unfold nscodecRunBytes
  by_cases single : run.length = 1
  · obtain ⟨next, behind, rfl⟩ := List.exists_cons_of_ne_nil more
    rw [if_pos single, if_pos single, List.singleton_append]
    simp only [nscodecRleToken]
    by_cases five : left = 5
    · rw [if_pos five]
      rfl
    · rw [if_neg five]
      exact if_pos (apart single five next rfl)
  have several := run.length_pos
  have five : left ≠ 5 := by omega
  have inside : ¬ (run.length = 0 ∨ run.length > left) := by omega
  have same : ¬ run.value ≠ run.value := fun differ => differ rfl
  rw [if_neg single, if_neg single]
  by_cases short : run.length - 2 < 255
  · have factor : (UInt8.ofNat (run.length - 2)).toNat = run.length - 2 :=
      UInt8.toNat_ofNat_of_lt' (Nat.lt_succ_of_lt short)
    have less : UInt8.ofNat (run.length - 2) < 0xff := by
      rw [UInt8.lt_iff_toNat_lt, factor]
      exact short
    have count : run.length - 2 + 2 = run.length := by omega
    rw [if_pos short]
    simp only [List.cons_append, List.nil_append, nscodecRleToken, if_neg five, if_neg same,
      if_pos less, factor, nscodecRleRun, count, if_neg inside]
    rfl
  have large : ¬ (0xff : UInt8) < 0xff := by decide
  rw [if_neg short]
  simp only [List.cons_append, List.nil_append, nscodecRleToken, if_neg five, if_neg same,
    if_neg large, u32LeBytes, nscodecRleRun, u32Le_bytes small, if_neg inside]
  rfl

theorem nscodecRleLoop_runs {outputLen : Nat} {runs : List (Run UInt8)} {tail output : Bytes}
    (apart : Apart runs) (small : ∀ run ∈ runs, run.length < 2 ^ 32) (four : tail.length = 4)
    (whole : output.length + ((unroll runs).length + 4) = outputLen) :
    nscodecRleLoop outputLen ((unroll runs).length + 4) (runs.flatMap nscodecRunBytes ++ tail)
      output = .ok (output ++ unroll runs ++ tail) := by
  induction runs generalizing output with
  | nil =>
    have room : clearSub outputLen output.length = .ok 4 := by
      rw [clearSub, if_pos (by omega), ← whole, Nat.add_sub_cancel_left]
      rfl
    have sizes : ¬ (4 ≠ 4 ∨ tail.length ≠ 4) := by omega
    rw [nscodecRleLoop.eq_def, unroll_nil, List.append_nil]
    simp only [List.length_nil, List.flatMap_nil, List.nil_append, Nat.zero_add, Nat.le_refl,
      if_true, if_neg sizes, room, ok_bind, Nat.lt_irrefl, if_false]
    rfl
  | cons run runs ih =>
    have positive := run.length_pos
    rw [List.forall_mem_cons] at small
    rw [unroll_cons, List.length_append, Run.unroll_length] at whole ⊢
    have more : runs.flatMap nscodecRunBytes ++ tail ≠ [] := by
      intro none
      rw [(List.append_eq_nil_iff.mp none).2] at four
      cases four
    have differ : run.length = 1 → run.length + (unroll runs).length + 4 ≠ 5 →
        ∀ next ∈ (runs.flatMap nscodecRunBytes ++ tail).head?, run.value ≠ next := by
      intro single five next first
      cases runs with
      | nil =>
        rw [unroll_nil, List.length_nil] at five
        omega
      | cons other runs =>
        obtain ⟨behind, bytes⟩ := nscodecRunBytes_head other
        rw [List.flatMap_cons, bytes] at first
        cases first
        exact (List.isChain_cons_cons.mp apart).1
    have read := @nscodecRleToken_run (run.length + (unroll runs).length + 4) run _ (by omega)
      small.1 more differ
    have later := @ih (output ++ run.unroll) apart.of_cons small.2 (by
      rw [List.length_append, Run.unroll_length]
      omega)
    rw [List.append_assoc output] at later
    rw [List.flatMap_cons, List.append_assoc, nscodecRleLoop_token (by omega), read,
      ok_bind]
    by_cases single : run.length = 1
    · have alone : run.unroll = [run.value] := by
        rw [Run.unroll, single]
        rfl
      have left : run.length + (unroll runs).length + 4 - 1 = (unroll runs).length + 4 := by omega
      rw [alone] at later ⊢
      simp only [if_pos single, left]
      exact later
    have room : clearSub outputLen output.length =
        .ok (run.length + (unroll runs).length + 4) := by
      rw [clearSub, if_pos (by omega), ← whole, Nat.add_sub_cancel_left]
    have left : run.length + (unroll runs).length + 4 - run.length =
        (unroll runs).length + 4 := by omega
    have fits : ¬ run.length > run.length + (unroll runs).length + 4 := by omega
    simp only [if_neg single, room, ok_bind, if_neg fits, left]
    exact later

theorem nscodecDecodeRlePlane_keeps (malloc : Option (Nat → UInt8)) (input output : Bytes) :
    ∃ status next, nscodecDecodeRlePlane malloc input output = .ok (status, next) ∧
      next.length = output.length ∧ (status ≠ .ok → next = output) := by
  have unchanged : ∀ status, ∃ status' next,
      (.ok (status, output) : Exec (Status × Bytes)) = .ok (status', next) ∧
        next.length = output.length ∧ (status' ≠ .ok → next = output) :=
    fun status => ⟨status, output, rfl, rfl, fun _ => rfl⟩
  unfold nscodecDecodeRlePlane
  split
  · exact unchanged _
  split
  · split
    · exact unchanged _
    · rename_i same
      rw [Decidable.not_not] at same
      rw [writeBlock_over same]
      exact ⟨.ok, input, rfl, same, fun failed => absurd rfl failed⟩
  cases malloc with
  | none => exact unchanged _
  | some garbage =>
    obtain ⟨status, scratch, ran, whole, -⟩ :=
      nscodecRleStores_whole garbage output.length input
    simp only [ran, ok_bind]
    split
    · rename_i done
      rw [writeBlock_over whole]
      exact ⟨status, scratch, rfl, whole, fun failed => absurd done failed⟩
    · exact unchanged status

theorem nscodecDecodeRlePlane_inverts {plane : Bytes} (garbage : Nat → UInt8)
    (long : 5 ≤ plane.length) (same : output.length = plane.length)
    (small : ∀ run ∈ maximalRuns (plane.take (plane.length - 4)), run.length < 2 ^ 32) :
    nscodecDecodeRlePlane (some garbage) (nscodecPlaneBytes plane) output = .ok (.ok, plane) := by
  have front : (unroll (maximalRuns (plane.take (plane.length - 4)))).length + 4 = output.length := by
    rw [unroll_maximalRuns, List.length_take]
    omega
  have four : (plane.drop (plane.length - 4)).length = 4 := by
    rw [List.length_drop]
    omega
  have looped := @nscodecRleLoop_runs _ _ _ [] (apart_maximalRuns _) small four
    ((Nat.zero_add _).trans front)
  rw [front, List.nil_append, unroll_maximalRuns, List.take_append_drop] at looped
  obtain ⟨status, scratch, ran, whole, result⟩ :=
    nscodecRleStores_whole garbage output.length (nscodecPlaneBytes plane)
  rw [nscodecPlaneBytes, looped] at result
  split at result
  · rename_i done
    cases done
    obtain rfl : plane = scratch := Except.ok.inj result
    have some : ¬ output.length = 0 := by omega
    have more : ¬ output.length ≤ 4 := by omega
    simp only [nscodecDecodeRlePlane, if_neg some, if_neg more, ran, ok_bind, if_true,
      writeBlock_over same.symm]
    rfl
  · cases result

/-- The decoder gives back every plane of five bytes and more from its runs. Whatever it is given,
    it comes to an end without a write outside of the output, which it leaves alone if it fails. -/
theorem nscodec_rle_inverts :
    (∀ (plane output : Bytes) (garbage : Nat → UInt8), 5 ≤ plane.length →
      output.length = plane.length →
      (∀ run ∈ maximalRuns (plane.take (plane.length - 4)), run.length < 2 ^ 32) →
      nscodecDecodeRlePlane (some garbage) (nscodecPlaneBytes plane) output = .ok (.ok, plane)) ∧
    ∀ (malloc : Option (Nat → UInt8)) (input output : Bytes), ∃ status next,
      nscodecDecodeRlePlane malloc input output = .ok (status, next) ∧
      next.length = output.length ∧ (status ≠ .ok → next = output) :=
  ⟨fun _ _ garbage long same small => nscodecDecodeRlePlane_inverts garbage long same small,
    nscodecDecodeRlePlane_keeps⟩

/-- Three of one byte, one of another, and the four that are sent as they are. -/
theorem nscodec_rle_inverts_sample :
    nscodecPlaneBytes [7, 7, 7, 8, 8, 1, 2, 3] = [7, 7, 1, 8, 8, 1, 2, 3] ∧
    nscodecDecodeRlePlane (some fun _ => 0) (nscodecPlaneBytes [7, 7, 7, 8, 8, 1, 2, 3])
      [0, 0, 0, 0, 0, 0, 0, 0] = .ok (.ok, [7, 7, 7, 8, 8, 1, 2, 3]) :=
  ⟨by decide, nscodec_rle_inverts.1 _ _ _ (by decide) (by decide) (by decide)⟩

end LibRdp.Graphics
