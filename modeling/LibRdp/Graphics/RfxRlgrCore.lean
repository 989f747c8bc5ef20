import LibRdp.Graphics.RfxRlgr
import LibRdp.Machine.Effect

/-! # The entropy decoder of RemoteFX in all its modes

`rdp_rfx_rlgr_decode_core` in both modes, strict or with a tail that may be filled with zeros.
A round is one pass of its loop; of the inner loop over zero bits each pass is a round of its
own. What the decoder computes on its way is noted in a log that it never reads.
-/

namespace LibRdp.Graphics

open Coding Machine

/-- `rdp_rfx_rlgr_mode`. -/
inductive RlgrMode where
  | rlgr1
  | rlgr3
  deriving Repr, DecidableEq

inductive RlgrEvent where
  /-- A call of `rdp_rfx_read_bits`. -/
  | reads (count : Nat)
  /-- `k` or `kr` after it was set. -/
  | parameter (value : Nat)
  /-- `(prefix << kr) | suffix`, before it is cut to a word. -/
  | code (value : Nat)
  /-- A magnitude that becomes signed, before it is cut to a word. -/
  | magnitude (value : Nat)
  deriving Repr, DecidableEq

abbrev RlgrEffect (α : Type) := Effect Stop (List RlgrEvent) α

def rlgrNote (event : RlgrEvent) : RlgrEffect Unit := .modify (· ++ [event])

structure RlgrState where
  reader : RfxBitReader
  kp : Nat
  krp : Nat
  deriving Repr, DecidableEq

inductive RlgrProgress where
  | done (written : List Int)
  | next (state : RlgrState) (written : List Int)
  deriving Repr, DecidableEq

/-! ## Coefficients -/

/-- `rdp_rfx_write_zeroes_limited`: the coefficients, and whether the tail was filled. -/
def rlgrWriteZeroesLimited (fill : Bool) (count : Nat) (written : List Int) (run : Nat) :
    Attempt (List Int × Bool) :=
  let remaining := count - written.length
  if run > remaining then
    if !fill then refuse .protocolError
    else .ok (written ++ List.replicate remaining 0, true)
  else .ok (written ++ List.replicate run 0, false)

/-- `rdp_rfx_rlgr_tail_or_error`. -/
def rlgrTailOrError (fill : Bool) (count : Nat) (written : List Int) : RlgrEffect RlgrProgress :=
  if !fill then .stop (.returned .protocolError) else pure (.done (rlgrTail count written))

/-- `rdp_rfx_write_value`. -/
def rlgrWriteValue (count : Nat) (written : List Int) (value : Int) : Attempt (List Int) :=
  if written.length ≥ count then refuse .protocolError else .ok (written ++ [value])

/-- `rdp_rfx_min_bits`. -/
def rfxMinBits (value : Nat) : Nat := value.size

/-! ## Rounds -/

/-- A read; `count` is what is asked for. -/
def rlgrReadBits (reader : RfxBitReader) (count : Nat) : RlgrEffect (Nat × RfxBitReader) := do
  rlgrNote (.reads count)
  .lift (rfxReadBits reader count)

/-- `rdp_rfx_get_gr_code`; the reads of its loop ask for one bit each. -/
def rlgrGetGrCode (reader : RfxBitReader) (krp : Nat) : RlgrEffect ((Nat × Nat) × RfxBitReader) := do
  rlgrNote (.reads 1)
  let (ones, reader) ← .lift (rfxReadOnes reader 0)
  let (low, reader) ← rlgrReadBits reader (rfxParamShift krp)
  rlgrNote (.code (ones * 2 ^ rfxParamShift krp ||| low))
  let magnitude := rfxU32 (ones * 2 ^ rfxParamShift krp) ||| low
  let krp :=
    if ones = 0 then rfxUpdateParam krp (-2) else if ones ≠ 1 then rfxUpdateParam krp ones else krp
  rlgrNote (.parameter (rfxParamShift krp))
  pure ((magnitude, krp), reader)

def rlgrZeroBit (fill : Bool) (count : Nat) (state : RlgrState) (written : List Int) :
    RlgrEffect RlgrProgress := do
  let (written, filled) ←
    .lift (rlgrWriteZeroesLimited fill count written (2 ^ rfxParamShift state.kp))
  if filled ∨ written.length = count then pure (.done written)
  else do
    let kp := rfxUpdateParam state.kp rlgrUpGr
    rlgrNote (.parameter (rfxParamShift kp))
    pure (.next { state with kp } written)

def rlgrRunValue (fill : Bool) (count : Nat) (state : RlgrState) (written : List Int) :
    RlgrEffect RlgrProgress :=
  .recover (rlgrReadBits state.reader 1) (rlgrTailOrError fill count written) fun (sign, reader) =>
  .recover (rlgrGetGrCode reader state.krp) (rlgrTailOrError fill count written)
    fun ((magnitude, krp), reader) => do
      rlgrNote (.magnitude (magnitude + 1))
      let magnitude := int32 (rfxU32 (magnitude + 1))
      let value := if sign ≠ 0 then int32 (-magnitude) else magnitude
      let written ← .lift (rlgrWriteValue count written value)
      let kp := rfxUpdateParam state.kp (-rlgrDnGr)
      rlgrNote (.parameter (rfxParamShift kp))
      pure (.next { reader, kp, krp } written)

/-- A one bit where runs are expected: the length of a last run, and the value behind it. -/
def rlgrOneBit (fill : Bool) (count : Nat) (state : RlgrState) (written : List Int) :
    RlgrEffect RlgrProgress :=
  .recover (rlgrReadBits state.reader (rfxParamShift state.kp)) (rlgrTailOrError fill count written)
    fun (run, reader) => do
      let (written, filled) ← .lift (rlgrWriteZeroesLimited fill count written run)
      if filled ∨ written.length = count then pure (.done written)
      else rlgrRunValue fill count { state with reader } written

def rlgrSingle (fill : Bool) (count : Nat) (state : RlgrState) (written : List Int) :
    RlgrEffect RlgrProgress :=
  .recover (rlgrGetGrCode state.reader state.krp) (rlgrTailOrError fill count written)
    fun ((magnitude, krp), reader) => do
      rlgrNote (.magnitude ((magnitude + 1) / 2))
      let written ←
        .lift (rlgrWriteValue count written (if magnitude = 0 then 0 else rfxFrom2magSign magnitude))
      let kp := rfxUpdateParam state.kp (if magnitude = 0 then rlgrUqGr else -rlgrDqGr)
      rlgrNote (.parameter (rfxParamShift kp))
      pure (.next { reader, kp, krp } written)

/-- `kp` behind two values that are sent by their sum. -/
def rlgrPairParam (kp value1 value2 : Nat) : Nat :=
  if value1 ≠ 0 ∧ value2 ≠ 0 then rfxUpdateParam kp (-2 * rlgrDqGr)
  else if value1 = 0 ∧ value2 = 0 then rfxUpdateParam kp (2 * rlgrUqGr)
  else kp

def rlgrPair (fill : Bool) (count : Nat) (state : RlgrState) (written : List Int) :
    RlgrEffect RlgrProgress :=
  .recover (rlgrGetGrCode state.reader state.krp) (rlgrTailOrError fill count written)
    fun ((sum, krp), reader) =>
  .recover (rlgrReadBits reader (rfxMinBits sum)) (rlgrTailOrError fill count written)
    fun (value1, reader) =>
      if value1 > sum then rlgrTailOrError fill count written
      else do
        let value2 := sum - value1
        let kp := rlgrPairParam state.kp value1 value2
        rlgrNote (.parameter (rfxParamShift kp))
        rlgrNote (.magnitude ((value1 + 1) / 2))
        rlgrNote (.magnitude ((value2 + 1) / 2))
        let written ← .lift (rlgrWriteValue count written (rfxFrom2magSign value1))
        let written ← .lift
          (if written.length < count then rlgrWriteValue count written (rfxFrom2magSign value2)
          else .ok written)
        pure (.next { reader, kp, krp } written)

/-- The body of the loop of `rdp_rfx_rlgr_decode_core`. -/
def rlgrRound (mode : RlgrMode) (fill : Bool) (count : Nat) (state : RlgrState)
    (written : List Int) : RlgrEffect RlgrProgress :=
  if rfxParamShift state.kp > 0 then
    .recover (rlgrReadBits state.reader 1) (rlgrTailOrError fill count written) fun (bit, reader) =>
      if bit = 0 then rlgrZeroBit fill count { state with reader } written
      else rlgrOneBit fill count { state with reader } written
  else
    match mode with
    | .rlgr1 => rlgrSingle fill count state written
    | .rlgr3 => rlgrPair fill count state written

/-! ## Codes -/

/-- What a stream says, a code at a time: the coefficients of the code, and what stands behind it.
    There is none where the stream is exhausted or the code stands for more than there is room. -/
def rlgrRunCode (room : Nat) (state : RlgrState) : Option (List Int × RlgrState) := do
  let (bit, reader) ← (rfxReadBits state.reader 1).toOption
  if bit = 0 then
    let run := 2 ^ rfxParamShift state.kp
    if run > room then none
    else some (List.replicate run 0, { state with reader, kp := rfxUpdateParam state.kp rlgrUpGr })
  else
    let (run, reader) ← (rfxReadBits reader (rfxParamShift state.kp)).toOption
    if run > room then none
    else if run = room then some (List.replicate run 0, { state with reader })
    else
      let ((value, krp), reader) ← (rlgrReadValue reader state.krp).toOption
      some (List.replicate run 0 ++ [value],
        { reader, krp, kp := rfxUpdateParam state.kp (-rlgrDnGr) })

def rlgrSingleCode (state : RlgrState) : Option (List Int × RlgrState) := do
  let ((magnitude, krp), reader) ← (rfxGetGrCode state.reader state.krp).toOption
  some ([if magnitude = 0 then 0 else rfxFrom2magSign magnitude],
    { reader, krp,
      kp := rfxUpdateParam state.kp (if magnitude = 0 then rlgrUqGr else -rlgrDqGr) })

def rlgrPairCode (state : RlgrState) : Option (List Int × RlgrState) := do
  let ((sum, krp), reader) ← (rfxGetGrCode state.reader state.krp).toOption
  let (value1, reader) ← (rfxReadBits reader (rfxMinBits sum)).toOption
  if value1 > sum then none
  else some ([rfxFrom2magSign value1, rfxFrom2magSign (sum - value1)],
    { reader, krp, kp := rlgrPairParam state.kp value1 (sum - value1) })

def rlgrCode (mode : RlgrMode) (room : Nat) (state : RlgrState) : Option (List Int × RlgrState) :=
  if rfxParamShift state.kp > 0 then rlgrRunCode room state
  else
    match mode with
    | .rlgr1 => rlgrSingleCode state
    | .rlgr3 => rlgrPairCode state

/-! ## What a round gives -/

open Effect (Gives)

theorem gives_note {event : RlgrEvent} {f : Unit → RlgrEffect α} {x : Attempt α}
    (next : Gives (f ()) x) : Gives (rlgrNote event >>= f) x := Gives.after next

theorem gives_readBits (reader : RfxBitReader) (count : Nat) :
    Gives (rlgrReadBits reader count) (rfxReadBits reader count) := gives_note (.lift _)

theorem gives_getGrCode (reader : RfxBitReader) (krp : Nat) :
    Gives (rlgrGetGrCode reader krp) (rfxGetGrCode reader krp) := by
  apply gives_note
  unfold rfxGetGrCode
  cases rfxReadOnes reader 0 with
  | error stop => exact .bind_error (.lift _)
  | ok ones =>
    obtain ⟨ones, reader₁⟩ := ones
    refine .bind (.lift _) ?_
    rw [ok_bind]
    dsimp only
    have back := gives_readBits reader₁ (rfxParamShift krp)
    cases closed : rfxReadBits reader₁ (rfxParamShift krp) with
    | error stop =>
      rw [closed] at back
      exact .bind_error back
    | ok low =>
      rw [closed] at back
      exact .bind back (gives_note (gives_note (.pure _)))

/-- How `rdp_rfx_rlgr_tail_or_error` ends. -/
def rlgrTailResult (fill : Bool) (count : Nat) (written : List Int) : Attempt RlgrProgress :=
  if fill then .ok (.done (rlgrTail count written)) else refuse .protocolError

theorem gives_tailOrError (fill : Bool) (count : Nat) (written : List Int) :
    Gives (rlgrTailOrError fill count written) (rlgrTailResult fill count written) := by
  cases fill with
  | false => exact .stop _
  | true => exact .pure _

variable {count : Nat} {written : List Int} {mode : RlgrMode}

theorem rlgrTail_zeros {run : Nat} (room : run ≤ count - written.length) :
    rlgrTail count (written ++ List.replicate run 0) = rlgrTail count written := by
  rw [rlgrTail, rlgrTail, List.append_assoc, List.replicate_append_replicate, List.length_append,
    List.length_replicate]
  congr 2
  omega

def RoundGives (fill : Bool) (count : Nat) (written : List Int)
    (code : Option (List Int × RlgrState)) (round : RlgrEffect RlgrProgress) : Prop :=
  match code with
  | none => Gives round (rlgrTailResult fill count written)
  | some (values, next) =>
      let written := written ++ values.take (count - written.length)
      Gives round (.ok (.next next written)) ∨
        written.length = count ∧ Gives round (.ok (.done written))

section Rounds

variable {fill : Bool} {count : Nat} {state : RlgrState} {written : List Int}
  {code : Option (List Int × RlgrState)} {round round' : RlgrEffect RlgrProgress}

theorem RoundGives.map (step : ∀ x, Gives round x → Gives round' x)
    (given : RoundGives fill count written code round) :
    RoundGives fill count written code round' := by
  cases code with
  | none => exact step _ given
  | some code =>
    rcases given with next | ⟨full, done⟩
    · exact .inl (step _ next)
    · exact .inr ⟨full, step _ done⟩

theorem RoundGives.next {values : List Int} {next : RlgrState}
    (fits : values.length ≤ count - written.length)
    (given : Gives round (.ok (.next next (written ++ values)))) :
    RoundGives fill count written (some (values, next)) round := by
  refine .inl ?_
  rw [List.take_of_length_le fits]
  exact given

theorem RoundGives.done {values : List Int} {next : RlgrState} (room : written.length < count)
    (fits : values.length = count - written.length)
    (given : Gives round (.ok (.done (written ++ values)))) :
    RoundGives fill count written (some (values, next)) round := by
  refine .inr ?_
  rw [List.take_of_length_le (Nat.le_of_eq fits), List.length_append]
  exact ⟨by omega, given⟩

variable {f : List Int × Bool → RlgrEffect RlgrProgress}

variable {run : Nat}

/-- Where `rdp_rfx_write_zeroes_limited` has no room. -/
theorem gives_long (long : run > count - written.length)
    (ends : ∀ written, f (written, true) = pure (.done written)) :
    Gives (.lift (rlgrWriteZeroesLimited fill count written run) >>= f)
      (rlgrTailResult fill count written) := by
  rw [rlgrWriteZeroesLimited, if_pos long]
  cases fill with
  | false => exact .bind_error (.lift _)
  | true =>
    refine .bind (.lift _) ?_
    rw [ends]
    exact .pure _

theorem gives_short {x : Attempt RlgrProgress} (short : ¬run > count - written.length)
    (next : Gives (f (written ++ List.replicate run 0, false)) x) :
    Gives (.lift (rlgrWriteZeroesLimited fill count written run) >>= f) x := by
  rw [rlgrWriteZeroesLimited, if_neg short]
  exact .bind (.lift _) next

theorem zeroBit_gives (room : written.length < count) :
    RoundGives fill count written
      (if 2 ^ rfxParamShift state.kp > count - written.length then none
      else some (List.replicate (2 ^ rfxParamShift state.kp) 0,
        { state with kp := rfxUpdateParam state.kp rlgrUpGr }))
      (rlgrZeroBit fill count state written) := by
  by_cases long : 2 ^ rfxParamShift state.kp > count - written.length
  · rw [if_pos long]
    exact gives_long long fun _ => if_pos (.inl rfl)
  rw [if_neg long]
  have size : (List.replicate (2 ^ rfxParamShift state.kp) (0 : Int)).length =
      2 ^ rfxParamShift state.kp := List.length_replicate
  by_cases full : (written ++ List.replicate (2 ^ rfxParamShift state.kp) (0 : Int)).length = count
  · refine .done room (by rw [List.length_append] at full; omega) (gives_short long ?_)
    dsimp only
    rw [if_pos (.inr full)]
    exact .pure _
  refine .next (by omega) (gives_short long ?_)
  dsimp only
  rw [if_neg (not_or.mpr ⟨Bool.false_ne_true, full⟩)]
  exact gives_note (.pure _)

theorem gives_writeValue {f : List Int → RlgrEffect α} {value : Int} {x : Attempt α}
    (room : written.length < count) (next : Gives (f (written ++ [value])) x) :
    Gives (.lift (rlgrWriteValue count written value) >>= f) x := by
  rw [rlgrWriteValue, if_neg (Nat.not_le.mpr room)]
  exact .bind (.lift _) next

theorem runValue_gives (room : written.length + run < count) :
    RoundGives fill count written
      ((rlgrReadValue state.reader state.krp).toOption.bind fun ((value, krp), reader) =>
        some (List.replicate run 0 ++ [value],
          { reader, krp, kp := rfxUpdateParam state.kp (-rlgrDnGr) }))
      (rlgrRunValue fill count state (written ++ List.replicate run 0)) := by
  have tail := gives_tailOrError fill count (written ++ List.replicate run 0)
  have zeros : rlgrTailResult fill count (written ++ List.replicate run 0) =
      rlgrTailResult fill count written := by
    rw [rlgrTailResult, rlgrTailResult, rlgrTail_zeros (by omega)]
  rw [zeros] at tail
  unfold rlgrReadValue rlgrRunValue
  have first := gives_readBits state.reader 1
  cases opened : rfxReadBits state.reader 1 with
  | error stop =>
    rw [opened] at first
    exact .recover_error first tail
  | ok sign =>
    obtain ⟨sign, reader₁⟩ := sign
    rw [opened] at first
    have second := gives_getGrCode reader₁ state.krp
    simp only [ok_bind]
    cases coded : rfxGetGrCode reader₁ state.krp with
    | error stop =>
      rw [coded] at second
      exact .recover first (.recover_error second tail)
    | ok code =>
      obtain ⟨⟨magnitude, krp⟩, reader₂⟩ := code
      rw [coded] at second
      have size : (List.replicate run (0 : Int)).length = run := List.length_replicate
      refine .next ?_ (.recover first (.recover second (gives_note (gives_writeValue ?_ ?_))))
      · rw [List.length_append, List.length_singleton]
        omega
      · rw [List.length_append]
        omega
      · rw [← List.append_assoc]
        exact gives_note (.pure _)

theorem oneBit_gives (room : written.length < count) :
    RoundGives fill count written
      ((rfxReadBits state.reader (rfxParamShift state.kp)).toOption.bind fun (run, reader) =>
        if run > count - written.length then none
        else if run = count - written.length then some (List.replicate run 0, { state with reader })
        else (rlgrReadValue reader state.krp).toOption.bind fun ((value, krp), reader) =>
          some (List.replicate run 0 ++ [value],
            { reader, krp, kp := rfxUpdateParam state.kp (-rlgrDnGr) }))
      (rlgrOneBit fill count state written) := by
  unfold rlgrOneBit
  have first := gives_readBits state.reader (rfxParamShift state.kp)
  cases counted : rfxReadBits state.reader (rfxParamShift state.kp) with
  | error stop =>
    rw [counted] at first
    exact .recover_error first (gives_tailOrError fill count written)
  | ok run =>
    obtain ⟨run, reader⟩ := run
    rw [counted] at first
    have size : (List.replicate run (0 : Int)).length = run := List.length_replicate
    simp only [Except.toOption, Option.bind_some]
    refine RoundGives.map (fun _ => .recover first) ?_
    dsimp only
    by_cases long : run > count - written.length
    · rw [if_pos long]
      exact gives_long long fun _ => if_pos (.inl rfl)
    rw [if_neg long]
    refine RoundGives.map (fun _ => gives_short long) ?_
    dsimp only
    have longer : (written ++ List.replicate run (0 : Int)).length = written.length + run := by
      rw [List.length_append, size]
    by_cases full : run = count - written.length
    · rw [if_pos full, if_pos (.inr (longer.trans (by omega)))]
      exact .done room (size.trans full) (.pure _)
    have open' : (written ++ List.replicate run (0 : Int)).length ≠ count := by omega
    rw [if_neg full, if_neg (not_or.mpr ⟨Bool.false_ne_true, open'⟩)]
    have still : written.length + run < count := by omega
    have given : RoundGives fill count written _ (rlgrRunValue fill count { state with reader }
        (written ++ List.replicate run 0)) := runValue_gives still
    exact given

theorem single_gives (room : written.length < count) :
    RoundGives fill count written (rlgrSingleCode state) (rlgrSingle fill count state written) := by
  unfold rlgrSingleCode rlgrSingle
  have first := gives_getGrCode state.reader state.krp
  cases coded : rfxGetGrCode state.reader state.krp with
  | error stop =>
    rw [coded] at first
    exact .recover_error first (gives_tailOrError fill count written)
  | ok code =>
    obtain ⟨⟨magnitude, krp⟩, reader⟩ := code
    rw [coded] at first
    refine .next ?_ (.recover first (gives_note (gives_writeValue room (gives_note (.pure _)))))
    rw [List.length_singleton]
    omega

theorem pair_gives (room : written.length < count) :
    RoundGives fill count written (rlgrPairCode state) (rlgrPair fill count state written) := by
  unfold rlgrPairCode rlgrPair
  have tail := gives_tailOrError fill count written
  have first := gives_getGrCode state.reader state.krp
  cases coded : rfxGetGrCode state.reader state.krp with
  | error stop =>
    rw [coded] at first
    exact .recover_error first tail
  | ok code =>
    obtain ⟨⟨sum, krp⟩, reader⟩ := code
    rw [coded] at first
    have second := gives_readBits reader (rfxMinBits sum)
    refine RoundGives.map (fun _ => .recover first) ?_
    change RoundGives fill count written
      ((rfxReadBits reader (rfxMinBits sum)).toOption.bind fun (value1, reader) =>
        if value1 > sum then none
        else some ([rfxFrom2magSign value1, rfxFrom2magSign (sum - value1)],
          { reader, krp, kp := rlgrPairParam state.kp value1 (sum - value1) })) _
    cases divided : rfxReadBits reader (rfxMinBits sum) with
    | error stop =>
      rw [divided] at second
      exact .recover_error second tail
    | ok value1 =>
      obtain ⟨value1, reader⟩ := value1
      rw [divided] at second
      refine RoundGives.map (fun _ => .recover second) ?_
      simp only [Except.toOption, Option.bind_some]
      by_cases large : value1 > sum
      · rw [if_pos large, if_pos large]
        exact tail
      rw [if_neg large, if_neg large]
      refine .inl (gives_note (gives_note (gives_note (gives_writeValue room ?_))))
      by_cases both : written.length + 1 < count
      · rw [List.length_append, List.length_singleton, if_pos both, List.take_of_length_le (by
          rw [List.length_cons, List.length_singleton]
          omega)]
        refine gives_writeValue (by rwa [List.length_append, List.length_singleton]) ?_
        rw [List.append_assoc]
        exact .pure _
      -- the second value has no place
      rw [List.length_append, List.length_singleton, if_neg both,
        show count - written.length = 1 by omega]
      exact .bind (.lift _) (.pure _)

theorem round_gives (mode : RlgrMode) (room : written.length < count) :
    RoundGives fill count written (rlgrCode mode (count - written.length) state)
      (rlgrRound mode fill count state written) := by
  unfold rlgrCode rlgrRound
  by_cases runs : rfxParamShift state.kp > 0
  · rw [if_pos runs, if_pos runs, rlgrRunCode]
    have first := gives_readBits state.reader 1
    cases opened : rfxReadBits state.reader 1 with
    | error stop =>
      rw [opened] at first
      exact .recover_error first (gives_tailOrError fill count written)
    | ok bit =>
      obtain ⟨bit, reader⟩ := bit
      rw [opened] at first
      refine RoundGives.map (fun _ => .recover first) ?_
      by_cases zero : bit = 0
      · subst zero
        have given : RoundGives fill count written _
            (rlgrZeroBit fill count { state with reader } written) := zeroBit_gives room
        exact given
      change RoundGives fill count written
        (if bit = 0 then _ else (rfxReadBits reader (rfxParamShift state.kp)).toOption.bind _)
        (if bit = 0 then _ else rlgrOneBit fill count { state with reader } written)
      rw [if_neg zero, if_neg zero]
      have given : RoundGives fill count written _
          (rlgrOneBit fill count { state with reader } written) := oneBit_gives room
      exact given
  · rw [if_neg runs, if_neg runs]
    cases mode with
    | rlgr1 => exact single_gives room
    | rlgr3 => exact pair_gives room

end Rounds

/-! ## Loops -/

theorem toOption_eq_some {x : Except ε α} {a : α} (given : x.toOption = some a) : x = .ok a := by
  cases x with
  | error e => cases given
  | ok b =>
    cases given
    rfl

variable {room : Nat} {state : RlgrState} {values : List Int}

variable {next : RlgrState}

theorem rlgrRunCode_left (coded : rlgrRunCode room state = some (values, next)) :
    next.reader.bits.length < state.reader.bits.length := by
  obtain ⟨⟨bit, reader₁⟩, opened, coded⟩ := Option.bind_eq_some_iff.mp coded
  have left := rfxReadBits_left (toOption_eq_some opened)
  dsimp only at coded
  split at coded
  · split at coded
    · cases coded
    · cases coded
      dsimp only
      omega
  obtain ⟨⟨run, reader₂⟩, counted, coded⟩ := Option.bind_eq_some_iff.mp coded
  have left' := rfxReadBits_left (toOption_eq_some counted)
  dsimp only at coded
  split at coded
  · cases coded
  split at coded
  · cases coded
    dsimp only
    omega
  obtain ⟨⟨value, reader₃⟩, valued, coded⟩ := Option.bind_eq_some_iff.mp coded
  have left'' := rlgrReadValue_left (toOption_eq_some valued)
  cases coded
  dsimp only
  omega

theorem rlgrSingleCode_left (coded : rlgrSingleCode state = some (values, next)) :
    next.reader.bits.length < state.reader.bits.length := by
  obtain ⟨⟨code, reader⟩, opened, coded⟩ := Option.bind_eq_some_iff.mp coded
  have left := rfxGetGrCode_left (toOption_eq_some opened)
  cases coded
  exact left

theorem rlgrPairCode_left (coded : rlgrPairCode state = some (values, next)) :
    next.reader.bits.length < state.reader.bits.length := by
  obtain ⟨⟨code, reader₁⟩, opened, coded⟩ := Option.bind_eq_some_iff.mp coded
  obtain ⟨⟨value1, reader₂⟩, divided, coded⟩ := Option.bind_eq_some_iff.mp coded
  have left := rfxGetGrCode_left (toOption_eq_some opened)
  have left' := rfxReadBits_left (toOption_eq_some divided)
  dsimp only at coded
  split at coded
  · cases coded
  cases coded
  dsimp only
  omega

theorem rlgrCode_left (coded : rlgrCode mode room state = some (values, next)) :
    next.reader.bits.length < state.reader.bits.length := by
  unfold rlgrCode at coded
  split at coded
  · exact rlgrRunCode_left coded
  cases mode with
  | rlgr1 => exact rlgrSingleCode_left coded
  | rlgr3 => exact rlgrPairCode_left coded

variable {fill : Bool}

theorem rlgrRound_left {written' : List Int} {log log' : List RlgrEvent}
    (room : written.length < count)
    (stepped : rlgrRound mode fill count state written log = (.ok (.next next written'), log')) :
    next.reader.bits.length < state.reader.bits.length := by
  have given : RoundGives fill count written (rlgrCode mode (count - written.length) state)
      (rlgrRound mode fill count state written) := round_gives mode room
  cases coded : rlgrCode mode (count - written.length) state with
  | none =>
    rw [coded] at given
    have ended := (given log).symm.trans (congrArg Prod.fst stepped)
    cases fill with
    | false => cases ended
    | true => cases ended
  | some code =>
    rw [coded] at given
    rcases given with given | ⟨_, given⟩
    · cases (given log).symm.trans (congrArg Prod.fst stepped)
      exact rlgrCode_left coded
    · cases (given log).symm.trans (congrArg Prod.fst stepped)

/-- The loop of `rdp_rfx_rlgr_decode_core`. -/
def rlgrLoopCore (mode : RlgrMode) (fill : Bool) (count : Nat) (state : RlgrState)
    (written : List Int) : RlgrEffect (List Int) := fun log =>
  if _ : written.length < count then
    match _ : rlgrRound mode fill count state written log with
    | (.error stop, log) => (.error stop, log)
    | (.ok (.done written), log) => (.ok written, log)
    | (.ok (.next state written), log) => rlgrLoopCore mode fill count state written log
  else (.ok written, log)
termination_by state.reader.bits.length
decreasing_by exact rlgrRound_left ‹_› ‹_›

def rlgrStart (data : Bytes) : RlgrState :=
  { reader := rfxBitReaderAttach data, kp := 2 ^ rlgrLs, krp := 2 ^ rlgrLs }

/-- `rdp_rfx_rlgr_decode_core`. -/
def rlgrDecodeCore (mode : RlgrMode) (fill : Bool) (data : Bytes) (count : Nat) :
    RlgrEffect (List Int) :=
  if count = 0 ∨ count > sizeMax / 4 then .stop (.returned .invalidArgument)
  else do
    rlgrNote (.parameter (rfxParamShift (rlgrStart data).kp))
    rlgrNote (.parameter (rfxParamShift (rlgrStart data).krp))
    rlgrLoopCore mode fill count (rlgrStart data) []

/-- What `rdp_rfx_rlgr_decode_core` writes. -/
def rlgrDecoded (mode : RlgrMode) (fill : Bool) (data : Bytes) (count : Nat) : Attempt (List Int) :=
  (rlgrDecodeCore mode fill data count []).1

/-- `rdp_rfx_rlgr_decode`. -/
def rfxRlgrDecode (mode : RlgrMode) (data : Bytes) (count : Nat) : Attempt (List Int) :=
  rlgrDecoded mode false data count

/-! ## What a stream stands for -/

/-- The coefficients of the codes in front of the first one that is exhausted or too large. -/
def rlgrCoefficients (mode : RlgrMode) (room : Nat) (state : RlgrState) : List Int :=
  if room = 0 then []
  else
    match _ : rlgrCode mode room state with
    | none => []
    | some (values, next) =>
        values.take room ++ rlgrCoefficients mode (room - (values.take room).length) next
termination_by state.reader.bits.length
decreasing_by exact rlgrCode_left ‹_›

theorem rlgrCoefficients_none (coded : rlgrCode mode room state = none) :
    rlgrCoefficients mode room state = [] := by
  rw [rlgrCoefficients]
  split
  · rfl
  split
  · rfl
  · rename_i coded'
    cases coded.symm.trans coded'

theorem rlgrCoefficients_some (some' : 0 < room)
    (coded : rlgrCode mode room state = some (values, next)) :
    rlgrCoefficients mode room state =
      values.take room ++ rlgrCoefficients mode (room - (values.take room).length) next := by
  rw [rlgrCoefficients, if_neg (Nat.ne_of_gt some')]
  split
  · rename_i coded'
    cases coded.symm.trans coded'
  rename_i coded'
  cases coded.symm.trans coded'
  rfl

theorem rlgrCoefficients_full (mode : RlgrMode) (state : RlgrState) :
    rlgrCoefficients mode 0 state = [] := by
  rw [rlgrCoefficients, if_pos rfl]

def rlgrSettle (fill : Bool) (count : Nat) (decoded : List Int) : Attempt (List Int) :=
  if decoded.length = count then .ok decoded
  else if fill then .ok (rlgrTail count decoded)
  else refuse .protocolError

section Loop

variable {mode : RlgrMode} {fill : Bool} {count : Nat} {state next : RlgrState}
  {written written' : List Int} {log log' : List RlgrEvent}

theorem rlgrLoopCore_full (full : ¬written.length < count) :
    rlgrLoopCore mode fill count state written log = (.ok written, log) := by
  rw [rlgrLoopCore, dif_neg full]

theorem rlgrLoopCore_next (room : written.length < count)
    (stepped : rlgrRound mode fill count state written log = (.ok (.next next written'), log')) :
    rlgrLoopCore mode fill count state written log =
      rlgrLoopCore mode fill count next written' log' := by
  rw [rlgrLoopCore, dif_pos room]
  split <;> rename_i stepped' <;> cases stepped.symm.trans stepped'
  rfl

theorem rlgrLoopCore_done (room : written.length < count)
    (stepped : rlgrRound mode fill count state written log = (.ok (.done written'), log')) :
    rlgrLoopCore mode fill count state written log = (.ok written', log') := by
  rw [rlgrLoopCore, dif_pos room]
  split <;> rename_i stepped' <;> cases stepped.symm.trans stepped'
  rfl

theorem rlgrLoopCore_stop {stop : Stop} (room : written.length < count)
    (stepped : rlgrRound mode fill count state written log = (.error stop, log')) :
    rlgrLoopCore mode fill count state written log = (.error stop, log') := by
  rw [rlgrLoopCore, dif_pos room]
  split <;> rename_i stepped' <;> cases stepped.symm.trans stepped'
  rfl

theorem loop_gives_tail (room : written.length < count)
    (given : Gives (rlgrRound mode fill count state written) (rlgrTailResult fill count written)) :
    Gives (rlgrLoopCore mode fill count state written) (rlgrSettle fill count written) := by
  intro log
  have ended := given log
  rw [rlgrSettle, if_neg (Nat.ne_of_lt room)]
  cases fill with
  | false => rw [rlgrLoopCore_stop room (Prod.ext ended rfl)]; rfl
  | true => rw [rlgrLoopCore_done room (Prod.ext ended rfl)]; rfl

theorem loop_gives (mode : RlgrMode) (fill : Bool) (count : Nat) (state : RlgrState)
    (written : List Int) (fits : written.length ≤ count) :
    Gives (rlgrLoopCore mode fill count state written)
      (rlgrSettle fill count
        (written ++ rlgrCoefficients mode (count - written.length) state)) := by
  -- the bits that are left carry the induction
  induction size : state.reader.bits.length using Nat.strong_induction_on
    generalizing state written with
  | _ left ih =>
    by_cases room : written.length < count
    · have given : RoundGives fill count written (rlgrCode mode (count - written.length) state)
          (rlgrRound mode fill count state written) := round_gives mode room
      cases coded : rlgrCode mode (count - written.length) state with
      | none =>
        rw [coded] at given
        rw [rlgrCoefficients_none coded, List.append_nil]
        exact loop_gives_tail room given
      | some code =>
        obtain ⟨values, next⟩ := code
        rw [coded] at given
        rw [rlgrCoefficients_some (by omega) coded, ← List.append_assoc, Nat.sub_sub,
          ← List.length_append]
        intro log
        rcases given with given | ⟨full, given⟩
        · rw [rlgrLoopCore_next room (Prod.ext (given log) rfl)]
          have less := rlgrCode_left coded
          refine ih _ (size ▸ less) next _ ?_ rfl _
          rw [List.length_append, List.length_take]
          omega
        · rw [rlgrLoopCore_done room (Prod.ext (given log) rfl), full, Nat.sub_self,
            rlgrCoefficients_full, List.append_nil, rlgrSettle, if_pos full]
    · have full : written.length = count := by omega
      intro log
      rw [rlgrLoopCore_full room, full, Nat.sub_self, rlgrCoefficients_full, List.append_nil,
        rlgrSettle, if_pos full]

end Loop

theorem coefficients_fit (mode : RlgrMode) (room : Nat) (state : RlgrState) :
    (rlgrCoefficients mode room state).length ≤ room := by
  induction size : state.reader.bits.length using Nat.strong_induction_on
    generalizing room state with
  | _ left ih =>
    by_cases none' : 0 < room
    · cases coded : rlgrCode mode room state with
      | none =>
        rw [rlgrCoefficients_none coded]
        exact Nat.zero_le _
      | some code =>
        obtain ⟨values, next⟩ := code
        have less := rlgrCode_left coded
        have rest := ih _ (size ▸ less) (room - (values.take room).length) next rfl
        rw [rlgrCoefficients_some none' coded, List.length_append]
        rw [List.length_take] at rest ⊢
        omega
    · rw [Nat.eq_zero_of_not_pos none', rlgrCoefficients_full]
      exact Nat.le_refl 0

theorem rlgrDecoded_eq (mode : RlgrMode) (fill : Bool) (data : Bytes) (count : Nat) :
    rlgrDecoded mode fill data count =
      if count = 0 ∨ count > sizeMax / 4 then refuse .invalidArgument
      else rlgrSettle fill count (rlgrCoefficients mode count (rlgrStart data)) := by
  unfold rlgrDecoded rlgrDecodeCore
  split
  · rfl
  · exact gives_note (gives_note (loop_gives mode fill count _ [] (Nat.zero_le _))) []

variable {decoded : List Int}

theorem rlgrSettle_length (fits : decoded.length ≤ count)
    (settled : rlgrSettle fill count decoded = .ok values) : values.length = count := by
  unfold rlgrSettle at settled
  split at settled
  · cases settled
    assumption
  split at settled
  · cases settled
    rw [rlgrTail, List.length_append, List.length_replicate]
    omega
  · cases settled

theorem rlgrSettle_filled : rlgrSettle true count decoded = .ok (rlgrTail count decoded) := by
  unfold rlgrSettle
  split
  · rename_i full
    rw [rlgrTail, full, Nat.sub_self, List.replicate_zero, List.append_nil]
  · rfl

theorem rlgrSettle_strict (settled : rlgrSettle false count decoded = .ok values) :
    rlgrSettle true count decoded = .ok values := by
  unfold rlgrSettle at settled ⊢
  by_cases full : decoded.length = count
  · rwa [if_pos full] at settled ⊢
  · rw [if_neg full] at settled
    cases settled

/-- A decoder that may fill the tail writes what a strict one does, and otherwise what was decoded
    so far and zeros. -/
theorem rlgr_modes_agree (mode : RlgrMode) (data : Bytes) (count : Nat) :
    (∀ fill values, rlgrDecoded mode fill data count = .ok values → values.length = count) ∧
    (∀ values, rlgrDecoded mode false data count = .ok values →
      rlgrDecoded mode true data count = .ok values) ∧
    ∀ values, rlgrDecoded mode true data count = .ok values →
      values = rlgrTail count (rlgrCoefficients mode count (rlgrStart data)) := by
  simp only [rlgrDecoded_eq]
  split
  · exact ⟨nofun, nofun, nofun⟩
  refine ⟨?_, ?_, ?_⟩
  · intro fill values settled
    exact rlgrSettle_length (coefficients_fit mode count _) settled
  · intro values settled
    exact rlgrSettle_strict settled
  · intro values settled
    rw [rlgrSettle_filled] at settled
    exact (Except.ok.inj settled).symm

theorem rlgr_modes_agree_sample :
    rlgrDecoded .rlgr3 true [0] 3 = .ok [0, 0, 0] ∧
      [0, 0, 0] = rlgrTail 3 (rlgrCoefficients .rlgr3 3 (rlgrStart [0])) := by
  -- a run of two zeros, and a second one for which there is no room
  have first : rlgrCode .rlgr3 3 (rlgrStart [0]) =
      some ([0, 0], ⟨⟨1, List.replicate 7 false⟩, 12, 8⟩) := by decide +kernel
  have second : rlgrCode .rlgr3 1 ⟨⟨1, List.replicate 7 false⟩, 12, 8⟩ = none := by decide +kernel
  have stands : rlgrCoefficients .rlgr3 3 (rlgrStart [0]) = [0, 0] := by
    rw [rlgrCoefficients_some (by decide) first]
    exact congrArg ([0, 0] ++ ·) (rlgrCoefficients_none second)
  have ran : rlgrDecoded .rlgr3 true [0] 3 = .ok [0, 0, 0] := by
    rw [rlgrDecoded_eq, stands, if_neg (by decide)]
    rfl
  exact ⟨ran, (rlgr_modes_agree .rlgr3 [0] 3).2.2 _ ran⟩

/-! ## Progressive tiles -/

def rlgrLoopBehind (count : Nat) (written : List Int) : Option (List Int × RlgrState) → List Int
  | none => rlgrTail count written
  | some (values, next) => rlgrLoop count next.reader next.kp next.krp (written ++ values)

theorem rlgrLoop_full {kp krp : Nat} {reader : RfxBitReader} (full : written.length ≥ count) :
    rlgrLoop count reader kp krp written = written := by
  rw [rlgrLoop, if_pos full]

theorem rlgrLoop_code (room : written.length < count) :
    rlgrLoop count state.reader state.kp state.krp written =
      rlgrLoopBehind count written (rlgrCode .rlgr1 (count - written.length) state) := by
  rw [rlgrLoop, if_neg (Nat.not_le.mpr room), rlgrCode]
  split
  · rw [rlgrRunCode]
    split
    · rename_i opened
      rw [opened]
      rfl
    rename_i bit reader₁ opened
    rw [opened]
    change _ = rlgrLoopBehind count written (if bit = 0 then _ else _)
    split
    · dsimp only
      split <;> rfl
    split
    · rename_i counted
      rw [counted]
      rfl
    rename_i run reader₂ counted
    rw [counted]
    change _ = rlgrLoopBehind count written (if _ then _ else if _ then _ else _)
    split
    · rfl
    by_cases full : run = count - written.length
    · rw [if_pos full, if_pos (by omega), rlgrLoopBehind, rlgrLoop_full]
      rw [List.length_append, List.length_replicate]
      omega
    rw [if_neg full, if_neg (by omega)]
    split
    · rename_i valued
      rw [valued]
      exact rlgrTail_zeros (by omega)
    rename_i valued
    rw [valued, List.append_assoc]
    rfl
  · rw [rlgrSingleCode]
    split
    · rename_i coded
      rw [coded]
      rfl
    rename_i magnitude krp reader₁ coded
    rw [coded]
    by_cases zero : magnitude = 0
    · subst zero
      rfl
    rw [if_neg zero]
    change _ = rlgrLoop count reader₁ (rfxUpdateParam state.kp (if _ then _ else _)) krp
      (written ++ [if _ then _ else _])
    rw [if_neg zero, if_neg zero]

theorem code_fits (some' : 0 < room)
    (coded : rlgrCode .rlgr1 room state = some (values, next)) : values.length ≤ room := by
  unfold rlgrCode at coded
  split at coded
  · obtain ⟨⟨bit, reader₁⟩, opened, coded⟩ := Option.bind_eq_some_iff.mp coded
    dsimp only at coded
    split at coded
    · split at coded
      · cases coded
      · cases coded
        rw [List.length_replicate]
        omega
    obtain ⟨⟨run, reader₂⟩, counted, coded⟩ := Option.bind_eq_some_iff.mp coded
    dsimp only at coded
    split at coded
    · cases coded
    split at coded
    · cases coded
      rw [List.length_replicate]
      omega
    obtain ⟨⟨value, reader₃⟩, valued, coded⟩ := Option.bind_eq_some_iff.mp coded
    cases coded
    rw [List.length_append, List.length_replicate, List.length_singleton]
    omega
  · obtain ⟨⟨code, reader⟩, opened, coded⟩ := Option.bind_eq_some_iff.mp coded
    cases coded
    exact some'

theorem rlgrLoop_eq (count : Nat) (state : RlgrState) (written : List Int)
    (fits : written.length ≤ count) :
    rlgrLoop count state.reader state.kp state.krp written =
      rlgrTail count (written ++ rlgrCoefficients .rlgr1 (count - written.length) state) := by
  induction size : state.reader.bits.length using Nat.strong_induction_on
    generalizing state written with
  | _ left ih =>
    by_cases room : written.length < count
    · rw [rlgrLoop_code room]
      cases coded : rlgrCode .rlgr1 (count - written.length) state with
      | none => rw [rlgrCoefficients_none coded, List.append_nil, rlgrLoopBehind]
      | some code =>
        obtain ⟨values, next⟩ := code
        have whole := code_fits (by omega) coded
        rw [rlgrLoopBehind, rlgrCoefficients_some (by omega) coded, List.take_of_length_le whole,
          ← List.append_assoc, Nat.sub_sub, ← List.length_append]
        refine ih _ (size ▸ rlgrCode_left coded) next _ ?_ rfl
        rw [List.length_append]
        omega
    have full : written.length = count := by omega
    rw [rlgrLoop_full (Nat.le_of_eq full.symm), full, Nat.sub_self, rlgrCoefficients_full,
      List.append_nil, rlgrTail, full, Nat.sub_self, List.replicate_zero, List.append_nil]

end LibRdp.Graphics
