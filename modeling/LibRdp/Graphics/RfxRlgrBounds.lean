import LibRdp.Graphics.RfxRlgrCore
import Mathlib.Data.Nat.Size

/-! # Bounds on the arithmetic of the entropy decoder

Both parameters saturate, and a prefix cannot count more ones than the data has bits. So nothing
that the decoder computes for the component of a tile leaves its type.
-/

namespace LibRdp.Graphics

open Coding Machine Effect

def RlgrEvent.Fits : RlgrEvent → Prop
  | .reads count => count ≤ 31
  | .parameter value => value ≤ 10
  | .code value => value < 2 ^ 31
  | .magnitude value => value < 2 ^ 31

def RlgrFits (log : List RlgrEvent) : Prop := ∀ event ∈ log, event.Fits

structure RlgrState.Bounded (state : RlgrState) : Prop where
  bits : state.reader.bits.length < 2 ^ 19
  kp : state.kp ≤ 80
  krp : state.krp ≤ 80

/-- An effect that notes what fits, and gives something with `done`. -/
def FitsGiving (m : RlgrEffect α) (done : α → Prop) : Prop :=
  Holds RlgrFits m (fun a log => RlgrFits log ∧ done a) fun _ log => RlgrFits log

section Rules

variable {m : RlgrEffect α} {f : α → RlgrEffect β} {done : α → Prop} {done' : β → Prop}

theorem FitsGiving.pure {a : α} (here : done a) : FitsGiving (Pure.pure a) done :=
  Holds.pure fun _ fits => ⟨fits, here⟩

theorem FitsGiving.stop {stop : Stop} : FitsGiving (.stop stop : RlgrEffect α) done :=
  Holds.stop fun _ fits => fits

theorem FitsGiving.bind (first : FitsGiving m done)
    (next : ∀ a, done a → FitsGiving (f a) done') : FitsGiving (m >>= f) done' := by
  refine Holds.bind first fun a => Holds.assume (fun _ held => held.2) fun here => ?_
  exact Holds.weaken (next a here) (fun _ held => held.1) (fun _ _ held => held) fun _ _ held => held

theorem FitsGiving.recover {otherwise : RlgrEffect β} (first : FitsGiving m done)
    (other : FitsGiving otherwise done') (next : ∀ a, done a → FitsGiving (f a) done') :
    FitsGiving (Effect.recover m otherwise f) done' := by
  refine Holds.recover first ?_ fun a => Holds.assume (fun _ held => held.2) fun here => ?_
  · exact Holds.weaken other (fun _ ⟨_, fits⟩ => fits) (fun _ _ held => held) fun _ _ held => held
  · exact Holds.weaken (next a here) (fun _ held => held.1) (fun _ _ held => held)
      fun _ _ held => held

theorem FitsGiving.lift {x : Attempt α} (yields : ∀ a, x = .ok a → done a) :
    FitsGiving (.lift x) done := by
  have yields' : Yields x done fun _ => True := ⟨yields, fun _ _ => trivial⟩
  exact Holds.lift yields' (fun _ _ here fits => ⟨fits, here⟩) fun _ _ _ fits => fits

theorem FitsGiving.note {event : RlgrEvent} {f : Unit → RlgrEffect β} (here : event.Fits)
    (next : FitsGiving (f ()) done') : FitsGiving (rlgrNote event >>= f) done' := by
  have noted : Holds RlgrFits (rlgrNote event) (fun _ => RlgrFits) fun _ => RlgrFits := by
    refine Holds.modify fun log fits event' held => ?_
    rcases List.mem_append.mp held with old | new
    · exact fits event' old
    · exact List.mem_singleton.mp new ▸ here
  exact noted.bind fun _ => next

end Rules

variable {reader : RfxBitReader} {data : Bytes}

theorem readBits_fits {count : Nat} (small : count ≤ 31) :
    FitsGiving (rlgrReadBits reader count) fun (value, next) =>
      value < 2 ^ count ∧ next.bits.length ≤ reader.bits.length := by
  refine .note small (.lift fun (value, next) read => ?_)
  have left := rfxReadBits_left read
  refine ⟨?_, by omega⟩
  simp only [rfxReadBits, refuse_else, Except.ok.injEq, Prod.mk.injEq] at read
  obtain ⟨-, -, -, rfl, rfl⟩ := read
  have below := ofMsb_lt (reader.bits.take count)
  rwa [List.length_take_of_le (by omega)] at below

theorem code_lt {ones shift low : Nat} (few : ones < 2 ^ 19) (small : shift ≤ 10)
    (below : low < 2 ^ shift) : ones * 2 ^ shift ||| low < 2 ^ 29 := by
  apply Nat.or_lt_two_pow
  · calc ones * 2 ^ shift < 2 ^ 19 * 2 ^ shift := Nat.mul_lt_mul_of_pos_right few (Nat.two_pow_pos _)
      _ ≤ 2 ^ 19 * 2 ^ 10 := Nat.mul_le_mul_left _ (Nat.pow_le_pow_right (by decide) small)
      _ = 2 ^ 29 := by decide
  · exact Nat.lt_of_lt_of_le below (Nat.pow_le_pow_right (by decide) (by omega))

theorem getGrCode_fits {krp : Nat} (short : reader.bits.length < 2 ^ 19) (saturated : krp ≤ 80) :
    FitsGiving (rlgrGetGrCode reader krp) fun ((magnitude, krp'), next) =>
      magnitude < 2 ^ 29 ∧ krp' ≤ 80 ∧ next.bits.length ≤ reader.bits.length := by
  have small := rfxParamShift_le saturated
  refine .note (Nat.le_of_ble_eq_true rfl) (.bind (.lift fun _ => id) fun (ones, reader₁) read => ?_)
  have left := rfxReadOnes_left read
  refine .bind (readBits_fits (by omega)) fun (low, reader₂) ⟨below, left'⟩ => ?_
  have few : ones < 2 ^ 19 := by omega
  have code := code_lt few small below
  have saturated' : (if ones = 0 then rfxUpdateParam krp (-2)
      else if ones ≠ 1 then rfxUpdateParam krp ones else krp) ≤ 80 := by
    split
    · exact rfxUpdateParam_le _ _
    split
    · exact rfxUpdateParam_le _ _
    · exact saturated
  refine .note (Nat.lt_trans code (by decide)) (.note (rfxParamShift_le saturated') (.pure ?_))
  refine ⟨?_, saturated', by omega⟩
  have whole : ones * 2 ^ rfxParamShift krp ≤ ones * 2 ^ rfxParamShift krp ||| low :=
    Nat.left_le_or
  rw [rfxU32, Nat.mod_eq_of_lt (by omega)]
  exact code

def RlgrProgress.Bounded : RlgrProgress → Prop
  | .done _ => True
  | .next state _ => state.Bounded

section Rounds

variable {fill : Bool} {count : Nat} {state : RlgrState} {written : List Int}

theorem tailOrError_fits : FitsGiving (rlgrTailOrError fill count written) RlgrProgress.Bounded := by
  unfold rlgrTailOrError
  split
  · exact .stop
  · exact .pure trivial

theorem zeroBit_fits (bounded : state.Bounded) :
    FitsGiving (rlgrZeroBit fill count state written) RlgrProgress.Bounded := by
  refine .bind (.lift fun _ => id) fun (written, filled) _ => ?_
  dsimp only
  split
  · exact .pure trivial
  · have saturated := rfxUpdateParam_le state.kp rlgrUpGr
    exact .note (rfxParamShift_le saturated) (.pure ⟨bounded.bits, saturated, bounded.krp⟩)

theorem runValue_fits (bounded : state.Bounded) :
    FitsGiving (rlgrRunValue fill count state written) RlgrProgress.Bounded := by
  refine .recover (readBits_fits (by decide)) tailOrError_fits fun (sign, reader) ⟨_, left⟩ => ?_
  have short : reader.bits.length < 2 ^ 19 := Nat.lt_of_le_of_lt left bounded.bits
  refine .recover (getGrCode_fits short bounded.krp) tailOrError_fits
    fun ((magnitude, krp), reader₂) ⟨small, saturated, left'⟩ => ?_
  refine .note (?_ : magnitude + 1 < 2 ^ 31) (.bind (.lift fun _ => id) fun written _ => ?_)
  · exact Nat.lt_of_le_of_lt small (by decide)
  · have saturated' := rfxUpdateParam_le state.kp (-rlgrDnGr)
    exact .note (rfxParamShift_le saturated')
      (.pure ⟨Nat.lt_of_le_of_lt left' short, saturated', saturated⟩)

theorem oneBit_fits (bounded : state.Bounded) :
    FitsGiving (rlgrOneBit fill count state written) RlgrProgress.Bounded := by
  have small := rfxParamShift_le bounded.kp
  refine .recover (readBits_fits (by omega)) tailOrError_fits fun (run, reader) ⟨_, left⟩ => ?_
  refine .bind (.lift fun _ => id) fun (written, filled) _ => ?_
  dsimp only
  split
  · exact .pure trivial
  · exact runValue_fits ⟨Nat.lt_of_le_of_lt left bounded.bits, bounded.kp, bounded.krp⟩

theorem half_lt {value : Nat} (small : value < 2 ^ 29) : (value + 1) / 2 < 2 ^ 31 :=
  Nat.lt_of_le_of_lt (Nat.div_le_self _ _) (Nat.lt_of_le_of_lt small (by decide))

theorem single_fits (bounded : state.Bounded) :
    FitsGiving (rlgrSingle fill count state written) RlgrProgress.Bounded := by
  refine .recover (getGrCode_fits bounded.bits bounded.krp) tailOrError_fits
    fun ((magnitude, krp), reader) ⟨small, saturated, left⟩ => ?_
  refine .note (half_lt small) (.bind (.lift fun _ => id) fun written _ => ?_)
  have saturated' := rfxUpdateParam_le state.kp (if magnitude = 0 then rlgrUqGr else -rlgrDqGr)
  exact .note (rfxParamShift_le saturated')
    (.pure ⟨Nat.lt_of_le_of_lt left bounded.bits, saturated', saturated⟩)

theorem rlgrPairParam_le {kp value1 value2 : Nat} (saturated : kp ≤ 80) :
    rlgrPairParam kp value1 value2 ≤ 80 := by
  unfold rlgrPairParam
  split
  · exact rfxUpdateParam_le _ _
  split
  · exact rfxUpdateParam_le _ _
  · exact saturated

theorem pair_fits (bounded : state.Bounded) :
    FitsGiving (rlgrPair fill count state written) RlgrProgress.Bounded := by
  refine .recover (getGrCode_fits bounded.bits bounded.krp) tailOrError_fits
    fun ((sum, krp), reader) ⟨small, saturated, left⟩ => ?_
  have bits : rfxMinBits sum ≤ 29 := Nat.size_le.mpr small
  refine .recover (readBits_fits (by omega)) tailOrError_fits
    fun (value1, reader₂) ⟨_, left'⟩ => ?_
  dsimp only
  split
  · exact tailOrError_fits
  have saturated' : rlgrPairParam state.kp value1 (sum - value1) ≤ 80 := rlgrPairParam_le bounded.kp
  have short : reader₂.bits.length < 2 ^ 19 :=
    Nat.lt_of_le_of_lt (Nat.le_trans left' left) bounded.bits
  have first : value1 < 2 ^ 29 := by omega
  have second : sum - value1 < 2 ^ 29 := by omega
  refine .note (rfxParamShift_le saturated') (.note (half_lt first) (.note (half_lt second) ?_))
  exact .bind (.lift fun _ => id) fun written _ => .bind (.lift fun _ => id) fun written _ =>
    .pure ⟨short, saturated', saturated⟩

theorem round_fits (mode : RlgrMode) (bounded : state.Bounded) :
    FitsGiving (rlgrRound mode fill count state written) RlgrProgress.Bounded := by
  unfold rlgrRound
  split
  · refine .recover (readBits_fits (by decide)) tailOrError_fits fun (bit, reader) ⟨_, left⟩ => ?_
    have bounded' : RlgrState.Bounded { state with reader } :=
      ⟨Nat.lt_of_le_of_lt left bounded.bits, bounded.kp, bounded.krp⟩
    dsimp only
    split
    · exact zeroBit_fits bounded'
    · exact oneBit_fits bounded'
  cases mode with
  | rlgr1 => exact single_fits bounded
  | rlgr3 => exact pair_fits bounded

end Rounds

theorem loop_fits (mode : RlgrMode) (fill : Bool) (count : Nat) (state : RlgrState)
    (written : List Int) (bounded : state.Bounded) :
    FitsGiving (rlgrLoopCore mode fill count state written) fun _ => True := by
  -- the bits that are left carry the induction
  induction size : state.reader.bits.length using Nat.strong_induction_on
    generalizing state written with
  | _ left ih =>
    intro log fits
    by_cases room : written.length < count
    · have stepped : FitsGiving (rlgrRound mode fill count state written) RlgrProgress.Bounded :=
        round_fits mode bounded
      have held := stepped log fits
      cases ran : rlgrRound mode fill count state written log with
      | mk result log' =>
        cases result with
        | error stop =>
          rw [rlgrLoopCore_stop room ran]
          refine ⟨nofun, fun _ _ same => ?_⟩
          cases same
          exact held.2 _ _ ran
        | ok progress =>
          have ⟨fits', bounded'⟩ := held.1 _ _ ran
          cases progress with
          | done written' =>
            rw [rlgrLoopCore_done room ran]
            refine ⟨fun _ _ same => ?_, nofun⟩
            cases same
            exact ⟨fits', trivial⟩
          | next next written' =>
            rw [rlgrLoopCore_next room ran]
            have less := rlgrRound_left room ran
            exact ih _ (size ▸ less) next written' bounded' rfl log' fits'
    · rw [rlgrLoopCore_full room]
      refine ⟨fun _ _ same => ?_, nofun⟩
      cases same
      exact ⟨fits, trivial⟩

theorem rlgrStart_bounded (short : data.length ≤ 65535) : (rlgrStart data).Bounded := by
  refine ⟨?_, Nat.le_of_ble_eq_true rfl, Nat.le_of_ble_eq_true rfl⟩
  change (msbBits data).length < 2 ^ 19
  rw [msbBits_length]
  omega

theorem decodeCore_fits (mode : RlgrMode) (fill : Bool) (count : Nat)
    (short : data.length ≤ 65535) :
    FitsGiving (rlgrDecodeCore mode fill data count) fun _ => True := by
  have bounded := rlgrStart_bounded short
  unfold rlgrDecodeCore
  split
  · exact .stop
  · exact .note (rfxParamShift_le bounded.kp) (.note (rfxParamShift_le bounded.krp)
      (loop_fits mode fill count _ [] bounded))

/-- For the component of a tile nothing that the decoder computes leaves its type, and it never asks
    for more bits than a read may give. -/
theorem rlgr_arithmetic_fits (mode : RlgrMode) (fill : Bool) (data : Bytes) (count : Nat)
    (short : data.length ≤ 65535) :
    ∀ event ∈ (rlgrDecodeCore mode fill data count []).2, event.Fits := by
  have held := decodeCore_fits mode fill count short [] nofun
  cases ran : rlgrDecodeCore mode fill data count [] with
  | mk result log =>
      cases result with
      | ok values => exact (held.1 _ _ ran).1
      | error stop => exact held.2 _ _ ran

theorem rlgr_arithmetic_fits_sample :
    [0x9c, 0x40].length ≤ 65535 ∧
      ∀ event ∈ (rlgrDecodeCore .rlgr1 true [0x9c, 0x40] 4 []).2, event.Fits :=
  ⟨by decide, rlgr_arithmetic_fits .rlgr1 true [0x9c, 0x40] 4 (by decide)⟩

end LibRdp.Graphics
