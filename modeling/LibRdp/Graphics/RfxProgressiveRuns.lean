import LibRdp.Graphics.RfxProgressive
import LibRdp.Graphics.RfxRlgrCore
import LibRdp.Machine.Run

/-! # Runs of progressive passes

The passes of a tile come in any order. Whatever comes, the signs of the coefficients above
the lowest band stay those of the coefficients, as long as all passes lay out the bands alike.
An upgrade insists on that; a difference does not, and it does not see the end of the passes
that can be counted.
-/

namespace LibRdp.Graphics

open Machine

/-! ## Calls -/

inductive TileCall where
  | decode (y cb cr : ComponentPass) (extrapolate difference : Bool)
  | upgrade (y cb cr : ComponentUpgrade) (extrapolate : Bool)

def TileCall.extrapolate : TileCall → Bool
  | .decode _ _ _ extrapolate _ => extrapolate
  | .upgrade _ _ _ extrapolate => extrapolate

/-- Whether the call changes what is there, and does not replace it. -/
def TileCall.updates : TileCall → Bool
  | .decode _ _ _ _ difference => difference
  | .upgrade .. => true

/-- A state with the pixels of the last call, and the layouts that were used since the last pass
    that was no difference, that one included. The layouts are not kept by the code. -/
structure TileRecord where
  state : TileState := {}
  pixels : TilePixels := {}
  layouts : List Bool := []

def callTile (state : TileState) : TileCall → Attempt (TileState × TilePixels)
  | .decode y cb cr extrapolate difference =>
      decodeProgressiveTileState y cb cr extrapolate difference state
  | .upgrade y cb cr extrapolate => decodeProgressiveUpgradeTile y cb cr extrapolate state

def tileStep (record : TileRecord) (call : TileCall) : Exec (Status × TileRecord) :=
  match callTile record.state call with
  | .ok (state, pixels) =>
      .ok (.ok, { state, pixels
                  layouts := (if call.updates then record.layouts else []) ++ [call.extrapolate] })
  | .error (.returned status) => .ok (status, record)
  | .error (.fault fault) => .error fault

/-! ## Signs -/

/-- A sign and a coefficient are both zero, both positive or both negative. -/
def SignsAgree (sign current : Int) : Prop :=
  sign = 0 ∧ current = 0 ∨ 0 < sign ∧ 0 < current ∨ sign < 0 ∧ current < 0

def ComponentState.Coherent (component : ComponentState) (i : Nat) : Prop :=
  SignsAgree (component.sign i) (component.current i)

def OutsideLl (extrapolate : Bool) (i : Nat) : Prop :=
  ∀ band ∈ rfxComponentBands extrapolate, band.nonLl = false → ¬ band.Holds i

theorem clamp_agree {sign value : Int} (agree : SignsAgree sign value) :
    SignsAgree sign (rfxClampI32 value) := by
  unfold SignsAgree rfxClampI32 at *
  omega

theorem refresh_coherent (component : ComponentState) (i : Nat) :
    (refreshProgressiveSigns component).Coherent i := by
  unfold ComponentState.Coherent SignsAgree refreshProgressiveSigns
  simp only
  split
  · omega
  · split <;> omega

variable {reader : UpgradeReader} {quant delta : ComponentQuant} {component : ComponentState}
  {call : TileCall} {record : TileRecord}

variable {numBits : Nat} {input : Int} {values : List UInt8} {status : Status}
  {bands : List RfxBand}

theorem upgradeRawRead_nonneg {next : UpgradeReader}
    (read : upgradeRawRead reader numBits = .ok (input, next)) : 0 ≤ input := by
  unfold upgradeRawRead at read
  split at read
  · cases read
  obtain ⟨raw, _, read⟩ := bind_eq_ok.mp read
  cases read
  exact Int.natCast_nonneg _

theorem upgradeInput_agree {next : UpgradeReader} {sign newSign current : Int}
    (read : upgradeInput reader sign numBits true = .ok ((input, newSign), next))
    (agree : SignsAgree sign current) (shift : Nat) :
    SignsAgree newSign (rfxClampI32 (current + input * 2 ^ shift)) := by
  have scale : (0 : Int) < 2 ^ shift := Int.pow_pos (by decide)
  apply clamp_agree
  unfold SignsAgree at agree
  simp only [upgradeInput, if_true] at read
  split at read
  · rename_i positive
    obtain ⟨⟨raw, _⟩, opened, read⟩ := bind_eq_ok.mp read
    cases read
    have more := Int.mul_nonneg (upgradeRawRead_nonneg opened) (Int.le_of_lt scale)
    exact .inr (.inl ⟨positive, by simp only; omega⟩)
  split at read
  · rename_i negative
    obtain ⟨⟨raw, _⟩, opened, read⟩ := bind_eq_ok.mp read
    cases read
    have less := Int.mul_nonneg (upgradeRawRead_nonneg opened) (Int.le_of_lt scale)
    exact .inr (.inr ⟨negative, by simp only [Int.neg_mul]; omega⟩)
  obtain ⟨⟨value, _⟩, _, read⟩ := bind_eq_ok.mp read
  cases read
  have zero : current = 0 := by omega
  rw [zero, Int.zero_add]
  rcases Int.lt_trichotomy value 0 with negative | none' | positive
  · exact .inr (.inr ⟨negative, Int.mul_neg_of_neg_of_pos negative scale⟩)
  · exact .inl ⟨none', by simp only [none', Int.zero_mul]⟩
  · exact .inr (.inl ⟨positive, Int.mul_pos positive scale⟩)

section Upgrade

variable {reader next : UpgradeReader} {current sign current' sign' : Plane} {i : Nat}

variable {shift numBits index : Nat}

theorem upgradeLoop_outside {left : Nat} {nonLl : Bool}
    (ran : upgradeLoop shift numBits nonLl index left reader current sign =
      .ok (next, current', sign')) (outside : i < index ∨ index + left ≤ i) :
    current' i = current i ∧ sign' i = sign i := by
  induction left generalizing index reader current sign with
  | zero =>
    cases ran
    exact ⟨rfl, rfl⟩
  | succ left ih =>
    obtain ⟨⟨⟨input, newSign⟩, reader'⟩, _, ran⟩ := bind_eq_ok.mp ran
    obtain ⟨sameCurrent, sameSign⟩ := ih ran (by omega)
    have apart : i ≠ index := by omega
    rw [sameCurrent, sameSign]
    simp [Plane.write, apart]

theorem upgradeLoop_agree {left : Nat}
    (ran : upgradeLoop shift numBits true index left reader current sign =
      .ok (next, current', sign')) (agree : SignsAgree (sign i) (current i)) :
    SignsAgree (sign' i) (current' i) := by
  induction left generalizing index reader current sign with
  | zero =>
    cases ran
    exact agree
  | succ left ih =>
    obtain ⟨⟨⟨input, newSign⟩, reader'⟩, read, ran⟩ := bind_eq_ok.mp ran
    apply ih ran
    unfold Plane.write
    split
    · rename_i here
      subst here
      exact upgradeInput_agree read agree shift
    · exact agree

theorem upgradeBlock_agree {band : RfxBand} {bitPos : Nat}
    (ran : upgradeBlock reader current sign band bitPos numBits = .ok (next, current', sign'))
    (clear : band.nonLl = false → ¬ band.Holds i) (agree : SignsAgree (sign i) (current i)) :
    SignsAgree (sign' i) (current' i) := by
  unfold upgradeBlock at ran
  split at ran
  · cases ran
  split at ran
  · cases ran
    exact agree
  split at ran
  · cases ran
  cases kept : band.nonLl with
  | true =>
    rw [kept] at ran
    exact upgradeLoop_agree ran agree
  | false =>
    have outside := clear kept
    unfold RfxBand.Holds at outside
    have place : i < band.offset ∨ band.offset + band.count ≤ i := by omega
    obtain ⟨sameCurrent, sameSign⟩ := upgradeLoop_outside ran place
    rwa [sameCurrent, sameSign]

theorem upgradeBands_agree {bitPos numBits : List UInt8} {bands : List RfxBand}
    (ran : upgradeBands bitPos numBits bands reader current sign = .ok (next, current', sign'))
    (clear : ∀ band ∈ bands, band.nonLl = false → ¬ band.Holds i)
    (agree : SignsAgree (sign i) (current i)) : SignsAgree (sign' i) (current' i) := by
  induction bands generalizing reader current sign with
  | nil =>
    cases ran
    exact agree
  | cons band rest ih =>
    obtain ⟨⟨reader', current₁, sign₁⟩, block, ran⟩ := bind_eq_ok.mp ran
    exact ih ran (fun band held => clear band (.tail _ held))
      (upgradeBlock_agree block (clear band List.mem_cons_self) agree)

end Upgrade

variable {next : ComponentState × Plane}

variable {coefficients shifted : Plane}

theorem valuesChecked_ok {maxValue : UInt8} (checked : quant.valuesChecked maxValue = .ok values) :
    values = quant.toValues ∧ ∀ value ∈ quant.toValues, value.toNat ≤ maxValue.toNat := by
  unfold ComponentQuant.valuesChecked at checked
  split at checked
  · rename_i inside
    cases checked
    refine ⟨rfl, ?_⟩
    intro value held
    have small := List.all_eq_true.mp inside value held
    exact UInt8.le_iff_toNat_le.mp (of_decide_eq_true small)
  · cases checked

structure UpgradesComponent (extrapolate : Bool) (component next : ComponentState) : Prop where
  ready : component.valid = true
  valid : next.valid = true
  small : ∀ value ∈ next.bitPos.toValues, value.toNat ≤ 15
  bands : ∃ numBits reader reader', component.bitPos.sub next.bitPos = .ok numBits ∧
    upgradeBands next.bitPos.toValues numBits.toValues (rfxComponentBands extrapolate) reader
      component.current component.sign = .ok (reader', next.current, next.sign)

variable {extrapolate difference : Bool} {data srlData rawData : Bytes}

theorem upgradeComponentState_ok
    (upgraded : upgradeComponentState srlData rawData quant delta extrapolate component =
      .ok next) : UpgradesComponent extrapolate component next.1 := by
  unfold upgradeComponentState at upgraded
  split at upgraded
  · cases upgraded
  rename_i ready
  simp only [bind_eq_ok] at upgraded
  obtain ⟨bitPos, -, numBits, less, bitPosValues, checked, numBitValues, checked',
    ⟨reader, current, sign⟩, ran, coefficients, -, upgraded⟩ := upgraded
  cases upgraded
  obtain ⟨rfl, small⟩ := valuesChecked_ok checked
  obtain ⟨rfl, _⟩ := valuesChecked_ok checked'
  exact ⟨by simpa using ready, rfl, small, numBits, _, reader, less, ran⟩

theorem decodeProgressiveComponentState_ok
    (decoded : decodeProgressiveComponentState data quant delta extrapolate difference component =
      .ok next) :
    (difference = true → component.valid = true) ∧ ∃ bitPos plane shifted,
      quant.add delta = .ok bitPos ∧ decodeProgressiveCoefficients data extrapolate = .ok plane ∧
      shiftProgressiveCoefficients plane bitPos extrapolate = .ok shifted ∧
      next.1 = refreshProgressiveSigns { component with
        current := if difference then fun i => rfxClampI32 (component.current i + shifted i)
          else shifted
        bitPos, quant, progressiveQuant := delta, valid := true } := by
  unfold decodeProgressiveComponentState at decoded
  split at decoded
  · cases decoded
  rename_i ready
  simp only [bind_eq_ok] at decoded
  obtain ⟨bitPos, added, plane, read, shifted, shift, coefficients, -, decoded⟩ := decoded
  cases decoded
  exact ⟨fun needs => by simpa [needs] using ready, bitPos, plane, shifted, added, read, shift, rfl⟩

theorem upgradeComponentState_coherent {i : Nat}
    (upgraded : upgradeComponentState srlData rawData quant delta extrapolate component = .ok next)
    (clear : OutsideLl extrapolate i) (coherent : component.Coherent i) : next.1.Coherent i := by
  obtain ⟨_, _, _, ran⟩ := (upgradeComponentState_ok upgraded).bands
  exact upgradeBands_agree ran.2 clear coherent

theorem decodeProgressiveComponentState_coherent
    (decoded : decodeProgressiveComponentState data quant delta extrapolate difference component =
      .ok next) (i : Nat) : next.1.Coherent i := by
  obtain ⟨_, _, _, _, _, _, _, same⟩ := decodeProgressiveComponentState_ok decoded
  rw [same]
  exact refresh_coherent _ i

/-! ## Tiles -/

structure TileState.Every (holds : ComponentState → Prop) (state : TileState) : Prop where
  y : holds state.y
  cb : holds state.cb
  cr : holds state.cr

def stepsComponent (extrapolate : Bool) (component next : ComponentState) : Prop :=
  (∃ (pass : ComponentPass) (difference : Bool) (samples : Plane),
    decodeProgressiveComponentState pass.data pass.quant pass.delta extrapolate difference component =
      .ok (next, samples)) ∨
  ∃ (pass : ComponentUpgrade) (samples : Plane),
    upgradeComponentState pass.srlData pass.rawData pass.quant pass.delta extrapolate component =
      .ok (next, samples)

structure CallsTile (state : TileState) (call : TileCall) (next : TileState) : Prop where
  y : stepsComponent call.extrapolate state.y next.y
  cb : stepsComponent call.extrapolate state.cb next.cb
  cr : stepsComponent call.extrapolate state.cr next.cr
  pass : next.pass = if call.updates && state.valid then state.pass + 1 else 1
  layout : next.extrapolate = call.extrapolate
  valid : next.valid = true
  /-- A difference and an upgrade need a component to change. -/
  ready : call.updates = true → state.y.valid = true
  /-- An upgrade keeps to the layout and to the passes that can be counted. -/
  guard : (∃ y cb cr extrapolate, call = .upgrade y cb cr extrapolate) →
    state.valid = true ∧ call.extrapolate = state.extrapolate ∧ state.pass ≠ 0xffff

theorem callTile_ok {state next : TileState} {pixels : TilePixels}
    (called : callTile state call = .ok (next, pixels)) : CallsTile state call next := by
  cases call with
  | decode y cb cr extrapolate difference =>
    obtain ⟨⟨nextY, ySamples⟩, stepY, called⟩ := bind_eq_ok.mp called
    obtain ⟨⟨nextCb, cbSamples⟩, stepCb, called⟩ := bind_eq_ok.mp called
    obtain ⟨⟨nextCr, crSamples⟩, stepCr, called⟩ := bind_eq_ok.mp called
    cases called
    exact ⟨.inl ⟨y, difference, ySamples, stepY⟩, .inl ⟨cb, difference, cbSamples, stepCb⟩,
      .inl ⟨cr, difference, crSamples, stepCr⟩, rfl, rfl, rfl,
      (decodeProgressiveComponentState_ok stepY).1, nofun⟩
  | upgrade y cb cr extrapolate =>
    simp only [callTile, decodeProgressiveUpgradeTile, refuse_else, bind_eq_ok, Bool.or_eq_true,
      Bool.not_eq_true', bne_iff_ne, ne_eq, beq_iff_eq, not_or, Bool.not_eq_false,
      Decidable.not_not] at called
    obtain ⟨⟨⟨⟨⟨⟨valid, readyY⟩, _⟩, _⟩, layout⟩, pass⟩, ⟨nextY, ySamples⟩, stepY,
      ⟨nextCb, cbSamples⟩, stepCb, ⟨nextCr, crSamples⟩, stepCr, called⟩ := called
    cases called
    exact ⟨.inr ⟨y, ySamples, stepY⟩, .inr ⟨cb, cbSamples, stepCb⟩, .inr ⟨cr, crSamples, stepCr⟩,
      by simp [TileCall.updates, valid], rfl, rfl, fun _ => readyY, fun _ => ⟨valid, layout.symm,
        pass⟩⟩

theorem tileStep_ok {next : TileRecord} (taken : tileStep record call = .ok (status, next)) :
    (status = .ok ∧ CallsTile record.state call next.state ∧
      next.layouts = (if call.updates then record.layouts else []) ++ [call.extrapolate]) ∨
    next = record := by
  unfold tileStep at taken
  split at taken
  · rename_i called
    cases taken
    exact .inl ⟨rfl, callTile_ok called, rfl⟩
  · cases taken
    exact .inr rfl
  · cases taken

/-! ## A tile without bits -/

def lowestQuant : ComponentQuant :=
  { ll3 := 1, hl3 := 1, lh3 := 1, hh3 := 1, hl2 := 1, lh2 := 1, hh2 := 1, hl1 := 1, lh1 := 1, hh1 := 1 }

def emptyPass : ComponentPass := { data := [], quant := lowestQuant, delta := {} }

def emptyTile (extrapolate difference : Bool) : TileCall :=
  .decode emptyPass emptyPass emptyPass extrapolate difference

theorem decodeProgressiveCoefficients_nil (extrapolate : Bool) :
    ∃ plane, decodeProgressiveCoefficients [] extrapolate = .ok plane := by
  unfold decodeProgressiveCoefficients
  simp only [rlgrDecode_nil, List.length_replicate, ne_eq, not_true_eq_false, if_false]
  exact ⟨_, rfl⟩

theorem shiftProgressiveCoefficients_lowest (coefficients : Plane) (extrapolate : Bool) :
    shiftProgressiveCoefficients coefficients lowestQuant extrapolate = .ok coefficients := by
  cases extrapolate <;> rfl

theorem decode_emptyPass {extrapolate difference : Bool} {component : ComponentState}
    (ready : difference = true → component.valid = true) :
    ∃ next samples, decodeProgressiveComponentState [] lowestQuant {} extrapolate difference component =
      .ok (next, samples) ∧ next.valid = true := by
  have guard : ¬ ((difference && !component.valid) = true) := by
    cases difference with
    | false => exact nofun
    | true => simp [ready rfl]
  obtain ⟨plane, decoded⟩ := decodeProgressiveCoefficients_nil extrapolate
  have added : lowestQuant.add {} = .ok lowestQuant := rfl
  unfold decodeProgressiveComponentState
  rw [if_neg guard, added, decoded]
  simp only [bind, Except.bind, shiftProgressiveCoefficients_lowest]
  cases extrapolate with
  | false => exact ⟨_, _, rfl, rfl⟩
  | true => exact ⟨_, _, rfl, rfl⟩

theorem emptyTile_ok {record : TileRecord} {extrapolate difference : Bool}
    (ready : difference = true → record.state.Every fun component => component.valid = true) :
    ∃ next, tileStep record (emptyTile extrapolate difference) = .ok (.ok, next) ∧
      next.state.Every (fun component => component.valid = true) ∧ next.state.valid = true ∧
      next.state.extrapolate = extrapolate ∧
      next.layouts = (if difference then record.layouts else []) ++ [extrapolate] := by
  obtain ⟨y, ySamples, decodedY, validY⟩ := @decode_emptyPass extrapolate difference record.state.y
    fun needs => (ready needs).y
  obtain ⟨cb, cbSamples, decodedCb, validCb⟩ := @decode_emptyPass extrapolate difference
    record.state.cb fun needs => (ready needs).cb
  obtain ⟨cr, crSamples, decodedCr, validCr⟩ := @decode_emptyPass extrapolate difference
    record.state.cr fun needs => (ready needs).cr
  have called : callTile record.state (emptyTile extrapolate difference) =
      .ok ({ y, cb, cr
             pass := if difference && record.state.valid then record.state.pass + 1 else 1
             extrapolate, valid := true }, tileYcbcrToBgra ySamples cbSamples crSamples) := by
    simp only [callTile, emptyTile, emptyPass, decodeProgressiveTileState, decodedY, decodedCb,
      decodedCr, bind, Except.bind, pure, Except.pure]
  refine ⟨_, by rw [tileStep, called], ⟨validY, validCb, validCr⟩, rfl, rfl, ?_⟩
  cases difference <;> rfl

/-! ## A tile of one coefficient -/

section One

variable {current sign : Plane} {shift index : Nat}

theorem rlgrDecode_one : rlgrDecode [0xa7] 4096 = -1 :: List.replicate 4095 0 := by
  have ones : rfxReadOnes ⟨1, [false, false, true, true, true]⟩ 0 =
      .ok (0, ⟨1, [false, true, true, true]⟩) := by rw [rfxReadOnes]; rfl
  have value : rlgrReadValue ⟨1, [true, false, false, true, true, true]⟩ 8 =
      .ok ((-1, 6), ⟨1, [true, true, true]⟩) := by
    have coded : rfxGetGrCode ⟨1, [false, false, true, true, true]⟩ 8 =
        .ok ((0, 6), ⟨1, [true, true, true]⟩) := by
      rw [rfxGetGrCode, ones]
      rfl
    rw [rlgrReadValue, show rfxReadBits ⟨1, [true, false, false, true, true, true]⟩ 1 =
      .ok (1, ⟨1, [false, false, true, true, true]⟩) from rfl, ok_bind]
    dsimp only
    rw [coded]
    rfl
  have first : rlgrCode .rlgr1 4096 ⟨rfxBitReaderAttach [0xa7], 8, 8⟩ =
      some ([-1], ⟨⟨1, [true, true, true]⟩, 2, 6⟩) := by
    change ((rlgrReadValue ⟨1, [true, false, false, true, true, true]⟩ 8).toOption.bind fun coded =>
      some ([coded.1.1], (⟨coded.2, rfxUpdateParam 8 (-rlgrDnGr), coded.1.2⟩ : RlgrState))) = _
    rw [value]
    rfl
  have stop3 : rfxReadOnes ⟨1, []⟩ 3 = .error (.returned .protocolError) := by rw [rfxReadOnes]; rfl
  have stop2 : rfxReadOnes ⟨1, [true]⟩ 2 = .error (.returned .protocolError) := by
    rw [rfxReadOnes]; exact stop3
  have stop1 : rfxReadOnes ⟨1, [true, true]⟩ 1 = .error (.returned .protocolError) := by
    rw [rfxReadOnes]; exact stop2
  have stop0 : rfxReadOnes ⟨1, [true, true, true]⟩ 0 = .error (.returned .protocolError) := by
    rw [rfxReadOnes]; exact stop1
  have last : rlgrCode .rlgr1 4095 ⟨⟨1, [true, true, true]⟩, 2, 6⟩ = none := by
    change rlgrSingleCode _ = _
    rw [rlgrSingleCode, rfxGetGrCode, stop0]
    rfl
  have coded := @rlgrLoop_code 4096 [] ⟨rfxBitReaderAttach [0xa7], 8, 8⟩ (by decide)
  rw [show 4096 - ([] : List Int).length = 4096 from rfl, first] at coded
  have ended := @rlgrLoop_code 4096 [-1] ⟨⟨1, [true, true, true]⟩, 2, 6⟩ (by decide)
  rw [show 4096 - ([-1] : List Int).length = 4095 from rfl, last] at ended
  exact coded.trans ended

theorem decodeProgressiveCoefficients_one :
    ∃ plane, decodeProgressiveCoefficients [0xa7] false = .ok plane ∧ plane 0 = -1 ∧
      ∀ i, 0 < i → i < 1024 → plane i = 0 := by
  have decoded : rlgrDecode [0xa7] rfxTileCoefficients = -1 :: List.replicate 4095 0 := rlgrDecode_one
  unfold decodeProgressiveCoefficients
  simp only [decoded]
  have whole : ((-1 : Int) :: List.replicate 4095 0).length = rfxTileCoefficients := by
    rw [List.length_cons, List.length_replicate]
    rfl
  rw [if_neg fun other => other whole]
  refine ⟨_, rfl, rfl, ?_⟩
  intro i some' short
  obtain ⟨k, rfl⟩ : ∃ k, i = k + 1 := ⟨i - 1, by omega⟩
  have cut : k + 1 < (List.take 4032 ((-1 : Int) :: List.replicate 4095 0)).length := by
    rw [List.length_take, List.length_cons, List.length_replicate]
    omega
  simp only [Bool.false_eq_true, if_false]
  rw [List.getD_eq_getElem?_getD, List.getElem?_append_left cut, List.getElem?_take_of_lt (by omega),
    List.getElem?_cons_succ, List.getElem?_replicate_of_lt (by omega), Option.getD_some]

theorem upgradeLoop_zeros {left numBits : Nat} (some' : ¬(numBits = 0 ∨ numBits > 15))
    (mode : reader.mode = false) (srl : reader.srl = ⟨0, []⟩) (kp : reader.kp ≤ 80)
    (zero : ∀ i, index ≤ i → i < index + left → sign i = 0) :
    ∃ next, upgradeLoop shift numBits true index left reader current sign = .ok next := by
  induction left generalizing index reader current sign with
  | zero => exact ⟨_, rfl⟩
  | succ left ih =>
    have read : ∃ next, upgradeInput reader 0 numBits true = .ok ((0, 0), next) ∧
        next.mode = false ∧ next.srl = ⟨0, []⟩ ∧ next.kp ≤ 80 := by
      have bit : rfxReadBitsPadded ⟨0, []⟩ 1 = .ok (0, ⟨0, []⟩) := rfl
      have few : ¬reader.kp / 8 > 10 := by omega
      simp only [upgradeInput, upgradeSrlRead, if_neg some', if_neg few, mode, srl, bit, ok_bind,
        if_true, gt_iff_lt, Int.lt_irrefl, if_false, Bool.false_eq_true]
      split
      · exact ⟨_, rfl, rfl, rfl, kp⟩
      · exact ⟨_, rfl, rfl, rfl, Nat.min_le_right _ _⟩
    obtain ⟨next, read, mode', srl', kp'⟩ := read
    have here := zero index (Nat.le_refl _) (by omega)
    rw [upgradeLoop, here, read, ok_bind]
    refine ih mode' srl' kp' fun i after before => ?_
    rw [Plane.write, if_neg (by omega)]
    exact zero i (by omega) (by omega)

def hl1Quant : ComponentQuant := { lowestQuant with hl1 := 2 }

def onePass : ComponentPass := { data := [0xa7], quant := hl1Quant, delta := {} }

def oneBit : ComponentUpgrade := { srlData := [], rawData := [0x80], quant := lowestQuant, delta := {} }

def oneTile : TileCall := .decode onePass onePass onePass false false

def oneTileRefined : TileCall := .upgrade oneBit oneBit oneBit false

structure ComponentState.One (component : ComponentState) (value : Int) : Prop where
  valid : component.valid = true
  value : component.current 0 = value
  sign : component.sign 0 = -1

theorem decode_onePass : ∃ next samples,
    decodeProgressiveComponentState [0xa7] hl1Quant {} false false {} = .ok (next, samples) ∧
      next.One (-2) ∧ next.bitPos = hl1Quant ∧ ∀ i, 0 < i → i < 1024 → next.sign i = 0 := by
  obtain ⟨plane, decoded, first, zero⟩ := decodeProgressiveCoefficients_one
  have added : hl1Quant.add {} = .ok hl1Quant := rfl
  have shifted : shiftProgressiveCoefficients plane hl1Quant false = .ok fun i =>
      if RfxBand.Holds ⟨0, 1024, 7, true⟩ i then rfxClampI32 (plane i * 2) else plane i := rfl
  have current : (if RfxBand.Holds ⟨0, 1024, 7, true⟩ 0 then rfxClampI32 (plane 0 * 2) else plane 0) =
      -2 := by
    rw [first]
    decide
  unfold decodeProgressiveComponentState
  rw [if_neg (by decide), added, decoded]
  simp only [bind, Except.bind, shifted]
  refine ⟨_, _, rfl, ⟨rfl, current, ?_⟩, rfl, ?_⟩
  · simp only [refreshProgressiveSigns, Bool.false_eq_true, if_false, current]
    decide
  · intro i some' short
    simp only [refreshProgressiveSigns, Bool.false_eq_true, if_false, zero i some' short]
    split <;> rfl

theorem upgrade_oneBit (one : component.One (-2)) (positions : component.bitPos = hl1Quant)
    (zero : ∀ i, 0 < i → i < 1024 → component.sign i = 0) :
    ∃ next samples, upgradeComponentState [] [0x80] lowestQuant {} false component =
      .ok (next, samples) ∧ next.One (-3) := by
  have added : lowestQuant.add {} = .ok lowestQuant := rfl
  have fewer : hl1Quant.sub lowestQuant = .ok { hl1 := 1 } := rfl
  have places : lowestQuant.valuesChecked 15 = .ok lowestQuant.toValues := rfl
  have bits : ComponentQuant.valuesChecked { hl1 := 1 } 15 =
      .ok (ComponentQuant.toValues { hl1 := 1 }) := rfl
  have read : upgradeInput ⟨rfxBitReaderAttach [], rfxBitReaderAttach [0x80], 8, 0, false⟩ (-1) 1 true =
      .ok ((-1, -1), ⟨⟨0, []⟩, ⟨1, List.replicate 7 false⟩, 8, 0, false⟩) := rfl
  obtain ⟨⟨reader, current, sign⟩, rest⟩ := @upgradeLoop_zeros
    ⟨⟨0, []⟩, ⟨1, List.replicate 7 false⟩, 8, 0, false⟩
    (component.current.write 0 (rfxClampI32 (component.current 0 + -1 * 2 ^ 0)))
    (component.sign.write 0 (-1)) 0 1 1023 1 (by decide) rfl rfl (by decide) fun i after before => by
      rw [Plane.write, if_neg (by omega)]
      exact zero i (by omega) (by omega)
  have loop : upgradeLoop 0 1 true 0 1024
      ⟨rfxBitReaderAttach [], rfxBitReaderAttach [0x80], 8, 0, false⟩ component.current component.sign =
        .ok (reader, current, sign) := by
    rw [upgradeLoop, one.sign, read, ok_bind]
    dsimp only
    rw [rest]
  have block : upgradeBlock ⟨rfxBitReaderAttach [], rfxBitReaderAttach [0x80], 8, 0, false⟩
      component.current component.sign ⟨0, 1024, 7, true⟩ 1 1 = .ok (reader, current, sign) := by
    rw [upgradeBlock, if_neg (by decide), if_neg (by decide), if_neg (by decide)]
    exact loop
  have bands : upgradeBands lowestQuant.toValues (ComponentQuant.toValues { hl1 := 1 })
      (rfxComponentBands false) ⟨rfxBitReaderAttach [], rfxBitReaderAttach [0x80], 8, 0, false⟩
        component.current component.sign = .ok (reader, current, sign) := by
    change (upgradeBlock _ _ _ ⟨0, 1024, 7, true⟩ 1 1 >>= _) = _
    rw [block]
    rfl
  obtain ⟨sameCurrent, sameSign⟩ := upgradeLoop_outside rest (.inl Nat.zero_lt_one)
  have value : current 0 = -3 := by
    rw [sameCurrent, Plane.write, if_pos rfl, one.value]
    decide
  have sign' : sign 0 = -1 := sameSign
  rw [upgradeComponentState, if_neg (by rw [one.valid]; decide), added, ok_bind, positions, fewer,
    ok_bind, places, ok_bind, bits, ok_bind]
  dsimp only
  rw [bands, ok_bind]
  exact ⟨_, _, rfl, rfl, value, sign'⟩

structure OneRefined (first second : TileRecord) : Prop where
  tile : tileStep {} oneTile = .ok (.ok, first)
  upgrade : tileStep first oneTileRefined = .ok (.ok, second)
  upgraded : callTile first.state oneTileRefined = .ok (second.state, second.pixels)
  valid : first.state.valid = true
  start : first.state.Every (·.One (-2))
  every : second.state.Every (·.One (-3))
  layout : first.state.extrapolate = false ∧ second.state.extrapolate = false
  pass : second.state.pass = 2

theorem oneTile_refined : ∃ first second, OneRefined first second := by
  obtain ⟨component, samples, decoded, one, positions, zero⟩ := decode_onePass
  obtain ⟨refined, samples', upgraded, one'⟩ := upgrade_oneBit one positions zero
  have called : callTile {} oneTile =
      .ok ({ y := component, cb := component, cr := component, pass := 1, extrapolate := false
             valid := true }, tileYcbcrToBgra samples samples samples) := by
    simp only [callTile, oneTile, onePass, decodeProgressiveTileState, decoded, ok_bind]
    rfl
  have called' : callTile { y := component, cb := component, cr := component, pass := 1
                            extrapolate := false, valid := true } oneTileRefined =
      .ok ({ y := refined, cb := refined, cr := refined, pass := 2, extrapolate := false
             valid := true }, tileYcbcrToBgra samples' samples' samples') := by
    simp only [callTile, oneTileRefined, oneBit, decodeProgressiveUpgradeTile, one.valid, upgraded,
      ok_bind]
    rfl
  exact ⟨_, _, by rw [tileStep, called], by rw [tileStep, called'], called', rfl,
    ⟨one, one, one⟩, ⟨one', one', one'⟩, ⟨rfl, rfl⟩, rfl⟩

end One

/-! ## Signs of tiles -/

theorem stepsComponent_coherent {extrapolate : Bool} {next : ComponentState} {i : Nat}
    (steps : stepsComponent extrapolate component next) (clear : OutsideLl extrapolate i)
    (coherent : component.Coherent i) : next.Coherent i := by
  rcases steps with ⟨pass, difference, samples, decoded⟩ | ⟨pass, samples, upgraded⟩
  · exact decodeProgressiveComponentState_coherent decoded i
  · exact upgradeComponentState_coherent upgraded clear coherent

/-- In every run of passes that lay out the bands alike, the signs above the lowest band are those of
    the coefficients, in every component. -/
theorem progressive_signs_coherent {extrapolate : Bool} {calls : List TileCall}
    (alike : ∀ call ∈ calls, call.extrapolate = extrapolate) {outs : List Status}
    {record : TileRecord} (ran : run tileStep {} calls = .ok (outs, record)) {i : Nat}
    (clear : OutsideLl extrapolate i) :
    SignsAgree (record.state.y.sign i) (record.state.y.current i) ∧
      SignsAgree (record.state.cb.sign i) (record.state.cb.current i) ∧
      SignsAgree (record.state.cr.sign i) (record.state.cr.current i) := by
  have every : record.state.Every (·.Coherent i) := by
    refine run_invariant (fun record => record.state.Every (·.Coherent i)) ?_ ?_ ran
    · intro record call status next held coherent taken
      rcases tileStep_ok taken with ⟨_, calls, _⟩ | same
      · rw [← alike call held] at clear
        exact ⟨stepsComponent_coherent calls.y clear coherent.y,
          stepsComponent_coherent calls.cb clear coherent.cb,
          stepsComponent_coherent calls.cr clear coherent.cr⟩
      · rw [same]
        exact coherent
    · exact ⟨.inl ⟨rfl, rfl⟩, .inl ⟨rfl, rfl⟩, .inl ⟨rfl, rfl⟩⟩
  exact ⟨every.y, every.cb, every.cr⟩

theorem progressive_signs_coherent_refined :
    ∃ record, run tileStep {} [oneTile, oneTileRefined] = .ok ([.ok, .ok], record) ∧
      record.state.y.current 0 = -3 ∧ SignsAgree (record.state.y.sign 0) (record.state.y.current 0) ∧
        SignsAgree (record.state.cb.sign 0) (record.state.cb.current 0) ∧
        SignsAgree (record.state.cr.sign 0) (record.state.cr.current 0) := by
  obtain ⟨_, _, refined⟩ := oneTile_refined
  have ran := run_cons_ok refined.tile [oneTileRefined]
  rw [run_singleton refined.upgrade] at ran
  have alike : ∀ call ∈ [oneTile, oneTileRefined], call.extrapolate = false := by
    intro call held
    cases held with
    | head => rfl
    | tail _ held =>
      rw [List.mem_singleton.mp held]
      rfl
  have clear : OutsideLl false 0 := by
    unfold OutsideLl
    decide
  exact ⟨_, ran, refined.every.y.value, progressive_signs_coherent alike ran clear⟩

/-! ## Bit positions -/

def ComponentQuant.Placed (bitPos : ComponentQuant) : Prop :=
  ∀ value ∈ bitPos.toValues, 1 ≤ value.toNat ∧ value.toNat ≤ 15

structure ComponentState.Sound (component : ComponentState) : Prop where
  valid : component.valid = true
  placed : component.bitPos.Placed

theorem bands_cover (extrapolate : Bool) {value : UInt8} (held : value ∈ quant.toValues) :
    ∃ band ∈ rfxComponentBands extrapolate, quant.toValues.getD band.quantIndex 0 = value := by
  obtain ⟨j, atJ⟩ := List.getElem?_of_mem held
  have short : j < 10 := (List.getElem?_eq_some_iff.mp atJ).1
  have covered : ∀ extrapolate, ∀ j < 10, ∃ band ∈ rfxComponentBands extrapolate,
      band.quantIndex = j := by decide
  obtain ⟨band, isBand, index⟩ := covered extrapolate j short
  refine ⟨band, isBand, ?_⟩
  rw [index, List.getD_eq_getElem?_getD, atJ]
  rfl

theorem shiftBands_ok (done : bands.foldlM (shiftBand values) coefficients = .ok shifted) :
    ∀ band ∈ bands, values.getD band.quantIndex 0 ≠ 0 := by
  induction bands generalizing coefficients with
  | nil => exact nofun
  | cons band rest ih =>
    rw [List.foldlM_cons] at done
    obtain ⟨next, first, done⟩ := bind_eq_ok.mp done
    intro other held
    cases held with
    | head =>
      intro zero
      rw [shiftBand, if_pos (.inr (.inr zero))] at first
      cases first
    | tail _ later => exact ih done other later

theorem shiftProgressiveCoefficients_placed {bitPos : ComponentQuant} {extrapolate : Bool}
    (done : shiftProgressiveCoefficients coefficients bitPos extrapolate = .ok shifted) :
    bitPos.Placed := by
  obtain ⟨values, checked, done⟩ := bind_eq_ok.mp done
  obtain ⟨rfl, small⟩ := valuesChecked_ok checked
  intro value held
  obtain ⟨band, isBand, same⟩ := bands_cover extrapolate held
  have positive := shiftBands_ok done band isBand
  rw [same] at positive
  have nonzero : value.toNat ≠ 0 := fun zero => positive (UInt8.toNat_inj.mp zero)
  exact ⟨by omega, small value held⟩

theorem decodeProgressiveComponentState_sound
    (decoded : decodeProgressiveComponentState data quant delta extrapolate difference component =
      .ok next) : next.1.Sound := by
  obtain ⟨_, _, _, _, _, _, shift, same⟩ := decodeProgressiveComponentState_ok decoded
  rw [same]
  exact ⟨rfl, shiftProgressiveCoefficients_placed shift⟩

theorem upgradeBands_ok {bitPos numBits : List UInt8} {current sign : Plane}
    {next : UpgradeReader × Plane × Plane}
    (ran : upgradeBands bitPos numBits bands reader current sign = .ok next) :
    ∀ band ∈ bands, numBits.getD band.quantIndex 0 = 0 ∨ bitPos.getD band.quantIndex 0 ≠ 0 := by
  induction bands generalizing reader current sign with
  | nil => exact nofun
  | cons band rest ih =>
    obtain ⟨⟨reader', current₁, sign₁⟩, block, ran⟩ := bind_eq_ok.mp ran
    intro other held
    cases held with
    | head =>
      unfold upgradeBlock at block
      split at block
      · cases block
      split at block
      · rename_i none'
        exact .inl (UInt8.toNat_inj.mp none')
      split at block
      · cases block
      · rename_i some'
        exact .inr fun zero => some' (by rw [zero]; rfl)
    | tail _ later => exact ih ran other later

theorem getD_zipWith {f : UInt8 → UInt8 → α} {l m : ComponentQuant} {j : Nat} (short : j < 10)
    (default : α) : (List.zipWith f l.toValues m.toValues).getD j default =
      f (l.toValues.getD j 0) (m.toValues.getD j 0) := by
  have atL : l.toValues[j]? = some l.toValues[j] := List.getElem?_eq_getElem short
  have atM : m.toValues[j]? = some m.toValues[j] := List.getElem?_eq_getElem short
  rw [List.getD_eq_getElem?_getD, List.getD_eq_getElem?_getD, List.getD_eq_getElem?_getD,
    List.getElem?_zipWith, atL, atM]
  rfl

theorem sub_ok {old new difference : ComponentQuant} (done : old.sub new = .ok difference) :
    difference.toValues = List.zipWith (· - ·) old.toValues new.toValues ∧
      ∀ j < 10, (new.toValues.getD j 0).toNat ≤ (old.toValues.getD j 0).toNat := by
  unfold ComponentQuant.sub at done
  split at done
  · cases done
  split at done
  · cases done
  rename_i larger
  cases done
  refine ⟨rfl, ?_⟩
  intro j short
  by_contra less
  have value := @getD_zipWith _ (fun old new => decide (old < new)) old new j short false
  rw [decide_eq_true (UInt8.lt_iff_toNat_lt.mpr (Nat.not_le.mp less)),
    List.getD_eq_getElem?_getD] at value
  cases found : (List.zipWith (fun old new => decide (old < new)) old.toValues
      new.toValues)[j]? with
  | none =>
    rw [found] at value
    cases value
  | some one =>
    rw [found] at value
    cases value
    exact larger (List.any_eq_true.mpr ⟨true, List.mem_of_getElem? found, rfl⟩)

theorem upgradeComponentState_sound
    (upgraded : upgradeComponentState srlData rawData quant delta extrapolate component = .ok next)
    (sound : component.Sound) : next.1.Sound := by
  have upgrades := upgradeComponentState_ok upgraded
  obtain ⟨_, _, _, less, ran⟩ := upgrades.bands
  obtain ⟨difference, lower⟩ := sub_ok less
  refine ⟨upgrades.valid, ?_⟩
  intro value held
  obtain ⟨band, isBand, same⟩ := bands_cover extrapolate held
  have index : ∀ extrapolate, ∀ band ∈ rfxComponentBands extrapolate, band.quantIndex < 10 := by
    decide
  have short := index extrapolate band isBand
  refine ⟨?_, upgrades.small value held⟩
  cases upgradeBands_ok ran band isBand with
  | inr positive =>
    rw [same] at positive
    have nonzero : value.toNat ≠ 0 := fun zero => positive (UInt8.toNat_inj.mp zero)
    omega
  | inl none' =>
    have below := lower band.quantIndex short
    rw [same] at below
    rw [difference, getD_zipWith short, same] at none'
    have equal := congrArg UInt8.toNat none'
    rw [UInt8.toNat_sub_of_le _ _ (UInt8.le_iff_toNat_le.mpr below)] at equal
    have zero : (0 : UInt8).toNat = 0 := rfl
    have was : component.bitPos.toValues.getD band.quantIndex 0 ∈ component.bitPos.toValues := by
      rw [List.getD_eq_getElem?_getD, List.getElem?_eq_getElem short]
      exact List.getElem_mem short
    have old := (sound.placed _ was).1
    omega

theorem stepsComponent_sound {next : ComponentState}
    (steps : stepsComponent extrapolate component next)
    (sound : component.valid = true → component.Sound) : next.Sound := by
  rcases steps with ⟨pass, difference, samples, decoded⟩ | ⟨pass, samples, upgraded⟩
  · exact decodeProgressiveComponentState_sound decoded
  · exact upgradeComponentState_sound upgraded (sound (upgradeComponentState_ok upgraded).ready)

/-! ## Consistent tiles -/

/-- A tile that is valid has valid components with bit positions, a pass, and one layout for all that
    was decoded since the last pass that was no difference. -/
structure TileRecord.Consistent (record : TileRecord) : Prop where
  components : record.state.valid = true → record.state.Every ComponentState.Sound
  pass : record.state.valid = true → 1 ≤ record.state.pass.toNat
  layouts : record.state.valid = true →
    ∀ layout ∈ record.layouts, layout = record.state.extrapolate

/-- A difference to a valid tile keeps to its layout and does not come when the passes cannot be
    counted any further. -/
def TileRecord.Allows (record : TileRecord) : TileCall → Prop
  | .decode _ _ _ extrapolate difference => difference = true → record.state.valid = true →
      extrapolate = record.state.extrapolate ∧ record.state.pass ≠ 0xffff
  | .upgrade .. => True

structure TileRecord.Kept (record : TileRecord) : Prop extends record.Consistent where
  fresh : record.state.valid = false → record.state.Every fun component => component.valid = false
  decoded : record.state.valid = true → record.layouts ≠ []

theorem TileRecord.Kept.sound (kept : record.Kept) :
    record.state.Every fun component => component.valid = true → component.Sound := by
  cases valid : record.state.valid with
  | true =>
    have every := kept.components valid
    exact ⟨fun _ => every.y, fun _ => every.cb, fun _ => every.cr⟩
  | false =>
    have fresh := kept.fresh valid
    refine ⟨?_, ?_, ?_⟩ <;> intro ready
    · cases fresh.y.symm.trans ready
    · cases fresh.cb.symm.trans ready
    · cases fresh.cr.symm.trans ready

theorem TileRecord.Kept.updated {next : TileState} (kept : record.Kept)
    (calls : CallsTile record.state call next) (updates : call.updates = true) :
    record.state.valid = true := by
  cases valid : record.state.valid with
  | true => rfl
  | false => cases (kept.fresh valid).y.symm.trans (calls.ready updates)

theorem TileRecord.Allows.update {next : TileState} (allowed : record.Allows call)
    (calls : CallsTile record.state call next) (updates : call.updates = true)
    (valid : record.state.valid = true) :
    call.extrapolate = record.state.extrapolate ∧ record.state.pass ≠ 0xffff := by
  cases call with
  | decode y cb cr extrapolate difference => exact allowed updates valid
  | upgrade y cb cr extrapolate => exact (calls.guard ⟨y, cb, cr, extrapolate, rfl⟩).2

theorem pass_counted {pass : UInt16} (small : pass ≠ 0xffff) : (pass + 1).toNat = pass.toNat + 1 := by
  have below := pass.toNat_lt
  have apart : pass.toNat ≠ 0xffff := fun same => small (UInt16.toNat_inj.mp same)
  have value : (pass + 1).toNat = (pass.toNat + 1) % 2 ^ 16 := rfl
  omega

theorem TileRecord.Kept.step {next : TileRecord} (kept : record.Kept)
    (allowed : record.Allows call) (taken : tileStep record call = .ok (status, next)) :
    next.Kept := by
  rcases tileStep_ok taken with ⟨_, calls, layouts⟩ | same
  · have sound := kept.sound
    have valid := calls.valid
    have components : next.state.Every ComponentState.Sound :=
      ⟨stepsComponent_sound calls.y sound.y, stepsComponent_sound calls.cb sound.cb,
        stepsComponent_sound calls.cr sound.cr⟩
    refine ⟨⟨fun _ => components, ?_, ?_⟩, ?_, ?_⟩
    · intro _
      rw [calls.pass]
      split
      · rename_i counted
        simp only [Bool.and_eq_true] at counted
        have small := (allowed.update calls counted.1 counted.2).2
        rw [pass_counted small]
        exact Nat.le_add_left _ _
      · decide
    · intro _ layout held
      rw [layouts] at held
      rcases List.mem_append.mp held with before | last
      · cases updates : call.updates with
        | false =>
          rw [updates] at before
          cases before
        | true =>
          have valid := kept.updated calls updates
          rw [updates, if_pos rfl] at before
          rw [kept.layouts valid layout before, calls.layout,
            (allowed.update calls updates valid).1]
      · rw [List.mem_singleton.mp last, calls.layout]
    · intro invalid
      cases valid.symm.trans invalid
    · intro _
      rw [layouts]
      exact List.append_ne_nil_of_right_ne_nil _ (List.cons_ne_nil _ _)
  · rw [same]
    exact kept

theorem TileRecord.Kept.start : TileRecord.Kept {} where
  components := nofun
  pass := nofun
  layouts := nofun
  fresh _ := ⟨rfl, rfl, rfl⟩
  decoded := nofun

theorem TileRecord.Kept.allows {next : TileRecord} (kept : record.Kept)
    (calls : CallsTile record.state call next.state)
    (layouts : next.layouts = (if call.updates then record.layouts else []) ++ [call.extrapolate])
    (consistent : next.Consistent) : record.Allows call := by
  cases call with
  | upgrade y cb cr extrapolate => trivial
  | decode y cb cr extrapolate difference =>
    rintro rfl valid
    have every := consistent.layouts calls.valid
    rw [layouts, calls.layout] at every
    obtain ⟨layout, held⟩ := List.exists_mem_of_ne_nil _ (kept.decoded valid)
    have same := every layout (List.mem_append_left _ held)
    refine ⟨?_, ?_⟩
    · rw [← kept.layouts valid layout held, same]
      rfl
    · intro last
      have pass := consistent.pass calls.valid
      rw [calls.pass, valid, last, TileCall.updates] at pass
      cases pass

/-- As long as a difference keeps to the layout of a valid tile, and comes while the passes can still
    be counted, the tile is consistent, and a call that fails changes nothing. A call that succeeds
    leaves a consistent tile exactly if it was such a call. -/
theorem progressive_tile_consistent {record : TileRecord}
    (reached : ReachableWithin tileStep TileRecord.Allows {} record) :
    record.Consistent ∧
      (∀ call status next, tileStep record call = .ok (status, next) → status ≠ .ok →
        next.state = record.state ∧ next.pixels = record.pixels) ∧
      ∀ call changed next, callTile record.state call = .ok changed →
        tileStep record call = .ok (.ok, next) → (next.Consistent ↔ record.Allows call) := by
  have kept : record.Kept := reached.invariant TileRecord.Kept TileRecord.Kept.start
    fun _ _ _ _ kept allowed taken => kept.step allowed taken
  refine ⟨kept.toConsistent, ?_, ?_⟩
  · intro call status next taken failed
    rcases tileStep_ok taken with ⟨done, _⟩ | same
    · exact absurd done failed
    · rw [same]
      exact ⟨rfl, rfl⟩
  · intro call changed next called taken
    refine ⟨?_, fun allowed => (kept.step allowed taken).toConsistent⟩
    intro consistent
    rw [tileStep, called] at taken
    cases taken
    exact kept.allows (callTile_ok called) rfl consistent

theorem progressive_tile_consistent_refined :
    ∃ record, run tileStep {} [oneTile, oneTileRefined, emptyTile false true] =
        .ok ([.ok, .ok, .ok], record) ∧ record.Consistent ∧
      (∀ call status next, tileStep record call = .ok (status, next) → status ≠ .ok →
        next.state = record.state ∧ next.pixels = record.pixels) ∧
      ∀ call changed next, callTile record.state call = .ok changed →
        tileStep record call = .ok (.ok, next) → (next.Consistent ↔ record.Allows call) := by
  obtain ⟨_, second, refined⟩ := oneTile_refined
  obtain ⟨_, taken, _⟩ := @emptyTile_ok second false true
    fun _ => ⟨refined.every.y.valid, refined.every.cb.valid, refined.every.cr.valid⟩
  have ran := run_cons_ok refined.tile [oneTileRefined, emptyTile false true]
  rw [run_cons_ok refined.upgrade, run_singleton taken] at ran
  have allowed : TileRecord.Allows {} oneTile := nofun
  have allowed' : second.Allows (emptyTile false true) :=
    fun _ _ => ⟨refined.layout.2.symm, by rw [refined.pass]; decide⟩
  have upgrade : ReachableWithin tileStep TileRecord.Allows {} second :=
    .step (.step .init allowed refined.tile) (by trivial) refined.upgrade
  exact ⟨_, ran, progressive_tile_consistent (.step upgrade allowed' taken)⟩

/-- Two differences with the other layout and back: the tile records the layout of the last one. -/
theorem difference_mixes_layouts :
    ∃ record, run tileStep {} [emptyTile false false, emptyTile true true, emptyTile false true] =
        .ok ([.ok, .ok, .ok], record) ∧
      record.state.valid = true ∧ record.state.extrapolate = false ∧ true ∈ record.layouts ∧
      ¬ record.Consistent := by
  obtain ⟨first, taken, ready, _⟩ := @emptyTile_ok {} false false nofun
  obtain ⟨second, taken', ready', _, _, layouts⟩ := @emptyTile_ok first true true fun _ => ready
  obtain ⟨third, taken'', _, valid, extrapolate, layouts'⟩ :=
    @emptyTile_ok second false true fun _ => ready'
  have mixed : true ∈ third.layouts := by
    rw [layouts', layouts]
    simp
  refine ⟨third, ?_, valid, extrapolate, mixed, ?_⟩
  · rw [run_cons_ok taken, run_cons_ok taken', run_singleton taken'']
    rfl
  · intro consistent
    cases (consistent.layouts valid true mixed).trans extrapolate

end LibRdp.Graphics
