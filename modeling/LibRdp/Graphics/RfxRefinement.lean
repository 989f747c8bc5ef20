import LibRdp.Graphics.RfxProgressiveRuns

/-! # Upgrades refine

An upgrade brings the bits of a coefficient between the old bit position of its band and the new
one. Over any number of upgrades the changes add up to less than the bit that stood last.
-/

namespace LibRdp.Graphics

open Machine

/-! ## The values of `int32_t` -/

def InI32 (value : Int) : Prop := -2 ^ 31 ≤ value ∧ value ≤ 2 ^ 31 - 1

theorem int32_in (value : Int) : InI32 (int32 value) := by
  have low : -2 ^ 31 ≤ int32 value := Int.le_bmod (by decide)
  have high : int32 value < 2 ^ 31 := Int.bmod_lt (by decide)
  exact ⟨low, by omega⟩

theorem clamp_in (value : Int) : InI32 (rfxClampI32 value) := by
  unfold InI32 rfxClampI32
  omega

theorem zero_in : InI32 0 := by
  unfold InI32
  omega

variable {value : Int} {nonLl : Bool} {pixels : TilePixels}

theorem clamp_near (inside : InI32 value) (change : Int) :
    (rfxClampI32 (value + change) - value).natAbs ≤ change.natAbs := by
  unfold InI32 rfxClampI32 at *
  omega

/-! ## What an upgrade adds -/

theorem rfxReadBitsPadded_lt {reader next : RfxBitReader} {count value : Nat}
    (read : rfxReadBitsPadded reader count = .ok (value, next)) : value < 2 ^ count := by
  unfold rfxReadBitsPadded at read
  split at read
  · cases read
  split at read
  · cases read
  cases read
  have below := Coding.ofMsb_lt (reader.bits.take count)
  have short : (reader.bits.take count).length ≤ count := List.length_take_le _ _
  calc _ < 2 ^ (reader.bits.take count).length * 2 ^ (count - (reader.bits.take count).length) :=
        Nat.mul_lt_mul_of_pos_right below (Nat.two_pow_pos _)
    _ = 2 ^ count := by rw [← Nat.pow_add, Nat.add_sub_cancel' short]

variable {reader next : UpgradeReader} {numBits : Nat} {input : Int} {band : RfxBand}
  {component : ComponentState} {extrapolate : Bool} {quant delta : ComponentQuant}
  {state : TileState}

theorem upgradeRawRead_lt (read : upgradeRawRead reader numBits = .ok (input, next)) :
    input.natAbs < 2 ^ numBits := by
  unfold upgradeRawRead at read
  split at read
  · cases read
  obtain ⟨⟨raw, bits⟩, opened, read⟩ := bind_eq_ok.mp read
  cases read
  exact rfxReadBitsPadded_lt opened

theorem srlMagnitude_le {srl next : RfxBitReader} {magnitude left value : Nat}
    (read : srlMagnitude srl magnitude left = .ok (value, next)) : value ≤ magnitude + left := by
  induction left generalizing srl magnitude with
  | zero =>
    cases read
    exact Nat.le_refl _
  | succ left ih =>
    obtain ⟨⟨bit, srl'⟩, _, read⟩ := bind_eq_ok.mp read
    dsimp only at read
    split at read
    · cases read
      omega
    · have below := ih read
      omega

theorem srlReadValue_lt (some' : numBits ≠ 0)
    (read : srlReadValue reader numBits = .ok (input, next)) : input.natAbs < 2 ^ numBits := by
  obtain ⟨⟨sign, srl⟩, _, read⟩ := bind_eq_ok.mp read
  dsimp only at read
  split at read
  · rename_i one
    cases read
    rw [one]
    split <;> decide
  have positive : 2 ≤ 2 ^ numBits := by
    calc 2 = 2 ^ 1 := rfl
      _ ≤ 2 ^ numBits := Nat.pow_le_pow_right (by decide) (Nat.pos_of_ne_zero some')
  obtain ⟨⟨magnitude, srl'⟩, counted, read⟩ := bind_eq_ok.mp read
  have below := srlMagnitude_le counted
  cases read
  dsimp only
  split <;> omega

theorem upgradeSrlRead_lt (read : upgradeSrlRead reader numBits = .ok (input, next)) :
    input.natAbs < 2 ^ numBits := by
  have positive : 0 < 2 ^ numBits := Nat.two_pow_pos _
  unfold upgradeSrlRead at read
  split at read
  · cases read
  rename_i bits
  have some' : numBits ≠ 0 := fun zero => bits (.inl zero)
  split at read
  · cases read
    exact positive
  dsimp only at read
  split at read
  · cases read
  split at read
  · exact srlReadValue_lt some' read
  obtain ⟨⟨bit, srl⟩, _, read⟩ := bind_eq_ok.mp read
  dsimp only at read
  split at read
  · cases read
    exact positive
  split at read
  all_goals
    obtain ⟨⟨nz, srl'⟩, _, read⟩ := bind_eq_ok.mp read
    dsimp only at read
    split at read
    · cases read
      exact positive
    · exact srlReadValue_lt some' read

variable {newSign : Int}

theorem upgradeInput_lt {sign : Int}
    (read : upgradeInput reader sign numBits nonLl = .ok ((input, newSign), next)) :
    input.natAbs < 2 ^ numBits := by
  unfold upgradeInput at read
  split at read
  · split at read
    · obtain ⟨⟨raw, _⟩, opened, read⟩ := bind_eq_ok.mp read
      cases read
      exact upgradeRawRead_lt opened
    · split at read
      · obtain ⟨⟨raw, _⟩, opened, read⟩ := bind_eq_ok.mp read
        cases read
        rw [Int.natAbs_neg]
        exact upgradeRawRead_lt opened
      · obtain ⟨⟨value, _⟩, opened, read⟩ := bind_eq_ok.mp read
        cases read
        exact upgradeSrlRead_lt opened
  obtain ⟨⟨raw, _⟩, opened, read⟩ := bind_eq_ok.mp read
  cases read
  exact upgradeRawRead_lt opened

theorem upgradeInput_sign {sign : Int}
    (read : upgradeInput reader sign numBits nonLl = .ok ((input, newSign), next))
    (some' : sign ≠ 0) : newSign = sign := by
  unfold upgradeInput at read
  split at read
  · split at read
    · obtain ⟨_, _, read⟩ := bind_eq_ok.mp read
      cases read
      rfl
    · split at read
      · obtain ⟨_, _, read⟩ := bind_eq_ok.mp read
        cases read
        rfl
      · omega
  obtain ⟨_, _, read⟩ := bind_eq_ok.mp read
  cases read
  rfl

/-! ## Bands -/

section Upgrade

variable {reader next : UpgradeReader} {current sign current' sign' : Plane} {i : Nat}

structure Upgraded (limit : Nat) (sign current sign' current' : Int) : Prop where
  inside : InI32 current'
  near : (current' - current).natAbs ≤ limit
  sign : sign ≠ 0 → sign' = sign

theorem Upgraded.none {limit : Nat} {sign current : Int} (inside : InI32 current) :
    Upgraded limit sign current sign current :=
  ⟨inside, by omega, fun _ => rfl⟩

variable {numBits : Nat}

variable {shift bitPos : Nat} {nonLl : Bool} {bands : List RfxBand}

theorem upgradeInput_upgraded {s newSign input value : Int}
    (read : upgradeInput reader s numBits nonLl = .ok ((input, newSign), next))
    (inside : InI32 value) :
    Upgraded ((2 ^ numBits - 1) * 2 ^ shift) s value newSign
      (rfxClampI32 (value + input * 2 ^ shift)) := by
  refine ⟨clamp_in _, Nat.le_trans (clamp_near inside _) ?_, upgradeInput_sign read⟩
  have below := upgradeInput_lt read
  rw [Int.natAbs_mul, Int.natAbs_pow]
  exact Nat.mul_le_mul_right _ (by omega)

theorem upgradeLoop_upgraded {index left : Nat}
    (ran : upgradeLoop shift numBits nonLl index left reader current sign =
      .ok (next, current', sign')) (inside : InI32 (current i)) :
    Upgraded ((2 ^ numBits - 1) * 2 ^ shift) (sign i) (current i) (sign' i) (current' i) := by
  induction left generalizing index reader current sign with
  | zero =>
    cases ran
    exact .none inside
  | succ left ih =>
    obtain ⟨⟨⟨input, newSign⟩, reader'⟩, read, ran⟩ := bind_eq_ok.mp ran
    by_cases here : i = index
    · subst here
      obtain ⟨sameCurrent, sameSign⟩ := upgradeLoop_outside ran (.inl (Nat.lt_succ_self i))
      rw [sameCurrent, sameSign]
      simp only [Plane.write, if_true]
      exact upgradeInput_upgraded read inside
    have kept := @ih reader' (current.write index _) (sign.write index newSign) (index + 1) ran
    simp only [Plane.write, if_neg here] at kept
    exact kept inside

theorem upgradeBlock_outside {band : RfxBand}
    (ran : upgradeBlock reader current sign band bitPos numBits = .ok (next, current', sign'))
    (outside : ¬band.Holds i) : current' i = current i ∧ sign' i = sign i := by
  unfold RfxBand.Holds at outside
  unfold upgradeBlock at ran
  split at ran
  · cases ran
  split at ran
  · cases ran
    exact ⟨rfl, rfl⟩
  split at ran
  · cases ran
  · exact upgradeLoop_outside ran (by omega)

theorem upgradeBlock_upgraded {band : RfxBand}
    (ran : upgradeBlock reader current sign band bitPos numBits = .ok (next, current', sign'))
    (inside : InI32 (current i)) :
    Upgraded ((2 ^ numBits - 1) * 2 ^ (bitPos - 1)) (sign i) (current i) (sign' i) (current' i) := by
  unfold upgradeBlock at ran
  split at ran
  · cases ran
  split at ran
  · cases ran
    exact .none inside
  split at ran
  · cases ran
  · exact upgradeLoop_upgraded ran inside

theorem upgradeBands_outside {bitPos numBits : List UInt8}
    (ran : upgradeBands bitPos numBits bands reader current sign = .ok (next, current', sign'))
    (outside : ∀ band ∈ bands, ¬band.Holds i) : current' i = current i ∧ sign' i = sign i := by
  induction bands generalizing reader current sign with
  | nil =>
    cases ran
    exact ⟨rfl, rfl⟩
  | cons band rest ih =>
    obtain ⟨⟨reader', current₁, sign₁⟩, block, ran⟩ := bind_eq_ok.mp ran
    obtain ⟨sameCurrent, sameSign⟩ := ih ran fun other held => outside other (.tail _ held)
    have first := upgradeBlock_outside block (outside band List.mem_cons_self)
    exact ⟨sameCurrent.trans first.1, sameSign.trans first.2⟩

def Consecutive (bands : List RfxBand) : Prop :=
  bands.Pairwise fun band later => band.offset + band.count ≤ later.offset

theorem rfxComponentBands_consecutive (extrapolate : Bool) :
    Consecutive (rfxComponentBands extrapolate) := by
  unfold Consecutive
  cases extrapolate <;> decide

theorem upgradeBands_upgraded {bitPos numBits : List UInt8}
    (ran : upgradeBands bitPos numBits bands reader current sign = .ok (next, current', sign'))
    (apart : Consecutive bands) {band : RfxBand} (held : band ∈ bands) (here : band.Holds i)
    (inside : InI32 (current i)) :
    Upgraded ((2 ^ (numBits.getD band.quantIndex 0).toNat - 1) *
      2 ^ ((bitPos.getD band.quantIndex 0).toNat - 1)) (sign i) (current i) (sign' i)
      (current' i) := by
  unfold RfxBand.Holds at here
  induction bands generalizing reader current sign with
  | nil => cases held
  | cons first rest ih =>
    obtain ⟨⟨reader', current₁, sign₁⟩, block, later'⟩ := bind_eq_ok.mp ran
    obtain ⟨before, apart'⟩ := List.pairwise_cons.mp apart
    cases held with
    | head =>
      have outside : ∀ other ∈ rest, ¬other.Holds i := by
        intro other later holds
        have after := before other later
        unfold RfxBand.Holds at holds
        omega
      obtain ⟨sameCurrent, sameSign⟩ := upgradeBands_outside later' outside
      rw [sameCurrent, sameSign]
      exact upgradeBlock_upgraded block inside
    | tail _ later =>
      have after := before band later
      have outside : ¬first.Holds i := by
        unfold RfxBand.Holds
        omega
      obtain ⟨sameCurrent, sameSign⟩ := upgradeBlock_outside block outside
      have rest' := ih later' apart' later (sameCurrent ▸ inside)
      rwa [sameCurrent, sameSign] at rest'

end Upgrade

/-! ## Components -/

def ComponentState.position (component : ComponentState) (band : RfxBand) : Nat :=
  (component.bitPos.toValues.getD band.quantIndex 0).toNat

/-- Bits are brought for a coefficient that stand between two positions of its band, and a sign of a
    coefficient outside of the lowest band stays. -/
structure Refines (band : RfxBand) (i : Nat) (component next : ComponentState) : Prop where
  position : next.position band ≤ component.position band
  near : (next.current i - component.current i).natAbs + 2 ^ (next.position band - 1) ≤
    2 ^ (component.position band - 1)
  positive : band.nonLl = true → 0 < component.current i → 0 < next.current i
  negative : band.nonLl = true → component.current i < 0 → next.current i < 0

theorem Refines.refl (band : RfxBand) (i : Nat) (component : ComponentState) :
    Refines band i component component :=
  ⟨Nat.le_refl _, by omega, fun _ => id, fun _ => id⟩

variable {i : Nat} {values : List Int}

theorem Refines.trans {middle next : ComponentState} (first : Refines band i component middle)
    (second : Refines band i middle next) : Refines band i component next := by
  refine ⟨Nat.le_trans second.position first.position, ?_, ?_, ?_⟩
  · have nearFirst := first.near
    have nearSecond := second.near
    omega
  · exact fun above some' => second.positive above (first.positive above some')
  · exact fun above some' => second.negative above (first.negative above some')

theorem bits_between {old new : Nat} (less : new ≤ old) (placed : old = new ∨ new ≠ 0) :
    (2 ^ (old - new) - 1) * 2 ^ (new - 1) + 2 ^ (new - 1) = 2 ^ (old - 1) := by
  have positive := Nat.two_pow_pos (old - new)
  rw [← Nat.succ_mul, Nat.succ_eq_add_one, Nat.sub_add_cancel positive, ← Nat.pow_add]
  congr 1
  omega

structure ComponentState.Exact (extrapolate : Bool) (component : ComponentState) : Prop where
  inside : ∀ i, InI32 (component.current i)
  coherent : ∀ i, OutsideLl extrapolate i → component.Coherent i

theorem band_quantIndex (held : band ∈ rfxComponentBands extrapolate) : band.quantIndex < 10 := by
  have index : ∀ extrapolate, ∀ band ∈ rfxComponentBands extrapolate, band.quantIndex < 10 := by
    decide
  exact index extrapolate band held

theorem outside_of_nonLl (held : band ∈ rfxComponentBands extrapolate) (above : band.nonLl = true)
    (here : band.Holds i) : OutsideLl extrapolate i := by
  intro other isBand low holds
  have apart : ∀ extrapolate, ∀ band ∈ rfxComponentBands extrapolate,
      ∀ other ∈ rfxComponentBands extrapolate, band.nonLl = true → other.nonLl = false →
        band.offset + band.count ≤ other.offset := by decide
  have below := apart extrapolate band held other isBand above low
  unfold RfxBand.Holds at here holds
  omega

variable {data srlData rawData : Bytes} {difference : Bool}

theorem upgradeComponentState_refines {next : ComponentState × Plane}
    (upgraded : upgradeComponentState srlData rawData quant delta extrapolate component = .ok next)
    (exact' : component.Exact extrapolate) (held : band ∈ rfxComponentBands extrapolate)
    (here : band.Holds i) : Refines band i component next.1 := by
  have after : band.nonLl = true → next.1.Coherent i := fun above =>
    upgradeComponentState_coherent upgraded (outside_of_nonLl held above here)
      (exact'.coherent i (outside_of_nonLl held above here))
  obtain ⟨numBits, _, _, less, ran⟩ := (upgradeComponentState_ok upgraded).bands
  obtain ⟨difference, lower⟩ := sub_ok less
  have short := band_quantIndex held
  have below := lower band.quantIndex short
  have change := upgradeBands_upgraded ran (rfxComponentBands_consecutive extrapolate) held here
    (exact'.inside i)
  have bits : (numBits.toValues.getD band.quantIndex 0).toNat =
      (component.bitPos.toValues.getD band.quantIndex 0).toNat -
        (next.1.bitPos.toValues.getD band.quantIndex 0).toNat := by
    rw [difference, getD_zipWith short, UInt8.toNat_sub_of_le _ _ (UInt8.le_iff_toNat_le.mpr below)]
  have placed : (component.bitPos.toValues.getD band.quantIndex 0).toNat =
        (next.1.bitPos.toValues.getD band.quantIndex 0).toNat ∨
      (next.1.bitPos.toValues.getD band.quantIndex 0).toNat ≠ 0 := by
    rcases upgradeBands_ok ran band held with none' | positive
    · rw [none', UInt8.toNat_zero] at bits
      omega
    · exact .inr fun zero => positive (UInt8.toNat_inj.mp zero)
  have between := bits_between below placed
  rw [← bits] at between
  refine ⟨below, ?_, ?_, ?_⟩
  · rw [ComponentState.position, ComponentState.position, ← between]
    exact Nat.add_le_add_right change.near _
  · intro above positive
    have before := exact'.coherent i (outside_of_nonLl held above here)
    have same := change.sign
    have agree := after above
    unfold ComponentState.Coherent SignsAgree at before agree
    omega
  · intro above negative
    have before := exact'.coherent i (outside_of_nonLl held above here)
    have same := change.sign
    have agree := after above
    unfold ComponentState.Coherent SignsAgree at before agree
    omega

theorem upgradeComponentState_exact {next : ComponentState × Plane}
    (upgraded : upgradeComponentState srlData rawData quant delta extrapolate component = .ok next)
    (exact' : component.Exact extrapolate) : next.1.Exact extrapolate := by
  refine ⟨?_, fun i clear => upgradeComponentState_coherent upgraded clear (exact'.coherent i clear)⟩
  intro i
  obtain ⟨_, _, _, _, ran⟩ := (upgradeComponentState_ok upgraded).bands
  by_cases somewhere : ∃ band ∈ rfxComponentBands extrapolate, band.Holds i
  · obtain ⟨band, held, here⟩ := somewhere
    exact (upgradeBands_upgraded ran (rfxComponentBands_consecutive extrapolate) held here
      (exact'.inside i)).inside
  have outside : ∀ band ∈ rfxComponentBands extrapolate, ¬band.Holds i :=
    fun band held here => somewhere ⟨band, held, here⟩
  rw [(upgradeBands_outside ran outside).1]
  exact exact'.inside i

/-! ## What is decoded -/

theorem rfxFrom2magSign_in (value : Nat) : InI32 (rfxFrom2magSign value) := by
  unfold rfxFrom2magSign
  dsimp only
  split
  · exact zero_in
  · split <;> exact int32_in _

theorem rlgrReadValue_in {reader next : RfxBitReader} {krp krp' : Nat}
    (read : rlgrReadValue reader krp = .ok ((value, krp'), next)) : InI32 value := by
  obtain ⟨⟨sign, reader₁⟩, _, read⟩ := bind_eq_ok.mp read
  obtain ⟨⟨⟨magnitude, krp₁⟩, reader₂⟩, _, read⟩ := bind_eq_ok.mp read
  cases read
  split <;> exact int32_in _

theorem rlgrCode_in {room : Nat} {state next : RlgrState}
    (coded : rlgrCode .rlgr1 room state = some (values, next)) : ∀ value ∈ values, InI32 value := by
  have zeros : ∀ (run : Nat), ∀ value ∈ List.replicate run (0 : Int), InI32 value := by
    intro run value held
    rw [List.eq_of_mem_replicate held]
    exact zero_in
  unfold rlgrCode at coded
  split at coded
  · obtain ⟨⟨bit, reader₁⟩, _, coded⟩ := Option.bind_eq_some_iff.mp coded
    dsimp only at coded
    split at coded
    · split at coded
      · cases coded
      · cases coded
        exact zeros _
    obtain ⟨⟨run, reader₂⟩, _, coded⟩ := Option.bind_eq_some_iff.mp coded
    dsimp only at coded
    split at coded
    · cases coded
    split at coded
    · cases coded
      exact zeros _
    obtain ⟨⟨⟨value, krp⟩, reader₃⟩, valued, coded⟩ := Option.bind_eq_some_iff.mp coded
    cases coded
    intro other held
    rcases List.mem_append.mp held with zero | last
    · exact zeros _ _ zero
    · rw [List.mem_singleton.mp last]
      exact rlgrReadValue_in (toOption_eq_some valued)
  · obtain ⟨⟨⟨magnitude, krp⟩, reader⟩, _, coded⟩ := Option.bind_eq_some_iff.mp coded
    cases coded
    intro other held
    rw [List.mem_singleton.mp held]
    split
    · exact zero_in
    · exact rfxFrom2magSign_in _

theorem rlgrCoefficients_in (room : Nat) (state : RlgrState) :
    ∀ value ∈ rlgrCoefficients .rlgr1 room state, InI32 value := by
  induction room, state using rlgrCoefficients.induct .rlgr1 with
  | case1 state => 
      rw [rlgrCoefficients_full]
      exact nofun
  | case2 room state some' coded =>
    rw [rlgrCoefficients_none coded]
    exact nofun
  | case3 room state some' values next coded ih =>
    rw [rlgrCoefficients_some (Nat.pos_of_ne_zero some') coded]
    intro value held
    rcases List.mem_append.mp held with first | later
    · exact rlgrCode_in coded value (List.mem_of_mem_take first)
    · exact ih value later

theorem rlgrDecode_in (data : Bytes) (count : Nat) :
    ∀ value ∈ rlgrDecode data count, InI32 value := by
  intro value held
  have same := rlgrLoop_eq count (rlgrStart data) [] (Nat.zero_le _)
  have held' : value ∈ rlgrTail count (rlgrCoefficients .rlgr1 count (rlgrStart data)) := by
    rw [List.nil_append, List.length_nil, Nat.sub_zero] at same
    exact same ▸ held
  rcases List.mem_append.mp held' with decoded | filled
  · exact rlgrCoefficients_in _ _ value decoded
  · rw [List.eq_of_mem_replicate filled]
    exact zero_in

theorem differentialLoop_in (previous : Int) (values : List Int) :
    ∀ value ∈ differentialLoop previous values, InI32 value := by
  induction values generalizing previous with
  | nil => exact nofun
  | cons first rest ih =>
    intro value held
    cases held with
    | head => exact clamp_in _
    | tail _ later => exact ih _ value later

theorem differentialDecode_in (inside : ∀ value ∈ values, InI32 value) :
    ∀ value ∈ differentialDecode values, InI32 value := by
  cases values with
  | nil => exact nofun
  | cons first rest =>
    intro value held
    cases held with
    | head => exact inside first List.mem_cons_self
    | tail _ later => exact differentialLoop_in first rest value later

theorem getD_in (inside : ∀ value ∈ values, InI32 value) (i : Nat) : InI32 (values.getD i 0) := by
  rw [List.getD_eq_getElem?_getD]
  cases found : values[i]? with
  | none => exact zero_in
  | some value => exact inside value (List.mem_of_getElem? found)

theorem decodeProgressiveCoefficients_in {data : Bytes} {plane : Plane}
    (decoded : decodeProgressiveCoefficients data extrapolate = .ok plane) (i : Nat) :
    InI32 (plane i) := by
  unfold decodeProgressiveCoefficients at decoded
  dsimp only at decoded
  split at decoded
  · cases decoded
  cases decoded
  refine getD_in (fun value held => ?_) i
  rcases List.mem_append.mp held with before | lowest
  · exact rlgrDecode_in _ _ value (List.mem_of_mem_take before)
  · exact differentialDecode_in
      (fun value held => rlgrDecode_in _ _ value (List.mem_of_mem_drop held)) value lowest

theorem shiftBands_in {values : List UInt8} {bands : List RfxBand} {coefficients shifted : Plane}
    (done : bands.foldlM (shiftBand values) coefficients = .ok shifted)
    (inside : ∀ i, InI32 (coefficients i)) (i : Nat) : InI32 (shifted i) := by
  induction bands generalizing coefficients with
  | nil =>
    cases done
    exact inside i
  | cons band rest ih =>
    rw [List.foldlM_cons] at done
    obtain ⟨next, first, done⟩ := bind_eq_ok.mp done
    refine ih done fun j => ?_
    unfold shiftBand at first
    dsimp only at first
    split at first
    · cases first
    split at first
    · cases first
      exact inside j
    cases first
    dsimp only
    split
    · exact clamp_in _
    · exact inside j

theorem decodeProgressiveComponentState_exact {next : ComponentState × Plane}
    (decoded : decodeProgressiveComponentState data quant delta extrapolate difference component =
      .ok next) (layout : Bool) : next.1.Exact layout := by
  refine ⟨?_, fun i _ => decodeProgressiveComponentState_coherent decoded i⟩
  intro i
  obtain ⟨_, _, _, _, _, read, shift, same⟩ := decodeProgressiveComponentState_ok decoded
  obtain ⟨values, _, shift⟩ := bind_eq_ok.mp shift
  have inside := shiftBands_in shift (decodeProgressiveCoefficients_in read) i
  rw [same, refreshProgressiveSigns]
  dsimp only
  split
  · exact clamp_in _
  · exact inside

/-! ## Tiles -/

/-- Every component of a tile that is valid has its bit positions and is exact. -/
def TileState.Exact (state : TileState) : Prop :=
  state.valid = true →
    state.Every fun component => component.Sound ∧ component.Exact state.extrapolate

variable {next : TileState}

theorem callTile_exact {call : TileCall} (exact' : state.Exact)
    (called : callTile state call = .ok (next, pixels)) : next.Exact := by
  have guard := (callTile_ok called).guard
  cases call with
  | decode y cb cr extrapolate difference =>
    obtain ⟨⟨nextY, ySamples⟩, stepY, called⟩ := bind_eq_ok.mp called
    obtain ⟨⟨nextCb, cbSamples⟩, stepCb, called⟩ := bind_eq_ok.mp called
    obtain ⟨⟨nextCr, crSamples⟩, stepCr, called⟩ := bind_eq_ok.mp called
    cases called
    exact fun _ =>
      ⟨⟨decodeProgressiveComponentState_sound stepY, decodeProgressiveComponentState_exact stepY _⟩,
        ⟨decodeProgressiveComponentState_sound stepCb, decodeProgressiveComponentState_exact stepCb _⟩,
        ⟨decodeProgressiveComponentState_sound stepCr, decodeProgressiveComponentState_exact stepCr _⟩⟩
  | upgrade y cb cr extrapolate =>
    obtain ⟨valid, layout, _⟩ := guard ⟨y, cb, cr, extrapolate, rfl⟩
    have every := exact' valid
    rw [← layout] at every
    simp only [callTile, decodeProgressiveUpgradeTile, refuse_else, bind_eq_ok] at called
    obtain ⟨-, ⟨nextY, ySamples⟩, stepY, ⟨nextCb, cbSamples⟩, stepCb, ⟨nextCr, crSamples⟩, stepCr,
      called⟩ := called
    cases called
    exact fun _ =>
      ⟨⟨upgradeComponentState_sound stepY every.y.1, upgradeComponentState_exact stepY every.y.2⟩,
        ⟨upgradeComponentState_sound stepCb every.cb.1,
          upgradeComponentState_exact stepCb every.cb.2⟩,
        ⟨upgradeComponentState_sound stepCr every.cr.1,
          upgradeComponentState_exact stepCr every.cr.2⟩⟩

theorem reachable_exact {record : TileRecord} (reached : Reachable tileStep {} record) :
    record.state.Exact := by
  refine reached.invariant (·.state.Exact) nofun ?_
  intro before call status after exact' taken
  unfold tileStep at taken
  split at taken
  · rename_i called
    cases taken
    exact callTile_exact exact' called
  · cases taken
    exact exact'
  · cases taken

inductive Upgrades : TileState → TileState → Prop where
  | refl (state : TileState) : Upgrades state state
  | tail {state middle next : TileState} {y cb cr : ComponentUpgrade} {extrapolate : Bool}
      {pixels : TilePixels} (before : Upgrades state middle)
      (upgraded : decodeProgressiveUpgradeTile y cb cr extrapolate middle = .ok (next, pixels)) :
      Upgrades state next

theorem Upgrades.valid (upgrades : Upgrades state next)
    (valid : state.valid = true) : next.valid = true := by
  induction upgrades with
  | refl => exact valid
  | tail before upgraded ih =>
    have called : callTile _ (.upgrade _ _ _ _) = .ok (_, _) := upgraded
    exact (callTile_ok called).valid

structure TileRefines (state next : TileState) : Prop where
  layout : next.extrapolate = state.extrapolate
  y : ∀ band ∈ rfxComponentBands state.extrapolate, ∀ i, band.Holds i → Refines band i state.y next.y
  cb : ∀ band ∈ rfxComponentBands state.extrapolate, ∀ i, band.Holds i →
    Refines band i state.cb next.cb
  cr : ∀ band ∈ rfxComponentBands state.extrapolate, ∀ i, band.Holds i →
    Refines band i state.cr next.cr

theorem upgradeTile_refines {y cb cr : ComponentUpgrade} (exact' : state.Exact)
    (upgraded : decodeProgressiveUpgradeTile y cb cr extrapolate state = .ok (next, pixels)) :
    TileRefines state next := by
  have called : callTile state (.upgrade y cb cr extrapolate) = .ok (next, pixels) := upgraded
  obtain ⟨valid, layout, _⟩ := (callTile_ok called).guard ⟨y, cb, cr, extrapolate, rfl⟩
  have every := exact' valid
  rw [← layout] at every
  simp only [decodeProgressiveUpgradeTile, refuse_else, bind_eq_ok] at upgraded
  obtain ⟨-, ⟨nextY, ySamples⟩, stepY, ⟨nextCb, cbSamples⟩, stepCb, ⟨nextCr, crSamples⟩, stepCr,
    upgraded⟩ := upgraded
  cases upgraded
  refine ⟨layout, ?_, ?_, ?_⟩ <;> rw [← layout] <;> intro band held i here
  · exact upgradeComponentState_refines stepY every.y.2 held here
  · exact upgradeComponentState_refines stepCb every.cb.2 held here
  · exact upgradeComponentState_refines stepCr every.cr.2 held here

theorem upgrades_refine (exact' : state.Exact) (upgrades : Upgrades state next) :
    next.Exact ∧ TileRefines state next := by
  induction upgrades with
  | refl => exact ⟨exact', rfl, fun _ _ _ _ => .refl _ _ _, fun _ _ _ _ => .refl _ _ _,
      fun _ _ _ _ => .refl _ _ _⟩
  | tail before upgraded ih =>
    obtain ⟨exact'', refines⟩ := ih
    have step := upgradeTile_refines exact'' upgraded
    have called : callTile _ (.upgrade _ _ _ _) = .ok (_, _) := upgraded
    refine ⟨callTile_exact exact'' called, step.layout.trans refines.layout, ?_, ?_, ?_⟩
    · intro band held i here
      exact (refines.y band held i here).trans (step.y band (refines.layout ▸ held) i here)
    · intro band held i here
      exact (refines.cb band held i here).trans (step.cb band (refines.layout ▸ held) i here)
    · intro band held i here
      exact (refines.cr band held i here).trans (step.cr band (refines.layout ▸ held) i here)

/-- Positions only go down, a coefficient changes by less than the bit at the position that its band
    had first, and outside of the lowest band the sign of a coefficient that has one stays. -/
structure RefinesBelow (band : RfxBand) (i : Nat) (component next : ComponentState) : Prop where
  placed : 1 ≤ next.position band
  position : next.position band ≤ component.position band
  change : (next.current i - component.current i).natAbs < 2 ^ (component.position band - 1)
  positive : band.nonLl = true → 0 < component.current i → 0 < next.current i
  negative : band.nonLl = true → component.current i < 0 → next.current i < 0

theorem Refines.below {next : ComponentState} (refines : Refines band i component next)
    (sound : next.Sound) (held : band ∈ rfxComponentBands extrapolate) :
    RefinesBelow band i component next := by
  have short := band_quantIndex held
  have isValue : next.bitPos.toValues.getD band.quantIndex 0 ∈ next.bitPos.toValues := by
    rw [List.getD_eq_getElem?_getD, List.getElem?_eq_getElem short]
    exact List.getElem_mem short
  refine ⟨(sound.placed _ isValue).1, refines.position, ?_, refines.positive, refines.negative⟩
  have near := refines.near
  have bit : 0 < 2 ^ (next.position band - 1) := Nat.two_pow_pos _
  omega

/-- From any tile that calls lead to, upgrades only refine: no proviso about clamps is needed, as a
    clamp moves a coefficient towards its old value. -/
theorem upgrades_only_refine {record : TileRecord} (reached : Reachable tileStep {} record)
    (valid : record.state.valid = true) {next : TileState}
    (upgrades : Upgrades record.state next) {band : RfxBand}
    (held : band ∈ rfxComponentBands record.state.extrapolate) {i : Nat} (here : band.Holds i) :
    RefinesBelow band i record.state.y next.y ∧ RefinesBelow band i record.state.cb next.cb ∧
      RefinesBelow band i record.state.cr next.cr := by
  obtain ⟨exact', refines⟩ := upgrades_refine (reachable_exact reached) upgrades
  have every := exact' (upgrades.valid valid)
  exact ⟨(refines.y band held i here).below every.y.1 held,
    (refines.cb band held i here).below every.cb.1 held,
    (refines.cr band held i here).below every.cr.1 held⟩

theorem upgrades_only_refine_negative :
    ∃ record next, tileStep {} oneTile = .ok (.ok, record) ∧ Upgrades record.state next ∧
      (record.state.y.current 0 = -2 ∧ next.y.current 0 = -3) ∧
      RefinesBelow ⟨0, 1024, 7, true⟩ 0 record.state.y next.y ∧
      RefinesBelow ⟨0, 1024, 7, true⟩ 0 record.state.cb next.cb ∧
      RefinesBelow ⟨0, 1024, 7, true⟩ 0 record.state.cr next.cr := by
  obtain ⟨record, second, refined⟩ := oneTile_refined
  have upgrades : Upgrades record.state second.state := .tail (.refl _) refined.upgraded
  refine ⟨record, _, refined.tile, upgrades, ⟨refined.start.y.value, refined.every.y.value⟩,
    upgrades_only_refine (.step .init refined.tile) refined.valid upgrades ?_ ?_⟩
  · rw [refined.layout.1]
    decide
  · decide

end LibRdp.Graphics
