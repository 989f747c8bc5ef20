import LibRdp.Graphics.RfxTransform

/-! # Progressive RemoteFX tiles

A tile is sent in several passes. The first one, or a difference to what is there, carries
all coefficients of a component down to some bit; the upgrades carry further bits. A sign is
kept beside every coefficient: of a coefficient with a sign an upgrade sends plain bits, of
one without it says whether it is still zero.
-/

namespace LibRdp.Graphics

/-- `rdp_rfx_component_quant`. -/
structure ComponentQuant where
  ll3 : UInt8 := 0
  hl3 : UInt8 := 0
  lh3 : UInt8 := 0
  hh3 : UInt8 := 0
  hl2 : UInt8 := 0
  lh2 : UInt8 := 0
  hh2 : UInt8 := 0
  hl1 : UInt8 := 0
  lh1 : UInt8 := 0
  hh1 : UInt8 := 0
  deriving Repr, DecidableEq

namespace ComponentQuant

/-- `rdp_rfx_component_quant_to_values` and `rdp_rfx_component_quant_from_values`. -/
def toValues (quant : ComponentQuant) : List UInt8 :=
  [quant.ll3, quant.hl3, quant.lh3, quant.hh3, quant.hl2, quant.lh2, quant.hh2, quant.hl1, quant.lh1,
    quant.hh1]

def fromValues (values : List UInt8) : ComponentQuant :=
  { ll3 := values.getD 0 0, hl3 := values.getD 1 0, lh3 := values.getD 2 0, hh3 := values.getD 3 0
    hl2 := values.getD 4 0, lh2 := values.getD 5 0, hh2 := values.getD 6 0, hl1 := values.getD 7 0
    lh1 := values.getD 8 0, hh1 := values.getD 9 0 }

/-- `rdp_rfx_component_quant_in_range`. -/
def inRange (quant : ComponentQuant) (maxValue : UInt8) : Bool :=
  quant.toValues.all (· ≤ maxValue)

/-- `rdp_rfx_add_component_quant`. -/
def add (base delta : ComponentQuant) : Attempt ComponentQuant :=
  if !base.inRange 15 || !delta.inRange 8 then refuse .protocolError
  else
    let output := List.zipWith (· + ·) base.toValues delta.toValues
    if output.any (· > 15) then refuse .protocolError else pure (fromValues output)

/-- `rdp_rfx_sub_component_quant`. -/
def sub (old new : ComponentQuant) : Attempt ComponentQuant :=
  if !old.inRange 15 || !new.inRange 15 then refuse .protocolError
  else if (List.zipWith (fun old new => decide (old < new)) old.toValues new.toValues).any id then
    refuse .protocolError
  else pure (fromValues (List.zipWith (· - ·) old.toValues new.toValues))

/-- `rdp_rfx_component_quant_values_checked`. -/
def valuesChecked (quant : ComponentQuant) (maxValue : UInt8) : Attempt (List UInt8) :=
  if quant.inRange maxValue then pure quant.toValues else refuse .protocolError

/-- `rdp_rfx_parse_component_quant`: two values a byte, the low one first. -/
def parse (data : Bytes) : Attempt ComponentQuant :=
  if data.length < 5 then refuse .protocolError
  else pure (fromValues ((data.take 5).flatMap fun byte => [byte &&& 0x0f, byte >>> 4]))

end ComponentQuant

/-- `rdp_rfx_progressive_quant`. -/
structure ProgressiveQuant where
  quality : UInt8
  y : ComponentQuant
  cb : ComponentQuant
  cr : ComponentQuant
  deriving Repr, DecidableEq

/-- `rdp_rfx_parse_progressive_quant`. -/
def ProgressiveQuant.parse (data : Bytes) : Attempt ProgressiveQuant :=
  if data.length < 16 then refuse .protocolError
  else do
    let quality := data.getD 0 0
    let y ← ComponentQuant.parse (data.drop 1)
    let cb ← ComponentQuant.parse (data.drop 6)
    let cr ← ComponentQuant.parse (data.drop 11)
    if 100 < quality || !y.inRange 8 || !cb.inRange 8 || !cr.inRange 8 then refuse .protocolError
    else pure { quality, y, cb, cr }

/-- `rdp_rfx_band`. -/
structure RfxBand where
  offset : Nat
  count : Nat
  quantIndex : Nat
  nonLl : Bool
  deriving Repr, DecidableEq

/-- `rdp_rfx_normal_bands` and `rdp_rfx_extrapolated_bands`. -/
def rfxNormalBands : List RfxBand :=
  [⟨0, 1024, 7, true⟩, ⟨1024, 1024, 8, true⟩, ⟨2048, 1024, 9, true⟩, ⟨3072, 256, 4, true⟩,
    ⟨3328, 256, 5, true⟩, ⟨3584, 256, 6, true⟩, ⟨3840, 64, 1, true⟩, ⟨3904, 64, 2, true⟩,
    ⟨3968, 64, 3, true⟩, ⟨4032, 64, 0, false⟩]

def rfxExtrapolatedBands : List RfxBand :=
  [⟨0, 1023, 7, true⟩, ⟨1023, 1023, 8, true⟩, ⟨2046, 961, 9, true⟩, ⟨3007, 272, 4, true⟩,
    ⟨3279, 272, 5, true⟩, ⟨3551, 256, 6, true⟩, ⟨3807, 72, 1, true⟩, ⟨3879, 72, 2, true⟩,
    ⟨3951, 64, 3, true⟩, ⟨4015, 81, 0, false⟩]

/-- `rdp_rfx_component_bands`. -/
def rfxComponentBands (extrapolate : Bool) : List RfxBand :=
  if extrapolate then rfxExtrapolatedBands else rfxNormalBands

def RfxBand.Holds (band : RfxBand) (i : Nat) : Prop :=
  band.offset ≤ i ∧ i < band.offset + band.count

instance (band : RfxBand) (i : Nat) : Decidable (band.Holds i) := by
  unfold RfxBand.Holds
  infer_instance

/-- One band of `rdp_rfx_shift_progressive_coefficients`. -/
def shiftBand (values : List UInt8) (coefficients : Plane) (band : RfxBand) : Attempt Plane :=
  let value := values.getD band.quantIndex 0
  if band.offset > rfxTileCoefficients ∨ band.count > rfxTileCoefficients - band.offset ∨ value = 0 then
    refuse .protocolError
  else if value = 1 then pure coefficients
  else
    pure fun i =>
      if band.Holds i then rfxClampI32 (coefficients i * 2 ^ (value.toNat - 1)) else coefficients i

/-- `rdp_rfx_shift_progressive_coefficients`. -/
def shiftProgressiveCoefficients (coefficients : Plane) (bitPos : ComponentQuant)
    (extrapolate : Bool) : Attempt Plane := do
  let values ← bitPos.valuesChecked 15
  (rfxComponentBands extrapolate).foldlM (shiftBand values) coefficients

/-- `rdp_rfx_progressive_component_state`. -/
structure ComponentState where
  current : Plane := fun _ => 0
  sign : Plane := fun _ => 0
  bitPos : ComponentQuant := {}
  quant : ComponentQuant := {}
  progressiveQuant : ComponentQuant := {}
  valid : Bool := false

/-- `rdp_rfx_render_progressive_component`. -/
def renderProgressiveComponent (component : ComponentState) (extrapolate : Bool) : Attempt Plane :=
  if !component.valid then refuse .invalidArgument
  else if extrapolate then pure (inverseDwt2dExtrapolated component.current)
  else pure (inverseDwt2d component.current)

/-- `rdp_rfx_refresh_progressive_signs`. -/
def refreshProgressiveSigns (component : ComponentState) : ComponentState :=
  { component with
    sign := fun i =>
      if component.current i > 0 then 1 else if component.current i < 0 then -1 else 0 }

/-- What the entropy decoder makes of a pass: the coefficients before they are shifted. -/
def decodeProgressiveCoefficients (data : Bytes) (extrapolate : Bool) : Attempt Plane :=
  let decoded := rlgrDecode data rfxTileCoefficients
  if decoded.length ≠ rfxTileCoefficients then refuse .protocolError
  else
    let offset := if extrapolate then 4015 else 4032
    let decoded := decoded.take offset ++ differentialDecode (decoded.drop offset)
    pure fun i => decoded.getD i 0

/-- `rdp_rfx_decode_progressive_component_state`: the component, and the samples that it renders. -/
def decodeProgressiveComponentState (data : Bytes) (quant delta : ComponentQuant)
    (extrapolate difference : Bool) (component : ComponentState) :
    Attempt (ComponentState × Plane) :=
  if difference && !component.valid then refuse .protocolError
  else do
    let bitPos ← quant.add delta
    let decoded ← decodeProgressiveCoefficients data extrapolate
    let decoded ← shiftProgressiveCoefficients decoded bitPos extrapolate
    let current : Plane :=
      if difference then fun i => rfxClampI32 (component.current i + decoded i) else decoded
    let component := refreshProgressiveSigns
      { component with current, bitPos, quant, progressiveQuant := delta, valid := true }
    let coefficients ← renderProgressiveComponent component extrapolate
    pure (component, coefficients)

/-- `rdp_rfx_upgrade_reader`. -/
structure UpgradeReader where
  srl : RfxBitReader
  raw : RfxBitReader
  kp : Nat
  nz : Nat
  mode : Bool

/-- The loop of `rdp_rfx_upgrade_srl_read` over the magnitude, with `left` values up to the largest. -/
def srlMagnitude (srl : RfxBitReader) (magnitude : Nat) : Nat → Attempt (Nat × RfxBitReader)
  | 0 => pure (magnitude, srl)
  | left + 1 => do
      let (bit, srl) ← rfxReadBitsPadded srl 1
      if bit ≠ 0 then pure (magnitude, srl) else srlMagnitude srl (magnitude + 1) left

/-- The end of `rdp_rfx_upgrade_srl_read`, behind a run of zeros. -/
def srlReadValue (reader : UpgradeReader) (numBits : Nat) : Attempt (Int × UpgradeReader) := do
  let (sign, srl) ← rfxReadBitsPadded reader.srl 1
  let reader := { reader with srl, mode := false, kp := if reader.kp < 6 then 0 else reader.kp - 6 }
  if numBits = 1 then pure (if sign ≠ 0 then -1 else 1, reader)
  else do
    let (magnitude, srl) ← srlMagnitude reader.srl 1 (2 ^ numBits - 1 - 1)
    pure (if sign ≠ 0 then -(magnitude : Int) else magnitude, { reader with srl })

/-- `rdp_rfx_upgrade_srl_read`. -/
def upgradeSrlRead (reader : UpgradeReader) (numBits : Nat) : Attempt (Int × UpgradeReader) :=
  if numBits = 0 ∨ numBits > 15 then refuse .protocolError
  else if reader.nz > 0 then pure (0, { reader with nz := reader.nz - 1 })
  else
    let k := reader.kp / 8
    if k > 10 then refuse .protocolError
    else if reader.mode then srlReadValue reader numBits
    else do
      let (bit, srl) ← rfxReadBitsPadded reader.srl 1
      if bit = 0 then
        pure (0, { reader with srl, nz := 2 ^ k - 1, kp := min (reader.kp + 4) rlgrKpMax.toNat })
      else do
        let (nz, srl) ← if k > 0 then rfxReadBitsPadded srl k else pure (0, srl)
        if nz > 0 then pure (0, { reader with srl, mode := true, nz := nz - 1 })
        else srlReadValue { reader with srl, mode := true, nz } numBits

/-- `rdp_rfx_upgrade_raw_read`. -/
def upgradeRawRead (reader : UpgradeReader) (numBits : Nat) : Attempt (Int × UpgradeReader) :=
  if numBits = 0 ∨ numBits > 15 then refuse .protocolError
  else do
    let (raw, bits) ← rfxReadBitsPadded reader.raw numBits
    pure (raw, { reader with raw := bits })

/-- What a block reads for a coefficient: the input, and the sign afterwards. -/
def upgradeInput (reader : UpgradeReader) (sign : Int) (numBits : Nat) (nonLl : Bool) :
    Attempt ((Int × Int) × UpgradeReader) :=
  if nonLl then
    if sign > 0 then do
      let (input, reader) ← upgradeRawRead reader numBits
      pure ((input, sign), reader)
    else if sign < 0 then do
      let (input, reader) ← upgradeRawRead reader numBits
      pure ((-input, sign), reader)
    else do
      let (input, reader) ← upgradeSrlRead reader numBits
      pure ((input, input), reader)
  else do
    let (input, reader) ← upgradeRawRead reader numBits
    pure ((input, sign), reader)

def Plane.write (plane : Plane) (index : Nat) (value : Int) : Plane :=
  fun i => if i = index then value else plane i

/-- The loop of `rdp_rfx_upgrade_block` from an index on, with `left` coefficients to go. -/
def upgradeLoop (shift numBits : Nat) (nonLl : Bool) (index : Nat) :
    Nat → UpgradeReader → Plane → Plane → Attempt (UpgradeReader × Plane × Plane)
  | 0, reader, current, sign => pure (reader, current, sign)
  | left + 1, reader, current, sign => do
      let ((input, newSign), reader) ← upgradeInput reader (sign index) numBits nonLl
      upgradeLoop shift numBits nonLl (index + 1) left reader
        (current.write index (rfxClampI32 (current index + input * 2 ^ shift)))
        (sign.write index newSign)

/-- `rdp_rfx_upgrade_block`. -/
def upgradeBlock (reader : UpgradeReader) (current sign : Plane) (band : RfxBand)
    (bitPos numBits : Nat) : Attempt (UpgradeReader × Plane × Plane) :=
  if band.offset > rfxTileCoefficients ∨ band.count > rfxTileCoefficients - band.offset then
    refuse .invalidArgument
  else if numBits = 0 then pure (reader, current, sign)
  else if bitPos = 0 then refuse .protocolError
  else upgradeLoop (bitPos - 1) numBits band.nonLl band.offset band.count reader current sign

/-- The loop of `rdp_rfx_upgrade_component_state` over the bands. -/
def upgradeBands (bitPos numBits : List UInt8) :
    List RfxBand → UpgradeReader → Plane → Plane → Attempt (UpgradeReader × Plane × Plane)
  | [], reader, current, sign => pure (reader, current, sign)
  | band :: rest, reader, current, sign => do
      let (reader, current, sign) ← upgradeBlock reader current sign band
        (bitPos.getD band.quantIndex 0).toNat (numBits.getD band.quantIndex 0).toNat
      upgradeBands bitPos numBits rest reader current sign

/-- `rdp_rfx_upgrade_component_state`. -/
def upgradeComponentState (srlData rawData : Bytes) (quant delta : ComponentQuant)
    (extrapolate : Bool) (component : ComponentState) : Attempt (ComponentState × Plane) :=
  if !component.valid then refuse .protocolError
  else do
    let bitPos ← quant.add delta
    let numBits ← component.bitPos.sub bitPos
    let bitPosValues ← bitPos.valuesChecked 15
    let numBitValues ← numBits.valuesChecked 15
    let reader : UpgradeReader :=
      { srl := rfxBitReaderAttach srlData, raw := rfxBitReaderAttach rawData, kp := 8, nz := 0
        mode := false }
    let (_, current, sign) ← upgradeBands bitPosValues numBitValues (rfxComponentBands extrapolate)
      reader component.current component.sign
    let component := { component with
      current, sign, bitPos, quant, progressiveQuant := delta, valid := true }
    let coefficients ← renderProgressiveComponent component extrapolate
    pure (component, coefficients)

/-- `rdp_rfx_progressive_tile_state`. -/
structure TileState where
  y : ComponentState := {}
  cb : ComponentState := {}
  cr : ComponentState := {}
  pass : UInt16 := 0
  extrapolate : Bool := false
  valid : Bool := false

structure ComponentPass where
  data : Bytes
  quant : ComponentQuant
  delta : ComponentQuant

/-- `rdp_rfx_decode_progressive_tile_state`. -/
def decodeProgressiveTileState (y cb cr : ComponentPass) (extrapolate difference : Bool)
    (state : TileState) : Attempt (TileState × TilePixels) := do
  let (nextY, ySamples) ←
    decodeProgressiveComponentState y.data y.quant y.delta extrapolate difference state.y
  let (nextCb, cbSamples) ←
    decodeProgressiveComponentState cb.data cb.quant cb.delta extrapolate difference state.cb
  let (nextCr, crSamples) ←
    decodeProgressiveComponentState cr.data cr.quant cr.delta extrapolate difference state.cr
  pure ({ y := nextY, cb := nextCb, cr := nextCr
          pass := if difference && state.valid then state.pass + 1 else 1
          extrapolate, valid := true }, tileYcbcrToBgra ySamples cbSamples crSamples)

structure ComponentUpgrade where
  srlData : Bytes
  rawData : Bytes
  quant : ComponentQuant
  delta : ComponentQuant

/-- `rdp_rfx_decode_progressive_upgrade_tile`. -/
def decodeProgressiveUpgradeTile (y cb cr : ComponentUpgrade) (extrapolate : Bool)
    (state : TileState) : Attempt (TileState × TilePixels) :=
  if !state.valid || !state.y.valid || !state.cb.valid || !state.cr.valid ||
      state.extrapolate != extrapolate || state.pass == 0xffff then
    refuse .protocolError
  else do
    let (nextY, ySamples) ←
      upgradeComponentState y.srlData y.rawData y.quant y.delta extrapolate state.y
    let (nextCb, cbSamples) ←
      upgradeComponentState cb.srlData cb.rawData cb.quant cb.delta extrapolate state.cb
    let (nextCr, crSamples) ←
      upgradeComponentState cr.srlData cr.rawData cr.quant cr.delta extrapolate state.cr
    pure ({ y := nextY, cb := nextCb, cr := nextCr, pass := state.pass + 1
            extrapolate, valid := true }, tileYcbcrToBgra ySamples cbSamples crSamples)

end LibRdp.Graphics
