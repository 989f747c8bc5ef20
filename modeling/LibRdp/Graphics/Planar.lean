import LibRdp.Graphics.NsCodec

/-! # Planar bitmaps

A bitmap is sent as three planes and one more of alpha: red, green and blue, or luma and two of
chroma with a loss of colour. All planes come as they are, or all of them in runs. The rows of a
plane in runs are differences to the row above.
-/

namespace LibRdp.Graphics

/-- `RDP_PLANAR_FORMAT_CLL_MASK`, `_CHROMA_SUBSAMPLING`, `_RLE`, `_NO_ALPHA` and `_RESERVED_MASK`. -/
def planarCllMask : UInt8 := 0x07
def planarChromaSubsampling : UInt8 := 0x08
def planarRle : UInt8 := 0x10
def planarNoAlpha : UInt8 := 0x20
def planarReservedMask : UInt8 := 0xc0

/-- `rdp_planar_clip_i32`. -/
def planarClip (value : Int) : UInt8 :=
  if value < 0 then 0 else if value > 255 then 255 else UInt8.ofNat value.toNat

/-- `rdp_planar_decode_chroma`. -/
def planarDecodeChroma (value cll : UInt8) : Int :=
  int8 (UInt8.ofNat (value.toNat * 2 ^ (cll.toNat - 1)))

/-- `rdp_planar_decode_rle_delta`. -/
def planarDecodeRleDelta (value : UInt8) : Int :=
  if value &&& 1 ≠ 0 then -((value >>> 1).toNat + 1) else (value >>> 1).toNat

/-- How many values follow a control byte, and how often the last one is repeated. -/
def planarCounts (control : UInt8) : Nat × Nat :=
  let run := (control &&& 0x0f).toNat
  let raw := (control >>> 4).toNat
  if run = 1 then (0, raw + 16) else if run = 2 then (0, raw + 32) else (raw, run)

/-- What a byte stands for: a difference if there is a row above, or the value itself. -/
def planarValue (previous : Option Bytes) (byte : UInt8) : Int :=
  if previous.isSome then planarDecodeRleDelta byte else byte.toNat

/-- A byte of a row from its value; `x` is inside of the row above. -/
def planarCell (previous : Option Bytes) (x : Nat) (value : Int) : UInt8 :=
  match previous with
  | none => planarClip value
  | some above => planarClip ((above.getD x 0).toNat + value)

def planarRaws (previous : Option Bytes) : Bytes → Bytes → Int → Bytes × Int
  | [], current, value => (current, value)
  | byte :: raws, current, _ =>
      let value := planarValue previous byte
      planarRaws previous raws (current ++ [planarCell previous current.length value]) value

def planarRun (previous : Option Bytes) (value : Int) : Nat → Bytes → Bytes
  | 0, current => current
  | run + 1, current =>
      planarRun previous value run (current ++ [planarCell previous current.length value])

/-- The rest of a row, of which `current` is decoded. -/
def planarRleRow (width : Nat) (previous : Option Bytes) (data current : Bytes) (value : Int) :
    Attempt (Bytes × Bytes) :=
  if current.length < width then
    match data with
    | [] => refuse .protocolError
    | control :: data =>
        if control = 0 then refuse .protocolError
        else
          let (raw, run) := planarCounts control
          if raw + run > width - current.length ∨ raw > data.length then refuse .protocolError
          else
            let (current, value) := planarRaws previous (data.take raw) current value
            planarRleRow width previous (data.drop raw) (planarRun previous value run current) value
  else pure (current, data)
termination_by data.length
decreasing_by simp only [List.length_drop, List.length_cons]; omega

/-- `height` rows behind those in `output`. -/
def planarRleRows (width : Nat) : Nat → Option Bytes → Bytes → Bytes → Attempt (Bytes × Bytes)
  | 0, _, data, output => pure (output, data)
  | height + 1, previous, data, output => do
      let (current, data) ← planarRleRow width previous data [] 0
      planarRleRows width height (some current) data (output ++ current)

/-- `rdp_planar_decode_rle_plane`, which gives the plane and how many bytes it took. -/
def planarDecodeRlePlane (data : Bytes) (width height : Nat) : Attempt (Bytes × Nat) :=
  if width = 0 ∨ height = 0 then refuse .invalidArgument
  else do
    let (plane, rest) ← planarRleRows width height none data []
    pure (plane, data.length - rest.length)

structure PlanarFormat where
  cll : UInt8
  subsampled : Bool
  rle : Bool
  hasAlpha : Bool
  deriving Repr, DecidableEq

def planarParseFormat (header : UInt8) : Attempt PlanarFormat :=
  let cll := header &&& planarCllMask
  let subsampled : Bool := header &&& planarChromaSubsampling ≠ 0
  if header &&& planarReservedMask ≠ 0 then refuse .protocolError
  else if subsampled ∧ cll = 0 then refuse .protocolError
  else
    pure { cll, subsampled, rle := header &&& planarRle ≠ 0, hasAlpha := header &&& planarNoAlpha = 0 }

structure PlanarSizes where
  pixelCount : Nat
  chromaWidth : Nat
  chromaHeight : Nat
  chromaCount : Nat
  payloadSize : Nat
  deriving Repr, DecidableEq

def planarPayloadSize (format : PlanarFormat) (pixelCount chromaCount : Nat) : Attempt Nat :=
  if format.cll = 0 then
    let planes := if format.hasAlpha then 4 else 3
    if pixelCount > (sizeMax - 1) / planes then refuse .protocolError else pure (pixelCount * planes)
  else if chromaCount > (sizeMax - pixelCount) / 2 then refuse .protocolError
  else
    let payloadSize := pixelCount + chromaCount * 2
    if format.hasAlpha then
      if payloadSize > sizeMax - pixelCount then refuse .protocolError
      else pure (payloadSize + pixelCount)
    else pure payloadSize

def planarSizes (format : PlanarFormat) (width height : Nat) : Attempt PlanarSizes := do
  let pixelCount := width * height
  let chromaWidth := if format.subsampled then (width + 1) / 2 else width
  let chromaHeight := if format.subsampled then (height + 1) / 2 else height
  if chromaWidth = 0 ∨ chromaHeight = 0 ∨ chromaWidth > sizeMax / chromaHeight then
    refuse .protocolError
  let chromaCount := chromaWidth * chromaHeight
  let payloadSize ← planarPayloadSize format pixelCount chromaCount
  if payloadSize > sizeMax - 1 then refuse .protocolError
  pure { pixelCount, chromaWidth, chromaHeight, chromaCount, payloadSize }

structure PlanarPlanes where
  alpha : Option Bytes
  plane0 : Bytes
  plane1 : Bytes
  plane2 : Bytes
  deriving Repr, DecidableEq

def planarRlePlanes (format : PlanarFormat) (sizes : PlanarSizes) (width height : Nat)
    (data : Bytes) : Attempt PlanarPlanes := do
  let (alpha, data) ←
    if format.hasAlpha then do
      let (plane, consumed) ← planarDecodeRlePlane data width height
      pure (some plane, data.drop consumed)
    else pure (none, data)
  let (plane0, consumed) ← planarDecodeRlePlane data width height
  let data := data.drop consumed
  let (plane1, consumed) ← planarDecodeRlePlane data sizes.chromaWidth sizes.chromaHeight
  let data := data.drop consumed
  let (plane2, consumed) ← planarDecodeRlePlane data sizes.chromaWidth sizes.chromaHeight
  if (data.drop consumed).length ≠ 0 then refuse .protocolError
  pure { alpha, plane0, plane1, plane2 }

/-- The planes as they are; `data` may have one byte more. -/
def planarRawPlanes (format : PlanarFormat) (sizes : PlanarSizes) (data : Bytes) : PlanarPlanes :=
  let alphaCount := if format.hasAlpha then sizes.pixelCount else 0
  let chromaCount := if format.cll = 0 then sizes.pixelCount else sizes.chromaCount
  let colours := data.drop alphaCount
  { alpha := if format.hasAlpha then some (data.take alphaCount) else none
    plane0 := colours.take sizes.pixelCount
    plane1 := (colours.drop sizes.pixelCount).take chromaCount
    plane2 := (colours.drop (sizes.pixelCount + chromaCount)).take chromaCount }

def planarPixel (format : PlanarFormat) (sizes : PlanarSizes) (width : Nat) (planes : PlanarPlanes)
    (i : Nat) : Pixel :=
  let a := match planes.alpha with
    | some alpha => alpha.getD i 0
    | none => 0xff
  if format.cll = 0 then
    { b := planes.plane2.getD i 0, g := planes.plane1.getD i 0, r := planes.plane0.getD i 0, a }
  else
    let x := i % width
    let y := i / width
    let chromaIndex := if format.subsampled then y / 2 * sizes.chromaWidth + x / 2 else i
    let co := planarDecodeChroma (planes.plane1.getD chromaIndex 0) format.cll
    let cg := planarDecodeChroma (planes.plane2.getD chromaIndex 0) format.cll
    let yy : Int := (planes.plane0.getD i 0).toNat
    let t := yy - cg
    { b := planarClip (t + co), g := planarClip (yy + cg), r := planarClip (t - co), a }

def planarPixels (format : PlanarFormat) (sizes : PlanarSizes) (width : Nat)
    (planes : PlanarPlanes) : Bytes :=
  (List.range sizes.pixelCount).flatMap fun i => (planarPixel format sizes width planes i).bytes

/-- `rdp_planar_decode_argb`, which gives the pixels and their stride. -/
def planarDecodeArgb (data : Bytes) (width height : Nat) : Attempt (Bytes × Nat) :=
  if width = 0 ∨ height = 0 then refuse .protocolError
  else if width > sizeMax / height then refuse .protocolError
  else
    match data with
    | [] => refuse .protocolError
    | header :: payload => do
        let format ← planarParseFormat header
        let sizes ← planarSizes format width height
        if !format.rle ∧ payload.length ≠ sizes.payloadSize ∧
            payload.length ≠ sizes.payloadSize + 1 then
          refuse .protocolError
        let stride := width * 4
        if height > sizeMax / stride then refuse .protocolError
        let planes ←
          if format.rle then planarRlePlanes format sizes width height payload
          else pure (planarRawPlanes format sizes payload)
        pure (planarPixels format sizes width planes, stride)

end LibRdp.Graphics
