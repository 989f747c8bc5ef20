import LibRdp.Machine.Effect
import LibRdp.Graphics.GdiFields

/-! # NSCodec bitmaps

A bitmap is sent as four planes: luma, two of chroma that may be halved in both directions, and
alpha. A plane comes as it is or in runs. The planes of the last bitmap are kept in a context;
its planes grow with the bitmaps and never shrink.
-/

namespace LibRdp.Graphics

open Machine

structure Pixel where
  b : UInt8 := 0
  g : UInt8 := 0
  r : UInt8 := 0
  a : UInt8 := 0
  deriving Repr, DecidableEq

instance : Inhabited Pixel := ⟨{}⟩

def Pixel.bytes (pixel : Pixel) : Bytes := [pixel.b, pixel.g, pixel.r, pixel.a]

/-- `RDP_NSCODEC_STREAM_HEADER_LENGTH` and `RDP_NSCODEC_MAX_DIMENSION`. -/
def nscodecStreamHeaderLength : Nat := 20
def nscodecMaxDimension : Nat := 8192

/-- An unsigned difference that bounds something; below zero it is a fault. -/
def clearSub (a b : Nat) : Attempt Nat :=
  if b ≤ a then .ok (a - b) else .error (.fault .underflow)

def regionFits (x y width height destWidth destHeight : Nat) : Attempt Bool :=
  if x > destWidth ∨ y > destHeight then pure false
  else do
    let across ← clearSub destWidth x
    if width > across then pure false
    else do
      let down ← clearSub destHeight y
      pure (height ≤ down)

/-- `rdp_nscodec_stream`; the lengths are those of the planes. -/
structure NscodecStream where
  luma : Bytes
  orangeChroma : Bytes
  greenChroma : Bytes
  alpha : Bytes
  colorLossLevel : UInt8
  chromaSubsamplingLevel : UInt8
  lumaWidth : Nat
  lumaHeight : Nat
  chromaWidth : Nat
  chromaHeight : Nat
  deriving Repr, DecidableEq

/-- `rdp_nscodec_round_up`. -/
def nscodecRoundUp (value alignment : Nat) : Option Nat :=
  if alignment = 0 then some value
  else if value % alignment = 0 then some value
  else if value > sizeMax - (alignment - value % alignment) then none
  else some (value + alignment - value % alignment)

/-- `rdp_nscodec_dimensions_valid`. -/
def nscodecDimensionsValid (width height : Nat) : Bool :=
  0 < width && 0 < height && width ≤ nscodecMaxDimension && height ≤ nscodecMaxDimension

/-- `rdp_nscodec_plane_size`. -/
def nscodecPlaneSize (width height : Nat) : Attempt Nat :=
  if width = 0 ∨ height = 0 ∨ width > sizeMax / height then refuse .protocolError
  else pure (width * height)

def nscodecPlaneExtents (subsampled : Bool) (width height : Nat) :
    Attempt ((Nat × Nat) × (Nat × Nat)) :=
  match nscodecRoundUp width 8, nscodecRoundUp height 2 with
  | some roundedWidth, some roundedHeight =>
      if roundedWidth < width ∨ roundedHeight < height then refuse .protocolError
      else if subsampled then
        pure ((roundedWidth, height), (roundedWidth / 2, roundedHeight / 2))
      else pure ((width, height), (width, height))
  | _, _ => refuse .protocolError

/-- `rdp_nscodec_parse_stream`. -/
def nscodecParseStream (data : Bytes) (width height : Nat) : Attempt NscodecStream :=
  if !nscodecDimensionsValid width height || data.length < nscodecStreamHeaderLength then
    refuse .protocolError
  else do
    let (lumaLen, input) ← readU32Le data
    let (orangeChromaLen, input) ← readU32Le input
    let (greenChromaLen, input) ← readU32Le input
    let (alphaLen, input) ← readU32Le input
    let (colorLossLevel, input) ← readU8 input
    let (chromaSubsamplingLevel, input) ← readU8 input
    let (reserved, input) ← readU16Le input
    if lumaLen = 0 ∨ orangeChromaLen = 0 ∨ greenChromaLen = 0 ∨ colorLossLevel < 1 ∨
        colorLossLevel > 7 ∨ chromaSubsamplingLevel > 1 ∨ reserved ≠ 0 then
      refuse .protocolError
    else do
      let ((lumaWidth, lumaHeight), chromaWidth, chromaHeight) ←
        nscodecPlaneExtents (chromaSubsamplingLevel ≠ 0) width height
      let lumaExpected ← nscodecPlaneSize lumaWidth lumaHeight
      let chromaExpected ← nscodecPlaneSize chromaWidth chromaHeight
      let alphaExpected ← nscodecPlaneSize width height
      if lumaLen.toNat > lumaExpected ∨ orangeChromaLen.toNat > chromaExpected ∨
          greenChromaLen.toNat > chromaExpected ∨ alphaLen.toNat > alphaExpected then
        refuse .protocolError
      else
        let total :=
          lumaLen.toNat + orangeChromaLen.toNat + greenChromaLen.toNat + alphaLen.toNat
        if total > sizeMax then refuse .protocolError
        else do
          let planesLen ← clearSub data.length nscodecStreamHeaderLength
          if total ≠ planesLen then refuse .protocolError
          else do
            let (planes, _) ← readBytes input total
            let (luma, planes) ← readBytes planes lumaLen.toNat
            let (orangeChroma, planes) ← readBytes planes orangeChromaLen.toNat
            let (greenChroma, alpha) ← readBytes planes greenChromaLen.toNat
            pure { luma, orangeChroma, greenChroma, alpha, colorLossLevel, chromaSubsamplingLevel
                   lumaWidth, lumaHeight, chromaWidth, chromaHeight }

/-- The loop of `rdp_nscodec_decode_rle_plane_into`, with `left` bytes to go and `output` written. -/
def nscodecRleLoop (outputLen left : Nat) (input output : Bytes) : Attempt Bytes :=
  if left ≤ 4 then
    if left ≠ 4 ∨ input.length ≠ 4 then refuse .protocolError
    else do
      let room ← clearSub outputLen output.length
      if room < 4 then refuse .protocolError else pure (output ++ input)
  else
    match input with
    | [] => refuse .protocolError
    | value :: rest =>
        if left = 5 then nscodecRleLoop outputLen (left - 1) rest (output ++ [value])
        else
          match rest with
          | [] => refuse .protocolError
          | next :: behind =>
              if value ≠ next then
                nscodecRleLoop outputLen (left - 1) (next :: behind) (output ++ [value])
              else
                match behind with
                | [] => refuse .protocolError
                | factor :: tail =>
                    if factor < 0xff then
                      let run := factor.toNat + 2
                      if run = 0 ∨ run > left then refuse .protocolError
                      else do
                        let room ← clearSub outputLen output.length
                        if run > room then refuse .protocolError
                        else
                          nscodecRleLoop outputLen (left - run) tail
                            (output ++ List.replicate run value)
                    else
                      match tail with
                      | b0 :: b1 :: b2 :: b3 :: tail =>
                          let run := u32Le b0 b1 b2 b3
                          if run = 0 ∨ run > left then refuse .protocolError
                          else do
                            let room ← clearSub outputLen output.length
                            if run > room then refuse .protocolError
                            else
                              nscodecRleLoop outputLen (left - run) tail
                                (output ++ List.replicate run value)
                      | _ => refuse .protocolError
termination_by input.length

/-- `rdp_nscodec_decode_rle_plane_into`. -/
def nscodecDecodeRlePlaneInto (input : Bytes) (outputLen : Nat) : Attempt Bytes :=
  if outputLen = 0 then refuse .invalidArgument
  else if outputLen ≤ 4 then
    if input.length ≠ outputLen then refuse .protocolError else pure input
  else nscodecRleLoop outputLen outputLen input []

/-- `rdp_nscodec_decode_plane`. -/
def nscodecDecodePlane (encoded : Bytes) (expectedLen : Nat) : Attempt Bytes :=
  if expectedLen = 0 then refuse .invalidArgument
  else if encoded.length = expectedLen then pure encoded
  else if encoded.length > expectedLen then refuse .protocolError
  else nscodecDecodeRlePlaneInto encoded expectedLen

/-- The alpha plane of `rdp_nscodec_decode_planes`; without one the bitmap is solid. -/
def nscodecDecodeAlpha (encoded : Bytes) (expectedLen : Nat) : Attempt Bytes :=
  if encoded.length = 0 then pure (List.replicate expectedLen 0xff)
  else nscodecDecodePlane encoded expectedLen

/-- `rdp_nscodec_context`. -/
structure NscodecContext where
  luma : Option Bytes := none
  orangeChroma : Option Bytes := none
  greenChroma : Option Bytes := none
  alpha : Option Bytes := none
  planeCapacity : Nat := 0
  deriving Repr, DecidableEq

/-- A plane of `rdp_nscodec_ensure_planes` that grows from an old capacity. -/
def nscodecGrowPlane (capacity oldCapacity : Nat) (plane : Option Bytes) : Option Bytes :=
  some ((plane.getD (List.replicate oldCapacity 0)).take oldCapacity ++
    List.replicate (capacity - oldCapacity) 0)

/-- `rdp_nscodec_ensure_planes`; `memory` says whether the larger planes are there to be had. -/
def nscodecEnsurePlanes (memory : Bool) (capacity : Nat) (context : NscodecContext) :
    Attempt NscodecContext :=
  if capacity ≤ context.planeCapacity then pure context
  else if !memory then refuse .noMemory
  else
    let grow := nscodecGrowPlane capacity context.planeCapacity
    pure { luma := grow context.luma, orangeChroma := grow context.orangeChroma
           greenChroma := grow context.greenChroma, alpha := grow context.alpha
           planeCapacity := capacity }

def nscodecWritePlane (decoded : Bytes) (plane : Option Bytes) : Option Bytes :=
  plane.map fun old => decoded ++ old.drop decoded.length

structure NscodecMemory where
  decoded : Bool := true
  kept : Bool := true
  deriving Repr, DecidableEq

/-- `rdp_nscodec_decode_planes`. -/
def nscodecDecodePlanes (memory : NscodecMemory) (stream : NscodecStream) (width height : Nat)
    (context : NscodecContext) : Attempt NscodecContext := do
  let lumaExpected ← nscodecPlaneSize stream.lumaWidth stream.lumaHeight
  let chromaExpected ← nscodecPlaneSize stream.chromaWidth stream.chromaHeight
  let alphaExpected ← nscodecPlaneSize width height
  if !memory.decoded then refuse .noMemory
  else do
    let luma ← nscodecDecodePlane stream.luma lumaExpected
    let orangeChroma ← nscodecDecodePlane stream.orangeChroma chromaExpected
    let greenChroma ← nscodecDecodePlane stream.greenChroma chromaExpected
    let alpha ← nscodecDecodeAlpha stream.alpha alphaExpected
    let context ← nscodecEnsurePlanes memory.kept
      (max (max lumaExpected chromaExpected) alphaExpected) context
    pure { context with
      luma := nscodecWritePlane luma context.luma
      orangeChroma := nscodecWritePlane orangeChroma context.orangeChroma
      greenChroma := nscodecWritePlane greenChroma context.greenChroma
      alpha := nscodecWritePlane alpha context.alpha }

/-- `rdp_nscodec_clamp_i32`. -/
def nscodecClampI32 (value : Int) : UInt8 :=
  if value < 0 then 0 else if value > 255 then 255 else UInt8.ofNat value.toNat

/-- `rdp_nscodec_recover_chroma`. -/
def nscodecRecoverChroma (value colorLossLevel : UInt8) : Int :=
  int8 (UInt8.ofNat (value.toNat * 2 ^ (colorLossLevel.toNat - 1)))

/-- One pixel of `rdp_nscodec_decode_region_bgra32`. -/
def nscodecPixel (context : NscodecContext) (stream : NscodecStream) (width x y : Nat) : Pixel :=
  let subsampled := stream.chromaSubsamplingLevel ≠ 0
  let chromaX := if subsampled then x / 2 else x
  let chromaY := if subsampled then y / 2 else y
  let yValue : Int := ((context.luma.getD []).getD (y * stream.lumaWidth + x) 0).toNat
  let chroma (plane : Option Bytes) : Int :=
    nscodecRecoverChroma ((plane.getD []).getD (chromaY * stream.chromaWidth + chromaX) 0)
      stream.colorLossLevel
  let coValue := chroma context.orangeChroma
  let cgValue := chroma context.greenChroma
  { b := nscodecClampI32 (yValue - coValue - cgValue)
    g := nscodecClampI32 (yValue + cgValue)
    r := nscodecClampI32 (yValue + coValue - cgValue)
    a := (context.alpha.getD []).getD (y * width + x) 0 }

structure NscodecFrame where
  context : NscodecContext
  dest : Memory Pixel

def storePixel (dest : Memory Pixel) (index : Nat) (pixel : Pixel) : Attempt (Memory Pixel) :=
  match dest.store index pixel with
  | .ok dest => .ok dest
  | .error fault => .error (.fault fault)

/-- The effect of `storePixel` on the pixels of a frame. -/
def NscodecFrame.put (index : Nat) (pixel : Pixel) : Effect Stop NscodecFrame Unit := do
  let frame ← Effect.get
  let dest ← Effect.lift (storePixel frame.dest index pixel)
  Effect.modify fun frame => { frame with dest }

/-- `rdp_nscodec_decode_region_bgra32`, with the stride of the destination in pixels. -/
def nscodecDecodeRegion (memory : NscodecMemory) (data : Bytes)
    (width height destStride destX destY destWidth destHeight : Nat) :
    Effect Stop NscodecFrame Unit :=
  if !nscodecDimensionsValid width height || !nscodecDimensionsValid destWidth destHeight then
    Effect.stop (.returned .protocolError)
  else do
    let fits ← Effect.lift (regionFits destX destY width height destWidth destHeight)
    if !fits || destStride < destWidth then Effect.stop (.returned .protocolError)
    else do
      let stream ← Effect.lift (nscodecParseStream data width height)
      let frame ← Effect.get
      let context ← Effect.lift (nscodecDecodePlanes memory stream width height frame.context)
      Effect.modify fun frame => { frame with context }
      (List.range height).forM fun y => (List.range width).forM fun x =>
        NscodecFrame.put ((destY + y) * destStride + destX + x)
          (nscodecPixel context stream width x y)

end LibRdp.Graphics
