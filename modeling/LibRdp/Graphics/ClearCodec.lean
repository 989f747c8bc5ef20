import LibRdp.Machine.Run
import LibRdp.Graphics.NsCodec

/-! # ClearCodec bitmaps

A bitmap is composed of three layers: a residual in runs of one colour, bands of vertical bars
and regions with codecs of their own. Bars go through two caches, which are written in turn and
read by index, and whole bitmaps through a cache of glyphs. A call works on a copy of its context,
and the copy takes the place of the context when everything went well.
-/

namespace LibRdp.Graphics

open Machine

/-- `RDP_CLEARCODEC_*`. -/
def clearFlagGlyphIndex : UInt8 := 0x01
def clearFlagGlyphHit : UInt8 := 0x02
def clearFlagCacheReset : UInt8 := 0x04
def clearVbarStorageEntries : Nat := 32768
def clearShortVbarStorageEntries : Nat := 16384
def clearGlyphStorageEntries : Nat := 4000
def clearMaxBandHeight : Nat := 52

/-! ## The context -/

/-- What happens to the cache of bars: a reset, a bar that is stored in a slot, and a hit on a slot
    by a band of some height with the pixels that it leaves in its column. -/
inductive VbarEvent where
  | reset
  | stored (slot : Nat) (rows : List Pixel)
  | hit (slot height : Nat) (rows : List Pixel)
  deriving Repr, DecidableEq

/-- `rdp_clearcodec_glyph`. -/
structure ClearGlyph where
  pixelCount : Nat := 0
  pixels : Bytes := []
  deriving Repr, DecidableEq

/-- `rdp_clearcodec_context`, and what happened to its bars; the code does not keep the latter, and
    nothing reads it. -/
structure ClearContext where
  vbarStorage : Option (Nat → Nat → Pixel) := none
  shortVbarStorage : Option (Nat → Nat → Pixel) := none
  vbarLengths : Option (Nat → Nat) := none
  shortVbarLengths : Option (Nat → Nat) := none
  vbarCursor : Nat := 0
  shortVbarCursor : Nat := 0
  nscodec : NscodecContext := {}
  glyphs : Nat → ClearGlyph := fun _ => {}
  trace : List VbarEvent := []

/-- Rows of a slot in a table of bars; a table, a slot or a row that is not there is a fault. -/
def clearSlotRows (there : Bool) (entries slot rows : Nat) : Attempt Unit :=
  if there && slot < entries && rows ≤ clearMaxBandHeight then pure ()
  else .error (.fault .outOfBounds)

namespace ClearContext

/-- The test of an access to the first rows of a bar, and to its length. -/
def vbarRows (context : ClearContext) (slot rows : Nat) : Attempt Unit :=
  clearSlotRows (context.vbarStorage.isSome && context.vbarLengths.isSome) clearVbarStorageEntries
    slot rows

/-- The test of an access to the first rows of a short bar, and to its length. -/
def shortVbarRows (context : ClearContext) (slot rows : Nat) : Attempt Unit :=
  clearSlotRows (context.shortVbarStorage.isSome && context.shortVbarLengths.isSome)
    clearShortVbarStorageEntries slot rows

/-- `rdp_clearcodec_vbar_slot` and the length beside it. -/
def vbar (context : ClearContext) (slot : Nat) : Nat → Pixel :=
  context.vbarStorage.getD (fun _ _ => {}) slot

def vbarLength (context : ClearContext) (slot : Nat) : Nat :=
  context.vbarLengths.getD (fun _ => 0) slot

/-- `rdp_clearcodec_short_vbar_slot` and the length beside it. -/
def shortVbar (context : ClearContext) (slot : Nat) : Nat → Pixel :=
  context.shortVbarStorage.getD (fun _ _ => {}) slot

def shortVbarLength (context : ClearContext) (slot : Nat) : Nat :=
  context.shortVbarLengths.getD (fun _ => 0) slot

/-- `rdp_clearcodec_context_reset`. -/
def reset (context : ClearContext) : ClearContext :=
  { context with
    vbarLengths := context.vbarLengths.map fun _ _ => 0
    shortVbarLengths := context.shortVbarLengths.map fun _ _ => 0
    vbarCursor := 0
    shortVbarCursor := 0
    glyphs := fun _ => {}
    trace := context.trace ++ [.reset] }

/-- `rdp_clearcodec_normalize_vbar` on a slot whose length differs. -/
def normalizeVbar (context : ClearContext) (slot height : Nat) : ClearContext :=
  if context.vbarLength slot = height then context
  else
    let length := context.vbarLength slot
    { context with
      vbarStorage := some fun other y =>
        if other = slot ∧ length ≤ y ∧ y < height then {} else context.vbar other y
      vbarLengths := some fun other =>
        if other = slot then height else context.vbarLength other }

/-- `rdp_clearcodec_store_vbar`, with `rdp_clearcodec_advance_vbar_cursor`. -/
def storeVbar (context : ClearContext) (rows : List Pixel) : ClearContext :=
  let slot := context.vbarCursor
  { context with
    vbarStorage := some fun other y =>
      if other = slot ∧ y < rows.length then rows.getD y {} else context.vbar other y
    vbarLengths := some fun other =>
      if other = slot then rows.length else context.vbarLength other
    vbarCursor := if slot + 1 = clearVbarStorageEntries then 0 else slot + 1
    trace := context.trace ++ [.stored slot rows] }

/-- `rdp_clearcodec_store_short_vbar`, with `rdp_clearcodec_advance_short_vbar_cursor`. -/
def storeShortVbar (context : ClearContext) (rows : List Pixel) : ClearContext :=
  let slot := context.shortVbarCursor
  { context with
    shortVbarStorage := some fun other y =>
      if other = slot ∧ y < rows.length then rows.getD y {} else context.shortVbar other y
    shortVbarLengths := some fun other =>
      if other = slot then rows.length else context.shortVbarLength other
    shortVbarCursor := if slot + 1 = clearShortVbarStorageEntries then 0 else slot + 1 }

end ClearContext

/-! ## Memory -/

/-- What the allocations of a call come to, and what stands in memory behind the data of a region.
    The allocations of the copy are counted: four storages, four planes and the glyphs. A region is
    known by the bytes that are left at its beginning. -/
structure ClearMemory where
  clone : Nat → Bool := fun _ => true
  output : Bool := true
  bands : Nat → Bool := fun _ => true
  planes : Nat → NscodecMemory := fun _ => {}
  behind : Nat → Nat → UInt8 := fun _ _ => 0
  glyph : Bool := true
  copy : Bool := true

/-- `rdp_clearcodec_clone_bytes`. -/
def clearCloneBytes (memory : Bool) (source : Option α) : Attempt (Option α) :=
  match source with
  | none => pure none
  | some bytes => if memory then pure (some bytes) else refuse .noMemory

/-- A plane of `rdp_clearcodec_clone_nscodec`. -/
def clearClonePlane (memory : Bool) (capacity : Nat) (source : Option Bytes) :
    Attempt (Option Bytes) :=
  if !memory then refuse .noMemory
  else
    match source with
    | none => pure (some (List.replicate capacity 0))
    | some plane => pure (some (plane.take capacity))

/-- `rdp_clearcodec_clone_nscodec`. -/
def clearCloneNscodec (memory : Nat → Bool) (source : NscodecContext) : Attempt NscodecContext :=
  if source.planeCapacity = 0 then pure {}
  else do
    let luma ← clearClonePlane (memory 4) source.planeCapacity source.luma
    let orangeChroma ← clearClonePlane (memory 5) source.planeCapacity source.orangeChroma
    let greenChroma ← clearClonePlane (memory 6) source.planeCapacity source.greenChroma
    let alpha ← clearClonePlane (memory 7) source.planeCapacity source.alpha
    pure { luma, orangeChroma, greenChroma, alpha, planeCapacity := source.planeCapacity }

/-- The glyphs of `rdp_clearcodec_context_clone`. -/
def clearCloneGlyphs (memory : Nat → Bool) (source : Nat → ClearGlyph) :
    Attempt (Nat → ClearGlyph) :=
  if (List.range clearGlyphStorageEntries).any fun i =>
      decide (0 < (source i).pixels.length) && !memory (8 + i) then
    refuse .noMemory
  else
    pure fun i =>
      { pixelCount := (source i).pixelCount
        pixels := if 0 < (source i).pixels.length then (source i).pixels else [] }

/-- `rdp_clearcodec_context_clone`. -/
def clearContextClone (memory : Nat → Bool) (source : ClearContext) : Attempt ClearContext := do
  let vbarStorage ← clearCloneBytes (memory 0) source.vbarStorage
  let shortVbarStorage ← clearCloneBytes (memory 1) source.shortVbarStorage
  let vbarLengths ← clearCloneBytes (memory 2) source.vbarLengths
  let shortVbarLengths ← clearCloneBytes (memory 3) source.shortVbarLengths
  let nscodec ← clearCloneNscodec memory source.nscodec
  let glyphs ← clearCloneGlyphs memory source.glyphs
  pure { vbarStorage, shortVbarStorage, vbarLengths, shortVbarLengths, nscodec, glyphs
         vbarCursor := source.vbarCursor, shortVbarCursor := source.shortVbarCursor
         trace := source.trace }

/-! ## Work -/

structure ClearWork where
  context : ClearContext := {}
  output : Memory Pixel := Memory.filled 0 {}

abbrev ClearEffect := Effect Stop ClearWork

namespace ClearWork

def change (next : ClearContext → ClearContext) : ClearEffect Unit :=
  Effect.modify fun work => { work with context := next work.context }

def put (index : Nat) (pixel : Pixel) : ClearEffect Unit := do
  let work ← Effect.get
  let output ← Effect.lift (storePixel work.output index pixel)
  Effect.modify fun work => { work with output }

end ClearWork

def clearRefuse (status : Status) : ClearEffect α := Effect.stop (.returned status)

def clearByteAt (data : Bytes) (offset : Nat) : Attempt UInt8 :=
  match data[offset]? with
  | some byte => .ok byte
  | none => .error (.fault .outOfBounds)

/-! ## The residual -/

/-- `rdp_clearcodec_read_run_length`. -/
def clearReadRunLength (stream : Bytes) : Attempt (Nat × Bytes) := do
  let (factor1, stream) ← readU8 stream
  if factor1 < 0xff then pure (factor1.toNat, stream)
  else do
    let (factor2, stream) ← readU16Le stream
    if factor2 = 0 then refuse .protocolError
    else if factor2 < 0xffff then pure (factor2.toNat, stream)
    else do
      let (run, stream) ← readU32Le stream
      pure (run.toNat, stream)

/-- One run of `rdp_clearcodec_decode_residual`: its colour and its length. -/
def clearReadResidual (stream : Bytes) : Attempt ((Pixel × Nat) × Bytes) := do
  let (b, stream) ← readU8 stream
  let (g, stream) ← readU8 stream
  let (r, stream) ← readU8 stream
  let (run, stream) ← clearReadRunLength stream
  pure (({ b, g, r, a := 0xff }, run), stream)

/-- The loop of `rdp_clearcodec_decode_residual`: the offset behind the last run. -/
def clearResidualLoop (width pixelCount : Nat) : Nat → Nat → Bytes → ClearEffect Nat
  | _, offset, [] => pure offset
  | 0, _, _ :: _ => Effect.stop (.fault .outOfFuel)
  | fuel + 1, offset, stream => do
      let ((pixel, run), stream) ← Effect.lift (clearReadResidual stream)
      let left ← Effect.lift (clearSub pixelCount offset)
      if run > left then clearRefuse .protocolError
      else do
        (List.range run).forM fun i =>
          ClearWork.put ((offset + i) / width * width + (offset + i) % width) pixel
        clearResidualLoop width pixelCount fuel (offset + run) stream

/-- `rdp_clearcodec_decode_residual`. -/
def clearDecodeResidual (data : Bytes) (width height : Nat) : ClearEffect Unit :=
  if width = 0 ∨ height = 0 then clearRefuse .invalidArgument
  else do
    let offset ← clearResidualLoop width (width * height) data.length 0 data
    if offset ≠ width * height then clearRefuse .protocolError else pure ()

/-! ## Bands -/

/-- `rdp_clearcodec_band`. -/
structure ClearBand where
  xStart : UInt16
  xEnd : UInt16
  yStart : UInt16
  yEnd : UInt16
  b : UInt8
  g : UInt8
  r : UInt8
  deriving Repr, DecidableEq

def ClearBand.height (band : ClearBand) : Nat := band.yEnd.toNat - band.yStart.toNat + 1

/-- `rdp_clearcodec_read_band`. -/
def clearReadBand (stream : Bytes) : Attempt (ClearBand × Bytes) := do
  let (xStart, stream) ← readU16Le stream
  let (xEnd, stream) ← readU16Le stream
  let (yStart, stream) ← readU16Le stream
  let (yEnd, stream) ← readU16Le stream
  let (b, stream) ← readU8 stream
  let (g, stream) ← readU8 stream
  let (r, stream) ← readU8 stream
  let band : ClearBand := { xStart, xEnd, yStart, yEnd, b, g, r }
  if band.xEnd < band.xStart ∨ band.yEnd < band.yStart then refuse .protocolError
  else do
    let high ← clearSub band.yEnd.toNat band.yStart.toNat
    if high + 1 > clearMaxBandHeight then refuse .protocolError else pure (band, stream)

/-- `rdp_clearcodec_fill_vbar`. -/
def clearFillVbar (band : ClearBand) (yOn : Nat) (shortPixels : Nat → Pixel) (shortCount height : Nat) :
    Attempt (List Pixel) := do
  let yOn := min yOn height
  let left ← clearSub height yOn
  let shortCount := min shortCount left
  pure ((List.range height).map fun y =>
    if yOn ≤ y ∧ y < yOn + shortCount then { shortPixels (y - yOn) with a := 0xff }
    else { b := band.b, g := band.g, r := band.r, a := 0xff })

/-- `rdp_clearcodec_copy_vbar_to_pixels`. -/
def clearCopyVbarToPixels (vbar : Nat → Pixel) (x yStart height width : Nat) : ClearEffect Unit :=
  (List.range height).forM fun y => ClearWork.put ((yStart + y) * width + x) (vbar y)

def clearColumn (output : Memory Pixel) (x yStart height width : Nat) : List Pixel :=
  (List.range height).map fun y => output.cell ((yStart + y) * width + x)

/-- The hit of `rdp_clearcodec_decode_band_vbar`. -/
def clearVbarHit (index x yStart height width : Nat) : ClearEffect Unit := do
  let work ← Effect.get
  Effect.lift (work.context.vbarRows index height)
  ClearWork.change (·.normalizeVbar index height)
  let work ← Effect.get
  clearCopyVbarToPixels (work.context.vbar index) x yStart height width
  let work ← Effect.get
  ClearWork.change fun context => { context with
    trace := context.trace ++ [.hit index height (clearColumn work.output x yStart height width)] }

/-- A bar of `rdp_clearcodec_decode_band_vbar` that is stored and copied. -/
def clearVbarStore (rows : List Pixel) (x yStart width : Nat) : ClearEffect Unit := do
  let work ← Effect.get
  Effect.lift (work.context.vbarRows work.context.vbarCursor rows.length)
  ClearWork.change (·.storeVbar rows)
  clearCopyVbarToPixels (rows.getD · {}) x yStart rows.length width

def clearShortPixels (data : Bytes) (count : Nat) : List Pixel :=
  (List.range count).map fun i =>
    { b := data.getD (i * 3) 0, g := data.getD (i * 3 + 1) 0, r := data.getD (i * 3 + 2) 0, a := 0xff }

/-- `rdp_clearcodec_decode_band_vbar`. -/
def clearDecodeBandVbar (band : ClearBand) (x : UInt16) (bandHeight width : Nat) (stream : Bytes) :
    ClearEffect Bytes := do
  let (header, stream) ← Effect.lift (readU16Le stream)
  if header &&& 0x8000 ≠ 0 then do
    clearVbarHit (header &&& 0x7fff).toNat x.toNat band.yStart.toNat bandHeight width
    pure stream
  else if header &&& 0xc000 = 0x4000 then do
    let index := (header &&& 0x3fff).toNat
    let (yOn, stream) ← Effect.lift (readU8 stream)
    let work ← Effect.get
    let yOn := min yOn.toNat bandHeight
    let left ← Effect.lift (clearSub bandHeight yOn)
    let shortCount := min (work.context.shortVbarLength index) left
    Effect.lift (work.context.shortVbarRows index shortCount)
    let rows ← Effect.lift
      (clearFillVbar band yOn (work.context.shortVbar index) shortCount bandHeight)
    clearVbarStore rows x.toNat band.yStart.toNat width
    pure stream
  else if header &&& 0xc000 = 0 then do
    let yOn := (header &&& 0xff).toNat
    let yOff := ((header >>> 8) &&& 0x3f).toNat
    if yOff < yOn ∨ yOff > bandHeight then clearRefuse .protocolError
    else do
      let shortCount ← Effect.lift (clearSub yOff yOn)
      let (shortPixels, stream) ← Effect.lift (readBytes stream (shortCount * 3))
      let converted := clearShortPixels shortPixels shortCount
      let work ← Effect.get
      Effect.lift (work.context.shortVbarRows work.context.shortVbarCursor shortCount)
      ClearWork.change (·.storeShortVbar converted)
      let rows ← Effect.lift (clearFillVbar band yOn (converted.getD · {}) shortCount bandHeight)
      clearVbarStore rows x.toNat band.yStart.toNat width
      pure stream
  else clearRefuse .protocolError

/-- The loop of `rdp_clearcodec_decode_bands` over the columns of a band. -/
def clearColumnsLoop (band : ClearBand) (bandHeight width : Nat) :
    Nat → UInt16 → Bytes → ClearEffect Bytes
  | 0, _, _ => Effect.stop (.fault .outOfFuel)
  | fuel + 1, x, stream =>
      if x ≤ band.xEnd then do
        let stream ← clearDecodeBandVbar band x bandHeight width stream
        clearColumnsLoop band bandHeight width fuel (x + 1) stream
      else pure stream

/-- The loop of `rdp_clearcodec_decode_bands` over the bands. -/
def clearBandsLoop (width height : Nat) : Nat → Bytes → ClearEffect Unit
  | _, [] => pure ()
  | 0, _ :: _ => Effect.stop (.fault .outOfFuel)
  | fuel + 1, stream => do
      let (band, stream) ← Effect.lift (clearReadBand stream)
      if band.xEnd.toNat ≥ width ∨ band.yEnd.toNat ≥ height then clearRefuse .protocolError
      else do
        let stream ← clearColumnsLoop band band.height width (2 ^ 16) band.xStart stream
        clearBandsLoop width height fuel stream

/-- One storage of `rdp_clearcodec_context_ensure_bands`. -/
def clearEnsure (memory : Bool) (missing : ClearContext → Bool)
    (allocate : ClearContext → ClearContext) : ClearEffect Unit := do
  let work ← Effect.get
  if missing work.context then
    if memory then ClearWork.change allocate else clearRefuse .noMemory
  else pure ()

/-- `rdp_clearcodec_context_ensure_bands`. -/
def clearEnsureBands (memory : Nat → Bool) : ClearEffect Unit := do
  clearEnsure (memory 0) (·.vbarStorage.isNone) fun context =>
    { context with vbarStorage := some fun _ _ => {} }
  clearEnsure (memory 1) (·.shortVbarStorage.isNone) fun context =>
    { context with shortVbarStorage := some fun _ _ => {} }
  clearEnsure (memory 2) (·.vbarLengths.isNone) fun context =>
    { context with vbarLengths := some fun _ => 0 }
  clearEnsure (memory 3) (·.shortVbarLengths.isNone) fun context =>
    { context with shortVbarLengths := some fun _ => 0 }

/-- `rdp_clearcodec_decode_bands`. -/
def clearDecodeBands (memory : Nat → Bool) (data : Bytes) (width height : Nat) : ClearEffect Unit := do
  clearEnsureBands memory
  clearBandsLoop width height data.length data

/-! ## Regions -/

/-- `rdp_clearcodec_subcodec`. -/
structure ClearSubcodec where
  x : Nat
  y : Nat
  width : Nat
  height : Nat
  subcodecId : UInt8
  bitmapData : Bytes
  deriving Repr, DecidableEq

/-- `rdp_clearcodec_parse_subcodec`, and what lies behind it. -/
def clearParseSubcodec (data : Bytes) : Attempt (ClearSubcodec × Bytes) :=
  if data.length < 13 then refuse .invalidArgument
  else do
    let (x, stream) ← readU16Le data
    let (y, stream) ← readU16Le stream
    let (width, stream) ← readU16Le stream
    let (height, stream) ← readU16Le stream
    let (bitmapDataLen, stream) ← readU32Le stream
    let (subcodecId, stream) ← readU8 stream
    if width = 0 ∨ height = 0 ∨ stream.length < bitmapDataLen.toNat then refuse .protocolError
    else do
      let (bitmapData, stream) ← readBytes stream bitmapDataLen.toNat
      pure ({ x := x.toNat, y := y.toNat, width := width.toNat, height := height.toNat
              subcodecId, bitmapData }, stream)

def ClearSubcodec.fits (subcodec : ClearSubcodec) (width height : Nat) : Attempt Bool :=
  if subcodec.width = 0 ∨ subcodec.height = 0 then pure false
  else regionFits subcodec.x subcodec.y subcodec.width subcodec.height width height

/-- A pixel of raw data; what stands in memory behind the data is read where it ends. -/
def clearRawPixel (behind : Nat → UInt8) (data : Bytes) (source : Nat) : Pixel :=
  let byte (offset : Nat) := data.getD offset (behind (offset - data.length))
  { b := byte source, g := byte (source + 1), r := byte (source + 2), a := 0xff }

/-- `rdp_clearcodec_apply_raw_subcodec`. The length that the data should have is computed in 32 bits,
    so that a region of 2^32 bytes or more passes with less data than it has pixels. -/
def clearApplyRawSubcodec (behind : Nat → UInt8) (subcodec : ClearSubcodec) (width height : Nat) :
    ClearEffect Unit := do
  let fits ← Effect.lift (subcodec.fits width height)
  if !fits then clearRefuse .protocolError
  else if subcodec.bitmapData.length ≠ subcodec.width * subcodec.height * 3 % 2 ^ 32 then
    clearRefuse .protocolError
  else
    (List.range subcodec.height).forM fun row => (List.range subcodec.width).forM fun column =>
      ClearWork.put ((subcodec.y + row) * width + subcodec.x + column)
        (clearRawPixel behind subcodec.bitmapData (row * subcodec.width * 3 + column * 3))

/-- `rdp_clearcodec_decode_nsc_subcodec`. -/
def clearDecodeNscSubcodec (memory : NscodecMemory) (subcodec : ClearSubcodec) (width height : Nat) :
    ClearEffect Unit := do
  let fits ← Effect.lift (subcodec.fits width height)
  if !fits then clearRefuse .protocolError
  else
    Effect.zoom (fun work => { context := work.context.nscodec, dest := work.output })
      (fun work frame => { context := { work.context with nscodec := frame.context }
                           output := frame.dest })
      (nscodecDecodeRegion memory subcodec.bitmapData subcodec.width subcodec.height width subcodec.x
        subcodec.y width height)

/-- `rdp_clearcodec_low_mask` and `rdp_clearcodec_log2_floor_u8`. -/
def clearLowMask (bits : Nat) : Nat := if bits ≥ 8 then 0xff else 2 ^ bits - 1

def clearLog2FloorU8 (value : Nat) : Nat := Nat.log2 value

/-- `rdp_clearcodec_write_rlex_pixel`. -/
def clearWriteRlexPixel (subcodec : ClearSubcodec) (width pixelIndex : Nat) (color : Pixel) :
    ClearEffect Unit :=
  let x := pixelIndex % subcodec.width
  let y := pixelIndex / subcodec.width
  ClearWork.put ((subcodec.y + y) * width + subcodec.x + x) color

/-- The palette of `rdp_clearcodec_decode_rlex_subcodec`, which stands behind its count. -/
def clearRlexPalette (data : Bytes) (count : Nat) : Attempt (List Pixel) :=
  (List.range count).mapM fun i => do
    let b ← clearByteAt data (1 + i * 3)
    let g ← clearByteAt data (1 + i * 3 + 1)
    let r ← clearByteAt data (1 + i * 3 + 2)
    pure { b, g, r, a := 0xff }

def clearRlexRunLength (data : Bytes) (offset : Nat) : Attempt (Nat × Nat) := do
  let factor1 ← clearByteAt data offset
  let offset := offset + 1
  if factor1 < 0xff then pure (factor1.toNat, offset)
  else do
    let left ← clearSub data.length offset
    if left < 2 then refuse .protocolError
    else do
      let b0 ← clearByteAt data offset
      let b1 ← clearByteAt data (offset + 1)
      let offset := offset + 2
      if u16Le b0 b1 < 0xffff then pure (u16Le b0 b1, offset)
      else do
        let left ← clearSub data.length offset
        if left < 4 then refuse .protocolError
        else do
          let b0 ← clearByteAt data offset
          let b1 ← clearByteAt data (offset + 1)
          let b2 ← clearByteAt data (offset + 2)
          let b3 ← clearByteAt data (offset + 3)
          pure (u32Le b0 b1 b2 b3, offset + 4)

def clearPaletteColor (palette : List Pixel) (index : Nat) : Attempt Pixel :=
  match palette[index]? with
  | some color => .ok color
  | none => .error (.fault .outOfBounds)

/-- The loop of `rdp_clearcodec_decode_rlex_subcodec`: the pixels that were written. -/
def clearRlexLoop (subcodec : ClearSubcodec) (palette : List Pixel) (width pixelCount : Nat) :
    Nat → Nat → Nat → ClearEffect Nat
  | fuel, offset, pixelIndex =>
      let data := subcodec.bitmapData
      if offset ≥ data.length then pure pixelIndex
      else
        match fuel with
        | 0 => Effect.stop (.fault .outOfFuel)
        | fuel + 1 => do
            let left ← Effect.lift (clearSub data.length offset)
            if left < 2 then clearRefuse .protocolError
            else do
              let token ← Effect.lift (clearByteAt data offset)
              let (run, offset) ← Effect.lift (clearRlexRunLength data (offset + 1))
              let indexBits := clearLog2FloorU8 (palette.length - 1) + 1
              let suiteDepth := token.toNat / 2 ^ indexBits &&& clearLowMask (8 - indexBits)
              let stopIndex := token.toNat &&& clearLowMask indexBits
              if suiteDepth > stopIndex then clearRefuse .protocolError
              else do
                let startIndex ← Effect.lift (clearSub stopIndex suiteDepth)
                if startIndex ≥ palette.length ∨ stopIndex ≥ palette.length then
                  clearRefuse .protocolError
                else do
                  let left ← Effect.lift (clearSub pixelCount pixelIndex)
                  if run > left then clearRefuse .protocolError
                  else do
                    let color ← Effect.lift (clearPaletteColor palette startIndex)
                    (List.range run).forM fun i =>
                      clearWriteRlexPixel subcodec width (pixelIndex + i) color
                    let pixelIndex := pixelIndex + run
                    let left ← Effect.lift (clearSub pixelCount pixelIndex)
                    if suiteDepth + 1 > left then clearRefuse .protocolError
                    else do
                      (List.range (suiteDepth + 1)).forM fun i =>
                        if startIndex + i ≥ palette.length then clearRefuse .protocolError
                        else do
                          let color ← Effect.lift (clearPaletteColor palette (startIndex + i))
                          clearWriteRlexPixel subcodec width (pixelIndex + i) color
                      clearRlexLoop subcodec palette width pixelCount fuel offset
                        (pixelIndex + suiteDepth + 1)

/-- `rdp_clearcodec_decode_rlex_subcodec`. -/
def clearDecodeRlexSubcodec (subcodec : ClearSubcodec) (width height : Nat) : ClearEffect Unit := do
  let fits ← Effect.lift (subcodec.fits width height)
  if !fits then clearRefuse .protocolError
  else if subcodec.bitmapData.length < 1 then clearRefuse .protocolError
  else do
    let paletteCount ← Effect.lift (clearByteAt subcodec.bitmapData 0)
    if paletteCount = 0 ∨ paletteCount > 127 ∨
        subcodec.bitmapData.length < 1 + paletteCount.toNat * 3 then
      clearRefuse .protocolError
    else do
      let palette ← Effect.lift (clearRlexPalette subcodec.bitmapData paletteCount.toNat)
      let pixelCount := subcodec.width * subcodec.height
      let pixelIndex ← clearRlexLoop subcodec palette width pixelCount subcodec.bitmapData.length
        (1 + paletteCount.toNat * 3) 0
      if pixelIndex ≠ pixelCount then clearRefuse .protocolError else pure ()

/-- One region of `rdp_clearcodec_decode_subcodecs`. -/
def clearDecodeSubcodec (memory : NscodecMemory) (behind : Nat → UInt8) (subcodec : ClearSubcodec)
    (width height : Nat) : ClearEffect Unit :=
  if subcodec.subcodecId = 0x00 then clearApplyRawSubcodec behind subcodec width height
  else if subcodec.subcodecId = 0x01 then clearDecodeNscSubcodec memory subcodec width height
  else if subcodec.subcodecId = 0x02 then clearDecodeRlexSubcodec subcodec width height
  else clearRefuse .protocolError

/-- The loop of `rdp_clearcodec_decode_subcodecs`. -/
def clearSubcodecsLoop (memory : Nat → NscodecMemory) (behind : Nat → Nat → UInt8)
    (width height : Nat) : Nat → Bytes → ClearEffect Unit
  | _, [] => pure ()
  | 0, _ :: _ => Effect.stop (.fault .outOfFuel)
  | fuel + 1, data => do
      let (subcodec, rest) ← Effect.lift (clearParseSubcodec data)
      clearDecodeSubcodec (memory data.length) (behind data.length) subcodec width height
      clearSubcodecsLoop memory behind width height fuel rest

/-- `rdp_clearcodec_decode_subcodecs`. -/
def clearDecodeSubcodecs (memory : Nat → NscodecMemory) (behind : Nat → Nat → UInt8) (data : Bytes)
    (width height : Nat) : ClearEffect Unit :=
  clearSubcodecsLoop memory behind width height data.length data

/-! ## Bitmaps -/

/-- `rdp_clearcodec_stream`. -/
structure ClearStream where
  flags : UInt8
  seqNumber : UInt8
  glyphIndex : Option UInt16
  payload : Bytes
  deriving Repr, DecidableEq

def ClearStream.has (stream : ClearStream) (flag : UInt8) : Bool := stream.flags &&& flag ≠ 0

/-- The glyph index of `rdp_clearcodec_parse_stream`. -/
def clearReadGlyphIndex (flags : UInt8) (input : Bytes) : Attempt (Option UInt16 × Bytes) :=
  if flags &&& clearFlagGlyphIndex ≠ 0 then do
    let (index, input) ← readU16Le input
    if index.toNat ≥ clearGlyphStorageEntries then refuse .protocolError
    else pure (some index, input)
  else pure (none, input)

/-- `rdp_clearcodec_parse_stream`. -/
def clearParseStream (data : Bytes) : Attempt ClearStream :=
  if data.length < 2 then refuse .invalidArgument
  else do
    let (flags, input) ← readU8 data
    let (seqNumber, input) ← readU8 input
    if flags &&& ~~~(clearFlagGlyphIndex ||| clearFlagGlyphHit ||| clearFlagCacheReset) ≠ 0 then
      refuse .protocolError
    else if flags &&& clearFlagGlyphHit ≠ 0 ∧ flags &&& clearFlagGlyphIndex = 0 then
      refuse .protocolError
    else do
      let (glyphIndex, input) ← clearReadGlyphIndex flags input
      if flags &&& clearFlagGlyphHit ≠ 0 ∧ input.length ≠ 0 then refuse .protocolError
      else pure { flags, seqNumber, glyphIndex, payload := input }

/-- `rdp_clearcodec_composite_payload`. -/
structure ClearPayload where
  residual : Bytes
  bands : Bytes
  subcodec : Bytes
  deriving Repr, DecidableEq

/-- `rdp_clearcodec_parse_composite_payload`. -/
def clearParseCompositePayload (data : Bytes) : Attempt ClearPayload :=
  if data.length < 12 then refuse .invalidArgument
  else do
    let (residualLen, stream) ← readU32Le data
    let (bandsLen, stream) ← readU32Le stream
    let (subcodecLen, stream) ← readU32Le stream
    if 12 + residualLen.toNat + bandsLen.toNat + subcodecLen.toNat ≠ data.length then
      refuse .protocolError
    else do
      let (residual, stream) ← readBytes stream residualLen.toNat
      let (bands, stream) ← readBytes stream bandsLen.toNat
      let (subcodec, _) ← readBytes stream subcodecLen.toNat
      pure { residual, bands, subcodec }

def clearOutputBytes (output : Memory Pixel) : Bytes :=
  (output.window 0 output.size).flatMap Pixel.bytes

/-- `rdp_clearcodec_store_glyph`. -/
def clearStoreGlyph (memory : Bool) (glyphIndex width height : Nat) : ClearEffect Unit :=
  if glyphIndex ≥ clearGlyphStorageEntries then clearRefuse .invalidArgument
  else if !memory then clearRefuse .noMemory
  else do
    let work ← Effect.get
    let glyph : ClearGlyph :=
      { pixelCount := width * height, pixels := clearOutputBytes work.output }
    ClearWork.change fun context => { context with
      glyphs := fun i => if i = glyphIndex then glyph else context.glyphs i }

def clearLayer (data : Bytes) (layer : Bytes → ClearEffect Unit) : ClearEffect Unit :=
  if data.length > 0 then layer data else pure ()

/-- What `rdp_clearcodec_decode_bitmap` does to its copy of the context: an optional reset, the three
    layers and the glyph. -/
def clearCompose (memory : ClearMemory) (stream : ClearStream) (payload : ClearPayload)
    (width height : Nat) : ClearEffect Unit := do
  ClearWork.change fun context =>
    if stream.has clearFlagCacheReset then context.reset else context
  if height > sizeMax / (width * 4) ∨ !memory.output then clearRefuse .noMemory
  else do
    Effect.modify fun work => { work with output := Memory.filled (width * height) {} }
    clearLayer payload.residual fun residual => clearDecodeResidual residual width height
    clearLayer payload.bands fun bands => clearDecodeBands memory.bands bands width height
    clearLayer payload.subcodec fun subcodec =>
      clearDecodeSubcodecs memory.planes memory.behind subcodec width height
    match stream.glyphIndex with
    | some glyphIndex => clearStoreGlyph memory.glyph glyphIndex.toNat width height
    | none => pure ()

structure ClearFrame where
  context : ClearContext
  pixels : Bytes
  stride : Nat
  work : ClearWork := {}

/-- `rdp_clearcodec_copy_glyph`. -/
def clearCopyGlyph (memory : Bool) (glyph : ClearGlyph) (width height : Nat) :
    Effect Stop ClearFrame Unit :=
  if width = 0 ∨ height = 0 then Effect.stop (.returned .invalidArgument)
  else if width > sizeMax / height ∨ width * height > sizeMax / 4 then
    Effect.stop (.returned .protocolError)
  else if glyph.pixelCount < width * height ∨ glyph.pixels.length < width * height * 4 then
    Effect.stop (.returned .protocolError)
  else if !memory then Effect.stop (.returned .noMemory)
  else
    Effect.modify fun frame => { frame with
      pixels := glyph.pixels.take (width * height * 4), stride := width * 4 }

/-- `rdp_clearcodec_decode_bitmap`. -/
def clearDecodeBitmap (memory : ClearMemory) (data : Bytes) (width height : Nat) :
    Effect Stop ClearFrame Unit :=
  if width = 0 ∨ height = 0 then Effect.stop (.returned .invalidArgument)
  else do
    let stream ← Effect.lift (clearParseStream data)
    let frame ← Effect.get
    if stream.has clearFlagGlyphHit then
      let glyphIndex := (stream.glyphIndex.getD 0).toNat
      if !stream.has clearFlagCacheReset then
        clearCopyGlyph memory.copy (frame.context.glyphs glyphIndex) width height
      else do
        let work ← Effect.lift (clearContextClone memory.clone frame.context)
        Effect.modify fun frame => { frame with work := { context := work.reset } }
        clearCopyGlyph memory.copy (work.reset.glyphs glyphIndex) width height
        Effect.modify fun frame => { frame with context := frame.work.context }
    else if stream.payload.length = 0 then Effect.stop (.returned .protocolError)
    else do
      let payload ← Effect.lift (clearParseCompositePayload stream.payload)
      let work ← Effect.lift (clearContextClone memory.clone frame.context)
      Effect.modify fun frame => { frame with work := { context := work } }
      Effect.zoom ClearFrame.work (fun frame work => { frame with work })
        (clearCompose memory stream payload width height)
      Effect.modify fun frame => { frame with
        context := frame.work.context
        pixels := clearOutputBytes frame.work.output
        stride := width * 4 }

/-! ## Runs -/

inductive ClearInput where
  | decode (memory : ClearMemory) (data : Bytes) (width height : UInt16) (pixels : Bytes)
      (stride : Nat)
  | reset

structure ClearAnswer where
  status : Status
  pixels : Bytes
  stride : Nat
  deriving Repr, DecidableEq

def ClearAnswer.of (status : Status) (frame : ClearFrame) : ClearAnswer :=
  { status, pixels := frame.pixels, stride := frame.stride }

def clearStep (context : ClearContext) : ClearInput → Exec (Option ClearAnswer × ClearContext)
  | .reset => .ok (none, context.reset)
  | .decode memory data width height pixels stride =>
      match clearDecodeBitmap memory data width.toNat height.toNat { context, pixels, stride } with
      | (.ok (), frame) => .ok (some (.of .ok frame), frame.context)
      | (.error (.returned status), frame) => .ok (some (.of status frame), frame.context)
      | (.error (.fault fault), _) => .error fault

end LibRdp.Graphics
