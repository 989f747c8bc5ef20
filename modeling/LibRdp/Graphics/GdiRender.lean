import LibRdp.Graphics.GdiOrders

/-! # Decoding primary drawing orders

The decoder keeps the last fields of every order type. An order names its type unless it is
that of the order before, says which fields and bounds it sends, and is decoded into the
state only if all of it is sound.
-/

namespace LibRdp.Graphics

/-- `rdp_gdi_render_state`. -/
structure RenderState where
  currentOrderType : OrderType
  bounds : RenderEdges
  dst : BltFields
  fill : OpaqueFields
  scr : ScrFields
  pat : BltFields
  patBrush : Brush
  line : LineFields
  polyline : PolylineFields
  polygon : PolygonFields
  polygonColor : Color
  ellipse : EllipseFields
  ellipseColor : Color
  multiDst : MultiDstFields
  multiScr : MultiScrFields
  multiOpaque : MultiOpaqueFields
  multiPat : MultiPatFields
  saveBitmap : SaveBitmapFields
  nine : NineFields
  multiNine : MultiNineFields
  mem : MemFields
  mem3 : Mem3Fields
  glyph : GlyphFields
  glyphOpaque : UInt8

/-- `rdp_gdi_render_state_init`. -/
def renderStateInit : RenderState where
  currentOrderType := .dstblt
  bounds := {}
  dst := { rop := 0x00 }
  fill := {}
  scr := { rop := 0xcc }
  pat := { rop := 0xf0 }
  patBrush := {}
  line := { rop2 := 13, penWidth := 1 }
  polyline := { rop2 := 13 }
  polygon := { rop2 := 13, fillMode := 1 }
  polygonColor := {}
  ellipse := { rop2 := 13, fillMode := 1 }
  ellipseColor := {}
  multiDst := { rop := 0x00 }
  multiScr := { rop := 0xcc }
  multiOpaque := {}
  multiPat := {}
  saveBitmap := {}
  nine := {}
  multiNine := {}
  mem := {}
  mem3 := {}
  glyph := {}
  glyphOpaque := 0

abbrev Fields : OrderType → Type
  | .dstblt => BltFields
  | .patblt => Brushed BltFields
  | .scrblt => ScrFields
  | .drawNinegrid => NineFields
  | .multiDrawNinegrid => MultiNineFields
  | .lineto => LineFields
  | .opaqueRect => OpaqueFields
  | .saveBitmap => SaveBitmapFields
  | .memblt => MemFields
  | .mem3blt => Mem3Fields
  | .multiDstblt => MultiDstFields
  | .multiPatblt => MultiPatFields
  | .multiScrblt => MultiScrFields
  | .multiOpaqueRect => MultiOpaqueFields
  | .fastIndex => GlyphFields
  | .polygonSc => PolygonScFields
  | .polygonCb => Brushed PolygonFields
  | .polyline => PolylineFields
  | .fastGlyph => GlyphFields
  | .ellipseSc => EllipseScFields
  | .ellipseCb => Brushed EllipseFields
  | .glyphIndex => GlyphIndexFields

/-- The fields of the state that the decoder of an order type reads and writes. -/
def RenderState.fields (state : RenderState) : (type : OrderType) → Fields type
  | .dstblt => state.dst
  | .patblt => ⟨state.pat, state.patBrush⟩
  | .scrblt => state.scr
  | .drawNinegrid => state.nine
  | .multiDrawNinegrid => state.multiNine
  | .lineto => state.line
  | .opaqueRect => state.fill
  | .saveBitmap => state.saveBitmap
  | .memblt => state.mem
  | .mem3blt => state.mem3
  | .multiDstblt => state.multiDst
  | .multiPatblt => state.multiPat
  | .multiScrblt => state.multiScr
  | .multiOpaqueRect => state.multiOpaque
  | .fastIndex => state.glyph
  | .polygonSc => ⟨state.polygon, state.polygonColor⟩
  | .polygonCb => ⟨state.polygon, state.patBrush⟩
  | .polyline => state.polyline
  | .fastGlyph => state.glyph
  | .ellipseSc => ⟨state.ellipse, state.ellipseColor⟩
  | .ellipseCb => ⟨state.ellipse, state.patBrush⟩
  | .glyphIndex => ⟨state.glyph, state.glyphOpaque⟩

def RenderState.withFields (state : RenderState) : (type : OrderType) → Fields type → RenderState
  | .dstblt, dst => { state with dst }
  | .patblt, fields => { state with pat := fields.shape, patBrush := fields.brush }
  | .scrblt, scr => { state with scr }
  | .drawNinegrid, nine => { state with nine }
  | .multiDrawNinegrid, multiNine => { state with multiNine }
  | .lineto, line => { state with line }
  | .opaqueRect, fill => { state with fill }
  | .saveBitmap, saveBitmap => { state with saveBitmap }
  | .memblt, mem => { state with mem }
  | .mem3blt, mem3 => { state with mem3 }
  | .multiDstblt, multiDst => { state with multiDst }
  | .multiPatblt, multiPat => { state with multiPat }
  | .multiScrblt, multiScr => { state with multiScr }
  | .multiOpaqueRect, multiOpaque => { state with multiOpaque }
  | .fastIndex, glyph => { state with glyph }
  | .polygonSc, fields => { state with polygon := fields.polygon, polygonColor := fields.color }
  | .polygonCb, fields => { state with polygon := fields.shape, patBrush := fields.brush }
  | .polyline, polyline => { state with polyline }
  | .fastGlyph, glyph => { state with glyph }
  | .ellipseSc, fields => { state with ellipse := fields.ellipse, ellipseColor := fields.color }
  | .ellipseCb, fields => { state with ellipse := fields.shape, patBrush := fields.brush }
  | .glyphIndex, fields => { state with glyph := fields.glyph, glyphOpaque := fields.isOpaque }

def orderDecoder : (type : OrderType) → OrderDecoder (Fields type)
  | .dstblt => decodeDstblt
  | .patblt => decodePatblt
  | .scrblt => decodeScrblt
  | .drawNinegrid => decodeDrawNinegrid
  | .multiDrawNinegrid => decodeMultiDrawNinegrid
  | .lineto => decodeLine
  | .opaqueRect => decodeOpaqueRect
  | .saveBitmap => decodeSaveBitmap
  | .memblt => decodeMemblt
  | .mem3blt => decodeMem3blt
  | .multiDstblt => decodeMultiDstblt
  | .multiPatblt => decodeMultiPatblt
  | .multiScrblt => decodeMultiScrblt
  | .multiOpaqueRect => decodeMultiOpaqueRect
  | .fastIndex => decodeFastGlyphCommon false
  | .polygonSc => decodePolygonSc
  | .polygonCb => decodePolygonCb
  | .polyline => decodePolyline
  | .fastGlyph => decodeFastGlyphCommon true
  | .ellipseSc => decodeEllipseSc
  | .ellipseCb => decodeEllipseCb
  | .glyphIndex => decodeGlyphIndex

/-- The bits of the control byte, `RDP_GDI_TS_*`. -/
def tsStandard : UInt8 := 0x01
def tsSecondary : UInt8 := 0x02
def tsBounds : UInt8 := 0x04
def tsTypeChange : UInt8 := 0x08
def tsDeltaCoordinates : UInt8 := 0x10
def tsZeroBoundsDeltas : UInt8 := 0x20
def tsZeroFieldByteBit0 : UInt8 := 0x40
def tsZeroFieldByteBit1 : UInt8 := 0x80

/-- One edge in `rdp_gdi_render_read_bounds`: sent whole, as a delta, or not at all. -/
def readBoundsEdge (flags absolute delta : UInt8) (value : Int) (stream : Bytes) :
    Attempt (Int × Bytes) :=
  if flags &&& absolute ≠ 0 ∧ flags &&& delta ≠ 0 then refuse .protocolError
  else if flags &&& absolute ≠ 0 then readI16 stream
  else if flags &&& delta ≠ 0 then readCoord true value stream
  else pure (value, stream)

/-- `rdp_gdi_render_read_bounds`. -/
def readBounds (control : UInt8) (bounds : RenderEdges) (stream : Bytes) :
    Attempt (RenderEdges × Bytes) :=
  if control &&& tsZeroBoundsDeltas ≠ 0 then pure (bounds, stream)
  else do
    let (flags, stream) ← readU8 stream
    let (left, stream) ← readBoundsEdge flags 0x01 0x10 bounds.left stream
    let (top, stream) ← readBoundsEdge flags 0x02 0x20 bounds.top stream
    let (right, stream) ← readBoundsEdge flags 0x04 0x40 bounds.right stream
    let (bottom, stream) ← readBoundsEdge flags 0x08 0x80 bounds.bottom stream
    pure ({ left, top, right, bottom }, stream)

def readFieldFlags : Nat → Bytes → Attempt (Nat × Bytes)
  | 0, stream => pure (0, stream)
  | count + 1, stream => do
      let (byte, stream) ← readU8 stream
      let (rest, stream) ← readFieldFlags count stream
      pure (byte.toNat + 256 * rest, stream)

def readOrderType (control : UInt8) (state : RenderState) (stream : Bytes) :
    Attempt (OrderType × Bytes) :=
  if control &&& tsTypeChange = 0 then pure (state.currentOrderType, stream)
  else do
    let (code, stream) ← readU8 stream
    match OrderType.ofCode code with
    | none => refuse .protocolError
    | some type => pure (type, stream)

def RenderOpKind.upright : RenderOpKind → Bool
  | .dstblt | .scrblt | .patblt | .opaqueRect | .ellipseSc | .ellipseCb | .multiDstblt
  | .multiPatblt | .multiScrblt | .multiOpaqueRect | .memblt | .mem3blt | .saveBitmap => true
  | .line | .polyline | .polygonSc | .polygonCb | .drawNinegrid | .multiDrawNinegrid | .glyph => false

/-- The fields as they are stored, and the operation, once the fields were read. -/
def finishOrder (type : OrderType) (bounds : Option RenderEdges) (fields : Fields type) :
    Attempt (Fields type × RenderOp) := do
  let fields := (orderDecoder type).settle fields
  let op ← (orderDecoder type).render bounds fields
  if op.kind.upright ∧ (op.rect.width < 0 ∨ op.rect.height < 0) then refuse .protocolError
  else pure (fields, { op with orderType := type, bounds })

def zeroFieldBytes (control : UInt8) : Nat :=
  (if control &&& tsZeroFieldByteBit0 ≠ 0 then 1 else 0) +
    (if control &&& tsZeroFieldByteBit1 ≠ 0 then 2 else 0)

/-- The first part of `rdp_gdi_decode_primary_render_order`: the control byte, the order type and the
    field flags. -/
def readOrderHeader (state : RenderState) (data : Bytes) :
    Attempt ((UInt8 × OrderType × Nat) × Bytes) := do
  let (control, stream) ← readU8 data
  if control &&& tsStandard = 0 ∨ control &&& tsSecondary ≠ 0 then refuse .protocolError
  else do
    let (type, stream) ← readOrderType control state stream
    if zeroFieldBytes control > type.fieldBytes then refuse .protocolError
    else do
      let (flags, stream) ← readFieldFlags (type.fieldBytes - zeroFieldBytes control) stream
      pure ((control, type, flags), stream)

def readOrderBounds (control : UInt8) (state : RenderState) (stream : Bytes) :
    Attempt (RenderEdges × Bytes) :=
  if control &&& tsBounds ≠ 0 then readBounds control state.bounds stream
  else pure (state.bounds, stream)

def RenderState.after (state : RenderState) (type : OrderType) (bounds : RenderEdges)
    (fields : Fields type) : RenderState :=
  { state.withFields type fields with currentOrderType := type, bounds }

def decodeOrderBody (state : RenderState) (control : UInt8) (type : OrderType) (flags : Nat)
    (stream : Bytes) : Attempt (RenderOp × RenderState × Bytes) := do
  let (bounds, stream) ← readOrderBounds control state stream
  let (fields, stream) ← (orderDecoder type).layout.read
    (readField flags (control &&& tsDeltaCoordinates != 0)) (state.fields type) stream
  let (fields, op) ← finishOrder type
    (if control &&& tsBounds ≠ 0 then some bounds else none) fields
  pure (op, state.after type bounds fields, stream)

/-- `rdp_gdi_decode_primary_render_order`: the operation, the number of bytes that it took, and the
    state. -/
def decodePrimaryRenderOrder (state : RenderState) (data : Bytes) :
    Attempt (RenderOp × Nat × RenderState) := do
  let ((control, type, flags), stream) ← readOrderHeader state data
  let (op, state, stream) ← decodeOrderBody state control type flags stream
  pure (op, data.length - stream.length, state)

end LibRdp.Graphics
