import LibRdp.Graphics.GdiFields

/-! # The primary drawing orders

For each order type the fields that it has, in the order in which they are sent, and the
operation that they make.
-/

namespace LibRdp.Graphics

open Coding

/-- The primary orders, `RDP_GDI_ORDER_*`. -/
inductive OrderType where
  | dstblt
  | patblt
  | scrblt
  | drawNinegrid
  | multiDrawNinegrid
  | lineto
  | opaqueRect
  | saveBitmap
  | memblt
  | mem3blt
  | multiDstblt
  | multiPatblt
  | multiScrblt
  | multiOpaqueRect
  | fastIndex
  | polygonSc
  | polygonCb
  | polyline
  | fastGlyph
  | ellipseSc
  | ellipseCb
  | glyphIndex
  deriving Repr, DecidableEq

def OrderType.code : OrderType → UInt8
  | .dstblt => 0x00
  | .patblt => 0x01
  | .scrblt => 0x02
  | .drawNinegrid => 0x07
  | .multiDrawNinegrid => 0x08
  | .lineto => 0x09
  | .opaqueRect => 0x0a
  | .saveBitmap => 0x0b
  | .memblt => 0x0d
  | .mem3blt => 0x0e
  | .multiDstblt => 0x0f
  | .multiPatblt => 0x10
  | .multiScrblt => 0x11
  | .multiOpaqueRect => 0x12
  | .fastIndex => 0x13
  | .polygonSc => 0x14
  | .polygonCb => 0x15
  | .polyline => 0x16
  | .fastGlyph => 0x18
  | .ellipseSc => 0x19
  | .ellipseCb => 0x1a
  | .glyphIndex => 0x1b

def orderTypes : List OrderType :=
  [.dstblt, .patblt, .scrblt, .drawNinegrid, .multiDrawNinegrid, .lineto, .opaqueRect, .saveBitmap,
    .memblt, .mem3blt, .multiDstblt, .multiPatblt, .multiScrblt, .multiOpaqueRect, .fastIndex,
    .polygonSc, .polygonCb, .polyline, .fastGlyph, .ellipseSc, .ellipseCb, .glyphIndex]

def OrderType.ofCode (code : UInt8) : Option OrderType := orderTypes.find? (·.code == code)

/-- `rdp_gdi_primary_order_field_bytes`. -/
def OrderType.fieldBytes : OrderType → Nat
  | .dstblt | .scrblt | .drawNinegrid | .multiDrawNinegrid | .opaqueRect | .saveBitmap
  | .multiDstblt | .polygonSc | .polyline | .ellipseSc => 1
  | .patblt | .lineto | .memblt | .multiPatblt | .multiScrblt | .multiOpaqueRect | .fastIndex
  | .polygonCb | .fastGlyph | .ellipseCb => 2
  | .mem3blt | .glyphIndex => 3

/-- `rdp_gdi_render_op_kind`. -/
inductive RenderOpKind where
  | opaqueRect
  | dstblt
  | scrblt
  | patblt
  | line
  | polyline
  | polygonSc
  | ellipseSc
  | multiDstblt
  | multiScrblt
  | multiOpaqueRect
  | multiPatblt
  | saveBitmap
  | polygonCb
  | ellipseCb
  | memblt
  | mem3blt
  | drawNinegrid
  | multiDrawNinegrid
  | glyph
  deriving Repr, DecidableEq

/-- The `inline_glyph_*` fields of an operation. -/
structure InlineGlyph where
  cacheIndex : UInt8
  x : Int
  y : Int
  width : Nat
  height : Nat
  bitmap : Bytes
  deriving Repr, DecidableEq

/-- `rdp_gdi_render_op`; the dispatcher fills in the order type and the bounds. -/
structure RenderOp where
  kind : RenderOpKind
  orderType : OrderType := .dstblt
  rop : UInt8 := 0
  color : Color := {}
  backColor : Color := {}
  rect : RenderRect := {}
  srcX : Int := 0
  srcY : Int := 0
  endX : Int := 0
  endY : Int := 0
  penWidth : UInt8 := 0
  penStyle : UInt8 := 0
  brushX : Int := 0
  brushY : Int := 0
  brushStyle : UInt8 := 0
  brushHatch : UInt8 := 0
  brushExtra : Bytes := List.replicate 7 0
  transparentBackground : Bool := false
  bitmapId : UInt32 := 0
  operation : UInt8 := 0
  cacheId : UInt8 := 0
  colorIndex : UInt8 := 0
  cacheIndex : UInt16 := 0
  src : RenderEdges := {}
  fillMode : UInt8 := 0
  points : List RenderPoint := []
  rects : List RenderRect := []
  bounds : Option RenderEdges := none
  glyphFlags : UInt8 := 0
  glyphCharInc : UInt8 := 0
  glyphOpaque : Bool := false
  glyphBackRect : RenderRect := {}
  glyphX : Int := 0
  glyphY : Int := 0
  glyphData : Bytes := []
  inlineGlyph : Option InlineGlyph := none
  deriving Repr, DecidableEq

def RenderOp.brushed (op : RenderOp) (brush : Brush) : RenderOp :=
  { op with
    color := brush.foreColor, backColor := brush.backColor, brushX := brush.x, brushY := brush.y
    brushStyle := brush.style, brushHatch := brush.hatch, brushExtra := brush.extra }

def extent (first last : Int) : Int := int32 (int32 (last - first) + 1)

def RenderEdges.rect (edges : RenderEdges) : RenderRect :=
  { x := edges.left, y := edges.top, width := extent edges.left edges.right
    height := extent edges.top edges.bottom }

/-- `rdp_gdi_render_rect_from_bounds_or_source`. -/
def rectFromBoundsOrSource (bounds : Option RenderEdges) (src : RenderEdges) :
    Attempt RenderRect :=
  if src.right < src.left ∨ src.bottom < src.top then refuse .protocolError
  else
    match bounds with
    | none => pure src.rect
    | some bounds =>
        if bounds.right < bounds.left ∨ bounds.bottom < bounds.top then refuse .protocolError
        else pure bounds.rect

/-- `rdp_gdi_render_rect_from_edges`. -/
def rectFromEdges (edges : RenderEdges) : RenderRect :=
  { x := edges.left, y := edges.top
    width := if edges.right ≥ edges.left then extent edges.left edges.right else 0
    height := if edges.bottom ≥ edges.top then extent edges.top edges.bottom else 0 }

/-- The entries that count are copied into the operation, up to the size of its array. -/
def countedList (limit : Nat) (counted : Counted α) : Attempt (List α) :=
  if counted.count.toNat > limit then refuse .protocolError else pure counted.list

structure OrderDecoder (σ : Type) where
  layout : Layout RenderField σ
  settle : σ → σ := id
  render : Option RenderEdges → σ → Attempt RenderOp

structure BltFields where
  rect : RenderRect := {}
  rop : UInt8 := 0

def bltLayout : Layout RenderField BltFields :=
  .record (.both (rectLayout 0x01) (.one (.byte 0x10)))
    (fun (rect, rop) => { rect, rop }) (fun blt => (blt.rect, blt.rop))

/-- `rdp_gdi_render_decode_dstblt`. -/
def decodeDstblt : OrderDecoder BltFields where
  layout := bltLayout
  render _ dst := pure { kind := .dstblt, rop := dst.rop, rect := dst.rect }

structure OpaqueFields where
  rect : RenderRect := {}
  color : Color := {}

/-- `rdp_gdi_render_decode_opaque_rect`. -/
def decodeOpaqueRect : OrderDecoder OpaqueFields where
  layout := .record (.both (rectLayout 0x01) (.one (.color 0x10)))
    (fun (rect, color) => { rect, color }) (fun fill => (fill.rect, fill.color))
  render _ fill := pure { kind := .opaqueRect, color := fill.color, rect := fill.rect }

structure ScrFields where
  rect : RenderRect := {}
  rop : UInt8 := 0
  srcX : Int := 0
  srcY : Int := 0

/-- `rdp_gdi_render_decode_scrblt`. -/
def decodeScrblt : OrderDecoder ScrFields where
  layout := .record (.both (rectLayout 0x01) <| .both (.one (.byte 0x10)) <|
      .both (.one (.coord 0x20)) (.one (.coord 0x40)))
    (fun (rect, rop, srcX, srcY) => { rect, rop, srcX, srcY })
    (fun scr => (scr.rect, scr.rop, scr.srcX, scr.srcY))
  render _ scr := pure
    { kind := .scrblt, rop := scr.rop, rect := scr.rect, srcX := scr.srcX, srcY := scr.srcY }

/-- `rdp_gdi_render_decode_patblt`. -/
def decodePatblt : OrderDecoder (Brushed BltFields) where
  layout := brushedLayout bltLayout 0x0020 .empty Prod.fst (·, ()) (fun _ => rfl)
  render _ pat := pure
    (({ kind := .patblt, rop := pat.shape.rop, rect := pat.shape.rect } : RenderOp).brushed pat.brush)

structure MemFields where
  cacheId : UInt16 := 0
  rect : RenderRect := {}
  rop : UInt8 := 0
  srcX : Int := 0
  srcY : Int := 0
  cacheIndex : UInt16 := 0

/-- `rdp_gdi_render_split_cache_id`. -/
def splitCacheId (packed : UInt16) : UInt8 × UInt8 :=
  (UInt8.ofNat packed.toNat, UInt8.ofNat (packed.toNat / 256))

/-- `rdp_gdi_render_decode_memblt`. -/
def decodeMemblt : OrderDecoder MemFields where
  layout := .record (.both (.one (.word 0x0001)) <| .both (rectLayout 0x0002) <|
      .both (.one (.byte 0x0020)) <| .both (.one (.coord 0x0040)) <|
      .both (.one (.coord 0x0080)) (.one (.word 0x0100)))
    (fun (cacheId, rect, rop, srcX, srcY, cacheIndex) =>
      { cacheId, rect, rop, srcX, srcY, cacheIndex })
    (fun mem => (mem.cacheId, mem.rect, mem.rop, mem.srcX, mem.srcY, mem.cacheIndex))
  render _ mem := pure
    { kind := .memblt, rop := mem.rop, rect := mem.rect, srcX := mem.srcX, srcY := mem.srcY
      cacheIndex := mem.cacheIndex, cacheId := (splitCacheId mem.cacheId).1
      colorIndex := (splitCacheId mem.cacheId).2 }

structure Mem3Fields where
  mem : MemFields := {}
  brush : Brush := {}

/-- `rdp_gdi_render_decode_mem3blt`. -/
def decodeMem3blt : OrderDecoder Mem3Fields where
  layout := .record (.both (.one (.word 0x0001)) <| .both (rectLayout 0x0002) <|
      .both (.one (.byte 0x0020)) <| .both (.one (.coord 0x0040)) <|
      .both (.one (.coord 0x0080)) <| .both (brushLayout 0x0100) (.one (.word 0x8000)))
    (fun (cacheId, rect, rop, srcX, srcY, brush, cacheIndex) =>
      { mem := { cacheId, rect, rop, srcX, srcY, cacheIndex }, brush })
    (fun mem3 => (mem3.mem.cacheId, mem3.mem.rect, mem3.mem.rop, mem3.mem.srcX, mem3.mem.srcY,
      mem3.brush, mem3.mem.cacheIndex))
  render _ mem3 := pure
    (({ kind := .mem3blt, rop := mem3.mem.rop, rect := mem3.mem.rect, srcX := mem3.mem.srcX
        srcY := mem3.mem.srcY, cacheIndex := mem3.mem.cacheIndex
        cacheId := (splitCacheId mem3.mem.cacheId).1
        colorIndex := (splitCacheId mem3.mem.cacheId).2 } : RenderOp).brushed mem3.brush)

def noRects : Counted RenderRect := { entries := List.replicate maxRects {} }

def noPoints : Counted RenderPoint := { entries := List.replicate maxPoints {} }

structure MultiDstFields where
  rect : RenderRect := {}
  rop : UInt8 := 0
  rects : Counted RenderRect := noRects

/-- `rdp_gdi_render_decode_multi_dstblt`. -/
def decodeMultiDstblt : OrderDecoder MultiDstFields where
  layout := .record (.both (rectLayout 0x01) <| .both (.one (.byte 0x10)) (.one (.rects 0x20 0x40)))
    (fun (rect, rop, rects) => { rect, rop, rects })
    (fun dst => (dst.rect, dst.rop, dst.rects))
  render _ dst := do
    let rects ← countedList maxRects dst.rects
    pure { kind := .multiDstblt, rop := dst.rop, rect := dst.rect, rects }

structure MultiScrFields where
  rect : RenderRect := {}
  rop : UInt8 := 0
  srcX : Int := 0
  srcY : Int := 0
  rects : Counted RenderRect := noRects

/-- `rdp_gdi_render_decode_multi_scrblt`. -/
def decodeMultiScrblt : OrderDecoder MultiScrFields where
  layout := .record (.both (rectLayout 0x001) <| .both (.one (.byte 0x010)) <|
      .both (.one (.coord 0x020)) <| .both (.one (.coord 0x040)) (.one (.rects 0x080 0x100)))
    (fun (rect, rop, srcX, srcY, rects) => { rect, rop, srcX, srcY, rects })
    (fun scr => (scr.rect, scr.rop, scr.srcX, scr.srcY, scr.rects))
  render _ scr := do
    let rects ← countedList maxRects scr.rects
    pure { kind := .multiScrblt, rop := scr.rop, rect := scr.rect, srcX := scr.srcX
           srcY := scr.srcY, rects }

structure MultiPatFields where
  rect : RenderRect := {}
  rop : UInt8 := 0
  brush : Brush := {}
  rects : Counted RenderRect := noRects

/-- `rdp_gdi_render_decode_multi_patblt`. -/
def decodeMultiPatblt : OrderDecoder MultiPatFields where
  layout := .record (.both (rectLayout 0x0001) <| .both (.one (.byte 0x0010)) <|
      .both (brushLayout 0x0020) (.one (.rects 0x1000 0x2000)))
    (fun (rect, rop, brush, rects) => { rect, rop, brush, rects })
    (fun pat => (pat.rect, pat.rop, pat.brush, pat.rects))
  render _ pat := do
    let rects ← countedList maxRects pat.rects
    pure (({ kind := .multiPatblt, rop := pat.rop, rect := pat.rect, rects } : RenderOp).brushed
      pat.brush)

structure MultiOpaqueFields where
  rect : RenderRect := {}
  color : Color := {}
  rects : Counted RenderRect := noRects

/-- `rdp_gdi_render_decode_multi_opaque_rect`; the bytes of the colour are fields of their own. -/
def decodeMultiOpaqueRect : OrderDecoder MultiOpaqueFields where
  layout := .record (.both (rectLayout 0x001) <| .both (.one (.byte 0x010)) <|
      .both (.one (.byte 0x020)) <| .both (.one (.byte 0x040)) (.one (.rects 0x080 0x100)))
    (fun (rect, first, second, third, rects) => { rect, color := { first, second, third }, rects })
    (fun fill => (fill.rect, fill.color.first, fill.color.second, fill.color.third, fill.rects))
  render _ fill := do
    let rects ← countedList maxRects fill.rects
    pure { kind := .multiOpaqueRect, color := fill.color, rect := fill.rect, rects }

structure LineFields where
  backMode : UInt16 := 0
  startX : Int := 0
  startY : Int := 0
  endX : Int := 0
  endY : Int := 0
  backColor : Color := {}
  rop2 : UInt8 := 13
  penStyle : UInt8 := 0
  penWidth : UInt8 := 1
  penColor : Color := {}

/-- `rdp_gdi_render_decode_line`. -/
def decodeLine : OrderDecoder LineFields where
  layout := .record (.both (.one (.word 0x0001)) <| .both (.one (.coord 0x0002)) <|
      .both (.one (.coord 0x0004)) <| .both (.one (.coord 0x0008)) <|
      .both (.one (.coord 0x0010)) <| .both (.one (.color 0x0020)) <|
      .both (.one (.byte 0x0040)) <| .both (.one (.byte 0x0080)) <|
      .both (.one (.byte 0x0100)) (.one (.color 0x0200)))
    (fun (backMode, startX, startY, endX, endY, backColor, rop2, penStyle, penWidth, penColor) =>
      { backMode, startX, startY, endX, endY, backColor, rop2, penStyle, penWidth, penColor })
    (fun line => (line.backMode, line.startX, line.startY, line.endX, line.endY, line.backColor,
      line.rop2, line.penStyle, line.penWidth, line.penColor))
  render _ line :=
    if line.penStyle > 6 then refuse .protocolError
    else pure
      { kind := .line, rop := line.rop2, color := line.penColor
        rect := { x := line.startX, y := line.startY }, endX := line.endX, endY := line.endY
        penWidth := if line.penWidth = 0 then 1 else line.penWidth, penStyle := line.penStyle }

structure PolylineFields where
  startX : Int := 0
  startY : Int := 0
  rop2 : UInt8 := 13
  unused : UInt16 := 0
  penColor : Color := {}
  points : Counted RenderPoint := noPoints

/-- `rdp_gdi_render_decode_polyline`. -/
def decodePolyline : OrderDecoder PolylineFields where
  layout := .record (.both (.one (.coord 0x01)) <| .both (.one (.coord 0x02)) <|
      .both (.one (.byte 0x04)) <| .both (.one (.word 0x08)) <|
      .both (.one (.color 0x10)) (.one (.points 0x20 0x40)))
    (fun (startX, startY, rop2, unused, penColor, points) =>
      { startX, startY, rop2, unused, penColor, points })
    (fun poly => (poly.startX, poly.startY, poly.rop2, poly.unused, poly.penColor, poly.points))
  render _ poly := do
    let points ← countedList maxPoints poly.points
    pure { kind := .polyline, rop := poly.rop2, color := poly.penColor
           rect := { x := poly.startX, y := poly.startY }, points }

structure PolygonFields where
  startX : Int := 0
  startY : Int := 0
  rop2 : UInt8 := 13
  fillMode : UInt8 := 1
  points : Counted RenderPoint := noPoints

structure PolygonScFields where
  polygon : PolygonFields := {}
  color : Color := {}

/-- `rdp_gdi_render_decode_polygon_sc`. -/
def decodePolygonSc : OrderDecoder PolygonScFields where
  layout := .record (.both (.one (.coord 0x01)) <| .both (.one (.coord 0x02)) <|
      .both (.one (.byte 0x04)) <| .both (.one (.byte 0x08)) <|
      .both (.one (.color 0x10)) (.one (.points 0x20 0x40)))
    (fun (startX, startY, rop2, fillMode, color, points) =>
      { polygon := { startX, startY, rop2, fillMode, points }, color })
    (fun poly => (poly.polygon.startX, poly.polygon.startY, poly.polygon.rop2,
      poly.polygon.fillMode, poly.color, poly.polygon.points))
  render _ poly := do
    let points ← countedList maxPoints poly.polygon.points
    pure { kind := .polygonSc, rop := poly.polygon.rop2, fillMode := poly.polygon.fillMode
           color := poly.color, rect := { x := poly.polygon.startX, y := poly.polygon.startY }
           points }

/-- `rdp_gdi_render_decode_polygon_cb`. -/
def decodePolygonCb : OrderDecoder (Brushed PolygonFields) where
  layout := brushedLayout
    (.both (.one (.coord 0x0001)) <| .both (.one (.coord 0x0002)) <|
      .both (.one (.byte 0x0004)) (.one (.byte 0x0008)))
    0x0010 (.one (.points 0x0800 0x1000))
    (fun ((startX, startY, rop2, fillMode), points) => { startX, startY, rop2, fillMode, points })
    (fun poly => ((poly.startX, poly.startY, poly.rop2, poly.fillMode), poly.points))
    (fun _ => rfl)
  render _ poly := do
    let points ← countedList maxPoints poly.shape.points
    pure (({ kind := .polygonCb, rop := poly.shape.rop2 &&& 0x1f
             transparentBackground := poly.shape.rop2 &&& 0x80 != 0
             fillMode := poly.shape.fillMode
             rect := { x := poly.shape.startX, y := poly.shape.startY }
             points } : RenderOp).brushed poly.brush)

structure EllipseFields where
  edges : RenderEdges := {}
  rop2 : UInt8 := 13
  fillMode : UInt8 := 1

def ellipseLayout : Layout RenderField EllipseFields :=
  .record (.both (edgesLayout .coord 0x01) <| .both (.one (.byte 0x10)) (.one (.byte 0x20)))
    (fun (edges, rop2, fillMode) => { edges, rop2, fillMode })
    (fun ellipse => (ellipse.edges, ellipse.rop2, ellipse.fillMode))

structure EllipseScFields where
  ellipse : EllipseFields := {}
  color : Color := {}

/-- `rdp_gdi_render_decode_ellipse_sc`. -/
def decodeEllipseSc : OrderDecoder EllipseScFields where
  layout := .record (.both ellipseLayout (.one (.color 0x40)))
    (fun (ellipse, color) => { ellipse, color }) (fun fields => (fields.ellipse, fields.color))
  render _ fields := pure
    { kind := .ellipseSc, rop := fields.ellipse.rop2, fillMode := fields.ellipse.fillMode
      color := fields.color, rect := fields.ellipse.edges.rect }

/-- `rdp_gdi_render_decode_ellipse_cb`. -/
def decodeEllipseCb : OrderDecoder (Brushed EllipseFields) where
  layout := brushedLayout ellipseLayout 0x0040 .empty Prod.fst (·, ()) (fun _ => rfl)
  render _ fields := pure
    (({ kind := .ellipseCb, rop := fields.shape.rop2 &&& 0x1f
        transparentBackground := fields.shape.rop2 &&& 0x80 != 0
        fillMode := fields.shape.fillMode
        rect := fields.shape.edges.rect } : RenderOp).brushed fields.brush)

structure SaveBitmapFields where
  position : UInt32 := 0
  edges : RenderEdges := {}
  operation : UInt8 := 0

/-- `rdp_gdi_render_decode_save_bitmap`. -/
def decodeSaveBitmap : OrderDecoder SaveBitmapFields where
  layout := .record (.both (.one (.dword 0x01)) <| .both (edgesLayout .coord 0x02)
      (.one (.byte 0x20)))
    (fun (position, edges, operation) => { position, edges, operation })
    (fun save => (save.position, save.edges, save.operation))
  render _ save :=
    if save.operation > 1 ∨ save.edges.right < save.edges.left ∨
        save.edges.bottom < save.edges.top then refuse .protocolError
    else pure
      { kind := .saveBitmap, bitmapId := save.position, operation := save.operation
        rect := save.edges.rect }

structure NineFields where
  src : RenderEdges := {}
  bitmapId : UInt16 := 0

/-- `rdp_gdi_render_decode_draw_ninegrid`. -/
def decodeDrawNinegrid : OrderDecoder NineFields where
  layout := .record (.both (edgesLayout .coord 0x01) (.one (.word 0x10)))
    (fun (src, bitmapId) => { src, bitmapId }) (fun nine => (nine.src, nine.bitmapId))
  render bounds nine := do
    let rect ← rectFromBoundsOrSource bounds nine.src
    pure { kind := .drawNinegrid, bitmapId := nine.bitmapId.toUInt32, src := nine.src, rect }

structure MultiNineFields where
  src : RenderEdges := {}
  bitmapId : UInt16 := 0
  rects : Counted RenderRect := noRects

/-- `rdp_gdi_render_decode_multi_draw_ninegrid`. -/
def decodeMultiDrawNinegrid : OrderDecoder MultiNineFields where
  layout := .record (.both (edgesLayout .coord 0x01) <| .both (.one (.word 0x10))
      (.one (.rects 0x20 0x40)))
    (fun (src, bitmapId, rects) => { src, bitmapId, rects })
    (fun nine => (nine.src, nine.bitmapId, nine.rects))
  render bounds nine := do
    let rects ← countedList maxRects nine.rects
    let rect ← rectFromBoundsOrSource bounds nine.src
    pure { kind := .multiDrawNinegrid, bitmapId := nine.bitmapId.toUInt32, src := nine.src, rects
           rect }

/-- The `glyph_*` fields of the state but for `glyph_opaque`; `glyph_data` stands for the bytes that
    it points to. -/
structure GlyphFields where
  cacheId : UInt8 := 0
  flags : UInt8 := 0
  charInc : UInt8 := 0
  backColor : Color := {}
  foreColor : Color := {}
  back : RenderEdges := {}
  op : RenderEdges := {}
  x : Int := 0
  y : Int := 0
  data : Bytes := []
  deriving DecidableEq

def GlyphFields.render (glyph : GlyphFields) : RenderOp :=
  { kind := .glyph, cacheId := glyph.cacheId, glyphFlags := glyph.flags
    glyphCharInc := glyph.charInc, backColor := glyph.backColor, color := glyph.foreColor
    glyphX := glyph.x, glyphY := glyph.y, rect := rectFromEdges glyph.op
    glyphBackRect := rectFromEdges glyph.back, glyphData := glyph.data }

structure GlyphIndexFields where
  glyph : GlyphFields := {}
  isOpaque : UInt8 := 0

/-- `rdp_gdi_render_decode_glyph_index`; its coordinates are never coded as deltas, and its brush is
    skipped. -/
def decodeGlyphIndex : OrderDecoder GlyphIndexFields where
  layout := .record (.both (.one (.byte 0x000001)) <| .both (.one (.byte 0x000002)) <|
      .both (.one (.byte 0x000004)) <| .both (.one (.byte 0x000008)) <|
      .both (.one (.color 0x000010)) <| .both (.one (.color 0x000020)) <|
      .both (edgesLayout .int16 0x000040) <| .both (edgesLayout .int16 0x000400) <|
      .both (.one (.skipped 0x004000 1)) <| .both (.one (.skipped 0x008000 1)) <|
      .both (.one (.skipped 0x010000 1)) <| .both (.one (.skipped 0x020000 1)) <|
      .both (.one (.skipped 0x040000 7)) <| .both (.one (.int16 0x080000)) <|
      .both (.one (.int16 0x100000)) (.one (.data 0x200000)))
    (fun (cacheId, flags, charInc, isOpaque, backColor, foreColor, back, op, _, _, _, _, _, x, y,
        data) =>
      { glyph := { cacheId, flags, charInc, backColor, foreColor, back, op, x, y, data }, isOpaque })
    (fun fields => (fields.glyph.cacheId, fields.glyph.flags, fields.glyph.charInc, fields.isOpaque,
      fields.glyph.backColor, fields.glyph.foreColor, fields.glyph.back, fields.glyph.op, (), (), (),
      (), (), fields.glyph.x, fields.glyph.y, fields.glyph.data))
  render _ fields := pure { fields.glyph.render with glyphOpaque := fields.isOpaque != 0 }

/-- `rdp_gdi_render_decode_inline_glyph`. -/
def decodeInlineGlyph (op : RenderOp) : Attempt RenderOp :=
  if op.glyphData.length ≤ 1 then pure op
  else do
    let (cacheIndex, stream) ← readU8 op.glyphData
    let (x, stream) ← read2ByteSigned stream
    let (y, stream) ← read2ByteSigned stream
    let (width, stream) ← read2ByteUnsigned stream
    let (height, stream) ← read2ByteUnsigned stream
    let length ← glyphBitmapPaddedLen width height
    if stream.length ≠ length then refuse .protocolError
    else
      pure { op with
        inlineGlyph := some { cacheIndex, x, y, width, height, bitmap := stream }
        glyphData := op.glyphData.take 1 }

/-- The edges of the opaque rectangle that `rdp_gdi_render_decode_fast_glyph_common` takes from the
    background; it stores them. -/
def settleEdges (back op : RenderEdges) : RenderEdges :=
  let special := (op.top % 16).toNat
  let op :=
    if op.bottom = -32768 then
      { left := if special &&& 8 ≠ 0 then back.left else op.left
        top := if special &&& 4 ≠ 0 then back.top else op.top
        right := if special &&& 2 ≠ 0 then back.right else op.right
        bottom := if special &&& 1 ≠ 0 then back.bottom else op.bottom : RenderEdges }
    else op
  { op with
    left := if op.left = 0 then back.left else op.left
    right := if op.right = 0 then back.right else op.right }

/-- `rdp_gdi_render_decode_fast_glyph_common`. -/
def decodeFastGlyphCommon (inlineGlyph : Bool) : OrderDecoder GlyphFields where
  layout := .record (.both (.one (.byte 0x0001)) <| .both (.one (.twoBytes 0x0002)) <|
      .both (.one (.color 0x0004)) <| .both (.one (.color 0x0008)) <|
      .both (edgesLayout .coord 0x0010) <| .both (edgesLayout .coord 0x0100) <|
      .both (.one (.coord 0x1000)) <| .both (.one (.coord 0x2000)) (.one (.data 0x4000)))
    (fun (cacheId, (charInc, flags), backColor, foreColor, back, op, x, y, data) =>
      { cacheId, flags, charInc, backColor, foreColor, back, op, x, y, data })
    (fun glyph => (glyph.cacheId, (glyph.charInc, glyph.flags), glyph.backColor, glyph.foreColor,
      glyph.back, glyph.op, glyph.x, glyph.y, glyph.data))
  settle glyph := { glyph with op := settleEdges glyph.back glyph.op }
  render _ glyph :=
    let op :=
      { glyph.render with
        glyphX := if glyph.x = -32768 then glyph.back.left else glyph.x
        glyphY := if glyph.y = -32768 then glyph.back.top else glyph.y }
    if inlineGlyph then decodeInlineGlyph op else pure op

end LibRdp.Graphics
