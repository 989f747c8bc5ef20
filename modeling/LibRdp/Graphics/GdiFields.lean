import LibRdp.Common

/-! # Fields of primary drawing orders

An order carries the fields that changed since the last order of its type. Each field has a
mask that says whether it was sent, and a way in which it is read: as a coordinate, which may
be a delta to the value before, as a colour, as a list of rectangles and so on.
-/

namespace LibRdp.Graphics

open Coding

/-- A colour as its three bytes in the order in which they are sent; `uint32_t` holds the first in
    its lowest byte. -/
structure Color where
  first : UInt8 := 0
  second : UInt8 := 0
  third : UInt8 := 0
  deriving Repr, DecidableEq

/-- `rdp_gdi_render_point`. -/
structure RenderPoint where
  x : Int := 0
  y : Int := 0
  deriving Repr, DecidableEq

/-- `rdp_gdi_render_rect`. -/
structure RenderRect where
  x : Int := 0
  y : Int := 0
  width : Int := 0
  height : Int := 0
  deriving Repr, DecidableEq

structure RenderEdges where
  left : Int := 0
  top : Int := 0
  right : Int := 0
  bottom : Int := 0
  deriving Repr, DecidableEq

structure Brush where
  backColor : Color := {}
  foreColor : Color := {}
  x : Int := 0
  y : Int := 0
  style : UInt8 := 0
  hatch : UInt8 := 0
  extra : Bytes := List.replicate 7 0
  deriving Repr, DecidableEq

structure Brushed (α : Type) where
  shape : α
  brush : Brush

structure Counted (α : Type) where
  count : UInt8 := 0
  entries : List α

def Counted.list (counted : Counted α) : List α := counted.entries.take counted.count.toNat

/-- `RDP_GDI_RENDER_MAX_POINTS` and `RDP_GDI_RENDER_MAX_RECTS`. -/
def maxPoints : Nat := 256

def maxRects : Nat := 45

/-- `int32_t` arithmetic, which wraps. -/
def int32 (value : Int) : Int := value.bmod (2 ^ 32)

/-- `int8_t` and `int16_t` of a byte and of a word. -/
def int8 (byte : UInt8) : Int := if byte.toNat < 128 then byte.toNat else byte.toNat - 256

def int16 (word : UInt16) : Int := if word.toNat < 32768 then word.toNat else word.toNat - 65536

/-- `rdp_gdi_render_read_i16`. -/
def readI16 (stream : Bytes) : Attempt (Int × Bytes) := do
  let (raw, stream) ← readU16Le stream
  pure (int16 raw, stream)

/-- `rdp_gdi_render_read_coord`. -/
def readCoord (delta : Bool) (value : Int) (stream : Bytes) : Attempt (Int × Bytes) :=
  if delta then do
    let (raw, stream) ← readU8 stream
    pure (int32 (value + int8 raw), stream)
  else readI16 stream

/-- `rdp_gdi_render_read_color`. -/
def readColor (stream : Bytes) : Attempt (Color × Bytes) := do
  let (first, stream) ← readU8 stream
  let (second, stream) ← readU8 stream
  let (third, stream) ← readU8 stream
  pure ({ first, second, third }, stream)

/-- `rdp_gdi_render_read_2byte_unsigned`. -/
def read2ByteUnsigned (stream : Bytes) : Attempt (Nat × Bytes) := do
  let (first, stream) ← readU8 stream
  if first &&& 0x80 = 0 then pure (first.toNat % 128, stream)
  else do
    let (second, stream) ← readU8 stream
    pure (first.toNat % 128 * 256 + second.toNat, stream)

/-- `rdp_gdi_render_read_2byte_signed`. -/
def read2ByteSigned (stream : Bytes) : Attempt (Int × Bytes) := do
  let (first, stream) ← readU8 stream
  if first &&& 0x80 = 0 then
    let raw := first.toNat % 128
    pure (if raw < 64 then (raw : Int) else raw - 128, stream)
  else do
    let (second, stream) ← readU8 stream
    let raw := first.toNat % 128 * 256 + second.toNat
    pure (if raw < 16384 then (raw : Int) else raw - 32768, stream)

/-- `rdp_gdi_render_glyph_bitmap_padded_len`. -/
def glyphBitmapPaddedLen (width height : Nat) : Attempt Nat :=
  if width = 0 ∨ height = 0 ∨ width > 2 ^ 32 - 1 - 7 then refuse .protocolError
  else
    let stride := (width + 7) / 8
    if height > (2 ^ 32 - 1) / stride then refuse .protocolError
    else if stride * height > 2 ^ 32 - 1 - 3 then refuse .protocolError
    else pure ((stride * height + 3) / 4 * 4)

/-- `rdp_gdi_render_read_delta`. -/
def readDelta (stream : Bytes) : Attempt (Int × Bytes) := do
  let (first, stream) ← readU8 stream
  let low : Int := first.toNat % 64
  let raw := if first &&& 0x40 ≠ 0 then low - 64 else low
  if first &&& 0x80 = 0 then pure (raw, stream)
  else do
    let (second, stream) ← readU8 stream
    pure (raw * 256 + second.toNat, stream)

/-- A delta that is zero or the previous value unless its bit is clear. -/
def readDeltaUnless (flags bit : UInt8) (value : Int) (stream : Bytes) : Attempt (Int × Bytes) :=
  if flags &&& bit = 0 then readDelta stream else pure (value, stream)

/-- The loop of `rdp_gdi_render_read_delta_points` from point `i` on, with `left` points to go. -/
def readPoints (zeroBits : Bytes) : Nat → Nat → Bytes → Attempt (List RenderPoint × Bytes)
  | _, 0, stream => pure ([], stream)
  | i, left + 1, stream => do
      let flags := zeroBits.getD (i / 4) 0 <<< UInt8.ofNat (i % 4 * 2)
      let (x, stream) ← readDeltaUnless flags 0x80 0 stream
      let (y, stream) ← readDeltaUnless flags 0x40 0 stream
      let (points, stream) ← readPoints zeroBits (i + 1) left stream
      pure ({ x, y } :: points, stream)

/-- `rdp_gdi_render_read_delta_points`. -/
def readDeltaPoints (count : Nat) (stream : Bytes) : Attempt (List RenderPoint × Bytes) :=
  if count = 0 ∨ count > maxPoints then refuse .protocolError
  else do
    let (zeroBits, stream) ← readBytes stream ((count + 3) / 4)
    readPoints zeroBits 0 count stream

/-- The loop of `rdp_gdi_render_read_delta_rects` from rectangle `i` on; the one before the first
    counts as empty. -/
def readRects (zeroBits : Bytes) : Nat → Nat → RenderRect → Bytes →
    Attempt (List RenderRect × Bytes)
  | _, 0, _, stream => pure ([], stream)
  | i, left + 1, previous, stream => do
      let flags := zeroBits.getD (i / 2) 0 <<< UInt8.ofNat (i % 2 * 4)
      let (x, stream) ← readDeltaUnless flags 0x80 0 stream
      let (y, stream) ← readDeltaUnless flags 0x40 0 stream
      let (width, stream) ← readDeltaUnless flags 0x20 previous.width stream
      let (height, stream) ← readDeltaUnless flags 0x10 previous.height stream
      let rect : RenderRect := { x := x + previous.x, y := y + previous.y, width, height }
      let (rects, stream) ← readRects zeroBits (i + 1) left rect stream
      pure (rect :: rects, stream)

/-- `rdp_gdi_render_read_delta_rects`. -/
def readDeltaRects (count : Nat) (stream : Bytes) : Attempt (List RenderRect × Bytes) :=
  if count = 0 ∨ count > maxRects then refuse .protocolError
  else do
    let (zeroBits, stream) ← readBytes stream ((count + 1) / 2)
    readRects zeroBits 0 count {} stream

def readBlob (readList : Nat → Bytes → Attempt (List α × Bytes)) (count : Nat) (blob : Bytes) :
    Attempt (List α) :=
  if blob.length = 0 then refuse .protocolError
  else do
    let (list, left) ← readList count blob
    if left.length ≠ 0 then refuse .protocolError else pure list

/-- `rdp_gdi_render_read_delta_blob` and `rdp_gdi_render_read_rect_blob`. -/
def readDeltaBlob (count : Nat) (stream : Bytes) : Attempt (List RenderPoint × Bytes) := do
  let (length, stream) ← readU8 stream
  let (blob, stream) ← readBytes stream length.toNat
  let points ← readBlob readDeltaPoints count blob
  pure (points, stream)

def readRectBlob (count : Nat) (stream : Bytes) : Attempt (List RenderRect × Bytes) := do
  let (length, stream) ← readU16Le stream
  let (blob, stream) ← readBytes stream length.toNat
  let rects ← readBlob readDeltaRects count blob
  pure (rects, stream)

inductive RenderField : Type → Type where
  | coord (mask : Nat) : RenderField Int
  | int16 (mask : Nat) : RenderField Int
  | byte (mask : Nat) : RenderField UInt8
  | word (mask : Nat) : RenderField UInt16
  | dword (mask : Nat) : RenderField UInt32
  | color (mask : Nat) : RenderField Color
  | bytes (mask length : Nat) : RenderField Bytes
  | twoBytes (mask : Nat) : RenderField (UInt8 × UInt8)
  | skipped (mask length : Nat) : RenderField Unit
  | data (mask : Nat) : RenderField Bytes
  | points (countMask mask : Nat) : RenderField (Counted RenderPoint)
  | rects (countMask mask : Nat) : RenderField (Counted RenderRect)

def readSent (flags mask : Nat) (old : α) (stream : Bytes)
    (read : Bytes → Attempt (α × Bytes)) : Attempt (α × Bytes) :=
  if flags &&& mask = 0 then .ok (old, stream) else read stream

/-- A count and the list that it counts. A list of a count that was not sent is read with the
    count of the state. -/
def readCounted (flags countMask mask limit : Nat)
    (readList : Nat → Bytes → Attempt (List α × Bytes)) (old : Counted α) (stream : Bytes) :
    Attempt (Counted α × Bytes) := do
  let (count, stream) ← readSent flags countMask old.count stream readU8
  readSent flags mask { old with count } stream fun stream =>
    if count = 0 ∨ count.toNat > limit then refuse .protocolError
    else do
      let (list, stream) ← readList count.toNat stream
      pure ({ count, entries := list ++ old.entries.drop count.toNat }, stream)

def readField (flags : Nat) (delta : Bool) : {α : Type} → RenderField α → α → Bytes →
    Attempt (α × Bytes)
  | _, .coord mask, old, stream => readSent flags mask old stream (readCoord delta old)
  | _, .int16 mask, old, stream => readSent flags mask old stream readI16
  | _, .byte mask, old, stream => readSent flags mask old stream readU8
  | _, .word mask, old, stream => readSent flags mask old stream readU16Le
  | _, .dword mask, old, stream => readSent flags mask old stream readU32Le
  | _, .color mask, old, stream => readSent flags mask old stream readColor
  | _, .bytes mask length, old, stream => readSent flags mask old stream (readBytes · length)
  | _, .twoBytes mask, old, stream => readSent flags mask old stream fun stream => do
      let (first, stream) ← readU8 stream
      let (second, stream) ← readU8 stream
      pure ((first, second), stream)
  | _, .skipped mask length, old, stream => readSent flags mask old stream fun stream => do
      let (_, stream) ← readBytes stream length
      pure ((), stream)
  | _, .data mask, old, stream => readSent flags mask old stream fun stream => do
      let (length, stream) ← readU8 stream
      readBytes stream length.toNat
  | _, .points countMask mask, old, stream =>
      readCounted flags countMask mask maxPoints readDeltaBlob old stream
  | _, .rects countMask mask, old, stream =>
      readCounted flags countMask mask maxRects readRectBlob old stream

/-- Four coordinates in a row; `coord` is how one is read. -/
def rectLayout (mask : Nat) : Layout RenderField RenderRect :=
  .record (.both (.one (.coord mask)) <| .both (.one (.coord (2 * mask))) <|
      .both (.one (.coord (4 * mask))) (.one (.coord (8 * mask))))
    (fun (x, y, width, height) => { x, y, width, height })
    (fun rect => (rect.x, rect.y, rect.width, rect.height))

def edgesLayout (coord : Nat → RenderField Int) (mask : Nat) : Layout RenderField RenderEdges :=
  .record (.both (.one (coord mask)) <| .both (.one (coord (2 * mask))) <|
      .both (.one (coord (4 * mask))) (.one (coord (8 * mask))))
    (fun (left, top, right, bottom) => { left, top, right, bottom })
    (fun edges => (edges.left, edges.top, edges.right, edges.bottom))

/-- The colours and the brush come in a row wherever an order has them. -/
def brushLayout (mask : Nat) : Layout RenderField Brush :=
  .record (.both (.one (.color mask)) <| .both (.one (.color (2 * mask))) <|
      .both (.one (.coord (4 * mask))) <| .both (.one (.coord (8 * mask))) <|
      .both (.one (.byte (16 * mask))) <| .both (.one (.byte (32 * mask)))
        (.one (.bytes (64 * mask) 7)))
    (fun (backColor, foreColor, x, y, style, hatch, extra) =>
      { backColor, foreColor, x, y, style, hatch, extra })
    (fun brush => (brush.backColor, brush.foreColor, brush.x, brush.y, brush.style, brush.hatch,
      brush.extra))

def brushedLayout (head : Layout RenderField α) (mask : Nat) (tail : Layout RenderField β)
    (make : α × β → γ) (parts : γ → α × β) (whole : ∀ a, parts (make a) = a) :
    Layout RenderField (Brushed γ) :=
  .record (.both head (.both (brushLayout mask) tail))
    (fun (front, brush, back) => { shape := make (front, back), brush })
    (fun brushed => ((parts brushed.shape).1, brushed.brush, (parts brushed.shape).2))
    (fun (front, brush, back) => by simp only [whole])

end LibRdp.Graphics
