import LibRdp.Common

/-! # Bitmap rectangles

The decoding of one bitmap rectangle to BGRA rows: uncompressed rectangles, and
rectangles compressed with the interleaved run-length codes. Where a decoder
fails, what it left in the output buffer is dropped by every caller, so a failed
call is its status alone.
-/

namespace LibRdp.Graphics

open Machine

/-- `rdp_bitmap_rect`; `data_len` is the length of `data`. -/
structure BitmapRect where
  destLeft : UInt16
  destTop : UInt16
  destRight : UInt16
  destBottom : UInt16
  width : UInt16
  height : UInt16
  bitsPerPixel : UInt16
  flags : UInt16
  data : Bytes
  deriving Repr, DecidableEq

structure PaletteEntry where
  red : UInt8
  green : UInt8
  blue : UInt8
  deriving Repr, DecidableEq

/-- `rdp_palette_update`: the first `count` entries. -/
abbrev Palette := List PaletteEntry

def bitmapFlagCompressed : UInt16 := 0x0001
def bitmapFlagNoCompressionHeader : UInt16 := 0x0400

def scale5To8 (value : Nat) : UInt8 := UInt8.ofNat ((value * 255 + 15) / 31)

def scale6To8 (value : Nat) : UInt8 := UInt8.ofNat ((value * 255 + 31) / 63)

/-- `rdp_bitmap_indexed_pixel_to_bgra`. -/
def indexedPixelToBgra (pixel : Nat) (palette : Option Palette) : Attempt Bytes :=
  match palette with
  | none => refuse .protocolError
  | some entries =>
      match entries[pixel]? with
      | none => refuse .protocolError
      | some entry => .ok [entry.blue, entry.green, entry.red, 0xff]

def pixel15ToBgra (pixel : Nat) : Bytes :=
  [scale5To8 (pixel &&& 0x1f), scale5To8 (pixel >>> 5 &&& 0x1f), scale5To8 (pixel >>> 10 &&& 0x1f),
    0xff]

def pixel16ToBgra (pixel : Nat) : Bytes :=
  [scale5To8 (pixel &&& 0x1f), scale6To8 (pixel >>> 5 &&& 0x3f), scale5To8 (pixel >>> 11 &&& 0x1f),
    0xff]

/-- `rdp_bitmap_raw_pixel_to_bgra`. -/
def rawPixelToBgra (pixel : Nat) (bitsPerPixel : UInt16) (palette : Option Palette) :
    Attempt Bytes :=
  if bitsPerPixel = 8 then indexedPixelToBgra pixel palette
  else if bitsPerPixel = 15 then .ok (pixel15ToBgra pixel)
  else if bitsPerPixel = 16 then .ok (pixel16ToBgra pixel)
  else .ok [UInt8.ofNat (pixel &&& 0xff), UInt8.ofNat (pixel >>> 8 &&& 0xff),
    UInt8.ofNat (pixel >>> 16 &&& 0xff), 0xff]

def rleBgRun : UInt8 := 0x00
def rleFgRun : UInt8 := 0x01
def rleFgbgImage : UInt8 := 0x02
def rleColorRun : UInt8 := 0x03
def rleColorImage : UInt8 := 0x04
def rleSetFgFgRun : UInt8 := 0x0c
def rleSetFgFgbgImage : UInt8 := 0x0d
def rleDitheredRun : UInt8 := 0x0e
def rleMegaBgRun : UInt8 := 0xf0
def rleMegaFgRun : UInt8 := 0xf1
def rleMegaFgbgImage : UInt8 := 0xf2
def rleMegaColorRun : UInt8 := 0xf3
def rleMegaColorImage : UInt8 := 0xf4
def rleMegaSetFgRun : UInt8 := 0xf6
def rleMegaSetFgFgbgImage : UInt8 := 0xf7
def rleMegaDitheredRun : UInt8 := 0xf8
def rleSpecialFgbg1 : UInt8 := 0xf9
def rleSpecialFgbg2 : UInt8 := 0xfa
def rleSpecialWhite : UInt8 := 0xfd
def rleSpecialBlack : UInt8 := 0xfe

/-- `rdp_bitmap_rle_reader`: `current` holds the bytes up to `end`, `pixels` what has been
    written, so that its length is `position`. -/
structure RleReader where
  current : Bytes
  pixels : List Nat
  total : Nat
  width : Nat
  bitsPerPixel : UInt16
  foreground : Nat
  insertForeground : Bool
  deriving Repr, DecidableEq

def rleBytesPerPixel (bitsPerPixel : UInt16) : Nat :=
  if bitsPerPixel = 8 then 1
  else if bitsPerPixel = 15 then 2
  else if bitsPerPixel = 16 then 2
  else if bitsPerPixel = 24 then 3
  else if bitsPerPixel = 32 then 4
  else 0

def rleWhite (bitsPerPixel : UInt16) : Nat :=
  if bitsPerPixel = 8 then 0xff
  else if bitsPerPixel = 15 then 0x7fff
  else if bitsPerPixel = 16 then 0xffff
  else 0x00ffffff

def rleCode (header : UInt8) : UInt8 :=
  if header &&& 0xc0 ≠ 0xc0 then header >>> 5
  else if header &&& 0xf0 = 0xf0 then header
  else header >>> 4

/-- A pixel of the reader's depth; of four bytes the last is passed over. -/
def rleReadPixel (reader : RleReader) : Attempt (Nat × RleReader) :=
  let bytes := rleBytesPerPixel reader.bitsPerPixel
  if bytes = 0 ∨ reader.current.length < bytes then refuse .protocolError
  else
    let byte i := (reader.current.getD i 0).toNat
    let pixel :=
      if reader.bitsPerPixel = 15 ∨ reader.bitsPerPixel = 16 then byte 0 ||| byte 1 <<< 8
      else if reader.bitsPerPixel = 8 then byte 0
      else byte 0 ||| byte 1 <<< 8 ||| byte 2 <<< 16
    .ok (pixel, { reader with current := reader.current.drop bytes })

def rleWritePixel (reader : RleReader) (pixel : Nat) : Attempt RleReader :=
  if reader.pixels.length ≥ reader.total then refuse .protocolError
  else .ok { reader with pixels := reader.pixels ++ [pixel] }

def rlePreviousPixel (reader : RleReader) : Nat :=
  if reader.pixels.length < reader.width then 0
  else reader.pixels.getD (reader.pixels.length - reader.width) 0

/-- Write `count` pixels, each computed from the reader as it then is. -/
def rleWriteMany (pixel : RleReader → Nat) : Nat → RleReader → Attempt RleReader
  | 0, reader => .ok reader
  | count + 1, reader => do
      let reader ← rleWritePixel reader (pixel reader)
      rleWriteMany pixel count reader

def rleRepeat (reader : RleReader) (pixel count : Nat) : Attempt RleReader :=
  rleWriteMany (fun _ => pixel) count reader

def rleWriteBackground (reader : RleReader) (count : Nat) : Attempt RleReader :=
  rleWriteMany (fun reader =>
    if reader.pixels.length < reader.width then 0 else rlePreviousPixel reader) count reader

def rleForegroundPixel (reader : RleReader) : Nat :=
  if reader.pixels.length < reader.width then reader.foreground
  else rlePreviousPixel reader ^^^ reader.foreground

def rleWriteForeground (reader : RleReader) (count : Nat) : Attempt RleReader :=
  rleWriteMany rleForegroundPixel count reader

/-- The two pixels of a dithered run, `count` times. -/
def rleWriteDithered (a b : Nat) : Nat → RleReader → Attempt RleReader
  | 0, reader => .ok reader
  | count + 1, reader => do
      let reader ← rleWritePixel reader a
      let reader ← rleWritePixel reader b
      rleWriteDithered a b count reader

def rleShortLength (low : UInt8) (unit extra : Nat) (rest : Bytes) : Attempt (Nat × Nat) :=
  if low = 0 then
    match rest with
    | [] => refuse .protocolError
    | b :: _ => .ok (b.toNat + extra, 2)
  else .ok (low.toNat * unit, 1)

/-- `rdp_bitmap_rle_run_length`: the length of the run and the bytes it takes. -/
def rleRunLength (reader : RleReader) (code : UInt8) : Attempt (Nat × Nat) :=
  match reader.current with
  | [] => refuse .protocolError
  | order :: rest =>
      if code ∈ [rleMegaBgRun, rleMegaFgRun, rleMegaSetFgRun, rleMegaDitheredRun, rleMegaColorRun,
          rleMegaFgbgImage, rleMegaSetFgFgbgImage, rleMegaColorImage] then
        match rest with
        | b1 :: b2 :: _ =>
            if u16Le b1 b2 = 0 then refuse .protocolError else .ok (u16Le b1 b2, 3)
        | _ => refuse .protocolError
      else if code = rleFgbgImage then rleShortLength (order &&& 0x1f) 8 1 rest
      else if code = rleSetFgFgbgImage then rleShortLength (order &&& 0x0f) 8 1 rest
      else if code ∈ [rleSetFgFgRun, rleDitheredRun] then rleShortLength (order &&& 0x0f) 1 16 rest
      else if code ∈ [rleBgRun, rleFgRun, rleColorRun, rleColorImage] then
        rleShortLength (order &&& 0x1f) 1 32 rest
      else refuse .protocolError

def rleTakeRun (reader : RleReader) (code : UInt8) : Attempt (Nat × RleReader) := do
  let (run, consumed) ← rleRunLength reader code
  pure (run, { reader with current := reader.current.drop consumed })

/-- The pixel that bit `bit` of a mask selects. -/
def rleMaskPixel (mask : UInt8) (bit : Nat) (reader : RleReader) : Nat :=
  if reader.pixels.length < reader.width then
    if mask.toNat.testBit bit then reader.foreground else 0
  else if mask.toNat.testBit bit then rlePreviousPixel reader ^^^ reader.foreground
  else rlePreviousPixel reader

/-- The loop of `rdp_bitmap_rle_write_fgbg`, from bit `bit` on. -/
def rleMaskLoop (mask : UInt8) : Nat → Nat → RleReader → Attempt RleReader
  | 0, _, reader => .ok reader
  | count + 1, bit, reader => do
      let reader ← rleWritePixel reader (rleMaskPixel mask bit reader)
      rleMaskLoop mask count (bit + 1) reader

def rleWriteFgbg (reader : RleReader) (mask : UInt8) (count : Nat) : Attempt RleReader :=
  if count > 8 then refuse .protocolError else rleMaskLoop mask count 0 reader

/-- The masks of a foreground/background image, eight pixels each but for the last. -/
def rleImageMasks : Bytes → Nat → RleReader → Attempt RleReader
  | [], run, reader => if run > 0 then refuse .protocolError else .ok { reader with current := [] }
  | mask :: current, run, reader =>
      if run > 8 then do
        let reader ← rleWriteFgbg reader mask 8
        rleImageMasks current (run - 8) reader
      else if run > 0 then rleWriteFgbg { reader with current := current } mask run
      else .ok { reader with current := mask :: current }

def rleImagePixels : Nat → RleReader → Attempt RleReader
  | 0, reader => .ok reader
  | count + 1, reader => do
      let (color, reader) ← rleReadPixel reader
      let reader ← rleWritePixel reader color
      rleImagePixels count reader

def rleReadForeground (setsForeground : Bool) (reader : RleReader) : Attempt RleReader :=
  if setsForeground then do
    let (pixel, reader) ← rleReadPixel reader
    pure { reader with foreground := pixel }
  else .ok reader

/-- The pixels of a background run; right after another run the first is a foreground pixel. -/
def rleBackgroundPixels (reader : RleReader) (run : Nat) : Attempt RleReader :=
  if reader.insertForeground then
    if run = 0 then refuse .protocolError
    else do
      let reader ← rleWriteForeground reader 1
      rleWriteBackground reader (run - 1)
  else rleWriteBackground reader run

def rleBackgroundOrder (reader : RleReader) (code : UInt8) : Attempt RleReader := do
  let (run, reader) ← rleTakeRun reader code
  let reader ← rleBackgroundPixels reader run
  pure { reader with insertForeground := true }

/-- One iteration of `rdp_bitmap_rle_decode_stream`, for an order other than a background run. -/
def rleForegroundOrder (reader : RleReader) (code : UInt8) : Attempt RleReader :=
  if code ∈ [rleFgRun, rleMegaFgRun, rleSetFgFgRun, rleMegaSetFgRun] then do
    let (run, reader) ← rleTakeRun reader code
    let reader ← rleReadForeground (code ∈ [rleSetFgFgRun, rleMegaSetFgRun]) reader
    rleWriteForeground reader run
  else if code ∈ [rleDitheredRun, rleMegaDitheredRun] then do
    let (run, reader) ← rleTakeRun reader code
    let (a, reader) ← rleReadPixel reader
    let (b, reader) ← rleReadPixel reader
    rleWriteDithered a b run reader
  else if code ∈ [rleColorRun, rleMegaColorRun] then do
    let (run, reader) ← rleTakeRun reader code
    let (color, reader) ← rleReadPixel reader
    rleRepeat reader color run
  else if code ∈ [rleFgbgImage, rleMegaFgbgImage, rleSetFgFgbgImage, rleMegaSetFgFgbgImage] then do
    let (run, reader) ← rleTakeRun reader code
    let reader ← rleReadForeground (code ∈ [rleSetFgFgbgImage, rleMegaSetFgFgbgImage]) reader
    rleImageMasks reader.current run reader
  else if code ∈ [rleColorImage, rleMegaColorImage] then do
    let (run, reader) ← rleTakeRun reader code
    rleImagePixels run reader
  else if code ∈ [rleSpecialFgbg1, rleSpecialFgbg2] then
    rleWriteFgbg { reader with current := reader.current.drop 1 }
      (if code = rleSpecialFgbg1 then 0x03 else 0x05) 8
  else if code ∈ [rleSpecialWhite, rleSpecialBlack] then
    rleWritePixel { reader with current := reader.current.drop 1 }
      (if code = rleSpecialWhite then rleWhite reader.bitsPerPixel else 0)
  else refuse .protocolError

def rleOrder (reader : RleReader) (code : UInt8) : Attempt RleReader :=
  if code ∈ [rleBgRun, rleMegaBgRun] then rleBackgroundOrder reader code
  else rleForegroundOrder { reader with insertForeground := false } code

def rleLoop : Nat → RleReader → Attempt RleReader
  | 0, _ => .error (.fault .outOfFuel)
  | fuel + 1, reader =>
      match reader.current with
      | [] => .ok reader
      | header :: _ => do
          let reader ← rleOrder reader (rleCode header)
          rleLoop fuel reader

/-- `rdp_bitmap_rle_decode_stream`: the pixels of the whole rectangle. -/
def rleDecodeStream (data : Bytes) (width height bitsPerPixel : UInt16) : Attempt (List Nat) :=
  if width = 0 ∨ height = 0 ∨ rleBytesPerPixel bitsPerPixel = 0 then refuse .invalidArgument
  else if width.toNat > sizeMax / height.toNat then refuse .noMemory
  else do
    let reader ← rleLoop (data.length + 1)
      ⟨data, [], width.toNat * height.toNat, width.toNat, bitsPerPixel, rleWhite bitsPerPixel, false⟩
    if reader.pixels.length = reader.total then pure reader.pixels else refuse .protocolError

/-- `rdp_bitmap_compressed_payload`; without a body length the payload is everything after the
    header. -/
def compressedPayload (rect : BitmapRect) : Attempt Bytes :=
  if rect.flags &&& bitmapFlagNoCompressionHeader ≠ 0 then .ok rect.data
  else
    match rect.data with
    | _ :: _ :: b2 :: b3 :: _ :: _ :: _ :: _ :: body =>
        let bodyLen := if u16Le b2 b3 = 0 then body.length % 65536 else u16Le b2 b3
        if bodyLen > body.length then refuse .protocolError else .ok (body.take bodyLen)
    | _ => refuse .protocolError

def pixelsToBgra (bitsPerPixel : UInt16) (palette : Option Palette) : List Nat → Attempt Bytes
  | [] => .ok []
  | pixel :: pixels => do
      let bgra ← rawPixelToBgra pixel bitsPerPixel palette
      let rest ← pixelsToBgra bitsPerPixel palette pixels
      pure (bgra ++ rest)

/-- `rdp_bitmap_decode_compressed_bgra32`: the output and its stride. -/
def decodeCompressedBgra32 (rect : BitmapRect) (palette : Option Palette) : Attempt (Bytes × Nat) :=
  if rect.flags &&& ~~~(bitmapFlagCompressed ||| bitmapFlagNoCompressionHeader) ≠ 0 then
    refuse .protocolError
  else if rect.width = 0 ∨ rect.height = 0 ∨ rect.bitsPerPixel ∉ [8, 15, 16, 24, 32] then
    refuse .protocolError
  else if rect.bitsPerPixel = 8 ∧ palette.isNone then refuse .state
  else if rect.width.toNat > sizeMax / rect.height.toNat then refuse .noMemory
  else if rect.width.toNat * rect.height.toNat > sizeMax / 4 then refuse .noMemory
  else if rect.height.toNat > sizeMax / (rect.width.toNat * 4) then refuse .noMemory
  else do
    let payload ← compressedPayload rect
    let pixels ← rleDecodeStream payload rect.width rect.height rect.bitsPerPixel
    let output ← pixelsToBgra rect.bitsPerPixel palette pixels
    pure (output, rect.width.toNat * 4)

/-- `rdp_bitmap_stride_aligned` with alignment four. -/
def strideAligned (stride : Nat) : Option Nat :=
  if stride % 4 = 0 then some stride
  else if stride > sizeMax - (4 - stride % 4) then none
  else some (stride + 4 - stride % 4)

def loadByte (data : Bytes) (i : Nat) : Attempt UInt8 :=
  match data[i]? with
  | some b => .ok b
  | none => .error (.fault .outOfBounds)

def loadU16 (data : Bytes) (i : Nat) : Attempt Nat := do
  let low ← loadByte data i
  let high ← loadByte data (i + 1)
  pure (low.toNat ||| high.toNat <<< 8)

/-- The `column`-th pixel of an uncompressed row that starts at `src`. -/
def decodePixel (rect : BitmapRect) (palette : Option Palette) (src column : Nat) :
    Attempt Bytes :=
  if rect.bitsPerPixel = 1 then do
    let packed ← loadByte rect.data (src + column / 8)
    indexedPixelToBgra (packed.toNat >>> (7 - column % 8) &&& 0x01) palette
  else if rect.bitsPerPixel = 4 then do
    let packed ← loadByte rect.data (src + column / 2)
    indexedPixelToBgra (if column % 2 = 1 then packed.toNat &&& 0x0f else packed.toNat >>> 4) palette
  else if rect.bitsPerPixel = 8 then do
    let pixel ← loadByte rect.data (src + column)
    indexedPixelToBgra pixel.toNat palette
  else if rect.bitsPerPixel = 24 then do
    let blue ← loadByte rect.data (src + column * 3)
    let green ← loadByte rect.data (src + (column * 3 + 1))
    let red ← loadByte rect.data (src + (column * 3 + 2))
    pure [blue, green, red, 0xff]
  else if rect.bitsPerPixel = 16 then do
    let pixel ← loadU16 rect.data (src + column * 2)
    pure (pixel16ToBgra pixel)
  else do
    let pixel ← loadU16 rect.data (src + column * 2)
    pure (pixel15ToBgra pixel)

/-- The pixels of a row from `column` on. -/
def decodeColumns (rect : BitmapRect) (palette : Option Palette) (src : Nat) :
    Nat → Nat → Attempt Bytes
  | 0, _ => .ok []
  | left + 1, column => do
      let bgra ← decodePixel rect palette src column
      let rest ← decodeColumns rect palette src left (column + 1)
      pure (bgra ++ rest)

def decodeRow (rect : BitmapRect) (palette : Option Palette) (src : Nat) : Attempt Bytes :=
  if rect.bitsPerPixel = 32 then
    if src + rect.width.toNat * 4 ≤ rect.data.length then
      .ok ((rect.data.drop src).take (rect.width.toNat * 4))
    else .error (.fault .outOfBounds)
  else decodeColumns rect palette src rect.width.toNat 0

/-- The rows still to be written: the last row of the data comes first. -/
def decodeRows (rect : BitmapRect) (palette : Option Palette) (srcStride : Nat) :
    Nat → Attempt Bytes
  | 0 => .ok []
  | left + 1 => do
      let row ← decodeRow rect palette (left * srcStride)
      let rest ← decodeRows rect palette srcStride left
      pure (row ++ rest)

def packedStride (width bitsPerPixel : UInt16) : Option Nat :=
  if bitsPerPixel = 1 then some ((width.toNat + 7) / 8)
  else if bitsPerPixel = 4 then some ((width.toNat + 1) / 2)
  else
    let bytesPerPixel := if bitsPerPixel = 15 then 2 else bitsPerPixel.toNat / 8
    if width.toNat > sizeMax / bytesPerPixel then none else some (width.toNat * bytesPerPixel)

/-- The part of `rdp_bitmap_decode_rect_bgra32_with_palette` for an uncompressed rectangle. -/
def decodeUncompressedBgra32 (rect : BitmapRect) (palette : Option Palette) :
    Attempt (Bytes × Nat) :=
  if rect.flags ≠ 0 ∨ rect.bitsPerPixel ∉ [1, 4, 8, 15, 16, 24, 32] then refuse .protocolError
  else if rect.bitsPerPixel ∈ [1, 4, 8] ∧ palette.isNone then refuse .state
  else if rect.width = 0 ∨ rect.height = 0 then refuse .protocolError
  else
    match packedStride rect.width rect.bitsPerPixel with
    | none => refuse .invalidArgument
    | some srcStride =>
        match strideAligned srcStride with
        | none => refuse .invalidArgument
        | some aligned =>
            if rect.height.toNat > sizeMax / srcStride then refuse .invalidArgument
            else if rect.data.length < srcStride * rect.height.toNat then refuse .protocolError
            else
              let srcStride :=
                if aligned > srcStride ∧ rect.height.toNat ≤ sizeMax / aligned ∧
                  rect.data.length ≥ aligned * rect.height.toNat then aligned else srcStride
              if rect.height.toNat > sizeMax / (rect.width.toNat * 4) then refuse .invalidArgument
              else do
                let output ← decodeRows rect palette srcStride rect.height.toNat
                pure (output, rect.width.toNat * 4)

/-- `rdp_bitmap_decode_rect_bgra32_with_palette`: the output and its stride. -/
def decodeRectBgra32WithPalette (rect : BitmapRect) (palette : Option Palette) :
    Attempt (Bytes × Nat) :=
  if rect.flags &&& bitmapFlagCompressed ≠ 0 then decodeCompressedBgra32 rect palette
  else decodeUncompressedBgra32 rect palette

end LibRdp.Graphics
