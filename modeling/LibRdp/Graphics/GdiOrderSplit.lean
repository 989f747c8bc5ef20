import LibRdp.Coding.Frame
import LibRdp.Common

/-! # Secondary and alternate secondary orders

Orders stand one after the other without anything between them. A secondary order says how long it
is, less thirteen bytes; an alternate secondary order does not, and its length comes from what its
type has in its payload.
-/

namespace LibRdp.Graphics

open Coding

/-! ## Order types -/

/-- `rdp_gdi_secondary_order_supported`; the types are `RDP_GDI_SECONDARY_*`. -/
def secondaryOrderSupported (orderType : UInt8) : Bool :=
  [0x00, 0x01, 0x02, 0x03, 0x04, 0x05, 0x07, 0x08].contains orderType

/-- The alternate secondary orders, `RDP_GDI_ALTSEC_*`. -/
inductive AltsecOrderType where
  | switchSurface
  | createOffscreenBitmap
  | streamBitmapFirst
  | streamBitmapNext
  | createNinegridBitmap
  | drawGdiplusFirst
  | drawGdiplusNext
  | drawGdiplusEnd
  | drawGdiplusCacheFirst
  | drawGdiplusCacheNext
  | drawGdiplusCacheEnd
  | window
  | compdeskFirst
  | frameMarker
  deriving Repr, DecidableEq

def AltsecOrderType.code : AltsecOrderType → UInt8
  | .switchSurface => 0x00
  | .createOffscreenBitmap => 0x01
  | .streamBitmapFirst => 0x02
  | .streamBitmapNext => 0x03
  | .createNinegridBitmap => 0x04
  | .drawGdiplusFirst => 0x05
  | .drawGdiplusNext => 0x06
  | .drawGdiplusEnd => 0x07
  | .drawGdiplusCacheFirst => 0x08
  | .drawGdiplusCacheNext => 0x09
  | .drawGdiplusCacheEnd => 0x0a
  | .window => 0x0b
  | .compdeskFirst => 0x0c
  | .frameMarker => 0x0d

def altsecOrderTypes : List AltsecOrderType :=
  [.switchSurface, .createOffscreenBitmap, .streamBitmapFirst, .streamBitmapNext,
    .createNinegridBitmap, .drawGdiplusFirst, .drawGdiplusNext, .drawGdiplusEnd,
    .drawGdiplusCacheFirst, .drawGdiplusCacheNext, .drawGdiplusCacheEnd, .window, .compdeskFirst,
    .frameMarker]

/-- The type with a code, if `rdp_gdi_altsec_order_supported` has it. -/
def AltsecOrderType.ofCode (code : UInt8) : Option AltsecOrderType :=
  altsecOrderTypes.find? (·.code == code)

/-! ## Secondary orders -/

/-- `rdp_gdi_secondary_order_header`. -/
structure SecondaryOrderHeader where
  controlFlags : UInt8
  orderLength : UInt16
  actualLength : Nat
  extraFlags : UInt16
  orderType : UInt8
  payload : Bytes
  deriving Repr, DecidableEq

/-- `rdp_gdi_parse_secondary_order`. -/
def parseSecondaryOrder (data : Bytes) : Attempt SecondaryOrderHeader :=
  if data.length < 6 then refuse .protocolError
  else do
    let (controlFlags, stream) ← readU8 data
    let (orderLength, stream) ← readU16Le stream
    let (extraFlags, stream) ← readU16Le stream
    let (orderType, stream) ← readU8 stream
    if controlFlags &&& 0x03 ≠ 0x03 ∨ ¬ secondaryOrderSupported orderType then
      refuse .protocolError
    else
      let actualLength := orderLength.toNat + 13
      if actualLength > data.length ∨ actualLength < 6 then refuse .protocolError
      else do
        let (payload, _) ← readBytes stream (actualLength - 6)
        pure { controlFlags, orderLength, actualLength, extraFlags, orderType, payload }

/-- `rdp_gdi_write_secondary_order`: the bytes that it appends. -/
def writeSecondaryOrder (extraFlags : UInt16) (orderType : UInt8) (payload : Bytes) :
    Attempt Bytes :=
  if ¬ secondaryOrderSupported orderType ∨ payload.length < 7 ∨ payload.length - 7 > 65535 then
    refuse .invalidArgument
  else
    pure (0x03 :: (u16LeBytes (payload.length - 7) ++ u16LeBytes extraFlags.toNat ++ [orderType] ++
      payload))

/-! ## Alternate secondary orders -/

def byteAt (payload : Bytes) (offset : Nat) : Attempt UInt8 :=
  match payload.drop offset with
  | byte :: _ => pure byte
  | _ => .error (.fault .outOfBounds)

/-- `rdp_gdi_read_u16_le_unchecked`. -/
def wordAt (payload : Bytes) (offset : Nat) : Attempt Nat :=
  match payload.drop offset with
  | b0 :: b1 :: _ => pure (u16Le b0 b1)
  | _ => .error (.fault .outOfBounds)

/-- `RDP_GDI_MAX_OFFSCREEN_DELETE_INDICES`. -/
def maxOffscreenDeleteIndices : Nat := 512

/-- `RDP_GDI_STREAM_BITMAP_V2`. -/
def streamBitmapV2 : UInt8 := 0x04

/-- The cases with a length in the payload: so many bytes must be there, and the length counts from
    an offset on. -/
def lengthAt (payload : Bytes) (least offset base : Nat) : Attempt Nat :=
  if payload.length < least then refuse .protocolError
  else do
    let length ← wordAt payload offset
    pure (base + length)

/-- The switch in `rdp_gdi_altsec_payload_length`; `payload` is what is left of the stream. -/
def altsecNeed (orderType : AltsecOrderType) (payload : Bytes) : Attempt Nat :=
  match orderType with
  | .switchSurface => pure 2
  | .frameMarker => pure 4
  | .createNinegridBitmap => pure 19
  | .createOffscreenBitmap =>
      if payload.length < 6 then refuse .protocolError
      else do
        let flags ← byteAt payload 1
        if flags &&& 0x80 ≠ 0 then
          if payload.length < 8 then refuse .protocolError
          else do
            let deleteCount ← wordAt payload 6
            if deleteCount > maxOffscreenDeleteIndices then refuse .unsupported
            else pure (8 + deleteCount * 2)
        else pure 6
  | .streamBitmapFirst =>
      if payload.length < 12 then refuse .protocolError
      else do
        let flags ← byteAt payload 0
        if flags &&& streamBitmapV2 ≠ 0 then lengthAt payload 14 12 14
        else lengthAt payload 12 10 12
  | .streamBitmapNext => lengthAt payload 5 3 5
  | .drawGdiplusFirst | .drawGdiplusEnd => lengthAt payload 10 0 10
  | .drawGdiplusNext => lengthAt payload 2 0 2
  | .drawGdiplusCacheFirst | .drawGdiplusCacheEnd => lengthAt payload 11 5 11
  | .drawGdiplusCacheNext => lengthAt payload 7 5 7
  | .window =>
      if payload.length < 2 then refuse .protocolError
      else do
        let orderSize ← wordAt payload 0
        if orderSize < 3 then refuse .protocolError else pure (orderSize - 1)
  | .compdeskFirst => pure payload.length

/-- `rdp_gdi_altsec_payload_length`. -/
def altsecPayloadLength (orderType : AltsecOrderType) (payload : Bytes) : Attempt Nat := do
  let need ← altsecNeed orderType payload
  if need > payload.length then refuse .protocolError else pure need

/-- `rdp_gdi_altsec_order_header`. -/
structure AltsecOrderHeader where
  controlFlags : UInt8
  orderType : AltsecOrderType
  payload : Bytes
  actualLength : Nat
  deriving Repr, DecidableEq

/-- `rdp_gdi_parse_altsec_order`. -/
def parseAltsecOrder (data : Bytes) : Attempt AltsecOrderHeader := do
  let (controlFlags, stream) ← readU8 data
  if controlFlags &&& 0x03 ≠ 0x02 then refuse .protocolError
  else
    match AltsecOrderType.ofCode (controlFlags >>> 2) with
    | none => refuse .protocolError
    | some orderType => do
        let length ← altsecPayloadLength orderType stream
        let (payload, rest) ← readBytes stream length
        pure { controlFlags, orderType, payload, actualLength := data.length - rest.length }

/-- `rdp_gdi_write_altsec_order`: the bytes that it appends. -/
def writeAltsecOrder (orderType : AltsecOrderType) (payload : Bytes) : Attempt Bytes :=
  pure ((orderType.code <<< 2 ||| 0x02) :: payload)

/-! ## Streamed bitmaps -/

/-- `rdp_gdi_stream_bitmap_first_order`. -/
structure StreamBitmapFirstOrder where
  flags : UInt32
  bitsPerPixel : UInt32
  bitmapType : UInt32
  width : UInt32
  height : UInt32
  bitmapSize : UInt32
  bitmapBlock : Bytes
  deriving Repr, DecidableEq

/-- `rdp_gdi_parse_stream_bitmap_first_order`. -/
def parseStreamBitmapFirstOrder (header : AltsecOrderHeader) : Attempt StreamBitmapFirstOrder :=
  if header.orderType ≠ .streamBitmapFirst then refuse .unsupported
  else if header.payload.length < 10 then refuse .protocolError
  else do
    let (flags, stream) ← readU8 header.payload
    let (bpp, stream) ← readU8 stream
    let (bitmapType, stream) ← readU16Le stream
    let (width, stream) ← readU16Le stream
    let (height, stream) ← readU16Le stream
    let (bitmapSize, stream) ←
      if flags &&& streamBitmapV2 ≠ 0 then readU32Le stream
      else do
        let (size, stream) ← readU16Le stream
        pure (size.toUInt32, stream)
    let (blockLen, stream) ← readU16Le stream
    let (block, stream) ← readBytes stream blockLen.toNat
    if stream.length ≠ 0 ∨ bpp = 0 ∨ bpp > 32 ∨ width = 0 ∨ height = 0 ∨ bitmapSize = 0 ∨
        blockLen.toUInt32 > bitmapSize then refuse .protocolError
    else
      pure { flags := flags.toUInt32, bitsPerPixel := bpp.toUInt32, bitmapType := bitmapType.toUInt32
             width := width.toUInt32, height := height.toUInt32, bitmapSize, bitmapBlock := block }

/-- `rdp_gdi_write_stream_bitmap_first_order`: the bytes that it appends. -/
def writeStreamBitmapFirstOrder (order : StreamBitmapFirstOrder) : Attempt Bytes :=
  if order.flags > 0xff ∨ order.bitsPerPixel = 0 ∨ order.bitsPerPixel > 32 ∨
      order.bitmapType > 0xffff ∨ order.width = 0 ∨ order.width > 0xffff ∨ order.height = 0 ∨
      order.height > 0xffff ∨ order.bitmapSize = 0 ∨
      order.bitmapBlock.length > order.bitmapSize.toNat ∨ order.bitmapBlock.length > 0xffff then
    refuse .invalidArgument
  else if order.flags.toUInt8 &&& streamBitmapV2 = 0 ∧ order.bitmapSize > 0xffff then
    refuse .invalidArgument
  else
    pure ([order.flags.toUInt8, order.bitsPerPixel.toUInt8] ++ u16LeBytes order.bitmapType.toNat ++
      u16LeBytes order.width.toNat ++ u16LeBytes order.height.toNat ++
      (if order.flags.toUInt8 &&& streamBitmapV2 ≠ 0 then u32LeBytes order.bitmapSize.toNat
        else u16LeBytes order.bitmapSize.toNat) ++
      u16LeBytes order.bitmapBlock.length ++ order.bitmapBlock)

/-- `rdp_gdi_stream_bitmap_next_order`. -/
structure StreamBitmapNextOrder where
  flags : UInt32
  bitmapType : UInt32
  bitmapBlock : Bytes
  deriving Repr, DecidableEq

/-- `rdp_gdi_parse_stream_bitmap_next_order`. -/
def parseStreamBitmapNextOrder (header : AltsecOrderHeader) : Attempt StreamBitmapNextOrder :=
  if header.orderType ≠ .streamBitmapNext then refuse .unsupported
  else if header.payload.length < 5 then refuse .protocolError
  else do
    let (flags, stream) ← readU8 header.payload
    let (bitmapType, stream) ← readU16Le stream
    let (blockLen, stream) ← readU16Le stream
    let (block, stream) ← readBytes stream blockLen.toNat
    if stream.length ≠ 0 then refuse .protocolError
    else
      pure { flags := flags.toUInt32, bitmapType := bitmapType.toUInt32, bitmapBlock := block }

/-- `rdp_gdi_write_stream_bitmap_next_order`: the bytes that it appends. -/
def writeStreamBitmapNextOrder (order : StreamBitmapNextOrder) : Attempt Bytes :=
  if order.flags > 0xff ∨ order.bitmapType > 0xffff ∨ order.bitmapBlock.length > 0xffff then
    refuse .invalidArgument
  else
    pure (order.flags.toUInt8 :: (u16LeBytes order.bitmapType.toNat ++
      u16LeBytes order.bitmapBlock.length ++ order.bitmapBlock))

/-! ## Orders in a row -/

inductive GdiOrder where
  | secondary (extraFlags : UInt16) (orderType : UInt8) (payload : Bytes)
  | altsec (orderType : AltsecOrderType) (payload : Bytes)
  deriving Repr, DecidableEq

def GdiOrder.write : GdiOrder → Attempt Bytes
  | .secondary extraFlags orderType payload => writeSecondaryOrder extraFlags orderType payload
  | .altsec orderType payload => writeAltsecOrder orderType payload

inductive SplitOrder where
  | secondary (header : SecondaryOrderHeader)
  | altsec (header : AltsecOrderHeader)
  deriving Repr, DecidableEq

def SplitOrder.actualLength : SplitOrder → Nat
  | .secondary header => header.actualLength
  | .altsec header => header.actualLength

/-- The parser that the two lowest bits of the next order choose; primary orders are not split. -/
def splitOrder (data : Bytes) : Attempt SplitOrder :=
  match data with
  | [] => refuse .protocolError
  | controlFlags :: _ =>
      if controlFlags &&& 0x03 = 0x03 then do
        let header ← parseSecondaryOrder data
        pure (.secondary header)
      else if controlFlags &&& 0x03 = 0x02 then do
        let header ← parseAltsecOrder data
        pure (.altsec header)
      else refuse .protocolError

/-- A turn of the loop over the orders, with those that it has found. -/
def splitStep (found : List SplitOrder) (data : Bytes) : Attempt (List SplitOrder × Bytes) := do
  let order ← splitOrder data
  pure (found ++ [order], data.drop order.actualLength)

variable {data : Bytes} {bitmapId : Nat} {value : UInt32}

theorem parseSecondaryOrder_length {header : SecondaryOrderHeader}
    (parsed : parseSecondaryOrder data = .ok header) : 0 < header.actualLength := by
  simp only [parseSecondaryOrder, bind_eq_ok, refuse_else, attempt_pure, Except.ok.injEq] at parsed
  obtain ⟨-, controlFlags, -, orderLength, -, extraFlags, -, orderType, -, -, -, payload, -, rfl⟩ :=
    parsed
  exact Nat.succ_pos _

variable {header : AltsecOrderHeader} {order : StreamBitmapFirstOrder} {payload : Bytes}

theorem parseAltsecOrder_length (parsed : parseAltsecOrder data = .ok header) :
    0 < header.actualLength := by
  obtain ⟨⟨controlFlags, stream⟩, first, parsed⟩ := bind_eq_ok.mp parsed
  cases readU8_eq_ok.mp first
  simp only at parsed
  split at parsed
  · cases parsed
  split at parsed
  · cases parsed
  obtain ⟨length, -, parsed⟩ := bind_eq_ok.mp parsed
  obtain ⟨⟨payload, rest⟩, read, parsed⟩ := bind_eq_ok.mp parsed
  have left := (readBytes_length read).2
  cases parsed
  simp only [List.length_cons]
  omega

theorem splitStep_consumes (found : List SplitOrder) : Coding.Consumes (splitStep found) := by
  intro data next rest stepped
  obtain ⟨order, split, stepped⟩ := bind_eq_ok.mp stepped
  cases stepped
  unfold splitOrder at split
  cases data with
  | nil => cases split
  | cons controlFlags tail =>
    have some' : 0 < order.actualLength := by
      simp only at split
      split at split
      · obtain ⟨header, parsed, same⟩ := bind_eq_ok.mp split
        cases same
        exact parseSecondaryOrder_length parsed
      split at split
      · obtain ⟨header, parsed, same⟩ := bind_eq_ok.mp split
        cases same
        exact parseAltsecOrder_length parsed
      · cases split
    rw [List.length_drop, List.length_cons]
    omega

def orderSplitter : Consumer UInt8 Stop (List SplitOrder) := ⟨splitStep, splitStep_consumes⟩

def splitOrders (data : Bytes) : Attempt (List SplitOrder) := orderSplitter.drain [] data

/-! ## What is written -/

inductive AltsecWire : AltsecOrderType → Bytes → Prop where
  | streamBitmapFirst {order : StreamBitmapFirstOrder} {payload : Bytes}
      (written : writeStreamBitmapFirstOrder order = .ok payload) :
      AltsecWire .streamBitmapFirst payload
  | streamBitmapNext {order : StreamBitmapNextOrder} {payload : Bytes}
      (written : writeStreamBitmapNextOrder order = .ok payload) :
      AltsecWire .streamBitmapNext payload
  | switchSurface (bitmapId : UInt16) : AltsecWire .switchSurface (u16LeBytes bitmapId.toNat)
  | frameMarker (action : UInt32) : AltsecWire .frameMarker (u32LeBytes action.toNat)
  | createNinegridBitmap (bitsPerPixel : UInt8) (bitmapId : UInt16) (flags : UInt32)
      (leftWidth rightWidth topHeight bottomHeight : UInt16) (transparentColor : UInt32) :
      AltsecWire .createNinegridBitmap (bitsPerPixel :: (u16LeBytes bitmapId.toNat ++
        u32LeBytes flags.toNat ++ u16LeBytes leftWidth.toNat ++ u16LeBytes rightWidth.toNat ++
        u16LeBytes topHeight.toNat ++ u16LeBytes bottomHeight.toNat ++
        u32LeBytes transparentColor.toNat))
  | createOffscreenBitmap {bitmapId : Nat} (small : bitmapId < 0x8000) (width height : UInt16) :
      AltsecWire .createOffscreenBitmap (u16LeBytes bitmapId ++ u16LeBytes width.toNat ++
        u16LeBytes height.toNat)
  | createOffscreenBitmapDeleting {bitmapId : Nat} (small : bitmapId < 0x8000)
      (width height : UInt16) {deleteIndices : List UInt16}
      (few : deleteIndices.length ≤ maxOffscreenDeleteIndices) :
      AltsecWire .createOffscreenBitmap (u16LeBytes (bitmapId + 0x8000) ++ u16LeBytes width.toNat ++
        u16LeBytes height.toNat ++ u16LeBytes deleteIndices.length ++
        deleteIndices.flatMap fun index => u16LeBytes index.toNat)

def GdiOrder.Wire : GdiOrder → Prop
  | .secondary _ _ _ => True
  | .altsec orderType payload => AltsecWire orderType payload

def GdiOrder.split : GdiOrder → SplitOrder
  | .secondary extraFlags orderType payload =>
      .secondary { controlFlags := 0x03, orderLength := UInt16.ofNat (payload.length - 7)
                   actualLength := payload.length + 6, extraFlags, orderType, payload }
  | .altsec orderType payload =>
      .altsec { controlFlags := orderType.code <<< 2 ||| 0x02, orderType, payload
                actualLength := payload.length + 1 }

theorem wordAt_append {front : Bytes} {word : Nat} (small : word < 65536) (tail : Bytes) :
    wordAt (front ++ (u16LeBytes word ++ tail)) front.length = .ok word := by
  rw [wordAt, List.drop_left]
  simp only [u16LeBytes, List.cons_append, List.nil_append, attempt_pure, u16Le_bytes small]

theorem lengthAt_append {front middle tail : Bytes} {word least base : Nat} (small : word < 65536)
    (enough : least ≤ front.length + 2 + middle.length) :
    lengthAt (front ++ (u16LeBytes word ++ middle) ++ tail) least front.length base =
      .ok (base + word) := by
  have long : (front ++ (u16LeBytes word ++ middle) ++ tail).length =
      front.length + (2 + middle.length) + tail.length := by
    simp only [List.length_append, u16LeBytes_length]
  rw [lengthAt, if_neg (by omega), List.append_assoc, List.append_assoc, wordAt_append small]
  rfl

theorem writeStreamBitmapNextOrder_ok {order : StreamBitmapNextOrder}
    (written : writeStreamBitmapNextOrder order = .ok payload) :
    order.flags.toNat < 256 ∧ order.bitmapType.toNat < 65536 ∧ order.bitmapBlock.length < 65536 ∧
      payload = order.flags.toUInt8 :: (u16LeBytes order.bitmapType.toNat ++
        u16LeBytes order.bitmapBlock.length ++ order.bitmapBlock) := by
  unfold writeStreamBitmapNextOrder at written
  split at written
  · cases written
  rename_i fits
  simp only [not_or, gt_iff_lt, UInt32.not_lt, UInt32.le_iff_toNat_le] at fits
  obtain ⟨flags, bitmapType, block⟩ := fits
  cases written
  exact ⟨Nat.lt_succ_of_le flags, Nat.lt_succ_of_le bitmapType, by omega, rfl⟩

def sizeBytes (order : StreamBitmapFirstOrder) : Bytes :=
  if order.flags.toUInt8 &&& streamBitmapV2 ≠ 0 then u32LeBytes order.bitmapSize.toNat
  else u16LeBytes order.bitmapSize.toNat

structure StreamBitmapFirstOrder.Fits (order : StreamBitmapFirstOrder) : Prop where
  flags : order.flags.toNat < 256
  bitsPerPixel : order.bitsPerPixel ≠ 0 ∧ order.bitsPerPixel ≤ 32
  bitmapType : order.bitmapType.toNat < 65536
  width : order.width ≠ 0 ∧ order.width.toNat < 65536
  height : order.height ≠ 0 ∧ order.height.toNat < 65536
  bitmapSize : order.bitmapSize ≠ 0
  block : order.bitmapBlock.length ≤ order.bitmapSize.toNat ∧ order.bitmapBlock.length < 65536
  short : order.flags.toUInt8 &&& streamBitmapV2 = 0 → order.bitmapSize.toNat < 65536

theorem writeStreamBitmapFirstOrder_ok (written : writeStreamBitmapFirstOrder order = .ok payload) :
    order.Fits ∧ payload = [order.flags.toUInt8, order.bitsPerPixel.toUInt8] ++
      u16LeBytes order.bitmapType.toNat ++ u16LeBytes order.width.toNat ++
      u16LeBytes order.height.toNat ++ sizeBytes order ++ u16LeBytes order.bitmapBlock.length ++
      order.bitmapBlock := by
  simp only [writeStreamBitmapFirstOrder, refuse_else, not_or, gt_iff_lt, not_and, UInt32.not_lt,
    UInt32.le_iff_toNat_le] at written
  obtain ⟨⟨flags, bpp, bpp', bitmapType, width, width', height, height', size, block, block'⟩,
    short, ⟨⟩⟩ := written
  refine ⟨⟨Nat.lt_succ_of_le flags, ⟨bpp, UInt32.le_iff_toNat_le.mpr bpp'⟩,
    Nat.lt_succ_of_le bitmapType, ⟨width, Nat.lt_succ_of_le width'⟩,
    ⟨height, Nat.lt_succ_of_le height'⟩, size, ⟨by omega, by omega⟩, fun clear => ?_⟩, rfl⟩
  exact Nat.lt_succ_of_le (short clear)

theorem altsecNeed_next {order : StreamBitmapNextOrder} (block : order.bitmapBlock.length < 65536)
    (tail : Bytes) :
    altsecNeed .streamBitmapNext (order.flags.toUInt8 :: (u16LeBytes order.bitmapType.toNat ++
        u16LeBytes order.bitmapBlock.length ++ order.bitmapBlock) ++ tail) =
      .ok (order.flags.toUInt8 :: (u16LeBytes order.bitmapType.toNat ++
        u16LeBytes order.bitmapBlock.length ++ order.bitmapBlock)).length := by
  have need := @lengthAt_append (order.flags.toUInt8 :: u16LeBytes order.bitmapType.toNat)
    order.bitmapBlock tail order.bitmapBlock.length 5 5 block (by
      rw [List.length_cons, u16LeBytes_length]
      omega)
  have same : order.flags.toUInt8 :: (u16LeBytes order.bitmapType.toNat ++
      u16LeBytes order.bitmapBlock.length ++ order.bitmapBlock) =
      (order.flags.toUInt8 :: u16LeBytes order.bitmapType.toNat) ++
        (u16LeBytes order.bitmapBlock.length ++ order.bitmapBlock) := by
    rw [List.append_assoc]
    rfl
  rw [same]
  refine Eq.trans need ?_
  congr 1
  simp only [List.length_append, List.length_cons, u16LeBytes_length]
  omega

theorem altsecNeed_first (fits : order.Fits) (tail : Bytes) :
    altsecNeed .streamBitmapFirst ([order.flags.toUInt8, order.bitsPerPixel.toUInt8] ++
        u16LeBytes order.bitmapType.toNat ++ u16LeBytes order.width.toNat ++
        u16LeBytes order.height.toNat ++ sizeBytes order ++ u16LeBytes order.bitmapBlock.length ++
        order.bitmapBlock ++ tail) =
      .ok ([order.flags.toUInt8, order.bitsPerPixel.toUInt8] ++
        u16LeBytes order.bitmapType.toNat ++ u16LeBytes order.width.toNat ++
        u16LeBytes order.height.toNat ++ sizeBytes order ++ u16LeBytes order.bitmapBlock.length ++
        order.bitmapBlock).length := by
  generalize front : [order.flags.toUInt8, order.bitsPerPixel.toUInt8] ++
    u16LeBytes order.bitmapType.toNat ++ u16LeBytes order.width.toNat ++
    u16LeBytes order.height.toNat ++ sizeBytes order = head
  have first : byteAt (head ++ u16LeBytes order.bitmapBlock.length ++ order.bitmapBlock ++ tail) 0 =
      .ok order.flags.toUInt8 := by
    rw [← front]
    rfl
  have headLength : head.length = 8 + (sizeBytes order).length := by
    rw [← front]
    simp only [List.length_append, List.length_cons, List.length_nil, u16LeBytes_length]
  have long : (head ++ u16LeBytes order.bitmapBlock.length ++ order.bitmapBlock ++ tail).length =
      head.length + 2 + order.bitmapBlock.length + tail.length := by
    simp only [List.length_append, u16LeBytes_length]
  have most : 2 ≤ (sizeBytes order).length := by
    unfold sizeBytes
    split <;> simp
  rw [altsecNeed, if_neg (by omega), first, ok_bind]
  rw [List.append_assoc head]
  have need := @lengthAt_append head order.bitmapBlock tail order.bitmapBlock.length
    (head.length + 2) (head.length + 2) fits.block.2 (by omega)
  have total : head.length + 2 + order.bitmapBlock.length =
      (head ++ (u16LeBytes order.bitmapBlock.length ++ order.bitmapBlock)).length := by
    rw [List.length_append, List.length_append, u16LeBytes_length, Nat.add_assoc]
  by_cases second : order.flags.toUInt8 &&& streamBitmapV2 ≠ 0
  · have whole : head.length = 12 := by
      rw [headLength, sizeBytes, if_pos second]
      rfl
    rw [← total, if_pos second, ← need, whole]
  have whole : head.length = 10 := by
    rw [headLength, sizeBytes, if_neg second]
    rfl
  rw [← total, if_neg second, ← need, whole]

theorem highBit_clear : ∀ high < 128, UInt8.ofNat high &&& 0x80 = 0 := by decide

theorem highBit_set : ∀ high < 128, UInt8.ofNat (high + 128) &&& 0x80 ≠ 0 := by decide

theorem altsecNeed_offscreen (small : bitmapId < 0x8000) (width height : UInt16) (tail : Bytes) :
    altsecNeed .createOffscreenBitmap (u16LeBytes bitmapId ++ u16LeBytes width.toNat ++
      u16LeBytes height.toNat ++ tail) = .ok 6 := by
  have flags : byteAt (u16LeBytes bitmapId ++ u16LeBytes width.toNat ++ u16LeBytes height.toNat ++
      tail) 1 = .ok (UInt8.ofNat (bitmapId / 256)) := rfl
  rw [altsecNeed, if_neg (by simp only [List.length_append, u16LeBytes_length]; omega), flags,
    ok_bind,
    if_neg (not_not.mpr (highBit_clear _ (by omega)))]
  rfl

theorem words_length (words : List UInt16) :
    (words.flatMap fun word => u16LeBytes word.toNat).length = words.length * 2 := by
  induction words with
  | nil => rfl
  | cons word words ih =>
    rw [List.flatMap_cons, List.length_append, ih, u16LeBytes_length, List.length_cons]
    omega

theorem altsecNeed_offscreen_deleting (small : bitmapId < 0x8000) (width height : UInt16)
    {deleteIndices : List UInt16} (few : deleteIndices.length ≤ maxOffscreenDeleteIndices)
    (tail : Bytes) :
    altsecNeed .createOffscreenBitmap (u16LeBytes (bitmapId + 0x8000) ++ u16LeBytes width.toNat ++
        u16LeBytes height.toNat ++ u16LeBytes deleteIndices.length ++
        (deleteIndices.flatMap fun index => u16LeBytes index.toNat) ++ tail) =
      .ok (u16LeBytes (bitmapId + 0x8000) ++ u16LeBytes width.toNat ++ u16LeBytes height.toNat ++
        u16LeBytes deleteIndices.length ++
        deleteIndices.flatMap fun index => u16LeBytes index.toNat).length := by
  have limit : maxOffscreenDeleteIndices = 512 := rfl
  have high : (bitmapId + 0x8000) / 256 = bitmapId / 256 + 128 := by omega
  generalize deletes : (deleteIndices.flatMap fun index => u16LeBytes index.toNat) = listed
  have many : listed.length = deleteIndices.length * 2 := by
    rw [← deletes]
    exact words_length deleteIndices
  generalize front : u16LeBytes (bitmapId + 0x8000) ++ u16LeBytes width.toNat ++
    u16LeBytes height.toNat = head
  have headLength : head.length = 6 := by
    rw [← front]
    rfl
  have flags : byteAt (head ++ u16LeBytes deleteIndices.length ++ listed ++ tail) 1 =
      .ok (UInt8.ofNat (bitmapId / 256 + 128)) := by
    rw [← front, ← high]
    rfl
  have count := @wordAt_append head deleteIndices.length (by omega) (listed ++ tail)
  have long : (head ++ u16LeBytes deleteIndices.length ++ listed ++ tail).length =
      6 + 2 + listed.length + tail.length := by
    simp only [List.length_append, u16LeBytes_length, headLength]
  rw [headLength] at count
  rw [altsecNeed, if_neg (by omega), flags, ok_bind, if_pos (highBit_set _ (by omega)),
    if_neg (by omega), List.append_assoc, List.append_assoc, count, ok_bind,
    if_neg (by omega), List.length_append, List.length_append, u16LeBytes_length, headLength, many]
  rfl

variable {orderType : AltsecOrderType} {bytes : Bytes}

theorem altsecNeed_wire (wire : AltsecWire orderType payload) (tail : Bytes) :
    altsecNeed orderType (payload ++ tail) = .ok payload.length := by
  cases wire with
  | switchSurface bitmapId => rfl
  | frameMarker action => rfl
  | createNinegridBitmap => rfl
  | streamBitmapNext written =>
    obtain ⟨-, -, block, rfl⟩ := writeStreamBitmapNextOrder_ok written
    exact altsecNeed_next block tail
  | streamBitmapFirst written =>
    obtain ⟨fits, rfl⟩ := writeStreamBitmapFirstOrder_ok written
    exact altsecNeed_first fits tail
  | createOffscreenBitmap small width height => exact altsecNeed_offscreen small width height tail
  | createOffscreenBitmapDeleting small width height few =>
    exact altsecNeed_offscreen_deleting small width height few tail

/-! ## What is split -/

theorem altsecControl (orderType : AltsecOrderType) :
    (orderType.code <<< 2 ||| 0x02) &&& 0x03 = 0x02 ∧
      AltsecOrderType.ofCode ((orderType.code <<< 2 ||| 0x02) >>> 2) = some orderType := by
  cases orderType <;> decide

theorem parseAltsecOrder_wire (wire : AltsecWire orderType payload) (tail : Bytes) :
    parseAltsecOrder ((orderType.code <<< 2 ||| 0x02) :: payload ++ tail) =
      .ok { controlFlags := orderType.code <<< 2 ||| 0x02, orderType, payload
            actualLength := payload.length + 1 } := by
  obtain ⟨low, type⟩ := altsecControl orderType
  rw [parseAltsecOrder, List.cons_append, readU8_cons, ok_bind]
  simp only
  rw [if_neg (not_not.mpr low), type]
  simp only
  rw [altsecPayloadLength, altsecNeed_wire wire tail, ok_bind,
    if_neg (by rw [List.length_append]; omega), attempt_pure, ok_bind, readBytes_append,
    ok_bind, attempt_pure]
  simp only [List.length_cons, List.length_append]
  congr 2
  omega

theorem parseSecondaryOrder_written {extraFlags : UInt16} {orderType : UInt8}
    (written : writeSecondaryOrder extraFlags orderType payload = .ok bytes) (tail : Bytes) :
    parseSecondaryOrder (bytes ++ tail) =
        .ok { controlFlags := 0x03, orderLength := UInt16.ofNat (payload.length - 7)
              actualLength := payload.length + 6, extraFlags, orderType, payload } ∧
      ∃ rest, bytes = 0x03 :: rest ∧ rest.length = payload.length + 5 := by
  unfold writeSecondaryOrder at written
  split at written
  · cases written
  rename_i fits
  simp only [not_or, Decidable.not_not] at fits
  obtain ⟨supported, long, short⟩ := fits
  cases written
  refine ⟨?_, _, rfl, ?_⟩
  · have small : payload.length - 7 < 65536 := by omega
    have length := readU16Le_nat small
      (u16LeBytes extraFlags.toNat ++ ([orderType] ++ (payload ++ tail)))
    have stored : (UInt16.ofNat (payload.length - 7)).toNat = payload.length - 7 :=
      UInt16.toNat_ofNat_of_lt' small
    have actual : payload.length - 7 + 13 = payload.length + 6 := by omega
    rw [parseSecondaryOrder, if_neg, List.cons_append, readU8_cons, ok_bind,
      List.append_assoc, List.append_assoc, List.append_assoc]
    · simp only
      rw [length, ok_bind]
      simp only [readU16Le_append, ok_bind, List.cons_append, List.nil_append, readU8_cons]
      rw [if_neg (by simp [supported]), stored, actual, if_neg, Nat.add_sub_cancel,
        readBytes_append]
      · rfl
      · simp only [List.length_cons, List.length_append, u16LeBytes_length]
        omega
    · simp only [List.length_append, List.length_cons, u16LeBytes_length]
      omega
  · simp only [List.length_append, List.length_cons, u16LeBytes_length, List.length_nil]
    omega

theorem splitOrder_written {order : GdiOrder} (wire : order.Wire)
    (written : order.write = .ok bytes) (tail : Bytes) :
    splitOrder (bytes ++ tail) = .ok order.split ∧
      order.split.actualLength = bytes.length := by
  cases order with
  | secondary extraFlags orderType payload =>
    obtain ⟨parsed, rest, rfl, length⟩ := parseSecondaryOrder_written written tail
    rw [List.cons_append] at parsed ⊢
    rw [splitOrder, if_pos (by decide), parsed]
    refine ⟨rfl, ?_⟩
    rw [List.length_cons, length]
    rfl
  | altsec orderType payload =>
    cases written
    have parsed := parseAltsecOrder_wire wire tail
    obtain ⟨low, -⟩ := altsecControl orderType
    rw [List.cons_append] at parsed ⊢
    rw [splitOrder, if_neg (by rw [low]; decide), if_pos low, parsed]
    exact ⟨rfl, rfl⟩

theorem toUInt8_toUInt32 (small : value.toNat < 256) : value.toUInt8.toUInt32 = value := by
  apply UInt32.toNat.inj
  rw [UInt8.toNat_toUInt32, UInt32.toNat_toUInt8]
  exact Nat.mod_eq_of_lt small

theorem ofNat_toUInt32 (small : value.toNat < 65536) :
    (UInt16.ofNat value.toNat).toUInt32 = value := by
  apply UInt32.toNat.inj
  rw [UInt16.toNat_toUInt32]
  exact UInt16.toNat_ofNat_of_lt' small

theorem parseStreamBitmapNextOrder_written {order : StreamBitmapNextOrder}
    (written : writeStreamBitmapNextOrder order = .ok payload)
    (type : header.orderType = .streamBitmapNext) (same : header.payload = payload) :
    parseStreamBitmapNextOrder header = .ok order := by
  obtain ⟨flags, bitmapType, block, rfl⟩ := writeStreamBitmapNextOrder_ok written
  have read := readU16Le_nat bitmapType (u16LeBytes order.bitmapBlock.length ++ order.bitmapBlock)
  have length := readU16Le_nat block order.bitmapBlock
  have stored : (UInt16.ofNat order.bitmapBlock.length).toNat = order.bitmapBlock.length :=
    UInt16.toNat_ofNat_of_lt' block
  have whole := readBytes_append order.bitmapBlock []
  rw [List.append_nil] at whole
  rw [parseStreamBitmapNextOrder, if_neg (not_not.mpr type), same, if_neg]
  · rw [readU8_cons, ok_bind, List.append_assoc]
    simp only
    rw [read, ok_bind]
    simp only
    rw [length, ok_bind]
    simp only
    rw [stored, whole, ok_bind]
    simp only
    rw [if_neg (by simp), toUInt8_toUInt32 flags, ofNat_toUInt32 bitmapType]
    rfl
  · simp only [List.length_cons, List.length_append, u16LeBytes_length]
    omega

theorem StreamBitmapFirstOrder.Fits.read (fits : order.Fits) :
    ¬ (([] : Bytes).length ≠ 0 ∨ order.bitsPerPixel.toUInt8 = 0 ∨ order.bitsPerPixel.toUInt8 > 32 ∨
      UInt16.ofNat order.width.toNat = 0 ∨ UInt16.ofNat order.height.toNat = 0 ∨
      order.bitmapSize = 0 ∨ (UInt16.ofNat order.bitmapBlock.length).toUInt32 > order.bitmapSize) := by
  obtain ⟨-, ⟨depth, depth'⟩, -, ⟨width, width'⟩, ⟨height, height'⟩, size, ⟨block, block'⟩, -⟩ := fits
  have bits : order.bitsPerPixel.toNat ≤ 32 := UInt32.le_iff_toNat_le.mp depth'
  have positive {value : UInt32} (filled : value ≠ 0) : value.toNat ≠ 0 := fun zero =>
    filled (UInt32.toNat.inj zero)
  have stays {value : UInt32} (filled : value ≠ 0) (small : value.toNat < 65536) :
      UInt16.ofNat value.toNat ≠ 0 := fun zero => by
    have same := congrArg UInt16.toNat zero
    rw [UInt16.toNat_ofNat_of_lt' small] at same
    exact positive filled same
  have narrow : order.bitsPerPixel.toUInt8.toNat = order.bitsPerPixel.toNat := by
    rw [UInt32.toNat_toUInt8]
    exact Nat.mod_eq_of_lt (by omega)
  rintro (filled | zero | many | zero | zero | zero | long)
  · exact filled rfl
  · have same := congrArg UInt8.toNat zero
    rw [narrow] at same
    exact positive depth same
  · have more : 32 < order.bitsPerPixel.toUInt8.toNat := UInt8.lt_iff_toNat_lt.mp many
    omega
  · exact stays width width' zero
  · exact stays height height' zero
  · exact size zero
  · have more := UInt32.lt_iff_toNat_lt.mp long
    rw [UInt16.toNat_toUInt32, UInt16.toNat_ofNat_of_lt' block'] at more
    omega

theorem parseStreamBitmapFirstOrder_written
    (written : writeStreamBitmapFirstOrder order = .ok payload)
    (type : header.orderType = .streamBitmapFirst) (same : header.payload = payload) :
    parseStreamBitmapFirstOrder header = .ok order := by
  obtain ⟨fits, rfl⟩ := writeStreamBitmapFirstOrder_ok written
  have stored : (UInt16.ofNat order.bitmapBlock.length).toNat = order.bitmapBlock.length :=
    UInt16.toNat_ofNat_of_lt' fits.block.2
  have whole := readBytes_append order.bitmapBlock []
  rw [List.append_nil] at whole
  rw [parseStreamBitmapFirstOrder, if_neg (not_not.mpr type), same, if_neg]
  · simp only [List.append_assoc, List.cons_append, List.nil_append, readU8_cons, ok_bind,
      readU16Le_nat fits.bitmapType, readU16Le_nat fits.width.2, readU16Le_nat fits.height.2]
    have bits : order.bitsPerPixel.toNat < 256 :=
      Nat.lt_of_le_of_lt (UInt32.le_iff_toNat_le.mp fits.bitsPerPixel.2) (by decide)
    by_cases second : order.flags.toUInt8 &&& streamBitmapV2 ≠ 0
    · rw [if_pos second, sizeBytes, if_pos second]
      simp only [readU32Le_append, ok_bind, readU16Le_nat fits.block.2, stored, whole]
      rw [if_neg fits.read, toUInt8_toUInt32 fits.flags, toUInt8_toUInt32 bits,
        ofNat_toUInt32 fits.bitmapType, ofNat_toUInt32 fits.width.2, ofNat_toUInt32 fits.height.2]
      rfl
    have short := fits.short (Decidable.not_not.mp second)
    rw [if_neg second, sizeBytes, if_neg second]
    simp only [readU16Le_nat short, ok_bind, attempt_pure, ofNat_toUInt32 short,
      readU16Le_nat fits.block.2, stored, whole]
    rw [if_neg fits.read, toUInt8_toUInt32 fits.flags, toUInt8_toUInt32 bits,
      ofNat_toUInt32 fits.bitmapType, ofNat_toUInt32 fits.width.2, ofNat_toUInt32 fits.height.2]
  · simp only [List.length_cons, List.length_append, u16LeBytes_length]
    omega

theorem splitStep_written {order : GdiOrder} (wire : order.Wire)
    (written : order.write = .ok bytes) (found : List SplitOrder) (tail : Bytes) :
    splitStep found (bytes ++ tail) = .ok (found ++ [order.split], tail) := by
  obtain ⟨split, length⟩ := splitOrder_written wire written tail
  rw [splitStep, split, ok_bind, length, List.drop_left]
  rfl

theorem drain_written {orders : List GdiOrder} (wire : ∀ order ∈ orders, order.Wire)
    {encoded : List Bytes} (written : orders.mapM GdiOrder.write = .ok encoded)
    (found : List SplitOrder) :
    orderSplitter.drain found encoded.flatten = .ok (found ++ orders.map GdiOrder.split) ∧
      orders.map (·.split.actualLength) = encoded.map List.length := by
  induction orders generalizing encoded found with
  | nil =>
    cases written
    refine ⟨?_, rfl⟩
    rw [List.reverse_nil, List.flatten_nil, Consumer.drain_nil, List.map_nil, List.append_nil]
  | cons order orders ih =>
    rw [List.mapM_cons] at written
    obtain ⟨bytes, first, written⟩ := bind_eq_ok.mp written
    obtain ⟨others, rest, written⟩ := bind_eq_ok.mp written
    cases written
    have wired := wire order List.mem_cons_self
    have step := splitStep_written wired first found others.flatten
    obtain ⟨drained, lengths⟩ :=
      ih (fun order held => wire order (List.mem_cons_of_mem _ held)) rest
        (found ++ [order.split])
    constructor
    · rw [List.flatten_cons, orderSplitter.drain_step step, drained, List.append_assoc]
      rfl
    · rw [List.map_cons, List.map_cons, lengths, (splitOrder_written wired first []).2]

/-- Orders split where they were joined, and streamed bitmaps are what they were. -/
theorem orders_split {orders : List GdiOrder} (wire : ∀ order ∈ orders, order.Wire)
    {encoded : List Bytes} (written : orders.mapM GdiOrder.write = .ok encoded) :
    splitOrders encoded.flatten = .ok (orders.map GdiOrder.split) ∧
      orders.map (·.split.actualLength) = encoded.map List.length ∧
      ∀ header, .altsec header ∈ orders.map GdiOrder.split →
        (∀ first, header.orderType = .streamBitmapFirst →
          writeStreamBitmapFirstOrder first = .ok header.payload →
            parseStreamBitmapFirstOrder header = .ok first) ∧
        ∀ next, header.orderType = .streamBitmapNext →
          writeStreamBitmapNextOrder next = .ok header.payload →
            parseStreamBitmapNextOrder header = .ok next := by
  obtain ⟨drained, lengths⟩ := drain_written wire written []
  refine ⟨drained, lengths, fun header _ => ⟨fun first type order => ?_, fun next type order => ?_⟩⟩
  · exact parseStreamBitmapFirstOrder_written order type rfl
  · exact parseStreamBitmapNextOrder_written order type rfl

/-- A streamed bitmap of the second version with a block of two bytes. -/
def streamedBitmap : StreamBitmapFirstOrder :=
  { flags := 0x05, bitsPerPixel := 16, bitmapType := 1, width := 2, height := 1
    bitmapSize := 0x10004, bitmapBlock := [0xab, 0xcd] }

def streamedBlock : StreamBitmapNextOrder :=
  { flags := 0x02, bitmapType := 1, bitmapBlock := [0x02] }

def streamedOrders : List GdiOrder :=
  [.secondary 0x1234 0x07 [1, 2, 3, 4, 5, 6, 7, 8],
    .altsec .streamBitmapFirst
      [0x05, 16, 1, 0, 2, 0, 1, 0, 0x04, 0x00, 0x01, 0x00, 2, 0, 0xab, 0xcd],
    .altsec .streamBitmapNext [0x02, 1, 0, 1, 0, 0x02],
    .altsec .switchSurface [0x03, 0xff]]

def streamedBytes : List Bytes :=
  [[0x03, 1, 0, 0x34, 0x12, 0x07, 1, 2, 3, 4, 5, 6, 7, 8],
    [0x0a, 0x05, 16, 1, 0, 2, 0, 1, 0, 0x04, 0x00, 0x01, 0x00, 2, 0, 0xab, 0xcd],
    [0x0e, 0x02, 1, 0, 1, 0, 0x02], [0x02, 0x03, 0xff]]

theorem streamedOrders_wire : ∀ order ∈ streamedOrders, order.Wire := by
  intro order held
  simp only [streamedOrders, List.mem_cons, List.not_mem_nil, or_false] at held
  obtain rfl | rfl | rfl | rfl := held
  · trivial
  · exact @AltsecWire.streamBitmapFirst streamedBitmap _ rfl
  · exact @AltsecWire.streamBitmapNext streamedBlock _ rfl
  · exact AltsecWire.switchSurface 0xff03

theorem orders_split_streamed :
    splitOrders streamedBytes.flatten = .ok (streamedOrders.map GdiOrder.split) ∧
      parseStreamBitmapFirstOrder
        { controlFlags := 0x0a, orderType := .streamBitmapFirst
          payload := [0x05, 16, 1, 0, 2, 0, 1, 0, 0x04, 0x00, 0x01, 0x00, 2, 0, 0xab, 0xcd]
          actualLength := 17 } = .ok streamedBitmap := by
  obtain ⟨split, -, streamed⟩ := @orders_split _ streamedOrders_wire streamedBytes rfl
  refine ⟨split, (streamed _ ?_).1 streamedBitmap rfl rfl⟩
  exact List.mem_cons_of_mem _ List.mem_cons_self

end LibRdp.Graphics
