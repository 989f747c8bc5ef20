import LibRdp.Common

/-! # The RDP8 decompressor of the graphics pipeline

`rdp_graphics_decompressor` and the functions around
`rdp_graphics_decode_segmented_data`: a ring history of 2500000 bytes, a bit
reader with a byte-wise cache, the token table, and the single and multipart
framing with its snapshot of the history. A reader that fails is never used
again, so failed reads are `none`.
-/

namespace LibRdp.Graphics

open Machine

/-- `RDP_GRAPHICS_BULK_SEGMENT_MAX`, `_MAX_DECODED` and `_HISTORY_SIZE`. -/
def bulkSegmentMax : Nat := 65535
def bulkMaxDecoded : Nat := 64 * 1024 * 1024
def bulkHistorySize : Nat := 2500000

/-- `RDP_GRAPHICS_SEGMENT_SINGLE`, `_SEGMENT_MULTIPART`, `_BULK_PACKET_COMPRESSED` and
    `_BULK_COMPRESSION_TYPE`. -/
def segmentSingle : UInt8 := 0xe0
def segmentMultipart : UInt8 := 0xe1
def bulkPacketCompressed : UInt8 := 0x20
def bulkCompressionType : UInt8 := 0x04

/-- `rdp_graphics_token`. -/
structure GraphicsToken where
  prefixLength : Nat
  prefixCode : Nat
  valueBits : Nat
  isMatch : Bool
  valueBase : Nat
  deriving Repr, DecidableEq

/-- `rdp_graphics_tokens`. -/
def graphicsTokens : List GraphicsToken := [
  ⟨1, 0, 8, false, 0⟩,
  ⟨5, 17, 5, true, 0⟩,
  ⟨5, 18, 7, true, 32⟩,
  ⟨5, 19, 9, true, 160⟩,
  ⟨5, 20, 10, true, 672⟩,
  ⟨5, 21, 12, true, 1696⟩,
  ⟨5, 24, 0, false, 0x00⟩,
  ⟨5, 25, 0, false, 0x01⟩,
  ⟨6, 44, 14, true, 5792⟩,
  ⟨6, 45, 15, true, 22176⟩,
  ⟨6, 52, 0, false, 0x02⟩,
  ⟨6, 53, 0, false, 0x03⟩,
  ⟨6, 54, 0, false, 0xff⟩,
  ⟨7, 92, 18, true, 54944⟩,
  ⟨7, 93, 20, true, 317088⟩,
  ⟨7, 110, 0, false, 0x04⟩,
  ⟨7, 111, 0, false, 0x05⟩,
  ⟨7, 112, 0, false, 0x06⟩,
  ⟨7, 113, 0, false, 0x07⟩,
  ⟨7, 114, 0, false, 0x08⟩,
  ⟨7, 115, 0, false, 0x09⟩,
  ⟨7, 116, 0, false, 0x0a⟩,
  ⟨7, 117, 0, false, 0x0b⟩,
  ⟨7, 118, 0, false, 0x3a⟩,
  ⟨7, 119, 0, false, 0x3b⟩,
  ⟨7, 120, 0, false, 0x3c⟩,
  ⟨7, 121, 0, false, 0x3d⟩,
  ⟨7, 122, 0, false, 0x3e⟩,
  ⟨7, 123, 0, false, 0x3f⟩,
  ⟨7, 124, 0, false, 0x40⟩,
  ⟨7, 125, 0, false, 0x80⟩,
  ⟨8, 188, 20, true, 1365664⟩,
  ⟨8, 189, 21, true, 2414240⟩,
  ⟨8, 252, 0, false, 0x0c⟩,
  ⟨8, 253, 0, false, 0x38⟩,
  ⟨8, 254, 0, false, 0x39⟩,
  ⟨8, 255, 0, false, 0x66⟩]

/-- `rdp_graphics_decompressor`. -/
structure Decompressor where
  history : Option (Memory UInt8)
  historyIndex : Nat
  historyFilled : Nat

def decompressorInit : Decompressor := ⟨none, 0, 0⟩

def decompressorReset (d : Decompressor) : Decompressor :=
  { d with historyIndex := 0, historyFilled := 0 }

/-- The history that `rdp_graphics_decompressor_ensure` leaves. -/
def decompressorEnsure (d : Decompressor) : Memory UInt8 :=
  match d.history with
  | some history => history
  | none => Memory.filled bulkHistorySize 0

/-- `rdp_graphics_decompressor_snapshot`; `had_history` is whether there is a copy. -/
structure Snapshot where
  history : Option (Memory UInt8)
  historyIndex : Nat
  historyFilled : Nat

def snapshotCapture (d : Decompressor) : Snapshot :=
  ⟨d.history, d.historyIndex, d.historyFilled⟩

def snapshotRestore (snapshot : Snapshot) : Decompressor :=
  match snapshot.history with
  | none => ⟨none, 0, 0⟩
  | some history => ⟨some history, snapshot.historyIndex, snapshot.historyFilled⟩

/-- `rdp_graphics_bit_reader`; `current` holds the bytes from the pointer `current` up to `end`. -/
structure BitReader where
  current : Bytes
  bitsRemaining : Nat
  cache : Nat
  cacheBits : Nat
  deriving Repr, DecidableEq

/-- The last byte counts the unused bits; the number of bits is a 32-bit one. -/
def bitReaderInit (data : Bytes) : Option BitReader :=
  match data.getLast? with
  | none => none
  | some trailer =>
      if trailer &&& 0xf8 ≠ 0 then none
      else some ⟨data.dropLast,
        ((data.length - 1) * 8 % 2 ^ 32 + 2 ^ 32 - trailer.toNat) % 2 ^ 32, 0, 0⟩

/-- The loop of `rdp_graphics_read_bits` that fills the cache. -/
def fillCache (count : Nat) : Bytes → Nat → Nat → Option (Bytes × Nat × Nat)
  | [], cache, cacheBits => if cacheBits < count then none else some ([], cache, cacheBits)
  | b :: current, cache, cacheBits =>
      if cacheBits < count then
        fillCache count current ((cache <<< 8 ||| b.toNat) % 2 ^ 32) ((cacheBits + 8) % 256)
      else some (b :: current, cache, cacheBits)

def readBits (reader : BitReader) (count : Nat) : Option (Nat × BitReader) :=
  if count > 24 ∨ reader.bitsRemaining < count then none
  else do
    let (current, cache, cacheBits) ← fillCache count reader.current reader.cache reader.cacheBits
    let cacheBits := cacheBits - count
    let mask := if cacheBits = 0 then 0 else 1 <<< cacheBits - 1
    pure (cache >>> cacheBits,
      ⟨current, reader.bitsRemaining - count, cache &&& mask, cacheBits⟩)

/-- What the functions pass along by reference: the decompressor, the output buffer and
    `segment_output`. -/
structure Output where
  decompressor : Decompressor
  decoded : Bytes
  segmentOutput : Nat

def outputByte (out : Output) (value : UInt8) : Exec (Status × Output) :=
  if out.segmentOutput ≥ 65535 ∨ out.decoded.length ≥ bulkMaxDecoded then .ok (.protocolError, out)
  else do
    let d := out.decompressor
    let history ← (decompressorEnsure d).store d.historyIndex value
    let index := d.historyIndex + 1
    let index := if index = bulkHistorySize then 0 else index
    let filled := if d.historyFilled < bulkHistorySize then d.historyFilled + 1 else d.historyFilled
    pure (.ok, ⟨⟨some history, index, filled⟩, out.decoded ++ [value], out.segmentOutput + 1⟩)

/-- The loop of `rdp_graphics_copy_match`. -/
def matchLoop : Nat → Nat → Output → Exec (Status × Output)
  | 0, _, out => .ok (.ok, out)
  | count + 1, source, out =>
      match out.decompressor.history with
      | none => .error .outOfBounds
      | some history => do
          let value ← history.load source
          let source := if source + 1 = bulkHistorySize then 0 else source + 1
          let (status, out) ← outputByte out value
          if status = .ok then matchLoop count source out else pure (.protocolError, out)

def copyMatch (out : Output) (distance count : Nat) : Exec (Status × Output) :=
  let d := out.decompressor
  if d.history.isNone ∨ distance = 0 ∨ distance > d.historyFilled ∨ distance > bulkHistorySize then
    .ok (.protocolError, out)
  else do
    let source ← if d.historyIndex ≥ distance then checkedSub d.historyIndex distance
      else do
        let beyond ← checkedSub distance d.historyIndex
        checkedSub bulkHistorySize beyond
    matchLoop count source out

/-- The loop of `rdp_graphics_read_length` once a match is longer than three; `left` is how often
    `extra` may still grow, up to 15. -/
def lengthLoop : Nat → Nat → Nat → BitReader → Option (Nat × BitReader)
  | left, count, extra, reader => do
      let (bit, reader) ← readBits reader 1
      if bit = 0 then
        let (value, reader) ← readBits reader extra
        pure (count + value, reader)
      else match left with
        | 0 => none
        | left + 1 => lengthLoop left (count * 2) (extra + 1) reader

def readLength (reader : BitReader) : Option (Nat × BitReader) := do
  let (bit, reader) ← readBits reader 1
  if bit = 0 then pure (3, reader) else lengthLoop 13 4 2 reader

/-- The loop of `rdp_graphics_copy_unencoded`. -/
def unencodedLoop : Nat → Output → BitReader → Exec (Status × Output × BitReader)
  | 0, out, reader => .ok (.ok, out, reader)
  | count + 1, out, reader =>
      match reader.current with
      | [] => .error .outOfBounds
      | value :: current => do
          let (status, out) ← outputByte out value
          if status = .ok then
            let bitsRemaining ← checkedSub reader.bitsRemaining 8
            unencodedLoop count out { reader with current := current, bitsRemaining := bitsRemaining }
          else pure (.protocolError, out, reader)

def copyUnencoded (out : Output) (reader : BitReader) (count : Nat) :
    Exec (Status × Output × BitReader) :=
  if reader.bitsRemaining < reader.cacheBits then .ok (.protocolError, out, reader)
  else
    let bitsRemaining := reader.bitsRemaining - reader.cacheBits
    let reader : BitReader := ⟨reader.current, bitsRemaining, 0, 0⟩
    if count > bitsRemaining / 8 ∨ reader.current.length < count then
      .ok (.protocolError, out, reader)
    else unencodedLoop count out reader

def isShortLiteral (value : Nat) : Bool :=
  value ≤ 0x0c ∨ (0x38 ≤ value ∧ value ≤ 0x40) ∨ value = 0x66 ∨ value = 0x80 ∨ value = 0xff

/-- The loop that lengthens `prefix` up to the length a token's code has. -/
def readPrefix : Nat → Nat → BitReader → Option (Nat × BitReader)
  | 0, code, reader => some (code, reader)
  | count + 1, code, reader => do
      let (bit, reader) ← readBits reader 1
      readPrefix count ((code <<< 1 ||| bit) % 65536) reader

/-- The table search: the first token whose code is the prefix read so far. -/
def findToken : List GraphicsToken → Nat → Nat → BitReader → Option (GraphicsToken × BitReader)
  | [], _, _, _ => none
  | token :: tokens, code, codeBits, reader => do
      let (code, reader) ← readPrefix (token.prefixLength - codeBits) code reader
      if code = token.prefixCode then some (token, reader)
      else findToken tokens code (max codeBits token.prefixLength) reader

def readValue (token : GraphicsToken) (reader : BitReader) : Option (Nat × BitReader) :=
  if token.valueBits > 0 then do
    let (value, reader) ← readBits reader token.valueBits
    pure (value + token.valueBase, reader)
  else some (token.valueBase, reader)

def runToken (token : GraphicsToken) (value : Nat) (out : Output) (reader : BitReader) :
    Exec (Status × Output × BitReader) :=
  if token.isMatch = false then
    if token.prefixLength = 1 ∧ isShortLiteral value then .ok (.protocolError, out, reader)
    else do
      let (status, out) ← outputByte out (UInt8.ofNat value)
      pure (status, out, reader)
  else if value = 0 then
    match readBits reader 15 with
    | none => .ok (.protocolError, out, reader)
    | some (count, reader) => copyUnencoded out reader count
  else
    match readLength reader with
    | none => .ok (.protocolError, out, reader)
    | some (count, reader) => do
        let (status, out) ← copyMatch out value count
        pure (status, out, reader)

def decodeToken (out : Output) (reader : BitReader) : Exec (Status × Output × BitReader) :=
  match findToken graphicsTokens 0 0 reader with
  | none => .ok (.protocolError, out, reader)
  | some (token, reader) =>
      match readValue token reader with
      | none => .ok (.protocolError, out, reader)
      | some (value, reader) => runToken token value out reader

def decodeLoop : Nat → Output → BitReader → Exec (Status × Output)
  | 0, _, _ => .error .outOfFuel
  | fuel + 1, out, reader =>
      if reader.bitsRemaining > 0 then do
        let (status, out, reader) ← decodeToken out reader
        if status = .ok then decodeLoop fuel out reader else pure (.protocolError, out)
      else .ok (.ok, out)

def decodeCompressedSegment (d : Decompressor) (data decoded : Bytes) :
    Exec (Status × Decompressor × Bytes) :=
  match bitReaderInit data with
  | none => .ok (.protocolError, d, decoded)
  | some reader => do
      let (status, out) ← decodeLoop (8 * data.length + 1) ⟨d, decoded, 0⟩ reader
      pure (status, out.decompressor, out.decoded)

/-- The loop of `rdp_graphics_append_bulk_data`. -/
def outputLoop : Bytes → Output → Exec (Status × Output)
  | [], out => .ok (.ok, out)
  | value :: data, out => do
      let (status, out) ← outputByte out value
      if status = .ok then outputLoop data out else pure (.protocolError, out)

def appendBulkData (d : Decompressor) (data decoded : Bytes) : Exec (Status × Decompressor × Bytes) :=
  match data with
  | [] => .ok (.protocolError, d, decoded)
  | bulkHeader :: payload =>
      if bulkHeader &&& 0xd0 ≠ 0 ∨ bulkHeader &&& 0x0f ≠ bulkCompressionType then
        .ok (.protocolError, d, decoded)
      else if bulkHeader &&& bulkPacketCompressed ≠ 0 then
        decodeCompressedSegment d payload decoded
      else if decoded.length > bulkMaxDecoded then .ok (.protocolError, d, decoded)
      else do
        let left ← checkedSub bulkMaxDecoded decoded.length
        if payload.length > left ∨ payload.length > bulkSegmentMax then
          pure (.protocolError, d, decoded)
        else
          let (status, out) ← outputLoop payload ⟨d, decoded, 0⟩
          pure (status, out.decompressor, out.decoded)

/-- The loop over the segments of a multipart message; returns the bytes left over. -/
def segmentLoop : Nat → Bytes → Decompressor → Bytes → Exec (Status × Bytes × Decompressor × Bytes)
  | 0, stream, d, decoded => .ok (.ok, stream, d, decoded)
  | count + 1, stream, d, decoded =>
      match stream with
      | b0 :: b1 :: b2 :: b3 :: rest =>
          if rest.length < u32Le b0 b1 b2 b3 then .ok (.protocolError, stream, d, decoded)
          else do
            let (status, d, decoded) ← appendBulkData d (rest.take (u32Le b0 b1 b2 b3)) decoded
            if status = .ok then segmentLoop count (rest.drop (u32Le b0 b1 b2 b3)) d decoded
            else pure (status, rest.drop (u32Le b0 b1 b2 b3), d, decoded)
      | _ => .ok (.protocolError, stream, d, decoded)

def decodeMultipart (d : Decompressor) (stream decoded : Bytes) :
    Exec (Status × Decompressor × Bytes) :=
  match stream with
  | c0 :: c1 :: s0 :: s1 :: s2 :: s3 :: rest =>
      let segmentCount := u16Le c0 c1
      let uncompressedSize := u32Le s0 s1 s2 s3
      if segmentCount = 0 ∨ uncompressedSize > bulkMaxDecoded then .ok (.protocolError, d, decoded)
      else do
        let (status, left, d, decoded') ← segmentLoop segmentCount rest d decoded
        if status = .ok then
          let grown ← checkedSub decoded'.length decoded.length
          if left.length ≠ 0 ∨ grown ≠ uncompressedSize then pure (.protocolError, d, decoded')
          else pure (.ok, d, decoded')
        else pure (status, d, decoded')
  | _ => .ok (.protocolError, d, decoded)

def decodeSegments (d : Decompressor) (descriptor : UInt8) (stream decoded : Bytes) :
    Exec (Status × Decompressor × Bytes) :=
  if descriptor = segmentSingle then appendBulkData d stream decoded
  else if descriptor = segmentMultipart then decodeMultipart d stream decoded
  else .ok (.protocolError, d, decoded)

def decodeSegmentedData (d : Decompressor) (data decoded : Bytes) :
    Exec (Status × Decompressor × Bytes) :=
  match data with
  | descriptor :: b :: stream => do
      let snapshot := snapshotCapture d
      let (status, d, decoded') ← decodeSegments d descriptor (b :: stream) decoded
      if status = .ok then pure (status, d, decoded')
      else pure (status, snapshotRestore snapshot, decoded'.take decoded.length)
  | _ => .ok (.protocolError, d, decoded)

/-- The loop that writes one segment after the other; `fuel` bounds their number. -/
def writeSegments : Nat → Bytes → Bytes
  | 0, _ => []
  | fuel + 1, bytes =>
      if bytes = [] then []
      else
        let chunk := min bytes.length bulkSegmentMax
        u32LeBytes (chunk + 1) ++ [bulkCompressionType] ++ bytes.take chunk ++
          writeSegments fuel (bytes.drop chunk)

/-- `rdp_graphics_write_segmented_uncompressed`: the status and the buffer. -/
def writeSegmentedUncompressed (buffer data : Bytes) : Status × Bytes :=
  if data.length > bulkMaxDecoded then (.limitExceeded, buffer)
  else if data.length ≤ bulkSegmentMax then
    (.ok, buffer ++ ([segmentSingle, bulkCompressionType] ++ data))
  else
    let segmentCount := (data.length + bulkSegmentMax - 1) / bulkSegmentMax
    if segmentCount > 65535 then (.limitExceeded, buffer)
    else (.ok, buffer ++ ([segmentMultipart] ++ u16LeBytes segmentCount ++ u32LeBytes data.length ++
      writeSegments data.length data))

inductive GraphicsCall where
  | decode (data decoded : Bytes)
  | reset

def graphicsStep (d : Decompressor) : GraphicsCall → Exec ((Status × Bytes) × Decompressor)
  | .decode data decoded => do
      let (status, d, decoded) ← decodeSegmentedData d data decoded
      pure ((status, decoded), d)
  | .reset => .ok ((.ok, []), decompressorReset d)

end LibRdp.Graphics
