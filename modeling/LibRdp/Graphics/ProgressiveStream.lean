import LibRdp.Graphics.RfxProgressive
import LibRdp.Machine.Walk

/-! # Progressive streams

The bitmap data of a progressive command is a stream of blocks: a sync block and a context
may come first, and then a frame opens, holds as many regions as it announces, and closes. A
region holds rectangles, quantization values and, again as blocks, its tiles. A stream is
checked whole before any of it is drawn.
-/

namespace LibRdp.Graphics

open Machine

/-- `RDP_GRAPHICS_PROGRESSIVE_BLOCK_*`. -/
def progressiveBlockSync : UInt16 := 0xccc0
def progressiveBlockFrameBegin : UInt16 := 0xccc1
def progressiveBlockFrameEnd : UInt16 := 0xccc2
def progressiveBlockContext : UInt16 := 0xccc3
def progressiveBlockRegion : UInt16 := 0xccc4
def progressiveBlockTileSimple : UInt16 := 0xccc5
def progressiveBlockTileFirst : UInt16 := 0xccc6
def progressiveBlockTileUpgrade : UInt16 := 0xccc7

/-- `RDP_GRAPHICS_PROGRESSIVE_SYNC_MAGIC`, `_SYNC_VERSION`, `_TILE_SIZE` and the three `_MAX_*`. -/
def progressiveSyncMagic : UInt32 := 0xcaccacca
def progressiveSyncVersion : UInt16 := 0x0100
def progressiveTileSize : Nat := 0x40
def progressiveMaxRegions : Nat := 4096
def progressiveMaxRects : Nat := 4096
def progressiveMaxTiles : UInt32 := 4096

/-- `rdp_graphics_progressive_block`. -/
structure ProgressiveBlock where
  type : UInt16
  length : UInt32
  payload : Bytes
  deriving Repr, DecidableEq

/-- `rdp_graphics_progressive_parse_block`. -/
def progressiveParseBlock (data : Bytes) : Attempt ProgressiveBlock :=
  if data.length < 6 then refuse .protocolError
  else do
    let (type, stream) ← readU16Le data
    let (length, stream) ← readU32Le stream
    if length < 6 || data.length < length.toNat then refuse .protocolError
    else do
      let (payload, _) ← readBytes stream (length.toNat - 6)
      pure { type, length, payload }

/-- Both loops over blocks read one, keep the data from it on and go on behind it. -/
def progressiveReadBlock (data : Bytes) : Attempt ((ProgressiveBlock × Bytes) × Bytes) := do
  let block ← progressiveParseBlock data
  pure ((block, data), data.drop block.length.toNat)

theorem progressiveParseBlock_ok {data : Bytes} {block : ProgressiveBlock}
    (parsed : progressiveParseBlock data = .ok block) :
    6 ≤ block.length.toNat ∧ block.length.toNat ≤ data.length := by
  simp only [progressiveParseBlock, bind_eq_ok, refuse_else, attempt_pure, Except.ok.injEq,
    Bool.or_eq_true, decide_eq_true_eq, not_or, Nat.not_lt, UInt32.not_lt] at parsed
  obtain ⟨-, type, -, length, -, bounds, payload, -, rfl⟩ := parsed
  exact ⟨UInt32.le_iff_toNat_le.mp bounds.1, bounds.2⟩

theorem progressiveReadBlock_ok {data rest : Bytes} {item : ProgressiveBlock × Bytes}
    (read : progressiveReadBlock data = .ok (item, rest)) :
    progressiveParseBlock data = .ok item.1 ∧ item.2 = data ∧
      rest = data.drop item.1.length.toNat := by
  obtain ⟨block, parsed, read⟩ := bind_eq_ok.mp read
  cases read
  exact ⟨parsed, rfl, rfl⟩

theorem progressiveReadBlock_consumes : Coding.Consumes progressiveReadBlock := by
  intro data item rest read
  obtain ⟨parsed, _, rfl⟩ := progressiveReadBlock_ok read
  have bounds := progressiveParseBlock_ok parsed
  rw [List.length_drop]
  omega

def progressiveBlocks : Reader UInt8 Stop (ProgressiveBlock × Bytes) where
  read := progressiveReadBlock
  consumes := progressiveReadBlock_consumes

/-- `rdp_graphics_progressive_context`. -/
structure ProgressiveContext where
  contextId : UInt8
  tileSize : UInt16
  flags : UInt8
  deriving Repr, DecidableEq

/-- `rdp_graphics_progressive_parse_context`. -/
def progressiveParseContext (data : Bytes) : Attempt ProgressiveContext := do
  let block ← progressiveParseBlock data
  if block.type != progressiveBlockContext || block.length != 10 then refuse .protocolError
  else do
    let (contextId, stream) ← readU8 block.payload
    let (tileSize, stream) ← readU16Le stream
    let (flags, _) ← readU8 stream
    if tileSize.toNat != progressiveTileSize then refuse .protocolError
    else pure { contextId, tileSize, flags }

/-- `rdp_graphics_progressive_frame_begin`. -/
structure ProgressiveFrameBegin where
  frameIndex : UInt32
  regionCount : UInt16
  deriving Repr, DecidableEq

/-- `rdp_graphics_progressive_parse_frame_begin`. -/
def progressiveParseFrameBegin (data : Bytes) : Attempt ProgressiveFrameBegin := do
  let block ← progressiveParseBlock data
  if block.type != progressiveBlockFrameBegin || block.length != 12 then refuse .protocolError
  else do
    let (frameIndex, stream) ← readU32Le block.payload
    let (regionCount, _) ← readU16Le stream
    if regionCount == 0 || progressiveMaxRegions < regionCount.toNat then refuse .protocolError
    else pure { frameIndex, regionCount }

/-- `rdp_graphics_progressive_parse_frame_end`. -/
def progressiveParseFrameEnd (data : Bytes) : Attempt Unit := do
  let block ← progressiveParseBlock data
  if block.type != progressiveBlockFrameEnd || block.length != 6 then refuse .protocolError
  else pure ()

/-- `rdp_graphics_progressive_validate_sync`. -/
def progressiveValidateSync (block : ProgressiveBlock) : Attempt Unit :=
  if block.type != progressiveBlockSync || block.length != 12 then refuse .protocolError
  else do
    let (magic, stream) ← readU32Le block.payload
    let (version, stream) ← readU16Le stream
    if !stream.isEmpty then refuse .protocolError
    else if magic != progressiveSyncMagic || version != progressiveSyncVersion then
      refuse .protocolError
    else pure ()

/-- `rdp_graphics_progressive_region`; the lengths of its four arrays are theirs. -/
structure ProgressiveRegion where
  tileSize : UInt8
  rectCount : UInt16
  quantCount : UInt8
  progressiveQuantCount : UInt8
  flags : UInt8
  tileCount : UInt16
  tileDataSize : UInt32
  rects : Bytes
  quantValues : Bytes
  progressiveQuantValues : Bytes
  tiles : Bytes
  deriving Repr, DecidableEq

/-- The part of `rdp_graphics_progressive_parse_region` that reads the arrays behind the counts. -/
def progressiveReadArrays (region : ProgressiveRegion) (stream : Bytes) :
    Attempt ProgressiveRegion :=
  let rectsLen := region.rectCount.toNat * 8
  let quantValuesLen := region.quantCount.toNat * 5
  let progressiveQuantValuesLen := region.progressiveQuantCount.toNat * 16
  if stream.length < rectsLen + quantValuesLen + progressiveQuantValuesLen ||
      stream.length - rectsLen - quantValuesLen - progressiveQuantValuesLen <
        region.tileDataSize.toNat then
    refuse .protocolError
  else do
    let (rects, stream) ← readBytes stream rectsLen
    let (quantValues, stream) ← readBytes stream quantValuesLen
    let (progressiveQuantValues, stream) ← readBytes stream progressiveQuantValuesLen
    let (tiles, stream) ← readBytes stream region.tileDataSize.toNat
    if !stream.isEmpty then refuse .protocolError
    else pure { region with rects, quantValues, progressiveQuantValues, tiles }

/-- `rdp_graphics_progressive_parse_region`. -/
def progressiveParseRegion (data : Bytes) : Attempt ProgressiveRegion := do
  let block ← progressiveParseBlock data
  if block.type != progressiveBlockRegion || block.length < 18 then refuse .protocolError
  else do
    let (tileSize, stream) ← readU8 block.payload
    let (rectCount, stream) ← readU16Le stream
    let (quantCount, stream) ← readU8 stream
    let (progressiveQuantCount, stream) ← readU8 stream
    let (flags, stream) ← readU8 stream
    let (tileCount, stream) ← readU16Le stream
    let (tileDataSize, stream) ← readU32Le stream
    if tileSize.toNat != progressiveTileSize || rectCount == 0 || quantCount == 0 ||
        progressiveMaxRects < rectCount.toNat || progressiveMaxTiles.toNat < tileCount.toNat then
      refuse .protocolError
    else if (tileCount == 0 && tileDataSize != 0) || (tileCount != 0 && tileDataSize == 0) then
      refuse .protocolError
    else
      progressiveReadArrays
        { tileSize, rectCount, quantCount, progressiveQuantCount, flags, tileCount, tileDataSize
          rects := [], quantValues := [], progressiveQuantValues := [], tiles := [] } stream

/-- `rdp_graphics_rect16`. -/
structure Rect16 where
  left : UInt16
  top : UInt16
  right : UInt16
  bottom : UInt16
  deriving Repr, DecidableEq

/-- `rdp_graphics_progressive_parse_region_rect`. -/
def progressiveParseRegionRect (data : Bytes) : Attempt Rect16 :=
  if data.length < 8 then refuse .protocolError
  else do
    let (x, stream) ← readU16Le data
    let (y, stream) ← readU16Le stream
    let (width, stream) ← readU16Le stream
    let (height, _) ← readU16Le stream
    let right := x.toNat + width.toNat
    let bottom := y.toNat + height.toNat
    if 0xffff < right || 0xffff < bottom then refuse .protocolError
    else pure { left := x, top := y, right := UInt16.ofNat right, bottom := UInt16.ofNat bottom }

/-- What `rdp_graphics_progressive_read_tile_prefix` reads. -/
structure TilePrefix where
  quantIdxY : UInt8
  quantIdxCb : UInt8
  quantIdxCr : UInt8
  xIdx : UInt16
  yIdx : UInt16
  deriving Repr, DecidableEq

/-- `rdp_graphics_progressive_read_tile_prefix`. -/
def progressiveReadTilePrefix (stream : Bytes) : Attempt (TilePrefix × Bytes) := do
  let (quantIdxY, stream) ← readU8 stream
  let (quantIdxCb, stream) ← readU8 stream
  let (quantIdxCr, stream) ← readU8 stream
  let (xIdx, stream) ← readU16Le stream
  let (yIdx, stream) ← readU16Le stream
  pure ({ quantIdxY, quantIdxCb, quantIdxCr, xIdx, yIdx }, stream)

/-- `rdp_graphics_progressive_read_tile_data`; no data at all is a null pointer. -/
def progressiveReadTileData (stream : Bytes) (length : UInt16) : Attempt (Option Bytes × Bytes) :=
  if length == 0 then pure (none, stream)
  else do
    let (data, stream) ← readBytes stream length.toNat
    pure (some data, stream)

/-- `rdp_graphics_progressive_tile_simple` and `rdp_graphics_progressive_tile_first`: the former has
    no progressive quality, and is drawn with the one that stands for none. -/
structure ProgressiveTile extends TilePrefix where
  blockType : UInt16
  flags : UInt8
  progressiveQuality : UInt8
  yData : Option Bytes
  cbData : Option Bytes
  crData : Option Bytes
  tailData : Option Bytes
  deriving Repr, DecidableEq

/-- The two parsers of tiles, which differ in their type, the least length of their block and
    whether a quality is read. -/
def progressiveParseTile (type : UInt16) (least : UInt32)
    (readQuality : Bytes → Attempt (UInt8 × Bytes)) (data : Bytes) : Attempt ProgressiveTile := do
  let block ← progressiveParseBlock data
  if block.type != type || block.length < least then refuse .protocolError
  else do
    let (tilePrefix, stream) ← progressiveReadTilePrefix block.payload
    let (flags, stream) ← readU8 stream
    let (progressiveQuality, stream) ← readQuality stream
    let (yLen, stream) ← readU16Le stream
    let (cbLen, stream) ← readU16Le stream
    let (crLen, stream) ← readU16Le stream
    let (tailLen, stream) ← readU16Le stream
    if stream.length != yLen.toNat + cbLen.toNat + crLen.toNat + tailLen.toNat then
      refuse .protocolError
    else do
      let (yData, stream) ← progressiveReadTileData stream yLen
      let (cbData, stream) ← progressiveReadTileData stream cbLen
      let (crData, stream) ← progressiveReadTileData stream crLen
      let (tailData, _) ← progressiveReadTileData stream tailLen
      pure { toTilePrefix := tilePrefix, blockType := block.type, flags, progressiveQuality
             yData, cbData, crData, tailData }

/-- `rdp_graphics_progressive_parse_tile_simple`. -/
def progressiveParseTileSimple : Bytes → Attempt ProgressiveTile :=
  progressiveParseTile progressiveBlockTileSimple 22 fun stream => pure (0xff, stream)

/-- `rdp_graphics_progressive_parse_tile_first`. -/
def progressiveParseTileFirst : Bytes → Attempt ProgressiveTile :=
  progressiveParseTile progressiveBlockTileFirst 23 readU8

/-- `rdp_graphics_progressive_tile_upgrade`. -/
structure ProgressiveTileUpgrade extends TilePrefix where
  blockType : UInt16
  progressiveQuality : UInt8
  ySrlData : Option Bytes
  yRawData : Option Bytes
  cbSrlData : Option Bytes
  cbRawData : Option Bytes
  crSrlData : Option Bytes
  crRawData : Option Bytes
  deriving Repr, DecidableEq

/-- `rdp_graphics_progressive_parse_tile_upgrade`. -/
def progressiveParseTileUpgrade (data : Bytes) : Attempt ProgressiveTileUpgrade := do
  let block ← progressiveParseBlock data
  if block.type != progressiveBlockTileUpgrade || block.length < 26 then refuse .protocolError
  else do
    let (tilePrefix, stream) ← progressiveReadTilePrefix block.payload
    let (progressiveQuality, stream) ← readU8 stream
    let (ySrlLen, stream) ← readU16Le stream
    let (yRawLen, stream) ← readU16Le stream
    let (cbSrlLen, stream) ← readU16Le stream
    let (cbRawLen, stream) ← readU16Le stream
    let (crSrlLen, stream) ← readU16Le stream
    let (crRawLen, stream) ← readU16Le stream
    if stream.length != ySrlLen.toNat + yRawLen.toNat + cbSrlLen.toNat + cbRawLen.toNat +
        crSrlLen.toNat + crRawLen.toNat then
      refuse .protocolError
    else do
      let (ySrlData, stream) ← progressiveReadTileData stream ySrlLen
      let (yRawData, stream) ← progressiveReadTileData stream yRawLen
      let (cbSrlData, stream) ← progressiveReadTileData stream cbSrlLen
      let (cbRawData, stream) ← progressiveReadTileData stream cbRawLen
      let (crSrlData, stream) ← progressiveReadTileData stream crSrlLen
      let (crRawData, _) ← progressiveReadTileData stream crRawLen
      pure { toTilePrefix := tilePrefix, blockType := block.type, progressiveQuality
             ySrlData, yRawData, cbSrlData, cbRawData, crSrlData, crRawData }

/-- `rdp_graphics_progressive_stream`. -/
structure ProgressiveStream where
  blockCount : UInt32 := 0
  knownBlockCount : UInt32 := 0
  regionCount : UInt32 := 0
  tileCount : UInt32 := 0
  simpleTileCount : UInt32 := 0
  firstTileCount : UInt32 := 0
  upgradeTileCount : UInt32 := 0
  hasSync : Bool := false
  hasContext : Bool := false
  hasFrameBegin : Bool := false
  hasFrameEnd : Bool := false
  tileSize : UInt8 := 0
  flags : UInt8 := 0
  deriving Repr, DecidableEq

/-- The variables of `rdp_graphics_progressive_parse_stream` and of
    `rdp_graphics_progressive_count_region_tiles`. -/
structure ProgressiveProgress extends ProgressiveStream where
  frameActive : Bool := false
  frameDone : Bool := false
  regionsExpected : UInt32 := 0
  regionsSeen : UInt32 := 0
  tilesSeen : UInt32 := 0
  deriving Repr, DecidableEq

abbrev ProgressiveCheck := Effect Stop ProgressiveProgress Unit

/-- `rdp_graphics_progressive_known_block`. -/
def progressiveKnownBlock (type : UInt16) : Bool :=
  type == progressiveBlockSync || type == progressiveBlockFrameBegin ||
    type == progressiveBlockFrameEnd || type == progressiveBlockContext ||
    type == progressiveBlockRegion || type == progressiveBlockTileSimple ||
    type == progressiveBlockTileFirst || type == progressiveBlockTileUpgrade

/-- `rdp_graphics_progressive_validate_tile_quant`. -/
def progressiveValidateTileQuant (tile : TilePrefix) (progressiveQuality : UInt8)
    (region : ProgressiveRegion) : Attempt Unit :=
  if region.quantCount ≤ tile.quantIdxY || region.quantCount ≤ tile.quantIdxCb ||
      region.quantCount ≤ tile.quantIdxCr then
    refuse .protocolError
  else if progressiveQuality != 0xff && region.progressiveQuantCount ≤ progressiveQuality then
    refuse .protocolError
  else pure ()

/-- One round of the loop of `rdp_graphics_progressive_count_region_tiles`. -/
def progressiveCountTile (region : ProgressiveRegion) : ProgressiveBlock × Bytes → ProgressiveCheck
  | (block, data) =>
    if block.type = progressiveBlockTileSimple then do
      let tile ← .lift (progressiveParseTileSimple data)
      .lift (progressiveValidateTileQuant tile.toTilePrefix 0xff region)
      .modify fun seen => { seen with
        simpleTileCount := seen.simpleTileCount + 1, tilesSeen := seen.tilesSeen + 1 }
    else if block.type = progressiveBlockTileFirst then do
      let tile ← .lift (progressiveParseTileFirst data)
      .lift (progressiveValidateTileQuant tile.toTilePrefix tile.progressiveQuality region)
      .modify fun seen => { seen with
        firstTileCount := seen.firstTileCount + 1, tilesSeen := seen.tilesSeen + 1 }
    else if block.type = progressiveBlockTileUpgrade then do
      let tile ← .lift (progressiveParseTileUpgrade data)
      .lift (progressiveValidateTileQuant tile.toTilePrefix tile.progressiveQuality region)
      .modify fun seen => { seen with
        upgradeTileCount := seen.upgradeTileCount + 1, tilesSeen := seen.tilesSeen + 1 }
    else .stop (.returned .protocolError)

/-- `rdp_graphics_progressive_count_region_tiles`. -/
def progressiveCountRegionTiles (region : ProgressiveRegion) : ProgressiveCheck := do
  .modify fun seen => { seen with tilesSeen := 0 }
  progressiveBlocks.walk (progressiveCountTile region) region.tiles
  let seen ← .get
  if seen.tilesSeen != region.tileCount.toUInt32 then .stop (.returned .protocolError)
  else if progressiveMaxTiles < seen.tilesSeen ||
      progressiveMaxTiles - seen.tilesSeen < seen.tileCount then
    .stop (.returned .protocolError)
  else .modify fun seen => { seen with tileCount := seen.tileCount + seen.tilesSeen }

/-- One round of the loop of `rdp_graphics_progressive_parse_stream`, behind the counting of the
    block. -/
def progressiveCheckBlock (block : ProgressiveBlock) (data : Bytes) : ProgressiveCheck := do
  let seen ← .get
  if block.type = progressiveBlockSync then
    if seen.hasSync || seen.frameActive || seen.frameDone || seen.blockCount != 1 then
      .stop (.returned .protocolError)
    else do
      .lift (progressiveValidateSync block)
      .modify fun seen => { seen with hasSync := true }
  else if block.type = progressiveBlockContext then
    if seen.hasContext || seen.frameActive || seen.frameDone then .stop (.returned .protocolError)
    else do
      let context ← .lift (progressiveParseContext data)
      .modify fun seen => { seen with
        hasContext := true, tileSize := context.tileSize.toUInt8, flags := context.flags }
  else if block.type = progressiveBlockFrameBegin then
    if seen.hasFrameBegin || seen.frameActive || seen.frameDone then
      .stop (.returned .protocolError)
    else do
      let frameBegin ← .lift (progressiveParseFrameBegin data)
      .modify fun seen => { seen with
        hasFrameBegin := true
        regionCount := seen.regionCount + frameBegin.regionCount.toUInt32
        regionsExpected := frameBegin.regionCount.toUInt32
        frameActive := true }
  else if block.type = progressiveBlockFrameEnd then
    if !seen.frameActive || seen.regionsSeen != seen.regionsExpected then
      .stop (.returned .protocolError)
    else do
      .lift (progressiveParseFrameEnd data)
      .modify fun seen => { seen with hasFrameEnd := true, frameActive := false, frameDone := true }
  else if block.type = progressiveBlockRegion then
    if !seen.frameActive || seen.regionsExpected ≤ seen.regionsSeen then
      .stop (.returned .protocolError)
    else do
      let region ← .lift (progressiveParseRegion data)
      progressiveCountRegionTiles region
      .modify fun seen => { seen with regionsSeen := seen.regionsSeen + 1 }
  else .stop (.returned .protocolError)

/-- One round of the loop of `rdp_graphics_progressive_parse_stream`. -/
def progressiveTakeBlock : ProgressiveBlock × Bytes → ProgressiveCheck
  | (block, data) => do
    .modify fun seen => { seen with
      blockCount := seen.blockCount + 1
      knownBlockCount :=
        if progressiveKnownBlock block.type then seen.knownBlockCount + 1
        else seen.knownBlockCount }
    progressiveCheckBlock block data

/-- `rdp_graphics_progressive_parse_stream`; the loop over blocks ends at the end of the data. -/
def progressiveParseStream (data : Bytes) : Attempt ProgressiveStream :=
  if data.isEmpty then refuse .protocolError
  else
    match progressiveBlocks.walk progressiveTakeBlock data {} with
    | (.error stop, _) => .error stop
    | (.ok (), seen) =>
        if seen.frameActive || !seen.frameDone || seen.regionsSeen != seen.regionsExpected then
          refuse .protocolError
        else pure seen.toProgressiveStream

end LibRdp.Graphics
