import LibRdp.Graphics.ProgressiveStream

/-! # Progressive blocks as they are written

The writers of progressive blocks. Every parser takes exactly what its writer writes: the values it
returns spell the bytes that it has read.
-/

namespace LibRdp.Graphics

open Machine

/-! ## Blocks -/

def progressiveBlockBytes (type : UInt16) (payload : Bytes) : Bytes :=
  u16LeBytes type.toNat ++ (u32LeBytes (payload.length + 6) ++ payload)

/-- `rdp_graphics_progressive_write_block`: the status and the buffer. -/
def progressiveWriteBlock (buffer : Bytes) (type : UInt16) (payload : Bytes) : Status × Bytes :=
  if payload.length > 0xffffffff - 6 then (.invalidArgument, buffer)
  else (.ok, buffer ++ progressiveBlockBytes type payload)

section Blocks

variable {data rest payload : Bytes} {block : ProgressiveBlock} {item : ProgressiveBlock × Bytes}

theorem progressiveBlockBytes_length (type : UInt16) (payload : Bytes) :
    (progressiveBlockBytes type payload).length = payload.length + 6 := by
  simp only [progressiveBlockBytes, List.length_append, u16LeBytes_length, u32LeBytes_length]
  omega

def ProgressiveBlock.Sized (block : ProgressiveBlock) : Prop :=
  block.length.toNat = block.payload.length + 6

theorem progressiveParseBlock_eq_ok : progressiveParseBlock data = .ok block ↔
    block.Sized ∧ ∃ rest, data = progressiveBlockBytes block.type block.payload ++ rest := by
  have six : (6 : UInt32).toNat = 6 := rfl
  simp only [progressiveParseBlock, refuse_else, readU16Le_bind, readU32Le_bind, readBytes_bind,
    attempt_pure, Except.ok.injEq, Bool.or_eq_true, decide_eq_true_eq, not_or, UInt32.not_lt,
    Nat.not_lt, UInt32.le_iff_toNat_le, six]
  constructor
  · rintro ⟨-, type, _, rfl, length, _, rfl, ⟨least, -⟩, payload, rest, ⟨long, rfl⟩, rfl⟩
    have sized : length.toNat = payload.length + 6 := by omega
    exact ⟨sized, rest, by simp only [progressiveBlockBytes, sized, List.append_assoc]⟩
  · rintro ⟨sized, rest, rfl⟩
    obtain ⟨type, length, payload⟩ := block
    simp only [ProgressiveBlock.Sized] at sized
    have whole : progressiveBlockBytes type payload ++ rest =
        u16LeBytes type.toNat ++ (u32LeBytes length.toNat ++ (payload ++ rest)) := by
      simp only [progressiveBlockBytes, sized, List.append_assoc]
    rw [List.length_append, progressiveBlockBytes_length]
    simp only
    exact ⟨by omega, type, _, whole, length, _, rfl, ⟨by omega, by omega⟩, payload, rest,
      ⟨by omega, rfl⟩, rfl⟩

theorem progressiveReadBlock_eq_ok : progressiveReadBlock data = .ok (item, rest) ↔
    item.2 = data ∧ item.1.Sized ∧
      data = progressiveBlockBytes item.1.type item.1.payload ++ rest := by
  have behind (sized : item.1.Sized) (more : Bytes) :
      (progressiveBlockBytes item.1.type item.1.payload ++ more).drop item.1.length.toNat = more := by
    apply List.drop_left'
    rw [progressiveBlockBytes_length, sized]
  constructor
  · intro read
    obtain ⟨parsed, same, rfl⟩ := progressiveReadBlock_ok read
    obtain ⟨sized, more, whole⟩ := progressiveParseBlock_eq_ok.mp parsed
    refine ⟨same, sized, ?_⟩
    rw [whole, behind sized]
  · rintro ⟨same, sized, whole⟩
    have parsed := progressiveParseBlock_eq_ok.mpr ⟨sized, rest, whole⟩
    rw [progressiveReadBlock, parsed, ok_bind, whole, behind sized, ← whole, ← same]
    rfl

end Blocks

/-! ## The blocks around regions -/

def progressiveSyncPayload : Bytes :=
  u32LeBytes progressiveSyncMagic.toNat ++ u16LeBytes progressiveSyncVersion.toNat

def progressiveContextPayload (context : ProgressiveContext) : Bytes :=
  [context.contextId] ++ (u16LeBytes context.tileSize.toNat ++ [context.flags])

/-- `rdp_graphics_progressive_write_context`. -/
def progressiveWriteContext (buffer : Bytes) (context : ProgressiveContext) : Status × Bytes :=
  if context.tileSize.toNat ≠ progressiveTileSize then (.invalidArgument, buffer)
  else progressiveWriteBlock buffer progressiveBlockContext (progressiveContextPayload context)

def progressiveFrameBeginPayload (frameBegin : ProgressiveFrameBegin) : Bytes :=
  u32LeBytes frameBegin.frameIndex.toNat ++ u16LeBytes frameBegin.regionCount.toNat

/-- `rdp_graphics_progressive_write_frame_begin`. -/
def progressiveWriteFrameBegin (buffer : Bytes) (frameBegin : ProgressiveFrameBegin) :
    Status × Bytes :=
  if frameBegin.regionCount = 0 ∨ frameBegin.regionCount.toNat > progressiveMaxRegions then
    (.invalidArgument, buffer)
  else
    progressiveWriteBlock buffer progressiveBlockFrameBegin (progressiveFrameBeginPayload frameBegin)

/-- `rdp_graphics_progressive_write_frame_end`. -/
def progressiveWriteFrameEnd (buffer : Bytes) : Status × Bytes :=
  progressiveWriteBlock buffer progressiveBlockFrameEnd []

/-! ## Regions -/

def progressiveRegionPayload (region : ProgressiveRegion) : Bytes :=
  [region.tileSize] ++ (u16LeBytes region.rectCount.toNat ++ ([region.quantCount] ++
    ([region.progressiveQuantCount] ++ ([region.flags] ++ (u16LeBytes region.tileCount.toNat ++
    (u32LeBytes region.tileDataSize.toNat ++ (region.rects ++ (region.quantValues ++
    (region.progressiveQuantValues ++ region.tiles)))))))))

/-- `rdp_graphics_progressive_write_region`. -/
def progressiveWriteRegion (buffer : Bytes) (region : ProgressiveRegion) : Status × Bytes :=
  if region.tileSize.toNat ≠ progressiveTileSize ∨ region.rectCount = 0 ∨ region.quantCount = 0 ∨
      region.rectCount.toNat > progressiveMaxRects ∨
      region.tileCount.toNat > progressiveMaxTiles.toNat ∨
      (region.tileCount = 0 ∧ region.tileDataSize ≠ 0) ∨
      (region.tileCount ≠ 0 ∧ region.tileDataSize = 0) then (.invalidArgument, buffer)
  else if region.rects.length ≠ region.rectCount.toNat * 8 ∨
      region.quantValues.length ≠ region.quantCount.toNat * 5 ∨
      region.progressiveQuantValues.length ≠ region.progressiveQuantCount.toNat * 16 ∨
      region.tiles.length ≠ region.tileDataSize.toNat then (.invalidArgument, buffer)
  else if region.rectCount.toNat * 8 > 0xffffffff ∨ region.quantCount.toNat * 5 > 0xffffffff ∨
      region.progressiveQuantCount.toNat * 16 > 0xffffffff ∨ region.tiles.length > 0xffffffff then
    (.invalidArgument, buffer)
  else if (progressiveRegionPayload region).length > 0xffffffff then (.invalidArgument, buffer)
  else progressiveWriteBlock buffer progressiveBlockRegion (progressiveRegionPayload region)

structure ProgressiveRegion.Valid (region : ProgressiveRegion) : Prop where
  tileSize : region.tileSize.toNat = progressiveTileSize
  some : region.rectCount ≠ 0 ∧ region.quantCount ≠ 0
  few : region.rectCount.toNat ≤ progressiveMaxRects ∧
    region.tileCount.toNat ≤ progressiveMaxTiles.toNat
  empty : region.tileCount = 0 ↔ region.tileDataSize = 0
  rects : region.rects.length = region.rectCount.toNat * 8
  quantValues : region.quantValues.length = region.quantCount.toNat * 5
  progressiveQuantValues :
    region.progressiveQuantValues.length = region.progressiveQuantCount.toNat * 16
  tiles : region.tiles.length = region.tileDataSize.toNat

section Parsers

variable {data : Bytes} {block : ProgressiveBlock}

theorem block_sized (parsed : progressiveParseBlock data = .ok block) :
    block.length.toNat = block.payload.length + 6 :=
  (progressiveParseBlock_eq_ok.mp parsed).1

theorem block_shape {type : UInt16} {length : UInt32} :
    ¬ (block.type != type || block.length != length) = true ↔
      block.type = type ∧ block.length = length := by
  simp only [Bool.or_eq_true, bne_iff_ne, ne_eq, not_or, not_not]

theorem block_long {length : UInt32} {payload : Bytes} (sized : block.Sized)
    (spelled : block.payload = payload) (long : length.toNat = payload.length + 6) :
    block.length = length :=
  UInt32.toNat_inj.mp (by rw [sized, spelled, long])

theorem block_rest {length : UInt32} {front rest : Bytes} (sized : block.Sized)
    (spelled : block.payload = front ++ rest) (long : length.toNat = front.length + 6)
    (same : block.length = length) : block.payload = front := by
  rw [ProgressiveBlock.Sized, same, long, spelled, List.length_append] at sized
  rw [spelled, List.length_eq_zero_iff.mp (by omega : rest.length = 0), List.append_nil]

theorem progressiveValidateSync_eq_ok (sized : block.Sized) :
    progressiveValidateSync block = .ok () ↔
      block.type = progressiveBlockSync ∧ block.payload = progressiveSyncPayload := by
  simp only [progressiveValidateSync, refuse_else, readU32Le_bind, readU16Le_bind,
    attempt_pure, and_true, Bool.not_eq_true', Bool.not_eq_false, List.isEmpty_iff,
    Bool.or_eq_true, bne_iff_ne, ne_eq, not_or, not_not]
  constructor
  · rintro ⟨⟨type, -⟩, magic, _, payload, version, _, rfl, rfl, rfl, rfl⟩
    exact ⟨type, payload⟩
  · rintro ⟨type, payload⟩
    exact ⟨⟨type, block_long sized payload rfl⟩, _, _, payload, _, _, rfl, rfl, rfl, rfl⟩

theorem progressiveParseContext_eq_ok (parsed : progressiveParseBlock data = .ok block)
    {context : ProgressiveContext} : progressiveParseContext data = .ok context ↔
      block.type = progressiveBlockContext ∧ context.tileSize.toNat = progressiveTileSize ∧
        block.payload = progressiveContextPayload context := by
  have sized := block_sized parsed
  simp only [progressiveParseContext, parsed, ok_bind, refuse_else, readU8_bind, readU16Le_bind,
    attempt_pure, Except.ok.injEq, Bool.or_eq_true, bne_iff_ne, ne_eq, not_or, not_not]
  constructor
  · rintro ⟨⟨type, ten⟩, contextId, _, payload, tileSize, _, rfl, flags, _, rfl, size, rfl⟩
    exact ⟨type, size, @block_rest _ _ [_, _, _, _] _ sized payload rfl ten⟩
  · rintro ⟨type, size, payload⟩
    exact ⟨⟨type, block_long sized payload rfl⟩, _, _, payload, _, _, rfl, _, _, rfl, size, rfl⟩

theorem progressiveParseFrameBegin_eq_ok (parsed : progressiveParseBlock data = .ok block)
    {frameBegin : ProgressiveFrameBegin} : progressiveParseFrameBegin data = .ok frameBegin ↔
      block.type = progressiveBlockFrameBegin ∧ (frameBegin.regionCount ≠ 0 ∧
        frameBegin.regionCount.toNat ≤ progressiveMaxRegions) ∧
        block.payload = progressiveFrameBeginPayload frameBegin := by
  have sized := block_sized parsed
  simp only [progressiveParseFrameBegin, parsed, ok_bind, refuse_else, readU32Le_bind,
    readU16Le_bind, attempt_pure, Except.ok.injEq, Bool.or_eq_true, bne_iff_ne, beq_iff_eq,
    decide_eq_true_eq, ne_eq, not_or, not_not, Nat.not_lt]
  constructor
  · rintro ⟨⟨type, twelve⟩, frameIndex, _, payload, regionCount, _, rfl, counted, rfl⟩
    exact ⟨type, counted, block_rest sized payload rfl twelve⟩
  · rintro ⟨type, counted, payload⟩
    exact ⟨⟨type, block_long sized payload rfl⟩, _, _, payload, _, [], rfl, counted, rfl⟩

theorem progressiveParseFrameEnd_eq_ok (parsed : progressiveParseBlock data = .ok block) :
    progressiveParseFrameEnd data = .ok () ↔
      block.type = progressiveBlockFrameEnd ∧ block.payload = [] := by
  have sized := block_sized parsed
  simp only [progressiveParseFrameEnd, parsed, ok_bind, refuse_else, block_shape, attempt_pure,
    and_true]
  exact and_congr_right fun _ =>
    ⟨@block_rest _ _ [] _ sized rfl rfl, fun payload => block_long sized payload rfl⟩

variable {region : ProgressiveRegion}

theorem progressiveReadArrays_eq_ok {next : ProgressiveRegion} {stream : Bytes} :
    progressiveReadArrays region stream = .ok next ↔
      ∃ rects quantValues progressiveQuantValues tiles,
        stream = rects ++ (quantValues ++ (progressiveQuantValues ++ tiles)) ∧
        rects.length = region.rectCount.toNat * 8 ∧
        quantValues.length = region.quantCount.toNat * 5 ∧
        progressiveQuantValues.length = region.progressiveQuantCount.toNat * 16 ∧
        tiles.length = region.tileDataSize.toNat ∧
        next = { region with rects, quantValues, progressiveQuantValues, tiles } := by
  simp only [progressiveReadArrays, refuse_else, readBytes_bind, attempt_pure, Except.ok.injEq,
    Bool.or_eq_true, decide_eq_true_eq, not_or, Nat.not_lt, Bool.not_eq_true', Bool.not_eq_false,
    List.isEmpty_iff]
  constructor
  · rintro ⟨-, rects, _, ⟨long₁, rfl⟩, quantValues, _, ⟨long₂, rfl⟩, progressiveQuantValues, _,
      ⟨long₃, rfl⟩, tiles, _, ⟨long₄, rfl⟩, rfl, rfl⟩
    rw [List.append_nil]
    exact ⟨rects, quantValues, progressiveQuantValues, tiles, rfl, long₁, long₂, long₃, long₄, rfl⟩
  · rintro ⟨rects, quantValues, progressiveQuantValues, tiles, rfl, long₁, long₂, long₃, long₄, rfl⟩
    simp only [List.length_append]
    exact ⟨⟨by omega, by omega⟩, rects, _, ⟨long₁, rfl⟩, quantValues, _, ⟨long₂, rfl⟩,
      progressiveQuantValues, tiles, ⟨long₃, rfl⟩, tiles, [], ⟨long₄, (List.append_nil tiles).symm⟩,
      rfl, rfl⟩

theorem progressiveParseRegion_eq_ok (parsed : progressiveParseBlock data = .ok block) :
    progressiveParseRegion data = .ok region ↔
      block.type = progressiveBlockRegion ∧ region.Valid ∧
        block.payload = progressiveRegionPayload region := by
  have sized := block_sized parsed
  simp only [progressiveParseRegion, parsed, ok_bind, refuse_else, readU8_bind, readU16Le_bind,
    readU32Le_bind, progressiveReadArrays_eq_ok, Bool.or_eq_true, Bool.and_eq_true, bne_iff_ne,
    ne_eq, beq_iff_eq, decide_eq_true_eq, not_or, not_and, not_not, Nat.not_lt, UInt32.not_lt,
    UInt32.le_iff_toNat_le]
  constructor
  · rintro ⟨⟨type, -⟩, tileSize, _, payload, rectCount, _, rfl, quantCount, _, rfl,
      progressiveQuantCount, _, rfl, flags, _, rfl, tileCount, _, rfl, tileDataSize, _, rfl,
      ⟨⟨⟨⟨size, some₁⟩, some₂⟩, few₁⟩, few₂⟩, ⟨empty, filled⟩, rects, quantValues,
      progressiveQuantValues, tiles, rfl, long₁, long₂, long₃, long₄, rfl⟩
    have empty : tileCount = 0 ↔ tileDataSize = 0 :=
      ⟨empty, fun none => by_contra fun some => filled some none⟩
    exact ⟨type, ⟨size, ⟨some₁, some₂⟩, ⟨few₁, few₂⟩, empty, long₁, long₂, long₃, long₄⟩, payload⟩
  · rintro ⟨type, valid, payload⟩
    have enough : 18 ≤ block.length.toNat := by
      rw [sized, payload]
      simp only [progressiveRegionPayload, List.length_append, List.length_cons, List.length_nil,
        u16LeBytes_length, u32LeBytes_length]
      omega
    exact ⟨⟨type, enough⟩, _, _, payload, _, _, rfl, _, _, rfl, _, _, rfl, _, _, rfl, _, _, rfl,
      _, _, rfl, ⟨⟨⟨⟨valid.tileSize, valid.some.1⟩, valid.some.2⟩, valid.few.1⟩, valid.few.2⟩,
      ⟨valid.empty.mp, fun some none => some (valid.empty.mpr none)⟩, _, _, _, _, rfl, valid.rects,
      valid.quantValues, valid.progressiveQuantValues, valid.tiles, rfl⟩

end Parsers

/-! ## Tiles -/

def componentBytes (data : Option Bytes) : Bytes := data.getD []

def progressiveComponents (components : List (Option Bytes)) : Bytes :=
  components.flatMap (fun data => u16LeBytes (componentBytes data).length) ++
    components.flatMap componentBytes

/-- `rdp_graphics_progressive_write_tile_prefix`. -/
def progressiveTilePrefix (tile : TilePrefix) : Bytes :=
  [tile.quantIdxY] ++ ([tile.quantIdxCb] ++ ([tile.quantIdxCr] ++
    (u16LeBytes tile.xIdx.toNat ++ u16LeBytes tile.yIdx.toNat)))

def ProgressiveTile.components (tile : ProgressiveTile) : List (Option Bytes) :=
  [tile.yData, tile.cbData, tile.crData, tile.tailData]

def ProgressiveTileUpgrade.components (tile : ProgressiveTileUpgrade) : List (Option Bytes) :=
  [tile.ySrlData, tile.yRawData, tile.cbSrlData, tile.cbRawData, tile.crSrlData, tile.crRawData]

/-- The payload of the two kinds of tiles that differ in how they spell their quality. -/
def progressiveTilePayload (quality : UInt8 → Bytes) (tile : ProgressiveTile) : Bytes :=
  progressiveTilePrefix tile.toTilePrefix ++ ([tile.flags] ++
    (quality tile.progressiveQuality ++ progressiveComponents tile.components))

/-- `rdp_graphics_progressive_write_tile_simple`; that data are there where their length is not zero
    goes without saying here. -/
def progressiveWriteTileSimple (buffer : Bytes) (tile : ProgressiveTile) : Status × Bytes :=
  progressiveWriteBlock buffer progressiveBlockTileSimple (progressiveTilePayload (fun _ => []) tile)

/-- `rdp_graphics_progressive_write_tile_first`. -/
def progressiveWriteTileFirst (buffer : Bytes) (tile : ProgressiveTile) : Status × Bytes :=
  progressiveWriteBlock buffer progressiveBlockTileFirst
    (progressiveTilePayload (fun quality => [quality]) tile)

def progressiveTileUpgradePayload (tile : ProgressiveTileUpgrade) : Bytes :=
  progressiveTilePrefix tile.toTilePrefix ++
    ([tile.progressiveQuality] ++ progressiveComponents tile.components)

/-- `rdp_graphics_progressive_write_tile_upgrade`. -/
def progressiveWriteTileUpgrade (buffer : Bytes) (tile : ProgressiveTileUpgrade) : Status × Bytes :=
  progressiveWriteBlock buffer progressiveBlockTileUpgrade (progressiveTileUpgradePayload tile)

/-- Every component is as long as the sixteen bits of its length can say. -/
def ComponentsFit (components : List (Option Bytes)) : Prop :=
  ∀ data ∈ components, (componentBytes data).length < 65536

section Tiles

variable {data rest stream : Bytes} {block : ProgressiveBlock}

theorem progressiveReadTilePrefix_eq_ok {tile : TilePrefix} :
    progressiveReadTilePrefix stream = .ok (tile, rest) ↔
      stream = progressiveTilePrefix tile ++ rest := by
  simp only [progressiveReadTilePrefix, readU8_bind, readU16Le_bind, attempt_pure,
    Except.ok.injEq, Prod.mk.injEq]
  constructor
  · rintro ⟨quantIdxY, _, rfl, quantIdxCb, _, rfl, quantIdxCr, _, rfl, xIdx, _, rfl, yIdx, _, rfl,
      rfl, rfl⟩
    rfl
  · rintro rfl
    exact ⟨_, _, rfl, _, _, rfl, _, _, rfl, _, _, rfl, _, _, rfl, rfl, rfl⟩

theorem progressiveReadTilePrefix_bind {γ : Type} {b : γ} {f : TilePrefix × Bytes → Attempt γ} :
    (progressiveReadTilePrefix stream >>= f) = .ok b ↔
      ∃ tile rest, stream = progressiveTilePrefix tile ++ rest ∧ f (tile, rest) = .ok b :=
  reads_bind fun _ _ => progressiveReadTilePrefix_eq_ok

variable {component : Option Bytes}

/-- The data of a component as they are read again: no data at all are a null pointer. -/
def readComponent (component : Option Bytes) : Option Bytes :=
  if componentBytes component = [] then none else some (componentBytes component)

theorem componentBytes_readComponent (component : Option Bytes) :
    componentBytes (readComponent component) = componentBytes component := by
  unfold readComponent
  split
  · rename_i empty
    exact empty.symm
  · rfl

theorem progressiveReadTileData_eq_ok {length : UInt16} :
    progressiveReadTileData stream length = .ok (component, rest) ↔
      ((componentBytes component).length = length.toNat ∧ readComponent component = component) ∧
        stream = componentBytes component ++ rest := by
  unfold progressiveReadTileData
  split
  · rename_i zero
    rw [beq_iff_eq.mp zero, attempt_pure, Except.ok.injEq, Prod.mk.injEq]
    constructor
    · rintro ⟨rfl, rfl⟩
      exact ⟨⟨rfl, rfl⟩, rfl⟩
    · rintro ⟨⟨none, same⟩, rfl⟩
      have empty := List.length_eq_zero_iff.mp none
      rw [readComponent, if_pos empty] at same
      exact ⟨same, congrArg (· ++ rest) empty⟩
  · rename_i filled
    rw [readBytes_bind]
    simp only [attempt_pure, Except.ok.injEq, Prod.mk.injEq]
    constructor
    · rintro ⟨bytes, _, ⟨long, rfl⟩, rfl, rfl⟩
      have some : bytes ≠ [] := fun empty => by
        rw [empty] at long
        exact filled (beq_iff_eq.mpr (UInt16.toNat_inj.mp long.symm))
      exact ⟨⟨long, if_neg some⟩, rfl⟩
    · rintro ⟨⟨long, same⟩, rfl⟩
      refine ⟨_, _, ⟨long, rfl⟩, ?_, rfl⟩
      rw [← same, readComponent, if_neg]
      · rfl
      · intro empty
        rw [empty] at long
        exact filled (beq_iff_eq.mpr (UInt16.toNat_inj.mp long.symm))

theorem readComponent_spells (short : (componentBytes component).length < 65536) (rest : Bytes) :
    ((componentBytes (readComponent component)).length =
        (UInt16.ofNat (componentBytes component).length).toNat ∧
      readComponent (readComponent component) = readComponent component) ∧
      componentBytes component ++ rest = componentBytes (readComponent component) ++ rest := by
  have same := componentBytes_readComponent component
  rw [UInt16.toNat_ofNat_of_lt' short, same]
  exact ⟨⟨rfl, by rw [readComponent, same]; rfl⟩, rfl⟩

theorem progressiveReadTileData_bind {γ : Type} {length : UInt16} {b : γ}
    {f : Option Bytes × Bytes → Attempt γ} :
    (progressiveReadTileData stream length >>= f) = .ok b ↔ ∃ component rest,
      (((componentBytes component).length = length.toNat ∧ readComponent component = component) ∧
        stream = componentBytes component ++ rest) ∧ f (component, rest) = .ok b :=
  reads_bind fun _ _ => progressiveReadTileData_eq_ok

def ProgressiveTile.reread (type : UInt16) (tile : ProgressiveTile) : ProgressiveTile :=
  { tile with
    blockType := type, yData := readComponent tile.yData, cbData := readComponent tile.cbData
    crData := readComponent tile.crData, tailData := readComponent tile.tailData }

def ProgressiveTileUpgrade.reread (tile : ProgressiveTileUpgrade) : ProgressiveTileUpgrade :=
  { tile with
    blockType := progressiveBlockTileUpgrade
    ySrlData := readComponent tile.ySrlData, yRawData := readComponent tile.yRawData
    cbSrlData := readComponent tile.cbSrlData, cbRawData := readComponent tile.cbRawData
    crSrlData := readComponent tile.crSrlData, crRawData := readComponent tile.crRawData }

structure ReadsQuality (readQuality : Bytes → Attempt (UInt8 × Bytes)) (good : UInt8 → Prop)
    (spell : UInt8 → Bytes) (least : UInt32) : Prop where
  iff : ∀ stream quality rest, readQuality stream = .ok (quality, rest) ↔
    good quality ∧ stream = spell quality ++ rest
  least : ∀ quality, least.toNat ≤ 22 + (spell quality).length

theorem readsQuality_simple :
    ReadsQuality (fun stream => pure (0xff, stream)) (· = 0xff) (fun _ => []) 22 := by
  refine ⟨?_, fun _ => Nat.le_refl _⟩
  intro stream quality rest
  simp only [attempt_pure, Except.ok.injEq, Prod.mk.injEq, List.nil_append]
  exact and_congr_left fun _ => eq_comm

theorem readsQuality_first :
    ReadsQuality readU8 (fun _ => True) (fun quality => [quality]) 23 := by
  refine ⟨?_, fun _ => Nat.le_refl _⟩
  intro stream quality rest
  rw [readU8_eq_ok, List.singleton_append, true_and]

section Tile

variable {type : UInt16} {least : UInt32} {readQuality : Bytes → Attempt (UInt8 × Bytes)}
  {good : UInt8 → Prop} {spell : UInt8 → Bytes}

theorem progressiveParseTile_eq_ok {next : ProgressiveTile}
    (reads : ReadsQuality readQuality good spell least)
    (parsed : progressiveParseBlock data = .ok block) :
    progressiveParseTile type least readQuality data = .ok next ↔
      ∃ tile : ProgressiveTile, block.type = type ∧ good tile.progressiveQuality ∧
        ComponentsFit tile.components ∧ block.payload = progressiveTilePayload spell tile ∧
        next = tile.reread type := by
  simp only [progressiveParseTile, parsed, ok_bind, refuse_else, progressiveReadTilePrefix_bind,
    readU8_bind, reads_bind (reads.iff _), readU16Le_bind, progressiveReadTileData_bind,
    attempt_pure, Except.ok.injEq, Bool.or_eq_true, bne_iff_ne, decide_eq_true_eq, ne_eq, not_or,
    not_not, UInt32.not_lt, UInt32.le_iff_toNat_le, block_sized parsed]
  simp only [ComponentsFit, ProgressiveTile.components, List.mem_cons, List.not_mem_nil, or_false,
    forall_eq_or_imp, forall_eq, progressiveTilePayload, progressiveComponents, List.flatMap_cons,
    List.flatMap_nil, List.append_assoc, List.singleton_append, List.nil_append]
  constructor
  · rintro ⟨⟨rfl, -⟩, tilePrefix, _, payload, flags, _, rfl, quality, _, ⟨isGood, rfl⟩, yLen, _,
      rfl, cbLen, _, rfl, crLen, _, rfl, tailLen, _, rfl, whole, yData, _, ⟨⟨longY, sameY⟩, rfl⟩,
      cbData, _, ⟨⟨longCb, sameCb⟩, rfl⟩, crData, _, ⟨⟨longCr, sameCr⟩, rfl⟩, tailData, rest,
      ⟨⟨longTail, sameTail⟩, rfl⟩, rfl⟩
    simp only [List.length_append] at whole
    have none : rest = [] := List.length_eq_zero_iff.mp (by omega)
    refine ⟨⟨tilePrefix, block.type, flags, quality, yData, cbData, crData, tailData⟩, rfl, isGood,
      ?_, ?_, ?_⟩
    · simp only [longY, longCb, longCr, longTail]
      exact ⟨yLen.toNat_lt, cbLen.toNat_lt, crLen.toNat_lt, tailLen.toNat_lt⟩
    · simp only [payload, none, longY, longCb, longCr, longTail]
    · simp only [ProgressiveTile.reread, sameY, sameCb, sameCr, sameTail]
  · rintro ⟨tile, rfl, isGood, ⟨shortY, shortCb, shortCr, shortTail⟩, payload, rfl⟩
    have spelled := reads.least tile.progressiveQuality
    have lengthY := UInt16.toNat_ofNat_of_lt' shortY
    have lengthCb := UInt16.toNat_ofNat_of_lt' shortCb
    have lengthCr := UInt16.toNat_ofNat_of_lt' shortCr
    have lengthTail := UInt16.toNat_ofNat_of_lt' shortTail
    rw [← lengthY, ← lengthCb, ← lengthCr, ← lengthTail] at payload
    refine ⟨⟨rfl, ?_⟩, _, _, payload, _, _, rfl, _, _, ⟨isGood, rfl⟩, _, _, rfl, _, _, rfl, _, _,
      rfl, _, _, rfl, ?_, _, _, readComponent_spells shortY _, _, _, readComponent_spells shortCb _,
      _, _, readComponent_spells shortCr _, _, _, readComponent_spells shortTail [], rfl⟩
    · simp only [payload, progressiveTilePrefix, List.length_append, List.length_cons,
        List.length_nil, u16LeBytes_length]
      omega
    · simp only [List.length_append, List.length_nil, lengthY, lengthCb, lengthCr, lengthTail]
      omega

end Tile

theorem progressiveParseTileUpgrade_eq_ok {next : ProgressiveTileUpgrade}
    (parsed : progressiveParseBlock data = .ok block) :
    progressiveParseTileUpgrade data = .ok next ↔
      ∃ tile : ProgressiveTileUpgrade, block.type = progressiveBlockTileUpgrade ∧
        ComponentsFit tile.components ∧ block.payload = progressiveTileUpgradePayload tile ∧
        next = tile.reread := by
  have least : (26 : UInt32).toNat = 26 := rfl
  simp only [progressiveParseTileUpgrade, parsed, ok_bind, refuse_else,
    progressiveReadTilePrefix_bind, readU8_bind, readU16Le_bind, progressiveReadTileData_bind,
    attempt_pure, Except.ok.injEq, Bool.or_eq_true, bne_iff_ne, decide_eq_true_eq, ne_eq, not_or,
    not_not, UInt32.not_lt, UInt32.le_iff_toNat_le, block_sized parsed, least]
  simp only [ComponentsFit, ProgressiveTileUpgrade.components, List.mem_cons, List.not_mem_nil, or_false,
    forall_eq_or_imp, forall_eq, progressiveTileUpgradePayload, progressiveComponents, List.flatMap_cons,
    List.flatMap_nil, List.append_assoc, List.singleton_append, List.nil_append]
  constructor
  · rintro ⟨⟨type, -⟩, tilePrefix, _, payload, quality, _, rfl, ySrlLen, _, rfl, yRawLen, _, rfl,
      cbSrlLen, _, rfl, cbRawLen, _, rfl, crSrlLen, _, rfl, crRawLen, _, rfl, whole,
      ySrl, _, ⟨⟨longYSrl, sameYSrl⟩, rfl⟩, yRaw, _, ⟨⟨longYRaw, sameYRaw⟩, rfl⟩,
      cbSrl, _, ⟨⟨longCbSrl, sameCbSrl⟩, rfl⟩, cbRaw, _, ⟨⟨longCbRaw, sameCbRaw⟩, rfl⟩,
      crSrl, _, ⟨⟨longCrSrl, sameCrSrl⟩, rfl⟩, crRaw, rest, ⟨⟨longCrRaw, sameCrRaw⟩, rfl⟩, rfl⟩
    simp only [List.length_append] at whole
    have none : rest = [] := List.length_eq_zero_iff.mp (by omega)
    refine ⟨⟨tilePrefix, block.type, quality, ySrl, yRaw, cbSrl, cbRaw, crSrl, crRaw⟩, type,
      ?_, ?_, ?_⟩
    · simp only [longYSrl, longYRaw, longCbSrl, longCbRaw, longCrSrl, longCrRaw]
      exact ⟨ySrlLen.toNat_lt, yRawLen.toNat_lt, cbSrlLen.toNat_lt, cbRawLen.toNat_lt,
        crSrlLen.toNat_lt, crRawLen.toNat_lt⟩
    · simp only [payload, none, longYSrl, longYRaw, longCbSrl, longCbRaw, longCrSrl, longCrRaw]
    · simp only [ProgressiveTileUpgrade.reread, type, sameYSrl, sameYRaw, sameCbSrl, sameCbRaw,
        sameCrSrl, sameCrRaw]
  · rintro ⟨tile, type, ⟨shortYSrl, shortYRaw, shortCbSrl, shortCbRaw, shortCrSrl, shortCrRaw⟩,
      payload, rfl⟩
    have lengthYSrl := UInt16.toNat_ofNat_of_lt' shortYSrl
    have lengthYRaw := UInt16.toNat_ofNat_of_lt' shortYRaw
    have lengthCbSrl := UInt16.toNat_ofNat_of_lt' shortCbSrl
    have lengthCbRaw := UInt16.toNat_ofNat_of_lt' shortCbRaw
    have lengthCrSrl := UInt16.toNat_ofNat_of_lt' shortCrSrl
    have lengthCrRaw := UInt16.toNat_ofNat_of_lt' shortCrRaw
    rw [← lengthYSrl, ← lengthYRaw, ← lengthCbSrl, ← lengthCbRaw, ← lengthCrSrl, ← lengthCrRaw]
      at payload
    refine ⟨⟨type, ?_⟩, _, _, payload, _, _, rfl, _, _, rfl, _, _, rfl, _, _, rfl, _, _, rfl, _, _,
      rfl, _, _, rfl, ?_, _, _, readComponent_spells shortYSrl _,
      _, _, readComponent_spells shortYRaw _, _, _, readComponent_spells shortCbSrl _,
      _, _, readComponent_spells shortCbRaw _, _, _, readComponent_spells shortCrSrl _,
      _, _, readComponent_spells shortCrRaw [], by rw [type]; rfl⟩
    · simp only [payload, progressiveTilePrefix, List.length_append, List.length_cons,
        List.length_nil, u16LeBytes_length]
      omega
    · simp only [List.length_append, List.length_nil, lengthYSrl, lengthYRaw, lengthCbSrl,
        lengthCbRaw, lengthCrSrl, lengthCrRaw]
      omega

end Tiles

end LibRdp.Graphics
