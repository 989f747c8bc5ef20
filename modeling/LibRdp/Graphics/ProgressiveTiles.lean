import LibRdp.Graphics.ProgressiveWriters

/-! # The tiles of a progressive region

The tile data of a region are counted if and only if they are what the writers write for as many
tiles as the region says, each with quantisers that the region has.
-/

namespace LibRdp.Graphics

open Machine

def ProgressiveBlock.of (type : UInt16) (payload : Bytes) : ProgressiveBlock where
  type := type
  length := UInt32.ofNat (payload.length + 6)
  payload := payload

theorem ProgressiveBlock.of_sized {type : UInt16} {payload : Bytes}
    (short : payload.length ≤ 0xffffffff - 6) : (ProgressiveBlock.of type payload).Sized :=
  UInt32.toNat_ofNat_of_lt' (by change payload.length + 6 < 4294967296; omega)

theorem progressiveReadBlock_written {type : UInt16} {payload : Bytes}
    (short : payload.length ≤ 0xffffffff - 6) (rest : Bytes) :
    ∃ block : ProgressiveBlock, block.type = type ∧ block.payload = payload ∧ block.Sized ∧
      progressiveParseBlock (progressiveBlockBytes type payload ++ rest) = .ok block ∧
      progressiveReadBlock (progressiveBlockBytes type payload ++ rest) =
        .ok ((block, progressiveBlockBytes type payload ++ rest), rest) :=
  have sized := ProgressiveBlock.of_sized short
  ⟨.of type payload, rfl, rfl, sized, progressiveParseBlock_eq_ok.mpr ⟨sized, rest, rfl⟩,
    progressiveReadBlock_eq_ok.mpr ⟨rfl, sized, rfl⟩⟩

theorem ProgressiveBlock.Sized.short {block : ProgressiveBlock} (sized : block.Sized) :
    block.payload.length ≤ 0xffffffff - 6 := by
  have small := block.length.toNat_lt
  rw [sized] at small
  omega

inductive ProgressiveTileBlock where
  | simple (tile : ProgressiveTile)
  | first (tile : ProgressiveTile)
  | upgrade (tile : ProgressiveTileUpgrade)
  deriving Repr, DecidableEq

namespace ProgressiveTileBlock

def type : ProgressiveTileBlock → UInt16
  | .simple _ => progressiveBlockTileSimple
  | .first _ => progressiveBlockTileFirst
  | .upgrade _ => progressiveBlockTileUpgrade

def payload : ProgressiveTileBlock → Bytes
  | .simple tile => progressiveTilePayload (fun _ => []) tile
  | .first tile => progressiveTilePayload (fun quality => [quality]) tile
  | .upgrade tile => progressiveTileUpgradePayload tile

def bytes (tile : ProgressiveTileBlock) : Bytes := progressiveBlockBytes tile.type tile.payload

def write (buffer : Bytes) : ProgressiveTileBlock → Status × Bytes
  | .simple tile => progressiveWriteTileSimple buffer tile
  | .first tile => progressiveWriteTileFirst buffer tile
  | .upgrade tile => progressiveWriteTileUpgrade buffer tile

def indices : ProgressiveTileBlock → TilePrefix
  | .simple tile => tile.toTilePrefix
  | .first tile => tile.toTilePrefix
  | .upgrade tile => tile.toTilePrefix

def quality : ProgressiveTileBlock → UInt8
  | .simple tile => tile.progressiveQuality
  | .first tile => tile.progressiveQuality
  | .upgrade tile => tile.progressiveQuality

def components : ProgressiveTileBlock → List (Option Bytes)
  | .simple tile => tile.components
  | .first tile => tile.components
  | .upgrade tile => tile.components

def isSimple : ProgressiveTileBlock → Bool
  | .simple _ => true
  | _ => false

def isFirst : ProgressiveTileBlock → Bool
  | .first _ => true
  | _ => false

def isUpgrade : ProgressiveTileBlock → Bool
  | .upgrade _ => true
  | _ => false

end ProgressiveTileBlock

structure QuantFits (region : ProgressiveRegion) (tile : TilePrefix) (quality : UInt8) : Prop where
  y : tile.quantIdxY < region.quantCount
  cb : tile.quantIdxCb < region.quantCount
  cr : tile.quantIdxCr < region.quantCount
  quality : quality = 0xff ∨ quality < region.progressiveQuantCount

structure ProgressiveTileBlock.Fits (region : ProgressiveRegion) (tile : ProgressiveTileBlock) :
    Prop where
  components : ComponentsFit tile.components
  simple : tile.isSimple = true → tile.quality = 0xff
  quant : QuantFits region tile.indices tile.quality

def ProgressiveTileBlock.count (seen : ProgressiveProgress) :
    ProgressiveTileBlock → ProgressiveProgress
  | .simple _ => { seen with
      simpleTileCount := seen.simpleTileCount + 1, tilesSeen := seen.tilesSeen + 1 }
  | .first _ => { seen with
      firstTileCount := seen.firstTileCount + 1, tilesSeen := seen.tilesSeen + 1 }
  | .upgrade _ => { seen with
      upgradeTileCount := seen.upgradeTileCount + 1, tilesSeen := seen.tilesSeen + 1 }

section Tiles

variable {region : ProgressiveRegion} {stream rest : Bytes} {seen next : ProgressiveProgress}

theorem progressiveValidateTileQuant_eq_ok {tile : TilePrefix} {quality : UInt8} :
    progressiveValidateTileQuant tile quality region = .ok () ↔ QuantFits region tile quality := by
  simp only [progressiveValidateTileQuant, refuse_else, attempt_pure, and_true, Bool.or_eq_true,
    Bool.and_eq_true, bne_iff_ne, ne_eq, decide_eq_true_eq, not_or, not_and_or, not_not,
    UInt8.not_le]
  exact ⟨fun ⟨⟨⟨y, cb⟩, cr⟩, known⟩ => ⟨y, cb, cr, known⟩,
    fun fits => ⟨⟨⟨fits.y, fits.cb⟩, fits.cr⟩, fits.quality⟩⟩

theorem progressiveComponents_length {components : List (Option Bytes)}
    (fit : ComponentsFit components) :
    (progressiveComponents components).length ≤ components.length * 65537 := by
  induction components with
  | nil => exact Nat.le_refl 0
  | cons data components ih =>
    obtain ⟨short, later⟩ := List.forall_mem_cons.mp fit
    have before := ih later
    simp only [progressiveComponents, List.flatMap_cons, List.length_append, u16LeBytes_length,
      List.length_cons] at before ⊢
    omega

theorem ProgressiveTileBlock.short {tile : ProgressiveTileBlock} (fit : ComponentsFit tile.components) :
    tile.payload.length ≤ 0xffffffff - 6 := by
  have most := progressiveComponents_length fit
  have few : tile.components.length ≤ 6 := by
    cases tile <;> simp only [components, ProgressiveTile.components,
      ProgressiveTileUpgrade.components, List.length_cons, List.length_nil] <;> omega
  cases tile with
  | simple tile =>
    simp only [payload, progressiveTilePayload, progressiveTilePrefix, List.length_append,
      List.length_cons, List.length_nil, u16LeBytes_length]
    simp only [components] at most few
    omega
  | first tile =>
    simp only [payload, progressiveTilePayload, progressiveTilePrefix, List.length_append,
      List.length_cons, List.length_nil, u16LeBytes_length]
    simp only [components] at most few
    omega
  | upgrade tile =>
    simp only [payload, progressiveTileUpgradePayload, progressiveTilePrefix, List.length_append,
      List.length_cons, List.length_nil, u16LeBytes_length]
    simp only [components] at most few
    omega

theorem ProgressiveTileBlock.write_eq (tile : ProgressiveTileBlock) (buffer : Bytes) :
    tile.write buffer = progressiveWriteBlock buffer tile.type tile.payload := by
  cases tile <;> rfl

theorem parsed_eq_ok {α : Type} {parsed : Attempt α} {indices : α → TilePrefix} {quality : α → UInt8}
    {count : ProgressiveProgress → ProgressiveProgress} :
    (do let tile ← Effect.lift parsed
        .lift (progressiveValidateTileQuant (indices tile) (quality tile) region)
        .modify count : ProgressiveCheck) seen = (.ok (), next) ↔
      ∃ tile, parsed = .ok tile ∧ QuantFits region (indices tile) (quality tile) ∧
        next = count seen := by
  rw [Effect.lift_bind_eq_ok]
  refine exists_congr fun tile => and_congr_right fun _ => ?_
  rw [Effect.lift_bind_eq_ok]
  constructor
  · rintro ⟨⟨⟩, valid, same⟩
    cases same
    exact ⟨progressiveValidateTileQuant_eq_ok.mp valid, rfl⟩
  · rintro ⟨valid, rfl⟩
    exact ⟨(), progressiveValidateTileQuant_eq_ok.mpr valid, rfl⟩

theorem tiles_spell (region : ProgressiveRegion) :
    progressiveBlocks.Spells (progressiveCountTile region) ProgressiveTileBlock.bytes
      (fun tile _ => tile.Fits region) fun tile seen => tile.count seen := by
  intro stream rest seen next
  constructor
  · rintro ⟨⟨block, data⟩, read, took⟩
    obtain ⟨same, sized, whole⟩ := progressiveReadBlock_eq_ok.mp read
    cases same
    have parsed := progressiveParseBlock_eq_ok.mpr ⟨sized, rest, whole⟩
    simp only [progressiveCountTile] at took
    split at took
    · obtain ⟨next, read, quant, rfl⟩ := parsed_eq_ok.mp took
      obtain ⟨tile, typed, none, fit, payload, rfl⟩ :=
        (progressiveParseTile_eq_ok readsQuality_simple parsed).mp read
      refine ⟨.simple tile, ?_, ⟨fit, fun _ => none, ?_⟩, rfl⟩
      · rw [whole, payload, typed]
        rfl
      · change QuantFits region tile.toTilePrefix tile.progressiveQuality
        rw [none]
        exact quant
    split at took
    · obtain ⟨next, read, quant, rfl⟩ := parsed_eq_ok.mp took
      obtain ⟨tile, typed, -, fit, payload, rfl⟩ :=
        (progressiveParseTile_eq_ok readsQuality_first parsed).mp read
      refine ⟨.first tile, ?_, ⟨fit, nofun, quant⟩, rfl⟩
      rw [whole, payload, typed]
      rfl
    split at took
    · obtain ⟨next, read, quant, rfl⟩ := parsed_eq_ok.mp took
      obtain ⟨tile, typed, fit, payload, rfl⟩ := (progressiveParseTileUpgrade_eq_ok parsed).mp read
      refine ⟨.upgrade tile, ?_, ⟨fit, nofun, quant⟩, rfl⟩
      rw [whole, payload, typed]
      rfl
    · cases congrArg Prod.fst took
  · rintro ⟨tile, rfl, ⟨fit, none, quant⟩, rfl⟩
    obtain ⟨block, type, payload, -, parsed, read⟩ :=
      @progressiveReadBlock_written tile.type _ (ProgressiveTileBlock.short fit) rest
    refine ⟨(block, tile.bytes ++ rest), read, ?_⟩
    cases tile with
    | simple tile =>
      change block.type = progressiveBlockTileSimple at type
      have read := (progressiveParseTile_eq_ok readsQuality_simple parsed).mpr
        ⟨tile, type, none rfl, fit, payload, rfl⟩
      rw [progressiveCountTile, if_pos type]
      refine parsed_eq_ok.mpr ⟨_, read, ?_, rfl⟩
      have known := none rfl
      exact known ▸ quant
    | first tile =>
      change block.type = progressiveBlockTileFirst at type
      have read := (progressiveParseTile_eq_ok readsQuality_first parsed).mpr
        ⟨tile, type, trivial, fit, payload, rfl⟩
      rw [progressiveCountTile, type, if_neg (by decide), if_pos rfl]
      exact parsed_eq_ok.mpr ⟨_, read, quant, rfl⟩
    | upgrade tile =>
      change block.type = progressiveBlockTileUpgrade at type
      have read := (progressiveParseTileUpgrade_eq_ok parsed).mpr ⟨tile, type, fit, payload, rfl⟩
      rw [progressiveCountTile, type, if_neg (by decide), if_neg (by decide), if_pos rfl]
      exact parsed_eq_ok.mpr ⟨_, read, quant, rfl⟩

def ProgressiveProgress.withTiles (seen : ProgressiveProgress) (tiles : List ProgressiveTileBlock) :
    ProgressiveProgress :=
  { seen with
    simpleTileCount := seen.simpleTileCount + UInt32.ofNat (tiles.countP (·.isSimple))
    firstTileCount := seen.firstTileCount + UInt32.ofNat (tiles.countP (·.isFirst))
    upgradeTileCount := seen.upgradeTileCount + UInt32.ofNat (tiles.countP (·.isUpgrade))
    tilesSeen := seen.tilesSeen + UInt32.ofNat tiles.length }

theorem foldl_count (tiles : List ProgressiveTileBlock) (seen : ProgressiveProgress) :
    tiles.foldl (fun seen tile => tile.count seen) seen = seen.withTiles tiles := by
  induction tiles generalizing seen with
  | nil => simp [ProgressiveProgress.withTiles]
  | cons tile tiles ih =>
    rw [List.foldl_cons, ih]
    cases tile <;>
      simp [ProgressiveProgress.withTiles, ProgressiveTileBlock.count,
        ProgressiveTileBlock.isSimple, ProgressiveTileBlock.isFirst,
        ProgressiveTileBlock.isUpgrade, UInt32.ofNat_add, UInt32.add_assoc, UInt32.add_comm]

theorem tiles_length_le (tiles : List ProgressiveTileBlock) :
    tiles.length ≤ (tiles.flatMap ProgressiveTileBlock.bytes).length := by
  induction tiles with
  | nil => exact Nat.le_refl 0
  | cons tile tiles ih =>
    rw [List.flatMap_cons, List.length_append, List.length_cons, ProgressiveTileBlock.bytes,
      progressiveBlockBytes_length]
    omega

structure ProgressiveRegion.HasTiles (region : ProgressiveRegion)
    (tiles : List ProgressiveTileBlock) : Prop where
  written : region.tiles = tiles.flatMap ProgressiveTileBlock.bytes
  count : tiles.length = region.tileCount.toNat
  fit : ∀ tile ∈ tiles, tile.Fits region

def ProgressiveProgress.withRegion (seen : ProgressiveProgress)
    (tiles : List ProgressiveTileBlock) : ProgressiveProgress :=
  { { seen with tilesSeen := 0 }.withTiles tiles with
    tileCount := seen.tileCount + UInt32.ofNat tiles.length
    regionsSeen := seen.regionsSeen + 1 }

theorem progressiveCountRegionTiles_eq_ok (valid : region.Valid) :
    (do progressiveCountRegionTiles region
        .modify fun seen => { seen with regionsSeen := seen.regionsSeen + 1 } :
          ProgressiveCheck) seen = (.ok (), next) ↔
      ∃ tiles, region.HasTiles tiles ∧
        seen.tileCount.toNat + tiles.length ≤ progressiveMaxTiles.toNat ∧
        next = seen.withRegion tiles := by
  have counted : (progressiveMaxTiles : UInt32).toNat = 4096 := rfl
  have small (tiles : List ProgressiveTileBlock)
      (written : region.tiles = tiles.flatMap ProgressiveTileBlock.bytes) :
      (UInt32.ofNat tiles.length).toNat = tiles.length := by
    have most := tiles_length_le tiles
    rw [← written, valid.tiles] at most
    exact UInt32.toNat_ofNat_of_lt' (Nat.lt_of_le_of_lt most region.tileDataSize.toNat_lt)
  rw [Effect.bind_eq_ok]
  constructor
  · rintro ⟨⟨⟩, later, ran, last⟩
    cases last
    rw [progressiveCountRegionTiles, Effect.modify_bind, Effect.bind_eq_ok] at ran
    obtain ⟨⟨⟩, middle, walked, ran⟩ := ran
    obtain ⟨tiles, written, pass, rfl⟩ := (tiles_spell region).walk_eq_ok.mp walked
    rw [foldl_count, Effect.get_bind] at ran
    split at ran
    · cases congrArg Prod.fst ran
    rename_i all
    split at ran
    · cases congrArg Prod.fst ran
    rename_i limits
    cases ran
    simp only [bne_iff_ne, ne_eq, not_not, ProgressiveProgress.withTiles, UInt32.zero_add,
      ← UInt32.toNat_inj, small tiles written] at all
    simp only [Bool.or_eq_true, decide_eq_true_eq, not_or, UInt32.not_lt,
      ProgressiveProgress.withTiles, UInt32.zero_add] at limits
    have room := UInt32.le_iff_toNat_le.mp limits.2
    rw [UInt32.toNat_sub_of_le _ _ limits.1, small tiles written] at room
    have few := UInt32.le_iff_toNat_le.mp limits.1
    rw [small tiles written] at few
    refine ⟨tiles, ⟨written, ?_, Machine.Reader.passes_always.mp pass⟩, by omega, ?_⟩
    · rw [all]
      rfl
    · simp [ProgressiveProgress.withRegion, ProgressiveProgress.withTiles]
  · rintro ⟨tiles, has, room, rfl⟩
    have walked : progressiveBlocks.walk (progressiveCountTile region) region.tiles
        { seen with tilesSeen := 0 } = (.ok (), { seen with tilesSeen := 0 }.withTiles tiles) :=
      (tiles_spell region).walk_eq_ok.mpr
        ⟨tiles, has.written, Machine.Reader.passes_always.mpr has.fit, (foldl_count _ _).symm⟩
    refine ⟨(), { { seen with tilesSeen := 0 }.withTiles tiles with
      tileCount := seen.tileCount + UInt32.ofNat tiles.length }, ?_, rfl⟩
    rw [progressiveCountRegionTiles, Effect.modify_bind, Effect.bind_ok walked,
      Effect.get_bind]
    have all : ({ seen with tilesSeen := 0 }.withTiles tiles).tilesSeen =
        UInt32.ofNat tiles.length := UInt32.zero_add _
    have same : UInt32.ofNat tiles.length = region.tileCount.toUInt32 := by
      apply UInt32.toNat_inj.mp
      rw [small tiles has.written, has.count]
      rfl
    have few : UInt32.ofNat tiles.length ≤ progressiveMaxTiles := by
      rw [UInt32.le_iff_toNat_le, small tiles has.written]
      omega
    have limits : seen.tileCount ≤ progressiveMaxTiles - UInt32.ofNat tiles.length := by
      rw [UInt32.le_iff_toNat_le, UInt32.toNat_sub_of_le _ _ few, small tiles has.written]
      omega
    simp only [all]
    rw [if_neg (by simp [same]), if_neg (by
      simp only [Bool.or_eq_true, decide_eq_true_eq, not_or, UInt32.not_lt]
      exact ⟨few, limits⟩)]
    simp only [Effect.modify, all]
    rfl

end Tiles

end LibRdp.Graphics
