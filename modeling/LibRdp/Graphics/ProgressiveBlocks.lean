import LibRdp.Graphics.ProgressiveTiles

/-! # The blocks of a progressive stream

Every block that the loop over a stream takes is one that a writer writes, and stands where it is
allowed to: a block on its own is checked together with the state in front of it.
-/

namespace LibRdp.Graphics

open Machine

inductive ProgressiveStreamBlock where
  | sync
  | context (context : ProgressiveContext)
  | frameBegin (frameBegin : ProgressiveFrameBegin)
  | region (region : ProgressiveRegion) (tiles : List ProgressiveTileBlock)
  | frameEnd
  deriving Repr, DecidableEq

namespace ProgressiveStreamBlock

def type : ProgressiveStreamBlock → UInt16
  | .sync => progressiveBlockSync
  | .context _ => progressiveBlockContext
  | .frameBegin _ => progressiveBlockFrameBegin
  | .region _ _ => progressiveBlockRegion
  | .frameEnd => progressiveBlockFrameEnd

def payload : ProgressiveStreamBlock → Bytes
  | .sync => progressiveSyncPayload
  | .context opening => progressiveContextPayload opening
  | .frameBegin opening => progressiveFrameBeginPayload opening
  | .region area _ => progressiveRegionPayload area
  | .frameEnd => []

def bytes (block : ProgressiveStreamBlock) : Bytes := progressiveBlockBytes block.type block.payload

def write (buffer : Bytes) : ProgressiveStreamBlock → Status × Bytes
  | .sync => progressiveWriteBlock buffer progressiveBlockSync progressiveSyncPayload
  | .context opening => progressiveWriteContext buffer opening
  | .frameBegin opening => progressiveWriteFrameBegin buffer opening
  | .region area _ => progressiveWriteRegion buffer area
  | .frameEnd => progressiveWriteFrameEnd buffer

def Writable : ProgressiveStreamBlock → Prop
  | .sync | .frameEnd => True
  | .context opening => opening.tileSize.toNat = progressiveTileSize
  | .frameBegin opening =>
      opening.regionCount ≠ 0 ∧ opening.regionCount.toNat ≤ progressiveMaxRegions
  | .region area _ => area.Valid ∧ (progressiveRegionPayload area).length ≤ 0xffffffff - 6

def HasTiles : ProgressiveStreamBlock → Prop
  | .region area tiles => area.HasTiles tiles
  | _ => True

/-- A block on its own is what a writer writes, and holds the tiles it comes with. -/
def Good (block : ProgressiveStreamBlock) : Prop := block.Writable ∧ block.HasTiles

def Allowed (seen : ProgressiveProgress) : ProgressiveStreamBlock → Prop
  | .sync => ¬ (seen.hasSync || seen.frameActive || seen.frameDone || seen.blockCount + 1 != 1) = true
  | .context _ => ¬ (seen.hasContext || seen.frameActive || seen.frameDone) = true
  | .frameBegin _ => ¬ (seen.hasFrameBegin || seen.frameActive || seen.frameDone) = true
  | .region _ tiles => ¬ (!seen.frameActive || decide (seen.regionsExpected ≤ seen.regionsSeen)) =
      true ∧ seen.tileCount.toNat + tiles.length ≤ progressiveMaxTiles.toNat
  | .frameEnd => ¬ (!seen.frameActive || seen.regionsSeen != seen.regionsExpected) = true

def note (seen : ProgressiveProgress) : ProgressiveStreamBlock → ProgressiveProgress
  | .sync => { seen with hasSync := true }
  | .context opening => { seen with
      hasContext := true, tileSize := opening.tileSize.toUInt8, flags := opening.flags }
  | .frameBegin opening => { seen with
      hasFrameBegin := true
      regionCount := seen.regionCount + opening.regionCount.toUInt32
      regionsExpected := opening.regionCount.toUInt32
      frameActive := true }
  | .region _ tiles => seen.withRegion tiles
  | .frameEnd => { seen with hasFrameEnd := true, frameActive := false, frameDone := true }

def after (block : ProgressiveStreamBlock) (seen : ProgressiveProgress) : ProgressiveProgress :=
  block.note { seen with
    blockCount := seen.blockCount + 1, knownBlockCount := seen.knownBlockCount + 1 }

end ProgressiveStreamBlock

section Blocks

variable {buffer out : Bytes}

theorem progressiveWriteBlock_eq_ok {type : UInt16} {payload : Bytes} :
    progressiveWriteBlock buffer type payload = (.ok, out) ↔
      payload.length ≤ 0xffffffff - 6 ∧ out = buffer ++ progressiveBlockBytes type payload := by
  unfold progressiveWriteBlock
  split
  · rename_i long
    exact ⟨nofun, fun short => absurd short.1 (Nat.not_le.mpr long)⟩
  rename_i short
  simp only [Prod.mk.injEq, true_and, eq_comm (a := out)]
  exact (and_iff_right (Nat.not_lt.mp short)).symm

theorem progressiveContextPayload_short (context : ProgressiveContext) :
    (progressiveContextPayload context).length ≤ 0xffffffff - 6 :=
  show 4 ≤ 0xffffffff - 6 by decide

theorem progressiveFrameBeginPayload_short (frameBegin : ProgressiveFrameBegin) :
    (progressiveFrameBeginPayload frameBegin).length ≤ 0xffffffff - 6 :=
  show 6 ≤ 0xffffffff - 6 by decide

theorem progressiveWriteRegion_eq_ok {region : ProgressiveRegion} :
    progressiveWriteRegion buffer region = (.ok, out) ↔
      (region.Valid ∧ (progressiveRegionPayload region).length ≤ 0xffffffff - 6) ∧
        out = buffer ++ progressiveBlockBytes progressiveBlockRegion
          (progressiveRegionPayload region) := by
  unfold progressiveWriteRegion
  constructor
  · intro written
    split at written
    · cases congrArg Prod.fst written
    rename_i limits
    split at written
    · cases congrArg Prod.fst written
    rename_i arrays
    split at written
    · cases congrArg Prod.fst written
    split at written
    · cases congrArg Prod.fst written
    obtain ⟨short, same⟩ := progressiveWriteBlock_eq_ok.mp written
    simp only [not_or, ne_eq, not_not, gt_iff_lt, Nat.not_lt] at limits arrays
    obtain ⟨tileSize, rects, quants, fewRects, fewTiles, empty, filled⟩ := limits
    refine ⟨⟨⟨tileSize, ⟨rects, quants⟩, ⟨fewRects, fewTiles⟩, ?_, arrays.1, arrays.2.1,
      arrays.2.2.1, arrays.2.2.2⟩, short⟩, same⟩
    tauto
  · rintro ⟨⟨valid, short⟩, same⟩
    have empty := valid.empty
    have sixteen := region.rectCount.toNat_lt
    have eight := region.quantCount.toNat_lt
    have eight' := region.progressiveQuantCount.toNat_lt
    have tiles : region.tiles.length < 2 ^ 32 := by
      rw [valid.tiles]
      exact region.tileDataSize.toNat_lt
    rw [if_neg (by
      simp only [not_or, ne_eq, not_not, gt_iff_lt, Nat.not_lt]
      refine ⟨valid.tileSize, valid.some.1, valid.some.2, valid.few.1, valid.few.2, ?_, ?_⟩ <;>
        tauto), if_neg (by
      simp only [not_or, ne_eq, not_not]
      exact ⟨valid.rects, valid.quantValues, valid.progressiveQuantValues, valid.tiles⟩),
      if_neg (by omega), if_neg (by omega)]
    exact progressiveWriteBlock_eq_ok.mpr ⟨short, same⟩

theorem ProgressiveStreamBlock.write_eq_ok {block : ProgressiveStreamBlock} :
    block.write buffer = (.ok, out) ↔ block.Writable ∧ out = buffer ++ block.bytes := by
  cases block with
  | sync =>
    rw [write, progressiveWriteBlock_eq_ok]
    exact and_congr_left fun _ => iff_of_true (by decide) trivial
  | context context =>
    rw [write, progressiveWriteContext]
    split
    · rename_i odd
      exact ⟨nofun, fun fine => absurd fine.1 odd⟩
    rename_i size
    rw [progressiveWriteBlock_eq_ok]
    exact and_congr_left fun _ => 
      iff_of_true (progressiveContextPayload_short context) (not_not.mp size)
  | frameBegin frameBegin =>
    rw [write, progressiveWriteFrameBegin]
    split
    · rename_i odd
      refine ⟨nofun, fun fine => ?_⟩
      obtain none | many := odd
      · exact absurd none fine.1.1
      · exact absurd fine.1.2 (Nat.not_le.mpr many)
    rename_i counted
    rw [not_or, gt_iff_lt, Nat.not_lt] at counted
    rw [progressiveWriteBlock_eq_ok]
    exact and_congr_left fun _ =>
      iff_of_true (progressiveFrameBeginPayload_short frameBegin) counted
  | region region tiles => exact progressiveWriteRegion_eq_ok
  | frameEnd =>
    rw [write, progressiveWriteFrameEnd, progressiveWriteBlock_eq_ok]
    exact and_congr_left fun _ => iff_of_true (by decide) trivial

theorem ProgressiveStreamBlock.Writable.short {block : ProgressiveStreamBlock}
    (writable : block.Writable) : block.payload.length ≤ 0xffffffff - 6 := by
  cases block with
  | sync | frameEnd => decide
  | context context => exact progressiveContextPayload_short context
  | frameBegin frameBegin => exact progressiveFrameBeginPayload_short frameBegin
  | region region tiles => exact writable.2

theorem guarded_eq_ok {α : Type} {refused : Prop} [Decidable refused] {parsed : Attempt α}
    {check : α → ProgressiveCheck} {seen next : ProgressiveProgress} :
    (if refused then .stop (.returned .protocolError)
      else (Effect.lift parsed >>= check : ProgressiveCheck)) seen = (.ok (), next) ↔
      ¬refused ∧ ∃ a, parsed = .ok a ∧ check a seen = (.ok (), next) := by
  by_cases odd : refused
  · rw [if_pos odd]
    exact iff_of_false (fun stopped => by cases congrArg Prod.fst stopped) fun fine => fine.1 odd
  · rw [if_neg odd, Effect.lift_bind_eq_ok]
    exact (and_iff_right odd).symm

theorem blocks_spell : progressiveBlocks.Spells progressiveTakeBlock ProgressiveStreamBlock.bytes
    (fun block seen => block.Good ∧ block.Allowed seen) ProgressiveStreamBlock.after := by
  intro stream rest seen next
  constructor
  · rintro ⟨⟨block, data⟩, read, took⟩
    obtain ⟨same, sized, whole⟩ := progressiveReadBlock_eq_ok.mp read
    cases same
    have parsed := progressiveParseBlock_eq_ok.mpr ⟨sized, rest, whole⟩
    have spelled {known : ProgressiveStreamBlock} (type : block.type = known.type)
        (payload : block.payload = known.payload) :
        progressiveBlockBytes block.type block.payload ++ rest = known.bytes ++ rest := by
      rw [type, payload]
      rfl
    simp only [progressiveTakeBlock, Effect.modify_bind, progressiveCheckBlock, Effect.get_bind]
      at took
    split at took
    · rename_i type
      obtain ⟨allowed, ⟨⟩, read, done⟩ := guarded_eq_ok.mp took
      cases done
      obtain ⟨-, payload⟩ := (progressiveValidateSync_eq_ok sized).mp read
      refine ⟨.sync, whole.trans (spelled type payload), ⟨⟨trivial, trivial⟩, allowed⟩, ?_⟩
      simp [ProgressiveStreamBlock.after, ProgressiveStreamBlock.note, progressiveKnownBlock, type]
    split at took
    · rename_i type
      obtain ⟨allowed, context, read, done⟩ := guarded_eq_ok.mp took
      cases done
      obtain ⟨-, size, payload⟩ := (progressiveParseContext_eq_ok parsed).mp read
      refine ⟨.context context, whole.trans (spelled type payload), ⟨⟨size, trivial⟩, allowed⟩, ?_⟩
      simp [ProgressiveStreamBlock.after, ProgressiveStreamBlock.note, progressiveKnownBlock, type]
    split at took
    · rename_i type
      obtain ⟨allowed, frameBegin, read, done⟩ := guarded_eq_ok.mp took
      cases done
      obtain ⟨-, counted, payload⟩ := (progressiveParseFrameBegin_eq_ok parsed).mp read
      refine ⟨.frameBegin frameBegin, whole.trans (spelled type payload),
        ⟨⟨counted, trivial⟩, allowed⟩, ?_⟩
      simp [ProgressiveStreamBlock.after, ProgressiveStreamBlock.note, progressiveKnownBlock,
        type]
    split at took
    · rename_i type
      obtain ⟨allowed, ⟨⟩, read, done⟩ := guarded_eq_ok.mp took
      cases done
      obtain ⟨-, payload⟩ := (progressiveParseFrameEnd_eq_ok parsed).mp read
      refine ⟨.frameEnd, whole.trans (spelled type payload), ⟨⟨trivial, trivial⟩, allowed⟩, ?_⟩
      simp [ProgressiveStreamBlock.after, ProgressiveStreamBlock.note, progressiveKnownBlock,
        type]
    split at took
    · rename_i type
      obtain ⟨allowed, region, read, took⟩ := guarded_eq_ok.mp took
      obtain ⟨-, valid, payload⟩ := (progressiveParseRegion_eq_ok parsed).mp read
      obtain ⟨tiles, has, room, rfl⟩ := (progressiveCountRegionTiles_eq_ok valid).mp took
      have short := sized.short
      rw [payload] at short
      refine ⟨.region region tiles, whole.trans (spelled type payload),
        ⟨⟨⟨valid, short⟩, has⟩, allowed, room⟩, ?_⟩
      simp [ProgressiveStreamBlock.after, ProgressiveStreamBlock.note,
        progressiveKnownBlock, type]
    · cases congrArg Prod.fst took
  · rintro ⟨block, rfl, ⟨⟨writable, has⟩, allowed⟩, rfl⟩
    obtain ⟨known, type, payload, sized, parsed, read⟩ :=
      @progressiveReadBlock_written block.type _ writable.short rest
    refine ⟨(known, block.bytes ++ rest), read, ?_⟩
    have counted : progressiveKnownBlock known.type = true := by
      rw [type]
      cases block <;> rfl
    simp only [progressiveTakeBlock, Effect.modify_bind, progressiveCheckBlock, Effect.get_bind,
      counted, if_true]
    cases block with
    | sync =>
      change known.type = progressiveBlockSync at type
      rw [if_pos type]
      exact guarded_eq_ok.mpr
        ⟨allowed, (), (progressiveValidateSync_eq_ok sized).mpr ⟨type, payload⟩, rfl⟩
    | context context =>
      change known.type = progressiveBlockContext at type
      have read := (progressiveParseContext_eq_ok parsed).mpr ⟨type, writable, payload⟩
      rw [type, if_neg (by decide), if_pos rfl]
      exact guarded_eq_ok.mpr ⟨allowed, context, read, rfl⟩
    | frameBegin frameBegin =>
      change known.type = progressiveBlockFrameBegin at type
      have read := (progressiveParseFrameBegin_eq_ok parsed).mpr ⟨type, writable, payload⟩
      rw [type, if_neg (by decide), if_neg (by decide), if_pos rfl]
      exact guarded_eq_ok.mpr ⟨allowed, frameBegin, read, rfl⟩
    | frameEnd =>
      change known.type = progressiveBlockFrameEnd at type
      have read := (progressiveParseFrameEnd_eq_ok parsed).mpr ⟨type, payload⟩
      rw [type, if_neg (by decide), if_neg (by decide), if_neg (by decide), if_pos rfl]
      exact guarded_eq_ok.mpr ⟨allowed, (), read, rfl⟩
    | region region tiles =>
      change known.type = progressiveBlockRegion at type
      have read := (progressiveParseRegion_eq_ok parsed).mpr ⟨type, writable.1, payload⟩
      rw [type, if_neg (by decide), if_neg (by decide), if_neg (by decide), if_neg (by decide),
        if_pos rfl]
      exact guarded_eq_ok.mpr ⟨allowed.1, region, read,
        (progressiveCountRegionTiles_eq_ok writable.1).mpr ⟨tiles, has, allowed.2, rfl⟩⟩

end Blocks

end LibRdp.Graphics
