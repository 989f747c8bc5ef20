import LibRdp.Client.ProgressiveDrawing
import LibRdp.Graphics.ProgressiveGrammar
import LibRdp.Graphics.RfxProgressiveRuns

/-! # Runs of the graphics pipeline

Every command keeps the tables, whether it succeeds or fails, and so does everything else that can
happen to a session. In the sessions that come of it a valid progressive stream is drawn to its end
if and only if its tiles are whole.
-/

namespace LibRdp.Client

open Graphics Machine Machine.Table

variable {session : GraphicsSession}

variable {surface : GraphicsSurface}

theorem surfaceFind_ready {surfaceId : UInt16} {i : Nat}
    (consistent : session.Consistent) (found : session.surfaceFind surfaceId = some (i, surface)) :
    Ready i surface session := by
  obtain ⟨at', active⟩ := surfaceFind_held found
  refine ⟨consistent, ⟨surface, at', active, rfl⟩, ?_⟩
  rw [GraphicsSession.surfaceSize, at', Option.map_some]

theorem drawProgressive_consistent {i : Nat} {wire : WireToSurface2}
    {stream : ProgressiveStream} (ready : Ready i surface session)
    (valid : progressiveParseStream wire.bitmapData = .ok stream) :
    (drawProgressive i wire session).2.Consistent := by
  have start : Ready i surface { session : ProgressiveRender }.session := ready
  exact ((progressiveRenderStream_renders valid).kept start).consistent

theorem handleProgressive_consistent (consistent : session.Consistent) (wire : WireToSurface2) :
    (handleProgressive wire session).2.Consistent := by
  cases found : session.surfaceFind wire.surfaceId with
  | none =>
    rw [handleProgressive, surfaceFound, Effect.bind_error (by rw [Effect.get_bind, found]; rfl)]
    exact consistent
  | some pair =>
    obtain ⟨i, surface⟩ := pair
    rw [handleProgressive, surfaceFound, Effect.bind_ok (by rw [Effect.get_bind, found]; rfl)]
    cases valid : progressiveParseStream wire.bitmapData with
    | error stop => exact consistent
    | ok stream => exact drawProgressive_consistent (surfaceFind_ready consistent found) valid

theorem command_consistent (consistent : session.Consistent) (command : GraphicsCommand) :
    (command.run session).2.Consistent := by
  cases command with
  | createSurface create => exact graphicsSurfaceCreate_consistent consistent create
  | deleteSurface surfaceId => exact graphicsSurfaceDelete_consistent consistent surfaceId
  | mapSurfaceToOutput map => exact graphicsSurfaceMap_consistent consistent map
  | mapSurfaceToScaledOutput map => exact graphicsSurfaceMapScaled_consistent consistent map
  | solidFill fill => exact (handleSolidFill_kept consistent fill).consistent
  | surfaceToSurface order => exact (handleSurfaceToSurface_kept consistent order).consistent
  | surfaceToCache order => exact (graphicsCacheStore_kept consistent order).consistent
  | cacheToSurface order => exact (handleCacheToSurface_kept consistent order).consistent
  | evictCacheEntry cacheSlot => exact graphicsCacheEvict_consistent consistent cacheSlot
  | uncompressed wire => exact (handleUncompressed_kept consistent wire).consistent
  | progressive wire => exact handleProgressive_consistent consistent wire
  | deleteEncodingContext surfaceId codecContextId => exact consistent.clearTiles _
  | resetGraphics width height => exact handleReset_consistent consistent width height
  | startFrame frameId => exact { consistent with }

def graphicsStart (limits : GraphicsLimits) (output : OutputSurface) : GraphicsSession :=
  { limits, surface := output }

theorem empty_consistent (surfaces : session.graphicsSurfaces = List.replicate maxGraphicsSurfaces {})
    (cache : session.graphicsCache = List.replicate graphicsCacheSlots {})
    (bytes : session.graphicsCacheBytes = 0)
    (tiles : session.progressiveTiles = List.replicate progressiveTileStates {})
    (sized : session.surface.Sized) : session.Consistent where
  surfaces := surfaces ▸ every_replicate _ nofun
  ids := surfaces ▸ distinct_replicate _ rfl
  within := by
    intro i surface held active
    rw [surfaces] at held
    rw [List.eq_of_mem_replicate (List.mem_of_getElem? held)] at active
    cases active
  entries := cache ▸ every_replicate _ nofun
  slots := cache ▸ List.length_replicate
  bytes := by
    have empty : weight GraphicsCacheEntry.bytes (List.replicate graphicsCacheSlots {}) = 0 :=
      weight_replicate graphicsCacheSlots rfl
    rw [bytes, cache, empty]
  most := bytes ▸ Nat.zero_le _
  tiles := tiles ▸ every_replicate _ nofun
  keys := tiles ▸ distinct_replicate _ rfl
  states := tiles ▸ List.length_replicate
  pictures := tiles ▸ every_replicate _ nofun
  output := sized

variable {limits : GraphicsLimits} {output : OutputSurface}

theorem reachable_consistent (sized : output.Sized)
    (reached : Reachable graphicsStep (graphicsStart limits output) session) :
    session.Consistent := by
  refine reached.invariant GraphicsSession.Consistent (empty_consistent rfl rfl rfl rfl sized) ?_
  intro before event out after consistent taken
  cases event with
  | command command =>
    have same : (command.run before).2 = after := congrArg Prod.snd (Except.ok.inj taken)
    rw [← same]
    exact command_consistent consistent command
  | surfacesClear =>
    cases taken
    exact graphicsSurfacesClear_consistent consistent
  | cacheClear =>
    cases taken
    exact graphicsCacheClear_consistent consistent
  | elsewhere output fits frameId memory =>
    cases taken
    exact consistent.elsewhere fits memory

/-! ## A tile with data -/

def dataTile : ProgressiveTile where
  quantIdxY := 0
  quantIdxCb := 0
  quantIdxCr := 0
  xIdx := 0
  yIdx := 0
  blockType := progressiveBlockTileSimple
  flags := 0
  progressiveQuality := 0xff
  yData := some [0xa7]
  cbData := some [0xa7]
  crData := some [0xa7]
  tailData := none

def dataRegion : ProgressiveRegion :=
  { plainRegion with
    tileDataSize := 25, quantValues := [0x11, 0x11, 0x11, 0x21, 0x11]
    tiles := (ProgressiveTileBlock.simple dataTile).bytes }

def dataFrame : ProgressiveFrame := { plainFrame with areas := [(dataRegion, [.simple dataTile])] }

def dataStream : Bytes := dataFrame.blocks.flatMap ProgressiveStreamBlock.bytes

theorem dataStream_valid : ∃ stream, progressiveParseStream dataStream = .ok stream := by
  have consistent : dataFrame.Consistent :=
    plainFrame_with rfl rfl ⟨by unfold ComponentsFit; decide, fun _ => rfl,
      ⟨by decide, by decide, by decide, .inl rfl⟩⟩
  obtain ⟨writable, -⟩ := ProgressiveFrame.write_eq_ok.mp
    (show dataFrame.write [] = (.ok, dataStream) from Prod.ext (by decide) rfl)
  exact ⟨_, progressiveParseStream_eq_ok.mpr ⟨dataFrame.blocks, rfl, accepted_start.mpr
    ⟨dataFrame, rfl, (frame_good dataFrame).mpr ⟨writable, consistent⟩⟩, rfl⟩⟩

def dataItem (place : Nat) (type : UInt16) (length : UInt32) : ProgressiveBlock × Bytes :=
  ({ type, length, payload := (dataStream.drop (place + 6)).take (length.toNat - 6) },
    dataStream.drop place)

def tileItem : ProgressiveBlock × Bytes :=
  ({ type := progressiveBlockTileSimple, length := 25, payload := dataRegion.tiles.drop 6 },
    dataRegion.tiles)

theorem dataStream_items : progressiveBlocks.Items dataStream
    [dataItem 0 progressiveBlockSync 12, dataItem 12 progressiveBlockContext 10,
      dataItem 22 progressiveBlockFrameBegin 12, dataItem 34 progressiveBlockRegion 56,
      dataItem 90 progressiveBlockFrameEnd 6] :=
  .cons rfl (.cons rfl (.cons rfl (.cons rfl (.cons rfl .nil))))

theorem dataRegion_items : progressiveBlocks.Items dataRegion.tiles [tileItem] := .cons rfl .nil

theorem dataStream_renders {i : Nat} {codecContextId : UInt32} {render drawn : ProgressiveRender}
    (ran : progressiveRenderTile i codecContextId dataRegion dataTile render = (.ok (), drawn))
    (flushed : progressiveFlushRegion i codecContextId dataRegion drawn = (.ok (), drawn)) :
    progressiveRenderStream i codecContextId dataStream render = (.ok (), drawn) := by
  have other (place : Nat) (type : UInt16) (length : UInt32) (other : type ≠ progressiveBlockRegion) :
      progressiveStreamBlock i codecContextId (dataItem place type length) = pure () := if_neg other
  have region : progressiveRenderRegion i codecContextId dataRegion render = (.ok (), drawn) := by
    rw [progressiveRenderRegion, dataRegion_items.walk_eq]
    exact Effect.bind_ok ran
  have shown : progressiveStreamBlock i codecContextId (dataItem 34 progressiveBlockRegion 56) render =
      (.ok (), drawn) := (Effect.bind_ok region).trans flushed
  rw [progressiveRenderStream, dataStream_items.walk_eq]
  simp only [List.forM_eq_forM, List.forM_cons, List.forM_nil]
  rw [other 0 progressiveBlockSync 12 (by decide), other 12 progressiveBlockContext 10 (by decide),
    other 22 progressiveBlockFrameBegin 12 (by decide), other 90 progressiveBlockFrameEnd 6 (by decide)]
  exact Effect.bind_ok shown

theorem dataTile_decoded : ∃ out, decodeProgressiveTileState onePass onePass onePass false false {} =
    .ok out := by
  obtain ⟨component, samples, decoded, -⟩ := decode_onePass
  simp only [decodeProgressiveTileState, onePass, decoded]
  exact ⟨_, rfl⟩

theorem tileTake_fresh (granted : session.memory = []) (key : TileKey) {slot : Nat}
    (inside : slot < session.progressiveTiles.length) :
    ∃ later tile, tileTake key slot {} session = (.ok (some slot), later) ∧
      later.graphicsCacheBytes = session.graphicsCacheBytes ∧
      later.progressiveTiles[slot]? = some tile ∧ tile.active = true ∧ tile.state = some {} ∧
        tile.pixels = some {} := by
  cases session
  cases granted
  exact ⟨_, _, rfl, rfl, List.getElem?_set_self (by rwa [List.length_set]), rfl, rfl, rfl⟩

/-- A tile with its pixels is in the table, and the cache has not been touched. -/
def TileDrawn (before after : GraphicsSession) : Prop :=
  after.graphicsCacheBytes = before.graphicsCacheBytes ∧
    ∃ tile, after.progressiveTiles[0]? = some tile ∧ tile.active = true ∧ tile.hasPixels = true

theorem dataTile_renders (granted : session.memory = [])
    (empty : session.progressiveTiles = List.replicate progressiveTileStates {})
    (at' : session.graphicsSurfaces[0]? = some surface) (shown : tileClipped surface 0 0 = false) :
    ∃ later, progressiveRenderTile 0 0 dataRegion dataTile { session } =
      (.ok (), { session := later, renderedTiles := 1 }) ∧ TileDrawn session later := by
  obtain ⟨⟨state, pixels⟩, decoded⟩ := dataTile_decoded
  let key := tileKey surface 0 dataTile.toTilePrefix
  have missing : session.progressiveTileFind key = none := by
    rw [GraphicsSession.progressiveTileFind, empty]
    exact lookup_replicate rfl
  have got : progressiveTileGet key true session = tileTake key 0 {} session := by
    rw [progressiveTileGet, Effect.get_bind, missing, empty]
    rfl
  have inside : 0 < session.progressiveTiles.length := by
    rw [empty, List.length_replicate]
    decide
  obtain ⟨taken, tile, took, bytes, held, active, fresh, blank⟩ := tileTake_fresh granted key inside
  obtain ⟨later, stored, drawn⟩ :
      ∃ later, tileStore 0 state pixels taken = (.ok (), later) ∧ TileDrawn session later := by
    rw [tileStore, Effect.get_bind, Effect.bind_ok (tileAt_held held)]
    exact ⟨_, rfl, bytes, _, getElem?_set_held held, active, rfl⟩
  have quants : progressiveTileQuants dataRegion dataTile.toTilePrefix dataTile.progressiveQuality =
      .ok ⟨hl1Quant, {}, hl1Quant, {}, hl1Quant, {}⟩ := rfl
  have stages : renderTileStages surface 0 dataRegion dataTile [0xa7] [0xa7] [0xa7] { session } =
      (.ok (), { session := later, renderedTiles := 1 }) := by
    rw [renderTileStages, quants]
    dsimp only
    rw [Effect.bind_ok (onSession_ok (got.trans took))]
    dsimp only
    rw [Effect.bind_ok (onSession_ok (tileAt_held held)), fresh, blank]
    change tileDecoded 0 (decodeProgressiveTileState onePass onePass onePass false false {}) _ = _
    rw [decoded, tileDecoded, Effect.bind_ok (onSession_ok stored)]
    rfl
  refine ⟨later, ?_, drawn⟩
  change (onSession (surfaceAt 0) >>= _) _ = _
  rw [Effect.bind_ok (onSession_ok (surfaceAt_held at'))]
  exact (congrFun (if_neg (by rw [Bool.not_eq_true]; exact shown)) _).trans stages

theorem dataRegion_flushes {i : Nat} {target : GraphicsSurface} {codecContextId : UInt32}
    {render : ProgressiveRender} (ready : Ready i target render.session) :
    progressiveFlushRegion i codecContextId dataRegion render = (.ok (), render) := by
  refine Effect.forM_idle fun slot inside => ?_
  obtain ⟨surface, at', -, -⟩ := ready.held
  obtain ⟨tile, held⟩ : ∃ tile, render.session.progressiveTiles[slot]? = some tile :=
    ⟨_, List.getElem?_eq_getElem (ready.consistent.states ▸ List.mem_range.mp inside)⟩
  have got : onSession .get render = (.ok render.session, render) := rfl
  rw [progressiveFlushTile, Effect.bind_ok got, Effect.bind_ok (onSession_ok (surfaceAt_held at')),
    Effect.bind_ok (onSession_ok (tileAt_held held))]
  cases shown : tile.pixels with
  | none => rfl
  | some pixels =>
    dsimp only
    split
    · rfl
    rename_i fresh
    simp only [Bool.or_eq_true, Bool.not_eq_true', not_or, Bool.not_eq_false] at fresh
    split
    · rfl
    have sized := ready.consistent.pictures held fresh.2 pixels shown
    have wrote : progressiveWriteRegionTile i dataRegion (tileArea surface tile.xIdx tile.yIdx) pixels
        render.session = (.ok (), render.session) := by
      rw [progressiveWriteRegionTile, if_neg (by rw [sized.stride]; decide)]
      rfl
    rw [countIfFailed, onSession_ok wrote]

def quadLimits : GraphicsLimits where
  surfaceCount := 2
  surfaceMaxDimension := 2
  count_le := Nat.le_of_ble_eq_true rfl

def noOutput : OutputSurface := { width := 0, height := 0, pixels := [] }

def quadRun (commands : List GraphicsCommand) : GraphicsSession :=
  commands.foldl (fun session command => (command.run session).2) (graphicsStart quadLimits noOutput)

theorem quadRun_reachable (commands : List GraphicsCommand) :
    Reachable graphicsStep (graphicsStart quadLimits noOutput) (quadRun commands) := by
  induction commands using List.reverseRecOn with
  | nil => exact .init
  | append_singleton commands command ih =>
    rw [quadRun, List.foldl_concat]
    exact .step ih (i := .command command) rfl

/-- A surface of four pixels, which are put into the cache. -/
def cachingCommands : List GraphicsCommand :=
  [.createSurface { surfaceId := 1, width := 2, height := 2, pixelFormat := graphicsPixelFormatXrgb8888 },
    .surfaceToCache
      { surfaceId := 1, cacheKey := 7, cacheSlot := 1
        rectSrc := { left := 0, top := 0, right := 2, bottom := 2 } }]

def cachedSession : GraphicsSession := quadRun cachingCommands

def drawingWire : WireToSurface2 := { surfaceId := 1, codecContextId := 0, bitmapData := dataStream }

/-- On the surface a tile is drawn. -/
def drawnSession : GraphicsSession := quadRun (cachingCommands ++ [.progressive drawingWire])

theorem drawnSession_eq : drawnSession = (handleProgressive drawingWire cachedSession).2 := by
  rw [drawnSession, quadRun, List.foldl_concat]
  rfl

theorem cachedSession_found : ∃ surface, cachedSession.surfaceFind 1 = some (0, surface) ∧
    surface.width = 2 ∧ surface.height = 2 := ⟨_, rfl, rfl, rfl⟩

theorem cachedSession_bytes : cachedSession.graphicsCacheBytes = 16 := rfl

theorem cachedSession_memory : cachedSession.memory = [] := rfl

theorem cachedSession_tiles :
    cachedSession.progressiveTiles = List.replicate progressiveTileStates {} := rfl

theorem noOutput_sized : noOutput.Sized := rfl

theorem drawnSession_drawn : TileDrawn cachedSession drawnSession := by
  obtain ⟨surface, found, wide, high⟩ := cachedSession_found
  have ready : Ready 0 surface { session := cachedSession : ProgressiveRender }.session :=
    surfaceFind_ready (reachable_consistent noOutput_sized (quadRun_reachable _)) found
  have shown : tileClipped surface 0 0 = false := by
    rw [tileClipped, wide, high]
    decide
  obtain ⟨later, ran, drawn⟩ :=
    dataTile_renders cachedSession_memory cachedSession_tiles (surfaceFind_held found).1 shown
  have ready' := (@progressiveRenderTile_renders 0 surface dataRegion 0 dataTile).kept ready
  rw [ran] at ready'
  have streamed := dataStream_renders ran (dataRegion_flushes ready')
  have ended : drawProgressive 0 drawingWire cachedSession = (.ok (), later) := by
    rw [drawProgressive, drawingWire, streamed]
  have handled : handleProgressive drawingWire cachedSession =
      drawProgressive 0 drawingWire cachedSession := by
    obtain ⟨stream, valid⟩ := dataStream_valid
    rw [handleProgressive, surfaceFound, Effect.bind_ok (by rw [Effect.get_bind, drawingWire, found]; rfl),
      show progressiveParseStream drawingWire.bitmapData = .ok stream from valid]
  rw [drawnSession_eq, handled, ended]
  exact drawn

/-! ## What holds of all runs -/

/-- The tables are consistent in every session that comes of commands, and no entry of the cache is
    larger than the count from which it is taken off. -/
theorem graphics_tables_consistent (sized : output.Sized)
    (reached : Reachable graphicsStep (graphicsStart limits output) session) :
    session.Consistent ∧
      ∀ entry ∈ session.graphicsCache, entry.bytes ≤ session.graphicsCacheBytes := by
  have consistent := reachable_consistent sized reached
  refine ⟨consistent, fun entry held => ?_⟩
  obtain ⟨i, at'⟩ := List.getElem?_of_mem held
  exact consistent.entry_le at'

theorem graphics_tables_consistent_drawn : TileDrawn cachedSession drawnSession ∧
    cachedSession.graphicsCacheBytes = 16 ∧ drawnSession.Consistent ∧
      ∀ entry ∈ drawnSession.graphicsCache, entry.bytes ≤ drawnSession.graphicsCacheBytes :=
  ⟨drawnSession_drawn, cachedSession_bytes,
    graphics_tables_consistent noOutput_sized (quadRun_reachable _)⟩

end LibRdp.Client
