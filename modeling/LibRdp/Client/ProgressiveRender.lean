import LibRdp.Client.GraphicsDrawing

/-! # Drawing progressive streams

The tiles of a region are decoded into the table of tiles, one by one; then every tile of the
surface and the context that changed in the current frame is written through the rectangles
of the region to the surface. What goes wrong with a tile is counted, and drawing goes on.
-/

namespace LibRdp.Client

open Graphics Machine

structure ProgressiveRender where
  session : GraphicsSession
  renderedTiles : UInt32 := 0
  failedTiles : UInt32 := 0
  missingTiles : UInt32 := 0

abbrev RenderEffect (α : Type) := Effect Stop ProgressiveRender α

def onSession (m : GraphicsEffect α) : RenderEffect α :=
  .zoom (·.session) (fun render session => { render with session }) m

def countRendered : RenderEffect Unit :=
  .modify fun render => { render with renderedTiles := render.renderedTiles + 1 }

def countFailed : RenderEffect Unit :=
  .modify fun render => { render with failedTiles := render.failedTiles + 1 }

def countMissing : RenderEffect Unit :=
  .modify fun render => { render with missingTiles := render.missingTiles + 1 }

def countIfFailed (m : GraphicsEffect Unit) : RenderEffect Unit := fun render =>
  match onSession m render with
  | (.error (.returned _), render) => countFailed render
  | (result, render) => (result, render)

/-- `rdp_session_graphics_progressive_base_quant`. -/
def progressiveBaseQuant (region : ProgressiveRegion) (quantIdx : UInt8) :
    Attempt ComponentQuant :=
  if region.quantCount ≤ quantIdx then refuse .protocolError
  else ComponentQuant.parse (region.quantValues.drop (quantIdx.toNat * 5))

/-- `rdp_session_graphics_progressive_delta_quant`. -/
def progressiveDeltaQuant (region : ProgressiveRegion) (progressiveIdx : UInt8)
    (component : ProgressiveQuant → ComponentQuant) : Attempt ComponentQuant :=
  if progressiveIdx == 0xff then pure {}
  else if region.progressiveQuantCount ≤ progressiveIdx then refuse .protocolError
  else do
    let progressive ← ProgressiveQuant.parse
      (region.progressiveQuantValues.drop (progressiveIdx.toNat * 16))
    pure (component progressive)

structure TileQuants where
  yQuant : ComponentQuant
  yDelta : ComponentQuant
  cbQuant : ComponentQuant
  cbDelta : ComponentQuant
  crQuant : ComponentQuant
  crDelta : ComponentQuant
  deriving Repr, DecidableEq

/-- The stages `base_quant.y` to `delta_quant.cr` of drawing a tile. -/
def progressiveTileQuants (region : ProgressiveRegion) (tile : TilePrefix)
    (progressiveIdx : UInt8) : Attempt TileQuants := do
  let yQuant ← progressiveBaseQuant region tile.quantIdxY
  let yDelta ← progressiveDeltaQuant region progressiveIdx (·.y)
  let cbQuant ← progressiveBaseQuant region tile.quantIdxCb
  let cbDelta ← progressiveDeltaQuant region progressiveIdx (·.cb)
  let crQuant ← progressiveBaseQuant region tile.quantIdxCr
  let crDelta ← progressiveDeltaQuant region progressiveIdx (·.cr)
  pure { yQuant, yDelta, cbQuant, cbDelta, crQuant, crDelta }

def tileCorner (idx : UInt16) : Nat := idx.toNat * progressiveTileSize

def tileClipped (surface : GraphicsSurface) (xIdx yIdx : UInt16) : Bool :=
  decide (surface.width.toNat ≤ tileCorner xIdx) || decide (surface.height.toNat ≤ tileCorner yIdx)

def tileKey (surface : GraphicsSurface) (codecContextId : UInt32) (tile : TilePrefix) : TileKey where
  surfaceId := surface.surfaceId
  codecContextId := codecContextId
  xIdx := tile.xIdx
  yIdx := tile.yIdx

def tileAt (slot : Nat) : GraphicsEffect ProgressiveTileCache := do
  let session ← .get
  match session.progressiveTiles[slot]? with
  | some entry => pure entry
  | none => .stop (.fault .outOfBounds)

def tileStore (slot : Nat) (state : TileState) (pixels : TilePixels) : GraphicsEffect Unit := do
  let session ← .get
  let entry ← tileAt slot
  tileSet slot
    { entry with
      state := some state, pixels := some pixels, hasPixels := true
      updatedFrameId := session.graphicsCurrentFrameId }

/-- A tile that has been decoded is stored, and one that could not be is counted. -/
def tileDecoded (slot : Nat) : Attempt (TileState × TilePixels) → RenderEffect Unit
  | .error _ => countFailed
  | .ok (state, pixels) => do
      onSession (tileStore slot state pixels)
      countRendered

/-- The stages of `rdp_session_graphics_progressive_render_tile` behind the test of the data, for a
    tile that is not clipped. -/
def renderTileStages (surface : GraphicsSurface) (codecContextId : UInt32)
    (region : ProgressiveRegion) (tile : ProgressiveTile) (yData cbData crData : Bytes) :
    RenderEffect Unit :=
  match progressiveTileQuants region tile.toTilePrefix tile.progressiveQuality with
  | .error _ => countFailed
  | .ok quants => do
      let found ← onSession
        (progressiveTileGet (tileKey surface codecContextId tile.toTilePrefix) true)
      match found with
      | none => countFailed
      | some slot => do
          let entry ← onSession (tileAt slot)
          match entry.state, entry.pixels with
          | some state, some _ =>
              let difference := tile.flags &&& 0x01 != 0
              if difference &&
                  (!state.valid || !state.y.valid || !state.cb.valid || !state.cr.valid) then
                countMissing
              else
                tileDecoded slot
                  (decodeProgressiveTileState
                    { data := yData, quant := quants.yQuant, delta := quants.yDelta }
                    { data := cbData, quant := quants.cbQuant, delta := quants.cbDelta }
                    { data := crData, quant := quants.crQuant, delta := quants.crDelta }
                    (region.flags &&& 0x01 != 0) difference state)
          | _, _ => countFailed

/-- `rdp_session_graphics_progressive_render_tile`. -/
def progressiveRenderTile (i : Nat) (codecContextId : UInt32) (region : ProgressiveRegion)
    (tile : ProgressiveTile) : RenderEffect Unit :=
  match tile.yData, tile.cbData, tile.crData with
  | some yData, some cbData, some crData => do
      let surface ← onSession (surfaceAt i)
      if tileClipped surface tile.xIdx tile.yIdx then pure ()
      else renderTileStages surface codecContextId region tile yData cbData crData
  | _, _, _ => .stop (.returned .protocolError)

/-- The stages of `rdp_session_graphics_progressive_render_upgrade` for a tile that is not clipped. -/
def renderUpgradeStages (surface : GraphicsSurface) (codecContextId : UInt32)
    (region : ProgressiveRegion) (tile : ProgressiveTileUpgrade) : RenderEffect Unit := do
  let found ← onSession
    (progressiveTileGet (tileKey surface codecContextId tile.toTilePrefix) false)
  match found with
  | none => countMissing
  | some slot => do
      let entry ← onSession (tileAt slot)
      match entry.state, entry.pixels with
      | some state, some _ =>
          if !state.valid then countMissing
          else
            match progressiveTileQuants region tile.toTilePrefix tile.progressiveQuality with
            | .error _ => countFailed
            | .ok quants =>
                tileDecoded slot
                  (decodeProgressiveUpgradeTile
                    { srlData := tile.ySrlData.getD [], rawData := tile.yRawData.getD []
                      quant := quants.yQuant, delta := quants.yDelta }
                    { srlData := tile.cbSrlData.getD [], rawData := tile.cbRawData.getD []
                      quant := quants.cbQuant, delta := quants.cbDelta }
                    { srlData := tile.crSrlData.getD [], rawData := tile.crRawData.getD []
                      quant := quants.crQuant, delta := quants.crDelta }
                    (region.flags &&& 0x01 != 0) state)
      | _, _ => countMissing

/-- `rdp_session_graphics_progressive_render_upgrade`. -/
def progressiveRenderUpgrade (i : Nat) (codecContextId : UInt32) (region : ProgressiveRegion)
    (tile : ProgressiveTileUpgrade) : RenderEffect Unit := do
  let surface ← onSession (surfaceAt i)
  if tileClipped surface tile.xIdx tile.yIdx then pure ()
  else renderUpgradeStages surface codecContextId region tile

/-- One round of the loop of `rdp_session_graphics_progressive_write_region_tile`, for the part of a
    tile at `area`. -/
def progressiveWriteRect (i : Nat) (region : ProgressiveRegion) (area : OutputArea)
    (pixels : TilePixels) (index : Nat) : GraphicsEffect Unit := do
  let rect ← .lift (progressiveParseRegionRect (region.rects.drop (index * 8)))
  if rect.right ≤ rect.left || rect.bottom ≤ rect.top then pure ()
  else
    let left := max area.x rect.left.toNat
    let top := max area.y rect.top.toNat
    let right := min (area.x + area.width) rect.right.toNat
    let bottom := min (area.y + area.height) rect.bottom.toNat
    if right ≤ left ∨ bottom ≤ top then pure ()
    else
      surfaceWriteBgra i left top (right - left) (bottom - top) pixels.bgra
        ((top - area.y) * pixels.stride + (left - area.x) * 4) pixels.stride false

/-- `rdp_session_graphics_progressive_write_region_tile`. -/
def progressiveWriteRegionTile (i : Nat) (region : ProgressiveRegion) (area : OutputArea)
    (pixels : TilePixels) : GraphicsEffect Unit :=
  if pixels.stride < progressiveTileSize * 4 then returns .protocolError
  else (List.range region.rectCount.toNat).forM (progressiveWriteRect i region area pixels)

def tileArea (surface : GraphicsSurface) (xIdx yIdx : UInt16) : OutputArea where
  x := tileCorner xIdx
  y := tileCorner yIdx
  width := min progressiveTileSize (surface.width.toNat - tileCorner xIdx)
  height := min progressiveTileSize (surface.height.toNat - tileCorner yIdx)

/-- One round of the loop of `rdp_session_graphics_progressive_flush_region`. -/
def progressiveFlushTile (i : Nat) (codecContextId : UInt32) (region : ProgressiveRegion)
    (slot : Nat) : RenderEffect Unit := do
  let session ← onSession .get
  let surface ← onSession (surfaceAt i)
  let entry ← onSession (tileAt slot)
  match entry.pixels with
  | none => pure ()
  | some pixels =>
      if !entry.active || entry.surfaceId != surface.surfaceId ||
          entry.codecContextId != codecContextId ||
          entry.updatedFrameId != session.graphicsCurrentFrameId || !entry.hasPixels then
        pure ()
      else if tileClipped surface entry.xIdx entry.yIdx then pure ()
      else
        countIfFailed
          (progressiveWriteRegionTile i region (tileArea surface entry.xIdx entry.yIdx) pixels)

/-- `rdp_session_graphics_progressive_flush_region`. -/
def progressiveFlushRegion (i : Nat) (codecContextId : UInt32) (region : ProgressiveRegion) :
    RenderEffect Unit :=
  (List.range progressiveTileStates).forM (progressiveFlushTile i codecContextId region)

/-- One round of the loop of `rdp_session_graphics_progressive_render_region`. -/
def progressiveRenderBlock (i : Nat) (codecContextId : UInt32) (region : ProgressiveRegion) :
    ProgressiveBlock × Bytes → RenderEffect Unit
  | (block, data) =>
    if block.type = progressiveBlockTileSimple then do
      let tile ← .lift (progressiveParseTileSimple data)
      progressiveRenderTile i codecContextId region tile
    else if block.type = progressiveBlockTileFirst then do
      let tile ← .lift (progressiveParseTileFirst data)
      progressiveRenderTile i codecContextId region tile
    else if block.type = progressiveBlockTileUpgrade then do
      let tile ← .lift (progressiveParseTileUpgrade data)
      progressiveRenderUpgrade i codecContextId region tile
    else .stop (.returned .protocolError)

/-- `rdp_session_graphics_progressive_render_region`. -/
def progressiveRenderRegion (i : Nat) (codecContextId : UInt32) (region : ProgressiveRegion) :
    RenderEffect Unit :=
  progressiveBlocks.walk (progressiveRenderBlock i codecContextId region) region.tiles

/-- One round of the loop of `rdp_session_graphics_progressive_render_stream`. -/
def progressiveStreamBlock (i : Nat) (codecContextId : UInt32) :
    ProgressiveBlock × Bytes → RenderEffect Unit
  | (block, data) =>
    if block.type = progressiveBlockRegion then do
      let region ← .lift (progressiveParseRegion data)
      progressiveRenderRegion i codecContextId region
      progressiveFlushRegion i codecContextId region
    else pure ()

/-- `rdp_session_graphics_progressive_render_stream`. -/
def progressiveRenderStream (i : Nat) (codecContextId : UInt32) (data : Bytes) : RenderEffect Unit :=
  progressiveBlocks.walk (progressiveStreamBlock i codecContextId) data

end LibRdp.Client
