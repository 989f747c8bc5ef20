import LibRdp.Client.ProgressiveRender

/-! # The commands of the graphics pipeline

What the session does for the commands of its graphics channel that bear on its tables: surfaces
come, go and are mapped, are drawn on from colours, from one another, from the cache and from
progressive streams, and fill the cache. A command that fails leaves behind what it has done.
-/

namespace LibRdp.Client

open Graphics Machine

/-- `rdp_graphics_parse_rect16`. -/
def parseRect16 (data : Bytes) : Attempt Rect16 :=
  if data.length < 8 then refuse .protocolError
  else do
    let (left, stream) ← readU16Le data
    let (top, stream) ← readU16Le stream
    let (right, stream) ← readU16Le stream
    let (bottom, _) ← readU16Le stream
    if right < left || bottom < top then refuse .protocolError
    else pure { left, top, right, bottom }

/-- `rdp_graphics_parse_point16`. -/
def parsePoint16 (data : Bytes) : Attempt Point16 :=
  if data.length < 4 then refuse .protocolError
  else do
    let (x, stream) ← readU16Le data
    let (y, _) ← readU16Le stream
    pure { x, y }

/-- `rdp_graphics_solid_fill`. -/
structure SolidFill where
  surfaceId : UInt16
  fillPixel : UInt32
  rectCount : UInt16
  rects : Bytes
  deriving Repr, DecidableEq

/-- `rdp_graphics_surface_to_surface`. -/
structure SurfaceToSurface where
  surfaceIdSrc : UInt16
  surfaceIdDest : UInt16
  rectSrc : Rect16
  destPointsCount : UInt16
  destPoints : Bytes
  deriving Repr, DecidableEq

/-- `rdp_graphics_cache_to_surface`. -/
structure CacheToSurface where
  cacheSlot : UInt16
  surfaceId : UInt16
  destPointsCount : UInt16
  destPoints : Bytes
  deriving Repr, DecidableEq

/-- `rdp_graphics_wire_to_surface_2` with `RDP_GRAPHICS_CODECID_CAPROGRESSIVE`. -/
structure WireToSurface2 where
  surfaceId : UInt16
  codecContextId : UInt32
  bitmapData : Bytes
  deriving Repr, DecidableEq

/-- The loop of a command over the points that something is copied to. -/
def forPoints (count : UInt16) (points : Bytes) (copy : Point16 → GraphicsEffect Unit) :
    GraphicsEffect Unit :=
  (List.range count.toNat).forM fun index => do
    let point ← .lift (parsePoint16 (points.drop (index * 4)))
    copy point

/-- `RDP_GRAPHICS_CMDID_SOLIDFILL`. -/
def handleSolidFill (fill : SolidFill) : GraphicsEffect Unit := do
  let i ← surfaceFound fill.surfaceId
  (List.range fill.rectCount.toNat).forM fun index => do
    let rect ← .lift (parseRect16 (fill.rects.drop (index * 8)))
    surfaceFill i rect fill.fillPixel

/-- `RDP_GRAPHICS_CMDID_SURFACE_TO_SURFACE`. -/
def handleSurfaceToSurface (order : SurfaceToSurface) : GraphicsEffect Unit := do
  let source ← surfaceFound order.surfaceIdSrc
  let dest ← surfaceFound order.surfaceIdDest
  forPoints order.destPointsCount order.destPoints (surfaceCopy source dest order.rectSrc)

/-- `RDP_GRAPHICS_CMDID_CACHE_TO_SURFACE`. -/
def handleCacheToSurface (order : CacheToSurface) : GraphicsEffect Unit := do
  let session ← .get
  match session.cacheFind order.cacheSlot with
  | none => returns .protocolError
  | some cache => do
      let i ← surfaceFound order.surfaceId
      forPoints order.destPointsCount order.destPoints (cacheCopyToSurface cache i)

/-- `RDP_GRAPHICS_CMDID_WIRE_TO_SURFACE_1` with `RDP_GRAPHICS_CODECID_UNCOMPRESSED`. -/
def handleUncompressed (wire : WireToSurface1) : GraphicsEffect Unit := do
  let i ← surfaceFound wire.surfaceId
  surfaceWriteWire i wire

def drawProgressive (i : Nat) (wire : WireToSurface2) : GraphicsEffect Unit := fun session =>
  let drawn := progressiveRenderStream i wire.codecContextId wire.bitmapData { session }
  (drawn.1, drawn.2.session)

/-- `RDP_GRAPHICS_CMDID_WIRE_TO_SURFACE_2`: a stream is drawn once the whole of it is valid. -/
def handleProgressive (wire : WireToSurface2) : GraphicsEffect Unit := do
  let i ← surfaceFound wire.surfaceId
  match progressiveParseStream wire.bitmapData with
  | .error _ => returns .protocolError
  | .ok _ => drawProgressive i wire

/-- `RDP_GRAPHICS_CMDID_RESET_GRAPHICS`, with `rdp_session_graphics_dirty_reset`. -/
def handleReset (width height : UInt32) : GraphicsEffect Unit := do
  .modify fun session => graphicsSurfacesClear { session with graphicsCurrentFrameId := 0 }
  let session ← .get
  if width.toNat ≠ session.surface.width ∨ height.toNat ≠ session.surface.height then
    surfaceResize width.toNat height.toNat
  else pure ()

inductive GraphicsCommand where
  | createSurface (create : CreateSurface)
  | deleteSurface (surfaceId : UInt16)
  | mapSurfaceToOutput (map : MapSurfaceToOutput)
  | mapSurfaceToScaledOutput (map : MapSurfaceToScaledOutput)
  | solidFill (fill : SolidFill)
  | surfaceToSurface (order : SurfaceToSurface)
  | surfaceToCache (order : SurfaceToCache)
  | cacheToSurface (order : CacheToSurface)
  | evictCacheEntry (cacheSlot : UInt16)
  | uncompressed (wire : WireToSurface1)
  | progressive (wire : WireToSurface2)
  | deleteEncodingContext (surfaceId : UInt16) (codecContextId : UInt32)
  | resetGraphics (width height : UInt32)
  | startFrame (frameId : UInt32)
  deriving Repr, DecidableEq

def GraphicsCommand.run : GraphicsCommand → GraphicsEffect Unit
  | .createSurface create => graphicsSurfaceCreate create
  | .deleteSurface surfaceId => graphicsSurfaceDelete surfaceId
  | .mapSurfaceToOutput map => graphicsSurfaceMap map
  | .mapSurfaceToScaledOutput map => graphicsSurfaceMapScaled map
  | .solidFill fill => handleSolidFill fill
  | .surfaceToSurface order => handleSurfaceToSurface order
  | .surfaceToCache order => graphicsCacheStore order
  | .cacheToSurface order => handleCacheToSurface order
  | .evictCacheEntry cacheSlot => .modify (graphicsCacheEvict cacheSlot)
  | .uncompressed wire => handleUncompressed wire
  | .progressive wire => handleProgressive wire
  | .deleteEncodingContext surfaceId codecContextId =>
      .modify (progressiveTilesClearContext surfaceId codecContextId)
  | .resetGraphics width height => handleReset width height
  | .startFrame frameId => .modify fun session => { session with graphicsCurrentFrameId := frameId }

/-- What happens to the tables of a session: a command comes, the channel closes and everything is
    cleared, or the rest of the session and the application draw on the output, hold it or let it
    go, count frames, and use up memory or give it back. -/
inductive GraphicsEvent where
  | command (command : GraphicsCommand)
  | surfacesClear
  | cacheClear
  | elsewhere (output : OutputSurface) (sized : output.pixels.length = 4 * output.width * output.height)
      (frameId : UInt32) (memory : List Bool)

def graphicsStep (session : GraphicsSession) :
    GraphicsEvent → Exec (Except Stop Unit × GraphicsSession)
  | .command command => .ok (command.run session)
  | .surfacesClear => .ok (.ok (), graphicsSurfacesClear session)
  | .cacheClear => .ok (.ok (), graphicsCacheClear session)
  | .elsewhere output _ graphicsCurrentFrameId memory =>
      .ok (.ok (), { session with surface := output, graphicsCurrentFrameId, memory })

end LibRdp.Client
