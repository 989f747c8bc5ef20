import LibRdp.Coding.Raster
import LibRdp.Graphics.ProgressiveStream
import LibRdp.Machine.Run
import LibRdp.Machine.Table

/-! # The tables of the graphics pipeline

A session has a table of surfaces, found by their ids, a cache of pixels that is filled and
emptied slot by slot, with a count of its bytes, and a table of progressive tiles, each of
which belongs to a surface. Whether memory can be had is decided from outside.
-/

namespace LibRdp.Client

open Graphics Machine Machine.Table

/-- `RDP_SESSION_MAX_GRAPHICS_SURFACES`, `_GRAPHICS_SURFACE_MAX_DIMENSION`, `_GRAPHICS_CACHE_SLOTS`,
    `_GRAPHICS_CACHE_MAX_BYTES` and `_PROGRESSIVE_TILE_STATES`. -/
def maxGraphicsSurfaces : Nat := 64
def graphicsSurfaceMaxDimension : Nat := 8192
def graphicsCacheSlots : Nat := 4096
def graphicsCacheMaxBytes : Nat := 16 * 1024 * 1024
def progressiveTileStates : Nat := 2048

/-- `RDP_GRAPHICS_PIXEL_FORMAT_XRGB_8888` and `_ARGB_8888`. -/
def graphicsPixelFormatXrgb8888 : UInt8 := 0x20
def graphicsPixelFormatArgb8888 : UInt8 := 0x21

/-- The limits of `librdp_limits` that bear on surfaces, within what settings accept. -/
structure GraphicsLimits where
  surfaceCount : Nat
  surfaceMaxDimension : Nat
  count_le : surfaceCount ≤ maxGraphicsSurfaces

/-- `librdp_surface`, on which the session shows what it draws; `mapped` while the application holds
    a mapping. -/
structure OutputSurface where
  width : Nat
  height : Nat
  mapped : Bool := false
  pixels : Bytes
  deriving Repr, DecidableEq

/-- `rdp_session_graphics_surface`. -/
structure GraphicsSurface where
  active : Bool := false
  mapped : Bool := false
  surfaceId : UInt16 := 0
  width : UInt16 := 0
  height : UInt16 := 0
  pixelFormat : UInt8 := 0
  outputOriginX : UInt32 := 0
  outputOriginY : UInt32 := 0
  targetWidth : UInt32 := 0
  targetHeight : UInt32 := 0
  scaled : Bool := false
  pixels : Bytes := []
  deriving Repr, DecidableEq

/-- `rdp_session_graphics_cache_entry`. -/
structure GraphicsCacheEntry where
  active : Bool := false
  cacheSlot : UInt16 := 0
  width : UInt16 := 0
  height : UInt16 := 0
  cacheKey : UInt64 := 0
  pixels : Bytes := []
  deriving Repr, DecidableEq

/-- `rdp_session_progressive_tile_cache`. -/
structure ProgressiveTileCache where
  active : Bool := false
  surfaceId : UInt16 := 0
  codecContextId : UInt32 := 0
  xIdx : UInt16 := 0
  yIdx : UInt16 := 0
  hasPixels : Bool := false
  updatedFrameId : UInt32 := 0
  lastUsed : UInt64 := 0
  state : Option TileState := none
  pixels : Option TilePixels := none

structure GraphicsSession where
  limits : GraphicsLimits
  surface : OutputSurface
  graphicsSurfaces : List GraphicsSurface := List.replicate maxGraphicsSurfaces {}
  graphicsCache : List GraphicsCacheEntry := List.replicate graphicsCacheSlots {}
  graphicsCacheBytes : Nat := 0
  progressiveTiles : List ProgressiveTileCache := List.replicate progressiveTileStates {}
  progressiveTileClock : UInt64 := 0
  graphicsCurrentFrameId : UInt32 := 0
  /-- Whether the next allocations succeed; those behind the end do. -/
  memory : List Bool := []

abbrev GraphicsEffect (α : Type) := Effect Stop GraphicsSession α

/-- A function of the session returns a status that is not `LIBRDP_STATUS_OK`. -/
def returns (status : Status) : GraphicsEffect α := .stop (.returned status)

def checked : Exec α → Attempt α
  | .ok a => .ok a
  | .error fault => .error (.fault fault)

/-- `rdp_buffer_reserve` or `calloc`: whether it succeeds. -/
def allocate : GraphicsEffect Bool := fun session =>
  match session.memory with
  | [] => (.ok true, session)
  | given :: rest => (.ok given, { session with memory := rest })

def reserve : GraphicsEffect Unit := do
  let given ← allocate
  if given then pure () else returns .noMemory

/-- `rdp_session_graphics_surface_find`: a surface and its place in the table. -/
def GraphicsSession.surfaceFind (session : GraphicsSession) (surfaceId : UInt16) :
    Option (Nat × GraphicsSurface) :=
  lookup (fun surface => surface.active && surface.surfaceId == surfaceId)
    (session.graphicsSurfaces.take session.limits.surfaceCount)

/-- `rdp_session_graphics_surface_find_slot`. -/
def GraphicsSession.surfaceFindSlot (session : GraphicsSession) (surfaceId : UInt16) :
    Option (Nat × GraphicsSurface) :=
  match session.surfaceFind surfaceId with
  | some found => some found
  | none =>
      lookup (fun surface => !surface.active)
        (session.graphicsSurfaces.take session.limits.surfaceCount)

def surfaceFound (surfaceId : UInt16) : GraphicsEffect Nat := do
  let session ← .get
  match session.surfaceFind surfaceId with
  | some (i, _) => pure i
  | none => returns .protocolError

def surfaceAt (i : Nat) : GraphicsEffect GraphicsSurface := do
  let session ← .get
  match session.graphicsSurfaces[i]? with
  | some surface => pure surface
  | none => .stop (.fault .outOfBounds)

def surfaceSet (i : Nat) (surface : GraphicsSurface) : GraphicsEffect Unit :=
  .modify fun session =>
    { session with graphicsSurfaces := session.graphicsSurfaces.set i surface }

def tilesClearWhere (hit : ProgressiveTileCache → Bool) (session : GraphicsSession) :
    GraphicsSession :=
  { session with
    progressiveTiles := session.progressiveTiles.map fun entry => if hit entry then {} else entry }

/-- `rdp_session_progressive_tiles_clear`. -/
def progressiveTilesClear (session : GraphicsSession) : GraphicsSession :=
  { session with
    progressiveTiles := List.replicate progressiveTileStates {}, progressiveTileClock := 0 }

/-- `rdp_session_progressive_tiles_clear_surface`. -/
def progressiveTilesClearSurface (surfaceId : UInt16) : GraphicsSession → GraphicsSession :=
  tilesClearWhere fun entry => entry.active && entry.surfaceId == surfaceId

/-- `rdp_session_progressive_tiles_clear_context`. -/
def progressiveTilesClearContext (surfaceId : UInt16) (codecContextId : UInt32) :
    GraphicsSession → GraphicsSession :=
  tilesClearWhere fun entry =>
    entry.active && entry.surfaceId == surfaceId && entry.codecContextId == codecContextId

structure TileKey where
  surfaceId : UInt16
  codecContextId : UInt32
  xIdx : UInt16
  yIdx : UInt16
  deriving Repr, DecidableEq

def ProgressiveTileCache.key (entry : ProgressiveTileCache) : TileKey where
  surfaceId := entry.surfaceId
  codecContextId := entry.codecContextId
  xIdx := entry.xIdx
  yIdx := entry.yIdx

/-- `rdp_session_progressive_tile_find`. -/
def GraphicsSession.progressiveTileFind (session : GraphicsSession) (key : TileKey) :
    Option (Nat × ProgressiveTileCache) :=
  lookup (fun entry => entry.active && entry.key == key) session.progressiveTiles

/-- The loop of `rdp_session_progressive_tile_get` for a victim: the first entry that is not active,
    or the first of those used least recently. -/
def tileVictim : Nat → Option (Nat × ProgressiveTileCache) → List ProgressiveTileCache →
    Option (Nat × ProgressiveTileCache)
  | _, victim, [] => victim
  | i, victim, candidate :: rest =>
      if !candidate.active then some (i, candidate)
      else
        match victim with
        | none => tileVictim (i + 1) (some (i, candidate)) rest
        | some (_, oldest) =>
            if candidate.lastUsed < oldest.lastUsed then
              tileVictim (i + 1) (some (i, candidate)) rest
            else tileVictim (i + 1) victim rest

def tileSet (i : Nat) (entry : ProgressiveTileCache) : GraphicsEffect Unit :=
  .modify fun session =>
    { session with progressiveTiles := session.progressiveTiles.set i entry }

/-- `++session->progressive_tile_clock`. -/
def tileTick : GraphicsEffect UInt64 := do
  .modify fun session => { session with progressiveTileClock := session.progressiveTileClock + 1 }
  let session ← .get
  pure session.progressiveTileClock

/-- The end of `rdp_session_progressive_tile_get`, where a victim is given to a tile; without memory
    for its two parts there is no entry. -/
def tileTake (key : TileKey) (i : Nat) (victim : ProgressiveTileCache) :
    GraphicsEffect (Option Nat) := do
  let state ← if victim.state.isSome then pure true else allocate
  if !state then pure none
  else do
    tileSet i { victim with state := some (victim.state.getD {}) }
    let pixels ← if victim.pixels.isSome then pure true else allocate
    if !pixels then pure none
    else do
      let lastUsed ← tileTick
      tileSet i
        { active := true, surfaceId := key.surfaceId, codecContextId := key.codecContextId
          xIdx := key.xIdx, yIdx := key.yIdx, hasPixels := false, updatedFrameId := 0, lastUsed
          state := some {}, pixels := some {} }
      pure (some i)

/-- `rdp_session_progressive_tile_get`. -/
def progressiveTileGet (key : TileKey) (create : Bool) : GraphicsEffect (Option Nat) := do
  let session ← .get
  match session.progressiveTileFind key with
  | some (i, entry) => do
      let lastUsed ← tileTick
      tileSet i { entry with lastUsed }
      pure (some i)
  | none =>
      if !create then pure none
      else
        match tileVictim 0 none session.progressiveTiles with
        | none => pure none
        | some (i, victim) => tileTake key i victim

/-- `rdp_session_graphics_surfaces_clear`. -/
def graphicsSurfacesClear (session : GraphicsSession) : GraphicsSession :=
  { progressiveTilesClear session with
    graphicsSurfaces := List.replicate maxGraphicsSurfaces {} }

/-- `rdp_graphics_create_surface`. -/
structure CreateSurface where
  surfaceId : UInt16
  width : UInt16
  height : UInt16
  pixelFormat : UInt8
  deriving Repr, DecidableEq

/-- `rdp_session_graphics_surface_create`. -/
def graphicsSurfaceCreate (create : CreateSurface) : GraphicsEffect Unit := do
  let session ← .get
  if create.width == 0 || create.height == 0 ||
      graphicsSurfaceMaxDimension < create.width.toNat ||
      graphicsSurfaceMaxDimension < create.height.toNat then
    returns .protocolError
  else if session.limits.surfaceMaxDimension < create.width.toNat ||
      session.limits.surfaceMaxDimension < create.height.toNat then
    returns .limitExceeded
  else
    match session.surfaceFindSlot create.surfaceId with
    | none => returns .limitExceeded
    | some (i, surface) => do
        .modify fun session =>
          if surface.active then progressiveTilesClearSurface create.surfaceId session else session
        surfaceSet i {}
        reserve
        surfaceSet i
          { active := true, surfaceId := create.surfaceId, width := create.width
            height := create.height, targetWidth := create.width.toUInt32
            targetHeight := create.height.toUInt32, pixelFormat := create.pixelFormat
            pixels := List.replicate (4 * create.width.toNat * create.height.toNat) 0 }

/-- `rdp_session_graphics_surface_delete`. -/
def graphicsSurfaceDelete (surfaceId : UInt16) : GraphicsEffect Unit := do
  let session ← .get
  match session.surfaceFind surfaceId with
  | none => pure ()
  | some (i, _) => do
      .modify (progressiveTilesClearSurface surfaceId)
      surfaceSet i {}

/-- `rdp_graphics_map_surface_to_output`. -/
structure MapSurfaceToOutput where
  surfaceId : UInt16
  outputOriginX : UInt32
  outputOriginY : UInt32
  deriving Repr, DecidableEq

/-- `rdp_session_graphics_surface_map`. -/
def graphicsSurfaceMap (map : MapSurfaceToOutput) : GraphicsEffect Unit := do
  let i ← surfaceFound map.surfaceId
  let surface ← surfaceAt i
  surfaceSet i
    { surface with
      mapped := true, outputOriginX := map.outputOriginX, outputOriginY := map.outputOriginY
      targetWidth := surface.width.toUInt32, targetHeight := surface.height.toUInt32
      scaled := false }

/-- `rdp_session_graphics_cache_evict`. -/
def graphicsCacheEvict (cacheSlot : UInt16) (session : GraphicsSession) : GraphicsSession :=
  match session.graphicsCache[cacheSlot.toNat]? with
  | none => session
  | some entry =>
      { session with
        graphicsCache := session.graphicsCache.set cacheSlot.toNat {}
        graphicsCacheBytes :=
          if !entry.active then session.graphicsCacheBytes
          else if entry.pixels.length ≤ session.graphicsCacheBytes then
            session.graphicsCacheBytes - entry.pixels.length
          else 0 }

/-- `rdp_session_graphics_cache_clear`. -/
def graphicsCacheClear (session : GraphicsSession) : GraphicsSession :=
  { session with
    graphicsCache := List.replicate graphicsCacheSlots {}, graphicsCacheBytes := 0 }

/-- `rdp_session_graphics_cache_find`. -/
def GraphicsSession.cacheFind (session : GraphicsSession) (cacheSlot : UInt16) :
    Option GraphicsCacheEntry :=
  (session.graphicsCache[cacheSlot.toNat]?).filter (·.active)

end LibRdp.Client
