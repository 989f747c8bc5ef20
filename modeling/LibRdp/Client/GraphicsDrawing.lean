import LibRdp.Client.GraphicsTables

/-! # Drawing on the surfaces of the graphics pipeline

Fills, copies and decoded pixels go to a surface, and from a surface that is mapped on to
the output: as they are, or scaled to the size that the surface is mapped with. Pixels come
from the wire, from other surfaces and from the cache, which is filled from surfaces.
-/

namespace LibRdp.Client

open Graphics Machine Coding

/-- `librdp_surface_blit_bgra32`; the source is a buffer and a place in it. -/
def OutputSurface.blitBgra32 (surface : OutputSurface) (x y width height : Nat) (pixels : Bytes)
    (start stride : Nat) : Attempt OutputSurface :=
  if surface.mapped then refuse .state
  else if width = 0 ∨ height = 0 ∨ surface.width < x ∨ surface.height < y ∨
      surface.width - x < width ∨ surface.height - y < height then
    refuse .invalidArgument
  else if stride < width * 4 then refuse .invalidArgument
  else do
    let rows ← checked (readRows pixels start stride (width * 4) height)
    let pixels ← checked
      (writeRows surface.pixels (y * (surface.width * 4) + x * 4) (surface.width * 4) rows)
    pure { surface with pixels }

def blitBgra32 (x y width height : Nat) (pixels : Bytes) (start stride : Nat) :
    GraphicsEffect Unit := do
  let session ← .get
  let surface ← .lift (session.surface.blitBgra32 x y width height pixels start stride)
  .modify fun session => { session with surface }

/-- `librdp_surface_resize`. -/
def surfaceResize (width height : Nat) : GraphicsEffect Unit := do
  let session ← .get
  if width = 0 ∨ height = 0 ∨ 8192 < width ∨ 8192 < height then returns .invalidArgument
  else if session.surface.mapped then returns .state
  else do
    reserve
    .modify fun session => { session with
      surface := { session.surface with
        width, height, pixels := List.replicate (4 * width * height) 0 } }

structure OutputArea where
  x : Nat
  y : Nat
  width : Nat
  height : Nat
  deriving Repr, DecidableEq

/-- The part of the output that `rdp_session_graphics_surface_flush_scaled` draws for a part of a
    surface. -/
def scaledArea (output : OutputSurface) (surface : GraphicsSurface) (left top right bottom : Nat) :
    Option OutputArea :=
  let width := surface.width.toNat
  let height := surface.height.toNat
  let relLeft := left * surface.targetWidth.toNat / width
  let relTop := top * surface.targetHeight.toNat / height
  let relRight := (right * surface.targetWidth.toNat + width - 1) / width
  let relBottom := (bottom * surface.targetHeight.toNat + height - 1) / height
  if relRight ≤ relLeft ∨ relBottom ≤ relTop then none
  else
    let absLeft := surface.outputOriginX.toNat + relLeft
    let absTop := surface.outputOriginY.toNat + relTop
    let absRight := surface.outputOriginX.toNat + relRight
    let absBottom := surface.outputOriginY.toNat + relBottom
    if output.width ≤ absLeft ∨ output.height ≤ absTop ∨ absRight ≤ absLeft ∨
        absBottom ≤ absTop then
      none
    else
      some { x := absLeft, y := absTop, width := min absRight output.width - absLeft
             height := min absBottom output.height - absTop }

/-- A row of the scaled pixels of `rdp_session_graphics_surface_flush_scaled`. -/
def scaledRow (surface : GraphicsSurface) (area : OutputArea) (y : Nat) : Exec Bytes := do
  let width := surface.width.toNat
  let height := surface.height.toNat
  let relY := area.y + y - surface.outputOriginY.toNat
  let srcY := min (relY * height / surface.targetHeight.toNat) (height - 1)
  let pixels ← (List.range area.width).mapM fun x =>
    let relX := area.x + x - surface.outputOriginX.toNat
    let srcX := min (relX * width / surface.targetWidth.toNat) (width - 1)
    readBlock surface.pixels (srcY * (width * 4) + srcX * 4) 4
  pure pixels.flatten

/-- `rdp_session_graphics_surface_flush_scaled`. -/
def surfaceFlushScaled (i left top right bottom : Nat) : GraphicsEffect Unit := do
  let session ← .get
  let surface ← surfaceAt i
  if !surface.active then returns .invalidArgument
  else if surface.targetWidth == 0 || surface.targetHeight == 0 ||
      graphicsSurfaceMaxDimension < surface.targetWidth.toNat ||
      graphicsSurfaceMaxDimension < surface.targetHeight.toNat then
    returns .protocolError
  else if session.limits.surfaceMaxDimension < surface.targetWidth.toNat ||
      session.limits.surfaceMaxDimension < surface.targetHeight.toNat then
    returns .limitExceeded
  else
    match scaledArea session.surface surface left top right bottom with
    | none => pure ()
    | some area => do
        reserve
        let rows ← .lift (checked ((List.range area.height).mapM (scaledRow surface area)))
        blitBgra32 area.x area.y area.width area.height rows.flatten 0 (area.width * 4)

/-- `rdp_session_graphics_surface_flush`. -/
def surfaceFlush (i left top right bottom : Nat) : GraphicsEffect Unit := do
  let session ← .get
  let surface ← surfaceAt i
  if !surface.active then returns .invalidArgument
  else if !surface.mapped || decide (right ≤ left) || decide (bottom ≤ top) then pure ()
  else if surface.width.toNat < right ∨ surface.height.toNat < bottom then returns .protocolError
  else if surface.scaled then surfaceFlushScaled i left top right bottom
  else
    let x := surface.outputOriginX.toNat + left
    let y := surface.outputOriginY.toNat + top
    if session.surface.width ≤ x ∨ session.surface.height ≤ y then pure ()
    else
      let stride := surface.width.toNat * 4
      blitBgra32 x y (min (right - left) (session.surface.width - x))
        (min (bottom - top) (session.surface.height - y)) surface.pixels (top * stride + left * 4)
        stride

def surfaceDraw (i left top : Nat) (rows : List Bytes) : GraphicsEffect Unit := do
  let surface ← surfaceAt i
  let stride := surface.width.toNat * 4
  let pixels ← .lift (checked (writeRows surface.pixels (top * stride + left * 4) stride rows))
  surfaceSet i { surface with pixels }

/-- `rdp_session_graphics_surface_fill`. -/
def surfaceFill (i : Nat) (rect : Rect16) (fillPixel : UInt32) : GraphicsEffect Unit := do
  let surface ← surfaceAt i
  if !surface.active then returns .invalidArgument
  else if surface.width < rect.right || surface.height < rect.bottom then returns .protocolError
  else if rect.right ≤ rect.left || rect.bottom ≤ rect.top then pure ()
  else do
    let a :=
      if surface.pixelFormat == graphicsPixelFormatArgb8888 then (fillPixel >>> 24).toUInt8
      else 0xff
    let pixel := [fillPixel.toUInt8, (fillPixel >>> 8).toUInt8, (fillPixel >>> 16).toUInt8, a]
    let row := (List.replicate (rect.right.toNat - rect.left.toNat) pixel).flatten
    surfaceDraw i rect.left.toNat rect.top.toNat
      (List.replicate (rect.bottom.toNat - rect.top.toNat) row)
    surfaceFlush i rect.left.toNat rect.top.toNat rect.right.toNat rect.bottom.toNat

def opaqueRow (row : Bytes) : Bytes := row.mapIdx fun i byte => if i % 4 = 3 then 0xff else byte

/-- `rdp_session_graphics_surface_write_bgra`; the source is a buffer and a place in it. -/
def surfaceWriteBgra (i x y width height : Nat) (pixels : Bytes) (start stride : Nat)
    (forceOpaque : Bool) : GraphicsEffect Unit := do
  let surface ← surfaceAt i
  if !surface.active then returns .invalidArgument
  else if width = 0 ∨ height = 0 then pure ()
  else if surface.width.toNat < x ∨ surface.height.toNat < y ∨ surface.width.toNat - x < width ∨
      surface.height.toNat - y < height ∨ stride < width * 4 then
    returns .protocolError
  else do
    let rows ← .lift (checked (readRows pixels start stride (width * 4) height))
    surfaceDraw i x y (if forceOpaque then rows.map opaqueRow else rows)
    surfaceFlush i x y (x + width) (y + height)

/-- `rdp_graphics_wire_to_surface_1`, as far as a surface is drawn with plain pixels. -/
structure WireToSurface1 where
  surfaceId : UInt16
  pixelFormat : UInt8
  destRect : Rect16
  bitmapData : Bytes
  deriving Repr, DecidableEq

/-- `rdp_session_graphics_surface_write_wire`. -/
def surfaceWriteWire (i : Nat) (wire : WireToSurface1) : GraphicsEffect Unit :=
  let rect := wire.destRect
  if rect.right < rect.left || rect.bottom < rect.top then returns .protocolError
  else
    let width := rect.right.toNat - rect.left.toNat
    let height := rect.bottom.toNat - rect.top.toNat
    if wire.bitmapData.length ≠ width * height * 4 then returns .protocolError
    else
      surfaceWriteBgra i rect.left.toNat rect.top.toNat width height wire.bitmapData 0 (width * 4)
        (wire.pixelFormat == graphicsPixelFormatXrgb8888)

/-- `rdp_graphics_map_surface_to_scaled_output`. -/
structure MapSurfaceToScaledOutput where
  surfaceId : UInt16
  outputOriginX : UInt32
  outputOriginY : UInt32
  targetWidth : UInt32
  targetHeight : UInt32
  deriving Repr, DecidableEq

/-- `rdp_session_graphics_surface_map_scaled`. -/
def graphicsSurfaceMapScaled (map : MapSurfaceToScaledOutput) : GraphicsEffect Unit := do
  let session ← .get
  if map.targetWidth == 0 || map.targetHeight == 0 ||
      graphicsSurfaceMaxDimension < map.targetWidth.toNat ||
      graphicsSurfaceMaxDimension < map.targetHeight.toNat then
    returns .protocolError
  else if session.limits.surfaceMaxDimension < map.targetWidth.toNat ||
      session.limits.surfaceMaxDimension < map.targetHeight.toNat then
    returns .limitExceeded
  else do
    let i ← surfaceFound map.surfaceId
    let surface ← surfaceAt i
    surfaceSet i
      { surface with
        mapped := true, outputOriginX := map.outputOriginX, outputOriginY := map.outputOriginY
        targetWidth := map.targetWidth, targetHeight := map.targetHeight
        scaled := map.targetWidth != surface.width.toUInt32 ||
          map.targetHeight != surface.height.toUInt32 }
    surfaceFlush i 0 0 surface.width.toNat surface.height.toNat

/-- `rdp_graphics_point16`. -/
structure Point16 where
  x : UInt16
  y : UInt16
  deriving Repr, DecidableEq

def surfaceRows (surface : GraphicsSurface) (rect : Rect16) : Attempt (List Bytes) :=
  let stride := surface.width.toNat * 4
  checked (readRows surface.pixels (rect.top.toNat * stride + rect.left.toNat * 4) stride
    ((rect.right.toNat - rect.left.toNat) * 4) (rect.bottom.toNat - rect.top.toNat))

def outside (surface : GraphicsSurface) (point : Point16) (width height : Nat) : Bool :=
  surface.width < point.x || surface.height < point.y ||
    decide (surface.width.toNat - point.x.toNat < width) ||
    decide (surface.height.toNat - point.y.toNat < height)

/-- `rdp_session_graphics_surface_copy`. -/
def surfaceCopy (source dest : Nat) (rect : Rect16) (point : Point16) : GraphicsEffect Unit := do
  let src ← surfaceAt source
  let dst ← surfaceAt dest
  if !src.active || !dst.active then returns .invalidArgument
  else if src.width < rect.right || src.height < rect.bottom || rect.right ≤ rect.left ||
      rect.bottom ≤ rect.top then
    returns .protocolError
  else
    let width := rect.right.toNat - rect.left.toNat
    let height := rect.bottom.toNat - rect.top.toNat
    if outside dst point width height then returns .protocolError
    else do
      reserve
      let rows ← .lift (surfaceRows src rect)
      surfaceWriteBgra dest point.x.toNat point.y.toNat width height rows.flatten 0 (width * 4)
        false

/-- `rdp_graphics_surface_to_cache`. -/
structure SurfaceToCache where
  surfaceId : UInt16
  cacheKey : UInt64
  cacheSlot : UInt16
  rectSrc : Rect16
  deriving Repr, DecidableEq

/-- The end of `rdp_session_graphics_cache_store`, where a slot is given to a rectangle. -/
def cacheFill (order : SurfaceToCache) (surface : GraphicsSurface) (currentWithoutOld size : Nat) :
    GraphicsEffect Unit := do
  reserve
  let rows ← .lift (surfaceRows surface order.rectSrc)
  .modify fun session => { session with
    graphicsCache := session.graphicsCache.set order.cacheSlot.toNat
      { active := true, cacheSlot := order.cacheSlot, cacheKey := order.cacheKey
        width := order.rectSrc.right - order.rectSrc.left
        height := order.rectSrc.bottom - order.rectSrc.top, pixels := rows.flatten }
    graphicsCacheBytes := currentWithoutOld + size }

/-- `rdp_session_graphics_cache_store`. -/
def graphicsCacheStore (order : SurfaceToCache) : GraphicsEffect Unit := do
  if graphicsCacheSlots ≤ order.cacheSlot.toNat then returns .protocolError
  else do
    let i ← surfaceFound order.surfaceId
    let surface ← surfaceAt i
    let rect := order.rectSrc
    if surface.width < rect.right || surface.height < rect.bottom || rect.right ≤ rect.left ||
        rect.bottom ≤ rect.top then
      returns .protocolError
    else do
      let size := (rect.right.toNat - rect.left.toNat) * (rect.bottom.toNat - rect.top.toNat) * 4
      let session ← .get
      match session.graphicsCache[order.cacheSlot.toNat]? with
      | none => .stop (.fault .outOfBounds)
      | some entry =>
          let oldSize := if entry.active then entry.pixels.length else 0
          let currentWithoutOld :=
            if oldSize ≤ session.graphicsCacheBytes then session.graphicsCacheBytes - oldSize
            else 0
          if graphicsCacheMaxBytes < size ∨ graphicsCacheMaxBytes - size < currentWithoutOld then
            returns .noMemory
          else cacheFill order surface currentWithoutOld size

/-- `rdp_session_graphics_cache_copy_to_surface`. -/
def cacheCopyToSurface (cache : GraphicsCacheEntry) (i : Nat) (point : Point16) :
    GraphicsEffect Unit := do
  let surface ← surfaceAt i
  if !cache.active || !surface.active then returns .invalidArgument
  else if outside surface point cache.width.toNat cache.height.toNat then returns .protocolError
  else
    surfaceWriteBgra i point.x.toNat point.y.toNat cache.width.toNat cache.height.toNat cache.pixels
      0 (cache.width.toNat * 4) false

end LibRdp.Client
