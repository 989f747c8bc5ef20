import LibRdp.Client.GraphicsScaled
import LibRdp.Client.GraphicsCommands
import LibRdp.Graphics.NsCodecPlanes

/-! # Consistent tables

The three tables of the graphics pipeline are edited one slot at a time. What they hold together is
an invariant of its own: it is enough to say what each rewrite of a slot has to respect, and every
command is such rewrites one after the other. Surfaces that are there keep their places while
something is drawn.
-/

namespace LibRdp.Client

open Graphics Machine Machine.Table Coding

/-! ## The invariant -/

structure GraphicsSurface.Good (surface : GraphicsSurface) (limits : GraphicsLimits) : Prop where
  sized : surface.Sized
  max : surface.width.toNat ≤ graphicsSurfaceMaxDimension ∧
    surface.height.toNat ≤ graphicsSurfaceMaxDimension
  limit : surface.width.toNat ≤ limits.surfaceMaxDimension ∧
    surface.height.toNat ≤ limits.surfaceMaxDimension
  wide : 0 < surface.targetWidth.toNat
  high : 0 < surface.targetHeight.toNat
  mapping : surface.mapped = true → surface.Mapped limits

def Held (i : Nat) (surfaceId : UInt16) (session : GraphicsSession) : Prop :=
  ∃ surface, session.graphicsSurfaces[i]? = some surface ∧ surface.active = true ∧
    surface.surfaceId = surfaceId

def GraphicsSession.surfaceSize (session : GraphicsSession) (i : Nat) : Option (UInt16 × UInt16) :=
  session.graphicsSurfaces[i]?.map fun surface => (surface.width, surface.height)

def GraphicsCacheEntry.bytes (entry : GraphicsCacheEntry) : Nat :=
  if entry.active then entry.pixels.length else 0

structure GraphicsCacheEntry.Good (entry : GraphicsCacheEntry) : Prop where
  wide : 0 < entry.width.toNat
  high : 0 < entry.height.toNat
  whole : entry.pixels.length = 4 * entry.width.toNat * entry.height.toNat

structure TileSized (pixels : TilePixels) : Prop where
  length : pixels.bgra.length = 64 * (64 * 4)
  stride : pixels.stride = 64 * 4

structure GraphicsSession.Consistent (session : GraphicsSession) : Prop where
  surfaces : Every (fun surface => surface.active = true → surface.Good session.limits)
    session.graphicsSurfaces
  ids : Distinct (·.active) (·.surfaceId) session.graphicsSurfaces
  within : ∀ ⦃i : Nat⦄ ⦃surface : GraphicsSurface⦄, session.graphicsSurfaces[i]? = some surface →
    surface.active = true → i < session.limits.surfaceCount
  entries : Every (fun entry => entry.active = true → entry.Good) session.graphicsCache
  slots : session.graphicsCache.length = graphicsCacheSlots
  bytes : session.graphicsCacheBytes = weight GraphicsCacheEntry.bytes session.graphicsCache
  most : session.graphicsCacheBytes ≤ graphicsCacheMaxBytes
  tiles : Every (fun tile => tile.active = true → ∃ i, Held i tile.surfaceId session)
    session.progressiveTiles
  keys : Distinct (·.active) (·.key) session.progressiveTiles
  states : session.progressiveTiles.length = progressiveTileStates
  pictures : Every (fun tile => tile.hasPixels = true → ∀ pixels ∈ tile.pixels, TileSized pixels)
    session.progressiveTiles
  output : session.surface.Sized

section Rewrites

variable {session : GraphicsSession} {i : Nat} {old new : GraphicsSurface}

theorem surfaceFind_there {surfaceId : UInt16} {surface : GraphicsSurface}
    (found : session.surfaceFind surfaceId = some (i, surface)) : Held i surfaceId session := by
  obtain ⟨at', active⟩ := surfaceFind_held found
  obtain ⟨-, passes⟩ := lookup_some found
  rw [Bool.and_eq_true, beq_iff_eq] at passes
  exact ⟨surface, at', active, passes.2⟩

variable {surfaceId : UInt16}

variable (consistent : session.Consistent)
include consistent

theorem GraphicsSession.Consistent.good (held : Held i surfaceId session) :
    ∃ surface, session.graphicsSurfaces[i]? = some surface ∧ surface.active = true ∧
      surface.surfaceId = surfaceId ∧ surface.Good session.limits := by
  obtain ⟨surface, at', active, same⟩ := held
  exact ⟨surface, at', active, same, consistent.surfaces at' active⟩

/-! ## Rewrites of a surface -/

omit consistent in
theorem Held.set {j : Nat} (held : Held j surfaceId session)
    (at' : session.graphicsSurfaces[i]? = some old)
    (kept : old.active = true → new.active = true ∧ new.surfaceId = old.surfaceId) :
    Held j surfaceId { session with graphicsSurfaces := session.graphicsSurfaces.set i new } := by
  obtain ⟨surface, there, active, same⟩ := held
  by_cases here : j = i
  · subst here
    rw [at'] at there
    cases there
    obtain ⟨active', same'⟩ := kept active
    exact ⟨new, getElem?_set_held at', active', same'.trans same⟩
  refine ⟨surface, ?_, active, same⟩
  rw [← there]
  exact List.getElem?_set_ne (Ne.symm here)

omit consistent in
theorem surfaceSize_set (at' : session.graphicsSurfaces[i]? = some old)
    (same : (new.width, new.height) = (old.width, old.height)) (j : Nat) :
    { session with graphicsSurfaces := session.graphicsSurfaces.set i new }.surfaceSize j =
      session.surfaceSize j := by
  unfold GraphicsSession.surfaceSize
  by_cases here : j = i
  · rw [here, getElem?_set_held at', at', Option.map_some, Option.map_some, same]
  · rw [List.getElem?_set_ne (Ne.symm here)]

theorem GraphicsSession.Consistent.setSurface (at' : session.graphicsSurfaces[i]? = some old)
    (was : old.active = true) (active : new.active = true) (same : new.surfaceId = old.surfaceId)
    (good : new.Good session.limits) :
    { session with graphicsSurfaces := session.graphicsSurfaces.set i new }.Consistent :=
  { consistent with
    surfaces := consistent.surfaces.set fun _ => good
    ids := consistent.ids.set_same at' fun _ => ⟨was, same⟩
    within := by
      intro j surface held active'
      obtain ⟨rfl, -, -⟩ | ⟨-, there⟩ := getElem?_set_cases held
      · exact consistent.within at' was
      · exact consistent.within there active'
    tiles := by
      intro j tile held active'
      obtain ⟨k, there⟩ := consistent.tiles held active'
      exact ⟨k, there.set at' fun _ => ⟨active, same⟩⟩ }

theorem GraphicsSession.Consistent.dropSurface (at' : session.graphicsSurfaces[i]? = some old)
    (bare : old.active = true → Every (fun tile => tile.active = true →
      tile.surfaceId ≠ old.surfaceId) session.progressiveTiles) :
    { session with graphicsSurfaces := session.graphicsSurfaces.set i {} }.Consistent :=
  { consistent with
    surfaces := consistent.surfaces.set nofun
    ids := consistent.ids.set nofun
    within := by
      intro j surface held active
      obtain ⟨-, rfl, -⟩ | ⟨-, there⟩ := getElem?_set_cases held
      · cases active
      · exact consistent.within there active
    tiles := by
      intro j tile held active
      obtain ⟨k, surface, there, isActive, same⟩ := consistent.tiles held active
      refine ⟨k, surface, ?_, isActive, same⟩
      rw [← there]
      apply List.getElem?_set_ne
      rintro rfl
      rw [at'] at there
      cases there
      exact bare isActive held active same.symm }

theorem GraphicsSession.Consistent.addSurface (at' : session.graphicsSurfaces[i]? = some old)
    (free : old.active = false) (inside : i < session.limits.surfaceCount)
    (good : new.Good session.limits) (fresh : ∀ j, ¬ Held j new.surfaceId session) :
    { session with graphicsSurfaces := session.graphicsSurfaces.set i new }.Consistent :=
  { consistent with
    surfaces := consistent.surfaces.set fun _ => good
    ids := by
      refine consistent.ids.set ?_
      intro _ j other _ held active same
      exact fresh j ⟨other, held, active, same⟩
    within := by
      intro j surface held active
      obtain ⟨rfl, -, -⟩ | ⟨-, there⟩ := getElem?_set_cases held
      · exact inside
      · exact consistent.within there active
    tiles := by
      intro j tile held active
      obtain ⟨k, there⟩ := consistent.tiles held active
      refine ⟨k, there.set at' ?_⟩
      intro was
      rw [free] at was
      cases was }

/-! ## Rewrites of a tile -/

theorem GraphicsSession.Consistent.clearTiles (hit : ProgressiveTileCache → Bool) :
    (tilesClearWhere hit session).Consistent :=
  { consistent with
    tiles := consistent.tiles.clear {} nofun hit
    keys := consistent.keys.clear {} rfl hit
    states := (List.length_map _).trans consistent.states
    pictures := consistent.pictures.clear {} nofun hit }

theorem GraphicsSession.Consistent.setTile {tile : ProgressiveTileCache}
    (there : tile.active = true → ∃ i, Held i tile.surfaceId session)
    (apart : tile.active = true → ∀ {j other}, j ≠ i → session.progressiveTiles[j]? = some other →
      other.active = true → other.key ≠ tile.key)
    (picture : tile.hasPixels = true → ∀ pixels ∈ tile.pixels, TileSized pixels) :
    { session with progressiveTiles := session.progressiveTiles.set i tile }.Consistent :=
  { consistent with
    tiles := consistent.tiles.set there
    keys := consistent.keys.set apart
    states := (List.length_set).trans consistent.states
    pictures := consistent.pictures.set picture }

omit consistent in
theorem GraphicsSession.Consistent.changeTile {before after : ProgressiveTileCache}
    (consistent : session.Consistent) (held : session.progressiveTiles[i]? = some before)
    (active : after.active = before.active) (key : after.key = before.key)
    (picture : after.hasPixels = true → ∀ pixels ∈ after.pixels, TileSized pixels) :
    { session with progressiveTiles := session.progressiveTiles.set i after }.Consistent := by
  refine consistent.setTile ?_ ?_ picture
  · intro isActive
    rw [active] at isActive
    rw [show after.surfaceId = before.surfaceId from congrArg TileKey.surfaceId key]
    exact consistent.tiles held isActive
  · intro isActive j other away there otherActive same
    rw [active] at isActive
    rw [key] at same
    exact away (consistent.keys there held otherActive isActive same)

/-! ## Rewrites of an entry of the cache -/

theorem GraphicsSession.Consistent.setEntry {before after : GraphicsCacheEntry} {bytes : Nat}
    (held : session.graphicsCache[i]? = some before)
    (good : after.active = true → after.Good)
    (counted : bytes + before.bytes = session.graphicsCacheBytes + after.bytes)
    (most : bytes ≤ graphicsCacheMaxBytes) :
    { session with
      graphicsCache := session.graphicsCache.set i after
      graphicsCacheBytes := bytes }.Consistent :=
  { consistent with
    entries := consistent.entries.set good
    slots := (List.length_set).trans consistent.slots
    bytes := by
      have moved := weight_set GraphicsCacheEntry.bytes held after
      rw [consistent.bytes] at counted
      change bytes = weight GraphicsCacheEntry.bytes (session.graphicsCache.set i after)
      omega
    most := most }

theorem GraphicsSession.Consistent.entry_le {entry : GraphicsCacheEntry}
    (held : session.graphicsCache[i]? = some entry) : entry.bytes ≤ session.graphicsCacheBytes :=
  consistent.bytes ▸ size_le_weight GraphicsCacheEntry.bytes held

omit consistent

/-! ## The rest of a session -/

theorem GraphicsSession.Consistent.elsewhere (consistent : session.Consistent)
    {output : OutputSurface} (sized : output.Sized) {graphicsCurrentFrameId : UInt32}
    (memory : List Bool) :
    { session with surface := output, graphicsCurrentFrameId, memory }.Consistent :=
  { consistent with output := sized }

end Rewrites

/-! ## What is kept -/

structure Kept (before after : GraphicsSession) : Prop where
  consistent : after.Consistent
  held : ∀ {i surfaceId}, Held i surfaceId before → Held i surfaceId after
  sizes : ∀ i, after.surfaceSize i = before.surfaceSize i

section Kept

variable {α β : Type} {session before after : GraphicsSession} {surface : GraphicsSurface}
  {i : Nat} {m : GraphicsEffect α}

theorem GraphicsSession.Consistent.kept (consistent : session.Consistent) : Kept session session :=
  ⟨consistent, id, fun _ => rfl⟩

theorem Kept.trans (first : Kept session before) (next : Kept before after) : Kept session after :=
  ⟨next.consistent, fun held => next.held (first.held held),
    fun i => (next.sizes i).trans (first.sizes i)⟩

variable {f : α → GraphicsEffect β}

theorem kept_bind (first : Kept session (m session).2)
    (next : ∀ a middle, m session = (.ok a, middle) → Kept middle (f a middle).2) :
    Kept session ((m >>= f) session).2 := by
  cases ran : m session with
  | mk result middle =>
    rw [ran] at first
    cases result with
    | ok a =>
      rw [Effect.bind_ok ran]
      exact first.trans (next a middle ran)
    | error stop =>
      rw [Effect.bind_error ran]
      exact first

theorem kept_lift {x : Attempt α} (consistent : session.Consistent)
    (next : ∀ a, Kept session (f a session).2) :
    Kept session ((Effect.lift x >>= f) session).2 := by
  refine kept_bind consistent.kept ?_
  intro a middle ran
  cases ran
  exact next a

theorem kept_forM {l : List β} {each : β → GraphicsEffect PUnit} (consistent : session.Consistent)
    (step : ∀ b ∈ l, ∀ s, Kept session s → Kept s (each b s).2) :
    Kept session (l.forM each session).2 := by
  have whole : Effect.Holds (Kept session) (l.forM each) (fun _ => Kept session)
      fun _ => Kept session := by
    refine .forM fun b inside s start => ?_
    have here := start.trans (step b inside s start)
    refine ⟨?_, ?_⟩
    · intro a next ran
      rw [ran] at here
      exact here
    · intro stop next ran
      rw [ran] at here
      exact here
  have held := whole session consistent.kept
  cases ran : l.forM each session with
  | mk result next =>
    cases result with
    | ok a => exact held.1 a next ran
    | error stop => exact held.2 stop next ran

theorem kept_found {surfaceId : UInt16} {f : Nat → GraphicsEffect α}
    (consistent : session.Consistent)
    (next : ∀ i, Held i surfaceId session → Kept session (f i session).2) :
    Kept session ((surfaceFound surfaceId >>= f) session).2 := by
  cases found : session.surfaceFind surfaceId with
  | none =>
    rw [surfaceFound, Effect.bind_error (by rw [Effect.get_bind, found]; rfl)]
    exact consistent.kept
  | some pair =>
    obtain ⟨i, surface⟩ := pair
    rw [surfaceFound, Effect.bind_ok (by rw [Effect.get_bind, found]; rfl)]
    exact next i (surfaceFind_there found)

end Kept

/-! ## Drawing -/

section Drawing

variable {session : GraphicsSession} {surface : GraphicsSurface} {i : Nat} {surfaceId : UInt16}

theorem GraphicsSession.Consistent.rewritten (consistent : session.Consistent)
    (at' : session.graphicsSurfaces[i]? = some surface) (was : surface.active = true)
    {next : GraphicsSurface} (active : next.active = true)
    (same : next.surfaceId = surface.surfaceId ∧
      (next.width, next.height) = (surface.width, surface.height))
    (good : next.Good session.limits) :
    Kept session { session with graphicsSurfaces := session.graphicsSurfaces.set i next } :=
  ⟨consistent.setSurface at' was active same.1 good,
    fun held => held.set at' fun _ => ⟨active, same.1⟩, surfaceSize_set at' same.2⟩

theorem GraphicsSurface.Good.repainted {limits : GraphicsLimits} (good : surface.Good limits)
    {next : Bytes} (length : next.length = surface.pixels.length) :
    ({ surface with pixels := next } : GraphicsSurface).Good limits :=
  have sized : ({ surface with pixels := next } : GraphicsSurface).Sized :=
    { good.sized with length := length.trans good.sized.length }
  { good with
    sized := sized
    mapping := fun mapped => { good.mapping mapped with sized := sized } }

theorem GraphicsSession.Consistent.drawn (consistent : session.Consistent)
    (at' : session.graphicsSurfaces[i]? = some surface) (active : surface.active = true)
    {next : Bytes} (length : next.length = surface.pixels.length) :
    Kept session (session.drawn i surface next) :=
  consistent.rewritten at' active active ⟨rfl, rfl⟩ ((consistent.surfaces at' active).repainted length)

theorem GraphicsSession.Consistent.shown (consistent : session.Consistent) {output : OutputSurface}
    (sized : output.Sized) (memory : List Bool) :
    Kept session { session with surface := output, memory } :=
  ⟨consistent.elsewhere sized memory, id, fun _ => rfl⟩

theorem surfaceFlush_kept (consistent : session.Consistent)
    (at' : session.graphicsSurfaces[i]? = some surface) (active : surface.active = true)
    (part : SurfacePart surface) :
    Kept session (surfaceFlush i part.left part.top part.right part.bottom session).2 ∧
      ∀ stop, (surfaceFlush i part.left part.top part.right part.bottom session).1 = .error stop →
        Refused stop := by
  cases mapped : surface.mapped with
  | false =>
    rw [surfaceFlush_unmapped at' active mapped]
    exact ⟨consistent.kept, nofun⟩
  | true =>
    have ends := surfaceFlush_ends at' ((consistent.surfaces at' active).mapping mapped)
      consistent.output part
    generalize surfaceFlush i part.left part.top part.right part.bottom session = ending at ends
    cases ends with
    | shown shows =>
      exact ⟨consistent.shown shows.sized _, nofun⟩
    | noMemory =>
      refine ⟨consistent.shown consistent.output _, ?_⟩
      intro stop same
      cases same
      exact refused_returned nofun
    | locked =>
      refine ⟨consistent.shown consistent.output _, ?_⟩
      intro stop same
      cases same
      exact refused_returned nofun

theorem draws_kept (consistent : session.Consistent)
    (at' : session.graphicsSurfaces[i]? = some surface) (active : surface.active = true)
    {ending : Except Stop Unit × GraphicsSession} (draws : Draws i session surface ending) :
    Kept session ending.2 := by
  cases draws with
  | nothing => exact consistent.kept
  | @drawn part next length =>
    have first := consistent.drawn at' active length
    exact first.trans
      (surfaceFlush_kept first.consistent (drawn_held at' next) active (part.repainted next)).1

theorem surfaceFill_kept (consistent : session.Consistent) (held : Held i surfaceId session)
    (rect : Rect16) (fillPixel : UInt32) : Kept session (surfaceFill i rect fillPixel session).2 := by
  obtain ⟨surface, at', active, -, good⟩ := consistent.good held
  exact draws_kept consistent at' active (surfaceFill_draws at' active good.sized rect fillPixel)

theorem surfaceWriteBgra_tries (consistent : session.Consistent) (held : Held i surfaceId session)
    {x y width height start stride : Nat} {pixels : Bytes}
    (fit : RowsFit pixels.length start stride (width * 4) height) (forceOpaque : Bool) :
    Kept session (surfaceWriteBgra i x y width height pixels start stride forceOpaque session).2 ∧
      ∀ stop, (surfaceWriteBgra i x y width height pixels start stride forceOpaque session).1 =
        .error stop → Refused stop := by
  obtain ⟨surface, at', active, -, good⟩ := consistent.good held
  refine ⟨draws_kept consistent at' active
    (surfaceWriteBgra_draws at' active good.sized fit forceOpaque), ?_⟩
  rw [surfaceWriteBgra, Effect.bind_ok (surfaceAt_held at'), active]
  simp only [Bool.not_true, Bool.false_eq_true, if_false]
  split
  · rintro _ ⟨⟩
  split
  · rintro _ ⟨⟩
    exact refused_returned (by decide)
  obtain ⟨rows, read, many, lengths⟩ := readRows_ok fit
  let part : SurfacePart surface :=
    ⟨x, y, x + width, y + height, by omega, by omega, by omega, by omega⟩
  have high : part.bottom - part.top = height := Nat.add_sub_cancel_left ..
  have wide : part.right - part.left = width := Nat.add_sub_cancel_left ..
  have painted : (if forceOpaque then rows.map opaqueRow else rows).length = height ∧
      ∀ row ∈ (if forceOpaque then rows.map opaqueRow else rows), row.length = width * 4 := by
    split
    · refine ⟨(List.length_map _).trans many, fun row here => ?_⟩
      obtain ⟨row', here', rfl⟩ := List.mem_map.mp here
      rw [opaqueRow, List.length_mapIdx]
      exact lengths row' here'
    · exact ⟨many, lengths⟩
  rw [← high, ← wide] at painted
  obtain ⟨next, drawn, length, -⟩ := surfaceDraw_drawn at' good.sized part painted.1 painted.2
  have first := consistent.drawn at' active length
  rw [read, checked, Effect.lift_ok_bind, Effect.bind_ok drawn]
  exact (surfaceFlush_kept first.consistent (drawn_held at' next) active
    (part.repainted next)).2

theorem reserve_kept (consistent : session.Consistent) : Kept session (reserve session).2 := by
  obtain ⟨-, ran⟩ | ran := reserve_cases session
  · rw [ran]
    exact consistent.shown consistent.output _
  · rw [ran]
    exact consistent.shown consistent.output _

end Drawing

/-! ## Commands -/

section Commands

variable {session : GraphicsSession} {surface : GraphicsSurface} {i : Nat} {surfaceId : UInt16}

theorem surfaceFindSlot_cases (found : session.surfaceFindSlot surfaceId = some (i, surface)) :
    session.graphicsSurfaces[i]? = some surface ∧ i < session.limits.surfaceCount ∧
      (surface.active = true → surface.surfaceId = surfaceId) ∧
      (surface.active = false → session.surfaceFind surfaceId = none) := by
  unfold GraphicsSession.surfaceFindSlot at found
  split at found
  · rename_i pair own
    cases found
    obtain ⟨at', passes⟩ := lookup_some own
    rw [Bool.and_eq_true, beq_iff_eq] at passes
    rw [List.getElem?_take] at at'
    split at at'
    · exact ⟨at', ‹_›, fun _ => passes.2, fun free => by rw [passes.1] at free; cases free⟩
    · cases at'
  rename_i missing
  obtain ⟨at', free⟩ := lookup_some found
  rw [Bool.not_eq_true'] at free
  rw [List.getElem?_take] at at'
  split at at'
  · refine ⟨at', ‹_›, ?_, fun _ => missing⟩
    intro active
    rw [free] at active
    cases active
  · cases at'

variable (consistent : session.Consistent)
include consistent

theorem surfaceFind_none (missing : session.surfaceFind surfaceId = none) (j : Nat) :
    ¬ Held j surfaceId session := by
  rintro ⟨surface, at', active, same⟩
  have inside := consistent.within at' active
  have fails := lookup_none missing (List.getElem?_take_of_lt inside ▸ at')
  simp [active, same] at fails

theorem surfaceFindSlot_alone (found : session.surfaceFindSlot surfaceId = some (i, surface))
    {j : Nat} (held : Held j surfaceId session) : j = i := by
  obtain ⟨at', -, own, missing⟩ := surfaceFindSlot_cases found
  cases active : surface.active with
  | false => exact absurd held (surfaceFind_none consistent (missing active) j)
  | true =>
    obtain ⟨other, there, isActive, same⟩ := held
    exact consistent.ids there at' isActive active (same.trans (own active).symm)

theorem emptied_consistent (at' : session.graphicsSurfaces[i]? = some surface)
    (own : surface.active = true → surface.surfaceId = surfaceId) :
    ∃ cleared : GraphicsSession,
      (if surface.active then progressiveTilesClearSurface surfaceId session else session) = cleared ∧
      cleared.graphicsSurfaces = session.graphicsSurfaces ∧ cleared.limits = session.limits ∧
      { cleared with graphicsSurfaces := session.graphicsSurfaces.set i {} }.Consistent := by
  refine ⟨_, rfl, ?_⟩
  cases active : surface.active with
  | false =>
    refine ⟨rfl, rfl, consistent.dropSurface at' fun was => ?_⟩
    rw [active] at was
    cases was
  | true =>
    have cleared := consistent.clearTiles
      fun entry => entry.active && entry.surfaceId == surfaceId
    refine ⟨rfl, rfl, cleared.dropSurface at' fun _ j tile held isActive same => ?_⟩
    change (session.progressiveTiles.map _)[j]? = some tile at held
    rw [List.getElem?_map] at held
    obtain ⟨before, -, rfl⟩ := Option.map_eq_some_iff.mp held
    split at isActive
    · cases isActive
    rename_i spared
    rw [if_neg spared, own active] at same
    exact spared (by simp [isActive, same])

omit consistent in
theorem createdSurface_good {create : CreateSurface} {limits : GraphicsLimits}
    (shape : ¬ (create.width == 0 || create.height == 0 ||
      decide (graphicsSurfaceMaxDimension < create.width.toNat) ||
      decide (graphicsSurfaceMaxDimension < create.height.toNat)) = true)
    (allowed : ¬ (decide (limits.surfaceMaxDimension < create.width.toNat) ||
      decide (limits.surfaceMaxDimension < create.height.toNat)) = true) :
    ({ active := true, surfaceId := create.surfaceId, width := create.width
       height := create.height, targetWidth := create.width.toUInt32
       targetHeight := create.height.toUInt32, pixelFormat := create.pixelFormat
       pixels := List.replicate (4 * create.width.toNat * create.height.toNat) 0 } :
      GraphicsSurface).Good limits := by
  simp only [Bool.or_eq_true, beq_iff_eq, decide_eq_true_eq, not_or, Nat.not_lt, ← UInt16.toNat_inj]
    at shape allowed
  obtain ⟨⟨⟨wide, high⟩, maxWide⟩, maxHigh⟩ := shape
  have across : 0 < create.width.toNat := Nat.pos_of_ne_zero wide
  have down : 0 < create.height.toNat := Nat.pos_of_ne_zero high
  refine
    { sized := ⟨across, down, List.length_replicate⟩, max := ⟨maxWide, maxHigh⟩, limit := allowed
      wide := ?_, high := ?_, mapping := nofun }
  · rw [UInt16.toNat_toUInt32]
    exact across
  · rw [UInt16.toNat_toUInt32]
    exact down

theorem graphicsSurfaceCreate_consistent (create : CreateSurface) :
    (graphicsSurfaceCreate create session).2.Consistent := by
  rw [graphicsSurfaceCreate, Effect.get_bind]
  split
  · exact consistent
  rename_i shape
  split
  · exact consistent
  rename_i allowed
  cases found : session.surfaceFindSlot create.surfaceId with
  | none => exact consistent
  | some pair =>
    obtain ⟨i, surface⟩ := pair
    obtain ⟨at', inside, own, -⟩ := surfaceFindSlot_cases found
    obtain ⟨cleared, emptying, surfaces, limits, emptied⟩ :=
      emptied_consistent consistent at' own
    have alone (j : Nat) : ¬ Held j create.surfaceId { session with
        graphicsSurfaces := session.graphicsSurfaces.set i {} } := by
      rintro ⟨other, there, active, same⟩
      obtain ⟨-, rfl, -⟩ | ⟨away, there⟩ := getElem?_set_cases there
      · cases active
      · exact away (surfaceFindSlot_alone consistent found ⟨other, there, active, same⟩)
    simp only [surfaceSet, Effect.modify_bind, emptying, surfaces]
    obtain ⟨-, ran⟩ | ran := reserve_cases
      { cleared with graphicsSurfaces := session.graphicsSurfaces.set i {} }
    · rw [Effect.bind_error ran]
      exact emptied.elsewhere emptied.output _
    · rw [Effect.bind_ok ran]
      rw [← limits] at inside allowed
      exact (emptied.elsewhere emptied.output _).addSurface (getElem?_set_held at') rfl inside
        (createdSurface_good shape allowed) alone

theorem graphicsSurfaceDelete_consistent (surfaceId : UInt16) :
    (graphicsSurfaceDelete surfaceId session).2.Consistent := by
  rw [graphicsSurfaceDelete, Effect.get_bind]
  cases found : session.surfaceFind surfaceId with
  | none => exact consistent
  | some pair =>
    obtain ⟨i, surface⟩ := pair
    obtain ⟨surface', at', active, own⟩ := surfaceFind_there found
    obtain ⟨cleared, emptying, -, -, emptied⟩ := emptied_consistent consistent at' fun _ => own
    rw [active] at emptying
    cases emptying
    exact emptied

theorem graphicsSurfaceMap_consistent (map : MapSurfaceToOutput) :
    (graphicsSurfaceMap map session).2.Consistent := by
  refine (kept_found consistent fun i held => ?_).consistent
  obtain ⟨surface, at', active, -, good⟩ := consistent.good held
  rw [Effect.bind_ok (surfaceAt_held at')]
  have wide : surface.width.toUInt32.toNat = surface.width.toNat := UInt16.toNat_toUInt32 _
  have high : surface.height.toUInt32.toNat = surface.height.toNat := UInt16.toNat_toUInt32 _
  have across : 0 < surface.width.toUInt32.toNat := wide ▸ good.sized.wide
  have down : 0 < surface.height.toUInt32.toNat := high ▸ good.sized.high
  refine consistent.rewritten at' active active ⟨rfl, rfl⟩
    { sized := { good.sized with }, max := good.max, limit := good.limit, wide := across
      high := down, mapping := fun _ => ?_ }
  exact
    { active := active, sized := { good.sized with }, mapped := rfl, wide := across, high := down
      max := by rw [wide, high]; exact good.max
      limit := by rw [wide, high]; exact good.limit
      scaled := by simp }

def GraphicsSurface.mappedTo (surface : GraphicsSurface) (map : MapSurfaceToScaledOutput) :
    GraphicsSurface :=
  { surface with
    mapped := true, outputOriginX := map.outputOriginX, outputOriginY := map.outputOriginY
    targetWidth := map.targetWidth, targetHeight := map.targetHeight
    scaled := map.targetWidth != surface.width.toUInt32 ||
      map.targetHeight != surface.height.toUInt32 }

theorem graphicsSurfaceMapScaled_consistent (map : MapSurfaceToScaledOutput) :
    (graphicsSurfaceMapScaled map session).2.Consistent := by
  rw [graphicsSurfaceMapScaled, Effect.get_bind]
  split
  · exact consistent
  rename_i shape
  split
  · exact consistent
  rename_i allowed
  refine (kept_found consistent fun i held => ?_).consistent
  obtain ⟨surface, at', active, -, good⟩ := consistent.good held
  simp only [Bool.or_eq_true, beq_iff_eq, decide_eq_true_eq, not_or, Nat.not_lt,
    ← UInt32.toNat_inj] at shape allowed
  obtain ⟨⟨⟨wide, high⟩, maxWide⟩, maxHigh⟩ := shape
  have across : 0 < map.targetWidth.toNat := Nat.pos_of_ne_zero wide
  have down : 0 < map.targetHeight.toNat := Nat.pos_of_ne_zero high
  have mapped : (surface.mappedTo map).Mapped session.limits :=
    { active := active, sized := { good.sized with }, mapped := rfl, wide := across, high := down
      max := ⟨maxWide, maxHigh⟩, limit := allowed, scaled := rfl }
  have first : Kept session { session with
      graphicsSurfaces := session.graphicsSurfaces.set i (surface.mappedTo map) } :=
    consistent.rewritten at' active active ⟨rfl, rfl⟩
      { sized := mapped.sized, max := good.max, limit := good.limit, wide := across
        high := down, mapping := fun _ => mapped }
  have there := @getElem?_set_held _ _ _ _ (surface.mappedTo map) at'
  rw [Effect.bind_ok (surfaceAt_held at')]
  exact (first.trans
    (surfaceFlush_kept first.consistent there active mapped.sized.whole).1)

omit consistent in
theorem surfaceRows_ok (good : surface.Sized) {rect : Rect16}
    (inside : ¬ (surface.width < rect.right || surface.height < rect.bottom ||
      rect.right ≤ rect.left || rect.bottom ≤ rect.top) = true) :
    ∃ rows, surfaceRows surface rect = .ok rows ∧
      rows.flatten.length = rect.height * (rect.width * 4) := by
  simp only [Bool.or_eq_true, decide_eq_true_eq, not_or, Nat.not_lt, Nat.not_le,
    UInt16.le_iff_toNat_le, UInt16.lt_iff_toNat_lt] at inside
  obtain ⟨⟨⟨wide, high⟩, across⟩, down⟩ := inside
  have fit : RowsFit surface.pixels.length
      (rect.top.toNat * (surface.width.toNat * 4) + rect.left.toNat * 4) (surface.width.toNat * 4)
      (rect.width * 4) rect.height := by
    rw [good.length]
    apply rowsFit_inside
    · rw [Rect16.width]
      omega
    · rw [Rect16.height]
      omega
  obtain ⟨rows, read, many, lengths⟩ := readRows_ok fit
  refine ⟨rows, ?_, ?_⟩
  · rw [surfaceRows]
    change checked (readRows surface.pixels _ _ (rect.width * 4) rect.height) = _
    rw [read]
    rfl
  · rw [flatten_rows_length lengths, many]

theorem surfaceCopy_kept {source dest : Nat} {sourceId destId : UInt16}
    (heldSource : Held source sourceId session) (heldDest : Held dest destId session)
    (rect : Rect16) (point : Point16) :
    Kept session (surfaceCopy source dest rect point session).2 := by
  obtain ⟨src, atSource, activeSource, -, goodSource⟩ := consistent.good heldSource
  obtain ⟨dst, atDest, activeDest, -, -⟩ := consistent.good heldDest
  rw [surfaceCopy, Effect.bind_ok (surfaceAt_held atSource), Effect.bind_ok (surfaceAt_held atDest)]
  simp only [activeSource, activeDest, Bool.not_true, Bool.or_self, Bool.false_eq_true, if_false]
  split
  · exact consistent.kept
  rename_i inside
  split
  · exact consistent.kept
  obtain ⟨rows, read, length⟩ := surfaceRows_ok goodSource.sized inside
  refine kept_bind (reserve_kept consistent) fun _ middle ran => ?_
  have kept := reserve_kept consistent
  rw [ran] at kept
  rw [read, Effect.lift_ok_bind]
  refine (surfaceWriteBgra_tries kept.consistent (kept.held heldDest) ?_ false).1
  rw [length]
  exact rowsFit_packed (rect.width * 4) rect.height

theorem cacheCopyToSurface_kept (held : Held i surfaceId session) {cache : GraphicsCacheEntry}
    (whole : cache.pixels.length = 4 * cache.width.toNat * cache.height.toNat) (point : Point16) :
    Kept session (cacheCopyToSurface cache i point session).2 := by
  obtain ⟨surface, at', active, -, -⟩ := consistent.good held
  rw [cacheCopyToSurface, Effect.bind_ok (surfaceAt_held at')]
  split
  · exact consistent.kept
  split
  · exact consistent.kept
  refine (surfaceWriteBgra_tries consistent held ?_ false).1
  rw [whole, Nat.mul_comm 4, Nat.mul_comm]
  exact rowsFit_packed (cache.width.toNat * 4) cache.height.toNat

theorem surfaceWriteWire_kept (held : Held i surfaceId session) (wire : WireToSurface1) :
    Kept session (surfaceWriteWire i wire session).2 := by
  unfold surfaceWriteWire
  split
  · exact consistent.kept
  dsimp only
  split
  · exact consistent.kept
  rename_i length
  refine (surfaceWriteBgra_tries consistent held ?_ _).1
  rw [not_not.mp length, Nat.mul_right_comm, Nat.mul_comm]
  exact rowsFit_packed (wire.destRect.width * 4) wire.destRect.height

theorem cacheFill_kept {order : SurfaceToCache} {surface : GraphicsSurface} (good : surface.Sized)
    {entry : GraphicsCacheEntry}
    (held : session.graphicsCache[order.cacheSlot.toNat]? = some entry)
    (inside : ¬ (surface.width < order.rectSrc.right || surface.height < order.rectSrc.bottom ||
      order.rectSrc.right ≤ order.rectSrc.left || order.rectSrc.bottom ≤ order.rectSrc.top) = true)
    {rest : Nat} (counted : rest + entry.bytes = session.graphicsCacheBytes)
    (room : rest + order.rectSrc.width * order.rectSrc.height * 4 ≤ graphicsCacheMaxBytes) :
    Kept session (cacheFill order surface rest
      (order.rectSrc.width * order.rectSrc.height * 4) session).2 := by
  obtain ⟨rows, read, length⟩ := surfaceRows_ok good inside
  have size : order.rectSrc.height * (order.rectSrc.width * 4) =
      order.rectSrc.width * order.rectSrc.height * 4 := by
    rw [← Nat.mul_assoc, Nat.mul_comm order.rectSrc.height]
  simp only [Bool.or_eq_true, decide_eq_true_eq, not_or, Nat.not_lt, Nat.not_le,
    UInt16.le_iff_toNat_le, UInt16.lt_iff_toNat_lt] at inside
  have wide : (order.rectSrc.right - order.rectSrc.left).toNat = order.rectSrc.width :=
    UInt16.toNat_sub_of_le _ _ (UInt16.le_iff_toNat_le.mpr inside.1.2.le)
  have high : (order.rectSrc.bottom - order.rectSrc.top).toNat = order.rectSrc.height :=
    UInt16.toNat_sub_of_le _ _ (UInt16.le_iff_toNat_le.mpr inside.2.le)
  refine kept_bind (reserve_kept consistent) fun _ middle ran => ?_
  have kept := reserve_kept consistent
  rw [ran] at kept
  rw [read, Effect.lift_ok_bind]
  have same : middle.graphicsCache = session.graphicsCache ∧
      middle.graphicsCacheBytes = session.graphicsCacheBytes := by
    obtain ⟨-, ran'⟩ | ran' := reserve_cases session
    · rw [ran'] at ran
      cases congrArg Prod.fst ran
    · rw [ran'] at ran
      cases ran
      exact ⟨rfl, rfl⟩
  refine ⟨kept.consistent.setEntry (same.1 ▸ held) ?_ ?_ room, id, fun _ => rfl⟩
  · refine fun _ => ⟨wide ▸ Nat.sub_pos_of_lt inside.1.2, high ▸ Nat.sub_pos_of_lt inside.2, ?_⟩
    change rows.flatten.length = 4 * (order.rectSrc.right - order.rectSrc.left).toNat *
      (order.rectSrc.bottom - order.rectSrc.top).toNat
    rw [wide, high, length, size, Nat.mul_comm, Nat.mul_assoc]
  · change rest + _ + entry.bytes = middle.graphicsCacheBytes + rows.flatten.length
    rw [same.2, length, size]
    omega

theorem graphicsCacheStore_kept (order : SurfaceToCache) :
    Kept session (graphicsCacheStore order session).2 := by
  unfold graphicsCacheStore
  split
  · exact consistent.kept
  rename_i few
  refine kept_found consistent fun i held => ?_
  obtain ⟨surface, at', -, -, good⟩ := consistent.good held
  rw [Effect.bind_ok (surfaceAt_held at')]
  dsimp only
  split
  · exact consistent.kept
  rename_i inside
  obtain ⟨entry, there⟩ : ∃ entry, session.graphicsCache[order.cacheSlot.toNat]? = some entry :=
    ⟨_, List.getElem?_eq_getElem (consistent.slots ▸ Nat.not_le.mp few)⟩
  rw [Effect.get_bind, there]
  dsimp only
  have old : (if entry.active then entry.pixels.length else 0) = entry.bytes := rfl
  have most := consistent.entry_le there
  rw [old, if_pos most]
  split
  · exact consistent.kept
  rename_i room
  rw [not_or, Nat.not_lt, Nat.not_lt] at room
  exact cacheFill_kept consistent good.sized there inside (Nat.sub_add_cancel most)
    (Nat.le_sub_iff_add_le (by exact room.1) |>.mp room.2)

theorem graphicsCacheEvict_consistent (cacheSlot : UInt16) :
    (graphicsCacheEvict cacheSlot session).Consistent := by
  unfold graphicsCacheEvict
  split
  · exact consistent
  rename_i entry there
  have most := consistent.entry_le there
  have cap := consistent.most
  refine consistent.setEntry there nofun ?_ ?_
  · change (if !entry.active then _ else _) + entry.bytes = session.graphicsCacheBytes + 0
    unfold GraphicsCacheEntry.bytes at most ⊢
    cases active : entry.active with
    | false => rfl
    | true =>
      rw [active] at most
      simp only [if_true] at most
      simp only [Bool.not_true, Bool.false_eq_true, if_false, if_true, if_pos most]
      omega
  · split
    · exact cap
    · split
      · omega
      · exact Nat.zero_le _

theorem graphicsCacheClear_consistent : (graphicsCacheClear session).Consistent := by
  have empty : weight GraphicsCacheEntry.bytes (List.replicate graphicsCacheSlots {}) = 0 :=
    weight_replicate graphicsCacheSlots rfl
  have length : (List.replicate graphicsCacheSlots ({} : GraphicsCacheEntry)).length =
      graphicsCacheSlots := List.length_replicate
  have entries : Every (fun entry : GraphicsCacheEntry => entry.active = true → entry.Good)
      (List.replicate graphicsCacheSlots {}) := every_replicate graphicsCacheSlots nofun
  unfold graphicsCacheClear
  generalize List.replicate graphicsCacheSlots ({} : GraphicsCacheEntry) = cleared at *
  exact { consistent with
    entries := entries
    slots := length
    bytes := empty.symm
    most := Nat.zero_le graphicsCacheMaxBytes }

theorem graphicsSurfacesClear_consistent : (graphicsSurfacesClear session).Consistent :=
  { consistent with
    surfaces := every_replicate _ nofun
    ids := distinct_replicate _ rfl
    within := by
      intro i surface held active
      rw [List.eq_of_mem_replicate (List.mem_of_getElem? held)] at active
      cases active
    tiles := every_replicate _ nofun
    keys := distinct_replicate _ rfl
    states := List.length_replicate
    pictures := every_replicate _ nofun }

theorem surfaceResize_kept (width height : Nat) :
    Kept session (surfaceResize width height session).2 := by
  rw [surfaceResize, Effect.get_bind]
  split
  · exact consistent.kept
  split
  · exact consistent.kept
  refine kept_bind (reserve_kept consistent) fun _ middle ran => ?_
  have kept := reserve_kept consistent
  rw [ran] at kept
  have sized : ({ middle.surface with
      width, height, pixels := List.replicate (4 * width * height) 0 } : OutputSurface).Sized :=
    List.length_replicate
  exact kept.consistent.shown sized middle.memory

theorem handleReset_consistent (width height : UInt32) :
    (handleReset width height session).2.Consistent := by
  have fresh : { session with graphicsCurrentFrameId := 0 }.Consistent :=
    consistent.elsewhere consistent.output session.memory
  have cleared := graphicsSurfacesClear_consistent fresh
  rw [handleReset, Effect.modify_bind, Effect.get_bind]
  split
  · exact (surfaceResize_kept cleared _ _).consistent
  · exact cleared

theorem handleSolidFill_kept (fill : SolidFill) :
    Kept session (handleSolidFill fill session).2 := by
  refine kept_found consistent fun i held => kept_forM consistent fun index _ later kept => ?_
  exact kept_lift kept.consistent fun rect =>
    surfaceFill_kept kept.consistent (kept.held held) rect fill.fillPixel

theorem forPoints_kept (count : UInt16) (points : Bytes) {copy : Point16 → GraphicsEffect Unit}
    (draws : ∀ later, Kept session later → ∀ point, Kept later (copy point later).2) :
    Kept session (forPoints count points copy session).2 :=
  kept_forM consistent fun _ _ later kept => kept_lift kept.consistent (draws later kept)

theorem handleSurfaceToSurface_kept (order : SurfaceToSurface) :
    Kept session (handleSurfaceToSurface order session).2 :=
  kept_found consistent fun _ source => kept_found consistent fun _ dest =>
    forPoints_kept consistent _ _ fun _ kept point =>
      surfaceCopy_kept kept.consistent (kept.held source) (kept.held dest) order.rectSrc point

theorem handleCacheToSurface_kept (order : CacheToSurface) :
    Kept session (handleCacheToSurface order session).2 := by
  rw [handleCacheToSurface, Effect.get_bind]
  cases found : session.cacheFind order.cacheSlot with
  | none => exact consistent.kept
  | some cache =>
    obtain ⟨there, active⟩ := Option.filter_eq_some_iff.mp found
    exact kept_found consistent fun _ held => forPoints_kept consistent _ _ fun _ kept point =>
      cacheCopyToSurface_kept kept.consistent (kept.held held) (consistent.entries there active).whole
        point

theorem handleUncompressed_kept (wire : WireToSurface1) :
    Kept session (handleUncompressed wire session).2 :=
  kept_found consistent fun _ held => surfaceWriteWire_kept consistent held wire

end Commands

end LibRdp.Client
