import LibRdp.Client.GraphicsAlpha

/-! # Scaled output that is drawn part by part

A surface that is mapped to a target of another size is shown as a whole once, and after that only
the parts that are drawn on are shown again. Every pixel of the output whose source is in such a part
is within the part's edges rounded outwards, so that at any time all of the target shows what
the surface holds.
-/

namespace LibRdp.Client

open Graphics Machine Coding

section Places

variable {surface : GraphicsSurface}

def GraphicsSurface.Targets (surface : GraphicsSurface) (x y : Nat) : Prop :=
  surface.outputOriginX.toNat ≤ x ∧
  x < surface.outputOriginX.toNat + surface.targetWidth.toNat ∧
  surface.outputOriginY.toNat ≤ y ∧
  y < surface.outputOriginY.toNat + surface.targetHeight.toNat

instance (surface : GraphicsSurface) (x y : Nat) : Decidable (surface.Targets x y) := by
  unfold GraphicsSurface.Targets
  infer_instance

def SurfacePart.Contains (part : SurfacePart surface) (x y : Nat) : Prop :=
  part.left ≤ x ∧ x < part.right ∧ part.top ≤ y ∧ y < part.bottom

theorem SurfacePart.Covers.targets {part : SurfacePart surface} {x y : Nat}
    (covers : part.Covers x y) (sized : surface.Sized) : surface.Targets x y := by
  obtain ⟨⟨afterX, beforeX⟩, afterY, beforeY⟩ := covers.scaled sized
  unfold GraphicsSurface.Targets
  omega

theorem between_of_source {rel size target start stop : Nat} (some : 0 < size) (wide : 0 < target)
    (after : start ≤ rel * size / target) (before : rel * size / target < stop) :
    start * target / size ≤ rel ∧ rel < (stop * target + size - 1) / size := by
  rw [Nat.le_div_iff_mul_le wide] at after
  rw [Nat.div_lt_iff_lt_mul wide] at before
  constructor
  · apply Nat.div_le_of_le_mul
    rw [Nat.mul_comm size]
    exact after
  · apply Nat.lt_of_succ_le
    rw [Nat.le_div_iff_mul_le some, Nat.succ_mul]
    omega

theorem SurfacePart.covers_of_source (part : SurfacePart surface) (sized : surface.Sized)
    (wide : 0 < surface.targetWidth.toNat) (high : 0 < surface.targetHeight.toNat) {x y : Nat}
    (targets : surface.Targets x y)
    (source : part.Contains
      ((x - surface.outputOriginX.toNat) * surface.width.toNat / surface.targetWidth.toNat)
      ((y - surface.outputOriginY.toNat) * surface.height.toNat / surface.targetHeight.toNat)) :
    part.Covers x y := by
  obtain ⟨afterX, beforeX, afterY, beforeY⟩ := source
  obtain ⟨originX, -, originY, -⟩ := targets
  have acrossX := between_of_source sized.wide wide afterX beforeX
  have downY := between_of_source sized.high high afterY beforeY
  unfold SurfacePart.Covers
  dsimp only
  omega

def GraphicsSurface.Sized.whole (sized : surface.Sized) : SurfacePart surface where
  left := 0
  top := 0
  right := surface.width.toNat
  bottom := surface.height.toNat
  across := sized.wide
  down := sized.high
  wide := Nat.le_refl _
  high := Nat.le_refl _

theorem whole_covers_iff (sized : surface.Sized) {x y : Nat} :
    sized.whole.Covers x y ↔ surface.Targets x y := by
  have up {target size : Nat} (some : 0 < size) : (size * target + size - 1) / size = target := by
    rw [Nat.add_sub_assoc some, Nat.mul_add_div some, Nat.div_eq_of_lt (by omega), Nat.add_zero]
  simp only [SurfacePart.Covers, GraphicsSurface.Targets, GraphicsSurface.Sized.whole, Nat.zero_mul,
    Nat.zero_div, Nat.add_zero, up sized.wide, up sized.high]

def SurfacePart.repainted (part : SurfacePart surface) (pixels : Bytes) :
    SurfacePart { surface with pixels } :=
  { part with }

end Places

/-- A call of `rdp_session_graphics_surface_fill` or `rdp_session_graphics_surface_write_bgra`. -/
inductive SurfaceCall where
  | fill (rect : Rect16) (fillPixel : UInt32)
  | writeBgra (x y width height : UInt16) (pixels : Bytes) (start stride : Nat)
      (forceOpaque : Bool)

def SurfaceCall.run (i : Nat) : SurfaceCall → GraphicsEffect Unit
  | .fill rect fillPixel => surfaceFill i rect fillPixel
  | .writeBgra x y width height pixels start stride forceOpaque =>
      surfaceWriteBgra i x.toNat y.toNat width.toNat height.toNat pixels start stride forceOpaque

def SurfaceCall.Backed : SurfaceCall → Prop
  | .fill _ _ => True
  | .writeBgra _ _ width height pixels start stride _ =>
      RowsFit pixels.length start stride (width.toNat * 4) height.toNat

inductive Draws (i : Nat) (session : GraphicsSession) (surface : GraphicsSurface) :
    Except Stop Unit × GraphicsSession → Prop where
  | nothing (result : Except Stop Unit) : Draws i session surface (result, session)
  | drawn (part : SurfacePart surface) {next : Bytes} (length : next.length = surface.pixels.length)
      (kept : ∀ x < surface.width.toNat, ∀ y, ∀ byte < 4, ¬ part.Contains x y →
        pixelCell 4 surface.width.toNat next x y byte = surface.byteAt x y byte) :
      Draws i session surface (surfaceFlush i part.left part.top part.right part.bottom
        (session.drawn i surface next))

section Calls

variable {session : GraphicsSession} {surface : GraphicsSurface} {i : Nat}

variable (held : session.graphicsSurfaces[i]? = some surface)
include held

theorem surfaceDraw_drawn (sized : surface.Sized) (part : SurfacePart surface) {rows : List Bytes}
    (many : rows.length = part.bottom - part.top)
    (lengths : ∀ row ∈ rows, row.length = (part.right - part.left) * 4) :
    ∃ next, surfaceDraw i part.left part.top rows session = (.ok (), session.drawn i surface next) ∧
      next.length = surface.pixels.length ∧
      ∀ x < surface.width.toNat, ∀ y, ∀ byte < 4,
        pixelCell 4 surface.width.toNat next x y byte =
          if part.left ≤ x ∧ x < part.right ∧ part.top ≤ y ∧ y < part.bottom then
            rows[y - part.top]?.bind (·[(x - part.left) * 4 + byte]?)
          else surface.byteAt x y byte := by
  obtain ⟨left, top, right, bottom, across, down, wide, high⟩ := part
  dsimp only at many lengths ⊢
  have spans : left + (right - left) ≤ surface.width.toNat := by omega
  have reaches : top + (bottom - top) ≤ surface.height.toNat := by omega
  have fit : RowsFit surface.pixels.length (top * (surface.width.toNat * 4) + left * 4)
      (surface.width.toNat * 4) ((right - left) * 4) rows.length := by
    rw [sized.length, many]
    exact rowsFit_inside spans reaches
  obtain ⟨next, wrote, length⟩ := writeRows_ok lengths fit
  refine ⟨next, ?_, length, ?_⟩
  · rw [surfaceDraw, Effect.bind_ok (surfaceAt_held held), wrote]
    rfl
  · intro x inside y byte small
    rw [writeRows_pixelCell lengths wrote spans inside small, many, Nat.add_sub_cancel' across.le,
      Nat.add_sub_cancel' down.le]
    rfl

theorem Draws.of_rows (sized : surface.Sized) (part : SurfacePart surface) {rows : List Bytes}
    (many : rows.length = part.bottom - part.top)
    (lengths : ∀ row ∈ rows, row.length = (part.right - part.left) * 4) :
    Draws i session surface ((do
      surfaceDraw i part.left part.top rows
      surfaceFlush i part.left part.top part.right part.bottom) session) := by
  obtain ⟨next, drawn, length, shown⟩ := surfaceDraw_drawn held sized part many lengths
  rw [Effect.bind_ok drawn]
  refine .drawn part length fun x inside y byte small away => ?_
  rw [shown x inside y byte small]
  exact if_neg away

theorem surfaceFill_draws (active : surface.active = true) (sized : surface.Sized) (rect : Rect16)
    (fillPixel : UInt32) : Draws i session surface (surfaceFill i rect fillPixel session) := by
  rw [surfaceFill, Effect.bind_ok (surfaceAt_held held), active]
  simp only [Bool.not_true, Bool.false_eq_true, if_false]
  split
  · exact .nothing _
  rename_i inside
  split
  · exact .nothing _
  rename_i some
  simp only [Bool.or_eq_true, decide_eq_true_eq, not_or, UInt16.le_iff_toNat_le,
    UInt16.lt_iff_toNat_lt, Nat.not_le, Nat.not_lt] at inside some
  let part : SurfacePart surface :=
    ⟨rect.left.toNat, rect.top.toNat, rect.right.toNat, rect.bottom.toNat, some.1, some.2,
      inside.1, inside.2⟩
  apply Draws.of_rows held sized part
  · exact List.length_replicate
  · intro row here
    rw [List.eq_of_mem_replicate here]
    have pixels := @flatten_rows_length UInt8 (List.replicate (rect.right.toNat - rect.left.toNat)
      [fillPixel.toUInt8, (fillPixel >>> 8).toUInt8, (fillPixel >>> 16).toUInt8,
        if surface.pixelFormat == graphicsPixelFormatArgb8888 then (fillPixel >>> 24).toUInt8
        else 0xff]) 4 fun pixel held => by rw [List.eq_of_mem_replicate held]; rfl
    rw [List.length_replicate] at pixels
    exact pixels

theorem surfaceWriteBgra_draws (active : surface.active = true) (sized : surface.Sized)
    {x y width height start stride : Nat} {pixels : Bytes}
    (fit : RowsFit pixels.length start stride (width * 4) height) (forceOpaque : Bool) :
    Draws i session surface
      (surfaceWriteBgra i x y width height pixels start stride forceOpaque session) := by
  rw [surfaceWriteBgra, Effect.bind_ok (surfaceAt_held held), active]
  simp only [Bool.not_true, Bool.false_eq_true, if_false]
  split
  · exact .nothing _
  rename_i some
  split
  · exact .nothing _
  rename_i inside
  obtain ⟨rows, read, many, lengths⟩ := readRows_ok fit
  let part : SurfacePart surface :=
    ⟨x, y, x + width, y + height, by omega, by omega, by omega, by omega⟩
  rw [read, checked, Effect.lift_ok_bind]
  have high : y + height - y = height := Nat.add_sub_cancel_left ..
  have wide : x + width - x = width := Nat.add_sub_cancel_left ..
  cases forceOpaque with
  | false =>
    apply Draws.of_rows held sized part
    · exact many.trans high.symm
    · intro row here
      exact (lengths row here).trans (congrArg (· * 4) wide.symm)
  | true =>
    apply Draws.of_rows held sized part
    · exact (List.length_map _).trans (many.trans high.symm)
    · intro row here
      obtain ⟨row', here', rfl⟩ := List.mem_map.mp here
      rw [opaqueRow, List.length_mapIdx]
      exact (lengths row' here').trans (congrArg (· * 4) wide.symm)

theorem SurfaceCall.draws (active : surface.active = true) (sized : surface.Sized)
    {call : SurfaceCall} (backed : call.Backed) : Draws i session surface (call.run i session) := by
  cases call with
  | fill rect fillPixel => exact surfaceFill_draws held active sized rect fillPixel
  | writeBgra => exact surfaceWriteBgra_draws held active sized backed _

end Calls

inductive Drawn (i : Nat) : GraphicsSession → List SurfaceCall → GraphicsSession → Prop where
  | nil {session : GraphicsSession} : Drawn i session [] session
  | cons {session last : GraphicsSession} {call : SurfaceCall} {calls : List SurfaceCall}
      (served : (call.run i session).1 ≠ .error (.returned .noMemory))
      (later : Drawn i (call.run i session).2 calls last) : Drawn i session (call :: calls) last

structure Mirrors (first : OutputSurface) (map : MapSurfaceToScaledOutput) (i : Nat)
    (session : GraphicsSession) (surface : GraphicsSurface) : Prop where
  held : session.graphicsSurfaces[i]? = some surface
  mapped : surface.Mapped session.limits
  origin : surface.outputOriginX = map.outputOriginX ∧ surface.outputOriginY = map.outputOriginY
  target : surface.targetWidth = map.targetWidth ∧ surface.targetHeight = map.targetHeight
  sized : session.surface.Sized
  width : session.surface.width = first.width
  height : session.surface.height = first.height
  hidden : session.surface.mapped = true → ∀ x < first.width, ∀ y < first.height,
    ¬ surface.Targets x y
  shown : ∀ x < first.width, ∀ y < first.height, ∀ byte < 4,
    session.surface.byteAt x y byte =
      if surface.Targets x y then surface.sample x y byte else first.byteAt x y byte

section Runs

variable {session : GraphicsSession} {surface : GraphicsSurface} {i : Nat} {first : OutputSurface}
  {map : MapSurfaceToScaledOutput}

theorem Mirrors.drawn (mirrors : Mirrors first map i session surface) (part : SurfacePart surface)
    {next : Bytes} (length : next.length = surface.pixels.length)
    (kept : ∀ x < surface.width.toNat, ∀ y, ∀ byte < 4, ¬ part.Contains x y →
      pixelCell 4 surface.width.toNat next x y byte = surface.byteAt x y byte)
    {ending : Except Stop Unit × GraphicsSession}
    (ends : FlushEnds (session.drawn i surface next) (part.repainted next) ending)
    (served : ending.1 ≠ .error (.returned .noMemory)) :
    Mirrors first map i ending.2 { surface with pixels := next } := by
  have mapped := mirrors.mapped
  have sized := mapped.sized
  cases ends with
  | noMemory => exact absurd rfl served
  | @locked _ x y locked across down covers =>
    rw [GraphicsSession.drawn] at across down locked
    rw [mirrors.width] at across
    rw [mirrors.height] at down
    have targets : surface.Targets x y := @SurfacePart.Covers.targets surface part x y covers sized
    exact absurd targets (mirrors.hidden locked x across y down)
  | @shown output memory shows hidden =>
    obtain ⟨width, height, locked, fits, shown⟩ := shows
    refine
      { held := drawn_held mirrors.held next
        mapped := { mapped with sized := { sized with length := length.trans sized.length } }
        origin := mirrors.origin, target := mirrors.target, sized := fits
        width := width.trans mirrors.width, height := height.trans mirrors.height
        hidden := fun same => mirrors.hidden (locked.symm.trans same)
        shown := ?_ }
    intro x across y down byte small
    rw [← mirrors.width] at across
    rw [← mirrors.height] at down
    have here := shown x y byte across down small
    have before := mirrors.shown x (mirrors.width ▸ across) y (mirrors.height ▸ down) byte small
    change output.byteAt x y byte = if surface.Targets x y then _ else _
    rw [here]
    by_cases covers : part.Covers x y
    · have targets := covers.targets sized
      rw [if_pos targets]
      exact if_pos covers
    have old : (session.drawn i surface next).surface.byteAt x y byte =
        if surface.Targets x y then surface.sample x y byte else first.byteAt x y byte := before
    rw [if_neg (by exact covers), old]
    by_cases targets : surface.Targets x y
    · rw [if_pos targets, if_pos targets]
      have away : ¬ part.Contains _ _ := fun source =>
        covers (part.covers_of_source sized mapped.wide mapped.high targets source)
      obtain ⟨originX, beforeX, -, -⟩ := targets
      exact (kept _ (scaled_lt (by omega) sized.wide) _ byte small away).symm
    · rw [if_neg targets, if_neg targets]

theorem Mirrors.step (mirrors : Mirrors first map i session surface) {call : SurfaceCall}
    (backed : call.Backed) (served : (call.run i session).1 ≠ .error (.returned .noMemory)) :
    ∃ surface', surface'.width = surface.width ∧ surface'.height = surface.height ∧
      Mirrors first map i (call.run i session).2 surface' := by
  have draws := call.draws mirrors.held mirrors.mapped.active mirrors.mapped.sized backed
  generalize call.run i session = ending at draws served
  cases draws with
  | nothing => exact ⟨surface, rfl, rfl, mirrors⟩
  | @drawn part next length kept =>
    have mapped := mirrors.mapped
    have mapped' : ({ surface with pixels := next } : GraphicsSurface).Mapped session.limits :=
      { mapped with sized := { mapped.sized with length := length.trans mapped.sized.length } }
    have ends := surfaceFlush_ends (drawn_held mirrors.held next) mapped' mirrors.sized
      (part.repainted next)
    exact ⟨{ surface with pixels := next }, rfl, rfl, mirrors.drawn part length kept ends served⟩

theorem Mirrors.run (mirrors : Mirrors first map i session surface) {calls : List SurfaceCall}
    (backed : ∀ call ∈ calls, call.Backed) {last : GraphicsSession}
    (run : Drawn i session calls last) :
    ∃ surface', surface'.width = surface.width ∧ surface'.height = surface.height ∧
      Mirrors first map i last surface' := by
  induction run generalizing surface with
  | nil => exact ⟨surface, rfl, rfl, mirrors⟩
  | cons served _ ih =>
    rw [List.forall_mem_cons] at backed
    obtain ⟨surface', width, height, mirrors'⟩ := mirrors.step backed.1 served
    obtain ⟨surface'', width', height', mirrors''⟩ := ih mirrors' backed.2
    exact ⟨surface'', width'.trans width, height'.trans height, mirrors''⟩

theorem surfaceFind_held {surfaceId : UInt16} (found : session.surfaceFind surfaceId = some (i, surface)) :
    session.graphicsSurfaces[i]? = some surface ∧ surface.active = true := by
  obtain ⟨held, here⟩ := Table.lookup_some found
  rw [Bool.and_eq_true] at here
  rw [List.getElem?_take] at held
  split at held
  · exact ⟨held, here.1⟩
  · cases held

theorem graphicsSurfaceMapScaled_mirrors (sized : session.surface.Sized)
    (found : session.surfaceFind map.surfaceId = some (i, surface)) (whole : surface.Sized)
    {mapped : GraphicsSession} (accepted : graphicsSurfaceMapScaled map session = (.ok (), mapped)) :
    ∃ surface', surface'.width = surface.width ∧ surface'.height = surface.height ∧
      Mirrors session.surface map i mapped surface' := by
  obtain ⟨held, active⟩ := surfaceFind_held found
  rw [graphicsSurfaceMapScaled, Effect.get_bind] at accepted
  split at accepted
  · cases congrArg Prod.fst accepted
  rename_i some
  split at accepted
  · cases congrArg Prod.fst accepted
  rename_i limited
  simp only [Bool.or_eq_true, decide_eq_true_eq, not_or, beq_iff_eq, Nat.not_lt] at some limited
  have found' : surfaceFound map.surfaceId session = (.ok i, session) := by
    simp only [surfaceFound, Effect.get_bind, found, Effect.pure_apply]
  rw [Effect.bind_ok found', Effect.bind_ok (surfaceAt_held held)] at accepted
  let placed : GraphicsSurface :=
    { surface with
      mapped := true, outputOriginX := map.outputOriginX, outputOriginY := map.outputOriginY
      targetWidth := map.targetWidth, targetHeight := map.targetHeight
      scaled := map.targetWidth != surface.width.toUInt32 ||
        map.targetHeight != surface.height.toUInt32 }
  let start : GraphicsSession :=
    { session with graphicsSurfaces := session.graphicsSurfaces.set i placed }
  have flushed : surfaceFlush i 0 0 surface.width.toNat surface.height.toNat start =
      (.ok (), mapped) := accepted
  have held' : start.graphicsSurfaces[i]? = Option.some placed := Table.getElem?_set_held held
  have ready : placed.Mapped session.limits :=
    { active, sized := { whole with }, mapped := rfl
      wide := Nat.pos_of_ne_zero fun none => some.1.1.1 (UInt32.toNat_inj.mp none)
      high := Nat.pos_of_ne_zero fun none => some.1.1.2 (UInt32.toNat_inj.mp none)
      max := ⟨some.1.2, some.2⟩, limit := limited, scaled := rfl }
  have ends := surfaceFlush_ends held' ready sized ready.sized.whole
  change FlushEnds start _ (surfaceFlush i 0 0 surface.width.toNat surface.height.toNat start)
    at ends
  rw [flushed] at ends
  cases ends with
  | @shown output memory shows hidden =>
    refine ⟨placed, rfl, rfl,
      { held := held', mapped := ready, origin := ⟨rfl, rfl⟩, target := ⟨rfl, rfl⟩
        sized := shows.sized, width := shows.width, height := shows.height
        hidden := ?_, shown := ?_ }⟩
    · intro locked x across y down targets
      exact hidden (shows.mapped.symm.trans locked) x across y down
        ((whole_covers_iff ready.sized).mpr targets)
    · intro x across y down byte small
      have here := shows.shown x y byte across down small
      simp only [whole_covers_iff ready.sized] at here
      exact here

/-- After any calls on a surface that is mapped to a target of any size, each of which flushes no more
    than its own rectangle, every pixel of the target that is on the output shows the pixel of the
    surface that its place is scaled back to, and the rest of the output is as it was. -/
theorem scaled_output_complete (sized : session.surface.Sized)
    (found : session.surfaceFind map.surfaceId = some (i, surface)) (whole : surface.Sized)
    {mapped last : GraphicsSession}
    (accepted : graphicsSurfaceMapScaled map session = (.ok (), mapped))
    {calls : List SurfaceCall} (backed : ∀ call ∈ calls, call.Backed)
    (run : Drawn i mapped calls last) :
    ∃ surface', last.graphicsSurfaces[i]? = some surface' ∧ surface'.width = surface.width ∧
      surface'.height = surface.height ∧ last.surface.width = session.surface.width ∧
      last.surface.height = session.surface.height ∧
      (∀ rx < map.targetWidth.toNat, ∀ ry < map.targetHeight.toNat, ∀ byte < 4,
        map.outputOriginX.toNat + rx < session.surface.width →
        map.outputOriginY.toNat + ry < session.surface.height →
        last.surface.byteAt (map.outputOriginX.toNat + rx) (map.outputOriginY.toNat + ry) byte =
          surface'.byteAt (rx * surface.width.toNat / map.targetWidth.toNat)
            (ry * surface.height.toNat / map.targetHeight.toNat) byte) ∧
      ∀ x < session.surface.width, ∀ y < session.surface.height, ∀ byte < 4,
        ¬ (map.outputOriginX.toNat ≤ x ∧
          x < map.outputOriginX.toNat + map.targetWidth.toNat ∧
          map.outputOriginY.toNat ≤ y ∧
          y < map.outputOriginY.toNat + map.targetHeight.toNat) →
        last.surface.byteAt x y byte = session.surface.byteAt x y byte := by
  obtain ⟨surface₀, width₀, height₀, first⟩ :=
    graphicsSurfaceMapScaled_mirrors sized found whole accepted
  obtain ⟨surface', width', height', mirrors⟩ := first.run backed run
  have width := width'.trans width₀
  have height := height'.trans height₀
  have shown := mirrors.shown
  simp only [GraphicsSurface.Targets, GraphicsSurface.sample, mirrors.origin.1, mirrors.origin.2,
    mirrors.target.1, mirrors.target.2, width, height] at shown
  refine ⟨surface', mirrors.held, width, height, mirrors.width, mirrors.height, ?_, ?_⟩
  · intro rx insideX ry insideY byte small across down
    rw [shown _ across _ down byte small, if_pos (by omega), Nat.add_sub_cancel_left,
      Nat.add_sub_cancel_left]
  · intro x across y down byte small outside
    rw [shown x across y down byte small, if_neg outside]

end Runs

def shrunk : MapSurfaceToScaledOutput where
  surfaceId := 1
  outputOriginX := 0
  outputOriginY := 0
  targetWidth := 1
  targetHeight := 1

/-- A session with some answers to its allocations that maps its surface to one pixel. -/
def shrunkSession (memory : List Bool) : Except Stop Unit × GraphicsSession :=
  graphicsSurfaceMapScaled shrunk { twoPixelSession false with memory }

def fillTwo : SurfaceCall := .fill ⟨0, 0, 2, 1⟩ 0x00112233

theorem scaled_output_complete_fill :
    (fillTwo.run 0 (shrunkSession []).2).2.surface.byteAt 0 0 0 = some 0x33 := by
  have run : Drawn 0 (shrunkSession []).2 [fillTwo] (fillTwo.run 0 (shrunkSession []).2).2 :=
    .cons (by decide) .nil
  obtain ⟨surface', held, -, -, -, -, shown, -⟩ :=
    @scaled_output_complete (twoPixelSession false) twoPixels 0 shrunk rfl rfl twoPixels_sized
      (shrunkSession []).2 _ rfl [fillTwo] (by rintro _ (_ | ⟨_, ⟨⟩⟩); exact trivial) run
  have here := shown 0 (by decide) 0 (by decide) 0 (by decide) (by decide) (by decide)
  cases held
  exact here

/-- A call that runs out of memory has drawn on the surface, and the output shows nothing of it. -/
theorem scaled_output_stale_without_memory :
    (twoPixelSession false).surface.Sized ∧ twoPixels.Sized ∧
    (shrunkSession [true, false]).1 = .ok () ∧ fillTwo.Backed ∧
    (fillTwo.run 0 (shrunkSession [true, false]).2).1 = .error (.returned .noMemory) ∧
    (fillTwo.run 0 (shrunkSession [true, false]).2).2.graphicsSurfaces[0]?.bind
      (·.byteAt (0 * 2 / 1) (0 * 1 / 1) 0) = some 0x33 ∧
    (fillTwo.run 0 (shrunkSession [true, false]).2).2.surface.byteAt 0 0 0 = some 0 :=
  ⟨rfl, twoPixels_sized, rfl, trivial, rfl, rfl, rfl⟩

end LibRdp.Client
