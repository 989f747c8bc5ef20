import LibRdp.Client.GraphicsFlush
import LibRdp.Coding.Runs

/-! # The alpha codec

An alpha plane is written into the pixels of a rectangle, byte by byte or in runs. Runs are sent
with lengths of one byte, of two behind an escape, or of four behind two. However a plane is cut
into runs and however these are sent, the surface gets the plane.
-/

namespace LibRdp.Graphics

def Rect16.width (rect : Rect16) : Nat := rect.right.toNat - rect.left.toNat

def Rect16.height (rect : Rect16) : Nat := rect.bottom.toNat - rect.top.toNat

end LibRdp.Graphics

namespace LibRdp.Client

open Graphics Machine Coding

/-- Where the alpha of a pixel is; the pixels of a rectangle are counted row by row. -/
def alphaPlace (surfaceWidth left top width index : Nat) : Nat :=
  (top + index / width) * (surfaceWidth * 4) + (left + index % width) * 4 + 3

/-- The loop of `rdp_session_graphics_surface_alpha_run`. -/
def alphaStore (place : Nat → Nat) (alpha : UInt8) : Nat → Nat → Bytes → Exec Bytes
  | 0, _, pixels => .ok pixels
  | count + 1, index, pixels =>
      if place index < pixels.length then
        alphaStore place alpha count (index + 1) (pixels.set (place index) alpha)
      else .error .outOfBounds

/-- `rdp_session_graphics_surface_alpha_run`; gives the position behind the run. -/
def surfaceAlphaRun (i left top width position total count : Nat) (alpha : UInt8) :
    GraphicsEffect Nat := do
  let room ← .lift (checked (checkedSub total position))
  if count = 0 ∨ room < count then returns .protocolError
  else do
    let surface ← surfaceAt i
    let pixels ← .lift (checked
      (alphaStore (alphaPlace surface.width.toNat left top width) alpha count position
        surface.pixels))
    surfaceSet i { surface with pixels }
    pure (position + count)

def readAlphaRun : Bytes → Attempt ((UInt8 × Nat) × Bytes)
  | alpha :: count :: data =>
      if count = 0xff then
        match data with
        | b0 :: b1 :: data =>
            if u16Le b0 b1 = 0xffff then
              match data with
              | b0 :: b1 :: b2 :: b3 :: data => .ok ((alpha, u32Le b0 b1 b2 b3), data)
              | _ => refuse .protocolError
            else .ok ((alpha, u16Le b0 b1), data)
        | _ => refuse .protocolError
      else .ok ((alpha, count.toNat), data)
  | _ => refuse .protocolError

theorem readAlphaRun_consumes : Coding.Consumes readAlphaRun := by
  intro data run rest read
  unfold readAlphaRun at read
  repeat' split at read
  all_goals cases read
  all_goals simp only [List.length_cons]
  all_goals omega

/-- The loop of `rdp_session_graphics_surface_apply_alpha` over compressed data. -/
def alphaRuns (i left top width total position : Nat) (data : Bytes) : GraphicsEffect Bytes :=
  if position < total then
    match _read : readAlphaRun data with
    | .error stop => .stop stop
    | .ok ((alpha, count), rest) => do
        let position ← surfaceAlphaRun i left top width position total count alpha
        alphaRuns i left top width total position rest
  else pure data
termination_by data.length
decreasing_by exact readAlphaRun_consumes _read

variable {left total position : Nat} {data : Bytes}

variable {i top count : Nat} {alpha : UInt8}

theorem alphaRuns_end {width : Nat} (done : total ≤ position) :
    alphaRuns i left top width total position data = pure data := by
  rw [alphaRuns, if_neg (Nat.not_lt.mpr done)]

theorem alphaRuns_run {width : Nat} {rest : Bytes} (more : position < total)
    (read : readAlphaRun data = .ok ((alpha, count), rest)) :
    alphaRuns i left top width total position data = (do
      let position ← surfaceAlphaRun i left top width position total count alpha
      alphaRuns i left top width total position rest) := by
  rw [alphaRuns, if_pos more]
  split
  · rename_i failed
    rw [read] at failed
    cases failed
  rename_i read'
  rw [read] at read'
  cases read'
  rfl

theorem alphaRuns_stop {width : Nat} {stop : Stop} (more : position < total)
    (failed : readAlphaRun data = .error stop) :
    alphaRuns i left top width total position data = .stop stop := by
  rw [alphaRuns, if_pos more]
  split
  · rename_i failed'
    rw [failed] at failed'
    cases failed'
    rfl
  rename_i read
  rw [failed] at read
  cases read

def alphaBytes (i left top width total : Nat) : Nat → Bytes → GraphicsEffect Unit
  | _, [] => pure ()
  | position, alpha :: data => do
      let position ← surfaceAlphaRun i left top width position total 1 alpha
      alphaBytes i left top width total position data

def alphaSignature : Nat := 0x414c

/-- `rdp_session_graphics_surface_apply_alpha`. -/
def surfaceApplyAlpha (i : Nat) (wire : WireToSurface1) : GraphicsEffect Unit := do
  let surface ← surfaceAt i
  let rect := wire.destRect
  if rect.right ≤ rect.left || rect.bottom ≤ rect.top || surface.width < rect.right ||
      surface.height < rect.bottom then
    returns .protocolError
  else
    let left := rect.left.toNat
    let top := rect.top.toNat
    let width := rect.right.toNat - left
    let height := rect.bottom.toNat - top
    let total := width * height
    match wire.bitmapData with
    | s0 :: s1 :: c0 :: c1 :: data =>
        if 0xffffffff / height < width then returns .protocolError
        else if u16Le s0 s1 ≠ alphaSignature then returns .protocolError
        else do
          if u16Le c0 c1 = 0 then
            if data.length ≠ total then returns .protocolError
            else alphaBytes i left top width total 0 data
          else do
            let rest ← alphaRuns i left top width total 0 data
            if rest ≠ [] then returns .protocolError else pure ()
          surfaceFlush i left top rect.right.toNat rect.bottom.toNat
    | _ => returns .protocolError

def GraphicsSession.drawn (session : GraphicsSession) (i : Nat) (surface : GraphicsSurface)
    (pixels : Bytes) : GraphicsSession :=
  { session with graphicsSurfaces := session.graphicsSurfaces.set i { surface with pixels } }

section Drawn

variable {session : GraphicsSession} {surface : GraphicsSurface} {i : Nat} {pixels : Bytes}

theorem drawn_held (held : session.graphicsSurfaces[i]? = some surface) (pixels : Bytes) :
    (session.drawn i surface pixels).graphicsSurfaces[i]? = some { surface with pixels } :=
  Table.getElem?_set_held held

theorem drawn_self (held : session.graphicsSurfaces[i]? = some surface) :
    session.drawn i surface surface.pixels = session := by
  obtain ⟨inside, same⟩ := List.getElem?_eq_some_iff.mp held
  subst same
  change { session with graphicsSurfaces := session.graphicsSurfaces.set i _ } = session
  rw [List.set_getElem_self]

theorem surfaceSet_drawn (next : Bytes) :
    surfaceSet i { surface with pixels := next } (session.drawn i surface pixels) =
      (.ok (), session.drawn i surface next) := by
  change (Except.ok (), { session with
    graphicsSurfaces := (session.graphicsSurfaces.set i { surface with pixels }).set i _ }) = _
  rw [List.set_set]
  rfl

end Drawn

theorem alphaStore_ok {place : Nat → Nat} {index : Nat} {pixels : Bytes}
    (inside : ∀ j, index ≤ j → j < index + count → place j < pixels.length) :
    alphaStore place alpha count index pixels =
      .ok (writeCells place index (List.replicate count alpha) pixels) := by
  induction count generalizing index pixels with
  | zero => rfl
  | succ count ih =>
    rw [alphaStore, if_pos (inside index (Nat.le_refl _) (by omega)), List.replicate_succ,
      writeCells]
    apply ih
    intro j after before
    rw [List.length_set]
    exact inside j (by omega) (by omega)

structure GraphicsSurface.Holds (surface : GraphicsSurface) (rect : Rect16) : Prop where
  across : rect.left.toNat < rect.right.toNat
  down : rect.top.toNat < rect.bottom.toNat
  wide : rect.right.toNat ≤ surface.width.toNat
  high : rect.bottom.toNat ≤ surface.height.toNat

def GraphicsSurface.Holds.part {rect : Rect16} {surface : GraphicsSurface}
    (on : surface.Holds rect) : SurfacePart surface where
  left := rect.left.toNat
  top := rect.top.toNat
  right := rect.right.toNat
  bottom := rect.bottom.toNat
  across := on.across
  down := on.down
  wide := on.wide
  high := on.high

def GraphicsSurface.alphas (surface : GraphicsSurface) (rect : Rect16) : Nat → Nat :=
  alphaPlace surface.width.toNat rect.left.toNat rect.top.toNat rect.width

section Alphas

variable {session : GraphicsSession} {surface : GraphicsSurface} {rect : Rect16} {i : Nat}
  {pixels : Bytes} {position : Nat}

variable {index : Nat}

theorem GraphicsSurface.Holds.pixel (on : surface.Holds rect)
    (inside : index < rect.width * rect.height) :
    rect.left.toNat + index % rect.width < rect.right.toNat ∧
      rect.top.toNat + index / rect.width < rect.bottom.toNat := by
  obtain ⟨across, down, -, -⟩ := on
  have some : 0 < rect.width := Nat.sub_pos_of_lt across
  have column : index % rect.width < rect.width := Nat.mod_lt index some
  have row : index / rect.width < rect.height := Nat.div_lt_of_lt_mul inside
  simp only [Rect16.width, Rect16.height] at column row ⊢
  omega

theorem alphas_lt (on : surface.Holds rect) (sized : surface.Sized)
    (inside : index < rect.width * rect.height) :
    surface.alphas rect index < surface.pixels.length := by
  obtain ⟨across, down⟩ := on.pixel inside
  rw [sized.length]
  exact pixel_place_lt (Nat.lt_of_lt_of_le across on.wide) (Nat.lt_of_lt_of_le down on.high)
    (Nat.lt_succ_self 3)

theorem alphas_inj (on : surface.Holds rect) {j j' : Nat} (inside : j < rect.width * rect.height)
    (inside' : j' < rect.width * rect.height)
    (same : surface.alphas rect j = surface.alphas rect j') : j = j' := by
  have wide := on.wide
  obtain ⟨column, -⟩ := on.pixel inside
  obtain ⟨column', -⟩ := on.pixel inside'
  obtain ⟨sameX, sameY, -⟩ := pixel_place_inj (by omega) (by omega) (Nat.lt_succ_self 3)
    (Nat.lt_succ_self 3) same
  rw [← Nat.div_add_mod j rect.width, ← Nat.div_add_mod j' rect.width, Nat.add_left_cancel sameX,
    Nat.add_left_cancel sameY]

theorem surfaceAlphaRun_drawn (held : session.graphicsSurfaces[i]? = some surface)
    (sized : surface.Sized) (length : pixels.length = surface.pixels.length)
    (on : surface.Holds rect) {count : Nat} (some : 0 < count)
    (fit : position + count ≤ rect.width * rect.height) (alpha : UInt8) :
    surfaceAlphaRun i rect.left.toNat rect.top.toNat rect.width position (rect.width * rect.height)
        count alpha (session.drawn i surface pixels) =
      (.ok (position + count), session.drawn i surface
        (writeCells (surface.alphas rect) position (List.replicate count alpha) pixels)) := by
  have room : checkedSub (rect.width * rect.height) position =
      .ok (rect.width * rect.height - position) := checkedSub_of_le (by omega)
  have stored : alphaStore (surface.alphas rect) alpha count position pixels =
      .ok (writeCells (surface.alphas rect) position (List.replicate count alpha) pixels) := by
    apply alphaStore_ok
    intro j _ before
    rw [length]
    exact alphas_lt on sized (by omega)
  rw [surfaceAlphaRun, room]
  change (if _ then _ else _ : GraphicsEffect Nat) _ = _
  rw [if_neg (by omega), Effect.bind_ok (surfaceAt_held (drawn_held held pixels))]
  change (Effect.lift (checked (alphaStore (surface.alphas rect) alpha count position pixels)) >>= _)
    _ = _
  rw [stored, checked, Effect.lift_ok_bind]
  exact (Effect.bind_ok (surfaceSet_drawn _)).trans rfl

theorem alphaBytes_drawn (held : session.graphicsSurfaces[i]? = some surface)
    (sized : surface.Sized) (length : pixels.length = surface.pixels.length)
    (on : surface.Holds rect) {data : Bytes}
    (fit : position + data.length = rect.width * rect.height) :
    alphaBytes i rect.left.toNat rect.top.toNat rect.width (rect.width * rect.height) position data
        (session.drawn i surface pixels) =
      (.ok (), session.drawn i surface
        (writeCells (surface.alphas rect) position data pixels)) := by
  induction data generalizing position pixels with
  | nil => rfl
  | cons alpha data ih =>
    rw [List.length_cons] at fit
    rw [alphaBytes, Effect.bind_ok
      (surfaceAlphaRun_drawn held sized length on Nat.one_pos (by omega) alpha)]
    exact ih (by rw [writeCells_length, length]) (by omega)

inductive SpellsRun (run : Run UInt8) : Bytes → Prop where
  | byte (short : run.length < 0xff) : SpellsRun run [run.value, UInt8.ofNat run.length]
  | word (fits : run.length < 0xffff) :
      SpellsRun run (run.value :: 0xff :: u16LeBytes run.length)
  | long (fits : run.length < 2 ^ 32) :
      SpellsRun run (run.value :: 0xff :: 0xff :: 0xff :: u32LeBytes run.length)

inductive SpellsRuns : List (Run UInt8) → Bytes → Prop where
  | nil : SpellsRuns [] []
  | cons {run : Run UInt8} {runs : List (Run UInt8)} {sent data : Bytes}
      (first : SpellsRun run sent) (later : SpellsRuns runs data) :
      SpellsRuns (run :: runs) (sent ++ data)

theorem SpellsRun.read {run : Run UInt8} {sent : Bytes} (spells : SpellsRun run sent)
    (rest : Bytes) : readAlphaRun (sent ++ rest) = .ok ((run.value, run.length), rest) := by
  cases spells with
  | byte short =>
    have same : (UInt8.ofNat run.length).toNat = run.length := by
      rw [UInt8.toNat_ofNat']
      omega
    have plain : UInt8.ofNat run.length ≠ 0xff := by
      intro escape
      rw [escape] at same
      have := same.symm
      change run.length = 255 at this
      omega
    simp only [List.cons_append, List.nil_append, readAlphaRun, if_neg plain, same]
  | word fits =>
    have same := u16Le_bytes (v := run.length) (by omega)
    have plain : run.length ≠ 0xffff := by omega
    simp only [u16LeBytes, List.cons_append, List.nil_append, readAlphaRun, if_true, same,
      if_neg plain]
  | long fits =>
    have same := u32Le_bytes (v := run.length) fits
    have escape : u16Le 0xff 0xff = 0xffff := by decide
    simp only [u32LeBytes, List.cons_append, List.nil_append, readAlphaRun, if_true, same, escape]

theorem alphaRuns_spelled (held : session.graphicsSurfaces[i]? = some surface)
    (sized : surface.Sized) (length : pixels.length = surface.pixels.length)
    (on : surface.Holds rect) {runs : List (Run UInt8)} {data : Bytes} (spells : SpellsRuns runs data)
    (fit : position + (unroll runs).length = rect.width * rect.height) :
    alphaRuns i rect.left.toNat rect.top.toNat rect.width (rect.width * rect.height) position data
        (session.drawn i surface pixels) =
      (.ok [], session.drawn i surface
        (writeCells (surface.alphas rect) position (unroll runs) pixels)) := by
  induction spells generalizing position pixels with
  | nil =>
    rw [unroll_nil, List.length_nil] at fit
    rw [alphaRuns_end (by omega)]
    rfl
  | @cons run runs sent data first later ih =>
    have some := run.length_pos
    rw [unroll_cons, List.length_append, Run.unroll_length] at fit
    have more : position < rect.width * rect.height := by omega
    rw [alphaRuns_run more (first.read data),
      Effect.bind_ok (surfaceAlphaRun_drawn held sized length on some (by omega) run.value),
      unroll_cons, writeCells_append, Run.unroll_length]
    exact ih (by rw [writeCells_length, length]) (by omega)

theorem alphas_cell (sized : surface.Sized) (on : surface.Holds rect) {plane : Bytes}
    (length : plane.length = rect.width * rect.height) {x byte : Nat} (across : x < surface.width.toNat)
    (small : byte < 4) (y : Nat) :
    pixelCell 4 surface.width.toNat (writeCells (surface.alphas rect) 0 plane surface.pixels) x y
        byte =
      if byte = 3 ∧ rect.left.toNat ≤ x ∧ x < rect.right.toNat ∧ rect.top.toNat ≤ y ∧
          y < rect.bottom.toNat then
        plane[(y - rect.top.toNat) * rect.width + (x - rect.left.toNat)]?
      else surface.byteAt x y byte := by
  split
  · rename_i held
    obtain ⟨rfl, afterX, beforeX, afterY, beforeY⟩ := held
    have column : x - rect.left.toNat < rect.width := by
      unfold Rect16.width
      omega
    have row : y - rect.top.toNat < rect.height := by
      unfold Rect16.height
      omega
    generalize here : (y - rect.top.toNat) * rect.width + (x - rect.left.toNat) = index
    have inside : index < rect.width * rect.height := by
      have rows : (y - rect.top.toNat + 1) * rect.width ≤ rect.height * rect.width :=
        Nat.mul_le_mul_right _ row
      rw [Nat.succ_mul, Nat.mul_comm rect.height] at rows
      omega
    have quotient : index / rect.width = y - rect.top.toNat := by
      rw [← here, Nat.mul_comm, Nat.mul_add_div (by omega), Nat.div_eq_of_lt column, Nat.add_zero]
    have remainder : index % rect.width = x - rect.left.toNat := by
      rw [← here, Nat.mul_comm, Nat.mul_add_mod, Nat.mod_eq_of_lt column]
    have place : surface.alphas rect index =
        y * (surface.width.toNat * 4) + x * 4 + 3 := by
      rw [GraphicsSurface.alphas, alphaPlace, quotient, remainder, Nat.add_sub_cancel' afterX,
        Nat.add_sub_cancel' afterY]
    have written := @writeCells_at _ surface.pixels (surface.alphas rect) 0 plane index
      (length.symm ▸ inside) (by rw [Nat.zero_add]; exact alphas_lt on sized inside) (by
        intro j after before same
        rw [Nat.zero_add] at before after same
        exact absurd (alphas_inj on (length ▸ before) inside same) (by omega))
    rw [Nat.zero_add, place] at written
    exact written
  · rename_i away
    apply writeCells_elsewhere
    intro j _ before same
    rw [Nat.zero_add, length] at before
    obtain ⟨column, row⟩ := on.pixel before
    have wide := on.wide
    obtain ⟨sameX, sameY, last⟩ := pixel_place_inj (by omega) across (by decide) small same
    generalize j / rect.width = quotient at row sameY
    exact away ⟨last.symm, by omega, by omega, by omega, by omega⟩

theorem GraphicsSurface.Holds.fits (on : surface.Holds rect) :
    ¬ 0xffffffff / (rect.bottom.toNat - rect.top.toNat) <
      rect.right.toNat - rect.left.toNat := by
  have := rect.right.toNat_lt
  have := rect.bottom.toNat_lt
  have down := on.down
  rw [Nat.not_lt, Nat.le_div_iff_mul_le (by omega)]
  exact Nat.le_trans (Nat.mul_le_mul (by omega : _ ≤ 65535) (by omega : _ ≤ 65535)) (by decide)

theorem GraphicsSurface.Holds.accepted (on : surface.Holds rect) :
    (decide (rect.right ≤ rect.left) || decide (rect.bottom ≤ rect.top) ||
      decide (surface.width < rect.right) || decide (surface.height < rect.bottom)) = false := by
  simp only [UInt16.le_iff_toNat_le, UInt16.lt_iff_toNat_lt, Bool.or_eq_false_iff,
    decide_eq_false_iff_not, Nat.not_le, Nat.not_lt]
  exact ⟨⟨⟨on.across, on.down⟩, on.wide⟩, on.high⟩

theorem surfaceApplyAlpha_signed (held : session.graphicsSurfaces[i]? = some surface)
    (on : surface.Holds rect) {s0 s1 : UInt8} (signed : u16Le s0 s1 = alphaSignature)
    (surfaceId : UInt16) (pixelFormat c0 c1 : UInt8) (data : Bytes) :
    surfaceApplyAlpha i ⟨surfaceId, pixelFormat, rect, s0 :: s1 :: c0 :: c1 :: data⟩ session =
      (if u16Le c0 c1 = 0 then
        if data.length ≠ rect.width * rect.height then returns .protocolError
        else alphaBytes i rect.left.toNat rect.top.toNat rect.width (rect.width * rect.height) 0
          data >>= fun _ =>
            surfaceFlush i rect.left.toNat rect.top.toNat rect.right.toNat rect.bottom.toNat
      else alphaRuns i rect.left.toNat rect.top.toNat rect.width (rect.width * rect.height) 0
        data >>= fun rest =>
          if rest ≠ [] then returns .protocolError
          else surfaceFlush i rect.left.toNat rect.top.toNat rect.right.toNat rect.bottom.toNat)
        session := by
  rw [surfaceApplyAlpha, Effect.bind_ok (surfaceAt_held held)]
  simp only [on.accepted, Bool.false_eq_true, if_false, if_neg on.fits,
    if_neg (not_not.mpr signed)]
  rfl

theorem surfaceApplyAlpha_written (held : session.graphicsSurfaces[i]? = some surface)
    (sized : surface.Sized) (on : surface.Holds rect) {plane data : Bytes}
    {c0 c1 pixelFormat : UInt8} {surfaceId : UInt16}
    (length : plane.length = rect.width * rect.height)
    (sent : u16Le c0 c1 = 0 ∧ data = plane ∨
      u16Le c0 c1 ≠ 0 ∧ ∃ runs, SpellsRuns runs data ∧ unroll runs = plane) :
    surfaceApplyAlpha i ⟨surfaceId, pixelFormat, rect, 0x4c :: 0x41 :: c0 :: c1 :: data⟩ session =
      surfaceFlush i rect.left.toNat rect.top.toNat rect.right.toNat rect.bottom.toNat
        (session.drawn i surface (writeCells (surface.alphas rect) 0 plane surface.pixels)) := by
  have start := drawn_self held
  rw [surfaceApplyAlpha_signed held on (by decide)]
  obtain ⟨raw, rfl⟩ | ⟨compressed, runs, spells, rfl⟩ := sent
  · have wrote := alphaBytes_drawn held sized rfl on (by rw [Nat.zero_add, length])
    rw [start] at wrote
    rw [if_pos raw, if_neg (not_not.mpr length), Effect.bind_ok wrote]
  · have wrote := alphaRuns_spelled held sized rfl on spells (by rw [Nat.zero_add, length])
    rw [start] at wrote
    rw [if_neg compressed, Effect.bind_ok wrote, if_neg (not_not.mpr rfl)]

/-- Nothing keeps a session from showing a surface: it is not mapped, or it is, the application
    holds no mapping of the output and there is memory for scaled pixels. -/
def CanShow (session : GraphicsSession) (surface : GraphicsSurface) : Prop :=
  surface.mapped = false ∨
    surface.Mapped session.limits ∧ session.surface.Sized ∧ session.surface.mapped = false ∧
      (surface.scaled = true → session.memory.head? ≠ some false)

theorem CanShow.flush (held : session.graphicsSurfaces[i]? = some surface)
    (active : surface.active = true) (can : CanShow session surface)
    (length : pixels.length = surface.pixels.length) (on : surface.Holds rect) :
    (surfaceFlush i rect.left.toNat rect.top.toNat rect.right.toNat rect.bottom.toNat
      (session.drawn i surface pixels)).1 = .ok () := by
  have held' := drawn_held held pixels
  obtain unmapped | ⟨mapped, sized, unlocked, memory⟩ := can
  · rw [surfaceFlush_unmapped held' active unmapped]
  · have mapped' : ({ surface with pixels } : GraphicsSurface).Mapped session.limits :=
      { mapped with sized := { mapped.sized with length := length.trans mapped.sized.length } }
    have on' : ({ surface with pixels } : GraphicsSurface).Holds rect := { on with }
    have ends := surfaceFlush_ends held' mapped' sized on'.part
    change FlushEnds _ _ (surfaceFlush i rect.left.toNat rect.top.toNat rect.right.toNat
      rect.bottom.toNat _) at ends
    generalize surfaceFlush i rect.left.toNat rect.top.toNat rect.right.toNat rect.bottom.toNat
      (session.drawn i surface pixels) = ending at ends
    cases ends with
    | shown => rfl
    | noMemory scaled refused => exact absurd refused (memory scaled)
    | locked locked => cases unlocked.symm.trans locked

/-- However a plane is cut into runs and however these are sent, the session becomes the one that the
    raw plane leads to: the alphas of the rectangle are the plane, and no other byte has changed. -/
theorem alpha_forms_agree (held : session.graphicsSurfaces[i]? = some surface)
    (active : surface.active = true) (sized : surface.Sized) (on : surface.Holds rect)
    {plane : Bytes} (length : plane.length = rect.width * rect.height) {runs : List (Run UInt8)}
    (cut : unroll runs = plane) {data : Bytes} (spells : SpellsRuns runs data) {c0 c1 : UInt8}
    (compressed : u16Le c0 c1 ≠ 0) (surfaceId : UInt16) (pixelFormat : UInt8) :
    let raw := surfaceApplyAlpha i
      ⟨surfaceId, pixelFormat, rect, 0x4c :: 0x41 :: 0 :: 0 :: plane⟩ session
    let packed := surfaceApplyAlpha i
      ⟨surfaceId, pixelFormat, rect, 0x4c :: 0x41 :: c0 :: c1 :: data⟩ session
    packed = raw ∧
    (∃ next,
      packed.2.graphicsSurfaces = session.graphicsSurfaces.set i { surface with pixels := next } ∧
      next.length = surface.pixels.length ∧
      ∀ x < surface.width.toNat, ∀ y < surface.height.toNat, ∀ byte < 4,
        pixelCell 4 surface.width.toNat next x y byte =
          if byte = 3 ∧ rect.left.toNat ≤ x ∧ x < rect.right.toNat ∧ rect.top.toNat ≤ y ∧
              y < rect.bottom.toNat then
            plane[(y - rect.top.toNat) * rect.width + (x - rect.left.toNat)]?
          else surface.byteAt x y byte) ∧
    (CanShow session surface → packed.1 = .ok ()) := by
  intro raw packed
  have rawWritten := @surfaceApplyAlpha_written session surface rect i held sized on plane plane 0 0
    pixelFormat surfaceId length (.inl ⟨by decide, rfl⟩)
  have written := @surfaceApplyAlpha_written session surface rect i held sized on plane data c0 c1
    pixelFormat surfaceId length (.inr ⟨compressed, runs, spells, cut⟩)
  refine ⟨written.trans rawWritten.symm, ⟨writeCells (surface.alphas rect) 0 plane surface.pixels,
    ?_, writeCells_length, ?_⟩, fun can => ?_⟩
  · have left := @surfaceFlush_leaves i rect.left.toNat rect.top.toNat rect.right.toNat
      rect.bottom.toNat (session.drawn i surface
        (writeCells (surface.alphas rect) 0 plane surface.pixels))
    rw [← written] at left
    exact left
  · intro x across y _ byte small
    exact alphas_cell sized on length across small y
  · change (surfaceApplyAlpha i _ session).1 = _
    rw [written]
    exact can.flush held active writeCells_length on

end Alphas

def twoPixels : GraphicsSurface :=
  { active := true, mapped := true, surfaceId := 1, width := 2, height := 1, targetWidth := 2
    targetHeight := 1, pixels := List.replicate 8 0 }

def twoPixelSession (locked : Bool) : GraphicsSession :=
  { limits := ⟨1, graphicsSurfaceMaxDimension, by decide⟩
    surface := { width := 2, height := 1, mapped := locked, pixels := List.replicate 8 0 }
    graphicsSurfaces := [twoPixels] }

theorem twoPixels_sized : twoPixels.Sized := ⟨by decide, by decide, by decide⟩

theorem twoPixels_holds : twoPixels.Holds ⟨0, 0, 2, 1⟩ :=
  ⟨by decide, by decide, by decide, by decide⟩

theorem twoPixels_spelled : SpellsRuns [⟨7, 1⟩] [7, 0xff, 2, 0] :=
  .cons (.word (by decide)) .nil

theorem alpha_forms_agree_two :
    surfaceApplyAlpha 0 ⟨1, 0x21, ⟨0, 0, 2, 1⟩, [0x4c, 0x41, 1, 0, 7, 0xff, 2, 0]⟩
        (twoPixelSession false) =
      surfaceApplyAlpha 0 ⟨1, 0x21, ⟨0, 0, 2, 1⟩, [0x4c, 0x41, 0, 0, 7, 7]⟩
        (twoPixelSession false) ∧
    (surfaceApplyAlpha 0 ⟨1, 0x21, ⟨0, 0, 2, 1⟩, [0x4c, 0x41, 1, 0, 7, 0xff, 2, 0]⟩
      (twoPixelSession false)).1 = .ok () := by
  have agree := @alpha_forms_agree (twoPixelSession false) twoPixels ⟨0, 0, 2, 1⟩ 0 rfl rfl
    twoPixels_sized twoPixels_holds [7, 7] (by decide) [⟨7, 1⟩] (by decide) _ twoPixels_spelled 1 0
    (by decide) 1 0x21
  have shown : CanShow (twoPixelSession false) twoPixels :=
    .inr ⟨⟨rfl, twoPixels_sized, rfl, by decide, by decide, by decide, by decide, by decide⟩, rfl, rfl,
      nofun⟩
  exact ⟨agree.1, agree.2.2 shown⟩

/-- While the application holds a mapping of the output, the plane is written and not shown. -/
theorem alpha_not_shown_when_locked :
    (twoPixelSession true).graphicsSurfaces[0]? = some twoPixels ∧ twoPixels.active = true ∧
    twoPixels.Sized ∧ twoPixels.Holds ⟨0, 0, 2, 1⟩ ∧ unroll [Run.mk (7 : UInt8) 1] = [7, 7] ∧
    SpellsRuns [⟨7, 1⟩] [7, 0xff, 2, 0] ∧
    (surfaceApplyAlpha 0 ⟨1, 0x21, ⟨0, 0, 2, 1⟩, [0x4c, 0x41, 1, 0, 7, 0xff, 2, 0]⟩
      (twoPixelSession true)).1 = .error (.returned .state) := by
  refine ⟨rfl, rfl, twoPixels_sized, twoPixels_holds, by decide, twoPixels_spelled, ?_⟩
  have written := @surfaceApplyAlpha_written (twoPixelSession true) twoPixels ⟨0, 0, 2, 1⟩ 0 rfl
    twoPixels_sized twoPixels_holds [7, 7] _ 1 0 0x21 1 (by decide)
    (.inr ⟨by decide, _, twoPixels_spelled, by decide⟩)
  rw [written]
  rfl

end LibRdp.Client
