import LibRdp.Client.GraphicsScaled
import LibRdp.Graphics.ClearCodec
import LibRdp.Graphics.Planar

/-! # Commands that bring pixels

`WIRE_TO_SURFACE_1` brings pixels in one of several codecs. Plain, planar and ClearCodec pixels are
decoded first and then written as a whole, the runs of an alpha plane are written as they are read;
at the end the rectangle is flushed. A command may fail after it has written, and then the
surface keeps what was written.
-/

namespace LibRdp.Client

open Graphics Machine Coding

/-! ## Commands -/

inductive WireCodec where
  | uncompressed
  | alpha
  | clearcodec
  | planar
  deriving Repr, DecidableEq

structure WireSession where
  graphics : GraphicsSession
  clearcodec : ClearContext

abbrev WireEffect := Effect Stop WireSession

def onGraphics (m : GraphicsEffect α) : WireEffect α :=
  Effect.zoom WireSession.graphics (fun session graphics => { session with graphics }) m

/-- `rdp_clearcodec_decode_bitmap` with the context of the session. -/
def clearcodecDecode (memory : ClearMemory) (data : Bytes) (width height : Nat) :
    WireEffect (Bytes × Nat) := fun session =>
  match clearDecodeBitmap memory data width height
      { context := session.clearcodec, pixels := [], stride := 0 } with
  | (.ok (), frame) => (.ok (frame.pixels, frame.stride), { session with clearcodec := frame.context })
  | (.error stop, frame) => (.error stop, { session with clearcodec := frame.context })

/-- A decoder's `LIBRDP_STATUS_UNSUPPORTED` becomes a protocol error. -/
def rejectUnsupported (m : WireEffect α) : WireEffect α := fun session =>
  match m session with
  | (.error (.returned .unsupported), session) => (.error (.returned .protocolError), session)
  | done => done

def surfaceWriteDecoded (i : Nat) (wire : WireToSurface1) (decoded : Bytes × Nat) :
    WireEffect Unit :=
  onGraphics (surfaceWriteBgra i wire.destRect.left.toNat wire.destRect.top.toNat
    (wire.destRect.right - wire.destRect.left).toNat (wire.destRect.bottom - wire.destRect.top).toNat
    decoded.1 0 decoded.2 (wire.pixelFormat == graphicsPixelFormatXrgb8888))

/-- The branch of `WIRE_TO_SURFACE_1` in the loop over the commands of a message. -/
def handleWireToSurface1 (memory : ClearMemory) (codec : WireCodec) (wire : WireToSurface1) :
    WireEffect Unit := do
  let width := (wire.destRect.right - wire.destRect.left).toNat
  let height := (wire.destRect.bottom - wire.destRect.top).toNat
  let i ← onGraphics (surfaceFound wire.surfaceId)
  match codec with
  | .uncompressed => onGraphics (surfaceWriteWire i wire)
  | .alpha => onGraphics (surfaceApplyAlpha i wire)
  | .clearcodec =>
      rejectUnsupported do
        let decoded ← clearcodecDecode memory wire.bitmapData width height
        surfaceWriteDecoded i wire decoded
  | .planar =>
      rejectUnsupported do
        let decoded ← .lift (planarDecodeArgb wire.bitmapData width height)
        surfaceWriteDecoded i wire decoded

/-! ## Pixels that are there already -/

def GraphicsSurface.ShowsBgra (surface : GraphicsSurface) (x y width height : Nat) (pixels : Bytes)
    (stride : Nat) (forceOpaque : Bool) : Prop :=
  ∀ c < width, ∀ r < height, ∀ byte < 4,
    surface.byteAt (x + c) (y + r) byte =
      if forceOpaque = true ∧ byte = 3 then some 0xff else pixels[r * stride + (c * 4 + byte)]?

/-- If the pixels of a buffer can be written to a rectangle of a surface, they are there already. -/
def GraphicsSurface.AlreadyBgra (surface : GraphicsSurface) (x y width height : Nat) (pixels : Bytes)
    (stride : Nat) (forceOpaque : Bool) : Prop :=
  x + width ≤ surface.width.toNat → y + height ≤ surface.height.toNat → width * 4 ≤ stride →
    surface.ShowsBgra x y width height pixels stride forceOpaque

/-- The alphas of the runs that come before the first one that is cut off, empty or too long. -/
def alphaPlane (total position : Nat) (data : Bytes) : Bytes :=
  if position < total then
    match _read : readAlphaRun data with
    | .error _ => []
    | .ok ((alpha, count), rest) =>
        if count = 0 ∨ total - position < count then []
        else List.replicate count alpha ++ alphaPlane total (position + count) rest
  else []
termination_by data.length
decreasing_by exact readAlphaRun_consumes _read

def WireToSurface1.alphas (wire : WireToSurface1) : Bytes :=
  let total := wire.destRect.width * wire.destRect.height
  match wire.bitmapData with
  | s0 :: s1 :: c0 :: c1 :: data =>
      if u16Le s0 s1 ≠ alphaSignature then []
      else if u16Le c0 c1 = 0 then if data.length ≠ total then [] else data
      else alphaPlane total 0 data
  | _ => []

/-- If the alphas of a command can be written to its rectangle, they are there already. -/
def GraphicsSurface.AlreadyAlphas (surface : GraphicsSurface) (wire : WireToSurface1) : Prop :=
  surface.Holds wire.destRect → ∀ j < wire.alphas.length,
    surface.byteAt (wire.destRect.left.toNat + j % wire.destRect.width)
      (wire.destRect.top.toNat + j / wire.destRect.width) 3 = wire.alphas[j]?

/-- Whatever a command writes before it may fail is in its surface already. -/
def GraphicsSurface.Already (surface : GraphicsSurface) (memory : ClearMemory)
    (context : ClearContext) (codec : WireCodec) (wire : WireToSurface1) : Prop :=
  let rect := wire.destRect
  let width := (rect.right - rect.left).toNat
  let height := (rect.bottom - rect.top).toNat
  let forceOpaque := wire.pixelFormat == graphicsPixelFormatXrgb8888
  match codec with
  | .uncompressed =>
      rect.left.toNat ≤ rect.right.toNat → rect.top.toNat ≤ rect.bottom.toNat →
      wire.bitmapData.length = rect.width * rect.height * 4 →
      surface.AlreadyBgra rect.left.toNat rect.top.toNat rect.width rect.height wire.bitmapData
        (rect.width * 4) forceOpaque
  | .alpha => surface.AlreadyAlphas wire
  | .clearcodec => ∀ frame, clearDecodeBitmap memory wire.bitmapData width height
        { context, pixels := [], stride := 0 } = (.ok (), frame) →
      surface.AlreadyBgra rect.left.toNat rect.top.toNat width height frame.pixels frame.stride
        forceOpaque
  | .planar => ∀ pixels stride, planarDecodeArgb wire.bitmapData width height = .ok (pixels, stride) →
      surface.AlreadyBgra rect.left.toNat rect.top.toNat width height pixels stride forceOpaque

/-! ## What a failure leaves behind -/

/-- The output is as it was, and of the surfaces at most one has got other pixels: none of them if
    and only if a condition holds. -/
def Leftover (session : GraphicsSession) (i : Nat) (surface : GraphicsSurface) (already : Prop)
    (after : GraphicsSession) : Prop :=
  after.surface = session.surface ∧
  ∃ next, after.graphicsSurfaces = session.graphicsSurfaces.set i { surface with pixels := next } ∧
    (next = surface.pixels ↔ already)

section Leftovers

variable {session after : GraphicsSession} {surface : GraphicsSurface} {i : Nat} {status : Status}
  {already : Prop}

theorem Leftover.unchanged (held : session.graphicsSurfaces[i]? = some surface) (there : already) :
    Leftover session i surface already session :=
  ⟨rfl, surface.pixels, (congrArg GraphicsSession.graphicsSurfaces (drawn_self held)).symm,
    iff_of_true rfl there⟩

/-- The pixels of the surfaces and of the output are what they were. -/
def SamePicture (session after : GraphicsSession) : Prop :=
  after.surface.pixels = session.surface.pixels ∧
  after.graphicsSurfaces.map (·.pixels) = session.graphicsSurfaces.map (·.pixels)

theorem Leftover.same_iff (left : Leftover session i surface already after)
    (held : session.graphicsSurfaces[i]? = some surface) :
    SamePicture session after ↔ already := by
  obtain ⟨output, next, surfaces, iff⟩ := left
  rw [← iff, SamePicture, output, surfaces]
  constructor
  · rintro ⟨-, same⟩
    have here := congrArg (·[i]?) same
    simp only [List.getElem?_map, Table.getElem?_set_held held, held, Option.map_some,
      Option.some.injEq] at here
    exact here
  · rintro rfl
    have same := congrArg GraphicsSession.graphicsSurfaces (drawn_self held)
    exact ⟨rfl, congrArg (List.map (·.pixels)) same⟩

theorem surfaceFlush_spares (left top right bottom : Nat) :
    Effect.Spares GraphicsSession.surface (surfaceFlush i left top right bottom) := by
  have stops {status : Status} :
      Effect.Spares GraphicsSession.surface (returns status : GraphicsEffect Unit) :=
    Effect.Leaves.spares (.stop _)
  have ends : Effect.Spares GraphicsSession.surface (pure () : GraphicsEffect Unit) :=
    Effect.Leaves.spares (.pure _)
  have blits {x y width height start stride : Nat} {pixels : Bytes} :
      Effect.Spares GraphicsSession.surface
        (blitBgra32 x y width height pixels start stride) :=
    .bind .get fun _ => .bind (.lift _) fun _ => .modify _
  have scales : Effect.Spares GraphicsSession.surface
      (surfaceFlushScaled i left top right bottom) := by
    refine .bind .get fun session => .bind surfaceAt_leaves fun surface => .ite (fun _ => stops) fun _ =>
      .ite (fun _ => stops) fun _ => .ite (fun _ => stops) fun _ => ?_
    split
    · exact ends
    · exact .bind (reserve_leaves fun _ _ => rfl) fun _ => .bind (.lift _) fun _ => blits
  exact .bind .get fun _ => .bind surfaceAt_leaves fun _ => .ite (fun _ => stops) fun _ =>
    .ite (fun _ => ends) fun _ => .ite (fun _ => stops) fun _ => .ite (fun _ => scales) fun _ =>
      .ite (fun _ => ends) fun _ => blits

variable {stop : Stop} {total position : Nat} {data : Bytes} {wire : WireToSurface1}

theorem Leftover.of_flush {next : Bytes} {left top right bottom : Nat}
    (iff : next = surface.pixels ↔ already)
    (failed : (surfaceFlush i left top right bottom (session.drawn i surface next)).1 =
      .error stop) :
    Leftover session i surface already
      (surfaceFlush i left top right bottom (session.drawn i surface next)).2 :=
  ⟨surfaceFlush_spares left top right bottom _ stop failed, next,
    surfaceFlush_leaves left top right bottom _, iff⟩

/-! ## Pixels -/

theorem opaqueRow_getElem? {row : Bytes} {width c byte : Nat} (length : row.length = width * 4)
    (column : c < width) (small : byte < 4) :
    (opaqueRow row)[c * 4 + byte]? =
      if byte = 3 then some 0xff else row[c * 4 + byte]? := by
  have inside : c * 4 + byte < row.length := by omega
  have part : (c * 4 + byte) % 4 = byte := by omega
  rw [opaqueRow, List.getElem?_mapIdx, List.getElem?_eq_getElem inside, Option.map_some, part]
  split
  · rfl
  · rfl

theorem surfaceWriteBgra_leftover (held : session.graphicsSurfaces[i]? = some surface)
    (active : surface.active = true) (sized : surface.Sized) {x y width height stride : Nat}
    {pixels : Bytes} {forceOpaque : Bool}
    (failed : (surfaceWriteBgra i x y width height pixels 0 stride forceOpaque session).1 =
      .error (.returned status)) :
    Leftover session i surface
      (surface.AlreadyBgra x y width height pixels stride forceOpaque)
      (surfaceWriteBgra i x y width height pixels 0 stride forceOpaque session).2 := by
  rw [surfaceWriteBgra, Effect.bind_ok (surfaceAt_held held), active] at failed ⊢
  simp only [Bool.not_true, Bool.false_eq_true, if_false] at failed ⊢
  by_cases empty : width = 0 ∨ height = 0
  · rw [if_pos empty] at failed
    cases failed
  rw [if_neg empty] at failed ⊢
  by_cases outside : surface.width.toNat < x ∨ surface.height.toNat < y ∨
      surface.width.toNat - x < width ∨ surface.height.toNat - y < height ∨ stride < width * 4
  · rw [if_pos outside]
    apply Leftover.unchanged held
    intro across down far
    omega
  · rw [if_neg outside] at failed ⊢
    cases read : readRows pixels 0 stride (width * 4) height with
    | error fault =>
      rw [read] at failed
      cases failed
    | ok rows =>
      obtain ⟨many, lengths⟩ := readRows_lengths read
      let part : SurfacePart surface :=
        ⟨x, y, x + width, y + height, by omega, by omega, by omega, by omega⟩
      have high : y + height - y = height := Nat.add_sub_cancel_left ..
      have wide : x + width - x = width := Nat.add_sub_cancel_left ..
      rw [read, checked, Effect.lift_ok_bind] at failed
      rw [checked, Effect.lift_ok_bind]
      generalize written : (if forceOpaque then rows.map opaqueRow else rows) = rows' at failed ⊢
      have many' : rows'.length = height := by
        rw [← written]
        split
        · rw [List.length_map, many]
        · exact many
      have lengths' : ∀ row ∈ rows', row.length = width * 4 := by
        rw [← written]
        split
        · intro row here
          obtain ⟨row', here', rfl⟩ := List.mem_map.mp here
          rw [opaqueRow, List.length_mapIdx]
          exact lengths row' here'
        · exact lengths
      obtain ⟨next, drawn, length, shown⟩ := surfaceDraw_drawn held sized part
        (many'.trans high.symm) (fun row here => (lengths' row here).trans
          (congrArg (· * 4) wide.symm))
      rw [Effect.bind_ok drawn] at failed ⊢
      refine .of_flush ?_ failed
      have cells {c r byte : Nat} (column : c < width) (row : r < height) (small : byte < 4) :
          rows'[r]?.bind (·[c * 4 + byte]?) =
            if forceOpaque = true ∧ byte = 3 then some 0xff
            else pixels[r * stride + (c * 4 + byte)]? := by
        have plain := readRows_getElem? read row (c := c * 4 + byte) (by omega)
        rw [Nat.zero_add] at plain
        rw [← written]
        cases forceOpaque with
        | false => simpa using plain
        | true =>
          obtain ⟨bytes, kept⟩ : ∃ bytes, rows[r]? = some bytes :=
            ⟨_, List.getElem?_eq_getElem (many.symm ▸ row)⟩
          rw [kept, Option.bind_some] at plain
          rw [if_pos rfl, List.getElem?_map, kept, Option.map_some, Option.bind_some,
            opaqueRow_getElem? (lengths bytes (List.mem_of_getElem? kept)) column small, plain]
          simp
      constructor
      · rintro same across down far c column r row byte small
        have here := shown (x + c) (by omega) (y + r) byte small
        rw [same] at here
        change surface.byteAt (x + c) (y + r) byte = _ at here
        rw [if_pos (by dsimp only [part]; omega)] at here
        dsimp only [part] at here
        rw [Nat.add_sub_cancel_left, Nat.add_sub_cancel_left, cells column row small] at here
        exact here
      · intro there
        apply raster_ext (length.trans sized.length) sized.length
        intro x' across y' down byte small
        rw [shown x' across y' byte small]
        split
        · rename_i inside
          dsimp only [part] at inside ⊢
          have column : x' - x < width := by omega
          have row : y' - y < height := by omega
          have here := there (by omega) (by omega) (by omega) _ column _ row byte small
          rw [Nat.add_sub_cancel' inside.1, Nat.add_sub_cancel' inside.2.2.1] at here
          rw [cells column row small]
          exact here.symm
        · rfl

/-! ## Alphas -/

theorem alphaPlane_end (done : total ≤ position) : alphaPlane total position data = [] := by
  rw [alphaPlane, if_neg (Nat.not_lt.mpr done)]

theorem alphaPlane_stop (failed : readAlphaRun data = .error stop) :
    alphaPlane total position data = [] := by
  rw [alphaPlane]
  split
  · split
    · rfl
    · rename_i read
      rw [failed] at read
      cases read
  · rfl

theorem alphaPlane_run {count : Nat} {rest : Bytes} {alpha : UInt8} (more : position < total)
    (read : readAlphaRun data = .ok ((alpha, count), rest)) :
    alphaPlane total position data =
      if count = 0 ∨ total - position < count then []
      else List.replicate count alpha ++ alphaPlane total (position + count) rest := by
  rw [alphaPlane, if_pos more]
  split
  · rename_i failed
    rw [read] at failed
    cases failed
  rename_i read'
  rw [read] at read'
  cases read'
  rfl

theorem alphaPlane_length (total position : Nat) (data : Bytes) :
    (alphaPlane total position data).length ≤ total - position := by
  induction size : data.length using Nat.strongRecOn generalizing data position with
  | ind n ih =>
    by_cases more : position < total
    · cases read : readAlphaRun data with
      | error stop =>
        rw [alphaPlane_stop read]
        exact Nat.zero_le _
      | ok run =>
        obtain ⟨⟨alpha, count⟩, rest⟩ := run
        rw [alphaPlane_run more read]
        split
        · exact Nat.zero_le _
        have shorter := readAlphaRun_consumes read
        have later := ih rest.length (by omega) (position + count) rest rfl
        rw [List.length_append, List.length_replicate]
        omega
    · rw [alphaPlane_end (Nat.not_lt.mp more)]
      exact Nat.zero_le _

section Runs

variable {rect : Rect16} {pixels : Bytes} {position : Nat}

theorem surfaceAlphaRun_refused {left top width total count : Nat} {alpha : UInt8}
    (inside : position ≤ total) (bad : count = 0 ∨ total - position < count) :
    surfaceAlphaRun i left top width position total count alpha session =
      (.error (.returned .protocolError), session) := by
  rw [surfaceAlphaRun, checkedSub_of_le inside, checked, Effect.lift_ok_bind, if_pos bad]
  rfl

theorem alphaRuns_writes (held : session.graphicsSurfaces[i]? = some surface)
    (sized : surface.Sized) (length : pixels.length = surface.pixels.length)
    (on : surface.Holds rect) (inside : position ≤ rect.width * rect.height) (data : Bytes) :
    ∃ result, alphaRuns i rect.left.toNat rect.top.toNat rect.width (rect.width * rect.height)
        position data (session.drawn i surface pixels) =
      (result, session.drawn i surface (writeCells (surface.alphas rect) position
        (alphaPlane (rect.width * rect.height) position data) pixels)) := by
  induction size : data.length using Nat.strongRecOn generalizing data position pixels with
  | ind n ih =>
    by_cases more : position < rect.width * rect.height
    · cases read : readAlphaRun data with
      | error stop =>
        rw [alphaRuns_stop more read, alphaPlane_stop read]
        exact ⟨_, rfl⟩
      | ok run =>
        obtain ⟨⟨alpha, count⟩, rest⟩ := run
        rw [alphaRuns_run more read, alphaPlane_run more read]
        by_cases bad : count = 0 ∨ rect.width * rect.height - position < count
        · rw [if_pos bad, Effect.bind_error (surfaceAlphaRun_refused inside bad)]
          exact ⟨_, rfl⟩
        have some : 0 < count := by omega
        have fit : position + count ≤ rect.width * rect.height := by omega
        have shorter := readAlphaRun_consumes read
        rw [if_neg bad,
          Effect.bind_ok (surfaceAlphaRun_drawn held sized length on some fit alpha),
          writeCells_append, List.length_replicate]
        exact ih rest.length (by omega) (by rw [writeCells_length, length]) fit rest rfl
    · rw [alphaRuns_end (Nat.not_lt.mp more), alphaPlane_end (Nat.not_lt.mp more)]
      exact ⟨_, rfl⟩

theorem writeCells_alphas_iff (sized : surface.Sized) (on : surface.Holds rect) {plane : Bytes}
    (fit : plane.length ≤ rect.width * rect.height) :
    writeCells (surface.alphas rect) 0 plane surface.pixels = surface.pixels ↔
      ∀ j < plane.length, surface.byteAt (rect.left.toNat + j % rect.width)
        (rect.top.toNat + j / rect.width) 3 = plane[j]? := by
  apply writeCells_eq_iff
  · intro j held
    exact alphas_lt on sized (Nat.lt_of_lt_of_le held fit)
  · intro j j' after before same
    exact absurd (alphas_inj on (by omega) (by omega) same) (by omega)

end Runs

theorem surfaceApplyAlpha_off (held : session.graphicsSurfaces[i]? = some surface)
    (off : ¬ surface.Holds wire.destRect) :
    surfaceApplyAlpha i wire session = (.error (.returned .protocolError), session) := by
  have invalid : (decide (wire.destRect.right ≤ wire.destRect.left) ||
      decide (wire.destRect.bottom ≤ wire.destRect.top) ||
      decide (surface.width < wire.destRect.right) ||
      decide (surface.height < wire.destRect.bottom)) = true := by
    by_contra valid
    simp only [UInt16.le_iff_toNat_le, UInt16.lt_iff_toNat_lt, Bool.or_eq_true,
      decide_eq_true_eq, not_or, Nat.not_le, Nat.not_lt] at valid
    exact off ⟨valid.1.1.1, valid.1.1.2, valid.1.2, valid.2⟩
  rw [surfaceApplyAlpha, Effect.bind_ok (surfaceAt_held held)]
  simp only [invalid, if_true]
  rfl

theorem surfaceApplyAlpha_unsigned (held : session.graphicsSurfaces[i]? = some surface)
    {rect : Rect16} (on : surface.Holds rect) (surfaceId : UInt16) (pixelFormat : UInt8)
    {bitmapData : Bytes} (unsigned : ∀ s0 s1 c0 c1 data, bitmapData = s0 :: s1 :: c0 :: c1 :: data →
      u16Le s0 s1 ≠ alphaSignature) :
    surfaceApplyAlpha i ⟨surfaceId, pixelFormat, rect, bitmapData⟩ session =
        (.error (.returned .protocolError), session) ∧
      WireToSurface1.alphas ⟨surfaceId, pixelFormat, rect, bitmapData⟩ = [] := by
  rw [surfaceApplyAlpha, Effect.bind_ok (surfaceAt_held held)]
  simp only [on.accepted, Bool.false_eq_true, if_false]
  obtain _ | ⟨s0, _ | ⟨s1, _ | ⟨c0, _ | ⟨c1, data⟩⟩⟩⟩ := bitmapData
  · exact ⟨rfl, rfl⟩
  · exact ⟨rfl, rfl⟩
  · exact ⟨rfl, rfl⟩
  · exact ⟨rfl, rfl⟩
  · have bad := unsigned _ _ _ _ _ rfl
    simp only [if_neg on.fits, WireToSurface1.alphas, if_pos bad]
    exact ⟨rfl, trivial⟩

theorem surfaceApplyAlpha_leftover (held : session.graphicsSurfaces[i]? = some surface)
    (sized : surface.Sized) (failed : (surfaceApplyAlpha i wire session).1 = .error stop) :
    Leftover session i surface (surface.AlreadyAlphas wire)
      (surfaceApplyAlpha i wire session).2 := by
  by_cases on : surface.Holds wire.destRect
  · -- Where nothing is written there are no alphas to be there already.
    have untouched (none : wire.alphas = []) : surface.AlreadyAlphas wire := by
      intro _ j inside
      rw [none] at inside
      cases inside
    obtain ⟨surfaceId, pixelFormat, rect, bitmapData⟩ := wire
    by_cases signed : ∃ s0 s1 c0 c1 data, bitmapData = s0 :: s1 :: c0 :: c1 :: data ∧
        u16Le s0 s1 = alphaSignature
    · obtain ⟨s0, s1, c0, c1, data, rfl, signed⟩ := signed
      have iff {plane : Bytes} (fit : plane.length ≤ rect.width * rect.height)
          (brings : WireToSurface1.alphas
            ⟨surfaceId, pixelFormat, rect, s0 :: s1 :: c0 :: c1 :: data⟩ = plane) :
          writeCells (surface.alphas rect) 0 plane surface.pixels = surface.pixels ↔
            surface.AlreadyAlphas
              ⟨surfaceId, pixelFormat, rect, s0 :: s1 :: c0 :: c1 :: data⟩ := by
        rw [writeCells_alphas_iff sized on fit, ← brings]
        exact ⟨fun there _ => there, fun there => there on⟩
      have start := drawn_self held
      rw [surfaceApplyAlpha_signed held on signed] at failed ⊢
      by_cases raw : u16Le c0 c1 = 0
      · rw [if_pos raw] at failed ⊢
        by_cases cut : data.length ≠ rect.width * rect.height
        · rw [if_pos cut]
          apply Leftover.unchanged held
          apply untouched
          simp only [WireToSurface1.alphas, if_neg (not_not.mpr signed), if_pos raw, if_pos cut]
        have length := not_not.mp cut
        have wrote := alphaBytes_drawn held sized rfl on (by rw [Nat.zero_add, length])
        rw [start] at wrote
        rw [if_neg cut, Effect.bind_ok wrote] at failed ⊢
        refine .of_flush (iff length.le ?_) failed
        simp only [WireToSurface1.alphas, if_neg (not_not.mpr signed), if_pos raw, if_neg cut]
      have brings : WireToSurface1.alphas
          ⟨surfaceId, pixelFormat, rect, s0 :: s1 :: c0 :: c1 :: data⟩ =
            alphaPlane (rect.width * rect.height) 0 data := by
        simp only [WireToSurface1.alphas, if_neg (not_not.mpr signed), if_neg raw]
      have same := iff (alphaPlane_length _ _ _) brings
      obtain ⟨result, wrote⟩ := alphaRuns_writes held sized rfl on (Nat.zero_le _) data
      rw [start] at wrote
      rw [if_neg raw] at failed ⊢
      cases result with
      | error stopped =>
        rw [Effect.bind_error wrote]
        exact ⟨rfl, _, rfl, same⟩
      | ok rest =>
        rw [Effect.bind_ok wrote] at failed ⊢
        by_cases more : rest ≠ []
        · rw [if_pos more]
          exact ⟨rfl, _, rfl, same⟩
        · rw [if_neg more] at failed ⊢
          exact .of_flush same failed
    · obtain ⟨refused, none⟩ := surfaceApplyAlpha_unsigned held on surfaceId pixelFormat
        fun s0 s1 c0 c1 data opened same => signed ⟨s0, s1, c0, c1, data, opened, same⟩
      rw [refused]
      exact .unchanged held (untouched none)
  · rw [surfaceApplyAlpha_off held on]
    exact .unchanged held fun holds => absurd holds on

end Leftovers

/-! ## Failed commands -/

section Commands

variable {session : WireSession} {memory : ClearMemory} {wire : WireToSurface1} {i : Nat}
  {surface : GraphicsSurface} {status : Status}

theorem rejectUnsupported_state (m : WireEffect α) (session : WireSession) :
    (rejectUnsupported m session).2 = (m session).2 := by
  unfold rejectUnsupported
  split
  · rename_i ran
    rw [ran]
  · rfl

theorem rejectUnsupported_failed {m : WireEffect α}
    (failed : (rejectUnsupported m session).1 = .error (.returned status)) :
    ∃ status', (m session).1 = .error (.returned status') := by
  unfold rejectUnsupported at failed
  split at failed
  · rename_i ran
    exact ⟨.unsupported, congrArg Prod.fst ran⟩
  · exact ⟨status, failed⟩

theorem surfaceWriteWire_leftover {graphics : GraphicsSession}
    (held : graphics.graphicsSurfaces[i]? = some surface) (active : surface.active = true)
    (sized : surface.Sized) (context : ClearContext)
    (failed : (surfaceWriteWire i wire graphics).1 = .error (.returned status)) :
    Leftover graphics i surface (surface.Already memory context .uncompressed wire)
      (surfaceWriteWire i wire graphics).2 := by
  rw [surfaceWriteWire] at failed ⊢
  by_cases turned : (decide (wire.destRect.right < wire.destRect.left) ||
      decide (wire.destRect.bottom < wire.destRect.top)) = true
  · rw [if_pos turned]
    apply Leftover.unchanged held
    intro across down
    rw [Bool.or_eq_true, decide_eq_true_eq, decide_eq_true_eq, UInt16.lt_iff_toNat_lt,
      UInt16.lt_iff_toNat_lt] at turned
    omega
  · rw [if_neg turned] at failed ⊢
    rw [Bool.or_eq_true, decide_eq_true_eq, decide_eq_true_eq, UInt16.lt_iff_toNat_lt,
      UInt16.lt_iff_toNat_lt, not_or, Nat.not_lt, Nat.not_lt] at turned
    by_cases cut : wire.bitmapData.length ≠ wire.destRect.width * wire.destRect.height * 4
    · have cut' : wire.bitmapData.length ≠
          (wire.destRect.right.toNat - wire.destRect.left.toNat) *
            (wire.destRect.bottom.toNat - wire.destRect.top.toNat) * 4 := cut
      rw [if_pos cut']
      apply Leftover.unchanged held
      intro _ _ whole
      exact absurd whole cut
    have whole : ¬ wire.bitmapData.length ≠
        (wire.destRect.right.toNat - wire.destRect.left.toNat) *
          (wire.destRect.bottom.toNat - wire.destRect.top.toNat) * 4 := cut
    rw [if_neg whole] at failed ⊢
    obtain ⟨output, next, surfaces, iff⟩ := surfaceWriteBgra_leftover held active sized failed
    exact ⟨output, next, surfaces, iff.trans
      ⟨fun there _ _ _ => there, fun there => there turned.1 turned.2 (not_not.mp cut)⟩⟩

theorem surfaceWriteDecoded_leftover
    (held : session.graphics.graphicsSurfaces[i]? = some surface) (active : surface.active = true)
    (sized : surface.Sized) {decoded : Bytes × Nat}
    (failed : (surfaceWriteDecoded i wire decoded session).1 = .error (.returned status)) :
    Leftover session.graphics i surface
      (surface.AlreadyBgra wire.destRect.left.toNat wire.destRect.top.toNat
        (wire.destRect.right - wire.destRect.left).toNat
        (wire.destRect.bottom - wire.destRect.top).toNat decoded.1 decoded.2
        (wire.pixelFormat == graphicsPixelFormatXrgb8888))
      (surfaceWriteDecoded i wire decoded session).2.graphics :=
  surfaceWriteBgra_leftover held active sized failed

theorem handleWireToSurface1_leftover {codec : WireCodec}
    (found : session.graphics.surfaceFind wire.surfaceId = some (i, surface))
    (sized : surface.Sized)
    (failed : (handleWireToSurface1 memory codec wire session).1 = .error (.returned status)) :
    Leftover session.graphics i surface (surface.Already memory session.clearcodec codec wire)
      (handleWireToSurface1 memory codec wire session).2.graphics := by
  obtain ⟨held, active⟩ := surfaceFind_held found
  have finds : onGraphics (surfaceFound wire.surfaceId) session = (.ok i, session) := by
    simp only [onGraphics, Effect.zoom, surfaceFound, Effect.get_bind, found, Effect.pure_apply]
  rw [handleWireToSurface1, Effect.bind_ok finds] at failed ⊢
  cases codec with
  | uncompressed => exact surfaceWriteWire_leftover held active sized session.clearcodec failed
  | alpha => exact surfaceApplyAlpha_leftover held sized failed
  | clearcodec =>
    obtain ⟨status', failed'⟩ := rejectUnsupported_failed failed
    dsimp only
    rw [rejectUnsupported_state]
    cases ran : clearDecodeBitmap memory wire.bitmapData
        (wire.destRect.right - wire.destRect.left).toNat
        (wire.destRect.bottom - wire.destRect.top).toNat
        { context := session.clearcodec, pixels := [], stride := 0 } with
    | mk result frame =>
      cases result with
      | error stop =>
        have decodes : clearcodecDecode memory wire.bitmapData
            (wire.destRect.right - wire.destRect.left).toNat
            (wire.destRect.bottom - wire.destRect.top).toNat session =
            (.error stop, { session with clearcodec := frame.context }) := by
          rw [clearcodecDecode, ran]
        rw [Effect.bind_error decodes]
        apply Leftover.unchanged held
        intro frame' decoded
        cases congrArg Prod.fst (ran.symm.trans decoded)
      | ok =>
        have decodes : clearcodecDecode memory wire.bitmapData
            (wire.destRect.right - wire.destRect.left).toNat
            (wire.destRect.bottom - wire.destRect.top).toNat session =
            (.ok (frame.pixels, frame.stride),
              { session with clearcodec := frame.context }) := by
          rw [clearcodecDecode, ran]
        rw [Effect.bind_ok decodes] at failed' ⊢
        obtain ⟨output, next, surfaces, iff⟩ := @surfaceWriteDecoded_leftover
          { session with clearcodec := frame.context } wire i surface status' held active sized
          _ failed'
        refine ⟨output, next, surfaces, iff.trans ⟨?_, fun there => there frame ran⟩⟩
        intro there frame' decoded
        cases congrArg Prod.snd (ran.symm.trans decoded)
        exact there
  | planar =>
    obtain ⟨status', failed'⟩ := rejectUnsupported_failed failed
    dsimp only
    rw [rejectUnsupported_state]
    cases ran : planarDecodeArgb wire.bitmapData
        (wire.destRect.right - wire.destRect.left).toNat
        (wire.destRect.bottom - wire.destRect.top).toNat with
    | error stop =>
      apply Leftover.unchanged held
      intro pixels stride decoded
      cases ran.symm.trans decoded
    | ok decoded =>
      rw [ran, Effect.lift_ok_bind] at failed'
      rw [Effect.lift_ok_bind]
      obtain ⟨output, next, surfaces, iff⟩ :=
        surfaceWriteDecoded_leftover held active sized failed'
      refine ⟨output, next, surfaces, iff.trans ⟨?_, fun there => there _ _ ran⟩⟩
      intro there pixels stride decoded'
      cases ran.symm.trans decoded'
      exact there

/-- A command that fails leaves the pixels of all surfaces and of the output as they were if and only
    if what it writes before it fails is in its surface already: the alphas of the runs before
    the first bad one, and the pixels that are decoded when only the flush fails. -/
theorem failed_wire_keeps_picture_iff
    (sized : ∀ (i : Nat) (surface : GraphicsSurface),
      session.graphics.graphicsSurfaces[i]? = some surface → surface.active = true → surface.Sized)
    {codec : WireCodec}
    (failed : (handleWireToSurface1 memory codec wire session).1 = .error (.returned status)) :
    SamePicture session.graphics (handleWireToSurface1 memory codec wire session).2.graphics ↔
      ∀ i surface, session.graphics.surfaceFind wire.surfaceId = some (i, surface) →
        surface.Already memory session.clearcodec codec wire := by
  cases found : session.graphics.surfaceFind wire.surfaceId with
  | none =>
      have misses : onGraphics (surfaceFound wire.surfaceId) session =
          (.error (.returned .protocolError), session) := by
        simp only [onGraphics, Effect.zoom, surfaceFound, Effect.get_bind, found]
        rfl
      rw [handleWireToSurface1, Effect.bind_error misses]
      exact iff_of_true ⟨rfl, rfl⟩ fun _ _ same => by cases same
  | some place =>
      obtain ⟨i, surface⟩ := place
      obtain ⟨held, active⟩ := surfaceFind_held found
      have left := handleWireToSurface1_leftover found (sized i surface held active) failed
      rw [left.same_iff held]
      constructor
      · intro there i' surface' same
        cases same
        exact there
      · intro there
        exact there i surface rfl

end Commands

theorem twoPixelSession_sized (locked : Bool) (i : Nat) (surface : GraphicsSurface)
    (held : (twoPixelSession locked).graphicsSurfaces[i]? = some surface) : surface.Sized := by
  obtain _ | i := i
  · cases held
    exact twoPixels_sized
  · cases held

/-- Black pixels on black ones, which the output cannot show while it is locked. -/
theorem failed_wire_keeps_picture_iff_black :
    let session : WireSession := ⟨twoPixelSession true, {}⟩
    let wire : WireToSurface1 := ⟨1, graphicsPixelFormatArgb8888, ⟨0, 0, 2, 1⟩, List.replicate 8 0⟩
    (handleWireToSurface1 {} .uncompressed wire session).1 = .error (.returned .state) ∧
    SamePicture session.graphics (handleWireToSurface1 {} .uncompressed wire session).2.graphics := by
  intro session wire
  refine ⟨rfl, (@failed_wire_keeps_picture_iff session {} wire .state
    (fun i surface held _ => twoPixelSession_sized true i surface held) .uncompressed rfl).mpr ?_⟩
  intro i surface found
  obtain ⟨rfl, rfl⟩ : i = 0 ∧ surface = twoPixels := by
    cases found
    exact ⟨rfl, rfl⟩
  have there : twoPixels.ShowsBgra 0 0 2 1 (List.replicate 8 0) 8 false := by
    unfold GraphicsSurface.ShowsBgra
    decide
  exact fun _ _ _ _ _ _ => there

/-- A run of one alpha and then nothing: the alpha stays. -/
theorem alpha_cut_short_is_drawn :
    let session : WireSession := ⟨twoPixelSession false, {}⟩
    let wire : WireToSurface1 := ⟨1, graphicsPixelFormatArgb8888, ⟨0, 0, 2, 1⟩,
      [0x4c, 0x41, 1, 0, 7, 1]⟩
    (∀ (i : Nat) (surface : GraphicsSurface), session.graphics.graphicsSurfaces[i]? = some surface →
      surface.active = true → surface.Sized) ∧
    (handleWireToSurface1 {} .alpha wire session).1 = .error (.returned .protocolError) ∧
    session.graphics.graphicsSurfaces.map (·.pixels) = [[0, 0, 0, 0, 0, 0, 0, 0]] ∧
    (handleWireToSurface1 {} .alpha wire session).2.graphics.graphicsSurfaces.map (·.pixels) =
      [[0, 0, 0, 7, 0, 0, 0, 0]] := by
  intro session wire
  have first : surfaceAlphaRun 0 0 0 2 0 2 (UInt8.toNat 1) 7 (twoPixelSession false) =
      (.ok 1, (twoPixelSession false).drawn 0 twoPixels [0, 0, 0, 7, 0, 0, 0, 0]) := rfl
  have runs : alphaRuns 0 0 0 2 2 0 [7, 1] (twoPixelSession false) =
      (.error (.returned .protocolError),
        (twoPixelSession false).drawn 0 twoPixels [0, 0, 0, 7, 0, 0, 0, 0]) := by
    rw [alphaRuns_run (by decide) (rfl : readAlphaRun [7, 1] = .ok ((7, 1), [])),
      Effect.bind_ok first, alphaRuns_stop (by decide) rfl]
    rfl
  have applied : surfaceApplyAlpha 0 wire (twoPixelSession false) =
      (.error (.returned .protocolError),
        (twoPixelSession false).drawn 0 twoPixels [0, 0, 0, 7, 0, 0, 0, 0]) := by
    rw [surfaceApplyAlpha_signed rfl twoPixels_holds (by decide), if_neg (by decide)]
    exact Effect.bind_error runs
  have handled : handleWireToSurface1 {} .alpha wire session =
      (.error (.returned .protocolError),
        ⟨(twoPixelSession false).drawn 0 twoPixels [0, 0, 0, 7, 0, 0, 0, 0], {}⟩) := by
    change ((surfaceApplyAlpha 0 wire (twoPixelSession false)).1,
      { session with graphics := (surfaceApplyAlpha 0 wire (twoPixelSession false)).2 }) = _
    rw [applied]
  rw [handled]
  exact ⟨fun i surface held _ => twoPixelSession_sized false i surface held, rfl, rfl, rfl⟩

end LibRdp.Client
