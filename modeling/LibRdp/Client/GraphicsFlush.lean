import LibRdp.Client.GraphicsDrawing
import LibRdp.Coding.Pixels

/-! # What a flush shows

A flush draws a part of a surface on the output. A pixel of the output belongs to the part if its
place, scaled back, is between the part's edges rounded outwards; it then shows the pixel of the
surface that its place is scaled back to. A flush fails for want of memory, or because the
application holds a mapping of the output, and then the output is as it was.
-/

namespace LibRdp.Client

open Graphics Machine Coding

structure GraphicsSurface.Sized (surface : GraphicsSurface) : Prop where
  wide : 0 < surface.width.toNat
  high : 0 < surface.height.toNat
  length : surface.pixels.length = 4 * surface.width.toNat * surface.height.toNat

def OutputSurface.Sized (output : OutputSurface) : Prop :=
  output.pixels.length = 4 * output.width * output.height

def GraphicsSurface.byteAt (surface : GraphicsSurface) (x y part : Nat) : Option UInt8 :=
  pixelCell 4 surface.width.toNat surface.pixels x y part

def OutputSurface.byteAt (output : OutputSurface) (x y part : Nat) : Option UInt8 :=
  pixelCell 4 output.width output.pixels x y part

structure GraphicsSurface.Mapped (surface : GraphicsSurface) (limits : GraphicsLimits) : Prop where
  active : surface.active = true
  sized : surface.Sized
  mapped : surface.mapped = true
  wide : 0 < surface.targetWidth.toNat
  high : 0 < surface.targetHeight.toNat
  max : surface.targetWidth.toNat ≤ graphicsSurfaceMaxDimension ∧
    surface.targetHeight.toNat ≤ graphicsSurfaceMaxDimension
  limit : surface.targetWidth.toNat ≤ limits.surfaceMaxDimension ∧
    surface.targetHeight.toNat ≤ limits.surfaceMaxDimension
  scaled : surface.scaled = (surface.targetWidth != surface.width.toUInt32 ||
    surface.targetHeight != surface.height.toUInt32)

structure SurfacePart (surface : GraphicsSurface) where
  left : Nat
  top : Nat
  right : Nat
  bottom : Nat
  across : left < right
  down : top < bottom
  wide : right ≤ surface.width.toNat
  high : bottom ≤ surface.height.toNat

def SurfacePart.Covers {surface : GraphicsSurface} (part : SurfacePart surface) (x y : Nat) : Prop :=
  let width := surface.width.toNat
  let height := surface.height.toNat
  let originX := surface.outputOriginX.toNat
  let originY := surface.outputOriginY.toNat
  originX + part.left * surface.targetWidth.toNat / width ≤ x ∧
  x < originX + (part.right * surface.targetWidth.toNat + width - 1) / width ∧
  originY + part.top * surface.targetHeight.toNat / height ≤ y ∧
  y < originY + (part.bottom * surface.targetHeight.toNat + height - 1) / height

instance {surface : GraphicsSurface} (part : SurfacePart surface) (x y : Nat) :
    Decidable (part.Covers x y) := by
  unfold SurfacePart.Covers
  infer_instance

def GraphicsSurface.sample (surface : GraphicsSurface) (x y part : Nat) : Option UInt8 :=
  surface.byteAt
    ((x - surface.outputOriginX.toNat) * surface.width.toNat / surface.targetWidth.toNat)
    ((y - surface.outputOriginY.toNat) * surface.height.toNat / surface.targetHeight.toNat) part

structure Shows {surface : GraphicsSurface} (part : SurfacePart surface)
    (before after : OutputSurface) : Prop where
  width : after.width = before.width
  height : after.height = before.height
  mapped : after.mapped = before.mapped
  sized : after.Sized
  shown : ∀ x y byte, x < before.width → y < before.height → byte < 4 →
    after.byteAt x y byte =
      if part.Covers x y then surface.sample x y byte else before.byteAt x y byte

structure OutputArea.Inside (area : OutputArea) (output : OutputSurface) : Prop where
  wide : 0 < area.width
  high : 0 < area.height
  across : area.x + area.width ≤ output.width
  down : area.y + area.height ≤ output.height

def OutputArea.Holds (area : OutputArea) (x y : Nat) : Prop :=
  area.x ≤ x ∧ x < area.x + area.width ∧ area.y ≤ y ∧ y < area.y + area.height

instance (area : OutputArea) (x y : Nat) : Decidable (area.Holds x y) := by
  unfold OutputArea.Holds
  infer_instance

section Blits

variable {output : OutputSurface} {area : OutputArea} {pixels : Bytes} {start stride : Nat}

theorem OutputSurface.blitBgra32_locked (locked : output.mapped = true) (x y width height : Nat) :
    output.blitBgra32 x y width height pixels start stride = refuse .state := by
  rw [OutputSurface.blitBgra32, if_pos locked]

theorem OutputSurface.blitBgra32_drawn (sized : output.Sized) (unlocked : output.mapped = false)
    (inside : area.Inside output) (far : area.width * 4 ≤ stride)
    (fit : RowsFit pixels.length start stride (area.width * 4) area.height) :
    ∃ rows next, readRows pixels start stride (area.width * 4) area.height = .ok rows ∧
      rows.length = area.height ∧
      output.blitBgra32 area.x area.y area.width area.height pixels start stride =
        .ok { output with pixels := next } ∧
      next.length = output.pixels.length ∧
      ∀ x y byte, x < output.width → byte < 4 → pixelCell 4 output.width next x y byte =
        if area.Holds x y then rows[y - area.y]?.bind (·[(x - area.x) * 4 + byte]?)
        else output.byteAt x y byte := by
  obtain ⟨rows, read, many, lengths⟩ := readRows_ok fit
  obtain ⟨wide, high, across, down⟩ := inside
  have target : RowsFit output.pixels.length (area.y * (output.width * 4) + area.x * 4)
      (output.width * 4) (area.width * 4) rows.length := by
    rw [many, sized]
    exact rowsFit_inside across down
  obtain ⟨next, wrote, same⟩ := writeRows_ok lengths target
  have allowed : ¬ (area.width = 0 ∨ area.height = 0 ∨ output.width < area.x ∨
      output.height < area.y ∨ output.width - area.x < area.width ∨
      output.height - area.y < area.height) := by
    omega
  have locked : ¬ output.mapped = true := by
    rw [unlocked]
    exact Bool.false_ne_true
  refine ⟨rows, next, read, many, ?_, same, ?_⟩
  · rw [OutputSurface.blitBgra32, if_neg locked, if_neg allowed, if_neg (Nat.not_lt.mpr far), read,
      checked, ok_bind, wrote, checked, ok_bind]
    rfl
  · intro x y byte here small
    have shown := writeRows_pixelCell lengths wrote across here small y
    rw [many] at shown
    exact shown

end Blits

section Scaling

variable {surface : GraphicsSurface} {output : OutputSurface} {area : OutputArea}
  {left top right bottom : Nat}

theorem scaledArea_holds (part : SurfacePart surface) {x y : Nat} (across : x < output.width)
    (down : y < output.height) :
    part.Covers x y ↔ ∃ area,
      scaledArea output surface part.left part.top part.right part.bottom = some area ∧
      area.Holds x y := by
  simp only [scaledArea, SurfacePart.Covers, OutputArea.Holds]
  generalize part.left * surface.targetWidth.toNat / surface.width.toNat = relLeft
  generalize part.top * surface.targetHeight.toNat / surface.height.toNat = relTop
  generalize (part.right * surface.targetWidth.toNat + surface.width.toNat - 1) /
    surface.width.toNat = relRight
  generalize (part.bottom * surface.targetHeight.toNat + surface.height.toNat - 1) /
    surface.height.toNat = relBottom
  split
  · simp only [reduceCtorEq, false_and, exists_false, iff_false]
    omega
  split
  · simp only [reduceCtorEq, false_and, exists_false, iff_false]
    omega
  · simp only [Option.some.injEq, exists_eq_left']
    omega

theorem scaledArea_inside
    (found : scaledArea output surface left top right bottom = some area) : area.Inside output := by
  simp only [scaledArea] at found
  split at found
  · cases found
  split at found
  · cases found
  cases found
  constructor
  all_goals simp only
  all_goals omega

theorem scaled_lt {rel size target : Nat} (inside : rel < target) (some : 0 < size) :
    rel * size / target < size := by
  rw [Nat.div_lt_iff_lt_mul (by omega), Nat.mul_comm]
  exact (Nat.mul_lt_mul_left some).mpr inside

theorem scaled_end_le {stop size target : Nat} (inside : stop ≤ size) (some : 0 < size) :
    (stop * target + size - 1) / size ≤ target := by
  have whole : stop * target ≤ size * target := Nat.mul_le_mul_right target inside
  rw [← Nat.lt_succ_iff, Nat.div_lt_iff_lt_mul some, Nat.succ_mul, Nat.mul_comm target]
  omega

theorem SurfacePart.Covers.scaled {part : SurfacePart surface} {x y : Nat}
    (covers : part.Covers x y) (sized : surface.Sized) :
    (surface.outputOriginX.toNat ≤ x ∧
      x - surface.outputOriginX.toNat < surface.targetWidth.toNat) ∧
    surface.outputOriginY.toNat ≤ y ∧
      y - surface.outputOriginY.toNat < surface.targetHeight.toNat := by
  obtain ⟨afterX, beforeX, afterY, beforeY⟩ := covers
  have endX := @scaled_end_le part.right surface.width.toNat surface.targetWidth.toNat part.wide
    sized.wide
  have endY := @scaled_end_le part.bottom surface.height.toNat surface.targetHeight.toNat part.high
    sized.high
  have placeX := Nat.le_trans (Nat.le_add_right _ _) afterX
  have placeY := Nat.le_trans (Nat.le_add_right _ _) afterY
  omega

theorem scaledRow_ok (sized : surface.Sized) (part : SurfacePart surface)
    (found : scaledArea output surface part.left part.top part.right part.bottom = some area)
    {y : Nat} (down : y < area.height) :
    ∃ row, scaledRow surface area y = .ok row ∧ row.length = area.width * 4 ∧
      ∀ x < area.width, ∀ byte < 4,
        row[x * 4 + byte]? = surface.sample (area.x + x) (area.y + y) byte := by
  have inside := scaledArea_inside found
  have covered {x : Nat} (across : x < area.width) : part.Covers (area.x + x) (area.y + y) :=
    (@scaledArea_holds surface output part _ _ (by have := inside.across; omega)
      (by have := inside.down; omega)).mpr ⟨area, found, by unfold OutputArea.Holds; omega⟩
  obtain ⟨blocks, ran, many, each⟩ := @mapM_range Bytes Fault
    (fun x => readBlock surface.pixels
      (min ((area.y + y - surface.outputOriginY.toNat) * surface.height.toNat /
        surface.targetHeight.toNat) (surface.height.toNat - 1) * (surface.width.toNat * 4) +
        min ((area.x + x - surface.outputOriginX.toNat) * surface.width.toNat /
          surface.targetWidth.toNat) (surface.width.toNat - 1) * 4) 4)
    (fun x block => block.length = 4 ∧ ∀ byte < 4,
      block[byte]? = surface.sample (area.x + x) (area.y + y) byte) area.width (by
      intro x across
      obtain ⟨⟨-, relX⟩, -, relY⟩ := (covered across).scaled sized
      have srcX := scaled_lt relX sized.wide
      have srcY := scaled_lt relY sized.high
      rw [Nat.min_eq_left (by omega), Nat.min_eq_left (by omega)]
      have fit := @rowsFit_inside 1 4 1 surface.width.toNat surface.height.toNat _ _ srcX srcY 0
        Nat.one_pos
      rw [← sized.length, Nat.zero_mul, Nat.add_zero] at fit
      obtain ⟨block, read, length⟩ := readBlock_ok fit
      exact ⟨block, read, length, fun byte small => readBlock_getElem? read small⟩)
  have lengths : ∀ block ∈ blocks, block.length = 4 := by
    intro block held
    obtain ⟨k, -, length, -⟩ := mapM_range_mem many each held
    exact length
  refine ⟨blocks.flatten, ?_, ?_, ?_⟩
  · rw [scaledRow, ran]
    rfl
  · rw [flatten_rows_length lengths, many]
  · intro x across byte small
    obtain ⟨block, here, -, shows⟩ := each x across
    rw [flatten_rows_getElem? lengths (many.symm ▸ across) small, here]
    exact shows byte small

end Scaling

section Flushes

variable {session : GraphicsSession} {surface : GraphicsSurface} {i : Nat}

theorem surfaceAt_held (held : session.graphicsSurfaces[i]? = some surface) :
    surfaceAt i session = (.ok surface, session) := by
  simp only [surfaceAt, Effect.get_bind, held, Effect.pure_apply]

theorem beq_zero_of_pos {v : UInt32} (some : 0 < v.toNat) : (v == 0) = false := by
  rw [beq_eq_false_iff_ne]
  rintro rfl
  cases some

theorem reserve_cases (session : GraphicsSession) :
    (session.memory.head? = some false ∧
      reserve session = (.error (.returned .noMemory), { session with memory := session.memory.tail })) ∨
    reserve session = (.ok (), { session with memory := session.memory.tail }) := by
  obtain ⟨limits, surface, surfaces, cache, bytes, tiles, clock, frame, memory⟩ := session
  obtain _ | ⟨_ | _, rest⟩ := memory
  · exact .inr rfl
  · exact .inl ⟨rfl, rfl⟩
  · exact .inr rfl

/-- How a flush of a part of a mapped surface ends: the part is shown, or the output stays as it is
    because there is no memory for the scaled pixels, or because the application holds a mapping of
    an output that the part is on. -/
inductive FlushEnds (session : GraphicsSession) (part : SurfacePart surface) :
    Except Stop Unit × GraphicsSession → Prop where
  | shown {output : OutputSurface} {memory : List Bool} (shows : Shows part session.surface output)
      (hidden : session.surface.mapped = true → ∀ x < session.surface.width,
        ∀ y < session.surface.height, ¬ part.Covers x y) :
      FlushEnds session part (.ok (), { session with surface := output, memory := memory })
  | noMemory {memory : List Bool} (scaled : surface.scaled = true)
      (refused : session.memory.head? = some false) :
      FlushEnds session part (.error (.returned .noMemory), { session with memory := memory })
  | locked {memory : List Bool} {x y : Nat} (locked : session.surface.mapped = true)
      (across : x < session.surface.width) (down : y < session.surface.height)
      (covers : part.Covers x y) :
      FlushEnds session part (.error (.returned .state), { session with memory := memory })

variable {part : SurfacePart surface}

theorem Shows.hidden {output : OutputSurface} (sized : output.Sized)
    (off : scaledArea output surface part.left part.top part.right part.bottom = none) :
    Shows part output output ∧
      ∀ x < output.width, ∀ y < output.height, ¬ part.Covers x y := by
  have away : ∀ x < output.width, ∀ y < output.height, ¬ part.Covers x y := by
    intro x across y down covers
    obtain ⟨area, found, -⟩ := (scaledArea_holds part across down).mp covers
    rw [off] at found
    cases found
  refine ⟨⟨rfl, rfl, rfl, sized, ?_⟩, away⟩
  intro x y byte across down small
  rw [if_neg (away x across y down)]

theorem blitBgra32_ends {area : OutputArea} {pixels : Bytes} {start stride : Nat}
    (sized : session.surface.Sized)
    (found : scaledArea session.surface surface part.left part.top part.right part.bottom = some area)
    (far : area.width * 4 ≤ stride)
    (fit : RowsFit pixels.length start stride (area.width * 4) area.height)
    (same : ∀ x < area.width, ∀ y < area.height, ∀ byte < 4,
      pixels[start + y * stride + (x * 4 + byte)]? =
        surface.sample (area.x + x) (area.y + y) byte) (memory : List Bool) :
    FlushEnds session part
      (blitBgra32 area.x area.y area.width area.height pixels start stride
        { session with memory := memory }) := by
  have inside := scaledArea_inside found
  cases locked : session.surface.mapped with
  | true =>
    have corner : part.Covers area.x area.y :=
      (@scaledArea_holds surface session.surface part _ _
        (by have := inside.across; have := inside.wide; omega)
        (by have := inside.down; have := inside.high; omega)).mpr
        ⟨area, found, by have := inside.wide; have := inside.high; unfold OutputArea.Holds; omega⟩
    rw [blitBgra32, Effect.get_bind, OutputSurface.blitBgra32_locked locked]
    exact .locked locked (by have := inside.across; have := inside.wide; omega)
      (by have := inside.down; have := inside.high; omega) corner
  | false =>
    obtain ⟨rows, next, read, many, ran, length, shown⟩ :=
      OutputSurface.blitBgra32_drawn sized locked inside far fit
    rw [blitBgra32, Effect.get_bind, ran]
    refine .shown ⟨rfl, rfl, rfl, length.trans sized, ?_⟩ fun other => ?_
    · intro x y byte across down small
      have here := shown x y byte across small
      change pixelCell 4 session.surface.width next x y byte = _
      rw [here]
      by_cases held : area.Holds x y
      · have covers := (scaledArea_holds part across down).mpr ⟨area, found, held⟩
        obtain ⟨afterX, beforeX, afterY, beforeY⟩ := held
        rw [if_pos ⟨afterX, beforeX, afterY, beforeY⟩, if_pos covers,
          readRows_getElem? read (by omega) (by omega), same _ (by omega) _ (by omega) _ small,
          Nat.add_sub_cancel' afterX, Nat.add_sub_cancel' afterY]
      have away : ¬ part.Covers x y := by
        intro covers
        obtain ⟨area', found', held'⟩ := (scaledArea_holds part across down).mp covers
        cases found.symm.trans found'
        exact held held'
      rw [if_neg held, if_neg away]
    · rw [locked] at other
      cases other

theorem surfaceFlushScaled_ends (held : session.graphicsSurfaces[i]? = some surface)
    (mapped : surface.Mapped session.limits) (scaled : surface.scaled = true)
    (sized : session.surface.Sized) (part : SurfacePart surface) :
    FlushEnds session part
      (surfaceFlushScaled i part.left part.top part.right part.bottom session) := by
  have few := mapped.max
  have limited := mapped.limit
  rw [surfaceFlushScaled, Effect.get_bind, Effect.bind_ok (surfaceAt_held held)]
  simp only [mapped.active, beq_zero_of_pos mapped.wide, beq_zero_of_pos mapped.high,
    Nat.not_lt.mpr few.1, Nat.not_lt.mpr few.2, Nat.not_lt.mpr limited.1, Nat.not_lt.mpr limited.2,
    Bool.not_true, Bool.or_false, decide_false, Bool.false_eq_true, if_false]
  cases found : scaledArea session.surface surface part.left part.top part.right part.bottom with
  | none =>
    obtain ⟨shows, away⟩ := Shows.hidden sized found
    exact .shown shows fun _ => away
  | some area =>
    obtain ⟨rows, ran, many, each⟩ := @mapM_range Bytes Fault (scaledRow surface area)
      (fun y row => row.length = area.width * 4 ∧ ∀ x < area.width, ∀ byte < 4,
        row[x * 4 + byte]? = surface.sample (area.x + x) (area.y + y) byte) area.height
      fun y down => scaledRow_ok mapped.sized part found down
    have lengths : ∀ row ∈ rows, row.length = area.width * 4 := by
      intro row kept
      obtain ⟨k, here⟩ := List.getElem?_of_mem kept
      have small : k < area.height := many ▸ (List.getElem?_eq_some_iff.mp here).1
      obtain ⟨row', here', length, -⟩ := each k small
      cases here.symm.trans here'
      exact length
    simp only [ran, checked]
    obtain ⟨refused, failed⟩ | given := reserve_cases session
    · rw [Effect.bind_error failed]
      exact .noMemory scaled refused
    · rw [Effect.bind_ok given]
      have fit : RowsFit rows.flatten.length 0 (area.width * 4) (area.width * 4) area.height := by
        rw [flatten_rows_length lengths, many]
        exact rowsFit_packed _ _
      apply blitBgra32_ends sized found (Nat.le_refl _) fit
      intro x across y down byte small
      obtain ⟨row, here, -, shows⟩ := each y down
      rw [Nat.zero_add, flatten_rows_getElem? lengths (many.symm ▸ down) (by omega), here]
      exact shows x across byte small

theorem GraphicsSurface.Mapped.plain {limits : GraphicsLimits} (mapped : surface.Mapped limits)
    (plain : surface.scaled = false) :
    surface.targetWidth.toNat = surface.width.toNat ∧
      surface.targetHeight.toNat = surface.height.toNat := by
  have same := mapped.scaled
  rw [plain, eq_comm, Bool.or_eq_false_iff, bne_eq_false_iff_eq, bne_eq_false_iff_eq] at same
  rw [same.1, same.2]
  exact ⟨rfl, rfl⟩

theorem scaledArea_plain {output : OutputSurface} (part : SurfacePart surface)
    (sized : surface.Sized) (wide : surface.targetWidth.toNat = surface.width.toNat)
    (high : surface.targetHeight.toNat = surface.height.toNat) :
    scaledArea output surface part.left part.top part.right part.bottom =
      if output.width ≤ surface.outputOriginX.toNat + part.left ∨
          output.height ≤ surface.outputOriginY.toNat + part.top then none
      else some
        { x := surface.outputOriginX.toNat + part.left
          y := surface.outputOriginY.toNat + part.top
          width := min (part.right - part.left)
            (output.width - (surface.outputOriginX.toNat + part.left))
          height := min (part.bottom - part.top)
            (output.height - (surface.outputOriginY.toNat + part.top)) } := by
  have up {stop size : Nat} (some : 0 < size) : (stop * size + size - 1) / size = stop := by
    rw [Nat.add_sub_assoc some, Nat.mul_comm, Nat.mul_add_div some, Nat.div_eq_of_lt (by omega),
      Nat.add_zero]
  have across := part.across
  have down := part.down
  simp only [scaledArea, wide, high, Nat.mul_div_cancel _ sized.wide,
    Nat.mul_div_cancel _ sized.high, up sized.wide, up sized.high]
  rw [if_neg (by omega)]
  split
  · rw [if_pos (by omega)]
  · rw [if_neg (by omega)]
    congr 2 <;> omega

theorem sample_plain (sized : surface.Sized)
    (wide : surface.targetWidth.toNat = surface.width.toNat)
    (high : surface.targetHeight.toNat = surface.height.toNat) (x y byte : Nat) :
    surface.sample x y byte =
      surface.byteAt (x - surface.outputOriginX.toNat) (y - surface.outputOriginY.toNat) byte := by
  rw [GraphicsSurface.sample, wide, high, Nat.mul_div_cancel _ sized.wide,
    Nat.mul_div_cancel _ sized.high]

theorem surfaceFlush_ends (held : session.graphicsSurfaces[i]? = some surface)
    (mapped : surface.Mapped session.limits) (sized : session.surface.Sized)
    (part : SurfacePart surface) :
    FlushEnds session part (surfaceFlush i part.left part.top part.right part.bottom session) := by
  have some : (!surface.mapped || decide (part.right ≤ part.left) ||
      decide (part.bottom ≤ part.top)) = false := by
    simp [mapped.mapped, part.across, part.down]
  have inside : ¬ (surface.width.toNat < part.right ∨ surface.height.toNat < part.bottom) := by
    have := part.wide
    have := part.high
    omega
  rw [surfaceFlush, Effect.get_bind, Effect.bind_ok (surfaceAt_held held)]
  simp only [mapped.active, some, Bool.not_true, Bool.false_eq_true, if_false, if_neg inside]
  cases scaled : surface.scaled with
  | true => exact surfaceFlushScaled_ends held mapped scaled sized part
  | false =>
    obtain ⟨wide, high⟩ := mapped.plain scaled
    have area := @scaledArea_plain surface session.surface part mapped.sized wide high
    simp only [Bool.false_eq_true, if_false]
    split
    · rename_i off
      rw [if_pos off] at area
      obtain ⟨shows, away⟩ := Shows.hidden sized area
      exact .shown shows fun _ => away
    rename_i on
    rw [if_neg on] at area
    have spans : part.left + (part.right - part.left) ≤ surface.width.toNat := by
      have := part.wide
      have := part.across
      omega
    have reaches : part.top + (part.bottom - part.top) ≤ surface.height.toNat := by
      have := part.high
      have := part.down
      omega
    apply blitBgra32_ends sized area
    · dsimp only
      apply Nat.mul_le_mul_right
      omega
    · dsimp only
      rw [mapped.sized.length]
      exact rowsFit_inside (by omega) (by omega)
    · intro x across y down byte small
      rw [sample_plain mapped.sized wide high, GraphicsSurface.byteAt, pixelCell]
      have shiftX : surface.outputOriginX.toNat + part.left + x - surface.outputOriginX.toNat =
          part.left + x := by omega
      have shiftY : surface.outputOriginY.toNat + part.top + y - surface.outputOriginY.toNat =
          part.top + y := by omega
      rw [shiftX, shiftY, Nat.add_mul, Nat.add_mul]
      congr 1
      omega

theorem surfaceFlush_unmapped (held : session.graphicsSurfaces[i]? = some surface)
    (active : surface.active = true) (unmapped : surface.mapped = false)
    (left top right bottom : Nat) :
    surfaceFlush i left top right bottom session = (.ok (), session) := by
  rw [surfaceFlush, Effect.get_bind, Effect.bind_ok (surfaceAt_held held)]
  simp only [active, unmapped, Bool.not_true, Bool.not_false, Bool.true_or, Bool.false_eq_true,
    if_false, if_true]
  rfl

theorem reserve_leaves {view : GraphicsSession → β}
    (blind : ∀ session memory, view { session with memory } = view session) :
    Effect.Leaves view reserve := by
  refine .bind (fun session => ?_) fun _ => .ite (fun _ => .pure _) fun _ => .stop _
  unfold allocate
  split
  · rfl
  · exact blind session _

theorem surfaceAt_leaves {view : GraphicsSession → β} : Effect.Leaves view (surfaceAt i) := by
  refine .bind .get fun session => ?_
  split
  · exact .pure _
  · exact .stop _

theorem surfaceFlush_leaves (left top right bottom : Nat) :
    Effect.Leaves GraphicsSession.graphicsSurfaces (surfaceFlush i left top right bottom) := by
  have blits {x y width height start stride : Nat} {pixels : Bytes} :
      Effect.Leaves GraphicsSession.graphicsSurfaces
        (blitBgra32 x y width height pixels start stride) :=
    .bind .get fun _ => .bind (.lift _) fun _ => .modify fun _ => rfl
  have scales : Effect.Leaves GraphicsSession.graphicsSurfaces
      (surfaceFlushScaled i left top right bottom) := by
    refine .bind .get fun session => .bind surfaceAt_leaves fun surface => .ite (fun _ => .stop _) fun _ =>
      .ite (fun _ => .stop _) fun _ => .ite (fun _ => .stop _) fun _ => ?_
    split
    · exact .pure _
    · exact .bind (reserve_leaves fun _ _ => rfl) fun _ => .bind (.lift _) fun _ => blits
  exact .bind .get fun _ => .bind surfaceAt_leaves fun _ => .ite (fun _ => .stop _) fun _ =>
    .ite (fun _ => .pure _) fun _ => .ite (fun _ => .stop _) fun _ => .ite (fun _ => scales) fun _ =>
      .ite (fun _ => .pure _) fun _ => blits

end Flushes

end LibRdp.Client
