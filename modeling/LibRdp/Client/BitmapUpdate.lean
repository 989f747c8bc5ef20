import LibRdp.Client.GraphicsFlush
import LibRdp.Graphics.BitmapWire

/-! # Bitmap updates that arrive

The rectangles of a bitmap update are decoded and drawn on the output one after the other.
-/

namespace LibRdp.Client

open Graphics Machine Coding

/-- One iteration of `rdp_session_apply_bitmap_update`. -/
def applyBitmapRect (palette : Option Palette) (rect : BitmapRect) : GraphicsEffect Unit := do
  let (pixels, stride) ← .lift (decodeRectBgra32WithPalette rect palette)
  blitBgra32 rect.destLeft.toNat rect.destTop.toNat rect.width.toNat rect.height.toNat pixels 0
    stride

/-- `rdp_session_apply_bitmap_update`. -/
def applyBitmapUpdate (palette : Option Palette) (rects : List BitmapRect) : GraphicsEffect Unit :=
  rects.forM (applyBitmapRect palette)

structure HoldsRows (rect : BitmapRect) (rows : List Bytes) : Prop where
  deep : rect.bitsPerPixel = 32
  plain : rect.flags = 0
  wide : 0 < rect.width.toNat
  high : 0 < rect.height.toNat
  data : rect.data = rows.flatten
  many : rows.length = rect.height.toNat
  lengths : ∀ row ∈ rows, row.length = rect.width.toNat * 4

def destArea (rect : BitmapRect) : OutputArea where
  x := rect.destLeft.toNat
  y := rect.destTop.toNat
  width := rect.width.toNat
  height := rect.height.toNat

section Rows

variable {rect : BitmapRect} {rows : List Bytes} {palette : Option Palette}

theorem HoldsRows.length (holds : HoldsRows rect rows) :
    rect.data.length = rect.height.toNat * (rect.width.toNat * 4) := by
  rw [holds.data, flatten_rows_length holds.lengths, holds.many]

theorem decodeRows_plain (holds : HoldsRows rect rows) {left : Nat} (few : left ≤ rows.length) :
    decodeRows rect palette (rect.width.toNat * 4) left = .ok (rows.take left).reverse.flatten := by
  induction left with
  | zero => rfl
  | succ left ih =>
    have held : rows[left]? = some rows[left] := List.getElem?_eq_getElem few
    have inside := Nat.mul_le_mul_right (rect.width.toNat * 4) few
    rw [Nat.succ_mul, holds.many, ← holds.length] at inside
    have row : decodeRow rect palette (left * (rect.width.toNat * 4)) = .ok rows[left] := by
      rw [decodeRow, if_pos holds.deep, if_pos inside, holds.data,
        flatten_rows_block holds.lengths held]
    rw [decodeRows, row, ok_bind, ih (Nat.le_of_succ_le few), List.take_add_one, held]
    simp only [ok_bind, attempt_pure, Option.toList_some, List.reverse_append,
      List.reverse_singleton, List.singleton_append, List.flatten_cons]

theorem decodeRectBgra32WithPalette_plain (holds : HoldsRows rect rows) :
    decodeRectBgra32WithPalette rect palette =
      .ok (rows.reverse.flatten, rect.width.toNat * 4) := by
  have wide := holds.wide
  have narrow := rect.width.toNat_lt
  have low := rect.height.toNat_lt
  have area : rect.width ≠ 0 ∧ rect.height ≠ 0 := by
    have high := holds.high
    constructor <;> rintro same <;> simp only [same] at wide high <;> contradiction
  have packed : packedStride rect.width rect.bitsPerPixel = some (rect.width.toNat * 4) := by
    have few : ¬ rect.width.toNat > sizeMax / 4 := by
      rw [sizeMax]
      omega
    rw [packedStride, holds.deep, if_neg (by decide), if_neg (by decide)]
    exact if_neg few
  have aligned : strideAligned (rect.width.toNat * 4) = some (rect.width.toNat * 4) := by
    rw [strideAligned, if_pos (Nat.mul_mod_left _ _)]
  have whole := @decodeRows_plain rect rows palette holds rows.length (Nat.le_refl _)
  rw [List.take_length, holds.many] at whole
  have room : ¬ rect.height.toNat > sizeMax / (rect.width.toNat * 4) := by
    rw [not_lt, Nat.le_div_iff_mul_le (by omega), sizeMax]
    have most := Nat.mul_le_mul (Nat.le_of_lt low)
      (Nat.mul_le_mul_right 4 (Nat.le_of_lt narrow))
    omega
  rw [decodeRectBgra32WithPalette, holds.plain, if_neg (by decide), decodeUncompressedBgra32,
    holds.plain, if_neg (by rw [holds.deep]; decide), if_neg (by rw [holds.deep]; simp),
    if_neg (by simp [area]), packed]
  simp only [aligned, if_neg room, holds.length]
  rw [if_neg (by rw [Nat.mul_comm]; exact Nat.lt_irrefl _), if_neg (by simp), whole]
  rfl

end Rows

section Drawing

variable {session : GraphicsSession} {rect : BitmapRect} {rows : List Bytes}

theorem applyBitmapRect_drawn (palette : Option Palette) (sized : session.surface.Sized)
    (unlocked : session.surface.mapped = false) (holds : HoldsRows rect rows)
    (inside : (destArea rect).Inside session.surface) :
    ∃ next, applyBitmapRect palette rect session =
        (.ok (), { session with surface := { session.surface with pixels := next } }) ∧
      next.length = session.surface.pixels.length ∧
      ∀ x y byte, x < session.surface.width → byte < 4 →
        pixelCell 4 session.surface.width next x y byte =
          if (destArea rect).Holds x y then
            rows[rect.height.toNat - 1 - (y - rect.destTop.toNat)]?.bind
              (·[(x - rect.destLeft.toNat) * 4 + byte]?)
          else session.surface.byteAt x y byte := by
  have lengths : ∀ row ∈ rows.reverse, row.length = rect.width.toNat * 4 := by
    intro row held
    exact holds.lengths row (List.mem_reverse.mp held)
  have many : rows.reverse.length = rect.height.toNat := by rw [List.length_reverse, holds.many]
  have packed := readRows_flatten lengths
  rw [many] at packed
  have fit := rowsFit_packed (rect.width.toNat * 4) rect.height.toNat
  rw [← many, ← flatten_rows_length lengths, many] at fit
  obtain ⟨read, next, reads, -, drawn, same, shown⟩ :=
    OutputSurface.blitBgra32_drawn sized unlocked inside (Nat.le_refl _) fit
  cases packed.symm.trans reads
  refine ⟨next, ?_, same, ?_⟩
  · have blit : blitBgra32 rect.destLeft.toNat rect.destTop.toNat rect.width.toNat
        rect.height.toNat rows.reverse.flatten 0 (rect.width.toNat * 4) session =
        (.ok (), { session with surface := { session.surface with pixels := next } }) := by
      rw [blitBgra32, Effect.get_bind]
      exact Effect.bind_ok (Prod.ext drawn rfl)
    rw [applyBitmapRect, decodeRectBgra32WithPalette_plain holds, Effect.lift_ok_bind]
    exact blit
  · intro x y byte across small
    rw [shown x y byte across small]
    by_cases here : (destArea rect).Holds x y
    · rw [if_pos here, if_pos here]
      obtain ⟨-, -, top, bottom⟩ := here
      change rows.reverse[y - rect.destTop.toNat]?.bind _ = _
      rw [List.getElem?_reverse (by rw [holds.many]; simp only [destArea] at top bottom; omega),
        holds.many]
      rfl
    · rw [if_neg here, if_neg here]

/-- A rectangle whose rows are those of a picture where it is drawn. -/
def Pictures (picture : Nat → Nat → Nat → Option UInt8) (rect : BitmapRect) : Prop :=
  ∃ rows, HoldsRows rect rows ∧ ∀ x y byte, (destArea rect).Holds x y → byte < 4 →
    rows[rect.height.toNat - 1 - (y - rect.destTop.toNat)]?.bind
      (·[(x - rect.destLeft.toNat) * 4 + byte]?) = picture x y byte

theorem applyBitmapUpdate_pictures (palette : Option Palette) {rects : List BitmapRect}
    {picture : Nat → Nat → Nat → Option UInt8} (sized : session.surface.Sized)
    (unlocked : session.surface.mapped = false)
    (each : ∀ rect ∈ rects, Pictures picture rect ∧ (destArea rect).Inside session.surface) :
    ∃ next, applyBitmapUpdate palette rects session =
        (.ok (), { session with surface := { session.surface with pixels := next } }) ∧
      next.length = session.surface.pixels.length ∧
      ∀ x y byte, x < session.surface.width → byte < 4 →
        ((∃ rect ∈ rects, (destArea rect).Holds x y) →
          pixelCell 4 session.surface.width next x y byte = picture x y byte) ∧
        ((∀ rect ∈ rects, ¬ (destArea rect).Holds x y) →
          pixelCell 4 session.surface.width next x y byte = session.surface.byteAt x y byte) := by
  induction rects generalizing session with
  | nil => exact ⟨session.surface.pixels, rfl, rfl, fun x y byte _ _ => ⟨nofun, fun _ => rfl⟩⟩
  | cons rect rects ih =>
    rw [List.forall_mem_cons] at each
    obtain ⟨⟨⟨rows, holds, shows⟩, inside⟩, later⟩ := each
    obtain ⟨first, ran, length, drawn⟩ :=
      applyBitmapRect_drawn palette sized unlocked holds inside
    have fits (rect : BitmapRect) (listed : rect ∈ rects) : Pictures picture rect ∧
        (destArea rect).Inside { session.surface with pixels := first } := by
      obtain ⟨shown, wide, high, across, down⟩ := later rect listed
      exact ⟨shown, wide, high, across, down⟩
    obtain ⟨next, rest, length', drawn'⟩ := @ih
      { session with surface := { session.surface with pixels := first } }
      (length.trans sized) unlocked fits
    refine ⟨next, ?_, length'.trans length, ?_⟩
    · exact (Effect.bind_ok ran).trans rest
    · intro x y byte across small
      obtain ⟨inside', outside'⟩ := drawn' x y byte across small
      have here := drawn x y byte across small
      constructor
      · intro some
        by_cases below : ∃ rect ∈ rects, (destArea rect).Holds x y
        · exact inside' below
        obtain ⟨held, listed, holds'⟩ := some
        rcases List.mem_cons.mp listed with rfl | listed
        · rw [outside' fun rect listed holds' => below ⟨rect, listed, holds'⟩]
          exact (here.trans (if_pos holds')).trans (shows x y byte holds' small)
        · exact absurd ⟨held, listed, holds'⟩ below
      · intro none
        rw [List.forall_mem_cons] at none
        rw [outside' none.2]
        exact here.trans (if_neg none.1)

end Drawing

end LibRdp.Client
