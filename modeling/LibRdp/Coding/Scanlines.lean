import Mathlib.Algebra.Group.Defs
import Mathlib.Data.List.Basic

/-! # Pictures drawn by strokes

A picture is drawn pixel by pixel, row after row. A stroke computes the next
pixel from the one above it; above the first row all is blank.
-/

namespace LibRdp.Coding

variable {α : Type}

theorem ne_of_prefixes {pixels done done' : List α} {a b : α} (different : a ≠ b)
    (first : pixels ++ [a] <+: done) (second : pixels ++ [b] <+: done') : done ≠ done' := by
  rintro rfl
  have shorter := List.prefix_of_prefix_length_le first second (by simp)
  have same := shorter.eq_of_length (by simp)
  exact different (List.singleton_inj.mp (List.append_cancel_left same))

variable [Zero α]

/-- The pixel above the next one. -/
def above (width : Nat) (pixels : List α) : α :=
  if pixels.length < width then 0 else pixels.getD (pixels.length - width) 0

/-- Draw stroke by stroke, each with what is above it by then. -/
def draw (width : Nat) (pixels : List α) : List (α → α) → List α
  | [] => pixels
  | stroke :: strokes => draw width (pixels ++ [stroke (above width pixels)]) strokes

/-- Draw with nothing above any stroke. -/
def drawBlank (pixels : List α) (strokes : List (α → α)) : List α :=
  pixels ++ strokes.map (fun stroke => stroke 0)

@[simp] theorem draw_length (width : Nat) (pixels : List α) (strokes : List (α → α)) :
    (draw width pixels strokes).length = pixels.length + strokes.length := by
  induction strokes generalizing pixels with
  | nil => rfl
  | cons stroke strokes ih =>
    rw [draw, ih, List.length_append, List.length_cons, List.length_cons, List.length_nil]
    omega

theorem draw_append (width : Nat) (pixels : List α) (first second : List (α → α)) :
    draw width pixels (first ++ second) = draw width (draw width pixels first) second := by
  induction first generalizing pixels with
  | nil => rfl
  | cons stroke first ih => exact ih _

theorem draw_prefix (width : Nat) (pixels : List α) (strokes : List (α → α)) :
    pixels <+: draw width pixels strokes := by
  induction strokes generalizing pixels with
  | nil => exact List.prefix_rfl
  | cons stroke strokes ih => exact (List.prefix_append pixels _).trans (ih _)

theorem draw_first_row {width : Nat} {pixels : List α} {strokes : List (α → α)}
    (inside : pixels.length + strokes.length ≤ width) :
    draw width pixels strokes = drawBlank pixels strokes := by
  induction strokes generalizing pixels with
  | nil => exact (List.append_nil pixels).symm
  | cons stroke strokes ih =>
    rw [List.length_cons] at inside
    have blank : above width pixels = 0 := if_pos (by omega)
    rw [draw, blank, ih (by rw [List.length_append, List.length_singleton]; omega), drawBlank,
      drawBlank, List.map_cons, List.append_assoc]
    rfl

end LibRdp.Coding
