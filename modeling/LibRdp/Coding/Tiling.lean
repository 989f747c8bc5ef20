import Mathlib.Data.List.Range
import Mathlib.Data.Nat.Init

/-! # Blocks that tile a rectangle

A rectangle is cut into columns of a limited width, and each of them into blocks of as many rows
as are allowed for its width. The blocks are apart from each other and there is nothing of the
rectangle outside of them.
-/

namespace LibRdp.Coding

variable {step stop : Nat}

/-- The values of a counter that starts at zero and grows by `step` while it is below `stop`. -/
def offsets (step stop : Nat) : List Nat := List.range' 0 ((stop + step - 1) / step) step

theorem mem_offsets (some : 0 < step) {start : Nat} :
    start ∈ offsets step stop ↔ step ∣ start ∧ start < stop := by
  have few (i : Nat) : i < (stop + step - 1) / step ↔ step * i < stop := by
    rw [← Nat.succ_le_iff, Nat.le_div_iff_mul_le some, Nat.succ_mul, Nat.mul_comm step]
    omega
  simp only [offsets, List.mem_range', few, Nat.zero_add]
  constructor
  · rintro ⟨i, before, rfl⟩
    exact ⟨Nat.dvd_mul_right step i, before⟩
  · rintro ⟨⟨i, rfl⟩, before⟩
    exact ⟨i, before, rfl⟩

theorem offsets_apart (step stop : Nat) :
    (offsets step stop).Pairwise fun start next => start + step ≤ next := by
  rw [List.pairwise_iff_getElem]
  intro i j first second later
  simp only [offsets, List.getElem_range', Nat.zero_add]
  have after := Nat.mul_le_mul_left step later
  rw [Nat.mul_succ] at after
  exact after

theorem offsets_cover (some : 0 < step) {place : Nat} :
    (∃ start ∈ offsets step stop, start ≤ place ∧ place < start + min (stop - start) step) ↔
      place < stop := by
  simp only [mem_offsets some]
  constructor
  · rintro ⟨start, -, low, high⟩
    omega
  · intro inside
    have whole := Nat.div_add_mod place step
    have short := Nat.mod_lt place some
    exact ⟨step * (place / step), ⟨Nat.dvd_mul_right step _, by omega⟩, by omega, by omega⟩

/-- A rectangle of cells. -/
structure Block where
  left : Nat
  top : Nat
  width : Nat
  height : Nat
  deriving Repr, DecidableEq

def Block.Holds (block : Block) (x y : Nat) : Prop :=
  block.left ≤ x ∧ x < block.left + block.width ∧ block.top ≤ y ∧ y < block.top + block.height

instance (block : Block) (x y : Nat) : Decidable (block.Holds x y) := by
  unfold Block.Holds
  infer_instance

/-- No cell is in both. -/
def Block.Apart (block other : Block) : Prop := ∀ x y, block.Holds x y → ¬ other.Holds x y

/-- Blocks without overlaps that make up a whole. -/
structure Tiles (blocks : List Block) (whole : Block) : Prop where
  apart : blocks.Pairwise Block.Apart
  cover : ∀ x y, (∃ block ∈ blocks, block.Holds x y) ↔ whole.Holds x y

/-- A piece of a column: as many rows as are left, and no more than `rows`. -/
def columnBlock (whole : Block) (column width rows row : Nat) : Block where
  left := whole.left + column
  top := whole.top + row
  width := width
  height := min (whole.height - row) rows

/-- Columns that are at most `across` wide, in blocks of as many rows as `down` says for the width
    of the column. -/
def gridBlocks (across : Nat) (down : Nat → Nat) (whole : Block) : List Block :=
  (offsets across whole.width).flatMap fun column =>
    let width := min (whole.width - column) across
    (offsets (down width) whole.height).map (columnBlock whole column width (down width))

section Grid

variable {across : Nat} {down : Nat → Nat} {whole : Block}

theorem mem_gridBlocks {block : Block} : block ∈ gridBlocks across down whole ↔
    ∃ column ∈ offsets across whole.width,
      ∃ row ∈ offsets (down (min (whole.width - column) across)) whole.height,
        columnBlock whole column (min (whole.width - column) across)
          (down (min (whole.width - column) across)) row = block := by
  simp only [gridBlocks, List.mem_flatMap, List.mem_map]

theorem columnBlock_holds {column width rows row x y : Nat} :
    (columnBlock whole column width rows row).Holds x y ↔
      (whole.left ≤ x ∧ column ≤ x - whole.left ∧ x - whole.left < column + width) ∧
      whole.top ≤ y ∧ row ≤ y - whole.top ∧
        y - whole.top < row + min (whole.height - row) rows := by
  simp only [columnBlock, Block.Holds]
  omega

theorem gridBlocks_apart : (gridBlocks across down whole).Pairwise Block.Apart := by
  rw [gridBlocks, List.pairwise_flatMap]
  constructor
  · intro column _
    rw [List.pairwise_map]
    apply (offsets_apart _ _).imp
    intro row below after x y here there
    rw [columnBlock_holds] at here there
    omega
  · apply (offsets_apart _ _).imp
    intro column right after block listed other listed' x y here there
    obtain ⟨row, -, rfl⟩ := List.mem_map.mp listed
    obtain ⟨row', -, rfl⟩ := List.mem_map.mp listed'
    rw [columnBlock_holds] at here there
    omega

theorem gridBlocks_tiles (some : 0 < across)
    (rows : ∀ width, 0 < width → width ≤ across → 0 < down width) :
    Tiles (gridBlocks across down whole) whole := by
  refine ⟨gridBlocks_apart, ?_⟩
  intro x y
  have wide {column : Nat} (listed : column ∈ offsets across whole.width) :
      0 < down (min (whole.width - column) across) := by
    have inside := ((mem_offsets some).mp listed).2
    exact rows _ (by omega) (Nat.min_le_right _ _)
  constructor
  · rintro ⟨block, listed, here⟩
    obtain ⟨column, across', row, below, rfl⟩ := mem_gridBlocks.mp listed
    rw [columnBlock_holds] at here
    have inside := (offsets_cover some).mp ⟨column, across', here.1.2⟩
    have under := (offsets_cover (wide across')).mp ⟨row, below, here.2.2⟩
    unfold Block.Holds
    omega
  · rintro ⟨left, right, top, bottom⟩
    obtain ⟨column, across', here⟩ :=
      (@offsets_cover across whole.width some (x - whole.left)).mpr (by omega)
    obtain ⟨row, below, there⟩ :=
      (@offsets_cover _ whole.height (wide across') (y - whole.top)).mpr (by omega)
    exact ⟨_, mem_gridBlocks.mpr ⟨column, across', row, below, rfl⟩,
      columnBlock_holds.mpr ⟨⟨left, here⟩, top, there⟩⟩

theorem gridBlocks_each (some : 0 < across)
    (rows : ∀ width, 0 < width → width ≤ across → 0 < down width) {block : Block}
    (listed : block ∈ gridBlocks across down whole) :
    (whole.left ≤ block.left ∧ block.left + block.width ≤ whole.left + whole.width) ∧
    (whole.top ≤ block.top ∧ block.top + block.height ≤ whole.top + whole.height) ∧
    0 < block.width ∧ 0 < block.height ∧ block.width ≤ across ∧ block.height ≤ down block.width := by
  obtain ⟨column, across', row, below, rfl⟩ := mem_gridBlocks.mp listed
  have inside := ((mem_offsets some).mp across').2
  have high := rows (min (whole.width - column) across) (by omega) (Nat.min_le_right _ _)
  have under := ((mem_offsets high).mp below).2
  simp only [columnBlock]
  omega

end Grid

end LibRdp.Coding
