import LibRdp.Machine.Memory

/-! # Rectangles inside rasters

A raster is a buffer of rows that follow each other at a fixed distance. Blocks and rows are read
and written with a check of the buffer's end; a rectangle that lies inside a raster passes every
check, and a write leaves the buffer as long as it was.
-/

namespace LibRdp.Coding

open Machine

variable {B : Type} {buffer block next : List B} {rows : List (List B)}
  {start stride count height : Nat}

/-- `count` cells from `start` on. -/
def readBlock (buffer : List B) (start count : Nat) : Exec (List B) :=
  if start + count ≤ buffer.length then .ok ((buffer.drop start).take count)
  else .error .outOfBounds

/-- A buffer with a block written over its cells from `start` on. -/
def writeBlock (buffer : List B) (start : Nat) (block : List B) : Exec (List B) :=
  if start + block.length ≤ buffer.length then
    .ok (buffer.take start ++ block ++ buffer.drop (start + block.length))
  else .error .outOfBounds

/-- Rows of `count` cells, the first one from `start` on. -/
def readRows (buffer : List B) (start stride count : Nat) : Nat → Exec (List (List B))
  | 0 => .ok []
  | height + 1 => do
      let row ← readBlock buffer start count
      let rows ← readRows buffer (start + stride) stride count height
      pure (row :: rows)

/-- A buffer with rows written over it, the first one from `start` on. -/
def writeRows (buffer : List B) (start stride : Nat) : List (List B) → Exec (List B)
  | [] => .ok buffer
  | row :: rows => do
      let buffer ← writeBlock buffer start row
      writeRows buffer (start + stride) stride rows

/-- All rows of a rectangle end inside a buffer. -/
def RowsFit (length start stride count height : Nat) : Prop :=
  ∀ row < height, start + row * stride + count ≤ length

theorem RowsFit.first {length : Nat} (fit : RowsFit length start stride count (height + 1)) :
    start + count ≤ length := by
  have here := fit 0 (Nat.succ_pos height)
  omega

theorem RowsFit.later {length : Nat} (fit : RowsFit length start stride count (height + 1)) :
    RowsFit length (start + stride) stride count height := by
  intro row inside
  have here := fit (row + 1) (Nat.succ_lt_succ inside)
  rw [Nat.succ_mul] at here
  omega

/-- A rectangle inside a raster fits; `scale` is the size of a pixel. -/
theorem rowsFit_inside {scale width fullWidth fullHeight left top : Nat}
    (across : left + width ≤ fullWidth) (down : top + height ≤ fullHeight) :
    RowsFit (scale * fullWidth * fullHeight) (top * (fullWidth * scale) + left * scale)
      (fullWidth * scale) (width * scale) height := by
  intro row inside
  have wide : left * scale + width * scale ≤ fullWidth * scale := by
    rw [← Nat.add_mul]
    exact Nat.mul_le_mul_right scale across
  have high : (top + row + 1) * (fullWidth * scale) ≤ fullHeight * (fullWidth * scale) :=
    Nat.mul_le_mul_right _ (by omega)
  have whole : fullHeight * (fullWidth * scale) = scale * fullWidth * fullHeight := by
    rw [Nat.mul_comm, Nat.mul_comm fullWidth]
  rw [Nat.succ_mul, Nat.add_mul, whole] at high
  omega

/-- The rows of a rectangle that is packed without gaps fit. -/
theorem rowsFit_packed (width height : Nat) : RowsFit (height * width) 0 width width height := by
  intro row inside
  have here : (row + 1) * width ≤ height * width := Nat.mul_le_mul_right width inside
  rw [Nat.succ_mul] at here
  omega

theorem readBlock_ok (inside : start + count ≤ buffer.length) :
    ∃ block, readBlock buffer start count = .ok block ∧ block.length = count := by
  refine ⟨_, if_pos inside, ?_⟩
  rw [List.length_take, List.length_drop]
  omega

theorem writeBlock_ok (inside : start + block.length ≤ buffer.length) :
    ∃ next, writeBlock buffer start block = .ok next ∧ next.length = buffer.length := by
  refine ⟨_, if_pos inside, ?_⟩
  simp only [List.length_append, List.length_take, List.length_drop]
  omega

theorem readRows_ok (fit : RowsFit buffer.length start stride count height) :
    ∃ rows, readRows buffer start stride count height = .ok rows ∧ rows.length = height ∧
      ∀ row ∈ rows, row.length = count := by
  induction height generalizing start with
  | zero => exact ⟨[], rfl, rfl, nofun⟩
  | succ height ih =>
    obtain ⟨row, read, length⟩ := readBlock_ok fit.first
    obtain ⟨rows, reads, many, lengths⟩ := ih fit.later
    refine ⟨row :: rows, ?_, ?_, ?_⟩
    · rw [readRows, read, ok_bind, reads]
      rfl
    · rw [List.length_cons, many]
    · rw [List.forall_mem_cons]
      exact ⟨length, lengths⟩

theorem readRows_lengths (read : readRows buffer start stride count height = .ok rows) :
    rows.length = height ∧ ∀ row ∈ rows, row.length = count := by
  induction height generalizing start rows with
  | zero =>
    cases read
    exact ⟨rfl, nofun⟩
  | succ height ih =>
    rw [readRows, bind_eq_ok] at read
    obtain ⟨row, first, read⟩ := read
    rw [bind_eq_ok] at read
    obtain ⟨later, reads, same⟩ := read
    cases same
    obtain ⟨many, lengths⟩ := ih reads
    have length : row.length = count := by
      unfold readBlock at first
      split at first
      · cases first
        rw [List.length_take, List.length_drop]
        omega
      · cases first
    rw [List.length_cons, many, List.forall_mem_cons]
    exact ⟨rfl, length, lengths⟩

theorem writeRows_ok (lengths : ∀ row ∈ rows, row.length = count)
    (fit : RowsFit buffer.length start stride count rows.length) :
    ∃ next, writeRows buffer start stride rows = .ok next ∧ next.length = buffer.length := by
  induction rows generalizing buffer start with
  | nil => exact ⟨buffer, rfl, rfl⟩
  | cons row rows ih =>
    rw [List.forall_mem_cons] at lengths
    obtain ⟨next, wrote, same⟩ := @writeBlock_ok _ buffer row start (by
      rw [lengths.1]
      exact fit.first)
    obtain ⟨last, writes, same'⟩ := ih lengths.2 (by
      rw [same]
      exact fit.later)
    refine ⟨last, ?_, same'.trans same⟩
    rw [writeRows, wrote, ok_bind, writes]

theorem writeRows_length (wrote : writeRows buffer start stride rows = .ok next) :
    next.length = buffer.length := by
  induction rows generalizing buffer start with
  | nil =>
    cases wrote
    rfl
  | cons row rows ih =>
    obtain ⟨middle, first, later⟩ := bind_eq_ok.mp wrote
    unfold writeBlock at first
    split at first
    · cases first
      rw [ih later]
      simp only [List.length_append, List.length_take, List.length_drop]
      omega
    · cases first

/-- Packed rows. -/
theorem flatten_rows_length (lengths : ∀ row ∈ rows, row.length = count) :
    rows.flatten.length = rows.length * count := by
  induction rows with
  | nil => simp
  | cons row rows ih =>
    rw [List.forall_mem_cons] at lengths
    rw [List.flatten_cons, List.length_append, ih lengths.2, lengths.1, List.length_cons,
      Nat.succ_mul, Nat.add_comm]

end LibRdp.Coding
