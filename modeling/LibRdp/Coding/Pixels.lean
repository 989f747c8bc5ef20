import LibRdp.Coding.Raster

/-! # Pixels of rasters

A raster whose pixels are `scale` cells each is seen pixel by pixel. Rows that are written over a
rectangle change what is seen inside of it and nothing else, rows that are read off a rectangle
show what is seen there.
-/

namespace LibRdp.Coding

open Machine

variable {B : Type} {buffer block next : List B} {rows : List (List B)}
  {start stride count height : Nat}

/-- A cell of a pixel of a raster that is `width` pixels wide. -/
def pixelCell (scale width : Nat) (buffer : List B) (x y part : Nat) : Option B :=
  buffer[y * (width * scale) + x * scale + part]?

theorem writeBlock_getElem? (wrote : writeBlock buffer start block = .ok next) (k : Nat) :
    next[k]? = if start ≤ k ∧ k < start + block.length then block[k - start]? else buffer[k]? := by
  unfold writeBlock at wrote
  split at wrote
  · rename_i inside
    cases wrote
    have before : (buffer.take start).length = start := by
      rw [List.length_take]
      omega
    rw [List.append_assoc]
    by_cases early : k < start
    · rw [List.getElem?_append_left (by rw [before]; exact early), List.getElem?_take_of_lt early,
        if_neg (by omega)]
    rw [List.getElem?_append_right (by rw [before]; omega), before]
    by_cases within : k < start + block.length
    · rw [List.getElem?_append_left (by omega), if_pos ⟨by omega, within⟩]
    rw [List.getElem?_append_right (by omega), List.getElem?_drop, if_neg (by omega)]
    congr 1
    omega
  · cases wrote

theorem readBlock_getElem? (read : readBlock buffer start count = .ok block) {k : Nat}
    (inside : k < count) : block[k]? = buffer[start + k]? := by
  unfold readBlock at read
  split at read
  · cases read
    rw [List.getElem?_take_of_lt inside, List.getElem?_drop]
  · cases read

/-- A row of a rectangle holds the cells of a pixel if and only if the pixel is in its row and
    between its ends. -/
theorem in_row_iff {scale width left count top x y part : Nat} (across : left + count ≤ width)
    (inside : x < width) (small : part < scale) :
    (top * (width * scale) + left * scale ≤ y * (width * scale) + x * scale + part ∧
      y * (width * scale) + x * scale + part < top * (width * scale) + left * scale + count * scale) ↔
    y = top ∧ left ≤ x ∧ x < left + count := by
  have ends : (left + count) * scale ≤ width * scale := Nat.mul_le_mul_right scale across
  have place : (x + 1) * scale ≤ width * scale := Nat.mul_le_mul_right scale inside
  rw [Nat.add_mul] at ends
  rw [Nat.succ_mul] at place
  constructor
  · rintro ⟨low, high⟩
    have same : y = top := by
      rcases Nat.lt_trichotomy y top with above | same | below
      · have rows : (y + 1) * (width * scale) ≤ top * (width * scale) :=
          Nat.mul_le_mul_right _ above
        rw [Nat.succ_mul] at rows
        omega
      · exact same
      · have rows : (top + 1) * (width * scale) ≤ y * (width * scale) :=
          Nat.mul_le_mul_right _ below
        rw [Nat.succ_mul] at rows
        omega
    subst same
    refine ⟨rfl, ?_, ?_⟩
    · by_contra short
      have before : (x + 1) * scale ≤ left * scale := Nat.mul_le_mul_right scale (by omega)
      rw [Nat.succ_mul] at before
      omega
    · by_contra long
      have after : (left + count) * scale ≤ x * scale := Nat.mul_le_mul_right scale (by omega)
      rw [Nat.add_mul] at after
      omega
  · rintro ⟨rfl, low, high⟩
    have before : left * scale ≤ x * scale := Nat.mul_le_mul_right scale low
    have after : (x + 1) * scale ≤ (left + count) * scale := Nat.mul_le_mul_right scale high
    rw [Nat.succ_mul, Nat.add_mul] at after
    omega

variable {scale width part r : Nat}

variable {x c : Nat}

theorem pixel_place_inj {x' y y' part' : Nat} (inside : x < width) (inside' : x' < width)
    (small : part < scale) (small' : part' < scale)
    (same : y * (width * scale) + x * scale + part = y' * (width * scale) + x' * scale + part') :
    x = x' ∧ y = y' ∧ part = part' := by
  obtain ⟨rfl, low, high⟩ := (@in_row_iff scale width x' 1 y' x y part inside' inside small).mp
    (by omega)
  obtain rfl : x = x' := by omega
  exact ⟨rfl, rfl, by omega⟩

theorem pixel_place_lt {height y : Nat} (across : x < width) (down : y < height)
    (small : part < scale) : y * (width * scale) + x * scale + part < scale * width * height := by
  have fit := @rowsFit_inside 1 scale 1 width height x y across down 0 Nat.one_pos
  omega

theorem exists_pixel_place {height k : Nat} (inside : k < scale * width * height) :
    ∃ x < width, ∃ y < height, ∃ part < scale, k = y * (width * scale) + x * scale + part := by
  have whole : scale * width * height = width * scale * height := by rw [Nat.mul_comm scale]
  rw [whole] at inside
  have row : 0 < width * scale := Nat.pos_of_mul_pos_right (Nat.zero_lt_of_lt inside)
  have some : 0 < scale := Nat.pos_of_mul_pos_left row
  refine ⟨k % (width * scale) / scale, ?_, k / (width * scale), Nat.div_lt_of_lt_mul inside,
    k % (width * scale) % scale, Nat.mod_lt _ some, ?_⟩
  · apply Nat.div_lt_of_lt_mul
    rw [Nat.mul_comm scale]
    exact Nat.mod_lt _ row
  · rw [Nat.add_assoc, Nat.div_add_mod', Nat.div_add_mod']

theorem raster_ext {height : Nat} {other : List B}
    (length : buffer.length = scale * width * height)
    (length' : other.length = scale * width * height)
    (same : ∀ x < width, ∀ y < height, ∀ part < scale,
      pixelCell scale width buffer x y part = pixelCell scale width other x y part) :
    buffer = other := by
  apply List.ext_getElem?
  intro k
  by_cases inside : k < scale * width * height
  · obtain ⟨x, across, y, down, part, small, rfl⟩ := exists_pixel_place inside
    exact same x across y down part small
  · rw [List.getElem?_eq_none (by omega), List.getElem?_eq_none (by omega)]

/-- Rows written over a rectangle: what is seen inside of it is the rows, elsewhere nothing has
    changed. -/
theorem writeRows_pixelCell {left top : Nat} (lengths : ∀ row ∈ rows, row.length = count * scale)
    (wrote : writeRows buffer (top * (width * scale) + left * scale) (width * scale) rows = .ok next)
    (across : left + count ≤ width) (inside : x < width) (small : part < scale) (y : Nat) :
    pixelCell scale width next x y part =
      if left ≤ x ∧ x < left + count ∧ top ≤ y ∧ y < top + rows.length then
        rows[y - top]?.bind (·[(x - left) * scale + part]?)
      else pixelCell scale width buffer x y part := by
  induction rows generalizing buffer top with
  | nil =>
    cases wrote
    rw [List.length_nil, if_neg (by omega)]
  | cons row rows ih =>
    rw [List.forall_mem_cons] at lengths
    rw [writeRows, bind_eq_ok] at wrote
    obtain ⟨middle, first, later⟩ := wrote
    have below : top * (width * scale) + left * scale + width * scale =
        (top + 1) * (width * scale) + left * scale := by
      rw [Nat.succ_mul]
      omega
    rw [below] at later
    have here := writeBlock_getElem? first (y * (width * scale) + x * scale + part)
    rw [lengths.1] at here
    simp only [in_row_iff across inside small] at here
    rw [ih lengths.2 later, List.length_cons]
    by_cases first : y = top
    · subst first
      rw [if_neg (by omega), pixelCell, here, Nat.sub_self, List.getElem?_cons_zero]
      by_cases between : left ≤ x ∧ x < left + count
      · rw [if_pos ⟨rfl, between⟩, if_pos ⟨between.1, between.2, Nat.le_refl y, by omega⟩]
        have place : left * scale ≤ x * scale := Nat.mul_le_mul_right scale between.1
        change row[_]? = row[_]?
        congr 1
        rw [Nat.sub_mul]
        omega
      · rw [if_neg fun both => between both.2, if_neg fun all => between ⟨all.1, all.2.1⟩]
        rfl
    have other : pixelCell scale width middle x y part = pixelCell scale width buffer x y part := by
      rw [pixelCell, here, if_neg fun both => first both.1]
      rfl
    rw [other]
    by_cases held : left ≤ x ∧ x < left + count ∧ top + 1 ≤ y ∧ y < top + 1 + rows.length
    · have next : y - top = y - (top + 1) + 1 := by omega
      rw [if_pos held, if_pos (by omega), next, List.getElem?_cons_succ]
    · rw [if_neg held, if_neg (by omega)]

theorem readRows_getElem? (read : readRows buffer start stride count height = .ok rows)
    (row : r < height) (column : c < count) :
    rows[r]?.bind (·[c]?) = buffer[start + r * stride + c]? := by
  induction height generalizing start rows r with
  | zero => exact absurd row (Nat.not_lt_zero r)
  | succ height ih =>
    rw [readRows, bind_eq_ok] at read
    obtain ⟨block, first, read⟩ := read
    rw [bind_eq_ok] at read
    obtain ⟨later, reads, same⟩ := read
    cases same
    cases r with
    | zero =>
      have here := readBlock_getElem? first column
      rw [Nat.zero_mul, Nat.add_zero]
      exact here
    | succ r =>
      rw [List.getElem?_cons_succ, ih reads (Nat.lt_of_succ_lt_succ row), Nat.succ_mul]
      congr 1
      omega

theorem readRows_pixelCell {left top : Nat}
    (read : readRows buffer (top * (width * scale) + left * scale) (width * scale) (count * scale)
      height = .ok rows) (row : r < height) (column : c < count) (small : part < scale) :
    rows[r]?.bind (·[c * scale + part]?) = pixelCell scale width buffer (left + c) (top + r) part := by
  have place : (c + 1) * scale ≤ count * scale := Nat.mul_le_mul_right scale column
  rw [Nat.succ_mul] at place
  rw [readRows_getElem? read row (by omega), pixelCell]
  congr 1
  rw [Nat.add_mul, Nat.add_mul]
  omega

/-- A rectangle that is copied from one raster to another is seen there, and nothing else has
    changed. -/
theorem copyRect_ok {scale width fullHeight left top srcWidth srcHeight srcLeft srcTop : Nat}
    {source : List B} (length : buffer.length = scale * width * fullHeight)
    (srcLength : source.length = scale * srcWidth * srcHeight) (across : left + count ≤ width)
    (down : top + height ≤ fullHeight) (srcAcross : srcLeft + count ≤ srcWidth)
    (srcDown : srcTop + height ≤ srcHeight) :
    ∃ rows next, readRows source (srcTop * (srcWidth * scale) + srcLeft * scale) (srcWidth * scale)
        (count * scale) height = .ok rows ∧
      writeRows buffer (top * (width * scale) + left * scale) (width * scale) rows = .ok next ∧
      ∀ x < width, ∀ y, ∀ part < scale, pixelCell scale width next x y part =
        if left ≤ x ∧ x < left + count ∧ top ≤ y ∧ y < top + height then
          pixelCell scale srcWidth source (srcLeft + (x - left)) (srcTop + (y - top)) part
        else pixelCell scale width buffer x y part := by
  have fit := @rowsFit_inside height scale count srcWidth srcHeight srcLeft srcTop srcAcross srcDown
  rw [← srcLength] at fit
  obtain ⟨rows, read, many, lengths⟩ := readRows_ok fit
  have fit' := @rowsFit_inside height scale count width fullHeight left top across down
  rw [← length, ← many] at fit'
  obtain ⟨next, wrote, -⟩ := writeRows_ok lengths fit'
  refine ⟨rows, next, read, wrote, ?_⟩
  intro x inside y part small
  rw [writeRows_pixelCell lengths wrote across inside small, many]
  split
  · rw [readRows_pixelCell read (by omega) (by omega) small]
  · rfl

theorem readRows_flatten_after (before : List B) (lengths : ∀ row ∈ rows, row.length = count) :
    readRows (before ++ rows.flatten) before.length count count rows.length = .ok rows := by
  induction rows generalizing before with
  | nil => rfl
  | cons row rows ih =>
    rw [List.forall_mem_cons] at lengths
    have read : readBlock (before ++ (row :: rows).flatten) before.length count = .ok row := by
      rw [readBlock, if_pos]
      · rw [List.drop_left, List.flatten_cons, ← lengths.1, List.take_left]
      · rw [List.length_append, List.flatten_cons, List.length_append, lengths.1]
        omega
    have later := ih (before ++ row) lengths.2
    rw [List.append_assoc, List.length_append, lengths.1] at later
    rw [List.length_cons, readRows, read, ok_bind]
    change (readRows (before ++ (row ++ rows.flatten)) _ _ _ _ >>= _) = _
    rw [later]
    rfl

theorem readRows_flatten (lengths : ∀ row ∈ rows, row.length = count) :
    readRows rows.flatten 0 count count rows.length = .ok rows :=
  readRows_flatten_after [] lengths

theorem flatten_rows_getElem? (lengths : ∀ row ∈ rows, row.length = count) (row : r < rows.length)
    (column : c < count) : rows.flatten[r * count + c]? = rows[r]?.bind (·[c]?) := by
  rw [readRows_getElem? (readRows_flatten lengths) row column, Nat.zero_add]

theorem flatten_rows_block (lengths : ∀ row ∈ rows, row.length = count) {row : List B}
    (held : rows[r]? = some row) : (rows.flatten.drop (r * count)).take count = row := by
  induction rows generalizing r with
  | nil => cases held
  | cons first rows ih =>
    rw [List.forall_mem_cons] at lengths
    cases r with
    | zero =>
      cases held
      rw [Nat.zero_mul, List.drop_zero, List.flatten_cons, ← lengths.1, List.take_left]
    | succ r =>
      rw [Nat.succ_mul, Nat.add_comm, ← List.drop_drop, List.flatten_cons,
        List.drop_left' lengths.1]
      exact ih lengths.2 held

theorem mapM_each {A C ε : Type} {f : A → Except ε C} {holds : A → C → Prop} {l : List A}
    (each : ∀ a ∈ l, ∃ c, f a = .ok c ∧ holds a c) :
    ∃ out, l.mapM f = .ok out ∧ out.length = l.length ∧
      ∀ (k : Nat) (a : A), l[k]? = some a → ∃ c, out[k]? = some c ∧ holds a c := by
  induction l with
  | nil => exact ⟨[], rfl, rfl, nofun⟩
  | cons a l ih =>
    obtain ⟨c, first, here⟩ := each a List.mem_cons_self
    obtain ⟨out, later, length, rest⟩ := ih fun b held => each b (.tail a held)
    refine ⟨c :: out, ?_, ?_, ?_⟩
    · rw [List.mapM_cons, first]
      change (l.mapM f >>= _) = _
      rw [later]
      rfl
    · rw [List.length_cons, List.length_cons, length]
    · intro k b held
      cases k with
      | zero =>
        cases held
        exact ⟨c, rfl, here⟩
      | succ k => exact rest k b held

theorem mapM_range {C ε : Type} {f : Nat → Except ε C} {holds : Nat → C → Prop} {n : Nat}
    (each : ∀ k < n, ∃ c, f k = .ok c ∧ holds k c) :
    ∃ out, (List.range n).mapM f = .ok out ∧ out.length = n ∧
      ∀ k < n, ∃ c, out[k]? = some c ∧ holds k c := by
  obtain ⟨out, ran, length, here⟩ := @mapM_each _ _ _ f holds (List.range n)
    fun k held => each k (List.mem_range.mp held)
  exact ⟨out, ran, length.trans List.length_range, fun k small =>
    here k k (List.getElem?_range small)⟩

theorem mapM_range_mem {C : Type} {out : List C} {holds : Nat → C → Prop} {n : Nat}
    (length : out.length = n) (each : ∀ k < n, ∃ c, out[k]? = some c ∧ holds k c) {c : C}
    (held : c ∈ out) : ∃ k < n, holds k c := by
  obtain ⟨k, here⟩ := List.getElem?_of_mem held
  have small : k < n := length ▸ (List.getElem?_eq_some_iff.mp here).1
  obtain ⟨c', here', promised⟩ := each k small
  cases here.symm.trans here'
  exact ⟨k, small, promised⟩

/-- Cells written over a buffer one after the other, each at the place of its index. -/
def writeCells (place : Nat → Nat) : Nat → List B → List B → List B
  | _, [], buffer => buffer
  | index, cell :: cells, buffer =>
      writeCells place (index + 1) cells (buffer.set (place index) cell)

section Cells

variable {place : Nat → Nat} {index : Nat} {cells : List B}

theorem writeCells_append (cells more : List B) :
    writeCells place index (cells ++ more) buffer =
      writeCells place (index + cells.length) more (writeCells place index cells buffer) := by
  induction cells generalizing index buffer with
  | nil => rfl
  | cons cell cells ih =>
    have later : index + (cells.length + 1) = index + 1 + cells.length := by omega
    rw [List.cons_append, writeCells, ih, writeCells, List.length_cons, later]

@[simp] theorem writeCells_length : (writeCells place index cells buffer).length = buffer.length := by
  induction cells generalizing index buffer with
  | nil => rfl
  | cons cell cells ih => rw [writeCells, ih, List.length_set]

theorem writeCells_elsewhere {k : Nat}
    (away : ∀ j, index ≤ j → j < index + cells.length → place j ≠ k) :
    (writeCells place index cells buffer)[k]? = buffer[k]? := by
  induction cells generalizing index buffer with
  | nil => rfl
  | cons cell cells ih =>
    rw [List.length_cons] at away
    rw [writeCells, ih fun j after before => away j (by omega) (by omega)]
    exact List.getElem?_set_ne (away index (Nat.le_refl _) (by omega))

theorem writeCells_at {j : Nat} (held : j < cells.length)
    (inside : place (index + j) < buffer.length)
    (apart : ∀ j', index + j < j' → j' < index + cells.length → place j' ≠ place (index + j)) :
    (writeCells place index cells buffer)[place (index + j)]? = cells[j]? := by
  induction cells generalizing index buffer j with
  | nil => exact absurd held (Nat.not_lt_zero j)
  | cons cell cells ih =>
    rw [List.length_cons] at held apart
    rw [writeCells]
    cases j with
    | zero =>
      rw [writeCells_elsewhere fun j' after before => apart j' (by omega) (by omega)]
      exact List.getElem?_set_self inside
    | succ j =>
      have next : index + (j + 1) = index + 1 + j := by omega
      rw [next] at inside apart ⊢
      rw [List.getElem?_cons_succ]
      apply ih (Nat.lt_of_succ_lt_succ held)
      · rw [List.length_set]
        exact inside
      · intro j' after before
        exact apart j' after (by omega)

theorem writeCells_eq_iff (inside : ∀ j < cells.length, place j < buffer.length)
    (apart : ∀ j j', j < j' → j' < cells.length → place j' ≠ place j) :
    writeCells place 0 cells buffer = buffer ↔
      ∀ j < cells.length, buffer[place j]? = cells[j]? := by
  have written (j : Nat) (held : j < cells.length) :
      (writeCells place 0 cells buffer)[place j]? = cells[j]? := by
    have here := @writeCells_at _ buffer place 0 cells j held
    rw [Nat.zero_add, Nat.zero_add] at here
    exact here (inside j held) fun j' after before => apart j j' after before
  constructor
  · intro same j held
    rw [← written j held, same]
  · intro there
    apply List.ext_getElem?
    intro k
    by_cases hit : ∃ j < cells.length, place j = k
    · obtain ⟨j, held, rfl⟩ := hit
      rw [written j held, there j held]
    apply writeCells_elsewhere
    intro j _ before same
    exact hit ⟨j, by omega, same⟩

end Cells

end LibRdp.Coding
