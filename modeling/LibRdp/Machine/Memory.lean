import Mathlib.Logic.Function.Basic

/-! # Checked execution over bounded memories

Array accesses and unsigned subtractions are partial operations here: an index
outside the array, a subtraction below zero and a loop that outlives its fuel
are explicit faults. A function that never faults therefore stays inside its
arrays, never wraps an unsigned difference and terminates.
-/

namespace LibRdp.Machine

/-- Behaviour a safe program never shows. -/
inductive Fault where
  /-- An array index at or beyond the array's size. -/
  | outOfBounds
  /-- An unsigned subtraction whose result would wrap below zero. -/
  | underflow
  /-- A loop that did not end within its fuel. -/
  | outOfFuel
  deriving Repr, DecidableEq

/-- A computation that either yields a value or shows a fault. -/
abbrev Exec (α : Type u) := Except Fault α

@[simp] theorem ok_bind (a : α) (f : α → Except ε β) : ((.ok a : Except ε α) >>= f) = f a := rfl

@[simp] theorem error_bind (e : Fault) (f : α → Exec β) :
    ((.error e : Exec α) >>= f) = .error e := rfl

@[simp] theorem pure_eq_ok (a : α) : (pure a : Exec α) = .ok a := rfl

theorem bind_eq_ok {x : Except ε α} {f : α → Except ε β} {b : β} :
    (x >>= f) = .ok b ↔ ∃ a, x = .ok a ∧ f a = .ok b := by
  cases x with
  | error e => simp [bind, Except.bind]
  | ok a => simp [bind, Except.bind]

theorem bind_eq_error {x : Except ε α} {f : α → Except ε β} {e : ε} :
    (x >>= f) = .error e ↔ x = .error e ∨ ∃ a, x = .ok a ∧ f a = .error e := by
  cases x with
  | error e => simp [bind, Except.bind]
  | ok a => simp [bind, Except.bind]

/-- Unsigned difference, faulting instead of wrapping. -/
def checkedSub (a b : Nat) : Exec Nat :=
  if b ≤ a then .ok (a - b) else .error .underflow

@[simp] theorem checkedSub_of_le {a b : Nat} (h : b ≤ a) : checkedSub a b = .ok (a - b) := if_pos h

/-- An array of `size` cells. Cells at or beyond `size` do not exist and keep the
    default value, so that two arrays with the same contents are equal. -/
structure Memory (α : Type u) [Inhabited α] where
  size : Nat
  cell : Nat → α
  outside : ∀ i, size ≤ i → cell i = default

namespace Memory

variable [Inhabited α]

variable {m : Memory α} {n i : Nat}

theorem ext_cells {m' : Memory α} (sameSize : m.size = m'.size)
    (same : ∀ i, i < m.size → m.cell i = m'.cell i) : m = m' := by
  have cells : m.cell = m'.cell := by
    funext i
    by_cases inside : i < m.size
    · exact same i inside
    · rw [m.outside i (by omega), m'.outside i (by omega)]
  cases m
  cases m'
  simp_all

/-- A fresh array with every cell set to `a`. -/
def filled (n : Nat) (a : α) : Memory α where
  size := n
  cell i := if i < n then a else default
  outside i h := if_neg (by omega)

def load (m : Memory α) (i : Nat) : Exec α :=
  if i < m.size then .ok (m.cell i) else .error .outOfBounds

def put (m : Memory α) (i : Nat) (a : α) : Memory α where
  size := m.size
  cell j := if j = i ∧ i < m.size then a else m.cell j
  outside j h := by rw [if_neg (by omega), m.outside j h]

def store (m : Memory α) (i : Nat) (a : α) : Exec (Memory α) :=
  if i < m.size then .ok (m.put i a) else .error .outOfBounds

/-- Set `n` cells from `start` on to `a`. -/
def fill (m : Memory α) (start n : Nat) (a : α) : Exec (Memory α) :=
  if start + n ≤ m.size then
    .ok {
      size := m.size
      cell := fun j => if start ≤ j ∧ j < start + n ∧ j < m.size then a else m.cell j
      outside := fun j h => by rw [if_neg (by omega), m.outside j h] }
  else .error .outOfBounds

/-- Copy `n` cells from `source` on to `target` on, as if through a buffer. -/
def move (m : Memory α) (target source n : Nat) : Exec (Memory α) :=
  if target + n ≤ m.size ∧ source + n ≤ m.size then
    .ok {
      size := m.size
      cell := fun j => if target ≤ j ∧ j < target + n ∧ j < m.size then m.cell (source + (j - target))
        else m.cell j
      outside := fun j h => by rw [if_neg (by omega), m.outside j h] }
  else .error .outOfBounds

/-- The contents of cells `start, …, start + n - 1`. -/
def window (m : Memory α) (start n : Nat) : List α :=
  (List.range n).map (fun i => m.cell (start + i))

/-- Read a block of cells in one go. -/
def slice (m : Memory α) (start n : Nat) : Exec (List α) :=
  if start + n ≤ m.size then .ok (m.window start n) else .error .outOfBounds

@[simp] theorem filled_size (n : Nat) (a : α) : (filled n a).size = n := rfl

theorem filled_cell (a : α) (h : i < n) : (filled n a).cell i = a := if_pos h

@[simp] theorem load_of_lt (h : i < m.size) : m.load i = .ok (m.cell i) :=
  if_pos h

@[simp] theorem store_of_lt {a : α} (h : i < m.size) : m.store i a = .ok (m.put i a) := if_pos h

@[simp] theorem slice_of_le {start : Nat} (h : start + n ≤ m.size) :
    m.slice start n = .ok (m.window start n) := if_pos h

@[simp] theorem put_size (m : Memory α) (i : Nat) (a : α) : (m.put i a).size = m.size := rfl

theorem put_cell (m : Memory α) (a : α) (h : i < m.size) :
    (m.put i a).cell = Function.update m.cell i a := by
  funext j
  simp [put, h, Function.update_apply]

theorem fill_all (a : α) (whole : m.size = n) : m.fill 0 n a = .ok (filled n a) := by
  simp only [fill, whole, Nat.zero_add, Nat.le_refl, if_true]
  congr 1
  apply ext_cells
  · rfl
  · intro i inside
    simp only at inside
    simp [filled, inside]

@[simp] theorem window_length (m : Memory α) (start n : Nat) : (m.window start n).length = n := by
  simp [window]

@[simp] theorem window_zero (m : Memory α) (start : Nat) : m.window start 0 = [] := rfl

theorem window_succ (m : Memory α) (start n : Nat) :
    m.window start (n + 1) = m.window start n ++ [m.cell (start + n)] := by
  simp [window, List.range_succ]

theorem window_add (m : Memory α) (start n k : Nat) :
    m.window start (n + k) = m.window start n ++ m.window (start + n) k := by
  induction k with
  | zero => simp
  | succ k ih => rw [← Nat.add_assoc, window_succ, ih, window_succ, List.append_assoc, Nat.add_assoc]

theorem window_getElem? (m : Memory α) {start : Nat} (h : i < n) :
    (m.window start n)[i]? = some (m.cell (start + i)) := by
  simp [window, h]

end Memory

end LibRdp.Machine
