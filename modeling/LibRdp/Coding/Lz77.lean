import LibRdp.Machine.Memory
import Mathlib.Algebra.GroupWithZero.Nat
import Mathlib.Tactic.Common

/-! # LZ77 expansion and the buffers that carry it

Expansion is defined on the whole output stream: a copy appends values one at a
time, each read `distance` places back, so overlapping copies repeat. Decoders
keep only the newest values, in an array with a write cursor; `Holds` says how
much of the stream such an array still carries, and `Holds.push` that writing at
the cursor carries one value more, whether or not the cursor wraps.
-/

namespace LibRdp.Coding.Lz77

inductive Token (α : Type u) where
  | literal (value : α)
  | copy (distance length : Nat)
  deriving Repr, DecidableEq

section Stream

variable [Inhabited α]

/-- The value `distance` places before the end of the stream. -/
def recent (stream : List α) (distance : Nat) : α :=
  stream.getD (stream.length - distance) default

/-- Append `n` values, each the one `distance` places back. -/
def extend (stream : List α) (distance : Nat) : Nat → List α
  | 0 => stream
  | n + 1 => extend (stream ++ [recent stream distance]) distance n

def Token.apply (stream : List α) : Token α → List α
  | .literal a => stream ++ [a]
  | .copy distance n => extend stream distance n

/-- The stream after a list of tokens. -/
def expand (stream : List α) (tokens : List (Token α)) : List α :=
  tokens.foldl Token.apply stream

/-- What the tokens append to the stream. -/
def expansion (stream : List α) (tokens : List (Token α)) : List α :=
  (expand stream tokens).drop stream.length

@[simp] theorem expand_nil (stream : List α) : expand stream [] = stream := rfl

@[simp] theorem expand_cons (stream : List α) (t : Token α) (tokens : List (Token α)) :
    expand stream (t :: tokens) = expand (t.apply stream) tokens := rfl

/-- Number of values a token appends. -/
def Token.width : Token α → Nat
  | .literal _ => 1
  | .copy _ n => n

@[simp] theorem extend_length (stream : List α) (distance n : Nat) :
    (extend stream distance n).length = stream.length + n := by
  induction n generalizing stream with
  | zero => rfl
  | succ n ih =>
    rw [extend, ih, List.length_append]
    simp only [List.length_cons, List.length_nil]
    omega

theorem extend_prefix (stream : List α) (distance n : Nat) :
    stream <+: extend stream distance n := by
  induction n generalizing stream with
  | zero => exact List.prefix_refl _
  | succ n ih => exact (List.prefix_append _ _).trans (ih _)

theorem Token.apply_prefix (stream : List α) (t : Token α) : stream <+: t.apply stream := by
  cases t with
  | literal a => exact List.prefix_append _ _
  | copy distance n => exact extend_prefix _ _ _

theorem Token.apply_length (stream : List α) (t : Token α) :
    (t.apply stream).length = stream.length + t.width := by
  cases t with
  | literal a => simp [Token.apply, Token.width]
  | copy distance n => simp [Token.apply, Token.width]

theorem expand_prefix (stream : List α) (tokens : List (Token α)) :
    stream <+: expand stream tokens := by
  induction tokens generalizing stream with
  | nil => exact List.prefix_refl _
  | cons t tokens ih => exact (t.apply_prefix stream).trans (ih _)

theorem expand_eq_append (stream : List α) (tokens : List (Token α)) :
    expand stream tokens = stream ++ expansion stream tokens := by
  obtain ⟨rest, same⟩ := expand_prefix stream tokens
  rw [expansion, ← same, List.drop_left]

theorem expand_length (stream : List α) (tokens : List (Token α)) :
    (expand stream tokens).length = stream.length + (tokens.map Token.width).sum := by
  induction tokens generalizing stream with
  | nil => simp
  | cons t tokens ih =>
    rw [expand_cons, ih, Token.apply_length, List.map_cons, List.sum_cons]
    omega

@[simp] theorem expansion_length (stream : List α) (tokens : List (Token α)) :
    (expansion stream tokens).length = (tokens.map Token.width).sum := by
  rw [expansion, List.length_drop, expand_length]
  omega

theorem recent_snoc (stream : List α) (a : α) {d : Nat} (low : 1 ≤ d) (high : d ≤ stream.length) :
    recent (stream ++ [a]) (d + 1) = recent stream d := by
  have position : (stream ++ [a]).length - (d + 1) = stream.length - d := by
    simp only [List.length_append, List.length_cons, List.length_nil]
    omega
  simp only [recent, position]
  rw [List.getD_eq_getElem?_getD, List.getD_eq_getElem?_getD,
    List.getElem?_append_left (by omega)]

@[simp] theorem recent_snoc_one (stream : List α) (a : α) : recent (stream ++ [a]) 1 = a := by
  simp [recent]

end Stream

/-- The index `d` places before the cursor in an array of `size` cells. -/
def back (size cursor d : Nat) : Nat :=
  if d ≤ cursor then cursor - d else cursor + size - d

/-- The index after `i`, wrapping at the end of the array. -/
def next (size i : Nat) : Nat := if i + 1 = size then 0 else i + 1

/-- The cursor after one write: the next index, where an array that is not used
    as a ring may also stop just past its end. -/
def Follows (size cursor after : Nat) : Prop :=
  after = cursor + 1 ∨ (cursor + 1 = size ∧ after = 0)

theorem follows_succ (size cursor : Nat) : Follows size cursor (cursor + 1) := .inl rfl

theorem follows_next (size cursor : Nat) : Follows size cursor (next size cursor) := by
  simp only [Follows, next]
  split
  · next last => exact .inr ⟨last, rfl⟩
  · exact .inl rfl

/-- Before the cursor stand the `depth` newest values of the stream. -/
def Holds [Inhabited α] (size : Nat) (cell : Nat → α) (cursor depth : Nat)
    (stream : List α) : Prop :=
  ∀ d, 1 ≤ d → d ≤ depth → cell (back size cursor d) = recent stream d

section Holds

variable [Inhabited α] {size cursor depth : Nat} {cell : Nat → α} {stream : List α}

theorem Holds.mono (held : Holds size cell cursor depth stream) {less : Nat} (h : less ≤ depth) :
    Holds size cell cursor less stream :=
  fun d low high => held d low (by omega)

variable {d after : Nat}

theorem back_lt (inside : cursor < size) (low : 1 ≤ d) (high : d ≤ size) :
    back size cursor d < size := by
  simp only [back]
  split <;> omega

private theorem back_after (following : Follows size cursor after) (low : 1 ≤ d)
    (high : d + 1 ≤ size) : back size after (d + 1) = back size cursor d := by
  rcases following with rfl | ⟨last, rfl⟩
  · simp only [back]
    split <;> split <;> omega
  · simp only [back]
    split <;> split <;> omega

private theorem back_after_one (following : Follows size cursor after) :
    back size after 1 = cursor := by
  rcases following with rfl | ⟨last, rfl⟩
  · simp [back]
  · simp only [back]
    split <;> omega

private theorem back_ne (low : 1 ≤ d) (high : d < size) : back size cursor d ≠ cursor := by
  simp only [back]
  split <;> omega

theorem Holds.push (held : Holds size cell cursor depth stream) (known : depth ≤ stream.length)
    (a : α) {deeper : Nat} (following : Follows size cursor after) (atMost : deeper ≤ depth + 1)
    (fits : deeper ≤ size) :
    Holds size (Function.update cell cursor a) after deeper (stream ++ [a]) := by
  intro d low high
  obtain ⟨k, rfl⟩ : ∃ k, d = k + 1 := ⟨d - 1, by omega⟩
  by_cases newest : k = 0
  · subst newest
    rw [back_after_one following, Function.update_self, recent_snoc_one]
  rw [back_after following (by omega) (by omega),
    Function.update_of_ne (back_ne (by omega) (by omega)),
    recent_snoc _ _ (by omega) (by omega)]
  exact held k (by omega) (by omega)

theorem next_back (following : Follows size cursor after) (low : 1 ≤ d) (high : d ≤ size)
    (room : after < size) : next size (back size cursor d) = back size after d := by
  rcases following with rfl | ⟨last, rfl⟩
  · simp only [back, next]
    split <;> split <;> split <;> omega
  · simp only [back, next]
    split <;> split <;> split <;> omega

end Holds

/-- An array and the index that is written next. -/
structure Window (α : Type u) [Inhabited α] where
  memory : Machine.Memory α
  cursor : Nat

namespace Window

variable [Inhabited α]

def push (w : Window α) (a : α) : Window α := ⟨w.memory.put w.cursor a, w.cursor + 1⟩

/-- Copy `n` values to the cursor, the source index wrapping at the end of the array. -/
def copy (w : Window α) (source : Nat) : Nat → Window α
  | 0 => w
  | n + 1 => copy (w.push (w.memory.cell source)) (next w.memory.size source) n

/-- The stream before the cursor, as far as `Holds` speaks of it. -/
def Carries (w : Window α) (depth : Nat) (stream : List α) : Prop :=
  Holds w.memory.size w.memory.cell w.cursor depth stream

@[simp] theorem push_cursor (w : Window α) (a : α) : (w.push a).cursor = w.cursor + 1 := rfl

@[simp] theorem push_size (w : Window α) (a : α) : (w.push a).memory.size = w.memory.size := rfl

@[simp] theorem copy_cursor (w : Window α) (source n : Nat) :
    (w.copy source n).cursor = w.cursor + n := by
  induction n generalizing w source with
  | zero => rfl
  | succ n ih =>
    rw [copy, ih, push_cursor]
    omega

@[simp] theorem copy_size (w : Window α) (source n : Nat) :
    (w.copy source n).memory.size = w.memory.size := by
  induction n generalizing w source with
  | zero => rfl
  | succ n ih => rw [copy, ih, push_size]

theorem push_cell_of_ne (w : Window α) (a : α) {i : Nat} (h : i ≠ w.cursor) :
    (w.push a).memory.cell i = w.memory.cell i := if_neg (fun same => h same.1)

theorem copy_cell_of_outside (w : Window α) (source n : Nat) {i : Nat}
    (outside : i < w.cursor ∨ w.cursor + n ≤ i) :
    (w.copy source n).memory.cell i = w.memory.cell i := by
  induction n generalizing w source with
  | zero => rfl
  | succ n ih =>
    rw [copy, ih _ _ (by rw [push_cursor]; omega), push_cell_of_ne _ _ (by omega)]

variable {w w' : Window α}

variable {depth : Nat} {stream : List α}

theorem push_carries (held : w.Carries depth stream) (known : depth ≤ stream.length) (a : α)
    (room : w.cursor < w.memory.size) {deeper : Nat} (atMost : deeper ≤ depth + 1)
    (fits : deeper ≤ w.memory.size) : (w.push a).Carries deeper (stream ++ [a]) := by
  rw [Carries, push, Machine.Memory.put_cell _ _ room]
  exact Holds.push held known a (follows_succ _ _) atMost fits

/-- A copy from `distance` back extends the carried stream the LZ77 way. -/
theorem copy_carries {distance : Nat} (held : w.Carries depth stream)
    (known : depth ≤ stream.length) (low : 1 ≤ distance) (high : distance ≤ depth)
    (capped : depth ≤ w.memory.size) (n : Nat) (room : w.cursor + n ≤ w.memory.size) :
    (w.copy (back w.memory.size w.cursor distance) n).Carries
      (min (depth + n) w.memory.size) (extend stream distance n) := by
  induction n generalizing w stream depth with
  | zero => exact held.mono (by omega)
  | succ n ih =>
    have value : w.memory.cell (back w.memory.size w.cursor distance) = recent stream distance :=
      held distance low high
    have pushed : (w.push (recent stream distance)).Carries (min (depth + 1) w.memory.size)
        (stream ++ [recent stream distance]) :=
      push_carries held known _ (by omega) (by omega) (by omega)
    rw [copy, extend, value]
    by_cases last : n = 0
    · subst last
      exact pushed
    have moved : next w.memory.size (back w.memory.size w.cursor distance) =
        back w.memory.size (w.cursor + 1) distance :=
      next_back (follows_succ _ _) low (by omega) (by omega)
    have rest := ih pushed
      (by simp only [List.length_append, List.length_cons, List.length_nil]; omega)
      (by omega) (by simp only [push_size]; omega)
      (by simp only [push_cursor, push_size]; omega)
    rw [moved]
    simp only [push_cursor, push_size] at rest
    exact rest.mono (by omega)

theorem carries_window (w : Window α) : w.Carries w.cursor (w.memory.window 0 w.cursor) := by
  intro d low high
  have position : (w.memory.window 0 w.cursor).length - d < w.cursor := by
    rw [Machine.Memory.window_length]
    omega
  simp only [recent, back, if_pos high]
  rw [List.getD_eq_getElem?_getD, Machine.Memory.window_getElem? _ position]
  simp

/-- The array read from the cursor on, around its end and up to the cursor again. -/
def ring (w : Window α) : List α :=
  w.memory.window w.cursor (w.memory.size - w.cursor) ++ w.memory.window 0 w.cursor

theorem ring_length (inside : w.cursor ≤ w.memory.size) : w.ring.length = w.memory.size := by
  simp only [ring, List.length_append, Machine.Memory.window_length]
  omega

theorem carries_ring (inside : w.cursor ≤ w.memory.size) : w.Carries w.memory.size w.ring := by
  intro d low high
  simp only [recent, back, ring_length inside]
  rw [List.getD_eq_getElem?_getD, ring]
  by_cases near : d ≤ w.cursor
  · rw [if_pos near, List.getElem?_append_right (by rw [Machine.Memory.window_length]; omega),
      Machine.Memory.window_length, Machine.Memory.window_getElem? _ (by omega), Option.getD_some]
    congr 1
    omega
  rw [if_neg near, List.getElem?_append_left (by rw [Machine.Memory.window_length]; omega),
    Machine.Memory.window_getElem? _ (by omega), Option.getD_some]
  congr 1
  omega

/-- The same array but for the cell that is written next. -/
structure SameBut (w w' : Window α) : Prop where
  size : w.memory.size = w'.memory.size
  cursor : w.cursor = w'.cursor
  cells : ∀ i, i ≠ w.cursor → w.memory.cell i = w'.memory.cell i

theorem SameBut.refl (w : Window α) : SameBut w w := ⟨rfl, rfl, fun _ _ => rfl⟩

theorem SameBut.symm (same : SameBut w w') : SameBut w' w := by
  refine ⟨same.size.symm, same.cursor.symm, ?_⟩
  intro i away
  rw [← same.cursor] at away
  exact (same.cells i away).symm

theorem SameBut.trans {w'' : Window α} (first : SameBut w w') (second : SameBut w' w'') :
    SameBut w w'' := by
  refine ⟨first.size.trans second.size, first.cursor.trans second.cursor, ?_⟩
  intro i away
  rw [first.cells i away]
  rw [first.cursor] at away
  exact second.cells i away

theorem SameBut.push (same : SameBut w w') (a : α) : w.push a = w'.push a := by
  obtain ⟨memory, cursor⟩ := w
  obtain ⟨memory', cursor'⟩ := w'
  obtain ⟨size, rfl, cells⟩ := same
  simp only [Window.push, Window.mk.injEq, and_true]
  refine Machine.Memory.ext_cells size ?_
  intro i inside
  simp only [Machine.Memory.put] at inside ⊢
  by_cases here : i = cursor
  · subst here
    rw [if_pos ⟨rfl, inside⟩, if_pos ⟨rfl, size ▸ inside⟩]
  · rw [if_neg (fun h => here h.1), if_neg (fun h => here h.1)]
    exact cells i here

theorem SameBut.copy (same : SameBut w w') {source n : Nat} (away : source ≠ w.cursor)
    (some_ : 0 < n) : w.copy source n = w'.copy source n := by
  obtain ⟨n, rfl⟩ : ∃ k, n = k + 1 := ⟨n - 1, by omega⟩
  rw [Window.copy, Window.copy, same.cells source away, same.push, same.size]

theorem Carries.window_eq (held : w.Carries depth stream) {n : Nat} (deep : n ≤ depth)
    (low : n ≤ w.cursor) (known : n ≤ stream.length) :
    w.memory.window (w.cursor - n) n = stream.drop (stream.length - n) := by
  apply List.ext_getElem
  · simp only [Machine.Memory.window_length, List.length_drop]
    omega
  · intro i hi _
    rw [Machine.Memory.window_length] at hi
    have value := held (n - i) (by omega) (by omega)
    simp only [back, if_pos (show n - i ≤ w.cursor by omega), recent] at value
    rw [List.getD_eq_getElem?_getD, List.getElem?_eq_getElem (by omega), Option.getD_some] at value
    simp only [Machine.Memory.window, List.getElem_map, List.getElem_range, List.getElem_drop]
    rw [show w.cursor - n + i = w.cursor - (n - i) by omega, value]
    congr 1
    omega

end Window

end LibRdp.Coding.Lz77
