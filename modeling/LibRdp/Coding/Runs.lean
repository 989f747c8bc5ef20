import Mathlib.Data.List.Basic

/-! # Runs of one value

A run is a value and how often it follows itself, at least once. Every list is unrolled from its
maximal runs, no two of which in a row have the same value.
-/

namespace LibRdp.Coding

variable {α β : Type}

/-- A value, and how many more of it follow the first one. -/
structure Run (α : Type) where
  value : α
  more : Nat
  deriving Repr, DecidableEq

namespace Run

def length (run : Run α) : Nat := run.more + 1

def unroll (run : Run α) : List α := List.replicate run.length run.value

theorem length_pos (run : Run α) : 0 < run.length := Nat.succ_pos _

@[simp] theorem unroll_length (run : Run α) : run.unroll.length = run.length :=
  List.length_replicate

end Run

/-- The list that runs make up. -/
def unroll (runs : List (Run α)) : List α := runs.flatMap Run.unroll

@[simp] theorem unroll_nil : unroll ([] : List (Run α)) = [] := rfl

@[simp] theorem unroll_cons (run : Run α) (runs : List (Run α)) :
    unroll (run :: runs) = run.unroll ++ unroll runs := List.flatMap_cons

section Maximal

variable [DecidableEq α]

/-- A value in front of runs, as part of the first one if it can be. -/
def prependRun (value : α) : List (Run α) → List (Run α)
  | [] => [⟨value, 0⟩]
  | run :: runs =>
      if run.value = value then ⟨value, run.more + 1⟩ :: runs else ⟨value, 0⟩ :: run :: runs

/-- The runs of a list, each as long as can be. -/
def maximalRuns (values : List α) : List (Run α) := values.foldr prependRun []

theorem unroll_prependRun (value : α) (runs : List (Run α)) :
    unroll (prependRun value runs) = value :: unroll runs := by
  cases runs with
  | nil => rfl
  | cons run runs =>
    rw [prependRun]
    split
    · rename_i same
      subst same
      rfl
    · rfl

theorem unroll_maximalRuns (values : List α) : unroll (maximalRuns values) = values := by
  induction values with
  | nil => rfl
  | cons value values ih =>
    change unroll (prependRun value (maximalRuns values)) = _
    rw [unroll_prependRun, ih]

/-- Runs in a row differ in their values. -/
def Apart (runs : List (Run α)) : Prop := runs.IsChain fun run next => run.value ≠ next.value

theorem apart_prependRun (value : α) {runs : List (Run α)} (apart : Apart runs) :
    Apart (prependRun value runs) := by
  cases runs with
  | nil => exact .singleton _
  | cons run runs =>
    rw [prependRun]
    split
    · rename_i same
      subst same
      cases runs with
      | nil => exact .singleton _
      | cons next runs =>
        obtain ⟨differ, later⟩ := List.isChain_cons_cons.mp apart
        exact List.isChain_cons_cons.mpr ⟨differ, later⟩
    · rename_i differ
      exact List.isChain_cons_cons.mpr ⟨Ne.symm differ, apart⟩

theorem apart_maximalRuns (values : List α) : Apart (maximalRuns values) := by
  induction values with
  | nil => exact .nil
  | cons value values ih => exact apart_prependRun value ih

end Maximal

end LibRdp.Coding
