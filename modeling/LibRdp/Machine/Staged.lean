import Mathlib.Logic.Function.Basic

/-! # Calls that answer into a buffer of the caller

A call works everything out first: an error, with the state it leaves behind, or an answer
with the state it commits. The answer is handed over only if it fits the caller's buffer;
else the size it needs is reported and the state stays. A mark that such a call leaves on
the state, and that plans do not look at, cannot be told from a first call with enough room.
-/

namespace LibRdp.Machine

/-- What a call has worked out before it changes anything. -/
inductive Plan (σ ε ω : Type) where
  | fails (error : ε) (left : σ)
  | ready (answer : ω) (next : σ)

/-- How a call ends for its caller. -/
inductive Ending (ε ω : Type) where
  | failed (error : ε)
  | tooSmall (size : Nat)
  | done (answer : ω)
  deriving Repr, DecidableEq

namespace Plan

variable {σ ε ω : Type}

/-- The plan with its states marked. -/
def map (mark : σ → σ) : Plan σ ε ω → Plan σ ε ω
  | .fails error left => .fails error (mark left)
  | .ready answer next => .ready answer (mark next)

/-- Hand the answer over if it fits into `capacity`. -/
def settle (size : ω → Nat) (capacity : Nat) (s : σ) : Plan σ ε ω → Ending ε ω × σ
  | .fails error left => (.failed error, left)
  | .ready answer next =>
      if size answer > capacity then (.tooSmall (size answer), s) else (.done answer, next)

variable {size : ω → Nat} {capacity : Nat} {s s' : σ} {plan : Plan σ ε ω}

theorem settle_done {answer : ω} (ended : plan.settle size capacity s = (.done answer, s')) :
    plan = .ready answer s' ∧ size answer ≤ capacity := by
  cases plan with
  | fails error left => exact nomatch ended
  | ready answer' next =>
    simp only [settle] at ended
    split at ended
    · exact nomatch ended
    rename_i fits
    cases ended
    exact ⟨rfl, by omega⟩

theorem settle_tooSmall {needed : Nat}
    (ended : plan.settle size capacity s = (.tooSmall needed, s')) :
    s' = s ∧ ∃ answer next, plan = .ready answer next ∧ size answer = needed := by
  cases plan with
  | fails error left => exact nomatch ended
  | ready answer next =>
    simp only [settle] at ended
    split at ended
    · cases ended
      exact ⟨rfl, answer, next, rfl, rfl⟩
    · exact nomatch ended

theorem settle_failed {error : ε} (ended : plan.settle size capacity s = (.failed error, s')) :
    plan = .fails error s' := by
  cases plan with
  | fails error' left =>
    cases ended
    rfl
  | ready answer next =>
    simp only [settle] at ended
    split at ended
    · exact nomatch ended
    · exact nomatch ended

theorem settle_ready {answer : ω} {next : σ} (fits : size answer ≤ capacity) :
    (Plan.ready answer next : Plan σ ε ω).settle size capacity s = (.done answer, next) :=
  if_neg (by omega)

/-- After a call that found the buffer too small, a marked state answers a retry with enough room
    as the first call would have, and only the mark is left. -/
theorem settle_retry {plan : σ → Plan σ ε ω} {mark : σ → σ} {needed room : Nat}
    (blind : plan (mark s) = (plan s).map mark)
    (ended : (plan s).settle size capacity s = (.tooSmall needed, s')) (enough : needed ≤ room) :
    ∃ answer next, size answer = needed ∧ (plan s).settle size room s = (.done answer, next) ∧
      (plan (mark s')).settle size needed (mark s') = (.done answer, mark next) := by
  obtain ⟨rfl, answer, next, planned, exact_⟩ := settle_tooSmall ended
  refine ⟨answer, next, exact_, ?_, ?_⟩
  · rw [planned, settle_ready (by omega)]
  · rw [blind, planned]
    exact settle_ready (by omega)

end Plan

end LibRdp.Machine
