import Mathlib.Logic.Basic

/-! # Runs from which inputs are deleted

A machine answers an input with an output and a next state, or refuses it and stays as it is.
Deleting the inputs with outputs of one kind leaves the outputs of another kind alone if there
is a relation of states that deleted inputs keep on one side and all others on both.
-/

namespace LibRdp.Machine

variable {σ ι ω : Type} {step : σ → ι → Option (ω × σ)}

/-- The state after an input. -/
def stateAfter (step : σ → ι → Option (ω × σ)) (state : σ) (input : ι) : σ :=
  match step state input with
  | none => state
  | some (_, next) => next

/-- The output of an input, if there is one. -/
def outputAt (step : σ → ι → Option (ω × σ)) (state : σ) (input : ι) : List ω :=
  match step state input with
  | none => []
  | some (output, _) => [output]

/-- The outputs of a run. -/
def outputs (step : σ → ι → Option (ω × σ)) : σ → List ι → List ω
  | _, [] => []
  | state, input :: inputs =>
      outputAt step state input ++ outputs step (stateAfter step state input) inputs

/-- The inputs without those whose output is of a kind. -/
def purge (step : σ → ι → Option (ω × σ)) (kind : ω → Bool) : σ → List ι → List ι
  | _, [] => []
  | state, input :: inputs =>
      let inputs := purge step kind (stateAfter step state input) inputs
      if (outputAt step state input).any kind then inputs else input :: inputs

/-- A relation that shows that deleting inputs of one kind does not matter for another. -/
structure Unwinding (step : σ → ι → Option (ω × σ)) (allowed : ι → Prop) (kind seen : ω → Bool)
    (same : σ → σ → Prop) : Prop where
  silent : allowed input → same state other → (outputAt step state input).any kind →
    same (stateAfter step state input) other ∧ (outputAt step state input).filter seen = []
  kept : allowed input → same state other →
    same (stateAfter step state input) (stateAfter step other input) ∧
      (outputAt step state input).filter seen = (outputAt step other input).filter seen

theorem Unwinding.purge {allowed : ι → Prop} {kind seen : ω → Bool} {same : σ → σ → Prop}
    (unwinding : Unwinding step allowed kind seen same) {inputs : List ι}
    (all : ∀ input ∈ inputs, allowed input) {state other : σ} (related : same state other) :
    (outputs step other (purge step kind state inputs)).filter seen =
      (outputs step state inputs).filter seen := by
  induction inputs generalizing state other with
  | nil => rfl
  | cons input inputs ih =>
    have here := all input List.mem_cons_self
    have later : ∀ input ∈ inputs, allowed input := fun input held => all input (.tail _ held)
    rw [Machine.purge, outputs, List.filter_append]
    split
    case isTrue deleted =>
      obtain ⟨next, unseen⟩ := unwinding.silent here related deleted
      rw [unseen, List.nil_append]
      exact ih later next
    case isFalse =>
      obtain ⟨next, shown⟩ := unwinding.kept here related
      rw [outputs, List.filter_append, ← shown, ih later next]

end LibRdp.Machine
