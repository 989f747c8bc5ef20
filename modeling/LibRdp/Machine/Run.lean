import Mathlib.Data.List.Induction
import LibRdp.Machine.Memory

/-! # Deterministic machines, their runs and what distinguishes their states

A machine answers each input with an output and a next state, or faults. Two
rules carry every whole-run result: an invariant of single steps holds in every
reachable state, and a relation that steps preserve while the outputs agree
makes related states indistinguishable to every later sequence of inputs.
-/

namespace LibRdp.Machine

/-- Feed a list of inputs, collecting the outputs. -/
def run (step : σ → ι → Exec (ο × σ)) : σ → List ι → Exec (List ο × σ)
  | s, [] => .ok ([], s)
  | s, i :: rest => do
      let (o, s) ← step s i
      let (outs, s) ← run step s rest
      pure (o :: outs, s)

variable {σ ι ο : Type} {step : σ → ι → Exec (ο × σ)}

/-- The states some sequence of inputs leads to. -/
inductive Reachable (step : σ → ι → Exec (ο × σ)) (init : σ) : σ → Prop where
  | init : Reachable step init init
  | step : Reachable step init s → step s i = .ok (o, s') → Reachable step init s'

theorem Reachable.invariant {init s : σ} (inv : σ → Prop) (start : inv init)
    (keep : ∀ s i o s', inv s → step s i = .ok (o, s') → inv s')
    (reached : Reachable step init s) : inv s := by
  induction reached with
  | init => exact start
  | step _ taken ih => exact keep _ _ _ _ ih taken

/-- The states that inputs within a condition lead to. -/
inductive ReachableWithin (step : σ → ι → Exec (ο × σ)) (within : σ → ι → Prop) (init : σ) :
    σ → Prop where
  | init : ReachableWithin step within init init
  | step : ReachableWithin step within init s → within s i → step s i = .ok (o, s') →
      ReachableWithin step within init s'

theorem ReachableWithin.invariant {within : σ → ι → Prop} {init s : σ} (inv : σ → Prop)
    (start : inv init) (keep : ∀ s i o s', inv s → within s i → step s i = .ok (o, s') → inv s')
    (reached : ReachableWithin step within init s) : inv s := by
  induction reached with
  | init => exact start
  | step _ allowed taken ih => exact keep _ _ _ _ ih allowed taken

variable {s s' : σ}

theorem run_cons_ok {i : ι} {o : ο} (taken : step s i = .ok (o, s')) (rest : List ι) :
    run step s (i :: rest) = (run step s' rest).map (fun r => (o :: r.1, r.2)) := by
  simp only [run, taken, ok_bind]
  cases run step s' rest <;> rfl

theorem run_singleton {i : ι} {o : ο} (taken : step s i = .ok (o, s')) :
    run step s [i] = .ok ([o], s') := by
  simp only [run, taken, ok_bind, pure_eq_ok]

variable {outs : List ο}

theorem run_cons_split {i : ι} {rest : List ι}
    (ran : run step s (i :: rest) = .ok (outs, s')) :
    ∃ o s₁ outs₁, step s i = .ok (o, s₁) ∧ run step s₁ rest = .ok (outs₁, s') ∧
      outs = o :: outs₁ := by
  obtain ⟨⟨o, s₁⟩, taken, ran⟩ := bind_eq_ok.mp ran
  obtain ⟨⟨outs₁, s₂⟩, later, last⟩ := bind_eq_ok.mp ran
  cases last
  exact ⟨o, s₁, outs₁, taken, later, rfl⟩

theorem run_append {s s' s'' : σ} {first second : List ι} {outs outs' : List ο}
    (ran : run step s first = .ok (outs, s')) (ran' : run step s' second = .ok (outs', s'')) :
    run step s (first ++ second) = .ok (outs ++ outs', s'') := by
  induction first generalizing s outs with
  | nil =>
    cases ran
    exact ran'
  | cons i rest ih =>
    obtain ⟨o, s₁, outs₁, taken, later, rfl⟩ := run_cons_split ran
    rw [List.cons_append, run_cons_ok taken, ih later]
    rfl

theorem run_of_total {answer : σ → ι → ο × σ} (total : ∀ s i, step s i = .ok (answer s i))
    (s : σ) (inputs : List ι) :
    ∃ outs, run step s inputs = .ok (outs, inputs.foldl (fun s i => (answer s i).2) s) := by
  induction inputs generalizing s with
  | nil => exact ⟨[], rfl⟩
  | cons i rest ih =>
    obtain ⟨outs, ran⟩ := ih (answer s i).2
    refine ⟨(answer s i).1 :: outs, ?_⟩
    rw [run_cons_ok (total s i), ran]
    rfl

variable {inputs : List ι}

theorem run_invariant (inv : σ → Prop)
    (keep : ∀ s i o s', i ∈ inputs → inv s → step s i = .ok (o, s') → inv s') (start : inv s)
    (ran : run step s inputs = .ok (outs, s')) : inv s' := by
  induction inputs generalizing s outs with
  | nil =>
    cases ran
    exact start
  | cons i rest ih =>
    obtain ⟨o, s₁, outs₁, taken, later, rfl⟩ := run_cons_split ran
    exact ih (fun s i o s' held => keep s i o s' (.tail _ held))
      (keep s i o s₁ List.mem_cons_self start taken) later

theorem run_length (ran : run step s inputs = .ok (outs, s')) : outs.length = inputs.length := by
  induction inputs generalizing s outs with
  | nil =>
    cases ran
    rfl
  | cons i rest ih =>
    obtain ⟨o, s₁, outs₁, taken, later, rfl⟩ := run_cons_split ran
    rw [List.length_cons, List.length_cons, ih later]

theorem run_cut {first second : List ι}
    (ran : run step s (first ++ second) = .ok (outs, s')) :
    ∃ outs₁ outs₂ s₁, outs = outs₁ ++ outs₂ ∧ run step s first = .ok (outs₁, s₁) ∧
      run step s₁ second = .ok (outs₂, s') := by
  induction first generalizing s outs with
  | nil => exact ⟨[], outs, s, rfl, rfl, ran⟩
  | cons i first ih =>
    obtain ⟨o, s₁, outs₁, taken, later, rfl⟩ := run_cons_split ran
    obtain ⟨outs₂, outs₃, s₂, rfl, ran₁, ran₂⟩ := ih later
    refine ⟨o :: outs₂, outs₃, s₂, rfl, ?_, ran₂⟩
    rw [run_cons_ok taken, ran₁]
    rfl

/-- A run that goes on behind a step is, from there, a run of its own. -/
theorem run_after {s s₁ s₂ s' : σ} {before after : List ι} {i : ι} {o : ο} {outs outs' : List ο}
    (ran : run step s before = .ok (outs, s₁)) (taken : step s₁ i = .ok (o, s₂))
    (whole : run step s (before ++ i :: after) = .ok (outs', s')) :
    run step s₂ after = .ok (outs'.drop (outs.length + 1), s') := by
  obtain ⟨_, outs₂, _, rfl, ran₁, rest⟩ := run_cut whole
  rw [ran] at ran₁
  cases ran₁
  obtain ⟨_, _, _, taken₁, later, rfl⟩ := run_cons_split rest
  rw [taken] at taken₁
  cases taken₁
  rw [later, List.drop_append, Nat.add_sub_cancel_left, List.drop_eq_nil_of_le (Nat.le_succ _)]
  rfl

theorem run_split {first second : List ο}
    (ran : run step s inputs = .ok (first ++ second, s')) :
    ∃ before after s₁, inputs = before ++ after ∧ run step s before = .ok (first, s₁) ∧
      run step s₁ after = .ok (second, s') := by
  have length := run_length ran
  rw [← List.take_append_drop first.length inputs] at ran
  obtain ⟨outs₁, outs₂, s₁, same, ran₁, ran₂⟩ := run_cut ran
  have length₁ := run_length ran₁
  rw [List.length_take, ← length, List.length_append,
    Nat.min_eq_left (Nat.le_add_right _ _)] at length₁
  obtain ⟨rfl, rfl⟩ := List.append_inj same length₁.symm
  exact ⟨_, _, s₁, (List.take_append_drop _ _).symm, ran₁, ran₂⟩

theorem run_history (holds : List ι → σ → Prop) {s₀ s : σ}
    (start : holds [] s₀)
    (keep : ∀ before outs s i o s', run step s₀ before = .ok (outs, s) → holds before s →
      step s i = .ok (o, s') → holds (before ++ [i]) s')
    (ran : run step s₀ inputs = .ok (outs, s)) : holds inputs s := by
  induction inputs using List.reverseRecOn generalizing outs s with
  | nil =>
    cases ran
    exact start
  | append_singleton before i ih =>
    obtain ⟨outs₁, outs₂, s₁, _, ran₁, ran₂⟩ := run_cut ran
    obtain ⟨o, s₂, _, taken, last, _⟩ := run_cons_split ran₂
    cases last
    exact keep before outs₁ s₁ i o _ ran₁ (ih ran₁) taken

theorem run_exchanges (holds : List (ι × ο) → σ → Prop) {s₀ s : σ}
    (start : holds [] s₀)
    (keep : ∀ before s i o s', holds before s → step s i = .ok (o, s') →
      holds (before ++ [(i, o)]) s')
    (ran : run step s₀ inputs = .ok (outs, s)) : holds (inputs.zip outs) s := by
  have from_state : ∀ before s₁, holds before s₁ → run step s₁ inputs = .ok (outs, s) →
      holds (before ++ inputs.zip outs) s := by
    clear ran
    induction inputs generalizing outs with
    | nil =>
      intro before s₁ held ran
      cases ran
      rwa [List.zip_nil_left, List.append_nil]
    | cons i rest ih =>
      intro before s₁ held ran
      obtain ⟨o, s₂, outs₁, taken, later, rfl⟩ := run_cons_split ran
      have next := ih (before ++ [(i, o)]) s₂ (keep before s₁ i o s₂ held taken) later
      rwa [List.append_assoc] at next
  exact from_state [] s₀ start ran

/-- Inputs that are each answered alike while an invariant moves on with them: `inv done todo s`
    says what holds after `done` with `todo` still to come. -/
theorem run_each {inv : List α → List α → σ → Prop} {input : α → ι} {quiet : ο}
    (keep : ∀ done a todo s, inv done (a :: todo) s →
      ∃ s', step s (input a) = .ok (quiet, s') ∧ inv (done ++ [a]) todo s')
    {done now todo : List α} {s : σ} (start : inv done (now ++ todo) s) :
    ∃ s', run step s (now.map input) = .ok (List.replicate now.length quiet, s') ∧
      inv (done ++ now) todo s' := by
  induction now generalizing done s with
  | nil => exact ⟨s, rfl, by rwa [List.append_nil]⟩
  | cons a now ih =>
    obtain ⟨s₁, taken, next⟩ := keep done a (now ++ todo) s start
    obtain ⟨s₂, ran, last⟩ := ih next
    refine ⟨s₂, ?_, ?_⟩
    · rw [List.map_cons, run_cons_ok taken, ran]
      rfl
    · rwa [List.append_assoc, List.singleton_append] at last

/-- A message in pieces: an opening input, the pieces in the middle and a closing input. All but
    the last are answered alike, while `holds done` says what the state has taken in. -/
theorem run_pieces {holds : List α → σ → Prop} {final : ο → σ → Prop} {input : α → ι}
    {opening closing : ι} {quiet : ο} {middle : List α} {s : σ}
    (start : ∃ s', step s opening = .ok (quiet, s') ∧ holds [] s')
    (next : ∀ done a todo s, done ++ a :: todo = middle → holds done s →
      ∃ s', step s (input a) = .ok (quiet, s') ∧ holds (done ++ [a]) s')
    (finish : ∀ s, holds middle s → ∃ o s', step s closing = .ok (o, s') ∧ final o s') :
    ∃ o s', run step s (opening :: (middle.map input ++ [closing])) =
      .ok (List.replicate (middle.length + 1) quiet ++ [o], s') ∧ final o s' := by
  obtain ⟨s₁, opened, held⟩ := start
  have keep : ∀ done a todo s, holds done s ∧ done ++ a :: todo = middle →
      ∃ s', step s (input a) = .ok (quiet, s') ∧
        (holds (done ++ [a]) s' ∧ done ++ [a] ++ todo = middle) := by
    intro done a todo s ⟨held, left⟩
    obtain ⟨s', taken, held'⟩ := next done a todo s left held
    exact ⟨s', taken, held', by rw [← left, List.append_assoc]; rfl⟩
  obtain ⟨s₂, ran, full, _⟩ := @run_each _ _ _ step _
    (fun done todo s => holds done s ∧ done ++ todo = middle) input quiet keep [] middle [] s₁
    ⟨held, by simp⟩
  obtain ⟨o, s₃, closed, last⟩ := finish s₂ full
  refine ⟨o, s₃, ?_, last⟩
  exact run_append (run_singleton opened) (run_append ran (run_singleton closed))

/-- What a state answers to a sequence of inputs, the states themselves left out. -/
def answers (step : σ → ι → Exec (ο × σ)) (s : σ) (inputs : List ι) : Exec (List ο) :=
  (run step s inputs).map Prod.fst

/-- No sequence of inputs tells the two states apart. -/
def Indistinguishable (step : σ → ι → Exec (ο × σ)) (s s' : σ) : Prop :=
  ∀ inputs, answers step s inputs = answers step s' inputs

@[simp] theorem answers_nil (s : σ) : answers step s [] = .ok [] := rfl

theorem answers_cons_ok {i : ι} {o : ο} (taken : step s i = .ok (o, s'))
    (rest : List ι) : answers step s (i :: rest) = (answers step s' rest).map (o :: ·) := by
  simp only [answers, run_cons_ok taken]
  cases run step s' rest <;> rfl

theorem Indistinguishable.of_bisimulation (rel : σ → σ → Prop)
    (bisim : ∀ s t i, rel s t →
      ∃ o s' t', step s i = .ok (o, s') ∧ step t i = .ok (o, t') ∧ rel s' t')
    {s t : σ} (related : rel s t) : Indistinguishable step s t := by
  intro inputs
  induction inputs generalizing s t with
  | nil => rfl
  | cons i rest ih =>
    obtain ⟨o, s', t', hs, ht, next⟩ := bisim s t i related
    rw [answers_cons_ok hs, answers_cons_ok ht, ih next]

end LibRdp.Machine
