import LibRdp.Machine.Run

/-! # Components of a machine

Part of a machine's state may move on its own: some inputs are addressed to it and
move it as a smaller machine moves, all others leave it alone. Whatever the order
in which inputs of the two kinds arrive, the part then runs as if only its own
inputs had arrived, so a result about the smaller machine holds inside the larger
one under every interleaving.
-/

namespace LibRdp.Machine

variable {σ ι ο τ κ π : Type} {step : σ → ι → Exec (ο × σ)} {part : τ → κ → Exec (π × τ)}
  {inv : σ → Prop} {view : σ → τ} {mine : ι → Option κ} {heard : ο → π}

/-- `part` is what `view` shows of `step` in the states of `inv`: every input is answered, those
    that `mine` accepts move the view as `part` moves and are answered as `heard` reads, all
    others leave the view as it is. -/
structure Component (step : σ → ι → Exec (ο × σ)) (part : τ → κ → Exec (π × τ))
    (inv : σ → Prop) (view : σ → τ) (mine : ι → Option κ) (heard : ο → π) : Prop where
  responds : ∀ {s}, inv s → ∀ i, ∃ o s', step s i = .ok (o, s') ∧ inv s'
  moves : ∀ {s i o s' k}, inv s → mine i = some k → step s i = .ok (o, s') →
    part (view s) k = .ok (heard o, view s')
  rests : ∀ {s i o s'}, inv s → mine i = none → step s i = .ok (o, s') → view s' = view s

/-- The answers to the inputs of a component, as it hears them. -/
def heardAnswers (mine : ι → Option κ) (heard : ο → π) : List ι → List ο → List π
  | i :: inputs, o :: outs =>
      match mine i with
      | some _ => heard o :: heardAnswers mine heard inputs outs
      | none => heardAnswers mine heard inputs outs
  | _, _ => []

theorem heardAnswers_map {ρ : Type} (f : π → ρ) (inputs : List ι) (outs : List ο) :
    heardAnswers mine (fun o => f (heard o)) inputs outs =
      (heardAnswers mine heard inputs outs).map f := by
  induction inputs generalizing outs with
  | nil => rfl
  | cons i inputs ih =>
    cases outs with
    | nil => rfl
    | cons o outs =>
      unfold heardAnswers
      cases mine i with
      | none => exact ih outs
      | some k => rw [ih outs, List.map_cons]

theorem heardAnswers_all {s s' : σ} {inputs : List ι} {outs : List ο}
    (all : ∀ i ∈ inputs, ∃ k, mine i = some k) (ran : run step s inputs = .ok (outs, s')) :
    heardAnswers mine heard inputs outs = outs.map heard := by
  induction inputs generalizing s outs with
  | nil =>
    cases ran
    rfl
  | cons i inputs ih =>
    obtain ⟨⟨o, s₁⟩, taken, ran⟩ := bind_eq_ok.mp ran
    obtain ⟨⟨outs₁, s₂⟩, later, last⟩ := bind_eq_ok.mp ran
    cases last
    obtain ⟨⟨k, isOwn⟩, rest⟩ := List.forall_mem_cons.mp all
    simp only [heardAnswers, isOwn, ih rest later, List.map_cons]

/-- What a component does on its own inputs, it does under every interleaving of them with the
    inputs of others. -/
theorem Component.run_interleaved (component : Component step part inv view mine heard) {s : σ}
    {t : τ} {inputs : List ι} {answers : List π} (holds : inv s)
    (alone : run part (view s) (inputs.filterMap mine) = .ok (answers, t)) :
    ∃ outs s', run step s inputs = .ok (outs, s') ∧
      heardAnswers mine heard inputs outs = answers ∧ view s' = t ∧ inv s' := by
  induction inputs generalizing s answers with
  | nil =>
    cases alone
    exact ⟨[], s, rfl, rfl, rfl, holds⟩
  | cons i inputs ih =>
    obtain ⟨o, s₁, taken, next⟩ := component.responds holds i
    cases own : mine i with
    | none =>
      rw [List.filterMap_cons_none own, ← component.rests holds own taken] at alone
      obtain ⟨outs, s', ran, same, last⟩ := ih next alone
      refine ⟨o :: outs, s', ?_, ?_, last⟩
      · rw [run_cons_ok taken, ran]
        rfl
      · simp only [heardAnswers, own, same]
    | some k =>
      rw [List.filterMap_cons_some own, run_cons_ok (component.moves holds own taken)] at alone
      obtain ⟨result, later, alone⟩ := bind_eq_ok.mp alone
      cases alone
      obtain ⟨outs, s', ran, same, last⟩ := ih next later
      refine ⟨o :: outs, s', ?_, ?_, last⟩
      · rw [run_cons_ok taken, ran]
        rfl
      · simp only [heardAnswers, own, same]

/-- Answers that each depend on the input and on what is still to come. -/
def replies (reply : κ → List κ → π) : List κ → List π
  | [] => []
  | k :: todo => reply k todo :: replies reply todo

/-- A component whose state is known from what it has still to take in: the inputs of others keep
    what `holds todo` says, and its own inputs move it on. -/
theorem run_interleaved {holds : List κ → σ → Prop} {reply : κ → List κ → π}
    (own : ∀ {k todo s i}, mine i = some k → holds (k :: todo) s →
      ∃ o s', step s i = .ok (o, s') ∧ heard o = reply k todo ∧ holds todo s')
    (other : ∀ {todo s i}, mine i = none → holds todo s →
      ∃ o s', step s i = .ok (o, s') ∧ holds todo s')
    {todo : List κ} {inputs : List ι} {s : σ} (left : inputs.filterMap mine = todo)
    (start : holds todo s) :
    ∃ outs s', run step s inputs = .ok (outs, s') ∧
      heardAnswers mine heard inputs outs = replies reply todo ∧ holds [] s' := by
  induction inputs generalizing s todo with
  | nil =>
    rw [List.filterMap_nil] at left
    subst left
    exact ⟨[], s, rfl, rfl, start⟩
  | cons i inputs ih =>
    cases isOwn : mine i with
    | none =>
      rw [List.filterMap_cons_none isOwn] at left
      obtain ⟨o, s₁, taken, next⟩ := other isOwn start
      obtain ⟨outs, s', ran, same, last⟩ := ih left next
      refine ⟨o :: outs, s', ?_, ?_, last⟩
      · rw [run_cons_ok taken, ran]
        rfl
      · simp only [heardAnswers, isOwn, same]
    | some k =>
      rw [List.filterMap_cons_some isOwn] at left
      subst left
      obtain ⟨o, s₁, taken, replied, next⟩ := own isOwn start
      obtain ⟨outs, s', ran, same, last⟩ := ih rfl next
      refine ⟨o :: outs, s', ?_, ?_, last⟩
      · rw [run_cons_ok taken, ran]
        rfl
      · simp only [heardAnswers, isOwn, same, replied, replies]

end LibRdp.Machine
