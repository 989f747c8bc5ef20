import LibRdp.Coding.Bits

/-! # Readers that invert bit codes

A reader is seen as the bit string it still has to deliver. `Codec` says that a
read function and a code are inverse: what it returns was spelled at the front
of the string, and what is spelled there is returned. The rules below build the
codec of a compound read from those of its parts.
-/

namespace LibRdp.Coding

/-- A reader's own invariant and the bits it has left. -/
structure View (R : Type) where
  wellFormed : R → Prop
  bits : R → List Bool

/-- `read` returns exactly the valid values whose code stands first. -/
structure Codec (view : View R) (read : R → Option (α × R)) (code : α → List Bool)
    (valid : α → Prop) : Prop where
  sound : ∀ {r a r'}, view.wellFormed r → read r = some (a, r') →
    view.wellFormed r' ∧ valid a ∧ view.bits r = code a ++ view.bits r'
  complete : ∀ {r a rest}, view.wellFormed r → valid a → view.bits r = code a ++ rest →
    ∃ r', read r = some (a, r') ∧ view.wellFormed r' ∧ view.bits r' = rest

namespace Codec

variable {view : View R}

theorem congr {read : R → Option (α × R)} {code code' : α → List Bool} {valid valid' : α → Prop}
    (codec : Codec view read code valid) (sameValid : ∀ a, valid a ↔ valid' a)
    (same : ∀ a, valid a → code a = code' a) : Codec view read code' valid' where
  sound wf run := by
    obtain ⟨wf', ok, spelled⟩ := codec.sound wf run
    exact ⟨wf', (sameValid _).mp ok, by rw [← same _ ok, spelled]⟩
  complete wf ok spelled := by
    have ok' := (sameValid _).mpr ok
    exact codec.complete wf ok' (by rw [same _ ok', spelled])

theorem base {read read' : R → Option (Nat × R)} {code : Nat → List Bool} {valid : Nat → Prop}
    (codec : Codec view read code valid) (b : Nat)
    (eqn : ∀ r, read' r = (read r).bind (fun p => some (b + p.1, p.2))) :
    Codec view read' (fun v => code (v - b)) (fun v => b ≤ v ∧ valid (v - b)) where
  sound wf run := by
    rw [eqn, Option.bind_eq_some_iff] at run
    obtain ⟨⟨low, r''⟩, first, rest⟩ := run
    obtain ⟨rfl, rfl⟩ : b + low = _ ∧ r'' = _ := by simpa using rest
    obtain ⟨wf', ok, spelled⟩ := codec.sound wf first
    exact ⟨wf', ⟨by omega, by simpa using ok⟩, by simpa using spelled⟩
  complete wf ok spelled := by
    obtain ⟨r', run, wf', left⟩ := codec.complete wf ok.2 spelled
    refine ⟨r', ?_, wf', left⟩
    rw [eqn, run, Option.bind_some]
    simp only [Option.some.injEq, Prod.mk.injEq, and_true]
    omega

theorem branch {bit : R → Option (Nat × R)} {read zero one : R → Option (α × R)}
    {code₀ code₁ : α → List Bool} {valid₀ valid₁ : α → Prop}
    (first : α → Prop) [DecidablePred first] (select : Codec view bit (msb 1) (· < 2))
    (left : Codec view zero code₀ valid₀) (right : Codec view one code₁ valid₁)
    (isLeft : ∀ a, valid₀ a → first a) (isRight : ∀ a, valid₁ a → ¬ first a)
    (eqn : ∀ r, read r = (bit r).bind (fun p => if p.1 = 0 then zero p.2 else one p.2)) :
    Codec view read (fun a => if first a then false :: code₀ a else true :: code₁ a)
      (fun a => valid₀ a ∨ valid₁ a) where
  sound {r a r'} wf run := by
    rw [eqn, Option.bind_eq_some_iff] at run
    obtain ⟨⟨b, r''⟩, got, rest⟩ := run
    obtain ⟨wf'', small, spelled⟩ := select.sound wf got
    by_cases isZero : b = 0
    · subst isZero
      obtain ⟨wf', ok, more⟩ := left.sound wf'' (by simpa using rest)
      refine ⟨wf', .inl ok, ?_⟩
      simp [if_pos (isLeft a ok), spelled, more, msb]
    have isOne : b = 1 := by omega
    subst isOne
    obtain ⟨wf', ok, more⟩ := right.sound wf'' (by simpa using rest)
    refine ⟨wf', .inr ok, ?_⟩
    simp [if_neg (isRight a ok), spelled, more, msb]
  complete {r a rest} wf ok spelled := by
    rcases ok with ok | ok
    · rw [if_pos (isLeft a ok), List.cons_append] at spelled
      obtain ⟨r'', got, wf'', left'⟩ := select.complete (a := 0) wf (by omega) spelled
      obtain ⟨r', run, wf', done⟩ := left.complete wf'' ok left'
      exact ⟨r', by rw [eqn, got]; exact run, wf', done⟩
    · rw [if_neg (isRight a ok), List.cons_append] at spelled
      obtain ⟨r'', got, wf'', right'⟩ := select.complete (a := 1) wf (by omega) spelled
      obtain ⟨r', run, wf', done⟩ := right.complete wf'' ok right'
      exact ⟨r', by rw [eqn, got]; exact run, wf', done⟩

end Codec

end LibRdp.Coding
