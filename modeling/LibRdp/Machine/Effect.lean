import Mathlib.Logic.Basic

/-! # Changes of a state that may stop half-way

An effect changes a state and may stop early; what it changed before it stopped stays changed.
A triple says what holds of the state whether it went to its end or stopped.
-/

namespace LibRdp.Machine

/-- A computation that changes a state and may stop early. -/
def Effect (ε σ α : Type) := σ → Except ε α × σ

namespace Effect

variable {ε σ τ α β : Type}

instance : Monad (Effect ε σ) where
  pure a := fun s => (.ok a, s)
  bind m f := fun s =>
    match m s with
    | (.ok a, s) => f a s
    | (.error e, s) => (.error e, s)

/-- Stop here. -/
def stop (e : ε) : Effect ε σ α := fun s => (.error e, s)

def get : Effect ε σ σ := fun s => (.ok s, s)

def modify (change : σ → σ) : Effect ε σ Unit := fun s => (.ok (), change s)

/-- A computation that sees no state. -/
def lift (x : Except ε α) : Effect ε σ α := fun s => (x, s)

/-- An effect on a part of the state. -/
def zoom (part : σ → τ) (put : σ → τ → σ) (m : Effect ε τ α) : Effect ε σ α := fun s =>
  ((m (part s)).1, put s (m (part s)).2)

/-- Go on with what an effect gives, or do something else where it stops. -/
def recover (m : Effect ε σ α) (otherwise : Effect ε σ β) (next : α → Effect ε σ β) :
    Effect ε σ β := fun s =>
  match m s with
  | (.ok a, s) => next a s
  | (.error _, s) => otherwise s

variable {m : Effect ε σ α} {f : α → Effect ε σ β}

variable {s s' : σ} {otherwise : Effect ε σ β} {next : α → Effect ε σ β}

theorem bind_ok {a : α} (first : m s = (.ok a, s')) : (m >>= f) s = f a s' := by
  show (match m s with | (.ok a, s) => f a s | (.error e, s) => (.error e, s)) = f a s'
  rw [first]

theorem bind_error {e : ε} (first : m s = (.error e, s')) : (m >>= f) s = (.error e, s') := by
  show (match m s with | (.ok a, s) => f a s | (.error e, s) => (.error e, s)) = (.error e, s')
  rw [first]

theorem recover_ok {a : α} (first : m s = (.ok a, s')) :
    recover m otherwise next s = next a s' := by
  rw [recover, first]

theorem recover_error {e : ε} (first : m s = (.error e, s')) :
    recover m otherwise next s = otherwise s' := by
  rw [recover, first]

@[simp] theorem pure_apply (a : α) (s : σ) : (pure a : Effect ε σ α) s = (.ok a, s) := rfl

@[simp] theorem modify_bind (change : σ → σ) (f : Unit → Effect ε σ β) (s : σ) :
    (modify change >>= f) s = f () (change s) := rfl

@[simp] theorem get_bind (f : σ → Effect ε σ β) (s : σ) :
    ((get : Effect ε σ σ) >>= f) s = f s s := rfl

@[simp] theorem lift_ok_bind (a : α) (f : α → Effect ε σ β) (s : σ) :
    ((lift (.ok a) : Effect ε σ α) >>= f) s = f a s := rfl

theorem bind_eq_ok {s'' : σ} {b : β} :
    (m >>= f) s = (.ok b, s'') ↔ ∃ a s', m s = (.ok a, s') ∧ f a s' = (.ok b, s'') := by
  constructor
  · intro ran
    cases first : m s with
    | mk result s' =>
      cases result with
      | ok a =>
        rw [bind_ok first] at ran
        exact ⟨a, s', rfl, ran⟩
      | error e =>
        rw [bind_error first] at ran
        cases congrArg Prod.fst ran
  · rintro ⟨a, s', first, ran⟩
    rw [bind_ok first]
    exact ran

theorem lift_bind_eq_ok {x : Except ε α} {b : β} :
    ((lift x : Effect ε σ α) >>= f) s = (.ok b, s') ↔ ∃ a, x = .ok a ∧ f a s = (.ok b, s') := by
  rw [bind_eq_ok]
  constructor
  · rintro ⟨a, next, first, ran⟩
    cases first
    exact ⟨a, rfl, ran⟩
  · rintro ⟨a, rfl, ran⟩
    exact ⟨a, s, rfl, ran⟩

@[simp] theorem pure_bind_apply (a : α) (f : α → Effect ε σ β) (s : σ) :
    ((pure a : Effect ε σ α) >>= f) s = f a s := rfl

/-- What an effect gives does not depend on the state. -/
def Gives (m : Effect ε σ α) (x : Except ε α) : Prop := ∀ s, (m s).1 = x

section Gives

variable {m : Effect ε σ α} {x : Except ε α} {f : α → Effect ε σ β} {y : Except ε β}

theorem Gives.pure (a : α) : Gives (pure a : Effect ε σ α) (.ok a) := fun _ => rfl

theorem Gives.stop (e : ε) : Gives (stop e : Effect ε σ α) (.error e) := fun _ => rfl

theorem Gives.lift (x : Except ε α) : Gives (lift x : Effect ε σ α) x := fun _ => rfl

theorem Gives.bind {a : α} (first : Gives m (.ok a)) (next : Gives (f a) y) :
    Gives (m >>= f) y := by
  intro s
  rw [bind_ok (Prod.ext (first s) rfl)]
  exact next _

theorem Gives.bind_error {e : ε} (first : Gives m (.error e)) :
    Gives (m >>= f) (.error e) := by
  intro s
  rw [Effect.bind_error (Prod.ext (first s) rfl)]

theorem Gives.after {change : σ → σ} {f : Unit → Effect ε σ β} (next : Gives (f ()) y) :
    Gives (modify change >>= f) y := fun s => next (change s)

variable {otherwise : Effect ε σ β}

theorem Gives.recover {a : α} (first : Gives m (.ok a)) (next : Gives (f a) y) :
    Gives (recover m otherwise f) y := by
  intro s
  rw [recover_ok (Prod.ext (first s) rfl)]
  exact next _

theorem Gives.recover_error {e : ε} (first : Gives m (.error e)) (other : Gives otherwise y) :
    Gives (Effect.recover m otherwise f) y := by
  intro s
  rw [Effect.recover_error (Prod.ext (first s) rfl)]
  exact other _

end Gives

/-- A computation without a state gives something with `done` or stops with `stopped`. -/
structure Yields (x : Except ε α) (done : α → Prop) (stopped : ε → Prop) : Prop where
  ok : ∀ a, x = .ok a → done a
  error : ∀ e, x = .error e → stopped e

section Yields

variable {x : Except ε α} {middle done' : α → Prop} {done : β → Prop} {stopped : ε → Prop}

theorem Yields.pure {a : α} (here : done' a) :
    Yields (pure a : Except ε α) done' stopped := by
  refine ⟨?_, nofun⟩
  intro b same
  cases same
  exact here

theorem Yields.fails {e : ε} (here : stopped e) :
    Yields (.error e : Except ε α) done' stopped := by
  refine ⟨nofun, ?_⟩
  intro e' same
  cases same
  exact here

theorem Yields.bind {f : α → Except ε β} (first : Yields x middle stopped)
    (next : ∀ a, middle a → Yields (f a) done stopped) : Yields (x >>= f) done stopped := by
  cases found : x with
  | error e => exact .fails (first.error e found)
  | ok a => exact next a (first.ok a found)

theorem Yields.ite {p : Prop} [Decidable p] {x y : Except ε α}
    (yes : p → Yields x done' stopped) (no : ¬ p → Yields y done' stopped) :
    Yields (if p then x else y) done' stopped := by
  split
  · exact yes ‹p›
  · exact no ‹¬ p›

theorem Yields.weaken {done'' : α → Prop} (yields : Yields x done' stopped)
    (promises : ∀ a, done' a → done'' a) : Yields x done'' stopped :=
  ⟨fun a same => promises a (yields.ok a same), yields.error⟩

theorem Yields.tell (yields : Yields x done' stopped) :
    Yields x (fun a => x = .ok a ∧ done' a) stopped :=
  ⟨fun a same => ⟨same, yields.ok a same⟩, yields.error⟩

theorem Yields.mapM {l : List β} {f : β → Except ε α}
    (each : ∀ b ∈ l, Yields (f b) done' stopped) :
    Yields (l.mapM f) (fun out => out.length = l.length ∧ ∀ a ∈ out, done' a) stopped := by
  induction l with
  | nil => exact .pure ⟨rfl, nofun⟩
  | cons b l ih =>
    rw [List.mapM_cons]
    refine .bind (each b List.mem_cons_self) fun a here =>
      .bind (ih fun b' held => each b' (.tail _ held)) fun out ⟨length, later⟩ => .pure ⟨?_, ?_⟩
    · rw [List.length_cons, List.length_cons, length]
    · intro a' held
      cases held with
      | head => exact here
      | tail _ held => exact later a' held

end Yields

/-- From states with `before` an effect leaves one with `done` when it goes to its end, and one with
    `stopped` when it stops. -/
def Holds (before : σ → Prop) (m : Effect ε σ α) (done : α → σ → Prop) (stopped : ε → σ → Prop) :
    Prop :=
  ∀ s, before s → (∀ a s', m s = (.ok a, s') → done a s') ∧
    ∀ e s', m s = (.error e, s') → stopped e s'

section Rules

variable {before before' : σ → Prop} {m : Effect ε σ α} {f : α → Effect ε σ β}
  {middle done' : α → σ → Prop} {done : β → σ → Prop} {stopped : ε → σ → Prop}

theorem Holds.pure {a : α} (here : ∀ s, before s → done' a s) :
    Holds before (pure a : Effect ε σ α) done' stopped := by
  intro s held
  refine ⟨?_, nofun⟩
  intro b s' ran
  cases ran
  exact here s held

theorem Holds.stop {e : ε} (here : ∀ s, before s → stopped e s) :
    Holds before (stop e : Effect ε σ α) done' stopped := by
  intro s held
  refine ⟨nofun, ?_⟩
  intro e' s' ran
  cases ran
  exact here s held

theorem Holds.bind (first : Holds before m middle stopped)
    (next : ∀ a, Holds (middle a) (f a) done stopped) : Holds before (m >>= f) done stopped := by
  intro s held
  have held' := first s held
  cases ran : m s with
  | mk result s' =>
    cases result with
    | ok a =>
      rw [bind_ok ran]
      exact next a s' (held'.1 a s' ran)
    | error e =>
      rw [bind_error ran]
      refine ⟨nofun, ?_⟩
      intro e' s'' stops
      cases stops
      exact held'.2 e s' ran

theorem Holds.recover {otherwise : Effect ε σ β} {failed : ε → σ → Prop}
    (first : Holds before m middle failed)
    (other : Holds (fun s => ∃ e, failed e s) otherwise done stopped)
    (next : ∀ a, Holds (middle a) (f a) done stopped) :
    Holds before (recover m otherwise f) done stopped := by
  intro s held
  have held' := first s held
  cases ran : m s with
  | mk result s' =>
    cases result with
    | ok a =>
      rw [recover_ok ran]
      exact next a s' (held'.1 a s' ran)
    | error e =>
      rw [recover_error ran]
      exact other s' ⟨e, held'.2 e s' ran⟩

theorem Holds.modify {change : σ → σ} {done : Unit → σ → Prop}
    (here : ∀ s, before s → done () (change s)) :
    Holds before (modify change : Effect ε σ Unit) done stopped := by
  intro s held
  refine ⟨?_, nofun⟩
  intro a s' ran
  cases ran
  exact here s held

theorem Holds.get {done : σ → σ → Prop} (here : ∀ s, before s → done s s) :
    Holds before (get : Effect ε σ σ) done stopped := by
  intro s held
  refine ⟨?_, nofun⟩
  intro a s' ran
  cases ran
  exact here s held

theorem Holds.lift {x : Except ε α} {given : α → Prop} {fails : ε → Prop}
    (yields : Yields x given fails) (here : ∀ a s, given a → before s → done' a s)
    (failed : ∀ e s, fails e → before s → stopped e s) :
    Holds before (lift x : Effect ε σ α) done' stopped := by
  intro s held
  refine ⟨?_, ?_⟩
  · intro a s' ran
    cases ran
    exact here a s (yields.ok a rfl) held
  · intro e s' ran
    cases ran
    exact failed e s (yields.error e rfl) held

theorem Holds.ite {p : Prop} [Decidable p] {m m' : Effect ε σ α}
    (yes : p → Holds before m done' stopped) (no : ¬ p → Holds before m' done' stopped) :
    Holds before (if p then m else m') done' stopped := by
  split
  · exact yes ‹p›
  · exact no ‹¬ p›

theorem Holds.weaken {done'' : α → σ → Prop} {stopped' : ε → σ → Prop}
    (holds : Holds before m done' stopped) (asks : ∀ s, before' s → before s)
    (promises : ∀ a s, done' a s → done'' a s) (fails : ∀ e s, stopped e s → stopped' e s) :
    Holds before' m done'' stopped' := by
  intro s held
  have held' := holds s (asks s held)
  exact ⟨fun a s' ran => promises a s' (held'.1 a s' ran),
    fun e s' ran => fails e s' (held'.2 e s' ran)⟩

theorem Holds.assume {p : Prop} (known : ∀ s, before s → p)
    (holds : p → Holds before m done' stopped) : Holds before m done' stopped :=
  fun s held => holds (known s held) s held

theorem Holds.of_error {s s' : σ} {e : ε} (ran : m s = (.error e, s')) (here : stopped e s') :
    Holds (· = s) m done' stopped := by
  rintro _ rfl
  rw [ran]
  refine ⟨?_, ?_⟩
  · intro a next same
    cases congrArg Prod.fst same
  · intro e' next same
    cases congrArg Prod.fst same
    cases congrArg Prod.snd same
    exact here

theorem Holds.tell {s : σ} (holds : Holds before m done' stopped) (start : before s) :
    Holds (· = s) m (fun a s' => m s = (.ok a, s') ∧ done' a s') stopped := by
  rintro _ rfl
  have held := holds _ start
  exact ⟨fun a s' ran => ⟨ran, held.1 a s' ran⟩, held.2⟩

theorem Holds.forM {l : List β} {each : β → Effect ε σ PUnit} {keeps : σ → Prop}
    (step : ∀ b ∈ l, Holds keeps (each b) (fun _ => keeps) stopped) :
    Holds keeps (l.forM each) (fun _ => keeps) stopped := by
  induction l with
  | nil => exact .pure fun _ held => held
  | cons b l ih =>
    exact .bind (step b List.mem_cons_self) fun _ => ih fun b' held => step b' (.tail b held)

theorem Holds.zoom {part : σ → τ} {put : σ → τ → σ} {m : Effect ε τ α} {inner : τ → Prop}
    {finished : α → τ → Prop} {fails : ε → τ → Prop} (holds : Holds inner m finished fails)
    (asks : ∀ s, before s → inner (part s))
    (promises : ∀ a s t, before s → finished a t → done' a (put s t))
    (stops : ∀ e s t, before s → fails e t → stopped e (put s t)) :
    Holds before (zoom part put m) done' stopped := by
  intro s held
  have held' := holds (part s) (asks s held)
  refine ⟨?_, ?_⟩
  · intro a s' ran
    obtain ⟨result, rfl⟩ := Prod.mk.inj ran
    exact promises a s _ held (held'.1 a _ (Prod.ext result rfl))
  · intro e s' ran
    obtain ⟨result, rfl⟩ := Prod.mk.inj ran
    exact stops e s _ held (held'.2 e _ (Prod.ext result rfl))

end Rules

/-- Whether it goes to its end or stops, an effect does not change what is seen of the state. -/
def Leaves (view : σ → τ) (m : Effect ε σ α) : Prop := ∀ s, view (m s).2 = view s

section Leaves

variable {view : σ → τ} {m m' : Effect ε σ α} {f : α → Effect ε σ β}

theorem Leaves.pure (a : α) : Leaves view (pure a : Effect ε σ α) := fun _ => rfl

theorem Leaves.stop (e : ε) : Leaves view (stop e : Effect ε σ α) := fun _ => rfl

theorem Leaves.lift (x : Except ε α) : Leaves view (lift x : Effect ε σ α) := fun _ => rfl

theorem Leaves.get : Leaves view (get : Effect ε σ σ) := fun _ => rfl

theorem Leaves.modify {change : σ → σ} (same : ∀ s, view (change s) = view s) :
    Leaves view (modify change : Effect ε σ Unit) := same

theorem Leaves.bind (first : Leaves view m) (next : ∀ a, Leaves view (f a)) :
    Leaves view (m >>= f) := by
  intro s
  have here := first s
  cases ran : m s with
  | mk result s' =>
    rw [ran] at here
    cases result with
    | ok a =>
      rw [bind_ok ran]
      exact (next a s').trans here
    | error e =>
      rw [bind_error ran]
      exact here

theorem Leaves.ite {p : Prop} [Decidable p] (yes : p → Leaves view m)
    (no : ¬ p → Leaves view m') : Leaves view (if p then m else m') := by
  split
  · exact yes ‹p›
  · exact no ‹¬ p›

theorem Leaves.forM {l : List β} {each : β → Effect ε σ PUnit}
    (one : ∀ b ∈ l, Leaves view (each b)) : Leaves view (l.forM each) := by
  induction l with
  | nil => exact .pure _
  | cons b l ih =>
    exact .bind (one b List.mem_cons_self) fun _ => ih fun b' held => one b' (.tail b held)

theorem Leaves.holds (leaves : Leaves view m) (seen : τ) :
    Holds (view · = seen) m (fun _ s => view s = seen) fun _ s => view s = seen := by
  intro s here
  have after := (leaves s).trans here
  refine ⟨?_, ?_⟩
  · intro a s' ran
    rwa [ran] at after
  · intro e s' ran
    rwa [ran] at after

end Leaves

/-- An effect that stops has not changed what is seen of the state. -/
def Spares (view : σ → τ) (m : Effect ε σ α) : Prop :=
  ∀ s e, (m s).1 = .error e → view (m s).2 = view s

section Spares

variable {view : σ → τ} {m m' : Effect ε σ α} {f : α → Effect ε σ β}

theorem Leaves.spares (leaves : Leaves view m) : Spares view m := fun s _ _ => leaves s

theorem Spares.modify (change : σ → σ) : Spares view (modify change : Effect ε σ Unit) := nofun

theorem Spares.bind (first : Leaves view m) (next : ∀ a, Spares view (f a)) :
    Spares view (m >>= f) := by
  intro s e stops
  have here := first s
  cases ran : m s with
  | mk result s' =>
    rw [ran] at here
    cases result with
    | ok a =>
      rw [bind_ok ran] at stops ⊢
      exact (next a s' e stops).trans here
    | error e' =>
      rw [bind_error ran]
      exact here

theorem Spares.ite {p : Prop} [Decidable p] (yes : p → Spares view m)
    (no : ¬ p → Spares view m') : Spares view (if p then m else m') := by
  split
  · exact yes ‹p›
  · exact no ‹¬ p›

end Spares

end Effect

end LibRdp.Machine
