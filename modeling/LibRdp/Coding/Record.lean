import Mathlib.Logic.Basic

/-! # Records that are coded relative to the record before

A record is read field by field into the record that came before it, and a field that was not
sent keeps its value. A layout gives the order of the fields and how they make up the record;
what is known of single fields carries over to records along the layout.
-/

namespace LibRdp.Coding

variable {F : Type → Type} {B ε : Type}

/-- Two computations fail alike, or both succeed with related results. -/
inductive Both (related : α → β → Prop) : Except ε α → Except ε β → Prop where
  | failed (error : ε) : Both related (.error error) (.error error)
  | done : related a b → Both related (.ok a) (.ok b)

theorem Both.bind {R : α → β → Prop} {S : γ → δ → Prop} {x : Except ε α} {y : Except ε β}
    {f : α → Except ε γ} {g : β → Except ε δ} (both : Both R x y)
    (next : ∀ a b, R a b → Both S (f a) (g b)) : Both S (x >>= f) (y >>= g) := by
  cases both with
  | failed error => exact .failed error
  | done related => exact next _ _ related

theorem Both.of_eq {R : α → α → Prop} {x y : Except ε α} (same : x = y)
    (reflexive : ∀ a, R a a) : Both R x y := by
  cases same
  cases x with
  | error error => exact .failed error
  | ok a => exact .done (reflexive a)

theorem Both.diagonal {related : α → α → Prop} {x : Except ε α} (both : Both related x x) :
    Both (fun a b => a = b ∧ related a a) x x := by
  cases x with
  | error error => exact .failed error
  | ok a =>
    cases both with
    | done related => exact .done ⟨rfl, related⟩

/-- Whether a reading succeeds and what it leaves of the stream do not depend on the value before. -/
def Blind (read : α → List B → Except ε (α × List B)) : Prop :=
  ∀ a b stream, Both (fun x y => x.2 = y.2) (read a stream) (read b stream)

theorem except_bind_eq_ok {x : Except ε α} {f : α → Except ε β} {b : β} :
    (x >>= f) = .ok b ↔ ∃ a, x = .ok a ∧ f a = .ok b := by
  cases x with
  | error e => simp [bind, Except.bind]
  | ok a => simp [bind, Except.bind]

/-- A reading leaves an end of its stream. -/
def Moves (read : List B → Except ε (α × List B)) : Prop :=
  ∀ ⦃stream a rest⦄, read stream = .ok (a, rest) → rest <:+ stream

theorem Moves.pure (a : α) :
    Moves (fun stream => (Pure.pure (a, stream) : Except ε (α × List B))) := by
  intro stream a rest read
  cases read
  exact List.suffix_refl stream

theorem Moves.bind {first : List B → Except ε (α × List B)}
    {next : α × List B → Except ε (β × List B)} (before : Moves first)
    (after : ∀ a, Moves (fun stream => next (a, stream))) :
    Moves (fun stream => first stream >>= next) := by
  intro stream b rest read
  obtain ⟨pair, opened, read⟩ := except_bind_eq_ok.mp read
  exact (after pair.1 read).trans (before opened)

theorem Moves.ite {p : List B → Prop} [DecidablePred p]
    {read read' : List B → Except ε (α × List B)} (yes : Moves read) (no : Moves read') :
    Moves (fun stream => if p stream then read stream else read' stream) := by
  intro stream a rest read
  simp only at read
  split at read
  · exact yes read
  · exact no read

theorem Moves.error (e : ε) : Moves (fun _ => (.error e : Except ε (α × List B))) := nofun

/-- The layout of a record; `F α` are the fields with values in `α`. -/
inductive Layout (F : Type → Type) : Type → Type 1 where
  | empty : Layout F Unit
  | one (field : F α) : Layout F α
  | both (first : Layout F α) (second : Layout F β) : Layout F (α × β)
  | record (inner : Layout F α) (make : α → β) (parts : β → α)
      (whole : ∀ a, parts (make a) = a := by exact fun _ => rfl) : Layout F β

namespace Layout

/-- Read a record into the one before it. -/
def read (readField : {α : Type} → F α → α → List B → Except ε (α × List B)) :
    Layout F α → α → List B → Except ε (α × List B)
  | .empty, old, stream => .ok (old, stream)
  | .one field, old, stream => readField field old stream
  | .both first second, old, stream => do
      let (a, stream) ← first.read readField old.1 stream
      let (b, stream) ← second.read readField old.2 stream
      pure ((a, b), stream)
  | .record inner make parts _, old, stream => do
      let (a, stream) ← inner.read readField (parts old) stream
      pure (make a, stream)

/-- Two records agree on every field. -/
def Same (same : {α : Type} → F α → α → α → Prop) : Layout F α → α → α → Prop
  | .empty, _, _ => True
  | .one field, a, b => same field a b
  | .both first second, a, b => first.Same same a.1 b.1 ∧ second.Same same a.2 b.2
  | .record inner _ parts _, a, b => inner.Same same (parts a) (parts b)

/-- Every field of a record has a property. -/
def All (p : {α : Type} → F α → α → Prop) : Layout F α → α → Prop
  | .empty, _ => True
  | .one field, a => p field a
  | .both first second, a => first.All p a.1 ∧ second.All p a.2
  | .record inner _ parts _, a => inner.All p (parts a)

/-- The bytes spell a record after another one. -/
def Coded (coded : {α : Type} → F α → α → α → List B → Prop) :
    Layout F α → α → α → List B → Prop
  | .empty, _, _, bytes => bytes = []
  | .one field, previous, next, bytes => coded field previous next bytes
  | .both first second, previous, next, bytes => ∃ front back, bytes = front ++ back ∧
      first.Coded coded previous.1 next.1 front ∧ second.Coded coded previous.2 next.2 back
  | .record inner _ parts _, previous, next, bytes =>
      inner.Coded coded (parts previous) (parts next) bytes

variable {readField : {α : Type} → F α → α → List B → Except ε (α × List B)}
  {same : {α : Type} → F α → α → α → Prop} {coded : {α : Type} → F α → α → α → List B → Prop}

theorem read_coded (law : ∀ {α : Type} (field : F α) {old previous next : α} {bytes tail : List B},
      coded field previous next bytes → same field old previous →
      ∃ now, readField field old (bytes ++ tail) = .ok (now, tail) ∧ same field now next)
    {α : Type} (layout : Layout F α) {old previous next : α} {bytes tail : List B}
    (spelled : layout.Coded coded previous next bytes) (agree : layout.Same same old previous) :
    ∃ now, layout.read readField old (bytes ++ tail) = .ok (now, tail) ∧
      layout.Same same now next := by
  induction layout generalizing bytes tail with
  | empty =>
    cases spelled
    exact ⟨old, rfl, trivial⟩
  | one field => exact law field spelled agree
  | both first second ihFirst ihSecond =>
    obtain ⟨front, back, rfl, spelled₁, spelled₂⟩ := spelled
    obtain ⟨a, readA, sameA⟩ := @ihFirst _ _ _ front (back ++ tail) spelled₁ agree.1
    obtain ⟨b, readB, sameB⟩ := @ihSecond _ _ _ back tail spelled₂ agree.2
    refine ⟨(a, b), ?_, sameA, sameB⟩
    rw [List.append_assoc, read, readA]
    change (second.read readField old.2 (back ++ tail) >>= fun r => pure ((a, r.1), r.2)) = _
    rw [readB]
    rfl
  | record inner make parts whole ih =>
    obtain ⟨a, readA, sameA⟩ := @ih _ _ _ bytes tail spelled agree
    refine ⟨make a, ?_, ?_⟩
    · rw [read, readA]
      rfl
    · rw [Same, whole]
      exact sameA

theorem same_refl (reflexive : ∀ {α : Type} (field : F α) (a : α), same field a a) {α : Type}
    (layout : Layout F α) (a : α) : layout.Same same a a := by
  induction layout with
  | empty => exact trivial
  | one field => exact reflexive field a
  | both first second ihFirst ihSecond => exact ⟨ihFirst a.1, ihSecond a.2⟩
  | record inner make parts whole ih => exact ih (parts a)

/-- Every field of the layout passes a test. -/
def Every (p : {α : Type} → F α → Prop) : Layout F α → Prop
  | .empty => True
  | .one field => p field
  | .both first second => first.Every p ∧ second.Every p
  | .record inner _ _ _ => inner.Every p

theorem read_blind {α : Type} (layout : Layout F α)
    (each : layout.Every fun field => Blind (readField field)) :
    Blind (layout.read readField) := by
  induction layout with
  | empty =>
    intro a b stream
    exact .done rfl
  | one field => exact each
  | both first second ihFirst ihSecond =>
    intro a b stream
    apply (ihFirst each.1 a.1 b.1 stream).bind
    intro (x, rest) (y, _) left
    cases left
    apply (ihSecond each.2 a.2 b.2 rest).bind
    intro x y left
    exact .done left
  | record inner make parts whole ih =>
    intro a b stream
    apply (ih each (parts a) (parts b) stream).bind
    intro x y left
    exact .done left

theorem read_moves {α : Type} (layout : Layout F α)
    (each : ∀ {α : Type} (field : F α) (a : α), Moves (readField field a)) (a : α) :
    Moves (layout.read readField a) := by
  induction layout with
  | empty => exact .pure a
  | one field => exact each field a
  | both first second ihFirst ihSecond =>
    exact .bind (ihFirst a.1) fun _ => .bind (ihSecond a.2) fun _ => .pure _
  | record inner make parts whole ih => exact .bind (ih (parts a)) fun _ => .pure _

/-- The last field of a layout, with its place in the record. -/
inductive Ends {β : Type} (last : F β) : {α : Type} → Layout F α → (α → β) → Prop where
  | one : Ends last (.one last) fun value => value
  | both {first : Layout F α} {second : Layout F γ} {get : γ → β} (ends : Ends last second get) :
      Ends last (.both first second) fun pair => get pair.2
  | record {inner : Layout F α} {make : α → γ} {parts : γ → α} {whole : ∀ a, parts (make a) = a}
      {get : α → β} (ends : Ends last inner get) :
      Ends last (.record inner make parts whole) fun record => get (parts record)

theorem Ends.read {α β : Type} {last : F β} {layout : Layout F α} {get : α → β}
    (ends : Ends last layout get)
    (each : ∀ {α : Type} (field : F α) (a : α), Moves (readField field a)) {old new : α}
    {stream rest : List B} (read : layout.read readField old stream = .ok (new, rest)) :
    ∃ mid, mid <:+ stream ∧ readField last (get old) mid = .ok (get new, rest) := by
  induction ends generalizing stream with
  | one => exact ⟨stream, List.suffix_refl stream, read⟩
  | both ends ih =>
    rename_i first second get
    simp only [Layout.read] at read
    obtain ⟨pair, front, read⟩ := except_bind_eq_ok.mp read
    obtain ⟨pair', back, read⟩ := except_bind_eq_ok.mp read
    cases read
    obtain ⟨mid, inside, found⟩ := ih back
    exact ⟨mid, inside.trans (first.read_moves each old.1 front), found⟩
  | record ends ih =>
    rename_i inner make parts whole get
    simp only [Layout.read] at read
    obtain ⟨pair, inside, read⟩ := except_bind_eq_ok.mp read
    cases read
    simp only [whole]
    exact ih inside

end Layout

end LibRdp.Coding
