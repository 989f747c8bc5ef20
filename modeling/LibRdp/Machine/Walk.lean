import LibRdp.Coding.Frame
import LibRdp.Machine.Effect

/-! # Walks over streams of items

A stream is walked item by item: an item is read off, and something is done for it that may
change a state and may stop the walk. A walk that reached the end of its stream has seen its
items, and any other walk over the stream sees the same ones: it is one loop over a list.

What a loop of effects comes to may be settled beforehand: it goes to its end if every item is
good, and if one is not it stops, always in the same way. A meter says how much has been counted
on the way.
-/

namespace LibRdp.Machine

open Coding (Consumes)

variable {B ε σ α β : Type}

/-- How much a state has grown on the way to another one. -/
structure Meter (σ : Type) where
  grows : Nat → σ → σ → Prop
  refl (s : σ) : grows 0 s s
  trans {m n : Nat} {s s' s'' : σ} : grows m s s' → grows n s' s'' → grows (m + n) s s''

/-- Growth by `low` at least and `high` at most. -/
def Meter.Between (meter : Meter σ) (low high : Nat) (s s' : σ) : Prop :=
  ∃ n, low ≤ n ∧ n ≤ high ∧ meter.grows n s s'

variable {meter : Meter σ} {low high low' high' : Nat}

theorem Meter.between_trans {s s' s'' : σ} (first : meter.Between low high s s')
    (next : meter.Between low' high' s' s'') :
    meter.Between (low + low') (high + high') s s'' := by
  obtain ⟨m, more, less, grown⟩ := first
  obtain ⟨n, more', less', grown'⟩ := next
  exact ⟨m + n, by omega, by omega, meter.trans grown grown'⟩

theorem Meter.between_refl (s : σ) : meter.Between 0 high s s :=
  ⟨0, Nat.le_refl 0, Nat.zero_le _, meter.refl s⟩

namespace Effect

variable {keeps : σ → Prop} {good good' : Prop} {stop : ε}

/-- From states with an invariant, which it keeps, an effect goes to its end if and only if a
    condition holds, and has then grown by `low` to `high`; if it stops, it stops with `stop`. -/
def Settles (meter : Meter σ) (keeps : σ → Prop) (m : Effect ε σ α) (good : Prop) (stop : ε)
    (low high : Nat) : Prop :=
  ∀ s, keeps s → (∀ a s', m s = (.ok a, s') → good ∧ keeps s' ∧ meter.Between low high s s') ∧
    ∀ e s', m s = (.error e, s') → ¬ good ∧ e = stop ∧ keeps s'

variable {m : Effect ε σ α} {each : β → Effect ε σ PUnit}

theorem Settles.kept (settles : Settles meter keeps m good stop low high) {s : σ}
    (start : keeps s) : keeps (m s).2 := by
  have held := settles s start
  cases ran : m s with
  | mk result s' =>
    cases result with
    | ok a => exact (held.1 a s' ran).2.1
    | error e => exact (held.2 e s' ran).2.2

theorem Settles.stops (never : ¬ good) :
    Settles meter keeps (Effect.stop stop : Effect ε σ α) good stop low high := by
  refine fun s start => ⟨nofun, ?_⟩
  intro e s' stops
  cases stops
  exact ⟨never, rfl, start⟩

theorem Settles.bind {f : α → Effect ε σ β} (first : Settles meter keeps m good stop low high)
    (next : ∀ a, good → Settles meter keeps (f a) good' stop low' high') :
    Settles meter keeps (m >>= f) (good ∧ good') stop (low + low') (high + high') := by
  intro s start
  have held := first s start
  cases ran : m s with
  | mk result s' =>
    cases result with
    | ok a =>
      obtain ⟨here, kept, grown⟩ := held.1 a s' ran
      rw [bind_ok ran]
      obtain ⟨done, stopped⟩ := next a here s' kept
      refine ⟨fun b s'' ran' => ?_, ?_⟩
      · obtain ⟨here', kept', grown'⟩ := done b s'' ran'
        exact ⟨⟨here, here'⟩, kept', meter.between_trans grown grown'⟩
      · intro e s'' ran'
        obtain ⟨bad, same, kept'⟩ := stopped e s'' ran'
        exact ⟨fun both => bad both.2, same, kept'⟩
    | error e =>
      obtain ⟨bad, same, kept⟩ := held.2 e s' ran
      rw [bind_error ran]
      refine ⟨nofun, ?_⟩
      intro e' s'' stops
      cases stops
      exact ⟨fun both => bad both.1, same, kept⟩

theorem Settles.forM {l : List β} {good : β → Prop} {low high : β → Nat}
    (step : ∀ b ∈ l, Settles meter keeps (each b) (good b) stop (low b) (high b)) :
    Settles meter keeps (l.forM each) (∀ b ∈ l, good b) stop (l.map low).sum (l.map high).sum := by
  induction l with
  | nil =>
    refine fun s start => ⟨?_, nofun⟩
    rintro _ _ ⟨⟩
    exact ⟨nofun, start, meter.between_refl s⟩
  | cons b l ih =>
    have whole := (step b List.mem_cons_self).bind fun _ _ => ih fun b' held =>
      step b' (.tail b held)
    rw [List.forall_mem_cons, List.map_cons, List.map_cons, List.sum_cons, List.sum_cons]
    exact whole

theorem forM_idle {l : List β} {s : σ} (idle : ∀ b ∈ l, each b s = (.ok (), s)) :
    l.forM each s = (.ok (), s) := by
  induction l with
  | nil => rfl
  | cons b l ih =>
    exact (bind_ok (idle b List.mem_cons_self)).trans (ih fun c held => idle c (.tail b held))

theorem each_of_forM {l : List β} {s s' : σ} (ran : l.forM each s = (.ok (), s')) {b : β}
    (held : b ∈ l) : ∃ before after, each b before = (.ok (), after) := by
  induction l generalizing s with
  | nil => cases held
  | cons c l ih =>
    change (each c >>= fun _ => l.forM each) s = _ at ran
    obtain ⟨⟨⟩, next, first, ran⟩ := bind_eq_ok.mp ran
    cases held with
    | head => exact ⟨s, next, first⟩
    | tail _ later => exact ih ran later

end Effect

/-- How items are read off a stream. -/
structure Reader (B ε α : Type) where
  read : List B → Except ε (α × List B)
  consumes : Consumes read

namespace Reader

variable (reader : Reader B ε α) {take : α → Effect ε σ Unit} {stream rest : List B} {item : α}

/-- Do something for every item of a stream. -/
def walk (take : α → Effect ε σ Unit) (stream : List B) : Effect ε σ Unit :=
  if stream = [] then pure ()
  else
    match _taken : reader.read stream with
    | .error stop => .stop stop
    | .ok (item, rest) => do
        take item
        walk take rest
termination_by stream.length
decreasing_by exact reader.consumes _taken

/-- The items of a stream that can be read to its end. -/
inductive Items : List B → List α → Prop where
  | nil : Items [] []
  | cons {stream rest : List B} {item : α} {items : List α}
      (taken : reader.read stream = .ok (item, rest)) (later : Items rest items) :
      Items stream (item :: items)

variable {reader}

theorem walk_nil : reader.walk take [] = pure () := by
  rw [walk, if_pos rfl]

theorem walk_cons (taken : reader.read stream = .ok (item, rest)) :
    reader.walk take stream = (do take item; reader.walk take rest) := by
  have filled : stream ≠ [] := by
    rintro rfl
    exact absurd (reader.consumes taken) (Nat.not_lt_zero _)
  rw [walk, if_neg filled]
  split
  · rename_i failed
    rw [taken] at failed
    cases failed
  rename_i taken'
  rw [taken] at taken'
  cases taken'
  rfl

theorem walk_stop {stop : ε} (filled : stream ≠ []) (failed : reader.read stream = .error stop) :
    reader.walk take stream = Effect.stop stop := by
  rw [walk, if_neg filled]
  split
  · rename_i failed'
    rw [failed] at failed'
    cases failed'
    rfl
  rename_i taken
  rw [failed] at taken
  cases taken

theorem Items.walk_eq {items : List α} (whole : reader.Items stream items) :
    reader.walk take stream = items.forM take := by
  induction whole with
  | nil => exact walk_nil
  | cons taken _ ih =>
    rw [walk_cons taken, ih]
    rfl

/-- What holds at the end of a stream and goes back over each item holds of a whole walk. -/
theorem walk_induction {motive : List B → σ → σ → Prop} (nil : ∀ s, motive [] s s)
    (cons : ∀ {stream rest item} {s next s' : σ}, reader.read stream = .ok (item, rest) →
      take item s = (.ok (), next) → motive rest next s' → motive stream s s') {s s' : σ}
    (ran : reader.walk take stream s = (.ok (), s')) : motive stream s s' := by
  induction length : stream.length using Nat.strongRecOn generalizing stream s with
  | ind n ih =>
    by_cases empty : stream = []
    · rw [empty, walk_nil] at ran
      cases ran
      exact empty ▸ nil _
    cases taken : reader.read stream with
    | error stop =>
      rw [walk_stop empty taken] at ran
      cases congrArg Prod.fst ran
    | ok pair =>
      obtain ⟨item, rest⟩ := pair
      rw [walk_cons taken] at ran
      obtain ⟨⟨⟩, next, first, ran⟩ := Effect.bind_eq_ok.mp ran
      have shorter := reader.consumes taken
      exact cons taken first (ih rest.length (by omega) ran rfl)

theorem items_of_walk {s s' : σ} (ran : reader.walk take stream s = (.ok (), s')) :
    ∃ items, reader.Items stream items := by
  refine reader.walk_induction (motive := fun stream _ _ => ∃ items, reader.Items stream items)
    (fun _ => ⟨[], .nil⟩) (fun taken _ later => ?_) ran
  obtain ⟨items, later⟩ := later
  exact ⟨_ :: items, .cons taken later⟩

theorem Items.taken {items : List α} (whole : reader.Items stream items) {s s' : σ}
    (ran : reader.walk take stream s = (.ok (), s')) (held : item ∈ items) :
    ∃ before after, take item before = (.ok (), after) := by
  rw [whole.walk_eq] at ran
  exact Effect.each_of_forM ran held

/-- The items of a stream, as far as they can be read. -/
def items (reader : Reader B ε α) (stream : List B) : List α :=
  (reader.walk (fun item => .modify (· ++ [item])) stream []).2

theorem Items.items_eq {items : List α} (whole : reader.Items stream items) :
    reader.items stream = items := by
  have noted : ∀ items before : List α,
      (items.forM (fun item => Effect.modify (· ++ [item])) : Effect ε (List α) PUnit) before =
        (.ok (), before ++ items) := by
    intro items
    induction items with
    | nil => exact fun before => by rw [List.append_nil]; rfl
    | cons item items ih =>
      intro before
      rw [List.append_cons]
      exact ih (before ++ [item])
  rw [Reader.items, whole.walk_eq, noted]
  rfl

/-- A walk over a stream that another walk got through is settled item by item. -/
theorem settles_walk {τ : Type} {meter : Meter τ} {seen : τ → Prop} {draw : α → Effect ε τ Unit}
    {good : α → Prop} {low high : α → Nat} {stop : ε} {s s' : σ}
    (ran : reader.walk take stream s = (.ok (), s'))
    (step : ∀ item before after, take item before = (.ok (), after) →
      Effect.Settles meter seen (draw item) (good item) stop (low item) (high item)) :
    Effect.Settles meter seen (reader.walk draw stream) (∀ item ∈ reader.items stream, good item)
      stop ((reader.items stream).map low).sum ((reader.items stream).map high).sum := by
  obtain ⟨items, whole⟩ := items_of_walk ran
  rw [whole.walk_eq, whole.items_eq]
  refine .forM fun item held => ?_
  obtain ⟨before, after, took⟩ := whole.taken ran held
  exact step item before after took

/-- Values that may be taken one after the other. -/
def Passes (allowed : β → σ → Prop) (after : β → σ → σ) : List β → σ → Prop
  | [], _ => True
  | b :: bs, s => allowed b s ∧ Passes allowed after bs (after b s)

/-- An item that is read and taken is a value in front of the stream that is allowed. -/
def Spells (reader : Reader B ε α) (take : α → Effect ε σ Unit) (spell : β → List B)
    (allowed : β → σ → Prop) (after : β → σ → σ) : Prop :=
  ∀ stream rest s s', (∃ item, reader.read stream = .ok (item, rest) ∧ take item s = (.ok (), s')) ↔
    ∃ b, stream = spell b ++ rest ∧ allowed b s ∧ s' = after b s

section Spells

variable {spell : β → List B} {allowed : β → σ → Prop} {after : β → σ → σ}

theorem Spells.walk_eq_ok (spells : reader.Spells take spell allowed after) {s s' : σ} :
    reader.walk take stream s = (.ok (), s') ↔
      ∃ bs, stream = bs.flatMap spell ∧ Passes allowed after bs s ∧
        s' = bs.foldl (fun s b => after b s) s := by
  constructor
  · refine reader.walk_induction (motive := fun stream s s' =>
      ∃ bs, stream = bs.flatMap spell ∧ Passes allowed after bs s ∧
        s' = bs.foldl (fun s b => after b s) s) (fun _ => ⟨[], rfl, trivial, rfl⟩) ?_
    rintro stream rest item s next s' taken first ⟨bs, later, pass, same⟩
    obtain ⟨b, whole, may, rfl⟩ := (spells _ _ _ _).mp ⟨item, taken, first⟩
    refine ⟨b :: bs, ?_, ⟨may, pass⟩, same⟩
    rw [whole, later, List.flatMap_cons]
  · rintro ⟨bs, rfl, pass, rfl⟩
    induction bs generalizing s with
    | nil => rw [List.flatMap_nil, walk_nil]; rfl
    | cons b bs ih =>
      obtain ⟨may, pass⟩ := pass
      obtain ⟨item, taken, first⟩ :=
        (spells ((b :: bs).flatMap spell) (bs.flatMap spell) s _).mpr ⟨b, rfl, may, rfl⟩
      rw [walk_cons taken, Effect.bind_ok first]
      exact ih pass

theorem passes_always {good : β → Prop} {bs : List β} {s : σ} :
    Passes (fun b _ => good b) after bs s ↔ ∀ b ∈ bs, good b := by
  induction bs generalizing s with
  | nil => exact ⟨nofun, fun _ => trivial⟩
  | cons b bs ih => rw [Passes, ih, List.forall_mem_cons]

end Spells

end Reader

end LibRdp.Machine
