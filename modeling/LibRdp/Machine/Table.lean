import Mathlib.Algebra.GroupWithZero.Nat
import Mathlib.Data.List.Basic
import Mathlib.Data.List.Perm.Subperm

/-! # Tables of slots

A fixed array of slots, searched from the front and rewritten in place. A search
finds the first slot that passes a test; rewriting one slot changes only the
searches whose test it passes before or after.
-/

namespace LibRdp.Machine.Table

variable {α : Type} {p : α → Bool} {table : List α} {i : Nat} {old new a : α}

/-- The first slot that passes a test, with its index. -/
def lookup (p : α → Bool) : List α → Option (Nat × α)
  | [] => none
  | a :: rest => if p a then some (0, a) else (lookup p rest).map fun (i, b) => (i + 1, b)

theorem lookup_some (found : lookup p table = some (i, a)) : table[i]? = some a ∧ p a = true := by
  induction table generalizing i with
  | nil => cases found
  | cons b rest ih =>
    unfold lookup at found
    split at found
    · rename_i passes
      cases found
      exact ⟨rfl, passes⟩
    obtain ⟨⟨j, c⟩, later, same⟩ := Option.map_eq_some_iff.mp found
    cases same
    exact ih later

theorem lookup_none (missed : lookup p table = none) (held : table[i]? = some a) :
    p a = false := by
  induction table generalizing i with
  | nil => cases held
  | cons b rest ih =>
    unfold lookup at missed
    split at missed
    · cases missed
    rename_i fails
    cases i with
    | zero =>
      cases held
      simpa using fails
    | succ i => exact ih (Option.map_eq_none_iff.mp missed) held

theorem lookup_replicate {n : Nat} (fails : p a = false) :
    lookup p (List.replicate n a) = none := by
  induction n with
  | zero => rfl
  | succ n ih =>
    rw [List.replicate_succ, lookup, if_neg (by simp [fails]), ih]
    rfl

theorem lookup_append {front : List α} (missed : lookup p front = none) :
    lookup p (front ++ table) = (lookup p table).map fun hit => (front.length + hit.1, hit.2) := by
  induction front with
  | nil => simp
  | cons b rest ih =>
    unfold lookup at missed
    split at missed
    · cases missed
    rename_i fails
    rw [List.cons_append, lookup, if_neg fails, ih (Option.map_eq_none_iff.mp missed)]
    simp only [Option.map_map, List.length_cons]
    congr 1
    funext hit
    simp only [Function.comp_apply, Prod.mk.injEq, and_true]
    omega

theorem lookup_set_unseen (held : table[i]? = some old) (before : p old = false)
    (after : p new = false) : lookup p (table.set i new) = lookup p table := by
  induction table generalizing i with
  | nil => rfl
  | cons b rest ih =>
    cases i with
    | zero =>
      cases held
      simp only [List.set_cons_zero, lookup, before, after, Bool.false_eq_true, if_false]
    | succ i =>
      simp only [List.set_cons_succ, lookup]
      rw [ih held]

theorem lookup_set_found (found : lookup p table = some (i, old)) (passes : p new = true) :
    lookup p (table.set i new) = some (i, new) := by
  induction table generalizing i with
  | nil => cases found
  | cons b rest ih =>
    unfold lookup at found
    split at found
    · cases found
      simp only [List.set_cons_zero, lookup, passes, if_true]
    rename_i fails
    obtain ⟨⟨j, c⟩, later, same⟩ := Option.map_eq_some_iff.mp found
    cases same
    simp only [List.set_cons_succ, lookup, if_neg fails, ih later, Option.map_some]

theorem getElem?_set_cases {j : Nat} {b : α} (held : (table.set i new)[j]? = some b) :
    j = i ∧ b = new ∧ i < table.length ∨ j ≠ i ∧ table[j]? = some b := by
  rw [List.getElem?_set] at held
  split at held
  · rename_i same
    split at held
    · cases held
      exact .inl ⟨same.symm, rfl, ‹_›⟩
    · cases held
  · rename_i other
    exact .inr ⟨fun same => other same.symm, held⟩

theorem getElem?_set_held (held : table[i]? = some old) : (table.set i new)[i]? = some new := by
  rw [List.getElem?_set_self (List.getElem?_eq_some_iff.mp held).1]

/-- Every slot has a property. -/
def Every (holds : α → Prop) (table : List α) : Prop :=
  ∀ ⦃i : Nat⦄ ⦃a : α⦄, table[i]? = some a → holds a

section Every

variable {holds : α → Prop}

theorem Every.set (every : Every holds table) (now : holds new) : Every holds (table.set i new) := by
  intro j b held
  cases getElem?_set_cases held with
  | inl here =>
    rw [here.2.1]
    exact now
  | inr there => exact every there.2

theorem Every.map (every : Every holds table) {f : α → α} (kept : ∀ a, holds a → holds (f a)) :
    Every holds (table.map f) := by
  intro j b held
  rw [List.getElem?_map] at held
  obtain ⟨a, before, rfl⟩ := Option.map_eq_some_iff.mp held
  exact kept a (every before)

/-- Slots may be emptied, whichever they are. -/
theorem Every.clear (every : Every holds table) (blank : α) (empty : holds blank) (hit : α → Bool) :
    Every holds (table.map fun a => if hit a then blank else a) := by
  refine every.map fun a held => ?_
  split
  · exact empty
  · exact held

theorem every_replicate (n : Nat) (now : holds a) : Every holds (List.replicate n a) := by
  intro j b held
  rw [List.eq_of_mem_replicate (List.mem_of_getElem? held)]
  exact now

end Every

section Counting

theorem countP_set (held : table[i]? = some old) :
    (table.set i new).countP p + (if p old then 1 else 0) =
      table.countP p + (if p new then 1 else 0) := by
  induction table generalizing i with
  | nil => cases held
  | cons b rest ih =>
    cases i with
    | zero =>
      cases held
      simp only [List.set_cons_zero, List.countP_cons]
      omega
    | succ i =>
      have := ih held
      simp only [List.set_cons_succ, List.countP_cons]
      omega

theorem countP_map_blank {hit : α → Bool} {blank : α} (blanks : p blank = false) :
    (table.map fun a => if hit a then blank else a).countP p +
      table.countP (fun a => hit a && p a) = table.countP p := by
  induction table with
  | nil => rfl
  | cons b rest ih =>
    simp only [List.map_cons, List.countP_cons]
    cases hit b with
    | true =>
      simp only [if_true, blanks, Bool.true_and]
      simp only [Bool.false_eq_true, if_false]
      omega
    | false =>
      simp only [Bool.false_eq_true, if_false, Bool.false_and]
      omega

theorem countP_flatMap_filter {β : Type} {hit : α → Bool} {raise : α → List β} {q : β → Bool}
    (each : ∀ a ∈ table, hit a = true → (raise a).countP q = if p a then 1 else 0) :
    ((table.filter hit).flatMap raise).countP q = table.countP (fun a => hit a && p a) := by
  induction table with
  | nil => rfl
  | cons b rest ih =>
    have tail := ih fun a held => each a (.tail b held)
    cases isHit : hit b with
    | false => simp [isHit, tail]
    | true => simp [isHit, tail, each b List.mem_cons_self isHit, List.countP_cons, Nat.add_comm]

theorem countP_pos_of_held (held : table[i]? = some a) (passes : p a = true) :
    0 < table.countP p :=
  List.countP_pos_iff.mpr ⟨a, List.mem_of_getElem? held, passes⟩

end Counting

section Weights

variable (size : α → Nat)

/-- What the slots hold together. -/
def weight (size : α → Nat) (table : List α) : Nat := (table.map size).sum

theorem weight_set (held : table[i]? = some old) (new : α) :
    weight size (table.set i new) + size old = weight size table + size new := by
  induction table generalizing i with
  | nil => cases held
  | cons b rest ih =>
    cases i with
    | zero =>
      cases held
      simp only [weight, List.set_cons_zero, List.map_cons, List.sum_cons]
      omega
    | succ i =>
      have := ih held
      simp only [weight, List.set_cons_succ, List.map_cons, List.sum_cons] at this ⊢
      omega

theorem size_le_weight (held : table[i]? = some a) : size a ≤ weight size table := by
  induction table generalizing i with
  | nil => cases held
  | cons b rest ih =>
    cases i with
    | zero =>
      cases held
      simp only [weight, List.map_cons, List.sum_cons]
      omega
    | succ i =>
      have := ih held
      simp only [weight, List.map_cons, List.sum_cons] at this ⊢
      omega

theorem weight_replicate {size : α → Nat} (n : Nat) (empty : size a = 0) :
    weight size (List.replicate n a) = 0 := by
  simp [weight, empty]

theorem exists_of_weight_pos (some' : 0 < weight size table) :
    ∃ (i : Nat) (a : α), table[i]? = some a ∧ 0 < size a := by
  induction table with
  | nil => cases some'
  | cons b rest ih =>
    by_cases here : 0 < size b
    · exact ⟨0, b, rfl, here⟩
    have later : 0 < weight size rest := by
      simp only [weight, List.map_cons, List.sum_cons] at some' ⊢
      omega
    obtain ⟨i, a, held, positive⟩ := ih later
    exact ⟨i + 1, a, held, positive⟩

end Weights

section Keys

variable {κ : Type} {used : α → Bool} {key : α → κ}

/-- No two used slots hold the same key. -/
def Distinct (used : α → Bool) (key : α → κ) (table : List α) : Prop :=
  ∀ ⦃i j : Nat⦄ ⦃a b : α⦄, table[i]? = some a → table[j]? = some b → used a = true →
    used b = true → key a = key b → i = j

theorem Distinct.set (distinct : Distinct used key table)
    (apart : used new = true → ∀ {j b}, j ≠ i → table[j]? = some b → used b = true →
      key b ≠ key new) : Distinct used key (table.set i new) := by
  intro j k b c atJ atK usedB usedC same
  cases getElem?_set_cases atJ with
  | inl here =>
    obtain ⟨rfl, rfl, _⟩ := here
    cases getElem?_set_cases atK with
    | inl here' => exact here'.1.symm
    | inr there => exact absurd same.symm (apart usedB there.1 there.2 usedC)
  | inr there =>
    cases getElem?_set_cases atK with
    | inl here' =>
      obtain ⟨rfl, rfl, _⟩ := here'
      exact absurd same (apart usedC there.1 there.2 usedB)
    | inr there' => exact distinct there.2 there'.2 usedB usedC same

theorem Distinct.set_same (distinct : Distinct used key table) (held : table[i]? = some old)
    (kept : used new = true → used old = true ∧ key new = key old) :
    Distinct used key (table.set i new) := by
  apply distinct.set
  intro usedNew j b other atJ usedB same
  obtain ⟨usedOld, keyOld⟩ := kept usedNew
  exact other (distinct atJ held usedB usedOld (same.trans keyOld))

theorem distinct_replicate (n : Nat) (unused : used a = false) :
    Distinct used key (List.replicate n a) := by
  intro i j b c atI _ usedB
  rw [List.eq_of_mem_replicate (List.mem_of_getElem? atI), unused] at usedB
  cases usedB

theorem Distinct.countP_le_one (distinct : Distinct used key table) {k : κ}
    (one : ∀ a, p a = true → used a = true ∧ key a = k) : table.countP p ≤ 1 := by
  induction table with
  | nil => exact Nat.zero_le 1
  | cons b rest ih =>
    have tail : Distinct used key rest := fun i j _ _ atI atJ usedA usedB same =>
      Nat.succ.inj (@distinct (i + 1) (j + 1) _ _ atI atJ usedA usedB same)
    rw [List.countP_cons]
    cases passes : p b with
    | false => simpa using ih tail
    | true =>
      -- nothing behind the first can pass as well
      have none : rest.countP p = 0 := by
        rw [List.countP_eq_zero]
        intro a held passesA
        obtain ⟨i, atI⟩ := List.getElem?_of_mem held
        obtain ⟨usedB, keyB⟩ := one b passes
        obtain ⟨usedA, keyA⟩ := one a passesA
        exact absurd (@distinct 0 (i + 1) b a rfl atI usedB usedA (keyB.trans keyA.symm)) nofun
      rw [none]
      exact Nat.le_refl 1

theorem exists_missing {holds : κ → α → Bool} {keys : List κ} (apart : keys.Nodup)
    (one : ∀ k a, holds k a = true → key a = k) (more : table.length < keys.length) :
    ∃ k ∈ keys, lookup (holds k) table = none := by
  by_contra taken
  have inside : keys ⊆ table.map key := by
    intro k isKey
    cases found : lookup (holds k) table with
    | none => exact absurd ⟨k, isKey, found⟩ taken
    | some pair =>
      obtain ⟨held, passes⟩ := lookup_some found
      exact List.mem_map.mpr ⟨pair.2, List.mem_of_getElem? held, one k pair.2 passes⟩
  have short := (List.subperm_of_subset apart inside).length_le
  rw [List.length_map] at short
  omega

theorem Distinct.map (distinct : Distinct used key table) {f : α → α}
    (kept : ∀ a, used (f a) = true → used a = true ∧ key (f a) = key a) :
    Distinct used key (table.map f) := by
  intro i j a b atI atJ usedA usedB same
  rw [List.getElem?_map] at atI atJ
  obtain ⟨a', heldA, rfl⟩ := Option.map_eq_some_iff.mp atI
  obtain ⟨b', heldB, rfl⟩ := Option.map_eq_some_iff.mp atJ
  obtain ⟨usedA', keyA⟩ := kept a' usedA
  obtain ⟨usedB', keyB⟩ := kept b' usedB
  exact distinct heldA heldB usedA' usedB' (by rw [← keyA, ← keyB, same])

theorem Distinct.clear (distinct : Distinct used key table) (blank : α) (free : used blank = false)
    (hit : α → Bool) : Distinct used key (table.map fun a => if hit a then blank else a) := by
  refine distinct.map fun a isUsed => ?_
  split at isUsed
  · rw [free] at isUsed
    cases isUsed
  rename_i missed
  rw [if_neg missed]
  exact ⟨isUsed, rfl⟩

/-- The used slot with a key. -/
def entryOf [BEq κ] (used : α → Bool) (key : α → κ) (k : κ) (table : List α) : Option α :=
  (lookup (fun a => used a && key a == k) table).map Prod.snd

/-- A slot is rewritten that holds a key or, if no slot holds it, is unused; it may keep the key, take
    it up or give it up. -/
structure Rewrites [BEq κ] (used : α → Bool) (key : α → κ) (k : κ) (table : List α) (i : Nat)
    (old new : α) : Prop where
  held : table[i]? = some old
  was : used old = true → key old = k
  now : used new = true → key new = k
  fresh : used old = false → entryOf used key k table = none

variable [DecidableEq κ] {k : κ}

theorem entryOf_some (found : entryOf used key k table = some a) :
    ∃ i : Nat, table[i]? = some a ∧ used a = true ∧ key a = k := by
  obtain ⟨⟨i, b⟩, looked, rfl⟩ := Option.map_eq_some_iff.mp found
  obtain ⟨held, passes⟩ := lookup_some looked
  simp only [Bool.and_eq_true, beq_iff_eq] at passes
  exact ⟨i, held, passes⟩

theorem entryOf_none (missed : entryOf used key k table = none) (held : table[i]? = some a)
    (isUsed : used a = true) : key a ≠ k := by
  intro same
  have fails := lookup_none (Option.map_eq_none_iff.mp missed) held
  simp [isUsed, same] at fails

theorem entryOf_unused (free : Every (fun a => used a = false) table) :
    entryOf used key k table = none := by
  cases found : entryOf used key k table with
  | none => rfl
  | some a =>
    obtain ⟨i, held, isUsed, _⟩ := entryOf_some found
    rw [free held] at isUsed
    cases isUsed

theorem Distinct.entryOf_eq (distinct : Distinct used key table) (held : table[i]? = some a)
    (isUsed : used a = true) : entryOf used key (key a) table = some a := by
  cases found : entryOf used key (key a) table with
  | none => exact absurd rfl (entryOf_none found held isUsed)
  | some b =>
    obtain ⟨j, atJ, usedB, same⟩ := entryOf_some found
    have here := distinct atJ held usedB isUsed same
    rw [here, held] at atJ
    cases atJ
    rfl

theorem entryOf_map {f : α → α} (kept : ∀ a, used (f a) = used a ∧ key (f a) = key a) :
    entryOf used key k (table.map f) = (entryOf used key k table).map f := by
  unfold entryOf
  induction table with
  | nil => rfl
  | cons a rest ih =>
    simp only [List.map_cons, lookup, kept a]
    split
    · rfl
    · simp only [Option.map_map] at ih ⊢
      exact ih

theorem Rewrites.apart (rewrites : Rewrites used key k table i old new)
    (distinct : Distinct used key table) {j : Nat} {b : α} (other : j ≠ i)
    (atJ : table[j]? = some b) (usedB : used b = true) : key b ≠ k := by
  cases usedOld : used old with
  | true =>
    intro same
    exact other (distinct atJ rewrites.held usedB usedOld (same.trans (rewrites.was usedOld).symm))
  | false => exact entryOf_none (rewrites.fresh usedOld) atJ usedB

theorem Rewrites.distinct (rewrites : Rewrites used key k table i old new)
    (distinct : Distinct used key table) : Distinct used key (table.set i new) := by
  apply distinct.set
  intro usedNew j b other atJ usedB
  rw [rewrites.now usedNew]
  exact rewrites.apart distinct other atJ usedB

/-- After a rewrite the key is held by the new value, if that is used; other keys are held as
    before. -/
theorem Rewrites.entryOf_set (rewrites : Rewrites used key k table i old new)
    (distinct : Distinct used key table) (k' : κ) :
    entryOf used key k' (table.set i new) =
      if k' = k then (if used new then some new else none) else entryOf used key k' table := by
  by_cases same : k' = k
  · subst same
    rw [if_pos rfl]
    have after := rewrites.distinct distinct
    have held := @getElem?_set_held _ _ _ _ new rewrites.held
    split
    · rename_i usedNew
      have found := after.entryOf_eq held usedNew
      rw [rewrites.now usedNew] at found
      exact found
    rename_i unused
    cases found : entryOf used key k' (table.set i new) with
    | none => rfl
    | some b =>
      obtain ⟨j, atJ, usedB, keyB⟩ := entryOf_some found
      cases getElem?_set_cases atJ with
      | inl here =>
        rw [here.2.1] at usedB
        exact absurd usedB unused
      | inr there => exact absurd keyB (rewrites.apart distinct there.1 there.2 usedB)
  · rw [if_neg same]
    have unseen : ∀ {a}, (used a = true → key a = k) → (used a && key a == k') = false := by
      intro a about
      cases isUsed : used a with
      | false => rfl
      | true =>
        rw [about isUsed, Bool.true_and, beq_eq_false_iff_ne]
        exact fun equal => same equal.symm
    unfold entryOf
    rw [lookup_set_unseen rewrites.held (unseen rewrites.was) (unseen rewrites.now)]

end Keys

end LibRdp.Machine.Table
