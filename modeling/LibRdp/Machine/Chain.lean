import LibRdp.Machine.Memory

/-! # Chains of records

Records that lie in a buffer are visited one after the other: a visit tells where the next one
begins, or that there is none. Where every visit moves on by at least some gap and stays inside
the buffer, the walk comes to its end within a number of visits that the buffer's size gives, and
what the visits cover never overlaps.
-/

namespace LibRdp.Machine

variable {ρ : Type}

/-- Visit the record at `position`, then the ones it leads to; a visit may depend on how many
    there were before. The result has the visits with their positions. -/
def follow (visit : Nat → Nat → Exec (ρ × Option Nat)) :
    Nat → Nat → Nat → Exec (List (Nat × ρ))
  | 0, _, _ => .error .outOfFuel
  | fuel + 1, turn, position => do
      let (record, next) ← visit turn position
      match next with
      | none => pure [(position, record)]
      | some next => do
          let later ← follow visit fuel (turn + 1) next
          pure ((position, record) :: later)

/-- Visits inside a buffer of `size` that move on by at least `gap`, and cover no more than what
    they move over. -/
def Advances (size gap : Nat) (extent : Nat → ρ → Nat)
    (visit : Nat → Nat → Exec (ρ × Option Nat)) : Prop :=
  ∀ turn position, position ≤ size → ∃ record next, visit turn position = .ok (record, next) ∧
    position + extent position record ≤ next.getD size ∧
    ∀ behind ∈ next, position + gap ≤ behind ∧ behind ≤ size

/-- Every position is that of an earlier record, or lies behind what that record covers. -/
def Spaced (extent : Nat → ρ → Nat) (visits : List (Nat × ρ)) : Prop :=
  visits.Pairwise fun visit later =>
    visit.1 < later.1 ∧ visit.1 + extent visit.1 visit.2 ≤ later.1

variable {size gap fuel turn position : Nat} {extent : Nat → ρ → Nat}
  {visit : Nat → Nat → Exec (ρ × Option Nat)}

variable {visits : List (Nat × ρ)}

theorem follow_length (ran : follow visit fuel turn position = .ok visits) :
    visits.length ≤ fuel := by
  induction fuel generalizing turn position visits with
  | zero => cases ran
  | succ fuel ih =>
    obtain ⟨⟨record, next⟩, -, ran⟩ := bind_eq_ok.mp ran
    cases next with
    | none =>
      cases ran
      exact Nat.succ_le_succ (Nat.zero_le fuel)
    | some next =>
      obtain ⟨later, ran', same⟩ := bind_eq_ok.mp ran
      cases same
      exact Nat.succ_le_succ (ih ran')

theorem follow_more {fuel' : Nat} (ran : follow visit fuel turn position = .ok visits)
    (more : fuel ≤ fuel') : follow visit fuel' turn position = .ok visits := by
  induction fuel generalizing fuel' turn position visits with
  | zero => cases ran
  | succ fuel ih =>
    obtain ⟨fuel', rfl⟩ := Nat.exists_eq_add_of_le' (Nat.zero_lt_of_lt more)
    obtain ⟨⟨record, next⟩, visited, ran⟩ := bind_eq_ok.mp ran
    apply bind_eq_ok.mpr ⟨(record, next), visited, ?_⟩
    cases next with
    | none => exact ran
    | some next =>
      obtain ⟨later, ran', same⟩ := bind_eq_ok.mp ran
      exact bind_eq_ok.mpr ⟨later, ih ran' (Nat.le_of_succ_le_succ more), same⟩

theorem Advances.follow_ends (advances : Advances size gap extent visit) (wide : 0 < gap)
    (inside : position ≤ size) (enough : (size - position) / gap < fuel) :
    ∃ visits, follow visit fuel turn position = .ok visits ∧ Spaced extent visits ∧
      ∀ visit ∈ visits, position ≤ visit.1 ∧ visit.1 + extent visit.1 visit.2 ≤ size := by
  induction fuel generalizing turn position with
  | zero => cases enough
  | succ fuel ih =>
    obtain ⟨record, next, visited, covered, onward⟩ := advances turn position inside
    cases next with
    | none =>
      refine ⟨[(position, record)], ?_, List.pairwise_singleton _ _, ?_⟩
      · rw [follow, visited]
        rfl
      · rw [List.forall_mem_singleton]
        exact ⟨Nat.le_refl position, covered⟩
    | some next =>
      obtain ⟨moved, inside'⟩ := onward next rfl
      have left : (size - next) / gap < fuel := by
        have more : (size - next + gap) / gap ≤ (size - position) / gap :=
          Nat.div_le_div_right (by omega)
        rw [Nat.add_div_right _ wide] at more
        exact Nat.lt_of_lt_of_le more (Nat.le_of_lt_succ enough)
      obtain ⟨visits, ran, spaced, within⟩ := @ih (turn + 1) next inside' left
      refine ⟨(position, record) :: visits, ?_, ?_, ?_⟩
      · rw [follow, visited]
        change follow visit fuel (turn + 1) next >>= _ = _
        rw [ran]
        rfl
      · apply List.pairwise_cons.mpr ⟨?_, spaced⟩
        intro later held
        have behind := (within later held).1
        exact ⟨by omega, Nat.le_trans covered behind⟩
      · rw [List.forall_mem_cons]
        refine ⟨⟨Nat.le_refl position, Nat.le_trans covered inside'⟩, ?_⟩
        intro later held
        obtain ⟨behind, ends⟩ := within later held
        exact ⟨by omega, ends⟩

end LibRdp.Machine
