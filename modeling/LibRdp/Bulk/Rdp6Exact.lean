import LibRdp.Bulk.Rdp6Table
import Mathlib.Algebra.BigOperators.Fin

/-! # Which tables are accepted

A symbol that is given its entries finds every one of them free and takes as many as its length
says, whatever its code is. A table without a free entry has therefore used up exactly the Kraft
sum, and the lengths that are accepted are those of the complete prefix codes.
-/

namespace LibRdp.Bulk

open Machine Coding

def claimedEntries (table : Memory DecodeEntry) : Nat :=
  ((Finset.range table.size).filter fun e => (table.cell e).bitCount ≠ 0).card

theorem claimedEntries_filled (n : Nat) : claimedEntries (Memory.filled n ⟨0, 0⟩) = 0 := by
  rw [claimedEntries, Finset.card_eq_zero, Finset.filter_eq_empty_iff]
  intro e below
  have blank := Memory.filled_cell (⟨0, 0⟩ : DecodeEntry) (Finset.mem_range.mp below)
  rw [Memory.filled_size] at blank
  rw [blank]
  exact not_not.mpr rfl

variable {table : Memory DecodeEntry}

theorem claimedEntries_put {index : Nat} {entry : DecodeEntry}
    (inside : index < table.size) (free : (table.cell index).bitCount = 0)
    (positive : entry.bitCount ≠ 0) :
    claimedEntries (table.put index entry) = claimedEntries table + 1 := by
  have claimed : (Finset.range table.size).filter
        (fun e => ((table.put index entry).cell e).bitCount ≠ 0) =
      insert index ((Finset.range table.size).filter fun e => (table.cell e).bitCount ≠ 0) := by
    ext e
    rw [Finset.mem_insert, Finset.mem_filter, Finset.mem_filter, Finset.mem_range,
      Memory.put_cell _ _ inside]
    by_cases here : e = index
    · subst here
      simp [inside, positive]
    · simp [here]
  rw [claimedEntries, Memory.put_size, claimed, Finset.card_insert_of_notMem, claimedEntries]
  simp [free]

theorem fillEntries_claims {entry : DecodeEntry} {step strides first turn fuel : Nat}
    (positive : entry.bitCount ≠ 0) (sized : table.size = strides * step) (low : first < step)
    (within : turn ≤ strides) (enough : strides < fuel + turn) :
    ∃ status table', fillEntries entry step (strides * step) fuel (first + turn * step) table =
        .ok (status, table') ∧ table'.size = strides * step ∧
      (status = .ok → claimedEntries table' + turn = claimedEntries table + strides) := by
  induction fuel generalizing turn table with
  | zero => omega
  | succ fuel ih =>
    rw [fillEntries]
    by_cases more : turn < strides
    · have inside : first + turn * step < strides * step := by
        have := Nat.mul_le_mul_right step (Nat.succ_le_of_lt more)
        rw [Nat.succ_mul] at this
        omega
      rw [if_pos inside, Memory.load_of_lt (sized ▸ inside), ok_bind]
      by_cases free : (table.cell (first + turn * step)).bitCount = 0
      · rw [if_neg (not_not.mpr free), Memory.store_of_lt (sized ▸ inside), ok_bind]
        obtain ⟨status, table', ran, sized', claims⟩ :=
          ih (show (table.put (first + turn * step) entry).size = strides * step from sized)
            (Nat.succ_le_of_lt more) (by omega)
        rw [Nat.add_assoc, ← Nat.succ_mul]
        refine ⟨status, table', ran, sized', fun done => ?_⟩
        have counted := claimedEntries_put (sized ▸ inside) free positive
        have := claims done
        omega
      · rw [if_pos free]
        exact ⟨_, _, rfl, sized, fun done => by cases done⟩
    · obtain rfl : turn = strides := by omega
      rw [if_neg (by omega)]
      exact ⟨_, _, rfl, sized, fun _ => rfl⟩

theorem reverseBits_lt (value count : Nat) : rdp6ReverseBits value count < 2 ^ count := by
  rw [reverseBits_eq]
  simpa using ofLsb_lt (msb count value)

theorem fillSymbols_claims {width symbol : Nat} {lengths : List Nat} {next : Nat → Nat}
    (within : ∀ l ∈ lengths, 1 ≤ l ∧ l ≤ width) (sized : table.size = 2 ^ width) :
    ∃ status table', fillSymbols (2 ^ width) lengths symbol next table = .ok (status, table') ∧
      table'.size = 2 ^ width ∧ (status = .ok → claimedEntries table' =
        claimedEntries table + (lengths.map fun l => 2 ^ (width - l)).sum) := by
  induction lengths generalizing symbol next table with
  | nil => exact ⟨_, _, rfl, sized, fun _ => rfl⟩
  | cons l lengths ih =>
    obtain ⟨low, high⟩ := within l List.mem_cons_self
    have strides : 2 ^ width = 2 ^ (width - l) * 2 ^ l := by
      rw [← Nat.pow_add, Nat.sub_add_cancel high]
    have many := Nat.le_mul_of_pos_right (2 ^ (width - l)) (Nat.two_pow_pos l)
    obtain ⟨status, table₁, ran, sized₁, claims⟩ :=
      @fillEntries_claims table ⟨symbol % 65536, l⟩ (2 ^ l) (2 ^ (width - l))
        (rdp6ReverseBits (next l) l) 0 (2 ^ width + 1) (Nat.ne_of_gt low)
        (sized.trans strides) (reverseBits_lt _ _) (Nat.zero_le _) (by omega)
    rw [← strides, Nat.zero_mul] at ran
    change fillEntries _ _ _ _ (rdp6ReverseBits (next l) l) table = _ at ran
    simp only [fillSymbols]
    rw [ran, ok_bind]
    by_cases done : status = .ok
    · obtain ⟨status', table', rest, sized', total⟩ :=
        ih (fun l' later => within l' (List.mem_cons_of_mem l later)) (sized₁.trans strides.symm)
      simp only [done, if_true]
      refine ⟨status', table', rest, sized', fun done' => ?_⟩
      have := claims done
      rw [total done', List.map_cons, List.sum_cons]
      omega
    · simp only [done, if_false]
      exact ⟨_, _, rfl, sized₁.trans strides.symm, fun done' => absurd done' done⟩

variable {width : Nat} {lengths : List Nat}

theorem countLengths_within {counts counts' : Nat → Nat}
    (counted : countLengths width lengths counts = some counts') :
    ∀ l ∈ lengths, 1 ≤ l ∧ l ≤ width := by
  induction lengths generalizing counts with
  | nil => exact List.forall_mem_nil _
  | cons l lengths ih =>
    rw [countLengths] at counted
    split at counted
    · cases counted
    · rw [List.forall_mem_cons]
      exact ⟨by omega, ih counted⟩

theorem buildTable_accepts {width : Nat} {lengths : List Nat} (narrow : width < 16)
    (sized : table.size = 2 ^ width) :
    ∃ status table', rdp6BuildTable table (2 ^ width) width lengths = .ok (status, table') ∧
      (status = .ok → (∀ l ∈ lengths, 1 ≤ l ∧ l ≤ width) ∧
        (lengths.map fun l => 2 ^ (width - l)).sum = 2 ^ width) := by
  rw [rdp6BuildTable, if_neg (by omega), Memory.fill_all _ sized, ok_bind]
  cases counted : countLengths width lengths (fun _ => 0) with
  | none => exact ⟨_, _, rfl, fun done => by cases done⟩
  | some counts =>
    have within := countLengths_within counted
    simp only
    cases nextCodes counts width 1 0 (fun _ => 0) with
    | none => exact ⟨_, _, rfl, fun done => by cases done⟩
    | some next =>
      obtain ⟨status, table', ran, sized', claims⟩ :=
        @fillSymbols_claims (Memory.filled (2 ^ width) ⟨0, 0⟩) width 0 lengths next within rfl
      simp only
      rw [ran, ok_bind]
      simp only
      split
      · rename_i refused
        exact ⟨_, _, rfl, fun done => absurd done refused⟩
      split
      · rename_i accepted full
        refine ⟨_, _, rfl, fun _ => ⟨within, ?_⟩⟩
        have all : claimedEntries table' = 2 ^ width := by
          rw [claimedEntries, Finset.filter_true_of_mem, Finset.card_range, sized']
          intro e below
          rw [Finset.mem_range, sized'] at below
          simpa using List.all_eq_true.mp full e (List.mem_range.mpr below)
        have := claims (not_not.mp accepted)
        rw [claimedEntries_filled, Nat.zero_add] at this
        exact this.symm.trans all
      · exact ⟨_, _, rfl, fun done => by cases done⟩

theorem complete_of_sum (within : ∀ l ∈ lengths, 1 ≤ l ∧ l ≤ width)
    (kraft : (lengths.map fun l => 2 ^ (width - l)).sum = 2 ^ width) :
    Complete width lengths.length (lengthOf lengths) := by
  refine complete_of_list within ?_
  rw [← kraft, Finset.sum_range]
  refine Eq.trans ?_ (Fin.sum_univ_fun_getElem lengths fun l => 2 ^ (width - l))
  apply Finset.sum_congr rfl
  intro i _
  rw [lengthOf, List.getD_eq_getElem _ _ i.isLt]

/-- Exactly the complete codes are accepted, and an accepted table holds each symbol where its
    code is read. -/
theorem buildTable_exact {width : Nat} {lengths : List Nat} {table : Memory DecodeEntry}
    (narrow : width < 16) (sized : table.size = 2 ^ width) :
    ∃ status table', rdp6BuildTable table (2 ^ width) width lengths = .ok (status, table') ∧
      (status = .ok ↔ (∀ l ∈ lengths, 1 ≤ l ∧ l ≤ width) ∧ kraftSum lengths = 1) ∧
      (status = .ok →
        (∀ s < lengths.length, ∀ e < 2 ^ width, e % 2 ^ lengthOf lengths s =
            rdp6ReverseBits (canonicalCode lengths.length (lengthOf lengths) s)
              (lengthOf lengths s) → table'.cell e = ⟨s, lengthOf lengths s⟩) ∧
        ∀ e < 2 ^ width, ∃ s < lengths.length, table'.cell e = ⟨s, lengthOf lengths s⟩ ∧
          symbolCode lengths s <+: lsb width e ∧
          ∀ t < lengths.length, symbolCode lengths t <+: lsb width e → t = s) := by
  obtain ⟨status, table', ran, accepts⟩ := @buildTable_accepts table width lengths narrow sized
  refine ⟨status, table', ran, ⟨fun done => ?_, fun ⟨within, kraft⟩ => ?_⟩, fun done => ?_⟩
  · obtain ⟨within, kraft⟩ := accepts done
    exact ⟨within, (kraftSum_eq_one_iff fun l member => (within l member).2).mpr kraft⟩
  · have kraft' := (kraftSum_eq_one_iff fun l member => (within l member).2).mp kraft
    obtain ⟨table'', built, -⟩ := buildTable_eq (complete_of_sum within kraft') narrow sized
    rw [ran] at built
    cases built
    rfl
  · obtain ⟨within, kraft⟩ := accepts done
    have complete := complete_of_sum within kraft
    obtain ⟨table'', built, isTable⟩ := buildTable_eq complete narrow sized
    rw [ran] at built
    cases built
    have only : ∀ e < 2 ^ width, ∃ s < lengths.length, table'.cell e = ⟨s, lengthOf lengths s⟩ ∧
        symbolCode lengths s <+: lsb width e ∧
        ∀ t < lengths.length, symbolCode lengths t <+: lsb width e → t = s := by
      intro e below
      obtain ⟨s, symbol, starts, cell⟩ := isTable.entry e below
      exact ⟨s, symbol, cell, starts, fun t symbol' starts' =>
        complete.codeBits_unique symbol' symbol (lsb_length width e) starts' starts⟩
    refine ⟨fun s symbol e below reversed => ?_, only⟩
    obtain ⟨found, -, cell, -, unique⟩ := only e below
    have starts : symbolCode lengths s <+: lsb width e := by
      have high := complete.high s symbol
      rw [symbolCode, codeBits, prefix_lsb_iff e (by rwa [msb_length]), msb_length, reversed,
        reverseBits_eq]
    rw [unique s symbol starts]
    exact cell

theorem buildTable_exact_pair :
    ∃ table', rdp6BuildTable (Memory.filled 4 ⟨0, 0⟩) 4 2 [2, 1, 2] = .ok (.ok, table') ∧
      table'.cell 1 = ⟨0, 2⟩ := by
  obtain ⟨status, table', ran, accepted, entries⟩ :=
    @buildTable_exact 2 [2, 1, 2] (Memory.filled 4 ⟨0, 0⟩) (by decide) rfl
  obtain rfl : status = .ok := accepted.mpr ⟨by decide, by norm_num [kraftSum]⟩
  exact ⟨table', ran, (entries rfl).1 0 (by decide) 1 (by decide) (by decide)⟩

end LibRdp.Bulk
