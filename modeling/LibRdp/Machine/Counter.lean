import Mathlib.Logic.Function.Iterate
import Mathlib.Data.Nat.ModEq
import Mathlib.Data.List.Nodup
import Mathlib.Data.List.Range

/-! # Counters that skip zero

A 32-bit counter that wraps past zero runs through the same 2^32 - 1 values over and
over, so its value tells two moments apart that are less than a whole round apart.
-/

namespace LibRdp.Machine

/-- The values of a counter that skips zero. -/
def counterPeriod : Nat := 2 ^ 32 - 1

/-- The next value of a counter that skips zero. -/
def skipZero (n : UInt32) : UInt32 := if n + 1 = 0 then 1 else n + 1

theorem skipZero_ne_zero (n : UInt32) : skipZero n ≠ 0 := by
  unfold skipZero
  split
  · decide
  · assumption

theorem skipZero_toNat (n : UInt32) : (skipZero n).toNat = n.toNat % counterPeriod + 1 := by
  have bound := n.toNat_lt
  have next : (n + 1).toNat = (n.toNat + 1) % 2 ^ 32 := UInt32.toNat_add n 1
  unfold skipZero counterPeriod
  split
  · rename_i wraps
    have zero : (n.toNat + 1) % 2 ^ 32 = 0 := by rw [← next, wraps]; rfl
    have one : (1 : UInt32).toNat = 1 := rfl
    omega
  rename_i goesOn
  have some : (n.toNat + 1) % 2 ^ 32 ≠ 0 := by
    rw [← next]
    exact fun zero => goesOn (UInt32.toNat_inj.mp zero)
  omega

variable {n : UInt32}

theorem skipZero_iterate_toNat (some : n ≠ 0) (k : Nat) :
    (skipZero^[k] n).toNat = (n.toNat - 1 + k) % counterPeriod + 1 := by
  have bound := n.toNat_lt
  have positive : n.toNat ≠ 0 := fun zero => some (UInt32.toNat_inj.mp zero)
  induction k with
  | zero =>
    have small : n.toNat - 1 < counterPeriod := by unfold counterPeriod; omega
    simp only [Function.iterate_zero, id_eq, Nat.add_zero, Nat.mod_eq_of_lt small]
    omega
  | succ k ih =>
    rw [Function.iterate_succ', Function.comp, skipZero_toNat, ih, Nat.mod_add_mod]
    rfl

theorem skipZero_iterate_injective (some : n ≠ 0) {i j : Nat} (first : i < counterPeriod)
    (second : j < counterPeriod) (same : skipZero^[i] n = skipZero^[j] n) : i = j := by
  have values := congrArg UInt32.toNat same
  rw [skipZero_iterate_toNat some, skipZero_iterate_toNat some] at values
  have apart : n.toNat - 1 + i ≡ n.toNat - 1 + j [MOD counterPeriod] := Nat.succ.inj values
  exact (Nat.ModEq.add_left_cancel' _ apart).eq_of_lt_of_lt first second

theorem skipZero_iterates_nodup (some : n ≠ 0) {count : Nat} (round : count ≤ counterPeriod) :
    ((List.range count).map (skipZero^[·] n)).Nodup := by
  apply List.Nodup.map_on _ List.nodup_range
  intro i first j second same
  rw [List.mem_range] at first second
  exact skipZero_iterate_injective some (by omega) (by omega) same

end LibRdp.Machine
