import Mathlib.Data.BitVec

/-! # Serial numbers

Numbers of `w` bits that wrap around. The distance from one to another is their difference,
and the half of all distances that is below `2 ^ (w - 1)` points forward.
-/

namespace LibRdp.Machine.Serial

variable {w : Nat}

/-- How far `sequence` is ahead of `expected`. -/
def distance (expected sequence : BitVec w) : Nat := (sequence - expected).toNat

/-- The number stays, or moves forward by one up to `bound`. -/
def Advances (bound : Nat) (old new : BitVec w) : Prop :=
  new = old ∨ ∃ step, 1 ≤ step ∧ step ≤ bound ∧ new = old + BitVec.ofNat w step

/-- To go on after a number at a distance within `window` is to advance by at most one more. -/
theorem advances_past {window : Nat} {expected sequence : BitVec w}
    (near : distance expected sequence ≤ window) :
    Advances (window + 1) expected (sequence + 1) := by
  refine .inr ⟨distance expected sequence + 1, by omega, by omega, ?_⟩
  have ahead : BitVec.ofNat w (distance expected sequence) = sequence - expected := by
    rw [distance, BitVec.ofNat_toNat, BitVec.setWidth_eq]
  rw [BitVec.ofNat_add, ahead, ← BitVec.add_assoc, BitVec.add_comm expected,
    BitVec.sub_add_cancel]
  rfl

end LibRdp.Machine.Serial
