import Mathlib.Data.Nat.Bitwise
import Mathlib.Tactic.Ring

/-! # Bit strings over bytes

Two bit orders are in use: most significant bit first, and least significant
bit first. For each there is a fixed-width code of a number, its value, the bit
string of a byte string and the packing of a bit string into bytes.
-/

namespace LibRdp.Coding

/-- The `n` low bits of `v`, most significant bit first. -/
def msb : Nat → Nat → List Bool
  | 0, _ => []
  | n + 1, v => v.testBit n :: msb n v

/-- The `n` low bits of `v`, least significant bit first. -/
def lsb : Nat → Nat → List Bool
  | 0, _ => []
  | n + 1, v => v.testBit 0 :: lsb n (v / 2)

/-- The number a bit string spells, most significant bit first. -/
def ofMsb (bits : List Bool) : Nat := bits.foldl (fun acc b => 2 * acc + b.toNat) 0

/-- The number a bit string spells, least significant bit first. -/
def ofLsb : List Bool → Nat
  | [] => 0
  | b :: bits => b.toNat + 2 * ofLsb bits

/-- A value in one of several classes, given by a width and a base each: the number of the class
    in unary, then the value within the class. -/
def prefixedCode : List (Nat × Nat) → Nat → List Bool
  | [], _ => []
  | (valueBits, base) :: classes, v =>
      if v < base + 2 ^ valueBits then false :: msb valueBits (v - base)
      else true :: prefixedCode classes v

def msbBits (data : List UInt8) : List Bool := data.flatMap (fun b => msb 8 b.toNat)

def lsbBits (data : List UInt8) : List Bool := data.flatMap (fun b => lsb 8 b.toNat)

/-- The `i`-th block of eight bits, completed with zeros. -/
def octet (bits : List Bool) (i : Nat) : List Bool :=
  (List.range 8).map (fun j => bits.getD (8 * i + j) false)

/-- Bytes needed for a bit string. -/
def octets (bits : List Bool) : Nat := (bits.length + 7) / 8

/-- Pack into bytes, padding the last one with zero bits. -/
def packMsb (bits : List Bool) : List UInt8 :=
  (List.range (octets bits)).map (fun i => UInt8.ofNat (ofMsb (octet bits i)))

@[simp] theorem msb_length (n v : Nat) : (msb n v).length = n := by
  induction n with
  | zero => rfl
  | succ n ih => simp [msb, ih]

@[simp] theorem lsb_length (n v : Nat) : (lsb n v).length = n := by
  induction n generalizing v with
  | zero => rfl
  | succ n ih => simp [lsb, ih]

@[simp] theorem octet_length (bits : List Bool) (i : Nat) : (octet bits i).length = 8 := by
  simp [octet]

private theorem flatMap_length {f : α → List β} {k : Nat} (width : ∀ a, (f a).length = k)
    (as : List α) : (as.flatMap f).length = k * as.length := by
  induction as with
  | nil => rfl
  | cons a as ih => simp [width, ih, Nat.mul_succ, Nat.add_comm]

@[simp] theorem msbBits_length (data : List UInt8) : (msbBits data).length = 8 * data.length := by
  rw [msbBits, flatMap_length (k := 8) (fun b : UInt8 => msb_length 8 b.toNat)]

@[simp] theorem lsbBits_length (data : List UInt8) : (lsbBits data).length = 8 * data.length := by
  rw [lsbBits, flatMap_length (k := 8) (fun b : UInt8 => lsb_length 8 b.toNat)]

@[simp] theorem msbBits_append (a b : List UInt8) : msbBits (a ++ b) = msbBits a ++ msbBits b := by
  simp [msbBits]

private theorem foldl_msb (bits : List Bool) (acc : Nat) :
    bits.foldl (fun acc b => 2 * acc + b.toNat) acc = acc * 2 ^ bits.length + ofMsb bits := by
  induction bits generalizing acc with
  | nil => simp [ofMsb]
  | cons b bits ih =>
    simp only [ofMsb, List.foldl_cons, List.length_cons]
    rw [ih, ih (2 * 0 + b.toNat), Nat.pow_succ]
    ring

theorem ofMsb_cons (b : Bool) (bits : List Bool) :
    ofMsb (b :: bits) = b.toNat * 2 ^ bits.length + ofMsb bits := by
  rw [ofMsb, List.foldl_cons, foldl_msb]
  simp

theorem ofMsb_append (a b : List Bool) : ofMsb (a ++ b) = ofMsb a * 2 ^ b.length + ofMsb b := by
  rw [ofMsb, List.foldl_append, foldl_msb]
  rfl

theorem ofMsb_snoc (bits : List Bool) (b : Bool) : ofMsb (bits ++ [b]) = 2 * ofMsb bits + b.toNat := by
  rw [ofMsb_append]
  simp [ofMsb, Nat.mul_comm]

theorem ofMsb_lt (bits : List Bool) : ofMsb bits < 2 ^ bits.length := by
  induction bits with
  | nil => simp [ofMsb]
  | cons b bits ih =>
    rw [ofMsb_cons, List.length_cons, Nat.pow_succ]
    cases b <;> simp <;> omega

theorem ofLsb_lt (bits : List Bool) : ofLsb bits < 2 ^ bits.length := by
  induction bits with
  | nil => simp [ofLsb]
  | cons b bits ih =>
    simp only [ofLsb, List.length_cons, Nat.pow_succ]
    cases b <;> simp <;> omega

private theorem mod_two_pow_succ (v n : Nat) :
    v % 2 ^ (n + 1) = (v.testBit n).toNat * 2 ^ n + v % 2 ^ n := by
  rw [Nat.mod_pow_succ, Nat.toNat_testBit, Nat.mul_comm, Nat.add_comm]

theorem ofMsb_msb (n v : Nat) : ofMsb (msb n v) = v % 2 ^ n := by
  induction n with
  | zero => simp [msb, ofMsb, Nat.mod_one]
  | succ n ih => rw [msb, ofMsb_cons, ih, msb_length, mod_two_pow_succ]

theorem ofLsb_lsb (n v : Nat) : ofLsb (lsb n v) = v % 2 ^ n := by
  induction n generalizing v with
  | zero => simp [lsb, ofLsb, Nat.mod_one]
  | succ n ih =>
    simp only [lsb, ofLsb, ih]
    rw [Nat.testBit_zero, Nat.pow_succ, Nat.mul_comm (2 ^ n) 2, Nat.mod_mul]
    have := Nat.mod_two_eq_zero_or_one v
    rcases this with h | h <;> simp [h]

theorem msb_ofMsb (bits : List Bool) : msb bits.length (ofMsb bits) = bits := by
  induction bits with
  | nil => rfl
  | cons b bits ih =>
    have small := ofMsb_lt bits
    have low : msb bits.length (ofMsb (b :: bits)) = msb bits.length (ofMsb bits) := by
      have same : ∀ n v w : Nat, (∀ i < n, v.testBit i = w.testBit i) → msb n v = msb n w := by
        intro n
        induction n with
        | zero => intros; rfl
        | succ n ihn =>
          intro v w agree
          simp only [msb]
          rw [agree n (by omega), ihn v w (fun i hi => agree i (by omega))]
      apply same
      intro i hi
      rw [ofMsb_cons, Nat.mul_comm, Nat.testBit_two_pow_mul_add _ small, if_pos hi]
    simp only [List.length_cons, msb, low, ih]
    congr 1
    rw [ofMsb_cons, Nat.mul_comm, Nat.testBit_two_pow_mul_add _ small, if_neg (by omega)]
    cases b <;> simp

theorem lsb_ofLsb (bits : List Bool) : lsb bits.length (ofLsb bits) = bits := by
  induction bits with
  | nil => rfl
  | cons b bits ih =>
    have half : ofLsb (b :: bits) / 2 = ofLsb bits := by
      simp only [ofLsb]
      cases b with
      | false => simp
      | true => simp only [Bool.toNat_true]; omega
    simp only [List.length_cons, lsb, half, ih]
    congr 1
    simp only [ofLsb, Nat.testBit_zero]
    cases b <;> simp [Nat.add_mul_mod_self_left]

theorem lsb_snoc (n v : Nat) : lsb (n + 1) v = lsb n v ++ [v.testBit n] := by
  induction n generalizing v with
  | zero => rfl
  | succ n ih =>
    rw [lsb, ih, lsb, List.cons_append, Nat.testBit_succ]

theorem lsb_reverse (n v : Nat) : (lsb n v).reverse = msb n v := by
  induction n with
  | zero => rfl
  | succ n ih => rw [lsb_snoc, List.reverse_append, ih]; rfl

theorem ofLsb_append (a b : List Bool) : ofLsb (a ++ b) = ofLsb a + 2 ^ a.length * ofLsb b := by
  induction a with
  | nil => simp [ofLsb]
  | cons c a ih =>
    rw [List.cons_append, ofLsb, ih, ofLsb, List.length_cons, Nat.pow_succ]
    ring

theorem ofLsb_reverse (bits : List Bool) : ofLsb bits.reverse = ofMsb bits := by
  induction bits with
  | nil => rfl
  | cons b bits ih =>
    rw [List.reverse_cons, ofLsb_append, ih, ofMsb_cons, List.length_reverse]
    simp only [ofLsb]
    ring

theorem ofMsb_lsb (n v : Nat) : ofMsb (lsb n v) = ofLsb (msb n v) := by
  rw [← ofLsb_reverse, lsb_reverse]

variable {a b : List Bool} {n width : Nat}

theorem ofLsb_injective (sameLength : a.length = b.length) (same : ofLsb a = ofLsb b) : a = b := by
  rw [← lsb_ofLsb a, sameLength, same, lsb_ofLsb]

theorem ofMsb_injective (sameLength : a.length = b.length) (same : ofMsb a = ofMsb b) : a = b := by
  rw [← msb_ofMsb a, sameLength, same, msb_ofMsb]

theorem msb_add {k b : Nat} (small : b < 2 ^ k) (n a : Nat) :
    msb (n + k) (a * 2 ^ k + b) = msb n a ++ msb k b := by
  apply ofMsb_injective
  · simp
  · rw [ofMsb_msb, ofMsb_append, ofMsb_msb, ofMsb_msb, msb_length, Nat.add_comm n, Nat.pow_add,
      Nat.mod_mul, Nat.mul_comm a, Nat.mul_add_mod, Nat.mul_add_div (Nat.two_pow_pos k),
      Nat.div_eq_of_lt small, Nat.add_zero, Nat.add_comm, Nat.mul_comm]

theorem lsb_add {a : Nat} (small : a < 2 ^ n) (k b : Nat) :
    lsb (n + k) (a + 2 ^ n * b) = lsb n a ++ lsb k b := by
  apply ofLsb_injective
  · simp
  · rw [ofLsb_lsb, ofLsb_append, ofLsb_lsb, ofLsb_lsb, lsb_length, Nat.pow_add, Nat.mod_mul,
      Nat.add_mul_mod_self_left, Nat.add_mul_div_left _ _ (Nat.two_pow_pos n),
      Nat.div_eq_of_lt small, Nat.zero_add]

theorem lsb_drop (n k v : Nat) : (lsb (n + k) v).drop n = lsb k (v / 2 ^ n) := by
  induction n generalizing v with
  | zero => simp
  | succ n ih =>
    rw [Nat.add_right_comm, lsb, List.drop_succ_cons, ih, Nat.div_div_eq_div_mul, Nat.pow_succ,
      Nat.mul_comm 2]

theorem lsb_take (v : Nat) (fits : n ≤ width) : (lsb width v).take n = lsb n v := by
  induction n generalizing width v with
  | zero => rfl
  | succ n ih =>
    cases width with
    | zero => omega
    | succ width => rw [lsb, List.take_succ_cons, ih _ (by omega)]; rfl

/-- A number's low bits spell `bits` when it is congruent to what `bits` spell. -/
theorem prefix_lsb_iff {bits : List Bool} (v : Nat) (fits : bits.length ≤ width) :
    bits <+: lsb width v ↔ v % 2 ^ bits.length = ofLsb bits := by
  rw [List.prefix_iff_eq_take, lsb_take v fits]
  constructor
  · intro same
    rw [← ofLsb_lsb, ← same]
  · intro same
    rw [← ofLsb_lsb] at same
    have spelled := lsb_ofLsb (lsb bits.length v)
    rw [lsb_length, same, lsb_ofLsb] at spelled
    exact spelled

private theorem flatMap_range_blocks (f : Nat → β) (n k : Nat) :
    (List.range k).flatMap (fun i => (List.range n).map (fun j => f (n * i + j))) =
      (List.range (n * k)).map f := by
  induction k with
  | zero => simp
  | succ k ih =>
    rw [List.range_succ, List.flatMap_append, ih, Nat.mul_succ, List.range_add]
    simp [Function.comp_def]

private theorem map_getD_range (bits : List Bool) (fits : bits.length ≤ n) :
    (List.range n).map (fun i => bits.getD i false) =
      bits ++ List.replicate (n - bits.length) false := by
  apply List.ext_getElem
  · simp; omega
  · intro i hi _
    simp only [List.getElem_map, List.getElem_range, List.getElem_append]
    split
    · next inside => exact List.getD_eq_getElem _ _ inside
    · next outside => simp [List.getElem?_eq_none (Nat.le_of_not_lt outside)]

private theorem octets_flatMap (bits : List Bool) :
    (List.range (octets bits)).flatMap (octet bits) =
      bits ++ List.replicate (8 * octets bits - bits.length) false := by
  have blocks := flatMap_range_blocks (fun i => bits.getD i false) 8 (octets bits)
  rw [map_getD_range bits (by simp only [octets]; omega)] at blocks
  exact blocks

theorem msbBits_packMsb (bits : List Bool) :
    msbBits (packMsb bits) = bits ++ List.replicate (8 * octets bits - bits.length) false := by
  rw [← octets_flatMap, msbBits, packMsb, List.flatMap_map]
  congr 1
  funext i
  have small : ofMsb (octet bits i) < 256 := by simpa using ofMsb_lt (octet bits i)
  rw [UInt8.toNat_ofNat_of_lt' small]
  simpa using msb_ofMsb (octet bits i)

theorem padding_lt (bits : List Bool) : 8 * octets bits - bits.length < 8 := by
  simp only [octets]
  omega

@[simp] theorem packMsb_length (bits : List Bool) : (packMsb bits).length = octets bits := by
  simp [packMsb]

private theorem msb_getElem? (n v i : Nat) (h : i < n) :
    (msb n v)[i]? = some (v.testBit (n - 1 - i)) := by
  induction n generalizing i with
  | zero => omega
  | succ n ih =>
    cases i with
    | zero => simp [msb]
    | succ i =>
      rw [msb, List.getElem?_cons_succ, ih i (by omega)]
      congr 2
      omega

/-- Bit `i` of a byte string, most significant bit first, is bit `7 - i % 8` of byte `i / 8`. -/
theorem msbBits_getElem? (data : List UInt8) {i : Nat} (h : i < 8 * data.length) :
    (msbBits data)[i]? = some ((data.getD (i / 8) 0).toNat.testBit (7 - i % 8)) := by
  induction data generalizing i with
  | nil => simp at h
  | cons b data ih =>
    have split : msbBits (b :: data) = msb 8 b.toNat ++ msbBits data := rfl
    rw [split]
    by_cases first : i < 8
    · rw [List.getElem?_append_left (by simpa using first), msb_getElem? _ _ _ first,
        Nat.div_eq_of_lt first, Nat.mod_eq_of_lt first]
      rfl
    obtain ⟨k, rfl⟩ : ∃ k, i = k + 8 := ⟨i - 8, by omega⟩
    rw [List.getElem?_append_right (by simp), msb_length, Nat.add_sub_cancel,
      ih (by simp only [List.length_cons] at h; omega),
      Nat.add_div_right _ (by omega), Nat.add_mod_right]
    rfl

theorem msbBits_eq_append {data front : List UInt8} {tail : List Bool}
    (same : msbBits data = msbBits front ++ tail) :
    ∃ rest, data = front ++ rest ∧ msbBits rest = tail := by
  induction front generalizing data with
  | nil => exact ⟨data, rfl, same⟩
  | cons b front ih =>
    cases data with
    | nil =>
      have lengths := congrArg List.length same
      simp only [List.length_append, msbBits_length, List.length_cons, List.length_nil] at lengths
      omega
    | cons c data =>
      have split : msb 8 c.toNat ++ msbBits data = msb 8 b.toNat ++ (msbBits front ++ tail) := by
        simpa [msbBits] using same
      obtain ⟨first, rest⟩ := List.append_inj split (by rw [msb_length, msb_length])
      obtain ⟨left, rfl, bits⟩ := ih rest
      have value : c.toNat = b.toNat := by
        have numbers := congrArg ofMsb first
        rw [ofMsb_msb, ofMsb_msb, Nat.mod_eq_of_lt c.toNat_lt, Nat.mod_eq_of_lt b.toNat_lt] at numbers
        exact numbers
      exact ⟨left, by rw [UInt8.toNat_inj.mp value]; rfl, bits⟩

end LibRdp.Coding
