import LibRdp.Coding.Bits
import Mathlib.Algebra.BigOperators.Ring.Finset
import Mathlib.Data.Prod.Lex
import Mathlib.Algebra.Order.BigOperators.Group.Finset
import Mathlib.Algebra.Field.Rat
import Mathlib.Data.Rat.Cast.Defs
import Mathlib.Tactic.NormNum

/-! # Canonical prefix codes

A canonical code is given by the code lengths alone: shorter codes come first,
and codes of one length count up in symbol order. Seen as numbers of a fixed
width, the words that start with the code of a symbol form an interval, and in
code order these intervals stand next to one another without a gap. When the
Kraft sum is exactly one they cover every word, so every word of that width
starts with the code of exactly one symbol.
-/

namespace LibRdp.Coding

open Finset

/-- The first code of length `l` among `n` symbols. -/
def firstCode (n : Nat) (len : Nat → Nat) (l : Nat) : Nat :=
  ∑ t ∈ range n with len t < l, 2 ^ (l - len t)

/-- How many of the first `n` symbols have length `l`. -/
def lengthCount (n : Nat) (len : Nat → Nat) (l : Nat) : Nat := #{t ∈ range n | len t = l}

/-- The code of symbol `s` among `n` symbols. -/
def canonicalCode (n : Nat) (len : Nat → Nat) (s : Nat) : Nat :=
  firstCode n len (len s) + lengthCount s len (len s)

/-- The code as the bits a reader sees, first bit first. -/
def codeBits (n : Nat) (len : Nat → Nat) (s : Nat) : List Bool :=
  msb (len s) (canonicalCode n len s)

/-- The Kraft sum at width `width` is exactly one, and no code is wider. -/
structure Complete (width n : Nat) (len : Nat → Nat) : Prop where
  low : ∀ s < n, 1 ≤ len s
  high : ∀ s < n, len s ≤ width
  kraft : ∑ t ∈ range n, 2 ^ (width - len t) = 2 ^ width

/-- The sum of `2 ^ (-length)` over the codes. -/
def kraftSum (lengths : List Nat) : ℚ := (lengths.map fun l => 1 / 2 ^ l).sum

theorem kraftSum_eq_one_iff {width : Nat} {lengths : List Nat} (high : ∀ l ∈ lengths, l ≤ width) :
    kraftSum lengths = 1 ↔ (lengths.map fun l => 2 ^ (width - l)).sum = 2 ^ width := by
  have scaled : kraftSum lengths * 2 ^ width =
      ((lengths.map fun l => 2 ^ (width - l)).sum : Nat) := by
    induction lengths with
    | nil => simp [kraftSum]
    | cons l lengths ih =>
      have fits := high l List.mem_cons_self
      have later := ih fun l' member => high l' (List.mem_cons_of_mem l member)
      rw [kraftSum] at later ⊢
      rw [List.map_cons, List.sum_cons, List.map_cons, List.sum_cons, add_mul, later, Nat.cast_add,
        Nat.cast_pow, Nat.cast_ofNat, pow_sub₀ _ two_ne_zero fits, one_div, mul_comm]
  have positive : (2 : ℚ) ^ width ≠ 0 := pow_ne_zero _ two_ne_zero
  rw [← mul_left_inj' positive, scaled, one_mul]
  norm_cast

@[simp] theorem lengthCount_zero (len : Nat → Nat) (l : Nat) : lengthCount 0 len l = 0 := rfl

theorem lengthCount_succ (n : Nat) (len : Nat → Nat) (l : Nat) :
    lengthCount (n + 1) len l = lengthCount n len l + if len n = l then 1 else 0 := by
  simp only [lengthCount, range_add_one, filter_insert]
  split
  · rw [card_insert_of_notMem (by simp)]
  · rfl

/-- Symbols shorter than `l + 1` are those shorter than `l` and those of length `l`. -/
private theorem sum_shorter_succ (n : Nat) (len : Nat → Nat) (l : Nat) (f : Nat → Nat) :
    ∑ t ∈ range n with len t < l + 1, f t =
      ∑ t ∈ range n with len t < l, f t + ∑ t ∈ range n with len t = l, f t := by
  rw [← sum_union]
  · congr 1
    ext t
    simp only [mem_filter, mem_union, mem_range]
    omega
  · rw [disjoint_left]
    intro t shorter same
    simp only [mem_filter, mem_range] at shorter same
    omega

theorem firstCode_succ (n : Nat) (len : Nat → Nat) (l : Nat) :
    firstCode n len (l + 1) = 2 * (firstCode n len l + lengthCount n len l) := by
  have same : ∑ t ∈ range n with len t = l, 2 ^ (l + 1 - len t) = 2 * lengthCount n len l := by
    rw [lengthCount, card_eq_sum_ones, mul_sum]
    apply sum_congr rfl
    intro t member
    rw [(mem_filter.mp member).2, Nat.add_sub_cancel_left]
    rfl
  have shorter : ∑ t ∈ range n with len t < l, 2 ^ (l + 1 - len t) = 2 * firstCode n len l := by
    rw [firstCode, mul_sum]
    apply sum_congr rfl
    intro t member
    have less := (mem_filter.mp member).2
    rw [show l + 1 - len t = (l - len t) + 1 by omega, Nat.pow_succ, Nat.mul_comm]
  rw [firstCode, sum_shorter_succ, same, shorter]
  omega

/-- `t` comes before `s` in code order. -/
def Before (len : Nat → Nat) (t s : Nat) : Prop :=
  len t < len s ∨ (len t = len s ∧ t < s)

instance (len : Nat → Nat) (t s : Nat) : Decidable (Before len t s) :=
  inferInstanceAs (Decidable (_ ∨ _))

section Order

variable {len : Nat → Nat} {s t u : Nat}

theorem Before.irrefl (len : Nat → Nat) (s : Nat) : ¬ Before len s s := by
  simp only [Before]
  omega

theorem Before.trans (first : Before len s t) (second : Before len t u) : Before len s u := by
  simp only [Before] at *
  omega

theorem before_or_before (len : Nat → Nat) {s t : Nat} (different : s ≠ t) : Before len s t ∨ Before len t s := by
  simp only [Before]
  omega

end Order

/-- The words of the given width that belong to symbols before `s`. -/
def rank (width n : Nat) (len : Nat → Nat) (s : Nat) : Nat :=
  ∑ t ∈ range n with Before len t s, 2 ^ (width - len t)

section Tiling

variable {width n : Nat} {len : Nat → Nat}

theorem canonicalCode_mul {s : Nat} (symbol : s < n) (fits : len s ≤ width) :
    canonicalCode n len s * 2 ^ (width - len s) = rank width n len s := by
  have split : rank width n len s = ∑ t ∈ range n with len t < len s, 2 ^ (width - len t) +
      ∑ t ∈ range s with len t = len s, 2 ^ (width - len t) := by
    rw [rank, ← sum_union]
    · congr 1
      ext t
      simp only [mem_filter, mem_union, mem_range]
      constructor
      · rintro ⟨inside, less | ⟨same, earlier⟩⟩
        · exact .inl ⟨inside, less⟩
        · exact .inr ⟨earlier, same⟩
      · rintro (⟨inside, less⟩ | ⟨earlier, same⟩)
        · exact ⟨inside, .inl less⟩
        · exact ⟨by omega, .inr ⟨same, earlier⟩⟩
    · rw [disjoint_left]
      intro t shorter same
      simp only [mem_filter, mem_range] at shorter same
      omega
  have shorter : firstCode n len (len s) * 2 ^ (width - len s) =
      ∑ t ∈ range n with len t < len s, 2 ^ (width - len t) := by
    rw [firstCode, sum_mul]
    apply sum_congr rfl
    intro t member
    have less := (mem_filter.mp member).2
    rw [← Nat.pow_add]
    congr 1
    omega
  have same : lengthCount s len (len s) * 2 ^ (width - len s) =
      ∑ t ∈ range s with len t = len s, 2 ^ (width - len t) := by
    rw [lengthCount, card_eq_sum_ones, sum_mul]
    apply sum_congr rfl
    intro t member
    rw [(mem_filter.mp member).2, Nat.one_mul]
  rw [canonicalCode, Nat.add_mul, shorter, same, split]

theorem rank_add_le (width : Nat) {s t : Nat} (symbol : t < n) (earlier : Before len t s) :
    rank width n len t + 2 ^ (width - len t) ≤ rank width n len s := by
  have fresh : t ∉ (range n).filter (Before len · t) := by
    simp [Before.irrefl]
  rw [rank, Nat.add_comm, ← sum_insert (f := fun t => 2 ^ (width - len t)) fresh]
  apply sum_le_sum_of_subset
  intro u member
  simp only [mem_insert, mem_filter, mem_range] at member ⊢
  rcases member with rfl | ⟨inside, before⟩
  · exact ⟨symbol, earlier⟩
  · exact ⟨inside, before.trans earlier⟩

theorem rank_add_le_total (width : Nat) (len : Nat → Nat) {s : Nat} (symbol : s < n) :
    rank width n len s + 2 ^ (width - len s) ≤ ∑ t ∈ range n, 2 ^ (width - len t) := by
  have fresh : s ∉ (range n).filter (Before len · s) := by
    simp [Before.irrefl]
  rw [rank, Nat.add_comm, ← sum_insert (f := fun t => 2 ^ (width - len t)) fresh]
  apply sum_le_sum_of_subset
  intro u member
  simp only [mem_insert, mem_filter, mem_range] at member ⊢
  rcases member with rfl | ⟨inside, -⟩
  · exact symbol
  · exact inside

private theorem exists_last (len : Nat → Nat) {symbols : Finset Nat} (some_ : symbols.Nonempty) :
    ∃ s ∈ symbols, ∀ t ∈ symbols, t ≠ s → Before len t s := by
  obtain ⟨s, member, last⟩ := exists_max_image symbols (fun t => toLex (len t, t)) some_
  refine ⟨s, member, ?_⟩
  intro t member' different
  have order := last t member'
  rw [Prod.Lex.toLex_le_toLex] at order
  simp only [Before]
  omega

private theorem exists_rank_of_stretch (word : Nat) (symbols : Finset Nat) :
    (∀ s ∈ symbols, s < n) → (∀ s ∈ symbols, ∀ t < n, Before len t s → t ∈ symbols) →
    word < ∑ t ∈ symbols, 2 ^ (width - len t) →
    ∃ s < n, rank width n len s ≤ word ∧ word < rank width n len s + 2 ^ (width - len s) := by
  induction symbols using Finset.strongInduction with
  | H symbols ih =>
    intro inside closed below
    have some_ : symbols.Nonempty := by
      rw [nonempty_iff_ne_empty]
      rintro rfl
      simp at below
    obtain ⟨s, member, last⟩ := exists_last len some_
    -- Without its last symbol, the stretch is exactly what comes before that symbol.
    have others : symbols.erase s = (range n).filter (Before len · s) := by
      ext t
      simp only [mem_erase, mem_filter, mem_range]
      constructor
      · rintro ⟨different, member'⟩
        exact ⟨inside t member', last t member' different⟩
      · rintro ⟨symbol, before⟩
        refine ⟨?_, closed s member t symbol before⟩
        rintro rfl
        exact Before.irrefl _ _ before
    have total : ∑ t ∈ symbols, 2 ^ (width - len t) =
        rank width n len s + 2 ^ (width - len s) := by
      rw [← sum_erase_add _ _ member, others, rank]
    by_cases reached : rank width n len s ≤ word
    · exact ⟨s, inside s member, reached, by omega⟩
    refine ih (symbols.erase s) (erase_ssubset member) ?_ ?_ ?_
    · intro t member'
      exact inside t (mem_of_mem_erase member')
    · intro t member' u symbol before
      rw [others, mem_filter, mem_range] at member' ⊢
      exact ⟨symbol, before.trans member'.2⟩
    · rw [others]
      rw [rank] at reached
      omega

theorem exists_rank {word : Nat} (below : word < ∑ t ∈ range n, 2 ^ (width - len t)) :
    ∃ s < n, rank width n len s ≤ word ∧ word < rank width n len s + 2 ^ (width - len s) :=
  exists_rank_of_stretch word (range n) (fun _ => mem_range.mp)
    (fun _ _ _ symbol _ => mem_range.mpr symbol) below

end Tiling

/-- A word starts with an `l`-bit code when its leading bits spell it. -/
theorem msb_prefix_iff {word : List Bool} {l code : Nat} (fits : l ≤ word.length)
    (small : code < 2 ^ l) :
    msb l code <+: word ↔ code * 2 ^ (word.length - l) ≤ ofMsb word ∧
      ofMsb word < (code + 1) * 2 ^ (word.length - l) := by
  have parts : word = word.take l ++ word.drop l := (List.take_append_drop l word).symm
  have value : ofMsb word = ofMsb (word.take l) * 2 ^ (word.length - l) + ofMsb (word.drop l) := by
    conv => lhs; rw [parts]
    rw [ofMsb_append, List.length_drop]
  have low : ofMsb (word.drop l) < 2 ^ (word.length - l) := by
    simpa using ofMsb_lt (word.drop l)
  have front : (word.take l).length = l := by simpa using fits
  constructor
  · intro starts
    have lead : word.take l = msb l code := by
      have := List.prefix_iff_eq_take.mp starts
      rw [msb_length] at this
      exact this.symm
    rw [value, lead, ofMsb_msb, Nat.mod_eq_of_lt small, Nat.add_mul]
    omega
  · rintro ⟨reached, below⟩
    have same : ofMsb (word.take l) = code := by
      have positive := Nat.two_pow_pos (word.length - l)
      apply Nat.le_antisymm
      · by_contra more
        have := Nat.mul_le_mul_right (2 ^ (word.length - l)) (Nat.not_le.mp more)
        simp only [Nat.succ_eq_add_one] at this
        omega
      · by_contra less
        have := Nat.mul_le_mul_right (2 ^ (word.length - l)) (Nat.not_le.mp less)
        simp only [Nat.succ_eq_add_one, Nat.add_mul] at this
        omega
    have spelled := msb_ofMsb (word.take l)
    rw [front, same] at spelled
    rw [spelled]
    exact List.take_prefix l word

namespace Complete

variable {width n : Nat} {len : Nat → Nat}

variable {s : Nat} {word : List Bool}

variable (complete : Complete width n len)
include complete

theorem canonicalCode_lt (symbol : s < n) : canonicalCode n len s < 2 ^ len s := by
  have fits := complete.high s symbol
  have within := rank_add_le_total width len symbol
  have scale : 2 ^ len s * 2 ^ (width - len s) = 2 ^ width := by
    rw [← Nat.pow_add]
    congr 1
    omega
  rw [complete.kraft, ← canonicalCode_mul symbol fits, ← scale] at within
  have positive := Nat.two_pow_pos (width - len s)
  by_contra more
  have := Nat.mul_le_mul_right (2 ^ (width - len s)) (Nat.not_lt.mp more)
  omega

theorem codeBits_prefix_iff (symbol : s < n) (wide : word.length = width) :
    codeBits n len s <+: word ↔ rank width n len s ≤ ofMsb word ∧
      ofMsb word < rank width n len s + 2 ^ (width - len s) := by
  have fits := complete.high s symbol
  rw [codeBits, msb_prefix_iff (by omega) (complete.canonicalCode_lt symbol), wide,
    ← canonicalCode_mul symbol fits, Nat.add_mul, Nat.one_mul]

theorem codeBits_unique {t : Nat} (symbol : s < n) (symbol' : t < n) (wide : word.length = width)
    (starts : codeBits n len s <+: word) (starts' : codeBits n len t <+: word) : s = t := by
  rw [complete.codeBits_prefix_iff symbol wide] at starts
  rw [complete.codeBits_prefix_iff symbol' wide] at starts'
  by_contra different
  rcases before_or_before len different with earlier | earlier
  · have := rank_add_le width symbol earlier
    omega
  · have := rank_add_le width symbol' earlier
    omega

theorem codeBits_append {t : Nat} (symbol : s < n) (symbol' : t < n) {a b : List Bool}
    (same : codeBits n len s ++ a = codeBits n len t ++ b) : s = t ∧ a = b := by
  -- Zeros complete the string to the width at which the codes are compared.
  have fits : ∀ u < n, ∀ c : List Bool,
      codeBits n len u <+: (codeBits n len u ++ c ++ List.replicate width false).take width := by
    intro u symbol c
    rw [List.append_assoc, List.prefix_take_iff]
    exact ⟨List.prefix_append _ _, by simpa [codeBits] using complete.high u symbol⟩
  have wide : ((codeBits n len s ++ a ++ List.replicate width false).take width).length = width := by
    simp only [List.length_take, List.length_append, List.length_replicate]
    omega
  have starts := fits s symbol a
  have starts' := fits t symbol' b
  rw [← same] at starts'
  obtain rfl := complete.codeBits_unique symbol symbol' wide starts starts'
  exact ⟨rfl, List.append_cancel_left same⟩

theorem exists_codeBits (wide : word.length = width) : ∃ s < n, codeBits n len s <+: word := by
  have below : ofMsb word < ∑ t ∈ range n, 2 ^ (width - len t) := by
    rw [complete.kraft, ← wide]
    exact ofMsb_lt word
  obtain ⟨s, symbol, reached, within⟩ := exists_rank below
  exact ⟨s, symbol, (complete.codeBits_prefix_iff symbol wide).mpr ⟨reached, within⟩⟩

theorem firstCode_add_le {l : Nat} (fits : l ≤ width) :
    firstCode n len l + lengthCount n len l ≤ 2 ^ l := by
  have doubled : firstCode n len (l + 1) = 2 * (firstCode n len l + lengthCount n len l) :=
    firstCode_succ n len l
  have scaled : firstCode n len (l + 1) * 2 ^ (width - l) ≤ 2 * 2 ^ width := by
    rw [← complete.kraft, firstCode, sum_mul, mul_sum]
    refine (sum_le_sum ?_).trans (sum_le_sum_of_subset (filter_subset _ _))
    intro t member
    have less := (mem_filter.mp member).2
    rw [← Nat.pow_add, Nat.mul_comm 2, ← Nat.pow_succ]
    apply Nat.pow_le_pow_right (by omega)
    omega
  have scale : 2 ^ l * 2 ^ (width - l) = 2 ^ width := by
    rw [← Nat.pow_add]
    congr 1
    omega
  rw [doubled, Nat.mul_assoc, ← scale] at scaled
  exact Nat.le_of_mul_le_mul_right (Nat.le_of_mul_le_mul_left scaled (by omega))
    (Nat.two_pow_pos _)

end Complete

end LibRdp.Coding
