import LibRdp.Bulk.Rdp6
import LibRdp.Coding.Prefix

/-! # The RDP6 tables are those of the canonical prefix codes

`rdp_bulk_rdp6_build_table` counts the lengths, computes the first code of each
length and hands the codes out in symbol order. For lengths with Kraft sum one
every entry of the table ends up with the symbol whose code its index starts
with, least significant bit first.
-/

namespace LibRdp.Bulk

open Machine Coding

def lengthOf (lengths : List Nat) (symbol : Nat) : Nat := lengths.getD symbol 0

/-- The bits of a symbol's canonical code, as they stand in a packet. -/
def symbolCode (lengths : List Nat) (symbol : Nat) : List Bool :=
  codeBits lengths.length (lengthOf lengths) symbol

structure IsPrefixTable (table : Memory DecodeEntry) (width : Nat) (lengths : List Nat) : Prop where
  size : table.size = 2 ^ width
  entry : ∀ e < 2 ^ width, ∃ s < lengths.length, symbolCode lengths s <+: lsb width e ∧
    table.cell e = ⟨s, lengthOf lengths s⟩

private theorem map_lengthOf (lengths : List Nat) :
    (List.range' 0 lengths.length).map (lengthOf lengths) = lengths := by
  apply List.ext_getElem
  · simp
  · intro i hi hi'
    simp [lengthOf, List.getElem?_eq_getElem hi']

section Build

variable {width n : Nat} {len : Nat → Nat}

private theorem complete_count_le (complete : Complete width n len) : n ≤ 2 ^ width := by
  rw [← complete.kraft]
  calc n = ∑ _ ∈ Finset.range n, 1 := by simp
    _ ≤ ∑ t ∈ Finset.range n, 2 ^ (width - len t) :=
        Finset.sum_le_sum (fun t _ => Nat.two_pow_pos _)

theorem countLengths_eq (m k : Nat) (small : k + m < 65536)
    (low : ∀ s < k + m, 1 ≤ len s) (high : ∀ s < k + m, len s ≤ width) :
    countLengths width ((List.range' k m).map len) (lengthCount k len) =
      some (lengthCount (k + m) len) := by
  induction m generalizing k with
  | zero => rfl
  | succ m ih =>
    have here := low k (by omega)
    have fits := high k (by omega)
    have below : lengthCount k len (len k) ≤ k := by
      rw [lengthCount]
      simpa using Finset.card_filter_le (Finset.range k) (fun t => len t = len k)
    have counted : Function.update (lengthCount k len) (len k)
        ((lengthCount k len (len k) + 1) % 65536) = lengthCount (k + 1) len := by
      funext l
      rw [lengthCount_succ, Nat.mod_eq_of_lt (by omega), Function.update_apply]
      by_cases same : len k = l
      · subst same
        simp
      · rw [if_neg same, if_neg (Ne.symm same), Nat.add_zero]
    have later := ih (k + 1) (by omega) (fun s h => low s (by omega)) (fun s h => high s (by omega))
    rw [List.range'_succ, List.map_cons, countLengths, if_neg (by omega), counted, later,
      Nat.add_right_comm, Nat.add_assoc]

theorem nextCodes_eq (complete : Complete width n len) (narrow : width < 16) (m i : Nat)
    (fits : i + m ≤ width) (next : Nat → Nat) :
    ∃ next', nextCodes (lengthCount n len) m (i + 1) (firstCode n len i) next = some next' ∧
      ∀ l, next' l = if i < l ∧ l ≤ i + m then firstCode n len l else next l := by
  induction m generalizing i next with
  | zero =>
    refine ⟨next, rfl, ?_⟩
    intro l
    rw [if_neg (by omega)]
  | succ m ih =>
    have code : (firstCode n len i + lengthCount n len (i + 1 - 1)) <<< 1 =
        firstCode n len (i + 1) := by
      rw [Nat.shiftLeft_eq, firstCode_succ, Nat.add_sub_cancel]
      omega
    have bound : firstCode n len (i + 1) ≤ 2 ^ 15 := by
      have := complete.firstCode_add_le (show i + 1 ≤ width by omega)
      have := Nat.pow_le_pow_right (show 0 < 2 by omega) (show i + 1 ≤ 15 by omega)
      omega
    obtain ⟨next', ran, stored⟩ := ih (i + 1) (by omega)
      (Function.update next (i + 1) (firstCode n len (i + 1)))
    refine ⟨next', ?_, ?_⟩
    · rw [nextCodes]
      simp only [code]
      rw [if_neg (by omega), ran]
    · intro l
      rw [stored, Function.update_apply]
      by_cases first : l = i + 1
      · subst first
        rw [if_neg (by omega), if_pos rfl, if_pos (by omega)]
      rw [if_neg first]
      congr 1
      simp only [eq_iff_iff]
      omega

theorem reverseBits_eq (value count : Nat) :
    rdp6ReverseBits value count = ofLsb (msb count value) := by
  have loop : ∀ n v acc, reverseBitsLoop n v acc = acc * 2 ^ n + ofMsb (lsb n v) := by
    intro n
    induction n with
    | zero => intro v acc; simp [reverseBitsLoop, lsb, ofMsb]
    | succ n ih =>
      intro v acc
      have shifted : acc <<< 1 ||| v &&& 1 = 2 * acc + (v.testBit 0).toNat := by
        rw [Nat.and_one_is_mod, ← Nat.shiftLeft_add_eq_or_of_lt (by omega), Nat.shiftLeft_eq,
          Nat.toNat_testBit]
        omega
      rw [reverseBitsLoop, ih, shifted, lsb, ofMsb_cons, lsb_length, Nat.shiftRight_one,
        Nat.pow_succ]
      ring
  rw [rdp6ReverseBits, loop, ofMsb_lsb]
  omega

variable {table : Memory DecodeEntry}

theorem fillEntries_eq (entry : DecodeEntry) {step size fuel index : Nat} (positive : 0 < step)
    (sized : table.size = size) (some_ : 0 < fuel) (enough : size < fuel + index)
    (free : ∀ e, index ≤ e → e < size → e % step = index % step → (table.cell e).bitCount = 0) :
    ∃ table', fillEntries entry step size fuel index table = .ok (.ok, table') ∧
      table'.size = size ∧ ∀ e, table'.cell e =
        if index ≤ e ∧ e < size ∧ e % step = index % step then entry else table.cell e := by
  induction fuel generalizing index table with
  | zero => omega
  | succ fuel ih =>
    by_cases inside : index < size
    · have unclaimed := free index (Nat.le_refl _) inside rfl
      have rest : ∀ e, index + step ≤ e → e < size → e % step = (index + step) % step →
          ((table.put index entry).cell e).bitCount = 0 := by
        intro e past below same
        rw [Memory.put_cell _ _ (by omega), Function.update_of_ne (by omega)]
        rw [Nat.add_mod_right] at same
        exact free e (by omega) below same
      obtain ⟨table', ran, sized', cells⟩ :=
        ih (show (table.put index entry).size = size from sized) (by omega) (by omega) rest
      refine ⟨table', ?_, sized', ?_⟩
      · simp [fillEntries, inside, Memory.load_of_lt (sized ▸ inside), unclaimed,
          Memory.store_of_lt (sized ▸ inside), ran]
      · intro e
        rw [cells, Memory.put_cell _ _ (by omega), Nat.add_mod_right]
        by_cases first : e = index
        · subst first
          rw [if_neg (by omega), Function.update_self, if_pos (by omega)]
        rw [Function.update_of_ne first]
        congr 1
        simp only [eq_iff_iff]
        constructor
        · rintro ⟨past, below, same⟩
          exact ⟨by omega, below, same⟩
        · rintro ⟨past, below, same⟩
          refine ⟨?_, below, same⟩
          have gap := Nat.dvd_of_mod_eq_zero (Nat.sub_mod_eq_zero_of_mod_eq same)
          have := Nat.le_of_dvd (by omega) gap
          omega
    · refine ⟨table, by simp [fillEntries, inside], sized, ?_⟩
      intro e
      rw [if_neg (by omega)]

/-- The table after the first `k` symbols: an entry belongs to the symbol whose code its index
    starts with, or is still free. -/
structure FilledUpTo (width n : Nat) (len : Nat → Nat) (k : Nat) (table : Memory DecodeEntry) :
    Prop where
  size : table.size = 2 ^ width
  claimed : ∀ e < 2 ^ width, ∀ s < k, codeBits n len s <+: lsb width e → table.cell e = ⟨s, len s⟩
  free : ∀ e < 2 ^ width, (∀ s < k, ¬ codeBits n len s <+: lsb width e) →
    (table.cell e).bitCount = 0

theorem fillSymbols_eq (complete : Complete width n len) (narrow : width < 16) (small : n ≤ 65536)
    (m k : Nat) (last : k + m = n) {next : Nat → Nat}
    (codes : ∀ l, 1 ≤ l → l ≤ width → next l = firstCode n len l + lengthCount k len l)
    (filled : FilledUpTo width n len k table) :
    ∃ table', fillSymbols (2 ^ width) ((List.range' k m).map len) k next table =
      .ok (.ok, table') ∧ FilledUpTo width n len n table' := by
  induction m generalizing k next table with
  | zero =>
    obtain rfl : k = n := by omega
    exact ⟨table, rfl, filled⟩
  | succ m ih =>
    have symbol : k < n := by omega
    have low := complete.low k symbol
    have high := complete.high k symbol
    have code : next (len k) = canonicalCode n len k := codes _ low high
    have codeLt := complete.canonicalCode_lt symbol
    obtain ⟨reversed, isReversed⟩ :
        ∃ r, r = ofLsb (msb (len k) (canonicalCode n len k)) := ⟨_, rfl⟩
    have reversedLt : reversed < 2 ^ len k := by
      rw [isReversed]
      simpa using ofLsb_lt (msb (len k) (canonicalCode n len k))
    have starts : ∀ e, codeBits n len k <+: lsb width e ↔ e % 2 ^ len k = reversed % 2 ^ len k := by
      intro e
      rw [codeBits, prefix_lsb_iff e (by simpa using high), msb_length, ← isReversed,
        Nat.mod_eq_of_lt reversedLt]
    have reached : ∀ e, e % 2 ^ len k = reversed % 2 ^ len k → reversed ≤ e := by
      intro e same
      rw [Nat.mod_eq_of_lt reversedLt] at same
      rw [← same]
      exact Nat.mod_le _ _
    have unclaimed : ∀ e, reversed ≤ e → e < 2 ^ width → e % 2 ^ len k = reversed % 2 ^ len k →
        (table.cell e).bitCount = 0 := by
      intro e _ below same
      refine filled.free e below ?_
      intro s earlier startsToo
      have := complete.codeBits_unique (by omega) symbol (lsb_length _ _) startsToo
        ((starts e).mpr same)
      omega
    obtain ⟨table₁, ran, sized, cells⟩ := fillEntries_eq ⟨k, len k⟩ (Nat.two_pow_pos (len k))
      filled.size (Nat.succ_pos (2 ^ width)) (by omega) unclaimed
    have filled₁ : FilledUpTo width n len (k + 1) table₁ := by
      refine ⟨sized, ?_, ?_⟩
      · intro e below s earlier startsWith
        rw [cells]
        by_cases newest : s = k
        · subst newest
          have same := (starts e).mp startsWith
          rw [if_pos ⟨reached e same, below, same⟩]
        rw [if_neg, filled.claimed e below s (by omega) startsWith]
        rintro ⟨-, -, same⟩
        exact newest (complete.codeBits_unique (by omega) symbol (lsb_length _ _) startsWith
          ((starts e).mpr same))
      · intro e below none_
        rw [cells, if_neg]
        · exact filled.free e below (fun s earlier => none_ s (by omega))
        · rintro ⟨-, -, same⟩
          exact none_ k (by omega) ((starts e).mpr same)
    have codes₁ : ∀ l, 1 ≤ l → l ≤ width →
        Function.update next (len k) ((next (len k) + 1) % 65536) l =
          firstCode n len l + lengthCount (k + 1) len l := by
      intro l low' high'
      have bound : canonicalCode n len k < 2 ^ 15 := codeLt.trans_le
        (Nat.pow_le_pow_right (by omega) (by omega))
      rw [lengthCount_succ, Function.update_apply, code]
      by_cases same : l = len k
      · subst same
        rw [if_pos rfl, if_pos rfl, Nat.mod_eq_of_lt (by omega), canonicalCode]
        omega
      · rw [if_neg same, if_neg (Ne.symm same), codes l low' high']
        omega
    obtain ⟨table', rest, done⟩ := ih (k + 1) (by omega) codes₁ filled₁
    refine ⟨table', ?_, done⟩
    simp only [List.range'_succ, List.map_cons, fillSymbols]
    rw [reverseBits_eq, code, ← isReversed, Nat.mod_eq_of_lt (by omega), ran]
    simp only [ok_bind, if_pos]
    rw [← code]
    exact rest

end Build

variable {width : Nat} {lengths : List Nat} {table : Memory DecodeEntry}

theorem buildTable_eq (complete : Complete width lengths.length (lengthOf lengths))
    (narrow : width < 16) (sized : table.size = 2 ^ width) :
    ∃ table', rdp6BuildTable table (2 ^ width) width lengths = .ok (.ok, table') ∧
      IsPrefixTable table' width lengths := by
  have few : lengths.length ≤ 2 ^ 15 :=
    (complete_count_le complete).trans (Nat.pow_le_pow_right (by omega) (by omega))
  have symbols := map_lengthOf lengths
  have counted := countLengths_eq lengths.length 0 (by omega) (by simpa using complete.low)
    (by simpa using complete.high)
  obtain ⟨next, coded, first⟩ := nextCodes_eq complete narrow width 0 (by omega) (fun _ => 0)
  have fresh : FilledUpTo width lengths.length (lengthOf lengths) 0
      (Memory.filled (2 ^ width) ⟨0, 0⟩) :=
    ⟨rfl, fun _ _ s h => absurd h (Nat.not_lt_zero s), fun e below _ => by
      rw [Memory.filled_cell _ below]⟩
  have codes : ∀ l, 1 ≤ l → l ≤ width → next l = firstCode lengths.length (lengthOf lengths) l +
      lengthCount 0 (lengthOf lengths) l := by
    intro l low high
    rw [first, if_pos (by omega)]
    rfl
  obtain ⟨table', filled, done⟩ :=
    fillSymbols_eq complete narrow (by omega) lengths.length 0 (by omega) codes fresh
  have entry : ∀ e < 2 ^ width, ∃ s < lengths.length, symbolCode lengths s <+: lsb width e ∧
      table'.cell e = ⟨s, lengthOf lengths s⟩ := by
    intro e below
    obtain ⟨s, symbol, starts⟩ := complete.exists_codeBits (lsb_length width e)
    exact ⟨s, symbol, starts, done.claimed e below s symbol starts⟩
  have full : ∀ e < 2 ^ width, ¬ (table'.cell e).bitCount = 0 := by
    intro e below
    obtain ⟨s, symbol, -, cell⟩ := entry e below
    have := complete.low s symbol
    simp only [cell]
    omega
  refine ⟨table', ?_, done.size, entry⟩
  have zero : firstCode lengths.length (lengthOf lengths) 0 = 0 := by simp [firstCode]
  rw [symbols, Nat.zero_add] at counted
  rw [zero, Nat.zero_add] at coded
  rw [symbols] at filled
  have counted' : countLengths width lengths (fun _ => 0) =
    some (lengthCount lengths.length (lengthOf lengths)) := counted
  simp [rdp6BuildTable, Nat.not_le.mpr narrow, Memory.fill_all _ sized, counted', coded, filled]
  exact full

theorem complete_of_list (within : ∀ l ∈ lengths, 1 ≤ l ∧ l ≤ width)
    (kraft : ∑ t ∈ Finset.range lengths.length, 2 ^ (width - lengthOf lengths t) = 2 ^ width) :
    Complete width lengths.length (lengthOf lengths) := by
  have member : ∀ s < lengths.length, lengthOf lengths s ∈ lengths := by
    intro s symbol
    rw [lengthOf, List.getD_eq_getElem?_getD, List.getElem?_eq_getElem symbol, Option.getD_some]
    exact List.getElem_mem symbol
  exact ⟨fun s symbol => (within _ (member s symbol)).1,
    fun s symbol => (within _ (member s symbol)).2, kraft⟩

theorem rdp6Lec_complete :
    Complete rdp6LecTableBits rdp6LecLengths.length (lengthOf rdp6LecLengths) :=
  complete_of_list (by decide +kernel) (by decide +kernel)

theorem rdp6Lom_complete :
    Complete rdp6LomTableBits rdp6LomLengths.length (lengthOf rdp6LomLengths) :=
  complete_of_list (by decide +kernel) (by decide +kernel)

def builtTable (width : Nat) (lengths : List Nat) : Memory DecodeEntry :=
  match rdp6BuildTable (Memory.filled (2 ^ width) ⟨0, 0⟩) (2 ^ width) width lengths with
  | .ok (_, table) => table
  | .error _ => Memory.filled (2 ^ width) ⟨0, 0⟩

theorem buildTable_builtTable (complete : Complete width lengths.length (lengthOf lengths))
    (narrow : width < 16) (sized : table.size = 2 ^ width) :
    rdp6BuildTable table (2 ^ width) width lengths = .ok (.ok, builtTable width lengths) ∧
      IsPrefixTable (builtTable width lengths) width lengths := by
  have fresh : (Memory.filled (2 ^ width) (⟨0, 0⟩ : DecodeEntry)).size = 2 ^ width := rfl
  have same : rdp6BuildTable table (2 ^ width) width lengths =
      rdp6BuildTable (Memory.filled (2 ^ width) ⟨0, 0⟩) (2 ^ width) width lengths := by
    simp only [rdp6BuildTable, Memory.fill_all _ sized, Memory.fill_all _ fresh]
    rw [if_neg (by omega), if_neg (by omega)]
  obtain ⟨table', ran, isTable⟩ := buildTable_eq complete narrow fresh
  have built : builtTable width lengths = table' := by rw [builtTable, ran]
  rw [same, built]
  exact ⟨ran, isTable⟩

@[irreducible] def rdp6LecTable : Memory DecodeEntry := builtTable rdp6LecTableBits rdp6LecLengths

@[irreducible] def rdp6LomTable : Memory DecodeEntry := builtTable rdp6LomTableBits rdp6LomLengths

theorem buildLecTable (sized : table.size = 2 ^ rdp6LecTableBits) :
    rdp6BuildTable table (2 ^ rdp6LecTableBits) rdp6LecTableBits rdp6LecLengths =
      .ok (.ok, rdp6LecTable) ∧ IsPrefixTable rdp6LecTable rdp6LecTableBits rdp6LecLengths := by
  unfold rdp6LecTable
  exact buildTable_builtTable rdp6Lec_complete (by decide) sized

theorem buildLomTable (sized : table.size = 2 ^ rdp6LomTableBits) :
    rdp6BuildTable table (2 ^ rdp6LomTableBits) rdp6LomTableBits rdp6LomLengths =
      .ok (.ok, rdp6LomTable) ∧ IsPrefixTable rdp6LomTable rdp6LomTableBits rdp6LomLengths := by
  unfold rdp6LomTable
  exact buildTable_builtTable rdp6Lom_complete (by decide) sized

theorem rdp6LecTable_isPrefixTable :
    IsPrefixTable rdp6LecTable rdp6LecTableBits rdp6LecLengths :=
  (buildLecTable (Memory.filled_size (2 ^ rdp6LecTableBits) ⟨0, 0⟩)).2

theorem rdp6LomTable_isPrefixTable :
    IsPrefixTable rdp6LomTable rdp6LomTableBits rdp6LomLengths :=
  (buildLomTable (Memory.filled_size (2 ^ rdp6LomTableBits) ⟨0, 0⟩)).2

end LibRdp.Bulk
