import LibRdp.Channels.WebauthnCbor

/-! # The validator and RFC 8949

The validator has one number for an indefinite length, and the number is also the greatest
argument. It takes some heads that are not well-formed, and it does not take some that are. On data
that does not start with an item with heads of one sort but none of the other, it is exact.
-/

namespace LibRdp.Channels

open Coding.Cbor

/-- The validator takes these heads in place of nothing well-formed: integers of indefinite length,
    simple values below 32 in two bytes, and the greatest length as an indefinite one. -/
def Lax (head : Head) : Prop :=
  head.major ≤ 1 ∧ head.info = 31 ∨
    head.major = 7 ∧ head.info = 24 ∧ head.value < 32 ∨
    2 ≤ head.major ∧ head.major ≤ 5 ∧ head.info ≠ 31 ∧ head.value = cborIndefinite

/-- The greatest tag and the floating-point number whose bits are all set are not taken. -/
def Barred (head : Head) : Prop :=
  6 ≤ head.major ∧ head.info ≠ 31 ∧ head.value = cborIndefinite

instance (head : Head) : Decidable (Lax head) :=
  inferInstanceAs (Decidable (_ ∧ _ ∨ _ ∧ _ ∧ _ ∨ _ ∧ _ ∧ _ ∧ _))

instance (head : Head) : Decidable (Barred head) := inferInstanceAs (Decidable (_ ∧ _ ∧ _))

variable {head : Head}

theorem headValue_eq (definite : head.info ≠ 31) : headValue head = head.value :=
  if_neg definite

theorem major_cases (head : Head) : head.major = 0 ∨ head.major = 1 ∨ head.major = 2 ∨
    head.major = 3 ∨ head.major = 4 ∨ head.major = 5 ∨ head.major = 6 ∨ head.major = 7 := by
  have := head.major_lt
  omega

theorem kind_eq_readKind (strict : ¬ Lax head) (open' : ¬ Barred head) :
    head.kind = readKind head := by
  unfold Lax at strict
  unfold Barred at open'
  unfold Head.kind readKind Head.argument
  by_cases indefinite : head.info = 31
  · have endless : headValue head = cborIndefinite := if_pos indefinite
    rw [if_pos indefinite, if_pos endless, if_neg (by omega)]
    obtain major | major | major | major | major | major | major | major := major_cases head
    all_goals
      first
      | omega
      | rw [major]
        rfl
  rw [if_neg indefinite, headValue_eq indefinite, if_neg (by omega)]
  by_cases greatest : head.value = cborIndefinite
  · rw [if_pos greatest]
    obtain major | major : head.major = 0 ∨ head.major = 1 := by
      have := head.major_lt
      omega
    all_goals
      rw [major]
      rfl
  · rw [if_neg greatest]

theorem Barred.readKind (barred : Barred head) : readKind head = .malformed := by
  obtain ⟨major, definite, greatest⟩ := barred
  have range := head.major_lt
  rw [Channels.readKind, headValue_eq definite, if_pos greatest]
  obtain major | major : head.major = 6 ∨ head.major = 7 := by omega
  all_goals
    rw [major]
    rfl

theorem Lax.not_within (lax : Lax head) {length : Nat} (short : length < cborIndefinite) :
    ¬ head.kind.Within length := by
  have many : cborIndefinite = 2 ^ 64 - 1 := rfl
  unfold Head.kind Head.argument
  obtain ⟨major, indefinite⟩ | simple | ⟨major, major', definite, greatest⟩ := lax
  · rw [if_neg (by omega), if_pos indefinite]
    obtain major | major : head.major = 0 ∨ head.major = 1 := by omega
    all_goals
      rw [major]
      exact id
  · rw [if_pos simple]
    exact id
  · rw [if_neg (by omega), if_neg definite, greatest]
    obtain major | major | major | major : head.major = 2 ∨ head.major = 3 ∨ head.major = 4 ∨
      head.major = 5 := by omega
    all_goals
      rw [major]
      simp only [kindOf, Kind.Within]
      omega

/-- The kinds of both grammars: where they differ, the one under which there is an item. -/
def eitherKind (head : Head) : Kind := if Barred head then head.kind else readKind head

theorem eitherKind_breakless : Item.Breakless eitherKind := by
  intro head same
  have info : head.info = 31 := by
    rw [Head.info, same]
    rfl
  rw [eitherKind, if_neg fun barred => barred.2.1 info]
  exact readKind_breakless head same

variable {item : Item} {data : Bytes}

theorem fits_readKind_iff : item.Fits readKind ↔
    item.Fits eitherKind ∧ ∀ head ∈ item.heads, ¬ Barred head := by
  constructor
  · intro fits
    have free : ∀ head ∈ item.heads, ¬ Barred head := by
      intro head held barred
      have within := fits.within head held
      rw [barred.readKind] at within
      exact within
    exact ⟨fits.congr fun head held => (if_neg (free head held)).symm, free⟩
  · rintro ⟨fits, free⟩
    exact fits.congr fun head held => if_neg (free head held)

theorem wellFormed_iff (short : item.spell.length < cborIndefinite) : item.WellFormed ↔
    item.Fits eitherKind ∧ ∀ head ∈ item.heads, ¬ Lax head := by
  constructor
  · intro fits
    have strict : ∀ head ∈ item.heads, ¬ Lax head := fun head held lax =>
      lax.not_within short (fits.within head held)
    refine ⟨fits.congr fun head held => ?_, strict⟩
    by_cases barred : Barred head
    · exact (if_pos barred).symm
    · rw [eitherKind, if_neg barred, kind_eq_readKind (strict head held) barred]
  · rintro ⟨fits, strict⟩
    refine fits.congr fun head held => ?_
    by_cases barred : Barred head
    · exact if_pos barred
    · rw [eitherKind, if_neg barred, kind_eq_readKind (strict head held) barred]

/-- RFC 8949 has so many bytes at the start of the data as one item, at most 16 levels deep. -/
def StartsWithItem (data : Bytes) (count : Nat) : Prop :=
  count ≤ data.length ∧ ∃ item : Item, item.WellFormed ∧ item.height ≤ 16 ∧
    item.spell = data.take count

structure ValidatorExact (data : Bytes) : Prop where
  skips : ∀ count, cborSkip data 0 = .ok count ↔ StartsWithItem data count
  validates : validateCbor data = .ok () ↔ StartsWithItem data data.length

/-- If the data starts with an item of either grammar, heads of both sorts are in it or none. -/
def HeadsBalanced (data : Bytes) : Prop :=
  ∀ (item : Item) (rest : Bytes), item.Fits eitherKind → item.height ≤ 16 →
    data = item.spell ++ rest →
      ((∃ head ∈ item.heads, Lax head) ↔ ∃ head ∈ item.heads, Barred head)

theorem mem_language (item : Item) (fits : item.Fits readKind) (low : item.height ≤ 16) :
    item.spell ∈ itemLanguage 17 := ⟨item, fits, Nat.lt_succ_of_le low, rfl⟩

theorem cborSkip_eq_ok {count : Nat} : cborSkip data 0 = .ok count ↔ ∃ (item : Item) (rest : Bytes),
    item.Fits readKind ∧ item.height ≤ 16 ∧ data = item.spell ++ rest ∧
      item.spell.length = count := by
  have finds := cborSkipWithin_finds 17
  constructor
  · intro skipped
    obtain ⟨_, rest, rfl, ⟨item, fits, low, rfl⟩, found⟩ | refused := finds.ends data
    · rw [List.nil_append, List.length_nil, Nat.zero_add] at found
      refine ⟨item, rest, fits, Nat.le_of_lt_succ low, rfl, ?_⟩
      exact Except.ok.inj (found.symm.trans skipped)
    · rw [List.nil_append] at refused
      cases refused.symm.trans skipped
  · rintro ⟨item, rest, fits, low, rfl, rfl⟩
    have found := finds.takes item.spell rest (mem_language item fits low)
    rwa [List.nil_append, List.length_nil, Nat.zero_add] at found

theorem startsWithItem_iff {count : Nat} : StartsWithItem data count ↔
    ∃ (item : Item) (rest : Bytes), item.WellFormed ∧ item.height ≤ 16 ∧
      data = item.spell ++ rest ∧ item.spell.length = count := by
  constructor
  · rintro ⟨short, item, fits, low, spelled⟩
    refine ⟨item, data.drop count, fits, low, ?_, ?_⟩
    · rw [spelled, List.take_append_drop]
    · rw [spelled, List.length_take]
      omega
  · rintro ⟨item, rest, fits, low, rfl, rfl⟩
    exact ⟨by rw [List.length_append]; omega, item, fits, low, List.take_left.symm⟩

theorem cborSkip_ends (data : Bytes) (depth : Nat) :
    (∃ count ≤ data.length, cborSkip data depth = .ok count) ∨
      cborSkip data depth = refuse .protocolError := by
  obtain ⟨word, rest, rfl, -, found⟩ | refused := (cborSkipWithin_finds (17 - depth)).ends data
  · rw [List.nil_append, List.length_nil, Nat.zero_add] at found
    exact .inl ⟨word.length, by rw [List.length_append]; omega, found⟩
  · exact .inr refused

theorem validateCbor_eq_ok (short : data.length ≤ webauthnMaxMessage) :
    validateCbor data = .ok () ↔ cborSkip data 0 = .ok data.length := by
  unfold validateCbor
  by_cases empty : data = []
  · subst empty
    exact ⟨nofun, nofun⟩
  have filled : data.length ≠ 0 := fun none => empty (List.eq_nil_of_length_eq_zero none)
  rw [if_neg (by omega), bind_eq_ok]
  constructor
  · rintro ⟨consumed, skipped, same⟩
    split at same
    · rename_i whole
      exact whole ▸ skipped
    · cases same
  · exact fun skipped => ⟨data.length, skipped, if_pos rfl⟩

theorem HeadsBalanced.startsWithItem (balanced : HeadsBalanced data)
    (short : data.length ≤ webauthnMaxMessage) (count : Nat) :
    cborSkip data 0 = .ok count ↔ StartsWithItem data count := by
  have many : webauthnMaxMessage < cborIndefinite := by decide
  have small {item : Item} {rest : Bytes} (split : data = item.spell ++ rest) :
      item.spell.length < cborIndefinite := by
    rw [split, List.length_append] at short
    omega
  rw [cborSkip_eq_ok, startsWithItem_iff]
  constructor
  · rintro ⟨item, rest, fits, low, split, long⟩
    obtain ⟨either, free⟩ := fits_readKind_iff.mp fits
    have same := balanced item rest either low split
    refine ⟨item, rest, (wellFormed_iff (small split)).mpr ⟨either, fun head held lax => ?_⟩, low,
      split, long⟩
    obtain ⟨head', held', barred⟩ := same.mp ⟨head, held, lax⟩
    exact free head' held' barred
  · rintro ⟨item, rest, fits, low, split, long⟩
    obtain ⟨either, strict⟩ := (wellFormed_iff (small split)).mp fits
    have same := balanced item rest either low split
    refine ⟨item, rest, fits_readKind_iff.mpr ⟨either, fun head held barred => ?_⟩, low, split, long⟩
    obtain ⟨head', held', lax⟩ := same.mpr ⟨head, held, barred⟩
    exact strict head' held' lax

theorem headsBalanced_of_skips (short : data.length ≤ webauthnMaxMessage)
    (skips : ∀ count, cborSkip data 0 = .ok count ↔ StartsWithItem data count) :
    HeadsBalanced data := by
  have many : webauthnMaxMessage < cborIndefinite := by decide
  intro item rest either low split
  have small {item : Item} {rest : Bytes} (split : data = item.spell ++ rest) :
      item.spell.length < cborIndefinite := by
    rw [split, List.length_append] at short
    omega
  constructor
  · intro lax
    by_contra free
    have read := fits_readKind_iff.mpr ⟨either, fun head held barred => free ⟨head, held, barred⟩⟩
    obtain ⟨item', rest', fits, -, split', -⟩ := startsWithItem_iff.mp
      ((skips _).mp (cborSkip_eq_ok.mpr ⟨item, rest, read, low, split, rfl⟩))
    obtain ⟨either', strict⟩ := (wellFormed_iff (small split')).mp fits
    obtain ⟨rfl, -⟩ := either.spell_inj eitherKind_breakless either' (split.symm.trans split')
    obtain ⟨head, held, lax⟩ := lax
    exact strict head held lax
  · intro barred
    by_contra strict
    have fits := (wellFormed_iff (small split)).mpr
      ⟨either, fun head held lax => strict ⟨head, held, lax⟩⟩
    obtain ⟨item', rest', read, -, split', -⟩ := cborSkip_eq_ok.mp
      ((skips _).mpr (startsWithItem_iff.mpr ⟨item, rest, fits, low, split, rfl⟩))
    obtain ⟨either', free⟩ := fits_readKind_iff.mp read
    obtain ⟨rfl, -⟩ := either.spell_inj eitherKind_breakless either' (split.symm.trans split')
    obtain ⟨head, held, barred⟩ := barred
    exact free head held barred

/-- The validator is exact on balanced data and on no other; it ends on all data. -/
theorem validator_exact_iff (short : data.length ≤ webauthnMaxMessage) :
    (∀ depth, (∃ count ≤ data.length, cborSkip data depth = .ok count) ∨
      cborSkip data depth = refuse .protocolError) ∧
    (ValidatorExact data ↔ HeadsBalanced data) := by
  refine ⟨cborSkip_ends data, fun exact' => headsBalanced_of_skips short exact'.skips,
    fun balanced => ?_⟩
  have skips := balanced.startsWithItem short
  refine ⟨skips, ?_⟩
  rw [validateCbor_eq_ok short, skips]

def nullArray : Item := .holder ⟨0x81, [], rfl⟩ [.scalar ⟨0xf6, [], rfl⟩]

theorem nullArray_balanced : HeadsBalanced nullArray.spell := by
  have fits : nullArray.Fits eitherKind := ⟨rfl, rfl, trivial⟩
  intro item rest either _ split
  obtain ⟨rfl, -⟩ := fits.spell_inj eitherKind_breakless either
    ((List.append_nil _).trans split)
  decide

theorem validator_exact_iff_array : ValidatorExact [0x81, 0xf6] :=
  (@validator_exact_iff [0x81, 0xf6] (by decide)).2.mpr nullArray_balanced

/-- An unsigned integer of indefinite length is no item, but it is skipped. -/
theorem validator_takes_indefinite_integer :
    [0x1f].length ≤ webauthnMaxMessage ∧ ¬ ValidatorExact [0x1f] := by
  refine ⟨by decide, fun exact' => ?_⟩
  obtain ⟨item, rest, fits, -, split, -⟩ :=
    startsWithItem_iff.mp ((exact'.skips 1).mp rfl)
  rw [item.spell_eq] at split
  have initial : item.head.initial = 0x1f := (List.cons.inj split).1.symm
  have malformed : item.head.kind = .malformed := by
    have major : item.head.major = 0 := by rw [Head.major, initial]; rfl
    have info : item.head.info = 31 := by rw [Head.info, initial]; rfl
    rw [Head.kind, major, if_neg fun simple => absurd simple.1 (by decide), Head.argument,
      if_pos info]
    rfl
  have shape := fits.shape
  rw [malformed] at shape
  cases item <;> cases shape

end LibRdp.Channels
