import LibRdp.Coding.Frame

/-! # Data items of RFC 8949

An item starts with a head: an initial byte with a major type and five more bits, and as many
bytes of an argument as these say. What kind of item a head opens is a parameter of the grammar.
Whatever it is, items do not run into each other: of two items in front of the same bytes neither
is a part of the other.
-/

namespace LibRdp.Coding.Cbor

/-- How many bytes follow the initial byte; 28, 29 and 30 are not in use. -/
def followingLength (info : Nat) : Option Nat :=
  if info < 24 then some 0
  else if info = 24 then some 1
  else if info = 25 then some 2
  else if info = 26 then some 4
  else if info = 27 then some 8
  else if info = 31 then some 0
  else none

theorem followingLength_le {info count : Nat} (follows : followingLength info = some count) :
    count ≤ 8 := by
  unfold followingLength at follows
  repeat' split at follows
  all_goals cases follows
  all_goals decide

structure Head where
  initial : UInt8
  following : List UInt8
  whole : followingLength (initial.toNat % 32) = some following.length
  deriving DecidableEq

namespace Head

def major (head : Head) : Nat := head.initial.toNat / 32

/-- The additional information of the initial byte. -/
def info (head : Head) : Nat := head.initial.toNat % 32

def value (head : Head) : Nat :=
  if head.info < 24 then head.info else fromBigEndian 256 (head.following.map UInt8.toNat)

/-- There is no argument if the length is indefinite. -/
def argument (head : Head) : Option Nat := if head.info = 31 then none else some head.value

def bytes (head : Head) : List UInt8 := head.initial :: head.following

theorem bytes_length (head : Head) : head.bytes.length = head.following.length + 1 := rfl

theorem major_lt (head : Head) : head.major < 8 := by
  have := head.initial.toNat_lt
  unfold major
  omega

theorem value_lt (head : Head) : head.value < 2 ^ 64 := by
  unfold value info
  split
  · omega
  have short := followingLength_le head.whole
  have digits : ∀ digit ∈ head.following.map UInt8.toNat, digit < 256 := by
    intro digit held
    obtain ⟨byte, -, rfl⟩ := List.mem_map.mp held
    exact byte.toNat_lt
  have bound := fromBigEndian_lt (by decide) digits
  rw [List.length_map] at bound
  exact Nat.lt_of_lt_of_le bound (Nat.pow_le_pow_right (by decide) short)

theorem bytes_inj {head head' : Head} {rest rest' : List UInt8}
    (same : head.bytes ++ rest = head'.bytes ++ rest') : head = head' ∧ rest = rest' := by
  obtain ⟨initial, following, whole⟩ := head
  obtain ⟨initial', following', whole'⟩ := head'
  obtain ⟨rfl, same⟩ := List.cons.inj same
  have long : following.length = following'.length := Option.some.inj (whole.symm.trans whole')
  obtain ⟨rfl, rfl⟩ := List.append_inj same long
  exact ⟨rfl, rfl⟩

end Head

inductive Item where
  | scalar (head : Head)
  | string (head : Head) (content : List UInt8)
  /-- A string of indefinite length, in chunks. -/
  | chunked (head : Head) (chunks : List (Head × List UInt8))
  /-- An array, a map or a tagged item; a map has its keys and its values in turn. -/
  | holder (head : Head) (items : List Item)
  | openHolder (head : Head) (items : List Item)

/-- What ends an indefinite length. -/
def breakByte : UInt8 := 0xff

def spellChunks : List (Head × List UInt8) → List UInt8
  | [] => []
  | chunk :: chunks => chunk.1.bytes ++ (chunk.2 ++ spellChunks chunks)

/-- What a head opens. -/
inductive Kind where
  | scalar
  | string (length : Nat)
  | chunked
  | holder (count : Nat)
  /-- Items up to a break, so many at a time. -/
  | openHolder (group : Nat)
  | malformed
  deriving Repr, DecidableEq

/-- The kinds of the major types, by their arguments. -/
def kindOf (major : Nat) (argument : Option Nat) : Kind :=
  match major, argument with
  | 0, some _ | 1, some _ | 7, some _ => .scalar
  | 2, some length | 3, some length => .string length
  | 2, none | 3, none => .chunked
  | 4, some count => .holder count
  | 5, some count => .holder (2 * count)
  | 6, some _ => .holder 1
  | 4, none => .openHolder 1
  | 5, none => .openHolder 2
  | _, _ => .malformed

/-- The kinds of RFC 8949; simple values below 32 are not spelled in two bytes. -/
def Head.kind (head : Head) : Kind :=
  if head.major = 7 ∧ head.info = 24 ∧ head.value < 32 then .malformed
  else kindOf head.major head.argument

namespace Item

mutual
def spell : Item → List UInt8
  | .scalar head => head.bytes
  | .string head content => head.bytes ++ content
  | .chunked head chunks => head.bytes ++ (spellChunks chunks ++ [breakByte])
  | .holder head items => head.bytes ++ spellAll items
  | .openHolder head items => head.bytes ++ (spellAll items ++ [breakByte])

def spellAll : List Item → List UInt8
  | [] => []
  | item :: items => spell item ++ spellAll items
end

mutual
/-- How many levels of items there are below an item. -/
def height : Item → Nat
  | .holder _ items | .openHolder _ items => heightAll items
  | _ => 0

def heightAll : List Item → Nat
  | [] => 0
  | item :: items => max (height item + 1) (heightAll items)
end

mutual
/-- The heads in an item, its own and those of its chunks among them. -/
def heads : Item → List Head
  | .scalar head => [head]
  | .string head _ => [head]
  | .chunked head chunks => head :: chunks.map Prod.fst
  | .holder head items => head :: headsAll items
  | .openHolder head items => head :: headsAll items

def headsAll : List Item → List Head
  | [] => []
  | item :: items => heads item ++ headsAll items
end

section Fits

variable (kind : Head → Kind)

mutual
/-- Every head opens what follows it. -/
def Fits : Item → Prop
  | .scalar head => kind head = .scalar
  | .string head content => kind head = .string content.length
  | .chunked head chunks => kind head = .chunked ∧
      ∀ chunk ∈ chunks, chunk.1.major = head.major ∧ kind chunk.1 = .string chunk.2.length
  | .holder head items => kind head = .holder items.length ∧ FitsAll items
  | .openHolder head items =>
      (∃ group, kind head = .openHolder group ∧ group ∣ items.length) ∧ FitsAll items

def FitsAll : List Item → Prop
  | [] => True
  | item :: items => Fits item ∧ FitsAll items
end

end Fits

/-- The well-formed items of RFC 8949. -/
def WellFormed (item : Item) : Prop := item.Fits Head.kind

end Item

variable {kind kind' : Head → Kind}

namespace Item

mutual
theorem Fits.congr {item : Item} (fits : item.Fits kind)
    (same : ∀ head ∈ item.heads, kind head = kind' head) : item.Fits kind' := by
  cases item with
  | scalar head => exact (same head List.mem_cons_self).symm.trans fits
  | string head content => exact (same head List.mem_cons_self).symm.trans fits
  | chunked head chunks =>
    refine ⟨(same head List.mem_cons_self).symm.trans fits.1, fun chunk held => ?_⟩
    have held' := List.mem_cons_of_mem head (List.mem_map_of_mem (f := Prod.fst) held)
    obtain ⟨major, string⟩ := fits.2 chunk held
    exact ⟨major, (same chunk.1 held').symm.trans string⟩
  | holder head items =>
    exact ⟨(same head List.mem_cons_self).symm.trans fits.1,
      fitsAll_congr fits.2 fun head held => same head (List.mem_cons_of_mem _ held)⟩
  | openHolder head items =>
    obtain ⟨⟨group, opens, divides⟩, held⟩ := fits
    exact ⟨⟨group, (same head List.mem_cons_self).symm.trans opens, divides⟩,
      fitsAll_congr held fun head held => same head (List.mem_cons_of_mem _ held)⟩
termination_by sizeOf item

theorem fitsAll_congr {items : List Item} (fits : FitsAll kind items)
    (same : ∀ head ∈ headsAll items, kind head = kind' head) : FitsAll kind' items := by
  cases items with
  | nil => trivial
  | cons item items =>
    exact ⟨Fits.congr fits.1 fun head held => same head (List.mem_append_left _ held),
      fitsAll_congr fits.2 fun head held => same head (List.mem_append_right _ held)⟩
termination_by sizeOf items
end

def head : Item → Head
  | .scalar head | .string head _ | .chunked head _ | .holder head _ | .openHolder head _ => head

def body : Item → List UInt8
  | .scalar _ => []
  | .string _ content => content
  | .chunked _ chunks => spellChunks chunks ++ [breakByte]
  | .holder _ items => spellAll items
  | .openHolder _ items => spellAll items ++ [breakByte]

theorem spell_eq (item : Item) : item.spell = item.head.bytes ++ item.body := by
  cases item with
  | scalar head => rw [spell, Item.head, body, List.append_nil]
  | string | chunked | holder | openHolder => rw [spell, Item.head, body]

end Item

/-- The kinds without their numbers. -/
inductive Shape where
  | scalar
  | string
  | chunked
  | holder
  | openHolder
  | malformed

def Kind.shape : Kind → Shape
  | .scalar => .scalar
  | .string _ => .string
  | .chunked => .chunked
  | .holder _ => .holder
  | .openHolder _ => .openHolder
  | .malformed => .malformed

def Item.shape : Item → Shape
  | .scalar _ => .scalar
  | .string _ _ => .string
  | .chunked _ _ => .chunked
  | .holder _ _ => .holder
  | .openHolder _ _ => .openHolder

namespace Item

theorem Fits.shape {item : Item} (fits : item.Fits kind) :
    (kind item.head).shape = item.shape := by
  cases item with
  | scalar head | string head content =>
    exact congrArg Kind.shape fits
  | chunked head chunks => exact congrArg Kind.shape fits.1
  | holder head items => exact congrArg Kind.shape fits.1
  | openHolder head items =>
    obtain ⟨⟨group, opens, -⟩, -⟩ := fits
    exact congrArg Kind.shape opens

/-- A kind has no items that look like a break. -/
def Breakless (kind : Head → Kind) : Prop :=
  ∀ head : Head, head.initial = breakByte → kind head = .malformed

theorem Fits.spell_cons {item : Item} (fits : item.Fits kind) (breakless : Breakless kind) :
    ∃ byte rest, item.spell = byte :: rest ∧ byte ≠ breakByte := by
  refine ⟨item.head.initial, item.head.following ++ item.body, item.spell_eq, fun same => ?_⟩
  have shape := fits.shape
  rw [breakless item.head same] at shape
  cases item <;> cases shape

theorem chunks_inj {chunks chunks' : List (Head × List UInt8)} {rest rest' : List UInt8}
    (breakless : Breakless kind)
    (fits : ∀ chunk ∈ chunks, kind chunk.1 = .string chunk.2.length)
    (fits' : ∀ chunk ∈ chunks', kind chunk.1 = .string chunk.2.length)
    (same : spellChunks chunks ++ breakByte :: rest = spellChunks chunks' ++ breakByte :: rest') :
    chunks = chunks' ∧ rest = rest' := by
  have ends {chunk : Head × List UInt8} {chunks : List (Head × List UInt8)}
      {rest rest' : List UInt8} (string : kind chunk.1 = .string chunk.2.length)
      (same : breakByte :: rest = spellChunks (chunk :: chunks) ++ breakByte :: rest') : False := by
    have malformed := breakless chunk.1 (List.cons.inj same).1.symm
    rw [string] at malformed
    cases malformed
  induction chunks generalizing chunks' with
  | nil =>
    cases chunks' with
    | nil => exact ⟨rfl, (List.cons.inj same).2⟩
    | cons chunk' chunks' => exact (ends (fits' chunk' List.mem_cons_self) same).elim
  | cons chunk chunks ih =>
    cases chunks' with
    | nil => exact (ends (fits chunk List.mem_cons_self) same.symm).elim
    | cons chunk' chunks' =>
      obtain ⟨head, content⟩ := chunk
      obtain ⟨head', content'⟩ := chunk'
      simp only [spellChunks, List.append_assoc] at same
      obtain ⟨rfl, contents⟩ := Head.bytes_inj same
      have long : Kind.string content.length = Kind.string content'.length :=
        (fits _ List.mem_cons_self).symm.trans (fits' _ List.mem_cons_self)
      obtain ⟨rfl, others⟩ := List.append_inj contents (Kind.string.inj long)
      obtain ⟨rfl, rest⟩ := ih (fun chunk held => fits chunk (.tail _ held))
        (fun chunk held => fits' chunk (.tail _ held)) others
      exact ⟨rfl, rest⟩

mutual
theorem Fits.spell_inj {item item' : Item} {rest rest' : List UInt8} (breakless : Breakless kind)
    (fits : item.Fits kind) (fits' : item'.Fits kind)
    (same : item.spell ++ rest = item'.spell ++ rest') : item = item' ∧ rest = rest' := by
  have shapes := fits.shape
  have shapes' := fits'.shape
  rw [spell_eq, spell_eq, List.append_assoc, List.append_assoc] at same
  obtain ⟨heads, bodies⟩ := Head.bytes_inj same
  rw [heads, shapes'] at shapes
  cases item with
  | scalar head =>
    cases item' with
    | scalar head' => exact ⟨congrArg scalar heads, bodies⟩
    | _ => cases shapes
  | string head content =>
    cases item' with
    | string head' content' =>
      cases heads
      obtain ⟨rfl, rest⟩ := List.append_inj bodies (Kind.string.inj (fits.symm.trans fits'))
      exact ⟨rfl, rest⟩
    | _ => cases shapes
  | chunked head chunks =>
    cases item' with
    | chunked head' chunks' =>
      cases heads
      simp only [body, List.append_assoc, List.cons_append, List.nil_append] at bodies
      obtain ⟨rfl, rest⟩ := chunks_inj breakless (fun chunk held => (fits.2 chunk held).2)
        (fun chunk held => (fits'.2 chunk held).2) bodies
      exact ⟨rfl, rest⟩
    | _ => cases shapes
  | holder head items =>
    cases item' with
    | holder head' items' =>
      cases heads
      obtain ⟨rfl, rest⟩ := spellAll_inj breakless fits.2 fits'.2
        (Kind.holder.inj (fits.1.symm.trans fits'.1)) bodies
      exact ⟨rfl, rest⟩
    | _ => cases shapes
  | openHolder head items =>
    cases item' with
    | openHolder head' items' =>
      cases heads
      simp only [body, List.append_assoc, List.cons_append, List.nil_append] at bodies
      obtain ⟨rfl, rest⟩ := spellAll_break_inj breakless fits.2 fits'.2 bodies
      exact ⟨rfl, rest⟩
    | _ => cases shapes
termination_by sizeOf item

theorem spellAll_inj {items items' : List Item} {rest rest' : List UInt8}
    (breakless : Breakless kind) (fits : FitsAll kind items) (fits' : FitsAll kind items')
    (many : items.length = items'.length)
    (same : spellAll items ++ rest = spellAll items' ++ rest') : items = items' ∧ rest = rest' := by
  cases items with
  | nil =>
    cases items' with
    | nil => exact ⟨rfl, same⟩
    | cons => cases many
  | cons item items =>
    cases items' with
    | nil => cases many
    | cons item' items' =>
      rw [spellAll, spellAll, List.append_assoc, List.append_assoc] at same
      obtain ⟨rfl, others⟩ := Fits.spell_inj breakless fits.1 fits'.1 same
      obtain ⟨rfl, rest⟩ :=
        spellAll_inj breakless fits.2 fits'.2 (Nat.succ.inj many) others
      exact ⟨rfl, rest⟩
termination_by sizeOf items

theorem spellAll_break_inj {items items' : List Item} {rest rest' : List UInt8}
    (breakless : Breakless kind) (fits : FitsAll kind items) (fits' : FitsAll kind items')
    (same : spellAll items ++ breakByte :: rest = spellAll items' ++ breakByte :: rest') :
    items = items' ∧ rest = rest' := by
  cases items with
  | nil =>
    cases items' with
    | nil => exact ⟨rfl, (List.cons.inj same).2⟩
    | cons item' items' =>
      obtain ⟨byte, after, spelled, other⟩ := Fits.spell_cons fits'.1 breakless
      simp only [spellAll, spelled] at same
      exact absurd (List.cons.inj same).1.symm other
  | cons item items =>
    cases items' with
    | nil =>
      obtain ⟨byte, after, spelled, other⟩ := Fits.spell_cons fits.1 breakless
      simp only [spellAll, spelled] at same
      exact absurd (List.cons.inj same).1 other
    | cons item' items' =>
      rw [spellAll, spellAll, List.append_assoc, List.append_assoc] at same
      obtain ⟨rfl, others⟩ := Fits.spell_inj breakless fits.1 fits'.1 same
      obtain ⟨rfl, rest⟩ := spellAll_break_inj breakless fits.2 fits'.2 others
      exact ⟨rfl, rest⟩
termination_by sizeOf items
end

theorem spell_length_pos (item : Item) : 0 < item.spell.length := by
  rw [spell_eq, List.length_append, Head.bytes_length]
  omega

theorem length_le_spellAll (items : List Item) : items.length ≤ (spellAll items).length := by
  induction items with
  | nil => exact Nat.le_refl 0
  | cons item items ih =>
    have := item.spell_length_pos
    rw [spellAll, List.length_append, List.length_cons]
    omega

end Item

/-- What a head opens is no longer than the item that it is in. -/
def Kind.Within (length : Nat) : Kind → Prop
  | .string count | .holder count => count ≤ length
  | .malformed => False
  | _ => True

theorem Kind.Within.mono {length length' : Nat} {opened : Kind} (within : opened.Within length)
    (le : length ≤ length') : opened.Within length' := by
  cases opened with
  | string | holder => exact Nat.le_trans within le
  | malformed => exact within.elim
  | scalar | chunked | openHolder => trivial

namespace Item

theorem chunk_le {chunks : List (Head × List UInt8)} {chunk : Head × List UInt8}
    (held : chunk ∈ chunks) : chunk.2.length ≤ (spellChunks chunks).length := by
  induction chunks with
  | nil => cases held
  | cons first chunks ih =>
    simp only [spellChunks, List.length_append]
    cases held with
    | head => omega
    | tail _ later =>
      have := ih later
      omega

mutual
theorem Fits.within {item : Item} (fits : item.Fits kind) :
    ∀ head ∈ item.heads, (kind head).Within item.spell.length := by
  cases item with
  | scalar head =>
    intro head' held
    rw [List.mem_singleton.mp held, show kind head = .scalar from fits]
    trivial
  | string head content =>
    intro head' held
    rw [List.mem_singleton.mp held, show kind head = .string content.length from fits, spell]
    exact List.length_append ▸ Nat.le_add_left _ _
  | chunked head chunks =>
    intro head' held
    obtain rfl | held := List.mem_cons.mp held
    · rw [fits.1]
      trivial
    · obtain ⟨chunk, here, rfl⟩ := List.mem_map.mp held
      have short := chunk_le here
      rw [(fits.2 chunk here).2, spell]
      simp only [Kind.Within, List.length_append]
      omega
  | holder head items =>
    have whole : (spellAll items).length ≤ (spell (.holder head items)).length := by
      rw [spell, List.length_append]
      omega
    intro head' held
    obtain rfl | held := List.mem_cons.mp held
    · rw [fits.1]
      exact (length_le_spellAll items).trans whole
    · exact (fitsAll_within fits.2 head' held).mono whole
  | openHolder head items =>
    have whole : (spellAll items).length ≤ (spell (.openHolder head items)).length := by
      simp only [spell, List.length_append]
      omega
    obtain ⟨⟨group, opens, -⟩, fits⟩ := fits
    intro head' held
    obtain rfl | held := List.mem_cons.mp held
    · rw [opens]
      trivial
    · exact (fitsAll_within fits head' held).mono whole
termination_by sizeOf item

theorem fitsAll_within {items : List Item} (fits : FitsAll kind items) :
    ∀ head ∈ headsAll items, (kind head).Within (spellAll items).length := by
  cases items with
  | nil => nofun
  | cons item items =>
    intro head held
    rw [spellAll, List.length_append]
    obtain held | held := List.mem_append.mp held
    · exact (Fits.within fits.1 head held).mono (Nat.le_add_right _ _)
    · exact (fitsAll_within fits.2 head held).mono (Nat.le_add_left _ _)
termination_by sizeOf items
end

end Item

end LibRdp.Coding.Cbor
