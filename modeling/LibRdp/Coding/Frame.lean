import LibRdp.Coding.Record
import Mathlib.Data.Nat.Digits.Lemmas

/-! # Framed items

Numbers spelled in as many digits as they need, fields found by their place in a record,
streams consumed item by item, and forests of tagged items that hold their own lengths.
-/

namespace LibRdp.Coding

variable {B T ε σ : Type}

/-- The digits of a number, the most significant first; none for 0. -/
def bigEndian (base value : Nat) : List Nat := (Nat.digits base value).reverse

def fromBigEndian (base : Nat) (digits : List Nat) : Nat :=
  digits.foldl (fun value digit => base * value + digit) 0

theorem fromBigEndian_eq_ofDigits (base : Nat) (digits : List Nat) :
    fromBigEndian base digits = Nat.ofDigits base digits.reverse := by
  rw [fromBigEndian, List.foldl_eq_foldr_reverse, Nat.ofDigits_eq_foldr]
  congr 1
  funext digit rest
  exact Nat.add_comm _ _

theorem fromBigEndian_bigEndian (base value : Nat) :
    fromBigEndian base (bigEndian base value) = value := by
  rw [fromBigEndian_eq_ofDigits, bigEndian, List.reverse_reverse]
  exact Nat.ofDigits_digits base value

variable {base value : Nat}

theorem fromBigEndian_lt {digits : List Nat} (many : 1 < base)
    (small : ∀ digit ∈ digits, digit < base) :
    fromBigEndian base digits < base ^ digits.length := by
  rw [fromBigEndian_eq_ofDigits, ← List.length_reverse]
  exact Nat.ofDigits_lt_base_pow_length many fun digit held => small digit (List.mem_reverse.mp held)

theorem bigEndian_length_le {width : Nat} (many : 1 < base) :
    (bigEndian base value).length ≤ width ↔ value < base ^ width := by
  rw [bigEndian, List.length_reverse]
  exact Nat.digits_length_le_iff many value

theorem bigEndian_ne_nil (positive : value ≠ 0) : bigEndian base value ≠ [] := by
  rw [bigEndian, ne_eq, List.reverse_eq_nil_iff]
  exact Nat.digits_ne_nil_iff_ne_zero.mpr positive

theorem bigEndian_lt {digit : Nat} (many : 1 < base) (held : digit ∈ bigEndian base value) :
    digit < base :=
  Nat.digits_lt_base many (List.mem_reverse.mp held)

theorem flatten_drop (fields : List (List B)) (count : Nat) {position : Nat}
    (place : (fields.take count).flatten.length = position) :
    fields.flatten.drop position = (fields.drop count).flatten := by
  have apart : fields.flatten = (fields.take count).flatten ++ (fields.drop count).flatten := by
    rw [← List.flatten_append, List.take_append_drop]
  rw [apart, ← place, List.drop_left]

/-- A reading takes something off its stream. -/
def Consumes (read : List B → Except ε (α × List B)) : Prop :=
  ∀ ⦃stream a rest⦄, read stream = .ok (a, rest) → rest.length < stream.length

theorem Consumes.bind {first : List B → Except ε (α × List B)}
    {next : α × List B → Except ε (β × List B)} (before : Consumes first)
    (after : ∀ a, Moves (fun stream => next (a, stream))) :
    Consumes (fun stream => first stream >>= next) := by
  intro stream b rest read
  obtain ⟨pair, opened, read⟩ := except_bind_eq_ok.mp read
  exact Nat.lt_of_le_of_lt (after pair.1 read).length_le (before opened)

/-- A step that takes something off its stream. -/
structure Consumer (B ε σ : Type) where
  step : σ → List B → Except ε (σ × List B)
  consumes : ∀ state, Consumes (step state)

namespace Consumer

variable (consumer : Consumer B ε σ) {state next : σ} {stream rest : List B}

/-- Step until nothing is left. -/
def drain (state : σ) (stream : List B) : Except ε σ :=
  if stream = [] then .ok state
  else
    match _taken : consumer.step state stream with
    | .error stop => .error stop
    | .ok (next, rest) => drain next rest
termination_by stream.length
decreasing_by exact consumer.consumes _ _taken

@[simp] theorem drain_nil : consumer.drain state [] = .ok state := by
  rw [drain, if_pos rfl]

theorem drain_step (taken : consumer.step state stream = .ok (next, rest)) :
    consumer.drain state stream = consumer.drain next rest := by
  have filled : stream ≠ [] := by
    rintro rfl
    exact absurd (consumer.consumes _ taken) (Nat.not_lt_zero _)
  rw [drain, if_neg filled]
  split
  · rename_i failed
    rw [taken] at failed
    exact nomatch failed
  rename_i next' rest' taken'
  rw [taken] at taken'
  cases taken'
  rfl

theorem drain_stop {stop : ε} (filled : stream ≠ [])
    (failed : consumer.step state stream = .error stop) :
    consumer.drain state stream = .error stop := by
  rw [drain, if_neg filled]
  split
  · rename_i failed'
    rw [failed] at failed'
    cases failed'
    rfl
  rename_i taken
  rw [failed] at taken
  exact nomatch taken

end Consumer

/-- An item is primitive, or it is made of items. -/
inductive Item (T B : Type) where
  | leaf (tag : T) (content : List B)
  | node (tag : T) (items : List (Item T B))

namespace Item

variable (head : T → Nat → List B)

mutual
/-- The spelling of an item; `head` spells its tag and the length of its content. -/
def spell : Item T B → List B
  | .leaf tag content => head tag content.length ++ content
  | .node tag items => head tag (spellAll items).length ++ spellAll items

def spellAll : List (Item T B) → List B
  | [] => []
  | item :: items => spell item ++ spellAll items
end

theorem spellAll_map (f : α → Item T B) (values : List α) :
    spellAll head (values.map f) = values.flatMap fun value => spell head (f value) := by
  induction values with
  | nil => rw [List.map_nil, spellAll, List.flatMap_nil]
  | cons value values ih => rw [List.map_cons, spellAll, ih, List.flatMap_cons]

mutual
/-- How deep nodes are nested. -/
def height : Item T B → Nat
  | .leaf _ _ => 0
  | .node _ items => heightAll items + 1

def heightAll : List (Item T B) → Nat
  | [] => 0
  | item :: items => max (height item) (heightAll items)
end

section Walk

variable (visit : σ → T → List B → σ) (closed : σ → Bool)

mutual
/-- Visit the leaves in order; the state has to be closed where a node ends. -/
def walk : Item T B → σ → Option σ
  | .leaf tag content, state => some (visit state tag content)
  | .node _ items, state => (walkAll items state).filter closed

def walkAll : List (Item T B) → σ → Option σ
  | [], state => some state
  | item :: items, state => (walk item state).bind (walkAll items)
end

end Walk

end Item

end LibRdp.Coding
