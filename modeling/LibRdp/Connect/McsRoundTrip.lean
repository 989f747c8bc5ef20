import LibRdp.Connect.Mcs

/-! # Connect PDUs read back

The user data of a connect initial and of a connect response come back. The scanner of connect
responses is followed on every forest of items that it can get: it visits the primitive items in
the order they stand, and refuses a constructed one that ends before a result was seen.
-/

namespace LibRdp.Connect

open Coding

variable {length : Nat} {gccData : Bytes}

theorem readBerLength_write (small : length < 2 ^ 64) (rest : Bytes) :
    readBerLength (writeBerLength length ++ rest) = .ok (length, rest) := by
  unfold writeBerLength
  by_cases short : length < 0x80
  · have byte : (UInt8.ofNat length).toNat = length := by
      rw [UInt8.toNat_ofNat']
      omega
    have low : UInt8.ofNat length < 0x80 := by
      rw [UInt8.lt_iff_toNat_lt, byte]
      exact short
    simp only [if_pos short, List.cons_append, List.nil_append, readBerLength, readU8_cons,
      ok_bind, if_pos low, byte, attempt_pure]
  have some : bigEndian 256 length ≠ [] := bigEndian_ne_nil (by omega)
  have few : (bigEndian 256 length).length ≤ 8 := by
    rw [bigEndian_length_le (by omega)]
    omega
  have many := List.length_pos_of_ne_nil some
  have byte : (UInt8.ofNat (0x80 + (bigEndian 256 length).length)).toNat =
      0x80 + (bigEndian 256 length).length := by
    rw [UInt8.toNat_ofNat']
    omega
  have high : ¬UInt8.ofNat (0x80 + (bigEndian 256 length).length) < 0x80 := by
    rw [UInt8.lt_iff_toNat_lt, byte]
    exact Nat.not_lt.mpr (Nat.le_add_right 0x80 _)
  have room : ¬((bigEndian 256 length).length = 0 ∨ 8 < (bigEndian 256 length).length ∨
      ((bigEndian 256 length).map UInt8.ofNat ++ rest).length <
        (bigEndian 256 length).length) := by
    rw [List.length_append, List.length_map]
    omega
  have digits : readBytes ((bigEndian 256 length).map UInt8.ofNat ++ rest)
      (bigEndian 256 length).length = .ok ((bigEndian 256 length).map UInt8.ofNat, rest) := by
    have read := readBytes_append ((bigEndian 256 length).map UInt8.ofNat) rest
    rwa [List.length_map] at read
  have back : ((bigEndian 256 length).map UInt8.ofNat).map UInt8.toNat =
      bigEndian 256 length := by
    rw [List.map_map]
    calc (bigEndian 256 length).map (UInt8.toNat ∘ UInt8.ofNat)
        = (bigEndian 256 length).map id := by
          apply List.map_congr_left
          intro digit held
          have bound := bigEndian_lt (by omega) held
          simp only [Function.comp_apply, UInt8.toNat_ofNat', id_eq]
          omega
      _ = bigEndian 256 length := List.map_id _
  simp only [if_neg short, List.cons_append, readBerLength, readU8_cons, ok_bind,
    if_neg high, byte, Nat.add_sub_cancel_left, if_neg room, digits, back,
    fromBigEndian_bigEndian, attempt_pure]

theorem readBerOctetString_write {data : Bytes} (small : data.length < 2 ^ 64) (rest : Bytes) :
    readBerOctetString (writeBerOctetString data ++ rest) = .ok (data, rest) := by
  simp only [readBerOctetString, writeBerOctetString, List.append_assoc, List.cons_append,
    List.nil_append, readU8_cons, ok_bind, ne_eq, not_true_eq_false, if_false,
    readBerLength_write small, readBytes_append]

theorem writeBerLength_length_le (small : length < 2 ^ 64) :
    (writeBerLength length).length ≤ 9 := by
  unfold writeBerLength
  split
  · exact Nat.le_add_left 1 8
  have few : (bigEndian 256 length).length ≤ 8 := by
    rw [bigEndian_length_le (by omega)]
    omega
  rw [List.length_cons, List.length_map]
  omega

theorem trimInteger_length_le (bytes : Bytes) : (trimInteger bytes).length ≤ bytes.length := by
  induction bytes with
  | nil => exact Nat.le_refl 0
  | cons first rest ih =>
    cases rest with
    | nil => exact Nat.le_refl 1
    | cons second rest =>
      rw [trimInteger]
      split
      · exact Nat.le_succ_of_le ih
      · exact Nat.le_refl _

/-- The content of the item that `rdp_mcs_write_ber_integer` writes. -/
def integerBytes (value : UInt32) : Bytes :=
  let trimmed := trimInteger (u32BeBytes value.toNat)
  if 0x80 ≤ trimmed.headD 0 then 0 :: trimmed else trimmed

theorem integerBytes_length_le (value : UInt32) : (integerBytes value).length ≤ 5 := by
  have trimmed : (trimInteger (u32BeBytes value.toNat)).length ≤ 4 := trimInteger_length_le _
  unfold integerBytes
  simp only
  split
  · exact Nat.succ_le_succ trimmed
  · exact Nat.le_succ_of_le trimmed

theorem writeBerInteger_length_le (value : UInt32) : (writeBerInteger value).length ≤ 15 := by
  have content := integerBytes_length_le value
  have count : (writeBerLength (integerBytes value).length).length ≤ 9 :=
    writeBerLength_length_le (by omega)
  change ([0x02] ++ writeBerLength (integerBytes value).length ++ integerBytes value).length ≤ 15
  simp only [List.length_append, List.length_cons, List.length_nil]
  omega

theorem flatMap_writeBerInteger_length_le (values : List UInt32) :
    (values.flatMap writeBerInteger).length ≤ 15 * values.length := by
  induction values with
  | nil => exact Nat.le_refl 0
  | cons value values ih =>
    have first := writeBerInteger_length_le value
    rw [List.flatMap_cons, List.length_append, List.length_cons]
    omega

section DomainParameters

variable (maxChannels maxUsers maxTokens priorities minThroughput maxHeight maxPduSize
  protocolVersion : UInt32)

theorem writeDomainParameters_length_le :
    (writeDomainParameters maxChannels maxUsers maxTokens priorities minThroughput maxHeight
      maxPduSize protocolVersion).length ≤ 130 := by
  have body := flatMap_writeBerInteger_length_le [maxChannels, maxUsers, maxTokens, priorities,
    minThroughput, maxHeight, maxPduSize, protocolVersion]
  simp only [List.length_cons, List.length_nil] at body
  have count := writeBerLength_length_le (Nat.lt_of_le_of_lt body (by decide))
  rw [writeDomainParameters, List.length_append, List.length_append]
  simp only [List.length_cons, List.length_nil]
  omega

theorem skipBerSequence_write (rest : Bytes) :
    skipBerSequence (writeDomainParameters maxChannels maxUsers maxTokens priorities minThroughput
      maxHeight maxPduSize protocolVersion ++ rest) = .ok rest := by
  have body := flatMap_writeBerInteger_length_le [maxChannels, maxUsers, maxTokens, priorities,
    minThroughput, maxHeight, maxPduSize, protocolVersion]
  simp only [List.length_cons, List.length_nil] at body
  simp only [skipBerSequence, writeDomainParameters, List.append_assoc, List.cons_append,
    List.nil_append, readU8_cons, ok_bind, ne_eq, not_true_eq_false, if_false,
    readBerLength_write (Nat.lt_of_le_of_lt body (by decide)), readBytes_append, attempt_pure]

end DomainParameters

theorem readUpwardFlag_true (rest : Bytes) : readUpwardFlag ([0x01, 0x01, 0xff] ++ rest) = .ok rest :=
  rfl

theorem parseConnectInitial_write (filled : gccData ≠ []) (small : gccData.length < 2 ^ 63) :
    ∃ pdu, writeConnectInitial gccData = .ok pdu ∧ parseConnectInitial pdu = .ok gccData ∧
      pdu.length ≤ gccData.length + 500 := by
  have one : ([0x01] : Bytes).length < 2 ^ 64 := by decide
  have size : gccData.length < 2 ^ 64 := Nat.lt_of_lt_of_le small (by decide)
  have first := writeDomainParameters_length_le 34 2 0 1 0 1 65535 2
  have second := writeDomainParameters_length_le 1 1 1 1 0 1 1056 2
  have third := writeDomainParameters_length_le 65535 64535 65535 1 0 1 65535 2
  have count := writeBerLength_length_le size
  generalize bodyOf : writeBerOctetString [0x01] ++ writeBerOctetString [0x01] ++
    [0x01, 0x01, 0xff] ++ writeDomainParameters 34 2 0 1 0 1 65535 2 ++
    writeDomainParameters 1 1 1 1 0 1 1056 2 ++
    writeDomainParameters 65535 64535 65535 1 0 1 65535 2 ++ writeBerOctetString gccData = body
  have bodySize : body.length ≤ gccData.length + 450 := by
    have selector : (writeBerOctetString [0x01]).length = 3 := rfl
    have data : (writeBerOctetString gccData).length ≤ gccData.length + 10 := by
      rw [writeBerOctetString, List.length_append, List.length_append]
      simp only [List.length_cons, List.length_nil]
      omega
    rw [← bodyOf]
    simp only [List.length_append, List.length_cons, List.length_nil]
    omega
  have bodySmall : body.length < 2 ^ 64 := by omega
  refine ⟨[0x7f, 0x65] ++ writeBerLength body.length ++ body, ?_, ?_, ?_⟩
  · rw [writeConnectInitial, bodyOf]
  · have read := readBerLength_write bodySmall body
    have last := readBerOctetString_write size []
    rw [List.append_nil] at last
    have data : gccData.length ≠ 0 := fun none' => filled (List.length_eq_zero_iff.mp none')
    simp only [parseConnectInitial, List.cons_append, List.nil_append, readU8_cons,
      ok_bind, ne_eq, not_true_eq_false, or_self, if_false, read]
    rw [← bodyOf]
    simp only [List.append_assoc, readBerOctetString_write one, ok_bind, List.length_cons,
      List.length_nil, readUpwardFlag_true, skipBerSequence_write, Nat.zero_add, Nat.one_ne_zero,
      if_false, last, data, not_true_eq_false, or_self, attempt_pure]
  · have head := writeBerLength_length_le bodySmall
    simp only [List.length_append, List.length_cons, List.length_nil]
    omega

def berHead (tag : Bytes) (length : Nat) : Bytes := tag ++ writeBerLength length

/-- The bytes are read as one tag, of a constructed item or of a primitive one. -/
def IsTag (constructed : Bool) (tag : Bytes) : Prop :=
  ∀ rest, readBerTag (tag ++ rest) = .ok ((tag, constructed), rest)

mutual
def WellFormed : Item Bytes UInt8 → Prop
  | .leaf tag content => IsTag false tag ∧ content.length < 2 ^ 64
  | .node tag items => IsTag true tag ∧ (Item.spellAll berHead items).length < 2 ^ 64 ∧
      WellFormedAll items

def WellFormedAll : List (Item Bytes UInt8) → Prop
  | [] => True
  | item :: items => WellFormed item ∧ WellFormedAll items
end

def orRefuse : Option α → Attempt α
  | some a => .ok a
  | none => refuse .protocolError

/-- What the scanner is for: the primitive items in order, and a result before any end. -/
def gather (item : Item Bytes UInt8) (response : McsConnectResponse) : Option McsConnectResponse :=
  item.walk visitItem (·.hasResult) response

def gatherAll (items : List (Item Bytes UInt8)) (response : McsConnectResponse) :
    Option McsConnectResponse :=
  Item.walkAll visitItem (·.hasResult) items response

variable {tag : Bytes} {deeper : Bytes → McsConnectResponse → Attempt McsConnectResponse}

theorem IsTag.not_taken (constructed : IsTag true tag) : tag ≠ [0x0a] ∧ tag ≠ [0x04] := by
  constructor
  · rintro rfl
    exact absurd (constructed []) (by decide)
  · rintro rfl
    exact absurd (constructed []) (by decide)

theorem IsTag.ne_nil {constructed : Bool} (isTag : IsTag constructed tag) : tag ≠ [] := by
  rintro rfl
  exact nomatch isTag []

theorem spell_ne_nil {item : Item Bytes UInt8} (spelled : WellFormed item) :
    item.spell berHead ≠ [] := by
  cases item with
  | leaf tag content =>
    rw [WellFormed] at spelled
    rw [Item.spell, berHead, List.append_assoc]
    exact List.append_ne_nil_of_left_ne_nil spelled.1.ne_nil _
  | node tag items =>
    rw [WellFormed] at spelled
    rw [Item.spell, berHead, List.append_assoc]
    exact List.append_ne_nil_of_left_ne_nil spelled.1.ne_nil _

variable {content : Bytes}

theorem scanItem_leaf (primitive : IsTag false tag) (small : content.length < 2 ^ 64)
    (response : McsConnectResponse) (rest : Bytes) :
    scanItem deeper response (berHead tag content.length ++ content ++ rest) =
      .ok (visitItem response tag content, rest) := by
  rw [berHead, List.append_assoc, List.append_assoc, scanItem, primitive]
  simp only [ok_bind, readBerLength_write small, readBytes_append, Bool.false_eq_true,
    not_false_eq_true, or_true, if_true, attempt_pure]

theorem scanItem_node (constructed : IsTag true tag) (small : content.length < 2 ^ 64)
    (response : McsConnectResponse) (rest : Bytes) :
    scanItem deeper response (berHead tag content.length ++ content ++ rest) =
      (deeper content response >>= fun response => .ok (response, rest)) := by
  obtain ⟨noResult, noData⟩ := constructed.not_taken
  rw [berHead, List.append_assoc, List.append_assoc, scanItem, constructed]
  simp only [ok_bind, readBerLength_write small, readBytes_append, noResult, noData,
    false_and, not_true_eq_false, or_self, if_false]
  rfl

theorem levelItems_consumes (levels : Nat) (response : McsConnectResponse) :
    Consumes (scanItem (scanConnectResponse levels) response) :=
  scanItem_consumes _ response

def levelItems (levels : Nat) : Consumer UInt8 Stop McsConnectResponse :=
  ⟨scanItem (scanConnectResponse levels), levelItems_consumes levels⟩

mutual
theorem scanItem_spell (item : Item Bytes UInt8) {levels : Nat} (deep : item.height ≤ levels)
    (spelled : WellFormed item) (response : McsConnectResponse) (rest : Bytes) :
    scanItem (scanConnectResponse levels) response (item.spell berHead ++ rest) =
      (orRefuse (gather item response) >>= fun response => .ok (response, rest)) := by
  cases item with
  | leaf tag content =>
    rw [WellFormed] at spelled
    rw [Item.spell, scanItem_leaf spelled.1 spelled.2, gather, Item.walk]
    rfl
  | node tag items =>
    rw [WellFormed] at spelled
    rw [Item.height] at deep
    obtain ⟨constructed, small, spelled⟩ := spelled
    obtain ⟨below, rfl⟩ : ∃ below, levels = below + 1 := ⟨levels - 1, by omega⟩
    rw [Item.spell, scanItem_node constructed small, gather, Item.walk, scanConnectResponse]
    change ((levelItems below).drain response (Item.spellAll berHead items) >>= _) >>= _ = _
    rw [drain_spellAll items (Nat.le_of_succ_le_succ deep) spelled, gatherAll]
    cases Item.walkAll visitItem (·.hasResult) items response with
    | none => rfl
    | some found =>
      simp only [orRefuse, ok_bind, Option.filter]
      by_cases seen : found.hasResult
      · rw [if_pos seen, if_pos seen]
        rfl
      · rw [if_neg seen, if_neg seen]
termination_by sizeOf item

theorem drain_spellAll (items : List (Item Bytes UInt8)) {levels : Nat}
    (deep : Item.heightAll items ≤ levels) (spelled : WellFormedAll items)
    (response : McsConnectResponse) :
    (levelItems levels).drain response (Item.spellAll berHead items) =
      orRefuse (gatherAll items response) := by
  cases items with
  | nil =>
    rw [Item.spellAll, Consumer.drain_nil, gatherAll, Item.walkAll]
    rfl
  | cons item items =>
    rw [WellFormedAll] at spelled
    rw [Item.heightAll] at deep
    have first := scanItem_spell item (Nat.le_trans (Nat.le_max_left _ _) deep) spelled.1
      response (Item.spellAll berHead items)
    rw [Item.spellAll, gatherAll, Item.walkAll]
    cases found : gather item response with
    | none =>
      rw [found] at first
      rw [(levelItems levels).drain_stop ?_ first]
      · rw [gather] at found
        rw [found]
        rfl
      · exact List.append_ne_nil_of_left_ne_nil (spell_ne_nil spelled.1) _
    | some next =>
      rw [found] at first
      rw [(levelItems levels).drain_step first,
        drain_spellAll items (Nat.le_trans (Nat.le_max_right _ _) deep) spelled.2 next]
      rw [gather] at found
      rw [found]
      rfl
termination_by sizeOf items
end

def integerItem (value : UInt32) : Item Bytes UInt8 := .leaf [0x02] (integerBytes value)

def responseItems (gccData : Bytes) : List (Item Bytes UInt8) :=
  [.leaf [0x0a] [0], integerItem 0,
    .node [0x30] ([34, 3, 0, 1, 0, 1, maxPduSize, 2].map integerItem), .leaf [0x04] gccData]

theorem writeConnectResponse_items (gccData : Bytes) :
    writeConnectResponse gccData =
      .ok (Item.spellAll berHead [.node [0x7f, 0x66] (responseItems gccData)]) := by
  have parameters (values : List UInt32) :
      Item.spellAll berHead (values.map integerItem) = values.flatMap writeBerInteger :=
    Item.spellAll_map berHead integerItem values
  simp only [responseItems, Item.spellAll, Item.spell, List.append_nil, parameters]
  simp only [writeConnectResponse, writeDomainParameters, writeBerOctetString, writeBerInteger,
    integerItem, integerBytes, Item.spell, berHead, List.append_assoc, List.length_cons,
    List.length_nil, Nat.zero_add]

theorem isTag_integer : IsTag false [0x02] := fun _ => rfl

theorem wellFormed_integers (values : List UInt32) : WellFormedAll (values.map integerItem) := by
  induction values with
  | nil => trivial
  | cons value values ih =>
    rw [List.map_cons, WellFormedAll, integerItem, WellFormed]
    have few := integerBytes_length_le value
    exact ⟨⟨isTag_integer, by omega⟩, ih⟩

theorem parseConnectResponse_write (small : gccData.length < 2 ^ 63) :
    ∃ pdu, writeConnectResponse gccData = .ok pdu ∧
      parseConnectResponse pdu = .ok { hasResult := true, result := 0, userData := some gccData } := by
  refine ⟨_, writeConnectResponse_items gccData, ?_⟩
  have parameters : (Item.spellAll berHead
      ([34, 3, 0, 1, 0, 1, maxPduSize, 2].map integerItem)).length ≤ 120 := by
    rw [Item.spellAll_map]
    exact flatMap_writeBerInteger_length_le _
  have content : (Item.spellAll berHead (responseItems gccData)).length < 2 ^ 64 := by
    have zero := integerBytes_length_le 0
    have first := writeBerLength_length_le (show 1 < 2 ^ 64 by decide)
    have second := writeBerLength_length_le (Nat.lt_of_le_of_lt zero (by decide))
    have third := writeBerLength_length_le (Nat.lt_of_le_of_lt parameters (by decide))
    have fourth := writeBerLength_length_le (Nat.lt_trans small (by decide))
    simp only [responseItems, Item.spellAll, Item.spell, integerItem, berHead, List.length_append,
      List.length_cons, List.length_nil, Nat.zero_add] at parameters first second third fourth ⊢
    omega
  have spelled : WellFormedAll [.node [0x7f, 0x66] (responseItems gccData)] := by
    simp only [responseItems, WellFormedAll, WellFormed, and_true]
    refine ⟨fun _ => rfl, content, ⟨fun _ => rfl, by decide⟩, (wellFormed_integers [0]).1,
      ⟨fun _ => rfl, Nat.lt_of_le_of_lt parameters (by decide), wellFormed_integers _⟩,
      fun _ => rfl, Nat.lt_trans small (by decide)⟩
  have found : gatherAll [.node [0x7f, 0x66] (responseItems gccData)] {} =
      some { hasResult := true, result := 0, userData := some gccData } := rfl
  have shallow : Item.heightAll [.node [0x7f, 0x66] (responseItems gccData)] ≤ 8 := by
    simp only [responseItems, Item.heightAll, Item.height, integerItem, List.map_cons, List.map_nil]
    decide
  rw [parseConnectResponse, scanConnectResponse]
  change ((levelItems 8).drain {} (Item.spellAll berHead _) >>= _) = _
  rw [drain_spellAll _ shallow spelled, found]
  rfl

end LibRdp.Connect
