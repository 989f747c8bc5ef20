import LibRdp.Graphics.GdiSpelling

/-! # All encodings of a sequence of drawing orders mean the same

The decoder reads every encoding of a sequence as the orders themselves, as long as what it
keeps of an order is what was sent: the orders for fast glyphs replace edges of the opaque
rectangle, and the replaced edges stand in for the sent ones from then on.
-/

namespace LibRdp.Graphics

open Coding

structure Order (type : OrderType) where
  fields : Fields type
  bounds : Option RenderEdges := none

def EdgeSpelled (flags absolute delta : UInt8) (previous next : Int) (bytes : Bytes) : Prop :=
  if flags &&& absolute ≠ 0 then flags &&& delta = 0 ∧ CoordSent false previous next bytes
  else if flags &&& delta ≠ 0 then CoordSent true previous next bytes
  else previous = next ∧ bytes = []

def BoundsSpelled (control : UInt8) (previous next : RenderEdges) (bytes : Bytes) : Prop :=
  if control &&& tsZeroBoundsDeltas ≠ 0 then previous = next ∧ bytes = []
  else ∃ flags left top right bottom, bytes = flags :: (left ++ (top ++ (right ++ bottom))) ∧
    EdgeSpelled flags 0x01 0x10 previous.left next.left left ∧
    EdgeSpelled flags 0x02 0x20 previous.top next.top top ∧
    EdgeSpelled flags 0x04 0x40 previous.right next.right right ∧
    EdgeSpelled flags 0x08 0x80 previous.bottom next.bottom bottom

def fieldFlagBytes : Nat → Nat → Bytes
  | 0, _ => []
  | count + 1, flags => UInt8.ofNat flags :: fieldFlagBytes count (flags / 256)

structure OrderCode where
  control : UInt8
  typeByte : Bytes := []
  flags : Nat
  bounds : Bytes := []
  body : Bytes

def OrderCode.bytes (type : OrderType) (code : OrderCode) : Bytes :=
  code.control :: (code.typeByte ++
    (fieldFlagBytes (type.fieldBytes - zeroFieldBytes code.control) code.flags ++
      (code.bounds ++ code.body)))

/-- The parts encode an order after one of type `current`, after the bounds `edges` and after the
    fields `previous`. -/
structure OrderCode.Spells (code : OrderCode) (current : OrderType) (edges : RenderEdges)
    (previous : Fields type) (order : Order type) : Prop where
  standard : code.control &&& tsStandard ≠ 0 ∧ code.control &&& tsSecondary = 0
  typed : if code.control &&& tsTypeChange = 0 then current = type ∧ code.typeByte = []
    else code.typeByte = [type.code]
  flagged : zeroFieldBytes code.control ≤ type.fieldBytes ∧
    code.flags < 256 ^ (type.fieldBytes - zeroFieldBytes code.control)
  bounded : match order.bounds with
    | none => code.control &&& tsBounds = 0 ∧ code.bounds = []
    | some next => code.control &&& tsBounds ≠ 0 ∧
        BoundsSpelled code.control edges next code.bounds
  spelled : (orderDecoder type).layout.Coded
    (FieldSpelled code.flags (code.control &&& tsDeltaCoordinates != 0)) previous order.fields
    code.body

inductive Encoding (type : OrderType) : OrderType → RenderEdges → Fields type → List (Order type) →
    List Bytes → Prop where
  | nil : Encoding type current edges previous [] []
  | cons (code : OrderCode) (spells : code.Spells current edges previous order)
      (others : Encoding type type (order.bounds.getD edges) order.fields orders rest) :
      Encoding type current edges previous (order :: orders) (code.bytes type :: rest)

def EncodingOf (type : OrderType) (orders : List (Order type)) (encoded : List Bytes) : Prop :=
  Encoding type renderStateInit.currentOrderType renderStateInit.bounds
    (renderStateInit.fields type) orders encoded

/-- Repeated calls of `rdp_gdi_decode_primary_render_order`, each on what the last one left: the
    operations with the numbers of bytes that they took, and the failure that ended the calls. -/
def decodeOrders : Nat → RenderState → Bytes → List (RenderOp × Nat) × Option Stop
  | 0, _, _ => ([], none)
  | left + 1, state, data =>
      match decodePrimaryRenderOrder state data with
      | .error stop => ([], some stop)
      | .ok (op, taken, state) =>
          let (ops, stop) := decodeOrders left state (data.drop taken)
          ((op, taken) :: ops, stop)

def renderOrders : List (Order type) → List RenderOp × Option Stop
  | [] => ([], none)
  | order :: orders =>
      match finishOrder type order.bounds order.fields with
      | .error stop => ([], some stop)
      | .ok (_, op) =>
          let (ops, stop) := renderOrders orders
          (op :: ops, stop)

theorem readFieldFlags_bytes {count flags : Nat} {tail : Bytes} (fits : flags < 256 ^ count) :
    readFieldFlags count (fieldFlagBytes count flags ++ tail) = .ok (flags, tail) := by
  induction count generalizing flags with
  | zero =>
    rw [Nat.pow_zero, Nat.lt_one_iff] at fits
    cases fits
    rfl
  | succ count ih =>
    have high : flags / 256 < 256 ^ count := by
      rw [Nat.pow_succ] at fits
      exact Nat.div_lt_of_lt_mul (by omega)
    change (readFieldFlags count (fieldFlagBytes count (flags / 256) ++ tail) >>= fun r =>
      pure ((UInt8.ofNat flags).toNat + 256 * r.1, r.2)) = _
    rw [ih high, ok_bind, UInt8.toNat_ofNat']
    change Except.ok (flags % 256 + 256 * (flags / 256), tail) = _
    rw [Nat.mod_add_div]

theorem ofCode_code (type : OrderType) : OrderType.ofCode type.code = some type := by
  cases type <;> rfl

theorem readBoundsEdge_spelled {flags absolute delta : UInt8} {previous next : Int}
    {bytes : Bytes} (spelled : EdgeSpelled flags absolute delta previous next bytes)
    (tail : Bytes) :
    readBoundsEdge flags absolute delta previous (bytes ++ tail) = .ok (next, tail) := by
  unfold EdgeSpelled at spelled
  unfold readBoundsEdge
  split at spelled
  case isTrue whole =>
    obtain ⟨alone, sent⟩ := spelled
    rw [if_neg (fun both => both.2 alone), if_pos whole]
    exact readCoord_sent sent tail
  case isFalse whole =>
    rw [if_neg (fun both => whole both.1), if_neg whole]
    split at spelled
    case isTrue short =>
      rw [if_pos short]
      exact readCoord_sent spelled tail
    case isFalse short =>
      obtain ⟨rfl, rfl⟩ := spelled
      rw [if_neg short]
      rfl

theorem readBounds_spelled {control : UInt8} {previous next : RenderEdges} {bytes : Bytes}
    (spelled : BoundsSpelled control previous next bytes) (tail : Bytes) :
    readBounds control previous (bytes ++ tail) = .ok (next, tail) := by
  unfold BoundsSpelled at spelled
  unfold readBounds
  split at spelled
  case isTrue zero =>
    obtain ⟨rfl, rfl⟩ := spelled
    rw [if_pos zero]
    rfl
  case isFalse zero =>
    obtain ⟨flags, left, top, right, bottom, rfl, spelledLeft, spelledTop, spelledRight,
      spelledBottom⟩ := spelled
    rw [if_neg zero]
    simp only [List.cons_append, List.append_assoc, readU8, ok_bind,
      readBoundsEdge_spelled spelledLeft, readBoundsEdge_spelled spelledTop,
      readBoundsEdge_spelled spelledRight, readBoundsEdge_spelled spelledBottom, attempt_pure]

def SameFields (type : OrderType) (a b : Fields type) : Prop :=
  (orderDecoder type).layout.Same SameField a b

theorem rectLayout_same {mask : Nat} {a b : RenderRect} :
    (rectLayout mask).Same SameField a b ↔ a = b := by
  constructor
  · intro same
    obtain ⟨x, y, width, height⟩ := a
    obtain ⟨x', y', width', height'⟩ := b
    obtain ⟨rfl, rfl, rfl, rfl⟩ := same
    rfl
  · rintro rfl
    exact ⟨rfl, rfl, rfl, rfl⟩

theorem edgesLayout_same {coord : Nat → RenderField Int}
    (exact : ∀ mask a b, SameField (coord mask) a b ↔ a = b) {mask : Nat} {a b : RenderEdges} :
    (edgesLayout coord mask).Same SameField a b ↔ a = b := by
  simp only [edgesLayout, Layout.Same, exact]
  constructor
  · intro same
    obtain ⟨left, top, right, bottom⟩ := a
    obtain ⟨left', top', right', bottom'⟩ := b
    obtain ⟨rfl, rfl, rfl, rfl⟩ := same
    rfl
  · rintro rfl
    exact ⟨rfl, rfl, rfl, rfl⟩

theorem brushLayout_same {mask : Nat} {a b : Brush} :
    (brushLayout mask).Same SameField a b ↔ a = b := by
  constructor
  · intro same
    obtain ⟨backColor, foreColor, x, y, style, hatch, extra⟩ := a
    obtain ⟨backColor', foreColor', x', y', style', hatch', extra'⟩ := b
    obtain ⟨rfl, rfl, rfl, rfl, rfl, rfl, rfl⟩ := same
    rfl
  · rintro rfl
    exact ⟨rfl, rfl, rfl, rfl, rfl, rfl, rfl⟩

theorem color_eq {a b : Color} (first : a.first = b.first) (second : a.second = b.second)
    (third : a.third = b.third) : a = b := by
  cases a
  cases b
  cases first
  cases second
  cases third
  rfl

theorem fastGlyph_same {inlineGlyph : Bool} {a b : GlyphFields}
    (same : (decodeFastGlyphCommon inlineGlyph).layout.Same SameField a b) : a = b := by
  simp only [decodeFastGlyphCommon, Layout.Same, SameField,
    @edgesLayout_same .coord fun _ _ _ => Iff.rfl] at same
  obtain ⟨cacheId, flags, charInc, backColor, foreColor, back, op, x, y, data⟩ := a
  obtain ⟨cacheId', flags', charInc', backColor', foreColor', back', op', x', y', data'⟩ := b
  obtain ⟨rfl, both, rfl, rfl, rfl, rfl, rfl, rfl, rfl⟩ := same
  cases both
  rfl

variable {type current : OrderType} {code : OrderCode} {state : RenderState} {edges : RenderEdges}
  {previous : Fields type}

variable {a b : Fields type}

theorem render_same (same : SameFields type a b) (bounds : Option RenderEdges) :
    (orderDecoder type).render bounds a = (orderDecoder type).render bounds b := by
  cases type
  case fastIndex => rw [fastGlyph_same same]
  case fastGlyph => rw [fastGlyph_same same]
  case multiOpaqueRect =>
    simp only [SameFields, orderDecoder, decodeMultiOpaqueRect, Layout.Same, SameField,
      rectLayout_same] at same ⊢
    have color : a.color = b.color := color_eq same.2.1 same.2.2.1 same.2.2.2.1
    simp only [same, color, countedList]
  all_goals
    simp only [SameFields, orderDecoder, decodeDstblt, decodePatblt, decodeScrblt,
      decodeDrawNinegrid, decodeMultiDrawNinegrid, decodeLine, decodeOpaqueRect, decodeSaveBitmap,
      decodeMemblt, decodeMem3blt, decodeMultiDstblt, decodeMultiPatblt, decodeMultiScrblt,
      decodePolygonSc, decodePolygonCb, decodePolyline, decodeEllipseSc, decodeEllipseCb,
      decodeGlyphIndex, bltLayout, ellipseLayout, brushedLayout, Layout.Same, SameField,
      rectLayout_same, brushLayout_same, @edgesLayout_same .coord fun _ _ _ => Iff.rfl,
      @edgesLayout_same .int16 fun _ _ _ => Iff.rfl] at same ⊢
    simp only [same, countedList, GlyphFields.render, RenderOp.brushed]

theorem settle_same (same : SameFields type a b) :
    SameFields type ((orderDecoder type).settle a) ((orderDecoder type).settle b) := by
  cases type
  case fastIndex =>
    rw [fastGlyph_same same]
    exact Layout.same_refl sameField_refl _ _
  case fastGlyph =>
    rw [fastGlyph_same same]
    exact Layout.same_refl sameField_refl _ _
  all_goals exact same

theorem finishOrder_same (same : SameFields type a b) (bounds : Option RenderEdges) :
    (∃ stop, finishOrder type bounds a = .error stop ∧ finishOrder type bounds b = .error stop) ∨
      ∃ op, finishOrder type bounds a = .ok ((orderDecoder type).settle a, op) ∧
        finishOrder type bounds b = .ok ((orderDecoder type).settle b, op) := by
  unfold finishOrder
  dsimp only
  rw [render_same (settle_same same) bounds]
  cases (orderDecoder type).render bounds ((orderDecoder type).settle b) with
  | error stop => exact .inl ⟨stop, rfl, rfl⟩
  | ok op =>
    simp only [ok_bind]
    split
    · exact .inl ⟨_, rfl, rfl⟩
    · exact .inr ⟨_, rfl, rfl⟩

theorem fields_after (state : RenderState) (type : OrderType) (bounds : RenderEdges)
    (fields : Fields type) : (state.after type bounds fields).fields type = fields := by
  cases type <;> rfl

structure Follows (state : RenderState) (current : OrderType) (edges : RenderEdges)
    (previous : Fields type) : Prop where
  current : state.currentOrderType = current
  edges : state.bounds = edges
  fields : SameFields type (state.fields type) previous

theorem readOrderType_spells (is : state.currentOrderType = current)
    (typed : if code.control &&& tsTypeChange = 0 then current = type ∧ code.typeByte = []
      else code.typeByte = [type.code]) (tail : Bytes) :
    readOrderType code.control state (code.typeByte ++ tail) = .ok (type, tail) := by
  unfold readOrderType
  split at typed
  case isTrue unnamed =>
    obtain ⟨rfl, empty⟩ := typed
    rw [if_pos unnamed, empty, is]
    rfl
  case isFalse named =>
    rw [if_neg named, typed]
    simp only [List.cons_append, List.nil_append, readU8, ok_bind, ofCode_code,
      attempt_pure]

theorem readOrderBounds_spells {bounds : Option RenderEdges} (is : state.bounds = edges)
    (bounded : match bounds with
      | none => code.control &&& tsBounds = 0 ∧ code.bounds = []
      | some next => code.control &&& tsBounds ≠ 0 ∧
          BoundsSpelled code.control edges next code.bounds) (tail : Bytes) :
    readOrderBounds code.control state (code.bounds ++ tail) = .ok (bounds.getD edges, tail) ∧
    (if code.control &&& tsBounds ≠ 0 then some (bounds.getD edges) else none) = bounds := by
  unfold readOrderBounds
  cases bounds with
  | none =>
    obtain ⟨without, empty⟩ := bounded
    rw [if_neg (not_not_intro without), if_neg (not_not_intro without), empty, is]
    exact ⟨rfl, rfl⟩
  | some next =>
    obtain ⟨bound, spelled⟩ := bounded
    rw [if_pos bound, if_pos bound, is]
    exact ⟨readBounds_spelled spelled tail, rfl⟩

variable {order : Order type} {delta : Bool}

theorem readOrderHeader_spells (is : state.currentOrderType = current)
    (spells : code.Spells current edges previous order) (tail : Bytes) :
    readOrderHeader state (code.bytes type ++ tail) =
      .ok ((code.control, type, code.flags), code.bounds ++ (code.body ++ tail)) := by
  have standard : ¬ (code.control &&& tsStandard = 0 ∨ code.control &&& tsSecondary ≠ 0) := by
    intro bad
    cases bad with
    | inl unset => exact spells.standard.1 unset
    | inr set => exact set spells.standard.2
  simp only [readOrderHeader, OrderCode.bytes, List.cons_append, List.append_assoc, readU8,
    ok_bind, if_neg standard, readOrderType_spells is spells.typed,
    if_neg (Nat.not_lt.mpr spells.flagged.1), readFieldFlags_bytes spells.flagged.2, attempt_pure]

theorem decode_spells (follows : Follows state current edges previous)
    (spells : code.Spells current edges previous order) (tail : Bytes) :
    (∃ stop, finishOrder type order.bounds order.fields = .error stop ∧
      decodePrimaryRenderOrder state (code.bytes type ++ tail) = .error stop) ∨
    ∃ op fields next, finishOrder type order.bounds order.fields = .ok (fields, op) ∧
      decodePrimaryRenderOrder state (code.bytes type ++ tail) =
        .ok (op, (code.bytes type).length, next) ∧
      Follows next type (order.bounds.getD edges)
        ((orderDecoder type).settle order.fields) := by
  have fieldsRead : ∃ now, (orderDecoder type).layout.read
      (readField code.flags (code.control &&& tsDeltaCoordinates != 0)) (state.fields type)
        (code.body ++ tail) = .ok (now, tail) ∧ SameFields type now order.fields :=
    Layout.read_coded (fun field => readField_spelled code.flags _ field) _ spells.spelled
      follows.fields
  obtain ⟨now, readNow, same⟩ := fieldsRead
  obtain ⟨readBound, bounded⟩ := readOrderBounds_spells follows.edges spells.bounded
    (code.body ++ tail)
  have taken : (code.bytes type ++ tail).length - tail.length = (code.bytes type).length := by
    rw [List.length_append, Nat.add_sub_cancel]
  simp only [decodePrimaryRenderOrder, readOrderHeader_spells follows.current spells,
    decodeOrderBody, ok_bind, readBound, readNow, bounded]
  cases finishOrder_same same order.bounds with
  | inl failed =>
    obtain ⟨stop, nowFails, orderFails⟩ := failed
    refine .inl ⟨stop, orderFails, ?_⟩
    rw [nowFails]
    rfl
  | inr done =>
    obtain ⟨op, nowDone, orderDone⟩ := done
    refine .inr ⟨op, _, state.after type (order.bounds.getD edges)
      ((orderDecoder type).settle now), orderDone, ?_, ?_⟩
    · simp only [nowDone, ok_bind, attempt_pure, taken]
    · exact ⟨rfl, rfl, (fields_after state type _ _).symm ▸ settle_same same⟩

structure EdgesStand (back op : RenderEdges) : Prop where
  left : op.left = 0 → back.left = 0
  right : op.right = 0 → back.right = 0
  specialLeft : op.bottom = -32768 → (op.top % 16).toNat &&& 8 ≠ 0 → back.left = op.left
  specialTop : op.bottom = -32768 → (op.top % 16).toNat &&& 4 ≠ 0 → back.top = op.top
  specialRight : op.bottom = -32768 → (op.top % 16).toNat &&& 2 ≠ 0 → back.right = op.right
  specialBottom : op.bottom = -32768 → (op.top % 16).toNat &&& 1 ≠ 0 → back.bottom = op.bottom

/-- The decoder keeps the order as it was sent; only the orders for fast glyphs may change. -/
def Kept : (type : OrderType) → Fields type → Prop
  | .fastIndex, glyph => EdgesStand glyph.back glyph.op
  | .fastGlyph, glyph => EdgesStand glyph.back glyph.op
  | _, _ => True

theorem settleEdges_stand {back op : RenderEdges} :
    settleEdges back op = op ↔ EdgesStand back op := by
  obtain ⟨left, top, right, bottom⟩ := op
  simp only [settleEdges, RenderEdges.mk.injEq]
  constructor
  · intro stand
    split at stand <;> constructor <;> grind
  · intro stand
    obtain ⟨standLeft, standRight, specialLeft, specialTop, specialRight, specialBottom⟩ := stand
    split <;> grind

theorem settle_kept {fields : Fields type} (kept : Kept type fields) :
    (orderDecoder type).settle fields = fields := by
  cases type
  case fastIndex => exact congrArg (fun op => { fields with op }) (settleEdges_stand.mpr kept)
  case fastGlyph => exact congrArg (fun op => { fields with op }) (settleEdges_stand.mpr kept)
  all_goals rfl

theorem follows_init (type : OrderType) :
    Follows renderStateInit renderStateInit.currentOrderType renderStateInit.bounds
      (renderStateInit.fields type) :=
  ⟨rfl, rfl, Layout.same_refl sameField_refl _ _⟩

theorem decodeOrders_encoding {orders : List (Order type)} {encoded : List Bytes}
    (encoding : Encoding type current edges previous orders encoded)
    (kept : ∀ order ∈ orders.dropLast, Kept type order.fields)
    (follows : Follows state current edges previous) :
    decodeOrders orders.length state encoded.flatten =
      ((renderOrders orders).1.zip (encoded.map List.length), (renderOrders orders).2) := by
  induction encoding generalizing state with
  | nil => rfl
  | @cons current edges previous order orders rest code spells others ih =>
    rw [List.length_cons, List.flatten_cons, decodeOrders, renderOrders]
    cases decode_spells follows spells rest.flatten with
    | inl failed =>
      obtain ⟨stop, orderFails, decodeFails⟩ := failed
      rw [orderFails, decodeFails]
      rfl
    | inr done =>
      obtain ⟨op, fields, next, orderDone, decodeDone, nextFollows⟩ := done
      rw [orderDone, decodeDone]
      dsimp only
      rw [List.drop_left]
      have went : decodeOrders orders.length next rest.flatten =
          ((renderOrders orders).1.zip (rest.map List.length), (renderOrders orders).2) := by
        cases orders with
        | nil =>
          cases others
          rfl
        | cons second orders =>
          have stays := settle_kept (kept order List.mem_cons_self)
          rw [stays] at nextFollows
          exact ih (fun order held => kept order (.tail _ held)) nextFollows
      rw [went]
      rfl

theorem glyph_back_spelled (glyph : GlyphFields) {left : Int} {bytes : Bytes}
    (sent : CoordSent delta glyph.back.left left bytes) :
    (orderDecoder .fastIndex).layout.Coded (FieldSpelled 0x10 delta) glyph
      { glyph with back := { glyph.back with left } } bytes := by
  simp only [orderDecoder, decodeFastGlyphCommon, Layout.Coded, FieldSpelled, edgesLayout]
  refine ⟨[], _, rfl, .out rfl ⟨⟩, [], _, rfl, .out rfl ⟨⟩, [], _, rfl, .out rfl ⟨⟩, [], _, rfl,
    .out rfl ⟨⟩, bytes, [], (List.append_nil _).symm, ?_, [], _, rfl, ?_, [], _, rfl,
    .out rfl ⟨⟩, [], _, rfl, .out rfl ⟨⟩, .out rfl ⟨⟩⟩
  · exact ⟨bytes, [], (List.append_nil _).symm, .sent (by decide) sent, [], _, rfl, .out rfl ⟨⟩, [],
      _, rfl, .out rfl ⟨⟩, .out rfl ⟨⟩⟩
  · exact ⟨[], _, rfl, .out rfl ⟨⟩, [], _, rfl, .out rfl ⟨⟩, [], _, rfl, .out rfl ⟨⟩, .out rfl ⟨⟩⟩

theorem glyph_edges_spelled (glyph : GlyphFields) {left opLeft : Int} {bytes opBytes : Bytes}
    (sent : CoordSent delta glyph.back.left left bytes)
    (opSent : CoordSent delta glyph.op.left opLeft opBytes) :
    (orderDecoder .fastIndex).layout.Coded (FieldSpelled 0x110 delta) glyph
      { glyph with back := { glyph.back with left }, op := { glyph.op with left := opLeft } }
      (bytes ++ opBytes) := by
  simp only [orderDecoder, decodeFastGlyphCommon, Layout.Coded, FieldSpelled, edgesLayout]
  refine ⟨[], _, rfl, .out rfl ⟨⟩, [], _, rfl, .out rfl ⟨⟩, [], _, rfl, .out rfl ⟨⟩, [], _, rfl,
    .out rfl ⟨⟩, bytes, opBytes, rfl, ?_, opBytes, [], (List.append_nil _).symm, ?_, [], _, rfl,
    .out rfl ⟨⟩, [], _, rfl, .out rfl ⟨⟩, .out rfl ⟨⟩⟩
  · exact ⟨bytes, [], (List.append_nil _).symm, .sent (by decide) sent, [], _, rfl, .out rfl ⟨⟩, [],
      _, rfl, .out rfl ⟨⟩, .out rfl ⟨⟩⟩
  · exact ⟨opBytes, [], (List.append_nil _).symm, .sent (by decide) opSent, [], _, rfl,
      .out rfl ⟨⟩, [], _, rfl, .out rfl ⟨⟩, .out rfl ⟨⟩⟩

/-- Two encodings of one sequence are decoded to the same operations, those of the orders, and each
    call takes the bytes of its order, if every order but the last is kept as it was sent. -/
theorem encodings_mean_the_same (type : OrderType) (orders : List (Order type))
    (kept : ∀ order ∈ orders.dropLast, Kept type order.fields) {first second : List Bytes}
    (encodesFirst : EncodingOf type orders first) (encodesSecond : EncodingOf type orders second) :
    decodeOrders orders.length renderStateInit first.flatten =
        ((renderOrders orders).1.zip (first.map List.length), (renderOrders orders).2) ∧
      decodeOrders orders.length renderStateInit second.flatten =
        ((renderOrders orders).1.zip (second.map List.length), (renderOrders orders).2) := by
  constructor
  · exact decodeOrders_encoding encodesFirst kept (follows_init type)
  · exact decodeOrders_encoding encodesSecond kept (follows_init type)

/-- Two glyphs whose opaque rectangle has a left edge of its own. The second is sent whole, and then
    as a delta with the edge left out. -/
theorem encodings_mean_the_same_glyphs :
    let orders : List (Order .fastIndex) :=
      [⟨{ back := { left := 5 }, op := { left := 7 } }, none⟩,
        ⟨{ back := { left := 9 }, op := { left := 7 } }, none⟩]
    decodeOrders 2 renderStateInit
        [0x09, 0x13, 0x10, 0x01, 5, 0, 7, 0, 0x01, 0x10, 0x01, 9, 0, 7, 0] =
      ((renderOrders orders).1.zip [8, 7], none) ∧
    decodeOrders 2 renderStateInit [0x09, 0x13, 0x10, 0x01, 5, 0, 7, 0, 0x11, 0x10, 0x00, 4] =
      ((renderOrders orders).1.zip [8, 4], none) := by
  intro orders
  have whole (previous : Int) {value : Int} (fits : IsCoord value) :
      CoordSent false previous value (coordBytes value) := ⟨fits, rfl⟩
  have five : IsCoord 5 := by unfold IsCoord; decide
  have seven : IsCoord 7 := by unfold IsCoord; decide
  have nine : IsCoord 9 := by unfold IsCoord; decide
  have kept : ∀ order ∈ orders.dropLast, Kept .fastIndex order.fields := by
    intro order held
    cases List.mem_singleton.mp held
    constructor <;> decide
  have head : (⟨0x09, [0x13], 0x110, [], coordBytes 5 ++ coordBytes 7⟩ : OrderCode).Spells
      renderStateInit.currentOrderType renderStateInit.bounds (renderStateInit.fields .fastIndex)
      ⟨{ back := { left := 5 }, op := { left := 7 } }, none⟩ :=
    ⟨by decide, by decide, by decide, by decide,
      glyph_edges_spelled {} (whole _ five) (whole _ seven)⟩
  have first : EncodingOf .fastIndex orders
      [[0x09, 0x13, 0x10, 0x01, 5, 0, 7, 0], [0x01, 0x10, 0x01, 9, 0, 7, 0]] := by
    apply Encoding.cons _ head
    apply Encoding.cons ⟨0x01, [], 0x110, [], coordBytes 9 ++ coordBytes 7⟩ _ Encoding.nil
    exact ⟨by decide, by decide, by decide, by decide,
      glyph_edges_spelled _ (whole _ nine) (whole _ seven)⟩
  have second : EncodingOf .fastIndex orders
      [[0x09, 0x13, 0x10, 0x01, 5, 0, 7, 0], [0x11, 0x10, 0x00, 4]] := by
    apply Encoding.cons _ head
    apply Encoding.cons ⟨0x11, [], 0x10, [], [deltaByte 4]⟩ _ Encoding.nil
    exact ⟨by decide, by decide, by decide, by decide,
      glyph_back_spelled _ ⟨nine, by decide, by decide, rfl⟩⟩
  exact encodings_mean_the_same .fastIndex orders kept first second

/-- Two glyphs in a row whose opaque rectangle takes its left edge from the background. -/
def movedGlyphs : List (Order .fastIndex) :=
  [⟨{ back := { left := 5 } }, none⟩, ⟨{ back := { left := 9 } }, none⟩]

/-- The second glyph is drawn at the background of the first if the edge, which is zero in both, is
    left out, and at its own if it is sent. -/
theorem edge_left_out_is_stale :
    ∃ first second : List Bytes, EncodingOf .fastIndex movedGlyphs first ∧
      EncodingOf .fastIndex movedGlyphs second ∧
      (decodeOrders 2 renderStateInit first.flatten).1.map (·.1.rect.x) = [5, 5] ∧
      (decodeOrders 2 renderStateInit second.flatten).1.map (·.1.rect.x) = [5, 9] := by
  have five : CoordSent false 0 5 (coordBytes 5) := by unfold CoordSent IsCoord; decide
  have nine : CoordSent false 5 9 (coordBytes 9) := by unfold CoordSent IsCoord; decide
  have zero : CoordSent false 0 0 (coordBytes 0) := by unfold CoordSent IsCoord; decide
  refine ⟨[[0x09, 0x13, 0x10, 0x00, 5, 0], [0x01, 0x10, 0x00, 9, 0]],
    [[0x09, 0x13, 0x10, 0x00, 5, 0], [0x01, 0x10, 0x01, 9, 0, 0, 0]], ?_, ?_, by decide +kernel,
    by decide +kernel⟩
  · apply Encoding.cons ⟨0x09, [0x13], 0x10, [], coordBytes 5⟩
    · exact ⟨by decide, by decide, by decide, by decide, glyph_back_spelled {} five⟩
    · apply Encoding.cons ⟨0x01, [], 0x10, [], coordBytes 9⟩ _ Encoding.nil
      exact ⟨by decide, by decide, by decide, by decide, glyph_back_spelled _ nine⟩
  · apply Encoding.cons ⟨0x09, [0x13], 0x10, [], coordBytes 5⟩
    · exact ⟨by decide, by decide, by decide, by decide, glyph_back_spelled {} five⟩
    · apply Encoding.cons ⟨0x01, [], 0x110, [], coordBytes 9 ++ coordBytes 0⟩ _ Encoding.nil
      exact ⟨by decide, by decide, by decide, by decide, glyph_edges_spelled _ nine zero⟩

end LibRdp.Graphics
