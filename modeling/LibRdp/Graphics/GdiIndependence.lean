import LibRdp.Graphics.GdiRender
import LibRdp.Machine.Purge

/-! # Which order types share state

The fields that an order leaves out are those of the last order of its type, unless another
type writes to the same fields: both polygon orders, both ellipse orders and all glyph orders
share theirs, and the brush of PATBLT is that of POLYGON_CB and ELLIPSE_CB too. Orders of all
other types do not see each other.
-/

namespace LibRdp.Graphics

open Coding Machine

/-- An order that is decoded gives an operation; one that is not leaves the state as it is. -/
def decodeOrder (state : RenderState) (data : Bytes) : Option (RenderOp × RenderState) :=
  match decodePrimaryRenderOrder state data with
  | .error _ => none
  | .ok (op, _, next) => some (op, next)

def plain : Bytes → Bool
  | control :: _ :: _ => control &&& tsTypeChange != 0 && control &&& tsBounds == 0
  | _ => false

def isOf (type : OrderType) (op : RenderOp) : Bool := op.orderType == type

/-- Deleting the orders of type `other` that are decoded does not change what is decoded from the
    orders of `type`. -/
def Independent (type other : OrderType) : Prop :=
  ∀ orders : List Bytes, (∀ data ∈ orders, plain data) →
    (outputs decodeOrder renderStateInit
        (purge decodeOrder (isOf other) renderStateInit orders)).filter (isOf type) =
      (outputs decodeOrder renderStateInit orders).filter (isOf type)

def OrderType.owner : OrderType → OrderType
  | .polygonCb => .polygonSc
  | .ellipseCb => .ellipseSc
  | .fastIndex => .glyphIndex
  | .fastGlyph => .glyphIndex
  | type => type

def OrderType.usesBrush : OrderType → Bool
  | .patblt | .polygonCb | .ellipseCb => true
  | _ => false

def OrderType.reachesBrush (type : OrderType) : Bool :=
  [OrderType.patblt, .polygonCb, .ellipseCb].any (·.owner == type.owner)

/-- Orders of type `other` may change what orders of `type` draw. They do so through shared fields
    and through the brush; the polygons and ellipses without a brush do so because those with one
    are decoded or not as the shared fields have it. -/
def Influences (other type : OrderType) : Bool :=
  other.owner == type.owner || (other.reachesBrush && type.usesBrush)

def Core : OrderType → Type
  | .patblt => BltFields
  | .polygonCb => PolygonFields
  | .ellipseCb => EllipseFields
  | type => Fields type

def core : (type : OrderType) → Fields type → Core type
  | .patblt, fields => fields.shape
  | .polygonCb, fields => fields.shape
  | .ellipseCb, fields => fields.shape
  | .dstblt, fields => fields
  | .scrblt, fields => fields
  | .drawNinegrid, fields => fields
  | .multiDrawNinegrid, fields => fields
  | .lineto, fields => fields
  | .opaqueRect, fields => fields
  | .saveBitmap, fields => fields
  | .memblt, fields => fields
  | .mem3blt, fields => fields
  | .multiDstblt, fields => fields
  | .multiPatblt, fields => fields
  | .multiScrblt, fields => fields
  | .multiOpaqueRect, fields => fields
  | .fastIndex, fields => fields
  | .polygonSc, fields => fields
  | .polyline, fields => fields
  | .fastGlyph, fields => fields
  | .ellipseSc, fields => fields
  | .glyphIndex, fields => fields

def Alike (type : OrderType) (a b : Fields type) : Prop := core type a = core type b

/-- Two states agree on all that orders of type `other` cannot change. -/
structure SameBut (other : OrderType) (s t : RenderState) : Prop where
  fields : ∀ type : OrderType, type.owner ≠ other.owner → Alike type (s.fields type) (t.fields type)
  brush : other.reachesBrush = false → s.patBrush = t.patBrush

variable {type other : OrderType} {s t state : RenderState} {flags : Nat} {a b : Fields type}
  {control : UInt8} {data stream : Bytes}

theorem Alike.refl (fields : Fields type) : Alike type fields fields := rfl

theorem SameBut.refl (state : RenderState) : SameBut other state state :=
  ⟨fun _ _ => rfl, fun _ => rfl⟩

theorem SameBut.symm (same : SameBut other s t) : SameBut other t s :=
  ⟨fun type apart => (same.fields type apart).symm, fun without => (same.brush without).symm⟩

theorem SameBut.trans {u : RenderState} (first : SameBut other s t) (second : SameBut other t u) :
    SameBut other s u :=
  ⟨fun type apart => (first.fields type apart).trans (second.fields type apart),
    fun without => (first.brush without).trans (second.brush without)⟩

theorem fields_after_frame (state : RenderState) (apart : type.owner ≠ other.owner)
    (bounds : RenderEdges) (fields : Fields other) :
    Alike type ((state.after other bounds fields).fields type) (state.fields type) := by
  cases other <;> cases type <;> first | exact absurd rfl apart | rfl

theorem brush_after_frame (state : RenderState) (without : other.usesBrush = false)
    (bounds : RenderEdges) (fields : Fields other) :
    (state.after other bounds fields).patBrush = state.patBrush := by
  cases other <;> first | rfl | cases without

theorem reachesBrush_of_owner (shared : type.owner = other.owner)
    (without : other.reachesBrush = false) : type.usesBrush = false := by
  cases type <;> first | rfl | skip
  all_goals
    rw [OrderType.reachesBrush, ← shared] at without
    cases without

theorem sameBut_after (state : RenderState) (shared : type.owner = other.owner)
    (bounds : RenderEdges) (fields : Fields type) :
    SameBut other state (state.after type bounds fields) := by
  constructor
  · intro seen apart
    rw [← shared] at apart
    exact (fields_after_frame state apart bounds fields).symm
  · intro without
    exact (brush_after_frame state (reachesBrush_of_owner shared without) bounds fields).symm

theorem fields_after_alike {a b : Fields other} (orders : Alike other a b)
    (states : Alike type (s.fields type) (t.fields type)) (sBounds tBounds : RenderEdges) :
    Alike type ((s.after other sBounds a).fields type) ((t.after other tBounds b).fields type) := by
  by_cases apart : type.owner ≠ other.owner
  case pos =>
    exact (fields_after_frame s apart sBounds a).trans
      (states.trans (fields_after_frame t apart tBounds b).symm)
  case neg =>
    rw [Decidable.not_not] at apart
    cases other <;> cases type <;> first | exact absurd apart (by decide) | exact orders | skip
    case polygonSc.polygonCb => exact congrArg PolygonScFields.polygon orders
    case polygonCb.polygonSc =>
      exact congrArg₂ PolygonScFields.mk orders (congrArg PolygonScFields.color states)
    case ellipseSc.ellipseCb => exact congrArg EllipseScFields.ellipse orders
    case ellipseCb.ellipseSc =>
      exact congrArg₂ EllipseScFields.mk orders (congrArg EllipseScFields.color states)
    case glyphIndex.fastIndex => exact congrArg GlyphIndexFields.glyph orders
    case glyphIndex.fastGlyph => exact congrArg GlyphIndexFields.glyph orders
    case fastIndex.glyphIndex =>
      exact congrArg₂ GlyphIndexFields.mk orders (congrArg GlyphIndexFields.isOpaque states)
    case fastGlyph.glyphIndex =>
      exact congrArg₂ GlyphIndexFields.mk orders (congrArg GlyphIndexFields.isOpaque states)

theorem brush_after_eq (fields : Fields other) (states : s.patBrush = t.patBrush)
    (sBounds tBounds : RenderEdges) :
    (s.after other sBounds fields).patBrush = (t.after other tBounds fields).patBrush := by
  cases other <;> first | exact states | rfl

theorem fields_eq (states : Alike type (s.fields type) (t.fields type))
    (brush : type.usesBrush = true → s.patBrush = t.patBrush) : s.fields type = t.fields type := by
  cases type <;> first | exact states | exact congrArg₂ Brushed.mk states (brush rfl)

theorem readSent_blind {mask : Nat} {read : α → Bytes → Attempt (α × Bytes)} (blind : Blind read) :
    Blind (fun old stream => readSent flags mask old stream (read old)) := by
  intro a b stream
  unfold readSent
  split
  · exact .done rfl
  · exact blind a b stream

theorem blind_const (read : Bytes → Attempt (α × Bytes)) : Blind (fun _ stream => read stream) :=
  fun _ _ _ => .of_eq rfl fun _ => rfl

theorem readCoord_blind (delta : Bool) : Blind (readCoord delta) := by
  intro a b stream
  cases delta with
  | false => exact .of_eq rfl fun _ => rfl
  | true =>
    apply (Both.of_eq (R := Eq) rfl fun _ => rfl).bind
    intro x y same
    cases same
    exact .done rfl

theorem brushLayout_blind (flags mask : Nat) (delta : Bool) :
    Blind ((brushLayout mask).read (readField flags delta)) := by
  apply Layout.read_blind
  refine ⟨?_, ?_, ?_, ?_, ?_, ?_, ?_⟩
  · exact readSent_blind (blind_const readColor)
  · exact readSent_blind (blind_const readColor)
  · exact readSent_blind (readCoord_blind delta)
  · exact readSent_blind (readCoord_blind delta)
  · exact readSent_blind (blind_const readU8)
  · exact readSent_blind (blind_const readU8)
  · exact readSent_blind (blind_const (readBytes · 7))

theorem brushedLayout_read {head : Layout RenderField α} {tail : Layout RenderField β}
    {make : α × β → γ} {parts : γ → α × β} {whole : ∀ a, parts (make a) = a} {mask : Nat}
    {delta : Bool} {a b : Brushed γ} (same : a.shape = b.shape) (stream : Bytes) :
    Both (fun x y => x.1.shape = y.1.shape ∧ x.2 = y.2)
      ((brushedLayout head mask tail make parts whole).read (readField flags delta) a stream)
      ((brushedLayout head mask tail make parts whole).read (readField flags delta) b stream) := by
  simp only [brushedLayout, Layout.read, same]
  apply Both.bind (R := fun x y => x.1.1 = y.1.1 ∧ x.1.2.2 = y.1.2.2 ∧ x.2 = y.2)
  · apply (Both.of_eq (R := Eq) rfl fun _ => rfl).bind
    rintro ⟨front, stream⟩ _ rfl
    apply Both.bind (R := fun x y => x.1.2 = y.1.2 ∧ x.2 = y.2)
    · apply (brushLayout_blind flags mask delta a.brush b.brush stream).bind
      rintro ⟨brush, stream⟩ ⟨brush', _⟩ left
      cases left
      apply (Both.of_eq (R := Eq) rfl fun _ => rfl).bind
      rintro ⟨back, stream⟩ _ rfl
      exact .done ⟨rfl, rfl⟩
    · rintro ⟨⟨brush, back⟩, stream⟩ ⟨⟨brush', _⟩, _⟩ ⟨left, rest⟩
      cases left
      cases rest
      exact .done ⟨rfl, rfl, rfl⟩
  · rintro ⟨⟨front, brush, back⟩, stream⟩ ⟨⟨_, brush', _⟩, _⟩ ⟨left, right, rest⟩
    cases left
    cases right
    cases rest
    exact .done ⟨rfl, rfl⟩

theorem read_alike (alike : Alike type a b) (flags : Nat) (delta : Bool) (stream : Bytes) :
    Both (fun x y => Alike type x.1 y.1 ∧ x.2 = y.2)
      ((orderDecoder type).layout.read (readField flags delta) a stream)
      ((orderDecoder type).layout.read (readField flags delta) b stream) := by
  cases type
  case patblt =>
    simp only [orderDecoder, decodePatblt]
    exact brushedLayout_read alike stream
  case polygonCb =>
    simp only [orderDecoder, decodePolygonCb]
    exact brushedLayout_read alike stream
  case ellipseCb =>
    simp only [orderDecoder, decodeEllipseCb]
    exact brushedLayout_read alike stream
  all_goals
    cases alike
    exact .of_eq rfl fun _ => ⟨rfl, rfl⟩

theorem render_alike (alike : Alike type a b) (bounds : Option RenderEdges) :
    Both (fun op op' => op.kind = op'.kind ∧ op.rect = op'.rect)
      ((orderDecoder type).render bounds ((orderDecoder type).settle a))
      ((orderDecoder type).render bounds ((orderDecoder type).settle b)) := by
  cases type
  case patblt =>
    have shape : a.shape = b.shape := alike
    simp only [orderDecoder, decodePatblt, id_eq, shape]
    exact .done ⟨rfl, rfl⟩
  case polygonCb =>
    have shape : a.shape = b.shape := alike
    simp only [orderDecoder, decodePolygonCb, id_eq, shape]
    apply (Both.of_eq (R := Eq) rfl fun _ => rfl).bind
    rintro points _ rfl
    exact .done ⟨rfl, rfl⟩
  case ellipseCb =>
    have shape : a.shape = b.shape := alike
    simp only [orderDecoder, decodeEllipseCb, id_eq, shape]
    exact .done ⟨rfl, rfl⟩
  all_goals
    cases alike
    exact .of_eq rfl fun _ => ⟨rfl, rfl⟩

theorem settle_alike (alike : Alike type a b) :
    Alike type ((orderDecoder type).settle a) ((orderDecoder type).settle b) := by
  cases type
  case fastIndex => exact congrArg (orderDecoder .fastIndex).settle alike
  case fastGlyph => exact congrArg (orderDecoder .fastGlyph).settle alike
  all_goals exact alike

structure FinishAlike (type : OrderType) (x y : Fields type × RenderOp) : Prop where
  fields : Alike type x.1 y.1
  first : x.2.orderType = type
  second : y.2.orderType = type

theorem finishOrder_alike (alike : Alike type a b) (bounds : Option RenderEdges) :
    Both (FinishAlike type) (finishOrder type bounds a) (finishOrder type bounds b) := by
  unfold finishOrder
  apply (render_alike alike bounds).bind
  intro op op' same
  rw [same.1, same.2]
  split
  · exact .failed _
  · exact .done ⟨settle_alike alike, rfl, rfl⟩

structure BodyAlike (type : OrderType) (s t : RenderState)
    (x y : RenderOp × RenderState × Bytes) : Prop where
  first : x.1.orderType = type
  second : y.1.orderType = type
  states : ∃ a b : Fields type, Alike type a b ∧ (s.fields type = t.fields type → a = b) ∧
    x.2.1 = s.after type s.bounds a ∧ y.2.1 = t.after type t.bounds b
  ops : s.fields type = t.fields type → x.1 = y.1

theorem decodeOrderBody_alike (alike : Alike type (s.fields type) (t.fields type))
    (without : control &&& tsBounds = 0) (flags : Nat) (stream : Bytes) :
    Both (BodyAlike type s t) (decodeOrderBody s control type flags stream)
      (decodeOrderBody t control type flags stream) := by
  have bounds (state : RenderState) :
      readOrderBounds control state stream = .ok (state.bounds, stream) := by
    rw [readOrderBounds, if_neg (not_not_intro without)]
    rfl
  simp only [decodeOrderBody, bounds, ok_bind, if_neg (not_not_intro without)]
  by_cases equal : s.fields type = t.fields type
  case pos =>
    rw [equal]
    apply (Both.of_eq (R := Eq) rfl fun _ => rfl).bind
    rintro ⟨fields, stream⟩ _ rfl
    apply (finishOrder_alike (Alike.refl fields) none).diagonal.bind
    rintro ⟨fields, op⟩ _ ⟨rfl, done⟩
    exact .done ⟨done.first, done.first, ⟨fields, fields, rfl, fun _ => rfl, rfl, rfl⟩,
      fun _ => rfl⟩
  case neg =>
    apply (read_alike alike flags _ stream).bind
    rintro ⟨a, stream⟩ ⟨b, _⟩ ⟨same, left⟩
    cases left
    apply (finishOrder_alike same none).bind
    rintro ⟨a, op⟩ ⟨b, op'⟩ done
    exact .done ⟨done.first, done.second,
      ⟨a, b, done.fields, fun equals => absurd equals equal, rfl, rfl⟩,
      fun equals => absurd equals equal⟩

theorem readOrderHeader_plain (shape : plain data) (s t : RenderState) :
    readOrderHeader s data = readOrderHeader t data := by
  match data, shape with
  | control :: code :: rest, shape =>
    have typed : control &&& tsTypeChange ≠ 0 := by
      simp only [plain, Bool.and_eq_true, bne_iff_ne] at shape
      exact shape.1
    simp only [readOrderHeader, readU8, ok_bind, readOrderType, if_neg typed]

theorem readOrderHeader_control (shape : plain data)
    (read : readOrderHeader state data = .ok ((control, type, flags), stream)) :
    control &&& tsBounds = 0 := by
  match data, shape with
  | first :: code :: rest, shape =>
    simp only [plain, Bool.and_eq_true, beq_iff_eq] at shape
    simp only [readOrderHeader, readU8, ok_bind] at read
    split at read
    · cases read
    obtain ⟨x, -, read⟩ := bind_eq_ok.mp read
    split at read
    · cases read
    obtain ⟨y, -, read⟩ := bind_eq_ok.mp read
    cases read
    exact shape.2

def bodyResult (result : Attempt (RenderOp × RenderState × Bytes)) :
    Option (RenderOp × RenderState) :=
  match result with
  | .error _ => none
  | .ok (op, next, _) => some (op, next)

theorem decodeOrder_body
    (header : readOrderHeader state data = .ok ((control, type, flags), stream)) :
    decodeOrder state data = bodyResult (decodeOrderBody state control type flags stream) := by
  rw [decodeOrder, decodePrimaryRenderOrder, header, ok_bind]
  dsimp only
  cases decodeOrderBody state control type flags stream <;> rfl

theorem decodeOrder_refused {stop : Stop} (header : readOrderHeader state data = .error stop) :
    decodeOrder state data = none := by
  rw [decodeOrder, decodePrimaryRenderOrder, header]
  rfl

theorem decodeOrderBody_effect {next : RenderState} {rest : Bytes} {op : RenderOp}
    (decoded : decodeOrderBody state control type flags stream = .ok (op, next, rest)) :
    op.orderType = type ∧ ∃ bounds fields, next = state.after type bounds fields := by
  simp only [decodeOrderBody, bind_eq_ok] at decoded
  obtain ⟨⟨bounds, stream⟩, -, ⟨fields, stream⟩, -, ⟨settled, drawn⟩, finished, made⟩ := decoded
  have done := finishOrder_alike (Alike.refl fields)
    (if control &&& tsBounds ≠ 0 then some bounds else none)
  rw [finished] at done
  cases made
  cases done with
  | done both => exact ⟨both.first, bounds, settled, rfl⟩

theorem step_effect (header : readOrderHeader state data = .ok ((control, type, flags), stream)) :
    (stateAfter decodeOrder state data = state ∧ outputAt decodeOrder state data = []) ∨
    ∃ op bounds fields, stateAfter decodeOrder state data = state.after type bounds fields ∧
      outputAt decodeOrder state data = [op] ∧ op.orderType = type := by
  rw [stateAfter, outputAt, decodeOrder_body header]
  cases decoded : decodeOrderBody state control type flags stream with
  | error stop => exact .inl ⟨rfl, rfl⟩
  | ok result =>
    obtain ⟨op, next, rest⟩ := result
    obtain ⟨typed, bounds, fields, rfl⟩ := decodeOrderBody_effect decoded
    exact .inr ⟨op, bounds, fields, rfl, rfl, typed⟩

theorem step_shared {seen : OrderType} (shared : type.owner = other.owner)
    (header : readOrderHeader state data = .ok ((control, type, flags), stream))
    (apart : type ≠ seen) :
    SameBut other state (stateAfter decodeOrder state data) ∧
      (outputAt decodeOrder state data).filter (isOf seen) = [] := by
  cases step_effect header with
  | inl stays =>
    rw [stays.1, stays.2]
    exact ⟨.refl state, rfl⟩
  | inr drawn =>
    obtain ⟨op, bounds, fields, next, output, typed⟩ := drawn
    rw [next, output]
    refine ⟨sameBut_after state shared bounds fields, ?_⟩
    apply List.filter_eq_nil_iff.mpr
    intro drawn held
    cases List.mem_singleton.mp held
    simp only [isOf, typed, beq_iff_eq]
    exact apart

theorem step_apart (same : SameBut other s t) (apart : type.owner ≠ other.owner)
    (shape : plain data) (header : readOrderHeader s data = .ok ((control, type, flags), stream)) :
    SameBut other (stateAfter decodeOrder s data) (stateAfter decodeOrder t data) ∧
      ∀ seen, (type = seen → other.reachesBrush = true → type.usesBrush = false) →
        (outputAt decodeOrder s data).filter (isOf seen) =
          (outputAt decodeOrder t data).filter (isOf seen) := by
  have without := readOrderHeader_control shape header
  have alike := same.fields type apart
  have both := decodeOrderBody_alike alike without flags stream
  have equal (brush : other.reachesBrush = true → type.usesBrush = false) :
      s.fields type = t.fields type := by
    apply fields_eq alike
    intro uses
    apply same.brush
    cases reaches : other.reachesBrush with
    | false => rfl
    | true =>
      rw [brush reaches] at uses
      cases uses
  rw [stateAfter, stateAfter, outputAt, outputAt, decodeOrder_body header,
    decodeOrder_body ((readOrderHeader_plain shape t s).trans header)]
  generalize decodeOrderBody s control type flags stream = x at both ⊢
  generalize decodeOrderBody t control type flags stream = y at both ⊢
  cases both with
  | failed error => exact ⟨same, fun _ _ => rfl⟩
  | @done x y related =>
    obtain ⟨op, next, rest⟩ := x
    obtain ⟨op', next', rest'⟩ := y
    obtain ⟨first, second, ⟨a, b, orders, equals, rfl, rfl⟩, ops⟩ := related
    refine ⟨⟨?_, ?_⟩, ?_⟩
    · intro seen seenApart
      exact fields_after_alike orders (same.fields seen seenApart) s.bounds t.bounds
    · intro unreached
      cases equals (equal fun reaches => absurd reaches (by rw [unreached]; decide))
      exact brush_after_eq a (same.brush unreached) s.bounds t.bounds
    · intro seen brush
      by_cases drawn : type = seen
      case pos =>
        have op_eq := ops (equal (brush drawn))
        dsimp only at op_eq
        simp only [bodyResult, op_eq]
      case neg =>
        have unseen (op : RenderOp) (typed : op.orderType = type) : isOf seen op = false := by
          simp only [isOf, typed, beq_eq_false_iff_ne]
          exact drawn
        simp only [bodyResult, List.filter, unseen op first, unseen op' second]

theorem unwinding_of_apart (different : type ≠ other) (apart : Influences other type = false) :
    Unwinding decodeOrder (fun data => plain data = true) (isOf other) (isOf type)
      (SameBut other) := by
  simp only [Influences, Bool.or_eq_false_iff, beq_eq_false_iff_ne, Bool.and_eq_false_iff] at apart
  constructor
  · intro data state run shape same decoded
    cases header : readOrderHeader state data with
    | error stop =>
      rw [outputAt, decodeOrder_refused header] at decoded
      cases decoded
    | ok read =>
      obtain ⟨⟨control, drawn, flags⟩, stream⟩ := read
      have drew : drawn = other := by
        cases step_effect header with
        | inl stays =>
          rw [stays.2] at decoded
          cases decoded
        | inr effect =>
          obtain ⟨op, bounds, fields, -, output, typed⟩ := effect
          rw [output, List.any_cons, List.any_nil, Bool.or_false, isOf, typed,
            beq_iff_eq] at decoded
          exact decoded
      cases drew
      obtain ⟨next, unseen⟩ := step_shared rfl header different.symm
      exact ⟨next.symm.trans same, unseen⟩
  · intro data state run shape same
    cases header : readOrderHeader state data with
    | error stop =>
      have other := (readOrderHeader_plain shape run state).trans header
      rw [stateAfter, stateAfter, outputAt, outputAt, decodeOrder_refused header,
        decodeOrder_refused other]
      exact ⟨same, rfl⟩
    | ok read =>
      obtain ⟨⟨control, drawn, flags⟩, stream⟩ := read
      by_cases shared : drawn.owner = other.owner
      case pos =>
        have unseen : drawn ≠ type := by
          rintro rfl
          exact apart.1 shared.symm
        obtain ⟨next, nothing⟩ := step_shared shared header unseen
        obtain ⟨next', nothing'⟩ := step_shared shared
          ((readOrderHeader_plain shape run state).trans header) unseen
        exact ⟨next.symm.trans (same.trans next'), nothing.trans nothing'.symm⟩
      case neg =>
        obtain ⟨next, shown⟩ := step_apart same shared shape header
        refine ⟨next, shown type ?_⟩
        rintro rfl reaches
        exact apart.2.resolve_left (by rw [reaches]; decide)

def probe (type : OrderType) : Bytes :=
  [(0x09 : UInt8) ||| (UInt8.ofNat type.fieldBytes <<< 6), type.code]

/-- Orders of a type, and of one with a brush where the type has none, that leave other fields and
    another brush in the state. -/
def disturb : OrderType → List Bytes
  | .patblt => [[0x09, 0x01, 0x20, 0x00, 1, 1, 1]]
  | .polygonSc => [[0x09, 0x14, 0x21, 7, 0, 1], [0x09, 0x15, 0x10, 0x10, 1, 1, 1, 1, 0xff]]
  | .polygonCb => [[0x09, 0x15, 0x11, 0x00, 7, 0, 1, 1, 1]]
  | .ellipseSc => [[0x09, 0x19, 0x04, 9, 0], [0x09, 0x1a, 0x41, 0x00, 5, 0, 1, 1, 1]]
  | .ellipseCb => [[0x09, 0x1a, 0x44, 0x00, 9, 0, 1, 1, 1]]
  | .fastIndex => [[0x09, 0x13, 0x01, 0x00, 1]]
  | .fastGlyph => [[0x09, 0x18, 0x01, 0x00, 1]]
  | .glyphIndex => [[0x09, 0x1b, 0x01, 0x00, 0x00, 1]]
  | _ => []

theorem mem_orderTypes (type : OrderType) : type ∈ orderTypes := by
  cases type <;> decide

theorem disturb_shows : ∀ other ∈ orderTypes, ∀ type ∈ orderTypes, type ≠ other →
    Influences other type = true →
    (∀ data ∈ disturb other ++ [probe type], plain data) ∧
      (outputs decodeOrder renderStateInit (purge decodeOrder (isOf other) renderStateInit
          (disturb other ++ [probe type]))).filter (isOf type) ≠
        (outputs decodeOrder renderStateInit (disturb other ++ [probe type])).filter (isOf type) := by
  decide +kernel

/-- Orders of different types keep to themselves exactly if neither fields nor the brush lead from the
    one to the other. -/
theorem independent_iff {type other : OrderType} (different : type ≠ other) :
    Independent type other ↔ Influences other type = false := by
  constructor
  · intro independent
    cases influences : Influences other type with
    | false => rfl
    | true =>
        obtain ⟨shapes, shows⟩ := disturb_shows other (mem_orderTypes other) type
          (mem_orderTypes type) different influences
        exact absurd (independent _ shapes) shows
  · intro apart orders shapes
    exact (unwinding_of_apart different apart).purge shapes (SameBut.refl renderStateInit)

/-- PATBLT leaves DSTBLT alone, but not ELLIPSE_CB. -/
theorem independent_iff_examples :
    Independent .dstblt .patblt ∧ ¬ Independent .ellipseCb .patblt := by
  refine ⟨(independent_iff (by decide)).mpr (by decide), fun independent => ?_⟩
  have apart := (independent_iff (by decide)).mp independent
  exact absurd apart (by decide)

/-- The colour that PATBLT sends shows behind a polygon that leaves its own out. -/
theorem patblt_shows_in_polygon :
    ¬ ∀ type other : OrderType, type ≠ other → Independent type other := by
  intro all
  have independent := all .polygonCb .patblt (by decide)
    [[0x09, 0x01, 0x20, 0x00, 1, 1, 1], [0x89, 0x15]] (by decide +kernel)
  revert independent
  decide +kernel

end LibRdp.Graphics
