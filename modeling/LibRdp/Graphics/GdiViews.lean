import LibRdp.Graphics.GdiRender
import LibRdp.Machine.Run

/-! # Where the bytes of a glyph order stand

A glyph order does not copy its data: the operation and the state point into the buffer that
the order came in. The state outlives the buffer, so an order that leaves its data out points
to where the data of an earlier order stood. Here the decoder runs with its pointers: a view is
a place in one of the buffers, and every call has a buffer of its own.
-/

namespace LibRdp.Graphics

open Coding Machine

structure View where
  buffer : Nat := 0
  offset : Nat := 0
  length : Nat := 0
  deriving Repr, DecidableEq

def View.Within (view : View) (buffer size : Nat) : Prop :=
  view.length = 0 ∨ view.buffer = buffer ∧ view.offset + view.length ≤ size

def View.Shows (view : View) (buffers : List Bytes) (bytes : Bytes) : Prop :=
  view.length = bytes.length ∧ (view.length ≠ 0 → ∃ buffer, buffers[view.buffer]? = some buffer ∧
    (buffer.drop view.offset).take view.length = bytes)

/-- `glyph_data` and `inline_glyph_bitmap` of `rdp_gdi_render_op`. -/
structure OpViews where
  glyphData : View := {}
  inlineGlyphBitmap : View := {}
  deriving Repr, DecidableEq

def OpViews.Within (views : OpViews) (buffer size : Nat) : Prop :=
  views.glyphData.Within buffer size ∧ views.inlineGlyphBitmap.Within buffer size

structure ViewState where
  state : RenderState := renderStateInit
  glyphData : View := {}
  calls : Nat := 0

def OrderType.glyphDataMask : OrderType → Option Nat
  | .glyphIndex => some 0x200000
  | .fastIndex | .fastGlyph => some 0x4000
  | _ => none

def sendsGlyphData (type : OrderType) (flags : Nat) : Bool :=
  type.glyphDataMask.any fun mask => flags &&& mask != 0

/-- `rdp_gdi_render_read_glyph_index_data`: what is sent stands before what is left of the
    buffer. -/
def glyphDataView (tracked : ViewState) (type : OrderType) (flags : Nat) (data rest : Bytes)
    (length : Nat) : View :=
  if sendsGlyphData type flags then
    { buffer := tracked.calls, offset := data.length - rest.length - length, length }
  else tracked.glyphData

/-- What an operation points to. An inline glyph is the end of the data, of which its first byte is
    left. -/
def opViews (type : OrderType) (view : View) (op : RenderOp) : OpViews :=
  if type.glyphDataMask.isNone then {}
  else
    { glyphData := { view with length := op.glyphData.length }
      inlineGlyphBitmap :=
        match op.inlineGlyph with
        | none => {}
        | some inlineGlyph =>
            { view with
              offset := view.offset + (view.length - inlineGlyph.bitmap.length)
              length := inlineGlyph.bitmap.length } }

/-- `rdp_gdi_decode_primary_render_order` with its pointers. -/
def decodeViews (tracked : ViewState) (data : Bytes) :
    Attempt ((RenderOp × OpViews) × Nat × ViewState) := do
  let ((control, type, flags), stream) ← readOrderHeader tracked.state data
  let (op, state, stream) ← decodeOrderBody tracked.state control type flags stream
  let view := glyphDataView tracked type flags data stream state.glyph.data.length
  pure ((op, opViews type view op), data.length - stream.length,
    { state, glyphData := view, calls := tracked.calls + 1 })

def viewStep (tracked : ViewState) (data : Bytes) :
    Exec (Option (RenderOp × OpViews) × ViewState) :=
  match decodeViews tracked data with
  | .ok (drawn, _, next) => .ok (some drawn, next)
  | .error _ => .ok (none, { tracked with calls := tracked.calls + 1 })

theorem readCoord_moves (delta : Bool) (value : Int) : Moves (readCoord delta value) := by
  unfold readCoord
  exact .ite (.bind readU8_moves fun _ => .pure _) (.bind readU16Le_moves fun _ => .pure _)

theorem readI16_moves : Moves readI16 := .bind readU16Le_moves fun word => .pure (int16 word)

theorem readColor_moves : Moves readColor :=
  .bind readU8_moves fun _ => .bind readU8_moves fun _ => .bind readU8_moves fun _ => .pure _

theorem readSent_moves {read : Bytes → Attempt (α × Bytes)} (moves : Moves read)
    (flags mask : Nat) (old : α) : Moves fun stream => readSent flags mask old stream read :=
  .ite (.pure old) moves

theorem blob_moves {read : Bytes → Attempt (β × Bytes)} (moves : Moves read) (size : β → Nat)
    (parse : Bytes → Attempt α) :
    Moves fun stream => read stream >>= fun r => readBytes r.2 (size r.1) >>= fun r =>
      parse r.1 >>= fun list => pure (list, r.2) := by
  refine .bind moves fun length => .bind (readBytes_moves (size length)) fun blob => ?_
  intro stream a rest parsed
  obtain ⟨list, made, parsed⟩ := bind_eq_ok.mp parsed
  cases parsed
  exact List.suffix_refl _

theorem readCounted_moves {readList : Nat → Bytes → Attempt (List α × Bytes)}
    (moves : ∀ count, Moves (readList count)) (flags countMask mask limit : Nat)
    (old : Counted α) : Moves (readCounted flags countMask mask limit readList old) := by
  unfold readCounted
  refine .bind (readSent_moves readU8_moves flags countMask old.count) fun count => ?_
  apply readSent_moves
  exact .ite (.error _) (.bind (moves _) fun _ => .pure _)

theorem readField_moves (flags : Nat) (delta : Bool) {α : Type} (field : RenderField α) (old : α) :
    Moves (readField flags delta field old) := by
  cases field with
  | coord mask => exact readSent_moves (readCoord_moves delta old) flags mask old
  | int16 mask => exact readSent_moves readI16_moves flags mask old
  | byte mask => exact readSent_moves readU8_moves flags mask old
  | word mask => exact readSent_moves readU16Le_moves flags mask old
  | dword mask => exact readSent_moves readU32Le_moves flags mask old
  | color mask => exact readSent_moves readColor_moves flags mask old
  | bytes mask length => exact readSent_moves (readBytes_moves length) flags mask old
  | twoBytes mask =>
    apply readSent_moves
    refine .bind readU8_moves fun first => ?_
    exact .bind readU8_moves fun second => .pure (first, second)
  | skipped mask length =>
    apply readSent_moves
    exact .bind (readBytes_moves length) fun _ => .pure ()
  | data mask =>
    exact readSent_moves (.bind readU8_moves fun length => readBytes_moves _) flags mask old
  | points countMask mask =>
    exact readCounted_moves (fun count => blob_moves readU8_moves _ _) flags countMask mask _ old
  | rects countMask mask =>
    exact readCounted_moves (fun count => blob_moves readU16Le_moves _ _) flags countMask mask _
      old

theorem readBoundsEdge_moves (flags absolute delta : UInt8) (value : Int) :
    Moves (readBoundsEdge flags absolute delta value) := by
  unfold readBoundsEdge
  exact .ite (.error _) (.ite (.bind readU16Le_moves fun _ => .pure _)
    (.ite (readCoord_moves true value) (.pure _)))

theorem readOrderBounds_moves (control : UInt8) (state : RenderState) :
    Moves (readOrderBounds control state) := by
  unfold readOrderBounds readBounds
  refine .ite (.ite (.pure _) (.bind readU8_moves fun flags => ?_)) (.pure _)
  exact .bind (readBoundsEdge_moves ..) fun _ => .bind (readBoundsEdge_moves ..) fun _ =>
    .bind (readBoundsEdge_moves ..) fun _ => .bind (readBoundsEdge_moves ..) fun _ => .pure _

theorem readFieldFlags_moves (count : Nat) : Moves (readFieldFlags count) := by
  induction count with
  | zero => exact .pure 0
  | succ count ih => exact .bind readU8_moves fun _ => .bind ih fun _ => .pure _

theorem readOrderType_moves (control : UInt8) (state : RenderState) :
    Moves (readOrderType control state) := by
  unfold readOrderType
  refine .ite (.pure _) (.bind readU8_moves fun code => ?_)
  simp only
  cases OrderType.ofCode code with
  | none => exact .error _
  | some type => exact .pure type

theorem readOrderHeader_moves (state : RenderState) : Moves (readOrderHeader state) := by
  unfold readOrderHeader
  refine .bind readU8_moves fun control => .ite (.error _) ?_
  refine .bind (readOrderType_moves control state) fun type => .ite (.error _) ?_
  exact .bind (readFieldFlags_moves _) fun flags => .pure _

theorem glyphIndex_ends :
    Layout.Ends (.data 0x200000) decodeGlyphIndex.layout fun fields => fields.glyph.data :=
  .record <| .both <| .both <| .both <| .both <| .both <| .both <| .both <| .both <| .both <| .both <|
    .both <| .both <| .both <| .both <| .both .one

theorem fastGlyph_ends (inlineGlyph : Bool) :
    Layout.Ends (.data 0x4000) (decodeFastGlyphCommon inlineGlyph).layout fun glyph => glyph.data :=
  .record <| .both <| .both <| .both <| .both <| .both <| .both <| .both <| .both .one

variable {stream : Bytes} {op : RenderOp} {type : OrderType}

variable {flags : Nat} {rest : Bytes} {state next : RenderState} {control : UInt8}

theorem readField_data {mask : Nat} {delta : Bool} {old new : Bytes}
    (read : readField flags delta (.data mask) old stream = .ok (new, rest)) :
    if flags &&& mask = 0 then new = old else ∃ front, stream = front ++ (new ++ rest) := by
  simp only [readField, readSent] at read
  split at read
  · rename_i unsent
    cases read
    rw [if_pos unsent]
  rename_i sent
  rw [if_neg sent]
  obtain ⟨⟨length, behind⟩, opened, taken⟩ := bind_eq_ok.mp read
  obtain ⟨front, isFront⟩ := readU8_moves opened
  simp only [readBytes] at taken
  split at taken
  · cases taken
  · cases taken
    exact ⟨front, by rw [List.take_append_drop, isFront]⟩

inductive TakesData (data : Bytes) (op : RenderOp) : Prop where
  | whole : op.inlineGlyph = none → op.glyphData = data → TakesData data op
  | split {inlineGlyph : InlineGlyph} : op.inlineGlyph = some inlineGlyph → data ≠ [] →
      op.glyphData = data.take 1 → inlineGlyph.bitmap <:+ data → TakesData data op

theorem read2ByteSigned_moves : Moves read2ByteSigned := by
  unfold read2ByteSigned
  exact .bind readU8_moves fun _ => .ite (.pure _) (.bind readU8_moves fun _ => .pure _)

theorem read2ByteUnsigned_moves : Moves read2ByteUnsigned := by
  unfold read2ByteUnsigned
  exact .bind readU8_moves fun _ => .ite (.pure _) (.bind readU8_moves fun _ => .pure _)

theorem decodeInlineGlyph_takes {drawn : RenderOp} (none' : op.inlineGlyph = none)
    (decoded : decodeInlineGlyph op = .ok drawn) : TakesData op.glyphData drawn := by
  unfold decodeInlineGlyph at decoded
  split at decoded
  · cases decoded
    exact .whole none' rfl
  rename_i long
  simp only [bind_eq_ok, refuse_else] at decoded
  obtain ⟨⟨cacheIndex, s₁⟩, read₁, ⟨x, s₂⟩, read₂, ⟨y, s₃⟩, read₃, ⟨width, s₄⟩, read₄,
    ⟨height, s₅⟩, read₅, length, -, -, decoded⟩ := decoded
  cases decoded
  have inside := (read2ByteUnsigned_moves read₅).trans <| (read2ByteUnsigned_moves read₄).trans <|
    (read2ByteSigned_moves read₃).trans <| (read2ByteSigned_moves read₂).trans <|
    readU8_moves read₁
  refine .split rfl ?_ rfl inside
  intro empty
  rw [empty] at long
  exact long (Nat.zero_le 1)

theorem finishOrder_ok {bounds : Option RenderEdges} {fields settled : Fields type}
    (finished : finishOrder type bounds fields = .ok (settled, op)) :
    settled = (orderDecoder type).settle fields ∧
      ∃ drawn, (orderDecoder type).render bounds settled = .ok drawn ∧
        op = { drawn with orderType := type, bounds } := by
  obtain ⟨drawn, rendered, finished⟩ := bind_eq_ok.mp finished
  split at finished
  · cases finished
  · cases finished
    exact ⟨rfl, drawn, rendered, rfl⟩

theorem decodeOrderBody_ok
    (decoded : decodeOrderBody state control type flags stream = .ok (op, next, rest)) :
    ∃ (start : Bytes) (bounds : RenderEdges) (sent : Option RenderEdges) (fields : Fields type)
      (drawn : RenderOp), start <:+ stream ∧
      (orderDecoder type).layout.read (readField flags (control &&& tsDeltaCoordinates != 0))
        (state.fields type) start = .ok (fields, rest) ∧
      (orderDecoder type).render sent ((orderDecoder type).settle fields) = .ok drawn ∧
      op = { drawn with orderType := type, bounds := sent } ∧
      next = state.after type bounds ((orderDecoder type).settle fields) := by
  obtain ⟨⟨bounds, start⟩, opened, decoded⟩ := bind_eq_ok.mp decoded
  obtain ⟨⟨fields, left⟩, read, decoded⟩ := bind_eq_ok.mp decoded
  obtain ⟨⟨settled, drawnOp⟩, finished, decoded⟩ := bind_eq_ok.mp decoded
  cases decoded
  obtain ⟨rfl, drawn, rendered, rfl⟩ := finishOrder_ok finished
  exact ⟨start, bounds, _, fields, drawn, readOrderBounds_moves control state opened, read, rendered,
    rfl, rfl⟩

theorem decodeOrderBody_glyph {mask : Nat} (draws : type.glyphDataMask = some mask)
    (decoded : decodeOrderBody state control type flags stream = .ok (op, next, rest)) :
    ∃ mid, mid <:+ stream ∧ readField flags (control &&& tsDeltaCoordinates != 0) (.data mask)
      state.glyph.data mid = .ok (next.glyph.data, rest) ∧ TakesData next.glyph.data op := by
  obtain ⟨start, bounds, sent, fields, drawn, inside, read, rendered, rfl, rfl⟩ :=
    decodeOrderBody_ok decoded
  cases type
  case glyphIndex =>
    cases draws
    obtain ⟨mid, after, found⟩ := glyphIndex_ends.read (readField_moves flags _) read
    cases rendered
    exact ⟨mid, after.trans inside, found, .whole rfl rfl⟩
  case fastIndex =>
    cases draws
    obtain ⟨mid, after, found⟩ := (fastGlyph_ends false).read (readField_moves flags _) read
    cases rendered
    exact ⟨mid, after.trans inside, found, .whole rfl rfl⟩
  case fastGlyph =>
    cases draws
    obtain ⟨mid, after, found⟩ := (fastGlyph_ends true).read (readField_moves flags _) read
    refine ⟨mid, after.trans inside, found, ?_⟩
    cases decodeInlineGlyph_takes rfl rendered with
    | whole none' same => exact .whole none' same
    | split one more first bitmap => exact .split one more first bitmap
  all_goals cases draws

theorem decodeOrderBody_plain (plain : type.glyphDataMask = none)
    (decoded : decodeOrderBody state control type flags stream = .ok (op, next, rest)) :
    next.glyph = state.glyph ∧ op.glyphData = [] ∧ op.inlineGlyph = none := by
  obtain ⟨start, bounds, sent, fields, drawn, _, _, rendered, rfl, rfl⟩ :=
    decodeOrderBody_ok decoded
  have kept : (state.after type bounds ((orderDecoder type).settle fields)).glyph = state.glyph := by
    cases type <;> first | rfl | cases plain
  refine ⟨kept, ?_⟩
  simp only
  cases type
  case glyphIndex | fastIndex | fastGlyph => cases plain
  case multiDrawNinegrid =>
    obtain ⟨_, _, rendered⟩ := bind_eq_ok.mp rendered
    obtain ⟨_, _, rendered⟩ := bind_eq_ok.mp rendered
    cases rendered
    exact ⟨rfl, rfl⟩
  case lineto | saveBitmap =>
    simp only [orderDecoder, decodeLine, decodeSaveBitmap] at rendered
    split at rendered
    · cases rendered
    · cases rendered
      exact ⟨rfl, rfl⟩
  case drawNinegrid | multiDstblt | multiPatblt | multiScrblt | multiOpaqueRect | polygonSc | polygonCb |
      polyline =>
    obtain ⟨_, _, rendered⟩ := bind_eq_ok.mp rendered
    cases rendered
    exact ⟨rfl, rfl⟩
  all_goals
    cases rendered
    exact ⟨rfl, rfl⟩

theorem shows_more {view : View} {buffers : List Bytes} {bytes : Bytes}
    (shows' : view.Shows buffers bytes) (data : Bytes) : view.Shows (buffers ++ [data]) bytes := by
  refine ⟨shows'.1, fun long => ?_⟩
  obtain ⟨buffer, held, same⟩ := shows'.2 long
  obtain ⟨inside, _⟩ := List.getElem?_eq_some_iff.mp held
  exact ⟨buffer, by rwa [List.getElem?_append_left inside], same⟩

theorem shows_empty (view : View) (buffers : List Bytes) :
    ({ view with length := 0 } : View).Shows buffers [] := ⟨rfl, fun long => absurd rfl long⟩

theorem shows_part {view : View} {buffers : List Bytes} {front part back : Bytes}
    (shows' : view.Shows buffers (front ++ (part ++ back))) :
    ({ view with offset := view.offset + front.length, length := part.length } : View).Shows buffers
      part := by
  refine ⟨rfl, fun long => ?_⟩
  have length := shows'.1
  simp only [List.length_append] at length long
  obtain ⟨buffer, held, same⟩ := shows'.2 (by omega)
  refine ⟨buffer, held, ?_⟩
  have behind : (buffer.drop view.offset).drop front.length = part ++ (back ++
      ((buffer.drop view.offset).drop view.length)) := by
    conv => lhs; rw [← List.take_append_drop view.length (buffer.drop view.offset), same]
    rw [List.append_assoc, List.drop_left, List.append_assoc]
  rw [← List.drop_drop, behind, List.take_left]

structure ViewState.Sound (tracked : ViewState) (buffers : List Bytes) : Prop where
  calls : tracked.calls = buffers.length
  shows : tracked.glyphData.Shows buffers tracked.state.glyph.data
  before : tracked.glyphData.length ≠ 0 → tracked.glyphData.buffer < tracked.calls

section Step

variable {tracked next : ViewState} {buffers : List Bytes} {data : Bytes} {op : RenderOp}
  {views : OpViews} {consumed : Nat}

theorem decodeViews_ok (decoded : decodeViews tracked data = .ok ((op, views), consumed, next)) :
    ∃ control type flags stream rest,
      readOrderHeader tracked.state data = .ok ((control, type, flags), stream) ∧
      decodeOrderBody tracked.state control type flags stream = .ok (op, next.state, rest) ∧
      next.glyphData =
        glyphDataView tracked type flags data rest next.state.glyph.data.length ∧
      views = opViews type next.glyphData op ∧ next.calls = tracked.calls + 1 := by
  obtain ⟨⟨⟨control, type, flags⟩, stream⟩, header, decoded⟩ := bind_eq_ok.mp decoded
  obtain ⟨⟨drawn, state, rest⟩, body, decoded⟩ := bind_eq_ok.mp decoded
  cases decoded
  exact ⟨control, type, flags, stream, rest, header, body, rfl, rfl, rfl⟩

theorem glyphDataView_shows (sound : tracked.Sound buffers) {control : UInt8} {type : OrderType}
    {flags mask : Nat} {stream rest : Bytes}
    (header : readOrderHeader tracked.state data = .ok ((control, type, flags), stream))
    (draws : type.glyphDataMask = some mask)
    (body : decodeOrderBody tracked.state control type flags stream = .ok (op, next.state, rest)) :
    let view := glyphDataView tracked type flags data rest next.state.glyph.data.length
    view.Shows (buffers ++ [data]) next.state.glyph.data ∧
      (flags &&& mask ≠ 0 → view.buffer = tracked.calls ∧ view.offset + view.length ≤ data.length) ∧
      (flags &&& mask = 0 → view = tracked.glyphData) := by
  obtain ⟨mid, inside, read, _⟩ := decodeOrderBody_glyph draws body
  have found := readField_data read
  by_cases unsent : flags &&& mask = 0
  · rw [if_pos unsent] at found
    have kept : sendsGlyphData type flags = false := by simp [sendsGlyphData, draws, unsent]
    have view : glyphDataView tracked type flags data rest next.state.glyph.data.length =
        tracked.glyphData := by
      rw [glyphDataView, kept, if_neg Bool.false_ne_true]
    rw [view, found]
    exact ⟨shows_more sound.shows data, fun sent => absurd unsent sent, fun _ => rfl⟩
  rw [if_neg unsent] at found
  obtain ⟨front, rfl⟩ := found
  obtain ⟨before, whole⟩ := inside.trans (readOrderHeader_moves _ header)
  have sent : sendsGlyphData type flags = true := by simp [sendsGlyphData, draws, unsent]
  have size := congrArg List.length whole
  simp only [List.length_append] at size
  have offset : data.length - rest.length - next.state.glyph.data.length =
      (before ++ front).length := by
    rw [List.length_append]
    omega
  have view : glyphDataView tracked type flags data rest next.state.glyph.data.length =
      { buffer := tracked.calls, offset := (before ++ front).length
        length := next.state.glyph.data.length } := by
    rw [glyphDataView, sent, if_pos rfl, offset]
  rw [view]
  refine ⟨⟨rfl, fun _ => ⟨data, ?_, ?_⟩⟩, fun _ => ⟨rfl, ?_⟩, fun none' => absurd none' unsent⟩
  · simp [sound.calls]
  · simp only
    rw [← whole, ← List.append_assoc, List.drop_left, List.take_left]
  · simp only [List.length_append]
    omega

theorem opViews_show {view : View} {bytes : Bytes} (shows' : view.Shows buffers bytes)
    (takes : TakesData bytes op) {type : OrderType} {mask : Nat}
    (draws : type.glyphDataMask = some mask) :
    (opViews type view op).glyphData.Shows buffers op.glyphData ∧
      (opViews type view op).inlineGlyphBitmap.Shows buffers
        ((op.inlineGlyph.map (·.bitmap)).getD []) := by
  unfold opViews
  rw [draws, if_neg (by simp)]
  cases takes with
  | whole none' same =>
    rw [none', same, ← shows'.1]
    exact ⟨shows', shows_empty {} buffers⟩
  | split one more first bitmap =>
    obtain ⟨front, rfl⟩ := bitmap
    rename_i inlineGlyph
    rw [one, first]
    have size := shows'.1
    rw [List.length_append] at size
    constructor
    · have part := @shows_part view buffers [] ((front ++ inlineGlyph.bitmap).take 1)
        ((front ++ inlineGlyph.bitmap).drop 1) (by rwa [List.take_append_drop, List.nil_append])
      exact part
    · have part := @shows_part view buffers front inlineGlyph.bitmap [] (by rwa [List.append_nil])
      simp only [Option.map_some, Option.getD_some]
      rwa [size, Nat.add_sub_cancel]

theorem opViews_within {view : View} {bytes : Bytes} (length : view.length = bytes.length)
    (takes : TakesData bytes op) {type : OrderType} {buffer size : Nat}
    (here : view.buffer = buffer) (inside : view.offset + view.length ≤ size) :
    (opViews type view op).Within buffer size := by
  unfold opViews
  split
  · exact ⟨.inl rfl, .inl rfl⟩
  cases takes with
  | whole none' same =>
    rw [none', same]
    exact ⟨.inr ⟨here, by simp only; omega⟩, .inl rfl⟩
  | split one more first bitmap =>
    have short := bitmap.length_le
    have cut := List.length_take_le' 1 bytes
    rw [one, first]
    exact ⟨.inr ⟨here, by simp only; omega⟩, .inr ⟨here, by simp only; omega⟩⟩

theorem decodeViews_sound (sound : tracked.Sound buffers)
    (decoded : decodeViews tracked data = .ok ((op, views), consumed, next)) :
    next.Sound (buffers ++ [data]) ∧ views.glyphData.Shows (buffers ++ [data]) op.glyphData ∧
      views.inlineGlyphBitmap.Shows (buffers ++ [data])
        ((op.inlineGlyph.map (·.bitmap)).getD []) := by
  obtain ⟨control, type, flags, stream, rest, header, body, isView, rfl, calls⟩ :=
    decodeViews_ok decoded
  have count : next.calls = (buffers ++ [data]).length := by
    rw [calls, sound.calls, List.length_append, List.length_singleton]
  cases draws : type.glyphDataMask with
  | none =>
    obtain ⟨kept, noData, noGlyph⟩ := decodeOrderBody_plain draws body
    have same : next.glyphData = tracked.glyphData := by
      rw [isView, glyphDataView, sendsGlyphData, draws, if_neg (by simp)]
    have nothing : opViews type next.glyphData op = {} := by rw [opViews, draws, if_pos (by simp)]
    rw [nothing, noData, noGlyph]
    refine ⟨⟨count, ?_, ?_⟩, shows_empty {} _, shows_empty {} _⟩
    · rw [same, kept]
      exact shows_more sound.shows data
    · intro long
      rw [same] at long ⊢
      rw [calls]
      exact Nat.lt_succ_of_lt (sound.before long)
  | some mask =>
    obtain ⟨shows', sent, unsent⟩ := glyphDataView_shows sound header draws body
    rw [← isView] at shows' sent unsent
    obtain ⟨_, _, _, takes⟩ := decodeOrderBody_glyph draws body
    refine ⟨⟨count, shows', ?_⟩, opViews_show shows' takes draws⟩
    intro long
    rw [calls]
    by_cases none' : flags &&& mask = 0
    · rw [unsent none'] at long ⊢
      exact Nat.lt_succ_of_lt (sound.before long)
    · rw [(sent none').1]
      exact Nat.lt_succ_self _

theorem viewStep_sound {answer : Option (RenderOp × OpViews)} (sound : tracked.Sound buffers)
    (taken : viewStep tracked data = .ok (answer, next)) : next.Sound (buffers ++ [data]) := by
  unfold viewStep at taken
  split at taken
  · rename_i decoded
    cases taken
    exact (decodeViews_sound sound decoded).1
  cases taken
  refine ⟨?_, shows_more sound.shows data, fun long => Nat.lt_succ_of_lt (sound.before long)⟩
  simp [sound.calls]

theorem run_sound {inputs : List Bytes} {outs : List (Option (RenderOp × OpViews))}
    (ran : run viewStep {} inputs = .ok (outs, tracked)) : tracked.Sound inputs :=
  run_history (fun before tracked => tracked.Sound before)
    ⟨rfl, shows_empty {} [], fun long => absurd rfl long⟩
    (fun _ _ _ _ _ _ _ sound taken => viewStep_sound sound taken) ran

def ViewState.sparesKept (tracked : ViewState) (data : Bytes) : Bool :=
  match readOrderHeader tracked.state data with
  | .error _ => true
  | .ok ((_, type, flags), _) =>
      type.glyphDataMask.all (fun mask => flags &&& mask != 0) || tracked.glyphData.length == 0

/-- In every run on buffers of their own, the views of an order lie in the buffer of its call exactly
    if the order draws no glyphs, sends its data or finds none kept. -/
theorem views_in_own_buffer_iff {inputs : List Bytes} {outs : List (Option (RenderOp × OpViews))}
    (ran : run viewStep {} inputs = .ok (outs, tracked))
    (decoded : decodeViews tracked data = .ok ((op, views), consumed, next)) :
    views.Within tracked.calls data.length ↔ tracked.sparesKept data = true := by
  have sound := run_sound ran
  obtain ⟨control, type, flags, stream, rest, header, body, isView, rfl, calls⟩ :=
    decodeViews_ok decoded
  unfold ViewState.sparesKept
  rw [header]
  simp only
  cases draws : type.glyphDataMask with
  | none =>
      have nothing : opViews type next.glyphData op = {} := by rw [opViews, draws, if_pos (by simp)]
      rw [nothing]
      exact ⟨fun _ => rfl, fun _ => ⟨.inl rfl, .inl rfl⟩⟩
  | some mask =>
      obtain ⟨shows', sent, unsent⟩ := glyphDataView_shows sound header draws body
      rw [← isView] at shows' sent unsent
      obtain ⟨_, _, _, takes⟩ := decodeOrderBody_glyph draws body
      by_cases none' : flags &&& mask = 0
      case neg =>
        obtain ⟨here, inside⟩ := sent none'
        have within := @opViews_within op next.glyphData _ shows'.1 takes type _ _ here inside
        exact ⟨fun _ => by simp [none'], fun _ => within⟩
      case pos =>
        have kept := unsent none'
        rw [kept] at shows'
        simp only [Option.all_some, none', bne_self_eq_false, Bool.false_or, beq_iff_eq]
        rw [kept]
        constructor
        · -- a view that shows anything lies in an earlier buffer
          intro within
          by_contra long
          have earlier := sound.before long
          have points := within.1
          rw [opViews, draws, if_neg (by simp)] at points
          cases points with
          | inl empty =>
              have size := shows'.1
              simp only at empty
              cases takes with
              | whole _ same =>
                  rw [same] at empty
                  omega
              | split _ one first _ =>
                  rw [first] at empty
                  have positive := List.length_pos_iff.mpr one
                  rw [List.length_take] at empty
                  omega
          | inr there => exact Nat.lt_irrefl _ (there.1 ▸ earlier)
        · intro empty
          have none'' : next.state.glyph.data = [] := by
            apply List.length_eq_zero_iff.mp
            rw [← shows'.1, empty]
          rw [opViews, draws, if_neg (by simp)]
          cases takes with
          | whole noGlyph same =>
              rw [noGlyph, same, none'']
              exact ⟨.inl rfl, .inl rfl⟩
          | split _ one _ _ => exact absurd none'' one

end Step

/-- A glyph order in its own type, that sends two bytes of data and nothing else. -/
def orderWithData : Bytes := [0x09, 0x1b, 0x00, 0x00, 0x20, 0x02, 0x07, 0x08]

def orderWithoutData : Bytes := [0xc1]

theorem views_in_own_buffer_iff_sent : ∃ drawn consumed next,
    decodeViews {} orderWithData = .ok (drawn, consumed, next) ∧ drawn.2.glyphData.length = 2 ∧
      drawn.2.Within 0 orderWithData.length :=
  ⟨_, _, _, rfl, rfl, (@views_in_own_buffer_iff {} _ orderWithData _ _ _ [] [] rfl rfl).mpr rfl⟩

/-- The second operation points into the buffer of the first. -/
theorem kept_view_outlives_buffer : ∃ first second tracked,
    run viewStep {} [orderWithData, orderWithoutData] = .ok ([some first, some second], tracked) ∧
      second.2.glyphData = { buffer := 0, offset := 6, length := 2 } ∧
      ¬ second.2.Within 1 orderWithoutData.length := by
  refine ⟨_, _, _, rfl, rfl, ?_⟩
  rintro ⟨empty | there, _⟩
  · cases empty
  · cases there.1

end LibRdp.Graphics
