import LibRdp.Graphics.GdiViews
import LibRdp.Machine.Effect

/-! # The arithmetic on coordinates

The decoder of primary orders adds deltas to the coordinates that it keeps, sums up the deltas of
rectangles and takes the size of a rectangle from its edges, all with `int32_t`. Here it does so
with additions that stop where the sum does not fit. A single order moves a coordinate by at most
128, but nothing keeps coordinates from drifting over many orders.
-/

namespace LibRdp.Graphics

open Coding Machine Machine.Effect

/-! ## Additions that stop -/

inductive Mishap where
  | stopped (stop : Stop)
  | overflow
  deriving Repr, DecidableEq

abbrev Checked (α : Type) := Except Mishap α

def unchecked : Attempt α → Checked α
  | .ok a => .ok a
  | .error stop => .error (.stopped stop)

def add32 (a b : Int) : Checked Int :=
  if -2147483648 ≤ a + b ∧ a + b ≤ 2147483647 then .ok (a + b) else .error .overflow

def sub32 (a b : Int) : Checked Int :=
  if -2147483648 ≤ a - b ∧ a - b ≤ 2147483647 then .ok (a - b) else .error .overflow

/-! ## The checked decoder -/

/-- `rdp_gdi_render_read_coord`. -/
def checkedCoord (delta : Bool) (value : Int) (stream : Bytes) : Checked (Int × Bytes) :=
  if delta then do
    let (raw, stream) ← unchecked (readU8 stream)
    let value ← add32 value (int8 raw)
    pure (value, stream)
  else unchecked (readI16 stream)

/-- The loop of `rdp_gdi_render_read_delta_rects`. -/
def checkedRects (zeroBits : Bytes) : Nat → Nat → RenderRect → Bytes →
    Checked (List RenderRect × Bytes)
  | _, 0, _, stream => pure ([], stream)
  | i, left + 1, previous, stream => do
      let flags := zeroBits.getD (i / 2) 0 <<< UInt8.ofNat (i % 2 * 4)
      let (x, stream) ← unchecked (readDeltaUnless flags 0x80 0 stream)
      let (y, stream) ← unchecked (readDeltaUnless flags 0x40 0 stream)
      let (width, stream) ← unchecked (readDeltaUnless flags 0x20 previous.width stream)
      let (height, stream) ← unchecked (readDeltaUnless flags 0x10 previous.height stream)
      let x ← add32 x previous.x
      let y ← add32 y previous.y
      let rect : RenderRect := { x, y, width, height }
      let (rects, stream) ← checkedRects zeroBits (i + 1) left rect stream
      pure (rect :: rects, stream)

/-- `rdp_gdi_render_read_delta_rects`. -/
def checkedDeltaRects (count : Nat) (stream : Bytes) : Checked (List RenderRect × Bytes) :=
  if count = 0 ∨ count > maxRects then unchecked (refuse .protocolError)
  else do
    let (zeroBits, stream) ← unchecked (readBytes stream ((count + 1) / 2))
    checkedRects zeroBits 0 count {} stream

/-- `rdp_gdi_render_read_rect_blob`. -/
def checkedRectBlob (count : Nat) (stream : Bytes) : Checked (List RenderRect × Bytes) := do
  let (length, stream) ← unchecked (readU16Le stream)
  let (blob, stream) ← unchecked (readBytes stream length.toNat)
  if blob.length = 0 then unchecked (refuse .protocolError)
  else do
    let (rects, left) ← checkedDeltaRects count blob
    if left.length ≠ 0 then unchecked (refuse .protocolError) else pure (rects, stream)

def checkedCounted (flags countMask mask : Nat) (old : Counted RenderRect) (stream : Bytes) :
    Checked (Counted RenderRect × Bytes) := do
  let (count, stream) ← unchecked (readSent flags countMask old.count stream readU8)
  if flags &&& mask = 0 then pure ({ old with count }, stream)
  else if count = 0 ∨ count.toNat > maxRects then unchecked (refuse .protocolError)
  else do
    let (list, stream) ← checkedRectBlob count.toNat stream
    pure ({ count, entries := list ++ old.entries.drop count.toNat }, stream)

def checkedField (flags : Nat) (delta : Bool) : {α : Type} → RenderField α → α → Bytes →
    Checked (α × Bytes)
  | _, .coord mask, old, stream =>
      if flags &&& mask = 0 then .ok (old, stream) else checkedCoord delta old stream
  | _, .rects countMask mask, old, stream => checkedCounted flags countMask mask old stream
  | _, field, old, stream => unchecked (readField flags delta field old stream)

/-- One edge in `rdp_gdi_render_read_bounds`. -/
def checkedBoundsEdge (flags absolute delta : UInt8) (value : Int) (stream : Bytes) :
    Checked (Int × Bytes) :=
  if flags &&& absolute ≠ 0 ∧ flags &&& delta ≠ 0 then unchecked (refuse .protocolError)
  else if flags &&& absolute ≠ 0 then unchecked (readI16 stream)
  else if flags &&& delta ≠ 0 then checkedCoord true value stream
  else pure (value, stream)

/-- `rdp_gdi_render_read_bounds`. -/
def checkedBounds (control : UInt8) (bounds : RenderEdges) (stream : Bytes) :
    Checked (RenderEdges × Bytes) :=
  if control &&& tsZeroBoundsDeltas ≠ 0 then pure (bounds, stream)
  else do
    let (flags, stream) ← unchecked (readU8 stream)
    let (left, stream) ← checkedBoundsEdge flags 0x01 0x10 bounds.left stream
    let (top, stream) ← checkedBoundsEdge flags 0x02 0x20 bounds.top stream
    let (right, stream) ← checkedBoundsEdge flags 0x04 0x40 bounds.right stream
    let (bottom, stream) ← checkedBoundsEdge flags 0x08 0x80 bounds.bottom stream
    pure ({ left, top, right, bottom }, stream)

def checkedOrderBounds (control : UInt8) (state : RenderState) (stream : Bytes) :
    Checked (RenderEdges × Bytes) :=
  if control &&& tsBounds ≠ 0 then checkedBounds control state.bounds stream
  else pure (state.bounds, stream)

/-- `last - first + 1`. -/
def checkExtent (first last : Int) : Checked Unit := do
  let width ← sub32 last first
  let _ ← add32 width 1
  pure ()

def checkRect (edges : RenderEdges) : Checked Unit := do
  checkExtent edges.left edges.right
  checkExtent edges.top edges.bottom

/-- `rdp_gdi_render_rect_from_bounds_or_source`. -/
def checkBoundsOrSource (bounds : Option RenderEdges) (src : RenderEdges) : Checked Unit :=
  if src.right < src.left ∨ src.bottom < src.top then pure ()
  else
    match bounds with
    | none => checkRect src
    | some bounds =>
        if bounds.right < bounds.left ∨ bounds.bottom < bounds.top then pure ()
        else checkRect bounds

/-- `rdp_gdi_render_rect_from_edges`. -/
def checkSide (first last : Int) : Checked Unit :=
  if last ≥ first then checkExtent first last else pure ()

def checkEdges (edges : RenderEdges) : Checked Unit := do
  checkSide edges.left edges.right
  checkSide edges.top edges.bottom

/-- The sizes of rectangles that the decoder of a type takes from their edges, after the checks that
    it makes before that. -/
def checkExtents : (type : OrderType) → Option RenderEdges → Fields type → Checked Unit
  | .ellipseSc, _, fields => checkRect fields.ellipse.edges
  | .ellipseCb, _, fields => checkRect fields.shape.edges
  | .saveBitmap, _, save =>
      if save.operation > 1 ∨ save.edges.right < save.edges.left ∨
          save.edges.bottom < save.edges.top then pure ()
      else checkRect save.edges
  | .drawNinegrid, bounds, nine => checkBoundsOrSource bounds nine.src
  | .multiDrawNinegrid, bounds, nine =>
      if nine.rects.count.toNat > maxRects then pure () else checkBoundsOrSource bounds nine.src
  | .fastIndex, _, glyph => do
      checkEdges glyph.op
      checkEdges glyph.back
  | .fastGlyph, _, glyph => do
      checkEdges glyph.op
      checkEdges glyph.back
  | .glyphIndex, _, fields => do
      checkEdges fields.glyph.op
      checkEdges fields.glyph.back
  | _, _, _ => pure ()

def checkedFinish (type : OrderType) (bounds : Option RenderEdges) (fields : Fields type) :
    Checked (Fields type × RenderOp) := do
  checkExtents type bounds ((orderDecoder type).settle fields)
  unchecked (finishOrder type bounds fields)

/-- The second part of `rdp_gdi_decode_primary_render_order`. -/
def checkedBody (state : RenderState) (control : UInt8) (type : OrderType) (flags : Nat)
    (stream : Bytes) : Checked (RenderOp × RenderState × Bytes) := do
  let (bounds, stream) ← checkedOrderBounds control state stream
  let (fields, stream) ← (orderDecoder type).layout.read
    (checkedField flags (control &&& tsDeltaCoordinates != 0)) (state.fields type) stream
  let (fields, op) ← checkedFinish type
    (if control &&& tsBounds ≠ 0 then some bounds else none) fields
  pure (op, state.after type bounds fields, stream)

/-- `rdp_gdi_decode_primary_render_order`, but for additions and subtractions of coordinates that
    stop at an overflow. -/
def checkedOrder (state : RenderState) (data : Bytes) : Checked (RenderOp × Nat × RenderState) := do
  let ((control, type, flags), stream) ← unchecked (readOrderHeader state data)
  let (op, state, stream) ← checkedBody state control type flags stream
  pure (op, data.length - stream.length, state)

def renderStep (state : RenderState) (data : Bytes) : RenderState :=
  match decodePrimaryRenderOrder state data with
  | .ok (_, _, next) => next
  | .error _ => state

def renderRun : RenderState → List Bytes → RenderState
  | state, [] => state
  | state, data :: orders => renderRun (renderStep state data) orders

/-- The same with checked arithmetic: an overflow ends the run, an order that is refused does not. -/
def checkedRun : RenderState → List Bytes → Checked RenderState
  | state, [] => pure state
  | state, data :: orders =>
      match checkedOrder state data with
      | .ok (_, _, next) => checkedRun next orders
      | .error (.stopped _) => checkedRun state orders
      | .error .overflow => .error .overflow

/-! ## Checked computations do what unchecked ones do -/

/-- The checked computation overflows, or it gives what the unchecked one does. -/
def Checks (x : Checked α) (y : Attempt α) : Prop := x = .error .overflow ∨ x = unchecked y

section Checks

variable {x : Checked α} {y : Attempt α} {f : α → Checked β} {g : α → Attempt β}

theorem Checks.same (y : Attempt α) : Checks (unchecked y) y := .inr rfl

theorem Checks.pure (a : α) : Checks (Pure.pure a) (Pure.pure a) := .inr rfl

theorem Checks.bind (first : Checks x y) (next : ∀ a, Checks (f a) (g a)) :
    Checks (x >>= f) (y >>= g) := by
  rcases first with rfl | rfl
  · exact .inl rfl
  · cases y with
    | error stop => exact .inr rfl
    | ok a => exact next a

theorem Checks.ite {p : Prop} [Decidable p] {x' : Checked α} {y' : Attempt α} (yes : Checks x y)
    (no : Checks x' y') : Checks (if p then x else x') (if p then y else y') := by
  split
  · exact yes
  · exact no

end Checks

theorem add32_checks {a b : Int} {f : Int → Checked α} {y : Attempt α}
    (next : -2147483648 ≤ a + b → a + b ≤ 2147483647 → Checks (f (a + b)) y) :
    Checks (add32 a b >>= f) y := by
  rw [add32]
  split
  · rename_i fits
    exact next fits.1 fits.2
  · exact .inl rfl

theorem int32_fits {v : Int} (low : -2147483648 ≤ v) (high : v ≤ 2147483647) : int32 v = v := by
  rw [int32, Int.bmod_eq_of_le_mul_two] <;> omega

theorem checkedCoord_checks (delta : Bool) (value : Int) (stream : Bytes) :
    Checks (checkedCoord delta value stream) (readCoord delta value stream) := by
  cases delta with
  | false => exact .same _
  | true =>
    apply Checks.bind (.same _)
    intro (raw, stream)
    apply add32_checks
    intro low high
    simp only [int32_fits low high]
    exact .pure _

theorem checkedRects_checks (zeroBits : Bytes) (left : Nat) (i : Nat) (previous : RenderRect)
    (stream : Bytes) :
    Checks (checkedRects zeroBits i left previous stream)
      (readRects zeroBits i left previous stream) := by
  induction left generalizing i previous stream with
  | zero => exact .pure _
  | succ left ih =>
    simp only [checkedRects, readRects]
    apply Checks.bind (.same _)
    intro (x, stream)
    apply Checks.bind (.same _)
    intro (y, stream)
    apply Checks.bind (.same _)
    intro (width, stream)
    apply Checks.bind (.same _)
    intro (height, stream)
    apply add32_checks
    intro _ _
    apply add32_checks
    intro _ _
    apply Checks.bind (ih (i + 1) _ stream)
    intro rest
    exact .pure _

theorem checkedRectBlob_checks (count : Nat) (stream : Bytes) :
    Checks (checkedRectBlob count stream) (readRectBlob count stream) := by
  apply Checks.bind (.same _)
  intro (length, stream)
  apply Checks.bind (.same _)
  intro (blob, stream)
  simp only [readBlob]
  split
  · exact .same _
  have list : Checks (checkedDeltaRects count blob) (readDeltaRects count blob) := by
    apply Checks.ite (.same _)
    apply Checks.bind (.same _)
    intro (zeroBits, stream)
    exact checkedRects_checks zeroBits count 0 {} stream
  rcases list with overflow | same
  · rw [overflow]
    exact .inl rfl
  · rw [same]
    cases readDeltaRects count blob with
    | error stop => exact .inr rfl
    | ok pair =>
      simp only [ok_bind]
      change Checks (if pair.2.length ≠ 0 then unchecked (refuse .protocolError)
        else pure (pair.1, stream)) _
      split <;> exact .inr rfl

theorem checkedField_checks (flags : Nat) (delta : Bool) {α : Type} (field : RenderField α) (old : α)
    (stream : Bytes) :
    Checks (checkedField flags delta field old stream) (readField flags delta field old stream) := by
  cases field with
  | coord mask => exact .ite (.pure _) (checkedCoord_checks delta old stream)
  | rects countMask mask =>
    apply Checks.bind (.same _)
    intro (count, stream)
    apply Checks.ite (.pure _)
    apply Checks.ite (.same _)
    apply Checks.bind (checkedRectBlob_checks count.toNat stream)
    intro list
    exact .pure _
  | _ => exact .same _

theorem read_checks {checked : {α : Type} → RenderField α → α → Bytes → Checked (α × Bytes)}
    {plain : {α : Type} → RenderField α → α → Bytes → Attempt (α × Bytes)}
    (each : ∀ {α : Type} (field : RenderField α) (old : α) (stream : Bytes),
      Checks (checked field old stream) (plain field old stream))
    {α : Type} (layout : Layout RenderField α) (old : α) (stream : Bytes) :
    Checks (layout.read checked old stream) (layout.read plain old stream) := by
  induction layout generalizing stream with
  | empty => exact .pure _
  | one field => exact each field old stream
  | both first second ihFirst ihSecond =>
    apply Checks.bind (ihFirst old.1 stream)
    intro (a, stream)
    apply Checks.bind (ihSecond old.2 stream)
    intro b
    exact .pure _
  | record inner make parts whole ih =>
    apply Checks.bind (ih (parts old) stream)
    intro a
    exact .pure _

theorem checkedBoundsEdge_checks (flags absolute delta : UInt8) (value : Int) (stream : Bytes) :
    Checks (checkedBoundsEdge flags absolute delta value stream)
      (readBoundsEdge flags absolute delta value stream) :=
  .ite (.same _) (.ite (.same _) (.ite (checkedCoord_checks true value stream) (.pure _)))

theorem checkedOrderBounds_checks (control : UInt8) (state : RenderState) (stream : Bytes) :
    Checks (checkedOrderBounds control state stream) (readOrderBounds control state stream) := by
  apply Checks.ite _ (.pure _)
  apply Checks.ite (.pure _)
  apply Checks.bind (.same _)
  intro (flags, stream)
  apply Checks.bind (checkedBoundsEdge_checks flags 0x01 0x10 _ stream)
  intro (left, stream)
  apply Checks.bind (checkedBoundsEdge_checks flags 0x02 0x20 _ stream)
  intro (top, stream)
  apply Checks.bind (checkedBoundsEdge_checks flags 0x04 0x40 _ stream)
  intro (right, stream)
  apply Checks.bind (checkedBoundsEdge_checks flags 0x08 0x80 _ stream)
  intro bottom
  exact .pure _

abbrev Sums (x : Checked Unit) : Prop := Checks x (pure ())

theorem Sums.bind {x y : Checked Unit} (first : Sums x) (next : Sums y) :
    Sums (x >>= fun _ => y) := Checks.bind first fun _ => next

theorem Sums.ite {p : Prop} [Decidable p] {x y : Checked Unit} (yes : Sums x) (no : Sums y) :
    Sums (if p then x else y) := by
  split
  · exact yes
  · exact no

theorem checkExtent_sums (first last : Int) : Sums (checkExtent first last) := by
  rw [checkExtent, sub32]
  split
  · exact add32_checks fun _ _ => .pure ()
  · exact .inl rfl

theorem checkRect_sums (edges : RenderEdges) : Sums (checkRect edges) :=
  .bind (checkExtent_sums _ _) (checkExtent_sums _ _)

theorem checkBoundsOrSource_sums (bounds : Option RenderEdges) (src : RenderEdges) :
    Sums (checkBoundsOrSource bounds src) := by
  apply Sums.ite (.pure ())
  cases bounds with
  | none => exact checkRect_sums src
  | some bounds => exact .ite (.pure ()) (checkRect_sums bounds)

theorem checkEdges_sums (edges : RenderEdges) : Sums (checkEdges edges) := by
  apply Sums.bind
  · exact .ite (checkExtent_sums _ _) (.pure ())
  · exact .ite (checkExtent_sums _ _) (.pure ())

theorem checkExtents_sums (type : OrderType) (bounds : Option RenderEdges) (fields : Fields type) :
    Sums (checkExtents type bounds fields) := by
  cases type with
  | ellipseSc => exact checkRect_sums _
  | ellipseCb => exact checkRect_sums _
  | saveBitmap => exact .ite (.pure ()) (checkRect_sums _)
  | drawNinegrid => exact checkBoundsOrSource_sums bounds _
  | multiDrawNinegrid => exact .ite (.pure ()) (checkBoundsOrSource_sums bounds _)
  | fastIndex => exact .bind (checkEdges_sums _) (checkEdges_sums _)
  | fastGlyph => exact .bind (checkEdges_sums _) (checkEdges_sums _)
  | glyphIndex => exact .bind (checkEdges_sums _) (checkEdges_sums _)
  | _ => exact .pure ()

theorem checkedOrder_checks (state : RenderState) (data : Bytes) :
    Checks (checkedOrder state data) (decodePrimaryRenderOrder state data) := by
  apply Checks.bind (.same _)
  intro ((control, type, flags), stream)
  apply Checks.bind
  · apply Checks.bind (checkedOrderBounds_checks control state stream)
    intro (bounds, stream)
    apply Checks.bind (read_checks (checkedField_checks flags _) _ _ stream)
    intro (fields, stream)
    apply Checks.bind
    · exact Checks.bind (checkExtents_sums type _ _) fun _ => .same _
    · intro finished
      exact .pure _
  · intro decoded
    exact .pure _

/-! ## What the state keeps -/

def RenderRect.All (p : Int → Prop) (rect : RenderRect) : Prop :=
  p rect.x ∧ p rect.y ∧ p rect.width ∧ p rect.height

def RenderEdges.All (p : Int → Prop) (edges : RenderEdges) : Prop :=
  p edges.left ∧ p edges.top ∧ p edges.right ∧ p edges.bottom

def Brush.All (p : Int → Prop) (brush : Brush) : Prop := p brush.x ∧ p brush.y

structure RenderState.All (p : Int → Prop) (state : RenderState) : Prop where
  bounds : state.bounds.All p
  dst : state.dst.rect.All p
  fill : state.fill.rect.All p
  scr : state.scr.rect.All p ∧ p state.scr.srcX ∧ p state.scr.srcY
  pat : state.pat.rect.All p
  patBrush : state.patBrush.All p
  line : p state.line.startX ∧ p state.line.startY ∧ p state.line.endX ∧ p state.line.endY
  polyline : p state.polyline.startX ∧ p state.polyline.startY
  polygon : p state.polygon.startX ∧ p state.polygon.startY
  ellipse : state.ellipse.edges.All p
  multiDst : state.multiDst.rect.All p
  multiScr : state.multiScr.rect.All p ∧ p state.multiScr.srcX ∧ p state.multiScr.srcY
  multiOpaque : state.multiOpaque.rect.All p
  multiPat : state.multiPat.rect.All p ∧ state.multiPat.brush.All p
  saveBitmap : state.saveBitmap.edges.All p
  nine : state.nine.src.All p
  multiNine : state.multiNine.src.All p
  mem : state.mem.rect.All p ∧ p state.mem.srcX ∧ p state.mem.srcY
  mem3 : state.mem3.mem.rect.All p ∧ p state.mem3.mem.srcX ∧ p state.mem3.mem.srcY ∧
    state.mem3.brush.All p
  glyph : state.glyph.back.All p ∧ state.glyph.op.All p ∧ p state.glyph.x ∧ p state.glyph.y

def OfCoordinate (p : Int → Prop) : {α : Type} → RenderField α → α → Prop
  | _, .coord _, value => p value
  | _, .int16 _, value => p value
  | _, _, _ => True

def FieldsAll (p : Int → Prop) (type : OrderType) (fields : Fields type) : Prop :=
  (orderDecoder type).layout.All (OfCoordinate p) fields

section All

variable {p : Int → Prop} {state : RenderState}

theorem RenderRect.All.weaken {q : Int → Prop} {rect : RenderRect} (held : rect.All p)
    (more : ∀ v, p v → q v) : rect.All q :=
  ⟨more _ held.1, more _ held.2.1, more _ held.2.2.1, more _ held.2.2.2⟩

theorem RenderEdges.All.weaken {q : Int → Prop} {edges : RenderEdges} (held : edges.All p)
    (more : ∀ v, p v → q v) : edges.All q :=
  ⟨more _ held.1, more _ held.2.1, more _ held.2.2.1, more _ held.2.2.2⟩

theorem Brush.All.weaken {q : Int → Prop} {brush : Brush} (held : brush.All p)
    (more : ∀ v, p v → q v) : brush.All q :=
  ⟨more _ held.1, more _ held.2⟩

theorem RenderState.All.weaken {q : Int → Prop} (held : state.All p) (more : ∀ v, p v → q v) :
    state.All q where
  bounds := held.bounds.weaken more
  dst := held.dst.weaken more
  fill := held.fill.weaken more
  scr := held.scr.imp (·.weaken more) (And.imp (more _) (more _))
  pat := held.pat.weaken more
  patBrush := held.patBrush.weaken more
  line := held.line.imp (more _) (And.imp (more _) (And.imp (more _) (more _)))
  polyline := held.polyline.imp (more _) (more _)
  polygon := held.polygon.imp (more _) (more _)
  ellipse := held.ellipse.weaken more
  multiDst := held.multiDst.weaken more
  multiScr := held.multiScr.imp (·.weaken more) (And.imp (more _) (more _))
  multiOpaque := held.multiOpaque.weaken more
  multiPat := held.multiPat.imp (·.weaken more) (·.weaken more)
  saveBitmap := held.saveBitmap.weaken more
  nine := held.nine.weaken more
  multiNine := held.multiNine.weaken more
  mem := held.mem.imp (·.weaken more) (And.imp (more _) (more _))
  mem3 := held.mem3.imp (·.weaken more) (And.imp (more _) (And.imp (more _) (·.weaken more)))
  glyph := held.glyph.imp (·.weaken more) (And.imp (·.weaken more) (And.imp (more _) (more _)))

theorem Brush.All.fields {brush : Brush} (held : brush.All p) :
    True ∧ True ∧ p brush.x ∧ p brush.y ∧ True ∧ True ∧ True :=
  ⟨trivial, trivial, held.1, held.2, trivial, trivial, trivial⟩

theorem RenderState.All.fields (held : state.All p) (type : OrderType) :
    FieldsAll p type (state.fields type) := by
  cases type with
  | dstblt => exact ⟨held.dst, trivial⟩
  | patblt => exact ⟨⟨held.pat, trivial⟩, held.patBrush.fields, trivial⟩
  | scrblt => exact ⟨held.scr.1, trivial, held.scr.2⟩
  | drawNinegrid => exact ⟨held.nine, trivial⟩
  | multiDrawNinegrid => exact ⟨held.multiNine, trivial, trivial⟩
  | lineto =>
    obtain ⟨startX, startY, endX, endY⟩ := held.line
    exact ⟨trivial, startX, startY, endX, endY, trivial, trivial, trivial, trivial, trivial⟩
  | opaqueRect => exact ⟨held.fill, trivial⟩
  | saveBitmap => exact ⟨trivial, held.saveBitmap, trivial⟩
  | memblt =>
    obtain ⟨rect, srcX, srcY⟩ := held.mem
    exact ⟨trivial, rect, trivial, srcX, srcY, trivial⟩
  | mem3blt =>
    obtain ⟨rect, srcX, srcY, brush⟩ := held.mem3
    exact ⟨trivial, rect, trivial, srcX, srcY, brush.fields, trivial⟩
  | multiDstblt => exact ⟨held.multiDst, trivial, trivial⟩
  | multiPatblt => exact ⟨held.multiPat.1, trivial, held.multiPat.2.fields, trivial⟩
  | multiScrblt =>
    obtain ⟨rect, srcX, srcY⟩ := held.multiScr
    exact ⟨rect, trivial, srcX, srcY, trivial⟩
  | multiOpaqueRect => exact ⟨held.multiOpaque, trivial, trivial, trivial, trivial⟩
  | polygonSc => exact ⟨held.polygon.1, held.polygon.2, trivial, trivial, trivial, trivial⟩
  | polygonCb =>
    exact ⟨⟨held.polygon.1, held.polygon.2, trivial, trivial⟩, held.patBrush.fields, trivial⟩
  | polyline => exact ⟨held.polyline.1, held.polyline.2, trivial, trivial, trivial, trivial⟩
  | ellipseSc => exact ⟨⟨held.ellipse, trivial, trivial⟩, trivial⟩
  | ellipseCb => exact ⟨⟨held.ellipse, trivial, trivial⟩, held.patBrush.fields, trivial⟩
  | fastIndex | fastGlyph =>
    obtain ⟨back, op, x, y⟩ := held.glyph
    exact ⟨trivial, trivial, trivial, trivial, back, op, x, y, trivial⟩
  | glyphIndex =>
    obtain ⟨back, op, x, y⟩ := held.glyph
    exact ⟨trivial, trivial, trivial, trivial, trivial, trivial, back, op, trivial, trivial,
      trivial, trivial, trivial, x, y, trivial⟩

theorem RenderState.All.after (held : state.All p) {type : OrderType} {fields : Fields type}
    (all : FieldsAll p type fields) {bounds : RenderEdges} (inside : bounds.All p) :
    (state.after type bounds fields).All p := by
  cases type with
  | dstblt => exact { held with bounds := inside, dst := all.1 }
  | patblt =>
    obtain ⟨⟨rect, -⟩, ⟨-, -, x, y, -⟩, -⟩ := all
    exact { held with bounds := inside, pat := rect, patBrush := ⟨x, y⟩ }
  | scrblt => exact { held with bounds := inside, scr := ⟨all.1, all.2.2⟩ }
  | drawNinegrid => exact { held with bounds := inside, nine := all.1 }
  | multiDrawNinegrid => exact { held with bounds := inside, multiNine := all.1 }
  | lineto =>
    obtain ⟨-, startX, startY, endX, endY, -⟩ := all
    exact { held with bounds := inside, line := ⟨startX, startY, endX, endY⟩ }
  | opaqueRect => exact { held with bounds := inside, fill := all.1 }
  | saveBitmap => exact { held with bounds := inside, saveBitmap := all.2.1 }
  | memblt =>
    obtain ⟨-, rect, -, srcX, srcY, -⟩ := all
    exact { held with bounds := inside, mem := ⟨rect, srcX, srcY⟩ }
  | mem3blt =>
    obtain ⟨-, rect, -, srcX, srcY, ⟨-, -, x, y, -⟩, -⟩ := all
    exact { held with bounds := inside, mem3 := ⟨rect, srcX, srcY, x, y⟩ }
  | multiDstblt => exact { held with bounds := inside, multiDst := all.1 }
  | multiPatblt =>
    obtain ⟨rect, -, ⟨-, -, x, y, -⟩, -⟩ := all
    exact { held with bounds := inside, multiPat := ⟨rect, x, y⟩ }
  | multiScrblt =>
    obtain ⟨rect, -, srcX, srcY, -⟩ := all
    exact { held with bounds := inside, multiScr := ⟨rect, srcX, srcY⟩ }
  | multiOpaqueRect => exact { held with bounds := inside, multiOpaque := all.1 }
  | polygonSc => exact { held with bounds := inside, polygon := ⟨all.1, all.2.1⟩ }
  | polygonCb =>
    obtain ⟨⟨x, y, -⟩, ⟨-, -, brushX, brushY, -⟩, -⟩ := all
    exact { held with bounds := inside, polygon := ⟨x, y⟩, patBrush := ⟨brushX, brushY⟩ }
  | polyline => exact { held with bounds := inside, polyline := ⟨all.1, all.2.1⟩ }
  | ellipseSc => exact { held with bounds := inside, ellipse := all.1.1 }
  | ellipseCb =>
    obtain ⟨⟨edges, -⟩, ⟨-, -, x, y, -⟩, -⟩ := all
    exact { held with bounds := inside, ellipse := edges, patBrush := ⟨x, y⟩ }
  | fastIndex | fastGlyph =>
    obtain ⟨-, -, -, -, back, op, x, y, -⟩ := all
    exact { held with bounds := inside, glyph := ⟨back, op, x, y⟩ }
  | glyphIndex =>
    obtain ⟨-, -, -, -, -, -, back, op, -, -, -, -, -, x, y, -⟩ := all
    exact { held with bounds := inside, glyph := ⟨back, op, x, y⟩ }

theorem ite_all {c : Prop} [Decidable c] {a b : Int} (yes : p a) (no : p b) :
    p (if c then a else b) := by
  split
  · exact yes
  · exact no

theorem settleEdges_all {back op : RenderEdges} (behind : back.All p) (front : op.All p) :
    (settleEdges back op).All p := by
  obtain ⟨left, top, right, bottom⟩ := behind
  obtain ⟨left', top', right', bottom'⟩ := front
  simp only [settleEdges]
  split
  · exact ⟨ite_all left (ite_all left left'), ite_all top top',
      ite_all right (ite_all right right'), ite_all bottom bottom'⟩
  · exact ⟨ite_all left left', top', ite_all right right', bottom'⟩

theorem settle_all {type : OrderType} {fields : Fields type} (all : FieldsAll p type fields) :
    FieldsAll p type ((orderDecoder type).settle fields) := by
  cases type with
  | fastIndex | fastGlyph =>
    obtain ⟨-, -, -, -, back, op, x, y, -⟩ := all
    exact ⟨trivial, trivial, trivial, trivial, back, settleEdges_all back op, x, y, trivial⟩
  | _ => exact all

end All

/-! ## What one order adds -/

/-- A coordinate that is at most `range` away from zero. -/
def InRange (range value : Int) : Prop := -range ≤ value ∧ value ≤ range

abbrev Fits (x : Checked α) (done : α → Prop) : Prop := Yields x done (· ≠ .overflow)

theorem Fits.unchecked (y : Attempt α) : Fits (unchecked y) (y = .ok ·) := by
  cases y with
  | error stop => exact .fails nofun
  | ok a => exact .pure rfl

theorem add32_fits {a b : Int} (low : -2147483648 ≤ a + b) (high : a + b ≤ 2147483647) :
    Fits (add32 a b) (· = a + b) := by
  rw [add32, if_pos ⟨low, high⟩]
  exact .pure rfl

theorem int8_range (byte : UInt8) : InRange 128 (int8 byte) := by
  have small := byte.toNat_lt
  unfold int8 InRange
  split <;> omega

theorem int16_range (word : UInt16) : InRange 32768 (int16 word) := by
  have small := word.toNat_lt
  unfold int16 InRange
  split <;> omega

variable {value : Int}

theorem readI16_range {stream rest : Bytes}
    (read : readI16 stream = .ok (value, rest)) : InRange 32768 value := by
  obtain ⟨⟨raw, _⟩, _, read⟩ := bind_eq_ok.mp read
  cases read
  exact int16_range raw

section Steps

variable {range : Int} (wide : 32768 ≤ range)

theorem InRange.more (within : InRange range value) :
    InRange (range + 128) value := by
  unfold InRange at *
  omega

include wide in
theorem inRange_of_int16 (within : InRange 32768 value) :
    InRange (range + 128) value := by
  unfold InRange at *
  omega

include wide in
theorem checkedCoord_fits (narrow : range + 128 ≤ 2147483647) (delta : Bool)
    (within : InRange range value) (stream : Bytes) :
    Fits (checkedCoord delta value stream) fun r => InRange (range + 128) r.1 := by
  cases delta with
  | false =>
    apply (Fits.unchecked (readI16 stream)).weaken
    intro (value, rest) read
    exact inRange_of_int16 wide (readI16_range read)
  | true =>
    apply Yields.bind (Fits.unchecked (readU8 stream))
    intro (raw, stream) _
    have small := int8_range raw
    unfold InRange at *
    apply Yields.bind (add32_fits (by omega) (by omega))
    rintro _ rfl
    apply Yields.pure
    omega

theorem readDelta_range {stream rest : Bytes}
    (read : readDelta stream = .ok (value, rest)) : InRange 16384 value := by
  obtain ⟨⟨first, stream⟩, _, read⟩ := bind_eq_ok.mp read
  simp only at read
  have low : -64 ≤ (if first &&& 0x40 ≠ 0 then (first.toNat % 64 : Int) - 64 else first.toNat % 64) ∧
      (if first &&& 0x40 ≠ 0 then (first.toNat % 64 : Int) - 64 else first.toNat % 64) ≤ 63 := by
    split <;> omega
  generalize (if first &&& 0x40 ≠ 0 then (first.toNat % 64 : Int) - 64 else first.toNat % 64) = raw
    at low read
  unfold InRange
  split at read
  · cases read
    omega
  obtain ⟨⟨second, stream⟩, _, read⟩ := bind_eq_ok.mp read
  have small := second.toNat_lt
  cases read
  simp only
  omega

theorem readDeltaUnless_range {flags bit : UInt8} {stream rest : Bytes}
    (read : readDeltaUnless flags bit 0 stream = .ok (value, rest)) : InRange 16384 value := by
  unfold readDeltaUnless at read
  split at read
  · exact readDelta_range read
  · cases read
    exact ⟨by omega, by omega⟩

theorem checkedRects_fits (zeroBits : Bytes) {left i : Nat} (few : i + left ≤ maxRects)
    {previous : RenderRect} (x : InRange (16384 * i) previous.x) (y : InRange (16384 * i) previous.y)
    (stream : Bytes) : Fits (checkedRects zeroBits i left previous stream) fun _ => True := by
  induction left generalizing i previous stream with
  | zero => exact .pure trivial
  | succ left ih =>
    simp only [checkedRects]
    apply Yields.bind (Fits.unchecked _)
    intro (dx, stream) readX
    apply Yields.bind (Fits.unchecked _)
    intro (dy, stream) readY
    apply Yields.bind (Fits.unchecked _)
    intro (width, stream) _
    apply Yields.bind (Fits.unchecked _)
    intro (height, stream) _
    have stepX := readDeltaUnless_range readX
    have stepY := readDeltaUnless_range readY
    have most : maxRects = 45 := rfl
    unfold InRange at *
    apply Yields.bind (add32_fits (by omega) (by omega))
    intro sumX sameX
    apply Yields.bind (add32_fits (by omega) (by omega))
    intro sumY sameY
    apply Yields.bind (@ih (i + 1) (by omega) _ _ _ stream)
    · intro rest _
      exact .pure trivial
    · simp only
      omega
    · simp only
      omega

theorem checkedDeltaRects_fits (count : Nat) (stream : Bytes) :
    Fits (checkedDeltaRects count stream) fun _ => True := by
  apply Yields.ite (fun _ => .fails nofun)
  intro few
  apply Yields.bind (Fits.unchecked _)
  intro (zeroBits, stream) _
  have zero : InRange (16384 * (0 : Nat)) 0 := ⟨by simp, by simp⟩
  exact checkedRects_fits zeroBits (by omega) zero zero stream

theorem checkedRectBlob_fits (count : Nat) (stream : Bytes) :
    Fits (checkedRectBlob count stream) fun _ => True := by
  apply Yields.bind (Fits.unchecked _)
  intro (length, stream) _
  apply Yields.bind (Fits.unchecked _)
  intro (blob, stream) _
  apply Yields.ite (fun _ => .fails nofun)
  intro _
  apply Yields.bind (checkedDeltaRects_fits count blob)
  intro (rects, left) _
  exact .ite (fun _ => .fails nofun) fun _ => .pure trivial

theorem checkedCounted_fits (flags countMask mask : Nat) (old : Counted RenderRect)
    (stream : Bytes) : Fits (checkedCounted flags countMask mask old stream) fun _ => True := by
  apply Yields.bind (Fits.unchecked _)
  intro (count, stream) _
  apply Yields.ite (fun _ => .pure trivial)
  intro _
  apply Yields.ite (fun _ => .fails nofun)
  intro _
  apply Yields.bind (checkedRectBlob_fits count.toNat stream)
  intro list _
  exact .pure trivial

include wide in
theorem checkedField_fits (narrow : range + 128 ≤ 2147483647) (flags : Nat) (delta : Bool)
    {α : Type} {field : RenderField α} {old : α} (within : OfCoordinate (InRange range) field old)
    (stream : Bytes) :
    Fits (checkedField flags delta field old stream) fun r =>
      OfCoordinate (InRange (range + 128)) field r.1 := by
  cases field with
  | coord mask =>
    apply Yields.ite
    · intro _
      exact .pure (InRange.more within)
    · intro _
      exact checkedCoord_fits wide narrow delta within stream
  | int16 mask =>
    apply (Fits.unchecked _).weaken
    intro (value, rest) read
    simp only [readField, readSent] at read
    split at read
    · cases read
      exact InRange.more within
    · exact inRange_of_int16 wide (readI16_range read)
  | rects countMask mask => exact checkedCounted_fits flags countMask mask old stream
  | _ => exact (Fits.unchecked _).weaken fun _ _ => trivial

theorem read_fits {read : {α : Type} → RenderField α → α → Bytes → Checked (α × Bytes)}
    {before after : {α : Type} → RenderField α → α → Prop}
    (each : ∀ {α : Type} {field : RenderField α} {old : α}, before field old →
      ∀ stream, Fits (read field old stream) fun r => after field r.1)
    {α : Type} (layout : Layout RenderField α) {old : α} (held : layout.All before old)
    (stream : Bytes) : Fits (layout.read read old stream) fun r => layout.All after r.1 := by
  induction layout generalizing stream with
  | empty => exact .pure trivial
  | one field => exact each held stream
  | both first second ihFirst ihSecond =>
    apply Yields.bind (ihFirst held.1 stream)
    intro (a, stream) front
    apply Yields.bind (ihSecond held.2 stream)
    intro (b, stream) back
    exact .pure ⟨front, back⟩
  | record inner make parts whole ih =>
    apply Yields.bind (ih held stream)
    intro (a, stream) inside
    apply Yields.pure
    simp only [Layout.All, whole]
    exact inside

include wide in
theorem checkedBoundsEdge_fits (narrow : range + 128 ≤ 2147483647) (flags absolute delta : UInt8)
    (within : InRange range value) (stream : Bytes) :
    Fits (checkedBoundsEdge flags absolute delta value stream) fun r =>
      InRange (range + 128) r.1 := by
  apply Yields.ite (fun _ => .fails nofun)
  intro _
  apply Yields.ite
  · intro _
    exact checkedCoord_fits wide narrow false within stream
  · intro _
    apply Yields.ite
    · intro _
      exact checkedCoord_fits wide narrow true within stream
    · intro _
      exact .pure within.more

include wide in
theorem checkedOrderBounds_fits (narrow : range + 128 ≤ 2147483647) (control : UInt8)
    {state : RenderState} (within : state.bounds.All (InRange range)) (stream : Bytes) :
    Fits (checkedOrderBounds control state stream) fun r => r.1.All (InRange (range + 128)) := by
  have kept := within.weaken fun _ => InRange.more
  obtain ⟨left, top, right, bottom⟩ := within
  apply Yields.ite
  · intro _
    apply Yields.ite
    · intro _
      exact .pure kept
    · intro _
      apply Yields.bind (Fits.unchecked _)
      intro (flags, stream) _
      apply Yields.bind (checkedBoundsEdge_fits wide narrow flags 0x01 0x10 left stream)
      intro (left, stream) inLeft
      apply Yields.bind (checkedBoundsEdge_fits wide narrow flags 0x02 0x20 top stream)
      intro (top, stream) inTop
      apply Yields.bind (checkedBoundsEdge_fits wide narrow flags 0x04 0x40 right stream)
      intro (right, stream) inRight
      apply Yields.bind (checkedBoundsEdge_fits wide narrow flags 0x08 0x80 bottom stream)
      intro (bottom, stream) inBottom
      exact .pure ⟨inLeft, inTop, inRight, inBottom⟩
  · intro _
    exact .pure kept

end Steps

section Sizes

variable {range : Int} (half : 2 * range + 1 ≤ 2147483647)

include half in
theorem checkExtent_fits {first last : Int} (inFirst : InRange range first)
    (inLast : InRange range last) : Fits (checkExtent first last) fun _ => True := by
  unfold InRange at *
  rw [checkExtent, sub32, if_pos ⟨by omega, by omega⟩]
  apply Yields.bind (add32_fits (by omega) (by omega))
  intro _ _
  exact .pure trivial

include half in
theorem checkRect_fits {edges : RenderEdges} (within : edges.All (InRange range)) :
    Fits (checkRect edges) fun _ => True :=
  .bind (checkExtent_fits half within.1 within.2.2.1) fun _ _ =>
    checkExtent_fits half within.2.1 within.2.2.2

include half in
theorem checkBoundsOrSource_fits {bounds : Option RenderEdges} {src : RenderEdges}
    (inBounds : ∀ edges ∈ bounds, edges.All (InRange range)) (within : src.All (InRange range)) :
    Fits (checkBoundsOrSource bounds src) fun _ => True := by
  apply Yields.ite (fun _ => .pure trivial)
  intro _
  cases bounds with
  | none => exact checkRect_fits half within
  | some bounds =>
    exact .ite (fun _ => .pure trivial) fun _ => checkRect_fits half (inBounds bounds rfl)

include half in
theorem checkEdges_fits {edges : RenderEdges} (within : edges.All (InRange range)) :
    Fits (checkEdges edges) fun _ => True :=
  .bind
    (.ite (fun _ => checkExtent_fits half within.1 within.2.2.1) fun _ => .pure trivial)
    fun _ _ =>
      .ite (fun _ => checkExtent_fits half within.2.1 within.2.2.2) fun _ => .pure trivial

include half in
theorem checkExtents_fits {type : OrderType} {bounds : Option RenderEdges} {fields : Fields type}
    (inBounds : ∀ edges ∈ bounds, edges.All (InRange range))
    (within : FieldsAll (InRange range) type fields) :
    Fits (checkExtents type bounds fields) fun _ => True := by
  cases type with
  | ellipseSc => exact checkRect_fits half within.1.1
  | ellipseCb => exact checkRect_fits half within.1.1
  | saveBitmap => exact .ite (fun _ => .pure trivial) fun _ => checkRect_fits half within.2.1
  | drawNinegrid => exact checkBoundsOrSource_fits half inBounds within.1
  | multiDrawNinegrid =>
    exact .ite (fun _ => .pure trivial) fun _ =>
      checkBoundsOrSource_fits half inBounds within.1
  | fastIndex | fastGlyph =>
    obtain ⟨-, -, -, -, back, op, -⟩ := within
    exact .bind (checkEdges_fits half op) fun _ _ => checkEdges_fits half back
  | glyphIndex =>
    obtain ⟨-, -, -, -, -, -, back, op, -⟩ := within
    exact .bind (checkEdges_fits half op) fun _ _ => checkEdges_fits half back
  | _ => exact .pure trivial

end Sizes

theorem checkedFinish_fits {range : Int} (half : 2 * range + 1 ≤ 2147483647) {type : OrderType}
    {bounds : Option RenderEdges} {fields : Fields type}
    (inBounds : ∀ edges ∈ bounds, edges.All (InRange range))
    (within : FieldsAll (InRange range) type fields) :
    Fits (checkedFinish type bounds fields) fun r => FieldsAll (InRange range) type r.1 := by
  apply Yields.bind (checkExtents_fits half inBounds (settle_all within))
  intro _ _
  apply (Fits.unchecked _).weaken
  intro (settled, op) finished
  obtain ⟨rfl, -⟩ := finishOrder_ok finished
  exact settle_all within

variable {state : RenderState}

theorem checkedBody_fits {range : Int} (wide : 32768 ≤ range)
    (half : 2 * (range + 128) + 1 ≤ 2147483647)
    (within : state.All (InRange range)) (control : UInt8) (type : OrderType) (flags : Nat)
    (stream : Bytes) :
    Fits (checkedBody state control type flags stream) fun r =>
      r.2.1.All (InRange (range + 128)) := by
  have narrow : range + 128 ≤ 2147483647 := by omega
  apply Yields.bind (checkedOrderBounds_fits wide narrow control within.bounds stream)
  intro (bounds, stream) inBounds
  apply Yields.bind (read_fits (checkedField_fits wide narrow flags _) _ (within.fields type) stream)
  intro (fields, stream) inFields
  have sent : ∀ edges ∈ (if control &&& tsBounds ≠ 0 then some bounds else none),
      edges.All (InRange (range + 128)) := by
    intro edges drawn
    split at drawn
    · cases drawn
      exact inBounds
    · cases drawn
  apply Yields.bind (checkedFinish_fits half sent inFields)
  intro (settled, op) inSettled
  exact .pure ((within.weaken fun _ => InRange.more).after inSettled inBounds)

theorem checkedOrder_fits {range : Int} (wide : 32768 ≤ range)
    (half : 2 * (range + 128) + 1 ≤ 2147483647)
    (within : state.All (InRange range)) (data : Bytes) :
    Fits (checkedOrder state data) fun r => r.2.2.All (InRange (range + 128)) := by
  apply Yields.bind (Fits.unchecked _)
  intro ((control, type, flags), stream) _
  apply Yields.bind (checkedBody_fits wide half within control type flags stream)
  intro decoded inside
  exact .pure inside

/-! ## Runs -/

/-- As far as coordinates may be from zero before an order: 2^30 - 129. -/
def safeRange : Int := 1073741695

def Calm : RenderState → List Bytes → Prop
  | _, [] => True
  | state, data :: orders => state.All (InRange safeRange) ∧ Calm (renderStep state data) orders

theorem checkedRun_cons {data : Bytes} {orders : List Bytes}
    (fits : checkedOrder state data ≠ .error .overflow) :
    checkedRun state (data :: orders) = checkedRun (renderStep state data) orders := by
  have same : checkedOrder state data = unchecked (decodePrimaryRenderOrder state data) :=
    (checkedOrder_checks state data).resolve_left fits
  rw [checkedRun, renderStep, same]
  cases decodePrimaryRenderOrder state data with
  | error stop => rfl
  | ok decoded => rfl

theorem renderStep_inRange {range : Int} (wide : 32768 ≤ range)
    (half : 2 * (range + 128) + 1 ≤ 2147483647)
    (within : state.All (InRange range)) (data : Bytes) :
    (renderStep state data).All (InRange (range + 128)) := by
  have fits := checkedOrder_fits wide half within data
  have checks := checkedOrder_checks state data
  rw [renderStep]
  cases decoded : decodePrimaryRenderOrder state data with
  | error stop => exact within.weaken fun _ => InRange.more
  | ok result =>
    rw [decoded] at checks
    have same := checks.resolve_left fun overflow => fits.error _ overflow rfl
    exact fits.ok _ same

theorem renderStateInit_inRange {range : Int} (wide : 32768 ≤ range) :
    renderStateInit.All (InRange range) := by
  have zero : InRange range 0 := ⟨by omega, by omega⟩
  have rect : RenderRect.All (InRange range) {} := ⟨zero, zero, zero, zero⟩
  have edges : RenderEdges.All (InRange range) {} := ⟨zero, zero, zero, zero⟩
  have brush : Brush.All (InRange range) {} := ⟨zero, zero⟩
  exact ⟨edges, rect, rect, ⟨rect, zero, zero⟩, rect, brush, ⟨zero, zero, zero, zero⟩, ⟨zero, zero⟩,
    ⟨zero, zero⟩, edges, rect, ⟨rect, zero, zero⟩, rect, ⟨rect, brush⟩, edges, edges, edges,
    ⟨rect, zero, zero⟩, ⟨rect, zero, zero, brush⟩, ⟨edges, edges, zero, zero⟩⟩

theorem calm_of_few {range : Int} {orders : List Bytes}
    (wide : 32768 ≤ range) (few : range + 128 * orders.length ≤ safeRange)
    (within : state.All (InRange range)) : Calm state orders := by
  induction orders generalizing state range with
  | nil => exact trivial
  | cons data orders ih =>
    rw [List.length_cons] at few
    have safe : safeRange = 1073741695 := rfl
    refine ⟨within.weaken fun v held => ?_, ?_⟩
    · unfold InRange at *
      omega
    · apply ih (by omega : (32768 : Int) ≤ range + 128) (by omega)
      exact renderStep_inRange wide (by omega) within data

theorem checkedRun_calm {orders : List Bytes} (calm : Calm state orders) :
    checkedRun state orders = .ok (renderRun state orders) := by
  induction orders generalizing state with
  | nil => rfl
  | cons data orders ih =>
    obtain ⟨within, calm⟩ := calm
    have fits := checkedOrder_fits (by decide) (by decide) within data
    rw [checkedRun_cons fun overflow => fits.error _ overflow rfl, renderRun]
    exact ih calm

/-- No sum of coordinates overflows in a run whose orders each find the coordinates in the safe
    range, and in a run of at most 8388350 orders they all do. -/
theorem coordinates_fit_of_calm (orders : List Bytes) :
    (Calm renderStateInit orders →
      checkedRun renderStateInit orders = .ok (renderRun renderStateInit orders)) ∧
    (orders.length ≤ 8388350 → Calm renderStateInit orders) := by
  refine ⟨checkedRun_calm, fun few => ?_⟩
  have safe : safeRange = 1073741695 := rfl
  exact calm_of_few (Int.le_refl 32768) (by omega) (renderStateInit_inRange (Int.le_refl 32768))

/-- A DSTBLT order that only moves the rectangle, by 127 to the right. -/
def driftOrder : Bytes := [0x19, 0x00, 0x01, 0x7f]

theorem coordinates_fit_of_calm_drift :
    checkedRun renderStateInit [driftOrder, driftOrder] =
      .ok (renderRun renderStateInit [driftOrder, driftOrder]) :=
  (coordinates_fit_of_calm _).1 ((coordinates_fit_of_calm _).2 (by decide))

def driftState (x : Int) : RenderState :=
  { renderStateInit with dst := { rect := { x }, rop := 0x00 } }

theorem checkedOrder_drift (x : Int) :
    checkedOrder (driftState x) driftOrder =
      (add32 x 127 >>= fun x' => .ok ({ kind := .dstblt, rect := { x := x' } }, 4, driftState x')) := by
  have coord : checkedField 0x01 true (.coord 0x01) x [0x7f] =
      (add32 x 127 >>= fun x' => .ok (x', [])) := rfl
  have fields : (orderDecoder .dstblt).layout.read (checkedField 0x01 true) (driftState x).dst [0x7f] =
      (add32 x 127 >>= fun x' => .ok ({ rect := { x := x' }, rop := 0x00 }, [])) := by
    change ((((checkedField 0x01 true (.coord 0x01) x [0x7f] >>= _) >>= _) >>= _) >>= _) = _
    rw [coord]
    cases add32 x 127 with
    | error mishap => rfl
    | ok x' => rfl
  change (((orderDecoder .dstblt).layout.read (checkedField 0x01 true) (driftState x).dst [0x7f] >>= _)
    >>= _) = _
  rw [fields]
  cases add32 x 127 with
  | error mishap => rfl
  | ok x' => rfl

theorem checkedRun_drift {count : Nat} {x : Int} (start : 0 ≤ x)
    (fits : x + 127 * count ≤ 2147483647) (orders : List Bytes) :
    checkedRun (driftState x) (List.replicate count driftOrder ++ orders) =
      checkedRun (driftState (x + 127 * count)) orders := by
  induction count generalizing x with
  | zero =>
    have same : x + 127 * (0 : Nat) = x := by omega
    rw [same]
    rfl
  | succ count ih =>
    have order : checkedOrder (driftState x) driftOrder =
        .ok ({ kind := .dstblt, rect := { x := x + 127 } }, 4, driftState (x + 127)) := by
      rw [checkedOrder_drift, add32, if_pos ⟨by omega, by omega⟩]
      rfl
    have far : x + 127 + 127 * (count : Int) = x + 127 * ((count + 1 : Nat) : Int) := by omega
    rw [List.replicate_succ, List.cons_append, checkedRun, order]
    simp only
    rw [ih (by omega) (by omega), far]

/-- Sixteen million orders drift out of range. -/
theorem coordinates_drift_out :
    checkedRun renderStateInit (List.replicate 16909321 driftOrder) = .error .overflow := by
  have last : checkedOrder (driftState 2147483640) driftOrder = .error .overflow := by
    rw [checkedOrder_drift]
    rfl
  have begin : renderStateInit = driftState 0 := rfl
  have orders : List.replicate 16909321 driftOrder =
      List.replicate 16909320 driftOrder ++ [driftOrder] := List.replicate_succ'
  rw [begin, orders, checkedRun_drift (by decide) (by decide)]
  change (match checkedOrder (driftState 2147483640) driftOrder with
    | .ok (_, _, next) => checkedRun next []
    | .error (.stopped _) => checkedRun (driftState 2147483640) []
    | .error .overflow => .error .overflow) = _
  rw [last]

end LibRdp.Graphics
