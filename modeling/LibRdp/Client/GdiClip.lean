import LibRdp.Client.GdiCaches
import LibRdp.Graphics.GdiArithmetic

/-! # Clipping

A drawing operation is cut to its bounds and to the surface, a copy also to its source: what is cut
off the source on the left or at the top is cut off the destination too. The edges are computed
with signed 64-bit numbers and stored as unsigned 32-bit ones; here every computation checks that
its result is exact.
-/

namespace LibRdp.Client

open Graphics

inductive Inexact where
  /-- A sum or a difference that its type does not hold. -/
  | overflow
  /-- An unsigned difference below zero. -/
  | underflow
  /-- A number that a narrower type does not hold. -/
  | truncated
  deriving Repr, DecidableEq

abbrev Arith (α : Type) := Except Inexact α

/-- A result of type `int64_t`. -/
def signed64 (value : Int) : Arith Int :=
  if -(2 ^ 63) ≤ value ∧ value < 2 ^ 63 then .ok value else .error .overflow

/-- A cast to `uint32_t`. -/
def castUInt32 (value : Int) : Arith Nat :=
  if 0 ≤ value ∧ value < 2 ^ 32 then .ok value.toNat else .error .truncated

/-- A sum and a difference of type `uint32_t`. -/
def plus32 (a b : Nat) : Arith Nat := if a + b < 2 ^ 32 then .ok (a + b) else .error .overflow

def minus32 (a b : Nat) : Arith Nat := if b ≤ a then .ok (a - b) else .error .underflow

theorem signed64_ok {value : Int} (low : -(2 ^ 63) ≤ value) (high : value < 2 ^ 63) :
    signed64 value = .ok value := if_pos ⟨low, high⟩

theorem castUInt32_ok {value : Int} (low : 0 ≤ value) (high : value < 2 ^ 32) :
    castUInt32 value = .ok value.toNat := if_pos ⟨low, high⟩

theorem plus32_ok {a b : Nat} (high : a + b < 2 ^ 32) : plus32 a b = .ok (a + b) := if_pos high

theorem minus32_ok {a b : Nat} (low : b ≤ a) : minus32 a b = .ok (a - b) := if_pos low

@[simp] theorem arith_ok_bind (a : α) (f : α → Arith β) : ((.ok a : Arith α) >>= f) = f a := rfl

def boundEdges (op : RenderOp) (surfaceWidth surfaceHeight : Nat) : Arith RenderEdges :=
  match op.bounds with
  | none => pure { left := 0, top := 0, right := surfaceWidth, bottom := surfaceHeight }
  | some bounds => do
      let right ← signed64 (bounds.right + 1)
      let bottom ← signed64 (bounds.bottom + 1)
      pure { bounds with right, bottom }

/-- `rdp_session_gdi_clip_dest` with the arithmetic that it does. -/
def clipDestExact (op : RenderOp) (surfaceWidth surfaceHeight : Nat) : Arith (Option GdiRegion) :=
  if op.rect.width ≤ 0 ∨ op.rect.height ≤ 0 ∨ surfaceWidth = 0 ∨ surfaceHeight = 0 then pure none
  else do
    let right ← signed64 (op.rect.x + op.rect.width)
    let bottom ← signed64 (op.rect.y + op.rect.height)
    let clip ← boundEdges op surfaceWidth surfaceHeight
    let clipLeft := if clip.left < 0 then 0 else clip.left
    let clipTop := if clip.top < 0 then 0 else clip.top
    let clipRight := if clip.right > surfaceWidth then (surfaceWidth : Int) else clip.right
    let clipBottom := if clip.bottom > surfaceHeight then (surfaceHeight : Int) else clip.bottom
    let left := if op.rect.x < clipLeft then clipLeft else op.rect.x
    let top := if op.rect.y < clipTop then clipTop else op.rect.y
    let right := if right > clipRight then clipRight else right
    let bottom := if bottom > clipBottom then clipBottom else bottom
    if left ≥ right ∨ top ≥ bottom then pure none
    else do
      let dstX ← castUInt32 left
      let dstY ← castUInt32 top
      let across ← signed64 (right - left)
      let width ← castUInt32 across
      let down ← signed64 (bottom - top)
      let height ← castUInt32 down
      pure (some { dstX, dstY, width, height })

/-- `rdp_session_gdi_region`. -/
structure CopyRegion extends GdiRegion where
  srcX : Nat
  srcY : Nat
  deriving Repr, DecidableEq

/-- A side that begins before its source does: both are cut, or nothing is left. -/
def shiftSide (dst length : Nat) (src : Int) : Arith (Option (Nat × Nat × Int)) :=
  if src < 0 then do
    let shift ← signed64 (-src)
    if shift ≥ length then pure none
    else do
      let shift ← castUInt32 shift
      let dst ← plus32 dst shift
      let length ← minus32 length shift
      pure (some (dst, length, 0))
  else pure (some (dst, length, src))

def cutSide (length : Nat) (src : Nat) (size : Nat) : Arith Nat := do
  let room ← minus32 size src
  pure (if length > room then room else length)

def sourceOf (src : Int) (dst : Nat) (rect : Int) : Arith Int := do
  let inside ← signed64 (dst - rect)
  signed64 (src + inside)

def clipSource (op : RenderOp) (sourceWidth sourceHeight : Nat) (region : GdiRegion) :
    Arith (Option CopyRegion) := do
  let srcX ← sourceOf op.srcX region.dstX op.rect.x
  let srcY ← sourceOf op.srcY region.dstY op.rect.y
  match ← shiftSide region.dstX region.width srcX with
  | none => pure none
  | some (dstX, width, srcX) =>
      match ← shiftSide region.dstY region.height srcY with
      | none => pure none
      | some (dstY, height, srcY) =>
          if srcX ≥ sourceWidth ∨ srcY ≥ sourceHeight then pure none
          else do
            let srcX ← castUInt32 srcX
            let srcY ← castUInt32 srcY
            let width ← cutSide width srcX sourceWidth
            let height ← cutSide height srcY sourceHeight
            if width = 0 ∨ height = 0 then pure none
            else pure (some { dstX, dstY, width, height, srcX, srcY })

/-- `rdp_session_gdi_clip_copy`. -/
def clipCopy (op : RenderOp) (surfaceWidth surfaceHeight : Nat) : Arith (Option CopyRegion) := do
  match ← clipDestExact op surfaceWidth surfaceHeight with
  | none => pure none
  | some region => clipSource op surfaceWidth surfaceHeight region

/-- `rdp_session_gdi_clip_bitmap_copy`. -/
def clipBitmapCopy (op : RenderOp) (surfaceWidth surfaceHeight sourceWidth sourceHeight : Nat) :
    Arith (Option CopyRegion) := do
  match ← clipDestExact op surfaceWidth surfaceHeight with
  | none => pure none
  | some region =>
      if sourceWidth = 0 ∨ sourceHeight = 0 then pure none
      else clipSource op sourceWidth sourceHeight region

def GdiRegion.Holds (region : GdiRegion) (x y : Int) : Prop :=
  region.dstX ≤ x ∧ x < region.dstX + region.width ∧
    region.dstY ≤ y ∧ y < region.dstY + region.height

structure InDest (op : RenderOp) (surfaceWidth surfaceHeight : Nat) (x y : Int) : Prop where
  rect : op.rect.x ≤ x ∧ x < op.rect.x + op.rect.width ∧
    op.rect.y ≤ y ∧ y < op.rect.y + op.rect.height
  bounds : ∀ bounds ∈ op.bounds, bounds.left ≤ x ∧ x ≤ bounds.right ∧
    bounds.top ≤ y ∧ y ≤ bounds.bottom
  surface : 0 ≤ x ∧ x < surfaceWidth ∧ 0 ≤ y ∧ y < surfaceHeight

structure InCopy (op : RenderOp) (surfaceWidth surfaceHeight sourceWidth sourceHeight : Nat)
    (x y : Int) : Prop where
  dest : InDest op surfaceWidth surfaceHeight x y
  source : 0 ≤ op.srcX + x - op.rect.x ∧ op.srcX + x - op.rect.x < sourceWidth ∧
    0 ≤ op.srcY + y - op.rect.y ∧ op.srcY + y - op.rect.y < sourceHeight

def DrawsExactly (found : Option GdiRegion) (drawn : Int → Int → Prop) : Prop :=
  (found = none ↔ ∀ x y, ¬ drawn x y) ∧
    ∀ region ∈ found, ∀ x y, region.Holds x y ↔ drawn x y

def CopyRegion.Pairs (region : CopyRegion) (op : RenderOp) : Prop :=
  ∀ x y, region.Holds x y →
    region.srcX + (x - region.dstX) = op.srcX + x - op.rect.x ∧
      region.srcY + (y - region.dstY) = op.srcY + y - op.rect.y

/-- All numbers of an operation that clipping reads are of type `int32_t`. -/
structure Int32Op (op : RenderOp) : Prop where
  rect : op.rect.All fun v => -(2 ^ 31) ≤ v ∧ v < 2 ^ 31
  src : (-(2 ^ 31) ≤ op.srcX ∧ op.srcX < 2 ^ 31) ∧ -(2 ^ 31) ≤ op.srcY ∧ op.srcY < 2 ^ 31
  bounds : ∀ bounds ∈ op.bounds, bounds.All fun v => -(2 ^ 31) ≤ v ∧ v < 2 ^ 31

theorem ite_lt_eq_max (a b : Int) : (if a < b then b else a) = max a b := by
  split <;> omega

theorem ite_gt_eq_min (a b : Int) : (if a > b then b else a) = min a b := by
  split <;> omega

section Dest

variable {op : RenderOp} {surfaceWidth surfaceHeight : Nat}

theorem boundEdges_ok (fits : Int32Op op) :
    boundEdges op surfaceWidth surfaceHeight = .ok (clipEdges op surfaceWidth surfaceHeight) := by
  unfold boundEdges clipEdges
  cases bounds : op.bounds with
  | none => rfl
  | some edges =>
    obtain ⟨-, -, right, bottom⟩ := fits.bounds edges bounds
    simp only
    rw [signed64_ok (by omega) (by omega), signed64_ok (by omega) (by omega)]
    rfl

theorem clipDestExact_ok (fits : Int32Op op) (across : surfaceWidth < 2 ^ 32)
    (down : surfaceHeight < 2 ^ 32) :
    clipDestExact op surfaceWidth surfaceHeight = .ok (clipDest op surfaceWidth surfaceHeight) := by
  obtain ⟨x, y, width, height⟩ := fits.rect
  have wide : (surfaceWidth : Int) < (2 ^ 32 : Nat) := Int.ofNat_lt.mpr across
  have high : (surfaceHeight : Int) < (2 ^ 32 : Nat) := Int.ofNat_lt.mpr down
  unfold clipDestExact clipDest
  split
  · rfl
  rw [signed64_ok (by omega) (by omega), signed64_ok (by omega) (by omega), boundEdges_ok fits]
  simp only [arith_ok_bind, ite_lt_eq_max, ite_gt_eq_min]
  generalize clipEdges op surfaceWidth surfaceHeight = clip
  split
  · rfl
  rw [castUInt32_ok (by omega) (by omega), castUInt32_ok (by omega) (by omega),
    signed64_ok (by omega) (by omega), signed64_ok (by omega) (by omega)]
  simp only [arith_ok_bind]
  rw [castUInt32_ok (by omega) (by omega), castUInt32_ok (by omega) (by omega)]
  rfl

end Dest

variable {drawn : Int → Int → Prop}

theorem DrawsExactly.nothing (none' : ∀ x y, ¬ drawn x y) : DrawsExactly none drawn :=
  ⟨⟨fun _ => none', fun _ => rfl⟩, nofun⟩

theorem DrawsExactly.region {region : GdiRegion} (wide : 0 < region.width)
    (high : 0 < region.height) (holds : ∀ x y, region.Holds x y ↔ drawn x y) :
    DrawsExactly (some region) drawn := by
  refine ⟨⟨nofun, fun none' => ?_⟩, ?_⟩
  · have first : region.Holds region.dstX region.dstY :=
      ⟨Int.le_refl _, by omega, Int.le_refl _, by omega⟩
    exact absurd ((holds _ _).mp first) (none' _ _)
  · intro other found
    cases found
    exact holds

variable {op : RenderOp} {surfaceWidth surfaceHeight : Nat}

theorem inDest_iff {x y : Int} :
    InDest op surfaceWidth surfaceHeight x y ↔
      (op.rect.x ≤ x ∧ x < op.rect.x + op.rect.width ∧
        op.rect.y ≤ y ∧ y < op.rect.y + op.rect.height) ∧
      ((clipEdges op surfaceWidth surfaceHeight).left ≤ x ∧
        x < (clipEdges op surfaceWidth surfaceHeight).right ∧
        (clipEdges op surfaceWidth surfaceHeight).top ≤ y ∧
        y < (clipEdges op surfaceWidth surfaceHeight).bottom) ∧
      0 ≤ x ∧ x < surfaceWidth ∧ 0 ≤ y ∧ y < surfaceHeight := by
  unfold clipEdges
  constructor
  · rintro ⟨rect, bounds, surface⟩
    refine ⟨rect, ?_, surface⟩
    cases found : op.bounds with
    | none =>
      simp only
      omega
    | some edges =>
      have inside := bounds edges found
      simp only
      omega
  · rintro ⟨rect, inside, surface⟩
    refine ⟨rect, fun edges found => ?_, surface⟩
    rw [Option.mem_def.mp found] at inside
    simp only at inside
    omega

theorem clipSide_iff {start length low high size v : Int}
    (some' : max start (max low 0) < min (start + length) (min high size)) :
    ((max start (max low 0)).toNat ≤ v ∧ v < (max start (max low 0)).toNat +
        (min (start + length) (min high size) - max start (max low 0)).toNat) ↔
      (start ≤ v ∧ v < start + length) ∧ (low ≤ v ∧ v < high) ∧ 0 ≤ v ∧ v < size := by
  omega

theorem clipDest_draws (op : RenderOp) (surfaceWidth surfaceHeight : Nat) :
    DrawsExactly (clipDest op surfaceWidth surfaceHeight) (InDest op surfaceWidth surfaceHeight) := by
  unfold clipDest
  split
  · apply DrawsExactly.nothing
    intro x y inside
    obtain ⟨rect, -, surface⟩ := inDest_iff.mp inside
    omega
  simp only
  split
  · apply DrawsExactly.nothing
    intro x y inside
    obtain ⟨rect, clip, surface⟩ := inDest_iff.mp inside
    omega
  apply DrawsExactly.region
  · simp only
    omega
  · simp only
    omega
  · intro x y
    rw [inDest_iff]
    simp only [GdiRegion.Holds]
    rw [← and_assoc, clipSide_iff (by omega), clipSide_iff (by omega)]
    tauto

section Source

variable {dst length : Nat} {src : Int}

inductive Shifted (dst length : Nat) (src : Int) : Option (Nat × Nat × Int) → Prop where
  | nothing (before : ∀ v : Int, dst ≤ v → v < dst + length → src + (v - dst) < 0) :
      Shifted dst length src none
  | left {dst' length' : Nat} {src' : Int} (some' : 0 < length') (begins : 0 ≤ src')
      (ends : dst' + length' = dst + length) (later : dst ≤ dst')
      (same : src' - dst' = src - dst) (first : dst' = dst ∨ src' = 0) :
      Shifted dst length src (some (dst', length', src'))

theorem shiftSide_ok (some' : 0 < length) (inside : dst + length < 2 ^ 32)
    (low : -(2 ^ 63) < src) :
    ∃ found, shiftSide dst length src = .ok found ∧ Shifted dst length src found := by
  unfold shiftSide
  split
  · rename_i negative
    rw [signed64_ok (by omega) (by omega)]
    simp only [arith_ok_bind]
    split
    · exact ⟨none, rfl, .nothing fun v _ _ => by omega⟩
    rw [castUInt32_ok (by omega) (by omega)]
    simp only [arith_ok_bind]
    rw [plus32_ok (by omega), minus32_ok (by omega)]
    exact ⟨_, rfl, .left (by omega) (Int.le_refl 0) (by omega) (by omega) (by omega) (.inr rfl)⟩
  · exact ⟨_, rfl, .left some' (by omega) rfl (Nat.le_refl dst) rfl (.inl rfl)⟩

theorem cutSide_ok {length src size : Nat} (inside : src ≤ size) :
    cutSide length src size = .ok (min length (size - src)) := by
  rw [cutSide, minus32_ok inside]
  change Except.ok _ = Except.ok _
  congr 1
  split <;> omega

theorem sourceOf_ok {rect : Int} (src' : -(2 ^ 31) ≤ src ∧ src < 2 ^ 31) (inside : dst < 2 ^ 32)
    (rect' : -(2 ^ 31) ≤ rect ∧ rect < 2 ^ 31) :
    sourceOf src dst rect = .ok (src + (dst - rect)) := by
  rw [sourceOf, signed64_ok (by omega) (by omega)]
  exact signed64_ok (by omega) (by omega)

theorem Shifted.holds {dst' length' size : Nat} {src' : Int}
    (shifted : Shifted dst length src (some (dst', length', src'))) (v : Int) :
    (dst' ≤ v ∧ v < dst' + (min length' (size - src'.toNat) : Nat)) ↔
      (dst ≤ v ∧ v < dst + length) ∧ 0 ≤ src + (v - dst) ∧ src + (v - dst) < size := by
  obtain _ | ⟨some', begins, ends, later, same, first⟩ := shifted
  omega

end Source

variable {sourceWidth sourceHeight : Nat}

theorem clipSource_ok (fits : Int32Op op) {region : GdiRegion} (wide : 0 < region.width)
    (high : 0 < region.height) (across : region.dstX + region.width < 2 ^ 32)
    (down : region.dstY + region.height < 2 ^ 32) (sourceWide : sourceWidth < 2 ^ 32)
    (sourceHigh : sourceHeight < 2 ^ 32) :
    ∃ found, clipSource op sourceWidth sourceHeight region = .ok found ∧
      DrawsExactly (found.map CopyRegion.toGdiRegion) (fun x y => region.Holds x y ∧
        (0 ≤ op.srcX + x - op.rect.x ∧ op.srcX + x - op.rect.x < sourceWidth ∧
          0 ≤ op.srcY + y - op.rect.y ∧ op.srcY + y - op.rect.y < sourceHeight)) ∧
      ∀ copied ∈ found, copied.Pairs op := by
  obtain ⟨rectX, rectY, -⟩ := fits.rect
  obtain ⟨srcX, srcY⟩ := fits.src
  unfold clipSource
  rw [sourceOf_ok srcX (by omega) rectX, sourceOf_ok srcY (by omega) rectY]
  simp only [arith_ok_bind]
  obtain ⟨foundX, shiftX, shiftedX⟩ := @shiftSide_ok region.dstX region.width
    (op.srcX + (region.dstX - op.rect.x)) wide across (by omega)
  obtain ⟨foundY, shiftY, shiftedY⟩ := @shiftSide_ok region.dstY region.height
    (op.srcY + (region.dstY - op.rect.y)) high down (by omega)
  rw [shiftX]
  cases shiftedX with
  | nothing before =>
    refine ⟨none, rfl, .nothing ?_, nofun⟩
    rintro x y ⟨⟨left, right, -⟩, source⟩
    have outside := before x left right
    omega
  | left someX beginsX endsX laterX sameX firstX =>
    have holdsX := @Shifted.holds _ _ _ _ _ sourceWidth _
      (.left someX beginsX endsX laterX sameX firstX)
    simp only [arith_ok_bind]
    rw [shiftY]
    cases shiftedY with
    | nothing before =>
      refine ⟨none, rfl, .nothing ?_, nofun⟩
      rintro x y ⟨⟨-, -, top, bottom⟩, source⟩
      have outside := before y top bottom
      omega
    | left someY beginsY endsY laterY sameY firstY =>
      have holdsY := @Shifted.holds _ _ _ _ _ sourceHeight _
        (.left someY beginsY endsY laterY sameY firstY)
      simp only [arith_ok_bind]
      split
      · refine ⟨none, rfl, .nothing ?_, nofun⟩
        rintro x y ⟨⟨left, right, top, bottom⟩, source⟩
        omega
      rw [castUInt32_ok beginsX (by omega), castUInt32_ok beginsY (by omega)]
      simp only [arith_ok_bind]
      rw [cutSide_ok (by omega), cutSide_ok (by omega)]
      simp only [arith_ok_bind]
      rw [if_neg (by omega)]
      refine ⟨_, rfl, .region ?_ ?_ ?_, ?_⟩
      · simp only
        omega
      · simp only
        omega
      · intro x y
        have source : op.srcX + (region.dstX - op.rect.x) + (x - region.dstX) =
            op.srcX + x - op.rect.x := by omega
        have source' : op.srcY + (region.dstY - op.rect.y) + (y - region.dstY) =
            op.srcY + y - op.rect.y := by omega
        rw [← source, ← source']
        simp only [GdiRegion.Holds]
        rw [← and_assoc, holdsX x, holdsY y]
        tauto
      · intro copied found
        cases found
        intro x y _
        simp only
        omega

/-- What a copy finds is what it is to draw, and every pixel comes from where it belongs. -/
def CopiesExactly (result : Arith (Option CopyRegion)) (op : RenderOp)
    (surfaceWidth surfaceHeight sourceWidth sourceHeight : Nat) : Prop :=
  ∃ found, result = .ok found ∧
    DrawsExactly (found.map CopyRegion.toGdiRegion)
      (InCopy op surfaceWidth surfaceHeight sourceWidth sourceHeight) ∧
    ∀ region ∈ found, region.Pairs op

theorem clipSource_copies (fits : Int32Op op) (across : surfaceWidth < 2 ^ 32)
    (down : surfaceHeight < 2 ^ 32) (sourceWide : sourceWidth < 2 ^ 32)
    (sourceHigh : sourceHeight < 2 ^ 32) {region : GdiRegion}
    (clipped : clipDest op surfaceWidth surfaceHeight = some region) :
    CopiesExactly (clipSource op sourceWidth sourceHeight region) op surfaceWidth surfaceHeight
      sourceWidth sourceHeight := by
  obtain ⟨right, bottom⟩ := (SavedBitmaps.clipDest_some clipped).2.2
  obtain ⟨some', holds⟩ := clipDest_draws op surfaceWidth surfaceHeight
  have wide : 0 < region.width ∧ 0 < region.height := (SavedBitmaps.clipDest_some clipped).1
  obtain ⟨found, ran, draws, pairs⟩ := clipSource_ok fits wide.1 wide.2 (by omega) (by omega)
    sourceWide sourceHigh
  refine ⟨found, ran, ?_, pairs⟩
  have same : InCopy op surfaceWidth surfaceHeight sourceWidth sourceHeight = fun x y =>
      region.Holds x y ∧ (0 ≤ op.srcX + x - op.rect.x ∧ op.srcX + x - op.rect.x < sourceWidth ∧
        0 ≤ op.srcY + y - op.rect.y ∧ op.srcY + y - op.rect.y < sourceHeight) := by
    funext x y
    rw [holds region clipped x y]
    exact propext ⟨fun copied => ⟨copied.dest, copied.source⟩, fun both => ⟨both.1, both.2⟩⟩
  rw [same]
  exact draws

theorem copies_nothing
    (none' : ∀ x y, ¬ InCopy op surfaceWidth surfaceHeight sourceWidth sourceHeight x y) :
    CopiesExactly (pure none) op surfaceWidth surfaceHeight sourceWidth sourceHeight :=
  ⟨none, rfl, .nothing none', nofun⟩

/-- Clipping is exact: whatever the operation, the surface and the source, no computation overflows
    and no difference falls below zero, what is found is what is to be drawn, with the source pixels
    that belong to it, and nothing is found if there is nothing to draw. -/
theorem clip_exact (op : RenderOp) (fits : Int32Op op)
    (surfaceWidth surfaceHeight sourceWidth sourceHeight : UInt32) :
    CopiesExactly (clipBitmapCopy op surfaceWidth.toNat surfaceHeight.toNat sourceWidth.toNat
        sourceHeight.toNat) op surfaceWidth.toNat surfaceHeight.toNat sourceWidth.toNat
        sourceHeight.toNat ∧
      CopiesExactly (clipCopy op surfaceWidth.toNat surfaceHeight.toNat) op surfaceWidth.toNat
        surfaceHeight.toNat surfaceWidth.toNat surfaceHeight.toNat := by
  have across := surfaceWidth.toNat_lt
  have down := surfaceHeight.toNat_lt
  have sourceWide := sourceWidth.toNat_lt
  have sourceHigh := sourceHeight.toNat_lt
  unfold clipBitmapCopy clipCopy
  rw [clipDestExact_ok fits across down]
  simp only [arith_ok_bind]
  cases clipped : clipDest op surfaceWidth.toNat surfaceHeight.toNat with
  | none =>
      have draws := clipDest_draws op surfaceWidth.toNat surfaceHeight.toNat
      have empty := draws.1.mp clipped
      exact ⟨copies_nothing fun x y copied => empty x y copied.dest,
        copies_nothing fun x y copied => empty x y copied.dest⟩
  | some region =>
      refine ⟨?_, clipSource_copies fits across down across down clipped⟩
      simp only
      split
      · apply copies_nothing
        intro x y copied
        have inside := copied.source
        omega
      · exact clipSource_copies fits across down sourceWide sourceHigh clipped

def cornerCopy : RenderOp :=
  { kind := .memblt, rect := { x := -1, y := -1, width := 4, height := 4 }, srcX := -2, srcY := 0
    bounds := some { left := 0, top := 0, right := 2, bottom := 1 } }

theorem clip_exact_corner :
    CopiesExactly (clipBitmapCopy cornerCopy 8 8 2 3) cornerCopy 8 8 2 3 ∧
      clipBitmapCopy cornerCopy 8 8 2 3 =
        .ok (some { dstX := 1, dstY := 0, width := 2, height := 2, srcX := 0, srcY := 1 }) := by
  refine ⟨(clip_exact cornerCopy ⟨?_, ?_, ?_⟩ 8 8 2 3).1, rfl⟩
  · exact ⟨by decide, by decide, by decide, by decide⟩
  · exact ⟨by decide, by decide⟩
  · intro bounds found
    cases found
    exact ⟨by decide, by decide, by decide, by decide⟩

end LibRdp.Client
