import LibRdp.Client.GdiClip
import LibRdp.Coding.Pixels

/-! # Saving and restoring a part of the surface

A save keeps the part of its rectangle that is on the surface, with the place where that part
begins in the rectangle. A restore draws what was kept at the same places of its own rectangle. It
cuts what is kept on the right and at the bottom, but it draws nothing if its own part begins left
of or above what is kept.
-/

namespace LibRdp.Client

open Graphics Coding Machine Machine.Table

/-- `rdp_session_gdi_restore_bitmap`: its status and the pixels of the surface. -/
def SavedBitmaps.restoreBitmap (saved : SavedBitmaps) (raster : Raster) (op : RenderOp)
    (region : GdiRegion) : Exec (Status × Bytes) :=
  match saved.find op.bitmapId with
  | none => pure (.ok, raster.pixels)
  | some (_, entry) =>
      if (region.dstX : Int) - op.rect.x < entry.originX ∨
          (region.dstY : Int) - op.rect.y < entry.originY then pure (.ok, raster.pixels)
      else
        let srcX := (region.dstX - op.rect.x - entry.originX).toNat
        let srcY := (region.dstY - op.rect.y - entry.originY).toNat
        if srcX ≥ entry.width ∨ srcY ≥ entry.height then pure (.ok, raster.pixels)
        else do
          let roomX ← checkedSub entry.width srcX
          let roomY ← checkedSub entry.height srcY
          let width := if region.width > roomX then roomX else region.width
          let height := if region.height > roomY then roomY else region.height
          if width = 0 ∨ height = 0 then pure (.ok, raster.pixels)
          else if raster.stride = 0 then pure (.invalidArgument, raster.pixels)
          else do
            let rows ← readRows entry.pixels ((srcY * entry.width + srcX) * 4) (entry.width * 4)
              (width * 4) height
            let pixels ← writeRows raster.pixels (region.dstY * raster.stride + region.dstX * 4)
              raster.stride rows
            pure (.ok, pixels)

/-- The case of a save-bitmap order in `rdp_session_apply_gdi_render_op_core`: the status, what is
    saved and the pixels of the surface. -/
def SavedBitmaps.renderSaveBitmap (saved : SavedBitmaps) (raster : Raster) (op : RenderOp) :
    Exec (Status × SavedBitmaps × Bytes) :=
  match clipDest op raster.width raster.height with
  | none => pure (.ok, saved, raster.pixels)
  | some region =>
      if op.operation = 0 then
        let (status, saved) := saved.saveBitmap raster op region
        pure (status, saved, raster.pixels)
      else if op.operation = 1 then do
        let (status, pixels) ← saved.restoreBitmap raster op region
        pure (status, saved, pixels)
      else pure (.protocolError, saved, raster.pixels)

inductive SavedBitmaps.Reached : SavedBitmaps → Prop where
  | start : Reached {}
  | order {saved saved' : SavedBitmaps} {raster : Raster} {op : RenderOp} {status : Status}
      {pixels : Bytes} (reached : Reached saved)
      (rendered : saved.renderSaveBitmap raster op = .ok (status, saved', pixels)) : Reached saved'
  | clear {saved : SavedBitmaps} (reached : Reached saved) : Reached saved.clear

def Raster.pixel (raster : Raster) (x y part : Nat) : Option UInt8 :=
  pixelCell 4 raster.width raster.pixels x y part

/-- Pixel `x`, `y` of the restored part has the place in its rectangle that pixel `qx`, `qy` of the
    saved part has in its own. -/
structure SamePlace (raster back : Raster) (save restore : RenderOp) (x y qx qy : Nat) : Prop where
  saved : ∃ region, clipDest save raster.width raster.height = some region ∧ region.Holds qx qy
  restored : ∃ region, clipDest restore back.width back.height = some region ∧ region.Holds x y
  across : (x : Int) - restore.rect.x = qx - save.rect.x
  down : (y : Int) - restore.rect.y = qy - save.rect.y

/-- With what was saved of `raster`, a restore onto `back` gives the pixels of the restored part
    that were saved their colours back, and leaves all others. -/
def RestoresSaved (saved : SavedBitmaps) (raster back : Raster) (save restore : RenderOp) : Prop :=
  ∃ pixels, saved.renderSaveBitmap back restore = .ok (.ok, saved, pixels) ∧
    ∀ x < back.width, ∀ y < back.height, ∀ part < 4,
      (∀ qx qy, SamePlace raster back save restore x y qx qy →
        pixelCell 4 back.width pixels x y part = raster.pixel qx qy part) ∧
      ((∀ qx qy, ¬ SamePlace raster back save restore x y qx qy) →
        pixelCell 4 back.width pixels x y part = back.pixel x y part)

namespace SavedBitmap

def Covers (entry : SavedBitmap) (x y : Int) : Prop :=
  entry.originX ≤ x ∧ x < entry.originX + entry.width ∧
    entry.originY ≤ y ∧ y < entry.originY + entry.height

def pixel (entry : SavedBitmap) (x y : Int) (part : Nat) : Option UInt8 :=
  pixelCell 4 entry.width entry.pixels (x - entry.originX).toNat (y - entry.originY).toNat part

def BeginsBefore (entry : SavedBitmap) (op : RenderOp) (region : GdiRegion) : Prop :=
  (entry.originX : Int) ≤ region.dstX - op.rect.x ∧ (entry.originY : Int) ≤ region.dstY - op.rect.y

end SavedBitmap

def keptBitmap (raster : Raster) (op : RenderOp) (region : GdiRegion) : SavedBitmap where
  active := true
  bitmapId := op.bitmapId
  width := region.width
  height := region.height
  originX := (region.dstX - op.rect.x).toNat
  originY := (region.dstY - op.rect.y).toNat
  pixels := SavedBitmaps.copyRows raster region

def SavedBitmap.Sized (entry : SavedBitmap) : Prop :=
  entry.active = true → entry.pixels.length = 4 * entry.width * entry.height

structure SavedBitmaps.Kept (saved : SavedBitmaps) : Prop where
  accounted : saved.Accounted
  sized : Every SavedBitmap.Sized saved.entries

namespace SavedBitmaps

variable {saved saved' : SavedBitmaps} {raster : Raster} {op : RenderOp} {region : GdiRegion}

theorem slot_sized (sized : Every SavedBitmap.Sized saved.entries) (bitmapId : UInt32) :
    Every SavedBitmap.Sized (saved.slot bitmapId).2.entries := by
  unfold slot
  split
  · exact sized
  split
  · exact sized
  simp only [evict]
  split
  · exact sized
  split
  · exact sized.set nofun
  · exact sized.set nofun

theorem saveBitmap_entries (wide : 0 < region.width) (high : 0 < region.height) :
    (saved.saveBitmap raster op region).1 = .ok ∧
      (saved.saveBitmap raster op region).2.entries =
        (saved.slot op.bitmapId).2.entries.set (saved.slot op.bitmapId).1
          (keptBitmap raster op region) ∨
    (saved.saveBitmap raster op region).1 ≠ .ok ∧
      ((saved.saveBitmap raster op region).2.entries = saved.entries ∨
        (saved.saveBitmap raster op region).2.entries = (saved.slot op.bitmapId).2.entries) := by
  unfold saveBitmap
  rw [if_neg (by omega)]
  simp only
  generalize saved.slot op.bitmapId = picked
  repeat' split
  all_goals first
    | exact .inl ⟨rfl, rfl⟩
    | exact .inr ⟨nofun, .inl rfl⟩
    | exact .inr ⟨nofun, .inr rfl⟩

theorem keptBitmap_sized (across : region.dstX + region.width ≤ raster.width)
    (down : region.dstY + region.height ≤ raster.height) :
    (keptBitmap raster op region).Sized := by
  intro _
  rw [keptBitmap, copyRows_length across down, Nat.mul_comm region.width]

theorem saveBitmap_kept (kept : saved.Kept) (across : region.dstX + region.width ≤ raster.width)
    (down : region.dstY + region.height ≤ raster.height) (wide : 0 < region.width)
    (high : 0 < region.height) : (saved.saveBitmap raster op region).2.Kept := by
  refine ⟨saveBitmap_accounted kept.accounted across down, ?_⟩
  have slots := slot_sized kept.sized op.bitmapId
  rcases @saveBitmap_entries saved raster op region wide high with
    ⟨-, same⟩ | ⟨-, same | same⟩
  · rw [same]
    exact slots.set (keptBitmap_sized across down)
  · rw [same]
    exact kept.sized
  · rw [same]
    exact slots

theorem saveBitmap_find (accounted : saved.Accounted) (wide : 0 < region.width)
    (high : 0 < region.height) (stored : (saved.saveBitmap raster op region).1 = .ok) :
    ∃ i, (saved.saveBitmap raster op region).2.find op.bitmapId =
      some (i, keptBitmap raster op region) := by
  obtain ⟨kept, entry, held, own, free⟩ := slot_accounted accounted op.bitmapId
  have entries := ((@saveBitmap_entries saved raster op region wide high).resolve_right
    fun failed => failed.1 stored).2
  have here : (saved.saveBitmap raster op region).2.entries[(saved.slot op.bitmapId).1]? =
      some (keptBitmap raster op region) := by
    rw [entries]
    exact getElem?_set_held held
  cases found : (saved.saveBitmap raster op region).2.find op.bitmapId with
  | none =>
    have fails := lookup_none found here
    simp [keptBitmap] at fails
  | some hit =>
    obtain ⟨j, other⟩ := hit
    obtain ⟨atJ, passes⟩ := lookup_some found
    simp only [Bool.and_eq_true, beq_iff_eq] at passes
    rw [entries] at atJ
    rcases getElem?_set_cases atJ with ⟨rfl, rfl, -⟩ | ⟨apart, before⟩
    · exact ⟨_, rfl⟩
    · cases active : entry.active with
      | true =>
        exact absurd (kept.ids before held passes.1 active (passes.2.trans (own active).symm))
          apart
      | false => exact absurd passes.2 (free active j other before passes.1)

theorem renderSaveBitmap_kept (kept : saved.Kept) {status : Status} {pixels : Bytes}
    (rendered : saved.renderSaveBitmap raster op = .ok (status, saved', pixels)) : saved'.Kept := by
  unfold renderSaveBitmap at rendered
  split at rendered
  · cases rendered
    exact kept
  rename_i clipped
  obtain ⟨across, down⟩ := (clipDest_some clipped).2.2
  obtain ⟨wide, high⟩ := (clipDest_some clipped).1
  split at rendered
  · cases rendered
    exact saveBitmap_kept kept across down wide high
  split at rendered
  · obtain ⟨result, -, rendered⟩ := bind_eq_ok.mp rendered
    cases rendered
    exact kept
  · cases rendered
    exact kept

theorem Reached.kept (reached : saved.Reached) : saved.Kept := by
  induction reached with
  | start => exact ⟨.empty, every_replicate _ nofun⟩
  | order reached rendered ih => exact renderSaveBitmap_kept ih rendered
  | clear reached ih => exact ⟨clear_accounted ih.accounted.whole, every_replicate _ nofun⟩

theorem rows_inside (across : region.dstX + region.width ≤ raster.width)
    (down : region.dstY + region.height ≤ raster.height) :
    RowsFit raster.pixels.length (region.dstY * raster.stride + region.dstX * 4) raster.stride
      (region.width * 4) region.height := by
  rw [raster.whole, Nat.mul_comm raster.width 4]
  exact rowsFit_inside across down

theorem copyRows_pixel (across : region.dstX + region.width ≤ raster.width)
    (down : region.dstY + region.height ≤ raster.height) {c r part : Nat}
    (column : c < region.width) (row : r < region.height) (small : part < 4) :
    pixelCell 4 region.width (copyRows raster region) c r part =
      raster.pixel (region.dstX + c) (region.dstY + r) part := by
  have fit := rows_inside across down
  have lengths : ∀ line ∈ (List.range region.height).map fun y =>
      (raster.pixels.drop ((region.dstY + y) * raster.stride + region.dstX * 4)).take
        (region.width * 4), line.length = region.width * 4 := by
    intro line held
    obtain ⟨y, inside, rfl⟩ := List.mem_map.mp held
    have here := fit y (List.mem_range.mp inside)
    rw [List.length_take, List.length_drop, Nat.add_mul]
    omega
  have rowLength : r < ((List.range region.height).map fun y =>
      (raster.pixels.drop ((region.dstY + y) * raster.stride + region.dstX * 4)).take
        (region.width * 4)).length := by
    rw [List.length_map, List.length_range]
    exact row
  have place : c * 4 + part < region.width * 4 := by omega
  rw [pixelCell, Nat.add_assoc, copyRows, List.flatMap_def,
    flatten_rows_getElem? lengths rowLength place, List.getElem?_map,
    List.getElem?_range row, Option.map_some, Option.bind_some, List.getElem?_take_of_lt place,
    List.getElem?_drop, Raster.pixel, pixelCell]
  congr 1
  rw [Raster.stride, Nat.add_mul region.dstX]
  omega

structure Restored (raster : Raster) (op : RenderOp) (region : GdiRegion) (entry : SavedBitmap)
    (pixels : Bytes) : Prop where
  drawn : entry.BeginsBefore op region → ∀ x y : Nat, region.Holds x y →
    entry.Covers (x - op.rect.x) (y - op.rect.y) → ∀ part < 4,
    pixelCell 4 raster.width pixels x y part = entry.pixel (x - op.rect.x) (y - op.rect.y) part
  kept : ∀ x < raster.width, ∀ y : Nat, ¬ (entry.BeginsBefore op region ∧ region.Holds x y ∧
    entry.Covers (x - op.rect.x) (y - op.rect.y)) → ∀ part < 4,
    pixelCell 4 raster.width pixels x y part = raster.pixel x y part

theorem restoreBitmap_ok (kept : saved.Kept) {i : Nat} {entry : SavedBitmap}
    (found : saved.find op.bitmapId = some (i, entry))
    (across : region.dstX + region.width ≤ raster.width)
    (down : region.dstY + region.height ≤ raster.height) (wide : 0 < region.width)
    (high : 0 < region.height) :
    ∃ pixels, saved.restoreBitmap raster op region = .ok (.ok, pixels) ∧
      Restored raster op region entry pixels := by
  unfold restoreBitmap
  rw [found]
  simp only
  split
  · rename_i early
    refine ⟨raster.pixels, rfl, fun begins => ?_, fun _ _ _ _ _ _ => rfl⟩
    unfold SavedBitmap.BeginsBefore at begins
    omega
  split
  · rename_i late
    refine ⟨raster.pixels, rfl, fun begins x y holds covers => ?_, fun _ _ _ _ _ _ => rfl⟩
    unfold GdiRegion.Holds at holds
    unfold SavedBitmap.Covers at covers
    omega
  rename_i early late
  obtain ⟨srcX, placeX⟩ : ∃ srcX : Nat, (srcX : Int) = region.dstX - op.rect.x - entry.originX :=
    ⟨_, Int.toNat_of_nonneg (by omega)⟩
  obtain ⟨srcY, placeY⟩ : ∃ srcY : Nat, (srcY : Int) = region.dstY - op.rect.y - entry.originY :=
    ⟨_, Int.toNat_of_nonneg (by omega)⟩
  rw [← placeX, ← placeY] at late ⊢
  simp only [Int.toNat_natCast] at late ⊢
  rw [checkedSub_of_le (by omega), checkedSub_of_le (by omega)]
  simp only [ok_bind]
  generalize lessX : (if region.width > entry.width - srcX then entry.width - srcX
    else region.width) = width
  generalize lessY : (if region.height > entry.height - srcY then entry.height - srcY
    else region.height) = height
  have widthIs : width = min region.width (entry.width - srcX) := by
    rw [← lessX]
    split <;> omega
  have heightIs : height = min region.height (entry.height - srcY) := by
    rw [← lessY]
    split <;> omega
  have flat : raster.stride ≠ 0 := by
    rw [Raster.stride]
    omega
  rw [if_neg (by omega), if_neg flat]
  have sized : entry.pixels.length = 4 * entry.width * entry.height :=
    kept.sized (lookup_some found).1 (by simpa using And.left (by simpa using (lookup_some found).2))
  have start : (srcY * entry.width + srcX) * 4 = srcY * (entry.width * 4) + srcX * 4 := by
    rw [Nat.add_mul, Nat.mul_assoc]
  have whole : raster.pixels.length = 4 * raster.width * raster.height := by
    rw [raster.whole, Nat.mul_comm raster.width]
  obtain ⟨rows, pixels, read, wrote, cells⟩ := @copyRect_ok UInt8 raster.pixels width height 4
    raster.width raster.height region.dstX region.dstY entry.width entry.height srcX srcY
    entry.pixels whole sized (by omega) (by omega) (by omega) (by omega)
  rw [start, read, ok_bind]
  change ∃ pixels, (writeRows raster.pixels (region.dstY * (raster.width * 4) + region.dstX * 4)
    (raster.width * 4) rows >>= _) = _ ∧ _
  rw [wrote]
  refine ⟨pixels, rfl, ?_, ?_⟩
  · intro _ x y holds covers part small
    unfold GdiRegion.Holds at holds
    unfold SavedBitmap.Covers at covers
    rw [cells x (by omega) y part small, if_pos (by omega), SavedBitmap.pixel]
    congr 1 <;> omega
  · intro x inside y out part small
    rw [cells x inside y part small, if_neg]
    · rfl
    · intro within
      apply out
      unfold SavedBitmap.BeginsBefore GdiRegion.Holds SavedBitmap.Covers
      omega

end SavedBitmaps

section SamePlace

variable {raster back : Raster} {save restore : RenderOp} {src dst : GdiRegion}
  (saved : clipDest save raster.width raster.height = some src)
  (restored : clipDest restore back.width back.height = some dst)

include saved in
theorem keptBitmap_pixel {qx qy part : Nat} (holds : src.Holds qx qy) (small : part < 4) :
    (keptBitmap raster save src).pixel (qx - save.rect.x) (qy - save.rect.y) part =
      raster.pixel qx qy part := by
  obtain ⟨across, down⟩ := (SavedBitmaps.clipDest_some saved).2.2
  obtain ⟨left, top⟩ := (SavedBitmaps.clipDest_some saved).2.1
  unfold GdiRegion.Holds at holds
  have column : ((qx : Int) - save.rect.x - ((src.dstX - save.rect.x).toNat : Nat)).toNat =
      qx - src.dstX := by omega
  have row : ((qy : Int) - save.rect.y - ((src.dstY - save.rect.y).toNat : Nat)).toNat =
      qy - src.dstY := by omega
  rw [SavedBitmap.pixel, keptBitmap]
  simp only
  rw [column, row, SavedBitmaps.copyRows_pixel across down (by omega) (by omega) small]
  congr 1 <;> omega

include saved in
theorem keptBitmap_covers {x y : Int} :
    (keptBitmap raster save src).Covers x y ↔
      src.Holds (x + save.rect.x) (y + save.rect.y) := by
  obtain ⟨left, top⟩ := (SavedBitmaps.clipDest_some saved).2.1
  simp only [SavedBitmap.Covers, keptBitmap, GdiRegion.Holds]
  omega

include saved in
theorem keptBitmap_begins :
    (keptBitmap raster save src).BeginsBefore restore dst ↔
      (src.dstX : Int) - save.rect.x ≤ dst.dstX - restore.rect.x ∧
        (src.dstY : Int) - save.rect.y ≤ dst.dstY - restore.rect.y := by
  obtain ⟨left, top⟩ := (SavedBitmaps.clipDest_some saved).2.1
  simp only [SavedBitmap.BeginsBefore, keptBitmap]
  omega

include saved restored in
theorem samePlace_iff {x y : Nat} :
    (∃ qx qy, SamePlace raster back save restore x y qx qy) ↔
      dst.Holds x y ∧ (keptBitmap raster save src).Covers (x - restore.rect.x) (y - restore.rect.y) := by
  rw [keptBitmap_covers saved]
  constructor
  · rintro ⟨qx, qy, ⟨region, found, inSaved⟩, ⟨region', found', inRestored⟩, across, down⟩
    cases saved.symm.trans found
    cases restored.symm.trans found'
    have column : (x : Int) - restore.rect.x + save.rect.x = qx := by omega
    have row : (y : Int) - restore.rect.y + save.rect.y = qy := by omega
    rw [column, row]
    exact ⟨inRestored, inSaved⟩
  · rintro ⟨inRestored, inSaved⟩
    obtain ⟨qx, column⟩ : ∃ qx : Nat, (qx : Int) = x - restore.rect.x + save.rect.x :=
      ⟨_, Int.toNat_of_nonneg (by unfold GdiRegion.Holds at inSaved; omega)⟩
    obtain ⟨qy, row⟩ : ∃ qy : Nat, (qy : Int) = y - restore.rect.y + save.rect.y :=
      ⟨_, Int.toNat_of_nonneg (by unfold GdiRegion.Holds at inSaved; omega)⟩
    rw [← column, ← row] at inSaved
    exact ⟨qx, qy, ⟨src, saved, inSaved⟩, ⟨dst, restored, inRestored⟩, by omega, by omega⟩

include saved in
theorem samePlace_pixel {x y qx qy part : Nat}
    (same : SamePlace raster back save restore x y qx qy) (small : part < 4) :
    (keptBitmap raster save src).pixel (x - restore.rect.x) (y - restore.rect.y) part =
      raster.pixel qx qy part := by
  obtain ⟨region, found, inSaved⟩ := same.saved
  cases saved.symm.trans found
  rw [same.across, same.down]
  exact keptBitmap_pixel saved inSaved small

end SamePlace

/-- The restored part does not begin left of or above the saved part, or its pixels show already
    what was saved. If nothing was saved because the rectangle is not on the surface, then nothing
    older is kept under the id, or its restore draws nothing, or nothing new. -/
def RestoreFits (saved : SavedBitmaps) (raster back : Raster) (save restore : RenderOp) : Prop :=
  ∀ dst, clipDest restore back.width back.height = some dst →
    match clipDest save raster.width raster.height with
    | some src =>
        (src.dstX : Int) - save.rect.x ≤ dst.dstX - restore.rect.x ∧
            (src.dstY : Int) - save.rect.y ≤ dst.dstY - restore.rect.y ∨
          ∀ x y qx qy, SamePlace raster back save restore x y qx qy → ∀ part < 4,
            back.pixel x y part = raster.pixel qx qy part
    | none =>
        ∀ i entry, saved.find save.bitmapId = some (i, entry) → entry.BeginsBefore restore dst →
          ∀ x y : Nat, dst.Holds x y → entry.Covers (x - restore.rect.x) (y - restore.rect.y) →
            ∀ part < 4, back.pixel x y part =
              entry.pixel (x - restore.rect.x) (y - restore.rect.y) part

section Main

variable {saved saved' : SavedBitmaps} {raster back : Raster} {save restore : RenderOp}

theorem restores_nothing (none' : clipDest restore back.width back.height = none) :
    RestoresSaved saved raster back save restore := by
  refine ⟨back.pixels, ?_, fun x _ y _ part _ => ⟨?_, fun _ => rfl⟩⟩
  · unfold SavedBitmaps.renderSaveBitmap
    rw [none']
    rfl
  · rintro qx qy ⟨-, ⟨region, found, -⟩, -, -⟩
    cases none'.symm.trans found

variable {dst : GdiRegion} {pixels : Bytes}

theorem restores_missing (isRestore : restore.operation = 1)
    (clipped : clipDest save raster.width raster.height = none)
    (restored : clipDest restore back.width back.height = some dst)
    (missed : saved.find restore.bitmapId = none) :
    RestoresSaved saved raster back save restore := by
  refine ⟨back.pixels, ?_, fun x _ y _ part _ => ⟨?_, fun _ => rfl⟩⟩
  · unfold SavedBitmaps.renderSaveBitmap
    rw [restored]
    simp only
    rw [isRestore, if_neg (by decide), if_pos rfl, SavedBitmaps.restoreBitmap, missed]
    rfl
  · rintro qx qy ⟨⟨region, found, -⟩, -, -, -⟩
    cases clipped.symm.trans found

variable {entry : SavedBitmap} {src : GdiRegion}

theorem renderSaveBitmap_restore (kept : saved.Kept) (isRestore : restore.operation = 1)
    (restored : clipDest restore back.width back.height = some dst) {i : Nat}
    (found : saved.find restore.bitmapId = some (i, entry)) :
    ∃ pixels, saved.renderSaveBitmap back restore = .ok (.ok, saved, pixels) ∧
      SavedBitmaps.Restored back restore dst entry pixels := by
  obtain ⟨across, down⟩ := (SavedBitmaps.clipDest_some restored).2.2
  obtain ⟨wide, high⟩ := (SavedBitmaps.clipDest_some restored).1
  obtain ⟨pixels, ran, result⟩ := SavedBitmaps.restoreBitmap_ok kept found across down wide high
  refine ⟨pixels, ?_, result⟩
  unfold SavedBitmaps.renderSaveBitmap
  rw [restored]
  simp only
  rw [isRestore, if_neg (by decide), if_pos rfl, ran]
  rfl

theorem renderSaveBitmap_save (kept : saved.Kept) (isSave : save.operation = 0)
    (clipped : clipDest save raster.width raster.height = some src)
    (applied : saved.renderSaveBitmap raster save = .ok (.ok, saved', pixels)) :
    ∃ i, saved'.find save.bitmapId = some (i, keptBitmap raster save src) := by
  obtain ⟨wide, high⟩ := (SavedBitmaps.clipDest_some clipped).1
  unfold SavedBitmaps.renderSaveBitmap at applied
  rw [clipped] at applied
  simp only at applied
  rw [if_pos isSave] at applied
  have answered : saved.saveBitmap raster save src = (.ok, saved') := by
    cases stored : saved.saveBitmap raster save src with
    | mk status next =>
      rw [stored] at applied
      cases applied
      rfl
  have stored := congrArg Prod.fst answered
  obtain ⟨i, found⟩ := SavedBitmaps.saveBitmap_find kept.accounted wide high stored
  rw [answered] at found
  exact ⟨i, found⟩

theorem restoresSaved_iff (clipped : clipDest save raster.width raster.height = some src)
    (restored : clipDest restore back.width back.height = some dst)
    (ran : saved.renderSaveBitmap back restore = .ok (.ok, saved, pixels))
    (result : SavedBitmaps.Restored back restore dst (keptBitmap raster save src) pixels) :
    RestoresSaved saved raster back save restore ↔
      (keptBitmap raster save src).BeginsBefore restore dst ∨
        ∀ x y qx qy, SamePlace raster back save restore x y qx qy → ∀ part < 4,
          back.pixel x y part = raster.pixel qx qy part := by
  obtain ⟨across, down⟩ := (SavedBitmaps.clipDest_some restored).2.2
  constructor
  · rintro ⟨pixels', ran', each⟩
    cases ran.symm.trans ran'
    by_cases begins : (keptBitmap raster save src).BeginsBefore restore dst
    · exact .inl begins
    right
    intro x y qx qy same part small
    obtain ⟨holds, -⟩ := (samePlace_iff clipped restored).mp ⟨qx, qy, same⟩
    unfold GdiRegion.Holds at holds
    rw [← (each x (by omega) y (by omega) part small).1 qx qy same]
    exact (result.kept x (by omega) y (fun all => begins all.1) part small).symm
  · intro fits
    refine ⟨pixels, ran, fun x inside y _ part small => ⟨?_, ?_⟩⟩
    · intro qx qy same
      obtain ⟨holds, covers⟩ := (samePlace_iff clipped restored).mp ⟨qx, qy, same⟩
      by_cases begins : (keptBitmap raster save src).BeginsBefore restore dst
      · rw [result.drawn begins x y holds covers part small]
        exact samePlace_pixel clipped same small
      · rw [result.kept x inside y (fun all => begins all.1) part small]
        exact (fits.resolve_left begins) x y qx qy same part small
    · intro apart
      refine result.kept x inside y (fun all => ?_) part small
      obtain ⟨qx, qy, same⟩ := (samePlace_iff clipped restored).mpr all.2
      exact apart qx qy same

theorem restoresSaved_older_iff (clipped : clipDest save raster.width raster.height = none)
    (restored : clipDest restore back.width back.height = some dst)
    (ran : saved.renderSaveBitmap back restore = .ok (.ok, saved, pixels))
    (result : SavedBitmaps.Restored back restore dst entry pixels) :
    RestoresSaved saved raster back save restore ↔
      (entry.BeginsBefore restore dst → ∀ x y : Nat, dst.Holds x y →
        entry.Covers (x - restore.rect.x) (y - restore.rect.y) → ∀ part < 4,
          back.pixel x y part = entry.pixel (x - restore.rect.x) (y - restore.rect.y) part) := by
  obtain ⟨across, down⟩ := (SavedBitmaps.clipDest_some restored).2.2
  have apart : ∀ x y qx qy, ¬ SamePlace raster back save restore x y qx qy := by
    rintro x y qx qy ⟨⟨region, found, -⟩, -, -, -⟩
    cases clipped.symm.trans found
  constructor
  · rintro ⟨pixels', ran', each⟩ begins x y holds covers part small
    cases ran.symm.trans ran'
    have drawn := result.drawn begins x y holds covers part small
    unfold GdiRegion.Holds at holds
    rw [← drawn]
    exact ((each x (by omega) y (by omega) part small).2 (apart x y)).symm
  · intro fits
    refine ⟨pixels, ran, fun x inside y _ part small => ⟨fun qx qy same => ?_, fun _ => ?_⟩⟩
    · exact absurd same (apart x y qx qy)
    · by_cases all : entry.BeginsBefore restore dst ∧ dst.Holds x y ∧
          entry.Covers (x - restore.rect.x) (y - restore.rect.y)
      · rw [result.drawn all.1 x y all.2.1 all.2.2 part small]
        exact (fits all.1 x y all.2.1 all.2.2 part small).symm
      · exact result.kept x inside y all part small

end Main

/-- A restore is the inverse of the save before it, pixel by pixel, exactly if its part of the
    surface does not begin left of or above what was saved, or shows already what was saved; and if
    the save found nothing on the surface to save, exactly if the restore has nothing older to
    draw. -/
theorem restore_inverse_iff {saved saved' : SavedBitmaps} (reached : saved.Reached)
    {raster back : Raster} {save restore : RenderOp} (isSave : save.operation = 0)
    (isRestore : restore.operation = 1) (sameId : restore.bitmapId = save.bitmapId)
    (applied : saved.renderSaveBitmap raster save = .ok (.ok, saved', raster.pixels)) :
    RestoresSaved saved' raster back save restore ↔
      RestoreFits saved raster back save restore := by
  have kept := reached.kept
  have kept' := SavedBitmaps.renderSaveBitmap_kept kept applied
  unfold RestoreFits
  cases restored : clipDest restore back.width back.height with
  | none => exact ⟨fun _ => nofun, fun _ => restores_nothing restored⟩
  | some dst =>
      simp only [Option.some.injEq, forall_eq']
      cases clipped : clipDest save raster.width raster.height with
      | some src =>
          obtain ⟨i, found⟩ := renderSaveBitmap_save kept isSave clipped applied
          rw [← sameId] at found
          obtain ⟨pixels, ran, result⟩ := renderSaveBitmap_restore kept' isRestore restored found
          rw [restoresSaved_iff clipped restored ran result, keptBitmap_begins clipped]
      | none =>
          have same : saved' = saved := by
            unfold SavedBitmaps.renderSaveBitmap at applied
            rw [clipped] at applied
            cases applied
            rfl
          subst same
          cases found : saved'.find save.bitmapId with
          | none =>
              rw [← sameId] at found
              exact ⟨fun _ => nofun, fun _ => restores_missing isRestore clipped restored found⟩
          | some hit =>
              obtain ⟨i, entry⟩ := hit
              rw [← sameId] at found
              obtain ⟨pixels, ran, result⟩ := renderSaveBitmap_restore kept' isRestore restored found
              rw [restoresSaved_older_iff clipped restored ran result]
              exact ⟨fun fits j other same => by cases same; exact fits, fun fits => fits i entry rfl⟩

def pixelPair : Raster := ⟨2, 1, [1, 2, 3, 4, 5, 6, 7, 8], rfl⟩

def blankPixels : Raster := ⟨2, 1, [0, 0, 0, 0, 0, 0, 0, 0], rfl⟩

def saveLeft : RenderOp :=
  { kind := .saveBitmap, rect := { x := -1, y := 0, width := 2, height := 1 }, operation := 0 }

def restoreLeft : RenderOp := { saveLeft with operation := 1 }

def restoreWhole : RenderOp :=
  { kind := .saveBitmap, rect := { x := 0, y := 0, width := 2, height := 1 }, operation := 1 }

def savedLeft : SavedBitmaps where
  entries := keptBitmap pixelPair saveLeft { dstX := 0, dstY := 0, width := 1, height := 1 } ::
    List.replicate 63 {}
  bytes := 4

theorem restore_inverse_iff_left :
    RestoresSaved savedLeft pixelPair blankPixels saveLeft restoreLeft := by
  refine (@restore_inverse_iff {} savedLeft .start pixelPair blankPixels saveLeft restoreLeft rfl rfl
    rfl rfl).mpr ?_
  intro dst found
  cases found
  exact .inl ⟨by decide, by decide⟩

/-- The second pixel has the place of the one that was saved, but is not restored. -/
theorem restore_begins_left :
    SavedBitmaps.renderSaveBitmap {} pixelPair saveLeft =
        .ok (.ok, savedLeft, pixelPair.pixels) ∧
      ¬ RestoresSaved savedLeft pixelPair blankPixels saveLeft restoreWhole := by
  refine ⟨rfl, ?_⟩
  rintro ⟨pixels, ran, each⟩
  have ran' : savedLeft.renderSaveBitmap blankPixels restoreWhole =
      .ok (.ok, savedLeft, blankPixels.pixels) := rfl
  cases ran'.symm.trans ran
  have same : SamePlace pixelPair blankPixels saveLeft restoreWhole 1 0 0 0 :=
    ⟨⟨_, rfl, by decide, by decide, by decide, by decide⟩,
      ⟨_, rfl, by decide, by decide, by decide, by decide⟩, by decide, by decide⟩
  exact absurd ((each 1 (by decide) 0 (by decide) 0 (by decide)).1 0 0 same) (by decide)

end LibRdp.Client
