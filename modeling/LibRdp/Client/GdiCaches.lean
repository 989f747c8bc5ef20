import LibRdp.Client.GdiBitmapCache
import LibRdp.Graphics.GdiOrders

/-! # Glyphs, saved bitmaps and the bytes of all three caches

A glyph has a place of its own, and the whole glyph cache is cleared when a glyph does not
fit. A saved bitmap takes the slot of its id, a free slot or the slot that its id falls
on, and is refused when it does not fit. Whatever is stored, looked up and cleared, each
cache holds as many bytes as it says.
-/

namespace LibRdp.Client

open Graphics Machine Machine.Table

/-! ## Glyphs -/

/-- `RDP_SESSION_GDI_GLYPH_CACHE_IDS`, `_SLOTS` and `RDP_SESSION_GDI_GLYPH_MAX_BYTES`. -/
def gdiGlyphCacheIds : Nat := 10
def gdiGlyphCacheSlots : Nat := 256
def gdiGlyphMaxBytes : Nat := 4 * 1024 * 1024

/-- `rdp_gdi_glyph_bitmap`, as far as a store reads it. -/
structure GlyphBitmap where
  cacheIndex : Nat
  x : Int := 0
  y : Int := 0
  width : Nat := 0
  height : Nat := 0
  bitmap : Bytes
  deriving Repr, DecidableEq

/-- `rdp_session_gdi_glyph_cache_entry`. -/
structure GlyphCacheEntry where
  active : Bool := false
  cacheId : Nat := 0
  cacheIndex : Nat := 0
  x : Int := 0
  y : Int := 0
  width : Nat := 0
  height : Nat := 0
  bitmap : Bytes := []
  deriving Repr, DecidableEq

def GlyphCacheEntry.size (entry : GlyphCacheEntry) : Nat :=
  if entry.active then entry.bitmap.length else 0

structure GlyphCache where
  entries : List GlyphCacheEntry := List.replicate (gdiGlyphCacheIds * gdiGlyphCacheSlots) {}
  bytes : Nat := 0
  /-- Whether a subtraction from the count was ever cut off. -/
  saturated : Bool := false
  deriving Repr, DecidableEq

namespace GlyphCache

/-- `rdp_session_gdi_glyph_cache_clear`. -/
def clear (cache : GlyphCache) : GlyphCache := { saturated := cache.saturated }

/-- `rdp_session_gdi_glyph_cache_store`. -/
def store (cache : GlyphCache) (cacheId : Nat) (glyph : GlyphBitmap) : Status × GlyphCache :=
  if glyph.bitmap.length = 0 ∨ cacheId ≥ gdiGlyphCacheIds ∨
      glyph.cacheIndex ≥ gdiGlyphCacheSlots ∨ glyph.bitmap.length > gdiGlyphMaxBytes then
    (.protocolError, cache)
  else
    let i := cacheId * gdiGlyphCacheSlots + glyph.cacheIndex
    let oldSize := (cache.entries.getD i {}).bitmap.length
    let cache := { cache with
      bytes := if cache.bytes ≥ oldSize then cache.bytes - oldSize else 0
      saturated := cache.saturated || decide (cache.bytes < oldSize) }
    let cache :=
      if cache.bytes > gdiGlyphMaxBytes - glyph.bitmap.length then cache.clear else cache
    let entry : GlyphCacheEntry :=
      { active := true, cacheId, cacheIndex := glyph.cacheIndex, x := glyph.x, y := glyph.y
        width := glyph.width, height := glyph.height, bitmap := glyph.bitmap }
    (.ok, { cache with
      entries := cache.entries.set i entry, bytes := cache.bytes + glyph.bitmap.length })

structure Accounted (cache : GlyphCache) : Prop where
  places : cache.entries.length = gdiGlyphCacheIds * gdiGlyphCacheSlots
  bytes : cache.bytes = weight GlyphCacheEntry.size cache.entries
  limit : cache.bytes ≤ gdiGlyphMaxBytes
  blank : Every (fun entry => entry.active = false → entry.bitmap = []) cache.entries
  whole : cache.saturated = false

theorem Accounted.empty : ({} : GlyphCache).Accounted := by
  have none : ({} : GlyphCacheEntry).size = 0 := rfl
  exact ⟨List.length_replicate, (weight_replicate _ none).symm, Nat.zero_le _,
    every_replicate _ fun _ => rfl, rfl⟩

variable {cache : GlyphCache}

theorem clear_accounted (whole : cache.saturated = false) : cache.clear.Accounted := by
  unfold clear
  rw [whole]
  exact Accounted.empty

theorem size_eq {entry : GlyphCacheEntry} (blank : entry.active = false → entry.bitmap = []) :
    entry.size = entry.bitmap.length := by
  unfold GlyphCacheEntry.size
  split
  · rfl
  rename_i free
  rw [blank (by simpa using free)]
  rfl

theorem put_accounted (accounted : cache.Accounted) {i : Nat} {old new : GlyphCacheEntry}
    (held : cache.entries[i]? = some old) (active : new.active = true) {bytes : Nat}
    (rest : bytes + old.size = cache.bytes) (room : bytes + new.bitmap.length ≤ gdiGlyphMaxBytes) :
    ({ cache with
      entries := cache.entries.set i new
      bytes := bytes + new.bitmap.length } : GlyphCache).Accounted := by
  have moved := weight_set GlyphCacheEntry.size held new
  have size : new.size = new.bitmap.length := by simp [GlyphCacheEntry.size, active]
  have total := accounted.bytes
  refine ⟨by simpa using accounted.places, ?_, room, ?_, accounted.whole⟩
  · simp only
    omega
  · apply accounted.blank.set
    intro free
    rw [active] at free
    cases free

theorem store_accounted (accounted : cache.Accounted) (cacheId : Nat) (glyph : GlyphBitmap) :
    (cache.store cacheId glyph).2.Accounted := by
  unfold store
  split
  · exact accounted
  rename_i fits
  simp only [not_or] at fits
  obtain ⟨_, row, column, short⟩ := fits
  have inside : cacheId * gdiGlyphCacheSlots + glyph.cacheIndex < cache.entries.length := by
    rw [accounted.places]
    simp only [gdiGlyphCacheIds, gdiGlyphCacheSlots] at row column ⊢
    omega
  have held := List.getElem?_eq_getElem inside
  generalize cache.entries[cacheId * gdiGlyphCacheSlots + glyph.cacheIndex] = old at held
  have size := size_eq (accounted.blank held)
  have heavy := size_le_weight GlyphCacheEntry.size held
  rw [← accounted.bytes, size] at heavy
  simp only [List.getD_eq_getElem?_getD, held, Option.getD_some, if_pos heavy]
  have exact' : decide (cache.bytes < old.bitmap.length) = false := by
    simpa using heavy
  rw [exact', Bool.or_false]
  split
  · -- nothing is left in the place of the glyph or elsewhere
    have cleared := clear_accounted accounted.whole
    have inside' : cacheId * gdiGlyphCacheSlots + glyph.cacheIndex <
        cache.clear.entries.length := by
      rw [cleared.places, ← accounted.places]
      exact inside
    have blank : cache.clear.entries[cacheId * gdiGlyphCacheSlots + glyph.cacheIndex]? =
        some {} := by
      rw [List.getElem?_eq_getElem inside']
      exact congrArg some (List.eq_of_mem_replicate (List.getElem_mem inside'))
    have alone : 0 + glyph.bitmap.length ≤ gdiGlyphMaxBytes := by omega
    exact put_accounted cleared blank rfl rfl alone
  rename_i crowded
  have room : cache.bytes - old.bitmap.length ≤ gdiGlyphMaxBytes - glyph.bitmap.length :=
    Nat.not_lt.mp crowded
  have rest : cache.bytes - old.bitmap.length + old.size = cache.bytes := by omega
  have fits : cache.bytes - old.bitmap.length + glyph.bitmap.length ≤ gdiGlyphMaxBytes := by
    omega
  exact put_accounted accounted held rfl rest fits

end GlyphCache

/-! ## Saved bitmaps -/

/-- `RDP_SESSION_GDI_SAVE_BITMAP_SLOTS` and `RDP_SESSION_GDI_SAVE_BITMAP_MAX_BYTES`. -/
def gdiSaveBitmapSlots : Nat := 64
def gdiSaveBitmapMaxBytes : Nat := 8 * 1024 * 1024

/-- `librdp_surface` with its pixels, four bytes each. -/
structure Raster where
  width : Nat
  height : Nat
  pixels : Bytes
  whole : pixels.length = width * 4 * height

def Raster.stride (raster : Raster) : Nat := raster.width * 4

/-- `rdp_session_gdi_region`, as far as a save reads it. -/
structure GdiRegion where
  dstX : Nat
  dstY : Nat
  width : Nat
  height : Nat
  deriving Repr, DecidableEq

/-- What an operation may draw on, before it is cut to the surface; the right and bottom edges are
    not part of it. -/
def clipEdges (op : RenderOp) (surfaceWidth surfaceHeight : Nat) : RenderEdges :=
  match op.bounds with
  | some bounds => { bounds with right := bounds.right + 1, bottom := bounds.bottom + 1 }
  | none => { left := 0, top := 0, right := surfaceWidth, bottom := surfaceHeight }

/-- `rdp_session_gdi_clip_dest`. -/
def clipDest (op : RenderOp) (surfaceWidth surfaceHeight : Nat) : Option GdiRegion :=
  if op.rect.width ≤ 0 ∨ op.rect.height ≤ 0 ∨ surfaceWidth = 0 ∨ surfaceHeight = 0 then none
  else
    let clip := clipEdges op surfaceWidth surfaceHeight
    let left := max op.rect.x (max clip.left 0)
    let top := max op.rect.y (max clip.top 0)
    let right := min (op.rect.x + op.rect.width) (min clip.right surfaceWidth)
    let bottom := min (op.rect.y + op.rect.height) (min clip.bottom surfaceHeight)
    if left ≥ right ∨ top ≥ bottom then none
    else
      some { dstX := left.toNat, dstY := top.toNat, width := (right - left).toNat
             height := (bottom - top).toNat }

/-- `rdp_session_gdi_saved_bitmap`. -/
structure SavedBitmap where
  active : Bool := false
  bitmapId : UInt32 := 0
  width : Nat := 0
  height : Nat := 0
  originX : Nat := 0
  originY : Nat := 0
  pixels : Bytes := []
  deriving Repr, DecidableEq

def SavedBitmap.size (entry : SavedBitmap) : Nat := if entry.active then entry.pixels.length else 0

structure SavedBitmaps where
  entries : List SavedBitmap := List.replicate gdiSaveBitmapSlots {}
  bytes : Nat := 0
  /-- Whether a subtraction from the count was ever cut off. -/
  saturated : Bool := false
  deriving Repr, DecidableEq

namespace SavedBitmaps

/-- `rdp_session_gdi_saved_bitmap_evict`. -/
def evict (saved : SavedBitmaps) (i : Nat) : SavedBitmaps :=
  if i ≥ gdiSaveBitmapSlots then saved
  else
    let entry := saved.entries.getD i {}
    let saved :=
      if entry.active then
        { saved with
          bytes := if saved.bytes ≥ entry.pixels.length then saved.bytes - entry.pixels.length else 0
          saturated := saved.saturated || decide (saved.bytes < entry.pixels.length) }
      else saved
    { saved with entries := saved.entries.set i {} }

/-- `rdp_session_gdi_saved_bitmaps_clear`. -/
def clear (saved : SavedBitmaps) : SavedBitmaps := { saturated := saved.saturated }

/-- `rdp_session_gdi_saved_bitmap_find`. -/
def find (saved : SavedBitmaps) (bitmapId : UInt32) : Option (Nat × SavedBitmap) :=
  lookup (fun entry => entry.active && entry.bitmapId == bitmapId) saved.entries

/-- `rdp_session_gdi_saved_bitmap_slot`. -/
def slot (saved : SavedBitmaps) (bitmapId : UInt32) : Nat × SavedBitmaps :=
  match saved.find bitmapId with
  | some (i, _) => (i, saved)
  | none =>
      match lookup (fun entry => !entry.active) saved.entries with
      | some (i, _) => (i, saved)
      | none =>
          let i := bitmapId.toNat % gdiSaveBitmapSlots
          (i, saved.evict i)

def copyRows (raster : Raster) (region : GdiRegion) : Bytes :=
  (List.range region.height).flatMap fun y =>
    (raster.pixels.drop ((region.dstY + y) * raster.stride + region.dstX * 4)).take
      (region.width * 4)

/-- `rdp_session_gdi_save_bitmap`. -/
def saveBitmap (saved : SavedBitmaps) (raster : Raster) (op : RenderOp) (region : GdiRegion) :
    Status × SavedBitmaps :=
  if region.width = 0 ∨ region.height = 0 then (.ok, saved)
  else
    let rowBytes := region.width * 4
    if region.height > sizeMax / rowBytes then (.protocolError, saved)
    else
      let size := rowBytes * region.height
      let (i, saved) := saved.slot op.bitmapId
      let oldSize := (saved.entries.getD i {}).size
      let current := if saved.bytes ≥ oldSize then saved.bytes - oldSize else 0
      let saved := { saved with saturated := saved.saturated || decide (saved.bytes < oldSize) }
      if size > gdiSaveBitmapMaxBytes ∨ current > gdiSaveBitmapMaxBytes - size then
        (.noMemory, saved)
      else if raster.stride = 0 then (.invalidArgument, saved)
      else
        let entry : SavedBitmap :=
          { active := true, bitmapId := op.bitmapId, width := region.width, height := region.height
            originX := (region.dstX - op.rect.x).toNat, originY := (region.dstY - op.rect.y).toNat
            pixels := copyRows raster region }
        (.ok, { saved with entries := saved.entries.set i entry, bytes := current + size })

/-- The case of a save-bitmap order in `rdp_session_apply_gdi_render_op_core`; to restore a bitmap
    draws on the surface and leaves what is saved as it is. -/
def applySaveBitmap (saved : SavedBitmaps) (raster : Raster) (op : RenderOp) :
    Status × SavedBitmaps :=
  match clipDest op raster.width raster.height with
  | none => (.ok, saved)
  | some region =>
      if op.operation = 0 then saved.saveBitmap raster op region
      else if op.operation = 1 then (.ok, saved)
      else (.protocolError, saved)

section Rows

variable {raster : Raster} {op : RenderOp} {region : GdiRegion}

theorem clipDest_some {surfaceWidth surfaceHeight : Nat}
    (clipped : clipDest op surfaceWidth surfaceHeight = some region) :
    (0 < region.width ∧ 0 < region.height) ∧
      (op.rect.x ≤ region.dstX ∧ op.rect.y ≤ region.dstY) ∧
      region.dstX + region.width ≤ surfaceWidth ∧ region.dstY + region.height ≤ surfaceHeight := by
  unfold clipDest at clipped
  split at clipped
  · cases clipped
  simp only at clipped
  split at clipped
  · cases clipped
  cases clipped
  simp only
  omega

theorem copyRows_length (across : region.dstX + region.width ≤ raster.width)
    (down : region.dstY + region.height ≤ raster.height) :
    (copyRows raster region).length = region.width * 4 * region.height := by
  have rows : ∀ n, n ≤ region.height →
      ((List.range n).flatMap fun y =>
        (raster.pixels.drop ((region.dstY + y) * raster.stride + region.dstX * 4)).take
          (region.width * 4)).length = region.width * 4 * n := by
    intro n
    induction n with
    | zero => exact fun _ => rfl
    | succ n ih =>
      intro bound
      have last : (region.dstY + n + 1) * raster.stride ≤ raster.height * raster.stride :=
        Nat.mul_le_mul_right _ (by omega)
      have size := raster.whole
      rw [Nat.mul_comm] at size
      have wide : raster.stride = raster.width * 4 := rfl
      rw [List.range_succ, List.flatMap_append, List.length_append, ih (by omega),
        List.flatMap_singleton, List.length_take, List.length_drop,
        Nat.mul_succ (region.width * 4) n, Nat.min_eq_left]
      rw [Nat.succ_mul] at last
      rw [size, ← wide]
      omega
  exact rows _ (Nat.le_refl _)

end Rows

structure Accounted (saved : SavedBitmaps) : Prop where
  slots : saved.entries.length = gdiSaveBitmapSlots
  bytes : saved.bytes = weight SavedBitmap.size saved.entries
  limit : saved.bytes ≤ gdiSaveBitmapMaxBytes
  ids : Distinct (·.active) SavedBitmap.bitmapId saved.entries
  whole : saved.saturated = false

variable {saved : SavedBitmaps} {i : Nat} {entry : SavedBitmap}

theorem Accounted.empty : ({} : SavedBitmaps).Accounted := by
  have none : ({} : SavedBitmap).size = 0 := rfl
  exact ⟨List.length_replicate, (weight_replicate _ none).symm, Nat.zero_le _,
    distinct_replicate _ rfl, rfl⟩

theorem clear_accounted (whole : saved.saturated = false) : saved.clear.Accounted := by
  unfold clear
  rw [whole]
  exact Accounted.empty

variable (accounted : saved.Accounted)
include accounted

theorem Accounted.heavy (held : saved.entries[i]? = some entry) : entry.size ≤ saved.bytes := by
  rw [accounted.bytes]
  exact size_le_weight SavedBitmap.size held

theorem evict_accounted (held : saved.entries[i]? = some entry) (active : entry.active = true) :
    saved.evict i = { saved with
      entries := saved.entries.set i {}, bytes := saved.bytes - entry.pixels.length } ∧
      (saved.evict i).Accounted := by
  obtain ⟨inside, _⟩ := List.getElem?_eq_some_iff.mp held
  have size : entry.size = entry.pixels.length := by simp [SavedBitmap.size, active]
  have heavy := accounted.heavy held
  rw [size] at heavy
  have evicted : saved.evict i = { saved with
      entries := saved.entries.set i {}, bytes := saved.bytes - entry.pixels.length } := by
    have exact' : decide (saved.bytes < entry.pixels.length) = false := by simpa using heavy
    unfold evict
    rw [if_neg (by rw [← accounted.slots]; omega)]
    simp only [List.getD_eq_getElem?_getD, held, Option.getD_some, active, if_true, if_pos heavy,
      exact', Bool.or_false]
  refine ⟨evicted, ?_⟩
  rw [evicted]
  have moved := weight_set SavedBitmap.size held {}
  have empty : ({} : SavedBitmap).size = 0 := rfl
  have bytes := accounted.bytes
  have limit := accounted.limit
  refine ⟨by simpa using accounted.slots, ?_, ?_, accounted.ids.set nofun, accounted.whole⟩
  · simp only
    omega
  · simp only
    omega

theorem slot_accounted (bitmapId : UInt32) :
    (saved.slot bitmapId).2.Accounted ∧ ∃ entry,
      (saved.slot bitmapId).2.entries[(saved.slot bitmapId).1]? = some entry ∧
      (entry.active = true → entry.bitmapId = bitmapId) ∧
      (entry.active = false → ∀ (j : Nat) (other : SavedBitmap),
        (saved.slot bitmapId).2.entries[j]? = some other → other.active = true →
          other.bitmapId ≠ bitmapId) := by
  unfold slot
  cases found : saved.find bitmapId with
  | some hit =>
    obtain ⟨held, passes⟩ := lookup_some found
    simp only [Bool.and_eq_true, beq_iff_eq] at passes
    refine ⟨accounted, hit.2, held, fun _ => passes.2, ?_⟩
    intro free
    exact absurd (passes.1.symm.trans free) nofun
  | none =>
    have absent : ∀ (j : Nat) (other : SavedBitmap), saved.entries[j]? = some other →
        other.active = true → other.bitmapId ≠ bitmapId := by
      intro j other atJ active same
      have fails := lookup_none found atJ
      simp [active, same] at fails
    simp only
    split
    · rename_i open'
      obtain ⟨held, free⟩ := lookup_some open'
      simp only [Bool.not_eq_true'] at free
      refine ⟨accounted, _, held, ?_, fun _ => absent⟩
      intro active
      exact absurd (free.symm.trans active) nofun
    rename_i full
    have inside : bitmapId.toNat % gdiSaveBitmapSlots < saved.entries.length := by
      rw [accounted.slots]
      exact Nat.mod_lt _ (by decide)
    have held := List.getElem?_eq_getElem inside
    have active : saved.entries[bitmapId.toNat % gdiSaveBitmapSlots].active = true := by
      simpa using lookup_none full held
    obtain ⟨evicted, kept⟩ := evict_accounted accounted held active
    refine ⟨kept, {}, ?_, nofun, ?_⟩
    · simp only [evicted]
      exact getElem?_set_held held
    · intro _ j other atJ activeJ
      simp only [evicted] at atJ
      cases getElem?_set_cases atJ with
      | inl here =>
        rw [here.2.1] at activeJ
        cases activeJ
      | inr there => exact absent j other there.2 activeJ

theorem saveBitmap_accounted {raster : Raster} {op : RenderOp} {region : GdiRegion}
    (across : region.dstX + region.width ≤ raster.width)
    (down : region.dstY + region.height ≤ raster.height) :
    (saved.saveBitmap raster op region).2.Accounted := by
  unfold saveBitmap
  split
  · exact accounted
  simp only
  split
  · exact accounted
  obtain ⟨kept, entry, held, own, free⟩ := slot_accounted accounted op.bitmapId
  generalize saved.slot op.bitmapId = picked at kept held free
  obtain ⟨i, saved⟩ := picked
  have heavy := kept.heavy held
  have exact' : decide (saved.bytes < entry.size) = false := by simpa using heavy
  simp only [List.getD_eq_getElem?_getD, held, Option.getD_some, if_pos heavy, exact',
    Bool.or_false]
  split
  · exact kept
  rename_i room
  split
  · exact kept
  have moved := weight_set SavedBitmap.size held
    { active := true, bitmapId := op.bitmapId, width := region.width
      height := region.height, originX := (region.dstX - op.rect.x).toNat
      originY := (region.dstY - op.rect.y).toNat, pixels := copyRows raster region }
  have size := copyRows_length across down
  have bytes := kept.bytes
  refine ⟨by simpa using kept.slots, ?_, ?_, ?_, kept.whole⟩
  · simp only [SavedBitmap.size, if_true] at moved heavy bytes ⊢
    omega
  · simp only
    omega
  · apply kept.ids.set
    intro _ j other off atJ active same
    cases was : entry.active with
    | true => exact off (kept.ids atJ held active was (same.trans (own was).symm))
    | false => exact free was j other atJ active same

theorem applySaveBitmap_accounted (raster : Raster) (op : RenderOp) :
    (saved.applySaveBitmap raster op).2.Accounted := by
  unfold applySaveBitmap
  split
  · exact accounted
  rename_i clipped
  obtain ⟨across, down⟩ := (clipDest_some clipped).2.2
  split
  · exact saveBitmap_accounted accounted across down
  · split <;> exact accounted

end SavedBitmaps

/-! ## All three together -/

structure GdiCaches where
  bitmaps : BitmapCache
  glyphs : GlyphCache := {}
  saved : SavedBitmaps := {}

/-- What orders do to the caches. A store of a bitmap comes with what the codec of its order makes
    of the data, a save with the surface it copies from. -/
inductive CacheOp where
  | storeBitmap (order : CacheBitmapOrder) (decoded : Except Status (Bytes × Nat))
  | findBitmap (cacheId cacheIndex : UInt32)
  | findNinegrid (bitmapId : UInt32)
  | clearBitmaps
  | storeGlyph (cacheId : Nat) (glyph : GlyphBitmap)
  | clearGlyphs
  | saveBitmap (raster : Raster) (op : RenderOp)
  | clearSaved

namespace GdiCaches

def start (surfaceMaxDimension : Nat) : GdiCaches := { bitmaps := { surfaceMaxDimension } }

def afterFind (caches : GdiCaches) (hit : Option (Nat × BitmapCache)) : GdiCaches :=
  match hit with
  | some (_, bitmaps) => { caches with bitmaps }
  | none => caches

def apply (caches : GdiCaches) : CacheOp → Status × GdiCaches
  | .storeBitmap order decoded =>
      let (status, bitmaps) := caches.bitmaps.storeCacheBitmap order decoded
      (status, { caches with bitmaps })
  | .findBitmap cacheId cacheIndex =>
      (.ok, caches.afterFind (caches.bitmaps.find cacheId cacheIndex))
  | .findNinegrid bitmapId => (.ok, caches.afterFind (caches.bitmaps.ninegridBitmapFind bitmapId))
  | .clearBitmaps => (.ok, { caches with bitmaps := caches.bitmaps.clear })
  | .storeGlyph cacheId glyph =>
      let (status, glyphs) := caches.glyphs.store cacheId glyph
      (status, { caches with glyphs })
  | .clearGlyphs => (.ok, { caches with glyphs := caches.glyphs.clear })
  | .saveBitmap raster op =>
      let (status, saved) := caches.saved.applySaveBitmap raster op
      (status, { caches with saved })
  | .clearSaved => (.ok, { caches with saved := caches.saved.clear })

def step (caches : GdiCaches) (op : CacheOp) : Exec (Status × GdiCaches) := .ok (caches.apply op)

structure Accounted (caches : GdiCaches) : Prop where
  bitmaps : caches.bitmaps.Accounted
  glyphs : caches.glyphs.Accounted
  saved : caches.saved.Accounted

variable {caches : GdiCaches}

theorem Accounted.start (surfaceMaxDimension : Nat) : (start surfaceMaxDimension).Accounted :=
  ⟨BitmapCache.Accounted.start surfaceMaxDimension false rfl, GlyphCache.Accounted.empty,
    SavedBitmaps.Accounted.empty⟩

@[simp] theorem afterFind_glyphs (hit : Option (Nat × BitmapCache)) :
    (caches.afterFind hit).glyphs = caches.glyphs := by
  cases hit <;> rfl

@[simp] theorem afterFind_saved (hit : Option (Nat × BitmapCache)) :
    (caches.afterFind hit).saved = caches.saved := by
  cases hit <;> rfl

theorem afterFind_bitmaps {hit : Option (Nat × BitmapCache)} {holds : BitmapCache → Prop}
    (missed : holds caches.bitmaps)
    (stamped : ∀ (i : Nat) (bitmaps : BitmapCache), hit = some (i, bitmaps) → holds bitmaps) :
    holds (caches.afterFind hit).bitmaps := by
  cases hit with
  | none => exact missed
  | some found => exact stamped found.1 found.2 rfl

theorem apply_accounted (accounted : caches.Accounted) (op : CacheOp) :
    (caches.apply op).2.Accounted := by
  obtain ⟨bitmaps, glyphs, saved⟩ := accounted
  cases op with
  | storeBitmap order decoded =>
    exact ⟨(BitmapCache.storeCacheBitmap_accounted bitmaps order decoded).1, glyphs, saved⟩
  | findBitmap cacheId cacheIndex =>
    refine ⟨?_, by simpa [apply] using glyphs, by simpa [apply] using saved⟩
    exact afterFind_bitmaps bitmaps fun _ _ => BitmapCache.stampFirst_accounted bitmaps
  | findNinegrid bitmapId =>
    refine ⟨?_, by simpa [apply] using glyphs, by simpa [apply] using saved⟩
    exact afterFind_bitmaps bitmaps fun _ _ => BitmapCache.ninegridBitmapFind_accounted bitmaps
  | clearBitmaps =>
    exact ⟨BitmapCache.Accounted.start _ _ bitmaps.whole, glyphs, saved⟩
  | storeGlyph cacheId glyph =>
    exact ⟨bitmaps, GlyphCache.store_accounted glyphs cacheId glyph, saved⟩
  | clearGlyphs => exact ⟨bitmaps, GlyphCache.clear_accounted glyphs.whole, saved⟩
  | saveBitmap raster op =>
    exact ⟨bitmaps, glyphs, SavedBitmaps.applySaveBitmap_accounted saved raster op⟩
  | clearSaved => exact ⟨bitmaps, glyphs, SavedBitmaps.clear_accounted saved.whole⟩

theorem apply_stamped (accounted : caches.Accounted) {n : Nat}
    (stamped : caches.bitmaps.StampedBy n) (op : CacheOp) :
    (caches.apply op).2.bitmaps.StampedBy (n + 2) := by
  have unchanged := stamped.later (Nat.le_add_right n 2)
  cases op with
  | storeBitmap order decoded =>
    exact BitmapCache.storeCacheBitmap_stamped accounted.bitmaps stamped order decoded
  | findBitmap cacheId cacheIndex =>
    exact afterFind_bitmaps unchanged fun _ _ hit =>
      (BitmapCache.stampFirst_stamped stamped hit).later (Nat.le_succ _)
  | findNinegrid bitmapId =>
    exact afterFind_bitmaps unchanged fun _ _ hit =>
      (BitmapCache.ninegridBitmapFind_stamped stamped hit).later (Nat.le_succ _)
  | clearBitmaps =>
    exact ⟨Nat.zero_le _, every_replicate _ nofun⟩
  | storeGlyph cacheId glyph => exact unchanged
  | clearGlyphs => exact unchanged
  | saveBitmap raster op => exact unchanged
  | clearSaved => exact unchanged

/-- After `n` orders the clock and the stamps are `2 * n` at most. -/
theorem run_stamped {surfaceMaxDimension : Nat} {ops : List CacheOp} {outs : List Status}
    (ran : run step (start surfaceMaxDimension) ops = .ok (outs, caches)) :
    caches.Accounted ∧ caches.bitmaps.StampedBy (2 * ops.length) := by
  refine run_history (fun before caches => caches.Accounted ∧
    caches.bitmaps.StampedBy (2 * before.length)) ?_ ?_ ran
  · exact ⟨Accounted.start _, Nat.zero_le _, every_replicate _ nofun⟩
  · intro before _ caches op _ _ _ ⟨accounted, stamped⟩ taken
    have answered : caches.apply op = (_, _) := Except.ok.inj taken
    have accounted' := apply_accounted accounted op
    have stamped' := apply_stamped accounted stamped op
    rw [answered] at accounted' stamped'
    rw [List.length_append, List.length_singleton, Nat.mul_add]
    exact ⟨accounted', stamped'⟩

end GdiCaches

/-! ## A cache of one pixel -/

section Pixel

def pixelOrder (cacheIndex : UInt32) (data : Bytes) : CacheBitmapOrder where
  cacheId := 0
  cacheIndex := cacheIndex
  bitsPerPixel := 8
  width := 1
  height := 1
  bitmapData := data

def pixelEntry (data : Bytes) (lastUsed : UInt64) : BitmapCacheEntry where
  active := true
  width := 1
  height := 1
  bitsPerPixel := 8
  lastUsed := lastUsed
  raw := data

structure HoldsPixel (cache : BitmapCache) (data : Bytes) (clock : UInt64) : Prop where
  dimension : cache.surfaceMaxDimension = 1
  entries : cache.entries = pixelEntry data clock :: List.replicate 4095 {}
  bytes : cache.bytes = data.length
  clock : cache.clock = clock

variable {cache : BitmapCache} {data : Bytes} {clock : UInt64}

theorem storeCacheBitmap_pixel (cacheIndex : UInt32) (dimension : cache.surfaceMaxDimension = 1)
    (fits : data.length ≤ gdiBitmapCacheMaxBytes) (decoded : Except Status (Bytes × Nat)) :
    cache.storeCacheBitmap (pixelOrder cacheIndex data) decoded =
      cache.storePixels (pixelOrder cacheIndex data) [] data 0 := by
  have limit : gdiBitmapCacheMaxBytes = 67108864 := rfl
  have allowed : cache.preflight (pixelOrder cacheIndex data) = some 4 := by
    unfold BitmapCache.preflight
    rw [dimension, if_neg (by simp only [pixelOrder]; omega)]
    rfl
  have kept : BitmapCache.decodeCacheBitmap (pixelOrder cacheIndex data) decoded =
      .ok ([], data, 0) := rfl
  unfold BitmapCache.storeCacheBitmap
  rw [if_neg (by simp [pixelOrder]), if_neg (by simp only [pixelOrder]; omega), allowed]
  simp only [kept]
  rw [if_neg (by simp only [List.length_nil]; omega)]

theorem slot_first {rest : Nat} (empty : cache.entries = List.replicate (rest + 1) {})
    (cacheId cacheIndex : UInt32) : cache.slot cacheId cacheIndex = some (0, cache) := by
  have missed : cache.find cacheId cacheIndex = none := by
    unfold BitmapCache.find BitmapCache.stampFirst
    rw [empty, lookup_replicate rfl]
    rfl
  have open' : lookup (fun entry => !entry.active) cache.entries = some (0, {}) := by
    rw [empty, List.replicate_succ]
    rfl
  unfold BitmapCache.slot
  rw [missed, open']

theorem makeRoom_fits {skip oldSize newSize current : Nat}
    (room : current ≤ gdiBitmapCacheMaxBytes - newSize) :
    cache.makeRoom skip oldSize newSize current = (.ok, current, cache) := by
  rw [BitmapCache.makeRoom, if_neg (Nat.not_lt.mpr room)]

theorem makeRoom_stuck {skip oldSize newSize current : Nat}
    (crowded : current > gdiBitmapCacheMaxBytes - newSize) (missed : cache.lru (some skip) = none) :
    cache.makeRoom skip oldSize newSize current = (.noMemory, current, cache) := by
  rw [BitmapCache.makeRoom, if_pos crowded]
  split
  · rfl
  · rename_i picked
    cases missed.symm.trans picked

theorem store_pixel {next : BitmapCache} {old : BitmapCacheEntry}
    (dimension : cache.surfaceMaxDimension = 1) (slot : cache.slot 0 0 = some (0, next))
    (same : next.surfaceMaxDimension = 1) (entries : next.entries = old :: List.replicate 4095 {})
    (bytes : next.bytes = old.size) (fits : data.length ≤ gdiBitmapCacheMaxBytes)
    (decoded : Except Status (Bytes × Nat)) :
    (cache.storeCacheBitmap (pixelOrder 0 data) decoded).1 = .ok ∧
      HoldsPixel (cache.storeCacheBitmap (pixelOrder 0 data) decoded).2 data (next.clock + 1) := by
  have first : next.entries.getD 0 {} = old := by
    rw [entries]
    rfl
  rw [storeCacheBitmap_pixel 0 dimension fits]
  unfold BitmapCache.storePixels
  have slot' : cache.slot (pixelOrder 0 data).cacheId (pixelOrder 0 data).cacheIndex =
      some (0, next) := slot
  rw [slot']
  simp only
  rw [first, BitmapCache.lessOr_exact (Nat.le_of_eq bytes.symm), bytes, Nat.sub_self]
  simp only
  rw [makeRoom_fits (Nat.zero_le _)]
  refine ⟨rfl, same, ?_, ?_, rfl⟩
  · simp only [BitmapCache.put, entries]
    rw [List.set_cons_zero]
    refine congrArg (· :: List.replicate 4095 ({} : BitmapCacheEntry)) ?_
    simp [pixelEntry, pixelOrder]
  · simp

theorem store_first (dimension : cache.surfaceMaxDimension = 1)
    (empty : cache.entries = List.replicate (4095 + 1) {}) (none' : cache.bytes = 0)
    (start : cache.clock = 0) (fits : data.length ≤ gdiBitmapCacheMaxBytes)
    (decoded : Except Status (Bytes × Nat)) :
    (cache.storeCacheBitmap (pixelOrder 0 data) decoded).1 = .ok ∧
      HoldsPixel (cache.storeCacheBitmap (pixelOrder 0 data) decoded).2 data 1 := by
  have stored := @store_pixel cache data cache {} dimension (slot_first empty 0 0) dimension empty none' fits
    decoded
  rwa [start] at stored

theorem find_pixel (holds : HoldsPixel cache data clock) :
    ∃ next, cache.find 0 0 = some (0, next) ∧ HoldsPixel next data (clock + 1) := by
  refine ⟨{ cache.put 0 (pixelEntry data (cache.clock + 1)) with clock := cache.clock + 1 }, ?_,
    holds.dimension, ?_, holds.bytes, ?_⟩
  · unfold BitmapCache.find BitmapCache.stampFirst
    rw [holds.entries]
    rfl
  · simp only [BitmapCache.put, holds.entries, holds.clock]
    rfl
  · simp only [holds.clock]

theorem store_again {old : Bytes} (holds : HoldsPixel cache old clock)
    (fits : data.length ≤ gdiBitmapCacheMaxBytes) (decoded : Except Status (Bytes × Nat)) :
    (cache.storeCacheBitmap (pixelOrder 0 data) decoded).1 = .ok ∧
      HoldsPixel (cache.storeCacheBitmap (pixelOrder 0 data) decoded).2 data (clock + 1 + 1) := by
  obtain ⟨next, found, stamped⟩ := find_pixel holds
  have slot : cache.slot 0 0 = some (0, next) := by
    unfold BitmapCache.slot
    rw [found]
  rw [← stamped.clock]
  refine store_pixel holds.dimension slot stamped.dimension stamped.entries ?_ fits decoded
  rw [stamped.bytes]
  simp [BitmapCacheEntry.size, pixelEntry]

theorem storeBitmap_taken {caches : GdiCaches} {decoded : Except Status (Bytes × Nat)}
    (stored : (caches.bitmaps.storeCacheBitmap (pixelOrder 0 data) decoded).1 = .ok ∧
      HoldsPixel (caches.bitmaps.storeCacheBitmap (pixelOrder 0 data) decoded).2 data clock) :
    ∃ next, GdiCaches.step caches (.storeBitmap (pixelOrder 0 data) decoded) = .ok (.ok, next) ∧
      HoldsPixel next.bitmaps data clock ∧ next.glyphs = caches.glyphs ∧
      next.saved = caches.saved :=
  ⟨_, congrArg (fun status => Except.ok (status, _)) stored.1, stored.2, rfl, rfl⟩

end Pixel

/-- Whatever orders did, each cache counts the bytes of its active entries and stays within its
    limit, no key and no id is held twice and no subtraction was cut off. The loop that makes room
    for a bitmap ends and leaves the slot of the bitmap alone; it lacks a victim only if an active
    bitmap is stamped with the last value of the clock, for which it takes more than `2 ^ 62`
    orders. -/
theorem gdi_caches_accounted {surfaceMaxDimension : Nat} {ops : List CacheOp}
    {outs : List Status} {caches : GdiCaches}
    (ran : run GdiCaches.step (GdiCaches.start surfaceMaxDimension) ops = .ok (outs, caches)) :
    caches.Accounted ∧
      (∀ (i oldSize newSize current : Nat) (bitmaps : BitmapCache),
        (bitmaps.makeRoom i oldSize newSize current).2.2.entries[i]? = bitmaps.entries[i]?) ∧
      (∀ order decoded, (caches.bitmaps.storeCacheBitmap order decoded).1 = .noMemory →
        decoded = .error .noMemory ∨ 2 ^ 62 < ops.length ∧
          ∃ (j : Nat) (entry : BitmapCacheEntry),
            (caches.bitmaps.storeCacheBitmap order decoded).2.entries[j]? = some entry ∧
              entry.active = true ∧ entry.lastUsed = 0xffffffffffffffff) := by
  obtain ⟨accounted, stamped⟩ := GdiCaches.run_stamped ran
  refine ⟨accounted, ?_, ?_⟩
  · intro i oldSize newSize current bitmaps
    exact bitmaps.makeRoom_spares i oldSize newSize current
  · intro order decoded failed
    obtain ⟨_, lacking⟩ := BitmapCache.storeCacheBitmap_accounted accounted.bitmaps order decoded
    cases lacking failed with
    | inl decoder => exact .inl decoder
    | inr last =>
        obtain ⟨j, entry, held, active, stamp⟩ := last
        have bound := (BitmapCache.storeCacheBitmap_stamped accounted.bitmaps stamped order
          decoded).2 held active
        rw [stamp] at bound
        have top : (0xffffffffffffffff : UInt64).toNat = 2 ^ 64 - 1 := rfl
        exact .inr ⟨by omega, j, entry, held, active, stamp⟩

def glyphAndSave : List CacheOp :=
  [.storeGlyph 1 { cacheIndex := 3, bitmap := [0xf0] },
    .saveBitmap { width := 1, height := 1, pixels := [6, 7, 8, 9], whole := rfl }
      { kind := .dstblt, rect := { width := 1, height := 1 } }]

theorem gdi_caches_accounted_replaced :
    ∃ caches, run GdiCaches.step (GdiCaches.start 1)
        (.storeBitmap (pixelOrder 0 [1, 2]) (.ok ([], 0)) ::
          .storeBitmap (pixelOrder 0 [3, 4, 5]) (.ok ([], 0)) :: glyphAndSave) =
        .ok ([.ok, .ok, .ok, .ok], caches) ∧
      (caches.bitmaps.bytes = 3 ∧ caches.glyphs.bytes = 1 ∧ caches.saved.bytes = 4) ∧
      caches.Accounted := by
  obtain ⟨first, taken, holds, glyphs, saved⟩ := storeBitmap_taken
    (@store_first (GdiCaches.start 1).bitmaps [1, 2] rfl rfl rfl rfl (by decide) (.ok ([], 0)))
  obtain ⟨second, taken', holds', glyphs', saved'⟩ := storeBitmap_taken
    (@store_again _ [3, 4, 5] _ _ holds (by decide) (.ok ([], 0)))
  obtain ⟨bitmaps, _, _⟩ := second
  cases glyphs'.trans glyphs
  cases saved'.trans saved
  have ran := run_cons_ok taken (.storeBitmap (pixelOrder 0 [3, 4, 5]) (.ok ([], 0)) :: glyphAndSave)
  rw [run_cons_ok taken'] at ran
  exact ⟨_, ran, ⟨holds'.bytes, rfl, rfl⟩, (gdi_caches_accounted ran).1⟩

/-! ## A clock that runs to its end -/

section LastStamp

variable {cache : BitmapCache} {data : Bytes} {clock : UInt64}

theorem bitmapCacheLru_unused {skip : Option Nat} (n : Nat) {i : Nat} (candidate : Option Nat)
    (oldest : UInt64) :
    bitmapCacheLru skip (List.replicate n {}) i candidate oldest = candidate := by
  induction n generalizing i with
  | zero => rfl
  | succ n ih =>
    rw [List.replicate_succ, bitmapCacheLru, if_pos (by simp)]
    exact ih

theorem store_another (holds : HoldsPixel cache data 0xffffffffffffffff)
    (full : data.length = gdiBitmapCacheMaxBytes) (decoded : Except Status (Bytes × Nat)) :
    (cache.storeCacheBitmap (pixelOrder 1 [0]) decoded).1 = .noMemory := by
  have missed : cache.find 0 1 = none := by
    unfold BitmapCache.find BitmapCache.stampFirst
    rw [holds.entries, lookup, if_neg (by simp [pixelEntry]), lookup_replicate rfl]
    rfl
  have open' : lookup (fun entry => !entry.active) cache.entries = some (1, {}) := by
    rw [holds.entries, List.replicate_succ]
    rfl
  have picked : cache.slot 0 1 = some (1, cache) := by
    unfold BitmapCache.slot
    rw [missed, open']
  have second : cache.entries.getD 1 {} = {} := by
    rw [holds.entries, List.replicate_succ]
    rfl
  have unused : ({} : BitmapCacheEntry).size = 0 := rfl
  have oldest : cache.lru (some 1) = none := by
    unfold BitmapCache.lru
    rw [holds.entries, bitmapCacheLru, if_neg (by simp [pixelEntry]),
      if_neg (by simp [pixelEntry])]
    exact bitmapCacheLru_unused 4095 none _
  rw [storeCacheBitmap_pixel 1 holds.dimension (by decide)]
  unfold BitmapCache.storePixels
  simp only [pixelOrder]
  rw [picked]
  simp only
  rw [second, unused, BitmapCache.lessOr_exact (Nat.zero_le _), holds.bytes, full]
  simp only
  rw [makeRoom_stuck (by decide) oldest]

theorem finds_pixel {caches : GdiCaches} (holds : HoldsPixel caches.bitmaps data clock) (n : Nat) :
    ∃ later, run GdiCaches.step caches (List.replicate n (.findBitmap 0 0)) =
      .ok (List.replicate n .ok, later) ∧
      HoldsPixel later.bitmaps data (clock + UInt64.ofNat n) := by
  induction n generalizing caches clock with
  | zero => exact ⟨caches, rfl, by simpa using holds⟩
  | succ n ih =>
    obtain ⟨next, found, stamped⟩ := find_pixel holds
    have taken : GdiCaches.step caches (.findBitmap 0 0) =
        .ok (.ok, { caches with bitmaps := next }) := by
      unfold GdiCaches.step GdiCaches.apply
      simp only
      rw [found]
      rfl
    obtain ⟨later, ran, last⟩ := @ih (clock + 1) { caches with bitmaps := next } stamped
    refine ⟨later, ?_, ?_⟩
    · rw [List.replicate_succ, run_cons_ok taken, ran]
      rfl
    · rw [show clock + UInt64.ofNat (n + 1) = clock + 1 + UInt64.ofNat n by
        rw [UInt64.ofNat_add]
        simp [UInt64.add_comm, UInt64.add_assoc]]
      exact last

theorem small_blocks {n : Nat} (full : data.length = gdiBitmapCacheMaxBytes)
    (last : 1 + UInt64.ofNat n = 0xffffffffffffffff) :
    ∃ outs caches, run GdiCaches.step (GdiCaches.start 1)
      (.storeBitmap (pixelOrder 0 data) (.ok ([], 0)) ::
        (List.replicate n (.findBitmap 0 0) ++ [.storeBitmap (pixelOrder 1 [0]) (.ok ([], 0))])) =
      .ok (outs ++ [.noMemory], caches) := by
  obtain ⟨first, taken, stored, _⟩ := storeBitmap_taken (@store_first (GdiCaches.start 1).bitmaps
    data rfl rfl rfl rfl (Nat.le_of_eq full) (.ok ([], 0)))
  obtain ⟨later, ran, holds⟩ := finds_pixel stored n
  rw [last] at holds
  have refused := store_another holds full (.ok ([], 0))
  have final : GdiCaches.step later (.storeBitmap (pixelOrder 1 [0]) (.ok ([], 0))) =
      .ok (.noMemory, (later.apply (.storeBitmap (pixelOrder 1 [0]) (.ok ([], 0)))).2) :=
    congrArg (fun status => Except.ok (status, _)) refused
  refine ⟨.ok :: List.replicate n .ok,
    (later.apply (.storeBitmap (pixelOrder 1 [0]) (.ok ([], 0)))).2, ?_⟩
  rw [run_cons_ok taken, run_append ran (run_singleton final)]
  rfl

/-- A bitmap that fills the cache and is looked up until the clock ends cannot be evicted. -/
theorem last_stamp_blocks_store :
    ∃ outs caches, run GdiCaches.step (GdiCaches.start 1)
      (.storeBitmap (pixelOrder 0 (List.replicate gdiBitmapCacheMaxBytes 0)) (.ok ([], 0)) ::
        (List.replicate (2 ^ 64 - 2) (.findBitmap 0 0) ++
          [.storeBitmap (pixelOrder 1 [0]) (.ok ([], 0))])) =
      .ok (outs ++ [.noMemory], caches) :=
  small_blocks List.length_replicate (by decide)

end LastStamp

end LibRdp.Client
