import LibRdp.Common
import LibRdp.Machine.Run
import LibRdp.Machine.Table

/-! # The bitmap cache

A store picks the slot of its key, a free slot or the slot that was not used for longest,
and then evicts other slots, oldest first, until the new bitmap fits below the limit on
bytes. The bytes are counted apart from the table; whether a subtraction from the count
ever had to be cut off at zero is recorded in a flag of its own, which the code does not
have.
-/

namespace LibRdp.Client

open Machine Machine.Table

/-- `RDP_SESSION_GDI_BITMAP_CACHE_SLOTS` and `RDP_SESSION_GDI_BITMAP_CACHE_MAX_BYTES`. -/
def gdiBitmapCacheSlots : Nat := 4096
def gdiBitmapCacheMaxBytes : Nat := 64 * 1024 * 1024

/-- `RDP_SURFACE_CODEC_*`. -/
def surfaceCodecNscodec : UInt8 := 0x01
def surfaceCodecRemotefx : UInt8 := 0x03
def surfaceCodecImageRemotefx : UInt8 := 0x04

/-- `RDP_BITMAP_FLAG_COMPRESSED` and `RDP_BITMAP_FLAG_NO_COMPRESSION_HEADER`. -/
def bitmapFlagCompressed : UInt16 := 0x0001
def bitmapFlagNoCompressionHeader : UInt16 := 0x0400

/-- `rdp_gdi_cache_bitmap_order`, as far as a store reads it. -/
structure CacheBitmapOrder where
  cacheId : UInt32
  cacheIndex : UInt32
  bitsPerPixel : Nat
  width : Nat
  height : Nat
  compressed : Bool := false
  doNotCache : Bool := false
  rev3 : Bool := false
  codecId : UInt8 := 0
  includesCompressionHeader : Bool := false
  bitmapData : Bytes
  deriving Repr, DecidableEq

/-- `rdp_session_gdi_bitmap_cache_entry`. -/
structure BitmapCacheEntry where
  active : Bool := false
  cacheId : UInt32 := 0
  cacheIndex : UInt32 := 0
  width : Nat := 0
  height : Nat := 0
  bitsPerPixel : Nat := 0
  bitmapFlags : UInt16 := 0
  stride : Nat := 0
  lastUsed : UInt64 := 0
  pixels : Bytes := []
  raw : Bytes := []
  deriving Repr, DecidableEq

/-- `rdp_session_gdi_bitmap_cache_entry_size`. -/
def BitmapCacheEntry.size (entry : BitmapCacheEntry) : Nat :=
  if entry.active then entry.pixels.length + entry.raw.length else 0

theorem bitmapCache_slots :
    (List.replicate gdiBitmapCacheSlots ({} : BitmapCacheEntry)).length = gdiBitmapCacheSlots :=
  List.length_replicate

structure BitmapCache where
  surfaceMaxDimension : Nat
  entries : List BitmapCacheEntry := List.replicate gdiBitmapCacheSlots {}
  slots : entries.length = gdiBitmapCacheSlots := by exact bitmapCache_slots
  bytes : Nat := 0
  clock : UInt64 := 0
  /-- Whether a subtraction from the count was ever cut off. -/
  saturated : Bool := false

/-- The loop of `rdp_session_gdi_bitmap_cache_lru`: of the active slots other than `skip` the one
    with the oldest stamp below the first bound. -/
def bitmapCacheLru (skip : Option Nat) : List BitmapCacheEntry → Nat → Option Nat → UInt64 →
    Option Nat
  | [], _, candidate, _ => candidate
  | entry :: rest, i, candidate, oldest =>
      if !entry.active || skip == some i then bitmapCacheLru skip rest (i + 1) candidate oldest
      else if entry.lastUsed < oldest then
        bitmapCacheLru skip rest (i + 1) (some i) entry.lastUsed
      else bitmapCacheLru skip rest (i + 1) candidate oldest

namespace BitmapCache

def put (cache : BitmapCache) (i : Nat) (entry : BitmapCacheEntry) : BitmapCache :=
  { cache with
    entries := cache.entries.set i entry
    slots := by rw [List.length_set, cache.slots] }

/-- The count less `size`, or `otherwise` if it would go below zero. -/
def lessOr (cache : BitmapCache) (size otherwise : Nat) : Nat × BitmapCache :=
  if cache.bytes ≥ size then (cache.bytes - size, cache)
  else (otherwise, { cache with saturated := true })

/-- `rdp_session_gdi_bitmap_cache_lru`. -/
def lru (cache : BitmapCache) (skip : Option Nat) : Option Nat :=
  bitmapCacheLru skip cache.entries 0 none 0xffffffffffffffff

/-- `rdp_session_gdi_bitmap_cache_evict`. -/
def evict (cache : BitmapCache) (i : Nat) : BitmapCache :=
  if i ≥ gdiBitmapCacheSlots then cache
  else
    let entry := cache.entries.getD i {}
    if entry.active then
      let (bytes, cache) := cache.lessOr entry.size 0
      { cache.put i {} with bytes }
    else cache.put i {}

/-- `rdp_session_gdi_bitmap_cache_clear`. -/
def clear (cache : BitmapCache) : BitmapCache :=
  { surfaceMaxDimension := cache.surfaceMaxDimension, saturated := cache.saturated }

/-- The first active slot that passes a test is stamped with the clock. -/
def stampFirst (cache : BitmapCache) (test : BitmapCacheEntry → Bool) :
    Option (Nat × BitmapCache) :=
  (lookup (fun entry => entry.active && test entry) cache.entries).map fun (i, entry) =>
    (i, { cache.put i { entry with lastUsed := cache.clock + 1 } with clock := cache.clock + 1 })

/-- `rdp_session_gdi_bitmap_cache_find`. -/
def find (cache : BitmapCache) (cacheId cacheIndex : UInt32) : Option (Nat × BitmapCache) :=
  cache.stampFirst fun entry => entry.cacheId == cacheId && entry.cacheIndex == cacheIndex

/-- `rdp_session_gdi_ninegrid_bitmap_find`. -/
def ninegridBitmapFind (cache : BitmapCache) (bitmapId : UInt32) : Option (Nat × BitmapCache) :=
  match cache.find 0 bitmapId with
  | some hit => some hit
  | none => cache.stampFirst fun entry => entry.cacheIndex == bitmapId

/-- `rdp_session_gdi_bitmap_cache_slot`. -/
def slot (cache : BitmapCache) (cacheId cacheIndex : UInt32) : Option (Nat × BitmapCache) :=
  match cache.find cacheId cacheIndex with
  | some hit => some hit
  | none =>
      match lookup (fun entry => !entry.active) cache.entries with
      | some (i, _) => some (i, cache)
      | none => (cache.lru none).map fun i => (i, cache.evict i)

end BitmapCache

/-! ## The oldest slot -/

section Oldest

variable {skip : Option Nat} {entries : List BitmapCacheEntry} {i : Nat}

variable {oldest : UInt64}

theorem bitmapCacheLru_some {candidate : Option Nat} {found : Nat}
    (picked : bitmapCacheLru skip entries i candidate oldest = some found) :
    candidate = some found ∨
      ∃ (k : Nat) (entry : BitmapCacheEntry), entries[k]? = some entry ∧ found = i + k ∧
        entry.active = true ∧ skip ≠ some found := by
  induction entries generalizing i candidate oldest with
  | nil => exact .inl picked
  | cons entry rest ih =>
    have later : ∀ {candidate : Option Nat} {oldest : UInt64},
        bitmapCacheLru skip rest (i + 1) candidate oldest = some found →
        candidate = some found ∨ ∃ (k : Nat) (other : BitmapCacheEntry),
          (entry :: rest)[k]? = some other ∧ found = i + k ∧ other.active = true ∧
            skip ≠ some found := by
      intro candidate oldest picked
      cases ih picked with
      | inl was => exact .inl was
      | inr there =>
        obtain ⟨k, other, held, place, rest⟩ := there
        exact .inr ⟨k + 1, other, held, by omega, rest⟩
    unfold bitmapCacheLru at picked
    split at picked
    · exact later picked
    rename_i usable
    split at picked
    · cases later picked with
      | inl here =>
        simp only [Bool.or_eq_true, Bool.not_eq_true', beq_iff_eq, not_or,
          Bool.not_eq_false] at usable
        cases here
        exact .inr ⟨0, entry, rfl, rfl, usable.1, usable.2⟩
      | inr there => exact .inr there
    · exact later picked

theorem bitmapCacheLru_keeps (candidate : Nat) (oldest : UInt64) :
    bitmapCacheLru skip entries i (some candidate) oldest ≠ none := by
  induction entries generalizing i candidate oldest with
  | nil => exact nofun
  | cons entry rest ih =>
    unfold bitmapCacheLru
    split
    · exact ih candidate oldest
    split
    · exact ih i entry.lastUsed
    · exact ih candidate oldest

variable {entry : BitmapCacheEntry}

theorem bitmapCacheLru_none (missed : bitmapCacheLru skip entries i none oldest = none) {k : Nat}
    (held : entries[k]? = some entry) (active : entry.active = true) (other : skip ≠ some (i + k)) :
    ¬ entry.lastUsed < oldest := by
  induction entries generalizing i k with
  | nil => cases held
  | cons first rest ih =>
    unfold bitmapCacheLru at missed
    split at missed
    · rename_i unusable
      cases k with
      | zero =>
        cases held
        simp only [active, Bool.not_true, Bool.false_or, beq_iff_eq] at unusable
        exact absurd unusable other
      | succ k => exact ih missed held (by rwa [show i + 1 + k = i + (k + 1) by omega])
    split at missed
    · exact absurd missed (bitmapCacheLru_keeps i first.lastUsed)
    rename_i newer
    cases k with
    | zero =>
      cases held
      exact newer
    | succ k => exact ih missed held (by rwa [show i + 1 + k = i + (k + 1) by omega])

variable {cache : BitmapCache}

theorem lru_some (picked : cache.lru skip = some i) :
    ∃ entry, cache.entries[i]? = some entry ∧ entry.active = true ∧ skip ≠ some i := by
  cases bitmapCacheLru_some picked with
  | inl none => cases none
  | inr there =>
    obtain ⟨k, entry, held, place, active, other⟩ := there
    rw [Nat.zero_add] at place
    exact ⟨entry, place ▸ held, active, other⟩

theorem lru_none (missed : cache.lru skip = none) (held : cache.entries[i]? = some entry)
    (active : entry.active = true) (other : skip ≠ some i) :
    entry.lastUsed = 0xffffffffffffffff := by
  have newest := bitmapCacheLru_none missed held active (by rwa [Nat.zero_add])
  rw [UInt64.lt_iff_toNat_lt] at newest
  apply UInt64.toNat_inj.mp
  have small := entry.lastUsed.toNat_lt
  have last : (0xffffffffffffffff : UInt64).toNat = 2 ^ 64 - 1 := rfl
  omega

theorem index_inside (held : cache.entries[i]? = some entry) : i < gdiBitmapCacheSlots := by
  obtain ⟨inside, _⟩ := List.getElem?_eq_some_iff.mp held
  rwa [cache.slots] at inside

end Oldest

/-! ## Making room -/

namespace BitmapCache

variable {cache : BitmapCache} {i : Nat} {entry : BitmapCacheEntry}

theorem getD_held (held : cache.entries[i]? = some entry) : cache.entries.getD i {} = entry := by
  rw [List.getD_eq_getElem?_getD, held, Option.getD_some]

theorem evict_entries (held : cache.entries[i]? = some entry) :
    (cache.evict i).entries = cache.entries.set i {} := by
  unfold evict
  rw [if_neg (Nat.not_le.mpr (index_inside held))]
  simp only
  split
  · unfold lessOr
    split
    · rfl
    · rfl
  · rfl

theorem evict_active (held : cache.entries[i]? = some entry) (active : entry.active = true) :
    (cache.evict i).entries.countP (·.active) < cache.entries.countP (·.active) := by
  have moved : (cache.entries.set i {}).countP (·.active) + _ = _ + _ := countP_set held
  rw [evict_entries held]
  simp only [active, if_true, Bool.false_eq_true, if_false] at moved
  omega

@[simp] theorem lessOr_entries (size otherwise : Nat) :
    (cache.lessOr size otherwise).2.entries = cache.entries := by
  unfold lessOr
  split <;> rfl

theorem lessOr_exact {size : Nat} (enough : size ≤ cache.bytes) (otherwise : Nat) :
    cache.lessOr size otherwise = (cache.bytes - size, cache) := by
  rw [lessOr, if_pos enough]

/-- The loop of `rdp_session_gdi_store_cache_bitmap` that evicts until `newSize` bytes fit; it
    returns `current_without_old`. -/
def makeRoom (cache : BitmapCache) (skip oldSize newSize current : Nat) :
    Status × Nat × BitmapCache :=
  if current > gdiBitmapCacheMaxBytes - newSize then
    match _picked : cache.lru (some skip) with
    | none => (.noMemory, current, cache)
    | some i =>
        let evicted := cache.evict i
        let cut := evicted.lessOr oldSize evicted.bytes
        makeRoom cut.2 skip oldSize newSize cut.1
  else (.ok, current, cache)
termination_by cache.entries.countP (·.active)
decreasing_by
  obtain ⟨entry, held, active, _⟩ := lru_some _picked
  have fewer := evict_active held active
  rwa [← lessOr_entries] at fewer

/-- The end of `rdp_session_gdi_store_cache_bitmap`, where the bitmap gets its slot. -/
def storePixels (cache : BitmapCache) (order : CacheBitmapOrder) (pixels raw : Bytes)
    (stride : Nat) : Status × BitmapCache :=
  match cache.slot order.cacheId order.cacheIndex with
  | none => (.noMemory, cache)
  | some (i, cache) =>
      let oldSize := (cache.entries.getD i {}).size
      let newSize := pixels.length + raw.length
      let (current, cache) := cache.lessOr oldSize 0
      match cache.makeRoom i oldSize newSize current with
      | (.ok, current, cache) =>
          let compression := if order.compressed && !order.includesCompressionHeader then
            bitmapFlagNoCompressionHeader else 0
          let entry : BitmapCacheEntry :=
            { active := true, cacheId := order.cacheId, cacheIndex := order.cacheIndex
              width := order.width, height := order.height, bitsPerPixel := order.bitsPerPixel
              bitmapFlags := (if order.compressed then bitmapFlagCompressed else 0) ||| compression
              stride, lastUsed := cache.clock + 1, pixels, raw }
          (.ok, { cache.put i entry with clock := cache.clock + 1, bytes := current + newSize })
      | (status, _, cache) => (status, cache)

/-- `rdp_session_gdi_bitmap_cache_preflight`: the size of the decoded bitmap, if it is allowed. -/
def preflight (cache : BitmapCache) (order : CacheBitmapOrder) : Option Nat :=
  let footprint := order.width * 4 * order.height
  if order.width > cache.surfaceMaxDimension ∨ order.height > cache.surfaceMaxDimension ∨
      footprint > gdiBitmapCacheMaxBytes ∨ order.bitmapData.length > gdiBitmapCacheMaxBytes then
    none
  else some footprint

/-- What a store keeps of a bitmap: pixels, the data as they came, and a stride. `decoded` is what
    the codec of the order made of the data. -/
def decodeCacheBitmap (order : CacheBitmapOrder) (decoded : Except Status (Bytes × Nat)) :
    Except Status (Bytes × Bytes × Nat) :=
  let codec := order.codecId == surfaceCodecNscodec || order.codecId == surfaceCodecRemotefx ||
    order.codecId == surfaceCodecImageRemotefx
  if !(order.rev3 && codec) && order.bitsPerPixel == 8 then .ok ([], order.bitmapData, 0)
  else decoded.map fun (pixels, stride) => (pixels, [], stride)

/-- `rdp_session_gdi_store_cache_bitmap`. -/
def storeCacheBitmap (cache : BitmapCache) (order : CacheBitmapOrder)
    (decoded : Except Status (Bytes × Nat)) : Status × BitmapCache :=
  if order.doNotCache && !order.rev3 then (.ok, cache)
  else if order.width = 0 ∨ order.height = 0 ∨ order.width > 65535 ∨ order.height > 65535 ∨
      order.bitsPerPixel > 65535 ∨ order.bitmapData.length > 4294967295 then
    (.protocolError, cache)
  else
    match cache.preflight order with
    | none => (.limitExceeded, cache)
    | some decodedSize =>
        match decodeCacheBitmap order decoded with
        | .error status => (status, cache)
        | .ok (pixels, raw, stride) =>
            if pixels.length > decodedSize ∨ raw.length > gdiBitmapCacheMaxBytes ∨
                pixels.length > gdiBitmapCacheMaxBytes - raw.length then
              (.limitExceeded, cache)
            else cache.storePixels order pixels raw stride

/-! ## The count of bytes -/

structure Accounted (cache : BitmapCache) : Prop where
  bytes : cache.bytes = weight BitmapCacheEntry.size cache.entries
  limit : cache.bytes ≤ gdiBitmapCacheMaxBytes
  keys : Distinct (·.active) (fun entry => (entry.cacheId, entry.cacheIndex)) cache.entries
  whole : cache.saturated = false

/-- Every active slot of `later` is one of `cache` and holds what it held. -/
def Keeps (cache later : BitmapCache) : Prop :=
  ∀ ⦃j : Nat⦄ ⦃entry : BitmapCacheEntry⦄, later.entries[j]? = some entry → entry.active = true →
    cache.entries[j]? = some entry

theorem Accounted.start (surfaceMaxDimension : Nat) (saturated : Bool)
    (never : saturated = false) : ({ surfaceMaxDimension, saturated } : BitmapCache).Accounted := by
  have none : ({} : BitmapCacheEntry).size = 0 := rfl
  exact ⟨(weight_replicate gdiBitmapCacheSlots none).symm, Nat.zero_le _,
    distinct_replicate _ rfl, never⟩

theorem Accounted.heavy (accounted : cache.Accounted) (held : cache.entries[i]? = some entry) :
    entry.size ≤ cache.bytes := by
  rw [accounted.bytes]
  exact size_le_weight BitmapCacheEntry.size held

theorem evict_accounted (accounted : cache.Accounted) (held : cache.entries[i]? = some entry)
    (active : entry.active = true) :
    cache.evict i = { cache.put i {} with bytes := cache.bytes - entry.size } ∧
      (cache.evict i).Accounted := by
  have heavy := accounted.heavy held
  have evicted : cache.evict i = { cache.put i {} with bytes := cache.bytes - entry.size } := by
    unfold evict
    rw [if_neg (Nat.not_le.mpr (index_inside held))]
    simp only [getD_held held, active, if_true, lessOr_exact heavy]
  refine ⟨evicted, ?_⟩
  rw [evicted]
  have moved := weight_set BitmapCacheEntry.size held {}
  have empty : ({} : BitmapCacheEntry).size = 0 := rfl
  have bytes := accounted.bytes
  have limit := accounted.limit
  refine ⟨?_, ?_, accounted.keys.set nofun, accounted.whole⟩
  · simp only [put]
    omega
  · simp only
    omega

theorem evict_keeps (held : cache.entries[i]? = some entry) : cache.Keeps (cache.evict i) := by
  intro j other atJ active
  rw [evict_entries held] at atJ
  cases getElem?_set_cases atJ with
  | inl here =>
    rw [here.2.1] at active
    cases active
  | inr there => exact there.2

variable {test : BitmapCacheEntry → Bool} {stamped next : BitmapCache} {n : Nat}

theorem stampFirst_some (hit : cache.stampFirst test = some (i, stamped)) :
    ∃ entry, cache.entries[i]? = some entry ∧ entry.active = true ∧ test entry = true ∧
      stamped = { cache.put i { entry with lastUsed := cache.clock + 1 } with
        clock := cache.clock + 1 } := by
  obtain ⟨⟨j, entry⟩, looked, same⟩ := Option.map_eq_some_iff.mp hit
  cases same
  obtain ⟨held, passes⟩ := lookup_some looked
  simp only [Bool.and_eq_true] at passes
  exact ⟨entry, held, passes.1, passes.2, rfl⟩

theorem stamped_accounted (accounted : cache.Accounted) (held : cache.entries[i]? = some entry)
    (stamp clock : UInt64) :
    ({ cache.put i { entry with lastUsed := stamp } with clock } : BitmapCache).Accounted := by
  have moved := weight_set BitmapCacheEntry.size held { entry with lastUsed := stamp }
  have same : ({ entry with lastUsed := stamp } : BitmapCacheEntry).size = entry.size := rfl
  have bytes := accounted.bytes
  refine ⟨?_, accounted.limit, ?_, accounted.whole⟩
  · simp only [put]
    omega
  · exact accounted.keys.set_same held fun active => ⟨active, rfl⟩

theorem stampFirst_accounted (accounted : cache.Accounted)
    (hit : cache.stampFirst test = some (i, stamped)) : stamped.Accounted := by
  obtain ⟨entry, held, _, _, rfl⟩ := stampFirst_some hit
  exact stamped_accounted accounted held _ _

variable {bitmapId : UInt32}

theorem ninegridBitmapFind_accounted (accounted : cache.Accounted)
    (hit : cache.ninegridBitmapFind bitmapId = some (i, stamped)) : stamped.Accounted := by
  unfold ninegridBitmapFind at hit
  split at hit
  · rename_i first
    cases hit
    exact stampFirst_accounted accounted first
  · exact stampFirst_accounted accounted hit

/-- The slot that a bitmap gets: it is active and has the key, or free and no slot has the key. -/
def SlotOf (cache : BitmapCache) (key : UInt32 × UInt32) (i : Nat) (entry : BitmapCacheEntry) :
    Prop :=
  cache.entries[i]? = some entry ∧ (entry.active = true → (entry.cacheId, entry.cacheIndex) = key) ∧
    (entry.active = false → ∀ (j : Nat) (other : BitmapCacheEntry),
      cache.entries[j]? = some other → other.active = true →
        (other.cacheId, other.cacheIndex) ≠ key)

theorem find_none {cacheId cacheIndex : UInt32} (missed : cache.find cacheId cacheIndex = none)
    (held : cache.entries[i]? = some entry) (active : entry.active = true) :
    (entry.cacheId, entry.cacheIndex) ≠ (cacheId, cacheIndex) := by
  have fails := lookup_none (Option.map_eq_none_iff.mp missed) held
  intro same
  cases same
  simp [active] at fails

variable {cacheId cacheIndex : UInt32}

theorem slot_accounted (accounted : cache.Accounted)
    (picked : cache.slot cacheId cacheIndex = some (i, next)) :
    next.Accounted ∧ ∃ entry, next.SlotOf (cacheId, cacheIndex) i entry := by
  unfold slot at picked
  cases hit : cache.find cacheId cacheIndex with
  | some found =>
    rw [hit] at picked
    cases picked
    obtain ⟨entry, held, active, passes, rfl⟩ := stampFirst_some hit
    simp only [Bool.and_eq_true, beq_iff_eq] at passes
    refine ⟨stamped_accounted accounted held _ _, _, getElem?_set_held held, ?_, ?_⟩
    · intro _
      rw [← passes.1, ← passes.2]
    · intro free
      exact absurd (active.symm.trans free) nofun
  | none =>
    have absent := @find_none cache
    rw [hit] at picked
    simp only at picked
    split at picked
    · rename_i open'
      cases picked
      obtain ⟨held, free⟩ := lookup_some open'
      simp only [Bool.not_eq_true'] at free
      refine ⟨accounted, _, held, ?_, fun _ j other atJ => absent hit atJ⟩
      intro active
      exact absurd (free.symm.trans active) nofun
    obtain ⟨k, oldest, same⟩ := Option.map_eq_some_iff.mp picked
    cases same
    obtain ⟨entry, held, active, _⟩ := lru_some oldest
    have empty : (cache.evict i).entries[i]? = some {} := by
      rw [evict_entries held]
      exact getElem?_set_held held
    refine ⟨(evict_accounted accounted held active).2, {}, empty, nofun, ?_⟩
    intro _ j other atJ activeJ
    exact absent hit (evict_keeps held atJ activeJ) activeJ

theorem slot_none (missed : cache.slot cacheId cacheIndex = none) :
    ∃ (j : Nat) (entry : BitmapCacheEntry), cache.entries[j]? = some entry ∧
      entry.active = true ∧ entry.lastUsed = 0xffffffffffffffff := by
  unfold slot at missed
  split at missed
  · cases missed
  split at missed
  · cases missed
  rename_i full
  have inside : 0 < cache.entries.length := by
    rw [cache.slots]
    decide
  have held := List.getElem?_eq_getElem inside
  have active : cache.entries[0].active = true := by simpa using lookup_none full held
  exact ⟨0, _, held, active, lru_none (Option.map_eq_none_iff.mp missed) held active nofun⟩

theorem other_heavy (accounted : cache.Accounted) (held : cache.entries[i]? = some entry)
    (more : entry.size < cache.bytes) :
    ∃ (j : Nat) (other : BitmapCacheEntry), cache.entries[j]? = some other ∧
      other.active = true ∧ j ≠ i := by
  have moved := weight_set BitmapCacheEntry.size held {}
  have empty : ({} : BitmapCacheEntry).size = 0 := rfl
  have bytes := accounted.bytes
  obtain ⟨j, other, atJ, heavy⟩ := exists_of_weight_pos BitmapCacheEntry.size
    (show 0 < weight BitmapCacheEntry.size (cache.entries.set i {}) by omega)
  cases getElem?_set_cases atJ with
  | inl here =>
    rw [here.2.1, empty] at heavy
    cases heavy
  | inr there =>
    refine ⟨j, other, there.2, ?_, there.1⟩
    by_contra free
    have none : other.size = 0 := by simp [BitmapCacheEntry.size, free]
    omega

theorem makeRoom_spares (cache : BitmapCache) (skip oldSize newSize current : Nat) :
    (cache.makeRoom skip oldSize newSize current).2.2.entries[skip]? = cache.entries[skip]? := by
  induction cache, current using makeRoom.induct skip oldSize newSize with
  | case1 cache current crowded missed =>
    rw [makeRoom, if_pos crowded]
    split
    · rfl
    rename_i picked
    rw [missed] at picked
    cases picked
  | case2 cache current crowded i picked evicted cut ih =>
    obtain ⟨victim, atI, _, apart⟩ := lru_some picked
    have off : i ≠ skip := fun same => apart (congrArg some same.symm)
    rw [makeRoom, if_pos crowded]
    split
    · rename_i missed
      cases picked.symm.trans missed
    rename_i i' picked'
    cases picked.symm.trans picked'
    rw [ih, lessOr_entries, evict_entries atI, List.getElem?_set_ne off]
  | case3 cache current room =>
    rw [makeRoom, if_neg room]

/-- The loop ends with room for the new bitmap, or with a slot that is stamped with the last value
    of the clock; it only evicts, never the slot that is stored into, and keeps the count. -/
theorem makeRoom_spec {skip oldSize newSize current : Nat} (accounted : cache.Accounted)
    (held : cache.entries[skip]? = some entry) (sized : entry.size = oldSize)
    (rest : current + oldSize = cache.bytes) {status : Status} {left : Nat}
    (made : cache.makeRoom skip oldSize newSize current = (status, left, next)) :
    next.Accounted ∧ cache.Keeps next ∧ next.entries[skip]? = some entry ∧
      left + oldSize = next.bytes ∧ next.clock = cache.clock ∧
      (status = .ok ∧ left ≤ gdiBitmapCacheMaxBytes - newSize ∨
        status = .noMemory ∧ ∃ (j : Nat) (other : BitmapCacheEntry),
          next.entries[j]? = some other ∧ other.active = true ∧
            other.lastUsed = 0xffffffffffffffff) := by
  induction cache, current using makeRoom.induct skip oldSize newSize with
  | case1 cache current crowded missed =>
    rw [makeRoom, if_pos crowded] at made
    split at made
    · cases made
      obtain ⟨j, other, atJ, active, apart⟩ := other_heavy accounted held (by omega)
      have stamp := lru_none missed atJ active (by simpa using Ne.symm apart)
      exact ⟨accounted, fun _ _ atK _ => atK, held, rest, rfl, .inr ⟨rfl, j, other, atJ, active,
        stamp⟩⟩
    rename_i picked
    rw [missed] at picked
    cases picked
  | case2 cache current crowded i picked evicted cut ih =>
    obtain ⟨victim, atI, active, apart⟩ := lru_some picked
    have off : i ≠ skip := fun same => apart (congrArg some same.symm)
    obtain ⟨emptied, accounted'⟩ := evict_accounted accounted atI active
    have held' : evicted.entries[skip]? = some entry := by
      rw [evict_entries atI, List.getElem?_set_ne off]
      exact held
    have exact' : cut = (evicted.bytes - oldSize, evicted) :=
      lessOr_exact (sized ▸ accounted'.heavy held') _
    have rest' : cut.1 + oldSize = cut.2.bytes := by
      have heavy := sized ▸ accounted'.heavy held'
      rw [exact']
      exact Nat.sub_add_cancel heavy
    have cache' : cut.2 = evicted := by rw [exact']
    rw [makeRoom, if_pos crowded] at made
    split at made
    · rename_i missed
      rw [picked] at missed
      cases missed
    rename_i i' picked'
    rw [picked] at picked'
    cases picked'
    obtain ⟨last, kept, atSkip, whole, clock, ends⟩ :=
      ih (cache' ▸ accounted') (cache' ▸ held') rest' made
    refine ⟨last, ?_, atSkip, whole, ?_, ends⟩
    · intro j other atJ activeJ
      have before := kept atJ activeJ
      rw [cache'] at before
      exact evict_keeps atI before activeJ
    · rw [clock, cache']
      show (cache.evict i).clock = _
      rw [emptied]
      rfl
  | case3 cache current room =>
    rw [makeRoom, if_neg room] at made
    cases made
    exact ⟨accounted, fun _ _ atK _ => atK, held, rest, rfl, .inl ⟨rfl, by omega⟩⟩

theorem storePixels_accounted (accounted : cache.Accounted) {order : CacheBitmapOrder}
    {pixels raw : Bytes} (fits : pixels.length + raw.length ≤ gdiBitmapCacheMaxBytes)
    (stride : Nat) :
    (cache.storePixels order pixels raw stride).2.Accounted ∧
      ((cache.storePixels order pixels raw stride).1 = .noMemory →
        ∃ (j : Nat) (other : BitmapCacheEntry),
          (cache.storePixels order pixels raw stride).2.entries[j]? = some other ∧
            other.active = true ∧ other.lastUsed = 0xffffffffffffffff) := by
  unfold storePixels
  cases picked : cache.slot order.cacheId order.cacheIndex with
  | none => exact ⟨accounted, fun _ => slot_none picked⟩
  | some hit =>
    obtain ⟨i, next⟩ := hit
    obtain ⟨accounted', entry, held, key, free⟩ := slot_accounted accounted picked
    have heavy := accounted'.heavy held
    simp only [getD_held held, lessOr_exact heavy]
    cases made : next.makeRoom i entry.size (pixels.length + raw.length)
        (next.bytes - entry.size) with
    | mk status rest =>
      obtain ⟨left, last⟩ := rest
      obtain ⟨roomy, kept, atI, whole, _, ends⟩ :=
        makeRoom_spec accounted' held rfl (Nat.sub_add_cancel heavy) made
      cases ends with
      | inl fitted =>
        obtain ⟨rfl, room⟩ := fitted
        refine ⟨⟨?_, ?_, ?_, roomy.whole⟩, nofun⟩
        · have bytes := roomy.bytes
          simp only [put]
          rw [Nat.eq_sub_of_add_eq (weight_set BitmapCacheEntry.size atI _)]
          simp only [BitmapCacheEntry.size, if_true] at whole bytes ⊢
          omega
        · simp only
          omega
        · apply roomy.keys.set
          intro _ j other off atJ activeJ same
          cases active : entry.active with
          | true =>
            exact off (roomy.keys atJ atI activeJ active (same.trans (key active).symm))
          | false => exact free active j other (kept atJ activeJ) activeJ same
      | inr lacking =>
        obtain ⟨rfl, stamped⟩ := lacking
        exact ⟨roomy, fun _ => stamped⟩

theorem storeCacheBitmap_accounted (accounted : cache.Accounted) (order : CacheBitmapOrder)
    (decoded : Except Status (Bytes × Nat)) :
    (cache.storeCacheBitmap order decoded).2.Accounted ∧
      ((cache.storeCacheBitmap order decoded).1 = .noMemory → decoded = .error .noMemory ∨
        ∃ (j : Nat) (other : BitmapCacheEntry),
          (cache.storeCacheBitmap order decoded).2.entries[j]? = some other ∧
            other.active = true ∧ other.lastUsed = 0xffffffffffffffff) := by
  unfold storeCacheBitmap
  split
  · exact ⟨accounted, nofun⟩
  split
  · exact ⟨accounted, nofun⟩
  split
  · exact ⟨accounted, nofun⟩
  split
  · rename_i status failed
    refine ⟨accounted, ?_⟩
    rintro rfl
    unfold decodeCacheBitmap at failed
    simp only at failed
    split at failed
    · cases failed
    cases decoded with
    | error status =>
      cases failed
      exact .inl rfl
    | ok pair => cases failed
  split
  · exact ⟨accounted, nofun⟩
  rename_i pixels raw stride _ fits
  have whole : pixels.length + raw.length ≤ gdiBitmapCacheMaxBytes := by omega
  obtain ⟨kept, lacking⟩ := storePixels_accounted accounted whole stride
  exact ⟨kept, fun failed => .inr (lacking failed)⟩

/-! ## The clock -/

/-- The clock and the stamps of active slots are at most `n`. -/
def StampedBy (cache : BitmapCache) (n : Nat) : Prop :=
  cache.clock.toNat ≤ n ∧
    Every (fun entry => entry.active = true → entry.lastUsed.toNat ≤ n) cache.entries

theorem tick_le {clock : UInt64} (below : clock.toNat ≤ n) : (clock + 1).toNat ≤ n + 1 := by
  rw [UInt64.toNat_add]
  have one : (1 : UInt64).toNat = 1 := rfl
  have least := Nat.mod_le (clock.toNat + 1) (2 ^ 64)
  omega

theorem StampedBy.later {m : Nat} (stamped : cache.StampedBy n) (more : n ≤ m) :
    cache.StampedBy m :=
  ⟨Nat.le_trans stamped.1 more, fun _ _ held active => Nat.le_trans (stamped.2 held active) more⟩

theorem StampedBy.put_tick (stamped : cache.StampedBy n) (now : entry.lastUsed = cache.clock + 1)
    (bytes : Nat) :
    ({ cache.put i entry with clock := cache.clock + 1, bytes } : BitmapCache).StampedBy
      (n + 1) := by
  refine ⟨tick_le stamped.1, ?_⟩
  apply (stamped.later (Nat.le_succ n)).2.set
  intro _
  rw [now]
  exact tick_le stamped.1

theorem StampedBy.keeps {later : BitmapCache} (stamped : cache.StampedBy n)
    (kept : cache.Keeps later) (clock : later.clock = cache.clock) : later.StampedBy n :=
  ⟨clock ▸ stamped.1, fun _ _ held active => stamped.2 (kept held active) active⟩

theorem stampFirst_stamped (stamped : cache.StampedBy n)
    (hit : cache.stampFirst test = some (i, next)) : next.StampedBy (n + 1) := by
  obtain ⟨entry, _, _, _, rfl⟩ := stampFirst_some hit
  exact stamped.put_tick rfl cache.bytes

theorem ninegridBitmapFind_stamped (stamped : cache.StampedBy n)
    (hit : cache.ninegridBitmapFind bitmapId = some (i, next)) : next.StampedBy (n + 1) := by
  unfold ninegridBitmapFind at hit
  split at hit
  · rename_i first
    cases hit
    exact stampFirst_stamped stamped first
  · exact stampFirst_stamped stamped hit

theorem evict_clock (accounted : cache.Accounted) (held : cache.entries[i]? = some entry)
    (active : entry.active = true) : (cache.evict i).clock = cache.clock := by
  rw [(evict_accounted accounted held active).1]
  rfl

theorem slot_stamped (accounted : cache.Accounted) (stamped : cache.StampedBy n)
    (picked : cache.slot cacheId cacheIndex = some (i, next)) : next.StampedBy (n + 1) := by
  unfold slot at picked
  split at picked
  · rename_i hit
    cases picked
    exact stampFirst_stamped stamped hit
  split at picked
  · cases picked
    exact stamped.later (Nat.le_succ n)
  obtain ⟨k, oldest, same⟩ := Option.map_eq_some_iff.mp picked
  cases same
  obtain ⟨entry, held, active, _⟩ := lru_some oldest
  exact (stamped.keeps (evict_keeps held) (evict_clock accounted held active)).later
    (Nat.le_succ n)

theorem storePixels_stamped (accounted : cache.Accounted) (stamped : cache.StampedBy n)
    (order : CacheBitmapOrder) (pixels raw : Bytes) (stride : Nat) :
    (cache.storePixels order pixels raw stride).2.StampedBy (n + 2) := by
  unfold storePixels
  cases picked : cache.slot order.cacheId order.cacheIndex with
  | none => exact stamped.later (Nat.le_add_right n 2)
  | some hit =>
    obtain ⟨i, next⟩ := hit
    obtain ⟨accounted', entry, held, _⟩ := slot_accounted accounted picked
    have stamped' := slot_stamped accounted stamped picked
    have heavy := accounted'.heavy held
    simp only [getD_held held, lessOr_exact heavy]
    cases made : next.makeRoom i entry.size (pixels.length + raw.length)
        (next.bytes - entry.size) with
    | mk status rest =>
      obtain ⟨left, last⟩ := rest
      obtain ⟨_, kept, _, _, clock, ends⟩ :=
        makeRoom_spec accounted' held rfl (Nat.sub_add_cancel heavy) made
      have roomy := stamped'.keeps kept clock
      cases ends with
      | inl fitted =>
        obtain ⟨rfl, _⟩ := fitted
        exact roomy.put_tick rfl _
      | inr lacking =>
        obtain ⟨rfl, _⟩ := lacking
        exact roomy.later (Nat.le_succ _)

theorem storeCacheBitmap_stamped (accounted : cache.Accounted) (stamped : cache.StampedBy n)
    (order : CacheBitmapOrder) (decoded : Except Status (Bytes × Nat)) :
    (cache.storeCacheBitmap order decoded).2.StampedBy (n + 2) := by
  have unchanged := stamped.later (Nat.le_add_right n 2)
  unfold storeCacheBitmap
  split
  · exact unchanged
  split
  · exact unchanged
  split
  · exact unchanged
  split
  · exact unchanged
  split
  · exact unchanged
  · exact storePixels_stamped accounted stamped order _ _ _

end BitmapCache

end LibRdp.Client
