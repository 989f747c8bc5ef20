import LibRdp.Common
import LibRdp.Machine.Run
import LibRdp.Machine.Table

/-! # The GDI+ cache and its limit

A cached object comes in pieces: a first order opens an entry, the next ones append to it
and the last closes it. The session counts the bytes that its entries hold and keeps the
count below a limit, but it looks at the limit only when an entry is opened, and only at
the size that was announced. An object of unknown size announces nothing.
-/

namespace LibRdp.Client

open Machine Machine.Table

/-- `RDP_SESSION_GDI_GDIPLUS_CACHE_SLOTS` and `RDP_SESSION_GDI_GDIPLUS_MAX_BYTES`. -/
def gdiplusCacheSlots : Nat := 128
def gdiplusMaxBytes : Nat := 16 * 1024 * 1024

/-- The difference of two `size_t`. -/
def sizeSub (a b : Nat) : Nat := (a + (sizeMax + 1 - b)) % (sizeMax + 1)

theorem sizeSub_eq {a b : Nat} (small : b ≤ a) (fits : a ≤ sizeMax) : sizeSub a b = a - b := by
  unfold sizeSub
  have whole : a + (sizeMax + 1 - b) = (a - b) + (sizeMax + 1) := by omega
  rw [whole, Nat.add_mod_right, Nat.mod_eq_of_lt (by omega)]

/-! ## Orders -/

/-- The GDI+ orders, `RDP_GDI_ALTSEC_DRAW_GDIPLUS_*`. -/
inductive GdiplusOrderType where
  | first
  | next
  | last
  | cacheFirst
  | cacheNext
  | cacheEnd
  deriving Repr, DecidableEq

/-- `rdp_gdi_gdiplus_order`. -/
structure GdiplusOrder where
  orderType : GdiplusOrderType
  cacheType : UInt8 := 0
  cacheIndex : UInt16 := 0
  totalSize : Nat := 0
  totalEmfSize : Nat := 0
  data : Bytes := []
  deriving Repr, DecidableEq

/-- The fields before the data, and the length of the data: the cases of
    `rdp_gdi_parse_gdiplus_order`. -/
def readGdiplusFields (orderType : GdiplusOrderType) (stream : Bytes) :
    Attempt (GdiplusOrder × Nat × Bytes) :=
  match orderType with
  | .first | .last => do
      let (dataLen, stream) ← readU16Le stream
      let (totalSize, stream) ← readU32Le stream
      let (totalEmfSize, stream) ← readU32Le stream
      pure ({ orderType, totalSize := totalSize.toNat, totalEmfSize := totalEmfSize.toNat },
        dataLen.toNat, stream)
  | .next => do
      let (dataLen, stream) ← readU16Le stream
      pure ({ orderType }, dataLen.toNat, stream)
  | .cacheFirst | .cacheEnd => do
      let (cacheType, stream) ← readU8 stream
      let (cacheIndex, stream) ← readU16Le stream
      let (totalSize, stream) ← readU16Le stream
      let (dataLen, stream) ← readU16Le stream
      let (totalEmfSize, stream) ← readU32Le stream
      pure ({ orderType, cacheType, cacheIndex, totalSize := totalSize.toNat
              totalEmfSize := totalEmfSize.toNat }, dataLen.toNat, stream)
  | .cacheNext => do
      let (cacheType, stream) ← readU8 stream
      let (cacheIndex, stream) ← readU16Le stream
      let (totalSize, stream) ← readU16Le stream
      let (dataLen, stream) ← readU16Le stream
      pure ({ orderType, cacheType, cacheIndex, totalSize := totalSize.toNat }, dataLen.toNat,
        stream)

/-- `rdp_gdi_parse_gdiplus_order`. -/
def parseGdiplusOrder (orderType : GdiplusOrderType) (payload : Bytes) : Attempt GdiplusOrder := do
  let (fields, dataLen, stream) ← readGdiplusFields orderType payload
  let (data, stream) ← readBytes stream dataLen
  if stream.length ≠ 0 then refuse .protocolError
  else if fields.totalSize ≠ 0 ∧ dataLen > fields.totalSize then refuse .protocolError
  else if fields.totalEmfSize ≠ 0 ∧ dataLen > fields.totalEmfSize then refuse .protocolError
  else pure { fields with data }

/-! ## The cache -/

/-- `rdp_session_gdi_gdiplus_cache_entry`. -/
structure GdiplusCacheEntry where
  active : Bool := false
  cacheType : UInt8 := 0
  cacheIndex : UInt16 := 0
  totalSize : Nat := 0
  totalEmfSize : Nat := 0
  lastUsed : UInt64 := 0
  data : Bytes := []
  deriving Repr, DecidableEq

structure GdiplusCache where
  entries : List GdiplusCacheEntry :=
    List.replicate gdiplusCacheSlots ({} : GdiplusCacheEntry)
  clock : UInt64 := 0
  bytes : Nat := 0
  deriving Repr, DecidableEq

/-- `rdp_session_gdi_gdiplus_cache_entry_size`. -/
def GdiplusCacheEntry.size (entry : GdiplusCacheEntry) : Nat :=
  if entry.active then entry.data.length else 0

/-- The loop of `rdp_session_gdi_gdiplus_cache_lru`: the first free slot, or the one that was not
    used for longest. -/
def gdiplusLru : List GdiplusCacheEntry → Nat → Nat → UInt64 → Nat
  | [], _, selected, _ => selected
  | entry :: rest, i, selected, selectedClock =>
      if !entry.active then i
      else if entry.lastUsed < selectedClock then gdiplusLru rest (i + 1) i entry.lastUsed
      else gdiplusLru rest (i + 1) selected selectedClock

/-- `rdp_session_gdi_gdiplus_append`: the buffer afterwards. -/
def gdiplusAppend (buffer : Bytes) (totalSize : Nat) (data : Bytes) : Attempt Bytes :=
  if totalSize ≠ 0 ∧ (buffer.length > totalSize ∨ data.length > totalSize - buffer.length) then
    refuse .protocolError
  else if buffer.length > gdiplusMaxBytes ∨ data.length > gdiplusMaxBytes - buffer.length then
    refuse .protocolError
  else .ok (buffer ++ data)

namespace GdiplusCache

/-- `rdp_session_gdi_gdiplus_reset`. -/
def reset (_ : GdiplusCache) : GdiplusCache := {}

/-- `rdp_session_gdi_gdiplus_cache_evict`. -/
def evict (cache : GdiplusCache) (i : Nat) : GdiplusCache :=
  if i ≥ gdiplusCacheSlots then cache
  else
    let size := (cache.entries.getD i {}).size
    { cache with
      bytes := if cache.bytes ≥ size then cache.bytes - size else 0
      entries := cache.entries.set i {} }

/-- `rdp_session_gdi_gdiplus_cache_find`: a hit is stamped with the clock. -/
def find (cache : GdiplusCache) (cacheType : UInt8) (cacheIndex : UInt16) :
    Option (Nat × GdiplusCacheEntry × GdiplusCache) :=
  (lookup (fun entry => entry.active && entry.cacheType == cacheType &&
    entry.cacheIndex == cacheIndex) cache.entries).map fun (i, entry) =>
      let entry := { entry with lastUsed := cache.clock + 1 }
      (i, entry, { cache with clock := cache.clock + 1, entries := cache.entries.set i entry })

/-- `rdp_session_gdi_gdiplus_cache_slot`. -/
def slot (cache : GdiplusCache) (cacheType : UInt8) (cacheIndex : UInt16) : Nat × GdiplusCache :=
  match cache.find cacheType cacheIndex with
  | some (i, _, cache) => (i, cache)
  | none =>
      let i := gdiplusLru cache.entries 0 0 0xffffffffffffffff
      (i, cache.evict i)

/-- `new_total` of `rdp_session_gdi_gdiplus_cache_store`: what the entries other than `i` hold. -/
def newTotal (cache : GdiplusCache) (i : Nat) : Nat :=
  let oldSize := (cache.entries.getD i {}).size
  if cache.bytes ≥ oldSize then cache.bytes - oldSize else 0

/-- The end of `rdp_session_gdi_gdiplus_cache_store`, where the entry is filled. -/
def fill (cache : GdiplusCache) (i newTotal : Nat) (order : GdiplusOrder) :
    Status × GdiplusCache :=
  match gdiplusAppend [] order.totalSize order.data with
  | .error _ => (.protocolError, { cache with entries := cache.entries.set i {} })
  | .ok data =>
      let entry : GdiplusCacheEntry :=
        { active := true, cacheType := order.cacheType, cacheIndex := order.cacheIndex
          totalSize := order.totalSize, totalEmfSize := order.totalEmfSize
          lastUsed := cache.clock + 1, data }
      (.ok, { entries := cache.entries.set i entry, clock := cache.clock + 1
              bytes := newTotal + data.length })

/-- `rdp_session_gdi_gdiplus_cache_store`. -/
def store (cache : GdiplusCache) (order : GdiplusOrder) : Status × GdiplusCache :=
  if order.totalSize > gdiplusMaxBytes then (.protocolError, cache)
  else
    let (i, cache) := cache.slot order.cacheType order.cacheIndex
    if order.totalSize > sizeSub gdiplusMaxBytes (cache.newTotal i) then
      let (i, cache) := cache.reset.slot order.cacheType order.cacheIndex
      cache.fill i 0 order
    else cache.fill i (cache.newTotal i) order

/-- `rdp_session_gdi_gdiplus_cache_append`. -/
def append (cache : GdiplusCache) (order : GdiplusOrder) : Status × GdiplusCache :=
  match cache.find order.cacheType order.cacheIndex with
  | none => (.protocolError, cache)
  | some (i, entry, cache) =>
      if order.totalSize ≠ 0 ∧ order.totalSize ≠ entry.totalSize then (.protocolError, cache)
      else
        match gdiplusAppend entry.data entry.totalSize order.data with
        | .error _ => (.protocolError, cache)
        | .ok data =>
            (.ok, { entries := cache.entries.set i { entry with data, lastUsed := cache.clock + 1 }
                    clock := cache.clock + 1, bytes := cache.bytes + order.data.length })

/-- `rdp_session_gdi_gdiplus_cache_finish`. -/
def finish (cache : GdiplusCache) (order : GdiplusOrder) : Status × GdiplusCache :=
  match cache.append order with
  | (.ok, cache) =>
      match cache.find order.cacheType order.cacheIndex with
      | none => (.protocolError, cache)
      | some (_, entry, cache) =>
          if entry.totalSize ≠ 0 ∧ entry.data.length ≠ entry.totalSize then (.protocolError, cache)
          else (.ok, cache)
  | refused => refused

end GdiplusCache

inductive GdiplusEvent where
  | first (payload : Bytes)
  | next (payload : Bytes)
  | last (payload : Bytes)
  | reset
  deriving Repr, DecidableEq

def withGdiplusOrder (cache : GdiplusCache) (orderType : GdiplusOrderType) (payload : Bytes)
    (apply : GdiplusOrder → Status × GdiplusCache) : Status × GdiplusCache :=
  match parseGdiplusOrder orderType payload with
  | .error _ => (.protocolError, cache)
  | .ok order => apply order

/-- `rdp_session_gdi_apply_gdiplus_order`; the orders of a drawing do not touch the cache. -/
def applyGdiplusEvent (cache : GdiplusCache) : GdiplusEvent → Status × GdiplusCache
  | .first payload => withGdiplusOrder cache .cacheFirst payload cache.store
  | .next payload => withGdiplusOrder cache .cacheNext payload cache.append
  | .last payload => withGdiplusOrder cache .cacheEnd payload cache.finish
  | .reset => (.ok, cache.reset)

def gdiplusStep (cache : GdiplusCache) (event : GdiplusEvent) : Exec (Status × GdiplusCache) :=
  .ok (applyGdiplusEvent cache event)

/-! ## What an order holds -/

structure GdiplusOrder.Fits (order : GdiplusOrder) : Prop where
  total : order.totalSize < 65536
  piece : order.data.length < 65536
  inside : order.totalSize ≠ 0 → order.data.length ≤ order.totalSize

theorem parseGdiplusOrder_fits {orderType : GdiplusOrderType} {payload : Bytes}
    {order : GdiplusOrder}
    (cached : orderType = .cacheFirst ∨ orderType = .cacheNext ∨ orderType = .cacheEnd)
    (parsed : parseGdiplusOrder orderType payload = .ok order) : order.Fits := by
  unfold parseGdiplusOrder at parsed
  obtain ⟨⟨fields, dataLen, stream⟩, readFields, parsed⟩ := bind_eq_ok.mp parsed
  obtain ⟨⟨data, left⟩, readData, parsed⟩ := bind_eq_ok.mp parsed
  have length := (readBytes_length readData).1
  have sizes : fields.totalSize < 65536 ∧ dataLen < 65536 := by
    rcases cached with rfl | rfl | rfl <;>
      simp only [readGdiplusFields, readU8_bind, readU16Le_bind, readU32Le_bind, attempt_pure,
        Except.ok.injEq, Prod.mk.injEq] at readFields
    · obtain ⟨_, _, rfl, _, _, rfl, total, _, rfl, piece, _, rfl, _, _, rfl, rfl, rfl, -⟩ :=
        readFields
      exact ⟨total.toNat_lt, piece.toNat_lt⟩
    · obtain ⟨_, _, rfl, _, _, rfl, total, _, rfl, piece, _, rfl, rfl, rfl, -⟩ := readFields
      exact ⟨total.toNat_lt, piece.toNat_lt⟩
    · obtain ⟨_, _, rfl, _, _, rfl, total, _, rfl, piece, _, rfl, _, _, rfl, rfl, rfl, -⟩ :=
        readFields
      exact ⟨total.toNat_lt, piece.toNat_lt⟩
  simp only at parsed
  split at parsed
  · exact nomatch parsed
  split at parsed
  · exact nomatch parsed
  rename_i inside
  split at parsed
  · exact nomatch parsed
  have piece : data.length < 65536 := by omega
  have whole : fields.totalSize ≠ 0 → data.length ≤ fields.totalSize := by
    intro announced
    by_contra longer
    exact inside ⟨announced, by omega⟩
  cases parsed
  exact ⟨sizes.1, piece, whole⟩

/-! ## The count of bytes -/

structure GdiplusCache.Counted (cache : GdiplusCache) : Prop where
  slots : cache.entries.length = gdiplusCacheSlots
  bytes : cache.bytes = weight GdiplusCacheEntry.size cache.entries

section Counting

variable {cache : GdiplusCache} {cacheType : UInt8} {cacheIndex : UInt16} {i : Nat}
  {entry : GdiplusCacheEntry} {order : GdiplusOrder}

theorem entry_held (held : cache.entries[i]? = some entry) : cache.entries.getD i {} = entry := by
  rw [List.getD_eq_getElem?_getD, held, Option.getD_some]

theorem GdiplusCache.Counted.empty : ({} : GdiplusCache).Counted := by
  have none : ({} : GdiplusCacheEntry).size = 0 := rfl
  exact ⟨List.length_replicate, (weight_replicate gdiplusCacheSlots none).symm⟩

variable (counted : cache.Counted)
include counted

theorem find_counted {found : GdiplusCache}
    (hit : cache.find cacheType cacheIndex = some (i, entry, found)) :
    found.Counted ∧ found.bytes = cache.bytes ∧ found.entries[i]? = some entry ∧
      entry.active = true := by
  obtain ⟨⟨j, old⟩, looked, same⟩ := Option.map_eq_some_iff.mp hit
  cases same
  obtain ⟨held, passes⟩ := lookup_some looked
  simp only [Bool.and_eq_true] at passes
  have moved := weight_set GdiplusCacheEntry.size held { old with lastUsed := cache.clock + 1 }
  have stamped : ({ old with lastUsed := cache.clock + 1 } : GdiplusCacheEntry).size = old.size :=
    rfl
  refine ⟨⟨by simpa using counted.slots, ?_⟩, rfl, getElem?_set_held held, passes.1.1⟩
  have bytes := counted.bytes
  simp only
  omega

theorem evict_counted (inside : i < gdiplusCacheSlots) :
    (cache.evict i).Counted ∧ (cache.evict i).entries[i]? = some {} ∧
      (cache.evict i).bytes ≤ cache.bytes := by
  have within : i < cache.entries.length := counted.slots ▸ inside
  have held := List.getElem?_eq_getElem within
  generalize cache.entries[i] = old at held
  have moved := weight_set GdiplusCacheEntry.size held {}
  have heavy := size_le_weight GdiplusCacheEntry.size held
  have empty : ({} : GdiplusCacheEntry).size = 0 := rfl
  have bytes := counted.bytes
  simp only [GdiplusCache.evict, if_neg (Nat.not_le.mpr inside), entry_held held]
  rw [if_pos (by omega)]
  refine ⟨⟨by simpa using counted.slots, ?_⟩, getElem?_set_held held, Nat.sub_le _ _⟩
  simp only
  omega

omit counted in
theorem gdiplusLru_bound (entries : List GdiplusCacheEntry) (i selected : Nat) (clock : UInt64) :
    gdiplusLru entries i selected clock = selected ∨
      gdiplusLru entries i selected clock < i + entries.length := by
  induction entries generalizing i selected clock with
  | nil => exact .inl rfl
  | cons entry rest ih =>
    unfold gdiplusLru
    split
    · right
      rw [List.length_cons]
      omega
    split
    · cases ih (i + 1) i entry.lastUsed with
      | inl same =>
        rw [same, List.length_cons]
        right
        omega
      | inr below =>
        rw [List.length_cons]
        right
        omega
    cases ih (i + 1) selected clock with
    | inl same => exact .inl same
    | inr below =>
      rw [List.length_cons]
      right
      omega

theorem gdiplusLru_inside :
    gdiplusLru cache.entries 0 0 0xffffffffffffffff < gdiplusCacheSlots := by
  have slots := counted.slots
  have : gdiplusCacheSlots = 128 := rfl
  cases gdiplusLru_bound cache.entries 0 0 0xffffffffffffffff with
  | inl same => omega
  | inr below => omega

theorem slot_counted (cacheType : UInt8) (cacheIndex : UInt16) :
    (cache.slot cacheType cacheIndex).2.Counted ∧
      (∃ entry, (cache.slot cacheType cacheIndex).2.entries[(cache.slot cacheType cacheIndex).1]? =
        some entry) ∧
      (cache.slot cacheType cacheIndex).2.bytes ≤ cache.bytes := by
  unfold GdiplusCache.slot
  split
  · rename_i hit
    obtain ⟨kept, bytes, held, _⟩ := find_counted counted hit
    exact ⟨kept, ⟨_, held⟩, Nat.le_of_eq bytes⟩
  · obtain ⟨kept, held, bytes⟩ := evict_counted counted (gdiplusLru_inside counted)
    exact ⟨kept, ⟨_, held⟩, bytes⟩

theorem newTotal_eq (held : cache.entries[i]? = some entry) :
    cache.newTotal i + entry.size = cache.bytes := by
  have heavy := size_le_weight GdiplusCacheEntry.size held
  have bytes := counted.bytes
  simp only [GdiplusCache.newTotal, entry_held held]
  rw [if_pos (by omega)]
  omega

theorem fill_counted (fits : order.Fits) (held : cache.entries[i]? = some entry) {total : Nat}
    (rest : total + entry.size = cache.bytes) :
    (cache.fill i total order).2.Counted ∧
      (cache.fill i total order).2.bytes = total + order.data.length := by
  have takes : gdiplusAppend [] order.totalSize order.data = .ok order.data := by
    have piece := fits.piece
    have inside := fits.inside
    have limit : gdiplusMaxBytes = 16777216 := rfl
    unfold gdiplusAppend
    simp only [List.length_nil, List.nil_append]
    rw [if_neg, if_neg]
    · omega
    · intro both
      have := inside both.1
      omega
  have bytes := counted.bytes
  unfold GdiplusCache.fill
  rw [takes]
  refine ⟨⟨by simpa using counted.slots, ?_⟩, rfl⟩
  simp only
  have step := weight_set GdiplusCacheEntry.size held
    { active := true, cacheType := order.cacheType, cacheIndex := order.cacheIndex
      totalSize := order.totalSize, totalEmfSize := order.totalEmfSize
      lastUsed := cache.clock + 1, data := order.data }
  have size : ({ active := true, cacheType := order.cacheType, cacheIndex := order.cacheIndex
                 totalSize := order.totalSize, totalEmfSize := order.totalEmfSize
                 lastUsed := cache.clock + 1, data := order.data } : GdiplusCacheEntry).size =
      order.data.length := rfl
  omega

def GdiplusCache.accepts (cache : GdiplusCache) (order : GdiplusOrder) : Bool :=
  match cache.find order.cacheType order.cacheIndex with
  | none => false
  | some (_, entry, _) =>
      (order.totalSize == 0 || order.totalSize == entry.totalSize) &&
        (gdiplusAppend entry.data entry.totalSize order.data).isOk

omit counted in
theorem gdiplusAppend_eq {buffer data grown : Bytes} {totalSize : Nat}
    (appended : gdiplusAppend buffer totalSize data = .ok grown) : grown = buffer ++ data := by
  unfold gdiplusAppend at appended
  split at appended
  · exact nomatch appended
  split at appended
  · exact nomatch appended
  · exact (Except.ok.inj appended).symm

theorem append_counted (order : GdiplusOrder) :
    (cache.append order).2.Counted ∧
      (cache.append order).2.bytes =
        cache.bytes + if cache.accepts order then order.data.length else 0 := by
  unfold GdiplusCache.append GdiplusCache.accepts
  split
  · exact ⟨counted, rfl⟩
  rename_i i entry found hit
  obtain ⟨kept, bytes, held, active⟩ := find_counted counted hit
  split
  · rename_i other
    have refused : (order.totalSize == 0 || order.totalSize == entry.totalSize) = false := by
      simpa using other
    simp only [refused, Bool.false_and, Bool.false_eq_true, if_false]
    exact ⟨kept, bytes⟩
  rename_i same
  have matches' : (order.totalSize == 0 || order.totalSize == entry.totalSize) = true := by
    simp only [Bool.or_eq_true, beq_iff_eq]
    by_contra neither
    rw [not_or] at neither
    exact same neither
  simp only [matches', Bool.true_and]
  cases appended : gdiplusAppend entry.data entry.totalSize order.data with
  | error stop => exact ⟨kept, bytes⟩
  | ok grown =>
    have moved := weight_set GdiplusCacheEntry.size held
      { entry with data := grown, lastUsed := found.clock + 1 }
    have size : ({ entry with data := grown, lastUsed := found.clock + 1 } :
        GdiplusCacheEntry).size = entry.size + order.data.length := by
      simp only [GdiplusCacheEntry.size, active, if_true]
      rw [gdiplusAppend_eq appended, List.length_append]
    have total := kept.bytes
    refine ⟨⟨by simpa using kept.slots, ?_⟩, ?_⟩
    · simp only
      omega
    · simp only [Except.isOk, Except.toBool, if_true, bytes]

theorem finish_counted (order : GdiplusOrder) :
    (cache.finish order).2.Counted ∧
      (cache.finish order).2.bytes = (cache.append order).2.bytes := by
  have appended := (append_counted counted order).1
  unfold GdiplusCache.finish
  split
  · rename_i next was
    rw [was] at appended ⊢
    split
    · exact ⟨appended, rfl⟩
    rename_i hit
    obtain ⟨kept, bytes, _⟩ := find_counted appended hit
    split
    · exact ⟨kept, bytes⟩
    · exact ⟨kept, bytes⟩
  · exact ⟨appended, rfl⟩

def GdiplusCache.kept (cache : GdiplusCache) (order : GdiplusOrder) : Nat :=
  (cache.slot order.cacheType order.cacheIndex).2.newTotal
    (cache.slot order.cacheType order.cacheIndex).1

theorem kept_le (order : GdiplusOrder) : cache.kept order ≤ cache.bytes := by
  obtain ⟨slotted, ⟨entry, held⟩, bytes⟩ :=
    slot_counted counted order.cacheType order.cacheIndex
  have whole := newTotal_eq slotted held
  unfold GdiplusCache.kept
  omega

theorem store_counted (fits : order.Fits) :
    (cache.store order).2.Counted ∧
      (cache.store order).2.bytes =
        (if order.totalSize > sizeSub gdiplusMaxBytes (cache.kept order) then 0
          else cache.kept order) + order.data.length := by
  have most : gdiplusMaxBytes = 16777216 := rfl
  have total := fits.total
  unfold GdiplusCache.store GdiplusCache.kept
  rw [if_neg (by omega)]
  simp only
  split
  · obtain ⟨slotted, ⟨entry, held⟩, bytes⟩ :=
      slot_counted GdiplusCache.Counted.empty order.cacheType order.cacheIndex
    have whole := newTotal_eq slotted held
    have none : ({} : GdiplusCache).bytes = 0 := rfl
    exact fill_counted slotted fits held (by omega)
  · obtain ⟨slotted, ⟨entry, held⟩, _⟩ := slot_counted counted order.cacheType order.cacheIndex
    exact fill_counted slotted fits held (newTotal_eq slotted held)

theorem store_limit (fits : order.Fits) (limit : cache.bytes ≤ gdiplusMaxBytes) :
    (cache.store order).2.bytes ≤ gdiplusMaxBytes ↔
      (order.totalSize = 0 → cache.kept order + order.data.length ≤ gdiplusMaxBytes) := by
  have most : gdiplusMaxBytes = 16777216 := rfl
  have piece := fits.piece
  have inside := fits.inside
  have stays := kept_le counted order
  have difference : sizeSub gdiplusMaxBytes (cache.kept order) =
      gdiplusMaxBytes - cache.kept order := by
    apply sizeSub_eq (by omega)
    decide
  rw [(store_counted counted fits).2, difference]
  split
  · constructor
    · intro _ unknown
      omega
    · intro _
      omega
  constructor
  · exact fun within _ => within
  · intro unknown
    by_cases announced : order.totalSize = 0
    · exact unknown announced
    · have := inside announced
      omega

omit counted

theorem piece_limit (limit : cache.bytes ≤ gdiplusMaxBytes) (order : GdiplusOrder) :
    (cache.bytes + if cache.accepts order then order.data.length else 0) ≤ gdiplusMaxBytes ↔
      (cache.accepts order = true →
        cache.bytes + order.data.length ≤ gdiplusMaxBytes) := by
  by_cases accepted : cache.accepts order = true
  · simp [accepted]
  · simp [accepted, limit]

end Counting

/-! ## The limit -/

/-- The event does not take the cache over its limit: a piece that an entry accepts has room beside
    all that is held, and so has the first piece of an object of unknown size beside what stays. -/
def WithinLimit (cache : GdiplusCache) : GdiplusEvent → Prop
  | .first payload => ∀ order, parseGdiplusOrder .cacheFirst payload = .ok order →
      order.totalSize = 0 → cache.kept order + order.data.length ≤ gdiplusMaxBytes
  | .next payload => ∀ order, parseGdiplusOrder .cacheNext payload = .ok order →
      cache.accepts order = true → cache.bytes + order.data.length ≤ gdiplusMaxBytes
  | .last payload => ∀ order, parseGdiplusOrder .cacheEnd payload = .ok order →
      cache.accepts order = true → cache.bytes + order.data.length ≤ gdiplusMaxBytes
  | .reset => True

section Limit

variable {cache : GdiplusCache}

theorem gdiplusEvent_counted (counted : cache.Counted) (event : GdiplusEvent) :
    (applyGdiplusEvent cache event).2.Counted := by
  cases event with
  | first payload =>
    simp only [applyGdiplusEvent, withGdiplusOrder]
    split
    · exact counted
    · rename_i parsed
      exact (store_counted counted (parseGdiplusOrder_fits (.inl rfl) parsed)).1
  | next payload =>
    simp only [applyGdiplusEvent, withGdiplusOrder]
    split
    · exact counted
    · exact (append_counted counted _).1
  | last payload =>
    simp only [applyGdiplusEvent, withGdiplusOrder]
    split
    · exact counted
    · exact (finish_counted counted _).1
  | reset => exact GdiplusCache.Counted.empty

theorem gdiplusEvent_limit (counted : cache.Counted) (limit : cache.bytes ≤ gdiplusMaxBytes)
    (event : GdiplusEvent) :
    (applyGdiplusEvent cache event).2.bytes ≤ gdiplusMaxBytes ↔ WithinLimit cache event := by
  cases event with
  | first payload =>
    simp only [applyGdiplusEvent, withGdiplusOrder, WithinLimit]
    cases parsed : parseGdiplusOrder .cacheFirst payload with
    | error stop => simp [limit]
    | ok order =>
      simp only [Except.ok.injEq, forall_eq']
      exact store_limit counted (parseGdiplusOrder_fits (.inl rfl) parsed) limit
  | next payload =>
    simp only [applyGdiplusEvent, withGdiplusOrder, WithinLimit]
    cases parseGdiplusOrder .cacheNext payload with
    | error stop => simp [limit]
    | ok order =>
      simp only [Except.ok.injEq, forall_eq', (append_counted counted order).2]
      exact piece_limit limit order
  | last payload =>
    simp only [applyGdiplusEvent, withGdiplusOrder, WithinLimit]
    cases parseGdiplusOrder .cacheEnd payload with
    | error stop => simp [limit]
    | ok order =>
      simp only [Except.ok.injEq, forall_eq', (finish_counted counted order).2,
        (append_counted counted order).2]
      exact piece_limit limit order
  | reset => simp [applyGdiplusEvent, GdiplusCache.reset, WithinLimit]

end Limit

/-- In every run whose orders keep the limit, the count is what the entries hold and is within the
    limit, and `RDP_SESSION_GDI_GDIPLUS_MAX_BYTES - new_total` does not wrap. An order that does not
    keep it takes the count over the limit. -/
theorem gdiplus_cache_within_limit {cache : GdiplusCache}
    (reached : ReachableWithin gdiplusStep WithinLimit {} cache) :
    cache.bytes = weight GdiplusCacheEntry.size cache.entries ∧
      cache.bytes ≤ gdiplusMaxBytes ∧
      (∀ order, cache.kept order ≤ gdiplusMaxBytes) ∧
      ∀ event, (applyGdiplusEvent cache event).2.bytes ≤ gdiplusMaxBytes ↔
        WithinLimit cache event := by
  have invariant : cache.Counted ∧ cache.bytes ≤ gdiplusMaxBytes := by
    apply reached.invariant fun cache => cache.Counted ∧ cache.bytes ≤ gdiplusMaxBytes
    · exact ⟨GdiplusCache.Counted.empty, Nat.zero_le _⟩
    · intro cache event status next held keeps taken
      have same : applyGdiplusEvent cache event = (status, next) := Except.ok.inj taken
      have counted := gdiplusEvent_counted held.1 event
      have limit := gdiplusEvent_limit held.1 held.2 event
      rw [same] at counted limit
      exact ⟨counted, limit.mpr keeps⟩
  obtain ⟨counted, limit⟩ := invariant
  refine ⟨counted.bytes, limit, ?_, ?_⟩
  · intro order
    exact Nat.le_trans (kept_le counted order) limit
  · intro event
    exact gdiplusEvent_limit counted limit event

theorem gdiplusStep_ok (cache : GdiplusCache) (event : GdiplusEvent) :
    gdiplusStep cache event =
      .ok ((applyGdiplusEvent cache event).1, (applyGdiplusEvent cache event).2) := rfl

/-! ## Objects of unknown size -/

section Unknown

variable {piece : Bytes}

/-- The head of an order of the object with this index, whose size is not announced. -/
def unknownHead (cacheIndex : UInt16) (piece : Bytes) : Bytes :=
  0 :: u16LeBytes cacheIndex.toNat ++ u16LeBytes (0 : UInt16).toNat ++
    u16LeBytes (UInt16.ofNat piece.length).toNat

def unknownFirst (cacheIndex : UInt16) (piece : Bytes) : GdiplusEvent :=
  .first (unknownHead cacheIndex piece ++ u32LeBytes (0 : UInt32).toNat ++ piece)

def unknownNext (cacheIndex : UInt16) (piece : Bytes) : GdiplusEvent :=
  .next (unknownHead cacheIndex piece ++ piece)

theorem piece_length (small : piece.length < 65536) :
    (UInt16.ofNat piece.length).toNat = piece.length := by
  rw [UInt16.toNat_ofNat']
  omega

theorem parse_unknownFirst (cacheIndex : UInt16) (small : piece.length < 65536) :
    parseGdiplusOrder .cacheFirst
      (unknownHead cacheIndex piece ++ u32LeBytes (0 : UInt32).toNat ++ piece) =
      .ok { orderType := .cacheFirst, cacheIndex, data := piece } := by
  have whole := readBytes_append piece []
  rw [List.append_nil] at whole
  simp only [parseGdiplusOrder, readGdiplusFields, unknownHead, List.cons_append,
    List.append_assoc, readU8, ok_bind, readU16Le_append, readU32Le_append, attempt_pure]
  simp only [piece_length small, whole, ok_bind]
  rfl

theorem parse_unknownNext (cacheIndex : UInt16) (small : piece.length < 65536) :
    parseGdiplusOrder .cacheNext (unknownHead cacheIndex piece ++ piece) =
      .ok { orderType := .cacheNext, cacheIndex, data := piece } := by
  have whole := readBytes_append piece []
  rw [List.append_nil] at whole
  simp only [parseGdiplusOrder, readGdiplusFields, unknownHead, List.cons_append,
    List.append_assoc, readU8, ok_bind, readU16Le_append, attempt_pure]
  simp only [piece_length small, whole, ok_bind]
  rfl

/-- An object of unknown size comes in two pieces. -/
theorem gdiplus_cache_within_limit_unknown :
    let opened := (applyGdiplusEvent {} (unknownFirst 0 [7])).2
    let answer := applyGdiplusEvent opened (unknownNext 0 [8, 9])
    answer.1 = .ok ∧ answer.2.bytes = 3 ∧ answer.2.bytes ≤ gdiplusMaxBytes := by
  have opens : WithinLimit {} (unknownFirst 0 [7]) := by
    intro order parsed _
    cases (parse_unknownFirst 0 (by decide)).symm.trans parsed
    decide +kernel
  have opened := ReachableWithin.init.step opens (gdiplusStep_ok _ _)
  have goesOn : WithinLimit (applyGdiplusEvent {} (unknownFirst 0 [7])).2 (unknownNext 0 [8, 9]) := by
    intro order parsed _
    cases (parse_unknownNext 0 (by decide)).symm.trans parsed
    decide +kernel
  exact ⟨by decide +kernel, by decide +kernel,
    (gdiplus_cache_within_limit (opened.step goesOn (gdiplusStep_ok _ _))).2.1⟩

/-- The first slot holds object 0, of unknown size and so far of `held` bytes. -/
def HoldsUnknown (held : Nat) (cache : GdiplusCache) : Prop :=
  ∃ entry rest, cache.entries = entry :: rest ∧ entry.active = true ∧ entry.cacheType = 0 ∧
    entry.cacheIndex = 0 ∧ entry.totalSize = 0 ∧ entry.data.length = held

variable {cache : GdiplusCache}

theorem unknownNext_grows {held : Nat} (holds : HoldsUnknown held cache)
    (small : piece.length < 65536) (room : held + piece.length ≤ gdiplusMaxBytes) :
    HoldsUnknown (held + piece.length) (applyGdiplusEvent cache (unknownNext 0 piece)).2 ∧
      (applyGdiplusEvent cache (unknownNext 0 piece)).2.bytes = cache.bytes + piece.length := by
  obtain ⟨entry, rest, entries, active, type, index, total, size⟩ := holds
  have hit : cache.find 0 0 = some (0, { entry with lastUsed := cache.clock + 1 },
      { cache with clock := cache.clock + 1
                   entries := { entry with lastUsed := cache.clock + 1 } :: rest }) := by
    simp [GdiplusCache.find, lookup, entries, active, type, index]
  have takes : gdiplusAppend entry.data 0 piece = .ok (entry.data ++ piece) := by
    unfold gdiplusAppend
    rw [if_neg (by simp), if_neg (by omega)]
  simp only [applyGdiplusEvent, unknownNext, withGdiplusOrder, parse_unknownNext 0 small,
    GdiplusCache.append, hit, total, takes]
  refine ⟨⟨_, rest, rfl, active, type, index, rfl, ?_⟩, rfl⟩
  simp [size]

theorem unknownNext_run {held : Nat} (holds : HoldsUnknown held cache)
    (small : piece.length < 65536) (n : Nat) (room : held + n * piece.length ≤ gdiplusMaxBytes) :
    ((List.replicate n (unknownNext 0 piece)).foldl
      (fun cache event => (applyGdiplusEvent cache event).2) cache).bytes =
      cache.bytes + n * piece.length := by
  induction n generalizing cache held with
  | zero => simp
  | succ n ih =>
    have more : (n + 1) * piece.length = piece.length + n * piece.length := by
      rw [Nat.succ_mul, Nat.add_comm]
    rw [more] at room ⊢
    obtain ⟨grown, bytes⟩ := unknownNext_grows holds small (by omega)
    rw [List.replicate_succ, List.foldl_cons, ih grown (by omega), bytes]
    omega

def unknownEntry (cacheIndex : UInt16) (lastUsed : UInt64) (piece : Bytes) : GdiplusCacheEntry :=
  { active := true, cacheIndex, lastUsed, data := piece }

theorem store_unknown {cache : GdiplusCache} {cacheIndex : UInt16} {i : Nat}
    (slotted : cache.slot 0 cacheIndex = (i, cache)) (free : cache.entries.getD i {} = {})
    (small : piece.length < 65536) :
    (applyGdiplusEvent cache (unknownFirst cacheIndex piece)).2 =
      { entries := cache.entries.set i (unknownEntry cacheIndex (cache.clock + 1) piece)
        clock := cache.clock + 1, bytes := cache.bytes + piece.length } := by
  have takes : gdiplusAppend [] 0 piece = .ok piece := by
    have limit : gdiplusMaxBytes = 16777216 := rfl
    unfold gdiplusAppend
    rw [if_neg (by simp), if_neg (by simp only [List.length_nil]; omega), List.nil_append]
  have total : cache.newTotal i = cache.bytes := by
    have none : (cache.entries.getD i {}).size = 0 := by
      rw [free]
      rfl
    simp only [GdiplusCache.newTotal, none]
    simp
  simp only [applyGdiplusEvent, unknownFirst, withGdiplusOrder, parse_unknownFirst cacheIndex small,
    GdiplusCache.store, slotted, total, GdiplusCache.fill, takes]
  rfl

theorem evict_free {i : Nat} (held : cache.entries[i]? = some {}) (inside : i < gdiplusCacheSlots) :
    cache.evict i = cache := by
  have same : cache.entries.set i {} = cache.entries := by
    obtain ⟨within, here⟩ := List.getElem?_eq_some_iff.mp held
    rw [← here]
    exact List.set_getElem_self within
  have empty : ({} : GdiplusCacheEntry).size = 0 := rfl
  simp only [GdiplusCache.evict, if_neg (Nat.not_le.mpr inside), entry_held held, empty, same]
  simp

theorem slot_second (piece : Bytes) {cache : GdiplusCache}
    (entries : cache.entries = unknownEntry 0 1 piece :: List.replicate 127 {}) :
    cache.slot 0 1 = (1, cache) := by
  have missed : cache.find 0 1 = none := by
    rw [GdiplusCache.find, entries, lookup, if_neg, lookup_replicate rfl]
    · rfl
    · simp [unknownEntry]
  have second : gdiplusLru cache.entries 0 0 0xffffffffffffffff = 1 := by
    rw [entries]
    rfl
  have free : cache.entries[1]? = some ({} : GdiplusCacheEntry) := by
    rw [entries]
    rfl
  rw [GdiplusCache.slot, missed]
  simp only [second, evict_free free (by decide : 1 < gdiplusCacheSlots)]

theorem unknownFirst_two (small : piece.length < 65536) :
    HoldsUnknown piece.length (applyGdiplusEvent (applyGdiplusEvent {} (unknownFirst 0 piece)).2
        (unknownFirst 1 piece)).2 ∧
      (applyGdiplusEvent (applyGdiplusEvent {} (unknownFirst 0 piece)).2
        (unknownFirst 1 piece)).2.bytes = 2 * piece.length := by
  have start : ({} : GdiplusCache).slot 0 0 = (0, {}) := by decide +kernel
  have first := @store_unknown piece _ _ _ start rfl small
  have second := store_unknown (@slot_second piece
    { entries := unknownEntry 0 1 piece :: List.replicate 127 {}, clock := 1
      bytes := 0 + piece.length } rfl) rfl small
  have opened : (applyGdiplusEvent {} (unknownFirst 0 piece)).2 =
      { entries := unknownEntry 0 1 piece :: List.replicate 127 {}, clock := 1
        bytes := 0 + piece.length } := first
  rw [opened, second]
  refine ⟨⟨unknownEntry 0 1 piece, _, rfl, rfl, rfl, rfl, rfl, rfl⟩, ?_⟩
  simp only
  omega

end Unknown

def longPiece : Bytes := List.replicate 65535 0

/-- Two objects of unknown size, the first of 256 pieces and the second of one, hold 65279 bytes
    more than the limit. -/
theorem unknown_objects_pass_limit :
    ∃ outs cache, run gdiplusStep {} (unknownFirst 0 longPiece :: unknownFirst 1 longPiece ::
        List.replicate 255 (unknownNext 0 longPiece)) = .ok (outs, cache) ∧
      cache.bytes = gdiplusMaxBytes + 65279 := by
  have length : longPiece.length = 65535 := List.length_replicate
  have limit : gdiplusMaxBytes = 16777216 := rfl
  obtain ⟨outs, ran⟩ := @run_of_total _ _ _ gdiplusStep applyGdiplusEvent
    (fun _ _ => rfl) {} (unknownFirst 0 longPiece :: unknownFirst 1 longPiece ::
      List.replicate 255 (unknownNext 0 longPiece))
  refine ⟨outs, _, ran, ?_⟩
  have small : longPiece.length < 65536 := by omega
  obtain ⟨holds, bytes⟩ := unknownFirst_two small
  rw [List.foldl_cons, List.foldl_cons, unknownNext_run holds small 255 (by omega), bytes]
  omega

end LibRdp.Client
