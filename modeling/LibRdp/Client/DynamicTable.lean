import LibRdp.Machine.Table
import LibRdp.Machine.Counter
import LibRdp.Channels.DynamicChannel

/-! # The dynamic channel table of a client session

Entries are taken for a server's create request or for an open of the client, and
cleared when the channel ends. A generation counts the clearings of an entry, so that
a handle made of the slot and its generation names one occupation of the slot.
-/

namespace LibRdp.Client

open Machine Channels

/-- `RDP_SESSION_MAX_DYNAMIC_CHANNELS`. -/
def maxDynamicChannels : Nat := 64

/-- `RDP_SESSION_DYNAMIC_CHANNEL_NAME_MAX`, with room for the terminating zero. -/
def dynamicChannelNameMax : Nat := 96

/-- `rdp_session_dynamic_channel`; `δ` is the state of its decompressor. -/
structure DynamicChannel (δ : Type) [Inhabited δ] where
  channelId : UInt32 := 0
  generation : UInt32 := 0
  channelIdBytes : Nat := 0
  priority : Nat := 0
  active : Bool := false
  opening : Bool := false
  clientInitiated : Bool := false
  fragmenting : Bool := false
  fragmentExpected : UInt32 := 0
  fragment : Bytes := []
  decompressor : δ := default
  name : Bytes := []

/-- The part of `librdp_session` that the table uses; `limit` is
    `limits.dynamic_channel_count`, which the settings keep within the table. -/
structure ChannelTable (δ : Type) [Inhabited δ] where
  channels : List (DynamicChannel δ)
  nextDynamicChannelId : UInt32
  limit : Nat
  within : limit ≤ maxDynamicChannels

section Operations

variable {δ : Type} [Inhabited δ]

def DynamicChannel.used (entry : DynamicChannel δ) : Bool := entry.active || entry.opening

def DynamicChannel.activeFor (channelId : UInt32) (entry : DynamicChannel δ) : Bool :=
  entry.active && entry.channelId == channelId

def DynamicChannel.usedFor (channelId : UInt32) (entry : DynamicChannel δ) : Bool :=
  entry.used && entry.channelId == channelId

variable (table : ChannelTable δ)

/-- `rdp_session_dynamic_channel_find`. -/
def dynamicChannelFind (channelId : UInt32) : Option (Nat × DynamicChannel δ) :=
  Table.lookup (DynamicChannel.activeFor channelId) table.channels

/-- `rdp_session_dynamic_channel_find_any`. -/
def dynamicChannelFindAny (channelId : UInt32) : Option (Nat × DynamicChannel δ) :=
  Table.lookup (DynamicChannel.usedFor channelId) table.channels

/-- `rdp_session_dynamic_channel_find_opening`. -/
def dynamicChannelFindOpening (channelId : UInt32) : Option (Nat × DynamicChannel δ) :=
  (dynamicChannelFindAny table channelId).filter fun found =>
    found.2.opening && found.2.clientInitiated

/-- `rdp_session_dynamic_channel_handle`; zero is no handle. -/
def dynamicChannelHandle (slot : Nat) (entry : DynamicChannel δ) : UInt64 :=
  if slot ≥ maxDynamicChannels ∨ entry.generation = 0 then 0
  else ((UInt64.ofNat slot + 1) <<< 32) ||| entry.generation.toUInt64

/-- `rdp_session_dynamic_channel_from_handle`. -/
def dynamicChannelFromHandle (handle : UInt64) : Option (Nat × DynamicChannel δ) :=
  if handle = 0 then none
  else
    let slot := ((handle >>> 32) &&& 0xffffffff).toNat
    let generation := (handle &&& 0xffffffff).toUInt32
    if slot = 0 ∨ slot > maxDynamicChannels ∨ generation = 0 then none
    else
      match table.channels[slot - 1]? with
      | none => none
      | some entry =>
          if !entry.used ∨ entry.generation ≠ generation then none else some (slot - 1, entry)

/-- `rdp_session_dynamic_channel_free_slot`. -/
def dynamicChannelFreeSlot : Option (Nat × DynamicChannel δ) :=
  Table.lookup (fun entry => !entry.used) (table.channels.take table.limit)

/-- The loop of `rdp_session_dynamic_channel_allocate_id`. -/
def allocateIdFrom : Nat → UInt32 → Option UInt32
  | 0, _ => none
  | attempts + 1, candidate =>
      let candidate := if candidate = 0 then 1 else candidate
      if (dynamicChannelFindAny table candidate).isNone then some candidate
      else allocateIdFrom attempts (candidate + 1)

/-- `rdp_session_dynamic_channel_allocate_id`. -/
def dynamicChannelAllocateId : Option UInt32 × ChannelTable δ :=
  let candidate := if table.nextDynamicChannelId = 0 then 1 else table.nextDynamicChannelId
  match allocateIdFrom table (maxDynamicChannels + 1) candidate with
  | none => (none, table)
  | some channelId =>
      let next := channelId + 1
      (some channelId, { table with nextDynamicChannelId := if next = 0 then 1 else next })

/-- `rdp_session_dynamic_channel_clear_entry`. -/
def dynamicChannelClearEntry (entry : DynamicChannel δ) : DynamicChannel δ :=
  let generation := entry.generation + 1
  { generation := if generation = 0 then 1 else generation }

/-- `rdp_session_dynamic_channel_add`: the slot taken and the table. -/
def dynamicChannelAdd (request : CreateRequest) : Status × Option Nat × ChannelTable δ :=
  if (dynamicChannelFindAny table request.channelId).isSome then (.protocolError, none, table)
  else
    match dynamicChannelFreeSlot table with
    | none => (.limitExceeded, none, table)
    | some (slot, entry) =>
        let entry : DynamicChannel δ :=
          { dynamicChannelClearEntry entry with
            channelId := request.channelId
            channelIdBytes := request.channelIdBytes
            priority := if request.priority ≤ 2 then request.priority else 0
            active := true
            name := request.name.take (dynamicChannelNameMax - 1) }
        (.ok, some slot, { table with channels := table.channels.set slot entry })

/-- `rdp_session_dynamic_channel_add_opening`: the slot taken, its handle and the table. -/
def dynamicChannelAddOpening (channelId : UInt32) (channelIdBytes priority : Nat) (name : Bytes) :
    Status × Option Nat × UInt64 × ChannelTable δ :=
  if name.length = 0 then (.invalidArgument, none, 0, table)
  else if (dynamicChannelFindAny table channelId).isSome then (.state, none, 0, table)
  else
    match dynamicChannelFreeSlot table with
    | none => (.limitExceeded, none, 0, table)
    | some (slot, entry) =>
        let entry : DynamicChannel δ :=
          { dynamicChannelClearEntry entry with
            channelId, channelIdBytes, priority, opening := true, clientInitiated := true
            name := name.take (dynamicChannelNameMax - 1) }
        let handle := dynamicChannelHandle slot entry
        (if handle ≠ 0 then .ok else .state, some slot, handle,
          { table with channels := table.channels.set slot entry })

/-- `rdp_session_dynamic_channels_clear`. -/
def dynamicChannelsClear : ChannelTable δ :=
  { table with channels := table.channels.map dynamicChannelClearEntry }

def dynamicChannelAnswered (entry : DynamicChannel δ) : DynamicChannel δ :=
  { entry with opening := false, active := true }

inductive TableInput where
  | add (request : CreateRequest)
  | addOpening (channelId : UInt32) (channelIdBytes priority : Nat) (name : Bytes)
  | answered (slot : Nat)
  | clearEntry (slot : Nat)
  | clear
  | allocateId

/-- What an operation answers; `cleared` are the entries it cleared and `occupied` the one it
    took. -/
structure TableAnswer where
  status : Status
  channelId : Option UInt32 := none
  handle : UInt64 := 0
  cleared : List Nat := []
  occupied : Option Nat := none

def tableStep : TableInput → TableAnswer × ChannelTable δ
  | .add request =>
      let (status, slot, table) := dynamicChannelAdd table request
      ({ status, cleared := slot.toList, occupied := slot }, table)
  | .addOpening channelId channelIdBytes priority name =>
      let (status, slot, handle, table) :=
        dynamicChannelAddOpening table channelId channelIdBytes priority name
      ({ status, handle, cleared := slot.toList, occupied := slot }, table)
  | .answered slot =>
      match table.channels[slot]? with
      | none => ({ status := .invalidArgument }, table)
      | some entry =>
          if !entry.opening then ({ status := .state }, table)
          else ({ status := .ok }, { table with
            channels := table.channels.set slot (dynamicChannelAnswered entry) })
  | .clearEntry slot =>
      match table.channels[slot]? with
      | none => ({ status := .invalidArgument }, table)
      | some entry => ({ status := .ok, cleared := [slot] }, { table with
          channels := table.channels.set slot (dynamicChannelClearEntry entry) })
  | .clear => ({ status := .ok, cleared := List.range table.channels.length }, dynamicChannelsClear table)
  | .allocateId =>
      let (channelId, table) := dynamicChannelAllocateId table
      ({ status := if channelId.isSome then .ok else .limitExceeded, channelId }, table)

end Operations

def channelTableInit (δ : Type) [Inhabited δ] {limit : Nat} (within : limit ≤ maxDynamicChannels) :
    ChannelTable δ :=
  { channels := List.replicate maxDynamicChannels {}, nextDynamicChannelId := 1, limit, within }

section Handles

variable {δ : Type} [Inhabited δ] {table : ChannelTable δ} {slot : Nat} {entry : DynamicChannel δ}

theorem handle_bits (inside : slot < maxDynamicChannels) (generation : UInt32) :
    ((UInt64.ofNat slot + 1) <<< 32 ||| generation.toUInt64).toNat =
      (slot + 1) * 2 ^ 32 + generation.toNat := by
  have small := generation.toNat_lt
  unfold maxDynamicChannels at inside
  have next : (UInt64.ofNat slot + 1).toNat = slot + 1 := by
    have one : (1 : UInt64).toNat = 1 := rfl
    rw [UInt64.toNat_add, UInt64.toNat_ofNat']
    omega
  have high : ((UInt64.ofNat slot + 1) <<< 32).toNat = (slot + 1) <<< 32 := by
    have width : (32 : UInt64).toNat % 64 = 32 := rfl
    rw [UInt64.toNat_shiftLeft, next, width, Nat.shiftLeft_eq]
    omega
  rw [UInt64.toNat_or, high, UInt32.toNat_toUInt64, ← Nat.shiftLeft_add_eq_or_of_lt small,
    Nat.shiftLeft_eq]

theorem handle_high (handle : UInt64) :
    ((handle >>> 32) &&& 0xffffffff).toNat = handle.toNat / 2 ^ 32 := by
  have bound := handle.toNat_lt
  have mask : (0xffffffff : UInt64).toNat = 2 ^ 32 - 1 := rfl
  have width : (32 : UInt64).toNat % 64 = 32 := rfl
  rw [UInt64.toNat_and, mask, Nat.and_two_pow_sub_one_eq_mod, UInt64.toNat_shiftRight, width,
    Nat.shiftRight_eq_div_pow]
  omega

theorem handle_low (handle : UInt64) :
    ((handle &&& 0xffffffff).toUInt32).toNat = handle.toNat % 2 ^ 32 := by
  have mask : (0xffffffff : UInt64).toNat = 2 ^ 32 - 1 := rfl
  rw [UInt64.toNat_toUInt32, UInt64.toNat_and, mask, Nat.and_two_pow_sub_one_eq_mod, Nat.mod_mod]

theorem dynamicChannelFromHandle_handle (inside : slot < maxDynamicChannels)
    (counted : entry.generation ≠ 0) :
    dynamicChannelFromHandle table (dynamicChannelHandle slot entry) =
      match table.channels[slot]? with
      | none => none
      | some now =>
        if !now.used ∨ now.generation ≠ entry.generation then none else some (slot, now) := by
  have small := entry.generation.toNat_lt
  have bits := handle_bits inside entry.generation
  have made : dynamicChannelHandle slot entry =
      (UInt64.ofNat slot + 1) <<< 32 ||| entry.generation.toUInt64 :=
    if_neg (by
      simp only [counted, or_false]
      omega)
  rw [made]
  generalize (UInt64.ofNat slot + 1) <<< 32 ||| entry.generation.toUInt64 = handle at bits
  have some : handle ≠ 0 := by
    rintro rfl
    have zero : (0 : UInt64).toNat = 0 := rfl
    omega
  have isSlot : ((handle >>> 32) &&& 0xffffffff).toNat = slot + 1 := by
    rw [handle_high]
    omega
  have isGeneration : (handle &&& 0xffffffff).toUInt32 = entry.generation := by
    apply UInt32.toNat_inj.mp
    rw [handle_low]
    omega
  simp only [dynamicChannelFromHandle, if_neg some, isSlot, isGeneration]
  rw [if_neg (by simp only [counted, or_false]; omega), Nat.add_sub_cancel]

end Handles

section Allocation

variable {δ : Type} [Inhabited δ] {table : ChannelTable δ} {candidate channelId : UInt32}

theorem one_or_self_ne_zero (candidate : UInt32) :
    (if candidate = 0 then 1 else candidate) ≠ 0 := by
  split
  · decide
  · assumption

theorem allocateIdFrom_some {attempts : Nat}
    (found : allocateIdFrom table attempts candidate = some channelId) :
    channelId ≠ 0 ∧ dynamicChannelFindAny table channelId = none := by
  induction attempts generalizing candidate with
  | zero => cases found
  | succ attempts ih =>
    have some := one_or_self_ne_zero candidate
    simp only [allocateIdFrom] at found
    generalize (if candidate = 0 then 1 else candidate) = now at found some
    split at found
    · rename_i unused
      cases found
      exact ⟨some, Option.isNone_iff_eq_none.mp unused⟩
    · exact ih found

theorem allocateIdFrom_none {attempts : Nat} (some : candidate ≠ 0)
    (missed : allocateIdFrom table attempts candidate = none) {k : Nat} (tried : k < attempts) :
    (dynamicChannelFindAny table (skipZero^[k] candidate)).isSome = true := by
  induction attempts generalizing candidate k with
  | zero => omega
  | succ attempts ih =>
    simp only [allocateIdFrom, if_neg some] at missed
    split at missed
    · cases missed
    rename_i used
    cases k with
    | zero =>
      rw [Option.isNone_iff_eq_none] at used
      exact Option.isSome_iff_ne_none.mpr used
    | succ k =>
      have next : allocateIdFrom table attempts (skipZero candidate) = none := by
        cases attempts with
        | zero => rfl
        | succ attempts =>
          unfold skipZero
          split
          · rename_i wraps
            rw [wraps] at missed
            exact missed
          · exact missed
      exact ih (skipZero_ne_zero candidate) next (Nat.lt_of_succ_lt_succ tried)

theorem dynamicChannelAllocateId_some (size : table.channels.length = maxDynamicChannels) :
    ∃ channelId next, dynamicChannelAllocateId table =
        (some channelId, { table with nextDynamicChannelId := next }) ∧
      channelId ≠ 0 ∧ dynamicChannelFindAny table channelId = none := by
  unfold dynamicChannelAllocateId
  generalize start :
    (if table.nextDynamicChannelId = 0 then 1 else table.nextDynamicChannelId) = candidate
  have some : candidate ≠ 0 := by
    rw [← start]
    exact one_or_self_ne_zero _
  simp only
  cases found : allocateIdFrom table (maxDynamicChannels + 1) candidate with
  | some channelId => exact ⟨channelId, _, rfl, allocateIdFrom_some found⟩
  | none =>
    have round : maxDynamicChannels + 1 ≤ counterPeriod := by decide
    have apart := skipZero_iterates_nodup some round
    obtain ⟨channelId, isCandidate, free⟩ := Table.exists_missing apart
      (fun channelId (entry : DynamicChannel δ) (holds : entry.usedFor channelId = true) => by
        simp only [DynamicChannel.usedFor, Bool.and_eq_true, beq_iff_eq] at holds
        exact holds.2)
      (by rw [size, List.length_map, List.length_range]; omega)
    obtain ⟨k, tried, rfl⟩ := List.mem_map.mp isCandidate
    have used := allocateIdFrom_none some found (List.mem_range.mp tried)
    rw [dynamicChannelFindAny, free] at used
    cases used

end Allocation

inductive TableMove {δ : Type} [Inhabited δ] (channels : List (DynamicChannel δ))
    (answer : TableAnswer) : List (DynamicChannel δ) → Prop where
  | same (quiet : answer.cleared = []) (vacant : answer.occupied = none) :
      TableMove channels answer channels
  | answered (held : channels[slot]? = some entry) (opening : entry.opening = true)
      (quiet : answer.cleared = []) (vacant : answer.occupied = none) :
      TableMove channels answer (channels.set slot (dynamicChannelAnswered entry))
  | taken (held : channels[slot]? = some old) (counted : new.generation = skipZero old.generation)
      (fresh : Table.lookup (DynamicChannel.usedFor new.channelId) channels = none)
      (cleared : answer.cleared = [slot]) (occupied : answer.occupied = some slot) :
      TableMove channels answer (channels.set slot new)
  | cleared (held : channels[slot]? = some entry) (cleared : answer.cleared = [slot])
      (vacant : answer.occupied = none) :
      TableMove channels answer (channels.set slot (dynamicChannelClearEntry entry))
  | clearedAll (cleared : answer.cleared = List.range channels.length)
      (vacant : answer.occupied = none) :
      TableMove channels answer (channels.map dynamicChannelClearEntry)

structure TableOk {δ : Type} [Inhabited δ] (channels : List (DynamicChannel δ)) : Prop where
  size : channels.length = maxDynamicChannels
  ids : Table.Distinct DynamicChannel.used DynamicChannel.channelId channels
  generations : Table.Every (fun entry => entry.used = true → entry.generation ≠ 0) channels

inductive Fate {δ : Type} [Inhabited δ] (old new : DynamicChannel δ) : Nat → Bool → Prop where
  | kept (same : new.generation = old.generation) : Fate old new 0 false
  | cleared (counted : new.generation = skipZero old.generation) (occupied : Bool) :
      Fate old new 1 occupied

section Moves

variable {δ : Type} [Inhabited δ] {table : ChannelTable δ} {slot : Nat}
  {channels channels' : List (DynamicChannel δ)} {answer : TableAnswer}

variable {entry old : DynamicChannel δ}

theorem dynamicChannelFreeSlot_held (free : dynamicChannelFreeSlot table = some (slot, entry)) :
    table.channels[slot]? = some entry ∧ entry.used = false := by
  obtain ⟨held, passes⟩ := Table.lookup_some free
  rw [List.getElem?_take] at held
  split at held
  · exact ⟨held, by simpa using passes⟩
  · cases held

theorem tableStep_moves (input : TableInput) (size : table.channels.length = maxDynamicChannels) :
    TableMove table.channels (tableStep table input).1 (tableStep table input).2.channels := by
  cases input with
  | add request =>
    simp only [tableStep, dynamicChannelAdd]
    split
    · exact .same rfl rfl
    rename_i unseen
    cases free : dynamicChannelFreeSlot table with
    | none => exact .same rfl rfl
    | some pair =>
      exact .taken (dynamicChannelFreeSlot_held free).1 rfl
        (Option.not_isSome_iff_eq_none.mp unseen) rfl rfl
  | addOpening channelId channelIdBytes priority name =>
    simp only [tableStep, dynamicChannelAddOpening]
    split
    · exact .same rfl rfl
    split
    · exact .same rfl rfl
    rename_i unseen
    cases free : dynamicChannelFreeSlot table with
    | none => exact .same rfl rfl
    | some pair =>
      exact .taken (dynamicChannelFreeSlot_held free).1 rfl
        (Option.not_isSome_iff_eq_none.mp unseen) rfl rfl
  | answered slot =>
    simp only [tableStep]
    cases held : table.channels[slot]? with
    | none => exact .same rfl rfl
    | some entry =>
      simp only
      split
      · exact .same rfl rfl
      · rename_i opening
        exact .answered held (by simpa using opening) rfl rfl
  | clearEntry slot =>
    simp only [tableStep]
    cases held : table.channels[slot]? with
    | none => exact .same rfl rfl
    | some entry => exact .cleared held rfl rfl
  | clear => exact .clearedAll rfl rfl
  | allocateId =>
    obtain ⟨channelId, next, allocated, _⟩ := dynamicChannelAllocateId_some size
    simp only [tableStep, allocated]
    exact .same rfl rfl

theorem TableMove.ok (move : TableMove channels answer channels') (ok : TableOk channels) :
    TableOk channels' := by
  cases move with
  | same => exact ok
  | @answered slot entry held opening =>
    have used : entry.used = true := by
      rw [DynamicChannel.used, opening, Bool.or_true]
    have counted : entry.generation ≠ 0 := ok.generations held used
    exact ⟨by rw [List.length_set, ok.size], ok.ids.set_same held (fun _ => ⟨used, rfl⟩),
      ok.generations.set (fun _ => counted)⟩
  | @taken slot old new held counted fresh =>
    refine ⟨by rw [List.length_set, ok.size], ?_, ?_⟩
    · apply ok.ids.set
      intro _ j other _ atJ usedOther same
      have missed := Table.lookup_none fresh atJ
      simp [DynamicChannel.usedFor, usedOther, same] at missed
    · apply ok.generations.set
      intro _
      rw [counted]
      exact skipZero_ne_zero _
  | cleared held =>
    exact ⟨by rw [List.length_set, ok.size], ok.ids.set_same held nofun, ok.generations.set nofun⟩
  | clearedAll =>
    exact ⟨by rw [List.length_map, ok.size], ok.ids.map nofun, ok.generations.map nofun⟩

theorem fate_set {other : Nat} {new : DynamicChannel δ} {cleared : List Nat}
    {occupied : Option Nat} (heldOther : channels[other]? = some entry)
    (here : Fate entry new (cleared.count other) (occupied == some other))
    (elsewhere : ∀ j, j ≠ other → cleared.count j = 0 ∧ (occupied == some j) = false)
    (held : channels[slot]? = some old) :
    ∃ now, (channels.set other new)[slot]? = some now ∧
      Fate old now (cleared.count slot) (occupied == some slot) := by
  by_cases same : slot = other
  · subst same
    rw [heldOther] at held
    cases held
    exact ⟨new, Table.getElem?_set_held heldOther, here⟩
  rw [List.getElem?_set_ne (fun eq => same eq.symm), (elsewhere slot same).1,
    (elsewhere slot same).2]
  exact ⟨old, held, .kept rfl⟩

theorem count_other {other j : Nat} (apart : j ≠ other) : [other].count j = 0 := by
  rw [List.count_singleton, if_neg]
  simpa using fun same => apart same.symm

theorem TableMove.fate (move : TableMove channels answer channels')
    (held : channels[slot]? = some old) :
    ∃ new, channels'[slot]? = some new ∧
      Fate old new (answer.cleared.count slot) (answer.occupied == some slot) := by
  cases move with
  | same quiet vacant =>
    rw [quiet, vacant]
    exact ⟨old, held, .kept rfl⟩
  | answered heldOther opening quiet vacant =>
    rw [quiet, vacant]
    exact fate_set heldOther (.kept rfl) (fun _ _ => ⟨rfl, rfl⟩) held
  | taken heldOther counted fresh cleared occupied =>
    rw [cleared, occupied]
    apply fate_set heldOther _ _ held
    · rw [List.count_singleton_self]
      exact .cleared counted _
    · intro j apart
      exact ⟨count_other apart, by simpa using fun same => apart same.symm⟩
  | cleared heldOther cleared vacant =>
    rw [cleared, vacant]
    apply fate_set heldOther _ _ held
    · rw [List.count_singleton_self]
      exact .cleared rfl _
    · intro j apart
      exact ⟨count_other apart, rfl⟩
  | clearedAll cleared vacant =>
    have inside := (List.getElem?_eq_some_iff.mp held).1
    rw [cleared, vacant, List.getElem?_map, held,
      List.count_eq_one_of_mem List.nodup_range (List.mem_range.mpr inside)]
    exact ⟨_, rfl, .cleared rfl _⟩

end Moves

structure WatchedTable (δ : Type) [Inhabited δ] where
  table : ChannelTable δ
  clears : Nat → Nat
  occupation : Nat → Nat

section Watched

variable {δ : Type} [Inhabited δ]

def watchedTableStep (watched : WatchedTable δ) (input : TableInput) :
    Exec (TableAnswer × WatchedTable δ) :=
  let (answer, table) := tableStep watched.table input
  pure (answer,
    { table
      clears := fun slot => watched.clears slot + answer.cleared.count slot
      occupation := fun slot =>
        watched.occupation slot + (answer.occupied == some slot).toNat })

def watchedTableInit (δ : Type) [Inhabited δ] {limit : Nat} (within : limit ≤ maxDynamicChannels) :
    WatchedTable δ :=
  { table := channelTableInit δ within, clears := fun _ => 0, occupation := fun _ => 0 }

variable {watched : WatchedTable δ}

theorem watchedTable_reachable_ok {limit : Nat} {within : limit ≤ maxDynamicChannels}
    (reached : Reachable watchedTableStep (watchedTableInit δ within) watched) :
    TableOk watched.table.channels := by
  apply reached.invariant (fun watched => TableOk watched.table.channels)
  · have unused : Table.Every (fun entry : DynamicChannel δ => entry.used = false)
        (List.replicate maxDynamicChannels {}) := Table.every_replicate _ rfl
    refine ⟨rfl, ?_, Table.every_replicate _ nofun⟩
    intro i j a b atI _ usedA
    rw [unused atI] at usedA
    cases usedA
  · intro before input answer after ok taken
    cases taken
    exact (tableStep_moves input ok.size).ok ok

/-- Since a moment when an entry had some generation, it was cleared `k` times and its generation
    moved on as often; while `k` is zero its occupation is the same. -/
def Since (slot : Nat) (generation : UInt32) (clears occupation : Nat) (watched : WatchedTable δ) :
    Prop :=
  ∃ k entry, watched.table.channels[slot]? = some entry ∧ watched.clears slot = clears + k ∧
    entry.generation = skipZero^[k] generation ∧ (k = 0 → watched.occupation slot = occupation)

theorem since_step {slot : Nat} {generation : UInt32} {clears occupation : Nat}
    (ok : TableOk watched.table.channels)
    (since : Since slot generation clears occupation watched) {input : TableInput}
    {answer : TableAnswer} {after : WatchedTable δ}
    (taken : watchedTableStep watched input = .ok (answer, after)) :
    Since slot generation clears occupation after := by
  obtain ⟨k, entry, held, counted, moved, same⟩ := since
  have moves := tableStep_moves input ok.size
  cases stepped : tableStep watched.table input with
  | mk answered table =>
    simp only [watchedTableStep, stepped] at taken moves
    cases taken
    obtain ⟨now, heldNow, fate⟩ := moves.fate held
    generalize times : answer.cleared.count slot = n at fate
    generalize occupied : (answer.occupied == some slot) = isOccupied at fate
    cases fate with
    | kept kept =>
      refine ⟨k, now, heldNow, ?_, kept.trans moved, fun zero => ?_⟩
      · simp only [times, counted, Nat.add_zero]
      · simp only [occupied, same zero, Bool.toNat_false, Nat.add_zero]
    | cleared next =>
      refine ⟨k + 1, now, heldNow, ?_, ?_, nofun⟩
      · simp only [times, counted, Nat.add_assoc]
      · rw [next, moved, Function.iterate_succ_apply']

/-- Whatever a run does after a handle was made, for less than a whole round of clearings the
    handle resolves to the same occupation or to nothing. -/
theorem handle_same_occupation {slot : Nat} {entry : DynamicChannel δ}
    (ok : TableOk watched.table.channels) (held : watched.table.channels[slot]? = some entry)
    (used : entry.used = true) {later : WatchedTable δ}
    (reached : Reachable watchedTableStep watched later)
    (recent : later.clears slot < watched.clears slot + counterPeriod) {slot' : Nat}
    {entry' : DynamicChannel δ}
    (resolved : dynamicChannelFromHandle later.table (dynamicChannelHandle slot entry) =
      some (slot', entry')) : slot' = slot ∧ later.occupation slot = watched.occupation slot := by
  have inside : slot < maxDynamicChannels := by
    rw [← ok.size]
    exact (List.getElem?_eq_some_iff.mp held).1
  have counted := ok.generations held used
  have since := reached.invariant
    (fun later => TableOk later.table.channels ∧
      Since slot entry.generation (watched.clears slot) (watched.occupation slot) later)
    ⟨ok, 0, entry, held, rfl, rfl, fun _ => rfl⟩
    (fun before input answer after ⟨okBefore, since⟩ taken => ⟨by
      cases taken
      exact (tableStep_moves input okBefore.size).ok okBefore, since_step okBefore since taken⟩)
  obtain ⟨k, now, heldNow, clears, generation, same⟩ := since.2
  rw [dynamicChannelFromHandle_handle inside counted, heldNow] at resolved
  simp only at resolved
  split at resolved
  · cases resolved
  rename_i fits
  cases resolved
  have round : skipZero^[k] entry.generation = skipZero^[0] entry.generation := by
    rw [← generation]
    simpa using (not_or.mp fits).2
  have none : k = 0 := skipZero_iterate_injective counted (by omega) (by decide) round
  exact ⟨rfl, same none⟩

/-- In every state that any operations lead to: ids are distinct among the entries in use, an id
    can be allocated, is not zero and is not in use, and the handle of an entry in use resolves to
    that entry now and, as long as the entry was cleared less than 2^32 - 1 times since, to the
    same occupation or to nothing. -/
theorem client_handles_never_dangle {limit : Nat} {within : limit ≤ maxDynamicChannels}
    {watched : WatchedTable δ}
    (reached : Reachable watchedTableStep (watchedTableInit δ within) watched) :
    Table.Distinct DynamicChannel.used DynamicChannel.channelId watched.table.channels ∧
      (∃ channelId, (dynamicChannelAllocateId watched.table).1 = some channelId ∧
        channelId ≠ 0 ∧ dynamicChannelFindAny watched.table channelId = none) ∧
      ∀ (slot : Nat) entry, watched.table.channels[slot]? = some entry → entry.used = true →
        dynamicChannelFromHandle watched.table (dynamicChannelHandle slot entry) =
          some (slot, entry) ∧
        ∀ later, Reachable watchedTableStep watched later →
          later.clears slot < watched.clears slot + (2 ^ 32 - 1) →
          ∀ slot' entry', dynamicChannelFromHandle later.table (dynamicChannelHandle slot entry) =
            some (slot', entry') →
            slot' = slot ∧ later.occupation slot = watched.occupation slot := by
  have ok := watchedTable_reachable_ok reached
  refine ⟨ok.ids, ?_, ?_⟩
  · obtain ⟨channelId, next, allocated, some, free⟩ := dynamicChannelAllocateId_some ok.size
    rw [allocated]
    exact ⟨channelId, rfl, some, free⟩
  · intro slot entry held used
    have inside : slot < maxDynamicChannels := by
      rw [← ok.size]
      exact (List.getElem?_eq_some_iff.mp held).1
    refine ⟨?_, fun later onward recent slot' entry' resolved =>
      handle_same_occupation ok held used onward recent resolved⟩
    rw [dynamicChannelFromHandle_handle inside (ok.generations held used), held]
    simp [used]

end Watched

/-- A channel is opened and cleared, and its entry taken again: its handle resolves to nothing. -/
theorem client_handles_never_dangle_reopened :
    ∃ (opened : WatchedTable Unit) (outs : List TableAnswer) (later : WatchedTable Unit)
      (entry : DynamicChannel Unit),
      run watchedTableStep opened [.clearEntry 0, .addOpening 2 1 0 [0x79]] = .ok (outs, later) ∧
        opened.table.channels[0]? = some entry ∧
        (later.table.channels[0]?.any (·.used)) = true ∧
        dynamicChannelFromHandle opened.table (dynamicChannelHandle 0 entry) = some (0, entry) ∧
        dynamicChannelFromHandle later.table (dynamicChannelHandle 0 entry) = none := by
  have opened : Reachable watchedTableStep (watchedTableInit Unit (Nat.le_refl 64)) _ :=
    .step .init (i := .addOpening 1 1 0 [0x78]) rfl
  obtain ⟨resolves, stays⟩ := (client_handles_never_dangle opened).2.2 0 _ rfl rfl
  refine ⟨_, _, _, _, rfl, rfl, rfl, resolves, ?_⟩
  rw [Option.eq_none_iff_forall_ne_some]
  rintro ⟨slot, entry⟩ resolved
  refine absurd (stays _ ?_ ?_ slot entry resolved).2 (by decide)
  · exact .step (.step .init (i := TableInput.clearEntry 0) rfl)
      (i := TableInput.addOpening 2 1 0 [0x79]) rfl
  · decide

end LibRdp.Client
