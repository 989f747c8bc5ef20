import Mathlib.Order.Interval.Finset.Nat
import LibRdp.Coding.Raster
import LibRdp.Common
import LibRdp.Machine.Chain

/-! # Directory listings of client drives

A directory response is a chain of records that the client has filled in. Each record tells how
far behind it the next one begins, and has a fixed header and a name. The application decodes
them one by one, from the offset that the last call returned.
-/

namespace LibRdp.Server

open Machine Coding

/-- `LIBRDP_SERVER_DRIVE_METADATA_VERSION`, `_FILE_DIRECTORY_INFORMATION`,
    `_FILE_ATTRIBUTE_DIRECTORY` and `sizeof(librdp_server_drive_metadata)`. -/
def driveMetadataVersion : UInt32 := 1
def driveFileDirectoryInformation : UInt32 := 1
def driveFileAttributeDirectory : UInt32 := 0x10
def driveMetadataSize : UInt32 := 80

/-- `librdp_server_drive_metadata`. -/
structure DriveMetadata where
  version : UInt32 := driveMetadataVersion
  size : UInt32 := driveMetadataSize
  creationTime : UInt64 := 0
  accessTime : UInt64 := 0
  writeTime : UInt64 := 0
  changeTime : UInt64 := 0
  fileSize : UInt64 := 0
  allocationSize : UInt64 := 0
  fileId : UInt64 := 0
  attributes : UInt32 := 0
  linkCount : UInt32 := 1
  directory : UInt8 := 0
  deletePending : UInt8 := 0
  deriving Repr, DecidableEq

/-- What the out parameters of a call point to; `name` may be absent. -/
structure DirectoryEntry where
  metadata : DriveMetadata := {}
  name : Option Bytes := none
  nameLength : Nat := 0
  nextOffset : Nat := 0
  deriving Repr, DecidableEq

structure DirectoryCall where
  informationClass : UInt32 := driveFileDirectoryInformation
  entry : DirectoryEntry := {}
  nameCapacity : Nat := 0
  roomy : ∀ buffer ∈ entry.name, nameCapacity ≤ buffer.length := by nofun

/-- `rdp_server_drive_read_u32` and `_u64`. -/
def driveReadU32 (data : Bytes) (start : Nat) : Attempt UInt32 := do
  match ← access (readBlock data start 4) with
  | [b0, b1, b2, b3] => pure (UInt32.ofNat (u32Le b0 b1 b2 b3))
  | _ => .error (.fault .outOfBounds)

def driveReadU64 (data : Bytes) (start : Nat) : Attempt UInt64 := do
  let low ← driveReadU32 data start
  let high ← driveReadU32 data (start + 4)
  pure (low.toUInt64 ||| (high.toUInt64 <<< 32))

/-- `rdp_server_drive_metadata_valid`. -/
def driveMetadataValid (metadata : DriveMetadata) : Bool :=
  metadata.version = driveMetadataVersion ∧ metadata.size ≥ driveMetadataSize

/-- The checks of `librdp_server_drive_decode_directory_entry` on a record's place, which give how
    far the next one is and how long the name is. -/
def directoryRecord (data : Bytes) (offset : Nat) : Attempt (UInt32 × UInt32) := do
  if offset > data.length then refuse .protocolError
  let left ← access (checkedSub data.length offset)
  if left < 64 then refuse .protocolError
  let relativeNext ← driveReadU32 data offset
  if relativeNext ≠ 0 ∧
      (relativeNext < 64 ∨ relativeNext &&& 7 ≠ 0 ∨ relativeNext.toNat > left) then
    refuse .protocolError
  let recordLen := if relativeNext ≠ 0 then relativeNext.toNat else left
  let encodedNameLen ← driveReadU32 data (offset + 60)
  let room ← access (checkedSub recordLen 64)
  if encodedNameLen &&& 1 ≠ 0 ∨ encodedNameLen.toNat > room then refuse .protocolError
  pure (relativeNext, encodedNameLen)

def directoryMetadata (data : Bytes) (offset : Nat) (metadata : DriveMetadata) :
    Attempt DriveMetadata := do
  let creationTime ← driveReadU64 data (offset + 8)
  let accessTime ← driveReadU64 data (offset + 16)
  let writeTime ← driveReadU64 data (offset + 24)
  let changeTime ← driveReadU64 data (offset + 32)
  let fileSize ← driveReadU64 data (offset + 40)
  let allocationSize ← driveReadU64 data (offset + 48)
  let attributes ← driveReadU32 data (offset + 56)
  let directory := if attributes &&& driveFileAttributeDirectory ≠ 0 then 1 else 0
  pure { metadata with
    creationTime, accessTime, writeTime, changeTime, fileSize, allocationSize, attributes,
    directory }

/-- The record as it is decoded: its metadata, its name and the next offset. `convert` is
    `rdp_charset_utf16le_to_utf8_alloc`. -/
def directoryFields (convert : Bytes → Status × Bytes) (data : Bytes) (offset : Nat)
    (call : DirectoryCall) : Attempt (DriveMetadata × Bytes × Nat) := do
  if !driveMetadataValid call.entry.metadata ∨
      (call.entry.name = none ∧ call.nameCapacity ≠ 0) ∨
      call.informationClass ≠ driveFileDirectoryInformation then
    refuse .invalidArgument
  let (relativeNext, encodedNameLen) ← directoryRecord data offset
  let metadata ← directoryMetadata data offset call.entry.metadata
  let encoded ← access (readBlock data (offset + 64) encodedNameLen.toNat)
  let (status, converted) := convert encoded
  if status ≠ .ok then refuse status
  if converted.length = sizeMax then refuse .limitExceeded
  -- `size_t` wraps around.
  let next := if relativeNext ≠ 0 then (offset + relativeNext.toNat) % (sizeMax + 1) else 0
  pure (metadata, converted, next)

/-- `librdp_server_drive_decode_directory_entry`. -/
def driveDecodeDirectoryEntry (convert : Bytes → Status × Bytes) (data : Bytes)
    (offset : Nat) (call : DirectoryCall) : Exec (Status × DirectoryEntry) :=
  match directoryFields convert data offset call with
  | .error (.fault fault) => .error fault
  | .error (.returned status) => .ok (status, call.entry)
  | .ok (metadata, converted, nextOffset) =>
      let entry := { call.entry with metadata, nameLength := converted.length + 1, nextOffset }
      match call.entry.name with
      | none => .ok (.ok, entry)
      | some buffer =>
          if call.nameCapacity < converted.length + 1 then .ok (.limitExceeded, entry)
          else do
            let buffer ← writeBlock buffer 0 converted
            let buffer ← writeBlock buffer converted.length [0]
            .ok (.ok, { entry with name := some buffer })

variable {data : Bytes} {offset start : Nat}

theorem driveReadU32_ok (inside : start + 4 ≤ data.length) :
    ∃ v, driveReadU32 data start = .ok v := by
  obtain ⟨block, read, length⟩ := readBlock_ok inside
  obtain ⟨b0, b1, b2, b3, rfl⟩ := List.length_eq_four.mp length
  exact ⟨_, by simp only [driveReadU32, read, access_ok, ok_bind]; rfl⟩

theorem driveReadU64_ok (inside : start + 8 ≤ data.length) :
    ∃ v, driveReadU64 data start = .ok v := by
  obtain ⟨low, readLow⟩ := @driveReadU32_ok data start (by omega)
  obtain ⟨high, readHigh⟩ := @driveReadU32_ok data (start + 4) (by omega)
  exact ⟨_, by simp only [driveReadU64, readLow, readHigh, ok_bind]; rfl⟩

structure RecordFits (data : Bytes) (offset : Nat) (relativeNext encodedNameLen : UInt32) :
    Prop where
  length : driveReadU32 data (offset + 60) = .ok encodedNameLen
  inside : offset + 64 + encodedNameLen.toNat ≤ data.length
  onward : relativeNext ≠ 0 → 64 + encodedNameLen.toNat ≤ relativeNext.toNat ∧
    offset + relativeNext.toNat ≤ data.length

theorem directoryRecord_cases (data : Bytes) (offset : Nat) :
    directoryRecord data offset = refuse .protocolError ∨
    ∃ relativeNext encodedNameLen, directoryRecord data offset = .ok (relativeNext, encodedNameLen) ∧
      RecordFits data offset relativeNext encodedNameLen := by
  unfold directoryRecord
  by_cases outside : offset > data.length
  · exact .inl (by rw [if_pos outside]; rfl)
  have left := checkedSub_of_le (Nat.not_lt.mp outside)
  rw [if_neg outside]
  simp only [left, access_ok, attempt_pure, ok_bind]
  by_cases short : data.length - offset < 64
  · exact .inl (by rw [if_pos short]; rfl)
  obtain ⟨relativeNext, readNext⟩ := @driveReadU32_ok data offset (by omega)
  obtain ⟨encodedNameLen, readLen⟩ := @driveReadU32_ok data (offset + 60) (by omega)
  rw [if_neg short]
  simp only [readNext, readLen, ok_bind]
  by_cases wrong : relativeNext ≠ 0 ∧ (relativeNext < 64 ∨ relativeNext &&& 7 ≠ 0 ∨
      relativeNext.toNat > data.length - offset)
  · exact .inl (by rw [if_pos wrong]; rfl)
  · have far : relativeNext ≠ 0 → 64 ≤ relativeNext.toNat ∧
        relativeNext.toNat ≤ data.length - offset := by
      intro more
      rw [not_and, not_or, not_or] at wrong
      obtain ⟨near, -, inside⟩ := wrong more
      rw [UInt32.lt_iff_toNat_lt] at near
      exact ⟨Nat.not_lt.mp near, Nat.not_lt.mp inside⟩
    rw [if_neg wrong]
    generalize record : (if relativeNext ≠ 0 then relativeNext.toNat else data.length - offset)
      = recordLen
    have long : 64 ≤ recordLen ∧ recordLen ≤ data.length - offset := by
      rw [← record]
      split
      · rename_i more
        exact far more
      · omega
    simp only [checkedSub_of_le long.1, access_ok, ok_bind]
    by_cases odd : encodedNameLen &&& 1 ≠ 0 ∨ encodedNameLen.toNat > recordLen - 64
    · exact .inl (by rw [if_pos odd]; rfl)
    rw [not_or] at odd
    rw [if_neg (not_or.mpr odd)]
    refine .inr ⟨relativeNext, encodedNameLen, rfl, readLen, by omega, ?_⟩
    intro more
    rw [if_pos more] at record
    have inside := (far more).2
    omega

theorem directoryMetadata_ok (metadata : DriveMetadata) (inside : offset + 64 ≤ data.length) :
    ∃ next, directoryMetadata data offset metadata = .ok next := by
  obtain ⟨creationTime, read8⟩ := @driveReadU64_ok data (offset + 8) (by omega)
  obtain ⟨accessTime, read16⟩ := @driveReadU64_ok data (offset + 16) (by omega)
  obtain ⟨writeTime, read24⟩ := @driveReadU64_ok data (offset + 24) (by omega)
  obtain ⟨changeTime, read32⟩ := @driveReadU64_ok data (offset + 32) (by omega)
  obtain ⟨fileSize, read40⟩ := @driveReadU64_ok data (offset + 40) (by omega)
  obtain ⟨allocationSize, read48⟩ := @driveReadU64_ok data (offset + 48) (by omega)
  obtain ⟨attributes, read56⟩ := @driveReadU32_ok data (offset + 56) (by omega)
  exact ⟨_, by
    simp only [directoryMetadata, read8, read16, read24, read32, read40, read48, read56,
      ok_bind]
    rfl⟩

def directoryRecordSize (data : Bytes) (offset : Nat) : Nat :=
  match driveReadU32 data (offset + 60) with
  | .ok encodedNameLen => 64 + encodedNameLen.toNat
  | .error _ => 0

variable {convert : Bytes → Status × Bytes}

structure EntryFits (data : Bytes) (offset nextOffset : Nat) : Prop where
  header : offset + 64 ≤ offset + directoryRecordSize data offset
  inside : offset + directoryRecordSize data offset ≤ data.length
  onward : nextOffset ≠ 0 →
    offset + directoryRecordSize data offset ≤ nextOffset ∧ nextOffset ≤ data.length

theorem directoryFields_cases (sized : data.length ≤ sizeMax) (call : DirectoryCall) :
    (∃ status, status ≠ .ok ∧ directoryFields convert data offset call = refuse status) ∨
    ∃ metadata converted nextOffset,
      directoryFields convert data offset call = .ok (metadata, converted, nextOffset) ∧
      EntryFits data offset nextOffset := by
  unfold directoryFields
  split
  · exact .inl ⟨.invalidArgument, nofun, rfl⟩
  obtain refused | ⟨relativeNext, encodedNameLen, found, fits⟩ := directoryRecord_cases data offset
  · rw [refused]
    exact .inl ⟨.protocolError, nofun, rfl⟩
  · have inside := fits.inside
    obtain ⟨metadata, read⟩ :=
      @directoryMetadata_ok data offset call.entry.metadata (by omega)
    obtain ⟨encoded, name, -⟩ := readBlock_ok inside
    simp only [found, read, name, access_ok, ok_bind]
    by_cases failed : (convert encoded).1 ≠ .ok
    · exact .inl ⟨_, failed, by rw [if_pos failed]; rfl⟩
    rw [if_neg failed]
    by_cases long : (convert encoded).2.length = sizeMax
    · exact .inl ⟨.limitExceeded, nofun, by rw [if_pos long]; rfl⟩
    rw [if_neg long]
    have size : directoryRecordSize data offset = 64 + encodedNameLen.toNat := by
      rw [directoryRecordSize, fits.length]
    refine .inr ⟨metadata, _, _, rfl, ?_⟩
    by_cases last : relativeNext = 0
    · rw [if_neg (not_not_intro last)]
      exact ⟨by omega, by omega, fun more => absurd rfl more⟩
    obtain ⟨covered, within⟩ := fits.onward last
    rw [if_pos last, Nat.mod_eq_of_lt (by omega)]
    exact ⟨by omega, by omega, fun _ => by omega⟩

theorem driveDecodeDirectoryEntry_fits (sized : data.length ≤ sizeMax) (call : DirectoryCall) :
    ∃ status entry, driveDecodeDirectoryEntry convert data offset call = .ok (status, entry) ∧
      (status = .ok → EntryFits data offset entry.nextOffset) := by
  unfold driveDecodeDirectoryEntry
  obtain ⟨status, failed, refused⟩ | ⟨metadata, converted, nextOffset, read, fits⟩ :=
    @directoryFields_cases data offset convert sized call
  · rw [refused]
    exact ⟨status, call.entry, rfl, fun done => absurd done failed⟩
  · rw [read]
    generalize told : DirectoryEntry.mk metadata call.entry.name (converted.length + 1) nextOffset =
      entry
    have next : entry.nextOffset = nextOffset := by rw [← told]
    rw [← next] at fits
    simp only [told]
    cases named : call.entry.name with
    | none => exact ⟨.ok, entry, rfl, fun _ => fits⟩
    | some buffer =>
      by_cases small : call.nameCapacity < converted.length + 1
      · exact ⟨.limitExceeded, entry, if_pos small, nofun⟩
      have room := call.roomy buffer named
      obtain ⟨copied, wrote, same⟩ := @writeBlock_ok _ buffer converted 0 (by omega)
      obtain ⟨ended, wrote', -⟩ := @writeBlock_ok _ copied [0] converted.length (by
        rw [List.length_singleton]
        omega)
      refine ⟨.ok, { entry with name := some ended }, ?_, fun _ => fits⟩
      simp only [if_neg small, wrote, wrote', ok_bind]
      rw [← told]

structure DirectoryVisit where
  status : Status
  entry : DirectoryEntry
  deriving Repr, DecidableEq

/-- The walk goes on where a record was decoded that names a next one. -/
def directoryVisit (convert : Bytes → Status × Bytes) (data : Bytes)
    (calls : Nat → DirectoryCall) (turn offset : Nat) : Exec (DirectoryVisit × Option Nat) := do
  let (status, entry) ← driveDecodeDirectoryEntry convert data offset (calls turn)
  pure (⟨status, entry⟩,
    if status = .ok ∧ entry.nextOffset ≠ 0 then some entry.nextOffset else none)

/-- Decode a response from its start on, with no more than `fuel` calls. -/
def walkDirectory (convert : Bytes → Status × Bytes) (data : Bytes)
    (calls : Nat → DirectoryCall) (fuel : Nat) : Exec (List (Nat × DirectoryVisit)) :=
  follow (directoryVisit convert data calls) fuel 0 0

def directoryExtent (data : Bytes) (offset : Nat) (visit : DirectoryVisit) : Nat :=
  if visit.status = .ok then directoryRecordSize data offset else 0

theorem directoryVisit_advances (sized : data.length ≤ sizeMax) (calls : Nat → DirectoryCall) :
    Advances data.length 64 (directoryExtent data) (directoryVisit convert data calls) := by
  intro turn offset inside
  obtain ⟨status, entry, decoded, fits⟩ :=
    @driveDecodeDirectoryEntry_fits data offset convert sized (calls turn)
  refine ⟨⟨status, entry⟩, _, by rw [directoryVisit, decoded]; rfl, ?_⟩
  by_cases done : status = .ok
  · have fits := fits done
    have header := fits.header
    simp only [directoryExtent, if_pos done]
    by_cases last : entry.nextOffset = 0
    · rw [if_neg fun both => both.2 last]
      exact ⟨fits.inside, nofun⟩
    obtain ⟨covered, within⟩ := fits.onward last
    rw [if_pos ⟨done, last⟩]
    refine ⟨covered, ?_⟩
    rintro behind ⟨⟩
    omega
  rw [if_neg fun both => done both.1]
  simp only [directoryExtent, if_neg done]
  exact ⟨inside, nofun⟩

def directoryRange (data : Bytes) (offset : Nat) : Finset Nat :=
  Finset.Ico offset (offset + directoryRecordSize data offset)

def decodedOffsets (visits : List (Nat × DirectoryVisit)) : List Nat :=
  (visits.filter fun visit => visit.2.status = .ok).map Prod.fst

theorem decoded_disjoint {visits : List (Nat × DirectoryVisit)}
    (spaced : Spaced (directoryExtent data) visits) :
    (decodedOffsets visits).Pairwise fun a b =>
      Disjoint (directoryRange data a) (directoryRange data b) := by
  rw [decodedOffsets, List.pairwise_map]
  apply List.Pairwise.imp_of_mem ?_ (spaced.filter _)
  rintro ⟨a, visit⟩ ⟨b, later⟩ held - ⟨-, behind⟩
  have decoded := (List.mem_filter.mp held).2
  rw [decide_eq_true_iff] at decoded
  simp only [directoryExtent, if_pos decoded] at behind
  rw [Finset.disjoint_left]
  intro i here there
  have after : b ≤ i := (Finset.mem_Ico.mp there).1
  exact absurd (Finset.mem_Ico.mp here).2 (Nat.not_lt.mpr (Nat.le_trans behind after))

/-- Whatever a client puts into a response, and whatever room for names the application has, the
    walk over it ends within one call for every 64 bytes and one more. No call reads behind the
    response or takes a difference below zero; the offsets only grow, and the records that are
    decoded lie inside the response without a byte in common. -/
theorem directory_walk_ends (convert : Bytes → Status × Bytes) (data : Bytes)
    (calls : Nat → DirectoryCall) (sized : data.length ≤ sizeMax) :
    ∃ visits, (∀ fuel, data.length / 64 < fuel →
        walkDirectory convert data calls fuel = .ok visits) ∧
      visits.length ≤ data.length / 64 + 1 ∧
      (visits.map Prod.fst).Pairwise (· < ·) ∧
      ((decodedOffsets visits).Pairwise fun a b =>
        Disjoint (directoryRange data a) (directoryRange data b)) ∧
      ∀ offset ∈ decodedOffsets visits, directoryRange data offset ⊆ Finset.range data.length := by
  have advances := @directoryVisit_advances data convert sized calls
  obtain ⟨visits, ran, spaced, within⟩ := advances.follow_ends (Nat.succ_pos 63)
    (Nat.zero_le data.length) (Nat.lt_succ_self (data.length / 64))
  refine ⟨visits, fun fuel enough => follow_more ran enough, follow_length ran, ?_,
    decoded_disjoint spaced, ?_⟩
  · rw [List.pairwise_map]
    exact spaced.imp fun both => both.1
  · intro offset held
    obtain ⟨visit, decoded, rfl⟩ := List.mem_map.mp held
    obtain ⟨held, decoded⟩ := List.mem_filter.mp decoded
    have inside := (within visit held).2
    rw [decide_eq_true_iff] at decoded
    simp only [directoryExtent, if_pos decoded] at inside
    intro i here
    rw [Finset.mem_range]
    exact Nat.lt_of_lt_of_le (Finset.mem_Ico.mp here).2 inside

def twoRecords : Bytes :=
  u32LeBytes 64 ++ List.replicate 60 0 ++ (List.replicate 60 0 ++ u32LeBytes 2 ++ [0x2e, 0])

theorem directory_walk_ends_two :
    (walkDirectory (fun encoded => (.ok, encoded)) twoRecords (fun _ => {}) 3).map decodedOffsets =
      .ok [0, 64] ∧
    ∃ visits, (∀ fuel, twoRecords.length / 64 < fuel →
        walkDirectory (fun encoded => (.ok, encoded)) twoRecords (fun _ => {}) fuel = .ok visits) ∧
      visits.length ≤ twoRecords.length / 64 + 1 := by
  obtain ⟨visits, ran, few, -⟩ := directory_walk_ends (fun encoded => (.ok, encoded)) twoRecords
    (fun _ => {}) (by decide +kernel)
  exact ⟨by decide +kernel, visits, ran, few⟩

end LibRdp.Server
