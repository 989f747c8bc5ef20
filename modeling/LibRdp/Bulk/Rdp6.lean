import LibRdp.Bulk.Mppc

/-! # The RDP6 decompressor

`rdp_bulk_rdp6_state` and the functions around `rdp_bulk_rdp6_decode`. Two
prefix codes, given by their code lengths, are expanded into lookup tables;
a packet is a sequence of literals and matches over a history of 64 KiB, where
a match names its offset or one of the four offsets used last. The counter
`output_offset` is only ever incremented and is left out.
-/

namespace LibRdp.Bulk

open Machine

/-- `RDP_BULK_RDP6_HISTORY_SIZE`. -/
def rdp6HistorySize : Nat := 65536

/-- `RDP_BULK_RDP6_LEC_TABLE_BITS` and `RDP_BULK_RDP6_LOM_TABLE_BITS`. -/
def rdp6LecTableBits : Nat := 13
def rdp6LomTableBits : Nat := 9

def rdp6LecLengths : List Nat :=
  [6, 6, 6, 7, 7, 7, 7, 7, 7, 7, 7, 8, 8, 8, 8, 8, 8, 8, 9, 8, 9, 9, 9, 9, 8, 8, 9, 9, 9, 9, 9,
    9, 8, 9, 9, 10, 9, 9, 9, 9, 9, 9, 9, 10, 9, 10, 10, 10, 9, 9, 10, 9, 10, 9, 10, 9, 9, 9, 10,
    10, 9, 10, 9, 9, 8, 9, 9, 9, 9, 10, 10, 10, 9, 9, 10, 10, 10, 10, 10, 10, 9, 9, 10, 10, 10,
    10, 10, 10, 10, 9, 10, 10, 10, 10, 10, 10, 8, 10, 10, 10, 10, 10, 10, 10, 10, 10, 10, 10, 10,
    10, 10, 10, 9, 10, 10, 10, 10, 10, 10, 10, 9, 10, 10, 10, 10, 10, 10, 9, 7, 9, 9, 10, 9, 10,
    10, 10, 9, 10, 10, 10, 10, 10, 10, 10, 9, 10, 10, 10, 10, 10, 10, 10, 10, 10, 10, 10, 10, 10,
    10, 10, 10, 10, 10, 10, 10, 10, 10, 10, 10, 10, 10, 13, 10, 10, 10, 10, 10, 10, 11, 10, 10,
    10, 10, 10, 10, 10, 10, 10, 10, 10, 10, 10, 9, 10, 10, 10, 10, 10, 9, 10, 10, 10, 10, 10, 9,
    10, 10, 10, 9, 10, 10, 10, 10, 10, 10, 10, 10, 10, 10, 10, 10, 10, 10, 10, 9, 10, 10, 10, 10,
    10, 10, 10, 10, 10, 10, 10, 10, 10, 9, 10, 8, 9, 9, 10, 9, 10, 10, 10, 9, 10, 10, 10, 9, 9,
    8, 7, 13, 13, 7, 7, 10, 7, 7, 6, 6, 6, 6, 5, 6, 6, 6, 5, 6, 5, 6, 6, 6, 6, 6, 6, 6, 6, 6, 6,
    6, 6, 6, 6, 8, 5, 6, 7, 7, 13]

def rdp6LomLengths : List Nat :=
  [4, 2, 3, 4, 3, 4, 4, 5, 4, 5, 5, 6, 6, 7, 7, 8, 7, 8, 8, 9, 9, 8, 9, 9, 9, 9, 9, 9, 9, 9, 9,
    9]

def rdp6CopyOffsetBits : List Nat :=
  [0, 0, 0, 0, 1, 1, 2, 2, 3, 3, 4, 4, 5, 5, 6, 6, 7, 7, 8, 8, 9, 9, 10, 10, 11, 11, 12, 12, 13,
    13, 14, 14]

def rdp6CopyOffsetBase : List Nat :=
  [1, 2, 3, 4, 5, 7, 9, 13, 17, 25, 33, 49, 65, 97, 129, 193, 257, 385, 513, 769, 1025, 1537,
    2049, 3073, 4097, 6145, 8193, 12289, 16385, 24577, 32769, 49153]

def rdp6LomBits : List Nat :=
  [0, 0, 0, 0, 0, 0, 0, 0, 1, 1, 1, 1, 2, 2, 2, 2, 3, 3, 3, 3, 4, 4, 4, 4, 6, 6, 8, 8, 14, 14]

def rdp6LomBase : List Nat :=
  [2, 3, 4, 5, 6, 7, 8, 9, 10, 12, 14, 16, 18, 22, 26, 30, 34, 42, 50, 58, 66, 82, 98, 114, 130,
    194, 258, 514, 2, 2]

/-- `rdp_bulk_rdp6_decode_entry`; the reserved byte is never read. -/
structure DecodeEntry where
  symbol : Nat
  bitCount : Nat
  deriving Repr, DecidableEq

instance : Inhabited DecodeEntry := ⟨⟨0, 0⟩⟩

/-- `rdp_bulk_rdp6_state`. -/
structure Rdp6State where
  history : Memory UInt8
  writeOffset : Nat
  offsetCache : List Nat
  literalOffset : Memory DecodeEntry
  matchLength : Memory DecodeEntry
  tablesReady : Bool

def rdp6StateInit : Rdp6State where
  history := Memory.filled rdp6HistorySize 0
  writeOffset := 0
  offsetCache := [0, 0, 0, 0]
  literalOffset := Memory.filled (2 ^ rdp6LecTableBits) ⟨0, 0⟩
  matchLength := Memory.filled (2 ^ rdp6LomTableBits) ⟨0, 0⟩
  tablesReady := false

def rdp6StateReset (state : Rdp6State) (clear : Bool) : Exec Rdp6State :=
  if clear then do
    let history ← state.history.fill 0 rdp6HistorySize 0
    pure { state with writeOffset := 0, offsetCache := [0, 0, 0, 0], history := history }
  else pure { state with writeOffset := 0, offsetCache := [0, 0, 0, 0] }

def reverseBitsLoop : Nat → Nat → Nat → Nat
  | 0, _, reversed => reversed
  | count + 1, value, reversed =>
      reverseBitsLoop count (value >>> 1) (reversed <<< 1 ||| value &&& 1)

def rdp6ReverseBits (value count : Nat) : Nat := reverseBitsLoop count value 0

/-- `length_counts`, a 16-bit counter for each length; `none` when a length is out of range. -/
def countLengths (tableBits : Nat) : List Nat → (Nat → Nat) → Option (Nat → Nat)
  | [], counts => some counts
  | length :: lengths, counts =>
      if length = 0 ∨ length > tableBits then none
      else countLengths tableBits lengths
        (Function.update counts length ((counts length + 1) % 65536))

/-- `next_code` from length `i` on; `none` when a code leaves 16 bits. -/
def nextCodes (counts : Nat → Nat) : Nat → Nat → Nat → (Nat → Nat) → Option (Nat → Nat)
  | 0, _, _, next => some next
  | remaining + 1, i, code, next =>
      let code := (code + counts (i - 1)) <<< 1
      if code > 0xffff then none
      else nextCodes counts remaining (i + 1) code (Function.update next i code)

/-- Every `step`-th table entry from `index` on is claimed for one symbol. -/
def fillEntries (entry : DecodeEntry) (step tableSize : Nat) :
    Nat → Nat → Memory DecodeEntry → Exec (Status × Memory DecodeEntry)
  | 0, _, _ => .error .outOfFuel
  | fuel + 1, index, table =>
      if index < tableSize then do
        let old ← table.load index
        if old.bitCount ≠ 0 then pure (.protocolError, table)
        else
          let table ← table.store index entry
          fillEntries entry step tableSize fuel (index + step) table
      else .ok (.ok, table)

/-- The symbols from `symbol` on take their codes in turn. -/
def fillSymbols (tableSize : Nat) :
    List Nat → Nat → (Nat → Nat) → Memory DecodeEntry → Exec (Status × Memory DecodeEntry)
  | [], _, _, table => .ok (.ok, table)
  | length :: lengths, symbol, next, table => do
      let reversed := rdp6ReverseBits (next length) length
      let next := Function.update next length ((next length + 1) % 65536)
      let (status, table) ← fillEntries ⟨symbol % 65536, length⟩ (2 ^ length) tableSize
        (tableSize + 1) reversed table
      if status = .ok then fillSymbols tableSize lengths (symbol + 1) next table
      else pure (status, table)

def rdp6BuildTable (table : Memory DecodeEntry) (tableSize tableBits : Nat) (lengths : List Nat) :
    Exec (Status × Memory DecodeEntry) :=
  if tableBits ≥ 16 ∨ tableSize ≠ 2 ^ tableBits then .ok (.invalidArgument, table)
  else do
    let table ← table.fill 0 tableSize ⟨0, 0⟩
    match countLengths tableBits lengths (fun _ => 0) with
    | none => pure (.protocolError, table)
    | some counts =>
        match nextCodes counts tableBits 1 0 (fun _ => 0) with
        | none => pure (.protocolError, table)
        | some next => do
            let (status, table) ← fillSymbols tableSize lengths 0 next table
            if status ≠ .ok then pure (status, table)
            else if (List.range tableSize).all (fun i => (table.cell i).bitCount ≠ 0) then
              pure (.ok, table)
            else pure (.protocolError, table)

def rdp6Prepare (state : Rdp6State) : Exec (Status × Rdp6State) :=
  if state.tablesReady then .ok (.ok, state)
  else do
    let (status, table) ← rdp6BuildTable state.literalOffset (2 ^ rdp6LecTableBits)
      rdp6LecTableBits rdp6LecLengths
    let state := { state with literalOffset := table }
    if status ≠ .ok then pure (status, state)
    else
      let (status, table) ← rdp6BuildTable state.matchLength (2 ^ rdp6LomTableBits)
        rdp6LomTableBits rdp6LomLengths
      let state := { state with matchLength := table }
      if status ≠ .ok then pure (status, state)
      else pure (.ok, { state with tablesReady := true })

/-- `rdp_bulk_rdp6_bit_reader`: the bytes from `ptr` up to `end`, and a window of at most 40 bits. -/
structure Rdp6BitReader where
  rest : Bytes
  bits : Nat
  bitCount : Nat

def rdp6ReaderInit : Bytes → Except Status Rdp6BitReader
  | b0 :: b1 :: b2 :: b3 :: rest => .ok ⟨rest, u32Le b0 b1 b2 b3, 32⟩
  | _ => .error .protocolError

/-- The refilling loop of `rdp_bulk_rdp6_reader_ensure`. -/
def refill (count : Nat) : Bytes → Nat → Nat → Rdp6BitReader
  | [], bits, bitCount => ⟨[], bits, bitCount⟩
  | b :: rest, bits, bitCount =>
      if bitCount < count then refill count rest (bits ||| b.toNat <<< bitCount) (bitCount + 8)
      else ⟨b :: rest, bits, bitCount⟩

def rdp6ReaderEnsure (reader : Rdp6BitReader) (count : Nat) : Except Status Rdp6BitReader :=
  if count > 32 then .error .invalidArgument
  else
    let reader := refill count reader.rest reader.bits reader.bitCount
    if reader.bitCount ≥ count then .ok reader else .error .protocolError

/-- Take `count` bits off the window. -/
def Rdp6BitReader.consume (reader : Rdp6BitReader) (count : Nat) : Rdp6BitReader :=
  { reader with bits := reader.bits >>> count, bitCount := reader.bitCount - count }

def rdp6ReaderRead (reader : Rdp6BitReader) (count : Nat) :
    Except Status (Nat × Rdp6BitReader) :=
  if count > 31 then .error .invalidArgument
  else if count = 0 then .ok (0, reader)
  else do
    let reader ← rdp6ReaderEnsure reader count
    pure (reader.bits &&& (2 ^ count - 1), reader.consume count)

def rdp6DecodeSymbol (reader : Rdp6BitReader) (table : Memory DecodeEntry) (tableBits : Nat) :
    Exec (Except Status (Nat × Rdp6BitReader)) :=
  if tableBits > 15 then .ok (.error .invalidArgument)
  else match rdp6ReaderEnsure reader tableBits with
    | .error status => .ok (.error status)
    | .ok reader => do
        let entry ← table.load (reader.bits &&& (2 ^ tableBits - 1))
        if entry.bitCount = 0 ∨ entry.bitCount > reader.bitCount then pure (.error .protocolError)
        else pure (.ok (entry.symbol, reader.consume entry.bitCount))

def rdp6MoveFront (state : Rdp6State) : Exec (Status × Rdp6State) :=
  if state.writeOffset ≤ 32768 then .ok (.protocolError, state)
  else do
    let source ← checkedSub state.writeOffset 32768
    let history ← state.history.move 0 source 32768
    let history ← history.fill 32768 32768 0
    pure (.ok, { state with history := history, writeOffset := 32768 })

def rdp6Emit (state : Rdp6State) (value : UInt8) : Exec (Status × Rdp6State) :=
  if state.writeOffset ≥ rdp6HistorySize - 1 then .ok (.protocolError, state)
  else do
    let history ← state.history.store state.writeOffset value
    pure (.ok, { state with history := history, writeOffset := state.writeOffset + 1 })

/-- The copy loop of `rdp_bulk_rdp6_copy`. -/
def rdp6CopyLoop : Nat → Nat → Rdp6State → Exec (Status × Rdp6State)
  | 0, _, state => .ok (.ok, state)
  | count + 1, src, state => do
      let value ← state.history.load src
      let (status, state) ← rdp6Emit state value
      if status = .ok then rdp6CopyLoop count ((src + 1) % 65536) state else pure (status, state)

/-- `(write_offset - copy_offset) & 0xffff`. -/
def rdp6Source (writeOffset copyOffset : Nat) : Nat :=
  (((writeOffset : Int) - copyOffset) % 65536).toNat

def rdp6Copy (state : Rdp6State) (copyOffset length : Nat) : Exec (Status × Rdp6State) :=
  if copyOffset = 0 ∨ length < 2 then .ok (.protocolError, state)
  else do
    let room ← checkedSub rdp6HistorySize state.writeOffset
    let room ← checkedSub room 1
    if length > room then pure (.protocolError, state)
    else rdp6CopyLoop length (rdp6Source state.writeOffset copyOffset) state

def rdp6ReadMatchLength (state : Rdp6State) (reader : Rdp6BitReader) :
    Exec (Except Status (Nat × Rdp6BitReader)) := do
  match ← rdp6DecodeSymbol reader state.matchLength rdp6LomTableBits with
  | .error status => pure (.error status)
  | .ok (symbol, reader) =>
      if symbol ≥ rdp6LomBits.length then pure (.error .protocolError)
      else match rdp6ReaderRead reader (rdp6LomBits.getD symbol 0) with
        | .error status => pure (.error status)
        | .ok (extra, reader) => pure (.ok (rdp6LomBase.getD symbol 0 + extra, reader))

def cachePush (cache : List Nat) (offset : Nat) : List Nat :=
  let cache := cache.set 3 (cache.getD 2 0)
  let cache := cache.set 2 (cache.getD 1 0)
  let cache := cache.set 1 (cache.getD 0 0)
  cache.set 0 offset

def cacheSwap (cache : List Nat) (index : Nat) : List Nat :=
  let old := cache.getD index 0
  (cache.set index (cache.getD 0 0)).set 0 old

/-- A match whose offset is at hand: its length, the new cache and the copy. The status is that
    of the iteration, `none` when the loop goes on. -/
def rdp6Match (state : Rdp6State) (reader : Rdp6BitReader) (copyOffset : Nat) (cache : List Nat) :
    Exec (Option Status × Rdp6State × Rdp6BitReader) := do
  match ← rdp6ReadMatchLength state reader with
  | .error status => pure (some status, state, reader)
  | .ok (length, reader) => do
      let (status, state) ← rdp6Copy { state with offsetCache := cache } copyOffset length
      pure (if status = .ok then none else some status, state, reader)

/-- One iteration of the decoding loop; it goes on while the status is `none`. -/
def rdp6DecodeToken (state : Rdp6State) (reader : Rdp6BitReader) :
    Exec (Option Status × Rdp6State × Rdp6BitReader) := do
  match ← rdp6DecodeSymbol reader state.literalOffset rdp6LecTableBits with
  | .error status => pure (some status, state, reader)
  | .ok (symbol, reader) =>
      if symbol < 256 then do
        let (status, state) ← rdp6Emit state (UInt8.ofNat symbol)
        pure (if status = .ok then none else some status, state, reader)
      else if symbol = 256 then pure (some .ok, state, reader)
      else if symbol ≤ 288 then
        let index := symbol - 257
        match rdp6ReaderRead reader (rdp6CopyOffsetBits.getD index 0) with
        | .error status => pure (some status, state, reader)
        | .ok (extra, reader) =>
            let copyOffset := rdp6CopyOffsetBase.getD index 0 + extra - 1
            rdp6Match state reader copyOffset (cachePush state.offsetCache copyOffset)
      else if symbol ≤ 292 then
        let index := symbol - 289
        rdp6Match state reader (state.offsetCache.getD index 0) (cacheSwap state.offsetCache index)
      else pure (some .protocolError, state, reader)

def rdp6DecodeLoop : Nat → Rdp6State → Rdp6BitReader → Exec (Status × Rdp6State)
  | 0, _, _ => .error .outOfFuel
  | fuel + 1, state, reader => do
      let (status, state, reader) ← rdp6DecodeToken state reader
      match status with
      | none => rdp6DecodeLoop fuel state reader
      | some status => pure (status, state)

/-- The part of `rdp_bulk_rdp6_decode` that follows the flag handling. -/
def rdp6DecodeBody (state : Rdp6State) (flags : UInt8) (data decoded : Bytes) :
    Exec (Status × Rdp6State × Bytes) :=
  if hasFlag flags packetCompressed = false then .ok (.ok, state, decoded ++ data)
  else match rdp6ReaderInit data with
    | .error status => .ok (status, state, decoded)
    | .ok reader => do
        let start := state.writeOffset
        let savedCache := state.offsetCache
        let (status, state) ← rdp6DecodeLoop (8 * data.length + 1) state reader
        if status ≠ .ok then
          pure (status, { state with writeOffset := start, offsetCache := savedCache }, decoded)
        else
          let length ← checkedSub state.writeOffset start
          let bytes ← state.history.slice start length
          pure (.ok, state, decoded ++ bytes)

def rdp6Decode (state : Rdp6State) (flags : UInt8) (data decoded : Bytes) :
    Exec (Status × Rdp6State × Bytes) := do
  let (status, state) ← rdp6Prepare state
  if status ≠ .ok then pure (status, state, decoded)
  else
    let (status, state) ←
      if hasFlag flags packetAtFront then rdp6MoveFront state else pure (.ok, state)
    if status ≠ .ok then pure (status, state, decoded)
    else
      let state ← if hasFlag flags packetFlushed then rdp6StateReset state true else pure state
      rdp6DecodeBody state flags data decoded

end LibRdp.Bulk
