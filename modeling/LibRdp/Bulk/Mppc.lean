import LibRdp.Common

/-! # The MPPC decompressor

`rdp_bulk_mppc_state` and the functions around `rdp_bulk_mppc_decompress`, for
the 8K history (level 0) and the 64K history (level 1). The history pointer is
`none` until the first packet allocates it.
-/

namespace LibRdp.Bulk

open Machine

/-- The `level` field: 0 selects the 8K tables, 1 the 64K tables. -/
inductive MppcLevel where
  | k8
  | k64
  deriving Repr, DecidableEq

/-- `rdp_bulk_mppc_state`. -/
structure MppcState where
  history : Option (Memory UInt8)
  historySize : Nat
  writeOffset : Nat
  level : MppcLevel

/-- `RDP_BULK_PACKET_COMPRESSED`, `RDP_BULK_PACKET_AT_FRONT`, `RDP_BULK_PACKET_FLUSHED`. -/
def packetCompressed : UInt8 := 0x20
def packetAtFront : UInt8 := 0x40
def packetFlushed : UInt8 := 0x80

def hasFlag (flags bit : UInt8) : Bool := flags &&& bit != 0

def mppcStateInit (level : MppcLevel) : MppcState where
  history := none
  historySize := match level with
    | .k64 => 65536
    | .k8 => 8192
  writeOffset := 0
  level := level

def mppcStateReset (state : MppcState) (clear : Bool) : Exec MppcState :=
  match clear, state.history with
  | true, some history => do
      let history ← history.fill 0 state.historySize 0
      pure { state with writeOffset := 0, history := some history }
  | _, _ => pure { state with writeOffset := 0 }

def mppcStateEnsure (state : MppcState) : Status × MppcState :=
  if state.historySize = 0 then (.invalidArgument, state)
  else match state.history with
    | some _ => (.ok, state)
    | none => (.ok, { state with history := some (Memory.filled state.historySize 0) })

/-- `rdp_bulk_bit_reader`; the length is the length of `data`. -/
structure BitReader where
  data : Bytes
  bit : Nat

def BitReader.bitsRemaining (reader : BitReader) : Nat :=
  if reader.data.length > sizeMax / 8 then 0
  else if reader.bit > reader.data.length * 8 then 0
  else reader.data.length * 8 - reader.bit

/-- The bit the reader stands on, most significant bit of a byte first. -/
def BitReader.current (reader : BitReader) : Nat :=
  ((reader.data.getD (reader.bit / 8) 0).toNat >>> (7 - reader.bit % 8)) &&& 1

/-- The loop of `rdp_bulk_read_bits`: at most 31 bits, so the 32-bit result cannot overflow. -/
def readBitsLoop : Nat → Nat → BitReader → Nat × BitReader
  | 0, result, reader => (result, reader)
  | count + 1, result, reader =>
      readBitsLoop count (result <<< 1 ||| reader.current) { reader with bit := reader.bit + 1 }

/-- `none` is `LIBRDP_STATUS_PROTOCOL_ERROR`. -/
def readBits (reader : BitReader) (count : Nat) : Option (Nat × BitReader) :=
  if count > 31 ∨ reader.bitsRemaining < count then none
  else some (readBitsLoop count 0 reader)

/-- A unary prefix selects the class: each class has its own number of value bits and its base. -/
def readPrefixedValue : List (Nat × Nat) → BitReader → Option (Nat × BitReader)
  | [], _ => none
  | (valueBits, base) :: classes, reader => do
      let (bit, reader) ← readBits reader 1
      if bit = 1 then readPrefixedValue classes reader
      else if valueBits > 0 then
        let (low, reader) ← readBits reader valueBits
        pure (base + low, reader)
      else pure (base, reader)

/-- Value bits and base of the class `110…`. -/
def longOffset : MppcLevel → Nat × Nat
  | .k64 => (16, 2368)
  | .k8 => (13, 320)

/-- Value bits and base of the class `1110…`. -/
def middleOffset : MppcLevel → Nat × Nat
  | .k64 => (11, 320)
  | .k8 => (8, 64)

def readBased (reader : BitReader) (offsetClass : Nat × Nat) : Option (Nat × BitReader) := do
  let (low, reader) ← readBits reader offsetClass.1
  pure (offsetClass.2 + low, reader)

def mppcReadOffset (reader : BitReader) (level : MppcLevel) : Option (Nat × BitReader) := do
  let (first, reader) ← readBits reader 1
  let (second, reader) ← readBits reader 1
  if first ≠ 1 ∨ second ≠ 1 then none
  else
    let (bit, reader) ← readBits reader 1
    if bit = 0 then readBased reader (longOffset level)
    else
      let (bit, reader) ← readBits reader 1
      if bit = 0 then readBased reader (middleOffset level)
      else match level with
        | .k64 => do
            let (bit, reader) ← readBits reader 1
            if bit = 0 then readBased reader (8, 64) else readBits reader 6
        | .k8 => readBits reader 6

/-- `bits_common` with `bases_common`. -/
def lengthClassesCommon : List (Nat × Nat) :=
  [(0, 3), (2, 4), (3, 8), (4, 16), (5, 32), (6, 64), (7, 128), (8, 256), (9, 512), (10, 1024),
    (11, 2048), (12, 4096)]

/-- `bits64k` with `bases64k`. -/
def lengthClasses64k : List (Nat × Nat) :=
  [(0, 3), (2, 4), (3, 8), (4, 16), (5, 32), (6, 64), (7, 128), (8, 256), (9, 512), (10, 1024),
    (11, 2048), (12, 4096), (13, 8192), (14, 16384), (15, 32768)]

def lengthClasses : MppcLevel → List (Nat × Nat)
  | .k64 => lengthClasses64k
  | .k8 => lengthClassesCommon

def mppcReadLength (reader : BitReader) (level : MppcLevel) : Option (Nat × BitReader) :=
  readPrefixedValue (lengthClasses level) reader

/-- `state->history[state->write_offset++] = value`; a NULL history faults. -/
def mppcEmit (state : MppcState) (value : UInt8) : Exec MppcState :=
  match state.history with
  | none => .error .outOfBounds
  | some history => do
      let history ← history.store state.writeOffset value
      pure { state with history := some history, writeOffset := state.writeOffset + 1 }

/-- The copy loop of `rdp_bulk_mppc_copy_match`. -/
def mppcCopyLoop : Nat → Nat → MppcState → Exec MppcState
  | 0, _, state => .ok state
  | count + 1, src, state =>
      match state.history with
      | none => .error .outOfBounds
      | some history => do
          let value ← history.load src
          let state ← mppcEmit state value
          mppcCopyLoop count (src + 1) state

def mppcMask : MppcLevel → Nat
  | .k64 => 0xffff
  | .k8 => 0x1fff

/-- `(write_offset - offset) & mask`: the difference may wrap, and the mask keeps its low bits. -/
def mppcSource (level : MppcLevel) (writeOffset offset : Nat) : Nat :=
  (((writeOffset : Int) - offset) % (mppcMask level + 1)).toNat

def mppcCopyMatch (state : MppcState) (offset length : Nat) : Exec (Status × MppcState) :=
  if state.history.isNone ∨ length = 0 ∨ state.writeOffset > state.historySize then
    .ok (.protocolError, state)
  else do
    let room ← checkedSub state.historySize state.writeOffset
    if length > room then pure (.protocolError, state)
    else
      let src := mppcSource state.level state.writeOffset offset
      if src ≥ state.historySize then pure (.protocolError, state)
      else
        let left ← checkedSub state.historySize src
        if length > left then pure (.protocolError, state)
        else
          let state ← mppcCopyLoop length src state
          pure (.ok, state)

/-- The match branch of the decoding loop, after the two prefix bits have been pushed back. -/
def mppcDecodeMatch (state : MppcState) (reader : BitReader) :
    Exec (Status × MppcState × BitReader) :=
  match mppcReadOffset reader state.level with
  | none => .ok (.protocolError, state, reader)
  | some (offset, reader) =>
      match mppcReadLength reader state.level with
      | none => .ok (.protocolError, state, reader)
      | some (length, reader) => do
          let (status, state) ← mppcCopyMatch state offset length
          pure (status, state, reader)

def mppcDecodeToken (state : MppcState) (reader : BitReader) :
    Exec (Status × MppcState × BitReader) :=
  if state.writeOffset ≥ state.historySize then .ok (.protocolError, state, reader)
  else match readBits reader 1 with
    | none => .ok (.protocolError, state, reader)
    | some (first, reader) =>
        if first = 0 then
          match readBits reader 7 with
          | none => .ok (.protocolError, state, reader)
          | some (literal, reader) => do
              let state ← mppcEmit state (UInt8.ofNat literal)
              pure (.ok, state, reader)
        else match readBits reader 1 with
          | none => .ok (.protocolError, state, reader)
          | some (second, reader) =>
              if second = 0 then
                match readBits reader 7 with
                | none => .ok (.protocolError, state, reader)
                | some (literal, reader) => do
                    let state ← mppcEmit state (UInt8.ofNat (0x80 + literal))
                    pure (.ok, state, reader)
              else mppcDecodeMatch state { reader with bit := reader.bit - 2 }

def mppcDecodeLoop : Nat → MppcState → BitReader → Exec (Status × MppcState)
  | 0, _, _ => .error .outOfFuel
  | fuel + 1, state, reader =>
      if reader.bitsRemaining < 8 then .ok (.ok, state)
      else do
        let (status, state, reader) ← mppcDecodeToken state reader
        if status = .ok then mppcDecodeLoop fuel state reader else pure (status, state)

/-- The history stretch `start, …, write_offset - 1`, appended to `decoded`. -/
def mppcAppend (state : MppcState) (start : Nat) (decoded : Bytes) : Exec Bytes :=
  match state.history with
  | none => .error .outOfBounds
  | some history => do
      let length ← checkedSub state.writeOffset start
      let bytes ← history.slice start length
      pure (decoded ++ bytes)

def mppcApplyFlags (state : MppcState) (flags : UInt8) : Exec MppcState := do
  let state ← if hasFlag flags packetAtFront then mppcStateReset state false else pure state
  if hasFlag flags packetFlushed then mppcStateReset state true else pure state

/-- The part of `rdp_bulk_mppc_decompress` that follows the flag handling. -/
def mppcDecompressBody (state : MppcState) (flags : UInt8) (data decoded : Bytes) :
    Exec (Status × MppcState × Bytes) :=
  if hasFlag flags packetCompressed = false then .ok (.ok, state, decoded ++ data)
  else do
    let start := state.writeOffset
    let (status, state) ← mppcDecodeLoop (8 * data.length + 1) state ⟨data, 0⟩
    if status ≠ .ok then pure (status, { state with writeOffset := start }, decoded)
    else
      let decoded ← mppcAppend state start decoded
      pure (.ok, state, decoded)

def mppcDecompress (state : MppcState) (flags : UInt8) (data decoded : Bytes) :
    Exec (Status × MppcState × Bytes) :=
  let (status, state) := mppcStateEnsure state
  if status ≠ .ok then .ok (status, state, decoded)
  else do
    let state ← mppcApplyFlags state flags
    mppcDecompressBody state flags data decoded

end LibRdp.Bulk
