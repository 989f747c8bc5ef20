import LibRdp.Bulk.Mppc

/-! # The RDP6.1 decompressor

`rdp_bulk_rdp61_state` and the functions around `rdp_bulk_rdp61_decompress`. A
level-1 packet is a list of match records with a string of literals that fills
the gaps between the matches; the packet itself may be compressed once more, by
the MPPC state of level 2. Bytes are appended to the output as they are decoded.
-/

namespace LibRdp.Bulk

open Machine

/-- `RDP_BULK_RDP61_HISTORY_SIZE`. -/
def rdp61HistorySize : Nat := 2000000

/-- `RDP_BULK_RDP61_L1_COMPRESSED`, `_NO_COMPRESSION`, `_PACKET_AT_FRONT`, `_INNER_COMPRESSION`
    and `_KNOWN_MASK`. -/
def l1Compressed : UInt8 := 0x01
def l1NoCompression : UInt8 := 0x02
def l1PacketAtFront : UInt8 := 0x04
def l1InnerCompression : UInt8 := 0x10
def l1KnownMask : UInt8 := 0x17

/-- `rdp_bulk_rdp61_state`. -/
structure Rdp61State where
  history : Option (Memory UInt8)
  writeOffset : Nat

def rdp61StateInit : Rdp61State := ⟨none, 0⟩

def rdp61StateReset (state : Rdp61State) (clear : Bool) : Exec Rdp61State :=
  match clear, state.history with
  | true, some history => do
      let history ← history.fill 0 rdp61HistorySize 0
      pure ⟨some history, 0⟩
  | _, _ => pure { state with writeOffset := 0 }

def rdp61StateEnsure (state : Rdp61State) : Rdp61State :=
  match state.history with
  | some _ => state
  | none => { state with history := some (Memory.filled rdp61HistorySize 0) }

/-- What the level-1 functions pass along by reference: the state, the output and the counters
    `output_offset` and `literal_offset`. -/
structure Rdp61Work where
  state : Rdp61State
  decoded : Bytes
  outputOffset : Nat
  literalOffset : Nat

def rdp61Emit (work : Rdp61Work) (value : UInt8) : Exec (Status × Rdp61Work) :=
  if work.state.writeOffset ≥ rdp61HistorySize then .ok (.protocolError, work)
  else match work.state.history with
    | none => .error .outOfBounds
    | some history => do
        let history ← history.store work.state.writeOffset value
        pure (.ok, { work with
          state := ⟨some history, work.state.writeOffset + 1⟩
          decoded := work.decoded ++ [value]
          outputOffset := work.outputOffset + 1 })

/-- The loop of `rdp_bulk_rdp61_emit_literals`. -/
def rdp61LiteralLoop (literals : Bytes) : Nat → Rdp61Work → Exec (Status × Rdp61Work)
  | 0, work => .ok (.ok, work)
  | count + 1, work =>
      match literals[work.literalOffset]? with
      | none => .error .outOfBounds
      | some value => do
          let (status, work) ← rdp61Emit work value
          if status = .ok then
            rdp61LiteralLoop literals count { work with literalOffset := work.literalOffset + 1 }
          else pure (status, work)

def rdp61EmitLiterals (work : Rdp61Work) (literals : Bytes) (count : Nat) :
    Exec (Status × Rdp61Work) :=
  if work.literalOffset > literals.length then .ok (.protocolError, work)
  else do
    let left ← checkedSub literals.length work.literalOffset
    if count > left then pure (.protocolError, work) else rdp61LiteralLoop literals count work

/-- The loop of `rdp_bulk_rdp61_emit_match`. -/
def rdp61MatchLoop : Nat → Nat → Rdp61Work → Exec (Status × Rdp61Work)
  | 0, _, work => .ok (.ok, work)
  | count + 1, index, work =>
      match work.state.history with
      | none => .error .outOfBounds
      | some history => do
          let value ← history.load index
          let (status, work) ← rdp61Emit work value
          if status = .ok then rdp61MatchLoop count (index + 1) work else pure (status, work)

def rdp61EmitMatch (work : Rdp61Work) (historyOffset length : Nat) : Exec (Status × Rdp61Work) :=
  if work.state.history.isNone ∨ length = 0 ∨ historyOffset ≥ rdp61HistorySize ∨
      historyOffset + length > rdp61HistorySize then
    .ok (.protocolError, work)
  else rdp61MatchLoop length historyOffset work

structure MatchRecord where
  length : Nat
  matchOutput : Nat
  historyOffset : Nat

def readRecord : Bytes → Option (MatchRecord × Bytes)
  | b0 :: b1 :: b2 :: b3 :: b4 :: b5 :: b6 :: b7 :: rest =>
      some (⟨u16Le b0 b1, u16Le b2 b3, u32Le b4 b5 b6 b7⟩, rest)
  | _ => none

/-- One iteration of the record loop: the literals up to the match, then the match. -/
def rdp61Record (literals : Bytes) (record : MatchRecord) (work : Rdp61Work) :
    Exec (Status × Rdp61Work) :=
  if record.matchOutput < work.outputOffset then .ok (.protocolError, work)
  else do
    let gap ← checkedSub record.matchOutput work.outputOffset
    let (status, work) ← rdp61EmitLiterals work literals gap
    if status = .ok then rdp61EmitMatch work record.historyOffset record.length
    else pure (status, work)

/-- The record loop, over the bytes from `match_offset` on. -/
def rdp61RecordLoop (literals : Bytes) : Nat → Bytes → Rdp61Work → Exec (Status × Rdp61Work)
  | 0, _, work => .ok (.ok, work)
  | count + 1, details, work =>
      match readRecord details with
      | none => .error .outOfBounds
      | some (record, details) => do
          let (status, work) ← rdp61Record literals record work
          if status = .ok then rdp61RecordLoop literals count details work
          else pure (status, work)

def rdp61Records (work : Rdp61Work) (matchCount : Nat) (payload : Bytes) :
    Exec (Status × Rdp61Work) := do
  let literals := payload.drop (2 + 8 * matchCount)
  let (status, work) ← rdp61RecordLoop literals matchCount (payload.drop 2) work
  if status = .ok then
    let left ← checkedSub literals.length work.literalOffset
    rdp61EmitLiterals work literals left
  else pure (status, work)

/-- The flags exclude one another, or none of them says how the payload is coded. -/
def l1FlagsInvalid (flags : UInt8) : Bool :=
  flags &&& ~~~l1KnownMask ≠ 0 ∨ (hasFlag flags l1Compressed ∧ hasFlag flags l1NoCompression) ∨
    ¬ hasFlag flags (l1Compressed ||| l1NoCompression)

/-- The payload of a level-1 packet; on an error the write offset returns to the start. -/
def rdp61Payload (state : Rdp61State) (flags : UInt8) (payload decoded : Bytes) :
    Exec (Status × Rdp61State × Bytes) :=
  let start := state.writeOffset
  let finish := fun (status, (work : Rdp61Work)) =>
    if status = .ok then (status, work.state, work.decoded)
    else (status, { work.state with writeOffset := start }, work.decoded)
  if hasFlag flags l1NoCompression then
    (rdp61EmitLiterals ⟨state, decoded, 0, 0⟩ payload payload.length).map finish
  else match payload with
    | b0 :: b1 :: _ =>
        let matchCount := u16Le b0 b1
        if matchCount = 0 ∨ 2 + 8 * matchCount > payload.length then
          .ok (.protocolError, state, decoded)
        else (rdp61Records ⟨state, decoded, 0, 0⟩ matchCount payload).map finish
    | _ => .ok (.protocolError, state, decoded)

def rdp61DecompressLevel1 (state : Rdp61State) (data decoded : Bytes) :
    Exec (Status × Rdp61State × Bytes) :=
  match data with
  | flags :: _ :: payload =>
      let state := rdp61StateEnsure state
      if l1FlagsInvalid flags then .ok (.protocolError, state, decoded)
      else do
        let state ← if hasFlag flags l1PacketAtFront then rdp61StateReset state true else pure state
        rdp61Payload state flags payload decoded
  | _ => .ok (.protocolError, state, decoded)

def rdp61Decompress (state : Rdp61State) (level2 : MppcState) (data decoded : Bytes) :
    Exec (Status × Rdp61State × MppcState × Bytes) :=
  match data with
  | flags :: flags2 :: packed =>
      if hasFlag flags l1InnerCompression then do
        let (status, level2, inner) ← mppcDecompress level2 flags2 packed [flags, flags2]
        if status = .ok then
          let (status, state, decoded) ← rdp61DecompressLevel1 state inner decoded
          pure (status, state, level2, decoded)
        else pure (status, state, level2, decoded)
      else do
        let (status, state, decoded) ← rdp61DecompressLevel1 state data decoded
        pure (status, state, level2, decoded)
  | _ => .ok (.protocolError, state, level2, decoded)

end LibRdp.Bulk
