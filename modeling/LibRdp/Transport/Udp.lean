import LibRdp.Common

/-! # RDPEUDP datagrams

A datagram is an eight-byte header and what its flags announce: the data of a SYN, an
acknowledgement vector, or a payload with a sequence number. Buffers grow here under a
flag that says whether their memory could be obtained: running out of it is one of the
ways a datagram is refused.
-/

namespace LibRdp.Transport

/-- `RDP_UDP_FLAG_*`. -/
def udpFlagSyn : UInt16 := 0x0001
def udpFlagAck : UInt16 := 0x0004
def udpFlagData : UInt16 := 0x0008
def udpFlagFec : UInt16 := 0x0010
def udpFlagSackOption : UInt16 := 0x0080
def udpFlagAckOfAcks : UInt16 := 0x0100
def udpFlagSynLossy : UInt16 := 0x0200
def udpFlagSynEx : UInt16 := 0x1000

/-- `RDP_UDP_KNOWN_FLAGS`. -/
def udpKnownFlags : UInt16 := 0x1fff

/-- `RDP_UDP_PROTOCOL_VERSION_1` to `_3` and `RDP_UDP_SYNEX_VERSION_INFO_VALID`. -/
def udpProtocolVersion1 : UInt16 := 0x0001
def udpProtocolVersion2 : UInt16 := 0x0002
def udpProtocolVersion3 : UInt16 := 0x0101
def udpSynExVersionInfoValid : UInt16 := 0x0001

/-- `RDP_UDP_MIN_MTU` and `RDP_UDP_MAX_MTU`. -/
def udpMinMtu : UInt16 := 1132
def udpMaxMtu : UInt16 := 1232

/-- `RDP_UDP_ACK_VECTOR_MAX_SIZE`. -/
def udpAckVectorMaxSize : Nat := 2048

/-- `RDP_UDP_ACK_VECTOR_MAX_RUN` and `RDP_UDP_ACK_VECTOR_ENCODED_MAX_SIZE`; UDP2 has the same. -/
def ackVectorMaxRun : Nat := 64
def ackVectorEncodedMaxSize : Nat := 127

/-- `RDP_UDP_MAX_REPORTABLE_GAP` and `RDP_UDP2_MAX_REPORTABLE_GAP`. -/
def maxReportableGap : Nat := ackVectorMaxRun * ackVectorEncodedMaxSize

/-- `RDP_UDP_ACK_VECTOR_STATE_RECEIVED` and `RDP_UDP_ACK_VECTOR_STATE_PENDING`. -/
def udpAckVectorStateReceived : Nat := 0
def udpAckVectorStatePending : Nat := 3

/-- Whether some flag of `mask` is set. -/
def hasFlag (flags mask : UInt16) : Bool := flags &&& mask != 0

/-- A buffer that took `bytes`: `memory` says whether every growth of it succeeded. -/
def buffered (memory : Bool) (bytes : Bytes) : Attempt Bytes :=
  if memory || bytes.isEmpty then .ok bytes else refuse .noMemory

theorem buffered_true (bytes : Bytes) : buffered true bytes = .ok bytes := rfl

theorem buffered_ok {memory : Bool} {bytes held : Bytes} (took : buffered memory bytes = .ok held) :
    held = bytes := by
  unfold buffered at took
  split at took
  · exact (Except.ok.inj took).symm
  · exact nomatch took

/-- `rdp_udp_fec_header`. -/
structure UdpFecHeader where
  sourceAck : UInt32
  receiveWindowSize : UInt16
  flags : UInt16
  deriving Repr, DecidableEq

/-- `rdp_udp_valid_flags`. -/
def udpValidFlags (flags : UInt16) : Bool := !hasFlag flags (~~~udpKnownFlags)

/-- `rdp_udp_valid_mtu`. -/
def udpValidMtu (mtu : UInt16) : Bool := decide (udpMinMtu ≤ mtu) && decide (mtu ≤ udpMaxMtu)

/-- `rdp_udp_parse_fec_header`; what follows the header is returned with it. -/
def udpParseFecHeader (data : Bytes) : Attempt (UdpFecHeader × Bytes) := do
  let (sourceAck, stream) ← readU32Le data
  let (receiveWindowSize, stream) ← readU16Le stream
  let (flags, stream) ← readU16Le stream
  if !udpValidFlags flags then refuse .protocolError
  else pure ({ sourceAck, receiveWindowSize, flags }, stream)

/-- `rdp_udp_syn_data`. -/
structure UdpSynData where
  initialSequenceNumber : UInt32
  upstreamMtu : UInt16
  downstreamMtu : UInt16
  deriving Repr, DecidableEq

/-- `rdp_udp_parse_syn_data`. -/
def udpParseSynData (data : Bytes) : Attempt UdpSynData := do
  let (initialSequenceNumber, stream) ← readU32Le data
  let (upstreamMtu, stream) ← readU16Le stream
  let (downstreamMtu, _) ← readU16Le stream
  if !udpValidMtu upstreamMtu || !udpValidMtu downstreamMtu then refuse .protocolError
  else pure { initialSequenceNumber, upstreamMtu, downstreamMtu }

/-- `rdp_udp_syn_data_ex`; the hash stands for `has_cookie_hash` too. -/
structure UdpSynDataEx where
  flags : UInt16
  udpVersion : UInt16
  cookieHash : Option Bytes
  deriving Repr, DecidableEq

/-- `rdp_udp_parse_syn_data_ex`. -/
def udpParseSynDataEx (data : Bytes) : Attempt UdpSynDataEx := do
  if data.length ≠ 4 ∧ data.length ≠ 36 then refuse .protocolError
  else
    let (flags, stream) ← readU16Le data
    let (udpVersion, stream) ← readU16Le stream
    if hasFlag flags (~~~udpSynExVersionInfoValid) || !hasFlag flags udpSynExVersionInfoValid then
      refuse .protocolError
    else if udpVersion ≠ udpProtocolVersion1 ∧ udpVersion ≠ udpProtocolVersion2 ∧
        udpVersion ≠ udpProtocolVersion3 then
      refuse .protocolError
    else if udpVersion = udpProtocolVersion3 then
      if stream.length ≠ 32 then refuse .protocolError
      else
        let (hash, _) ← readBytes stream 32
        pure { flags, udpVersion, cookieHash := some hash }
    else if stream.length ≠ 0 then refuse .protocolError
    else pure { flags, udpVersion, cookieHash := none }

/-- `rdp_udp_parse_ack_of_ack_vector`: the sequence number it resets to. -/
def udpParseAckOfAckVector (data : Bytes) : Attempt UInt32 := do
  let (resetSequenceNumber, _) ← readU32Le data
  pure resetSequenceNumber

/-- The zeroes after an acknowledgement vector of `size` bytes. -/
def ackVectorPadding (size : Nat) : Nat := (4 - (2 + size) % 4) % 4

/-- `rdp_udp_parse_ack_vector`: the entries, whose padding is known from their number. -/
def udpParseAckVector (data : Bytes) : Attempt Bytes := do
  let (size, stream) ← readU16Le data
  if size.toNat > udpAckVectorMaxSize then refuse .protocolError
  else
    let (vector, stream) ← readBytes stream size.toNat
    if stream.length ≠ ackVectorPadding size.toNat then refuse .protocolError
    else if stream.any (· ≠ 0) then refuse .protocolError
    else pure vector

/-- `rdp_udp_ack_vector_count`, with `rdp_udp_ack_vector_decode_entry`: the packets that the
    entries call received and pending. -/
def udpAckVectorCount : Bytes → Attempt (Nat × Nat)
  | [] => .ok (0, 0)
  | value :: vector => do
      let state := value.toNat / 64
      let run := value.toNat % 64 + 1
      if state ≠ udpAckVectorStateReceived ∧ state ≠ udpAckVectorStatePending then
        refuse .protocolError
      else
        let (received, pending) ← udpAckVectorCount vector
        if state = udpAckVectorStateReceived then pure (received + run, pending)
        else pure (received, pending + run)

/-- `rdp_udp_parse_payload_prefix`: the size of the payload. -/
def udpParsePayloadPrefix (data : Bytes) : Attempt UInt16 := do
  let (payloadSize, _) ← readU16Le data
  pure payloadSize

/-- `rdp_udp_source_payload_header`. -/
structure UdpSourcePayloadHeader where
  codedSequence : UInt32
  sourceStart : UInt32
  deriving Repr, DecidableEq

/-- `rdp_udp_parse_source_payload_header`. -/
def udpParseSourcePayloadHeader (data : Bytes) : Attempt UdpSourcePayloadHeader := do
  let (codedSequence, stream) ← readU32Le data
  let (sourceStart, _) ← readU32Le stream
  pure { codedSequence, sourceStart }

/-- `rdp_udp_write_fec_header`. -/
def udpWriteFecHeader (header : UdpFecHeader) : Attempt Bytes :=
  if !udpValidFlags header.flags then refuse .invalidArgument
  else .ok (u32LeBytes header.sourceAck.toNat ++ u16LeBytes header.receiveWindowSize.toNat ++
    u16LeBytes header.flags.toNat)

/-- `rdp_udp_write_ack_vector`. -/
def udpWriteAckVector (vector : Bytes) : Attempt Bytes :=
  if vector.length > udpAckVectorMaxSize then refuse .invalidArgument
  else .ok (u16LeBytes vector.length ++ vector ++
    List.replicate (ackVectorPadding vector.length) 0)

/-- The loops that report a gap: entries of `tag` for runs of at most 64 packets, as many as there
    is room for, and the packets that are left over. -/
def ackVectorRuns (tag : Nat) : Nat → Nat → Bytes × Nat
  | 0, remaining => ([], remaining)
  | room + 1, remaining =>
      if remaining = 0 then ([], 0)
      else
        let run := min remaining ackVectorMaxRun
        let (vector, left) := ackVectorRuns tag room (remaining - run)
        (UInt8.ofNat (tag + (run - 1)) :: vector, left)

/-! ## How datagrams are refused

A caller reads `LIBRDP_STATUS_LIMIT_EXCEEDED` as a response buffer that is too small and
`LIBRDP_STATUS_OK` as success, so no parser and no writer may refuse with either.
-/

def Honest {α : Type} (attempt : Attempt α) : Prop :=
  attempt ≠ refuse .limitExceeded ∧ attempt ≠ refuse .ok

section Honest

variable {α β : Type}

@[simp] theorem honest_ok (a : α) : Honest (.ok a : Attempt α) := ⟨nofun, nofun⟩

@[simp] theorem honest_refuse (status : Status) :
    Honest (refuse status : Attempt α) ↔ status ≠ .limitExceeded ∧ status ≠ .ok := by
  simp [Honest, refuse]

@[simp] theorem honest_ite (c : Prop) [Decidable c] (x y : Attempt α) :
    Honest (if c then x else y) ↔ (c → Honest x) ∧ (¬ c → Honest y) := by
  by_cases holds : c <;> simp [holds]

@[simp] theorem honest_bind (x : Attempt α) (f : α → Attempt β) :
    Honest (x >>= f) ↔ Honest x ∧ ∀ a, x = .ok a → Honest (f a) := by
  cases x with
  | ok a => simp
  | error stop =>
    have alike : ((.error stop : Attempt α) >>= f) = .error stop := rfl
    rw [alike]
    simp [Honest, refuse]

@[simp] theorem honest_readU8 (stream : Bytes) : Honest (readU8 stream) := by
  unfold readU8
  split <;> simp

@[simp] theorem honest_readU16Le (stream : Bytes) : Honest (readU16Le stream) := by
  unfold readU16Le
  split <;> simp

@[simp] theorem honest_readU32Le (stream : Bytes) : Honest (readU32Le stream) := by
  unfold readU32Le
  split <;> simp

@[simp] theorem honest_readBytes (stream : Bytes) (length : Nat) :
    Honest (readBytes stream length) := by
  simp [readBytes]

@[simp] theorem honest_buffered (memory : Bool) (bytes : Bytes) :
    Honest (buffered memory bytes) := by
  simp [buffered]

@[simp] theorem honest_parseFecHeader (data : Bytes) : Honest (udpParseFecHeader data) := by
  simp [udpParseFecHeader]

@[simp] theorem honest_parseSynData (data : Bytes) : Honest (udpParseSynData data) := by
  simp [udpParseSynData]

@[simp] theorem honest_parseSynDataEx (data : Bytes) : Honest (udpParseSynDataEx data) := by
  simp [udpParseSynDataEx]

@[simp] theorem honest_parseAckOfAckVector (data : Bytes) :
    Honest (udpParseAckOfAckVector data) := by
  simp [udpParseAckOfAckVector]

@[simp] theorem honest_parseAckVector (data : Bytes) : Honest (udpParseAckVector data) := by
  simp [udpParseAckVector]

@[simp] theorem honest_ackVectorCount (vector : Bytes) :
    Honest (udpAckVectorCount vector) := by
  induction vector with
  | nil => simp [udpAckVectorCount]
  | cons value vector ih => simp [udpAckVectorCount, ih]

@[simp] theorem honest_parsePayloadPrefix (data : Bytes) :
    Honest (udpParsePayloadPrefix data) := by
  simp [udpParsePayloadPrefix]

@[simp] theorem honest_parseSourcePayloadHeader (data : Bytes) :
    Honest (udpParseSourcePayloadHeader data) := by
  simp [udpParseSourcePayloadHeader]

@[simp] theorem honest_writeFecHeader (header : UdpFecHeader) :
    Honest (udpWriteFecHeader header) := by
  simp [udpWriteFecHeader]

@[simp] theorem honest_writeAckVector (vector : Bytes) : Honest (udpWriteAckVector vector) := by
  simp [udpWriteAckVector]

end Honest

end LibRdp.Transport
