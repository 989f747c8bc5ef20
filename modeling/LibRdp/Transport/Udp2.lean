import LibRdp.Transport.Udp

/-! # UDP2 packets

A packet is a header of flags and window size followed by the sections that the flags
announce. On the wire its first seven bytes are rotated so that a prefix byte, which gives
the type and the length of a short packet, stands in eighth place.
-/

namespace LibRdp.Transport

/-- `RDP_UDP2_FLAG_*`. -/
def udp2FlagAck : UInt16 := 0x0001
def udp2FlagData : UInt16 := 0x0004
def udp2FlagAckVec : UInt16 := 0x0008
def udp2FlagAoa : UInt16 := 0x0010
def udp2FlagOverheadSize : UInt16 := 0x0040
def udp2FlagDelayAckInfo : UInt16 := 0x0100

/-- `RDP_UDP2_KNOWN_FLAGS`. -/
def udp2KnownFlags : UInt16 := 0x015d

/-- `RDP_UDP2_PACKET_TYPE_DATA` and `RDP_UDP2_PACKET_TYPE_DUMMY`. -/
def udp2PacketTypeData : Nat := 0
def udp2PacketTypeDummy : Nat := 8

/-- `rdp_udp2_header`. -/
structure Udp2Header where
  flags : UInt16
  logWindowSize : Nat
  deriving Repr, DecidableEq

/-- `rdp_udp2_ack`; `delayed_ack_count` is the number of additions. -/
structure Udp2Ack where
  sequenceNumber : UInt16
  receivedTimestamp : Nat := 0
  sendAckTimeGapMs : UInt8 := 0
  delayedAckTimeScale : Nat := 0
  delayedAckTimeAdditions : Bytes := []
  deriving Repr, DecidableEq

/-- `rdp_udp2_ack_vector`; the timestamp stands with its gap and for `timestamp_present`. -/
structure Udp2AckVector where
  baseSequenceNumber : UInt16
  timestamp : Option (Nat × UInt8) := none
  codedAckVector : Bytes
  deriving Repr, DecidableEq

/-- `rdp_udp2_packet`; a section that is there stands for its `has_` flag. -/
structure Udp2Packet where
  header : Udp2Header
  ack : Option Udp2Ack := none
  overheadSize : Option UInt8 := none
  delayAckInfo : Option (UInt8 × UInt16) := none
  ackOfAcksSequenceNumber : Option UInt16 := none
  dataSequenceNumber : Option UInt16 := none
  ackVector : Option Udp2AckVector := none
  dataBody : Bytes := []
  deriving Repr, DecidableEq

/-- `rdp_udp2_packet_kind`. -/
inductive Udp2PacketKind where
  | ack
  | ackVector
  | ackOfAcks
  | data
  | dataWithAck
  | control
  deriving Repr, DecidableEq

def udp2BadFlags (flags : UInt16) : Bool :=
  flags == 0 || hasFlag flags (~~~udp2KnownFlags) ||
    (hasFlag flags udp2FlagAck && hasFlag flags udp2FlagAckVec)

def sectionFlag (present : Bool) (flag : UInt16) : UInt16 := if present then flag else 0

def Udp2Packet.expectedFlags (packet : Udp2Packet) : UInt16 :=
  sectionFlag packet.ack.isSome udp2FlagAck |||
    sectionFlag packet.overheadSize.isSome udp2FlagOverheadSize |||
    sectionFlag packet.delayAckInfo.isSome udp2FlagDelayAckInfo |||
    sectionFlag packet.ackOfAcksSequenceNumber.isSome udp2FlagAoa |||
    sectionFlag packet.dataSequenceNumber.isSome udp2FlagData |||
    sectionFlag packet.ackVector.isSome udp2FlagAckVec

def Udp2Ack.valid (ack : Udp2Ack) : Bool :=
  decide (ack.receivedTimestamp ≤ 0xffffff) &&
    decide (ack.delayedAckTimeAdditions.length ≤ 15) && decide (ack.delayedAckTimeScale ≤ 15)

def Udp2AckVector.valid (ackVector : Udp2AckVector) : Bool :=
  decide (ackVector.codedAckVector.length ≤ 0x7f) &&
    ackVector.timestamp.all fun timestamp => decide (timestamp.1 ≤ 0xffffff)

/-- `rdp_udp2_validate_packet`. -/
def udp2ValidatePacket (packet : Udp2Packet) : Bool :=
  decide (packet.header.logWindowSize ≤ 15) && !udp2BadFlags packet.header.flags &&
    packet.header.flags == packet.expectedFlags && packet.ack.all Udp2Ack.valid &&
    packet.delayAckInfo.all (fun info => decide (info.1 ≤ 15)) &&
    packet.ackVector.all Udp2AckVector.valid &&
    packet.dataSequenceNumber.isSome == !packet.dataBody.isEmpty

/-- `rdp_udp2_parse_header`; what follows the header is returned with it. -/
def udp2ParseHeader (data : Bytes) : Attempt (Udp2Header × Bytes) := do
  let (raw, stream) ← readU16Le data
  let flags := raw &&& 0x0fff
  if udp2BadFlags flags then refuse .protocolError
  else pure ({ flags, logWindowSize := raw.toNat / 4096 }, stream)

/-- `rdp_udp_read_u24_le` of the next three bytes. -/
def readU24Le (stream : Bytes) : Attempt (Nat × Bytes) := do
  let (low, stream) ← readU16Le stream
  let (high, stream) ← readU8 stream
  pure (low.toNat + 65536 * high.toNat, stream)

/-- `rdp_udp2_parse_ack`. -/
def udp2ParseAck (stream : Bytes) : Attempt (Udp2Ack × Bytes) := do
  let (sequenceNumber, stream) ← readU16Le stream
  let (receivedTimestamp, stream) ← readU24Le stream
  let (sendAckTimeGapMs, stream) ← readU8 stream
  let (packed, stream) ← readU8 stream
  let (delayedAckTimeAdditions, stream) ← readBytes stream (packed.toNat % 16)
  pure ({ sequenceNumber, receivedTimestamp, sendAckTimeGapMs
          delayedAckTimeScale := packed.toNat / 16, delayedAckTimeAdditions }, stream)

/-- `rdp_udp2_parse_ack_vector_payload`. -/
def udp2ParseAckVectorPayload (stream : Bytes) : Attempt (Udp2AckVector × Bytes) := do
  let (baseSequenceNumber, stream) ← readU16Le stream
  let (packed, stream) ← readU8 stream
  let (timestamp, stream) ←
    if packed.toNat / 128 = 1 then do
      let (timestamp, stream) ← readU24Le stream
      let (sendAckTimeGapMs, stream) ← readU8 stream
      pure (some (timestamp, sendAckTimeGapMs), stream)
    else pure (none, stream)
  let (codedAckVector, stream) ← readBytes stream (packed.toNat % 128)
  pure ({ baseSequenceNumber, timestamp, codedAckVector }, stream)

/-- The delayed acknowledgement section: at most fifteen acknowledgements and a timeout. -/
def udp2ParseDelayAckInfo (stream : Bytes) : Attempt ((UInt8 × UInt16) × Bytes) := do
  let (maxDelayedAcks, stream) ← readU8 stream
  if maxDelayedAcks > 15 then refuse .protocolError
  else
    let (delayedAckTimeoutMs, stream) ← readU16Le stream
    pure ((maxDelayedAcks, delayedAckTimeoutMs), stream)

def udp2Section {α : Type} (flags flag : UInt16) (read : Bytes → Attempt (α × Bytes))
    (stream : Bytes) : Attempt (Option α × Bytes) :=
  if hasFlag flags flag then do
    let (value, stream) ← read stream
    pure (some value, stream)
  else .ok (none, stream)

/-- `rdp_udp2_parse_packet`. -/
def udp2ParsePacket (data : Bytes) : Attempt Udp2Packet := do
  let (header, stream) ← udp2ParseHeader data
  let (ack, stream) ← udp2Section header.flags udp2FlagAck udp2ParseAck stream
  let (overheadSize, stream) ← udp2Section header.flags udp2FlagOverheadSize readU8 stream
  let (delayAckInfo, stream) ←
    udp2Section header.flags udp2FlagDelayAckInfo udp2ParseDelayAckInfo stream
  let (ackOfAcksSequenceNumber, stream) ← udp2Section header.flags udp2FlagAoa readU16Le stream
  let (dataSequenceNumber, stream) ← udp2Section header.flags udp2FlagData readU16Le stream
  let (ackVector, stream) ←
    udp2Section header.flags udp2FlagAckVec udp2ParseAckVectorPayload stream
  if dataSequenceNumber.isNone ∧ stream.length ≠ 0 then refuse .protocolError
  else
    let packet : Udp2Packet :=
      { header, ack, overheadSize, delayAckInfo, ackOfAcksSequenceNumber, dataSequenceNumber
        ackVector, dataBody := stream }
    if !udp2ValidatePacket packet then refuse .protocolError
    else pure packet

/-- `rdp_udp2_classify_packet`. -/
def udp2ClassifyPacket (packet : Udp2Packet) : Attempt Udp2PacketKind :=
  if !udp2ValidatePacket packet then refuse .protocolError
  else if packet.dataSequenceNumber.isSome ∧ (packet.ack.isSome ∨ packet.ackVector.isSome ∨
      packet.ackOfAcksSequenceNumber.isSome) then .ok .dataWithAck
  else if packet.dataSequenceNumber.isSome then .ok .data
  else if packet.ackVector.isSome then .ok .ackVector
  else if packet.ack.isSome then .ok .ack
  else if packet.ackOfAcksSequenceNumber.isSome then .ok .ackOfAcks
  else .ok .control

/-- The bits of a bitmap entry that are set: the loop of `rdp_udp2_ack_vector_count`. -/
def bitmapReceived (bitmap : Nat) : Nat :=
  (List.range 7).countP fun bit => bitmap / 2 ^ bit % 2 = 1

/-- `rdp_udp2_ack_vector_count`, with `rdp_udp2_ack_vector_decode_entry`: the packets that the
    entries, runs or bitmaps of seven, call received and lost. -/
def udp2AckVectorCount : Bytes → Nat × Nat
  | [] => (0, 0)
  | value :: vector =>
      let (received, lost) := udp2AckVectorCount vector
      if value.toNat / 128 = 1 then
        let run := value.toNat % 64 + 1
        if value.toNat / 64 % 2 = 1 then (received + run, lost) else (received, lost + run)
      else
        let bits := bitmapReceived (value.toNat % 128)
        (received + bits, lost + (7 - bits))

def u24LeBytes (v : Nat) : Bytes :=
  [UInt8.ofNat v, UInt8.ofNat (v / 256), UInt8.ofNat (v / 65536)]

/-- `rdp_udp2_write_ack`. -/
def udp2WriteAck (ack : Udp2Ack) : Bytes :=
  u16LeBytes ack.sequenceNumber.toNat ++ u24LeBytes ack.receivedTimestamp ++
    [ack.sendAckTimeGapMs,
      UInt8.ofNat (ack.delayedAckTimeAdditions.length + 16 * ack.delayedAckTimeScale)] ++
    ack.delayedAckTimeAdditions

/-- `rdp_udp2_write_ack_vector_payload`. -/
def udp2WriteAckVectorPayload (ackVector : Udp2AckVector) : Bytes :=
  let size := ackVector.codedAckVector.length
  let stamp := match ackVector.timestamp with
    | none => [UInt8.ofNat size]
    | some (timestamp, gap) => UInt8.ofNat (size + 128) :: u24LeBytes timestamp ++ [gap]
  u16LeBytes ackVector.baseSequenceNumber.toNat ++ stamp ++ ackVector.codedAckVector

/-- `rdp_udp2_write_packet`; a section that is missing is written as nothing. -/
def udp2WritePacket (packet : Udp2Packet) : Attempt Bytes :=
  if !udp2ValidatePacket packet then refuse .invalidArgument
  else
    let raw := packet.header.flags.toNat + 4096 * packet.header.logWindowSize
    let delayInfo := fun (info : UInt8 × UInt16) => info.1 :: u16LeBytes info.2.toNat
    let number := fun (sequence : UInt16) => u16LeBytes sequence.toNat
    .ok (u16LeBytes raw ++ packet.ack.elim [] udp2WriteAck ++
      packet.overheadSize.elim [] (fun size => [size]) ++ packet.delayAckInfo.elim [] delayInfo ++
      packet.ackOfAcksSequenceNumber.elim [] number ++ packet.dataSequenceNumber.elim [] number ++
      packet.ackVector.elim [] udp2WriteAckVectorPayload ++ packet.dataBody)

/-- `rdp_udp2_write_ack_packet`. -/
def udp2WriteAckPacket (logWindowSize : Nat) (ack : Udp2Ack) : Attempt Bytes :=
  if !ack.valid then refuse .invalidArgument
  else udp2WritePacket { header := { flags := udp2FlagAck, logWindowSize }, ack := some ack }

/-- `rdp_udp2_write_ack_vector_packet`. -/
def udp2WriteAckVectorPacket (logWindowSize : Nat) (ackVector : Udp2AckVector) : Attempt Bytes :=
  if !ackVector.valid then refuse .invalidArgument
  else udp2WritePacket
    { header := { flags := udp2FlagAckVec, logWindowSize }, ackVector := some ackVector }

/-- `rdp_udp2_prefix`. -/
structure Udp2Prefix where
  packetType : Nat
  shortPacketLength : Nat
  deriving Repr, DecidableEq

/-- `rdp_udp2_parse_prefix`. -/
def udp2ParsePrefix (value : UInt8) : Attempt Udp2Prefix :=
  let packetType := value.toNat / 2 % 16
  let shortPacketLength := value.toNat / 32
  if value.toNat % 2 ≠ 0 then refuse .protocolError
  else if packetType ≠ udp2PacketTypeData ∧ packetType ≠ udp2PacketTypeDummy then
    refuse .protocolError
  else if packetType = udp2PacketTypeData ∧ shortPacketLength = 0 then refuse .protocolError
  else .ok { packetType, shortPacketLength }

/-- `rdp_udp2_wrap_packet`: the padded packet with its seventh byte in front and the prefix in
    its place. -/
def udp2WrapPacket (memory : Bool) (packet : Bytes) (packetType : Nat) : Attempt Bytes :=
  if (packetType ≠ udp2PacketTypeData ∧ packetType ≠ udp2PacketTypeDummy) ∨
      packet.length > 65535 ∨ (packetType = udp2PacketTypeData ∧ packet.length = 0) then
    refuse .invalidArgument
  else
    let padded := packet ++ List.replicate (7 - packet.length) 0
    let leading := UInt8.ofNat (2 * packetType + 32 * min packet.length 7)
    buffered memory (padded.getD 6 0 :: padded.take 6 ++ leading :: padded.drop 7)

/-- `rdp_udp2_unwrap_packet`: the bytes of the packet and its prefix. -/
def udp2UnwrapPacket (memory : Bool) (wire : Bytes) : Attempt (Bytes × Udp2Prefix) :=
  if wire.length ≤ 7 then refuse .invalidArgument
  else do
    let start ← udp2ParsePrefix (wire.getD 7 0)
    let first := wire.getD 0 0
    let inner := (wire.take 7).drop 1
    if 0 < start.shortPacketLength ∧ start.shortPacketLength < 7 then
      if wire.length ≠ 8 ∨ first ≠ 0 ∨ (inner.drop start.shortPacketLength).any (· ≠ 0) then
        refuse .protocolError
      else
        let packet ← buffered memory (inner.take start.shortPacketLength)
        pure (packet, start)
    else if start.shortPacketLength = 0 ∧ wire.length = 8 ∧ first = 0 then
      if inner.any (· ≠ 0) then refuse .protocolError else pure ([], start)
    else
      let packet ← buffered memory (inner ++ first :: wire.drop 8)
      pure (packet, start)

@[simp] theorem honest_readU24Le (stream : Bytes) : Honest (readU24Le stream) := by
  simp [readU24Le]

@[simp] theorem honest_parseHeader (data : Bytes) : Honest (udp2ParseHeader data) := by
  simp [udp2ParseHeader]

@[simp] theorem honest_parseAck (stream : Bytes) : Honest (udp2ParseAck stream) := by
  simp [udp2ParseAck]

@[simp] theorem honest_parseAckVectorPayload (stream : Bytes) :
    Honest (udp2ParseAckVectorPayload stream) := by
  simp [udp2ParseAckVectorPayload]

@[simp] theorem honest_parseDelayAckInfo (stream : Bytes) :
    Honest (udp2ParseDelayAckInfo stream) := by
  simp [udp2ParseDelayAckInfo]

theorem honest_section {α : Type} {flags flag : UInt16} {read : Bytes → Attempt (α × Bytes)}
    {stream : Bytes} (reads : Honest (read stream)) :
    Honest (udp2Section flags flag read stream) := by
  simp [udp2Section, reads]

@[simp] theorem honest_parsePacket (data : Bytes) : Honest (udp2ParsePacket data) := by
  simp [udp2ParsePacket, honest_section]

@[simp] theorem honest_classifyPacket (packet : Udp2Packet) :
    Honest (udp2ClassifyPacket packet) := by
  simp [udp2ClassifyPacket]

@[simp] theorem honest_writePacket (packet : Udp2Packet) :
    Honest (udp2WritePacket packet) := by
  simp [udp2WritePacket]

@[simp] theorem honest_parsePrefix (value : UInt8) : Honest (udp2ParsePrefix value) := by
  simp [udp2ParsePrefix]

@[simp] theorem honest_wrapPacket (memory : Bool) (packet : Bytes) (packetType : Nat) :
    Honest (udp2WrapPacket memory packet packetType) := by
  simp [udp2WrapPacket]

@[simp] theorem honest_unwrapPacket (memory : Bool) (wire : Bytes) :
    Honest (udp2UnwrapPacket memory wire) := by
  simp [udp2UnwrapPacket]

end LibRdp.Transport
