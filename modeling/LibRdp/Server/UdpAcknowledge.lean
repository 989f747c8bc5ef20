import LibRdp.Server.UdpReceive
import LibRdp.Transport.UdpRoundTrip

/-! # What the responses to data say

A response speaks of sequence numbers: an acknowledgement of one number, a UDP2 vector of
the numbers from its base on, an RDPEUDP vector of the numbers up to the acknowledged one.
Read this way, a response should call the packet it answers received and the packets before
it that are still expected missing.
-/

namespace LibRdp.Server

open Machine Transport

def udp2ReadResponse (response : Bytes) : Attempt Udp2Packet := do
  let (bytes, _) ← udp2UnwrapPacket true response
  udp2ParsePacket bytes

/-- What a UDP2 packet says of a number: `true` for received, `false` for missing. -/
def udp2Tells (packet : Udp2Packet) (number : BitVec 16) : Option Bool :=
  match packet.ack, packet.ackVector with
  | some ack, _ => if number = ack.sequenceNumber.toBitVec then some true else none
  | none, some vector =>
      stateAt vector.baseSequenceNumber.toBitVec (udp2VectorStates vector.codedAckVector) number
  | none, none => none

def udpReadResponse (response : Bytes) : Attempt (UdpFecHeader × Bytes) := do
  let (header, payload) ← udpParseFecHeader response
  let vector ← udpParseAckVector payload
  pure (header, vector)

/-- What an RDPEUDP vector says of a number; its last packet is the acknowledged one. -/
def udpTells (header : UdpFecHeader) (vector : Bytes) (number : BitVec 32) : Option Bool :=
  let states := udpVectorStates vector
  stateAt (header.sourceAck.toBitVec - BitVec.ofNat 32 (states.length - 1)) states number

/-- The numbers from the expected one up to a packet that is ahead of it. -/
def Missing {w : Nat} (started : Bool) (expected sequence number : BitVec w) : Prop :=
  started ∧ Serial.distance expected sequence < 2 ^ (w - 1) ∧
    Serial.distance expected number < Serial.distance expected sequence

def Ahead {w : Nat} (started : Bool) (expected sequence : BitVec w) : Prop :=
  started ∧ 0 < Serial.distance expected sequence ∧
    Serial.distance expected sequence < 2 ^ (w - 1)

variable {started memory : Bool} {packet : Udp2Packet} {response vector bytes : Bytes}
  {logWindowSize : Nat} {sequence window : UInt16} {datagram : Udp2Datagram} {header : UdpFecHeader}
  {mode : UdpMode}

theorem Missing.ahead {w : Nat} {expected sequence number : BitVec w}
    (missing : Missing started expected sequence number) : Ahead started expected sequence := by
  refine ⟨missing.1, ?_, missing.2.1⟩
  have before := missing.2.2
  omega

structure Reports {w : Nat} (tells : BitVec w → Option Bool) (started : Bool)
    (expected sequence : BitVec w) : Prop where
  received : tells sequence = some true
  missing : ∀ number, tells number = some false ↔ Missing started expected sequence number

theorem wrapPacket_memory {packet wire : Bytes} {packetType : Nat}
    (wrapped : udp2WrapPacket memory packet packetType = .ok wire) :
    udp2WrapPacket true packet packetType = .ok wire := by
  unfold udp2WrapPacket at *
  split at wrapped
  · exact nomatch wrapped
  rename_i fits
  rw [if_neg fits, buffered_ok wrapped]
  exact buffered_true _

theorem acknowledge_reads {memory : Udp2Memory}
    (written : udp2Acknowledge memory (udp2WritePacket packet) = .ok response) :
    udp2ReadResponse response = .ok packet := by
  obtain ⟨bytes, wrote, rest⟩ := bind_eq_ok.mp written
  obtain ⟨bytes', held, wrapped⟩ := bind_eq_ok.mp rest
  have same := buffered_ok held
  subst same
  obtain ⟨start, unwrapped, -⟩ := unwrap_wrap_packet (wrapPacket_memory wrapped)
  simp only [udp2ReadResponse, unwrapped, ok_bind, parse_write wrote]

theorem ackResponse_reads {memory : Udp2Memory}
    (written : udp2AckResponse memory logWindowSize sequence = .ok response) :
    udp2ReadResponse response =
      .ok { header := { flags := udp2FlagAck, logWindowSize }
            ack := some { sequenceNumber := sequence } } :=
  acknowledge_reads written

variable {lost : Nat} {expected : UInt16}

theorem ackVectorResponse_reads {memory : Udp2Memory} (small : lost ≤ maxReportableGap)
    (written : udp2AckVectorResponse memory logWindowSize expected lost = .ok response) :
    ∃ runs, udp2VectorStates runs = List.replicate lost false ∧
      udp2ReadResponse response =
        .ok { header := { flags := udp2FlagAckVec, logWindowSize }
              ackVector := some { baseSequenceNumber := expected, codedAckVector := runs } } := by
  have states := ackVectorRuns_states udp2_missing_entry ackVectorEncodedMaxSize lost
  rw [Nat.min_eq_left (by exact small)] at states
  have size := ackVectorRuns_length 0x80 ackVectorEncodedMaxSize lost
  refine ⟨_, states, ?_⟩
  unfold udp2AckVectorResponse at written
  simp only at written
  split at written
  · exact nomatch written
  have valid : Udp2AckVector.valid { baseSequenceNumber := expected, codedAckVector :=
      (ackVectorRuns 0x80 ackVectorEncodedMaxSize lost).1 } = true := by
    simp only [Udp2AckVector.valid, size, Option.all_none, Bool.and_true, decide_eq_true_eq]
    exact Nat.min_le_left ..
  simp only [udp2WriteAckVectorPacket, valid, Bool.not_true, Bool.false_eq_true, if_false]
    at written
  exact acknowledge_reads written

theorem ack_reports (acks : packet.ack = some { sequenceNumber := sequence })
    (noGap : ∀ number, ¬ Missing started expected.toBitVec sequence.toBitVec number) :
    Reports (udp2Tells packet) started expected.toBitVec sequence.toBitVec where
  received := by simp [udp2Tells, acks]
  missing number := by
    have never : udp2Tells packet number ≠ some false := by
      simp only [udp2Tells, acks]
      split <;> exact nofun
    exact iff_of_false never (noGap number)

theorem lost_vector_silent {runs : Bytes} (noAck : packet.ack = none) (vector : packet.ackVector =
      some { baseSequenceNumber := expected, codedAckVector := runs })
    (states : udp2VectorStates runs =
      List.replicate (Serial.distance expected.toBitVec sequence.toBitVec) false) :
    udp2Tells packet sequence.toBitVec = none := by
  simp only [udp2Tells, noAck, vector, stateAt, states]
  rw [List.getElem?_eq_none (by simp)]

@[grind =] theorem distance_uint16 (expected sequence : UInt16) :
    Serial.distance expected.toBitVec sequence.toBitVec = (sequence - expected).toNat := rfl

@[grind =] theorem distance_uint32 (expected sequence : UInt32) :
    Serial.distance expected.toBitVec sequence.toBitVec = (sequence - expected).toNat := rfl

theorem arrival_notAhead {window : Udp2Window}
    (arrives : window.arrival sequence logWindowSize = .taken ∨
      window.arrival sequence logWindowSize = .stale) :
    ¬ Ahead window.windowStarted window.nextReceiveSequence.toBitVec sequence.toBitVec := by
  unfold Udp2Window.arrival at arrives
  unfold Ahead
  grind

theorem arrival_gap {window : Udp2Window}
    (arrives : window.arrival sequence logWindowSize = .gap lost) :
    lost = Serial.distance window.nextReceiveSequence.toBitVec sequence.toBitVec ∧
      lost ≤ maxReportableGap ∧
      Ahead window.windowStarted window.nextReceiveSequence.toBitVec sequence.toBitVec := by
  unfold Udp2Window.arrival at arrives
  unfold Ahead
  grind

variable {reordered gap pending dropped : Nat} {peer : UdpPeer}

theorem stage2_reports {window next : Udp2Window} {memory : Udp2Memory} {vector : Bool}
    (carries : datagram.data = some (sequence, logWindowSize))
    (staged : window.stage memory datagram = .ok (.accepted next lost reordered vector response)) :
    ∃ packet, udp2ReadResponse response = .ok packet ∧
      (Reports (udp2Tells packet) window.windowStarted window.nextReceiveSequence.toBitVec
        sequence.toBitVec ↔
      ¬ Ahead window.windowStarted window.nextReceiveSequence.toBitVec sequence.toBitVec) := by
  simp only [Udp2Window.stage, carries] at staged
  split at staged
  · rename_i arrives
    obtain ⟨response', wrote, accepted⟩ := bind_eq_ok.mp staged
    cases accepted
    have noGap := arrival_notAhead (.inl arrives)
    exact ⟨_, ackResponse_reads wrote,
      iff_of_true (ack_reports rfl fun _ missing => noGap missing.ahead) noGap⟩
  · rename_i gap arrives
    obtain ⟨response', wrote, accepted⟩ := bind_eq_ok.mp staged
    cases accepted
    obtain ⟨isDistance, small, ahead⟩ := arrival_gap arrives
    obtain ⟨runs, states, reads⟩ := ackVectorResponse_reads small wrote
    rw [isDistance] at states
    refine ⟨_, reads, iff_of_false ?_ (fun behind => behind ahead)⟩
    intro reports
    have silent := reports.received
    rw [lost_vector_silent rfl rfl states] at silent
    cases silent
  · rename_i arrives
    obtain ⟨response', wrote, accepted⟩ := bind_eq_ok.mp staged
    cases accepted
    have noGap := arrival_notAhead (.inr arrives)
    exact ⟨_, ackResponse_reads wrote,
      iff_of_true (ack_reports rfl fun _ missing => noGap missing.ahead) noGap⟩
  · cases staged

theorem parseAckVector_write (wrote : udpWriteAckVector vector = .ok bytes) :
    udpParseAckVector bytes = .ok vector := by
  unfold udpWriteAckVector at wrote
  split at wrote
  · exact nomatch wrote
  rename_i fits
  have size : (UInt16.ofNat vector.length).toNat = vector.length := by
    rw [UInt16.toNat_ofNat', udpAckVectorMaxSize] at *
    omega
  have read := readU16Le_append (UInt16.ofNat vector.length)
    (vector ++ List.replicate (ackVectorPadding vector.length) 0)
  rw [size] at read
  rw [← Except.ok.inj wrote, List.append_assoc]
  simp only [udpParseAckVector, read, ok_bind, size, if_neg fits, readBytes_append]
  simp

theorem parseFecHeader_write (wrote : udpWriteFecHeader header = .ok bytes) (rest : Bytes) :
    udpParseFecHeader (bytes ++ rest) = .ok (header, rest) := by
  unfold udpWriteFecHeader at wrote
  split at wrote
  · exact nomatch wrote
  rename_i flags
  rw [← Except.ok.inj wrote]
  simp only [udpParseFecHeader, List.append_assoc, readU32Le_append, readU16Le_append,
    ok_bind, if_neg flags, attempt_pure]

theorem writeAckVectorResponse_reads {sourceAck : UInt32}
    (wrote : udpWriteAckVectorResponse memory sourceAck window gap = .ok response) :
    ∃ header vector, udpReadResponse response = .ok (header, vector) ∧
      header.sourceAck = sourceAck ∧
      udpVectorStates vector = List.replicate gap false ++ [true] := by
  simp only [udpWriteAckVectorResponse, refuse_else, bind_eq_ok] at wrote
  obtain ⟨small, -, head, wroteHead, tail, wroteTail, held⟩ := wrote
  have states := ackVectorRuns_states udp_pending_entry ackVectorEncodedMaxSize gap
  rw [Nat.min_eq_left (by exact Nat.le_of_not_gt small)] at states
  have reads := parseFecHeader_write wroteHead tail
  have vector := parseAckVector_write wroteTail
  rw [buffered_ok held]
  simp only [udpReadResponse, reads, ok_bind, vector, attempt_pure]
  refine ⟨_, _, rfl, rfl, ?_⟩
  rw [udpVectorStates, List.flatMap_append, states]
  rfl

/-- The states of a response are those of the `gap` numbers before the acknowledged one. -/
theorem udpTells_false_iff {number : BitVec 32}
    (states : udpVectorStates vector = List.replicate gap false ++ [true]) :
    udpTells header vector number = some false ↔
      Serial.distance (header.sourceAck.toBitVec - BitVec.ofNat 32 gap) number < gap := by
  have size : (List.replicate gap false ++ [true]).length - 1 = gap := by simp
  simp only [udpTells, stateAt, states, size]
  constructor
  · intro told
    rw [List.getElem?_append] at told
    split at told
    · rename_i before
      simpa using before
    rename_i after
    rw [List.getElem?_singleton] at told
    split at told <;> exact nomatch told
  · intro before
    rw [List.getElem?_append_left (by simpa using before), List.getElem?_replicate, if_pos before]

theorem udpTells_received (small : gap < 2 ^ 32)
    (states : udpVectorStates vector = List.replicate gap false ++ [true]) :
    udpTells header vector header.sourceAck.toBitVec = some true := by
  have size : (List.replicate gap false ++ [true]).length - 1 = gap := by simp
  have last : Serial.distance (header.sourceAck.toBitVec - BitVec.ofNat 32 gap)
      header.sourceAck.toBitVec = gap := by
    rw [Serial.distance, sub_sub_cancel, BitVec.toNat_ofNat, Nat.mod_eq_of_lt small]
  simp only [udpTells, stateAt, states, size, last]
  simp

theorem udpArrival_stale {sequence : UInt32}
    (arrives : mode.arrival true sequence window = .stale) :
    ¬ Ahead mode.windowStarted mode.nextReceiveSequence.toBitVec sequence.toBitVec := by
  unfold UdpMode.arrival at arrives
  unfold Ahead
  grind

theorem udpArrival_taken {sequence : UInt32}
    (arrives : mode.arrival true sequence window = .taken pending dropped) :
    (pending = 0 ∧
      ¬ Ahead mode.windowStarted mode.nextReceiveSequence.toBitVec sequence.toBitVec) ∨
    (pending = Serial.distance mode.nextReceiveSequence.toBitVec sequence.toBitVec ∧
      Ahead mode.windowStarted mode.nextReceiveSequence.toBitVec sequence.toBitVec) := by
  unfold UdpMode.arrival at arrives
  unfold Ahead
  grind

theorem udp_reports_noGap {expected sequence : UInt32} (acks : header.sourceAck = sequence)
    (states : udpVectorStates vector = List.replicate 0 false ++ [true])
    (noGap : ¬ Ahead started expected.toBitVec sequence.toBitVec) :
    Reports (udpTells header vector) started expected.toBitVec sequence.toBitVec where
  received := by
    rw [← acks]
    exact udpTells_received (by decide) states
  missing number := by
    rw [udpTells_false_iff states]
    exact iff_of_false (Nat.not_lt_zero _) (fun missing => noGap missing.ahead)

theorem udp_reports_gap {expected sequence : UInt32} (acks : header.sourceAck = sequence)
    (states : udpVectorStates vector =
      List.replicate (Serial.distance expected.toBitVec sequence.toBitVec) false ++ [true])
    (ahead : Ahead started expected.toBitVec sequence.toBitVec) :
    Reports (udpTells header vector) started expected.toBitVec sequence.toBitVec where
  received := by
    rw [← acks] at states ⊢
    exact udpTells_received (BitVec.isLt _) states
  missing number := by
    have base : sequence.toBitVec -
        BitVec.ofNat 32 (Serial.distance expected.toBitVec sequence.toBitVec) =
        expected.toBitVec := by
      rw [Serial.distance, BitVec.ofNat_toNat, BitVec.setWidth_eq, sub_sub_cancel]
    rw [udpTells_false_iff states, acks, base]
    constructor
    · intro before
      exact ⟨ahead.1, ahead.2.2, before⟩
    · intro missing
      exact missing.2.2

theorem stage_reports {next : UdpMode} {sequence : UInt32} {ackVectors : Nat}
    (staged : mode.stage memory true (.data sequence window) =
      .ok (.accepted next ackVectors pending dropped reordered response)) :
    ∃ header vector, udpReadResponse response = .ok (header, vector) ∧
      Reports (udpTells header vector) mode.windowStarted mode.nextReceiveSequence.toBitVec
        sequence.toBitVec := by
  simp only [UdpMode.stage] at staged
  split at staged
  · rename_i arrives
    obtain ⟨response', wrote, accepted⟩ := bind_eq_ok.mp staged
    cases accepted
    obtain ⟨header, vector, reads, acks, states⟩ := writeAckVectorResponse_reads wrote
    refine ⟨header, vector, reads, ?_⟩
    cases udpArrival_taken arrives with
    | inl noGap =>
      rw [noGap.1] at states
      exact udp_reports_noGap acks states noGap.2
    | inr gap =>
      rw [gap.1] at states
      exact udp_reports_gap acks states gap.2
  · rename_i arrives
    obtain ⟨response', wrote, accepted⟩ := bind_eq_ok.mp staged
    cases accepted
    obtain ⟨header, vector, reads, acks, states⟩ := writeAckVectorResponse_reads wrote
    exact ⟨header, vector, reads, udp_reports_noGap acks states (udpArrival_stale arrives)⟩
  · cases staged

def Udp2Memory.all : Udp2Memory := { packetBytes := true, responsePacket := true, ackWire := true }

theorem parsePacket_window (parsed : udp2ParsePacket bytes = .ok packet) :
    packet.header.logWindowSize ≤ 15 := by
  have checked : udp2ValidatePacket packet = true := by
    simp only [udp2ParsePacket, bind_eq_ok] at parsed
    obtain ⟨_, -, _, -, _, -, _, -, _, -, _, -, _, -, ends⟩ := parsed
    split at ends
    · cases ends
    split at ends
    · cases ends
    rename_i valid
    cases ends
    simpa using valid
  simp only [udp2ValidatePacket, Bool.and_eq_true, decide_eq_true_eq] at checked
  exact checked.1.1.1.1.1.1

theorem parseUdp2Datagram_window (parsed : udp2ParseDatagram memory bytes = .ok datagram)
    (carries : datagram.data = some (sequence, logWindowSize)) : logWindowSize ≤ 15 := by
  obtain ⟨⟨inner, start⟩, -, rest⟩ := bind_eq_ok.mp parsed
  simp only at rest
  split at rest
  · cases rest
    exact nomatch carries
  obtain ⟨packet, parsedPacket, rest⟩ := bind_eq_ok.mp rest
  obtain ⟨kind, -, rest⟩ := bind_eq_ok.mp rest
  cases rest
  simp only [Option.map_eq_some_iff, Prod.mk.injEq] at carries
  obtain ⟨number, -, -, same⟩ := carries
  rw [← same]
  exact parsePacket_window parsedPacket

theorem wrapPacket_ok {packet : Bytes} (some : packet.length ≠ 0)
    (small : packet.length ≤ 65535) :
    ∃ wire, udp2WrapPacket true packet udp2PacketTypeData = .ok wire := by
  unfold udp2WrapPacket
  rw [if_neg (by omega)]
  exact ⟨_, buffered_true _⟩

theorem writeAckVectorPacket_ok {vector : Udp2AckVector} (window : logWindowSize ≤ 15)
    (valid : vector.valid) (plain : vector.timestamp = none) :
    ∃ bytes, udp2WriteAckVectorPacket logWindowSize vector = .ok bytes ∧
      bytes.length = 5 + vector.codedAckVector.length := by
  have flags : udp2BadFlags udp2FlagAckVec = false := by decide
  have whole : udp2ValidatePacket
      { header := { flags := udp2FlagAckVec, logWindowSize }, ackVector := some vector } = true := by
    simp [udp2ValidatePacket, window, flags, Udp2Packet.expectedFlags, sectionFlag, valid]
  refine ⟨u16LeBytes (udp2FlagAckVec.toNat + 4096 * logWindowSize) ++
    udp2WriteAckVectorPayload vector, ?_, ?_⟩
  · simp [udp2WriteAckVectorPacket, valid, udp2WritePacket, whole]
  · simp [udp2WriteAckVectorPayload, plain]
    omega

theorem ackVectorResponse_ok (expected : UInt16) (window : logWindowSize ≤ 15)
    (small : lost ≤ maxReportableGap) :
    ∃ response, udp2AckVectorResponse .all logWindowSize expected lost = .ok response := by
  have left : (ackVectorRuns 0x80 ackVectorEncodedMaxSize lost).2 = 0 := by
    rw [ackVectorRuns_left]
    exact Nat.sub_eq_zero_of_le small
  have short : (ackVectorRuns 0x80 ackVectorEncodedMaxSize lost).1.length ≤ 127 := by
    rw [ackVectorRuns_length]
    exact Nat.min_le_left ..
  have valid : Udp2AckVector.valid { baseSequenceNumber := expected, codedAckVector :=
      (ackVectorRuns 0x80 ackVectorEncodedMaxSize lost).1 } = true := by
    simpa [Udp2AckVector.valid] using short
  obtain ⟨bytes, written, size⟩ := writeAckVectorPacket_ok window valid rfl
  have bounded : bytes.length ≤ 65535 := by
    simp only at size
    omega
  obtain ⟨wire, wrapped⟩ := wrapPacket_ok (by omega) bounded
  refine ⟨wire, ?_⟩
  simp only [udp2AckVectorResponse, left, udp2Acknowledge, written, ok_bind,
    Udp2Memory.all, buffered_true, wrapped]
  rfl

theorem arrival_of_ahead {window : Udp2Window}
    (ahead : Ahead window.windowStarted window.nextReceiveSequence.toBitVec sequence.toBitVec)
    (near : Serial.distance window.nextReceiveSequence.toBitVec sequence.toBitVec ≤
      reportable (2 ^ logWindowSize)) :
    window.arrival sequence logWindowSize =
      .gap (Serial.distance window.nextReceiveSequence.toBitVec sequence.toBitVec) := by
  unfold Udp2Window.arrival
  unfold Ahead at ahead
  unfold reportable at near
  grind

theorem writeAckVectorResponse_iff {sourceAck : UInt32} {window : UInt16} {gap : Nat}
    (small : gap ≤ maxReportableGap) :
    (∃ response, udpWriteAckVectorResponse true sourceAck window gap = .ok response) ↔
      gap ≤ 8064 := by
  have left : (ackVectorRuns (64 * udpAckVectorStatePending) ackVectorEncodedMaxSize gap).2 =
      0 := by
    rw [ackVectorRuns_left]
    exact Nat.sub_eq_zero_of_le small
  have size := ackVectorRuns_length (64 * udpAckVectorStatePending) ackVectorEncodedMaxSize gap
  have most : ackVectorEncodedMaxSize = 127 := rfl
  unfold udpWriteAckVectorResponse
  rw [if_neg (Nat.not_lt.mpr small)]
  simp only [left]
  constructor
  · rintro ⟨response, wrote⟩
    split at wrote
    · exact nomatch wrote
    · rename_i room
      omega
  · intro within
    have room : ¬ (0 ≠ 0 ∨ (ackVectorRuns (64 * udpAckVectorStatePending)
        ackVectorEncodedMaxSize gap).1.length ≥ ackVectorEncodedMaxSize) := by omega
    have flags : udpValidFlags (udpFlagAck ||| udpFlagSackOption) = true := by decide
    have fits : ¬ ((ackVectorRuns (64 * udpAckVectorStatePending)
        ackVectorEncodedMaxSize gap).1 ++ [0]).length > udpAckVectorMaxSize := by
      rw [List.length_append, List.length_singleton, udpAckVectorMaxSize]
      omega
    rw [if_neg room]
    simp only [udpWriteFecHeader, flags, Bool.not_true, Bool.false_eq_true, if_false,
      ok_bind, udpWriteAckVector, if_neg fits, buffered_true]
    exact ⟨_, rfl⟩

theorem udpArrival_of_ahead {sequence : UInt32}
    (ahead : Ahead mode.windowStarted mode.nextReceiveSequence.toBitVec sequence.toBitVec)
    (near : Serial.distance mode.nextReceiveSequence.toBitVec sequence.toBitVec ≤
      reportable window.toNat) :
    mode.arrival true sequence window =
      .taken (Serial.distance mode.nextReceiveSequence.toBitVec sequence.toBitVec) 0 := by
  unfold UdpMode.arrival
  unfold Ahead at ahead
  unfold reportable at near
  grind

theorem udp2_gap_answered (passes : udp2Gate bytes peer = none)
    (parsed : udp2ParseDatagram true bytes = .ok datagram)
    (carries : datagram.data = some (sequence, logWindowSize))
    (ahead : Ahead peer.udp2.windowStarted peer.udp2.nextReceiveSequence.toBitVec
      sequence.toBitVec)
    (near : Serial.distance peer.udp2.nextReceiveSequence.toBitVec sequence.toBitVec ≤
      reportable (2 ^ logWindowSize)) :
    ∃ enough, ∀ capacity, enough ≤ capacity →
      (processUdp2Datagram .all peer bytes capacity).1.status = .ok := by
  have small : Serial.distance peer.udp2.nextReceiveSequence.toBitVec sequence.toBitVec ≤
      maxReportableGap := Nat.le_trans near (Nat.min_le_right ..)
  have window := parseUdp2Datagram_window parsed carries
  obtain ⟨response, wrote⟩ :=
    ackVectorResponse_ok peer.udp2.nextReceiveSequence window small
  have arrives := arrival_of_ahead ahead near
  refine ⟨response.length, ?_⟩
  intro capacity enough
  have parsedAll : udp2ParseDatagram Udp2Memory.all.packetBytes bytes = .ok datagram := parsed
  rw [processUdp2Datagram_eq]
  apply gated_ready passes ?_ enough
  · exact { peer with
      udp2 :=
        { peer.udp2 with
          active := true, windowStarted := true, logWindowSize
          nextReceiveSequence := sequence + 1, lastReceiveSequence := sequence
          lastPeerAckSequence := datagram.ack.getD peer.udp2.lastPeerAckSequence }
      metrics := peer.metrics.udp2Accepted bytes response datagram
        (Serial.distance peer.udp2.nextReceiveSequence.toBitVec sequence.toBitVec) 0 true }
  · simp only [UdpPeer.udp2Plan, parsedAll, Udp2Window.stage, carries, arrives, wrote,
      ok_bind, attempt_pure]

theorem udp_gap_answered_iff {datagram : Bytes} {sequence : UInt32}
    (passes : udpGate true datagram peer = none)
    (parsed : udpParseDatagram true datagram = .ok (.data sequence window))
    (ahead : Ahead peer.reliable.windowStarted peer.reliable.nextReceiveSequence.toBitVec
      sequence.toBitVec)
    (near : Serial.distance peer.reliable.nextReceiveSequence.toBitVec sequence.toBitVec ≤
      reportable window.toNat) :
    (∃ enough, ∀ capacity, enough ≤ capacity →
      (processUdpDatagramMode true peer true datagram capacity).1.status = .ok) ↔
    Serial.distance peer.reliable.nextReceiveSequence.toBitVec sequence.toBitVec ≤ 8064 := by
  have small : Serial.distance peer.reliable.nextReceiveSequence.toBitVec sequence.toBitVec ≤
      maxReportableGap := Nat.le_trans near (Nat.min_le_right ..)
  have arrives := udpArrival_of_ahead ahead near
  rw [← @writeAckVectorResponse_iff sequence window _ small]
  constructor
  · rintro ⟨enough, answered⟩
    have accepted := answered enough (Nat.le_refl _)
    obtain ⟨response, planned, -⟩ := processUdpDatagramMode_ok rfl accepted
    unfold UdpPeer.udpPlan at planned
    split at planned
    · exact nomatch planned
    · exact nomatch planned
    · exact nomatch planned
    · rename_i found
      rw [parsed, ok_bind] at found
      simp only [UdpMode.stage, UdpPeer.mode, arrives] at found
      obtain ⟨response', wrote, -⟩ := bind_eq_ok.mp found
      exact ⟨response', wrote⟩
  · rintro ⟨response, wrote⟩
    refine ⟨response.length, ?_⟩
    intro capacity enough
    rw [processUdpDatagramMode_eq]
    have planned : ∃ next, peer.udpPlan true true datagram = .ready response next := by
      simp only [UdpPeer.udpPlan, parsed, ok_bind, UdpMode.stage, UdpPeer.mode, arrives,
        wrote, attempt_pure]
      exact ⟨_, rfl⟩
    obtain ⟨next, planned⟩ := planned
    exact gated_ready passes planned enough

/-- Every accepted data packet is acknowledged, except a UDP2 packet that comes after a gap: its
    response reports the gap and not the packet. Every gap within reach is answered, except an
    RDPEUDP gap of more than 126 full runs. -/
theorem data_is_acknowledged_iff (peer : UdpPeer) :
    (∀ memory bytes capacity answer next datagram sequence logWindowSize,
      processUdp2Datagram memory peer bytes capacity = (answer, next) → answer.status = .ok →
      udp2ParseDatagram memory.packetBytes bytes = .ok datagram →
      datagram.data = some (sequence, logWindowSize) →
      ∃ packet, udp2ReadResponse answer.response = .ok packet ∧
        (Reports (udp2Tells packet) peer.udp2.windowStarted
          peer.udp2.nextReceiveSequence.toBitVec sequence.toBitVec ↔
        ¬ Ahead peer.udp2.windowStarted peer.udp2.nextReceiveSequence.toBitVec
          sequence.toBitVec)) ∧
    (∀ memory datagram capacity answer next sequence window,
      processUdpDatagramMode memory peer true datagram capacity = (answer, next) →
      answer.status = .ok → udpParseDatagram true datagram = .ok (.data sequence window) →
      ∃ header vector, udpReadResponse answer.response = .ok (header, vector) ∧
        Reports (udpTells header vector) peer.reliable.windowStarted
          peer.reliable.nextReceiveSequence.toBitVec sequence.toBitVec) ∧
    (∀ bytes datagram sequence logWindowSize, udp2Gate bytes peer = none →
      udp2ParseDatagram true bytes = .ok datagram →
      datagram.data = some (sequence, logWindowSize) →
      Ahead peer.udp2.windowStarted peer.udp2.nextReceiveSequence.toBitVec sequence.toBitVec →
      Serial.distance peer.udp2.nextReceiveSequence.toBitVec sequence.toBitVec ≤
        reportable (2 ^ logWindowSize) →
      ∃ enough, ∀ capacity, enough ≤ capacity →
        (processUdp2Datagram .all peer bytes capacity).1.status = .ok) ∧
    (∀ datagram sequence window, udpGate true datagram peer = none →
      udpParseDatagram true datagram = .ok (.data sequence window) →
      Ahead peer.reliable.windowStarted peer.reliable.nextReceiveSequence.toBitVec
        sequence.toBitVec →
      Serial.distance peer.reliable.nextReceiveSequence.toBitVec sequence.toBitVec ≤
        reportable window.toNat →
      ((∃ enough, ∀ capacity, enough ≤ capacity →
        (processUdpDatagramMode true peer true datagram capacity).1.status = .ok) ↔
      Serial.distance peer.reliable.nextReceiveSequence.toBitVec sequence.toBitVec ≤ 8064)) := by
  refine ⟨?_, ?_, ?_, ?_⟩
  · intro memory bytes capacity answer next datagram sequence logWindowSize ended accepted
      parsed carries
    obtain ⟨response, planned, rfl⟩ := processUdp2Datagram_ok ended accepted
    simp only [UdpPeer.udp2Plan, parsed] at planned
    split at planned
    · cases planned
    · cases planned
    · cases planned
    · rename_i staged
      cases planned
      exact stage2_reports carries staged
  · intro memory datagram capacity answer next sequence window ended accepted parsed
    obtain ⟨response, planned, rfl⟩ := processUdpDatagramMode_ok ended accepted
    simp only [UdpPeer.udpPlan, parsed, attempt_ok_bind] at planned
    split at planned
    · cases planned
    · cases planned
    · cases planned
    · rename_i staged
      cases planned
      exact stage_reports staged
  · intro bytes datagram sequence logWindowSize passes parsed carries ahead near
    exact udp2_gap_answered passes parsed carries ahead near
  · intro datagram sequence window passes parsed ahead near
    exact udp_gap_answered_iff passes parsed ahead near

/-- A peer with started windows that expect packet 0 in both transports. -/
def expectingPeer : UdpPeer := { startedPeer with udp2 := { windowStarted := true } }

/-- UDP2 data with sequence number 2, one byte and a window of sixteen packets. -/
def gapDatagram : Bytes := [0, 4, 0x40, 2, 0, 7, 0, 0xa0]

/-- A reliable gap of two packets is reported in full, and the packet after it received. -/
theorem data_is_acknowledged_iff_two :
    ∃ header vector, udpReadResponse
      (processUdpDatagramMode true expectingPeer true (dataDatagram 1 2 0) 100).1.response =
        .ok (header, vector) ∧
      Reports (udpTells header vector) true 0 2 :=
  (data_is_acknowledged_iff expectingPeer).2.1 true (dataDatagram 1 2 0) 100 _ _ 2 257 rfl
    (by decide) rfl

/-- The response to UDP2 packet 2 of a peer that expects packet 0 reports 0 and 1 missing and says
    nothing of 2; and an RDPEUDP gap of 8065 packets, all within the window, is refused. -/
theorem gap_packet_not_acknowledged :
    (∃ packet, udp2ReadResponse
      (processUdp2Datagram .all expectingPeer gapDatagram 100).1.response = .ok packet ∧
      (processUdp2Datagram .all expectingPeer gapDatagram 100).1.status = .ok ∧
      udp2Tells packet 1 = some false ∧ udp2Tells packet 2 = none) ∧
    (processUdpDatagramMode true expectingPeer true (dataDatagram 255 0x81 0x1f) 1000).1.status =
      .invalidArgument := by
  refine ⟨⟨{ header := { flags := udp2FlagAckVec, logWindowSize := 4 }
             ackVector := some { baseSequenceNumber := 0, codedAckVector := [0x81] } },
    rfl, ?_, ?_, ?_⟩, ?_⟩
  · decide
  · decide
  · decide
  · decide +kernel

end LibRdp.Server
