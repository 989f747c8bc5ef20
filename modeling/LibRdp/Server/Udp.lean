import LibRdp.Machine.Staged
import LibRdp.Machine.Serial
import LibRdp.Server.Peer
import LibRdp.Transport.Udp2

/-! # Side-transport datagrams of a server peer

The application owns the sockets and hands the peer one datagram at a time, with a buffer
for the response. RDPEUDP has a reliable and a lossy receive window, UDP2 one of its own.
Whatever a datagram would change is staged and committed once the response fits; a gap
that is too large to report gives the transport up for TCP.
-/

namespace LibRdp.Server

open Machine Transport

/-- The receive window of one RDPEUDP mode: an index of the `multitransport_udp_` arrays. -/
structure UdpMode where
  selected : Bool := false
  windowStarted : Bool := false
  fallbackTcp : Bool := false
  receiveWindow : UInt16 := 0
  nextReceiveSequence : UInt32 := 0
  lastReceiveSequence : UInt32 := 0
  deriving Repr, DecidableEq

/-- The `multitransport_udp2_` fields. -/
structure Udp2Window where
  active : Bool := false
  windowStarted : Bool := false
  fallbackTcp : Bool := false
  logWindowSize : Nat := 0
  nextReceiveSequence : UInt16 := 0
  lastReceiveSequence : UInt16 := 0
  lastPeerAckSequence : UInt16 := 0
  deriving Repr, DecidableEq

/-- The metrics of `librdp_server_metrics` that datagrams count in. -/
structure UdpMetrics where
  pduIn : UInt64 := 0
  pduOut : UInt64 := 0
  udpDatagramsIn : UInt64 := 0
  udpDatagramsOut : UInt64 := 0
  udpBytesIn : UInt64 := 0
  udpBytesOut : UInt64 := 0
  udpAckVectorIn : UInt64 := 0
  udpAckVectorOut : UInt64 := 0
  udpPendingPackets : UInt64 := 0
  udpDroppedPackets : UInt64 := 0
  udpReorderedPackets : UInt64 := 0
  udpTcpFallbacks : UInt64 := 0
  udp2DatagramsIn : UInt64 := 0
  udp2DatagramsOut : UInt64 := 0
  udp2BytesIn : UInt64 := 0
  udp2BytesOut : UInt64 := 0
  udp2AckIn : UInt64 := 0
  udp2AckOut : UInt64 := 0
  udp2AckVectorIn : UInt64 := 0
  udp2AckVectorOut : UInt64 := 0
  udp2LostPackets : UInt64 := 0
  udp2ReorderedPackets : UInt64 := 0
  udp2TcpFallbacks : UInt64 := 0
  deriving Repr, DecidableEq

/-- The part of `librdp_server_peer` that datagrams use; the two requests are bits of
    `requested_features`. -/
structure UdpPeer where
  state : PeerState
  udpRequested : Bool
  udp2Requested : Bool
  negotiated : Bool
  udpActive : Bool := false
  lossy : UdpMode := {}
  reliable : UdpMode := {}
  udp2 : Udp2Window := {}
  metrics : UdpMetrics := {}
  lastStatus : Option ServerStatus := none
  deriving Repr, DecidableEq

/-- What a call returns: `responseLength` is `*response_len` if the call sets it, `response` what
    it copies, `raised` the error event. -/
structure UdpAnswer where
  status : Status
  responseLength : Option Nat := some 0
  response : Bytes := []
  raised : Option ServerStatus := none
  deriving Repr, DecidableEq

namespace UdpPeer

/-- The receive window that `reliable` selects. -/
def mode (peer : UdpPeer) : Bool → UdpMode
  | false => peer.lossy
  | true => peer.reliable

def setMode (peer : UdpPeer) : Bool → UdpMode → UdpPeer
  | false, next => { peer with lossy := next }
  | true, next => { peer with reliable := next }

def usable (mode : UdpMode) : Bool := mode.selected && mode.windowStarted && !mode.fallbackTcp

/-- `rdp_server_multitransport_refresh_udp_active`. -/
def refreshUdpActive (peer : UdpPeer) : UdpPeer :=
  { peer with udpActive := usable peer.lossy || usable peer.reliable }

end UdpPeer

/-- The end of both functions: the staged plan settles, and whatever is not `LIBRDP_STATUS_OK` is
    recorded by `rdp_server_record_status`, which raises an error event. -/
def UdpPeer.conclude (phase message : String) (capacity : Nat) (peer : UdpPeer)
    (plan : Plan UdpPeer Status Bytes) : UdpAnswer × UdpPeer :=
  let recorded := fun (status : Status) (left : UdpPeer) =>
    ({ status, component := componentForStatus status, state := left.state
       phase, message } : ServerStatus)
  match plan.settle List.length capacity peer with
  | (.done response, next) =>
      ({ status := .ok, responseLength := some response.length, response }, next)
  | (.tooSmall size, left) =>
      ({ status := .limitExceeded, responseLength := some size
         raised := some (recorded .limitExceeded left) },
        { left with lastStatus := some (recorded .limitExceeded left) })
  | (.failed status, left) =>
      ({ status, raised := some (recorded status left) },
        { left with lastStatus := some (recorded status left) })

inductive UdpDatagram where
  | control
  | ackVector (pending : Nat)
  | data (sequence : UInt32) (window : UInt16)
  deriving Repr, DecidableEq

/-- The data branch: the sequence number of the payload and the window of its sender. -/
def udpParseData (header : UdpFecHeader) (payload : Bytes) : Attempt UdpDatagram :=
  if payload.length < 10 then refuse .protocolError
  else do
    let payloadSize ← udpParsePayloadPrefix payload
    if payloadSize.toNat < 8 ∨ payloadSize.toNat > payload.length - 2 then refuse .protocolError
    else
      let source ← udpParseSourcePayloadHeader ((payload.drop 2).take payloadSize.toNat)
      let window := if header.receiveWindowSize = 0 then 1 else header.receiveWindowSize
      pure (.data source.codedSequence window)

def udpPayloadFlags (flags : UInt16) : UInt16 :=
  flags &&& (udpFlagSyn ||| udpFlagSynLossy ||| udpFlagSynEx ||| udpFlagAckOfAcks |||
    udpFlagSackOption ||| udpFlagData)

def udpFlagsClash (flags : UInt16) : Bool :=
  let payload := udpPayloadFlags flags
  (hasFlag payload udpFlagData && hasFlag payload (~~~(udpFlagData ||| udpFlagFec))) ||
    (hasFlag payload udpFlagSynEx && payload != udpFlagSynEx) ||
    (hasFlag payload udpFlagSackOption && payload != udpFlagSackOption)

/-- The parsing part of `librdp_server_peer_process_udp_datagram_mode`. -/
def udpParseDatagram (reliable : Bool) (datagram : Bytes) : Attempt UdpDatagram := do
  let (header, payload) ← udpParseFecHeader datagram
  if udpFlagsClash header.flags then refuse .protocolError
  else if hasFlag header.flags (udpFlagSyn ||| udpFlagSynLossy) then
    if (reliable && hasFlag header.flags udpFlagSynLossy) ||
        (!reliable && hasFlag header.flags udpFlagSyn) then refuse .protocolError
    else if payload.length ≠ 8 then refuse .protocolError
    else do
      let _ ← udpParseSynData payload
      pure .control
  else if hasFlag header.flags udpFlagSynEx then do
    let _ ← udpParseSynDataEx payload
    pure .control
  else if hasFlag header.flags udpFlagAckOfAcks then
    if payload.length ≠ 4 then refuse .protocolError
    else do
      let _ ← udpParseAckOfAckVector payload
      pure .control
  else if hasFlag header.flags udpFlagSackOption then do
    let vector ← udpParseAckVector payload
    let (_, pending) ← udpAckVectorCount vector
    pure (.ackVector pending)
  else if hasFlag header.flags udpFlagData then udpParseData header payload
  else pure .control

/-- `rdp_server_udp_write_ack_vector_response`. -/
def udpWriteAckVectorResponse (memory : Bool) (sourceAck : UInt32) (receiveWindow : UInt16)
    (pendingGap : Nat) : Attempt Bytes :=
  if pendingGap > maxReportableGap then refuse .invalidArgument
  else
    let (runs, left) :=
      ackVectorRuns (64 * udpAckVectorStatePending) ackVectorEncodedMaxSize pendingGap
    if left ≠ 0 ∨ runs.length ≥ ackVectorEncodedMaxSize then refuse .invalidArgument
    else do
      let header ← udpWriteFecHeader
        { sourceAck, receiveWindowSize := if receiveWindow = 0 then 1 else receiveWindow
          flags := udpFlagAck ||| udpFlagSackOption }
      let vector ← udpWriteAckVector (runs ++ [0])
      buffered memory (header ++ vector)

inductive UdpStaged where
  | accepted (next : UdpMode) (ackVectors pending dropped reordered : Nat) (response : Bytes)
  | fallback
  deriving Repr, DecidableEq

/-- Where a data packet falls relative to the window: its sequence number is taken, with the
    packets it leaves pending and dropped; it is stale; or it is out of reach. -/
inductive UdpArrival where
  | taken (pending dropped : Nat)
  | stale
  | beyond
  deriving Repr, DecidableEq

def UdpMode.arrival (mode : UdpMode) (reliable : Bool) (sequence : UInt32) (window : UInt16) :
    UdpArrival :=
  let distance := if mode.windowStarted then (sequence - mode.nextReceiveSequence).toNat else 0
  if distance = 0 then .taken 0 0
  else if distance ≥ 0x80000000 then .stale
  else if !reliable then .taken 0 distance
  else if distance ≤ window.toNat ∧ distance ≤ maxReportableGap then .taken distance 0
  else .beyond

/-- The staging part of `librdp_server_peer_process_udp_datagram_mode`. -/
def UdpMode.stage (mode : UdpMode) (memory reliable : Bool) :
    UdpDatagram → Attempt UdpStaged
  | .control => .ok (.accepted mode 0 0 0 0 [])
  | .ackVector pending => .ok (.accepted mode 1 pending 0 0 [])
  | .data sequence window =>
      match mode.arrival reliable sequence window with
      | .taken pending dropped => do
          let response ← udpWriteAckVectorResponse memory sequence window pending
          pure (.accepted
            { mode with
              windowStarted := true, receiveWindow := window
              nextReceiveSequence := sequence + 1, lastReceiveSequence := sequence }
            0 pending dropped 0 response)
      | .stale => do
          let response ← udpWriteAckVectorResponse memory sequence window 0
          pure (.accepted { mode with receiveWindow := window } 0 0
            (if reliable then 0 else 1) 1 response)
      | .beyond => .ok .fallback

def UdpMetrics.udpAccepted (metrics : UdpMetrics) (datagram response : Bytes)
    (ackVectors pending dropped reordered : Nat) : UdpMetrics :=
  let received : UdpMetrics :=
    { metrics with
      pduIn := serverMetricAdd metrics.pduIn 1
      udpDatagramsIn := serverMetricAdd metrics.udpDatagramsIn 1
      udpBytesIn := serverMetricAdd metrics.udpBytesIn (UInt64.ofNat datagram.length)
      udpAckVectorIn := serverMetricAdd metrics.udpAckVectorIn (UInt64.ofNat ackVectors)
      udpPendingPackets := serverMetricAdd metrics.udpPendingPackets (UInt64.ofNat pending)
      udpDroppedPackets := serverMetricAdd metrics.udpDroppedPackets (UInt64.ofNat dropped)
      udpReorderedPackets := serverMetricAdd metrics.udpReorderedPackets (UInt64.ofNat reordered) }
  if response.isEmpty then received
  else
    { received with
      pduOut := serverMetricAdd received.pduOut 1
      udpDatagramsOut := serverMetricAdd received.udpDatagramsOut 1
      udpBytesOut := serverMetricAdd received.udpBytesOut (UInt64.ofNat response.length)
      udpAckVectorOut := serverMetricAdd received.udpAckVectorOut 1 }

def UdpPeer.udpFallback (peer : UdpPeer) (reliable : Bool) : UdpPeer :=
  let latched :=
    (peer.setMode reliable { peer.mode reliable with fallbackTcp := true }).refreshUdpActive
  { latched with
    metrics.udpTcpFallbacks := serverMetricAdd latched.metrics.udpTcpFallbacks 1 }

def UdpPeer.udpPlan (memory : Bool) (peer : UdpPeer) (reliable : Bool) (datagram : Bytes) :
    Plan UdpPeer Status Bytes :=
  match udpParseDatagram reliable datagram >>= (peer.mode reliable).stage memory reliable with
  | .error (.returned status) => .fails status peer
  -- nothing here indexes an array: the parsers and the writer never fault
  | .error (.fault _) => .fails .invalidArgument peer
  | .ok .fallback => .fails .protocolError (peer.udpFallback reliable)
  | .ok (.accepted next ackVectors pending dropped reordered response) =>
      let committed := (peer.setMode reliable next).refreshUdpActive
      .ready response
        { committed with
          metrics := committed.metrics.udpAccepted datagram response ackVectors pending dropped
            reordered }

/-- `librdp_server_peer_process_udp_datagram_mode`; `memory` says whether the response buffer
    could grow. -/
def processUdpDatagramMode (memory : Bool) (peer : UdpPeer) (reliable : Bool) (datagram : Bytes)
    (capacity : Nat) : UdpAnswer × UdpPeer :=
  if datagram.length = 0 then ({ status := .invalidArgument, responseLength := none }, peer)
  else if peer.state ≠ .active then ({ status := .state }, peer)
  else if !peer.udpRequested || !peer.negotiated then ({ status := .unsupported }, peer)
  else if !(peer.mode reliable).selected || (peer.mode reliable).fallbackTcp then
    ({ status := .unsupported }, peer)
  else peer.conclude "server.udp.datagram" "RDPEUDP datagram processing failed" capacity
    (peer.udpPlan memory reliable datagram)

structure Udp2Memory where
  packetBytes : Bool
  responsePacket : Bool
  ackWire : Bool
  deriving Repr, DecidableEq

/-- A datagram as the receive window takes it: the acknowledged sequence number, the packets an
    acknowledgement vector calls lost, and the sequence number of data with the window of its
    sender. -/
structure Udp2Datagram where
  ack : Option UInt16 := none
  lost : Option Nat := none
  data : Option (UInt16 × Nat) := none
  deriving Repr, DecidableEq

/-- The parsing part of `librdp_server_peer_process_udp2_datagram`; a dummy packet says nothing. -/
def udp2ParseDatagram (memory : Bool) (datagram : Bytes) : Attempt Udp2Datagram := do
  let (bytes, start) ← udp2UnwrapPacket memory datagram
  if start.packetType ≠ udp2PacketTypeData then pure {}
  else
    let packet ← udp2ParsePacket bytes
    let kind ← udp2ClassifyPacket packet
    let sequence := if kind = .data ∨ kind = .dataWithAck then packet.dataSequenceNumber else none
    pure
      { ack := packet.ack.map Udp2Ack.sequenceNumber
        lost := packet.ackVector.map fun vector => (udp2AckVectorCount vector.codedAckVector).2
        data := sequence.map fun number => (number, packet.header.logWindowSize) }

inductive Udp2Arrival where
  | taken
  | gap (lost : Nat)
  | stale
  | beyond
  deriving Repr, DecidableEq

def Udp2Window.arrival (window : Udp2Window) (sequence : UInt16) (logWindowSize : Nat) :
    Udp2Arrival :=
  let distance :=
    if window.windowStarted then (sequence - window.nextReceiveSequence).toNat else 0
  if distance = 0 then .taken
  else if distance < 0x8000 ∧ distance ≤ 2 ^ logWindowSize ∧ distance ≤ maxReportableGap then
    .gap distance
  else if distance < 0x8000 then .beyond
  else .stale

def udp2Acknowledge (memory : Udp2Memory) (packet : Attempt Bytes) : Attempt Bytes := do
  let packet ← packet
  let packet ← buffered memory.responsePacket packet
  udp2WrapPacket memory.ackWire packet udp2PacketTypeData

def udp2AckResponse (memory : Udp2Memory) (logWindowSize : Nat) (sequence : UInt16) :
    Attempt Bytes :=
  udp2Acknowledge memory (udp2WriteAckPacket logWindowSize { sequenceNumber := sequence })

def udp2AckVectorResponse (memory : Udp2Memory) (logWindowSize : Nat) (expected : UInt16)
    (lost : Nat) : Attempt Bytes :=
  let (runs, left) := ackVectorRuns 0x80 ackVectorEncodedMaxSize lost
  if left ≠ 0 then refuse .protocolError
  else udp2Acknowledge memory (udp2WriteAckVectorPacket logWindowSize
    { baseSequenceNumber := expected, codedAckVector := runs })

inductive Udp2Staged where
  | accepted (next : Udp2Window) (lost reordered : Nat) (vector : Bool) (response : Bytes)
  | fallback
  deriving Repr, DecidableEq

/-- The staging part of `librdp_server_peer_process_udp2_datagram`. -/
def Udp2Window.stage (window : Udp2Window) (memory : Udp2Memory) (datagram : Udp2Datagram) :
    Attempt Udp2Staged :=
  let acked : Udp2Window :=
    { window with lastPeerAckSequence := datagram.ack.getD window.lastPeerAckSequence }
  match datagram.data with
  | none => .ok (.accepted acked 0 0 false [])
  | some (sequence, logWindowSize) =>
      let sized : Udp2Window := { acked with logWindowSize }
      let moved : Udp2Window :=
        { sized with
          windowStarted := true
          nextReceiveSequence := sequence + 1, lastReceiveSequence := sequence }
      match window.arrival sequence logWindowSize with
      | .taken => do
          let response ← udp2AckResponse memory logWindowSize sequence
          pure (.accepted moved 0 0 false response)
      | .gap lost => do
          let response ←
            udp2AckVectorResponse memory logWindowSize window.nextReceiveSequence lost
          pure (.accepted moved lost 0 true response)
      | .stale => do
          let response ← udp2AckResponse memory logWindowSize sequence
          pure (.accepted sized 0 1 false response)
      | .beyond => .ok .fallback

def UdpMetrics.udp2Accepted (metrics : UdpMetrics) (bytes response : Bytes)
    (datagram : Udp2Datagram) (lost reordered : Nat) (vector : Bool) : UdpMetrics :=
  let received : UdpMetrics :=
    { metrics with
      pduIn := serverMetricAdd metrics.pduIn 1
      udp2DatagramsIn := serverMetricAdd metrics.udp2DatagramsIn 1
      udp2BytesIn := serverMetricAdd metrics.udp2BytesIn (UInt64.ofNat bytes.length)
      udp2AckIn := serverMetricAdd metrics.udp2AckIn (if datagram.ack.isSome then 1 else 0)
      udp2AckVectorIn :=
        serverMetricAdd metrics.udp2AckVectorIn (if datagram.lost.isSome then 1 else 0)
      udp2LostPackets :=
        serverMetricAdd metrics.udp2LostPackets (UInt64.ofNat (datagram.lost.getD 0 + lost))
      udp2ReorderedPackets :=
        serverMetricAdd metrics.udp2ReorderedPackets (UInt64.ofNat reordered) }
  if response.isEmpty then received
  else
    { received with
      pduOut := serverMetricAdd received.pduOut 1
      udp2DatagramsOut := serverMetricAdd received.udp2DatagramsOut 1
      udp2BytesOut := serverMetricAdd received.udp2BytesOut (UInt64.ofNat response.length)
      udp2AckOut := if vector then received.udp2AckOut else serverMetricAdd received.udp2AckOut 1
      udp2AckVectorOut :=
        if vector then serverMetricAdd received.udp2AckVectorOut 1 else received.udp2AckVectorOut }

def UdpPeer.udp2Fallback (peer : UdpPeer) : UdpPeer :=
  { peer with
    udp2.fallbackTcp := true, udp2.active := false
    metrics.udp2TcpFallbacks := serverMetricAdd peer.metrics.udp2TcpFallbacks 1 }

def UdpPeer.udp2Plan (memory : Udp2Memory) (peer : UdpPeer) (bytes : Bytes) :
    Plan UdpPeer Status Bytes :=
  match udp2ParseDatagram memory.packetBytes bytes with
  | .error (.returned status) => .fails status peer
  | .error (.fault _) => .fails .invalidArgument peer
  | .ok datagram =>
      match peer.udp2.stage memory datagram with
      | .error (.returned status) => .fails status peer
      | .error (.fault _) => .fails .invalidArgument peer
      | .ok .fallback => .fails .protocolError peer.udp2Fallback
      | .ok (.accepted next lost reordered vector response) =>
          .ready response
            { peer with
              udp2 := { next with active := true }
              metrics :=
                peer.metrics.udp2Accepted bytes response datagram lost reordered vector }

/-- `librdp_server_peer_process_udp2_datagram`; `memory` says which buffers could grow. -/
def processUdp2Datagram (memory : Udp2Memory) (peer : UdpPeer) (datagram : Bytes)
    (capacity : Nat) : UdpAnswer × UdpPeer :=
  if datagram.length = 0 then ({ status := .invalidArgument, responseLength := none }, peer)
  else if peer.state ≠ .active then ({ status := .state }, peer)
  else if !peer.udp2Requested || !peer.negotiated then ({ status := .unsupported }, peer)
  else if peer.udp2.fallbackTcp then ({ status := .unsupported }, peer)
  else peer.conclude "server.udp2.datagram" "UDP2 datagram processing failed" capacity
    (peer.udp2Plan memory datagram)

end LibRdp.Server
