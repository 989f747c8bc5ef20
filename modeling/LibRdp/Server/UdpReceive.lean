import LibRdp.Server.Udp

/-! # Datagrams are processed as a whole or not at all

A refused datagram leaves the peer as it was, but for the recorded status and for the
fallback of a gap that is out of reach. A call that found the response buffer too small can
be retried: the record it left is all that tells the end from that of a first call with
enough room.
-/

namespace LibRdp.Server

open Machine Transport

def UdpPeer.withStatus (recorded : Option ServerStatus) (peer : UdpPeer) : UdpPeer :=
  { peer with lastStatus := recorded }

/-- A call that commits all of a datagram or nothing: what is refused leaves the peer, or its
    `fallback` where that is `due`, and what finds the buffer too small can be retried. -/
structure Transactional (call : UdpPeer → Nat → UdpAnswer × UdpPeer)
    (fallback : UdpPeer → UdpPeer) (due : UdpPeer → Prop) : Prop where
  refused : ∀ peer capacity, (call peer capacity).1.status ≠ .ok →
    ∃ recorded, (call peer capacity).2 = peer.withStatus recorded ∨
      due peer ∧ (call peer capacity).2 = (fallback peer).withStatus recorded
  retried : ∀ peer capacity size room, (call peer capacity).1.status = .limitExceeded →
    (call peer capacity).1.responseLength = some size → size ≤ room →
    (call peer room).1.status = .ok ∧
    (call (call peer capacity).2 size).1 = (call peer room).1 ∧
    ∃ recorded, (call (call peer capacity).2 size).2 = (call peer room).2.withStatus recorded

/-! ## The shared end of a call -/

section Concluded

variable {phase message : String} {capacity : Nat} {peer left : UdpPeer}
  {plan : Plan UdpPeer Status Bytes}

theorem conclude_done {response : Bytes}
    (settled : plan.settle List.length capacity peer = (.done response, left)) :
    peer.conclude phase message capacity plan =
      ({ status := .ok, responseLength := some response.length, response }, left) := by
  simp only [UdpPeer.conclude, settled]

theorem conclude_tooSmall {size : Nat}
    (settled : plan.settle List.length capacity peer = (.tooSmall size, left)) :
    ∃ recorded, peer.conclude phase message capacity plan =
      ({ status := .limitExceeded, responseLength := some size, raised := recorded },
        left.withStatus recorded) :=
  ⟨_, by simp only [UdpPeer.conclude, settled]; rfl⟩

theorem conclude_failed {status : Status}
    (settled : plan.settle List.length capacity peer = (.failed status, left)) :
    ∃ recorded, peer.conclude phase message capacity plan =
      ({ status, raised := recorded }, left.withStatus recorded) :=
  ⟨_, by simp only [UdpPeer.conclude, settled]; rfl⟩

/-- A call that refuses some peers at once and concludes a plan for the others. -/
def gated (gate : UdpPeer → Option UdpAnswer) (phase message : String)
    (plan : UdpPeer → Plan UdpPeer Status Bytes) (peer : UdpPeer) (capacity : Nat) :
    UdpAnswer × UdpPeer :=
  match gate peer with
  | some answer => (answer, peer)
  | none => peer.conclude phase message capacity (plan peer)

end Concluded

structure Lawful (gate : UdpPeer → Option UdpAnswer) (plan : UdpPeer → Plan UdpPeer Status Bytes)
    (fallback : UdpPeer → UdpPeer) (due : UdpPeer → Prop) : Prop where
  gate_blind : ∀ peer recorded, gate (peer.withStatus recorded) = gate peer
  gate_refuses : ∀ peer answer, gate peer = some answer →
    answer.status ≠ .ok ∧ answer.status ≠ .limitExceeded
  plan_blind : ∀ peer recorded,
    plan (peer.withStatus recorded) = (plan peer).map (UdpPeer.withStatus recorded)
  plan_fails : ∀ peer status left, plan peer = .fails status left →
    status ≠ .ok ∧ status ≠ .limitExceeded ∧ (left = peer ∨ due peer ∧ left = fallback peer)

section Laws

variable {gate : UdpPeer → Option UdpAnswer} {phase message : String}
  {plan : UdpPeer → Plan UdpPeer Status Bytes} {fallback : UdpPeer → UdpPeer}
  {due : UdpPeer → Prop}

theorem gated_ok (lawful : Lawful gate plan fallback due) {peer : UdpPeer} {capacity : Nat}
    (accepted : (gated gate phase message plan peer capacity).1.status = .ok) :
    ∃ response, plan peer = .ready response (gated gate phase message plan peer capacity).2 ∧
      (gated gate phase message plan peer capacity).1 =
        { status := .ok, responseLength := some response.length, response } := by
  unfold gated at *
  cases gates : gate peer with
  | some answer =>
    rw [gates] at accepted
    exact absurd accepted (lawful.gate_refuses peer answer gates).1
  | none =>
    rw [gates] at accepted
    cases settled : (plan peer).settle List.length capacity peer with
    | mk ending left =>
      cases ending with
      | done response =>
        rw [conclude_done settled]
        exact ⟨response, (Plan.settle_done settled).1, rfl⟩
      | tooSmall size =>
        obtain ⟨recorded, concluded⟩ := @conclude_tooSmall phase message _ _ _ _ _ settled
        rw [concluded] at accepted
        exact nomatch accepted
      | failed status =>
        obtain ⟨recorded, concluded⟩ := @conclude_failed phase message _ _ _ _ _ settled
        rw [concluded] at accepted
        have planned := Plan.settle_failed settled
        exact absurd accepted (lawful.plan_fails peer status left planned).1

variable {capacity : Nat}

theorem gated_ready {peer next : UdpPeer} {response : Bytes} (passes : gate peer = none)
    (planned : plan peer = .ready response next) (fits : response.length ≤ capacity) :
    (gated gate phase message plan peer capacity).1.status = .ok := by
  have settled : (plan peer).settle List.length capacity peer = (.done response, next) := by
    rw [planned]
    exact Plan.settle_ready fits
  simp only [gated, passes, conclude_done settled]

theorem gated_refused (lawful : Lawful gate plan fallback due) {peer : UdpPeer}
    (refused : (gated gate phase message plan peer capacity).1.status ≠ .ok) :
    ∃ recorded, (gated gate phase message plan peer capacity).2 = peer.withStatus recorded ∨
      due peer ∧ (gated gate phase message plan peer capacity).2 =
        (fallback peer).withStatus recorded := by
  unfold gated at *
  cases gates : gate peer with
  | some answer => exact ⟨peer.lastStatus, .inl rfl⟩
  | none =>
    rw [gates] at refused
    cases settled : (plan peer).settle List.length capacity peer with
    | mk ending left =>
      cases ending with
      | done response =>
        rw [conclude_done settled] at refused
        exact absurd rfl refused
      | tooSmall size =>
        obtain ⟨recorded, concluded⟩ := @conclude_tooSmall phase message _ _ _ _ _ settled
        rw [concluded, (Plan.settle_tooSmall settled).1]
        exact ⟨recorded, .inl rfl⟩
      | failed status =>
        obtain ⟨recorded, concluded⟩ := @conclude_failed phase message _ _ _ _ _ settled
        rw [concluded]
        have planned := Plan.settle_failed settled
        cases (lawful.plan_fails peer status left planned).2.2 with
        | inl same =>
          rw [same]
          exact ⟨recorded, .inl rfl⟩
        | inr gone =>
          rw [gone.2]
          exact ⟨recorded, .inr ⟨gone.1, rfl⟩⟩

theorem gated_retried (lawful : Lawful gate plan fallback due) {peer : UdpPeer} {size room : Nat}
    (limited : (gated gate phase message plan peer capacity).1.status = .limitExceeded)
    (reported : (gated gate phase message plan peer capacity).1.responseLength = some size)
    (enough : size ≤ room) :
    (gated gate phase message plan peer room).1.status = .ok ∧
    (gated gate phase message plan (gated gate phase message plan peer capacity).2 size).1 =
      (gated gate phase message plan peer room).1 ∧
    ∃ recorded,
      (gated gate phase message plan (gated gate phase message plan peer capacity).2 size).2 =
        (gated gate phase message plan peer room).2.withStatus recorded := by
  cases gates : gate peer with
  | some answer =>
    simp only [gated, gates] at limited
    exact absurd limited (lawful.gate_refuses peer answer gates).2
  | none =>
    cases settled : (plan peer).settle List.length capacity peer with
    | mk ending left =>
      cases ending with
      | done response =>
        simp only [gated, gates, conclude_done settled] at limited
        exact nomatch limited
      | failed status =>
        obtain ⟨recorded, concluded⟩ := @conclude_failed phase message _ _ _ _ _ settled
        simp only [gated, gates, concluded] at limited
        have planned := Plan.settle_failed settled
        exact absurd limited (lawful.plan_fails peer status left planned).2.1
      | tooSmall needed =>
        obtain ⟨recorded, concluded⟩ := @conclude_tooSmall phase message _ _ _ _ _ settled
        simp only [gated, gates, concluded, Option.some.injEq] at reported
        subst reported
        have blind := lawful.plan_blind peer recorded
        obtain ⟨answer, next, -, first, again⟩ := Plan.settle_retry blind settled enough
        have gatesAgain : gate (left.withStatus recorded) = none := by
          rw [(Plan.settle_tooSmall settled).1, lawful.gate_blind, gates]
        simp only [gated, gates, concluded, gatesAgain, conclude_done first,
          conclude_done again]
        exact ⟨trivial, trivial, recorded, rfl⟩

theorem gated_transactional (lawful : Lawful gate plan fallback due) :
    Transactional (gated gate phase message plan) fallback due where
  refused _ _ refused := gated_refused lawful refused
  retried _ _ _ _ limited reported enough := gated_retried lawful limited reported enough

end Laws

/-! ## RDPEUDP -/

namespace UdpPeer

@[simp] theorem mode_withStatus (peer : UdpPeer) (recorded : Option ServerStatus)
    (reliable : Bool) : (peer.withStatus recorded).mode reliable = peer.mode reliable := by
  cases reliable <;> rfl

theorem setMode_withStatus (peer : UdpPeer) (recorded : Option ServerStatus) (reliable : Bool)
    (next : UdpMode) : (peer.withStatus recorded).setMode reliable next =
      (peer.setMode reliable next).withStatus recorded := by
  cases reliable <;> rfl

theorem udpFallback_withStatus (peer : UdpPeer) (recorded : Option ServerStatus)
    (reliable : Bool) : (peer.withStatus recorded).udpFallback reliable =
      (peer.udpFallback reliable).withStatus recorded := by
  cases reliable <;> rfl

/-- A data packet of the reliable mode that is ahead of the next expected one by more than the
    `bound` for its window. -/
def UdpGapBeyond (bound : Nat → Nat) (datagram : Bytes) (peer : UdpPeer) : Prop :=
  ∃ sequence window, udpParseDatagram true datagram = .ok (.data sequence window) ∧
    peer.reliable.windowStarted ∧
    bound window.toNat <
      Serial.distance peer.reliable.nextReceiveSequence.toBitVec sequence.toBitVec ∧
    Serial.distance peer.reliable.nextReceiveSequence.toBitVec sequence.toBitVec < 2 ^ 31

end UdpPeer

/-- The gaps that are answered: within the window and what a vector can report. -/
def reportable (window : Nat) : Nat := min window maxReportableGap

def udpGate (reliable : Bool) (datagram : Bytes) (peer : UdpPeer) : Option UdpAnswer :=
  if datagram.length = 0 then some { status := .invalidArgument, responseLength := none }
  else if peer.state ≠ .active then some { status := .state }
  else if !peer.udpRequested || !peer.negotiated then some { status := .unsupported }
  else if !(peer.mode reliable).selected || (peer.mode reliable).fallbackTcp then
    some { status := .unsupported }
  else none

theorem processUdpDatagramMode_eq (memory : Bool) (peer : UdpPeer) (reliable : Bool)
    (datagram : Bytes) (capacity : Nat) :
    processUdpDatagramMode memory peer reliable datagram capacity =
      gated (udpGate reliable datagram) "server.udp.datagram" "RDPEUDP datagram processing failed"
        (fun peer => peer.udpPlan memory reliable datagram) peer capacity := by
  unfold processUdpDatagramMode gated udpGate
  split
  · rfl
  split
  · rfl
  split
  · rfl
  · split <;> rfl

variable {reliable memory : Bool} {datagram response : Bytes} {peer next : UdpPeer}
  {answer : UdpAnswer}

theorem refuses_unless {p : Prop} [Decidable p] {refusal : UdpAnswer} {gate : Option UdpAnswer}
    (gates : (if p then some refusal else gate) = some answer)
    (refuses : refusal.status ≠ .ok ∧ refusal.status ≠ .limitExceeded)
    (later : gate = some answer → answer.status ≠ .ok ∧ answer.status ≠ .limitExceeded) :
    answer.status ≠ .ok ∧ answer.status ≠ .limitExceeded := by
  split at gates
  · cases gates
    exact refuses
  · exact later gates

theorem udpGate_refuses (gates : udpGate reliable datagram peer = some answer) :
    answer.status ≠ .ok ∧ answer.status ≠ .limitExceeded := by
  unfold udpGate at gates
  refine refuses_unless gates ⟨nofun, nofun⟩ fun gates => ?_
  refine refuses_unless gates ⟨nofun, nofun⟩ fun gates => ?_
  refine refuses_unless gates ⟨nofun, nofun⟩ fun gates => ?_
  exact refuses_unless gates ⟨nofun, nofun⟩ nofun

@[simp] theorem honest_parseDatagram (reliable : Bool) (datagram : Bytes) :
    Honest (udpParseDatagram reliable datagram) := by
  simp [udpParseDatagram, udpParseData]

@[simp] theorem honest_writeAckVectorResponse (memory : Bool) (sourceAck : UInt32)
    (receiveWindow : UInt16) (pendingGap : Nat) :
    Honest (udpWriteAckVectorResponse memory sourceAck receiveWindow pendingGap) := by
  simp [udpWriteAckVectorResponse]

theorem honest_stage (mode : UdpMode) (memory reliable : Bool) (datagram : UdpDatagram) :
    Honest (mode.stage memory reliable datagram) := by
  cases datagram with
  | control => simp [UdpMode.stage]
  | ackVector pending => simp [UdpMode.stage]
  | data sequence window =>
    simp only [UdpMode.stage]
    split <;> simp

variable {mode : UdpMode} {left : UdpPeer} {status : Status} {capacity reordered : Nat}
  {window : Udp2Window} {bytes : Bytes}

theorem stage_fallback {datagram : UdpDatagram}
    (staged : mode.stage memory reliable datagram = .ok .fallback) :
    ∃ sequence window, datagram = .data sequence window ∧ reliable ∧ mode.windowStarted ∧
      reportable window.toNat < (sequence - mode.nextReceiveSequence).toNat ∧
      (sequence - mode.nextReceiveSequence).toNat < 2 ^ 31 := by
  cases datagram with
  | control => exact nomatch staged
  | ackVector pending => exact nomatch staged
  | data sequence window =>
    simp only [UdpMode.stage] at staged
    split at staged
    · obtain ⟨response, -, accepted⟩ := bind_eq_ok.mp staged
      exact nomatch accepted
    · obtain ⟨response, -, accepted⟩ := bind_eq_ok.mp staged
      exact nomatch accepted
    · rename_i arrives
      refine ⟨sequence, window, rfl, ?_⟩
      unfold UdpMode.arrival reportable at *
      grind

theorem udpPlan_blind (memory : Bool) (peer : UdpPeer) (reliable : Bool) (datagram : Bytes)
    (recorded : Option ServerStatus) :
    (peer.withStatus recorded).udpPlan memory reliable datagram =
      (peer.udpPlan memory reliable datagram).map (UdpPeer.withStatus recorded) := by
  simp only [UdpPeer.udpPlan, UdpPeer.mode_withStatus]
  split
  · rfl
  · rfl
  · rw [UdpPeer.udpFallback_withStatus]
    rfl
  · simp only [UdpPeer.setMode_withStatus]
    rfl

theorem udpPlan_fails (planned : peer.udpPlan memory reliable datagram = .fails status left) :
    status ≠ .ok ∧ status ≠ .limitExceeded ∧ (left = peer ∨
      (reliable ∧ peer.UdpGapBeyond reportable datagram) ∧ left = peer.udpFallback reliable) := by
  have honest : Honest (udpParseDatagram reliable datagram >>=
      (peer.mode reliable).stage memory reliable) := by
    simp [honest_stage]
  unfold UdpPeer.udpPlan at planned
  split at planned
  · rename_i status' failed
    cases planned
    rw [failed] at honest
    have differs := (honest_refuse status).mp honest
    exact ⟨differs.2, differs.1, .inl rfl⟩
  · cases planned
    exact ⟨nofun, nofun, .inl rfl⟩
  · rename_i gone
    cases planned
    obtain ⟨parsed, parses, staged⟩ := bind_eq_ok.mp gone
    obtain ⟨sequence, window, rfl, rfl, started, beyond, forward⟩ := stage_fallback staged
    exact ⟨nofun, nofun, .inr ⟨⟨rfl, sequence, window, parses, started, beyond, forward⟩, rfl⟩⟩
  · exact nomatch planned

theorem udp_lawful (memory reliable : Bool) (datagram : Bytes) :
    Lawful (udpGate reliable datagram) (fun peer => peer.udpPlan memory reliable datagram)
      (fun peer => peer.udpFallback reliable)
      (fun peer => reliable ∧ peer.UdpGapBeyond reportable datagram) where
  gate_blind peer recorded := by
    simp only [udpGate, UdpPeer.mode_withStatus]
    rfl
  gate_refuses _ _ gates := udpGate_refuses gates
  plan_blind peer recorded := udpPlan_blind memory peer reliable datagram recorded
  plan_fails _ _ _ planned := udpPlan_fails planned

theorem processUdpDatagramMode_ok
    (ended : processUdpDatagramMode memory peer reliable datagram capacity = (answer, next))
    (accepted : answer.status = .ok) :
    ∃ response, peer.udpPlan memory reliable datagram = .ready response next ∧
      answer = { status := .ok, responseLength := some response.length, response } := by
  rw [processUdpDatagramMode_eq] at ended
  have ok := @gated_ok _ "server.udp.datagram" "RDPEUDP datagram processing failed" _ _ _
    (udp_lawful memory reliable datagram) peer capacity
  rw [ended] at ok
  exact ok accepted

theorem stage_advances {next : UdpMode} {datagram : UdpDatagram}
    {ackVectors pending dropped : Nat} (started : mode.windowStarted)
    (staged : mode.stage memory true datagram =
      .ok (.accepted next ackVectors pending dropped reordered response)) :
    Serial.Advances (next.receiveWindow.toNat + 1) mode.nextReceiveSequence.toBitVec
      next.nextReceiveSequence.toBitVec := by
  cases datagram with
  | control =>
    cases staged
    exact .inl rfl
  | ackVector pending =>
    cases staged
    exact .inl rfl
  | data sequence window =>
    simp only [UdpMode.stage] at staged
    split at staged
    · rename_i arrives
      obtain ⟨response', -, accepted⟩ := bind_eq_ok.mp staged
      cases accepted
      apply Serial.advances_past
      have within : (sequence - mode.nextReceiveSequence).toNat ≤ window.toNat := by
        unfold UdpMode.arrival at arrives
        grind
      exact within
    · obtain ⟨response', -, accepted⟩ := bind_eq_ok.mp staged
      cases accepted
      exact .inl rfl
    · exact nomatch staged

theorem udpPlan_advances (started : peer.reliable.windowStarted)
    (planned : peer.udpPlan memory true datagram = .ready response next) :
    Serial.Advances (next.reliable.receiveWindow.toNat + 1)
      peer.reliable.nextReceiveSequence.toBitVec next.reliable.nextReceiveSequence.toBitVec := by
  unfold UdpPeer.udpPlan at planned
  split at planned
  · exact nomatch planned
  · exact nomatch planned
  · exact nomatch planned
  · rename_i found
    obtain ⟨parsed, -, staged⟩ := bind_eq_ok.mp found
    cases planned
    exact stage_advances started staged

theorem udpPlan_other (planned : peer.udpPlan memory reliable datagram = .ready response next) :
    next.mode (!reliable) = peer.mode (!reliable) := by
  unfold UdpPeer.udpPlan at planned
  split at planned
  · exact nomatch planned
  · exact nomatch planned
  · exact nomatch planned
  · cases planned
    cases reliable <;> rfl

theorem processUdpDatagramMode_other (memory : Bool) (peer : UdpPeer) (reliable : Bool)
    (datagram : Bytes) (capacity : Nat) :
    (processUdpDatagramMode memory peer reliable datagram capacity).2.mode (!reliable) =
      peer.mode (!reliable) := by
  rw [processUdpDatagramMode_eq]
  by_cases accepted : (gated (udpGate reliable datagram) "server.udp.datagram"
      "RDPEUDP datagram processing failed" (fun peer => peer.udpPlan memory reliable datagram)
      peer capacity).1.status = .ok
  · obtain ⟨response, planned, -⟩ := gated_ok (udp_lawful memory reliable datagram) accepted
    exact udpPlan_other planned
  · obtain ⟨recorded, left⟩ := gated_refused (udp_lawful memory reliable datagram) accepted
    cases left with
    | inl same => rw [same, UdpPeer.mode_withStatus]
    | inr gone =>
      rw [gone.2, UdpPeer.mode_withStatus]
      cases reliable <;> rfl

/-! ## UDP2 -/

/-- A UDP2 data packet that is ahead of the next expected one by more than the `bound` for its
    window. -/
def UdpPeer.Udp2GapBeyond (bound : Nat → Nat) (memory : Udp2Memory) (bytes : Bytes)
    (peer : UdpPeer) : Prop :=
  ∃ datagram sequence logWindowSize,
    udp2ParseDatagram memory.packetBytes bytes = .ok datagram ∧
    datagram.data = some (sequence, logWindowSize) ∧ peer.udp2.windowStarted ∧
    bound (2 ^ logWindowSize) <
      Serial.distance peer.udp2.nextReceiveSequence.toBitVec sequence.toBitVec ∧
    Serial.distance peer.udp2.nextReceiveSequence.toBitVec sequence.toBitVec < 2 ^ 15

def udp2Gate (datagram : Bytes) (peer : UdpPeer) : Option UdpAnswer :=
  if datagram.length = 0 then some { status := .invalidArgument, responseLength := none }
  else if peer.state ≠ .active then some { status := .state }
  else if !peer.udp2Requested || !peer.negotiated then some { status := .unsupported }
  else if peer.udp2.fallbackTcp then some { status := .unsupported }
  else none

theorem processUdp2Datagram_eq (memory : Udp2Memory) (peer : UdpPeer) (datagram : Bytes)
    (capacity : Nat) :
    processUdp2Datagram memory peer datagram capacity =
      gated (udp2Gate datagram) "server.udp2.datagram" "UDP2 datagram processing failed"
        (fun peer => peer.udp2Plan memory datagram) peer capacity := by
  unfold processUdp2Datagram gated udp2Gate
  split
  · rfl
  split
  · rfl
  split
  · rfl
  · split <;> rfl

theorem udp2Gate_refuses (gates : udp2Gate datagram peer = some answer) :
    answer.status ≠ .ok ∧ answer.status ≠ .limitExceeded := by
  unfold udp2Gate at gates
  refine refuses_unless gates ⟨nofun, nofun⟩ fun gates => ?_
  refine refuses_unless gates ⟨nofun, nofun⟩ fun gates => ?_
  refine refuses_unless gates ⟨nofun, nofun⟩ fun gates => ?_
  exact refuses_unless gates ⟨nofun, nofun⟩ nofun

@[simp] theorem honest_parseUdp2Datagram (memory : Bool) (bytes : Bytes) :
    Honest (udp2ParseDatagram memory bytes) := by
  simp [udp2ParseDatagram]

@[simp] theorem honest_ackResponse (memory : Udp2Memory) (logWindowSize : Nat)
    (sequence : UInt16) : Honest (udp2AckResponse memory logWindowSize sequence) := by
  simp [udp2AckResponse, udp2Acknowledge, udp2WriteAckPacket]

@[simp] theorem honest_ackVectorResponse (memory : Udp2Memory) (logWindowSize : Nat)
    (expected : UInt16) (lost : Nat) :
    Honest (udp2AckVectorResponse memory logWindowSize expected lost) := by
  simp [udp2AckVectorResponse, udp2Acknowledge, udp2WriteAckVectorPacket]

theorem honest_stage2 (window : Udp2Window) (memory : Udp2Memory) (datagram : Udp2Datagram) :
    Honest (window.stage memory datagram) := by
  simp only [Udp2Window.stage]
  split
  · simp
  · split <;> simp

variable {memory : Udp2Memory}

theorem stage2_fallback {datagram : Udp2Datagram}
    (staged : window.stage memory datagram = .ok .fallback) :
    ∃ sequence logWindowSize, datagram.data = some (sequence, logWindowSize) ∧
      window.windowStarted ∧
      reportable (2 ^ logWindowSize) < (sequence - window.nextReceiveSequence).toNat ∧
      (sequence - window.nextReceiveSequence).toNat < 2 ^ 15 := by
  simp only [Udp2Window.stage] at staged
  split at staged
  · exact nomatch staged
  rename_i sequence logWindowSize carries
  refine ⟨sequence, logWindowSize, carries, ?_⟩
  split at staged
  · obtain ⟨response, -, accepted⟩ := bind_eq_ok.mp staged
    exact nomatch accepted
  · obtain ⟨response, -, accepted⟩ := bind_eq_ok.mp staged
    exact nomatch accepted
  · obtain ⟨response, -, accepted⟩ := bind_eq_ok.mp staged
    exact nomatch accepted
  · rename_i arrives
    unfold Udp2Window.arrival reportable at *
    grind

theorem udp2Plan_blind (memory : Udp2Memory) (peer : UdpPeer) (bytes : Bytes)
    (recorded : Option ServerStatus) :
    (peer.withStatus recorded).udp2Plan memory bytes =
      (peer.udp2Plan memory bytes).map (UdpPeer.withStatus recorded) := by
  have same : (peer.withStatus recorded).udp2 = peer.udp2 := rfl
  simp only [UdpPeer.udp2Plan, same]
  split
  · rfl
  · rfl
  · split <;> rfl

theorem udp2Plan_fails (planned : peer.udp2Plan memory bytes = .fails status left) :
    status ≠ .ok ∧ status ≠ .limitExceeded ∧ (left = peer ∨
      peer.Udp2GapBeyond reportable memory bytes ∧ left = peer.udp2Fallback) := by
  unfold UdpPeer.udp2Plan at planned
  split at planned
  · rename_i status' failed
    cases planned
    have honest := honest_parseUdp2Datagram memory.packetBytes bytes
    rw [failed] at honest
    have differs := (honest_refuse status).mp honest
    exact ⟨differs.2, differs.1, .inl rfl⟩
  · cases planned
    exact ⟨nofun, nofun, .inl rfl⟩
  · rename_i datagram parses
    split at planned
    · rename_i status' failed
      cases planned
      have honest := honest_stage2 peer.udp2 memory datagram
      rw [failed] at honest
      have differs := (honest_refuse status).mp honest
      exact ⟨differs.2, differs.1, .inl rfl⟩
    · cases planned
      exact ⟨nofun, nofun, .inl rfl⟩
    · rename_i staged
      cases planned
      obtain ⟨sequence, logWindowSize, carries, started, beyond, forward⟩ := stage2_fallback staged
      exact ⟨nofun, nofun, .inr ⟨⟨datagram, sequence, logWindowSize, parses, carries, started,
        beyond, forward⟩, rfl⟩⟩
    · exact nomatch planned

theorem udp2_lawful (memory : Udp2Memory) (bytes : Bytes) :
    Lawful (udp2Gate bytes) (fun peer => peer.udp2Plan memory bytes) UdpPeer.udp2Fallback
      (UdpPeer.Udp2GapBeyond reportable memory bytes) where
  gate_blind _ _ := rfl
  gate_refuses _ _ gates := udp2Gate_refuses gates
  plan_blind peer recorded := udp2Plan_blind memory peer bytes recorded
  plan_fails _ _ _ planned := udp2Plan_fails planned

theorem processUdp2Datagram_ok
    (ended : processUdp2Datagram memory peer datagram capacity = (answer, next))
    (accepted : answer.status = .ok) :
    ∃ response, peer.udp2Plan memory datagram = .ready response next ∧
      answer = { status := .ok, responseLength := some response.length, response } := by
  rw [processUdp2Datagram_eq] at ended
  have ok := @gated_ok _ "server.udp2.datagram" "UDP2 datagram processing failed" _ _ _
    (udp2_lawful memory datagram) peer capacity
  rw [ended] at ok
  exact ok accepted

theorem stage2_advances {next : Udp2Window} {datagram : Udp2Datagram}
    {lost : Nat} {vector : Bool} (started : window.windowStarted)
    (staged : window.stage memory datagram = .ok (.accepted next lost reordered vector response)) :
    Serial.Advances (2 ^ next.logWindowSize + 1) window.nextReceiveSequence.toBitVec
      next.nextReceiveSequence.toBitVec := by
  simp only [Udp2Window.stage] at staged
  split at staged
  · cases staged
    exact .inl rfl
  rename_i sequence logWindowSize carries
  split at staged
  · rename_i arrives
    obtain ⟨response', -, accepted⟩ := bind_eq_ok.mp staged
    cases accepted
    apply Serial.advances_past
    have here : (sequence - window.nextReceiveSequence).toNat = 0 := by
      unfold Udp2Window.arrival at arrives
      grind
    exact Nat.le_trans (Nat.le_of_eq here) (Nat.zero_le _)
  · rename_i arrives
    obtain ⟨response', -, accepted⟩ := bind_eq_ok.mp staged
    cases accepted
    apply Serial.advances_past
    have within : (sequence - window.nextReceiveSequence).toNat ≤ 2 ^ logWindowSize := by
      unfold Udp2Window.arrival at arrives
      grind
    exact within
  · obtain ⟨response', -, accepted⟩ := bind_eq_ok.mp staged
    cases accepted
    exact .inl rfl
  · exact nomatch staged

theorem udp2Plan_advances (started : peer.udp2.windowStarted)
    (planned : peer.udp2Plan memory bytes = .ready response next) :
    Serial.Advances (2 ^ next.udp2.logWindowSize + 1) peer.udp2.nextReceiveSequence.toBitVec
      next.udp2.nextReceiveSequence.toBitVec := by
  unfold UdpPeer.udp2Plan at planned
  split at planned
  · exact nomatch planned
  · exact nomatch planned
  · split at planned
    · exact nomatch planned
    · exact nomatch planned
    · exact nomatch planned
    · rename_i staged
      cases planned
      have moved := stage2_advances started staged
      exact moved

/-! ## Both transports -/

/-- Processing is transactional in both transports. What is accepted leaves the next expected
    number or moves it forward by at most one more than the window (in reliable mode and UDP2,
    once the window has started), and no mode touches the window of the other. -/
theorem datagrams_are_transactional :
    (∀ memory reliable datagram, Transactional
      (fun peer capacity => processUdpDatagramMode memory peer reliable datagram capacity)
      (fun peer => peer.udpFallback reliable)
      (fun peer => reliable ∧ peer.UdpGapBeyond reportable datagram)) ∧
    (∀ memory datagram, Transactional
      (fun peer capacity => processUdp2Datagram memory peer datagram capacity)
      UdpPeer.udp2Fallback (UdpPeer.Udp2GapBeyond reportable memory datagram)) ∧
    (∀ memory peer datagram capacity answer next,
      processUdpDatagramMode memory peer true datagram capacity = (answer, next) →
      answer.status = .ok → peer.reliable.windowStarted →
      Serial.Advances (next.reliable.receiveWindow.toNat + 1)
        peer.reliable.nextReceiveSequence.toBitVec
        next.reliable.nextReceiveSequence.toBitVec) ∧
    (∀ memory peer datagram capacity answer next,
      processUdp2Datagram memory peer datagram capacity = (answer, next) →
      answer.status = .ok → peer.udp2.windowStarted →
      Serial.Advances (2 ^ next.udp2.logWindowSize + 1) peer.udp2.nextReceiveSequence.toBitVec
        next.udp2.nextReceiveSequence.toBitVec) ∧
    (∀ memory peer reliable datagram capacity,
      (processUdpDatagramMode memory peer reliable datagram capacity).2.mode (!reliable) =
        peer.mode (!reliable)) := by
  refine ⟨?_, ?_, ?_, ?_, processUdpDatagramMode_other⟩
  · intro memory reliable datagram
    simp only [processUdpDatagramMode_eq]
    exact gated_transactional (udp_lawful memory reliable datagram)
  · intro memory datagram
    simp only [processUdp2Datagram_eq]
    exact gated_transactional (udp2_lawful memory datagram)
  · intro memory peer datagram capacity answer next ended accepted started
    obtain ⟨response, planned, -⟩ := processUdpDatagramMode_ok ended accepted
    exact udpPlan_advances started planned
  · intro memory peer datagram capacity answer next ended accepted started
    obtain ⟨response, planned, -⟩ := processUdp2Datagram_ok ended accepted
    exact udp2Plan_advances started planned

def startedPeer : UdpPeer :=
  { state := .active, udpRequested := true, udp2Requested := true, negotiated := true
    reliable := { selected := true, windowStarted := true } }

/-- A data datagram of the sequence number `low + 256 * high` and an empty payload. -/
def dataDatagram (window low high : UInt8) : Bytes :=
  [0, 0, 0, 0, window, window, 8, 0, 8, 0, low, high, 0, 0, 0, 0, 0, 0]

/-- A response that does not fit is asked for again with the size it was reported to need. -/
theorem datagrams_are_transactional_retry :
    (processUdpDatagramMode true startedPeer true (dataDatagram 1 0 0) 0).1.responseLength =
      some 12 ∧
    (processUdpDatagramMode true
      (processUdpDatagramMode true startedPeer true (dataDatagram 1 0 0) 0).2 true
      (dataDatagram 1 0 0) 12).1 =
    (processUdpDatagramMode true startedPeer true (dataDatagram 1 0 0) 100).1 :=
  ⟨by decide, ((datagrams_are_transactional.1 true true (dataDatagram 1 0 0)).retried startedPeer
    0 12 100 (by decide) (by decide) (by decide)).2.1⟩

/-- The window is not the only limit: a gap of 8129 packets within a window of 65535 gives the
    transport up too, because no vector can report it. And the record of a call whose buffer was
    too small outlives the retry. -/
theorem gap_within_window_falls_back :
    ¬ (∀ memory reliable datagram, Transactional
      (fun peer capacity => processUdpDatagramMode memory peer reliable datagram capacity)
      (fun peer => peer.udpFallback reliable)
      (fun peer => reliable ∧ peer.UdpGapBeyond id datagram)) ∧
    (processUdpDatagramMode true
      (processUdpDatagramMode true startedPeer true (dataDatagram 1 0 0) 0).2 true
      (dataDatagram 1 0 0) 12).2 ≠
    (processUdpDatagramMode true startedPeer true (dataDatagram 1 0 0) 100).2 := by
  refine ⟨?_, by decide⟩
  intro all
  obtain ⟨recorded, left⟩ :=
    (all true true (dataDatagram 255 0xc1 0x1f)).refused startedPeer 100 (by decide)
  have latched : (processUdpDatagramMode true startedPeer true (dataDatagram 255 0xc1 0x1f)
      100).2.reliable.fallbackTcp = true := by decide
  cases left with
  | inl same =>
      rw [same] at latched
      exact nomatch latched
  | inr gone =>
      obtain ⟨⟨-, sequence, window, parses, -, beyond, -⟩, -⟩ := gone
      have parsed : udpParseDatagram true (dataDatagram 255 0xc1 0x1f) =
          .ok (.data 8129 65535) := rfl
      rw [parsed] at parses
      cases parses
      exact absurd beyond (by decide)

end LibRdp.Server
