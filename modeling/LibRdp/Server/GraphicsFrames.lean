import LibRdp.Machine.Run
import LibRdp.Server.Peer

/-! # Frames of the graphics pipeline

A server numbers the frames it sends and lets only so many of them wait for the client's
acknowledgement. What is counted is compared with a ledger of the frames that were ended
and the highest number that was acknowledged since the last reset.
-/

namespace LibRdp.Server

open Machine

/-- `RDP_SERVER_GRAPHICS_FRAME_QUEUE_LIMIT_DEFAULT`. -/
def graphicsFrameQueueLimitDefault : UInt32 := 4

/-- `RDP_GRAPHICS_CMDID_START_FRAME`, `_END_FRAME` and `_FRAME_ACKNOWLEDGE`. -/
def graphicsCmdStartFrame : UInt16 := 0x000b
def graphicsCmdEndFrame : UInt16 := 0x000c
def graphicsCmdFrameAcknowledge : UInt16 := 0x000d

/-- `rdp_graphics_header`. -/
structure GraphicsHeader where
  cmdId : UInt16
  flags : UInt16
  pduLength : UInt32
  deriving Repr, DecidableEq

/-- `rdp_graphics_parse_header`; what follows the header is returned with it. -/
def graphicsParseHeader (data : Bytes) : Attempt (GraphicsHeader × Bytes) := do
  let (cmdId, stream) ← readU16Le data
  let (flags, stream) ← readU16Le stream
  let (pduLength, stream) ← readU32Le stream
  if flags ≠ 0 ∨ pduLength.toNat < 8 ∨ pduLength.toNat > data.length then refuse .protocolError
  else pure ({ cmdId, flags, pduLength }, stream)

/-- `rdp_graphics_frame_ack`. -/
structure GraphicsFrameAck where
  queueDepth : UInt32
  frameId : UInt32
  totalFramesDecoded : UInt32
  deriving Repr, DecidableEq

/-- `rdp_graphics_parse_frame_ack`, with `rdp_graphics_parse_fixed_header`. -/
def graphicsParseFrameAck (data : Bytes) : Attempt GraphicsFrameAck := do
  let (header, stream) ← graphicsParseHeader data
  if header.cmdId ≠ graphicsCmdFrameAcknowledge ∨ header.pduLength ≠ 20 ∨ data.length ≠ 20 then
    refuse .protocolError
  else
    let (queueDepth, stream) ← readU32Le stream
    let (frameId, stream) ← readU32Le stream
    let (totalFramesDecoded, _) ← readU32Le stream
    pure { queueDepth, frameId, totalFramesDecoded }

/-- `rdp_graphics_write_header`. -/
def graphicsWriteHeader (cmdId : UInt16) (pduLength : Nat) : Bytes :=
  u16LeBytes cmdId.toNat ++ u16LeBytes 0 ++ u32LeBytes pduLength

/-- `rdp_graphics_write_start_frame`. -/
def graphicsWriteStartFrame (timestamp frameId : UInt32) : Bytes :=
  graphicsWriteHeader graphicsCmdStartFrame 16 ++ u32LeBytes timestamp.toNat ++
    u32LeBytes frameId.toNat

/-- `rdp_graphics_write_end_frame`. -/
def graphicsWriteEndFrame (frameId : UInt32) : Bytes :=
  graphicsWriteHeader graphicsCmdEndFrame 12 ++ u32LeBytes frameId.toNat

/-- The part of `librdp_server_peer` that frames use. -/
structure FramePeer where
  nextFrameId : UInt32 := 0
  lastSentFrameId : UInt32 := 0
  lastAckFrameId : UInt32 := 0
  totalAckedFrames : UInt32 := 0
  pendingFrames : UInt32 := 0
  frameQueueLimit : UInt32 := 0
  openFrameId : UInt32 := 0
  frameOpen : Bool := false
  limitsRejected : UInt64 := 0
  deriving Repr, DecidableEq

def effectiveLimit (limit : UInt32) : UInt32 :=
  if limit = 0 then graphicsFrameQueueLimitDefault else limit

/-- `rdp_server_graphics_frame_state_reset`. -/
def graphicsFrameStateReset (peer : FramePeer) : FramePeer :=
  { peer with
    nextFrameId := 1, lastSentFrameId := 0, lastAckFrameId := 0, totalAckedFrames := 0
    pendingFrames := 0, openFrameId := 0, frameOpen := false
    frameQueueLimit := effectiveLimit peer.frameQueueLimit }

/-- `librdp_server_peer_send_graphics_start_frame`: the status and `*frame_id`. `send` is
    `rdp_server_send_graphics_buffer` on the channel of the call. -/
def sendGraphicsStartFrame (peer : FramePeer) (timestamp : UInt32) (send : Bytes → Status) :
    (Status × UInt32) × FramePeer :=
  if peer.frameOpen then ((.state, 0), peer)
  else
    let peer := { peer with frameQueueLimit := effectiveLimit peer.frameQueueLimit }
    if peer.pendingFrames ≥ peer.frameQueueLimit ∨ peer.nextFrameId = 0xffffffff then
      ((.limitExceeded, 0), { peer with limitsRejected := serverMetricAdd peer.limitsRejected 1 })
    else
      let nextFrameId := if peer.nextFrameId = 0 then 1 else peer.nextFrameId
      match send (graphicsWriteStartFrame timestamp nextFrameId) with
      | .ok =>
          ((.ok, nextFrameId),
            { peer with
              openFrameId := nextFrameId, frameOpen := true, lastSentFrameId := nextFrameId
              nextFrameId := nextFrameId + 1 })
      | status => ((status, 0), peer)

/-- `librdp_server_peer_send_graphics_end_frame`. -/
def sendGraphicsEndFrame (peer : FramePeer) (frameId : UInt32) (send : Bytes → Status) :
    Status × FramePeer :=
  if frameId = 0 then (.invalidArgument, peer)
  else if !peer.frameOpen ∨ peer.openFrameId ≠ frameId then (.state, peer)
  else
    match send (graphicsWriteEndFrame frameId) with
    | .ok =>
        (.ok, { peer with frameOpen := false, openFrameId := 0
                          pendingFrames := peer.pendingFrames + 1 })
    | status => (status, peer)

/-- The part of `rdp_server_graphics_handle_frame_ack` after parsing. -/
def acknowledgeFrame (peer : FramePeer) (ack : GraphicsFrameAck) : Status × FramePeer :=
  if ack.frameId > peer.lastSentFrameId ∨ (ack.frameId = 0 ∧ peer.lastSentFrameId ≠ 0) then
    (.protocolError, peer)
  else if ack.frameId > peer.lastAckFrameId then
    let ackedDelta := ack.frameId - peer.lastAckFrameId
    (.ok, { peer with
            pendingFrames :=
              if ackedDelta ≥ peer.pendingFrames then 0 else peer.pendingFrames - ackedDelta
            lastAckFrameId := ack.frameId, totalAckedFrames := ack.totalFramesDecoded })
  else (.ok, { peer with totalAckedFrames := ack.totalFramesDecoded })

/-- The acknowledgement in a message of the graphics channel, if it is one. -/
def frameAckOf (data : Bytes) : Attempt (Option GraphicsFrameAck) := do
  let (header, _) ← graphicsParseHeader data
  if header.cmdId ≠ graphicsCmdFrameAcknowledge then pure none
  else
    let ack ← graphicsParseFrameAck data
    pure (some ack)

/-- `rdp_server_graphics_handle_frame_ack`. -/
def graphicsHandleFrameAck (peer : FramePeer) (data : Bytes) : Status × FramePeer :=
  match frameAckOf data with
  | .error (.returned status) => (status, peer)
  | .error (.fault _) => (.invalidArgument, peer)
  | .ok none => (.ok, peer)
  | .ok (some ack) => acknowledgeFrame peer ack

structure FrameLedger where
  ended : List Nat := []
  acknowledged : Nat := 0
  deriving Repr, DecidableEq

def FrameLedger.waiting (ledger : FrameLedger) : Nat :=
  ledger.ended.countP (ledger.acknowledged < ·)

inductive FrameInput where
  | start (timestamp : UInt32) (send : Bytes → Status)
  | finish (frameId : UInt32) (send : Bytes → Status)
  | message (data : Bytes)
  | reset

def frameStep (state : FramePeer × FrameLedger) : FrameInput →
    Exec (Status × FramePeer × FrameLedger)
  | .start timestamp send =>
      let (answer, peer) := sendGraphicsStartFrame state.1 timestamp send
      .ok (answer.1, peer, state.2)
  | .finish frameId send =>
      let (status, peer) := sendGraphicsEndFrame state.1 frameId send
      let ended := if status = .ok then state.2.ended ++ [frameId.toNat] else state.2.ended
      .ok (status, peer, { state.2 with ended })
  | .message data =>
      let (status, peer) := graphicsHandleFrameAck state.1 data
      let acknowledged := match status, frameAckOf data with
        | .ok, .ok (some ack) => max state.2.acknowledged ack.frameId.toNat
        | _, _ => state.2.acknowledged
      .ok (status, peer, { state.2 with acknowledged })
  | .reset => .ok (.ok, graphicsFrameStateReset state.1, {})

def frameStart (peer : FramePeer) : FramePeer × FrameLedger := (graphicsFrameStateReset peer, {})

def NotOpen (state : FramePeer × FrameLedger) (input : FrameInput) : Prop :=
  ∀ data ack, input = .message data → frameAckOf data = .ok (some ack) →
    ¬ (state.1.frameOpen ∧ ack.frameId = state.1.openFrameId)

section Operations

variable {peer peer' : FramePeer}

variable {send : Bytes → Status}

theorem sendGraphicsStartFrame_cases {timestamp : UInt32} {answer : Status × UInt32}
    (limited : peer.frameQueueLimit ≠ 0)
    (done : sendGraphicsStartFrame peer timestamp send = (answer, peer')) :
    (∃ limitsRejected, peer' = { peer with limitsRejected }) ∨
    (peer.frameOpen = false ∧ peer.pendingFrames < peer.frameQueueLimit ∧
      peer.nextFrameId ≠ 0xffffffff ∧ ∃ frameId,
        frameId = (if peer.nextFrameId = 0 then 1 else peer.nextFrameId) ∧
        peer' = { peer with
          openFrameId := frameId, frameOpen := true, lastSentFrameId := frameId
          nextFrameId := frameId + 1 }) := by
  have same : effectiveLimit peer.frameQueueLimit = peer.frameQueueLimit := if_neg limited
  unfold sendGraphicsStartFrame at done
  split at done
  · cases done
    exact .inl ⟨_, rfl⟩
  rename_i closed
  simp only [same] at done
  split at done
  · cases done
    exact .inl ⟨_, rfl⟩
  rename_i room
  split at done
  · cases done
    refine .inr ⟨by simpa using closed, ?_, ?_, _, rfl, rfl⟩
    · exact UInt32.not_le.mp fun full => room (.inl full)
    · exact fun last => room (.inr last)
  · cases done
    exact .inl ⟨_, rfl⟩

theorem sendGraphicsEndFrame_cases {frameId : UInt32} {status : Status}
    (done : sendGraphicsEndFrame peer frameId send = (status, peer')) :
    (status ≠ .ok ∧ peer' = peer) ∨
    (status = .ok ∧ peer.frameOpen ∧ peer.openFrameId = frameId ∧
      peer' = { peer with
        frameOpen := false, openFrameId := 0, pendingFrames := peer.pendingFrames + 1 }) := by
  unfold sendGraphicsEndFrame at done
  split at done
  · cases done
    exact .inl ⟨nofun, rfl⟩
  split at done
  · cases done
    exact .inl ⟨nofun, rfl⟩
  rename_i isOpen
  split at done
  · cases done
    refine .inr ⟨rfl, ?_, ?_, rfl⟩
    · simpa using fun closed => isOpen (.inl closed)
    · exact Classical.byContradiction fun other => isOpen (.inr other)
  rename_i failed
  cases done
  exact .inl ⟨failed, rfl⟩

theorem acknowledgeFrame_cases {ack : GraphicsFrameAck} {status : Status}
    (done : acknowledgeFrame peer ack = (status, peer')) :
    (status ≠ .ok ∧ peer' = peer) ∨
    (status = .ok ∧ ack.frameId ≤ peer.lastSentFrameId ∧
      ((ack.frameId ≤ peer.lastAckFrameId ∧
        peer' = { peer with totalAckedFrames := ack.totalFramesDecoded }) ∨
      (peer.lastAckFrameId < ack.frameId ∧
        peer' = { peer with
          pendingFrames :=
            if ack.frameId - peer.lastAckFrameId ≥ peer.pendingFrames then 0
            else peer.pendingFrames - (ack.frameId - peer.lastAckFrameId)
          lastAckFrameId := ack.frameId, totalAckedFrames := ack.totalFramesDecoded }))) := by
  unfold acknowledgeFrame at done
  split at done
  · cases done
    exact .inl ⟨nofun, rfl⟩
  rename_i inside
  have sent : ack.frameId ≤ peer.lastSentFrameId :=
    UInt32.not_lt.mp fun beyond => inside (.inl beyond)
  split at done
  · rename_i newer
    cases done
    exact .inr ⟨rfl, sent, .inr ⟨newer, rfl⟩⟩
  rename_i older
  cases done
  exact .inr ⟨rfl, sent, .inl ⟨UInt32.not_lt.mp older, rfl⟩⟩

end Operations

def FramePeer.opened (peer : FramePeer) : Nat := if peer.frameOpen then 1 else 0

structure WithinLimit (peer : FramePeer) : Prop where
  limited : peer.frameQueueLimit ≠ 0
  within : peer.pendingFrames.toNat + peer.opened ≤ peer.frameQueueLimit.toNat

theorem withinLimit_reset (peer : FramePeer) : WithinLimit (graphicsFrameStateReset peer) where
  limited := by
    simp only [graphicsFrameStateReset, effectiveLimit]
    split
    · decide
    · assumption
  within := Nat.zero_le _

theorem acknowledged_pending_le {pending delta : UInt32} :
    (if delta ≥ pending then 0 else pending - delta : UInt32).toNat = pending.toNat - delta.toNat := by
  split
  · rename_i all
    have le : pending.toNat ≤ delta.toNat := UInt32.le_iff_toNat_le.mp all
    rw [Nat.sub_eq_zero_of_le le]
    rfl
  rename_i some
  have le : delta ≤ pending := UInt32.le_of_lt (UInt32.not_le.mp some)
  exact UInt32.toNat_sub_of_le _ _ le

variable {state state' : FramePeer × FrameLedger} {status : Status} {peer : FramePeer}
  {ledger : FrameLedger}

variable {input : FrameInput} {frameId : UInt32}

theorem frameStep_withinLimit (held : WithinLimit state.1)
    (step : frameStep state input = .ok (status, state')) : WithinLimit state'.1 := by
  cases input with
  | reset =>
    cases step
    exact withinLimit_reset state.1
  | start timestamp send =>
    cases done : sendGraphicsStartFrame state.1 timestamp send with
    | mk answer peer =>
      simp only [frameStep, done] at step
      cases step
      cases sendGraphicsStartFrame_cases held.limited done with
      | inl same =>
        obtain ⟨rejected, rfl⟩ := same
        exact ⟨held.limited, held.within⟩
      | inr started =>
        obtain ⟨closed, room, -, frameId, -, rfl⟩ := started
        refine ⟨held.limited, ?_⟩
        have below := UInt32.lt_iff_toNat_lt.mp room
        simp only [FramePeer.opened, if_true]
        omega
  | finish frameId send =>
    cases done : sendGraphicsEndFrame state.1 frameId send with
    | mk status peer =>
      simp only [frameStep, done] at step
      cases step
      cases sendGraphicsEndFrame_cases done with
      | inl same =>
        rw [same.2]
        exact held
      | inr ended =>
        obtain ⟨-, isOpen, -, rfl⟩ := ended
        refine ⟨held.limited, ?_⟩
        have within := held.within
        have bound := state.1.frameQueueLimit.toNat_lt
        simp only [FramePeer.opened, isOpen, if_true] at within
        simp only [FramePeer.opened, Bool.false_eq_true, if_false, UInt32.toNat_add]
        have one : (1 : UInt32).toNat = 1 := rfl
        omega
  | message data =>
    cases done : graphicsHandleFrameAck state.1 data with
    | mk status peer =>
      simp only [frameStep, done] at step
      cases step
      unfold graphicsHandleFrameAck at done
      split at done
      · cases done
        exact held
      · cases done
        exact held
      · cases done
        exact held
      · cases acknowledgeFrame_cases done with
        | inl same =>
          rw [same.2]
          exact held
        | inr taken =>
          cases taken.2.2 with
          | inl older =>
            rw [older.2]
            exact ⟨held.limited, held.within⟩
          | inr newer =>
            rw [newer.2]
            refine ⟨held.limited, ?_⟩
            have within := held.within
            simp only [FramePeer.opened] at within
            simp only [FramePeer.opened, acknowledged_pending_le]
            omega

/-- The frames that were ended: all that were started but the open one. -/
def FramePeer.endedFrames (peer : FramePeer) : Nat := peer.lastSentFrameId.toNat - peer.opened

structure Accounted (state : FramePeer × FrameLedger) : Prop where
  withinLimit : WithinLimit state.1
  next : state.1.nextFrameId.toNat = state.1.lastSentFrameId.toNat + 1
  isOpen : state.1.frameOpen →
    state.1.openFrameId = state.1.lastSentFrameId ∧ 0 < state.1.lastSentFrameId.toNat
  ended : state.2.ended = List.range' 1 state.1.endedFrames
  acknowledged : state.2.acknowledged = state.1.lastAckFrameId.toNat
  behind : state.1.lastAckFrameId.toNat ≤ state.1.endedFrames
  pending : state.1.pendingFrames.toNat = state.1.endedFrames - state.1.lastAckFrameId.toNat

theorem countP_range_gt (below count : Nat) :
    (List.range' 1 count).countP (below < ·) = count - below := by
  induction count with
  | zero => rw [Nat.zero_sub]; rfl
  | succ count ih =>
    rw [List.range'_1_concat, List.countP_append, ih, List.countP_singleton]
    simp only [decide_eq_true_eq]
    split <;> omega

theorem Accounted.waiting (accounted : Accounted state) :
    state.1.pendingFrames.toNat = state.2.waiting := by
  rw [accounted.pending, FrameLedger.waiting, accounted.ended, accounted.acknowledged,
    countP_range_gt]

theorem accounted_start (peer : FramePeer) : Accounted (frameStart peer) where
  withinLimit := withinLimit_reset peer
  next := rfl
  isOpen := nofun
  ended := rfl
  acknowledged := rfl
  behind := Nat.le_refl 0
  pending := rfl

theorem accounted_started (held : Accounted (peer, ledger)) (closed : peer.frameOpen = false)
    (last : peer.nextFrameId ≠ 0xffffffff)
    (numbered : frameId = if peer.nextFrameId = 0 then 1 else peer.nextFrameId)
    (limit : WithinLimit { peer with
      openFrameId := frameId, frameOpen := true, lastSentFrameId := frameId
      nextFrameId := frameId + 1 }) :
    Accounted ({ peer with
      openFrameId := frameId, frameOpen := true, lastSentFrameId := frameId
      nextFrameId := frameId + 1 }, ledger) := by
  have next := held.next
  have some : peer.nextFrameId ≠ 0 := by
    intro zero
    rw [zero] at next
    exact absurd next (Nat.succ_ne_zero _).symm
  rw [if_neg some] at numbered
  subst numbered
  have bound := peer.nextFrameId.toNat_lt
  have notLast : peer.nextFrameId.toNat ≠ 4294967295 := fun is =>
    last (UInt32.toNat_inj.mp is)
  have one : (1 : UInt32).toNat = 1 := rfl
  have same : ({ peer with
      openFrameId := peer.nextFrameId, frameOpen := true, lastSentFrameId := peer.nextFrameId
      nextFrameId := peer.nextFrameId + 1 } : FramePeer).endedFrames = peer.endedFrames := by
    simp only [FramePeer.endedFrames, FramePeer.opened, closed, if_true, Bool.false_eq_true,
      if_false]
    exact congrArg (· - 1) next
  constructor
  · exact limit
  · simp only [UInt32.toNat_add, one]
    omega
  · intro _
    have positive : 0 < peer.nextFrameId.toNat := Nat.lt_of_lt_of_eq (Nat.succ_pos _) next.symm
    exact ⟨rfl, positive⟩
  · rw [same]
    exact held.ended
  · exact held.acknowledged
  · rw [same]
    exact held.behind
  · rw [same]
    exact held.pending

theorem accounted_ended (held : Accounted (peer, ledger)) (isOpen : peer.frameOpen)
    (named : peer.openFrameId = frameId) (limit : WithinLimit { peer with
      frameOpen := false, openFrameId := 0, pendingFrames := peer.pendingFrames + 1 }) :
    Accounted ({ peer with
      frameOpen := false, openFrameId := 0, pendingFrames := peer.pendingFrames + 1 },
      { ledger with ended := ledger.ended ++ [frameId.toNat] }) := by
  obtain ⟨sent, positive⟩ := held.isOpen isOpen
  have number : frameId.toNat = peer.lastSentFrameId.toNat := by rw [← named, sent]
  have before : peer.endedFrames = peer.lastSentFrameId.toNat - 1 := by
    simp only [FramePeer.endedFrames, FramePeer.opened, isOpen, if_true]
  have after : ({ peer with
      frameOpen := false, openFrameId := 0, pendingFrames := peer.pendingFrames + 1 } :
      FramePeer).endedFrames = peer.endedFrames + 1 := by
    rw [before]
    exact (Nat.succ_pred_eq_of_pos positive).symm
  have one : (1 : UInt32).toNat = 1 := rfl
  have counted : peer.pendingFrames.toNat = peer.endedFrames - peer.lastAckFrameId.toNat :=
    held.pending
  have behind : peer.lastAckFrameId.toNat ≤ peer.endedFrames := held.behind
  have shown : ledger.ended = List.range' 1 peer.endedFrames := held.ended
  have bound := peer.lastSentFrameId.toNat_lt
  have some : 0 < peer.lastSentFrameId.toNat := positive
  constructor
  · exact limit
  · exact held.next
  · exact nofun
  · have last : 1 + (peer.lastSentFrameId.toNat - 1) = peer.lastSentFrameId.toNat := by omega
    rw [after, List.range'_1_concat, shown, number, before, last]
  · exact held.acknowledged
  · rw [after]
    exact Nat.le_succ_of_le behind
  · rw [after]
    simp only [UInt32.toNat_add, one]
    omega

theorem accounted_acknowledged {peer' : FramePeer} {ack : GraphicsFrameAck}
    (held : Accounted (peer, ledger))
    (notOpen : ¬ (peer.frameOpen ∧ ack.frameId = peer.openFrameId))
    (done : acknowledgeFrame peer ack = (status, peer')) (limit : WithinLimit peer') :
    Accounted (peer', { ledger with
      acknowledged := if status = .ok then max ledger.acknowledged ack.frameId.toNat
        else ledger.acknowledged }) := by
  have behind := held.behind
  have counted := held.pending
  have acked := held.acknowledged
  simp only at behind counted acked
  cases acknowledgeFrame_cases done with
  | inl same =>
    rw [same.2, if_neg same.1]
    exact held
  | inr taken =>
    obtain ⟨ok, sent, effect⟩ := taken
    rw [if_pos ok]
    cases effect with
    | inl older =>
      obtain ⟨known, rfl⟩ := older
      have le := UInt32.le_iff_toNat_le.mp known
      have still : max ledger.acknowledged ack.frameId.toNat = ledger.acknowledged := by omega
      rw [still]
      exact ⟨limit, held.next, held.isOpen, held.ended, acked, behind, counted⟩
    | inr newer =>
      obtain ⟨new, rfl⟩ := newer
      have lt := UInt32.lt_iff_toNat_lt.mp new
      have le := UInt32.le_iff_toNat_le.mp sent
      have delta := UInt32.toNat_sub_of_le _ _ (UInt32.le_of_lt new)
      have ended : ack.frameId.toNat ≤ peer.endedFrames := by
        by_cases isOpen : peer.frameOpen
        · obtain ⟨opened, positive⟩ := held.isOpen isOpen
          have other : ack.frameId.toNat ≠ peer.lastSentFrameId.toNat := fun is =>
            notOpen ⟨isOpen, (UInt32.toNat_inj.mp is).trans opened.symm⟩
          simp only [FramePeer.endedFrames, FramePeer.opened, isOpen, if_true]
          omega
        simp only [FramePeer.endedFrames, FramePeer.opened, isOpen, Bool.false_eq_true,
          if_false]
        exact le
      refine ⟨limit, held.next, held.isOpen, held.ended, ?_, ended, ?_⟩
      · simp only
        omega
      · simp only [acknowledged_pending_le, delta]
        have same : ({ peer with
            pendingFrames := if ack.frameId - peer.lastAckFrameId ≥ peer.pendingFrames then 0
              else peer.pendingFrames - (ack.frameId - peer.lastAckFrameId)
            lastAckFrameId := ack.frameId, totalAckedFrames := ack.totalFramesDecoded } :
            FramePeer).endedFrames = peer.endedFrames := rfl
        rw [same]
        omega

theorem frameStep_accounted (held : Accounted state) (notOpen : NotOpen state input)
    (step : frameStep state input = .ok (status, state')) : Accounted state' := by
  have limit := frameStep_withinLimit held.withinLimit step
  obtain ⟨peer, ledger⟩ := state
  cases input with
  | reset =>
    cases step
    exact accounted_start peer
  | start timestamp send =>
    cases done : sendGraphicsStartFrame peer timestamp send with
    | mk answer peer' =>
      simp only [frameStep, done] at step
      cases step
      cases sendGraphicsStartFrame_cases held.withinLimit.limited done with
      | inl same =>
        obtain ⟨rejected, rfl⟩ := same
        exact ⟨limit, held.next, held.isOpen, held.ended, held.acknowledged, held.behind,
          held.pending⟩
      | inr started =>
        obtain ⟨closed, -, last, frameId, numbered, rfl⟩ := started
        exact accounted_started held closed last numbered limit
  | finish frameId send =>
    cases done : sendGraphicsEndFrame peer frameId send with
    | mk status peer' =>
      simp only [frameStep, done] at step
      cases step
      cases sendGraphicsEndFrame_cases done with
      | inl same =>
        rw [same.2, if_neg same.1]
        exact held
      | inr ended =>
        obtain ⟨ok, isOpen, named, rfl⟩ := ended
        rw [if_pos ok]
        exact accounted_ended held isOpen named limit
  | message data =>
    cases done : graphicsHandleFrameAck peer data with
    | mk status peer' =>
      simp only [frameStep, done] at step
      cases step
      unfold graphicsHandleFrameAck at done
      split at done
      · rename_i parsed
        cases done
        simp only [parsed]
        exact held
      · cases done
        exact held
      · rename_i parsed
        cases done
        simp only [parsed]
        exact held
      · rename_i ack parsed
        have named := notOpen data ack rfl parsed
        have next := accounted_acknowledged held named done limit
        simp only [parsed]
        cases status <;> exact next

/-- In every run the count of waiting frames is within the limit. In every run without an
    acknowledgement of the frame that is still open it is the ledger's, and an acknowledgement of
    all ended frames brings it back to zero. -/
theorem pending_frames_accounted (peer : FramePeer) :
    (∀ state, Reachable frameStep (frameStart peer) state →
      state.1.pendingFrames ≤ state.1.frameQueueLimit) ∧
    ∀ state, ReachableWithin frameStep NotOpen (frameStart peer) state →
      state.1.pendingFrames.toNat = state.2.waiting ∧
      ∀ data ack status peer', frameAckOf data = .ok (some ack) →
        NotOpen state (.message data) → (∀ frameId ∈ state.2.ended, frameId ≤ ack.frameId.toNat) →
        graphicsHandleFrameAck state.1 data = (status, peer') → status = .ok →
        peer'.pendingFrames = 0 := by
  refine ⟨?_, ?_⟩
  · intro state reached
    have held := reached.invariant (fun state => WithinLimit state.1) (withinLimit_reset peer)
      (fun _ _ _ _ held step => frameStep_withinLimit held step)
    apply UInt32.le_iff_toNat_le.mpr
    have within := held.within
    omega
  · intro state reached
    have held := reached.invariant Accounted (accounted_start peer)
      (fun _ _ _ _ held notOpen step => frameStep_accounted held notOpen step)
    refine ⟨held.waiting, ?_⟩
    intro data ack status peer' parsed notOpen covers done ok
    have step : frameStep state (.message data) = .ok (.ok, peer', { state.2 with
        acknowledged := max state.2.acknowledged ack.frameId.toNat }) := by
      simp only [frameStep, done, ok, parsed]
    have counted := (frameStep_accounted held notOpen step).waiting
    apply UInt32.toNat_inj.mp
    rw [counted, FrameLedger.waiting, List.countP_eq_zero.mpr]
    · rfl
    · intro frameId ended
      have covered := covers frameId ended
      simp only [decide_eq_true_eq, Nat.not_lt]
      omega

def ackMessage (frameId : UInt8) : Bytes :=
  [0x0d, 0, 0, 0, 20, 0, 0, 0, 0, 0, 0, 0, frameId, 0, 0, 0, 0, 0, 0, 0]

/-- A peer that has started its first frame, and is told so by the step. -/
def openPeer : FramePeer :=
  { nextFrameId := 2, lastSentFrameId := 1, openFrameId := 1, frameOpen := true
    frameQueueLimit := 4 }

theorem openPeer_started : frameStep (frameStart {}) (.start 0 fun _ => .ok) =
    .ok (.ok, openPeer, {}) := rfl

/-- Of two frames that were ended the first is acknowledged, then the second. -/
theorem pending_frames_accounted_acknowledged : ∃ state,
    ReachableWithin frameStep NotOpen (frameStart {}) state ∧ state.2.ended = [1, 2] ∧
      state.2.acknowledged = 1 ∧ state.1.pendingFrames.toNat = state.2.waiting ∧
      state.2.waiting = 1 ∧
      (graphicsHandleFrameAck state.1 (ackMessage 2)).2.pendingFrames = 0 := by
  have quiet {state input} (noMessage : ∀ data, input ≠ .message data) : NotOpen state input :=
    fun data _ is => absurd is (noMessage data)
  have closed {state input} (noFrame : state.1.frameOpen = false) : NotOpen state input :=
    fun _ _ _ _ isOpen => absurd (noFrame.symm.trans isOpen.1) nofun
  have first := ReachableWithin.init.step (i := .start 0 fun _ => .ok) (quiet nofun) openPeer_started
  have ended := first.step (i := .finish 1 fun _ => .ok) (quiet nofun) rfl
  have second := ended.step (i := .start 0 fun _ => .ok) (quiet nofun) rfl
  have both := second.step (i := .finish 2 fun _ => .ok) (quiet nofun) rfl
  have reached := both.step (i := .message (ackMessage 1)) (closed rfl) rfl
  obtain ⟨counted, cleared⟩ := (pending_frames_accounted {}).2 _ reached
  refine ⟨_, reached, rfl, rfl, counted, rfl, ?_⟩
  exact cleared (ackMessage 2) _ _ _ rfl (closed rfl) (by decide) rfl rfl

/-- Acknowledged while it is open, a frame still counts as waiting once it is ended, and stays
    counted; with a limit of one the server then starts no frame any more, although all are
    acknowledged. -/
theorem open_frame_acknowledged :
    (∃ state, Reachable frameStep (frameStart {}) state ∧
      state.2.ended = [1] ∧ state.2.acknowledged = 1 ∧ state.2.waiting = 0 ∧
      state.1.pendingFrames = 1) ∧
    (run frameStep (frameStart { frameQueueLimit := 1 })
      [.start 0 (fun _ => .ok), .message (ackMessage 1), .finish 1 (fun _ => .ok),
       .message (ackMessage 1), .start 0 (fun _ => .ok)]).toOption.map
        (fun ended => (ended.1.getLast?, ended.2.2.waiting)) =
      some (some .limitExceeded, 0) := by
  refine ⟨?_, by decide +kernel⟩
  have acked : frameStep (openPeer, {}) (.message (ackMessage 1)) =
      .ok (.ok, { openPeer with lastAckFrameId := 1 }, { acknowledged := 1 }) := rfl
  have ended : frameStep ({ openPeer with lastAckFrameId := 1 }, { acknowledged := 1 })
      (.finish 1 fun _ => .ok) = .ok (.ok,
      { openPeer with
        lastAckFrameId := 1, frameOpen := false, openFrameId := 0, pendingFrames := 1 },
      { ended := [1], acknowledged := 1 }) := rfl
  exact ⟨_, ((Reachable.init.step openPeer_started).step acked).step ended, rfl, rfl, rfl, rfl⟩

end LibRdp.Server
