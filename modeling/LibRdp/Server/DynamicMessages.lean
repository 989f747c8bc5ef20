import LibRdp.Server.DynamicTable
import LibRdp.Channels.DynamicSend

/-! # Messages on the dynamic channels of a server peer

The receiver keeps what it has of a message in the slot of its channel, and knows a
message in progress by the bytes it has of it. The sender cuts a message into PDUs of
bounded size.
-/

namespace LibRdp.Server

open Machine Channels

section Dispatch

variable {π : Type} {hooks : DynamicHooks π} {peer : DynamicPeer π} {data : Bytes}

theorem handleDynamicMessage_dataFirst (ready : peer.channelsReady = true) {pdu : DataFirstPdu}
    (parsed : parseDataFirst data = .ok pdu) :
    handleDynamicMessage hooks peer data = .ok (handleDataFirst hooks peer data) := by
  obtain ⟨header, isHeader, command, _⟩ := parseFirst_inv rfl parsed
  simp only [handleDynamicMessage, isHeader, command, ready]
  rfl

theorem handleDynamicMessage_data (ready : peer.channelsReady = true) {pdu : DataPdu}
    (parsed : parseData data = .ok pdu) :
    handleDynamicMessage hooks peer data = handleData hooks peer data := by
  obtain ⟨header, isHeader, command, _⟩ := parseData_inv parsed
  simp only [handleDynamicMessage, isHeader, command, ready]
  rfl

end Dispatch

/-- What an answer tells about a message: its status and what was handed over. -/
def hears (answer : DynamicAnswer) : Status × Option Bytes := (answer.status, answer.delivered)

section Receiving

variable {π : Type} {hooks : DynamicHooks π} {peer : DynamicPeer π} {channelId : UInt32}
  {message : Bytes}

def OpenWith (channelId : UInt32) (holds : DynamicChannel → Prop) (peer : DynamicPeer π) : Prop :=
  TableOk peer.channels peer.channelCount ∧ peer.channelsReady = true ∧
    ∃ slot channel, findDynamicChannel peer channelId = some (slot, channel) ∧ holds channel

def Idle (channelId : UInt32) (peer : DynamicPeer π) : Prop :=
  OpenWith channelId (fun channel => channel.fragment = []) peer

def Gathered (channelId : UInt32) (message fragment : Bytes) (peer : DynamicPeer π) : Prop :=
  OpenWith channelId (fun channel => channel.fragment = fragment ∧
    channel.fragmentExpected.toNat = message.length) peer

theorem openWith_other {holds : DynamicChannel → Prop} {data : Bytes}
    (isOther : ofChannel channelId data = none) (isOpen : OpenWith channelId holds peer) :
    ∃ answer peer', handleDynamicMessage hooks peer data = .ok (answer, peer') ∧
      OpenWith channelId holds peer' := by
  obtain ⟨ok, ready, slot, channel, found, has⟩ := isOpen
  obtain ⟨⟨answer, peer'⟩, handled, moved⟩ := @handleDynamicMessage_moved _ hooks peer ok data
  refine ⟨answer, peer', handled, moved.table.ok ok, moved.ready ready, slot, channel, ?_, has⟩
  rw [← found]
  apply moved.table.find_other (ofChannel_none isOther)
  intro channel passes
  obtain ⟨_, usedFor⟩ := DynamicChannel.openFor_usedFor passes
  simpa [DynamicChannel.usedFor] using usedFor

variable {data : Bytes} {slot : Nat} {channel : DynamicChannel}

theorem openWith_own {holds : DynamicChannel → Prop} {answer : DynamicAnswer}
    {peer' : DynamicPeer π} (ok : TableOk peer.channels peer.channelCount)
    (ready : peer.channelsReady = true)
    (taken : handleDynamicMessage hooks peer data = .ok (answer, peer'))
    (found : findDynamicChannel peer' channelId = some (slot, channel)) (has : holds channel) :
    OpenWith channelId holds peer' := by
  obtain ⟨result, handled, moved⟩ := @handleDynamicMessage_moved _ hooks peer ok data
  rw [taken] at handled
  cases handled
  exact ⟨moved.table.ok ok, moved.ready ready, slot, channel, found, has⟩

theorem findDynamicChannel_set {slot : Nat} {channel new : DynamicChannel} {rest : π}
    (found : findDynamicChannel peer channelId = some (slot, channel))
    (isOpen : new.isOpen = channel.isOpen) (same : new.channelId = channel.channelId) :
    findDynamicChannel { peer with channels := peer.channels.set slot new, rest } channelId =
      some (slot, new) := by
  apply Table.lookup_set_found found
  obtain ⟨_, passes⟩ := Table.lookup_some found
  rw [DynamicChannel.openFor, isOpen, same]
  exact passes

def Accepts (hooks : DynamicHooks π) (message : Bytes) : Prop :=
  ∀ rest channel, (hooks.handle rest channel message).1 = .publish ∨
    (hooks.handle rest channel message).1 = .late

theorem emitReassembled_hands (slot : Nat) (channel : DynamicChannel) (data : Bytes) :
    ∃ answer rest, emitReassembled hooks peer slot channel data = (answer, { peer with rest }) ∧
      answer.delivered = some data ∧ (Accepts hooks data → answer.status = .ok) := by
  unfold emitReassembled
  cases handled : hooks.handle peer.rest channel data with
  | mk verdict rest =>
    cases verdict with
    | publish => exact ⟨_, rest, rfl, rfl, fun _ => rfl⟩
    | late => exact ⟨_, rest, rfl, rfl, fun _ => rfl⟩
    | failed status =>
      refine ⟨_, rest, rfl, rfl, fun accepts => ?_⟩
      have taken := accepts peer.rest channel
      rw [handled] at taken
      simp at taken

theorem takeFragment_last {slot : Nat} {channel new : DynamicChannel}
    (found : findDynamicChannel peer channelId = some (slot, channel))
    (isOpen : new.isOpen = channel.isOpen) (same : new.channelId = channel.channelId)
    (whole : new.fragment = message) (length : new.fragmentExpected.toNat = message.length) :
    ∃ answer peer', takeFragment hooks peer slot new = (answer, peer') ∧
      answer.delivered = some message ∧ (Accepts hooks message → answer.status = .ok) ∧
      ∃ channel', findDynamicChannel peer' channelId = some (slot, channel') ∧
        channel'.fragment = [] := by
  obtain ⟨answer, rest, emitted, handed, accepted⟩ := @emitReassembled_hands _ hooks peer slot new
    message
  let emptied : DynamicChannel := { new with fragment := [], fragmentExpected := 0 }
  refine ⟨answer, { peer with channels := peer.channels.set slot emptied, rest }, ?_, handed, accepted,
    emptied, findDynamicChannel_set found isOpen same, rfl⟩
  unfold takeFragment
  rw [whole, length, if_pos rfl, emitted]

theorem takeFragment_part {slot : Nat} {channel new : DynamicChannel}
    (found : findDynamicChannel peer channelId = some (slot, channel))
    (isOpen : new.isOpen = channel.isOpen) (same : new.channelId = channel.channelId)
    (short : new.fragment.length < new.fragmentExpected.toNat) :
    ∃ answer peer', takeFragment hooks peer slot new = (answer, peer') ∧
      hears answer = (.ok, none) ∧ findDynamicChannel peer' channelId = some (slot, new) := by
  refine ⟨{ status := .ok }, { peer with channels := peer.channels.set slot new }, ?_, rfl, ?_⟩
  · unfold takeFragment
    rw [if_neg (by omega)]
  · exact @findDynamicChannel_set _ peer channelId slot channel new peer.rest found isOpen same

variable {pdu : DataFirstPdu} {wires : List Bytes}

theorem handleDataFirst_idle (parsed : parseDataFirst data = .ok pdu)
    (found : findDynamicChannel peer pdu.channelId = some (slot, channel))
    (empty : channel.fragment = []) (within : pdu.data.length ≤ pdu.totalLength.toNat)
    (limit : pdu.totalLength.toNat ≤ dynamicMessageMax) :
    handleDataFirst hooks peer data = takeFragment hooks peer slot
      { channel with fragmentExpected := pdu.totalLength, fragment := pdu.data } := by
  have started : ¬(channel.fragment.length ≠ 0 ∨ pdu.totalLength.toNat < pdu.data.length) := by
    rw [empty, List.length_nil]
    omega
  simp only [handleDataFirst, parsed, found]
  rw [if_neg started, if_neg (Nat.not_lt.mpr limit), empty, List.nil_append]

theorem handleData_gathering {pdu : DataPdu} (parsed : parseData data = .ok pdu)
    (found : findDynamicChannel peer pdu.channelId = some (slot, channel))
    (some : channel.fragment ≠ []) (more : pdu.data ≠ [])
    (fits : (channel.fragment ++ pdu.data).length ≤ channel.fragmentExpected.toNat) :
    handleData hooks peer data = .ok (takeFragment hooks peer slot
      { channel with fragment := channel.fragment ++ pdu.data }) := by
  have has := List.length_pos_iff.mpr some
  have adds := List.length_pos_iff.mpr more
  rw [List.length_append] at fits
  have started : ¬channel.fragment.length = 0 := by omega
  have inBounds : ¬(channel.fragment.length > channel.fragmentExpected.toNat ∨
      pdu.data.length = 0) := by omega
  have room : channel.fragment.length ≤ channel.fragmentExpected.toNat := by omega
  have rest : ¬pdu.data.length > channel.fragmentExpected.toNat - channel.fragment.length := by omega
  simp only [handleData, parsed, found, if_neg started, if_neg inBounds, checkedSub_of_le room,
    ok_bind, if_neg rest, pure_eq_ok]

/-- The receiver takes a message in pieces, as long as it has some bytes of it in between. `heard`
    is any reading of the answers that tells a message handed over from none. -/
theorem server_reassembler {ρ : Type} {heard : DynamicAnswer → ρ} {quiet complete : ρ}
    (hearsQuiet : ∀ answer, hears answer = (.ok, none) → heard answer = quiet)
    (hearsMessage : ∀ answer : DynamicAnswer, answer.delivered = some message →
      (Accepts hooks message → answer.status = .ok) → heard answer = complete)
    (limit : message.length ≤ dynamicMessageMax) :
    Reassembler (handleDynamicMessage hooks) (ofChannel channelId) (ReadsPiece channelId) heard quiet
      complete message (Idle channelId) (Gathered channelId message)
      (fun fragment => fragment ≠ []) where
  startPart := by
    intro peer data wire first idle isOwn reads short some
    obtain ⟨ok, ready, slot, channel, found, empty⟩ := idle
    obtain ⟨rfl, _⟩ := ofChannel_some isOwn
    generalize total : message.length = length at reads
    cases reads with
    | @first width totalLength _ parsed =>
      have handled := @handleDynamicMessage_dataFirst _ hooks peer data ready _ parsed
      have started : first.length < totalLength.toNat := by omega
      have small : totalLength.toNat ≤ dynamicMessageMax := by omega
      rw [handleDataFirst_idle parsed found empty (Nat.le_of_lt started) small] at handled
      obtain ⟨answer, peer', took, silent, found'⟩ := @takeFragment_part _ hooks peer channelId slot
        channel { channel with fragmentExpected := totalLength, fragment := first } found rfl rfl
        started
      rw [took] at handled
      exact ⟨answer, peer', handled, hearsQuiet answer silent,
        openWith_own ok ready handled found' ⟨rfl, total.symm⟩⟩
  startWhole := by
    intro peer data wire idle isOwn reads
    obtain ⟨ok, ready, slot, channel, found, empty⟩ := idle
    obtain ⟨rfl, _⟩ := ofChannel_some isOwn
    generalize total : message.length = length at reads
    cases reads with
    | @first width totalLength _ parsed =>
      have handled := @handleDynamicMessage_dataFirst _ hooks peer data ready _ parsed
      have small : totalLength.toNat ≤ dynamicMessageMax := by omega
      rw [handleDataFirst_idle parsed found empty (Nat.le_of_eq total) small] at handled
      obtain ⟨answer, peer', took, handed, accepted, emptied, found', isEmpty⟩ :=
        @takeFragment_last _ hooks peer channelId message slot channel
          { channel with fragmentExpected := totalLength, fragment := message } found rfl rfl rfl
          total.symm
      rw [took] at handled
      exact ⟨answer, peer', handled, hearsMessage answer handed accepted,
        openWith_own ok ready handled found' isEmpty⟩
  nextPart := by
    intro peer data wire fragment piece gathered some isOwn reads more short
    obtain ⟨ok, ready, slot, channel, found, rfl, expected⟩ := gathered
    obtain ⟨rfl, _⟩ := ofChannel_some isOwn
    cases reads with
    | @more width _ parsed =>
      have handled := @handleDynamicMessage_data _ hooks peer data ready _ parsed
      have fits : (channel.fragment ++ piece).length < channel.fragmentExpected.toNat := by omega
      rw [handleData_gathering parsed found some more (Nat.le_of_lt fits)] at handled
      obtain ⟨answer, peer', took, silent, found'⟩ := @takeFragment_part _ hooks peer channelId slot
        channel { channel with fragment := channel.fragment ++ piece } found rfl rfl fits
      rw [took] at handled
      exact ⟨answer, peer', handled, hearsQuiet answer silent,
        openWith_own ok ready handled found' ⟨rfl, expected⟩⟩
  nextLast := by
    intro peer data wire fragment piece gathered some isOwn reads more whole
    obtain ⟨ok, ready, slot, channel, found, rfl, expected⟩ := gathered
    obtain ⟨rfl, _⟩ := ofChannel_some isOwn
    cases reads with
    | @more width _ parsed =>
      have handled := @handleDynamicMessage_data _ hooks peer data ready _ parsed
      have fits : (channel.fragment ++ piece).length ≤ channel.fragmentExpected.toNat := by
        apply Nat.le_of_eq
        rw [whole, expected]
      rw [handleData_gathering parsed found some more fits] at handled
      obtain ⟨answer, peer', took, handed, accepted, emptied, found', isEmpty⟩ :=
        @takeFragment_last _ hooks peer channelId message slot channel
          { channel with fragment := channel.fragment ++ piece } found rfl rfl whole expected
      rw [took] at handled
      exact ⟨answer, peer', handled, hearsMessage answer handed accepted,
        openWith_own ok ready handled found' isEmpty⟩
  ableMore := by
    intro fragment piece some
    simp [some]
  otherIdle := fun isOther idle => openWith_other isOther idle
  otherGathered := fun isOther gathered => openWith_other isOther gathered

/-! A first PDU without data leaves no trace of the message: the channel still looks idle, and each
further piece is taken for a message of its own. -/

theorem data_on_idle {data piece : Bytes} (idle : Idle channelId peer)
    (reads : ReadsPiece channelId data (.more piece)) :
    ∃ answer peer', handleDynamicMessage hooks peer data = .ok (answer, peer') ∧
      answer.delivered = some piece ∧ (Accepts hooks piece → answer.status = .ok) ∧
      Idle channelId peer' := by
  obtain ⟨ok, ready, slot, channel, found, empty⟩ := idle
  cases reads with
  | @more width _ parsed =>
    have handled := @handleDynamicMessage_data _ hooks peer data ready _ parsed
    have nothing : channel.fragment.length = 0 := by rw [empty, List.length_nil]
    simp only [handleData, parsed, found, if_pos nothing, pure_eq_ok] at handled
    obtain ⟨answer, rest, emitted, delivered, accepted⟩ := @emitReassembled_hands _ hooks peer slot
      channel piece
    rw [emitted] at handled
    exact ⟨answer, _, handled, delivered, accepted, openWith_own ok ready handled found empty⟩

theorem emptyFirst_on_idle {data : Bytes} {total : Nat} (idle : Idle channelId peer)
    (reads : ReadsPiece channelId data (.first total [])) (limit : total ≤ dynamicMessageMax) :
    ∃ answer peer', handleDynamicMessage hooks peer data = .ok (answer, peer') ∧
      hears answer = (.ok, none) ∧ Idle channelId peer' := by
  obtain ⟨ok, ready, slot, channel, found, empty⟩ := idle
  cases reads with
  | @first width totalLength _ parsed =>
    have handled := @handleDynamicMessage_dataFirst _ hooks peer data ready _ parsed
    obtain ⟨_, _, _, _, positive, _⟩ := parseFirst_inv rfl parsed
    rw [handleDataFirst_idle parsed found empty (Nat.zero_le _) limit] at handled
    obtain ⟨answer, peer', took, heard, found'⟩ := @takeFragment_part _ hooks peer channelId slot
      channel { channel with fragmentExpected := totalLength, fragment := [] } found rfl rfl positive
    rw [took] at handled
    exact ⟨answer, peer', handled, heard, openWith_own ok ready handled found' rfl⟩

theorem parseData_dataFirst (parsed : parseDataFirst data = .ok pdu) :
    ∃ stop, parseData data = .error stop := by
  cases isData : parseData data with
  | error stop => exact ⟨stop, rfl⟩
  | ok pdu' =>
    obtain ⟨header, isHeader, first, _⟩ := parseFirst_inv rfl parsed
    obtain ⟨header', isHeader', more, _⟩ := parseData_inv isData
    rw [isHeader] at isHeader'
    cases isHeader'
    rw [first] at more
    cases more

def pieceOf (wire : Bytes) : Option Bytes :=
  match parseData wire with
  | .ok pdu => some pdu.data
  | .error _ => none

theorem pieceOf_reads {wire piece : Bytes} (reads : ReadsPiece channelId wire (.more piece)) :
    pieceOf wire = some piece := by
  cases reads with
  | more parsed => rw [pieceOf, parsed]

theorem replies_pieceOf {ρ : Type} (value : Option Bytes → ρ) {pieces : List Bytes}
    (encoded : List.Forall₂ (fun wire piece => ReadsPiece channelId wire (.more piece)) wires pieces) :
    replies (fun wire _ => value (pieceOf wire)) wires =
      pieces.map (fun piece => value (some piece)) := by
  induction encoded with
  | nil => rfl
  | cons reads _ ih => rw [replies, ih, pieceOf_reads reads, List.map_cons]

/-- What a message whose first piece is empty comes to: each further piece is handed over alone.
    `heard` is any reading of the answers that the statuses and the data handed over determine. -/
theorem server_empty_first {ρ : Type} {heard : DynamicAnswer → ρ} {value : Option Bytes → ρ}
    {pieces wires : List Bytes} (quiet : ∀ answer, hears answer = (.ok, none) →
      heard answer = value none)
    (loud : ∀ piece ∈ pieces, ∀ answer : DynamicAnswer, answer.delivered = some piece →
      (Accepts hooks piece → answer.status = .ok) → heard answer = value (some piece))
    (cuts : Cuts (ReadsPiece channelId) message [] pieces wires)
    (limit : message.length ≤ dynamicMessageMax) {inputs : List Bytes}
    (own : inputs.filterMap (ofChannel channelId) = wires) (start : Idle channelId peer) :
    ∃ outs peer', run (handleDynamicMessage hooks) peer inputs = .ok (outs, peer') ∧
      heardAnswers (ofChannel channelId) heard inputs outs =
        value none :: pieces.map (fun piece => value (some piece)) ∧
      Idle channelId peer' := by
  obtain ⟨head, tail, rfl, starts, encoded⟩ := cuts.encoded
  have headReads : ∃ stop, parseData head = .error stop := by
    generalize total : message.length = length at starts
    cases starts with
    | first parsed => exact parseData_dataFirst parsed
  -- what is still to come: the whole message, or some of its further pieces
  let holds : List Bytes → DynamicPeer π → Prop := fun todo peer => Idle channelId peer ∧
    (todo = head :: tail ∨ ∃ left, (∀ piece ∈ left, piece ∈ pieces) ∧
      List.Forall₂ (fun wire piece => ReadsPiece channelId wire (.more piece)) todo left)
  have ownStep : ∀ {wire todo peer data}, ofChannel channelId data = some wire →
      holds (wire :: todo) peer → ∃ answer peer',
        handleDynamicMessage hooks peer data = .ok (answer, peer') ∧
        heard answer = value (pieceOf wire) ∧ holds todo peer' := by
    intro wire todo peer data isOwn ⟨idle, place⟩
    obtain ⟨rfl, _⟩ := ofChannel_some isOwn
    rcases place with whole | ⟨left, member, encoded'⟩
    · cases whole
      obtain ⟨answer, peer', handled, heardIt, idle'⟩ :=
        @emptyFirst_on_idle _ hooks peer channelId _ _ idle starts limit
      obtain ⟨stop, notData⟩ := headReads
      refine ⟨answer, peer', handled, ?_, idle', .inr ⟨pieces, fun _ isPiece => isPiece, encoded⟩⟩
      simp only [quiet answer heardIt, pieceOf, notData]
    · cases encoded' with
      | @cons _ piece _ left reads encoded' =>
        obtain ⟨answer, peer', handled, delivered, accepted, idle'⟩ :=
          @data_on_idle _ hooks peer channelId _ _ idle reads
        refine ⟨answer, peer', handled, ?_, idle', .inr ⟨left, ?_, encoded'⟩⟩
        · rw [loud piece (member piece (List.mem_cons_self ..)) answer delivered accepted,
            pieceOf_reads reads]
        · exact fun piece isPiece => member piece (List.mem_cons_of_mem _ isPiece)
  have otherStep : ∀ {todo peer data}, ofChannel channelId data = none → holds todo peer →
      ∃ answer peer', handleDynamicMessage hooks peer data = .ok (answer, peer') ∧
        holds todo peer' := by
    intro todo peer data isOther ⟨idle, place⟩
    obtain ⟨answer, peer', handled, idle'⟩ := @openWith_other _ hooks _ _ _ _ isOther idle
    exact ⟨answer, peer', handled, idle', place⟩
  obtain ⟨outs, peer', ran, same, last⟩ := @run_interleaved _ _ _ _ _ (handleDynamicMessage hooks)
    (ofChannel channelId) heard holds (fun wire _ => value (pieceOf wire)) ownStep otherStep _ inputs
    peer own ⟨start, .inl rfl⟩
  refine ⟨outs, peer', ran, ?_, last.1⟩
  obtain ⟨stop, notData⟩ := headReads
  rw [same, replies, replies_pieceOf value encoded, pieceOf, notData]

theorem receives_sent (idle : Idle channelId peer) (limit : message.length ≤ dynamicMessageMax)
    (sends : Sends channelId message wires) :
    ∃ outs peer', run (handleDynamicMessage hooks) peer wires = .ok (outs, peer') ∧
      outs.map DynamicAnswer.delivered =
        List.replicate (wires.length - 1) none ++ [some message] := by
  cases sends with
  | single reads =>
    obtain ⟨answer, peer', handled, delivered, _⟩ := data_on_idle idle reads
    refine ⟨[answer], peer', run_singleton handled, ?_⟩
    rw [List.map_singleton, delivered]
    rfl
  | pieces cuts some =>
    obtain ⟨outs, peer', ran, heard, _⟩ := (@server_reassembler _ hooks channelId message _
      DynamicAnswer.delivered none (.some message) (fun _ silent => congrArg Prod.snd silent)
      (fun _ handed _ => handed) limit).delivers cuts (.inl some)
      (filterMap_cuts_own cuts) idle
    refine ⟨outs, peer', ran, ?_⟩
    rw [← heardAnswers_all (fun wire isWire => ⟨wire, cuts_own cuts wire isWire⟩) ran, heard,
      cuts.length]

end Receiving

section Sending

variable {π : Type} (hooks : DynamicHooks π) (peer : DynamicPeer π)

/-- `librdp_server_peer_send_dynamic_channel_data`. -/
def sendDynamicChannelData (channelId : UInt32) (data : Bytes) : DynamicAnswer × DynamicPeer π :=
  if !peer.active then ({ status := .state }, peer)
  else if data.length > dynamicMessageMax then ({ status := .limitExceeded }, peer)
  else
    match findDynamicChannel peer channelId with
    | none => ({ status := .invalidArgument }, peer)
    | some (_, channel) =>
        if data.length ≤ singleMessageLimit then
          let (status, sent, peer) := sendSingle (sendDynamicPacket hooks) channelId
            channel.channelIdBytes channel.priority peer data
          ({ status, sent }, peer)
        else
          let firstCapacity := maxPduSize - dataFirstPduHeaderSize channel.channelIdBytes data.length
          let dataCapacity := maxPduSize - dataPduHeaderSize channel.channelIdBytes
          if firstCapacity = 0 then ({ status := .limitExceeded }, peer)
          else if some : 0 < dataCapacity ∧ data.length ≤ 0xffffffff then
            let (status, sent, peer) := sendInPieces (sendDynamicPacket hooks) channelId
              channel.channelIdBytes channel.priority firstCapacity some.1 peer data
            ({ status, sent }, peer)
          else ({ status := .limitExceeded }, peer)

end Sending

section Sent

variable {π : Type} {hooks : DynamicHooks π} {peer : DynamicPeer π} {channelId : UInt32}
  {message : Bytes}

def Transmits (hooks : DynamicHooks π) : Prop :=
  ∀ rest packet, packet.length ≤ maxPduSize → (hooks.send rest packet).1 = .ok

theorem sendDynamicPacket_takes (transmits : Transmits hooks) :
    TakesPdus (fun peer : DynamicPeer π => peer.staticChannelId ≠ 0) (sendDynamicPacket hooks) := by
  intro peer packet joined small
  refine ⟨{ peer with rest := (hooks.send peer.rest packet).2 }, ?_, joined⟩
  simp only [sendDynamicPacket, if_neg joined, transmits peer.rest packet small, if_true]

theorem sendDynamicChannelData_ok (transmits : Transmits hooks) (active : peer.active = true)
    (joined : peer.staticChannelId ≠ 0) {slot : Nat} {channel : DynamicChannel}
    (found : findDynamicChannel peer channelId = some (slot, channel))
    (fits : NumberFits channelId channel.channelIdBytes) (small : channel.priority ≤ 3)
    (some : message ≠ []) (limit : message.length ≤ dynamicMessageMax) :
    ∃ wires peer', sendDynamicChannelData hooks peer channelId message =
        ({ status := .ok, sent := wires }, peer') ∧
      Sends channelId message wires ∧ ∀ wire ∈ wires, wire.length ≤ maxPduSize := by
  have takes := sendDynamicPacket_takes transmits
  have widths : channel.channelIdBytes = 1 ∨ channel.channelIdBytes = 2 ∨
      channel.channelIdBytes = 4 := by
    unfold NumberFits at fits
    omega
  have known : ¬(channel.channelIdBytes ≠ 1 ∧ channel.channelIdBytes ≠ 2 ∧
      channel.channelIdBytes ≠ 4) := by omega
  have most : maxPduSize = 1600 := rfl
  have single : singleMessageLimit = 1590 := rfl
  have all : dynamicMessageMax = 67108864 := rfl
  have length : numberWidth message.length ≤ 4 := by
    unfold numberWidth
    split
    · omega
    · split <;> omega
  unfold sendDynamicChannelData
  simp only [active, Bool.not_true, Bool.false_eq_true, if_false, if_neg (Nat.not_lt.mpr limit), found]
  by_cases short : message.length ≤ singleMessageLimit
  · obtain ⟨wire, peer', sent, reads, bounded, _⟩ := @sendSingle_ok _ _ _ _ _ _ peer message takes fits
      small (by omega) joined
    refine ⟨[wire], peer', ?_, .single reads, List.forall_mem_singleton.mpr bounded⟩
    rw [if_pos short, sent]
  simp only [if_neg short, dataFirstPduHeaderSize, dataPduHeaderSize, if_neg known, lengthBytesOf]
  have capacity : 0 < maxPduSize - (1 + channel.channelIdBytes) := by omega
  obtain ⟨wires, peer', sent, sends, bounded⟩ := @sendInPieces_ok _ _ _ _ _ _ _ peer message
    (maxPduSize - (1 + channel.channelIdBytes + numberWidth message.length)) takes fits small capacity
    (by omega) (by omega) some (by omega) (by omega) joined
  refine ⟨wires, peer', ?_, sends, bounded⟩
  rw [if_neg (by omega), dif_pos ⟨capacity, by omega⟩, sent]

end Sent

end LibRdp.Server
