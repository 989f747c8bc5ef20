import LibRdp.Client.DynamicChannels
import LibRdp.Channels.DynamicSend

/-! # Messages on the dynamic channels of a client session

The receiver marks an entry that is in the middle of a message, so that it tells a
message in progress from none whatever it has of it. The sender cuts a message into
PDUs of bounded size.
-/

namespace LibRdp.Client

open Machine Channels

section Dispatch

variable {σ δ : Type} [Inhabited δ] {hooks : DynamicHooks σ δ} {session : DynamicSession σ δ}
  {data : Bytes}

theorem handleDynamicChannel_dataFirst {pdu : DataFirstPdu}
    (parsed : parseDataFirst data = .ok pdu) :
    handleDynamicChannel hooks session data = .ok (handleDataFirst hooks session data) := by
  obtain ⟨header, isHeader, command, _⟩ := parseFirst_inv rfl parsed
  simp only [handleDynamicChannel, isHeader, command]
  rfl

theorem handleDynamicChannel_data {pdu : DataPdu} (parsed : parseData data = .ok pdu) :
    handleDynamicChannel hooks session data = handleData hooks session data := by
  obtain ⟨header, isHeader, command, _⟩ := parseData_inv parsed
  simp only [handleDynamicChannel, isHeader, command]
  rfl

end Dispatch

/-- What an answer tells about a message: its status and what was handed over. -/
def hears (answer : DynamicAnswer) : Status × Option Bytes := (answer.status, answer.delivered)

section Receiving

variable {σ δ : Type} [Inhabited δ] {hooks : DynamicHooks σ δ} {session : DynamicSession σ δ}
  {channelId : UInt32} {message : Bytes} {slot : Nat} {entry new : DynamicChannel δ}

/-- The channel is active with an entry that satisfies a condition, and messages of some length
    are within the limit. -/
def ActiveWith (channelId : UInt32) (length : Nat) (holds : DynamicChannel δ → Prop)
    (session : DynamicSession σ δ) : Prop :=
  AllFed session.table.channels ∧ length ≤ session.messageLimit ∧
    ∃ slot entry, dynamicChannelFind session.table channelId = some (slot, entry) ∧ holds entry

def Idle (channelId : UInt32) (length : Nat) (session : DynamicSession σ δ) : Prop :=
  ActiveWith channelId length (fun entry => entry.fragmenting = false) session

def Gathered (channelId : UInt32) (message fragment : Bytes) (session : DynamicSession σ δ) : Prop :=
  ActiveWith channelId message.length (fun entry => entry.fragmenting = true ∧
    entry.fragment = fragment ∧ entry.fragmentExpected.toNat = message.length) session

variable {holds : DynamicChannel δ → Prop} {data : Bytes}

variable {length : Nat} {pdu : DataPdu}

theorem activeWith_other (isOther : ofChannel channelId data = none)
    (isActive : ActiveWith channelId length holds session) :
    ∃ answer session', handleDynamicChannel hooks session data = .ok (answer, session') ∧
      ActiveWith channelId length holds session' := by
  obtain ⟨fed, limit, slot, entry, found, has⟩ := isActive
  obtain ⟨⟨answer, session'⟩, handled, moved⟩ := @handleDynamicChannel_moved _ _ _ hooks session fed data
  refine ⟨answer, session', handled, moved.fed fed, ?_, slot, entry, ?_, has⟩
  · rw [moved.messageLimit]
    exact limit
  · rw [moved.find_other (ofChannel_none isOther), found]

theorem activeWith_own {answer : DynamicAnswer} {session' : DynamicSession σ δ}
    (fed : AllFed session.table.channels) (limit : length ≤ session.messageLimit)
    (taken : handleDynamicChannel hooks session data = .ok (answer, session'))
    (found : dynamicChannelFind session'.table channelId = some (slot, entry)) (has : holds entry) :
    ActiveWith channelId length holds session' := by
  obtain ⟨result, handled, moved⟩ := @handleDynamicChannel_moved _ _ _ hooks session fed data
  rw [taken] at handled
  cases handled
  refine ⟨moved.fed fed, ?_, slot, entry, found, has⟩
  rw [moved.messageLimit]
  exact limit

theorem dynamicChannelFind_set (found : dynamicChannelFind session.table channelId = some (slot, entry))
    (active : new.active = entry.active) (same : new.channelId = entry.channelId) :
    dynamicChannelFind (session.setEntry slot new).table channelId = some (slot, new) := by
  apply Table.lookup_set_found found
  obtain ⟨_, passes⟩ := Table.lookup_some found
  rw [DynamicChannel.activeFor, active, same]
  exact passes

def Accepts (hooks : DynamicHooks σ δ) (message : Bytes) : Prop :=
  ∀ rest entry, (hooks.handle rest entry message).1 = .ok

theorem deliver_hands (entry : DynamicChannel δ) (data : Bytes) :
    ∃ answer rest, deliver hooks session entry data = (answer, { session with rest }) ∧
      answer.delivered = some data ∧ (Accepts hooks data → answer.status = .ok) :=
  ⟨_, _, rfl, rfl, fun accepts => accepts session.rest entry⟩

theorem takeFragment_last (found : dynamicChannelFind session.table channelId = some (slot, entry))
    (active : new.active = entry.active) (same : new.channelId = entry.channelId)
    (whole : new.fragment = message) (length : new.fragmentExpected.toNat = message.length) :
    ∃ answer session', takeFragment hooks session slot new = (answer, session') ∧
      answer.delivered = some message ∧ (Accepts hooks message → answer.status = .ok) ∧
      ∃ entry', dynamicChannelFind session'.table channelId = some (slot, entry') ∧
        entry'.fragmenting = false := by
  let emptied : DynamicChannel δ :=
    { new with fragmenting := false, fragment := [], fragmentExpected := 0 }
  have complete : ¬new.fragment.length < new.fragmentExpected.toNat := by
    rw [whole, length]
    exact Nat.lt_irrefl _
  obtain ⟨answer, rest, delivered, handed, accepted⟩ := @deliver_hands _ _ _ hooks session
    { new with fragmenting := false } message
  refine ⟨answer, { session.setEntry slot emptied with rest }, ?_, handed, accepted, emptied,
    dynamicChannelFind_set found active same, rfl⟩
  rw [takeFragment, if_neg complete, whole]
  rw [whole] at delivered
  rw [delivered]
  rfl

theorem takeFragment_part (found : dynamicChannelFind session.table channelId = some (slot, entry))
    (active : new.active = entry.active) (same : new.channelId = entry.channelId)
    (short : new.fragment.length < new.fragmentExpected.toNat) :
    ∃ answer session', takeFragment hooks session slot new = (answer, session') ∧
      hears answer = (.ok, none) ∧
      dynamicChannelFind session'.table channelId =
        some (slot, { new with fragmenting := true }) := by
  exact ⟨_, _, by rw [takeFragment, if_pos short], rfl,
    @dynamicChannelFind_set _ _ _ session channelId slot entry { new with fragmenting := true } found
      active same⟩

theorem handleDataFirst_idle {pdu : DataFirstPdu} (parsed : parseDataFirst data = .ok pdu)
    (found : dynamicChannelFind session.table pdu.channelId = some (slot, entry))
    (idle : entry.fragmenting = false) (limit : pdu.totalLength.toNat ≤ session.messageLimit) :
    handleDataFirst hooks session data = takeFragment hooks session slot
      { entry with fragment := pdu.data, fragmentExpected := pdu.totalLength } := by
  simp only [handleDataFirst, parsed, if_neg (Nat.not_lt.mpr limit), found, idle,
    Bool.false_eq_true, if_false]

theorem handleData_gathering (parsed : parseData data = .ok pdu)
    (found : dynamicChannelFind session.table pdu.channelId = some (slot, entry))
    (started : entry.fragmenting = true) (more : pdu.data ≠ [])
    (fits : (entry.fragment ++ pdu.data).length ≤ entry.fragmentExpected.toNat) :
    handleData hooks session data = .ok (takeFragment hooks session slot
      { entry with fragment := entry.fragment ++ pdu.data }) := by
  have adds := List.length_pos_iff.mpr more
  rw [List.length_append] at fits
  have some : ¬pdu.data.length = 0 := by omega
  have room : entry.fragment.length ≤ entry.fragmentExpected.toNat := by omega
  have rest : ¬pdu.data.length > entry.fragmentExpected.toNat - entry.fragment.length := by omega
  simp only [handleData, parsed, found, started, if_true, if_neg some, checkedSub_of_le room, ok_bind,
    if_neg rest, pure_eq_ok]

theorem handleData_idle (parsed : parseData data = .ok pdu)
    (found : dynamicChannelFind session.table pdu.channelId = some (slot, entry))
    (idle : entry.fragmenting = false) :
    handleData hooks session data = .ok (deliver hooks session entry pdu.data) := by
  simp only [handleData, parsed, found, idle, Bool.false_eq_true, if_false, pure_eq_ok]

/-- The receiver takes a message in pieces, whatever the pieces. `heard` is any reading of the
    answers that tells a message handed over from none. -/
theorem client_reassembler {ρ : Type} {heard : DynamicAnswer → ρ} {quiet complete : ρ}
    (hearsQuiet : ∀ answer, hears answer = (.ok, none) → heard answer = quiet)
    (hearsMessage : ∀ answer : DynamicAnswer, answer.delivered = some message →
      (Accepts hooks message → answer.status = .ok) → heard answer = complete) :
    Reassembler (handleDynamicChannel hooks) (ofChannel channelId) (ReadsPiece channelId) heard quiet
      complete message (Idle channelId message.length) (Gathered channelId message)
      (fun _ => True) where
  startPart := by
    intro session data wire first idle isOwn reads short _
    obtain ⟨fed, limit, slot, entry, found, idle⟩ := idle
    obtain ⟨rfl, _⟩ := ofChannel_some isOwn
    generalize total : message.length = length at reads limit
    cases reads with
    | @first width totalLength _ parsed =>
      have handled := @handleDynamicChannel_dataFirst _ _ _ hooks session data _ parsed
      have started : first.length < totalLength.toNat := by omega
      rw [handleDataFirst_idle parsed found idle limit] at handled
      obtain ⟨answer, session', took, silent, found'⟩ := @takeFragment_part _ _ _ hooks session
        channelId slot entry { entry with fragment := first, fragmentExpected := totalLength } found
        rfl rfl started
      rw [took] at handled
      exact ⟨answer, session', handled, hearsQuiet answer silent,
        activeWith_own fed (by omega) handled found' ⟨rfl, rfl, total.symm⟩⟩
  startWhole := by
    intro session data wire idle isOwn reads
    obtain ⟨fed, limit, slot, entry, found, idle⟩ := idle
    obtain ⟨rfl, _⟩ := ofChannel_some isOwn
    generalize total : message.length = length at reads limit
    cases reads with
    | @first width totalLength _ parsed =>
      have handled := @handleDynamicChannel_dataFirst _ _ _ hooks session data _ parsed
      rw [handleDataFirst_idle parsed found idle limit] at handled
      obtain ⟨answer, session', took, handed, accepted, emptied, found', isIdle⟩ :=
        @takeFragment_last _ _ _ hooks session channelId message slot entry
          { entry with fragment := message, fragmentExpected := totalLength } found rfl rfl rfl
          total.symm
      rw [took] at handled
      exact ⟨answer, session', handled, hearsMessage answer handed accepted,
        activeWith_own fed (by omega) handled found' isIdle⟩
  nextPart := by
    intro session data wire fragment piece gathered _ isOwn reads more short
    obtain ⟨fed, limit, slot, entry, found, started, rfl, expected⟩ := gathered
    obtain ⟨rfl, _⟩ := ofChannel_some isOwn
    cases reads with
    | @more width _ parsed =>
      have handled := @handleDynamicChannel_data _ _ _ hooks session data _ parsed
      have fits : (entry.fragment ++ piece).length < entry.fragmentExpected.toNat := by omega
      rw [handleData_gathering parsed found started more (Nat.le_of_lt fits)] at handled
      obtain ⟨answer, session', took, silent, found'⟩ := @takeFragment_part _ _ _ hooks session
        channelId slot entry { entry with fragment := entry.fragment ++ piece } found rfl rfl fits
      rw [took] at handled
      exact ⟨answer, session', handled, hearsQuiet answer silent,
        activeWith_own fed limit handled found' ⟨rfl, rfl, expected⟩⟩
  nextLast := by
    intro session data wire fragment piece gathered _ isOwn reads more whole
    obtain ⟨fed, limit, slot, entry, found, started, rfl, expected⟩ := gathered
    obtain ⟨rfl, _⟩ := ofChannel_some isOwn
    cases reads with
    | @more width _ parsed =>
      have handled := @handleDynamicChannel_data _ _ _ hooks session data _ parsed
      have fits : (entry.fragment ++ piece).length ≤ entry.fragmentExpected.toNat := by
        rw [whole, expected]
      rw [handleData_gathering parsed found started more fits] at handled
      obtain ⟨answer, session', took, handed, accepted, emptied, found', isIdle⟩ :=
        @takeFragment_last _ _ _ hooks session channelId message slot entry
          { entry with fragment := entry.fragment ++ piece } found rfl rfl whole expected
      rw [took] at handled
      exact ⟨answer, session', handled, hearsMessage answer handed accepted,
        activeWith_own fed limit handled found' isIdle⟩
  ableMore := fun _ => trivial
  otherIdle := fun isOther idle => activeWith_other isOther idle
  otherGathered := fun isOther gathered => activeWith_other isOther gathered

theorem receives_sent {wires : List Bytes} (idle : Idle channelId message.length session)
    (sends : Sends channelId message wires) :
    ∃ outs session', run (handleDynamicChannel hooks) session wires = .ok (outs, session') ∧
      outs.map DynamicAnswer.delivered =
        List.replicate (wires.length - 1) none ++ [some message] := by
  cases sends with
  | single reads =>
    obtain ⟨fed, _, slot, entry, found, idle⟩ := idle
    cases reads with
    | @more width _ parsed =>
      have handled := @handleDynamicChannel_data _ _ _ hooks session _ _ parsed
      rw [handleData_idle parsed found idle] at handled
      exact ⟨[_], _, run_singleton handled, rfl⟩
  | pieces cuts some =>
    obtain ⟨outs, session', ran, heard, _⟩ := (@client_reassembler _ _ _ hooks channelId message _
      DynamicAnswer.delivered none (.some message) (fun _ silent => congrArg Prod.snd silent)
      (fun _ handed _ => handed)).delivers cuts (.inl trivial) (filterMap_cuts_own cuts) idle
    refine ⟨outs, session', ran, ?_⟩
    rw [← heardAnswers_all (fun wire isWire => ⟨wire, cuts_own cuts wire isWire⟩) ran, heard,
      cuts.length]

end Receiving

section Sending

variable {σ δ : Type} [Inhabited δ] (hooks : DynamicHooks σ δ) (session : DynamicSession σ δ)

/-- `rdp_session_dynamic_channel_header_size` and `rdp_session_dynamic_length_bytes`. -/
def dynamicChannelHeaderSize (channelIdBytes : Nat) : Nat := 1 + channelIdBytes
abbrev dynamicLengthBytes := numberWidth

/-- `rdp_session_send_dynamic_channel_data_priority`. -/
def sendDynamicChannelDataPriority (channelId : UInt32) (channelIdBytes priority : Nat)
    (data : Bytes) : DynamicAnswer × DynamicSession σ δ :=
  if session.dynamicChannelId = 0 ∨ data.length > 0xffffffff then
    ({ status := .invalidArgument }, session)
  else
    let headerSize := dynamicChannelHeaderSize channelIdBytes
    if room : headerSize ≥ maxPduSize then ({ status := .invalidArgument }, session)
    else if data.length ≤ maxPduSize - headerSize then
      let (status, sent, session) :=
        sendSingle (writeChannelPdu hooks) channelId channelIdBytes priority session data
      ({ status, sent }, session)
    else
      let chunkMax := maxPduSize - headerSize - dynamicLengthBytes data.length
      if chunkMax = 0 then ({ status := .invalidArgument }, session)
      else
        let (status, sent, session) := sendInPieces (writeChannelPdu hooks) channelId channelIdBytes
          priority chunkMax (Nat.sub_pos_of_lt (Nat.not_le.mp room)) session data
        ({ status, sent }, session)

end Sending

section Sent

variable {σ δ : Type} [Inhabited δ] {hooks : DynamicHooks σ δ} {session : DynamicSession σ δ}
  {channelId : UInt32} {channelIdBytes priority : Nat} {message : Bytes}

/-- `RDP_SETTINGS_LIMIT_DYNAMIC_MESSAGE_BYTES`: the settings refuse a message limit above it. -/
def settingsLimitDynamicMessageBytes : Nat := 64 * 1024 * 1024

def Transmits (hooks : DynamicHooks σ δ) : Prop :=
  ∀ rest packet, packet.length ≤ maxPduSize → (hooks.write rest packet).1 = .ok

theorem writeChannelPdu_takes (transmits : Transmits hooks) :
    TakesPdus (fun _ : DynamicSession σ δ => True) (writeChannelPdu hooks) := by
  intro session packet _ small
  refine ⟨{ session with rest := (hooks.write session.rest packet).2 }, ?_, trivial⟩
  simp only [writeChannelPdu, transmits session.rest packet small, if_true]

theorem sendDynamicChannelDataPriority_ok (transmits : Transmits hooks)
    (joined : session.dynamicChannelId ≠ 0) (fits : NumberFits channelId channelIdBytes)
    (small : priority ≤ 3) (some : message ≠ []) (limit : message.length ≤ 0xffffffff) :
    ∃ wires session', sendDynamicChannelDataPriority hooks session channelId channelIdBytes priority
        message = ({ status := .ok, sent := wires }, session') ∧
      Sends channelId message wires ∧ ∀ wire ∈ wires, wire.length ≤ maxPduSize := by
  have takes := writeChannelPdu_takes transmits
  have widths : channelIdBytes = 1 ∨ channelIdBytes = 2 ∨ channelIdBytes = 4 := by
    unfold NumberFits at fits
    omega
  have most : maxPduSize = 1600 := rfl
  have length : numberWidth message.length ≤ 4 := by
    unfold numberWidth
    split
    · omega
    · split <;> omega
  have room : ¬dynamicChannelHeaderSize channelIdBytes ≥ maxPduSize := by
    unfold dynamicChannelHeaderSize
    omega
  have open' : ¬(session.dynamicChannelId = 0 ∨ message.length > 0xffffffff) := by
    rintro (none | long)
    · exact joined none
    · omega
  unfold sendDynamicChannelDataPriority
  simp only [if_neg open', dif_neg room]
  unfold dynamicChannelHeaderSize at *
  by_cases short : message.length ≤ maxPduSize - (1 + channelIdBytes)
  · obtain ⟨wire, session', sent, reads, bounded, _⟩ := @sendSingle_ok _ _ _ _ _ _ session message takes
      fits small (by omega) trivial
    refine ⟨[wire], session', ?_, .single reads, List.forall_mem_singleton.mpr bounded⟩
    rw [if_pos short, sent]
  obtain ⟨wires, session', sent, sends, bounded⟩ := @sendInPieces_ok _ _ _ _ _ _ _ session message
    (maxPduSize - (1 + channelIdBytes) - numberWidth message.length) takes fits small
    (Nat.sub_pos_of_lt (Nat.not_le.mp room)) (by omega) (by omega) some (by omega) (by omega) trivial
  refine ⟨wires, session', ?_, sends, bounded⟩
  have first : ¬maxPduSize - (1 + channelIdBytes) - dynamicLengthBytes message.length = 0 := by
    unfold dynamicLengthBytes
    omega
  rw [if_neg short, if_neg first, sent]

end Sent

end LibRdp.Client
