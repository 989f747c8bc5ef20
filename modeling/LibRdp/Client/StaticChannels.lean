import LibRdp.Machine.Run
import LibRdp.Machine.Table
import LibRdp.Channels.VirtualChannel

/-! # Static virtual channels of a client session

The session keeps one entry for each static channel and reassembles the fragments
of its messages there. The multiparty channel has its messages parsed and applied
before they are published; that dispatch, and the part of the session it owns, are
parameters.
-/

namespace LibRdp.Client

open Machine Channels

/-- `LIBRDP_SETTINGS_MAX_STATIC_CHANNELS`. -/
def maxStaticChannels : Nat := 16

/-- `RDP_MULTIPARTY_CHANNEL_NAME`. -/
def multipartyChannelName : String := "encomsp"

/-- `rdp_session_static_channel`. -/
structure StaticChannel where
  channelId : UInt16 := 0
  flags : UInt32 := 0
  active : Bool := false
  fragmenting : Bool := false
  fragmentExpected : UInt32 := 0
  fragment : Bytes := []
  name : String := ""
  deriving Repr, DecidableEq

structure ChannelData where
  channelId : UInt16
  name : String
  data : Bytes
  deriving Repr, DecidableEq

structure Shared (μ : Type) where
  limitsRejected : Nat
  multiparty : μ

/-- The part of `librdp_session` that static channels use. -/
structure StaticSession (μ : Type) where
  channelBufferBytes : UInt32
  shared : Shared μ
  staticChannels : List StaticChannel
  staticChannelCount : Nat

/-- `rdp_session_metric_add`. -/
def metricAdd (counter value : Nat) : Nat :=
  if counter > 2 ^ 64 - 1 - value then 2 ^ 64 - 1 else counter + value

/-- `rdp_session_multiparty_dispatch`: the message of a channel, accepted or rejected. -/
abbrev MultipartyDispatch (μ : Type) := Shared μ → UInt16 → Bytes → Status × Shared μ

def StaticChannel.discarded (entry : StaticChannel) : StaticChannel :=
  { entry with fragmenting := false, fragmentExpected := 0, fragment := [] }

/-- The entry when a first fragment starts a message of the given length. -/
def StaticChannel.started (entry : StaticChannel) (length : UInt32) : StaticChannel :=
  { entry with fragment := [], fragmenting := true, fragmentExpected := length }

structure Handled (μ : Type) where
  status : Status
  event : Option ChannelData := none
  entry : StaticChannel
  shared : Shared μ

def StaticChannel.overruns (entry : StaticChannel) (payload : Bytes) : Exec Bool :=
  if payload.length > entry.fragmentExpected.toNat then pure true
  else do
    let room ← checkedSub entry.fragmentExpected.toNat payload.length
    pure (decide (entry.fragment.length > room))

section Handle

variable {μ : Type} (dispatch : MultipartyDispatch μ)

/-- A complete message, validated when the channel is the multiparty channel. -/
def validate (shared : Shared μ) (entry : StaticChannel) (data : Bytes) : Status × Shared μ :=
  if entry.name = multipartyChannelName then dispatch shared entry.channelId data
  else (.ok, shared)

/-- `rdp_session_emit_channel_payload`. -/
def channelPayload (entry : StaticChannel) (data : Bytes) : ChannelData :=
  { channelId := entry.channelId, name := entry.name, data }

/-- The rest of `rdp_session_handle_static_channel` once the last fragment is appended. -/
def completeStaticChannel (shared : Shared μ) (entry : StaticChannel) : Handled μ :=
  if entry.fragment.length ≠ entry.fragmentExpected.toNat then
    { status := .protocolError, entry, shared }
  else
    let (status, shared) := validate dispatch shared entry entry.fragment
    if status ≠ .ok then { status, entry, shared }
    else { status := .ok, event := some (channelPayload entry entry.fragment),
           entry := entry.discarded, shared }

/-- `rdp_session_handle_static_channel`. -/
def handleStaticChannel (channelBufferBytes : UInt32) (shared : Shared μ) (entry : StaticChannel)
    (packet : VirtualChannelPacket) : Exec (Handled μ) :=
  if packet.length > channelBufferBytes then
    pure { status := .limitExceeded, entry,
           shared := { shared with limitsRejected := metricAdd shared.limitsRejected 1 } }
  else if packet.whole then
    let entry := entry.discarded
    let (status, shared) := validate dispatch shared entry packet.payload
    if status ≠ .ok then pure { status, entry, shared }
    else pure { status := .ok, event := some (channelPayload entry packet.payload), entry, shared }
  else if ¬packet.first ∧ ¬entry.fragmenting then pure { status := .protocolError, entry, shared }
  else do
    let entry := if packet.first then entry.started packet.length else entry
    if ← entry.overruns packet.payload then pure { status := .protocolError, entry, shared }
    else
      let entry := { entry with fragment := entry.fragment ++ packet.payload }
      if packet.last then pure (completeStaticChannel dispatch shared entry)
      else pure { status := .ok, entry, shared }

/-- The test of `rdp_session_static_channel_find_by_id`. -/
def StaticChannel.answers (channelId : UInt16) (entry : StaticChannel) : Bool :=
  entry.active && entry.channelId == channelId

/-- `rdp_session_static_channel_find_by_id`. -/
def findStaticChannel (session : StaticSession μ) (channelId : UInt16) :
    Option (Nat × StaticChannel) :=
  if channelId = 0 then none
  else Table.lookup (StaticChannel.answers channelId)
    (session.staticChannels.take session.staticChannelCount)

/-- `rdp_session_static_channel_configure`. -/
def configureStaticChannel (session : StaticSession μ) (index : Nat) (name : String)
    (flags : UInt32) (channelId : UInt16) : Status × StaticSession μ :=
  if index ≥ maxStaticChannels ∨ channelId = 0 then (.invalidArgument, session)
  else
    let entry : StaticChannel := { channelId, flags, active := true, name }
    (.ok, { session with
      staticChannels := session.staticChannels.set index entry
      staticChannelCount :=
        if session.staticChannelCount ≤ index then index + 1 else session.staticChannelCount })

/-- The static entries in `rdp_session_channels_reset_activation_fragments`. -/
def resetActivationFragments (session : StaticSession μ) : StaticSession μ :=
  let reset (entry : StaticChannel) := if entry.active then entry.discarded else entry
  { session with
    staticChannels := (session.staticChannels.take session.staticChannelCount).map reset ++
      session.staticChannels.drop session.staticChannelCount }

/-- `rdp_session_static_channels_clear`. -/
def clearStaticChannels (session : StaticSession μ) : StaticSession μ :=
  { session with
    staticChannels := session.staticChannels.map fun _ => {}
    staticChannelCount := 0 }

inductive StaticInput where
  | packet (channelId : UInt16) (data : Bytes)
  | configure (index : Nat) (name : String) (flags : UInt32) (channelId : UInt16)
  | resetActivation
  | clear

/-- A static packet of the session's receive loop: found by its channel, parsed and handled. -/
def receiveStaticPacket (session : StaticSession μ) (channelId : UInt16) (data : Bytes) :
    Exec ((Status × Option ChannelData) × StaticSession μ) :=
  match findStaticChannel session channelId with
  | none => pure ((.ok, none), session)
  | some (index, entry) =>
      match virtualChannelParsePacket data with
      | .error (.returned status) => pure ((status, none), session)
      | .error (.fault fault) => .error fault
      | .ok packet => do
          let handled ←
            handleStaticChannel dispatch session.channelBufferBytes session.shared entry packet
          pure ((handled.status, handled.event),
            { session with
              shared := handled.shared
              staticChannels := session.staticChannels.set index handled.entry })

def staticStep (session : StaticSession μ) :
    StaticInput → Exec ((Status × Option ChannelData) × StaticSession μ)
  | .packet channelId data => receiveStaticPacket dispatch session channelId data
  | .configure index name flags channelId =>
      let (status, session) := configureStaticChannel session index name flags channelId
      pure ((status, none), session)
  | .resetActivation => pure ((.ok, none), resetActivationFragments session)
  | .clear => pure ((.ok, none), clearStaticChannels session)

def staticSessionInit (channelBufferBytes : UInt32) (shared : Shared μ) : StaticSession μ :=
  { channelBufferBytes, shared, staticChannels := List.replicate maxStaticChannels {},
    staticChannelCount := 0 }

end Handle

def StaticChannel.extended (entry : StaticChannel) (payload : Bytes) : StaticChannel :=
  { entry with fragment := entry.fragment ++ payload }

inductive StaticOutcome (limit : UInt32) (entry : StaticChannel) (packet : VirtualChannelPacket) :
    Status → Option ChannelData → StaticChannel → Prop where
  | overLimit : limit < packet.length →
      StaticOutcome limit entry packet .limitExceeded none entry
  | whole : ¬limit < packet.length → packet.whole →
      StaticOutcome limit entry packet .ok (some (channelPayload entry packet.payload))
        entry.discarded
  | wholeRejected : ¬limit < packet.length → packet.whole → entry.name = multipartyChannelName →
      status ≠ .ok → StaticOutcome limit entry packet status none entry.discarded
  | unstarted : ¬limit < packet.length → ¬packet.first → entry.fragmenting = false →
      StaticOutcome limit entry packet .protocolError none entry
  | started : ¬limit < packet.length → packet.first → ¬packet.last →
      StaticOutcome limit entry packet .ok none
        ((entry.started packet.length).extended packet.payload)
  | overrun : ¬limit < packet.length → ¬packet.first → entry.fragmenting = true →
      entry.fragmentExpected.toNat < entry.fragment.length + packet.payload.length →
      StaticOutcome limit entry packet .protocolError none entry
  | extended : ¬limit < packet.length → ¬packet.first → ¬packet.last → entry.fragmenting = true →
      entry.fragment.length + packet.payload.length ≤ entry.fragmentExpected.toNat →
      StaticOutcome limit entry packet .ok none (entry.extended packet.payload)
  | short : ¬limit < packet.length → ¬packet.first → packet.last → entry.fragmenting = true →
      entry.fragment.length + packet.payload.length < entry.fragmentExpected.toNat →
      StaticOutcome limit entry packet .protocolError none (entry.extended packet.payload)
  | rejected : ¬limit < packet.length → ¬packet.first → packet.last → entry.fragmenting = true →
      entry.fragment.length + packet.payload.length = entry.fragmentExpected.toNat →
      entry.name = multipartyChannelName → status ≠ .ok →
      StaticOutcome limit entry packet status none (entry.extended packet.payload)
  | complete : ¬limit < packet.length → ¬packet.first → packet.last → entry.fragmenting = true →
      entry.fragment.length + packet.payload.length = entry.fragmentExpected.toNat →
      StaticOutcome limit entry packet .ok
        (some (channelPayload entry (entry.fragment ++ packet.payload))) entry.discarded

theorem StaticChannel.overruns_eq (entry : StaticChannel) (payload : Bytes) :
    entry.overruns payload =
      .ok (decide (entry.fragmentExpected.toNat < entry.fragment.length + payload.length)) := by
  unfold StaticChannel.overruns
  split
  · rw [decide_eq_true (by omega)]
    rfl
  rw [checkedSub_of_le (by omega), ok_bind, pure_eq_ok]
  congr 1
  exact decide_eq_decide.mpr (by omega)

section Outcome

variable {μ : Type} {dispatch : MultipartyDispatch μ} {shared : Shared μ} {limit : UInt32}
  {entry : StaticChannel} {packet : VirtualChannelPacket}

theorem validate_cases {data : Bytes} :
    (validate dispatch shared entry data).1 = .ok ∨
      entry.name = multipartyChannelName ∧ (validate dispatch shared entry data).1 ≠ .ok := by
  by_cases accepted : (validate dispatch shared entry data).1 = .ok
  · exact .inl accepted
  by_cases multiparty : entry.name = multipartyChannelName
  · exact .inr ⟨multiparty, accepted⟩
  · rw [validate, if_neg multiparty] at accepted
    exact absurd rfl accepted

theorem completeStaticChannel_outcome (within : ¬limit < packet.length) (next : ¬packet.first)
    (last : packet.last) (fragmenting : entry.fragmenting = true)
    (fits : entry.fragment.length + packet.payload.length ≤ entry.fragmentExpected.toNat) :
    StaticOutcome limit entry packet
      (completeStaticChannel dispatch shared (entry.extended packet.payload)).status
      (completeStaticChannel dispatch shared (entry.extended packet.payload)).event
      (completeStaticChannel dispatch shared (entry.extended packet.payload)).entry := by
  have size : (entry.extended packet.payload).fragment.length =
      entry.fragment.length + packet.payload.length := List.length_append
  have expected : (entry.extended packet.payload).fragmentExpected.toNat =
      entry.fragmentExpected.toNat := rfl
  unfold completeStaticChannel
  split
  · exact .short within next last fragmenting (by omega)
  simp only
  cases @validate_cases μ dispatch shared (entry.extended packet.payload)
    (entry.extended packet.payload).fragment with
  | inl accepted =>
    rw [if_neg (by simpa using accepted)]
    exact .complete within next last fragmenting (by omega)
  | inr rejected =>
    rw [if_pos rejected.2]
    exact .rejected within next last fragmenting (by omega) rejected.1 rejected.2

theorem handleStaticChannel_outcome (bounded : packet.payload.length ≤ packet.length.toNat) :
    ∃ handled, handleStaticChannel dispatch limit shared entry packet = .ok handled ∧
      StaticOutcome limit entry packet handled.status handled.event handled.entry := by
  unfold handleStaticChannel
  split
  · exact ⟨_, rfl, .overLimit ‹_›⟩
  rename_i within
  split
  · rename_i whole
    simp only
    cases @validate_cases μ dispatch shared entry.discarded packet.payload with
    | inl accepted =>
      rw [if_neg (by simpa using accepted)]
      exact ⟨_, rfl, .whole within whole⟩
    | inr rejected =>
      rw [if_pos rejected.2]
      exact ⟨_, rfl, .wholeRejected within whole rejected.1 rejected.2⟩
  rename_i partly
  rw [VirtualChannelPacket.whole_iff] at partly
  split
  · rename_i missing
    exact ⟨_, rfl, .unstarted within missing.1 (by simpa using missing.2)⟩
  rename_i going
  by_cases first : packet.first
  · simp only [if_pos first, StaticChannel.overruns_eq, ok_bind]
    have last : ¬packet.last := fun last => partly ⟨first, last⟩
    rw [if_neg (by simpa [StaticChannel.started] using bounded), if_neg last]
    exact ⟨_, rfl, .started within first last⟩
  simp only [if_neg first, StaticChannel.overruns_eq, ok_bind]
  have fragmenting : entry.fragmenting = true := by grind
  split
  · rename_i excess
    exact ⟨_, rfl, .overrun within first fragmenting (by simpa using excess)⟩
  rename_i fits
  rw [decide_eq_true_iff, Nat.not_lt] at fits
  split
  · exact ⟨_, rfl, completeStaticChannel_outcome within first ‹_› fragmenting fits⟩
  · exact ⟨_, rfl, .extended within first ‹_› fragmenting fits⟩

end Outcome

def StaticChannel.Settled (entry : StaticChannel) : Prop :=
  entry.fragmenting = false → entry.fragmentExpected = 0 ∧ entry.fragment = []

variable {entry entry' : StaticChannel} {packet : VirtualChannelPacket} {event : Option ChannelData}

variable {limit : UInt32} {status : Status}

theorem StaticOutcome.settled (outcome : StaticOutcome limit entry packet status event entry')
    (settled : entry.Settled) : entry'.Settled := by
  cases outcome with
  | overLimit | unstarted | overrun => exact settled
  | whole | wholeRejected | complete => exact fun _ => ⟨rfl, rfl⟩
  | started => exact fun idle => by cases idle
  | extended _ _ _ fragmenting | short _ _ _ fragmenting | rejected _ _ _ fragmenting =>
    intro idle
    rw [StaticChannel.extended, fragmenting] at idle
    cases idle

theorem StaticOutcome.discards_iff
    (outcome : StaticOutcome limit entry packet status event entry') (settled : entry.Settled)
    (failed : status ≠ .ok) :
    entry'.fragmenting = false ∧ entry'.fragmentExpected = 0 ∧ entry'.fragment = [] ↔
      entry.fragmenting = false ∨ packet.length ≤ limit ∧ packet.whole := by
  cases outcome with
  | overLimit exceeds =>
    have beyond : ¬packet.length ≤ limit := UInt32.not_le.mpr exceeds
    constructor
    · exact fun clean => .inl clean.1
    · intro stays
      cases stays with
      | inl idle => exact ⟨idle, settled idle⟩
      | inr whole => exact absurd whole.1 beyond
  | whole | started | extended | complete => exact absurd rfl failed
  | wholeRejected within whole =>
    exact ⟨fun _ => .inr ⟨UInt32.not_lt.mp within, whole⟩, fun _ => ⟨rfl, rfl, rfl⟩⟩
  | unstarted _ _ idle => exact ⟨fun _ => .inl idle, fun _ => ⟨idle, settled idle⟩⟩
  | overrun _ next fragmenting | short _ next _ fragmenting | rejected _ next _ fragmenting =>
    have partly : ¬packet.whole := fun whole => next (packet.whole_iff.mp whole).1
    constructor
    · intro clean
      simp [StaticChannel.extended, fragmenting] at clean
    · intro stays
      simp [fragmenting, partly] at stays

section Reach

variable {μ : Type} {dispatch : MultipartyDispatch μ} {session session' : StaticSession μ}

variable {answer : Status × Option ChannelData}

variable {channelId : UInt16}

theorem receiveStaticPacket_cases {data : Bytes}
    (received : receiveStaticPacket dispatch session channelId data = .ok (answer, session')) :
    session' = session ∨ ∃ index entry packet entry' shared,
      findStaticChannel session channelId = some (index, entry) ∧
      virtualChannelParsePacket data = .ok packet ∧
      StaticOutcome session.channelBufferBytes entry packet answer.1 answer.2 entry' ∧
      session' = { session with
        shared, staticChannels := session.staticChannels.set index entry' } := by
  unfold receiveStaticPacket at received
  split at received
  · cases received
    exact .inl rfl
  rename_i index entry found
  split at received
  · cases received
    exact .inl rfl
  · cases received
  · rename_i packet parsed
    obtain ⟨handled, done, outcome⟩ := @handleStaticChannel_outcome μ dispatch session.shared
      session.channelBufferBytes entry packet (parsePacket_bounds parsed).1
    rw [done, ok_bind, pure_eq_ok] at received
    cases received
    exact .inr ⟨index, entry, packet, handled.entry, handled.shared, found, parsed, outcome, rfl⟩

theorem findStaticChannel_some {index : Nat} {entry : StaticChannel}
    (found : findStaticChannel session channelId = some (index, entry)) :
    (session.staticChannels.take session.staticChannelCount)[index]? = some entry ∧
      entry.active = true ∧ entry.channelId = channelId := by
  unfold findStaticChannel at found
  split at found
  · cases found
  obtain ⟨held, matched⟩ := Table.lookup_some found
  simp only [StaticChannel.answers, Bool.and_eq_true, beq_iff_eq] at matched
  exact ⟨held, matched⟩

theorem staticStep_settled {input : StaticInput}
    (settled : ∀ entry ∈ session.staticChannels, entry.Settled)
    (stepped : staticStep dispatch session input = .ok (answer, session')) :
    ∀ entry ∈ session'.staticChannels, entry.Settled := by
  intro entry held
  cases input with
  | packet channelId data =>
    obtain rfl | ⟨index, old, packet, new, shared, found, _, outcome, rfl⟩ :=
      receiveStaticPacket_cases stepped
    · exact settled entry held
    · obtain kept | rfl := List.mem_or_eq_of_mem_set held
      · exact settled entry kept
      · have before := List.mem_of_mem_take (List.mem_of_getElem? (findStaticChannel_some found).1)
        exact outcome.settled (settled old before)
  | configure index name flags channelId =>
    simp only [staticStep, configureStaticChannel] at stepped
    by_cases refused : index ≥ maxStaticChannels ∨ channelId = 0
    · rw [if_pos refused] at stepped
      cases stepped
      exact settled entry held
    rw [if_neg refused] at stepped
    cases stepped
    obtain kept | rfl := List.mem_or_eq_of_mem_set held
    · exact settled entry kept
    · exact fun _ => ⟨rfl, rfl⟩
  | resetActivation =>
    cases stepped
    obtain reset | later := List.mem_append.mp held
    · obtain ⟨old, before, rfl⟩ := List.mem_map.mp reset
      split
      · exact fun _ => ⟨rfl, rfl⟩
      · exact settled old (List.mem_of_mem_take before)
    · exact settled entry (List.mem_of_mem_drop later)
  | clear =>
    cases stepped
    obtain ⟨_, _, rfl⟩ := List.mem_map.mp held
    exact fun _ => ⟨rfl, rfl⟩

theorem reachable_settled {limit : UInt32} {shared : Shared μ}
    (reached : Reachable (staticStep dispatch) (staticSessionInit limit shared) session) :
    ∀ entry ∈ session.staticChannels, entry.Settled := by
  apply reached.invariant fun session => ∀ entry ∈ session.staticChannels, entry.Settled
  · intro entry held
    rw [List.eq_of_mem_replicate held]
    exact fun _ => ⟨rfl, rfl⟩
  · intro session input answer session' settled stepped
    exact staticStep_settled settled stepped

/-- After an error the entry is back between two messages exactly when it was there before, or
    when the packet held a whole message within the limit; in every other case the partial
    message stays. -/
theorem static_error_discards_iff {limit : UInt32} {shared : Shared μ}
    (reached : Reachable (staticStep dispatch) (staticSessionInit limit shared) session)
    {entry : StaticChannel} (held : entry ∈ session.staticChannels) {data : Bytes}
    {packet : VirtualChannelPacket} (parsed : virtualChannelParsePacket data = .ok packet) :
    ∃ handled, handleStaticChannel dispatch session.channelBufferBytes session.shared entry packet =
        .ok handled ∧
      (handled.status ≠ .ok →
        (handled.entry.fragmenting = false ∧ handled.entry.fragmentExpected = 0 ∧
            handled.entry.fragment = [] ↔
          entry.fragmenting = false ∨
            packet.length ≤ session.channelBufferBytes ∧ packet.whole)) := by
  have settled := reachable_settled reached entry held
  obtain ⟨handled, done, outcome⟩ := @handleStaticChannel_outcome μ dispatch session.shared
    session.channelBufferBytes entry packet (parsePacket_bounds parsed).1
  exact ⟨handled, done, fun failed => outcome.discards_iff settled failed⟩

/-- A whole message that its dispatch refuses, while another message is in progress. -/
theorem static_error_discards_iff_whole :
    ∃ session entry handled,
      Reachable (staticStep fun shared _ _ => (.protocolError, shared))
        (staticSessionInit 8 { limitsRejected := 0, multiparty := () }) session ∧
      entry ∈ session.staticChannels ∧ entry.fragment = [5] ∧
      handleStaticChannel (fun shared _ _ => (.protocolError, shared)) session.channelBufferBytes
        session.shared entry { length := 1, flags := 3, payload := [6] } = .ok handled ∧
      handled.status = .protocolError ∧ handled.entry.fragmenting = false ∧
      handled.entry.fragmentExpected = 0 ∧ handled.entry.fragment = [] := by
  have named := (@Reachable.init _ _ _ (staticStep fun shared _ _ => (.protocolError, shared))
    (staticSessionInit 8 { limitsRejected := 0, multiparty := () })).step
    (i := .configure 0 multipartyChannelName 0 7) rfl
  have reached := named.step (i := .packet 7 [4, 0, 0, 0, 1, 0, 0, 0, 5]) rfl
  have parsed : virtualChannelParsePacket [1, 0, 0, 0, 3, 0, 0, 0, 6] =
      .ok { length := 1, flags := 3, payload := [6] } := rfl
  obtain ⟨handled, done, discards⟩ := static_error_discards_iff reached List.mem_cons_self parsed
  have failed : handled.status = .protocolError := by
    cases done
    rfl
  have clean := (discards (by rw [failed]; decide)).mpr (.inr ⟨by decide, by decide⟩)
  exact ⟨_, _, handled, reached, List.mem_cons_self, rfl, done, failed, clean⟩

/-- Two bytes of a message of four, a packet beyond the limit, two bytes of another message: the
    first two bytes outlive the error and are delivered with the last two. -/
theorem static_error_keeps_fragment :
    ∃ session session' session'',
      Reachable (staticStep fun shared _ _ => (.ok, shared))
        (staticSessionInit 8 { limitsRejected := 0, multiparty := () }) session ∧
      receiveStaticPacket (fun shared _ _ => (.ok, shared)) session 7 [9, 0, 0, 0, 1, 0, 0, 0] =
        .ok ((.limitExceeded, none), session') ∧
      (session'.staticChannels[0]?).map (fun entry => (entry.fragmenting, entry.fragment)) =
        some (true, [1, 2]) ∧
      receiveStaticPacket (fun shared _ _ => (.ok, shared)) session' 7
          [2, 0, 0, 0, 2, 0, 0, 0, 7, 8] =
        .ok ((.ok, some { channelId := 7, name := "echo", data := [1, 2, 7, 8] }), session'') :=
  ⟨_, _, _, (Reachable.init.step (i := .configure 0 "echo" 0 7) rfl).step
    (i := .packet 7 [4, 0, 0, 0, 1, 0, 0, 0, 1, 2]) rfl, rfl, rfl, rfl⟩

end Reach

end LibRdp.Client
