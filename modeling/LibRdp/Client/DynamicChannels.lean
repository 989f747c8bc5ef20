import LibRdp.Client.DynamicTable

/-! # Dynamic virtual channels of a client session

The drdynvc handler of the session and the calls of the application that share its
table. What the channels carry (the features behind the internal names, the handlers
of complete messages, the decompressors and the transport) is a parameter that every
result is uniform in.
-/

namespace LibRdp.Client

open Machine Channels

inductive DynamicEvent where
  | opened (channelId : UInt32) (name : Bytes)
  | closed (channelId : UInt32) (name : Bytes)
  deriving Repr, DecidableEq

/-- What the channels rely on; `σ` is the rest of the session. -/
structure DynamicHooks (σ δ : Type) [Inhabited δ] where
  /-- `rdp_session_write_channel_pdu` on the static channel. -/
  write : σ → Bytes → Status × σ
  /-- `rdp_session_dynamic_channel_create_status`. -/
  createStatus : σ → CreateRequest → UInt32
  /-- `rdp_session_dynamic_channel_is_internal_name`. -/
  isInternalName : Bytes → Bool
  /-- What the session does for an internal channel once it is created. -/
  created : σ → CreateRequest → Status × σ
  /-- What the session forgets of an internal channel when it is closed. -/
  closed : σ → UInt32 → σ
  /-- `rdp_session_handle_dynamic_channel_message`. -/
  handle : σ → DynamicChannel δ → Bytes → Status × σ
  /-- `rdp_graphics_decode_segmented_data`. -/
  decode : δ → Bytes → Status × Bytes × δ
  /-- The capabilities and soft-sync branches of the handler. -/
  capabilities : σ → Bytes → Status × σ
  softSync : σ → List (DynamicChannel δ) → Bytes → Status × σ
  /-- `rdp_dynamic_channel_parse_soft_sync_response`. -/
  softSyncResponse : Bytes → Status

/-- The part of `librdp_session` that dynamic channels use; `connected` is being connected or
    active, `messageLimit` is `limits.dynamic_channel_message_bytes`. -/
structure DynamicSession (σ δ : Type) [Inhabited δ] where
  connected : Bool
  dynamicChannelId : UInt16
  messageLimit : Nat
  table : ChannelTable δ
  rest : σ

structure DynamicAnswer where
  status : Status
  delivered : Option Bytes := none
  events : List DynamicEvent := []
  sent : List Bytes := []
  deriving Repr, DecidableEq

section Handler

variable {σ δ : Type} [Inhabited δ] (hooks : DynamicHooks σ δ) (session : DynamicSession σ δ)

def writeChannelPdu (packet : Bytes) : Status × List Bytes × DynamicSession σ δ :=
  let (status, rest) := hooks.write session.rest packet
  (status, if status = .ok then [packet] else [], { session with rest })

def DynamicSession.setEntry (slot : Nat) (entry : DynamicChannel δ) : DynamicSession σ δ :=
  { session with table := { session.table with channels := session.table.channels.set slot entry } }

/-! ## Calls of the application -/

/-- `rdp_session_dynamic_channel_name_public_valid`; `LIBRDP_CHANNEL_NAME_MAX` is 63. -/
def dynamicChannelNamePublicValid (name : Bytes) : Bool :=
  name.length ≠ 0 && decide (name.length ≤ 63) &&
    name.all fun ch => decide (0x21 ≤ ch) && decide (ch ≤ 0x7e)

/-- The end of `librdp_session_channel_open` when it failed: an entry still opening under the id
    is cleared. -/
def abandonOpening (channelId : UInt32) : DynamicSession σ δ :=
  match dynamicChannelFindOpening session.table channelId with
  | none => session
  | some (slot, entry) => session.setEntry slot (dynamicChannelClearEntry entry)

/-- `librdp_session_channel_open`; `LIBRDP_CHANNEL_PRIORITY_REALTIME` is 3. -/
def channelOpen (name : Bytes) (priority : Nat) :
    UInt64 × DynamicAnswer × DynamicSession σ δ :=
  if !dynamicChannelNamePublicValid name ∨ priority > 3 ∨ hooks.isInternalName name then
    (0, { status := .invalidArgument }, session)
  else if !session.connected ∨ session.dynamicChannelId = 0 then (0, { status := .state }, session)
  else
    match dynamicChannelAllocateId session.table with
    | (none, table) => (0, { status := .limitExceeded }, { session with table })
    | (some channelId, table) =>
        let session := { session with table }
        let channelIdBytes := selectChannelIdBytes channelId.toNat
        let (status, _, handle, table) :=
          dynamicChannelAddOpening table channelId channelIdBytes priority name
        let session := { session with table }
        if status ≠ .ok then (0, { status }, abandonOpening session channelId)
        else
          match writeCreateRequest channelId channelIdBytes priority name with
          | .error _ => (0, { status := .invalidArgument }, abandonOpening session channelId)
          | .ok packet =>
              let (status, sent, session) := writeChannelPdu hooks session packet
              if status ≠ .ok then (0, { status, sent }, abandonOpening session channelId)
              else (handle, { status, sent }, session)

/-- `rdp_session_require_user_channel`. -/
def requireUserChannel (channelId : UInt32) : Except Status (Nat × DynamicChannel δ) :=
  if channelId = 0 then .error .invalidArgument
  else if !session.connected ∨ session.dynamicChannelId = 0 then .error .state
  else
    match dynamicChannelFind session.table channelId with
    | none => .error .state
    | some (slot, entry) =>
        if hooks.isInternalName entry.name then .error .unsupported else .ok (slot, entry)

/-- `librdp_session_channel_close`. -/
def channelClose (channelId : UInt32) : DynamicAnswer × DynamicSession σ δ :=
  match requireUserChannel hooks session channelId with
  | .error status => ({ status }, session)
  | .ok (slot, entry) =>
      match writeClose entry.channelId entry.channelIdBytes with
      | .error _ => ({ status := .invalidArgument }, session)
      | .ok packet =>
          let (status, sent, session) := writeChannelPdu hooks session packet
          if status = .ok then
            ({ status, sent }, session.setEntry slot (dynamicChannelClearEntry entry))
          else ({ status, sent }, session)

/-! ## Messages of the server -/

def handleCreateResponse (response : CreateResponse) (slot : Nat) (entry : DynamicChannel δ) :
    DynamicAnswer × DynamicSession σ δ :=
  if entry.channelIdBytes ≠ response.channelIdBytes then ({ status := .protocolError }, session)
  else if response.statusCode = createStatusOk then
    ({ status := .ok, events := [.opened entry.channelId entry.name] },
      session.setEntry slot (dynamicChannelAnswered entry))
  else ({ status := .ok }, session.setEntry slot (dynamicChannelClearEntry entry))

/-- The end of the create branch: an internal channel is set up, any other is announced. -/
def announceCreated (request : CreateRequest) (sent : List Bytes) :
    DynamicAnswer × DynamicSession σ δ :=
  if hooks.isInternalName request.name then
    let (status, rest) := hooks.created session.rest request
    ({ status, sent }, { session with rest })
  else
    ({ status := .ok, sent, events :=
        (dynamicChannelFind session.table request.channelId).toList.map fun found =>
          .opened found.2.channelId found.2.name }, session)

/-- The create branch on a request: a channel that is accepted is added before the answer is
    sent. -/
def handleCreateRequest (data : Bytes) : DynamicAnswer × DynamicSession σ δ :=
  match parseCreateRequest data with
  | .error _ => ({ status := .protocolError }, session)
  | .ok request =>
      let statusCode := hooks.createStatus session.rest request
      match writeCreateResponse request.channelId request.channelIdBytes statusCode with
      | .error _ => ({ status := .invalidArgument }, session)
      | .ok packet =>
          if statusCode = createStatusOk then
            let (status, _, table) := dynamicChannelAdd session.table request
            let session := { session with table }
            if status ≠ .ok then ({ status }, session)
            else
              let (status, sent, session) := writeChannelPdu hooks session packet
              if status ≠ .ok then ({ status, sent }, session)
              else announceCreated hooks session request sent
          else
            let (status, sent, session) := writeChannelPdu hooks session packet
            ({ status, sent }, session)

/-- The create branch of the handler: a response when an entry is opening under its id, else a
    request. -/
def handleCreate (data : Bytes) : DynamicAnswer × DynamicSession σ δ :=
  match parseCreateResponse data with
  | .error _ => handleCreateRequest hooks session data
  | .ok response =>
      match dynamicChannelFindOpening session.table response.channelId with
      | none => handleCreateRequest hooks session data
      | some (slot, entry) => handleCreateResponse session response slot entry

def deliver (entry : DynamicChannel δ) (data : Bytes) : DynamicAnswer × DynamicSession σ δ :=
  let (status, rest) := hooks.handle session.rest entry data
  ({ status, delivered := some data }, { session with rest })

/-- An entry that has started or gone on with a message: delivered and emptied once the message
    is complete. -/
def takeFragment (slot : Nat) (entry : DynamicChannel δ) : DynamicAnswer × DynamicSession σ δ :=
  if entry.fragment.length < entry.fragmentExpected.toNat then
    ({ status := .ok }, session.setEntry slot { entry with fragmenting := true })
  else
    let (answer, session) := deliver hooks session { entry with fragmenting := false } entry.fragment
    (answer, session.setEntry slot
      { entry with fragmenting := false, fragment := [], fragmentExpected := 0 })

def handleDataFirst (data : Bytes) : DynamicAnswer × DynamicSession σ δ :=
  match parseDataFirst data with
  | .error _ => ({ status := .protocolError }, session)
  | .ok pdu =>
      if pdu.totalLength.toNat > session.messageLimit then ({ status := .limitExceeded }, session)
      else
        match dynamicChannelFind session.table pdu.channelId with
        | none => ({ status := .protocolError }, session)
        | some (slot, entry) =>
            if entry.fragmenting then ({ status := .protocolError }, session)
            else
              takeFragment hooks session slot
                { entry with fragment := pdu.data, fragmentExpected := pdu.totalLength }

def handleData (data : Bytes) : Exec (DynamicAnswer × DynamicSession σ δ) :=
  match parseData data with
  | .error _ => pure ({ status := .protocolError }, session)
  | .ok pdu =>
      match dynamicChannelFind session.table pdu.channelId with
      | none => pure ({ status := .protocolError }, session)
      | some (slot, entry) =>
          if entry.fragmenting then
            if pdu.data.length = 0 then pure ({ status := .protocolError }, session)
            else do
              let room ← checkedSub entry.fragmentExpected.toNat entry.fragment.length
              if pdu.data.length > room then pure ({ status := .protocolError }, session)
              else
                pure (takeFragment hooks session slot
                  { entry with fragment := entry.fragment ++ pdu.data })
          else pure (deliver hooks session entry pdu.data)

/-- The branch of a compressed first PDU. The decompressor has moved on even when what it
    yields is refused. -/
def handleCompressedDataFirst (data : Bytes) : DynamicAnswer × DynamicSession σ δ :=
  match parseCompressedDataFirst data with
  | .error _ => ({ status := .protocolError }, session)
  | .ok pdu =>
      if pdu.totalLength.toNat > session.messageLimit then ({ status := .limitExceeded }, session)
      else
        match dynamicChannelFind session.table pdu.channelId with
        | none => ({ status := .protocolError }, session)
        | some (slot, entry) =>
            if entry.fragmenting then ({ status := .protocolError }, session)
            else
              let (status, decoded, decompressor) := hooks.decode entry.decompressor pdu.data
              let entry := { entry with decompressor }
              if status ≠ .ok then ({ status }, session.setEntry slot entry)
              else if decoded.length = 0 ∨ decoded.length > pdu.totalLength.toNat then
                ({ status := .protocolError }, session.setEntry slot entry)
              else
                takeFragment hooks session slot
                  { entry with fragment := decoded, fragmentExpected := pdu.totalLength }

def handleCompressedData (data : Bytes) : Exec (DynamicAnswer × DynamicSession σ δ) :=
  match parseCompressedData data with
  | .error _ => pure ({ status := .protocolError }, session)
  | .ok pdu =>
      match dynamicChannelFind session.table pdu.channelId with
      | none => pure ({ status := .protocolError }, session)
      | some (slot, entry) =>
          let (status, decoded, decompressor) := hooks.decode entry.decompressor pdu.data
          let entry := { entry with decompressor }
          let session := session.setEntry slot entry
          if status ≠ .ok then pure ({ status }, session)
          else if entry.fragmenting then
            if decoded.length = 0 ∨ entry.fragment.length > entry.fragmentExpected.toNat then
              pure ({ status := .protocolError }, session)
            else do
              let room ← checkedSub entry.fragmentExpected.toNat entry.fragment.length
              if decoded.length > room then pure ({ status := .protocolError }, session)
              else
                pure (takeFragment hooks session slot
                  { entry with fragment := entry.fragment ++ decoded })
          else pure (deliver hooks session entry decoded)

/-- The close branch: the entry is cleared, and nothing is answered. -/
def handleClose (data : Bytes) : DynamicAnswer × DynamicSession σ δ :=
  match parseClose data with
  | .error _ => ({ status := .protocolError }, session)
  | .ok pdu =>
      match dynamicChannelFind session.table pdu.channelId with
      | none => ({ status := .ok }, session)
      | some (slot, entry) =>
          let session := { session with rest := hooks.closed session.rest entry.channelId }
          ({ status := .ok, events :=
              if hooks.isInternalName entry.name then [] else [.closed entry.channelId entry.name] },
            session.setEntry slot (dynamicChannelClearEntry entry))

/-- `rdp_session_handle_dynamic_channel`. -/
def handleDynamicChannel (data : Bytes) : Exec (DynamicAnswer × DynamicSession σ δ) :=
  match parseHeader data with
  | .error _ => pure ({ status := .protocolError }, session)
  | .ok header =>
      if header.command = cmdCapabilities then
        let (status, rest) := hooks.capabilities session.rest data
        pure ({ status }, { session with rest })
      else if header.command = cmdCreate then pure (handleCreate hooks session data)
      else if header.command = cmdDataFirst then pure (handleDataFirst hooks session data)
      else if header.command = cmdData then handleData hooks session data
      else if header.command = cmdDataFirstCompressed then
        pure (handleCompressedDataFirst hooks session data)
      else if header.command = cmdDataCompressed then handleCompressedData hooks session data
      else if header.command = cmdClose then pure (handleClose hooks session data)
      else if header.command = cmdSoftSyncRequest then
        let (status, rest) := hooks.softSync session.rest session.table.channels data
        pure ({ status }, { session with rest })
      else pure ({ status := hooks.softSyncResponse data }, session)

end Handler

/-! ## What each message does -/

def DynamicChannel.Fed {δ : Type} [Inhabited δ] (entry : DynamicChannel δ) : Prop :=
  entry.fragmenting = true → entry.fragment.length ≤ entry.fragmentExpected.toNat

/-- Every entry that is in the middle of a message has room left for it. -/
def AllFed {δ : Type} [Inhabited δ] (channels : List (DynamicChannel δ)) : Prop :=
  Table.Every DynamicChannel.Fed channels

inductive Moved {σ δ : Type} [Inhabited δ] (session : DynamicSession σ δ) (about : Option UInt32) :
    DynamicSession σ δ → Prop where
  | same (rest : σ) : Moved session about { session with rest }
  | entry (new : DynamicChannel δ) (isAbout : about = some channelId)
      (held : session.table.channels[slot]? = some old)
      (wasAbout : old.used = true → old.channelId = channelId)
      (newAbout : new.used = true → new.channelId = channelId) (fed : old.Fed → new.Fed)
      (rest : σ) : Moved session about { session.setEntry slot new with rest }

section Moves

variable {σ δ : Type} [Inhabited δ] {hooks : DynamicHooks σ δ} {session : DynamicSession σ δ}
  {about : Option UInt32} {slot : Nat} {entry : DynamicChannel δ} {channelId : UInt32}

theorem DynamicChannel.activeFor_used (found : entry.activeFor channelId = true) :
    entry.active = true ∧ entry.used = true ∧ entry.channelId = channelId := by
  simp only [DynamicChannel.activeFor, Bool.and_eq_true, beq_iff_eq] at found
  exact ⟨found.1, by rw [DynamicChannel.used, found.1, Bool.true_or], found.2⟩

theorem clearEntry_fed (entry : DynamicChannel δ) : (dynamicChannelClearEntry entry).Fed := nofun

theorem moved_found (isAbout : about = some channelId)
    (found : dynamicChannelFind session.table channelId = some (slot, entry))
    (new : DynamicChannel δ) (kept : new.channelId = entry.channelId) (fed : entry.Fed → new.Fed)
    (rest : σ) : Moved session about { session.setEntry slot new with rest } := by
  obtain ⟨held, passes⟩ := Table.lookup_some found
  obtain ⟨_, _, same⟩ := DynamicChannel.activeFor_used passes
  exact .entry new isAbout held (fun _ => same) (fun _ => kept.trans same) fed rest

theorem handleCreateResponse_moved (isAbout : about = some channelId)
    (found : dynamicChannelFindOpening session.table channelId = some (slot, entry))
    (response : CreateResponse) :
    Moved session about (handleCreateResponse session response slot entry).2 := by
  obtain ⟨any, _⟩ := Option.filter_eq_some_iff.mp found
  obtain ⟨held, passes⟩ := Table.lookup_some any
  simp only [DynamicChannel.usedFor, Bool.and_eq_true, beq_iff_eq] at passes
  unfold handleCreateResponse
  split
  · exact .same session.rest
  split
  · exact .entry (dynamicChannelAnswered entry) isAbout held (fun _ => passes.2)
      (fun _ => passes.2) id session.rest
  · exact .entry (dynamicChannelClearEntry entry) isAbout held (fun _ => passes.2)
      (fun used => absurd used Bool.false_ne_true) (fun _ => clearEntry_fed entry) session.rest

theorem dynamicChannelAdd_cases (table : ChannelTable δ) (request : CreateRequest) :
    (∃ status, status ≠ Status.ok ∧ dynamicChannelAdd table request = (status, none, table)) ∨
      ∃ slot old new, dynamicChannelFreeSlot table = some (slot, old) ∧
        dynamicChannelFindAny table request.channelId = none ∧
        new = { dynamicChannelClearEntry old with
          channelId := request.channelId
          channelIdBytes := request.channelIdBytes
          priority := if request.priority ≤ 2 then request.priority else 0
          active := true
          name := request.name.take (dynamicChannelNameMax - 1) } ∧
        dynamicChannelAdd table request =
          (.ok, some slot, { table with channels := table.channels.set slot new }) := by
  unfold dynamicChannelAdd
  split
  · exact .inl ⟨.protocolError, by decide, rfl⟩
  rename_i unseen
  cases free : dynamicChannelFreeSlot table with
  | none => exact .inl ⟨.limitExceeded, by decide, rfl⟩
  | some pair =>
    exact .inr ⟨pair.1, pair.2, _, rfl, Option.not_isSome_iff_eq_none.mp unseen, rfl, rfl⟩

theorem handleCreateRequest_moved (data : Bytes) :
    Moved session (pduChannel data) (handleCreateRequest hooks session data).2 := by
  unfold handleCreateRequest
  cases parsed : parseCreateRequest data with
  | error => exact .same session.rest
  | ok request =>
    obtain ⟨_, _, _, isAbout⟩ := parseCreateRequest_inv parsed
    simp only
    split
    · exact .same session.rest
    split
    · rcases dynamicChannelAdd_cases session.table request with
        ⟨status, failed, added⟩ | ⟨slot, old, new, free, _, isNew, added⟩
      · simp only [added, if_pos failed]
        exact .same session.rest
      · have unused : old.used = true → old.channelId = request.channelId := by
          intro used
          rw [(dynamicChannelFreeSlot_held free).2] at used
          cases used
        have moved : ∀ rest, Moved session (pduChannel data)
            { session.setEntry slot new with rest } := by
          intro rest
          refine .entry new isAbout (dynamicChannelFreeSlot_held free).1 unused ?_ ?_ rest
          · intro _
            rw [isNew]
          · intro _
            rw [isNew]
            nofun
        simp only [added, ne_eq, not_true_eq_false, if_false, writeChannelPdu, announceCreated]
        split
        · exact moved _
        split
        · exact moved _
        · exact moved _
    · exact .same _

theorem handleCreate_moved (data : Bytes) :
    Moved session (pduChannel data) (handleCreate hooks session data).2 := by
  unfold handleCreate
  cases parsed : parseCreateResponse data with
  | error => exact handleCreateRequest_moved data
  | ok response =>
    obtain ⟨_, _, _, isAbout⟩ := parseCreateResponse_inv parsed
    simp only
    cases found : dynamicChannelFindOpening session.table response.channelId with
    | none => exact handleCreateRequest_moved data
    | some pair => exact handleCreateResponse_moved isAbout found response

theorem takeFragment_moved (isAbout : about = some channelId)
    (found : dynamicChannelFind session.table channelId = some (slot, entry))
    {new : DynamicChannel δ} (kept : new.channelId = entry.channelId) :
    Moved session about (takeFragment hooks session slot new).2 := by
  unfold takeFragment
  split
  · rename_i room
    exact moved_found isAbout found { new with fragmenting := true } kept
      (fun _ _ => Nat.le_of_lt room) session.rest
  · exact moved_found isAbout found
      { new with fragmenting := false, fragment := [], fragmentExpected := 0 } kept (fun _ => nofun) _

theorem handleDataFirst_moved (data : Bytes) :
    Moved session (pduChannel data) (handleDataFirst hooks session data).2 := by
  unfold handleDataFirst
  cases parsed : parseDataFirst data with
  | error => exact .same session.rest
  | ok pdu =>
    obtain ⟨_, _, _, isAbout, _⟩ := parseFirst_inv rfl parsed
    simp only
    split
    · exact .same session.rest
    cases found : dynamicChannelFind session.table pdu.channelId with
    | none => exact .same session.rest
    | some pair =>
      simp only
      split
      · exact .same session.rest
      · exact takeFragment_moved isAbout found rfl

theorem handleData_moved (fed : AllFed session.table.channels) (data : Bytes) :
    ∃ result, handleData hooks session data = .ok result ∧
      Moved session (pduChannel data) result.2 := by
  unfold handleData
  cases parsed : parseData data with
  | error => exact ⟨_, rfl, .same session.rest⟩
  | ok pdu =>
    obtain ⟨_, _, _, isAbout⟩ := parseData_inv parsed
    simp only
    cases found : dynamicChannelFind session.table pdu.channelId with
    | none => exact ⟨_, rfl, .same session.rest⟩
    | some pair =>
      simp only
      split
      · rename_i fragmenting
        split
        · exact ⟨_, rfl, .same session.rest⟩
        rw [checkedSub_of_le (fed (Table.lookup_some found).1 fragmenting), ok_bind]
        split
        · exact ⟨_, rfl, .same session.rest⟩
        · exact ⟨_, rfl, takeFragment_moved isAbout found rfl⟩
      · exact ⟨_, rfl, .same _⟩

theorem handleCompressedDataFirst_moved (data : Bytes) :
    Moved session (pduChannel data) (handleCompressedDataFirst hooks session data).2 := by
  unfold handleCompressedDataFirst
  cases parsed : parseCompressedDataFirst data with
  | error => exact .same session.rest
  | ok pdu =>
    obtain ⟨first, start, last⟩ := bind_eq_ok.mp parsed
    obtain ⟨_, _, _, isAbout, _⟩ := parseFirst_inv rfl start
    have same : first = pdu := by
      split at last
      · cases last
      · cases last
        rfl
    subst same
    simp only
    split
    · exact .same session.rest
    cases found : dynamicChannelFind session.table first.channelId with
    | none => exact .same session.rest
    | some pair =>
      have moved : ∀ decompressor, Moved session (pduChannel data)
          (session.setEntry pair.1 { pair.2 with decompressor }) :=
        fun decompressor => moved_found isAbout found { pair.2 with decompressor } rfl id
          session.rest
      simp only
      split
      · exact .same session.rest
      split
      · exact moved _
      split
      · exact moved _
      · exact takeFragment_moved isAbout found rfl

theorem parseCompressedData_inv {pdu : DataPdu} {data : Bytes}
    (parsed : parseCompressedData data = .ok pdu) : pduChannel data = some pdu.channelId := by
  obtain ⟨⟨header, channelId, stream⟩, start, last⟩ := bind_eq_ok.mp parsed
  simp only at last
  split at last
  · cases last
  · cases last
    exact (parseChannel_inv rfl start).2.2

theorem takeFragment_setEntry (before new : DynamicChannel δ) :
    takeFragment hooks (session.setEntry slot before) slot new =
      takeFragment hooks session slot new := by
  simp only [takeFragment, deliver, DynamicSession.setEntry, List.set_set]

theorem handleCompressedData_moved (data : Bytes) :
    ∃ result, handleCompressedData hooks session data = .ok result ∧
      Moved session (pduChannel data) result.2 := by
  unfold handleCompressedData
  cases parsed : parseCompressedData data with
  | error => exact ⟨_, rfl, .same session.rest⟩
  | ok pdu =>
    have isAbout := parseCompressedData_inv parsed
    simp only
    cases found : dynamicChannelFind session.table pdu.channelId with
    | none => exact ⟨_, rfl, .same session.rest⟩
    | some pair =>
      have moved : ∀ decompressor rest, Moved session (pduChannel data)
          { session.setEntry pair.1 { pair.2 with decompressor } with rest } :=
        fun decompressor rest => moved_found isAbout found { pair.2 with decompressor } rfl id
          rest
      simp only
      split
      · exact ⟨_, rfl, moved _ session.rest⟩
      split
      · split
        · exact ⟨_, rfl, moved _ session.rest⟩
        · rename_i fits
          rw [checkedSub_of_le (by have := (not_or.mp fits).2; omega), ok_bind]
          split
          · exact ⟨_, rfl, moved _ session.rest⟩
          refine ⟨_, rfl, ?_⟩
          rw [takeFragment_setEntry]
          exact takeFragment_moved isAbout found rfl
      · exact ⟨_, rfl, moved _ _⟩

theorem handleClose_moved (data : Bytes) :
    Moved session (pduChannel data) (handleClose hooks session data).2 := by
  unfold handleClose
  cases parsed : parseClose data with
  | error => exact .same session.rest
  | ok pdu =>
    obtain ⟨_, _, _, isAbout⟩ := parseClose_inv parsed
    simp only
    cases found : dynamicChannelFind session.table pdu.channelId with
    | none => exact .same session.rest
    | some pair =>
      obtain ⟨held, passes⟩ := Table.lookup_some found
      obtain ⟨_, _, same⟩ := DynamicChannel.activeFor_used passes
      exact .entry (dynamicChannelClearEntry pair.2) isAbout held (fun _ => same) nofun
        (fun _ => clearEntry_fed pair.2) _

theorem handleDynamicChannel_moved (fed : AllFed session.table.channels) (data : Bytes) :
    ∃ result, handleDynamicChannel hooks session data = .ok result ∧
      Moved session (pduChannel data) result.2 := by
  unfold handleDynamicChannel
  split
  · exact ⟨_, rfl, .same session.rest⟩
  split
  · exact ⟨_, rfl, .same _⟩
  split
  · exact ⟨_, rfl, handleCreate_moved data⟩
  split
  · exact ⟨_, rfl, handleDataFirst_moved data⟩
  split
  · exact handleData_moved fed data
  split
  · exact ⟨_, rfl, handleCompressedDataFirst_moved data⟩
  split
  · exact handleCompressedData_moved data
  split
  · exact ⟨_, rfl, handleClose_moved data⟩
  split
  · exact ⟨_, rfl, .same _⟩
  · exact ⟨_, rfl, .same session.rest⟩

variable {session' : DynamicSession σ δ}

theorem Moved.fed (moved : Moved session about session') (fed : AllFed session.table.channels) :
    AllFed session'.table.channels := by
  cases moved with
  | same => exact fed
  | entry new _ held _ _ kept => exact Table.Every.set fed (kept (fed held))

theorem Moved.find_other (moved : Moved session about session') (other : about ≠ some channelId) :
    dynamicChannelFind session'.table channelId = dynamicChannelFind session.table channelId := by
  cases moved with
  | same => rfl
  | @entry moving slot old new isAbout held wasAbout newAbout =>
    have apart : moving ≠ channelId := fun same => other (isAbout.trans (congrArg some same))
    apply Table.lookup_set_unseen held
    · cases passes : old.activeFor channelId with
      | false => rfl
      | true =>
        obtain ⟨_, used, same⟩ := DynamicChannel.activeFor_used passes
        exact absurd ((wasAbout used).symm.trans same) apart
    · cases passes : new.activeFor channelId with
      | false => rfl
      | true =>
        obtain ⟨_, used, same⟩ := DynamicChannel.activeFor_used passes
        exact absurd ((newAbout used).symm.trans same) apart

theorem Moved.messageLimit (moved : Moved session about session') :
    session'.messageLimit = session.messageLimit := by
  cases moved <;> rfl

end Moves

/-! ## The machine -/

/-- What reaches the channels; `elsewhere` is the rest of the session, which may change whatever
    the channels do not own. -/
inductive DynamicInput (σ : Type) where
  | channelOpen (name : Bytes) (priority : Nat)
  | channelClose (channelId : UInt32)
  | message (data : Bytes)
  | clear
  | elsewhere (connected : Bool) (dynamicChannelId : UInt16) (rest : σ)

section Machine

variable {σ δ : Type} [Inhabited δ] {hooks : DynamicHooks σ δ} {session : DynamicSession σ δ}

def dynamicStep (hooks : DynamicHooks σ δ) (session : DynamicSession σ δ) :
    DynamicInput σ → Exec (DynamicAnswer × DynamicSession σ δ)
  | .channelOpen name priority => pure (channelOpen hooks session name priority).2
  | .channelClose channelId => pure (channelClose hooks session channelId)
  | .message data => handleDynamicChannel hooks session data
  | .clear => pure ({ status := .ok }, { session with table := dynamicChannelsClear session.table })
  | .elsewhere connected dynamicChannelId rest =>
      pure ({ status := .ok }, { session with connected, dynamicChannelId, rest })

def dynamicSessionInit (δ : Type) [Inhabited δ] {limit : Nat} (within : limit ≤ maxDynamicChannels)
    (messageLimit : Nat) (rest : σ) : DynamicSession σ δ :=
  { connected := false, dynamicChannelId := 0, messageLimit, table := channelTableInit δ within
    rest }

theorem setEntry_fed {slot : Nat} {entry : DynamicChannel δ} (fed : AllFed session.table.channels)
    (now : entry.Fed) : AllFed (session.setEntry slot entry).table.channels :=
  Table.Every.set fed now

theorem abandonOpening_fed (fed : AllFed session.table.channels) (channelId : UInt32) :
    AllFed (abandonOpening session channelId).table.channels := by
  unfold abandonOpening
  split
  · exact fed
  · exact setEntry_fed fed (clearEntry_fed _)

theorem dynamicChannelAddOpening_fed {table : ChannelTable δ} (fed : AllFed table.channels)
    (channelId : UInt32) (channelIdBytes priority : Nat) (name : Bytes) :
    AllFed (dynamicChannelAddOpening table channelId channelIdBytes priority name).2.2.2.channels := by
  unfold dynamicChannelAddOpening
  split
  · exact fed
  split
  · exact fed
  split
  · exact fed
  · exact Table.Every.set fed fun active => absurd active Bool.false_ne_true

theorem dynamicChannelAllocateId_channels (table : ChannelTable δ) :
    (dynamicChannelAllocateId table).2.channels = table.channels := by
  unfold dynamicChannelAllocateId
  simp only
  generalize (if table.nextDynamicChannelId = 0 then 1 else table.nextDynamicChannelId) = candidate
  cases allocateIdFrom table (maxDynamicChannels + 1) candidate <;> rfl

theorem channelOpen_fed (fed : AllFed session.table.channels) (name : Bytes) (priority : Nat) :
    AllFed (channelOpen hooks session name priority).2.2.table.channels := by
  unfold channelOpen
  split
  · exact fed
  split
  · exact fed
  have same := dynamicChannelAllocateId_channels session.table
  split
  · rename_i table allocated
    rw [allocated] at same
    have before : AllFed table.channels := by
      rw [same]
      exact fed
    exact before
  rename_i channelId table allocated
  rw [allocated] at same
  have before : AllFed table.channels := by
    rw [same]
    exact fed
  have added := dynamicChannelAddOpening_fed before channelId
    (selectChannelIdBytes channelId.toNat) priority name
  simp only
  split
  · exact abandonOpening_fed added channelId
  split
  · exact abandonOpening_fed added channelId
  rename_i packet _
  by_cases sent : (hooks.write session.rest packet).1 = .ok
  · simp only [writeChannelPdu, sent, ne_eq, not_true_eq_false, if_false]
    exact added
  · simp only [writeChannelPdu, ne_eq, sent, not_false_eq_true, if_true]
    exact abandonOpening_fed added channelId

theorem channelClose_fed (fed : AllFed session.table.channels) (channelId : UInt32) :
    AllFed (channelClose hooks session channelId).2.table.channels := by
  unfold channelClose
  split
  · exact fed
  split
  · exact fed
  rename_i packet _
  by_cases sent : (hooks.write session.rest packet).1 = .ok
  · simp only [writeChannelPdu, sent, if_true]
    exact setEntry_fed fed (clearEntry_fed _)
  · simp only [writeChannelPdu, sent, if_false]
    exact fed

theorem dynamicSession_reachable_fed {limit messageLimit : Nat}
    {within : limit ≤ maxDynamicChannels} {rest : σ}
    (reached : Reachable (dynamicStep hooks) (dynamicSessionInit δ within messageLimit rest)
      session) : AllFed session.table.channels := by
  apply reached.invariant (fun session => AllFed session.table.channels)
  · exact Table.every_replicate _ nofun
  · intro before input answer after fed taken
    cases input with
    | channelOpen name priority =>
      have kept := @channelOpen_fed _ _ _ hooks _ fed name priority
      rw [Except.ok.inj taken] at kept
      exact kept
    | channelClose channelId =>
      have kept := @channelClose_fed _ _ _ hooks _ fed channelId
      rw [Except.ok.inj taken] at kept
      exact kept
    | message data =>
      obtain ⟨result, handled, moved⟩ := @handleDynamicChannel_moved _ _ _ hooks _ fed data
      rw [dynamicStep, handled] at taken
      cases taken
      exact moved.fed fed
    | clear =>
      cases taken
      exact Table.Every.map fed (fun entry _ => clearEntry_fed entry)
    | elsewhere connected dynamicChannelId rest =>
      cases taken
      exact fed

end Machine

end LibRdp.Client
