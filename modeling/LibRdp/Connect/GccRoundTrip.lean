import LibRdp.Connect.Gcc

/-! # Conference data read back

What one side writes into the blocks of a conference create PDU is what the other side reads of
them: first the PER numbers and the framing of blocks, then the blocks of either side, then the
two conference create PDUs.
-/

namespace LibRdp.Connect

open Coding

theorem readPerLength_write {length : Nat} (small : length ≤ 0x7fff) :
    ∃ bytes, writePerLength length = .ok bytes ∧
      bytes.length = (if 0x7f < length then 2 else 1) ∧
      ∀ rest, readPerLength (bytes ++ rest) = .ok (length, rest) := by
  unfold writePerLength
  rw [if_neg (by omega)]
  by_cases long : 0x7f < length
  · rw [if_pos long, if_pos long]
    refine ⟨_, rfl, rfl, fun rest => ?_⟩
    have first : (UInt8.ofNat ((length + 0x8000) / 256)).toNat = 0x80 + length / 256 := by
      rw [UInt8.toNat_ofNat']
      omega
    have second : (UInt8.ofNat (length + 0x8000)).toNat = length % 256 := by
      rw [UInt8.toNat_ofNat']
      omega
    have high : ¬UInt8.ofNat ((length + 0x8000) / 256) < 0x80 := by
      rw [UInt8.lt_iff_toNat_lt, first]
      exact Nat.not_lt.mpr (Nat.le_add_right 0x80 _)
    have whole : 256 * (0x80 + length / 256 - 0x80) + length % 256 = length := by omega
    simp only [u16BeBytes, List.cons_append, List.nil_append, readPerLength, readU8_cons,
      ok_bind, if_neg high, first, second, whole, attempt_pure]
  · rw [if_neg long, if_neg long]
    refine ⟨_, rfl, rfl, fun rest => ?_⟩
    have first : (UInt8.ofNat length).toNat = length := by
      rw [UInt8.toNat_ofNat']
      omega
    have low : UInt8.ofNat length < 0x80 := by
      rw [UInt8.lt_iff_toNat_lt, first]
      exact Nat.lt_of_le_of_lt (Nat.le_of_not_lt long) (by decide)
    simp only [List.cons_append, List.nil_append, readPerLength, readU8_cons, ok_bind,
      if_pos low, first, attempt_pure]

theorem readBytes_self (data : Bytes) : readBytes data data.length = .ok (data, []) := by
  have read := readBytes_append data []
  rwa [List.append_nil] at read

theorem readObjectIdentifier_same (expected rest : Bytes) :
    readObjectIdentifier expected (expected ++ rest) = .ok rest := by
  simp only [readObjectIdentifier, readBytes_append, ok_bind, ne_eq, not_true_eq_false,
    if_false, attempt_pure]

theorem readPerOctetString_same (expected rest : Bytes) :
    readPerOctetString expected expected.length (0 :: (expected ++ rest)) = .ok rest := by
  have length : readPerLength (0 :: (expected ++ rest)) = .ok (0, expected ++ rest) := rfl
  simp only [readPerOctetString, length, ok_bind, Nat.zero_add, ne_eq, not_true_eq_false,
    if_false, readBytes_append, attempt_pure]

variable {userData : Bytes} {type : UInt16} {version : UInt8} {flags : UInt32}

theorem parseConferenceCreateRequest_write (long : 0x7f < userData.length)
    (small : userData.length ≤ 0x7fff - 14) :
    ∃ pdu, writeConferenceCreateRequest userData = .ok pdu ∧
      parseConferenceCreateRequest pdu = .ok userData ∧ pdu ≠ [] ∧
      pdu.length ≤ userData.length + 30 := by
  obtain ⟨connectLen, connectWritten, connectSize, connectRead⟩ :=
    readPerLength_write (show userData.length + 14 ≤ 0x7fff by omega)
  obtain ⟨dataLen, dataWritten, dataSize, dataRead⟩ :=
    readPerLength_write (show userData.length ≤ 0x7fff by omega)
  rw [if_pos (by omega)] at connectSize dataSize
  have name : writePerNumericString [0x31] 1 = .ok [0, 0x10] := rfl
  have key : writePerOctetString clientKey clientKey.length = .ok (0 :: clientKey) := rfl
  have data : writePerOctetString userData 0 = .ok (dataLen ++ userData) := by
    rw [writePerOctetString, if_neg (by omega), perEncodedLength, if_pos (Nat.zero_le _),
      Nat.sub_zero, dataWritten]
    rfl
  refine ⟨[0] ++ conferenceOid ++ connectLen ++ [0, 0x08] ++ [0, 0x10] ++ [0, 1, 0xc0] ++
    (0 :: clientKey) ++ (dataLen ++ userData), ?_, ?_, nofun, ?_⟩
  · rw [writeConferenceCreateRequest, if_neg (by omega), connectWritten, name, key, data]
    rfl
  · have room : ¬([0, 0x08] ++ ([0, 0x10] ++ ([0, 1, 0xc0] ++
        ((0 :: clientKey) ++ (dataLen ++ userData))))).length < userData.length + 14 := by
      simp only [List.length_append, List.length_cons, List.length_nil, clientKey]
      omega
    simp only [parseConferenceCreateRequest, List.append_assoc, List.cons_append, List.nil_append,
      readU8_cons, ok_bind, ne_eq, not_true_eq_false, if_false, readObjectIdentifier_same,
      connectRead] at room ⊢
    have nameRead (rest : Bytes) : readPerLength (0 :: 0x10 :: rest) = .ok (0, 0x10 :: rest) := rfl
    have nameSkipped (rest : Bytes) :
        readBytes (0x10 :: rest) ((0 + 2) / 2) = .ok ([0x10], rest) :=
      readBytes_append [0x10] rest
    have filled : userData.length ≠ 0 := by omega
    simp only [if_neg room, or_self, if_false, nameRead, ok_bind, nameSkipped, readU8_cons,
      not_true_eq_false, readPerOctetString_same, dataRead, readBytes_self, filled, attempt_pure]
  · simp only [List.length_append, List.length_cons, List.length_nil, conferenceOid, clientKey]
    omega

theorem parseConferenceCreateResponse_write (small : userData.length ≤ 0x7fff) :
    ∃ pdu, writeConferenceCreateResponse userData = .ok pdu ∧
      parseConferenceCreateResponse pdu = .ok ⟨0x79f3, gccServerTag, 0, userData⟩ ∧
      pdu.length ≤ userData.length + 30 := by
  obtain ⟨dataLen, dataWritten, dataSize, dataRead⟩ := readPerLength_write small
  have tag : writePerInteger gccServerTag = .ok [1, 1] := rfl
  have key : writePerOctetString serverKey serverKey.length = .ok (0 :: serverKey) := rfl
  have hint : writePerLength gccConferenceResponseLengthHint = .ok [0x2a] := rfl
  refine ⟨[0] ++ conferenceOid ++ [0x2a] ++ ([0x14] ++
    u16BeBytes (gccServerNodeId - gccUserIdMin.toNat) ++ [1, 1] ++ [0, 1, 0xc0] ++
    (0 :: serverKey) ++ dataLen ++ userData), ?_, ?_, ?_⟩
  · rw [writeConferenceCreateResponse, if_neg (by omega), tag, key, dataWritten, hint]
    rfl
  · have hintRead (rest : Bytes) : readPerLength (0x2a :: rest) = .ok (0x2a, rest) := rfl
    have nodeRead (rest : Bytes) : readPerInteger16 gccUserIdMin
        (u16BeBytes (gccServerNodeId - gccUserIdMin.toNat) ++ rest) = .ok (0x79f3, rest) := rfl
    have tagRead (rest : Bytes) : readPerInteger (1 :: 1 :: rest) = .ok (gccServerTag, rest) := rfl
    simp only [parseConferenceCreateResponse, List.append_assoc, List.cons_append, List.nil_append,
      readU8_cons, ok_bind, ne_eq, not_true_eq_false, if_false, readObjectIdentifier_same,
      hintRead, nodeRead, tagRead, or_self, readPerOctetString_same, dataRead, readBytes_self,
      attempt_pure]
  · have few : dataLen.length ≤ 2 := by
      rw [dataSize]
      split <;> omega
    simp only [List.length_append, List.length_cons, List.length_nil, conferenceOid, serverKey,
      u16BeBytes_length]
    omega

variable {read : Bytes → Attempt (α × Bytes)} {summary : GccClientDataSummary}
  {config : GccServerConfig}

/-- What the reading of `l` as one item after the other gives. -/
theorem readCounted_flatMap {write : α → Bytes}
    (each : ∀ a rest, read (write a ++ rest) = .ok (a, rest)) (l : List α) (rest : Bytes) :
    readCounted read l.length (l.flatMap write ++ rest) = .ok (l, rest) := by
  induction l with
  | nil => rfl
  | cons a l ih =>
    simp only [List.flatMap_cons, List.append_assoc, List.length_cons, readCounted, each,
      ok_bind, ih, attempt_pure]

variable {payload block : Bytes}

theorem readUserDataBlock_write (written : writeBlock type payload = .ok block) (rest : Bytes) :
    readUserDataBlock (block ++ rest) = .ok (⟨type, payload⟩, rest) := by
  unfold writeBlock at written
  split at written
  · exact nomatch written
  rename_i small
  cases written
  have total : (UInt16.ofNat (payload.length + 4)).toNat = payload.length + 4 := by
    rw [UInt16.toNat_ofNat']
    exact Nat.mod_eq_of_lt (by omega)
  have least : ¬UInt16.ofNat (payload.length + 4) < 4 := by
    rw [UInt16.lt_iff_toNat_lt, total]
    exact Nat.not_lt.mpr (Nat.le_add_left 4 _)
  have read := readU16Le_append (UInt16.ofNat (payload.length + 4)) (payload ++ rest)
  rw [total] at read
  simp only [readUserDataBlock, List.append_assoc, readU16Le_append, ok_bind, read,
    if_neg least, total, Nat.add_sub_cancel, readBytes_append, attempt_pure]

theorem writeBlock_length (written : writeBlock type payload = .ok block) :
    block.length = payload.length + 4 := by
  unfold writeBlock at written
  split at written
  · exact nomatch written
  cases written
  simp only [List.length_append, u16LeBytes_length]
  omega

section Drain

variable {take : σ → GccUserDataBlock → Attempt σ} {type : UInt16} {payload block : Bytes}
  {state next : σ}

theorem drain_block (written : writeBlock type payload = .ok block)
    (taken : take state ⟨type, payload⟩ = .ok next) (rest : Bytes) :
    (parseBlocks take).drain state (block ++ rest) = (parseBlocks take).drain next rest := by
  apply Consumer.drain_step
  simp only [parseBlocks, readUserDataBlock_write written, ok_bind, taken, attempt_pure]

theorem drain_enabled {enabled : Bool}
    (written : writeEnabled enabled (writeBlock type payload) = .ok block)
    (taken : enabled = true → take state ⟨type, payload⟩ = .ok next) (rest : Bytes) :
    (parseBlocks take).drain state (block ++ rest) =
      (parseBlocks take).drain (if enabled then next else state) rest := by
  cases enabled with
  | true => exact drain_block written (taken rfl) rest
  | false =>
    cases written
    rfl

end Drain

/-! What each block adds to the summary. -/

namespace GccClientDataSummary

variable (summary : GccClientDataSummary)

def tellCore (config : GccClientConfig) : GccClientDataSummary :=
  { summary with
    hasCore := true
    version := orDefault config.clientVersion gccClientVersion5
    desktopWidth := config.desktopWidth
    desktopHeight := config.desktopHeight
    requestedProtocols := config.requestedProtocols
    supportedColorDepths := orDefault config.supportedColorDepths gccSupportedColorDepthsLegacy
    earlyCapabilityFlags := orDefault config.earlyCapabilityFlags gccEarlySupportErrinfo
    connectionType := orDefault config.connectionType gccConnectionTypeLan
    desktopPhysicalWidth := config.desktopPhysicalWidth
    desktopPhysicalHeight := config.desktopPhysicalHeight }

def tellSecurity : GccClientDataSummary := { summary with hasSecurity := true }

def tellCluster (flags sessionId : UInt32) : GccClientDataSummary :=
  { summary with hasCluster := true, clusterFlags := flags, redirectedSessionId := sessionId }

def tellNetwork (channels : List GccChannelDefinition) : GccClientDataSummary :=
  { summary with
    channelCount := UInt16.ofNat channels.length
    channels := channels ++ summary.channels.drop channels.length
    hasNetwork := true }

def tellMessageChannel (flags : UInt32) : GccClientDataSummary :=
  { summary with messageChannelFlags := flags, hasMessageChannel := true }

def tellMultitransport (flags : UInt32) : GccClientDataSummary :=
  { summary with multitransportFlags := flags, hasMultitransport := true }

end GccClientDataSummary

theorem writeUtf16leFixed_length (text : Bytes) {bytes : Nat} (even : bytes % 2 = 0) :
    (writeUtf16leFixed text bytes).length = bytes := by
  have flat (l : Bytes) : (l.flatMap fun char : UInt8 => u16LeBytes char.toNat).length =
      2 * l.length := by
    induction l with
    | nil => rfl
    | cons char l ih =>
      rw [List.flatMap_cons, List.length_append, ih, u16LeBytes_length, List.length_cons]
      omega
  simp only [writeUtf16leFixed, flat, List.length_append, List.length_replicate, List.length_take]
  omega

theorem clientCore_position (config : GccClientConfig) (count : Nat) :
    ((clientCoreFields config).take count).flatten.length =
      (([4, 2, 2, 2, 2, 4, 4, 32, 4, 4, 4, 64, 2, 2, 4, 2, 2, 2, 64, 1, 1, 4, 4, 4, 2, 4,
        4] : List Nat).take count).sum := by
  have widths : (clientCoreFields config).map List.length =
      [4, 2, 2, 2, 2, 4, 4, 32, 4, 4, 4, 64, 2, 2, 4, 2, 2, 2, 64, 1, 1, 4, 4, 4, 2, 4, 4] := by
    simp only [clientCoreFields, List.map_cons, List.map_nil, u16LeBytes_length, u32LeBytes_length,
      writeUtf16leFixed_length _ (show 32 % 2 = 0 from rfl),
      writeUtf16leFixed_length _ (show 64 % 2 = 0 from rfl), List.length_replicate,
      List.length_cons, List.length_nil, Nat.zero_add]
  rw [List.length_flatten, List.map_take, widths]

theorem clientCore_length (config : GccClientConfig) :
    (clientCoreFields config).flatten.length = 230 := clientCore_position config 27

theorem readAt_field (config : GccClientConfig) (count : Nat) {position least : Nat}
    {old value : α} {rest : Bytes}
    (place : (([4, 2, 2, 2, 2, 4, 4, 32, 4, 4, 4, 64, 2, 2, 4, 2, 2, 2, 64, 1, 1, 4, 4, 4, 2, 4,
      4] : List Nat).take count).sum = position) (enough : least ≤ 230)
    (found : read ((clientCoreFields config).drop count).flatten = .ok (value, rest)) :
    readAt (clientCoreFields config).flatten position least read old = .ok value := by
  rw [readAt, if_pos (by rw [clientCore_length]; exact enough),
    flatten_drop _ count ((clientCore_position config count).trans place), found]
  rfl

theorem parseClientCore_fields (config : GccClientConfig) (summary : GccClientDataSummary) :
    parseClientCore summary (clientCoreFields config).flatten = .ok (summary.tellCore config) := by
  have version : readU32Le (clientCoreFields config).flatten =
      .ok (orDefault config.clientVersion gccClientVersion5,
        ((clientCoreFields config).drop 1).flatten) := readU32Le_append _ _
  have width : readU16Le ((clientCoreFields config).drop 1).flatten =
      .ok (config.desktopWidth, ((clientCoreFields config).drop 2).flatten) :=
    readU16Le_append _ _
  have height : readU16Le ((clientCoreFields config).drop 2).flatten =
      .ok (config.desktopHeight, ((clientCoreFields config).drop 3).flatten) :=
    readU16Le_append _ _
  have protocols : readAt (clientCoreFields config).flatten 208 212 readU32Le
      summary.requestedProtocols = .ok config.requestedProtocols :=
    readAt_field config 21 rfl (by decide) (readU32Le_append _ _)
  have depths : readAt (clientCoreFields config).flatten 138 142 readU16Le
      summary.supportedColorDepths =
        .ok (orDefault config.supportedColorDepths gccSupportedColorDepthsLegacy) :=
    readAt_field config 16 rfl (by decide) (readU16Le_append _ _)
  have early : readAt (clientCoreFields config).flatten 140 142 readU16Le
      summary.earlyCapabilityFlags =
        .ok (orDefault config.earlyCapabilityFlags gccEarlySupportErrinfo) :=
    readAt_field config 17 rfl (by decide) (readU16Le_append _ _)
  have connection : readAt (clientCoreFields config).flatten 206 207 readU8
      summary.connectionType = .ok (orDefault config.connectionType gccConnectionTypeLan) :=
    readAt_field config 19 rfl (by decide) rfl
  have physicalWidth : readAt (clientCoreFields config).flatten 212 220 readU32Le
      summary.desktopPhysicalWidth = .ok config.desktopPhysicalWidth :=
    readAt_field config 22 rfl (by decide) (readU32Le_append _ _)
  have physicalHeight : readAt (clientCoreFields config).flatten 216 220 readU32Le
      summary.desktopPhysicalHeight = .ok config.desktopPhysicalHeight :=
    readAt_field config 23 rfl (by decide) (readU32Le_append _ _)
  simp only [parseClientCore, version, width, height, protocols, depths, early, connection,
    physicalWidth, physicalHeight, ok_bind, attempt_pure, GccClientDataSummary.tellCore]

theorem parseClientSecurity_written (summary : GccClientDataSummary) :
    parseClientSecurity summary (u32LeBytes 0x0b ++ u32LeBytes 0) =
      .ok summary.tellSecurity := rfl

theorem clientClusterFlags_spec (valid smartcard : Bool) (least : 1 ≤ version)
    (most : version ≤ 6) : let flags := clientClusterFlags version valid smartcard
    flags &&& ~~~gccClusterKnownFlags = 0 ∧ flags &&& gccClusterRedirectionSupported ≠ 0 ∧
      clusterVersion flags + 1 = version.toUInt32 ∧
      ¬gccRedirectionVersion6.toUInt32 - 1 < clusterVersion flags ∧
      (flags &&& gccClusterRedirectedSessionIdValid ≠ 0 ↔ valid = true) ∧
      (flags &&& gccClusterRedirectedSmartcard ≠ 0 ↔ smartcard = true) := by
  have known : version = 1 ∨ version = 2 ∨ version = 3 ∨ version = 4 ∨ version = 5 ∨
      version = 6 := by
    rw [UInt8.le_iff_toNat_le] at least most
    simp only [← UInt8.toNat_inj]
    change 1 ≤ version.toNat at least
    change version.toNat ≤ 6 at most
    change version.toNat = 1 ∨ version.toNat = 2 ∨ version.toNat = 3 ∨ version.toNat = 4 ∨
      version.toNat = 5 ∨ version.toNat = 6
    omega
  rcases known with rfl | rfl | rfl | rfl | rfl | rfl <;>
    cases valid <;> cases smartcard <;> decide

theorem parseClientCluster_written {valid smartcard : Bool} (sessionId : UInt32)
    (least : 1 ≤ version) (most : version ≤ 6) (first : summary.hasCluster = false) :
    parseClientCluster summary (u32LeBytes (clientClusterFlags version valid smartcard).toNat ++
        u32LeBytes (if valid then sessionId else 0 : UInt32).toNat) =
      .ok (summary.tellCluster (clientClusterFlags version valid smartcard)
        (if valid then sessionId else 0)) := by
  obtain ⟨known, supported, -, newest, validBit, -⟩ :=
    clientClusterFlags_spec valid smartcard least most
  have accepted : ¬clusterRefused (clientClusterFlags version valid smartcard)
      (if valid then sessionId else 0) := by
    rw [clusterRefused, if_neg supported]
    rintro (unknown | tooNew | ⟨invalid, noId⟩)
    · exact unknown known
    · exact newest tooNew
    · have unset : ¬valid = true := fun set => validBit.mpr set invalid
      exact noId (if_neg unset)
  have read := readU32Le_append (if valid then sessionId else 0) []
  rw [List.append_nil] at read
  simp only [parseClientCluster, first, Bool.false_eq_true, if_false, readU32Le_append, read,
    ok_bind, ne_eq, not_true_eq_false, false_or, accepted, attempt_pure,
    GccClientDataSummary.tellCluster]

theorem readChannel_write (channel : GccChannelDefinition) (rest : Bytes) :
    readChannel (writeChannel channel ++ rest) = .ok (channel, rest) := by
  obtain ⟨⟨name, sized⟩, flags⟩ := channel
  have long : ¬(writeChannel ⟨⟨name, sized⟩, flags⟩ ++ rest).length < 8 := by
    simp only [writeChannel, List.Vector.toList_mk, List.length_append]
    omega
  have front : (writeChannel ⟨⟨name, sized⟩, flags⟩ ++ rest).take 8 = name := by
    rw [writeChannel, List.Vector.toList_mk, List.append_assoc]
    exact List.take_left' sized
  have back : (writeChannel ⟨⟨name, sized⟩, flags⟩ ++ rest).drop 8 =
      u32LeBytes flags.toNat ++ rest := by
    rw [writeChannel, List.Vector.toList_mk, List.append_assoc]
    exact List.drop_left' sized
  rw [readChannel, dif_neg long]
  simp only [front, back, readU32Le_append, ok_bind, attempt_pure]

theorem writeChannel_length (channel : GccChannelDefinition) : (writeChannel channel).length = 12 := by
  rw [writeChannel, List.length_append, channel.name.toList_length, u32LeBytes_length]

theorem flatMap_writeChannel_length (channels : List GccChannelDefinition) :
    (channels.flatMap writeChannel).length = channels.length * 12 := by
  rw [List.length_flatMap, List.map_congr_left fun channel _ => writeChannel_length channel,
    List.map_const', List.sum_replicate_nat]

theorem readU16Le_count {count : Nat} (small : count < 65536) (rest : Bytes) :
    ∃ high, readU16Le (u32LeBytes count ++ rest) = .ok (UInt16.ofNat count, high) ∧
      ∃ ignored, readU16Le high = .ok (ignored, rest) := by
  refine ⟨[UInt8.ofNat (count / 65536), UInt8.ofNat (count / 16777216)] ++ rest, ?_, _, rfl⟩
  simp only [u32LeBytes, List.cons_append, List.nil_append, readU16Le, u16Le_bytes small]

theorem parseClientNetwork_written {channels : List GccChannelDefinition}
    (few : channels.length ≤ 64) (summary : GccClientDataSummary) :
    parseClientNetwork summary (u32LeBytes channels.length ++ channels.flatMap writeChannel) =
      .ok (summary.tellNetwork channels) := by
  obtain ⟨high, count, ignored, skipped⟩ :=
    readU16Le_count (show channels.length < 65536 by omega) (channels.flatMap writeChannel)
  have value : (UInt16.ofNat channels.length).toNat = channels.length := by
    rw [UInt16.toNat_ofNat']
    exact Nat.mod_eq_of_lt (by omega)
  have entries := readCounted_flatMap readChannel_write channels []
  rw [List.append_nil] at entries
  have room : ¬(gccMaxServerChannels < channels.length ∨
      channels.length * 12 < channels.length * 12) := by
    rw [gccMaxServerChannels]
    omega
  simp only [parseClientNetwork, count, skipped, ok_bind, value,
    flatMap_writeChannel_length, if_neg room, entries, attempt_pure,
    GccClientDataSummary.tellNetwork]

theorem parseClientMessageChannel_written (flags : UInt32)
    (first : summary.hasMessageChannel = false) :
    parseClientMessageChannel summary (u32LeBytes flags.toNat) =
      .ok (summary.tellMessageChannel flags) := by
  have read := readU32Le_append flags []
  rw [List.append_nil] at read
  simp only [parseClientMessageChannel, first, Bool.false_eq_true, if_false, read, ok_bind,
    ne_eq, not_true_eq_false, attempt_pure, GccClientDataSummary.tellMessageChannel]

theorem parseClientMultitransport_written (accepted : ¬multitransportRefused flags)
    (summary : GccClientDataSummary) :
    parseClientMultitransport summary (u32LeBytes flags.toNat) =
      .ok (summary.tellMultitransport flags) := by
  have read := readU32Le_append flags []
  rw [List.append_nil] at read
  simp only [parseClientMultitransport, read, ok_bind, ne_eq, not_true_eq_false, false_or,
    accepted, if_false, attempt_pure, GccClientDataSummary.tellMultitransport]

namespace GccServerData

variable (data : GccServerData)

def storeCore (config : GccServerConfig) : GccServerData :=
  { data with
    version := orDefault config.version gccClientVersion5
    requestedProtocols := config.requestedProtocols
    earlyCapabilityFlags := config.earlyCapabilityFlags
    hasCore := true }

def storeSecurity (config : GccServerConfig) : GccServerData :=
  if config.encrypts then
    { data with
      encryptionMethod := config.encryptionMethod, encryptionLevel := config.encryptionLevel
      serverRandomLen := config.serverRandomLen, serverRandom := some config.random
      serverCertificateLen := config.serverCertificateLen
      serverCertificate := some config.certificate, hasSecurity := true }
  else
    { data with
      encryptionMethod := config.encryptionMethod, encryptionLevel := config.encryptionLevel
      hasSecurity := true }

def storeNetwork (mcsChannelId count : UInt16) : GccServerData :=
  { data with
    mcsChannelId, channelCount := count
    channelIds := serverChannelIds count ++ data.channelIds.drop count.toNat
    hasNetwork := true }

def storeMessageChannel (id : UInt16) : GccServerData :=
  { data with messageChannelId := id, hasMessageChannel := true }

def storeMultitransport (flags : UInt32) : GccServerData :=
  { data with multitransportFlags := flags, hasMultitransport := true }

end GccServerData

theorem readWhereLeft_append (old value : UInt32) (rest : Bytes) :
    readWhereLeft old (u32LeBytes value.toNat ++ rest) = .ok (value, rest) := by
  rw [readWhereLeft, if_pos, readU32Le_append]
  rw [List.length_append, u32LeBytes_length]
  exact Nat.le_add_right 4 _

theorem parseServerCore_written (config : GccServerConfig) (data : GccServerData) :
    parseServerCore data (u32LeBytes (orDefault config.version gccClientVersion5).toNat ++
        u32LeBytes config.requestedProtocols.toNat ++ u32LeBytes config.earlyCapabilityFlags.toNat) =
      .ok (data.storeCore config) := by
  have last := readWhereLeft_append data.earlyCapabilityFlags config.earlyCapabilityFlags []
  rw [List.append_nil] at last
  simp only [parseServerCore, List.append_assoc, readU32Le_append, readWhereLeft_append, last,
    ok_bind, attempt_pure, GccServerData.storeCore]

theorem held_length (accepted : ¬serverConfigRefused config) (encrypted : config.encrypts) :
    config.random.length = config.serverRandomLen.toNat ∧
      config.certificate.length = config.serverCertificateLen.toNat ∧
      config.serverRandomLen ≠ 0 ∧ config.serverCertificateLen ≠ 0 := by
  have given : ¬(config.serverRandom.isNone ∨ config.serverCertificate.isNone ∨
      config.serverRandomLen = 0 ∨ config.serverCertificateLen = 0) := by
    intro missing
    exact accepted (.inr (.inr (.inl ⟨encrypted, missing⟩)))
  rw [not_or, not_or, not_or] at given
  obtain ⟨random, certificate, randomLen, certificateLen⟩ := given
  refine ⟨?_, ?_, randomLen, certificateLen⟩
  · cases pointed : config.serverRandom with
    | none => exact absurd (by rw [pointed]; rfl) random
    | some bytes =>
      rw [GccServerConfig.random, pointed, Option.getD_some]
      exact List.length_take_of_le (config.randomHeld bytes pointed)
  · cases pointed : config.serverCertificate with
    | none => exact absurd (by rw [pointed]; rfl) certificate
    | some bytes =>
      rw [GccServerConfig.certificate, pointed, Option.getD_some]
      exact List.length_take_of_le (config.certificateHeld bytes pointed)

theorem parseServerSecurity_written (accepted : ¬serverConfigRefused config)
    (data : GccServerData) :
    parseServerSecurity data (u32LeBytes config.encryptionMethod.toNat ++
        u32LeBytes config.encryptionLevel.toNat ++
        if config.encrypts then
          u32LeBytes config.serverRandomLen.toNat ++ u32LeBytes config.serverCertificateLen.toNat ++
            config.random ++ config.certificate
        else []) =
      .ok (data.storeSecurity config) := by
  by_cases encrypted : config.encrypts
  · obtain ⟨randomSize, certificateSize, randomLen, certificateLen⟩ :=
      held_length accepted encrypted
    have room : ¬(config.random ++ config.certificate).length <
        config.serverRandomLen.toNat + config.serverCertificateLen.toNat := by
      rw [List.length_append]
      omega
    have random := readBytes_append config.random config.certificate
    have certificate := readBytes_self config.certificate
    rw [randomSize] at random
    rw [certificateSize] at certificate
    have used : config.encryptionMethod ≠ 0 ∨ config.encryptionLevel ≠ 0 := encrypted
    simp only [parseServerSecurity, GccServerData.storeSecurity, if_pos encrypted, List.append_assoc,
      readU32Le_append, ok_bind, if_pos used, randomLen, certificateLen, room, or_self,
      if_false, random, certificate, attempt_pure]
  · have unused : ¬(config.encryptionMethod ≠ 0 ∨ config.encryptionLevel ≠ 0) := encrypted
    have level := readU32Le_append config.encryptionLevel []
    rw [List.append_nil] at level
    simp only [parseServerSecurity, GccServerData.storeSecurity, if_neg encrypted, List.append_nil,
      readU32Le_append, level, ok_bind, if_neg unused, attempt_pure]

theorem serverChannelIds_length (count : UInt16) :
    (serverChannelIds count).length = count.toNat := by
  rw [serverChannelIds, List.length_map, List.length_range]

theorem flatMap_u16LeBytes_length (values : List UInt16) :
    (values.flatMap fun id : UInt16 => u16LeBytes id.toNat).length = values.length * 2 := by
  rw [List.length_flatMap, List.map_congr_left fun id _ => u16LeBytes_length (UInt16.toNat id),
    List.map_const', List.sum_replicate_nat]

theorem parseServerNetwork_written {count : UInt16} (few : count.toNat ≤ 64) (mcsChannelId : UInt16)
    (data : GccServerData) :
    parseServerNetwork data (u16LeBytes mcsChannelId.toNat ++ u16LeBytes count.toNat ++
        (serverChannelIds count).flatMap fun id => u16LeBytes id.toNat) =
      .ok (data.storeNetwork mcsChannelId count) := by
  have entries := readCounted_flatMap readU16Le_append (serverChannelIds count) []
  rw [List.append_nil, serverChannelIds_length] at entries
  have supported : ¬gccMaxServerChannels < count.toNat := Nat.not_lt.mpr few
  simp only [parseServerNetwork, List.append_assoc, readU16Le_append, ok_bind,
    if_neg supported, flatMap_u16LeBytes_length, serverChannelIds_length, Nat.lt_irrefl, if_false,
    entries, attempt_pure, GccServerData.storeNetwork]

theorem parseServerMessageChannel_written {id : UInt16} (dynamic : globalChannelId < id.toNat)
    {data : GccServerData} (first : data.hasMessageChannel = false) :
    parseServerMessageChannel data (u16LeBytes id.toNat) =
      .ok (data.storeMessageChannel id) := by
  have read := readU16Le_append id []
  rw [List.append_nil] at read
  simp only [parseServerMessageChannel, first, Bool.false_eq_true, if_false, read, ok_bind,
    ne_eq, not_true_eq_false, Nat.not_le.mpr dynamic, or_self, attempt_pure,
    GccServerData.storeMessageChannel]

theorem parseServerMultitransport_written (accepted : ¬multitransportRefused flags)
    (data : GccServerData) :
    parseServerMultitransport data (u32LeBytes flags.toNat) =
      .ok (data.storeMultitransport flags) := by
  have read := readU32Le_append flags []
  rw [List.append_nil] at read
  simp only [parseServerMultitransport, read, ok_bind, ne_eq, not_true_eq_false, false_or,
    accepted, if_false, attempt_pure, GccServerData.storeMultitransport]

end LibRdp.Connect
