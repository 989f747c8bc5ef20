import LibRdp.Connect.GccRoundTrip
import LibRdp.Connect.McsRoundTrip

/-! # The connect exchange

The client sends its configuration through five framings and the server sends its own back
through three. Each side ends up with what the other one was configured with.
-/

namespace LibRdp.Connect

open Coding

def clientChannels (config : GccClientConfig) : List GccChannelDefinition :=
  enabledChannels config ++ extraChannelList config

structure TellsClient (config : GccClientConfig) (summary : GccClientDataSummary) : Prop where
  version : summary.version = orDefault config.clientVersion gccClientVersion5
  desktop : summary.desktopWidth = config.desktopWidth ∧
    summary.desktopHeight = config.desktopHeight
  physical : summary.desktopPhysicalWidth = config.desktopPhysicalWidth ∧
    summary.desktopPhysicalHeight = config.desktopPhysicalHeight
  protocols : summary.requestedProtocols = config.requestedProtocols
  early : summary.earlyCapabilityFlags =
    orDefault config.earlyCapabilityFlags gccEarlySupportErrinfo
  depths : summary.supportedColorDepths =
    orDefault config.supportedColorDepths gccSupportedColorDepthsLegacy
  connection : summary.connectionType = orDefault config.connectionType gccConnectionTypeLan
  hasCluster : summary.hasCluster = config.enableServerRedirection
  cluster : config.enableServerRedirection = true →
    summary.clusterFlags &&& gccClusterRedirectionSupported ≠ 0 ∧
    clusterVersion summary.clusterFlags + 1 =
      (orDefault config.serverRedirectionVersion gccRedirectionVersion5).toUInt32 ∧
    (summary.clusterFlags &&& gccClusterRedirectedSessionIdValid ≠ 0 ↔
      config.redirectedSessionIdValid = true) ∧
    (summary.clusterFlags &&& gccClusterRedirectedSmartcard ≠ 0 ↔
      config.redirectedSmartcard = true) ∧
    summary.redirectedSessionId =
      if config.redirectedSessionIdValid then config.redirectedSessionId else 0
  channels : summary.channels.take summary.channelCount.toNat = clientChannels config
  hasMessageChannel : summary.hasMessageChannel = config.enableMessageChannel
  messageChannel : config.enableMessageChannel = true →
    summary.messageChannelFlags = config.messageChannelFlags
  hasMultitransport : summary.hasMultitransport = config.enableMultitransport
  multitransport : config.enableMultitransport = true →
    summary.multitransportFlags = clientMultitransportFlags config

structure TellsServer (config : GccServerConfig) (data : GccServerData) : Prop where
  version : data.version = orDefault config.version gccClientVersion5
  protocols : data.requestedProtocols = config.requestedProtocols
  early : data.earlyCapabilityFlags = config.earlyCapabilityFlags
  encryption : data.encryptionMethod = config.encryptionMethod ∧
    data.encryptionLevel = config.encryptionLevel
  security : config.encrypts → data.serverRandom = some config.random ∧
    data.serverCertificate = some config.certificate ∧
    data.serverRandomLen = config.serverRandomLen ∧
    data.serverCertificateLen = config.serverCertificateLen
  plain : ¬config.encrypts → data.serverRandom = none ∧ data.serverCertificate = none
  mcsChannel : data.mcsChannelId = orDefault config.mcsChannelId (UInt16.ofNat globalChannelId)
  channels : data.channelIds.take data.channelCount.toNat = serverChannelIds config.channelCount
  hasMessageChannel : data.hasMessageChannel = config.enableMessageChannel
  messageChannel : config.enableMessageChannel = true →
    data.messageChannelId = config.messageChannelId
  hasMultitransport : data.hasMultitransport = config.enableMultitransport
  multitransport : config.enableMultitransport = true →
    data.multitransportFlags = config.multitransportFlags

def sendConnectInitial (config : GccClientConfig) : Attempt Bytes := do
  let blocks ← writeClientDataBlocks config
  let request ← writeConferenceCreateRequest blocks
  let initial ← writeConnectInitial request
  let data ← x224WrapData initial
  tpktWrite data

def receiveConnectInitial (packet : Bytes) : Attempt GccClientDataSummary := do
  let frame ← tpktParse packet
  let data ← x224ParseData frame.payload
  let request ← parseConnectInitial data
  let blocks ← parseConferenceCreateRequest request
  parseClientDataBlocks blocks

def sendConnectResponse (config : GccServerConfig) : Attempt Bytes := do
  let blocks ← writeServerDataBlocks config
  let response ← writeConferenceCreateResponse blocks
  writeConnectResponse response

def receiveConnectResponse (pdu : Bytes) : Attempt GccServerData := do
  let response ← parseConnectResponse pdu
  match response.userData with
  | none => refuse .invalidArgument
  | some userData =>
      let conference ← parseConferenceCreateResponse userData
      parseServerDataBlocks conference.userData

variable {config : GccClientConfig} {blocks : Bytes}

theorem writeClientDataBlocks_parts (written : writeClientDataBlocks config = .ok blocks) :
    ∃ core cluster security network messageChannel multitransport,
      writeClientCore config = .ok core ∧
      writeEnabled config.enableServerRedirection (writeClientCluster config) = .ok cluster ∧
      writeClientSecurity = .ok security ∧ writeClientNetwork config = .ok network ∧
      writeEnabled config.enableMessageChannel (writeClientMessageChannel config) =
        .ok messageChannel ∧
      writeEnabled config.enableMultitransport (writeClientMultitransport config) =
        .ok multitransport ∧
      blocks = core ++ cluster ++ security ++ network ++ messageChannel ++ multitransport := by
  simp only [writeClientDataBlocks, refuse_else, bind_eq_ok, attempt_pure, Except.ok.injEq] at written
  obtain ⟨-, core, wroteCore, cluster, wroteCluster, security, wroteSecurity, network,
    wroteNetwork, messageChannel, wroteMessageChannel, multitransport, wroteMultitransport, rfl⟩ :=
    written
  exact ⟨core, cluster, security, network, messageChannel, multitransport, wroteCore,
    wroteCluster, wroteSecurity, wroteNetwork, wroteMessageChannel, wroteMultitransport, rfl⟩

theorem writeClientNetwork_block {network : Bytes}
    (written : writeClientNetwork config = .ok network) :
    (clientChannels config).length ≤ 64 ∧
      writeBlock csNetwork (u32LeBytes (clientChannels config).length ++
        (clientChannels config).flatMap writeChannel) = .ok network := by
  unfold writeClientNetwork at written
  split at written
  · exact nomatch written
  rename_i pointed
  split at written
  · exact nomatch written
  rename_i few
  have extra : (extraChannelList config).length = config.extraChannelCount.toNat := by
    rw [extraChannelList]
    cases channels : config.extraChannels with
    | none =>
      have none' : config.extraChannelCount = 0 := by
        rcases Nat.eq_zero_or_pos config.extraChannelCount.toNat with zero | some
        · exact UInt16.toNat_inj.mp zero
        · exact absurd ⟨some, by rw [channels]; rfl⟩ pointed
      rw [none']
      rfl
    | some held => exact List.length_take_of_le (config.extraHeld held channels)
  have count : (clientChannels config).length =
      (enabledChannels config).length + config.extraChannelCount.toNat := by
    rw [clientChannels, List.length_append, extra]
  rw [count]
  refine ⟨?_, written⟩
  rw [gccMaxServerChannels] at few
  omega

theorem writeClientCluster_block {cluster : Bytes}
    (written : writeClientCluster config = .ok cluster) :
    let version := orDefault config.serverRedirectionVersion gccRedirectionVersion5
    1 ≤ version ∧ version ≤ 6 ∧ writeBlock csCluster
      (u32LeBytes (clientClusterFlags version config.redirectedSessionIdValid
        config.redirectedSmartcard).toNat ++
        u32LeBytes (if config.redirectedSessionIdValid then config.redirectedSessionId
          else 0 : UInt32).toNat) = .ok cluster := by
  unfold writeClientCluster at written
  simp only at written
  split at written
  · exact nomatch written
  rename_i known
  rw [not_or, UInt8.not_lt, UInt8.not_lt] at known
  exact ⟨known.1, known.2, written⟩

theorem writeClientMultitransport_block {multitransport : Bytes}
    (written : writeClientMultitransport config = .ok multitransport) :
    ¬multitransportRefused (clientMultitransportFlags config) ∧
      writeBlock csMultitransport (u32LeBytes (clientMultitransportFlags config).toNat) =
        .ok multitransport := by
  unfold writeClientMultitransport at written
  split at written
  · exact nomatch written
  · rename_i accepted
    exact ⟨accepted, written⟩

variable {enabled : Bool} {type : UInt16} {payload block : Bytes}

theorem writeEnabled_block {write : Attempt Bytes}
    (written : writeEnabled enabled write = .ok block)
    (whole : enabled = true → write = .ok block → writeBlock type payload = .ok block) :
    writeEnabled enabled (writeBlock type payload) = .ok block := by
  cases enabled with
  | true => exact whole rfl written
  | false => exact written

theorem writeEnabled_length_le
    (written : writeEnabled enabled (writeBlock type payload) = .ok block) :
    block.length ≤ payload.length + 4 := by
  cases enabled with
  | true => exact Nat.le_of_eq (writeBlock_length written)
  | false =>
    cases written
    exact Nat.zero_le _

theorem takeClientBlock_core (summary : GccClientDataSummary) (payload : Bytes) :
    takeClientBlock summary ⟨csCore, payload⟩ = parseClientCore summary payload := rfl

theorem takeClientBlock_security (summary : GccClientDataSummary) (payload : Bytes) :
    takeClientBlock summary ⟨csSecurity, payload⟩ = parseClientSecurity summary payload := rfl

theorem takeClientBlock_cluster (summary : GccClientDataSummary) (payload : Bytes) :
    takeClientBlock summary ⟨csCluster, payload⟩ = parseClientCluster summary payload := rfl

theorem takeClientBlock_network (summary : GccClientDataSummary) (payload : Bytes) :
    takeClientBlock summary ⟨csNetwork, payload⟩ = parseClientNetwork summary payload := rfl

theorem takeClientBlock_multitransport (summary : GccClientDataSummary) (payload : Bytes) :
    takeClientBlock summary ⟨csMultitransport, payload⟩ =
      parseClientMultitransport summary payload := rfl

theorem takeClientBlock_messageChannel (summary : GccClientDataSummary) (payload : Bytes) :
    takeClientBlock summary ⟨csMcsMsgchannel, payload⟩ =
      parseClientMessageChannel summary payload := rfl

def toldClient (config : GccClientConfig) : GccClientDataSummary :=
  let version := orDefault config.serverRedirectionVersion gccRedirectionVersion5
  let core := GccClientDataSummary.tellCore {} config
  let cluster :=
    if config.enableServerRedirection then
      core.tellCluster
        (clientClusterFlags version config.redirectedSessionIdValid config.redirectedSmartcard)
        (if config.redirectedSessionIdValid then config.redirectedSessionId else 0)
    else core
  let network := cluster.tellSecurity.tellNetwork (clientChannels config)
  let messageChannel :=
    if config.enableMessageChannel then network.tellMessageChannel config.messageChannelFlags
    else network
  if config.enableMultitransport then
    messageChannel.tellMultitransport (clientMultitransportFlags config)
  else messageChannel

theorem toldClient_whole (config : GccClientConfig) :
    (toldClient config).hasCore = true ∧ (toldClient config).hasSecurity = true ∧
      (toldClient config).hasNetwork = true := by
  unfold toldClient
  cases config.enableServerRedirection <;> cases config.enableMessageChannel <;>
    cases config.enableMultitransport <;> exact ⟨rfl, rfl, rfl⟩

theorem tellsClient_told (few : (clientChannels config).length ≤ 64)
    (version : config.enableServerRedirection = true →
      1 ≤ orDefault config.serverRedirectionVersion gccRedirectionVersion5 ∧
        orDefault config.serverRedirectionVersion gccRedirectionVersion5 ≤ 6) :
    TellsClient config (toldClient config) := by
  have channels : (clientChannels config ++
      (GccClientDataSummary.channels {}).drop (clientChannels config).length).take
        (UInt16.ofNat (clientChannels config).length).toNat = clientChannels config := by
    apply List.take_left'
    rw [UInt16.toNat_ofNat']
    exact (Nat.mod_eq_of_lt (by omega)).symm
  have flags (on : config.enableServerRedirection = true) :=
    clientClusterFlags_spec config.redirectedSessionIdValid config.redirectedSmartcard
      (version on).1 (version on).2
  unfold toldClient
  cases cluster : config.enableServerRedirection <;>
    cases message : config.enableMessageChannel <;>
    cases multitransport : config.enableMultitransport <;>
    exact {
      version := rfl, desktop := ⟨rfl, rfl⟩, physical := ⟨rfl, rfl⟩, protocols := rfl
      early := rfl, depths := rfl, connection := rfl, hasCluster := cluster.symm
      cluster := fun on => by
        first
        | obtain ⟨-, supported, spelled, -, valid, smartcard⟩ := flags on
          exact ⟨supported, spelled, valid, smartcard, rfl⟩
        | cases cluster.symm.trans on
      channels := channels
      hasMessageChannel := message.symm
      messageChannel := fun on => by first | rfl | exact nomatch message.symm.trans on
      hasMultitransport := multitransport.symm
      multitransport := fun on => by first | rfl | exact nomatch multitransport.symm.trans on }

theorem parseClientDataBlocks_write (written : writeClientDataBlocks config = .ok blocks) :
    (∃ summary, parseClientDataBlocks blocks = .ok summary ∧ TellsClient config summary) ∧
      0x7f < blocks.length ∧ blocks.length ≤ 1050 := by
  obtain ⟨core, cluster, security, network, messageChannel, multitransport, wroteCore,
    wroteCluster, wroteSecurity, wroteNetwork, wroteMessageChannel, wroteMultitransport, rfl⟩ :=
    writeClientDataBlocks_parts written
  obtain ⟨few, wroteNetwork⟩ := writeClientNetwork_block wroteNetwork
  have clusterBlock := writeEnabled_block wroteCluster
    fun _ wrote => (writeClientCluster_block wrote).2.2
  have multitransportBlock := writeEnabled_block wroteMultitransport
    fun _ wrote => (writeClientMultitransport_block wrote).2
  constructor
  · rw [parseClientDataBlocks, List.append_assoc, List.append_assoc, List.append_assoc,
      List.append_assoc,
      drain_block wroteCore ((takeClientBlock_core _ _).trans (parseClientCore_fields config _))]
    rw [drain_enabled clusterBlock fun enabled => (takeClientBlock_cluster _ _).trans
      (parseClientCluster_written _
        (writeClientCluster_block (by rwa [enabled] at wroteCluster)).1
        (writeClientCluster_block (by rwa [enabled] at wroteCluster)).2.1 rfl)]
    rw [drain_block wroteSecurity ((takeClientBlock_security _ _).trans
      (parseClientSecurity_written _))]
    rw [drain_block wroteNetwork ((takeClientBlock_network _ _).trans
      (parseClientNetwork_written few _))]
    rw [drain_enabled wroteMessageChannel fun _ => (takeClientBlock_messageChannel _ _).trans
      (parseClientMessageChannel_written _ ?_)]
    · rw [← List.append_nil multitransport,
        drain_enabled multitransportBlock fun enabled => (takeClientBlock_multitransport _ _).trans
          (parseClientMultitransport_written
            (writeClientMultitransport_block (by rwa [enabled] at wroteMultitransport)).1 _),
        Consumer.drain_nil]
      refine ⟨toldClient config, if_pos (toldClient_whole config), tellsClient_told few ?_⟩
      intro enabled
      rw [enabled] at wroteCluster
      obtain ⟨least, most, -⟩ := writeClientCluster_block wroteCluster
      exact ⟨least, most⟩
    · cases config.enableServerRedirection <;> rfl
  · have coreSize := writeBlock_length wroteCore
    have clusterSize := writeEnabled_length_le clusterBlock
    have securitySize := writeBlock_length wroteSecurity
    have networkSize := writeBlock_length wroteNetwork
    have messageChannelSize := writeEnabled_length_le wroteMessageChannel
    have multitransportSize := writeEnabled_length_le multitransportBlock
    rw [clientCore_length] at coreSize
    simp only [List.length_append, u32LeBytes_length, flatMap_writeChannel_length] at *
    omega

theorem writeServerDataBlocks_parts {config : GccServerConfig}
    (written : writeServerDataBlocks config = .ok blocks) :
    ¬serverConfigRefused config ∧ ∃ core security network messageChannel multitransport,
      serverCoreBlock config = .ok core ∧ serverSecurityBlock config = .ok security ∧
      serverNetworkBlock config = .ok network ∧
      writeEnabled config.enableMessageChannel (serverMessageChannelBlock config) =
        .ok messageChannel ∧
      writeEnabled config.enableMultitransport (serverMultitransportBlock config) =
        .ok multitransport ∧
      blocks = core ++ security ++ network ++ messageChannel ++ multitransport := by
  simp only [writeServerDataBlocks, refuse_else, bind_eq_ok, attempt_pure, Except.ok.injEq] at written
  obtain ⟨accepted, core, wroteCore, security, wroteSecurity, network, wroteNetwork, messageChannel,
    wroteMessageChannel, multitransport, wroteMultitransport, rfl⟩ := written
  exact ⟨accepted, core, security, network, messageChannel, multitransport, wroteCore,
    wroteSecurity, wroteNetwork, wroteMessageChannel, wroteMultitransport, rfl⟩

theorem takeServerBlock_core (data : GccServerData) (payload : Bytes) :
    takeServerBlock data ⟨scCore, payload⟩ = parseServerCore data payload := rfl

theorem takeServerBlock_security (data : GccServerData) (payload : Bytes) :
    takeServerBlock data ⟨scSecurity, payload⟩ = parseServerSecurity data payload := rfl

theorem takeServerBlock_network (data : GccServerData) (payload : Bytes) :
    takeServerBlock data ⟨scNetwork, payload⟩ = parseServerNetwork data payload := rfl

theorem takeServerBlock_multitransport (data : GccServerData) (payload : Bytes) :
    takeServerBlock data ⟨scMultitransport, payload⟩ =
      parseServerMultitransport data payload := rfl

theorem takeServerBlock_messageChannel (data : GccServerData) (payload : Bytes) :
    takeServerBlock data ⟨scMcsMsgchannel, payload⟩ =
      parseServerMessageChannel data payload := rfl

def toldServer (config : GccServerConfig) : GccServerData :=
  let core := GccServerData.storeCore {} config
  let network := (core.storeSecurity config).storeNetwork
    (orDefault config.mcsChannelId (UInt16.ofNat globalChannelId)) config.channelCount
  let messageChannel :=
    if config.enableMessageChannel then network.storeMessageChannel config.messageChannelId
    else network
  if config.enableMultitransport then
    messageChannel.storeMultitransport config.multitransportFlags
  else messageChannel

theorem tellsServer_told (config : GccServerConfig) :
    (toldServer config).hasCore = true ∧ (toldServer config).hasSecurity = true ∧
      (toldServer config).hasNetwork = true ∧
      (toldServer config).channelCount = config.channelCount ∧
      TellsServer config (toldServer config) := by
  have channels : (serverChannelIds config.channelCount ++
      (GccServerData.channelIds {}).drop config.channelCount.toNat).take
        config.channelCount.toNat = serverChannelIds config.channelCount :=
    List.take_left' (serverChannelIds_length _)
  by_cases encrypted : config.encrypts <;>
    simp only [toldServer, GccServerData.storeSecurity, encrypted, if_true, if_false] <;>
    cases message : config.enableMessageChannel <;>
    cases multitransport : config.enableMultitransport <;>
    exact ⟨rfl, rfl, rfl, rfl, {
      version := rfl, protocols := rfl, early := rfl, encryption := ⟨rfl, rfl⟩
      security := fun on => by first | exact absurd on encrypted | exact ⟨rfl, rfl, rfl, rfl⟩
      plain := fun off => by first | exact absurd encrypted off | exact ⟨rfl, rfl⟩
      mcsChannel := rfl, channels := channels
      hasMessageChannel := message.symm
      messageChannel := fun on => by first | rfl | cases message.symm.trans on
      hasMultitransport := multitransport.symm
      multitransport := fun on => by
        first | rfl | cases multitransport.symm.trans on }⟩

theorem parseServerDataBlocks_write {config : GccServerConfig}
    (written : writeServerDataBlocks config = .ok blocks) :
    ∃ data, parseServerDataBlocks blocks = .ok data ∧ TellsServer config data := by
  obtain ⟨accepted, core, security, network, messageChannel, multitransport, wroteCore,
    wroteSecurity, wroteNetwork, wroteMessageChannel, wroteMultitransport, rfl⟩ :=
    writeServerDataBlocks_parts written
  have few : config.channelCount.toNat ≤ 64 := Nat.le_of_not_lt fun many => accepted (.inl many)
  have behind (enabled : config.enableMessageChannel = true) :
      ¬config.messageChannelId ≤ lastChannelId config.channelCount :=
    fun low => accepted (.inr (.inr (.inr (.inr ⟨enabled, low⟩))))
  have dynamic (enabled : config.enableMessageChannel = true) :
      globalChannelId < config.messageChannelId.toNat := by
    have above := behind enabled
    rw [UInt16.not_le, UInt16.lt_iff_toNat_lt, lastChannelId, UInt16.toNat_ofNat'] at above
    rw [globalChannelId] at above ⊢
    omega
  have flags (enabled : config.enableMultitransport = true) :
      ¬multitransportRefused config.multitransportFlags :=
    fun refused => accepted (.inr (.inr (.inr (.inl ⟨enabled, refused⟩))))
  obtain ⟨hasCore, hasSecurity, hasNetwork, count, tells⟩ := tellsServer_told config
  refine ⟨toldServer config, ?_, tells⟩
  rw [parseServerDataBlocks, List.append_assoc, List.append_assoc, List.append_assoc,
    drain_block wroteCore ((takeServerBlock_core _ _).trans (parseServerCore_written config _)),
    drain_block wroteSecurity ((takeServerBlock_security _ _).trans
      (parseServerSecurity_written accepted _)),
    drain_block wroteNetwork ((takeServerBlock_network _ _).trans
      (parseServerNetwork_written few _ _))]
  rw [drain_enabled wroteMessageChannel fun enabled => (takeServerBlock_messageChannel _ _).trans
    (parseServerMessageChannel_written (dynamic enabled) ?_)]
  · rw [← List.append_nil multitransport,
      drain_enabled wroteMultitransport fun enabled => (takeServerBlock_multitransport _ _).trans
        (parseServerMultitransport_written (flags enabled) _),
      Consumer.drain_nil]
    change (if (toldServer config).hasMessageChannel = true ∧ ((toldServer config).hasNetwork = false ∨
      (toldServer config).messageChannelId ≤ lastChannelId (toldServer config).channelCount) then
        refuse .protocolError
      else if (toldServer config).hasCore = true ∧ (toldServer config).hasSecurity = true then
        pure (toldServer config) else refuse .protocolError) = _
    have kept : ¬((toldServer config).hasMessageChannel = true ∧
        ((toldServer config).hasNetwork = false ∨
          (toldServer config).messageChannelId ≤ lastChannelId (toldServer config).channelCount)) := by
      rintro ⟨has, noNetwork | low⟩
      · exact nomatch hasNetwork.symm.trans noNetwork
      · have enabled := tells.hasMessageChannel.symm.trans has
        rw [tells.messageChannel enabled, count] at low
        exact behind enabled low
    rw [if_neg kept, if_pos ⟨hasCore, hasSecurity⟩]
    rfl
  · unfold GccServerData.storeSecurity
    by_cases encrypted : config.encrypts
    · rw [if_pos encrypted]
      rfl
    · rw [if_neg encrypted]
      rfl

theorem receiveConnectInitial_send (written : writeClientDataBlocks config = .ok blocks) :
    ∃ packet summary, sendConnectInitial config = .ok packet ∧
      receiveConnectInitial packet = .ok summary ∧ TellsClient config summary := by
  obtain ⟨⟨summary, parsed, tells⟩, long, short⟩ := parseClientDataBlocks_write written
  obtain ⟨request, requested, requestRead, filled, requestSize⟩ :=
    parseConferenceCreateRequest_write long (by omega)
  obtain ⟨initial, wrapped, initialRead, initialSize⟩ :=
    parseConnectInitial_write filled (by omega)
  have fits : ([0x02, 0xf0, 0x80] ++ initial : Bytes).length ≤ 65531 := by
    simp only [List.length_append, List.length_cons, List.length_nil]
    omega
  obtain ⟨packet, framed, packetRead⟩ := tpktParse_write fits
  have frame := packetRead []
  rw [List.append_nil] at frame
  refine ⟨packet, summary, ?_, ?_, tells⟩
  · simp only [sendConnectInitial, written, requested, wrapped, x224WrapData, framed,
      ok_bind]
  · have data : x224ParseData ([0x02, 0xf0, 0x80] ++ initial) = .ok initial :=
      x224ParseData_wrap initial
    simp only [receiveConnectInitial, frame, data, initialRead, requestRead, parsed,
      ok_bind]

theorem receiveConnectResponse_send {config : GccServerConfig}
    (written : writeServerDataBlocks config = .ok blocks) (fits : blocks.length ≤ 0x7fff) :
    ∃ pdu data, sendConnectResponse config = .ok pdu ∧
      receiveConnectResponse pdu = .ok data ∧ TellsServer config data := by
  obtain ⟨data, parsed, tells⟩ := parseServerDataBlocks_write written
  obtain ⟨response, responded, responseRead, size⟩ := parseConferenceCreateResponse_write fits
  obtain ⟨pdu, wrapped, pduRead⟩ := parseConnectResponse_write (show response.length < 2 ^ 63 by omega)
  refine ⟨pdu, data, ?_, ?_, tells⟩
  · simp only [sendConnectResponse, written, responded, wrapped, ok_bind]
  · simp only [receiveConnectResponse, pduRead, responseRead, parsed, ok_bind]

/-- The connect exchange gives either side what the other one was configured with. -/
theorem connect_exchange_round_trips :
    (∀ {config : GccClientConfig} {blocks : Bytes}, writeClientDataBlocks config = .ok blocks →
      ∃ packet summary, sendConnectInitial config = .ok packet ∧
        receiveConnectInitial packet = .ok summary ∧ TellsClient config summary) ∧
    ∀ {config : GccServerConfig} {blocks : Bytes}, writeServerDataBlocks config = .ok blocks →
      blocks.length ≤ 0x7fff →
      ∃ pdu data, sendConnectResponse config = .ok pdu ∧
        receiveConnectResponse pdu = .ok data ∧ TellsServer config data :=
  ⟨receiveConnectInitial_send, receiveConnectResponse_send⟩

/-- A client with a channel of its own, behind that of the clipboard. -/
def sampleClient : GccClientConfig where
  desktopWidth := 1024
  desktopHeight := 768
  enableClipboard := true
  enableServerRedirection := true
  redirectedSessionIdValid := true
  redirectedSessionId := 7
  extraChannels := some [⟨⟨[0x78, 0, 0, 0, 0, 0, 0, 0], rfl⟩, 5⟩]
  extraChannelCount := 1
  extraHeld := by
    rintro channels ⟨⟩
    decide

def sampleServer : GccServerConfig where
  encryptionMethod := 2
  serverRandom := some [1, 2]
  serverRandomLen := 2
  serverCertificate := some [3]
  serverCertificateLen := 1
  channelCount := 2
  enableMessageChannel := true
  messageChannelId := 1006
  randomHeld := by
    rintro data ⟨⟩
    decide
  certificateHeld := by
    rintro data ⟨⟩
    decide

theorem samples_written : (∃ blocks, writeClientDataBlocks sampleClient = .ok blocks) ∧
    ∃ blocks, writeServerDataBlocks sampleServer = .ok blocks ∧ blocks.length ≤ 0x7fff := by
  constructor
  · cases written : writeClientDataBlocks sampleClient with
    | ok blocks => exact ⟨blocks, rfl⟩
    | error stop =>
      have accepted : (writeClientDataBlocks sampleClient).isOk = true := by decide +kernel
      rw [written] at accepted
      exact nomatch accepted
  · cases written : writeServerDataBlocks sampleServer with
    | ok blocks =>
      have size : (writeServerDataBlocks sampleServer).toOption.all (·.length ≤ 0x7fff) = true := by
        decide +kernel
      rw [written] at size
      exact ⟨blocks, rfl, of_decide_eq_true size⟩
    | error stop =>
      have accepted : (writeServerDataBlocks sampleServer).isOk = true := by decide +kernel
      rw [written] at accepted
      exact nomatch accepted

theorem connect_exchange_round_trips_sample :
    (∃ packet summary, sendConnectInitial sampleClient = .ok packet ∧
      receiveConnectInitial packet = .ok summary ∧ TellsClient sampleClient summary) ∧
    ∃ pdu data, sendConnectResponse sampleServer = .ok pdu ∧
      receiveConnectResponse pdu = .ok data ∧ TellsServer sampleServer data := by
  obtain ⟨⟨clientBlocks, clientWritten⟩, serverBlocks, serverWritten, fits⟩ := samples_written
  exact ⟨connect_exchange_round_trips.1 clientWritten,
    connect_exchange_round_trips.2 serverWritten fits⟩

end LibRdp.Connect
