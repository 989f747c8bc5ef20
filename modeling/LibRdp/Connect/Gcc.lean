import LibRdp.Connect.Mcs
import Mathlib.Data.Vector.Defs

/-! # GCC conference data

The data blocks and the conference create PDUs of `gcc.c`. A configuration points to memory of
its caller: the structures say that a pointer reaches as far as the length beside it. A parsed
structure is written over from zero, block by block.
-/

namespace LibRdp.Connect

open Coding

/-! ## Constants -/

def csCore : UInt16 := 0xc001
def csSecurity : UInt16 := 0xc002
def csNetwork : UInt16 := 0xc003
def csCluster : UInt16 := 0xc004
def csMcsMsgchannel : UInt16 := 0xc006
def csMultitransport : UInt16 := 0xc00a
def scCore : UInt16 := 0x0c01
def scSecurity : UInt16 := 0x0c02
def scNetwork : UInt16 := 0x0c03
def scMcsMsgchannel : UInt16 := 0x0c04
def scMultitransport : UInt16 := 0x0c08

def gccMaxServerChannels : Nat := 64
def gccClientVersion5 : UInt32 := 0x00080004
def gccEarlySupportErrinfo : UInt16 := 0x0001
def gccServerEarlyKnownFlags : UInt32 := 0x0000000f
def gccConnectionTypeLan : UInt8 := 0x06
def gccSupportedColorDepthsLegacy : UInt16 := 0x0007

def gccMultitransportUdpFecr : UInt32 := 0x00000001
def gccMultitransportUdpFecl : UInt32 := 0x00000004
def gccMultitransportUdpPreferred : UInt32 := 0x00000100
def gccMultitransportKnownFlags : UInt32 := 0x00000305

def gccClusterRedirectionSupported : UInt32 := 0x00000001
def gccClusterRedirectedSessionIdValid : UInt32 := 0x00000002
def gccClusterRedirectionVersionMask : UInt32 := 0x0000003c
def gccClusterRedirectedSmartcard : UInt32 := 0x00000040
def gccClusterKnownFlags : UInt32 := 0x0000007f
def gccRedirectionVersion1 : UInt8 := 1
def gccRedirectionVersion5 : UInt8 := 5
def gccRedirectionVersion6 : UInt8 := 6

/-! ## PER -/

/-- `rdp_gcc_write_per_length`. -/
def writePerLength (length : Nat) : Attempt Bytes :=
  if 0x7fff < length then refuse .invalidArgument
  else if 0x7f < length then .ok (u16BeBytes (length + 0x8000))
  else .ok [UInt8.ofNat length]

/-- `rdp_gcc_read_per_length`. -/
def readPerLength (stream : Bytes) : Attempt (Nat × Bytes) := do
  let (first, stream) ← readU8 stream
  if first < 0x80 then pure (first.toNat, stream)
  else
    let (second, stream) ← readU8 stream
    pure (256 * (first.toNat - 0x80) + second.toNat, stream)

/-- `rdp_gcc_write_per_integer`. -/
def writePerInteger (value : UInt32) : Attempt Bytes :=
  if value ≤ 0xff then return (← writePerLength 1) ++ [UInt8.ofNat value.toNat]
  else if value ≤ 0xffff then return (← writePerLength 2) ++ u16BeBytes value.toNat
  else return (← writePerLength 4) ++ u32BeBytes value.toNat

/-- `rdp_gcc_read_per_integer`. -/
def readPerInteger (stream : Bytes) : Attempt (UInt32 × Bytes) := do
  let (length, stream) ← readPerLength stream
  if length = 1 then
    let (value, stream) ← readU8 stream
    pure (value.toUInt32, stream)
  else if length = 2 then
    let (value, stream) ← readU16Be stream
    pure (value.toUInt32, stream)
  else if length = 4 then readU32Be stream
  else refuse .protocolError

/-- `rdp_gcc_read_per_integer16`. -/
def readPerInteger16 (min : UInt16) (stream : Bytes) : Attempt (UInt16 × Bytes) := do
  let (raw, stream) ← readU16Be stream
  if 0xffff < raw.toNat + min.toNat then refuse .protocolError else pure (raw + min, stream)

/-- The length in front of a PER string, `length >= min ? length - min : min`. -/
def perEncodedLength (length min : Nat) : Nat := if min ≤ length then length - min else min

/-- `rdp_gcc_write_per_octet_string`. -/
def writePerOctetString (data : Bytes) (min : Nat) : Attempt Bytes :=
  if 0xffff < data.length then refuse .invalidArgument
  else return (← writePerLength (perEncodedLength data.length min)) ++ data

/-- `rdp_gcc_read_per_octet_string`. -/
def readPerOctetString (expected : Bytes) (min : Nat) (stream : Bytes) : Attempt Bytes := do
  let (length, stream) ← readPerLength stream
  if length + min ≠ expected.length then refuse .protocolError
  else
    let (value, stream) ← readBytes stream expected.length
    if value ≠ expected then refuse .protocolError else pure stream

/-- The loop of `rdp_gcc_write_per_numeric_string`: two digits a byte, `'0'` after an odd one. -/
def numericPairs : Bytes → Attempt Bytes
  | [] => .ok []
  | [c1] =>
      if c1 < 0x30 ∨ 0x39 < c1 then refuse .invalidArgument else .ok [(c1 - 0x30) <<< 4 ||| 0]
  | c1 :: c2 :: text =>
      if c1 < 0x30 ∨ 0x39 < c1 ∨ c2 < 0x30 ∨ 0x39 < c2 then refuse .invalidArgument
      else return ((c1 - 0x30) <<< 4 ||| (c2 - 0x30)) :: (← numericPairs text)

/-- `rdp_gcc_write_per_numeric_string`. -/
def writePerNumericString (text : Bytes) (min : Nat) : Attempt Bytes :=
  return (← writePerLength (perEncodedLength text.length min)) ++ (← numericPairs text)

/-- `rdp_gcc_read_object_identifier`. -/
def readObjectIdentifier (expected stream : Bytes) : Attempt Bytes := do
  let (value, stream) ← readBytes stream expected.length
  if value ≠ expected then refuse .protocolError else pure stream

/-! ## Blocks -/

/-- `rdp_gcc_write_block`. -/
def writeBlock (type : UInt16) (payload : Bytes) : Attempt Bytes :=
  if 0xffff < payload.length + 4 then refuse .invalidArgument
  else .ok (u16LeBytes type.toNat ++ u16LeBytes (payload.length + 4) ++ payload)

/-- `rdp_gcc_user_data_block`; its length is that of the payload and 4. -/
structure GccUserDataBlock where
  type : UInt16
  payload : Bytes
  deriving Repr, DecidableEq

/-- `rdp_gcc_read_user_data_block`. -/
def readUserDataBlock (stream : Bytes) : Attempt (GccUserDataBlock × Bytes) := do
  let (type, stream) ← readU16Le stream
  let (length, stream) ← readU16Le stream
  if length < 4 then refuse .protocolError
  else
    let (payload, stream) ← readBytes stream (length.toNat - 4)
    pure (⟨type, payload⟩, stream)

theorem readU16Le_consumes : Consumes readU16Le := by
  intro stream a rest read
  unfold readU16Le at read
  split at read
  · cases read
    simp only [List.length_cons]
    omega
  · cases read

theorem readUserDataBlock_consumes : Consumes readUserDataBlock := by
  refine .bind readU16Le_consumes fun type => .bind readU16Le_moves fun length => ?_
  exact .ite (.error _) (.bind (readBytes_moves _) fun _ => .pure _)

/-- The loop of the two block parsers: `take` is its body. -/
def parseBlocks (take : σ → GccUserDataBlock → Attempt σ) : Consumer UInt8 Stop σ where
  step state stream := do
    let (block, stream) ← readUserDataBlock stream
    let state ← take state block
    pure (state, stream)
  consumes state := by
    refine .bind readUserDataBlock_consumes fun block => ?_
    intro stream next rest read
    obtain ⟨found, -, read⟩ := bind_eq_ok.mp read
    cases read
    exact List.suffix_refl _

/-! ## The client's side -/

/-- `rdp_gcc_channel_definition`. -/
structure GccChannelDefinition where
  name : List.Vector UInt8 8
  flags : UInt32
  deriving DecidableEq

/-- `rdp_gcc_client_config`; a client name is the text up to its end. -/
structure GccClientConfig where
  clientVersion : UInt32 := 0
  desktopWidth : UInt16 := 0
  desktopHeight : UInt16 := 0
  requestedProtocols : UInt32 := 0
  earlyCapabilityFlags : UInt16 := 0
  supportedColorDepths : UInt16 := 0
  connectionType : UInt8 := 0
  desktopPhysicalWidth : UInt32 := 0
  desktopPhysicalHeight : UInt32 := 0
  desktopOrientation : UInt16 := 0
  desktopScaleFactor : UInt32 := 0
  deviceScaleFactor : UInt32 := 0
  clientName : Option Bytes := none
  enableDynamicChannels : Bool := false
  enableClipboard : Bool := false
  enableAudioOutput : Bool := false
  enableDeviceRedirection : Bool := false
  enablePnpRedirection : Bool := false
  enableRemotePrograms : Bool := false
  enableServerRedirection : Bool := false
  serverRedirectionVersion : UInt8 := 0
  redirectedSessionIdValid : Bool := false
  redirectedSmartcard : Bool := false
  redirectedSessionId : UInt32 := 0
  enableMessageChannel : Bool := false
  messageChannelFlags : UInt32 := 0
  enableMultitransport : Bool := false
  multitransportFlags : UInt32 := 0
  extraChannels : Option (List GccChannelDefinition) := none
  extraChannelCount : UInt16 := 0
  extraHeld : ∀ channels ∈ extraChannels, extraChannelCount.toNat ≤ channels.length := by
    exact nofun

/-- `rdp_gcc_write_utf16le_fixed`; its widths are even. -/
def writeUtf16leFixed (text : Bytes) (bytes : Nat) : Bytes :=
  let chars := bytes / 2
  let text := (text.takeWhile (· ≠ 0)).take (chars - 1)
  (text ++ List.replicate (chars - text.length) 0).flatMap
    fun char : UInt8 => u16LeBytes char.toNat

/-- `"librdp"`. -/
def librdpName : Bytes := [0x6c, 0x69, 0x62, 0x72, 0x64, 0x70]

/-- A field of a configuration that the writer fills in when it is zero. -/
def orDefault [BEq α] [OfNat α 0] (value default : α) : α := if value != 0 then value else default

def clientCoreFields (config : GccClientConfig) : List Bytes :=
  [u32LeBytes (orDefault config.clientVersion gccClientVersion5).toNat,
   u16LeBytes config.desktopWidth.toNat, u16LeBytes config.desktopHeight.toNat,
   u16LeBytes 0xca01, u16LeBytes 0xaa03, u32LeBytes 0x00000409, u32LeBytes 2600,
   writeUtf16leFixed (config.clientName.getD librdpName) 32, u32LeBytes 4, u32LeBytes 0,
   u32LeBytes 12, List.replicate 64 0, u16LeBytes 0xca01, u16LeBytes 1, u32LeBytes 0,
   u16LeBytes 0x0018,
   u16LeBytes (orDefault config.supportedColorDepths gccSupportedColorDepthsLegacy).toNat,
   u16LeBytes (orDefault config.earlyCapabilityFlags gccEarlySupportErrinfo).toNat,
   writeUtf16leFixed librdpName 64, [orDefault config.connectionType gccConnectionTypeLan], [0],
   u32LeBytes config.requestedProtocols.toNat, u32LeBytes config.desktopPhysicalWidth.toNat,
   u32LeBytes config.desktopPhysicalHeight.toNat, u16LeBytes config.desktopOrientation.toNat,
   u32LeBytes (orDefault config.desktopScaleFactor 100).toNat,
   u32LeBytes (orDefault config.deviceScaleFactor 100).toNat]

/-- `rdp_gcc_write_client_core`. -/
def writeClientCore (config : GccClientConfig) : Attempt Bytes :=
  writeBlock csCore (clientCoreFields config).flatten

/-- `rdp_gcc_write_client_security`. -/
def writeClientSecurity : Attempt Bytes := writeBlock csSecurity (u32LeBytes 0x0b ++ u32LeBytes 0)

/-- The flags that `rdp_gcc_write_client_cluster` writes. -/
def clientClusterFlags (version : UInt8) (sessionIdValid smartcard : Bool) : UInt32 :=
  gccClusterRedirectionSupported |||
    ((version - 1).toUInt32 <<< 2 &&& gccClusterRedirectionVersionMask) |||
    (if sessionIdValid then gccClusterRedirectedSessionIdValid else 0) |||
    (if smartcard then gccClusterRedirectedSmartcard else 0)

/-- `rdp_gcc_write_client_cluster`. -/
def writeClientCluster (config : GccClientConfig) : Attempt Bytes :=
  let version := orDefault config.serverRedirectionVersion gccRedirectionVersion5
  if version < gccRedirectionVersion1 ∨ gccRedirectionVersion6 < version then
    refuse .invalidArgument
  else
    let flags :=
      clientClusterFlags version config.redirectedSessionIdValid config.redirectedSmartcard
    let sessionId := if config.redirectedSessionIdValid then config.redirectedSessionId else 0
    writeBlock csCluster (u32LeBytes flags.toNat ++ u32LeBytes sessionId.toNat)

/-- The channels that `rdp_gcc_write_client_network` writes for the enabled features. -/
def enabledChannels (config : GccClientConfig) : List GccChannelDefinition :=
  (if config.enableDynamicChannels then
    [⟨⟨[0x64, 0x72, 0x64, 0x79, 0x6e, 0x76, 0x63, 0], rfl⟩, 0x80800000⟩] else []) ++
  (if config.enableClipboard then
    [⟨⟨[0x63, 0x6c, 0x69, 0x70, 0x72, 0x64, 0x72, 0], rfl⟩, 0xc0a00000⟩] else []) ++
  (if config.enableAudioOutput then
    [⟨⟨[0x72, 0x64, 0x70, 0x73, 0x6e, 0x64, 0, 0], rfl⟩, 0xc0000000⟩] else []) ++
  (if config.enableDeviceRedirection then
    [⟨⟨[0x72, 0x64, 0x70, 0x64, 0x72, 0, 0, 0], rfl⟩, 0xc0800000⟩] else []) ++
  (if config.enablePnpRedirection then
    [⟨⟨[0x50, 0x4e, 0x50, 0x44, 0x52, 0, 0, 0], rfl⟩, 0xc0800000⟩] else []) ++
  (if config.enableRemotePrograms then
    [⟨⟨[0x72, 0x61, 0x69, 0x6c, 0, 0, 0, 0], rfl⟩, 0xc0800000⟩] else [])

def extraChannelList (config : GccClientConfig) : List GccChannelDefinition :=
  (config.extraChannels.getD []).take config.extraChannelCount.toNat

def writeChannel (channel : GccChannelDefinition) : Bytes :=
  channel.name.toList ++ u32LeBytes channel.flags.toNat

/-- `rdp_gcc_write_client_network`. -/
def writeClientNetwork (config : GccClientConfig) : Attempt Bytes :=
  if config.extraChannelCount > 0 ∧ config.extraChannels.isNone then refuse .invalidArgument
  else if gccMaxServerChannels < config.extraChannelCount.toNat ∨
      gccMaxServerChannels - config.extraChannelCount.toNat < (enabledChannels config).length then
    refuse .limitExceeded
  else
    let count := (enabledChannels config).length + config.extraChannelCount.toNat
    writeBlock csNetwork (u32LeBytes count ++
      (enabledChannels config ++ extraChannelList config).flatMap writeChannel)

def multitransportRefused (flags : UInt32) : Prop :=
  flags &&& ~~~gccMultitransportKnownFlags ≠ 0 ∨
    flags &&& (gccMultitransportUdpFecr ||| gccMultitransportUdpFecl) = 0

instance (flags : UInt32) : Decidable (multitransportRefused flags) :=
  inferInstanceAs (Decidable (_ ∨ _))

/-- The flags that `rdp_gcc_write_client_multitransport` writes. -/
def clientMultitransportFlags (config : GccClientConfig) : UInt32 :=
  orDefault config.multitransportFlags
    (gccMultitransportUdpFecr ||| gccMultitransportUdpFecl ||| gccMultitransportUdpPreferred)

/-- `rdp_gcc_write_client_multitransport`. -/
def writeClientMultitransport (config : GccClientConfig) : Attempt Bytes :=
  if multitransportRefused (clientMultitransportFlags config) then refuse .invalidArgument
  else writeBlock csMultitransport (u32LeBytes (clientMultitransportFlags config).toNat)

/-- `rdp_gcc_write_client_message_channel`. -/
def writeClientMessageChannel (config : GccClientConfig) : Attempt Bytes :=
  writeBlock csMcsMsgchannel (u32LeBytes config.messageChannelFlags.toNat)

def writeEnabled (enabled : Bool) (write : Attempt Bytes) : Attempt Bytes :=
  if enabled then write else .ok []

/-- `rdp_gcc_write_client_data_blocks`. -/
def writeClientDataBlocks (config : GccClientConfig) : Attempt Bytes := do
  if config.desktopWidth = 0 ∨ config.desktopHeight = 0 then refuse .invalidArgument
  else
    let core ← writeClientCore config
    let cluster ← writeEnabled config.enableServerRedirection (writeClientCluster config)
    let security ← writeClientSecurity
    let network ← writeClientNetwork config
    let messageChannel ← writeEnabled config.enableMessageChannel (writeClientMessageChannel config)
    let multitransport ← writeEnabled config.enableMultitransport (writeClientMultitransport config)
    pure (core ++ cluster ++ security ++ network ++ messageChannel ++ multitransport)

/-- `rdp_gcc_client_data_summary`. -/
structure GccClientDataSummary where
  hasCore : Bool := false
  hasSecurity : Bool := false
  hasNetwork : Bool := false
  desktopWidth : UInt16 := 0
  desktopHeight : UInt16 := 0
  version : UInt32 := 0
  requestedProtocols : UInt32 := 0
  earlyCapabilityFlags : UInt16 := 0
  supportedColorDepths : UInt16 := 0
  connectionType : UInt8 := 0
  desktopPhysicalWidth : UInt32 := 0
  desktopPhysicalHeight : UInt32 := 0
  hasCluster : Bool := false
  clusterFlags : UInt32 := 0
  redirectedSessionId : UInt32 := 0
  channelCount : UInt16 := 0
  channels : List GccChannelDefinition :=
    List.replicate gccMaxServerChannels ⟨List.Vector.replicate 8 0, 0⟩
  hasMessageChannel : Bool := false
  messageChannelFlags : UInt32 := 0
  hasMultitransport : Bool := false
  multitransportFlags : UInt32 := 0
  deriving DecidableEq

/-- Read where there is enough of a payload, from the position that the source sets. -/
def readAt (payload : Bytes) (position least : Nat) (read : Bytes → Attempt (α × Bytes)) (old : α) :
    Attempt α :=
  if least ≤ payload.length then return (← read (payload.drop position)).1 else pure old

/-- The branch of `rdp_gcc_parse_client_data_blocks` for a core block. -/
def parseClientCore (summary : GccClientDataSummary) (payload : Bytes) :
    Attempt GccClientDataSummary := do
  let (version, stream) ← readU32Le payload
  let (desktopWidth, stream) ← readU16Le stream
  let (desktopHeight, _) ← readU16Le stream
  let requestedProtocols ← readAt payload 208 212 readU32Le summary.requestedProtocols
  let supportedColorDepths ← readAt payload 138 142 readU16Le summary.supportedColorDepths
  let earlyCapabilityFlags ← readAt payload 140 142 readU16Le summary.earlyCapabilityFlags
  let connectionType ← readAt payload 206 207 readU8 summary.connectionType
  let desktopPhysicalWidth ← readAt payload 212 220 readU32Le summary.desktopPhysicalWidth
  let desktopPhysicalHeight ← readAt payload 216 220 readU32Le summary.desktopPhysicalHeight
  pure { summary with
    version, desktopWidth, desktopHeight, hasCore := true, requestedProtocols,
    supportedColorDepths, earlyCapabilityFlags, connectionType, desktopPhysicalWidth,
    desktopPhysicalHeight }

def parseClientSecurity (summary : GccClientDataSummary) (payload : Bytes) :
    Attempt GccClientDataSummary := do
  let (_, stream) ← readU32Le payload
  let (_, _) ← readU32Le stream
  pure { summary with hasSecurity := true }

def clusterVersion (flags : UInt32) : UInt32 := (flags &&& gccClusterRedirectionVersionMask) >>> 2

def clusterRefused (flags sessionId : UInt32) : Prop :=
  flags &&& ~~~gccClusterKnownFlags ≠ 0 ∨
    (if flags &&& gccClusterRedirectionSupported = 0 then
      clusterVersion flags ≠ 0 ∨ flags &&& gccClusterRedirectedSessionIdValid ≠ 0
    else gccRedirectionVersion6.toUInt32 - 1 < clusterVersion flags) ∨
    (flags &&& gccClusterRedirectedSessionIdValid = 0 ∧ sessionId ≠ 0)

instance (flags sessionId : UInt32) : Decidable (clusterRefused flags sessionId) :=
  inferInstanceAs (Decidable (_ ∨ _))

def parseClientCluster (summary : GccClientDataSummary) (payload : Bytes) :
    Attempt GccClientDataSummary := do
  if summary.hasCluster then refuse .protocolError
  else
    let (clusterFlags, stream) ← readU32Le payload
    let (redirectedSessionId, stream) ← readU32Le stream
    if stream ≠ [] ∨ clusterRefused clusterFlags redirectedSessionId then refuse .protocolError
    else pure { summary with clusterFlags, redirectedSessionId, hasCluster := true }

/-- `count` items one after the other. -/
def readCounted (read : Bytes → Attempt (α × Bytes)) : Nat → Bytes → Attempt (List α × Bytes)
  | 0, stream => pure ([], stream)
  | count + 1, stream => do
      let (first, stream) ← read stream
      let (others, stream) ← readCounted read count stream
      pure (first :: others, stream)

def readChannel (stream : Bytes) : Attempt (GccChannelDefinition × Bytes) :=
  if short : stream.length < 8 then refuse .protocolError
  else do
    let name : List.Vector UInt8 8 :=
      ⟨stream.take 8, List.length_take_of_le (Nat.le_of_not_lt short)⟩
    let (flags, stream) ← readU32Le (stream.drop 8)
    pure (⟨name, flags⟩, stream)

/-- The branch for a network block; entries of the table behind the last channel stay. -/
def parseClientNetwork (summary : GccClientDataSummary) (payload : Bytes) :
    Attempt GccClientDataSummary := do
  let (channelCount, stream) ← readU16Le payload
  let (_, stream) ← readU16Le stream
  if gccMaxServerChannels < channelCount.toNat ∨ stream.length < channelCount.toNat * 12 then
    refuse .protocolError
  else
    let (channels, _) ← readCounted readChannel channelCount.toNat stream
    let channels := channels ++ summary.channels.drop channelCount.toNat
    pure { summary with channelCount, channels, hasNetwork := true }

def parseClientMultitransport (summary : GccClientDataSummary) (payload : Bytes) :
    Attempt GccClientDataSummary := do
  let (multitransportFlags, stream) ← readU32Le payload
  if stream ≠ [] ∨ multitransportRefused multitransportFlags then refuse .protocolError
  else pure { summary with multitransportFlags, hasMultitransport := true }

def parseClientMessageChannel (summary : GccClientDataSummary) (payload : Bytes) :
    Attempt GccClientDataSummary := do
  if summary.hasMessageChannel then refuse .protocolError
  else
    let (messageChannelFlags, stream) ← readU32Le payload
    if stream ≠ [] then refuse .protocolError
    else pure { summary with messageChannelFlags, hasMessageChannel := true }

/-- The body of the loop of `rdp_gcc_parse_client_data_blocks`. -/
def takeClientBlock (summary : GccClientDataSummary) (block : GccUserDataBlock) :
    Attempt GccClientDataSummary :=
  if block.type = csCore then parseClientCore summary block.payload
  else if block.type = csSecurity then parseClientSecurity summary block.payload
  else if block.type = csCluster then parseClientCluster summary block.payload
  else if block.type = csNetwork then parseClientNetwork summary block.payload
  else if block.type = csMultitransport then parseClientMultitransport summary block.payload
  else if block.type = csMcsMsgchannel then parseClientMessageChannel summary block.payload
  else pure summary

/-- `rdp_gcc_parse_client_data_blocks`. -/
def parseClientDataBlocks (data : Bytes) : Attempt GccClientDataSummary := do
  let summary ← (parseBlocks takeClientBlock).drain {} data
  if summary.hasCore ∧ summary.hasSecurity ∧ summary.hasNetwork then pure summary
  else refuse .protocolError

/-! ## The server's side -/

/-- `rdp_gcc_server_config`. -/
structure GccServerConfig where
  version : UInt32 := 0
  requestedProtocols : UInt32 := 0
  earlyCapabilityFlags : UInt32 := 0
  encryptionMethod : UInt32 := 0
  encryptionLevel : UInt32 := 0
  serverRandom : Option Bytes := none
  serverRandomLen : UInt32 := 0
  serverCertificate : Option Bytes := none
  serverCertificateLen : UInt32 := 0
  mcsChannelId : UInt16 := 0
  channelCount : UInt16 := 0
  enableMessageChannel : Bool := false
  messageChannelId : UInt16 := 0
  enableMultitransport : Bool := false
  multitransportFlags : UInt32 := 0
  randomHeld : ∀ data ∈ serverRandom, serverRandomLen.toNat ≤ data.length := by exact nofun
  certificateHeld : ∀ data ∈ serverCertificate, serverCertificateLen.toNat ≤ data.length := by
    exact nofun

def GccServerConfig.encrypts (config : GccServerConfig) : Prop :=
  config.encryptionMethod ≠ 0 ∨ config.encryptionLevel ≠ 0

instance (config : GccServerConfig) : Decidable config.encrypts :=
  inferInstanceAs (Decidable (_ ∨ _))

def GccServerConfig.random (config : GccServerConfig) : Bytes :=
  (config.serverRandom.getD []).take config.serverRandomLen.toNat

def GccServerConfig.certificate (config : GccServerConfig) : Bytes :=
  (config.serverCertificate.getD []).take config.serverCertificateLen.toNat

/-- The id of the last static channel, `(uint16_t)(RDP_MCS_GLOBAL_CHANNEL_ID + count)`. -/
def lastChannelId (count : UInt16) : UInt16 := UInt16.ofNat (globalChannelId + count.toNat)

/-- The checks of `rdp_gcc_write_server_data_blocks`. -/
def serverConfigRefused (config : GccServerConfig) : Prop :=
  gccMaxServerChannels < config.channelCount.toNat ∨
    config.earlyCapabilityFlags &&& ~~~gccServerEarlyKnownFlags ≠ 0 ∨
    (config.encrypts ∧ (config.serverRandom.isNone ∨ config.serverCertificate.isNone ∨
      config.serverRandomLen = 0 ∨ config.serverCertificateLen = 0)) ∨
    (config.enableMultitransport ∧ multitransportRefused config.multitransportFlags) ∨
    (config.enableMessageChannel ∧ config.messageChannelId ≤ lastChannelId config.channelCount)

instance (config : GccServerConfig) : Decidable (serverConfigRefused config) :=
  inferInstanceAs (Decidable (_ ∨ _))

def serverCoreBlock (config : GccServerConfig) : Attempt Bytes :=
  writeBlock scCore (u32LeBytes (orDefault config.version gccClientVersion5).toNat ++
    u32LeBytes config.requestedProtocols.toNat ++ u32LeBytes config.earlyCapabilityFlags.toNat)

def serverSecurityBlock (config : GccServerConfig) : Attempt Bytes :=
  writeBlock scSecurity (u32LeBytes config.encryptionMethod.toNat ++
    u32LeBytes config.encryptionLevel.toNat ++
    if config.encrypts then
      u32LeBytes config.serverRandomLen.toNat ++ u32LeBytes config.serverCertificateLen.toNat ++
        config.random ++ config.certificate
    else [])

def serverChannelIds (count : UInt16) : List UInt16 :=
  (List.range count.toNat).map fun i => UInt16.ofNat (globalChannelId + 1 + i)

def serverNetworkBlock (config : GccServerConfig) : Attempt Bytes :=
  writeBlock scNetwork
    (u16LeBytes (orDefault config.mcsChannelId (UInt16.ofNat globalChannelId)).toNat ++
      u16LeBytes config.channelCount.toNat ++
      (serverChannelIds config.channelCount).flatMap fun id => u16LeBytes id.toNat)

def serverMessageChannelBlock (config : GccServerConfig) : Attempt Bytes :=
  writeBlock scMcsMsgchannel (u16LeBytes config.messageChannelId.toNat)

def serverMultitransportBlock (config : GccServerConfig) : Attempt Bytes :=
  writeBlock scMultitransport (u32LeBytes config.multitransportFlags.toNat)

/-- `rdp_gcc_write_server_data_blocks`. -/
def writeServerDataBlocks (config : GccServerConfig) : Attempt Bytes := do
  if serverConfigRefused config then refuse .invalidArgument
  else
    let core ← serverCoreBlock config
    let security ← serverSecurityBlock config
    let network ← serverNetworkBlock config
    let messageChannel ← writeEnabled config.enableMessageChannel (serverMessageChannelBlock config)
    let multitransport ← writeEnabled config.enableMultitransport (serverMultitransportBlock config)
    pure (core ++ security ++ network ++ messageChannel ++ multitransport)

/-- `rdp_gcc_server_data`. -/
structure GccServerData where
  hasCore : Bool := false
  hasSecurity : Bool := false
  hasNetwork : Bool := false
  version : UInt32 := 0
  requestedProtocols : UInt32 := 0
  earlyCapabilityFlags : UInt32 := 0
  encryptionMethod : UInt32 := 0
  encryptionLevel : UInt32 := 0
  serverRandom : Option Bytes := none
  serverRandomLen : UInt32 := 0
  serverCertificate : Option Bytes := none
  serverCertificateLen : UInt32 := 0
  mcsChannelId : UInt16 := 0
  channelCount : UInt16 := 0
  channelIds : List UInt16 := List.replicate gccMaxServerChannels 0
  hasMessageChannel : Bool := false
  messageChannelId : UInt16 := 0
  hasMultitransport : Bool := false
  multitransportFlags : UInt32 := 0
  deriving Repr, DecidableEq

def readWhereLeft (old : UInt32) (stream : Bytes) : Attempt (UInt32 × Bytes) :=
  if 4 ≤ stream.length then readU32Le stream else pure (old, stream)

/-- The branch of `rdp_gcc_parse_server_data_blocks` for a core block. -/
def parseServerCore (data : GccServerData) (payload : Bytes) : Attempt GccServerData := do
  let (version, stream) ← readU32Le payload
  let (requestedProtocols, stream) ← readWhereLeft data.requestedProtocols stream
  let (earlyCapabilityFlags, _) ← readWhereLeft data.earlyCapabilityFlags stream
  pure { data with version, requestedProtocols, earlyCapabilityFlags, hasCore := true }

def parseServerSecurity (data : GccServerData) (payload : Bytes) : Attempt GccServerData := do
  let (encryptionMethod, stream) ← readU32Le payload
  let (encryptionLevel, stream) ← readU32Le stream
  if encryptionMethod ≠ 0 ∨ encryptionLevel ≠ 0 then
    let (serverRandomLen, stream) ← readU32Le stream
    let (serverCertificateLen, stream) ← readU32Le stream
    if serverRandomLen = 0 ∨ serverCertificateLen = 0 ∨
        stream.length < serverRandomLen.toNat + serverCertificateLen.toNat then
      refuse .protocolError
    else
      let (random, stream) ← readBytes stream serverRandomLen.toNat
      let (certificate, _) ← readBytes stream serverCertificateLen.toNat
      pure { data with
        encryptionMethod, encryptionLevel, serverRandomLen, serverCertificateLen,
        serverRandom := some random, serverCertificate := some certificate, hasSecurity := true }
  else pure { data with encryptionMethod, encryptionLevel, hasSecurity := true }

/-- The branch for a network block; entries of the table behind the last id stay. -/
def parseServerNetwork (data : GccServerData) (payload : Bytes) : Attempt GccServerData := do
  let (mcsChannelId, stream) ← readU16Le payload
  let (channelCount, stream) ← readU16Le stream
  if gccMaxServerChannels < channelCount.toNat then refuse .unsupported
  else if stream.length < channelCount.toNat * 2 then refuse .protocolError
  else
    let (ids, _) ← readCounted readU16Le channelCount.toNat stream
    let channelIds := ids ++ data.channelIds.drop channelCount.toNat
    pure { data with mcsChannelId, channelCount, channelIds, hasNetwork := true }

def parseServerMultitransport (data : GccServerData) (payload : Bytes) : Attempt GccServerData := do
  let (multitransportFlags, stream) ← readU32Le payload
  if stream ≠ [] ∨ multitransportRefused multitransportFlags then refuse .protocolError
  else pure { data with multitransportFlags, hasMultitransport := true }

def parseServerMessageChannel (data : GccServerData) (payload : Bytes) :
    Attempt GccServerData := do
  if data.hasMessageChannel then refuse .protocolError
  else
    let (messageChannelId, stream) ← readU16Le payload
    if stream ≠ [] ∨ messageChannelId.toNat ≤ globalChannelId then refuse .protocolError
    else pure { data with messageChannelId, hasMessageChannel := true }

/-- The body of the loop of `rdp_gcc_parse_server_data_blocks`. -/
def takeServerBlock (data : GccServerData) (block : GccUserDataBlock) : Attempt GccServerData :=
  if block.type = scCore then parseServerCore data block.payload
  else if block.type = scSecurity then parseServerSecurity data block.payload
  else if block.type = scNetwork then parseServerNetwork data block.payload
  else if block.type = scMultitransport then parseServerMultitransport data block.payload
  else if block.type = scMcsMsgchannel then parseServerMessageChannel data block.payload
  else pure data

/-- `rdp_gcc_parse_server_data_blocks`. -/
def parseServerDataBlocks (bytes : Bytes) : Attempt GccServerData := do
  let data ← (parseBlocks takeServerBlock).drain {} bytes
  if data.hasMessageChannel ∧
      (data.hasNetwork = false ∨ data.messageChannelId ≤ lastChannelId data.channelCount) then
    refuse .protocolError
  else if data.hasCore ∧ data.hasSecurity then pure data
  else refuse .protocolError

/-! ## Conference create -/

def conferenceOid : Bytes := [5, 0, 20, 124, 0, 1]

/-- `"Duca"` and `"McDn"`. -/
def clientKey : Bytes := [0x44, 0x75, 0x63, 0x61]
def serverKey : Bytes := [0x4d, 0x63, 0x44, 0x6e]

def gccServerNodeId : Nat := 0x79f3
def gccUserIdMin : UInt16 := 1001
def gccServerTag : UInt32 := 1
def gccConferenceResponseLengthHint : Nat := 0x2a

/-- `rdp_gcc_write_conference_create_request`. -/
def writeConferenceCreateRequest (userData : Bytes) : Attempt Bytes := do
  if 0xffff - 14 < userData.length then refuse .invalidArgument
  else
    let connectLen ← writePerLength (userData.length + 14)
    let name ← writePerNumericString [0x31] 1
    let key ← writePerOctetString clientKey clientKey.length
    let data ← writePerOctetString userData 0
    pure ([0] ++ conferenceOid ++ connectLen ++ [0, 0x08] ++ name ++ [0, 1, 0xc0] ++ key ++ data)

/-- `rdp_gcc_parse_conference_create_request`, with the user data it exposes. -/
def parseConferenceCreateRequest (data : Bytes) : Attempt Bytes := do
  let (choice, stream) ← readU8 data
  if choice ≠ 0 then refuse .protocolError
  else
    let stream ← readObjectIdentifier conferenceOid stream
    let (connectLen, stream) ← readPerLength stream
    if stream.length < connectLen then refuse .protocolError
    else
      let (choice, stream) ← readU8 stream
      let (parts, stream) ← readU8 stream
      if choice ≠ 0 ∨ parts ≠ 0x08 then refuse .protocolError
      else
        let (nameLen, stream) ← readPerLength stream
        let (_, stream) ← readBytes stream ((nameLen + 2) / 2)
        let (choice, stream) ← readU8 stream
        let (userDataCount, stream) ← readU8 stream
        let (h221Choice, stream) ← readU8 stream
        if choice ≠ 0 ∨ userDataCount ≠ 1 ∨ h221Choice ≠ 0xc0 then refuse .protocolError
        else
          let stream ← readPerOctetString clientKey clientKey.length stream
          let (userDataLen, stream) ← readPerLength stream
          let (userData, stream) ← readBytes stream userDataLen
          if stream ≠ [] ∨ userDataLen = 0 then refuse .protocolError else pure userData

/-- `rdp_gcc_conference_response`. -/
structure GccConferenceResponse where
  nodeId : UInt16
  tag : UInt32
  result : UInt8
  userData : Bytes
  deriving Repr, DecidableEq

/-- `rdp_gcc_write_conference_create_response`. -/
def writeConferenceCreateResponse (userData : Bytes) : Attempt Bytes := do
  if 0x7fff < userData.length then refuse .invalidArgument
  else
    let tag ← writePerInteger gccServerTag
    let key ← writePerOctetString serverKey serverKey.length
    let userDataLen ← writePerLength userData.length
    let hint ← writePerLength gccConferenceResponseLengthHint
    let body := [0x14] ++ u16BeBytes (gccServerNodeId - gccUserIdMin.toNat) ++ tag ++ [0, 1, 0xc0] ++
      key ++ userDataLen ++ userData
    pure ([0] ++ conferenceOid ++ hint ++ body)

/-- `rdp_gcc_parse_conference_create_response`. -/
def parseConferenceCreateResponse (data : Bytes) : Attempt GccConferenceResponse := do
  let (choice, stream) ← readU8 data
  if choice ≠ 0 then refuse .protocolError
  else
    let stream ← readObjectIdentifier conferenceOid stream
    let (_, stream) ← readPerLength stream
    let (choice, stream) ← readU8 stream
    if choice ≠ 0x14 then refuse .protocolError
    else
      let (nodeId, stream) ← readPerInteger16 gccUserIdMin stream
      let (tag, stream) ← readPerInteger stream
      let (result, stream) ← readU8 stream
      let (setCount, stream) ← readU8 stream
      let (choice, stream) ← readU8 stream
      if setCount ≠ 1 ∨ choice ≠ 0xc0 then refuse .protocolError
      else
        let stream ← readPerOctetString serverKey serverKey.length stream
        let (userLen, stream) ← readPerLength stream
        let (userData, _) ← readBytes stream userLen
        pure ⟨nodeId, tag, result, userData⟩

end LibRdp.Connect
