import LibRdp.Server.Drive
import LibRdp.Server.Extensions

/-! # The device redirection channel of a server peer

A startup exchange of announcement, confirmation, name and capabilities comes first; then
the client lists the devices that come and go. A device is registered if its provider is
ready and the client has its capability, and otherwise refused on the wire.
-/

namespace LibRdp.Server

open Machine Machine.Table Channels

/-- The part of `librdp_server_peer` that device redirection uses; the fields from `channelId` on
    are those with the name `device_redirection_*`. -/
structure RedirectionPeer where
  drive : DrivePeer
  providers : UInt64
  extensions : ExtensionStates := fun _ => {}
  channelId : UInt16 := 0
  versionMinor : UInt16 := 0
  clientId : UInt32 := 0
  clientIoCode1 : UInt32 := 0
  clientCapabilityTypes : UInt32 := 0
  announceSent : Bool := false
  clientConfirmed : Bool := false
  clientNamed : Bool := false
  capabilitiesSent : Bool := false
  capabilitiesReceived : Bool := false
  clientIdSent : Bool := false
  loggedOnSent : Bool := false
  userLoggedOnSupported : Bool := false
  ready : Bool := false

/-- `librdp_server_peer_send_channel_data` on the packets of one call, which are numbered. -/
abbrev ChannelSend := Nat → UInt16 → Bytes → Status

/-- `RDP_SERVER_RDPDR_STATUS_NOT_SUPPORTED`. -/
def rdpdrStatusNotSupported : UInt32 := 0xc00000bb

/-- `RDP_SERVER_MAX_TEXT`. -/
def serverMaxText : Nat := 512

/-- `rdp_server_device_redirection_reset`. -/
def deviceRedirectionReset (peer : RedirectionPeer) : RedirectionPeer :=
  { drive := peer.drive, providers := peer.providers, extensions := peer.extensions }

/-- `rdp_server_redirected_device_family`. -/
def redirectedDeviceFamily (type : UInt32) : ExtensionFamily :=
  if type = deviceTypeFilesystem then .filesystem
  else if type = deviceTypePrinter then .printer
  else if type = deviceTypeSerial then .serialPort
  else if type = deviceTypeParallel then .parallelPort
  else if type = deviceTypeSmartcard then .smartcard
  else .deviceRedirection

/-- `rdp_server_device_type_provider_ready`. -/
def deviceTypeProviderReady (peer : RedirectionPeer) (type : UInt32) : Bool :=
  extensionProviderReady peer.providers (redirectedDeviceFamily type)

/-- `rdp_server_device_capability_type`. -/
def deviceCapabilityType (type : UInt32) : UInt16 :=
  if type = deviceTypeFilesystem then capDrive
  else if type = deviceTypePrinter then capPrinter
  else if type = deviceTypeSerial ∨ type = deviceTypeParallel then capPort
  else if type = deviceTypeSmartcard then capSmartcard
  else 0

def capabilityBit (type : UInt16) : UInt32 :=
  if type > 0 ∧ type < 32 then 1 <<< type.toUInt32 else 0

/-- `rdp_server_device_capability_received`. -/
def deviceCapabilityReceived (peer : RedirectionPeer) (type : UInt32) : Bool :=
  peer.clientCapabilityTypes &&& capabilityBit (deviceCapabilityType type) != 0

structure AdvertisedChannel where
  joined : Bool
  name : Bytes
  channelId : UInt16
  deriving Repr, DecidableEq

/-- `rdp_server_device_redirection_provider_ready`. -/
def deviceRedirectionProviderReady (peer : RedirectionPeer) : Bool :=
  [ExtensionFamily.deviceRedirection, .filesystem, .printer, .serialPort, .parallelPort,
    .smartcard].any (extensionProviderReady peer.providers)

/-- `rdp_server_device_redirection_start`; `random` is what `RAND_bytes` returns. -/
def deviceRedirectionStart (peer : RedirectionPeer) (advertised : List AdvertisedChannel)
    (random : Option UInt32) (send : ChannelSend) : Status × RedirectionPeer :=
  if peer.drive.state ≠ .active then (.state, peer)
  else if peer.announceSent ∨ !deviceRedirectionProviderReady peer then (.ok, peer)
  else
    let found := advertised.find? fun channel =>
      channel.joined && channel.name.takeWhile (· != 0) == nameBytes "rdpdr"
    match found.map (·.channelId) with
    | none => (.ok, peer)
    | some channelId =>
        if channelId = 0 then (.ok, peer)
        else
          match random with
          | none => (.ioError, peer)
          | some random =>
              let clientId := if random = 0 then 1 else random
              match deviceWriteAnnounce pakidServerAnnounce redirectionVersionMinor13 clientId with
              | .error stop => (stopStatus stop, peer)
              | .ok packet =>
                  match send 0 channelId packet with
                  | .ok =>
                      (.ok, { peer with
                        channelId, versionMinor := redirectionVersionMinor13, clientId
                        announceSent := true })
                  | status => (status, peer)

/-- `rdp_server_send_device_redirection_capabilities`. -/
def sendDeviceRedirectionCapabilities (peer : RedirectionPeer) (send : ChannelSend) :
    Status × RedirectionPeer :=
  if !peer.clientConfirmed ∨ !peer.clientNamed ∨ peer.capabilitiesSent then (.ok, peer)
  else
    let ready := extensionProviderReady peer.providers
    let config : DeviceCapabilityConfig :=
      { protocolMinorVersion := peer.versionMinor, includeDrive := ready .filesystem
        includePrinter := ready .printer, includePort := ready .serialPort || ready .parallelPort
        includeSmartcard := ready .smartcard }
    match deviceWriteServerCapability config with
    | .error stop => (stopStatus stop, peer)
    | .ok packet =>
        match send 0 peer.channelId packet with
        | .ok => (.ok, { peer with capabilitiesSent := true })
        | status => (status, peer)

/-- The check of one capability in `rdp_server_validate_device_redirection_capabilities`. -/
def checkCapability (capability : DeviceCapability)
    (general : Option DeviceGeneralCapability) : Attempt (Option DeviceGeneralCapability) :=
  if capability.type = capGeneral then (deviceParseGeneralCapability capability).map some
  else if capability.type = capPrinter ∨ capability.type = capPort ∨
      capability.type = capSmartcard then
    if capability.length ≠ 8 ∨ capability.data ≠ [] ∨ capability.version ≠ 1 then
      refuse .protocolError
    else pure general
  else if capability.type = capDrive then
    if capability.length ≠ 8 ∨ capability.data ≠ [] ∨
        (capability.version ≠ 1 ∧ capability.version ≠ 2) then refuse .protocolError
    else pure general
  else pure general

/-- The loop of `rdp_server_validate_device_redirection_capabilities`. -/
def checkCapabilities : List DeviceCapability → UInt32 → Option DeviceGeneralCapability →
    Attempt (UInt32 × Option DeviceGeneralCapability)
  | [], seen, general => pure (seen, general)
  | capability :: rest, seen, general => do
      let bit := capabilityBit capability.type
      if bit ≠ 0 ∧ seen &&& bit ≠ 0 then refuse .protocolError
      else
        let general ← checkCapability capability general
        checkCapabilities rest (seen ||| bit) general

/-- `rdp_server_validate_device_redirection_capabilities`. -/
def validateDeviceRedirectionCapabilities (peer : RedirectionPeer) (data : Bytes) :
    Attempt (UInt32 × DeviceGeneralCapability) := do
  let capabilities ← deviceParseCapabilityList data
  let (seen, general) ← checkCapabilities capabilities 0 none
  match general with
  | none => refuse .protocolError
  | some general =>
      if general.protocolMinorVersion ≠ peer.versionMinor then refuse .protocolError
      else pure (seen, general)

/-- The last packet of `rdp_server_finish_device_redirection_handshake`: the client is told that
    the user logged on, if it can be told. -/
def finishLoggedOn (peer : RedirectionPeer) (send : ChannelSend) : Status × RedirectionPeer :=
  if peer.userLoggedOnSupported ∧ !peer.loggedOnSent then
    match send 1 peer.channelId (deviceWriteHeader pakidUserLoggedOn) with
    | .ok => (.ok, { peer with loggedOnSent := true, ready := true })
    | status => (status, peer)
  else (.ok, { peer with ready := true })

/-- `rdp_server_finish_device_redirection_handshake`. -/
def finishDeviceRedirectionHandshake (peer : RedirectionPeer) (send : ChannelSend) :
    Status × RedirectionPeer :=
  if !peer.clientIdSent then
    match deviceWriteAnnounce pakidClientIdConfirm peer.versionMinor peer.clientId with
    | .error stop => (stopStatus stop, peer)
    | .ok packet =>
        match send 0 peer.channelId packet with
        | .ok => finishLoggedOn { peer with clientIdSent := true } send
        | status => (status, peer)
  else finishLoggedOn peer send

/-- The branch for `CLIENTID_CONFIRM` of the startup exchange. -/
def handleClientIdConfirm (peer : RedirectionPeer) (send : ChannelSend) (data : Bytes) :
    Status × RedirectionPeer :=
  if peer.clientConfirmed then (.protocolError, peer)
  else
    match deviceParseClientIdConfirm data with
    | .error stop => (stopStatus stop, peer)
    | .ok confirm =>
        if confirm.versionMajor ≠ redirectionVersionMajor ∨
            confirm.versionMinor ≠ peer.versionMinor ∨ confirm.clientId ≠ peer.clientId then
          (.protocolError, peer)
        else sendDeviceRedirectionCapabilities { peer with clientConfirmed := true } send

/-- The branch for `CLIENT_NAME`. -/
def handleClientName (peer : RedirectionPeer) (send : ChannelSend) (data : Bytes) :
    Status × RedirectionPeer :=
  if peer.clientNamed then (.protocolError, peer)
  else
    match deviceParseClientName data with
    | .error stop => (stopStatus stop, peer)
    | .ok name =>
        if name.name.length > serverMaxText * 2 + 2 then (.limitExceeded, peer)
        else sendDeviceRedirectionCapabilities { peer with clientNamed := true } send

/-- The branch for `CLIENT_CAPABILITY`. -/
def handleClientCapability (peer : RedirectionPeer) (send : ChannelSend) (data : Bytes) :
    Status × RedirectionPeer :=
  if !peer.capabilitiesSent ∨ peer.capabilitiesReceived then (.protocolError, peer)
  else
    match validateDeviceRedirectionCapabilities peer data with
    | .error stop => (stopStatus stop, peer)
    | .ok (capabilityTypes, general) =>
        finishDeviceRedirectionHandshake
          { peer with
            clientIoCode1 := general.ioCode1, clientCapabilityTypes := capabilityTypes
            userLoggedOnSupported := general.extendedPdu &&& extUserLoggedOn != 0
            capabilitiesReceived := true } send

/-- `rdp_server_handle_device_redirection_lifecycle`. -/
def handleDeviceRedirectionLifecycle (peer : RedirectionPeer) (send : ChannelSend)
    (channelId : UInt16) (data : Bytes) (header : DeviceHeader) : Status × RedirectionPeer :=
  if header.component = componentPrinter then
    (if peer.ready then .ok else .protocolError, peer)
  else if header.component ≠ componentCore ∨ !peer.announceSent ∨ channelId ≠ peer.channelId then
    (.protocolError, peer)
  else if header.packetId = pakidClientIdConfirm then handleClientIdConfirm peer send data
  else if header.packetId = pakidClientName then handleClientName peer send data
  else if header.packetId = pakidClientCapability then handleClientCapability peer send data
  else if !peer.ready then (.protocolError, peer)
  else if header.packetId = pakidDeviceListAnnounce ∨ header.packetId = pakidDeviceListRemove ∨
      header.packetId = pakidDeviceIoCompletion then (.ok, peer)
  else (.protocolError, peer)

/-- `rdp_server_send_device_reply_unchecked`. -/
def sendDeviceReplyUnchecked (peer : RedirectionPeer) (send : UInt16 → Bytes → Status)
    (deviceId ioStatus : UInt32) : Status :=
  if peer.channelId = 0 ∨ deviceId = 0 then .invalidArgument
  else send peer.channelId (deviceWriteReply deviceId ioStatus)

/-- The provider of a device is ready and the client has its capability. -/
def deviceSupported (peer : RedirectionPeer) (announce : DeviceAnnounce) : Bool :=
  deviceTypeProviderReady peer announce.deviceType &&
    deviceCapabilityReceived peer announce.deviceType

/-- The loop over an announced list; `i` is the index of its head. -/
def announceDevices (charset : Charset) (send : ChannelSend) (channelId : UInt16) :
    Nat → RedirectionPeer → List DeviceAnnounce → (Status × List DriveEvent) × RedirectionPeer
  | _, peer, [] => ((.ok, []), peer)
  | i, peer, announce :: rest =>
      if !deviceSupported peer announce then
        match sendDeviceReplyUnchecked peer (send i) announce.deviceId rdpdrStatusNotSupported with
        | .ok => announceDevices charset send channelId (i + 1) peer rest
        | status => ((status, []), peer)
      else
        match redirectedDeviceStore charset peer.drive channelId announce with
        | ((.ok, events), drive) =>
            let extensions := extensionStateMarkOpen peer.extensions
              (redirectedDeviceFamily announce.deviceType) channelId 0 0
            let ((status, more), peer) :=
              announceDevices charset send channelId (i + 1) { peer with drive, extensions } rest
            ((status, events ++ more), peer)
        | ((status, _), _) => ((status, []), peer)

def removeDevices : RedirectionPeer → List UInt32 → List DriveEvent × RedirectionPeer
  | peer, [] => ([], peer)
  | peer, deviceId :: rest =>
      let extensions :=
        match findRedirectedDevice peer.drive deviceId with
        | some device =>
            extensionStateMarkClose peer.extensions (redirectedDeviceFamily device.deviceType)
        | none => peer.extensions
      let (events, drive) := redirectedDeviceRemove peer.drive deviceId
      let (more, peer) := removeDevices { peer with drive, extensions } rest
      (events ++ more, peer)

/-- What `rdp_server_update_redirected_devices` does with the lists and completions that the
    startup exchange lets through. -/
def applyDeviceMessage (charset : Charset) (peer : RedirectionPeer) (send : ChannelSend)
    (channelId : UInt16) (data : Bytes) (packetId : UInt16) :
    (Status × List DriveEvent) × RedirectionPeer :=
  if packetId = pakidDeviceListAnnounce then
    match deviceParseDeviceListAnnounce data with
    | .error _ => ((.protocolError, []), peer)
    | .ok list => announceDevices charset send channelId 0 peer list
  else if packetId = pakidDeviceListRemove then
    match deviceParseDeviceRemove data with
    | .error _ => ((.protocolError, []), peer)
    | .ok ids =>
        let (events, peer) := removeDevices peer ids
        ((.ok, events), peer)
  else if packetId = pakidDeviceIoCompletion then
    let (answer, drive) := handleCompletion peer.drive data
    (answer, { peer with drive })
  else ((.ok, []), peer)

/-- `rdp_server_update_redirected_devices` on an event of the channel. -/
def updateRedirectedDevices (charset : Charset) (peer : RedirectionPeer) (send : ChannelSend)
    (channelId : UInt16) (data : Bytes) : (Status × List DriveEvent) × RedirectionPeer :=
  match deviceParseHeader data with
  | .error _ => ((.protocolError, []), peer)
  | .ok (header, _) =>
      if header.component ≠ componentCore ∧ header.component ≠ componentPrinter then
        ((.protocolError, []), peer)
      else
        let (status, peer) := handleDeviceRedirectionLifecycle peer send channelId data header
        if status ≠ .ok ∨ header.component ≠ componentCore then ((status, []), peer)
        else applyDeviceMessage charset peer send channelId data header.packetId

end LibRdp.Server
