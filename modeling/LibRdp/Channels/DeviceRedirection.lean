import LibRdp.Common

/-! # Messages of the device redirection channel

What a client sends on `rdpdr`: the answers of the startup exchange, lists of devices
that come and go, and the completions of file system requests.
-/

namespace LibRdp.Channels

/-- `RDP_DEVICE_REDIRECTION_COMPONENT_CORE` and `_PRINTER`. -/
def componentCore : UInt16 := 0x4472
def componentPrinter : UInt16 := 0x5052

/-- `RDP_DEVICE_REDIRECTION_PAKID_CORE_*`. -/
def pakidClientIdConfirm : UInt16 := 0x4343
def pakidClientName : UInt16 := 0x434e
def pakidDeviceListAnnounce : UInt16 := 0x4441
def pakidDeviceIoCompletion : UInt16 := 0x4943
def pakidClientCapability : UInt16 := 0x4350
def pakidDeviceListRemove : UInt16 := 0x444d

/-- `RDP_DEVICE_REDIRECTION_TYPE_*`. -/
def deviceTypeSerial : UInt32 := 0x00000001
def deviceTypeParallel : UInt32 := 0x00000002
def deviceTypePrinter : UInt32 := 0x00000004
def deviceTypeFilesystem : UInt32 := 0x00000008
def deviceTypeSmartcard : UInt32 := 0x00000020

/-- `RDP_DEVICE_REDIRECTION_CAP_*`. -/
def capGeneral : UInt16 := 1
def capPrinter : UInt16 := 2
def capPort : UInt16 := 3
def capDrive : UInt16 := 4
def capSmartcard : UInt16 := 5

/-- `RDP_DEVICE_REDIRECTION_VERSION_MAJOR` and `_MINOR_13`. -/
def redirectionVersionMajor : UInt16 := 1
def redirectionVersionMinor13 : UInt16 := 13

/-- `RDP_DEVICE_REDIRECTION_MAX_CAPABILITIES` and `_MAX_DEVICES`. -/
def maxCapabilities : Nat := 16
def maxDevices : Nat := 64

/-- `RDP_DEVICE_REDIRECTION_STATUS_SUCCESS`. -/
def ioStatusSuccess : UInt32 := 0

/-- `RDP_DEVICE_REDIRECTION_EXT_USER_LOGGEDON`. -/
def extUserLoggedOn : UInt32 := 4

/-- `rdp_device_redirection_header`. -/
structure DeviceHeader where
  component : UInt16
  packetId : UInt16
  deriving Repr, DecidableEq

/-- `rdp_device_redirection_parse_header`; what follows the header is returned with it. -/
def deviceParseHeader (data : Bytes) : Attempt (DeviceHeader × Bytes) := do
  let (component, stream) ← readU16Le data
  let (packetId, stream) ← readU16Le stream
  pure ({ component, packetId }, stream)

/-- `rdp_device_redirection_expect_header` for the core component. -/
def deviceExpectHeader (data : Bytes) (packetId : UInt16) : Attempt Bytes := do
  let (header, stream) ← deviceParseHeader data
  if header.component ≠ componentCore ∨ header.packetId ≠ packetId then refuse .protocolError
  else pure stream

/-- `rdp_device_redirection_valid_version_minor`. -/
def validVersionMinor (minor : UInt16) : Bool :=
  minor == 2 || minor == 5 || minor == 10 || minor == 12 || minor == 13

/-- `rdp_device_redirection_announce`. -/
structure DeviceConfirm where
  versionMajor : UInt16
  versionMinor : UInt16
  clientId : UInt32
  deriving Repr, DecidableEq

/-- `rdp_device_redirection_parse_client_id_confirm`. -/
def deviceParseClientIdConfirm (data : Bytes) : Attempt DeviceConfirm := do
  if data.length ≠ 12 then refuse .protocolError
  else
    let stream ← deviceExpectHeader data pakidClientIdConfirm
    let (versionMajor, stream) ← readU16Le stream
    let (versionMinor, stream) ← readU16Le stream
    let (clientId, _) ← readU32Le stream
    if versionMajor ≠ redirectionVersionMajor ∨ !validVersionMinor versionMinor then
      refuse .protocolError
    else pure { versionMajor, versionMinor, clientId }

/-- `rdp_device_redirection_client_name`. -/
structure DeviceClientName where
  unicode : UInt32
  codePage : UInt32
  name : Bytes
  deriving Repr, DecidableEq

/-- `rdp_device_redirection_parse_client_name`. -/
def deviceParseClientName (data : Bytes) : Attempt DeviceClientName := do
  if data.length < 16 then refuse .protocolError
  else
    let stream ← deviceExpectHeader data pakidClientName
    let (unicode, stream) ← readU32Le stream
    let (codePage, stream) ← readU32Le stream
    let (nameLen, stream) ← readU32Le stream
    if unicode > 1 ∨ nameLen = 0 then refuse .protocolError
    else
      let (name, stream) ← readBytes stream nameLen.toNat
      if stream ≠ [] then refuse .protocolError
      else if unicode ≠ 0 ∧
          (nameLen.toNat % 2 ≠ 0 ∨ nameLen < 2 ∨ name.drop (name.length - 2) ≠ [0, 0]) then
        refuse .protocolError
      else pure { unicode, codePage, name }

/-- `rdp_device_redirection_capability`. -/
structure DeviceCapability where
  type : UInt16
  length : UInt16
  version : UInt32
  data : Bytes
  deriving Repr, DecidableEq

/-- The loop of `rdp_device_redirection_parse_capability_list`. -/
def deviceParseCapabilities : Nat → Bytes → Attempt (List DeviceCapability × Bytes)
  | 0, stream => pure ([], stream)
  | count + 1, stream => do
      let before := stream.length
      let (type, stream) ← readU16Le stream
      let (length, stream) ← readU16Le stream
      let (version, stream) ← readU32Le stream
      if length < 8 ∨ length.toNat > before then refuse .protocolError
      else
        let (data, stream) ← readBytes stream (length.toNat - 8)
        let (rest, stream) ← deviceParseCapabilities count stream
        pure ({ type, length, version, data } :: rest, stream)

/-- `rdp_device_redirection_parse_capability_list` of the client's capabilities. -/
def deviceParseCapabilityList (data : Bytes) : Attempt (List DeviceCapability) := do
  let stream ← deviceExpectHeader data pakidClientCapability
  let (count, stream) ← readU16Le stream
  let (_, stream) ← readU16Le stream
  if count.toNat > maxCapabilities then refuse .protocolError
  else
    let (capabilities, stream) ← deviceParseCapabilities count.toNat stream
    if stream ≠ [] then refuse .protocolError else pure capabilities

/-- The fields of `rdp_device_redirection_general_capability` that a server keeps or checks. -/
structure DeviceGeneralCapability where
  protocolMajorVersion : UInt16
  protocolMinorVersion : UInt16
  ioCode1 : UInt32
  extendedPdu : UInt32
  deriving Repr, DecidableEq

/-- `rdp_device_redirection_parse_general_capability`. -/
def deviceParseGeneralCapability (capability : DeviceCapability) :
    Attempt DeviceGeneralCapability := do
  if capability.type ≠ capGeneral then refuse .protocolError
  else if (capability.version = 1 ∧ capability.length ≠ 40) ∨
      (capability.version = 2 ∧ capability.length ≠ 44) then refuse .protocolError
  else
    let (_, stream) ← readU32Le capability.data
    let (_, stream) ← readU32Le stream
    let (protocolMajorVersion, stream) ← readU16Le stream
    let (protocolMinorVersion, stream) ← readU16Le stream
    let (ioCode1, stream) ← readU32Le stream
    let (_, stream) ← readU32Le stream
    let (extendedPdu, stream) ← readU32Le stream
    let (_, stream) ← readU32Le stream
    let (_, stream) ← readU32Le stream
    let stream ← if capability.version = 2 then (readU32Le stream).map Prod.snd else pure stream
    if protocolMajorVersion ≠ redirectionVersionMajor ∨ !validVersionMinor protocolMinorVersion then
      refuse .protocolError
    else if stream ≠ [] then refuse .protocolError
    else pure { protocolMajorVersion, protocolMinorVersion, ioCode1, extendedPdu }

/-- `RDP_DEVICE_REDIRECTION_PAKID_CORE_*` of the messages that a server sends. -/
def pakidServerAnnounce : UInt16 := 0x496e
def pakidDeviceReply : UInt16 := 0x6472
def pakidServerCapability : UInt16 := 0x5350
def pakidUserLoggedOn : UInt16 := 0x554c

/-- `rdp_device_redirection_write_header` of the core component. -/
def deviceWriteHeader (packetId : UInt16) : Bytes :=
  u16LeBytes componentCore.toNat ++ u16LeBytes packetId.toNat

/-- `rdp_device_redirection_write_announce_common`. -/
def deviceWriteAnnounce (packetId minor : UInt16) (clientId : UInt32) : Attempt Bytes :=
  if !validVersionMinor minor then refuse .invalidArgument
  else
    pure (deviceWriteHeader packetId ++ u16LeBytes redirectionVersionMajor.toNat ++
      u16LeBytes minor.toNat ++ u32LeBytes clientId.toNat)

/-- What varies in `rdp_device_redirection_capability_config`. -/
structure DeviceCapabilityConfig where
  protocolMinorVersion : UInt16
  includePrinter : Bool
  includePort : Bool
  includeDrive : Bool
  includeSmartcard : Bool
  deriving Repr, DecidableEq

/-- `rdp_device_redirection_default_io_code1`: the masks of all sixteen requests. -/
def defaultIoCode1 : UInt32 := 0x0000ffff

/-- `rdp_device_redirection_write_general_capability` of the default configuration. -/
def deviceWriteGeneralCapability (minor : UInt16) : Bytes :=
  u16LeBytes capGeneral.toNat ++ u16LeBytes 44 ++ u32LeBytes 2 ++ u32LeBytes 0 ++ u32LeBytes 0 ++
    u16LeBytes redirectionVersionMajor.toNat ++ u16LeBytes minor.toNat ++
    u32LeBytes defaultIoCode1.toNat ++ u32LeBytes 0 ++ u32LeBytes 7 ++ u32LeBytes 1 ++
    u32LeBytes 0 ++ u32LeBytes 0

/-- `rdp_device_redirection_write_headered_capability`, if it is included. -/
def deviceWriteCapability (included : Bool) (type : UInt16) (version : Nat) : Bytes :=
  if included then u16LeBytes type.toNat ++ u16LeBytes 8 ++ u32LeBytes version else []

/-- `rdp_device_redirection_write_server_capability_request`. -/
def deviceWriteServerCapability (config : DeviceCapabilityConfig) : Attempt Bytes :=
  if !validVersionMinor config.protocolMinorVersion then refuse .invalidArgument
  else
    let included :=
      [config.includePrinter, config.includePort, config.includeDrive, config.includeSmartcard]
    pure (deviceWriteHeader pakidServerCapability ++ u16LeBytes (1 + included.count true) ++
      u16LeBytes 0 ++ deviceWriteGeneralCapability config.protocolMinorVersion ++
      deviceWriteCapability config.includePrinter capPrinter 1 ++
      deviceWriteCapability config.includePort capPort 1 ++
      deviceWriteCapability config.includeDrive capDrive 2 ++
      deviceWriteCapability config.includeSmartcard capSmartcard 1)

/-- `rdp_device_redirection_write_device_reply`. -/
def deviceWriteReply (deviceId resultCode : UInt32) : Bytes :=
  deviceWriteHeader pakidDeviceReply ++ u32LeBytes deviceId.toNat ++ u32LeBytes resultCode.toNat

/-- `rdp_device_redirection_valid_device_type`. -/
def validDeviceType (type : UInt32) : Bool :=
  type == deviceTypeSerial || type == deviceTypeParallel || type == deviceTypePrinter ||
    type == deviceTypeFilesystem || type == deviceTypeSmartcard

/-- The characters that no preferred name holds: `<`, `>`, `"`, `/`, `\` and `|`. -/
def forbiddenInName : Bytes := [0x3c, 0x3e, 0x22, 0x2f, 0x5c, 0x7c]

/-- `rdp_device_redirection_valid_preferred_name`, on the eight bytes of the field. -/
def validPreferredName (type : UInt32) (field : Bytes) : Bool :=
  let name := field.takeWhile (· != 0)
  if name.any (forbiddenInName.contains ·) then false
  else if name.length = 8 then false
  -- a colon may only be the last character
  else if name.dropLast.contains 0x3a then false
  else if type = deviceTypeSmartcard then name == [0x53, 0x43, 0x41, 0x52, 0x44]
  else true

/-- `rdp_device_redirection_device_announce`. -/
structure DeviceAnnounce where
  deviceType : UInt32
  deviceId : UInt32
  preferredDosName : Bytes
  data : Bytes := []
  deriving Repr, DecidableEq

/-- The loop of `rdp_device_redirection_parse_device_list_announce`. -/
def deviceParseDevices : Nat → Bytes → Attempt (List DeviceAnnounce × Bytes)
  | 0, stream => pure ([], stream)
  | count + 1, stream => do
      let (deviceType, stream) ← readU32Le stream
      let (deviceId, stream) ← readU32Le stream
      let (preferredDosName, stream) ← readBytes stream 8
      let (dataLen, stream) ← readU32Le stream
      if !validDeviceType deviceType ∨ !validPreferredName deviceType preferredDosName then
        refuse .protocolError
      else
        let (data, stream) ← readBytes stream dataLen.toNat
        let (rest, stream) ← deviceParseDevices count stream
        pure ({ deviceType, deviceId, preferredDosName, data } :: rest, stream)

/-- `rdp_device_redirection_parse_device_list_announce`. -/
def deviceParseDeviceListAnnounce (data : Bytes) : Attempt (List DeviceAnnounce) := do
  let stream ← deviceExpectHeader data pakidDeviceListAnnounce
  let (count, stream) ← readU32Le stream
  if count.toNat > maxDevices then refuse .protocolError
  else
    let (devices, stream) ← deviceParseDevices count.toNat stream
    if stream ≠ [] then refuse .protocolError else pure devices

/-- The loop of `rdp_device_redirection_parse_device_remove`. -/
def deviceParseIds : Nat → Bytes → Attempt (List UInt32)
  | 0, _ => pure []
  | count + 1, stream => do
      let (deviceId, stream) ← readU32Le stream
      let rest ← deviceParseIds count stream
      pure (deviceId :: rest)

/-- `rdp_device_redirection_parse_device_remove`. -/
def deviceParseDeviceRemove (data : Bytes) : Attempt (List UInt32) := do
  let stream ← deviceExpectHeader data pakidDeviceListRemove
  let (count, stream) ← readU32Le stream
  if count.toNat > maxDevices ∨ stream.length ≠ count.toNat * 4 then refuse .protocolError
  else deviceParseIds count.toNat stream

/-- `rdp_device_redirection_io_completion`. -/
structure IoCompletion where
  deviceId : UInt32
  completionId : UInt32
  ioStatus : UInt32
  payload : Bytes := []
  deriving Repr, DecidableEq

/-- `rdp_device_redirection_parse_io_completion`. -/
def deviceParseIoCompletion (data : Bytes) : Attempt IoCompletion := do
  let stream ← deviceExpectHeader data pakidDeviceIoCompletion
  let (deviceId, stream) ← readU32Le stream
  let (completionId, stream) ← readU32Le stream
  let (ioStatus, payload) ← readU32Le stream
  pure { deviceId, completionId, ioStatus, payload }

/-- `rdp_device_redirection_write_io_completion`. -/
def deviceWriteIoCompletion (completion : IoCompletion) : Bytes :=
  u16LeBytes componentCore.toNat ++ (u16LeBytes pakidDeviceIoCompletion.toNat ++
    (u32LeBytes completion.deviceId.toNat ++ (u32LeBytes completion.completionId.toNat ++
      (u32LeBytes completion.ioStatus.toNat ++ completion.payload))))

/-- `rdp_filesystem_redirection_parse_create_response`: the file id and the information. -/
def filesystemParseCreateResponse (data : Bytes) : Attempt (UInt32 × UInt8) := do
  if data.length ≠ 21 then refuse .protocolError
  else
    let completion ← deviceParseIoCompletion data
    let (fileId, stream) ← readU32Le completion.payload
    let (information, _) ← readU8 stream
    pure (fileId, information)

/-- `rdp_filesystem_parse_padding_response`. -/
def filesystemParsePaddingResponse (data : Bytes) (padding : Nat) : Attempt Unit := do
  if data.length ≠ 16 + padding then refuse .protocolError
  else
    let completion ← deviceParseIoCompletion data
    if completion.payload ≠ List.replicate padding 0 then refuse .protocolError else pure ()

/-- `rdp_filesystem_redirection_parse_write_response`: the length. -/
def filesystemParseWriteResponse (data : Bytes) : Attempt UInt32 := do
  if data.length ≠ 21 then refuse .protocolError
  else
    let completion ← deviceParseIoCompletion data
    let (length, stream) ← readU32Le completion.payload
    if stream ≠ [0] then refuse .protocolError else pure length

/-- `rdp_filesystem_redirection_parse_length_response`: the length and the buffer. -/
def filesystemParseLengthResponse (data : Bytes) : Attempt (UInt32 × Bytes) := do
  let completion ← deviceParseIoCompletion data
  let (length, buffer) ← readU32Le completion.payload
  if buffer ≠ [] ∧ length.toNat ≠ buffer.length then refuse .protocolError
  else pure (length, buffer)

end LibRdp.Channels
