import LibRdp.Machine.Counter
import LibRdp.Machine.Run
import LibRdp.Machine.Table
import LibRdp.Server.Peer
import LibRdp.Channels.DeviceRedirection

/-! # Client drives of a server peer

Three fixed tables: the devices that the client announced, the files that are open on its
drives, and the requests that wait for a completion. A handle names a device or a file by
the ids the client chose for it and by the generation of the connection, which moves on with
every reconnect. Slots are cleared as a whole, so a slot that is not present is blank.
-/

namespace LibRdp.Server

open Machine Machine.Table Channels

/-- `RDP_SERVER_MAX_REDIRECTED_DEVICES`, `_DRIVE_FILES` and `_DRIVE_REQUESTS`. -/
def maxRedirectedDevices : Nat := 64
def maxDriveFiles : Nat := 256
def maxDriveRequests : Nat := 256

/-- `rdp_server_redirected_device`. -/
structure RedirectedDevice where
  present : Bool := false
  deviceId : UInt32 := 0
  deviceType : UInt32 := 0
  generation : UInt32 := 0
  channelId : UInt16 := 0
  preferredName : Bytes := List.replicate 9 0
  name : Option Bytes := none
  deriving Repr, DecidableEq

/-- `rdp_server_drive_file`. -/
structure DriveFile where
  present : Bool := false
  generation : UInt32 := 0
  deviceId : UInt32 := 0
  fileId : UInt32 := 0
  deriving Repr, DecidableEq

/-- `librdp_server_drive_operation`. -/
inductive DriveOperation where
  | create
  | close
  | read
  | write
  | queryInformation
  | setInformation
  | flush
  | queryVolume
  | setVolume
  | queryDirectory
  | notifyDirectory
  | control
  | lock
  | querySecurity
  | setSecurity
  | cleanup
  | shutdown
  deriving Repr, DecidableEq

/-- `rdp_server_drive_pending`. -/
structure DrivePending where
  present : Bool := false
  cancelled : Bool := false
  generation : UInt32 := 0
  completionId : UInt32 := 0
  deviceId : UInt32 := 0
  fileId : UInt32 := 0
  informationClass : UInt32 := 0
  requestId : UInt64 := 0
  operation : Option DriveOperation := none
  deriving Repr, DecidableEq

/-- `librdp_server_drive_device_handle`. -/
structure DeviceHandle where
  generation : UInt32 := 0
  deviceId : UInt32 := 0
  deriving Repr, DecidableEq

/-- `librdp_server_drive_file_handle`. -/
structure FileHandle where
  generation : UInt32 := 0
  deviceId : UInt32 := 0
  fileId : UInt32 := 0
  reserved : UInt32 := 0
  deriving Repr, DecidableEq

/-- `librdp_server_drive_event_type`. -/
inductive DriveEventType where
  | deviceAdded
  | deviceRemoved
  | requestCompleted
  | requestCancelled
  deriving Repr, DecidableEq

/-- `librdp_server_drive_event`. -/
structure DriveEvent where
  type : DriveEventType
  status : Status := .ok
  device : DeviceHandle := {}
  file : FileHandle := {}
  requestId : UInt64 := 0
  operation : Option DriveOperation := none
  ioStatus : UInt32 := 0
  information : UInt32 := 0
  transferred : UInt64 := 0
  preferredName : Bytes := List.replicate 9 0
  name : Option Bytes := none
  data : Bytes := []
  deriving Repr, DecidableEq

/-- The part of `librdp_server_peer` that drives use; `callback` tells whether `drive_callback`
    is set. -/
structure DrivePeer where
  state : PeerState := .new
  callback : Bool := false
  deviceCount : UInt32 := 0
  devices : List RedirectedDevice := List.replicate maxRedirectedDevices {}
  generation : UInt32 := 0
  nextCompletionId : UInt32 := 0
  fileCount : UInt32 := 0
  files : List DriveFile := List.replicate maxDriveFiles {}
  pendingCount : UInt32 := 0
  pending : List DrivePending := List.replicate maxDriveRequests {}
  deriving Repr, DecidableEq

def decrement (count : UInt32) : UInt32 := if count > 0 then count - 1 else count

def RedirectedDevice.hasId (deviceId : UInt32) (device : RedirectedDevice) : Bool :=
  device.present && device.deviceId == deviceId

/-- `rdp_server_find_redirected_device_const`. -/
def findRedirectedDevice (peer : DrivePeer) (deviceId : UInt32) : Option RedirectedDevice :=
  (lookup (·.hasId deviceId) peer.devices).map Prod.snd

/-- `rdp_server_drive_find_file`, with the index of the slot. -/
def findFile (peer : DrivePeer) (generation deviceId fileId : UInt32) : Option (Nat × DriveFile) :=
  lookup (fun file => file.present && file.generation == generation &&
    file.deviceId == deviceId && file.fileId == fileId) peer.files

/-- `rdp_server_drive_find_pending`, with the index of the slot. -/
def findPending (peer : DrivePeer) (requestId : UInt64) : Option (Nat × DrivePending) :=
  if requestId = 0 then none
  else lookup (fun pending => pending.present && pending.requestId == requestId) peer.pending

/-- `rdp_server_drive_find_completion`, with the index of the slot. -/
def findCompletion (peer : DrivePeer) (deviceId completionId : UInt32) :
    Option (Nat × DrivePending) :=
  if completionId = 0 then none
  else lookup (fun pending => pending.present && pending.deviceId == deviceId &&
    pending.completionId == completionId) peer.pending

/-- `rdp_server_drive_store_file`. -/
def storeFile (peer : DrivePeer) (deviceId fileId : UInt32) : Status × DrivePeer :=
  if fileId = 0 then (.protocolError, peer)
  else if (findFile peer peer.generation deviceId fileId).isSome then (.protocolError, peer)
  else if peer.fileCount.toNat ≥ maxDriveFiles then (.limitExceeded, peer)
  else
    match lookup (!·.present) peer.files with
    | none => (.limitExceeded, peer)
    | some (i, _) =>
        let file := { present := true, generation := peer.generation, deviceId, fileId }
        (.ok, { peer with files := peer.files.set i file, fileCount := peer.fileCount + 1 })

/-- `rdp_server_drive_remove_file`. -/
def removeFile (peer : DrivePeer) (generation deviceId fileId : UInt32) : DrivePeer :=
  match findFile peer generation deviceId fileId with
  | none => peer
  | some (i, _) =>
      { peer with files := peer.files.set i {}, fileCount := decrement peer.fileCount }

/-- `rdp_server_drive_remove_device_files`. -/
def removeDeviceFiles (peer : DrivePeer) (deviceId : UInt32) : DrivePeer :=
  let hit (file : DriveFile) := file.present && file.deviceId == deviceId
  { peer with
    files := peer.files.map fun file => if hit file then {} else file
    fileCount := (peer.files.filter hit).foldl (fun count _ => decrement count) peer.fileCount }

/-- `rdp_server_drive_fill_device_handle`. -/
def fillDeviceHandle : Option RedirectedDevice → DeviceHandle
  | none => {}
  | some device => { generation := device.generation, deviceId := device.deviceId }

/-- `peer->drive_callback`, if it is set. -/
def driveCallback (peer : DrivePeer) (event : DriveEvent) : List DriveEvent :=
  if peer.callback then [event] else []

/-- `rdp_server_drive_emit_device`. -/
def emitDevice (peer : DrivePeer) (device : RedirectedDevice) (type : DriveEventType) :
    List DriveEvent :=
  driveCallback peer
    { type, device := fillDeviceHandle (some device), preferredName := device.preferredName
      name := device.name }

def fillFileHandle (pending : DrivePending) : FileHandle :=
  if pending.fileId ≠ 0 then
    { generation := pending.generation, deviceId := pending.deviceId, fileId := pending.fileId }
  else {}

/-- `rdp_server_drive_emit_cancel`. -/
def emitCancel (peer : DrivePeer) (pending : DrivePending) : List DriveEvent :=
  driveCallback peer
    { type := .requestCancelled, status := .cancelled, requestId := pending.requestId
      operation := pending.operation
      device := fillDeviceHandle (findRedirectedDevice peer pending.deviceId)
      file := fillFileHandle pending }

/-- `rdp_server_drive_clear_pending` of the slot at an index. -/
def clearPending (peer : DrivePeer) (i : Nat) : DrivePeer :=
  { peer with pending := peer.pending.set i {}, pendingCount := decrement peer.pendingCount }

/-- `rdp_server_drive_cancel_device_requests`. -/
def cancelDeviceRequests (peer : DrivePeer) (deviceId : UInt32) : List DriveEvent × DrivePeer :=
  let hit (pending : DrivePending) := pending.present && pending.deviceId == deviceId
  ((peer.pending.filter hit).flatMap fun pending =>
      if pending.cancelled then [] else emitCancel peer pending,
    { peer with
      pending := peer.pending.map fun pending => if hit pending then {} else pending
      pendingCount :=
        (peer.pending.filter hit).foldl (fun count _ => decrement count) peer.pendingCount })

/-- `rdp_server_drive_validate_device`. -/
def validateDevice (peer : DrivePeer) (handle : DeviceHandle) : Except Status RedirectedDevice :=
  if handle.generation = 0 ∨ handle.deviceId = 0 then .error .invalidArgument
  else if handle.generation ≠ peer.generation then .error .state
  else
    match findRedirectedDevice peer handle.deviceId with
    | none => .error .state
    | some device =>
        if device.deviceType ≠ deviceTypeFilesystem ∨ device.generation ≠ handle.generation then
          .error .state
        else .ok device

/-- `rdp_server_drive_validate_file`. -/
def validateFile (peer : DrivePeer) (handle : FileHandle) : Except Status RedirectedDevice :=
  if handle.fileId = 0 ∨ handle.reserved ≠ 0 then .error .invalidArgument
  else do
    let device ← validateDevice peer { generation := handle.generation, deviceId := handle.deviceId }
    if (findFile peer handle.generation handle.deviceId handle.fileId).isNone then .error .state
    else .ok device

def DrivePending.waitsFor (completionId : UInt32) (pending : DrivePending) : Bool :=
  pending.present && pending.completionId == completionId

/-- `rdp_server_drive_next_completion_id`: the id, zero if the attempts do not suffice, and
    `drive_next_completion_id` afterwards. -/
def nextCompletionId (pending : List DrivePending) : Nat → UInt32 → UInt32 × UInt32
  | 0, next => (0, next)
  | attempts + 1, next =>
      let candidate := skipZero next
      if pending.any (·.waitsFor candidate) then
        nextCompletionId pending attempts candidate
      else (candidate, candidate)

/-- `librdp_server_drive_request`. The fields that only shape the packet appear through what
    `rdp_server_drive_build_request` makes of them for a device, a file and a completion id. -/
structure DriveRequest where
  operation : DriveOperation
  device : DeviceHandle := {}
  file : FileHandle := {}
  informationClass : UInt32 := 0
  build : UInt32 → UInt32 → UInt32 → Except Status Bytes

/-- The id of a request: the generation in the upper half, the completion id in the lower. -/
def requestIdOf (generation completionId : UInt32) : UInt64 :=
  generation.toUInt64 <<< 32 ||| completionId.toUInt64

/-- The handle check of `librdp_server_peer_submit_drive_request`, with the file id it goes on
    with. -/
def validateRequest (peer : DrivePeer) (request : DriveRequest) :
    Except Status (RedirectedDevice × UInt32) :=
  if request.operation = .create ∨ request.operation = .shutdown then
    (validateDevice peer request.device).map (·, 0)
  else (validateFile peer request.file).map (·, request.file.fileId)

/-- The rest of `librdp_server_peer_submit_drive_request`, on the device of the request. -/
def submitOn (peer : DrivePeer) (request : DriveRequest) (device : RedirectedDevice)
    (fileId : UInt32) (send : UInt16 → Bytes → Status) : (Status × UInt64) × DrivePeer :=
  if peer.pendingCount.toNat ≥ maxDriveRequests then ((.limitExceeded, 0), peer)
  else
    let slot := lookup (!·.present) peer.pending
    let (completionId, next) :=
      nextCompletionId peer.pending (maxDriveRequests + 1) peer.nextCompletionId
    let peer := { peer with nextCompletionId := next }
    match slot with
    | none => ((.limitExceeded, 0), peer)
    | some (i, free) =>
        if completionId = 0 then ((.limitExceeded, 0), peer)
        else
          match request.build device.deviceId fileId completionId with
          | .error status => ((status, 0), peer)
          | .ok packet =>
              match send device.channelId packet with
              | .ok =>
                  let requestId := requestIdOf peer.generation completionId
                  -- `cancelled` is not written
                  let pending :=
                    { free with
                      present := true, generation := peer.generation, completionId
                      deviceId := device.deviceId, fileId
                      informationClass := request.informationClass
                      operation := some request.operation, requestId }
                  ((.ok, requestId),
                    { peer with
                      pending := peer.pending.set i pending
                      pendingCount := peer.pendingCount + 1 })
              | status => ((status, 0), peer)

/-- `librdp_server_peer_submit_drive_request`: the status and `*request_id`. `send` is
    `librdp_server_peer_send_static_extension_data` for the file system family. -/
def submitDriveRequest (peer : DrivePeer) (request : DriveRequest)
    (send : UInt16 → Bytes → Status) : (Status × UInt64) × DrivePeer :=
  if peer.state ≠ .active ∨ !peer.callback then ((.state, 0), peer)
  else
    match validateRequest peer request with
    | .error status => ((status, 0), peer)
    | .ok (device, fileId) => submitOn peer request device fileId send

/-- `librdp_server_peer_cancel_drive_request`. -/
def cancelDriveRequest (peer : DrivePeer) (requestId : UInt64) :
    (Status × List DriveEvent) × DrivePeer :=
  if requestId = 0 then ((.invalidArgument, []), peer)
  else if (requestId >>> 32).toUInt32 ≠ peer.generation then ((.state, []), peer)
  else
    match findPending peer requestId with
    | none => ((.state, []), peer)
    | some (i, pending) =>
        if pending.cancelled then ((.state, []), peer)
        else
          ((.ok, emitCancel peer pending),
            { peer with pending := peer.pending.set i { pending with cancelled := true } })

/-- `rdp_server_drive_parse_success`. -/
def parseSuccess (pending : DrivePending) (data : Bytes) (event : DriveEvent) :
    Attempt DriveEvent :=
  match pending.operation with
  | some .create => do
      let (fileId, information) ← filesystemParseCreateResponse data
      pure { event with
        information := information.toUInt32, file := { event.file with fileId := fileId } }
  | some .close => do
      filesystemParsePaddingResponse data 5
      pure event
  | some .write => do
      let length ← filesystemParseWriteResponse data
      pure { event with transferred := length.toUInt64 }
  | some .flush | some .cleanup | some .shutdown => pure event
  | some .lock => do
      filesystemParsePaddingResponse data 4
      pure event
  | _ => do
      let (length, buffer) ← filesystemParseLengthResponse data
      pure { event with transferred := length.toUInt64, data := buffer }

def completionEvent (device : RedirectedDevice) (pending : DrivePending)
    (completion : IoCompletion) : DriveEvent :=
  { type := .requestCompleted, requestId := pending.requestId, operation := pending.operation
    ioStatus := completion.ioStatus, device := fillDeviceHandle (some device)
    file := fillFileHandle pending }

/-- The end of `rdp_server_drive_handle_completion`: the file table follows a successful create
    or close, then the event is delivered and the request is gone. -/
def commitCompletion (peer : DrivePeer) (i : Nat) (pending : DrivePending)
    (completion : IoCompletion) (event : DriveEvent) : (Status × List DriveEvent) × DrivePeer :=
  if pending.operation = some .create ∧ completion.ioStatus = ioStatusSuccess then
    match storeFile peer completion.deviceId event.file.fileId with
    | (.ok, peer) =>
        let file :=
          { generation := pending.generation, deviceId := pending.deviceId
            fileId := event.file.fileId }
        ((.ok, driveCallback peer { event with file }), clearPending peer i)
    | (status, _) => ((status, []), peer)
  else if pending.operation = some .close ∧ completion.ioStatus = ioStatusSuccess then
    let peer := removeFile peer pending.generation pending.deviceId pending.fileId
    ((.ok, driveCallback peer event), clearPending peer i)
  else ((.ok, driveCallback peer event), clearPending peer i)

def stopStatus : Stop → Status
  | .returned status => status
  | .fault _ => .invalidArgument

/-- `rdp_server_drive_handle_completion`. -/
def handleCompletion (peer : DrivePeer) (data : Bytes) : (Status × List DriveEvent) × DrivePeer :=
  match deviceParseIoCompletion data with
  | .error stop => ((stopStatus stop, []), peer)
  | .ok completion =>
      match findRedirectedDevice peer completion.deviceId with
      | none => ((.protocolError, []), peer)
      | some device =>
          if device.deviceType ≠ deviceTypeFilesystem then ((.ok, []), peer)
          else
            match findCompletion peer completion.deviceId completion.completionId with
            | none => ((.protocolError, []), peer)
            | some (i, pending) =>
                if pending.generation ≠ peer.generation then ((.protocolError, []), peer)
                else if pending.cancelled then ((.ok, []), clearPending peer i)
                else
                  let event := completionEvent device pending completion
                  let parsed :=
                    if completion.ioStatus = ioStatusSuccess then parseSuccess pending data event
                    else pure event
                  match parsed with
                  | .error stop => ((stopStatus stop, []), peer)
                  | .ok event => commitCompletion peer i pending completion event

/-- The conversions of `common/charset.c`, which `iconv` carries out. One that fails does not
    return `LIBRDP_STATUS_OK`. -/
structure Charset where
  utf16leToUtf8 : Bytes → Except Status Bytes
  utf8ToUtf16le : Bytes → Except Status Bytes
  utf16leToUtf8_fails : ∀ data, utf16leToUtf8 data ≠ .error .ok
  utf8ToUtf16le_fails : ∀ data, utf8ToUtf16le data ≠ .error .ok

def hasZeroUnit : Bytes → Bool
  | b0 :: b1 :: rest => (b0 == 0 && b1 == 0) || hasZeroUnit rest
  | _ => false

/-- `rdp_server_drive_decode_announced_name`. -/
def decodeAnnouncedName (charset : Charset) (data : Bytes) : Except Status Bytes :=
  if data = [] then .error .invalidArgument
  else if data.length % 2 = 0 ∧ data.drop (data.length - 2) = [0, 0] then
    let units := data.take (data.length - 2)
    if hasZeroUnit units then .error .protocolError else charset.utf16leToUtf8 units
  else if data.getLast? ≠ some 0 then .error .protocolError
  else if data.dropLast.contains 0 then .error .protocolError
  else (charset.utf8ToUtf16le data.dropLast).map fun _ => data.dropLast

/-- The name under which a device is registered: a file system has one, and it is not empty. -/
def normalizedName (charset : Charset) (announce : DeviceAnnounce) :
    Except Status (Option Bytes) :=
  if announce.deviceType = deviceTypeFilesystem then do
    let name ←
      if announce.data ≠ [] then decodeAnnouncedName charset announce.data
      else .ok (announce.preferredDosName.takeWhile (· != 0))
    if name = [] then .error .protocolError else .ok (some name)
  else .ok none

/-- `rdp_server_redirected_device_store`. -/
def redirectedDeviceStore (charset : Charset) (peer : DrivePeer) (channelId : UInt16)
    (announce : DeviceAnnounce) : (Status × List DriveEvent) × DrivePeer :=
  if announce.deviceId = 0 then ((.invalidArgument, []), peer)
  else if (findRedirectedDevice peer announce.deviceId).isSome then ((.protocolError, []), peer)
  else if peer.deviceCount.toNat ≥ maxRedirectedDevices then ((.limitExceeded, []), peer)
  else
    match normalizedName charset announce with
    | .error status => ((status, []), peer)
    | .ok name =>
        match lookup (!·.present) peer.devices with
        | none => ((.limitExceeded, []), peer)
        | some (i, _) =>
            let slot : RedirectedDevice :=
              { present := true, deviceId := announce.deviceId, deviceType := announce.deviceType
                generation := peer.generation, channelId
                preferredName := announce.preferredDosName ++ [0], name }
            let peer :=
              { peer with devices := peer.devices.set i slot, deviceCount := peer.deviceCount + 1 }
            let events :=
              if slot.deviceType = deviceTypeFilesystem then emitDevice peer slot .deviceAdded
              else []
            ((.ok, events), peer)

/-- `rdp_server_redirected_device_remove`. -/
def redirectedDeviceRemove (peer : DrivePeer) (deviceId : UInt32) : List DriveEvent × DrivePeer :=
  match lookup (·.hasId deviceId) peer.devices with
  | none => ([], peer)
  | some (i, slot) =>
      let (events, peer) :=
        if slot.deviceType = deviceTypeFilesystem then
          let (cancelled, peer) := cancelDeviceRequests peer deviceId
          let peer := removeDeviceFiles peer deviceId
          (cancelled ++ emitDevice peer slot .deviceRemoved, peer)
        else ([], peer)
      (events,
        { peer with devices := peer.devices.set i {}, deviceCount := decrement peer.deviceCount })

/-- `rdp_server_drive_state_reset`. -/
def driveStateReset (peer : DrivePeer) (reconnect : Bool) : List DriveEvent × DrivePeer :=
  let events :=
    if reconnect then
      (peer.pending.filter fun pending => pending.present && !pending.cancelled).flatMap
          (emitCancel peer) ++
        (peer.devices.filter fun device =>
          device.present && device.deviceType == deviceTypeFilesystem).flatMap
          (emitDevice peer · .deviceRemoved)
    else []
  let generation :=
    if peer.generation = 0 then 1
    else if reconnect then skipZero peer.generation
    else peer.generation
  (events,
    { peer with
      devices := List.replicate maxRedirectedDevices {}, deviceCount := 0
      files := List.replicate maxDriveFiles {}, fileCount := 0
      pending := List.replicate maxDriveRequests {}, pendingCount := 0
      generation, nextCompletionId := 0 })

/-- `librdp_server_peer_set_drive_callback`. -/
def setDriveCallback (peer : DrivePeer) (callback : Bool) : Status × DrivePeer :=
  if peer.state = .closed then (.state, peer)
  else if !callback ∧ peer.pendingCount > 0 then (.state, peer)
  else (.ok, { peer with callback })

inductive DriveInput where
  | announce (channelId : UInt16) (announce : DeviceAnnounce)
  | remove (deviceId : UInt32)
  | submit (request : DriveRequest) (send : UInt16 → Bytes → Status)
  | cancel (requestId : UInt64)
  | completion (data : Bytes)
  | reconnect
  | setCallback (callback : Bool)
  | setState (state : PeerState)

structure DriveOutput where
  status : Status := .ok
  requestId : UInt64 := 0
  events : List DriveEvent := []
  deriving Repr, DecidableEq

def driveStep (charset : Charset) (peer : DrivePeer) : DriveInput → Exec (DriveOutput × DrivePeer)
  | .announce channelId announce =>
      let ((status, events), peer) := redirectedDeviceStore charset peer channelId announce
      .ok ({ status, events }, peer)
  | .remove deviceId =>
      let (events, peer) := redirectedDeviceRemove peer deviceId
      .ok ({ events }, peer)
  | .submit request send =>
      let ((status, requestId), peer) := submitDriveRequest peer request send
      .ok ({ status, requestId }, peer)
  | .cancel requestId =>
      let ((status, events), peer) := cancelDriveRequest peer requestId
      .ok ({ status, events }, peer)
  | .completion data =>
      let ((status, events), peer) := handleCompletion peer data
      .ok ({ status, events }, peer)
  | .reconnect =>
      let (events, peer) := driveStateReset peer true
      .ok ({ events }, peer)
  | .setCallback callback =>
      let (status, peer) := setDriveCallback peer callback
      .ok ({ status }, peer)
  | .setState state => .ok ({}, { peer with state })

def driveStart : DrivePeer := (driveStateReset {} false).2

end LibRdp.Server
