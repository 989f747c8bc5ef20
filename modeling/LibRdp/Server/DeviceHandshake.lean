import LibRdp.Server.DriveRequests
import LibRdp.Server.DeviceRedirection

/-! # The startup exchange of device redirection is enforced

A message moves the exchange on by one flag, refuses to, or changes the devices once the
exchange is over. What holds of the flags in every order of messages follows from the moves.
-/

namespace LibRdp.Server

open Machine Machine.Table Channels

/-! ## Runs -/

/-- What may happen to a peer that redirects devices: a message on the channel, an announcement by
    the server, a reset of the exchange, and what the application and the connection do to the
    drives. -/
inductive RedirectionInput where
  | message (channelId : UInt16) (data : Bytes) (send : ChannelSend)
  | start (advertised : List AdvertisedChannel) (random : Option UInt32) (send : ChannelSend)
  | reset
  | driveReset (reconnect : Bool)
  | submit (request : DriveRequest) (send : UInt16 → Bytes → Status)
  | cancel (requestId : UInt64)
  | setCallback (callback : Bool)
  | setState (state : PeerState)
  | setProviders (providers : UInt64)

def redirectionStep (charset : Charset) (peer : RedirectionPeer) :
    RedirectionInput → Exec (DriveOutput × RedirectionPeer)
  | .message channelId data send =>
      let ((status, events), peer) := updateRedirectedDevices charset peer send channelId data
      .ok ({ status, events }, peer)
  | .start advertised random send =>
      let (status, peer) := deviceRedirectionStart peer advertised random send
      .ok ({ status }, peer)
  | .reset => .ok ({}, deviceRedirectionReset peer)
  | .driveReset reconnect =>
      let (events, drive) := driveStateReset peer.drive reconnect
      .ok ({ events }, { peer with drive })
  | .submit request send =>
      let ((status, requestId), drive) := submitDriveRequest peer.drive request send
      .ok ({ status, requestId }, { peer with drive })
  | .cancel requestId =>
      let ((status, events), drive) := cancelDriveRequest peer.drive requestId
      .ok ({ status, events }, { peer with drive })
  | .setCallback callback =>
      let (status, drive) := setDriveCallback peer.drive callback
      .ok ({ status }, { peer with drive })
  | .setState state => .ok ({}, { peer with drive := { peer.drive with state } })
  | .setProviders providers => .ok ({}, { peer with providers })

/-- A peer as `librdp_server_accept` leaves it: drives and exchange are reset. -/
def redirectionStart (peer : RedirectionPeer) : RedirectionPeer :=
  deviceRedirectionReset { peer with drive := (driveStateReset peer.drive false).2 }

/-! ## Moves -/

inductive LifecycleMove (data : Bytes) (peer : RedirectionPeer) : RedirectionPeer → Prop where
  | same : LifecycleMove data peer peer
  | confirmed {sent : Bool} (announced : peer.announceSent = true)
      (first : peer.clientConfirmed = false)
      (kept : peer.capabilitiesSent = true → sent = true)
      (complete : sent = true → peer.capabilitiesSent = true ∨ peer.clientNamed = true) :
      LifecycleMove data peer { peer with clientConfirmed := true, capabilitiesSent := sent }
  | named {sent : Bool} (announced : peer.announceSent = true)
      (first : peer.clientNamed = false)
      (kept : peer.capabilitiesSent = true → sent = true)
      (complete : sent = true → peer.capabilitiesSent = true ∨ peer.clientConfirmed = true) :
      LifecycleMove data peer { peer with clientNamed := true, capabilitiesSent := sent }
  | received {types : UInt32} {general : DeviceGeneralCapability} {loggedOnSupported : Bool}
      {clientIdSent loggedOnSent ready : Bool}
      (sent : peer.capabilitiesSent = true) (first : peer.capabilitiesReceived = false)
      (accepted : validateDeviceRedirectionCapabilities peer data = .ok (types, general)) :
      LifecycleMove data peer
        { peer with
          clientIoCode1 := general.ioCode1, clientCapabilityTypes := types
          userLoggedOnSupported := loggedOnSupported, capabilitiesReceived := true
          clientIdSent, loggedOnSent, ready }

/-- The provider of a device type is ready and the client's capabilities have its bit. -/
def TypeSupported (peer : RedirectionPeer) (type : UInt32) : Prop :=
  deviceTypeProviderReady peer type = true ∧ deviceCapabilityReceived peer type = true

inductive RedirectionMove (peer : RedirectionPeer) :
    RedirectionInput → RedirectionPeer → Prop where
  | elsewhere {drive : DrivePeer} {providers : UInt64} (noReset : input ≠ .reset)
      (old : ∀ device ∈ drive.devices, device.present = true → device ∈ peer.drive.devices) :
      RedirectionMove peer input { peer with drive, providers }
  | announced {channelId versionMinor : UInt16} {clientId : UInt32} :
      RedirectionMove peer (.start advertised random send)
        { peer with channelId, versionMinor, clientId, announceSent := true }
  | reset : RedirectionMove peer .reset (deviceRedirectionReset peer)
  | lifecycle (moved : LifecycleMove data peer peer') :
      RedirectionMove peer (.message channelId data send) peer'
  | devices {drive : DrivePeer} {extensions : ExtensionStates} (ready : peer.ready = true)
      (registered : ∀ device ∈ drive.devices, device.present = true →
        device ∈ peer.drive.devices ∨ TypeSupported peer device.deviceType) :
      RedirectionMove peer (.message channelId data send) { peer with drive, extensions }

section Moves

variable {charset : Charset} {peer peer' : RedirectionPeer}

theorem sendDeviceRedirectionCapabilities_moves (peer : RedirectionPeer) (send : ChannelSend) :
    ∃ sent, (sendDeviceRedirectionCapabilities peer send).2 =
        { peer with capabilitiesSent := sent } ∧
      (peer.capabilitiesSent = true → sent = true) ∧
      (sent = true → peer.capabilitiesSent = true ∨
        (peer.clientConfirmed = true ∧ peer.clientNamed = true)) := by
  unfold sendDeviceRedirectionCapabilities
  have same : ∃ sent, peer = { peer with capabilitiesSent := sent } ∧
      (peer.capabilitiesSent = true → sent = true) ∧
      (sent = true → peer.capabilitiesSent = true ∨
        (peer.clientConfirmed = true ∧ peer.clientNamed = true)) :=
    ⟨peer.capabilitiesSent, rfl, id, .inl⟩
  split
  · exact same
  rename_i open'
  simp only [Bool.not_eq_true', not_or, Bool.not_eq_false] at open'
  dsimp only
  split
  · exact same
  split
  · exact ⟨true, rfl, fun _ => rfl, fun _ => .inr ⟨open'.1, open'.2.1⟩⟩
  · exact same

theorem finishLoggedOn_moves (peer : RedirectionPeer) (send : ChannelSend) :
    ∃ loggedOnSent ready, (finishLoggedOn peer send).2 = { peer with loggedOnSent, ready } := by
  unfold finishLoggedOn
  split
  · split
    · exact ⟨_, _, rfl⟩
    · exact ⟨_, _, rfl⟩
  · exact ⟨_, _, rfl⟩

theorem finishDeviceRedirectionHandshake_moves (peer : RedirectionPeer) (send : ChannelSend) :
    ∃ clientIdSent loggedOnSent ready, (finishDeviceRedirectionHandshake peer send).2 =
      { peer with clientIdSent, loggedOnSent, ready } := by
  unfold finishDeviceRedirectionHandshake
  split
  · split
    · exact ⟨_, _, _, rfl⟩
    · split
      · obtain ⟨loggedOnSent, ready, same⟩ :=
          finishLoggedOn_moves { peer with clientIdSent := true } send
        exact ⟨_, _, _, same⟩
      · exact ⟨_, _, _, rfl⟩
  · obtain ⟨loggedOnSent, ready, same⟩ := finishLoggedOn_moves peer send
    exact ⟨_, _, _, same⟩

theorem handleClientIdConfirm_moves (peer : RedirectionPeer) (send : ChannelSend) (data : Bytes)
    (announced : peer.announceSent = true) :
    LifecycleMove data peer (handleClientIdConfirm peer send data).2 := by
  unfold handleClientIdConfirm
  split
  · exact .same
  rename_i first
  split
  · exact .same
  split
  · exact .same
  obtain ⟨sent, same, kept, complete⟩ :=
    sendDeviceRedirectionCapabilities_moves { peer with clientConfirmed := true } send
  rw [same]
  exact .confirmed announced (by simpa using first) kept
    (fun now => (complete now).imp id And.right)

theorem handleClientName_moves (peer : RedirectionPeer) (send : ChannelSend) (data : Bytes)
    (announced : peer.announceSent = true) :
    LifecycleMove data peer (handleClientName peer send data).2 := by
  unfold handleClientName
  split
  · exact .same
  rename_i first
  split
  · exact .same
  split
  · exact .same
  obtain ⟨sent, same, kept, complete⟩ :=
    sendDeviceRedirectionCapabilities_moves { peer with clientNamed := true } send
  rw [same]
  exact .named announced (by simpa using first) kept
    (fun now => (complete now).imp id And.left)

theorem handleClientCapability_moves (peer : RedirectionPeer) (send : ChannelSend) (data : Bytes) :
    LifecycleMove data peer (handleClientCapability peer send data).2 := by
  unfold handleClientCapability
  split
  · exact .same
  rename_i open'
  simp only [Bool.not_eq_true', not_or, Bool.not_eq_false, Bool.not_eq_true] at open'
  split
  · exact .same
  rename_i types general accepted
  obtain ⟨_, _, _, same⟩ := finishDeviceRedirectionHandshake_moves
    { peer with
      clientIoCode1 := general.ioCode1, clientCapabilityTypes := types
      userLoggedOnSupported := general.extendedPdu &&& extUserLoggedOn != 0
      capabilitiesReceived := true } send
  rw [same]
  exact .received open'.1 open'.2 accepted

variable {data : Bytes} {header : DeviceHeader} {out : DriveOutput}

variable {send : ChannelSend} {channelId : UInt16} {drive : DrivePeer}

theorem handleDeviceRedirectionLifecycle_moves {status : Status}
    (done : handleDeviceRedirectionLifecycle peer send channelId data header = (status, peer')) :
    LifecycleMove data peer peer' ∧
      ((header.packetId = pakidClientIdConfirm ∨ header.packetId = pakidClientName ∨
        header.packetId = pakidClientCapability) ∨
        peer' = peer ∧ (status = .ok → peer.ready = true)) := by
  unfold handleDeviceRedirectionLifecycle at done
  split at done
  · cases done
    refine ⟨.same, .inr ⟨rfl, ?_⟩⟩
    cases peer.ready <;> simp
  split at done
  · cases done
    exact ⟨.same, .inr ⟨rfl, nofun⟩⟩
  rename_i open'
  simp only [Bool.not_eq_true', not_or, Bool.not_eq_false] at open'
  split at done
  · rename_i kind
    have moved := handleClientIdConfirm_moves peer send data open'.2.1
    rw [done] at moved
    exact ⟨moved, .inl (.inl kind)⟩
  split at done
  · rename_i kind
    have moved := handleClientName_moves peer send data open'.2.1
    rw [done] at moved
    exact ⟨moved, .inl (.inr (.inl kind))⟩
  split at done
  · rename_i kind
    have moved := handleClientCapability_moves peer send data
    rw [done] at moved
    exact ⟨moved, .inl (.inr (.inr kind))⟩
  split at done
  · cases done
    exact ⟨.same, .inr ⟨rfl, nofun⟩⟩
  rename_i ready
  split at done
  · cases done
    exact ⟨.same, .inr ⟨rfl, fun _ => by simpa using ready⟩⟩
  · cases done
    exact ⟨.same, .inr ⟨rfl, nofun⟩⟩

theorem DriveMove.registered {drive' : DrivePeer} {input : DriveInput}
    (moved : DriveMove drive input out drive') {device : RedirectedDevice}
    (held : device ∈ drive'.devices) (present : device.present = true) :
    device ∈ drive.devices ∨ ∃ channelId announce, input = .announce channelId announce ∧
      device.deviceType = announce.deviceType := by
  cases moved with
  | quiet => exact .inl held
  | added _ _ _ _ _ type =>
    cases List.mem_or_eq_of_mem_set held with
    | inl before => exact .inl before
    | inr same => exact .inr ⟨_, _, rfl, by rw [same, type]⟩
  | dropped =>
    cases List.mem_or_eq_of_mem_set held with
    | inl before => exact .inl before
    | inr blank => simp [blank] at present
  | removed _ _ dropped =>
    rw [dropped] at held
    cases List.mem_or_eq_of_mem_set held with
    | inl before => exact .inl before
    | inr blank => simp [blank] at present
  | submitted => exact .inl held
  | cancelled => exact .inl held
  | absorbed => exact .inl held
  | completed _ _ _ files =>
    rw [← files.sameDrives.devices]
    exact .inl held
  | reset =>
    have blank := List.eq_of_mem_replicate held
    simp [blank] at present

theorem announceDevices_moves (send : ChannelSend) (channelId : UInt16) (i : Nat)
    (peer : RedirectionPeer) (list : List DeviceAnnounce) :
    ∃ drive extensions, (announceDevices charset send channelId i peer list).2 =
        { peer with drive, extensions } ∧
      ∀ device ∈ drive.devices, device.present = true →
        device ∈ peer.drive.devices ∨ TypeSupported peer device.deviceType := by
  induction list generalizing i peer with
  | nil => exact ⟨peer.drive, peer.extensions, rfl, fun _ held _ => .inl held⟩
  | cons announce rest ih =>
    have same : ∃ drive extensions, peer = { peer with drive, extensions } ∧
        ∀ device ∈ drive.devices, device.present = true →
          device ∈ peer.drive.devices ∨ TypeSupported peer device.deviceType :=
      ⟨peer.drive, peer.extensions, rfl, fun _ held _ => .inl held⟩
    simp only [announceDevices]
    split
    · split
      · exact ih (i + 1) peer
      · exact same
    rename_i supported
    simp only [Bool.not_eq_true', Bool.not_eq_false, deviceSupported,
      Bool.and_eq_true] at supported
    split
    · rename_i events drive stored
      obtain ⟨drive', extensions, changed, registered⟩ := ih (i + 1)
        { peer with
          drive
          extensions := extensionStateMarkOpen peer.extensions
            (redirectedDeviceFamily announce.deviceType) channelId 0 0 }
      refine ⟨drive', extensions, changed, ?_⟩
      intro device held present
      cases registered device held present with
      | inr now => exact .inr now
      | inl before =>
        cases (redirectedDeviceStore_moves stored).registered before present with
        | inl before => exact .inl before
        | inr added =>
          obtain ⟨_, _, same, type⟩ := added
          cases same
          rw [type]
          exact .inr supported
    · exact same

theorem removeDevices_cons (peer : RedirectionPeer) (deviceId : UInt32) (rest : List UInt32) :
    ∃ extensions, (removeDevices peer (deviceId :: rest)).2 =
        (removeDevices { peer with
          drive := (redirectedDeviceRemove peer.drive deviceId).2, extensions } rest).2 ∧
      (findRedirectedDevice peer.drive deviceId = none → extensions = peer.extensions) ∧
      ∀ device, findRedirectedDevice peer.drive deviceId = some device → extensions =
        extensionStateMarkClose peer.extensions (redirectedDeviceFamily device.deviceType) := by
  refine ⟨_, rfl, ?_, ?_⟩
  · intro missing
    rw [missing]
  · intro device found
    rw [found]

theorem removeDevices_moves (peer : RedirectionPeer) (ids : List UInt32) :
    ∃ drive extensions, (removeDevices peer ids).2 = { peer with drive, extensions } ∧
      ∀ device ∈ drive.devices, device.present = true → device ∈ peer.drive.devices := by
  induction ids generalizing peer with
  | nil => exact ⟨peer.drive, peer.extensions, rfl, fun _ held _ => held⟩
  | cons deviceId rest ih =>
    obtain ⟨left, step, -⟩ := removeDevices_cons peer deviceId rest
    obtain ⟨drive, extensions, changed, old⟩ := ih
      { peer with drive := (redirectedDeviceRemove peer.drive deviceId).2, extensions := left }
    refine ⟨drive, extensions, step.trans changed, ?_⟩
    intro device held present
    cases (redirectedDeviceRemove_moves rfl).registered (old device held present) present with
    | inl before => exact before
    | inr added =>
      obtain ⟨_, _, other, _⟩ := added
      cases other

theorem updateRedirectedDevices_moves (send : ChannelSend) (channelId : UInt16) (data : Bytes) :
    RedirectionMove peer (.message channelId data send)
      (updateRedirectedDevices charset peer send channelId data).2 := by
  unfold updateRedirectedDevices
  split
  · exact .lifecycle .same
  rename_i header _ _
  split
  · exact .lifecycle .same
  obtain ⟨⟨status, next⟩, done⟩ :
      ∃ r, handleDeviceRedirectionLifecycle peer send channelId data header = r := ⟨_, rfl⟩
  obtain ⟨moved, kind⟩ := handleDeviceRedirectionLifecycle_moves done
  simp only [done]
  split
  · exact .lifecycle moved
  rename_i ok
  simp only [not_or, not_not] at ok
  unfold applyDeviceMessage
  cases kind with
  | inl exchange =>
    have quiet : header.packetId ≠ pakidDeviceListAnnounce ∧
        header.packetId ≠ pakidDeviceListRemove ∧
        header.packetId ≠ pakidDeviceIoCompletion := by
      rcases exchange with kind | kind | kind <;> rw [kind] <;> decide
    rw [if_neg quiet.1, if_neg quiet.2.1, if_neg quiet.2.2]
    exact .lifecycle moved
  | inr through =>
    obtain ⟨rfl, ready⟩ := through
    split
    · split
      · exact .lifecycle .same
      · rename_i list _
        obtain ⟨_, _, changed, registered⟩ :=
          @announceDevices_moves charset send channelId 0 next list
        rw [changed]
        exact .devices (ready ok.1) registered
    split
    · split
      · exact .lifecycle .same
      · rename_i ids _
        obtain ⟨_, _, changed, old⟩ := removeDevices_moves next ids
        rw [changed]
        exact .devices (ready ok.1) (fun device held present =>
          .inl (old device held present))
    split
    · refine .devices (ready ok.1) ?_
      intro device held present
      cases (handleCompletion_moves rfl).registered held present with
      | inl before => exact .inl before
      | inr added =>
        obtain ⟨_, _, other, _⟩ := added
        cases other
    · exact .lifecycle .same

variable {input : RedirectionInput} {flag : (RedirectionPeer → Bool) × UInt16}

theorem RedirectionMove.of_drive {driveInput : DriveInput} (noReset : input ≠ .reset)
    (noAnnounce : ∀ channelId announce, driveInput ≠ .announce channelId announce)
    (moved : DriveMove peer.drive driveInput out drive) :
    RedirectionMove peer input { peer with drive } := by
  refine @RedirectionMove.elsewhere peer input drive peer.providers noReset ?_
  intro device held present
  cases moved.registered held present with
  | inl before => exact before
  | inr added =>
    obtain ⟨channelId, announce, same, _⟩ := added
    exact absurd same (noAnnounce channelId announce)

theorem deviceRedirectionStart_moves (advertised : List AdvertisedChannel)
    (random : Option UInt32) (send : ChannelSend) :
    RedirectionMove peer (.start advertised random send)
      (deviceRedirectionStart peer advertised random send).2 := by
  have same : RedirectionMove peer (.start advertised random send) peer :=
    @RedirectionMove.elsewhere peer _ peer.drive peer.providers nofun (fun _ held _ => held)
  unfold deviceRedirectionStart
  split
  · exact same
  split
  · exact same
  dsimp only
  split
  · exact same
  split
  · exact same
  split
  · exact same
  split
  · exact same
  split
  · exact .announced
  · exact same

theorem redirectionStep_moves (taken : redirectionStep charset peer input = .ok (out, peer')) :
    RedirectionMove peer input peer' := by
  cases input with
  | message channelId data send =>
    cases taken
    exact updateRedirectedDevices_moves send channelId data
  | start advertised random send =>
    cases taken
    exact deviceRedirectionStart_moves advertised random send
  | reset =>
    cases taken
    exact .reset
  | driveReset reconnect =>
    cases taken
    refine @RedirectionMove.elsewhere peer _ _ peer.providers nofun ?_
    intro device held present
    rw [List.eq_of_mem_replicate held] at present
    cases present
  | submit request send =>
    cases taken
    exact .of_drive nofun (fun _ _ other => by cases other) (submitDriveRequest_moves rfl)
  | cancel requestId =>
    cases taken
    exact .of_drive nofun (fun _ _ other => by cases other) (cancelDriveRequest_moves rfl)
  | setCallback callback =>
    cases taken
    have moved : DriveMove peer.drive (.setCallback callback) _
        (setDriveCallback peer.drive callback).2 := @driveStep_moves charset _ _ _ _ rfl
    exact .of_drive nofun (fun _ _ other => by cases other) moved
  | setState state =>
    cases taken
    exact @RedirectionMove.elsewhere peer _ _ peer.providers nofun (fun _ held _ => held)
  | setProviders providers =>
    cases taken
    exact @RedirectionMove.elsewhere peer _ peer.drive providers nofun (fun _ held _ => held)

/-! ## What the moves keep -/

structure HandshakeOrder (peer : RedirectionPeer) : Prop where
  ready : peer.ready = true → peer.capabilitiesReceived = true
  received : peer.capabilitiesReceived = true → peer.capabilitiesSent = true
  sent : peer.capabilitiesSent = true → peer.clientConfirmed = true ∧ peer.clientNamed = true
  confirmed : peer.clientConfirmed = true → peer.announceSent = true
  named : peer.clientNamed = true → peer.announceSent = true

theorem LifecycleMove.order (moved : LifecycleMove data peer peer') (order : HandshakeOrder peer) :
    HandshakeOrder peer' := by
  cases moved with
  | same => exact order
  | confirmed announced first kept complete =>
    refine { order with received := ?_, sent := ?_, confirmed := fun _ => announced }
    · exact fun received => kept (order.received received)
    · intro sent
      cases complete sent with
      | inl before => exact ⟨rfl, (order.sent before).2⟩
      | inr named => exact ⟨rfl, named⟩
  | named announced first kept complete =>
    refine { order with received := ?_, sent := ?_, named := fun _ => announced }
    · exact fun received => kept (order.received received)
    · intro sent
      cases complete sent with
      | inl before => exact ⟨(order.sent before).1, rfl⟩
      | inr confirmed => exact ⟨confirmed, rfl⟩
  | received sent first accepted =>
    exact { order with ready := fun _ => rfl, received := fun _ => sent }

theorem RedirectionMove.order (moved : RedirectionMove peer input peer')
    (order : HandshakeOrder peer) : HandshakeOrder peer' := by
  cases moved with
  | elsewhere => exact { order with }
  | announced => exact { order with confirmed := fun _ => rfl, named := fun _ => rfl }
  | reset => exact ⟨nofun, nofun, nofun, nofun, nofun⟩
  | lifecycle moved => exact moved.order order
  | devices => exact { order with }

/-- The flags that a message of the client sets, with the message that sets each. -/
def clientFlags : List ((RedirectionPeer → Bool) × UInt16) :=
  [(RedirectionPeer.clientConfirmed, pakidClientIdConfirm),
    (RedirectionPeer.clientNamed, pakidClientName),
    (RedirectionPeer.capabilitiesReceived, pakidClientCapability)]

theorem LifecycleMove.keeps (moved : LifecycleMove data peer peer') (isFlag : flag ∈ clientFlags)
    (set : flag.1 peer = true) : flag.1 peer' = true := by
  simp only [clientFlags, List.mem_cons, List.not_mem_nil, or_false] at isFlag
  cases moved with
  | same => exact set
  | confirmed =>
    rcases isFlag with rfl | rfl | rfl
    · rfl
    · exact set
    · exact set
  | named =>
    rcases isFlag with rfl | rfl | rfl
    · exact set
    · rfl
    · exact set
  | received =>
    rcases isFlag with rfl | rfl | rfl
    · exact set
    · exact set
    · rfl

theorem RedirectionMove.keeps (moved : RedirectionMove peer input peer')
    (noReset : input ≠ .reset) (isFlag : flag ∈ clientFlags) (set : flag.1 peer = true) :
    flag.1 peer' = true := by
  have any := isFlag
  simp only [clientFlags, List.mem_cons, List.not_mem_nil, or_false] at isFlag
  cases moved with
  | elsewhere => rcases isFlag with rfl | rfl | rfl <;> exact set
  | announced => rcases isFlag with rfl | rfl | rfl <;> exact set
  | reset => exact absurd rfl noReset
  | lifecycle moved => exact moved.keeps any set
  | devices => rcases isFlag with rfl | rfl | rfl <;> exact set

theorem RedirectionMove.sets (moved : RedirectionMove peer input peer')
    (isFlag : flag ∈ clientFlags) (unset : flag.1 peer = false) (set : flag.1 peer' = true) :
    ∃ channelId data send, input = .message channelId data send := by
  simp only [clientFlags, List.mem_cons, List.not_mem_nil, or_false] at isFlag
  cases moved with
  | elsewhere => rcases isFlag with rfl | rfl | rfl <;> exact absurd (unset.symm.trans set) nofun
  | announced => rcases isFlag with rfl | rfl | rfl <;> exact absurd (unset.symm.trans set) nofun
  | reset => rcases isFlag with rfl | rfl | rfl <;> cases set
  | lifecycle moved => exact ⟨_, _, _, rfl⟩
  | devices => exact ⟨_, _, _, rfl⟩

theorem updateRedirectedDevices_again {rest : Bytes} (isFlag : flag ∈ clientFlags)
    (set : flag.1 peer = true) (read : deviceParseHeader data = .ok (header, rest))
    (core : header.component = componentCore) (kind : header.packetId = flag.2) :
    updateRedirectedDevices charset peer send channelId data = ((.protocolError, []), peer) := by
  have refused : handleDeviceRedirectionLifecycle peer send channelId data header =
      (.protocolError, peer) := by
    have printer : componentCore ≠ componentPrinter := by decide
    simp only [handleDeviceRedirectionLifecycle, core, printer, if_false, ne_eq,
      not_true_eq_false, false_or]
    split
    · rfl
    simp only [clientFlags, List.mem_cons, List.not_mem_nil, or_false] at isFlag
    rcases isFlag with rfl | rfl | rfl
    · rw [if_pos kind, handleClientIdConfirm, if_pos set]
    · rw [if_neg (by rw [kind]; decide), if_pos kind, handleClientName, if_pos set]
    · rw [if_neg (by rw [kind]; decide), if_neg (by rw [kind]; decide), if_pos kind,
        handleClientCapability, if_pos (.inr set)]
  simp only [updateRedirectedDevices, read, core, refused, ne_eq, not_true_eq_false, false_and,
    if_false, reduceCtorEq, not_false_eq_true, true_or, if_true]

end Moves

/-! ## Whole runs -/

/-- The input that follows `before` sets a flag. -/
def SetsFlag (charset : Charset) (start : RedirectionPeer) (flag : RedirectionPeer → Bool)
    (before : List RedirectionInput) (input : RedirectionInput) : Prop :=
  ∃ outs peer out peer', run (redirectionStep charset) start before = .ok (outs, peer) ∧
    redirectionStep charset peer input = .ok (out, peer') ∧ flag peer = false ∧ flag peer' = true

/-- The capabilities of a peer are those of a message that was accepted since the last reset. -/
def CapabilitiesAccepted (charset : Charset) (start : RedirectionPeer)
    (before : List RedirectionInput) (peer : RedirectionPeer) : Prop :=
  ∃ earlier channelId data send later outs peer₁ general,
    before = earlier ++ .message channelId data send :: later ∧ .reset ∉ later ∧
    run (redirectionStep charset) start earlier = .ok (outs, peer₁) ∧
    SetsFlag charset start RedirectionPeer.capabilitiesReceived earlier
      (.message channelId data send) ∧
    validateDeviceRedirectionCapabilities peer₁ data = .ok (peer.clientCapabilityTypes, general)

/-- An input of the run stored a device, which is registered ever since: the exchange was over, the
    provider of the device type was ready, and its capability was in the set that the client's
    message had. -/
def StoredWhenReady (charset : Charset) (start : RedirectionPeer)
    (inputs : List RedirectionInput) (device : RedirectedDevice) : Prop :=
  ∃ before input after outs peer out peer',
    inputs = before ++ input :: after ∧
    run (redirectionStep charset) start before = .ok (outs, peer) ∧
    redirectionStep charset peer input = .ok (out, peer') ∧
    device ∉ peer.drive.devices ∧ device ∈ peer'.drive.devices ∧
    (∀ middle outs₁ peer₁, middle <+: after →
      run (redirectionStep charset) peer' middle = .ok (outs₁, peer₁) →
      device ∈ peer₁.drive.devices) ∧
    peer.ready = true ∧ deviceTypeProviderReady peer device.deviceType = true ∧
    deviceCapabilityReceived peer device.deviceType = true ∧
    CapabilitiesAccepted charset start before peer

section Runs

variable {charset : Charset} {start peer peer' : RedirectionPeer}
  {inputs : List RedirectionInput} {outs : List DriveOutput}

theorem handshakeOrder_run (order : HandshakeOrder start)
    (ran : run (redirectionStep charset) start inputs = .ok (outs, peer)) :
    HandshakeOrder peer := by
  apply run_invariant HandshakeOrder _ order ran
  intro peer input out peer' _ order taken
  exact (redirectionStep_moves taken).order order

variable {input : RedirectionInput}

theorem CapabilitiesAccepted.extend (accepted : CapabilitiesAccepted charset start inputs peer)
    (same : peer'.clientCapabilityTypes = peer.clientCapabilityTypes) (noReset : input ≠ .reset) :
    CapabilitiesAccepted charset start (inputs ++ [input]) peer' := by
  obtain ⟨earlier, channelId, data, send, later, outs, peer₁, general, rfl, quiet, ran, sets,
    valid⟩ := accepted
  refine ⟨earlier, channelId, data, send, later ++ [input], outs, peer₁, general, ?_, ?_, ran,
    sets, ?_⟩
  · rw [List.append_assoc, List.cons_append]
  · intro held
    cases List.mem_append.mp held with
    | inl before => exact quiet before
    | inr last => exact noReset (List.mem_singleton.mp last).symm
  · rw [same]
    exact valid

theorem capabilitiesAccepted_run (unset : start.capabilitiesReceived = false)
    (ran : run (redirectionStep charset) start inputs = .ok (outs, peer)) :
    peer.capabilitiesReceived = true → CapabilitiesAccepted charset start inputs peer := by
  apply run_history (fun inputs peer => peer.capabilitiesReceived = true →
    CapabilitiesAccepted charset start inputs peer) _ _ ran
  · intro set
    exact absurd (unset.symm.trans set) nofun
  · intro before outs peer input out peer' ran accepted taken set
    have sets : SetsFlag charset start RedirectionPeer.capabilitiesReceived before input ∨
        peer.capabilitiesReceived = true := by
      cases was : peer.capabilitiesReceived with
      | false => exact .inl ⟨outs, peer, out, peer', ran, taken, was, set⟩
      | true => exact .inr rfl
    cases redirectionStep_moves taken with
    | elsewhere noReset => exact (accepted set).extend rfl noReset
    | announced => exact (accepted set).extend rfl nofun
    | reset => cases set
    | devices => exact (accepted set).extend rfl nofun
    | lifecycle moved =>
      cases moved with
      | same => exact (accepted set).extend rfl nofun
      | confirmed => exact (accepted set).extend rfl nofun
      | named => exact (accepted set).extend rfl nofun
      | received _ first valid =>
        cases sets with
        | inr was => exact absurd (first.symm.trans was) nofun
        | inl sets =>
          exact ⟨before, _, _, _, [], outs, peer, _, rfl, nofun, ran, sets, valid⟩

theorem RedirectionMove.stores (moved : RedirectionMove peer input peer')
    {device : RedirectedDevice} (fresh : device ∉ peer.drive.devices)
    (held : device ∈ peer'.drive.devices) (present : device.present = true) :
    peer.ready = true ∧ TypeSupported peer device.deviceType := by
  cases moved with
  | elsewhere _ old => exact absurd (old device held present) fresh
  | announced => exact absurd held fresh
  | reset => exact absurd held fresh
  | lifecycle moved => cases moved <;> exact absurd held fresh
  | devices ready registered =>
    cases registered device held present with
    | inl before => exact absurd before fresh
    | inr supported => exact ⟨ready, supported⟩

theorem storedWhenReady_run (order : HandshakeOrder start)
    (unset : start.capabilitiesReceived = false)
    (empty : ∀ device ∈ start.drive.devices, device.present = false)
    (ran : run (redirectionStep charset) start inputs = .ok (outs, peer)) :
    ∀ device ∈ peer.drive.devices, device.present = true →
      StoredWhenReady charset start inputs device := by
  apply run_history (fun inputs peer => ∀ device ∈ peer.drive.devices, device.present = true →
    StoredWhenReady charset start inputs device) _ _ ran
  · intro device held present
    exact absurd ((empty device held).symm.trans present) nofun
  · intro before outs peer input out peer' ran stored taken device held present
    by_cases old : device ∈ peer.drive.devices
    · obtain ⟨earlier, cause, later, outs₁, peer₁, out₁, peer₂, rfl, ran₁, taken₁, fresh, held₁,
        since, rest⟩ := stored device old present
      refine ⟨earlier, cause, later ++ [input], outs₁, peer₁, out₁, peer₂, ?_, ran₁, taken₁, fresh,
        held₁, ?_, rest⟩
      · rw [List.append_assoc, List.cons_append]
      intro middle outs₂ peer₃ inside ran₂
      rcases List.prefix_concat_iff.mp inside with rfl | inside
      · have whole := run_append (run_after ran₁ taken₁ ran) (run_singleton taken)
        rw [ran₂] at whole
        cases whole
        exact held
      · exact since middle outs₂ peer₃ inside ran₂
    obtain ⟨ready, provider, capability⟩ :=
      (redirectionStep_moves taken).stores old held present
    have received := (handshakeOrder_run order ran).ready ready
    refine ⟨before, input, [], outs, peer, out, peer', rfl, ran, taken, old, held, ?_, ready,
      provider, capability, capabilitiesAccepted_run unset ran received⟩
    intro middle outs₁ peer₁ inside ran₁
    rw [List.prefix_nil.mp inside] at ran₁
    cases ran₁
    exact held

theorem setsFlag_once {flag : (RedirectionPeer → Bool) × UInt16} (isFlag : flag ∈ clientFlags)
    {before middle : List RedirectionInput} {first second : RedirectionInput}
    (sets : SetsFlag charset start flag.1 before first)
    (again : SetsFlag charset start flag.1 (before ++ first :: middle) second) :
    .reset ∈ middle := by
  obtain ⟨outs, peer, out, peer', ran, taken, _, set⟩ := sets
  obtain ⟨outs₂, peer₂, _, _, ran₂, _, unset, _⟩ := again
  have later := run_after ran taken ran₂
  by_cases reset : .reset ∈ middle
  · exact reset
  have kept : flag.1 peer₂ = true := by
    apply run_invariant (fun peer => flag.1 peer = true) _ set later
    intro peer input out peer' inside set taken
    exact (redirectionStep_moves taken).keeps (fun same => reset (same ▸ inside)) isFlag set
  exact absurd (unset.symm.trans kept) nofun

end Runs

/-- The startup exchange is enforced for every order of messages. In every state that a run leads
    to, each flag presupposes the ones before it, and every device in the registry was stored
    when the exchange was over, its provider ready and its capability accepted. The flags that the
    client's messages set are set by messages only, by one message between two resets, and a further
    message of the kind is refused. -/
theorem device_handshake_enforced (charset : Charset) (accepted : RedirectionPeer)
    {inputs : List RedirectionInput} {outs : List DriveOutput} {peer : RedirectionPeer}
    (ran : run (redirectionStep charset) (redirectionStart accepted) inputs = .ok (outs, peer)) :
    HandshakeOrder peer ∧
    (∀ device ∈ peer.drive.devices, device.present = true →
      StoredWhenReady charset (redirectionStart accepted) inputs device) ∧
    ∀ flag ∈ clientFlags,
      (∀ before input, SetsFlag charset (redirectionStart accepted) flag.1 before input →
        ∃ channelId data send, input = .message channelId data send) ∧
      (∀ before first middle second,
        SetsFlag charset (redirectionStart accepted) flag.1 before first →
        SetsFlag charset (redirectionStart accepted) flag.1 (before ++ first :: middle) second →
        .reset ∈ middle) ∧
      (flag.1 peer = true → ∀ channelId data send header rest,
        deviceParseHeader data = .ok (header, rest) → header.component = componentCore →
        header.packetId = flag.2 →
        redirectionStep charset peer (.message channelId data send) =
          .ok ({ status := .protocolError }, peer)) := by
  have order : HandshakeOrder (redirectionStart accepted) := ⟨nofun, nofun, nofun, nofun, nofun⟩
  have empty : ∀ device ∈ (redirectionStart accepted).drive.devices, device.present = false := by
    intro device held
    rw [List.eq_of_mem_replicate held]
  refine ⟨handshakeOrder_run order ran, storedWhenReady_run order rfl empty ran, ?_⟩
  intro flag isFlag
  refine ⟨?_, ?_, ?_⟩
  · intro before input sets
    obtain ⟨_, _, _, _, _, taken, unset, set⟩ := sets
    exact (redirectionStep_moves taken).sets isFlag unset set
  · intro before first middle second sets again
    exact setsFlag_once isFlag sets again
  · intro set channelId data send header rest read core kind
    simp only [redirectionStep, updateRedirectedDevices_again isFlag set read core kind]

/-! ## A whole exchange -/

def allSent : ChannelSend := fun _ _ _ => .ok

def driveServer : RedirectionPeer := { drive := {}, providers := 0x800000 }

/-- The exchange with client id 5 on channel 7, the name sent before the confirmation. -/
def driveExchange : List RedirectionInput :=
  [.setState .active, .setCallback true,
    .start [{ joined := true, name := nameBytes "rdpdr", channelId := 7 }] (some 5) allSent,
    .message 7 (deviceWriteHeader pakidClientName ++ [1, 0, 0, 0, 0, 0, 0, 0, 2, 0, 0, 0, 0, 0])
      allSent,
    .message 7 (deviceWriteHeader pakidClientIdConfirm ++ [1, 0, 13, 0, 5, 0, 0, 0]) allSent,
    .message 7 (deviceWriteHeader pakidClientCapability ++ [2, 0, 0, 0] ++
      deviceWriteGeneralCapability 13 ++ deviceWriteCapability true capDrive 2) allSent]

def driveReady : RedirectionPeer :=
  { drive := { driveStart with state := .active, callback := true }, providers := 0x800000
    channelId := 7, versionMinor := 13, clientId := 5, clientIoCode1 := defaultIoCode1
    clientCapabilityTypes := 18, announceSent := true, clientConfirmed := true
    clientNamed := true, capabilitiesSent := true, capabilitiesReceived := true
    clientIdSent := true, loggedOnSent := true, userLoggedOnSupported := true, ready := true }

theorem driveExchange_run : run (redirectionStep noCharset) (redirectionStart driveServer)
    driveExchange = .ok (List.replicate 6 {}, driveReady) := rfl

/-- A file system named `C` in a list of devices. -/
def driveEntry (deviceId : UInt8) : Bytes :=
  [8, 0, 0, 0, deviceId, 0, 0, 0, 0x43, 0, 0, 0, 0, 0, 0, 0, 0, 0, 0, 0]

def driveList : RedirectionInput :=
  .message 7 (deviceWriteHeader pakidDeviceListAnnounce ++ [1, 0, 0, 0] ++ driveEntry 1) allSent

theorem device_handshake_enforced_drive :
    HandshakeOrder driveReady ∧
      ∃ device : RedirectedDevice, device.present = true ∧ device.deviceId = 1 ∧
        StoredWhenReady noCharset (redirectionStart driveServer) (driveExchange ++ [driveList])
          device := by
  refine ⟨(device_handshake_enforced noCharset driveServer driveExchange_run).1, ?_⟩
  have ran := run_append driveExchange_run
    (run_singleton (rfl : redirectionStep noCharset driveReady driveList = .ok _))
  refine ⟨_, ?_, ?_, (device_handshake_enforced noCharset driveServer ran).2.1 _
    (List.mem_of_getElem? (rfl : _[0]? = some _)) ?_⟩ <;> rfl

end LibRdp.Server
