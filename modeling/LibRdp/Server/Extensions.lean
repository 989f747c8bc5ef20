import LibRdp.Server.Peer

/-! # Extension families of a server peer

What a peer offers beyond the desktop is sorted into families, and one record a family
summarises what is open, pending and closed. A static channel, several dynamic channels or
several devices may carry the same family.
-/

namespace LibRdp.Server

/-- `librdp_server_extension_family`. -/
inductive ExtensionFamily where
  | unknown
  | clipboard
  | deviceRedirection
  | audioOutput
  | audioInput
  | video
  | camera
  | smartcard
  | usb
  | pnp
  | webauthn
  | rail
  | cr2
  | echo
  | displayControl
  | graphics
  | coreInput
  | touchInput
  | mouseCursor
  | authRedirection
  | telemetry
  | desktopComposition
  | multiparty
  | filesystem
  | printer
  | serialPort
  | parallelPort
  | geometryTracking
  deriving Repr, DecidableEq

def ExtensionFamily.code (family : ExtensionFamily) : Nat := family.ctorIdx

/-- `rdp_server_extension_family_valid`. -/
def ExtensionFamily.valid (family : ExtensionFamily) : Bool := family != .unknown

/-- `rdp_server_extension_provider_ready`. -/
def extensionProviderReady (providers : UInt64) (family : ExtensionFamily) : Bool :=
  family.valid && providers &&& (1 <<< UInt64.ofNat family.code) != 0

def nameBytes (name : String) : Bytes := name.toList.map fun c => UInt8.ofNat c.toNat

def channelNames : List (String × ExtensionFamily) :=
  [("cliprdr", .clipboard), ("rdpdr", .deviceRedirection), ("PNPDR", .pnp),
    ("rdpsnd", .audioOutput), ("AUDIO_INPUT", .audioInput), ("TSMF", .video),
    ("Microsoft::Windows::RDS::Video::Control::v08.01", .video),
    ("Microsoft::Windows::RDS::Video::Data::v08.01", .video),
    ("RDCamera_Device_Enumerator", .camera), ("rdpecam", .camera), ("urbdrc", .usb),
    ("WebAuthN_Channel", .webauthn), ("rail", .rail), ("dwmprox", .cr2), ("ECHO", .echo),
    ("Microsoft::Windows::RDS::DisplayControl", .displayControl),
    ("Microsoft::Windows::RDS::Graphics", .graphics),
    ("Microsoft::Windows::RDS::CoreInput", .coreInput),
    ("Microsoft::Windows::RDS::Input", .touchInput),
    ("Microsoft::Windows::RDS::MouseCursor", .mouseCursor),
    ("Microsoft::Windows::RDS::AuthRedirection", .authRedirection),
    ("telemetry", .telemetry), ("Microsoft::Windows::RDS::Telemetry", .telemetry),
    ("encomsp", .multiparty)]

/-- The family of `rdp_server_extension_classify_name`. -/
def extensionClassifyName (name : Bytes) : ExtensionFamily :=
  match channelNames.find? fun entry => nameBytes entry.1 == name with
  | some entry => entry.2
  | none => .unknown

/-- `librdp_server_extension_state`, less `capability_seen`, which nothing reads, and what only
    describes the family. -/
structure ExtensionState where
  negotiated : Bool := false
  active : Bool := false
  isOpen : Bool := false
  pendingOpen : Bool := false
  closing : Bool := false
  cancelled : Bool := false
  staticChannelId : UInt16 := 0
  dynamicChannelId : UInt32 := 0
  dynamicPriority : Nat := 0
  pendingRequests : UInt32 := 0
  openCount : UInt32 := 0
  closeCount : UInt32 := 0
  reconnectGeneration : UInt32 := 0
  deriving Repr, DecidableEq

def saturate (count : UInt32) : UInt32 := if count ≠ 0xffffffff then count + 1 else count

abbrev ExtensionStates := ExtensionFamily → ExtensionState

/-- The record of a family is rewritten; the unknown family has none. -/
def ExtensionStates.modify (states : ExtensionStates) (family : ExtensionFamily)
    (f : ExtensionState → ExtensionState) : ExtensionStates :=
  fun other => if other = family ∧ family.valid then f (states other) else states other

/-- The record after `rdp_server_extension_state_mark_open`. -/
def ExtensionState.opened (staticChannelId : UInt16) (dynamicChannelId : UInt32) (priority : Nat)
    (state : ExtensionState) : ExtensionState :=
  { state with
    negotiated := true, active := true, isOpen := true
    pendingRequests :=
      if state.pendingOpen ∧ state.pendingRequests > 0 then state.pendingRequests - 1
      else state.pendingRequests
    pendingOpen := false, closing := false, cancelled := false
    staticChannelId := if staticChannelId ≠ 0 then staticChannelId else state.staticChannelId
    dynamicChannelId := if dynamicChannelId ≠ 0 then dynamicChannelId else state.dynamicChannelId
    dynamicPriority := priority
    openCount := saturate state.openCount }

/-- The record after `rdp_server_extension_state_mark_pending_open`. -/
def ExtensionState.pending (dynamicChannelId : UInt32) (priority : Nat) (state : ExtensionState) :
    ExtensionState :=
  { state with
    negotiated := true, pendingOpen := true, cancelled := false
    dynamicChannelId, dynamicPriority := priority
    pendingRequests := saturate state.pendingRequests }

/-- The record after `rdp_server_extension_state_mark_close`. -/
def ExtensionState.closed (state : ExtensionState) : ExtensionState :=
  { state with
    isOpen := false, active := false, pendingOpen := false, closing := false, pendingRequests := 0
    closeCount := saturate state.closeCount }

/-- `rdp_server_extension_state_mark_open`, `_mark_pending_open` and `_mark_close`. -/
def extensionStateMarkOpen (states : ExtensionStates) (family : ExtensionFamily)
    (staticChannelId : UInt16) (dynamicChannelId : UInt32) (priority : Nat) : ExtensionStates :=
  states.modify family (·.opened staticChannelId dynamicChannelId priority)

def extensionStateMarkPendingOpen (states : ExtensionStates) (family : ExtensionFamily)
    (dynamicChannelId : UInt32) (priority : Nat) : ExtensionStates :=
  states.modify family (·.pending dynamicChannelId priority)

def extensionStateMarkClose (states : ExtensionStates) (family : ExtensionFamily) :
    ExtensionStates :=
  states.modify family (·.closed)

/-- `rdp_server_extension_states_reset`. -/
def extensionStatesReset (states : ExtensionStates) (reconnect : Bool) : ExtensionStates :=
  fun family =>
    if !family.valid then states family
    else
      let generation := (states family).reconnectGeneration
      if reconnect then { reconnectGeneration := generation + 1, closeCount := 1 }
      else { reconnectGeneration := generation }

end LibRdp.Server
