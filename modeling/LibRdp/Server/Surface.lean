import LibRdp.Server.Peer
import LibRdp.Graphics.BitmapWire
import LibRdp.Coding.Raster
import LibRdp.Coding.Tiling
import LibRdp.Machine.Effect

/-! # The framebuffer of a server peer

The framebuffer is allocated when it is first used. A rectangle of it is presented as bitmap
updates of one rectangle each, which are as large as one packet of the negotiated path holds.
-/

namespace LibRdp.Server

open Graphics Machine Coding

def desktopMinDimension : Nat := 200
def desktopMaxDimension : Nat := 8192

def fastpathPacketMax : Nat := 0x3fff
def fastpathHeaderMax : Nat := 3
def fastpathSignatureSize : Nat := 8
def fastpathUpdateHeaderSize : Nat := 3

/-- `RDP_SERVER_FASTPATH_FRAGMENT_DATA_MAX`. -/
def fastpathFragmentDataMax : Nat :=
  fastpathPacketMax - fastpathHeaderMax - fastpathSignatureSize - fastpathUpdateHeaderSize

def fastpathUpdateBitmap : UInt8 := 0x01
def slowpathPduVersion : UInt16 := 0x0010
def slowpathPduTypeData : UInt16 := 0x0007
def slowpathDataPduUpdate : UInt8 := 0x02
def mcsServerChannelId : UInt16 := 1002

inductive ServerOutput where
  /-- `rdp_server_send_fastpath_update`. -/
  | fastpath (updateCode : UInt8) (data : Bytes)
  /-- `rdp_server_send_slowpath`. -/
  | slowpath (pdu : Bytes)
  deriving Repr, DecidableEq

inductive SurfaceEvent where
  | surface (x y width height : Nat)
  | error (status : ServerStatus)
  deriving Repr, DecidableEq

/-- The part of `librdp_server_peer` that the framebuffer uses. -/
structure SurfacePeer where
  state : PeerState
  width : UInt16
  height : UInt16
  framebuffer : Option Bytes := none
  framebufferStride : Nat := 0
  surfaceRepaintPending : Bool := false
  updatesSuppressed : Bool := false
  clientFastpathOutput : Bool := false
  standardSecurityReady : Bool := false
  shareId : UInt32 := 0x00010001
  /-- The metric of the same name. -/
  surfaceUpdates : UInt64 := 0
  lastStatus : Option ServerStatus := none
  events : List SurfaceEvent := []
  /-- What has been handed to the transport. -/
  sent : List ServerOutput := []
  deriving Repr, DecidableEq

abbrev SurfaceEffect (α : Type) := Effect Stop SurfacePeer α

namespace SurfacePeer

/-- `rdp_server_rect_valid`. -/
def RectValid (peer : SurfacePeer) (x y width height : Nat) : Prop :=
  width ≠ 0 ∧ height ≠ 0 ∧ x < peer.width.toNat ∧ y < peer.height.toNat ∧
    width ≤ peer.width.toNat - x ∧ height ≤ peer.height.toNat - y

instance (peer : SurfacePeer) (x y width height : Nat) :
    Decidable (peer.RectValid x y width height) := by
  unfold RectValid
  infer_instance

/-- `rdp_server_outbound_security_overhead`. -/
def outboundSecurityOverhead (peer : SurfacePeer) : Nat :=
  if peer.standardSecurityReady then 12 else 0

end SurfacePeer

/-- `rdp_server_record_status`. -/
def SurfacePeer.recordStatus (peer : SurfacePeer) (status : Status) (component : ErrorComponent)
    (phase message : String) : SurfacePeer :=
  let recorded : ServerStatus := ⟨status, component, peer.state, phase, message⟩
  let quiet := status = .ok ∨ status = .timeout ∨ status = .closed
  { peer with
    lastStatus := some recorded
    events := if quiet then peer.events else peer.events ++ [.error recorded] }

/-- A function of the server returns a status that is not `LIBRDP_STATUS_OK`. -/
def surfaceReturns (status : Status) : SurfaceEffect α := .stop (.returned status)

/-- What a function returns is recorded if it is not `LIBRDP_STATUS_OK`. -/
def surfaceRecords (phase message : String) (m : SurfaceEffect Unit) : SurfaceEffect Unit :=
  fun peer =>
    match m peer with
    | (.error (.returned status), peer) =>
        (.error (.returned status),
          peer.recordStatus status (componentForStatus status) phase message)
    | other => other

/-- `rdp_server_surface_set_dimensions`. -/
def surfaceSetDimensions (width height : Nat) : SurfaceEffect Unit :=
  if width < desktopMinDimension ∨ height < desktopMinDimension ∨
      width > desktopMaxDimension ∨ height > desktopMaxDimension then
    surfaceReturns .invalidArgument
  else if height > sizeMax / (width * 4) then surfaceReturns .invalidArgument
  else
    .modify fun peer =>
      { peer with
        framebuffer := some (List.replicate (width * 4 * height) 0)
        framebufferStride := width * 4
        width := UInt16.ofNat width
        height := UInt16.ofNat height
        surfaceRepaintPending := true }

/-- `rdp_server_surface_ensure`. -/
def surfaceEnsure : SurfaceEffect Unit := do
  let peer ← .get
  if peer.framebuffer.isSome then pure ()
  else surfaceSetDimensions peer.width.toNat peer.height.toNat

/-- The size of the desktop that a client asks for while it connects; zero keeps the size. -/
def surfaceNegotiate (desktopWidth desktopHeight : Nat) : SurfaceEffect Unit := do
  let peer ← .get
  let width := if desktopWidth = 0 then peer.width.toNat else desktopWidth
  let height := if desktopHeight = 0 then peer.height.toNat else desktopHeight
  if width < desktopMinDimension ∨ height < desktopMinDimension then surfaceReturns .protocolError
  else if width > desktopMaxDimension ∨ height > desktopMaxDimension then
    surfaceReturns .limitExceeded
  else if width ≠ peer.width.toNat ∨ height ≠ peer.height.toNat then
    if peer.framebuffer.isSome then surfaceSetDimensions width height
    else .modify fun peer =>
      { peer with width := UInt16.ofNat width, height := UInt16.ofNat height }
  else pure ()

def surfacePixels : SurfaceEffect Bytes := do
  let peer ← .get
  match peer.framebuffer with
  | some pixels => pure pixels
  | none => .stop (.fault .outOfBounds)

/-- `librdp_server_peer_surface_blit_bgra32`. -/
def surfaceBlitBgra32 (x y width height stride : Nat) (pixels : Bytes) : SurfaceEffect Unit := do
  if stride < width * 4 then surfaceReturns .invalidArgument
  else do
    surfaceRecords "server.surface.blit" "surface allocation failed" surfaceEnsure
    let peer ← .get
    if ¬ peer.RectValid x y width height then do
      .modify fun peer =>
        peer.recordStatus .invalidArgument .protocol "server.surface.blit"
          "surface rectangle rejected"
      surfaceReturns .invalidArgument
    else do
      let framebuffer ← surfacePixels
      let rows ← .lift (access (readRows pixels 0 stride (width * 4) height))
      let framebuffer ← .lift (access
        (writeRows framebuffer (y * peer.framebufferStride + x * 4) peer.framebufferStride rows))
      .modify fun peer => { peer with framebuffer := some framebuffer }

/-- `rdp_slowpath_write_share_control_header` and `rdp_slowpath_write_share_data_header` as they
    are called for an uncompressed data PDU. -/
def slowpathDataHeader (shareId : UInt32) (channelId : UInt16) (pduType2 : UInt8)
    (payloadLen : Nat) : Bytes :=
  u16LeBytes (18 + payloadLen) ++ (u16LeBytes (slowpathPduVersion ||| slowpathPduTypeData).toNat ++
    (u16LeBytes channelId.toNat ++ (u32LeBytes shareId.toNat ++
    ([0, 1] ++ (u16LeBytes payloadLen ++ ([pduType2, 0] ++ u16LeBytes 0))))))

/-- `rdp_slowpath_write_data_pdu`. -/
def slowpathWriteDataPdu (shareId : UInt32) (channelId : UInt16) (pduType2 : UInt8)
    (payload : Bytes) : Status × Bytes :=
  if payload.length > 0xffff then (.invalidArgument, [])
  else if 18 + payload.length > 0xffff then (.invalidArgument, [])
  else (.ok, slowpathDataHeader shareId channelId pduType2 payload.length ++ payload)

def surfaceSend (send : ServerOutput → Status) (output : ServerOutput) : SurfaceEffect Unit :=
  match send output with
  | .ok => .modify fun peer => { peer with sent := peer.sent ++ [output] }
  | status => surfaceReturns status

/-- The rectangle that `rdp_server_present_tile` writes. -/
def tileRect (x y width height : Nat) (raw : Bytes) : BitmapRect where
  destLeft := UInt16.ofNat x
  destTop := UInt16.ofNat y
  destRight := UInt16.ofNat (x + width - 1)
  destBottom := UInt16.ofNat (y + height - 1)
  width := UInt16.ofNat width
  height := UInt16.ofNat height
  bitsPerPixel := 32
  flags := 0
  data := raw

def tileRows (framebuffer : Bytes) (stride x y width height : Nat) : Exec (List Bytes) :=
  (List.range height).mapM fun row =>
    readBlock framebuffer ((y + height - 1 - row) * stride + x * 4) (width * 4)

/-- `rdp_server_present_tile`. Rectangles are inside of a desktop of 16-bit sizes, so that no sum
    of coordinates wraps. -/
def presentTile (send : ServerOutput → Status) (x y width height : Nat) : SurfaceEffect Unit := do
  let peer ← .get
  if ¬ peer.RectValid x y width height ∨ width > 0xffff ∨ height > 0xffff ∨
      x + width - 1 > 0xffff ∨ y + height - 1 > 0xffff then
    surfaceReturns .invalidArgument
  else if height > sizeMax / (width * 4) then surfaceReturns .invalidArgument
  else do
    let framebuffer ← surfacePixels
    let rows ← .lift (access (tileRows framebuffer peer.framebufferStride x y width height))
    let rect := tileRect x y width height rows.flatten
    let update := if peer.clientFastpathOutput then writeFastpathUpdate [] [rect]
      else writeUpdate [] [rect]
    match update with
    | (.ok, update) =>
        if peer.clientFastpathOutput then surfaceSend send (.fastpath fastpathUpdateBitmap update)
        else
          match slowpathWriteDataPdu peer.shareId mcsServerChannelId slowpathDataPduUpdate update with
          | (.ok, slowpath) => surfaceSend send (.slowpath slowpath)
          | (status, _) => surfaceReturns status
    | (status, _) => surfaceReturns status

/-- The bytes of pixels that an update on the path of a peer may have. -/
def SurfacePeer.maxRawTile (peer : SurfacePeer) : Option Nat :=
  let maxMcsPayload := 0x7fff
  let bitmapUpdateOverhead := 22
  let slowpathDataOverhead := 18
  if peer.clientFastpathOutput then
    if fastpathFragmentDataMax ≤ bitmapUpdateOverhead then none
    else some (fastpathFragmentDataMax - bitmapUpdateOverhead)
  else
    let securityOverhead := peer.outboundSecurityOverhead
    if maxMcsPayload ≤ bitmapUpdateOverhead + slowpathDataOverhead + securityOverhead then none
    else some (maxMcsPayload - bitmapUpdateOverhead - slowpathDataOverhead - securityOverhead)

def presentColumn (send : ServerOutput → Status) (x y width height maxRawTile : Nat) :
    SurfaceEffect Unit :=
  let rowsPerTile := maxRawTile / (width * 4)
  if rowsPerTile = 0 then surfaceReturns .invalidArgument
  else (offsets rowsPerTile height).forM fun row =>
    presentTile send x (y + row) width (min (height - row) rowsPerTile)

/-- `rdp_server_surface_present_rect`. -/
def surfacePresentRect (send : ServerOutput → Status) (x y width height : Nat) :
    SurfaceEffect Unit := do
  let peer ← .get
  if peer.state ≠ .active ∨ peer.updatesSuppressed then surfaceReturns .state
  else do
    surfaceEnsure
    let peer ← .get
    if ¬ peer.RectValid x y width height then surfaceReturns .invalidArgument
    else
      match peer.maxRawTile with
      | none => surfaceReturns .invalidArgument
      | some maxRawTile =>
          let maxTileWidth := maxRawTile / 4
          if maxTileWidth = 0 ∨ width > 0xffffffff - x ∨ height > 0xffffffff - y then
            surfaceReturns .invalidArgument
          else do
            (offsets maxTileWidth width).forM fun column =>
              presentColumn send (x + column) y (min (width - column) maxTileWidth) height maxRawTile
            .modify fun peer =>
              { peer with
                surfaceRepaintPending :=
                  if x = 0 ∧ y = 0 ∧ width = peer.width.toNat ∧ height = peer.height.toNat then false
                  else peer.surfaceRepaintPending
                surfaceUpdates := serverMetricAdd peer.surfaceUpdates 1
                events := peer.events ++ [.surface x y width height] }

/-- `rdp_server_surface_flush_repaint`. -/
def surfaceFlushRepaint (send : ServerOutput → Status) : SurfaceEffect Unit := do
  let peer ← .get
  if ¬ peer.surfaceRepaintPending ∨ ¬ peer.framebuffer.isSome ∨ peer.updatesSuppressed then pure ()
  else surfacePresentRect send 0 0 peer.width.toNat peer.height.toNat

/-- `librdp_server_peer_surface_present`. -/
def surfacePresent (send : ServerOutput → Status) (x y width height : Nat) :
    SurfaceEffect Unit := do
  let peer ← .get
  if peer.state = .active ∧ peer.updatesSuppressed ∧ peer.RectValid x y width height then
    .modify fun peer => { peer with surfaceRepaintPending := true }
  else
    surfaceRecords "server.surface.present" "surface presentation failed"
      (surfacePresentRect send x y width height)

end LibRdp.Server
