import LibRdp.Common

/-! # What the parts of a server peer share

The lifecycle of a peer, the record of its last failure and its metrics.
-/

namespace LibRdp.Server

/-- `librdp_server_peer_state`. -/
inductive PeerState where
  | new
  | negotiating
  | x224Confirmed
  | closing
  | closed
  | failed
  | mcsConnected
  | domainReady
  | userAttached
  | channelJoining
  | activating
  | active
  | licensing
  | tlsHandshaking
  | nlaAuthenticating
  deriving Repr, DecidableEq

/-- `librdp_error_component`. -/
inductive ErrorComponent where
  | none
  | client
  | transport
  | tls
  | credssp
  | protocol
  | channel
  | backend
  deriving Repr, DecidableEq

/-- `librdp_server_status`; the error event raised with it has the same fields. -/
structure ServerStatus where
  status : Status
  component : ErrorComponent
  state : PeerState
  phase : String
  message : String
  deriving Repr, DecidableEq

/-- `rdp_server_component_for_status`. -/
def componentForStatus (status : Status) : ErrorComponent :=
  if status = .ioError ∨ status = .closed ∨ status = .timeout then .transport
  else if status = .limitExceeded ∨ status = .protocolError ∨ status = .unsupported then .protocol
  else .client

/-- `rdp_server_metric_add`. -/
def serverMetricAdd (metric value : UInt64) : UInt64 :=
  if 0xffffffffffffffff - metric < value then 0xffffffffffffffff else metric + value

end LibRdp.Server
