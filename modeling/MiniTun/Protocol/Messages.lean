import MiniTun.Common.Bytes
import MiniTun.Common.Result

/-!
# The remote protocol's vocabulary

The mode of a tunnel, the capability bit each mode needs in the negotiated set,
and the messages a control session carries once it is authenticated.
-/

namespace MiniTun

inductive TunnelMode where
  | tcp
  | udp
  | socks5
  | p2p
deriving Repr, DecidableEq

/-- `protocol::Capability`, by the bit it occupies in a `CapabilitySet`. -/
inductive Capability where
  | pipelinedControl
  | perClientPolicy
  | tunnelRevisions
  | clientCertificateBinding
  | multiplexedStreams
  | udpDatagrams
  | socks5Proxy
  | p2pRendezvous
  | tcpSimultaneousOpen
  | proxyProtocol
  | workerObservedEndpoint
deriving Repr, DecidableEq

def Capability.bit : Capability → Nat
  | .pipelinedControl => 0
  | .perClientPolicy => 1
  | .tunnelRevisions => 2
  | .clientCertificateBinding => 3
  | .multiplexedStreams => 4
  | .udpDatagrams => 5
  | .socks5Proxy => 6
  | .p2pRendezvous => 7
  | .tcpSimultaneousOpen => 8
  | .proxyProtocol => 9
  | .workerObservedEndpoint => 10

abbrev CapabilitySet := BitVec 64

def requiredCapability : TunnelMode → Capability
  | .udp => .udpDatagrams
  | .socks5 => .socks5Proxy
  | .p2p => .p2pRendezvous
  | .tcp => .pipelinedControl

def supportsTunnelMode (capabilities : CapabilitySet) (mode : TunnelMode) : Bool :=
  capabilities.getLsbD (requiredCapability mode).bit

/-! ## Control messages -/

/-- `REGISTER_TUNNEL`, with numbers for the words of the wire (`wire`). -/
structure RegisterTunnelMessage where
  tunnelId : Bytes
  bindHost : Bytes
  bindPort : Nat
  desiredRevision : Nat
  mode : TunnelMode
deriving DecidableEq

/-- The messages of an authenticated control session, in either direction. -/
inductive ControlMessage where
  | registerTunnel (m : RegisterTunnelMessage)
  | registerTunnelOk (tunnelId : Bytes) (desiredRevision : Nat)
  | registerTunnelError (tunnelId : Bytes) (code : ErrorCode) (desiredRevision : Nat)
  | unregisterTunnel (tunnelId : Bytes) (desiredRevision : Nat)
  | unregisterTunnelOk (tunnelId : Bytes) (desiredRevision : Nat)
  | ping (sequence : Nat)
  | pong (sequence : Nat)
  | requestWorkers (count : Nat)
  | goaway
  | error
deriving DecidableEq

/-- `protocol::Frame` with its payload decoded. -/
structure ControlFrame where
  requestId : Nat
  message : ControlMessage
deriving DecidableEq

/-- The payload of `START_RELAY`, as far as it decides where a connection goes. -/
structure StartRelayMessage where
  tunnelId : Bytes
  mode : TunnelMode
deriving DecidableEq

/-- The two requests of a reconciliation. -/
def ControlFrame.isRequest (frame : ControlFrame) : Bool :=
  match frame.message with
  | .registerTunnel _ | .unregisterTunnel _ _ => true
  | _ => false

/-- Their answers: `correlated_response`. -/
def ControlFrame.isResponse (frame : ControlFrame) : Bool :=
  match frame.message with
  | .registerTunnelOk _ _ | .registerTunnelError _ _ _ | .unregisterTunnelOk _ _ => true
  | _ => false

end MiniTun
