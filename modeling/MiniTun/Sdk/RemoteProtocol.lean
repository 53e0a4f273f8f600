import MiniTun.Protocol.Frame
import MiniTun.Protocol.RemoteMessages

/-!
# The remote-protocol SDK

`remote::Codec`: one entry point that encodes a message of any kind into a frame
and one that decodes the message of a frame.  A message type is a value of its
underlying type; both entry points refuse one that names no type.
-/

namespace MiniTun.Remote

open MiniTun.Protocol

structure EmptyMessage where
  type : UInt16

/-- The alternatives of the variant `remote::Message`. -/
inductive Alternative where
  | empty | hello | helloAck | auth | authOk | authError | heartbeat
  | registerTunnel | registerTunnelOk | registerTunnelError | unregisterTunnel
  | requestWorkers | workerHello | workerAccepted | startRelay
  | localConnectOk | localConnectError
deriving Repr, DecidableEq

def Alternative.Value : Alternative → Type
  | .empty => EmptyMessage
  | .hello => HelloMessage
  | .helloAck => HelloAckMessage
  | .auth => AuthMessage
  | .authOk => AuthOkMessage
  | .authError => AuthErrorMessage
  | .heartbeat => HeartbeatMessage
  | .registerTunnel => Protocol.RegisterTunnelMessage
  | .registerTunnelOk => RegisterTunnelOkMessage
  | .registerTunnelError => RegisterTunnelErrorMessage
  | .unregisterTunnel => UnregisterTunnelMessage
  | .requestWorkers => RequestWorkersMessage
  | .workerHello => WorkerHelloMessage
  | .workerAccepted => WorkerAcceptedMessage
  | .startRelay => Protocol.StartRelayMessage
  | .localConnectOk => LocalConnectOkMessage
  | .localConnectError => LocalConnectErrorMessage

/-- `remote::Message`: the alternative that is held, and its value. -/
abbrev Message := (alternative : Alternative) × alternative.Value

variable (alternative : Alternative)

def getIf (message : Message) : Option alternative.Value :=
  if h : message.1 = alternative then some (h ▸ message.2) else none

def encodeAs (encoder : alternative.Value → Result Bytes) (message : Message) : Result Bytes :=
  match getIf alternative message with
  | none =>
    failure .invalidArgument "remote SDK message value does not match its message type"
  | some value => encoder value

def messageResult (decoded : Result alternative.Value) : Result Message :=
  decoded.map (Sigma.mk alternative)

variable (type : UInt16)

/-- The two types that carry no payload. -/
def encodeEmpty (message : Message) : Result Bytes :=
  match getIf .empty message with
  | none =>
    failure .invalidArgument "remote SDK empty message does not match its message type"
  | some empty =>
    if empty.type ≠ type then
      failure .invalidArgument "remote SDK empty message does not match its message type"
    else .ok []

def encodePayload : Message → Result Bytes :=
  match messageTypeFromWire type with
  | some .hello => encodeAs .hello encodeHello
  | some .helloAck => encodeAs .helloAck encodeHelloAck
  | some .auth => encodeAs .auth encodeAuth
  | some .authOk => encodeAs .authOk encodeAuthOk
  | some .authError => encodeAs .authError encodeAuthError
  | some .ping => encodeAs .heartbeat encodeHeartbeat
  | some .pong => encodeAs .heartbeat encodeHeartbeat
  | some .registerTunnel => encodeAs .registerTunnel encodeRegisterTunnel
  | some .registerTunnelOk => encodeAs .registerTunnelOk encodeRegisterTunnelOk
  | some .registerTunnelError => encodeAs .registerTunnelError encodeRegisterTunnelError
  | some .unregisterTunnel => encodeAs .unregisterTunnel encodeUnregisterTunnel
  | some .unregisterTunnelOk => encodeAs .unregisterTunnel encodeUnregisterTunnelOk
  | some .requestWorkers => encodeAs .requestWorkers encodeRequestWorkers
  | some .workerHello => encodeAs .workerHello encodeWorkerHello
  | some .workerAccepted => encodeAs .workerAccepted encodeWorkerAccepted
  | some .startRelay => encodeAs .startRelay encodeStartRelay
  | some .localConnectOk => encodeAs .localConnectOk encodeLocalConnectOk
  | some .localConnectError => encodeAs .localConnectError encodeLocalConnectError
  | some .goaway => encodeEmpty type
  | some .error => encodeEmpty type
  | none => fun _ => failure .invalidArgument "remote SDK message type is unsupported"

def makeFrame (requestId : UInt64) (message : Message) : Result Frame := do
  let payload ← encodePayload type message
  pure ⟨type, 0, requestId, payload⟩

section Decode

-- Whether `asio::ip::make_address` accepts a text.
variable (isAddress : Bytes → Bool)

def decodeEmpty (type : UInt16) (payload : Bytes) : Result Message :=
  if payload ≠ [] then
    failure .protocolError "remote SDK empty control message contains a payload"
  else .ok ⟨.empty, ⟨type⟩⟩

/-- `Codec::decode_message`, which reads the type and the payload of a frame. -/
def decodePayload (type : UInt16) : Bytes → Result Message :=
  match messageTypeFromWire type with
  | some .hello => fun p => messageResult .hello (decodeHello p)
  | some .helloAck => fun p => messageResult .helloAck (decodeHelloAck p)
  | some .auth => fun p => messageResult .auth (decodeAuth p)
  | some .authOk => fun p => messageResult .authOk (decodeAuthOk p)
  | some .authError => fun p => messageResult .authError (decodeAuthError p)
  | some .ping => fun p => messageResult .heartbeat (decodeHeartbeat p)
  | some .pong => fun p => messageResult .heartbeat (decodeHeartbeat p)
  | some .registerTunnel => fun p => messageResult .registerTunnel (decodeRegisterTunnel p)
  | some .registerTunnelOk => fun p => messageResult .registerTunnelOk (decodeRegisterTunnelOk p)
  | some .registerTunnelError =>
    fun p => messageResult .registerTunnelError (decodeRegisterTunnelError p)
  | some .unregisterTunnel => fun p => messageResult .unregisterTunnel (decodeUnregisterTunnel p)
  | some .unregisterTunnelOk =>
    fun p => messageResult .unregisterTunnel (decodeUnregisterTunnel p)
  | some .requestWorkers => fun p => messageResult .requestWorkers (decodeRequestWorkers p)
  | some .workerHello => fun p => messageResult .workerHello (decodeWorkerHello p)
  | some .workerAccepted => fun p => messageResult .workerAccepted (decodeWorkerAccepted p)
  | some .startRelay => fun p => messageResult .startRelay (decodeStartRelay isAddress p)
  | some .localConnectOk => fun p => messageResult .localConnectOk (decodeLocalConnectOk p)
  | some .localConnectError =>
    fun p => messageResult .localConnectError (decodeLocalConnectError p)
  | some .goaway => decodeEmpty type
  | some .error => decodeEmpty type
  | none => fun _ => failure .protocolError "remote SDK message type is unsupported"

def decodeMessage (frame : Frame) : Result Message :=
  decodePayload isAddress frame.type frame.payload

end Decode

end MiniTun.Remote
