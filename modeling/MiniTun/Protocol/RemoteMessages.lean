import MiniTun.Common.ErrorText
import MiniTun.Common.Id
import MiniTun.Protocol.Codec
import MiniTun.Protocol.Messages

/-!
# The messages of Remote Protocol v2

Every message of `protocol/messages.hpp` with its encoder and its decoder.  The
fields have the widths of the source, and an enumeration is a value of its
underlying type, which need not be one of the enumerators.

The decoders come in two styles.  Some return at the first read that fails;
others make all their reads, each from where the last one stopped, and look at
the results afterwards.
-/

namespace MiniTun.Protocol

open PayloadWriter (written)
open PayloadReader

def kAuthenticationNonceSize : Nat := 32

def kAuthenticationDataSize : Nat := 32

def kMaxProtocolIdentifierBytes : Nat := 64

def kMaxTunnelBindHostBytes : Nat := 253

def maxErrorCodeBytes : Nat := 64

/-- `std::array<std::uint8_t, Size>`. -/
abbrev FixedBytes (size : Nat) := { bytes : Bytes // bytes.length = size }

abbrev AuthenticationNonce := FixedBytes kAuthenticationNonceSize

abbrev AuthenticationData := FixedBytes kAuthenticationDataSize

/-- A value of type `TunnelMode`: any value of the underlying type. -/
abbrev RawTunnelMode := UInt8

def capabilityBit (capability : Capability) : CapabilitySet :=
  1#64 <<< capability.bit

def kRequiredCapabilities : CapabilitySet :=
  capabilityBit .pipelinedControl ||| capabilityBit .perClientPolicy |||
    capabilityBit .tunnelRevisions

def kSupportedCapabilities : CapabilitySet :=
  kRequiredCapabilities ||| capabilityBit .clientCertificateBinding |||
    capabilityBit .udpDatagrams ||| capabilityBit .socks5Proxy ||| capabilityBit .p2pRendezvous |||
    capabilityBit .tcpSimultaneousOpen ||| capabilityBit .proxyProtocol |||
    capabilityBit .workerObservedEndpoint

/-! ## Message types -/

structure HelloMessage where
  clientId : Bytes
  capabilities : CapabilitySet

structure HelloAckMessage where
  serverId : Bytes
  serverTimeSeconds : Int64
  nonce : AuthenticationNonce
  selectedCapabilities : CapabilitySet

structure AuthMessage where
  clientId : Bytes
  timestampSeconds : Int64
  nonce : AuthenticationNonce
  authenticationData : AuthenticationData
  selectedCapabilities : CapabilitySet

structure AuthOkMessage where
  sessionGeneration : UInt64
  heartbeatIntervalMilliseconds : UInt32
  minIdleWorkers : UInt16
  maxIdleWorkers : UInt16

structure AuthErrorMessage where
  code : RawErrorCode

structure HeartbeatMessage where
  sequence : UInt64

structure RegisterTunnelMessage where
  tunnelId : Bytes
  bindHost : Bytes
  bindPort : UInt16
  desiredRevision : UInt64
  mode : RawTunnelMode

structure RegisterTunnelOkMessage where
  tunnelId : Bytes
  desiredRevision : UInt64

structure RegisterTunnelErrorMessage where
  tunnelId : Bytes
  code : RawErrorCode
  desiredRevision : UInt64

structure UnregisterTunnelMessage where
  tunnelId : Bytes
  desiredRevision : UInt64

abbrev UnregisterTunnelOkMessage := UnregisterTunnelMessage

structure RequestWorkersMessage where
  count : UInt16

structure WorkerHelloMessage where
  clientId : Bytes
  sessionGeneration : UInt64
  workerId : Bytes
  timestampSeconds : Int64
  nonce : AuthenticationNonce
  authenticationData : AuthenticationData

structure WorkerAcceptedMessage where
  workerId : Bytes

structure StartRelayMessage where
  tunnelId : Bytes
  connectionId : Bytes
  mode : RawTunnelMode
  sourceHost : Option Bytes
  sourcePort : Option UInt16
  workerObservedHost : Option Bytes

structure LocalConnectOkMessage where
  connectionId : Bytes

structure LocalConnectErrorMessage where
  connectionId : Bytes
  code : RawErrorCode

/-! ## Shared checks and fields -/

/-- The checks of one identifier field, which differ in the kind and in what they call it. -/
def validateId (kind : IdKind) (message : String) (value : Bytes) : Result Unit :=
  if validId kind value then .ok () else failure .protocolError message

def validateClientId := validateId .client "remote message contains an invalid client ID"

def validateServerId := validateId .server "remote message contains an invalid server ID"

def validateTunnelId := validateId .tunnel "remote message contains an invalid tunnel ID"

def validateConnectionId :=
  validateId .connection "remote message contains an invalid connection ID"

def validTunnelMode (mode : RawTunnelMode) : Bool :=
  mode = 0 || mode = 1 || mode = 2 || mode = 3

/-- `decode_tunnel_mode`: TCP is the absence of the byte, and only that. -/
def decodeTunnelMode (reader : Bytes) : Result RawTunnelMode × Bytes :=
  if reader.length = 0 then (.ok 0, reader)
  else if reader.length ≠ 1 then
    (failure .protocolError "remote tunnel mode extension is invalid", reader)
  else match readU8 reader with
    | (.error e, reader) => (.error e, reader)
    | (.ok mode, reader) =>
      if !validTunnelMode mode || mode = 0 then
        (failure .protocolError "remote tunnel mode is unknown", reader)
      else (.ok mode, reader)

def encodeTunnelMode (writer : PayloadWriter) (mode : RawTunnelMode) :
    Result Unit × PayloadWriter :=
  if !validTunnelMode mode then (failure .invalidArgument "remote tunnel mode is unknown", writer)
  else if mode = 0 then (.ok (), writer)
  else writer.writeU8 mode

def validateOfferedCapabilities (value : CapabilitySet) : Result Unit :=
  if value &&& kRequiredCapabilities ≠ kRequiredCapabilities then
    failure .protocolError "remote peer does not offer required protocol capabilities"
  else .ok ()

def validateSelectedCapabilities (value : CapabilitySet) : Result Unit :=
  if value &&& kRequiredCapabilities ≠ kRequiredCapabilities ∨
      value &&& ~~~kSupportedCapabilities ≠ 0 then
    failure .protocolError "remote peer selected invalid protocol capabilities"
  else .ok ()

def readFixedBytes (size : Nat) (reader : Bytes) : Result (FixedBytes size) × Bytes :=
  match readBytes size reader with
  | (.error e, reader) => (.error e, reader)
  | (.ok bytes, reader) =>
    if h : bytes.length = size then (.ok ⟨bytes, h⟩, reader)
    else (failure .protocolError
      "remote message contains a fixed-size field with the wrong length", reader)

def validateAuthOk (message : AuthOkMessage) : Result Unit :=
  if message.sessionGeneration = 0 then
    failure .protocolError "session generation must not be zero"
  else if message.heartbeatIntervalMilliseconds < 1000 ∨
      message.heartbeatIntervalMilliseconds > 60000 then
    failure .protocolError "heartbeat interval is outside the protocol limits"
  else if message.minIdleWorkers > message.maxIdleWorkers ∨ message.maxIdleWorkers > 128 then
    failure .protocolError "worker limits are inconsistent"
  else .ok ()

def newWriter : PayloadWriter :=
  PayloadWriter.new kMaxPayloadSize

def encodeTunnelRevision (tunnelId : Bytes) (revision : UInt64) : Result Bytes := do
  validateTunnelId tunnelId
  if revision = 0 then
    failure .invalidArgument "tunnel desired revision must not be zero"
  else
    let writer ← written (newWriter.writeString tunnelId)
    let writer ← written (writer.writeU64 revision)
    writer.finish

section Messages

variable (payload : Bytes)

/-- `decode_tunnel_revision`, with the fields of `TunnelRevision` as a pair. -/
def decodeTunnelRevision : Result (Bytes × UInt64) := do
  let (tunnelId, reader) ← orReturn (readString kMaxProtocolIdentifierBytes payload)
  validateTunnelId tunnelId
  match readU64 reader with
  | (.error _, _) =>
    failure .protocolError "remote message contains an invalid tunnel revision"
  | (.ok revision, reader) =>
    if revision = 0 then
      failure .protocolError "remote message contains an invalid tunnel revision"
    else
      requireEnd reader
      pure (tunnelId, revision)

/-! ## The handshake -/

def encodeHello (message : HelloMessage) : Result Bytes := do
  validateClientId message.clientId
  let writer ← written (newWriter.writeString message.clientId)
  validateOfferedCapabilities message.capabilities
  let writer ← written (writer.writeU64 (.ofBitVec message.capabilities))
  writer.finish

def decodeHello : Result HelloMessage := do
  let (clientId, reader) ← orReturn (readString kMaxProtocolIdentifierBytes payload)
  validateClientId clientId
  let (capabilities, reader) ← orReturn (readU64 reader)
  validateOfferedCapabilities capabilities.toBitVec
  requireEnd reader
  pure ⟨clientId, capabilities.toBitVec⟩

def encodeHelloAck (message : HelloAckMessage) : Result Bytes := do
  validateServerId message.serverId
  let writer ← written (newWriter.writeString message.serverId)
  let writer ← written (writer.writeU64 message.serverTimeSeconds.toUInt64)
  let writer ← written (writer.writeBytes message.nonce)
  validateSelectedCapabilities message.selectedCapabilities
  let writer ← written (writer.writeU64 (.ofBitVec message.selectedCapabilities))
  writer.finish

def decodeHelloAck : Result HelloAckMessage := do
  let (serverId, reader) ← orReturn (readString kMaxProtocolIdentifierBytes payload)
  validateServerId serverId
  let (timestamp, reader) ← orReturn (readU64 reader)
  let (nonce, reader) ← orReturn (readFixedBytes kAuthenticationNonceSize reader)
  let (capabilities, reader) ← orReturn (readU64 reader)
  validateSelectedCapabilities capabilities.toBitVec
  requireEnd reader
  pure ⟨serverId, timestamp.toInt64, nonce, capabilities.toBitVec⟩

def encodeAuth (message : AuthMessage) : Result Bytes := do
  validateClientId message.clientId
  let writer ← written (newWriter.writeString message.clientId)
  let writer ← written (writer.writeU64 message.timestampSeconds.toUInt64)
  let writer ← written (writer.writeBytes message.nonce)
  let writer ← written (writer.writeBytes message.authenticationData)
  validateSelectedCapabilities message.selectedCapabilities
  let writer ← written (writer.writeU64 (.ofBitVec message.selectedCapabilities))
  writer.finish

def decodeAuth : Result AuthMessage := do
  let (clientId, reader) ← orReturn (readString kMaxProtocolIdentifierBytes payload)
  validateClientId clientId
  let (timestamp, reader) ← orReturn (readU64 reader)
  let (nonce, reader) ← orReturn (readFixedBytes kAuthenticationNonceSize reader)
  let (authenticationData, reader) ← orReturn (readFixedBytes kAuthenticationDataSize reader)
  let (capabilities, reader) ← orReturn (readU64 reader)
  validateSelectedCapabilities capabilities.toBitVec
  requireEnd reader
  pure ⟨clientId, timestamp.toInt64, nonce, authenticationData, capabilities.toBitVec⟩

def encodeAuthOk (message : AuthOkMessage) : Result Bytes := do
  validateAuthOk message
  let writer ← written (newWriter.writeU64 message.sessionGeneration)
  let writer ← written (writer.writeU32 message.heartbeatIntervalMilliseconds)
  let writer ← written (writer.writeU16 message.minIdleWorkers)
  let writer ← written (writer.writeU16 message.maxIdleWorkers)
  writer.finish

def decodeAuthOk : Result AuthOkMessage :=
  let (generation, reader) := readU64 payload
  let (heartbeat, reader) := readU32 reader
  let (minimumWorkers, reader) := readU16 reader
  let (maximumWorkers, reader) := readU16 reader
  match generation, heartbeat, minimumWorkers, maximumWorkers with
  | .ok generation, .ok heartbeat, .ok minimumWorkers, .ok maximumWorkers => do
    requireEnd reader
    let message : AuthOkMessage := ⟨generation, heartbeat, minimumWorkers, maximumWorkers⟩
    validateAuthOk message
    pure message
  | _, _, _, _ => failure .protocolError "AUTH_OK payload is truncated"

def encodeAuthError (message : AuthErrorMessage) : Result Bytes :=
  if message.code = ErrorCode.ok.raw then
    failure .invalidArgument "AUTH_ERROR must contain a failure code"
  else do
    let writer ← written (newWriter.writeString (errorCodeToString message.code))
    writer.finish

def decodeAuthError : Result AuthErrorMessage := do
  let (codeText, reader) ← orReturn (readString maxErrorCodeBytes payload)
  match errorCodeFromString codeText with
  | none => failure .protocolError "AUTH_ERROR contains an invalid error code"
  | some code =>
    if code = ErrorCode.ok.raw then
      failure .protocolError "AUTH_ERROR contains an invalid error code"
    else
      requireEnd reader
      pure ⟨code⟩

def encodeHeartbeat (message : HeartbeatMessage) : Result Bytes := do
  let writer ← written (newWriter.writeU64 message.sequence)
  writer.finish

def decodeHeartbeat : Result HeartbeatMessage := do
  let (sequence, reader) ← orReturn (readU64 payload)
  requireEnd reader
  pure ⟨sequence⟩

/-! ## Tunnels -/

def encodeRegisterTunnel (message : RegisterTunnelMessage) : Result Bytes := do
  validateTunnelId message.tunnelId
  if message.bindHost = [] ∨ message.bindHost.length > kMaxTunnelBindHostBytes ∨
      message.bindPort = 0 ∨ message.desiredRevision = 0 ∨ !validTunnelMode message.mode then
    failure .invalidArgument "remote tunnel binding is invalid"
  else
    let writer ← written (newWriter.writeString message.tunnelId)
    let writer ← written (writer.writeString message.bindHost)
    let writer ← written (writer.writeU16 message.bindPort)
    let writer ← written (writer.writeU64 message.desiredRevision)
    let writer ← written (encodeTunnelMode writer message.mode)
    writer.finish

def decodeRegisterTunnel : Result RegisterTunnelMessage :=
  let (tunnelId, reader) := readString kMaxProtocolIdentifierBytes payload
  let (bindHost, reader) := readString kMaxTunnelBindHostBytes reader
  let (bindPort, reader) := readU16 reader
  let (revision, reader) := readU64 reader
  match tunnelId, bindHost, bindPort, revision with
  | .ok tunnelId, .ok bindHost, .ok bindPort, .ok revision => do
    validateTunnelId tunnelId
    if bindHost = [] ∨ bindPort = 0 ∨ revision = 0 then
      failure .protocolError "REGISTER_TUNNEL binding is invalid"
    else
      let (mode, reader) ← orReturn (decodeTunnelMode reader)
      requireEnd reader
      pure ⟨tunnelId, bindHost, bindPort, revision, mode⟩
  | _, _, _, _ => failure .protocolError "REGISTER_TUNNEL payload is truncated"

def encodeRegisterTunnelOk (message : RegisterTunnelOkMessage) : Result Bytes :=
  encodeTunnelRevision message.tunnelId message.desiredRevision

def decodeRegisterTunnelOk : Result RegisterTunnelOkMessage := do
  let (tunnelId, revision) ← decodeTunnelRevision payload
  pure ⟨tunnelId, revision⟩

def encodeRegisterTunnelError (message : RegisterTunnelErrorMessage) : Result Bytes := do
  validateTunnelId message.tunnelId
  if message.code = ErrorCode.ok.raw ∨ message.desiredRevision = 0 then
    failure .invalidArgument "REGISTER_TUNNEL_ERROR requires a failure code"
  else
    let writer ← written (newWriter.writeString message.tunnelId)
    let writer ← written (writer.writeString (errorCodeToString message.code))
    let writer ← written (writer.writeU64 message.desiredRevision)
    writer.finish

def decodeRegisterTunnelError : Result RegisterTunnelErrorMessage :=
  let (tunnelId, reader) := readString kMaxProtocolIdentifierBytes payload
  let (codeText, reader) := readString maxErrorCodeBytes reader
  let (revision, reader) := readU64 reader
  match tunnelId, codeText, revision with
  | .ok tunnelId, .ok codeText, .ok revision =>
    match validateTunnelId tunnelId, errorCodeFromString codeText with
    | .ok (), some code =>
      if code = ErrorCode.ok.raw ∨ revision = 0 then
        failure .protocolError "REGISTER_TUNNEL_ERROR payload is invalid"
      else do
        requireEnd reader
        pure ⟨tunnelId, code, revision⟩
    | _, _ => failure .protocolError "REGISTER_TUNNEL_ERROR payload is invalid"
  | _, _, _ => failure .protocolError "REGISTER_TUNNEL_ERROR payload is truncated"

def encodeUnregisterTunnel (message : UnregisterTunnelMessage) : Result Bytes :=
  encodeTunnelRevision message.tunnelId message.desiredRevision

def decodeUnregisterTunnel : Result UnregisterTunnelMessage := do
  let (tunnelId, revision) ← decodeTunnelRevision payload
  pure ⟨tunnelId, revision⟩

def encodeUnregisterTunnelOk (message : UnregisterTunnelOkMessage) : Result Bytes :=
  encodeTunnelRevision message.tunnelId message.desiredRevision

def decodeUnregisterTunnelOk : Result UnregisterTunnelOkMessage :=
  decodeUnregisterTunnel payload

/-! ## Workers -/

def encodeRequestWorkers (message : RequestWorkersMessage) : Result Bytes :=
  if message.count = 0 ∨ message.count > 128 then
    failure .invalidArgument "requested worker count is outside 1..128"
  else do
    let writer ← written (newWriter.writeU16 message.count)
    writer.finish

def decodeRequestWorkers : Result RequestWorkersMessage :=
  match readU16 payload with
  | (.ok count, reader) =>
    if count = 0 ∨ count > 128 ∨ !(requireEnd reader).isOk then
      failure .protocolError "REQUEST_WORKERS payload is invalid"
    else .ok ⟨count⟩
  | (.error _, _) => failure .protocolError "REQUEST_WORKERS payload is invalid"

def encodeWorkerHello (message : WorkerHelloMessage) : Result Bytes :=
  if !(validateClientId message.clientId).isOk ∨ !(validateConnectionId message.workerId).isOk ∨
      message.sessionGeneration = 0 then
    failure .protocolError "WORKER_HELLO identity is invalid"
  else do
    let writer ← written (newWriter.writeString message.clientId)
    let writer ← written (writer.writeU64 message.sessionGeneration)
    let writer ← written (writer.writeString message.workerId)
    let writer ← written (writer.writeU64 message.timestampSeconds.toUInt64)
    let writer ← written (writer.writeBytes message.nonce)
    let writer ← written (writer.writeBytes message.authenticationData)
    writer.finish

def decodeWorkerHello : Result WorkerHelloMessage :=
  let (clientId, reader) := readString kMaxProtocolIdentifierBytes payload
  let (generation, reader) := readU64 reader
  let (workerId, reader) := readString kMaxProtocolIdentifierBytes reader
  let (timestamp, reader) := readU64 reader
  let (nonce, reader) := readFixedBytes kAuthenticationNonceSize reader
  let (authenticationData, reader) := readFixedBytes kAuthenticationDataSize reader
  match clientId, generation, workerId, timestamp, nonce, authenticationData with
  | .ok clientId, .ok generation, .ok workerId, .ok timestamp, .ok nonce,
      .ok authenticationData =>
    if generation = 0 ∨ !(validateClientId clientId).isOk ∨
        !(validateConnectionId workerId).isOk ∨ !(requireEnd reader).isOk then
      failure .protocolError "WORKER_HELLO payload is invalid"
    else .ok ⟨clientId, generation, workerId, timestamp.toInt64, nonce, authenticationData⟩
  | _, _, _, _, _, _ => failure .protocolError "WORKER_HELLO payload is invalid"

/-- The messages that carry one connection identifier and nothing else. -/
def encodeConnectionId (connectionId : Bytes) : Result Bytes := do
  validateConnectionId connectionId
  let writer ← written (newWriter.writeString connectionId)
  writer.finish

def decodeConnectionId (message : String) (payload : Bytes) : Result Bytes :=
  match readString kMaxProtocolIdentifierBytes payload with
  | (.ok connectionId, reader) =>
    if !(validateConnectionId connectionId).isOk ∨ !(requireEnd reader).isOk then
      failure .protocolError message
    else .ok connectionId
  | (.error _, _) => failure .protocolError message

def encodeWorkerAccepted (message : WorkerAcceptedMessage) : Result Bytes :=
  encodeConnectionId message.workerId

def decodeWorkerAccepted : Result WorkerAcceptedMessage :=
  (decodeConnectionId "WORKER_ACCEPTED payload is invalid" payload).map WorkerAcceptedMessage.mk

def encodeLocalConnectOk (message : LocalConnectOkMessage) : Result Bytes :=
  encodeConnectionId message.connectionId

def decodeLocalConnectOk : Result LocalConnectOkMessage :=
  (decodeConnectionId "LOCAL_CONNECT_OK payload is invalid" payload).map LocalConnectOkMessage.mk

end Messages

def encodeLocalConnectError (message : LocalConnectErrorMessage) : Result Bytes :=
  if !(validateConnectionId message.connectionId).isOk ∨ message.code = ErrorCode.ok.raw then
    failure .protocolError "LOCAL_CONNECT_ERROR payload is invalid"
  else do
    let writer ← written (newWriter.writeString message.connectionId)
    let writer ← written (writer.writeString (errorCodeToString message.code))
    writer.finish

def decodeLocalConnectError (payload : Bytes) : Result LocalConnectErrorMessage :=
  let (connectionId, reader) := readString kMaxProtocolIdentifierBytes payload
  let (codeText, reader) := readString maxErrorCodeBytes reader
  match connectionId, codeText with
  | .ok connectionId, .ok codeText =>
    match errorCodeFromString codeText with
    | some code =>
      if !(validateConnectionId connectionId).isOk ∨ code = ErrorCode.ok.raw ∨
          !(requireEnd reader).isOk then
        failure .protocolError "LOCAL_CONNECT_ERROR payload is invalid"
      else .ok ⟨connectionId, code⟩
    | none => failure .protocolError "LOCAL_CONNECT_ERROR payload is invalid"
  | _, _ => failure .protocolError "LOCAL_CONNECT_ERROR payload is invalid"

/-! ## Starting a relay -/

/-- `encode_start_relay`.  The mode byte is explicit whenever the source endpoint follows. -/
def encodeStartRelay (message : StartRelayMessage) : Result Bytes :=
  if !(validateTunnelId message.tunnelId).isOk ∨
      !(validateConnectionId message.connectionId).isOk ∨ !validTunnelMode message.mode then
    failure .protocolError "START_RELAY identity is invalid"
  else do
    let writer ← written (newWriter.writeString message.tunnelId)
    let writer ← written (writer.writeString message.connectionId)
    match message.sourceHost, message.sourcePort, message.workerObservedHost with
    | none, none, some _ =>
      failure .invalidArgument
        "START_RELAY worker observed host requires the source endpoint extension"
    | none, none, none =>
      let writer ← written (encodeTunnelMode writer message.mode)
      writer.finish
    | some host, some port, observed =>
      let writer ← written (writer.writeU8 message.mode)
      let writer ← written (writer.writeString host)
      let writer ← written (writer.writeU16 port)
      match observed with
      | none => writer.finish
      | some observed =>
        let writer ← written (writer.writeString observed)
        writer.finish
    | _, _, _ =>
      failure .invalidArgument "START_RELAY source endpoint requires both host and port"

section StartRelay

-- Whether `asio::ip::make_address` accepts a text.
variable (isAddress : Bytes → Bool)

/-- The mode byte of a `START_RELAY`, if any byte is left. -/
def decodeRelayMode (reader : Bytes) : Result (RawTunnelMode × Bytes) :=
  if reader.length = 0 then .ok (0, reader)
  else match readU8 reader with
    | (.ok mode, reader) =>
      if !validTunnelMode mode then failure .protocolError "START_RELAY mode is invalid"
      else if mode = 0 ∧ reader.length = 0 then
        failure .protocolError
          "START_RELAY explicit TCP mode requires the source endpoint extension"
      else .ok (mode, reader)
    | (.error _, _) => failure .protocolError "START_RELAY mode is invalid"

/-- The source endpoint, if any byte is left after the mode. -/
def decodeRelaySource (reader : Bytes) : Result (Option (Bytes × UInt16) × Bytes) :=
  if reader.length = 0 then .ok (none, reader)
  else
    let (host, reader) := readString kMaxTunnelBindHostBytes reader
    let (port, reader) := readU16 reader
    match host, port with
    | .ok host, .ok port =>
      if port = 0 then failure .protocolError "START_RELAY source endpoint is invalid"
      else if !isAddress host then failure .protocolError "START_RELAY source host is invalid"
      else .ok (some (host, port), reader)
    | _, _ => failure .protocolError "START_RELAY source endpoint is invalid"

/-- The worker's observed host, if any byte is left after the source endpoint. -/
def decodeRelayObserved (reader : Bytes) : Result (Option Bytes × Bytes) :=
  if reader.length = 0 then .ok (none, reader)
  else match readString kMaxTunnelBindHostBytes reader with
    | (.ok observed, reader) =>
      if !isAddress observed then
        failure .protocolError "START_RELAY worker observed host is invalid"
      else .ok (some observed, reader)
    | (.error _, _) => failure .protocolError "START_RELAY worker observed host is invalid"

def decodeStartRelay (payload : Bytes) : Result StartRelayMessage :=
  let (tunnelId, reader) := readString kMaxProtocolIdentifierBytes payload
  let (connectionId, reader) := readString kMaxProtocolIdentifierBytes reader
  match tunnelId, connectionId with
  | .ok tunnelId, .ok connectionId =>
    if !(validateTunnelId tunnelId).isOk ∨ !(validateConnectionId connectionId).isOk then
      failure .protocolError "START_RELAY payload is invalid"
    else do
      let (mode, reader) ← decodeRelayMode reader
      let (source, reader) ← decodeRelaySource isAddress reader
      let (observed, reader) ← decodeRelayObserved isAddress reader
      if !(requireEnd reader).isOk then
        failure .protocolError "START_RELAY payload is invalid"
      else pure ⟨tunnelId, connectionId, mode, source.map Prod.fst, source.map Prod.snd, observed⟩
  | _, _ => failure .protocolError "START_RELAY payload is invalid"

end StartRelay

end MiniTun.Protocol
