import MiniTun.Storage.Records

/-!
# Server rows

The rows of the daemon's `servers` table, the constraints its schema declares, and
the validation a record passes before it is written and after it is read.  A state
that is no enumerator does not pass it, so the states are the enumerators here.
-/

namespace MiniTun.Storage

open Relational

inductive ServerDesiredState where
  | enabled
  | disabled
  | removed
deriving Repr, DecidableEq

inductive ServerActualState where
  | notAuthenticated
  | disconnected
  | connecting
  | tlsHandshake
  | authenticating
  | online
  | backoff
  | disabled
  | error
deriving Repr, DecidableEq

/-- `ServerRecord`.  Times are Unix milliseconds. -/
structure ServerRecord where
  id : Bytes
  name : Option Bytes
  endpoint : Endpoint
  credentialRef : Option Bytes
  remoteServerId : Option Bytes
  desiredState : ServerDesiredState
  actualState : ServerActualState
  lastErrorCode : Option ErrorCode
  lastErrorMessage : Option Bytes
  reconnectAttempt : Nat
  latencyMs : Option Int
  createdAt : Int
  updatedAt : Int
  tlsServerName : Option Bytes
  caCredentialRef : Option Bytes
  clientCertificateRef : Option Bytes
  clientPrivateKeyRef : Option Bytes
  configRevision : Nat
  managedByConfig : Bool
deriving Repr, DecidableEq

def maxCredentialReferenceBytes : Nat := 256
def maxRemoteServerIdBytes : Nat := 256
def maxTlsServerNameBytes : Nat := 253
def maxInt32 : Nat := 2 ^ 31 - 1

/-! ## Validation -/

def validateOptionalText (value : Option Bytes) (minimumBytes maximumBytes : Nat)
    (field : String) : Result Unit :=
  match value with
  | none => .ok ()
  | some text => validateText text minimumBytes maximumBytes field

def validateErrorFields (code : Option ErrorCode) (message : Option Bytes) : Result Unit :=
  if code = some .ok then
    failure .invalidArgument "last_error_code must be a known non-ok error code"
  else validateOptionalText message 0 maxErrorMessageBytes "last_error_message"

def validateServerRecord (record : ServerRecord) : Result Unit := do
  if !validId .server record.id then
    failure .invalidArgument "server record ID must use the server ID namespace"
  else
    validateOptionalText record.name 1 maxNameBytes "server name"
    validateOptionalText record.credentialRef 1 maxCredentialReferenceBytes "credential reference"
    validateOptionalText record.remoteServerId 1 maxRemoteServerIdBytes "remote server ID"
    validateOptionalText record.tlsServerName 1 maxTlsServerNameBytes "TLS server name"
    validateOptionalText record.caCredentialRef 1 maxCredentialReferenceBytes
      "CA credential reference"
    validateOptionalText record.clientCertificateRef 1 maxCredentialReferenceBytes
      "client certificate reference"
    validateOptionalText record.clientPrivateKeyRef 1 maxCredentialReferenceBytes
      "client private-key reference"
    if record.clientCertificateRef.isSome ≠ record.clientPrivateKeyRef.isSome then
      failure .invalidArgument "client certificate and private-key references must be paired"
    else if record.configRevision = 0 ∨ maxConfigRevision < record.configRevision then
      failure .invalidArgument "server configuration revision is outside the storage limit"
    else
      validateErrorFields record.lastErrorCode record.lastErrorMessage
      if maxInt32 < record.reconnectAttempt then
        failure .invalidArgument "reconnect_attempt exceeds the storage limit"
      else if record.latencyMs.any fun latency => latency < 0 ∨ (maxInt32 : Int) < latency then
        failure .invalidArgument "latency_ms exceeds the storage limit"
      else if record.createdAt < 0 ∨ record.updatedAt < record.createdAt then
        failure .invalidArgument "server timestamps must be non-negative and monotonic"
      else pure ()

def validateTunnelRecord (record : TunnelRecord) : Result Unit := do
  if !validId .tunnel record.id ∨ !validId .server record.serverId then
    failure .invalidArgument "tunnel record contains an ID from the wrong namespace"
  else
    validateOptionalText record.name 1 maxNameBytes "tunnel name"
    validateErrorFields record.lastErrorCode record.lastErrorMessage
    if record.configRevision = 0 ∨ maxConfigRevision < record.configRevision then
      failure .invalidArgument "tunnel configuration revision is outside the storage limit"
    else if record.createdAt < 0 ∨ record.updatedAt < record.createdAt ∨
        record.lastSyncedAt.any fun time => time < record.createdAt ∨ record.updatedAt < time then
      failure .invalidArgument "tunnel timestamps must be non-negative and monotonic"
    else pure ()

end MiniTun.Storage
