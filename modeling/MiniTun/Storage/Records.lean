import MiniTun.Common.Address
import MiniTun.Common.Id
import MiniTun.Lib.Table

/-!
# Tunnel rows

The rows of the daemon's `tunnels` table and the constraints its schema declares.
Columns hold texts as byte strings: what reaches an error message comes from the
network.
-/

namespace MiniTun.Storage

open Relational

inductive TunnelProtocol where
  | tcp
  | udp
  | socks5
  | p2p
deriving Repr, DecidableEq

inductive TunnelDesiredState where
  | active
  | disabled
  | removed
deriving Repr, DecidableEq

inductive TunnelActualState where
  | pending
  | registering
  | active
  | failed
  | removing
  | disabled
deriving Repr, DecidableEq

/-- A `common::Error` as it is stored. -/
structure RecordedError where
  code : ErrorCode
  message : Bytes
deriving Repr, DecidableEq

/-- `TunnelRecord`.  Times are Unix milliseconds. -/
structure TunnelRecord where
  id : Bytes
  name : Option Bytes
  serverId : Bytes
  protocol : TunnelProtocol
  localEndpoint : Endpoint
  remoteEndpoint : Endpoint
  desiredState : TunnelDesiredState
  actualState : TunnelActualState
  lastErrorCode : Option ErrorCode
  lastErrorMessage : Option Bytes
  createdAt : Int
  updatedAt : Int
  lastSyncedAt : Option Int
  configRevision : Nat
  managedByConfig : Bool
  proxyProtocol : Bool
deriving Repr, DecidableEq

def TunnelRecord.isActive (row : TunnelRecord) : Bool :=
  row.desiredState = .active

def maxNameBytes : Nat := 64
def maxErrorMessageBytes : Nat := 4096
def maxConfigRevision : Nat := 2 ^ 63 - 1

/-- The times of a row: `created_at ≤ last_synced_at ≤ updated_at`. -/
structure TunnelRecord.Timed (row : TunnelRecord) : Prop where
  created : 0 ≤ row.createdAt
  updated : row.createdAt ≤ row.updatedAt
  synced : ∀ time ∈ row.lastSyncedAt, row.createdAt ≤ time ∧ time ≤ row.updatedAt

instance (row : TunnelRecord) : Decidable row.Timed :=
  decidable_of_iff (0 ≤ row.createdAt ∧ row.createdAt ≤ row.updatedAt ∧
      ∀ time ∈ row.lastSyncedAt, row.createdAt ≤ time ∧ time ≤ row.updatedAt)
    ⟨fun ⟨h₁, h₂, h₃⟩ => ⟨h₁, h₂, h₃⟩, fun ⟨h₁, h₂, h₃⟩ => ⟨h₁, h₂, h₃⟩⟩

def validLastError (code : Option ErrorCode) (message : Option Bytes) : Bool :=
  code ≠ some .ok ∧ message.all fun text => text.length ≤ maxErrorMessageBytes

/-- The `CHECK`s of the table on the columns that name and configure a tunnel. -/
def TunnelRecord.validConfiguration (row : TunnelRecord) : Bool :=
  validId .tunnel row.id ∧ validId .server row.serverId ∧
    (row.name.all fun name => 1 ≤ name.length ∧ name.length ≤ maxNameBytes) ∧
    [row.localEndpoint, row.remoteEndpoint].all (fun endpoint =>
      1 ≤ endpoint.host.length ∧ endpoint.host.length ≤ 254 ∧
        1 ≤ endpoint.port ∧ endpoint.port ≤ 65535) ∧
    1 ≤ row.configRevision ∧ row.configRevision ≤ maxConfigRevision

/-- The `CHECK`s of the table. -/
structure TunnelRecord.Checked (row : TunnelRecord) : Prop where
  configuration : row.validConfiguration = true
  lastError : validLastError row.lastErrorCode row.lastErrorMessage = true
  timed : row.Timed

instance : DecidablePred TunnelRecord.Checked := fun row =>
  decidable_of_iff (row.validConfiguration = true ∧
      validLastError row.lastErrorCode row.lastErrorMessage = true ∧ row.Timed)
    ⟨fun ⟨h₁, h₂, h₃⟩ => ⟨h₁, h₂, h₃⟩, fun ⟨h₁, h₂, h₃⟩ => ⟨h₁, h₂, h₃⟩⟩

def tunnelSchema : Schema TunnelRecord Bytes (Bytes × TunnelProtocol × Endpoint) where
  key := TunnelRecord.id
  unique row := (row.serverId, row.protocol, row.remoteEndpoint)
  Check := TunnelRecord.Checked
  decidableCheck := inferInstance

abbrev Tunnels := Table tunnelSchema

/-! ## Texts -/

def isUtf8Continuation (b : UInt8) : Bool :=
  0x80 ≤ b ∧ b ≤ 0xbf

def isValidUtf8 : Bytes → Bool
  | [] => true
  | first :: rest =>
    if first ≤ 0x7f then isValidUtf8 rest
    else if 0xc2 ≤ first ∧ first ≤ 0xdf then
      match rest with
      | second :: tail => isUtf8Continuation second && isValidUtf8 tail
      | _ => false
    else if 0xe0 ≤ first ∧ first ≤ 0xef then
      match rest with
      | second :: third :: tail =>
        isUtf8Continuation third &&
          ((first = 0xe0 ∧ 0xa0 ≤ second ∧ second ≤ 0xbf) ||
            (first = 0xed ∧ 0x80 ≤ second ∧ second ≤ 0x9f) ||
            (((0xe1 ≤ first ∧ first ≤ 0xec) ∨ (0xee ≤ first ∧ first ≤ 0xef)) ∧
              isUtf8Continuation second)) &&
          isValidUtf8 tail
      | _ => false
    else if 0xf0 ≤ first ∧ first ≤ 0xf4 then
      match rest with
      | second :: third :: fourth :: tail =>
        isUtf8Continuation third && isUtf8Continuation fourth &&
          ((first = 0xf0 ∧ 0x90 ≤ second ∧ second ≤ 0xbf) ||
            (first = 0xf4 ∧ 0x80 ≤ second ∧ second ≤ 0x8f) ||
            ((0xf1 ≤ first ∧ first ≤ 0xf3) ∧ isUtf8Continuation second)) &&
          isValidUtf8 tail
      | _ => false
    else false

def validateText (value : Bytes) (minimumBytes maximumBytes : Nat) (field : String) :
    Result Unit :=
  if value.length < minimumBytes ∨ maximumBytes < value.length then
    failure .invalidArgument (field ++ " is outside its byte-length limit")
  else if (0 : UInt8) ∈ value then
    failure .invalidArgument (field ++ " must not contain NUL bytes")
  else if isValidUtf8 value = false then
    failure .invalidArgument (field ++ " must contain valid UTF-8")
  else .ok ()

end MiniTun.Storage
