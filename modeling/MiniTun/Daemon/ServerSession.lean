import MiniTun.Lib.KeyedMap
import MiniTun.Protocol.Messages
import MiniTun.Storage.TunnelRepository

/-!
# The daemon's session with a server

`ServerSession` keeps the tunnels it has registered and the local target of each.
`reconcile_tunnels` brings both in line with the rows it reads: it unregisters
what is stale, refreshes what stays, and registers the rest, each in windows of
requests whose answers it then reads in order.

It is a coroutine, so the model cuts it where it waits.  `phase` says which loop
it is in and what that loop has left to do, `awaited` the requests of the current
window whose answers it has not read.  Whatever it waits for may fail (the
database, the encoder, the transport), and then the whole call fails.
-/

namespace MiniTun.Daemon

open KeyedMap Storage

def tunnelSyncWindow : Nat := 32

def remoteTunnelMode : TunnelProtocol → TunnelMode
  | .udp => .udp
  | .socks5 => .socks5
  | .p2p => .p2p
  | .tcp => .tcp

structure RegisteredTunnel where
  configRevision : Nat
  remoteEndpoint : Endpoint
deriving DecidableEq

structure LocalTunnelTarget where
  endpoint : Endpoint
  proxyProtocol : Bool
deriving DecidableEq

/-- What an outstanding request is for. -/
inductive Awaited where
  | removal (tunnelId : Bytes)
  | registration (row : TunnelRecord)
deriving DecidableEq

def Awaited.tunnelId : Awaited → Bytes
  | .removal tunnelId => tunnelId
  | .registration row => row.id

/-- What a successful `reconcile_tunnels` has read, and the tunnels the server has
refused in it. -/
structure Reconciled where
  tunnels : List TunnelRecord
  rejected : List Bytes
deriving DecidableEq

/-- Where `reconcile_tunnels` is. -/
inductive ReconcilePhase where
  /-- Not running; the last call returned success with the given outcome. -/
  | idle (last : Option Reconciled)
  /-- Unregistering; `stale` is not asked for yet. -/
  | removing (tunnels : List TunnelRecord) (stale : List (Bytes × Nat))
  /-- Going through the rows; `pending` are those to register. -/
  | refreshing (tunnels rows pending : List TunnelRecord)
  /-- Registering; `rows` are not asked for yet. -/
  | registering (tunnels rows : List TunnelRecord) (rejected : List Bytes)
  /-- Failed, and with it the session. -/
  | failed (error : Error)
deriving DecidableEq

/-- The daemon's end of a control session. -/
structure ServerSession where
  serverId : Bytes
  selectedCapabilities : CapabilitySet
  registered : Map Bytes RegisteredTunnel
  localEndpoints : Map Bytes LocalTunnelTarget
  /-- `pending_reconcile_responses_`. -/
  bufferedResponses : Map Nat ControlFrame
  nextRequestId : Nat
  phase : ReconcilePhase
  awaited : List (Nat × Awaited)

/-- Something the coroutine waits for fails; so many frames of the window it was
writing have gone out. -/
structure Interruption where
  error : Error
  written : Nat

/-- How a Worker's attempt to connect ends: it may fail before or after
`LOCAL_CONNECT_OK` has been sent. -/
inductive LocalAttempt where
  | connected
  | refused
  | abandoned
deriving Repr, DecidableEq

/-- What becomes of a public connection. -/
inductive RelayOutcome where
  | relayed (endpoint : Endpoint)
  /-- Relayed to the destination of its own SOCKS5 request. -/
  | proxied
  | localConnectError
  | closed
deriving DecidableEq

/-! ## The pieces of a reconciliation -/

/-- `retained`: the revision of the active row with the given identifier. -/
def retained (tunnels : List TunnelRecord) (tunnelId : Bytes) : Option Nat :=
  (tunnels.find? fun row => row.isActive ∧ row.id = tunnelId).map
    TunnelRecord.configRevision

def registerMessage (row : TunnelRecord) : RegisterTunnelMessage where
  tunnelId := row.id
  bindHost := row.remoteEndpoint.host
  bindPort := row.remoteEndpoint.port
  desiredRevision := row.configRevision
  mode := remoteTunnelMode row.protocol

/-- What `next_request_id` leaves behind. -/
def requestIdAfter (requestId : Nat) : Nat :=
  if requestId + 1 = 2 ^ 64 then 3 else requestId + 1

/-- Give consecutive request identifiers to a window. -/
def numberRequests {α : Type*} : Nat → List α → List (Nat × α)
  | _, [] => []
  | requestId, a :: rest => (requestId, a) :: numberRequests (requestIdAfter requestId) rest

/-- The message that asks for an entry. -/
abbrev WindowRequest := Awaited × ControlMessage

def removalRequest (stale : Bytes × Nat) : WindowRequest :=
  (.removal stale.1, .unregisterTunnel stale.1 stale.2)

def registrationRequest (row : TunnelRecord) : WindowRequest :=
  (.registration row, .registerTunnel (registerMessage row))

def noteRejection (tunnelId : Bytes) : ReconcilePhase → ReconcilePhase
  | .registering tunnels rows rejected => .registering tunnels rows (rejected ++ [tunnelId])
  | phase => phase

namespace ServerSession

section Session

variable (d : ServerSession)

/-- The call ends with an error. -/
def fail (error : Error) : ServerSession :=
  { d with phase := .failed error }

/-- Wait for an operation that changes nothing in the session. -/
def persist : Option Error → ServerSession
  | none => d
  | some error => d.fail error

def answerPing (requestId sequence : Nat) :
    Option Error → ServerSession × List ControlFrame
  | none => (d, [⟨requestId, .pong sequence⟩])
  | some error => (d.fail error, [])

/-- `stale_tunnels`.  The order in which the table is traversed is unspecified. -/
def staleTunnels (tunnels : List TunnelRecord) (order : List Bytes) : List (Bytes × Nat) :=
  order.filterMap fun tunnelId =>
    match d.registered.lookup tunnelId with
    | none => none
    | some registered =>
      if retained tunnels tunnelId = some registered.configRevision then none
      else some (tunnelId, registered.configRevision)

/-- The start of `reconcile_tunnels`; `order` is the order of `registered_tunnels_`. -/
def startReconcile (database : Result Tunnels) (order : List Bytes) : ServerSession :=
  match d.phase, database with
  | .idle _, .error error => d.fail error
  | .idle _, .ok tunnels =>
    if order.Perm d.registered.keys then
      let rows := listByServer tunnels d.serverId
      { d with phase := .removing rows (d.staleTunnels rows order) }
    else d
  | _, _ => d

/-- Number and write a window of requests. -/
def sendWindow (window : List WindowRequest) (next : ReconcilePhase)
    (interruption : Option Interruption) : ServerSession × List ControlFrame :=
  let numbered := numberRequests d.nextRequestId window
  let (sent, phase) := match interruption with
    | none => (numbered, next)
    | some i => (numbered.take i.written, .failed i.error)
  ({ d with
      nextRequestId := Nat.repeat requestIdAfter window.length d.nextRequestId
      phase := phase
      awaited := sent.map fun request => (request.1, request.2.1) },
    sent.map fun request => ⟨request.1, request.2.2⟩)

/-- One turn of the loop that collects `pending_registrations`. -/
def refreshRow (tunnels rows pending : List TunnelRecord) (row : TunnelRecord)
    (fault : Option Error) : ServerSession :=
  let proceed := fun pending => { d with phase := .refreshing tunnels rows pending }
  if row.isActive = false then proceed pending
  else if (d.registered.lookup row.id).isSome then
    let refreshed := { proceed pending with
      localEndpoints := d.localEndpoints.insert row.id ⟨row.localEndpoint, row.proxyProtocol⟩ }
    refreshed.persist (if row.actualState ≠ .active then fault else none)
  else if supportsTunnelMode d.selectedCapabilities (remoteTunnelMode row.protocol) = false then
    (proceed pending).persist
      (if row.actualState ≠ .failed ∨ row.lastErrorCode ≠ some .unsupportedVersion then fault
        else none)
  else proceed (pending ++ [row])

def finish (tunnels : List TunnelRecord) (rejected : List Bytes) : ServerSession :=
  { d with
    localEndpoints := retainKeys (fun id => (retained tunnels id).isSome) d.localEndpoints
    phase := .idle (some ⟨tunnels, rejected⟩) }

/-- The coroutine goes on until it waits again, not for an answer. -/
def advance (interruption : Option Interruption) : ServerSession × List ControlFrame :=
  let fault := interruption.map Interruption.error
  match d.awaited, d.phase with
  | [], .removing tunnels [] =>
    -- purging the tombstones
    ({ d with phase := .refreshing tunnels tunnels [] }.persist fault, [])
  | [], .removing tunnels stale =>
    d.sendWindow ((stale.take tunnelSyncWindow).map removalRequest)
      (.removing tunnels (stale.drop tunnelSyncWindow)) interruption
  | [], .refreshing tunnels [] pending => ({ d with phase := .registering tunnels pending [] }, [])
  | [], .refreshing tunnels (row :: rows) pending =>
    (d.refreshRow tunnels rows pending row fault, [])
  | [], .registering tunnels [] rejected => (d.finish tunnels rejected, [])
  | [], .registering tunnels rows rejected =>
    d.sendWindow ((rows.take tunnelSyncWindow).map registrationRequest)
      (.registering tunnels (rows.drop tunnelSyncWindow) rejected) interruption
  | _, _ => (d, [])

/-! ## Reading -/

def protocolError (message : String) : ServerSession :=
  d.fail ⟨.protocolError, message⟩

/-- What the two loops do with the answer to a request. -/
def handleResponse (request : Awaited) (rest : List (Nat × Awaited)) (message : ControlMessage)
    (fault : Option Error) : ServerSession :=
  match request with
  | .removal tunnelId =>
    match message, d.registered.lookup tunnelId with
    | .unregisterTunnelOk removedId desiredRevision, some registered =>
      if removedId = tunnelId ∧ desiredRevision = registered.configRevision then
        { d with
          registered := d.registered.erase tunnelId
          localEndpoints := d.localEndpoints.erase tunnelId
          awaited := rest }.persist fault
      else d.protocolError "remote tunnel removal response is invalid"
    | _, _ => d.protocolError "remote tunnel removal response is invalid"
  | .registration row =>
    match message with
    | .registerTunnelOk acceptedId desiredRevision =>
      if acceptedId = row.id ∧ desiredRevision = row.configRevision then
        { d with
          registered := d.registered.insert row.id ⟨row.configRevision, row.remoteEndpoint⟩
          localEndpoints := d.localEndpoints.insert row.id ⟨row.localEndpoint, row.proxyProtocol⟩
          awaited := rest }.persist fault
      else d.protocolError "remote tunnel registration response is invalid"
    | .registerTunnelError rejectedId _ desiredRevision =>
      if rejectedId = row.id ∧ desiredRevision = row.configRevision then
        { d with phase := noteRejection row.id d.phase, awaited := rest }.persist fault
      else d.protocolError "remote tunnel registration error is invalid"
    | _ =>
      { d with localEndpoints := d.localEndpoints.erase row.id }.protocolError
        "remote server returned an unexpected tunnel registration response"

/-- `read_reconcile_response` on the next frame, while the answer to `request` is
awaited. -/
def readResponse (requestId : Nat) (request : Awaited) (rest : List (Nat × Awaited))
    (frame : ControlFrame) (fault : Option Error) : ServerSession × List ControlFrame :=
  match frame.message with
  | .ping sequence => d.answerPing frame.requestId sequence fault
  | .requestWorkers _ => (d.persist fault, [])
  | message =>
    if frame.requestId = requestId then (d.handleResponse request rest message fault, [])
    else if frame.isResponse = false ∨ frame.requestId = 0 ∨
        tunnelSyncWindow ≤ size d.bufferedResponses ∨
        (d.bufferedResponses.lookup frame.requestId).isSome then
      (d.protocolError "remote control response correlation is invalid", [])
    else
      ({ d with bufferedResponses := d.bufferedResponses.insert frame.requestId frame }, [])

/-- `heartbeat_loop` on the next frame. -/
def readIdle (frame : ControlFrame) (fault : Option Error) : ServerSession × List ControlFrame :=
  match frame.message with
  | .ping sequence => d.answerPing frame.requestId sequence fault
  | .requestWorkers _ => (d.persist fault, [])
  | .goaway | .error =>
    (d.fail ⟨.connectionFailed, "remote server closed the control session"⟩, [])
  | _ => (d.protocolError "remote server sent an unexpected control message", [])

/-- Whether the session is waiting for a frame. -/
def reading : Bool :=
  match d.phase with
  | .failed _ => false
  | .idle _ => true
  | _ => d.awaited ≠ []

/-- Read the next frame of the channel, or the answer that came before its turn:
the session, the frames it sends, and what is left of the channel. -/
def receive (channel : List ControlFrame) (fault : Option Error) :
    ServerSession × List ControlFrame × List ControlFrame :=
  if d.reading = false then (d, [], channel)
  else match d.awaited with
    | [] =>
      match channel with
      | [] => (d, [], [])
      | frame :: channel =>
        let (d', sent) := d.readIdle frame fault
        (d', sent, channel)
    | (requestId, request) :: rest =>
      match d.bufferedResponses.lookup requestId, channel with
      | some frame, channel =>
        let taken := { d with bufferedResponses := d.bufferedResponses.erase requestId }
        (taken.handleResponse request rest frame.message fault, [], channel)
      | none, [] => (d, [], [])
      | none, frame :: channel =>
        let (d', sent) := d.readResponse requestId request rest frame fault
        (d', sent, channel)

/-! ## Workers -/

def resolveLocalEndpoint (tunnelId : Bytes) : Result Endpoint :=
  match d.localEndpoints.lookup tunnelId with
  | none => failure .notFound "Worker referenced an inactive local tunnel"
  | some target => .ok target.endpoint

/-- `WorkerSession::run`, from `START_RELAY` on. -/
def startRelay (m : StartRelayMessage) (attempt : LocalAttempt) : RelayOutcome :=
  match m.mode with
  | .socks5 =>
    -- no local target: the destination is in the relayed bytes
    if attempt = .connected then .proxied else .closed
  | .udp | .p2p | .tcp =>
    match d.resolveLocalEndpoint m.tunnelId with
    | .error _ => .localConnectError
    | .ok endpoint =>
      match attempt with
      | .connected => .relayed endpoint
      | .refused => .localConnectError
      | .abandoned => .closed

end Session

end ServerSession

end MiniTun.Daemon
