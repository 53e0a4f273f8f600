import MiniTun.Server.StartRelay
import MiniTun.System.ControlPlane

/-!
# Public connections

A public connection is accepted by a listener, waits for an idle worker of the
session that owns the listener, and is handed to it; the worker's session sends
`START_RELAY`, and the daemon's Worker looks up where to connect.  Each hand-over
is asynchronous, so the control session runs on between any two of them.

`held` records every local endpoint the daemon has had for a tunnel at a
revision.
-/

namespace MiniTun.System

open Daemon KeyedMap Server Storage TransitionSystem

/-- Where a public connection is. -/
inductive Stage where
  /-- Accepted, with the completion handler queued on the strand; the listener may
  be stopped before it runs. -/
  | accepted
  /-- In `pending_connections_by_session_`. -/
  | pending
  /-- Taken by a worker's assignment handler. -/
  | assigned (workerId : Bytes)
  /-- `START_RELAY` is on its way. -/
  | starting
  | resolved (outcome : RelayOutcome)
deriving DecidableEq

def Stage.isOpen : Stage → Bool
  | .resolved _ => false
  | _ => true

/-- A public connection with the binding of the listener that accepted it. -/
structure PublicConnection where
  binding : TunnelBinding
  stage : Stage
deriving DecidableEq

/-- The control plane with the public connections. -/
structure RelayPlane where
  control : ControlPlane
  connections : Map Nat PublicConnection
  /-- The pending connections of the session, oldest first. -/
  queue : List Nat
  held : List (Bytes × Nat × Endpoint)

/-- What happens to the session and the connections. -/
inductive RelayEvent where
  | control (e : ControlEvent)
  /-- The listener of a tunnel accepts a connection. -/
  | accept (connectionId : Nat) (tunnelId : Bytes)
  /-- The completion handler runs; `admitted` is the verdict of the source policy
  and of the quota, `order` that of the worker table. -/
  | handlePublicConnection (connectionId : Nat) (admitted : Bool) (order : List Bytes)
  | notifyWorkerAvailable (order : List Bytes)
  /-- The deadline of a pending connection expires. -/
  | expire (connectionId : Nat)
  /-- The assignment handler runs on the executor of the worker's session, which may
  be stopping or gone, and writes `START_RELAY`. -/
  | deliver (connectionId : Nat) (worker : SessionKey) (written : Bool)
  /-- The daemon's Worker reads `START_RELAY`. -/
  | startRelay (connectionId : Nat) (attempt : LocalAttempt)
  /-- The worker's connection breaks. -/
  | drop (connectionId : Nat)

/-- The local endpoints of the registered tunnels, with their revisions. -/
def holdings (d : ServerSession) : List (Bytes × Nat × Endpoint) :=
  d.localEndpoints.entries.filterMap fun entry =>
    (d.registered.lookup entry.1).map fun registered =>
      (entry.1, registered.configRevision, entry.2.endpoint)

/-- What a `START_RELAY` of this binding says about where to connect. -/
def startRelayMessage (b : TunnelBinding) : StartRelayMessage :=
  ⟨b.tunnelId, b.mode⟩

/-- The Worker reads from the payload the tunnel and the mode of the binding, and no others,
whatever addresses it carries. -/
theorem decode_assignmentMessage {isAddress : Bytes → Bool} {caps : CapabilitySet}
    {b : TunnelBinding} {connectionId p : Bytes} {peers : RelayPeers}
    (hp : Protocol.encodeStartRelay (assignmentMessage caps b connectionId peers) = .ok p)
    (haddressed : (assignmentMessage caps b connectionId peers).Addressed isAddress) :
    ∃ wire, Protocol.decodeStartRelay isAddress p = .ok wire ∧
      ∀ m : StartRelayMessage, wire.tunnelId = m.tunnelId ∧ wire.mode = m.mode.code ↔
        m = startRelayMessage b := by
  obtain ⟨hvalid, hlayout⟩ := Protocol.encodeStartRelay_eq_ok.1 hp
  refine ⟨_, Protocol.decodeStartRelay_eq_ok.2 ⟨⟨haddressed, hvalid⟩, hlayout⟩, fun m => ?_⟩
  constructor
  · rintro ⟨hid, hmode⟩
    have hmode := TunnelMode.code_injective hmode
    cases m
    cases hid
    cases hmode
    rfl
  · rintro rfl
    exact ⟨rfl, rfl⟩

namespace RelayPlane

variable (net : AddressText) (key : SessionKey)

section Steps

variable (rp : RelayPlane)

def controlStep (e : ControlEvent) : RelayPlane :=
  let control := rp.control.step net key e
  { rp with control := control, held := rp.held ++ holdings control.daemon }

variable (connectionId : Nat)

def setStage (stage : Stage) : RelayPlane :=
  match rp.connections.lookup connectionId with
  | none => rp
  | some c =>
    { rp with connections := rp.connections.insert connectionId { c with stage := stage } }

/-- `pending_connection_finished`. -/
def leaveQueue (stage : Stage) : RelayPlane :=
  { rp.setStage connectionId stage with queue := rp.queue.erase connectionId }

/-- The start of an asynchronous accept's completion. -/
def accept (tunnelId : Bytes) : RelayPlane :=
  match rp.connections.lookup connectionId, rp.control.server.sessions.lookup key with
  | none, some session =>
    match rp.control.server.tunnelRegistry.listenerOf session.clientId tunnelId with
    | none => rp
    | some b => { rp with connections := rp.connections.insert connectionId ⟨b, .accepted⟩ }
  | _, _ => rp

def tryAssign (order : List Bytes) : Bool × RelayPlane :=
  match rp.connections.lookup connectionId with
  | some ⟨b, .pending⟩ =>
    if rp.control.server.sessionRegistry.isCurrent b.clientId b.sessionGeneration = false then
      (false, rp.leaveQueue connectionId (.resolved .closed))
    else match rp.control.server.workerPool.assign b order with
      | none => (false, rp)
      | some workerId =>
        (true, (rp.leaveQueue connectionId (.assigned workerId)).controlStep net key
          (.strand (.assignWorker workerId)))
  | _ => (false, rp)

def handlePublicConnection (admitted : Bool) (order : List Bytes) : RelayPlane :=
  match rp.connections.lookup connectionId with
  | some ⟨b, .accepted⟩ =>
    if (rp.control.server.policies.find b.clientId).any (fun policy => policy.enabled) = false ∨
        admitted = false then
      rp.setStage connectionId (.resolved .closed)
    else
      let waiting := { rp.setStage connectionId .pending with queue := rp.queue ++ [connectionId] }
      -- only the first waiter tries at once
      if rp.queue = [] then (waiting.tryAssign net key connectionId order).2 else waiting
  | _ => rp

end Steps

/-- The loop of `notify_worker_available`: it goes on past a connection only when
that has been closed. -/
def notifyLoop (order : List Bytes) : List Nat → RelayPlane → RelayPlane
  | [], rp => rp
  | connectionId :: rest, rp =>
    match rp.tryAssign net key connectionId order with
    | (true, rp') => rp'
    | (false, rp') =>
      if connectionId ∈ rp'.queue then rp' else notifyLoop order rest rp'

/-- The assignment handler of a worker's session, and `handle_worker_assignment` up to
`START_RELAY`. -/
def deliver (rp : RelayPlane) (connectionId : Nat) (worker : SessionKey) (written : Bool) :
    RelayPlane :=
  match rp.connections.lookup connectionId with
  | some ⟨_, .assigned workerId⟩ =>
    match rp.control.server.sessions.lookup worker with
    | none => rp.setStage connectionId (.resolved .closed)
    | some session =>
      if session.stopRequested = false ∧
          session.role = .worker session.generation workerId .idle then
        (rp.setStage connectionId (if written then .starting else .resolved .closed)).controlStep
          net key (.strand (.session worker (.workerNotified true)))
      else rp.setStage connectionId (.resolved .closed)
  | _ => rp

def step (rp : RelayPlane) : RelayEvent → RelayPlane
  | .control e => rp.controlStep net key e
  | .accept connectionId tunnelId => rp.accept key connectionId tunnelId
  | .handlePublicConnection connectionId admitted order =>
    if order.Perm rp.control.server.workerPool.entries.keys then
      rp.handlePublicConnection net key connectionId admitted order
    else rp
  | .notifyWorkerAvailable order =>
    if order.Perm rp.control.server.workerPool.entries.keys then
      notifyLoop net key order rp.queue rp
    else rp
  | .expire connectionId =>
    match rp.connections.lookup connectionId with
    | some ⟨_, .pending⟩ => rp.leaveQueue connectionId (.resolved .closed)
    | _ => rp
  | .deliver connectionId worker written => rp.deliver net key connectionId worker written
  | .startRelay connectionId attempt =>
    match rp.connections.lookup connectionId with
    | some ⟨b, .starting⟩ =>
      rp.setStage connectionId
        (.resolved (rp.control.daemon.startRelay (startRelayMessage b) attempt))
    | _ => rp
  | .drop connectionId =>
    match rp.connections.lookup connectionId with
    | some ⟨_, .assigned _⟩ | some ⟨_, .starting⟩ =>
      rp.setStage connectionId (.resolved .closed)
    | _ => rp

end RelayPlane

end MiniTun.System
