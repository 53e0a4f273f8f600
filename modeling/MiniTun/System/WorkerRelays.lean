import MiniTun.Server.StartRelay
import MiniTun.System.ControlPlane

/-!
# A control session and its Worker connections

The control plane of one daemon, and on the server everything that lies between a
public connection and its `START_RELAY`: a listener accepts it, a worker of the
listener's generation is taken from the pool, and the assignment handler stored with
that worker hands the connection to the session that registered it.  The server's
strand is unrestricted: any number of clients, sessions and workers run beside the
daemon, and policies change.

The capability sets are arbitrary; the daemon refuses one that is not part of its offer.

`selected`, `requests` and `relays` are the history: the sets of the control sessions
that have opened a generation, and the two kinds of messages that depend on them.
-/

namespace MiniTun.System

open Daemon KeyedMap Server

/-- The set a control session has selected, with the generation it has opened. -/
structure Selection where
  clientId : Bytes
  generation : Nat
  capabilities : CapabilitySet
deriving DecidableEq

def selectionOf (session : ControlSession) : Option Selection :=
  session.openGeneration.map fun generation =>
    ⟨session.clientId, generation, session.selectedCapabilities⟩

/-- The selections of the control sessions that are open. -/
def openSelections (sessions : Map SessionKey ControlSession) : List Selection :=
  sessions.entries.filterMap fun entry => selectionOf entry.2

/-- A `START_RELAY`, with the client and the generation of the worker's session. -/
structure EmittedRelay where
  clientId : Bytes
  generation : Nat
  message : Protocol.StartRelayMessage
  payload : Bytes

/-- The frames the daemon sends in a step. -/
def ControlPlane.sends (cp : ControlPlane) : ControlEvent → List ControlFrame
  | .advance interruption => (cp.daemon.advance interruption).2
  | .daemonReads fault => (cp.daemon.receive cp.toDaemon fault).2.1
  | _ => []

def registrations (frames : List ControlFrame) : List RegisterTunnelMessage :=
  frames.filterMap fun frame =>
    match frame.message with
    | .registerTunnel m => some m
    | _ => none

/-- A control plane, with what was selected and what has gone out. -/
structure WorkerPlane where
  /-- What the daemon has offered in `HELLO`. -/
  offered : CapabilitySet
  control : ControlPlane
  /-- The server's end of the daemon's control session, once it is authenticated. -/
  link : Option (SessionKey × Selection)
  /-- Every session the server has ever accepted; a name is not used twice. -/
  accepted : List SessionKey
  /-- `selected_capabilities_` of the worker sessions. -/
  adopted : Map SessionKey CapabilitySet
  /-- The session behind the assignment handler of each worker. -/
  handlers : Map Bytes SessionKey
  /-- The public connections that no worker has yet. -/
  connections : Map Nat TunnelBinding
  /-- `worker_assignment_`, from the moment its handler is posted. -/
  assignments : Map SessionKey TunnelBinding
  selected : List Selection
  requests : List RegisterTunnelMessage
  relays : List EmittedRelay

/-- What happens on either side. -/
inductive WorkerEvent where
  /-- A task of the server's strand. -/
  | strand (e : Server.Event)
  /-- The daemon reads `AUTH_OK` of the control session the server keeps under the key. -/
  | authenticated (key : SessionKey)
  /-- The daemon's session goes on, or the server serves it. -/
  | control (e : ControlEvent)
  /-- A worker's session asks for the capabilities of its control session. -/
  | adopt (worker : SessionKey) (order : List SessionKey)
  /-- A listener accepts a public connection. -/
  | accept (connection : Nat) (listener : Bytes)
  /-- A public connection is handed to an idle worker. -/
  | assign (connection : Nat) (order : List Bytes)
  /-- `handle_worker_assignment`, with the identifier it draws. -/
  | startRelay (worker : SessionKey) (connectionId : Bytes) (peers : RelayPeers)

namespace WorkerPlane

/-- The server before its first connection, and a daemon before its first attempt. -/
def initial (offered : CapabilitySet) (policies : PolicySnapshot) (maxClients : Nat)
    (allowedPorts : PortRange)
    (maxTunnelsPerClient maxTotalTunnels maxIdleWorkers maxTotalIdleWorkers : Nat)
    (serverId : Bytes) : WorkerPlane where
  offered := offered
  control := {
    server := {
      policies := policies
      sessionRegistry := .empty maxClients
      tunnelRegistry := .empty allowedPorts maxTunnelsPerClient maxTotalTunnels
      workerPool := .empty maxIdleWorkers maxTotalIdleWorkers
      sessions := ∅
      postedPasses := [] }
    daemon := {
      serverId := serverId
      selectedCapabilities := 0
      registered := ∅
      localEndpoints := ∅
      bufferedResponses := ∅
      nextRequestId := 3
      phase := .idle none
      awaited := [] }
    toServer := []
    toDaemon := [] }
  link := none
  accepted := []
  adopted := ∅
  handlers := ∅
  connections := ∅
  assignments := ∅
  selected := []
  requests := []
  relays := []

section Steps

variable (wp : WorkerPlane)

/-- Whether the strand may run the task as it stands: a session is accepted under a new
name, a worker registers after it has adopted its capabilities, and workers are only
taken by `assign`. -/
def admits : Server.Event → Bool
  | .accept key => key ∉ wp.accepted
  | .session key .registerWorker => (wp.adopted.lookup key).isSome
  | .assignWorker _ => false
  | _ => true

/-- What a task of the strand leaves in the tables beside it. -/
def strand (net : AddressText) (wp : WorkerPlane) (e : Server.Event) : WorkerPlane :=
  let server := Server.step net wp.control.server e
  { wp with
    control := { wp.control with server := server }
    accepted := match e with
      | .accept key => key :: wp.accepted
      | _ => wp.accepted
    handlers := match wp.control.server.addedWorker e with
      | some (workerId, key) => wp.handlers.insert workerId key
      | none => wp.handlers
    selected := wp.selected ++ openSelections server.sessions }

/-- The daemon checks the selection against its offer and adopts it. -/
def authenticated (key : SessionKey) : WorkerPlane :=
  match wp.link, (wp.control.server.sessions.lookup key).bind selectionOf with
  | none, some selection =>
    if selection.capabilities &&& wp.offered ≠ selection.capabilities then wp
    else
      { wp with
        link := some (key, selection)
        control := { wp.control with
          daemon := { wp.control.daemon with selectedCapabilities := selection.capabilities } } }
  | _, _ => wp

def controlStep (net : AddressText) (wp : WorkerPlane) (e : ControlEvent) : WorkerPlane :=
  match wp.link, e with
  | none, _ | _, .strand _ => wp
  | some (key, _), e =>
    let control := wp.control.step net key e
    { wp with
      control := control
      requests := wp.requests ++ registrations (wp.control.sends e) }

/-- The part of `run_worker` between `WORKER_HELLO` and `register_worker`. -/
def adopt (worker : SessionKey) (order : List SessionKey) : WorkerPlane :=
  match wp.control.server.sessions.lookup worker with
  | none => wp
  | some session =>
    match session.role with
    | .worker generation _ .greeted =>
      if order.Perm wp.control.server.sessions.keys then
        { wp with
          adopted := wp.adopted.insert worker
            (wp.control.server.controlSessionCapabilities order session.clientId generation) }
      else wp
    | _ => wp

def accept (connection : Nat) (listener : Bytes) : WorkerPlane :=
  match wp.control.server.tunnelRegistry.listeners.lookup listener with
  | none => wp
  | some b => { wp with connections := wp.connections.insert connection b }

/-- `PendingPublicConnection::try_assign`: the worker leaves the pool and its handler is
posted. -/
def tryAssign (connection : Nat) (order : List Bytes) : WorkerPlane :=
  match wp.connections.lookup connection with
  | none => wp
  | some b =>
    if wp.control.server.sessionRegistry.isCurrent b.clientId b.sessionGeneration = false then
      { wp with connections := wp.connections.erase connection }
    else match wp.control.server.workerPool.assign b order with
    | none => wp
    | some workerId =>
      match wp.handlers.lookup workerId with
      | none => wp
      | some key =>
        { wp with
          control := { wp.control with server := { wp.control.server with
            workerPool := wp.control.server.workerPool.remove workerId } }
          connections := wp.connections.erase connection
          assignments := wp.assignments.insert key b }

/-- `handle_worker_assignment` up to `START_RELAY`.  A session that is gone no longer
runs; one that has been asked to stop may still have got here. -/
def startRelay (worker : SessionKey) (connectionId : Bytes) (peers : RelayPeers) : WorkerPlane :=
  match wp.control.server.sessions.lookup worker, wp.assignments.lookup worker with
  | some session, some b =>
    let capabilities := (wp.adopted.lookup worker).getD 0
    let message := assignmentMessage capabilities b connectionId peers
    let done := { wp with assignments := wp.assignments.erase worker }
    match Protocol.encodeStartRelay message with
    | .error _ => done
    | .ok payload =>
      { done with
        relays := wp.relays ++ [⟨session.clientId, session.generation, message, payload⟩] }
  | _, _ => wp

end Steps

def step (net : AddressText) (wp : WorkerPlane) : WorkerEvent → WorkerPlane
  | .strand e => if wp.admits e then wp.strand net e else wp
  | .authenticated key => wp.authenticated key
  | .control e => wp.controlStep net e
  | .adopt worker order => wp.adopt worker order
  | .accept connection listener => wp.accept connection listener
  | .assign connection order =>
    if order.Perm wp.control.server.workerPool.entries.keys then wp.tryAssign connection order
    else wp
  | .startRelay worker connectionId peers => wp.startRelay worker connectionId peers

end WorkerPlane

end MiniTun.System
