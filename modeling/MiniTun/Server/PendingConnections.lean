import Mathlib.Data.Finset.Basic
import MiniTun.Lib.Loop
import MiniTun.Server.ConnectionQuota
import MiniTun.Server.ControlStrand
import MiniTun.Server.SourceAdmission

/-!
# Public connections that wait for a worker

`handle_public_connection` puts an admitted connection into three tables: the owners, by
object; for each session a `std::list` of the waiting objects; and for each object its
position in that list.  Only the first waiter of a session tries to get a worker at once.
The others are tried by `notify_worker_available`, which a worker's session posts after its
registration and which hands out at most one connection.

A node of a `std::list` has a name of its own, and an iterator is that name.  A connection
has a name that is never used again, where the source has the address of the object.
-/

namespace MiniTun.Server

open KeyedMap

def pendingSessionKey (clientId : Bytes) (sessionGeneration : Nat) : Bytes :=
  clientId ++ ascii "/" ++ decimal sessionGeneration

theorem pendingSessionKey_inj {cid cid' : Bytes} {gen gen' : Nat} :
    pendingSessionKey cid gen = pendingSessionKey cid' gen' ↔
      cid = cid' ∧ gen = gen' := by
  constructor
  · intro h
    unfold pendingSessionKey at h
    rw [List.append_assoc, List.append_assoc] at h
    exact append_cons_decimal_inj (by decide) h
  · rintro ⟨rfl, rfl⟩
    rfl

structure PendingPublicConnection where
  binding : TunnelBinding
  lease : Lease
  finished : Bool

def PendingPublicConnection.sessionKey (object : PendingPublicConnection) : Bytes :=
  pendingSessionKey object.binding.clientId object.binding.sessionGeneration

/-- A node of a `std::list`. -/
structure QueueNode where
  node : Nat
  connection : Nat
deriving DecidableEq

/-- The control strand with the connections that wait on it. -/
structure PendingState where
  server : ServerState
  running : Bool
  quota : ConnectionQuota
  /-- Every object there has been. -/
  objects : Map Nat PendingPublicConnection
  /-- The keys of `pending_connections_`, each of which owns its object. -/
  pendingConnections : Finset Nat
  bySession : Map Bytes (List QueueNode)
  positions : Map Nat Nat
  nextNode : Nat
  /-- The leases that assignment handlers have taken over, with the clients they count
  for. -/
  workerLeases : Map Nat Bytes
  /-- The sessions of the registrations whose notification has not run. -/
  notifications : List (Bytes × Nat)
  /-- The connections that began to wait, oldest first. -/
  arrivals : List (Nat × TunnelBinding)
  /-- Those that were handed to a worker. -/
  handed : List (Nat × TunnelBinding)
  /-- The connections whose lease was released, one entry for each time. -/
  released : List Nat

/-- A task of the control strand, as far as waiting connections go. -/
inductive PendingEvent where
  /-- A task that does not hand out connections. -/
  | strand (e : Event)
  /-- A listener has accepted a socket; `order` is that of the worker table. -/
  | accept (connection : Nat) (binding : TunnelBinding) (remote : Option Address)
      (limiterAllows : Bool) (order : List Bytes)
  /-- The notification of a registration runs. -/
  | notify (clientId : Bytes) (generation : Nat) (order : List Bytes)
  /-- The deadline of a connection expires. -/
  | expire (connection : Nat)
  /-- The last reference to an object goes. -/
  | destroy (connection : Nat)
  /-- The worker is done with a connection. -/
  | workerDone (connection : Nat)
  | stop
  /-- `begin_shutdown`; `order` is that of `pending_connections_`. -/
  | shutdown (order : List Nat)

namespace PendingState

section Tables

variable (s : PendingState)

variable (key : Bytes)

def queue : List QueueNode :=
  (s.bySession.lookup key).getD []

/-- Store a queue, or drop it when it has become empty. -/
def setQueue (queue : List QueueNode) : PendingState :=
  { s with
    bySession := if queue = [] then s.bySession.erase key else s.bySession.insert key queue }

section Connection

variable (connection : Nat)

variable (object : PendingPublicConnection)

def pendingConnectionFinished : PendingState :=
  let s := match s.bySession.lookup object.sessionKey, s.positions.lookup connection with
    | some queue, some position =>
      { s with positions := s.positions.erase connection }.setQueue object.sessionKey
        (queue.filter fun n => n.node ≠ position)
    | _, _ => s
  { s with pendingConnections := s.pendingConnections.erase connection }

def finish : PendingState :=
  if object.finished then s
  else
    { s with
      objects := s.objects.insert connection { object with finished := true }
    }.pendingConnectionFinished connection object

/-- `PendingPublicConnection::stop`; closing the socket and the timer touches no table. -/
def stop : PendingState :=
  match s.objects.lookup connection with
  | none => s
  | some object => s.finish connection object

/-- `WorkerPool::assign`: the entry goes, and the handler takes the lease. -/
def handOver (workerId : Bytes) : PendingState :=
  { s with
    server := { s.server with workerPool := s.server.workerPool.remove workerId }
    objects := s.objects.insert connection { object with lease := none }
    workerLeases := match object.lease with
      | none => s.workerLeases
      | some clientId => s.workerLeases.insert connection clientId
    handed := s.handed ++ [(connection, object.binding)] }

def tryAssign (order : List Bytes) : Bool × PendingState :=
  match s.objects.lookup connection with
  | none => (false, s)
  | some object =>
    if object.finished then (false, s)
    else if s.running = false ∨ s.server.sessionRegistry.isCurrent object.binding.clientId
        object.binding.sessionGeneration = false then
      (false, s.stop connection)
    else match s.server.workerPool.assign object.binding order with
      | none => (false, s)
      | some workerId =>
        (true, (s.handOver connection object workerId).finish connection
          { object with lease := none })

/-- The new object enters the three tables. -/
def enqueue : PendingState :=
  { s with
    objects := s.objects.insert connection object
    pendingConnections := insert connection s.pendingConnections
    bySession := s.bySession.insert object.sessionKey
      (s.queue object.sessionKey ++ [⟨s.nextNode, connection⟩])
    positions := s.positions.insert connection s.nextNode
    nextNode := s.nextNode + 1
    arrivals := s.arrivals ++ [(connection, object.binding)] }

def handlePublicConnection (b : TunnelBinding) (remote : Option Address) (limiterAllows : Bool)
    (order : List Bytes) : PendingState :=
  match sourceVerdict s.running s.server.policies b remote limiterAllows with
  | .admitted policy =>
    match s.quota.tryAcquire b.clientId policy.maxConnections with
    | (.error _, _) => s
    | (.ok lease, quota) =>
      let object : PendingPublicConnection := ⟨b, lease, false⟩
      let waiting := { s with quota := quota }.enqueue connection object
      -- only the first waiter tries at once
      if s.queue object.sessionKey = [] then (waiting.tryAssign connection order).2 else waiting
  | _ => s

end Connection

/-- An entry of a queue whose object nobody owns. -/
def dropFront (front : QueueNode) (rest : List QueueNode) : PendingState :=
  { s with positions := s.positions.erase front.connection }.setQueue key rest

/-- One round of `cancel_pending_for_session`. -/
def cancelRound (s : PendingState) : Bool × PendingState :=
  match s.queue key with
  | [] => (false, s)
  | front :: rest =>
    if front.connection ∈ s.pendingConnections then (true, s.stop front.connection)
    else (true, s.dropFront key front rest)

/-- One round of the loop of `notify_worker_available`, which goes on past a connection
only when that has been closed. -/
def notifyRound (order : List Bytes) (s : PendingState) : Bool × PendingState :=
  match s.queue key with
  | [] => (false, s)
  | front :: rest =>
    if front.connection ∈ s.pendingConnections then
      match s.tryAssign front.connection order with
      | (true, s') => (false, s')
      | (false, s') => (front.connection ∉ s'.pendingConnections, s')
    else (true, s.dropFront key front rest)

/-- A loop over the queue of a session, which each round but the last shortens. -/
def drain (round : PendingState → Bool × PendingState) : PendingState :=
  (Loop.run round ((s.queue key).length + 1) s).getD s

def cancelPendingForSession (clientId : Bytes) (generation : Nat) : PendingState :=
  let key := pendingSessionKey clientId generation
  s.drain key (cancelRound key)

def notifyWorkerAvailable (clientId : Bytes) (generation : Nat) (order : List Bytes) :
    PendingState :=
  let key := pendingSessionKey clientId generation
  s.drain key (notifyRound key order)

/-- The holder of a connection's lease lets it go. -/
def release (connection : Nat) (clientId : Bytes) : PendingState :=
  { s with
    quota := s.quota.release clientId
    released := s.released ++ [connection] }

def destroy (connection : Nat) : PendingState :=
  match s.objects.lookup connection with
  | none => s
  | some object =>
    match object.lease with
    | none => s
    | some clientId =>
      { s with objects := s.objects.insert connection { object with lease := none }
      }.release connection clientId

/-- The session of a worker destroys its `WorkerAssignment`. -/
def workerDone (connection : Nat) : PendingState :=
  match s.workerLeases.lookup connection with
  | none => s
  | some clientId =>
    { s with workerLeases := s.workerLeases.erase connection }.release connection clientId

/-- The part of `begin_shutdown` that concerns connections and workers. -/
def beginShutdown (order : List Nat) : PendingState :=
  let s := order.foldl stop { s with pendingConnections := ∅ }
  { s with
    server := { s.server with workerPool := s.server.workerPool.eraseMatching fun _ => true } }

end Tables

end PendingState

namespace ServerState

/-- The session whose worker a task adds to the pool. -/
def registration (s : ServerState) : Event → List (Bytes × Nat)
  | .session key .registerWorker =>
    match s.sessions.lookup key with
    | none => []
    | some session =>
      match (s.sessionRegisterWorker key session).1 with
      | .ok () => [(session.clientId, session.generation)]
      | .error _ => []
  | _ => []

def closing (s : ServerState) : Event → Option (Bytes × Nat)
  | .session key .cleanup =>
    match s.sessions.lookup key with
    | none => none
    | some session =>
      if session.clientId = [] then none
      else session.openGeneration.map fun generation => (session.clientId, generation)
  | _ => none

end ServerState

namespace PendingState

/-- A task of the control strand, with what it does to the connections that wait. -/
def strand (net : AddressText) (s : PendingState) (e : Event) : PendingState :=
  let next := { s with
    server := Server.step net s.server e
    notifications := s.notifications ++ s.server.registration e }
  match s.server.closing e with
  | none => next
  | some (clientId, generation) => next.cancelPendingForSession clientId generation

def step (net : AddressText) (s : PendingState) : PendingEvent → PendingState
  | .strand (.assignWorker _) => s
  | .strand e => s.strand net e
  | .accept connection b remote limiterAllows order =>
    if s.objects.lookup connection = none ∧ order.Perm s.server.workerPool.entries.keys then
      s.handlePublicConnection connection b remote limiterAllows order
    else s
  | .notify clientId generation order =>
    if (clientId, generation) ∈ s.notifications ∧
        order.Perm s.server.workerPool.entries.keys then
      { s with notifications := s.notifications.erase (clientId, generation)
      }.notifyWorkerAvailable clientId generation order
    else s
  | .expire connection => s.stop connection
  | .destroy connection =>
    if connection ∈ s.pendingConnections then s else s.destroy connection
  | .workerDone connection => s.workerDone connection
  | .stop => { s with running := false }
  | .shutdown order =>
    if order.Nodup ∧ order.toFinset = s.pendingConnections then s.beginShutdown order else s

def initial (server : ServerState) (maxPerClient maxTotal : Nat) : PendingState where
  server := server
  running := true
  quota := .empty maxPerClient maxTotal
  objects := ∅
  pendingConnections := ∅
  bySession := ∅
  positions := ∅
  nextNode := 0
  workerLeases := ∅
  notifications := []
  arrivals := []
  handed := []
  released := []

end PendingState

end MiniTun.Server
