import MiniTun.Lib.TransitionSystem
import MiniTun.Server.ClientPolicy
import MiniTun.Server.SessionRegistry
import MiniTun.Server.WorkerPool

/-!
# The server's control strand

`Server::Impl` runs every change of its registries on one strand, so a run of
the server is a sequence of tasks.  An event names the task, the session that
issued it, and what the environment decides: the drawn generation, the verdict
of the operating system on a listener, the snapshot a policy update loaded.

A session belongs to `sessions_` from its acceptance to its cleanup.  Events a
session cannot issue in its present state leave the server unchanged, so every
list of events is a run.

A policy update swaps the snapshot at once and posts the rest of its work to the
strand: the deferred pass stops the listeners and idle workers of the affected
clients and asks every session to examine itself on its own strand.
-/

namespace MiniTun.Server

open KeyedMap

/-- A successful `apply_policy_update`: what its deferred pass is built from. -/
structure PolicyUpdate where
  apiDriven : Bool
  previous : PolicySnapshot
  installed : PolicySnapshot

/-- `PolicyChangeCriteria`; an absent policy leaves its texts empty. -/
structure PolicyChangeCriteria where
  apiDriven : Bool
  oldRevision : Bytes
  oldSession : Bytes
  newSession : Bytes

namespace PolicyUpdate

variable (u : PolicyUpdate)

def changedClients : List Bytes :=
  computeChanged u.previous u.installed

/-- The entry of `stop_criteria` for a client. -/
def criteria (clientId : Bytes) : PolicyChangeCriteria where
  apiDriven := u.apiDriven
  oldRevision := ((u.previous.find clientId).map ClientPolicy.revisionFingerprint).getD []
  oldSession := ((u.previous.find clientId).map ClientPolicy.sessionFingerprint).getD []
  newSession := ((u.installed.find clientId).map ClientPolicy.sessionFingerprint).getD []

/-- Whether the deferred pass tears down the client's listeners and idle
workers: every change of a reload, and of the management interface a change of
the session fingerprint. -/
def sessionAffecting (clientId : Bytes) : Bool :=
  !u.apiDriven || (u.criteria clientId).newSession ≠ (u.criteria clientId).oldSession

end PolicyUpdate

/-- The life of a worker connection: accepted by `WORKER_HELLO`, idle in the
pool (`worker_registered_`), holding a public connection
(`worker_assignment_`), or out of the pool for good. -/
inductive WorkerPhase where
  | greeted
  | idle
  | assigned
  | released
deriving Repr, DecidableEq

/-- What the first frame made of a connection.  A control session has
generation zero until its own is open; a worker names the generation it serves. -/
inductive ConnectionRole where
  | unidentified
  | control (generation : Nat)
  | worker (generation : Nat) (workerId : Bytes) (phase : WorkerPhase)
deriving DecidableEq

/-- `ControlSession`, with the reload stops dispatched to its strand and not yet
run, oldest first. -/
structure ControlSession where
  role : ConnectionRole
  clientId : Bytes
  policyOwner : Option ClientPolicy
  selectedCapabilities : CapabilitySet
  stopRequested : Bool
  reloadStops : List PolicyUpdate
  owner_clientId : ∀ policy, policyOwner = some policy → policy.clientId = clientId

namespace ControlSession

def accepted : ControlSession where
  role := .unidentified
  clientId := []
  policyOwner := none
  selectedCapabilities := 0
  stopRequested := false
  reloadStops := []
  owner_clientId := fun _ h => by cases h

def generation (session : ControlSession) : Nat :=
  match session.role with
  | .unidentified => 0
  | .control generation | .worker generation _ _ => generation

def openGeneration (session : ControlSession) : Option Nat :=
  match session.role with
  | .control generation => if generation = 0 then none else some generation
  | _ => none

end ControlSession

abbrev SessionKey := Nat

/-- The part of `Server::Impl` its control strand works on. -/
structure ServerState where
  policies : PolicySnapshot
  sessionRegistry : SessionRegistry
  tunnelRegistry : TunnelRegistry
  workerPool : WorkerPool
  sessions : Map SessionKey ControlSession
  postedPasses : List PolicyUpdate

variable (session : ControlSession)

/-- The binding `handle_register_tunnel` makes of a request. -/
def ControlSession.binding (m : RegisterTunnelMessage) :
    TunnelBinding where
  clientId := session.clientId
  sessionGeneration := session.generation
  tunnelId := m.tunnelId
  bindHost := m.bindHost
  bindPort := m.bindPort
  configRevision := m.desiredRevision
  mode := m.mode

/-! ## Tasks of the strand -/

namespace ServerState

section Strand

variable (s : ServerState)

variable (policy : ClientPolicy)

/-- The check the tasks share: the client's policy is still there, enabled, and
the one the session authenticated under. -/
def currentPolicy (message : String) : Result ClientPolicy :=
  match s.policies.find policy.clientId with
  | none => failure .authenticationFailed message
  | some current =>
    if current.enabled = false ∨
        current.revisionFingerprint ≠ policy.revisionFingerprint then
      failure .authenticationFailed message
    else .ok current

/-- The deferred pass, for one client. -/
def tearDownClient (clientId : Bytes) : ServerState :=
  { s with
    workerPool := s.workerPool.removeClient clientId
    tunnelRegistry := s.tunnelRegistry.removeClient clientId }

def openClientSession (draw : Result Nat) : Result Nat × ServerState :=
  match s.currentPolicy policy "client policy changed during authentication" with
  | .error e => (.error e, s)
  | .ok _ =>
    match s.sessionRegistry.openSession policy.clientId draw with
    | (.error e, registry) => (.error e, { s with sessionRegistry := registry })
    | (.ok generation, registry) =>
      (.ok generation, { s with sessionRegistry := registry }.tearDownClient policy.clientId)

def registerWorker (w : WorkerRegistration) : Result Unit × ServerState :=
  match s.currentPolicy policy "client policy changed before worker registration" with
  | .error e => (.error e, s)
  | .ok current =>
    match s.workerPool.add { w with maxIdleWorkers := current.maxIdleWorkers } with
    | (result, pool) => (result, { s with workerPool := pool })

def registerTunnel (net : AddressText) (s : ServerState) (policy : ClientPolicy)
    (b : TunnelBinding) (outcome : ListenOutcome) : Result Unit × ServerState :=
  match s.currentPolicy policy "client policy changed before tunnel registration" with
  | .error e => (.error e, s)
  | .ok current =>
    if current.allowsPort b.bindPort = false then
      (failure .permissionDenied "remote tunnel port is outside the client allowlist", s)
    else
      match s.tunnelRegistry.registerTunnel net b current.maxTunnels outcome with
      | (result, registry) => (result, { s with tunnelRegistry := registry })

/-- `handle_register_tunnel` up to its answer. -/
def handleRegisterTunnel (net : AddressText) (s : ServerState) (session : ControlSession)
    (m : RegisterTunnelMessage) (outcome : ListenOutcome) : Result Unit × ServerState :=
  if supportsTunnelMode session.selectedCapabilities m.mode = false then
    (failure .unsupportedVersion "", s)
  else match session.policyOwner with
    | none => (failure .internalError "", s)
    | some policy => s.registerTunnel net policy (session.binding m) outcome

/-- Put a session back after one of its own steps. -/
def setSession (key : SessionKey) (session : ControlSession) : ServerState :=
  { s with sessions := s.sessions.insert key session }

/-- `ControlSession::cleanup_on_control_strand` and the removal from
`sessions_` that follows it. -/
def cleanup (key : SessionKey) (session : ControlSession) : ServerState :=
  let s := { s with sessions := s.sessions.erase key }
  match session.role with
  | .unidentified => s
  | .worker _ workerId .idle => { s with workerPool := s.workerPool.remove workerId }
  | .worker _ _ _ => s
  | .control generation =>
    if generation = 0 ∨ session.clientId = [] then s
    else
      { s with
        workerPool := s.workerPool.removeSession session.clientId generation
        tunnelRegistry := s.tunnelRegistry.removeSession session.clientId generation
        sessionRegistry := s.sessionRegistry.close session.clientId generation }

/-- `apply_policy_update` after the store has accepted the replacement. -/
def applyPolicyUpdate (apiDriven : Bool) (replacement : PolicySnapshot) : ServerState :=
  { s with
    policies := replacement
    postedPasses := s.postedPasses ++ [⟨apiDriven, s.policies, replacement⟩] }

variable (u : PolicyUpdate)

/-- The first loop of the task `apply_policy_update` posts. -/
def tearDownAffected : ServerState :=
  (u.changedClients.filter u.sessionAffecting).foldl tearDownClient s

/-- The second loop: `request_reload_stop` is dispatched to every session. -/
def dispatchReloadStops : ServerState :=
  { s with
    sessions := mapValues (fun session : ControlSession =>
      { session with reloadStops := session.reloadStops ++ [u] }) s.sessions }

/-- The task `apply_policy_update` posts. -/
def policyPass : ServerState :=
  (s.tearDownAffected u).dispatchReloadStops u

end Strand

end ServerState

/-- Whether `request_reload_stop` lets the session live on. -/
def ControlSession.survives (u : PolicyUpdate) : Bool :=
  if session.clientId ∉ u.changedClients then true
  else match session.policyOwner with
    | none => false
    | some policy =>
      let criteria := u.criteria session.clientId
      if criteria.apiDriven then
        criteria.newSession = criteria.oldSession ∨
          policy.sessionFingerprint ≠ criteria.oldSession
      else policy.revisionFingerprint ≠ criteria.oldRevision

/-- The task `request_reload_stop` dispatches.  A worker that holds a public
connection only gets a deadline; every other session is asked to stop. -/
def ControlSession.requestReloadStop (u : PolicyUpdate) : ControlSession :=
  if session.survives u then session
  else match session.role with
    | .worker _ _ .assigned => session
    | _ => { session with stopRequested := true }

/-! ## Events -/

/-- What a session does, on the control strand or on its own. -/
inductive SessionTask where
  /-- A control session receives `HELLO` and captures its policy. -/
  | hello (clientId : Bytes) (capabilities : CapabilitySet)
  /-- A control session whose `AUTH` was verified opens its generation. -/
  | openClientSession (draw : Result Nat)
  /-- A worker session's verified `WORKER_HELLO`. -/
  | workerHello (clientId : Bytes) (generation : Nat) (workerId : Bytes)
  | registerWorker
  /-- The assignment handler, or the removal handler, of an idle worker runs. -/
  | workerNotified (assigned : Bool)
  /-- The worker's idle timer expires. -/
  | removeWorker
  | registerTunnel (m : RegisterTunnelMessage) (outcome : ListenOutcome)
  | unregisterTunnel (tunnelId : Bytes) (revision : Nat)
  | cleanup
  /-- The oldest reload stop dispatched to the session runs. -/
  | reloadStop

/-- A task of the control strand. -/
inductive Event where
  /-- A connection enters `sessions_`. -/
  | accept (key : SessionKey)
  | session (key : SessionKey) (task : SessionTask)
  /-- `WorkerPool::assign` picks an idle worker for a public connection. -/
  | assignWorker (workerId : Bytes)
  | applyPolicyUpdate (apiDriven : Bool) (replacement : PolicySnapshot)
  /-- The oldest posted pass runs. -/
  | policyPass

def Event.isPolicyUpdate : Event → Bool
  | .applyPolicyUpdate _ _ => true
  | _ => false

namespace ServerState

/-- A session's `REGISTER_TUNNEL`, which it can only send once its generation is
open. -/
def sessionRegisterTunnel (net : AddressText) (s : ServerState) (session : ControlSession)
    (m : RegisterTunnelMessage) (outcome : ListenOutcome) : Result Unit × ServerState :=
  match session.openGeneration with
  | some _ => s.handleRegisterTunnel net session m outcome
  | none => (failure .internalError "", s)

/-- A control session's `open_client_session`, issued once it is authenticated. -/
def sessionOpen (s : ServerState) (key : SessionKey) (session : ControlSession)
    (draw : Result Nat) : Result Nat × ServerState :=
  match session.role, session.policyOwner with
  | .control 0, some policy =>
    if policy.enabled = true then
      match s.openClientSession policy draw with
      | (.error e, s') => (.error e, s')
      | (.ok generation, s') =>
        (.ok generation, s'.setSession key { session with role := .control generation })
    else (failure .internalError "", s)
  | _, _ => (failure .internalError "", s)

def sessionRegisterWorker (s : ServerState) (key : SessionKey) (session : ControlSession) :
    Result Unit × ServerState :=
  match session.role, session.policyOwner with
  | .worker generation workerId .greeted, some policy =>
    match s.registerWorker policy ⟨session.clientId, generation, workerId, 0⟩ with
    | (.error e, s') =>
      (.error e,
        s'.setSession key { session with role := .worker generation workerId .released })
    | (.ok (), s') =>
      (.ok (), s'.setSession key { session with role := .worker generation workerId .idle })
  | _, _ => (failure .internalError "", s)

/-- A task of a session, which the control strand or the session's own strand
runs while the session is in `sessions_`. -/
def sessionStep (net : AddressText) (s : ServerState) (key : SessionKey)
    (session : ControlSession) : SessionTask → ServerState
  | .hello clientId capabilities =>
    match session.role with
    | .unidentified =>
      s.setSession key { session with
        role := .control 0
        clientId := clientId
        policyOwner := s.policies.find clientId
        selectedCapabilities := capabilities
        owner_clientId := s.policies.wellKeyed clientId }
    | _ => s
  | .openClientSession draw => (s.sessionOpen key session draw).2
  | .workerHello clientId generation workerId =>
    match session.role, hfind : s.policies.find clientId with
    | .unidentified, some policy =>
      if policy.enabled = true ∧ s.sessionRegistry.isCurrent clientId generation = true then
        s.setSession key { session with
          role := .worker generation workerId .greeted
          clientId := clientId
          policyOwner := some policy
          owner_clientId := fun p hp => s.policies.wellKeyed clientId p (hfind.trans hp) }
      else s
    | _, _ => s
  | .registerWorker => (s.sessionRegisterWorker key session).2
  | .workerNotified assigned =>
    match session.role with
    | .worker generation workerId .idle =>
      s.setSession key { session with
        role := .worker generation workerId (if assigned then .assigned else .released)
        stopRequested := session.stopRequested || !assigned }
    | _ => s
  | .removeWorker =>
    match session.role with
    | .worker generation workerId .idle =>
      { s with workerPool := s.workerPool.remove workerId }.setSession key
        { session with role := .worker generation workerId .released }
    | _ => s
  | .registerTunnel m outcome => (s.sessionRegisterTunnel net session m outcome).2
  | .unregisterTunnel tunnelId revision =>
    match session.openGeneration with
    | some generation =>
      { s with
        tunnelRegistry := s.tunnelRegistry.unregisterTunnel session.clientId generation
          tunnelId revision }
    | none => s
  | .cleanup => s.cleanup key session
  | .reloadStop =>
    match session.reloadStops with
    | [] => s
    | u :: rest =>
      s.setSession key { session.requestReloadStop u with reloadStops := rest }

end ServerState

/-- A task of the strand. -/
def step (net : AddressText) (s : ServerState) : Event → ServerState
  | .accept key =>
    if s.sessions.lookup key = none then s.setSession key .accepted else s
  | .session key task =>
    match s.sessions.lookup key with
    | none => s
    | some session => s.sessionStep net key session task
  | .assignWorker workerId => { s with workerPool := s.workerPool.remove workerId }
  | .applyPolicyUpdate apiDriven replacement => s.applyPolicyUpdate apiDriven replacement
  | .policyPass =>
    match s.postedPasses with
    | [] => s
    | u :: rest => { s with postedPasses := rest }.policyPass u

/-! ## A sample server

One client, one policy whose digests are those of its fields, and a server that
has just started. -/

namespace Sample

def tunnelId : Bytes := ascii "tun_0f1e2d3c4b5a69788796a5b4c3d2e1f0"

def server : ServerState where
  policies := PolicySnapshot.empty.emplace policy
  sessionRegistry := .empty 10
  tunnelRegistry := ⟨ports, 16, 100, ∅, fun _ _ h => by cases h⟩
  workerPool := ⟨4, 100, ∅, fun _ _ h => by cases h⟩
  sessions := ∅
  postedPasses := []

/-- The policies after a rotation. -/
def rotated : PolicySnapshot := PolicySnapshot.empty.emplace rotatedPolicy

def request : RegisterTunnelMessage := ⟨tunnelId, loopback, 6001, 1, .tcp⟩

def connect (key : SessionKey) (generation : Nat) : List Event :=
  [.accept key, .session key (.hello clientId 0x7),
    .session key (.openClientSession (.ok generation))]

end Sample

end MiniTun.Server
