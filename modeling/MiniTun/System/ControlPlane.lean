import MiniTun.Daemon.ServerSession
import MiniTun.Daemon.TunnelReconciler
import MiniTun.Server.StrandSteps

/-!
# A control session and its two ends

The server's control strand and the daemon's session with it, joined by the two
directions of one control connection.  The connection belongs to the session the
server keeps under `key`; it is the only control session of its client, and the
policies do not change.  The rest of the server runs on as it likes (`strand`).
-/

namespace MiniTun.System

open Daemon KeyedMap Server Storage

/-- The server, one daemon, and the frames between them. -/
structure ControlPlane where
  server : ServerState
  daemon : ServerSession
  toServer : List ControlFrame
  toDaemon : List ControlFrame

/-- What the server sends unasked. -/
def isNotice : ControlMessage → Bool
  | .ping _ | .requestWorkers _ | .goaway | .error => true
  | _ => false

/-- What the two ends of the session do. -/
inductive ControlEvent where
  /-- `reconcile_tunnels` is called and reads the table. -/
  | reconcile (database : Result Tunnels) (order : List Bytes)
  /-- It goes on, up to the next thing it waits for. -/
  | advance (interruption : Option Interruption)
  /-- The daemon reads a frame. -/
  | daemonReads (fault : Option Error)
  /-- The server reads a frame and answers it. -/
  | serverReads (outcome : ListenOutcome)
  | serverSends (requestId : Nat) (message : ControlMessage)
  /-- Another task of the control strand. -/
  | strand (e : Server.Event)

def ControlEvent.isReconcile : ControlEvent → Bool
  | .reconcile _ _ => true
  | _ => false

/-- A task that is no control session's of the client, and no policy update. -/
def foreign (key : SessionKey) (clientId : Bytes) : Server.Event → Bool
  | .session k (.hello other _) => k ≠ key ∧ validId .client other ∧ other ≠ clientId
  | .accept k | .session k _ => k ≠ key
  | .assignWorker _ => true
  | .applyPolicyUpdate _ _ | .policyPass => false

def registerAnswer (m : RegisterTunnelMessage) : Result Unit → ControlMessage
  | .ok () => .registerTunnelOk m.tunnelId m.desiredRevision
  | .error e => .registerTunnelError m.tunnelId e.code m.desiredRevision

namespace ControlPlane

/-- `handle_control_request` on the next frame. -/
def serve (net : AddressText) (key : SessionKey) (cp : ControlPlane) (outcome : ListenOutcome) :
    ControlPlane :=
  match cp.toServer, cp.server.sessions.lookup key with
  | frame :: rest, some session =>
    match frame.message with
    | .registerTunnel m =>
      let (result, server) := cp.server.sessionRegisterTunnel net session m outcome
      { cp with
        server := server
        toServer := rest
        toDaemon := cp.toDaemon ++ [⟨frame.requestId, registerAnswer m result⟩] }
    | .unregisterTunnel tunnelId revision =>
      { cp with
        server := Server.step net cp.server (.session key (.unregisterTunnel tunnelId revision))
        toServer := rest
        toDaemon := cp.toDaemon ++ [⟨frame.requestId, .unregisterTunnelOk tunnelId revision⟩] }
    | _ => { cp with toServer := rest }
  | _, _ => cp

def step (net : AddressText) (key : SessionKey) (cp : ControlPlane) : ControlEvent → ControlPlane
  | .reconcile database order => { cp with daemon := cp.daemon.startReconcile database order }
  | .advance interruption =>
    let (daemon, sent) := cp.daemon.advance interruption
    { cp with daemon := daemon, toServer := cp.toServer ++ sent }
  | .daemonReads fault =>
    let (daemon, sent, rest) := cp.daemon.receive cp.toDaemon fault
    { cp with daemon := daemon, toServer := cp.toServer ++ sent, toDaemon := rest }
  | .serverReads outcome => cp.serve net key outcome
  | .serverSends requestId message =>
    if isNotice message then { cp with toDaemon := cp.toDaemon ++ [⟨requestId, message⟩] } else cp
  | .strand e =>
    match cp.server.sessions.lookup key with
    | none => cp
    | some session =>
      if foreign key session.clientId e then
        { cp with server := Server.step net cp.server e }
      else cp

end ControlPlane

/-! ## The session alone in its client -/

/-- The session is the only control session of its client. -/
structure Isolated (key : SessionKey) (session : ControlSession)
    (sessions : Map SessionKey ControlSession) : Prop where
  client : IsId .client session.clientId
  opened : session.openGeneration = some session.generation
  own : sessions.lookup key = some session
  others : ∀ k other, sessions.lookup k = some other → k ≠ key →
    ∀ generation, other.role = .control generation →
      IsId .client other.clientId ∧ other.clientId ≠ session.clientId

section Isolation

variable {net : AddressText} {key : SessionKey} {ses : ControlSession}
  {sess : Map SessionKey ControlSession} {s : ServerState} {e : Server.Event}

theorem ne_of_foreign {k : SessionKey} {task : SessionTask} {cid : Bytes}
    (h : foreign key cid (.session k task) = true) : k ≠ key := by
  cases task <;> simp_all [foreign]

theorem Isolated.other (h : Isolated key ses sess) {k : SessionKey}
    {other : ControlSession} {gen : Nat} (hl : sess.lookup k = some other)
    (hk : k ≠ key) (hop : other.openGeneration = some gen) :
    IsId .client other.clientId ∧ other.clientId ≠ ses.clientId :=
  h.others k other hl hk gen (ControlSession.openGeneration_eq_some.1 hop).1

theorem OwnStep.otherClient {s : ServerState} {k : SessionKey} {other other' : ControlSession}
    {task : SessionTask} (hown : OwnStep s other task other')
    (hfor : foreign key ses.clientId (.session k task) = true)
    (ho : ∀ gen, other.role = .control gen →
      IsId .client other.clientId ∧ other.clientId ≠ ses.clientId) :
    ∀ gen, other'.role = .control gen →
      IsId .client other'.clientId ∧ other'.clientId ≠ ses.clientId := by
  intro gen hr
  cases hown with
  | hello _ =>
    simp only [foreign, decide_eq_true_eq] at hfor
    exact ⟨validId_iff.1 hfor.2.1, hfor.2.2⟩
  | workerHello _ _ _ => cases hr
  | workerRefused _ => cases hr
  | workerNotified _ => cases hr
  | reloadStop _ =>
    simp only [ControlSession.requestReloadStop_role] at hr
    simpa only [ControlSession.requestReloadStop_clientId] using ho gen hr

theorem Isolated.step (h : Isolated key ses s.sessions) (hfor : foreign key ses.clientId e = true) :
    Isolated key ses (Server.step net s e).sessions where
  client := h.client
  opened := h.opened
  own := by
    have he := sessionEffect net s e key
    rw [h.own] at he
    generalize (Server.step net s e).sessions.lookup key = found at he ⊢
    cases he with
    | same => rfl
    | own | opened | worker | left => exact absurd rfl (ne_of_foreign hfor)
    | flagged => cases hfor
  others := by
    intro k other' hk hne
    have he := sessionEffect net s e k
    rw [hk] at he
    generalize hf : s.sessions.lookup k = found at he
    cases he with
    | same => exact h.others k other' hf hne
    | accepted | worker => exact fun _ hr => by cases hr
    | own hown => exact OwnStep.otherClient hown hfor (h.others k _ hf hne)
    | opened _ hr =>
      have ho := h.others k _ hf hne 0 hr
      exact fun _ _ => ho
    | flagged => cases hfor

theorem listenerOf_foreign (h : Isolated key ses s.sessions)
    (hfor : foreign key ses.clientId e = true) (tid : Bytes) :
    (Server.step net s e).tunnelRegistry.listenerOf ses.clientId tid =
      s.tunnelRegistry.listenerOf ses.clientId tid := by
  have he := stepEffect net s e
  generalize Server.step net s e = s' at he ⊢
  cases he with
  | nothing _ | accepted _ | own _ _ | workerRegistered _ _ _ | workerTimedOut _ _
  | workerAssigned _ | left _ | workerLeft _ _ => rfl
  | opened hkey hr _ =>
    have ho := h.others _ _ hkey (ne_of_foreign hfor) 0 hr
    refine TunnelRegistry.listenerOf_eraseMatching_of_ne h.client ?_
    intro b hm hc
    exact ho.2 ((of_decide_eq_true hm).symm.trans hc)
  | tunnelRegistered _ hkey hop =>
    have ho := h.other hkey (ne_of_foreign hfor) hop
    exact TunnelRegistry.listenerOf_registerTunnel_of_ne h.client fun hs => ho.2 hs.1
  | tunnelUnregistered hkey hop =>
    have ho := h.other hkey (ne_of_foreign hfor) hop
    refine TunnelRegistry.listenerOf_unregisterTunnel_of_ne ?_
    intro hk
    exact ho.2 (bindingKey_injective h.client ho.1 hk).1.symm
  | controlLeft hkey hop =>
    have ho := h.other hkey (ne_of_foreign hfor) hop
    refine TunnelRegistry.listenerOf_eraseMatching_of_ne h.client ?_
    intro b hm hc
    exact ho.2 ((of_decide_eq_true hm).1.symm.trans hc)
  | updated _ _ | passed _ => cases hfor

end Isolation

/-! ## The session's own requests -/

section Requests

variable {net : AddressText} {key : SessionKey} {ses : ControlSession} {s : ServerState}

theorem listenerOf_sessionRegisterTunnel (net : AddressText) (m : RegisterTunnelMessage)
    (out : ListenOutcome)
    (hno : s.tunnelRegistry.listenerOf ses.clientId m.tunnelId = none) :
    (∃ err, (s.sessionRegisterTunnel net ses m out).1 = .error err ∧
      (s.sessionRegisterTunnel net ses m out).2.tunnelRegistry.listenerOf
        ses.clientId m.tunnelId = none) ∨
    ((s.sessionRegisterTunnel net ses m out).1 = .ok () ∧
      (s.sessionRegisterTunnel net ses m out).2.tunnelRegistry.listenerOf
        ses.clientId m.tunnelId = some (ses.binding m)) := by
  rcases s.sessionRegisterTunnel_cases net ses m out with
    ⟨err, he⟩ | ⟨generation, limit, -, hr⟩
  · rw [he]
    exact .inl ⟨err, rfl, hno⟩
  · rw [hr]
    rcases s.tunnelRegistry.registerTunnel_cases net (ses.binding m) limit out with
      ⟨err, -, he⟩ | ⟨hs, -⟩ | ⟨err, -, -, -, he⟩ | ⟨hb, -, hok⟩
    · rw [he]
      exact .inl ⟨err, rfl, hno⟩
    · exact absurd (hno.symm.trans hs) (by simp)
    · rw [he]
      exact .inl ⟨err, rfl, (TunnelRegistry.lookup_eraseKey _ _ _).trans (if_pos rfl)⟩
    · rw [hok]
      exact .inr ⟨rfl, (TunnelRegistry.lookup_insertBinding _ _ hb _).trans (if_pos rfl)⟩

theorem listenerOf_sessionRegisterTunnel_of_ne (hc : IsId .client ses.clientId)
    {m : RegisterTunnelMessage} {out : ListenOutcome} {tid : Bytes}
    (hne : tid ≠ m.tunnelId) :
    (s.sessionRegisterTunnel net ses m out).2.tunnelRegistry.listenerOf
      ses.clientId tid = s.tunnelRegistry.listenerOf ses.clientId tid := by
  rcases s.sessionRegisterTunnel_cases net ses m out with
    ⟨error, he⟩ | ⟨generation, limit, -, hr⟩
  · rw [he]
  · rw [hr]
    exact TunnelRegistry.listenerOf_registerTunnel_of_ne hc fun hs => hne hs.2.symm

theorem sessions_sessionRegisterTunnel (m : RegisterTunnelMessage) (out : ListenOutcome) :
    (s.sessionRegisterTunnel net ses m out).2.sessions = s.sessions := by
  rcases s.sessionRegisterTunnel_cases net ses m out with
    ⟨error, he⟩ | ⟨generation, limit, -, hr⟩
  · rw [he]
  · rw [hr]

theorem step_unregisterTunnel (h : Isolated key ses s.sessions) (tid : Bytes) (rev : Nat) :
    Server.step net s (.session key (.unregisterTunnel tid rev)) =
      { s with
        tunnelRegistry := s.tunnelRegistry.unregisterTunnel ses.clientId ses.generation
          tid rev } := by
  simp only [Server.step, h.own, ServerState.sessionStep, h.opened]

end Requests

/-! ## A sample session

The sample server's client has connected and opened generation 7; nothing is
registered yet.  The table has one tunnel. -/

namespace Sample

def key : SessionKey := 1

def session : ControlSession where
  role := .control 7
  clientId := Server.Sample.clientId
  policyOwner := some Server.Sample.policy
  selectedCapabilities := 0x7
  stopRequested := false
  reloadStops := []
  owner_clientId := Server.Sample.policy_clientId

def plane : ControlPlane where
  server := TransitionSystem.exec (Server.step Server.Sample.net) Server.Sample.server
    (Server.Sample.connect key 7)
  daemon := {
    serverId := ascii "srv_00000000000000000000000000000001"
    selectedCapabilities := 0x7
    registered := ∅
    localEndpoints := ∅
    bufferedResponses := ∅
    nextRequestId := 3
    phase := .idle none
    awaited := [] }
  toServer := []
  toDaemon := []

def web : TunnelRecord :=
  { Daemon.Sample.tunnelRow with remoteEndpoint := ⟨Server.Sample.loopback, 6001⟩ }

theorem web_checked : web.Checked := by
  decide +kernel

theorem isolated : Isolated key session plane.server.sessions := by
  have hses : plane.server.sessions = (∅ : Map SessionKey ControlSession).insert key session :=
    rfl
  rw [hses]
  refine ⟨validId_iff.1 (by decide), rfl, AList.lookup_insert _, ?_⟩
  intro k other hl hk
  rw [lookup_insert_eq_ite, if_neg hk] at hl
  cases hl

end Sample

end MiniTun.System
