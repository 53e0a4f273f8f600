import MiniTun.Server.ControlStrand

/-!
# What one task of the control strand can do

One lemma for each component of the server's state says everything a task can
do to it: the current generations, the listeners, the idle workers, and the
sessions.  The invariants of the following modules are derived from these
lemmas and never unfold a task again.
-/

namespace MiniTun.Server

open KeyedMap

namespace ControlSession

variable {session : ControlSession}

theorem openGeneration_eq_some {gen : Nat} :
    session.openGeneration = some gen ↔
      session.role = .control gen ∧ gen ≠ 0 := by
  unfold openGeneration
  constructor
  · intro h
    split at h
    · next g hr =>
      split at h
      · cases h
      · next hg => cases h; exact ⟨hr, hg⟩
    · cases h
  · rintro ⟨hr, hg⟩
    simp [hr, hg]

theorem generation_of_openGeneration {gen : Nat}
    (h : session.openGeneration = some gen) : session.generation = gen := by
  simp [ControlSession.generation, (openGeneration_eq_some.1 h).1]

theorem openGeneration_congr {ses' : ControlSession} (h : ses'.role = session.role) :
    ses'.openGeneration = session.openGeneration := by
  simp [openGeneration, h]

section ReloadStop

variable (session)

variable (u : PolicyUpdate)

@[simp] theorem requestReloadStop_role : (session.requestReloadStop u).role = session.role := by
  unfold requestReloadStop
  split
  · rfl
  · split <;> rfl

@[simp] theorem requestReloadStop_clientId :
    (session.requestReloadStop u).clientId = session.clientId := by
  unfold requestReloadStop
  split
  · rfl
  · split <;> rfl

@[simp] theorem requestReloadStop_policyOwner :
    (session.requestReloadStop u).policyOwner = session.policyOwner := by
  unfold requestReloadStop
  split
  · rfl
  · split <;> rfl

end ReloadStop

end ControlSession

/-! ## The tasks -/

namespace ServerState

variable {net : AddressText} {s : ServerState}

section Cases

variable (s)

theorem lookup_setSession (key k : SessionKey) (ses : ControlSession) :
    (s.setSession key ses).sessions.lookup k =
      if k = key then some ses else s.sessions.lookup k :=
  lookup_insert_eq_ite _ _ _ _

theorem lookup_dispatchReloadStops (u : PolicyUpdate) (k : SessionKey) :
    (s.dispatchReloadStops u).sessions.lookup k =
      (s.sessions.lookup k).map fun ses : ControlSession =>
        { ses with reloadStops := ses.reloadStops ++ [u] } :=
  lookup_mapValues _ _ _

theorem openClientSession_cases (pol : ClientPolicy) (draw : Result Nat) :
    (∃ e, s.openClientSession pol draw = (.error e, s)) ∨
    (∃ gen, draw = .ok gen ∧
      s.openClientSession pol draw =
        (.ok gen, { s with sessionRegistry := { s.sessionRegistry with
            generations := s.sessionRegistry.generations.insert pol.clientId gen } }
          |>.tearDownClient pol.clientId)) := by
  unfold openClientSession
  split
  · exact .inl ⟨_, rfl⟩
  · rcases s.sessionRegistry.openSession_cases pol.clientId draw with
      ⟨e, he⟩ | ⟨gen, hdraw, hop⟩
    · rw [he]
      exact .inl ⟨e, rfl⟩
    · rw [hop]
      exact .inr ⟨gen, hdraw, rfl⟩

theorem registerWorker_cases (pol : ClientPolicy) (w : WorkerRegistration) :
    (∃ e, s.registerWorker pol w = (.error e, s)) ∨
    (∃ limit, s.registerWorker pol w =
      (.ok (), { s with workerPool :=
        s.workerPool.insertWorker { w with maxIdleWorkers := limit } })) := by
  unfold registerWorker
  split
  · exact .inl ⟨_, rfl⟩
  · next cur _ =>
    rcases s.workerPool.add_cases { w with maxIdleWorkers := cur.maxIdleWorkers } with
      ⟨e, he⟩ | ⟨-, -, -, hadd⟩
    · rw [he]
      exact .inl ⟨e, rfl⟩
    · rw [hadd]
      exact .inr ⟨cur.maxIdleWorkers, rfl⟩

theorem registerTunnel_cases (net : AddressText) (s : ServerState) (pol : ClientPolicy)
    (b : TunnelBinding) (out : ListenOutcome) :
    (∃ e, s.registerTunnel net pol b out = (.error e, s)) ∨
    (∃ limit, s.registerTunnel net pol b out =
      ((s.tunnelRegistry.registerTunnel net b limit out).1,
        { s with tunnelRegistry :=
          (s.tunnelRegistry.registerTunnel net b limit out).2 })) := by
  unfold registerTunnel
  split
  · exact .inl ⟨_, rfl⟩
  · next cur _ =>
    split
    · exact .inl ⟨_, rfl⟩
    · exact .inr ⟨cur.maxTunnels, rfl⟩

theorem sessionRegisterTunnel_cases (net : AddressText) (s : ServerState)
    (ses : ControlSession) (m : RegisterTunnelMessage) (out : ListenOutcome) :
    (∃ e, s.sessionRegisterTunnel net ses m out = (.error e, s)) ∨
    (∃ gen limit, ses.openGeneration = some gen ∧
      s.sessionRegisterTunnel net ses m out =
        ((s.tunnelRegistry.registerTunnel net (ses.binding m) limit out).1,
          { s with tunnelRegistry :=
            (s.tunnelRegistry.registerTunnel net (ses.binding m) limit out).2 })) := by
  unfold sessionRegisterTunnel handleRegisterTunnel
  split
  · next gen hgen =>
    split
    · exact .inl ⟨_, rfl⟩
    · split
      · exact .inl ⟨_, rfl⟩
      · next pol _ =>
        rcases s.registerTunnel_cases net pol (ses.binding m) out with
          he | ⟨limit, hr⟩
        · exact .inl he
        · exact .inr ⟨gen, limit, hgen, hr⟩
  · exact .inl ⟨_, rfl⟩

theorem sessionOpen_cases (key : SessionKey) (ses : ControlSession) (draw : Result Nat) :
    (∃ e, s.sessionOpen key ses draw = (.error e, s)) ∨
    (∃ gen, draw = .ok gen ∧ ses.role = .control 0 ∧
      s.sessionOpen key ses draw =
        (.ok gen, ({ s with sessionRegistry := { s.sessionRegistry with
            generations := s.sessionRegistry.generations.insert ses.clientId gen } }
          |>.tearDownClient ses.clientId).setSession key { ses with role := .control gen })) := by
  unfold sessionOpen
  split
  · next pol hr how =>
    split
    · have hc : pol.clientId = ses.clientId := ses.owner_clientId pol how
      rcases s.openClientSession_cases pol draw with ⟨e, he⟩ | ⟨gen, hdraw, ho⟩
      · rw [he]
        exact .inl ⟨e, rfl⟩
      · rw [ho, hc]
        exact .inr ⟨gen, hdraw, hr, rfl⟩
    · exact .inl ⟨_, rfl⟩
  · exact .inl ⟨_, rfl⟩

theorem sessionRegisterWorker_cases (key : SessionKey) (ses : ControlSession) :
    (∃ e, s.sessionRegisterWorker key ses = (.error e, s)) ∨
    (∃ generation workerId, ses.role = .worker generation workerId .greeted ∧
      ((∃ e, s.sessionRegisterWorker key ses =
        (.error e,
          s.setSession key { ses with role := .worker generation workerId .released })) ∨
      (∃ limit, s.sessionRegisterWorker key ses =
        (.ok (), { s with workerPool :=
          s.workerPool.insertWorker ⟨ses.clientId, generation, workerId, limit⟩ }
          |>.setSession key { ses with role := .worker generation workerId .idle })))) := by
  unfold sessionRegisterWorker
  split
  · next generation workerId pol hr _ =>
    refine .inr ⟨generation, workerId, hr, ?_⟩
    rcases s.registerWorker_cases pol ⟨ses.clientId, generation, workerId, 0⟩ with
      ⟨e, he⟩ | ⟨limit, hw⟩
    · rw [he]
      exact .inl ⟨e, rfl⟩
    · rw [hw]
      exact .inr ⟨limit, rfl⟩
  · exact .inl ⟨_, rfl⟩

end Cases

/-! ## The deferred pass -/

section TearDown

variable {clients : List Bytes} {u : PolicyUpdate}

variable {key : Bytes}

theorem lookup_foldl_tearDownClient_listeners {b : TunnelBinding} :
    (clients.foldl tearDownClient s).tunnelRegistry.listeners.lookup key = some b ↔
      s.tunnelRegistry.listeners.lookup key = some b ∧ b.clientId ∉ clients := by
  induction clients generalizing s with
  | nil => simp
  | cons c cs ih =>
    rw [List.foldl_cons, ih]
    simp only [tearDownClient, TunnelRegistry.lookup_removeClient, List.mem_cons, not_or, and_assoc]

theorem lookup_foldl_tearDownClient_workers {w : WorkerRegistration} :
    (clients.foldl tearDownClient s).workerPool.entries.lookup key = some w ↔
      s.workerPool.entries.lookup key = some w ∧ w.clientId ∉ clients := by
  induction clients generalizing s with
  | nil => simp
  | cons c cs ih =>
    rw [List.foldl_cons, ih]
    simp only [tearDownClient, WorkerPool.lookup_removeClient, List.mem_cons, not_or, and_assoc]

theorem foldl_tearDownClient_frame :
    (clients.foldl tearDownClient s).sessionRegistry = s.sessionRegistry ∧
      (clients.foldl tearDownClient s).sessions = s.sessions ∧
      (clients.foldl tearDownClient s).policies = s.policies ∧
      (clients.foldl tearDownClient s).postedPasses = s.postedPasses := by
  induction clients generalizing s with
  | nil => simp
  | cons c cs ih => rw [List.foldl_cons]; exact ih

theorem lookup_tearDownAffected_listeners {b : TunnelBinding} :
    (s.tearDownAffected u).tunnelRegistry.listeners.lookup key = some b ↔
      s.tunnelRegistry.listeners.lookup key = some b ∧
        ¬(b.clientId ∈ u.changedClients ∧ u.sessionAffecting b.clientId = true) := by
  rw [tearDownAffected, lookup_foldl_tearDownClient_listeners, List.mem_filter]

theorem lookup_tearDownAffected_workers {w : WorkerRegistration} :
    (s.tearDownAffected u).workerPool.entries.lookup key = some w ↔
      s.workerPool.entries.lookup key = some w ∧
        ¬(w.clientId ∈ u.changedClients ∧ u.sessionAffecting w.clientId = true) := by
  rw [tearDownAffected, lookup_foldl_tearDownClient_workers, List.mem_filter]

theorem tearDownAffected_frame :
    (s.tearDownAffected u).sessionRegistry = s.sessionRegistry ∧
      (s.tearDownAffected u).sessions = s.sessions ∧
      (s.tearDownAffected u).policies = s.policies ∧
      (s.tearDownAffected u).postedPasses = s.postedPasses :=
  foldl_tearDownClient_frame

end TearDown

end ServerState

/-! ## One task -/

/-- What a session's task can do to the session alone. -/
inductive OwnStep (s : ServerState) (session : ControlSession) :
    SessionTask → ControlSession → Prop where
  | hello {clientId : Bytes} {capabilities : CapabilitySet}
      (hrole : session.role = .unidentified) :
      OwnStep s session (.hello clientId capabilities)
        { session with
          role := .control 0
          clientId := clientId
          policyOwner := s.policies.find clientId
          selectedCapabilities := capabilities
          owner_clientId := s.policies.wellKeyed clientId }
  | workerHello {clientId workerId : Bytes} {generation : Nat} {policy : ClientPolicy}
      (hrole : session.role = .unidentified) (hfind : s.policies.find clientId = some policy)
      (hcurrent : s.sessionRegistry.isCurrent clientId generation = true) :
      OwnStep s session (.workerHello clientId generation workerId)
        { session with
          role := .worker generation workerId .greeted
          clientId := clientId
          policyOwner := some policy
          owner_clientId := fun p hp => s.policies.wellKeyed clientId p (hfind.trans hp) }
  | workerRefused {generation : Nat} {workerId : Bytes}
      (hrole : session.role = .worker generation workerId .greeted) :
      OwnStep s session .registerWorker
        { session with role := .worker generation workerId .released }
  | workerNotified {generation : Nat} {workerId : Bytes} {assigned : Bool}
      (hrole : session.role = .worker generation workerId .idle) :
      OwnStep s session (.workerNotified assigned)
        { session with
          role := .worker generation workerId (if assigned then .assigned else .released)
          stopRequested := session.stopRequested || !assigned }
  | reloadStop {u : PolicyUpdate} {rest : List PolicyUpdate}
      (hqueue : session.reloadStops = u :: rest) :
      OwnStep s session .reloadStop { session.requestReloadStop u with reloadStops := rest }

/-- Everything a task can do to the server. -/
inductive StepEffect (net : AddressText) (s : ServerState) : Event → ServerState → Prop where
  | nothing (e : Event) : StepEffect net s e s
  | accepted {key : SessionKey} (hkey : s.sessions.lookup key = none) :
      StepEffect net s (.accept key) (s.setSession key .accepted)
  | own {key : SessionKey} {session session' : ControlSession} {task : SessionTask}
      (hkey : s.sessions.lookup key = some session) (hown : OwnStep s session task session') :
      StepEffect net s (.session key task) (s.setSession key session')
  | opened {key : SessionKey} {session : ControlSession} {generation : Nat}
      (hkey : s.sessions.lookup key = some session) (hrole : session.role = .control 0)
      (hok : (s.sessionOpen key session (.ok generation)).1 = .ok generation) :
      StepEffect net s (.session key (.openClientSession (.ok generation)))
        (({ s with sessionRegistry := { s.sessionRegistry with
            generations := s.sessionRegistry.generations.insert session.clientId generation } }
          |>.tearDownClient session.clientId).setSession key
            { session with role := .control generation })
  | workerRegistered {key : SessionKey} {session : ControlSession} {generation : Nat}
      {workerId : Bytes} (limit : Nat) (hkey : s.sessions.lookup key = some session)
      (hrole : session.role = .worker generation workerId .greeted) :
      StepEffect net s (.session key .registerWorker)
        ({ s with workerPool :=
            s.workerPool.insertWorker ⟨session.clientId, generation, workerId, limit⟩ }
          |>.setSession key { session with role := .worker generation workerId .idle })
  | workerTimedOut {key : SessionKey} {session : ControlSession} {generation : Nat}
      {workerId : Bytes} (hkey : s.sessions.lookup key = some session)
      (hrole : session.role = .worker generation workerId .idle) :
      StepEffect net s (.session key .removeWorker)
        ({ s with workerPool := s.workerPool.remove workerId }
          |>.setSession key { session with role := .worker generation workerId .released })
  | workerAssigned (workerId : Bytes) :
      StepEffect net s (.assignWorker workerId)
        { s with workerPool := s.workerPool.remove workerId }
  | tunnelRegistered {key : SessionKey} {session : ControlSession} {generation : Nat}
      {m : RegisterTunnelMessage} {outcome : ListenOutcome} (limit : Nat)
      (hkey : s.sessions.lookup key = some session)
      (hopen : session.openGeneration = some generation) :
      StepEffect net s (.session key (.registerTunnel m outcome))
        { s with tunnelRegistry :=
          (s.tunnelRegistry.registerTunnel net (session.binding m) limit outcome).2 }
  | tunnelUnregistered {key : SessionKey} {session : ControlSession} {generation : Nat}
      {tunnelId : Bytes} {revision : Nat} (hkey : s.sessions.lookup key = some session)
      (hopen : session.openGeneration = some generation) :
      StepEffect net s (.session key (.unregisterTunnel tunnelId revision))
        { s with
          tunnelRegistry := s.tunnelRegistry.unregisterTunnel session.clientId generation
            tunnelId revision }
  | left {key : SessionKey} {session : ControlSession}
      (hkey : s.sessions.lookup key = some session) :
      StepEffect net s (.session key .cleanup) { s with sessions := s.sessions.erase key }
  | workerLeft {key : SessionKey} {session : ControlSession}
      (hkey : s.sessions.lookup key = some session) (workerId : Bytes) :
      StepEffect net s (.session key .cleanup)
        { s with
          sessions := s.sessions.erase key
          workerPool := s.workerPool.remove workerId }
  | controlLeft {key : SessionKey} {session : ControlSession} {generation : Nat}
      (hkey : s.sessions.lookup key = some session)
      (hopen : session.openGeneration = some generation) :
      StepEffect net s (.session key .cleanup)
        { s with
          sessions := s.sessions.erase key
          workerPool := s.workerPool.removeSession session.clientId generation
          tunnelRegistry := s.tunnelRegistry.removeSession session.clientId generation
          sessionRegistry := s.sessionRegistry.close session.clientId generation }
  | updated (apiDriven : Bool) (replacement : PolicySnapshot) :
      StepEffect net s (.applyPolicyUpdate apiDriven replacement)
        (s.applyPolicyUpdate apiDriven replacement)
  | passed {u : PolicyUpdate} {rest : List PolicyUpdate}
      (hposted : s.postedPasses = u :: rest) :
      StepEffect net s .policyPass ({ s with postedPasses := rest }.policyPass u)

variable {s : ServerState} {session session' ses' : ControlSession} {e : Event}

theorem stepEffect_sessionStep (net : AddressText) {key : SessionKey}
    (hkey : s.sessions.lookup key = some session) (task : SessionTask) :
    StepEffect net s (.session key task) (s.sessionStep net key session task) := by
  cases task with
  | hello cid caps =>
    simp only [ServerState.sessionStep]
    split
    · next hrl => exact .own hkey (.hello hrl)
    · exact .nothing _
  | openClientSession draw =>
    simp only [ServerState.sessionStep]
    rcases s.sessionOpen_cases key session draw with ⟨e, he⟩ | ⟨g, rfl, hrl, ho⟩
    · rw [he]
      exact .nothing _
    · rw [ho]
      exact .opened hkey hrl (by rw [ho])
  | workerHello cid gen wid =>
    simp only [ServerState.sessionStep]
    split
    · next pol hrl hf =>
      split
      · next hc => exact .own hkey (.workerHello hrl hf hc.2)
      · exact .nothing _
    · exact .nothing _
  | registerWorker =>
    simp only [ServerState.sessionStep]
    rcases s.sessionRegisterWorker_cases key session with
      ⟨e, he⟩ | ⟨g, w, hrl, ⟨e, he⟩ | ⟨limit, hw⟩⟩
    · rw [he]
      exact .nothing _
    · rw [he]
      exact .own hkey (.workerRefused hrl)
    · rw [hw]
      exact .workerRegistered limit hkey hrl
  | workerNotified assigned =>
    simp only [ServerState.sessionStep]
    split
    · next hrl => exact .own hkey (.workerNotified hrl)
    · exact .nothing _
  | removeWorker =>
    simp only [ServerState.sessionStep]
    split
    · next hrl => exact .workerTimedOut hkey hrl
    · exact .nothing _
  | registerTunnel m out =>
    simp only [ServerState.sessionStep]
    rcases s.sessionRegisterTunnel_cases net session m out with
      ⟨e, he⟩ | ⟨g, limit, hop, hr⟩
    · rw [he]
      exact .nothing _
    · rw [hr]
      exact .tunnelRegistered limit hkey hop
  | unregisterTunnel tid rev =>
    simp only [ServerState.sessionStep]
    split
    · next g hop => exact .tunnelUnregistered hkey hop
    · exact .nothing _
  | cleanup =>
    simp only [ServerState.sessionStep, ServerState.cleanup]
    split
    · exact .left hkey
    · exact .workerLeft hkey _
    · exact .left hkey
    · next g hrl =>
      split
      · exact .left hkey
      · next hg =>
        rw [not_or] at hg
        exact .controlLeft hkey (ControlSession.openGeneration_eq_some.2 ⟨hrl, hg.1⟩)
  | reloadStop =>
    simp only [ServerState.sessionStep]
    split
    · exact .nothing _
    · next u rest hq => exact .own hkey (.reloadStop hq)

/-- **Inversion of a task.** -/
theorem stepEffect (net : AddressText) (s : ServerState) (e : Event) :
    StepEffect net s e (step net s e) := by
  cases e with
  | accept key =>
    simp only [step]
    split
    · next hkey => exact .accepted hkey
    · exact .nothing _
  | session key task =>
    simp only [step]
    split
    · exact .nothing _
    · next session hkey => exact stepEffect_sessionStep net hkey task
  | assignWorker wid => exact .workerAssigned wid
  | applyPolicyUpdate apiDriven new => exact .updated apiDriven new
  | policyPass =>
    simp only [step]
    split
    · exact .nothing _
    · next u rest hpos => exact .passed hpos

/-! ## One session -/

/-- What a task can do to the session with a key. -/
inductive SessionEffect (s : ServerState) (k : SessionKey) :
    Event → Option ControlSession → Option ControlSession → Prop where
  | same (e : Event) (found : Option ControlSession) : SessionEffect s k e found found
  | accepted : SessionEffect s k (.accept k) none (some .accepted)
  | own {session session' : ControlSession} {task : SessionTask}
      (hown : OwnStep s session task session') :
      SessionEffect s k (.session k task) (some session) (some session')
  | opened {session : ControlSession} (generation : Nat) (hrole : session.role = .control 0) :
      SessionEffect s k (.session k (.openClientSession (.ok generation))) (some session)
        (some { session with role := .control generation })
  | worker {session : ControlSession} {generation : Nat} {workerId : Bytes} {phase : WorkerPhase}
      (hrole : session.role = .worker generation workerId phase) (task : SessionTask)
      (phase' : WorkerPhase) :
      SessionEffect s k (.session k task) (some session)
        (some { session with role := .worker generation workerId phase' })
  | left (found : Option ControlSession) : SessionEffect s k (.session k .cleanup) found none
  | flagged (session : ControlSession) {u : PolicyUpdate} (hposted : u ∈ s.postedPasses) :
      SessionEffect s k .policyPass (some session)
        (some { session with reloadStops := session.reloadStops ++ [u] })

theorem sessionEffect (net : AddressText) (s : ServerState) (e : Event) (k : SessionKey) :
    SessionEffect s k e (s.sessions.lookup k) ((step net s e).sessions.lookup k) := by
  have he := stepEffect net s e
  generalize step net s e = s' at he ⊢
  have hset : ∀ {key : SessionKey} {found : Option ControlSession},
      SessionEffect s key e (s.sessions.lookup key) found →
      SessionEffect s k e (s.sessions.lookup k)
        (if k = key then found else s.sessions.lookup k) := by
    intro key found h
    split
    · next hk => exact hk ▸ h
    · exact .same _ _
  cases he with
  | nothing | workerAssigned | tunnelRegistered | tunnelUnregistered | updated =>
    exact .same _ _
  | accepted hkey =>
    rw [ServerState.lookup_setSession]
    exact hset (by rw [hkey]; exact .accepted)
  | own hkey hown =>
    rw [ServerState.lookup_setSession]
    exact hset (by rw [hkey]; exact .own hown)
  | opened hkey hr =>
    rw [ServerState.lookup_setSession]
    exact hset (by rw [hkey]; exact .opened _ hr)
  | workerRegistered _ hkey hr | workerTimedOut hkey hr =>
    rw [ServerState.lookup_setSession]
    exact hset (by rw [hkey]; exact .worker hr _ _)
  | left | workerLeft | controlLeft =>
    rw [lookup_erase_eq_ite]
    exact hset (.left _)
  | passed hpos =>
    rw [ServerState.policyPass, ServerState.lookup_dispatchReloadStops,
      ServerState.tearDownAffected_frame.2.1]
    cases s.sessions.lookup k with
    | none => exact .same _ _
    | some session => exact .flagged session (by simp [hpos])

/-! ## Open control sessions -/

theorem OwnStep.openGeneration {task : SessionTask} (h : OwnStep s session task ses') :
    ses'.openGeneration = session.openGeneration := by
  cases h with
  | hello hr => simp [ControlSession.openGeneration, hr]
  | workerHello hr => simp [ControlSession.openGeneration, hr]
  | workerRefused hr => simp [ControlSession.openGeneration, hr]
  | workerNotified hr => simp [ControlSession.openGeneration, hr]
  | reloadStop => exact ControlSession.openGeneration_congr (by simp)

/-- Once a session is past its first frame, its client and its policy do not
change. -/
theorem OwnStep.identity {task : SessionTask} (h : OwnStep s session task ses')
    (hr : session.role ≠ .unidentified) :
    ses'.clientId = session.clientId ∧ ses'.policyOwner = session.policyOwner := by
  cases h with
  | hello h => exact absurd h hr
  | workerHello h => exact absurd h hr
  | workerRefused | workerNotified => exact ⟨rfl, rfl⟩
  | reloadStop => simp

theorem openGeneration_persists (net : AddressText) {k : SessionKey} {g : Nat}
    (hk : s.sessions.lookup k = some session) (hop : session.openGeneration = some g)
    (he : e ≠ .session k .cleanup) :
    ∃ ses', (step net s e).sessions.lookup k = some ses' ∧
      ses'.openGeneration = some g ∧ ses'.clientId = session.clientId ∧
      ses'.policyOwner = session.policyOwner := by
  have hr := (ControlSession.openGeneration_eq_some.1 hop).1
  have hef := sessionEffect net s e k
  rw [hk] at hef
  generalize (step net s e).sessions.lookup k = found at hef ⊢
  cases hef with
  | same => exact ⟨session, rfl, hop, rfl, rfl⟩
  | own hown =>
    exact ⟨_, rfl, hown.openGeneration.trans hop, hown.identity (by rw [hr]; simp)⟩
  | opened _ hz => simp [ControlSession.openGeneration, hz] at hop
  | worker hw => simp [ControlSession.openGeneration, hw] at hop
  | left => exact absurd rfl he
  | flagged => exact ⟨_, rfl, (ControlSession.openGeneration_congr rfl).trans hop, rfl, rfl⟩

/-- Where an open generation comes from: it was open before, or the task is the
session's own `open_client_session` with that draw. -/
theorem openGeneration_origin {net : AddressText} {k : SessionKey} {g : Nat}
    (hk : (step net s e).sessions.lookup k = some ses')
    (hop : ses'.openGeneration = some g) :
    (∃ session, s.sessions.lookup k = some session ∧ session.openGeneration = some g) ∨
      e = .session k (.openClientSession (.ok g)) := by
  have he := sessionEffect net s e k
  rw [hk] at he
  generalize s.sessions.lookup k = found at he ⊢
  cases he with
  | same => exact .inl ⟨ses', rfl, hop⟩
  | accepted => simp [ControlSession.openGeneration, ControlSession.accepted] at hop
  | own hown => exact .inl ⟨_, rfl, hown.openGeneration.symm.trans hop⟩
  | opened gen =>
    have hg := (ControlSession.openGeneration_eq_some.1 hop).1
    simp only [ConnectionRole.control.injEq] at hg
    exact .inr (by rw [hg])
  | worker => simp [ControlSession.openGeneration] at hop
  | flagged => exact .inl ⟨_, rfl, (ControlSession.openGeneration_congr rfl).symm.trans hop⟩

theorem policies_step {net : AddressText} (he : e.isPolicyUpdate = false) :
    (step net s e).policies = s.policies := by
  have hef := stepEffect net s e
  generalize step net s e = s' at hef ⊢
  cases hef with
  | updated => cases he
  | passed =>
    rw [ServerState.policyPass, ServerState.dispatchReloadStops,
      ServerState.tearDownAffected_frame.2.2.1]
  | nothing | accepted | own | opened | workerRegistered | workerTimedOut | workerAssigned
  | tunnelRegistered | tunnelUnregistered | left | workerLeft | controlLeft => rfl

theorem lookup_worker_of_step {net : AddressText} {wid : Bytes} {w : WorkerRegistration}
    (he : ¬∃ key, e = .session key .registerWorker)
    (h : (step net s e).workerPool.entries.lookup wid = some w) :
    s.workerPool.entries.lookup wid = some w := by
  have hef := stepEffect net s e
  generalize step net s e = s' at hef h
  cases hef with
  | nothing | accepted | own | tunnelRegistered | tunnelUnregistered | left | updated => exact h
  | workerTimedOut | workerAssigned | workerLeft => exact WorkerPool.lookup_of_remove h
  | opened => exact (WorkerPool.lookup_removeClient.1 h).1
  | workerRegistered => exact absurd ⟨_, rfl⟩ he
  | controlLeft => exact (WorkerPool.lookup_removeSession.1 h).1
  | passed => exact (ServerState.lookup_tearDownAffected_workers.1 h).1

end MiniTun.Server
