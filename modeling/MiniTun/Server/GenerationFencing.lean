import MiniTun.Server.StrandSteps

/-!
# Stale generations

A client that reconnects gets a new generation, and the protocol says that an
old generation must not modify current state.  The superseded session is not
gone, though: it goes on handling frames until its next look at the session
registry, and neither `register_tunnel` nor `register_worker` looks.

`GenerationFencing` states the rule over whole runs.  A superseded session breaks
it: it can take over a listener that was confirmed to its successor, and its own
cleanup then removes it.
-/

namespace MiniTun.Server

open KeyedMap TransitionSystem

/-! ## Runs -/

def Event.draw? : Event → Option Nat
  | .session _ (.openClientSession (.ok generation)) => some generation
  | _ => none

def draws (es : List Event) : List Nat :=
  es.filterMap Event.draw?

/-- Nothing is open, registered or posted. -/
structure Initial (s : ServerState) : Prop where
  sessions : s.sessions = ∅
  generations : s.sessionRegistry.generations = ∅
  listeners : s.tunnelRegistry.listeners = ∅
  workers : s.workerPool.entries = ∅
  postedPasses : s.postedPasses = []

/-- The policies stay as they are, and the drawn generations are non-zero and
pairwise distinct. -/
structure QuietRun (es : List Event) : Prop where
  noUpdate : ∀ e ∈ es, e.isPolicyUpdate = false
  nodup : (draws es).Nodup
  nonzero : 0 ∉ draws es

/-- The task is an `open_client_session` that returns `generation` for the
client. -/
def Opens (s : ServerState) (e : Event) (clientId : Bytes) (generation : Nat) : Prop :=
  ∃ key session draw, e = .session key (.openClientSession draw) ∧
    s.sessions.lookup key = some session ∧ session.clientId = clientId ∧
    (s.sessionOpen key session draw).1 = .ok generation

/-- Some task of the run returns `generation` for the client. -/
def OpenedIn (net : AddressText) (s : ServerState) (es : List Event) (clientId : Bytes)
    (generation : Nat) : Prop :=
  ∃ pre e post, es = pre ++ e :: post ∧ Opens (exec (step net) s pre) e clientId generation

/-- After the run the client has a generation `newer`, opened after `older` and
not yet closed. -/
def Superseded (net : AddressText) (s : ServerState) (es : List Event) (clientId : Bytes)
    (older newer : Nat) : Prop :=
  ∃ pre key draw post, es = pre ++ .session key (.openClientSession draw) :: post ∧
    OpenedIn net s pre clientId older ∧
    Opens (exec (step net) s pre) (.session key (.openClientSession draw)) clientId newer ∧
    .session key .cleanup ∉ post

/-- The task is a registration, of a tunnel or of a worker, issued with the
given generation of the client. -/
def IssuedWith (s : ServerState) (e : Event) (clientId : Bytes) (generation : Nat) : Prop :=
  ∃ key session, s.sessions.lookup key = some session ∧ session.clientId = clientId ∧
    session.generation = generation ∧
    (e = .session key .registerWorker ∨ ∃ m outcome, e = .session key (.registerTunnel m outcome))

/-- No listener of the client is added, replaced or removed, and no idle worker
of it is added. -/
def LeavesAlone (s s' : ServerState) (clientId : Bytes) : Prop :=
  (∀ tunnelId, s'.tunnelRegistry.listenerOf clientId tunnelId =
    s.tunnelRegistry.listenerOf clientId tunnelId) ∧
  ∀ workerId w, s'.workerPool.entries.lookup workerId = some w → w.clientId = clientId →
    s.workerPool.entries.lookup workerId = some w

/-- The session under `key` itself gives up or rebinds its tunnel. -/
def GivesUp (key : SessionKey) (tunnelId : Bytes) : Event → Prop
  | .session k .cleanup => k = key
  | .session k (.unregisterTunnel t _) => k = key ∧ t = tunnelId
  | .session k (.registerTunnel m _) => k = key ∧ m.tunnelId = tunnelId
  | _ => False

/-! ## The rule -/

/-- A registration issued with a superseded generation changes nothing of the
client's. -/
def StaleRegistrationsInert (net : AddressText) (s : ServerState) (es : List Event) : Prop :=
  ∀ pre e post clientId older newer, es = pre ++ e :: post →
    Superseded net s pre clientId older newer → older ≠ newer →
    IssuedWith (exec (step net) s pre) e clientId older →
    LeavesAlone (exec (step net) s pre) (exec (step net) s (pre ++ [e])) clientId

/-- The cleanup of a superseded session does not remove a listener whose
registration was confirmed to the session that superseded it and that this
session has not given up since. -/
def ConfirmedSurviveCleanup (net : AddressText) (s : ServerState) (es : List Event) : Prop :=
  ∀ pre key m outcome session mid key' session' post,
    es = pre ++ .session key (.registerTunnel m outcome) ::
      (mid ++ .session key' .cleanup :: post) →
    (exec (step net) s pre).sessions.lookup key = some session →
    ((exec (step net) s pre).sessionRegisterTunnel net session m outcome).1 = .ok () →
    (exec (step net) s (pre ++ .session key (.registerTunnel m outcome) :: mid)).sessions.lookup
      key' = some session' →
    session'.clientId = session.clientId →
    Superseded net s pre session.clientId session'.generation session.generation →
    (∀ e ∈ mid, ¬ GivesUp key m.tunnelId e) →
    (∀ g, ¬ OpenedIn net (exec (step net) s (pre ++ [.session key (.registerTunnel m outcome)]))
      mid session.clientId g) →
    (exec (step net) s (pre ++ .session key (.registerTunnel m outcome) ::
      (mid ++ [.session key' .cleanup]))).tunnelRegistry.listenerOf session.clientId m.tunnelId =
      some (session.binding m)

/-- **Stale-generation fencing** of a run. -/
structure GenerationFencing (net : AddressText) (s : ServerState) (es : List Event) : Prop where
  inert : StaleRegistrationsInert net s es
  survive : ConfirmedSurviveCleanup net s es

namespace Sample

/-- Session 2 supersedes session 1 and has its tunnel confirmed. -/
def reconnect : List Event :=
  connect 1 7 ++ connect 2 8 ++ [.session 2 (.registerTunnel request .listening)]

/-- Session 1 then sends its own request for the same tunnel and is cleaned up. -/
def takeover : List Event :=
  reconnect ++ [.session 1 (.registerTunnel request .listening), .session 1 .cleanup]

/-- Session 1 asks for a port its policy does not allow, and is cleaned up. -/
def refusedTakeover : List Event :=
  reconnect ++
    [.session 1 (.registerTunnel { request with bindPort := 7000 } .listening),
      .session 1 .cleanup]

theorem superseded_connect :
    Superseded net server (connect 1 7 ++ connect 2 8) clientId 7 8 :=
  ⟨connect 1 7 ++ [.accept 2, .session 2 (.hello clientId 0x7)], 2, .ok 8, [], rfl,
    ⟨[.accept 1, .session 1 (.hello clientId 0x7)], _,
      [.accept 2, .session 2 (.hello clientId 0x7)], rfl, 1, _, .ok 7, rfl, rfl, rfl, rfl⟩,
    ⟨2, _, .ok 8, rfl, rfl, rfl, rfl⟩, by simp⟩

theorem superseded_reconnect : Superseded net server reconnect clientId 7 8 :=
  ⟨connect 1 7 ++ [.accept 2, .session 2 (.hello clientId 0x7)], 2, .ok 8,
    [.session 2 (.registerTunnel request .listening)], rfl,
    ⟨[.accept 1, .session 1 (.hello clientId 0x7)], _,
      [.accept 2, .session 2 (.hello clientId 0x7)], rfl, 1, _, .ok 7, rfl, rfl, rfl, rfl⟩,
    ⟨2, _, .ok 8, rfl, rfl, rfl, rfl⟩, by simp⟩

end Sample

/-- The rule fails: the superseded session replaces the listener confirmed to
its successor, and its cleanup leaves the tunnel without any. -/
theorem takeover_breaks_fencing :
    Initial Sample.server ∧ QuietRun Sample.takeover ∧
      ¬ StaleRegistrationsInert Sample.net Sample.server Sample.takeover ∧
      ¬ ConfirmedSurviveCleanup Sample.net Sample.server Sample.takeover := by
  refine ⟨⟨rfl, rfl, rfl, rfl, rfl⟩, ⟨by decide, by decide, by decide⟩, fun h => ?_, fun h => ?_⟩
  · have hissued : IssuedWith (exec (step Sample.net) Sample.server Sample.reconnect)
        (.session 1 (.registerTunnel Sample.request .listening)) Sample.clientId 7 :=
      ⟨1, _, rfl, rfl, rfl, .inr ⟨_, _, rfl⟩⟩
    have halone := (h Sample.reconnect _ [.session 1 .cleanup] _ _ _ rfl
      Sample.superseded_reconnect (by decide) hissued).1 Sample.tunnelId
    revert halone
    decide
  · have hgone := h (Sample.connect 1 7 ++ Sample.connect 2 8) 2 Sample.request .listening _
      [.session 1 (.registerTunnel Sample.request .listening)] 1 _ [] rfl rfl rfl rfl rfl
      Sample.superseded_connect
      (by intro e he; rw [List.mem_singleton] at he; subst he; simp [GivesUp])
      (by
        rintro g ⟨pre, e, post, hsplit, key, session, draw, rfl, -⟩
        have hmem : Event.session key (.openClientSession draw) ∈
            [Event.session 1 (.registerTunnel Sample.request .listening)] := by
          rw [hsplit]; simp
        simp at hmem)
    revert hgone
    decide

/-! ## When the rule holds -/

namespace ServerState

/-- The checks that refuse a tunnel before the registry is touched: the mode is
not negotiated, the policy changed, the port is not allowed, the binding is
invalid. -/
def refusesTunnel (net : AddressText) (s : ServerState) (session : ControlSession)
    (m : RegisterTunnelMessage) : Bool :=
  !supportsTunnelMode session.selectedCapabilities m.mode ||
  match session.policyOwner with
  | none => true
  | some policy =>
    match s.currentPolicy policy "client policy changed before tunnel registration" with
    | .error _ => true
    | .ok current =>
      !current.allowsPort m.bindPort ||
      !(validateBinding net s.tunnelRegistry.allowedPorts (session.binding m)).isOk

/-- The checks that refuse a worker before the pool's limits are looked at. -/
def refusesWorker (s : ServerState) (session : ControlSession) : Bool :=
  match session.role, session.policyOwner with
  | .worker generation workerId .greeted, some policy =>
    match s.currentPolicy policy "client policy changed before worker registration" with
    | .error _ => true
    | .ok current =>
      !(validateRegistration
        ⟨session.clientId, generation, workerId, current.maxIdleWorkers⟩).isOk
  | _, _ => true

end ServerState

/-- What a session's registration has to meet: it is issued with the generation
that is current when its task runs, or those checks refuse it. -/
def ServerState.fenced (net : AddressText) (s : ServerState) (session : ControlSession) :
    SessionTask → Bool
  | .registerTunnel m _ =>
    s.sessionRegistry.isCurrent session.clientId session.generation ||
      s.refusesTunnel net session m
  | .registerWorker =>
    s.sessionRegistry.isCurrent session.clientId session.generation || s.refusesWorker session
  | _ => true

def Fence (net : AddressText) (s : ServerState) : Event → Prop
  | .session key task => ∀ session ∈ s.sessions.lookup key, s.fenced net session task = true
  | _ => True

instance (net : AddressText) (s : ServerState) : ∀ e, Decidable (Fence net s e)
  | .session key task =>
    inferInstanceAs (Decidable (∀ session ∈ s.sessions.lookup key,
      s.fenced net session task = true))
  | .accept _ | .assignWorker _ | .applyPolicyUpdate _ _ | .policyPass => isTrue trivial

variable {net : AddressText} {s : ServerState} {es : List Event}

theorem Fence.tunnel {key : SessionKey} {ses : ControlSession} {m : RegisterTunnelMessage}
    {out : ListenOutcome} (h : Fence net s (.session key (.registerTunnel m out)))
    (hkey : s.sessions.lookup key = some ses) :
    s.sessionRegistry.isCurrent ses.clientId ses.generation = true ∨
      s.refusesTunnel net ses m = true :=
  Bool.or_eq_true_iff.1 (h ses hkey)

theorem Fence.worker {key : SessionKey} {ses : ControlSession}
    (h : Fence net s (.session key .registerWorker)) (hkey : s.sessions.lookup key = some ses) :
    s.sessionRegistry.isCurrent ses.clientId ses.generation = true ∨
      s.refusesWorker ses = true :=
  Bool.or_eq_true_iff.1 (h ses hkey)

/-! ## Refused registrations -/

section Refused

variable {net : AddressText} {s : ServerState} {ses : ControlSession}

theorem ServerState.sessionRegisterTunnel_of_refuses {m : RegisterTunnelMessage}
    (h : s.refusesTunnel net ses m = true) (out : ListenOutcome) :
    ∃ e, s.sessionRegisterTunnel net ses m out = (.error e, s) := by
  unfold refusesTunnel at h
  unfold sessionRegisterTunnel handleRegisterTunnel
  split
  · split
    · exact ⟨_, rfl⟩
    · next hm =>
      rw [Bool.not_eq_false] at hm
      rw [hm, Bool.not_true, Bool.false_or] at h
      split
      · exact ⟨_, rfl⟩
      · next pol how =>
        rw [how] at h
        unfold registerTunnel
        split
        · exact ⟨_, rfl⟩
        · next cur hcur =>
          simp only [hcur, Bool.or_eq_true, Bool.not_eq_true'] at h
          split
          · exact ⟨_, rfl⟩
          · next hp =>
            obtain ⟨e, he⟩ := exists_error_of_not_isOk (h.resolve_left hp)
            rw [TunnelRegistry.registerTunnel_of_invalid he]
            exact ⟨e, rfl⟩
  · exact ⟨_, rfl⟩

theorem ServerState.sessionRegisterWorker_of_refuses {key : SessionKey}
    (h : s.refusesWorker ses = true) :
    (s.sessionRegisterWorker key ses).2.workerPool = s.workerPool := by
  unfold refusesWorker at h
  unfold sessionRegisterWorker
  split
  · next g w pol hr how =>
    simp only [hr, how] at h
    unfold registerWorker
    cases hcur : s.currentPolicy pol "client policy changed before worker registration" with
    | error e => rfl
    | ok cur =>
      simp only [hcur, Bool.not_eq_true'] at h
      obtain ⟨e, he⟩ := exists_error_of_not_isOk h
      simp only [WorkerPool.add_of_invalid he]
      rfl
  · rfl

end Refused

/-! ## Generations along a run -/

section Generations

variable {net : AddressText}

variable {e : Event} {es : List Event} {g : Nat} {c : Bytes} {s : ServerState}

theorem not_mem_draws_cons : g ∉ draws (e :: es) ↔ e.draw? ≠ some g ∧ g ∉ draws es := by
  simp [draws]

theorem draws_append (es fs : List Event) : draws (es ++ fs) = draws es ++ draws fs :=
  List.filterMap_append

theorem Opens.draw? (h : Opens s e c g) : e.draw? = some g := by
  obtain ⟨key, session, draw, rfl, -, -, hok⟩ := h
  rcases s.sessionOpen_cases key session draw with ⟨err, he⟩ | ⟨g', rfl, -, ho⟩
  · rw [he] at hok; cases hok
  · rw [ho] at hok; cases hok; rfl

theorem Opens.current (h : Opens s e c g) :
    (step net s e).sessionRegistry.generations.lookup c = some g := by
  obtain ⟨key, session, draw, rfl, hkey, rfl, hok⟩ := h
  simp only [step, hkey, ServerState.sessionStep]
  rcases s.sessionOpen_cases key session draw with ⟨err, he⟩ | ⟨g', -, -, ho⟩
  · rw [he] at hok; cases hok
  · rw [ho] at hok ⊢
    cases hok
    exact AList.lookup_insert _

theorem OpenedIn.mem_draws (h : OpenedIn net s es c g) : g ∈ draws es := by
  obtain ⟨pre, e, post, rfl, ho⟩ := h
  exact List.mem_filterMap.2 ⟨e, by simp, ho.draw?⟩

theorem Superseded.ne {older newer : Nat} (h : Superseded net s es c older newer)
    (hn : (draws es).Nodup) : older ≠ newer := by
  obtain ⟨pre, key, draw, post, rfl, holder, hnew, -⟩ := h
  rintro rfl
  rw [draws_append] at hn
  refine List.disjoint_of_nodup_append hn holder.mem_draws ?_
  exact List.mem_filterMap.2 ⟨_, List.mem_cons_self, hnew.draw?⟩

theorem current_origin (h : (step net s e).sessionRegistry.generations.lookup c = some g) :
    s.sessionRegistry.generations.lookup c = some g ∨ e.draw? = some g := by
  have he := stepEffect net s e
  generalize step net s e = s' at he h
  cases he with
  | opened =>
    simp only [ServerState.setSession, ServerState.tearDownClient, lookup_insert_eq_ite] at h
    split at h
    · cases h; exact .inr rfl
    · exact .inl h
  | controlLeft =>
    rw [SessionRegistry.lookup_close] at h
    split at h
    · cases h
    · exact .inl h
  | passed =>
    rw [ServerState.policyPass, ServerState.dispatchReloadStops,
      ServerState.tearDownAffected_frame.1] at h
    exact .inl h
  | nothing | accepted | own | workerRegistered | workerTimedOut | workerAssigned
  | tunnelRegistered | tunnelUnregistered | left | workerLeft | updated => exact .inl h

/-- A generation that is not current and is not drawn again stays so. -/
theorem not_current_of_not_drawn (hs : s.sessionRegistry.generations.lookup c ≠ some g)
    (hd : g ∉ draws es) :
    (exec (step net) s es).sessionRegistry.generations.lookup c ≠ some g := by
  induction es generalizing s with
  | nil => exact hs
  | cons e es ih =>
    obtain ⟨he, hes⟩ := not_mem_draws_cons.1 hd
    exact ih (fun h => (current_origin h).elim hs he) hes

end Generations

/-! ## Open generations are unique -/

section Unique

variable (net : AddressText)

/-- The draws to come are pairwise distinct and none is open already; no two
open sessions share a generation. -/
structure Fresh (s : ServerState) (es : List Event) : Prop where
  nodup : (draws es).Nodup
  unused : ∀ k session g, s.sessions.lookup k = some session →
    session.openGeneration = some g → g ∉ draws es
  unique : ∀ k k' session session' g, s.sessions.lookup k = some session →
    s.sessions.lookup k' = some session' → session.openGeneration = some g →
    session'.openGeneration = some g → k = k'

variable {es : List Event} {s : ServerState}

theorem draws_cons_some {e : Event} {g : Nat} (h : e.draw? = some g) :
    draws (e :: es) = g :: draws es := by
  simp [draws, h]

theorem Fresh.step {e : Event} (h : Fresh s (e :: es)) :
    Fresh (step net s e) es where
  nodup := by
    cases hd : e.draw? with
    | none => simpa [draws, hd] using h.nodup
    | some g => exact (List.nodup_cons.1 (draws_cons_some hd ▸ h.nodup)).2
  unused := by
    intro k ses g hk hop
    rcases openGeneration_origin hk hop with ⟨session₀, hk₀, hopen₀⟩ | rfl
    · exact (not_mem_draws_cons.1 (h.unused k session₀ g hk₀ hopen₀)).2
    · exact (List.nodup_cons.1 h.nodup).1
  unique := by
    intro k k' ses ses' g hk hk' hop hop'
    rcases openGeneration_origin hk hop with ⟨session₀, hk₀, hopen₀⟩ | rfl
    · rcases openGeneration_origin hk' hop' with ⟨session₁, hk₁, hopen₁⟩ | rfl
      · exact h.unique k k' session₀ session₁ g hk₀ hk₁ hopen₀ hopen₁
      · exact absurd (List.mem_cons_self) (h.unused k session₀ g hk₀ hopen₀)
    · rcases openGeneration_origin hk' hop' with ⟨session₁, hk₁, hopen₁⟩ | he
      · exact absurd (List.mem_cons_self) (h.unused k' session₁ g hk₁ hopen₁)
      · cases he; rfl

theorem Fresh.exec {fs : List Event} (h : Fresh s (es ++ fs)) :
    Fresh (exec (Server.step net) s es) fs := by
  induction es generalizing s with
  | nil => exact h
  | cons e es ih => exact ih (h.step net)

theorem Initial.fresh (hs : Initial s) (hq : QuietRun es) : Fresh s es where
  nodup := hq.nodup
  unused := by
    intro k ses g hk
    rw [hs.sessions] at hk
    cases hk
  unique := by
    intro k k' ses ses' g hk
    rw [hs.sessions] at hk
    cases hk

end Unique

/-! ## A superseded session registers nothing -/

theorem staleRegistrationsInert_of_fence (hq : QuietRun es)
    (hf : AllSteps (step net) (Fence net) s es) : StaleRegistrationsInert net s es := by
  rintro pre e post c older newer rfl ⟨pre', key', draw, mid, rfl, holder, hnew, -⟩ -
    ⟨key, session, hkey, rfl, rfl, he⟩
  -- the older generation is drawn before the newer one and never again
  have hd : session.generation ∈ draws pre' := holder.mem_draws
  have hn := hq.nodup
  rw [List.append_assoc, draws_append] at hn
  have hl : session.generation ∉
      draws (.session key' (.openClientSession draw) :: (mid ++ e :: post)) :=
    fun h => List.disjoint_of_nodup_append hn hd h
  obtain ⟨hnot, hr⟩ := not_mem_draws_cons.1 hl
  have hs : (exec (step net) s (pre' ++ .session key' (.openClientSession draw) :: mid)
      ).sessionRegistry.generations.lookup session.clientId ≠ some session.generation := by
    rw [exec_append, exec_cons]
    refine not_current_of_not_drawn ?_ fun h => hr (by rw [draws_append]; simp [h])
    rw [hnew.current]
    intro h
    exact hnot (hnew.draw?.trans h)
  have hfn := hf.at_split
  rw [exec_append s _ [e], exec_cons, exec_nil]
  generalize exec (step net) s (pre' ++ .session key' (.openClientSession draw) :: mid) = s₁ at *
  have hnotC : ¬ s₁.sessionRegistry.isCurrent session.clientId session.generation = true :=
    fun h => hs (SessionRegistry.isCurrent_iff.1 h)
  rcases he with rfl | ⟨m, outcome, rfl⟩
  · have href := (hfn.worker hkey).resolve_left hnotC
    simp only [step, hkey, ServerState.sessionStep]
    refine ⟨fun t => ?_, fun w r hw _ => ?_⟩
    · rcases s₁.sessionRegisterWorker_cases key session with
        ⟨e, he⟩ | ⟨g, w, -, ⟨e, he⟩ | ⟨limit, hw⟩⟩
      · rw [he]
      · rw [he]; rfl
      · rw [hw]; rfl
    · rwa [ServerState.sessionRegisterWorker_of_refuses href] at hw
  · have href := (hfn.tunnel hkey).resolve_left hnotC
    obtain ⟨err, herr⟩ := ServerState.sessionRegisterTunnel_of_refuses href outcome
    simp only [step, hkey, ServerState.sessionStep, herr]
    exact ⟨fun _ => rfl, fun _ _ hw _ => hw⟩

/-! ## A confirmed listener stays -/

section Survive

variable {net : AddressText} {s : ServerState} {e : Event} {key : SessionKey}
  {b : TunnelBinding}

/-- The session under `key` is open with the current generation of its client
and owns the listener `b`; no deferred pass is posted. -/
structure Holding (s : ServerState) (key : SessionKey) (b : TunnelBinding) : Prop where
  session : ∃ session, s.sessions.lookup key = some session ∧
    session.openGeneration = some b.sessionGeneration ∧ session.clientId = b.clientId
  current : s.sessionRegistry.generations.lookup b.clientId = some b.sessionGeneration
  listener : s.tunnelRegistry.listenerOf b.clientId b.tunnelId = some b
  quiet : s.postedPasses = []

variable {es : List Event}

theorem Holding.eq_of_open (h : Holding s key b) (hf : Fresh s es) {k : SessionKey}
    {ses : ControlSession} (hk : s.sessions.lookup k = some ses)
    (hop : ses.openGeneration = some b.sessionGeneration) : k = key := by
  obtain ⟨session₀, hkey, hopen₀, -⟩ := h.session
  exact hf.unique k key ses session₀ _ hk hkey hop hopen₀

theorem Holding.step_current (h : Holding s key b) (hf : Fresh s es)
    (hke : ¬ GivesUp key b.tunnelId e) (hops : ∀ g, ¬ Opens s e b.clientId g) :
    (step net s e).sessionRegistry.generations.lookup b.clientId =
      some b.sessionGeneration := by
  have he := stepEffect net s e
  generalize step net s e = s' at he ⊢
  cases he with
  | @opened k session g hk hr hok =>
    have hne : b.clientId ≠ session.clientId :=
      fun hc => hops g ⟨k, session, .ok g, rfl, hk, hc.symm, hok⟩
    exact (AList.lookup_insert_ne hne).trans h.current
  | @controlLeft k session g hk hop =>
    rw [SessionRegistry.lookup_close, if_neg, h.current]
    rintro ⟨hc, hg⟩
    rw [← hc, h.current] at hg
    cases hg
    exact hke (h.eq_of_open hf hk hop)
  | passed hpos => rw [h.quiet] at hpos; cases hpos
  | nothing | accepted | own | workerRegistered | workerTimedOut | workerAssigned
  | tunnelRegistered | tunnelUnregistered | left | workerLeft | updated => exact h.current

theorem Holding.step_listener (h : Holding s key b) (hf : Fresh s es) (hfn : Fence net s e)
    (hke : ¬ GivesUp key b.tunnelId e) (hops : ∀ g, ¬ Opens s e b.clientId g) :
    (step net s e).tunnelRegistry.listenerOf b.clientId b.tunnelId = some b := by
  have hid : IsId .client b.clientId :=
    (TunnelRegistry.lookup_hasIdentity h.listener).client
  have he := stepEffect net s e
  generalize hs' : step net s e = s' at he ⊢
  cases he with
  | @opened k session g hk hr hok =>
    refine TunnelRegistry.listenerOf_removeClient h.listener fun hc => ?_
    exact hops g ⟨k, session, .ok g, rfl, hk, hc.symm, hok⟩
  | @tunnelRegistered k session g m out limit hk hop =>
    rcases hfn.tunnel hk with hcur | href
    · refine (TunnelRegistry.listenerOf_registerTunnel_of_ne hid ?_).trans h.listener
      rintro ⟨hc, ht⟩
      -- the registration is current, so it is the holder's own
      rw [SessionRegistry.isCurrent_iff, ControlSession.generation_of_openGeneration hop,
        show session.clientId = b.clientId from hc, h.current] at hcur
      cases hcur
      exact hke ⟨h.eq_of_open hf hk hop, ht⟩
    · obtain ⟨err, herr⟩ := ServerState.sessionRegisterTunnel_of_refuses href out
      simp only [step, hk, ServerState.sessionStep, herr] at hs'
      rw [← hs']
      exact h.listener
  | @tunnelUnregistered k session g t rev hk hop =>
    refine TunnelRegistry.listenerOf_unregisterTunnel h.listener ?_
    by_contra hboth
    simp only [not_or, not_not] at hboth
    obtain ⟨rfl, hks⟩ := hboth
    obtain rfl := h.eq_of_open hf hk hop
    obtain ⟨session₀, hkey, -, hcl⟩ := h.session
    rw [hk] at hkey
    cases hkey
    rw [hcl] at hks
    exact hke ⟨rfl, (bindingKey_injective hid hid hks).2⟩
  | @controlLeft k session g hk hop =>
    refine TunnelRegistry.listenerOf_removeSession h.listener ?_
    rintro ⟨-, rfl⟩
    exact hke (h.eq_of_open hf hk hop)
  | passed hpos => rw [h.quiet] at hpos; cases hpos
  | nothing | accepted | own | workerRegistered | workerTimedOut | workerAssigned
  | left | workerLeft | updated => exact h.listener

theorem Holding.step (h : Holding s key b) (hf : Fresh s es) (hfn : Fence net s e)
    (hup : e.isPolicyUpdate = false) (hk : ¬ GivesUp key b.tunnelId e)
    (hops : ∀ g, ¬ Opens s e b.clientId g) :
    Holding (step net s e) key b where
  session := by
    obtain ⟨ses, hkey, hop, hc⟩ := h.session
    have hne : e ≠ .session key .cleanup := by
      rintro rfl
      exact hk rfl
    obtain ⟨ses', hkey', hop', hc', -⟩ := openGeneration_persists net hkey hop hne
    exact ⟨ses', hkey', hop', hc'.trans hc⟩
  current := h.step_current hf hk hops
  listener := h.step_listener hf hfn hk hops
  quiet := by
    have he := stepEffect net s e
    generalize Server.step net s e = s' at he ⊢
    cases he with
    | updated => cases hup
    | passed hpos => rw [h.quiet] at hpos; cases hpos
    | nothing | accepted | own | opened | workerRegistered | workerTimedOut | workerAssigned
    | tunnelRegistered | tunnelUnregistered | left | workerLeft | controlLeft => exact h.quiet

/-- What the holder owns it still owns after any run in which it gives nothing
up and nobody else opens a session for its client. -/
theorem Holding.exec {fs : List Event} (h : Holding s key b) (hfr : Fresh s (es ++ fs))
    (hf : AllSteps (Server.step net) (Fence net) s es)
    (hup : ∀ e ∈ es, e.isPolicyUpdate = false) (hk : ∀ e ∈ es, ¬ GivesUp key b.tunnelId e)
    (hops : ∀ g, ¬ OpenedIn net s es b.clientId g) :
    Holding (exec (Server.step net) s es) key b := by
  induction es generalizing s with
  | nil => exact h
  | cons e es ih =>
    have hs : Holding (Server.step net s e) key b :=
      h.step hfr hf.1 (hup e (by simp)) (hk e (by simp))
        (fun g hg => hops g ⟨[], e, es, rfl, hg⟩)
    refine ih hs (hfr.step net) hf.2 (fun e' he' => hup e' (by simp [he']))
      (fun e' he' => hk e' (by simp [he'])) ?_
    rintro g ⟨pre, e', post, rfl, ho⟩
    exact hops g ⟨e :: pre, e', post, rfl, ho⟩

/-- A registration that is confirmed under the fence makes the session a holder. -/
theorem Holding.of_confirmed {ses : ControlSession} {m : RegisterTunnelMessage}
    {out : ListenOutcome} (hkey : s.sessions.lookup key = some ses)
    (hok : (s.sessionRegisterTunnel net ses m out).1 = .ok ())
    (hf : Fence net s (.session key (.registerTunnel m out)))
    (hq : s.postedPasses = []) :
    Holding (Server.step net s (.session key (.registerTunnel m out))) key (ses.binding m) := by
  simp only [Server.step, hkey, ServerState.sessionStep]
  rcases hf.tunnel hkey with hcur | href
  · rcases s.sessionRegisterTunnel_cases net ses m out with
      ⟨e, he⟩ | ⟨g, limit, hop, hr⟩
    · rw [he] at hok; cases hok
    · rw [hr] at hok ⊢
      have hg : (ses.binding m).sessionGeneration = g :=
        ControlSession.generation_of_openGeneration hop
      exact ⟨⟨ses, hkey, by rw [hop, hg], rfl⟩, SessionRegistry.isCurrent_iff.1 hcur,
        TunnelRegistry.listenerOf_registerTunnel hok, hq⟩
  · obtain ⟨e, he⟩ := ServerState.sessionRegisterTunnel_of_refuses href out
    rw [he] at hok
    cases hok

end Survive

theorem postedPasses_exec (hs : s.postedPasses = []) (hup : ∀ e ∈ es, e.isPolicyUpdate = false) :
    (exec (step net) s es).postedPasses = [] := by
  induction es generalizing s with
  | nil => exact hs
  | cons e es ih =>
    refine ih ?_ fun e' he' => hup e' (by simp [he'])
    have he := hup e (by simp)
    have hef := stepEffect net s e
    generalize step net s e = s' at hef ⊢
    cases hef with
    | updated => cases he
    | passed hpos => rw [hs] at hpos; cases hpos
    | nothing | accepted | own | opened | workerRegistered | workerTimedOut | workerAssigned
    | tunnelRegistered | tunnelUnregistered | left | workerLeft | controlLeft => exact hs

theorem confirmedSurviveCleanup_of_fence (hs : Initial s) (hq : QuietRun es)
    (hf : AllSteps (step net) (Fence net) s es) : ConfirmedSurviveCleanup net s es := by
  rintro pre key m out ses mid key' ses' post rfl hkey hok hkey' hc hsp hk hops
  have hqu : (exec (step net) s pre).postedPasses = [] :=
    postedPasses_exec hs.postedPasses fun e he => hq.noUpdate e (by simp [he])
  obtain ⟨-, hf₁, hf₂⟩ := (allSteps_append _ _ _ _).1 hf
  obtain ⟨hfm, hfc, -⟩ := (allSteps_append _ _ _ _).1 hf₂
  have hfresh₁ := (hs.fresh hq).exec net
  have hfresh₂ := (hfresh₁.step net).exec net
  have hhold := (Holding.of_confirmed hkey hok hf₁ hqu).exec (hfresh₁.step net) hfm
    (fun e he => hq.noUpdate e (by simp [he])) hk (fun g hg => hops g (by
      rwa [exec_append, exec_cons, exec_nil]))
  rw [exec_append, exec_cons] at hkey'
  rw [exec_append, exec_cons, exec_append]
  have ho : key' ≠ key := by
    rintro rfl
    obtain ⟨holder, hl, hop, -⟩ := hhold.session
    rw [hkey'] at hl
    cases hl
    have hn := hq.nodup
    rw [draws_append] at hn
    exact hsp.ne hn.of_append_left (ControlSession.generation_of_openGeneration hop)
  exact hhold.step_listener hfresh₂ hfc ho (by rintro g ⟨_, _, _, he, -⟩; cases he)

/-- **Fencing.** In every run whose registrations are issued with the current
generation or refused by the other checks, a superseded session changes nothing
of its client's, and its cleanup leaves its successor's listeners alone. -/
theorem generationFencing_of_fence (net : AddressText) (s : ServerState) (es : List Event)
    (hs : Initial s) (hq : QuietRun es) (hf : AllSteps (step net) (Fence net) s es) :
    GenerationFencing net s es :=
  ⟨staleRegistrationsInert_of_fence hq hf, confirmedSurviveCleanup_of_fence hs hq hf⟩

theorem refusedTakeover_fenced :
    Initial Sample.server ∧ QuietRun Sample.refusedTakeover ∧
      AllSteps (step Sample.net) (Fence Sample.net) Sample.server Sample.refusedTakeover ∧
      GenerationFencing Sample.net Sample.server Sample.refusedTakeover := by
  have hs : Initial Sample.server := ⟨rfl, rfl, rfl, rfl, rfl⟩
  have hq : QuietRun Sample.refusedTakeover := ⟨by decide, by decide, by decide⟩
  have hf : AllSteps (step Sample.net) (Fence Sample.net) Sample.server
      Sample.refusedTakeover := by decide
  exact ⟨hs, hq, hf, generationFencing_of_fence _ _ _ hs hq hf⟩

end MiniTun.Server
