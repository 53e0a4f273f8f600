import MiniTun.Server.StrandSteps

/-!
# The interval before the deferred pass

`apply_policy_update` swaps the snapshot at once and posts its teardown to the
strand.  In between, a session can authenticate under the new policy, open its
generation and register.  `request_reload_stop` is written to let such a session
live; the teardown that precedes it does not make the distinction and removes
whatever the client has (`keepsNewResources_iff`).
-/

namespace MiniTun.Server

open KeyedMap TransitionSystem

section Resources

variable (net : AddressText) (s : ServerState)

variable (installed : PolicySnapshot)

/-- The session authenticated under the policy the snapshot has for its client. -/
def AuthenticatedUnder (session : ControlSession) : Prop :=
  ∃ policy current, session.policyOwner = some policy ∧
    installed.find session.clientId = some current ∧
    current.revisionFingerprint = policy.revisionFingerprint

variable (es : List Event)

/-- A task of the run confirms the listener to a session authenticated under the
installed policy. -/
def ListenerRegisteredIn (b : TunnelBinding) : Prop :=
  ∃ pre key m outcome post session,
    es = pre ++ .session key (.registerTunnel m outcome) :: post ∧
    (exec (step net) s pre).sessions.lookup key = some session ∧
    ((exec (step net) s pre).sessionRegisterTunnel net session m outcome).1 = .ok () ∧
    session.binding m = b ∧ AuthenticatedUnder installed session

/-- A task of the run confirms the idle worker to a session authenticated under
the installed policy. -/
def WorkerRegisteredIn (workerId clientId : Bytes) : Prop :=
  ∃ pre key post session generation,
    es = pre ++ .session key .registerWorker :: post ∧
    (exec (step net) s pre).sessions.lookup key = some session ∧
    ((exec (step net) s pre).sessionRegisterWorker key session).1 = .ok () ∧
    session.role = .worker generation workerId .greeted ∧ session.clientId = clientId ∧
    AuthenticatedUnder installed session

/-- The client has a listener, still in place after the run, that the run
registered under the installed policy, or an idle worker. -/
def HasNewResource (clientId : Bytes) : Prop :=
  (∃ b, b.clientId = clientId ∧ ListenerRegisteredIn net s installed es b ∧
    (exec (step net) s es).tunnelRegistry.listenerOf b.clientId b.tunnelId = some b) ∨
  ∃ workerId w, w.clientId = clientId ∧ WorkerRegisteredIn net s installed es workerId clientId ∧
    (exec (step net) s es).workerPool.entries.lookup workerId = some w

/-- **A session opened under the new policy keeps its resources**: what the run
between the installation and the pass registered under the installed policy, and
what is still there when the pass starts, is there after it. -/
def KeepsNewResources : Prop :=
  (∀ b, ListenerRegisteredIn net s installed es b →
    (exec (step net) s es).tunnelRegistry.listenerOf b.clientId b.tunnelId = some b →
    (step net (exec (step net) s es) .policyPass).tunnelRegistry.listenerOf
      b.clientId b.tunnelId = some b) ∧
  ∀ workerId w, WorkerRegisteredIn net s installed es workerId w.clientId →
    (exec (step net) s es).workerPool.entries.lookup workerId = some w →
    (step net (exec (step net) s es) .policyPass).workerPool.entries.lookup workerId = some w

end Resources

/-- **The deferred pass.** After an update and any run up to its pass, the
resources registered under the installed policy survive the pass exactly when it
tears down no client that has one. -/
theorem keepsNewResources_iff (net : AddressText) (s : ServerState) (apiDriven : Bool)
    (installed : PolicySnapshot) (es : List Event) (rest : List PolicyUpdate)
    (hposted : (exec (step net) (step net s (.applyPolicyUpdate apiDriven installed)) es
      ).postedPasses = ⟨apiDriven, s.policies, installed⟩ :: rest) :
    KeepsNewResources net (step net s (.applyPolicyUpdate apiDriven installed)) installed es ↔
      ∀ clientId, clientId ∈ computeChanged s.policies installed →
        PolicyUpdate.sessionAffecting ⟨apiDriven, s.policies, installed⟩ clientId = true →
        ¬ HasNewResource net (step net s (.applyPolicyUpdate apiDriven installed)) installed es
          clientId := by
  generalize step net s (.applyPolicyUpdate apiDriven installed) = s₁ at *
  have hpass : step net (exec (step net) s₁ es) .policyPass =
      ({ exec (step net) s₁ es with postedPasses := rest }).policyPass
        ⟨apiDriven, s.policies, installed⟩ := by
    simp only [step, hposted]
  unfold KeepsNewResources HasNewResource
  rw [hpass]
  constructor
  · rintro ⟨hlisteners, hworkers⟩ c hchanged haffecting
      (⟨b, rfl, hb, hthere⟩ | ⟨w, r, rfl, hw, hthere⟩)
    · have hkept := hlisteners b hb hthere
      exact (ServerState.lookup_tearDownAffected_listeners.1 hkept).2 ⟨hchanged, haffecting⟩
    · have hkept := hworkers w r hw hthere
      exact (ServerState.lookup_tearDownAffected_workers.1 hkept).2 ⟨hchanged, haffecting⟩
  · intro hnone
    refine ⟨fun b hb hthere => ?_, fun w r hw hthere => ?_⟩
    · refine ServerState.lookup_tearDownAffected_listeners.2 ⟨hthere, ?_⟩
      rintro ⟨hchanged, haffecting⟩
      exact hnone b.clientId hchanged haffecting (.inl ⟨b, rfl, hb, hthere⟩)
    · refine ServerState.lookup_tearDownAffected_workers.2 ⟨hthere, ?_⟩
      rintro ⟨hchanged, haffecting⟩
      exact hnone r.clientId hchanged haffecting (.inr ⟨w, r, rfl, hw, hthere⟩)

namespace Sample

/-- The policies after a reload that raised the client's tunnel limit. -/
def raised : PolicySnapshot := PolicySnapshot.empty.emplace raisedPolicy

/-- A session opens under the new policy and registers, all before the deferred pass. -/
def earlyBird : List Event :=
  connect 1 9 ++ [.session 1 (.registerTunnel request .listening)]

def earlyBinding : TunnelBinding := ⟨clientId, 9, tunnelId, loopback, 6001, 1, .tcp⟩

end Sample

open Sample

/-- The pass of a rotation leaves it alone. -/
theorem earlyBird_keeps_listener :
    KeepsNewResources net (step net server (.applyPolicyUpdate true rotated)) rotated
      earlyBird := by
  refine (keepsNewResources_iff net server true rotated earlyBird [] rfl).2 ?_
  intro id hchanged haffecting
  have hid : id ∈ [clientId] := hchanged
  cases List.mem_singleton.1 hid
  cases haffecting

/-- The pass of a reload removes the listener that a session opened under the
reloaded policy registered before it. -/
theorem earlyBird_loses_listener :
    ¬ KeepsNewResources net (step net server (.applyPolicyUpdate false raised)) raised
      earlyBird := by
  intro h
  have hregistered : ListenerRegisteredIn net
      (step net server (.applyPolicyUpdate false raised)) raised
      earlyBird earlyBinding :=
    ⟨connect 1 9, 1, request, .listening, [], _, rfl, rfl, rfl, rfl,
      raisedPolicy, raisedPolicy, rfl, rfl, rfl⟩
  have hkept := h.1 earlyBinding hregistered rfl
  revert hkept
  decide

end MiniTun.Server
