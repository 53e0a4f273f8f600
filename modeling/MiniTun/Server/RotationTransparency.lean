import MiniTun.Server.StrandSteps

/-!
# Registrations after a key rotation

A rotation through the management interface leaves the session fingerprint as it
was, so `request_reload_stop` lets the client's session live and the deferred
pass keeps its listeners.  `register_tunnel` however compares the revision
fingerprint, which covers the keys: the surviving session's next registration is
refused as an authentication failure.
-/

namespace MiniTun.Server

open KeyedMap TransitionSystem

/-- The second policy differs from the first in key material only. -/
structure RotationOf (p p' : ClientPolicy) : Prop where
  fields : p'.toPolicyFields = p.toPolicyFields.withKeys p'.psk p'.previousPsk
  session : p'.sessionFingerprint = p.sessionFingerprint

namespace RotationOf

variable {p p' : ClientPolicy}

theorem enabled (h : RotationOf p p') : p'.enabled = p.enabled := by
  rw [h.fields]
  rfl

theorem allowsPort (h : RotationOf p p') (port : Nat) :
    p'.allowsPort port = p.allowsPort port := by
  rw [h.fields]
  rfl

theorem maxTunnels (h : RotationOf p p') : p'.maxTunnels = p.maxTunnels := by
  rw [h.fields]
  rfl

end RotationOf

theorem policyOwner_exec {net : AddressText} {s : ServerState} {es : List Event}
    {key : SessionKey} {ses : ControlSession} {g : Nat} {pol : ClientPolicy}
    (hkey : s.sessions.lookup key = some ses) (hop : ses.openGeneration = some g)
    (how : ses.policyOwner = some pol) (hstay : .session key .cleanup ∉ es) :
    ∃ ses', (exec (step net) s es).sessions.lookup key = some ses' ∧
      ses'.openGeneration = some g ∧ ses'.policyOwner = some pol := by
  induction es generalizing s ses with
  | nil => exact ⟨ses, hkey, hop, how⟩
  | cons e es ih =>
    rw [List.mem_cons, not_or] at hstay
    obtain ⟨session₁, hkey₁, hopen₁, -, howner₁⟩ :=
      openGeneration_persists net hkey hop (Ne.symm hstay.1)
    exact ih hkey₁ hopen₁ (howner₁.trans how) hstay.2

theorem policies_exec {net : AddressText} {s : ServerState} {es : List Event}
    (hes : ∀ e ∈ es, e.isPolicyUpdate = false) :
    (exec (step net) s es).policies = s.policies := by
  induction es generalizing s with
  | nil => rfl
  | cons e es ih =>
    rw [exec_cons, ih fun e' he' => hes e' (List.mem_cons_of_mem _ he'),
      policies_step (hes e List.mem_cons_self)]

namespace ServerState

variable {net : AddressText} {s : ServerState} {pol cur : ClientPolicy}
  {b : TunnelBinding} {out : ListenOutcome}

section Registered

variable (hfind : s.policies.find pol.clientId = some cur)
include hfind

theorem registerTunnel_of_changed (hrev : cur.revisionFingerprint ≠ pol.revisionFingerprint) :
    verdict (s.registerTunnel net pol b out).1 = some .authenticationFailed := by
  simp [registerTunnel, currentPolicy, hfind, hrev, failure, verdict]

theorem registerTunnel_of_current (he : cur.enabled = true)
    (hrev : cur.revisionFingerprint = pol.revisionFingerprint) :
    (s.registerTunnel net pol b out).1 =
      if cur.allowsPort b.bindPort = false then
        failure .permissionDenied "remote tunnel port is outside the client allowlist"
      else (s.tunnelRegistry.registerTunnel net b cur.maxTunnels out).1 := by
  simp only [registerTunnel, currentPolicy, hfind, he, hrev]
  by_cases hp : cur.allowsPort b.bindPort = false <;> simp [hp]

theorem verdict_registerTunnel_ne (hen : cur.enabled = true)
    (hrev : cur.revisionFingerprint = pol.revisionFingerprint) :
    verdict (s.registerTunnel net pol b out).1 ≠ some .authenticationFailed := by
  rw [registerTunnel_of_current hfind hen hrev]
  split
  · simp
  · rcases s.tunnelRegistry.registerTunnel_cases net b cur.maxTunnels out with
      ⟨e, hc, he⟩ | ⟨-, hok⟩ | ⟨e, hc, -, -, he⟩ | ⟨_, -, hok⟩
    · rw [he]; simpa [verdict] using hc
    · rw [hok]; simp
    · rw [he]; simpa [verdict] using hc
    · rw [hok]; simp

end Registered

end ServerState

/-- **Rotations and registrations.** A session open under the policy that a
rotation through the management interface replaces: after any run without
another update, `register_tunnel` gives each of its requests the verdict it would
give with the old policies in place, exactly when the rotation did not change
the revision fingerprint. -/
theorem rotation_transparent_iff (net : AddressText) (s : ServerState) (key : SessionKey)
    (session : ControlSession) (g : Nat) (policy rotated : ClientPolicy)
    (installed : PolicySnapshot) (es : List Event) (m : RegisterTunnelMessage)
    (outcome : ListenOutcome)
    (hkey : s.sessions.lookup key = some session) (hopen : session.openGeneration = some g)
    (howner : session.policyOwner = some policy)
    (hcurrent : s.policies.find session.clientId = some policy)
    (henabled : policy.enabled = true)
    (hinstalled : installed.find session.clientId = some rotated)
    (hrotation : RotationOf policy rotated)
    (hes : ∀ e ∈ es, e.isPolicyUpdate = false) (hstay : .session key .cleanup ∉ es) :
    ∃ session', (exec (step net) (step net s (.applyPolicyUpdate true installed)) es
        ).sessions.lookup key = some session' ∧
      session'.policyOwner = some policy ∧
      (verdict ((exec (step net) (step net s (.applyPolicyUpdate true installed)) es
          ).registerTunnel net policy (session'.binding m) outcome).1 =
        verdict ({ exec (step net) (step net s (.applyPolicyUpdate true installed)) es with
          policies := s.policies }.registerTunnel net policy (session'.binding m) outcome).1 ↔
        rotated.revisionFingerprint = policy.revisionFingerprint) := by
  have hclient : policy.clientId = session.clientId := session.owner_clientId policy howner
  have hkey₁ : (step net s (.applyPolicyUpdate true installed)).sessions.lookup key =
      some session := hkey
  obtain ⟨session', hkey', -, howner'⟩ := policyOwner_exec hkey₁ hopen howner hstay
  have hpolicies : (exec (step net) (step net s (.applyPolicyUpdate true installed)) es).policies =
      installed := policies_exec hes
  refine ⟨session', hkey', howner', ?_⟩
  generalize exec (step net) (step net s (.applyPolicyUpdate true installed)) es = s' at *
  have hafter : s'.policies.find policy.clientId = some rotated := by
    rw [hpolicies, hclient, hinstalled]
  have hbefore : ({ s' with policies := s.policies } : ServerState).policies.find
      policy.clientId = some policy := by
    rw [hclient]
    exact hcurrent
  constructor
  · intro hsame
    by_contra hrevision
    rw [ServerState.registerTunnel_of_changed hafter hrevision] at hsame
    exact ServerState.verdict_registerTunnel_ne hbefore henabled rfl hsame.symm
  · intro hrevision
    rw [ServerState.registerTunnel_of_current hafter (hrotation.enabled.trans henabled) hrevision,
      ServerState.registerTunnel_of_current hbefore henabled rfl, hrotation.allowsPort,
      hrotation.maxTunnels]

namespace Sample

def serving : ServerState := exec (step net) server (connect 1 7)

/-- The deferred pass and the session's look at itself. -/
def settle : List Event := [.policyPass, .session 1 .reloadStop]

def openSession : ControlSession where
  role := .control 7
  clientId := clientId
  policyOwner := some policy
  selectedCapabilities := 0x7
  stopRequested := false
  reloadStops := []
  owner_clientId := policy_clientId

end Sample

open Sample

theorem rotation_transparent_iff_sample :
    ∃ session', (exec (step net) (step net serving (.applyPolicyUpdate true rotated)) settle
        ).sessions.lookup 1 = some session' ∧
      session'.policyOwner = some policy ∧
      (verdict ((exec (step net) (step net serving (.applyPolicyUpdate true rotated)) settle
          ).registerTunnel net policy (session'.binding request) .listening).1 =
        verdict ({ exec (step net)
            (step net serving (.applyPolicyUpdate true rotated))
            settle with policies := serving.policies }.registerTunnel net
          policy (session'.binding request) .listening).1 ↔
        rotatedPolicy.revisionFingerprint = policy.revisionFingerprint) :=
  rotation_transparent_iff net serving 1 openSession 7 policy
    rotatedPolicy rotated settle request .listening rfl rfl rfl rfl rfl
    rfl ⟨rfl, rfl⟩ (by decide) (by simp [settle])

/-- A session survives the pass of a rotation, and its next registration, which
the old policies would have confirmed, fails to authenticate. -/
theorem rotation_refuses_survivor :
    RotationOf policy rotatedPolicy ∧
    ∃ session', (exec (step net) (step net serving (.applyPolicyUpdate true rotated)) settle
        ).sessions.lookup 1 = some session' ∧
      session'.stopRequested = false ∧ session'.policyOwner = some policy ∧
      verdict ((exec (step net) (step net serving (.applyPolicyUpdate true rotated)) settle
          ).registerTunnel net policy (session'.binding request)
            .listening).1 = some .authenticationFailed ∧
      verdict ({ exec (step net)
          (step net serving (.applyPolicyUpdate true rotated))
          settle with policies := serving.policies }.registerTunnel net
        policy (session'.binding request) .listening).1 = none :=
  ⟨⟨rfl, rfl⟩, _, rfl, rfl, rfl, by decide, by decide⟩

end MiniTun.Server
