import MiniTun.Server.PolicyChange
import MiniTun.Server.StrandSteps

/-!
# Which sessions a policy update stops

An update must stop the sessions of a client if it is a reload that changes the
client's policy, or if it changes the session-relevant fields, disables the
client or deletes it; only a session that already holds the installed policy may
live on (`StopsOnDemand`).

`request_reload_stop` decides by the policy that the update replaced: it stops a
session whose fingerprint is that policy's, and takes every other session for
one that authenticated after the change.  A session that survived an earlier
rotation has an older fingerprint than that and survives everything after it.
-/

namespace MiniTun.Server

open KeyedMap TransitionSystem

/-! ## What an update demands -/

namespace PolicyUpdate

variable (u : PolicyUpdate) (clientId : Bytes)

/-- The session fingerprint of the client's policy, or its presence, changes. -/
def ChangesSession : Prop :=
  (u.previous.find clientId).map ClientPolicy.sessionFingerprint ≠
    (u.installed.find clientId).map ClientPolicy.sessionFingerprint

/-- The update disables the client. -/
def Disables : Prop :=
  ∃ p q, u.previous.find clientId = some p ∧ p.enabled = true ∧
    u.installed.find clientId = some q ∧ q.enabled = false

/-- The update deletes the client. -/
def Deletes : Prop :=
  u.previous.find clientId ≠ none ∧ u.installed.find clientId = none

/-- The update is one that sessions of the client must not survive. -/
def DemandsStop : Prop :=
  (u.apiDriven = false ∧ EffectiveChange u.previous u.installed clientId) ∨
    u.ChangesSession clientId ∨ u.Disables clientId ∨ u.Deletes clientId

end PolicyUpdate

/-- The task is the look a control session takes at itself for an update that
demands its stop, and the session does not hold the installed policy. -/
structure MustStop (s : ServerState) (e : Event) (key : SessionKey) (session : ControlSession)
    (policy : ClientPolicy) (u : PolicyUpdate) : Prop where
  task : e = .session key .reloadStop
  found : s.sessions.lookup key = some session
  control : ∃ generation, session.role = .control generation
  owner : session.policyOwner = some policy
  queue : ∃ rest, session.reloadStops = u :: rest
  demand : u.DemandsStop session.clientId
  outdated : (u.installed.find session.clientId).map ClientPolicy.revisionFingerprint ≠
    some policy.revisionFingerprint

/-- **Policy-stop completeness** at one task: a session that must stop has been
asked to. -/
def StopsOnDemand (net : AddressText) (s : ServerState) (e : Event) : Prop :=
  ∀ key session policy u, MustStop s e key session policy u →
    ∃ session', (step net s e).sessions.lookup key = some session' ∧
      session'.stopRequested = true

/-- The update replaced the policy the session authenticated under, as far as
the fingerprint shows that the pass compares. -/
def ReplacesPolicyOf (u : PolicyUpdate) (policy : ClientPolicy) (clientId : Bytes) : Prop :=
  clientId ∈ u.changedClients ∧
    if u.apiDriven then policy.sessionFingerprint = (u.criteria clientId).oldSession
    else policy.revisionFingerprint = (u.criteria clientId).oldRevision

/-- Every session that must stop at this task has been asked before, or has the
policy that the update replaced. -/
def OwnPolicyReplaced (s : ServerState) (e : Event) : Prop :=
  ∀ key session policy u, MustStop s e key session policy u →
    session.stopRequested = true ∨ ReplacesPolicyOf u policy session.clientId

/-! ## Snapshots with true digests -/

/-- The digests of a snapshot are those of its fields, and what was digested is
among the given inputs. -/
structure HashedWithin (net : AddressText) (sha256 : Digest) (inputs : Set Bytes)
    (snapshot : PolicySnapshot) : Prop where
  fingerprinted : snapshot.Fingerprinted net sha256
  inputs : snapshot.digestInputs net ⊆ inputs

/-- Every snapshot the server, its posted passes and its dispatched stops refer to
has a property. -/
structure HoldsOfSnapshots (property : PolicySnapshot → Prop) (s : ServerState) : Prop where
  policies : property s.policies
  posted : ∀ u ∈ s.postedPasses, property u.previous ∧ property u.installed
  dispatched : ∀ key session, s.sessions.lookup key = some session →
    ∀ u ∈ session.reloadStops, property u.previous ∧ property u.installed

/-- The policies a task installs have the property. -/
def Event.Installs (property : PolicySnapshot → Prop) : Event → Prop
  | .applyPolicyUpdate _ replacement => property replacement
  | _ => True

theorem OwnStep.reloadStops_subset {s : ServerState} {ses ses' : ControlSession}
    {task : SessionTask} (h : OwnStep s ses task ses') :
    ses'.reloadStops ⊆ ses.reloadStops := by
  cases h with
  | reloadStop hq =>
    rw [hq]
    exact List.subset_cons_self _ _
  | hello | workerHello | workerRefused | workerNotified => exact List.Subset.refl _

theorem HoldsOfSnapshots.step {property : PolicySnapshot → Prop} {net : AddressText}
    {s : ServerState} {e : Event} (h : HoldsOfSnapshots property s) (he : e.Installs property) :
    HoldsOfSnapshots property (step net s e) := by
  have hd : ∀ k ses', (Server.step net s e).sessions.lookup k = some ses' →
      ∀ u ∈ ses'.reloadStops, property u.previous ∧ property u.installed := by
    intro k ses' hk u hu
    have hef := sessionEffect net s e k
    rw [hk] at hef
    generalize hf : s.sessions.lookup k = found at hef
    cases hef with
    | same | opened | worker => exact h.dispatched k _ hf u hu
    | accepted => cases hu
    | own hown => exact h.dispatched k _ hf u (hown.reloadStops_subset hu)
    | flagged ses hpos =>
      rcases List.mem_append.1 hu with hu | hu
      · exact h.dispatched k ses hf u hu
      · rw [List.mem_singleton.1 hu]
        exact h.posted _ hpos
  have hef := stepEffect net s e
  generalize Server.step net s e = s' at hef hd ⊢
  cases hef with
  | updated apiDriven new =>
    refine ⟨he, fun u hu => ?_, hd⟩
    rcases List.mem_append.1 hu with hu | hu
    · exact h.posted u hu
    · rw [List.mem_singleton.1 hu]
      exact ⟨h.policies, he⟩
  | @passed u rest hpos =>
    obtain ⟨-, -, hpol, hr⟩ :=
      ServerState.tearDownAffected_frame (s := { s with postedPasses := rest }) (u := u)
    refine ⟨?_, ?_, hd⟩
    · rw [ServerState.policyPass, ServerState.dispatchReloadStops, hpol]
      exact h.policies
    · rw [ServerState.policyPass, ServerState.dispatchReloadStops, hr]
      exact fun v hv => h.posted v (by simp [hpos, hv])
  | nothing | accepted | own | opened | workerRegistered | workerTimedOut | workerAssigned
  | tunnelRegistered | tunnelUnregistered | left | workerLeft | controlLeft =>
    exact ⟨h.policies, h.posted, hd⟩

/-! ## One look -/

theorem policyFingerprint_ne_nil {net : AddressText} {sha256 : Digest} {p : PolicyFields}
    {b : Bool} {f : Bytes} (h : policyFingerprint net sha256 p b = .ok f) : f ≠ [] := by
  unfold policyFingerprint at h
  split at h
  · exact absurd h failure_ne_ok
  · next digest _ =>
    split at h
    · next hlen =>
      cases h
      intro hnil
      have := hexEncode_length digest
      rw [hnil, hlen] at this
      cases this
    · exact absurd h failure_ne_ok

/-- The digest sees whether a policy is enabled: the digit stands right behind
the identifier. -/
theorem digestInput_ne_of_enabled (net : AddressText) {p q : PolicyFields}
    (hid : p.clientId = q.clientId) (hp : p.enabled = true) (hq : q.enabled = false) (b : Bool) :
    digestInput net p b ≠ digestInput net q b := by
  intro h
  simp only [digestInput, publicUpdates, hid, hp, hq, List.cons_append, List.flatten_cons,
    List.append_cancel_left_eq] at h
  exact absurd (List.cons.inj h).1 (by decide)

section Pass

variable {net : AddressText} {sha256 : Digest} {inputs : Set Bytes} {u : PolicyUpdate}
  {cid : Bytes}

/-- An update of the management interface that demands a stop changes the session
fingerprint it hands to the pass. -/
theorem criteria_session_ne (hsha : Set.InjOn sha256 inputs)
    (hpre : HashedWithin net sha256 inputs u.previous)
    (hi : HashedWithin net sha256 inputs u.installed)
    (hd : u.ChangesSession cid ∨ u.Disables cid ∨ u.Deletes cid) :
    (u.criteria cid).newSession ≠ (u.criteria cid).oldSession := by
  have hc : u.ChangesSession cid := by
    rcases hd with h | ⟨p, q, hp, hpe, hq, hqe⟩ | ⟨hp, hq⟩
    · exact h
    · have hid : p.clientId = q.clientId :=
        (u.previous.wellKeyed _ p hp).trans (u.installed.wellKeyed _ q hq).symm
      have heq := policyFingerprint_eq_iff hsha
        (hpre.inputs (PolicySnapshot.mem_digestInputs hp false))
        (hi.inputs (PolicySnapshot.mem_digestInputs hq false))
        (hpre.fingerprinted _ p hp).session (hi.fingerprinted _ q hq).session
      have hne := digestInput_ne_of_enabled net hid hpe hqe false
      simpa [PolicyUpdate.ChangesSession, hp, hq, heq] using hne
    · cases hf : u.previous.find cid with
      | none => exact absurd hf hp
      | some p => simp [PolicyUpdate.ChangesSession, hf, hq]
  unfold PolicyUpdate.ChangesSession at hc
  unfold PolicyUpdate.criteria
  cases hp : u.previous.find cid with
  | none =>
    cases hq : u.installed.find cid with
    | none => simp [hp, hq] at hc
    | some q => simpa using policyFingerprint_ne_nil (hi.fingerprinted _ q hq).session
  | some p =>
    cases hq : u.installed.find cid with
    | none => simpa using (policyFingerprint_ne_nil (hpre.fingerprinted _ p hp).session).symm
    | some q => simpa using Ne.symm (by simpa [hp, hq] using hc)

/-- For a control session with a policy, `request_reload_stop` asks for a stop
unless the session survives. -/
theorem ControlSession.stopRequested_requestReloadStop {ses : ControlSession}
    {gen : Nat} (hr : ses.role = .control gen) :
    (ses.requestReloadStop u).stopRequested = (ses.stopRequested || !ses.survives u) := by
  unfold ControlSession.requestReloadStop
  cases hs : ses.survives u <;> simp [hr]

/-- A session that must stop survives exactly if its policy is not the one that
was replaced. -/
theorem survives_eq_false_iff (hsha : Set.InjOn sha256 inputs)
    (hpre : HashedWithin net sha256 inputs u.previous)
    (hi : HashedWithin net sha256 inputs u.installed) {ses : ControlSession}
    {pol : ClientPolicy} (how : ses.policyOwner = some pol)
    (hd : u.DemandsStop ses.clientId) :
    ses.survives u = false ↔ ReplacesPolicyOf u pol ses.clientId := by
  unfold ControlSession.survives ReplacesPolicyOf
  by_cases hchg : ses.clientId ∈ u.changedClients
  · simp only [hchg, how]
    change (if u.apiDriven = true then _ else _) = false ↔ _
    cases hapi : u.apiDriven with
    | false => simp
    | true =>
      have hne : (u.criteria ses.clientId).newSession ≠ (u.criteria ses.clientId).oldSession := by
        refine criteria_session_ne hsha hpre hi ?_
        rcases hd with ⟨hf, -⟩ | h
        · rw [hapi] at hf
          cases hf
        · exact h
      simp [hne]
  · simp [hchg]

/-- **One look** at a server whose snapshots have true digests. -/
theorem stopsOnDemand_step_iff {s : ServerState} (hsha : Set.InjOn sha256 inputs)
    (hs : HoldsOfSnapshots (HashedWithin net sha256 inputs) s) (e : Event) :
    StopsOnDemand net s e ↔ OwnPolicyReplaced s e := by
  refine forall_congr' fun key => forall_congr' fun ses => forall_congr' fun pol =>
    forall_congr' fun u => forall_congr' fun hmust => ?_
  obtain ⟨rest, hq⟩ := hmust.queue
  obtain ⟨gen, hr⟩ := hmust.control
  obtain ⟨hpre, hi⟩ :=
    hs.dispatched key ses hmust.found u (by simp [hq])
  have ha : (step net s e).sessions.lookup key =
      some { ses.requestReloadStop u with reloadStops := rest } := by
    simp only [hmust.task, step, hmust.found, ServerState.sessionStep, hq,
      ServerState.lookup_setSession, if_true]
  rw [← survives_eq_false_iff hsha hpre hi hmust.owner hmust.demand, ha]
  simp [ControlSession.stopRequested_requestReloadStop hr]

end Pass

/-! ## Whole runs -/

/-- **Policy-stop completeness**, exactly: in a run of a server that starts
without sessions, every session that must stop is asked to if and only if each of
them has the policy that the update replaced. -/
theorem stopsOnDemand_iff (net : AddressText) (sha256 : Digest) (inputs : Set Bytes)
    (s : ServerState) (es : List Event) (hsha : Set.InjOn sha256 inputs)
    (hsessions : s.sessions = ∅) (hposted : s.postedPasses = [])
    (hpolicies : HashedWithin net sha256 inputs s.policies)
    (hes : ∀ e ∈ es, e.Installs (HashedWithin net sha256 inputs)) :
    AllSteps (step net) (StopsOnDemand net) s es ↔
      AllSteps (step net) OwnPolicyReplaced s es := by
  have hstart : HoldsOfSnapshots (HashedWithin net sha256 inputs) s := by
    refine ⟨hpolicies, fun u hu => ?_, fun key session hk => ?_⟩
    · rw [hposted] at hu
      cases hu
    · rw [hsessions] at hk
      cases hk
  exact allSteps_congr_of_invariant (fun s e hs he => hs.step he)
    (fun s e hs => stopsOnDemand_step_iff hsha hs e) hstart hes

theorem hashedWithin_emplace_empty {net : AddressText} {sha256 : Digest} {inputs : Set Bytes}
    {p : ClientPolicy} (hp : Fingerprinted net sha256 p)
    (hin : ∀ b, digestInput net p.toPolicyFields b ∈ inputs) :
    HashedWithin net sha256 inputs (PolicySnapshot.empty.emplace p) := by
  constructor
  · intro id q hq
    rw [PolicySnapshot.find_emplace] at hq
    split at hq
    · cases hq
      exact hp
    · cases hq
  · intro input hi
    obtain ⟨b, rfl⟩ := PolicySnapshot.digestInputs_emplace_empty hi
    exact hin b

/-! ## A session that outlives its policy -/

namespace Sample

def disabledPolicy : ClientPolicy :=
  { rotatedPolicy with
    enabled := false
    revisionFingerprint := ascii "72068ad18cd377fe83f4d8b51712c2592d7efeb14db5bc48dc3f9cc571041b1a"
    sessionFingerprint := ascii "2bc8dc19204dab4a1f0ca87b364a2555b7169fdcab9ed396c0f8ddca15f6c639" }

/-- The file disables the client. -/
def disabling : List Event :=
  [.applyPolicyUpdate false (PolicySnapshot.empty.emplace disabledPolicy), .policyPass,
    .session 1 .reloadStop]

/-- A session opens, its key is rotated, and then the file disables the client. -/
def outlived : List Event :=
  connect 1 7 ++
    [.applyPolicyUpdate true rotated, .policyPass,
      .session 1 .reloadStop] ++ disabling

theorem hashed_policy : HashedWithin net sha256 inputs server.policies :=
  hashedWithin_emplace_empty ⟨rfl, rfl⟩ (by decide +kernel)

theorem hashed_outlived : ∀ e ∈ outlived, e.Installs (HashedWithin net sha256 inputs) := by
  have hr : HashedWithin net sha256 inputs rotated :=
    hashedWithin_emplace_empty ⟨rfl, rfl⟩ (by decide +kernel)
  have hd : HashedWithin net sha256 inputs (PolicySnapshot.empty.emplace disabledPolicy) :=
    hashedWithin_emplace_empty ⟨rfl, rfl⟩ (by decide +kernel)
  simp [outlived, disabling, connect, Event.Installs, hr, hd]

end Sample

open Sample

/-- Without the rotation before it. -/
theorem disabled_session_stopped :
    AllSteps (step net) (StopsOnDemand net) server (connect 1 7 ++ disabling) := by
  refine (stopsOnDemand_iff net sha256 inputs server _ injOn_sha256 rfl rfl hashed_policy
    fun e he => hashed_outlived e ?_).2 ⟨?_, ?_, ?_, ?_, ?_, ?_, trivial⟩
  · rw [outlived, List.append_assoc]
    simp only [List.mem_append] at he ⊢
    exact he.imp id .inr
  all_goals rintro key session replaced u ⟨⟨⟩, hfound, _, howner, ⟨rest, hqueue⟩, _, _⟩
  cases hfound
  cases howner
  cases hqueue
  exact .inr ⟨by decide +kernel, by decide +kernel⟩

/-- The session survives the rotation, as it should, and then the reload that
disables its client: it is open, it holds neither the replaced nor the installed
policy, and nobody has asked it to stop. -/
theorem outlived_session_not_stopped :
    (∃ session, (exec (step net) server outlived).sessions.lookup 1 =
        some session ∧
      session.openGeneration = some 7 ∧ session.policyOwner = some policy ∧
      session.stopRequested = false) ∧
    ((exec (step net) server outlived).policies.find clientId).map
      (fun policy => policy.enabled) = some false ∧
    ¬ AllSteps (step net) (StopsOnDemand net) server outlived := by
  refine ⟨⟨_, rfl, rfl, rfl, rfl⟩, rfl, fun h => ?_⟩
  have hlast : outlived = outlived.dropLast ++ [.session 1 .reloadStop] := rfl
  rw [hlast] at h
  obtain ⟨session', hsession', hstop⟩ := h.at_split 1 _ policy
    ⟨false, rotated, PolicySnapshot.empty.emplace disabledPolicy⟩
    ⟨rfl, rfl, ⟨7, rfl⟩, rfl, ⟨[], rfl⟩,
      .inr (.inr (.inl ⟨rotatedPolicy, disabledPolicy, rfl, rfl, rfl, rfl⟩)),
      by decide +kernel⟩
  cases hsession'
  cases hstop

end MiniTun.Server
