import MiniTun.Daemon.SessionSteps
import MiniTun.System.WorkerRelays

/-!
# What goes out was selected

A mode reaches `START_RELAY` through a listener that was registered long before, and
the addresses through a set that another session has looked up.  Both are traced back
to a control session of the worker's own generation: a listener is vouched for by the
selection under which it was registered (`Vouched`), a handler and an assignment stay
with the session they were made for (`Attached`), and what that session adopted was
selected for its generation.
-/

namespace MiniTun.System

open Daemon KeyedMap Server TransitionSystem

/-- A control session of the generation has selected the capability. -/
def Selected (selected : List Selection) (clientId : Bytes) (generation : Nat)
    (capability : Capability) : Prop :=
  ∃ selection ∈ selected, selection.clientId = clientId ∧ selection.generation = generation ∧
    CapabilitySet.has selection.capabilities capability = true

/-- A request carries what the session's own selection permits. -/
structure RequestGated (selection : Selection) (m : RegisterTunnelMessage) : Prop where
  mode : m.mode ≠ .tcp → CapabilitySet.has selection.capabilities (requiredCapability m.mode) = true
  legacy : (∀ mode, mode ≠ .tcp →
      CapabilitySet.has selection.capabilities (requiredCapability mode) = false) →
    ∀ payload, Protocol.encodeRegisterTunnel m.wire = .ok payload → payload = m.wire.legacyImage

/-- A relay carries what a control session of the worker's generation has selected.  The
observed host needs its own capability and the source endpoint, so the last clause does
not have to rule it out. -/
structure RelayGated (selected : List Selection) (r : EmittedRelay) : Prop where
  encoded : Protocol.encodeStartRelay r.message = .ok r.payload
  mode : ∃ mode : TunnelMode, r.message.mode = mode.code ∧
    (mode ≠ .tcp → Selected selected r.clientId r.generation (requiredCapability mode))
  source : r.message.sourceHost.isSome = true ∨ r.message.sourcePort.isSome = true →
    Selected selected r.clientId r.generation .proxyProtocol ∨
      Selected selected r.clientId r.generation .tcpSimultaneousOpen
  observed : r.message.workerObservedHost.isSome = true →
    Selected selected r.clientId r.generation .workerObservedEndpoint ∧
      r.message.sourceHost.isSome = true ∧ r.message.sourcePort.isSome = true
  legacy : (∀ mode, mode ≠ .tcp →
      ¬ Selected selected r.clientId r.generation (requiredCapability mode)) →
    ¬ Selected selected r.clientId r.generation .proxyProtocol →
    ¬ Selected selected r.clientId r.generation .tcpSimultaneousOpen →
    r.payload = r.message.legacyImage

/-! ## Selections -/

section Selections

variable {selected selected' : List Selection}

theorem Selected.mono {c : Bytes} {g : Nat} {cap : Capability}
    (hsub : ∀ sel ∈ selected, sel ∈ selected') (h : Selected selected c g cap) :
    Selected selected' c g cap := by
  obtain ⟨sel, hmem, h⟩ := h
  exact ⟨sel, hsub sel hmem, h⟩

variable {session : ControlSession}

theorem selectionOf_eq_some {sel : Selection} (h : selectionOf session = some sel) :
    session.openGeneration = some sel.generation ∧ sel.clientId = session.clientId ∧
      sel.capabilities = session.selectedCapabilities := by
  obtain ⟨gen, hop, rfl⟩ := Option.map_eq_some_iff.1 h
  exact ⟨hop, rfl, rfl⟩

theorem selectionOf_of_open {generation : Nat} (h : session.openGeneration = some generation) :
    selectionOf session = some ⟨session.clientId, generation, session.selectedCapabilities⟩ := by
  rw [selectionOf, h]
  rfl

theorem mem_openSelections {sess : Map SessionKey ControlSession} {sel : Selection} :
    sel ∈ openSelections sess ↔
      ∃ key session, sess.lookup key = some session ∧ selectionOf session = some sel := by
  unfold openSelections
  rw [List.mem_filterMap]
  constructor
  · rintro ⟨⟨key, session⟩, hmem, hsel⟩
    exact ⟨key, session, lookup_eq_some_iff.2 hmem, hsel⟩
  · rintro ⟨key, session, hl, hsel⟩
    exact ⟨⟨key, session⟩, lookup_eq_some_iff.1 hl, hsel⟩

/-- A control session of the binding's generation has selected its mode. -/
def Vouched (selected : List Selection) (b : TunnelBinding) : Prop :=
  Selected selected b.clientId b.sessionGeneration (requiredCapability b.mode)

theorem vouched_binding {generation : Nat} {m : RegisterTunnelMessage}
    (hop : session.openGeneration = some generation)
    (hmem : ⟨session.clientId, generation, session.selectedCapabilities⟩ ∈ selected)
    (hs : supportsTunnelMode session.selectedCapabilities m.mode = true) :
    Vouched selected (session.binding m) :=
  ⟨_, hmem, rfl, (ControlSession.generation_of_openGeneration hop).symm, hs⟩

theorem RelayGated.mono {r : EmittedRelay}
    (hsub : ∀ sel ∈ selected, sel ∈ selected') (h : RelayGated selected r) :
    RelayGated selected' r where
  encoded := h.encoded
  mode := by
    obtain ⟨mode, hc, hsel⟩ := h.mode
    exact ⟨mode, hc, fun hm => (hsel hm).mono hsub⟩
  source := fun hs => (h.source hs).imp (Selected.mono hsub) (Selected.mono hsub)
  observed := fun hobs => ⟨(h.observed hobs).1.mono hsub, (h.observed hobs).2⟩
  legacy := fun hmod hp hop =>
    h.legacy (fun mode hm hsel => hmod mode hm (hsel.mono hsub))
      (fun hsel => hp (hsel.mono hsub)) fun hsel => hop (hsel.mono hsub)

/-- The message of an assignment whose binding is vouched for, built from a set that was
selected for the same generation. -/
theorem relayGated_of_assignment {b : TunnelBinding} {caps : CapabilitySet}
    {conId pay : Bytes} {peers : RelayPeers} (hv : Vouched selected b)
    (hsel : ∀ cap, CapabilitySet.has caps cap = true →
      Selected selected b.clientId b.sessionGeneration cap)
    (he : Protocol.encodeStartRelay (assignmentMessage caps b conId peers) =
      .ok pay) :
    RelayGated selected ⟨b.clientId, b.sessionGeneration,
      assignmentMessage caps b conId peers, pay⟩ where
  encoded := he
  mode := ⟨b.mode, rfl, fun _ => hv⟩
  source := fun hs => (source_assignmentMessage hs).imp (hsel _) (hsel _)
  observed := fun hobs =>
    ⟨hsel _ (observed_assignmentMessage hobs),
      Protocol.source_of_observed he hobs⟩
  legacy := by
    intro hmod hp hop
    have htcp : b.mode = .tcp := by
      by_contra hm
      exact hmod b.mode hm hv
    have hs : supportsSourceEndpoint caps = false := by
      rw [supportsSourceEndpoint, Bool.or_eq_false_iff]
      exact ⟨Bool.eq_false_iff.2 fun h => hp (hsel _ h),
        Bool.eq_false_iff.2 fun h => hop (hsel _ h)⟩
    exact Protocol.legacyImage_of_encodeStartRelay (congrArg TunnelMode.code htcp)
      (sourceHost_assignmentMessage hs) he

end Selections

namespace WorkerPlane

/-! ## The invariant of the server's side -/

/-- The session under the key, as long as it lives, is a worker of the generation. -/
structure Attached (accepted : List SessionKey) (sessions : Map SessionKey ControlSession)
    (key : SessionKey) (clientId : Bytes) (generation : Nat) : Prop where
  accepted : key ∈ accepted
  serves : ∀ session, sessions.lookup key = some session → session.Serves clientId generation

/-- The invariant on the server's side. -/
structure Gated (wp : WorkerPlane) : Prop where
  generations : ∀ selection ∈ wp.selected, selection.generation ≠ 0
  sessions : ∀ key session, wp.control.server.sessions.lookup key = some session →
    key ∈ wp.accepted
  opened : ∀ key session selection, wp.control.server.sessions.lookup key = some session →
    selectionOf session = some selection → selection ∈ wp.selected
  listeners : ∀ key b, wp.control.server.tunnelRegistry.listeners.lookup key = some b →
    Vouched wp.selected b
  workers : ∀ workerId w, wp.control.server.workerPool.entries.lookup workerId = some w →
    ∃ key, wp.handlers.lookup workerId = some key ∧
      Attached wp.accepted wp.control.server.sessions key w.clientId w.sessionGeneration
  adopted : ∀ key capabilities, wp.adopted.lookup key = some capabilities →
    ∃ c g, Attached wp.accepted wp.control.server.sessions key c g ∧ (g ≠ 0 → ∀ capability,
      CapabilitySet.has capabilities capability = true → Selected wp.selected c g capability)
  connections : ∀ connection b, wp.connections.lookup connection = some b → Vouched wp.selected b
  assignments : ∀ key b, wp.assignments.lookup key = some b → Vouched wp.selected b ∧
    Attached wp.accepted wp.control.server.sessions key b.clientId b.sessionGeneration
  relays : ∀ r ∈ wp.relays, RelayGated wp.selected r

variable {net : AddressText} {wp : WorkerPlane}

theorem Gated.initial (offered : CapabilitySet) (policies : PolicySnapshot) (maxClients : Nat)
    (allowedPorts : PortRange) (maxTunnels maxTun maxIdle maxTotalIdle : Nat)
    (sid : Bytes) :
    (WorkerPlane.initial offered policies maxClients allowedPorts maxTunnels maxTun
      maxIdle maxTotalIdle sid).Gated where
  generations := fun _ h => by cases h
  sessions := fun _ _ h => by cases h
  opened := fun _ _ _ h => by cases h
  listeners := fun _ _ h => by cases h
  workers := fun _ _ h => by cases h
  adopted := fun _ _ h => by cases h
  connections := fun _ _ h => by cases h
  assignments := fun _ _ h => by cases h
  relays := fun _ h => by cases h

/-! ### The strand -/

section Strand

variable {e : Server.Event}

theorem mem_selected_strand {sel : Selection} (h : sel ∈ wp.selected) :
    sel ∈ (wp.strand net e).selected :=
  List.mem_append_left _ h

theorem mem_accepted_strand {key : SessionKey} (h : key ∈ wp.accepted) :
    key ∈ (wp.strand net e).accepted := by
  cases e with
  | accept k => exact List.mem_cons_of_mem k h
  | session k task => exact h
  | assignWorker wid => exact h
  | applyPolicyUpdate apiDriven new => exact h
  | policyPass => exact h

theorem Attached.strand (ha : wp.admits e = true) {key : SessionKey} {c : Bytes} {g : Nat}
    (h : Attached wp.accepted wp.control.server.sessions key c g) :
    Attached (wp.strand net e).accepted (wp.strand net e).control.server.sessions key c g where
  accepted := mem_accepted_strand h.accepted
  serves := by
    intro ses' hl
    have hnew : e ≠ .accept key := by
      rintro rfl
      exact of_decide_eq_true ha h.accepted
    obtain ⟨ses, hold, hk⟩ := serves_origin hl hnew
    exact hk c g (h.serves ses hold)

theorem Gated.workers_strand (h : wp.Gated) (ha : wp.admits e = true) {workerId : Bytes}
    {w : WorkerRegistration}
    (hw : (wp.strand net e).control.server.workerPool.entries.lookup workerId = some w) :
    ∃ key, (wp.strand net e).handlers.lookup workerId = some key ∧
      Attached (wp.strand net e).accepted (wp.strand net e).control.server.sessions key
        w.clientId w.sessionGeneration := by
  rcases worker_origin hw with ⟨hold, hno⟩ | ⟨key, session, hadd, hs, hr, hc⟩
  · obtain ⟨key, hh, hat⟩ := h.workers workerId w hold
    refine ⟨key, ?_, hat.strand ha⟩
    simp only [WorkerPlane.strand]
    split
    · next other key' hadd =>
      rw [lookup_insert_eq_ite, if_neg, hh]
      rintro rfl
      exact hno key' hadd
    · exact hh
  · refine ⟨key, ?_, Attached.strand ha ⟨h.sessions key session hs, ?_⟩⟩
    · simp only [WorkerPlane.strand, hadd]
      exact AList.lookup_insert _
    · intro ses' hs'
      rw [hs] at hs'
      cases hs'
      exact ⟨hc, workerId, .greeted, hr⟩

theorem Gated.strand (h : wp.Gated) (ha : wp.admits e = true) : (wp.strand net e).Gated where
  generations := by
    intro sel hmem
    rcases List.mem_append.1 hmem with hold | hop
    · exact h.generations sel hold
    · obtain ⟨key, session, -, hsel⟩ := mem_openSelections.1 hop
      exact (ControlSession.openGeneration_eq_some.1 (selectionOf_eq_some hsel).1).2
  sessions := by
    intro key session hl
    by_cases hnew : e = .accept key
    · subst hnew
      exact List.mem_cons_self
    · obtain ⟨old, hold, -⟩ := serves_origin hl hnew
      exact mem_accepted_strand (h.sessions key old hold)
  opened := fun key session sel hl hsel =>
    List.mem_append_right _ (mem_openSelections.2 ⟨key, session, hl, hsel⟩)
  listeners := by
    intro key b hl
    rcases listener_origin hl with hold | ⟨k, session, g, m, hs, hop, rfl, hsp⟩
    · exact (h.listeners key b hold).mono fun _ => mem_selected_strand
    · have hmem := h.opened k session _ hs (selectionOf_of_open hop)
      exact vouched_binding hop (mem_selected_strand hmem) hsp
  workers := fun wid w hw => h.workers_strand ha hw
  adopted := by
    intro key caps hl
    obtain ⟨c, g, hat, hsl⟩ := h.adopted key caps hl
    exact ⟨c, g, hat.strand ha, fun hg cap hhas =>
      (hsl hg cap hhas).mono fun _ => mem_selected_strand⟩
  connections := fun conn b hl =>
    (h.connections conn b hl).mono fun _ => mem_selected_strand
  assignments := by
    intro key b hl
    obtain ⟨hv, hat⟩ := h.assignments key b hl
    exact ⟨hv.mono fun _ => mem_selected_strand, hat.strand ha⟩
  relays := fun r hr => (h.relays r hr).mono fun _ => mem_selected_strand

end Strand

/-! ### The control session's requests -/

/-- What serving the daemon leaves alone on the server. -/
structure Serving (s s' : ServerState) : Prop where
  sessions : s'.sessions = s.sessions
  workerPool : s'.workerPool = s.workerPool
  listeners : ∀ key b, s'.tunnelRegistry.listeners.lookup key = some b →
    s.tunnelRegistry.listeners.lookup key = some b ∨
      ∃ k session generation m, s.sessions.lookup k = some session ∧
        session.openGeneration = some generation ∧ b = session.binding m ∧
        supportsTunnelMode session.selectedCapabilities m.mode = true

theorem Serving.refl (s : ServerState) : Serving s s :=
  ⟨rfl, rfl, fun _ _ h => .inl h⟩

theorem serving_serve (cp : ControlPlane) (key : SessionKey) (out : ListenOutcome) :
    Serving cp.server (cp.serve net key out).server := by
  unfold ControlPlane.serve
  split
  · next session _ hs =>
    split
    · next m _ =>
      refine ⟨sessions_sessionRegisterTunnel m out, ?_, ?_⟩
      · rcases cp.server.sessionRegisterTunnel_cases net session m out with
          ⟨error, he⟩ | ⟨generation, limit, -, hr⟩
        · rw [he]
        · rw [hr]
      · intro k b hl
        rcases registerTunnel_of_supported hl with hold | ⟨⟨g, hop⟩, hb, hsp⟩
        · exact .inl hold
        · exact .inr ⟨key, session, g, m, hs, hop, hb, hsp⟩
    · next tid rev _ =>
      simp only [Server.step, hs, ServerState.sessionStep]
      split
      · exact ⟨rfl, rfl, fun _ _ h => .inl (TunnelRegistry.lookup_of_unregisterTunnel h)⟩
      · exact Serving.refl _
    · exact Serving.refl _
  · exact Serving.refl _

theorem Gated.serving (h : wp.Gated) {control : ControlPlane}
    (hs : Serving wp.control.server control.server)
    (link : Option (SessionKey × Selection)) (reqs : List RegisterTunnelMessage) :
    { wp with control := control, link := link, requests := reqs }.Gated where
  generations := h.generations
  sessions := hs.sessions ▸ h.sessions
  opened := hs.sessions ▸ h.opened
  listeners := by
    intro key b hl
    rcases hs.listeners key b hl with
      hold | ⟨k, session, g, m, hse, hop, rfl, hsp⟩
    · exact h.listeners key b hold
    · exact vouched_binding hop (h.opened k session _ hse (selectionOf_of_open hop)) hsp
  workers := by
    simp only [hs.sessions, hs.workerPool]
    exact h.workers
  adopted := hs.sessions ▸ h.adopted
  connections := h.connections
  assignments := hs.sessions ▸ h.assignments
  relays := h.relays

theorem serving_step (cp : ControlPlane) (key : SessionKey) {e : ControlEvent}
    (hs : ∀ task, e ≠ .strand task) : Serving cp.server (cp.step net key e).server := by
  cases e with
  | serverReads out => exact serving_serve cp key out
  | strand task => exact absurd rfl (hs task)
  | reconcile dtb ord => exact Serving.refl _
  | advance intr => exact Serving.refl _
  | daemonReads flt => exact Serving.refl _
  | serverSends rid msg =>
    simp only [ControlPlane.step]
    split
    · exact Serving.refl _
    · exact Serving.refl _

section Steps

variable (h : wp.Gated)
include h

theorem Gated.controlStep (e : ControlEvent) : (wp.controlStep net e).Gated := by
  unfold WorkerPlane.controlStep
  split
  · exact h
  · exact h
  · next key sel _ hs =>
    exact h.serving (serving_step wp.control key hs) wp.link _

/-! ### Workers and public connections -/

theorem Gated.authenticated (key : SessionKey) : (wp.authenticated key).Gated := by
  unfold WorkerPlane.authenticated
  split
  · split
    · exact h
    · refine h.serving ?_ _ wp.requests
      exact Serving.refl _
  · exact h

theorem Gated.adopt (wkr : SessionKey) (ord : List SessionKey) :
    (wp.adopt wkr ord).Gated := by
  unfold WorkerPlane.adopt
  split
  · exact h
  · next ses hs =>
    split
    · next generation workerId hr =>
      split
      · refine { h with adopted := ?_ }
        intro key caps hl
        rw [lookup_insert_eq_ite] at hl
        split at hl
        · next hkey =>
          subst hkey
          cases hl
          refine ⟨ses.clientId, generation, ⟨h.sessions key ses hs, ?_⟩, ?_⟩
          · intro ses' hs'
            rw [hs] at hs'
            cases hs'
            exact ⟨rfl, workerId, .greeted, hr⟩
          · intro hgen cap hhas
            rcases controlSessionCapabilities_origin wp.control.server ord ses.clientId
              hgen with hz | ⟨k, other, ho, hc, hop, hset⟩
            · rw [hz, CapabilitySet.has_zero] at hhas
              cases hhas
            · rw [← hset] at hhas
              exact ⟨_, h.opened k other _ ho (selectionOf_of_open hop), hc, rfl, hhas⟩
        · exact h.adopted key caps hl
      · exact h
    · exact h

theorem Gated.accept (conn : Nat) (lsn : Bytes) :
    (wp.accept conn lsn).Gated := by
  unfold WorkerPlane.accept
  split
  · exact h
  · next b hb =>
    refine { h with connections := ?_ }
    exact forall_lookup_insert (h.listeners lsn b hb) h.connections

theorem Gated.finished (conn : Nat) :
    { wp with connections := wp.connections.erase conn }.Gated := by
  refine { h with connections := ?_ }
  intro i b hl
  exact h.connections i b (lookup_of_erase hl)

theorem Gated.tryAssign (conn : Nat) (ord : List Bytes) :
    (wp.tryAssign conn ord).Gated := by
  unfold WorkerPlane.tryAssign
  split
  · exact h
  · next b hb =>
    split
    · exact h.finished conn
    · split
      · exact h
      · next wid ha' =>
        split
        · exact h
        · next key hh =>
          refine { h.finished conn with workers := ?_, assignments := ?_ }
          · intro other w hl
            exact h.workers other w (WorkerPool.lookup_of_remove hl)
          · intro key' b' hl
            rw [lookup_insert_eq_ite] at hl
            split at hl
            · next hkey =>
              subst hkey
              cases hl
              -- the pool's worker is of the binding's generation, and its handler is `key'`
              obtain ⟨w, hw, hc, hgen⟩ := WorkerPool.assign_eq_some ha'
              obtain ⟨key, hkey, ha⟩ := h.workers wid w hw
              rw [hh] at hkey
              cases hkey
              rw [hc, hgen] at ha
              exact ⟨h.connections conn b hb, ha⟩
            · exact h.assignments key' b' hl

/-- What the worker of an assignment has adopted was selected for the binding's
generation. -/
theorem Gated.selected_of_adopted {wkr : SessionKey} {ses : ControlSession}
    {b : TunnelBinding} (hs : wp.control.server.sessions.lookup wkr = some ses)
    (ha' : wp.assignments.lookup wkr = some b) (cap : Capability)
    (hhas : CapabilitySet.has ((wp.adopted.lookup wkr).getD 0) cap = true) :
    Selected wp.selected b.clientId b.sessionGeneration cap := by
  obtain ⟨hv, hat⟩ := h.assignments wkr b ha'
  cases ha : wp.adopted.lookup wkr with
  | none =>
    rw [ha, Option.getD_none, CapabilitySet.has_zero] at hhas
    cases hhas
  | some caps =>
    rw [ha] at hhas
    obtain ⟨c, g, hw, hsel⟩ := h.adopted wkr caps ha
    obtain ⟨rfl, rfl⟩ :=
      (hw.serves ses hs).unique (hat.serves ses hs)
    have hgen : b.sessionGeneration ≠ 0 := by
      obtain ⟨sel, hmem, -, hg, -⟩ := hv
      rw [← hg]
      exact h.generations sel hmem
    exact hsel hgen cap hhas

theorem Gated.startRelay (wkr : SessionKey) (conId : Bytes) (peers : RelayPeers) :
    (wp.startRelay wkr conId peers).Gated := by
  unfold WorkerPlane.startRelay
  split
  · next ses b hs ha =>
    have hd : { wp with assignments := wp.assignments.erase wkr }.Gated := by
      refine { h with assignments := ?_ }
      intro key b' hl
      exact h.assignments key b' (lookup_of_erase hl)
    simp only
    split
    · exact hd
    · next pay he =>
      refine { hd with relays := ?_ }
      intro r hr
      rcases List.mem_append.1 hr with hr | hr
      · exact h.relays r hr
      · rw [List.eq_of_mem_singleton hr]
        obtain ⟨hv, hat⟩ := h.assignments wkr b ha
        obtain ⟨hc, hgen⟩ := (hat.serves ses hs).identity
        rw [hc, hgen]
        exact relayGated_of_assignment hv (h.selected_of_adopted hs ha) he
  · exact h

theorem Gated.step (e : WorkerEvent) : (wp.step net e).Gated := by
  cases e with
  | strand e =>
    simp only [WorkerPlane.step]
    split
    · next ha => exact h.strand ha
    · exact h
  | authenticated key => exact h.authenticated key
  | control e => exact h.controlStep e
  | adopt wkr ord => exact h.adopt wkr ord
  | accept conn lsn => exact h.accept conn lsn
  | assign conn ord =>
    simp only [WorkerPlane.step]
    split
    · exact h.tryAssign conn ord
    · exact h
  | startRelay wkr conId peers => exact h.startRelay wkr conId peers

end Steps

/-! ## The daemon's side -/

/-- The daemon's session has selected the mode. -/
def Permitted (link : Option (SessionKey × Selection)) (mode : TunnelMode) : Prop :=
  ∃ key selection, link = some (key, selection) ∧
    supportsTunnelMode selection.capabilities mode = true

/-- The invariant on the daemon's side. -/
structure Requested (offered : CapabilitySet) (wp : WorkerPlane) : Prop where
  offer : wp.offered = offered
  linked : ∀ key selection, wp.link = some (key, selection) → selection ∈ wp.selected ∧
    selection.capabilities &&& offered = selection.capabilities ∧
    wp.control.daemon.selectedCapabilities = selection.capabilities
  collected : ∀ row ∈ wp.control.daemon.phase.toRegister,
    Permitted wp.link (remoteTunnelMode row.protocol)
  requests : ∀ m ∈ wp.requests, Permitted wp.link m.mode

theorem daemon_step (net : AddressText) (cp : ControlPlane) (key : SessionKey) {e : ControlEvent}
    (hst : ∀ task, e ≠ .strand task) :
    cp.daemon.Collects ((cp.step net key e).daemon, cp.sends e) := by
  cases e with
  | reconcile dtb ord => exact (cp.daemon.startReconcile_keeps dtb ord).collects
  | advance intr => exact cp.daemon.advance_collects intr
  | daemonReads flt =>
    obtain ⟨hk, hs⟩ := ServerSession.receive_keeps (d := cp.daemon) cp.toDaemon flt
    refine ⟨hk.selected, fun row hrow => .inl (hk.toRegister row hrow), ?_⟩
    intro frm hf m hm
    have hnot := hs frm hf
    rw [ControlFrame.isRequest, hm] at hnot
    cases hnot
  | serverReads out =>
    have hd : (cp.serve net key out).daemon = cp.daemon := by
      unfold ControlPlane.serve
      split
      · split <;> rfl
      · rfl
    simp only [ControlPlane.step, hd]
    exact ServerSession.Keeps.refl.collects
  | serverSends rid msg =>
    simp only [ControlPlane.step]
    split
    · exact ServerSession.Keeps.refl.collects
    · exact ServerSession.Keeps.refl.collects
  | strand task => exact absurd rfl (hst task)

theorem mem_registrations {frms : List ControlFrame} {m : RegisterTunnelMessage} :
    m ∈ registrations frms ↔ ∃ frm ∈ frms, frm.message = .registerTunnel m := by
  unfold registrations
  rw [List.mem_filterMap]
  refine exists_congr fun frm => and_congr_right fun _ => ?_
  split
  · next own hown =>
    rw [hown, Option.some.injEq, ControlMessage.registerTunnel.injEq]
  · next ho =>
    refine iff_of_false (fun h => by cases h) ?_
    exact ho m

section Daemon

variable {offered : CapabilitySet}

theorem Requested.controlStep (h : Requested offered wp) (e : ControlEvent) :
    Requested offered (wp.controlStep net e) := by
  unfold WorkerPlane.controlStep
  split
  · exact h
  · exact h
  · next key selection hlink hs =>
    have hd := daemon_step net wp.control key hs
    obtain ⟨hmem, hoff, hset⟩ := h.linked key selection hlink
    refine ⟨h.offer, ?_, ?_, ?_⟩
    · intro key' selection' hlink'
      rw [hlink] at hlink'
      cases hlink'
      exact ⟨hmem, hoff, hd.selected.trans hset⟩
    · intro row hrow
      rcases hd.toRegister row hrow with hold | hsp
      · exact h.collected row hold
      · exact ⟨key, selection, hlink, hset ▸ hsp⟩
    · intro m hm
      rcases List.mem_append.1 hm with hold | hnew
      · exact h.requests m hold
      · obtain ⟨frm, hf, hmsg⟩ := mem_registrations.1 hnew
        obtain ⟨row, hrow, rfl⟩ := hd.asked frm hf m hmsg
        exact h.collected row hrow

theorem Requested.authenticated (h : Requested offered wp) (hg : wp.Gated) (key : SessionKey) :
    Requested offered (wp.authenticated key) := by
  unfold WorkerPlane.authenticated
  split
  · next sel hlink hsel =>
    split
    · exact h
    · next hoff =>
      obtain ⟨ses, hs, hof⟩ := Option.bind_eq_some_iff.1 hsel
      refine ⟨h.offer, ?_, ?_, ?_⟩
      · intro key' selection' hlink'
        cases hlink'
        exact ⟨hg.opened key ses sel hs hof, h.offer ▸ Decidable.not_not.1 hoff, rfl⟩
      · -- nothing has been collected or asked for before
        intro row hrow
        obtain ⟨_, _, hl, -⟩ := h.collected row hrow
        rw [hlink] at hl
        cases hl
      · intro m hm
        obtain ⟨_, _, hl, -⟩ := h.requests m hm
        rw [hlink] at hl
        cases hl
  · exact h

theorem Requested.strand (h : Requested offered wp) (e : Server.Event) :
    Requested offered (wp.strand net e) where
  offer := h.offer
  linked := by
    intro key sel hlink
    obtain ⟨hmem, hr⟩ := h.linked key sel hlink
    exact ⟨mem_selected_strand hmem, hr⟩
  collected := h.collected
  requests := h.requests

/-- The workers and the public connections do not concern the daemon's session. -/
structure SameSession (wp wp' : WorkerPlane) : Prop where
  offered : wp'.offered = wp.offered
  link : wp'.link = wp.link
  daemon : wp'.control.daemon = wp.control.daemon
  selected : wp'.selected = wp.selected
  requests : wp'.requests = wp.requests

theorem SameSession.refl (wp : WorkerPlane) : SameSession wp wp :=
  ⟨rfl, rfl, rfl, rfl, rfl⟩

theorem sameSession_adopt (wkr : SessionKey) (ord : List SessionKey) :
    SameSession wp (wp.adopt wkr ord) := by
  unfold WorkerPlane.adopt
  split
  · exact SameSession.refl wp
  · split
    · split
      · exact ⟨rfl, rfl, rfl, rfl, rfl⟩
      · exact SameSession.refl wp
    · exact SameSession.refl wp

theorem sameSession_accept (conn : Nat) (lsn : Bytes) :
    SameSession wp (wp.accept conn lsn) := by
  unfold WorkerPlane.accept
  split
  · exact SameSession.refl wp
  · exact ⟨rfl, rfl, rfl, rfl, rfl⟩

theorem sameSession_tryAssign (conn : Nat) (ord : List Bytes) :
    SameSession wp (wp.tryAssign conn ord) := by
  unfold WorkerPlane.tryAssign
  split
  · exact SameSession.refl wp
  · split
    · exact ⟨rfl, rfl, rfl, rfl, rfl⟩
    · split
      · exact SameSession.refl wp
      · split
        · exact SameSession.refl wp
        · exact ⟨rfl, rfl, rfl, rfl, rfl⟩

theorem sameSession_startRelay (wkr : SessionKey) (conId : Bytes) (peers : RelayPeers) :
    SameSession wp (wp.startRelay wkr conId peers) := by
  unfold WorkerPlane.startRelay
  split
  · simp only
    split
    · exact ⟨rfl, rfl, rfl, rfl, rfl⟩
    · exact ⟨rfl, rfl, rfl, rfl, rfl⟩
  · exact SameSession.refl wp

theorem Requested.same (h : Requested offered wp) {wp' : WorkerPlane}
    (hs : SameSession wp wp') : Requested offered wp' where
  offer := hs.offered.trans h.offer
  linked := by
    rw [hs.link, hs.selected, hs.daemon]
    exact h.linked
  collected := by
    rw [hs.link, hs.daemon]
    exact h.collected
  requests := by
    rw [hs.link, hs.requests]
    exact h.requests

theorem Requested.step (h : Requested offered wp) (hg : wp.Gated) (e : WorkerEvent) :
    Requested offered (wp.step net e) := by
  cases e with
  | strand e =>
    simp only [WorkerPlane.step]
    split
    · exact h.strand e
    · exact h
  | authenticated key => exact h.authenticated hg key
  | control e => exact h.controlStep e
  | adopt wkr ord => exact h.same (sameSession_adopt wkr ord)
  | accept conn lsn => exact h.same (sameSession_accept conn lsn)
  | assign conn ord =>
    simp only [WorkerPlane.step]
    split
    · exact h.same (sameSession_tryAssign conn ord)
    · exact h
  | startRelay wkr conId peers =>
    exact h.same (sameSession_startRelay wkr conId peers)

theorem requestGated_of_supports {sel : Selection} {m : RegisterTunnelMessage}
    (h : supportsTunnelMode sel.capabilities m.mode = true) : RequestGated sel m where
  mode := fun _ => h
  legacy := by
    intro hno pay he
    refine Protocol.legacyImage_of_encodeRegisterTunnel ?_ he
    by_contra hc
    have hm : m.mode ≠ .tcp := fun htcp => hc (congrArg TunnelMode.code htcp)
    rw [supportsTunnelMode_eq_has, hno m.mode hm] at h
    cases h

end Daemon

/-- The invariant of both sides. -/
structure Sound (offered : CapabilitySet) (wp : WorkerPlane) : Prop where
  gated : wp.Gated
  requested : Requested offered wp

theorem Sound.exec {offered : CapabilitySet} (h : Sound offered wp) (es : List WorkerEvent) :
    Sound offered (exec (WorkerPlane.step net) wp es) :=
  exec_invariant (fun _ e hwp => ⟨hwp.gated.step e, hwp.requested.step hwp.gated e⟩) h es

theorem Sound.initial (offered : CapabilitySet) (policies : PolicySnapshot) (maxClients : Nat)
    (allowedPorts : PortRange) (maxTunnels maxTun maxIdle maxTotalIdle : Nat)
    (sid : Bytes) :
    Sound offered (WorkerPlane.initial offered policies maxClients allowedPorts maxTunnels
      maxTun maxIdle maxTotalIdle sid) where
  gated := Gated.initial offered policies maxClients allowedPorts maxTunnels maxTun
    maxIdle maxTotalIdle sid
  requested := {
    offer := rfl
    linked := fun _ _ h => by cases h
    collected := fun _ h => by cases h
    requests := fun _ h => by cases h }

/-- **Capability gating, end to end.**  Whatever is offered and selected, and however the
clients, the sessions and the workers interleave: a request of the daemon carries a mode
its own session has selected, a relay carries what a control session of the worker's
client and generation has selected, and where nothing was selected the payload is that of
the first version. -/
theorem emitted_capabilities_selected (net : AddressText) (offered : CapabilitySet)
    (policies : PolicySnapshot) (maxClients : Nat) (allowedPorts : PortRange)
    (maxTunnels maxTotalTunnels maxIdle maxTotalIdle : Nat) (serverId : Bytes)
    (es : List WorkerEvent) :
    let wp := exec (WorkerPlane.step net) (WorkerPlane.initial offered policies maxClients
      allowedPorts maxTunnels maxTotalTunnels maxIdle maxTotalIdle serverId) es
    (∀ m ∈ wp.requests, ∃ key selection, wp.link = some (key, selection) ∧
      selection ∈ wp.selected ∧ selection.capabilities &&& offered = selection.capabilities ∧
      RequestGated selection m) ∧
    ∀ r ∈ wp.relays, RelayGated wp.selected r := by
  intro wp
  have hsound : Sound offered wp := (Sound.initial offered policies maxClients allowedPorts
    maxTunnels maxTotalTunnels maxIdle maxTotalIdle serverId).exec es
  refine ⟨?_, hsound.gated.relays⟩
  intro m hm
  obtain ⟨key, selection, hlink, hsupports⟩ := hsound.requested.requests m hm
  obtain ⟨hmem, hoffer, -⟩ := hsound.requested.linked key selection hlink
  exact ⟨key, selection, hlink, hmem, hoffer, requestGated_of_supports hsupports⟩

end WorkerPlane

end MiniTun.System
