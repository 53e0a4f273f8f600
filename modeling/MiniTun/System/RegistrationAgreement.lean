import MiniTun.System.Reconciliation

/-!
# The two ends agree after a reconciliation

`reconcile_tunnels` starts in a state the two ends agree on, reads its rows, and
returns success.  Then the daemon's table, the server's listeners and the local
targets are those of the active rows whose mode was negotiated and which the
server did not refuse.
-/

namespace MiniTun.System

open Daemon KeyedMap Pipeline Server Storage TransitionSystem

/-- A state the two ends agree on, between two reconciliations. -/
structure Agreed (plan : BindingPlan) (key : SessionKey) (session : ControlSession)
    (cp : ControlPlane) : Prop where
  isolated : Isolated key session cp.server.sessions
  idle : cp.daemon.phase = .idle none
  awaited : cp.daemon.awaited = []
  buffered : cp.daemon.bufferedResponses = ∅
  requests : cp.toServer.filter ControlFrame.isRequest = []
  answers : cp.toDaemon.filter ControlFrame.isResponse = []
  agrees : ∀ tunnelId, Agrees session (cp.view session.clientId tunnelId)
  targets : ∀ tunnelId, (cp.daemon.localEndpoints.lookup tunnelId).isSome →
    (cp.daemon.registered.lookup tunnelId).isSome
  endpoints : ∀ tunnelId registered, cp.daemon.registered.lookup tunnelId = some registered →
    registered.remoteEndpoint = (plan tunnelId registered.configRevision).endpoint ∧
      negotiated cp.daemon.selectedCapabilities
        (plan tunnelId registered.configRevision).protocol = true
  modes : ∀ tunnelId b, cp.server.tunnelRegistry.listenerOf session.clientId tunnelId = some b →
    b.mode = remoteTunnelMode (plan tunnelId b.configRevision).protocol

/-- The active rows whose mode was negotiated and which the server did not refuse. -/
def granted (capabilities : CapabilitySet) (tunnels : List TunnelRecord) (rejected : List Bytes) :
    List TunnelRecord :=
  tunnels.filter fun row =>
    row.isActive ∧ negotiated capabilities row.protocol ∧ row.id ∉ rejected

/-- Both ends have exactly the tunnels of the rows. -/
structure InAgreement (session : ControlSession) (cp : ControlPlane) (rows : List TunnelRecord) :
    Prop where
  listeners : ∀ b, (b.sessionGeneration = session.generation ∧ b.clientId = session.clientId ∧
      ∃ key, cp.server.tunnelRegistry.listeners.lookup key = some b) ↔
    ∃ row ∈ rows, b = session.binding (registerMessage row)
  registered : ∀ tunnelId registered, cp.daemon.registered.lookup tunnelId = some registered ↔
    ∃ row ∈ rows, row.id = tunnelId ∧ registered = ⟨row.configRevision, row.remoteEndpoint⟩
  targets : ∀ tunnelId target, cp.daemon.localEndpoints.lookup tunnelId = some target ↔
    ∃ row ∈ rows, row.id = tunnelId ∧ target = ⟨row.localEndpoint, row.proxyProtocol⟩

variable {plan : BindingPlan} {key : SessionKey} {session ses : ControlSession} {cp : ControlPlane}
  {tns : List TunnelRecord} {rej : List Bytes}

theorem Agreed.synced (h : Agreed plan key ses cp) : Synced key ses cp where
  isolated := h.isolated
  inOrder := h.buffered
  distinct := by rw [h.awaited]; exact .nil
  flight := by rw [h.awaited, h.requests, h.answers]; exact pipelined_nil_iff.2 ⟨rfl, rfl⟩
  settled tunnelId _ := h.agrees tunnelId
  targets := h.targets
  workLeft := by rw [h.idle, h.awaited]; rfl

theorem Agreed.planned (h : Agreed plan key ses cp) (tns : List TunnelRecord) :
    Planned plan ses tns cp where
  endpoints := h.endpoints
  modes := h.modes
  requested requestId row hmem := by rw [h.awaited] at hmem; cases hmem
  phase := by rw [h.idle]; trivial

/-! ## Success -/

theorem mem_granted {caps : CapabilitySet} {row : TunnelRecord} :
    row ∈ granted caps tns rej ↔
      row ∈ tns ∧ row.isActive = true ∧ negotiated caps row.protocol = true ∧
        row.id ∉ rej := by
  simp only [granted, List.mem_filter, decide_eq_true_eq]

theorem Planned.registered_iff (h : Planned plan ses tns cp)
    (hids : (tns.map TunnelRecord.id).Nodup)
    (hplan : ∀ row ∈ tns, remoteBinding row = plan row.id row.configRevision)
    (hd : Reconciling cp.daemon.selectedCapabilities cp.daemon.registered
      cp.daemon.localEndpoints tns [] rej) (tid : Bytes) (ent : RegisteredTunnel) :
    cp.daemon.registered.lookup tid = some ent ↔
      ∃ row ∈ granted cp.daemon.selectedCapabilities tns rej,
        row.id = tid ∧ ent = ⟨row.configRevision, row.remoteEndpoint⟩ := by
  have hg : ∀ ent, cp.daemon.registered.lookup tid = some ent →
      ∃ row ∈ granted cp.daemon.selectedCapabilities tns rej,
        row.id = tid ∧ ent = ⟨row.configRevision, row.remoteEndpoint⟩ := by
    intro ent hent
    obtain ⟨row, hmem, hact, rfl, hrev⟩ :=
      (retained_eq_some_iff hids).1 (hd.current tid ent hent)
    obtain ⟨hend, hm⟩ := h.endpoints row.id ent hent
    rw [← hrev, ← hplan row hmem] at hend hm
    refine ⟨row, mem_granted.2 ⟨hmem, hact, hm, fun hrej => ?_⟩, rfl, ?_⟩
    · rw [(hd.refused row.id hrej).1] at hent
      cases hent
    · cases ent
      cases hrev
      cases hend
      rfl
  constructor
  · exact hg ent
  · rintro ⟨row, hrow, rfl, rfl⟩
    obtain ⟨hmem, hact, hm, hrej⟩ := mem_granted.1 hrow
    rcases hd.accounted row hmem hact with hl | hs | ⟨-, hr⟩
    · cases hl
    · obtain ⟨ent, hent⟩ := Option.isSome_iff_exists.1 hs.registered
      obtain ⟨other, ho, hid, rfl⟩ := hg ent hent
      rw [List.inj_on_of_nodup_map hids (mem_granted.1 ho).1 hmem hid] at hent
      exact hent
    · rw [hm] at hr
      exact absurd hr (by simp [hrej])

theorem Reconciling.target_iff {caps : CapabilitySet}
    {regd : Map Bytes RegisteredTunnel} {locals : Map Bytes LocalTunnelTarget}
    (hd : Reconciling caps regd locals tns [] rej)
    (htr : ∀ tid, (locals.lookup tid).isSome →
      (regd.lookup tid).isSome)
    (hr : ∀ tid ent, regd.lookup tid = some ent ↔
      ∃ row ∈ granted caps tns rej,
        row.id = tid ∧ ent = ⟨row.configRevision, row.remoteEndpoint⟩)
    (tid : Bytes) (tgt : LocalTunnelTarget) :
    locals.lookup tid = some tgt ↔
      ∃ row ∈ granted caps tns rej,
        row.id = tid ∧ tgt = ⟨row.localEndpoint, row.proxyProtocol⟩ := by
  -- a granted row is served
  have hs : ∀ row ∈ granted caps tns rej,
      locals.lookup row.id = some ⟨row.localEndpoint, row.proxyProtocol⟩ := by
    intro row hrow
    obtain ⟨hmem, hact, -, -⟩ := mem_granted.1 hrow
    have hsome := (hr row.id _).2 ⟨row, hrow, rfl, rfl⟩
    rcases hd.accounted row hmem hact with hl | hs | ⟨hno, -⟩
    · cases hl
    · exact hs.target
    · rw [hno] at hsome
      cases hsome
  constructor
  · intro ht
    obtain ⟨ent, hent⟩ :=
      Option.isSome_iff_exists.1 (htr tid (by rw [ht]; rfl))
    obtain ⟨row, hrow, rfl, -⟩ := (hr tid ent).1 hent
    rw [hs row hrow] at ht
    exact ⟨row, hrow, rfl, (Option.some.inj ht).symm⟩
  · rintro ⟨row, hrow, rfl, rfl⟩
    exact hs row hrow

theorem Planned.eq_binding (h : Planned plan ses tns cp) (hs : Synced key ses cp)
    {row : TunnelRecord} {b : TunnelBinding}
    (hrow : remoteBinding row = plan row.id row.configRevision)
    (hlsn : cp.server.tunnelRegistry.listenerOf ses.clientId row.id = some b)
    (hm : Matches ses ⟨row.configRevision, row.remoteEndpoint⟩ b) :
    b = ses.binding (registerMessage row) := by
  obtain ⟨hc, ht⟩ := TunnelRegistry.identity_of_listenerOf hs.isolated.client hlsn
  have hmo := h.modes row.id b hlsn
  rw [hm.revision, ← hrow] at hmo
  obtain ⟨hgen, hrev, hh, hp⟩ := hm
  cases b
  cases hc
  cases ht
  cases hgen
  cases hrev
  cases hh
  cases hp
  cases hmo
  rfl

theorem Planned.inAgreement (h : Planned plan ses tns cp) (hs : Synced key ses cp)
    (hids : (tns.map TunnelRecord.id).Nodup)
    (hplan : ∀ row ∈ tns, remoteBinding row = plan row.id row.configRevision)
    {last : Reconciled} (hp : cp.daemon.phase = .idle (some last)) :
    last.tunnels = tns ∧
      InAgreement ses cp (granted cp.daemon.selectedCapabilities tns last.rejected) := by
  have hd := h.phase
  have hi := hs.workLeft
  rw [hp] at hd hi
  obtain ⟨htns, hd⟩ := hd
  have hr := h.registered_iff hids hplan hd
  have hst : ∀ t, Agrees ses (cp.view ses.clientId t) := by
    intro t
    refine hs.settled t ?_
    rw [hi]
    exact List.not_mem_nil
  refine ⟨htns, ?_, hr, hd.target_iff hs.targets hr⟩
  intro b
  constructor
  · rintro ⟨-, hc, key, hkey⟩
    have hlsn : cp.server.tunnelRegistry.listenerOf ses.clientId b.tunnelId = some b := by
      rw [← hc, TunnelRegistry.listenerOf, ← TunnelRegistry.lookup_key hkey]
      exact hkey
    have ha := hst b.tunnelId
    rw [ControlPlane.view, hlsn] at ha
    generalize hent : cp.daemon.registered.lookup b.tunnelId = ent at ha
    cases ha with
    | @present ent _ hm =>
      obtain ⟨row, hrow, hid, rfl⟩ := (hr b.tunnelId ent).1 hent
      rw [← hid] at hlsn
      exact ⟨row, hrow, h.eq_binding hs (hplan row (mem_granted.1 hrow).1) hlsn hm⟩
  · rintro ⟨row, hrow, rfl⟩
    have hent := (hr row.id _).2 ⟨row, hrow, rfl, rfl⟩
    obtain ⟨b, hv, hm⟩ := (hst row.id).of_registered hent
    obtain ⟨-, hlsn⟩ := Prod.mk.inj hv
    have hb := h.eq_binding hs (hplan row (mem_granted.1 hrow).1) hlsn hm
    exact ⟨rfl, rfl, _, hb ▸ hlsn⟩

/-- **Registration agreement.**  `reconcile_tunnels` starts in an agreed state and
reads a table in which each revision of a tunnel has its planned binding; the two
ends, the channels and the rest of the server then do what they like.  When the
call has returned success, the daemon's table, the server's listeners of the
session and the local targets are those of the active rows that were negotiated
and not refused. -/
theorem reconcile_agreement (net : AddressText) {plan : BindingPlan} {key : SessionKey}
    {session : ControlSession} {cp : ControlPlane} (hstart : Agreed plan key session cp)
    (database : Tunnels)
    (hplan : ∀ row ∈ database.rows, remoteBinding row = plan row.id row.configRevision)
    (order : List Bytes) (during : List ControlEvent)
    (hduring : ∀ e ∈ during, e.isReconcile = false) {last : Reconciled}
    (hdone : (exec (ControlPlane.step net key) cp
      (.reconcile (.ok database) order :: during)).daemon.phase = .idle (some last)) :
    last.tunnels = listByServer database cp.daemon.serverId ∧
      InAgreement session
        (exec (ControlPlane.step net key) cp (.reconcile (.ok database) order :: during))
        (granted (exec (ControlPlane.step net key) cp
            (.reconcile (.ok database) order :: during)).daemon.selectedCapabilities
          (listByServer database cp.daemon.serverId) last.rejected) := by
  have hids := nodup_listByServer database cp.daemon.serverId
  have hrows : ∀ row ∈ listByServer database cp.daemon.serverId,
      remoteBinding row = plan row.id row.configRevision :=
    fun row hrow => hplan row (mem_listByServer hrow)
  let Inv := fun cp' => Synced key session cp' ∧
    Planned plan session (listByServer database cp.daemon.serverId) cp'
  have hstep : ∀ cp' e, Inv cp' → e.isReconcile = false → Inv (cp'.step net key e) := by
    rintro cp' e ⟨hs, h⟩ he
    exact ⟨hs.step e, h.step hs hids hrows he⟩
  have hread : Inv (cp.step net key (.reconcile (.ok database) order)) := by
    have hs := hstart.synced
    exact ⟨hs.step _, (hstart.planned _).start hs rfl order⟩
  obtain ⟨hs, h⟩ := AllSteps.invariant hstep (allSteps_of_forall_mem hduring) hread
  exact h.inAgreement hs hids hrows hdone

/-! ## A sample reconciliation

A second row, whose port is outside the allowlist. -/

namespace Sample

def mail : TunnelRecord :=
  { web with
    id := ascii "tun_00000000000000000000000000000002"
    name := some (ascii "mail")
    remoteEndpoint := ⟨Server.Sample.loopback, 7000⟩ }

def database : Tunnels where
  rows := [web, mail]
  keys := by decide +kernel
  uniques := by decide +kernel
  checked := List.forall_mem_cons.2
    ⟨web_checked, List.forall_mem_singleton.2 (by decide +kernel : mail.Checked)⟩

def bindings : BindingPlan :=
  fun tunnelId _ => remoteBinding (if tunnelId = web.id then web else mail)

theorem agreed : Agreed bindings Sample.key Sample.session plane where
  isolated := isolated
  idle := rfl
  awaited := rfl
  buffered := rfl
  requests := rfl
  answers := rfl
  agrees _ := .absent
  targets _ h := h
  endpoints _ _ h := by cases h
  modes _ _ h := by cases h

/-- Nothing is stale; both rows are asked for, and the server answers both. -/
def reconciliation : List ControlEvent :=
  [.advance none, .advance none, .advance none, .advance none, .advance none,
    .serverReads .listening, .serverReads .listening, .daemonReads none, .daemonReads none,
    .advance none]

end Sample

theorem reconcile_agreement_sample :
    InAgreement Sample.session (exec (ControlPlane.step Server.Sample.net Sample.key) Sample.plane
        (.reconcile (.ok Sample.database) [] :: Sample.reconciliation)) [Sample.web] := by
  have hdone : (exec (ControlPlane.step Server.Sample.net Sample.key) Sample.plane
      (.reconcile (.ok Sample.database) [] :: Sample.reconciliation)).daemon.phase =
        .idle (some ⟨[Sample.web, Sample.mail], [Sample.mail.id]⟩) := by
    decide +kernel
  have h := (reconcile_agreement Server.Sample.net Sample.agreed Sample.database
    (by decide +kernel) [] Sample.reconciliation (by decide) hdone).2
  exact h

end MiniTun.System
