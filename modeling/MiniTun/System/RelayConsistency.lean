import MiniTun.System.PublicRelay
import MiniTun.System.SessionSync

/-!
# Where a public connection is relayed to

`START_RELAY` names the tunnel, not the revision of the listener that accepted the
connection, and the Worker looks the tunnel up when it reads the message.  A
connection that has waited while its tunnel was replaced goes to the replacement's
local endpoint.  `drained` is the condition under which none has waited so.
-/

namespace MiniTun.System

open Daemon KeyedMap Pipeline Server Storage TransitionSystem

/-- A connection that is relayed to a local endpoint goes to one the daemon has held
for the tunnel at the revision of the listener. -/
def PublicConnection.Consistent (held : List (Bytes × Nat × Endpoint)) (c : PublicConnection) :
    Prop :=
  match c.stage with
  | .resolved (.relayed endpoint) =>
    (c.binding.tunnelId, c.binding.configRevision, endpoint) ∈ held
  | .resolved .proxied => c.binding.mode = .socks5
  | _ => True

/-- Every connection goes to an endpoint of its own revision. -/
def RevisionConsistent (rp : RelayPlane) : Prop :=
  ∀ connectionId c, rp.connections.lookup connectionId = some c → c.Consistent rp.held

/-- When the daemon is about to read that a tunnel is registered, the connections of
the tunnel that are still on their way have the same revision. -/
def drained (rp : RelayPlane) : RelayEvent → Bool
  | .control (.daemonReads _) =>
    match rp.control.toDaemon with
    | ⟨_, .registerTunnelOk tunnelId revision⟩ :: _ =>
      ∀ entry ∈ rp.connections.entries, entry.2.stage.isOpen = true →
        entry.2.binding.tunnelId = tunnelId → entry.2.binding.configRevision = revision
    | _ => true
  | _ => true

/-- The session has just been opened. -/
structure Opened (key : SessionKey) (session : ControlSession) (rp : RelayPlane) : Prop where
  isolated : Isolated key session rp.control.server.sessions
  idle : rp.control.daemon.phase = .idle none
  awaited : rp.control.daemon.awaited = []
  buffered : rp.control.daemon.bufferedResponses = ∅
  requests : rp.control.toServer.filter ControlFrame.isRequest = []
  answers : rp.control.toDaemon.filter ControlFrame.isResponse = []
  registered : rp.control.daemon.registered = ∅
  localEndpoints : rp.control.daemon.localEndpoints = ∅
  listeners : ∀ tunnelId,
    rp.control.server.tunnelRegistry.listenerOf session.clientId tunnelId = none
  connections : rp.connections = ∅

/-! ## A connection that waits too long

The tunnel is registered, a connection is accepted and finds no idle worker.  The
tunnel's row then gets another local port and a new revision, and is reconciled;
after that a worker arrives. -/

namespace Sample

def relays : RelayPlane := ⟨plane, ∅, [], []⟩

def moved : TunnelRecord :=
  { web with configRevision := 2, localEndpoint := ⟨Server.Sample.loopback, 9090⟩ }

def table (row : TunnelRecord) (h : row.Checked) : Tunnels where
  rows := [row]
  keys := List.nodup_singleton _
  uniques := List.nodup_singleton _
  checked := List.forall_mem_singleton.2 h

/-- One reconciliation of a table with one row, after the stale tunnels are gone. -/
def registration : List RelayEvent :=
  [.control (.advance none), .control (.advance none), .control (.advance none),
    .control (.advance none), .control (.serverReads .listening),
    .control (.daemonReads none), .control (.advance none)]

def registered : List RelayEvent :=
  .control (.reconcile (.ok (table web web_checked)) []) :: registration

def waits : List RelayEvent :=
  [.accept 0 web.id, .handlePublicConnection 0 true []]

def replaced : List RelayEvent :=
  .control (.reconcile (.ok (table moved (by decide +kernel))) [web.id]) ::
    .control (.advance none) :: .control (.serverReads .listening) ::
    .control (.daemonReads none) :: registration

def workerId : Bytes := ascii "conn_00000000000000000000000000000001"

/-- A worker registers, takes the connection, and gets its `START_RELAY`. -/
def workerComes : List RelayEvent :=
  [.control (.strand (.accept 2)),
    .control (.strand (.session 2 (.workerHello Server.Sample.clientId 7 workerId))),
    .control (.strand (.session 2 .registerWorker)), .notifyWorkerAvailable [workerId],
    .deliver 0 2 true, .startRelay 0 .connected]

theorem opened : Opened key session relays where
  isolated := isolated
  idle := rfl
  awaited := rfl
  buffered := rfl
  requests := rfl
  answers := rfl
  registered := rfl
  localEndpoints := rfl
  listeners _ := rfl
  connections := rfl

end Sample

/-- The connection was accepted at revision 1 and goes to the local port of
revision 2. -/
theorem waiting_connection_is_misrouted :
    Opened Sample.key Sample.session Sample.relays ∧
      ¬ RevisionConsistent (exec (RelayPlane.step Server.Sample.net Sample.key) Sample.relays
        (Sample.registered ++ Sample.waits ++ Sample.replaced ++ Sample.workerComes)) := by
  refine ⟨Sample.opened, fun h => ?_⟩
  have hmisrouted := h 0 ⟨Sample.session.binding (registerMessage Sample.web),
      .resolved (.relayed ⟨Server.Sample.loopback, 9090⟩)⟩ (by decide +kernel)
  revert hmisrouted
  unfold PublicConnection.Consistent
  decide +kernel

/-! ## The invariant -/

/-- The invariant of a drained run. -/
structure Relaying (key : SessionKey) (session : ControlSession) (rp : RelayPlane) : Prop where
  synced : Synced key session rp.control
  fresh : ∀ connectionId c, rp.connections.lookup connectionId = some c → c.stage.isOpen = true →
    ∀ entry, rp.control.daemon.registered.lookup c.binding.tunnelId = some entry →
      entry.configRevision = c.binding.configRevision
  consistent : RevisionConsistent rp
  recorded : ∀ tunnelId entry target, rp.control.daemon.registered.lookup tunnelId = some entry →
    rp.control.daemon.localEndpoints.lookup tunnelId = some target →
      (tunnelId, entry.configRevision, target.endpoint) ∈ rp.held

variable {net : AddressText} {key : SessionKey} {session : ControlSession} {rp : RelayPlane}

theorem Opened.relaying (h : Opened key session rp) : Relaying key session rp where
  synced := {
    isolated := h.isolated
    inOrder := h.buffered
    distinct := by rw [h.awaited]; exact .nil
    flight := by rw [h.awaited, h.requests, h.answers]; exact pipelined_nil_iff.2 ⟨rfl, rfl⟩
    settled := by
      intro tid _
      rw [ControlPlane.view, h.registered, h.listeners]
      exact .absent
    targets := by
      intro tid ht
      rw [h.localEndpoints] at ht
      cases ht
    workLeft := by rw [h.idle, h.awaited]; rfl }
  fresh connectionId c hc := by rw [h.connections] at hc; cases hc
  consistent connectionId c hc := by rw [h.connections] at hc; cases hc
  recorded tid entry target hent := by
    rw [h.registered] at hent
    cases hent

/-! ## The control session -/

variable {cp : ControlPlane} {ent : RegisteredTunnel} {tid : Bytes} {conId : Nat}

/-- Whatever is in flight, a tunnel that both sides have is the same on both. -/
theorem Synced.matches_of_view (h : Synced key session cp) {b : TunnelBinding}
    (hv : cp.view session.clientId tid = (some ent, some b)) :
    Matches session ent b := by
  by_cases haw : tid ∈ awaitedIds cp.daemon.awaited
  · obtain ⟨a, ha, rfl⟩ := List.mem_map.1 haw
    rcases h.flight.of_mem ha with ⟨frm, hasks⟩ | ⟨frm, han⟩
    · cases hasks with
      | removal hv' hm =>
        obtain ⟨hent, hb⟩ := Prod.mk.inj (hv.symm.trans hv')
        cases hent
        cases hb
        exact hm
      | registration hv' => cases (Prod.mk.inj (hv.symm.trans hv')).1
    · cases han with
      | removed hv' => cases (Prod.mk.inj (hv.symm.trans hv')).2
      | accepted hv' | rejected hv' =>
        cases (Prod.mk.inj (hv.symm.trans hv')).1
  · have hag := h.settled tid haw
    rw [hv] at hag
    cases hag with
    | present hm => exact hm

theorem mem_holdings {d : ServerSession} {tgt : LocalTunnelTarget}
    (hent : d.registered.lookup tid = some ent)
    (ht : d.localEndpoints.lookup tid = some tgt) :
    (tid, ent.configRevision, tgt.endpoint) ∈ holdings d := by
  rw [lookup_eq_some_iff] at ht
  exact List.mem_filterMap.2 ⟨_, ht, by simp [hent]⟩

theorem Synced.registered_read (h : Synced key session cp) {flt : Option Error}
    (hent : (cp.daemon.receive cp.toDaemon flt).1.registered.lookup tid = some ent) :
    cp.daemon.registered.lookup tid = some ent ∨
    ∃ frm rest, cp.toDaemon = frm :: rest ∧
      frm.message = .registerTunnelOk tid ent.configRevision := by
  have he := h.readEffect flt
  generalize hto : cp.toDaemon = chan at he hent ⊢
  generalize cp.daemon.receive chan flt = result at he hent
  cases he with
  | nothing _ => exact .inl hent
  | noticed _ hef _ => cases hef <;> exact .inl hent
  | @answered frm chan req rest hrs haw flt =>
    have ha := h.head_of_awaited hto hrs haw
    obtain ⟨rid, msg⟩ := frm
    cases ha with
    | @removed _ t regd hv =>
      obtain ⟨hr, -⟩ := Prod.mk.inj hv
      obtain ⟨phase, -, heq⟩ := cp.daemon.handleResponse_removed hr rest flt
      simp only [heq, lookup_erase_eq_ite] at hent
      split at hent
      · cases hent
      · exact .inl hent
    | @accepted _ row hv =>
      obtain ⟨phase, -, heq⟩ := cp.daemon.handleResponse_accepted row rest flt
      simp only [heq, lookup_insert_eq_ite] at hent
      split at hent
      · next hid =>
        cases hent
        exact .inr ⟨_, _, rfl, by rw [hid]⟩
      · exact .inl hent
    | @rejected _ row code hv =>
      obtain ⟨phase, -, heq⟩ := cp.daemon.handleResponse_rejected row code rest flt
      simp only [heq] at hent
      exact .inl hent

theorem Synced.registered_step (h : Synced key session cp) {e : ControlEvent}
    (hent : (cp.step net key e).daemon.registered.lookup tid = some ent) :
    cp.daemon.registered.lookup tid = some ent ∨
    ∃ flt frame rest, e = .daemonReads flt ∧ cp.toDaemon = frame :: rest ∧
      frame.message = .registerTunnelOk tid ent.configRevision := by
  cases e with
  | daemonReads flt =>
    refine (h.registered_read hent).imp_right ?_
    rintro ⟨frame, rest, hto, hmsg⟩
    exact ⟨flt, frame, rest, rfl, hto, hmsg⟩
  | reconcile dtb ord =>
    have he := cp.daemon.startEffect dtb ord
    simp only [ControlPlane.step] at hent
    generalize cp.daemon.startReconcile dtb ord = d at he hent
    cases he <;> exact .inl hent
  | advance intr =>
    have he := cp.daemon.advanceEffect intr
    simp only [ControlPlane.step] at hent
    generalize cp.daemon.advance intr = result at he hent
    cases he <;> exact .inl hent
  | serverReads out =>
    simp only [ControlPlane.step, ControlPlane.daemon_serve] at hent
    exact .inl hent
  | serverSends rid msg =>
    simp only [ControlPlane.step] at hent
    split at hent <;> exact .inl hent
  | strand e =>
    simp only [ControlPlane.step, h.isolated.own] at hent
    split at hent <;> exact .inl hent

theorem revision_of_drained {flt : Option Error} {frm : ControlFrame}
    {rest : List ControlFrame} {rev : Nat} {c : PublicConnection}
    (h : drained rp (.control (.daemonReads flt)) = true)
    (hto : rp.control.toDaemon = frm :: rest)
    (hmsg : frm.message = .registerTunnelOk tid rev)
    (hc : rp.connections.lookup conId = some c) (hop : c.stage.isOpen = true)
    (ht : c.binding.tunnelId = tid) : c.binding.configRevision = rev := by
  obtain ⟨rid, msg⟩ := frm
  cases hmsg
  simp only [drained, hto, decide_eq_true_eq] at h
  exact h _ (lookup_eq_some_iff.1 hc) hop ht

section Steps

variable (h : Relaying key session rp)
include h

theorem Relaying.controlStep {e : ControlEvent} (hd : drained rp (.control e) = true) :
    Relaying key session (rp.controlStep net key e) where
  synced := h.synced.step e
  fresh conId c hc hop ent hent := by
    rcases h.synced.registered_step hent with hold | ⟨flt, frame, rest, rfl, hto, hmsg⟩
    · exact h.fresh conId c hc hop ent hold
    · exact (revision_of_drained hd hto hmsg hc hop rfl).symm
  consistent conId c hc := by
    have hcon := h.consistent conId c hc
    unfold PublicConnection.Consistent at hcon ⊢
    split at hcon
    · exact List.mem_append_left _ hcon
    · exact hcon
    · trivial
  recorded tid ent target hent ht :=
    List.mem_append_right _ (mem_holdings hent ht)

/-! ## The connections -/

theorem Relaying.setQueue (queue : List Nat) : Relaying key session { rp with queue := queue } :=
  ⟨h.synced, h.fresh, h.consistent, h.recorded⟩

theorem Relaying.setStage {stage : Stage}
    (hop : ∀ c, rp.connections.lookup conId = some c → stage.isOpen = true →
      c.stage.isOpen = true)
    (hcon : ∀ c, rp.connections.lookup conId = some c →
      { c with stage := stage }.Consistent rp.held) :
    Relaying key session (rp.setStage conId stage) := by
  unfold RelayPlane.setStage
  split
  · exact h
  · next c hc =>
    refine ⟨h.synced, ?_, ?_, h.recorded⟩
    · intro k c' hc' hs
      simp only [lookup_insert_eq_ite] at hc'
      split at hc'
      · cases hc'
        exact h.fresh conId c hc (hop c hc hs)
      · exact h.fresh k c' hc' hs
    · intro k c' hc'
      simp only [lookup_insert_eq_ite] at hc'
      split at hc'
      · cases hc'
        exact hcon c hc
      · exact h.consistent k c' hc'

theorem Relaying.close (conId : Nat) :
    Relaying key session (rp.setStage conId (.resolved .closed)) :=
  h.setStage (fun _ _ hop => nomatch hop) fun _ _ => trivial

theorem Relaying.proceed {c : PublicConnection} {stage : Stage}
    (hc : rp.connections.lookup conId = some c) (hop : c.stage.isOpen = true)
    (hs : stage.isOpen = true) : Relaying key session (rp.setStage conId stage) := by
  refine h.setStage ?_ ?_
  · intro c' hc' _
    cases hc.symm.trans hc'
    exact hop
  · intro c' _
    cases stage with
    | resolved out => cases hs
    | _ => trivial

theorem Relaying.accept (conId : Nat) (tid : Bytes) :
    Relaying key session (rp.accept key conId tid) := by
  unfold RelayPlane.accept
  rw [h.synced.isolated.own]
  split
  · next ses' hno hs =>
    cases hs
    split
    · exact h
    · next b hb =>
      refine ⟨h.synced, ?_, ?_, h.recorded⟩
      · intro k c hc hop ent hent
        simp only [lookup_insert_eq_ite] at hc
        split at hc
        · cases hc
          obtain ⟨-, ht⟩ :=
            TunnelRegistry.identity_of_listenerOf h.synced.isolated.client hb
          rw [ht] at hent
          exact (h.synced.matches_of_view (Prod.ext hent hb)).revision.symm
        · exact h.fresh k c hc hop ent hent
      · intro k c hc
        simp only [lookup_insert_eq_ite] at hc
        split at hc
        · cases hc
          trivial
        · exact h.consistent k c hc
  · exact h

theorem Relaying.tryAssign (net : AddressText) (conId : Nat) (ord : List Bytes) :
    Relaying key session (rp.tryAssign net key conId ord).2 := by
  unfold RelayPlane.tryAssign
  split
  · next b hc =>
    split
    · exact (h.close conId).setQueue _
    · split
      · exact h
      · next wid _ =>
        have ha := (h.proceed hc rfl (rfl : (Stage.assigned wid).isOpen = true)).setQueue
          (rp.queue.erase conId)
        exact ha.controlStep rfl
  · exact h

theorem Relaying.handlePublicConnection (conId : Nat) (admitted : Bool) (ord : List Bytes) :
    Relaying key session (rp.handlePublicConnection net key conId admitted ord) := by
  unfold RelayPlane.handlePublicConnection
  split
  · next b hc =>
    split
    · exact h.close conId
    · have hw := (h.proceed hc rfl (rfl : Stage.pending.isOpen = true)).setQueue
        (rp.queue ++ [conId])
      split
      · exact hw.tryAssign net conId ord
      · exact hw
  · exact h

theorem Relaying.notifyLoop (ord : List Bytes) (candidates : List Nat) :
    Relaying key session (RelayPlane.notifyLoop net key ord candidates rp) := by
  induction candidates generalizing rp with
  | nil => exact h
  | cons conId rest ih =>
    have ht := h.tryAssign net conId ord
    unfold RelayPlane.notifyLoop
    split
    · next rp' heq => rw [heq] at ht; exact ht
    · next rp' heq =>
      rw [heq] at ht
      split
      · exact ht
      · exact ih ht

theorem Relaying.deliver (conId : Nat) (wkr : SessionKey) (written : Bool) :
    Relaying key session (rp.deliver net key conId wkr written) := by
  unfold RelayPlane.deliver
  split
  · next b wid hc =>
    split
    · exact h.close conId
    · split
      · cases written with
        | true =>
          have hs := h.proceed hc rfl (rfl : Stage.starting.isOpen = true)
          exact hs.controlStep rfl
        | false => exact (h.close conId).controlStep rfl
      · exact h.close conId
  · exact h

/-- The tunnel the Worker looks up is still at the connection's revision. -/
theorem Relaying.startRelay {b : TunnelBinding}
    (hc : rp.connections.lookup conId = some ⟨b, .starting⟩) (attempt : LocalAttempt) :
    Relaying key session (rp.setStage conId
      (.resolved (rp.control.daemon.startRelay (startRelayMessage b) attempt))) := by
  refine h.setStage (fun _ _ hop => nomatch hop) ?_
  intro c hc'
  cases hc.symm.trans hc'
  unfold PublicConnection.Consistent
  split
  · next ep hs =>
    obtain ⟨tgt, ht, rfl⟩ :=
      rp.control.daemon.startRelay_eq_relayed (Stage.resolved.inj hs)
    change rp.control.daemon.localEndpoints.lookup b.tunnelId = some tgt at ht
    have hsome := h.synced.targets b.tunnelId (by rw [ht]; rfl)
    obtain ⟨ent, hent⟩ := Option.isSome_iff_exists.1 hsome
    have hrev := h.fresh conId _ hc rfl ent hent
    have hrec := h.recorded b.tunnelId ent tgt hent ht
    rw [hrev] at hrec
    exact hrec
  · next hs => exact rp.control.daemon.startRelay_eq_proxied (Stage.resolved.inj hs)
  · trivial

theorem Relaying.step {e : RelayEvent} (hd : drained rp e = true) :
    Relaying key session (rp.step net key e) := by
  cases e with
  | control e => exact h.controlStep hd
  | accept conId tid => exact h.accept conId tid
  | handlePublicConnection conId admitted ord =>
    simp only [RelayPlane.step]
    split
    · exact h.handlePublicConnection conId admitted ord
    · exact h
  | notifyWorkerAvailable ord =>
    simp only [RelayPlane.step]
    split
    · exact h.notifyLoop ord rp.queue
    · exact h
  | expire conId =>
    simp only [RelayPlane.step]
    split
    · exact (h.close conId).setQueue _
    · exact h
  | deliver conId wkr written => exact h.deliver conId wkr written
  | startRelay conId attempt =>
    simp only [RelayPlane.step]
    split
    · next b hc => exact h.startRelay hc attempt
    · exact h
  | drop conId =>
    simp only [RelayPlane.step]
    split
    · exact h.close conId
    · exact h.close conId
    · exact h

end Steps

/-- **Revision-consistent relay.**  In every run from the opening of the session in
which a tunnel is only replaced once the connections of its old revision are gone,
every public connection is relayed to a local endpoint of its listener's revision,
or not to a local endpoint at all. -/
theorem revisionConsistent_of_drained (net : AddressText) {key : SessionKey}
    {session : ControlSession} {rp : RelayPlane} (hopened : Opened key session rp)
    {events : List RelayEvent}
    (hdrained : AllSteps (RelayPlane.step net key) (fun rp e => drained rp e = true) rp events) :
    RevisionConsistent (exec (RelayPlane.step net key) rp events) := by
  have hstep : ∀ rp e, Relaying key session rp → drained rp e = true →
      Relaying key session (rp.step net key e) :=
    fun _ _ h hdrained => h.step hdrained
  exact (hdrained.invariant hstep hopened.relaying).consistent

theorem revisionConsistent_of_drained_sample :
    (exec (RelayPlane.step Server.Sample.net Sample.key) Sample.relays
        (Sample.registered ++ Sample.waits ++ Sample.workerComes)).connections.lookup 0 =
      some ⟨Sample.session.binding (registerMessage Sample.web),
        .resolved (.relayed Sample.web.localEndpoint)⟩ ∧
    RevisionConsistent (exec (RelayPlane.step Server.Sample.net Sample.key) Sample.relays
      (Sample.registered ++ Sample.waits ++ Sample.workerComes)) :=
  ⟨by decide +kernel,
    revisionConsistent_of_drained Server.Sample.net Sample.opened (by decide +kernel)⟩

end MiniTun.System
