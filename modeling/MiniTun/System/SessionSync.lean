import MiniTun.Daemon.SessionSteps
import MiniTun.Lib.Pipeline
import MiniTun.System.ControlPlane

/-!
# The two ends of a control session stay in step

`Synced` is what holds between the two ends at every moment.  A tunnel nobody has
asked about is registered with the daemon exactly if the server listens for it,
and with the same binding; for every other tunnel one request or one answer in
flight accounts for the difference.
-/

namespace MiniTun.System

open Daemon KeyedMap Pipeline Server Storage TransitionSystem

/-! ## One tunnel on both sides -/

/-- What the daemon has registered, and what the server has listening. -/
abbrev TunnelView := Option RegisteredTunnel × Option TunnelBinding

def ControlPlane.view (cp : ControlPlane) (clientId tunnelId : Bytes) : TunnelView :=
  (cp.daemon.registered.lookup tunnelId, cp.server.tunnelRegistry.listenerOf clientId tunnelId)

/-- The listener is the one the daemon has registered. -/
structure Matches (session : ControlSession) (registered : RegisteredTunnel) (b : TunnelBinding) :
    Prop where
  generation : b.sessionGeneration = session.generation
  revision : b.configRevision = registered.configRevision
  host : b.bindHost = registered.remoteEndpoint.host
  port : b.bindPort = registered.remoteEndpoint.port

/-- What the two ends know of a tunnel. -/
inductive Agrees (session : ControlSession) : TunnelView → Prop where
  | absent : Agrees session (none, none)
  | present {registered : RegisteredTunnel} {b : TunnelBinding}
      (h : Matches session registered b) : Agrees session (some registered, some b)

theorem Agrees.of_registered {ses : ControlSession} {view : TunnelView}
    {regd : RegisteredTunnel} (h : Agrees ses view) (hsome : view.1 = some regd) :
    ∃ b, view = (some regd, some b) ∧ Matches ses regd b := by
  cases h with
  | absent => cases hsome
  | present hm => cases hsome; exact ⟨_, rfl, hm⟩

theorem Agrees.of_not_registered {ses : ControlSession} {view : TunnelView}
    (h : Agrees ses view) (hno : view.1 = none) : view = (none, none) := by
  cases h with
  | absent => rfl
  | present _ => cases hno

/-- A request on its way to the server, and its tunnel meanwhile. -/
inductive Asks (session : ControlSession) (view : Bytes → TunnelView) :
    Nat × Awaited → ControlFrame → Prop where
  | removal {requestId : Nat} {tunnelId : Bytes} {registered : RegisteredTunnel}
      {b : TunnelBinding} (hview : view tunnelId = (some registered, some b))
      (h : Matches session registered b) :
      Asks session view (requestId, .removal tunnelId)
        ⟨requestId, .unregisterTunnel tunnelId registered.configRevision⟩
  | registration {requestId : Nat} {row : TunnelRecord} (hview : view row.id = (none, none)) :
      Asks session view (requestId, .registration row)
        ⟨requestId, .registerTunnel (registerMessage row)⟩

/-- An answer on its way to the daemon, and its tunnel meanwhile. -/
inductive Answers (session : ControlSession) (view : Bytes → TunnelView) :
    Nat × Awaited → ControlFrame → Prop where
  | removed {requestId : Nat} {tunnelId : Bytes} {registered : RegisteredTunnel}
      (hview : view tunnelId = (some registered, none)) :
      Answers session view (requestId, .removal tunnelId)
        ⟨requestId, .unregisterTunnelOk tunnelId registered.configRevision⟩
  | accepted {requestId : Nat} {row : TunnelRecord}
      (hview : view row.id = (none, some (session.binding (registerMessage row)))) :
      Answers session view (requestId, .registration row)
        ⟨requestId, .registerTunnelOk row.id row.configRevision⟩
  | rejected {requestId : Nat} {row : TunnelRecord} {code : ErrorCode}
      (hview : view row.id = (none, none)) :
      Answers session view (requestId, .registration row)
        ⟨requestId, .registerTunnelError row.id code row.configRevision⟩

section Flight

variable {ses : ControlSession} {view view' : Bytes → TunnelView} {a : Nat × Awaited}
  {frm : ControlFrame}

theorem Asks.congr (h : Asks ses view a frm)
    (hv : view' a.2.tunnelId = view a.2.tunnelId) : Asks ses view' a frm := by
  cases h with
  | removal h hm => exact .removal (hv.trans h) hm
  | registration h => exact .registration (hv.trans h)

theorem Answers.congr (h : Answers ses view a frm)
    (hv : view' a.2.tunnelId = view a.2.tunnelId) : Answers ses view' a frm := by
  cases h with
  | removed h => exact .removed (hv.trans h)
  | accepted h => exact .accepted (hv.trans h)
  | rejected h => exact .rejected (hv.trans h)

theorem Asks.isRequest (h : Asks ses view a frm) : frm.isRequest = true := by
  cases h <;> rfl

theorem Answers.requestId (h : Answers ses view a frm) : frm.requestId = a.1 := by
  cases h <;> rfl

end Flight

/-! ## The invariant -/

def awaitedIds (awaited : List (Nat × Awaited)) : List Bytes :=
  awaited.map fun a => a.2.tunnelId

/-- What the loops of `reconcile_tunnels` know of the work they have left, given
the tunnels whose answers are awaited. -/
def WorkLeft (waiting : List Bytes) (registered : Map Bytes RegisteredTunnel) :
    ReconcilePhase → Prop
  | .idle _ => waiting = []
  | .removing tunnels stale =>
    (tunnels.map TunnelRecord.id).Nodup ∧ (stale.map Prod.fst ++ waiting).Nodup ∧
      ∀ s ∈ stale, (registered.lookup s.1).map RegisteredTunnel.configRevision = some s.2
  | .refreshing _ rows pending =>
    waiting = [] ∧ ((pending ++ rows).map TunnelRecord.id).Nodup ∧
      ∀ row ∈ pending, registered.lookup row.id = none
  | .registering _ rows _ =>
    (rows.map TunnelRecord.id ++ waiting).Nodup ∧
      ∀ row ∈ rows, registered.lookup row.id = none
  | .failed _ => True

/-- **The two ends are in step.** -/
structure Synced (key : SessionKey) (session : ControlSession) (cp : ControlPlane) : Prop where
  isolated : Isolated key session cp.server.sessions
  inOrder : cp.daemon.bufferedResponses = ∅
  distinct : (awaitedIds cp.daemon.awaited).Nodup
  flight : Pipelined (Asks session (cp.view session.clientId))
    (Answers session (cp.view session.clientId)) cp.daemon.awaited
    (cp.toServer.filter ControlFrame.isRequest) (cp.toDaemon.filter ControlFrame.isResponse)
  settled : ∀ tunnelId, tunnelId ∉ awaitedIds cp.daemon.awaited →
    Agrees session (cp.view session.clientId tunnelId)
  targets : ∀ tunnelId, (cp.daemon.localEndpoints.lookup tunnelId).isSome →
    (cp.daemon.registered.lookup tunnelId).isSome
  workLeft : WorkLeft (awaitedIds cp.daemon.awaited) cp.daemon.registered cp.daemon.phase

variable {net : AddressText} {key : SessionKey} {ses : ControlSession} {cp : ControlPlane}

/-! ## The server's steps -/

variable {frm : ControlFrame} {rest chan : List ControlFrame} {tid : Bytes}
  {phase : ReconcilePhase} {regd : Map Bytes RegisteredTunnel} {waiting : List Bytes}

theorem Synced.answer (h : Synced key ses cp) {answer : ControlFrame} {srv : ServerState}
    (hto : cp.toServer = frm :: rest) (hreq : frm.isRequest = true)
    (hr : answer.isResponse = true) (hi : Isolated key ses srv.sessions)
    (ha : ∀ a, Asks ses (cp.view ses.clientId) a frm →
      (∀ t, t ≠ a.2.tunnelId → srv.tunnelRegistry.listenerOf ses.clientId t =
        cp.server.tunnelRegistry.listenerOf ses.clientId t) ∧
      Answers ses ({ cp with server := srv }.view ses.clientId) a answer) :
    Synced key ses
      { cp with server := srv, toServer := rest, toDaemon := cp.toDaemon ++ [answer] } := by
  have hf := h.flight
  rw [hto, List.filter_cons_of_pos hreq] at hf
  obtain ⟨before, a, after, hs, hasks, hsr⟩ := hf.serve
  obtain ⟨ho, han⟩ := ha a hasks
  have hd := h.distinct
  rw [hs] at hd
  have hne : ∀ x ∈ before ++ after, x.2.tunnelId ≠ a.2.tunnelId := by
    intro x hx heq
    simp only [awaitedIds, List.map_append] at hd
    have hn := List.nodup_middle.1 hd
    rw [← List.map_append, List.nodup_cons] at hn
    exact hn.1 (List.mem_map.2 ⟨x, hx, heq⟩)
  have hv : ∀ t, t ≠ a.2.tunnelId → { cp with server := srv }.view ses.clientId t =
      cp.view ses.clientId t :=
    fun t ht => Prod.ext rfl (ho t ht)
  refine ⟨hi, h.inOrder, h.distinct, ?_, ?_, h.targets, h.workLeft⟩
  · rw [List.filter_append, List.filter_cons_of_pos hr]
    refine hsr ?_ ?_ han
    · intro x hx y hy
      exact hy.congr (hv _ (hne x (List.mem_append_left _ hx)))
    · intro x hx y hy
      exact hy.congr (hv _ (hne x (List.mem_append_right _ hx)))
  · intro t ht
    have hta : t ≠ a.2.tunnelId := by
      intro heq
      refine ht (List.mem_map.2 ⟨a, ?_, heq.symm⟩)
      rw [hs]
      exact List.mem_append_right _ List.mem_cons_self
    exact (hv t hta).symm ▸ h.settled t ht

theorem isResponse_registerAnswer (rid : Nat) (m : RegisterTunnelMessage) (res : Result Unit) :
    (⟨rid, registerAnswer m res⟩ : ControlFrame).isResponse = true := by
  cases res <;> rfl

section Serving

variable (h : Synced key ses cp)
include h

theorem Synced.serveRegister {rid : Nat} {m : RegisterTunnelMessage}
    (hto : cp.toServer = ⟨rid, .registerTunnel m⟩ :: rest) (out : ListenOutcome) :
    Synced key ses { cp with
        server := (cp.server.sessionRegisterTunnel net ses m out).2
        toServer := rest
        toDaemon := cp.toDaemon ++ [⟨rid,
          registerAnswer m (cp.server.sessionRegisterTunnel net ses m out).1⟩] } := by
  have hi := h.isolated
  rw [← sessions_sessionRegisterTunnel m out] at hi
  refine h.answer hto rfl (isResponse_registerAnswer _ _ _) hi ?_
  intro a hasks
  cases hasks with
  | @registration _ row hv =>
    obtain ⟨hr, hno⟩ := Prod.mk.inj hv
    refine ⟨fun t ht => listenerOf_sessionRegisterTunnel_of_ne h.isolated.client ht, ?_⟩
    rcases listenerOf_sessionRegisterTunnel net (registerMessage row) out hno with
      ⟨error, hres, hlsn⟩ | ⟨hres, hlsn⟩
    · rw [hres]
      exact .rejected (Prod.ext hr hlsn)
    · rw [hres]
      exact .accepted (Prod.ext hr hlsn)

theorem Synced.serveUnregister {rid rev : Nat}
    (hto : cp.toServer = ⟨rid, .unregisterTunnel tid rev⟩ :: rest) :
    Synced key ses { cp with
        server := Server.step net cp.server (.session key (.unregisterTunnel tid rev))
        toServer := rest
        toDaemon := cp.toDaemon ++ [⟨rid, .unregisterTunnelOk tid rev⟩] } := by
  rw [step_unregisterTunnel h.isolated]
  refine h.answer hto rfl rfl h.isolated ?_
  intro a hasks
  cases hasks with
  | @removal _ _ regd b hv hm =>
    obtain ⟨hr, hlsn⟩ := Prod.mk.inj hv
    constructor
    · intro t ht
      refine TunnelRegistry.listenerOf_unregisterTunnel_of_ne ?_
      intro hk
      exact ht (bindingKey_injective h.isolated.client h.isolated.client hk).2
    · refine .removed (Prod.ext hr ?_)
      rw [← hm.revision, ← hm.generation]
      exact TunnelRegistry.listenerOf_unregisterTunnel_self hlsn

theorem Synced.asked (hto : cp.toServer = frm :: rest) (hreq : frm.isRequest = true) :
    ∃ a ∈ cp.daemon.awaited, Asks ses (cp.view ses.clientId) a frm := by
  have hf := h.flight
  rw [hto, List.filter_cons_of_pos hreq] at hf
  obtain ⟨before, a, after, hs, hasks, -⟩ := hf.serve
  refine ⟨a, ?_, hasks⟩
  rw [hs]
  exact List.mem_append_right _ List.mem_cons_self

theorem Synced.serve (out : ListenOutcome) : Synced key ses (cp.serve net key out) := by
  unfold ControlPlane.serve
  rw [h.isolated.own]
  split
  · next requestId_message rest ses' hto hs =>
    cases hs
    obtain ⟨rid, msg⟩ := requestId_message
    split
    · next m hmsg =>
      cases hmsg
      exact h.serveRegister hto out
    · next tid rev hmsg =>
      cases hmsg
      exact h.serveUnregister hto
    · next hr hu =>
      have ho : (⟨rid, msg⟩ : ControlFrame).isRequest ≠ true := by
        cases msg with
        | registerTunnel m => exact absurd rfl (hr m)
        | unregisterTunnel t r => exact absurd rfl (hu t r)
        | _ => exact Bool.false_ne_true
      have hf := h.flight
      rw [hto, List.filter_cons_of_neg ho] at hf
      exact { h with flight := hf }
  · exact h

end Serving

theorem ControlPlane.daemon_serve (out : ListenOutcome) :
    (cp.serve net key out).daemon = cp.daemon := by
  unfold ControlPlane.serve
  split
  · split <;> rfl
  · rfl

section Steps

variable (h : Synced key ses cp)
include h

theorem Synced.listenerOf_serve {out : ListenOutcome} {b : TunnelBinding}
    (hb : (cp.serve net key out).server.tunnelRegistry.listenerOf ses.clientId tid =
      some b) :
    cp.server.tunnelRegistry.listenerOf ses.clientId tid = some b ∨
    ∃ rid row, (rid, Awaited.registration row) ∈ cp.daemon.awaited ∧
      row.id = tid ∧ b = ses.binding (registerMessage row) := by
  unfold ControlPlane.serve at hb
  rw [h.isolated.own] at hb
  split at hb
  · next requestId_message rest ses' hto hs =>
    cases hs
    obtain ⟨rid, msg⟩ := requestId_message
    split at hb
    · next m hmsg =>
      cases hmsg
      obtain ⟨a, hmem, hasks⟩ := h.asked hto rfl
      cases hasks with
      | @registration _ row hv =>
        by_cases hid : tid = row.id
        · subst hid
          obtain ⟨-, hno⟩ := Prod.mk.inj hv
          rcases listenerOf_sessionRegisterTunnel net (registerMessage row) out hno with
            ⟨-, -, hlsn⟩ | ⟨-, hlsn⟩
          · rw [show (registerMessage row).tunnelId = row.id from rfl] at hlsn
            simp only [hlsn] at hb
            cases hb
          · rw [show (registerMessage row).tunnelId = row.id from rfl] at hlsn
            simp only [hlsn] at hb
            cases hb
            exact .inr ⟨rid, row, hmem, rfl, rfl⟩
        · left
          rw [← hb]
          exact (listenerOf_sessionRegisterTunnel_of_ne h.isolated.client hid).symm
    · next removedId rev hmsg =>
      simp only [step_unregisterTunnel h.isolated] at hb
      exact .inl (TunnelRegistry.listenerOf_of_unregisterTunnel hb)
    · exact .inl hb
  · exact .inl hb

theorem Synced.strand {e : Server.Event} (hfor : foreign key ses.clientId e = true) :
    Synced key ses { cp with server := Server.step net cp.server e } := by
  have hv : { cp with server := Server.step net cp.server e }.view ses.clientId =
      cp.view ses.clientId :=
    funext fun t => Prod.ext rfl (listenerOf_foreign h.isolated hfor t)
  refine ⟨h.isolated.step hfor, h.inOrder, h.distinct, ?_, ?_, h.targets, h.workLeft⟩
  · rw [hv]
    exact h.flight
  · rw [hv]
    exact h.settled

theorem Synced.notice (hn : frm.isResponse = false) :
    Synced key ses { cp with toDaemon := cp.toDaemon ++ [frm] } := by
  have hf := h.flight
  refine { h with flight := ?_ }
  rw [List.filter_append, List.filter_cons_of_neg (by simp [hn]), List.filter_nil,
    List.append_nil]
  exact hf

/-! ## The daemon's steps -/

theorem Synced.setPhase (hw : WorkLeft (awaitedIds cp.daemon.awaited) cp.daemon.registered phase) :
    Synced key ses { cp with daemon := { cp.daemon with phase := phase } } :=
  { h with workLeft := hw }

theorem Synced.fail (err : Error) :
    Synced key ses { cp with daemon := cp.daemon.fail err } :=
  h.setPhase trivial

theorem Synced.start (dtb : Result Tunnels) (ord : List Bytes) :
    Synced key ses { cp with daemon := cp.daemon.startReconcile dtb ord } := by
  have he := cp.daemon.startEffect dtb ord
  generalize cp.daemon.startReconcile dtb ord = d at he
  cases he with
  | nothing _ => exact h
  | failed err => exact h.fail err
  | @started last ord dtb hp hord =>
    have hi := h.workLeft
    rw [hp] at hi
    refine h.setPhase ⟨nodup_listByServer _ _, ?_, ?_⟩
    · rw [hi, List.append_nil]
      exact (cp.daemon.ids_staleTunnels_sublist _ _).nodup
        (hord.nodup_iff.2 cp.daemon.registered.keys_nodup)
    · intro s hs
      exact (cp.daemon.mem_staleTunnels.1 hs).2.1

theorem Synced.quiet (ha : cp.daemon.awaited = []) :
    cp.toServer.filter ControlFrame.isRequest = [] ∧
      cp.toDaemon.filter ControlFrame.isResponse = [] := by
  have hf := h.flight
  rw [ha] at hf
  exact pipelined_nil_iff.1 hf

theorem Synced.sent (ha : cp.daemon.awaited = []) {reqs : List (Nat × WindowRequest)}
    (nextRequestId : Nat) (hds : (reqs.map fun req => req.2.1.tunnelId).Nodup)
    (hasks : ∀ req ∈ reqs, Asks ses (cp.view ses.clientId) (req.1, req.2.1) ⟨req.1, req.2.2⟩)
    (hw : WorkLeft (reqs.map fun req => req.2.1.tunnelId) cp.daemon.registered phase) :
    Synced key ses { cp with
        daemon := { cp.daemon with
          nextRequestId := nextRequestId
          phase := phase
          awaited := reqs.map fun req => (req.1, req.2.1) }
        toServer := cp.toServer ++ reqs.map fun req => ⟨req.1, req.2.2⟩ } := by
  obtain ⟨hs, hd⟩ := h.quiet ha
  have hids : awaitedIds (reqs.map fun req => (req.1, req.2.1)) =
      reqs.map fun req => req.2.1.tunnelId := List.map_map
  have hr : (reqs.map fun req => (⟨req.1, req.2.2⟩ : ControlFrame)).filter
      ControlFrame.isRequest = reqs.map fun req => ⟨req.1, req.2.2⟩ := by
    rw [List.filter_eq_self]
    intro frm hf
    obtain ⟨req, hreq, rfl⟩ := List.mem_map.1 hf
    exact (hasks req hreq).isRequest
  refine ⟨h.isolated, h.inOrder, by rw [hids]; exact hds, ?_, ?_, h.targets,
    by rw [hids]; exact hw⟩
  · rw [List.filter_append, hs, hd, hr, List.nil_append]
    apply pipelined_of_forall₂
    rw [List.forall₂_map_left_iff, List.forall₂_map_right_iff, List.forall₂_same]
    exact hasks
  · intro t _
    refine h.settled t ?_
    rw [ha]
    exact List.not_mem_nil

/-- The daemon sends a window of requests, or the part of it that goes out before
the transport fails. -/
theorem Synced.sendWindow (ha : cp.daemon.awaited = []) {win : List WindowRequest}
    {next : ReconcilePhase} (hd : (win.map fun req => req.1.tunnelId).Nodup)
    (hasks : ∀ req ∈ win, ∀ rid,
      Asks ses (cp.view ses.clientId) (rid, req.1) ⟨rid, req.2⟩)
    (hw : WorkLeft (win.map fun req => req.1.tunnelId) cp.daemon.registered next)
    (intr : Option Interruption) :
    Synced key ses { cp with
        daemon := (cp.daemon.sendWindow win next intr).1
        toServer := cp.toServer ++ (cp.daemon.sendWindow win next intr).2 } := by
  have hmap : ∀ f : WindowRequest → Bytes,
      (numberRequests cp.daemon.nextRequestId win).map (fun req => f req.2) =
        win.map f := by
    intro f
    conv_rhs => rw [← map_snd_numberRequests cp.daemon.nextRequestId win, List.map_map]
    rfl
  have hn : ∀ req ∈ numberRequests cp.daemon.nextRequestId win,
      Asks ses (cp.view ses.clientId) (req.1, req.2.1) ⟨req.1, req.2.2⟩ := by
    intro req hreq
    refine hasks req.2 ?_ req.1
    rw [← map_snd_numberRequests cp.daemon.nextRequestId win]
    exact List.mem_map_of_mem hreq
  cases intr with
  | none =>
    refine h.sent ha _ ?_ hn ?_
    · rw [hmap fun req => req.1.tunnelId]
      exact hd
    · rw [hmap fun req => req.1.tunnelId]
      exact hw
  | some i =>
    refine h.sent ha _ ?_ ?_ trivial
    · rw [List.map_take, hmap fun req => req.1.tunnelId]
      exact (List.take_sublist _ _).nodup hd
    · intro req hreq
      exact hn req (List.mem_of_mem_take hreq)

end Steps

theorem nodup_drop_append_take {α : Type*} {l : List α} (h : l.Nodup) (n : Nat) :
    (l.drop n ++ l.take n).Nodup := by
  rw [List.nodup_append_comm, List.take_append_drop]
  exact h

theorem Synced.window (h : Synced key ses cp) (ha : cp.daemon.awaited = [])
    {win : List WindowRequest} {next : ReconcilePhase}
    (hwin : NextWindow cp.daemon.phase win next) :
    (win.map fun req => req.1.tunnelId).Nodup ∧
      (∀ req ∈ win, ∀ rid, Asks ses (cp.view ses.clientId) (rid, req.1) ⟨rid, req.2⟩) ∧
      WorkLeft (win.map fun req => req.1.tunnelId) cp.daemon.registered next := by
  have hw := h.workLeft
  have hst : ∀ t, Agrees ses (cp.view ses.clientId t) := by
    intro t
    refine h.settled t ?_
    rw [ha]
    exact List.not_mem_nil
  rw [ha] at hw
  generalize cp.daemon.phase = phase at hwin hw
  cases hwin with
  | removals tns stale =>
    obtain ⟨htns, hn, hsa⟩ := hw
    have hids : ((stale.take tunnelSyncWindow).map removalRequest).map
        (fun req => req.1.tunnelId) = (stale.map Prod.fst).take tunnelSyncWindow := by
      rw [List.map_map, ← List.map_take]
      rfl
    rw [awaitedIds, List.map_nil, List.append_nil] at hn
    rw [hids]
    refine ⟨(List.take_sublist _ _).nodup hn, ?_, htns, ?_, ?_⟩
    · intro req hreq rid
      obtain ⟨s, hs, rfl⟩ := List.mem_map.1 hreq
      have hrv := hsa s (List.mem_of_mem_take hs)
      obtain ⟨regd, hrg, hrev⟩ := Option.map_eq_some_iff.1 hrv
      obtain ⟨b, hv, hm⟩ := (hst s.1).of_registered hrg
      simp only [removalRequest, ← hrev]
      exact .removal hv hm
    · rw [List.map_drop]
      exact nodup_drop_append_take hn _
    · intro s hs
      exact hsa s (List.mem_of_mem_drop hs)
  | registrations tns rows rej =>
    obtain ⟨hn, hr⟩ := hw
    have hids : ((rows.take tunnelSyncWindow).map registrationRequest).map
        (fun req => req.1.tunnelId) =
          (rows.map TunnelRecord.id).take tunnelSyncWindow := by
      rw [List.map_map, ← List.map_take]
      rfl
    rw [awaitedIds, List.map_nil, List.append_nil] at hn
    rw [hids]
    refine ⟨(List.take_sublist _ _).nodup hn, ?_, ?_, ?_⟩
    · intro req hreq rid
      obtain ⟨row, hrow, rfl⟩ := List.mem_map.1 hreq
      have hno := hr row (List.mem_of_mem_take hrow)
      exact .registration ((hst row.id).of_not_registered hno)
    · rw [List.map_drop]
      exact nodup_drop_append_take hn _
    · intro row hrow
      exact hr row (List.mem_of_mem_drop hrow)

theorem Synced.advance (h : Synced key ses cp) (intr : Option Interruption) :
    Synced key ses { cp with
        daemon := (cp.daemon.advance intr).1
        toServer := cp.toServer ++ (cp.daemon.advance intr).2 } := by
  have he := cp.daemon.advanceEffect intr
  have hw := h.workLeft
  generalize cp.daemon.advance intr = result at he ⊢
  cases he with
  | nothing => simpa only [List.append_nil] using h
  | failed err => simpa only [List.append_nil] using h.fail err
  | @purged tns ha hp =>
    rw [hp] at hw
    simp only [List.append_nil]
    refine h.setPhase ⟨?_, hw.1, ?_⟩
    · rw [ha]
      rfl
    · intro row hrow
      cases hrow
  | @skipped tns rows ps row ha hp _ =>
    rw [hp] at hw
    obtain ⟨hwt, hn, hpe⟩ := hw
    simp only [List.append_nil]
    refine h.setPhase ⟨hwt, ?_, hpe⟩
    exact ((List.sublist_cons_self row rows).append_left ps |>.map _).nodup hn
  | @refreshed tns rows ps row phase ha hp _ hr hnx =>
    rw [hp] at hw
    obtain ⟨hwt, hn, hpe⟩ := hw
    simp only [List.append_nil]
    refine { h with targets := ?_, workLeft := ?_ }
    · intro t ht
      simp only [lookup_insert_eq_ite] at ht
      split at ht
      · next heq => rw [heq]; exact hr
      · exact h.targets t ht
    · cases hnx with
      | failed err => trivial
      | reached =>
        refine ⟨hwt, ?_, hpe⟩
        exact ((List.sublist_cons_self row rows).append_left ps |>.map _).nodup hn
  | @collected tns rows ps row ha hp _ hr _ =>
    rw [hp] at hw
    obtain ⟨hwt, hn, hpe⟩ := hw
    simp only [List.append_nil]
    refine h.setPhase ⟨hwt, by simpa using hn, ?_⟩
    intro row' hrow'
    rcases List.mem_append.1 hrow' with hmem | hmem
    · exact hpe row' hmem
    · rw [List.mem_singleton.1 hmem]
      exact hr
  | @allCollected tns ps ha hp =>
    rw [hp] at hw
    obtain ⟨hwt, hn, hpe⟩ := hw
    simp only [List.append_nil]
    refine h.setPhase ⟨?_, hpe⟩
    rw [hwt]
    simpa using hn
  | @sent win next ha hwin intr =>
    obtain ⟨hd, hasks, hl⟩ := h.window ha hwin
    exact h.sendWindow ha hd hasks hl intr
  | @finished tns rej ha hp =>
    simp only [List.append_nil]
    refine { h with targets := ?_, workLeft := ?_ }
    · intro t ht
      refine h.targets t ?_
      simp only [ServerSession.finish, lookup_retainKeys] at ht
      split at ht
      · exact ht
      · cases ht
    · simp only [ServerSession.finish, ha]
      rfl

theorem Synced.noticed (h : Synced key ses cp) {sent : List ControlFrame} {d : ServerSession}
    (hto : cp.toDaemon = frm :: chan) (hn : frm.isResponse = false)
    (he : NoticeEffect cp.daemon d) (hs : sent.filter ControlFrame.isRequest = []) :
    Synced key ses { cp with daemon := d, toServer := cp.toServer ++ sent, toDaemon := chan } := by
  have hf := h.flight
  rw [hto, List.filter_cons_of_neg (by simp [hn])] at hf
  have hsv : (cp.toServer ++ sent).filter ControlFrame.isRequest =
      cp.toServer.filter ControlFrame.isRequest := by
    rw [List.filter_append, hs, List.append_nil]
  rw [← hsv] at hf
  cases he with
  | nothing => exact { h with flight := hf }
  | failed err => exact { h with flight := hf, workLeft := trivial }
  | dropped tid err =>
    refine { h with flight := hf, targets := ?_, workLeft := trivial }
    intro t ht
    refine h.targets t ?_
    simp only [ServerSession.fail, lookup_erase_eq_ite] at ht
    split at ht
    · cases ht
    · exact ht

theorem WorkLeft.settle {registered' : Map Bytes RegisteredTunnel}
    (h : WorkLeft (tid :: waiting) regd phase)
    (ho : ∀ t, t ≠ tid → registered'.lookup t = regd.lookup t) :
    WorkLeft waiting registered' phase := by
  cases phase with
  | idle _ => cases h
  | failed _ => trivial
  | refreshing _ _ _ => cases h.1
  | removing tns stale =>
    obtain ⟨htns, hn, hst⟩ := h
    have hn' := List.nodup_middle.1 hn
    rw [List.nodup_cons, List.mem_append, not_or] at hn'
    refine ⟨htns, hn'.2, ?_⟩
    intro s hs
    rw [ho s.1 fun heq => hn'.1.1 (heq ▸ List.mem_map_of_mem hs)]
    exact hst s hs
  | registering tns rows rej =>
    obtain ⟨hn, hr⟩ := h
    have hn' := List.nodup_middle.1 hn
    rw [List.nodup_cons, List.mem_append, not_or] at hn'
    refine ⟨hn'.2, ?_⟩
    intro row hrow
    rw [ho row.id fun heq => hn'.1.1 (heq ▸ List.mem_map_of_mem hrow)]
    exact hr row hrow

theorem workLeft_noteRejection (h : WorkLeft waiting regd phase) :
    WorkLeft waiting regd (noteRejection tid phase) := by
  cases phase <;> exact h

theorem Synced.consume (h : Synced key ses cp) {a : Nat × Awaited}
    {rest : List (Nat × Awaited)} {d : ServerSession} (hto : cp.toDaemon = frm :: chan)
    (hrs : frm.isResponse = true) (ha : cp.daemon.awaited = a :: rest)
    (hr : d.awaited = rest) (hinO : d.bufferedResponses = ∅)
    (ho : ∀ t, t ≠ a.2.tunnelId → d.registered.lookup t = cp.daemon.registered.lookup t)
    (hag : Agrees ses ({ cp with daemon := d }.view ses.clientId a.2.tunnelId))
    (htr : ∀ t, (d.localEndpoints.lookup t).isSome → (d.registered.lookup t).isSome)
    (hp : ∀ waiting regd, WorkLeft waiting regd cp.daemon.phase →
      WorkLeft waiting regd d.phase) :
    Synced key ses { cp with daemon := d, toDaemon := chan } := by
  have hf := h.flight
  rw [hto, List.filter_cons_of_pos hrs] at hf
  obtain ⟨a', rest', ha', -, hrd⟩ := hf.read
  rw [ha] at ha'
  obtain ⟨rfl, rfl⟩ := ha'
  have hd := h.distinct
  have hw := h.workLeft
  rw [ha] at hd hw
  obtain ⟨hnm, hn⟩ := List.nodup_cons.1 hd
  have hv : ∀ t, t ≠ a.2.tunnelId → { cp with daemon := d }.view ses.clientId t =
      cp.view ses.clientId t :=
    fun t ht => Prod.ext (ho t ht) rfl
  have hne : ∀ x ∈ rest, x.2.tunnelId ≠ a.2.tunnelId :=
    fun x hx heq => hnm (List.mem_map.2 ⟨x, hx, heq⟩)
  refine ⟨h.isolated, hinO, by rw [hr]; exact hn, ?_, ?_, htr, ?_⟩
  · rw [hr]
    refine hrd ?_ ?_
    · intro x hx y hy
      exact hy.congr (hv _ (hne x hx))
    · intro x hx y hy
      exact hy.congr (hv _ (hne x hx))
  · rw [hr]
    intro t ht
    by_cases hta : t = a.2.tunnelId
    · rw [hta]
      exact hag
    · refine (hv t hta).symm ▸ h.settled t ?_
      rw [ha]
      exact fun hmem => (List.mem_cons.1 hmem).elim hta ht
  · rw [hr]
    exact hp _ _ (hw.settle ho)

theorem WorkLeft.orFailed {phase' : ReconcilePhase} (hn : OrFailed phase phase')
    (h : WorkLeft waiting regd phase) : WorkLeft waiting regd phase' := by
  cases hn with
  | reached => exact h
  | failed _ => trivial

section Reading

variable (h : Synced key ses cp)
include h

theorem Synced.answered {a : Nat × Awaited} {rest : List (Nat × Awaited)}
    (hto : cp.toDaemon = frm :: chan) (hr : frm.isResponse = true)
    (ha : cp.daemon.awaited = a :: rest)
    (han : Answers ses (cp.view ses.clientId) a frm) (flt : Option Error) :
    Synced key ses { cp with
        daemon := cp.daemon.handleResponse a.2 rest frm.message flt
        toDaemon := chan } := by
  cases han with
  | @removed _ tid regd hv =>
    obtain ⟨hrg, hlsn⟩ := Prod.mk.inj hv
    obtain ⟨phase, hn, heq⟩ := cp.daemon.handleResponse_removed hrg rest flt
    rw [heq]
    refine h.consume hto hr ha rfl h.inOrder ?_ ?_ ?_ fun _ _ hw => hw.orFailed hn
    · intro t ht
      exact (lookup_erase_eq_ite _ _ _).trans (if_neg ht)
    · change Agrees ses ((cp.daemon.registered.erase tid).lookup tid,
        cp.server.tunnelRegistry.listenerOf ses.clientId tid)
      rw [AList.lookup_erase, hlsn]
      exact .absent
    · intro t ht
      simp only [lookup_erase_eq_ite] at ht ⊢
      split at ht
      · cases ht
      · next hne =>
        rw [if_neg hne]
        exact h.targets t ht
  | @accepted _ row hv =>
    obtain ⟨hrg, hlsn⟩ := Prod.mk.inj hv
    obtain ⟨phase, hn, heq⟩ := cp.daemon.handleResponse_accepted row rest flt
    rw [heq]
    refine h.consume hto hr ha rfl h.inOrder ?_ ?_ ?_ fun _ _ hw => hw.orFailed hn
    · intro t ht
      exact (lookup_insert_eq_ite _ _ _ _).trans (if_neg ht)
    · change Agrees ses
        ((cp.daemon.registered.insert row.id ⟨row.configRevision, row.remoteEndpoint⟩).lookup
          row.id, cp.server.tunnelRegistry.listenerOf ses.clientId row.id)
      rw [AList.lookup_insert, hlsn]
      exact .present ⟨rfl, rfl, rfl, rfl⟩
    · intro t ht
      simp only [lookup_insert_eq_ite] at ht ⊢
      split
      · rfl
      · next hne =>
        rw [if_neg hne] at ht
        exact h.targets t ht
  | @rejected _ row code hv =>
    obtain ⟨phase, hn, heq⟩ := cp.daemon.handleResponse_rejected row code rest flt
    rw [heq]
    refine h.consume hto hr ha rfl h.inOrder (fun _ _ => rfl) ?_ h.targets
      fun _ _ hw => (workLeft_noteRejection hw).orFailed hn
    exact hv.symm ▸ .absent

theorem Synced.head (hto : cp.toDaemon = frm :: chan) (hr : frm.isResponse = true) :
    ∃ req requests, cp.daemon.awaited = (frm.requestId, req) :: requests ∧
      Answers ses (cp.view ses.clientId) (frm.requestId, req) frm := by
  have hf := h.flight
  rw [hto, List.filter_cons_of_pos hr] at hf
  obtain ⟨⟨rid, req⟩, requests, haw, ha, -⟩ := hf.read
  obtain rfl := ha.requestId
  exact ⟨req, requests, haw, ha⟩

theorem Synced.head_of_awaited (hto : cp.toDaemon = frm :: chan)
    (hr : frm.isResponse = true) {req : Awaited} {rest : List (Nat × Awaited)}
    (haw : cp.daemon.awaited = (frm.requestId, req) :: rest) :
    Answers ses (cp.view ses.clientId) (frm.requestId, req) frm := by
  obtain ⟨request', requests, ha', ha⟩ := h.head hto hr
  rw [haw, List.cons_eq_cons, Prod.mk.injEq] at ha'
  rw [ha'.1.2]
  exact ha

theorem Synced.readEffect (flt : Option Error) :
    ReadEffect cp.daemon cp.toDaemon (cp.daemon.receive cp.toDaemon flt) := by
  refine cp.daemon.readEffect cp.toDaemon flt h.inOrder ?_
  intro frm chan hto hr
  obtain ⟨req, requests, ha, -⟩ := h.head hto hr
  exact ⟨req, requests, ha⟩

theorem Synced.read (flt : Option Error) :
    Synced key ses { cp with
        daemon := (cp.daemon.receive cp.toDaemon flt).1
        toServer := cp.toServer ++ (cp.daemon.receive cp.toDaemon flt).2.1
        toDaemon := (cp.daemon.receive cp.toDaemon flt).2.2 } := by
  have he := h.readEffect flt
  generalize hto : cp.toDaemon = chan at he ⊢
  generalize cp.daemon.receive chan flt = result at he ⊢
  cases he with
  | nothing _ =>
    subst hto
    simpa only [List.append_nil] using h
  | noticed hn hef hs => exact h.noticed hto hn hef hs
  | @answered frm chan req rest hr ha flt =>
    have han := h.head_of_awaited hto hr ha
    simpa only [List.append_nil] using h.answered hto hr ha han flt

theorem Synced.step (e : ControlEvent) : Synced key ses (cp.step net key e) := by
  cases e with
  | reconcile dtb ord => exact h.start dtb ord
  | advance intr => exact h.advance intr
  | daemonReads flt => exact h.read flt
  | serverReads out => exact h.serve out
  | serverSends rid msg =>
    simp only [ControlPlane.step]
    split
    · next hn =>
      refine h.notice ?_
      cases msg <;> first | rfl | cases hn
    · exact h
  | strand e =>
    simp only [ControlPlane.step, h.isolated.own]
    split
    · next hfor => exact h.strand hfor
    · exact h

end Reading

end MiniTun.System
