import MiniTun.System.SessionSync

/-!
# The loops of a reconciliation

`Planned` is the invariant of `reconcile_tunnels`, on top of `Synced`: what is
registered is what the rows say or is about to go, and every active row is still
to be dealt with, served, or left out for a reason.

A binding is only compared by its revision, so this rests on a revision of a
tunnel having one remote binding (`BindingPlan`).
-/

namespace MiniTun.System

open Daemon KeyedMap Pipeline Server Storage TransitionSystem

/-- The remote half of a tunnel's configuration. -/
structure RemoteBinding where
  endpoint : Endpoint
  protocol : TunnelProtocol
deriving DecidableEq

def remoteBinding (row : TunnelRecord) : RemoteBinding :=
  ⟨row.remoteEndpoint, row.protocol⟩

/-- What each revision of each tunnel binds. -/
abbrev BindingPlan := Bytes → Nat → RemoteBinding

def negotiated (capabilities : CapabilitySet) (protocol : TunnelProtocol) : Bool :=
  supportsTunnelMode capabilities (remoteTunnelMode protocol)

/-! ## The invariant -/

section Invariant

variable (capabilities : CapabilitySet) (registered : Map Bytes RegisteredTunnel)
  (localEndpoints : Map Bytes LocalTunnelTarget) (tunnels : List TunnelRecord)

/-- The tunnel is registered, with its local target. -/
structure Served (row : TunnelRecord) : Prop where
  registered : (registered.lookup row.id).isSome
  target : localEndpoints.lookup row.id = some ⟨row.localEndpoint, row.proxyProtocol⟩

/-- Once the stale tunnels are gone: what is registered is current, and every
active row is still to be dealt with, served, or left out for a reason. -/
structure Reconciling (left : List TunnelRecord) (rejected : List Bytes) : Prop where
  current : ∀ tunnelId entry, registered.lookup tunnelId = some entry →
    retained tunnels tunnelId = some entry.configRevision
  accounted : ∀ row ∈ tunnels, row.isActive = true →
    row ∈ left ∨ Served registered localEndpoints row ∨
      registered.lookup row.id = none ∧
        (negotiated capabilities row.protocol = false ∨ row.id ∈ rejected)
  refused : ∀ tunnelId ∈ rejected,
    registered.lookup tunnelId = none ∧ tunnelId ∉ left.map TunnelRecord.id

/-- An active row with a mode that was negotiated. -/
structure Eligible (row : TunnelRecord) : Prop where
  mem : row ∈ tunnels
  active : row.isActive = true
  mode : negotiated capabilities row.protocol = true

end Invariant

/-- The invariant of each loop of a reconciliation of `tunnels`. -/
def PhasePlan (tunnels : List TunnelRecord) (d : ServerSession) : ReconcilePhase → Prop
  | .idle none | .failed _ => True
  | .idle (some last) =>
    last.tunnels = tunnels ∧ Reconciling d.selectedCapabilities d.registered d.localEndpoints
      tunnels [] last.rejected
  | .removing rows stale =>
    rows = tunnels ∧ ∃ waiting : List Bytes, d.awaited.map Prod.snd = waiting.map .removal ∧
      ∀ tunnelId entry, d.registered.lookup tunnelId = some entry →
        retained tunnels tunnelId = some entry.configRevision ∨
          (tunnelId, entry.configRevision) ∈ stale ∨ tunnelId ∈ waiting
  | .refreshing rows left pending =>
    rows = tunnels ∧ (∀ row ∈ left, row ∈ tunnels) ∧
      (∀ row ∈ pending, Eligible d.selectedCapabilities tunnels row) ∧
      Reconciling d.selectedCapabilities d.registered d.localEndpoints tunnels (pending ++ left) []
  | .registering rows left rejected =>
    rows = tunnels ∧ ∃ waiting : List TunnelRecord,
      d.awaited.map Prod.snd = waiting.map .registration ∧
      (∀ row ∈ left ++ waiting, Eligible d.selectedCapabilities tunnels row) ∧
      Reconciling d.selectedCapabilities d.registered d.localEndpoints tunnels (left ++ waiting)
        rejected

/-- Every revision that is under way has its planned binding. -/
structure Planned (plan : BindingPlan) (session : ControlSession) (tunnels : List TunnelRecord)
    (cp : ControlPlane) : Prop where
  endpoints : ∀ tunnelId registered, cp.daemon.registered.lookup tunnelId = some registered →
    registered.remoteEndpoint = (plan tunnelId registered.configRevision).endpoint ∧
      negotiated cp.daemon.selectedCapabilities
        (plan tunnelId registered.configRevision).protocol = true
  modes : ∀ tunnelId b, cp.server.tunnelRegistry.listenerOf session.clientId tunnelId = some b →
    b.mode = remoteTunnelMode (plan tunnelId b.configRevision).protocol
  requested : ∀ requestId row, (requestId, Awaited.registration row) ∈ cp.daemon.awaited →
    remoteBinding row = plan row.id row.configRevision ∧
      negotiated cp.daemon.selectedCapabilities row.protocol = true
  phase : PhasePlan tunnels cp.daemon cp.daemon.phase

variable {plan : BindingPlan} {net : AddressText} {key : SessionKey} {ses : ControlSession}
  {cp : ControlPlane} {tunnels : List TunnelRecord}

/-! ## The rows of a snapshot -/

theorem retained_eq_some_iff (hids : (tunnels.map TunnelRecord.id).Nodup) {tid : Bytes}
    {rev : Nat} : retained tunnels tid = some rev ↔
      ∃ row ∈ tunnels, row.isActive = true ∧ row.id = tid ∧ row.configRevision = rev := by
  unfold retained
  rw [Option.map_eq_some_iff]
  constructor
  · rintro ⟨row, hf, rfl⟩
    have htest := List.find?_some hf
    rw [decide_eq_true_eq] at htest
    exact ⟨row, List.mem_of_find?_eq_some hf, htest.1, htest.2, rfl⟩
  · rintro ⟨row, hmem, hact, rfl, rfl⟩
    cases hf : tunnels.find? fun other => decide (other.isActive ∧ other.id = row.id) with
    | none =>
      have htest := List.find?_eq_none.1 hf row hmem
      simp [hact] at htest
    | some other =>
      have htest := List.find?_some hf
      rw [decide_eq_true_eq] at htest
      have hsa := List.inj_on_of_nodup_map hids (List.mem_of_find?_eq_some hf) hmem htest.2
      exact ⟨other, rfl, by rw [hsa]⟩

section Loops

variable {capabilities : CapabilitySet} {registered : Map Bytes RegisteredTunnel}
  {localEndpoints : Map Bytes LocalTunnelTarget} {left left' : List TunnelRecord}
  {rejected : List Bytes}

theorem Reconciling.of_mem_iff
    (h : Reconciling capabilities registered localEndpoints tunnels left rejected)
    (hl : ∀ row, row ∈ left ↔ row ∈ left') :
    Reconciling capabilities registered localEndpoints tunnels left' rejected where
  current := h.current
  accounted row hmem hact := (h.accounted row hmem hact).imp_left (hl row).1
  refused t ht := by
    obtain ⟨hno, hn⟩ := h.refused t ht
    refine ⟨hno, fun hmem => hn ?_⟩
    obtain ⟨row, hrow, hid⟩ := List.mem_map.1 hmem
    exact List.mem_map.2 ⟨row, (hl row).2 hrow, hid⟩

variable {row : TunnelRecord} {before after : List TunnelRecord}

theorem Reconciling.skip
    (h : Reconciling capabilities registered localEndpoints tunnels (before ++ row :: after)
      rejected) (hrow : row.isActive = true → Served registered localEndpoints row ∨
      registered.lookup row.id = none ∧
        (negotiated capabilities row.protocol = false ∨ row.id ∈ rejected)) :
    Reconciling capabilities registered localEndpoints tunnels (before ++ after) rejected where
  current := h.current
  accounted other hmem hact := by
    rcases h.accounted other hmem hact with hl | hr
    · rw [List.mem_append, List.mem_cons] at hl
      rcases hl with hb | rfl | ha
      · exact .inl (List.mem_append_left _ hb)
      · exact .inr (hrow hact)
      · exact .inl (List.mem_append_right _ ha)
    · exact .inr hr
  refused t ht := by
    obtain ⟨hno, hn⟩ := h.refused t ht
    refine ⟨hno, fun hmem => hn ?_⟩
    exact ((List.sublist_cons_self row after).append_left before |>.map _).subset hmem

theorem Reconciling.setTarget (hids : (tunnels.map TunnelRecord.id).Nodup)
    (h : Reconciling capabilities registered localEndpoints tunnels left rejected)
    (hmem : row ∈ tunnels) :
    Reconciling capabilities registered
      (localEndpoints.insert row.id ⟨row.localEndpoint, row.proxyProtocol⟩) tunnels left
      rejected where
  current := h.current
  refused := h.refused
  accounted other ho hact := by
    rcases h.accounted other ho hact with hl | hsr | hout
    · exact .inl hl
    · refine .inr (.inl ⟨hsr.registered, ?_⟩)
      rw [lookup_insert_eq_ite]
      split
      · next hid => rw [List.inj_on_of_nodup_map hids ho hmem hid]
      · exact hsr.target
    · exact .inr (.inr hout)

theorem Reconciling.register (hids : (tunnels.map TunnelRecord.id).Nodup)
    (h : Reconciling capabilities registered localEndpoints tunnels left rejected)
    (he : Eligible capabilities tunnels row) (hl : row ∈ left) :
    Reconciling capabilities (registered.insert row.id ⟨row.configRevision, row.remoteEndpoint⟩)
      localEndpoints tunnels left rejected where
  current t entry ht := by
    rw [lookup_insert_eq_ite] at ht
    split at ht
    · next hid =>
      cases ht
      exact (retained_eq_some_iff hids).2 ⟨row, he.mem, he.active, hid.symm, rfl⟩
    · exact h.current t entry ht
  accounted other ho hact := by
    by_cases hid : other.id = row.id
    · obtain rfl := List.inj_on_of_nodup_map hids ho he.mem hid
      exact .inl hl
    · rw [lookup_insert_eq_ite, if_neg hid]
      rcases h.accounted other ho hact with hmem | hsr | hout
      · exact .inl hmem
      · refine .inr (.inl ⟨?_, hsr.target⟩)
        rw [lookup_insert_eq_ite, if_neg hid]
        exact hsr.registered
      · exact .inr (.inr hout)
  refused t ht := by
    obtain ⟨hno, hn⟩ := h.refused t ht
    have hne : t ≠ row.id := by
      rintro rfl
      exact hn (List.mem_map_of_mem hl)
    refine ⟨?_, hn⟩
    rw [lookup_insert_eq_ite, if_neg hne]
    exact hno

theorem Reconciling.refuse
    (h : Reconciling capabilities registered localEndpoints tunnels (before ++ row :: after)
      rejected) (hno : registered.lookup row.id = none)
    (hn : row.id ∉ (before ++ after).map TunnelRecord.id) :
    Reconciling capabilities registered localEndpoints tunnels (before ++ after)
      (rejected ++ [row.id]) where
  current := h.current
  accounted other ho hact := by
    rcases h.accounted other ho hact with hl | hsr | ⟨hout, hr⟩
    · rw [List.mem_append, List.mem_cons] at hl
      rcases hl with hb | rfl | ha
      · exact .inl (List.mem_append_left _ hb)
      · exact .inr (.inr ⟨hno, .inr (List.mem_append_right _ List.mem_cons_self)⟩)
      · exact .inl (List.mem_append_right _ ha)
    · exact .inr (.inl hsr)
    · exact .inr (.inr ⟨hout, hr.imp_right (List.mem_append_left _)⟩)
  refused t ht := by
    rcases List.mem_append.1 ht with ht | ht
    · obtain ⟨hno, hl⟩ := h.refused t ht
      refine ⟨hno, fun hmem => hl ?_⟩
      exact ((List.sublist_cons_self row after).append_left before |>.map _).subset hmem
    · rw [List.mem_singleton.1 ht]
      exact ⟨hno, hn⟩

end Loops

/-! ## The steps -/

theorem Planned.setPhase (h : Planned plan ses tunnels cp) {phase : ReconcilePhase}
    (hp : PhasePlan tunnels cp.daemon phase) :
    Planned plan ses tunnels { cp with daemon := { cp.daemon with phase := phase } } :=
  ⟨h.endpoints, h.modes, h.requested, hp⟩

theorem Planned.start (h : Planned plan ses tunnels cp) (hs : Synced key ses cp)
    {dtb : Tunnels} (hrd : listByServer dtb cp.daemon.serverId = tunnels)
    (ord : List Bytes) :
    Planned plan ses tunnels { cp with daemon := cp.daemon.startReconcile (.ok dtb) ord } := by
  have he := cp.daemon.startEffect (.ok dtb) ord
  generalize cp.daemon.startReconcile (.ok dtb) ord = d at he ⊢
  cases he with
  | nothing _ => exact h
  | @started last ord _ hp hord =>
    have hi := hs.workLeft
    rw [hp] at hi
    rw [hrd]
    refine h.setPhase ⟨rfl, [], by rw [List.map_eq_nil_iff.1 hi]; rfl, ?_⟩
    intro t ent ht
    by_cases hr : retained tunnels t = some ent.configRevision
    · exact .inl hr
    · refine .inr (.inl (cp.daemon.mem_staleTunnels.2 ⟨?_, by rw [ht]; rfl, hr⟩))
      rw [hord.mem_iff]
      exact AList.lookup_isSome.1 (by rw [ht]; rfl)

variable {win : List WindowRequest} {next : ReconcilePhase}

theorem PhasePlan.window {d d' : ServerSession} (h : PhasePlan tunnels d d.phase)
    (hwin : NextWindow d.phase win next) (ha : d.awaited = [])
    (hsn : d'.awaited.map Prod.snd = win.map Prod.fst)
    (hf : (d'.selectedCapabilities, d'.registered, d'.localEndpoints) =
      (d.selectedCapabilities, d.registered, d.localEndpoints)) :
    PhasePlan tunnels d' next := by
  simp only [Prod.mk.injEq] at hf
  obtain ⟨hcap, hrg, hl⟩ := hf
  generalize d.phase = phase at h hwin
  cases hwin with
  | removals rows stale =>
    obtain ⟨hr, waiting, hw, hst⟩ := h
    rw [ha] at hw
    obtain rfl := List.map_eq_nil_iff.1 hw.symm
    refine ⟨hr, (stale.take tunnelSyncWindow).map Prod.fst, ?_, ?_⟩
    · rw [hsn, List.map_map, List.map_map]
      rfl
    · intro t ent ht
      rw [hrg] at ht
      rcases hst t ent ht with hrt | hmem | hmem
      · exact .inl hrt
      · rw [← List.take_append_drop tunnelSyncWindow stale, List.mem_append] at hmem
        exact .inr (hmem.symm.imp_right fun hmem => List.mem_map.2 ⟨_, hmem, rfl⟩)
      · cases hmem
  | registrations rows left rej =>
    obtain ⟨hr, waiting, hw, he, hrec⟩ := h
    rw [ha] at hw
    obtain rfl := List.map_eq_nil_iff.1 hw.symm
    rw [List.append_nil] at he hrec
    have hmem : ∀ row, row ∈ left ↔
        row ∈ left.drop tunnelSyncWindow ++ left.take tunnelSyncWindow := by
      intro row
      rw [List.mem_append, or_comm, ← List.mem_append, List.take_append_drop]
    refine ⟨hr, left.take tunnelSyncWindow, ?_, ?_, ?_⟩
    · rw [hsn, List.map_map]
      rfl
    · intro row hrow
      rw [hcap]
      exact he row ((hmem row).2 hrow)
    · rw [hcap, hrg, hl]
      exact hrec.of_mem_iff hmem

theorem PhasePlan.eligible {d : ServerSession} (h : PhasePlan tunnels d d.phase)
    (hwin : NextWindow d.phase win next) {row : TunnelRecord} {msg : ControlMessage}
    (hrow : (.registration row, msg) ∈ win) :
    Eligible d.selectedCapabilities tunnels row := by
  generalize d.phase = phase at h hwin
  cases hwin with
  | removals rows stale =>
    obtain ⟨s, -, heq⟩ := List.mem_map.1 hrow
    cases heq
  | registrations rows left rej =>
    obtain ⟨-, waiting, -, he, -⟩ := h
    obtain ⟨row', hmem, heq⟩ := List.mem_map.1 hrow
    cases heq
    exact he row (List.mem_append_left _ (List.mem_of_mem_take hmem))

theorem Planned.sent (h : Planned plan ses tunnels cp)
    (hplan : ∀ row ∈ tunnels, remoteBinding row = plan row.id row.configRevision)
    (ha : cp.daemon.awaited = []) (hwin : NextWindow cp.daemon.phase win next)
    (intr : Option Interruption) :
    Planned plan ses tunnels { cp with
        daemon := (cp.daemon.sendWindow win next intr).1
        toServer := cp.toServer ++ (cp.daemon.sendWindow win next intr).2 } where
  endpoints := h.endpoints
  modes := h.modes
  requested requestId row hmem := by
    obtain ⟨⟨awaited, msg⟩, hreq, rfl⟩ := cp.daemon.mem_awaited_sendWindow hmem
    have he := h.phase.eligible hwin hreq
    exact ⟨hplan row he.mem, he.mode⟩
  phase := by
    cases intr with
    | none => exact h.phase.window hwin ha (cp.daemon.awaited_sendWindow _ _) rfl
    | some i => trivial

theorem Planned.advance (h : Planned plan ses tunnels cp)
    (hids : (tunnels.map TunnelRecord.id).Nodup)
    (hplan : ∀ row ∈ tunnels, remoteBinding row = plan row.id row.configRevision)
    (intr : Option Interruption) :
    Planned plan ses tunnels { cp with
        daemon := (cp.daemon.advance intr).1
        toServer := cp.toServer ++ (cp.daemon.advance intr).2 } := by
  have he := cp.daemon.advanceEffect intr
  have hp := h.phase
  generalize cp.daemon.advance intr = result at he ⊢
  cases he with
  | nothing => exact ⟨h.endpoints, h.modes, h.requested, h.phase⟩
  | failed err => exact ⟨h.endpoints, h.modes, h.requested, trivial⟩
  | @purged rows ha hph =>
    rw [hph] at hp
    obtain ⟨rfl, waiting, hw, hst⟩ := hp
    rw [ha] at hw
    obtain rfl := List.map_eq_nil_iff.1 hw.symm
    refine ⟨h.endpoints, h.modes, h.requested, ?_⟩
    refine ⟨rfl, fun _ hrow => hrow, List.forall_mem_nil _, ?_, ?_, List.forall_mem_nil _⟩
    · intro t ent ht
      rcases hst t ent ht with hr | hmem | hmem
      · exact hr
      · cases hmem
      · cases hmem
    · intro row hrow _
      exact .inl hrow
  | @skipped rows left ps row ha hph hskip =>
    rw [hph] at hp
    obtain ⟨rfl, hl, hpe, hrec⟩ := hp
    refine ⟨h.endpoints, h.modes, h.requested, ?_⟩
    refine ⟨rfl, fun _ hrow => hl _ (.tail _ hrow), hpe, hrec.skip fun hact => ?_⟩
    obtain ⟨hno, hm⟩ := hskip hact
    exact .inr ⟨hno, .inl hm⟩
  | @refreshed rows left ps row phase ha hph hact hrg hn =>
    rw [hph] at hp
    obtain ⟨rfl, hl, hpe, hrec⟩ := hp
    refine ⟨h.endpoints, h.modes, h.requested, ?_⟩
    cases hn with
    | failed err => trivial
    | reached =>
      have hset := hrec.setTarget hids (hl row List.mem_cons_self)
      exact ⟨rfl, fun _ hrow => hl _ (.tail _ hrow), hpe,
        hset.skip fun _ => .inl ⟨hrg, AList.lookup_insert _⟩⟩
  | @collected rows left ps row ha hph hact hrg hm =>
    rw [hph] at hp
    obtain ⟨rfl, hl, hpe, hrec⟩ := hp
    refine ⟨h.endpoints, h.modes, h.requested, ?_⟩
    refine ⟨rfl, fun _ hrow => hl _ (.tail _ hrow), ?_, hrec.of_mem_iff fun _ => by simp⟩
    intro other ho
    rcases List.mem_append.1 ho with hmem | hmem
    · exact hpe other hmem
    · rw [List.mem_singleton.1 hmem]
      exact ⟨hl row List.mem_cons_self, hact, hm⟩
  | @allCollected rows ps ha hph =>
    rw [hph] at hp
    obtain ⟨rfl, -, hpe, hrec⟩ := hp
    refine ⟨h.endpoints, h.modes, h.requested, ?_⟩
    refine ⟨rfl, [], ?_, ?_, hrec⟩
    · simp only [ha, List.map_nil]
    · rw [List.append_nil]
      exact hpe
  | @sent win next ha hwin intr => exact h.sent hplan ha hwin _
  | @finished rows rej ha hph =>
    rw [hph] at hp
    obtain ⟨rfl, waiting, hw, -, hrec⟩ := hp
    rw [ha] at hw
    obtain rfl := List.map_eq_nil_iff.1 hw.symm
    refine ⟨h.endpoints, h.modes, h.requested, ?_⟩
    refine ⟨rfl, hrec.current, ?_, hrec.refused⟩
    intro row hrow hact
    rcases hrec.accounted row hrow hact with hmem | hsr | hout
    · cases hmem
    · refine .inr (.inl ⟨hsr.registered, ?_⟩)
      have hr := (retained_eq_some_iff hids).2 ⟨row, hrow, hact, rfl, rfl⟩
      refine (lookup_retainKeys _ _ _).trans ?_
      rw [hr]
      exact hsr.target
    · exact .inr (.inr hout)

theorem PhasePlan.orFailed {d : ServerSession} {phase phase' : ReconcilePhase}
    (hn : OrFailed phase phase') (h : PhasePlan tunnels d phase) :
    PhasePlan tunnels d phase' := by
  cases hn with
  | reached => exact h
  | failed _ => trivial

section Answered

variable {d : ServerSession} {rid : Nat} {rest : List (Nat × Awaited)}
  {phase : ReconcilePhase}

theorem PhasePlan.removed {tid : Bytes} (h : PhasePlan tunnels d d.phase)
    (hwo : WorkLeft (awaitedIds d.awaited) d.registered d.phase)
    (ha : d.awaited = (rid, .removal tid) :: rest) :
    PhasePlan tunnels { d with
        registered := d.registered.erase tid
        localEndpoints := d.localEndpoints.erase tid
        awaited := rest
        phase := phase } d.phase := by
  rw [ha] at hwo
  generalize d.phase = current at h hwo
  cases current with
  | idle _ => cases hwo
  | failed _ => trivial
  | refreshing _ _ _ => cases hwo.1
  | removing rows stale =>
    obtain ⟨hrs, waiting, hw, hst⟩ := h
    rw [ha] at hw
    obtain ⟨t, waiting, rfl, ht, hr⟩ := List.map_eq_cons_iff.1 hw.symm
    cases ht
    refine ⟨hrs, waiting, hr.symm, ?_⟩
    intro t ent ht
    simp only [lookup_erase_eq_ite] at ht
    split at ht
    · cases ht
    · next hne =>
      refine (hst t ent ht).imp_right (Or.imp_right fun hmem => ?_)
      exact (List.mem_cons.1 hmem).resolve_left hne
  | registering rows left rej =>
    obtain ⟨-, waiting, hw, -⟩ := h
    rw [ha] at hw
    obtain ⟨row, _, -, hrow, -⟩ := List.map_eq_cons_iff.1 hw.symm
    cases hrow

variable {row : TunnelRecord}

theorem PhasePlan.registering_of_awaited (h : PhasePlan tunnels d d.phase)
    (hwo : WorkLeft (awaitedIds d.awaited) d.registered d.phase)
    (ha : d.awaited = (rid, .registration row) :: rest) :
    (∃ err, d.phase = .failed err) ∨
    ∃ left rejected waiting, d.phase = .registering tunnels left rejected ∧
      rest.map Prod.snd = waiting.map .registration ∧
      (∀ other ∈ left ++ row :: waiting, Eligible d.selectedCapabilities tunnels other) ∧
      Reconciling d.selectedCapabilities d.registered d.localEndpoints tunnels
        (left ++ row :: waiting) rejected := by
  rw [ha] at hwo
  generalize d.phase = current at h hwo
  cases current with
  | idle _ => cases hwo
  | failed err => exact .inl ⟨err, rfl⟩
  | refreshing _ _ _ => cases hwo.1
  | removing rows stale =>
    obtain ⟨-, waiting, hw, -⟩ := h
    rw [ha] at hw
    obtain ⟨t, _, -, ht, -⟩ := List.map_eq_cons_iff.1 hw.symm
    cases ht
  | registering rows left rejected =>
    obtain ⟨rfl, waiting, hw, he, hrec⟩ := h
    rw [ha] at hw
    obtain ⟨row', waiting, rfl, hrow, hr⟩ := List.map_eq_cons_iff.1 hw.symm
    cases hrow
    exact .inr ⟨left, rejected, waiting, rfl, hr.symm, he, hrec⟩

theorem mem_append_of_mem_skip {α : Type*} {before after : List α} {a b : α}
    (h : b ∈ before ++ after) : b ∈ before ++ a :: after :=
  ((List.sublist_cons_self a after).append_left before).subset h

theorem PhasePlan.accepted (hids : (tunnels.map TunnelRecord.id).Nodup)
    (h : PhasePlan tunnels d d.phase) (hw : WorkLeft (awaitedIds d.awaited) d.registered d.phase)
    (ha : d.awaited = (rid, .registration row) :: rest) :
    PhasePlan tunnels { d with
        registered := d.registered.insert row.id ⟨row.configRevision, row.remoteEndpoint⟩
        localEndpoints := d.localEndpoints.insert row.id ⟨row.localEndpoint, row.proxyProtocol⟩
        awaited := rest
        phase := phase } d.phase := by
  rcases h.registering_of_awaited hw ha with
    ⟨error, hp⟩ | ⟨left, rejected, waiting, hp, hr, he, hrec⟩
  · rw [hp]
    trivial
  · rw [hp]
    have hmem : row ∈ left ++ row :: waiting := List.mem_append_right _ List.mem_cons_self
    have hrow := he row hmem
    have hrg := (hrec.register hids hrow hmem).setTarget hids hrow.mem
    refine ⟨rfl, waiting, hr, fun other ho => he other (mem_append_of_mem_skip ho),
      hrg.skip fun _ => .inl ⟨?_, AList.lookup_insert _⟩⟩
    rw [AList.lookup_insert]
    rfl

theorem PhasePlan.rejected (h : PhasePlan tunnels d d.phase)
    (hw : WorkLeft (awaitedIds d.awaited) d.registered d.phase)
    (ha : d.awaited = (rid, .registration row) :: rest) (hno : d.registered.lookup row.id = none) :
    PhasePlan tunnels { d with awaited := rest, phase := phase }
      (noteRejection row.id d.phase) := by
  rcases h.registering_of_awaited hw ha with
    ⟨error, hp⟩ | ⟨left, rejected, waiting, hp, hr, he, hrec⟩
  · rw [hp]
    trivial
  · rw [hp, ha] at hw
    rw [hp]
    have hnm : row.id ∉ (left ++ waiting).map TunnelRecord.id := by
      have hids : awaitedIds rest = waiting.map TunnelRecord.id := by
        have h := congrArg (List.map Awaited.tunnelId) hr
        rw [List.map_map, List.map_map] at h
        exact h
      have hn := List.nodup_middle.1 hw.1
      change (row.id :: (left.map TunnelRecord.id ++ awaitedIds rest)).Nodup at hn
      rw [hids, ← List.map_append] at hn
      exact (List.nodup_cons.1 hn).1
    exact ⟨rfl, waiting, hr, fun other ho => he other (mem_append_of_mem_skip ho),
      hrec.refuse hno hnm⟩

end Answered

section Steps

variable (h : Planned plan ses tunnels cp)
include h

theorem Planned.noticed {d : ServerSession} (he : NoticeEffect cp.daemon d)
    (toServer toDaemon : List ControlFrame) :
    Planned plan ses tunnels
      { cp with daemon := d, toServer := toServer, toDaemon := toDaemon } := by
  cases he with
  | nothing => exact ⟨h.endpoints, h.modes, h.requested, h.phase⟩
  | failed _ | dropped _ _ => exact ⟨h.endpoints, h.modes, h.requested, trivial⟩

variable (hs : Synced key ses cp)
include hs

theorem Planned.answered (hids : (tunnels.map TunnelRecord.id).Nodup) {frm : ControlFrame}
    {req : Awaited} {rest : List (Nat × Awaited)}
    (ha : cp.daemon.awaited = (frm.requestId, req) :: rest)
    (han : Answers ses (cp.view ses.clientId) (frm.requestId, req) frm)
    (flt : Option Error) (toServer toDaemon : List ControlFrame) :
    Planned plan ses tunnels { cp with
        daemon := cp.daemon.handleResponse req rest frm.message flt
        toServer := toServer
        toDaemon := toDaemon } := by
  have hreq : ∀ rid row, (rid, Awaited.registration row) ∈ rest →
      remoteBinding row = plan row.id row.configRevision ∧
        negotiated cp.daemon.selectedCapabilities row.protocol = true := by
    intro rid row hrow
    refine h.requested rid row ?_
    rw [ha]
    exact List.mem_cons_of_mem _ hrow
  obtain ⟨rid, msg⟩ := frm
  cases han with
  | @removed _ tid regd hv =>
    obtain ⟨hr, -⟩ := Prod.mk.inj hv
    obtain ⟨phase, hn, heq⟩ := cp.daemon.handleResponse_removed hr rest flt
    rw [heq]
    refine ⟨?_, h.modes, hreq, .orFailed hn (h.phase.removed hs.workLeft ha)⟩
    intro t ent ht
    simp only [lookup_erase_eq_ite] at ht
    split at ht
    · cases ht
    · exact h.endpoints t ent ht
  | @accepted _ row hv =>
    obtain ⟨phase, hn, heq⟩ := cp.daemon.handleResponse_accepted row rest flt
    rw [heq]
    refine ⟨?_, h.modes, hreq, .orFailed hn (h.phase.accepted hids hs.workLeft ha)⟩
    intro t ent ht
    simp only [lookup_insert_eq_ite] at ht
    split at ht
    · next hid =>
      cases ht
      obtain ⟨hb, hm⟩ := h.requested rid row (by rw [ha]; exact .head _)
      rw [hid, ← hb]
      exact ⟨rfl, hm⟩
    · exact h.endpoints t ent ht
  | @rejected _ row code hv =>
    obtain ⟨hno, -⟩ := Prod.mk.inj hv
    obtain ⟨phase, hn, heq⟩ := cp.daemon.handleResponse_rejected row code rest flt
    rw [heq]
    exact ⟨h.endpoints, h.modes, hreq, .orFailed hn (h.phase.rejected hs.workLeft ha hno)⟩

theorem Planned.read (hids : (tunnels.map TunnelRecord.id).Nodup) (flt : Option Error) :
    Planned plan ses tunnels { cp with
        daemon := (cp.daemon.receive cp.toDaemon flt).1
        toServer := cp.toServer ++ (cp.daemon.receive cp.toDaemon flt).2.1
        toDaemon := (cp.daemon.receive cp.toDaemon flt).2.2 } := by
  have he := hs.readEffect flt
  generalize hto : cp.toDaemon = chan at he ⊢
  generalize cp.daemon.receive chan flt = result at he ⊢
  cases he with
  | nothing _ => exact ⟨h.endpoints, h.modes, h.requested, h.phase⟩
  | noticed _ hef _ => exact h.noticed hef _ _
  | @answered frm chan req rest hr ha flt =>
    have han := hs.head_of_awaited hto hr ha
    exact h.answered hs hids ha han flt _ _

theorem Planned.serve (out : ListenOutcome) :
    Planned plan ses tunnels (cp.serve net key out) := by
  refine ⟨?_, ?_, ?_, ?_⟩
  · rw [ControlPlane.daemon_serve]
    exact h.endpoints
  · intro t b hb
    rcases hs.listenerOf_serve hb with hold | ⟨rid, row, hmem, rfl, rfl⟩
    · exact h.modes t b hold
    · obtain ⟨hbn, -⟩ := h.requested rid row hmem
      change remoteTunnelMode row.protocol =
        remoteTunnelMode (plan row.id row.configRevision).protocol
      rw [← hbn]
      rfl
  · rw [ControlPlane.daemon_serve]
    exact h.requested
  · rw [ControlPlane.daemon_serve]
    exact h.phase

theorem Planned.strand {e : Server.Event} (hfor : foreign key ses.clientId e = true) :
    Planned plan ses tunnels { cp with server := Server.step net cp.server e } := by
  refine ⟨h.endpoints, ?_, h.requested, h.phase⟩
  intro t b hb
  rw [listenerOf_foreign hs.isolated hfor] at hb
  exact h.modes t b hb

theorem Planned.step (hids : (tunnels.map TunnelRecord.id).Nodup)
    (hplan : ∀ row ∈ tunnels, remoteBinding row = plan row.id row.configRevision)
    {e : ControlEvent} (he : e.isReconcile = false) :
    Planned plan ses tunnels (cp.step net key e) := by
  cases e with
  | reconcile dtb ord => cases he
  | advance intr => exact h.advance hids hplan intr
  | daemonReads flt => exact h.read hs hids flt
  | serverReads out => exact h.serve hs out
  | serverSends rid msg =>
    simp only [ControlPlane.step]
    split
    · exact ⟨h.endpoints, h.modes, h.requested, h.phase⟩
    · exact h
  | strand e =>
    simp only [ControlPlane.step, hs.isolated.own]
    split
    · next hfor => exact h.strand hs hfor
    · exact h

end Steps

end MiniTun.System
