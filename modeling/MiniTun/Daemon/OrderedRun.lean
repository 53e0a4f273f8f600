import MiniTun.Daemon.OrderedResponses

/-!
# The ordered run

What holds in every state of the run whose answers come in order, and that it ends.
A call fails there only with an error of its surroundings.
-/

namespace MiniTun.Daemon

open KeyedMap Storage StutteringSimulation

/-- The requests that are still open, as the loops remember them and as they were
written. -/
inductive Paired (registered : Map Bytes RegisteredTunnel) :
    ReconcilePhase → List (Nat × Awaited) → List ControlFrame → Prop where
  | idle (last : Option Reconciled) : Paired registered (.idle last) [] []
  | removing (tunnels : List TunnelRecord) (stale : List (Bytes × Nat))
      (current : List (Nat × Bytes × Nat))
      (hids : ((current.map Prod.snd ++ stale).map Prod.fst).Nodup)
      (hregistered : ∀ s ∈ current.map Prod.snd ++ stale,
        (registered.lookup s.1).map RegisteredTunnel.configRevision = some s.2) :
      Paired registered (.removing tunnels stale)
        (current.map fun c => (c.1, .removal c.2.1))
        (current.map fun c => ⟨c.1, .unregisterTunnel c.2.1 c.2.2⟩)
  | refreshing (tunnels rows pending : List TunnelRecord) :
      Paired registered (.refreshing tunnels rows pending) [] []
  | registering (tunnels rows : List TunnelRecord) (rejected : List Bytes)
      (current : List (Nat × TunnelRecord)) :
      Paired registered (.registering tunnels rows rejected)
        (current.map fun c => (c.1, .registration c.2))
        (current.map fun c => ⟨c.1, .registerTunnel (registerMessage c.2)⟩)

/-- What a call has left to do, in steps. -/
def ReconcilePhase.left : ReconcilePhase → Nat
  | .removing tunnels stale => 2 * stale.length + 3 * tunnels.length + 3
  | .refreshing _ rows pending => 3 * rows.length + 2 * pending.length + 2
  | .registering _ rows _ => 2 * rows.length + 1
  | _ => 0

theorem ReconcilePhase.idle_or_failed_or_running (phase : ReconcilePhase) :
    (∃ last, phase = .idle last) ∨ (∃ err, phase = .failed err) ∨ phase.left ≠ 0 := by
  cases phase with
  | idle last => exact .inl ⟨last, rfl⟩
  | failed err => exact .inr (.inl ⟨err, rfl⟩)
  | _ => exact .inr (.inr (Nat.succ_ne_zero _))

namespace Paired

variable {regd : Map Bytes RegisteredTunnel} {phase : ReconcilePhase}
  {awaited : List (Nat × Awaited)} {reqs : List ControlFrame}

theorem not_failed (h : Paired regd phase awaited reqs) : phase.isFailed = false := by
  cases h <;> rfl

theorem requestIds (h : Paired regd phase awaited reqs) :
    reqs.map ControlFrame.requestId = awaited.map Prod.fst := by
  cases h with
  | idle => rfl
  | removing => simp only [List.map_map]; rfl
  | refreshing => rfl
  | registering => simp only [List.map_map]; rfl

theorem of_idle {last : Option Reconciled} (h : Paired regd (.idle last) awaited reqs) :
    awaited = [] ∧ reqs = [] := by
  cases h
  exact ⟨rfl, rfl⟩

theorem requests_nil (h : Paired regd phase [] reqs) : reqs = [] :=
  List.map_eq_nil_iff.1 (h.requestIds)

theorem isRequest (h : Paired regd phase awaited reqs) :
    ∀ req ∈ reqs, req.isRequest = true := by
  intro req hmem
  cases h with
  | idle => cases hmem
  | refreshing => cases hmem
  | removing =>
    obtain ⟨c, -, rfl⟩ := List.mem_map.1 hmem
    rfl
  | registering =>
    obtain ⟨c, -, rfl⟩ := List.mem_map.1 hmem
    rfl

end Paired

namespace Reconciling

/-- The run as long as nothing has failed. -/
structure InStep (reply : Reply) (m : Reconciling) : Prop where
  paired : Paired m.session.registered m.session.phase m.session.awaited
    (m.sent.drop m.answered.length)
  ids : (m.session.awaited.map Prod.fst).Nodup
  window : m.session.awaited.length ≤ tunnelSyncWindow
  nonzero : ∀ a ∈ m.session.awaited, a.1 ≠ 0
  next : m.session.nextRequestId ≠ 0
  channel : m.channel = m.unread reply
  parked : m.session.bufferedResponses = ∅
  outcomes : ∀ outcome ∈ m.outcomes, outcome.result = .ok ()
  answers : replies reply 0 m.sent = m.answered ++ m.unread reply
  fault : m.fault = none
  requests : ∀ request ∈ m.sent, request.isRequest = true ∧ request.requestId ≠ 0

/-- The run once something outside the session has failed. -/
structure Interrupted (reply : Reply) (m : Reconciling) : Prop where
  failed : ∃ error, m.session.phase = .failed error ∧ m.fault = some error
  answers : m.answered <+: replies reply 0 m.sent

section Tick

variable (w : Surroundings) (deliver : Deliver) {m : Reconciling}

theorem tick_of_done (h : m.done = true) : m.tick w deliver = m := by
  unfold done at h
  unfold tick
  split at h
  · next hp => rw [hp]
  · next hp =>
    rw [decide_eq_true_eq] at h
    simp [hp, due, h.1, h.2]
  · cases h

variable {last : Option Reconciled} (hidle : m.session.phase = .idle last)

include hidle

theorem tick_of_due (hdue : m.due w = true) : m.tick w deliver = m.begin w := by
  unfold tick
  rw [hidle]
  exact if_pos hdue

theorem tick_of_idle (hcalls : m.calls ≠ 0) (hchannel : m.channel = []) :
    m.tick w deliver = m.begin w :=
  tick_of_due w deliver hidle (by simp [due, hcalls, hchannel])

theorem tick_of_between (hdue : ¬m.due w = true) {frame : ControlFrame}
    {channel : List ControlFrame} (hchannel : m.channel = frame :: channel) :
    m.tick w deliver = m.readBetween w frame channel := by
  unfold tick
  rw [hidle]
  simp only [if_neg hdue, hchannel]

/-- A notice between two calls is taken out of the channel, and may start the next call. -/
theorem readBetween_of_notice {frame : ControlFrame} (hnotice : frame.isNotice = true)
    (channel : List ControlFrame) :
    m.readBetween w frame channel = if frame.isPing ∧ m.calls ≠ 0 then
      ({ m with channel := channel } : Reconciling).begin w else { m with channel := channel } := by
  have hsession : (m.session.readIdle frame none).1 = m.session := by
    obtain ⟨_, message⟩ := frame
    cases message <;> first | rfl | cases hnotice
  have hrunning : m.session.phase.isFailed = false := by
    rw [hidle]
    rfl
  simp only [readBetween, hsession, hrunning, Bool.false_eq_true, if_false]

omit hidle

theorem tick_of_ready (hl : m.session.phase.left ≠ 0) (ha : m.session.awaited = []) :
    m.tick w deliver = m.proceed w deliver := by
  unfold tick
  rw [ha]
  generalize m.session.phase = phase at hl
  cases phase <;> first | rfl | exact absurd rfl hl

theorem tick_of_awaiting (hl : m.session.phase.left ≠ 0) {a : Nat × Awaited}
    {rest : List (Nat × Awaited)} (ha : m.session.awaited = a :: rest) :
    m.tick w deliver = m.read w := by
  unfold tick
  rw [ha]
  generalize m.session.phase = phase at hl
  cases phase <;> first | rfl | exact absurd rfl hl

end Tick

variable {w : Surroundings} {reply : Reply} {m : Reconciling}

theorem settle_of_running (h : m.session.phase.left ≠ 0) : m.settle = m := by
  unfold Reconciling.settle
  generalize m.session.phase = phase at h
  cases phase <;> first | rfl | exact absurd rfl h

theorem InStep.settle (h : m.InStep reply) : m.settle.InStep reply := by
  have hp := h.paired.not_failed
  unfold Reconciling.settle
  split
  · refine { h with outcomes := ?_ }
    intro out hmem
    rcases List.mem_append.1 hmem with hmem | hmem
    · exact h.outcomes out hmem
    · rw [List.mem_singleton.1 hmem]
  · next herr => rw [herr] at hp; cases hp
  · exact h

variable {err : Error} {d : ServerSession}

theorem interrupted_settle (hp : m.session.phase = .failed err) (hflt : m.fault = some err)
    (ha : m.answered <+: replies reply 0 m.sent) : m.settle.Interrupted reply := by
  obtain ⟨outcomes, heq⟩ := m.settle_eq
  rw [heq]
  exact ⟨⟨err, hp, hflt⟩, ha⟩

theorem InStep.answered_le (h : m.InStep reply) : m.answered.length ≤ m.sent.length := by
  have hlen := congrArg List.length h.answers
  rw [length_replies, List.length_append] at hlen
  omega

theorem InStep.taken (h : m.InStep reply) : m.answered <+: replies reply 0 m.sent :=
  ⟨_, h.answers.symm⟩

/-! ## Starting a call -/

theorem begin_ordered (h : m.InStep reply) {last : Option Reconciled}
    (hp : m.session.phase = .idle last) :
    (m.begin w).InStep reply ∨ (m.begin w).Interrupted reply := by
  have hpr := h.paired
  rw [hp] at hpr
  obtain ⟨ha, hsn⟩ := hpr.of_idle
  cases hd : (w.listTunnels m.persistence).1 with
  | error err =>
    simp only [Reconciling.begin, hd]
    refine .inr (interrupted_settle ?_ rfl h.taken)
    simp only [ServerSession.startReconcile, hp]
    rfl
  | ok tns =>
    have hord := w.traversal_perm m.outcomes.length m.session.registered.keys
    simp only [Reconciling.begin, hd, ServerSession.startReconcile, hp, if_pos hord]
    refine .inl (InStep.settle { h with paired := ?_, fault := rfl })
    simp only [ha, hsn]
    refine .removing _ _ [] ?_ ?_
    · exact (m.session.ids_staleTunnels_sublist _ _).nodup
        (hord.nodup_iff.2 m.session.registered.keys_nodup)
    · intro s hs
      exact (m.session.mem_staleTunnels.1 hs).2.1

/-! ## Going on -/

/-- A row for which something is written fails with what is written. -/
theorem refreshRow_of_fault {row : TunnelRecord} {p : Persistence}
    (hrec : (w.recordRow d row p).1 = some err) (tns rows ps : List TunnelRecord) :
    (d.refreshRow tns rows ps row (some err)).phase = .failed err := by
  unfold Surroundings.recordRow at hrec
  unfold ServerSession.refreshRow
  split at hrec
  · cases hrec
  · next hact =>
    rw [if_neg hact]
    split at hrec
    · next hr =>
      rw [if_pos hr]
      split at hrec
      · next hs =>
        rw [if_pos hs]
        rfl
      · cases hrec
    · next hr =>
      rw [if_neg hr]
      split at hrec
      · next hm =>
        rw [if_pos hm]
        split at hrec
        · next hs =>
          rw [if_pos hs]
          rfl
        · cases hrec
      · cases hrec

theorem advance_of_fault {p : Persistence} (ha : d.awaited = [])
    (hrec : (w.recordAdvance d p).1 = some err) :
    (d.advance (some ⟨err, 0⟩)).1.phase = .failed err ∧
      (d.advance (some ⟨err, 0⟩)).2 = [] := by
  unfold Surroundings.recordAdvance at hrec
  unfold ServerSession.advance
  rw [ha]
  cases hp : d.phase with
  | idle last => simp [hp] at hrec
  | failed e => simp [hp] at hrec
  | removing tns stale =>
    cases stale with
    | nil => exact ⟨rfl, rfl⟩
    | cons s stale => exact ⟨rfl, rfl⟩
  | refreshing tns rows ps =>
    cases rows with
    | nil => simp [hp] at hrec
    | cons row rows =>
      rw [hp] at hrec
      exact ⟨refreshRow_of_fault hrec tns rows ps, rfl⟩
  | registering tns rows rej =>
    cases rows with
    | nil => simp [hp, Surroundings.untilFault] at hrec
    | cons row rows => exact ⟨rfl, rfl⟩

theorem sendWindow_none (d : ServerSession) (win : List WindowRequest) (next : ReconcilePhase) :
    d.sendWindow win next none =
      ({ d with
          nextRequestId := Nat.repeat requestIdAfter win.length d.nextRequestId
          phase := next
          awaited := (numberRequests d.nextRequestId win).map fun r => (r.1, r.2.1) },
        (numberRequests d.nextRequestId win).map fun r => ⟨r.1, r.2.2⟩) :=
  rfl

/-- The state of a session that has gone on, before the outcome of a call that ends is
noted. -/
def advanced (session : ServerSession) (persistence : Persistence) (requests : List ControlFrame)
    (reply : Reply) (m : Reconciling) : Reconciling :=
  { m with
    session := session
    persistence := persistence
    channel := m.channel ++ inOrder reply m.sent requests
    sent := m.sent ++ requests
    fault := none }

theorem inStep_advanced (h : m.InStep reply) (haw : m.session.awaited = [])
    {ses : ServerSession} (p : Persistence) {reqs : List ControlFrame}
    (hp : Paired ses.registered ses.phase ses.awaited reqs)
    (hids : (ses.awaited.map Prod.fst).Nodup)
    (hwin : ses.awaited.length ≤ tunnelSyncWindow)
    (hnon : ∀ a ∈ ses.awaited, a.1 ≠ 0) (hn : ses.nextRequestId ≠ 0)
    (hpk : ses.bufferedResponses = ∅) :
    (m.advanced ses p reqs reply).InStep reply := by
  have hle := h.answered_le
  have hop : m.sent.drop m.answered.length = [] := by
    have hold := h.paired
    rw [haw] at hold
    exact hold.requests_nil
  have hu : (m.advanced ses p reqs reply).unread reply =
      m.unread reply ++ replies reply m.sent.length reqs := m.unread_append reply reqs hle
  refine ⟨?_, hids, hwin, hnon, hn, ?_, hpk, h.outcomes, ?_, rfl, ?_⟩
  · have hdrop : (m.sent ++ reqs).drop m.answered.length = reqs := by
      rw [List.drop_append_of_le_length hle, hop, List.nil_append]
    exact hdrop.symm ▸ hp
  · rw [hu, ← h.channel]
    rfl
  · rw [hu, ← List.append_assoc]
    change replies reply 0 (m.sent ++ reqs) = m.answered ++ m.unread reply ++ _
    rw [replies_append, h.answers, Nat.zero_add]
  · intro req hmem
    rcases List.mem_append.1 hmem with hmem | hmem
    · exact h.requests req hmem
    · refine ⟨hp.isRequest req hmem, ?_⟩
      have hid : req.requestId ∈ ses.awaited.map Prod.fst := by
        rw [← hp.requestIds]
        exact List.mem_map_of_mem hmem
      obtain ⟨a, ha, heq⟩ := List.mem_map.1 hid
      exact heq ▸ hnon a ha

theorem inStep_moved (h : m.InStep reply) (haw : m.session.awaited = [])
    (p : Persistence) {ses : ServerSession} (hno : ses.awaited = [])
    (hn : ses.nextRequestId = m.session.nextRequestId)
    (hpk : ses.bufferedResponses = m.session.bufferedResponses)
    (hp : Paired ses.registered ses.phase [] []) :
    (m.advanced ses p [] reply).InStep reply := by
  refine inStep_advanced h haw p (hno ▸ hp) ?_ ?_ ?_ ?_ ?_
  · rw [hno]
    exact List.nodup_nil
  · rw [hno]
    exact Nat.zero_le _
  · intro a ha
    rw [hno] at ha
    cases ha
  · rw [hn]
    exact h.next
  · rw [hpk]
    exact h.parked

theorem inStep_sent (h : m.InStep reply) (haw : m.session.awaited = [])
    (p : Persistence) {win : List WindowRequest} {next : ReconcilePhase}
    (hlen : win.length ≤ tunnelSyncWindow)
    (hp : Paired m.session.registered next (m.session.sendWindow win next none).1.awaited
      (m.session.sendWindow win next none).2) :
    (m.advanced (m.session.sendWindow win next none).1 p
      (m.session.sendWindow win next none).2 reply).InStep reply := by
  have hids : (m.session.sendWindow win next none).1.awaited.map Prod.fst =
      (numberRequests m.session.nextRequestId win).map Prod.fst := by
    rw [sendWindow_none, List.map_map]
    rfl
  refine inStep_advanced h haw p hp ?_ ?_ ?_ (repeat_requestIdAfter_ne_zero h.next _) h.parked
  · rw [hids]
    exact nodup_numberRequests _ hlen
  · rw [← List.length_map Prod.fst, hids, List.length_map, length_numberRequests]
    exact hlen
  · intro a ha
    obtain ⟨r, hr, rfl⟩ := List.mem_map.1 ha
    change r.1 ≠ 0
    exact ne_zero_of_mem_numberRequests h.next hr

theorem length_window_le {α β : Type*} (f : α → β) (l : List α) :
    ((l.take tunnelSyncWindow).map f).length ≤ tunnelSyncWindow := by
  rw [List.length_map, List.length_take]
  exact Nat.min_le_left _ _

theorem paired_removals {tns : List TunnelRecord} {stale : List (Bytes × Nat)}
    (hids : (stale.map Prod.fst).Nodup)
    (hr : ∀ s ∈ stale,
      (d.registered.lookup s.1).map RegisteredTunnel.configRevision = some s.2) :
    Paired d.registered (.removing tns (stale.drop tunnelSyncWindow))
      (d.sendWindow ((stale.take tunnelSyncWindow).map removalRequest)
        (.removing tns (stale.drop tunnelSyncWindow)) none).1.awaited
      (d.sendWindow ((stale.take tunnelSyncWindow).map removalRequest)
        (.removing tns (stale.drop tunnelSyncWindow)) none).2 := by
  have hall : (numberRequests d.nextRequestId (stale.take tunnelSyncWindow)).map Prod.snd ++
      stale.drop tunnelSyncWindow = stale := by
    rw [map_snd_numberRequests, List.take_append_drop]
  simp only [sendWindow_none, numberRequests_map, List.map_map]
  exact .removing tns _ (numberRequests d.nextRequestId (stale.take tunnelSyncWindow))
    (by rwa [hall]) (by rwa [hall])

theorem paired_registrations (d : ServerSession) (tns next win : List TunnelRecord)
    (rej : List Bytes) :
    Paired d.registered (.registering tns next rej)
      (d.sendWindow (win.map registrationRequest) (.registering tns next rej) none).1.awaited
      (d.sendWindow (win.map registrationRequest) (.registering tns next rej) none).2 := by
  simp only [sendWindow_none, numberRequests_map, List.map_map]
  exact .registering tns _ rej (numberRequests d.nextRequestId win)

theorem refreshRow_none (d : ServerSession) (tns rows ps : List TunnelRecord)
    (row : TunnelRecord) :
    ∃ locals more, more.length ≤ 1 ∧ d.refreshRow tns rows ps row none =
      { d with
        localEndpoints := locals
        phase := .refreshing tns rows (ps ++ more) } := by
  unfold ServerSession.refreshRow
  simp only [ite_self, ServerSession.persist]
  split
  · exact ⟨_, [], Nat.zero_le _, by rw [List.append_nil]⟩
  · split
    · exact ⟨_, [], Nat.zero_le _, by rw [List.append_nil]⟩
    · split
      · exact ⟨_, [], Nat.zero_le _, by rw [List.append_nil]⟩
      · exact ⟨_, [row], Nat.le_refl _, rfl⟩

theorem advance_inStep (h : m.InStep reply) (ha : m.session.awaited = []) (p : Persistence) :
    (m.advanced (m.session.advance none).1 p (m.session.advance none).2 reply).InStep reply := by
  have hp := h.paired
  rw [ha] at hp
  rw [hp.requests_nil] at hp
  unfold ServerSession.advance
  cases hph : m.session.phase with
  | idle last =>
    simp only [ha]
    exact inStep_moved h ha p ha rfl rfl hp
  | failed err =>
    rw [hph] at hp
    cases hp
  | removing tns stale =>
    rw [hph] at hp
    cases stale with
    | nil =>
      simp only [ha]
      exact inStep_moved h ha p rfl rfl rfl (.refreshing _ _ _)
    | cons s stale =>
      simp only [ha]
      refine inStep_sent h ha p (length_window_le _ _) (paired_removals ?_ ?_)
      all_goals
        generalize hnil : ([] : List (Nat × Awaited)) = awaited at hp
        generalize ([] : List ControlFrame) = requests at hp
        cases hp with
        | removing _ _ cur hids hr =>
          rw [List.nil_eq, List.map_eq_nil_iff] at hnil
          subst hnil
          assumption
  | refreshing tns rows ps =>
    cases rows with
    | nil =>
      simp only [ha]
      exact inStep_moved h ha p rfl rfl rfl (.registering _ _ _ [])
    | cons row rows =>
      simp only [ha]
      obtain ⟨locals, more, -, hrow⟩ := refreshRow_none m.session tns rows ps row
      rw [Option.map_none, hrow]
      exact inStep_moved h ha p ha rfl rfl (.refreshing _ _ _)
  | registering tns rows rej =>
    cases rows with
    | nil =>
      simp only [ha]
      exact inStep_moved h ha p ha rfl rfl (.idle _)
    | cons row rows =>
      simp only [ha]
      exact inStep_sent h ha p (length_window_le _ _) (paired_registrations _ _ _ _ _)

theorem proceed_ordered (h : m.InStep reply) (ha : m.session.awaited = []) :
    (m.proceed w (inOrder reply)).InStep reply ∨
      (m.proceed w (inOrder reply)).Interrupted reply := by
  unfold Reconciling.proceed
  simp only
  cases hrec : (w.recordAdvance m.session m.persistence).1 with
  | none =>
    left
    exact (advance_inStep h ha _).settle
  | some err =>
    obtain ⟨hp, hno⟩ := advance_of_fault ha hrec
    right
    refine interrupted_settle hp rfl ?_
    simp only [Option.map_some, hno, List.append_nil]
    exact h.taken

/-! ## Taking the answers -/

theorem handleResponse_paired {rid : Nat} {req : Awaited} {rest : List (Nat × Awaited)}
    {asked : ControlFrame} {more : List ControlFrame} {msg : ControlMessage}
    (hp : Paired d.registered d.phase ((rid, req) :: rest) (asked :: more))
    (han : CorrectAnswer asked.message msg) :
    ∃ d' : ServerSession, (∀ rest flt, d.handleResponse req rest msg flt =
        ({ d' with awaited := rest } : ServerSession).persist flt) ∧
      Paired d'.registered d'.phase rest more ∧ d'.nextRequestId = d.nextRequestId ∧
      d'.phase.left = d.phase.left := by
  cases hph : d.phase with
  | idle last => rw [hph] at hp; cases hp
  | refreshing tns rows ps => rw [hph] at hp; cases hp
  | failed err => rw [hph] at hp; cases hp
  | removing tns stale =>
    rw [hph] at hp
    generalize ha : (rid, req) :: rest = awaited,
      hreq : asked :: more = requests at hp
    cases hp with
    | removing _ _ cur hids hr =>
      cases cur with
      | nil => cases ha
      | cons c cur =>
        obtain ⟨⟨rfl, rfl⟩, rfl⟩ := by simpa using ha
        obtain ⟨rfl, rfl⟩ := by simpa using hreq
        simp only [List.map_cons, List.cons_append, List.nodup_cons] at hids hr
        obtain ⟨regd, hl, hrev⟩ :=
          Option.map_eq_some_iff.1 (hr c.2 List.mem_cons_self)
        cases han
        refine ⟨{ d with
            registered := d.registered.erase c.2.1
            localEndpoints := d.localEndpoints.erase c.2.1 },
            ?_, ?_, rfl, congrArg ReconcilePhase.left hph⟩
        · intro rest flt
          simp only [ServerSession.handleResponse, hl, hrev, and_self, if_true]
        · simp only [hph]
          refine .removing tns stale cur hids.2 ?_
          intro s hs
          have hne : s.1 ≠ c.2.1 := fun heq =>
            hids.1 (heq ▸ List.mem_map_of_mem hs)
          rw [AList.lookup_erase_ne hne]
          exact hr s (List.mem_cons_of_mem _ hs)
  | registering tns rows rej =>
    rw [hph] at hp
    generalize ha : (rid, req) :: rest = awaited,
      hreq : asked :: more = requests at hp
    cases hp with
    | registering _ _ _ cur =>
      cases cur with
      | nil => cases ha
      | cons c cur =>
        obtain ⟨⟨rfl, rfl⟩, rfl⟩ := by simpa using ha
        obtain ⟨rfl, rfl⟩ := by simpa using hreq
        cases han with
        | accepted =>
          refine ⟨{ d with
            registered := d.registered.insert c.2.id ⟨c.2.configRevision, c.2.remoteEndpoint⟩
            localEndpoints :=
              d.localEndpoints.insert c.2.id ⟨c.2.localEndpoint, c.2.proxyProtocol⟩ },
            ?_, ?_, rfl, congrArg ReconcilePhase.left hph⟩
          · intro rest flt
            simp only [ServerSession.handleResponse, registerMessage, and_self, if_true]
          · simp only [hph]
            exact .registering _ _ _ cur
        | rejected =>
          refine ⟨{ d with phase := noteRejection c.2.id d.phase }, ?_, ?_, rfl, ?_⟩
          · intro rest flt
            simp only [ServerSession.handleResponse, registerMessage, and_self, if_true]
          · simp only [hph]
            exact .registering _ _ _ cur
          · rw [hph]
            rfl

/-- The session waits for the answer that comes next. -/
structure NextAnswer (reply : Reply) (m : Reconciling) (requestId : Nat) (asked : ControlFrame)
    (more : List ControlFrame) : Prop where
  sent : m.sent.drop m.answered.length = asked :: more
  isRequest : asked.isRequest = true
  requestId_eq : asked.requestId = requestId
  unread : m.unread reply = ⟨requestId, reply m.answered.length asked⟩ ::
    replies reply (m.answered.length + 1) more

section Awaiting

variable {rid : Nat} {req : Awaited} {rest : List (Nat × Awaited)}

section NextAnswer

variable (h : m.InStep reply)
include h

theorem InStep.nextAnswer (ha : m.session.awaited = (rid, req) :: rest) :
    ∃ asked more, m.NextAnswer reply rid asked more := by
  have hids := h.paired.requestIds
  have hreq := h.paired.isRequest
  cases hs : m.sent.drop m.answered.length with
  | nil =>
    rw [hs, ha] at hids
    cases hids
  | cons asked more =>
    rw [hs] at hids hreq
    rw [ha] at hids
    have hid : asked.requestId = rid := (List.cons.inj hids).1
    refine ⟨asked, more, hs, hreq asked List.mem_cons_self, hid, ?_⟩
    rw [unread, hs, replies_cons, hid]

theorem InStep.requestIds_unread :
    (m.unread reply).map ControlFrame.requestId = m.session.awaited.map Prod.fst := by
  rw [unread, requestIds_replies, h.paired.requestIds]

theorem InStep.length_unread : (m.unread reply).length ≤ tunnelSyncWindow := by
  rw [← List.length_map ControlFrame.requestId, h.requestIds_unread, List.length_map]
  exact h.window

theorem InStep.isResponse_of_mem (hc : reply.Correct) {frm : ControlFrame}
    (hmem : frm ∈ replies reply 0 m.sent) : frm.isResponse = true ∧ frm.requestId ≠ 0 := by
  obtain ⟨req, hreq, k, rfl⟩ := mem_replies _ hmem
  obtain ⟨hask, hn⟩ := h.requests req hreq
  exact ⟨isResponse_reply k hc hask _, hn⟩

theorem InStep.mem_of_unread {frm : ControlFrame} (hmem : frm ∈ m.unread reply) :
    frm ∈ replies reply 0 m.sent := by
  rw [h.answers]
  exact List.mem_append_right _ hmem

theorem InStep.read_eq (hcr : reply.Correct)
    (ha : m.session.awaited = (rid, req) :: rest) {asked : ControlFrame}
    {more : List ControlFrame} (hn : m.NextAnswer reply rid asked more) :
    m.read w = m.answering w req rest ⟨rid, reply m.answered.length asked⟩ ∅
      (replies reply (m.answered.length + 1) more) := by
  have hc := h.channel.trans hn.unread
  have hno : m.session.bufferedResponses.lookup rid = none := by
    rw [h.parked]
    exact lookup_empty rid
  rw [read_of_channel w ha h.paired.not_failed hno hc rfl
    (isResponse_reply _ hcr hn.isRequest rid), h.parked]

theorem read_ordered (hc : reply.Correct) (haw : m.session.awaited = (rid, req) :: rest) :
    (m.read w).InStep reply ∨ (m.read w).Interrupted reply := by
  obtain ⟨asked, more, hn⟩ := h.nextAnswer haw
  have hp := h.paired
  rw [haw, hn.sent] at hp
  obtain ⟨d', hh, hp', hnm, -⟩ :=
    handleResponse_paired hp (hc m.answered.length asked hn.isRequest)
  have hac : m.session.accepts req (reply m.answered.length asked) = true := by
    rw [ServerSession.accepts, hh]
    exact congrArg (!·) hp'.not_failed
  have hs : replies reply 0 m.sent = (m.answered ++ [⟨rid, reply m.answered.length asked⟩]) ++
        replies reply (m.answered.length + 1) more := by
    rw [h.answers, hn.unread, List.append_assoc, List.singleton_append]
  have hlen : ∀ frm : ControlFrame, (m.answered ++ [frm]).length = m.answered.length + 1 :=
    fun frm => by rw [List.length_append, List.length_singleton]
  have hop : m.sent.drop (m.answered.length + 1) = more := by
    rw [← List.drop_drop, hn.sent, List.drop_succ_cons, List.drop_zero]
  rw [h.read_eq hc haw hn]
  simp only [answering, hac, if_true, hh]
  cases hrec : (w.recordAnswer req (reply m.answered.length asked) m.persistence).1 with
  | none =>
    left
    refine InStep.settle ⟨?_, ?_, ?_, ?_, hnm ▸ h.next, ?_, rfl, h.outcomes, ?_,
      rfl, h.requests⟩
    · simp only [hlen, hop]
      exact hp'
    · have hids := h.ids
      rw [haw, List.map_cons, List.nodup_cons] at hids
      exact hids.2
    · have hwin := h.window
      rw [haw] at hwin
      exact Nat.le_of_succ_le hwin
    · intro a ha
      exact h.nonzero a (haw ▸ List.mem_cons_of_mem _ ha)
    · simp only [unread, hlen, hop]
    · simp only [unread, hlen, hop]
      exact hs
  | some err =>
    right
    exact interrupted_settle rfl rfl ⟨_, hs.symm⟩

end NextAnswer

end Awaiting

/-! ## The whole run -/

/-- Either nothing has failed yet, or something outside the session has. -/
def Ordered (reply : Reply) (m : Reconciling) : Prop :=
  m.InStep reply ∨ m.Interrupted reply

/-- Between two calls no answer is open. -/
theorem InStep.channel_of_idle (h : m.InStep reply) {last : Option Reconciled}
    (hidle : m.session.phase = .idle last) : m.channel = [] := by
  have hpaired := h.paired
  rw [hidle] at hpaired
  rw [h.channel, unread, hpaired.of_idle.2]
  rfl

theorem Ordered.tick (h : m.Ordered reply) (hcr : reply.Correct) :
    (m.tick w (inOrder reply)).Ordered reply := by
  rcases h with h | h
  · rcases m.session.phase.idle_or_failed_or_running with ⟨last, hp⟩ | ⟨err, hp⟩ | hl
    · have hempty := h.channel_of_idle hp
      by_cases hc : m.calls = 0
      · rw [tick_of_done w _ (by simp [done, hp, hc, hempty])]
        exact .inl h
      · rw [tick_of_idle w _ hp hc hempty]
        exact begin_ordered h hp
    · rw [tick_of_done w _ (by simp [done, hp])]
      exact .inl h
    · cases ha : m.session.awaited with
      | nil =>
        rw [tick_of_ready w _ hl ha]
        exact proceed_ordered h ha
      | cons a rest =>
        rw [tick_of_awaiting w _ hl ha]
        exact read_ordered h hcr ha
  · obtain ⟨err, hp, -⟩ := h.failed
    rw [tick_of_done w _ (by simp [done, hp])]
    exact .inr h

/-- A session between its calls, with nothing parked. -/
structure Ready (d : ServerSession) : Prop where
  idle : ∃ last, d.phase = .idle last
  awaited : d.awaited = []
  parked : d.bufferedResponses = ∅
  next : d.nextRequestId ≠ 0

theorem inStep_start (h : Ready d) (r : TunnelReconciler) (calls : Nat) :
    (start d r calls).InStep reply := by
  obtain ⟨last, hi⟩ := h.idle
  refine ⟨?_, ?_, ?_, ?_, h.next, rfl, h.parked, ?_, rfl, rfl, nofun⟩
  · change Paired d.registered d.phase d.awaited []
    rw [hi, h.awaited]
    exact .idle last
  · change (d.awaited.map Prod.fst).Nodup
    rw [h.awaited]
    exact List.nodup_nil
  · change d.awaited.length ≤ tunnelSyncWindow
    rw [h.awaited]
    exact Nat.zero_le _
  · change ∀ a ∈ d.awaited, a.1 ≠ 0
    rw [h.awaited]
    intro a ha
    cases ha
  · intro out hmem
    cases hmem

theorem ordered_start (h : Ready d) (r : TunnelReconciler) (calls : Nat) :
    (start d r calls).ordered reply = start d r calls := by
  have hp : d.parking ∅ = d := by
    rw [← h.parked]
    rfl
  simp only [ordered, start, hp]
  rfl

/-! ## The end of the run -/

def work (d : ServerSession) : Nat :=
  if d.phase.left = 0 then 0 else d.awaited.length + d.phase.left

theorem work_settle : work m.settle.session = work m.session ∧ m.settle.calls = m.calls := by
  unfold settle
  split
  · exact ⟨rfl, rfl⟩
  · exact ⟨rfl, rfl⟩
  · exact ⟨rfl, rfl⟩

theorem work_of_failed (h : d.phase = .failed err) : work d = 0 := by
  rw [work, h]
  rfl

theorem work_of_running (h : d.phase.left ≠ 0) : work d = d.awaited.length + d.phase.left :=
  if_neg h

theorem work_le (d : ServerSession) : work d ≤ d.awaited.length + d.phase.left := by
  unfold work
  split <;> omega

theorem work_sendWindow {win : List WindowRequest} {next : ReconcilePhase}
    (hn : next.left + 2 * win.length = d.phase.left) (hwin : 0 < win.length) :
    work (d.sendWindow win next none).1 < d.phase.left := by
  have hlen : (d.sendWindow win next none).1.awaited.length = win.length := by
    rw [sendWindow_none, List.length_map, length_numberRequests]
  have hp : (d.sendWindow win next none).1.phase = next := rfl
  have hle := work_le (d.sendWindow win next none).1
  rw [hp] at hle
  omega

theorem work_advance (ha : d.awaited = []) (hl : d.phase.left ≠ 0) :
    work (d.advance none).1 < work d := by
  have hw : work d = d.phase.left := by
    rw [work_of_running hl, ha, List.length_nil, Nat.zero_add]
  have hm : ∀ d' : ServerSession, d'.awaited = [] → d'.phase.left < d.phase.left →
      work d' < d.phase.left := by
    intro d' hno hless
    have hle := work_le d'
    rw [hno, List.length_nil] at hle
    omega
  rw [hw]
  unfold ServerSession.advance
  cases hp : d.phase with
  | idle last => exact absurd (by rw [hp]; rfl) hl
  | failed err => exact absurd (by rw [hp]; rfl) hl
  | removing tns stale =>
    rw [hp] at hm
    cases stale with
    | nil =>
      simp only [ha]
      apply hm _ rfl
      simp only [ServerSession.persist, Option.map_none, ReconcilePhase.left]
      omega
    | cons s stale =>
      simp only [ha]
      rw [← hp]
      apply work_sendWindow
      · simp only [hp, ReconcilePhase.left, List.length_drop, List.length_map, List.length_take]
        omega
      · rw [List.length_map, List.length_take, List.length_cons]
        unfold tunnelSyncWindow
        omega
  | refreshing tns rows ps =>
    rw [hp] at hm
    cases rows with
    | nil =>
      simp only [ha]
      apply hm _ rfl
      simp only [ReconcilePhase.left]
      omega
    | cons row rows =>
      obtain ⟨locals, more, hmore, hrow⟩ := refreshRow_none d tns rows ps row
      simp only [ha, Option.map_none, hrow]
      apply hm _ rfl
      simp only [ReconcilePhase.left, List.length_append, List.length_cons]
      omega
  | registering tns rows rej =>
    rw [hp] at hm
    cases rows with
    | nil =>
      simp only [ha]
      exact hm (d.finish tns rej) ha (Nat.succ_pos _)
    | cons row rows =>
      simp only [ha]
      rw [← hp]
      apply work_sendWindow
      · simp only [hp, ReconcilePhase.left, List.length_drop, List.length_map, List.length_take]
        omega
      · rw [List.length_map, List.length_take, List.length_cons]
        unfold tunnelSyncWindow
        omega

theorem work_proceed (ha : m.session.awaited = []) (hl : m.session.phase.left ≠ 0)
    (deliver : Deliver) : work (m.proceed w deliver).session < work m.session := by
  unfold Reconciling.proceed
  rw [work_settle.1]
  cases hrec : (w.recordAdvance m.session m.persistence).1 with
  | none => exact work_advance ha hl
  | some err =>
    rw [Option.map_some, work_of_failed (advance_of_fault ha hrec).1, work_of_running hl]
    omega

theorem work_read (h : m.InStep reply) (hc : reply.Correct)
    (hl : m.session.phase.left ≠ 0) {rid : Nat} {req : Awaited}
    {rest : List (Nat × Awaited)} (ha : m.session.awaited = (rid, req) :: rest) :
    work (m.read w).session < work m.session := by
  obtain ⟨asked, more, hn⟩ := h.nextAnswer ha
  have hp := h.paired
  rw [ha, hn.sent] at hp
  obtain ⟨d', hh, -, -, hs⟩ :=
    handleResponse_paired hp (hc m.answered.length asked hn.isRequest)
  rw [h.read_eq hc ha hn]
  unfold answering
  rw [work_settle.1, work_of_running hl, ha]
  simp only [hh]
  generalize (if m.session.accepts req (reply m.answered.length asked) = true then
    w.recordAnswer req (reply m.answered.length asked) m.persistence
    else (none, m.persistence)).1 = fault
  cases fault with
  | none =>
    refine Nat.lt_of_le_of_lt (work_le _) ?_
    change rest.length + d'.phase.left < rest.length + 1 + m.session.phase.left
    omega
  | some err =>
    rw [work_of_failed rfl]
    omega

theorem calls_proceed (deliver : Deliver) : (m.proceed w deliver).calls = m.calls := by
  unfold Reconciling.proceed
  rw [work_settle.2]

theorem calls_read : (m.read w).calls = m.calls := by
  unfold Reconciling.read
  rw [work_settle.2]

/-- What the session has left to do: calls first, then the steps of the current one. -/
def remaining (m : Reconciling) : ℕ ×ₗ ℕ :=
  toLex (m.calls, work m.session)

theorem Ordered.done_or_less (h : m.Ordered reply) (hcr : reply.Correct) :
    m.done = true ∨ (m.tick w (inOrder reply)).remaining < m.remaining := by
  rcases h with h | h
  · rcases m.session.phase.idle_or_failed_or_running with ⟨last, hp⟩ | ⟨err, hp⟩ | hl
    · have hempty := h.channel_of_idle hp
      by_cases hc : m.calls = 0
      · exact .inl (by simp [done, hp, hc, hempty])
      · rw [tick_of_idle w _ hp hc hempty]
        refine .inr (Prod.Lex.toLex_lt_toLex.2 (.inl ?_))
        unfold Reconciling.begin
        rw [work_settle.2]
        exact Nat.sub_lt (Nat.pos_of_ne_zero hc) Nat.one_pos
    · exact .inl (by simp [done, hp])
    · right
      cases ha : m.session.awaited with
      | nil =>
        rw [tick_of_ready w _ hl ha]
        exact Prod.Lex.toLex_lt_toLex.2 (.inr ⟨calls_proceed _, work_proceed ha hl _⟩)
      | cons a rest =>
        rw [tick_of_awaiting w _ hl ha]
        exact Prod.Lex.toLex_lt_toLex.2 (.inr ⟨calls_read, work_read h hcr hl ha⟩)
  · obtain ⟨err, hp, -⟩ := h.failed
    exact .inl (by simp [done, hp])

theorem Ordered.exists_done (h : m.Ordered reply) (hc : reply.Correct) :
    ∃ n, ((Reconciling.tick w (inOrder reply))^[n] m).done = true := by
  have hk : ∀ m : Reconciling, m.Ordered reply → (m.tick w (inOrder reply)).Ordered reply :=
    fun m h => h.tick hc
  have hless : ∀ m : Reconciling, m.Ordered reply →
      m.done = true ∨ (m.tick w (inOrder reply)).remaining < m.remaining :=
    fun m h => h.done_or_less hc
  exact exists_iterate_done remaining hk hless h

theorem Ordered.iterate (h : m.Ordered reply) (hc : reply.Correct) (n : Nat) :
    ((Reconciling.tick w (inOrder reply))^[n] m).Ordered reply := by
  induction n with
  | zero => exact h
  | succ n ih =>
    rw [Function.iterate_succ_apply']
    exact ih.tick hc

/-! ## Runs that follow it -/

/-- A run follows the ordered run if what is known of its frames is kept when a call starts
and goes on, reading a frame does what the ordered run does, or nothing, and between two calls
there are only notices to read. -/
theorem follows_of_steps {deliver : Deliver} {first : Reconciling} (hc : reply.Correct)
    (hfst : first.InStep reply) {Inv Leaves : Reconciling → Prop}
    (hb : ∀ m, Inv m → Inv (m.begin w))
    (hpr : ∀ m, Inv m → (m.ordered reply).InStep reply → m.session.awaited = [] →
      Inv (m.proceed w deliver))
    (hr : ∀ m n rid req rest, Inv m →
      m.ordered reply = (Reconciling.tick w (inOrder reply))^[n] first →
      (m.ordered reply).InStep reply → m.session.phase.left ≠ 0 →
      m.session.awaited = (rid, req) :: rest →
      (Inv (m.read w) ∧ ((m.read w).ordered reply = (m.ordered reply).read w ∨
        (m.read w).ordered reply = m.ordered reply ∧
          (m.read w).channel.length < m.channel.length)) ∨ Leaves m)
    (hbetween : ∀ m last frame channel, Inv m → (m.ordered reply).InStep reply →
      m.session.phase = .idle last → ¬m.due w = true → m.channel = frame :: channel →
      (frame.isNotice = true ∧ Inv { m with channel := channel }) ∨ Leaves m) :
    Follows (Reconciling.tick w deliver) (Reconciling.tick w (inOrder reply)) (ordered reply) first
      Inv Leaves (fun m => m.channel.length) := by
  constructor
  intro m n h hv
  have hs : (m.ordered reply).Ordered reply := by
    rw [hv]
    exact Ordered.iterate (.inl hfst) hc n
  rcases hs with hord | hs
  · rcases m.session.phase.idle_or_failed_or_running with ⟨last, hp⟩ | ⟨err, hp⟩ | hl
    · have hempty : (m.ordered reply).channel = [] := hord.channel_of_idle hp
      by_cases hdue : m.due w = true
      · have hcalls : m.calls ≠ 0 := (of_decide_eq_true hdue).1
        rw [tick_of_due w deliver hp hdue,
          tick_of_idle (m := m.ordered reply) w (inOrder reply) hp hcalls hempty]
        exact .inl ⟨hb m h, .inl (ordered_begin w reply m)⟩
      · cases hchannel : m.channel with
        | nil =>
          have hcalls : m.calls = 0 := by simpa [due, hchannel] using hdue
          rw [tick_of_done w _ (by simp [done, hp, hcalls, hchannel]),
            tick_of_done (m := m.ordered reply) w _ (by
              simp [done, hempty, show (m.ordered reply).calls = 0 from hcalls,
                show (m.ordered reply).session.phase = .idle last from hp])]
          exact .inl ⟨h, .inl rfl⟩
        | cons frame channel =>
          rcases hbetween m last frame channel h hord hp hdue hchannel with
            ⟨hnotice, hkept⟩ | hleaves
          · rw [tick_of_between w deliver hp hdue hchannel, readBetween_of_notice w hp hnotice]
            split
            · next hping =>
              rw [tick_of_idle (m := m.ordered reply) w (inOrder reply) hp hping.2 hempty]
              exact .inl ⟨hb _ hkept, .inl (ordered_begin w reply _)⟩
            · exact .inl ⟨hkept, .inr ⟨rfl, Nat.lt_succ_self _⟩⟩
          · exact .inr hleaves
    · have hfailed := hord.paired.not_failed
      rw [show (m.ordered reply).session.phase = .failed err from hp] at hfailed
      cases hfailed
    · cases ha : m.session.awaited with
      | nil =>
        rw [tick_of_ready w deliver hl ha,
          tick_of_ready (m := m.ordered reply) w (inOrder reply) hl ha]
        exact .inl ⟨hpr m h hord ha, .inl (ordered_proceed w reply m deliver hord.answered_le)⟩
      | cons a rest =>
        rw [tick_of_awaiting w deliver hl ha,
          tick_of_awaiting (m := m.ordered reply) w (inOrder reply) hl ha]
        exact hr m n _ _ _ h hv hord hl ha
  · obtain ⟨err, hp, -⟩ := hs.failed
    have hp : m.session.phase = .failed err := hp
    have hdone : m.done = true := by simp [done, hp]
    have hsame : (m.ordered reply).done = true := by
      simp [done, show (m.ordered reply).session.phase = .failed err from hp]
    rw [tick_of_done w _ hdone, tick_of_done w _ hsame]
    exact .inl ⟨h, .inl rfl⟩

end Reconciling

end MiniTun.Daemon
