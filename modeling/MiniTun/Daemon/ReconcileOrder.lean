import MiniTun.Daemon.OrderedRun

/-!
# Answers in any order

The server may answer the requests of a window in any order and send notices in
between.  Whatever it does, the run goes through the states of the ordered run: what
has come too early is parked, and what is parked and what is still in the channel are
together the answers that are open.
-/

namespace MiniTun.Daemon

open KeyedMap Storage StutteringSimulation

def answersIn (channel : List ControlFrame) : List ControlFrame :=
  channel.filter fun frame => !frame.isNotice

/-- The server answers each request of a window once, in any order and with any notices. -/
def Arranges (reply : Reply) (deliver : Deliver) : Prop :=
  ∀ earlier window, (∀ request ∈ window, request.isRequest = true) →
    (answersIn (deliver earlier window)).Perm (replies reply earlier.length window)

theorem isRequest_advance (d : ServerSession) (intr : Option Interruption) :
    ∀ req ∈ (d.advance intr).2, req.isRequest = true := by
  have he := d.advanceEffect intr
  generalize d.advance intr = r at he
  intro req hmem
  cases he with
  | sent _ hwin =>
    obtain ⟨asked, hask, hmsg⟩ := d.mem_frames_sendWindow hmem
    generalize d.phase = phase at hwin
    unfold ControlFrame.isRequest
    rw [hmsg]
    cases hwin with
    | removals =>
      obtain ⟨_, -, rfl⟩ := List.mem_map.1 hask
      rfl
    | registrations =>
      obtain ⟨_, -, rfl⟩ := List.mem_map.1 hask
      rfl
  | _ => cases hmem

namespace Reconciling

variable {w : Surroundings} {reply : Reply} {deliver : Deliver} {m : Reconciling}

/-- What is parked and what is in the channel are the open answers. -/
structure Served (reply : Reply) (m : Reconciling) : Prop where
  frames : (values m.session.bufferedResponses ++ answersIn m.channel).Perm (m.unread reply)
  keys : ∀ requestId frame, m.session.bufferedResponses.lookup requestId = some frame →
    frame.requestId = requestId

theorem Served.settle (h : m.Served reply) : m.settle.Served reply := by
  obtain ⟨outcomes, heq⟩ := m.settle_eq
  rw [heq]
  exact ⟨h.frames, h.keys⟩

theorem served_start {d : ServerSession} (h : Ready d) (r : TunnelReconciler) (calls : Nat) :
    (start d r calls).Served reply := by
  have hp : (start d r calls).session.bufferedResponses = ∅ := h.parked
  constructor
  · rw [hp]
    exact .refl _
  · intro rid frm hl
    rw [hp] at hl
    cases hl

theorem Served.begin (h : m.Served reply) : (m.begin w).Served reply := by
  apply Served.settle
  constructor
  · simp only [ServerSession.bufferedResponses_startReconcile]
    exact h.frames
  · simp only [ServerSession.bufferedResponses_startReconcile]
    exact h.keys

theorem Served.proceed (h : m.Served reply) (ha : Arranges reply deliver)
    (hle : m.answered.length ≤ m.sent.length) : (m.proceed w deliver).Served reply := by
  simp only [Reconciling.proceed]
  apply Served.settle
  generalize (w.recordAdvance m.session m.persistence).1.map (Interruption.mk · 0) = interruption
  have happ := h.frames.append (ha m.sent (m.session.advance interruption).2
    (isRequest_advance _ _))
  rw [← m.unread_append reply _ hle] at happ
  constructor
  · simp only [ServerSession.bufferedResponses_advance, answersIn, List.filter_append,
      ← List.append_assoc]
    exact happ
  · simp only [ServerSession.bufferedResponses_advance]
    exact h.keys

section Awaiting

variable {rid : Nat} {req : Awaited} {rest : List (Nat × Awaited)}

variable {chan : List ControlFrame} {frm : ControlFrame}

theorem Served.answering (h : m.Served reply) {unread : List ControlFrame}
    (hu : m.unread reply = frm :: unread) {parked : Map Nat ControlFrame}
    (hf : (values m.session.bufferedResponses ++ answersIn m.channel).Perm
      (frm :: (values parked ++ answersIn chan)))
    (hk : ∀ rid other, parked.lookup rid = some other →
      m.session.bufferedResponses.lookup rid = some other) :
    (m.answering w req rest frm parked chan).Served reply := by
  obtain ⟨hp, hc, -, -⟩ := m.answering_frames w req rest frm parked chan
  have hperm := hf.symm.trans h.frames
  rw [hu] at hperm
  constructor
  · rw [hp, hc, unread_answering w reply hu]
    exact hperm.cons_inv
  · intro rid other hl
    rw [hp] at hl
    exact h.keys rid other (hk rid other hl)

theorem Served.nodup (h : m.Served reply) (hord : (m.ordered reply).InStep reply) :
    ((values m.session.bufferedResponses ++ answersIn m.channel).map
      ControlFrame.requestId).Nodup := by
  have hids : ((m.unread reply).map ControlFrame.requestId).Nodup := by
    have hids := hord.ids
    rw [← hord.requestIds_unread] at hids
    exact hids
  exact (h.frames.map ControlFrame.requestId).nodup_iff.2 hids

theorem Served.eq_of_requestId (h : m.Served reply) (hord : (m.ordered reply).InStep reply)
    {other : ControlFrame}
    (hf : frm ∈ values m.session.bufferedResponses ++ answersIn m.channel)
    (ho : other ∈ values m.session.bufferedResponses ++ answersIn m.channel)
    (heq : frm.requestId = other.requestId) : frm = other :=
  List.inj_on_of_nodup_map (h.nodup hord) hf ho heq

theorem Served.room (h : m.Served reply) (hord : (m.ordered reply).InStep reply)
    (hc : m.channel = frm :: chan) (hnt : frm.isNotice = false) :
    size m.session.bufferedResponses < tunnelSyncWindow ∧
      m.session.bufferedResponses.lookup frm.requestId = none := by
  have ha : answersIn m.channel = frm :: answersIn chan := by
    rw [hc, answersIn, List.filter_cons_of_pos (by rw [hnt]; rfl)]
    rfl
  have hlen : (m.unread reply).length ≤ tunnelSyncWindow := hord.length_unread
  have hn := h.nodup hord
  rw [ha] at hn
  constructor
  · rw [← h.frames.length_eq, List.length_append, length_values, ha, List.length_cons] at hlen
    omega
  · cases hl : m.session.bufferedResponses.lookup frm.requestId with
    | none => rfl
    | some other =>
      have ho : other ∈ values m.session.bufferedResponses := mem_values.2 ⟨_, hl⟩
      rw [List.map_append, List.nodup_append] at hn
      exact absurd (h.keys _ _ hl) (hn.2.2 _ (List.mem_map_of_mem ho) _
        (List.mem_map_of_mem List.mem_cons_self))

theorem read_notice (ha : m.session.awaited = (rid, req) :: rest)
    (hl : m.session.phase.left ≠ 0) (hp : m.session.phase.isFailed = false)
    (hflt : m.fault = none) (hno : m.session.bufferedResponses.lookup rid = none)
    (hc : m.channel = frm :: chan) (hn : frm.isNotice = true) :
    m.read w = { m with channel := chan } := by
  rw [read_of_other w ha hp hno hc (.inl hn), readResponse_of_notice _ hn, hflt]
  apply settle_of_running
  exact hl

theorem read_early (ha : m.session.awaited = (rid, req) :: rest)
    (hl : m.session.phase.left ≠ 0) (hp : m.session.phase.isFailed = false)
    (hflt : m.fault = none) (hno : m.session.bufferedResponses.lookup rid = none)
    (hc : m.channel = frm :: chan) (hrs : frm.isResponse = true)
    (hz : frm.requestId ≠ 0) (hid : frm.requestId ≠ rid)
    (hs : size m.session.bufferedResponses < tunnelSyncWindow)
    (hf : m.session.bufferedResponses.lookup frm.requestId = none) :
    m.read w = { m with
      session := m.session.parking (m.session.bufferedResponses.insert frm.requestId frm)
      channel := chan } := by
  have hr : ¬(tunnelSyncWindow ≤ size m.session.bufferedResponses ∨
      (m.session.bufferedResponses.lookup frm.requestId).isSome = true) := by
    rw [hf]
    simpa using hs
  rw [read_of_other w ha hp hno hc (.inr hid),
    readResponse_of_early _ hrs hid hz, if_neg hr, hflt]
  apply settle_of_running
  exact hl

/-- What reading a frame does, in a run whose open answers are all there. -/
theorem read_served (h : m.Served reply) (hord : (m.ordered reply).InStep reply)
    (hcr : reply.Correct) (hlf : m.session.phase.left ≠ 0)
    (ha : m.session.awaited = (rid, req) :: rest) :
    (m.read w).Served reply ∧ ((m.read w).ordered reply = (m.ordered reply).read w ∨
      (m.read w).ordered reply = m.ordered reply ∧
        (m.read w).channel.length < m.channel.length) := by
  have hph : m.session.phase.isFailed = false := hord.paired.not_failed
  obtain ⟨asked, more, hnx⟩ := hord.nextAnswer ha
  obtain ⟨answer, unread, hid, hu, hspec⟩ : ∃ answer unread, answer.requestId = rid ∧
      m.unread reply = answer :: unread ∧
      (m.ordered reply).read w = (m.ordered reply).answering w req rest answer ∅ unread :=
    ⟨_, _, rfl, hnx.unread, hord.read_eq hcr ha hnx⟩
  have htk : ∀ parked chan, (m.answering w req rest answer parked chan).ordered reply =
      (m.ordered reply).read w := fun parked chan =>
    (ordered_answering w reply hu req rest parked chan).trans hspec.symm
  have hop : answer ∈ values m.session.bufferedResponses ++ answersIn m.channel :=
    h.frames.mem_iff.2 (hu ▸ List.mem_cons_self)
  cases hl : m.session.bufferedResponses.lookup rid with
  | some frm =>
    have hfr : frm = answer := h.eq_of_requestId hord
      (List.mem_append_left _ (mem_values.2 ⟨_, hl⟩)) hop
      ((h.keys _ _ hl).trans hid.symm)
    subst hfr
    rw [read_of_parked w ha hph hl]
    refine ⟨h.answering hu ((perm_values_erase hl).append_right _) ?_, .inl (htk _ _)⟩
    intro other parked hp
    exact lookup_of_erase hp
  | none =>
    have hmem : answer ∈ answersIn m.channel := by
      rcases List.mem_append.1 hop with hp | hmem
      · obtain ⟨other, ho⟩ := mem_values.1 hp
        rw [← h.keys _ _ ho, hid, hl] at ho
        cases ho
      · exact hmem
    cases hc : m.channel with
    | nil =>
      rw [hc] at hmem
      cases hmem
    | cons frm chan =>
      cases hn : frm.isNotice with
      | true =>
        rw [read_notice ha hlf hph hord.fault hl hc hn]
        refine ⟨⟨?_, h.keys⟩, .inr ⟨rfl, Nat.lt_succ_self _⟩⟩
        have hf := h.frames
        rw [hc, answersIn, List.filter_cons_of_neg (by simp [hn])] at hf
        exact hf
      | false =>
        have han : answersIn m.channel = frm :: answersIn chan := by
          rw [hc, answersIn, List.filter_cons_of_pos (by rw [hn]; rfl)]
          rfl
        have hfr : frm ∈ values m.session.bufferedResponses ++ answersIn m.channel :=
          List.mem_append_right _ (han ▸ List.mem_cons_self)
        obtain ⟨hr, hz⟩ :=
          hord.isResponse_of_mem hcr (hord.mem_of_unread (h.frames.mem_iff.1 hfr))
        by_cases ht : frm.requestId = rid
        · have hs : frm = answer := h.eq_of_requestId hord hfr hop (ht.trans hid.symm)
          subst hs
          rw [read_of_channel w ha hph hl hc ht hr]
          refine ⟨h.answering hu ?_ fun _ _ => id, .inl (htk _ _)⟩
          rw [han]
          exact List.perm_middle
        · obtain ⟨hsz, hfe⟩ := h.room hord hc hn
          rw [read_early ha hlf hph hord.fault hl hc hr hz ht hsz hfe]
          refine ⟨⟨?_, ?_⟩, .inr ⟨rfl, Nat.lt_succ_self _⟩⟩
          · have hf := h.frames
            rw [han] at hf
            change (values (m.session.bufferedResponses.insert frm.requestId frm) ++
              answersIn chan).Perm (m.unread reply)
            rw [values_insert hfe]
            exact List.perm_middle.symm.trans hf
          · intro other parked hp
            rcases Decidable.em (other = frm.requestId) with rfl | hne
            · rw [show (ServerSession.bufferedResponses _).lookup _ = some frm from
                AList.lookup_insert _] at hp
              exact (Option.some.inj hp) ▸ rfl
            · exact h.keys other parked ((AList.lookup_insert_ne hne).symm.trans hp)

end Awaiting

/-- Between two calls only notices are left in the channel. -/
theorem Served.notice_of_idle (h : m.Served reply) (hord : (m.ordered reply).InStep reply)
    {last : Option Reconciled} (hidle : m.session.phase = .idle last) {frame : ControlFrame}
    {channel : List ControlFrame} (hchannel : m.channel = frame :: channel) :
    frame.isNotice = true ∧ Served reply { m with channel := channel } := by
  have hunread : m.unread reply = [] := hord.channel_of_idle hidle
  have hframes := h.frames
  rw [hunread, List.perm_nil, List.append_eq_nil_iff, hchannel, answersIn, List.filter_eq_nil_iff,
    List.forall_mem_cons] at hframes
  obtain ⟨hparked, hnotice, hrest⟩ := hframes
  refine ⟨by simpa using hnotice, ?_, h.keys⟩
  change (values m.session.bufferedResponses ++ answersIn channel).Perm (m.unread reply)
  rw [hunread, hparked, List.nil_append, answersIn, List.filter_eq_nil_iff.2 hrest]

/-- **Simulation.** The run goes through the states of the ordered run. -/
theorem follows_ordered (hc : reply.Correct) (ha : Arranges reply deliver)
    {first : Reconciling} (hfst : first.InStep reply) :
    Follows (tick w deliver) (tick w (inOrder reply)) (ordered reply) first (Served reply)
      (fun _ => False) (fun m => m.channel.length) := by
  apply follows_of_steps hc hfst
  · intro m h
    exact h.begin
  · intro m h hord _
    exact h.proceed ha hord.answered_le
  · intro m n rid req rest h _ hord hl haw
    exact .inl (read_served h hord hc hl haw)
  · intro m last frame channel h hord hidle _ hchannel
    exact .inl (h.notice_of_idle hord hidle hchannel)

/-- Once the ordered run is done, what is left to read are notices. -/
theorem Served.drained (w : Surroundings) (deliver : Deliver) (h : m.Served reply)
    (hord : (m.ordered reply).Ordered reply) (hdone : (m.ordered reply).done = true) :
    ∃ n, ((tick w deliver)^[n] m).Served reply ∧
      ((tick w deliver)^[n] m).ordered reply = m.ordered reply ∧
      ((tick w deliver)^[n] m).done = true := by
  have hphase : (m.ordered reply).session.phase = m.session.phase := rfl
  rcases hord with hord | hord
  · rw [Reconciling.done, hphase] at hdone
    split at hdone
    · next error hfailed =>
      have hrunning := hord.paired.not_failed
      rw [hphase, hfailed] at hrunning
      cases hrunning
    · next last hidle =>
      have hcalls : m.calls = 0 := (of_decide_eq_true hdone).1
      induction hchannel : m.channel generalizing m with
      | nil => exact ⟨0, h, rfl, by simp [Reconciling.done, hidle, hcalls, hchannel]⟩
      | cons frame channel ih =>
        obtain ⟨hnotice, hserved⟩ := h.notice_of_idle hord hidle hchannel
        have htick : m.tick w deliver = { m with channel := channel } := by
          rw [tick_of_between w deliver hidle (by simp [due, hcalls]) hchannel,
            readBetween_of_notice w hidle hnotice, if_neg fun hping => hping.2 hcalls]
        obtain ⟨n, hn⟩ := ih hserved rfl hord hidle hdone hcalls rfl
        refine ⟨n + 1, ?_⟩
        rw [Function.iterate_succ_apply, htick]
        exact hn
    · cases hdone
  · obtain ⟨error, hfailed, -⟩ := hord.failed
    rw [hphase] at hfailed
    exact ⟨0, h, rfl, by simp [Reconciling.done, hfailed]⟩

/-! ## The bound on what is parked -/

/-- `pending_reconcile_responses_` has room for a window, whatever the server sends. -/
def Bounded (m : Reconciling) : Prop :=
  size m.session.bufferedResponses ≤ tunnelSyncWindow

theorem Bounded.settle (h : m.Bounded) : m.settle.Bounded := by
  obtain ⟨outcomes, heq⟩ := m.settle_eq
  rw [heq]
  exact h

theorem bufferedResponses_readResponse (d : ServerSession) (rid : Nat) (req : Awaited)
    (rest : List (Nat × Awaited)) (frm : ControlFrame) (flt : Option Error)
    (h : size d.bufferedResponses ≤ tunnelSyncWindow) :
    size (d.readResponse rid req rest frm flt).1.bufferedResponses ≤
      tunnelSyncWindow := by
  unfold ServerSession.readResponse
  split
  · cases flt <;> exact h
  · cases flt <;> exact h
  · split
    · rw [ServerSession.bufferedResponses_handleResponse]
      exact h
    · split
      · exact h
      · next hr =>
        simp only [not_or, not_le] at hr
        exact Nat.le_trans (size_insert_le _ _ _) hr.2.2.1

theorem Bounded.begin (h : m.Bounded) : (m.begin w).Bounded := by
  apply Bounded.settle
  rw [Bounded, ServerSession.bufferedResponses_startReconcile]
  exact h

theorem bufferedResponses_readIdle (d : ServerSession) (frame : ControlFrame) :
    (d.readIdle frame none).1.bufferedResponses = d.bufferedResponses := by
  unfold ServerSession.readIdle
  split
  · rfl
  · rfl
  · rfl
  · rfl
  · rfl

theorem Bounded.readBetween (h : m.Bounded) (frame : ControlFrame) (channel : List ControlFrame) :
    (m.readBetween w frame channel).Bounded := by
  have hnext : Bounded
      { m with session := (m.session.readIdle frame none).1, channel := channel } := by
    rw [Bounded, bufferedResponses_readIdle]
    exact h
  unfold Reconciling.readBetween
  simp only
  split
  · exact hnext.settle
  · split
    · exact hnext.begin
    · exact hnext

theorem Bounded.tick (h : m.Bounded) : (m.tick w deliver).Bounded := by
  rcases m.session.phase.idle_or_failed_or_running with ⟨last, hp⟩ | ⟨err, hp⟩ | hl
  · by_cases hdue : m.due w = true
    · rw [tick_of_due w deliver hp hdue]
      exact h.begin
    · cases hchannel : m.channel with
      | nil =>
        have hcalls : m.calls = 0 := by simpa [due, hchannel] using hdue
        rwa [tick_of_done w deliver (by simp [done, hp, hcalls, hchannel])]
      | cons frame channel =>
        rw [tick_of_between w deliver hp hdue hchannel]
        exact h.readBetween frame channel
  · rwa [tick_of_done w deliver (by simp [done, hp])]
  · cases ha : m.session.awaited with
    | nil =>
      rw [tick_of_ready w deliver hl ha]
      simp only [Reconciling.proceed]
      apply Bounded.settle
      rw [Bounded, ServerSession.bufferedResponses_advance]
      exact h
    | cons a rest =>
      rw [tick_of_awaiting w deliver hl ha]
      simp only [Reconciling.read]
      apply Bounded.settle
      simp only [Bounded, ServerSession.receive, ha]
      split
      · exact h
      · split
        · rw [ServerSession.bufferedResponses_handleResponse]
          exact Nat.le_trans (size_erase_le _ _) h
        · exact h
        · exact bufferedResponses_readResponse _ _ _ _ _ _ h

theorem Bounded.iterate (h : m.Bounded) (n : Nat) :
    ((Reconciling.tick w deliver)^[n] m).Bounded := by
  induction n with
  | zero => exact h
  | succ n ih =>
    rw [Function.iterate_succ_apply']
    exact ih.tick

/-! ## Every call ends -/

/-- The calls of a session: those that have ended, the one that runs, those to come. -/
def tally (m : Reconciling) : Nat :=
  m.outcomes.length + m.calls + if m.session.phase.left = 0 then 0 else 1

theorem tally_settle (m : Reconciling) : m.settle.tally = m.outcomes.length + m.calls + 1 := by
  unfold Reconciling.settle tally
  cases hp : m.session.phase with
  | idle last =>
    simp only [hp, ReconcilePhase.left, if_true, List.length_append, List.length_singleton]
    omega
  | failed err =>
    simp only [hp, ReconcilePhase.left, if_true, List.length_append, List.length_singleton]
    omega
  | _ =>
    simp only [hp, ReconcilePhase.left]
    rw [if_neg (Nat.succ_ne_zero _)]

theorem Ordered.tally_tick (h : m.Ordered reply) :
    (m.tick w (inOrder reply)).tally = m.tally := by
  rcases m.session.phase.idle_or_failed_or_running with ⟨last, hp⟩ | ⟨err, hp⟩ | hl
  · have hempty : m.channel = [] := by
      rcases h with h | h
      · exact h.channel_of_idle hp
      · obtain ⟨error, hfailed, -⟩ := h.failed
        rw [hp] at hfailed
        cases hfailed
    by_cases hc : m.calls = 0
    · rw [tick_of_done w _ (by simp [done, hp, hc, hempty])]
    · rw [tick_of_idle w _ hp hc hempty]
      simp only [Reconciling.begin, tally_settle]
      simp only [tally, hp, ReconcilePhase.left, if_true]
      omega
  · rw [tick_of_done w _ (by simp [done, hp])]
  · have ht : m.tally = m.outcomes.length + m.calls + 1 := by rw [tally, if_neg hl]
    rw [ht]
    cases ha : m.session.awaited with
    | nil =>
      rw [tick_of_ready w _ hl ha]
      simp only [Reconciling.proceed, tally_settle]
    | cons a rest =>
      rw [tick_of_awaiting w _ hl ha]
      simp only [Reconciling.read, tally_settle]

theorem Ordered.tally_iterate (h : m.Ordered reply) (hc : reply.Correct) (n : Nat) :
    ((Reconciling.tick w (inOrder reply))^[n] m).tally = m.tally := by
  induction n with
  | zero => rfl
  | succ n ih => rw [Function.iterate_succ_apply', (h.iterate hc n).tally_tick, ih]

/-! ## The end -/

/-- How a run of some calls ends, compared with the ordered run. -/
structure SameEnd (reply : Reply) (calls : Nat) (last ordered : Reconciling) : Prop where
  done : last.done = true
  ordered_done : ordered.done = true
  /-- The result of each call, and the tables and rows it leaves. -/
  outcomes : last.outcomes = ordered.outcomes
  answered : last.answered = ordered.answered
  /-- No answer is taken twice, and none that was not given. -/
  once : last.answered <+: replies reply 0 last.sent
  /-- Unless something outside fails, every call succeeds and nothing is left. -/
  complete : last.fault = none → last.outcomes.length = calls ∧
    (∀ outcome ∈ last.outcomes, outcome.result = .ok ()) ∧
    last.answered = replies reply 0 last.sent ∧ last.session.bufferedResponses = ∅ ∧
    answersIn last.channel = []

theorem Served.complete (h : m.Served reply) (hord : (m.ordered reply).InStep reply)
    (hd : m.done = true) : m.answered = replies reply 0 m.sent ∧
      m.session.bufferedResponses = ∅ ∧ answersIn m.channel = [] ∧ m.tally = m.outcomes.length := by
  rcases m.session.phase.idle_or_failed_or_running with ⟨last, hph⟩ | ⟨err, hph⟩ | hl
  · have hc : m.calls = 0 ∧ m.channel = [] := by simpa [Reconciling.done, hph] using hd
    have hu : m.unread reply = [] := by
      have hpr := hord.paired
      have hi : (m.ordered reply).session.phase = .idle last := hph
      rw [hi] at hpr
      have hop : m.sent.drop m.answered.length = [] := hpr.of_idle.2
      rw [Reconciling.unread, hop]
      rfl
    have ha : replies reply 0 m.sent = m.answered ++ m.unread reply := hord.answers
    have hf := h.frames
    rw [hu, List.append_nil] at ha
    rw [hu, List.perm_nil, List.append_eq_nil_iff] at hf
    refine ⟨ha.symm, AList.ext (List.map_eq_nil_iff.1 hf.1), hf.2, ?_⟩
    simp only [tally, hph, hc.1, ReconcilePhase.left, if_true, Nat.add_zero]
  · have hfa : (m.ordered reply).session.phase = .failed err := hph
    have hrun := hord.paired.not_failed
    rw [hfa] at hrun
    cases hrun
  · generalize hp : m.session.phase = phase at hl
    rw [Reconciling.done, hp] at hd
    cases phase <;> first | exact absurd rfl hl | cases hd

/-- **The order of the answers does not matter.**  Whatever the session has registered
and whatever rows it finds, whatever correct answer the server gives to each request, in
whatever order it gives those of a window and whatever notices it sends in between: the
calls end as with the answers in order, each answer is taken once, and what is parked
never exceeds a window and is gone at the end. -/
theorem reconcile_in_any_order (w : Surroundings) (hcorrect : reply.Correct)
    (harranges : Arranges reply deliver) {d : ServerSession} (hready : Ready d)
    (r : TunnelReconciler) (calls : Nat) :
    (∀ n, size ((tick w deliver)^[n] (start d r calls)).session.bufferedResponses ≤
      tunnelSyncWindow) ∧
    ∃ n k, SameEnd reply calls ((tick w deliver)^[n] (start d r calls))
      ((tick w (inOrder reply))^[k] (start d r calls)) := by
  have hfirst : (start d r calls).InStep reply := inStep_start hready r calls
  constructor
  · have hbounded : (start d r calls).Bounded := by
      change size d.bufferedResponses ≤ _
      rw [hready.parked]
      exact Nat.zero_le _
    exact hbounded.iterate
  · obtain ⟨N, hdone⟩ := Ordered.exists_done (w := w) (.inl hfirst) hcorrect
    obtain ⟨n, k, hserved, hordered, rfl | ⟨-, hleaves⟩⟩ :=
      (follows_ordered hcorrect harranges hfirst).reaches (served_start hready r calls)
        (ordered_start hready r calls) N
    · have hstate := Ordered.iterate (w := w) (.inl hfirst) hcorrect k
      have htally := Ordered.tally_iterate (w := w) (.inl hfirst) hcorrect k
      rw [← hordered] at hdone hstate
      obtain ⟨more, hserved, hsame, hends⟩ :=
        hserved.drained w deliver hstate hdone
      refine ⟨more + n, k, ?_⟩
      rw [Function.iterate_add_apply]
      rw [← hsame] at hordered hdone hstate
      rw [← hordered] at htally ⊢
      generalize (tick w deliver)^[more] _ = last at hserved hdone hstate htally hends ⊢
      have hcalls : (start d r calls).tally = calls := by
        obtain ⟨last, hidle⟩ := hready.idle
        simp only [tally, start, hidle, ReconcilePhase.left, if_true, List.length_nil]
        omega
      rcases hstate with hstate | hstate
      · obtain ⟨hanswered, hparked, hchannel, hended⟩ := hserved.complete hstate hends
        have hall : last.outcomes.length = calls := by
          rw [← hended, ← hcalls]
          exact htally
        exact ⟨hends, hdone, rfl, rfl, hstate.taken, fun _ =>
          ⟨hall, hstate.outcomes, hanswered, hparked, hchannel⟩⟩
      · refine ⟨hends, hdone, rfl, rfl, hstate.answers, fun hnone => ?_⟩
        obtain ⟨error, -, hfault⟩ := hstate.failed
        have hfault : last.fault = some error := hfault
        rw [hnone] at hfault
        cases hfault
    · exact hleaves.elim

end Reconciling

namespace Sample

def surroundings : Surroundings where
  serverId := serverId
  attemptGeneration := 1
  storage _ := ⟨id, ⟨5, none⟩⟩
  traversal _ keys := keys
  encode _ := none
  requested _ := false
  traversal_perm _ _ := .refl _

def obliging : Reply
  | _, ⟨_, .unregisterTunnel tunnelId revision⟩ => .unregisterTunnelOk tunnelId revision
  | _, ⟨_, .registerTunnel m⟩ => .registerTunnelOk m.tunnelId m.desiredRevision
  | _, ⟨_, message⟩ => message

theorem correct_obliging : obliging.Correct := by
  intro n req hreq
  obtain ⟨rid, msg⟩ := req
  cases msg with
  | unregisterTunnel tid rev => exact .removed tid rev
  | registerTunnel m => exact .accepted m
  | _ => cases hreq

/-- The last request is answered first, after a ping. -/
def lastFirst : Deliver :=
  fun earlier window => ⟨0, .ping 1⟩ :: (replies obliging earlier.length window).reverse

theorem arranges_lastFirst : Arranges obliging lastFirst := by
  intro earlier win hrq
  have ha : answersIn (lastFirst earlier win) =
      (replies obliging earlier.length win).reverse := by
    rw [answersIn, lastFirst, List.filter_cons_of_neg (by decide)]
    refine List.filter_eq_self.2 ?_
    intro frm hmem
    obtain ⟨req, hreq, k, rfl⟩ := mem_replies _ (List.mem_reverse.1 hmem)
    have hr := isResponse_reply k correct_obliging (hrq req hreq) req.requestId
    generalize obliging k req = message at hr
    cases message <;> first | rfl | cases hr
  rw [ha]
  exact List.reverse_perm _

/-- Two tunnels are registered that no row asks for; the row there is wants another. -/
def staleSession : ServerSession where
  serverId := serverId.text
  selectedCapabilities := 0x7
  registered := (∅ : Map Bytes RegisteredTunnel).insert
    (ascii "tun_00000000000000000000000000000002") ⟨1, ⟨ascii "0.0.0.0", 6001⟩⟩ |>.insert
    (ascii "tun_00000000000000000000000000000003") ⟨4, ⟨ascii "0.0.0.0", 6002⟩⟩
  localEndpoints := ∅
  bufferedResponses := ∅
  nextRequestId := 3
  phase := .idle none
  awaited := []

theorem ready_staleSession : Reconciling.Ready staleSession :=
  ⟨⟨none, rfl⟩, rfl, rfl, by decide⟩

def reconciler : TunnelReconciler :=
  ⟨(∅ : Map Bytes Nat).insert serverId.text 1, tunnels⟩

end Sample

open Sample

theorem Reconciling.reconcile_last_first :
    (∀ n, size ((tick surroundings lastFirst)^[n]
      (start staleSession reconciler 1)).session.bufferedResponses ≤
        tunnelSyncWindow) ∧
    ∃ n k, SameEnd obliging 1 ((tick surroundings lastFirst)^[n] (start staleSession reconciler 1))
      ((tick surroundings (inOrder obliging))^[k] (start staleSession reconciler 1)) :=
  reconcile_in_any_order surroundings correct_obliging arranges_lastFirst
    ready_staleSession reconciler 1

end MiniTun.Daemon
