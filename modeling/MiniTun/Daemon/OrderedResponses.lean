import MiniTun.Daemon.ReconcileCalls
import MiniTun.Lib.StutteringSimulation

/-!
# Answers in the order of the requests

The run in which the server answers each window in its order is what the other runs
are compared with.  In it nothing is ever parked, every answer is the one the session
waits for, and a call fails only if something outside the session does.
-/

namespace MiniTun.Daemon

open KeyedMap Storage StutteringSimulation

/-- The answer the server gives to each request. -/
abbrev Reply := Nat → ControlFrame → ControlMessage

/-- The answers the protocol has for a request. -/
inductive CorrectAnswer : ControlMessage → ControlMessage → Prop where
  | removed (tunnelId : Bytes) (revision : Nat) :
      CorrectAnswer (.unregisterTunnel tunnelId revision) (.unregisterTunnelOk tunnelId revision)
  | accepted (m : RegisterTunnelMessage) :
      CorrectAnswer (.registerTunnel m) (.registerTunnelOk m.tunnelId m.desiredRevision)
  /-- The decoder lets no other code through. -/
  | rejected (m : RegisterTunnelMessage) {code : ErrorCode} (hcode : code ≠ .ok) :
      CorrectAnswer (.registerTunnel m) (.registerTunnelError m.tunnelId code m.desiredRevision)

/-- Every request gets such an answer. -/
def Reply.Correct (reply : Reply) : Prop :=
  ∀ n request, request.isRequest = true → CorrectAnswer request.message (reply n request)

/-- The answers to consecutive requests, the first of which is the `n`-th. -/
def replies (reply : Reply) (n : Nat) (requests : List ControlFrame) : List ControlFrame :=
  (requests.zipIdx n).map fun r => ⟨r.1.requestId, reply r.2 r.1⟩

def inOrder (reply : Reply) : Deliver :=
  fun earlier window => replies reply earlier.length window

section Replies

variable (reply : Reply) (n : Nat)

theorem replies_cons (req : ControlFrame) (reqs : List ControlFrame) :
    replies reply n (req :: reqs) =
      ⟨req.requestId, reply n req⟩ :: replies reply (n + 1) reqs := by
  simp [replies]

theorem replies_append (reqs more : List ControlFrame) :
    replies reply n (reqs ++ more) =
      replies reply n reqs ++ replies reply (n + reqs.length) more := by
  simp [replies, List.zipIdx_append]

theorem length_replies (reqs : List ControlFrame) :
    (replies reply n reqs).length = reqs.length := by
  simp [replies]

theorem requestIds_replies (reqs : List ControlFrame) :
    (replies reply n reqs).map ControlFrame.requestId =
      reqs.map ControlFrame.requestId := by
  induction reqs generalizing n with
  | nil => rfl
  | cons req reqs ih => rw [replies_cons, List.map_cons, List.map_cons, ih]

variable {reply}

theorem mem_replies {reqs : List ControlFrame} {frm : ControlFrame}
    (h : frm ∈ replies reply n reqs) :
    ∃ req ∈ reqs, ∃ k, frm = ⟨req.requestId, reply k req⟩ := by
  obtain ⟨⟨req, k⟩, hmem, rfl⟩ := List.mem_map.1 h
  exact ⟨req, List.fst_mem_of_mem_zipIdx hmem, k, rfl⟩

theorem isResponse_reply (h : reply.Correct) {req : ControlFrame}
    (hreq : req.isRequest = true) (rid : Nat) :
    (⟨rid, reply n req⟩ : ControlFrame).isResponse = true := by
  have ha := h n req hreq
  generalize req.message = asked, reply n req = answer at ha
  cases ha with
  | removed => rfl
  | accepted => rfl
  | rejected => rfl

end Replies

/-! ## The numbers of a window -/

variable {α : Type*} {requestId : Nat}

theorem numberRequests_map {β : Type*} (f : α → β) (requestId : Nat) (win : List α) :
    numberRequests requestId (win.map f) =
      (numberRequests requestId win).map fun r => (r.1, f r.2) := by
  induction win generalizing requestId with
  | nil => rfl
  | cons a win ih => rw [List.map_cons, numberRequests, numberRequests, ih, List.map_cons]

theorem length_numberRequests (requestId : Nat) (win : List α) :
    (numberRequests requestId win).length = win.length := by
  rw [← List.length_map Prod.snd, map_snd_numberRequests]

/-- The `i`-th number after the given one, as long as there is one wrap at most. -/
def requestIdAt (requestId i : Nat) : Nat :=
  if requestId < 2 ^ 64 ∧ 2 ^ 64 ≤ requestId + i then requestId + i - 2 ^ 64 + 3 else requestId + i

theorem requestIdAt_requestIdAfter {i : Nat} (hi : i < 2 ^ 63) :
    requestIdAt (requestIdAfter requestId) i = requestIdAt requestId (i + 1) := by
  unfold requestIdAt requestIdAfter
  split <;> split <;> split <;> omega

theorem requestIds_numberRequests (requestId : Nat) (win : List α) (hlen : win.length ≤ 2 ^ 63) :
    (numberRequests requestId win).map Prod.fst =
      (List.range win.length).map (requestIdAt requestId) := by
  induction win generalizing requestId with
  | nil => rfl
  | cons a win ih =>
    have hfst : requestIdAt requestId 0 = requestId := by
      unfold requestIdAt
      split <;> omega
    rw [List.length_cons] at hlen
    rw [numberRequests, List.map_cons, ih _ (by omega), List.length_cons, List.range_succ_eq_map,
      List.map_cons, hfst, List.map_map]
    congr 1
    apply List.map_congr_left
    intro i hi
    rw [List.mem_range] at hi
    exact requestIdAt_requestIdAfter (by omega)

theorem nodup_numberRequests (requestId : Nat) {win : List α}
    (hlen : win.length ≤ tunnelSyncWindow) :
    ((numberRequests requestId win).map Prod.fst).Nodup := by
  unfold tunnelSyncWindow at hlen
  rw [requestIds_numberRequests requestId win (by omega)]
  refine List.Nodup.map_on ?_ List.nodup_range
  intro i hi j hj heq
  rw [List.mem_range] at hi hj
  unfold requestIdAt at heq
  split at heq <;> split at heq <;> omega

theorem requestIdAfter_ne_zero (requestId : Nat) : requestIdAfter requestId ≠ 0 := by
  unfold requestIdAfter
  split <;> omega

theorem ne_zero_of_mem_numberRequests (h : requestId ≠ 0) {win : List α} {a : Nat × α}
    (hmem : a ∈ numberRequests requestId win) : a.1 ≠ 0 := by
  induction win generalizing requestId with
  | nil => cases hmem
  | cons b win ih =>
    rcases List.mem_cons.1 hmem with rfl | hmem
    · exact h
    · exact ih (requestIdAfter_ne_zero requestId) hmem

theorem repeat_requestIdAfter_ne_zero (h : requestId ≠ 0) (n : Nat) :
    Nat.repeat requestIdAfter n requestId ≠ 0 := by
  cases n with
  | zero => exact h
  | succ n => exact requestIdAfter_ne_zero _

/-! ## Taking an answer -/

namespace Reconciling

variable (w : Surroundings) (reply : Reply) (m : Reconciling)

/-- The session takes the answer to its next request; `parked` and `channel` are what is
left of the frames. -/
def answering (request : Awaited) (rest : List (Nat × Awaited)) (frame : ControlFrame)
    (parked : Map Nat ControlFrame) (channel : List ControlFrame) : Reconciling :=
  let (fault, persistence) :=
    if m.session.accepts request frame.message then
      w.recordAnswer request frame.message m.persistence
    else (none, m.persistence)
  { m with
    session := (m.session.handleResponse request rest frame.message fault).parking parked
    persistence := persistence
    channel := channel
    answered := m.answered ++ [frame]
    fault := fault }.settle

theorem answering_frames (req : Awaited) (rest : List (Nat × Awaited)) (frm : ControlFrame)
    (parked : Map Nat ControlFrame) (chan : List ControlFrame) :
    (m.answering w req rest frm parked chan).session.bufferedResponses = parked ∧
      (m.answering w req rest frm parked chan).channel = chan ∧
      (m.answering w req rest frm parked chan).sent = m.sent ∧
      (m.answering w req rest frm parked chan).answered = m.answered ++ [frm] := by
  simp only [answering]
  generalize hm : Reconciling.mk _ _ _ _ _ _ _ _ = before
  obtain ⟨outcomes, heq⟩ := before.settle_eq
  rw [heq, ← hm]
  exact ⟨rfl, rfl, rfl, rfl⟩

section Answering

variable {m} {requestId : Nat} {req : Awaited} {rest : List (Nat × Awaited)}
  {frm : ControlFrame}

theorem reading_of_awaited {d : ServerSession} (ha : d.awaited = (requestId, req) :: rest)
    (hp : d.phase.isFailed = false) : d.reading = true := by
  unfold ServerSession.reading
  split
  · next h => rw [h] at hp; cases hp
  · rfl
  · rw [ha]
    rfl

section Awaiting

variable (hawaited : m.session.awaited = (requestId, req) :: rest)
include hawaited

theorem read_of_parked (hph : m.session.phase.isFailed = false)
    (hp : m.session.bufferedResponses.lookup requestId = some frm) :
    m.read w = m.answering w req rest frm (m.session.bufferedResponses.erase requestId)
      m.channel := by
  have hr : m.session.reading = true := reading_of_awaited hawaited hph
  have hn : m.session.nextAnswer m.channel = some frm := by
    simp only [ServerSession.nextAnswer, hawaited, hp]
  have hrec : m.recordRead w = if m.session.accepts req frm.message then
      w.recordAnswer req frm.message m.persistence else (none, m.persistence) := by
    simp only [recordRead, hn, hawaited]
  have hrc : ∀ flt, m.session.receive m.channel flt =
      ((m.session.handleResponse req rest frm.message flt).parking
        (m.session.bufferedResponses.erase requestId), [], m.channel) := by
    intro flt
    simp only [ServerSession.receive, hr, hawaited, hp]
    rw [← hawaited]
    exact congrArg (·, [], m.channel) (m.session.handleResponse_parking _ _ _ _ _)
  simp only [read, hrec, hrc, hn, Option.toList_some, answering]

theorem read_of_channel (hph : m.session.phase.isFailed = false)
    (hp : m.session.bufferedResponses.lookup requestId = none) {chan : List ControlFrame}
    (hc : m.channel = frm :: chan) (hid : frm.requestId = requestId)
    (hr : frm.isResponse = true) :
    m.read w = m.answering w req rest frm m.session.bufferedResponses chan := by
  have hre : m.session.reading = true := reading_of_awaited hawaited hph
  have hnt : frm.isNotice = false := by
    obtain ⟨_, msg⟩ := frm
    cases msg <;> first | rfl | cases hr
  have hn : m.session.nextAnswer m.channel = some frm := by
    simp [ServerSession.nextAnswer, hawaited, hp, hc, hnt, hid]
  have hrec : m.recordRead w = if m.session.accepts req frm.message then
      w.recordAnswer req frm.message m.persistence else (none, m.persistence) := by
    simp only [recordRead, hn, hawaited]
  have hrc : ∀ flt, m.session.receive m.channel flt =
      (m.session.handleResponse req rest frm.message flt, [], chan) := by
    intro flt
    subst hid
    simp only [ServerSession.receive, hre, hawaited, hp, hc, Bool.true_eq_false,
      if_false, m.session.readResponse_of_response hr]
  have hs : ∀ flt, (m.session.handleResponse req rest frm.message flt).parking
      m.session.bufferedResponses = m.session.handleResponse req rest frm.message flt :=
    fun flt => (m.session.handleResponse_parking _ _ _ _ _).symm
  simp only [read, hrec, hrc, hn, Option.toList_some, answering, hs]

theorem read_of_other (hph : m.session.phase.isFailed = false)
    (hp : m.session.bufferedResponses.lookup requestId = none) {chan : List ControlFrame}
    (hc : m.channel = frm :: chan)
    (ho : frm.isNotice = true ∨ frm.requestId ≠ requestId) :
    m.read w = { m with
      session := (m.session.readResponse requestId req rest frm none).1
      channel := chan
      fault := none }.settle := by
  have hr : m.session.reading = true := reading_of_awaited hawaited hph
  have hn : m.session.nextAnswer m.channel = none := by
    simp only [ServerSession.nextAnswer, hawaited, hp, hc]
    rw [Option.filter_eq_none_iff]
    rintro _ ⟨⟩ htrue
    rw [decide_eq_true_eq] at htrue
    rcases ho with hnt | hid
    · rw [hnt] at htrue
      cases htrue.1
    · exact hid htrue.2
  have hrec : m.recordRead w = (none, m.persistence) := by
    simp only [recordRead, hn]
  have hrc : m.session.receive m.channel none =
      ((m.session.readResponse requestId req rest frm none).1,
        (m.session.readResponse requestId req rest frm none).2, chan) := by
    simp only [ServerSession.receive, hr, hawaited, hp, hc, Bool.true_eq_false, if_false]
  simp only [read, hrec, hrc, hn, Option.toList_none, List.append_nil]

end Awaiting

theorem readResponse_of_notice (d : ServerSession) (hn : frm.isNotice = true) :
    (d.readResponse requestId req rest frm none).1 = d := by
  obtain ⟨_, msg⟩ := frm
  cases msg <;> first | rfl | cases hn

theorem readResponse_of_early (d : ServerSession) (hr : frm.isResponse = true)
    (hid : frm.requestId ≠ requestId) (hz : frm.requestId ≠ 0) :
    (d.readResponse requestId req rest frm none).1 =
      if tunnelSyncWindow ≤ size d.bufferedResponses ∨
          (d.bufferedResponses.lookup frm.requestId).isSome then d.fail correlationError
      else d.parking (d.bufferedResponses.insert frm.requestId frm) := by
  have href : (frm.isResponse = false ∨ frm.requestId = 0 ∨
      tunnelSyncWindow ≤ size d.bufferedResponses ∨
      (d.bufferedResponses.lookup frm.requestId).isSome) ↔
      (tunnelSyncWindow ≤ size d.bufferedResponses ∨
      (d.bufferedResponses.lookup frm.requestId).isSome) := by
    simp [hr, hz]
  unfold ServerSession.readResponse
  split
  · next hmsg => simp [ControlFrame.isResponse, hmsg] at hr
  · next hmsg => simp [ControlFrame.isResponse, hmsg] at hr
  · rw [if_neg hid]
    simp only [href]
    split
    · rfl
    · rfl

end Answering

/-! ## The ordered run behind a run -/

/-- The answers the session has not taken yet, in the order of the requests. -/
def unread : List ControlFrame :=
  replies reply m.answered.length (m.sent.drop m.answered.length)

/-- The same run, had all the answers come in the order of the requests. -/
def ordered : Reconciling :=
  { m with session := m.session.parking ∅, channel := m.unread reply }

theorem ordered_settle : m.settle.ordered reply = (m.ordered reply).settle := by
  have hp : (m.ordered reply).session.phase = m.session.phase := rfl
  simp only [settle, hp]
  split
  · rfl
  · rfl
  · rfl

theorem unread_append (reqs : List ControlFrame) (h : m.answered.length ≤ m.sent.length) :
    ({ m with sent := m.sent ++ reqs } : Reconciling).unread reply =
      m.unread reply ++ replies reply m.sent.length reqs := by
  simp only [unread]
  rw [List.drop_append_of_le_length h, replies_append, List.length_drop, Nat.add_sub_cancel' h]

theorem ordered_proceed (deliver : Deliver) (h : m.answered.length ≤ m.sent.length) :
    (m.proceed w deliver).ordered reply = (m.ordered reply).proceed w (inOrder reply) := by
  have hrec : w.recordAdvance (m.session.parking ∅) m.persistence =
      w.recordAdvance m.session m.persistence := rfl
  have ha := m.session.advance_parking ∅
  simp only [proceed, ordered_settle]
  simp only [ordered, ha, inOrder, ← m.unread_append reply _ h]
  rfl

section Taking

variable {m} {frm : ControlFrame} {unread : List ControlFrame}
  (hunread : m.unread reply = frm :: unread) (req : Awaited) (rest : List (Nat × Awaited))
  (parked : Map Nat ControlFrame) (chan : List ControlFrame)

include hunread

theorem unread_answering :
    (m.answering w req rest frm parked chan).unread reply = unread := by
  obtain ⟨-, -, hs, ha⟩ := m.answering_frames w req rest frm parked chan
  rw [Reconciling.unread] at hunread ⊢
  rw [hs, ha, List.length_append, ← List.drop_drop]
  cases hop : m.sent.drop m.answered.length with
  | nil => simp [hop, replies] at hunread
  | cons asked more =>
    rw [hop] at hunread
    exact (List.cons.inj hunread).2

theorem ordered_answering :
    (m.answering w req rest frm parked chan).ordered reply =
      (m.ordered reply).answering w req rest frm ∅ unread := by
  have ha : (m.ordered reply).session.accepts req frm.message =
      m.session.accepts req frm.message := m.session.accepts_parking ∅ _ _
  have hh : ∀ flt, (m.ordered reply).session.handleResponse req rest frm.message flt =
      (m.session.handleResponse req rest frm.message flt).parking ∅ :=
    fun flt => m.session.handleResponse_parking ∅ req rest frm.message flt
  have hr := unread_answering w reply hunread req rest parked chan
  obtain ⟨-, -, hs, han⟩ := m.answering_frames w req rest frm parked chan
  rw [Reconciling.unread, hs, han] at hr
  unfold answering
  rw [ordered_settle]
  simp only [ha, hh]
  simp only [ordered, Reconciling.unread, hr]
  rfl

end Taking

theorem ordered_begin : (m.begin w).ordered reply = (m.ordered reply).begin w := by
  unfold begin
  rw [ordered_settle]
  simp only [ordered, ServerSession.startReconcile_parking]
  rfl

end Reconciling

end MiniTun.Daemon
