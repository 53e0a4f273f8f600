import MiniTun.Daemon.ReconcileOrder

/-!
# Copies of answers

A copy of an answer that has been taken is parked like an answer that comes before its
turn, and nothing ever takes it out again.  So a session bears one copy of each answer,
and a window of copies in all; the next one fails the call that reads it.  Between two
calls it bears none: there `heartbeat_loop` reads, and ends the session with the first.
-/

namespace MiniTun.Daemon

open KeyedMap Storage StutteringSimulation

/-- Which answers are repeated behind the first `n`, before the next one comes. -/
abbrev Copies := Nat → List Nat

/-- Only what has been answered is repeated. -/
def Copies.Later (copies : Copies) : Prop :=
  ∀ n, ∀ k ∈ copies n, k < n

/-- The answers from the `n`-th on, each with the copies behind it; `script` are the answers to
all requests. -/
def interleaved (copies : Copies) (script : List ControlFrame) :
    Nat → List ControlFrame → List ControlFrame
  | _, [] => []
  | n, answer :: rest =>
    answer :: ((copies (n + 1)).filterMap (script[·]?) ++ interleaved copies script (n + 1) rest)

/-- The server answers in order and repeats answers in between. -/
def withCopies (reply : Reply) (copies : Copies) : Deliver :=
  fun earlier window => interleaved copies (replies reply 0 (earlier ++ window)) earlier.length
    (replies reply earlier.length window)

/-- The copies the session has read when it has taken `n` answers. -/
def Copies.before (copies : Copies) (n : Nat) : List Nat :=
  (List.range n).flatMap copies

/-- No answer is repeated twice, and no more than a window in all. -/
def Copies.Harmless (copies : Copies) (n : Nat) : Prop :=
  (copies.before n).Nodup ∧ (copies.before n).length ≤ tunnelSyncWindow

/-- No call of `reconcile_tunnels` runs. -/
def ReconcilePhase.isIdle : ReconcilePhase → Bool
  | .idle _ => true
  | _ => false

/-- Between two calls no copy waits to be read: none has come behind the last answer, or the
next call starts first. -/
def Reconciling.Spared (w : Surroundings) (copies : Copies) (m : Reconciling) : Prop :=
  m.session.phase.isIdle = true → copies m.answered.length = [] ∨
    m.calls ≠ 0 ∧ w.requested m.outcomes.length = true

instance (w : Surroundings) (copies : Copies) (m : Reconciling) :
    Decidable (m.Spared w copies) :=
  inferInstanceAs (Decidable (_ → _))

instance (copies : Copies) (n : Nat) : Decidable (copies.Harmless n) :=
  inferInstanceAs (Decidable (_ ∧ _))

theorem Copies.before_succ (copies : Copies) (n : Nat) :
    copies.before (n + 1) = copies.before n ++ copies n := by
  simp [Copies.before, List.range_succ]

theorem Copies.Harmless.mono {copies : Copies} {n m : Nat} (h : copies.Harmless m) (hle : n ≤ m) :
    copies.Harmless n := by
  induction hle with
  | refl => exact h
  | step _ ih =>
    obtain ⟨hn, hlen⟩ := h
    rw [Copies.before_succ] at hn hlen
    rw [List.length_append] at hlen
    exact ih ⟨hn.of_append_left, by omega⟩

variable {k : Nat} {requests : List ControlFrame}

theorem Copies.Later.lt_of_mem {copies : Copies} (h : copies.Later) {n : Nat}
    (hmem : k ∈ copies.before n) : k < n := by
  obtain ⟨i, hi, hk⟩ := List.mem_flatMap.1 hmem
  exact (h i k hk).trans (List.mem_range.1 hi)

/-- The number of the `k`-th request. -/
def numberOf (requests : List ControlFrame) (k : Nat) : Nat :=
  (requests[k]?.map ControlFrame.requestId).getD 0

theorem numberOf_append (h : k < requests.length) (more : List ControlFrame) :
    numberOf (requests ++ more) k = numberOf requests k := by
  rw [numberOf, List.getElem?_append_left h, numberOf]

theorem numberOf_inj (hids : (requests.map ControlFrame.requestId).Nodup) {j : Nat}
    (hj : j < requests.length) (hk : k < requests.length)
    (heq : numberOf requests j = numberOf requests k) : j = k := by
  refine (List.getElem?_inj (by rwa [List.length_map]) hids).1 ?_
  simp only [numberOf, List.getElem?_eq_getElem hj, List.getElem?_eq_getElem hk, Option.map_some,
    Option.getD_some] at heq
  rw [List.getElem?_map, List.getElem?_map, List.getElem?_eq_getElem hj,
    List.getElem?_eq_getElem hk, Option.map_some, Option.map_some, heq]

theorem requestId_of_getElem? {reply : Reply} {frm : ControlFrame}
    (h : (replies reply 0 requests)[k]? = some frm) : frm.requestId = numberOf requests k := by
  have hids := congrArg (·[k]?) (requestIds_replies reply 0 requests)
  simp only [List.getElem?_map, h, Option.map_some] at hids
  rw [numberOf, ← hids, Option.getD_some]

namespace Reconciling

variable {w : Surroundings} {reply : Reply} {copies : Copies} {m : Reconciling}

/-- The copies behind the last answer taken are `read ++ ahead`, and the first part has been
read: what is parked are the copies read, what is in the channel is the rest and the answers that
are open. -/
structure Copied (reply : Reply) (copies : Copies) (read ahead : List Nat) (m : Reconciling) :
    Prop where
  parked : m.session.bufferedResponses.keys.Perm
    ((copies.before m.answered.length ++ read).map (numberOf m.sent))
  bounded : (copies.before m.answered.length ++ read).length ≤ tunnelSyncWindow
  split : copies m.answered.length = read ++ ahead
  closed : m.unread reply = [] → read = []
  channel : m.channel = ahead.filterMap ((replies reply 0 m.sent)[·]?) ++
    interleaved copies (replies reply 0 m.sent) m.answered.length (m.unread reply)

variable {read ahead : List Nat}

theorem Copied.settle (h : m.Copied reply copies read ahead) :
    m.settle.Copied reply copies read ahead := by
  obtain ⟨outcomes, heq⟩ := m.settle_eq
  rw [heq]
  exact ⟨h.parked, h.bounded, h.split, h.closed, h.channel⟩

theorem copied_start {d : ServerSession} (h : Ready d) (hl : copies.Later) (r : TunnelReconciler)
    (calls : Nat) : (start d r calls).Copied reply copies [] [] := by
  have hparked : (start d r calls).session.bufferedResponses = ∅ := h.parked
  have hnone : copies 0 = [] :=
    List.eq_nil_iff_forall_not_mem.2 fun k hk => absurd (hl 0 k hk) k.not_lt_zero
  refine ⟨?_, Nat.zero_le _, hnone, fun _ => rfl, rfl⟩
  rw [hparked]
  exact .refl _

theorem Copied.begin (h : m.Copied reply copies read ahead) :
    (m.begin w).Copied reply copies read ahead := by
  apply Copied.settle
  refine ⟨?_, h.bounded, h.split, h.closed, h.channel⟩
  rw [ServerSession.bufferedResponses_startReconcile]
  exact h.parked

theorem Copied.lt_of_seen (h : m.Copied reply copies read ahead) (hl : copies.Later)
    (hk : k ∈ copies.before m.answered.length ++ (read ++ ahead)) : k < m.answered.length := by
  rcases List.mem_append.1 hk with hk | hk
  · exact hl.lt_of_mem hk
  · rw [← h.split] at hk
    exact hl _ k hk

theorem Copied.proceed (h : m.Copied reply copies read ahead) (hl : copies.Later)
    (hu : m.unread reply = []) (hle : m.answered.length ≤ m.sent.length) :
    (m.proceed w (withCopies reply copies)).Copied reply copies read ahead := by
  have hall : m.answered.length = m.sent.length := by
    have hno := congrArg List.length hu
    rw [Reconciling.unread, length_replies, List.length_drop, List.length_nil] at hno
    omega
  simp only [Reconciling.proceed]
  apply Copied.settle
  generalize (w.recordAdvance m.session m.persistence).1.map (Interruption.mk · 0) = interruption
  have hopen := m.unread_append reply (m.session.advance interruption).2 hle
  rw [hu, List.nil_append] at hopen
  -- what has been repeated is looked up in the part of the script that was there before
  have hscript : ∀ k ∈ ahead, (replies reply 0 m.sent)[k]? =
      (replies reply 0 (m.sent ++ (m.session.advance interruption).2))[k]? := by
    intro k hk
    have hlt := h.lt_of_seen hl (List.mem_append_right _ (List.mem_append_right _ hk))
    rw [replies_append, List.getElem?_append_left]
    rw [length_replies]
    omega
  refine ⟨?_, h.bounded, h.split, fun _ => h.closed hu, ?_⟩
  · rw [ServerSession.bufferedResponses_advance]
    refine h.parked.trans (List.Perm.of_eq (List.map_congr_left fun k hk => ?_))
    have hlt := h.lt_of_seen hl (by
      rw [← List.append_assoc]
      exact List.mem_append_left _ hk)
    exact (numberOf_append (hall ▸ hlt) _).symm
  · have hchannel := h.channel
    rw [hu, interleaved, List.append_nil, List.filterMap_congr hscript] at hchannel
    rw [← hall] at hopen
    simp only [withCopies, hchannel, ← hall]
    exact congrArg (fun rest => _ ++ interleaved copies _ m.answered.length rest) hopen.symm

section Awaiting

variable {rid k : Nat} {req : Awaited} {rest : List (Nat × Awaited)}

theorem Copied.lookup_isSome (h : m.Copied reply copies read ahead) (hl : copies.Later)
    (hids : (m.sent.map ControlFrame.requestId).Nodup)
    (hle : m.answered.length ≤ m.sent.length) (hk : k < m.sent.length) :
    (m.session.bufferedResponses.lookup (numberOf m.sent k)).isSome = true ↔
      k ∈ copies.before m.answered.length ++ read := by
  rw [AList.lookup_isSome, AList.mem_keys, h.parked.mem_iff, List.mem_map]
  constructor
  · rintro ⟨j, hj, heq⟩
    have hseen : j ∈ copies.before m.answered.length ++ (read ++ ahead) := by
      rw [← List.append_assoc]
      exact List.mem_append_left _ hj
    have hlt := h.lt_of_seen hl hseen
    exact numberOf_inj hids (by omega) hk heq ▸ hj
  · intro hseen
    exact ⟨k, hseen, rfl⟩

theorem Copied.size_eq (h : m.Copied reply copies read ahead) :
    size m.session.bufferedResponses = (copies.before m.answered.length ++ read).length := by
  have hlen := h.parked.length_eq
  rw [List.length_map] at hlen
  rw [← hlen]
  exact (List.length_map _).symm

theorem Copied.answering (h : m.Copied reply copies read []) {answer : ControlFrame}
    {unread : List ControlFrame} (hu : m.unread reply = answer :: unread) :
    (m.answering w req rest answer m.session.bufferedResponses
      ((copies (m.answered.length + 1)).filterMap ((replies reply 0 m.sent)[·]?) ++
        interleaved copies (replies reply 0 m.sent) (m.answered.length + 1) unread)).Copied reply
      copies [] (copies (m.answered.length + 1)) := by
  generalize hrest : (copies (m.answered.length + 1)).filterMap ((replies reply 0 m.sent)[·]?) ++
    interleaved copies (replies reply 0 m.sent) (m.answered.length + 1) unread = channel
  obtain ⟨hparked, hchannel, hsent, hanswered⟩ :=
    m.answering_frames w req rest answer m.session.bufferedResponses channel
  have hlength : (m.answered ++ [answer]).length = m.answered.length + 1 := by
    rw [List.length_append, List.length_singleton]
  have hread := h.split
  rw [List.append_nil] at hread
  have hbefore : copies.before (m.answered.length + 1) ++ [] =
      copies.before m.answered.length ++ read := by
    rw [List.append_nil, Copies.before_succ, hread]
  refine ⟨?_, ?_, ?_, fun _ => rfl, ?_⟩
  · rw [hparked, hsent, hanswered, hlength, hbefore]
    exact h.parked
  · rw [hanswered, hlength, hbefore]
    exact h.bounded
  · rw [hanswered, hlength]
    rfl
  · rw [hchannel, hsent, hanswered, hlength, unread_answering w reply hu, hrest]

theorem Copied.lookup_awaited (h : m.Copied reply copies read ahead) (hl : copies.Later)
    (hord : (m.ordered reply).InStep reply)
    (hids : (m.sent.map ControlFrame.requestId).Nodup)
    (ha : m.session.awaited = (rid, req) :: rest) :
    m.unread reply ≠ [] ∧ m.answered.length < m.sent.length ∧
      numberOf m.sent m.answered.length = rid ∧
      m.session.bufferedResponses.lookup rid = none := by
  obtain ⟨asked, more, hn⟩ := hord.nextAnswer ha
  have hne : m.unread reply ≠ [] := by
    have hu : m.unread reply = _ := hn.unread
    rw [hu]
    exact List.cons_ne_nil _ _
  have hask : m.sent[m.answered.length]? = some asked := by
    have hs : m.sent.drop m.answered.length = asked :: more := hn.sent
    rw [← List.head?_drop, hs, List.head?_cons]
  have hnm : numberOf m.sent m.answered.length = rid := by
    rw [numberOf, hask]
    exact hn.requestId_eq
  have ht : m.answered.length < m.sent.length := (List.getElem?_eq_some_iff.1 hask).1
  refine ⟨hne, ht, hnm, ?_⟩
  rw [← Option.not_isSome_iff_eq_none, ← hnm, h.lookup_isSome hl hids hord.answered_le ht]
  intro hseen
  have hlt := h.lt_of_seen hl (by rw [← List.append_assoc]; exact List.mem_append_left _ hseen)
  exact Nat.lt_irrefl _ hlt

/-- The first copy in the channel is an answer that has been given. -/
theorem Copied.head (h : m.Copied reply copies read (k :: ahead)) (hl : copies.Later)
    (hle : m.answered.length ≤ m.sent.length) : k < m.answered.length ∧
      ∃ frame, (replies reply 0 m.sent)[k]? = some frame ∧
        m.channel = frame :: (ahead.filterMap ((replies reply 0 m.sent)[·]?) ++
          interleaved copies (replies reply 0 m.sent) m.answered.length (m.unread reply)) := by
  have hk : k < m.answered.length := h.lt_of_seen hl (by simp)
  have hlen : k < (replies reply 0 m.sent).length := by
    rw [length_replies]
    omega
  refine ⟨hk, _, List.getElem?_eq_getElem hlen, ?_⟩
  rw [h.channel, List.filterMap_cons_some (List.getElem?_eq_getElem hlen), List.cons_append]

theorem read_copy (h : m.Copied reply copies read (k :: ahead)) (hl : copies.Later)
    (hord : (m.ordered reply).InStep reply) (hcr : reply.Correct)
    (hids : (m.sent.map ControlFrame.requestId).Nodup) (hlf : m.session.phase.left ≠ 0)
    (ha : m.session.awaited = (rid, req) :: rest) :
    ((m.read w).Copied reply copies (read ++ [k]) ahead ∧
      (m.read w).ordered reply = m.ordered reply ∧
      (m.read w).channel.length < m.channel.length) ∨
    ¬copies.Harmless (m.answered.length + 1) := by
  have hp : m.session.phase.isFailed = false := hord.paired.not_failed
  have hle : m.answered.length ≤ m.sent.length := hord.answered_le
  obtain ⟨hne, ht, hnm, hlk⟩ := h.lookup_awaited hl hord hids ha
  obtain ⟨hk, frm, hf, hc⟩ := h.head hl hle
  obtain ⟨hrs, hz⟩ :=
    hord.isResponse_of_mem hcr (List.mem_of_getElem? hf)
  have hid := requestId_of_getElem? hf
  have ho : frm.requestId ≠ rid := by
    rw [hid, ← hnm]
    intro heq
    exact absurd (numberOf_inj hids (by omega) ht heq) (by omega)
  have hfe := h.lookup_isSome hl hids hle (by omega : k < m.sent.length)
  rw [← hid] at hfe
  by_cases hr : (copies.before m.answered.length ++ read).length < tunnelSyncWindow ∧
      k ∉ copies.before m.answered.length ++ read
  · left
    have hno : m.session.bufferedResponses.lookup frm.requestId = none := by
      rw [← Option.not_isSome_iff_eq_none, hfe]
      exact hr.2
    rw [read_early ha hlf hp hord.fault hlk hc hrs hz ho (h.size_eq ▸ hr.1) hno]
    refine ⟨⟨?_, ?_, ?_, ?_, rfl⟩, rfl, by rw [hc]; exact Nat.lt_succ_self _⟩
    · have hks : (m.session.bufferedResponses.insert frm.requestId frm).keys =
          frm.requestId :: m.session.bufferedResponses.keys := by
        rw [AList.keys_insert, List.erase_of_not_mem]
        exact AList.lookup_eq_none.1 hno
      change (m.session.bufferedResponses.insert frm.requestId frm).keys.Perm
        ((copies.before m.answered.length ++ (read ++ [k])).map (numberOf m.sent))
      rw [hks, ← List.append_assoc, List.map_append, List.map_singleton, ← hid]
      exact (h.parked.cons _).trans (List.perm_append_singleton _ _).symm
    · rw [← List.append_assoc, List.length_append]
      exact hr.1
    · rw [List.append_assoc]
      exact h.split
    · intro hcl
      exact absurd hcl hne
  · right
    rintro ⟨hn, hlen⟩
    rw [Copies.before_succ, h.split, ← List.append_assoc] at hn hlen
    rw [List.length_append, List.length_cons] at hlen
    refine hr ⟨by omega, fun hseen => ?_⟩
    exact (List.nodup_append.1 hn).2.2 k hseen k List.mem_cons_self rfl

theorem read_after_copies (h : m.Copied reply copies read [])
    (hl : copies.Later) (hord : (m.ordered reply).InStep reply) (hcr : reply.Correct)
    (hids : (m.sent.map ControlFrame.requestId).Nodup)
    (ha : m.session.awaited = (rid, req) :: rest) :
    (m.read w).Copied reply copies [] (copies (m.answered.length + 1)) ∧
      (m.read w).ordered reply = (m.ordered reply).read w := by
  obtain ⟨-, -, -, hlk⟩ := h.lookup_awaited hl hord hids ha
  obtain ⟨asked, more, hn⟩ := hord.nextAnswer ha
  have hu : m.unread reply = _ := hn.unread
  have hc := h.channel
  rw [hu, List.filterMap_nil, List.nil_append, interleaved] at hc
  rw [read_of_channel w ha hord.paired.not_failed hlk hc rfl
    (isResponse_reply _ hcr hn.isRequest rid)]
  refine ⟨h.answering hu, ?_⟩
  rw [ordered_answering w reply hu, hord.read_eq hcr ha hn]

end Awaiting

/-- The next step reads a copy that may not fit, or one between two calls. -/
def Disturbed (w : Surroundings) (reply : Reply) (copies : Copies) (m : Reconciling) : Prop :=
  copies.Harmless ((m.ordered reply).tick w (inOrder reply)).answered.length →
    ¬(m.ordered reply).Spared w copies

/-- **Simulation.** As long as no copy is refused, the run goes through the states of the
run without copies. -/
theorem follows_without_copies (hc : reply.Correct) (hl : copies.Later)
    {first : Reconciling} (hfst : first.InStep reply)
    (hids : ∀ k, (((tick w (inOrder reply))^[k] first).sent.map ControlFrame.requestId).Nodup) :
    Follows (tick w (withCopies reply copies)) (tick w (inOrder reply)) (ordered reply) first
      (fun m => ∃ read ahead, m.Copied reply copies read ahead) (Disturbed w reply copies)
      (fun m => m.channel.length) := by
  apply follows_of_steps hc hfst
  · rintro m ⟨read, ahead, h⟩
    exact ⟨read, ahead, h.begin⟩
  · rintro m ⟨read, ahead, h⟩ hord ha
    have hno : m.unread reply = [] := by
      have hn := hord.requestIds_unread
      have hop : (m.ordered reply).session.awaited = [] := ha
      rw [hop, List.map_nil, List.map_eq_nil_iff] at hn
      exact hn
    exact ⟨_, _, h.proceed hl hno hord.answered_le⟩
  · rintro m n rid req rest ⟨read, ahead, h⟩ hv hord hlf ha
    have hids : (m.sent.map ControlFrame.requestId).Nodup := by
      have hn := hids n
      rw [← hv] at hn
      exact hn
    cases ahead with
    | nil =>
      obtain ⟨hnx, hs⟩ := read_after_copies h hl hord hc hids ha
      exact .inl ⟨⟨_, _, hnx⟩, .inl hs⟩
    | cons k ahead =>
      rcases read_copy h hl hord hc hids hlf ha with ⟨hnx, hs, hless⟩ | hharmful
      · exact .inl ⟨⟨_, _, hnx⟩, .inr ⟨hs, hless⟩⟩
      · refine .inr fun hharmless => absurd ?_ hharmful
        obtain ⟨asked, more, hop⟩ := hord.nextAnswer ha
        rwa [tick_of_awaiting (m := m.ordered reply) w (inOrder reply) hlf ha, hord.read_eq hc
          ha hop, (answering_frames w _ _ _ _ _ _).2.2.2, List.length_append] at hharmless
  · rintro m last frame channel ⟨read, ahead, h⟩ hord hidle hdue hchannel
    refine .inr fun _ hspared => ?_
    have hread := h.closed (hord.channel_of_idle hidle)
    have hunread : m.unread reply = [] := hord.channel_of_idle hidle
    have hisIdle : m.session.phase.isIdle = true := hidle ▸ rfl
    rcases hspared hisIdle with hnone | hrequested
    · have hahead := h.split.symm.trans hnone
      rw [hread, List.nil_append] at hahead
      have hempty := h.channel
      rw [hahead, hunread, hchannel] at hempty
      cases hempty
    · exact hdue (decide_eq_true ⟨hrequested.1, .inr hrequested.2⟩)

/-! ## The end -/

theorem frames_settle (m : Reconciling) :
    m.settle.sent = m.sent ∧ m.settle.answered = m.answered := by
  obtain ⟨outcomes, heq⟩ := m.settle_eq
  rw [heq]
  exact ⟨rfl, rfl⟩

theorem frames_begin (w : Surroundings) (m : Reconciling) :
    (m.begin w).sent = m.sent ∧ (m.begin w).answered = m.answered :=
  frames_settle _

theorem frames_readBetween (w : Surroundings) (m : Reconciling) (frame : ControlFrame)
    (channel : List ControlFrame) : (m.readBetween w frame channel).sent = m.sent ∧
      (m.readBetween w frame channel).answered = m.answered := by
  unfold Reconciling.readBetween
  dsimp only
  split
  · exact frames_settle _
  · split
    · exact frames_begin w _
    · exact ⟨rfl, rfl⟩

theorem grows_tick (w : Surroundings) (deliver : Deliver) (m : Reconciling) :
    m.sent <+: (m.tick w deliver).sent ∧ m.answered <+: (m.tick w deliver).answered := by
  have hkept : ∀ {next : Reconciling}, next.sent = m.sent ∧ next.answered = m.answered →
      m.sent <+: next.sent ∧ m.answered <+: next.answered := by
    rintro next ⟨hsent, hanswered⟩
    rw [hsent, hanswered]
    exact ⟨List.prefix_rfl, List.prefix_rfl⟩
  unfold Reconciling.tick
  split
  · exact hkept ⟨rfl, rfl⟩
  · split
    · exact hkept (frames_begin w m)
    · split
      · exact hkept ⟨rfl, rfl⟩
      · exact hkept (frames_readBetween w m _ _)
  · simp only [Reconciling.proceed, (frames_settle _).1, (frames_settle _).2]
    exact ⟨List.prefix_append _ _, List.prefix_rfl⟩
  · simp only [Reconciling.read, (frames_settle _).1, (frames_settle _).2]
    exact ⟨List.prefix_rfl, List.prefix_append _ _⟩

theorem grows_iterate (w : Surroundings) (deliver : Deliver) (m : Reconciling) {i k : Nat}
    (hle : i ≤ k) : ((tick w deliver)^[i] m).sent <+: ((tick w deliver)^[k] m).sent ∧
      ((tick w deliver)^[i] m).answered <+: ((tick w deliver)^[k] m).answered := by
  induction hle with
  | refl => exact ⟨List.prefix_rfl, List.prefix_rfl⟩
  | step _ ih =>
    obtain ⟨hs, ha⟩ := grows_tick w deliver ((tick w deliver)^[_] m)
    rw [Function.iterate_succ_apply']
    exact ⟨ih.1.trans hs, ih.2.trans ha⟩

theorem iterate_of_done {deliver : Deliver} {k : Nat}
    (hd : ((tick w deliver)^[k] m).done = true) {i : Nat} (hle : k ≤ i) :
    (tick w deliver)^[i] m = (tick w deliver)^[k] m := by
  induction hle with
  | refl => rfl
  | step _ ih => rw [Function.iterate_succ_apply', ih, tick_of_done w deliver hd]

theorem Copied.done (h : m.Copied reply copies read ahead)
    (hdone : (m.ordered reply).done = true)
    (hspared : (m.ordered reply).Spared w copies) : m.done = true := by
  have hphase : (m.ordered reply).session.phase = m.session.phase := rfl
  unfold Reconciling.done at hdone ⊢
  rw [hphase] at hdone
  split at hdone
  · rfl
  · next last hidle =>
    have hcalls : m.calls = 0 := (of_decide_eq_true hdone).1
    have hunread : m.unread reply = [] := (of_decide_eq_true hdone).2
    have hnone : copies m.answered.length = [] :=
      (hspared (hidle ▸ rfl)).resolve_right fun hmore => hmore.1 hcalls
    have hahead : ahead = [] := (List.append_eq_nil_iff.1 (h.split.symm.trans hnone)).2
    have hchannel := h.channel
    rw [hahead, hunread] at hchannel
    exact decide_eq_true ⟨hcalls, hchannel⟩
  · cases hdone

/-- **When copies are ignored.**  The calls of a session end, in order and without copies.
If the numbers of their requests differ, they end with the same results, tables and rows also with
copies of taken answers in between, if among the copies before the last answer no answer is
repeated twice and there are no more than a window of them, and if none waits when
`heartbeat_loop` reads between two calls or behind the last. -/
theorem copies_ignored (w : Surroundings) (hcorrect : reply.Correct) (hlater : copies.Later)
    {d : ServerSession} (hready : Ready d) (r : TunnelReconciler) (calls : Nat) :
    (∃ k, ((tick w (inOrder reply))^[k] (start d r calls)).done = true) ∧
    ∀ k, ((tick w (inOrder reply))^[k] (start d r calls)).done = true →
      (((tick w (inOrder reply))^[k] (start d r calls)).sent.map ControlFrame.requestId).Nodup →
      copies.Harmless ((tick w (inOrder reply))^[k] (start d r calls)).answered.length →
      (∀ j ≤ k, ((tick w (inOrder reply))^[j] (start d r calls)).Spared w copies) →
      ∃ n, ((tick w (withCopies reply copies))^[n] (start d r calls)).done = true ∧
        ((tick w (withCopies reply copies))^[n] (start d r calls)).outcomes =
          ((tick w (inOrder reply))^[k] (start d r calls)).outcomes := by
  have hfirst : (start d r calls).InStep reply := inStep_start hready r calls
  refine ⟨Ordered.exists_done (.inl hfirst) hcorrect, ?_⟩
  intro k hdone hnumbers hharmless hspared
  have hids : ∀ i, (((tick w (inOrder reply))^[i] (start d r calls)).sent.map
      ControlFrame.requestId).Nodup := by
    intro i
    rcases Nat.le_total i k with hle | hle
    · have hsent := (grows_iterate w (inOrder reply) (start d r calls) hle).1
      exact hnumbers.sublist (hsent.sublist.map _)
    · rw [iterate_of_done hdone hle]
      exact hnumbers
  obtain ⟨n, i, ⟨read, ahead, hcopied⟩, hview, rfl | ⟨hlt, hdisturbed⟩⟩ :=
    (follows_without_copies hcorrect hlater hfirst hids).reaches
      ⟨_, _, copied_start hready hlater r calls⟩ (ordered_start hready r calls) k
  · refine ⟨n, hcopied.done (w := w) ?_ ?_, ?_⟩
    · rw [hview]
      exact hdone
    · rw [hview]
      exact hspared i le_rfl
    · rw [← hview]
      rfl
  -- a copy that is refused on the way is among those before the last answer
  · unfold Disturbed at hdisturbed
    rw [hview, ← Function.iterate_succ_apply' (f := tick w (inOrder reply))] at hdisturbed
    exact absurd (hspared i hlt.le) (hdisturbed (hharmless.mono
      (grows_iterate w (inOrder reply) (start d r calls) hlt).2.length_le))

end Reconciling

namespace Sample

/-- The answer to the first request is repeated so often before that to the second. -/
def repeated (times : Nat) : Copies :=
  fun n => if n = 1 then List.replicate times 0 else []

theorem later_repeated (times : Nat) : (repeated times).Later := by
  intro n k hk
  unfold repeated at hk
  split at hk
  · next h => rw [List.eq_of_mem_replicate hk, h]; exact Nat.one_pos
  · cases hk

end Sample

open Sample

theorem Reconciling.one_copy_ignored :
    ∃ n, ((tick surroundings (withCopies obliging (repeated 1)))^[n]
        (start staleSession reconciler 1)).done = true ∧
      ((tick surroundings (withCopies obliging (repeated 1)))^[n]
          (start staleSession reconciler 1)).outcomes =
        ((tick surroundings (inOrder obliging))^[12]
          (start staleSession reconciler 1)).outcomes := by
  exact (copies_ignored surroundings correct_obliging (later_repeated 1) ready_staleSession
    reconciler 1).2 12 (by decide +kernel) (by decide +kernel) (by decide +kernel)
      (by decide +kernel)

/-- Two copies of one answer fail a call that succeeds without them. -/
theorem Reconciling.two_copies_fail :
    (((tick surroundings (inOrder obliging))^[12]
        (start staleSession reconciler 1)).outcomes.map fun o => verdict o.result) =
      [none] ∧
    ((tick surroundings (withCopies obliging (repeated 2)))^[12]
        (start staleSession reconciler 1)).outcomes.map
          (fun o => (verdict o.result, o.registered.keys.length, o.tunnels.rows.length)) =
      [(some .protocolError, 1, 1)] := by
  decide +kernel

-- One copy behind the last answer of the call ends the session after it.
open Reconciling in
example : (((tick surroundings (withCopies obliging fun n => if n = 3 then [0] else []))^[14]
    (start staleSession reconciler 1)).outcomes.map fun o => verdict o.result) =
      [none, some .protocolError] := by
  decide +kernel

end MiniTun.Daemon
