import Mathlib.Algebra.BigOperators.Group.List.Basic
import MiniTun.Server.UdpIngress

/-!
# Conservation of the UDP ingress budget

A listener that stops gives back all it has counted at once, while releases of the same
datagrams are still on their way to it.  What keeps the counters in order is that a counter is
never more than what is still on its way (`Covered`): records posted to a session or in
its queue, and releases posted to the listener.  Late releases then find less than they
ask for, and `release_ingress_now` passes on only what was there, so that the budget of the
registry is at all times the sum of its listeners.

The two counters, of datagrams and of bytes, obey one law; it is stated for a measure.
-/

namespace MiniTun.Server

open KeyedMap TransitionSystem

/-! ## Counters -/

namespace SizeCounter

theorem add_of_lt {c : SizeCounter} {n : Nat} (h : c.value + n < 2 ^ 64) :
    c.add n = ⟨c.value + n, c.wrapped⟩ := by
  have hnot : ¬2 ^ 64 ≤ c.value + n := by omega
  rw [add, Nat.mod_eq_of_lt h, decide_eq_false hnot, Bool.or_false]

theorem sub_of_le {c : SizeCounter} {n : Nat} (h : n ≤ c.value) (hlt : c.value < 2 ^ 64) :
    c.sub n = ⟨c.value - n, c.wrapped⟩ := by
  have hnot : ¬c.value < n := by omega
  have hn : n % 2 ^ 64 = n := Nat.mod_eq_of_lt (by omega)
  have hsum : c.value + (2 ^ 64 - n) = c.value - n + 2 ^ 64 := by omega
  rw [sub, hn, hsum, Nat.add_mod_right, Nat.mod_eq_of_lt (by omega), decide_eq_false hnot,
    Bool.or_false]

end SizeCounter

/-- The two things that are counted. -/
inductive IngressMeasure where
  | datagrams
  | bytes

namespace IngressMeasure

def amount : IngressMeasure → IngressAmount → Nat
  | .datagrams, a => a.datagrams
  | .bytes, a => a.bytes

def counter : IngressMeasure → IngressTally → SizeCounter
  | .datagrams, t => t.datagrams
  | .bytes, t => t.bytes

def record (m : IngressMeasure) (record : Bytes) : Nat :=
  m.amount ⟨1, record.length⟩

variable (m : IngressMeasure)

@[simp] theorem counter_zero : m.counter .zero = .zero := by
  cases m with
  | datagrams => rfl
  | bytes => rfl

variable (t : IngressTally) (a : IngressAmount)

@[simp] theorem counter_add : m.counter (t.add a) = (m.counter t).add (m.amount a) := by
  cases m with
  | datagrams => rfl
  | bytes => rfl

@[simp] theorem counter_sub : m.counter (t.sub a) = (m.counter t).sub (m.amount a) := by
  cases m with
  | datagrams => rfl
  | bytes => rfl

@[simp] theorem amount_atMost : m.amount (t.atMost a) = min (m.counter t).value (m.amount a) := by
  cases m with
  | datagrams => rfl
  | bytes => rfl

@[simp] theorem amount_zero : m.amount ⟨0, 0⟩ = 0 := by
  cases m with
  | datagrams => rfl
  | bytes => rfl

theorem counter_le_of_hasRoom {t : IngressTally} {limit : IngressAmount} {bytes : Nat}
    (hr : t.hasRoom limit bytes = true)
    (hle : (m.counter t).value ≤ m.amount limit) :
    (m.counter t).value + m.amount ⟨1, bytes⟩ ≤ m.amount limit := by
  obtain ⟨hd, hby⟩ := of_decide_eq_true hr
  cases m with
  | datagrams => exact hd
  | bytes =>
    simp only [counter, amount] at hle ⊢
    omega

end IngressMeasure

theorem IngressAmount.ext_measure {a b : IngressAmount} (h : ∀ m : IngressMeasure,
    m.amount a = m.amount b) : a = b := by
  rw [IngressAmount.mk.injEq]
  exact ⟨h .datagrams, h .bytes⟩

/-- The counters are within the limit and have not wrapped. -/
structure IngressTally.Within (t : IngressTally) (limit : IngressAmount) : Prop where
  le : ∀ m : IngressMeasure, (m.counter t).value ≤ m.amount limit
  unwrapped : ∀ m : IngressMeasure, (m.counter t).wrapped = false

namespace IngressTally.Within

variable {t : IngressTally} {limit : IngressAmount}

theorem zero (limit : IngressAmount) : IngressTally.zero.Within limit where
  le := by
    intro m
    rw [m.counter_zero]
    exact Nat.zero_le _
  unwrapped := by
    intro m
    rw [m.counter_zero]
    rfl

theorem add (h : t.Within limit) {bytes : Nat} (hr : t.hasRoom limit bytes = true)
    (hlim : ∀ m : IngressMeasure, m.amount limit < 2 ^ 64) :
    (t.add ⟨1, bytes⟩).Within limit ∧
      ∀ m : IngressMeasure, (m.counter (t.add ⟨1, bytes⟩)).value =
        (m.counter t).value + m.amount ⟨1, bytes⟩ := by
  have hadd : ∀ m : IngressMeasure, (m.counter t).add (m.amount ⟨1, bytes⟩) =
      ⟨(m.counter t).value + m.amount ⟨1, bytes⟩, (m.counter t).wrapped⟩ := by
    intro m
    have hle := m.counter_le_of_hasRoom hr (h.le m)
    exact SizeCounter.add_of_lt (Nat.lt_of_le_of_lt hle (hlim m))
  refine ⟨⟨?_, ?_⟩, ?_⟩
  · intro m
    rw [m.counter_add, hadd]
    exact m.counter_le_of_hasRoom hr (h.le m)
  · intro m
    rw [m.counter_add, hadd]
    exact h.unwrapped m
  · intro m
    rw [m.counter_add, hadd]

theorem sub (h : t.Within limit) {a : IngressAmount}
    (hle : ∀ m : IngressMeasure, m.amount a ≤ (m.counter t).value)
    (hlim : ∀ m : IngressMeasure, m.amount limit < 2 ^ 64) :
    (t.sub a).Within limit ∧
      ∀ m : IngressMeasure, (m.counter (t.sub a)).value = (m.counter t).value - m.amount a := by
  have hsub : ∀ m : IngressMeasure, (m.counter t).sub (m.amount a) =
      ⟨(m.counter t).value - m.amount a, (m.counter t).wrapped⟩ := by
    intro m
    exact SizeCounter.sub_of_le (hle m) (Nat.lt_of_le_of_lt (h.le m) (hlim m))
  refine ⟨⟨?_, ?_⟩, ?_⟩
  · intro m
    rw [m.counter_sub, hsub]
    exact Nat.le_trans (Nat.sub_le _ _) (h.le m)
  · intro m
    rw [m.counter_sub, hsub]
    exact h.unwrapped m
  · intro m
    rw [m.counter_sub, hsub]

end IngressTally.Within

section Pending

variable (m : IngressMeasure)

theorem UdpIngressBudget.limit_lt : m.amount UdpIngressBudget.limit < 2 ^ 64 := by
  cases m with
  | datagrams => decide
  | bytes => decide

theorem UdpListener.limit_lt : m.amount UdpListener.limit < 2 ^ 64 := by
  cases m with
  | datagrams => decide
  | bytes => decide

/-! ## What is on its way -/

def ListenerTask.pending : ListenerTask → Nat
  | .releaseIngress a => m.amount a
  | .peerFinished _ _ => 0

def PeerTask.pending : PeerTask → Nat
  | .enqueue record => m.record record
  | .close => 0

/-- What the posted releases will take off a listener's counter. -/
def pendingReleases (tasks : List ListenerTask) : Nat :=
  (tasks.map (ListenerTask.pending m)).sum

/-- What a session holds, and what has been posted to it. -/
def UdpSession.pending (p : UdpSession) : Nat :=
  (p.queue.map m.record).sum + (p.tasks.map (PeerTask.pending m)).sum

@[simp] theorem pendingReleases_append (tasks tasks' : List ListenerTask) :
    pendingReleases m (tasks ++ tasks') = pendingReleases m tasks + pendingReleases m tasks' := by
  unfold pendingReleases
  rw [List.map_append, List.sum_append]

end Pending

namespace UdpSession

/-- What holds of a session between the handlers on its strand. -/
structure Ok (p : UdpSession) : Prop where
  queued_eq : p.queuedBytes.value = (p.queue.map List.length).sum
  length_le : p.queue.length ≤ limit.datagrams
  queued_le : p.queuedBytes.value ≤ limit.bytes
  unwrapped : p.queuedBytes.wrapped = false
  stopped_empty : p.stopped = true → p.queue = []

/-- A handler keeps that, and what it does not keep it posts to the owner. -/
structure Steps (p : UdpSession) (result : UdpSession × List ListenerTask) : Prop where
  ok : result.1.Ok
  owner : result.1.owner = p.owner
  pending : ∀ m, result.1.pending m + pendingReleases m result.2 = p.pending m

theorem ok_new (owner : Nat) (key : Bytes) : (new owner key).Ok where
  queued_eq := rfl
  length_le := Nat.zero_le _
  queued_le := Nat.zero_le _
  unwrapped := rfl
  stopped_empty := fun _ => rfl

variable (m : IngressMeasure)

theorem pendingReleases_releaseIngress {a : IngressAmount} (h : a.datagrams = 0 → a.bytes = 0) :
    pendingReleases m (releaseIngress a) = m.amount a := by
  unfold releaseIngress
  split
  · next hno =>
    have hz : a = ⟨0, 0⟩ := by
      rw [IngressAmount.mk.injEq]
      exact ⟨hno, h hno⟩
    rw [hz, m.amount_zero]
    rfl
  · simp [pendingReleases, ListenerTask.pending]

theorem sum_record (queue : List Bytes) :
    (queue.map m.record).sum = m.amount ⟨queue.length, (queue.map List.length).sum⟩ := by
  induction queue with
  | nil => exact (m.amount_zero).symm
  | cons rcd queue ih =>
    rw [List.map_cons, List.sum_cons, ih]
    cases m with
    | datagrams =>
      simp only [IngressMeasure.record, IngressMeasure.amount, List.length_cons]
      omega
    | bytes => rfl

variable {p : UdpSession}

theorem Ok.close (h : p.Ok) (self : Nat) : p.Steps (p.close self) := by
  unfold UdpSession.close
  split
  · exact ⟨h, rfl, fun m => rfl⟩
  · refine ⟨⟨rfl, Nat.zero_le _, Nat.zero_le _, h.unwrapped, fun _ => rfl⟩, rfl, ?_⟩
    intro m
    have he : p.queue.length = 0 → p.queuedBytes.value = 0 := by
      intro hlen
      rw [h.queued_eq, List.eq_nil_of_length_eq_zero hlen]
      rfl
    have hr := pendingReleases_releaseIngress m (a := ⟨p.queue.length, p.queuedBytes.value⟩) he
    have hq : p.pending m = m.amount ⟨p.queue.length, p.queuedBytes.value⟩ +
        (p.tasks.map (PeerTask.pending m)).sum := by
      rw [pending, sum_record, h.queued_eq]
    rw [pendingReleases_append, hr, hq]
    simp only [pending, pendingReleases, ListenerTask.pending, List.map_nil, List.map_cons,
      List.sum_nil, List.sum_cons]
    omega

@[simp] theorem pending_writeNext (p : UdpSession) : p.writeNext.pending m = p.pending m := by
  unfold writeNext
  split
  · rfl
  · rfl

@[simp] theorem owner_writeNext (p : UdpSession) : p.writeNext.owner = p.owner := by
  unfold writeNext
  split
  · rfl
  · rfl

theorem Ok.writeNext (h : p.Ok) : p.writeNext.Ok := by
  unfold UdpSession.writeNext
  split
  · exact ⟨h.queued_eq, h.length_le, h.queued_le, h.unwrapped, h.stopped_empty⟩
  · exact ⟨h.queued_eq, h.length_le, h.queued_le, h.unwrapped, h.stopped_empty⟩

theorem Ok.enqueue (h : p.Ok) (rcd : Bytes) :
    (p.enqueue rcd).1.Ok ∧ (p.enqueue rcd).1.owner = p.owner ∧
      ∀ m, (p.enqueue rcd).1.pending m + pendingReleases m (p.enqueue rcd).2 =
        p.pending m + m.record rcd := by
  unfold UdpSession.enqueue
  split
  · refine ⟨h, rfl, ?_⟩
    intro m
    rfl
  · next hr =>
    rw [not_or, not_or, Bool.not_eq_true] at hr
    obtain ⟨hs, hlen, hby⟩ := hr
    have hq := h.queued_le
    have hlim : limit.bytes < 2 ^ 64 := by decide
    have hadd : p.queuedBytes.add rcd.length =
        ⟨p.queuedBytes.value + rcd.length, p.queuedBytes.wrapped⟩ :=
      SizeCounter.add_of_lt (by omega)
    have hok : Ok { p with
        queue := p.queue ++ [rcd]
        queuedBytes := p.queuedBytes.add rcd.length } := by
      rw [hadd]
      refine ⟨?_, ?_, ?_, h.unwrapped, ?_⟩
      · simp [h.queued_eq]
      · simp only [List.length_append, List.length_singleton]
        omega
      · simp only
        omega
      · intro hc
        rw [hs] at hc
        cases hc
    have hp : ∀ m, UdpSession.pending m { p with
        queue := p.queue ++ [rcd]
        queuedBytes := p.queuedBytes.add rcd.length } = p.pending m + m.record rcd := by
      simp only [UdpSession.pending, List.map_append, List.sum_append, List.map_cons, List.map_nil,
        List.sum_cons, List.sum_nil]
      omega
    simp only
    split
    · exact ⟨hok, rfl, hp⟩
    · refine ⟨hok.writeNext, owner_writeNext _, ?_⟩
      intro m
      rw [pending_writeNext]
      exact hp m

theorem Ok.written (h : p.Ok) (self : Nat) (err : Bool) (bytes : Nat) :
    p.Steps (p.written self err bytes) := by
  unfold UdpSession.written
  split
  · exact h.close self
  · next front rest hq =>
    split
    · exact h.close self
    · have hqe := h.queued_eq
      have hle := h.queued_le
      have hlen := h.length_le
      rw [hq, List.map_cons, List.sum_cons] at hqe
      rw [hq, List.length_cons] at hlen
      have hlim : limit.bytes < 2 ^ 64 := by decide
      have hsub : p.queuedBytes.sub front.length =
          ⟨p.queuedBytes.value - front.length, p.queuedBytes.wrapped⟩ :=
        SizeCounter.sub_of_le (by omega) (by omega)
      have hok : Ok { p with queue := rest, queuedBytes := p.queuedBytes.sub front.length } := by
        rw [hsub]
        refine ⟨?_, ?_, ?_, h.unwrapped, ?_⟩
        · simp only
          omega
        · simp only
          omega
        · simp only
          omega
        · intro hs
          have he := h.stopped_empty hs
          rw [hq] at he
          cases he
      refine ⟨hok.writeNext, owner_writeNext _, ?_⟩
      intro m
      rw [pending_writeNext, pendingReleases_releaseIngress m (by intro hz; cases hz)]
      simp only [UdpSession.pending, hq, List.map_cons, List.sum_cons, IngressMeasure.record]
      omega

theorem Ok.run (h : p.Ok) {task : PeerTask} (htask : task ∈ p.tasks) (self : Nat) :
    p.Steps ({ p with tasks := p.tasks.erase task }.run self task) := by
  have hok : Ok { p with tasks := p.tasks.erase task } :=
    ⟨h.queued_eq, h.length_le, h.queued_le, h.unwrapped, h.stopped_empty⟩
  have hp : ∀ m, UdpSession.pending m { p with tasks := p.tasks.erase task } +
      task.pending m = p.pending m := by
    intro m
    have hsum := List.sum_map_erase (PeerTask.pending m) htask
    simp only [UdpSession.pending]
    omega
  cases task with
  | enqueue rcd =>
    obtain ⟨hok', how, hm⟩ := hok.enqueue rcd
    refine ⟨hok', how, ?_⟩
    intro m
    rw [← hp m]
    exact hm m
  | close =>
    have hs := hok.close self
    refine ⟨hs.ok, hs.owner, ?_⟩
    intro m
    rw [← hp m]
    exact hs.pending m

end UdpSession

/-! ## The listeners together -/

def IngressAmount.of (f : IngressMeasure → Nat) : IngressAmount :=
  ⟨f .datagrams, f .bytes⟩

@[simp] theorem IngressMeasure.amount_of (m : IngressMeasure) (f : IngressMeasure → Nat) :
    m.amount (.of f) = f m := by
  cases m with
  | datagrams => rfl
  | bytes => rfl

namespace UdpIngress

/-- What the sessions of a listener still have to release. -/
def owed (s : UdpIngress) (m : IngressMeasure) (listener : Nat) : Nat :=
  sumBy (fun p => if p.owner = listener then p.pending m else 0) s.sessions

/-- The invariant, but for an amount that one listener has counted and nothing is on its way
for.  Between two steps that is nothing. -/
structure Covered (s : UdpIngress) (listener : Nat) (slack : IngressAmount) : Prop where
  total : ∀ m : IngressMeasure, (m.counter s.budget.queued).value =
    sumBy (fun l => (m.counter l.queuedIngress).value) s.listeners
  covered : ∀ id l, s.listeners.lookup id = some l → ∀ m : IngressMeasure,
    (m.counter l.queuedIngress).value ≤ pendingReleases m l.tasks + s.owed m id +
      if id = listener then m.amount slack else 0
  budget_within : s.budget.queued.Within UdpIngressBudget.limit
  unclamped : s.budget.clamped = false
  listener_within : ∀ id l, s.listeners.lookup id = some l →
    l.queuedIngress.Within UdpListener.limit
  session_ok : ∀ id p, s.sessions.lookup id = some p → p.Ok
  peers_owned : ∀ id l key session, s.listeners.lookup id = some l →
    l.peers.lookup key = some session → ∃ p, s.sessions.lookup session = some p ∧ p.owner = id
  destroyed_zero : ∀ id l, s.listeners.lookup id = some l → l.destroyed = true →
    ∀ m : IngressMeasure, (m.counter l.queuedIngress).value = 0

/-- Between two steps. -/
abbrev Invariant (s : UdpIngress) : Prop := s.Covered 0 ⟨0, 0⟩

variable {s : UdpIngress} {lsn : Nat} {slack : IngressAmount}

theorem covered_initial : initial.Invariant where
  total := by
    intro m
    rw [show initial.budget.queued = .zero from rfl, m.counter_zero]
    rfl
  covered := by
    intro id l h
    cases h
  budget_within := .zero _
  unclamped := rfl
  listener_within := by
    intro id l h
    cases h
  session_ok := by
    intro id p h
    cases h
  peers_owned := by
    intro id l key ses h
    cases h
  destroyed_zero := by
    intro id l h
    cases h

variable {slack' : IngressAmount} {l : UdpListener} {session ses : Nat} {p : UdpSession}

theorem Covered.weaken (h : s.Covered lsn slack) {id : Nat}
    (hc : ∀ l, s.listeners.lookup lsn = some l → ∀ m : IngressMeasure,
      (m.counter l.queuedIngress).value ≤ pendingReleases m l.tasks + s.owed m lsn +
        if lsn = id then m.amount slack' else 0) : s.Covered id slack' := by
  refine ⟨h.total, ?_, h.budget_within, h.unclamped, h.listener_within, h.session_ok,
    h.peers_owned, h.destroyed_zero⟩
  intro other l hl m
  by_cases ho : other = lsn
  · subst ho
    exact hc l hl m
  · have hle := h.covered other l hl m
    rw [if_neg ho] at hle
    omega

theorem Covered.settle (h : s.Covered lsn ⟨0, 0⟩) (id : Nat) (slack' : IngressAmount) :
    s.Covered id slack' := by
  apply h.weaken
  intro l hl m
  have hle := h.covered lsn l hl m
  rw [if_pos rfl, m.amount_zero] at hle
  omega

theorem Covered.of_none (h : s.Covered lsn slack)
    (hno : s.listeners.lookup lsn = none) (id : Nat) : s.Covered id ⟨0, 0⟩ := by
  apply h.weaken
  intro l hl
  rw [hno] at hl
  cases hl

theorem Covered.insert (h : s.Covered lsn slack) {l' : UdpListener}
    (hl : s.listeners.lookup lsn = some l) {budget : UdpIngressBudget}
    (ht : ∀ m : IngressMeasure,
      (m.counter budget.queued).value + (m.counter l.queuedIngress).value =
        (m.counter s.budget.queued).value + (m.counter l'.queuedIngress).value)
    (hc : ∀ m : IngressMeasure, (m.counter l'.queuedIngress).value ≤
      pendingReleases m l'.tasks + s.owed m lsn + m.amount slack')
    (hb : budget.queued.Within UdpIngressBudget.limit) (hu : budget.clamped = false)
    (hw : l'.queuedIngress.Within UdpListener.limit)
    (hp : ∀ key ses, l'.peers.lookup key = some ses →
      ∃ p, s.sessions.lookup ses = some p ∧ p.owner = lsn)
    (hd : l'.destroyed = true →
      ∀ m : IngressMeasure, (m.counter l'.queuedIngress).value = 0) :
    Covered { s with budget := budget, listeners := s.listeners.insert lsn l' } lsn slack' where
  total := by
    intro m
    have hi := sumBy_insert (fun l => (m.counter l.queuedIngress).value) s.listeners lsn l'
    have hbf := h.total m
    have hboth := ht m
    rw [hl, Option.map_some, Option.getD_some] at hi
    simp only
    omega
  covered := by
    intro id other ho m
    rw [lookup_insert_eq_ite] at ho
    split at ho
    · next hid =>
      cases ho
      rw [if_pos hid, hid]
      exact hc m
    · next hid =>
      have hle := h.covered id other ho m
      rw [if_neg hid] at hle ⊢
      exact hle
  budget_within := hb
  unclamped := hu
  listener_within := by
    exact forall_lookup_insert hw h.listener_within
  session_ok := h.session_ok
  peers_owned := by
    intro id other key ses ho hkey
    rw [lookup_insert_eq_ite] at ho
    split at ho
    · next hid =>
      cases ho
      rw [hid]
      exact hp key ses hkey
    · exact h.peers_owned id other key ses ho hkey
  destroyed_zero := by
    exact forall_lookup_insert hd h.destroyed_zero

/-- What does not touch the counter, the tasks or the sessions of a listener. -/
structure Untouched (l l' : UdpListener) : Prop where
  queuedIngress : l'.queuedIngress = l.queuedIngress
  tasks : l'.tasks = l.tasks
  destroyed : l'.destroyed = l.destroyed
  peers : ∀ key session, l'.peers.lookup key = some session → l.peers.lookup key = some session

theorem Covered.update (h : s.Covered lsn slack) {f : UdpListener → UdpListener}
    (hf : ∀ l, Untouched l (f l)) : (s.update lsn f).Covered lsn slack := by
  unfold UdpIngress.update
  cases hl : s.listeners.lookup lsn with
  | none => exact h
  | some l =>
    have hu := hf l
    refine h.insert hl ?_ ?_ h.budget_within h.unclamped ?_ ?_ ?_
    · intro m
      rw [hu.queuedIngress]
    · intro m
      have hle := h.covered lsn l hl m
      rw [if_pos rfl] at hle
      rw [hu.queuedIngress, hu.tasks]
      exact hle
    · rw [hu.queuedIngress]
      exact h.listener_within lsn l hl
    · intro key ses hkey
      exact h.peers_owned lsn l key ses hl (hu.peers key ses hkey)
    · rw [hu.destroyed, hu.queuedIngress]
      exact h.destroyed_zero lsn l hl

/-- `release_ingress_now` passes on what the listener had; the budget has that much. -/
theorem Covered.releaseIngressNow {a : IngressAmount} (h : s.Covered lsn a) :
    (s.releaseIngressNow lsn a).Covered lsn ⟨0, 0⟩ := by
  unfold UdpIngress.releaseIngressNow
  cases hl : s.listeners.lookup lsn with
  | none => exact h.of_none hl lsn
  | some l =>
    have hw := h.listener_within lsn l hl
    have hle : ∀ m : IngressMeasure, m.amount (l.queuedIngress.atMost a) ≤
        (m.counter l.queuedIngress).value := by
      intro m
      rw [m.amount_atMost]
      exact Nat.min_le_left _ _
    have hg : ∀ m : IngressMeasure, m.amount (l.queuedIngress.atMost a) ≤
        (m.counter s.budget.queued).value := by
      intro m
      have hsum := le_sumBy (fun l => (m.counter l.queuedIngress).value) hl
      rw [h.total m]
      exact Nat.le_trans (hle m) hsum
    have he : s.budget.queued.atMost (l.queuedIngress.atMost a) =
        l.queuedIngress.atMost a := by
      apply IngressAmount.ext_measure
      intro m
      rw [m.amount_atMost]
      exact Nat.min_eq_right (hg m)
    obtain ⟨hlsn, hval⟩ := hw.sub hle UdpListener.limit_lt
    obtain ⟨hb, ht⟩ := h.budget_within.sub hg UdpIngressBudget.limit_lt
    refine h.insert hl ?_ ?_ ?_ ?_ hlsn ?_ ?_
    · intro m
      have hlc := hle m
      have hsha := hg m
      simp only [UdpIngressBudget.release, he, ht m, hval m]
      omega
    · intro m
      have hc := h.covered lsn l hl m
      rw [if_pos rfl] at hc
      rw [hval m, m.amount_atMost]
      simp only
      omega
    · rw [UdpIngressBudget.release, he]
      exact hb
    · simp only [UdpIngressBudget.release, he, h.unclamped, ne_eq, not_true_eq_false,
        decide_false, Bool.or_self]
    · intro key ses hkey
      exact h.peers_owned lsn l key ses hl hkey
    · intro hd m
      have hz := h.destroyed_zero lsn l hl hd m
      rw [hval m, hz, Nat.zero_sub]

theorem Covered.reserveIngress (h : s.Covered lsn ⟨0, 0⟩)
    (hl : s.listeners.lookup lsn = some l) (ha : l.destroyed = false) {bytes : Nat}
    {s' : UdpIngress} (hs' : s.reserveIngress lsn l bytes = some s') :
    s'.Covered lsn ⟨1, bytes⟩ ∧ s'.sessions = s.sessions ∧
      s'.listeners.lookup lsn =
        some { l with queuedIngress := l.queuedIngress.add ⟨1, bytes⟩ } := by
  unfold UdpIngress.reserveIngress at hs'
  split at hs'
  · next hr =>
    obtain ⟨budget, hb, rfl⟩ := Option.map_eq_some_iff.1 hs'
    unfold UdpIngressBudget.reserve at hb
    split at hb
    · next hsha =>
      cases hb
      obtain ⟨hlsn, hval⟩ :=
        (h.listener_within lsn l hl).add hr UdpListener.limit_lt
      obtain ⟨hw, ht⟩ := h.budget_within.add hsha UdpIngressBudget.limit_lt
      refine ⟨h.insert hl ?_ ?_ hw h.unclamped hlsn ?_ ?_, rfl, AList.lookup_insert _⟩
      · intro m
        rw [ht m, hval m]
        omega
      · intro m
        have hc := h.covered lsn l hl m
        rw [if_pos rfl, m.amount_zero] at hc
        rw [hval m]
        simp only
        omega
      · intro key ses hkey
        exact h.peers_owned lsn l key ses hl hkey
      · intro hd
        simp only [ha] at hd
        cases hd
    · cases hb
  · cases hs'

theorem Covered.postListener {tasks : List ListenerTask}
    (h : s.Covered lsn (.of fun m => pendingReleases m tasks)) :
    (s.postListener lsn tasks).Covered lsn ⟨0, 0⟩ := by
  unfold UdpIngress.postListener
  cases hl : s.listeners.lookup lsn with
  | none => exact h.of_none hl lsn
  | some l =>
    simp only
    split
    · next hd =>
      apply h.weaken
      intro other ho m
      rw [hl] at ho
      cases ho
      rw [h.destroyed_zero lsn l hl hd m]
      exact Nat.zero_le _
    · refine h.insert hl ?_ ?_ h.budget_within h.unclamped ?_ ?_ ?_
      · intro m
        rfl
      · intro m
        have hc := h.covered lsn l hl m
        rw [if_pos rfl, m.amount_of] at hc
        simp only [pendingReleases_append]
        omega
      · exact h.listener_within lsn l hl
      · intro key ses hkey
        exact h.peers_owned lsn l key ses hl hkey
      · exact h.destroyed_zero lsn l hl

theorem owed_insert (s : UdpIngress) (m : IngressMeasure) (id ses : Nat) (p : UdpSession) :
    { s with sessions := s.sessions.insert ses p }.owed m id +
        ((s.sessions.lookup ses).map fun p => if p.owner = id then p.pending m else 0).getD 0 =
      s.owed m id + if p.owner = id then p.pending m else 0 :=
  sumBy_insert _ _ _ _

theorem Covered.insertSession (h : s.Covered lsn slack) {p' : UdpSession} (hok : p'.Ok)
    (how : p'.owner = lsn)
    (hk : ∀ p, s.sessions.lookup ses = some p → p.owner = lsn)
    (hpe : ∀ m : IngressMeasure,
      ((s.sessions.lookup ses).map (UdpSession.pending m)).getD 0 + m.amount slack ≤
        p'.pending m + m.amount slack') :
    Covered { s with sessions := s.sessions.insert ses p' } lsn slack' where
  total := h.total
  covered := by
    intro id l hl m
    have howed := owed_insert s m id ses p'
    have hc := h.covered id l hl m
    have hm := hpe m
    cases hlk : s.sessions.lookup ses with
    | none =>
      simp only [hlk, Option.map_none, Option.getD_none, how] at howed hm
      by_cases hid : lsn = id
      · subst hid
        rw [if_pos rfl] at howed hc ⊢
        omega
      · rw [if_neg hid] at howed
        rw [if_neg (Ne.symm hid)] at hc ⊢
        omega
    | some p =>
      have hsa := hk p hlk
      simp only [hlk, Option.map_some, Option.getD_some, how, hsa] at howed hm
      by_cases hid : lsn = id
      · subst hid
        rw [if_pos rfl, if_pos rfl] at howed
        rw [if_pos rfl] at hc ⊢
        omega
      · rw [if_neg hid] at howed
        rw [if_neg (Ne.symm hid)] at hc ⊢
        omega
  budget_within := h.budget_within
  unclamped := h.unclamped
  listener_within := h.listener_within
  session_ok := by
    exact forall_lookup_insert hok h.session_ok
  peers_owned := by
    intro id l key other hl hkey
    obtain ⟨p, hp, hof⟩ := h.peers_owned id l key other hl hkey
    by_cases hs : other = ses
    · subst hs
      refine ⟨p', AList.lookup_insert _, ?_⟩
      rw [how, ← hk p hp]
      exact hof
    · exact ⟨p, (AList.lookup_insert_ne hs).trans hp, hof⟩
  destroyed_zero := h.destroyed_zero

theorem Covered.putSession {res : UdpSession × List ListenerTask}
    (h : s.Covered lsn ⟨0, 0⟩) (hp : s.sessions.lookup ses = some p)
    (hs : p.Steps res) : (s.putSession ses res).Covered lsn ⟨0, 0⟩ := by
  have hk : ∀ q, s.sessions.lookup ses = some q → q.owner = p.owner := by
    intro q hq
    rw [hp] at hq
    cases hq
    rfl
  have hi : Covered { s with sessions := s.sessions.insert ses res.1 } p.owner
      (.of fun m => pendingReleases m res.2) := by
    refine (h.settle p.owner ⟨0, 0⟩).insertSession hs.ok hs.owner hk ?_
    intro m
    have hpe := hs.pending m
    rw [hp, Option.map_some, Option.getD_some, m.amount_zero, m.amount_of]
    omega
  unfold UdpIngress.putSession
  rw [hs.owner]
  exact hi.postListener.settle lsn ⟨0, 0⟩

theorem Covered.postSession {task : PeerTask} (h : s.Covered lsn (.of fun m => task.pending m))
    (hp : s.sessions.lookup ses = some p) (how : p.owner = lsn) :
    (s.postSession ses task).Covered lsn ⟨0, 0⟩ := by
  have hok := h.session_ok ses p hp
  have hk : ∀ q, s.sessions.lookup ses = some q → q.owner = lsn := by
    intro q hq
    rw [hp] at hq
    cases hq
    exact how
  unfold UdpIngress.postSession
  rw [hp]
  refine h.insertSession ?_ how hk ?_
  · exact ⟨hok.queued_eq, hok.length_le, hok.queued_le, hok.unwrapped, hok.stopped_empty⟩
  · intro m
    rw [hp, Option.map_some, Option.getD_some, m.amount_of]
    simp only [UdpSession.pending, List.map_append, List.sum_append, List.map_cons, List.sum_cons]
    omega

theorem Covered.postClose (h : s.Covered lsn ⟨0, 0⟩) (ses : Nat) :
    (s.postSession ses .close).Covered lsn ⟨0, 0⟩ := by
  cases hp : s.sessions.lookup ses with
  | none =>
    unfold UdpIngress.postSession
    rw [hp]
    exact h
  | some p =>
    have hs : s.Covered p.owner (.of fun m => PeerTask.close.pending m) := h.settle p.owner _
    exact (hs.postSession hp rfl).settle lsn ⟨0, 0⟩

theorem Covered.addSession (h : s.Covered lsn slack)
    (hno : s.sessions.lookup ses = none) (key : Bytes) :
    (s.addSession lsn key ses).Covered lsn slack := by
  unfold UdpIngress.addSession
  cases hl : s.listeners.lookup lsn with
  | none => exact h
  | some l =>
    have hi : Covered { s with sessions := s.sessions.insert ses (.new lsn key) }
        lsn slack := by
      refine h.insertSession (UdpSession.ok_new lsn key) rfl ?_ ?_
      · intro p hp
        rw [hno] at hp
        cases hp
      · intro m
        rw [hno]
        exact Nat.le_refl _
    have hpe : Covered { s with
        sessions := s.sessions.insert ses (.new lsn key)
        listeners := s.listeners.insert lsn { l with peers := l.peers.insert key ses } }
        lsn slack := by
      refine hi.insert hl (fun m => rfl) ?_ hi.budget_within hi.unclamped
        (hi.listener_within lsn l hl) ?_ (hi.destroyed_zero lsn l hl)
      · intro m
        have hc := hi.covered lsn l hl m
        rw [if_pos rfl] at hc
        exact hc
      · intro other found hf
        rw [lookup_insert_eq_ite] at hf
        split at hf
        · cases hf
          exact ⟨_, AList.lookup_insert _, rfl⟩
        · exact hi.peers_owned lsn l other found hl hf
    exact ⟨hpe.total, hpe.covered, hpe.budget_within, hpe.unclamped,
      hpe.listener_within, hpe.session_ok, hpe.peers_owned, hpe.destroyed_zero⟩

theorem sessions_addSession (hl : s.listeners.lookup lsn = some l) (key : Bytes) :
    (s.addSession lsn key ses).sessions.lookup ses = some (.new lsn key) := by
  unfold UdpIngress.addSession
  rw [hl]
  exact AList.lookup_insert _

theorem Covered.handleDatagram (h : s.Covered lsn ⟨0, 0⟩) (net : AddressText)
    (hl : s.listeners.lookup lsn = some l) (ha : l.destroyed = false) (peer : PublicPeer)
    (pay : Bytes) (paired : Bool) (hno : s.sessions.lookup ses = none) :
    (s.handleDatagram net lsn l peer pay paired ses).Covered lsn ⟨0, 0⟩ := by
  unfold UdpIngress.handleDatagram
  cases encodeDatagramRecord pay with
  | error _ => exact h
  | ok rcd =>
    simp only
    cases hres : s.reserveIngress lsn l rcd.length with
    | none => exact h
    | some reserved =>
      obtain ⟨hr, hses, hlsn⟩ := h.reserveIngress hl ha hres
      have hs : reserved.Covered lsn (.of fun m => (PeerTask.enqueue rcd).pending m) :=
        hr
      cases hkey : l.peers.lookup (peerKey net peer) with
      | some found =>
        obtain ⟨p, hp, how⟩ := h.peers_owned lsn l _ found hl hkey
        rw [← hses] at hp
        exact hs.postSession hp how
      | none =>
        simp only
        split
        · exact hr.releaseIngressNow
        · rw [← hses] at hno
          exact (hs.addSession hno _).postSession (sessions_addSession hlsn _) rfl

theorem untouched_receive (l : UdpListener) (receive : UdpReceive) :
    Untouched l { l with receive := receive } :=
  ⟨rfl, rfl, rfl, fun _ _ hkey => hkey⟩

theorem untouched_receiveNext (l : UdpListener) : Untouched l l.receiveNext := by
  unfold UdpListener.receiveNext
  split
  · exact untouched_receive l .waiting
  · exact ⟨rfl, rfl, rfl, fun _ _ hkey => hkey⟩

theorem untouched_closeSocket (l : UdpListener) :
    Untouched l { l.closeSocket with peers := ∅ } := by
  refine ⟨rfl, rfl, rfl, ?_⟩
  intro key ses hkey
  cases hkey

@[simp] theorem sessions_update (s : UdpIngress) (lsn : Nat) (f : UdpListener → UdpListener) :
    (s.update lsn f).sessions = s.sessions := by
  unfold UdpIngress.update
  split
  · rfl
  · rfl

theorem stop_zero {l' : UdpListener} (hl : s.listeners.lookup lsn = some l)
    (hl' : (s.stop lsn l).listeners.lookup lsn = some l') (m : IngressMeasure) :
    (m.counter l'.queuedIngress).value = 0 := by
  obtain ⟨tally, htally, hdatagrams, hbytes⟩ := lookup_stop hl
  rw [hl'] at htally
  cases htally
  cases m with
  | datagrams => exact hdatagrams
  | bytes => exact hbytes

section Steps

variable (h : s.Covered lsn ⟨0, 0⟩)
include h

theorem Covered.receive (net : AddressText) (hl : s.listeners.lookup lsn = some l)
    (ha : l.destroyed = false) (paired : Bool) (hno : s.sessions.lookup ses = none) :
    (s.receive net lsn l paired ses).Covered lsn ⟨0, 0⟩ := by
  have hi : (s.update lsn fun l => { l with receive := .idle }).Covered lsn ⟨0, 0⟩ :=
    h.update fun l => untouched_receive l .idle
  unfold UdpIngress.receive
  split
  · next peer pay _ =>
    apply Covered.update _ untouched_receiveNext
    refine hi.handleDatagram net (lookup_update _ hl) ha peer pay paired ?_
    rw [sessions_update]
    exact hno
  · apply hi.update
    intro l
    exact ⟨rfl, rfl, rfl, fun _ _ hkey => hkey⟩
  · exact hi
  · exact h
  · exact h

theorem Covered.foldl_postClose (sess : List Nat) :
    (sess.foldl (·.postSession · .close) s).Covered lsn ⟨0, 0⟩ := by
  induction sess generalizing s with
  | nil => exact h
  | cons ses sess ih => exact ih (h.postClose ses)

theorem Covered.stop (l : UdpListener) : (s.stop lsn l).Covered lsn ⟨0, 0⟩ := by
  apply Covered.releaseIngressNow
  apply Covered.settle
  apply Covered.foldl_postClose
  exact h.update untouched_closeSocket

theorem Covered.runListener (hl : s.listeners.lookup lsn = some l) {task : ListenerTask}
    (htask : task ∈ l.tasks) :
    ((s.update lsn fun l => { l with tasks := l.tasks.erase task }).runListener lsn
      task).Covered lsn ⟨0, 0⟩ := by
  have ht : (s.update lsn fun l => { l with tasks := l.tasks.erase task }).Covered
      lsn (.of fun m => task.pending m) := by
    unfold UdpIngress.update
    rw [hl]
    refine h.insert hl (fun m => rfl) ?_ h.budget_within h.unclamped
      (h.listener_within lsn l hl) ?_ (h.destroyed_zero lsn l hl)
    · intro m
      have hc := h.covered lsn l hl m
      have hsum := List.sum_map_erase (ListenerTask.pending m) htask
      rw [if_pos rfl, m.amount_zero] at hc
      rw [m.amount_of]
      simp only [pendingReleases] at hc ⊢
      omega
    · intro key ses hkey
      exact h.peers_owned lsn l key ses hl hkey
  cases task with
  | releaseIngress a => exact Covered.releaseIngressNow ht
  | peerFinished key ses =>
    have hp := Covered.settle ht lsn ⟨0, 0⟩
    apply hp.update
    intro l
    split
    · refine ⟨rfl, rfl, rfl, ?_⟩
      intro other found hf
      exact lookup_of_erase hf
    · exact ⟨rfl, rfl, rfl, fun _ _ hkey => hkey⟩

theorem Covered.destroy (hl : s.listeners.lookup lsn = some l) :
    ((s.stop lsn l).update lsn fun l => { l with destroyed := true }).Covered lsn ⟨0, 0⟩ := by
  have hs := h.stop l
  unfold UdpIngress.update
  cases hl' : (s.stop lsn l).listeners.lookup lsn with
  | none => exact hs
  | some l' =>
    have hz := stop_zero hl hl'
    refine hs.insert hl' (fun m => rfl) ?_ hs.budget_within hs.unclamped
      (hs.listener_within lsn l' hl') ?_ (fun _ => hz)
    · intro m
      rw [hz m]
      exact Nat.zero_le _
    · intro key ses hkey
      exact hs.peers_owned lsn l' key ses hl' hkey

theorem Covered.listenerStep (net : AddressText) (hl : s.listeners.lookup lsn = some l)
    (ha : l.destroyed = false) (event : UdpIngressEvent) :
    (s.listenerStep net lsn l event).Covered lsn ⟨0, 0⟩ := by
  cases event with
  | arrive _ peer pay =>
    simp only [UdpIngress.listenerStep]
    split
    · exact h.update fun l => untouched_receive l _
    · exact h
  | fault _ =>
    simp only [UdpIngress.listenerStep]
    split
    · exact h.update fun l => untouched_receive l _
    · exact h
  | receive _ paired ses =>
    simp only [UdpIngress.listenerStep]
    cases hno : s.sessions.lookup ses with
    | none => exact h.receive net hl ha paired hno
    | some _ => exact h
  | retry _ =>
    simp only [UdpIngress.listenerStep]
    split
    · apply h.update
      intro l
      have hn := untouched_receiveNext { l with retry := false }
      exact ⟨hn.queuedIngress, hn.tasks, hn.destroyed, hn.peers⟩
    · exact h
  | stop _ => exact h.stop l
  | runListener _ task =>
    simp only [UdpIngress.listenerStep]
    split
    · next htask => exact h.runListener hl htask
    · exact h
  | destroy _ =>
    simp only [UdpIngress.listenerStep]
    split
    · exact h.destroy hl
    · exact h
  | listen _ _ => exact h
  | runSession _ _ => exact h
  | written _ _ _ => exact h
  | readFails _ => exact h

theorem Covered.sessionStep (hp : s.sessions.lookup ses = some p) (event : UdpIngressEvent) :
    (s.sessionStep ses p event).Covered lsn ⟨0, 0⟩ := by
  have hok := h.session_ok ses p hp
  cases event with
  | runSession _ task =>
    simp only [UdpIngress.sessionStep]
    split
    · next htask => exact h.putSession hp (hok.run htask ses)
    · exact h
  | written _ err bytes =>
    simp only [UdpIngress.sessionStep]
    split
    · have hd : UdpSession.Ok { p with outstanding := false } :=
        ⟨hok.queued_eq, hok.length_le, hok.queued_le, hok.unwrapped, hok.stopped_empty⟩
      have hs := hd.written ses err bytes
      exact h.putSession hp ⟨hs.ok, hs.owner, hs.pending⟩
    · exact h
  | readFails _ => exact h.putSession hp (hok.close ses)
  | _ => exact h

end Steps

theorem Covered.listen (h : s.Invariant) {id : Nat} (hno : s.listeners.lookup id = none)
    (maxPeers : Nat) :
    Invariant { s with listeners := s.listeners.insert id (.new maxPeers) } := by
  have hlk : ∀ {other : Nat} {l : UdpListener},
      (s.listeners.insert id (.new maxPeers)).lookup other = some l →
        l = .new maxPeers ∨ s.listeners.lookup other = some l := by
    intro other l hl
    rw [lookup_insert_eq_ite] at hl
    split at hl
    · exact .inl (Option.some.inj hl).symm
    · exact .inr hl
  refine ⟨?_, ?_, h.budget_within, h.unclamped, ?_, h.session_ok, ?_, ?_⟩
  · intro m
    have hi := sumBy_insert (fun l => (m.counter l.queuedIngress).value) s.listeners id
      (.new maxPeers)
    have ht := h.total m
    rw [hno, show (UdpListener.new maxPeers).queuedIngress = .zero from rfl, m.counter_zero] at hi
    exact ht.trans hi.symm
  · intro other l hl m
    rcases hlk hl with rfl | hl
    · rw [show (UdpListener.new maxPeers).queuedIngress = .zero from rfl, m.counter_zero]
      exact Nat.zero_le _
    · exact h.covered other l hl m
  · intro other l hl
    rcases hlk hl with rfl | hl
    · exact .zero _
    · exact h.listener_within other l hl
  · intro other l key ses hl hkey
    rcases hlk hl with rfl | hl
    · cases hkey
    · exact h.peers_owned other l key ses hl hkey
  · intro other l hl hd
    rcases hlk hl with rfl | hl
    · cases hd
    · exact h.destroyed_zero other l hl hd

theorem Covered.step (h : s.Invariant) (net : AddressText) (event : UdpIngressEvent) :
    (s.step net event).Invariant := by
  unfold UdpIngress.step
  cases event.subject with
  | newListener id maxPeers =>
    simp only
    cases hno : s.listeners.lookup id with
    | none => exact h.listen hno maxPeers
    | some _ => exact h
  | listener id =>
    simp only
    cases hl : s.listeners.lookup id with
    | none => exact h
    | some l =>
      simp only
      split
      · exact h
      · next ha =>
        have hs := (h.settle id ⟨0, 0⟩).listenerStep net hl (Bool.eq_false_iff.2 ha) event
        exact hs.settle 0 ⟨0, 0⟩
  | session id =>
    simp only
    cases hp : s.sessions.lookup id with
    | none => exact h
    | some p => exact Covered.sessionStep h hp event

/-- Nothing that has been posted is left, and every peer is closed. -/
structure Quiescent (s : UdpIngress) : Prop where
  listeners : ∀ id l, s.listeners.lookup id = some l → l.tasks = []
  sessions : ∀ id p, s.sessions.lookup id = some p → p.tasks = [] ∧ p.stopped = true

/-- **Conservation** of the ingress budget. -/
structure Conserved (s : UdpIngress) : Prop where
  datagrams_eq : s.budget.queued.datagrams.value =
    sumBy (·.queuedIngress.datagrams.value) s.listeners
  bytes_eq : s.budget.queued.bytes.value = sumBy (·.queuedIngress.bytes.value) s.listeners
  /-- Within the limits and never wrapped: the budget, the listeners and the peers. -/
  budget_within : s.budget.queued.Within UdpIngressBudget.limit
  listener_within : ∀ id l, s.listeners.lookup id = some l →
    l.queuedIngress.Within UdpListener.limit
  session_within : ∀ id p, s.sessions.lookup id = some p →
    p.queue.length ≤ UdpSession.limit.datagrams ∧
      p.queuedBytes.value ≤ UdpSession.limit.bytes ∧ p.queuedBytes.wrapped = false
  unclamped : s.budget.clamped = false
  drained : s.Quiescent →
    (s.budget.queued.datagrams.value = 0 ∧ s.budget.queued.bytes.value = 0) ∧
    (∀ id l, s.listeners.lookup id = some l →
      l.queuedIngress.datagrams.value = 0 ∧ l.queuedIngress.bytes.value = 0) ∧
    ∀ id p, s.sessions.lookup id = some p → p.queue = [] ∧ p.queuedBytes.value = 0

theorem Covered.drained (h : s.Invariant) (hq : s.Quiescent) (m : IngressMeasure) :
    (m.counter s.budget.queued).value = 0 ∧ ∀ id l, s.listeners.lookup id = some l →
      (m.counter l.queuedIngress).value = 0 := by
  have howed : ∀ id, s.owed m id = 0 := by
    intro id
    apply sumBy_eq_zero
    intro ses p hp
    obtain ⟨ht, hs⟩ := hq.sessions ses p hp
    have hqu := (h.session_ok ses p hp).stopped_empty hs
    rw [UdpSession.pending, ht, hqu]
    exact ite_self 0
  have hls : ∀ id l, s.listeners.lookup id = some l →
      (m.counter l.queuedIngress).value = 0 := by
    intro id l hl
    have hc := h.covered id l hl m
    rw [hq.listeners id l hl, howed id, m.amount_zero, ite_self] at hc
    exact Nat.le_zero.1 hc
  refine ⟨?_, hls⟩
  rw [h.total m]
  exact sumBy_eq_zero hls

theorem Covered.conserved (h : s.Invariant) : s.Conserved where
  datagrams_eq := h.total .datagrams
  bytes_eq := h.total .bytes
  budget_within := h.budget_within
  listener_within := h.listener_within
  session_within := by
    intro id p hp
    have hok := h.session_ok id p hp
    exact ⟨hok.length_le, hok.queued_le, hok.unwrapped⟩
  unclamped := h.unclamped
  drained := by
    intro hq
    obtain ⟨hd, hls⟩ := h.drained hq .datagrams
    obtain ⟨hby, hlist⟩ := h.drained hq .bytes
    refine ⟨⟨hd, hby⟩, ?_, ?_⟩
    · intro id l hl
      exact ⟨hls id l hl, hlist id l hl⟩
    · intro id p hp
      have hok := h.session_ok id p hp
      have hqu := hok.stopped_empty (hq.sessions id p hp).2
      refine ⟨hqu, ?_⟩
      rw [hok.queued_eq, hqu]
      rfl

/-- **The ingress budget is conserved** in every run of the listeners and their sessions. -/
theorem ingress_conserved (net : AddressText) (events : List UdpIngressEvent) :
    (exec (UdpIngress.step net) initial events).Conserved := by
  have hstep : ∀ (s : UdpIngress) (event : UdpIngressEvent), s.Invariant →
      (s.step net event).Invariant := by
    intro s event h
    exact Covered.step h net event
  have hrun := exec_invariant hstep covered_initial events
  exact Covered.conserved hrun

end UdpIngress

end MiniTun.Server
