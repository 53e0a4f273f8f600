import MiniTun.Lib.TransitionSystem
import MiniTun.Server.WorkerPool

/-!
# Handlers of the idle workers

`WorkerPool` keeps with each idle worker the handlers of its assignment and of its removal.
`HandledPool` records the additions and the invocations of handlers beside it.  As a worker is
added only while it is not in the pool, to count both says that each addition ends in one
invocation.  A handler does nothing to the pool: the server's only post to a strand.
-/

namespace MiniTun.Server

open KeyedMap TransitionSystem

/-- The two handlers of an entry. -/
inductive WorkerHandler where
  | assignment
  | removal
deriving DecidableEq

/-- The pool with the history of its handlers. -/
structure HandledPool where
  pool : WorkerPool
  /-- The entry of the worker has a removal handler. -/
  removable : Bytes → Bool
  /-- The workers added, and whether with a removal handler. -/
  added : List (Bytes × Bool)
  invoked : List ((Bytes × Bool) × WorkerHandler)

/-- A call of the pool. -/
inductive PoolOperation where
  | add (w : WorkerRegistration) (assignment removal : Bool)
  | assign (b : TunnelBinding) (order : List Bytes)
  | remove (workerId : Bytes)
  | removeSession (clientId : Bytes) (sessionGeneration : Nat)
  | removeClient (clientId : Bytes)
  | clear

namespace HandledPool

def initial (maxIdleWorkersPerSession maxTotalIdleWorkers : Nat) : HandledPool :=
  ⟨.empty maxIdleWorkersPerSession maxTotalIdleWorkers, fun _ => false, [], []⟩

section Calls

variable (s : HandledPool)

/-- The workers leave the pool, each through its handler of this kind if that is not empty. -/
def leave (kind : WorkerHandler) (workers : List Bytes) (pool : WorkerPool) : HandledPool :=
  { s with
    pool := pool
    invoked := s.invoked ++
      (workers.filter fun workerId => kind = .assignment ∨ s.removable workerId).map
        fun workerId => ((workerId, s.removable workerId), kind) }

def add (w : WorkerRegistration) (assignment removal : Bool) : Result Unit × HandledPool :=
  match validateRegistration w with
  | .error e => (.error e, s)
  | .ok () =>
    if assignment = false then
      (failure .invalidArgument "worker assignment handler is empty", s)
    else
      match s.pool.add w with
      | (.error e, _) => (.error e, s)
      | (.ok (), pool) =>
        (.ok (), { s with
          pool := pool
          removable := Function.update s.removable w.workerId removal
          added := s.added ++ [(w.workerId, removal)] })

def assign (b : TunnelBinding) (order : List Bytes) : Bool × HandledPool :=
  match s.pool.assign b order with
  | none => (false, s)
  | some workerId => (true, s.leave .assignment [workerId] (s.pool.remove workerId))

def remove (workerId : Bytes) : HandledPool :=
  if s.pool.entries.lookup workerId = none then s
  else s.leave .removal [workerId] (s.pool.remove workerId)

def eraseMatching (matching : WorkerRegistration → Bool) : HandledPool :=
  s.leave .removal
    (s.pool.entries.keys.filter fun workerId => (s.pool.entries.lookup workerId).any matching)
    (s.pool.eraseMatching matching)

def clear : HandledPool :=
  s.leave .removal s.pool.entries.keys
    (.empty s.pool.maxIdleWorkersPerSession s.pool.maxTotalIdleWorkers)

def step : PoolOperation → HandledPool
  | .add w assignment removal => (s.add w assignment removal).2
  | .assign b order => (s.assign b order).2
  | .remove workerId => s.remove workerId
  | .removeSession c g => s.eraseMatching fun w => w.clientId = c ∧ w.sessionGeneration = g
  | .removeClient c => s.eraseMatching fun w => w.clientId = c
  | .clear => s.clear

/-- The worker is in the pool with both handlers. -/
def holds (workerId : Bytes) : Bool :=
  workerId ∈ s.pool.entries.keys ∧ s.removable workerId

/-- The operation is one for this client. -/
def For (c : Bytes) : PoolOperation → Prop
  | .add w _ _ => w.clientId = c
  | .assign b _ => b.clientId = c
  | .remove workerId => ∀ w, s.pool.entries.lookup workerId = some w → w.clientId = c
  | .removeSession clientId _ => clientId = c
  | .removeClient clientId => clientId = c
  | .clear => False

end Calls

/-- The invariant of pool and history. -/
structure Exact (perSession total : Nat) (s : HandledPool) : Prop where
  perSession_eq : s.pool.maxIdleWorkersPerSession = perSession
  total_eq : s.pool.maxTotalIdleWorkers = total
  handled : ∀ id, s.added.count (id, true) =
    (s.invoked.map Prod.fst).count (id, true) + (s.holds id).toNat
  size_le : size s.pool.entries ≤ total

variable {perSession total : Nat} {s : HandledPool} {kind : WorkerHandler} {workers : List Bytes}

theorem count_leave (hn : workers.Nodup) (pool : WorkerPool) (id : Bytes) :
    ((s.leave kind workers pool).invoked.map Prod.fst).count (id, true) =
      (s.invoked.map Prod.fst).count (id, true) +
        (decide (id ∈ workers ∧ s.removable id)).toNat := by
  simp only [leave, List.map_append, List.count_append, List.map_map, Function.comp_def,
    Nat.add_left_cancel_iff]
  by_cases hm : id ∈ workers ∧ s.removable id
  · rw [decide_eq_true hm]
    apply List.count_eq_one_of_mem
    · refine (hn.filter _).map ?_
      intro a b ha
      exact (Prod.mk.inj ha).1
    · simp [hm.1, hm.2]
  · rw [decide_eq_false hm]
    apply List.count_eq_zero_of_not_mem
    intro hin
    obtain ⟨other, ho, heq⟩ := List.mem_map.1 hin
    obtain ⟨rfl, hr⟩ := Prod.mk.inj heq
    exact hm ⟨(List.mem_filter.1 ho).1, hr⟩

theorem mem_keys_iff {p : WorkerPool} {id : Bytes} :
    id ∈ p.entries.keys ↔ ∃ w, p.entries.lookup id = some w := by
  rw [← AList.mem_keys, ← AList.lookup_isSome, Option.isSome_iff_exists]

theorem add_cases (s : HandledPool) (w : WorkerRegistration) (a r : Bool) :
    (∃ e, s.add w a r = (.error e, s)) ∨
    s.pool.add w = (.ok (), s.pool.insertWorker w) ∧ s.pool.entries.lookup w.workerId = none ∧
      s.add w a r = (.ok (), { s with
        pool := s.pool.insertWorker w
        removable := Function.update s.removable w.workerId r
        added := s.added ++ [(w.workerId, r)] }) := by
  unfold add
  split
  · exact .inl ⟨_, rfl⟩
  · split
    · exact .inl ⟨_, rfl⟩
    · obtain ⟨e, hadd⟩ | ⟨-, -, hno, hadd⟩ := s.pool.add_cases w
      · rw [hadd]
        exact .inl ⟨e, rfl⟩
      · rw [hadd]
        exact .inr ⟨rfl, hno, rfl⟩

section Steps

variable (h : s.Exact perSession total)
include h

theorem Exact.leave {pool : WorkerPool} (hn : workers.Nodup)
    (hin : ∀ id ∈ workers, id ∈ s.pool.entries.keys)
    (hk : ∀ id, id ∈ pool.entries.keys ↔ id ∈ s.pool.entries.keys ∧ id ∉ workers)
    (hper : pool.maxIdleWorkersPerSession = s.pool.maxIdleWorkersPerSession)
    (ht : pool.maxTotalIdleWorkers = s.pool.maxTotalIdleWorkers)
    (hle : size pool.entries ≤ size s.pool.entries) :
    (s.leave kind workers pool).Exact perSession total := by
  refine ⟨hper.trans h.perSession_eq, ht.trans h.total_eq, ?_, Nat.le_trans hle h.size_le⟩
  intro id
  rw [count_leave hn, Nat.add_assoc]
  refine (h.handled id).trans ?_
  have hnw : (s.leave kind workers pool).holds id =
      decide (id ∈ pool.entries.keys ∧ s.removable id) := rfl
  simp only [hnw, hk]
  by_cases hm : id ∈ workers
  · simp [holds, hin id hm, hm]
  · simp [holds, hm]

theorem Exact.remove {id : Bytes} (hm : id ∈ s.pool.entries.keys) :
    (s.leave kind [id] (s.pool.remove id)).Exact perSession total := by
  refine h.leave (List.nodup_singleton _) ?_ ?_ rfl rfl (size_erase_le _ _)
  · intro other ho
    rw [List.mem_singleton.1 ho]
    exact hm
  · intro other
    rw [List.mem_singleton, and_comm]
    exact AList.mem_erase

theorem Exact.eraseMatching (matching : WorkerRegistration → Bool) :
    (s.eraseMatching matching).Exact perSession total := by
  refine h.leave (s.pool.entries.keys_nodup.filter _) ?_ ?_ rfl rfl (size_retain_le _ _)
  · intro id hm
    exact (List.mem_filter.1 hm).1
  · intro id
    simp only [mem_keys_iff, WorkerPool.lookup_eraseMatching, List.mem_filter]
    cases s.pool.entries.lookup id with
    | none => simp
    | some w => simp

theorem Exact.add (w : WorkerRegistration) (a r : Bool) :
    (s.add w a r).2.Exact perSession total := by
  obtain ⟨e, hadd⟩ | ⟨hp, hno, hadd⟩ := s.add_cases w a r
  · rw [hadd]
    exact h
  · rw [hadd]
    have hn : w.workerId ∉ s.pool.entries.keys := by
      rw [mem_keys_iff, hno]
      simp
    have hr := h.total_eq ▸ (WorkerPool.add_limits hp).1
    refine ⟨h.perSession_eq, h.total_eq, ?_, Nat.le_trans (size_insert_le _ _ _) hr⟩
    intro id
    have hws := h.handled id
    have hk : id ∈ (s.pool.insertWorker w).entries.keys ↔
        id = w.workerId ∨ id ∈ s.pool.entries.keys := AList.mem_insert _
    simp only [holds, List.count_append, hk] at hws ⊢
    by_cases hid : id = w.workerId
    · subst hid
      cases r with
      | true => simp [hws, hn]
      | false => simp [hws, hn]
    · simp [hws, hid, Ne.symm hid]

theorem Exact.step (op : PoolOperation) : (s.step op).Exact perSession total := by
  cases op with
  | add w a r => exact h.add w a r
  | assign b ord =>
    simp only [HandledPool.step, assign]
    split
    · exact h
    · next id has =>
      obtain ⟨w, hl, -⟩ := WorkerPool.assign_eq_some has
      exact h.remove (mem_keys_iff.2 ⟨w, hl⟩)
  | remove id =>
    simp only [HandledPool.step, HandledPool.remove]
    split
    · exact h
    · next hso => exact h.remove (mem_keys_iff.2 (Option.ne_none_iff_exists'.1 hso))
  | removeSession c g => exact h.eraseMatching _
  | removeClient c => exact h.eraseMatching _
  | clear =>
    refine h.leave s.pool.entries.keys_nodup (fun _ hm => hm) ?_ rfl rfl (Nat.zero_le _)
    intro id
    simp [WorkerPool.empty]

end Steps

section OtherClients

variable {c key : Bytes} {w : WorkerRegistration} (hw : w.clientId ≠ c)
include hw

theorem remove_other {id : Bytes} (how : ∀ w, s.pool.entries.lookup id = some w → w.clientId = c) :
    (s.pool.remove id).entries.lookup key = some w ↔ s.pool.entries.lookup key = some w := by
  rw [WorkerPool.lookup_remove]
  split
  · next hkey =>
    subst hkey
    exact iff_of_false (fun h => by cases h) fun h => hw (how w h)
  · exact Iff.rfl

theorem step_other {op : PoolOperation} (hfor : s.For c op) :
    (s.step op).pool.entries.lookup key = some w ↔ s.pool.entries.lookup key = some w := by
  cases op with
  | add w' a r =>
    obtain ⟨e, hadd⟩ | ⟨-, hno, hadd⟩ := s.add_cases w' a r
    · rw [step, hadd]
    · simp only [step, hadd, WorkerPool.insertWorker]
      rw [lookup_insert_eq_ite]
      split
      · next hkey =>
        rw [hkey, hno]
        exact iff_of_false (fun h => by cases h; exact hw hfor) fun h => by cases h
      · exact Iff.rfl
  | assign b ord =>
    simp only [step, assign]
    split
    · exact Iff.rfl
    · next id has =>
      obtain ⟨w', hl, hc, -⟩ := WorkerPool.assign_eq_some has
      refine remove_other hw ?_
      intro v hv
      rw [hl] at hv
      cases hv
      exact hc.trans hfor
  | remove id =>
    simp only [step, remove]
    split
    · exact Iff.rfl
    · exact remove_other hw hfor
  | removeSession cid g =>
    refine WorkerPool.lookup_removeSession.trans (and_iff_left ?_)
    rintro ⟨rfl, -⟩
    exact hw hfor
  | removeClient cid =>
    refine WorkerPool.lookup_removeClient.trans (and_iff_left ?_)
    rintro rfl
    exact hw hfor
  | clear => cases hfor

end OtherClients

/-- **Idle workers are sent off once.** After every run, each addition of a worker with both
handlers has had one invocation, but for that of a worker still in the pool, which has had none;
the pool is within its bounds, and what is done for one client leaves the others alone. -/
theorem idle_workers_sent_off_once (perSession total : Nat) (ops : List PoolOperation) :
    let s := exec step (initial perSession total) ops
    (∀ key, s.added.count (key, true) =
      (s.invoked.map Prod.fst).count (key, true) + (s.holds key).toNat) ∧
    size s.pool.entries ≤ total ∧
    (∀ b order, order.Perm s.pool.entries.keys →
      ((s.assign b order).1 = true ↔ 0 < s.pool.idleCount b.clientId b.sessionGeneration) ∧
      ((s.assign b order).1 = true → ∃ id w, s.pool.entries.lookup id = some w ∧
        w.clientId = b.clientId ∧ w.sessionGeneration = b.sessionGeneration ∧
        ∀ key, (s.assign b order).2.pool.entries.lookup key =
          if key = id then none else s.pool.entries.lookup key)) ∧
    (∀ w a r s', s.add w a r = (.ok (), s') →
      s'.pool.idleCount w.clientId w.sessionGeneration ≤
        effectiveLimit w.maxIdleWorkers perSession) ∧
    ∀ op c, s.For c op → ∀ key w, w.clientId ≠ c →
      ((s.step op).pool.entries.lookup key = some w ↔ s.pool.entries.lookup key = some w) := by
  intro s
  have h : s.Exact perSession total :=
    exec_invariant (fun _ op h => h.step op) ⟨rfl, rfl, fun _ => rfl, Nat.zero_le _⟩ ops
  refine ⟨h.handled, h.size_le, ?_, ?_, fun op c hfor key w hw => step_other hw hfor⟩
  · intro b order hord
    unfold assign
    cases has : s.pool.assign b order with
    | none => simp [WorkerPool.assign_eq_none hord has]
    | some id =>
      obtain ⟨w, hl, hc, hgen⟩ := WorkerPool.assign_eq_some has
      have hcn := WorkerPool.idleCount_remove_of_assign has
      exact ⟨iff_of_true rfl (by omega),
        fun _ => ⟨id, w, hl, hc, hgen, s.pool.lookup_remove id⟩⟩
  · intro w a r s' hadd
    obtain ⟨e, herr⟩ | ⟨hp, -, hok⟩ := s.add_cases w a r
    · rw [herr] at hadd
      cases hadd
    · have hlt := (WorkerPool.add_limits hp).2
      have hle := s.pool.idleCount_insertWorker_le w w.clientId w.sessionGeneration
      rw [h.perSession_eq] at hlt
      rw [hok] at hadd
      cases hadd
      simp only [and_self, decide_true, Bool.toNat_true] at hle
      exact Nat.le_trans hle hlt

end HandledPool

end MiniTun.Server
