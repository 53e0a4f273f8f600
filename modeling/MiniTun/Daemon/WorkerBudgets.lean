import Mathlib.Data.Finset.Card
import MiniTun.Lib.KeyedMap
import MiniTun.Lib.TransitionSystem

/-!
# Worker budgets

The Worker pools of a daemon share two budgets: one for idle Workers, one for connections.
A slot of the first is taken when a Worker is spawned and given back when it is
consumed, finishes or is stopped; a slot of the second belongs to the `WorkerSession` object
and is given back by its destructor.

A pool's own steps are serialized on its executor; the pools interleave, also between two
rounds of the spawn loop.  What a step gives back is reported by the pool (`Freed`) and
taken off the budgets.  Slots are numbered by the attempts to take them, and a Worker has the
number of its attempt: `Id::generate` never gives an identifier twice.
-/

namespace MiniTun.Daemon

open KeyedMap TransitionSystem

structure WorkerBudget where
  maximum : Nat
  inUse : Nat

namespace WorkerBudget

def new (maximum : Nat) : WorkerBudget := ⟨max maximum 1, 0⟩

def tryAcquire (b : WorkerBudget) : Option WorkerBudget :=
  if b.inUse < b.maximum then some { b with inUse := b.inUse + 1 } else none

def release (b : WorkerBudget) : WorkerBudget :=
  if 0 < b.inUse then { b with inUse := b.inUse - 1 } else b

end WorkerBudget

/-- What has been dispatched to the executor of a pool and has not run. -/
inductive PoolTask where
  | ensureMinimum
  | request (count : Nat)
  | stop
deriving DecidableEq

/-- `WorkerPool::Impl`.  `sessions` and `available` are the keys of `sessions_` and
`available_workers_`.  `live` are the `WorkerSession` objects there are and `coroutines` those
whose completion handler, which holds the object, is still to run. -/
structure Pool where
  minIdleWorkers : Nat
  maxIdleWorkers : Nat
  started : Bool
  running : Bool
  tasks : List PoolTask
  /-- The rounds `spawn_workers` has before it. -/
  remaining : Nat
  sessions : Finset Nat
  available : Finset Nat
  coroutines : Finset Nat
  live : Finset Nat
  /-- The shutdown timer has been armed. -/
  shutdown : Bool

/-- The slots a step of a pool gives back. -/
structure Freed where
  idle : Finset Nat
  connection : Finset Nat

namespace Freed

def nothing : Freed := ⟨∅, ∅⟩

end Freed

namespace Pool

def new (minIdleWorkers maxIdleWorkers : Nat) : Pool :=
  ⟨minIdleWorkers, maxIdleWorkers, false, false, [], 0, ∅, ∅, ∅, ∅, false⟩

section Pool

variable (p : Pool)

def start : Pool :=
  if p.started then p
  else { p with started := true, running := true, tasks := p.tasks ++ [.ensureMinimum] }

def requestWorkers (count : Nat) : Pool :=
  if count = 0 then p else { p with tasks := p.tasks ++ [.request count] }

/-- `stop`, up to what it dispatches. -/
def stop : Pool :=
  if p.running then { p with running := false, tasks := p.tasks ++ [.stop] } else p

def spawnWorkers (requested : Nat) : Pool :=
  if p.running = false ∨ requested = 0 then p
  else { p with remaining := min requested (p.maxIdleWorkers - p.available.card) }

def ensureMinimum : Pool :=
  if p.available.card < p.minIdleWorkers then
    p.spawnWorkers (p.minIdleWorkers - p.available.card)
  else p

/-- References to objects are dropped: those that neither the map nor a handler holds are
destroyed. -/
def drop (workers : Finset Nat) : Pool × Finset Nat :=
  let dead := workers.filter fun worker => worker ∉ p.sessions ∧ worker ∉ p.coroutines
  ({ p with live := p.live \ dead }, dead)

/-- What `stop` dispatches. -/
def stopIdle : Pool × Freed :=
  let sessions := p.sessions \ p.available
  let (p', dead) := { p with sessions := sessions, available := ∅, shutdown := sessions ≠ ∅ }.drop
    (p.sessions ∩ p.available)
  (p', ⟨p.available, dead⟩)

def forceStop : Pool × Freed :=
  let (p', dead) := { p with sessions := ∅ }.drop p.sessions
  (p', ⟨∅, dead⟩)

variable (worker : Nat)

def workerConsumed : Pool × Freed :=
  if worker ∈ p.available then
    ({ p with available := p.available.erase worker }.ensureMinimum, ⟨{worker}, ∅⟩)
  else (p, .nothing)

def workerFinished : Pool × Freed :=
  if worker ∈ p.sessions then
    ({ p with
      sessions := p.sessions.erase worker
      available := p.available.erase worker }, ⟨p.available ∩ {worker}, ∅⟩)
  else (p, .nothing)

/-- The completion handler of a Worker's coroutine: `worker_finished`, after which the
handler and its reference are gone. -/
def complete : Pool × Freed :=
  let (finished, freed) := p.workerFinished worker
  let (p', dead) := { finished with coroutines := finished.coroutines.erase worker }.drop {worker}
  (p', { freed with connection := dead })

def run : PoolTask → Pool × Freed
  | .ensureMinimum => (p.ensureMinimum, .nothing)
  | .request count => (if p.running then p.spawnWorkers count else p, .nothing)
  | .stop => p.stopIdle

/-- A Worker with this number is made and, unless `co_spawn` fails, started. -/
def addWorker (started : Bool) : Pool :=
  { p with
    remaining := if started then p.remaining - 1 else 0
    sessions := insert worker p.sessions
    available := insert worker p.available
    coroutines := if started then insert worker p.coroutines else p.coroutines
    live := insert worker p.live }

end Pool

end Pool

/-- What becomes of a round of the spawn loop after both slots were taken. -/
inductive SpawnOutcome where
  | generateFailed
  | constructFailed
  | made (started : Bool)

/-- The pools and the budgets they share.  `next` numbers the attempts to take slots; the
last four fields are the history of the slots that were taken and given back. -/
structure Workers where
  idle : WorkerBudget
  connection : WorkerBudget
  pools : Map Nat Pool
  next : Nat
  idleTaken : Nat
  connectionTaken : Nat
  idleReleased : Multiset Nat
  connectionReleased : Multiset Nat

/-- What happens to the pools of a daemon. -/
inductive WorkersEvent where
  | create (pool minIdleWorkers maxIdleWorkers : Nat)
  | start (pool : Nat)
  | requestWorkers (pool count : Nat)
  | stop (pool : Nat)
  | run (pool : Nat) (task : PoolTask)
  | spawn (pool : Nat) (outcome : SpawnOutcome)
  | consumed (pool worker : Nat)
  | completed (pool worker : Nat)
  | replenish (pool : Nat)
  | forceStop (pool : Nat)

namespace Workers

def initial (maxIdle maxConnections : Nat) : Workers :=
  ⟨.new maxIdle, .new maxConnections, ∅, 0, 0, 0, 0, 0⟩

section Workers

variable (s : Workers)

def releaseIdle (slots : Finset Nat) : Workers :=
  { s with
    idle := WorkerBudget.release^[slots.card] s.idle
    idleReleased := s.idleReleased + slots.val }

def releaseConnection (slots : Finset Nat) : Workers :=
  { s with
    connection := WorkerBudget.release^[slots.card] s.connection
    connectionReleased := s.connectionReleased + slots.val }

def put (pool : Nat) (result : Pool × Freed) : Workers :=
  ({ s with pools := s.pools.insert pool result.1 }.releaseIdle result.2.idle).releaseConnection
    result.2.connection

/-- The connection slot of a round, if there is one. -/
def takeConnection : Option Workers :=
  s.connection.tryAcquire.map fun connection =>
    { s with
      connection := connection, connectionTaken := s.connectionTaken + 1, next := s.next + 1 }

def takeIdle : Option Workers :=
  s.idle.tryAcquire.map fun idle => { s with idle := idle, idleTaken := s.idleTaken + 1 }

/-- One round of the loop of `spawn_workers`. -/
def spawn (pool : Nat) (p : Pool) (outcome : SpawnOutcome) : Workers :=
  let slot := s.next
  let broken : Pool := { p with remaining := 0 }
  match s.takeConnection with
  | none => s.put pool (broken, .nothing)
  | some taken =>
    match taken.takeIdle with
    | none => (taken.releaseConnection {slot}).put pool (broken, .nothing)
    | some both =>
      match outcome with
      | .generateFailed | .constructFailed =>
        ((both.releaseIdle {slot}).releaseConnection {slot}).put pool (broken, .nothing)
      | .made started => both.put pool (p.addWorker slot started, .nothing)

/-- The step of a pool that exists and whose executor is free for it. -/
def poolStep (pool : Nat) (p : Pool) : WorkersEvent → Workers
  | .create _ _ _ => s
  | .start _ => s.put pool (p.start, .nothing)
  | .requestWorkers _ count => s.put pool (p.requestWorkers count, .nothing)
  | .stop _ => s.put pool (p.stop, .nothing)
  | .run _ task =>
    if task ∈ p.tasks ∧ p.remaining = 0 then
      s.put pool ({ p with tasks := p.tasks.erase task }.run task)
    else s
  | .spawn _ outcome => if p.remaining = 0 then s else s.spawn pool p outcome
  | .consumed _ worker =>
    if worker ∈ p.coroutines ∧ p.remaining = 0 then s.put pool (p.workerConsumed worker) else s
  -- A Worker that finds the pool stopped finishes while it is being started, in the loop.
  | .completed _ worker =>
    if worker ∈ p.coroutines then s.put pool (p.complete worker) else s
  | .replenish _ => if p.remaining = 0 then s.put pool (p.ensureMinimum, .nothing) else s
  | .forceStop _ =>
    if p.shutdown ∧ p.remaining = 0 then s.put pool p.forceStop else s

end Workers

end Workers

def WorkersEvent.pool : WorkersEvent → Nat
  | .create pool _ _ | .start pool | .requestWorkers pool _ | .stop pool | .run pool _
  | .spawn pool _ | .consumed pool _ | .completed pool _ | .replenish pool | .forceStop pool => pool

namespace Workers

def step (s : Workers) (event : WorkersEvent) : Workers :=
  match s.pools.lookup event.pool, event with
  | none, .create pool minIdleWorkers maxIdleWorkers =>
    if minIdleWorkers ≤ maxIdleWorkers ∧ maxIdleWorkers ≤ 128 then
      s.put pool (.new minIdleWorkers maxIdleWorkers, .nothing)
    else s
  | none, _ => s
  | some p, event => s.poolStep event.pool p event

end Workers

/-! ## One budget -/

namespace WorkerBudget

/-- The budget agrees with the slots the pools hold, and with what was taken and given back.
The sets are those of the slots each pool holds. -/
structure Balanced (b : WorkerBudget) (taken : Nat) (released : Multiset Nat)
    (held : Pool → Finset Nat) (pools : Map Nat Pool) (next : Nat) : Prop where
  inUse_eq : b.inUse = sumBy (fun p => (held p).card) pools
  inUse_le : b.inUse ≤ b.maximum
  /-- No release has met a counter that was zero already. -/
  taken_eq : taken = b.inUse + released.card
  once : ∀ slot, sumBy (fun p => (held p).val.count slot) pools + released.count slot ≤
    if slot < next then 1 else 0

theorem release_iterate (b : WorkerBudget) (n : Nat) :
    release^[n] b = { b with inUse := b.inUse - n } := by
  induction n with
  | zero => rfl
  | succ n ih =>
    rw [Function.iterate_succ_apply', ih]
    unfold release
    simp only
    split
    · rw [Nat.sub_sub]
    · next h =>
      congr 1
      omega

variable {b : WorkerBudget} {taken next : Nat} {released : Multiset Nat}
  {held : Pool → Finset Nat} {pools : Map Nat Pool}

theorem balanced_new (maximum : Nat) : (new maximum).Balanced 0 0 held ∅ 0 where
  inUse_eq := (sumBy_empty _).symm
  inUse_le := Nat.zero_le _
  taken_eq := rfl
  once := by
    intro slot
    exact Nat.zero_le _

theorem Balanced.mono (h : b.Balanced taken released held pools next) :
    b.Balanced taken released held pools (next + 1) where
  inUse_eq := h.inUse_eq
  inUse_le := h.inUse_le
  taken_eq := h.taken_eq
  once := by
    intro slot
    have honce := h.once slot
    split at honce
    · rw [if_pos (by omega)]
      exact honce
    · exact Nat.le_trans honce (Nat.zero_le _)

theorem Balanced.release (h : b.Balanced taken released held pools next) {pool : Nat} {p' : Pool}
    {slots : Finset Nat}
    (hh : (held p').val + slots.val = ((pools.lookup pool).map fun p => (held p).val).getD 0) :
    (WorkerBudget.release^[slots.card] b).Balanced taken (released + slots.val) held
      (pools.insert pool p') next := by
  have hsum : ∀ weigh : Multiset Nat → Nat, (∀ s t, weigh (s + t) = weigh s + weigh t) →
      weigh 0 = 0 →
      sumBy (fun p => weigh (held p).val) (pools.insert pool p') + weigh slots.val =
        sumBy (fun p => weigh (held p).val) pools := by
    intro weigh hadd hz
    have hi := sumBy_insert (fun p => weigh (held p).val) pools pool p'
    have hw := congrArg weigh hh
    rw [hadd] at hw
    cases hl : pools.lookup pool with
    | none =>
      simp only [hl, Option.map_none, Option.getD_none] at hi hw
      omega
    | some p =>
      simp only [hl, Option.map_some, Option.getD_some] at hi hw
      omega
  have hcard := hsum Multiset.card Multiset.card_add Multiset.card_zero
  have hinU := h.inUse_eq
  have ht := h.taken_eq
  have hle := h.inUse_le
  simp only [Finset.card_val] at hcard
  rw [release_iterate]
  refine ⟨?_, ?_, ?_, ?_⟩
  · simp only
    omega
  · simp only
    omega
  · rw [Multiset.card_add, Finset.card_val]
    simp only
    omega
  · intro slot
    have hc := hsum (Multiset.count slot) (Multiset.count_add slot) (Multiset.count_zero slot)
    have honce := h.once slot
    rw [Multiset.count_add]
    omega

variable {b' : WorkerBudget}

theorem tryAcquire_eq_some (h : b.tryAcquire = some b') :
    b.inUse < b.maximum ∧ b' = { b with inUse := b.inUse + 1 } := by
  unfold tryAcquire at h
  split at h
  · next hr => exact ⟨hr, (Option.some.inj h).symm⟩
  · cases h

theorem Balanced.takeBack (h : b.Balanced taken released held pools next)
    (hb' : b.tryAcquire = some b') :
    (WorkerBudget.release^[({next} : Finset Nat).card] b').Balanced (taken + 1)
      (released + ({next} : Finset Nat).val) held pools (next + 1) := by
  obtain ⟨-, rfl⟩ := tryAcquire_eq_some hb'
  rw [release_iterate]
  refine ⟨h.inUse_eq, h.inUse_le, ?_, ?_⟩
  · have ht := h.taken_eq
    rw [Multiset.card_add, Finset.card_val]
    simp only [Finset.card_singleton]
    omega
  · intro slot
    have honce := h.once slot
    rw [Multiset.count_add, Finset.singleton_val, Multiset.count_singleton]
    by_cases hs : slot = next
    · rw [if_neg (by omega)] at honce
      rw [if_pos hs, if_pos (by omega)]
      omega
    · rw [if_neg hs]
      exact h.mono.once slot

theorem Balanced.take (h : b.Balanced taken released held pools next)
    (hb' : b.tryAcquire = some b') {pool : Nat} {p p' : Pool} (hp : pools.lookup pool = some p)
    (hh : held p' = insert next (held p)) :
    b'.Balanced (taken + 1) released held (pools.insert pool p') (next + 1) := by
  obtain ⟨hr, rfl⟩ := tryAcquire_eq_some hb'
  have hf : next ∉ held p := by
    have honce := h.once next
    rw [if_neg (Nat.lt_irrefl next)] at honce
    have hle := le_sumBy (fun p => (held p).val.count next) hp
    intro hmem
    have hpos := Multiset.count_pos.2 hmem
    omega
  have hval : (held p').val = next ::ₘ (held p).val := by
    rw [hh, Finset.insert_val_of_notMem hf]
  have hinU := h.inUse_eq
  have ht := h.taken_eq
  refine ⟨?_, hr, ?_, ?_⟩
  · have hi := sumBy_insert (fun p => (held p).card) pools pool p'
    rw [hp] at hi
    simp only [Option.map_some, Option.getD_some, hh, Finset.card_insert_of_notMem hf] at hi
    simp only
    omega
  · simp only
    omega
  · intro slot
    have hi := sumBy_insert (fun p => (held p).val.count slot) pools pool p'
    rw [hp] at hi
    simp only [Option.map_some, Option.getD_some, hval, Multiset.count_cons] at hi
    have honce := h.once slot
    by_cases hs : slot = next
    · rw [if_neg (by omega)] at honce
      rw [if_pos hs] at hi
      rw [if_pos (by omega)]
      omega
    · rw [if_neg hs] at hi
      have hmono := h.mono.once slot
      omega

end WorkerBudget

/-! ## One pool -/

namespace Pool

/-- The invariant of a single pool. -/
structure Ok (p : Pool) : Prop where
  available_listed : p.available ⊆ p.sessions
  /-- The spawn loop has room for the rounds it has left. -/
  room : p.available.card + p.remaining ≤ p.maxIdleWorkers
  /-- An object lives as long as something refers to it. -/
  live_eq : p.live = p.sessions ∪ p.coroutines
  running_started : p.running = true → p.started = true
  stop_dispatched : PoolTask.stop ∈ p.tasks → p.started = true ∧ p.running = false
  /-- A pool that has been stopped spawns no more. -/
  shut : p.shutdown = true → p.started = true ∧ p.running = false ∧ p.remaining = 0 ∧
    p.available = ∅

/-- A step of the pool keeps that, and gives back slots that the pool held. -/
structure Steps (p p' : Pool) (freed : Freed) : Prop where
  ok : p'.Ok
  idle : p'.available.val + freed.idle.val = p.available.val
  connection : p'.live.val + freed.connection.val = p.live.val

theorem val_sdiff_add {a b : Finset Nat} (h : b ⊆ a) : (a \ b).val + b.val = a.val := by
  exact Multiset.sub_add_cancel (Finset.val_le_iff.2 h)

variable {p p' : Pool}

theorem ok_new (minIdleWorkers maxIdleWorkers : Nat) : (new minIdleWorkers maxIdleWorkers).Ok where
  available_listed := Finset.Subset.refl _
  room := Nat.zero_le _
  live_eq := rfl
  running_started := by
    intro h
    cases h
  stop_dispatched := by
    intro h
    cases h
  shut := by
    intro h
    cases h

theorem Steps.of_same (hok : p'.Ok) (ha : p'.available = p.available)
    (hl : p'.live = p.live) : Steps p p' .nothing where
  ok := hok
  idle := by
    rw [ha]
    exact Multiset.add_zero _
  connection := by
    rw [hl]
    exact Multiset.add_zero _

theorem Ok.start (h : p.Ok) : Steps p p.start .nothing := by
  unfold Pool.start
  split
  · exact .of_same h rfl rfl
  · next hst =>
    refine .of_same ⟨h.available_listed, h.room, h.live_eq, fun _ => rfl, ?_, ?_⟩ rfl rfl
    -- Nothing has been stopped that was not started.
    · intro hs
      rw [List.mem_append, List.mem_singleton] at hs
      rcases hs with hs | hs
      · exact absurd (h.stop_dispatched hs).1 hst
      · cases hs
    · intro hshut
      exact absurd (h.shut hshut).1 hst

theorem Ok.requestWorkers (h : p.Ok) (count : Nat) : Steps p (p.requestWorkers count) .nothing := by
  unfold Pool.requestWorkers
  split
  · exact .of_same h rfl rfl
  · refine .of_same ⟨h.available_listed, h.room, h.live_eq, h.running_started, ?_, h.shut⟩ rfl rfl
    intro hs
    rw [List.mem_append, List.mem_singleton] at hs
    rcases hs with hs | hs
    · exact h.stop_dispatched hs
    · cases hs

theorem Ok.stop (h : p.Ok) : Steps p p.stop .nothing := by
  unfold Pool.stop
  split
  · next hrun =>
    refine .of_same ⟨h.available_listed, h.room, h.live_eq, ?_, ?_, ?_⟩ rfl rfl
    · intro hs
      cases hs
    · intro _
      exact ⟨h.running_started hrun, rfl⟩
    · intro hshut
      exact ⟨(h.shut hshut).1, rfl, (h.shut hshut).2.2⟩
  · exact .of_same h rfl rfl

theorem Ok.spawnWorkers (h : p.Ok) (requested : Nat) :
    Steps p (p.spawnWorkers requested) .nothing := by
  unfold Pool.spawnWorkers
  split
  · exact .of_same h rfl rfl
  · next hs =>
    rw [not_or, Bool.not_eq_false] at hs
    refine .of_same ⟨h.available_listed, ?_, h.live_eq, h.running_started, h.stop_dispatched, ?_⟩
      rfl rfl
    · have hr := h.room
      simp only
      omega
    · intro hshut
      have hst := (h.shut hshut).2.1
      rw [hs.1] at hst
      cases hst

theorem Ok.ensureMinimum (h : p.Ok) : Steps p p.ensureMinimum .nothing := by
  unfold Pool.ensureMinimum
  split
  · exact h.spawnWorkers _
  · exact .of_same h rfl rfl

theorem Steps.followed {q : Pool} {freed : Freed} (h : Steps p q freed)
    (h' : Steps q p' .nothing) : Steps p p' freed where
  ok := h'.ok
  idle := by
    rw [← h.idle, ← h'.idle]
    exact congrArg (· + freed.idle.val) (Multiset.add_zero _).symm
  connection := by
    rw [← h.connection, ← h'.connection]
    exact congrArg (· + freed.connection.val) (Multiset.add_zero _).symm

theorem drop_live {workers : Finset Nat} (h : p.live = p.sessions ∪ p.coroutines ∪ workers) :
    (p.drop workers).1.live = p.sessions ∪ p.coroutines ∧
      (p.drop workers).1.live.val + (p.drop workers).2.val = p.live.val := by
  have hsub : (p.drop workers).2 ⊆ p.live := by
    rw [h]
    exact (Finset.filter_subset _ _).trans Finset.subset_union_right
  refine ⟨?_, val_sdiff_add hsub⟩
  ext worker
  simp only [h, drop, Finset.mem_sdiff, Finset.mem_union, Finset.mem_filter]
  tauto

section PoolSteps

variable (h : p.Ok)
include h

theorem Ok.stopIdle (hs : p.started = true ∧ p.running = false)
    (hr : p.remaining = 0) : Steps p p.stopIdle.1 p.stopIdle.2 := by
  have hl : p.live = p.sessions \ p.available ∪ p.coroutines ∪ p.sessions ∩ p.available := by
    rw [h.live_eq]
    ext worker
    simp only [Finset.mem_union, Finset.mem_sdiff, Finset.mem_inter]
    tauto
  obtain ⟨hl', hdead⟩ := drop_live (p := { p with
    sessions := p.sessions \ p.available
    shutdown := p.sessions \ p.available ≠ ∅ }) hl
  refine ⟨⟨Finset.empty_subset _, ?_, hl', h.running_started, h.stop_dispatched, ?_⟩, ?_, hdead⟩
  · simp [Pool.stopIdle, drop, hr]
  · intro _
    exact ⟨hs.1, hs.2, hr, rfl⟩
  · exact Multiset.zero_add _

theorem Ok.forceStop (hshut : p.shutdown = true) : Steps p p.forceStop.1 p.forceStop.2 := by
  have hl : p.live = ∅ ∪ p.coroutines ∪ p.sessions := by
    rw [h.live_eq, Finset.empty_union, Finset.union_comm]
  obtain ⟨hl', hdead⟩ := drop_live (p := { p with sessions := ∅ }) hl
  have hno : p.available = ∅ := (h.shut hshut).2.2.2
  refine ⟨⟨?_, h.room, hl', h.running_started, h.stop_dispatched, h.shut⟩, ?_, hdead⟩
  · show p.available ⊆ ∅
    rw [hno]
  · exact Multiset.add_zero _

theorem Ok.workerConsumed (worker : Nat) :
    Steps p (p.workerConsumed worker).1 (p.workerConsumed worker).2 := by
  unfold Pool.workerConsumed
  split
  · next hmem =>
    have hcard := Finset.card_erase_le (s := p.available) (a := worker)
    have hrm := h.room
    have he : Steps p { p with available := p.available.erase worker } ⟨{worker}, ∅⟩ := by
      refine ⟨⟨?_, ?_, h.live_eq, h.running_started, h.stop_dispatched, ?_⟩, ?_, ?_⟩
      · exact (Finset.erase_subset _ _).trans h.available_listed
      · simp only
        omega
      · intro hshut
        obtain ⟨hs, hrun, hr, hno⟩ := h.shut hshut
        refine ⟨hs, hrun, hr, ?_⟩
        simp only [hno, Finset.erase_empty]
      · rw [← Finset.sdiff_singleton_eq_erase]
        exact val_sdiff_add (Finset.singleton_subset_iff.2 hmem)
      · exact Multiset.add_zero _
    exact he.followed he.ok.ensureMinimum
  · exact .of_same h rfl rfl

theorem Ok.workerFinished (worker : Nat) :
    (p.workerFinished worker).1 = { p with
        sessions := p.sessions.erase worker
        available := p.available.erase worker } ∧
      (p.workerFinished worker).2.idle = p.available ∩ {worker} := by
  unfold Pool.workerFinished
  split
  · exact ⟨rfl, rfl⟩
  · next hmem =>
    have ha : worker ∉ p.available := fun hin => hmem (h.available_listed hin)
    refine ⟨?_, ?_⟩
    · rw [Finset.erase_eq_of_notMem hmem, Finset.erase_eq_of_notMem ha]
    · rw [Finset.inter_singleton_of_notMem ha]
      rfl

theorem Ok.complete {worker : Nat} (hmem : worker ∈ p.coroutines) :
    Steps p (p.complete worker).1 (p.complete worker).2 := by
  obtain ⟨hfin, hi⟩ := h.workerFinished worker
  have hl : p.live = p.sessions.erase worker ∪ p.coroutines.erase worker ∪ {worker} := by
    rw [h.live_eq]
    ext other
    by_cases ho : other = worker
    · subst ho
      simp [hmem]
    · simp [ho]
  obtain ⟨hl', hdead⟩ := drop_live (p := { p with
    sessions := p.sessions.erase worker
    coroutines := p.coroutines.erase worker }) hl
  have hcard := Finset.card_erase_le (s := p.available) (a := worker)
  have hrm := h.room
  unfold Pool.complete
  simp only [hfin]
  refine ⟨⟨?_, ?_, hl', h.running_started, h.stop_dispatched, ?_⟩, ?_, hdead⟩
  · exact Finset.erase_subset_erase worker h.available_listed
  · simp only [drop]
    omega
  · intro hshut
    obtain ⟨hs, hrun, hr, hno⟩ := h.shut hshut
    refine ⟨hs, hrun, hr, ?_⟩
    simp only [drop, hno, Finset.erase_empty]
  · show (p.available.erase worker).val + (p.workerFinished worker).2.idle.val = p.available.val
    have he : p.available.erase worker = p.available \ (p.available ∩ {worker}) := by
      rw [Finset.sdiff_inter_self_left, Finset.sdiff_singleton_eq_erase]
    rw [hi, he]
    exact val_sdiff_add Finset.inter_subset_left

theorem Ok.run {task : PoolTask} (htask : task ∈ p.tasks) (hr : p.remaining = 0) :
    Steps p ({ p with tasks := p.tasks.erase task }.run task).1
      ({ p with tasks := p.tasks.erase task }.run task).2 := by
  have hok : Ok { p with tasks := p.tasks.erase task } :=
    ⟨h.available_listed, h.room, h.live_eq, h.running_started,
      fun hsp => h.stop_dispatched (List.mem_of_mem_erase hsp), h.shut⟩
  have hs : Steps p { p with tasks := p.tasks.erase task } .nothing := .of_same hok rfl rfl
  cases task with
  | ensureMinimum => exact hs.followed hok.ensureMinimum
  | request count =>
    simp only [Pool.run]
    split
    · exact hs.followed (hok.spawnWorkers count)
    · exact hs
  | stop =>
    have hst := hok.stopIdle (h.stop_dispatched htask) hr
    exact ⟨hst.ok, hst.idle, hst.connection⟩

theorem Ok.broken : Steps p { p with remaining := 0 } .nothing := by
  have hr := h.room
  refine .of_same ⟨h.available_listed, ?_, h.live_eq, h.running_started, h.stop_dispatched, ?_⟩
    rfl rfl
  · simp only
    omega
  · intro hshut
    obtain ⟨hs, hrun, -, hno⟩ := h.shut hshut
    exact ⟨hs, hrun, rfl, hno⟩

theorem Ok.addWorker (hr : p.remaining ≠ 0) (wkr : Nat) (started : Bool) :
    (p.addWorker wkr started).Ok := by
  have hrm := h.room
  have hcard := Finset.card_insert_le wkr p.available
  refine ⟨Finset.insert_subset_insert wkr h.available_listed, ?_, ?_, h.running_started,
    h.stop_dispatched, ?_⟩
  · simp only [Pool.addWorker]
    split
    · omega
    · omega
  · simp only [Pool.addWorker, h.live_eq]
    ext other
    cases started with
    | false => simp
    | true =>
      simp only [if_true, Finset.mem_insert, Finset.mem_union]
      tauto
  · intro hshut
    exact absurd (h.shut hshut).2.2.1 hr

end PoolSteps

end Pool

/-! ## The pools together -/

namespace Workers

/-- The invariant of all pools and both budgets. -/
structure Invariant (s : Workers) : Prop where
  ok : ∀ pool p, s.pools.lookup pool = some p → p.Ok
  idle : s.idle.Balanced s.idleTaken s.idleReleased Pool.available s.pools s.next
  connection :
    s.connection.Balanced s.connectionTaken s.connectionReleased Pool.live s.pools s.next

/-- The budgets are what the pools hold, within their limits. -/
structure Conserved (s : Workers) : Prop where
  idle_eq : s.idle.inUse = sumBy (·.available.card) s.pools
  connection_eq : s.connection.inUse = sumBy (·.live.card) s.pools
  idle_le : s.idle.inUse ≤ s.idle.maximum
  connection_le : s.connection.inUse ≤ s.connection.maximum
  available_listed : ∀ pool p, s.pools.lookup pool = some p → p.running = true →
    p.available ⊆ p.sessions
  available_le : ∀ pool p, s.pools.lookup pool = some p → p.available.card ≤ p.maxIdleWorkers
  /-- No slot is given back twice, and every release has taken one off the counter. -/
  idle_once : s.idleReleased.Nodup ∧ s.idleTaken = s.idle.inUse + s.idleReleased.card
  connection_once : s.connectionReleased.Nodup ∧
    s.connectionTaken = s.connection.inUse + s.connectionReleased.card

variable {s : Workers}

theorem invariant_initial (maxIdle maxConnections : Nat) :
    (initial maxIdle maxConnections).Invariant where
  ok := by
    intro pool p h
    cases h
  idle := WorkerBudget.balanced_new maxIdle
  connection := WorkerBudget.balanced_new maxConnections

variable {p : Pool} {pool : Nat}

theorem ok_insert {pools : Map Nat Pool} (h : ∀ pool p, pools.lookup pool = some p → p.Ok)
    (pool : Nat) (hp : p.Ok) : ∀ other q, (pools.insert pool p).lookup other = some q → q.Ok := by
  exact forall_lookup_insert hp h

theorem Invariant.put (h : s.Invariant) {p' : Pool} {freed : Freed}
    (hp : s.pools.lookup pool = some p) (hs : p.Steps p' freed) :
    (s.put pool (p', freed)).Invariant where
  ok := ok_insert h.ok pool hs.ok
  idle := by
    apply h.idle.release
    rw [hp]
    exact hs.idle
  connection := by
    apply h.connection.release
    rw [hp]
    exact hs.connection

theorem Invariant.create (h : s.Invariant) (hno : s.pools.lookup pool = none)
    (minIdleWorkers maxIdleWorkers : Nat) :
    (s.put pool (.new minIdleWorkers maxIdleWorkers, .nothing)).Invariant where
  ok := ok_insert h.ok pool (Pool.ok_new _ _)
  idle := by
    apply h.idle.release
    rw [hno]
    rfl
  connection := by
    apply h.connection.release
    rw [hno]
    rfl

theorem Invariant.spawn (h : s.Invariant) (hp : s.pools.lookup pool = some p)
    (hr : p.remaining ≠ 0) (out : SpawnOutcome) :
    (s.spawn pool p out).Invariant := by
  have hok := h.ok pool p hp
  unfold Workers.spawn takeConnection
  cases hcon : s.connection.tryAcquire with
  | none => exact h.put hp hok.broken
  | some conn =>
    simp only [Option.map_some, takeIdle]
    cases hi : s.idle.tryAcquire with
    | none =>
      have hback : ({ s with
          connection := conn
          connectionTaken := s.connectionTaken + 1
          next := s.next + 1 }.releaseConnection {s.next}).Invariant :=
        ⟨h.ok, h.idle.mono, h.connection.takeBack hcon⟩
      exact hback.put hp hok.broken
    | some idle =>
      have hback : (({ s with
          idle := idle
          connection := conn
          idleTaken := s.idleTaken + 1
          connectionTaken := s.connectionTaken + 1
          next := s.next + 1 }.releaseIdle {s.next}).releaseConnection {s.next}).Invariant :=
        ⟨h.ok, h.idle.takeBack hi, h.connection.takeBack hcon⟩
      cases out with
      | generateFailed => exact hback.put hp hok.broken
      | constructFailed => exact hback.put hp hok.broken
      | made started =>
        have ha : (p.addWorker s.next started).available = insert s.next p.available := rfl
        have hl : (p.addWorker s.next started).live = insert s.next p.live := rfl
        have hi' := h.idle.take hi hp ha
        have hcon' := h.connection.take hcon hp hl
        refine ⟨ok_insert h.ok pool (hok.addWorker hr s.next started), ?_, ?_⟩
        · simpa [Workers.put, releaseIdle, releaseConnection, Freed.nothing] using hi'
        · simpa [Workers.put, releaseIdle, releaseConnection, Freed.nothing] using hcon'

theorem Invariant.poolStep (h : s.Invariant) (hp : s.pools.lookup pool = some p)
    (event : WorkersEvent) : (s.poolStep pool p event).Invariant := by
  have hok := h.ok pool p hp
  cases event with
  | create _ _ _ => exact h
  | start _ => exact h.put hp hok.start
  | requestWorkers _ count => exact h.put hp (hok.requestWorkers count)
  | stop _ => exact h.put hp hok.stop
  | run _ task =>
    simp only [Workers.poolStep]
    split
    · next hruns => exact h.put hp (hok.run hruns.1 hruns.2)
    · exact h
  | spawn _ out =>
    simp only [Workers.poolStep]
    split
    · exact h
    · next hr => exact h.spawn hp hr out
  | consumed _ wkr =>
    simp only [Workers.poolStep]
    split
    · exact h.put hp (hok.workerConsumed wkr)
    · exact h
  | completed _ wkr =>
    simp only [Workers.poolStep]
    split
    · next hmem => exact h.put hp (hok.complete hmem)
    · exact h
  | replenish _ =>
    simp only [Workers.poolStep]
    split
    · exact h.put hp hok.ensureMinimum
    · exact h
  | forceStop _ =>
    simp only [Workers.poolStep]
    split
    · next hshut => exact h.put hp (hok.forceStop hshut.1)
    · exact h

theorem Invariant.step (h : s.Invariant) (event : WorkersEvent) : (s.step event).Invariant := by
  unfold Workers.step
  split
  · next hno =>
    split
    · exact h.create hno _ _
    · exact h
  · exact h
  · next hp => exact h.poolStep hp _

theorem nodup_of_once {b : WorkerBudget} {taken next : Nat} {released : Multiset Nat}
    {held : Pool → Finset Nat} {pools : Map Nat Pool}
    (h : b.Balanced taken released held pools next) : released.Nodup := by
  rw [Multiset.nodup_iff_count_le_one]
  intro slot
  have honce := h.once slot
  split at honce
  · omega
  · omega

theorem Invariant.conserved (h : s.Invariant) : s.Conserved where
  idle_eq := h.idle.inUse_eq
  connection_eq := h.connection.inUse_eq
  idle_le := h.idle.inUse_le
  connection_le := h.connection.inUse_le
  available_listed := by
    intro pool p hp _
    exact (h.ok pool p hp).available_listed
  available_le := by
    intro pool p hp
    have hr := (h.ok pool p hp).room
    omega
  idle_once := ⟨nodup_of_once h.idle, h.idle.taken_eq⟩
  connection_once := ⟨nodup_of_once h.connection, h.connection.taken_eq⟩

/-- **Worker budgets are conserved**, however the steps of the pools interleave. -/
theorem budgets_conserved (maxIdle maxConnections : Nat) (events : List WorkersEvent) :
    (exec Workers.step (initial maxIdle maxConnections) events).Conserved := by
  have hstep : ∀ (s : Workers) (event : WorkersEvent), s.Invariant → (s.step event).Invariant := by
    intro s event h
    exact h.step event
  have hrun := exec_invariant hstep (invariant_initial maxIdle maxConnections) events
  exact hrun.conserved

end Workers

end MiniTun.Daemon
