import MiniTun.Lib.TransitionSystem
import MiniTun.Server.WorkerPool

/-!
# Idle workers

A worker's session registers with the pool and waits; the pool lives on the control
strand, the wait on the session's own.  `WorkerPool::assign` takes an entry out of the pool and
posts the connection to the session, and the session that was idle too long posts a
request to be removed.  Each strand runs its tasks in the order they were posted.

A connection that was posted while the expiry of the wait was already queued comes too
late: the session asks to be removed, does not look at what has arrived meanwhile, and
ends.
-/

namespace MiniTun.Server

open KeyedMap

/-- Where `run_worker` is suspended, from its registration on. -/
inductive IdlePhase where
  /-- In `register_worker`, which the control strand has not run yet. -/
  | requested
  /-- In `register_worker`, with the answer posted. -/
  | answered
  /-- In the idle wait. -/
  | idle
  /-- In `remove_worker`, which the control strand has not run yet. -/
  | removing
  /-- In `remove_worker`, with the answer posted. -/
  | removed
  /-- In `handle_worker_assignment`. -/
  | handling
  | finished
deriving DecidableEq

/-- A task posted to the strand of a session. -/
inductive IdleTask where
  | registered (ok : Bool)
  /-- The assignment handler, with the public connection. -/
  | assignment (connection : Nat)
  /-- The wait is over, because its time is up or because it was cancelled. -/
  | waitDone
  | removed
  /-- The removal handler. -/
  | forceStop
deriving DecidableEq

/-- The part of a worker's session that the idle wait works on. -/
structure IdleSession where
  registration : WorkerRegistration
  phase : IdlePhase
  /-- The wait is pending: it has neither expired nor been cancelled. -/
  armed : Bool
  /-- `worker_assignment_`. -/
  assignment : Option Nat
  stopRequested : Bool
  queue : List IdleTask
deriving DecidableEq

/-- A request a session posts to the control strand. -/
inductive IdleRequest where
  | register (session : Nat)
  | remove (session : Nat)
deriving DecidableEq

/-- `handlers` has the session an entry of the pool belongs to; `handled` is the history
of `handle_worker_assignment`. -/
structure IdleState where
  pool : WorkerPool
  handlers : Map Bytes Nat
  sessions : Map Nat IdleSession
  requests : List IdleRequest
  handled : List (Nat × Nat)

/-- What the strands and the clock do. -/
inductive IdleEvent where
  /-- A session reaches `register_worker`. -/
  | connect (session : Nat) (registration : WorkerRegistration)
  /-- The control strand runs the oldest request. -/
  | control
  /-- The control strand hands a public connection to the pool. -/
  | assign (connection : Nat) (binding : TunnelBinding) (order : List Bytes)
  /-- The time of a pending wait is up. -/
  | expire (session : Nat)
  /-- The strand of a session runs its oldest task. -/
  | run (session : Nat)
deriving DecidableEq

namespace IdleSession

variable (session : IdleSession)

def post (task : IdleTask) : IdleSession :=
  { session with queue := session.queue ++ [task] }

/-- `heartbeat_timer_.cancel()`: a wait whose expiry is queued is not affected. -/
def cancelWait : IdleSession :=
  if session.armed then { session with armed := false }.post .waitDone else session

/-- What running a task leads to outside the session. -/
inductive Outcome where
  | quiet
  | removeRequested
  | handled (connection : Nat)

def runTask : IdleTask → IdleSession × Outcome
  | .registered ok =>
    if session.phase = .answered then
      if ok then ({ session with phase := .idle, armed := true }, .quiet)
      else ({ session with phase := .finished }, .quiet)
    else (session, .quiet)
  | .assignment connection =>
    -- a session that has ended closes the public socket
    if session.phase = .finished ∨ session.stopRequested then (session, .quiet)
    else ({ session with assignment := some connection }.cancelWait, .quiet)
  | .waitDone =>
    if session.phase = .idle then
      match session.assignment with
      | none => ({ session with phase := .removing }, .removeRequested)
      | some connection => ({ session with phase := .handling }, .handled connection)
    else (session, .quiet)
  | .removed =>
    -- whatever `worker_assignment_` holds by now is closed with the session
    if session.phase = .removed then ({ session with phase := .finished }, .quiet)
    else (session, .quiet)
  | .forceStop => ({ session with stopRequested := true }.cancelWait, .quiet)

end IdleSession

namespace IdleState

section Strand

variable (s : IdleState)

variable (key : Nat) (session : IdleSession)

def setSession : IdleState :=
  { s with sessions := s.sessions.insert key session }

def post (task : IdleTask) : IdleState :=
  match s.sessions.lookup key with
  | none => s
  | some session => s.setSession key (session.post task)

/-- `WorkerPool::add` and the answer to the session. -/
def register : IdleState :=
  match s.pool.add session.registration with
  | (.ok (), pool) =>
    { s with
      pool := pool
      handlers := s.handlers.insert session.registration.workerId key }.setSession key
      ({ session with phase := .answered }.post (.registered true))
  | (.error _, _) =>
    s.setSession key ({ session with phase := .answered }.post (.registered false))

/-- `WorkerPool::remove`, which runs the removal handler of the entry it finds. -/
def removeEntry (workerId : Bytes) : IdleState :=
  match s.handlers.lookup workerId with
  | none => s
  | some owner =>
    { s with
      pool := s.pool.remove workerId
      handlers := s.handlers.erase workerId }.post owner .forceStop

/-- `remove_worker` and its answer. -/
def remove : IdleState :=
  let s := (s.setSession key { session with phase := .removed }).removeEntry
    session.registration.workerId
  s.post key .removed

/-- `WorkerPool::assign`, which takes the entry out and runs its assignment handler. -/
def assign (connection : Nat) (b : TunnelBinding) (order : List Bytes) : IdleState :=
  match s.pool.assign b order with
  | none => s
  | some workerId =>
    match s.handlers.lookup workerId with
    | none => s
    | some key =>
      { s with
        pool := s.pool.remove workerId
        handlers := s.handlers.erase workerId }.post key (.assignment connection)

/-- The session `WorkerPool::assign` gives a connection to. -/
def assignee (b : TunnelBinding) (order : List Bytes) : Option Nat :=
  (s.pool.assign b order).bind s.handlers.lookup

def run : IdleState :=
  match s.sessions.lookup key with
  | none => s
  | some session =>
    match session.queue with
    | [] => s
    | task :: rest =>
      let (session', outcome) := { session with queue := rest }.runTask task
      let s := s.setSession key session'
      match outcome with
      | .quiet => s
      | .removeRequested => { s with requests := s.requests ++ [.remove key] }
      | .handled connection => { s with handled := (connection, key) :: s.handled }

def step : IdleEvent → IdleState
  | .connect key registration =>
    if s.sessions.lookup key = none then
      { s.setSession key ⟨registration, .requested, false, none, false, []⟩ with
        requests := s.requests ++ [.register key] }
    else s
  | .control =>
    match s.requests with
    | [] => s
    | .register key :: rest =>
      let s := { s with requests := rest }
      match s.sessions.lookup key with
      | none => s
      | some session => if session.phase = .requested then s.register key session else s
    | .remove key :: rest =>
      let s := { s with requests := rest }
      match s.sessions.lookup key with
      | none => s
      | some session => if session.phase = .removing then s.remove key session else s
  | .assign connection b order => s.assign connection b order
  | .expire key =>
    match s.sessions.lookup key with
    | none => s
    | some session => if session.armed then s.setSession key session.cancelWait else s
  | .run key => s.run key

/-- Nobody has registered. -/
def initial (maxIdleWorkersPerSession maxTotalIdleWorkers : Nat) : IdleState :=
  ⟨.empty maxIdleWorkersPerSession maxTotalIdleWorkers, ∅, ∅, [], []⟩

/-! ## What a step does to one session -/

/-- The pool has an entry of the session. -/
def pooled : Bool :=
  s.handlers.lookup session.registration.workerId = some key

end Strand

/-- What an event makes of a session, and whether the session is in the pool before and
after. -/
inductive Effect (e : IdleEvent) (key : Nat) (session : IdleSession) :
    Bool → IdleSession → Bool → Prop where
  | same (before : Bool) : Effect e key session before session before
  | answered (ok : Bool) (h : session.phase = .requested) :
    Effect e key session false ({ session with phase := .answered }.post (.registered ok)) ok
  /-- Another session of the same worker identifier asked to be removed. -/
  | stopped : Effect e key session true (session.post .forceStop) false
  | removed (h : session.phase = .removing) :
    Effect e key session false ({ session with phase := .removed }.post .removed) false
  | left (h : session.phase = .removing) :
    Effect e key session true
      (({ session with phase := .removed }.post .forceStop).post .removed) false
  | assigned (connection : Nat) (b : TunnelBinding) (order : List Bytes)
      (h : e = .assign connection b order) :
    Effect e key session true (session.post (.assignment connection)) false
  | expired (before : Bool) (h : e = .expire key) (harmed : session.armed = true) :
    Effect e key session before session.cancelWait before
  | ran (before : Bool) (task : IdleTask) (rest : List IdleTask) (h : e = .run key)
      (hqueue : session.queue = task :: rest) :
    Effect e key session before ({ session with queue := rest }.runTask task).1 before

/-- The registrations of the pool and their sessions. -/
structure Owned (s : IdleState) : Prop where
  session : ∀ workerId key, s.handlers.lookup workerId = some key →
    ∃ session, s.sessions.lookup key = some session ∧ session.registration.workerId = workerId
  known : ∀ workerId, s.handlers.lookup workerId = none ↔ s.pool.entries.lookup workerId = none

/-- A session, and whether the pool has an entry of it. -/
def view (s : IdleState) (key : Nat) : Option (IdleSession × Bool) :=
  (s.sessions.lookup key).map fun session => (session, s.pooled key session)

/-- A session in two consecutive states; one that was not there has just connected. -/
inductive Turn (e : IdleEvent) (key : Nat) :
    Option (IdleSession × Bool) → Option (IdleSession × Bool) → Prop where
  | absent : Turn e key none none
  | fresh (r : WorkerRegistration) :
    Turn e key none (some (⟨r, .requested, false, none, false, []⟩, false))
  | effect {session session' : IdleSession} {before after : Bool}
      (h : Effect e key session before session' after)
      (hregistration : session'.registration = session.registration) :
    Turn e key (some (session, before)) (some (session', after))

/-- Every session is accounted for in the next state. -/
def Affects (e : IdleEvent) (s s' : IdleState) : Prop :=
  ∀ key, Turn e key (s.view key) (s'.view key)

section Steps

variable {s s' : IdleState} {e : IdleEvent} {key other : Nat} {ses ses' : IdleSession}

@[simp] theorem lookup_setSession (s : IdleState) (key other : Nat) (ses : IdleSession) :
    (s.setSession key ses).sessions.lookup other =
      if other = key then some ses else s.sessions.lookup other :=
  lookup_insert_eq_ite ..

theorem view_of_lookup (h : s.sessions.lookup key = some ses) :
    s.view key = some (ses, s.pooled key ses) := by
  rw [view, h]
  rfl

theorem lookup_of_view {pooled : Bool} (h : s.view key = some (ses, pooled)) :
    s.sessions.lookup key = some ses ∧ s.pooled key ses = pooled := by
  obtain ⟨found, hf, heq⟩ := Option.map_eq_some_iff.1 h
  cases heq
  exact ⟨hf, rfl⟩

theorem view_setSession :
    (s.setSession key ses).view other =
      if other = key then some (ses, s.pooled key ses) else s.view other := by
  unfold view
  rw [lookup_setSession]
  split
  · next h =>
    subst h
    rfl
  · rfl

theorem view_post (task : IdleTask) :
    (s.post key task).view other =
      if other = key then (s.view key).map fun v => (v.1.post task, v.2) else s.view other := by
  unfold post
  split
  · next h =>
    split
    · next heq => rw [heq, view, h]; rfl
    · rfl
  · next ses h =>
    rw [view_setSession, view_of_lookup h]
    rfl

@[simp] theorem registration_cancelWait (ses : IdleSession) :
    ses.cancelWait.registration = ses.registration := by
  unfold IdleSession.cancelWait
  split <;> rfl

@[simp] theorem registration_runTask (ses : IdleSession) (task : IdleTask) :
    (ses.runTask task).1.registration = ses.registration := by
  cases task with
  | registered ok =>
    simp only [IdleSession.runTask]
    repeat' split
    all_goals rfl
  | assignment conn =>
    simp only [IdleSession.runTask]
    split
    · rfl
    · exact registration_cancelWait _
  | waitDone =>
    simp only [IdleSession.runTask]
    repeat' split
    all_goals rfl
  | removed =>
    simp only [IdleSession.runTask]
    split <;> rfl
  | forceStop => exact registration_cancelWait _

theorem turn_same (e : IdleEvent) (key : Nat) (v : Option (IdleSession × Bool)) :
    Turn e key v v := by
  cases v with
  | none => exact .absent
  | some v => exact .effect (.same _) rfl

theorem affects_refl : Affects e s s := fun key => turn_same e key _

theorem affects_set (h : s.sessions.lookup key = some ses)
    (hr : ses'.registration = ses.registration)
    (he : ∀ before, s.pooled key ses = before → Effect e key ses before ses' before) :
    Affects e s (s.setSession key ses') := by
  intro other
  rw [view_setSession]
  split
  · next heq =>
    have hp : s.pooled key ses' = s.pooled key ses := by
      unfold pooled
      rw [hr]
    rw [heq, view_of_lookup h, hp]
    exact .effect (he _ rfl) hr
  · exact turn_same e other _

theorem Affects.kept (h : Affects e s s') (hs : s.sessions.lookup key = some ses) :
    ∃ ses', s'.sessions.lookup key = some ses' ∧
      ses'.registration = ses.registration ∧
      Effect e key ses (s.pooled key ses) ses' (s'.pooled key ses') := by
  have ht := h key
  rw [view_of_lookup hs] at ht
  generalize hv : s'.view key = after at ht
  cases ht with
  | effect he hr =>
    obtain ⟨hs', rfl⟩ := lookup_of_view hv
    exact ⟨_, hs', hr, he⟩

theorem Affects.fresh (h : Affects e s s') (hnew : s.sessions.lookup key = none)
    (hs' : s'.sessions.lookup key = some ses') :
    s'.pooled key ses' = false ∧ ∃ r, ses' = ⟨r, .requested, false, none, false, []⟩ := by
  have ht := h key
  rw [view_of_lookup hs', view, hnew] at ht
  generalize ha : s'.pooled key ses' = after at ht
  cases ht with
  | fresh r => exact ⟨rfl, r, rfl⟩

/-! ## The pool and its sessions -/

section Steps

variable (h : Owned s)
include h

theorem Owned.setSession (hs : s.sessions.lookup key = some ses)
    (hr : ses'.registration = ses.registration) :
    Owned (s.setSession key ses') := by
  refine ⟨fun wid owner how => ?_, h.known⟩
  obtain ⟨found, hf, hid⟩ := h.session wid owner how
  rw [lookup_setSession]
  split
  · next heq =>
    rw [heq, hs] at hf
    cases hf
    exact ⟨ses', rfl, by rw [hr, hid]⟩
  · exact ⟨found, hf, hid⟩

theorem Owned.post (key : Nat) (task : IdleTask) : Owned (s.post key task) := by
  unfold IdleState.post
  split
  · exact h
  · next hs => exact h.setSession hs rfl

theorem Owned.enter (hs : s.sessions.lookup key = some ses) :
    Owned { s with
      pool := s.pool.insertWorker ses.registration
      handlers := s.handlers.insert ses.registration.workerId key } := by
  refine ⟨fun wid owner how => ?_, fun wid => ?_⟩
  · simp only [lookup_insert_eq_ite] at how
    split at how
    · next hid =>
      cases how
      exact ⟨ses, hs, hid.symm⟩
    · exact h.session wid owner how
  · rw [WorkerPool.insertWorker, lookup_insert_eq_ite, lookup_insert_eq_ite]
    split
    · simp
    · exact h.known wid

theorem Owned.take (wid : Bytes) :
    Owned { s with
      pool := s.pool.remove wid
      handlers := s.handlers.erase wid } := by
  refine ⟨fun other owner how => h.session other owner (lookup_of_erase how), fun other => ?_⟩
  rw [WorkerPool.lookup_remove, lookup_erase_eq_ite]
  split
  · simp
  · exact h.known other

theorem view_enter (hs : s.sessions.lookup key = some ses)
    (hfree : s.pool.entries.lookup ses.registration.workerId = none) (other : Nat) :
    IdleState.view { s with
      pool := s.pool.insertWorker ses.registration
      handlers := s.handlers.insert ses.registration.workerId key } other =
      if other = key then some (ses, true) else s.view other := by
  unfold view pooled
  split
  · next heq =>
    rw [heq, hs]
    simp
  · next hne =>
    refine congrArg (Option.map · _) (funext fun found => ?_)
    simp only [lookup_insert_eq_ite]
    split
    · next hid =>
      rw [hid, (h.known _).2 hfree]
      simp [Ne.symm hne]
    · rfl

/-- The session whose entry is taken out of the pool is told so. -/
theorem view_take {wid : Bytes} {owner : Nat}
    (how : s.handlers.lookup wid = some owner) (task : IdleTask) :
    ({ s with
      pool := s.pool.remove wid
      handlers := s.handlers.erase wid }.post owner task).view other =
      if other = owner then (s.view owner).map fun v => (v.1.post task, false)
      else s.view other := by
  obtain ⟨taken, ht, hid⟩ := h.session wid owner how
  have he : (s.handlers.erase wid).lookup taken.registration.workerId = none := by
    rw [hid, AList.lookup_erase]
  rw [view_post]
  unfold view pooled
  split
  · simp [ht, he]
  · next hne =>
    refine congrArg (Option.map · _) (funext fun found => ?_)
    simp only [lookup_erase_eq_ite]
    split
    · next hs =>
      rw [hs, how]
      simp [Ne.symm hne]
    · rfl

theorem affects_take {wid : Bytes} {owner : Nat} {task : IdleTask}
    (how : s.handlers.lookup wid = some owner)
    (he : ∀ ses, Effect e owner ses true (ses.post task) false) :
    Affects e s ({ s with
      pool := s.pool.remove wid
      handlers := s.handlers.erase wid }.post owner task) := by
  obtain ⟨taken, ht, hid⟩ := h.session wid owner how
  intro other
  rw [view_take h how]
  split
  · next heq =>
    have hp : s.pooled owner taken = true := decide_eq_true (hid ▸ how)
    rw [heq, view_of_lookup ht, hp]
    exact .effect (he taken) rfl
  · exact turn_same e other _

theorem spec_register (hs : s.sessions.lookup key = some ses)
    (hp : ses.phase = .requested) (hpo : s.pooled key ses = false) :
    Affects e s (s.register key ses) ∧ Owned (s.register key ses) := by
  obtain ⟨err, hadd⟩ | ⟨-, -, hfree, hadd⟩ := s.pool.add_cases ses.registration
  · simp only [register, hadd]
    refine ⟨affects_set hs rfl fun before hb => ?_, h.setSession hs rfl⟩
    rw [← hb, hpo]
    exact .answered false hp
  · simp only [register, hadd]
    refine ⟨fun other => ?_, (h.enter hs).setSession hs rfl⟩
    have hset : Owned (s.setSession key ({ ses with phase := .answered }.post
        (.registered true))) := h.setSession hs rfl
    have hv := view_enter hset ((lookup_setSession ..).trans (if_pos rfl)) hfree other
    refine (congrArg (Turn e other (s.view other)) hv).mpr ?_
    split
    · next heq =>
      rw [heq, view_of_lookup hs, hpo]
      exact .effect (.answered true hp) rfl
    · next hne =>
      rw [view_setSession, if_neg hne]
      exact turn_same e other _

/-- The session that asked for its removal; the entry of its worker identifier may be its
own, another session's, or gone. -/
theorem spec_remove (hse : s.sessions.lookup key = some ses) (hph : ses.phase = .removing) :
    Affects e s (s.remove key ses) ∧ Owned (s.remove key ses) := by
  have hm : Owned (s.setSession key { ses with phase := .removed }) :=
    h.setSession hse rfl
  have hv := view_of_lookup hse
  have hs : s.pooled key { ses with phase := .removed } = s.pooled key ses := rfl
  unfold remove removeEntry
  split
  · next hno =>
    refine ⟨fun other => ?_, hm.post key .removed⟩
    have hno' : s.handlers.lookup ses.registration.workerId = none := hno
    have hp : s.pooled key ses = false := by simp [pooled, hno']
    rw [view_post, view_setSession, view_setSession, if_pos rfl, hs, hp]
    split
    · next heq =>
      rw [heq, hv, hp]
      exact .effect (.removed hph) rfl
    · exact turn_same e other _
  · next owner how =>
    refine ⟨fun other => ?_, ((hm.take _).post owner .forceStop).post key .removed⟩
    have how' : s.handlers.lookup ses.registration.workerId = some owner := how
    have hp : s.pooled key ses = decide (owner = key) := by
      simp [pooled, how']
    obtain ⟨taken, ht, hid⟩ := h.session _ _ how'
    rw [view_post, view_take hm how, view_take hm how]
    simp only [view_setSession, hs, hp]
    by_cases hkey : other = key
    · subst hkey
      rw [hv, hp]
      by_cases hself : other = owner
      · subst hself
        simp only [if_true, decide_true]
        exact .effect (.left hph) rfl
      · simp only [if_true, if_neg hself, decide_eq_false (Ne.symm hself)]
        exact .effect (.removed hph) rfl
    · simp only [if_neg hkey]
      split
      · next heq =>
        have htake : s.pooled owner taken = true := decide_eq_true (hid ▸ how')
        subst heq
        rw [if_neg hkey, view_of_lookup ht, htake]
        exact .effect .stopped rfl
      · exact turn_same e other _

theorem spec_assign (conn : Nat) (b : TunnelBinding) (ord : List Bytes) :
    Affects (.assign conn b ord) s (s.assign conn b ord) ∧
      Owned (s.assign conn b ord) := by
  unfold assign
  split
  · exact ⟨affects_refl, h⟩
  · split
    · exact ⟨affects_refl, h⟩
    · next hkey =>
      exact ⟨affects_take h hkey fun _ => .assigned conn b ord rfl, (h.take _).post _ _⟩

theorem spec_run (key : Nat) : Affects (.run key) s (s.run key) ∧ Owned (s.run key) := by
  unfold run
  split
  · exact ⟨affects_refl, h⟩
  · next ses hs =>
    split
    · exact ⟨affects_refl, h⟩
    · next task rest hq =>
      have hr := registration_runTask { ses with queue := rest } task
      have ha : Affects (.run key) s
          (s.setSession key ({ ses with queue := rest }.runTask task).1) :=
        affects_set hs hr fun before _ => .ran before task rest rfl hq
      have hown := h.setSession hs hr
      simp only
      split
      all_goals exact ⟨ha, hown.session, hown.known⟩

end Steps

/-- Every event accounts for every session, and keeps the pool in order. -/
theorem step_spec (hown : Owned s) (hreq : ∀ key ses, s.sessions.lookup key = some ses →
      ses.phase = .requested → s.pooled key ses = false) (e : IdleEvent) :
    Affects e s (s.step e) ∧ Owned (s.step e) := by
  cases e with
  | connect key registration =>
    simp only [step]
    split
    · next hnew =>
      have hfree : ∀ wid owner, s.handlers.lookup wid = some owner → owner ≠ key := by
        rintro wid owner how rfl
        obtain ⟨ses, hs, -⟩ := hown.session wid owner how
        rw [hnew] at hs
        cases hs
      refine ⟨fun other => ?_, fun wid owner how => ?_, hown.known⟩
      · change Turn _ other (s.view other) ((s.setSession key _).view other)
        rw [view_setSession]
        split
        · next heq =>
          have hpo : s.pooled key ⟨registration, .requested, false, none, false, []⟩ = false :=
            decide_eq_false fun how => hfree _ key how rfl
          rw [heq, hpo, view, hnew]
          exact .fresh registration
        · exact turn_same _ other _
      · obtain ⟨ses, hs, hid⟩ := hown.session wid owner how
        refine ⟨ses, ?_, hid⟩
        simp only [lookup_setSession, if_neg (hfree wid owner how)]
        exact hs
    · exact ⟨affects_refl, hown⟩
  | control =>
    simp only [step]
    split
    · exact ⟨affects_refl, hown⟩
    · next key rest _ =>
      have hown' : Owned { s with requests := rest } := ⟨hown.session, hown.known⟩
      split
      · exact ⟨affects_refl, hown'⟩
      · next ses hs =>
        split
        · next hp =>
          exact spec_register hown' hs hp (hreq key ses hs hp)
        · exact ⟨affects_refl, hown'⟩
    · next key rest _ =>
      have hown' : Owned { s with requests := rest } := ⟨hown.session, hown.known⟩
      split
      · exact ⟨affects_refl, hown'⟩
      · next ses hs =>
        split
        · next hp => exact spec_remove hown' hs hp
        · exact ⟨affects_refl, hown'⟩
  | assign conn b ord => exact spec_assign hown conn b ord
  | expire key =>
    simp only [step]
    split
    · exact ⟨affects_refl, hown⟩
    · next ses hs =>
      have hr := registration_cancelWait ses
      split
      · next harm =>
        exact ⟨affects_set hs hr fun before _ => .expired before rfl harm,
          hown.setSession hs hr⟩
      · exact ⟨affects_refl, hown⟩
  | run key => exact spec_run hown key

end Steps

end IdleState

end MiniTun.Server
