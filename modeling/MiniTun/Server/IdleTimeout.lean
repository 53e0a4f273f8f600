import MiniTun.Server.WorkerIdle

/-!
# The idle timeout and the assigned connection

An entry of the pool belongs to a session that has registered and has not been told
anything since (`Shape`).  If its wait has not expired when the pool gives it a
connection, the connection is ahead of whatever ends the wait, and three tasks later it
is being handled (`InTime`).  If the expiry is queued or has run, it is ahead of the
connection and the connection is lost (`TooLate`).
-/

namespace MiniTun.Server.IdleState

open KeyedMap TransitionSystem

/-! ## What a session in the pool looks like -/

/-- The states of a session, with whether the pool has an entry of it. -/
inductive Shape : Bool → IdleSession → Prop where
  | requested (r : WorkerRegistration) : Shape false ⟨r, .requested, false, none, false, []⟩
  | answered (r : WorkerRegistration) :
    Shape true ⟨r, .answered, false, none, false, [.registered true]⟩
  | waiting (r : WorkerRegistration) : Shape true ⟨r, .idle, true, none, false, []⟩
  | expired (r : WorkerRegistration) : Shape true ⟨r, .idle, false, none, false, [.waitDone]⟩
  | leaving (r : WorkerRegistration) : Shape true ⟨r, .removing, false, none, false, []⟩
  /-- Its entry is gone for good. -/
  | out (session : IdleSession) (h : session.phase ≠ .requested) : Shape false session

section Shapes

variable {e : IdleEvent} {key : Nat} {ses ses' : IdleSession} {before after : Bool}

@[simp] theorem phase_cancelWait (ses : IdleSession) :
    ses.cancelWait.phase = ses.phase := by
  unfold IdleSession.cancelWait
  split <;> rfl

theorem phase_runTask (ses : IdleSession) (task : IdleTask) :
    (ses.runTask task).1.phase = ses.phase ∨
      (ses.phase = .answered ∧ ((ses.runTask task).1.phase = .idle ∨
        (ses.runTask task).1.phase = .finished)) ∨
      (ses.phase = .idle ∧ task = .waitDone ∧
        (ses.runTask task).1.phase =
          if ses.assignment = none then .removing else .handling) ∨
      (ses.phase = .removed ∧ (ses.runTask task).1.phase = .finished) := by
  cases task with
  | registered ok =>
    simp only [IdleSession.runTask]
    split
    · next h =>
      cases ok with
      | true => exact .inr (.inl ⟨h, .inl rfl⟩)
      | false => exact .inr (.inl ⟨h, .inr rfl⟩)
    · exact .inl rfl
  | assignment conn =>
    simp only [IdleSession.runTask]
    split
    · exact .inl rfl
    · exact .inl (phase_cancelWait _)
  | waitDone =>
    simp only [IdleSession.runTask]
    split
    · next h =>
      refine .inr (.inr (.inl ⟨h, trivial, ?_⟩))
      cases ses.assignment <;> rfl
    · exact .inl rfl
  | removed =>
    simp only [IdleSession.runTask]
    split
    · next h => exact .inr (.inr (.inr ⟨h, rfl⟩))
    · exact .inl rfl
  | forceStop => exact .inl (phase_cancelWait _)

theorem Shape.effect (h : Shape before ses)
    (hef : Effect e key ses before ses' after) : Shape after ses' := by
  cases hef with
  | same => exact h
  | answered ok hp =>
    cases h with
    | requested r =>
      cases after with
      | true => exact .answered r
      | false => exact .out _ nofun
    | out _ hout => exact absurd hp hout
  | stopped =>
    refine .out _ ?_
    cases h <;> exact nofun
  | removed hp => exact .out _ nofun
  | left hp => exact .out _ nofun
  | assigned conn b ord he =>
    refine .out _ ?_
    cases h <;> exact nofun
  | expired _ he harm =>
    cases h with
    | waiting r => exact .expired r
    | out _ hout => exact .out _ (by rwa [phase_cancelWait])
    | _ => cases harm
  | ran _ task rest he hq =>
    cases h with
    | answered r =>
      cases hq
      exact .waiting r
    | expired r =>
      cases hq
      exact .leaving r
    | out _ hout =>
      refine .out _ ?_
      have hp := phase_runTask { ses with queue := rest } task
      rcases hp with h | ⟨-, h | h⟩ | ⟨-, -, h⟩ | ⟨-, h⟩
      · rwa [h]
      · simp [h]
      · simp [h]
      · rw [h]
        split <;> exact nofun
      · simp [h]
    | _ => cases hq

end Shapes

/-! ## Runs -/

/-- The invariant of sessions and pool. -/
structure Consistent (s : IdleState) : Prop extends Owned s where
  shape : ∀ key session, s.sessions.lookup key = some session →
    Shape (s.pooled key session) session
  handled : ∀ connection key, (connection, key) ∈ s.handled →
    ∃ session, s.sessions.lookup key = some session ∧ session.phase = .handling

section Runs

variable {s : IdleState} {e : IdleEvent} {key : Nat} {session ses' : IdleSession}
  {before after : Bool}

theorem Shape.not_pooled (h : Shape before session) (hp : session.phase = .requested) :
    before = false := by
  cases h with
  | requested | out => rfl
  | _ => cases hp

theorem Consistent.spec (h : Consistent s) (e : IdleEvent) :
    Affects e s (s.step e) ∧ Owned (s.step e) :=
  step_spec h.toOwned (fun key session hs => (h.shape key session hs).not_pooled) e

theorem Effect.handling (h : Effect e key session before ses' after)
    (hp : session.phase = .handling) : ses'.phase = .handling := by
  cases h with
  | same => exact hp
  | answered ok h => rw [hp] at h; cases h
  | stopped => exact hp
  | removed h => rw [hp] at h; cases h
  | left h => rw [hp] at h; cases h
  | assigned => exact hp
  | expired => rwa [phase_cancelWait]
  | ran _ task rest he hq =>
    rcases phase_runTask { session with queue := rest } task with h | ⟨h, -⟩ | ⟨h, -⟩ | ⟨h, -⟩
    · exact h.trans hp
    all_goals exact absurd (hp.symm.trans h) nofun

variable {task : IdleTask}

theorem lookup_run {rest : List IdleTask} (hs : s.sessions.lookup key = some session)
    (hq : session.queue = task :: rest) :
    (s.run key).sessions.lookup key = some ({ session with queue := rest }.runTask task).1 := by
  simp only [run, hs, hq]
  split
  all_goals exact (lookup_setSession ..).trans (if_pos rfl)

theorem handlers_run (s : IdleState) (key : Nat) : (s.run key).handlers = s.handlers := by
  simp only [run]
  repeat' split
  all_goals rfl

/-- A wait that ends with a connection is the only way to handle one. -/
theorem runTask_handled {conn : Nat} :
    (session.runTask task).2 = .handled conn ↔
      task = .waitDone ∧ session.phase = .idle ∧ session.assignment = some conn := by
  cases task with
  | waitDone =>
    simp only [IdleSession.runTask]
    split
    · next h => cases session.assignment <;> simp [h]
    · next h => simp [h]
  | _ =>
    simp only [IdleSession.runTask]
    repeat' split
    all_goals simp

theorem handled_run (hs : s.sessions.lookup key = some session) {rest : List IdleTask}
    (hq : session.queue = task :: rest) (p : Nat × Nat) :
    p ∈ (s.run key).handled ↔ p ∈ s.handled ∨
      (p.2 = key ∧ ({ session with queue := rest }.runTask task).2 = .handled p.1) := by
  obtain ⟨conn, other⟩ := p
  simp only [run, hs, hq]
  split
  · next h => simp [h, setSession]
  · next h => simp [h, setSession]
  · next handled h =>
    simp only [h, List.mem_cons, Prod.mk.injEq, IdleSession.Outcome.handled.injEq]
    constructor
    · rintro (⟨rfl, rfl⟩ | hmem)
      · exact .inr ⟨rfl, rfl⟩
      · exact .inl hmem
    · rintro (hmem | ⟨rfl, rfl⟩)
      · exact .inr hmem
      · exact .inl ⟨rfl, rfl⟩

@[simp] theorem handled_post (s : IdleState) (key : Nat) (task : IdleTask) :
    (s.post key task).handled = s.handled := by
  unfold post
  split <;> rfl

theorem handled_step (he : ∀ key, e ≠ .run key) : (s.step e).handled = s.handled := by
  cases e with
  | run key => exact absurd rfl (he key)
  | connect key r =>
    simp only [step]
    split <;> rfl
  | control =>
    simp only [step, register, remove, removeEntry]
    repeat' split
    all_goals simp [setSession]
  | assign conn b ord =>
    simp only [step, assign]
    repeat' split
    all_goals simp
  | expire key =>
    simp only [step]
    repeat' split
    all_goals rfl

theorem handled_mono {p : Nat × Nat} (h : p ∈ s.handled) (e : IdleEvent) :
    p ∈ (s.step e).handled := by
  by_cases he : ∀ key, e ≠ .run key
  · rwa [handled_step he]
  · obtain ⟨key, rfl⟩ : ∃ key, e = .run key := by simpa using he
    cases hs : s.sessions.lookup key with
    | none => simpa [step, run, hs] using h
    | some session =>
      cases hq : session.queue with
      | nil => simpa [step, run, hs, hq] using h
      | cons task rest => exact (handled_run hs hq p).2 (.inl h)

theorem Consistent.step (h : Consistent s) (e : IdleEvent) : Consistent (s.step e) := by
  obtain ⟨ha, hown⟩ := h.spec e
  refine ⟨hown, ?_, ?_⟩
  · intro key ses' hs'
    cases hs : s.sessions.lookup key with
    | none =>
      obtain ⟨hpo, r, rfl⟩ := ha.fresh hs hs'
      rw [hpo]
      exact .requested r
    | some session =>
      obtain ⟨session'', hs'', -, he⟩ := ha.kept hs
      rw [hs'] at hs''
      cases hs''
      exact (h.shape key session hs).effect he
  · intro conn key hmem
    by_cases hold : (conn, key) ∈ s.handled
    · obtain ⟨session, hs, hp⟩ := h.handled conn key hold
      obtain ⟨ses', hs', -, he⟩ := ha.kept hs
      exact ⟨ses', hs', he.handling hp⟩
    · obtain ⟨other, rfl⟩ : ∃ other, e = .run other := by
        by_contra hrun
        rw [handled_step (by simpa using hrun)] at hmem
        exact hold hmem
      cases hs : s.sessions.lookup other with
      | none => exact absurd (by simpa [IdleState.step, run, hs] using hmem) hold
      | some session =>
        cases hq : session.queue with
        | nil => exact absurd (by simpa [IdleState.step, run, hs, hq] using hmem) hold
        | cons task rest =>
          obtain hmem | ⟨rfl, hh⟩ := (handled_run hs hq _).1 hmem
          · exact absurd hmem hold
          · refine ⟨_, lookup_run hs hq, ?_⟩
            obtain ⟨rfl, hp, ha'⟩ := runTask_handled.1 hh
            simp only at hp ha'
            simp [IdleSession.runTask, hp, ha']

theorem consistent_initial (maxIdleWorkersPerSession maxTotalIdleWorkers : Nat) :
    Consistent (initial maxIdleWorkersPerSession maxTotalIdleWorkers) where
  session := by
    intro _ _ h
    cases h
  known := fun _ => ⟨fun _ => rfl, fun _ => rfl⟩
  shape := by
    intro _ _ h
    cases h
  handled := by
    intro _ _ h
    cases h

end Runs

/-! ## After the assignment -/

/-- A connection that is ahead of the end of the wait, with the number of tasks the
session's strand has to run until it is handled. -/
inductive InTime (connection : Nat) : Nat → IdleSession → Prop where
  | answered (r : WorkerRegistration) : InTime connection 3
      ⟨r, .answered, false, none, false, [.registered true, .assignment connection]⟩
  | waiting (r : WorkerRegistration) : InTime connection 2
      ⟨r, .idle, true, none, false, [.assignment connection]⟩
  | expired (r : WorkerRegistration) : InTime connection 2
      ⟨r, .idle, false, none, false, [.assignment connection, .waitDone]⟩
  | taken (r : WorkerRegistration) : InTime connection 1
      ⟨r, .idle, false, some connection, false, [.waitDone]⟩

/-- A session that will end without looking at what arrives. -/
inductive TooLate : IdleSession → Prop where
  | queued (session : IdleSession) (rest : List IdleTask) (hphase : session.phase = .idle)
      (hassignment : session.assignment = none) (hqueue : session.queue = .waitDone :: rest) :
    TooLate session
  | removing (session : IdleSession) (h : session.phase = .removing) : TooLate session
  | removed (session : IdleSession) (h : session.phase = .removed) : TooLate session
  | finished (session : IdleSession) (h : session.phase = .finished) : TooLate session

section Assigned

variable {s : IdleState} {e : IdleEvent} {key connection conn n : Nat}
  {session ses' : IdleSession} {after : Bool}

/-- The task the session's strand runs next brings the connection closer. -/
theorem InTime.ran (h : InTime conn n session) :
    ∃ task rest, session.queue = task :: rest ∧
      (InTime conn (n - 1) ({ session with queue := rest }.runTask task).1 ∨
        task = .waitDone ∧ session.phase = .idle ∧ session.assignment = some conn) := by
  cases h with
  | answered r => exact ⟨_, _, rfl, .inl (.waiting r)⟩
  | waiting r => exact ⟨_, _, rfl, .inl (.taken r)⟩
  | expired r => exact ⟨_, _, rfl, .inl (.taken r)⟩
  | taken r => exact ⟨_, _, rfl, .inr ⟨rfl, rfl, rfl⟩⟩

theorem InTime.effect (h : InTime conn n session) (he : e ≠ .run key)
    (hef : Effect e key session false ses' after) :
    after = false ∧ InTime conn n ses' := by
  cases hef with
  | same => exact ⟨rfl, h⟩
  | answered ok hp => cases h <;> cases hp
  | removed hp => cases h <;> cases hp
  | expired _ _ harm =>
    cases h with
    | waiting r => exact ⟨rfl, .expired r⟩
    | _ => cases harm
  | ran _ _ _ hrun => exact absurd hrun he

theorem TooLate.not_requested (h : TooLate session) : session.phase ≠ .requested := by
  cases h with
  | queued _ hp => simp [hp]
  | removing h => simp [h]
  | removed h => simp [h]
  | finished h => simp [h]

theorem TooLate.cancelWait (h : TooLate session) : TooLate session.cancelWait := by
  cases h with
  | queued rest hp ha hq =>
    unfold IdleSession.cancelWait
    split
    · exact .queued _ (rest ++ [.waitDone]) hp ha (by simp [IdleSession.post, hq])
    · exact .queued _ rest hp ha hq
  | removing h => exact .removing _ (by rwa [phase_cancelWait])
  | removed h => exact .removed _ (by rwa [phase_cancelWait])
  | finished h => exact .finished _ (by rwa [phase_cancelWait])

theorem TooLate.ran (h : TooLate session) {task : IdleTask} {rest : List IdleTask}
    (hq : session.queue = task :: rest) :
    TooLate ({ session with queue := rest }.runTask task).1 := by
  have hrun := phase_runTask { session with queue := rest } task
  cases h with
  | queued rest' hp ha hq' =>
    rw [hq] at hq'
    cases hq'
    exact .removing _ (by simp [IdleSession.runTask, hp, ha])
  | removing h =>
    rcases hrun with hs | ⟨hp, -⟩ | ⟨hp, -⟩ | ⟨hp, -⟩
    · exact .removing _ (hs.trans h)
    all_goals exact absurd (h.symm.trans hp) (by intro hne; cases hne)
  | removed h =>
    rcases hrun with hs | ⟨hp, -⟩ | ⟨hp, -⟩ | ⟨-, hend⟩
    · exact .removed _ (hs.trans h)
    · exact absurd (h.symm.trans hp) (by intro hne; cases hne)
    · exact absurd (h.symm.trans hp) (by intro hne; cases hne)
    · exact .finished _ hend
  | finished h =>
    rcases hrun with hs | ⟨hp, -⟩ | ⟨hp, -⟩ | ⟨hp, -⟩
    · exact .finished _ (hs.trans h)
    all_goals exact absurd (h.symm.trans hp) (by intro hne; cases hne)

theorem TooLate.effect (h : TooLate session) (hef : Effect e key session false ses' after) :
    after = false ∧ TooLate ses' := by
  cases hef with
  | same => exact ⟨rfl, h⟩
  | answered ok hp => exact absurd hp h.not_requested
  | removed hp => exact ⟨rfl, .removed _ rfl⟩
  | expired _ he harm => exact ⟨rfl, h.cancelWait⟩
  | ran _ task rest he hq => exact ⟨rfl, h.ran hq⟩

/-- The connection is handled, or will be after at most `n` tasks of the session. -/
def Arriving (s : IdleState) (connection key n : Nat) : Prop :=
  (connection, key) ∈ s.handled ∨
    ∃ session m, s.sessions.lookup key = some session ∧ s.pooled key session = false ∧ m ≤ n ∧
      InTime connection m session

/-- The session is out of the pool and will not handle anything. -/
def Missed (s : IdleState) (key : Nat) : Prop :=
  ∃ session, s.sessions.lookup key = some session ∧ s.pooled key session = false ∧
    TooLate session

theorem Arriving.step (h : Arriving s conn key n) (hs : Consistent s)
    (he : e ≠ .run key) : Arriving (s.step e) conn key n := by
  rcases h with hh | ⟨session, m, hse, hp, hle, hint⟩
  · exact .inl (handled_mono hh e)
  · obtain ⟨ses', hs', -, hef⟩ := (hs.spec e).1.kept hse
    rw [hp] at hef
    obtain ⟨ha, hint'⟩ := hint.effect he hef
    exact .inr ⟨ses', m, hs', ha, hle, hint'⟩

theorem Arriving.run (h : Arriving s conn key n) :
    Arriving (s.run key) conn key (n - 1) := by
  rcases h with hh | ⟨session, m, hs, hp, hle, hint⟩
  · exact .inl (handled_mono hh (.run key))
  · obtain ⟨task, rest, hq, hc | hd⟩ := hint.ran
    · have hp' : (s.run key).pooled key ({ session with queue := rest }.runTask task).1 =
          false := by
        unfold pooled
        rw [handlers_run, registration_runTask]
        exact hp
      exact .inr ⟨_, m - 1, lookup_run hs hq, hp', by omega, hc⟩
    · exact .inl ((handled_run hs hq _).2 (.inr ⟨rfl, runTask_handled.2 hd⟩))

/-- The session handles the connection as soon as its strand has run often enough. -/
theorem Arriving.handled (fs : List IdleEvent) (h : Arriving s conn key n)
    (hs : Consistent s) (hn : n ≤ fs.count (.run key)) :
    (conn, key) ∈ (exec IdleState.step s fs).handled := by
  induction fs generalizing s n with
  | nil =>
    rcases h with hh | ⟨session, m, -, -, hle, hint⟩
    · exact hh
    · -- a connection in time needs at least one more task
      rw [List.count_nil] at hn
      cases hint <;> omega
  | cons f fs ih =>
    by_cases hf : f = .run key
    · subst hf
      rw [List.count_cons_self] at hn
      exact ih h.run (hs.step _) (by omega)
    · rw [List.count_cons_of_ne hf] at hn
      exact ih (h.step hs hf) (hs.step _) hn

theorem Missed.step (h : Missed s key) (hs : Consistent s) (e : IdleEvent) :
    Missed (s.step e) key := by
  obtain ⟨session, hse, hp, hlate⟩ := h
  obtain ⟨ses', hs', -, he⟩ := (hs.spec e).1.kept hse
  rw [hp] at he
  obtain ⟨ha, hlate'⟩ := hlate.effect he
  exact ⟨ses', hs', ha, hlate'⟩

theorem Missed.not_handled (h : Missed s key) (hs : Consistent s) :
    (conn, key) ∉ s.handled := by
  intro hmem
  obtain ⟨session, hse, -, hlate⟩ := h
  obtain ⟨ses', hs', hp⟩ := hs.handled conn key hmem
  rw [hse] at hs'
  cases hs'
  cases hlate with
  | queued _ h => simp [hp] at h
  | removing h => simp [hp] at h
  | removed h => simp [hp] at h
  | finished h => simp [hp] at h

theorem Missed.never_handled (fs : List IdleEvent) (h : Missed s key) (hs : Consistent s) :
    (conn, key) ∉ (exec IdleState.step s fs).handled := by
  induction fs generalizing s with
  | nil => exact h.not_handled hs
  | cons f fs ih => exact ih (h.step hs f) (hs.step f)

/-! ## The assignment -/

/-- The session's wait has not begun, or is pending: its expiry is neither queued nor
run. -/
def WaitPending (s : IdleState) (key : Nat) : Prop :=
  ∃ session, s.sessions.lookup key = some session ∧
    (session.phase = .answered ∨ session.armed = true)

/-- The pool gives the connection to one of its sessions, which is then out of the pool
with the connection posted to it. -/
theorem assign_spec (hs : Consistent s) {b : TunnelBinding} {ord : List Bytes}
    (ha : (s.pool.assign b ord).isSome = true) (conn : Nat) :
    ∃ key session, s.assignee b ord = some key ∧ s.sessions.lookup key = some session ∧
      Shape true session ∧
      (s.assign conn b ord).sessions.lookup key =
        some (session.post (.assignment conn)) ∧
      (s.assign conn b ord).pooled key (session.post (.assignment conn)) =
        false := by
  obtain ⟨wid, hwk⟩ := Option.isSome_iff_exists.1 ha
  have hent : s.pool.entries.lookup wid ≠ none := by
    obtain ⟨w, hw, -⟩ := WorkerPool.assign_eq_some hwk
    rw [hw]
    exact Option.some_ne_none w
  have hh : s.handlers.lookup wid ≠ none := fun h => hent ((hs.known _).1 h)
  obtain ⟨key, hkey⟩ := Option.ne_none_iff_exists'.1 hh
  obtain ⟨session, hse, hid⟩ := hs.session wid key hkey
  have hai : s.assign conn b ord =
      { s with
        pool := s.pool.remove wid
        handlers := s.handlers.erase wid }.post key (.assignment conn) := by
    simp only [IdleState.assign, hwk, hkey]
  have hp : s.pooled key session = true := by
    unfold pooled
    rw [hid, hkey]
    simp
  have hv : (s.assign conn b ord).view key =
      some (session.post (.assignment conn), false) := by
    rw [hai, view_take hs.toOwned hkey, if_pos rfl, view_of_lookup hse]
    rfl
  refine ⟨key, session, ?_, hse, ?_, lookup_of_view hv⟩
  · simp only [assignee, hwk, Option.bind_some, hkey]
  · rw [← hp]
    exact hs.shape key session hse

theorem arriving_of_waitPending (hsha : Shape true session)
    (hp : session.phase = .answered ∨ session.armed = true)
    (hs : s.sessions.lookup key = some (session.post (.assignment conn)))
    (hpo : s.pooled key (session.post (.assignment conn)) = false) :
    Arriving s conn key 3 := by
  cases hsha with
  | answered r => exact .inr ⟨_, 3, hs, hpo, Nat.le_refl 3, .answered r⟩
  | waiting r => exact .inr ⟨_, 2, hs, hpo, by omega, .waiting r⟩
  | expired r => simp at hp
  | leaving r => simp at hp

theorem missed_of_not_waitPending (hsha : Shape true session)
    (hover : ¬(session.phase = .answered ∨ session.armed = true))
    (hs : s.sessions.lookup key = some (session.post (.assignment conn)))
    (hp : s.pooled key (session.post (.assignment conn)) = false) :
    Missed s key := by
  refine ⟨_, hs, hp, ?_⟩
  cases hsha with
  | answered r => exact absurd (.inl rfl) hover
  | waiting r => exact absurd (.inr rfl) hover
  | expired r => exact .queued _ _ rfl rfl rfl
  | leaving r => exact .removing _ rfl

end Assigned

theorem consistent_exec (maxIdleWorkersPerSession maxTotalIdleWorkers : Nat) (es : List IdleEvent) :
    Consistent (exec step (initial maxIdleWorkersPerSession maxTotalIdleWorkers) es) :=
  exec_invariant (fun _ e h => h.step e) (consistent_initial ..) es

/-- In every run, a connection that `WorkerPool::assign` accepted is handled by the session
it was given to, however the strands are interleaved from there on, exactly if the idle
wait of the session had not expired when the entry was taken out of the pool. -/
theorem assigned_connection_handled_iff (maxIdleWorkersPerSession maxTotalIdleWorkers : Nat)
    (es : List IdleEvent) (connection : Nat) (b : TunnelBinding) (order : List Bytes) :
    let s := exec step (initial maxIdleWorkersPerSession maxTotalIdleWorkers) es
    (s.pool.assign b order).isSome = true →
      ∃ key, s.assignee b order = some key ∧
        ((∀ fs : List IdleEvent, 3 ≤ fs.count (.run key) →
          (connection, key) ∈ (exec step s (.assign connection b order :: fs)).handled) ↔
        s.WaitPending key) := by
  intro s hassign
  have hs : Consistent s := consistent_exec ..
  obtain ⟨key, session, hkey, hsession, hshape, hposted, hpooled⟩ :=
    assign_spec hs hassign connection
  have hs' : Consistent (s.assign connection b order) := hs.step (.assign connection b order)
  refine ⟨key, hkey, ?_, ?_⟩
  · intro hhandled
    by_contra hover
    have hmissed := missed_of_not_waitPending hshape
      (fun hpending => hover ⟨session, hsession, hpending⟩) hposted hpooled
    exact hmissed.never_handled _ hs' (hhandled [.run key, .run key, .run key] (by simp))
  · rintro ⟨session', hsession', hpending⟩ fs hcount
    rw [hsession] at hsession'
    cases hsession'
    have harriving := arriving_of_waitPending hshape hpending hposted hpooled
    exact harriving.handled fs hs' hcount

namespace OneWorker

def registration : WorkerRegistration :=
  ⟨ascii "client_00112233445566778899aabbccddeeff", 1,
    ascii "conn_00000000000000000000000000000001", 0⟩

def binding : TunnelBinding :=
  ⟨registration.clientId, 1, ascii "tun_00000000000000000000000000000002", ascii "0.0.0.0", 8080, 1,
    .tcp⟩

def waiting : List IdleEvent := [.connect 0 registration, .control, .run 0]

theorem waiting_connection_handled :
    let s := exec step (initial 1 1) waiting
    (s.pool.assign binding [registration.workerId]).isSome = true ∧
      ∃ key, s.assignee binding [registration.workerId] = some key ∧
        ((∀ fs : List IdleEvent, 3 ≤ fs.count (.run key) →
          (7, key) ∈ (exec step s (.assign 7 binding [registration.workerId] :: fs)).handled) ↔
        s.WaitPending key) :=
  ⟨by decide +kernel, assigned_connection_handled_iff 1 1 waiting 7 binding
    [registration.workerId] (by decide +kernel)⟩

/-- The wait expires, and the connection is posted behind its expiry: the pool has said
yes, and no run handles it. -/
theorem expired_connection_lost :
    let s := exec step (initial 1 1) (waiting ++ [.expire 0])
    (s.pool.assign binding [registration.workerId]).isSome = true ∧
      s.assignee binding [registration.workerId] = some 0 ∧
      (∀ fs : List IdleEvent,
        (7, 0) ∉ (exec step s (.assign 7 binding [registration.workerId] :: fs)).handled) ∧
      ((exec step s [.assign 7 binding [registration.workerId], .run 0, .control, .run 0,
        .run 0]).sessions.lookup 0).map IdleSession.phase = some .finished := by
  refine ⟨by decide +kernel, by decide +kernel, fun fs => ?_, by decide +kernel⟩
  have hs := consistent_exec 1 1 (waiting ++ [.expire 0])
  have hmissed : Missed ((exec step (initial 1 1) (waiting ++ [.expire 0])).assign 7 binding
      [registration.workerId]) 0 :=
    ⟨⟨registration, .idle, false, none, false, [.waitDone, .assignment 7]⟩, by decide +kernel,
      by decide +kernel, .queued _ _ rfl rfl rfl⟩
  exact hmissed.never_handled fs (hs.step (.assign 7 binding [registration.workerId]))

end OneWorker

end MiniTun.Server.IdleState
