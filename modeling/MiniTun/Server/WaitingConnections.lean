import MiniTun.Server.PendingLeases
import MiniTun.Server.StrandSteps

/-!
# Waiting connections over whole runs

Between any two tasks of the control strand the tables agree, connections leave a session's
queue in the order of their arrival, every lease has one holder, and a session with waiting
connections has no more idle workers than notifications that are still to run: no wakeup
is lost.

The last fact is not kept by the parts of a task.  `Shrinks` says what they all do, to let
queues and pool only get smaller; a task that runs a notification or adds a worker is
compared with its first and its last state.
-/

namespace MiniTun.Server

open KeyedMap TransitionSystem

/-! ## Workers and the control strand -/

theorem ServerState.idleCount_registerWorker (s : ServerState) {key : SessionKey}
    {ses : ControlSession} (hkey : s.sessions.lookup key = some ses)
    (cid : Bytes) (gen : Nat) :
    (s.sessionRegisterWorker key ses).2.workerPool.idleCount cid gen ≤
      s.workerPool.idleCount cid gen +
        (s.registration (.session key .registerWorker)).count (cid, gen) := by
  simp only [registration, hkey]
  obtain ⟨e, he⟩ | ⟨g, workerId, hrl, ⟨e, he⟩ | ⟨limit, hr⟩⟩ :=
    s.sessionRegisterWorker_cases key ses
  · rw [he]
    exact Nat.le_add_right ..
  · rw [he]
    exact Nat.le_add_right ..
  · have hgen : ses.generation = g := by simp [ControlSession.generation, hrl]
    have hi := s.workerPool.idleCount_insertWorker_le ⟨ses.clientId, g, workerId, limit⟩ cid gen
    rw [hr, hgen]
    refine Nat.le_trans hi (Nat.add_le_add_left ?_ _)
    by_cases hs : ses.clientId = cid ∧ g = gen
    · simp [hs]
    · simp [hs]

theorem ServerState.idleCount_step (net : AddressText) (s : ServerState) (e : Event)
    (cid : Bytes) (gen : Nat) :
    (step net s e).workerPool.idleCount cid gen ≤
      s.workerPool.idleCount cid gen + (s.registration e).count (cid, gen) := by
  by_cases he : ∃ key, e = .session key .registerWorker
  · obtain ⟨key, rfl⟩ := he
    cases hkey : s.sessions.lookup key with
    | none =>
      simp only [step, hkey]
      exact Nat.le_add_right ..
    | some ses =>
      simp only [step, hkey]
      exact s.idleCount_registerWorker hkey cid gen
  · refine Nat.le_trans (WorkerPool.idleCount_le_of_lookup ?_ cid gen) (Nat.le_add_right ..)
    exact fun id w hl => lookup_worker_of_step he hl

namespace PendingState

/-- Everything about the waiting connections but the number of idle workers. -/
structure Sound (pending : Finset Nat) (s : PendingState) : Prop extends Tables pending s where
  ordered : Ordered s
  leased : Leased s
  waiting : ∀ c object, s.objects.lookup c = some object → object.finished = false →
    ∃ clientId, object.lease = some clientId
  arrived : (s.arrivals.map Prod.fst).Nodup
  known : ∀ p ∈ s.arrivals, s.objects.lookup p.1 ≠ none

/-- No queue and no session's part of the pool has grown. -/
structure Shrinks (s s' : PendingState) : Prop where
  queue : ∀ key, s'.queue key ≠ [] → s.queue key ≠ []
  idle : ∀ clientId generation, s'.server.workerPool.idleCount clientId generation ≤
    s.server.workerPool.idleCount clientId generation
  notifications : s'.notifications = s.notifications

/-- A session with waiting connections has no more idle workers than registrations whose
notification has not run. -/
def Covered (s : PendingState) : Prop :=
  ∀ clientId generation, s.queue (pendingSessionKey clientId generation) ≠ [] →
    s.server.workerPool.idleCount clientId generation ≤
      s.notifications.count (clientId, generation)

/-- What holds between two tasks. -/
structure Invariant (s : PendingState) : Prop where
  sound : Sound s.pendingConnections s
  covered : Covered s

theorem Shrinks.refl (s : PendingState) : Shrinks s s :=
  ⟨fun _ h => h, fun _ _ => Nat.le_refl _, rfl⟩

theorem Shrinks.trans {s s' s'' : PendingState} (h : Shrinks s s') (h' : Shrinks s' s'') :
    Shrinks s s'' where
  queue := fun key hne => h.queue key (h'.queue key hne)
  idle := fun cid gen =>
    Nat.le_trans (h'.idle cid gen) (h.idle cid gen)
  notifications := h'.notifications.trans h.notifications

theorem Covered.of_shrinks {s s' : PendingState} (h : Covered s) (hs' : Shrinks s s') :
    Covered s' := by
  intro cid gen hne
  rw [hs'.notifications]
  exact Nat.le_trans (hs'.idle cid gen) (h cid gen (hs'.queue _ hne))

section Objects

variable {s s' : PendingState} {ps : Finset Nat} {c : Nat}
  {obj : PendingPublicConnection}

theorem Finished.shrinks (h : Finished s c obj s') : Shrinks s s' where
  queue := by
    intro key hne he
    rw [h.queue, he] at hne
    exact hne rfl
  idle := by
    intro cid gen
    rw [h.frame]
  notifications := by rw [h.frame]

theorem Finished.server (h : Finished s c obj s') : s'.server = s.server := by
  rw [h.frame]

section Waiting

variable (h : Sound ps s)
include h

theorem Sound.of_finished (ho : s.objects.lookup c = some obj)
    (hs' : Finished s c obj s') : Sound (ps.erase c) s' where
  toTables := h.toTables.finish hs'
  ordered := h.ordered.finish hs'
  leased := h.leased.finish ho hs'
  waiting := by
    intro c' obj' ho' hu
    rw [hs'.objects, lookup_insert_eq_ite] at ho'
    split at ho'
    · cases ho'
      cases hu
    · exact h.waiting c' obj' ho' hu
  arrived := by
    rw [hs'.frame]
    exact h.arrived
  known := by
    rw [hs'.frame]
    intro p hp
    rw [hs'.objects]
    exact lookup_insert_ne_none (h.known p hp) _ _

theorem Sound.stop_spec (hc : c ∈ ps) :
    ∃ obj, s.objects.lookup c = some obj ∧ Finished s c obj (s.stop c) := by
  obtain ⟨obj, -, ho, -⟩ := h.member c hc
  refine ⟨obj, ho, ?_⟩
  have hs : s.stop c = s.finish c obj := by simp only [PendingState.stop, ho]
  rw [hs]
  exact h.toTables.finished hc ho

theorem Sound.stop_of_not_mem (hc : c ∉ ps) : s.stop c = s := by
  unfold PendingState.stop
  split
  · rfl
  · next obj ho =>
    have hfin : obj.finished = true := by
      cases hcase : obj.finished with
      | true => rfl
      | false => exact absurd ((h.unfinished c obj ho).1 hcase) hc
    rw [PendingState.finish, if_pos hfin]

theorem Sound.handOver {front : QueueNode} {rest : List QueueNode} (wid : Bytes)
    (ho : s.objects.lookup front.connection = some obj)
    (hq : s.queue obj.sessionKey = front :: rest) (hc : front.connection ∈ ps) :
    ∃ s', (s.handOver front.connection obj wid).finish front.connection
        { obj with lease := none } = s' ∧
      Finished (s.handOver front.connection obj wid) front.connection
        { obj with lease := none } s' ∧
      Sound (ps.erase front.connection) s' := by
  have hu := (h.unfinished _ obj ho).2 hc
  obtain ⟨cid, hle⟩ := h.waiting _ obj ho hu
  have hl : ∀ c', (s.handOver front.connection obj wid).objects.lookup c' =
      if c' = front.connection then some { obj with lease := none }
      else s.objects.lookup c' := fun c' => lookup_insert_eq_ite ..
  have ho' : (s.handOver front.connection obj wid).objects.lookup
      front.connection = some { obj with lease := none } := by
    rw [hl, if_pos rfl]
  have ht : Tables ps (s.handOver front.connection obj wid) :=
    h.toTables.dropLease ho rfl rfl rfl rfl
  have hs' := ht.finished hc ho'
  refine ⟨_, rfl, hs', ht.finish hs', h.ordered.handOver hq hs',
    (h.leased.handOver ho hle wid).finish ho' hs', ?_, ?_, ?_⟩
  · intro c' obj' hf hu'
    rw [hs'.objects, lookup_insert_eq_ite] at hf
    split at hf
    · cases hf
      cases hu'
    · next hne =>
      rw [hl, if_neg hne] at hf
      exact h.waiting c' obj' hf hu'
  · rw [hs'.frame]
    exact h.arrived
  · rw [hs'.frame]
    intro p hp
    rw [hs'.objects]
    exact lookup_insert_ne_none (lookup_insert_ne_none (h.known p hp) _ _) _ _

/-- **What trying the first of a queue can do**: close it, find no idle worker of its
session, or hand it out. -/
theorem Sound.tryAssign_cases {front : QueueNode} {rest : List QueueNode} {order : List Bytes}
    (ho : s.objects.lookup front.connection = some obj)
    (hq : s.queue obj.sessionKey = front :: rest) (hc : front.connection ∈ ps)
    (hord : order.Perm s.server.workerPool.entries.keys) :
    (∃ s', s.tryAssign front.connection order = (false, s') ∧
      Finished s front.connection obj s') ∨
    (s.tryAssign front.connection order = (false, s) ∧
      s.server.workerPool.idleCount obj.binding.clientId obj.binding.sessionGeneration = 0) ∨
    (∃ s' workerId, s.tryAssign front.connection order = (true, s') ∧
      s.server.workerPool.assign obj.binding order = some workerId ∧
      Finished (s.handOver front.connection obj workerId) front.connection
        { obj with lease := none } s' ∧
      Sound (ps.erase front.connection) s') := by
  have hu := (h.unfinished _ obj ho).2 hc
  simp only [PendingState.tryAssign, ho]
  rw [if_neg (by simp [hu])]
  split
  · obtain ⟨obj', ho', hs'⟩ := h.stop_spec hc
    rw [ho] at ho'
    cases ho'
    exact .inl ⟨_, rfl, hs'⟩
  · split
    · next hno => exact .inr (.inl ⟨rfl, WorkerPool.assign_eq_none hord hno⟩)
    · next workerId hw =>
      obtain ⟨s', hs', hfin, hsnd⟩ := h.handOver workerId ho hq hc
      exact .inr (.inr ⟨s', workerId, by rw [hs'], hw, hfin, hsnd⟩)

end Waiting

theorem Finished.shrinks_handOver {obj' : PendingPublicConnection} {wid : Bytes}
    (h : Finished (s.handOver c obj wid) c obj' s') : Shrinks s s' := by
  have ht : Shrinks s (s.handOver c obj wid) := by
    refine ⟨fun _ hne => hne, fun cid gen => ?_, rfl⟩
    exact WorkerPool.idleCount_le_of_lookup (fun _ _ hl => WorkerPool.lookup_of_remove hl) cid gen
  exact ht.trans h.shrinks

end Objects

/-! ## The loops -/

section Loops

variable {s : PendingState} {key : Bytes} {front : QueueNode} {rest : List QueueNode}

theorem Sound.first (h : Sound s.pendingConnections s) (hq : s.queue key = front :: rest) :
    ∃ obj, s.objects.lookup front.connection = some obj ∧ obj.sessionKey = key ∧
      front.connection ∈ s.pendingConnections := by
  obtain ⟨obj, ho, hkey, hpos⟩ :=
    h.node key front (by rw [hq]; exact List.mem_cons_self)
  exact ⟨obj, ho, hkey, (h.position _ _ hpos).1⟩

variable {s' : PendingState}

/-- The state after an object has finished, in terms of its own table of owners. -/
theorem Finished.own {c : Nat} {obj : PendingPublicConnection} (hs' : Finished s c obj s')
    (h : Sound (s.pendingConnections.erase c) s') : Sound s'.pendingConnections s' := by
  rw [hs'.pendingConnections]
  exact h

theorem Finished.length_lt {obj : PendingPublicConnection}
    (hs' : Finished s front.connection obj s') (hq : s.queue key = front :: rest) :
    (s'.queue key).length < (s.queue key).length := by
  rw [hs'.queue, hq, List.filter_cons_of_neg (by simp)]
  exact Nat.lt_succ_of_le (List.length_filter_le _ _)

theorem Sound.cancel (h : Sound s.pendingConnections s) (key : Bytes) :
    ∃ s', s.drain key (cancelRound key) = s' ∧ Sound s'.pendingConnections s' ∧
      Shrinks s s' ∧ s'.server = s.server ∧ s'.queue key = [] := by
  have hloop := Loop.run_of_variant (cancelRound key)
    (fun t => Sound t.pendingConnections t ∧ Shrinks s t ∧ t.server = s.server)
    (fun t => Sound t.pendingConnections t ∧ Shrinks s t ∧ t.server = s.server ∧
      t.queue key = [])
    (fun t => (t.queue key).length) ?_ ⟨h, Shrinks.refl s, rfl⟩ (Nat.lt_succ_self _)
  · obtain ⟨s', hrun, hpost⟩ := hloop
    exact ⟨s', by rw [drain, hrun, Option.getD_some], hpost⟩
  · intro t ht
    obtain ⟨hsnd, hs, hsv⟩ := ht
    unfold cancelRound
    cases hq : t.queue key with
    | nil => exact .inl ⟨t, rfl, hsnd, hs, hsv, hq⟩
    | cons front rest =>
      obtain ⟨-, -, -, hc⟩ := hsnd.first hq
      obtain ⟨obj, ho, hs'⟩ := hsnd.stop_spec hc
      refine .inr ⟨t.stop front.connection, by simp only [hc, if_true], ?_, ?_⟩
      · exact ⟨hs'.own (hsnd.of_finished ho hs'), hs.trans hs'.shrinks, hs'.server.trans hsv⟩
      · rw [← hq]
        exact hs'.length_lt hq

/-- A notification ends with nobody waiting, with no idle worker left, or with one worker
taken. -/
def Served (clientId : Bytes) (generation : Nat) (s s' : PendingState) : Prop :=
  s'.queue (pendingSessionKey clientId generation) = [] ∨
    s'.server.workerPool.idleCount clientId generation = 0 ∨
    s'.server.workerPool.idleCount clientId generation + 1 =
      s.server.workerPool.idleCount clientId generation

/-- `notify_worker_available` ends, and has done something about its worker. -/
theorem Sound.notify (h : Sound s.pendingConnections s) (cid : Bytes) (gen : Nat)
    {order : List Bytes} (hord : order.Perm s.server.workerPool.entries.keys) :
    ∃ s', s.notifyWorkerAvailable cid gen order = s' ∧
      Sound s'.pendingConnections s' ∧ Shrinks s s' ∧ Served cid gen s s' := by
  have hloop := Loop.run_of_variant (notifyRound (pendingSessionKey cid gen) order)
    (fun t => Sound t.pendingConnections t ∧ Shrinks s t ∧ t.server = s.server)
    (fun t => Sound t.pendingConnections t ∧ Shrinks s t ∧ Served cid gen s t)
    (fun t => (t.queue (pendingSessionKey cid gen)).length) ?_
    ⟨h, Shrinks.refl s, rfl⟩ (Nat.lt_succ_self _)
  · obtain ⟨s', hrun, hpost⟩ := hloop
    exact ⟨s', by simp only [notifyWorkerAvailable, drain, hrun, Option.getD_some], hpost⟩
  · intro t ht
    obtain ⟨hsnd, hs, hsv⟩ := ht
    rw [← hsv] at hord
    unfold notifyRound
    cases hq : t.queue (pendingSessionKey cid gen) with
    | nil => exact .inl ⟨t, rfl, hsnd, hs, .inl hq⟩
    | cons front rest =>
      obtain ⟨obj, ho, hkey, hc⟩ := hsnd.first hq
      obtain ⟨hcl, hgen⟩ := pendingSessionKey_inj.1 hkey
      have hq' : t.queue obj.sessionKey = front :: rest := by rw [hkey, hq]
      simp only [hc]
      obtain ⟨s', htry, hs'⟩ | ⟨htry, hi⟩ | ⟨s', workerId, htry, hw, hs', hsnd'⟩ :=
        hsnd.tryAssign_cases ho hq' hc hord
      · -- the session is over: the connection was closed, and the next one is looked at
        refine .inr ⟨s', ?_, ?_, ?_⟩
        · simp [htry, hs'.pendingConnections]
        · exact ⟨hs'.own (hsnd.of_finished ho hs'), hs.trans hs'.shrinks, hs'.server.trans hsv⟩
        · rw [← hq]
          exact hs'.length_lt hq
      · rw [hcl, hgen] at hi
        exact .inl ⟨t, by simp [htry, hc], hsnd, hs, .inr (.inl hi)⟩
      · have hp : s'.server.workerPool = t.server.workerPool.remove workerId := by
          rw [hs'.server]
          rfl
        have hr := WorkerPool.idleCount_remove_of_assign hw
        rw [← hp, hcl, hgen] at hr
        refine .inl ⟨s', by simp [htry], hs'.own hsnd', hs.trans hs'.shrinks_handOver,
          .inr (.inr ?_)⟩
        rw [hr, hsv]

/-- Running a notification takes one off those that are to run, and the session one
worker or all who wait. -/
theorem Covered.notify (h : Covered s) {cid : Bytes} {gen : Nat}
    (hs : Shrinks { s with notifications := s.notifications.erase (cid, gen) } s')
    (hsr : Served cid gen s s') : Covered s' := by
  intro cid' gen' hne
  have hi := hs.idle cid' gen'
  have hold := h cid' gen' (hs.queue _ hne)
  rw [hs.notifications]
  by_cases hse : (cid', gen') = (cid, gen)
  · cases hse
    rw [List.count_erase_self]
    rcases hsr with he | hno | ht
    · exact absurd he hne
    · omega
    · omega
  · rw [List.count_erase_of_ne hse]
    exact Nat.le_trans hi hold

end Loops

/-! ## The tasks -/

section Tasks

variable {net : AddressText} {s s' : PendingState} {c : Nat}

theorem Sound.frame {ps : Finset Nat} (h : Sound ps s) (hs' : s' = { s with
      server := s'.server
      running := s'.running
      pendingConnections := s'.pendingConnections
      notifications := s'.notifications }) : Sound ps s' := by
  rw [hs']
  exact ⟨h.toTables.congr rfl rfl rfl fun _ => rfl, h.ordered,
    ⟨h.leased.holder, h.leased.unknown, h.leased.client, h.leased.total⟩, h.waiting, h.arrived,
    h.known⟩

variable {quota : ConnectionQuota} {obj : PendingPublicConnection}

theorem Sound.enqueue (h : Sound s.pendingConnections s) (hnew : s.objects.lookup c = none)
    {b : TunnelBinding} {cid : Bytes} (htt : quota.total = s.quota.total + 1)
    (hc : ∀ other, quota.clientInUse other =
      s.quota.clientInUse other + (decide (other = cid)).toNat) :
    Sound (insert c s.pendingConnections)
      ({ s with quota := quota }.enqueue c ⟨b, some cid, false⟩) where
  toTables := by
    have ht : Tables s.pendingConnections { s with quota := quota } :=
      h.toTables.congr rfl rfl rfl fun _ => rfl
    exact ht.enqueue hnew rfl
  ordered := Ordered.enqueue h.ordered
  leased := h.leased.admit hnew htt hc rfl
  waiting := by
    intro c' obj ho hu
    rw [objects_enqueue] at ho
    split at ho
    · cases ho
      exact ⟨cid, rfl⟩
    · exact h.waiting c' obj ho hu
  arrived := by
    change ((s.arrivals ++ [(c, b)]).map Prod.fst).Nodup
    rw [List.map_append]
    refine h.arrived.append (List.nodup_singleton _) ?_
    intro c' hc' hl
    rw [List.map_singleton, List.mem_singleton] at hl
    obtain ⟨p, hp, rfl⟩ := List.mem_map.1 hc'
    exact h.known p hp (by rw [hl]; exact hnew)
  known := by
    intro p hp
    rw [objects_enqueue]
    split
    · exact nofun
    · next hne =>
      rcases List.mem_append.1 hp with hold | hl
      · exact h.known p hold
      · rw [List.mem_singleton] at hl
        rw [hl] at hne
        exact absurd rfl hne

/-- A first waiter that does not stay leaves the queues as they were. -/
theorem Shrinks.of_enqueue (h : Shrinks ({ s with quota := quota }.enqueue c obj) s')
    (he : s'.queue obj.sessionKey = []) : Shrinks s s' := by
  refine ⟨?_, h.idle, h.notifications⟩
  intro key hne
  have hold := h.queue key hne
  rw [queue_enqueue] at hold
  by_cases hkey : obj.sessionKey = key
  · rw [← hkey] at hne
    exact absurd he hne
  · rw [if_neg hkey, List.append_nil] at hold
    exact hold

theorem Sound.tryAssign_alone (h : Sound s.pendingConnections s) {front : QueueNode}
    {order : List Bytes} (ho : s.objects.lookup front.connection = some obj)
    (hq : s.queue obj.sessionKey = [front]) (hc : front.connection ∈ s.pendingConnections)
    (hord : order.Perm s.server.workerPool.entries.keys) :
    ∃ s', (s.tryAssign front.connection order).2 = s' ∧ Sound s'.pendingConnections s' ∧
      Shrinks s s' ∧ (s'.queue obj.sessionKey = [] ∨ s' = s ∧
        s.server.workerPool.idleCount obj.binding.clientId obj.binding.sessionGeneration = 0) := by
  have hgone : [front].filter (fun n => decide (n.connection ≠ front.connection)) = [] := by simp
  obtain ⟨s', htry, hs'⟩ | ⟨htry, hi⟩ | ⟨s', workerId, htry, -, hs', hsnd⟩ :=
    h.tryAssign_cases ho hq hc hord
  · refine ⟨s', by rw [htry], hs'.own (h.of_finished ho hs'), hs'.shrinks, .inl ?_⟩
    rw [hs'.queue, hq, hgone]
  · exact ⟨s, by rw [htry], h, Shrinks.refl s, .inr ⟨rfl, hi⟩⟩
  · refine ⟨s', by rw [htry], hs'.own hsnd, hs'.shrinks_handOver, .inl ?_⟩
    have hf := hs'.queue obj.sessionKey
    change s'.queue obj.sessionKey = (s.queue obj.sessionKey).filter _ at hf
    rw [hf, hq, hgone]

theorem Covered.enqueue (h : Covered s)
    (hi : s.queue obj.sessionKey = [] → s.server.workerPool.idleCount
      obj.binding.clientId obj.binding.sessionGeneration = 0) :
    Covered ({ s with quota := quota }.enqueue c obj) := by
  intro cid gen hne
  change s.server.workerPool.idleCount cid gen ≤
    s.notifications.count (cid, gen)
  rw [queue_enqueue] at hne
  change s.queue (pendingSessionKey cid gen) ++ _ ≠ [] at hne
  by_cases he : s.queue (pendingSessionKey cid gen) = []
  · rw [he] at hne
    split at hne
    · next hkey =>
      obtain ⟨rfl, rfl⟩ := pendingSessionKey_inj.1 hkey
      rw [hi he]
      exact Nat.zero_le _
    · exact absurd rfl hne
  · exact h cid gen he

section Steps

variable (h : Sound s.pendingConnections s)
include h

theorem handlePublicConnection_sound (hc : Covered s) (hnew : s.objects.lookup c = none)
    (b : TunnelBinding) (remote : Option Address) (limiterAllows : Bool) {order : List Bytes}
    (hord : order.Perm s.server.workerPool.entries.keys) :
    Invariant (s.handlePublicConnection c b remote limiterAllows order) := by
  unfold handlePublicConnection
  split
  swap
  · exact ⟨h, hc⟩
  next pol hv =>
  obtain ⟨e, he⟩ | ⟨quota, ha, ht, hcl⟩ :=
    s.quota.tryAcquire_cases b.clientId pol.maxConnections
  · rw [he]
    exact ⟨h, hc⟩
  rw [ha]
  simp only
  have hsnd : Sound (insert c s.pendingConnections)
      ({ s with quota := quota }.enqueue c ⟨b, some b.clientId, false⟩) :=
    h.enqueue hnew ht hcl
  split
  · next hem =>
    have hq : ({ s with quota := quota }.enqueue c ⟨b, some b.clientId, false⟩).queue
        (PendingPublicConnection.sessionKey ⟨b, some b.clientId, false⟩) =
        [⟨s.nextNode, c⟩] := by
      rw [queue_enqueue, if_pos rfl]
      change s.queue _ ++ _ = _
      rw [hem]
      rfl
    obtain ⟨s', htry, hs', hs, hgone | ⟨rfl, hi⟩⟩ :=
      hsnd.tryAssign_alone (AList.lookup_insert _) hq (Finset.mem_insert_self ..) hord
    · rw [htry]
      exact ⟨hs', hc.of_shrinks (hs.of_enqueue hgone)⟩
    · rw [htry]
      exact ⟨hs', hc.enqueue fun _ => hi⟩
  · next hw => exact ⟨hsnd, hc.enqueue fun hem => absurd hem hw⟩

theorem Sound.workerDone (c : Nat) :
    Sound (s.workerDone c).pendingConnections (s.workerDone c) ∧ Shrinks s (s.workerDone c) := by
  have hl := h.leased.workerDone c
  unfold PendingState.workerDone at hl ⊢
  split at hl
  · exact ⟨h, Shrinks.refl s⟩
  · exact ⟨⟨h.toTables.congr rfl rfl rfl fun _ => rfl, h.ordered, hl, h.waiting, h.arrived,
      h.known⟩, fun _ hne => hne, fun _ _ => Nat.le_refl _, rfl⟩

theorem Sound.destroy (hc : c ∉ s.pendingConnections) :
    Sound (s.destroy c).pendingConnections (s.destroy c) ∧ Shrinks s (s.destroy c) := by
  have hls := h.leased.destroy c
  unfold PendingState.destroy at hls ⊢
  cases ho : s.objects.lookup c with
  | none => exact ⟨h, Shrinks.refl s⟩
  | some obj =>
    cases hl : obj.lease with
    | none => exact ⟨by simpa only [hl] using h, by simpa only [hl] using Shrinks.refl s⟩
    | some cid =>
      simp only [ho, hl] at hls ⊢
      refine ⟨⟨h.toTables.dropLease ho rfl rfl rfl rfl, h.ordered, hls, ?_, h.arrived, ?_⟩,
        fun _ hne => hne, fun _ _ => Nat.le_refl _, rfl⟩
      · intro c' obj' ho' hu
        change (s.objects.insert c { obj with lease := none }).lookup c' = _ at ho'
        rw [lookup_insert_eq_ite] at ho'
        split at ho'
        · cases ho'
          exact absurd ((h.unfinished c obj ho).1 hu) hc
        · exact h.waiting c' obj' ho' hu
      · exact fun p hp => lookup_insert_ne_none (h.known p hp) _ _

theorem Sound.stop (c : Nat) :
    Sound (s.stop c).pendingConnections (s.stop c) ∧ Shrinks s (s.stop c) := by
  by_cases hc : c ∈ s.pendingConnections
  · obtain ⟨obj, ho, hs'⟩ := h.stop_spec hc
    exact ⟨hs'.own (h.of_finished ho hs'), hs'.shrinks⟩
  · rw [h.stop_of_not_mem hc]
    exact ⟨h, Shrinks.refl s⟩

end Steps

/-- The loop of `begin_shutdown`, which runs after the table of owners has been emptied. -/
theorem Sound.stopAll {order : List Nat} (h : Sound order.toFinset s) (hn : order.Nodup)
    (he : s.pendingConnections = ∅) :
    ∃ s', order.foldl PendingState.stop s = s' ∧ Sound ∅ s' ∧ Shrinks s s' ∧
      s'.pendingConnections = ∅ := by
  induction order generalizing s with
  | nil => exact ⟨s, rfl, h, Shrinks.refl s, he⟩
  | cons c order ih =>
    obtain ⟨hnot, hn⟩ := List.nodup_cons.1 hn
    obtain ⟨obj, ho, hs⟩ := h.stop_spec (List.mem_toFinset.2 List.mem_cons_self)
    have hnx : Sound order.toFinset (s.stop c) := by
      have her := h.of_finished ho hs
      rwa [List.toFinset_cons, Finset.erase_insert (by simpa using hnot)] at her
    have he' : (s.stop c).pendingConnections = ∅ := by
      rw [hs.pendingConnections, he]
      rfl
    obtain ⟨s', hs', hsnd, hsh, hp⟩ := ih hnx hn he'
    exact ⟨s', hs', hsnd, hs.shrinks.trans hsh, hp⟩

theorem Sound.beginShutdown (h : Sound s.pendingConnections s) {order : List Nat}
    (hn : order.Nodup) (hord : order.toFinset = s.pendingConnections) :
    Sound (s.beginShutdown order).pendingConnections (s.beginShutdown order) ∧
      Shrinks s (s.beginShutdown order) := by
  have hst : Sound order.toFinset { s with pendingConnections := ∅ } := by
    rw [hord]
    exact h.frame rfl
  obtain ⟨s', hs', hsnd, hs, he⟩ := hst.stopAll hn rfl
  unfold PendingState.beginShutdown
  simp only [hs', he]
  refine ⟨hsnd.frame rfl, hs.queue, fun cid gen => ?_, hs.notifications⟩
  refine Nat.le_trans ?_ (hs.idle cid gen)
  exact WorkerPool.idleCount_le_of_lookup
    (fun key w hl => (WorkerPool.lookup_eraseMatching.1 hl).1) cid gen

theorem strand_sound (h : Sound s.pendingConnections s) (hc : Covered s)
    (net : AddressText) (e : Event) : Invariant (s.strand net e) := by
  let next : PendingState := { s with
    server := Server.step net s.server e
    notifications := s.notifications ++ s.server.registration e }
  have hn : Sound next.pendingConnections next := h.frame rfl
  have hc' : Covered next := by
    intro cid gen hne
    have hold := hc cid gen hne
    have hi := s.server.idleCount_step net e cid gen
    change (Server.step net s.server e).workerPool.idleCount cid gen ≤
      (s.notifications ++ s.server.registration e).count (cid, gen)
    rw [List.count_append]
    omega
  unfold strand
  split
  · exact ⟨hn, hc'⟩
  · next cid gen hcl =>
    obtain ⟨s', hs', hsnd, hs, -⟩ :=
      hn.cancel (pendingSessionKey cid gen)
    rw [cancelPendingForSession, hs']
    exact ⟨hsnd, hc'.of_shrinks hs⟩

theorem Invariant.step (hinv : Invariant s) (net : AddressText) (e : PendingEvent) :
    Invariant (s.step net e) := by
  obtain ⟨h, hcv⟩ := hinv
  cases e with
  | strand e =>
    cases e with
    | assignWorker wid => exact ⟨h, hcv⟩
    | accept key => exact strand_sound h hcv net (.accept key)
    | session key task => exact strand_sound h hcv net (.session key task)
    | applyPolicyUpdate apiDriven new =>
      exact strand_sound h hcv net (.applyPolicyUpdate apiDriven new)
    | policyPass => exact strand_sound h hcv net .policyPass
  | accept c b remote limiterAllows ord =>
    simp only [PendingState.step]
    split
    · next hg =>
      exact handlePublicConnection_sound h hcv hg.1 b remote limiterAllows hg.2
    · exact ⟨h, hcv⟩
  | notify cid gen ord =>
    simp only [PendingState.step]
    split
    · next hg =>
      let start : PendingState := { s with
        notifications := s.notifications.erase (cid, gen) }
      have hst : Sound start.pendingConnections start := h.frame rfl
      obtain ⟨s', hs', hsnd, hsh, hsr⟩ :=
        hst.notify cid gen hg.2
      rw [hs']
      exact ⟨hsnd, hcv.notify hsh hsr⟩
    · exact ⟨h, hcv⟩
  | expire c =>
    have hsp := h.stop c
    exact ⟨hsp.1, hcv.of_shrinks hsp.2⟩
  | destroy c =>
    simp only [PendingState.step]
    split
    · exact ⟨h, hcv⟩
    · next hc =>
      have hd := h.destroy hc
      exact ⟨hd.1, hcv.of_shrinks hd.2⟩
  | workerDone c =>
    have hdn := h.workerDone c
    exact ⟨hdn.1, hcv.of_shrinks hdn.2⟩
  | stop => exact ⟨h.frame rfl, hcv⟩
  | shutdown ord =>
    simp only [PendingState.step]
    split
    · next hg =>
      have hs := h.beginShutdown hg.1 hg.2
      exact ⟨hs.1, hcv.of_shrinks hs.2⟩
    · exact ⟨h, hcv⟩

end Tasks

theorem invariant_initial (srv : ServerState) (lim maxTotal : Nat) :
    Invariant (initial srv lim maxTotal) := by
  refine ⟨⟨⟨?_, ?_, ?_, ?_, ?_, ?_, ?_⟩, ?_, ⟨?_, ?_, ?_, ?_⟩, ?_, ?_, ?_⟩, ?_⟩
  · intro _ _ h
    cases h
  · intro _ _ h
    cases h
  · exact fun _ => List.nodup_nil
  · intro _ _ h
    cases h
  · intro _ _ _ h
    cases h
  · intro _ h
    cases h
  · intro _ _ h
    cases h
  · exact fun _ => List.Sublist.refl _
  · intro _ _ h
    cases h
  · exact fun _ _ => ⟨rfl, rfl⟩
  · exact fun _ => rfl
  · rfl
  · intro _ _ h
    cases h
  · exact List.nodup_nil
  · intro _ h
    cases h
  · intro _ _ hne
    exact absurd rfl hne

/-! ## The result -/

/-- The connections of a session in a history, oldest first. -/
def ofSession (clientId : Bytes) (generation : Nat) (history : List (Nat × TunnelBinding)) :
    List Nat :=
  (history.filter fun p =>
    p.2.clientId = clientId ∧ p.2.sessionGeneration = generation).map Prod.fst

theorem names_pendingSessionKey (cid : Bytes) (gen : Nat) (history : List (Nat × TunnelBinding)) :
    names (pendingSessionKey cid gen) history =
      ofSession cid gen history := by
  unfold names ofSession
  congr 1
  refine List.filter_congr fun p _ => ?_
  rw [decide_eq_decide]
  exact pendingSessionKey_inj

/-- Who has the lease of a connection. -/
inductive LeaseAt (s : PendingState) (c : Nat) (object : PendingPublicConnection) : Prop where
  | object (hobject : object.lease ≠ none) (hworker : s.workerLeases.lookup c = none)
      (hreleased : s.released.count c = 0)
  | worker (hobject : object.lease = none) (hworker : s.workerLeases.lookup c ≠ none)
      (hreleased : s.released.count c = 0)
  | nobody (hobject : object.lease = none) (hworker : s.workerLeases.lookup c = none)
      (hreleased : s.released.count c = 1)

/-- What holds between any two tasks of the control strand. -/
structure Exact (s : PendingState) : Prop where
  /-- The three tables describe the same set, -/
  positions : ∀ c, c ∈ s.pendingConnections ↔ s.positions.lookup c ≠ none
  queues : ∀ c, c ∈ s.pendingConnections ↔ ∃ key queue, s.bySession.lookup key = some queue ∧
    c ∈ queue.map QueueNode.connection
  /-- a position is one in the queue of the connection's own session, -/
  position : ∀ c node, s.positions.lookup c = some node → ∃ object queue,
    s.objects.lookup c = some object ∧ s.bySession.lookup object.sessionKey = some queue ∧
      ⟨node, c⟩ ∈ queue
  /-- a queue has every connection once and is not empty. -/
  nonempty : ∀ key queue, s.bySession.lookup key = some queue → queue ≠ []
  once : ∀ key queue, s.bySession.lookup key = some queue →
    (queue.map QueueNode.connection).Nodup
  /-- Connections are handed out in the order of their arrival, and no one twice. -/
  arrived : (s.arrivals.map Prod.fst).Nodup
  fifo : ∀ clientId generation, (ofSession clientId generation s.handed).Sublist
    (ofSession clientId generation s.arrivals)
  /-- No wakeup is lost. -/
  idle : ∀ clientId generation queue,
    s.bySession.lookup (pendingSessionKey clientId generation) = some queue →
      s.server.workerPool.idleCount clientId generation ≤
        s.notifications.count (clientId, generation)
  /-- Every lease has one holder, who for a waiting connection is its object. -/
  lease : ∀ c object, s.objects.lookup c = some object → LeaseAt s c object
  waiting : ∀ c ∈ s.pendingConnections, ∃ object, s.objects.lookup c = some object ∧
    object.lease ≠ none
  /-- The quota counts the leases that are held. -/
  client : ∀ clientId, s.quota.clientInUse clientId =
    countIf (fun o => o.lease = some clientId) s.objects +
      countIf (fun holder => holder = clientId) s.workerLeases
  total : s.quota.total =
    countIf (fun o => o.lease.isSome) s.objects + size s.workerLeases

section Results

variable {s : PendingState} {c : Nat} {obj : PendingPublicConnection}

theorem Leased.leaseAt (h : Leased s) (ho : s.objects.lookup c = some obj) :
    LeaseAt s c obj := by
  have hh := h.holder c obj ho
  cases hl : obj.lease <;> cases hw : s.workerLeases.lookup c <;>
    rw [hl, hw] at hh <;>
    simp only [Option.isSome_none, Option.isSome_some, Bool.toNat_true] at hh
  · exact .nobody hl hw (by omega)
  · exact .worker hl (by simp [hw]) (by omega)
  · exact .object (by simp [hl]) hw (by omega)
  · omega

theorem Tables.nodup_connections {ps : Finset Nat} (h : Tables ps s) (key : Bytes) :
    ((s.queue key).map QueueNode.connection).Nodup := by
  refine (h.nodup key).map_on fun n hn n' hn' heq => ?_
  obtain ⟨-, -, -, hpos⟩ := h.node key n hn
  obtain ⟨-, -, -, hpos'⟩ := h.node key n' hn'
  rw [heq, hpos'] at hpos
  cases n
  cases heq
  cases hpos
  rfl

theorem Sound.exact (h : Sound s.pendingConnections s) (hcv : Covered s) : Exact s where
  positions := by
    intro c
    constructor
    · intro hc
      obtain ⟨-, node, -, hpos, -⟩ := h.member c hc
      simp [hpos]
    · intro hne
      obtain ⟨node, hpos⟩ := Option.ne_none_iff_exists'.1 hne
      exact (h.position c node hpos).1
  queues := by
    intro c
    constructor
    · intro hc
      obtain ⟨obj, node, -, -, hmem⟩ := h.member c hc
      exact ⟨_, _, lookup_of_mem_queue hmem, List.mem_map.2 ⟨_, hmem, rfl⟩⟩
    · rintro ⟨key, queue, hq, hmem⟩
      obtain ⟨n, hn, rfl⟩ := List.mem_map.1 hmem
      rw [← queue_eq_of_lookup hq] at hn
      obtain ⟨-, -, -, hpos⟩ := h.node key n hn
      exact (h.position _ _ hpos).1
  position := by
    intro c node hpos
    obtain ⟨obj, node', ho, hpos', hmem⟩ :=
      h.member c (h.position c node hpos).1
    rw [hpos] at hpos'
    cases hpos'
    exact ⟨obj, _, ho, lookup_of_mem_queue hmem, hmem⟩
  nonempty := h.nonempty
  once := by
    intro key queue hq
    rw [← queue_eq_of_lookup hq]
    exact h.nodup_connections key
  arrived := h.arrived
  fifo := by
    intro cid gen
    rw [← names_pendingSessionKey, ← names_pendingSessionKey]
    exact (List.sublist_append_left ..).trans (h.ordered _)
  idle := by
    intro cid gen queue hq
    refine hcv cid gen ?_
    rw [queue_eq_of_lookup hq]
    exact h.nonempty _ queue hq
  lease := fun c obj ho => h.leased.leaseAt ho
  waiting := by
    intro c hc
    obtain ⟨obj, -, ho, -⟩ := h.member c hc
    obtain ⟨cid, hl⟩ := h.waiting c obj ho ((h.unfinished c obj ho).2 hc)
    exact ⟨obj, ho, by simp [hl]⟩
  client := h.leased.client
  total := h.leased.total

end Results

/-- Two connections arrive at a session without workers; a worker registers, and its
notification hands it the first. -/
example :
    let b : TunnelBinding := ⟨Sample.clientId, 7, Sample.tunnelId, Sample.loopback, 6001, 1, .tcp⟩
    let workerId := ascii "conn_00000000000000000000000000000001"
    let source : Option Address := some (.v4 0x7f000001#32)
    let s := exec (step Sample.net) (initial Sample.server 8 8)
      ((Sample.connect 1 7).map .strand ++ [.accept 0 b source true [], .accept 1 b source true [],
          .strand (.accept 2), .strand (.session 2 (.workerHello Sample.clientId 7 workerId)),
          .strand (.session 2 .registerWorker), .notify Sample.clientId 7 [workerId]])
    (s.queue (pendingSessionKey Sample.clientId 7)).map QueueNode.connection = [1] ∧
      s.handed.map Prod.fst = [0] ∧ s.quota.total = 2 ∧ s.notifications = [] := by
  decide +kernel

end PendingState

end MiniTun.Server
