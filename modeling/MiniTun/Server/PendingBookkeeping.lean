import MiniTun.Server.PendingConnections

/-!
# The tables of waiting connections

What the three tables, the order of the queues and the leases have in common is that a
connection enters all of them at once and leaves through `finish`.  `Tables pending s` says that
they describe the set `pending`; it has the set as a parameter because `begin_shutdown` empties
`pending_connections_` before it stops the objects.  `Finished` says everything `finish` does, and
the other facts are derived from it.
-/

namespace MiniTun.Server.PendingState

open KeyedMap

/-- The three tables describe the connections of `pending`. -/
structure Tables (pending : Finset Nat) (s : PendingState) : Prop where
  nonempty : ∀ key queue, s.bySession.lookup key = some queue → queue ≠ []
  node : ∀ key n, n ∈ s.queue key → ∃ object, s.objects.lookup n.connection = some object ∧
    object.sessionKey = key ∧ s.positions.lookup n.connection = some n.node
  nodup : ∀ key, (s.queue key).Nodup
  position : ∀ c node, s.positions.lookup c = some node → c ∈ pending ∧ node < s.nextNode
  inj : ∀ c c' node, s.positions.lookup c = some node → s.positions.lookup c' = some node → c = c'
  member : ∀ c ∈ pending, ∃ object node, s.objects.lookup c = some object ∧
    s.positions.lookup c = some node ∧ ⟨node, c⟩ ∈ s.queue object.sessionKey
  unfinished : ∀ c object, s.objects.lookup c = some object →
    (object.finished = false ↔ c ∈ pending)

/-- Everything `finish` does to an object that waits. -/
structure Finished (s : PendingState) (c : Nat) (object : PendingPublicConnection)
    (s' : PendingState) : Prop where
  objects : s'.objects = s.objects.insert c { object with finished := true }
  pendingConnections : s'.pendingConnections = s.pendingConnections.erase c
  positions : s'.positions = s.positions.erase c
  queue : ∀ key, s'.queue key = (s.queue key).filter fun n => n.connection ≠ c
  nonempty : ∀ key queue, s'.bySession.lookup key = some queue → queue ≠ []
  frame : s' = { s with
    objects := s'.objects
    pendingConnections := s'.pendingConnections
    positions := s'.positions
    bySession := s'.bySession }

section Queues

variable {s : PendingState} {ps : Finset Nat} {c : Nat} {obj : PendingPublicConnection}

theorem queue_setQueue (s : PendingState) (key other : Bytes) (queue : List QueueNode) :
    (s.setQueue key queue).queue other = if other = key then queue else s.queue other := by
  unfold PendingState.queue setQueue
  split
  · next he =>
    rw [lookup_erase_eq_ite]
    split
    · exact he.symm
    · rfl
  · rw [lookup_insert_eq_ite]
    split <;> rfl

theorem nonempty_setQueue (key : Bytes) (queue : List QueueNode)
    (h : ∀ key queue, s.bySession.lookup key = some queue → queue ≠ []) :
    ∀ other queue', (s.setQueue key queue).bySession.lookup other = some queue' → queue' ≠ [] := by
  intro other queue' hl
  unfold setQueue at hl
  split at hl
  · rw [lookup_erase_eq_ite] at hl
    split at hl
    · cases hl
    · exact h other queue' hl
  · next hne =>
    rw [lookup_insert_eq_ite] at hl
    split at hl
    · cases hl
      exact hne
    · exact h other queue' hl

variable {key : Bytes} {s' : PendingState}

theorem queue_eq_of_lookup {queue : List QueueNode} (h : s.bySession.lookup key = some queue) :
    s.queue key = queue := by
  simp [PendingState.queue, h]

theorem lookup_of_mem_queue {n : QueueNode} (h : n ∈ s.queue key) :
    s.bySession.lookup key = some (s.queue key) := by
  unfold PendingState.queue at h ⊢
  cases hl : s.bySession.lookup key with
  | none => simp [hl] at h
  | some queue => rfl

/-- A node of a queue is the position of its connection, so dropping the position drops
the connection. -/
theorem Tables.filter_node (h : Tables ps s) {node : Nat}
    (hpos : s.positions.lookup c = some node) (key : Bytes) :
    ((s.queue key).filter fun n => n.node ≠ node) =
      (s.queue key).filter fun n => n.connection ≠ c := by
  refine List.filter_congr fun n hn => ?_
  obtain ⟨obj, -, -, hnd⟩ := h.node key n hn
  rw [decide_eq_decide, not_iff_not]
  constructor
  · intro heq
    rw [heq] at hnd
    exact h.inj _ _ node hnd hpos
  · intro heq
    rw [heq, hpos] at hnd
    exact (Option.some.inj hnd).symm

theorem Tables.filter_other (h : Tables ps s) (ho : s.objects.lookup c = some obj)
    (hkey : key ≠ obj.sessionKey) :
    ((s.queue key).filter fun n => n.connection ≠ c) = s.queue key := by
  refine List.filter_eq_self.2 fun n hn => ?_
  obtain ⟨obj', ho', hkey', -⟩ := h.node key n hn
  rw [decide_eq_true_eq]
  intro heq
  rw [heq, ho] at ho'
  cases ho'
  exact hkey hkey'.symm

theorem Tables.finished (h : Tables ps s) (hc : c ∈ ps)
    (ho : s.objects.lookup c = some obj) : Finished s c obj (s.finish c obj) := by
  obtain ⟨obj', node, ho', hpos, hmem⟩ := h.member c hc
  rw [ho] at ho'
  cases ho'
  have hu : obj.finished = false := (h.unfinished c obj ho).2 hc
  have hq := lookup_of_mem_queue hmem
  have hfin : s.finish c obj =
      { ({ s with
          objects := s.objects.insert c { obj with finished := true }
          positions := s.positions.erase c }.setQueue obj.sessionKey
          ((s.queue obj.sessionKey).filter fun n => n.node ≠ node)) with
        pendingConnections := s.pendingConnections.erase c } := by
    simp only [finish, hu, pendingConnectionFinished, hq, hpos]
    rfl
  rw [hfin]
  refine ⟨rfl, rfl, rfl, ?_, ?_, rfl⟩
  · intro key
    have hset := queue_setQueue { s with
        positions := s.positions.erase c } obj.sessionKey key
      ((s.queue obj.sessionKey).filter fun n => n.node ≠ node)
    refine Eq.trans hset ?_
    split
    · next hkey => rw [hkey, h.filter_node hpos]
    · next hkey => exact (h.filter_other ho hkey).symm
  · exact nonempty_setQueue (s := { s with
        positions := s.positions.erase c }) _ _ h.nonempty

theorem Tables.finish (h : Tables ps s) (hs' : Finished s c obj s') :
    Tables (ps.erase c) s' where
  nonempty := hs'.nonempty
  node := by
    intro key n hn
    rw [hs'.queue, List.mem_filter, decide_eq_true_eq] at hn
    obtain ⟨obj', ho', hkey, hpos⟩ := h.node key n hn.1
    refine ⟨obj', ?_, hkey, ?_⟩
    · rw [hs'.objects, lookup_insert_eq_ite, if_neg hn.2]
      exact ho'
    · rw [hs'.positions, lookup_erase_eq_ite, if_neg hn.2]
      exact hpos
  nodup := by
    intro key
    rw [hs'.queue]
    exact (h.nodup key).filter _
  position := by
    intro c' node hnd
    rw [hs'.positions, lookup_erase_eq_ite] at hnd
    split at hnd
    · cases hnd
    · next hne =>
      obtain ⟨hmem, hlt⟩ := h.position c' node hnd
      refine ⟨Finset.mem_erase.2 ⟨hne, hmem⟩, ?_⟩
      rw [hs'.frame]
      exact hlt
  inj := by
    intro c₁ c₂ node h₁ h₂
    rw [hs'.positions, lookup_erase_eq_ite] at h₁ h₂
    split at h₁
    · cases h₁
    · split at h₂
      · cases h₂
      · exact h.inj c₁ c₂ node h₁ h₂
  member := by
    intro c' hc'
    obtain ⟨hne, hmem⟩ := Finset.mem_erase.1 hc'
    obtain ⟨obj', node, ho', hpos, hq⟩ := h.member c' hmem
    refine ⟨obj', node, ?_, ?_, ?_⟩
    · rw [hs'.objects, lookup_insert_eq_ite, if_neg hne]
      exact ho'
    · rw [hs'.positions, lookup_erase_eq_ite, if_neg hne]
      exact hpos
    · rw [hs'.queue, List.mem_filter]
      exact ⟨hq, decide_eq_true hne⟩
  unfinished := by
    intro c' obj' ho'
    rw [hs'.objects, lookup_insert_eq_ite] at ho'
    split at ho'
    · next heq =>
      cases ho'
      simp [heq]
    · next hne =>
      rw [h.unfinished c' obj' ho', Finset.mem_erase]
      exact ⟨fun hmem => ⟨hne, hmem⟩, fun hmem => hmem.2⟩

theorem queue_enqueue (s : PendingState) (c : Nat) (obj : PendingPublicConnection) (key : Bytes) :
    (s.enqueue c obj).queue key =
      s.queue key ++ if obj.sessionKey = key then [⟨s.nextNode, c⟩] else [] := by
  unfold PendingState.queue enqueue
  rw [lookup_insert_eq_ite]
  by_cases hkey : obj.sessionKey = key
  · rw [if_pos hkey.symm, if_pos hkey, hkey]
    rfl
  · rw [if_neg (Ne.symm hkey), if_neg hkey, List.append_nil]

theorem objects_enqueue (s : PendingState) (c c' : Nat) (obj : PendingPublicConnection) :
    (s.enqueue c obj).objects.lookup c' =
      if c' = c then some obj else s.objects.lookup c' :=
  lookup_insert_eq_ite ..

theorem positions_enqueue (s : PendingState) (c c' : Nat) (obj : PendingPublicConnection) :
    (s.enqueue c obj).positions.lookup c' =
      if c' = c then some s.nextNode else s.positions.lookup c' :=
  lookup_insert_eq_ite ..

theorem Tables.ne_of_position (h : Tables ps s) (hnew : s.objects.lookup c = none)
    {c' node : Nat} (hn : s.positions.lookup c' = some node) : c' ≠ c := by
  rintro rfl
  obtain ⟨obj, -, ho, -⟩ := h.member _ (h.position _ node hn).1
  rw [hnew] at ho
  cases ho

theorem Tables.enqueue (h : Tables ps s) (hnew : s.objects.lookup c = none)
    (hu : obj.finished = false) :
    Tables (insert c ps) (s.enqueue c obj) where
  nonempty := by
    intro key queue hl
    rw [PendingState.enqueue, lookup_insert_eq_ite] at hl
    split at hl
    · cases hl
      simp
    · exact h.nonempty key queue hl
  node := by
    intro key n hn
    rw [objects_enqueue, positions_enqueue]
    rw [queue_enqueue, List.mem_append] at hn
    rcases hn with hold | hnew'
    · obtain ⟨obj', ho', hkey, hnd⟩ := h.node key n hold
      have hne := h.ne_of_position hnew hnd
      exact ⟨obj', by rw [if_neg hne, ho'], hkey, by rw [if_neg hne, hnd]⟩
    · split at hnew'
      · next hkey =>
        rw [List.mem_singleton] at hnew'
        subst hnew'
        exact ⟨obj, if_pos rfl, hkey, if_pos rfl⟩
      · cases hnew'
  nodup := by
    intro key
    rw [queue_enqueue]
    split
    · refine (h.nodup key).append (List.nodup_singleton _) ?_
      intro n hn hla
      rw [List.mem_singleton] at hla
      subst hla
      obtain ⟨-, -, -, hnd⟩ := h.node _ _ hn
      exact h.ne_of_position hnew hnd rfl
    · rw [List.append_nil]
      exact h.nodup key
  position := by
    intro c' node hnd
    rw [positions_enqueue] at hnd
    split at hnd
    · next heq =>
      cases hnd
      exact ⟨Finset.mem_insert.2 (.inl heq), Nat.lt_succ_self _⟩
    · obtain ⟨hmem, hlt⟩ := h.position c' node hnd
      exact ⟨Finset.mem_insert_of_mem hmem, Nat.lt_succ_of_lt hlt⟩
  inj := by
    intro c₁ c₂ node h₁ h₂
    rw [positions_enqueue] at h₁ h₂
    -- the new position is above all others
    split at h₁ <;> split at h₂
    · next hc₁ hc₂ => rw [hc₁, hc₂]
    · have hlt := (h.position c₂ node h₂).2
      cases h₁
      omega
    · have hlt := (h.position c₁ node h₁).2
      cases h₂
      omega
    · exact h.inj c₁ c₂ node h₁ h₂
  member := by
    intro c' hc'
    rw [objects_enqueue, positions_enqueue]
    by_cases hne : c' = c
    · subst hne
      refine ⟨obj, s.nextNode, if_pos rfl, if_pos rfl, ?_⟩
      rw [queue_enqueue, if_pos rfl]
      exact List.mem_append_right _ List.mem_cons_self
    · obtain ⟨obj', node, ho', hnd, hmem⟩ :=
        h.member c' ((Finset.mem_insert.1 hc').resolve_left hne)
      refine ⟨obj', node, by rw [if_neg hne, ho'], by rw [if_neg hne, hnd], ?_⟩
      rw [queue_enqueue]
      exact List.mem_append_left _ hmem
  unfinished := by
    intro c' obj' ho'
    rw [objects_enqueue] at ho'
    split at ho'
    · next heq =>
      cases ho'
      simp [heq, hu]
    · next hne =>
      rw [h.unfinished c' obj' ho', Finset.mem_insert]
      exact ⟨.inr, fun hmem => hmem.resolve_left hne⟩

theorem Tables.congr (h : Tables ps s) (hbyS : s'.bySession = s.bySession)
    (hpos : s'.positions = s.positions) (hnx : s'.nextNode = s.nextNode)
    (hobj : ∀ c, (s'.objects.lookup c).map (fun o => (o.sessionKey, o.finished)) =
      (s.objects.lookup c).map fun o => (o.sessionKey, o.finished)) : Tables ps s' := by
  have hq : ∀ key, s'.queue key = s.queue key := fun key => by
    rw [PendingState.queue, hbyS, PendingState.queue]
  have hs : ∀ c obj, s.objects.lookup c = some obj →
      ∃ obj', s'.objects.lookup c = some obj' ∧ obj'.sessionKey = obj.sessionKey ∧
        obj'.finished = obj.finished := by
    intro c obj ho
    have hmap := hobj c
    rw [ho, Option.map_some, Option.map_eq_some_iff] at hmap
    obtain ⟨obj', ho', heq⟩ := hmap
    exact ⟨obj', ho', congrArg Prod.fst heq, congrArg Prod.snd heq⟩
  refine ⟨?_, ?_, ?_, ?_, ?_, ?_, ?_⟩
  · rw [hbyS]
    exact h.nonempty
  · intro key n hn
    rw [hq] at hn
    obtain ⟨obj, ho, hkey, hnd⟩ := h.node key n hn
    obtain ⟨obj', ho', hkey', -⟩ := hs _ obj ho
    exact ⟨obj', ho', hkey'.trans hkey, by rw [hpos, hnd]⟩
  · intro key
    rw [hq]
    exact h.nodup key
  · rw [hpos, hnx]
    exact h.position
  · rw [hpos]
    exact h.inj
  · intro c hc
    obtain ⟨obj, node, ho, hnd, hmem⟩ := h.member c hc
    obtain ⟨obj', ho', hkey, -⟩ := hs c obj ho
    exact ⟨obj', node, ho', by rw [hpos, hnd], by rw [hq, hkey]; exact hmem⟩
  · intro c obj' ho'
    have hmap := hobj c
    rw [ho', Option.map_some, eq_comm, Option.map_eq_some_iff] at hmap
    obtain ⟨obj, ho, heq⟩ := hmap
    have hfin : obj.finished = obj'.finished := congrArg Prod.snd heq
    rw [← hfin]
    exact h.unfinished c obj ho

theorem Tables.dropLease (h : Tables ps s) (ho : s.objects.lookup c = some obj)
    (hbyS : s'.bySession = s.bySession) (hpos : s'.positions = s.positions)
    (hn : s'.nextNode = s.nextNode)
    (hobj : s'.objects = s.objects.insert c { obj with lease := none }) :
    Tables ps s' := by
  refine h.congr hbyS hpos hn fun c' => ?_
  rw [hobj, lookup_insert_eq_ite]
  split
  · next heq =>
    rw [heq, ho]
    rfl
  · rfl

end Queues

/-! ## Arrival order -/

/-- The connections of a session in a history. -/
def names (key : Bytes) (history : List (Nat × TunnelBinding)) : List Nat :=
  (history.filter fun p =>
    pendingSessionKey p.2.clientId p.2.sessionGeneration = key).map Prod.fst

/-- What was handed out, followed by what waits, is in the order of arrival. -/
def Ordered (s : PendingState) : Prop :=
  ∀ key, (names key s.handed ++ (s.queue key).map QueueNode.connection).Sublist
    (names key s.arrivals)

section Order

variable {s s' : PendingState} {c : Nat} {obj : PendingPublicConnection}

theorem names_append (key : Bytes) (history : List (Nat × TunnelBinding)) (c : Nat)
    (obj : PendingPublicConnection) :
    names key (history ++ [(c, obj.binding)]) =
      names key history ++ if obj.sessionKey = key then [c] else [] := by
  unfold names PendingPublicConnection.sessionKey
  split
  · next h => simp [h]
  · next h => simp [h]

theorem Ordered.finish (h : Ordered s) (hs' : Finished s c obj s') : Ordered s' := by
  intro key
  rw [hs'.queue, hs'.frame]
  exact ((List.Sublist.refl _).append (List.filter_sublist.map _)).trans (h key)

theorem Ordered.handOver (h : Ordered s) {front : QueueNode} {rest : List QueueNode}
    {wid : Bytes} {obj' : PendingPublicConnection}
    (hq : s.queue obj.sessionKey = front :: rest)
    (hs' : Finished (s.handOver front.connection obj wid) front.connection obj' s') :
    Ordered s' := by
  intro key
  have hold := h key
  have hh : s'.handed = s.handed ++ [(front.connection, obj.binding)] :=
    congrArg PendingState.handed hs'.frame
  have ha : s'.arrivals = s.arrivals := by
    rw [hs'.frame]
    rfl
  have hnew : s'.queue key = (s.queue key).filter fun n => n.connection ≠ front.connection :=
    hs'.queue key
  rw [hnew, hh, names_append, ha]
  by_cases hkey : obj.sessionKey = key
  · subst hkey
    rw [hq] at hold ⊢
    rw [if_pos rfl, List.append_assoc]
    refine List.Sublist.trans ((List.Sublist.refl _).append ?_) hold
    rw [List.filter_cons_of_neg (by simp)]
    exact (List.filter_sublist.map _).cons_cons _
  · rw [if_neg hkey, List.append_nil]
    exact ((List.Sublist.refl _).append (List.filter_sublist.map _)).trans hold

theorem Ordered.enqueue (h : Ordered s) : Ordered (s.enqueue c obj) := by
  intro key
  have ha : (s.enqueue c obj).arrivals = s.arrivals ++ [(c, obj.binding)] := rfl
  rw [queue_enqueue, ha, names_append, List.map_append, ← List.append_assoc]
  refine (h key).append ?_
  split <;> exact List.Sublist.refl _

end Order

end MiniTun.Server.PendingState
