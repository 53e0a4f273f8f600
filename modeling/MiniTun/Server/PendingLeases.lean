import MiniTun.Server.PendingBookkeeping

/-!
# The leases of public connections

A lease is taken when a connection is admitted.  It moves from the object that waits to the
worker that takes the connection, and whoever has it last gives the slot back to the
quota.  The quota's counts are the leases that are held, so no release finds a count at
zero.
-/

namespace MiniTun.Server.PendingState

open KeyedMap

/-- Every connection's lease is in one place. -/
structure Leased (s : PendingState) : Prop where
  /-- The object has the lease, or a worker has it, or it was released, once. -/
  holder : ∀ c object, s.objects.lookup c = some object →
    object.lease.isSome.toNat + (s.workerLeases.lookup c).isSome.toNat + s.released.count c = 1
  unknown : ∀ c, s.objects.lookup c = none →
    s.workerLeases.lookup c = none ∧ s.released.count c = 0
  client : ∀ clientId, s.quota.clientInUse clientId =
    countIf (fun o => o.lease = some clientId) s.objects +
      countIf (fun holder => holder = clientId) s.workerLeases
  total : s.quota.total =
    countIf (fun o => o.lease.isSome) s.objects + size s.workerLeases

section Leases

variable {s s' : PendingState} {c : Nat} {obj : PendingPublicConnection} {cid : Bytes}

theorem countIf_lease {objs : Map Nat PendingPublicConnection}
    (ho : objs.lookup c = some obj) (test : Lease → Bool)
    (obj' : PendingPublicConnection) :
    countIf (fun o => test o.lease) (objs.insert c obj') + (test obj.lease).toNat =
      countIf (fun o => test o.lease) objs + (test obj'.lease).toNat := by
  have hi := countIf_insert (fun o => test o.lease) objs c obj'
  rw [ho] at hi
  exact hi

theorem size_insert_of_new {leases : Map Nat Bytes} (hnew : leases.lookup c = none) :
    size (leases.insert c cid) = size leases + 1 := by
  have hi := countIf_insert (fun _ => true) leases c cid
  rw [hnew] at hi
  simpa [countIf, size] using hi

theorem size_erase_of_some {leases : Map Nat Bytes} (h : leases.lookup c = some cid) :
    size (leases.erase c) + 1 = size leases := by
  have he := countIf_erase (fun _ => true) leases c
  rw [h] at he
  simpa [countIf, size] using he

theorem Leased.change (h : Leased s) {obj' : PendingPublicConnection}
    (ho' : s'.objects.lookup c = some obj')
    (hobj : ∀ c', c' ≠ c → s'.objects.lookup c' = s.objects.lookup c')
    (hl : ∀ c', c' ≠ c → s'.workerLeases.lookup c' = s.workerLeases.lookup c')
    (hr : ∀ c', c' ≠ c → s'.released.count c' = s.released.count c')
    (hh : obj'.lease.isSome.toNat + (s'.workerLeases.lookup c).isSome.toNat +
      s'.released.count c = 1)
    (hc : ∀ cid, s'.quota.clientInUse cid =
      countIf (fun o => o.lease = some cid) s'.objects +
        countIf (fun holder => holder = cid) s'.workerLeases)
    (ht : s'.quota.total =
      countIf (fun o => o.lease.isSome) s'.objects + size s'.workerLeases) : Leased s' := by
  refine ⟨?_, ?_, hc, ht⟩
  · intro c' found hf
    by_cases hne : c' = c
    · subst hne
      rw [ho'] at hf
      cases hf
      exact hh
    · rw [hobj c' hne] at hf
      rw [hl c' hne, hr c' hne]
      exact h.holder c' found hf
  · intro c' hno
    have hne : c' ≠ c := by
      rintro rfl
      rw [ho'] at hno
      cases hno
    rw [hobj c' hne] at hno
    rw [hl c' hne, hr c' hne]
    exact h.unknown c' hno

theorem Leased.finish (h : Leased s) (ho : s.objects.lookup c = some obj)
    (hs' : Finished s c obj s') : Leased s' := by
  have hq : s'.quota = s.quota := by rw [hs'.frame]
  have hl : s'.workerLeases = s.workerLeases := by rw [hs'.frame]
  have hr : s'.released = s.released := by rw [hs'.frame]
  have hc : ∀ test : Lease → Bool, countIf (fun o => test o.lease) s'.objects =
      countIf (fun o => test o.lease) s.objects := by
    intro test
    rw [hs'.objects]
    exact Nat.add_right_cancel (countIf_lease ho test { obj with finished := true })
  have ho' : s'.objects.lookup c = some { obj with finished := true } := by
    rw [hs'.objects]
    exact AList.lookup_insert _
  refine h.change ho' ?_ ?_ ?_ ?_ ?_ ?_
  · intro c' hne
    rw [hs'.objects, lookup_insert_eq_ite, if_neg hne]
  · exact fun c' _ => by rw [hl]
  · exact fun c' _ => by rw [hr]
  · rw [hl, hr]
    exact h.holder c obj ho
  · intro cid
    rw [hq, hl, hc fun lease => lease = some cid]
    exact h.client cid
  · rw [hq, hl, hc Option.isSome]
    exact h.total

theorem Leased.handOver (h : Leased s) (ho : s.objects.lookup c = some obj)
    (hl : obj.lease = some cid) (wid : Bytes) :
    Leased (s.handOver c obj wid) := by
  have hls : (s.handOver c obj wid).workerLeases =
      s.workerLeases.insert c cid := by
    simp [PendingState.handOver, hl]
  have hc : ∀ test : Lease → Bool,
      countIf (fun o => test o.lease) (s.handOver c obj wid).objects + (test obj.lease).toNat =
      countIf (fun o => test o.lease) s.objects + (test none).toNat :=
    fun test => countIf_lease ho test { obj with lease := none }
  have hh := h.holder c obj ho
  have hnew : s.workerLeases.lookup c = none := by
    cases hw : s.workerLeases.lookup c with
    | none => rfl
    | some holder =>
      rw [hl, hw, Option.isSome_some, Option.isSome_some, Bool.toNat_true] at hh
      omega
  have ho' : (s.handOver c obj wid).objects.lookup c =
      some { obj with lease := none } := AList.lookup_insert _
  refine h.change ho' ?_ ?_ ?_ ?_ ?_ ?_
  · exact fun c' hne => (lookup_insert_eq_ite ..).trans (if_neg hne)
  · intro c' hne
    rw [hls, lookup_insert_eq_ite, if_neg hne]
  · exact fun c' _ => rfl
  · rw [hl, hnew] at hh
    rw [hls, AList.lookup_insert]
    exact hh
  · intro other
    have hobj := hc fun lease => lease = some other
    have hwr := countIf_insert (fun holder => decide (holder = other)) s.workerLeases c cid
    have hold := h.client other
    simp only [hl, hnew, Option.some.injEq, Option.any_none, reduceCtorEq,
      decide_false] at hobj hwr
    rw [hls]
    change s.quota.clientInUse other = _
    omega
  · have hobj := hc Option.isSome
    have hold := h.total
    simp only [hl, Option.isSome_some, Option.isSome_none, Bool.toNat_true,
      Bool.toNat_false] at hobj
    rw [hls, size_insert_of_new hnew]
    change s.quota.total = _
    omega

theorem Leased.release (h : Leased s) (cid : Bytes)
    (objs : Map Nat PendingPublicConnection) (leases : Map Nat Bytes)
    (hc : ∀ other, countIf (fun o => o.lease = some other) objs +
      countIf (fun holder => holder = other) leases + (decide (other = cid)).toNat =
      countIf (fun o => o.lease = some other) s.objects +
        countIf (fun holder => holder = other) s.workerLeases)
    (ht : countIf (fun o => o.lease.isSome) objs + size leases + 1 =
      countIf (fun o => o.lease.isSome) s.objects + size s.workerLeases) :
    (∀ other, (s.quota.release cid).clientInUse other =
      countIf (fun o => o.lease = some other) objs +
        countIf (fun holder => holder = other) leases) ∧
      (s.quota.release cid).total =
        countIf (fun o => o.lease.isSome) objs + size leases := by
  have hused : 0 < s.quota.clientInUse cid := by
    have hself := hc cid
    rw [← h.client cid, decide_eq_true rfl, Bool.toNat_true] at hself
    omega
  rw [← h.total] at ht
  obtain ⟨ht', hc'⟩ := ConnectionQuota.release_spec hused (by omega)
  refine ⟨fun other => ?_, by omega⟩
  have ho := hc other
  have ho' := hc' other
  rw [← h.client other] at ho
  omega

theorem Leased.destroy (h : Leased s) (c : Nat) : Leased (s.destroy c) := by
  unfold PendingState.destroy
  split
  · exact h
  next obj ho =>
  split
  · exact h
  next cid hl =>
  have hh := h.holder c obj ho
  have hobj := fun test : Lease → Bool =>
    countIf_lease ho test { obj with lease := none }
  have hq := h.release cid (s.objects.insert c { obj with lease := none }) s.workerLeases
    (fun other => by
      have hc := hobj fun lease => lease = some other
      simp only [hl, Option.some.injEq, reduceCtorEq, decide_false, Bool.toNat_false] at hc
      rw [decide_eq_decide.2 (@eq_comm _ other cid)]
      omega)
    (by
      have hc := hobj Option.isSome
      simp only [hl, Option.isSome_some, Option.isSome_none, Bool.toNat_true,
        Bool.toNat_false] at hc
      omega)
  refine h.change (AList.lookup_insert _) ?_ (fun c' _ => rfl) ?_ ?_ hq.1 hq.2
  · exact fun c' hne => (lookup_insert_eq_ite ..).trans (if_neg hne)
  · intro c' hne
    simp [PendingState.release, Ne.symm hne]
  · simp only [hl, Option.isSome_some, Bool.toNat_true] at hh
    simp only [PendingState.release, List.count_append, List.count_singleton_self,
      Option.isSome_none, Bool.toNat_false]
    omega

theorem Leased.workerDone (h : Leased s) (c : Nat) : Leased (s.workerDone c) := by
  unfold PendingState.workerDone
  split
  · exact h
  next cid hw =>
  have hq := h.release cid s.objects (s.workerLeases.erase c) (fun other => by
      have hc := countIf_erase (fun holder => decide (holder = other)) s.workerLeases c
      rw [hw, Option.any_some] at hc
      rw [decide_eq_decide.2 (@eq_comm _ other cid)]
      omega)
    (by
      have hs := size_erase_of_some hw
      omega)
  cases ho : s.objects.lookup c with
  | none => exact absurd hw (by simp [(h.unknown c ho).1])
  | some obj =>
    have hh := h.holder c obj ho
    rw [hw, Option.isSome_some, Bool.toNat_true] at hh
    refine h.change ho (fun c' _ => rfl) ?_ ?_ ?_ hq.1 hq.2
    · exact fun c' hne => (lookup_erase_eq_ite ..).trans (if_neg hne)
    · intro c' hne
      simp [PendingState.release, Ne.symm hne]
    · simp only [PendingState.release, List.count_append, List.count_singleton_self,
        AList.lookup_erase, Option.isSome_none, Bool.toNat_false]
      omega

theorem Leased.admit (h : Leased s) (hnew : s.objects.lookup c = none)
    {quota : ConnectionQuota} (ht : quota.total = s.quota.total + 1)
    (hcl : ∀ other, quota.clientInUse other =
      s.quota.clientInUse other + (decide (other = cid)).toNat)
    (hl : obj.lease = some cid) :
    Leased ({ s with quota := quota }.enqueue c obj) := by
  obtain ⟨hw, hr⟩ := h.unknown c hnew
  have hobj : ∀ test : Lease → Bool,
      countIf (fun o => test o.lease) (s.objects.insert c obj) =
        countIf (fun o => test o.lease) s.objects + (test obj.lease).toNat := by
    intro test
    have hi := countIf_insert (fun o => test o.lease) s.objects c obj
    rw [hnew] at hi
    exact hi
  refine h.change (AList.lookup_insert _) ?_ (fun c' _ => rfl) (fun c' _ => rfl) ?_ ?_ ?_
  · exact fun c' hne => (lookup_insert_eq_ite ..).trans (if_neg hne)
  · change obj.lease.isSome.toNat + (s.workerLeases.lookup c).isSome.toNat + s.released.count c = 1
    rw [hl, hw, hr]
    rfl
  · intro other
    have hc := hobj fun lease => lease = some other
    have hold := h.client other
    have hq := hcl other
    simp only [hl, Option.some.injEq] at hc
    rw [decide_eq_decide.2 (@eq_comm _ other cid)] at hq
    change quota.clientInUse other = countIf _ (s.objects.insert c obj) + _
    change quota.clientInUse other = _ + countIf _ s.workerLeases
    omega
  · have hc := hobj Option.isSome
    have hold := h.total
    rw [hl, Option.isSome_some, Bool.toNat_true] at hc
    change quota.total = countIf _ (s.objects.insert c obj) + size s.workerLeases
    omega

end Leases

end MiniTun.Server.PendingState
