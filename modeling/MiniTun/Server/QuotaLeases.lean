import MiniTun.Lib.TransitionSystem
import MiniTun.Server.ConnectionQuota

/-!
# Leases of the connection quota

A `Lease` is a handle that can be moved but not copied.  Here a program makes handles, moves
and assigns them and lets them go, in any order, and acquires leases of any clients with
any limits in between; the counts of the quota are compared with the handles it has.

The acquisitions are numbered in the model.  A handle holds the number it was acquired
with, so that it can be said of each acquisition how often it was given back.
-/

namespace MiniTun.Server

open KeyedMap TransitionSystem

/-- What a `Lease` holds whose `implementation_` is not null. -/
structure HeldLease where
  clientId : Bytes
  ticket : Nat
deriving DecidableEq

/-- The quota and the `Lease` objects there are.  `acquired`, `released` and `limits` are the
history: how many acquisitions there were, which were given back, and the limit that
was passed to the last one of each client. -/
structure QuotaState where
  quota : ConnectionQuota
  handles : Map Nat (Option HeldLease)
  acquired : Nat
  released : List Nat
  limits : Map Bytes Nat

/-- What a program does with handles; the numbers name them. -/
inductive LeaseEvent where
  | construct (handle : Nat)
  /-- `try_acquire`, without a limit or with one. -/
  | acquire (handle : Nat) (clientId : Bytes) (maxForClient : Option Nat)
  | moveConstruct (target source : Nat)
  | moveAssign (target source : Nat)
  | release (handle : Nat)
  | destroy (handle : Nat)

namespace QuotaState

def initial (maxPerClient maxTotal : Nat) : QuotaState :=
  ⟨.empty maxPerClient maxTotal, ∅, 0, [], ∅⟩

/-- `Lease::release`, but for the object itself, which is empty afterwards. -/
def letGo (s : QuotaState) : Option HeldLease → QuotaState
  | none => s
  | some held =>
    { s with
      quota := s.quota.release held.clientId
      released := s.released ++ [held.ticket] }

def put (s : QuotaState) (handle : Nat) (content : Option HeldLease) : QuotaState :=
  { s with handles := s.handles.insert handle content }

def tryAcquire (s : QuotaState) (handle : Nat) (clientId : Bytes) (maxForClient : Nat) :
    QuotaState :=
  match s.quota.tryAcquire clientId maxForClient with
  | (.error _, quota) => { s with quota := quota }
  | (.ok lease, quota) =>
    { s with
      quota := quota
      handles := s.handles.insert handle (lease.map fun clientId => ⟨clientId, s.acquired⟩)
      acquired := s.acquired + 1
      limits := s.limits.insert clientId maxForClient }

/-- The source of a move is left empty. -/
def step (s : QuotaState) : LeaseEvent → QuotaState
  | .construct handle =>
    match s.handles.lookup handle with
    | some _ => s
    | none => s.put handle none
  | .acquire handle clientId maxForClient =>
    match s.handles.lookup handle with
    | some _ => s
    | none => s.tryAcquire handle clientId (maxForClient.getD s.quota.maxPerClient)
  | .moveConstruct target source =>
    match s.handles.lookup target, s.handles.lookup source with
    | none, some content => (s.put source none).put target content
    | _, _ => s
  | .moveAssign target source =>
    match s.handles.lookup target, s.handles.lookup source with
    | some old, some content =>
      if target = source then s else ((s.letGo old).put source none).put target content
    | _, _ => s
  | .release handle =>
    match s.handles.lookup handle with
    | none => s
    | some content => (s.letGo content).put handle none
  | .destroy handle =>
    match s.handles.lookup handle with
    | none => s
    | some content =>
      { s.letGo content with handles := (s.letGo content).handles.erase handle }

/-- The number of objects that hold a lease of which the test is true. -/
def held (s : QuotaState) (test : HeldLease → Bool) : Nat :=
  countIf (fun content => content.any test) s.handles

/-- The counts agree with the handles. -/
structure Exact (s : QuotaState) : Prop where
  total_sum : s.quota.total = sumBy id s.quota.clients
  total_held : s.quota.total = s.held fun _ => true
  client_held : ∀ clientId, s.quota.clientInUse clientId = s.held (·.clientId = clientId)
  /-- A client has an entry exactly as long as one of its leases is held. -/
  entry_iff : ∀ clientId, (s.quota.clients.lookup clientId).isSome = true ↔
    ∃ handle holding, s.handles.lookup handle = some (some holding) ∧ holding.clientId = clientId
  limited : ∀ clientId, s.quota.clientInUse clientId ≤
    min ((s.limits.lookup clientId).getD 0) s.quota.maxPerClient
  total_le : s.quota.total ≤ s.quota.maxTotal
  /-- Each acquisition is held by one handle or has been given back once, never both. -/
  once : ∀ ticket, s.held (·.ticket = ticket) + s.released.count ticket =
    if ticket < s.acquired then 1 else 0
  /-- The early return of `Impl::release` is out of reach of a handle. -/
  effective : ∀ handle holding, s.handles.lookup handle = some (some holding) →
    0 < s.quota.total ∧ ∃ count, s.quota.clients.lookup holding.clientId = some count ∧ 0 < count

/-- The counts are those of the handles, within their limits. -/
structure Invariant (s : QuotaState) : Prop where
  balanced : s.quota.Balanced
  total_held : s.quota.total = s.held fun _ => true
  client_held : ∀ clientId, s.quota.clientInUse clientId = s.held (·.clientId = clientId)
  limited : ∀ clientId, s.quota.clientInUse clientId ≤
    min ((s.limits.lookup clientId).getD 0) s.quota.maxPerClient
  once : ∀ ticket, s.held (·.ticket = ticket) + s.released.count ticket =
    if ticket < s.acquired then 1 else 0

variable {s : QuotaState}

section Held

theorem held_put (s : QuotaState) (handle : Nat) (content : Option HeldLease)
    (test : HeldLease → Bool) :
    (s.put handle content).held test + ((s.handles.lookup handle).any (·.any test)).toNat =
      s.held test + (content.any test).toNat :=
  countIf_insert _ _ _ _

@[simp] theorem handles_letGo (s : QuotaState) (content : Option HeldLease) :
    (s.letGo content).handles = s.handles := by
  cases content with
  | none => rfl
  | some holding => rfl

/-- Taking the content of one object into another leaves the number of holders, but for what
the target held before. -/
theorem held_move {tgt src : Nat} (hne : tgt ≠ src) {content : Option HeldLease}
    (hs : s.handles.lookup src = some content) (test : HeldLease → Bool) :
    ((s.put src none).put tgt content).held test +
        ((s.handles.lookup tgt).any (·.any test)).toNat = s.held test := by
  have ht := held_put (s.put src none) tgt content test
  have he := held_put s src none test
  have hl : (s.put src none).handles.lookup tgt = s.handles.lookup tgt := by
    unfold put
    rw [lookup_insert_eq_ite, if_neg hne]
  rw [hl] at ht
  rw [hs] at he
  simp only [Option.any_some, Option.any_none, Bool.toNat_false] at he
  omega

theorem held_pos {handle : Nat} {holding : HeldLease} {test : HeldLease → Bool}
    (h : s.handles.lookup handle = some (some holding)) (htest : test holding = true) :
    0 < s.held test := by
  have he := countIf_erase (fun content => content.any test) s.handles handle
  rw [h] at he
  simp only [Option.any_some, htest, Bool.toNat_true] at he
  unfold held
  omega

theorem exists_of_held_pos {test : HeldLease → Bool} (h : 0 < s.held test) :
    ∃ handle holding, s.handles.lookup handle = some (some holding) ∧ test holding = true := by
  by_contra hno
  have hz : s.held test = 0 := by
    unfold held
    rw [countIf_eq_zero]
    intro handle content hl
    cases content with
    | none => rfl
    | some holding =>
      rw [Bool.eq_false_iff]
      intro htest
      exact hno ⟨handle, holding, hl, htest⟩
  omega

end Held

theorem invariant_initial (lim maxTotal : Nat) :
    (initial lim maxTotal).Invariant where
  balanced := ConnectionQuota.balanced_empty lim maxTotal
  total_held := rfl
  client_held := fun _ => rfl
  limited := fun _ => Nat.zero_le _
  once := fun _ => rfl

theorem Invariant.put (h : s.Invariant) (handles : Map Nat (Option HeldLease))
    (hh : ∀ test, { s with handles := handles }.held test = s.held test) :
    { s with handles := handles }.Invariant where
  balanced := h.balanced
  total_held := by
    rw [hh]
    exact h.total_held
  client_held := by
    intro cid
    rw [hh]
    exact h.client_held cid
  limited := h.limited
  once := by
    intro ticket
    rw [hh]
    exact h.once ticket

theorem Invariant.letGo (h : s.Invariant) (content : Option HeldLease)
    (handles : Map Nat (Option HeldLease))
    (hh : ∀ test, { s with handles := handles }.held test + (content.any test).toNat =
      s.held test) :
    { s.letGo content with handles := handles }.Invariant := by
  cases content with
  | none => exact h.put handles hh
  | some holding =>
    simp only [Option.any_some] at hh
    have ht : 0 < s.quota.total := by
      have hall := hh fun _ => true
      have hc := h.total_held
      rw [Bool.toNat_true] at hall
      omega
    have hcl : 0 < s.quota.clientInUse holding.clientId := by
      have hall := hh (·.clientId = holding.clientId)
      have hc := h.client_held holding.clientId
      simp only [decide_true, Bool.toNat_true] at hall
      omega
    obtain ⟨hr, hos⟩ := ConnectionQuota.release_spec hcl ht
    refine ⟨h.balanced.release holding.clientId, ?_, ?_, ?_, ?_⟩
    · have hall := hh fun _ => true
      have hc := h.total_held
      rw [Bool.toNat_true] at hall
      show (s.quota.release holding.clientId).total = { s with handles := handles }.held _
      omega
    · intro cid
      have hall := hh (·.clientId = cid)
      have hc := h.client_held cid
      have ho := hos cid
      rw [decide_eq_decide.mpr eq_comm] at ho
      show (s.quota.release holding.clientId).clientInUse cid =
        { s with handles := handles }.held _
      omega
    · intro cid
      have hlim := h.limited cid
      have ho := hos cid
      show (s.quota.release holding.clientId).clientInUse cid ≤
        min ((s.limits.lookup cid).getD 0) (s.quota.release holding.clientId).maxPerClient
      rw [ConnectionQuota.maxPerClient_release]
      omega
    · intro ticket
      have hall := hh (·.ticket = ticket)
      have hone := h.once ticket
      show { s with handles := handles }.held _ + (s.released ++ [holding.ticket]).count ticket =
        if ticket < s.acquired then 1 else 0
      rw [List.count_append, List.count_singleton]
      by_cases heq : holding.ticket = ticket
      · simp only [heq, decide_true, Bool.toNat_true, beq_self_eq_true, if_true] at hall ⊢
        omega
      · simp only [heq, decide_false, Bool.toNat_false, beq_eq_false_iff_ne.mpr heq] at hall ⊢
        simp only [Bool.false_eq_true, if_false]
        omega

theorem Invariant.tryAcquire (h : s.Invariant) {handle : Nat}
    (hfree : s.handles.lookup handle = none) (cid : Bytes) (lim : Nat) :
    (s.tryAcquire handle cid lim).Invariant := by
  unfold QuotaState.tryAcquire
  obtain ⟨e, he⟩ | ⟨q', hq', ht, hc⟩ :=
    ConnectionQuota.tryAcquire_cases s.quota cid lim
  · rw [he]
    exact h
  · rw [hq']
    obtain ⟨-, hmax, -, hr, heq⟩ := ConnectionQuota.tryAcquire_eq_ok hq'
    have hper : q'.maxPerClient = s.quota.maxPerClient := by rw [heq]
    have hh : ∀ test, (s.put handle (some ⟨cid, s.acquired⟩)).held test =
        s.held test + (test ⟨cid, s.acquired⟩).toNat := by
      intro test
      have hput := held_put s handle (some ⟨cid, s.acquired⟩) test
      rw [hfree] at hput
      simpa using hput
    refine ⟨h.balanced.tryAcquire hq', ?_, ?_, ?_, ?_⟩
    · have hall := hh fun _ => true
      rw [← h.total_held] at hall
      exact ht.trans hall.symm
    · intro other
      have hall := hh (·.clientId = other)
      rw [← h.client_held] at hall
      have ho := hc other
      rw [decide_eq_decide.mpr eq_comm] at ho
      exact ho.trans hall.symm
    · intro other
      show q'.clientInUse other ≤
        min (((s.limits.insert cid lim).lookup other).getD 0) q'.maxPerClient
      have ho := hc other
      have hlim := h.limited other
      rw [lookup_insert_eq_ite]
      split
      · next heq =>
        subst heq
        simp only [decide_true, Bool.toNat_true, Option.getD_some] at ho ⊢
        omega
      · next hne =>
        simp only [hne, decide_false, Bool.toNat_false] at ho
        omega
    · intro ticket
      show (s.put handle (some ⟨cid, s.acquired⟩)).held _ + s.released.count ticket =
        if ticket < s.acquired + 1 then 1 else 0
      have hone := h.once ticket
      rw [hh]
      by_cases heq : s.acquired = ticket
      · simp only [heq, Nat.lt_irrefl, if_false] at hone
        simp only [heq, decide_true, Bool.toNat_true, Nat.lt_succ_self, if_true]
        omega
      · simp only [heq, decide_false, Bool.toNat_false]
        split at hone
        · rw [if_pos (by omega)]
          omega
        · rw [if_neg (by omega)]
          omega

theorem Invariant.step (h : s.Invariant) (event : LeaseEvent) : (s.step event).Invariant := by
  cases event with
  | construct handle =>
    simp only [QuotaState.step]
    cases hl : s.handles.lookup handle with
    | some _ => exact h
    | none =>
      apply h.put
      intro test
      have hput := held_put s handle none test
      rw [hl] at hput
      exact hput
  | acquire handle cid lim =>
    simp only [QuotaState.step]
    cases hl : s.handles.lookup handle with
    | some _ => exact h
    | none => exact h.tryAcquire hl cid _
  | moveConstruct tgt src =>
    simp only [QuotaState.step]
    cases ht : s.handles.lookup tgt with
    | some _ => exact h
    | none =>
      cases hs : s.handles.lookup src with
      | none => exact h
      | some content =>
        have hne : tgt ≠ src := by
          intro heq
          rw [heq, hs] at ht
          cases ht
        apply h.put
        intro test
        have hmove := held_move hne hs test
        rw [ht] at hmove
        exact hmove
  | moveAssign tgt src =>
    simp only [QuotaState.step]
    cases ht : s.handles.lookup tgt with
    | none => exact h
    | some old =>
      cases hs : s.handles.lookup src with
      | none => exact h
      | some content =>
        simp only
        split
        · exact h
        · next hne =>
          have hk := h.letGo old ((s.handles.insert src none).insert tgt content) (by
            intro test
            have hmove := held_move hne hs test
            rw [ht] at hmove
            exact hmove)
          rw [← handles_letGo s old] at hk
          exact hk
  | release handle =>
    simp only [QuotaState.step]
    cases hl : s.handles.lookup handle with
    | none => exact h
    | some content =>
      have hk := h.letGo content (s.handles.insert handle none) (by
        intro test
        have hput := held_put s handle none test
        rw [hl] at hput
        exact hput)
      rw [← handles_letGo s content] at hk
      exact hk
  | destroy handle =>
    simp only [QuotaState.step]
    cases hl : s.handles.lookup handle with
    | none => exact h
    | some content =>
      simp only [handles_letGo]
      apply h.letGo
      intro test
      have he := countIf_erase (fun content => content.any test) s.handles handle
      rw [hl] at he
      exact he

theorem Invariant.exact (h : s.Invariant) : s.Exact where
  total_sum := h.balanced.sum_eq.symm
  total_held := h.total_held
  client_held := h.client_held
  entry_iff := by
    intro cid
    rw [h.balanced.lookup_isSome, h.client_held]
    constructor
    · intro hpos
      obtain ⟨handle, holding, hl, htest⟩ := exists_of_held_pos hpos
      exact ⟨handle, holding, hl, of_decide_eq_true htest⟩
    · intro he
      obtain ⟨handle, holding, hl, hc⟩ := he
      exact held_pos hl (decide_eq_true hc)
  limited := h.limited
  total_le := h.balanced.total_le
  once := h.once
  effective := by
    intro handle holding hl
    have ht : 0 < s.held fun _ => true := held_pos hl rfl
    have hc : 0 < s.held (·.clientId = holding.clientId) :=
      held_pos hl (decide_eq_true rfl)
    rw [← h.total_held] at ht
    rw [← h.client_held, ← h.balanced.lookup_isSome] at hc
    obtain ⟨count, hcn⟩ := Option.isSome_iff_exists.mp hc
    exact ⟨ht, count, hcn, h.balanced.entry_pos _ _ hcn⟩

/-- **Leases are exact**: whatever a program does with its handles, the counts of the quota
are those of the leases that are held, within their limits, and every acquisition is given
back once. -/
theorem leases_exact (maxPerClient maxTotal : Nat) (events : List LeaseEvent) :
    (exec QuotaState.step (initial maxPerClient maxTotal) events).Exact := by
  have hstep : ∀ (s : QuotaState) (event : LeaseEvent), s.Invariant → (s.step event).Invariant := by
    intro s event h
    exact h.step event
  have hrun := exec_invariant hstep (invariant_initial maxPerClient maxTotal) events
  exact hrun.exact

end QuotaState

end MiniTun.Server
