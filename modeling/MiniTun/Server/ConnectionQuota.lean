import MiniTun.Common.Id
import MiniTun.Lib.KeyedMap

/-!
# Connection quota

`server::ConnectionQuota` counts the public connections of each client and of the server.
A slot is held by a `Lease`, which can be moved and gives the slot back when the last holder
lets it go.  Giving back tolerates a count that is already zero; who gives back only what
was taken never gets there.
-/

namespace MiniTun.Server

open KeyedMap

structure ConnectionQuota where
  maxPerClient : Nat
  maxTotal : Nat
  clients : Map Bytes Nat
  total : Nat

/-- `ConnectionQuota::Lease`: the client it counts for, or nothing once it has been moved
from or released. -/
abbrev Lease := Option Bytes

namespace ConnectionQuota

def empty (maxPerClient maxTotal : Nat) : ConnectionQuota :=
  ⟨maxPerClient, maxTotal, ∅, 0⟩

def clientInUse (q : ConnectionQuota) (clientId : Bytes) : Nat :=
  (q.clients.lookup clientId).getD 0

def acquire (q : ConnectionQuota) (clientId : Bytes) (maxForClient : Nat) :
    Result Unit × ConnectionQuota :=
  if validId .client clientId = false then
    (failure .invalidArgument "connection quota client ID is invalid", q)
  else if maxForClient = 0 ∨ q.maxPerClient < maxForClient then
    (failure .invalidArgument "connection quota override is invalid", q)
  else if q.maxTotal ≤ q.total ∨ maxForClient ≤ q.clientInUse clientId then
    (failure .resourceExhausted "connection quota has been reached", q)
  else
    (.ok (), { q with
      total := q.total + 1
      clients := q.clients.insert clientId (q.clientInUse clientId + 1) })

def tryAcquire (q : ConnectionQuota) (clientId : Bytes) (maxForClient : Nat) :
    Result Lease × ConnectionQuota :=
  match q.acquire clientId maxForClient with
  | (.error e, q) => (.error e, q)
  | (.ok (), q) => (.ok (some clientId), q)

def release (q : ConnectionQuota) (clientId : Bytes) : ConnectionQuota :=
  match q.clients.lookup clientId with
  | none => q
  | some count =>
    if count = 0 ∨ q.total = 0 then q
    else
      { q with
        total := q.total - 1
        clients :=
          if count - 1 = 0 then q.clients.erase clientId
          else q.clients.insert clientId (count - 1) }

variable {q : ConnectionQuota}

/-- **What acquiring can do**: refuse and change nothing, or count one more connection of
the client. -/
theorem tryAcquire_cases (q : ConnectionQuota) (cid : Bytes) (lim : Nat) :
    (∃ e, q.tryAcquire cid lim = (.error e, q)) ∨
    ∃ q', q.tryAcquire cid lim = (.ok (some cid), q') ∧
      q'.total = q.total + 1 ∧
      ∀ other, q'.clientInUse other = q.clientInUse other + (decide (other = cid)).toNat := by
  unfold tryAcquire acquire
  split_ifs
  · exact .inl ⟨_, rfl⟩
  · exact .inl ⟨_, rfl⟩
  · exact .inl ⟨_, rfl⟩
  · refine .inr ⟨_, rfl, rfl, fun other => ?_⟩
    unfold clientInUse
    rw [lookup_insert_eq_ite]
    split
    · next h =>
      subst h
      simp
    · next h => simp [h]

variable {clientId cid : Bytes}

theorem release_spec (hc : 0 < q.clientInUse cid) (ht : 0 < q.total) :
    (q.release cid).total + 1 = q.total ∧
      ∀ other, (q.release cid).clientInUse other + (decide (other = cid)).toNat =
        q.clientInUse other := by
  unfold release
  cases hl : q.clients.lookup cid with
  | none => simp [clientInUse, hl] at hc
  | some count =>
    have hcn : 0 < count := by simpa [clientInUse, hl] using hc
    simp only [show ¬(count = 0 ∨ q.total = 0) by omega, if_false]
    refine ⟨by omega, fun other => ?_⟩
    have hset := getD_setCount q.clients cid (count - 1) other
    unfold setCount at hset
    unfold clientInUse
    rw [hset]
    split
    · next ho =>
      rw [ho, hl, decide_eq_true rfl, Bool.toNat_true, Option.getD_some]
      omega
    · next ho => rw [decide_eq_false ho, Bool.toNat_false, Nat.add_zero]

theorem tryAcquire_eq_ok {lim : Nat} {lease : Lease} {q' : ConnectionQuota}
    (h : q.tryAcquire cid lim = (.ok lease, q')) :
    lease = some cid ∧ lim ≤ q.maxPerClient ∧ q.total < q.maxTotal ∧
      q.clientInUse cid < lim ∧
      q' = { q with
        total := q.total + 1
        clients := q.clients.insert cid (q.clientInUse cid + 1) } := by
  unfold tryAcquire acquire at h
  split_ifs at h with hid hlim hr
  · cases h
  · cases h
  · cases h
  · simp only [not_or, Nat.not_lt, Nat.not_le] at hlim hr
    cases h
    exact ⟨rfl, hlim.2, hr.1, hr.2, rfl⟩

@[simp] theorem maxPerClient_release (q : ConnectionQuota) (cid : Bytes) :
    (q.release cid).maxPerClient = q.maxPerClient := by
  unfold release
  split
  · rfl
  · split
    · rfl
    · rfl

/-- The total is the sum of the counts, within its limit, and no count is zero. -/
structure Balanced (q : ConnectionQuota) : Prop where
  sum_eq : sumBy id q.clients = q.total
  entry_pos : ∀ clientId count, q.clients.lookup clientId = some count → 0 < count
  total_le : q.total ≤ q.maxTotal

theorem balanced_empty (lim maxTotal : Nat) : (empty lim maxTotal).Balanced where
  sum_eq := rfl
  entry_pos := by
    intro cid count h
    cases h
  total_le := Nat.zero_le _

theorem Balanced.tryAcquire (h : q.Balanced) {lim : Nat} {lease : Lease}
    {q' : ConnectionQuota} (hq' : q.tryAcquire cid lim = (.ok lease, q')) :
    q'.Balanced := by
  obtain ⟨-, -, hr, -, rfl⟩ := tryAcquire_eq_ok hq'
  refine ⟨?_, ?_, hr⟩
  · have hi := sumBy_insert id q.clients cid (q.clientInUse cid + 1)
    have hsum := h.sum_eq
    rw [Option.map_id] at hi
    simp only [id_eq, clientInUse] at hi ⊢
    omega
  · exact forall_lookup_insert (Nat.succ_pos _) h.entry_pos

theorem Balanced.release (h : q.Balanced) (cid : Bytes) : (q.release cid).Balanced := by
  unfold ConnectionQuota.release
  cases hl : q.clients.lookup cid with
  | none => exact h
  | some count =>
    simp only
    split
    · exact h
    · next hc =>
      have hsum := h.sum_eq
      have ht := h.total_le
      have hset := sumBy_setCount q.clients cid (count - 1)
      rw [hl, Option.getD_some] at hset
      refine ⟨?_, setCount_pos cid (count - 1) h.entry_pos, Nat.le_trans (Nat.sub_le _ _) ht⟩
      change sumBy id (setCount q.clients cid (count - 1)) = q.total - 1
      omega

theorem Balanced.lookup_isSome (h : q.Balanced) :
    (q.clients.lookup cid).isSome = true ↔ 0 < q.clientInUse cid := by
  unfold clientInUse
  cases hl : q.clients.lookup cid with
  | none => simp
  | some count => simpa using h.entry_pos cid count hl

end ConnectionQuota

end MiniTun.Server
