import MiniTun.Server.TunnelRegistry

/-!
# Worker pool

`server::WorkerPool` holds the idle workers, each under its own identifier.  A
public connection is handed to any idle worker of the session that owns the
listener; the order in which the table is searched is unspecified, so the
choice is an input.
-/

namespace MiniTun.Server

open KeyedMap

structure WorkerRegistration where
  clientId : Bytes
  sessionGeneration : Nat
  workerId : Bytes
  maxIdleWorkers : Nat
deriving DecidableEq

def validateRegistration (w : WorkerRegistration) : Result Unit :=
  if validId .client w.clientId = false ∨ validId .connection w.workerId = false ∨
      w.sessionGeneration = 0 then
    failure .invalidArgument "worker registration identity is invalid"
  else .ok ()

/-- `server::WorkerPool`; every entry is stored under its worker identifier. -/
structure WorkerPool where
  maxIdleWorkersPerSession : Nat
  maxTotalIdleWorkers : Nat
  entries : Map Bytes WorkerRegistration
  wellKeyed : ∀ key w, entries.lookup key = some w → key = w.workerId

namespace WorkerPool

theorem wellKeyed_empty (key : Bytes) (w : WorkerRegistration)
    (h : (∅ : Map Bytes WorkerRegistration).lookup key = some w) : key = w.workerId := by
  cases h

def empty (maxIdleWorkersPerSession maxTotalIdleWorkers : Nat) : WorkerPool :=
  ⟨maxIdleWorkersPerSession, maxTotalIdleWorkers, ∅, wellKeyed_empty⟩

section Calls

variable (p : WorkerPool)

variable (clientId : Bytes) (sessionGeneration : Nat)

def idleCount : Nat :=
  countIf (fun w => w.clientId = clientId ∧ w.sessionGeneration = sessionGeneration) p.entries

def insertWorker (w : WorkerRegistration) : WorkerPool :=
  { p with
    entries := p.entries.insert w.workerId w
    wellKeyed := by
      intro key v hv
      rw [lookup_insert_eq_ite] at hv
      split at hv
      · next hkey => cases hv; exact hkey
      · exact p.wellKeyed key v hv }

/-- `WorkerPool::add`; the handlers are those of the session that registers. -/
def add (w : WorkerRegistration) : Result Unit × WorkerPool :=
  match validateRegistration w with
  | .error e => (.error e, p)
  | .ok () =>
    if p.entries.lookup w.workerId ≠ none then
      (failure .alreadyExists "worker ID is already registered", p)
    else
      let effectiveSessionLimit := effectiveLimit w.maxIdleWorkers p.maxIdleWorkersPerSession
      if effectiveSessionLimit = 0 ∨ p.maxTotalIdleWorkers ≤ size p.entries ∨
          effectiveSessionLimit ≤ p.idleCount w.clientId w.sessionGeneration then
        (failure .resourceExhausted "idle worker limit has been reached", p)
      else (.ok (), p.insertWorker w)

def remove (workerId : Bytes) : WorkerPool :=
  { p with
    entries := p.entries.erase workerId
    wellKeyed := by
      intro key v hv
      exact p.wellKeyed key v (lookup_of_erase hv) }

/-- The worker `WorkerPool::assign` takes for a connection, with the entries in the
order in which it searches them. -/
def assign (b : TunnelBinding) (order : List Bytes) : Option Bytes :=
  order.find? fun workerId =>
    (p.entries.lookup workerId).any fun w =>
      w.clientId = b.clientId ∧ w.sessionGeneration = b.sessionGeneration

/-- Drop every worker whose registration meets the test. -/
def eraseMatching (matching : WorkerRegistration → Bool) : WorkerPool :=
  { p with
    entries := retain (fun w => !matching w) p.entries
    wellKeyed := fun key v hv => p.wellKeyed key v (lookup_retain_eq_some.1 hv).1 }

def removeSession : WorkerPool :=
  p.eraseMatching fun w => w.clientId = clientId ∧ w.sessionGeneration = sessionGeneration

def removeClient : WorkerPool :=
  p.eraseMatching fun w => w.clientId = clientId

/-! ## What the operations do to an idle worker -/

theorem lookup_remove (wid key : Bytes) :
    (p.remove wid).entries.lookup key =
      if key = wid then none else p.entries.lookup key :=
  lookup_erase_eq_ite _ _ _

end Calls

variable {key wid : Bytes} {p : WorkerPool} {w : WorkerRegistration} {b : TunnelBinding}
  {order : List Bytes}

theorem lookup_of_remove (h : (p.remove wid).entries.lookup key = some w) :
    p.entries.lookup key = some w := by
  rw [lookup_remove] at h
  split at h
  · cases h
  · exact h

theorem lookup_eraseMatching {matching : WorkerRegistration → Bool} :
    (p.eraseMatching matching).entries.lookup key = some w ↔
      p.entries.lookup key = some w ∧ matching w = false := by
  unfold eraseMatching
  rw [lookup_retain_eq_some, Bool.not_eq_true']

theorem lookup_removeSession {cid : Bytes} {gen : Nat} :
    (p.removeSession cid gen).entries.lookup key = some w ↔
      p.entries.lookup key = some w ∧
        ¬(w.clientId = cid ∧ w.sessionGeneration = gen) := by
  unfold removeSession
  rw [lookup_eraseMatching, decide_eq_false_iff_not]

theorem lookup_removeClient {cid : Bytes} :
    (p.removeClient cid).entries.lookup key = some w ↔
      p.entries.lookup key = some w ∧ w.clientId ≠ cid := by
  unfold removeClient
  rw [lookup_eraseMatching, decide_eq_false_iff_not]

theorem add_of_invalid {e : Error} (h : validateRegistration w = .error e) :
    p.add w = (.error e, p) := by
  simp [add, h]

/-- **What adding can do**: refuse and change nothing, or store the worker. -/
theorem add_cases (p : WorkerPool) (w : WorkerRegistration) :
    (∃ e, p.add w = (.error e, p)) ∨
    (IsId .client w.clientId ∧ 0 < w.sessionGeneration ∧ p.entries.lookup w.workerId = none ∧
      p.add w = (.ok (), p.insertWorker w)) := by
  unfold add validateRegistration
  by_cases hid : validId .client w.clientId = false ∨ validId .connection w.workerId = false ∨
      w.sessionGeneration = 0
  · rw [if_pos hid]
    exact .inl ⟨_, rfl⟩
  · rw [if_neg hid]
    simp only [not_or, Bool.not_eq_false] at hid
    simp only
    split
    · exact .inl ⟨_, rfl⟩
    · next hfree =>
      split
      · exact .inl ⟨_, rfl⟩
      · exact .inr ⟨validId_iff.1 hid.1, Nat.pos_of_ne_zero hid.2.2, not_not.1 hfree, rfl⟩

theorem add_limits {p' : WorkerPool} (h : p.add w = (.ok (), p')) :
    size p.entries < p.maxTotalIdleWorkers ∧ p.idleCount w.clientId w.sessionGeneration <
      effectiveLimit w.maxIdleWorkers p.maxIdleWorkersPerSession := by
  unfold add at h
  split at h
  · cases h
  · split at h
    · cases h
    · simp only at h
      split at h
      · cases h
      · next hr => omega

/-! ## Idle workers of a session -/

theorem idleCount_le_of_lookup {p' : WorkerPool}
    (h : ∀ key w, p'.entries.lookup key = some w → p.entries.lookup key = some w)
    (cid : Bytes) (gen : Nat) :
    p'.idleCount cid gen ≤ p.idleCount cid gen :=
  countIf_le_of_lookup _ h

theorem assign_eq_some (h : p.assign b order = some wid) :
    ∃ w, p.entries.lookup wid = some w ∧ w.clientId = b.clientId ∧
      w.sessionGeneration = b.sessionGeneration := by
  have hf := List.find?_some h
  rw [Option.any_eq_true] at hf
  obtain ⟨w, hl, hm⟩ := hf
  exact ⟨w, hl, of_decide_eq_true hm⟩

theorem assign_eq_none (hord : order.Perm p.entries.keys) (h : p.assign b order = none) :
    p.idleCount b.clientId b.sessionGeneration = 0 := by
  refine countIf_eq_zero.2 fun wid w hl => ?_
  have hmem : wid ∈ order :=
    hord.mem_iff.2 (AList.mem_keys.1 (AList.lookup_isSome.1 (by rw [hl]; rfl)))
  have hnot := List.find?_eq_none.1 h wid hmem
  simpa [hl] using hnot

theorem idleCount_remove_of_assign (h : p.assign b order = some wid) :
    (p.remove wid).idleCount b.clientId b.sessionGeneration + 1 =
      p.idleCount b.clientId b.sessionGeneration := by
  obtain ⟨w, hl, hc, hgen⟩ := assign_eq_some h
  have he := countIf_erase (fun w : WorkerRegistration =>
    decide (w.clientId = b.clientId ∧ w.sessionGeneration = b.sessionGeneration)) p.entries wid
  rw [hl, Option.any_some, decide_eq_true ⟨hc, hgen⟩] at he
  exact he

theorem idleCount_insertWorker_le (p : WorkerPool) (w : WorkerRegistration) (cid : Bytes)
    (gen : Nat) :
    (p.insertWorker w).idleCount cid gen ≤ p.idleCount cid gen +
      (decide (w.clientId = cid ∧ w.sessionGeneration = gen)).toNat := by
  have hi := countIf_insert (fun w : WorkerRegistration =>
    decide (w.clientId = cid ∧ w.sessionGeneration = gen)) p.entries w.workerId w
  change countIf _ (p.entries.insert w.workerId w) ≤ countIf _ p.entries + _
  omega

end WorkerPool

end MiniTun.Server
