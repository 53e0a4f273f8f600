import MiniTun.Lib.KeyedMap
import MiniTun.Lib.TransitionSystem
import MiniTun.Storage.TunnelRepository

/-!
# The tunnel reconciler

The reconciler is what stands between the daemon's sessions and the tunnel rows:
a session may move a row only while its generation is the current one of its
server, and only if the row still has the revision the session knows.

Every call holds the reconciler's mutex, so a run is a sequence of calls.  Between
them the rest of the daemon commits what it likes to the table.  A generation is
a 64-bit number that starts again at 1; below `2 ^ 64` generations it is the
ordinal of the call that made it (`lookup_exec`), which is what `CurrentGeneration`
says about a history without looking at the reconciler.
-/

namespace MiniTun.Daemon

open KeyedMap Relational Storage TransitionSystem

def maxGeneration : Nat := 2 ^ 64 - 1

/-- The current generation of each server. -/
structure TunnelReconciler where
  generations : Map Bytes Nat
  tunnels : Tunnels

/-- The clock, and whether the transaction of the call fails. -/
structure Circumstances where
  now : Int
  fault : Option Error

/-- The arguments of a transition. -/
structure Transition where
  serverId : Id
  tunnelId : Id
  generation : Nat
  expectedRevision : Nat
  state : TunnelActualState
  error : Option RecordedError
  synchronized : Bool

def nextGeneration (generation : Nat) : Nat :=
  let next := if generation = maxGeneration then 1 else generation + 1
  if next = 0 then 1 else next

namespace TunnelReconciler

section Calls

variable (r : TunnelReconciler)

def generationOf (serverId : Bytes) : Nat :=
  (r.generations.lookup serverId).getD 0

def nextGenerationLocked (serverId : Bytes) : TunnelReconciler :=
  { r with
    generations := r.generations.insert serverId (nextGeneration (r.generationOf serverId)) }

variable (c : Circumstances) (serverId : Id) (error : Option RecordedError)

/-- The call of `mark_active_pending_by_server` that three operations end with. -/
def normalize : Result Unit × TunnelReconciler :=
  let (normalized, tunnels) := markActivePendingByServer r.tunnels c.fault serverId error c.now
  (normalized.map fun _ => (), { r with tunnels := tunnels })

def beginGeneration : Result Nat × TunnelReconciler :=
  if serverId.kind ≠ .server then
    (failure .invalidArgument "tunnel generation requires a server ID", r)
  else
    let started := r.nextGenerationLocked serverId.text
    let (normalized, r') := started.normalize c serverId none
    (normalized.map fun _ => started.generationOf serverId.text, r')

def endGeneration (generation : Nat) (error : Option RecordedError) :
    Result Unit × TunnelReconciler :=
  if serverId.kind ≠ .server ∨ generation = 0 then
    (failure .invalidArgument "ending a tunnel generation requires valid identifiers", r)
  else if r.generations.lookup serverId.text ≠ some generation then (.ok (), r)
  else r.normalize c serverId error

def invalidate : Result Unit × TunnelReconciler :=
  if serverId.kind ≠ .server then
    (failure .invalidArgument "invalidating tunnel state requires a server ID", r)
  else (r.nextGenerationLocked serverId.text).normalize c serverId error

end Calls

/-- `TunnelReconciler::transition`. -/
def transition (r : TunnelReconciler) (c : Circumstances) (t : Transition) :
    Result Bool × TunnelReconciler :=
  if t.serverId.kind ≠ .server ∨ t.tunnelId.kind ≠ .tunnel ∨ t.generation = 0 ∨
      t.expectedRevision = 0 then
    (failure .invalidArgument "tunnel transition requires valid generation identifiers", r)
  else if r.generations.lookup t.serverId.text ≠ some t.generation then (.ok false, r)
  else
    let (changed, tunnels) := updateRuntimeStateIfRevision r.tunnels c.fault t.tunnelId t.serverId
      t.expectedRevision t.state t.error c.now t.synchronized
    (changed, { r with tunnels := tunnels })

end TunnelReconciler

/-! ## Runs -/

/-- A call of the reconciler, or a transaction someone else commits. -/
inductive ReconcilerEvent where
  | beginGeneration (serverId : Id) (c : Circumstances)
  | endGeneration (serverId : Id) (generation : Nat) (error : Option RecordedError)
      (c : Circumstances)
  | invalidate (serverId : Id) (error : Option RecordedError) (c : Circumstances)
  | transition (t : Transition) (c : Circumstances)
  | commit (tunnels : Tunnels)

def ReconcilerEvent.isCall : ReconcilerEvent → Bool
  | .commit _ => false
  | _ => true

namespace TunnelReconciler

def initial (tunnels : Tunnels) : TunnelReconciler := ⟨∅, tunnels⟩

/-- A call, or a transaction of others. -/
def step (r : TunnelReconciler) : ReconcilerEvent → TunnelReconciler
  | .beginGeneration serverId c => (r.beginGeneration c serverId).2
  | .endGeneration serverId generation error c => (r.endGeneration c serverId generation error).2
  | .invalidate serverId error c => (r.invalidate c serverId error).2
  | .transition t c => (r.transition c t).2
  | .commit tunnels => { r with tunnels := tunnels }

end TunnelReconciler

def ReconcilerEvent.makesGeneration (serverId : Bytes) : ReconcilerEvent → Bool
  | .beginGeneration id _ => id.kind = .server ∧ id.text = serverId
  | .invalidate id _ _ => id.kind = .server ∧ id.text = serverId
  | _ => false

/-- How many generations a history has made. -/
def generationsMade (serverId : Bytes) (history : List ReconcilerEvent) : Nat :=
  history.countP (ReconcilerEvent.makesGeneration serverId)

/-- The generation is the last one the history has made of the server. -/
def CurrentGeneration (history : List ReconcilerEvent) (serverId : Id) (generation : Nat) : Prop :=
  0 < generation ∧ generationsMade serverId.text history = generation

/-- **Fencing** of the rows, in the state a history has led to. -/
structure RowsFenced (history : List ReconcilerEvent) (r : TunnelReconciler) : Prop where
  /-- The number a session gets is that of its generation. -/
  begins : ∀ serverId c generation,
    generationsMade serverId.text history < maxGeneration →
    (r.beginGeneration c serverId).1 = .ok generation →
      generation = generationsMade serverId.text history + 1
  /-- A transition changes the one row it is entitled to, in its runtime columns. -/
  transition : ∀ t c id, (r.transition c t).2.tunnels.find id ≠ r.tunnels.find id →
    CurrentGeneration history t.serverId t.generation ∧ id = t.tunnelId.text ∧
      ∃ row row', r.tunnels.find id = some row ∧
        (r.transition c t).2.tunnels.find id = some row' ∧
        row.serverId = t.serverId.text ∧ row.configRevision = t.expectedRevision ∧
        row.desiredState = desiredFor t.state ∧ RuntimeChange row row'
  /-- No call moves a row's time back or takes its times out of order. -/
  times : ∀ e, e.isCall = true → ∀ id row, r.tunnels.find id = some row →
    ∃ row', (r.step e).tunnels.find id = some row' ∧ row.updatedAt ≤ row'.updatedAt ∧ row'.Timed
  endGeneration : ∀ serverId generation error c,
    ¬CurrentGeneration history serverId generation →
      (r.endGeneration c serverId generation error).2.tunnels = r.tunnels

/-! ## Generations -/

/-- The entry of a server that has had `n` generations. -/
def numbered (n : Nat) : Option Nat := if n = 0 then none else some n

theorem getD_numbered (n : Nat) : (numbered n).getD 0 = n := by
  unfold numbered
  split
  · next h => exact h.symm
  · rfl

theorem numbered_eq_some {n gen : Nat} :
    numbered n = some gen ↔ 0 < gen ∧ n = gen := by
  unfold numbered
  split
  · next h =>
    constructor
    · intro h'
      cases h'
    · omega
  · next h =>
    rw [Option.some.injEq]
    omega

theorem nextGeneration_of_lt {n : Nat} (h : n < maxGeneration) : nextGeneration n = n + 1 := by
  have hne : n ≠ maxGeneration := Nat.ne_of_lt h
  simp [nextGeneration, hne]

namespace TunnelReconciler

section Generations

variable {r : TunnelReconciler} {sid : Bytes} {n : Nat}

theorem generationOf_eq (h : r.generations.lookup sid = numbered n) :
    r.generationOf sid = n := by
  rw [generationOf, h, getD_numbered]

theorem lookup_nextGenerationLocked (h : r.generations.lookup sid = numbered n)
    (hn : n < maxGeneration) :
    (r.nextGenerationLocked sid).generations.lookup sid = numbered (n + 1) := by
  simp only [nextGenerationLocked, AList.lookup_insert, generationOf_eq h, nextGeneration_of_lt hn]
  rfl

theorem lookup_nextGenerationLocked_of_ne {other : Bytes} (h : sid ≠ other) :
    (r.nextGenerationLocked other).generations.lookup sid =
      r.generations.lookup sid :=
  AList.lookup_insert_ne h

theorem lookup_step {e : ReconcilerEvent} (h : r.generations.lookup sid = numbered n)
    (hn : n + [e].countP (ReconcilerEvent.makesGeneration sid) ≤ maxGeneration) :
    (r.step e).generations.lookup sid =
      numbered (n + [e].countP (ReconcilerEvent.makesGeneration sid)) := by
  have hmk : ∀ id : Id, id.kind = .server →
      n + (if id.kind = .server ∧ id.text = sid then 1 else 0) ≤ maxGeneration →
      (r.nextGenerationLocked id.text).generations.lookup sid =
        numbered (n + if id.kind = .server ∧ id.text = sid then 1 else 0) := by
    intro id hk hb
    by_cases hid : id.text = sid
    · subst hid
      rw [if_pos ⟨hk, rfl⟩] at hb ⊢
      exact lookup_nextGenerationLocked h hb
    · rw [if_neg fun hboth => hid hboth.2, lookup_nextGenerationLocked_of_ne (Ne.symm hid)]
      exact h
  cases e with
  | beginGeneration id c =>
    simp only [List.countP_singleton, ReconcilerEvent.makesGeneration, decide_eq_true_eq] at hn ⊢
    simp only [step, beginGeneration]
    split
    · next hk => rw [if_neg fun hboth => hk hboth.1]; exact h
    · next hk => exact hmk id (not_not.1 hk) hn
  | invalidate id err c =>
    simp only [List.countP_singleton, ReconcilerEvent.makesGeneration, decide_eq_true_eq] at hn ⊢
    simp only [step, invalidate]
    split
    · next hk => rw [if_neg fun hboth => hk hboth.1]; exact h
    · next hk => exact hmk id (not_not.1 hk) hn
  | endGeneration id gen err c =>
    simp only [step, endGeneration]
    split
    · exact h
    · split
      · exact h
      · exact h
  | transition t c =>
    simp only [step, transition]
    split
    · exact h
    · split
      · exact h
      · exact h
  | commit tns => exact h

theorem lookup_exec {es : List ReconcilerEvent} (h : r.generations.lookup sid = numbered n)
    (hn : n + generationsMade sid es ≤ maxGeneration) :
    (exec step r es).generations.lookup sid = numbered (n + generationsMade sid es) := by
  induction es generalizing r n with
  | nil => exact h
  | cons e es ih =>
    have hs : generationsMade sid (e :: es) =
        [e].countP (ReconcilerEvent.makesGeneration sid) + generationsMade sid es := by
      rw [← List.singleton_append, generationsMade, List.countP_append]
      rfl
    rw [hs, ← Nat.add_assoc] at hn ⊢
    exact ih (lookup_step h (by omega)) hn

theorem lookup_exec_initial (tns : Tunnels) {history : List ReconcilerEvent}
    (hc : generationsMade sid history ≤ maxGeneration) :
    (exec step (.initial tns) history).generations.lookup sid =
      numbered (generationsMade sid history) := by
  have he : (initial tns).generations.lookup sid = numbered 0 :=
    AList.lookup_empty sid
  have hb : 0 + generationsMade sid history ≤ maxGeneration := by
    rw [Nat.zero_add]
    exact hc
  rw [lookup_exec he hb, Nat.zero_add]

theorem beginGeneration_ok {c : Circumstances} {id : Id} {gen : Nat}
    (h : r.generations.lookup id.text = numbered n) (hn : n < maxGeneration)
    (hb : (r.beginGeneration c id).1 = .ok gen) : gen = n + 1 := by
  unfold beginGeneration at hb
  split at hb
  · exact absurd hb failure_ne_ok
  · have hs := generationOf_eq (lookup_nextGenerationLocked h hn)
    simp only [hs] at hb
    revert hb
    cases ((r.nextGenerationLocked id.text).normalize c id none).1 with
    | error e =>
      intro hb
      cases hb
    | ok _ =>
      intro hb
      cases hb
      rfl

theorem endGeneration_of_stale {c : Circumstances} {id : Id} {gen : Nat}
    {err : Option RecordedError} (h : r.generations.lookup id.text ≠ some gen) :
    (r.endGeneration c id gen err).2 = r := by
  unfold endGeneration
  split
  · rfl
  · rfl

end Generations

/-! ## Rows -/

section Rows

variable {r : TunnelReconciler} {id : Bytes} {row : TunnelRecord}

variable {c : Circumstances}

theorem find_normalize {sid : Id} {err : Option RecordedError} (h : r.tunnels.find id = some row) :
    ∃ row', (r.normalize c sid err).2.tunnels.find id = some row' ∧
      RuntimeChange row row' :=
  find_markActivePendingByServer h

theorem find_step {e : ReconcilerEvent} (hca : e.isCall = true) (h : r.tunnels.find id = some row) :
    ∃ row', (r.step e).tunnels.find id = some row' ∧ RuntimeChange row row' := by
  have hs : ∃ row', r.tunnels.find id = some row' ∧ RuntimeChange row row' :=
    ⟨row, h, .refl row⟩
  cases e with
  | beginGeneration sid c =>
    simp only [step, beginGeneration]
    split
    · exact hs
    · exact find_normalize h
  | endGeneration sid gen err c =>
    simp only [step, endGeneration]
    split
    · exact hs
    · split
      · exact hs
      · exact find_normalize h
  | invalidate sid err c =>
    simp only [step, invalidate]
    split
    · exact hs
    · exact find_normalize h
  | transition t c =>
    simp only [step, transition]
    split
    · exact hs
    · split
      · exact hs
      · exact find_updateRuntimeStateIfRevision h
  | commit tns => cases hca

/-- A transition that changes something has the generation the map holds, and
changes a row that its statement selects. -/
theorem transition_changes {t : Transition}
    (h : (r.transition c t).2.tunnels.find id ≠ r.tunnels.find id) :
    r.generations.lookup t.serverId.text = some t.generation ∧
      ∃ row, r.tunnels.find id = some row ∧
        runtimeSelects t.tunnelId.text t.serverId.text t.expectedRevision t.state row = true := by
  unfold transition at h
  split at h
  · exact absurd rfl h
  · split at h
    · exact absurd rfl h
    · next hgen =>
      exact ⟨not_not.1 hgen, selects_of_updateRuntimeStateIfRevision h⟩

/-- A transition by the current generation, of a row that has the revision and the
desired state for it, is made. -/
theorem transition_applies {t : Transition} (hpos : 0 < t.generation)
    (hcur : r.generations.lookup t.serverId.text = some t.generation)
    (hval : checkRuntimeUpdate t.tunnelId t.serverId t.expectedRevision t.state t.error c.now =
      .ok ()) (hflt : c.fault = none) (hrow : r.tunnels.find id = some row)
    (hsel : runtimeSelects t.tunnelId.text t.serverId.text t.expectedRevision t.state row =
      true) :
    (r.transition c t).1.isOk = true ∧
      (r.transition c t).2.tunnels.find id =
        some (runtimeAssign t.state t.error c.now t.synchronized row) := by
  obtain ⟨updated, hup, hf⟩ :=
    updateRuntimeStateIfRevision_ok hval r.tunnels t.synchronized
  obtain ⟨hk, hs, hrev⟩ := checkRuntimeUpdate_ids hval
  have hg : ¬(t.serverId.kind ≠ .server ∨ t.tunnelId.kind ≠ .tunnel ∨ t.generation = 0 ∨
      t.expectedRevision = 0) := by
    rintro (h | h | h | h)
    · exact h hs
    · exact h hk
    · omega
    · exact hrev h
  rw [transition, if_neg hg, if_neg (not_not.2 hcur), hflt, hup]
  refine ⟨rfl, ?_⟩
  rw [hf id, hrow, Option.map_some, Table.assigned, if_pos hsel]

end Rows

end TunnelReconciler

/-- **Tunnel state fencing.**  In every run with fewer than `2 ^ 64` generations of
each server, whatever else is committed to the table and whatever the clock does. -/
theorem rowsFenced_exec (tunnels : Tunnels) (history : List ReconcilerEvent)
    (hcount : ∀ serverId, generationsMade serverId history ≤ maxGeneration) :
    RowsFenced history (exec TunnelReconciler.step (.initial tunnels) history) := by
  have hlookup : ∀ serverId,
      (exec TunnelReconciler.step (.initial tunnels) history).generations.lookup serverId =
        numbered (generationsMade serverId history) :=
    fun serverId => TunnelReconciler.lookup_exec_initial tunnels (hcount serverId)
  generalize exec TunnelReconciler.step (.initial tunnels) history = r at hlookup
  constructor
  case begins =>
    intro serverId c generation hbound hbegin
    exact TunnelReconciler.beginGeneration_ok (hlookup serverId.text) hbound hbegin
  case transition =>
    intro t c id hchanged
    obtain ⟨hgeneration, row, hrow, hselects⟩ := TunnelReconciler.transition_changes hchanged
    rw [hlookup, numbered_eq_some] at hgeneration
    obtain ⟨hid, hserver, hdesired, hrevision⟩ := runtimeSelects_iff.1 hselects
    have hcall : (ReconcilerEvent.transition t c).isCall = true := rfl
    obtain ⟨row', hrow', hchange⟩ := TunnelReconciler.find_step hcall hrow
    have hkey : row.id = id := (Table.find_eq_some_iff.1 hrow).2
    exact ⟨hgeneration, hkey.symm.trans hid, row, row', hrow, hrow', hserver, hrevision, hdesired,
      hchange⟩
  case times =>
    intro e hcall id row hrow
    obtain ⟨row', hrow', hchange⟩ := TunnelReconciler.find_step hcall hrow
    have hchecked : row'.Checked := Table.check_of_find hrow'
    exact ⟨row', hrow', hchange.updatedAt, hchecked.timed⟩
  case endGeneration =>
    intro serverId generation error c hstale
    have hreplaced : r.generations.lookup serverId.text ≠ some generation := by
      rw [hlookup, Ne, numbered_eq_some]
      exact hstale
    rw [TunnelReconciler.endGeneration_of_stale hreplaced]

namespace Sample

def serverId : Id :=
  ⟨.server, ascii "srv_00000000000000000000000000000001", by decide, by decide, by decide⟩

def tunnelId : Id :=
  ⟨.tunnel, ascii "tun_00000000000000000000000000000001", by decide, by decide, by decide⟩

def tunnelRow : TunnelRecord where
  id := tunnelId.text
  name := some (ascii "web")
  serverId := serverId.text
  protocol := .tcp
  localEndpoint := ⟨ascii "127.0.0.1", 8080⟩
  remoteEndpoint := ⟨ascii "0.0.0.0", 6000⟩
  desiredState := .active
  actualState := .active
  lastErrorCode := none
  lastErrorMessage := none
  createdAt := 1
  updatedAt := 1
  lastSyncedAt := none
  configRevision := 1
  managedByConfig := false
  proxyProtocol := false

def tunnels : Tunnels where
  rows := [tunnelRow]
  keys := List.nodup_singleton _
  uniques := List.nodup_singleton _
  checked := List.forall_mem_singleton.2 (by decide +kernel : tunnelRow.Checked)

def history : List ReconcilerEvent := [.beginGeneration serverId ⟨5, none⟩]

/-- The session of that generation has had the tunnel registered; the clock has
been set back meanwhile. -/
def registered : Transition where
  serverId := serverId
  tunnelId := tunnelId
  generation := 1
  expectedRevision := 1
  state := .active
  error := none
  synchronized := true

end Sample

open Sample

theorem rowsFenced_exec_sample :
    (((exec TunnelReconciler.step (.initial tunnels) history).transition ⟨3, none⟩
      registered).2.tunnels.find tunnelId.text).map
        (fun row => (row.actualState, row.updatedAt, row.lastSyncedAt)) =
      some (.active, 5, some 5) ∧
    RowsFenced history (exec TunnelReconciler.step (.initial tunnels) history) :=
  ⟨by decide +kernel, rowsFenced_exec tunnels history fun _ =>
    le_trans List.countP_le_length (by decide)⟩

end MiniTun.Daemon
