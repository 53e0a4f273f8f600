import MiniTun.Storage.Records
import Mathlib.Data.List.Sort

/-!
# The tunnel repository

The query a session reads its tunnels with, and the two statements with which the
reconciler writes their runtime state.  Each of the two is one transaction, which any step that
fails rolls back, so one `fault` stands for all of them.
-/

namespace MiniTun.Storage

open Relational

/-- `ORDER BY created_at, id`. -/
def createdBefore (row other : TunnelRecord) : Bool :=
  row.createdAt < other.createdAt ∨ (row.createdAt = other.createdAt ∧ row.id ≤ other.id)

def listByServer (tunnels : Tunnels) (serverId : Bytes) : List TunnelRecord :=
  (tunnels.rows.filter fun row => row.serverId = serverId).insertionSort
    fun row other => createdBefore row other = true

theorem nodup_listByServer (tns : Tunnels) (sid : Bytes) :
    ((listByServer tns sid).map TunnelRecord.id).Nodup := by
  have hperm := List.perm_insertionSort (fun row other => createdBefore row other = true)
    (tns.rows.filter fun row => row.serverId = sid)
  rw [listByServer, (hperm.map TunnelRecord.id).nodup_iff]
  exact tns.keys.sublist (List.filter_sublist.map _)

variable {row : TunnelRecord} {tunnels updated : Tunnels} {expectedRevision changes : Nat}
  {state : TunnelActualState} {assign : TunnelRecord → TunnelRecord} {fault : Option Error}
  {operation : String} {selects : TunnelRecord → Bool} {error : Option RecordedError}
  {serverId id : Id} {updatedAt : Int}

theorem mem_listByServer {serverId : Bytes} (h : row ∈ listByServer tunnels serverId) :
    row ∈ tunnels.rows :=
  (List.mem_filter.1 ((List.mem_insertionSort _).1 h)).1

/-- A transaction with one `UPDATE`: the number of rows it selected, and the table. -/
def updateTransaction (tunnels : Tunnels) (fault : Option Error) (operation : String)
    (selects : TunnelRecord → Bool) (assign : TunnelRecord → TunnelRecord) :
    Result Nat × Tunnels :=
  match fault with
  | some error => (.error error, tunnels)
  | none =>
    match tunnels.update selects assign with
    | none => (failure .invalidArgument operation, tunnels)
    | some (updated, changes) => (.ok changes, updated)

def TunnelRecord.setLastError (row : TunnelRecord) (error : Option RecordedError) :
    TunnelRecord :=
  { row with
    lastErrorCode := error.map RecordedError.code
    lastErrorMessage := error.map RecordedError.message }

/-! ## Marking the tunnels of a server pending -/

def markPendingSelects (serverId : Bytes) (row : TunnelRecord) : Bool :=
  row.serverId = serverId ∧ row.desiredState = .active

def markPendingAssign (error : Option RecordedError) (updatedAt : Int) (row : TunnelRecord) :
    TunnelRecord :=
  { row.setLastError error with
    actualState := .pending
    updatedAt := max row.updatedAt updatedAt }

def checkMarkPending (serverId : Id) (error : Option RecordedError) (updatedAt : Int) :
    Result Unit :=
  if serverId.kind ≠ .server ∨ updatedAt < 0 then
    failure .invalidArgument "batch tunnel update requires a server ID and non-negative time"
  else match error with
    | none => .ok ()
    | some error =>
      if error.code = .ok then
        failure .invalidArgument "batch tunnel update requires a known non-ok error code"
      else validateText error.message 0 maxErrorMessageBytes "last_error_message"

def markActivePendingByServer (tunnels : Tunnels) (fault : Option Error) (serverId : Id)
    (error : Option RecordedError) (updatedAt : Int) : Result Nat × Tunnels :=
  match checkMarkPending serverId error updatedAt with
  | .error e => (.error e, tunnels)
  | .ok () =>
    updateTransaction tunnels fault "mark active server tunnels pending"
      (markPendingSelects serverId.text) (markPendingAssign error updatedAt)

/-! ## Updating the runtime state of one tunnel -/

section RuntimeState

variable (state)

/-- The desired state a row must have to be moved to an actual state. -/
def desiredFor : TunnelDesiredState :=
  if state = .disabled then .disabled else .active

def runtimeSelects (id serverId : Bytes) (expectedRevision : Nat) (state : TunnelActualState)
    (row : TunnelRecord) : Bool :=
  row.id = id ∧ row.serverId = serverId ∧
    ((state = .disabled ∧ row.desiredState = .disabled) ∨
      (state ≠ .disabled ∧ row.desiredState = .active)) ∧
    row.configRevision = expectedRevision

variable (error)

def runtimeAssign (updatedAt : Int) (synchronized : Bool) (row : TunnelRecord) : TunnelRecord :=
  { row.setLastError error with
    actualState := state
    updatedAt := max row.updatedAt updatedAt
    lastSyncedAt := if synchronized then some (max row.updatedAt updatedAt) else row.lastSyncedAt }

def checkRuntimeUpdate (id serverId : Id) (expectedRevision : Nat) (state : TunnelActualState)
    (error : Option RecordedError) (updatedAt : Int) : Result Unit :=
  if id.kind ≠ .tunnel ∨ serverId.kind ≠ .server ∨ expectedRevision = 0 ∨
      maxConfigRevision < expectedRevision ∨ updatedAt < 0 ∨ state = .removing then
    failure .invalidArgument "conditional tunnel transition arguments are invalid"
  else match error with
    | none => .ok ()
    | some error =>
      if error.code = .ok ∨ maxErrorMessageBytes < error.message.length then
        failure .invalidArgument "conditional tunnel transition error is invalid"
      else .ok ()

def updateRuntimeStateIfRevision (tunnels : Tunnels) (fault : Option Error) (id serverId : Id)
    (expectedRevision : Nat) (state : TunnelActualState) (error : Option RecordedError)
    (updatedAt : Int) (synchronized : Bool) : Result Bool × Tunnels :=
  match checkRuntimeUpdate id serverId expectedRevision state error updatedAt with
  | .error e => (.error e, tunnels)
  | .ok () =>
    let (changes, updated) := updateTransaction tunnels fault
      "conditionally update tunnel runtime state"
      (runtimeSelects id.text serverId.text expectedRevision state)
      (runtimeAssign state error updatedAt synchronized)
    (changes.map fun count => count = 1, updated)

/-! ## What the statements do to a row -/

/-- The row has changed in its runtime columns only, and its time has not gone back. -/
structure RuntimeChange (row row' : TunnelRecord) : Prop where
  columns : row' = { row with
    actualState := row'.actualState
    lastErrorCode := row'.lastErrorCode
    lastErrorMessage := row'.lastErrorMessage
    updatedAt := row'.updatedAt
    lastSyncedAt := row'.lastSyncedAt }
  updatedAt : row.updatedAt ≤ row'.updatedAt

theorem RuntimeChange.refl (row : TunnelRecord) : RuntimeChange row row :=
  ⟨rfl, Int.le_refl _⟩

theorem runtimeChange_markPendingAssign (updatedAt : Int) (row : TunnelRecord) :
    RuntimeChange row (markPendingAssign error updatedAt row) :=
  ⟨rfl, Int.le_max_left _ _⟩

theorem runtimeChange_runtimeAssign (updatedAt : Int) (sync : Bool) (row : TunnelRecord) :
    RuntimeChange row (runtimeAssign state error updatedAt sync row) :=
  ⟨rfl, Int.le_max_left _ _⟩

end RuntimeState

theorem runtimeSelects_iff {id serverId : Bytes} :
    runtimeSelects id serverId expectedRevision state row = true ↔
      row.id = id ∧ row.serverId = serverId ∧ row.desiredState = desiredFor state ∧
        row.configRevision = expectedRevision := by
  unfold runtimeSelects desiredFor
  by_cases hs : state = .disabled <;> simp [hs]

theorem updateTransaction_eq_ok :
    updateTransaction tunnels fault operation selects assign = (.ok changes, updated) ↔
      fault = none ∧ updated.rows = tunnels.rows.map (Table.assigned selects assign) ∧
        changes = tunnels.rows.countP selects := by
  unfold updateTransaction
  cases fault with
  | some e => simp
  | none =>
    rw [← Table.update_eq_some_iff]
    cases tunnels.update selects assign with
    | none => simp [failure]
    | some res => simp [Prod.ext_iff, and_comm]

theorem markActivePendingByServer_eq_ok :
    markActivePendingByServer tunnels fault serverId error updatedAt = (.ok changes, updated) ↔
      checkMarkPending serverId error updatedAt = .ok () ∧ fault = none ∧
        updated.rows = tunnels.rows.map (Table.assigned (markPendingSelects serverId.text)
          (markPendingAssign error updatedAt)) ∧
        changes = tunnels.rows.countP (markPendingSelects serverId.text) := by
  unfold markActivePendingByServer
  cases checkMarkPending serverId error updatedAt with
  | error e => simp
  | ok u => simp [updateTransaction_eq_ok]

theorem updateRuntimeStateIfRevision_eq_ok {sync chg : Bool} :
    updateRuntimeStateIfRevision tunnels fault id serverId expectedRevision state error updatedAt
        sync = (.ok chg, updated) ↔
      checkRuntimeUpdate id serverId expectedRevision state error updatedAt = .ok () ∧
        fault = none ∧
        updated.rows = tunnels.rows.map (Table.assigned
          (runtimeSelects id.text serverId.text expectedRevision state)
          (runtimeAssign state error updatedAt sync)) ∧
        chg = decide (tunnels.rows.countP
          (runtimeSelects id.text serverId.text expectedRevision state) = 1) := by
  unfold updateRuntimeStateIfRevision
  cases checkRuntimeUpdate id serverId expectedRevision state error updatedAt with
  | error e => simp
  | ok u =>
    cases hup : updateTransaction tunnels fault "conditionally update tunnel runtime state"
        (runtimeSelects id.text serverId.text expectedRevision state)
        (runtimeAssign state error updatedAt sync) with
    | mk res table =>
      cases res with
      | error e =>
        refine iff_of_false (by simp [Except.map]) ?_
        rintro ⟨-, hflt, hr, -⟩
        rw [updateTransaction_eq_ok.2 ⟨hflt, hr, rfl⟩] at hup
        simp at hup
      | ok changes =>
        obtain ⟨hflt, hr, rfl⟩ := updateTransaction_eq_ok.1 hup
        simp only [Except.map, Prod.mk.injEq, Except.ok.injEq, true_and, hflt, ← hr]
        constructor
        · rintro ⟨rfl, rfl⟩
          exact ⟨rfl, rfl⟩
        · rintro ⟨hs, rfl⟩
          exact ⟨rfl, Table.ext hs.symm⟩

section Transactions

variable (hchange : ∀ row, RuntimeChange row (assign row))
include hchange

/-- A transaction that changes no identifying column either leaves the table as it
was, or has acted on each row by itself. -/
theorem updateTransaction_cases (tunnels : Tunnels) :
    (updateTransaction tunnels fault operation selects assign).2 = tunnels ∨
      ∀ id, (updateTransaction tunnels fault operation selects assign).2.find id =
        (tunnels.find id).map (Table.assigned selects assign) := by
  have hkey : ∀ row, tunnelSchema.key (assign row) = tunnelSchema.key row := by
    intro row
    change (assign row).id = row.id
    rw [(hchange row).columns]
  unfold updateTransaction
  split
  · exact .inl rfl
  · split
    · exact .inl rfl
    · next updated changes hup =>
      exact .inr fun id => Table.find_update hkey hup id

theorem updateTransaction_changes {other : Bytes}
    (h : (updateTransaction tunnels fault operation selects assign).2.find other ≠
      tunnels.find other) :
    fault = none ∧ (updateTransaction tunnels fault operation selects assign).2.find other =
      (tunnels.find other).map (Table.assigned selects assign) := by
  rcases updateTransaction_cases hchange tunnels with hs | hf
  · exact absurd (congrArg (Table.find · other) hs) h
  · refine ⟨?_, hf other⟩
    cases fault with
    | none => rfl
    | some error => exact absurd rfl h

theorem find_of_updateTransaction_ok
    (h : (updateTransaction tunnels fault operation selects assign).1 = .ok changes) (id : Bytes) :
    (updateTransaction tunnels fault operation selects assign).2.find id =
      (tunnels.find id).map (Table.assigned selects assign) := by
  have hkey : ∀ row, tunnelSchema.key (assign row) = tunnelSchema.key row := by
    intro row
    change (assign row).id = row.id
    rw [(hchange row).columns]
  unfold updateTransaction at h ⊢
  cases fault with
  | some error => cases h
  | none =>
    cases hup : tunnels.update selects assign with
    | none =>
      rw [hup] at h
      exact absurd h failure_ne_ok
    | some res =>
      exact Table.find_update hkey hup id

/-- A transaction of this kind loses no row, and changes runtime columns only. -/
theorem find_updateTransaction {id : Bytes} (h : tunnels.find id = some row) :
    ∃ row', (updateTransaction tunnels fault operation selects assign).2.find id = some row' ∧
      RuntimeChange row row' := by
  have ha : RuntimeChange row (Table.assigned selects assign row) := by
    unfold Table.assigned
    split
    · exact hchange row
    · exact .refl row
  rcases updateTransaction_cases hchange tunnels with hs | hf
  · rw [hs]
    exact ⟨row, h, .refl row⟩
  · rw [hf id, h]
    exact ⟨_, rfl, ha⟩

end Transactions

theorem find_markActivePendingByServer {id : Bytes} (h : tunnels.find id = some row) :
    ∃ row', (markActivePendingByServer tunnels fault serverId error updatedAt).2.find id =
      some row' ∧ RuntimeChange row row' := by
  unfold markActivePendingByServer
  split
  · exact ⟨row, h, .refl row⟩
  · exact find_updateTransaction (runtimeChange_markPendingAssign error updatedAt) h

/-- Marking the tunnels of a server pending leaves the table as it was, or has acted on
each row. -/
theorem markActivePendingByServer_cases (tunnels : Tunnels) (fault : Option Error) (serverId : Id)
    (error : Option RecordedError) (updatedAt : Int) :
    (markActivePendingByServer tunnels fault serverId error updatedAt).2 = tunnels ∨
      ∀ id, (markActivePendingByServer tunnels fault serverId error updatedAt).2.find id =
        (tunnels.find id).map (Table.assigned (markPendingSelects serverId.text)
            (markPendingAssign error updatedAt)) := by
  unfold markActivePendingByServer
  split
  · exact .inl rfl
  · exact updateTransaction_cases (runtimeChange_markPendingAssign error updatedAt) tunnels

theorem find_of_markActivePendingByServer_ok
    (h : (markActivePendingByServer tunnels fault serverId error updatedAt).1.map (fun _ => ()) =
      .ok ()) (id : Bytes) :
    (markActivePendingByServer tunnels fault serverId error updatedAt).2.find id =
      (tunnels.find id).map
        (Table.assigned (markPendingSelects serverId.text)
          (markPendingAssign error updatedAt)) := by
  unfold markActivePendingByServer at h ⊢
  split at h
  · cases h
  · cases hres : (updateTransaction tunnels fault "mark active server tunnels pending"
        (markPendingSelects serverId.text) (markPendingAssign error updatedAt)).1 with
    | error e =>
      rw [hres] at h
      cases h
    | ok changes =>
      exact find_of_updateTransaction_ok (runtimeChange_markPendingAssign error updatedAt) hres id

section RuntimeUpdate

variable {tunnels : Tunnels} {fault : Option Error} {id serverId : Id} {expectedRevision : Nat}
  {state : TunnelActualState} {error : Option RecordedError} {updatedAt : Int}
  {sync : Bool} {other : Bytes}

theorem find_updateRuntimeStateIfRevision {row : TunnelRecord} (h : tunnels.find other = some row) :
    ∃ row', (updateRuntimeStateIfRevision tunnels fault id serverId expectedRevision state error
      updatedAt sync).2.find other = some row' ∧ RuntimeChange row row' := by
  unfold updateRuntimeStateIfRevision
  split
  · exact ⟨row, h, .refl row⟩
  · exact find_updateTransaction (runtimeChange_runtimeAssign state error updatedAt sync) h

theorem updateRuntimeStateIfRevision_changes
    (h : (updateRuntimeStateIfRevision tunnels fault id serverId expectedRevision state error
      updatedAt sync).2.find other ≠ tunnels.find other) :
    checkRuntimeUpdate id serverId expectedRevision state error updatedAt = .ok () ∧
      fault = none ∧
      (updateRuntimeStateIfRevision tunnels fault id serverId expectedRevision state error
        updatedAt sync).2.find other = (tunnels.find other).map
          (Table.assigned (runtimeSelects id.text serverId.text expectedRevision state)
            (runtimeAssign state error updatedAt sync)) := by
  unfold updateRuntimeStateIfRevision at h ⊢
  cases hc : checkRuntimeUpdate id serverId expectedRevision state error updatedAt with
  | error e =>
    rw [hc] at h
    exact absurd rfl h
  | ok u =>
    rw [hc] at h
    have hchange := runtimeChange_runtimeAssign state error updatedAt sync
    exact ⟨rfl, updateTransaction_changes hchange h⟩

theorem selects_of_updateRuntimeStateIfRevision
    (h : (updateRuntimeStateIfRevision tunnels fault id serverId expectedRevision state error
      updatedAt sync).2.find other ≠ tunnels.find other) :
    ∃ row, tunnels.find other = some row ∧
      runtimeSelects id.text serverId.text expectedRevision state row = true := by
  obtain ⟨-, -, hmap⟩ := updateRuntimeStateIfRevision_changes h
  rw [hmap] at h
  cases ho : tunnels.find other with
  | none =>
    rw [ho] at h
    exact absurd rfl h
  | some row =>
    refine ⟨row, rfl, ?_⟩
    by_contra hsel
    rw [ho, Option.map_some, Table.assigned, if_neg hsel] at h
    exact h rfl

end RuntimeUpdate

theorem validLastError_map
    (h : ∀ e ∈ error, e.code ≠ .ok ∧ e.message.length ≤ maxErrorMessageBytes) :
    validLastError (error.map RecordedError.code) (error.map RecordedError.message) = true := by
  cases error with
  | none => rfl
  | some e => simpa [validLastError] using h e rfl

section Checked

variable (h : checkRuntimeUpdate id serverId expectedRevision state error updatedAt = .ok ())
include h

theorem checkRuntimeUpdate_ids :
    id.kind = .tunnel ∧ serverId.kind = .server ∧ expectedRevision ≠ 0 := by
  unfold checkRuntimeUpdate at h
  split at h
  · exact absurd h failure_ne_ok
  · next hval =>
    rw [not_or, not_or, not_or] at hval
    exact ⟨not_not.1 hval.1, not_not.1 hval.2.1, hval.2.2.1⟩

theorem checkRuntimeUpdate_ok :
    ∀ e ∈ error, e.code ≠ .ok ∧ e.message.length ≤ maxErrorMessageBytes := by
  unfold checkRuntimeUpdate at h
  split at h
  · exact absurd h failure_ne_ok
  · split at h
    · simp
    · next e =>
      split at h
      · exact absurd h failure_ne_ok
      · next hval =>
        rintro _ ⟨⟩
        exact ⟨fun hc => hval (.inl hc), Nat.le_of_not_lt fun hlong => hval (.inr hlong)⟩

/-- **The conditional update succeeds** whenever its arguments are valid and SQLite
does not fail: no constraint can be in its way. -/
theorem updateRuntimeStateIfRevision_ok (tunnels : Tunnels) (sync : Bool) :
    ∃ updated, updateRuntimeStateIfRevision tunnels none id serverId expectedRevision state
        error updatedAt sync = (.ok (tunnels.rows.countP
          (runtimeSelects id.text serverId.text expectedRevision state) = 1), updated) ∧
      ∀ other, updated.find other = (tunnels.find other).map
        (Table.assigned (runtimeSelects id.text serverId.text expectedRevision state)
          (runtimeAssign state error updatedAt sync)) := by
  have herr := validLastError_map (checkRuntimeUpdate_ok h)
  have hkey : ∀ row, tunnelSchema.key (runtimeAssign state error updatedAt sync row) =
      tunnelSchema.key row := fun _ => rfl
  have hu : ∀ row, tunnelSchema.unique (runtimeAssign state error updatedAt sync row) =
      tunnelSchema.unique row := fun _ => rfl
  have hc : ∀ row ∈ tunnels.rows, tunnelSchema.Check row →
      runtimeSelects id.text serverId.text expectedRevision state row = true →
      tunnelSchema.Check (runtimeAssign state error updatedAt sync row) := by
    intro row _ hrow _
    have hcr := hrow.timed.created
    have hupd := hrow.timed.updated
    refine ⟨hrow.configuration, herr, hcr, ?_, ?_⟩
    · simp only [runtimeAssign, TunnelRecord.setLastError]
      omega
    · intro time htime
      simp only [runtimeAssign, TunnelRecord.setLastError] at htime ⊢
      split at htime
      · cases htime
        omega
      · have hs := hrow.timed.synced time htime
        omega
  obtain ⟨updated, hup⟩ := Table.update_isSome hkey hu tunnels hc
  refine ⟨updated, ?_, fun other => Table.find_update hkey hup other⟩
  simp only [updateRuntimeStateIfRevision, h, updateTransaction, hup]
  rfl

end Checked

end MiniTun.Storage
