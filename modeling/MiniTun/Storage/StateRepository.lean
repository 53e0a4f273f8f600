import MiniTun.Storage.Database

/-!
# The repositories

`ServerRepository`, `TunnelRepository` and `StateRepository::recover`, as functions
of the database inside a transaction.  A function that fails leaves its
transaction failed, and a failed transaction is rolled back; so a result is
either an error or the database to commit.
-/

namespace MiniTun.Storage

open Relational

/-- How many rows the two repositories admit. -/
structure Limits where
  servers : Nat
  tunnels : Nat

/-! ## Statements -/

/-- `sqlite_error` on a violated constraint of a table. -/
def violationCode : Table.Violation → ErrorCode
  | .key => .alreadyExists
  | .unique => .alreadyExists
  | .check => .invalidArgument

instance (servers : Servers) (tunnels : Tunnels) : Decidable (Referenced servers tunnels) :=
  decidable_of_iff
    ((tunnels.rows.all fun row => (servers.find row.serverId).isSome) = true) List.all_eq_true

namespace Database

section Statements

variable (operation : String)

/-- The database after a statement, if the foreign key holds. -/
def ofTables (servers : Servers) (tunnels : Tunnels) : Result Database :=
  if h : Referenced servers tunnels then .ok ⟨servers, tunnels, h⟩
  else failure .notFound operation

def insertServer (row : ServerRecord) (db : Database) : Result Database :=
  match db.servers.insert row with
  | .error violation => failure (violationCode violation) operation
  | .ok servers => ofTables operation servers db.tunnels

def insertTunnel (row : TunnelRecord) (db : Database) : Result Database :=
  match db.tunnels.insert row with
  | .error violation => failure (violationCode violation) operation
  | .ok tunnels => ofTables operation db.servers tunnels

/-- `UPDATE servers`; the number is `sqlite3_changes`. -/
def updateServers (selects : ServerRecord → Bool) (assign : ServerRecord → ServerRecord)
    (db : Database) : Result (Database × Nat) :=
  match db.servers.update selects assign with
  | none => failure (violationCode (Table.violation serverSchema
      (db.servers.rows.map (Table.assigned selects assign)))) operation
  | some (servers, changes) => (ofTables operation servers db.tunnels).map (·, changes)

def updateTunnels (selects : TunnelRecord → Bool) (assign : TunnelRecord → TunnelRecord)
    (db : Database) : Result (Database × Nat) :=
  match db.tunnels.update selects assign with
  | none => failure (violationCode (Table.violation tunnelSchema
      (db.tunnels.rows.map (Table.assigned selects assign)))) operation
  | some (tunnels, changes) => (ofTables operation db.servers tunnels).map (·, changes)

/-- `DELETE FROM servers`, with `ON DELETE CASCADE`. -/
def deleteServer (id : Bytes) (db : Database) : Result Database :=
  ofTables operation (db.servers.delete fun row => row.id = id)
    (db.tunnels.delete fun row => row.serverId = id)

def deleteTunnel (id : Bytes) (db : Database) : Result Database :=
  ofTables operation db.servers (db.tunnels.delete fun row => row.id = id)

end Statements

end Database

/-! ## Queries -/

section Repository

variable (net : AddressFamilies) (limits : Limits)

section Calls

variable (db : Database)

/-- `ServerRepository::get_by_id`, for the text of a server's identifier. -/
def getServer (id : Bytes) : Result ServerRecord :=
  match db.servers.find id with
  | none => failure .notFound "server record was not found"
  | some row => readServer net row

/-- `TunnelRepository::get_by_id`, for the text of a tunnel's identifier. -/
def getTunnel (id : Bytes) : Result TunnelRecord :=
  match db.tunnels.find id with
  | none => failure .notFound "tunnel record was not found"
  | some row => readTunnel net row

/-- The loop of `list`: it stops at the first row that is one too many, or cannot be
read. -/
def listRows {ρ : Type} (read : ρ → Result ρ) (exceeded : Error) : Nat → List ρ → Result (List ρ)
  | _, [] => .ok []
  | 0, _ :: _ => .error exceeded
  | room + 1, row :: rows => do
    let record ← read row
    let records ← listRows read exceeded room rows
    pure (record :: records)

/-- `ORDER BY created_at, id`. -/
def ServerRecord.createdBefore (row other : ServerRecord) : Bool :=
  row.createdAt < other.createdAt ∨ (row.createdAt = other.createdAt ∧ row.id ≤ other.id)

def listServers : Result (List ServerRecord) :=
  listRows (readServer net)
    ⟨.resourceExhausted, "persisted server count exceeds the configured limit"⟩ limits.servers
    (db.servers.rows.insertionSort fun row other => row.createdBefore other = true)

def listTunnels : Result (List TunnelRecord) :=
  listRows (readTunnel net)
    ⟨.resourceExhausted, "persisted tunnel count exceeds the configured limit"⟩ limits.tunnels
    (db.tunnels.rows.insertionSort fun row other => createdBefore row other = true)

/-! ## Servers -/

def createServer (record : ServerRecord) (db : Database) : Result Database := do
  validateServerRecord record
  if limits.servers ≤ db.servers.rows.length then
    failure .resourceExhausted "configured server storage limit reached"
  else db.insertServer "insert server record" record

/-- `ServerRepository::update`.  The statement leaves `id` and `created_at` alone. -/
def updateServer (record : ServerRecord) (db : Database) : Result Database := do
  validateServerRecord record
  let existing ← getServer net db record.id
  if record.createdAt ≠ existing.createdAt ∨ record.updatedAt < existing.updatedAt ∨
      record.configRevision < existing.configRevision then
    failure .invalidArgument
      "server creation time is immutable and update time/revision must not move backward"
  else
    let (updated, changes) ← db.updateServers "update server record"
      (fun row => row.id = record.id)
      fun row => { record with id := row.id, createdAt := row.createdAt }
    if changes ≠ 1 then failure .notFound "server record was not found" else pure updated

/-- A tunnel whose removal has been carried out. -/
def TunnelRecord.isTombstone (row : TunnelRecord) : Bool :=
  row.desiredState = .removed ∧ row.actualState = .removing

def hasNonTombstoneChildren (serverId : Bytes) (newerThan : Option Int) : Bool :=
  db.tunnels.rows.any fun row =>
    row.serverId = serverId ∧ !row.isTombstone ∧ newerThan.all fun time => time < row.updatedAt

/-- `SET desired_state = 'removed', actual_state = 'removing', updated_at = ?`. -/
def TunnelRecord.entombed (updatedAt : Int) (row : TunnelRecord) : TunnelRecord :=
  { row with desiredState := .removed, actualState := .removing, updatedAt }

/-- `SET desired_state = 'removed', actual_state = 'disabled', reconnect_attempt = 0,
latency_ms = NULL, updated_at = ?`. -/
def ServerRecord.entombed (updatedAt : Int) (row : ServerRecord) : ServerRecord :=
  { row with
    desiredState := .removed
    actualState := .disabled
    reconnectAttempt := 0
    latencyMs := none
    updatedAt }

def markServerRemoved (id : Id) (updatedAt : Int) (db : Database) : Result Database := do
  if id.kind ≠ .server ∨ updatedAt < 0 then
    failure .invalidArgument "server removal requires a server ID and non-negative time"
  else
    let existing ← getServer net db id.text
    if updatedAt < existing.updatedAt then
      failure .invalidArgument "server update time must not move backward"
    else if hasNonTombstoneChildren db id.text (some updatedAt) then
      failure .invalidArgument "server removal time precedes a child tunnel update"
    else
      let (entombed, _) ← db.updateTunnels "mark child tunnels removed"
        (fun row => row.serverId = id.text ∧ !row.isTombstone) (TunnelRecord.entombed updatedAt)
      let (updated, changes) ← entombed.updateServers "mark server removed"
        (fun row => row.id = id.text) (ServerRecord.entombed updatedAt)
      if changes ≠ 1 then failure .notFound "server record was not found" else pure updated

def eraseServer (id : Id) (db : Database) : Result Database := do
  if id.kind ≠ .server then failure .invalidArgument "server erase requires a server ID"
  else
    let existing ← getServer net db id.text
    if existing.desiredState ≠ .removed ∨ existing.actualState ≠ .disabled then
      failure .invalidArgument
        "server must be a reconciled removal tombstone before physical erase"
    else if hasNonTombstoneChildren db id.text none then
      failure .invalidArgument "server still has child tunnels that are not removal tombstones"
    else db.deleteServer "erase server record" id.text

/-! ## Tunnels -/

def createTunnel (record : TunnelRecord) (db : Database) : Result Database := do
  validateTunnelRecord record
  if limits.tunnels ≤ db.tunnels.rows.length then
    failure .resourceExhausted "configured tunnel storage limit reached"
  else db.insertTunnel "insert tunnel record" record

def updateTunnel (record : TunnelRecord) (db : Database) : Result Database := do
  validateTunnelRecord record
  let existing ← getTunnel net db record.id
  if record.createdAt ≠ existing.createdAt ∨ record.updatedAt < existing.updatedAt ∨
      record.configRevision < existing.configRevision then
    failure .invalidArgument
      "tunnel creation time is immutable and update time/revision must not move backward"
  else
    let (updated, changes) ← db.updateTunnels "update tunnel record"
      (fun row => row.id = record.id)
      fun row => { record with id := row.id, createdAt := row.createdAt }
    if changes ≠ 1 then failure .notFound "tunnel record was not found" else pure updated

def markTunnelRemoved (id : Id) (updatedAt : Int) (db : Database) : Result Database := do
  if id.kind ≠ .tunnel ∨ updatedAt < 0 then
    failure .invalidArgument "tunnel removal requires a tunnel ID and non-negative time"
  else
    let existing ← getTunnel net db id.text
    if updatedAt < existing.updatedAt then
      failure .invalidArgument "tunnel update time must not move backward"
    else
      let (updated, changes) ← db.updateTunnels "mark tunnel removed"
        (fun row => row.id = id.text) (TunnelRecord.entombed updatedAt)
      if changes ≠ 1 then failure .notFound "tunnel record was not found" else pure updated

def eraseTunnel (id : Id) (db : Database) : Result Database := do
  if id.kind ≠ .tunnel then failure .invalidArgument "tunnel erase requires a tunnel ID"
  else
    let existing ← getTunnel net db id.text
    if existing.desiredState ≠ .removed ∨ existing.actualState ≠ .removing then
      failure .invalidArgument
        "tunnel must be a reconciled removal tombstone before physical erase"
    else db.deleteTunnel "erase tunnel record" id.text

/-! ## Recovery -/

def ServerRecord.recoveredState (row : ServerRecord) : ServerActualState :=
  if row.desiredState = .enabled ∧ row.credentialRef = none then .notAuthenticated
  else if row.desiredState = .enabled then .disconnected
  else .disabled

def ServerRecord.needsRecovery (row : ServerRecord) : Bool :=
  row.actualState ≠ row.recoveredState ∨ row.reconnectAttempt ≠ 0 ∨ row.latencyMs ≠ none

def ServerRecord.recovered (recoveredAt : Int) (row : ServerRecord) : ServerRecord :=
  { row with
    actualState := row.recoveredState
    reconnectAttempt := 0
    latencyMs := none
    updatedAt := max row.updatedAt recoveredAt }

def TunnelRecord.recoveredState (row : TunnelRecord) : TunnelActualState :=
  match row.desiredState with
  | .active => .pending
  | .disabled => .disabled
  | .removed => .removing

/-- `SELECT id FROM servers WHERE desired_state = 'removed'`. -/
def removedServerIds : List Bytes :=
  (db.servers.rows.filter fun row => row.desiredState = .removed).map ServerRecord.id

end Calls

def TunnelRecord.recovered (recoveredAt : Int) (row : TunnelRecord) : TunnelRecord :=
  { row with
    actualState := row.recoveredState
    updatedAt := max row.updatedAt recoveredAt }

/-- The three statements of `StateRepository::recover`. -/
def normalize (recoveredAt : Int) (db : Database) : Result Database := do
  let (recovered, _) ← db.updateServers "normalize recovered server state"
    ServerRecord.needsRecovery (ServerRecord.recovered recoveredAt)
  let (propagated, _) ← recovered.updateTunnels "propagate removed server tombstones"
    (fun row => row.serverId ∈ removedServerIds recovered ∧ !row.isTombstone)
    fun row => row.entombed (max row.updatedAt recoveredAt)
  let (normalized, _) ← propagated.updateTunnels "normalize recovered tunnel state"
    (fun row => row.actualState ≠ row.recoveredState) (TunnelRecord.recovered recoveredAt)
  pure normalized

structure RecoverySnapshot where
  servers : List ServerRecord
  tunnels : List TunnelRecord

def recover (recoveredAt : Int) (db : Database) : Result (Database × RecoverySnapshot) := do
  let _ ← listServers net limits db
  let _ ← listTunnels net limits db
  let normalized ← normalize recoveredAt db
  let servers ← listServers net limits normalized
  let tunnels ← listTunnels net limits normalized
  pure (normalized, ⟨servers, tunnels⟩)

end Repository

/-! ## What a statement does -/

theorem referenced_iff {srvs : Servers} {tns : Tunnels} :
    Referenced srvs tns ↔
      ∀ row ∈ tns.rows, ∃ srv ∈ srvs.rows, srv.id = row.serverId := by
  refine forall₂_congr fun row _ => ?_
  rw [Option.isSome_iff_exists]
  exact exists_congr fun srv => Table.find_eq_some_iff

theorem Referenced.map {srvs servers' : Servers} {tns tunnels' : Tunnels}
    {f : ServerRecord → ServerRecord} {g : TunnelRecord → TunnelRecord}
    (h : Referenced srvs tns) (hss : servers'.rows = srvs.rows.map f)
    (hf : ∀ row, (f row).id = row.id) (htns : tunnels'.rows = tns.rows.map g)
    (hg : ∀ row, (g row).serverId = row.serverId) : Referenced servers' tunnels' := by
  rw [referenced_iff] at h ⊢
  rw [hss, htns]
  intro row hrow
  obtain ⟨old, hold, rfl⟩ := List.mem_map.1 hrow
  obtain ⟨srv, hs, hid⟩ := h old hold
  exact ⟨f srv, List.mem_map_of_mem hs, by rw [hf, hg, hid]⟩

theorem serverId_assigned {selects : TunnelRecord → Bool} {assign : TunnelRecord → TunnelRecord}
    (h : ∀ row, (assign row).serverId = row.serverId) (row : TunnelRecord) :
    (Table.assigned selects assign row).serverId = row.serverId :=
  Table.column_assigned h row

theorem id_assigned {selects : ServerRecord → Bool} {assign : ServerRecord → ServerRecord}
    (h : ∀ row, (assign row).id = row.id) (row : ServerRecord) :
    (Table.assigned selects assign row).id = row.id :=
  Table.column_assigned h row

namespace Database

@[ext] theorem ext {db db' : Database} (hs : db.servers.rows = db'.servers.rows)
    (htns : db.tunnels.rows = db'.tunnels.rows) : db = db' := by
  obtain ⟨srvs, tunnels, _⟩ := db
  obtain ⟨servers', tunnels', _⟩ := db'
  obtain rfl : srvs = servers' := Table.ext hs
  obtain rfl : tunnels = tunnels' := Table.ext htns
  rfl

variable {operation : String} {db db' : Database}

theorem ofTables_eq_ok {srvs : Servers} {tns : Tunnels} :
    ofTables operation srvs tns = .ok db' ↔
      db'.servers = srvs ∧ db'.tunnels = tns := by
  unfold ofTables
  by_cases h : Referenced srvs tns
  · rw [dif_pos h]
    constructor
    · intro heq
      cases heq
      exact ⟨rfl, rfl⟩
    · rintro ⟨rfl, rfl⟩
      rfl
  · rw [dif_neg h]
    refine iff_of_false failure_ne_ok ?_
    rintro ⟨rfl, rfl⟩
    exact h db'.referenced

theorem insertServer_eq_ok {row : ServerRecord} :
    db.insertServer operation row = .ok db' ↔
      db'.servers.rows = row :: db.servers.rows ∧ db'.tunnels = db.tunnels := by
  unfold insertServer
  rw [← Table.insert_eq_ok_iff]
  cases hi : db.servers.insert row with
  | error violation => simp [failure]
  | ok srvs =>
    simp only [ofTables_eq_ok, Except.ok.injEq]
    exact and_congr_left fun _ => eq_comm

theorem insertTunnel_eq_ok {row : TunnelRecord} :
    db.insertTunnel operation row = .ok db' ↔
      db'.servers = db.servers ∧ db'.tunnels.rows = row :: db.tunnels.rows := by
  unfold insertTunnel
  rw [← Table.insert_eq_ok_iff]
  cases hi : db.tunnels.insert row with
  | error violation => simp [failure]
  | ok tns =>
    simp only [ofTables_eq_ok, Except.ok.injEq]
    exact and_congr_right fun _ => eq_comm

variable {changes : Nat}

theorem map_ofTables_eq_ok {srvs : Servers} {tns : Tunnels} {count : Nat} :
    (ofTables operation srvs tns).map (·, count) = .ok (db', changes) ↔
      db'.servers = srvs ∧ db'.tunnels = tns ∧ changes = count := by
  rw [map_eq_ok]
  constructor
  · rintro ⟨found, hf, heq⟩
    cases heq
    obtain ⟨hs, htns⟩ := ofTables_eq_ok.1 hf
    exact ⟨hs, htns, rfl⟩
  · rintro ⟨hs, htns, rfl⟩
    exact ⟨db', ofTables_eq_ok.2 ⟨hs, htns⟩, rfl⟩

theorem updateServers_eq_ok {selects : ServerRecord → Bool} {assign : ServerRecord → ServerRecord} :
    db.updateServers operation selects assign = .ok (db', changes) ↔
      db'.servers.rows = db.servers.rows.map (Table.assigned selects assign) ∧
        db'.tunnels = db.tunnels ∧ changes = db.servers.rows.countP selects := by
  unfold updateServers
  cases hup : db.servers.update selects assign with
  | none => exact iff_of_false failure_ne_ok fun h => Table.update_ne_none h.1 hup
  | some res =>
    obtain ⟨hr, hc⟩ := Table.update_eq_some_iff.1 hup
    rw [← hr, ← Table.ext_iff, ← hc]
    exact map_ofTables_eq_ok

theorem updateTunnels_eq_ok {selects : TunnelRecord → Bool} {assign : TunnelRecord → TunnelRecord} :
    db.updateTunnels operation selects assign = .ok (db', changes) ↔
      db'.servers = db.servers ∧
        db'.tunnels.rows = db.tunnels.rows.map (Table.assigned selects assign) ∧
        changes = db.tunnels.rows.countP selects := by
  unfold updateTunnels
  cases hup : db.tunnels.update selects assign with
  | none => exact iff_of_false failure_ne_ok fun h => Table.update_ne_none h.2.1 hup
  | some res =>
    obtain ⟨hr, hc⟩ := Table.update_eq_some_iff.1 hup
    rw [← hr, ← Table.ext_iff, ← hc]
    exact map_ofTables_eq_ok

theorem deleteServer_eq_ok {id : Bytes} :
    db.deleteServer operation id = .ok db' ↔
      db'.servers = (db.servers.delete fun row => row.id = id) ∧
        db'.tunnels = db.tunnels.delete fun row => row.serverId = id :=
  ofTables_eq_ok

theorem deleteTunnel_eq_ok {id : Bytes} :
    db.deleteTunnel operation id = .ok db' ↔
      db'.servers = db.servers ∧ db'.tunnels = db.tunnels.delete fun row => row.id = id :=
  ofTables_eq_ok

end Database

section Succeeds

variable {operation : String} {db : Database}

theorem Database.updateServers_ok {selects : ServerRecord → Bool}
    {assign : ServerRecord → ServerRecord} (hid : ∀ row, (assign row).id = row.id)
    (hn : ∀ row, (assign row).nameKey = row.nameKey)
    (hc : ∀ row ∈ db.servers.rows, row.Checked → selects row = true → (assign row).Checked) :
    ∃ db' changes, db.updateServers operation selects assign = .ok (db', changes) := by
  obtain ⟨srvs, hup⟩ := Table.update_isSome hid hn db.servers hc
  obtain ⟨hr, -⟩ := Table.update_eq_some_iff.1 hup
  have href : Referenced srvs db.tunnels :=
    db.referenced.map hr (id_assigned hid) (List.map_id' _).symm fun _ => rfl
  exact ⟨⟨srvs, db.tunnels, href⟩, _, updateServers_eq_ok.2 ⟨hr, rfl, rfl⟩⟩

theorem Database.updateTunnels_ok {selects : TunnelRecord → Bool}
    {assign : TunnelRecord → TunnelRecord} (hid : ∀ row, (assign row).id = row.id)
    (hu : ∀ row, tunnelSchema.unique (assign row) = tunnelSchema.unique row)
    (hc : ∀ row ∈ db.tunnels.rows, row.Checked → selects row = true → (assign row).Checked) :
    ∃ db' changes, db.updateTunnels operation selects assign = .ok (db', changes) := by
  obtain ⟨tunnels, hup⟩ := Table.update_isSome hid hu db.tunnels hc
  obtain ⟨hr, -⟩ := Table.update_eq_some_iff.1 hup
  have hs : ∀ row, (assign row).serverId = row.serverId := fun row =>
    congrArg Prod.fst (hu row)
  have href : Referenced db.servers tunnels :=
    db.referenced.map (List.map_id' _).symm (fun _ => rfl) hr (serverId_assigned hs)
  exact ⟨⟨db.servers, tunnels, href⟩, _, updateTunnels_eq_ok.2 ⟨rfl, hr, rfl⟩⟩

end Succeeds

/-! ## What a query finds -/

section Queries

variable {net : AddressFamilies} {limits : Limits} {db : Database}

variable {id : Bytes}

theorem found_eq_ok {ρ υ : Type} {S : Schema ρ Bytes υ} {t : Table S} {P : ρ → Prop}
    {query : Result ρ} {rcd : ρ} (hno : t.find id = none → query ≠ .ok rcd)
    (hsome : ∀ row, t.find id = some row → (query = .ok rcd ↔ P row ∧ rcd = row)) :
    query = .ok rcd ↔ rcd ∈ t.rows ∧ S.key rcd = id ∧ P rcd := by
  cases hf : t.find id with
  | none =>
    refine iff_of_false (hno hf) ?_
    rintro ⟨hmem, hid, -⟩
    rw [Table.find_eq_some_iff.2 ⟨hmem, hid⟩] at hf
    cases hf
  | some row =>
    rw [hsome row hf]
    constructor
    · rintro ⟨hrow, rfl⟩
      obtain ⟨hmem, hid⟩ := Table.find_eq_some_iff.1 hf
      exact ⟨hmem, hid, hrow⟩
    · rintro ⟨hmem, hid, hrow⟩
      rw [Table.find_eq_some_iff.2 ⟨hmem, hid⟩] at hf
      cases hf
      exact ⟨hrow, rfl⟩

theorem getServer_eq_ok {record : ServerRecord} :
    getServer net db id = .ok record ↔
      record ∈ db.servers.rows ∧ record.id = id ∧ record.Readable net := by
  refine found_eq_ok (P := ServerRecord.Readable net) (fun hno => ?_) fun row hrow => ?_
  · rw [getServer, hno]
    exact failure_ne_ok
  · rw [getServer, hrow]
    exact readServer_eq_ok

theorem getTunnel_eq_ok {record : TunnelRecord} :
    getTunnel net db id = .ok record ↔
      record ∈ db.tunnels.rows ∧ record.id = id ∧ record.Readable net := by
  refine found_eq_ok (P := TunnelRecord.Readable net) (fun hno => ?_) fun row hrow => ?_
  · rw [getTunnel, hno]
    exact failure_ne_ok
  · rw [getTunnel, hrow]
    exact readTunnel_eq_ok

theorem listRows_eq_ok {ρ : Type} {read : ρ → Result ρ} {exceeded : Error} {P : ρ → Prop}
    (hrd : ∀ row rcd, read row = .ok rcd ↔ P row ∧ rcd = row) {rows records : List ρ} :
    ∀ {room : Nat}, listRows read exceeded room rows = .ok records ↔
      rows.length ≤ room ∧ (∀ row ∈ rows, P row) ∧ records = rows := by
  induction rows generalizing records with
  | nil =>
    intro room
    cases room <;> simp [listRows]
  | cons row rows ih =>
    intro room
    cases room with
    | zero => simp [listRows]
    | succ room =>
      simp only [listRows, do_eq_ok, hrd, ih, List.length_cons, Nat.add_le_add_iff_right,
        List.forall_mem_cons]
      constructor
      · rintro ⟨_, ⟨hrow, rfl⟩, _, ⟨hr, hrs, rfl⟩, heq⟩
        exact ⟨hr, ⟨hrow, hrs⟩, (Except.ok.inj heq).symm⟩
      · rintro ⟨hr, ⟨hrow, hrs⟩, rfl⟩
        exact ⟨row, ⟨hrow, rfl⟩, rows, ⟨hr, hrs, rfl⟩, rfl⟩

def sortedServers (db : Database) : List ServerRecord :=
  db.servers.rows.insertionSort fun row other => row.createdBefore other = true

def sortedTunnels (db : Database) : List TunnelRecord :=
  db.tunnels.rows.insertionSort fun row other => createdBefore row other = true

theorem mem_sortedServers {row : ServerRecord} : row ∈ sortedServers db ↔ row ∈ db.servers.rows :=
  List.mem_insertionSort _

theorem listServers_eq_ok {records : List ServerRecord} :
    listServers net limits db = .ok records ↔
      db.servers.rows.length ≤ limits.servers ∧ (∀ row ∈ db.servers.rows, row.Readable net) ∧
        records = sortedServers db := by
  unfold listServers
  rw [listRows_eq_ok fun row rcd => readServer_eq_ok]
  simp only [List.length_insertionSort, List.mem_insertionSort, sortedServers]

theorem listTunnels_eq_ok {records : List TunnelRecord} :
    listTunnels net limits db = .ok records ↔
      db.tunnels.rows.length ≤ limits.tunnels ∧ (∀ row ∈ db.tunnels.rows, row.Readable net) ∧
        records = sortedTunnels db := by
  unfold listTunnels
  rw [listRows_eq_ok fun row rcd => readTunnel_eq_ok]
  simp only [List.length_insertionSort, List.mem_insertionSort, sortedTunnels]

end Queries

/-! ## What the functions do -/

section Functions

variable {net : AddressFamilies} {limits : Limits} {db db' : Database}

variable {code : ErrorCode} {msg : String} {id : Id}

theorem oneRow_eq_ok {statement : Result (Database × Nat)} {Q : Database → Prop}
    (hs : ∀ updated changes, statement = .ok (updated, changes) ↔ Q updated ∧ changes = 1) :
    (do
      let (updated, changes) ← statement
      if changes ≠ 1 then failure code msg else pure updated) = .ok db' ↔ Q db' := by
  rw [do_eq_ok]
  constructor
  · rintro ⟨⟨updated, changes⟩, hrun, hres⟩
    obtain ⟨hupd, rfl⟩ := (hs updated changes).1 hrun
    cases hres
    exact hupd
  · intro hupd
    exact ⟨(db', 1), (hs db' 1).2 ⟨hupd, rfl⟩, rfl⟩

theorem updateServerRow_eq_ok {operation : String} {assign : ServerRecord → ServerRecord}
    {old : ServerRecord} {id : Bytes} (hmem : old ∈ db.servers.rows)
    (hid : old.id = id) :
    (do
      let (updated, changes) ← db.updateServers operation (fun row => row.id = id) assign
      if changes ≠ 1 then failure code msg else pure updated) = .ok db' ↔
      db'.servers.rows = db.servers.rows.map (Table.assigned (fun row => row.id = id) assign) ∧
        db'.tunnels = db.tunnels := by
  have hone : db.servers.rows.countP (fun row => row.id = id) = 1 := by
    rw [← hid]
    exact Table.countP_key hmem
  refine oneRow_eq_ok (Q := fun updated => updated.servers.rows =
    db.servers.rows.map (Table.assigned (fun row => row.id = id) assign) ∧
      updated.tunnels = db.tunnels) fun updated changes => ?_
  rw [Database.updateServers_eq_ok, hone, and_assoc]

theorem updateTunnelRow_eq_ok {operation : String} {assign : TunnelRecord → TunnelRecord}
    {old : TunnelRecord} {id : Bytes} (hmem : old ∈ db.tunnels.rows)
    (hid : old.id = id) :
    (do
      let (updated, changes) ← db.updateTunnels operation (fun row => row.id = id) assign
      if changes ≠ 1 then failure code msg else pure updated) = .ok db' ↔
      db'.servers = db.servers ∧
        db'.tunnels.rows =
          db.tunnels.rows.map (Table.assigned (fun row => row.id = id) assign) := by
  have hone : db.tunnels.rows.countP (fun row => row.id = id) = 1 := by
    rw [← hid]
    exact Table.countP_key hmem
  refine oneRow_eq_ok (Q := fun updated => updated.servers = db.servers ∧ updated.tunnels.rows =
    db.tunnels.rows.map (Table.assigned (fun row => row.id = id) assign)) fun updated changes => ?_
  rw [Database.updateTunnels_eq_ok, hone, and_assoc]

/-- A row that is looked up, checked and then acted on, where the action is the same for
every row that may have been found. -/
theorem existing_eq_ok {ρ : Type} {query : Result ρ} {act : ρ → Result Database}
    {M I R C : ρ → Prop} {D : Prop} (hq : ∀ row, query = .ok row ↔ M row ∧ I row ∧ R row)
    (hact : ∀ row, M row → I row → (act row = .ok db' ↔ C row ∧ D)) :
    (query >>= act) = .ok db' ↔ (∃ row, M row ∧ I row ∧ R row ∧ C row) ∧ D := by
  simp only [do_eq_ok, hq]
  constructor
  · rintro ⟨row, ⟨hmem, hid, hr⟩, h⟩
    obtain ⟨hc, hd⟩ := (hact row hmem hid).1 h
    exact ⟨⟨row, hmem, hid, hr, hc⟩, hd⟩
  · rintro ⟨⟨row, hmem, hid, hr, hc⟩, hd⟩
    exact ⟨row, ⟨hmem, hid, hr⟩, (hact row hmem hid).2 ⟨hc, hd⟩⟩

theorem createServer_eq_ok {rcd : ServerRecord} :
    createServer limits rcd db = .ok db' ↔
      validateServerRecord rcd = .ok () ∧ db.servers.rows.length < limits.servers ∧
        db'.servers.rows = rcd :: db.servers.rows ∧ db'.tunnels = db.tunnels := by
  simp only [createServer, do_eq_ok, exists_unit, guard_eq_ok, Nat.not_le,
    Database.insertServer_eq_ok]

theorem createTunnel_eq_ok {rcd : TunnelRecord} :
    createTunnel limits rcd db = .ok db' ↔
      validateTunnelRecord rcd = .ok () ∧ db.tunnels.rows.length < limits.tunnels ∧
        db'.servers = db.servers ∧ db'.tunnels.rows = rcd :: db.tunnels.rows := by
  simp only [createTunnel, do_eq_ok, exists_unit, guard_eq_ok, Nat.not_le,
    Database.insertTunnel_eq_ok]

theorem updateServer_eq_ok {rcd : ServerRecord} :
    updateServer net rcd db = .ok db' ↔
      validateServerRecord rcd = .ok () ∧
        (∃ existing ∈ db.servers.rows, existing.id = rcd.id ∧ existing.Readable net ∧
          rcd.createdAt = existing.createdAt ∧ existing.updatedAt ≤ rcd.updatedAt ∧
          existing.configRevision ≤ rcd.configRevision) ∧
        db'.servers.rows = db.servers.rows.map (Table.replaceBy ServerRecord.id rcd) ∧
        db'.tunnels = db.tunnels := by
  rw [updateServer, do_eq_ok, exists_unit]
  refine and_congr_right fun _ =>
    existing_eq_ok (fun _ => getServer_eq_ok) fun existing hmem hid => ?_
  rw [guard_eq_ok, updateServerRow_eq_ok hmem hid]
  simp only [not_or, not_not, Int.not_lt, Nat.not_lt]
  -- the statement writes the record: the columns it leaves alone are those of the row
  refine and_congr_right fun hm => and_congr_left fun _ => Eq.congr_right ?_
  exact Table.map_assigned_key hmem hid (by simp only [← hm.1, hid])

theorem updateTunnel_eq_ok {rcd : TunnelRecord} :
    updateTunnel net rcd db = .ok db' ↔
      validateTunnelRecord rcd = .ok () ∧
        (∃ existing ∈ db.tunnels.rows, existing.id = rcd.id ∧ existing.Readable net ∧
          rcd.createdAt = existing.createdAt ∧ existing.updatedAt ≤ rcd.updatedAt ∧
          existing.configRevision ≤ rcd.configRevision) ∧
        db'.servers = db.servers ∧
        db'.tunnels.rows = db.tunnels.rows.map (Table.replaceBy TunnelRecord.id rcd) := by
  rw [updateTunnel, do_eq_ok, exists_unit]
  refine and_congr_right fun _ =>
    existing_eq_ok (fun _ => getTunnel_eq_ok) fun existing hmem hid => ?_
  rw [guard_eq_ok, updateTunnelRow_eq_ok hmem hid]
  simp only [not_or, not_not, Int.not_lt, Nat.not_lt]
  refine and_congr_right fun hm => and_congr_right fun _ => Eq.congr_right ?_
  exact Table.map_assigned_key hmem hid (by simp only [← hm.1, hid])

theorem markTunnelRemoved_eq_ok {upd : Int} :
    markTunnelRemoved net id upd db = .ok db' ↔
      id.kind = .tunnel ∧ 0 ≤ upd ∧
        (∃ existing ∈ db.tunnels.rows, existing.id = id.text ∧ existing.Readable net ∧
          existing.updatedAt ≤ upd) ∧
        db'.servers = db.servers ∧
        db'.tunnels.rows = db.tunnels.rows.map
          (Table.assigned (fun row => row.id = id.text) (TunnelRecord.entombed upd)) := by
  rw [markTunnelRemoved, guard_eq_ok, not_or, not_not, Int.not_lt, and_assoc]
  refine and_congr_right fun _ => and_congr_right fun _ =>
    existing_eq_ok (fun _ => getTunnel_eq_ok) fun existing hmem hid => ?_
  rw [guard_eq_ok, updateTunnelRow_eq_ok hmem hid, Int.not_lt]

/-- The children of a server that its removal marks. -/
def isLiveChild (serverId : Bytes) (row : TunnelRecord) : Bool :=
  row.serverId = serverId ∧ !row.isTombstone

theorem markServerRemoved_eq_ok {upd : Int} :
    markServerRemoved net id upd db = .ok db' ↔
      id.kind = .server ∧ 0 ≤ upd ∧
        (∃ existing ∈ db.servers.rows, existing.id = id.text ∧ existing.Readable net ∧
          existing.updatedAt ≤ upd) ∧
        hasNonTombstoneChildren db id.text (some upd) = false ∧
        db'.servers.rows = db.servers.rows.map
          (Table.assigned (fun row => row.id = id.text) (ServerRecord.entombed upd)) ∧
        db'.tunnels.rows = db.tunnels.rows.map
          (Table.assigned (isLiveChild id.text) (TunnelRecord.entombed upd)) := by
  rw [markServerRemoved, guard_eq_ok, not_or, not_not, Int.not_lt, and_assoc]
  refine and_congr_right fun _ => and_congr_right fun _ =>
    existing_eq_ok (fun _ => getServer_eq_ok) fun existing hmem hid => ?_
  rw [guard_eq_ok, guard_eq_ok, Int.not_lt, Bool.not_eq_true, do_eq_ok]
  refine and_congr_right fun _ => and_congr_right fun _ => ?_
  constructor
  · rintro ⟨⟨mid, _⟩, hmid, h⟩
    obtain ⟨hs, htns, -⟩ := Database.updateTunnels_eq_ok.1 hmid
    obtain ⟨hs', htns'⟩ := (updateServerRow_eq_ok (by rw [hs]; exact hmem) hid).1 h
    rw [hs', hs, htns', htns]
    exact ⟨rfl, rfl⟩
  · rintro ⟨hs, htns⟩
    -- between the two statements the tunnels are already marked
    have href : Referenced db.servers db'.tunnels :=
      db.referenced.map (List.map_id' _).symm (fun _ => rfl) htns (serverId_assigned fun _ => rfl)
    obtain ⟨mid, hfst, hsec⟩ : ∃ mid : Database,
        mid.servers = db.servers ∧ mid.tunnels = db'.tunnels :=
      ⟨⟨db.servers, db'.tunnels, href⟩, rfl, rfl⟩
    rw [← hsec] at htns
    rw [← hfst] at hmem hs
    refine ⟨(mid, _), Database.updateTunnels_eq_ok.2 ⟨hfst, htns, rfl⟩, ?_⟩
    exact (updateServerRow_eq_ok hmem hid).2 ⟨hs, hsec.symm⟩

theorem eraseTunnel_eq_ok :
    eraseTunnel net id db = .ok db' ↔
      id.kind = .tunnel ∧
        (∃ existing ∈ db.tunnels.rows, existing.id = id.text ∧ existing.Readable net ∧
          existing.isTombstone = true) ∧
        db'.servers = db.servers ∧
        db'.tunnels = db.tunnels.delete fun row => row.id = id.text := by
  rw [eraseTunnel, guard_eq_ok, not_not]
  refine and_congr_right fun _ =>
    existing_eq_ok (fun _ => getTunnel_eq_ok) fun existing hmem hid => ?_
  rw [guard_eq_ok, not_or, not_not, not_not, Database.deleteTunnel_eq_ok, TunnelRecord.isTombstone,
    decide_eq_true_eq]

theorem eraseServer_eq_ok :
    eraseServer net id db = .ok db' ↔
      id.kind = .server ∧
        (∃ existing ∈ db.servers.rows, existing.id = id.text ∧ existing.Readable net ∧
          existing.desiredState = .removed ∧ existing.actualState = .disabled) ∧
        hasNonTombstoneChildren db id.text none = false ∧
        db'.servers = (db.servers.delete fun row => row.id = id.text) ∧
        db'.tunnels = db.tunnels.delete fun row => row.serverId = id.text := by
  rw [eraseServer, guard_eq_ok, not_not]
  refine and_congr_right fun _ =>
    existing_eq_ok (fun _ => getServer_eq_ok) fun existing hmem hid => ?_
  rw [guard_eq_ok, guard_eq_ok, not_or, not_not, not_not, Bool.not_eq_true,
    Database.deleteServer_eq_ok]

end Functions

/-! ## When a function succeeds -/

section Succeeding

variable {net : AddressFamilies} {db : Database}

theorem exists_updateServer_iff {record existing : ServerRecord} (hmem : existing ∈ db.servers.rows)
    (hid : existing.id = record.id) :
    (∃ db', updateServer net record db = .ok db') ↔
      validateServerRecord record = .ok () ∧ existing.Readable net ∧
        record.createdAt = existing.createdAt ∧ existing.updatedAt ≤ record.updatedAt ∧
        existing.configRevision ≤ record.configRevision ∧ record.Checked ∧
        ∀ other ∈ db.servers.rows, other.id ≠ record.id → other.nameKey ≠ record.nameKey := by
  simp only [updateServer_eq_ok]
  constructor
  · rintro ⟨db', hval, ⟨row, hrow, hrowI, hrd, hm⟩, hr, -⟩
    obtain rfl : row = existing :=
      List.inj_on_of_nodup_map db.servers.keys hrow hmem (hrowI.trans hid.symm)
    exact ⟨hval, hrd, hm.1, hm.2.1, hm.2.2,
      (Table.exists_replaceBy_iff hmem hid).1 ⟨db'.servers, hr⟩⟩
  · rintro ⟨hval, hrd, hc, hupd, hrev, hfree⟩
    obtain ⟨srvs, hr⟩ := (Table.exists_replaceBy_iff hmem hid).2 hfree
    have href : Referenced srvs db.tunnels :=
      db.referenced.map hr (Table.key_replaceBy (S := serverSchema) record)
        (List.map_id' _).symm fun _ => rfl
    exact ⟨⟨srvs, db.tunnels, href⟩, hval, ⟨existing, hmem, hid, hrd, hc, hupd, hrev⟩, hr, rfl⟩

theorem exists_eraseServer {id : Id} {existing : ServerRecord} (hk : id.kind = .server)
    (hmem : existing ∈ db.servers.rows) (hid : existing.id = id.text)
    (hr : existing.Readable net) (hd : existing.desiredState = .removed)
    (hact : existing.actualState = .disabled)
    (hc : ∀ row ∈ db.tunnels.rows, row.serverId = id.text → row.isTombstone = true) :
    ∃ db', eraseServer net id db = .ok db' := by
  have hno : hasNonTombstoneChildren db id.text none = false := by
    rw [hasNonTombstoneChildren, List.any_eq_false]
    intro row hrow
    have ht := hc row hrow
    simp_all
  have href : Referenced (db.servers.delete fun row => row.id = id.text)
      (db.tunnels.delete fun row => row.serverId = id.text) := by
    rw [referenced_iff]
    intro row hrow
    obtain ⟨hrow, ho⟩ := Table.mem_delete.1 hrow
    obtain ⟨srv, hs, hp⟩ := referenced_iff.1 db.referenced row hrow
    exact ⟨srv, Table.mem_delete.2 ⟨hs, by simpa [hp] using ho⟩, hp⟩
  exact ⟨⟨_, _, href⟩, eraseServer_eq_ok.2 ⟨hk,
    ⟨existing, hmem, hid, hr, hd, hact⟩, hno, rfl, rfl⟩⟩

end Succeeding

/-! ## What recovery does -/

theorem TunnelRecord.Checked.restated {row : TunnelRecord} (h : row.Checked)
    (desiredState : TunnelDesiredState) (actualState : TunnelActualState) {updatedAt : Int}
    (hupd : row.updatedAt ≤ updatedAt) :
    ({ row with desiredState, actualState, updatedAt } : TunnelRecord).Checked where
  configuration := h.configuration
  lastError := h.lastError
  timed :=
    { created := h.timed.created
      updated := h.timed.updated.trans hupd
      synced := fun time htime =>
        ⟨(h.timed.synced time htime).1, (h.timed.synced time htime).2.trans hupd⟩ }

theorem ServerRecord.Checked.restated {row : ServerRecord} (h : row.Checked)
    (desiredState : ServerDesiredState) (actualState : ServerActualState) {updatedAt : Int}
    (hupd : row.updatedAt ≤ updatedAt) :
    ({ row with
        desiredState, actualState, reconnectAttempt := 0, latencyMs := none,
        updatedAt } : ServerRecord).Checked where
  texts := h.texts
  lastError := h.lastError
  numbers := by
    have hn := h.numbers
    simp only [ServerRecord.validNumbers, Bool.and_eq_true, decide_eq_true_eq, Option.all_none,
      Nat.zero_le, true_and] at hn ⊢
    omega

section Recovery

variable {net : AddressFamilies} {limits : Limits} {db db' : Database} {recoveredAt recAt : Int}

def ServerRecord.normalized (recoveredAt : Int) : ServerRecord → ServerRecord :=
  Table.assigned ServerRecord.needsRecovery (ServerRecord.recovered recoveredAt)

/-- What it makes of a tunnel row, given the servers that are removed. -/
def TunnelRecord.normalized (recoveredAt : Int) (removed : List Bytes) (row : TunnelRecord) :
    TunnelRecord :=
  Table.assigned (fun row => row.actualState ≠ row.recoveredState)
    (TunnelRecord.recovered recoveredAt)
    (Table.assigned (fun row => row.serverId ∈ removed ∧ !row.isTombstone)
      (fun row => row.entombed (max row.updatedAt recoveredAt)) row)

theorem removedServerIds_map {f : ServerRecord → ServerRecord}
    (hr : db'.servers.rows = db.servers.rows.map f)
    (hf : ∀ row, (f row).id = row.id ∧ (f row).desiredState = row.desiredState) :
    removedServerIds db' = removedServerIds db := by
  have hs : (fun row : ServerRecord => decide (row.desiredState = .removed)) ∘ f =
      fun row => decide (row.desiredState = .removed) := by
    funext row
    simp [(hf row).2]
  have hid : ServerRecord.id ∘ f = ServerRecord.id := funext fun row => (hf row).1
  rw [removedServerIds, removedServerIds, hr, List.filter_map, List.map_map, hs, hid]

theorem exists_normalize (recAt : Int) (db : Database) :
    ∃ db', normalize recAt db = .ok db' := by
  have hsv : ∃ recovered changes, db.updateServers "normalize recovered server state"
      ServerRecord.needsRecovery (ServerRecord.recovered recAt) = .ok (recovered, changes) :=
    Database.updateServers_ok (fun _ => rfl) (fun _ => rfl) fun row _ hrow _ =>
      hrow.restated row.desiredState _ (Int.le_max_left _ _)
  obtain ⟨recovered, _, hrec⟩ := hsv
  have ht : ∃ propagated changes,
      recovered.updateTunnels "propagate removed server tombstones"
        (fun row => row.serverId ∈ removedServerIds recovered ∧ !row.isTombstone)
        (fun row => row.entombed (max row.updatedAt recAt)) = .ok (propagated, changes) :=
    Database.updateTunnels_ok (fun _ => rfl) (fun _ => rfl) fun row _ hrow _ =>
      hrow.restated _ _ (Int.le_max_left _ _)
  obtain ⟨propagated, _, hp⟩ := ht
  have hs : ∃ normalized changes,
      propagated.updateTunnels "normalize recovered tunnel state"
        (fun row => row.actualState ≠ row.recoveredState) (TunnelRecord.recovered recAt) =
      .ok (normalized, changes) :=
    Database.updateTunnels_ok (fun _ => rfl) (fun _ => rfl) fun row _ hrow _ =>
      hrow.restated row.desiredState _ (Int.le_max_left _ _)
  obtain ⟨normalized, _, hnor⟩ := hs
  refine ⟨normalized, ?_⟩
  exact do_eq_ok.2 ⟨_, hrec, do_eq_ok.2 ⟨_, hp, do_eq_ok.2 ⟨_, hnor, rfl⟩⟩⟩

theorem rows_normalize (h : normalize recAt db = .ok db') :
    db'.servers.rows = db.servers.rows.map (ServerRecord.normalized recAt) ∧
      db'.tunnels.rows = db.tunnels.rows.map
        (TunnelRecord.normalized recAt (removedServerIds db)) := by
  obtain ⟨⟨recovered, _⟩, hrec, h⟩ := do_eq_ok.1 h
  obtain ⟨⟨propagated, _⟩, hp, h⟩ := do_eq_ok.1 h
  obtain ⟨⟨normalized, _⟩, hnor, h⟩ := do_eq_ok.1 h
  cases h
  obtain ⟨hs, htns, -⟩ := Database.updateServers_eq_ok.1 hrec
  obtain ⟨hs', htns', -⟩ := Database.updateTunnels_eq_ok.1 hp
  obtain ⟨hs'', htns'', -⟩ := Database.updateTunnels_eq_ok.1 hnor
  have hr : removedServerIds recovered = removedServerIds db := by
    apply removedServerIds_map hs
    intro row
    unfold Table.assigned
    split <;> exact ⟨rfl, rfl⟩
  refine ⟨by rw [hs'', hs', hs]; rfl, ?_⟩
  rw [htns'', htns', htns, hr, List.map_map]
  rfl

theorem recover_eq_ok {snap : RecoverySnapshot} :
    recover net limits recAt db = .ok (db', snap) ↔
      db.servers.rows.length ≤ limits.servers ∧ db.tunnels.rows.length ≤ limits.tunnels ∧
        db.Readable net ∧ normalize recAt db = .ok db' ∧ db'.Readable net ∧
        snap = ⟨sortedServers db', sortedTunnels db'⟩ := by
  unfold recover
  simp only [do_eq_ok, listServers_eq_ok, listTunnels_eq_ok, Database.readable_iff]
  constructor
  · rintro ⟨_, ⟨hs, hr, -⟩, _, ⟨htns, hr', -⟩, normalized, hnor,
      _, ⟨-, ha, rfl⟩, _, ⟨-, ha', rfl⟩, h⟩
    cases h
    exact ⟨hs, htns, ⟨hr, hr'⟩, hnor, ⟨ha, ha'⟩, rfl⟩
  · rintro ⟨hs, htns, ⟨hr, hr'⟩, hnor, ⟨ha, ha'⟩, rfl⟩
    obtain ⟨hrs, hrs'⟩ := rows_normalize hnor
    refine ⟨_, ⟨hs, hr, rfl⟩, _, ⟨htns, hr', rfl⟩, db', hnor, _,
      ⟨?_, ha, rfl⟩, _, ⟨?_, ha', rfl⟩, rfl⟩
    · rw [hrs, List.length_map]
      exact hs
    · rw [hrs', List.length_map]
      exact htns

theorem ServerRecord.normalized_eq (recAt : Int) (row : ServerRecord) :
    row.normalized recAt =
      { row with
        actualState := row.recoveredState
        reconnectAttempt := 0
        latencyMs := none
        updatedAt := (row.normalized recAt).updatedAt } := by
  unfold ServerRecord.normalized Table.assigned
  split
  · rfl
  · next h =>
    simp only [ServerRecord.needsRecovery, decide_eq_true_eq, not_or, not_not] at h
    obtain ⟨hs, ha, hl⟩ := h
    rw [← hs, ← ha, ← hl]

theorem ServerRecord.columns_normalized (recAt : Int) (row : ServerRecord) :
    (row.normalized recAt).id = row.id ∧
      (row.normalized recAt).desiredState = row.desiredState := by
  rw [ServerRecord.normalized_eq]
  exact ⟨rfl, rfl⟩

theorem notMem_removedServerIds {id : Bytes} :
    id ∉ removedServerIds db ↔
      ∀ srv ∈ db.servers.rows, srv.id = id → srv.desiredState ≠ .removed := by
  simp only [removedServerIds, List.mem_map, List.mem_filter, decide_eq_true_eq, not_exists,
    not_and]
  exact ⟨fun hall srv hs hid hst => hall srv ⟨hs, hst⟩ hid,
    fun hall srv hs hid => hall srv hs.1 hid hs.2⟩

theorem TunnelRecord.serverId_normalized (recAt : Int) (removed : List Bytes)
    (row : TunnelRecord) : (row.normalized recAt removed).serverId = row.serverId := by
  rw [TunnelRecord.normalized, serverId_assigned, serverId_assigned]
  · exact fun _ => rfl
  · exact fun _ => rfl

theorem TunnelRecord.normalized_eq (recAt : Int) {removed : List Bytes} {row : TunnelRecord}
    (h : row.serverId ∉ removed) :
    row.normalized recAt removed =
      { row with
        actualState := row.recoveredState
        updatedAt := (row.normalized recAt removed).updatedAt } := by
  have hk : Table.assigned (fun row => row.serverId ∈ removed ∧ !row.isTombstone)
      (fun row => row.entombed (max row.updatedAt recAt)) row = row :=
    if_neg (by simp [h])
  unfold TunnelRecord.normalized
  rw [hk]
  unfold Table.assigned
  split
  · rfl
  · next hs =>
    simp only [decide_eq_true_eq, not_not] at hs
    rw [← hs]

theorem TunnelRecord.isTombstone_normalized (recAt : Int) {removed : List Bytes}
    {row : TunnelRecord} (h : row.serverId ∈ removed) :
    (row.normalized recAt removed).isTombstone = true := by
  unfold TunnelRecord.normalized
  by_cases ht : row.isTombstone = true
  · simp only [TunnelRecord.isTombstone, decide_eq_true_eq] at ht
    obtain ⟨hd, hact⟩ := ht
    simp [Table.assigned, TunnelRecord.recoveredState, TunnelRecord.isTombstone, hd, hact]
  · have hm : Table.assigned (fun row => row.serverId ∈ removed ∧ !row.isTombstone)
        (fun row => row.entombed (max row.updatedAt recAt)) row =
        row.entombed (max row.updatedAt recAt) :=
      if_pos (by simp [h, ht])
    rw [hm]
    rfl

end Recovery

end MiniTun.Storage
