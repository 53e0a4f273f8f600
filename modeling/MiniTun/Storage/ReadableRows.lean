import MiniTun.Storage.StateRepository

/-!
# What the repositories write they can read

A row that cannot be read makes every `list` fail, and with it the start of the
daemon.  Creating and updating validate the record they write with the code the
reader uses; the other operations change columns that the reader accepts in any
combination the schema admits, with one exception.  `update_runtime_state_if_revision`
bounds the length of an error's message and looks no further, where its sibling
`mark_active_pending_by_server` validates it as text.
-/

namespace MiniTun.Storage

open Relational

/-! ## Columns the reader looks at -/

section Columns

variable {net : AddressFamilies}

/-- The columns of a tunnel that reading checks beyond what the schema does. -/
def TunnelRecord.readColumns (row : TunnelRecord) :=
  (row.id, row.name, row.serverId, row.localEndpoint, row.remoteEndpoint, row.configRevision,
    row.lastErrorMessage)

theorem TunnelRecord.Checked.readable_iff {row : TunnelRecord} (h : row.Checked) :
    row.Readable net ↔ Spelled net row.localEndpoint ∧ Spelled net row.remoteEndpoint ∧
      row.Configured ∧ validMessage row.lastErrorMessage = true := by
  have hc : row.lastErrorCode ≠ some .ok := by
    have hla := h.lastError
    simp only [validLastError, decide_eq_true_eq] at hla
    exact hla.1
  constructor
  · rintro ⟨hl, hr, hval⟩
    obtain ⟨hcfg, -, hmsg, -⟩ := validateTunnelRecord_eq_ok.1 hval
    exact ⟨hl, hr, hcfg, hmsg⟩
  · rintro ⟨hl, hr, hcfg, hmsg⟩
    exact ⟨hl, hr, validateTunnelRecord_eq_ok.2 ⟨hcfg, hc, hmsg, h.timed⟩⟩

theorem TunnelRecord.Readable.of_columns {row row' : TunnelRecord} (h : row.Readable net)
    (hch : row.Checked) (hch' : row'.Checked)
    (hc : row'.readColumns = row.readColumns) : row'.Readable net := by
  simp only [readColumns, Prod.mk.injEq] at hc
  obtain ⟨hid, hn, hsv, hl, hr, hrev, hmsg⟩ := hc
  obtain ⟨hs, hs', ⟨hid', hsv', hn', hrev'⟩, hmsg'⟩ :=
    hch.readable_iff.1 h
  refine hch'.readable_iff.2 ⟨hl ▸ hs, hr ▸ hs', ?_, hmsg ▸ hmsg'⟩
  exact ⟨hid ▸ hid', hsv ▸ hsv', hn ▸ hn', hrev ▸ hrev'⟩

/-- The columns of a server that neither removal nor recovery writes. -/
def ServerRecord.readColumns (row : ServerRecord) :=
  (row.id, row.name, row.endpoint, row.credentialRef, row.remoteServerId, row.tlsServerName,
    row.caCredentialRef, row.clientCertificateRef, row.clientPrivateKeyRef, row.configRevision,
    row.lastErrorCode, row.lastErrorMessage, row.createdAt)

theorem ServerRecord.Checked.measured {row : ServerRecord} (h : row.Checked) : row.Measured := by
  have hn := h.numbers
  simp only [ServerRecord.validNumbers, Bool.and_eq_true, decide_eq_true_eq] at hn
  obtain ⟨⟨⟨ha, hl⟩, ht⟩, -⟩ := hn
  refine ⟨ha, ?_, ht.2⟩
  cases hm : row.latencyMs with
  | none => rfl
  | some latency =>
    simp only [hm, Option.all_some, decide_eq_true_eq] at hl
    simp only [Option.any_some, decide_eq_false_iff_not]
    omega

theorem ServerRecord.Readable.of_columns {row row' : ServerRecord} (h : row.Readable net)
    (hc' : row'.Checked) (hcl : row'.readColumns = row.readColumns) :
    row'.Readable net := by
  simp only [readColumns, Prod.mk.injEq] at hcl
  obtain ⟨hid, hn, hend, hcr, hr, htls, hca, hc, hkey, hrev, hcd, hmsg, hce⟩ := hcl
  obtain ⟨hcfg, -⟩ := validateServerRecord_eq_ok.1 h.valid
  refine ⟨hend ▸ h.endpoint, validateServerRecord_eq_ok.2 ⟨?_, hc'.measured⟩⟩
  exact
    { id := hid ▸ hcfg.id
      name := hn ▸ hcfg.name
      credentialRef := hcr ▸ hcfg.credentialRef
      remoteServerId := hr ▸ hcfg.remoteServerId
      tlsServerName := htls ▸ hcfg.tlsServerName
      caCredentialRef := hca ▸ hcfg.caCredentialRef
      clientCertificateRef := hc ▸ hcfg.clientCertificateRef
      clientPrivateKeyRef := hkey ▸ hcfg.clientPrivateKeyRef
      paired := by rw [hc, hkey]; exact hcfg.paired
      revision := hrev ▸ hcfg.revision
      lastError := by rw [hcd, hmsg]; exact hcfg.lastError
      created := hce ▸ hcfg.created }

end Columns

/-! ## Operations -/

/-- An endpoint that `Endpoint::parse` made.  There is no other way to make one. -/
def Parsed (net : AddressFamilies) (endpoint : Endpoint) : Prop :=
  ∃ value, Endpoint.parse net value = .ok endpoint

theorem Parsed.spelled {net : AddressFamilies} (hnet : Endpoint.Documented net)
    {ep : Endpoint} (h : Parsed net ep) : Spelled net ep :=
  let ⟨_, hp⟩ := h
  Endpoint.parse_text hnet hp

/-- A `common::Error` that a caller passes.  Its code need not be an enumerator. -/
structure RawError where
  code : RawErrorCode
  message : Bytes

/-- What the columns of the last error hold: a code is stored as its text, which for an
unnamed one is that of `internal_error`. -/
def RawError.recorded (error : RawError) : RecordedError :=
  ⟨(namedErrorCode error.code).getD .internalError, error.message⟩

/-- The error as `mark_active_pending_by_server` takes it.  An unnamed code is refused in
the branch that refuses `ok`. -/
def RawError.known (error : RawError) : RecordedError :=
  ⟨(namedErrorCode error.code).getD .ok, error.message⟩

/-- A call of one of the repositories. -/
inductive Operation (net : AddressFamilies) where
  | createServer (record : ServerRecord) (made : Parsed net record.endpoint)
  | updateServer (record : ServerRecord) (made : Parsed net record.endpoint)
  | markServerRemoved (id : Id) (updatedAt : Int)
  | eraseServer (id : Id)
  | createTunnel (record : TunnelRecord) (madeLocal : Parsed net record.localEndpoint)
      (madeRemote : Parsed net record.remoteEndpoint)
  | updateTunnel (record : TunnelRecord) (madeLocal : Parsed net record.localEndpoint)
      (madeRemote : Parsed net record.remoteEndpoint)
  | markTunnelRemoved (id : Id) (updatedAt : Int)
  | eraseTunnel (id : Id)
  | markActivePendingByServer (serverId : Id) (error : Option RawError) (updatedAt : Int)
  | updateRuntimeStateIfRevision (id serverId : Id) (expectedRevision : Nat)
      (state : TunnelActualState) (error : Option RawError) (updatedAt : Int)
      (synchronized : Bool)
  | recover (recoveredAt : Int)

/-- A transaction around a function of the database.  A step that fails rolls it back. -/
def transaction (fault : Option Error) (db : Database) (result : Result Database) :
    Result Unit × Database :=
  match result, fault with
  | .error e, _ => (.error e, db)
  | .ok _, some e => (.error e, db)
  | .ok db', none => (.ok (), db')

/-- The same for a transaction that writes tunnels only. -/
def tunnelTransaction {α : Type} (db : Database) (operation : String)
    (outcome : Result α × Tunnels) : Result Unit × Database :=
  match outcome with
  | (.error e, _) => (.error e, db)
  | (.ok _, tunnels) => transaction none db (Database.ofTables operation db.servers tunnels)

/-- What a call reports, and the database it leaves.  `fault` is an error of SQLite in any
step of it. -/
def Operation.run {net : AddressFamilies} (limits : Limits) (fault : Option Error) (db : Database) :
    Operation net → Result Unit × Database
  | .createServer record _ => transaction fault db (Storage.createServer limits record db)
  | .updateServer record _ => transaction fault db (Storage.updateServer net record db)
  | .markServerRemoved id updatedAt =>
    transaction fault db (Storage.markServerRemoved net id updatedAt db)
  | .eraseServer id => transaction fault db (Storage.eraseServer net id db)
  | .createTunnel record _ _ => transaction fault db (Storage.createTunnel limits record db)
  | .updateTunnel record _ _ => transaction fault db (Storage.updateTunnel net record db)
  | .markTunnelRemoved id updatedAt =>
    transaction fault db (Storage.markTunnelRemoved net id updatedAt db)
  | .eraseTunnel id => transaction fault db (Storage.eraseTunnel net id db)
  | .markActivePendingByServer serverId error updatedAt =>
    tunnelTransaction db "mark active server tunnels pending"
      (Storage.markActivePendingByServer db.tunnels fault serverId (error.map RawError.known)
        updatedAt)
  | .updateRuntimeStateIfRevision id serverId expectedRevision state error updatedAt synchronized =>
    tunnelTransaction db "conditionally update tunnel runtime state"
      (Storage.updateRuntimeStateIfRevision db.tunnels fault id serverId expectedRevision state
        (error.map RawError.recorded) updatedAt synchronized)
  | .recover recoveredAt =>
    transaction fault db ((Storage.recover net limits recoveredAt db).map Prod.fst)

/-- The row a create or an update wrote reads back as the record that was passed. -/
def Operation.ReadsBack {net : AddressFamilies} (db : Database) : Operation net → Prop
  | .createServer record _ => getServer net db record.id = .ok record
  | .updateServer record _ => getServer net db record.id = .ok record
  | .createTunnel record _ _ => getTunnel net db record.id = .ok record
  | .updateTunnel record _ _ => getTunnel net db record.id = .ok record
  | _ => True

/-- A conditional update whose arguments are accepted, that has a row to write to, and
whose message is not text. -/
def Operation.Garbles {net : AddressFamilies} (db : Database) : Operation net → Prop
  | .updateRuntimeStateIfRevision id serverId expectedRevision state (some error) updatedAt _ =>
    checkRuntimeUpdate id serverId expectedRevision state (some error.recorded) updatedAt = .ok () ∧
      (∃ row ∈ db.tunnels.rows,
        runtimeSelects id.text serverId.text expectedRevision state row = true) ∧
      ((0 : UInt8) ∈ error.message ∨ isValidUtf8 error.message = false)
  | _ => False

theorem transaction_eq_ok {flt : Option Error} {db db' : Database} {res : Result Database} :
    transaction flt db res = (.ok (), db') ↔ flt = none ∧ res = .ok db' := by
  unfold transaction
  cases res with
  | error e => simp
  | ok found =>
    cases flt with
    | none => simp
    | some e => simp

theorem tunnelTransaction_eq_ok {α : Type} {db db' : Database} {operation : String}
    {out : Result α × Tunnels} :
    tunnelTransaction db operation out = (.ok (), db') ↔
      db'.servers = db.servers ∧ ∃ a, out = (.ok a, db'.tunnels) := by
  obtain ⟨res, tns⟩ := out
  cases res with
  | error e => simp [tunnelTransaction]
  | ok a =>
    simp only [tunnelTransaction, transaction_eq_ok, true_and, Database.ofTables_eq_ok,
      Prod.mk.injEq, Except.ok.injEq, exists_eq_left']
    exact and_congr_right fun _ => eq_comm

/-! ## What each operation leaves readable -/

section Steps

variable {net : AddressFamilies} {limits : Limits} {db db' : Database}

theorem tunnels_readable_map {f : TunnelRecord → TunnelRecord}
    (hread : ∀ row ∈ db.tunnels.rows, row.Readable net)
    (hr : db'.tunnels.rows = db.tunnels.rows.map f)
    (hf : ∀ row, (f row).readColumns = row.readColumns) :
    ∀ row ∈ db'.tunnels.rows, row.Readable net := by
  intro row hrow
  have hc := db'.tunnels.checked row hrow
  rw [hr] at hrow
  obtain ⟨old, hold, rfl⟩ := List.mem_map.1 hrow
  exact (hread old hold).of_columns (db.tunnels.checked old hold) hc (hf old)

theorem servers_readable_map {f : ServerRecord → ServerRecord}
    (hread : ∀ row ∈ db.servers.rows, row.Readable net)
    (hr : db'.servers.rows = db.servers.rows.map f)
    (hf : ∀ row, (f row).readColumns = row.readColumns) :
    ∀ row ∈ db'.servers.rows, row.Readable net := by
  intro row hrow
  have hc := db'.servers.checked row hrow
  rw [hr] at hrow
  obtain ⟨old, hold, rfl⟩ := List.mem_map.1 hrow
  exact (hread old hold).of_columns hc (hf old)

theorem readable_replaceBy {ρ : Type} {P : ρ → Prop} {key : ρ → Bytes} {rcd : ρ}
    {rows : List ρ} (hrec : P rcd) (hr : ∀ row ∈ rows, P row) :
    ∀ row ∈ rows.map (Table.replaceBy key rcd), P row := by
  intro row hrow
  obtain ⟨old, hold, rfl⟩ := List.mem_map.1 hrow
  unfold Table.replaceBy
  split
  · exact hrec
  · exact hr old hold

theorem mem_replaceBy {ρ : Type} {key : ρ → Bytes} {rcd old : ρ} {rows : List ρ}
    (hmem : old ∈ rows) (hkey : key old = key rcd) :
    rcd ∈ rows.map (Table.replaceBy key rcd) :=
  List.mem_map.2 ⟨old, hmem, if_pos hkey⟩

theorem createServer_readable {record : ServerRecord} (hs : Spelled net record.endpoint)
    (hread : db.Readable net) (h : createServer limits record db = .ok db') :
    db'.Readable net ∧ getServer net db' record.id = .ok record := by
  obtain ⟨hval, -, hsv, htns⟩ := createServer_eq_ok.1 h
  have hrec : record.Readable net := ⟨hs, hval⟩
  rw [Database.readable_iff] at hread ⊢
  rw [getServer_eq_ok, hsv, htns]
  exact ⟨⟨List.forall_mem_cons.2 ⟨hrec, hread.1⟩, hread.2⟩, by simp, rfl, hrec⟩

theorem updateServer_readable {record : ServerRecord} (hs : Spelled net record.endpoint)
    (hread : db.Readable net) (h : updateServer net record db = .ok db') :
    db'.Readable net ∧ getServer net db' record.id = .ok record := by
  obtain ⟨hval, ⟨old, hmem, hid, -⟩, hsv, htns⟩ := updateServer_eq_ok.1 h
  have hrec : record.Readable net := ⟨hs, hval⟩
  rw [Database.readable_iff] at hread ⊢
  rw [getServer_eq_ok, hsv, htns]
  exact ⟨⟨readable_replaceBy hrec hread.1, hread.2⟩, mem_replaceBy hmem hid, rfl, hrec⟩

theorem createTunnel_readable {record : TunnelRecord}
    (hl : Spelled net record.localEndpoint) (hr : Spelled net record.remoteEndpoint)
    (hread : db.Readable net) (h : createTunnel limits record db = .ok db') :
    db'.Readable net ∧ getTunnel net db' record.id = .ok record := by
  obtain ⟨hval, -, hs, htns⟩ := createTunnel_eq_ok.1 h
  have hrec : record.Readable net := ⟨hl, hr, hval⟩
  rw [Database.readable_iff] at hread ⊢
  rw [getTunnel_eq_ok, hs, htns]
  exact ⟨⟨hread.1, List.forall_mem_cons.2 ⟨hrec, hread.2⟩⟩, by simp, rfl, hrec⟩

theorem updateTunnel_readable {record : TunnelRecord}
    (hl : Spelled net record.localEndpoint) (hr : Spelled net record.remoteEndpoint)
    (hread : db.Readable net) (h : updateTunnel net record db = .ok db') :
    db'.Readable net ∧ getTunnel net db' record.id = .ok record := by
  obtain ⟨hval, ⟨old, hmem, hid, -⟩, hs, htns⟩ := updateTunnel_eq_ok.1 h
  have hrec : record.Readable net := ⟨hl, hr, hval⟩
  rw [Database.readable_iff] at hread ⊢
  rw [getTunnel_eq_ok, hs, htns]
  exact ⟨⟨hread.1, readable_replaceBy hrec hread.2⟩, mem_replaceBy hmem hid, rfl, hrec⟩

variable {assign : TunnelRecord → TunnelRecord} {selects : TunnelRecord → Bool}

theorem readColumns_assigned (h : ∀ row, (assign row).readColumns = row.readColumns)
    (row : TunnelRecord) :
    (Table.assigned selects assign row).readColumns = row.readColumns :=
  Table.column_assigned h row

theorem serverReadColumns_assigned {selects : ServerRecord → Bool}
    {assign : ServerRecord → ServerRecord}
    (h : ∀ row, (assign row).readColumns = row.readColumns) (row : ServerRecord) :
    (Table.assigned selects assign row).readColumns = row.readColumns :=
  Table.column_assigned h row

variable {id : Id} {upd : Int}

section Removals

variable (hread : db.Readable net)
include hread

theorem markTunnelRemoved_readable (h : markTunnelRemoved net id upd db = .ok db') :
    db'.Readable net := by
  obtain ⟨-, -, -, hs, htns⟩ := markTunnelRemoved_eq_ok.1 h
  rw [Database.readable_iff] at hread ⊢
  exact ⟨hs ▸ hread.1, tunnels_readable_map hread.2 htns (readColumns_assigned fun _ => rfl)⟩

theorem markServerRemoved_readable (h : markServerRemoved net id upd db = .ok db') :
    db'.Readable net := by
  obtain ⟨-, -, -, -, hs, htns⟩ := markServerRemoved_eq_ok.1 h
  rw [Database.readable_iff] at hread ⊢
  exact ⟨servers_readable_map hread.1 hs (serverReadColumns_assigned fun _ => rfl),
    tunnels_readable_map hread.2 htns (readColumns_assigned fun _ => rfl)⟩

theorem eraseTunnel_readable (h : eraseTunnel net id db = .ok db') : db'.Readable net := by
  obtain ⟨-, -, hs, htns⟩ := eraseTunnel_eq_ok.1 h
  rw [Database.readable_iff] at hread ⊢
  rw [hs, htns]
  exact ⟨hread.1, fun row hrow => hread.2 row (Table.mem_delete.1 hrow).1⟩

theorem eraseServer_readable (h : eraseServer net id db = .ok db') : db'.Readable net := by
  obtain ⟨-, -, -, hs, htns⟩ := eraseServer_eq_ok.1 h
  rw [Database.readable_iff] at hread ⊢
  rw [hs, htns]
  exact ⟨fun row hrow => hread.1 row (Table.mem_delete.1 hrow).1,
    fun row hrow => hread.2 row (Table.mem_delete.1 hrow).1⟩

theorem normalize_readable {recAt : Int} (h : normalize recAt db = .ok db') :
    db'.Readable net := by
  obtain ⟨hs, htns⟩ := rows_normalize h
  rw [Database.readable_iff] at hread ⊢
  refine ⟨servers_readable_map hread.1 hs (serverReadColumns_assigned fun _ => rfl),
    tunnels_readable_map hread.2 htns fun row => ?_⟩
  rw [TunnelRecord.normalized, readColumns_assigned, readColumns_assigned]
  · exact fun _ => rfl
  · exact fun _ => rfl

end Removals

/-- After a change of its runtime columns a row is readable if the message is text. -/
theorem TunnelRecord.Readable.runtimeChange_iff {row row' : TunnelRecord}
    (h : row.Readable net) (hch : row.Checked) (hch' : row'.Checked)
    (hchg : RuntimeChange row row') :
    row'.Readable net ↔ validMessage row'.lastErrorMessage = true := by
  rw [hch'.readable_iff]
  obtain ⟨hl, hrm, ⟨hid, hsv, hn, hrev⟩, -⟩ := hch.readable_iff.1 h
  have hc := hchg.columns
  have hs : Spelled net row'.localEndpoint ∧ Spelled net row'.remoteEndpoint := by
    rw [hc]
    exact ⟨hl, hrm⟩
  have hcfg : row'.Configured := by
    rw [hc]
    exact ⟨hid, hsv, hn, hrev⟩
  exact ⟨fun hr => hr.2.2.2, fun hmsg => ⟨hs.1, hs.2, hcfg, hmsg⟩⟩

/-- An update of runtime columns leaves the rows it does not select readable, and the
others exactly if the message it sets is text. -/
theorem runtimeUpdate_readable_iff {msg : Option Bytes}
    (hread : ∀ row ∈ db.tunnels.rows, row.Readable net)
    (hr : db'.tunnels.rows = db.tunnels.rows.map (Table.assigned selects assign))
    (hchg : ∀ row, RuntimeChange row (assign row))
    (hmsg : ∀ row, (assign row).lastErrorMessage = msg) :
    (∀ row ∈ db'.tunnels.rows, row.Readable net) ↔
      ∀ row ∈ db.tunnels.rows, selects row = true → validMessage msg = true := by
  constructor
  · intro h row hrow hsel
    have hmem : assign row ∈ db'.tunnels.rows := by
      rw [hr]
      exact List.mem_map.2 ⟨row, hrow, if_pos hsel⟩
    have hiff := (hread row hrow).runtimeChange_iff (db.tunnels.checked row hrow)
      (db'.tunnels.checked _ hmem) (hchg row)
    rw [hmsg row] at hiff
    exact hiff.1 (h _ hmem)
  · intro h row hrow
    have hc := db'.tunnels.checked row hrow
    rw [hr] at hrow
    obtain ⟨old, hold, rfl⟩ := List.mem_map.1 hrow
    unfold Table.assigned at hc ⊢
    split
    · next hsel =>
      rw [if_pos hsel] at hc
      refine ((hread old hold).runtimeChange_iff (db.tunnels.checked old hold) hc (hchg old)).2 ?_
      rw [hmsg old]
      exact h old hold hsel
    · exact hread old hold

theorem validMessage_iff {msg : Bytes} (hlen : msg.length ≤ maxErrorMessageBytes) :
    validMessage (some msg) = true ↔
      ¬ ((0 : UInt8) ∈ msg ∨ isValidUtf8 msg = false) := by
  simp [validMessage, hlen]

variable {err : Option RecordedError}

theorem markActivePendingByServer_readable {sid : Id} {flt : Option Error} {changes : Nat}
    (hread : db.Readable net) (hs : db'.servers = db.servers)
    (h : markActivePendingByServer db.tunnels flt sid err upd =
      (.ok changes, db'.tunnels)) : db'.Readable net := by
  obtain ⟨hc, -, hr, -⟩ := markActivePendingByServer_eq_ok.1 h
  rw [Database.readable_iff] at hread ⊢
  refine ⟨hs ▸ hread.1, (runtimeUpdate_readable_iff hread.2 hr
    (runtimeChange_markPendingAssign err upd) fun _ => rfl).2 fun _ _ _ => ?_⟩
  -- the sibling of the conditional update validates the message
  unfold checkMarkPending at hc
  split at hc
  · exact absurd hc failure_ne_ok
  · cases err with
    | none => rfl
    | some e =>
      simp only at hc
      split at hc
      · exact absurd hc failure_ne_ok
      · obtain ⟨⟨-, hlen⟩, hz, hutf8⟩ := validateText_eq_ok.1 hc
        exact (validMessage_iff hlen).2 (by simp [hz, hutf8])

theorem updateRuntimeStateIfRevision_readable_iff {sid : Id} {expRev : Nat}
    {state : TunnelActualState} {sync : Bool} {flt : Option Error} {chg : Bool}
    (hread : db.Readable net) (hs : db'.servers = db.servers)
    (h : updateRuntimeStateIfRevision db.tunnels flt id sid expRev state err
      upd sync = (.ok chg, db'.tunnels)) :
    db'.Readable net ↔ ∀ row ∈ db.tunnels.rows,
      runtimeSelects id.text sid.text expRev state row = true →
      ∀ e ∈ err, ¬ ((0 : UInt8) ∈ e.message ∨ isValidUtf8 e.message = false) := by
  obtain ⟨hc, -, hr, -⟩ := updateRuntimeStateIfRevision_eq_ok.1 h
  have hmsg : ∀ row, (runtimeAssign state err upd sync row).lastErrorMessage =
      err.map RecordedError.message := fun _ => rfl
  rw [Database.readable_iff] at hread ⊢
  rw [runtimeUpdate_readable_iff hread.2 hr
    (runtimeChange_runtimeAssign state err upd sync) hmsg, hs]
  refine (and_iff_right hread.1).trans (forall₃_congr fun row hrow hsel => ?_)
  cases err with
  | none => simp [validMessage]
  | some e =>
    rw [Option.map_some, validMessage_iff (checkRuntimeUpdate_ok hc e rfl).2]
    simp

end Steps

/-! ## Runs -/

section Runs

variable {net : AddressFamilies} {limits : Limits}

/-- A call, and whether SQLite fails in it. -/
structure Call (net : AddressFamilies) where
  operation : Operation net
  fault : Option Error

def exec (limits : Limits) (db : Database) (calls : List (Call net)) : Database :=
  calls.foldl (fun db call => (call.operation.run limits call.fault db).2) db

/-- If every row is readable and the call reports success, then every row is readable
afterwards, and the row a create or an update wrote reads back. -/
def Call.Kept (limits : Limits) (db : Database) (call : Call net) : Prop :=
  db.Readable net → ∀ db', call.operation.run limits call.fault db = (.ok (), db') →
    db'.Readable net ∧ call.operation.ReadsBack db'

variable {call : Call net} {db : Database}

theorem kept_of_not_garbles (hnet : Endpoint.Documented net) (h : ¬ call.operation.Garbles db) :
    call.Kept limits db := by
  obtain ⟨operation, flt⟩ := call
  intro hread db' hrun
  cases operation with
  | createServer rcd made =>
    exact createServer_readable (made.spelled hnet) hread (transaction_eq_ok.1 hrun).2
  | updateServer rcd made =>
    exact updateServer_readable (made.spelled hnet) hread (transaction_eq_ok.1 hrun).2
  | markServerRemoved id upd =>
    exact ⟨markServerRemoved_readable hread (transaction_eq_ok.1 hrun).2, trivial⟩
  | eraseServer id => exact ⟨eraseServer_readable hread (transaction_eq_ok.1 hrun).2, trivial⟩
  | createTunnel rcd madeLocal madeRemote =>
    exact createTunnel_readable (madeLocal.spelled hnet) (madeRemote.spelled hnet) hread
      (transaction_eq_ok.1 hrun).2
  | updateTunnel rcd madeLocal madeRemote =>
    exact updateTunnel_readable (madeLocal.spelled hnet) (madeRemote.spelled hnet) hread
      (transaction_eq_ok.1 hrun).2
  | markTunnelRemoved id upd =>
    exact ⟨markTunnelRemoved_readable hread (transaction_eq_ok.1 hrun).2, trivial⟩
  | eraseTunnel id => exact ⟨eraseTunnel_readable hread (transaction_eq_ok.1 hrun).2, trivial⟩
  | markActivePendingByServer sid err upd =>
    obtain ⟨hs, changes, hout⟩ := tunnelTransaction_eq_ok.1 hrun
    exact ⟨markActivePendingByServer_readable hread hs hout, trivial⟩
  | updateRuntimeStateIfRevision id sid expRev state err upd sync =>
    obtain ⟨hs, changed, hout⟩ := tunnelTransaction_eq_ok.1 hrun
    refine ⟨(updateRuntimeStateIfRevision_readable_iff hread hs hout).2 ?_, trivial⟩
    intro row hrow hsel recorded hrc hg
    obtain ⟨e, rfl, rfl⟩ := Option.map_eq_some_iff.1 hrc
    exact h ⟨(updateRuntimeStateIfRevision_eq_ok.1 hout).1, ⟨row, hrow, hsel⟩, hg⟩
  | recover recAt =>
    have hres := (transaction_eq_ok.1 hrun).2
    cases hrec : Storage.recover net limits recAt db with
    | error e => simp [hrec, Except.map] at hres
    | ok recovered =>
      simp only [hrec, Except.map, Except.ok.injEq] at hres
      subst hres
      obtain ⟨-, -, -, -, hr, -⟩ := recover_eq_ok.1 hrec
      exact ⟨hr, trivial⟩

theorem not_kept_of_garbles (hread : db.Readable net) (hflt : call.fault = none)
    (h : call.operation.Garbles db) : ¬ call.Kept limits db := by
  obtain ⟨operation, flt⟩ := call
  subst hflt
  cases operation with
  | updateRuntimeStateIfRevision id sid expRev state err upd sync =>
    cases err with
    | none => exact h.elim
    | some e =>
      obtain ⟨hc, ⟨row, hrow, hsel⟩, hg⟩ := h
      obtain ⟨updated, hup, -⟩ :=
        updateRuntimeStateIfRevision_ok hc db.tunnels sync
      obtain ⟨-, -, hrs, -⟩ := updateRuntimeStateIfRevision_eq_ok.1 hup
      have href : Referenced db.servers updated :=
        db.referenced.map (List.map_id' _).symm (fun _ => rfl) hrs (serverId_assigned fun _ => rfl)
      obtain ⟨db', hs, rfl⟩ : ∃ db' : Database,
          db'.servers = db.servers ∧ db'.tunnels = updated :=
        ⟨⟨db.servers, updated, href⟩, rfl, rfl⟩
      intro hk
      have hr := (hk hread db' (tunnelTransaction_eq_ok.2 ⟨hs, _, hup⟩)).1
      exact (updateRuntimeStateIfRevision_readable_iff hread hs hup).1 hr row hrow
        hsel e.recorded rfl hg
  | _ => exact h.elim

theorem kept_iff (hnet : Endpoint.Documented net) :
    call.Kept limits db ↔
      (db.Readable net → call.fault = none → ¬ call.operation.Garbles db) := by
  constructor
  · intro hk hread hflt hg
    exact not_kept_of_garbles hread hflt hg hk
  · intro h hread db' hrun
    by_cases hg : call.operation.Garbles db
    · have hflt : call.fault ≠ none := fun hno => h hread hno hg
      obtain ⟨operation, flt⟩ := call
      cases operation with
      | updateRuntimeStateIfRevision id serverId expectedRevision state error updatedAt
          synchronized =>
        obtain ⟨-, changed, hout⟩ := tunnelTransaction_eq_ok.1 hrun
        exact absurd (updateRuntimeStateIfRevision_eq_ok.1 hout).2.1 hflt
      | _ => exact hg.elim
    · exact kept_of_not_garbles hnet hg hread db' hrun

/-- Every call of a run keeps what it should. -/
def WritesReadable (limits : Limits) (db : Database) (calls : List (Call net)) : Prop :=
  ∀ before call after, calls = before ++ call :: after →
    call.Kept limits (exec limits db before)

/-- **What the repositories write they can read**, in every run, except where a conditional
update is passed a message that is not text and finds its row. -/
theorem writes_readable_iff (hnet : Endpoint.Documented net) (limits : Limits) (db : Database)
    (calls : List (Call net)) :
    WritesReadable limits db calls ↔
    ∀ before call after, calls = before ++ call :: after →
      (exec limits db before).Readable net → call.fault = none →
      ¬ call.operation.Garbles (exec limits db before) :=
  forall₄_congr fun _ _ _ _ => kept_iff hnet

end Runs

/-! ## A message with a NUL byte -/

namespace NulMessage

def serverText : Bytes := ascii "srv_00000000000000000000000000000000"
def tunnelText : Bytes := ascii "tun_00000000000000000000000000000000"

theorem isId_serverText : IsId .server serverText :=
  validId_iff.1 (by decide)

theorem isId_tunnelText : IsId .tunnel tunnelText :=
  validId_iff.1 (by decide)

def server : ServerRecord where
  id := serverText
  name := none
  endpoint := ⟨ascii "relay", 443⟩
  credentialRef := none
  remoteServerId := none
  desiredState := .enabled
  actualState := .notAuthenticated
  lastErrorCode := none
  lastErrorMessage := none
  reconnectAttempt := 0
  latencyMs := none
  createdAt := 0
  updatedAt := 0
  tlsServerName := none
  caCredentialRef := none
  clientCertificateRef := none
  clientPrivateKeyRef := none
  configRevision := 1
  managedByConfig := false

def tunnel : TunnelRecord where
  id := tunnelText
  name := none
  serverId := serverText
  protocol := .tcp
  localEndpoint := ⟨ascii "localhost", 80⟩
  remoteEndpoint := ⟨ascii "127.0.0.1", 8080⟩
  desiredState := .active
  actualState := .pending
  lastErrorCode := none
  lastErrorMessage := none
  createdAt := 0
  updatedAt := 0
  lastSyncedAt := none
  configRevision := 1
  managedByConfig := false
  proxyProtocol := false

theorem parsed_server : Parsed Endpoint.plainFamilies server.endpoint :=
  ⟨ascii "relay:443", by decide⟩

theorem parsed_local : Parsed Endpoint.plainFamilies tunnel.localEndpoint :=
  ⟨ascii "localhost:80", by decide⟩

theorem parsed_remote : Parsed Endpoint.plainFamilies tunnel.remoteEndpoint :=
  ⟨ascii "127.0.0.1:8080", by decide⟩

def limits : Limits := ⟨10, 10⟩

def setup : List (Call Endpoint.plainFamilies) :=
  [⟨.createServer server parsed_server, none⟩,
    ⟨.createTunnel tunnel parsed_local parsed_remote, none⟩]

/-- A registration is refused, and the remote's reason has a NUL byte. -/
def refusal (message : Bytes) : Call Endpoint.plainFamilies where
  operation := .updateRuntimeStateIfRevision ⟨.tunnel, tunnelText, isId_tunnelText⟩
    ⟨.server, serverText, isId_serverText⟩ 1 .failed
    (some ⟨ErrorCode.remotePortInUse.raw, message⟩) 1 false
  fault := none

theorem readable_setup :
    (exec limits Database.empty setup).Readable Endpoint.plainFamilies where
  servers := List.all_eq_true.1 (by decide +kernel)
  tunnels := List.all_eq_true.1 (by decide +kernel)

theorem nul_message_not_kept :
    ¬ WritesReadable limits Database.empty (setup ++ [refusal [0]]) := by
  intro h
  have hselected : ((exec limits Database.empty setup).tunnels.rows.any
      (runtimeSelects tunnelText serverText 1 .failed)) = true := by decide +kernel
  refine not_kept_of_garbles readable_setup rfl ?_ (h setup (refusal [0]) [] rfl)
  exact ⟨by decide, by simpa using hselected, .inl (List.mem_singleton_self 0)⟩

theorem text_message_kept :
    WritesReadable limits Database.empty (setup ++ [refusal (ascii "in use")]) := by
  refine (writes_readable_iff Endpoint.documented_plainFamilies limits Database.empty _).2 ?_
  intro before call after heq _ _ hgarbles
  have hmem : call ∈ setup ++ [refusal (ascii "in use")] := by
    rw [heq]
    simp
  simp only [setup, List.cons_append, List.nil_append, List.mem_cons, List.not_mem_nil,
    or_false] at hmem
  rcases hmem with rfl | rfl | rfl
  · exact hgarbles
  · exact hgarbles
  · have htext : ¬ ((0 : UInt8) ∈ ascii "in use" ∨ isValidUtf8 (ascii "in use") = false) := by
      decide
    exact htext hgarbles.2.2

end NulMessage

end MiniTun.Storage
