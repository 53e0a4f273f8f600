import MiniTun.Common.Endpoint
import MiniTun.Common.ErrorText
import MiniTun.Storage.ServerRecords
import MiniTun.Storage.TunnelRepository

/-!
# The state database

The two tables with the foreign key between them, and the readers that turn a row
into a record.  A row keeps what its columns hold; reading parses the endpoints
again and validates the record, so a row can be present and unreadable.
-/

namespace MiniTun.Storage

open Relational

/-! ## The schema -/

/-- A `CHECK` on the length of an optional text. -/
def lengthWithin (minimumBytes maximumBytes : Nat) (value : Option Bytes) : Bool :=
  value.all fun text => minimumBytes ≤ text.length ∧ text.length ≤ maximumBytes

variable (row : ServerRecord)

def ServerRecord.validTexts : Bool :=
  validId .server row.id && lengthWithin 1 maxNameBytes row.name &&
    (1 ≤ row.endpoint.text.length ∧ row.endpoint.text.length ≤ 260) &&
    lengthWithin 1 maxCredentialReferenceBytes row.credentialRef &&
    lengthWithin 1 maxRemoteServerIdBytes row.remoteServerId &&
    lengthWithin 1 maxTlsServerNameBytes row.tlsServerName &&
    lengthWithin 1 maxCredentialReferenceBytes row.caCredentialRef &&
    lengthWithin 1 maxCredentialReferenceBytes row.clientCertificateRef &&
    lengthWithin 1 maxCredentialReferenceBytes row.clientPrivateKeyRef

def ServerRecord.validNumbers : Bool :=
  row.reconnectAttempt ≤ maxInt32 &&
    row.latencyMs.all (fun latency => 0 ≤ latency ∧ latency ≤ (maxInt32 : Int)) &&
    (0 ≤ row.createdAt ∧ row.createdAt ≤ row.updatedAt) &&
    (1 ≤ row.configRevision ∧ row.configRevision ≤ maxConfigRevision)

/-- The `CHECK`s of the table. -/
structure ServerRecord.Checked (row : ServerRecord) : Prop where
  texts : row.validTexts = true
  lastError : validLastError row.lastErrorCode row.lastErrorMessage = true
  numbers : row.validNumbers = true

instance : DecidablePred ServerRecord.Checked := fun row =>
  decidable_of_iff (row.validTexts = true ∧
      validLastError row.lastErrorCode row.lastErrorMessage = true ∧ row.validNumbers = true)
    ⟨fun ⟨h₁, h₂, h₃⟩ => ⟨h₁, h₂, h₃⟩, fun ⟨h₁, h₂, h₃⟩ => ⟨h₁, h₂, h₃⟩⟩

/-- The unique column `name`.  Absent names never clash, so such a row stands for itself. -/
def ServerRecord.nameKey : Bytes ⊕ Bytes :=
  row.name.elim (.inr row.id) .inl

def serverSchema : Schema ServerRecord Bytes (Bytes ⊕ Bytes) where
  key := ServerRecord.id
  unique := ServerRecord.nameKey
  Check := ServerRecord.Checked
  decidableCheck := inferInstance

abbrev Servers := Table serverSchema

/-- `FOREIGN KEY(server_id) REFERENCES servers(id)`. -/
def Referenced (servers : Servers) (tunnels : Tunnels) : Prop :=
  ∀ row ∈ tunnels.rows, (servers.find row.serverId).isSome = true

/-- The two tables. -/
structure Database where
  servers : Servers
  tunnels : Tunnels
  referenced : Referenced servers tunnels

def Database.empty : Database where
  servers := Table.empty serverSchema
  tunnels := Table.empty tunnelSchema
  referenced := List.forall_mem_nil _

/-! ## Reading -/

section Readers

variable (net : AddressFamilies)

def corruptField {α : Type} (field : String) : Result α :=
  failure .databaseError ("database contains an invalid " ++ field)

def readEndpoint (endpoint : Endpoint) (field : String) : Result Endpoint :=
  match Endpoint.parse net endpoint.text with
  | .error _ => corruptField field
  | .ok parsed => if parsed.text ≠ endpoint.text then corruptField field else .ok parsed

def readSplitEndpoint (endpoint : Endpoint) (field : String) : Result Endpoint :=
  if endpoint.port < 1 ∨ 65535 < endpoint.port then corruptField field
  else match Endpoint.parse net endpoint.text with
    | .error _ => corruptField field
    | .ok parsed =>
      if parsed.host ≠ endpoint.host ∨ parsed.port ≠ endpoint.port then corruptField field
      else .ok parsed

def readServer (row : ServerRecord) : Result ServerRecord :=
  match readEndpoint net row.endpoint "servers.endpoint" with
  | .error _ => failure .databaseError "database contains an invalid server row"
  | .ok endpoint =>
    if !validId .server row.id ∨ maxInt32 < row.reconnectAttempt ∨
        row.latencyMs.any (fun latency => latency < 0 ∨ (maxInt32 : Int) < latency) ∨
        row.configRevision = 0 then
      failure .databaseError "database contains an invalid server row"
    else
      let record := { row with endpoint }
      match validateServerRecord record with
      | .error _ => failure .databaseError "database contains a server row outside storage limits"
      | .ok () => .ok record

def readTunnel (row : TunnelRecord) : Result TunnelRecord :=
  match readSplitEndpoint net row.localEndpoint "tunnels.local_endpoint",
      readSplitEndpoint net row.remoteEndpoint "tunnels.remote_endpoint" with
  | .ok localEndpoint, .ok remoteEndpoint =>
    if !validId .tunnel row.id ∨ !validId .server row.serverId ∨ row.configRevision = 0 then
      failure .databaseError "database contains an invalid tunnel row"
    else
      let record := { row with localEndpoint, remoteEndpoint }
      match validateTunnelRecord record with
      | .error _ => failure .databaseError "database contains a tunnel row outside storage limits"
      | .ok () => .ok record
  | _, _ => failure .databaseError "database contains an invalid tunnel row"

/-- Every row can be read. -/
structure Database.Readable (db : Database) : Prop where
  servers : ∀ row ∈ db.servers.rows, (readServer net row).isOk = true
  tunnels : ∀ row ∈ db.tunnels.rows, (readTunnel net row).isOk = true

end Readers

/-! ## What a readable row is -/

variable {minimumBytes maximumBytes : Nat}

theorem validateText_eq_ok {val : Bytes} {field : String} :
    validateText val minimumBytes maximumBytes field = .ok () ↔
      (minimumBytes ≤ val.length ∧ val.length ≤ maximumBytes) ∧ (0 : UInt8) ∉ val ∧
        isValidUtf8 val = true := by
  simp only [validateText, guard_eq_ok, not_or, Nat.not_lt, Bool.not_eq_false, and_true]

def validMessage (message : Option Bytes) : Bool :=
  message.all fun text =>
    text.length ≤ maxErrorMessageBytes && !text.contains 0 && isValidUtf8 text

variable {code : Option ErrorCode}

theorem validateErrorFields_eq_ok {msg : Option Bytes} :
    validateErrorFields code msg = .ok () ↔ code ≠ some .ok ∧ validMessage msg = true := by
  rw [validateErrorFields, guard_eq_ok]
  cases msg with
  | none => simp [validateOptionalText, validMessage]
  | some text =>
    simp only [validateOptionalText, validateText_eq_ok, validMessage, Option.all_some,
      Bool.and_eq_true, decide_eq_true_eq, Bool.not_eq_true', List.contains_eq_mem,
      decide_eq_false_iff_not, Nat.zero_le, true_and, and_assoc]

/-- The part of the validation of a tunnel that no runtime update touches. -/
structure TunnelRecord.Configured (row : TunnelRecord) : Prop where
  id : validId .tunnel row.id = true
  serverId : validId .server row.serverId = true
  name : validateOptionalText row.name 1 maxNameBytes "tunnel name" = .ok ()
  revision : ¬ (row.configRevision = 0 ∨ maxConfigRevision < row.configRevision)

theorem timed_iff {row : TunnelRecord} :
    row.Timed ↔ ¬ (row.createdAt < 0 ∨ row.updatedAt < row.createdAt ∨
      row.lastSyncedAt.any (fun time => time < row.createdAt ∨ row.updatedAt < time) = true) := by
  constructor
  · rintro ⟨hc, hupd, hs⟩ hbad
    rcases hbad with h | h | h
    · omega
    · omega
    · cases hl : row.lastSyncedAt with
      | none => simp [hl] at h
      | some time =>
        have := hs time hl
        simp only [hl, Option.any_some, decide_eq_true_eq] at h
        omega
  · intro h
    simp only [not_or] at h
    refine ⟨by omega, by omega, fun time htime => ?_⟩
    have hl : row.lastSyncedAt = some time := htime
    have hnot := h.2.2
    simp only [hl, Option.any_some, decide_eq_true_eq] at hnot
    omega

theorem validateTunnelRecord_eq_ok {row : TunnelRecord} :
    validateTunnelRecord row = .ok () ↔ row.Configured ∧ row.lastErrorCode ≠ some .ok ∧
      validMessage row.lastErrorMessage = true ∧ row.Timed := by
  simp only [validateTunnelRecord, guard_eq_ok, do_eq_ok, exists_unit, validateErrorFields_eq_ok,
    Bool.not_eq_true', not_or, Bool.not_eq_false]
  rw [timed_iff]
  constructor
  · rintro ⟨hids, hn, ⟨hc, hmsg⟩, hrev, ht, -⟩
    exact ⟨⟨hids.1, hids.2, hn, not_or.2 hrev⟩, hc, hmsg, by simpa using ht⟩
  · rintro ⟨h, hc, hmsg, ht⟩
    exact ⟨⟨h.id, h.serverId⟩, h.name, ⟨hc, hmsg⟩, not_or.1 h.revision,
      by simpa using ht, rfl⟩

/-- The part of the validation of a server that recovery does not touch. -/
structure ServerRecord.Configured (row : ServerRecord) : Prop where
  id : validId .server row.id = true
  name : validateOptionalText row.name 1 maxNameBytes "server name" = .ok ()
  credentialRef : validateOptionalText row.credentialRef 1 maxCredentialReferenceBytes
    "credential reference" = .ok ()
  remoteServerId : validateOptionalText row.remoteServerId 1 maxRemoteServerIdBytes
    "remote server ID" = .ok ()
  tlsServerName : validateOptionalText row.tlsServerName 1 maxTlsServerNameBytes
    "TLS server name" = .ok ()
  caCredentialRef : validateOptionalText row.caCredentialRef 1 maxCredentialReferenceBytes
    "CA credential reference" = .ok ()
  clientCertificateRef : validateOptionalText row.clientCertificateRef 1
    maxCredentialReferenceBytes "client certificate reference" = .ok ()
  clientPrivateKeyRef : validateOptionalText row.clientPrivateKeyRef 1
    maxCredentialReferenceBytes "client private-key reference" = .ok ()
  paired : row.clientCertificateRef.isSome = row.clientPrivateKeyRef.isSome
  revision : ¬ (row.configRevision = 0 ∨ maxConfigRevision < row.configRevision)
  lastError : validateErrorFields row.lastErrorCode row.lastErrorMessage = .ok ()
  created : 0 ≤ row.createdAt

/-- The columns that record how a connection is doing. -/
structure ServerRecord.Measured (row : ServerRecord) : Prop where
  reconnectAttempt : row.reconnectAttempt ≤ maxInt32
  latencyMs : row.latencyMs.any (fun latency => latency < 0 ∨ (maxInt32 : Int) < latency) = false
  updated : row.createdAt ≤ row.updatedAt

theorem validateServerRecord_eq_ok {row : ServerRecord} :
    validateServerRecord row = .ok () ↔ row.Configured ∧ row.Measured := by
  simp only [validateServerRecord, guard_eq_ok, do_eq_ok, exists_unit, Bool.not_eq_true',
    Bool.not_eq_false, Bool.not_eq_true, not_not, Nat.not_lt]
  constructor
  · rintro ⟨hid, hn, hcr, hr, htls, hca, hc, hkey, hp, hrev, herr, ha, hl, ht, -⟩
    exact ⟨⟨hid, hn, hcr, hr, htls, hca, hc, hkey, hp, hrev,
      herr, by omega⟩, ha, hl, by omega⟩
  · rintro ⟨h, hm⟩
    have hce := h.created
    have hupd := hm.updated
    exact ⟨h.id, h.name, h.credentialRef, h.remoteServerId, h.tlsServerName, h.caCredentialRef,
      h.clientCertificateRef, h.clientPrivateKeyRef, h.paired, h.revision, h.lastError,
      hm.reconnectAttempt, hm.latencyMs, by omega, rfl⟩

/-! ## What validation leaves to the schema -/

theorem lengthWithin_of_valid {val : Option Bytes} {field : String}
    (h : validateOptionalText val minimumBytes maximumBytes field = .ok ()) :
    lengthWithin minimumBytes maximumBytes val = true := by
  cases val with
  | none => rfl
  | some text => simpa [lengthWithin] using (validateText_eq_ok.1 h).1

theorem validLastError_of_valid {msg : Option Bytes} (hc : code ≠ some .ok)
    (hmsg : validMessage msg = true) :
    validLastError code msg = true := by
  cases msg with
  | none => simp [validLastError, hc]
  | some text =>
    simp only [validMessage, Option.all_some, Bool.and_eq_true] at hmsg
    simp [validLastError, hc, hmsg.1.1]

theorem ServerRecord.checked_of_valid {row : ServerRecord} (h : validateServerRecord row = .ok ())
    (hend : 1 ≤ row.endpoint.text.length ∧ row.endpoint.text.length ≤ 260) : row.Checked := by
  obtain ⟨hcfg, hm⟩ := validateServerRecord_eq_ok.1 h
  obtain ⟨hc, hmsg⟩ := validateErrorFields_eq_ok.1 hcfg.lastError
  refine ⟨?_, validLastError_of_valid hc hmsg, ?_⟩
  · simp only [ServerRecord.validTexts, hcfg.id, hend, lengthWithin_of_valid hcfg.name,
      lengthWithin_of_valid hcfg.credentialRef, lengthWithin_of_valid hcfg.remoteServerId,
      lengthWithin_of_valid hcfg.tlsServerName, lengthWithin_of_valid hcfg.caCredentialRef,
      lengthWithin_of_valid hcfg.clientCertificateRef, lengthWithin_of_valid
      hcfg.clientPrivateKeyRef, and_self, decide_true, Bool.and_self]
  · have hlt : row.latencyMs.all
        (fun latency => decide (0 ≤ latency ∧ latency ≤ (maxInt32 : Int))) = true := by
      have hany := hm.latencyMs
      cases hl : row.latencyMs with
      | none => rfl
      | some latency =>
        simp only [hl] at hany
        simpa using hany
    have hrev := hcfg.revision
    have hcr := hcfg.created
    have hupd := hm.updated
    have ha := hm.reconnectAttempt
    simp only [ServerRecord.validNumbers, Bool.and_eq_true, decide_eq_true_eq]
    exact ⟨⟨⟨ha, hlt⟩, hcr, hupd⟩, by omega⟩

section Rows

variable {net : AddressFamilies}

/-- The spelling of an endpoint is the one `parse` gives it. -/
def Spelled (net : AddressFamilies) (endpoint : Endpoint) : Prop :=
  Endpoint.parse net endpoint.text = .ok endpoint

theorem readEndpoint_eq_ok {ep parsed : Endpoint} {field : String} :
    readEndpoint net ep field = .ok parsed ↔ Spelled net ep ∧ parsed = ep := by
  unfold readEndpoint Spelled
  cases hp : Endpoint.parse net ep.text with
  | error e => exact iff_of_false failure_ne_ok fun h => by simp at h
  | ok found =>
    simp only [corruptField, guard_eq_ok, Except.ok.injEq, not_not]
    constructor
    · rintro ⟨ht, rfl⟩
      exact ⟨Endpoint.text_injective ht, Endpoint.text_injective ht⟩
    · rintro ⟨rfl, rfl⟩
      exact ⟨rfl, rfl⟩

theorem readSplitEndpoint_eq_ok {ep parsed : Endpoint} {field : String} :
    readSplitEndpoint net ep field = .ok parsed ↔ Spelled net ep ∧ parsed = ep := by
  unfold readSplitEndpoint Spelled
  rw [corruptField, guard_eq_ok]
  cases hp : Endpoint.parse net ep.text with
  | error e => exact iff_of_false (fun h => failure_ne_ok h.2) fun h => by simp at h
  | ok found =>
    have hpr := (Endpoint.parse_ok hp).1
    simp only [guard_eq_ok, Except.ok.injEq, not_or, not_not]
    constructor
    · rintro ⟨-, ⟨hh, hpt⟩, rfl⟩
      have hf : found = ep := by
        cases found
        cases ep
        simpa using ⟨hh, hpt⟩
      exact ⟨hf, hf⟩
    · rintro ⟨rfl, rfl⟩
      exact ⟨by omega, ⟨rfl, rfl⟩, rfl⟩

/-- What reading the row takes. -/
structure ServerRecord.Readable (net : AddressFamilies) (row : ServerRecord) : Prop where
  endpoint : Spelled net row.endpoint
  valid : validateServerRecord row = .ok ()

/-- What reading the row takes. -/
structure TunnelRecord.Readable (net : AddressFamilies) (row : TunnelRecord) : Prop where
  localEndpoint : Spelled net row.localEndpoint
  remoteEndpoint : Spelled net row.remoteEndpoint
  valid : validateTunnelRecord row = .ok ()

theorem readServer_eq_ok {row rcd : ServerRecord} :
    readServer net row = .ok rcd ↔ row.Readable net ∧ rcd = row := by
  unfold readServer
  constructor
  · intro h
    cases hend : readEndpoint net row.endpoint "servers.endpoint" with
    | error e => simp [hend, failure] at h
    | ok ep =>
      obtain ⟨hs, rfl⟩ := readEndpoint_eq_ok.1 hend
      simp only [hend] at h
      replace h := (guard_eq_ok.1 h).2
      cases hval : validateServerRecord row with
      | error e => simp [hval, failure] at h
      | ok u =>
        simp only [hval, Except.ok.injEq] at h
        exact ⟨⟨hs, hval⟩, h.symm⟩
  · rintro ⟨⟨hs, hval⟩, rfl⟩
    obtain ⟨hcfg, hm⟩ := validateServerRecord_eq_ok.1 hval
    have hrev := hcfg.revision
    simp only [not_or] at hrev
    rw [readEndpoint_eq_ok.2 ⟨hs, rfl⟩]
    simp only
    rw [hval]
    rw [hcfg.id, hm.latencyMs]
    simp [hm.reconnectAttempt, hrev.1]

theorem readTunnel_eq_ok {row rcd : TunnelRecord} :
    readTunnel net row = .ok rcd ↔ row.Readable net ∧ rcd = row := by
  unfold readTunnel
  constructor
  · intro h
    split at h
    case h_2 => exact absurd h failure_ne_ok
    case h_1 hl hr =>
      obtain ⟨hs, rfl⟩ := readSplitEndpoint_eq_ok.1 hl
      obtain ⟨hs', rfl⟩ := readSplitEndpoint_eq_ok.1 hr
      replace h := (guard_eq_ok.1 h).2
      cases hval : validateTunnelRecord row with
      | error e => simp [hval, failure] at h
      | ok u =>
        simp only [hval, Except.ok.injEq] at h
        exact ⟨⟨hs, hs', hval⟩, h.symm⟩
  · rintro ⟨⟨hl, hr, hval⟩, rfl⟩
    rw [readSplitEndpoint_eq_ok.2 ⟨hl, rfl⟩, readSplitEndpoint_eq_ok.2 ⟨hr, rfl⟩]
    obtain ⟨⟨hid, hsv, -, hrev⟩, -⟩ := validateTunnelRecord_eq_ok.1 hval
    simp only [not_or] at hrev
    simp [hid, hsv, hrev.1, hval]

theorem readServer_isOk {row : ServerRecord} :
    (readServer net row).isOk = true ↔ row.Readable net := by
  simp only [isOk_iff, readServer_eq_ok, exists_and_left, exists_eq, and_true]

theorem readTunnel_isOk {row : TunnelRecord} :
    (readTunnel net row).isOk = true ↔ row.Readable net := by
  simp only [isOk_iff, readTunnel_eq_ok, exists_and_left, exists_eq, and_true]

theorem Database.readable_iff {db : Database} :
    db.Readable net ↔ (∀ row ∈ db.servers.rows, row.Readable net) ∧
      ∀ row ∈ db.tunnels.rows, row.Readable net := by
  simp only [← readServer_isOk, ← readTunnel_isOk]
  exact ⟨fun h => ⟨h.servers, h.tunnels⟩, fun h => ⟨h.1, h.2⟩⟩

end Rows

end MiniTun.Storage
