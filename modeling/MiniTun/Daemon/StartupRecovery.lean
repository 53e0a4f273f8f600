import MiniTun.Daemon.Recovery
import MiniTun.Storage.ReadableRows

/-!
# The normal form after start-up

`StateRepository::recover` followed by `validate_recovered_credentials`, on any readable
database and any credential store.  The rows of two servers never compete for a key, so
each server can be dealt with as if it were alone (`execute_validateRecoveredCredentials`);
the normal form (`startUp_normalForm`) is read off from what that leaves of each row.
-/

namespace MiniTun.Daemon

open Interaction Relational Storage

/-! ## All servers -/

/-- What recovery needs of a row that `recover` has returned. -/
structure Recoverable (net : AddressFamilies) (state : Durable) (server : ServerRecord) : Prop where
  sweepable : Sweepable server
  readable : server.Readable net
  revision : server.configRevision < maxConfigRevision ∨
    ∀ kind, settledReference state.store server kind = credentialReference server kind
  disabled : server.desiredState = .removed → server.actualState = .disabled
  children : server.desiredState = .removed → ∀ row ∈ state.db.tunnels.rows,
    row.serverId = server.id → row.isTombstone = true

/-- Two servers have no key in common. -/
def Apart (server server' : ServerRecord) : Prop :=
  ∀ kind kind' key, Touches server kind key → ¬ Touches server' kind' key

/-- The state after recovery has dealt with some servers. -/
structure ValidatedAll (clock : Bytes → Int) (servers : List ServerRecord)
    (state state' : Durable) : Prop where
  serverRows : ∀ row, row ∈ state'.db.servers.rows ↔
    (∃ server ∈ servers, row ∈ settledRow? state.store (clock server.id) server) ∨
      row ∈ state.db.servers.rows ∧ ∀ server ∈ servers, row.id ≠ server.id
  tunnelRows : ∀ row, row ∈ state'.db.tunnels.rows ↔ row ∈ state.db.tunnels.rows ∧
    ∀ server ∈ servers, ¬ (server.desiredState = .removed ∧ row.serverId = server.id)
  intended : state'.intended = state.intended
  emptied : ∀ key, (∃ server ∈ servers, Released state.store (clock server.id) server key) →
    state'.store.lookup key = none
  kept : ∀ key, (∀ server ∈ servers, ¬ Released state.store (clock server.id) server key) →
    state'.store.lookup key = state.store.lookup key
  settled : (∀ server ∈ servers,
    settledRow? state.store (clock server.id) server = some server) → state'.db = state.db

section Loop

variable {net : AddressFamilies} {state state' state'' : Durable} {server : ServerRecord}
  {servers : List ServerRecord} {clock : Bytes → Int}

variable {now : Int} {store : CredentialStore}

/-- What recovery makes of a row only depends on the keys that the row refers to. -/
theorem settledRow?_congr {store' : CredentialStore}
    (h : ∀ kind key, credentialReference server kind = some key →
      store'.lookup key = store.lookup key) :
    settledRow? store' now server = settledRow? store now server := by
  have hs : settledReference store' server = settledReference store server :=
    funext fun kind => settledReference_congr rfl (h kind)
  unfold settledRow? settledRow sweptRow
  rw [hs]

theorem Released.touches {key : Bytes} (h : Released store now server key) :
    ∃ kind, Touches server kind key := by
  obtain ⟨kind, ht, -⟩ := h
  exact ⟨kind, ht⟩

theorem Validated.lookup_of_apart {other : ServerRecord} (h : Validated now server state state')
    (ha : Apart other server) {kind : ServerCredentialKind} {key : Bytes}
    (hkey : Touches other kind key) : state'.store.lookup key = state.store.lookup key := by
  apply h.kept
  intro hr
  obtain ⟨kind', ht⟩ := hr.touches
  exact ha kind kind' key hkey ht

theorem ValidatedAll.cons (hh : Validated (clock server.id) server state state')
    (ha : ∀ other ∈ servers, Apart other server)
    (hne : ∀ other ∈ servers, other.id ≠ server.id)
    (hid : ∀ row ∈ settledRow? state.store (clock server.id) server, row.id = server.id)
    (ht : ValidatedAll clock servers state' state'') :
    ValidatedAll clock (server :: servers) state state'' := by
  have hlk : ∀ other ∈ servers, ∀ kind key, credentialReference other kind = some key →
      state'.store.lookup key = state.store.lookup key := fun other ho kind key hkey =>
    hh.lookup_of_apart (ha other ho) (.inl hkey)
  have hrow : ∀ other ∈ servers, settledRow? state'.store (clock other.id) other =
      settledRow? state.store (clock other.id) other := fun other ho =>
    settledRow?_congr (hlk other ho)
  have hr : ∀ other ∈ servers, ∀ key, Released state'.store (clock other.id) other key ↔
      Released state.store (clock other.id) other key := fun other ho key => by
    unfold Released
    rw [hrow other ho]
  refine ⟨fun row => ?_, fun row => ?_, ht.intended.trans hh.intended, fun key hkey => ?_,
    fun key hkey => ?_, fun hst => ?_⟩
  · rw [ht.serverRows, hh.servers, List.exists_mem_cons_iff, List.forall_mem_cons]
    have hs : (∃ other ∈ servers, row ∈ settledRow? state'.store (clock other.id) other) ↔
        ∃ other ∈ servers, row ∈ settledRow? state.store (clock other.id) other :=
      exists_congr fun other => and_congr_right fun ho => by rw [hrow other ho]
    rw [hs]
    constructor
    · rintro (h | ⟨h | ⟨hmem, hid⟩, hos⟩)
      · exact .inl (.inr h)
      · exact .inl (.inl h)
      · exact .inr ⟨hmem, hid, hos⟩
    · rintro ((h | h) | ⟨hmem, hid, hos⟩)
      · refine .inr ⟨.inl h, fun other ho heq => ?_⟩
        exact hne other ho (heq.symm.trans (hid row h))
      · exact .inl h
      · exact .inr ⟨.inr ⟨hmem, hid⟩, hos⟩
  · rw [ht.tunnelRows, hh.tunnels, List.forall_mem_cons, and_assoc]
  · rcases (List.exists_mem_cons_iff _ _ _).1 hkey with hkey | ⟨other, ho, hkey⟩
    · -- what has been emptied stays empty
      by_cases hl : ∃ other ∈ servers, Released state'.store (clock other.id) other key
      · exact ht.emptied key hl
      · push Not at hl
        rw [ht.kept key hl, hh.emptied key hkey]
    · exact ht.emptied key ⟨other, ho, (hr other ho key).2 hkey⟩
  · obtain ⟨hfst, hos⟩ := List.forall_mem_cons.1 hkey
    rw [ht.kept key fun other ho => mt (hr other ho key).1 (hos other ho), hh.kept key hfst]
  · obtain ⟨hfst, hos⟩ := List.forall_mem_cons.1 hst
    rw [ht.settled fun other ho => (hrow other ho).trans (hos other ho), hh.settled hfst]

theorem id_settledRow? {row : ServerRecord} (h : row ∈ settledRow? store now server) :
    row.id = server.id := by
  unfold settledRow? at h
  split at h
  · cases h
  · rw [Option.mem_some_iff] at h
    subst h
    unfold settledRow
    split
    · rfl
    · rw [pairedRow_sweptRow_eq]
      rfl

theorem pairedRow_sweptRow_eq_self (hr : server.Readable net)
    (h : ∀ kind, settledReference store server kind = credentialReference server kind) :
    pairedRow (sweptRow store server credentialKinds) = server := by
  rw [sweptRow_eq_self fun kind _ => h kind]
  obtain ⟨hcfg, -⟩ := validateServerRecord_eq_ok.1 hr.valid
  refine if_neg ?_
  simp [isUnpaired, hcfg.paired]

theorem execute_validateRecoveredServer (h : Recoverable net state server)
    (hmem : server ∈ state.db.servers.rows) (now : Int) :
    ∃ state', execute (validateRecoveredServer net now server) state = (.ok (), state') ∧
      Validated now server state state' := by
  by_cases hr : server.desiredState = .removed
  · exact execute_validateRecoveredServer_removed hr h.sweepable hmem h.readable
      (h.disabled hr) (h.children hr)
  · apply execute_validateRecoveredServer_live hr h.sweepable hmem h.readable
    intro hne
    exact h.revision.resolve_right fun hs =>
      hne (pairedRow_sweptRow_eq_self h.readable hs)

theorem execute_validateRecoveredCredentials (state : Durable)
    (hids : (servers.map ServerRecord.id).Nodup)
    (hmem : ∀ server ∈ servers, server ∈ state.db.servers.rows)
    (hrec : ∀ server ∈ servers, Recoverable net state server)
    (ha : servers.Pairwise fun server other => Apart other server) (clock : Bytes → Int) :
    ∃ state', execute (validateRecoveredCredentials net clock servers) state = (.ok (), state') ∧
      ValidatedAll clock servers state state' := by
  induction servers generalizing state with
  | nil =>
    refine ⟨state, rfl, ⟨by simp, by simp, rfl, by simp, by simp, fun _ => rfl⟩⟩
  | cons server servers ih =>
    obtain ⟨hid, hids⟩ := List.nodup_cons.1 hids
    obtain ⟨hsv, hmem⟩ := List.forall_mem_cons.1 hmem
    obtain ⟨hfst, hrec⟩ := List.forall_mem_cons.1 hrec
    obtain ⟨hh, ha⟩ := List.pairwise_cons.1 ha
    have hne : ∀ other ∈ servers, other.id ≠ server.id := fun other ho heq =>
      hid (heq ▸ List.mem_map_of_mem ho)
    obtain ⟨mid, hrun, hval⟩ := execute_validateRecoveredServer hfst hsv (clock server.id)
    have hmem' : ∀ other ∈ servers, other ∈ mid.db.servers.rows := fun other ho =>
      (hval.servers other).2 (.inr ⟨hmem other ho, hne other ho⟩)
    have hrec' : ∀ other ∈ servers, Recoverable net mid other := by
      intro other ho
      have ho' := hrec other ho
      refine ⟨ho'.sweepable, ho'.readable, ho'.revision.imp_right ?_, ho'.disabled, ?_⟩
      · intro hs kind
        rw [← hs kind]
        exact settledReference_congr rfl fun key hkey =>
          hval.lookup_of_apart (hh other ho) (.inl hkey)
      · intro hr row hrow
        exact ho'.children hr row ((hval.tunnels row).1 hrow).1
    obtain ⟨state', hrun', hval'⟩ := ih mid hids hmem' hrec' ha
    refine ⟨state', ?_, ValidatedAll.cons hval hh hne (fun row => id_settledRow?) hval'⟩
    rw [validateRecoveredCredentials, execute_bind_of_eq hrun]
    exact hrun'

end Loop

/-! ## Whose key is it -/

/-- Each reference is a slot of its own server and kind, or a key that is no slot and
that is referred to nowhere else. -/
def Owned (db : Database) : Prop :=
  ∀ row ∈ db.servers.rows, ∀ kind key, credentialReference row kind = some key →
    key ∈ managedServerCredentialKeys row.id kind ∨
      (∀ id, validId .server id = true → ∀ kind', key ∉ managedServerCredentialKeys id kind') ∧
        ∀ row' ∈ db.servers.rows, ∀ kind', credentialReference row' kind' = some key →
          row' = row ∧ kind' = kind

section Owned

variable {net : AddressFamilies} {db db' : Database} {row row' : ServerRecord}
  {kind kind' : ServerCredentialKind} {key : Bytes}

theorem validId_of_mem (h : row ∈ db.servers.rows) : validId .server row.id = true := by
  have ht := (db.servers.checked row h).texts
  simp only [ServerRecord.validTexts, Bool.and_eq_true] at ht
  exact ht.1.1.1.1.1.1.1.1

theorem eq_of_id_eq (h : row ∈ db.servers.rows) (h' : row' ∈ db.servers.rows)
    (hid : row.id = row'.id) : row = row' :=
  List.inj_on_of_nodup_map db.servers.keys h h' hid

theorem Owned.of_slot (h : Owned db) (hrow : row ∈ db.servers.rows)
    (hrow' : row' ∈ db.servers.rows) (hkey : credentialReference row kind = some key)
    (hs : key ∈ managedServerCredentialKeys row'.id kind') : row = row' ∧ kind = kind' := by
  rcases h row hrow kind key hkey with hown | ⟨hfor, -⟩
  · obtain ⟨hid, hk⟩ := managedServerCredentialKeys_disjoint (validId_of_mem hrow)
      (validId_of_mem hrow') hown hs
    exact ⟨eq_of_id_eq hrow hrow' hid, hk⟩
  · exact absurd hs (hfor row'.id (validId_of_mem hrow') kind')

theorem Owned.eq_of_touches (h : Owned db) (hrow : row ∈ db.servers.rows)
    (hrow' : row' ∈ db.servers.rows) (hkey : Touches row kind key)
    (hkey' : Touches row' kind' key) : row = row' ∧ kind = kind' := by
  rcases hkey with hkey | hs
  · rcases hkey' with hkey' | hs'
    · rcases h row hrow kind key hkey with hown | ⟨-, honly⟩
      · obtain ⟨heq, hk⟩ := h.of_slot hrow' hrow hkey' hown
        exact ⟨heq.symm, hk.symm⟩
      · obtain ⟨heq, hk⟩ := honly row' hrow' kind' hkey'
        exact ⟨heq.symm, hk.symm⟩
    · exact h.of_slot hrow hrow' hkey hs'
  · rcases hkey' with hkey' | hs'
    · obtain ⟨heq, hk⟩ := h.of_slot hrow' hrow hkey' hs
      exact ⟨heq.symm, hk.symm⟩
    · obtain ⟨hid, hk⟩ := managedServerCredentialKeys_disjoint (validId_of_mem hrow)
        (validId_of_mem hrow') hs hs'
      exact ⟨eq_of_id_eq hrow hrow' hid, hk⟩

theorem Owned.of_sub (h : Owned db) (hsub : ∀ row' ∈ db'.servers.rows, ∃ row ∈ db.servers.rows,
    row.id = row'.id ∧ ∀ kind key, credentialReference row' kind = some key →
      credentialReference row kind = some key) : Owned db' := by
  intro row' hrow' kind key hkey
  obtain ⟨row, hrow, hid, href⟩ := hsub row' hrow'
  rcases h row hrow kind key (href kind key hkey) with hown | ⟨hfor, honly⟩
  · exact .inl (hid ▸ hown)
  · refine .inr ⟨hfor, fun other' ho' kind' hkey' => ?_⟩
    obtain ⟨other, ho, hoh, hoe⟩ := hsub other' ho'
    obtain ⟨rfl, hk⟩ := honly other ho kind' (hoe kind' key hkey')
    exact ⟨eq_of_id_eq ho' hrow' (hoh.symm.trans hid), hk⟩

theorem validateKey_of_valid {refr : Option Bytes} {field : String}
    (h : validateOptionalText refr 1 maxCredentialReferenceBytes field = .ok ()) :
    ∀ key ∈ refr, CredentialStore.validateKey key = .ok () := by
  intro key hkey
  subst hkey
  exact validateText_eq_ok.2 (validateText_eq_ok.1 h)

/-- The references of a readable row are keys that the store accepts. -/
theorem validateKey_reference (h : row.Readable net) (kind : ServerCredentialKind) :
    ∀ key ∈ credentialReference row kind, CredentialStore.validateKey key = .ok () := by
  obtain ⟨hcfg, -⟩ := validateServerRecord_eq_ok.1 h.valid
  cases kind with
  | psk => exact validateKey_of_valid hcfg.credentialRef
  | caCertificate => exact validateKey_of_valid hcfg.caCredentialRef
  | clientCertificate => exact validateKey_of_valid hcfg.clientCertificateRef
  | clientPrivateKey => exact validateKey_of_valid hcfg.clientPrivateKeyRef

theorem Owned.sweepable (h : Owned db) (hrow : row ∈ db.servers.rows)
    (hr : row.Readable net) : Sweepable row where
  id := validId_of_mem hrow
  keys := validateKey_reference hr
  apart _ _ _ hkey ht := (h.eq_of_touches hrow hrow (.inl hkey) ht).2

theorem Owned.apart (h : Owned db) (hrow : row ∈ db.servers.rows)
    (hrow' : row' ∈ db.servers.rows) (hne : row ≠ row') : Apart row' row :=
  fun _ _ _ hkey' hkey => hne (h.eq_of_touches hrow hrow' hkey hkey').1

end Owned

/-! ## The whole start-up -/

section StartUp

variable {net : AddressFamilies} {limits : Limits} {state state' : Durable} {db : Database}
  {recAt : Int} {clock : Bytes → Int}

theorem nodup_id_sortedServers (db : Database) :
    ((sortedServers db).map ServerRecord.id).Nodup :=
  ((List.perm_insertionSort _ db.servers.rows).map ServerRecord.id).nodup_iff.2 db.servers.keys

theorem Owned.pairwise_apart (h : Owned db) :
    (sortedServers db).Pairwise fun srv other => Apart other srv := by
  have hne : (sortedServers db).Pairwise fun srv other => srv.id ≠ other.id :=
    List.pairwise_map.1 (nodup_id_sortedServers db)
  refine hne.imp_of_mem fun {srv other} hs ho hid => ?_
  exact h.apart (mem_sortedServers.1 hs) (mem_sortedServers.1 ho) fun heq =>
    hid (congrArg _ heq)

theorem credentialReference_normalized (row : ServerRecord) (kind : ServerCredentialKind) :
    credentialReference (row.normalized recAt) kind = credentialReference row kind := by
  rw [ServerRecord.normalized_eq]
  cases kind <;> rfl

theorem normalized_owned (h : Owned state.db) (hrun : normalize recAt state.db = .ok db) :
    Owned db := by
  obtain ⟨hr, -⟩ := rows_normalize hrun
  apply h.of_sub
  rw [hr]
  intro row' hrow'
  obtain ⟨row, hrow, rfl⟩ := List.mem_map.1 hrow'
  refine ⟨row, hrow, (row.columns_normalized recAt).1.symm, fun kind key hkey => ?_⟩
  rwa [credentialReference_normalized] at hkey

theorem recoverable_of_normalize (hown : Owned state.db) (hrd : state.db.Readable net)
    (hrev : ∀ row ∈ state.db.servers.rows, row.configRevision < maxConfigRevision ∨
      ∀ kind, settledReference state.store row kind = credentialReference row kind)
    (hrun : normalize recAt state.db = .ok db) :
    ∀ srv ∈ sortedServers db, Recoverable net { state with db } srv := by
  intro srv hsv
  have hmem := mem_sortedServers.1 hsv
  have hread := (Database.readable_iff.1 (normalize_readable hrd hrun)).1 srv hmem
  obtain ⟨hrs, hr'⟩ := rows_normalize hrun
  have hmem' := hmem
  rw [hrs] at hmem'
  obtain ⟨old, hold, heq⟩ := List.mem_map.1 hmem'
  rw [ServerRecord.normalized_eq] at heq
  have hd : srv.desiredState = old.desiredState := by rw [← heq]
  refine ⟨(normalized_owned hown hrun).sweepable hmem hread, hread, ?_, ?_, ?_⟩
  · rw [← heq]
    refine (hrev old hold).imp_right fun hs kind => ?_
    cases kind with
    | psk => exact hs .psk
    | caCertificate => exact hs .caCertificate
    | clientCertificate => exact hs .clientCertificate
    | clientPrivateKey => exact hs .clientPrivateKey
  · intro hr
    rw [← heq]
    simp [ServerRecord.recoveredState, ← hd, hr]
  · intro hr row hrow hp
    rw [hr'] at hrow
    obtain ⟨child, -, rfl⟩ := List.mem_map.1 hrow
    apply TunnelRecord.isTombstone_normalized
    have hid : srv.id = old.id := by rw [← heq]
    rw [TunnelRecord.serverId_normalized] at hp
    by_contra hnot
    exact notMem_removedServerIds.1 hnot old hold (by rw [hp, hid]) (hd.symm.trans hr)

theorem execute_startUp {srvs : List ServerRecord} {tns : List TunnelRecord}
    (hss : listServers net limits state.db = .ok srvs)
    (htns : listTunnels net limits state.db = .ok tns) (hown : Owned state.db)
    (hrev : ∀ row ∈ state.db.servers.rows, row.configRevision < maxConfigRevision ∨
      ∀ kind, settledReference state.store row kind = credentialReference row kind)
    (recAt : Int) (clock : Bytes → Int) :
    ∃ db state', normalize recAt state.db = .ok db ∧
      execute (startUp net limits recAt clock) state = (.ok (), state') ∧
      ValidatedAll clock (sortedServers db) { state with db } state' := by
  obtain ⟨hrm, hread, -⟩ := listServers_eq_ok.1 hss
  obtain ⟨hrm', hr', -⟩ := listTunnels_eq_ok.1 htns
  have hr : state.db.Readable net := Database.readable_iff.2 ⟨hread, hr'⟩
  obtain ⟨db, hrun⟩ := exists_normalize recAt state.db
  have hrec : recover net limits recAt state.db =
      .ok (db, ⟨sortedServers db, sortedTunnels db⟩) :=
    recover_eq_ok.2 ⟨hrm, hrm', hr, hrun, normalize_readable hr hrun, rfl⟩
  obtain ⟨state', he, hval⟩ := execute_validateRecoveredCredentials { state with db }
    (nodup_id_sortedServers db) (fun srv hs => mem_sortedServers.1 hs)
    (recoverable_of_normalize hown hr hrev hrun)
    (normalized_owned hown hrun).pairwise_apart clock
  refine ⟨db, state', hrun, ?_, hval⟩
  unfold startUp
  rw [execute_call]
  simp only [answer, hrec]
  exact he

end StartUp

/-! ## The normal form -/

/-- The rows and credentials of a daemon that has just started. -/
structure NormalForm (state : Durable) : Prop where
  live : ∀ row ∈ state.db.servers.rows, row.desiredState ≠ .removed
  enabled : ∀ row ∈ state.db.servers.rows, row.desiredState = .enabled →
    row.actualState = if row.credentialRef.isSome then .disconnected else .notAuthenticated
  disabled : ∀ row ∈ state.db.servers.rows, row.desiredState = .disabled →
    row.actualState = .disabled
  idle : ∀ row ∈ state.db.servers.rows, row.reconnectAttempt = 0 ∧ row.latencyMs = none
  activeTunnels : ∀ row ∈ state.db.tunnels.rows, row.desiredState = .active →
    row.actualState = .pending
  disabledTunnels : ∀ row ∈ state.db.tunnels.rows, row.desiredState = .disabled →
    row.actualState = .disabled
  removedTunnels : ∀ row ∈ state.db.tunnels.rows, row.desiredState = .removed →
    row.actualState = .removing
  resolves : ∀ row ∈ state.db.servers.rows, ∀ kind key, credentialReference row kind = some key →
    (state.store.lookup key).isSome = true
  paired : ∀ row ∈ state.db.servers.rows,
    row.clientCertificateRef.isSome = row.clientPrivateKeyRef.isSome
  referenced : ∀ row ∈ state.db.servers.rows, ∀ kind,
    ∀ key ∈ managedServerCredentialKeys row.id kind, (state.store.lookup key).isSome = true →
      credentialReference row kind = some key

/-- The columns of a server row that start-up leaves alone.  The others are the actual
state, the attempt and the latency, the references, the revision, the last error and the
time of the update. -/
def fixedColumns (row : ServerRecord) :
    Bytes × Option Bytes × Endpoint × Option Bytes × ServerDesiredState × Int × Option Bytes ×
      Bool :=
  (row.id, row.name, row.endpoint, row.remoteServerId, row.desiredState, row.createdAt,
    row.tlsServerName, row.managedByConfig)

/-- A server row before and after start-up: references may be cleared. -/
structure SameServer (row row' : ServerRecord) : Prop where
  columns : fixedColumns row' = fixedColumns row
  references : ∀ kind, credentialReference row' kind = none ∨
    credentialReference row' kind = credentialReference row kind

/-- A tunnel row before and after start-up. -/
def SameTunnel (row row' : TunnelRecord) : Prop :=
  row' = { row with actualState := row'.actualState, updatedAt := row'.updatedAt }

/-- The rows before and after start-up: a removed server goes with its tunnels, and every
other row survives. -/
structure Survives (db db' : Database) : Prop where
  fromServer : ∀ row' ∈ db'.servers.rows, ∃ row ∈ db.servers.rows,
    row.desiredState ≠ .removed ∧ SameServer row row'
  toServer : ∀ row ∈ db.servers.rows, row.desiredState ≠ .removed →
    ∃ row' ∈ db'.servers.rows, SameServer row row'
  fromTunnel : ∀ row' ∈ db'.tunnels.rows, ∃ row ∈ db.tunnels.rows,
    (∀ server ∈ db.servers.rows, server.id = row.serverId → server.desiredState ≠ .removed) ∧
      SameTunnel row row'
  toTunnel : ∀ row ∈ db.tunnels.rows,
    (∀ server ∈ db.servers.rows, server.id = row.serverId → server.desiredState ≠ .removed) →
      ∃ row' ∈ db'.tunnels.rows, SameTunnel row row'

section NormalForm

variable {net : AddressFamilies} {limits : Limits} {state state' : Durable} {db : Database}
  {store : CredentialStore} {now recoveredAt : Int} {clock : Bytes → Int} {server : ServerRecord}

theorem actualState_strippedRow {references : ServerCredentialKind → Option Bytes}
    (hpsk : references .psk = none ∨ references .psk = server.credentialRef)
    (h : server.actualState = server.recoveredState) :
    (strippedRow now (withReferences server references)).actualState =
      (strippedRow now (withReferences server references)).recoveredState := by
  simp only [strippedRow, withReferences, ServerRecord.recoveredState] at h ⊢
  rcases hpsk with hno | hs
  · by_cases he : server.desiredState = .enabled <;> simp [hno, he]
  · by_cases hc : server.credentialRef = none
    · by_cases he : server.desiredState = .enabled <;> simp [hs, hc, he]
    · have hsome := Option.ne_none_iff_isSome.1 hc
      by_cases he : server.desiredState = .enabled <;>
        simp [hs, h, he]

theorem actualState_settledRow (h : server.actualState = server.recoveredState) :
    (settledRow store now server).actualState = (settledRow store now server).recoveredState := by
  have hpsk := settledRow_reference_cases store now server .psk
  rw [credentialReference_settledRow] at hpsk
  unfold settledRow
  split
  · exact h
  · rw [pairedRow_sweptRow_eq]
    exact actualState_strippedRow hpsk h

/-- What start-up makes of a row that is not removed. -/
def startedRow (store : CredentialStore) (recoveredAt : Int) (clock : Bytes → Int)
    (row : ServerRecord) : ServerRecord :=
  settledRow store (clock row.id) (row.normalized recoveredAt)

variable (row : ServerRecord)

theorem sameServer_startedRow : SameServer row (startedRow store recoveredAt clock row) := by
  refine ⟨?_, fun kind => ?_⟩
  · unfold startedRow settledRow
    rw [ServerRecord.normalized_eq]
    split
    · rfl
    · rw [pairedRow_sweptRow_eq]
      rfl
  · rw [← credentialReference_normalized row kind]
    exact settledRow_reference_cases _ _ _ kind

theorem id_startedRow : (startedRow store recoveredAt clock row).id = row.id :=
  congrArg Prod.fst (sameServer_startedRow row).columns

theorem settledRow?_normalized :
    settledRow? store (clock (row.normalized recoveredAt).id) (row.normalized recoveredAt) =
      if row.desiredState = .removed then none
      else some (startedRow store recoveredAt clock row) := by
  unfold settledRow?
  rw [(row.columns_normalized recoveredAt).1, (row.columns_normalized recoveredAt).2]
  rfl

theorem idle_startedRow :
    (startedRow store recoveredAt clock row).reconnectAttempt = 0 ∧
      (startedRow store recoveredAt clock row).latencyMs = none := by
  unfold startedRow settledRow
  rw [ServerRecord.normalized_eq]
  split
  · exact ⟨rfl, rfl⟩
  · rw [pairedRow_sweptRow_eq]
    exact ⟨rfl, rfl⟩

theorem actualState_startedRow :
    (startedRow store recoveredAt clock row).actualState =
      (startedRow store recoveredAt clock row).recoveredState := by
  apply actualState_settledRow
  rw [ServerRecord.normalized_eq]
  rfl

theorem sameTunnel_normalized {removed : List Bytes} {row : TunnelRecord}
    (h : row.serverId ∉ removed) : SameTunnel row (row.normalized recoveredAt removed) := by
  have heq := TunnelRecord.normalized_eq recoveredAt h
  have hs : (row.normalized recoveredAt removed).actualState = row.recoveredState := by
    rw [heq]
  unfold SameTunnel
  rw [hs]
  exact heq

theorem paired_settledRow (server : ServerRecord) :
    (settledRow store now server).clientCertificateRef.isSome =
      (settledRow store now server).clientPrivateKeyRef.isSome := by
  have hc : (settledRow store now server).clientCertificateRef =
      (pairedRow (sweptRow store server credentialKinds)).clientCertificateRef :=
    credentialReference_settledRow now .clientCertificate
  have hkey : (settledRow store now server).clientPrivateKeyRef =
      (pairedRow (sweptRow store server credentialKinds)).clientPrivateKeyRef :=
    credentialReference_settledRow now .clientPrivateKey
  have hp : isUnpaired (pairedRow (sweptRow store server credentialKinds)) = false :=
    isUnpaired_pairedRow
  rw [hc, hkey]
  simpa [isUnpaired] using hp

theorem readable_settledRow (hr : server.Readable net)
    (hrev : server.configRevision < maxConfigRevision) :
    (settledRow store now server).Readable net := by
  have hval := valid_strippedRow store now hr.valid hrev
  unfold settledRow
  split
  · exact hr
  · refine ⟨?_, hval⟩
    rw [pairedRow_sweptRow_eq]
    exact hr.endpoint

section Started

variable (hrun : normalize recoveredAt state.db = .ok db)
  (h : ValidatedAll clock (sortedServers db) { state with db } state')
include hrun h

theorem mem_started {row' : ServerRecord} :
    row' ∈ state'.db.servers.rows ↔ ∃ row ∈ state.db.servers.rows, row.desiredState ≠ .removed ∧
      row' = startedRow state.store recoveredAt clock row := by
  obtain ⟨hr, -⟩ := rows_normalize hrun
  rw [h.serverRows]
  constructor
  · rintro (⟨server, hs, hrow'⟩ | ⟨hmem, ho⟩)
    · rw [mem_sortedServers, hr] at hs
      obtain ⟨row, hrow, rfl⟩ := List.mem_map.1 hs
      rw [settledRow?_normalized] at hrow'
      split at hrow'
      · cases hrow'
      · next hl => exact ⟨row, hrow, hl, (Option.mem_some_iff.1 hrow').symm⟩
    · exact absurd rfl (ho row' (mem_sortedServers.2 hmem))
  · rintro ⟨row, hrow, hl, rfl⟩
    refine .inl ⟨row.normalized recoveredAt, ?_, ?_⟩
    · rw [mem_sortedServers, hr]
      exact List.mem_map_of_mem hrow
    · rw [settledRow?_normalized, if_neg hl]
      rfl

theorem mem_startedTunnels {row' : TunnelRecord} :
    row' ∈ state'.db.tunnels.rows ↔ ∃ row ∈ state.db.tunnels.rows,
      row.serverId ∉ removedServerIds state.db ∧
        row' = row.normalized recoveredAt (removedServerIds state.db) := by
  obtain ⟨hrs, hr'⟩ := rows_normalize hrun
  have hr : ∀ id, (∀ server ∈ sortedServers db,
      ¬ (server.desiredState = .removed ∧ id = server.id)) ↔ id ∉ removedServerIds state.db := by
    intro id
    have hids : removedServerIds db = removedServerIds state.db :=
      removedServerIds_map hrs (ServerRecord.columns_normalized recoveredAt)
    rw [← hids, notMem_removedServerIds]
    simp only [mem_sortedServers, not_and]
    exact ⟨fun hall server hsv heq hs => hall server hsv hs heq.symm,
      fun hall server hsv hs heq => hall server hsv heq.symm hs⟩
  rw [h.tunnelRows, hr]
  simp only [hr', List.mem_map]
  constructor
  · rintro ⟨⟨row, hrow, rfl⟩, hl⟩
    rw [TunnelRecord.serverId_normalized] at hl
    exact ⟨row, hrow, hl, rfl⟩
  · rintro ⟨row, hrow, hl, rfl⟩
    rw [TunnelRecord.serverId_normalized]
    exact ⟨⟨row, hrow, rfl⟩, hl⟩

theorem survives_of_validatedAll : Survives state.db state'.db := by
  refine ⟨fun row' hrow' => ?_, fun row hrow hl => ?_, fun row' hrow' => ?_,
    fun row hrow hl => ?_⟩
  · obtain ⟨row, hrow, hl, rfl⟩ := (mem_started hrun h).1 hrow'
    exact ⟨row, hrow, hl, sameServer_startedRow row⟩
  · exact ⟨_, (mem_started hrun h).2 ⟨row, hrow, hl, rfl⟩, sameServer_startedRow row⟩
  · obtain ⟨row, hrow, hl, rfl⟩ := (mem_startedTunnels hrun h).1 hrow'
    exact ⟨row, hrow, notMem_removedServerIds.1 hl, sameTunnel_normalized hl⟩
  · have hl := notMem_removedServerIds.2 hl
    exact ⟨_, (mem_startedTunnels hrun h).2 ⟨row, hrow, hl, rfl⟩, sameTunnel_normalized hl⟩

/-- The credentials after start-up: what a row refers to is there, and of its slots nothing
else is. -/
theorem credentials_of_validatedAll (hown : Owned db) {row' : ServerRecord}
    (hrow' : row' ∈ state'.db.servers.rows) (kind : ServerCredentialKind) (key : Bytes) :
    (credentialReference row' kind = some key → (state'.store.lookup key).isSome = true) ∧
      (key ∈ managedServerCredentialKeys row'.id kind → (state'.store.lookup key).isSome = true →
        credentialReference row' kind = some key) := by
  obtain ⟨row, hrow, hl, rfl⟩ := (mem_started hrun h).1 hrow'
  obtain ⟨hr, -⟩ := rows_normalize hrun
  have hmem : row.normalized recoveredAt ∈ db.servers.rows := hr ▸ List.mem_map_of_mem hrow
  have hst : settledRow? state.store (clock (row.normalized recoveredAt).id)
      (row.normalized recoveredAt) = some (startedRow state.store recoveredAt clock row) := by
    rw [settledRow?_normalized, if_neg hl]
  constructor
  · intro hkey
    have href : credentialReference (row.normalized recoveredAt) kind = some key := by
      rw [← hkey]
      refine ((settledRow_reference_cases _ _ _ kind).resolve_left ?_).symm
      exact fun hno => Option.some_ne_none key (hkey.symm.trans hno)
    rw [h.kept key]
    · exact settledRow_resolves hkey
    · rintro server hsv ⟨kind', ht, hnot⟩
      obtain ⟨rfl, rfl⟩ := hown.eq_of_touches (mem_sortedServers.1 hsv) hmem ht (.inl href)
      exact hnot _ hst hkey
  · intro hs hsome
    by_contra hne
    rw [id_startedRow, ← (row.columns_normalized recoveredAt).1] at hs
    have hgone := h.emptied key ⟨row.normalized recoveredAt, mem_sortedServers.2 hmem, kind,
      .inr hs, fun other ho => by
        rw [hst, Option.mem_some_iff] at ho
        exact ho ▸ hne⟩
    rw [hgone] at hsome
    cases hsome

theorem normalForm_of_validatedAll (hown : Owned db) : NormalForm state' := by
  have hs : ∀ row ∈ state'.db.servers.rows, row.desiredState ≠ .removed ∧
      row.actualState = row.recoveredState := by
    intro row' hrow'
    obtain ⟨row, -, hl, rfl⟩ := (mem_started hrun h).1 hrow'
    have hds : (startedRow state.store recoveredAt clock row).desiredState =
        row.desiredState := congrArg (fun columns => columns.2.2.2.2.1)
      (sameServer_startedRow row).columns
    exact ⟨hds ▸ hl, actualState_startedRow row⟩
  have ht : ∀ row ∈ state'.db.tunnels.rows, row.actualState = row.recoveredState := by
    intro row' hrow'
    obtain ⟨row, -, hl, rfl⟩ := (mem_startedTunnels hrun h).1 hrow'
    rw [TunnelRecord.normalized_eq recoveredAt hl]
    rfl
  refine ⟨fun row hrow => (hs row hrow).1, fun row hrow he => ?_,
    fun row hrow hd => ?_, fun row' hrow' => ?_, fun row hrow hact => ?_,
    fun row hrow hd => ?_, fun row hrow hr => ?_, fun row' hrow' kind key hkey => ?_,
    fun row' hrow' => ?_, fun row' hrow' kind key hsl hsome => ?_⟩
  · rw [(hs row hrow).2, ServerRecord.recoveredState]
    cases href : row.credentialRef <;> simp [he]
  · rw [(hs row hrow).2, ServerRecord.recoveredState]
    simp [hd]
  · obtain ⟨row, -, -, rfl⟩ := (mem_started hrun h).1 hrow'
    exact idle_startedRow row
  · rw [ht row hrow, TunnelRecord.recoveredState, hact]
  · rw [ht row hrow, TunnelRecord.recoveredState, hd]
  · rw [ht row hrow, TunnelRecord.recoveredState, hr]
  · exact (credentials_of_validatedAll hrun h hown hrow' kind key).1 hkey
  · obtain ⟨row, -, -, rfl⟩ := (mem_started hrun h).1 hrow'
    exact paired_settledRow _
  · exact (credentials_of_validatedAll hrun h hown hrow' kind key).2 hsl hsome

theorem list_of_validatedAll {srvs : List ServerRecord} {tns : List TunnelRecord}
    (hs : listServers net limits state.db = .ok srvs)
    (htns : listTunnels net limits state.db = .ok tns)
    (hrev : ∀ row ∈ state.db.servers.rows, row.configRevision < maxConfigRevision) :
    (∃ servers', listServers net limits state'.db = .ok servers') ∧
      ∃ tunnels', listTunnels net limits state'.db = .ok tunnels' := by
  obtain ⟨hrm, hr, -⟩ := listServers_eq_ok.1 hs
  obtain ⟨hrm', hr', -⟩ := listTunnels_eq_ok.1 htns
  have hnor := Database.readable_iff.1
    (normalize_readable (Database.readable_iff.2 ⟨hr, hr'⟩) hrun)
  obtain ⟨hrs, hrs'⟩ := rows_normalize hrun
  refine ⟨⟨_, listServers_eq_ok.2 ⟨le_trans ?_ hrm, ?_, rfl⟩⟩,
    ⟨_, listTunnels_eq_ok.2 ⟨le_trans ?_ hrm', ?_, rfl⟩⟩⟩
  · -- every row that is left has the identifier of a row that was there
    have hsub : state'.db.servers.rows.map ServerRecord.id ⊆
        state.db.servers.rows.map ServerRecord.id := by
      intro id hid
      obtain ⟨row', hrow', rfl⟩ := List.mem_map.1 hid
      obtain ⟨row, hrow, -, rfl⟩ := (mem_started hrun h).1 hrow'
      rw [id_startedRow]
      exact List.mem_map_of_mem hrow
    simpa using (List.subperm_of_subset state'.db.servers.keys hsub).length_le
  · intro row' hrow'
    obtain ⟨row, hrow, -, rfl⟩ := (mem_started hrun h).1 hrow'
    apply readable_settledRow
    · exact hnor.1 _ (hrs ▸ List.mem_map_of_mem hrow)
    · rw [ServerRecord.normalized_eq]
      exact hrev row hrow
  · have hsub : state'.db.tunnels.rows ⊆ db.tunnels.rows := fun row hrow =>
      ((h.tunnelRows row).1 hrow).1
    have hlen := (List.subperm_of_subset state'.db.tunnels.keys.of_map hsub).length_le
    rw [hrs', List.length_map] at hlen
    exact hlen
  · intro row' hrow'
    exact hnor.2 row' ((h.tunnelRows row').1 hrow').1

theorem owned_of_validatedAll (hown : Owned state.db) : Owned state'.db := by
  apply hown.of_sub
  intro row' hrow'
  obtain ⟨row, hrow, -, rfl⟩ := (mem_started hrun h).1 hrow'
  have hs : SameServer row (startedRow state.store recoveredAt clock row) :=
    sameServer_startedRow row
  refine ⟨row, hrow, (id_startedRow row).symm, fun kind key hkey => ?_⟩
  rw [← hkey]
  refine ((hs.references kind).resolve_left fun hno => ?_).symm
  exact Option.some_ne_none key (hkey.symm.trans hno)

end Started

/-! ## Starting again -/

theorem NormalForm.normalize_eq (h : NormalForm state)
    (hrun : normalize recoveredAt state.db = .ok db) : db = state.db := by
  obtain ⟨hr, hr'⟩ := rows_normalize hrun
  apply Database.ext
  · rw [hr]
    refine (List.map_congr_left fun row hrow => ?_).trans (List.map_id' _)
    have hs : row.actualState = row.recoveredState := by
      rw [ServerRecord.recoveredState]
      cases hd : row.desiredState with
      | enabled =>
        rw [h.enabled row hrow hd]
        cases row.credentialRef <;> simp
      | disabled => simp [h.disabled row hrow hd]
      | removed => exact absurd hd (h.live row hrow)
    refine if_neg ?_
    simp [ServerRecord.needsRecovery, hs, h.idle row hrow]
  · rw [hr']
    refine (List.map_congr_left fun row hrow => ?_).trans (List.map_id' _)
    have hl : row.serverId ∉ removedServerIds state.db :=
      notMem_removedServerIds.2 fun server hsv _ => h.live server hsv
    have hs : row.actualState = row.recoveredState := by
      rw [TunnelRecord.recoveredState]
      cases hd : row.desiredState with
      | active => exact h.activeTunnels row hrow hd
      | disabled => exact h.disabledTunnels row hrow hd
      | removed => exact h.removedTunnels row hrow hd
    unfold TunnelRecord.normalized
    have hk : Table.assigned (fun row => row.serverId ∈ removedServerIds state.db ∧
        !row.isTombstone) (fun row => row.entombed (max row.updatedAt recoveredAt)) row = row :=
      if_neg (by simp [hl])
    rw [hk]
    exact if_neg (by simp [hs])

theorem NormalForm.settledReference_eq (h : NormalForm state) {row : ServerRecord}
    (hrow : row ∈ state.db.servers.rows) (kind : ServerCredentialKind) :
    settledReference state.store row kind = credentialReference row kind := by
  apply Option.ext
  intro key
  rw [settledReference_eq_some]
  exact ⟨fun hkey => hkey.1, fun hkey => ⟨hkey, h.resolves row hrow kind key hkey⟩⟩

theorem NormalForm.execute_startUp_eq (h : NormalForm state) {srvs : List ServerRecord}
    {tns : List TunnelRecord} (hss : listServers net limits state.db = .ok srvs)
    (htns : listTunnels net limits state.db = .ok tns) (hown : Owned state.db)
    (recoveredAt : Int) (clock : Bytes → Int) :
    ∃ state', execute (startUp net limits recoveredAt clock) state = (.ok (), state') ∧
      state'.db = state.db ∧ ∀ key, state'.store.lookup key = state.store.lookup key := by
  obtain ⟨hrm, hrd, -⟩ := listServers_eq_ok.1 hss
  obtain ⟨db, state', hrun, he, hval⟩ := execute_startUp hss htns hown
    (fun row hrow => .inr (h.settledReference_eq hrow)) recoveredAt clock
  obtain rfl := h.normalize_eq hrun
  have hst : ∀ server ∈ sortedServers state.db,
      settledRow? state.store (clock server.id) server = some server := by
    intro server hs
    have hmem := mem_sortedServers.1 hs
    unfold settledRow? settledRow
    rw [if_neg (h.live server hmem), if_pos (pairedRow_sweptRow_eq_self (hrd server hmem)
      (h.settledReference_eq hmem))]
  refine ⟨state', he, hval.settled hst, fun key => ?_⟩
  by_cases hr : ∃ server ∈ sortedServers state.db,
      Released state.store (clock server.id) server key
  · rw [hval.emptied key hr]
    obtain ⟨server, hs, kind, ht, hnot⟩ := hr
    have hmem := mem_sortedServers.1 hs
    have hne := hnot server (hst server hs)
    have hsl := ht.resolve_left hne
    cases hl : state.store.lookup key with
    | none => rfl
    | some sec =>
      exact absurd (h.referenced server hmem kind key hsl (by simp [hl])) hne
  · push Not at hr
    exact hval.kept key hr

end NormalForm

/-- Start-up succeeds and reaches the normal form.  The rows of removed servers go, with
their tunnels; every other row survives; and starting again, at any time, changes nothing. -/
def ReachesNormalForm (net : AddressFamilies) (limits : Limits) (recoveredAt : Int)
    (clock : Bytes → Int) (state : Durable) : Prop :=
  ∃ state', execute (startUp net limits recoveredAt clock) state = (.ok (), state') ∧
    NormalForm state' ∧ Survives state.db state'.db ∧
    ∀ recoveredAt' clock', ∃ state'',
      execute (startUp net limits recoveredAt' clock') state' = (.ok (), state'') ∧
        state''.db = state'.db ∧ ∀ key, state''.store.lookup key = state'.store.lookup key

theorem startUp_normalForm (net : AddressFamilies) (limits : Limits) (state : Durable)
    (servers : List ServerRecord) (tunnels : List TunnelRecord)
    (hservers : listServers net limits state.db = .ok servers)
    (htunnels : listTunnels net limits state.db = .ok tunnels) (howned : Owned state.db)
    (hrevisions : ∀ row ∈ state.db.servers.rows, row.configRevision < maxConfigRevision)
    (recoveredAt : Int) (clock : Bytes → Int) :
    ReachesNormalForm net limits recoveredAt clock state := by
  obtain ⟨db, state', hrun, hexecute, hvalidated⟩ := execute_startUp hservers htunnels howned
    (fun row hrow => .inl (hrevisions row hrow)) recoveredAt clock
  have hnormal := normalForm_of_validatedAll hrun hvalidated (normalized_owned howned hrun)
  obtain ⟨⟨servers', hservers'⟩, tunnels', htunnels'⟩ :=
    list_of_validatedAll hrun hvalidated hservers htunnels hrevisions
  exact ⟨state', hexecute, hnormal, survives_of_validatedAll hrun hvalidated,
    hnormal.execute_startUp_eq hservers' htunnels' (owned_of_validatedAll hrun hvalidated howned)⟩

namespace LostCredential

def server : ServerRecord :=
  { NulMessage.server with
    credentialRef := some (primaryKey NulMessage.serverText .psk)
    actualState := .online
    latencyMs := some 4 }

/-- Its credential is gone, and a certificate is left that nothing refers to. -/
def state : Durable where
  db := ((createServer NulMessage.limits server Database.empty).toOption).getD Database.empty
  store := ((CredentialStore.empty.put (primaryKey NulMessage.serverText .clientCertificate)
    (ascii "certificate")).toOption).getD CredentialStore.empty
  intended _ _ := none

theorem rows_state : state.db.servers.rows = [server] := rfl

theorem owned_state : Owned state.db := by
  intro row hrow kind key hkey
  rw [rows_state, List.mem_singleton] at hrow
  subst hrow
  cases kind with
  | psk =>
    cases hkey
    exact .inl List.mem_cons_self
  | caCertificate => cases hkey
  | clientCertificate => cases hkey
  | clientPrivateKey => cases hkey

theorem lostCredential_normalForm :
    ReachesNormalForm Endpoint.plainFamilies NulMessage.limits 5 (fun _ => 7) state := by
  refine startUp_normalForm _ _ _ [server] [] (by decide +kernel) (by decide +kernel) owned_state
    ?_ 5 fun _ => 7
  decide

end LostCredential

end MiniTun.Daemon
