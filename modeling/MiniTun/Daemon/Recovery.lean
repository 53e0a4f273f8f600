import MiniTun.Daemon.CredentialKeys

/-!
# Recovery at start-up

Before the daemon serves requests it brings the rows into a normal form
(`StateRepository::recover`) and then goes through the credentials of every server
(`validate_recovered_credentials`): what a removed server left behind is erased, a
reference that does not resolve is cleared, and every slot that is not referred to is
emptied.
-/

namespace MiniTun.Daemon

open Interaction Relational Storage

/-- A function of the repositories in a transaction of its own. -/
def transaction (body : Database → Result Database) : Procedure (Result Unit) := do
  match ← Program.request .begin with
  | .error e => pure (.error e)
  | .ok db =>
    match body db with
    | .error e => do
      Program.request .rollback
      pure (.error e)
    | .ok db' => Program.request (.commit db' [])

/-- The loop of `validate_recovered_credentials` over the kinds of credentials: the row
without the references that do not resolve, and whether there were any. -/
def sweepKinds (server : ServerRecord) (changed : Bool) :
    List ServerCredentialKind → Procedure (Result (ServerRecord × Bool))
  | [] => pure (.ok (server, changed))
  | kind :: kinds =>
    match credentialReference server kind with
    | none => do
      match ← cleanupServerCredentialKind server.id kind none none with
      | .error e => pure (.error e)
      | .ok () => sweepKinds server changed kinds
    | some reference => do
      match ← Program.request (.get reference) with
      | .ok _ =>
        match ← cleanupServerCredentialKind server.id kind (some reference) (some reference) with
        | .error e => pure (.error e)
        | .ok () => sweepKinds server changed kinds
      | .error e =>
        if e.code ≠ .notFound then pure (.error e)
        else
          match ← cleanupServerCredentialKind server.id kind (some reference) none with
          | .error e => pure (.error e)
          | .ok () => sweepKinds (setReference kind none server) true kinds

/-- The loop that drops a certificate without its key, or a key without its
certificate. -/
def dropKinds (server : ServerRecord) : List ServerCredentialKind → Procedure (Result ServerRecord)
  | [] => pure (.ok server)
  | kind :: kinds => do
    match ← cleanupServerCredentialKind server.id kind (credentialReference server kind) none with
    | .error e => pure (.error e)
    | .ok () => dropKinds (setReference kind none server) kinds

/-- Whether exactly one of certificate and key is there. -/
def isUnpaired (server : ServerRecord) : Bool :=
  server.clientCertificateRef.isSome ≠ server.clientPrivateKeyRef.isSome

/-- The row that is written when references of it have been cleared. -/
def strippedRow (now : Int) (server : ServerRecord) : ServerRecord :=
  { server with
    actualState :=
      if server.credentialRef.isSome then server.actualState
      else if server.desiredState = .enabled then .notAuthenticated
      else .disabled
    configRevision := server.configRevision + 1
    lastErrorCode := none
    lastErrorMessage := none
    updatedAt := max server.updatedAt now }

section Sweep

variable (net : AddressFamilies)

/-- The end of the loop body of `validate_recovered_credentials`. -/
def writeSwept (now : Int) (server : ServerRecord) (changed : Bool) : Procedure (Result Unit) :=
  if changed then
    if maxConfigRevision ≤ server.configRevision then
      pure (failure .resourceExhausted "server configuration revision is exhausted")
    else transaction (updateServer net (strippedRow now server))
  else pure (.ok ())

/-- The loop body of `validate_recovered_credentials`. -/
def validateRecoveredServer (now : Int) (server : ServerRecord) : Procedure (Result Unit) := do
  if server.desiredState = .removed then
    match ← cleanupAllServerCredentials server with
    | .error e => pure (.error e)
    | .ok () =>
      match Id.parseKind server.id .server with
      | .error e => pure (.error e)
      | .ok id =>
        match ← transaction (eraseServer net id) with
        | .ok () => pure (.ok ())
        | .error e => if e.code ≠ .notFound then pure (.error e) else pure (.ok ())
  else
    match ← sweepKinds server false credentialKinds with
    | .error e => pure (.error e)
    | .ok (swept, changed) =>
      if isUnpaired swept then
        match ← dropKinds swept [.clientCertificate, .clientPrivateKey] with
        | .error e => pure (.error e)
        | .ok dropped => writeSwept net now dropped true
      else writeSwept net now swept changed

/-- `validate_recovered_credentials`.  The clock is read once for each row that is
written. -/
def validateRecoveredCredentials (clock : Bytes → Int) :
    List ServerRecord → Procedure (Result Unit)
  | [] => pure (.ok ())
  | server :: servers => do
    match ← validateRecoveredServer net (clock server.id) server with
    | .error e => pure (.error e)
    | .ok () => validateRecoveredCredentials clock servers

/-- What the daemon does with its databases before it serves requests. -/
def startUp (limits : Limits) (recoveredAt : Int) (clock : Bytes → Int) :
    Procedure (Result Unit) := do
  match ← Program.request .begin with
  | .error e => pure (.error e)
  | .ok db =>
    match recover net limits recoveredAt db with
    | .error e => do
      Program.request .rollback
      pure (.error e)
    | .ok (db', snapshot) =>
      match ← Program.request (.commit db' []) with
      | .error e => pure (.error e)
      | .ok () => validateRecoveredCredentials net clock snapshot.servers

end Sweep

/-! ## What the sweep makes of a row -/

/-- A reference after the sweep: it stays if it resolves. -/
def settledReference (store : CredentialStore) (server : ServerRecord)
    (kind : ServerCredentialKind) : Option Bytes :=
  (credentialReference server kind).filter fun key => (store.lookup key).isSome

/-- The row with the settled references of some kinds. -/
def sweptRow (store : CredentialStore) (server : ServerRecord)
    (kinds : List ServerCredentialKind) : ServerRecord :=
  kinds.foldl (fun row kind => setReference kind (settledReference store server kind) row) server

/-- The row without a certificate that has no key, or a key that has no certificate. -/
def pairedRow (server : ServerRecord) : ServerRecord :=
  if isUnpaired server then
    setReference .clientPrivateKey none (setReference .clientCertificate none server)
  else server

/-- What recovery makes of the row of a server that is not removed. -/
def settledRow (store : CredentialStore) (now : Int) (server : ServerRecord) : ServerRecord :=
  if pairedRow (sweptRow store server credentialKinds) = server then server
  else strippedRow now (pairedRow (sweptRow store server credentialKinds))

/-- The keys that belong to a server and kind: what the row refers to, and the slots. -/
def Touches (server : ServerRecord) (kind : ServerCredentialKind) (key : Bytes) : Prop :=
  credentialReference server kind = some key ∨
    key ∈ managedServerCredentialKeys server.id kind

/-- A row whose credentials can be swept: the kinds do not share keys. -/
structure Sweepable (server : ServerRecord) : Prop where
  id : validId .server server.id = true
  keys : ∀ kind, ∀ key ∈ credentialReference server kind, CredentialStore.validateKey key = .ok ()
  apart : ∀ kind kind' key, credentialReference server kind = some key →
    Touches server kind' key → kind = kind'

section References

variable {store store' : CredentialStore} {server server' : ServerRecord}
  {kind kind' : ServerCredentialKind} {key : Bytes}

theorem settledReference_eq_some :
    settledReference store server kind = some key ↔
      credentialReference server kind = some key ∧ (store.lookup key).isSome = true :=
  Option.filter_eq_some_iff

theorem setReference_self :
    setReference kind (credentialReference server kind) server = server := by
  cases kind <;> rfl

theorem Sweepable.of_sub (h : Sweepable server) (hid : server'.id = server.id)
    (hsub : ∀ kind key, credentialReference server' kind = some key →
      credentialReference server kind = some key) : Sweepable server' where
  id := hid ▸ h.id
  keys kind key hkey := h.keys kind key (hsub kind key hkey)
  apart kind kind' key hkey ht := by
    apply h.apart kind kind' key (hsub kind key hkey)
    rcases ht with ho | hs
    · exact .inl (hsub kind' key ho)
    · exact .inr (hid ▸ hs)

theorem setReference_settled_sub {refr : Option Bytes}
    (h : ∀ key, refr = some key → credentialReference server kind = some key)
    (hkey : credentialReference (setReference kind refr server) kind' = some key) :
    credentialReference server kind' = some key := by
  rw [credentialReference_setReference] at hkey
  split at hkey
  · next heq => exact heq ▸ h key hkey
  · exact hkey

theorem Sweepable.setReference_settled (h : Sweepable server) (store : CredentialStore)
    (kind : ServerCredentialKind) :
    Sweepable (setReference kind (settledReference store server kind) server) :=
  h.of_sub (id_setReference _ _ _) fun _ _ hkey =>
    setReference_settled_sub (fun _ hkey => (settledReference_eq_some.1 hkey).1) hkey

theorem Sweepable.setReference_none (h : Sweepable server) (kind : ServerCredentialKind) :
    Sweepable (setReference kind none server) :=
  h.of_sub (id_setReference _ _ _) fun _ _ hkey =>
    setReference_settled_sub (fun _ hkey => absurd hkey (Option.some_ne_none _).symm) hkey

theorem touches_setReference {refr : Option Bytes} (hne : kind' ≠ kind) :
    Touches (setReference kind refr server) kind' key ↔ Touches server kind' key := by
  unfold Touches
  rw [credentialReference_setReference, if_neg hne, id_setReference]

theorem settledReference_congr
    (href : credentialReference server' kind = credentialReference server kind)
    (hl : ∀ key, credentialReference server kind = some key →
      store'.lookup key = store.lookup key) :
    settledReference store' server' kind = settledReference store server kind := by
  apply Option.ext
  intro key
  rw [settledReference_eq_some, settledReference_eq_some, href]
  exact and_congr_right fun hkey => by rw [hl key hkey]

end References

section Execute

variable (state : Durable) {server : ServerRecord}

theorem execute_sweepKinds_cons (h : Sweepable server) (chg : Bool)
    (kind : ServerCredentialKind) (kinds : List ServerCredentialKind) :
    ∃ state', execute (sweepKinds server chg (kind :: kinds)) state =
        execute (sweepKinds (setReference kind (settledReference state.store server kind) server)
          (chg || decide (settledReference state.store server kind ≠
            credentialReference server kind)) kinds) state' ∧
      Cleaned (fun key => Touches server kind key ∧
        settledReference state.store server kind ≠ some key) state state' := by
  have hcl := fun retained =>
    execute_cleanupServerCredentialKind state kind retained h.id (h.keys kind)
  rw [sweepKinds]
  cases href : credentialReference server kind with
  | none =>
    have hs : settledReference state.store server kind = none := by
      simp [settledReference, href]
    obtain ⟨state', hrun, hc⟩ := hcl none
    rw [href] at hrun
    refine ⟨state', ?_, hc.congr fun key => ?_⟩
    · rw [execute_bind_of_eq hrun, hs, ← href, setReference_self]
      simp
    · simp [Touches, hs]
  | some refr =>
    have hval := h.keys kind refr href
    rw [execute_call]
    cases hl : state.store.lookup refr with
    | none =>
      have hs : settledReference state.store server kind = none := by
        simp [settledReference, href, hl]
      have hget : answer (.get refr) state = failure .notFound "credential was not found" := by
        simp only [answer, CredentialStore.get, hval, hl]
      obtain ⟨state', hrun, hc⟩ := hcl none
      rw [href] at hrun
      refine ⟨state', ?_, hc.congr fun key => ?_⟩
      · rw [hget, hs]
        simp only [failure]
        rw [if_neg (by simp)]
        rw [show after (.get refr) state = state from rfl, execute_bind_of_eq hrun]
        simp
      · simp [Touches, hs]
    | some sec =>
      have hs : settledReference state.store server kind = some refr := by
        simp [settledReference, href, hl]
      have hget : answer (.get refr) state = .ok sec :=
        CredentialStore.get_eq_ok.2 ⟨hval, hl⟩
      obtain ⟨state', hrun, hc⟩ := hcl (some refr)
      rw [href] at hrun
      refine ⟨state', ?_, hc.congr fun key => ?_⟩
      · rw [hget, hs]
        rw [show after (.get refr) state = state from rfl, execute_bind_of_eq hrun,
          ← href, setReference_self]
        simp
      · rw [hs]
        rfl

variable {kinds : List ServerCredentialKind}

/-- The sweep clears exactly the references that did not resolve when it began: what a
round removes is no concern of the other kinds. -/
theorem execute_sweepKinds (hk : kinds.Nodup) (h : Sweepable server) (chg : Bool) :
    ∃ changed' state', execute (sweepKinds server chg kinds) state =
        (.ok (sweptRow state.store server kinds, changed'), state') ∧
      (changed' = true ↔ chg = true ∨ ∃ kind ∈ kinds,
        settledReference state.store server kind ≠ credentialReference server kind) ∧
      Cleaned (fun key => ∃ kind ∈ kinds, Touches server kind key ∧
        settledReference state.store server kind ≠ some key) state state' := by
  induction kinds generalizing server chg state with
  | nil =>
    refine ⟨chg, state, rfl, by simp, Cleaned.refl state (by simp)⟩
  | cons kind kinds ih =>
    obtain ⟨hki, hk⟩ := List.nodup_cons.1 hk
    obtain ⟨mid, hr, hc⟩ := execute_sweepKinds_cons state h chg kind kinds
    obtain ⟨changed', state', hrun, hchg, hc'⟩ :=
      ih mid hk (h.setReference_settled state.store kind) (chg ||
        decide (settledReference state.store server kind ≠ credentialReference server kind))
    have hne : ∀ other ∈ kinds, other ≠ kind := fun other ho heq => hki (heq ▸ ho)
    have href : ∀ other ∈ kinds, credentialReference
        (setReference kind (settledReference state.store server kind) server) other =
        credentialReference server other := fun other ho => by
      rw [credentialReference_setReference, if_neg (hne other ho)]
    have hs : ∀ other ∈ kinds, settledReference mid.store
        (setReference kind (settledReference state.store server kind) server) other =
        settledReference state.store server other := by
      intro other ho
      apply settledReference_congr (href other ho)
      intro key hkey
      apply hc.kept
      rintro ⟨ht, -⟩
      exact hne other ho (h.apart other kind key hkey ht)
    refine ⟨changed', state', ?_, ?_, (hc.trans hc').congr fun key => ?_⟩
    · rw [hr, hrun]
      have hrow : sweptRow mid.store
          (setReference kind (settledReference state.store server kind) server) kinds =
          sweptRow state.store server (kind :: kinds) :=
        List.foldl_ext _ _ _ fun row other ho => by rw [hs other ho]
      rw [hrow]
    · rw [hchg, Bool.or_eq_true, decide_eq_true_eq, List.exists_mem_cons_iff, or_assoc]
      refine or_congr_right (or_congr_right (exists_congr fun other => ?_))
      exact and_congr_right fun ho => by rw [hs other ho, href other ho]
    · rw [List.exists_mem_cons_iff]
      refine or_congr_right (exists_congr fun other => and_congr_right fun ho => ?_)
      rw [hs other ho, touches_setReference (hne other ho)]

theorem execute_dropKinds (hk : kinds.Nodup) (h : Sweepable server) :
    ∃ state', execute (dropKinds server kinds) state =
        (.ok (kinds.foldl (fun row kind => setReference kind none row) server), state') ∧
      Cleaned (fun key => ∃ kind ∈ kinds, Touches server kind key) state state' := by
  induction kinds generalizing server state with
  | nil => exact ⟨state, rfl, Cleaned.refl state (by simp)⟩
  | cons kind kinds ih =>
    obtain ⟨hki, hk⟩ := List.nodup_cons.1 hk
    obtain ⟨mid, hr, hc⟩ :=
      execute_cleanupServerCredentialKind state kind none h.id (h.keys kind)
    obtain ⟨state', hrun, hc'⟩ := ih mid hk (h.setReference_none kind)
    refine ⟨state', ?_, (hc.trans hc').congr fun key => ?_⟩
    · rw [dropKinds, execute_bind_of_eq hr]
      exact hrun
    · rw [List.exists_mem_cons_iff]
      refine or_congr ⟨fun hkey => hkey.1, fun hkey => ⟨hkey, by simp⟩⟩ ?_
      refine exists_congr fun other => and_congr_right fun ho => ?_
      exact touches_setReference fun heq => hki (heq ▸ ho)

end Execute

/-! ## What recovery makes of a row -/

section Rows

variable {store : CredentialStore} {server : ServerRecord} {now : Int}

theorem credentialReference_sweptRow (kind : ServerCredentialKind) :
    credentialReference (sweptRow store server credentialKinds) kind =
      settledReference store server kind := by
  cases kind <;> rfl

theorem sweptRow_eq_self {kinds : List ServerCredentialKind}
    (h : ∀ kind ∈ kinds, settledReference store server kind = credentialReference server kind) :
    sweptRow store server kinds = server := by
  induction kinds with
  | nil => rfl
  | cons kind kinds ih =>
    have hself := h kind List.mem_cons_self
    have hr := ih fun other ho => h other (List.mem_cons_of_mem kind ho)
    rw [sweptRow, List.foldl_cons, hself, setReference_self]
    exact hr

theorem sweptRow_ne_iff :
    sweptRow store server credentialKinds ≠ server ↔
      ∃ kind ∈ credentialKinds,
        settledReference store server kind ≠ credentialReference server kind := by
  constructor
  · intro h
    by_contra hall
    push Not at hall
    exact h (sweptRow_eq_self hall)
  · rintro ⟨kind, -, hne⟩ heq
    rw [← credentialReference_sweptRow, heq] at hne
    exact hne rfl

theorem isUnpaired_pairedRow : isUnpaired (pairedRow server) = false := by
  unfold pairedRow
  split
  · rfl
  · next h => simpa using h

theorem credentialReference_pairedRow_sub {kind : ServerCredentialKind} {key : Bytes}
    (h : credentialReference (pairedRow server) kind = some key) :
    credentialReference server kind = some key := by
  unfold pairedRow at h
  split at h
  · cases kind <;> simp_all
  · exact h

theorem credentialReference_settledRow (now : Int) (kind : ServerCredentialKind) :
    credentialReference (settledRow store now server) kind =
      credentialReference (pairedRow (sweptRow store server credentialKinds)) kind := by
  unfold settledRow
  split
  · next h => rw [h]
  · cases kind <;> rfl

theorem settledRow_reference_cases (store : CredentialStore) (now : Int) (server : ServerRecord)
    (kind : ServerCredentialKind) :
    credentialReference (settledRow store now server) kind = none ∨
      credentialReference (settledRow store now server) kind = credentialReference server kind := by
  cases h : credentialReference (settledRow store now server) kind with
  | none => exact .inl rfl
  | some key =>
    rw [credentialReference_settledRow] at h
    have hs := credentialReference_pairedRow_sub h
    rw [credentialReference_sweptRow] at hs
    exact .inr (settledReference_eq_some.1 hs).1.symm

theorem settledRow_resolves {kind : ServerCredentialKind} {key : Bytes}
    (h : credentialReference (settledRow store now server) kind = some key) :
    (store.lookup key).isSome = true := by
  rw [credentialReference_settledRow] at h
  have hs := credentialReference_pairedRow_sub h
  rw [credentialReference_sweptRow] at hs
  exact (settledReference_eq_some.1 hs).2

theorem pairedRow_sweptRow_eq (store : CredentialStore) (server : ServerRecord) :
    pairedRow (sweptRow store server credentialKinds) = withReferences server
      fun kind => credentialReference (pairedRow (sweptRow store server credentialKinds)) kind := by
  unfold pairedRow
  split <;> rfl

theorem validateOptionalText_of_sub {refr original : Option Bytes} {minimum maximum : Nat}
    {field : String} (h : validateOptionalText original minimum maximum field = .ok ())
    (hsub : refr = none ∨ refr = original) :
    validateOptionalText refr minimum maximum field = .ok () := by
  rcases hsub with rfl | rfl
  · rfl
  · exact h

theorem valid_strippedRow (store : CredentialStore) (now : Int)
    (hval : validateServerRecord server = .ok ())
    (hrev : server.configRevision < maxConfigRevision) :
    validateServerRecord
      (strippedRow now (pairedRow (sweptRow store server credentialKinds))) = .ok () := by
  have hsub : ∀ kind, credentialReference (pairedRow (sweptRow store server credentialKinds)) kind =
      none ∨ credentialReference (pairedRow (sweptRow store server credentialKinds)) kind =
      credentialReference server kind := fun kind =>
    credentialReference_settledRow now kind ▸ settledRow_reference_cases store now server kind
  have hp : isUnpaired (pairedRow (sweptRow store server credentialKinds)) = false :=
    isUnpaired_pairedRow
  simp only [isUnpaired, decide_eq_false_iff_not, not_not] at hp
  obtain ⟨hcfg, hm⟩ := validateServerRecord_eq_ok.1 hval
  rw [pairedRow_sweptRow_eq]
  refine validateServerRecord_eq_ok.2 ⟨⟨hcfg.id, hcfg.name,
    validateOptionalText_of_sub hcfg.credentialRef (hsub .psk), hcfg.remoteServerId,
    hcfg.tlsServerName,
    validateOptionalText_of_sub hcfg.caCredentialRef (hsub .caCertificate),
    validateOptionalText_of_sub hcfg.clientCertificateRef (hsub .clientCertificate),
    validateOptionalText_of_sub hcfg.clientPrivateKeyRef (hsub .clientPrivateKey),
    hp, ?_, rfl, hcfg.created⟩, hm.reconnectAttempt, hm.latencyMs, ?_⟩
  · simp only [strippedRow, withReferences]
    omega
  · exact hm.updated.trans (Int.le_max_left _ _)

end Rows

/-! ## What recovery does with one server -/

def settledRow? (store : CredentialStore) (now : Int) (server : ServerRecord) :
    Option ServerRecord :=
  if server.desiredState = .removed then none else some (settledRow store now server)

/-- The keys that recovery empties for a server. -/
def Released (store : CredentialStore) (now : Int) (server : ServerRecord) (key : Bytes) : Prop :=
  ∃ kind, Touches server kind key ∧
    ∀ row ∈ settledRow? store now server, credentialReference row kind ≠ some key

/-- The state after recovery has dealt with one server. -/
structure Validated (now : Int) (server : ServerRecord) (state state' : Durable) : Prop where
  servers : ∀ row, row ∈ state'.db.servers.rows ↔ row ∈ settledRow? state.store now server ∨
    row ∈ state.db.servers.rows ∧ row.id ≠ server.id
  tunnels : ∀ row, row ∈ state'.db.tunnels.rows ↔ row ∈ state.db.tunnels.rows ∧
    ¬ (server.desiredState = .removed ∧ row.serverId = server.id)
  intended : state'.intended = state.intended
  emptied : ∀ key, Released state.store now server key → state'.store.lookup key = none
  kept : ∀ key, ¬ Released state.store now server key →
    state'.store.lookup key = state.store.lookup key
  settled : settledRow? state.store now server = some server → state'.db = state.db

section Server

variable {net : AddressFamilies} {state : Durable} {server : ServerRecord} {now : Int}

theorem execute_transaction {body : Database → Result Database} {db : Database}
    (h : body state.db = .ok db) :
    execute (transaction body) state = (.ok (), { state with db }) := by
  unfold transaction
  rw [execute_call]
  simp only [answer, h]
  rfl

theorem endpoint_length (h : server ∈ state.db.servers.rows) :
    1 ≤ server.endpoint.text.length ∧ server.endpoint.text.length ≤ 260 := by
  have ht := (state.db.servers.checked server h).texts
  simp only [ServerRecord.validTexts, Bool.and_eq_true, decide_eq_true_eq] at ht
  exact ht.1.1.1.1.1.1.2

variable {store : CredentialStore}

theorem execute_writeSwept (hmem : server ∈ state.db.servers.rows) (hr : server.Readable net)
    (hrev : pairedRow (sweptRow store server credentialKinds) ≠ server →
      server.configRevision < maxConfigRevision) {chg : Bool}
    (hchg : chg = true ↔ pairedRow (sweptRow store server credentialKinds) ≠ server) :
    ∃ db, execute (writeSwept net now (pairedRow (sweptRow store server credentialKinds)) chg)
        state = (.ok (), { state with db }) ∧
      (∀ row, row ∈ db.servers.rows ↔ row = settledRow store now server ∨
        row ∈ state.db.servers.rows ∧ row.id ≠ server.id) ∧ db.tunnels = state.db.tunnels ∧
      (settledRow store now server = server → db = state.db) := by
  unfold writeSwept settledRow
  by_cases hself : pairedRow (sweptRow store server credentialKinds) = server
  · have hf : chg = false := by
      rw [← Bool.not_eq_true, hchg]
      exact not_not.2 hself
    rw [if_pos hself, hf]
    refine ⟨state.db, rfl, fun row => ⟨fun hrow => ?_, ?_⟩, rfl, fun _ => rfl⟩
    · by_cases hid : row.id = server.id
      · exact .inl (List.inj_on_of_nodup_map state.db.servers.keys hrow hmem hid)
      · exact .inr ⟨hrow, hid⟩
    · rintro (rfl | ⟨hrow, -⟩)
      · exact hmem
      · exact hrow
  · have hrev := hrev hself
    rw [if_neg hself, if_pos (hchg.2 hself)]
    have hval := valid_strippedRow store now hr.valid hrev
    generalize hrow : (fun kind => credentialReference
      (pairedRow (sweptRow store server credentialKinds)) kind) = references
    have heq := pairedRow_sweptRow_eq store server
    rw [hrow] at heq
    rw [heq] at hval ⊢
    have hid : server.id = (strippedRow now (withReferences server references)).id := rfl
    have hend := endpoint_length hmem
    have hc := ServerRecord.checked_of_valid hval hend
    have hn : ∀ other ∈ state.db.servers.rows, other.id ≠ server.id →
        other.nameKey ≠ server.nameKey := fun other ho hne hs =>
      hne (congrArg _ (List.inj_on_of_nodup_map state.db.servers.uniques ho hmem hs))
    obtain ⟨db, hup⟩ := (exists_updateServer_iff hmem hid).2 ⟨hval, hr, rfl,
      Int.le_max_left _ _, Nat.le_succ _, hc, hn⟩
    obtain ⟨-, -, hrs, htns⟩ := updateServer_eq_ok.1 hup
    refine ⟨db, ?_, fun row => ?_, htns, fun hs => ?_⟩
    · have hrm : ¬ maxConfigRevision ≤ (withReferences server references).configRevision :=
        Nat.not_le.2 hrev
      rw [if_neg hrm]
      exact execute_transaction hup
    · rw [hrs]
      exact Table.mem_map_replaceBy hmem hid
    · have hrev' : server.configRevision + 1 = server.configRevision :=
        congrArg ServerRecord.configRevision hs
      omega

/-- A row whose pair is broken by the sweep is not written back as it was. -/
theorem pairedRow_ne_of_isUnpaired (h : isUnpaired (sweptRow store server credentialKinds) = true) :
    pairedRow (sweptRow store server credentialKinds) ≠ server := by
  intro heq
  have hno : ∀ kind, credentialReference server kind = none →
      credentialReference (sweptRow store server credentialKinds) kind = none := fun kind hk => by
    rw [credentialReference_sweptRow, settledReference, hk]
    rfl
  unfold pairedRow at heq
  rw [if_pos h] at heq
  have hc := hno .clientCertificate (by rw [← heq]; rfl)
  have hkey := hno .clientPrivateKey (by rw [← heq]; rfl)
  simp only [credentialReference] at hc hkey
  simp [isUnpaired, hc, hkey] at h

/-- What is emptied for a server that is not removed, and keeps its pair. -/
theorem released_of_paired {key : Bytes} (now : Int) (hl : server.desiredState ≠ .removed)
    (h : ¬ isUnpaired (sweptRow store server credentialKinds) = true) :
    Released store now server key ↔ ∃ kind ∈ credentialKinds, Touches server kind key ∧
      settledReference store server kind ≠ some key := by
  unfold Released settledRow?
  rw [if_neg hl]
  simp only [Option.mem_some_iff, forall_eq', mem_credentialKinds, true_and,
    credentialReference_settledRow, pairedRow, if_neg h, credentialReference_sweptRow]

/-- What is emptied for a server that is not removed, and loses its pair. -/
theorem released_of_unpaired {key : Bytes} (now : Int) (hl : server.desiredState ≠ .removed)
    (h : isUnpaired (sweptRow store server credentialKinds) = true) :
    Released store now server key ↔
      (∃ kind ∈ credentialKinds, Touches server kind key ∧
        settledReference store server kind ≠ some key) ∨
      ∃ kind ∈ [ServerCredentialKind.clientCertificate, .clientPrivateKey],
        Touches (sweptRow store server credentialKinds) kind key := by
  unfold Released settledRow?
  rw [if_neg hl]
  simp only [Option.mem_some_iff, forall_eq', mem_credentialKinds, true_and,
    credentialReference_settledRow, pairedRow, if_pos h, credentialReference_setReference,
    credentialReference_sweptRow]
  have ht : ∀ kind, Touches (sweptRow store server credentialKinds) kind key ↔
      settledReference store server kind = some key ∨
        key ∈ managedServerCredentialKeys server.id kind := fun kind => by
    unfold Touches
    rw [credentialReference_sweptRow]
    rfl
  have hs : ∀ kind, settledReference store server kind = some key →
      Touches server kind key := fun kind hkey => .inl (settledReference_eq_some.1 hkey).1
  simp only [List.mem_cons, List.not_mem_nil, or_false, exists_eq_or_imp, exists_eq_left]
  constructor
  · rintro ⟨kind, hk, hne⟩
    by_cases hkey : settledReference store server kind = some key
    · cases kind <;> simp_all
    · exact .inl ⟨kind, hk, hkey⟩
  · rintro (⟨kind, hk, hkey⟩ | (hkey | hkey) | hkey | hkey)
    · refine ⟨kind, hk, ?_⟩
      split
      · simp
      · split
        · simp
        · exact hkey
    · exact ⟨.clientCertificate, hs _ hkey, by simp⟩
    · exact ⟨.clientCertificate, .inr hkey, by simp⟩
    · exact ⟨.clientPrivateKey, hs _ hkey, by simp⟩
    · exact ⟨.clientPrivateKey, .inr hkey, by simp⟩

theorem execute_validateRecoveredServer_live (hl : server.desiredState ≠ .removed)
    (h : Sweepable server) (hmem : server ∈ state.db.servers.rows)
    (hrd : server.Readable net)
    (hrev : pairedRow (sweptRow state.store server credentialKinds) ≠ server →
      server.configRevision < maxConfigRevision) :
    ∃ state', execute (validateRecoveredServer net now server) state = (.ok (), state') ∧
      Validated now server state state' := by
  have hk : credentialKinds.Nodup := by decide
  obtain ⟨chg, swept, hsw, hchg, hc⟩ := execute_sweepKinds state hk h false
  -- whatever was emptied on the way, the row is written back in the end
  have hw : ∀ (mid : Durable) (flag : Bool), mid.db = state.db →
      (flag = true ↔ pairedRow (sweptRow state.store server credentialKinds) ≠ server) →
      Cleaned (Released state.store now server) state mid →
      ∃ state', execute (writeSwept net now
          (pairedRow (sweptRow state.store server credentialKinds)) flag) mid =
          (.ok (), state') ∧ Validated now server state state' := by
    intro mid flag hdb hflag hr
    rw [← hdb] at hmem
    obtain ⟨db, hrun, hrs, htns, hsa⟩ := execute_writeSwept hmem hrd hrev hflag
    refine ⟨_, hrun, ?_, ?_, hr.intended, hr.removed, hr.kept, ?_⟩
    · intro row
      rw [hrs row, hdb, settledRow?, if_neg hl, Option.mem_some_iff]
      exact or_congr_left eq_comm
    · intro row
      rw [htns, hdb]
      simp [hl]
    · intro hs
      rw [settledRow?, if_neg hl, Option.some.injEq] at hs
      exact (hsa hs).trans hdb
  unfold validateRecoveredServer
  rw [if_neg hl, execute_bind_of_eq hsw]
  simp only
  by_cases hu : isUnpaired (sweptRow state.store server credentialKinds) = true
  · have hse : Sweepable (sweptRow state.store server credentialKinds) :=
      h.of_sub rfl fun kind key hkey => by
        rw [credentialReference_sweptRow] at hkey
        exact (settledReference_eq_some.1 hkey).1
    have hpair : [ServerCredentialKind.clientCertificate, .clientPrivateKey].Nodup := by decide
    obtain ⟨dropped, hdrop, hc'⟩ := execute_dropKinds swept hpair hse
    have hboth := (hc.trans hc').congr fun key =>
      (released_of_unpaired now hl hu).symm
    have hrow : [ServerCredentialKind.clientCertificate, .clientPrivateKey].foldl
        (fun row kind => setReference kind none row) (sweptRow state.store server credentialKinds) =
        pairedRow (sweptRow state.store server credentialKinds) := (if_pos hu).symm
    rw [if_pos hu, execute_bind_of_eq hdrop, hrow]
    exact hw dropped true hboth.db (iff_of_true rfl (pairedRow_ne_of_isUnpaired hu)) hboth
  · have hr := hc.congr fun key =>
      (released_of_paired now hl hu).symm
    have hrow : pairedRow (sweptRow state.store server credentialKinds) =
        sweptRow state.store server credentialKinds := if_neg hu
    rw [if_neg hu, ← hrow]
    refine hw swept chg hc.db ?_ hr
    rw [hchg, hrow, sweptRow_ne_iff]
    simp

theorem execute_validateRecoveredServer_removed (hr : server.desiredState = .removed)
    (h : Sweepable server) (hmem : server ∈ state.db.servers.rows)
    (hrd : server.Readable net) (hact : server.actualState = .disabled)
    (hch : ∀ row ∈ state.db.tunnels.rows, row.serverId = server.id →
      row.isTombstone = true) :
    ∃ state', execute (validateRecoveredServer net now server) state = (.ok (), state') ∧
      Validated now server state state' := by
  obtain ⟨mid, hcl, hc⟩ := execute_cleanupAllServerCredentials state h.id h.keys
  have hrl := hc.congr fun key => show _ ↔ Released state.store now server key by
    unfold Released settledRow?
    rw [if_pos hr]
    simp [Touches]
  have hid : Id.parseKind server.id .server = .ok ⟨.server, server.id, validId_iff.1 h.id⟩ :=
    Id.parseKind_ok_iff.2 ⟨rfl, rfl⟩
  rw [← hc.db] at hmem hch
  obtain ⟨db, he⟩ : ∃ db, eraseServer net ⟨.server, server.id, validId_iff.1 h.id⟩ mid.db =
      .ok db := exists_eraseServer rfl hmem rfl hrd hr hact hch
  obtain ⟨-, -, -, hsv, htns⟩ := eraseServer_eq_ok.1 he
  unfold validateRecoveredServer
  rw [if_pos hr, execute_bind_of_eq hcl]
  simp only [hid]
  rw [execute_bind_of_eq (execute_transaction he)]
  refine ⟨_, rfl, ?_, ?_, hrl.intended, hrl.removed, hrl.kept, ?_⟩
  · intro row
    rw [hsv, Table.mem_delete, hc.db, settledRow?, if_pos hr]
    simp
  · intro row
    rw [htns, Table.mem_delete, hc.db]
    simp [hr]
  · intro hs
    rw [settledRow?, if_pos hr] at hs
    cases hs

end Server

end MiniTun.Daemon
