import MiniTun.Server.PolicyDocument

/-!
# The policy store

`ClientPolicyStore` with the disk below it, and the part of
`apply_policy_update` in front of it.  A replacement is validated in memory,
written over the document, and only then installed; the key files it names are
read while it is validated.

`replacePolicies_cases` lists everything a replacement can do.  The last case is
the one to notice: the server is found not to be running after the replacement
has been written and installed.
-/

namespace MiniTun.Server

open KeyedMap LexicalPath

/-- A `ClientPolicyStore` and its files. -/
structure PolicyStore where
  fs : FileSystem
  configPath : Bytes
  limits : ClientPolicyLimits
  snapshot : PolicySnapshot
  documentText : Bytes

/-- What the server and the operating system decide while a request runs. -/
structure Environment where
  tlsContext : Result Unit
  clientCaConfigured : Bool
  running : Bool
  pskWrite : Option WriteFault
  documentWrite : Option WriteFault
  /-- `RAND_bytes`. -/
  random : Option { bytes : Bytes // bytes.length = 32 }
  unixSecondsNow : Int

namespace PolicyStore

section Store

variable (libs : Libraries)

variable (env : Environment) (store : PolicyStore)

/-- What the next reload would load from disk. -/
def load : Result PolicySnapshot :=
  loadSnapshot libs store.fs store.configPath store.limits

def document (store : PolicyStore) : Result Bytes :=
  if store.documentText = [] then
    failure .invalidArgument "client policy document is unavailable"
  else .ok store.documentText

variable (text : Bytes) (snapshot : PolicySnapshot)

/-- The validator of `apply_policy_update`. -/
def validateSnapshot : Result Unit :=
  if snapshot.hasCertificateBindings = true ∧ env.clientCaConfigured = false then
    failure .invalidArgument "client-ca is required when a client policy binds a certificate"
  else .ok ()

/-- The checks of `ClientPolicyStore::replace`, up to the write. -/
def validateReplacement : Result PolicySnapshot :=
  if text = [] ∨ maxPolicyBytes < text.length then
    failure .invalidArgument "client policy document size is invalid"
  else do
    let parsed ← parsePolicyJson libs.json text
    let replacement ←
      buildSnapshot libs store.fs parsed (configDirectory store.configPath) store.limits
    validateSnapshot env replacement
    pure replacement

def replace : Result (List Bytes) × PolicyStore :=
  match store.validateReplacement libs env text with
  | .error e => (.error e, store)
  | .ok replacement =>
    match writeSecureFileAtomic store.fs store.configPath text env.documentWrite with
    | .error e => (.error e, store)
    | .ok written =>
      (.ok (computeChanged store.snapshot replacement),
        { store with fs := written, snapshot := replacement, documentText := text })

def reload : Result (List Bytes) × PolicyStore :=
  let loaded : Result (PolicySnapshot × Bytes) := do
    let replacement ← store.load libs
    validateSnapshot env replacement
    let bytes ← readSecureFile store.fs store.configPath .policy
    pure (replacement, bytes)
  match loaded with
  | .error e => (.error e, store)
  | .ok (replacement, bytes) =>
    (.ok (computeChanged store.snapshot replacement),
      { store with snapshot := replacement, documentText := bytes })

/-- `apply_policy_update`, up to the task it posts. -/
def applyPolicyUpdate (replacementDocument : Option Bytes) : Result (List Bytes) × PolicyStore :=
  match env.tlsContext with
  | .error e => (.error e, store)
  | .ok () =>
    let updated := match replacementDocument with
      | some text => store.replace libs env text
      | none => store.reload libs env
    match updated with
    | (.error e, store') => (.error e, store')
    | (.ok changed, store') =>
      if env.running = false then
        (failure .connectionFailed "TLS server is not running", store')
      else (.ok changed, store')

/-! ## What a replacement can do -/

/-- The replacement passes every check and its write succeeds. -/
structure Accepts (libs : Libraries) (env : Environment) (store : PolicyStore) (text : Bytes)
    (snapshot : PolicySnapshot) (written : FileSystem) : Prop where
  context : env.tlsContext = .ok ()
  valid : store.validateReplacement libs env text = .ok snapshot
  write : writeSecureFileAtomic store.fs store.configPath text env.documentWrite = .ok written

def installed (written : FileSystem) : PolicyStore :=
  { store with fs := written, snapshot := snapshot, documentText := text }

theorem replacePolicies_cases :
    ((∃ e, store.applyPolicyUpdate libs env (some text) = (.error e, store)) ∧
      ¬∃ snap written, store.Accepts libs env text snap written) ∨
    ∃ snap written, store.Accepts libs env text snap written ∧
      ∃ res, store.applyPolicyUpdate libs env (some text) =
        (res, store.installed text snap written) ∧
        (res.isOk = true ↔ env.running = true) := by
  unfold applyPolicyUpdate
  cases hcon : env.tlsContext with
  | error e =>
    refine .inl ⟨⟨e, rfl⟩, ?_⟩
    rintro ⟨snap, written, h⟩
    rw [h.context] at hcon
    cases hcon
  | ok _ =>
    simp only [replace]
    cases hval : store.validateReplacement libs env text with
    | error e =>
      refine .inl ⟨⟨e, rfl⟩, ?_⟩
      rintro ⟨snap, written, h⟩
      rw [h.valid] at hval
      cases hval
    | ok snap =>
      cases hw : writeSecureFileAtomic store.fs store.configPath text env.documentWrite with
      | error e =>
        refine .inl ⟨⟨e, rfl⟩, ?_⟩
        rintro ⟨snap, written, h⟩
        rw [h.write] at hw
        cases hw
      | ok written =>
        refine .inr ⟨snap, written, ⟨hcon, hval, hw⟩, ?_⟩
        cases hrun : env.running with
        | false => exact ⟨_, rfl, by simp [failure, Except.toBool]⟩
        | true => exact ⟨_, rfl, by simp [Except.toBool]⟩

end Store

theorem validateReplacement_ok {libs : Libraries} {env : Environment} {store : PolicyStore}
    {text : Bytes} {snap : PolicySnapshot}
    (h : store.validateReplacement libs env text = .ok snap) :
    ∃ parsed, parsePolicyJson libs.json text = .ok parsed ∧
      buildSnapshot libs store.fs parsed (configDirectory store.configPath) store.limits =
        .ok snap := by
  unfold validateReplacement at h
  split at h
  · exact absurd h failure_ne_ok
  · simp only [bind, bind_eq_ok] at h
    obtain ⟨parsed, hp, replacement, hb, _, _, hpure⟩ := h
    cases hpure
    exact ⟨parsed, hp, hb⟩

end PolicyStore

end MiniTun.Server
