import MiniTun.Server.PolicyStore

/-!
# The management handler

The requests of the management interface that change policies: create or change
a client's policy, delete it, rotate its key.  Each handler edits a copy of the
document, writes a key file if it needs one, and hands the document to the
server, which validates, writes and installs it.

What a handler prepares before it touches the disk is a `Prepared`; `commit`
performs the writes in their order and `commit_cases` says how it can end.  An
exception that escapes a handler reaches the caller as a failure.
-/

namespace MiniTun.Server

open KeyedMap LexicalPath

def maximumPskBytes : Nat := 64 * 1024
def maximumGraceSeconds : Int := 86400
def minimumGraceSeconds : Int := 1

/-- What the management server answers when the handler throws. -/
def handlerFailed {α : Type*} : Result α :=
  failure .internalError "management handler failed"

/-- `value.at(key)`, which throws if there is no such member. -/
def atField (value : Json) (key : Bytes) : Result Json :=
  match value.field? key with
  | none => handlerFailed
  | some member => .ok member

def pskFileFor (clientId suffix : Bytes) : Bytes :=
  clientId ++ suffix

def generatePsk (env : Environment) : Result Bytes :=
  match env.random with
  | none => failure .internalError "secure random PSK generation failed"
  | some bytes => .ok (hexEncode bytes.1)

def loadDocument (libs : Libraries) (store : PolicyStore) : Result Json := do
  let text ← store.document
  match libs.json.parse text with
  | none => failure .invalidArgument "policy document is not valid JSON"
  | some document => pure document

/-! ## Answers -/

/-- `entry.value("connections_per_minute", 0U)`. -/
def connectionRateOf (entry : Json) : Result Json :=
  match entry.field? (ascii "connections_per_minute") with
  | none => .ok (.number 0)
  | some (.number rate) => .ok (.number (rate % 2 ^ 32))
  | some _ => handlerFailed

/-- The optional members `client_summary` copies. -/
def summaryOptions : List Bytes :=
  [ascii "certificate_sha256", ascii "certificate_san", ascii "allowed_source_cidrs",
    ascii "previous_psk_expires_at"]

def copyField (source : Json) (target : Json) (key : Bytes) : Json :=
  match source.field? key with
  | none => target
  | some value => target.setField key value

def clientSummary (entry : Json) : Result Json := do
  let clientId ← atField entry (ascii "client_id")
  let enabled ← atField entry (ascii "enabled")
  let pskFile ← atField entry (ascii "psk_file")
  let allowedPorts ← atField entry (ascii "allowed_ports")
  let maxTunnels ← atField entry (ascii "max_tunnels")
  let maxConnections ← atField entry (ascii "max_connections")
  let maxIdleWorkers ← atField entry (ascii "max_idle_workers")
  let rate ← connectionRateOf entry
  pure (summaryOptions.foldl (copyField entry)
    (.ofFields [(ascii "client_id", clientId), (ascii "enabled", enabled),
      (ascii "psk_file", pskFile), (ascii "allowed_ports", allowedPorts),
      (ascii "max_tunnels", maxTunnels), (ascii "max_connections", maxConnections),
      (ascii "max_idle_workers", maxIdleWorkers), (ascii "connections_per_minute", rate),
      (ascii "rotation_active", .boolean (entry.contains (ascii "previous_psk_file")))]))

structure ManagementResponse where
  status : Nat
  reason : String
  contentType : String
  body : Bytes
deriving DecidableEq

def responseJson (json : JsonLibrary) (body : Json) : Result ManagementResponse :=
  match json.dump none body with
  | none => failure .internalError "management response cannot be serialized"
  | some text => .ok ⟨200, "OK", "application/json", text⟩

/-! ## Request bodies -/

def parseRequestBody (json : JsonLibrary) (body : Bytes) : Result Json :=
  if body = [] then failure .invalidArgument "request body is required"
  else if maximumPskBytes * 4 < body.length then
    failure .resourceExhausted "request body exceeds the management limit"
  else match json.parse body with
    | none => failure .invalidArgument "request body is not strict JSON"
    | some parsed =>
      if parsed.isObject then .ok parsed
      else failure .invalidArgument "request body must be a JSON object"

def upsertFields : List Bytes :=
  [ascii "client_id", ascii "enabled", ascii "psk", ascii "allowed_ports", ascii "max_tunnels",
    ascii "max_connections", ascii "max_idle_workers", ascii "certificate_sha256",
    ascii "certificate_san", ascii "allowed_source_cidrs", ascii "connections_per_minute"]

section Bodies

variable (body : Json)

variable (key : String)

/-- A member, if it is there, passes a check. -/
def checkMember (valid : Json → Bool) (message : String) : Result Unit :=
  match body.field? (ascii key) with
  | none => .ok ()
  | some value => if valid value then .ok () else failure .invalidArgument message

def validPskMember (value : Json) : Bool :=
  value.text?.any fun psk =>
    psk ≠ [] ∧ psk.length ≤ maximumPskBytes ∧ (0 : UInt8) ∉ psk

def checkTextArray : Result Unit := do
  checkMember body key (fun value => (value.items?.getD []) ≠ [])
    (key ++ " must be a non-empty array")
  checkMember body key (fun value => (value.items?.getD []).all fun item => item.text?.isSome)
    (key ++ " entries must be strings")

def checkUnsigned : Result Unit :=
  checkMember body key (fun value => value.unsigned?.isSome)
    (key ++ " must be an unsigned integer")

def checkText : Result Unit :=
  checkMember body key (fun value => value.text?.isSome) (key ++ " must be a string")

def validateUpsertBody (pathId : Bytes) : Result Unit := do
  if body.keys.all fun key => key ∈ upsertFields then pure ()
  else failure .invalidArgument "client policy body contains an unknown field"
  checkMember body "client_id" (fun value => value.text? = some pathId)
    "client_id must match the request path"
  checkMember body "enabled" (fun value => value.boolean?.isSome) "enabled must be a boolean"
  checkMember body "psk" validPskMember "psk must be a bounded string"
  ["allowed_ports", "allowed_source_cidrs"].forM (checkTextArray body)
  ["max_tunnels", "max_connections", "max_idle_workers", "connections_per_minute"].forM
    (checkUnsigned body)
  if body.contains (ascii "certificate_sha256") ∧ body.contains (ascii "certificate_san") then
    failure .invalidArgument "certificate_sha256 and certificate_san are mutually exclusive"
  ["certificate_sha256", "certificate_san"].forM (checkText body)

/-! ## Editing the document -/

variable (document : Json) (clientId : Bytes)

def isClient (entry : Json) : Bool :=
  (entry.field? (ascii "client_id")).bind Json.text? = some clientId

/-- The entries of the document, if `clients` is an array. -/
def clientEntries : List Json :=
  ((document.field? (ascii "clients")).bind Json.items?).getD []

def findClient : Option Json :=
  (clientEntries document).find? (isClient clientId)

/-- Apply a function to the first element that passes a test. -/
def mapFirst {α : Type*} (test : α → Bool) (f : α → α) : List α → List α
  | [] => []
  | a :: rest => if test a then f a :: rest else a :: mapFirst test f rest

def setClients (entries : List Json) : Json :=
  document.setField (ascii "clients") (.array entries)

/-- `entry.value("enabled", true)`. -/
def enabledOf (entry : Json) : Result Bool :=
  match entry.field? (ascii "enabled") with
  | none => .ok true
  | some value =>
    match value.boolean? with
    | none => handlerFailed
    | some enabled => .ok enabled

/-- The members a request may set and that are taken over as they are. -/
def copiedFields : List Bytes :=
  [ascii "allowed_ports", ascii "max_tunnels", ascii "max_connections",
    ascii "max_idle_workers", ascii "connections_per_minute", ascii "allowed_source_cidrs"]

def certificateFields : List Bytes :=
  [ascii "certificate_sha256", ascii "certificate_san"]

def upsertEntry (existing : Option Json) : Result Json := do
  let hasPsk := body.contains (ascii "psk")
  let kept := match existing with
    | none => Json.null
    | some entry =>
      if hasPsk then
        (entry.eraseField (ascii "previous_psk_file")).eraseField
          (ascii "previous_psk_expires_at")
      else entry
  let named := kept.setField (ascii "client_id") (.string clientId)
  let keyed :=
    if hasPsk ∨ existing.isNone then
      named.setField (ascii "psk_file") (.string (pskFileFor clientId (ascii ".psk")))
    else named
  let fallback ← if existing.isNone then pure true else enabledOf keyed
  let enabled := ((body.field? (ascii "enabled")).bind Json.boolean?).getD fallback
  let switched := keyed.setField (ascii "enabled") (.boolean enabled)
  let copied := copiedFields.foldl (copyField body) switched
  if certificateFields.any fun key => body.contains key then
    pure (certificateFields.foldl (copyField body)
      (certificateFields.foldl Json.eraseField copied))
  else pure copied

end Bodies

/-- The document with the entry of `upsert_client` in its place. -/
def placeEntry (document : Json) (clientId : Bytes) (existing : Option Json) (entry : Json) :
    Result Json :=
  match existing with
  | some _ => .ok (setClients document
      (mapFirst (isClient clientId) (fun _ => entry) (clientEntries document)))
  | none =>
    -- `emplace_back` throws on a value that is neither an array nor null
    match document.field? (ascii "clients") with
    | some (.array entries) => .ok (setClients document (entries ++ [entry]))
    | some .null => .ok (setClients document [entry])
    | _ => handlerFailed

/-! ## The handlers -/

/-- What a handler has ready when it starts to write: the key file, the document,
and the body of its answer. -/
structure Prepared where
  keyFile : Option (Bytes × Bytes)
  document : Result Json
  reply : Result Json

structure PolicyManagementOptions where
  rotationGraceSeconds : Int
  minimum : minimumGraceSeconds ≤ rotationGraceSeconds
  maximum : rotationGraceSeconds ≤ maximumGraceSeconds

/-- A request that changes policies. -/
inductive ManagementRequest where
  | upsertClient (clientId body : Bytes)
  | deleteClient (clientId : Bytes)
  | rotatePsk (clientId body : Bytes)

/-- The secret `upsert_client` writes, and whether it was generated. -/
def upsertSecret (env : Environment) (body : Json) (create : Bool) :
    Result (Option (Bytes × Bool)) :=
  match (body.field? (ascii "psk")).bind Json.text? with
  | some psk => .ok (some (psk, false))
  | none =>
    if create then do
      let generated ← generatePsk env
      pure (some (generated, true))
    else .ok none

def requiredOnCreate : List String :=
  ["allowed_ports", "max_tunnels", "max_connections", "max_idle_workers"]

def checkRequired (body : Json) (key : String) : Result Unit :=
  if body.contains (ascii key) then .ok ()
  else failure .invalidArgument (key ++ " is required when creating a client policy")

section Requests

variable (libs : Libraries)

variable (env : Environment)

variable (store : PolicyStore)

def prepareUpsert (clientId bodyText : Bytes) : Result Prepared := do
  let body ← parseRequestBody libs.json bodyText
  validateUpsertBody body clientId
  let document ← loadDocument libs store
  let clients ← atField document (ascii "clients")
  if 100000 ≤ clients.size then
    failure .resourceExhausted "client policy limit reached"
  let existing := findClient document clientId
  if existing.isNone then requiredOnCreate.forM (checkRequired body)
  let secret ← upsertSecret env body existing.isNone
  let entry := upsertEntry body clientId existing
  pure {
    keyFile := secret.map fun s => (pskFileFor clientId (ascii ".psk"), s.1)
    document := entry >>= placeEntry document clientId existing
    reply := do
      let summary ← entry >>= clientSummary
      let result := Json.ofFields [(ascii "client", summary)]
      pure (match secret with
        | some (generated, true) => result.setField (ascii "psk") (.string generated)
        | _ => result) }

def prepareDelete (clientId : Bytes) : Result Prepared := do
  let document ← loadDocument libs store
  let _ ← atField document (ascii "clients")
  if (findClient document clientId).isNone then
    failure .notFound "client policy not found"
  pure {
    keyFile := none
    document := .ok (setClients document ((clientEntries document).eraseP (isClient clientId)))
    reply := .ok (Json.ofFields [(ascii "removed", .string clientId)]) }

/-- The grace period a rotation request asks for. -/
def requestedGrace (json : JsonLibrary) (options : PolicyManagementOptions)
    (bodyText : Bytes) : Result Int :=
  if bodyText = [] then .ok options.rotationGraceSeconds
  else do
    let body ← parseRequestBody json bodyText
    if body.size ≠ 1 ∨ body.contains (ascii "grace_seconds") = false then
      failure .invalidArgument "rotation body accepts only grace_seconds"
    match (body.field? (ascii "grace_seconds")).bind Json.unsigned? with
    | none => failure .invalidArgument "grace_seconds is invalid"
    | some seconds =>
      if 2 ^ 63 ≤ seconds then failure .invalidArgument "grace_seconds is invalid"
      else pure seconds

/-- The file `rotate_psk` writes the new key to. -/
def rotationTarget (clientId currentFile : Bytes) : Bytes :=
  if currentFile = pskFileFor clientId (ascii ".psk") then
    pskFileFor clientId (ascii ".psk.previous")
  else pskFileFor clientId (ascii ".psk")

def rotatedEntry (entry : Json) (clientId currentFile : Bytes) (expiresAt : Int) : Json :=
  ((entry.setField (ascii "previous_psk_file") (.string currentFile)).setField
    (ascii "previous_psk_expires_at") (.number expiresAt)).setField
      (ascii "psk_file") (.string (rotationTarget clientId currentFile))

def rotationReply (generated : Bytes) (expiresAt : Int) : Json :=
  .ofFields [(ascii "psk", .string generated),
    (ascii "previous_psk_expires_at", .number expiresAt)]

variable (options : PolicyManagementOptions)

def prepareRotate (store : PolicyStore) (clientId bodyText : Bytes) : Result Prepared := do
  let grace ← requestedGrace libs.json options bodyText
  if grace < minimumGraceSeconds ∨ maximumGraceSeconds < grace then
    failure .invalidArgument "grace_seconds must be between 1 and 86400"
  let document ← loadDocument libs store
  match findClient document clientId with
  | none => failure .notFound "client policy not found"
  | some entry =>
    match (entry.field? (ascii "psk_file")).bind Json.text? with
    | none | some [] => failure .invalidArgument "client policy has no PSK file"
    | some currentFile =>
      let generated ← generatePsk env
      let expiresAt := env.unixSecondsNow + grace
      pure {
        keyFile := some (rotationTarget clientId currentFile, generated)
        document := .ok (setClients document (mapFirst (isClient clientId)
          (fun _ => rotatedEntry entry clientId currentFile expiresAt)
          (clientEntries document)))
        reply := .ok (rotationReply generated expiresAt) }

def prepare (store : PolicyStore) :
    ManagementRequest → Result Prepared
  | .upsertClient clientId body =>
    if validId .client clientId then prepareUpsert libs env store clientId body
    else failure .invalidArgument "client_id is invalid"
  | .deleteClient clientId =>
    if validId .client clientId then prepareDelete libs store clientId
    else failure .invalidArgument "client_id is invalid"
  | .rotatePsk clientId body =>
    if validId .client clientId then prepareRotate libs env options store clientId body
    else failure .invalidArgument "client_id is invalid"

def writeKeyFile :
    Option (Bytes × Bytes) → Result FileSystem
  | none => .ok store.fs
  | some (filename, secret) =>
    writeSecretFileAtomic store.fs (configDirectory store.configPath) filename secret env.pskWrite

variable (prepared : Prepared)

/-- The part of a handler that writes: the key file, then `persist_document`,
then the answer. -/
def commit : Result ManagementResponse × PolicyStore :=
  match writeKeyFile env store prepared.keyFile with
  | .error e => (.error e, store)
  | .ok fs =>
    let keyed := { store with fs := fs }
    match prepared.document with
    | .error e => (.error e, keyed)
    | .ok document =>
      match libs.json.dump (some 2) document with
      | none => (failure .invalidArgument "policy document cannot be serialized", keyed)
      | some text =>
        match keyed.applyPolicyUpdate libs env (some text) with
        | (.error e, store') => (.error e, store')
        | (.ok _, store') => (prepared.reply >>= responseJson libs.json, store')

def handle (store : PolicyStore) (request : ManagementRequest) :
    Result ManagementResponse × PolicyStore :=
  match prepare libs env options store request with
  | .error e => (.error e, store)
  | .ok prepared => commit libs env store prepared

/-! ## How a handler can end -/

/-- The document a handler prepared passes every check and is written. -/
structure Prepared.Accepted (prepared : Prepared) (libs : Libraries) (env : Environment)
    (keyed : PolicyStore) (text : Bytes) (snapshot : PolicySnapshot) (written : FileSystem) :
    Prop where
  document : ∃ document, prepared.document = .ok document ∧
    libs.json.dump (some 2) document = some text
  accepts : keyed.Accepts libs env text snapshot written

theorem Prepared.Accepted.unique {prepared : Prepared} {libs : Libraries} {env : Environment}
    {keyed : PolicyStore} {text text' : Bytes} {snap snap' : PolicySnapshot}
    {written written' : FileSystem}
    (h : prepared.Accepted libs env keyed text snap written)
    (h' : prepared.Accepted libs env keyed text' snap' written') :
    text' = text ∧ snap' = snap ∧ written' = written := by
  obtain ⟨doc, hdoc, ht⟩ := h.document
  obtain ⟨document', hdoc', ht'⟩ := h'.document
  rw [hdoc] at hdoc'
  cases hdoc'
  rw [ht] at ht'
  cases ht'
  have hs := h'.accepts.valid
  rw [h.accepts.valid] at hs
  cases hs
  have hw := h'.accepts.write
  rw [h.accepts.write] at hw
  cases hw
  exact ⟨rfl, rfl, rfl⟩

/-- The server is running, and the answer can be formed. -/
def Prepared.Answered (libs : Libraries) (env : Environment) : Prop :=
  env.running = true ∧ ∃ body, prepared.reply = .ok body ∧ (libs.json.dump none body).isSome

theorem reply_isOk_iff {libs : Libraries} {reply : Result Json} :
    (reply >>= responseJson libs.json).isOk = true ↔
      ∃ body, reply = .ok body ∧ (libs.json.dump none body).isSome = true := by
  cases reply with
  | error e => simp [bind, Except.bind, Except.toBool]
  | ok body =>
    simp only [bind, Except.bind, responseJson]
    cases hdump : libs.json.dump none body with
    | none => simp [failure, Except.toBool, hdump]
    | some text => simp [Except.toBool, hdump]

/-- **The ends of a handler**: the key file is not written and nothing has
changed; the key file is written and the document is refused; the document is
installed, and the answer tells so or fails. -/
theorem commit_cases :
    (∃ e, writeKeyFile env store prepared.keyFile = .error e ∧
      commit libs env store prepared = (.error e, store)) ∨
    ∃ fs, writeKeyFile env store prepared.keyFile = .ok fs ∧
      (((¬∃ text snapshot written,
          prepared.Accepted libs env { store with fs := fs } text snapshot written) ∧
        ∃ e, commit libs env store prepared = (.error e, { store with fs := fs })) ∨
      ∃ text snapshot written,
        prepared.Accepted libs env { store with fs := fs } text snapshot written ∧
        ∃ result, commit libs env store prepared =
            (result, PolicyStore.installed { store with fs := fs } text snapshot written) ∧
          (result.isOk = true ↔ prepared.Answered libs env) ∧
          (result.isOk = true → result = prepared.reply >>= responseJson libs.json)) := by
  unfold commit
  cases hkey : writeKeyFile env store prepared.keyFile with
  | error e => exact .inl ⟨e, rfl, rfl⟩
  | ok fs =>
    refine .inr ⟨fs, rfl, ?_⟩
    cases hdoc : prepared.document with
    | error e =>
      refine .inl ⟨?_, e, rfl⟩
      rintro ⟨text, snapshot, written, ⟨doc, hd, _⟩, _⟩
      rw [hd] at hdoc
      cases hdoc
    | ok doc =>
      simp only
      cases hdump : libs.json.dump (some 2) doc with
      | none =>
        refine .inl ⟨?_, _, rfl⟩
        rintro ⟨text, snapshot, written, ⟨document', hd, ht⟩, _⟩
        rw [hd] at hdoc
        cases hdoc
        rw [ht] at hdump
        cases hdump
      | some text =>
        simp only
        rcases PolicyStore.replacePolicies_cases libs env { store with fs := fs } text with
          ⟨⟨e, he⟩, hno⟩ | ⟨snapshot, written, ha, result, hres, hrun⟩
        · rw [he]
          refine .inl ⟨?_, e, rfl⟩
          rintro ⟨text', snapshot, written, ⟨document', hd, ht⟩, ha⟩
          rw [hd] at hdoc
          cases hdoc
          rw [ht] at hdump
          cases hdump
          exact hno ⟨snapshot, written, ha⟩
        · rw [hres]
          refine .inr ⟨text, snapshot, written, ⟨⟨doc, hdoc, hdump⟩, ha⟩, ?_⟩
          cases result with
          | error e =>
            have hs : ¬env.running = true := fun h => by
              simpa [Except.toBool] using hrun.2 h
            simp [Prepared.Answered, hs, Except.toBool]
          | ok chg =>
            refine ⟨_, rfl, ?_, fun _ => rfl⟩
            rw [reply_isOk_iff, Prepared.Answered, and_iff_right (hrun.1 rfl)]

end Requests

/-! ## A store for concrete runs -/

namespace Sample

def calm : Environment where
  tlsContext := .ok ()
  clientCaConfigured := false
  running := true
  pskWrite := none
  documentWrite := none
  random := some ⟨List.replicate 32 0, rfl⟩
  unixSecondsNow := 1700000000

def options : PolicyManagementOptions := ⟨600, by decide, by decide⟩

/-- The sample document, with the given name for the key file. -/
def documentText (file : Bytes) : Bytes := (document [entry file 4 8]).write (some 2) 0

def store (file : Bytes) : PolicyStore where
  fs := disk.put [ascii "etc", ascii "minitun", ascii "clients.json"]
    (createdFile 0o600 (documentText file))
  configPath := configPath
  limits := limits
  snapshot := PolicySnapshot.empty.emplace policy
  documentText := documentText file

end Sample

end MiniTun.Server
