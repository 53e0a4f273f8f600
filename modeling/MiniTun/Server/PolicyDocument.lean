import MiniTun.Common.Id
import MiniTun.Common.Json
import MiniTun.Server.ClientPolicy
import MiniTun.Server.FileSystem

/-!
# The policy document

From the text of the policy file to a snapshot: `parse_policy_json` with its
limits, `build_snapshot` with every check in the order of the source, and
`load_snapshot`.  The key files a document names are read while it is built.

`loadFields_ok` says where the keys of an accepted entry come from, and
`buildSnapshot_ok` that a snapshot is the policies of the entries, each client
once.
-/

namespace MiniTun.Server

open KeyedMap LexicalPath

/-! ## The limits of the parser -/

def maxJsonDepth : Nat := 8
def maxJsonNodes : Nat := 20000
def maxJsonStringBytes : Nat := 4096

inductive ParseFailure where
  | duplicateKey
  | depth
  | nodes
  | string
deriving DecidableEq

/-- `ParseContext`: an open object or array, with the keys seen in an object. -/
structure ParseContext where
  object : Bool
  keys : List Bytes

structure ParseLimits where
  failure : Option ParseFailure
  nodes : Nat
  contexts : List ParseContext

namespace ParseLimits

def initial : ParseLimits := ⟨none, 0, []⟩

section Limits

variable (limits : ParseLimits)

def fail (reason : ParseFailure) : ParseLimits :=
  { limits with failure := some reason }

/-- Count one more node, and go on if there are not too many. -/
def countNode (next : ParseLimits → ParseLimits) : ParseLimits :=
  let counted := { limits with nodes := limits.nodes + 1 }
  if maxJsonNodes < counted.nodes then counted.fail .nodes else next counted

def openContext (object : Bool) : ParseLimits :=
  if maxJsonDepth ≤ limits.contexts.length then limits.fail .depth
  else limits.countNode fun counted =>
    { counted with contexts := ⟨object, []⟩ :: counted.contexts }

def acceptKey (key : Bytes) : ParseLimits :=
  if maxJsonStringBytes < key.length then limits.fail .string
  else match limits.contexts with
    | [] => limits.fail .duplicateKey
    | context :: rest =>
      if context.object = false ∨ key ∈ context.keys then limits.fail .duplicateKey
      else { limits with contexts := { context with keys := key :: context.keys } :: rest }

/-- `ParseLimits::accept`; after a failure nothing is looked at any more. -/
def accept (event : ParseEvent) : ParseLimits :=
  if limits.failure.isSome then limits
  else match event with
    | .objectStart => limits.openContext true
    | .arrayStart => limits.openContext false
    | .objectEnd | .arrayEnd => { limits with contexts := limits.contexts.drop 1 }
    | .key text => limits.countNode fun counted => counted.acceptKey text
    | .value text => limits.countNode fun counted =>
      if text.any fun t => maxJsonStringBytes < t.length then counted.fail .string else counted

end Limits

end ParseLimits

def parsePolicyJson (json : JsonLibrary) (bytes : Bytes) : Result Json :=
  if [0xef, 0xbb, 0xbf].isPrefixOf bytes then
    failure .invalidArgument "client policy JSON must not contain a UTF-8 BOM"
  else match json.parse bytes with
    | none => failure .invalidArgument "client policy file is not strict JSON"
    | some document =>
      match ((json.events bytes).foldl ParseLimits.accept .initial).failure with
      | some .duplicateKey =>
        failure .invalidArgument "client policy JSON contains a duplicate key"
      | some .depth | some .nodes | some .string =>
        failure .resourceExhausted "client policy JSON exceeds a parsing limit"
      | none => .ok document

/-! ## The fields of an entry -/

variable (net : AddressText) (value : Json)

def hasExactFields (allowed : List Bytes) : Bool :=
  value.isObject ∧ value.keys.all fun key => key ∈ allowed

def parseLimit (maximum : Nat) (name : String) : Result Nat :=
  match value.unsigned? with
  | none => failure .invalidArgument (name ++ " must be an unsigned integer")
  | some number =>
    if number = 0 ∨ maximum < number then
      failure .invalidArgument (name ++ " is outside the server limit")
    else .ok number

def parseCidrPrefix (text : Bytes) : Option Nat :=
  if text = [] ∨ 3 < text.length ∨ text.all isDigit = false then none
  else some (decimalValue text)

/-- The prefixes of a subject alternative name a policy may bind. -/
def sanPrefixes : List Bytes :=
  [ascii "DNS:", ascii "URI:", ascii "EMAIL:", ascii "IP:"]

def parseCertificateBinding (client : Json) : Result CertificateBinding :=
  match client.field? (ascii "certificate_sha256"), client.field? (ascii "certificate_san") with
  | some _, some _ => failure .invalidArgument
      "a client policy may bind either a certificate fingerprint or SAN, not both"
  | some value, none =>
    match value.text? with
    | none => failure .invalidArgument
        "certificate_sha256 must be a lowercase hexadecimal string"
    | some fingerprint =>
      if fingerprint.length = 64 ∧ fingerprint.all isLowerHex then .ok ⟨.sha256, fingerprint⟩
      else failure .invalidArgument
        "certificate_sha256 must contain 64 lowercase hexadecimal characters"
  | none, some value =>
    match value.text? with
    | none => failure .invalidArgument "certificate_san must be a string"
    | some san =>
      if san.length ≤ 1024 ∧
          (sanPrefixes.any fun p => p.isPrefixOf san ∧ p.length < san.length) ∧
          (0 : UInt8) ∉ san then .ok ⟨.san, san⟩
      else failure .invalidArgument
        "certificate_san must use a non-empty DNS:, URI:, EMAIL:, or IP: value"
  | none, none => .ok ⟨.none, []⟩

def parsePortEntry : Result PortRange :=
  match value.text? with
  | none => failure .invalidArgument "allowed_ports entries must be strings"
  | some text =>
    match PortRange.parse text with
    | .error _ => failure .invalidArgument "client policy contains an invalid allowed port range"
    | .ok range => .ok range

/-- Whether each range ends before the next one starts. -/
def disjointRanges : List PortRange → Bool
  | first :: second :: rest => first.stop < second.start ∧ disjointRanges (second :: rest)
  | _ => true

/-- `allowed_ports`: sorted by their start, without overlap. -/
def parseAllowedPorts (items : List Json) : Result (List PortRange) :=
  if items = [] ∨ 256 < items.length then
    failure .invalidArgument "allowed_ports must contain between 1 and 256 ranges"
  else do
    let ranges ← items.mapM parsePortEntry
    let sorted := ranges.insertionSort fun left right => left.start ≤ right.start
    if disjointRanges sorted then pure sorted
    else failure .invalidArgument "client policy allowed port ranges overlap or repeat"

def parseCidr : Result SourceCidr :=
  match value.text? with
  | none => failure .invalidArgument "allowed_source_cidrs entries must be strings"
  | some text =>
    let network := text.takeWhile (· ≠ 47)
    let rest := text.drop (network.length + 1)
    if network = [] ∨ rest = [] then
      failure .invalidArgument "allowed_source_cidrs entries must use CIDR notation"
    else match net.make network, parseCidrPrefix rest with
      | some address, some prefixLength =>
        if prefixLength ≤ address.maximumPrefix then .ok ⟨address, prefixLength⟩
        else failure .invalidArgument "allowed_source_cidrs contains an invalid network or prefix"
      | _, _ =>
        failure .invalidArgument "allowed_source_cidrs contains an invalid network or prefix"

/-- `allowed_source_cidrs`; a document without it admits every source. -/
def parseSourceCidrs (entry : Json) : Result (List SourceCidr) :=
  match entry.field? (ascii "allowed_source_cidrs") with
  | none => .ok []
  | some value =>
    match value.items? with
    | none => failure .invalidArgument
        "allowed_source_cidrs must be an array of 1..64 CIDR strings"
    | some items =>
      if items = [] ∨ 64 < items.length then
        failure .invalidArgument "allowed_source_cidrs must be an array of 1..64 CIDR strings"
      else items.mapM (parseCidr net)

def parseConnectionRate (entry : Json) : Result Nat :=
  match entry.field? (ascii "connections_per_minute") with
  | none => .ok 0
  | some value =>
    match value.unsigned? with
    | none => failure .invalidArgument
        "connections_per_minute must be an unsigned integer up to 1000000"
    | some rate =>
      if rate ≤ 1000000 then .ok rate
      else failure .invalidArgument
        "connections_per_minute must be an unsigned integer up to 1000000"

/-! ## Building a snapshot -/

structure ClientPolicyLimits where
  maxClients : Nat
  maxTunnelsPerClient : Nat
  maxConnectionsPerClient : Nat
  maxIdleWorkersPerClient : Nat

def ClientPolicyLimits.valid (limits : ClientPolicyLimits) : Bool :=
  (0 < limits.maxClients ∧ limits.maxClients ≤ 100000) ∧
    (0 < limits.maxTunnelsPerClient ∧ limits.maxTunnelsPerClient ≤ 4096) ∧
    (0 < limits.maxConnectionsPerClient ∧ limits.maxConnectionsPerClient ≤ 100000) ∧
    (0 < limits.maxIdleWorkersPerClient ∧ limits.maxIdleWorkersPerClient ≤ 4096)

/-- The libraries the policies are read with. -/
structure Libraries where
  json : JsonLibrary
  net : AddressText
  sha256 : Digest

def topFields : List Bytes :=
  [ascii "format_version", ascii "clients"]

def clientFields : List Bytes :=
  [ascii "client_id", ascii "enabled", ascii "psk_file", ascii "allowed_ports",
    ascii "max_tunnels", ascii "max_connections", ascii "max_idle_workers",
    ascii "certificate_sha256", ascii "certificate_san", ascii "allowed_source_cidrs",
    ascii "connections_per_minute", ascii "previous_psk_file",
    ascii "previous_psk_expires_at"]

/-- The members every entry must have, with the types that are checked first. -/
structure EntryHead where
  clientId : Bytes
  enabled : Bool
  pskFile : Bytes
  allowedPorts : List Json
  maxTunnels : Json
  maxConnections : Json
  maxIdleWorkers : Json

def readEntryHead (entry : Json) : Option EntryHead :=
  if hasExactFields entry clientFields then do
    let clientId ← (entry.field? (ascii "client_id")).bind Json.text?
    let enabled ← (entry.field? (ascii "enabled")).bind Json.boolean?
    let pskFile ← (entry.field? (ascii "psk_file")).bind Json.text?
    let allowedPorts ← (entry.field? (ascii "allowed_ports")).bind Json.items?
    let maxTunnels ← entry.field? (ascii "max_tunnels")
    let maxConnections ← entry.field? (ascii "max_connections")
    let maxIdleWorkers ← entry.field? (ascii "max_idle_workers")
    pure ⟨clientId, enabled, pskFile, allowedPorts, maxTunnels, maxConnections, maxIdleWorkers⟩
  else none

/-- `previous_psk_file` and `previous_psk_expires_at`. -/
def loadPreviousPsk (fs : FileSystem) (directory : Path Bytes) (entry : Json) :
    Result (Option PreviousPsk) :=
  match entry.field? (ascii "previous_psk_file"),
      entry.field? (ascii "previous_psk_expires_at") with
  | none, none => .ok none
  | some file, some expiry =>
    match file.text?, expiry.unsigned? with
    | some path, some validUntil =>
      if validUntil = 0 ∨ 2 ^ 63 ≤ validUntil then
        failure .invalidArgument "previous_psk_expires_at is outside the valid unix time range"
      else match loadPsk fs directory path with
        | .error e => .error e
        | .ok secret => .ok (some ⟨secret, validUntil⟩)
    | _, _ => failure .invalidArgument
        ("previous_psk_file must be a string and previous_psk_expires_at an " ++
          "unsigned unix timestamp")
  | _, _ => failure .invalidArgument
      "previous_psk_file and previous_psk_expires_at must be configured together"

/-- The effective fields an entry configures. -/
def loadFields (fs : FileSystem) (directory : Path Bytes) (limits : ClientPolicyLimits)
    (entry : Json) : Result PolicyFields :=
  match readEntryHead entry with
  | none => failure .invalidArgument
      "each client policy must contain exactly typed identity, PSK, ACL, and quotas"
  | some head =>
    if validId .client head.clientId = false then
      failure .invalidArgument "client policy contains an invalid client_id"
    else do
      let psk ← loadPsk fs directory head.pskFile
      let previousPsk ← loadPreviousPsk fs directory entry
      let allowedPorts ← parseAllowedPorts head.allowedPorts
      let maxTunnels ← parseLimit head.maxTunnels limits.maxTunnelsPerClient "max_tunnels"
      let maxConnections ←
        parseLimit head.maxConnections limits.maxConnectionsPerClient "max_connections"
      let maxIdleWorkers ←
        parseLimit head.maxIdleWorkers limits.maxIdleWorkersPerClient "max_idle_workers"
      let certificate ← parseCertificateBinding entry
      let allowedSourceCidrs ← parseSourceCidrs net entry
      let connectionsPerMinute ← parseConnectionRate entry
      pure {
        clientId := head.clientId
        enabled := head.enabled
        psk := psk
        previousPsk := previousPsk
        allowedPorts := allowedPorts
        maxTunnels := maxTunnels
        maxConnections := maxConnections
        maxIdleWorkers := maxIdleWorkers
        certificate := certificate
        allowedSourceCidrs := allowedSourceCidrs
        connectionsPerMinute := connectionsPerMinute }

def loadPolicy (libs : Libraries) (fs : FileSystem) (directory : Path Bytes)
    (limits : ClientPolicyLimits) (entry : Json) : Result ClientPolicy := do
  let fields ← loadFields libs.net fs directory limits entry
  let revision ← policyFingerprint libs.net libs.sha256 fields true
  let session ← policyFingerprint libs.net libs.sha256 fields false
  pure ⟨fields, revision, session⟩

/-- One round of the loop of `build_snapshot`. -/
def addPolicy (libs : Libraries) (fs : FileSystem) (directory : Path Bytes)
    (limits : ClientPolicyLimits) (snapshot : PolicySnapshot) (entry : Json) :
    Result PolicySnapshot := do
  let policy ← loadPolicy libs fs directory limits entry
  if (snapshot.find policy.clientId).isSome then
    failure .alreadyExists "client policy contains a duplicate client_id"
  else pure (snapshot.emplace policy)

/-- The entries of a document of the expected form. -/
def documentClients (document : Json) : Option (List Json) :=
  if hasExactFields document topFields ∧ document.size = topFields.length ∧
      (document.field? (ascii "format_version")).bind Json.unsigned? = some 1 then
    (document.field? (ascii "clients")).bind Json.items?
  else none

def buildSnapshot (libs : Libraries) (fs : FileSystem) (document : Json)
    (directory : Path Bytes) (limits : ClientPolicyLimits) : Result PolicySnapshot :=
  if limits.valid = false then
    failure .invalidArgument "client policy server limits are invalid"
  else match documentClients document with
    | none => failure .invalidArgument
        "client policy requires only format_version 1 and a clients array"
    | some clients =>
      if clients = [] ∨ limits.maxClients < clients.length then
        failure .invalidArgument "client policy client count is outside the limit"
      else clients.foldlM (addPolicy libs fs directory limits) .empty

def loadSnapshot (libs : Libraries) (fs : FileSystem) (configPath : Bytes)
    (limits : ClientPolicyLimits) : Result PolicySnapshot := do
  let bytes ← readSecureFile fs configPath .policy
  let document ← parsePolicyJson libs.json bytes
  buildSnapshot libs fs document (configDirectory configPath) limits

/-! ## What an accepted entry says -/

def entryKeyFiles (entry : Json) : List Bytes :=
  ((entry.field? (ascii "psk_file")).bind Json.text?).toList ++
    ((entry.field? (ascii "previous_psk_file")).bind Json.text?).toList

def documentKeyFiles (document : Json) : List Bytes :=
  ((documentClients document).getD []).flatMap entryKeyFiles

section Accepted

variable {entry ent : Json} {directory dir : Path Bytes} {fs fs' : FileSystem}
  {limits : ClientPolicyLimits} {libs : Libraries} {entries ents : List Json}
  {snapshot : PolicySnapshot}

theorem readEntryHead_eq_some {head : EntryHead} (h : readEntryHead ent = some head) :
    (ent.field? (ascii "client_id")).bind Json.text? = some head.clientId ∧
      (ent.field? (ascii "psk_file")).bind Json.text? = some head.pskFile := by
  unfold readEntryHead at h
  split at h
  · simp only [Option.bind_eq_bind, Option.bind_eq_some_iff] at h
    obtain ⟨cid, hid, enabled, _, pskFile, hpsk, ports, _, tunnels, _, connections, _,
      workers, _, hh⟩ := h
    cases hh
    exact ⟨Option.bind_eq_some_iff.2 hid, Option.bind_eq_some_iff.2 hpsk⟩
  · cases h

/-- The fields of an accepted entry that come from its identity and its key files. -/
structure FieldsOf (fs : FileSystem) (directory : Path Bytes) (entry : Json)
    (fields : PolicyFields) : Prop where
  clientId : (entry.field? (ascii "client_id")).bind Json.text? = some fields.clientId
  isId : IsId .client fields.clientId
  psk : ∃ path, (entry.field? (ascii "psk_file")).bind Json.text? = some path ∧
    loadPsk fs directory path = .ok fields.psk
  previousPsk : loadPreviousPsk fs directory entry = .ok fields.previousPsk

theorem loadFields_ok {net : AddressText} {flds : PolicyFields}
    (h : loadFields net fs dir limits ent = .ok flds) :
    FieldsOf fs dir ent flds := by
  unfold loadFields at h
  split at h
  · exact absurd h failure_ne_ok
  · next head hh =>
    obtain ⟨hid, hpsk⟩ := readEntryHead_eq_some hh
    split at h
    · exact absurd h failure_ne_ok
    · next hval =>
      simp only [bind, bind_eq_ok] at h
      obtain ⟨psk, hl, previousPsk, hpre, ports, _, tunnels, _, connections, _, workers, _,
        certificate, _, cidrs, _, rate, _, hfs⟩ := h
      cases hfs
      exact ⟨hid, validId_iff.1 (by simpa using hval), ⟨head.pskFile, hpsk, hl⟩, hpre⟩

theorem loadPolicy_ok {pol : ClientPolicy}
    (h : loadPolicy libs fs dir limits ent = .ok pol) :
    loadFields libs.net fs dir limits ent = .ok pol.toPolicyFields ∧
      Fingerprinted libs.net libs.sha256 pol := by
  simp only [loadPolicy, bind, bind_eq_ok] at h
  obtain ⟨flds, hfs, revision, hrev, session, hs, hpol⟩ := h
  cases hpol
  exact ⟨hfs, hrev, hs⟩

theorem loadFields_congr {net : AddressText}
    (h : ∀ path ∈ entryKeyFiles ent, loadPsk fs' dir path = loadPsk fs dir path) :
    loadFields net fs' dir limits ent = loadFields net fs dir limits ent := by
  have hpre : loadPreviousPsk fs' dir ent = loadPreviousPsk fs dir ent := by
    unfold loadPreviousPsk
    split
    · rfl
    · next file expiry hf hexp =>
      split
      · next path valid hp _ =>
        rw [h path (by simp [entryKeyFiles, hf, hp])]
      · rfl
    · rfl
  unfold loadFields
  split
  · rfl
  · next head hh =>
    rw [hpre, h head.pskFile (by simp [entryKeyFiles, (readEntryHead_eq_some hh).2])]

/-! ## What an accepted document says -/

/-- **The loop of `build_snapshot`**: it adds the policy of every entry, and no
client twice. -/
theorem foldlM_addPolicy_ok {start : PolicySnapshot}
    (h : ents.foldlM (addPolicy libs fs dir limits) start = .ok snapshot) :
    (∀ ent ∈ ents, ∃ pol, loadPolicy libs fs dir limits ent = .ok pol) ∧
      ∀ id pol, snapshot.find id = some pol ↔
        start.find id = some pol ∨
          ∃ ent ∈ ents, loadPolicy libs fs dir limits ent = .ok pol ∧
            pol.clientId = id := by
  induction ents generalizing start with
  | nil =>
    cases h
    simp
  | cons ent rest ih =>
    simp only [List.foldlM_cons, bind, bind_eq_ok] at h
    obtain ⟨next, hn, hr⟩ := h
    obtain ⟨hl, hf⟩ := ih hr
    simp only [addPolicy, bind, bind_eq_ok] at hn
    obtain ⟨pol, hpol, hn⟩ := hn
    split at hn
    · exact absurd hn failure_ne_ok
    · next hfr =>
      cases hn
      have hno : start.find pol.clientId = none := by simpa using hfr
      refine ⟨?_, fun id p => ?_⟩
      · intro e he
        rcases List.mem_cons.1 he with rfl | he
        · exact ⟨pol, hpol⟩
        · exact hl e he
      · rw [hf, PolicySnapshot.find_emplace]
        constructor
        · rintro (h | ⟨e, he, hp, hid⟩)
          · split at h
            · next hid =>
              cases h
              exact .inr ⟨ent, List.mem_cons_self, hpol, hid.symm⟩
            · exact .inl h
          · exact .inr ⟨e, List.mem_cons_of_mem _ he, hp, hid⟩
        · rintro (h | ⟨e, he, hp, hid⟩)
          · left
            rw [if_neg]
            · exact h
            · rintro rfl
              rw [hno] at h
              cases h
          · rcases List.mem_cons.1 he with rfl | he
            · rw [hpol] at hp
              cases hp
              exact .inl (if_pos hid.symm)
            · exact .inr ⟨e, he, hp, hid⟩

/-- A snapshot is the policies of the entries of its document. -/
structure SnapshotOf (libs : Libraries) (fs : FileSystem) (directory : Path Bytes)
    (limits : ClientPolicyLimits) (entries : List Json) (snapshot : PolicySnapshot) : Prop where
  loads : ∀ entry ∈ entries, ∃ policy, loadPolicy libs fs directory limits entry = .ok policy
  find_iff : ∀ id policy, snapshot.find id = some policy ↔
    ∃ entry ∈ entries, loadPolicy libs fs directory limits entry = .ok policy ∧
      policy.clientId = id

theorem buildSnapshot_ok {doc : Json}
    (h : buildSnapshot libs fs doc dir limits = .ok snapshot) :
    ∃ ents, documentClients doc = some ents ∧
      SnapshotOf libs fs dir limits ents snapshot := by
  unfold buildSnapshot at h
  split at h
  · exact absurd h failure_ne_ok
  · split at h
    · exact absurd h failure_ne_ok
    · next ents hent =>
      split at h
      · exact absurd h failure_ne_ok
      · obtain ⟨hl, hf⟩ := foldlM_addPolicy_ok h
        refine ⟨ents, hent, hl, fun id pol => ?_⟩
        rw [hf]
        simp [PolicySnapshot.find, PolicySnapshot.empty]

theorem buildSnapshot_congr {doc : Json} (h : ∀ path ∈ documentKeyFiles doc,
      loadPsk fs' dir path = loadPsk fs dir path) :
    buildSnapshot libs fs' doc dir limits =
      buildSnapshot libs fs doc dir limits := by
  unfold buildSnapshot
  split
  · rfl
  · split
    · rfl
    · next ents hent =>
      split
      · rfl
      · next hc =>
        have hen : ∀ ent ∈ ents, ∀ snapshot,
            addPolicy libs fs' dir limits snapshot ent =
              addPolicy libs fs dir limits snapshot ent := by
          intro ent hmem snapshot
          have hk : ∀ path ∈ entryKeyFiles ent,
              loadPsk fs' dir path = loadPsk fs dir path := by
            intro path hp
            apply h path
            simp only [documentKeyFiles, hent, List.mem_flatMap]
            exact ⟨ent, hmem, hp⟩
          simp only [addPolicy, loadPolicy, loadFields_congr hk]
        clear hent h hc
        generalize PolicySnapshot.empty = start
        induction ents generalizing start with
        | nil => rfl
        | cons ent ents ih =>
          rw [List.foldlM_cons, List.foldlM_cons, hen ent List.mem_cons_self]
          cases addPolicy libs fs dir limits start ent with
          | error e => rfl
          | ok next => exact ih (fun e he => hen e (List.mem_cons_of_mem _ he)) next

theorem loadPreviousPsk_ok {prev : Option PreviousPsk}
    (h : loadPreviousPsk fs dir ent = .ok prev) {path : Bytes}
    (hp : (ent.field? (ascii "previous_psk_file")).bind Json.text? = some path) :
    ∃ sec validUntil, prev = some ⟨sec, validUntil⟩ ∧
      (ent.field? (ascii "previous_psk_expires_at")).bind Json.unsigned? = some validUntil ∧
      loadPsk fs dir path = .ok sec := by
  unfold loadPreviousPsk at h
  split at h
  · next hf _ =>
    rw [hf] at hp
    cases hp
  · next file expiry hf hexp =>
    rw [hf, Option.bind_some] at hp
    split at h
    · next path' validUntil hp' hval =>
      rw [hp] at hp'
      cases hp'
      split at h
      · exact absurd h failure_ne_ok
      · split at h
        · cases h
        · next sec hsec =>
          cases h
          exact ⟨sec, validUntil, rfl, by rw [hexp, Option.bind_some, hval], hsec⟩
    · exact absurd h failure_ne_ok
  · exact absurd h failure_ne_ok

/-- Two snapshots of one document with the same policies were built from the
same keys. -/
theorem SnapshotOf.loadPsk_eq {snap' : PolicySnapshot}
    (h : SnapshotOf libs fs dir limits ents snapshot)
    (h' : SnapshotOf libs fs' dir limits ents snap')
    (hfi : snap'.find = snapshot.find) (hent : ent ∈ ents) {path : Bytes}
    (hpa : path ∈ entryKeyFiles ent) :
    loadPsk fs' dir path = loadPsk fs dir path := by
  obtain ⟨p, hp⟩ := h.loads ent hent
  obtain ⟨p', hp'⟩ := h'.loads ent hent
  have hfs := loadFields_ok (loadPolicy_ok hp).1
  have hfs' := loadFields_ok (loadPolicy_ok hp').1
  have hid : p'.clientId = p.clientId := by
    have := hfs'.clientId
    rw [hfs.clientId] at this
    exact (Option.some.inj this).symm
  have heq : p' = p := by
    have hin : snapshot.find p.clientId = some p := (h.find_iff _ _).2 ⟨ent, hent, hp, rfl⟩
    have hin' : snap'.find p.clientId = some p' :=
      (h'.find_iff _ _).2 ⟨ent, hent, hp', hid⟩
    rw [hfi, hin] at hin'
    exact (Option.some.inj hin').symm
  subst heq
  simp only [entryKeyFiles, List.mem_append, Option.mem_toList] at hpa
  rcases hpa with hpa | hpa
  · obtain ⟨file, hf, hl⟩ := hfs.psk
    obtain ⟨file', hf', hl'⟩ := hfs'.psk
    rw [hpa] at hf hf'
    cases hf
    cases hf'
    rw [hl, hl']
  · obtain ⟨sec, validUntil, hpre, _, hl⟩ :=
      loadPreviousPsk_ok hfs.previousPsk hpa
    obtain ⟨secret', validUntil', hpre', _, hl'⟩ :=
      loadPreviousPsk_ok hfs'.previousPsk hpa
    rw [hpre] at hpre'
    cases hpre'
    rw [hl, hl']

theorem SnapshotOf.fingerprinted (h : SnapshotOf libs fs dir limits ents snapshot) :
    snapshot.Fingerprinted libs.net libs.sha256 := by
  intro id pol hf
  obtain ⟨ent, -, hl, -⟩ := (h.find_iff id pol).1 hf
  exact (loadPolicy_ok hl).2

end Accepted

/-! ## A document for concrete runs -/

namespace Sample

def limits : ClientPolicyLimits := ⟨1000, 128, 10000, 32⟩

def entry (pskFile : Bytes) (maxTunnels maxConnections : Nat) : Json :=
  .object [(ascii "allowed_ports", .array [.string (ascii "6000-6010")]),
    (ascii "client_id", .string clientId), (ascii "enabled", .boolean true),
    (ascii "max_connections", .number maxConnections), (ascii "max_idle_workers", .number 2),
    (ascii "max_tunnels", .number maxTunnels), (ascii "psk_file", .string pskFile)]

def document (entries : List Json) : Json :=
  .object [(ascii "clients", .array entries), (ascii "format_version", .number 1)]

def configPath : Bytes := ascii "/etc/minitun/clients.json"

def directory : Path Bytes := configDirectory configPath

def pskFile : Bytes := clientId ++ ascii ".psk"

def disk : FileSystem where
  workingDirectory := []
  files := (∅ : Map Location FileNode).insert [ascii "etc", ascii "minitun", pskFile]
    (createdFile 0o600 (ascii "secret\n"))

def hexValue (b : UInt8) : UInt8 :=
  if isDigit b then b - 48 else b - 87

/-- The bytes a hexadecimal text stands for. -/
def unhex : Bytes → Bytes
  | high :: low :: rest => (hexValue high * 16 + hexValue low) :: unhex rest
  | _ => []

/-- 32 zero bytes in hexadecimal. -/
def zeroKey : Bytes := List.replicate 64 48

/-- The texts that are digested for the sample policies, and their SHA-256 digests. -/
def answers : List (Bytes × String) :=
  [(ascii "1482006000-6010",
      "05037270f52e9d96957c14703b3c80cb745751df93a854186cecf88fa2da0d62"),
    (ascii "1482006000-6010secret--",
      "15965c15235b5051a42bdf34565a150332f9a13c61fd977005530cdf9fef32ef"),
    (ascii "1482006000-6010changed--",
      "5bf868f56395280cbf14c55989bc13fc3b83a2fcb46655dcb0ee0a86efe4d821"),
    (ascii "1482006000-6010rotatedsecret1700000600",
      "8ffc4116e84b11bf09fbb9394ddfc825b8870bf7154c525a09db943dd28dc010"),
    (ascii "1482006000-6010" ++ zeroKey ++ ascii "secret1700000600",
      "cb76e74c83c168710d5dfd773f8d35f865c3a060b46a96e03a6f3284b0c80fc4"),
    (ascii "1482006000-6010" ++ zeroKey ++ zeroKey ++ ascii "1700000600",
      "85452cb542490aa5a77ee039d991c4937df5c7cdb95e56615f7d0867868c918e"),
    (ascii "0482006000-6010",
      "2bc8dc19204dab4a1f0ca87b364a2555b7169fdcab9ed396c0f8ddca15f6c639"),
    (ascii "0482006000-6010rotatedsecret1700000600",
      "72068ad18cd377fe83f4d8b51712c2592d7efeb14db5bc48dc3f9cc571041b1a"),
    (ascii "11232006000-6010",
      "dfef8d9481bbe52272892dfd9ca440afb8ebaa61fde89335303a18c66edb4680"),
    (ascii "11232006000-6010secret--",
      "d753bcc401d43e68d83d39e270d09314308fbce7399c300218a75c8ef6cba037")].map
    fun answer => (clientId ++ answer.1, answer.2)

def sha256 : Digest := fun input =>
  (answers.find? fun answer => answer.1 = input).map fun answer => unhex (ascii answer.2)

def libraries (json : JsonLibrary) : Libraries := ⟨json, Sample.net, sha256⟩

end Sample

end MiniTun.Server
