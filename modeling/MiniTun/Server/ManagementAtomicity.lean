import MiniTun.Server.PolicyManagement

/-!
# Failed management requests

A request that fails should leave behind what it found: the policies a reload
would load from disk, and the policies in memory (`FailureAtomic`).

Two things stand in the way.  A handler writes the key file before the document
is validated, so a refused document leaves the new key in a file that the old
document may name.  And the server is found not to be running only after the
replacement has been written and installed.  `handle_atomic_iff` says that there
is nothing else.
-/

namespace MiniTun.Server

open KeyedMap LexicalPath

/-! ## Atomic requests -/

/-- The policies of a loaded snapshot; none if it does not load. -/
def policySet : Result PolicySnapshot → Option (Bytes → Option ClientPolicy)
  | .ok snapshot => some snapshot.find
  | .error _ => none

/-- The two stores have the same policies, on disk and in memory. -/
structure SamePolicies (libs : Libraries) (before after : PolicyStore) : Prop where
  disk : policySet (after.load libs) = policySet (before.load libs)
  memory : after.snapshot.find = before.snapshot.find

/-- A request that fails leaves the policies as they were. -/
def FailureAtomic (libs : Libraries) (before : PolicyStore)
    (outcome : Result ManagementResponse × PolicyStore) : Prop :=
  outcome.1.isOk = false → SamePolicies libs before outcome.2

/-! ## When they are -/

def PolicyStore.diskDocument (libs : Libraries) (store : PolicyStore) : Result Json := do
  let bytes ← readSecureFile store.fs store.configPath .policy
  parsePolicyJson libs.json bytes

/-- The key file that was written is not the policy document, and every path in
the document on disk that leads to it gives the same key as before.  (A key
written over the document itself has to be a document with the same policies.) -/
def KeyFileHarmless (libs : Libraries) (store : PolicyStore) (filename : Bytes)
    (fs : FileSystem) : Prop :=
  let directory := configDirectory store.configPath
  if store.fs.locate (pathOf store.configPath) = pskLocation store.fs directory filename then
    policySet (PolicyStore.load libs { store with fs := fs }) = policySet (store.load libs)
  else
    ∀ document, store.diskDocument libs = .ok document →
      ∀ path ∈ documentKeyFiles document,
        pskLocation store.fs directory path = pskLocation store.fs directory filename →
        loadPsk fs directory path = loadPsk store.fs directory path

/-- The key file a request writes, if any, is harmless. -/
def Prepared.KeyHarmless (prepared : Prepared) (libs : Libraries) (store : PolicyStore)
    (fs : FileSystem) : Prop :=
  ∀ filename secret, prepared.keyFile = some (filename, secret) →
    KeyFileHarmless libs store filename fs

/-- Where the key file is written: the document is accepted or the key is
harmless, and an accepted document is answered or changes nothing. -/
def Prepared.Safe (prepared : Prepared) (libs : Libraries) (env : Environment)
    (store : PolicyStore) : Prop :=
  ∀ fs, writeKeyFile env store prepared.keyFile = .ok fs →
    ((∃ text snapshot written,
        prepared.Accepted libs env { store with fs := fs } text snapshot written) ∨
      prepared.KeyHarmless libs store fs) ∧
    ∀ text snapshot written,
      prepared.Accepted libs env { store with fs := fs } text snapshot written →
      prepared.Answered libs env ∨
        SamePolicies libs store (.installed { store with fs := fs } text snapshot written)

/-! ## What a key file changes -/

section KeyFile

variable {libs : Libraries} {store : PolicyStore} {filename : Bytes} {node : FileNode}

theorem diskDocument_put {place : Location}
    (h : store.fs.locate (pathOf store.configPath) ≠ place) :
    PolicyStore.diskDocument libs { store with fs := store.fs.put place node } =
      store.diskDocument libs := by
  have hop : (store.fs.put place node).openNoFollow (pathOf store.configPath) =
      store.fs.openNoFollow (pathOf store.configPath) := by
    apply FileSystem.openNoFollow_frame
    · exact store.fs.workingDirectory_put place node
    · rw [FileSystem.lookup_put, if_neg h]
  simp only [PolicyStore.diskDocument, readSecureFile, hop]

theorem load_eq_diskDocument (libs : Libraries) (store : PolicyStore) :
    store.load libs = store.diskDocument libs >>= fun doc =>
      buildSnapshot libs store.fs doc (configDirectory store.configPath) store.limits := by
  unfold PolicyStore.load loadSnapshot PolicyStore.diskDocument
  cases readSecureFile store.fs store.configPath .policy <;> rfl

/-- **A key file is harmless** exactly if the document on disk loads the same
policies with it as without. -/
theorem keyFileHarmless_iff {snap : PolicySnapshot} (hl : store.load libs = .ok snap)
    {fs : FileSystem} (hfs : fs = store.fs.put
      (pskLocation store.fs (configDirectory store.configPath) filename) node) :
    KeyFileHarmless libs store filename fs ↔
      policySet (PolicyStore.load libs { store with fs := fs }) = policySet (store.load libs) := by
  unfold KeyFileHarmless
  simp only
  split
  · exact Iff.rfl
  · next hcon =>
    have hdoc : PolicyStore.diskDocument libs { store with fs := fs } =
        store.diskDocument libs := by
      rw [hfs]
      exact diskDocument_put hcon
    obtain ⟨doc, hd, hb⟩ : ∃ doc, store.diskDocument libs = .ok doc ∧
        buildSnapshot libs store.fs doc (configDirectory store.configPath) store.limits =
          .ok snap := by
      rw [load_eq_diskDocument] at hl
      exact bind_eq_ok.1 hl
    have hl' : PolicyStore.load libs { store with fs := fs } =
        buildSnapshot libs fs doc (configDirectory store.configPath) store.limits := by
      rw [load_eq_diskDocument, hdoc, hd]
      rfl
    constructor
    · intro hk
      have hall : ∀ path ∈ documentKeyFiles doc,
          loadPsk fs (configDirectory store.configPath) path =
            loadPsk store.fs (configDirectory store.configPath) path := by
        intro path hp
        by_cases hpl : pskLocation store.fs (configDirectory store.configPath) path =
            pskLocation store.fs (configDirectory store.configPath) filename
        · exact hk doc hd path hp hpl
        · apply loadPsk_frame (wellSpelled_configDirectory _)
          · rw [hfs, FileSystem.workingDirectory_put]
          · rw [hfs, FileSystem.lookup_put, if_neg hpl]
      rw [hl', hl, buildSnapshot_congr hall, hb]
    · intro hs document' hdoc' path hp _
      rw [hd] at hdoc'
      cases hdoc'
      rw [hl', hl] at hs
      cases hb' : buildSnapshot libs fs doc (configDirectory store.configPath) store.limits with
      | error e =>
        rw [hb'] at hs
        cases hs
      | ok snap' =>
        rw [hb'] at hs
        obtain ⟨ents, hent, hof⟩ := buildSnapshot_ok hb
        obtain ⟨entries', hent', hof'⟩ := buildSnapshot_ok hb'
        rw [hent] at hent'
        cases hent'
        simp only [documentKeyFiles, hent, List.mem_flatMap] at hp
        obtain ⟨ent, he, hp⟩ := hp
        exact hof.loadPsk_eq hof' (Option.some.inj hs) he hp

end KeyFile

/-! ## Requests -/

theorem Prepared.keyHarmless_iff {libs : Libraries} {env : Environment} {store : PolicyStore}
    {prepared : Prepared} {snap : PolicySnapshot} {fs : FileSystem}
    (hl : store.load libs = .ok snap)
    (hkey : writeKeyFile env store prepared.keyFile = .ok fs) :
    prepared.KeyHarmless libs store fs ↔
      SamePolicies libs store { store with fs := fs } := by
  have hs : SamePolicies libs store { store with fs := fs } ↔
      policySet (PolicyStore.load libs { store with fs := fs }) = policySet (store.load libs) :=
    ⟨fun h => h.disk, fun h => ⟨h, rfl⟩⟩
  rw [hs]
  unfold Prepared.KeyHarmless
  cases hf : prepared.keyFile with
  | none =>
    rw [hf] at hkey
    cases hkey
    simp
  | some file =>
    obtain ⟨filename, sec⟩ := file
    rw [hf] at hkey
    rw [← keyFileHarmless_iff hl (writeSecretFileAtomic_ok hkey)]
    constructor
    · intro h
      exact h filename sec rfl
    · rintro h _ _ ⟨⟩
      exact h

theorem commit_atomic_iff {libs : Libraries} {env : Environment} {store : PolicyStore}
    {prepared : Prepared} {snap : PolicySnapshot} (hl : store.load libs = .ok snap) :
    FailureAtomic libs store (commit libs env store prepared) ↔
      prepared.Safe libs env store := by
  rcases commit_cases libs env store prepared with
    ⟨e, hkey, hc⟩ | ⟨fs, hkey, ⟨href, e, hc⟩ |
      ⟨text, replacement, written, ha, result, hc, haw, _⟩⟩
  · rw [hc]
    constructor
    · intro _ fs hfs
      rw [hkey] at hfs
      cases hfs
    · intro _ _
      exact ⟨rfl, rfl⟩
  · rw [hc]
    constructor
    · intro hat fs' hfs'
      rw [hkey] at hfs'
      cases hfs'
      refine ⟨.inr ((Prepared.keyHarmless_iff hl hkey).2 (hat rfl)), ?_⟩
      intro text replacement written ha
      exact absurd ⟨text, replacement, written, ha⟩ href
    · intro hsafe _
      rcases (hsafe fs hkey).1 with ha | hh
      · exact absurd ha href
      · exact (Prepared.keyHarmless_iff hl hkey).1 hh
  · rw [hc]
    constructor
    · intro hat fs' hfs'
      rw [hkey] at hfs'
      cases hfs'
      refine ⟨.inl ⟨text, replacement, written, ha⟩, ?_⟩
      intro text' replacement' written' ha'
      obtain ⟨rfl, rfl, rfl⟩ := ha.unique ha'
      by_cases han : prepared.Answered libs env
      · exact .inl han
      · refine .inr (hat ?_)
        rw [Bool.eq_false_iff, ne_eq, haw]
        exact han
    · intro hsafe hf
      rcases (hsafe fs hkey).2 text replacement written ha with h | h
      · have hok : result.isOk = true := haw.2 h
        rw [hf] at hok
        cases hok
      · exact h

/-- **Failure atomicity**, exactly. -/
theorem handle_atomic_iff (libs : Libraries) (env : Environment)
    (options : PolicyManagementOptions) (store : PolicyStore) (request : ManagementRequest)
    (hload : (store.load libs).isOk = true) :
    FailureAtomic libs store (handle libs env options store request) ↔
      ∀ prepared, prepare libs env options store request = .ok prepared →
        prepared.Safe libs env store := by
  obtain ⟨snapshot, hload⟩ : ∃ snapshot, store.load libs = .ok snapshot := by
    cases h : store.load libs with
    | error e =>
      rw [h] at hload
      cases hload
    | ok snapshot => exact ⟨snapshot, rfl⟩
  unfold handle
  cases hprepare : prepare libs env options store request with
  | error e =>
    constructor
    · intro _ prepared hprepared
      cases hprepared
    · intro _ _
      exact ⟨rfl, rfl⟩
  | ok prepared =>
    rw [commit_atomic_iff hload]
    constructor
    · rintro h _ ⟨⟩
      exact h
    · intro h
      exact h prepared rfl

/-! ## A refused request that changes a key -/

namespace Sample

def greedyBody : Json :=
  .object [(ascii "max_tunnels", .number 1000), (ascii "psk", .string (ascii "changed"))]

/-- The same quota without a key. -/
def quotaBody : Json :=
  .object [(ascii "max_tunnels", .number 1000)]

def greedyLibraries : Libraries := libraries (.ofValues
  [document [entry pskFile 4 8], document [entry pskFile 1000 8], greedyBody, quotaBody])

def greedyRequest : ManagementRequest := .upsertClient clientId (greedyBody.write none 0)

def quotaRequest : ManagementRequest := .upsertClient clientId (quotaBody.write none 0)

end Sample

open Sample

set_option maxRecDepth 10000 in
/-- A request that is refused because of its quota leaves everything alone if it sets no key. -/
theorem refused_quota_atomic :
    (handle greedyLibraries calm options (store pskFile) quotaRequest).1.isOk = false ∧
      FailureAtomic greedyLibraries (store pskFile)
        (handle greedyLibraries calm options (store pskFile) quotaRequest) := by
  refine ⟨by decide +kernel, (handle_atomic_iff greedyLibraries calm options (store pskFile)
    quotaRequest (by decide +kernel)).2 ?_⟩
  intro prepared hprepared
  cases hprepared
  intro fs hfs
  refine ⟨.inr fun filename secret hkey => ?_, fun text snapshot written _ => .inl ?_⟩
  · cases hkey
  · exact ⟨rfl, _, rfl, rfl⟩

/-- The request is refused because of its quota; the key it came with is in the
file the document names, and the next reload would load it. -/
theorem refused_upsert_changes_key :
    ((store pskFile).load greedyLibraries).isOk = true ∧
    (handle greedyLibraries calm options (store pskFile) greedyRequest).1.isOk = false ∧
    ¬FailureAtomic greedyLibraries (store pskFile)
      (handle greedyLibraries calm options (store pskFile) greedyRequest) := by
  have hbefore : (policySet ((store pskFile).load greedyLibraries)).map
      (fun find => (find clientId).map fun p => p.psk) = some (some (ascii "secret")) := by
    decide +kernel
  have hafter : (policySet ((handle greedyLibraries calm options
      (store pskFile) greedyRequest).2.load greedyLibraries)).map
      (fun find => (find clientId).map fun p => p.psk) = some (some (ascii "changed")) := by
    decide +kernel
  have hfails : (handle greedyLibraries calm options (store pskFile)
      greedyRequest).1.isOk = false := by
    decide +kernel
  refine ⟨by decide +kernel, hfails, fun hatomic => ?_⟩
  have hsame := (hatomic hfails).disk
  rw [hsame, hbefore] at hafter
  exact absurd hafter (by decide)

end MiniTun.Server
