import MiniTun.Server.PolicyManagement

/-!
# Key rotation

After a successful `rotate_psk` the new key is effective, and the key that was
effective before is accepted until the grace period ends (`RotationCorrect`).

The handler alternates between two file names and compares the configured path
with the canonical name as a text.  Another spelling of the canonical path is
therefore taken for another file: the new key is written over the old one, and
the document then names that one file twice.
-/

namespace MiniTun.Server

open KeyedMap LexicalPath

/-- The library reads back the text it writes for a value. -/
def ReadsBack (json : JsonLibrary) (value : Json) : Prop :=
  ∀ text, json.dump (some 2) value = some text → json.parse text = some value

/-- **Rotation is correct**: the installed policy has the key that was returned,
and accepts the key that was in effect before until the period of grace is over. -/
def RotationCorrect (libs : Libraries) (env : Environment) (before after : PolicyStore)
    (response : ManagementResponse) (clientId : Bytes) (grace : Int) : Prop :=
  ∃ old policy secret, before.snapshot.find clientId = some old ∧
    after.snapshot.find clientId = some policy ∧
    generatePsk env = .ok secret ∧
    responseJson libs.json (rotationReply secret (env.unixSecondsNow + grace)) = .ok response ∧
    policy.psk = secret ∧
    ∀ now, policy.rotationPsk now =
      if now < env.unixSecondsNow + grace then some old.psk else none

/-- The `psk_file` the document in memory has for a client. -/
def configuredPskFile (libs : Libraries) (store : PolicyStore) (clientId : Bytes) :
    Option Bytes := do
  let document ← (loadDocument libs store).toOption
  let entry ← findClient document clientId
  (entry.field? (ascii "psk_file")).bind Json.text?

/-- The configured file holds the key in effect, and is not the file the new key
goes to (or the new key happens to be the old one). -/
def OldKeyKept (libs : Libraries) (env : Environment) (store : PolicyStore) (clientId : Bytes) :
    Prop :=
  ∃ old current secret, store.snapshot.find clientId = some old ∧
    configuredPskFile libs store clientId = some current ∧ generatePsk env = .ok secret ∧
    if pskLocation store.fs (configDirectory store.configPath) current =
        pskLocation store.fs (configDirectory store.configPath) (rotationTarget clientId current)
    then secret = old.psk
    else loadPsk store.fs (configDirectory store.configPath) current = .ok old.psk

/-! ## The rotated document -/

theorem mem_mapFirst {α : Type*} {test : α → Bool} {f : α → α} {l : List α} {a : α}
    (h : l.find? test = some a) : f a ∈ mapFirst test f l := by
  induction l with
  | nil => cases h
  | cons b l ih =>
    rw [List.find?_cons] at h
    unfold mapFirst
    cases hb : test b with
    | true =>
      simp only [hb, Option.some.injEq] at h
      subst h
      simp
    | false =>
      simp only [hb] at h
      simpa using List.mem_cons_of_mem _ (ih h)

theorem isObject_of_field? {val member : Json} {key : Bytes}
    (h : val.field? key = some member) : val.isObject = true := by
  cases val with
  | object flds => rfl
  | _ => cases h

theorem isObject_of_findClient {doc ent : Json} {cid : Bytes}
    (h : findClient doc cid = some ent) : doc.isObject = true := by
  have hmem := List.mem_of_find?_eq_some h
  cases hf : doc.field? (ascii "clients") with
  | none => simp [clientEntries, hf] at hmem
  | some val => exact isObject_of_field? hf

theorem documentClients_setClients {doc : Json} {ents found : List Json} (ho : doc.isObject = true)
    (h : documentClients (setClients doc ents) = some found) : found = ents := by
  unfold documentClients at h
  split at h
  · rw [setClients, Json.field?_setField ho] at h
    exact (Option.some.inj h).symm
  · cases h

section RotatedEntry

variable {ent : Json} {clientId cfile : Bytes} {expiresAt : Int}

variable (clientId cfile expiresAt) in
theorem field?_rotatedEntry (ho : ent.isObject = true) (key : Bytes) :
    (rotatedEntry ent clientId cfile expiresAt).field? key =
      if key = ascii "psk_file" then some (.string (rotationTarget clientId cfile))
      else if key = ascii "previous_psk_expires_at" then some (.number expiresAt)
      else if key = ascii "previous_psk_file" then some (.string cfile)
      else ent.field? key := by
  have h₁ := Json.isObject_setField ho (ascii "previous_psk_file") (.string cfile)
  have h₂ := Json.isObject_setField h₁ (ascii "previous_psk_expires_at") (.number expiresAt)
  rw [rotatedEntry, Json.field?_setField h₂, Json.field?_setField h₁, Json.field?_setField ho]

/-- What loading the rotated entry gives: the keys of the two files and the end of
the period of grace. -/
theorem fieldsOf_rotatedEntry {fs : FileSystem} {dir : Path Bytes} {flds : PolicyFields}
    (hc : isClient clientId ent = true)
    (h : FieldsOf fs dir (rotatedEntry ent clientId cfile expiresAt) flds) :
    flds.clientId = clientId ∧
      loadPsk fs dir (rotationTarget clientId cfile) = .ok flds.psk ∧
      ∃ sec validUntil, flds.previousPsk = some ⟨sec, validUntil⟩ ∧
        (validUntil : Int) = expiresAt ∧ loadPsk fs dir cfile = .ok sec := by
  have hid : (ent.field? (ascii "client_id")).bind Json.text? = some clientId := by
    simpa [isClient] using hc
  have ho : ent.isObject = true := by
    cases hf : ent.field? (ascii "client_id") with
    | none => simp [hf] at hid
    | some val => exact isObject_of_field? hf
  have hf := field?_rotatedEntry clientId cfile expiresAt ho
  refine ⟨?_, ?_, ?_⟩
  · have hid' := h.clientId
    rw [hf, if_neg (by decide), if_neg (by decide), if_neg (by decide), hid] at hid'
    exact (Option.some.inj hid').symm
  · obtain ⟨path, hp, hl⟩ := h.psk
    rw [hf] at hp
    cases hp
    exact hl
  · have hp : ((rotatedEntry ent clientId cfile expiresAt).field?
        (ascii "previous_psk_file")).bind Json.text? = some cfile := by
      rw [hf]
      rfl
    obtain ⟨sec, validUntil, hpre, hexp, hl⟩ :=
      loadPreviousPsk_ok h.previousPsk hp
    refine ⟨sec, validUntil, hpre, ?_, hl⟩
    rw [hf, if_neg (by decide), if_pos rfl] at hexp
    simp only [Option.bind_some, Json.unsigned?] at hexp
    split at hexp
    · cases hexp
      omega
    · cases hexp

end RotatedEntry

/-! ## The handler -/

theorem prepareRotate_ok {libs : Libraries} {env : Environment} {opts : PolicyManagementOptions}
    {store : PolicyStore} {cid body : Bytes} {prep : Prepared}
    (h : prepareRotate libs env opts store cid body = .ok prep) :
    ∃ grace document entry currentFile secret,
      requestedGrace libs.json opts body = .ok grace ∧
      loadDocument libs store = .ok document ∧
      findClient document cid = some entry ∧
      (entry.field? (ascii "psk_file")).bind Json.text? = some currentFile ∧
      generatePsk env = .ok secret ∧
      prep = {
        keyFile := some (rotationTarget cid currentFile, secret)
        document := .ok (setClients document (mapFirst (isClient cid)
          (fun _ => rotatedEntry entry cid currentFile (env.unixSecondsNow + grace))
          (clientEntries document)))
        reply := .ok (rotationReply secret (env.unixSecondsNow + grace)) } := by
  simp only [prepareRotate, bind, bind_eq_ok] at h
  obtain ⟨grace, hg, h⟩ := h
  split at h
  · obtain ⟨_, hf, _⟩ := bind_eq_ok.1 h
    exact absurd hf failure_ne_ok
  · obtain ⟨document, hdoc, h⟩ := bind_eq_ok.1 h
    split at h
    · exact absurd h failure_ne_ok
    · next entry hent =>
      split at h
      · exact absurd h failure_ne_ok
      · exact absurd h failure_ne_ok
      · next currentFile _ hfl =>
        obtain ⟨secret, hsec, h⟩ := bind_eq_ok.1 h
        cases h
        exact ⟨grace, document, entry, currentFile, secret, hg, hdoc, hent, hfl, hsec, rfl⟩

/-- A generated key has no line ends to be trimmed. -/
theorem generatePsk_ok {env : Environment} {sec : Bytes} (h : generatePsk env = .ok sec) :
    trimLineEnds sec = sec := by
  unfold generatePsk at h
  split at h
  · exact absurd h failure_ne_ok
  · cases h
    rw [trimLineEnds_eq_self_iff]
    intro b hb
    have hhex := hexEncode_isLowerHex _ b (List.mem_of_getLast? hb)
    constructor
    · rintro rfl
      revert hhex
      decide
    · rintro rfl
      revert hhex
      decide

theorem parsePolicyJson_ok {json : JsonLibrary} {text : Bytes} {doc : Json}
    (h : parsePolicyJson json text = .ok doc) : json.parse text = some doc := by
  unfold parsePolicyJson at h
  split at h
  · exact absurd h failure_ne_ok
  · split at h
    · exact absurd h failure_ne_ok
    · next parsed hp =>
      rw [hp]
      split at h
      · exact absurd h failure_ne_ok
      · exact absurd h failure_ne_ok
      · exact absurd h failure_ne_ok
      · exact absurd h failure_ne_ok
      · cases h
        rfl

theorem loadPsk_put_of_eq {fs : FileSystem} {dir : Path Bytes} {filename path secret
    loaded : Bytes} (hs : WellSpelled dir)
    (hp : pskLocation fs dir path = pskLocation fs dir filename)
    (h : loadPsk (fs.put (pskLocation fs dir filename)
      (createdFile 0o600 (secret ++ [10]))) dir path = .ok loaded) :
    loaded = trimLineEnds secret := by
  obtain ⟨node, hn, hl⟩ := loadPsk_ok hs h
  have hput : pskLocation (fs.put (pskLocation fs dir filename)
      (createdFile 0o600 (secret ++ [10]))) dir path =
      pskLocation fs dir filename := hp
  rw [hput, FileSystem.lookup_put, if_pos rfl] at hn
  cases hn
  exact hl.trans (trimLineEnds_concat secret)

theorem rotationPsk_eq_iff {pol : PolicyFields} {sec old : Bytes} {valid : Nat}
    {expiresAt : Int} (hpre : pol.previousPsk = some ⟨sec, valid⟩)
    (hexp : (valid : Int) = expiresAt) :
    (∀ now, pol.rotationPsk now = if now < expiresAt then some old else none) ↔
      sec = old := by
  subst hexp
  constructor
  · intro h
    have hl := h ((valid : Int) - 1)
    rw [if_pos (by omega)] at hl
    simp only [PolicyFields.rotationPsk, hpre] at hl
    rw [if_neg (by omega)] at hl
    exact Option.some.inj hl
  · rintro rfl now
    simp only [PolicyFields.rotationPsk, hpre]
    by_cases hnow : now < (valid : Int)
    · rw [if_pos hnow, if_neg (by omega)]
    · rw [if_neg hnow, if_pos (by omega)]

/-- What a successful rotation found and what it installed. -/
structure Rotated (libs : Libraries) (env : Environment) (before after : PolicyStore)
    (response : ManagementResponse) (clientId : Bytes) (grace : Int)
    (current secret kept : Bytes) (policy : ClientPolicy) : Prop where
  configured : configuredPskFile libs before clientId = some current
  generated : generatePsk env = .ok secret
  response : responseJson libs.json (rotationReply secret (env.unixSecondsNow + grace)) =
    .ok response
  find : after.snapshot.find clientId = some policy
  psk : policy.psk = secret
  previous : ∃ validUntil : Nat, policy.previousPsk = some ⟨kept, validUntil⟩ ∧
    (validUntil : Int) = env.unixSecondsNow + grace
  keptFile : loadPsk (before.fs.put
      (pskLocation before.fs (configDirectory before.configPath) (rotationTarget clientId current))
      (createdFile 0o600 (secret ++ [10])))
    (configDirectory before.configPath) current = .ok kept

section Handler

variable {libs : Libraries} {env : Environment} {options : PolicyManagementOptions}
  {store store' : PolicyStore} {clientId body : Bytes} {response : ManagementResponse} {grace : Int}

/-- The documents `rotate_psk` has the library write. -/
def RotationReadsBack (libs : Libraries) (env : Environment) (options : PolicyManagementOptions)
    (store : PolicyStore) (clientId body : Bytes) : Prop :=
  ∀ prepared document, prepareRotate libs env options store clientId body = .ok prepared →
    prepared.document = .ok document → ReadsBack libs.json document

/-- What a request that succeeds has prepared, written and installed. -/
theorem handle_ok {req : ManagementRequest}
    (h : handle libs env options store req = (.ok response, store')) :
    ∃ prepared fs text snapshot written,
      prepare libs env options store req = .ok prepared ∧
      writeKeyFile env store prepared.keyFile = .ok fs ∧
      prepared.Accepted libs env { store with fs := fs } text snapshot written ∧
      prepared.reply >>= responseJson libs.json = .ok response ∧
      store' = PolicyStore.installed { store with fs := fs } text snapshot written := by
  unfold handle at h
  split at h
  · cases h
  · next prepared hpre =>
    rcases commit_cases libs env store prepared with
      ⟨e, _, hc⟩ | ⟨fs, hkey, ⟨_, e, hc⟩ |
        ⟨text, snapshot, written, ha, result, hc, _, hr⟩⟩
    · rw [hc] at h
      cases h
    · rw [hc] at h
      cases h
    · rw [hc] at h
      cases h
      exact ⟨prepared, fs, text, snapshot, written, hpre, hkey, ha, (hr rfl).symm, rfl⟩

/-- The document that is installed is the one the handler wrote. -/
theorem Prepared.Accepted.snapshotOf {prepared : Prepared} {keyed : PolicyStore} {text : Bytes}
    {snap : PolicySnapshot} {written : FileSystem} {doc : Json}
    (h : prepared.Accepted libs env keyed text snap written)
    (hdoc : prepared.document = .ok doc) (hr : ReadsBack libs.json doc) :
    parsePolicyJson libs.json text = .ok doc ∧
      ∃ ents, documentClients doc = some ents ∧
        SnapshotOf libs keyed.fs (configDirectory keyed.configPath) keyed.limits ents snap := by
  obtain ⟨edited, he, hdump⟩ := h.document
  rw [hdoc] at he
  cases he
  obtain ⟨parsed, hp, hb⟩ := PolicyStore.validateReplacement_ok h.accepts.valid
  have hs := parsePolicyJson_ok hp
  rw [hr text hdump] at hs
  cases hs
  exact ⟨hp, buildSnapshot_ok hb⟩

theorem handle_rotatePsk_rotated
    (h : handle libs env options store (.rotatePsk clientId body) = (.ok response, store'))
    (hg : requestedGrace libs.json options body = .ok grace)
    (hr : RotationReadsBack libs env options store clientId body) :
    ∃ current secret kept policy,
      Rotated libs env store store' response clientId grace current secret kept policy := by
  obtain ⟨prep, fs, text, snapshot, written, hpre, hkey, ha, hrp, rfl⟩ :=
    handle_ok h
  have hpre := (ensure_eq_ok.1 hpre).2
  obtain ⟨grace', document, entry, current, secret, hg', hdoc, hent, hf, hsec,
    hprep⟩ := prepareRotate_ok hpre
  rw [hg] at hg'
  cases hg'
  subst hprep
  obtain ⟨-, entries, he, hs⟩ := ha.snapshotOf rfl (hr _ _ hpre rfl)
  have he := documentClients_setClients (isObject_of_findClient hent) he
  subst he
  -- and so the rotated entry is loaded
  obtain ⟨policy, hpol⟩ := hs.loads _ (mem_mapFirst hent)
  obtain ⟨hid, hpsk, kept, validUntil, hprev, hexp, hk⟩ :=
    fieldsOf_rotatedEntry (List.find?_some hent) (loadFields_ok (loadPolicy_ok hpol).1)
  have hfs := writeSecretFileAtomic_ok hkey
  simp only [hfs] at hpsk hk
  refine ⟨current, secret, kept, policy, ?_, hsec, hrp, ?_, ?_, ⟨validUntil, hprev, hexp⟩, hk⟩
  · simp [configuredPskFile, hdoc, hent, hf, Except.toOption]
  · exact (hs.find_iff clientId policy).2 ⟨_, mem_mapFirst hent, hpol, hid⟩
  · exact (loadPsk_put_of_eq (wellSpelled_configDirectory _) rfl hpsk).trans (generatePsk_ok hsec)

theorem Rotated.kept_eq_iff {cur sec kept : Bytes} {pol : ClientPolicy} {old : Bytes}
    (h : Rotated libs env store store' response clientId grace cur sec kept pol) :
    kept = old ↔
      if pskLocation store.fs (configDirectory store.configPath) cur =
          pskLocation store.fs (configDirectory store.configPath) (rotationTarget clientId cur)
      then sec = old
      else loadPsk store.fs (configDirectory store.configPath) cur = .ok old := by
  have hs := wellSpelled_configDirectory store.configPath
  split
  · next hp =>
    rw [loadPsk_put_of_eq hs hp h.keptFile, generatePsk_ok h.generated]
  · next hp =>
    have hn := FileSystem.lookup_put store.fs
      (pskLocation store.fs (configDirectory store.configPath) (rotationTarget clientId cur))
      (pskLocation store.fs (configDirectory store.configPath) cur)
      (createdFile 0o600 (sec ++ [10]))
    rw [if_neg hp] at hn
    rw [← loadPsk_frame hs (by rfl) hn, h.keptFile]
    constructor
    · rintro rfl
      rfl
    · intro hok
      exact Except.ok.inj hok

end Handler

/-- **Rotation is correct** exactly if the old key is still there to be kept. -/
theorem rotatePsk_correct_iff (libs : Libraries) (env : Environment)
    (options : PolicyManagementOptions) (store store' : PolicyStore) (clientId body : Bytes)
    (response : ManagementResponse) (grace : Int)
    (hok : handle libs env options store (.rotatePsk clientId body) = (.ok response, store'))
    (hgrace : requestedGrace libs.json options body = .ok grace)
    (hreads : RotationReadsBack libs env options store clientId body) :
    RotationCorrect libs env store store' response clientId grace ↔
      OldKeyKept libs env store clientId := by
  obtain ⟨current, secret, kept, policy, hrotated⟩ :=
    handle_rotatePsk_rotated hok hgrace hreads
  obtain ⟨validUntil, hprevious, hexpires⟩ := hrotated.previous
  constructor
  · rintro ⟨old, policy', secret', hold, hfind, hgenerated, hresponse, hpsk, hrotation⟩
    rw [hrotated.find] at hfind
    cases hfind
    have hkept := (rotationPsk_eq_iff hprevious hexpires).1 hrotation
    exact ⟨old, current, secret, hold, hrotated.configured, hrotated.generated,
      hrotated.kept_eq_iff.1 hkept⟩
  · rintro ⟨old, current', secret', hold, hcurrent, hgenerated, hkeeps⟩
    rw [hrotated.configured] at hcurrent
    cases hcurrent
    rw [hrotated.generated] at hgenerated
    cases hgenerated
    have hkept := hrotated.kept_eq_iff.2 hkeeps
    exact ⟨old, policy, secret, hold, hrotated.find, hrotated.generated, hrotated.response,
      hrotated.psk, (rotationPsk_eq_iff hprevious hexpires).2 hkept⟩

/-! ## Another spelling of the canonical path -/

namespace Sample

def dottedFile : Bytes := ascii "./" ++ pskFile

/-- The libraries on a document that names the key file `file`. -/
def rotationLibraries (file : Bytes) : Libraries := libraries (.ofValues
  [document [entry file 4 8],
    document [rotatedEntry (entry file 4 8) clientId file 1700000600]])

def rotation (file : Bytes) : Result ManagementResponse × PolicyStore :=
  handle (rotationLibraries file) calm options (store file) (.rotatePsk clientId [])

def rotationResponse : ManagementResponse :=
  ⟨200, "OK", "application/json", (rotationReply zeroKey 1700000600).write none 0⟩

theorem rotation_eq {file : Bytes} (h : (rotation file).1 = .ok rotationResponse) :
    rotation file = (.ok rotationResponse, (rotation file).2) := by
  rw [← h]

set_option maxRecDepth 10000 in
theorem rotation_readsBack {file : Bytes} (h : file = pskFile ∨ file = dottedFile) :
    RotationReadsBack (rotationLibraries file) calm options (store file) clientId [] := by
  intro prepared document hprepared hdocument text htext
  rcases h with rfl | rfl
  all_goals
    cases hprepared
    cases hdocument
    cases htext
    rfl

end Sample

open Sample

/-- The key file is configured under its canonical name: the new key goes to the
other file. -/
theorem rotatePsk_correct_canonical :
    RotationCorrect (rotationLibraries pskFile) calm (store pskFile)
      (Sample.rotation pskFile).2 rotationResponse clientId 600 := by
  have hresponse : (Sample.rotation pskFile).1 = .ok rotationResponse := by decide +kernel
  refine (rotatePsk_correct_iff (rotationLibraries pskFile) calm options (store pskFile)
    (Sample.rotation pskFile).2 clientId [] rotationResponse 600 (rotation_eq hresponse) rfl
    (rotation_readsBack (.inl rfl))).2
      ⟨policy, pskFile, zeroKey, by decide +kernel, by decide +kernel, by decide +kernel, ?_⟩
  rw [if_neg (by decide +kernel)]
  decide +kernel

/-- The rotation succeeds and answers with the new key, and the policy it installed
has that same key as the one to be accepted for another ten minutes. -/
theorem dotted_rotation_loses_key :
    (Sample.rotation dottedFile).1 = .ok rotationResponse ∧
    RotationReadsBack (rotationLibraries dottedFile) calm options (store dottedFile) clientId [] ∧
    ¬RotationCorrect (rotationLibraries dottedFile) calm (store dottedFile)
      (Sample.rotation dottedFile).2 rotationResponse clientId 600 := by
  refine ⟨by decide +kernel, rotation_readsBack (.inr rfl), ?_⟩
  rintro ⟨old, policy, secret, hold, hpolicy, _, _, _, hrotation⟩
  have hbefore : ((store dottedFile).snapshot.find clientId).map
      (fun p => p.psk) = some (ascii "secret") := by decide +kernel
  have hafter : ((Sample.rotation dottedFile).2.snapshot.find clientId).map
      (fun p => p.rotationPsk 1700000000) = some (some zeroKey) := by decide +kernel
  rw [hold, Option.map_some] at hbefore
  rw [hpolicy, Option.map_some, hrotation, hbefore] at hafter
  exact absurd hafter (by decide)

end MiniTun.Server
