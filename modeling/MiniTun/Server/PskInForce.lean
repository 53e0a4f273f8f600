import MiniTun.Server.PskRotation

/-!
# The key an upsert sets

`upsert_client` writes the key it is given to the client's key file, with a line
end behind it, and the loader trims every line end off again.  A key that ends in
a line end of its own is accepted, but takes effect without it.
-/

namespace MiniTun.Server

open KeyedMap LexicalPath

/-! ## The entry an upsert writes -/

section Edits

variable {k : Bytes} {body : Json}

theorem field?_setField_of_ne (val new : Json) {key : Bytes} (hk : k ≠ key) :
    (val.setField key new).field? k = val.field? k := by
  cases val with
  | object flds => exact (Json.lookupField_insertField flds key new k).trans (if_neg hk)
  | null => simp [Json.setField, Json.field?, Json.lookupField, hk.symm]
  | _ => rfl

theorem field?_copyField (body val : Json) (key : Bytes) (hk : k ≠ key) :
    (copyField body val key).field? k = val.field? k := by
  unfold copyField
  split
  · rfl
  · exact field?_setField_of_ne _ _ hk

theorem field?_eraseField (val : Json) (key : Bytes) (hk : k ≠ key) :
    (val.eraseField key).field? k = val.field? k := by
  cases val with
  | object flds =>
    simp only [Json.eraseField, Json.field?, Json.lookupField, List.find?_filter]
    congr 2
    funext field
    by_cases hf : field.1 = k
    · simp [hf, hk]
    · simp [hf]
  | _ => rfl

/-- Editing some members leaves the others alone. -/
theorem field?_foldl {edit : Json → Bytes → Json} {keys : List Bytes}
    (hedit : ∀ val key, k ≠ key → (edit val key).field? k = val.field? k) (hk : k ∉ keys)
    (val : Json) : (keys.foldl edit val).field? k = val.field? k := by
  induction keys generalizing val with
  | nil => rfl
  | cons key keys ih =>
    rw [List.mem_cons, not_or] at hk
    exact (ih hk.2 _).trans (hedit val key hk.1)

theorem field?_edited {keyed ent enabled : Json}
    (hk : k ∉ ascii "enabled" :: (copiedFields ++ certificateFields))
    (h : (if certificateFields.any fun key => body.contains key then
        pure (certificateFields.foldl (copyField body) (certificateFields.foldl Json.eraseField
          (copiedFields.foldl (copyField body) (keyed.setField (ascii "enabled") enabled))))
      else pure (copiedFields.foldl (copyField body) (keyed.setField (ascii "enabled") enabled))) =
        (.ok ent : Result Json)) : ent.field? k = keyed.field? k := by
  simp only [List.mem_cons, List.mem_append, not_or] at hk
  have hc := (field?_foldl (field?_copyField body) hk.2.1 _).trans
    (field?_setField_of_ne keyed enabled hk.1)
  split at h <;> cases h
  · rw [field?_foldl (field?_copyField body) hk.2.2, field?_foldl field?_eraseField hk.2.2, hc]
  · exact hc

theorem upsertEntry_ok {ent : Json} {cid : Bytes} {existing : Option Json}
    (hpsk : body.contains (ascii "psk") = true)
    (he : ∀ old, existing = some old → old.isObject = true)
    (h : upsertEntry body cid existing = .ok ent) :
    ent.field? (ascii "client_id") = some (.string cid) ∧
      ent.field? (ascii "psk_file") = some (.string (pskFileFor cid (ascii ".psk"))) := by
  obtain ⟨kept, hkp, hf⟩ : ∃ kept : Json, kept.isObject = true ∧
      ∀ k, k ∉ ascii "enabled" :: (copiedFields ++ certificateFields) → ent.field? k =
        ((kept.setField (ascii "client_id") (.string cid)).setField (ascii "psk_file")
          (.string (pskFileFor cid (ascii ".psk")))).field? k := by
    unfold upsertEntry at h
    cases existing with
    | none =>
      simp only [hpsk, if_true, Option.isNone_none, or_true] at h
      -- the first assignment makes an object of the null value
      refine ⟨.object [], rfl, fun k hk => ?_⟩
      exact field?_edited hk h
    | some old =>
      simp only [hpsk, if_true, true_or, Option.isNone_some, Bool.false_eq_true, if_false, bind,
        bind_eq_ok] at h
      obtain ⟨fallback, -, h⟩ := h
      refine ⟨(old.eraseField _).eraseField _, ?_, fun k hk => field?_edited hk h⟩
      cases old with
      | object flds => rfl
      | _ => cases he _ rfl
  have hn := Json.isObject_setField hkp (ascii "client_id") (.string cid)
  rw [hf _ (by decide), hf _ (by decide), Json.field?_setField hn,
    Json.field?_setField hn, Json.field?_setField hkp]
  exact ⟨rfl, rfl⟩

end Edits

theorem placeEntry_ok {doc placed ent : Json} {cid : Bytes}
    (h : placeEntry doc cid (findClient doc cid) ent = .ok placed) :
    doc.isObject = true ∧ ∃ ents, ent ∈ ents ∧ placed = setClients doc ents := by
  unfold placeEntry at h
  split at h
  · next old hfi =>
    cases h
    exact ⟨isObject_of_findClient hfi, _, mem_mapFirst hfi, rfl⟩
  · split at h
    · next ents hf =>
      cases h
      exact ⟨isObject_of_field? hf, _, by simp, rfl⟩
    · next hf =>
      cases h
      exact ⟨isObject_of_field? hf, _, by simp, rfl⟩
    · exact absurd h failure_ne_ok

/-! ## The handler -/

/-- Where the client's key file is. -/
def PolicyStore.keyPlace (store : PolicyStore) (clientId : Bytes) : Location :=
  pskLocation store.fs (configDirectory store.configPath) (pskFileFor clientId (ascii ".psk"))

/-- Where the policy document is. -/
def PolicyStore.documentPlace (store : PolicyStore) : Location :=
  store.fs.locate (pathOf store.configPath)

/-- The client's key is the given one, in the installed snapshot and in every snapshot a reload
of the files builds. -/
def PskInForce (libs : Libraries) (store : PolicyStore) (clientId psk : Bytes) : Prop :=
  (∃ policy, store.snapshot.find clientId = some policy ∧ policy.psk = psk) ∧
    ∀ snapshot, store.load libs = .ok snapshot →
      ∃ policy, snapshot.find clientId = some policy ∧ policy.psk = psk

section Handler

variable {libs : Libraries} {env : Environment} {opts : PolicyManagementOptions}
  {store store' : PolicyStore} {clientId cid bodyText psk : Bytes} {body : Json}
  {response : ManagementResponse} {prepared : Prepared}

theorem prepareUpsert_ok (h : prepareUpsert libs env store cid bodyText = .ok prepared)
    (hbody : libs.json.parse bodyText = some body)
    (hpsk : (body.field? (ascii "psk")).bind Json.text? = some psk) :
    prepared.keyFile = some (pskFileFor cid (ascii ".psk"), psk) ∧
      ∃ document, prepared.document = upsertEntry body cid (findClient document cid) >>=
        placeEntry document cid (findClient document cid) := by
  simp only [prepareUpsert, bind, bind_eq_ok] at h
  obtain ⟨body', hp, _, -, document, -, clients, -, h⟩ := h
  have hs : body' = body := by
    simp only [parseRequestBody, guard_eq_ok] at hp
    obtain ⟨-, -, hp⟩ := hp
    rw [hbody] at hp
    exact (Except.ok.inj (ensure_eq_ok.1 hp).2).symm
  subst hs
  have hsec : ∀ create, upsertSecret env body' create = .ok (some (psk, false)) := by
    intro create
    simp only [upsertSecret, hpsk]
  split at h
  · obtain ⟨_, hf, -⟩ := bind_eq_ok.1 h
    exact absurd hf failure_ne_ok
  · split at h
    · obtain ⟨_, -, h⟩ := bind_eq_ok.1 h
      rw [hsec] at h
      cases h
      exact ⟨rfl, document, rfl⟩
    · rw [hsec] at h
      cases h
      exact ⟨rfl, document, rfl⟩

/-- The documents `upsert_client` has the library write. -/
def UpsertReadsBack (libs : Libraries) (env : Environment) (store : PolicyStore)
    (clientId bodyText : Bytes) : Prop :=
  ∀ prepared document, prepareUpsert libs env store clientId bodyText = .ok prepared →
    prepared.document = .ok document → ReadsBack libs.json document

/-- The disk once the key is written. -/
def withKey (fs : FileSystem) (configPath clientId psk : Bytes) : FileSystem :=
  fs.put (pskLocation fs (configDirectory configPath) (pskFileFor clientId (ascii ".psk")))
    (createdFile 0o600 (psk ++ [10]))

/-- The document `upsert_client` has written. -/
def upsertedText (libs : Libraries) (env : Environment) (store : PolicyStore)
    (clientId bodyText : Bytes) : Option Bytes := do
  let prepared ← (prepareUpsert libs env store clientId bodyText).toOption
  let document ← prepared.document.toOption
  libs.json.dump (some 2) document

/-- The key does not end in a line end.  If the document is written over the key file, a reload
takes it for the key. -/
def KeyUntrimmed (libs : Libraries) (env : Environment) (store : PolicyStore)
    (clientId bodyText psk : Bytes) : Prop :=
  (∀ b, psk.getLast? = some b → b ≠ 10 ∧ b ≠ 13) ∧
    (store.keyPlace clientId = store.documentPlace →
      ∀ text written snapshot, upsertedText libs env store clientId bodyText = some text →
        writeSecureFileAtomic (withKey store.fs store.configPath clientId psk) store.configPath
          text env.documentWrite = .ok written →
        loadSnapshot libs written store.configPath store.limits = .ok snapshot →
        trimLineEnds text = psk)

/-- What an accepted upsert makes of a disk whose key file is written: the document is on it and has
an entry that names the client and the key file. -/
structure Upserted (libs : Libraries) (keyed : FileSystem) (store : PolicyStore)
    (clientId : Bytes) (entries : List Json) : Prop where
  disk : ∃ mode, store.fs = keyed.put store.documentPlace (createdFile mode store.documentText)
  document : ∃ document, parsePolicyJson libs.json store.documentText = .ok document ∧
    documentClients document = some entries
  entry : ∃ entry ∈ entries, entry.field? (ascii "client_id") = some (.string clientId) ∧
    entry.field? (ascii "psk_file") = some (.string (pskFileFor clientId (ascii ".psk")))
  snapshot : SnapshotOf libs keyed (configDirectory store.configPath) store.limits entries
    store.snapshot

/-- The files of the store after the request, from the store before it. -/
structure UpsertedFrom (libs : Libraries) (env : Environment) (store store' : PolicyStore)
    (clientId bodyText psk : Bytes) : Prop where
  text : upsertedText libs env store clientId bodyText = some store'.documentText
  write : writeSecureFileAtomic (withKey store.fs store.configPath clientId psk)
    store.configPath store'.documentText env.documentWrite = .ok store'.fs
  load : store'.load libs = loadSnapshot libs store'.fs store.configPath store.limits
  keyPlace : store'.keyPlace clientId = store.keyPlace clientId
  documentPlace : store'.documentPlace = store.documentPlace

theorem handle_upsertClient_ok
    (h : handle libs env opts store (.upsertClient cid bodyText) = (.ok response, store'))
    (hbody : libs.json.parse bodyText = some body)
    (hpsk : (body.field? (ascii "psk")).bind Json.text? = some psk)
    (hr : UpsertReadsBack libs env store cid bodyText) :
    UpsertedFrom libs env store store' cid bodyText psk ∧
      ∃ entries, Upserted libs (withKey store.fs store'.configPath cid psk) store' cid
        entries := by
  obtain ⟨prepared, keyed, text, snapshot, written, hpre, hkey, ha, -, rfl⟩ := handle_ok h
  have hpre := (ensure_eq_ok.1 hpre).2
  obtain ⟨hf, document, hdoc⟩ := prepareUpsert_ok hpre hbody hpsk
  obtain ⟨placed, hp, hdump⟩ := ha.document
  have htext : upsertedText libs env store cid bodyText = some text := by
    simp [upsertedText, hpre, hp, hdump, Except.toOption]
  obtain ⟨hpr, entries, hent, hs⟩ :=
    ha.snapshotOf hp (hr prepared placed hpre hp)
  rw [hp] at hdoc
  obtain ⟨ent, he, hpl⟩ := do_eq_ok.1 hdoc.symm
  obtain ⟨ho, entries', hmem, rfl⟩ := placeEntry_ok hpl
  obtain rfl := documentClients_setClients ho hent
  obtain ⟨val, hval, -⟩ := Option.bind_eq_some_iff.1 hpsk
  have hfs := upsertEntry_ok (by simp [Json.contains, hval]) (fun old hold => by
    have hid := List.find?_some (show (clientEntries document).find? _ = some old from hold)
    obtain ⟨val, hval, -⟩ := Option.bind_eq_some_iff.1 (of_decide_eq_true hid)
    exact isObject_of_field? hval) he
  rw [hf] at hkey
  obtain rfl := writeSecretFileAtomic_ok hkey
  have hwrite := ha.accepts.write
  obtain ⟨mode, rfl⟩ := writeSecureFileAtomic_ok hwrite
  exact ⟨⟨htext, hwrite, rfl, rfl, rfl⟩, _, ⟨mode, rfl⟩, ⟨_, hpr, hent⟩, ⟨ent, hmem, hfs⟩, hs⟩

/-- The client's policy in a snapshot of the document has the key that is loaded from its file. -/
theorem Upserted.find {keyed : FileSystem} {ents : List Json}
    (h : Upserted libs keyed store cid ents) {fs : FileSystem} {dir : Path Bytes}
    {limits : ClientPolicyLimits} {snap : PolicySnapshot}
    (hs : SnapshotOf libs fs dir limits ents snap) :
    ∃ pol, snap.find cid = some pol ∧
      loadPsk fs dir (pskFileFor cid (ascii ".psk")) = .ok pol.psk := by
  obtain ⟨ent, hent, hc, hf⟩ := h.entry
  obtain ⟨pol, hpol⟩ := hs.loads ent hent
  have hfs := loadFields_ok (loadPolicy_ok hpol).1
  have hid := hfs.clientId
  rw [hc] at hid
  obtain ⟨path, hp, hl⟩ := hfs.psk
  rw [hf] at hp
  cases hp
  exact ⟨pol, (hs.find_iff _ _).2 ⟨ent, hent, hpol, (Option.some.inj hid).symm⟩, hl⟩

/-- The key a reload finds: the one that was written, without its line ends, or the document that
was written over it. -/
theorem Upserted.find_load {fs : FileSystem} {ents : List Json} {snap : PolicySnapshot}
    (h : Upserted libs (withKey fs store.configPath cid psk) store cid ents)
    (hld : store.load libs = .ok snap) :
    ∃ pol, snap.find cid = some pol ∧ pol.psk =
      if store.keyPlace cid = store.documentPlace then trimLineEnds store.documentText
      else trimLineEnds psk := by
  obtain ⟨mode, hdisk⟩ := h.disk
  obtain ⟨doc, hp, hent⟩ := h.document
  have hl := fun place => FileSystem.lookup_put (withKey fs store.configPath cid psk)
    store.documentPlace place (createdFile mode store.documentText)
  rw [← hdisk] at hl
  simp only [PolicyStore.load, loadSnapshot, bind, bind_eq_ok] at hld
  obtain ⟨bytes, hr, document', hp', hb⟩ := hld
  -- the reload reads what the upsert has written
  obtain ⟨node, hop, rfl⟩ := readSecureFile_ok hr
  cases ((hl store.documentPlace).trans (if_pos rfl)).symm.trans (FileSystem.openNoFollow_ok hop)
  cases hp'.symm.trans hp
  obtain ⟨entries', hent', hsn⟩ := buildSnapshot_ok hb
  cases hent'.symm.trans hent
  obtain ⟨pol, hf, hpsk⟩ := h.find hsn
  refine ⟨pol, hf, ?_⟩
  have hs := wellSpelled_configDirectory store.configPath
  split
  · next hover =>
    obtain ⟨node, hn, hsec⟩ := loadPsk_ok hs hpsk
    cases ((hl (store.keyPlace cid)).trans (if_pos hover)).symm.trans hn
    exact hsec
  · next ha =>
    have hdir : store.fs.workingDirectory = fs.workingDirectory := by rw [hdisk]; rfl
    have hn := (hl (store.keyPlace cid)).trans (if_neg ha)
    rw [PolicyStore.keyPlace, pskLocation, FileSystem.locate, hdir] at hn
    have hfr : loadPsk store.fs (configDirectory store.configPath) _ =
        loadPsk (withKey fs store.configPath cid psk) (configDirectory store.configPath) _ :=
      loadPsk_frame hs hdir hn
    exact loadPsk_put_of_eq hs rfl (hfr.symm.trans hpsk)

end Handler

/-- **The key given is the key in force**, exactly if it does not end in a line end. -/
theorem psk_in_force_iff (libs : Libraries) (env : Environment) (options : PolicyManagementOptions)
    (store store' : PolicyStore) (clientId bodyText psk : Bytes) (body : Json)
    (response : ManagementResponse)
    (hok : handle libs env options store (.upsertClient clientId bodyText) =
      (.ok response, store'))
    (hbody : libs.json.parse bodyText = some body)
    (hpsk : (body.field? (ascii "psk")).bind Json.text? = some psk)
    (hreads : UpsertReadsBack libs env store clientId bodyText) :
    PskInForce libs store' clientId psk ↔
      KeyUntrimmed libs env store clientId bodyText psk := by
  obtain ⟨hfrom, entries, hupserted⟩ := handle_upsertClient_ok hok hbody hpsk hreads
  obtain ⟨policy, hfind, hload⟩ := hupserted.find hupserted.snapshot
  have hkey := loadPsk_put_of_eq (wellSpelled_configDirectory _) rfl hload
  have hinstalled : (∃ policy, store'.snapshot.find clientId = some policy ∧ policy.psk = psk) ↔
      trimLineEnds psk = psk := by
    rw [hfind, ← hkey]
    simp
  rw [PskInForce, KeyUntrimmed, hinstalled, trimLineEnds_eq_self_iff]
  refine and_congr_right fun htrim => ?_
  rw [← trimLineEnds_eq_self_iff] at htrim
  rw [← hfrom.keyPlace, ← hfrom.documentPlace]
  constructor
  · intro h hplace text written snapshot htext hwritten hsnapshot
    cases hfrom.text.symm.trans htext
    cases hfrom.write.symm.trans hwritten
    rw [← hfrom.load] at hsnapshot
    obtain ⟨policy, hfind, hpolicy⟩ := hupserted.find_load hsnapshot
    obtain ⟨policy', hfind', rfl⟩ := h snapshot hsnapshot
    cases hfind.symm.trans hfind'
    rw [hpolicy, if_pos hplace]
  · intro h snapshot hsnapshot
    obtain ⟨policy, hfind, hpolicy⟩ := hupserted.find_load hsnapshot
    refine ⟨policy, hfind, hpolicy.trans ?_⟩
    split
    · next hplace =>
      exact h hplace _ _ snapshot hfrom.text hfrom.write (hfrom.load.symm.trans hsnapshot)
    · exact htrim

/-! ## A key with a line end -/

namespace Sample

/-- The request `{"psk":"changed\n"}`, with the line end as an escape. -/
def plainBody : Bytes := ascii "\x7b\"psk\":\"changed\"\x7d"

def lineEndBody : Bytes := ascii "\x7b\"psk\":\"changed\\n\"\x7d"

def upsertLibraries : Libraries := libraries
  { JsonLibrary.ofValues [document [entry pskFile 4 8]] with
    parse := fun text =>
      if text = plainBody then some (.object [(ascii "psk", .string (ascii "changed"))])
      else if text = lineEndBody then some (.object [(ascii "psk", .string (ascii "changed\n"))])
      else (JsonLibrary.ofValues [document [entry pskFile 4 8]]).parse text }

def upsert (body : Bytes) : Result ManagementResponse × PolicyStore :=
  handle upsertLibraries calm options (store pskFile) (.upsertClient clientId body)

theorem upsert_eq (body : Bytes) (h : (upsert body).1.isOk = true) :
    ∃ response, upsert body = (.ok response, (upsert body).2) := by
  obtain ⟨response, hresponse⟩ := isOk_iff.1 h
  exact ⟨response, by rw [← hresponse]⟩

set_option maxRecDepth 10000 in
theorem upsert_readsBack :
    UpsertReadsBack upsertLibraries calm (store pskFile) clientId plainBody := by
  intro prepared document hprepared hdocument text htext
  cases hprepared
  cases hdocument
  cases htext
  rfl

theorem plain_psk_in_force :
    PskInForce upsertLibraries (upsert plainBody).2 clientId (ascii "changed") := by
  obtain ⟨response, hok⟩ := upsert_eq plainBody (by decide +kernel)
  refine (psk_in_force_iff upsertLibraries calm options (store pskFile) (upsert plainBody).2
    clientId plainBody (ascii "changed") _ response hok rfl rfl upsert_readsBack).2
    ⟨?_, fun hplace => absurd hplace (by decide +kernel)⟩
  rintro b ⟨⟩
  decide

/-- The request is accepted, and the key it installs lacks the line end. -/
theorem lineEnd_psk_not_in_force :
    (upsert lineEndBody).1.isOk = true ∧
    ¬PskInForce upsertLibraries (upsert lineEndBody).2 clientId (ascii "changed\n") := by
  have hkey : ((upsert lineEndBody).2.snapshot.find clientId).map (fun policy => policy.psk) =
      some (ascii "changed") := by decide +kernel
  refine ⟨by decide +kernel, ?_⟩
  rintro ⟨⟨policy, hfind, hpsk⟩, -⟩
  rw [hfind, Option.map_some, hpsk] at hkey
  exact absurd hkey (by decide)

end Sample

end MiniTun.Server
