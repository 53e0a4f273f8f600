import MiniTun.Daemon.DurableState

/-!
# Credential slots

Two slots of the credential store belong to each server and kind of credential.  A new
secret goes to the slot that the row does not refer to, and the row is switched to it
by the transaction that puts the secret in force; what the row no longer refers to is
removed afterwards.

The slots of different servers, and of different kinds, are different keys.
-/

namespace MiniTun.Daemon

open Interaction Storage

/-! ## Slots and references -/

def ServerCredentialKind.suffix : ServerCredentialKind → Bytes
  | .psk => []
  | .caCertificate => ascii "/ca"
  | .clientCertificate => ascii "/client-cert"
  | .clientPrivateKey => ascii "/client-key"

def primaryKey (serverId : Bytes) (kind : ServerCredentialKind) : Bytes :=
  ascii "server/" ++ serverId ++ kind.suffix

def secondaryKey (serverId : Bytes) (kind : ServerCredentialKind) : Bytes :=
  primaryKey serverId kind ++ ascii "/next"

def managedServerCredentialKeys (serverId : Bytes) (kind : ServerCredentialKind) : List Bytes :=
  [primaryKey serverId kind, secondaryKey serverId kind]

variable (server : ServerRecord)

def credentialReference : ServerCredentialKind → Option Bytes
  | .psk => server.credentialRef
  | .caCertificate => server.caCredentialRef
  | .clientCertificate => server.clientCertificateRef
  | .clientPrivateKey => server.clientPrivateKeyRef

def setReference (kind : ServerCredentialKind) (reference : Option Bytes) (server : ServerRecord) :
    ServerRecord :=
  match kind with
  | .psk => { server with credentialRef := reference }
  | .caCertificate => { server with caCredentialRef := reference }
  | .clientCertificate => { server with clientCertificateRef := reference }
  | .clientPrivateKey => { server with clientPrivateKeyRef := reference }

def withReferences (references : ServerCredentialKind → Option Bytes) : ServerRecord :=
  { server with
    credentialRef := references .psk
    caCredentialRef := references .caCertificate
    clientCertificateRef := references .clientCertificate
    clientPrivateKeyRef := references .clientPrivateKey }

@[simp] theorem credentialReference_setReference (kind other : ServerCredentialKind)
    (refr : Option Bytes) (srv : ServerRecord) :
    credentialReference (setReference kind refr srv) other =
      if other = kind then refr else credentialReference srv other := by
  cases kind <;> cases other <;> rfl

@[simp] theorem id_setReference (kind : ServerCredentialKind) (refr : Option Bytes)
    (srv : ServerRecord) : (setReference kind refr srv).id = srv.id := by
  cases kind <;> rfl

/-! ## Slots of different servers and kinds -/

variable {kind : ServerCredentialKind} {key serverId sid text : Bytes}

variable {kind' : ServerCredentialKind}

theorem suffix_injective {tail tail' : Bytes} (ht : tail ∈ [[], ascii "/next"])
    (ht' : tail' ∈ [[], ascii "/next"]) (h : kind.suffix ++ tail = kind'.suffix ++ tail') :
    kind = kind' := by
  simp only [List.mem_cons, List.not_mem_nil, or_false] at ht ht'
  rcases ht with rfl | rfl <;> rcases ht' with rfl | rfl <;>
    cases kind <;> cases kind' <;> first | rfl | exact absurd h (by decide)

theorem mem_managedServerCredentialKeys :
    key ∈ managedServerCredentialKeys sid kind ↔
      ∃ tail ∈ [[], ascii "/next"], key = ascii "server/" ++ (sid ++ (kind.suffix ++ tail)) := by
  simp [managedServerCredentialKeys, primaryKey, secondaryKey]

theorem managedServerCredentialKeys_disjoint {serverId' : Bytes} (hid : validId .server sid = true)
    (hid' : validId .server serverId' = true) (hkey : key ∈ managedServerCredentialKeys sid kind)
    (hkey' : key ∈ managedServerCredentialKeys serverId' kind') :
    sid = serverId' ∧ kind = kind' := by
  obtain ⟨tail, ht, rfl⟩ := mem_managedServerCredentialKeys.1 hkey
  obtain ⟨tail', ht', h⟩ := mem_managedServerCredentialKeys.1 hkey'
  have hlen : sid.length = serverId'.length := by
    rw [(validId_iff.1 hid).length, (validId_iff.1 hid').length]
  obtain ⟨rfl, hr⟩ := List.append_inj (List.append_cancel_left h) hlen
  exact ⟨rfl, suffix_injective ht ht' hr⟩

/-! ## Slots are keys that the store accepts -/

theorem isValidUtf8_of_seven_bits (h : ∀ b ∈ text, b ≤ 0x7f) : isValidUtf8 text = true := by
  induction text with
  | nil => rfl
  | cons b text ih =>
    rw [isValidUtf8.eq_def]
    simp only [if_pos (h b List.mem_cons_self)]
    exact ih fun c hc => h c (List.mem_cons_of_mem b hc)

/-- A letter of an identifier or of a slot. -/
def isKeyCharacter (b : UInt8) : Bool :=
  b ≠ 0 ∧ b ≤ 0x7f

theorem validateText_of_keyCharacters {maximum : Nat} {field : String} (hne : text ≠ [])
    (hlen : text.length ≤ maximum) (h : text.all isKeyCharacter = true) :
    validateText text 1 maximum field = .ok () := by
  have hc : ∀ b ∈ text, b ≠ 0 ∧ b ≤ 0x7f := fun b hb => by
    simpa [isKeyCharacter] using List.all_eq_true.1 h b hb
  rw [validateText_eq_ok]
  refine ⟨⟨List.length_pos_of_ne_nil hne, hlen⟩, ?_, ?_⟩
  · intro hz
    exact (hc 0 hz).1 rfl
  · exact isValidUtf8_of_seven_bits fun b hb => (hc b hb).2

theorem isKeyCharacter_of_isLowerHex {b : UInt8} (h : isLowerHex b = true) :
    isKeyCharacter b = true := by
  simp only [isLowerHex, isKeyCharacter, decide_eq_true_eq, UInt8.le_iff_toNat_le, ne_eq,
    ← UInt8.toNat_inj, UInt8.reduceToNat] at h ⊢
  omega

theorem IsId.keyCharacters (h : IsId .server text) : text.all isKeyCharacter = true := by
  have hpre : idPrefix .server <+: text := by
    have hf := List.find?_some h.kind_eq
    exact List.isPrefixOf_iff_prefix.1 hf
  obtain ⟨rest, rfl⟩ := hpre
  have hhex := h.hex
  rw [List.all_append, Bool.and_eq_true]
  refine ⟨rfl, List.all_eq_true.2 fun b hb => ?_⟩
  exact isKeyCharacter_of_isLowerHex (List.all_eq_true.1 hhex b hb)

theorem slotTail (kind : ServerCredentialKind) {tail : Bytes} (h : tail ∈ [[], ascii "/next"]) :
    (kind.suffix ++ tail).length ≤ 17 ∧ (kind.suffix ++ tail).all isKeyCharacter = true := by
  simp only [List.mem_cons, List.not_mem_nil, or_false] at h
  rcases h with rfl | rfl <;> cases kind <;> decide

theorem validateKey_slot (hid : validId .server sid = true)
    (hkey : key ∈ managedServerCredentialKeys sid kind) :
    CredentialStore.validateKey key = .ok () := by
  obtain ⟨tail, ht, rfl⟩ := mem_managedServerCredentialKeys.1 hkey
  have hid := validId_iff.1 hid
  obtain ⟨hti, htailC⟩ := slotTail kind ht
  have hlen : sid.length = 36 := hid.length
  have hpre : (ascii "server/").length = 7 := rfl
  apply validateText_of_keyCharacters
  · intro hnil
    have := congrArg List.length hnil
    simp only [List.length_append, List.length_nil] at this
    omega
  · simp only [List.length_append, maxCredentialKeyBytes] at hti ⊢
    omega
  · rw [List.all_append, List.all_append, IsId.keyCharacters hid, htailC]
    rfl

/-! ## Cleaning up -/

def addCandidate (candidates : List Bytes) (key : Bytes) : List Bytes :=
  if key ∈ candidates then candidates else candidates ++ [key]

def cleanupCandidates (serverId : Bytes) (kind : ServerCredentialKind) (referenced : Option Bytes) :
    List Bytes :=
  (referenced.toList ++ managedServerCredentialKeys serverId kind).foldl addCandidate []

/-- The result of a loop that goes on after an error and reports the first. -/
def firstErrorResult : Option Error → Result Unit
  | none => .ok ()
  | some e => .error e

def cleanupKeys (retained : Option Bytes) : Option Error → List Bytes → Procedure (Result Unit)
  | firstError, [] => pure (firstErrorResult firstError)
  | firstError, key :: keys =>
    if retained = some key then cleanupKeys retained firstError keys
    else do
      match ← Program.request (.get key) with
      | .error e =>
        cleanupKeys retained (if e.code ≠ .notFound then firstError <|> some e else firstError) keys
      | .ok _ =>
        match ← Program.request (.remove key) with
        | .error e => cleanupKeys retained (firstError <|> some e) keys
        | .ok () => cleanupKeys retained firstError keys

def cleanupServerCredentialKind (serverId : Bytes) (kind : ServerCredentialKind)
    (referenced retained : Option Bytes) : Procedure (Result Unit) :=
  if !validId .server serverId then
    pure (failure .invalidArgument "credential cleanup requires a server ID")
  else cleanupKeys retained none (cleanupCandidates serverId kind referenced)

/-- `cleanup_all_server_credentials`, over the kinds that are left. -/
def cleanupKinds (server : ServerRecord) :
    Option Error → List ServerCredentialKind → Procedure (Result Unit)
  | firstError, [] => pure (firstErrorResult firstError)
  | firstError, kind :: kinds => do
    match ← cleanupServerCredentialKind server.id kind (credentialReference server kind) none with
    | .error e => cleanupKinds server (firstError <|> some e) kinds
    | .ok () => cleanupKinds server firstError kinds

def cleanupAllServerCredentials : Procedure (Result Unit) :=
  cleanupKinds server none credentialKinds

/-! ## What cleaning up removes -/

theorem mem_foldl_addCandidate {keys candidates : List Bytes} :
    key ∈ keys.foldl addCandidate candidates ↔ key ∈ candidates ∨ key ∈ keys := by
  induction keys generalizing candidates with
  | nil => simp
  | cons head keys ih =>
    rw [List.foldl_cons, ih, List.mem_cons]
    unfold addCandidate
    split
    · next hmem =>
      constructor
      · rintro (h | h)
        · exact .inl h
        · exact .inr (.inr h)
      · rintro (h | rfl | h)
        · exact .inl h
        · exact .inl hmem
        · exact .inr h
    · rw [List.mem_append, List.mem_singleton, or_assoc]

theorem mem_cleanupCandidates {referenced : Option Bytes} :
    key ∈ cleanupCandidates sid kind referenced ↔
      referenced = some key ∨ key ∈ managedServerCredentialKeys sid kind := by
  unfold cleanupCandidates
  rw [mem_foldl_addCandidate]
  simp

/-- The state without the secrets under some keys. -/
structure Cleaned (keys : Bytes → Prop) (state state' : Durable) : Prop where
  db : state'.db = state.db
  intended : state'.intended = state.intended
  removed : ∀ key, keys key → state'.store.lookup key = none
  kept : ∀ key, ¬ keys key → state'.store.lookup key = state.store.lookup key

namespace Cleaned

variable {keys keys' : Bytes → Prop} {state state' state'' : Durable}

theorem refl (state : Durable) (h : ∀ key, keys key → state.store.lookup key = none) :
    Cleaned keys state state where
  db := rfl
  intended := rfl
  removed := h
  kept _ _ := rfl

theorem trans (h : Cleaned keys state state') (h' : Cleaned keys' state' state'') :
    Cleaned (fun key => keys key ∨ keys' key) state state'' where
  db := h'.db.trans h.db
  intended := h'.intended.trans h.intended
  removed key hkey := by
    by_cases hl : keys' key
    · exact h'.removed key hl
    · rw [h'.kept key hl]
      exact h.removed key (hkey.resolve_right hl)
  kept key hkey := by
    rw [h'.kept key fun hl => hkey (.inr hl), h.kept key fun hfst => hkey (.inl hfst)]

theorem congr (h : Cleaned keys state state') (hk : ∀ key, keys key ↔ keys' key) :
    Cleaned keys' state state' where
  db := h.db
  intended := h.intended
  removed key hkey := h.removed key ((hk key).2 hkey)
  kept key hkey := h.kept key fun hkey' => hkey ((hk key).1 hkey')

end Cleaned

section Execute

variable (state : Durable)

theorem execute_remove {key : Bytes} (hkey : CredentialStore.validateKey key = .ok ()) :
    answer (.remove key) state = .ok () ∧ Cleaned (· = key) state (after (.remove key) state) := by
  have hr : state.store.remove key = .ok (state.store.erase key) :=
    CredentialStore.remove_eq_ok.2 ⟨hkey, rfl⟩
  simp only [answer, after, hr]
  refine ⟨rfl, rfl, rfl, ?_, ?_⟩
  · rintro _ rfl
    simp
  · intro other ho
    simp [ho]

theorem execute_cleanupKeys (retained : Option Bytes) {keys : List Bytes}
    (hk : ∀ key ∈ keys, CredentialStore.validateKey key = .ok ()) (firstError : Option Error) :
    ∃ state', execute (cleanupKeys retained firstError keys) state =
        (firstErrorResult firstError, state') ∧
      Cleaned (fun key => key ∈ keys ∧ retained ≠ some key) state state' := by
  induction keys generalizing state with
  | nil =>
    refine ⟨state, rfl, Cleaned.refl state ?_⟩
    rintro key ⟨hmem, -⟩
    cases hmem
  | cons head keys ih =>
    have hh := hk head List.mem_cons_self
    have hre : ∀ key ∈ keys, CredentialStore.validateKey key = .ok () := fun key hkey =>
      hk key (List.mem_cons_of_mem head hkey)
    unfold cleanupKeys
    by_cases hr : retained = some head
    · rw [if_pos hr]
      obtain ⟨state', hrun, hc⟩ := ih state hre
      refine ⟨state', hrun, hc.congr fun key => ?_⟩
      constructor
      · rintro ⟨hmem, hne⟩
        exact ⟨List.mem_cons_of_mem head hmem, hne⟩
      · rintro ⟨hmem, hne⟩
        refine ⟨(List.mem_cons.1 hmem).resolve_left ?_, hne⟩
        rintro rfl
        exact hne hr
    rw [if_neg hr, execute_call]
    cases hl : state.store.lookup head with
    | none =>
      -- the key is absent: the loop goes on without an error
      have hget : state.store.get head = failure .notFound "credential was not found" := by
        simp only [CredentialStore.get, hh, hl]
      have hgone : Cleaned (· = head) state state := Cleaned.refl state fun key hkey => by
        rw [hkey, hl]
      simp only [answer, hget]
      obtain ⟨state', hrun, hc⟩ := ih state hre
      refine ⟨state', hrun, (hgone.trans hc).congr fun key => ?_⟩
      rw [List.mem_cons, or_and_right]
      exact or_congr_left ⟨fun h => ⟨h, by rw [h]; exact hr⟩, fun h => h.1⟩
    | some sec =>
      have hget : state.store.get head = .ok sec :=
        CredentialStore.get_eq_ok.2 ⟨hh, hl⟩
      obtain ⟨ha, hgone⟩ := execute_remove state hh
      simp only [answer, hget, after]
      rw [execute_call, ha]
      obtain ⟨state', hrun, hc⟩ := ih (after (.remove head) state) hre
      refine ⟨state', hrun, (hgone.trans hc).congr fun key => ?_⟩
      rw [List.mem_cons, or_and_right]
      exact or_congr_left ⟨fun h => ⟨h, by rw [h]; exact hr⟩, fun h => h.1⟩

theorem execute_cleanupServerCredentialKind {sid : Bytes} (kind : ServerCredentialKind)
    {referenced : Option Bytes} (retained : Option Bytes) (hid : validId .server sid = true)
    (href : ∀ key ∈ referenced, CredentialStore.validateKey key = .ok ()) :
    ∃ state', execute (cleanupServerCredentialKind sid kind referenced retained) state =
        (.ok (), state') ∧
      Cleaned (fun key => (referenced = some key ∨
        key ∈ managedServerCredentialKeys sid kind) ∧ retained ≠ some key) state state' := by
  unfold cleanupServerCredentialKind
  rw [if_neg (by simp [hid])]
  have hval : ∀ key ∈ cleanupCandidates sid kind referenced,
      CredentialStore.validateKey key = .ok () := by
    intro key hkey
    rcases mem_cleanupCandidates.1 hkey with h | h
    · exact href key h
    · exact validateKey_slot hid h
  obtain ⟨state', hrun, hc⟩ := execute_cleanupKeys state retained hval none
  refine ⟨state', hrun, hc.congr fun key => ?_⟩
  rw [mem_cleanupCandidates]

theorem execute_cleanupKinds {srv : ServerRecord} (hid : validId .server srv.id = true)
    (href : ∀ kind, ∀ key ∈ credentialReference srv kind,
      CredentialStore.validateKey key = .ok ()) (kinds : List ServerCredentialKind) :
    ∃ state', execute (cleanupKinds srv none kinds) state = (.ok (), state') ∧
      Cleaned (fun key => ∃ kind ∈ kinds, credentialReference srv kind = some key ∨
        key ∈ managedServerCredentialKeys srv.id kind) state state' := by
  induction kinds generalizing state with
  | nil => exact ⟨state, rfl, Cleaned.refl state (by simp)⟩
  | cons kind kinds ih =>
    unfold cleanupKinds
    obtain ⟨mid, hrun, hc⟩ := execute_cleanupServerCredentialKind state kind none hid (href kind)
    obtain ⟨state', hrun', hc'⟩ := ih mid
    rw [execute_bind_of_eq hrun]
    refine ⟨state', hrun', (hc.trans hc').congr fun key => ?_⟩
    simp

theorem execute_cleanupAllServerCredentials {srv : ServerRecord}
    (hid : validId .server srv.id = true)
    (href : ∀ kind, ∀ key ∈ credentialReference srv kind,
      CredentialStore.validateKey key = .ok ()) :
    ∃ state', execute (cleanupAllServerCredentials srv) state = (.ok (), state') ∧
      Cleaned (fun key => ∃ kind, credentialReference srv kind = some key ∨
        key ∈ managedServerCredentialKeys srv.id kind) state state' := by
  obtain ⟨state', hrun, hc⟩ := execute_cleanupKinds state hid href credentialKinds
  refine ⟨state', hrun, hc.congr fun key => ?_⟩
  simp only [mem_credentialKinds, true_and]

end Execute

end MiniTun.Daemon
