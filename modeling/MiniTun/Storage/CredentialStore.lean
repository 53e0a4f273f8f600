import MiniTun.Lib.KeyedMap
import MiniTun.Storage.Records

/-!
# The credential store

`CredentialStore`: secrets under text keys, in a database of their own.  An operation
either takes effect or fails and changes nothing.
-/

namespace MiniTun.Storage

open KeyedMap

def maxCredentialKeyBytes : Nat := 256
def maxCredentialSecretBytes : Nat := 64 * 1024

/-- The `credentials` table, with its `CHECK` on secrets. -/
structure CredentialStore where
  secrets : Map Bytes Bytes
  sized : ∀ key secret, secrets.lookup key = some secret →
    1 ≤ secret.length ∧ secret.length ≤ maxCredentialSecretBytes

namespace CredentialStore

theorem sized_empty (key sec : Bytes) (h : (∅ : Map Bytes Bytes).lookup key = some sec) :
    1 ≤ sec.length ∧ sec.length ≤ maxCredentialSecretBytes := by
  cases h

def empty : CredentialStore where
  secrets := ∅
  sized := sized_empty

section Calls

variable (store : CredentialStore)

def lookup (key : Bytes) : Option Bytes :=
  store.secrets.lookup key

def validateKey (key : Bytes) : Result Unit :=
  validateText key 1 maxCredentialKeyBytes "credential key"

def validateSecret (secret : Bytes) : Result Unit :=
  if secret = [] ∨ maxCredentialSecretBytes < secret.length then
    failure .invalidArgument "credential secret is outside its byte-length limit"
  else if (0 : UInt8) ∈ secret then
    failure .invalidArgument "credential secret must not contain NUL bytes"
  else .ok ()

theorem validateSecret_eq_ok {sec : Bytes} :
    validateSecret sec = .ok () ↔ sec ≠ [] ∧ sec.length ≤ maxCredentialSecretBytes ∧
      (0 : UInt8) ∉ sec := by
  unfold validateSecret
  by_cases hlen : sec = [] ∨ maxCredentialSecretBytes < sec.length
  · rw [if_pos hlen]
    refine iff_of_false failure_ne_ok ?_
    rintro ⟨hne, hle, -⟩
    rcases hlen with h | h
    · exact hne h
    · omega
  rw [if_neg hlen]
  simp only [not_or, Nat.not_lt] at hlen
  by_cases hz : (0 : UInt8) ∈ sec
  · rw [if_pos hz]
    exact iff_of_false failure_ne_ok fun h => h.2.2 hz
  · rw [if_neg hz]
    exact iff_of_true rfl ⟨hlen.1, hlen.2, hz⟩

theorem sized_insert {key sec : Bytes} (h : validateSecret sec = .ok ())
    (other found : Bytes) (hf : (store.secrets.insert key sec).lookup other = some found) :
    1 ≤ found.length ∧ found.length ≤ maxCredentialSecretBytes := by
  rw [lookup_insert_eq_ite] at hf
  split at hf
  · cases hf
    obtain ⟨hne, hle, -⟩ := validateSecret_eq_ok.1 h
    exact ⟨List.length_pos_of_ne_nil hne, hle⟩
  · exact store.sized other found hf

theorem sized_erase (key other found : Bytes)
    (hf : (store.secrets.erase key).lookup other = some found) :
    1 ≤ found.length ∧ found.length ≤ maxCredentialSecretBytes := by
  exact store.sized other found (lookup_of_erase hf)

/-- The upsert of `put`. -/
def insert (key secret : Bytes) (h : validateSecret secret = .ok ()) : CredentialStore where
  secrets := store.secrets.insert key secret
  sized := store.sized_insert h

def erase (key : Bytes) : CredentialStore where
  secrets := store.secrets.erase key
  sized := store.sized_erase key

def put (key secret : Bytes) : Result CredentialStore :=
  match validateKey key with
  | .error e => .error e
  | .ok () =>
    match h : validateSecret secret with
    | .error e => .error e
    | .ok () => .ok (store.insert key secret h)

/-- `SqliteCredentialStore::get`.  The sizes that it checks again are those of the
table. -/
def get (key : Bytes) : Result Bytes :=
  match validateKey key with
  | .error e => .error e
  | .ok () =>
    match store.lookup key with
    | none => failure .notFound "credential was not found"
    | some secret => .ok secret

def remove (key : Bytes) : Result CredentialStore :=
  match validateKey key with
  | .error e => .error e
  | .ok () => .ok (store.erase key)

end Calls

/-! ## What the operations do -/

variable {store store' : CredentialStore} {key other sec : Bytes}

@[simp] theorem lookup_erase :
    (store.erase key).lookup other = if other = key then none else store.lookup other :=
  lookup_erase_eq_ite _ _ _

theorem remove_eq_ok :
    store.remove key = .ok store' ↔ validateKey key = .ok () ∧ store' = store.erase key := by
  unfold remove
  cases hkey : validateKey key with
  | error e => simp
  | ok u =>
    simp only [Except.ok.injEq, true_and]
    exact eq_comm

theorem get_eq_ok :
    store.get key = .ok sec ↔ validateKey key = .ok () ∧ store.lookup key = some sec := by
  unfold get
  cases hkey : validateKey key with
  | error e => simp
  | ok u =>
    cases hl : store.lookup key with
    | none => simp [failure]
    | some found => simp

end CredentialStore

end MiniTun.Storage
