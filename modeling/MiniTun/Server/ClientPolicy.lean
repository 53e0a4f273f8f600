import Mathlib.Data.List.Sort
import MiniTun.Common.Address
import MiniTun.Common.PortRange
import MiniTun.Lib.KeyedMap

/-!
# Client policies and their fingerprints

A `server::ClientPolicy` is a set of effective fields and two digests of them.
The revision fingerprint covers every field and decides what counts as a policy
change; the session fingerprint leaves the key material out, so that a rotation
alone does not disturb a session.

`policy_fingerprint` feeds the printed fields to the digest one after the other,
each followed by the literal `"\\0"`.  The literal passes through a
`std::string_view` parameter, which takes its length from the first NUL:
`separator` keeps that conversion.
-/

namespace MiniTun.Server

open KeyedMap

inductive CertificateBindingKind where
  | none
  | sha256
  | san
deriving Repr, DecidableEq

def CertificateBindingKind.index : CertificateBindingKind → Nat
  | .none => 0
  | .sha256 => 1
  | .san => 2

structure CertificateBinding where
  kind : CertificateBindingKind
  value : Bytes
deriving DecidableEq

structure SourceCidr where
  network : Address
  prefixLength : Nat
deriving DecidableEq

/-- `previous_psk` with `previous_psk_valid_until`, which are present together
or not at all. -/
structure PreviousPsk where
  secret : Bytes
  validUntil : Nat
deriving DecidableEq

/-- The effective fields of a `ClientPolicy`. -/
structure PolicyFields where
  clientId : Bytes
  enabled : Bool
  psk : Bytes
  previousPsk : Option PreviousPsk
  allowedPorts : List PortRange
  maxTunnels : Nat
  maxConnections : Nat
  maxIdleWorkers : Nat
  certificate : CertificateBinding
  allowedSourceCidrs : List SourceCidr
  connectionsPerMinute : Nat
deriving DecidableEq

structure ClientPolicy extends PolicyFields where
  revisionFingerprint : Bytes
  sessionFingerprint : Bytes
deriving DecidableEq

/-- The same policy with other key material. -/
def PolicyFields.withKeys (p : PolicyFields) (psk : Bytes) (previousPsk : Option PreviousPsk) :
    PolicyFields :=
  { p with psk := psk, previousPsk := previousPsk }

def PolicyFields.allowsPort (p : PolicyFields) (port : Nat) : Bool :=
  p.allowedPorts.any fun range => range.contains port

def PolicyFields.rotationPsk (p : PolicyFields) (unixSecondsNow : Int) : Option Bytes :=
  match p.previousPsk with
  | none => none
  | some previous =>
    if (previous.validUntil : Int) ≤ unixSecondsNow then none else some previous.secret

/-! ## Fingerprints -/

/-- SHA-256 as the cryptographic library computes it; `none` where it fails. -/
abbrev Digest := Bytes → Option Bytes

/-- The separator `"\\0"` as the digest receives it. -/
def separator : Bytes := cString [0]

/-- The calls of `update` on the fields that do not hold key material. -/
def publicUpdates (net : AddressText) (p : PolicyFields) : List Bytes :=
  [p.clientId, separator, if p.enabled then ascii "1" else ascii "0", separator,
    decimal p.maxTunnels, separator, decimal p.maxConnections, separator,
    decimal p.maxIdleWorkers, separator, decimal p.certificate.kind.index, separator,
    p.certificate.value, separator, decimal p.connectionsPerMinute, separator] ++
  p.allowedPorts.flatMap (fun range => [range.toText, separator]) ++
  p.allowedSourceCidrs.flatMap fun cidr =>
    [net.print cidr.network, ascii "/", decimal cidr.prefixLength, separator]

/-- The calls of `update` on the key material. -/
def secretUpdates (p : PolicyFields) : List Bytes :=
  [p.psk,
    match p.previousPsk with
    | none => ascii "-"
    | some previous => previous.secret,
    separator,
    match p.previousPsk with
    | none => ascii "-"
    | some previous => decimal previous.validUntil,
    separator]

def digestInput (net : AddressText) (p : PolicyFields) (includeSecrets : Bool) : Bytes :=
  (publicUpdates net p ++ if includeSecrets then secretUpdates p else []).flatten

def policyFingerprint (net : AddressText) (sha256 : Digest) (p : PolicyFields)
    (includeSecrets : Bool) : Result Bytes :=
  match sha256 (digestInput net p includeSecrets) with
  | none => failure .internalError "failed to compute policy digest"
  | some digest =>
    if digest.length = 32 then .ok (hexEncode digest)
    else failure .internalError "failed to compute policy digest"

/-- The two digests of a policy are those of its own fields. -/
structure Fingerprinted (net : AddressText) (sha256 : Digest) (p : ClientPolicy) : Prop where
  revision : policyFingerprint net sha256 p.toPolicyFields true = .ok p.revisionFingerprint
  session : policyFingerprint net sha256 p.toPolicyFields false = .ok p.sessionFingerprint

/-! ## Snapshots -/

/-- `ClientPolicySnapshot`: the policies of one document by client. -/
structure PolicySnapshot where
  policies : Map Bytes ClientPolicy
  wellKeyed : ∀ id p, policies.lookup id = some p → p.clientId = id

namespace PolicySnapshot

def empty : PolicySnapshot :=
  ⟨∅, fun id p h => by simp at h⟩

section Snapshot

variable (s : PolicySnapshot)

def find (clientId : Bytes) : Option ClientPolicy :=
  s.policies.lookup clientId

/-- Add the policy of a client that has none. -/
def emplace (p : ClientPolicy) : PolicySnapshot :=
  ⟨s.policies.insert p.clientId p, by
    intro id q hq
    rw [lookup_insert_eq_ite] at hq
    split at hq
    · next hid => cases hq; exact hid.symm
    · exact s.wellKeyed id q hq⟩

def hasCertificateBindings : Bool :=
  s.policies.entries.any fun e => e.2.certificate.kind ≠ .none

/-- Every policy's digests are those of its own fields. -/
def Fingerprinted (net : AddressText) (sha256 : Digest) (s : PolicySnapshot) : Prop :=
  ∀ id p, s.find id = some p → Server.Fingerprinted net sha256 p

theorem find_emplace (p : ClientPolicy) (id : Bytes) :
    (s.emplace p).find id = if id = p.clientId then some p else s.find id :=
  lookup_insert_eq_ite _ _ _ _

theorem mem_keys_iff (id : Bytes) : id ∈ s.policies.keys ↔ s.find id ≠ none := by
  rw [← AList.mem_keys, ← AList.lookup_isSome, find, Option.isSome_iff_ne_none]

end Snapshot

end PolicySnapshot

/-- `ClientPolicyStore::compute_changed`; the result is an ordered set. -/
def computeChanged (previous replacement : PolicySnapshot) : List Bytes :=
  let altered := previous.policies.keys.filter fun id =>
    match previous.find id, replacement.find id with
    | some policy, some current => current.revisionFingerprint ≠ policy.revisionFingerprint
    | _, none => true
    | none, _ => false
  let added := replacement.policies.keys.filter fun id => previous.find id = none
  (altered ++ added).insertionSort fun a b => ¬ b < a

theorem mem_computeChanged {prev new : PolicySnapshot} {id : Bytes} :
    id ∈ computeChanged prev new ↔
      (prev.find id).map ClientPolicy.revisionFingerprint ≠
        (new.find id).map ClientPolicy.revisionFingerprint := by
  unfold computeChanged
  simp only [List.mem_insertionSort, List.mem_append, List.mem_filter, PolicySnapshot.mem_keys_iff]
  cases hp : prev.find id with
  | none => cases hr : new.find id <;> simp
  | some p =>
    cases hr : new.find id with
    | none => simp
    | some q => simpa using ne_comm

/-! ## A client for concrete runs -/

namespace Sample

def clientId : Bytes := ascii "client_00112233445566778899aabbccddeeff"

def loopback : Bytes := ascii "127.0.0.1"

/-- The library's answers on the one address the samples use. -/
def net : AddressText where
  make := fun text => if text = loopback then some (.v4 0x7f000001#32) else none
  print := fun address => if address = .v4 0x7f000001#32 then loopback else []

def ports : PortRange := ⟨6000, 6010, by decide, by decide, by decide⟩

def policy : ClientPolicy where
  clientId := clientId
  enabled := true
  psk := ascii "secret"
  previousPsk := none
  allowedPorts := [ports]
  maxTunnels := 4
  maxConnections := 8
  maxIdleWorkers := 2
  certificate := ⟨.none, []⟩
  allowedSourceCidrs := []
  connectionsPerMinute := 0
  revisionFingerprint := ascii "15965c15235b5051a42bdf34565a150332f9a13c61fd977005530cdf9fef32ef"
  sessionFingerprint := ascii "05037270f52e9d96957c14703b3c80cb745751df93a854186cecf88fa2da0d62"

theorem policy_clientId (p : ClientPolicy) (h : some policy = some p) : p.clientId = clientId := by
  cases h
  rfl

def raisedPolicy : ClientPolicy :=
  { policy with
    maxTunnels := 5
    revisionFingerprint := ascii "3bdb41072f3d03374647e5e909c3aa75e1f40a45749ee4342425bd9f3be1588c"
    sessionFingerprint := ascii "42a2f4528878e4248fdc1d7adf459ba3aa50aeeceeb79fa8659d44804cc9312c" }

def rotatedPolicy : ClientPolicy :=
  { policy with
    psk := ascii "rotated"
    previousPsk := some ⟨ascii "secret", 1700000600⟩
    revisionFingerprint :=
      ascii "8ffc4116e84b11bf09fbb9394ddfc825b8870bf7154c525a09db943dd28dc010" }

end Sample

end MiniTun.Server
