import Mathlib.Data.Set.Function
import MiniTun.Server.PolicyDocument

/-!
# Which policy changes are noticed

`compute_changed` compares revision fingerprints, so it notices a change exactly
if the digest sees it.  The separators that `policy_fingerprint` puts between the
fields are empty by the time they reach the digest, so what is digested is the
printed fields run together (`digestInput_eq_flatten`).

Moving the boundary between two printed fields keeps that text: a policy with 1
tunnel and 23 connections and one with 12 tunnels and 3 connections are the same
to the digest.
-/

namespace MiniTun.Server

open KeyedMap LexicalPath

/-! ## What the digest sees -/

/-- The printed fields of a policy, keys included. -/
def fieldTexts (net : AddressText) (p : PolicyFields) : List Bytes :=
  [p.clientId, if p.enabled then ascii "1" else ascii "0", decimal p.maxTunnels,
    decimal p.maxConnections, decimal p.maxIdleWorkers, decimal p.certificate.kind.index,
    p.certificate.value, decimal p.connectionsPerMinute] ++
  p.allowedPorts.map PortRange.toText ++
  p.allowedSourceCidrs.flatMap (fun cidr =>
    [net.print cidr.network, ascii "/", decimal cidr.prefixLength]) ++
  [p.psk, match p.previousPsk with
    | none => ascii "-"
    | some previous => previous.secret,
    match p.previousPsk with
    | none => ascii "-"
    | some previous => decimal previous.validUntil]

/-- Read through a `std::string_view`, the separator is empty. -/
theorem separator_eq_nil : separator = [] := rfl

theorem digestInput_eq_flatten (net : AddressText) (p : PolicyFields) :
    digestInput net p true = (fieldTexts net p).flatten := by
  have hp : (p.allowedPorts.flatMap fun range => [range.toText, []]).flatten =
      (p.allowedPorts.map PortRange.toText).flatten := by
    induction p.allowedPorts with
    | nil => rfl
    | cons range rgs ih => simp [ih]
  have hcid : (p.allowedSourceCidrs.flatMap fun cidr =>
        [net.print cidr.network, ascii "/", decimal cidr.prefixLength, []]).flatten =
      (p.allowedSourceCidrs.flatMap fun cidr =>
        [net.print cidr.network, ascii "/", decimal cidr.prefixLength]).flatten := by
    induction p.allowedSourceCidrs with
    | nil => rfl
    | cons cidr cidrs ih => simp [ih]
  simp only [digestInput, publicUpdates, secretUpdates, fieldTexts, separator_eq_nil,
    List.flatten_append, hp, hcid]
  cases p.previousPsk <;> simp

/-- Fingerprints are equal exactly if what was digested is, where the digest is injective. -/
theorem policyFingerprint_eq_iff {net : AddressText} {sha256 : Digest} {p q : PolicyFields}
    {b c : Bool} {f g : Bytes} {inputs : Set Bytes} (hsha : Set.InjOn sha256 inputs)
    (hp : digestInput net p b ∈ inputs) (hq : digestInput net q c ∈ inputs)
    (hf : policyFingerprint net sha256 p b = .ok f)
    (hg : policyFingerprint net sha256 q c = .ok g) :
    f = g ↔ digestInput net p b = digestInput net q c := by
  have hd : ∀ {r : PolicyFields} {d : Bool} {t : Bytes},
      policyFingerprint net sha256 r d = .ok t →
        ∃ digest, sha256 (digestInput net r d) = some digest ∧ t = hexEncode digest := by
    intro r d t h
    unfold policyFingerprint at h
    split at h
    · exact absurd h failure_ne_ok
    · next digest hd =>
      split at h
      · cases h
        exact ⟨digest, hd, rfl⟩
      · exact absurd h failure_ne_ok
  obtain ⟨x, hx, rfl⟩ := hd hf
  obtain ⟨y, hy, rfl⟩ := hd hg
  constructor
  · intro h
    refine hsha hp hq ?_
    rw [hx, hy, hexEncode_injective h]
  · intro h
    rw [h, hy] at hx
    cases hx
    rfl

/-- All that is digested for the policies of a snapshot. -/
def PolicySnapshot.digestInputs (net : AddressText) (s : PolicySnapshot) : Set Bytes :=
  { input | ∃ id p b, s.find id = some p ∧ input = digestInput net p.toPolicyFields b }

theorem PolicySnapshot.mem_digestInputs {net : AddressText} {s : PolicySnapshot} {id : Bytes}
    {p : ClientPolicy} (h : s.find id = some p) (b : Bool) :
    digestInput net p.toPolicyFields b ∈ s.digestInputs net :=
  ⟨id, p, b, h, rfl⟩

theorem PolicySnapshot.digestInputs_emplace_empty {net : AddressText} {p : ClientPolicy}
    {input : Bytes} (h : input ∈ (PolicySnapshot.empty.emplace p).digestInputs net) :
    ∃ b, input = digestInput net p.toPolicyFields b := by
  obtain ⟨id, q, b, hf, rfl⟩ := h
  rw [PolicySnapshot.find_emplace] at hf
  split at hf
  · cases hf
    exact ⟨b, rfl⟩
  · cases hf

/-! ## Exactness -/

/-- A client that is in one snapshot only, or whose policy differs in some
effective field. -/
def EffectiveChange (previous replacement : PolicySnapshot) (id : Bytes) : Prop :=
  (previous.find id).map ClientPolicy.toPolicyFields ≠
    (replacement.find id).map ClientPolicy.toPolicyFields

instance (previous replacement : PolicySnapshot) (id : Bytes) :
    Decidable (EffectiveChange previous replacement id) :=
  inferInstanceAs (Decidable (_ ≠ _))

/-- Two policies whose printed fields differ when they are run together. -/
def Distinguished (net : AddressText) (p q : PolicyFields) : Prop :=
  (fieldTexts net p).flatten ≠ (fieldTexts net q).flatten

theorem Distinguished.ne {net : AddressText} {p q : PolicyFields} (h : Distinguished net p q) :
    p ≠ q := by
  rintro rfl
  exact h rfl

theorem mem_computeChanged_iff {libs : Libraries} {previous replacement : PolicySnapshot}
    (hpre : previous.Fingerprinted libs.net libs.sha256)
    (hr : replacement.Fingerprinted libs.net libs.sha256)
    (hsha : Set.InjOn libs.sha256
      (previous.digestInputs libs.net ∪ replacement.digestInputs libs.net)) (id : Bytes) :
    id ∈ computeChanged previous replacement ↔
      match previous.find id, replacement.find id with
      | none, none => False
      | some p, some q => Distinguished libs.net p.toPolicyFields q.toPolicyFields
      | _, _ => True := by
  rw [mem_computeChanged]
  cases hp : previous.find id with
  | none => cases hq : replacement.find id <;> simp
  | some p =>
    cases hq : replacement.find id with
    | none => simp
    | some q =>
      have heq := policyFingerprint_eq_iff hsha (.inl (PolicySnapshot.mem_digestInputs hp true))
        (.inr (PolicySnapshot.mem_digestInputs hq true))
        (hpre id p hp).revision (hr id q hq).revision
      rw [digestInput_eq_flatten, digestInput_eq_flatten] at heq
      simp [Distinguished, heq]

/-- **Change detection is exact** exactly if every changed policy of a client
that stays prints differently. -/
theorem computeChanged_exact_iff {libs : Libraries} {fs₁ fs₂ : FileSystem}
    {document₁ document₂ : Json} {directory₁ directory₂ : Path Bytes}
    {limits₁ limits₂ : ClientPolicyLimits} {previous replacement : PolicySnapshot}
    (hprevious : buildSnapshot libs fs₁ document₁ directory₁ limits₁ = .ok previous)
    (hreplacement : buildSnapshot libs fs₂ document₂ directory₂ limits₂ = .ok replacement)
    (hsha : Set.InjOn libs.sha256
      (previous.digestInputs libs.net ∪ replacement.digestInputs libs.net)) :
    (∀ id, id ∈ computeChanged previous replacement ↔
        EffectiveChange previous replacement id) ↔
      ∀ id p q, previous.find id = some p → replacement.find id = some q →
        p.toPolicyFields ≠ q.toPolicyFields →
        Distinguished libs.net p.toPolicyFields q.toPolicyFields := by
  obtain ⟨_, _, h₁⟩ := buildSnapshot_ok hprevious
  obtain ⟨_, _, h₂⟩ := buildSnapshot_ok hreplacement
  have hmem := mem_computeChanged_iff h₁.fingerprinted h₂.fingerprinted hsha
  constructor
  · intro hexact id p q hp hq hne
    have := (hmem id).1 ((hexact id).2 (by simpa [EffectiveChange, hp, hq] using hne))
    simpa [hp, hq] using this
  · intro hprints id
    rw [hmem id]
    unfold EffectiveChange
    cases hp : previous.find id with
    | none => cases hq : replacement.find id <;> simp
    | some p =>
      cases hq : replacement.find id with
      | none => simp
      | some q =>
        simp only [Option.map_some, ne_eq, Option.some.injEq]
        exact ⟨fun h => h.ne, hprints id p q hp hq⟩

/-! ## A change that is not noticed -/

namespace Sample

def inputs : Set Bytes := { input | input ∈ answers.map Prod.fst }

instance (input : Bytes) : Decidable (input ∈ inputs) :=
  inferInstanceAs (Decidable (input ∈ answers.map Prod.fst))

theorem injOn_sha256 : Set.InjOn sha256 inputs := by
  have h : ∀ x ∈ answers.map Prod.fst, ∀ y ∈ answers.map Prod.fst,
      sha256 x = sha256 y → x = y := by
    decide +kernel
  exact fun x hx y hy => h x hx y hy

/-- No documents are parsed here. -/
def movedLibraries : Libraries := libraries ⟨fun _ => none, fun _ => [], fun _ _ => none⟩

def narrowPolicy : ClientPolicy :=
  { policy with
    maxTunnels := 1
    maxConnections := 23
    revisionFingerprint := ascii "d753bcc401d43e68d83d39e270d09314308fbce7399c300218a75c8ef6cba037"
    sessionFingerprint := ascii "dfef8d9481bbe52272892dfd9ca440afb8ebaa61fde89335303a18c66edb4680" }

def widePolicy : ClientPolicy :=
  { narrowPolicy with
    maxTunnels := 12
    maxConnections := 3 }

def narrow : PolicySnapshot := PolicySnapshot.empty.emplace narrowPolicy
def wide : PolicySnapshot := PolicySnapshot.empty.emplace widePolicy

theorem build_narrow : buildSnapshot movedLibraries disk (document [entry pskFile 1 23])
    directory limits = .ok narrow := by
  rfl

theorem build_wide : buildSnapshot movedLibraries disk (document [entry pskFile 12 3])
    directory limits = .ok wide := by
  rfl

theorem injOn_moved {p q : ClientPolicy} (hp : ∀ b, digestInput net p.toPolicyFields b ∈ inputs)
    (hq : ∀ b, digestInput net q.toPolicyFields b ∈ inputs) :
    Set.InjOn movedLibraries.sha256 ((PolicySnapshot.empty.emplace p).digestInputs net ∪
      (PolicySnapshot.empty.emplace q).digestInputs net) := by
  refine injOn_sha256.mono ?_
  rintro input (h | h)
  · obtain ⟨b, rfl⟩ := PolicySnapshot.digestInputs_emplace_empty h
    exact hp b
  · obtain ⟨b, rfl⟩ := PolicySnapshot.digestInputs_emplace_empty h
    exact hq b

end Sample

open Sample

/-- From 4 tunnels and 8 connections to 1 and 23. -/
theorem computeChanged_exact_narrowed :
    EffectiveChange (PolicySnapshot.empty.emplace policy) narrow clientId ∧
      clientId ∈ computeChanged (PolicySnapshot.empty.emplace policy) narrow := by
  have hbuild : buildSnapshot movedLibraries disk (document [entry pskFile 4 8]) directory
      limits = .ok (PolicySnapshot.empty.emplace policy) := rfl
  have hchange : EffectiveChange (PolicySnapshot.empty.emplace policy) narrow clientId := by
    decide +kernel
  refine ⟨hchange, ((computeChanged_exact_iff hbuild build_narrow
    (injOn_moved (by decide +kernel) (by decide +kernel))).2 ?_ clientId).2 hchange⟩
  intro id p q hp hq _
  rw [PolicySnapshot.find_emplace] at hp
  rw [narrow, PolicySnapshot.find_emplace] at hq
  split at hp <;> cases hp
  split at hq <;> cases hq
  unfold Distinguished
  decide +kernel

/-- From 1 tunnel and 23 connections to 12 tunnels and 3 connections: the policy
changes, the bytes fed to the digest do not, and the client is not reported. -/
theorem moved_digit_unnoticed :
    buildSnapshot movedLibraries disk (document [entry pskFile 1 23]) directory limits =
      .ok narrow ∧
    buildSnapshot movedLibraries disk (document [entry pskFile 12 3]) directory limits =
      .ok wide ∧
    Set.InjOn movedLibraries.sha256 (narrow.digestInputs movedLibraries.net ∪
        wide.digestInputs movedLibraries.net) ∧
    EffectiveChange narrow wide clientId ∧
    digestInput net narrowPolicy.toPolicyFields true =
      digestInput net widePolicy.toPolicyFields true ∧
    clientId ∉ computeChanged narrow wide :=
  ⟨build_narrow, build_wide, injOn_moved (by decide +kernel) (by decide +kernel),
    by decide +kernel, by decide +kernel, by decide +kernel⟩

end MiniTun.Server
