import MiniTun.Common.Bytes
import MiniTun.Common.Result

/-!
# Identifiers

`common::Id`.  An identifier is a prefix that names its kind followed by 32
lowercase hexadecimal characters.  Values are only made by `parse`, so an `Id`
carries the proof of that shape.
-/

namespace MiniTun

inductive IdKind where
  | server
  | tunnel
  | request
  | client
  | connection
deriving Repr, DecidableEq

def idPrefix : IdKind → Bytes
  | .server => ascii "srv_"
  | .tunnel => ascii "tun_"
  | .request => ascii "req_"
  | .client => ascii "client_"
  | .connection => ascii "conn_"

/-- `kIdKinds`, in the order in which `find_kind` tries them. -/
def idKinds : List IdKind :=
  [.server, .tunnel, .request, .client, .connection]

def idHexCharacters : Nat := 32

def findKind (text : Bytes) : Option IdKind :=
  idKinds.find? fun kind => (idPrefix kind).isPrefixOf text

/-- The canonical form of an identifier of the given kind. -/
structure IsId (kind : IdKind) (text : Bytes) : Prop where
  kind_eq : findKind text = some kind
  length_eq : (text.drop (idPrefix kind).length).length = idHexCharacters
  hex : (text.drop (idPrefix kind).length).all isLowerHex = true

structure Id where
  kind : IdKind
  text : Bytes
  canonical : IsId kind text

def Id.parse (text : Bytes) : Result Id :=
  if text = [] then failure .invalidArgument "ID must not be empty"
  else match hkind : findKind text with
    | none => failure .invalidArgument "ID has an unknown prefix"
    | some kind =>
      if hlength : (text.drop (idPrefix kind).length).length = idHexCharacters then
        if hhex : (text.drop (idPrefix kind).length).all isLowerHex = true then
          .ok ⟨kind, text, hkind, hlength, hhex⟩
        else failure .invalidArgument "ID contains a non-lowercase-hexadecimal character"
      else failure .invalidArgument
        "ID must have exactly 32 lowercase hexadecimal characters after its prefix"

def Id.parseKind (text : Bytes) (expected : IdKind) : Result Id :=
  match Id.parse text with
  | .error e => .error e
  | .ok id =>
    if id.kind = expected then .ok id
    else failure .invalidArgument "ID kind does not match the expected kind"

/-- Whether `Id::parse(text, expected_kind)` succeeds. -/
def validId (expected : IdKind) (text : Bytes) : Bool :=
  (Id.parseKind text expected).isOk

variable {text : Bytes}

theorem Id.parse_ok_iff {id : Id} : Id.parse text = .ok id ↔ id.text = text := by
  constructor
  · intro h
    unfold Id.parse at h
    split at h
    · cases h
    · split at h
      · cases h
      · split at h
        · split at h
          · cases h; rfl
          · cases h
        · cases h
  · rintro rfl
    obtain ⟨kind, text, hk, hlen, hhex⟩ := id
    have hne : text ≠ [] := by
      rintro rfl
      cases kind <;> simp [idHexCharacters] at hlen
    unfold Id.parse
    rw [if_neg hne]
    split
    · next h => rw [hk] at h; cases h
    · next k h =>
      rw [hk] at h
      cases h
      rw [dif_pos hlen, dif_pos hhex]

theorem Id.parseKind_ok_iff {expected : IdKind} {id : Id} :
    Id.parseKind text expected = .ok id ↔ id.text = text ∧ id.kind = expected := by
  unfold Id.parseKind
  constructor
  · intro h
    split at h
    · cases h
    · next parsed hp =>
      split at h
      · next hk => cases h; exact ⟨Id.parse_ok_iff.1 hp, hk⟩
      · cases h
  · rintro ⟨ht, hki⟩
    rw [Id.parse_ok_iff.2 ht]
    simp [hki]

theorem validId_iff {expected : IdKind} : validId expected text = true ↔ IsId expected text := by
  unfold validId
  constructor
  · intro h
    cases hp : Id.parseKind text expected with
    | error e => rw [hp] at h; cases h
    | ok id =>
      obtain ⟨ht, hk⟩ := Id.parseKind_ok_iff.1 hp
      exact ht ▸ hk ▸ id.canonical
  · intro h
    have hp : Id.parseKind text expected = .ok ⟨expected, text, h⟩ :=
      Id.parseKind_ok_iff.2 ⟨rfl, rfl⟩
    rw [hp]
    rfl

theorem IsId.length {kind : IdKind} (h : IsId kind text) :
    text.length = (idPrefix kind).length + 32 := by
  have := h.length_eq
  simp only [List.length_drop, idHexCharacters] at this
  omega

end MiniTun
