import MiniTun.Storage.Database

/-!
# Endpoints in the database

`Endpoint::parse` also records which of its branches it took, and `to_string` prints by
that kind.  Storage keeps an endpoint as its text or as a host and a port, and builds it
again through `parse`.  So the round trip is about two printers and one parser: the
printers agree on what `parse` accepts, and the text takes the branch the endpoint came
from (`text_of_parse`).
-/

namespace MiniTun

namespace Endpoint

inductive Kind where
  | domainName
  | ipv4
  | ipv6
deriving Repr, DecidableEq

/-- The branch of `parse` that takes a text. -/
def kindOfText (value : Bytes) : Kind :=
  if value.head? = some openBracket then .ipv6
  else if isValidIpv4Text ((value.splitOn colon).headD []) then .ipv4
  else .domainName

/-- `Endpoint::parse`, with the kind it stores. -/
def parseKind (net : AddressFamilies) (value : Bytes) : Result (Endpoint × Kind) :=
  (parse net value).map (·, kindOfText value)

def print (endpoint : Endpoint) (kind : Kind) : Bytes :=
  if kind = .ipv6 then
    openBracket :: endpoint.host ++ [closeBracket, colon] ++ decimal endpoint.port
  else endpoint.host ++ [colon] ++ decimal endpoint.port

/-- A label that is a number: decimal digits, or `0x` and hexadecimal digits. -/
def IsNumericLabel (label : Bytes) : Prop :=
  (∀ b ∈ label, isDigit b = true) ∨
    ∃ digits, label = ascii "0x" ++ digits ∧ digits ≠ [] ∧ ∀ b ∈ digits, isAsciiHexDigit b = true

/-- A label in lower case: letters, digits and hyphens, a hyphen only inside. -/
structure IsNameLabel (label : Bytes) : Prop where
  length : 1 ≤ label.length ∧ label.length ≤ 63
  bytes : ∀ b ∈ label, (97 ≤ b.toNat ∧ b.toNat ≤ 122) ∨ isDigit b = true ∨ b = hyphen
  inner : label.head? ≠ some hyphen ∧ label.getLast? ≠ some hyphen

/-! ## Names -/

theorem isLegacyNumericComponent_of_numeric {label : Bytes} (hne : label ≠ [])
    (h : IsNumericLabel label) : isLegacyNumericComponent label = true := by
  rcases h with hd | ⟨digs, rfl, hnil, hhex⟩
  · have hall : label.all isDigit = true := List.all_eq_true.2 hd
    simp [isLegacyNumericComponent, hne, hall]
  · have hall : digs.all isAsciiHexDigit = true := List.all_eq_true.2 hhex
    have ha : ascii "0x" ++ digs = 48 :: 120 :: digs := rfl
    rw [ha]
    simp [isLegacyNumericComponent, hnil, hall]

/-- Components that are all numbers make a legacy name, with or without a dot behind them. -/
theorem isLegacyNumericName_of_all {comps : List Bytes} (hne : comps ≠ [])
    (h : ∀ comp ∈ comps, isLegacyNumericComponent comp = true) :
    isLegacyNumericName comps = true ∧
      isLegacyNumericName (comps ++ [[]]) = true := by
  induction comps with
  | nil => exact absurd rfl hne
  | cons comp rest ih =>
    have hfst := h comp (by simp)
    cases rest with
    | nil => exact ⟨hfst, hfst⟩
    | cons next rest =>
      obtain ⟨hp, hdot⟩ := ih (by simp) fun other ho => h other (by simp [ho])
      have hn : next ≠ [] := by
        rintro rfl
        have := h [] (by simp)
        simp [isLegacyNumericComponent] at this
      have hs : ∀ tail, isLegacyNumericName (comp :: next :: tail) =
          (isLegacyNumericComponent comp && isLegacyNumericName (next :: tail)) :=
        fun tail => isLegacyNumericName.eq_4 _ _ (by simp) (by simp [hn])
      rw [List.cons_append] at hdot
      rw [List.cons_append, List.cons_append, hs, hs, hfst, hp, hdot]
      exact ⟨rfl, rfl⟩

/-- What is no legacy name has a label that is no number. -/
theorem exists_not_numeric {host : Bytes} (hval : isValidDomainName host = true)
    (h : isLegacyNumericName (host.splitOn dot) = false) :
    ∃ label ∈ labels host, ¬ IsNumericLabel label := by
  by_contra hno
  push Not at hno
  have hall : ∀ label ∈ labels host, isLegacyNumericComponent label = true := by
    intro label hlb
    have hlb' := (isValidDomainName_iff.1 hval).2.2 label hlb
    refine isLegacyNumericComponent_of_numeric ?_ (hno label hlb)
    rintro rfl
    cases hlb'
  obtain ⟨hp, hdot⟩ := isLegacyNumericName_of_all (List.splitOn_ne_nil _ _) hall
  by_cases hl : host.getLast? = some dot
  · obtain ⟨front, rfl⟩ := List.getLast?_eq_some_iff.1 hl
    rw [if_pos hl, List.dropLast_concat] at hdot
    rw [List.splitOn_append_cons_self, List.splitOn_nil, hdot] at h
    cases h
  · rw [if_neg hl, h] at hp
    cases hp

theorem isNameLabel_of_lower {host label : Bytes} (hval : isValidDomainName host = true)
    (hl : label ∈ labels (host.map lowerAscii)) : IsNameLabel label := by
  rw [labels_map_lower] at hl
  obtain ⟨typed, ht, rfl⟩ := List.mem_map.1 hl
  have h := (isValidDomainName_iff.1 hval).2.2 typed ht
  rw [← isLabel_map_lower] at h
  simp only [isLabel, Bool.and_eq_true, decide_eq_true_eq, maxDomainLabelLength,
    List.all_eq_true] at h
  obtain ⟨⟨⟨⟨hne, hlen⟩, hh⟩, hla⟩, hby⟩ := h
  refine ⟨⟨List.length_pos_iff.2 hne, of_decide_eq_true hlen⟩, fun b hb => ?_, hh, hla⟩
  have hch := hby b hb
  simp only [isDomainCharacter, Bool.or_eq_true, decide_eq_true_eq, isAsciiLetter_iff] at hch
  obtain ⟨c, -, rfl⟩ := List.mem_map.1 hb
  have hs : ¬ (65 ≤ (lowerAscii c).toNat ∧ (lowerAscii c).toNat ≤ 90) := by
    rcases lowerAscii_cases c with ⟨h65, h90, hc⟩ | ⟨hout, hc⟩
    · omega
    · rwa [hc]
  tauto

/-! ## Printing and parsing again -/

section RoundTrip

variable {net : AddressFamilies} {val : Bytes} {ep : Endpoint} {kind : Kind}

theorem parseKind_eq_ok :
    parseKind net val = .ok (ep, kind) ↔
      parse net val = .ok ep ∧ kind = kindOfText val := by
  rw [parseKind, map_eq_ok]
  constructor
  · rintro ⟨_, hp, heq⟩
    cases heq
    exact ⟨hp, rfl⟩
  · rintro ⟨hp, rfl⟩
    exact ⟨ep, hp, rfl⟩

/-- Only a version 6 address has a colon in its text, and only it takes the first branch. -/
theorem text_of_parse (hnet : Documented net) (h : parse net val = .ok ep) :
    ep.text = ep.print (kindOfText val) ∧
      kindOfText ep.text = kindOfText val := by
  obtain ⟨-, ⟨hhd, typed, address, hsc, hmk, hh⟩ | ⟨hhd, typed, rest, hsp, hh⟩⟩ :=
    parse_ok h
  · obtain ⟨-, hc, -⟩ := hnet.printV6_groups typed address hsc hmk
    rw [← hh] at hc
    have ht : ep.text =
        openBracket :: ep.host ++ [closeBracket, colon] ++ decimal ep.port := by
      simp [text, hc]
    rw [ht]
    simp [print, kindOfText, hhd]
  · obtain ⟨-, hne, -, hby⟩ := parseHost_ok hnet hh
    have hc : colon ∉ ep.host := fun hmem =>
      (isHostByte_plain (hby colon hmem)).2.1 rfl
    have ht : ep.text = ep.host ++ [colon] ++ decimal ep.port := by
      simp [text, hc]
    have hs : isValidIpv4Text ep.host = isValidIpv4Text typed := by
      rcases parseHost_cases hh with ⟨hv4, address, heq⟩ | ⟨-, -, -, heq⟩
      · rw [heq, hnet.printV4_dotted, hv4]
      · rw [heq, isValidIpv4Text_map_lower]
    have hk : kindOfText val = if isValidIpv4Text typed then .ipv4 else .domainName := by
      rw [kindOfText, if_neg hhd, hsp]
      rfl
    have hfst : ep.text.head? ≠ some openBracket := by
      obtain ⟨first, tail, heq⟩ := List.exists_cons_of_ne_nil hne
      have := (isHostByte_plain (hby first (by simp [heq]))).2.2
      simpa [ht, heq] using this
    have hp : ep.text.splitOn colon =
        ep.host :: (decimal ep.port).splitOn colon := by
      rw [ht, List.append_assoc, List.singleton_append,
        List.splitOn_append_cons_self_of_not_mem hc]
    constructor
    · rw [ht, print]
      rw [hk]
      split <;> simp
    · rw [kindOfText, if_neg hfst, hp, List.headD_cons, hs, hk]

end RoundTrip

end Endpoint

namespace Storage

open Endpoint

variable (net : AddressFamilies)

/-- `read_endpoint`, on the text column. -/
def readEndpointText (text : Bytes) (field : String) : Result (Endpoint × Kind) :=
  match parseKind net text with
  | .error _ => corruptField field
  | .ok (parsed, kind) =>
    if parsed.print kind ≠ text then corruptField field else .ok (parsed, kind)

/-- `read_split_endpoint`, on the host and port columns. -/
def readHostAndPort (host : Bytes) (port : Int) (field : String) : Result (Endpoint × Kind) :=
  if port < 1 ∨ 65535 < port then corruptField field
  else match parseKind net (Endpoint.text ⟨host, port.toNat⟩) with
    | .error _ => corruptField field
    | .ok (parsed, kind) =>
      if parsed.host ≠ host ∨ parsed.port ≠ port.toNat then corruptField field
      else .ok (parsed, kind)

/-- **Endpoints are canonical**: what is accepted prints to a text that gives the same
endpoint and kind, a name is in lower case and never a legacy address, and both forms
storage keeps read back. -/
theorem endpoint_canonical {net : AddressFamilies} (hnet : Documented net) {value : Bytes}
    {endpoint : Endpoint} {kind : Kind} (h : parseKind net value = .ok (endpoint, kind)) :
    parseKind net (endpoint.print kind) = .ok (endpoint, kind) ∧
    (kind = .domainName →
      (∃ label ∈ labels endpoint.host, ¬ IsNumericLabel label) ∧
        ∀ label ∈ labels endpoint.host, IsNameLabel label) ∧
    ∀ field, readEndpointText net (endpoint.print kind) field = .ok (endpoint, kind) ∧
      readHostAndPort net endpoint.host endpoint.port field = .ok (endpoint, kind) := by
  obtain ⟨hparse, rfl⟩ := parseKind_eq_ok.1 h
  obtain ⟨htext, hkind⟩ := text_of_parse hnet hparse
  have hagain : parseKind net endpoint.text = .ok (endpoint, kindOfText value) :=
    parseKind_eq_ok.2 ⟨parse_text hnet hparse, hkind.symm⟩
  obtain ⟨hport, hhost⟩ := parse_ok hparse
  refine ⟨htext ▸ hagain, fun hname => ?_, fun field => ⟨?_, ?_⟩⟩
  · -- of the three branches only the last one makes a name
    rcases hhost with ⟨hhead, -⟩ | ⟨hhead, typed, rest, hsplit, hhost⟩
    · rw [kindOfText, if_pos hhead] at hname
      cases hname
    rcases parseHost_cases hhost with ⟨hv4, -⟩ | ⟨-, hlegacy, hvalid, heq⟩
    · rw [kindOfText, if_neg hhead, hsplit, List.headD_cons, if_pos hv4] at hname
      cases hname
    rw [heq]
    refine ⟨exists_not_numeric ?_ ?_, fun label => isNameLabel_of_lower hvalid⟩
    · rw [isValidDomainName_map_lower, hvalid]
    · rw [splitOn_map_lower, isLegacyNumericName_map_lower, hlegacy]
  · rw [readEndpointText, ← htext, hagain]
    exact if_neg (not_not.2 htext.symm)
  · have hrange : ¬ ((endpoint.port : Int) < 1 ∨ 65535 < (endpoint.port : Int)) := by omega
    rw [readHostAndPort, if_neg hrange, Int.toNat_natCast, hagain]
    exact if_neg (by simp)

/-- A name typed in capitals with a dot at the end is kept in lower case. -/
theorem endpoint_canonical_name :
    parseKind plainFamilies (ascii "Db-1.EXAMPLE.:5432") =
      .ok (⟨ascii "db-1.example.", 5432⟩, .domainName) ∧
    ∀ field, readEndpointText plainFamilies (ascii "db-1.example.:5432") field =
      .ok (⟨ascii "db-1.example.", 5432⟩, .domainName) := by
  have hparse : parseKind plainFamilies (ascii "Db-1.EXAMPLE.:5432") =
      .ok (⟨ascii "db-1.example.", 5432⟩, .domainName) := by rfl
  exact ⟨hparse, fun field => ((endpoint_canonical documented_plainFamilies hparse).2.2 field).1⟩

end Storage

end MiniTun
