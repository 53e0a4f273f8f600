import Mathlib.Data.Nat.Pairing
import MiniTun.Common.Address
import MiniTun.Common.Result

/-!
# Endpoints

`common::Endpoint`.  An endpoint is only made by `parse`, which brings the host
into a canonical spelling: the library's for an address, lower case for a name.
Storage writes that spelling and parses it again, so what matters is that an
endpoint's own text is accepted and gives the endpoint back (`parse_text`).
-/

namespace MiniTun

/-- `asio::ip::make_address_v4`, `make_address_v6` and the two `to_string`s.  A version
6 address has a scope identifier. -/
structure AddressFamilies where
  makeV4 : Bytes → Option (BitVec 32)
  printV4 : BitVec 32 → Bytes
  makeV6 : Bytes → Option (BitVec 128 × Nat)
  printV6 : BitVec 128 × Nat → Bytes

def makeAddress (net : AddressFamilies) (host : Bytes) : Option Address :=
  match net.makeV6 host with
  | some (bits, scope) => some (.v6 bits scope)
  | none => (net.makeV4 host).map .v4

namespace Endpoint

def maxDomainLength : Nat := 253
def maxDomainLabelLength : Nat := 63
def maxEndpointTextLength : Nat := 260
def maxPortTextLength : Nat := 5

def dot : UInt8 := 46
def colon : UInt8 := 58
def openBracket : UInt8 := 91
def closeBracket : UInt8 := 93
def percent : UInt8 := 37
def hyphen : UInt8 := 45

/-- `std::isspace` in the C locale. -/
def isSpace (b : UInt8) : Bool :=
  (9 ≤ b ∧ b ≤ 13) ∨ b = 32

def isAsciiLetter (b : UInt8) : Bool :=
  (97 ≤ b ∧ b ≤ 122) ∨ (65 ≤ b ∧ b ≤ 90)

def isDomainCharacter (b : UInt8) : Bool :=
  isAsciiLetter b || isDigit b || b = hyphen

def isAsciiHexDigit (b : UInt8) : Bool :=
  isDigit b || (97 ≤ b ∧ b ≤ 102) || (65 ≤ b ∧ b ≤ 70)

/-- `parse_port`.  `std::from_chars` takes decimal digits only, without a sign. -/
def parsePort (value : Bytes) : Result Nat :=
  if value = [] then failure .invalidArgument "endpoint port is empty"
  else if value.length > maxPortTextLength then
    failure .invalidArgument "endpoint port has too many digits"
  else if !value.all isDigit ∨ decimalValue value = 0 ∨ decimalValue value > 65535 then
    failure .invalidArgument "endpoint port must be a decimal number in 1..65535"
  else .ok (decimalValue value)

def isLegacyNumericComponent (component : Bytes) : Bool :=
  (component ≠ [] && component.all isDigit) ||
    match component with
    | 48 :: x :: digits => (x = 120 || x = 88) && digits ≠ [] && digits.all isAsciiHexDigit
    | _ => false

/-- `is_legacy_numeric_ipv4_name`, over the components of the host.  A dot at the end
closes the last component. -/
def isLegacyNumericName : List Bytes → Bool
  | [] => false
  | [component] => isLegacyNumericComponent component
  | [component, []] => isLegacyNumericComponent component
  | component :: rest => isLegacyNumericComponent component && isLegacyNumericName rest

/-- One octet: up to three digits, no leading zero, at most 255. -/
def isOctet (octet : Bytes) : Bool :=
  octet ≠ [] && octet.length ≤ 3 && !(octet.length > 1 && octet.head? = some 48) &&
    octet.all isDigit && decimalValue octet ≤ 255

def isValidIpv4Text (host : Bytes) : Bool :=
  (host.splitOn dot).all isOctet && (host.splitOn dot).length = 4

def isLabel (label : Bytes) : Bool :=
  label ≠ [] && label.length ≤ maxDomainLabelLength && label.head? ≠ some hyphen &&
    label.getLast? ≠ some hyphen && label.all isDomainCharacter

/-- `is_valid_domain_name`.  One dot at the end is tolerated. -/
def isValidDomainName (host : Bytes) : Bool :=
  let name := if host.getLast? = some dot then host.dropLast else host
  name ≠ [] && name.length ≤ maxDomainLength && (name.splitOn dot).all isLabel

def lowerAscii (b : UInt8) : UInt8 :=
  if 65 ≤ b ∧ b ≤ 90 then b + 32 else b

section Parse

variable (net : AddressFamilies)

/-- An endpoint in brackets: a version 6 address without a scope, and a port. -/
def parseBracketed (inner : Bytes) : Result Endpoint :=
  let host := inner.takeWhile (· ≠ closeBracket)
  match inner.dropWhile (· ≠ closeBracket) with
  | 93 :: 58 :: portText =>
    if host = [] then
      failure .invalidArgument "IPv6 endpoints must use the form [address]:port"
    else if host.contains percent then
      failure .invalidArgument "IPv6 scope identifiers are not supported"
    else match net.makeV6 host with
      | none => failure .invalidArgument "endpoint contains an invalid IPv6 address"
      | some address => (parsePort portText).map fun port => ⟨net.printV6 address, port⟩
  | _ => failure .invalidArgument "IPv6 endpoints must use the form [address]:port"

/-- The host of an endpoint without brackets, in its canonical spelling. -/
def parseHost (host : Bytes) : Result Bytes :=
  if isValidIpv4Text host then
    match net.makeV4 host with
    | none => failure .invalidArgument "endpoint contains an invalid IPv4 address"
    | some address => .ok (net.printV4 address)
  else if isLegacyNumericName (host.splitOn dot) then
    failure .invalidArgument "endpoint contains an ambiguous legacy numeric IPv4 address"
  else if !isValidDomainName host then
    failure .invalidArgument "endpoint contains an invalid domain name"
  else .ok (host.map lowerAscii)

def parse (value : Bytes) : Result Endpoint :=
  if value = [] then failure .invalidArgument "endpoint is empty"
  else if value.length > maxEndpointTextLength then
    failure .invalidArgument "endpoint exceeds the maximum length"
  else if value.any isSpace then
    failure .invalidArgument "endpoint must not contain whitespace"
  else match value with
    | 91 :: inner => parseBracketed net inner
    | _ => match value.splitOn colon with
      | [host, portText] =>
        if host = [] then failure .invalidArgument
          "endpoint must use host:port, with brackets around IPv6 addresses"
        else (parsePort portText).bind fun port =>
          (parseHost net host).map fun canonical => ⟨canonical, port⟩
      | _ => failure .invalidArgument
          "endpoint must use host:port, with brackets around IPv6 addresses"

end Parse

/-- `endpoint_text`; `Endpoint::to_string` is the same text, since only the spelling of a
version 6 address has a colon. -/
def text (endpoint : Endpoint) : Bytes :=
  if endpoint.host.contains colon then
    openBracket :: endpoint.host ++ [closeBracket, colon] ++ decimal endpoint.port
  else endpoint.host ++ [colon] ++ decimal endpoint.port

/-! ## Ports -/

theorem decimalValue_map (n : Nat) (digs : List Char) (h : ∀ c ∈ digs, c.isDigit = true) :
    (digs.map fun c => c.toNat.toUInt8).foldl (fun n b => n * 10 + (b.toNat - 48)) n
      = Nat.ofDigitChars 10 digs n := by
  induction digs generalizing n with
  | nil => rfl
  | cons c digs ih =>
    have hc := isDigit_toUInt8 (h c (by simp))
    have hmod : c.toNat % 256 = c.toNat := Nat.mod_eq_of_lt (by omega)
    rw [List.map_cons, List.foldl_cons, ih _ fun d hd => h d (by simp [hd]),
      Nat.ofDigitChars_cons]
    simp [hmod, Nat.mul_comm]

theorem decimalValue_decimal (n : Nat) : decimalValue (decimal n) = n := by
  have hd : ∀ c ∈ Nat.toDigits 10 n, c.isDigit = true := fun c hc =>
    Nat.isDigit_of_mem_toDigits (by decide) (by decide) hc
  rw [decimalValue, decimal, decimalValue_map 0 _ hd]
  exact Nat.ofDigitChars_toDigits (by decide) (by decide)

variable {n : Nat} {b : UInt8} {host : Bytes}

theorem length_decimal_le (h : n ≤ 65535) : (decimal n).length ≤ maxPortTextLength := by
  have hlt : n < 10 ^ maxPortTextLength := by
    simp only [maxPortTextLength]
    omega
  rw [decimal, List.length_map]
  exact (Nat.length_toDigits_le_iff (by decide) (by decide)).2 hlt

theorem parsePort_decimal (hpos : n ≠ 0) (h : n ≤ 65535) : parsePort (decimal n) = .ok n := by
  have hd : (decimal n).all isDigit = true := List.all_eq_true.2 (decimal_isDigit n)
  have hlen := length_decimal_le h
  unfold parsePort
  rw [if_neg (decimal_ne_nil n), if_neg (by omega), if_neg, decimalValue_decimal]
  rw [decimalValue_decimal, hd]
  simp only [Bool.not_true, Bool.false_eq_true, false_or, not_or]
  exact ⟨hpos, by omega⟩

theorem parsePort_ok {val : Bytes} {port : Nat} (h : parsePort val = .ok port) :
    port ≠ 0 ∧ port ≤ 65535 := by
  simp only [parsePort, guard_eq_ok, not_or, Nat.not_lt, Except.ok.injEq] at h
  obtain ⟨-, -, hran, rfl⟩ := h
  exact hran.2

/-! ## Lower case -/

theorem lowerAscii_cases (b : UInt8) :
    (65 ≤ b.toNat ∧ b.toNat ≤ 90 ∧ (lowerAscii b).toNat = b.toNat + 32) ∨
      (¬ (65 ≤ b.toNat ∧ b.toNat ≤ 90) ∧ lowerAscii b = b) := by
  have hiff : (65 ≤ b ∧ b ≤ 90) ↔ (65 ≤ b.toNat ∧ b.toNat ≤ 90) := by
    rfl
  unfold lowerAscii
  by_cases h : 65 ≤ b ∧ b ≤ 90
  · left
    have hbo := hiff.1 h
    rw [if_pos h, UInt8.toNat_add]
    have h32 : (32 : UInt8).toNat = 32 := rfl
    omega
  · right
    exact ⟨fun hb => h (hiff.2 hb), if_neg h⟩

theorem lowerAscii_idem (b : UInt8) : lowerAscii (lowerAscii b) = lowerAscii b := by
  rcases lowerAscii_cases (lowerAscii b) with ⟨hlow, hhigh, -⟩ | ⟨-, h⟩
  · rcases lowerAscii_cases b with ⟨h65, h90, hb⟩ | ⟨hout, hb⟩
    · omega
    · rw [hb] at hlow hhigh
      exact absurd ⟨hlow, hhigh⟩ hout
  · exact h

/-- A property of characters that lower case respects. -/
def CaseBlind (p : UInt8 → Bool) : Prop :=
  ∀ b, p (lowerAscii b) = p b

theorem caseBlind_of_capital {p : UInt8 → Bool}
    (h : ∀ b c : UInt8, 65 ≤ b.toNat → b.toNat ≤ 90 → c.toNat = b.toNat + 32 → p c = p b) :
    CaseBlind p := by
  intro b
  rcases lowerAscii_cases b with ⟨h65, h90, hb⟩ | ⟨-, hb⟩
  · exact h b (lowerAscii b) h65 h90 hb
  · rw [hb]

theorem isDigit_iff : isDigit b = true ↔ 48 ≤ b.toNat ∧ b.toNat ≤ 57 := by
  simp only [isDigit, decide_eq_true_eq]
  rfl

theorem isAsciiLetter_iff :
    isAsciiLetter b = true ↔
      (97 ≤ b.toNat ∧ b.toNat ≤ 122) ∨ (65 ≤ b.toNat ∧ b.toNat ≤ 90) := by
  simp only [isAsciiLetter, decide_eq_true_eq]
  rfl

theorem isAsciiHexDigit_iff :
    isAsciiHexDigit b = true ↔ (48 ≤ b.toNat ∧ b.toNat ≤ 57) ∨
      (97 ≤ b.toNat ∧ b.toNat ≤ 102) ∨ (65 ≤ b.toNat ∧ b.toNat ≤ 70) := by
  simp only [isAsciiHexDigit, Bool.or_eq_true, isDigit_iff, decide_eq_true_eq, or_assoc]
  rfl

theorem caseBlind_isDigit : CaseBlind isDigit := by
  apply caseBlind_of_capital
  intro b c h65 h90 hc
  rw [Bool.eq_iff_iff, isDigit_iff, isDigit_iff]
  omega

theorem caseBlind_isAsciiLetter : CaseBlind isAsciiLetter := by
  apply caseBlind_of_capital
  intro b c h65 h90 hc
  rw [Bool.eq_iff_iff, isAsciiLetter_iff, isAsciiLetter_iff]
  omega

theorem caseBlind_isAsciiHexDigit : CaseBlind isAsciiHexDigit := by
  apply caseBlind_of_capital
  intro b c h65 h90 hc
  rw [Bool.eq_iff_iff, isAsciiHexDigit_iff, isAsciiHexDigit_iff]
  omega

theorem lowerAscii_eq_iff {c : UInt8} (hc : c.toNat < 65) : lowerAscii b = c ↔ b = c := by
  rw [← UInt8.toNat_inj, ← UInt8.toNat_inj]
  rcases lowerAscii_cases b with ⟨h65, h90, hb⟩ | ⟨-, hb⟩
  · omega
  · rw [hb]

theorem lowerAscii_eq_dot : lowerAscii b = dot ↔ b = dot :=
  lowerAscii_eq_iff (by decide)

theorem lowerAscii_eq_hyphen : lowerAscii b = hyphen ↔ b = hyphen :=
  lowerAscii_eq_iff (by decide)

theorem lowerAscii_eq_zero : lowerAscii b = 48 ↔ b = 48 :=
  lowerAscii_eq_iff (by decide)

theorem caseBlind_isDomainCharacter : CaseBlind isDomainCharacter := by
  intro b
  simp only [isDomainCharacter, caseBlind_isAsciiLetter b, caseBlind_isDigit b,
    lowerAscii_eq_hyphen]

theorem lowerAscii_of_isDigit (h : isDigit b = true) : lowerAscii b = b := by
  rw [isDigit_iff] at h
  rcases lowerAscii_cases b with ⟨h65, -, -⟩ | ⟨-, hb⟩
  · omega
  · exact hb

theorem all_map_lower {p : UInt8 → Bool} (h : CaseBlind p) (bytes : Bytes) :
    (bytes.map lowerAscii).all p = bytes.all p := by
  rw [List.all_map]
  congr 1
  funext b
  exact h b

theorem splitOn_map_lower (host : Bytes) :
    (host.map lowerAscii).splitOn dot = (host.splitOn dot).map (List.map lowerAscii) := by
  induction host with
  | nil => rfl
  | cons b host ih =>
    rw [List.map_cons, List.splitOn_cons_eq_if_modifyHead, List.splitOn_cons_eq_if_modifyHead]
    by_cases hb : b = dot
    · have hlow : lowerAscii dot = dot := lowerAscii_eq_dot.2 rfl
      simp [hb, hlow, ih]
    · have hlow : lowerAscii b ≠ dot := fun h => hb (lowerAscii_eq_dot.1 h)
      simp only [beq_iff_eq, hb, hlow, ih]
      cases host.splitOn dot with
      | nil => rfl
      | cons part parts => rfl

theorem map_lower_of_digits {bytes : Bytes} (h : bytes.all isDigit = true) :
    bytes.map lowerAscii = bytes := by
  rw [List.all_eq_true] at h
  conv_rhs => rw [← List.map_id bytes]
  exact List.map_congr_left fun b hb => lowerAscii_of_isDigit (h b hb)

theorem map_lower_idem (bytes : Bytes) :
    (bytes.map lowerAscii).map lowerAscii = bytes.map lowerAscii := by
  rw [List.map_map]
  exact List.map_congr_left fun b _ => lowerAscii_idem b

/-! ## The spelling of a name does not change its kind -/

theorem isOctet_map_lower (octet : Bytes) : isOctet (octet.map lowerAscii) = isOctet octet := by
  by_cases h : octet.all isDigit = true
  · rw [map_lower_of_digits h]
  · have hlow : (octet.map lowerAscii).all isDigit = false := by
      rw [all_map_lower caseBlind_isDigit]
      simpa using h
    simp [isOctet, h, hlow]

theorem isValidIpv4Text_map_lower (host : Bytes) :
    isValidIpv4Text (host.map lowerAscii) = isValidIpv4Text host := by
  have hall : ((host.splitOn dot).map (List.map lowerAscii)).all isOctet
      = (host.splitOn dot).all isOctet := by
    rw [List.all_map]
    congr 1
    funext octet
    exact isOctet_map_lower octet
  rw [isValidIpv4Text, isValidIpv4Text, splitOn_map_lower, hall, List.length_map]

theorem lowerAscii_hexMarker (x : UInt8) :
    (lowerAscii x = 120 ∨ lowerAscii x = 88) ↔ (x = 120 ∨ x = 88) := by
  rw [← UInt8.toNat_inj, ← UInt8.toNat_inj, ← UInt8.toNat_inj, ← UInt8.toNat_inj]
  have h120 : (120 : UInt8).toNat = 120 := rfl
  have h88 : (88 : UInt8).toNat = 88 := rfl
  rcases lowerAscii_cases x with ⟨h65, h90, hx⟩ | ⟨hout, hx⟩
  · omega
  · rw [hx]

theorem isLegacyNumericComponent_map_lower (comp : Bytes) :
    isLegacyNumericComponent (comp.map lowerAscii) = isLegacyNumericComponent comp := by
  have hd : (comp.map lowerAscii ≠ [] && (comp.map lowerAscii).all isDigit)
      = (comp ≠ [] && comp.all isDigit) := by
    rw [all_map_lower caseBlind_isDigit]
    simp
  unfold isLegacyNumericComponent
  congr 1
  match comp with
  | [] => rfl
  | [b] =>
    by_cases hb : b = 48
    · subst hb; rfl
    · have hlow : lowerAscii b ≠ 48 := fun h => hb (lowerAscii_eq_zero.1 h)
      simp
  | b :: x :: digs =>
    by_cases hb : b = 48
    · subst hb
      have hz : lowerAscii 48 = 48 := rfl
      have hm := lowerAscii_hexMarker x
      simp only [List.map_cons, hz, all_map_lower caseBlind_isAsciiHexDigit, ne_eq,
        List.map_eq_nil_iff]
      congr 2
      rw [Bool.eq_iff_iff]
      simpa using hm
    · have hlow : lowerAscii b ≠ 48 := fun h => hb (lowerAscii_eq_zero.1 h)
      simp [hb, hlow]

theorem isLegacyNumericName_map_lower (comps : List Bytes) :
    isLegacyNumericName (comps.map (List.map lowerAscii)) = isLegacyNumericName comps := by
  fun_induction isLegacyNumericName comps with
  | case1 => rfl
  | case2 comp =>
    simp [isLegacyNumericName, isLegacyNumericComponent_map_lower]
  | case3 comp =>
    simp [isLegacyNumericName, isLegacyNumericComponent_map_lower]
  | case4 comp rest hone htwo ih =>
    match rest, hone, htwo, ih with
    | [], hone, _, _ => exact absurd rfl hone
    | [] :: [], _, htwo, _ => exact absurd rfl htwo
    | (b :: part) :: [], _, _, _ =>
      have hpart := isLegacyNumericComponent_map_lower (b :: part)
      rw [List.map_cons] at hpart
      simp [isLegacyNumericName, isLegacyNumericComponent_map_lower comp, hpart]
    | part :: next :: rest, _, _, ih =>
      simp only [List.map_cons] at ih ⊢
      rw [isLegacyNumericName, ih, isLegacyNumericComponent_map_lower]
      · simp
      · simp

theorem isLabel_map_lower (label : Bytes) : isLabel (label.map lowerAscii) = isLabel label := by
  have hh : ((label.map lowerAscii).head? = some hyphen) ↔ (label.head? = some hyphen) := by
    simp [lowerAscii_eq_hyphen]
  have hl : ((label.map lowerAscii).getLast? = some hyphen) ↔ (label.getLast? = some hyphen) := by
    simp [lowerAscii_eq_hyphen]
  unfold isLabel
  rw [all_map_lower caseBlind_isDomainCharacter, List.length_map]
  simp only [ne_eq, hh, hl, List.map_eq_nil_iff]

/-- The labels of a name; one dot at the end is not part of it. -/
def labels (host : Bytes) : List Bytes :=
  (if host.getLast? = some dot then host.dropLast else host).splitOn dot

theorem name_map_lower (host : Bytes) :
    (if (host.map lowerAscii).getLast? = some dot then (host.map lowerAscii).dropLast
      else host.map lowerAscii)
      = (if host.getLast? = some dot then host.dropLast else host).map lowerAscii := by
  have hl : ((host.map lowerAscii).getLast? = some dot) ↔ (host.getLast? = some dot) := by
    simp [lowerAscii_eq_dot]
  by_cases h : host.getLast? = some dot
  · rw [if_pos (hl.2 h), if_pos h, List.map_dropLast]
  · rw [if_neg (mt hl.1 h), if_neg h]

theorem labels_map_lower (host : Bytes) :
    labels (host.map lowerAscii) = (labels host).map (List.map lowerAscii) := by
  rw [labels, name_map_lower, splitOn_map_lower, labels]

theorem isValidDomainName_iff :
    isValidDomainName host = true ↔
      (if host.getLast? = some dot then host.dropLast else host) ≠ [] ∧
      (if host.getLast? = some dot then host.dropLast else host).length ≤ maxDomainLength ∧
      ∀ label ∈ labels host, isLabel label = true := by
  simp only [isValidDomainName, labels, Bool.and_eq_true, decide_eq_true_eq, List.all_eq_true,
    and_assoc]

theorem isValidDomainName_map_lower (host : Bytes) :
    isValidDomainName (host.map lowerAscii) = isValidDomainName host := by
  rw [Bool.eq_iff_iff, isValidDomainName_iff, isValidDomainName_iff, labels_map_lower,
    name_map_lower, List.length_map, ne_eq, List.map_eq_nil_iff]
  simp only [List.forall_mem_map, isLabel_map_lower]

/-! ## The bytes of a host -/

theorem mem_splitOn {sep : UInt8} (h : b ∈ host) :
    b = sep ∨ ∃ part ∈ host.splitOn sep, b ∈ part := by
  induction host with
  | nil => cases h
  | cons c host ih =>
    rw [List.splitOn_cons_eq_if_modifyHead]
    by_cases hc : c = sep
    · rcases List.mem_cons.1 h with rfl | hmem
      · exact .inl hc
      · rcases ih hmem with hb | ⟨part, hpart, hb⟩
        · exact .inl hb
        · exact .inr ⟨part, by simp [hc, hpart], hb⟩
    · cases hs : host.splitOn sep with
      | nil => exact absurd hs (List.splitOn_ne_nil _ _)
      | cons first parts =>
        rcases List.mem_cons.1 h with rfl | hmem
        · exact .inr ⟨b :: first, by simp [hc], by simp⟩
        · rcases ih hmem with hb | ⟨part, hpart, hb⟩
          · exact .inl hb
          · rw [hs] at hpart
            rcases List.mem_cons.1 hpart with rfl | hr
            · exact .inr ⟨c :: part, by simp [hc], by simp [hb]⟩
            · exact .inr ⟨part, by simp [hc, hr], hb⟩

theorem mem_splitOn_dot (h : b ∈ host) : b = dot ∨ ∃ part ∈ host.splitOn dot, b ∈ part :=
  mem_splitOn h

theorem length_splitOn (sep : UInt8) (host : Bytes) :
    (host.splitOn sep).flatten.length + (host.splitOn sep).length = host.length + 1 := by
  induction host with
  | nil => rfl
  | cons c host ih =>
    rw [List.splitOn_cons_eq_if_modifyHead]
    by_cases hc : c = sep
    · simp only [hc, beq_self_eq_true, if_true, List.flatten_cons, List.nil_append,
        List.length_cons]
      omega
    · cases hs : host.splitOn sep with
      | nil => exact absurd hs (List.splitOn_ne_nil _ _)
      | cons first parts =>
        rw [hs] at ih
        simp only [beq_iff_eq, hc, if_false, List.modifyHead_cons, List.flatten_cons,
          List.length_append, List.length_cons] at ih ⊢
        omega

theorem length_flatten_le {parts : List Bytes} {bound : Nat}
    (h : ∀ part ∈ parts, part.length ≤ bound) :
    parts.flatten.length ≤ parts.length * bound := by
  induction parts with
  | nil => simp
  | cons part parts ih =>
    have hpart := h part (by simp)
    have hr := ih fun other ho => h other (by simp [ho])
    rw [List.flatten_cons, List.length_append, List.length_cons, Nat.add_mul]
    omega

/-- The bytes hosts are made of: letters, digits, hyphens and dots. -/
def isHostByte (b : UInt8) : Bool :=
  isDomainCharacter b || b = dot

theorem isHostByte_iff :
    isHostByte b = true ↔ isAsciiLetter b = true ∨ isDigit b = true ∨ b.toNat = 45 ∨
      b.toNat = 46 := by
  have h45 : b = hyphen ↔ b.toNat = 45 := by rw [← UInt8.toNat_inj]; rfl
  have h46 : b = dot ↔ b.toNat = 46 := by rw [← UInt8.toNat_inj]; rfl
  simp only [isHostByte, isDomainCharacter, Bool.or_eq_true, decide_eq_true_eq, h45, h46, or_assoc]

theorem isHostByte_plain (h : isHostByte b = true) :
    isSpace b = false ∧ b ≠ colon ∧ b ≠ openBracket := by
  rw [isHostByte_iff, isAsciiLetter_iff, isDigit_iff] at h
  have hc : b.toNat ≠ 58 → b ≠ colon := fun hne heq => hne (by rw [heq]; rfl)
  have hb : b.toNat ≠ 91 → b ≠ openBracket := fun hne heq => hne (by rw [heq]; rfl)
  refine ⟨?_, hc (by omega), hb (by omega)⟩
  have h32 : b = 32 ↔ b.toNat = 32 := by rw [← UInt8.toNat_inj]; rfl
  rw [Bool.eq_false_iff]
  simp only [isSpace, ne_eq, decide_eq_true_eq, UInt8.le_iff_toNat_le, h32]
  have h13 : (13 : UInt8).toNat = 13 := rfl
  omega

theorem isOctet_bytes {octet : Bytes} (h : isOctet octet = true) :
    octet.length ≤ 3 ∧ octet.all isDigit = true := by
  simp only [isOctet, Bool.and_eq_true, decide_eq_true_eq] at h
  exact ⟨h.1.1.1.2, h.1.2⟩

theorem isLabel_bytes {label : Bytes} (h : isLabel label = true) :
    label.all isDomainCharacter = true := by
  simp only [isLabel, Bool.and_eq_true] at h
  exact h.2

theorem isValidIpv4Text_bytes (h : isValidIpv4Text host = true) :
    host ≠ [] ∧ host.length ≤ 15 ∧ ∀ b ∈ host, isHostByte b = true := by
  simp only [isValidIpv4Text, Bool.and_eq_true, decide_eq_true_eq] at h
  obtain ⟨hoc, hfour⟩ := h
  rw [List.all_eq_true] at hoc
  have hlen := length_splitOn dot host
  have hsum := length_flatten_le fun octet ho => (isOctet_bytes (hoc octet ho)).1
  refine ⟨?_, by omega, ?_⟩
  · rintro rfl
    simp at hfour
  · intro b hb
    rw [isHostByte_iff]
    rcases mem_splitOn_dot hb with rfl | ⟨octet, ho, hmem⟩
    · exact .inr (.inr (.inr rfl))
    · have hd := (isOctet_bytes (hoc octet ho)).2
      exact .inr (.inl (List.all_eq_true.1 hd b hmem))

theorem isValidDomainName_bytes (h : isValidDomainName host = true) :
    host ≠ [] ∧ host.length ≤ 254 ∧ ∀ b ∈ host, isHostByte b = true := by
  obtain ⟨hne, hlen, hl⟩ := isValidDomainName_iff.1 h
  simp only [maxDomainLength, labels] at hlen hl
  have hn : ∀ name : Bytes, (∀ label ∈ name.splitOn dot, isLabel label = true) →
      ∀ b ∈ name, isHostByte b = true := by
    intro name hn b hb
    rcases mem_splitOn_dot hb with rfl | ⟨label, hlb, hmem⟩
    · rfl
    · have hall := List.all_eq_true.1 (isLabel_bytes (hn label hlb)) b hmem
      simp [isHostByte, hall]
  by_cases hla : host.getLast? = some dot
  · rw [if_pos hla] at hne hlen hl
    obtain ⟨front, rfl⟩ := List.getLast?_eq_some_iff.1 hla
    rw [List.dropLast_concat] at hlen hl
    refine ⟨by simp, by simp; omega, ?_⟩
    intro b hb
    rcases List.mem_append.1 hb with hb | hb
    · exact hn front hl b hb
    · rw [List.mem_singleton.1 hb]
      rfl
  · rw [if_neg hla] at hne hlen hl
    exact ⟨hne, by omega, hn host hl⟩

/-! ## An endpoint's own text -/

/-- What the networking library documents about the texts of its addresses: a printed
address reads back, a version 4 address is printed in dotted decimal form, and one
of version 6 without a scope in hexadecimal groups, the last of which may be dotted. -/
structure Documented (net : AddressFamilies) : Prop where
  makeV4_printV4 : ∀ address, net.makeV4 (net.printV4 address) = some address
  printV4_dotted : ∀ address, isValidIpv4Text (net.printV4 address) = true
  makeV6_printV6 : ∀ host address, percent ∉ host → net.makeV6 host = some address →
    net.makeV6 (net.printV6 address) = some address
  printV6_groups : ∀ host address, percent ∉ host → net.makeV6 host = some address →
    (net.printV6 address).length ≤ 45 ∧ colon ∈ net.printV6 address ∧
      ∀ b ∈ net.printV6 address, isAsciiHexDigit b = true ∨ b = colon ∨ b = dot

section Text

variable {net : AddressFamilies}

variable {host : Bytes}

theorem parseHost_cases {canonical : Bytes} (h : parseHost net host = .ok canonical) :
    (isValidIpv4Text host = true ∧ ∃ address, canonical = net.printV4 address) ∨
      (isValidIpv4Text host = false ∧ isLegacyNumericName (host.splitOn dot) = false ∧
        isValidDomainName host = true ∧ canonical = host.map lowerAscii) := by
  unfold parseHost at h
  by_cases hv4 : isValidIpv4Text host = true
  · rw [if_pos hv4] at h
    cases hmk : net.makeV4 host with
    | none => simp [hmk, failure] at h
    | some address =>
      simp only [hmk, Except.ok.injEq] at h
      exact .inl ⟨hv4, address, h.symm⟩
  · rw [if_neg hv4] at h
    simp only [guard_eq_ok, Bool.not_eq_true, Bool.not_eq_false', Except.ok.injEq] at h
    exact .inr ⟨by simpa using hv4, h.1, h.2.1, h.2.2.symm⟩

/-- A canonical host is accepted as it is, and has the bytes and the length of one. -/
theorem parseHost_ok (hnet : Documented net) {canonical : Bytes}
    (h : parseHost net host = .ok canonical) :
    parseHost net canonical = .ok canonical ∧ canonical ≠ [] ∧ canonical.length ≤ 254 ∧
      ∀ b ∈ canonical, isHostByte b = true := by
  rcases parseHost_cases h with ⟨-, address, rfl⟩ | ⟨hv4, hl, hn, rfl⟩
  · have hdot := hnet.printV4_dotted address
    obtain ⟨hne, hlen, hby⟩ := isValidIpv4Text_bytes hdot
    refine ⟨?_, hne, by omega, hby⟩
    rw [parseHost, if_pos hdot, hnet.makeV4_printV4]
  · have hval : isValidDomainName (host.map lowerAscii) = true := by
      rw [isValidDomainName_map_lower, hn]
    refine ⟨?_, isValidDomainName_bytes hval⟩
    unfold parseHost
    rw [isValidIpv4Text_map_lower, hv4, splitOn_map_lower, isLegacyNumericName_map_lower, hl,
      hval, map_lower_idem]
    rfl

theorem decimal_plain {n : Nat} {b : UInt8} (h : b ∈ decimal n) :
    isSpace b = false ∧ b ≠ colon ∧ b ≠ openBracket :=
  isHostByte_plain (isHostByte_iff.2 (.inr (.inl (decimal_isDigit n b h))))

theorem parse_plain {port : Nat} (hh : parseHost net host = .ok host) (hne : host ≠ [])
    (hlen : host.length ≤ 254) (hby : ∀ b ∈ host, isHostByte b = true) (hpos : port ≠ 0)
    (hp : port ≤ 65535) : parse net (text ⟨host, port⟩) = .ok ⟨host, port⟩ := by
  have hc : colon ∉ host := fun hmem => (isHostByte_plain (hby colon hmem)).2.1 rfl
  have hd : colon ∉ decimal port := fun hmem => (decimal_plain hmem).2.1 rfl
  have ht : text ⟨host, port⟩ = host ++ colon :: decimal port := by
    simp [text, hc]
  have hsz := length_decimal_le hp
  simp only [maxPortTextLength] at hsz
  have hsp : (host ++ colon :: decimal port).any isSpace = false := by
    rw [List.any_eq_false]
    intro b hb
    rcases List.mem_append.1 hb with hb | hb
    · simp [(isHostByte_plain (hby b hb)).1]
    · rcases List.mem_cons.1 hb with rfl | hb
      · decide
      · simp [(decimal_plain hb).1]
  have hs : (host ++ colon :: decimal port).splitOn colon = [host, decimal port] := by
    rw [List.splitOn_append_cons_self_of_not_mem hc, List.splitOn_eq_singleton hd]
  unfold parse
  rw [ht, if_neg (by simp), if_neg, if_neg (by simp [hsp])]
  · cases host with
    | nil => exact absurd rfl hne
    | cons first rest =>
      have hfst : first ≠ 91 := (isHostByte_plain (hby first (by simp))).2.2
      rw [List.cons_append] at hs ⊢
      simp [hfst, hs, parsePort_decimal hpos hp, hh, Except.bind, Except.map]
  · simp only [List.length_append, List.length_cons, maxEndpointTextLength]
    omega

theorem parse_bracketed (hnet : Documented net) {addr : BitVec 128 × Nat} {port : Nat}
    (hs : percent ∉ host) (hmk : net.makeV6 host = some addr) (hpos : port ≠ 0)
    (hp : port ≤ 65535) :
    parse net (text ⟨net.printV6 addr, port⟩) = .ok ⟨net.printV6 addr, port⟩ := by
  obtain ⟨hlen, hcl, hby⟩ := hnet.printV6_groups host addr hs hmk
  have ha := hnet.makeV6_printV6 host addr hs hmk
  have hg : ∀ b ∈ net.printV6 addr,
      isSpace b = false ∧ b ≠ closeBracket ∧ b ≠ percent := by
    intro b hb
    have h58 : b = colon → b.toNat = 58 := fun h => by rw [h]; rfl
    have h46 : b = dot → b.toNat = 46 := fun h => by rw [h]; rfl
    have hc : b.toNat ≠ 93 → b ≠ closeBracket := fun hne heq => hne (by rw [heq]; rfl)
    have hper : b.toNat ≠ 37 → b ≠ percent := fun hne heq => hne (by rw [heq]; rfl)
    have h32 : b = 32 ↔ b.toNat = 32 := by rw [← UInt8.toNat_inj]; rfl
    have h13 : (13 : UInt8).toNat = 13 := rfl
    have hb' := (hby b hb).imp isAsciiHexDigit_iff.1 (Or.imp h58 h46)
    refine ⟨?_, hc (by omega), hper (by omega)⟩
    rw [Bool.eq_false_iff]
    simp only [isSpace, ne_eq, decide_eq_true_eq, UInt8.le_iff_toNat_le, h32]
    omega
  have hc : closeBracket ∉ net.printV6 addr := fun hmem => (hg _ hmem).2.1 rfl
  have ht : text ⟨net.printV6 addr, port⟩
      = openBracket :: (net.printV6 addr ++ closeBracket :: colon :: decimal port) := by
    simp [text, hcl]
  have hsz := length_decimal_le hp
  simp only [maxPortTextLength] at hsz
  have hsp : (openBracket :: (net.printV6 addr ++ closeBracket :: colon ::
      decimal port)).any isSpace = false := by
    rw [List.any_eq_false]
    intro b hb
    rcases List.mem_cons.1 hb with rfl | hb
    · decide
    rcases List.mem_append.1 hb with hb | hb
    · simp [(hg b hb).1]
    rcases List.mem_cons.1 hb with rfl | hb
    · decide
    rcases List.mem_cons.1 hb with rfl | hb
    · decide
    · simp [(decimal_plain hb).1]
  obtain ⟨htake, hdrop⟩ := takeWhile_append_separator (colon :: decimal port) hc
  have hne : net.printV6 addr ≠ [] := List.ne_nil_of_mem hcl
  have hper : (net.printV6 addr).contains percent = false := by
    rw [Bool.eq_false_iff]
    intro hmem
    exact (hg percent (by simpa using hmem)).2.2 rfl
  have hbr : parseBracketed net (net.printV6 addr ++ closeBracket :: colon :: decimal port)
      = .ok ⟨net.printV6 addr, port⟩ := by
    unfold parseBracketed
    simp only [htake, hdrop]
    simp only [closeBracket, colon, if_neg hne, hper, Bool.false_eq_true, if_false, ha,
      parsePort_decimal hpos hp, Except.map]
  unfold parse
  rw [ht, if_neg (by simp), if_neg, if_neg (by simp [hsp])]
  · exact hbr
  · simp only [List.length_append, List.length_cons, maxEndpointTextLength]
    omega

/-- What a parsed endpoint is: a port in range, and a host in the spelling of the
library or of a name. -/
theorem parse_ok {val : Bytes} {ep : Endpoint} (h : parse net val = .ok ep) :
    (ep.port ≠ 0 ∧ ep.port ≤ 65535) ∧
      ((val.head? = some openBracket ∧ ∃ host address, percent ∉ host ∧
          net.makeV6 host = some address ∧ ep.host = net.printV6 address) ∨
        (val.head? ≠ some openBracket ∧ ∃ host rest, val.splitOn colon = host :: rest ∧
          parseHost net host = .ok ep.host)) := by
  simp only [parse, guard_eq_ok] at h
  obtain ⟨-, -, -, h⟩ := h
  split at h
  · next inner =>
    -- in brackets: the library's spelling of the address
    unfold parseBracketed at h
    split at h
    · next portText _ =>
      obtain ⟨-, hs, h⟩ := (by simpa only [guard_eq_ok] using h : _ ∧ _ ∧ _)
      split at h
      · exact absurd h failure_ne_ok
      · next address hmk =>
        obtain ⟨port, hp, rfl⟩ := map_eq_ok.1 h
        exact ⟨parsePort_ok hp, .inl ⟨rfl, _, address, by simpa using hs, hmk, rfl⟩⟩
    · exact absurd h failure_ne_ok
  · next hb =>
    split at h
    · next host portText hsp =>
      obtain ⟨-, h⟩ := guard_eq_ok.1 h
      obtain ⟨port, hp, h⟩ := bind_eq_ok.1 h
      obtain ⟨canonical, hho, rfl⟩ := map_eq_ok.1 h
      refine ⟨parsePort_ok hp, .inr ⟨?_, host, _, hsp, hho⟩⟩
      intro hh
      obtain ⟨inner, rfl⟩ := List.head?_eq_some_iff.1 hh
      exact hb inner rfl
    · exact absurd h failure_ne_ok

/-- The text of a parsed endpoint is accepted, and gives the endpoint back. -/
theorem parse_text (hnet : Documented net) {val : Bytes} {ep : Endpoint}
    (h : parse net val = .ok ep) : parse net ep.text = .ok ep := by
  obtain ⟨host, port⟩ := ep
  obtain ⟨⟨hpos, hle⟩, ⟨-, typed, address, hs, hmk, rfl⟩ | ⟨-, typed, -, -, hh⟩⟩ :=
    parse_ok h
  · exact parse_bracketed hnet hs hmk hpos hle
  · obtain ⟨ha, hne, hlen, hby⟩ := parseHost_ok hnet hh
    exact parse_plain ha hne hlen hby hpos hle

end Text

def hostText (host : Bytes) : Bytes :=
  if host.contains colon then openBracket :: host ++ [closeBracket] else host

theorem text_eq (ep : Endpoint) :
    ep.text = hostText ep.host ++ colon :: decimal ep.port := by
  unfold text hostText
  split <;> simp

theorem hostText_injective {host' : Bytes} (h : hostText host = hostText host') : host = host' := by
  unfold hostText at h
  split at h
  · next hc =>
    split at h
    · simpa using h
    · next hc' =>
      rw [← h] at hc'
      simp only [List.contains_eq_mem] at hc hc'
      exact absurd (by simp [hc]) hc'
  · next hc =>
    split at h
    · next hc' =>
      rw [h] at hc
      simp only [List.contains_eq_mem] at hc hc'
      exact absurd (by simp [hc']) hc
    · exact h

theorem append_colon_injective {before before' digs digits' : Bytes}
    (hd : colon ∉ digs) (hd' : colon ∉ digits')
    (h : before ++ colon :: digs = before' ++ colon :: digits') :
    before = before' ∧ digs = digits' := by
  have hrev := congrArg (List.takeWhile (· ≠ colon) ∘ List.reverse) h
  have hi : ∀ {bytes : Bytes}, colon ∉ bytes →
      ∀ b ∈ bytes.reverse, decide (b ≠ colon) = true := by
    intro bytes hby b hb
    exact decide_eq_true fun heq => hby (heq ▸ List.mem_reverse.1 hb)
  simp only [Function.comp, List.reverse_append, List.reverse_cons, List.append_assoc,
    List.singleton_append] at hrev
  rw [List.takeWhile_append_of_pos (hi hd), List.takeWhile_append_of_pos (hi hd')] at hrev
  simp only [ne_eq, not_true_eq_false, decide_false, Bool.false_eq_true, not_false_eq_true,
    List.takeWhile_cons_of_neg, List.append_nil, List.reverse_inj] at hrev
  subst hrev
  exact ⟨List.append_cancel_right h, rfl⟩

theorem text_injective {ep endpoint' : Endpoint} (h : ep.text = endpoint'.text) :
    ep = endpoint' := by
  obtain ⟨host, port⟩ := ep
  obtain ⟨host', port'⟩ := endpoint'
  have hd : ∀ n, colon ∉ decimal n := fun n hmem => (decimal_plain hmem).2.1 rfl
  rw [text_eq, text_eq] at h
  obtain ⟨hh, hp⟩ := append_colon_injective (hd port) (hd port') h
  have hp' := congrArg decimalValue hp
  rw [decimalValue_decimal, decimalValue_decimal] at hp'
  obtain rfl : host = host' := hostText_injective hh
  obtain rfl : port = port' := hp'
  rfl

/-! ## A library of the documented kind -/

/-- The octets of a version 4 address. -/
def octets (address : BitVec 32) : List Nat :=
  [address.toNat / 2 ^ 24, address.toNat / 2 ^ 16 % 256, address.toNat / 2 ^ 8 % 256,
    address.toNat % 256]

def ofOctets : List Nat → BitVec 32
  | [a, b, c, d] => BitVec.ofNat 32 (a * 2 ^ 24 + b * 2 ^ 16 + c * 2 ^ 8 + d)
  | _ => 0

def printOctets : List Nat → Bytes
  | [] => []
  | [octet] => decimal octet
  | octet :: rest => decimal octet ++ dot :: printOctets rest

/-- Dotted decimal version 4 addresses, and the loopback address as the only one of
version 6. -/
def plainFamilies : AddressFamilies where
  makeV4 host :=
    if isValidIpv4Text host then some (ofOctets ((host.splitOn dot).map decimalValue)) else none
  printV4 address := printOctets (octets address)
  makeV6 host := if host = ascii "::1" then some (1, 0) else none
  printV6 _ := ascii "::1"

theorem octets_le (addr : BitVec 32) : ∀ octet ∈ octets addr, octet ≤ 255 := by
  simp only [octets, List.forall_mem_cons, List.not_mem_nil, false_imp_iff, implies_true, and_true]
  omega

theorem ofOctets_octets (addr : BitVec 32) : ofOctets (octets addr) = addr := by
  apply BitVec.eq_of_toNat_eq
  simp only [octets, ofOctets, BitVec.toNat_ofNat]
  omega

theorem splitOn_printOctets {rest : List Nat} (hne : rest ≠ []) :
    (printOctets rest).splitOn dot = rest.map decimal := by
  have hdot : ∀ n, dot ∉ decimal n := by
    intro n hmem
    have := decimal_isDigit n dot hmem
    simp [isDigit, dot] at this
  induction rest with
  | nil => exact absurd rfl hne
  | cons octet rest ih =>
    cases rest with
    | nil => exact List.splitOn_eq_singleton (hdot octet)
    | cons next rest =>
      rw [printOctets, List.splitOn_append_cons_self_of_not_mem (hdot octet), ih (by simp)]
      · rfl
      · simp

theorem isOctet_decimal (h : n ≤ 255) : isOctet (decimal n) = true := by
  have hall : (List.range 256).all (fun n => isOctet (decimal n)) = true := by decide +kernel
  exact List.all_eq_true.1 hall n (List.mem_range.2 (by omega))

theorem documented_plainFamilies : Documented plainFamilies := by
  have hs : ∀ addr, (plainFamilies.printV4 addr).splitOn dot =
      (octets addr).map decimal := fun addr => splitOn_printOctets (by simp [octets])
  have hdot : ∀ addr, isValidIpv4Text (plainFamilies.printV4 addr) = true := by
    intro addr
    simp only [isValidIpv4Text, hs, List.all_map, Bool.and_eq_true, List.all_eq_true]
    exact ⟨fun octet hmem => isOctet_decimal (octets_le addr octet hmem), rfl⟩
  refine ⟨fun addr => ?_, hdot, ?_, ?_⟩
  · have hval : decimalValue ∘ decimal = id := funext decimalValue_decimal
    change (if isValidIpv4Text (plainFamilies.printV4 addr) then _ else none) = _
    rw [if_pos (hdot addr), hs, List.map_map, hval, List.map_id, ofOctets_octets]
  · intro host addr _ h
    simp only [plainFamilies] at h ⊢
    split at h
    · simpa using h
    · cases h
  · intro host addr _ _
    change (ascii "::1").length ≤ 45 ∧ colon ∈ ascii "::1" ∧
      ∀ b ∈ ascii "::1", isAsciiHexDigit b = true ∨ b = colon ∨ b = dot
    refine ⟨by decide, by decide, ?_⟩
    have hall : (ascii "::1").all (fun b => isAsciiHexDigit b || b = colon || b = dot) = true := by
      decide
    intro b hb
    simpa [or_assoc] using List.all_eq_true.1 hall b hb

/-- Version 4 addresses as the library reads and prints them; those of version 6 are printed in
some way that tells them apart. -/
def plainText : AddressText where
  make host := (plainFamilies.makeV4 host).map .v4
  print
    | .v4 bits => printOctets (octets bits)
    | .v6 bits scope => colon :: decimal (Nat.pair bits.toNat scope)

/-- A dotted text consists of digits and dots. -/
theorem isDigit_or_dot_of_mem {address : List Nat} {b : UInt8} (h : b ∈ printOctets address) :
    isDigit b = true ∨ b = dot := by
  induction address with
  | nil => cases h
  | cons octet rest ih =>
    cases rest with
    | nil => exact .inl (decimal_isDigit octet b h)
    | cons next rest =>
      rw [printOctets, List.mem_append, List.mem_cons] at h
      · rcases h with hdigit | hdot | hrest
        · exact .inl (decimal_isDigit octet b hdigit)
        · exact .inr hdot
        · exact ih hrest
      · simp

theorem zero_notMem_plainText (address : Address) : 0 ∉ plainText.print address := by
  intro hmem
  cases address with
  | v4 bits => exact absurd (isDigit_or_dot_of_mem hmem) (by decide)
  | v6 bits scope =>
    rcases List.mem_cons.1 hmem with hcolon | hdigit
    · exact absurd hcolon (by decide)
    · exact absurd (decimal_isDigit _ _ hdigit) (by decide)

theorem plainText_print_injective : Function.Injective plainText.print := by
  have hsplit : ∀ bits, (plainText.print (.v4 bits)).splitOn dot = (octets bits).map decimal :=
    fun bits => splitOn_printOctets (by simp [octets])
  have hother : ∀ bits bits' scope,
      plainText.print (.v4 bits) ≠ plainText.print (.v6 bits' scope) := by
    intro bits bits' scope heq
    have hmem : colon ∈ plainText.print (.v4 bits) := by
      rw [heq]
      exact List.mem_cons_self
    exact absurd (isDigit_or_dot_of_mem hmem) (by decide)
  intro a b h
  cases a with
  | v4 bits => cases b with
    | v4 bits' =>
      have hoctets := hsplit bits
      rw [h, hsplit bits'] at hoctets
      have heq := List.map_injective_iff.2 (fun _ _ => decimal_injective) hoctets
      rw [← ofOctets_octets bits, ← heq, ofOctets_octets]
    | v6 bits' scope' => exact absurd h (hother bits bits' scope')
  | v6 bits scope => cases b with
    | v4 bits' => exact absurd h.symm (hother bits' bits scope)
    | v6 bits' scope' =>
      obtain ⟨hbits, hscope⟩ := Nat.pair_eq_pair.1 (decimal_injective (List.cons.inj h).2)
      rw [BitVec.eq_of_toNat_eq hbits, hscope]

end Endpoint

end MiniTun
