import MiniTun.Admin.HttpRequest

/-!
# The Host header of a request

A browser that was led to the listener under another name says so in the Host header.
`host_header_matches` cuts the port off and compares what is left.  What stands behind a closing
bracket, or behind the colon, is cut off whatever it is; and the listener's own address is
compared as it prints, without the brackets that one of version 6 has in a header.
-/

namespace MiniTun.Admin

open Endpoint (colon openBracket closeBracket)

def loopbackNames : List Bytes :=
  [ascii "localhost", ascii "127.0.0.1", ascii "[::1]"]

/-- An address as it stands in a URI. -/
def uriForm (net : AddressText) : Address → Bytes
  | .v4 bits => net.print (.v4 bits)
  | .v6 bits scope => openBracket :: net.print (.v6 bits scope) ++ [closeBracket]

/-- Nothing, or a colon and decimal digits. -/
def IsPort (text : Bytes) : Prop :=
  text = [] ∨ ∃ digits, digits.all isDigit = true ∧ text = colon :: digits

/-- The header names the listener, in any letter case and with or without a port. -/
def NamesListener (net : AddressText) (a : Address) (host : Bytes) : Prop :=
  ∃ name ∈ uriForm net a :: loopbackNames, ∃ port, IsPort port ∧
    lowerAscii host = lowerAscii name ++ port

/-- What is used of the texts of addresses: there are no colons in one of version 4, at least
two in one of version 6, and no brackets around it. -/
structure PrintsPlainly (net : AddressText) : Prop where
  v4 : ∀ bits, net.print (.v4 bits) ≠ [] ∧ colon ∉ net.print (.v4 bits) ∧
    openBracket ∉ net.print (.v4 bits)
  v6 : ∀ bits scope, 2 ≤ (net.print (.v6 bits scope)).count colon ∧
    openBracket ∉ net.print (.v6 bits scope) ∧ closeBracket ∉ net.print (.v6 bits scope)

/-- Lower case leaves the bytes alone that stand around a name. -/
theorem lowerAscii_eq_mark {b c : UInt8} (hc : c ∈ [colon, openBracket, closeBracket]) :
    Endpoint.lowerAscii b = c ↔ b = c := by
  have hmark : c.toNat < 65 ∨ 90 < c.toNat ∧ c.toNat < 97 := by
    simp only [List.mem_cons, List.not_mem_nil, or_false] at hc
    rcases hc with rfl | rfl | rfl <;> decide
  rw [← UInt8.toNat_inj, ← UInt8.toNat_inj]
  rcases Endpoint.lowerAscii_cases b with ⟨h65, h90, hb⟩ | ⟨-, hb⟩
  · omega
  · rw [hb]

theorem mem_lowerAscii {c : UInt8} (hc : c ∈ [colon, openBracket, closeBracket]) {text : Bytes} :
    c ∈ lowerAscii text ↔ c ∈ text := by
  simp [lowerAscii, lowerAscii_eq_mark hc]

theorem count_lowerAscii (text : Bytes) : (lowerAscii text).count colon = text.count colon := by
  rw [lowerAscii, List.count_eq_countP, List.countP_map]
  congr 1
  funext b
  rw [Function.comp_apply, Bool.eq_iff_iff, beq_iff_eq, beq_iff_eq, lowerAscii_eq_mark (by decide)]

theorem takeWhile_lowerAscii {c : UInt8} (hc : c ∈ [colon, openBracket, closeBracket])
    (text : Bytes) : (lowerAscii text).takeWhile (· ≠ c) = lowerAscii (text.takeWhile (· ≠ c)) := by
  simp only [lowerAscii, List.takeWhile_map, Function.comp_def, ne_eq, lowerAscii_eq_mark hc]

theorem head?_lowerAscii (text : Bytes) :
    (lowerAscii text).head? = some openBracket ↔ text.head? = some openBracket := by
  simp [lowerAscii, lowerAscii_eq_mark (c := openBracket) (by decide)]

/-- Cutting the port off does not depend on the letter case. -/
theorem lowerAscii_normalizedHostAuthority (host : Bytes) :
    lowerAscii (normalizedHostAuthority host) = normalizedHostAuthority (lowerAscii host) := by
  have hc : closeBracket ∈ [colon, openBracket, closeBracket] := by decide
  unfold normalizedHostAuthority
  simp only [head?_lowerAscii, List.contains_iff_mem, mem_lowerAscii hc, count_lowerAscii,
    takeWhile_lowerAscii hc, takeWhile_lowerAscii (c := colon) (by decide)]
  split
  · split
    · exact List.map_append
    · rfl
  · split
    · rfl
    · rfl

/-- The names a port can be cut off from. -/
def CanStand (name : Bytes) : Prop :=
  (∃ inner, name = openBracket :: inner ++ [closeBracket] ∧ closeBracket ∉ inner) ∨
    name ≠ [] ∧ openBracket ∉ name ∧ colon ∉ name

theorem normalizedHostAuthority_append {name port : Bytes} (hname : CanStand name)
    (hport : IsPort port) : normalizedHostAuthority (name ++ port) = name := by
  rcases hname with ⟨inner, rfl, hinner⟩ | ⟨hne, hopen, hcolon⟩
  · have hclose : closeBracket ∉ openBracket :: inner := by
      rw [List.mem_cons, not_or]
      exact ⟨by decide, hinner⟩
    have hstart := (takeWhile_append_separator port hclose).1
    rw [List.append_assoc, List.singleton_append]
    unfold normalizedHostAuthority
    rw [if_pos (by simp), if_pos (by simp), hstart]
  · have hhead : ¬ (name ++ port).head? = some openBracket := by
      rw [List.head?_append_of_ne_nil _ hne]
      exact fun h => hopen (List.mem_of_head? h)
    have hnone : name.count colon = 0 := List.count_eq_zero.2 hcolon
    unfold normalizedHostAuthority
    rw [if_neg hhead]
    rcases hport with rfl | ⟨digits, hdigits, rfl⟩
    · rw [List.append_nil, if_neg (by omega)]
    · have hcount : digits.count colon = 0 := by
        refine List.count_eq_zero.2 fun hmem => ?_
        have hdigit := List.all_eq_true.1 hdigits colon hmem
        revert hdigit
        decide
      rw [if_pos, (takeWhile_append_separator digits hcolon).1]
      rw [List.count_append, List.count_cons_self, hnone, hcount]

theorem normalizedHostAuthority_isPrefix (host : Bytes) :
    normalizedHostAuthority host <+: host := by
  unfold normalizedHostAuthority
  split
  · split
    · next hc =>
      have hmem : closeBracket ∈ host := List.contains_iff_mem.1 hc
      obtain ⟨before, after, rfl, hb⟩ := List.eq_append_cons_of_mem hmem
      rw [(takeWhile_append_separator after hb).1]
      exact ⟨after, by simp⟩
    · exact List.prefix_rfl
  · split
    · exact List.takeWhile_prefix _
    · exact List.prefix_rfl

section Listener

variable {net : AddressText}

theorem canStand_names (hnet : PrintsPlainly net) (a : Address) {name : Bytes}
    (hmem : name ∈ uriForm net a :: loopbackNames) : CanStand (lowerAscii name) := by
  rcases List.mem_cons.1 hmem with rfl | hl
  · cases a with
    | v4 bits =>
      obtain ⟨hne, hc, hop⟩ := hnet.v4 bits
      refine .inr ⟨?_, ?_, ?_⟩
      · simpa [uriForm, lowerAscii] using hne
      · rwa [mem_lowerAscii (by decide)]
      · rwa [mem_lowerAscii (by decide)]
    | v6 bits scope =>
      refine .inl ⟨lowerAscii (net.print (.v6 bits scope)), ?_, ?_⟩
      · simp [uriForm, lowerAscii, lowerAscii_eq_mark]
      · rw [mem_lowerAscii (by decide)]
        exact (hnet.v6 bits scope).2.2
  · rcases List.mem_cons.1 hl with rfl | hmem
    · exact .inr (by decide)
    · rcases List.mem_cons.1 hmem with rfl | hmem
      · exact .inr (by decide)
      · rw [List.mem_singleton.1 hmem]
        exact .inl ⟨ascii "::1", by decide, by decide⟩

def behindAuthority (host : Bytes) : Bytes :=
  (lowerAscii host).drop (lowerAscii (normalizedHostAuthority host)).length

theorem namesListener_iff (hnet : PrintsPlainly net) (a : Address) (host : Bytes) :
    NamesListener net a host ↔
      (lowerAscii (normalizedHostAuthority host) = lowerAscii (uriForm net a) ∨
        lowerAscii (normalizedHostAuthority host) ∈ loopbackNames) ∧
      IsPort (behindAuthority host) := by
  have hnm : (uriForm net a :: loopbackNames).map lowerAscii =
      lowerAscii (uriForm net a) :: loopbackNames := by
    congr 1
  rw [← List.mem_cons, ← hnm, List.mem_map, behindAuthority, lowerAscii_normalizedHostAuthority]
  constructor
  · rintro ⟨name, hmem, port, hp, hh⟩
    have hn := normalizedHostAuthority_append (canStand_names hnet a hmem) hp
    rw [hh, hn, List.drop_left]
    exact ⟨⟨name, hmem, rfl⟩, hp⟩
  · rintro ⟨⟨name, hmem, hn⟩, hp⟩
    refine ⟨name, hmem, _, hp, ?_⟩
    rw [hn]
    exact (List.prefix_iff_eq_append.1 (normalizedHostAuthority_isPrefix _)).symm

theorem hostHeaderMatches_iff {host addr : Bytes} (hne : addr ≠ []) :
    hostHeaderMatches host addr = true ↔
      lowerAscii (normalizedHostAuthority host) = lowerAscii addr ∨
        lowerAscii (normalizedHostAuthority host) ∈ loopbackNames := by
  have hlsn : lowerAscii addr ≠ [] := fun h => hne (List.map_eq_nil_iff.1 h)
  have hnil : [] ∉ loopbackNames := by decide
  unfold hostHeaderMatches
  simp only [decide_eq_true_eq, loopbackNames, List.mem_cons]
  constructor
  · rintro ⟨-, -, h⟩
    tauto
  · intro h
    have ha : lowerAscii (normalizedHostAuthority host) ≠ [] := by
      rintro heq
      rw [heq] at h
      rcases h with h | h
      · exact hlsn h.symm
      · exact hnil (by simpa [loopbackNames] using h)
    refine ⟨?_, ha, by tauto⟩
    rintro rfl
    exact ha rfl

/-- **What the Host check gets right.**  It accepts exactly the names of the listener, unless
something other than a port stands behind an accepted name, or the listener is of version 6 and
is named by its address: with the brackets the address is refused, but for the loopback address,
and without them it is accepted. -/
theorem hostHeaderMatches_exact_iff (hnet : PrintsPlainly net) (a : Address) (host : Bytes) :
    (hostHeaderMatches host (net.print a) = true ↔ NamesListener net a host) ↔
      let authority := lowerAscii (normalizedHostAuthority host)
      (authority ∈ loopbackNames → IsPort (behindAuthority host)) ∧
        match a with
        | .v4 _ => authority = lowerAscii (net.print a) → IsPort (behindAuthority host)
        | .v6 _ _ => authority ≠ lowerAscii (net.print a) ∧
          (authority = lowerAscii (uriForm net a) → IsPort (behindAuthority host) →
            authority ∈ loopbackNames) := by
  rw [namesListener_iff hnet]
  cases a with
  | v4 bits =>
    rw [hostHeaderMatches_iff (hnet.v4 bits).1]
    by_cases hport : IsPort (behindAuthority host)
    · simp [uriForm, hport]
    · simp [hport, and_comm]
  | v6 bits scope =>
    obtain ⟨hcolons, hopen, -⟩ := hnet.v6 bits scope
    have hne : net.print (.v6 bits scope) ≠ [] := by
      intro hnil
      simp [hnil] at hcolons
    have hopen' : openBracket ∉ lowerAscii (net.print (.v6 bits scope)) := by
      rwa [mem_lowerAscii (by decide)]
    -- the address as it prints is neither of the names
    have huri : lowerAscii (net.print (.v6 bits scope)) ≠
        lowerAscii (uriForm net (.v6 bits scope)) := by
      intro heq
      rw [heq, mem_lowerAscii (by decide)] at hopen'
      exact hopen' (by simp [uriForm])
    have hloopback : lowerAscii (net.print (.v6 bits scope)) ∉ loopbackNames := by
      intro hmem
      rw [← count_lowerAscii] at hcolons
      simp only [loopbackNames, List.mem_cons, List.not_mem_nil, or_false] at hmem
      rcases hmem with heq | heq | heq
      · rw [heq] at hcolons
        revert hcolons
        decide
      · rw [heq] at hcolons
        revert hcolons
        decide
      · rw [heq] at hopen'
        exact hopen' (by decide)
    rw [hostHeaderMatches_iff hne]
    by_cases hprints : lowerAscii (normalizedHostAuthority host) =
        lowerAscii (net.print (.v6 bits scope))
    · rw [hprints]
      simp [huri, hloopback]
    · simp only [hprints, false_or, ne_eq, not_false_iff]
      by_cases hport : IsPort (behindAuthority host)
      · simp only [hport, and_true, implies_true, true_and, forall_const]
        exact iff_comm.trans or_iff_right_iff_imp
      · simp [hport]

end Listener

/-! ## A header with more behind the bracket, and one with the brackets of a URI -/

namespace StrayHost

/-- Version 4 addresses print as they do; of version 6, `2001:db8::1` is enough. -/
def net : AddressText where
  make := Endpoint.plainText.make
  print
    | .v4 bits => Endpoint.plainText.print (.v4 bits)
    | .v6 _ _ => ascii "2001:db8::1"

/-- `192.0.2.10`. -/
def listener : Address := .v4 0xc000020a#32

/-- `2001:db8::1`. -/
def listener6 : Address := .v6 0x20010db8000000000000000000000001#128 0

theorem printsPlainly_net : PrintsPlainly net where
  v4 bits := by
    refine ⟨?_, fun hcolon => absurd (Endpoint.isDigit_or_dot_of_mem hcolon) (by decide),
      fun hopen => absurd (Endpoint.isDigit_or_dot_of_mem hopen) (by decide)⟩
    exact List.append_ne_nil_of_left_ne_nil (decimal_ne_nil _) _
  v6 _ _ := by
    change 2 ≤ (ascii "2001:db8::1").count colon ∧ openBracket ∉ ascii "2001:db8::1" ∧
      closeBracket ∉ ascii "2001:db8::1"
    decide

/-- A name of somebody else's is accepted, and the own address of version 6 is refused. -/
theorem stray_host_matches :
    (hostHeaderMatches (ascii "[::1].example.org") (net.print listener) = true ∧
      ¬NamesListener net listener (ascii "[::1].example.org")) ∧
    hostHeaderMatches (ascii "[2001:db8::1]") (net.print listener6) = false ∧
      NamesListener net listener6 (ascii "[2001:db8::1]") := by
  refine ⟨⟨by decide, ?_⟩, by decide, _, List.mem_cons_self, [], .inl rfl, by decide⟩
  rw [namesListener_iff printsPlainly_net]
  rintro ⟨-, hnil | ⟨digits, hdigits, hport⟩⟩
  · revert hnil
    decide
  · revert hport
    exact fun h => absurd (List.cons.inj h).1 (by decide)

theorem own_host_matches :
    PrintsPlainly net ∧ (hostHeaderMatches (ascii "192.0.2.10:8080") (net.print listener) = true ↔
      NamesListener net listener (ascii "192.0.2.10:8080")) := by
  have hport : IsPort (behindAuthority (ascii "192.0.2.10:8080")) :=
    .inr ⟨ascii "8080", by decide, by decide⟩
  exact ⟨printsPlainly_net, (hostHeaderMatches_exact_iff printsPlainly_net listener _).2
    ⟨fun _ => hport, fun _ => hport⟩⟩

end StrayHost

end MiniTun.Admin
