import Mathlib.Data.List.Perm.Basic
import MiniTun.Common.Endpoint
import MiniTun.Server.PolicyDocument

/-!
# Allowed ports

`allowed_ports` is sorted by the start of each range and then compared neighbour by neighbour.
Since a range does not end before it starts, neighbours that do not meet mean that no two
ranges do, in whatever order they were written (`disjointRanges_sorted_iff`).
-/

namespace MiniTun

namespace PortRange

open Endpoint (decimalValue_decimal length_decimal_le maxPortTextLength)

/-! ## The text of a range -/

theorem parsePort_decimal {n : Nat} (h : 0 < n ∧ n ≤ 65535) :
    parsePort (decimal n) = .ok ⟨n, h⟩ := by
  have hlen := length_decimal_le h.2
  have hd : (decimal n).all isDigit = true := List.all_eq_true.2 (decimal_isDigit n)
  simp only [maxPortTextLength] at hlen
  unfold parsePort
  rw [if_neg (decimal_ne_nil n), if_neg (by omega),
    dif_pos (by rwa [decimalValue_decimal, hd, eq_self, true_and])]
  simp only [decimalValue_decimal]

theorem not_mem_decimal {b : UInt8} (h : isDigit b = false) (n : Nat) : b ∉ decimal n := by
  intro hmem
  rw [decimal_isDigit n b hmem] at h
  cases h

theorem not_isWhitespace_of_isDigit {b : UInt8} (h : isDigit b = true) :
    isWhitespace b = false := by
  rw [Endpoint.isDigit_iff] at h
  have hne : ∀ c : UInt8, c.toNat < 48 → b ≠ c := by
    rintro c hc rfl
    omega
  simp [isWhitespace, hne]

theorem any_isWhitespace_decimal (n : Nat) : (decimal n).any isWhitespace = false :=
  List.any_eq_false.2 fun b hb => by
    simp [not_isWhitespace_of_isDigit (decimal_isDigit n b hb)]

theorem parse_toText (range : PortRange) : parse range.toText = .ok range := by
  obtain ⟨start, stop, hpos, hle, hmax⟩ := range
  have hst := length_decimal_le (n := start) (by omega)
  have hsp := length_decimal_le hmax
  have hdash := fun n => not_mem_decimal (b := 45) (by decide) n
  simp only [maxPortTextLength] at hst hsp
  unfold parse toText
  dsimp only
  by_cases heq : start = stop
  · subst heq
    rw [if_pos rfl, if_neg (decimal_ne_nil _), if_neg (by omega), any_isWhitespace_decimal,
      List.count_eq_zero.2 (hdash start)]
    simp only [parsePort_decimal ⟨hpos, hmax⟩]
    rfl
  · have hs := takeWhile_append_separator (decimal stop) (hdash start)
    have htext : decimal start ++ ascii "-" ++ decimal stop =
        decimal start ++ 45 :: decimal stop := by
      rw [List.append_assoc]
      rfl
    simp only [if_neg heq, htext]
    rw [if_neg (by simp), if_neg (by simp only [List.length_append, List.length_cons]; omega),
      if_neg (by simp [any_isWhitespace_decimal, isWhitespace]), List.count_append,
      List.count_cons_self, List.count_eq_zero.2 (hdash start), List.count_eq_zero.2 (hdash stop),
      hs.1, hs.2]
    simp only [List.drop_one, List.tail_cons, parsePort_decimal (n := start) ⟨hpos, by omega⟩,
      parsePort_decimal (n := stop) ⟨by omega, hmax⟩]
    simp [bind, Except.bind, pure, Except.pure, hle]

/-! ## Ranges that do not meet -/

/-- No port lies in both ranges. -/
def Apart (range other : PortRange) : Prop :=
  ∀ port, ¬ (range.contains port = true ∧ other.contains port = true)

theorem Apart.symm {range other : PortRange} (h : Apart range other) : Apart other range :=
  fun port hboth => h port hboth.symm

theorem contains_iff {range : PortRange} {port : Nat} :
    range.contains port = true ↔ range.start ≤ port ∧ port ≤ range.stop := by
  simp [contains]

/-- Of two ranges that do not meet, the one that starts first ends before the other starts. -/
theorem apart_iff_of_le {range other : PortRange} (h : range.start ≤ other.start) :
    Apart range other ↔ range.stop < other.start := by
  have ho := other.start_le
  constructor
  · intro ha
    by_contra hmeet
    apply ha other.start
    rw [contains_iff, contains_iff]
    omega
  · intro hlt port hboth
    rw [contains_iff, contains_iff] at hboth
    omega

end PortRange

namespace Server

open PortRange

theorem disjointRanges_iff (ranges : List PortRange) :
    disjointRanges ranges = true ↔ ranges.IsChain fun range other => range.stop < other.start := by
  fun_induction disjointRanges ranges with
  | case1 range other rest ih => simp [ih]
  | case2 ranges hs =>
    match ranges, hs with
    | [], _ => simp
    | [range], _ => simp
    | range :: other :: rest, hs => exact absurd rfl (hs range other rest)

/-- Comparing neighbours after sorting tells whether any two ranges meet. -/
theorem disjointRanges_sorted_iff (ranges : List PortRange) :
    disjointRanges (ranges.insertionSort fun left right => left.start ≤ right.start) = true ↔
      ranges.Pairwise Apart := by
  have : IsTrans PortRange fun range other => range.stop < other.start :=
    ⟨fun a b c hab hb => by have := b.start_le; omega⟩
  have hs := List.pairwise_insertionSort
    (fun left right : PortRange => left.start ≤ right.start) ranges
  rw [disjointRanges_iff, List.isChain_iff_pairwise,
    ← (List.perm_insertionSort (fun left right => left.start ≤ right.start) ranges).pairwise_iff
      fun h => h.symm]
  constructor
  · intro h
    exact hs.imp₂ (fun _ _ hle hlt => (apart_iff_of_le hle).2 hlt) h
  · intro h
    exact hs.imp₂ (fun _ _ hle ha => (apart_iff_of_le hle).1 ha) h

/-! ## The lists the parser accepts -/

theorem parsePortEntry_string {text : Bytes} {range : PortRange} :
    parsePortEntry (.string text) = .ok range ↔ PortRange.parse text = .ok range := by
  unfold parsePortEntry
  simp only [Json.text?]
  cases PortRange.parse text with
  | error e => simp [failure]
  | ok found => rfl

theorem parseAllowedPorts_eq_ok {texts : List Bytes} (hne : texts ≠ [])
    (hc : texts.length ≤ 256) {ports : List PortRange} :
    parseAllowedPorts (texts.map Json.string) = .ok ports ↔
      ∃ ranges, List.Forall₂ (fun text range => PortRange.parse text = .ok range) texts ranges ∧
        ranges.Pairwise Apart ∧
        ports = ranges.insertionSort fun left right => left.start ≤ right.start := by
  unfold parseAllowedPorts
  rw [if_neg (by simp [hne]; omega), do_eq_ok]
  simp only [mapM_eq_ok, List.forall₂_map_left_iff, parsePortEntry_string]
  refine exists_congr fun ranges => and_congr_right fun _ => ?_
  by_cases hp : ranges.Pairwise Apart
  · simp [(disjointRanges_sorted_iff ranges).2 hp, hp, pure, Except.pure, eq_comm]
  · simp [mt (disjointRanges_sorted_iff ranges).1 hp, hp, failure]

theorem isOk_parseAllowedPorts_iff {texts : List Bytes} (hne : texts ≠ [])
    (hc : texts.length ≤ 256) :
    (parseAllowedPorts (texts.map Json.string)).isOk = true ↔
      ∃ ranges, List.Forall₂ (fun text range => PortRange.parse text = .ok range) texts ranges ∧
        ranges.Pairwise Apart := by
  constructor
  · intro h
    cases hp : parseAllowedPorts (texts.map Json.string) with
    | error e => simp [hp, Except.toBool] at h
    | ok ports =>
      obtain ⟨ranges, hran, ha, -⟩ := (parseAllowedPorts_eq_ok hne hc).1 hp
      exact ⟨ranges, hran, ha⟩
  · rintro ⟨ranges, hran, ha⟩
    rw [(parseAllowedPorts_eq_ok hne hc).2 ⟨ranges, hran, ha, rfl⟩]
    rfl

theorem exists_apart_of_perm {texts others : List Bytes} (hperm : others.Perm texts)
    (h : ∃ ranges, List.Forall₂ (fun text range => PortRange.parse text = .ok range) texts ranges ∧
      ranges.Pairwise Apart) :
    ∃ ranges, List.Forall₂ (fun text range => PortRange.parse text = .ok range) others ranges ∧
      ranges.Pairwise Apart := by
  obtain ⟨ranges, hran, ha⟩ := h
  obtain ⟨moved, hm, hs⟩ := List.perm_comp_forall₂ hperm hran
  exact ⟨moved, hm, (hs.pairwise_iff fun h => h.symm).2 ha⟩

/-- **Sets of allowed ports.**  A list of texts is accepted exactly if every text is a range and
no two of them meet, in whatever order; it then allows the ports of its ranges.  A range is
what its own text says, and its bounds are ports. -/
theorem allowedPorts_correct {texts : List Bytes} (hne : texts ≠ []) (hcount : texts.length ≤ 256) :
    ((parseAllowedPorts (texts.map Json.string)).isOk = true ↔
      ∃ ranges, List.Forall₂ (fun text range => PortRange.parse text = .ok range) texts ranges ∧
        ranges.Pairwise Apart) ∧
    (∀ others : List Bytes, others.Perm texts →
      (parseAllowedPorts (others.map Json.string)).isOk =
        (parseAllowedPorts (texts.map Json.string)).isOk) ∧
    (∀ fields : PolicyFields,
      parseAllowedPorts (texts.map Json.string) = .ok fields.allowedPorts → ∀ port : UInt16,
        (fields.allowsPort port.toNat = true ↔ ∃ text ∈ texts, ∃ range : PortRange,
          PortRange.parse text = .ok range ∧ range.contains port.toNat = true)) ∧
    (∀ range : PortRange, PortRange.parse range.toText = .ok range) ∧
    ∀ text (range : PortRange), PortRange.parse text = .ok range →
      1 ≤ range.start ∧ range.start ≤ range.stop ∧ range.stop ≤ 65535 := by
  refine ⟨isOk_parseAllowedPorts_iff hne hcount, fun others hperm => ?_, fun fields h port => ?_,
    parse_toText, fun _ range _ => ⟨range.start_pos, range.start_le, range.stop_le⟩⟩
  · have hne' : others ≠ [] := by
      rintro rfl
      exact hne hperm.nil_eq.symm
    rw [Bool.eq_iff_iff, isOk_parseAllowedPorts_iff hne hcount,
      isOk_parseAllowedPorts_iff hne' (hperm.length_eq ▸ hcount)]
    exact ⟨exists_apart_of_perm hperm.symm, exists_apart_of_perm hperm⟩
  · obtain ⟨ranges, hranges, -, hports⟩ := (parseAllowedPorts_eq_ok hne hcount).1 h
    have hmem : ∀ range, range ∈ ranges ↔ ∃ text ∈ texts, PortRange.parse text = .ok range :=
      mem_of_mapM_eq_ok (mapM_eq_ok.2 hranges)
    rw [PolicyFields.allowsPort, hports, List.any_eq_true]
    simp only [List.mem_insertionSort, hmem]
    constructor
    · rintro ⟨range, ⟨text, htext, hparse⟩, hcontains⟩
      exact ⟨text, htext, range, hparse, hcontains⟩
    · rintro ⟨text, htext, range, hparse, hcontains⟩
      exact ⟨range, ⟨text, htext, hparse⟩, hcontains⟩

theorem allowedPorts_touching :
    (parseAllowedPorts ([ascii "6001-6999", ascii "6000"].map Json.string)).isOk = true := by
  refine ((allowedPorts_correct (by decide) (by decide)).1).2
    ⟨[⟨6001, 6999, by decide, by decide, by decide⟩, ⟨6000, 6000, by decide, by decide, by decide⟩],
      .cons rfl (.cons rfl .nil), List.pairwise_pair.2 ?_⟩
  apply Apart.symm
  exact (apart_iff_of_le (by decide)).2 (by decide)

end Server

end MiniTun
