import MiniTun.Server.PolicyDocument
import MiniTun.Server.SourceAdmission

/-!
# Source networks

What `allowed_source_cidrs` admits, bit by bit.  The source compares masked words for version
4 and whole bytes with a masked rest for version 6; both come to the first bits of the two
addresses being the same (`matchesAddress_iff`).  A network of one family says nothing about
addresses of the other, and `allows_source` takes an address in the family it is given in: a
version 4 address and its mapped form are judged by different entries.
-/

namespace MiniTun.Server

/-! ## The first bits of an address -/

/-- The two words begin with the same `n` bits. -/
def SharesBits {w : Nat} (n : Nat) (x y : BitVec w) : Prop :=
  ∀ i < n, x.getMsbD i = y.getMsbD i

/-- Two addresses of one family that begin with the same `n` bits. -/
def SharesPrefix (n : Nat) : Address → Address → Prop
  | .v4 network, .v4 source => SharesBits n network source
  | .v6 network _, .v6 source _ => SharesBits n network source
  | _, _ => False

/-- Comparing under a mask of leading ones compares the leading bits. -/
theorem masked_eq_iff {w : Nat} (n : Nat) (x y : BitVec w) :
    x &&& (BitVec.allOnes w <<< (w - n)) = y &&& (BitVec.allOnes w <<< (w - n)) ↔
      SharesBits n x y := by
  have hmask : ∀ i, (BitVec.allOnes w <<< (w - n)).getMsbD i = decide (i < n ∧ i < w) := by
    intro i
    rw [BitVec.getMsbD_shiftLeft, BitVec.getMsbD_allOnes, decide_eq_decide]
    omega
  constructor
  · intro h i hi
    by_cases hw : i < w
    · have hbit := congrArg (fun z => BitVec.getMsbD z i) h
      simpa [hmask, hi, hw] using hbit
    · rw [BitVec.getMsbD_of_ge _ _ (by omega), BitVec.getMsbD_of_ge _ _ (by omega)]
  · intro h
    apply BitVec.eq_of_getMsbD_eq
    intro i _
    rw [BitVec.getMsbD_and, BitVec.getMsbD_and, hmask]
    by_cases hn : i < n
    · rw [h i hn]
    · simp [hn]

theorem matchesV4_iff (network src : BitVec 32) (n : Nat) :
    matchesV4 network src n = true ↔ SharesBits n network src := by
  unfold matchesV4
  by_cases hz : n = 0
  · subst hz
    simp [SharesBits]
  · rw [if_neg hz, decide_eq_true_iff, masked_eq_iff]

theorem getMsbD_byte (bits : BitVec 128) {k j : Nat} (hk : k < 16) (hj : j < 8) :
    (bits.extractLsb' (8 * (15 - k)) 8).getMsbD j = bits.getMsbD (8 * k + j) := by
  have hp : 8 * (15 - k) + (7 - j) = 127 - (8 * k + j) := by omega
  have hbyte : 7 - j < 8 := by omega
  have hbit : 8 * k + j < 128 := by omega
  simp [BitVec.getMsbD_eq_getLsbD, hp, hbyte, hbit, hj]

theorem take_v6Bytes_eq_iff (x y : BitVec 128) (m : Nat) :
    (v6Bytes x).take m = (v6Bytes y).take m ↔ SharesBits (8 * m) x y := by
  unfold v6Bytes
  rw [← List.map_take, ← List.map_take, List.take_range, List.map_inj_left]
  constructor
  · intro h i hi
    by_cases hi' : i < 128
    · have hbyte := h (i / 8) (List.mem_range.2 (by omega))
      have hbit := congrArg (fun z => BitVec.getMsbD z (i % 8)) hbyte
      simp only [getMsbD_byte _ (show i / 8 < 16 by omega) (Nat.mod_lt i (by decide))] at hbit
      rwa [Nat.div_add_mod] at hbit
    · rw [BitVec.getMsbD_of_ge _ _ (by omega), BitVec.getMsbD_of_ge _ _ (by omega)]
  · intro h k hk
    rw [List.mem_range] at hk
    apply BitVec.eq_of_getMsbD_eq
    intro j hj
    rw [getMsbD_byte x (by omega) hj, getMsbD_byte y (by omega) hj]
    exact h _ (by omega)

theorem getD_v6Bytes {m : Nat} (x : BitVec 128) (hm : m < 16) :
    (v6Bytes x).getD m 0 = x.extractLsb' (8 * (15 - m)) 8 := by
  simp [v6Bytes, List.getElem?_range hm]

theorem matchesV6_iff {network src : BitVec 128} {n : Nat} (hn : n ≤ 128) :
    matchesV6 network src n = true ↔ SharesBits n network src := by
  have hs := Nat.div_add_mod n 8
  unfold matchesV6
  by_cases hby : SharesBits (8 * (n / 8)) network src
  · rw [if_neg (not_not.2 ((take_v6Bytes_eq_iff network src _).2 hby))]
    by_cases hr : n % 8 = 0
    · rw [if_pos hr]
      rw [hr, Nat.add_zero] at hs
      rw [hs] at hby
      exact iff_of_true rfl hby
    · rw [if_neg hr, decide_eq_true_iff, getD_v6Bytes _ (by omega), getD_v6Bytes _ (by omega)]
      -- the mask has as many leading ones as bits are left
      refine (masked_eq_iff (n % 8) _ _).trans ⟨fun h i hi => ?_, fun h j hj => ?_⟩
      · by_cases hlow : i < 8 * (n / 8)
        · exact hby i hlow
        · have hbit := h (i - 8 * (n / 8)) (by omega)
          rw [getMsbD_byte _ (by omega) (by omega), getMsbD_byte _ (by omega) (by omega)] at hbit
          rwa [Nat.add_sub_cancel' (by omega)] at hbit
      · rw [getMsbD_byte _ (by omega) (by omega), getMsbD_byte _ (by omega) (by omega)]
        exact h _ (by omega)
  · rw [if_pos (mt (take_v6Bytes_eq_iff network src _).1 hby)]
    exact iff_of_false nofun fun h => hby fun i hi => h i (by omega)

/-- The body of the loop, for the prefix lengths the parser lets through. -/
theorem matchesAddress_iff {cidr : SourceCidr} (src : Address)
    (h : cidr.prefixLength ≤ cidr.network.maximumPrefix) :
    cidr.matchesAddress src = true ↔ SharesPrefix cidr.prefixLength cidr.network src := by
  obtain ⟨network, n⟩ := cidr
  cases network with
  | v4 network =>
    cases src with
    | v4 src => exact matchesV4_iff network src n
    | v6 src scope => exact iff_of_false nofun id
  | v6 network networkScope =>
    cases src with
    | v4 src => exact iff_of_false nofun id
    | v6 src scope => exact matchesV6_iff h

/-! ## The texts of a policy -/

/-- A text `address/length` as the parser takes it, with what it stands for. -/
def IsCidr (net : AddressText) (text : Bytes) (network : Address) (n : Nat) : Prop :=
  ∃ host digits, text = host ++ 47 :: digits ∧ host ≠ [] ∧ (47 : UInt8) ∉ host ∧
    net.make host = some network ∧ parseCidrPrefix digits = some n ∧ n ≤ network.maximumPrefix

theorem eq_takeWhile_append {sep : UInt8} {text : Bytes}
    (h : text.drop ((text.takeWhile (· ≠ sep)).length + 1) ≠ []) :
    text = text.takeWhile (· ≠ sep) ++
      sep :: text.drop ((text.takeWhile (· ≠ sep)).length + 1) := by
  induction text with
  | nil => simp at h
  | cons b text ih =>
    by_cases hb : b = sep
    · simp [hb]
    · simp only [ne_eq, hb, not_false_eq_true, decide_true, List.takeWhile_cons_of_pos,
        List.length_cons, List.drop_succ_cons, List.cons_append] at h ⊢
      rw [← ih h]

theorem parseCidr_eq_ok {net : AddressText} {val : Json} {cidr : SourceCidr} :
    parseCidr net val = .ok cidr ↔
      ∃ text, val.text? = some text ∧ IsCidr net text cidr.network cidr.prefixLength := by
  unfold parseCidr IsCidr
  cases ht : val.text? with
  | none => simp [failure]
  | some text =>
    simp only [Option.some.injEq, exists_eq_left']
    constructor
    · intro h
      split at h
      · exact absurd h failure_ne_ok
      next hp =>
      rw [not_or] at hp
      split at h
      · next addr n hmk hd =>
        split at h
        · next hle =>
          cases h
          refine ⟨_, _, eq_takeWhile_append hp.2, hp.1, ?_, hmk, hd, hle⟩
          intro hmem
          simpa using List.mem_takeWhile_imp hmem
        · exact absurd h failure_ne_ok
      · exact absurd h failure_ne_ok
    · rintro ⟨host, digits, rfl, hh, hs, hmk, hd, hle⟩
      have hne : digits ≠ [] := by
        rintro rfl
        simp [parseCidrPrefix] at hd
      rw [(takeWhile_append_separator digits hs).1, List.drop_append,
        List.drop_of_length_le (by omega)]
      simp [hh, hne, hmk, hd, hle]

/-- The networks of an accepted entry are those of its texts; without the field there are
none. -/
theorem parseSourceCidrs_ok {net : AddressText} {ent : Json} {cidrs : List SourceCidr}
    (h : parseSourceCidrs net ent = .ok cidrs) :
    (ent.field? (ascii "allowed_source_cidrs") = none ∧ cidrs = []) ∨
      ∃ items, ent.field? (ascii "allowed_source_cidrs") = some (.array items) ∧ cidrs ≠ [] ∧
        ∀ cidr, cidr ∈ cidrs ↔ ∃ text, Json.string text ∈ items ∧
          IsCidr net text cidr.network cidr.prefixLength := by
  unfold parseSourceCidrs at h
  split at h
  · next hf =>
    cases h
    exact .inl ⟨hf, rfl⟩
  · next val hf =>
    split at h
    · exact absurd h failure_ne_ok
    next items hite =>
    split at h
    · exact absurd h failure_ne_ok
    next hc =>
    cases val with
    | array items =>
      cases hite
      refine .inr ⟨items, hf, ?_, fun cidr => ?_⟩
      · rintro rfl
        exact hc (.inl (List.forall₂_nil_right_iff.1 (mapM_eq_ok.1 h)))
      · simp only [mem_of_mapM_eq_ok h, parseCidr_eq_ok]
        constructor
        · rintro ⟨item, hitem, text, ht, hcidr⟩
          cases item with
          | string => cases ht; exact ⟨_, hitem, hcidr⟩
          | _ => cases ht
        · rintro ⟨text, hitem, hcidr⟩
          exact ⟨_, hitem, text, rfl, hcidr⟩
    | _ => cases hite

section Accepted

variable {net : AddressText} {fs : FileSystem} {directory : LexicalPath.Path Bytes}
  {limits : ClientPolicyLimits} {entry : Json} {fields : PolicyFields}

theorem parseSourceCidrs_of_loadFields (h : loadFields net fs directory limits entry = .ok fields) :
    parseSourceCidrs net entry = .ok fields.allowedSourceCidrs := by
  unfold loadFields at h
  split at h
  · exact absurd h failure_ne_ok
  split at h
  · exact absurd h failure_ne_ok
  simp only [bind, bind_eq_ok] at h
  obtain ⟨_, _, _, _, _, _, _, _, _, _, _, _, _, _, cidrs, hcid, _, _, hfs⟩ := h
  cases hfs
  exact hcid

theorem prefixLength_le_of_loadFields (h : loadFields net fs directory limits entry = .ok fields) :
    ∀ cidr ∈ fields.allowedSourceCidrs, cidr.prefixLength ≤ cidr.network.maximumPrefix := by
  intro cidr hmem
  obtain ⟨-, hnil⟩ | ⟨items, -, -, hmem_iff⟩ :=
    parseSourceCidrs_ok (parseSourceCidrs_of_loadFields h)
  · rw [hnil] at hmem
    cases hmem
  · obtain ⟨text, -, host, digits, -, -, -, -, -, hle⟩ := (hmem_iff cidr).1 hmem
    exact hle

theorem allowsSource_iff {p : PolicyFields} (src : Address)
    (h : ∀ cidr ∈ p.allowedSourceCidrs, cidr.prefixLength ≤ cidr.network.maximumPrefix) :
    p.allowsSource src = true ↔ p.allowedSourceCidrs = [] ∨
      ∃ cidr ∈ p.allowedSourceCidrs, SharesPrefix cidr.prefixLength cidr.network src := by
  unfold PolicyFields.allowsSource
  rw [Bool.or_eq_true, decide_eq_true_iff, List.any_eq_true]
  refine or_congr_right (exists_congr fun cidr => and_congr_right fun hmem => ?_)
  exact matchesAddress_iff src (h cidr hmem)

theorem SharesPrefix.symm {n : Nat} {x y : Address} (h : SharesPrefix n x y) :
    SharesPrefix n y x := by
  cases x <;> cases y <;> first | exact fun i hi => (h i hi).symm | exact h

theorem SharesPrefix.trans {n : Nat} {x y z : Address} (h : SharesPrefix n x y)
    (h' : SharesPrefix n y z) : SharesPrefix n x z := by
  cases x <;> cases y <;> cases z <;>
    first | exact fun i hi => (h i hi).trans (h' i hi) | exact h.elim | exact h'.elim

theorem SharesPrefix.maximumPrefix_eq {n : Nat} {x y : Address} (h : SharesPrefix n x y) :
    x.maximumPrefix = y.maximumPrefix := by
  cases x <;> cases y <;> first | rfl | exact h.elim

/-- Every network of the first list is one of the second, up to the bits behind the prefix. -/
def NetworksIn (cidrs others : List SourceCidr) : Prop :=
  ∀ cidr ∈ cidrs, ∃ other ∈ others, other.prefixLength = cidr.prefixLength ∧
    SharesPrefix cidr.prefixLength cidr.network other.network

theorem NetworksIn.admits {cidrs others : List SourceCidr} {src : Address}
    (hin : NetworksIn cidrs others) (hout : NetworksIn others cidrs)
    (h : others = [] ∨ ∃ cidr ∈ others, SharesPrefix cidr.prefixLength cidr.network src) :
    cidrs = [] ∨ ∃ cidr ∈ cidrs, SharesPrefix cidr.prefixLength cidr.network src := by
  rcases h with rfl | ⟨cidr, hmem, hsha⟩
  · left
    apply List.eq_nil_iff_forall_not_mem.2
    intro cidr hmem
    obtain ⟨other, ho, -⟩ := hin cidr hmem
    cases ho
  · right
    obtain ⟨other, ho, hlen, hs⟩ := hout cidr hmem
    refine ⟨other, ho, ?_⟩
    rw [hlen]
    exact hs.symm.trans hsha

/-- **Networks are matched bit by bit**: an accepted policy admits a source exactly if it lists
no networks or has a text `a/n` for an address `a` of the same family with the same first `n`
bits.  Nothing else about the list matters: neither its order nor the bits behind a prefix. -/
theorem allowsSource_bitwise (h : loadFields net fs directory limits entry = .ok fields)
    (source : Address) :
    (fields.allowsSource source = true ↔
      entry.field? (ascii "allowed_source_cidrs") = none ∨
        ∃ items text network n, entry.field? (ascii "allowed_source_cidrs") = some (.array items) ∧
          Json.string text ∈ items ∧ IsCidr net text network n ∧ SharesPrefix n network source) ∧
    ∀ other : PolicyFields, NetworksIn fields.allowedSourceCidrs other.allowedSourceCidrs →
      NetworksIn other.allowedSourceCidrs fields.allowedSourceCidrs →
      other.allowsSource source = fields.allowsSource source := by
  have hmaximum := prefixLength_le_of_loadFields h
  refine ⟨?_, fun other hin hout => ?_⟩
  · rw [allowsSource_iff source hmaximum]
    obtain ⟨hfield, hnil⟩ | ⟨items, hfield, hne, hmem_iff⟩ :=
      parseSourceCidrs_ok (parseSourceCidrs_of_loadFields h)
    · exact iff_of_true (.inl hnil) (.inl hfield)
    · simp only [hne, hfield, hmem_iff, false_or, reduceCtorEq, Option.some.injEq, Json.array.injEq]
      constructor
      · rintro ⟨cidr, ⟨text, hitem, hcidr⟩, hshares⟩
        exact ⟨items, text, _, _, rfl, hitem, hcidr, hshares⟩
      · rintro ⟨_, text, network, n, rfl, hitem, hcidr, hshares⟩
        exact ⟨⟨network, n⟩, ⟨text, hitem, hcidr⟩, hshares⟩
  · have hother : ∀ cidr ∈ other.allowedSourceCidrs,
        cidr.prefixLength ≤ cidr.network.maximumPrefix := by
      intro cidr hmem
      obtain ⟨listed, hlisted, hlength, hshares⟩ := hout cidr hmem
      rw [← hlength, hshares.maximumPrefix_eq]
      exact hmaximum listed hlisted
    rw [Bool.eq_iff_iff, allowsSource_iff source hother, allowsSource_iff source hmaximum]
    exact ⟨NetworksIn.admits hin hout, NetworksIn.admits hout hin⟩

end Accepted

namespace Sample

/-- The sample client with one network, written with bits behind its prefix. -/
def sourcedEntry : Json :=
  (entry pskFile 4 8).setField (ascii "allowed_source_cidrs")
    (.array [.string (ascii "127.0.0.1/8")])

def sourcedFields : PolicyFields :=
  { policy with allowedSourceCidrs := [⟨.v4 0x7f000001#32, 8⟩] }

theorem loadFields_sourced :
    loadFields net disk directory limits sourcedEntry = .ok sourcedFields := by
  rfl

end Sample

open Sample

theorem allowsSource_loopback :
    sourcedFields.allowsSource (.v4 0x7f010203#32) = true := by
  refine ((allowsSource_bitwise loadFields_sourced _).1).2 (.inr
    ⟨_, ascii "127.0.0.1/8", .v4 0x7f000001#32, 8, rfl, List.mem_singleton.2 rfl, ?_, ?_⟩)
  · exact ⟨loopback, ascii "8", by decide, by decide, by decide, rfl, by decide, by decide⟩
  · unfold SharesPrefix SharesBits
    decide

/-! ## Mapped addresses -/

/-- The version 6 address `::ffff:a` that stands for a version 4 address. -/
def mapped (a : BitVec 32) : Address :=
  .v6 (0#80 ++ 0xffff#16 ++ a) 0

/-- A version 6 network that holds `::ffff:a`: one above `::ffff:0:0/96`, which holds every mapped
address, or one inside it, whose last bits are a version 4 network that holds `a`. -/
def CoversMapped (network : BitVec 128) (n : Nat) (a : BitVec 32) : Prop :=
  if n ≤ 96 then SharesBits n (network.extractLsb' 32 96) 0xffff#96
  else network.extractLsb' 32 96 = 0xffff#96 ∧ SharesBits (n - 96) (network.extractLsb' 0 32) a

/-- The leading bits of a word of two parts are those of its first part, then of its second. -/
theorem sharesBits_append {v w n : Nat} {x x' : BitVec v} {y y' : BitVec w} :
    SharesBits n (x ++ y) (x' ++ y') ↔ SharesBits n x x' ∧ SharesBits (n - v) y y' := by
  simp only [SharesBits, BitVec.getMsbD_append]
  constructor
  · intro h
    refine ⟨fun i hi => ?_, fun i hi => ?_⟩
    · by_cases hv : v ≤ i
      · rw [BitVec.getMsbD_of_ge _ _ hv, BitVec.getMsbD_of_ge _ _ hv]
      · simpa [hv] using h i hi
    · simpa using h (v + i) (by omega)
  · rintro ⟨hfirst, hsecond⟩ i hi
    split
    · exact hsecond _ (by omega)
    · exact hfirst i hi

theorem sharesBits_all {w n : Nat} (hn : w ≤ n) {x y : BitVec w} : SharesBits n x y ↔ x = y := by
  constructor
  · intro h
    exact BitVec.eq_of_getMsbD_eq fun i hi => h i (by omega)
  · rintro rfl i _
    rfl

theorem sharesPrefix_mapped_iff {network : BitVec 128} {scope n : Nat} {a : BitVec 32} :
    SharesPrefix n (.v6 network scope) (mapped a) ↔ CoversMapped network n a := by
  have hparts : network.extractLsb' 32 96 ++ network.extractLsb' 0 32 = network := by
    rw [BitVec.extractLsb'_append_extractLsb'_eq_extractLsb' (by decide : 32 = 0 + 32)]
    exact BitVec.extractLsb'_eq_self
  have hmapped : (0#80 ++ 0xffff#16 : BitVec 96) = 0xffff#96 := by decide
  change SharesBits n network (0#80 ++ 0xffff#16 ++ a) ↔ _
  rw [hmapped, ← hparts, sharesBits_append, hparts, CoversMapped]
  split
  · next hle =>
    have hzero : n - 96 = 0 := by omega
    simp [hzero, SharesBits]
  · next hg => rw [sharesBits_all (by omega)]

/-- **A version 4 address and its mapped form** get one verdict exactly if the policy lists no
networks, or a version 4 entry holds the address when a version 6 entry above or inside
`::ffff:0:0/96` holds its mapped form. -/
theorem allowsSource_mapped_iff {net : AddressText} {fs : FileSystem}
    {directory : LexicalPath.Path Bytes} {limits : ClientPolicyLimits} {entry : Json}
    {fields : PolicyFields} (h : loadFields net fs directory limits entry = .ok fields)
    (a : BitVec 32) :
    fields.allowsSource (.v4 a) = fields.allowsSource (mapped a) ↔
      fields.allowedSourceCidrs = [] ∨
        ((∃ network n, ⟨.v4 network, n⟩ ∈ fields.allowedSourceCidrs ∧ SharesBits n network a) ↔
          ∃ network scope n, ⟨.v6 network scope, n⟩ ∈ fields.allowedSourceCidrs ∧
            CoversMapped network n a) := by
  have hmaximum := prefixLength_le_of_loadFields h
  have hfour : (∃ cidr ∈ fields.allowedSourceCidrs,
      SharesPrefix cidr.prefixLength cidr.network (.v4 a)) ↔
      ∃ network n, ⟨.v4 network, n⟩ ∈ fields.allowedSourceCidrs ∧ SharesBits n network a := by
    constructor
    · rintro ⟨⟨network, n⟩, hmem, hshares⟩
      cases network with
      | v4 network => exact ⟨network, n, hmem, hshares⟩
      | v6 network scope => exact hshares.elim
    · rintro ⟨network, n, hmem, hshares⟩
      exact ⟨_, hmem, hshares⟩
  have hsix : (∃ cidr ∈ fields.allowedSourceCidrs,
      SharesPrefix cidr.prefixLength cidr.network (mapped a)) ↔
      ∃ network scope n, ⟨.v6 network scope, n⟩ ∈ fields.allowedSourceCidrs ∧
        CoversMapped network n a := by
    constructor
    · rintro ⟨⟨network, n⟩, hmem, hshares⟩
      cases network with
      | v4 network => exact hshares.elim
      | v6 network scope => exact ⟨network, scope, n, hmem, sharesPrefix_mapped_iff.1 hshares⟩
    · rintro ⟨network, scope, n, hmem, hcovers⟩
      exact ⟨_, hmem, sharesPrefix_mapped_iff.2 hcovers⟩
  rw [Bool.eq_iff_iff, allowsSource_iff _ hmaximum, allowsSource_iff _ hmaximum, hfour, hsix]
  by_cases hnil : fields.allowedSourceCidrs = []
  · simp [hnil]
  · simp [hnil]

/-- With a version 4 entry alone the two forms of an address it covers are told apart. -/
theorem mapped_loopback_refused :
    loadFields net disk directory limits sourcedEntry =
      .ok sourcedFields ∧
    sourcedFields.allowsSource (.v4 0x7f000001#32) = true ∧
    sourcedFields.allowsSource (mapped 0x7f000001#32) = false :=
  ⟨loadFields_sourced, by decide, by decide⟩

/-- An address that no entry holds in either form is refused in both. -/
theorem mapped_other_same :
    sourcedFields.allowsSource (.v4 0x08080808#32) =
      sourcedFields.allowsSource (mapped 0x08080808#32) := by
  refine (allowsSource_mapped_iff loadFields_sourced _).2 (.inr (iff_of_false ?_ ?_))
  · rintro ⟨network, n, hmem, hshares⟩
    cases List.mem_singleton.1 hmem
    exact absurd (hshares 1 (by decide)) (by decide)
  · rintro ⟨network, scope, n, hmem, -⟩
    cases List.mem_singleton.1 hmem

end MiniTun.Server
