import Mathlib.Data.List.AList

/-!
# Keyed maps with bulk removal

Mathlib's association lists carry the proof that no key occurs twice, and have
lookup, insertion and removal of one key.  A registry also removes every entry
whose value meets a test, counts such entries and adds up what they hold; these are
added here, each with the lemmas that say what a change of one entry does to it.
-/

namespace KeyedMap

variable {K V : Type*} [DecidableEq K]

/-- A finite map with values of one type. -/
abbrev Map (K V : Type*) := AList fun _ : K => V

variable (test : V → Bool) (wgt : V → Nat) (keep : V → Bool)

/-- Keep exactly the entries whose value passes the test. -/
def retain (m : Map K V) : Map K V :=
  ⟨m.entries.filter fun e => keep e.2,
    List.NodupKeys.sublist List.filter_sublist m.nodupKeys⟩

/-- Keep exactly the entries whose key passes the test. -/
def retainKeys (keep : K → Bool) (m : Map K V) : Map K V :=
  ⟨m.entries.filter fun e => keep e.1,
    List.NodupKeys.sublist List.filter_sublist m.nodupKeys⟩

def mapValues {W : Type*} (f : V → W) (m : Map K V) : Map K W :=
  ⟨m.entries.map fun e => ⟨e.1, f e.2⟩, by
    have hkeys : (m.entries.map fun e => (⟨e.1, f e.2⟩ : Sigma fun _ : K => W)).keys =
        m.entries.keys := by
      simp [List.keys, Function.comp_def]
    unfold List.NodupKeys
    rw [hkeys]
    exact m.nodupKeys⟩

/-- The number of entries whose value passes the test. -/
def countIf (m : Map K V) : Nat :=
  m.entries.countP fun e => test e.2

/-- What the entries hold together. -/
def sumBy (weight : V → Nat) (m : Map K V) : Nat :=
  m.entries.foldr (fun e total => weight e.2 + total) 0

def size (m : Map K V) : Nat :=
  m.entries.length

variable {k : K} {m : Map K V} {v : V}

theorem lookup_eq_some_iff : m.lookup k = some v ↔ (⟨k, v⟩ : Sigma fun _ : K => V) ∈ m.entries :=
  AList.mem_lookup_iff

@[simp] theorem lookup_empty (k : K) : (∅ : Map K V).lookup k = none :=
  AList.lookup_empty k

theorem lookup_insert_eq_ite (m : Map K V) (k j : K) (v : V) :
    (m.insert k v).lookup j = if j = k then some v else m.lookup j := by
  split
  · next h => subst h; exact AList.lookup_insert m
  · next h => exact AList.lookup_insert_ne h

theorem lookup_insert_ne_none {j : K} (h : m.lookup j ≠ none) (k : K) (v : V) :
    (m.insert k v).lookup j ≠ none := by
  rw [lookup_insert_eq_ite]
  split
  · exact Option.some_ne_none v
  · exact h

theorem forall_lookup_insert {P : K → V → Prop} (hnew : P k v)
    (hold : ∀ j w, m.lookup j = some w → P j w) :
    ∀ j w, (m.insert k v).lookup j = some w → P j w := by
  intro j w h
  rw [lookup_insert_eq_ite] at h
  split at h
  · next heq =>
    cases h
    exact heq ▸ hnew
  · exact hold j w h

theorem lookup_erase_eq_ite (m : Map K V) (k j : K) :
    (m.erase k).lookup j = if j = k then none else m.lookup j := by
  split
  · next h => subst h; exact AList.lookup_erase j m
  · next h => exact AList.lookup_erase_ne h

theorem lookup_of_erase {j : K} (h : (m.erase k).lookup j = some v) : m.lookup j = some v := by
  rw [lookup_erase_eq_ite] at h
  split at h
  · cases h
  · exact h

theorem lookup_retain (m : Map K V) (k : K) :
    (retain keep m).lookup k = (m.lookup k).filter keep := by
  apply Option.ext
  intro v
  rw [Option.filter_eq_some_iff, lookup_eq_some_iff, lookup_eq_some_iff]
  simp [retain]

theorem lookup_retainKeys (keep : K → Bool) (m : Map K V) (k : K) :
    (retainKeys keep m).lookup k = if keep k then m.lookup k else none := by
  apply Option.ext
  intro v
  rw [lookup_eq_some_iff]
  split
  · next hk => simp [retainKeys, lookup_eq_some_iff, hk]
  · next hk => simp [retainKeys, hk]

theorem lookup_mapValues {W : Type*} (f : V → W) (m : Map K V) (k : K) :
    (mapValues f m).lookup k = (m.lookup k).map f := by
  apply Option.ext
  intro w
  rw [Option.map_eq_some_iff]
  simp only [lookup_eq_some_iff, mapValues, List.mem_map]
  constructor
  · rintro ⟨⟨j, v⟩, hmem, heq⟩
    cases heq
    exact ⟨v, hmem, rfl⟩
  · rintro ⟨v, hmem, rfl⟩
    exact ⟨⟨k, v⟩, hmem, rfl⟩

theorem lookup_retain_eq_some {keep : V → Bool} :
    (retain keep m).lookup k = some v ↔ m.lookup k = some v ∧ keep v = true := by
  rw [lookup_retain, Option.filter_eq_some_iff]

/-! ## Counting -/

theorem size_erase_le (m : Map K V) (k : K) : size (m.erase k) ≤ size m :=
  (List.kerase_sublist k m.entries).length_le

omit [DecidableEq K] in
theorem size_retain_le (m : Map K V) : size (retain keep m) ≤ size m :=
  List.length_filter_le _ _

theorem size_insert_le (m : Map K V) (k : K) (v : V) : size (m.insert k v) ≤ size m + 1 := by
  exact Nat.succ_le_succ (List.kerase_sublist k m.entries).length_le

/-- What the entries hold, one by one. -/
def values (m : Map K V) : List V :=
  m.entries.map Sigma.snd

omit [DecidableEq K] in
theorem length_values (m : Map K V) : (values m).length = size m :=
  List.length_map _

theorem mem_values : v ∈ values m ↔ ∃ k, m.lookup k = some v := by
  unfold values
  rw [List.mem_map]
  constructor
  · rintro ⟨⟨k, _⟩, hmem, rfl⟩
    exact ⟨k, lookup_eq_some_iff.2 hmem⟩
  · rintro ⟨k, hk⟩
    exact ⟨⟨k, v⟩, lookup_eq_some_iff.1 hk, rfl⟩

theorem values_insert (h : m.lookup k = none) (v : V) : values (m.insert k v) = v :: values m := by
  unfold values
  rw [AList.entries_insert_of_notMem (AList.lookup_eq_none.1 h), List.map_cons]

theorem perm_values_erase (h : m.lookup k = some v) :
    (values m).Perm (v :: values (m.erase k)) := by
  have hk : k ∈ m.entries.keys := List.mem_keys_of_mem (lookup_eq_some_iff.1 h)
  obtain ⟨u, before, after, hb, hent, he⟩ := List.exists_of_kerase hk
  have hu : u = v := by
    have hmem : m.lookup k = some u := lookup_eq_some_iff.2 (by rw [hent]; simp)
    rw [h] at hmem
    exact (Option.some.inj hmem).symm
  change (m.entries.map Sigma.snd).Perm (v :: (m.entries.kerase k).map Sigma.snd)
  rw [he, hent, hu, List.map_append, List.map_append]
  exact List.perm_middle

theorem size_erase_add_one (h : m.lookup k = some v) : size (m.erase k) + 1 = size m := by
  rw [← length_values m, (perm_values_erase h).length_eq, List.length_cons, length_values]

theorem countP_kerase (k : K) (ents : List (Sigma fun _ : K => V)) :
    (ents.kerase k).countP (fun e => test e.2) + ((ents.dlookup k).any test).toNat =
      ents.countP fun e => test e.2 := by
  induction ents with
  | nil => rfl
  | cons e ents ih =>
    by_cases hkey : k = e.1
    · subst hkey
      rw [List.kerase_cons_eq rfl, List.dlookup_cons_eq, List.countP_cons, Option.any_some]
      cases test e.2 <;> rfl
    · rw [List.kerase_cons_ne hkey, List.dlookup_cons_ne _ _ hkey, List.countP_cons,
        List.countP_cons]
      omega

theorem countIf_erase (m : Map K V) (k : K) :
    countIf test (m.erase k) + ((m.lookup k).any test).toNat = countIf test m :=
  countP_kerase test k m.entries

theorem countIf_insert (m : Map K V) (k : K) (v : V) :
    countIf test (m.insert k v) + ((m.lookup k).any test).toNat =
      countIf test m + (test v).toNat := by
  have hi : countIf test (m.insert k v) = countIf test (m.erase k) + (test v).toNat := by
    unfold countIf
    rw [AList.entries_insert, List.countP_cons]
    cases test v <;> rfl
  have he := countIf_erase test m k
  omega

theorem countIf_le_of_lookup {m' : Map K V}
    (h : ∀ k v, m'.lookup k = some v → m.lookup k = some v) : countIf test m' ≤ countIf test m := by
  have hsub : m'.entries ⊆ m.entries := by
    rintro ⟨k, v⟩ hmem
    exact lookup_eq_some_iff.1 (h k v (lookup_eq_some_iff.2 hmem))
  exact (List.subperm_of_subset m'.nodupKeys.nodup hsub).countP_le _

theorem countIf_eq_zero {test : V → Bool} :
    countIf test m = 0 ↔ ∀ k v, m.lookup k = some v → test v = false := by
  unfold countIf
  rw [List.countP_eq_zero]
  constructor
  · intro h k v hl
    simpa using h ⟨k, v⟩ (lookup_eq_some_iff.1 hl)
  · rintro h ⟨k, v⟩ hmem
    simp [h k v (lookup_eq_some_iff.2 hmem)]

theorem countIf_insert_le (m : Map K V) (k : K) (v : V) :
    countIf test (m.insert k v) ≤ countIf test m + 1 := by
  have hi := countIf_insert test m k v
  have hone := Bool.toNat_le (test v)
  omega

/-! ## Sums -/

omit [DecidableEq K] in
@[simp] theorem sumBy_empty : sumBy wgt (∅ : Map K V) = 0 := rfl

theorem foldr_kerase (k : K) (ents : List (Sigma fun _ : K => V)) :
    (ents.kerase k).foldr (fun e total => wgt e.2 + total) 0 + ((ents.dlookup k).map wgt).getD 0 =
      ents.foldr (fun e total => wgt e.2 + total) 0 := by
  induction ents with
  | nil => rfl
  | cons e ents ih =>
    by_cases hkey : k = e.1
    · subst hkey
      rw [List.kerase_cons_eq rfl, List.dlookup_cons_eq, List.foldr_cons, Option.map_some,
        Option.getD_some, Nat.add_comm]
    · rw [List.kerase_cons_ne hkey, List.dlookup_cons_ne _ _ hkey, List.foldr_cons, List.foldr_cons]
      omega

theorem sumBy_erase (m : Map K V) (k : K) :
    sumBy wgt (m.erase k) + ((m.lookup k).map wgt).getD 0 = sumBy wgt m :=
  foldr_kerase wgt k m.entries

theorem sumBy_insert (m : Map K V) (k : K) (v : V) :
    sumBy wgt (m.insert k v) + ((m.lookup k).map wgt).getD 0 =
      sumBy wgt m + wgt v := by
  have hi : sumBy wgt (m.insert k v) = wgt v + sumBy wgt (m.erase k) := by
    rfl
  have he := sumBy_erase wgt m k
  omega

theorem le_sumBy (h : m.lookup k = some v) : wgt v ≤ sumBy wgt m := by
  have he := sumBy_erase wgt m k
  rw [h, Option.map_some, Option.getD_some] at he
  omega

theorem sumBy_eq_zero {wgt : V → Nat} (h : ∀ k v, m.lookup k = some v → wgt v = 0) :
    sumBy wgt m = 0 := by
  have hent : ∀ ents : List (Sigma fun _ : K => V), (∀ e ∈ ents, wgt e.2 = 0) →
      ents.foldr (fun e total => wgt e.2 + total) 0 = 0 := by
    intro ents hz
    induction ents with
    | nil => rfl
    | cons e ents ih =>
      have hh := hz e List.mem_cons_self
      have ht := ih fun e' he' => hz e' (List.mem_cons_of_mem _ he')
      rw [List.foldr_cons]
      omega
  apply hent
  intro e he
  exact h e.1 e.2 (lookup_eq_some_iff.2 he)

/-! ## Counts -/

/-- Give a key its count; a count of zero is not kept. -/
def setCount (m : Map K Nat) (k : K) (n : Nat) : Map K Nat :=
  if n = 0 then m.erase k else m.insert k n

section Counts

variable (m : Map K Nat) (k : K) (n : Nat)

theorem getD_setCount (j : K) :
    ((setCount m k n).lookup j).getD 0 = if j = k then n else (m.lookup j).getD 0 := by
  unfold setCount
  split
  · next hn =>
    rw [lookup_erase_eq_ite, hn]
    split
    · rfl
    · rfl
  · rw [lookup_insert_eq_ite]
    split
    · rfl
    · rfl

theorem sumBy_setCount :
    sumBy id (setCount m k n) + (m.lookup k).getD 0 = sumBy id m + n := by
  have he := sumBy_erase id m k
  have hi := sumBy_insert id m k n
  rw [Option.map_id] at he hi
  unfold setCount
  split
  · next hn =>
    rw [hn]
    exact he
  · exact hi

variable {m}

theorem setCount_pos (h : ∀ j c, m.lookup j = some c → 0 < c) :
    ∀ j c, (setCount m k n).lookup j = some c → 0 < c := by
  unfold setCount
  split
  · exact fun j c hc => h j c (lookup_of_erase hc)
  · next hn => exact forall_lookup_insert (Nat.pos_of_ne_zero hn) h

end Counts

end KeyedMap
