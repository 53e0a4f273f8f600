import Mathlib.Data.List.Nodup

/-!
# Tables with constraints

A table of a relational database: rows with a primary key, one more set of
columns that is unique, and a check that every row passes.  The constraints are
part of the type, so that no statement can leave a table that violates them;
`update`, the `UPDATE` statement, fails where it would.
-/

namespace Relational

variable {ρ κ υ : Type*}

/-- The declared constraints of a table. -/
structure Schema (ρ κ υ : Type*) where
  key : ρ → κ
  unique : ρ → υ
  Check : ρ → Prop
  decidableCheck : DecidablePred Check

/-- A table that meets the constraints of its schema. -/
structure Table (S : Schema ρ κ υ) where
  rows : List ρ
  keys : (rows.map S.key).Nodup
  uniques : (rows.map S.unique).Nodup
  checked : ∀ row ∈ rows, S.Check row

namespace Table

variable {S : Schema ρ κ υ}

def empty (S : Schema ρ κ υ) : Table S where
  rows := []
  keys := List.nodup_nil
  uniques := List.nodup_nil
  checked := List.forall_mem_nil _

/-- The table with the given rows, if they meet the constraints. -/
def ofRows? [DecidableEq κ] [DecidableEq υ] (S : Schema ρ κ υ) (rows : List ρ) : Option (Table S) :=
  have := S.decidableCheck
  if hkeys : (rows.map S.key).Nodup then
    if huniques : (rows.map S.unique).Nodup then
      if hchecked : ∀ row ∈ rows, S.Check row then some ⟨rows, hkeys, huniques, hchecked⟩
      else none
    else none
  else none

def find [DecidableEq κ] (t : Table S) (k : κ) : Option ρ :=
  t.rows.find? fun row => S.key row = k

/-- A row after `UPDATE … SET assign WHERE selects`. -/
def assigned (selects : ρ → Bool) (assign : ρ → ρ) (row : ρ) : ρ :=
  if selects row then assign row else row

/-- `UPDATE`: the new table and the number of rows selected.  The right-hand sides
of the assignments read the old row. -/
def update [DecidableEq κ] [DecidableEq υ] (t : Table S) (selects : ρ → Bool) (assign : ρ → ρ) :
    Option (Table S × Nat) :=
  (ofRows? S (t.rows.map (assigned selects assign))).map fun t' => (t', t.rows.countP selects)

variable [DecidableEq κ]

variable {t : Table S} {row existing record : ρ}

theorem ofRows?_eq_some [DecidableEq υ] {rows : List ρ} (h : ofRows? S rows = some t) :
    t.rows = rows := by
  unfold ofRows? at h
  simp only at h
  split at h
  · split at h
    · split at h
      · cases h
        rfl
      · cases h
    · cases h
  · cases h

theorem find_eq_some_iff {k : κ} : t.find k = some row ↔ row ∈ t.rows ∧ S.key row = k := by
  constructor
  · intro h
    exact ⟨List.mem_of_find?_eq_some h, by simpa using List.find?_some h⟩
  · rintro ⟨hmem, rfl⟩
    cases hf : t.find (S.key row) with
    | none =>
      have hno := List.find?_eq_none.1 hf row hmem
      simp at hno
    | some found =>
      have hfd := List.mem_of_find?_eq_some hf
      have hkey : S.key found = S.key row := by simpa using List.find?_some hf
      rw [List.inj_on_of_nodup_map t.keys hfd hmem hkey]

theorem countP_key (h : row ∈ t.rows) :
    t.rows.countP (fun other => S.key other = S.key row) = 1 := by
  have hc : (t.rows.map S.key).count (S.key row) = 1 :=
    List.count_eq_one_of_mem t.keys (List.mem_map_of_mem h)
  rw [List.count, List.countP_map] at hc
  exact hc

/-- A row after the one with the key of `record` has been replaced by it. -/
def replaceBy (key : ρ → κ) (record row : ρ) : ρ :=
  if key row = key record then record else row

theorem map_assigned_key {assign : ρ → ρ} (hmem : existing ∈ t.rows)
    (hkey : S.key existing = S.key record) (ha : assign existing = record) :
    t.rows.map (assigned (fun row => S.key row = S.key record) assign) =
      t.rows.map (replaceBy S.key record) := by
  apply List.map_congr_left
  intro row hrow
  unfold assigned replaceBy
  by_cases hs : S.key row = S.key record
  · obtain rfl : row = existing :=
      List.inj_on_of_nodup_map t.keys hrow hmem (hs.trans hkey.symm)
    rw [if_pos (decide_eq_true hs), if_pos hs, ha]
  · rw [if_neg (by simpa using hs), if_neg hs]

theorem check_of_find {k : κ} (h : t.find k = some row) : S.Check row :=
  t.checked row (find_eq_some_iff.1 h).1

section Update

variable [DecidableEq υ] {selects : ρ → Bool} {assign : ρ → ρ}

omit [DecidableEq κ] [DecidableEq υ] in
theorem column_assigned {α : Type*} {column : ρ → α}
    (h : ∀ row, column (assign row) = column row) (row : ρ) :
    column (assigned selects assign row) = column row := by
  unfold assigned
  split
  · exact h row
  · rfl

omit [DecidableEq κ] [DecidableEq υ] in
theorem map_assigned {α : Type*} {column : ρ → α}
    (h : ∀ row, column (assign row) = column row) (rows : List ρ) :
    (rows.map (assigned selects assign)).map column = rows.map column := by
  rw [List.map_map]
  apply List.map_congr_left
  intro row _
  exact column_assigned h row

theorem find_update (hkey : ∀ row, S.key (assign row) = S.key row) {t t' : Table S} {n : Nat}
    (h : t.update selects assign = some (t', n)) (k : κ) :
    t'.find k = (t.find k).map (assigned selects assign) := by
  obtain ⟨table, ht, heq⟩ := Option.map_eq_some_iff.1 h
  cases heq
  unfold find
  rw [ofRows?_eq_some ht, List.find?_map]
  congr 2
  funext row
  simp [column_assigned hkey row]

/-- An update that leaves keys and unique columns alone, and keeps selected rows
within the check, succeeds. -/
theorem update_isSome (hkey : ∀ row, S.key (assign row) = S.key row)
    (hu : ∀ row, S.unique (assign row) = S.unique row) (t : Table S)
    (hch : ∀ row ∈ t.rows, S.Check row → selects row = true → S.Check (assign row)) :
    ∃ t', t.update selects assign = some (t', t.rows.countP selects) := by
  have hk : ((t.rows.map (assigned selects assign)).map S.key).Nodup := by
    rw [map_assigned hkey]
    exact t.keys
  have hun : ((t.rows.map (assigned selects assign)).map S.unique).Nodup := by
    rw [map_assigned hu]
    exact t.uniques
  have hc : ∀ row ∈ t.rows.map (assigned selects assign), S.Check row := by
    intro row hrow
    obtain ⟨old, hold, rfl⟩ := List.mem_map.1 hrow
    unfold assigned
    split
    · next hsel => exact hch old hold (t.checked old hold) hsel
    · exact t.checked old hold
  unfold update ofRows?
  simp only [dif_pos hk, dif_pos hun, dif_pos hc]
  exact ⟨_, rfl⟩

end Update

/-! ## Inserting and deleting -/

omit [DecidableEq κ] in
/-- A table is its rows: the rest of it is proofs about them. -/
@[ext] theorem ext {t' : Table S} (h : t.rows = t'.rows) : t = t' := by
  obtain ⟨rows, _, _, _⟩ := t
  obtain ⟨rows', _, _, _⟩ := t'
  cases h
  rfl

section Statements

variable [DecidableEq υ]

variable {t t' : Table S}

theorem ofRows?_eq_some_iff {rows : List ρ} : ofRows? S rows = some t ↔ t.rows = rows := by
  constructor
  · exact ofRows?_eq_some
  · rintro rfl
    unfold ofRows?
    simp only [dif_pos t.keys, dif_pos t.uniques]
    exact dif_pos t.checked

/-- An update gives the one table with the assigned rows, if there is such a table. -/
theorem update_eq_some_iff {selects : ρ → Bool} {assign : ρ → ρ} {n : Nat} :
    t.update selects assign = some (t', n) ↔
      t'.rows = t.rows.map (assigned selects assign) ∧ n = t.rows.countP selects := by
  unfold update
  rw [Option.map_eq_some_iff]
  constructor
  · rintro ⟨table, ht, heq⟩
    cases heq
    exact ⟨ofRows?_eq_some ht, rfl⟩
  · rintro ⟨hr, rfl⟩
    exact ⟨t', ofRows?_eq_some_iff.2 hr, rfl⟩

theorem update_ne_none {selects : ρ → Bool} {assign : ρ → ρ}
    (hr : t'.rows = t.rows.map (assigned selects assign)) : t.update selects assign ≠ none := by
  rw [update_eq_some_iff.2 ⟨hr, rfl⟩]
  exact Option.some_ne_none _

/-- Which constraint a statement violates. -/
inductive Violation where
  | key
  | unique
  | check
deriving Repr, DecidableEq

/-- The constraint that rows violate.  Checks come before uniqueness. -/
def violation (S : Schema ρ κ υ) (rows : List ρ) : Violation :=
  have := S.decidableCheck
  if rows.all fun row => S.Check row then
    if (rows.map S.key).Nodup then .unique else .key
  else .check

def insert (t : Table S) (row : ρ) : Except Violation (Table S) :=
  match ofRows? S (row :: t.rows) with
  | none => .error (violation S (row :: t.rows))
  | some t' => .ok t'

theorem insert_eq_ok_iff {row : ρ} : t.insert row = .ok t' ↔ t'.rows = row :: t.rows := by
  rw [← ofRows?_eq_some_iff, insert]
  cases ofRows? S (row :: t.rows) with
  | none => simp
  | some table => simp

end Statements

/-! ## When a statement on one row can be carried out -/

theorem key_replaceBy (record row : ρ) : S.key (replaceBy S.key record row) = S.key row := by
  unfold replaceBy
  split
  · next h => exact h.symm
  · rfl

theorem mem_map_replaceBy (hmem : existing ∈ t.rows) (hkey : S.key existing = S.key record) :
    row ∈ t.rows.map (replaceBy S.key record) ↔
      row = record ∨ row ∈ t.rows ∧ S.key row ≠ S.key record := by
  rw [List.mem_map]
  constructor
  · rintro ⟨old, hold, rfl⟩
    unfold replaceBy
    split
    · exact .inl rfl
    · next hne => exact .inr ⟨hold, hne⟩
  · rintro (rfl | ⟨hrow, hne⟩)
    · exact ⟨existing, hmem, if_pos hkey⟩
    · exact ⟨row, hrow, if_neg hne⟩

theorem exists_replaceBy_iff (hmem : existing ∈ t.rows) (hkey : S.key existing = S.key record) :
    (∃ t' : Table S, t'.rows = t.rows.map (replaceBy S.key record)) ↔
      S.Check record ∧
        ∀ other ∈ t.rows, S.key other ≠ S.key record → S.unique other ≠ S.unique record := by
  constructor
  · rintro ⟨t', hr⟩
    have hrec : record ∈ t'.rows := hr ▸ (mem_map_replaceBy hmem hkey).2 (.inl rfl)
    refine ⟨t'.checked record hrec, fun other ho hne heq => ?_⟩
    have ho' : other ∈ t'.rows := hr ▸ (mem_map_replaceBy hmem hkey).2 (.inr ⟨ho, hne⟩)
    exact hne (congrArg S.key (List.inj_on_of_nodup_map t'.uniques ho' hrec heq))
  · rintro ⟨hc, hu⟩
    refine ⟨⟨t.rows.map (replaceBy S.key record), ?_, ?_, ?_⟩, rfl⟩
    · have hk : S.key ∘ replaceBy S.key record = S.key := funext (key_replaceBy record)
      rw [List.map_map, hk]
      exact t.keys
    · -- two rows that clash were one row before, or one of them is the record
      refine List.Nodup.map_on ?_ (List.Nodup.map_on ?_ t.keys.of_map)
      · intro row hrow other ho heq
        rcases (mem_map_replaceBy hmem hkey).1 hrow with rfl | ⟨hold, hne⟩
        · rcases (mem_map_replaceBy hmem hkey).1 ho with rfl | ⟨hold, hne⟩
          · rfl
          · exact absurd heq.symm (hu other hold hne)
        · rcases (mem_map_replaceBy hmem hkey).1 ho with rfl | ⟨hold', -⟩
          · exact absurd heq (hu row hold hne)
          · exact List.inj_on_of_nodup_map t.uniques hold hold' heq
      · intro row hrow other ho heq
        have hs := congrArg S.key heq
        rw [key_replaceBy, key_replaceBy] at hs
        exact List.inj_on_of_nodup_map t.keys hrow ho hs
    · intro row hrow
      rcases (mem_map_replaceBy hmem hkey).1 hrow with rfl | ⟨hrow, -⟩
      · exact hc
      · exact t.checked row hrow

/-- `DELETE`: the rows that are not selected stay. -/
def delete (t : Table S) (selects : ρ → Bool) : Table S where
  rows := t.rows.filter fun row => !selects row
  keys := t.keys.sublist (List.filter_sublist.map _)
  uniques := t.uniques.sublist (List.filter_sublist.map _)
  checked row h := t.checked row (List.mem_filter.1 h).1

omit [DecidableEq κ] in
theorem mem_delete {selects : ρ → Bool} :
    row ∈ (t.delete selects).rows ↔ row ∈ t.rows ∧ selects row = false := by
  simp [delete]

end Table

end Relational
