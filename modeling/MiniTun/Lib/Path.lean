import Mathlib.Data.List.Basic

/-!
# Paths and their lexical normal form

A path is a sequence of components over some type of names: a name, the current
directory, or the parent directory.  A trailing separator counts as a last
component that names the current directory.

Walking a path from a base directory gives the place it denotes in a tree
without symbolic links.  `normal` is lexical normalisation: current-directory
components go, a name followed by a parent component goes, and parents directly
under the root go.
-/

namespace LexicalPath

/-- A component of a path. -/
inductive Component (α : Type*) where
  | current
  | parent
  | name (a : α)
deriving DecidableEq

/-- A path; an absolute one starts at the root. -/
structure Path (α : Type*) where
  absolute : Bool
  components : List (Component α)
deriving DecidableEq

variable {α : Type*}

/-- One step through the tree; the root is its own parent. -/
def walk (place : List α) : Component α → List α
  | .current => place
  | .parent => place.dropLast
  | .name a => place ++ [a]

/-- The directory a path starts from. -/
def Path.base (p : Path α) (workingDirectory : List α) : List α :=
  if p.absolute then [] else workingDirectory

def Path.place (p : Path α) (workingDirectory : List α) : List α :=
  p.components.foldl walk (p.base workingDirectory)

/-- Whether the path ends in a name; any other path denotes a directory. -/
def Path.namesEntry (p : Path α) : Bool :=
  match p.components.getLast? with
  | some (.name _) => true
  | _ => false

/-- Two paths that denote the same place from everywhere. -/
structure Path.Same (p q : Path α) : Prop where
  place_eq : ∀ workingDirectory, p.place workingDirectory = q.place workingDirectory
  namesEntry_eq : p.namesEntry = q.namesEntry

theorem Path.Same.trans {p q r : Path α} (h : p.Same q) (h' : q.Same r) : p.Same r :=
  ⟨fun d => (h.place_eq d).trans (h'.place_eq d), h.namesEntry_eq.trans h'.namesEntry_eq⟩

/-- `p / q`: an absolute right-hand side replaces the left one. -/
def Path.join (p q : Path α) : Path α :=
  if q.absolute then q else ⟨p.absolute, p.components ++ q.components⟩

/-- The path of the directory that contains what the path names. -/
def Path.parentPath (p : Path α) : Path α :=
  ⟨p.absolute, p.components.dropLast⟩

/-- One component of normalisation: `done` is the normal form so far. -/
def normalStep (absolute : Bool) (done : List (Component α)) :
    Component α → List (Component α)
  | .current => done
  | .name a => done ++ [.name a]
  | .parent =>
    match done.getLast? with
    | some (.name _) => done.dropLast
    | _ => if absolute then done else done ++ [.parent]

/-- What marks the normal form of a path to a directory: a trailing separator
after a name, and the current directory if nothing is left of the path. -/
def Path.ending (p : Path α) (done : List (Component α)) : List (Component α) :=
  if p.namesEntry then [] else
  match done.getLast? with
  | some (.name _) => [.current]
  | some _ => []
  | none => if p.absolute then [] else [.current]

def Path.normal (p : Path α) : Path α :=
  let done := p.components.foldl (normalStep p.absolute) []
  ⟨p.absolute, done ++ p.ending done⟩

/-! ## Normalisation keeps the place -/

/-- What the normal form so far consists of: names, and parents that a relative
path could not resolve. -/
def NormalSoFar (absolute : Bool) (done : List (Component α)) : Prop :=
  ∀ c ∈ done, c ≠ .current ∧ (absolute = true → c ≠ .parent)

variable {absolute : Bool} {done : List (Component α)}

theorem NormalSoFar.step (h : NormalSoFar absolute done) (c : Component α) :
    NormalSoFar absolute (normalStep absolute done c) := by
  cases c with
  | current => exact h
  | name a =>
    intro c hc
    rcases List.mem_append.1 hc with hc | hc
    · exact h c hc
    · rw [List.mem_singleton.1 hc]
      simp
  | parent =>
    simp only [normalStep]
    split
    · exact fun c hc => h c (List.dropLast_subset _ hc)
    · split
      · exact h
      · next habs =>
        intro c hc
        rcases List.mem_append.1 hc with hc | hc
        · exact h c hc
        · rw [List.mem_singleton.1 hc]
          simp [habs]

theorem NormalSoFar.foldl (h : NormalSoFar absolute done) (cs : List (Component α)) :
    NormalSoFar absolute (cs.foldl (normalStep absolute) done) := by
  induction cs generalizing done with
  | nil => exact h
  | cons c cs ih => exact ih (h.step c)

theorem NormalSoFar.nil (absolute : Bool) : NormalSoFar absolute ([] : List (Component α)) :=
  fun c hc => by cases hc

theorem foldl_walk_normalStep {base : List α} (h : NormalSoFar absolute done)
    (hbase : absolute = true → base = []) (c : Component α) :
    (normalStep absolute done c).foldl walk base = walk (done.foldl walk base) c := by
  cases c with
  | current => rfl
  | name a => simp [normalStep]
  | parent =>
    simp only [normalStep]
    split
    · next a ha =>
      conv_rhs => rw [← List.dropLast_append_getLast? _ ha]
      simp [walk]
    · next hl =>
      split
      · next habs =>
        -- an absolute normal form has only names, so here it is empty
        have hnil : done = [] := by
          cases hd : done.getLast? with
          | none => exact List.getLast?_eq_none_iff.1 hd
          | some c =>
            obtain ⟨hcur, hp⟩ := h c (List.mem_of_getLast? hd)
            cases c with
            | current => exact absurd rfl hcur
            | parent => exact absurd rfl (hp habs)
            | name a => exact absurd hd (hl a)
        rw [hnil, hbase habs]
        rfl
      · simp

theorem foldl_walk_normal {base : List α} (hbase : absolute = true → base = [])
    (cs done : List (Component α)) (h : NormalSoFar absolute done) :
    (cs.foldl (normalStep absolute) done).foldl walk base =
      cs.foldl walk (done.foldl walk base) := by
  induction cs generalizing done with
  | nil => rfl
  | cons c cs ih =>
    rw [List.foldl_cons, ih _ (h.step c), foldl_walk_normalStep h hbase, List.foldl_cons]

/-- A path that ends in a name has a normal form that ends in that name. -/
theorem getLast?_foldl_normalStep (absolute : Bool) {cs : List (Component α)}
    (done : List (Component α)) {a : α} (h : cs.getLast? = some (.name a)) :
    (cs.foldl (normalStep absolute) done).getLast? = some (.name a) := by
  rw [← List.dropLast_append_getLast? _ h]
  simp [normalStep]

theorem Path.namesEntry_iff {p : Path α} :
    p.namesEntry = true ↔ ∃ a, p.components.getLast? = some (.name a) := by
  unfold Path.namesEntry
  split
  · next a ha => simp [ha]
  · next h => simpa using h

theorem Path.ending_cases (p : Path α) (done : List (Component α)) :
    p.ending done = [] ∨ p.ending done = [.current] := by
  unfold Path.ending
  split
  · exact .inl rfl
  · split
    · exact .inr rfl
    · exact .inl rfl
    · split
      · exact .inl rfl
      · exact .inr rfl

/-- **Normalisation keeps the place** a path denotes. -/
theorem Path.place_normal (p : Path α) (workingDirectory : List α) :
    p.normal.place workingDirectory = p.place workingDirectory := by
  have hbase : p.absolute = true → p.base workingDirectory = [] := fun h => by
    simp [Path.base, h]
  have hwalk : (p.components.foldl (normalStep p.absolute) []).foldl walk
      (p.base workingDirectory) = p.place workingDirectory :=
    foldl_walk_normal hbase p.components [] (.nil _)
  change List.foldl walk (p.base workingDirectory)
    (p.components.foldl (normalStep p.absolute) [] ++ p.ending _) = _
  rw [List.foldl_append, hwalk]
  rcases p.ending_cases (p.components.foldl (normalStep p.absolute) []) with h | h
  · rw [h]; rfl
  · rw [h]; rfl

/-- Normalisation keeps whether the path can denote something else than a directory. -/
theorem Path.namesEntry_normal (p : Path α) : p.normal.namesEntry = p.namesEntry := by
  cases h : p.namesEntry with
  | true =>
    obtain ⟨a, ha⟩ := Path.namesEntry_iff.1 h
    refine Path.namesEntry_iff.2 ⟨a, ?_⟩
    simp only [Path.normal, Path.ending, h, if_true, List.append_nil]
    exact getLast?_foldl_normalStep p.absolute [] ha
  | false =>
    rw [Bool.eq_false_iff, ne_eq, Path.namesEntry_iff]
    rintro ⟨a, ha⟩
    simp only [Path.normal, Path.ending, h, Bool.false_eq_true, if_false] at ha
    split at ha
    · simp at ha
    · next hn hd =>
      rw [List.append_nil, hd] at ha
      exact hn a (Option.some.inj ha)
    · next hd =>
      rw [List.getLast?_eq_none_iff.1 hd] at ha
      split at ha <;> simp at ha

/-! ## Paths as texts -/

section Text

theorem head?_intercalate {β : Type*} (sep : β) {w : List β} (hw : w ≠ []) (ws : List (List β)) :
    ([sep].intercalate (w :: ws)).head? = w.head? := by
  cases w with
  | nil => exact absurd rfl hw
  | cons b w =>
    cases ws with
    | nil => rw [List.intercalate_singleton]
    | cons v ws => rw [List.intercalate_cons_cons]; rfl

variable {β : Type*} [DecidableEq β] (separator dot : β)

/-- The component that the text between two separators stands for. -/
def readComponent (text : List β) : Component (List β) :=
  if text = [] ∨ text = [dot] then .current
  else if text = [dot, dot] then .parent
  else .name text

/-- The text of a component; the current directory is a trailing separator. -/
def writeComponent : Component (List β) → List β
  | .current => []
  | .parent => [dot, dot]
  | .name a => a

def ofText (text : List β) : Path (List β) where
  absolute := text.head? = some separator
  components := (text.splitOn separator).map (readComponent dot)

def Path.text (p : Path (List β)) : List β :=
  if p.absolute then separator :: [separator].intercalate (p.components.map (writeComponent dot))
  else if p.components = [.current] then [dot]
  else [separator].intercalate (p.components.map (writeComponent dot))

/-- A component that reads back as itself. -/
def Spelled (c : Component (List β)) : Prop :=
  separator ∉ writeComponent dot c ∧ readComponent dot (writeComponent dot c) = c

variable {separator dot}

theorem not_mem_of_mem_splitOn {text part : List β} (h : part ∈ text.splitOn separator) :
    separator ∉ part := by
  induction text generalizing part with
  | nil =>
    rw [List.splitOn_nil, List.mem_singleton] at h
    simp [h]
  | cons b text ih =>
    rw [List.splitOn_cons_eq_if_modifyHead] at h
    split at h
    · rcases List.mem_cons.1 h with rfl | h
      · simp
      · exact ih h
    · next hb =>
      -- the first byte joins the first part of the rest
      cases hr : text.splitOn separator with
      | nil => exact absurd hr (List.splitOn_ne_nil _ _)
      | cons first rest =>
        rw [hr] at h
        have hb' : separator ≠ b := fun he => hb (by simp [he])
        rcases List.mem_cons.1 h with rfl | h
        · have hfst : separator ∉ first := ih (by simp [hr])
          simp [hb', hfst]
        · exact ih (by simp [hr, h])

theorem spelled_readComponent (hdot : separator ≠ dot) {text : List β} (h : separator ∉ text) :
    Spelled separator dot (readComponent dot text) := by
  unfold readComponent
  split
  · simp [Spelled, writeComponent, readComponent]
  · next hcur =>
    split
    · simp [Spelled, writeComponent, readComponent, hdot]
    · next hp => simp [Spelled, writeComponent, readComponent, h, hcur, hp]

theorem spelled_ofText (hdot : separator ≠ dot) (text : List β) :
    ∀ c ∈ (ofText separator dot text).components, Spelled separator dot c := by
  intro c hc
  obtain ⟨part, hpart, rfl⟩ := List.mem_map.1 hc
  exact spelled_readComponent hdot (not_mem_of_mem_splitOn hpart)

variable {cs : List (Component (List β))} {p : Path (List β)}

theorem map_readComponent_splitOn (hne : cs ≠ []) (h : ∀ c ∈ cs, Spelled separator dot c) :
    (([separator].intercalate (cs.map (writeComponent dot))).splitOn separator).map
      (readComponent dot) = cs := by
  rw [List.splitOn_intercalate]
  · rw [List.map_map]
    conv_rhs => rw [← List.map_id cs]
    exact List.map_congr_left fun c hc => (h c hc).2
  · intro l hl
    obtain ⟨c, hc, rfl⟩ := List.mem_map.1 hl
    exact (h c hc).1
  · simpa using hne

/-- An absolute path reads back with an empty component before its first separator. -/
theorem ofText_text_absolute (hne : cs ≠ []) (h : ∀ c ∈ cs, Spelled separator dot c) :
    ofText separator dot (Path.text separator dot ⟨true, cs⟩) = ⟨true, .current :: cs⟩ := by
  have hs : ∀ l : List β, (separator :: l).splitOn separator = [] :: l.splitOn separator :=
    fun l => List.splitOn_append_cons_self_of_not_mem (List.not_mem_nil) l
  simp only [Path.text, if_true, ofText, hs, List.map_cons, map_readComponent_splitOn hne h]
  simp [readComponent]

/-- A relative path reads back as it is, unless it would begin with a separator. -/
theorem ofText_text_relative {c : Component (List β)} (hc : c ≠ .current)
    (h : ∀ d ∈ c :: cs, Spelled separator dot d) :
    ofText separator dot (Path.text separator dot ⟨false, c :: cs⟩) = ⟨false, c :: cs⟩ := by
  obtain ⟨hsep, hr⟩ := h c List.mem_cons_self
  have hne : writeComponent dot c ≠ [] := by
    intro hnil
    rw [hnil] at hr
    exact hc (by simp [← hr, readComponent])
  have hh : (writeComponent dot c).head? ≠ some separator :=
    fun hs => hsep (List.mem_of_head? hs)
  have ht : Path.text separator dot ⟨false, c :: cs⟩ =
      [separator].intercalate ((c :: cs).map (writeComponent dot)) := by
    simp [Path.text, hc]
  rw [ofText, ht, map_readComponent_splitOn (List.cons_ne_nil c cs) h, List.map_cons,
    head?_intercalate separator hne, decide_eq_false hh]

theorem spelled_foldl_normalStep (absolute : Bool) {done : List (Component (List β))}
    (hcs : ∀ c ∈ cs, Spelled separator dot c) (hd : ∀ c ∈ done, Spelled separator dot c) :
    ∀ c ∈ cs.foldl (normalStep absolute) done, Spelled separator dot c := by
  induction cs generalizing done with
  | nil => exact hd
  | cons d cs ih =>
    refine ih (fun c hc => hcs c (List.mem_cons_of_mem _ hc)) fun c hc => ?_
    cases d with
    | current => exact hd c hc
    | name a =>
      rcases List.mem_append.1 hc with hc | hc
      · exact hd c hc
      · exact hcs c (List.mem_cons.2 (.inl (List.mem_singleton.1 hc)))
    | parent =>
      simp only [normalStep] at hc
      split at hc
      · exact hd c (List.dropLast_subset _ hc)
      · split at hc
        · exact hd c hc
        · rcases List.mem_append.1 hc with hc | hc
          · exact hd c hc
          · exact hcs c (List.mem_cons.2 (.inl (List.mem_singleton.1 hc)))

theorem spelled_normal (h : ∀ c ∈ p.components, Spelled separator dot c) :
    ∀ c ∈ p.normal.components, Spelled separator dot c := by
  intro c hc
  rcases List.mem_append.1 hc with hc | hc
  · exact spelled_foldl_normalStep p.absolute h (fun c hc => by cases hc) c hc
  · rcases p.ending_cases (p.components.foldl (normalStep p.absolute) []) with he | he
    · rw [he] at hc; cases hc
    · rw [he, List.mem_singleton] at hc
      simp [hc, Spelled, writeComponent, readComponent]

/-- A relative normal form is the current directory, or begins with something else. -/
theorem Path.normal_start {p : Path α} (h : p.absolute = false) :
    p.normal.components = [.current] ∨
      ∃ c cs, p.normal.components = c :: cs ∧ c ≠ .current := by
  have hnor := NormalSoFar.foldl (.nil p.absolute) p.components
  cases hd : p.components.foldl (normalStep p.absolute) [] with
  | nil =>
    have hent : p.namesEntry = false := by
      rw [Bool.eq_false_iff, ne_eq, Path.namesEntry_iff]
      rintro ⟨a, ha⟩
      have := getLast?_foldl_normalStep p.absolute [] ha
      rw [hd] at this
      cases this
    simp only [Path.normal, hd]
    simp [Path.ending, hent, h]
  | cons c cs =>
    right
    refine ⟨c, cs ++ p.ending (c :: cs), ?_, ?_⟩
    · simp only [Path.normal, hd, List.cons_append]
    · rw [hd] at hnor
      exact (hnor c List.mem_cons_self).1

/-- Writing a path down and reading it again keeps what it denotes. -/
theorem same_ofText_text (hdot : separator ≠ dot) (h : ∀ c ∈ p.components, Spelled separator dot c)
    (hs : p.absolute = false →
      p.components = [.current] ∨ ∃ c cs, p.components = c :: cs ∧ c ≠ .current) :
    (ofText separator dot (p.text separator dot)).Same p := by
  obtain ⟨absolute, comps⟩ := p
  cases absolute with
  | true =>
    cases comps with
    | nil =>
      constructor
      · simp [Path.text, ofText, List.splitOn_cons_eq_if_modifyHead, readComponent, Path.place,
          Path.base, walk]
      · simp [Path.text, ofText, List.splitOn_cons_eq_if_modifyHead, readComponent, Path.namesEntry]
    | cons c cs =>
      rw [ofText_text_absolute (List.cons_ne_nil c cs) h]
      exact ⟨fun _ => rfl, by simp [Path.namesEntry]⟩
  | false =>
    rcases hs rfl with hcur | ⟨c, cs, hcs, hc⟩
    · simp only at hcur
      subst hcur
      constructor
      · simp [Path.text, ofText, List.splitOn_cons_eq_if_modifyHead, hdot.symm, readComponent]
      · simp [Path.text, ofText, List.splitOn_cons_eq_if_modifyHead, hdot.symm, readComponent]
    · simp only at hcs
      subst hcs
      rw [ofText_text_relative hc h]
      exact ⟨fun _ => rfl, rfl⟩

/-- **The text of the normal form** of a path denotes what the path denotes. -/
theorem same_text_normal (hdot : separator ≠ dot)
    (h : ∀ c ∈ p.components, Spelled separator dot c) :
    (ofText separator dot (p.normal.text separator dot)).Same p :=
  (same_ofText_text hdot (spelled_normal h) p.normal_start).trans
    ⟨p.place_normal, p.namesEntry_normal⟩

end Text

end LexicalPath
