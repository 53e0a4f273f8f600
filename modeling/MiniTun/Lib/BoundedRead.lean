import Mathlib.Data.List.Basic

/-!
# Reading a stream into a bounded buffer

A stream arrives in chunks, and a composed read appends what arrives to a buffer that never
grows beyond its size.  `readUntil` reads until a pattern is in the buffer, `readExactly` until a
number of elements has been read; the latter also ends when the buffer is full.  What does not
fit stays in the stream.
-/

namespace BoundedRead

variable {α : Type*}

section Find

variable [DecidableEq α]

def find? (pattern : List α) : List α → Option Nat
  | [] => if pattern = [] then some 0 else none
  | a :: text =>
    if pattern.isPrefixOf (a :: text) then some 0 else (find? pattern text).map (· + 1)

variable {pattern text head : List α}

theorem find?_le {i : Nat} (h : find? pattern text = some i) :
    i + pattern.length ≤ text.length := by
  induction text generalizing i with
  | nil =>
    simp only [find?] at h
    split at h
    · next hp =>
      cases h
      rw [hp]
      exact Nat.le_refl _
    · cases h
  | cons a text ih =>
    simp only [find?] at h
    split at h
    · next hs =>
      cases h
      rw [Nat.zero_add]
      exact (List.isPrefixOf_iff_prefix.1 hs).length_le
    · obtain ⟨j, hj, rfl⟩ := Option.map_eq_some_iff.1 h
      have := ih hj
      rw [List.length_cons]
      omega

theorem find?_append {i : Nat} (h : find? pattern text = some i) (more : List α) :
    find? pattern (text ++ more) = some i := by
  induction text generalizing i with
  | nil =>
    simp only [find?] at h
    split at h
    · next hp =>
      cases h
      subst hp
      cases more with
      | nil => rfl
      | cons a more => rfl
    · cases h
  | cons a text ih =>
    have hle := find?_le h
    simp only [find?] at h
    rw [List.cons_append]
    simp only [find?]
    by_cases hs : pattern.isPrefixOf (a :: text) = true
    · rw [if_pos hs] at h
      have hl : pattern.isPrefixOf (a :: (text ++ more)) = true := by
        rw [List.isPrefixOf_iff_prefix] at hs ⊢
        exact hs.trans (List.prefix_append (a :: text) more)
      rw [if_pos hl]
      exact h
    · rw [if_neg hs] at h
      -- The pattern fits into the text, so what is appended cannot complete it here.
      have hnot : ¬pattern.isPrefixOf (a :: (text ++ more)) = true := by
        intro hl
        rw [List.isPrefixOf_iff_prefix] at hl hs
        exact hs (List.prefix_of_prefix_length_le hl
          (List.prefix_append (a :: text) more) (by omega))
      rw [if_neg hnot]
      obtain ⟨j, hj, rfl⟩ := Option.map_eq_some_iff.1 h
      rw [ih hj]
      rfl

/-- The head ends with the first occurrence of the pattern. -/
def EndsWithFirst (pattern head : List α) : Prop :=
  find? pattern head = some (head.length - pattern.length) ∧ pattern.length ≤ head.length

/-- A part of the stream that does not reach the end of the head does not have the pattern. -/
theorem EndsWithFirst.find?_of_lt {more : List α} (h : EndsWithFirst pattern head)
    (hs : head = text ++ more) (hmore : more ≠ []) : find? pattern text = none := by
  cases hf : find? pattern text with
  | none => rfl
  | some i =>
    have hle := find?_le hf
    have hl := find?_append hf more
    rw [← hs, h.1] at hl
    have hlen : head.length = text.length + more.length := by rw [hs, List.length_append]
    have hpos : 0 < more.length := List.length_pos_iff.2 hmore
    have hi : head.length - pattern.length = i := Option.some.inj hl
    omega

theorem EndsWithFirst.find?_append (h : EndsWithFirst pattern head) (more : List α) :
    find? pattern (head ++ more) = some (head.length - pattern.length) :=
  BoundedRead.find?_append h.1 more

/-- Reads until the pattern is in the buffer: its end, the buffer and the rest of the stream.
The read fails if the buffer is full before, or the stream ends. -/
def readUntil (maxSize : Nat) (pattern : List α) (buffer : List α) :
    List (List α) → Option (Nat × List α × List (List α))
  | [] => (find? pattern buffer).map fun i => (i + pattern.length, buffer, [])
  | chunk :: rest =>
    match find? pattern buffer with
    | some i => some (i + pattern.length, buffer, chunk :: rest)
    | none =>
      let room := maxSize - buffer.length
      if chunk.length ≤ room then readUntil maxSize pattern (buffer ++ chunk) rest
      else
        let full := buffer ++ chunk.take room
        (find? pattern full).map fun i => (i + pattern.length, full, chunk.drop room :: rest)

/-- What is left of the stream when the head has been read. -/
structure LeftOver (maxSize : Nat) (head tail : List α) (left : List α) (rest : List (List α)) :
    Prop where
  tail : left ++ rest.flatten = tail
  fits : (head ++ left).length ≤ maxSize

omit [DecidableEq α] in
/-- A text that begins a stream either ends within the head or contains it. -/
theorem head_cases {buf rest tail : List α} (h : buf ++ rest = head ++ tail) :
    (∃ more, more ≠ [] ∧ head = buf ++ more ∧ rest = more ++ tail) ∨
      ∃ left, buf = head ++ left ∧ left ++ rest = tail := by
  rcases List.append_eq_append_iff.1 h with ⟨between, hh, hr⟩ | ⟨left, hbuf, ht⟩
  · cases between with
    | nil =>
      refine .inr ⟨[], ?_, ?_⟩
      · rw [hh, List.append_nil, List.append_nil]
      · rw [hr, List.nil_append, List.nil_append]
    | cons a between =>
      exact .inl ⟨a :: between, List.cons_ne_nil _ _, hh, hr⟩
  · exact .inr ⟨left, hbuf, ht.symm⟩

theorem readUntil_eq_some {maxSize : Nat} {tail buf : List α} {chks : List (List α)}
    (hh : EndsWithFirst pattern head) (hfits : head.length ≤ maxSize)
    (hbuf : buf.length ≤ maxSize) (hs : buf ++ chks.flatten = head ++ tail) :
    ∃ left rest, readUntil maxSize pattern buf chks = some (head.length, head ++ left, rest) ∧
      LeftOver maxSize head tail left rest := by
  have hend : head.length - pattern.length + pattern.length = head.length :=
    Nat.sub_add_cancel hh.2
  induction chks generalizing buf with
  | nil =>
    rcases head_cases hs with ⟨more, hmore, -, hr⟩ | ⟨left, rfl, hl⟩
    · rw [List.flatten_nil, eq_comm, List.append_eq_nil_iff] at hr
      exact absurd hr.1 hmore
    · refine ⟨left, [], ?_, hl, hbuf⟩
      rw [readUntil, hh.find?_append, Option.map_some, hend]
  | cons chunk rest ih =>
    rcases head_cases hs with ⟨more, hmore, hsh, -⟩ | ⟨left, rfl, hl⟩
    · have hno := hh.find?_of_lt hsh hmore
      rw [readUntil, hno]
      simp only
      split
      · next hrm =>
        apply ih
        · rw [List.length_append]
          omega
        · rw [List.append_assoc]
          exact hs
      · next hrm =>
        -- The buffer is filled up, and the head fits into it.
        have hcut : (buf ++ chunk.take (maxSize - buf.length)) ++
            (chunk.drop (maxSize - buf.length) ++ rest.flatten) = head ++ tail := by
          rw [List.append_assoc, ← List.append_assoc (chunk.take _), List.take_append_drop]
          exact hs
        have hfu : (buf ++ chunk.take (maxSize - buf.length)).length = maxSize := by
          rw [List.length_append, List.length_take]
          omega
        rcases head_cases hcut with ⟨later, hlt, hover, -⟩ | ⟨left, hf, hl⟩
        · have hlen : head.length = maxSize + later.length := by
            rw [hover, List.length_append, hfu]
          have := List.length_pos_iff.2 hlt
          omega
        · refine ⟨left, chunk.drop (maxSize - buf.length) :: rest, ?_, ?_, ?_⟩
          · rw [hf, hh.find?_append, Option.map_some, hend]
          · rw [List.flatten_cons]
            exact hl
          · rw [← hf]
            exact Nat.le_of_eq hfu
    · refine ⟨left, chunk :: rest, ?_, hl, hbuf⟩
      rw [readUntil, hh.find?_append]
      simp only [hend]

end Find

/-- Reads until `n` elements have been transferred or the buffer is full: the buffer and the
rest of the stream.  The read fails if the stream ends before. -/
def readExactly (maxSize n : Nat) (buffer : List α) (transferred : Nat) :
    List (List α) → Option (List α × List (List α))
  | [] => if min (n - transferred) (maxSize - buffer.length) = 0 then some (buffer, []) else none
  | chunk :: rest =>
    let limit := min (n - transferred) (maxSize - buffer.length)
    if limit = 0 then some (buffer, chunk :: rest)
    else if chunk.length ≤ limit then
      readExactly maxSize n (buffer ++ chunk) (transferred + chunk.length) rest
    else some (buffer ++ chunk.take limit, chunk.drop limit :: rest)

theorem readExactly_eq_some (maxSize : Nat) {n : Nat} (buf : List α) {transferred : Nat}
    {chks : List (List α)} (h : n - transferred ≤ chks.flatten.length) :
    ∃ rest, readExactly maxSize n buf transferred chks =
      some (buf ++ chks.flatten.take (min (n - transferred) (maxSize - buf.length)),
        rest) := by
  induction chks generalizing buf transferred with
  | nil =>
    have hno : n - transferred = 0 := Nat.le_zero.1 h
    refine ⟨[], ?_⟩
    rw [readExactly, hno, Nat.zero_min, if_pos rfl, List.take_zero, List.append_nil]
  | cons chunk rest ih =>
    rw [readExactly]
    split
    · next hlim =>
      refine ⟨chunk :: rest, ?_⟩
      rw [hlim, List.take_zero, List.append_nil]
    · next hlim =>
      rw [List.flatten_cons, List.length_append] at h
      split
      · next hle =>
        have hmore : n - (transferred + chunk.length) ≤ rest.flatten.length := by omega
        obtain ⟨rest', hr⟩ := ih (buf ++ chunk) hmore
        refine ⟨rest', ?_⟩
        have hlen : min (n - (transferred + chunk.length)) (maxSize - (buf ++ chunk).length) =
              min (n - transferred) (maxSize - buf.length) - chunk.length := by
          rw [List.length_append]
          omega
        rw [hr, hlen, List.append_assoc, List.flatten_cons, List.take_append,
          List.take_of_length_le hle]
      · next hg =>
        refine ⟨chunk.drop (min (n - transferred) (maxSize - buf.length)) :: rest, ?_⟩
        rw [List.flatten_cons, List.take_append_of_le_length (by omega)]

end BoundedRead
