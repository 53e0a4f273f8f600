import Mathlib.Data.List.Basic

/-!
# Streams that arrive in chunks

A reader that asks for a number of items waits for as many chunks as hold them, and leaves the
rest of the last one for the next read.  What it gets depends on the items alone.
-/

namespace ChunkedStream

variable {α : Type*}

/-- Read so many items; `none` if the stream ends before. -/
def readExact (n : Nat) : List (List α) → Option (List α) × List (List α)
  | [] => (if n = 0 then some [] else none, [])
  | chunk :: chunks =>
    if n ≤ chunk.length then (some (chunk.take n), chunk.drop n :: chunks)
    else
      let read := readExact (n - chunk.length) chunks
      (read.1.map (chunk ++ ·), read.2)

variable {n : Nat} {chks rest : List (List α)} {items later : List α}

/-- **What a read takes from the stream.** -/
theorem readExact_eq_some (h : readExact n chks = (some items, rest)) :
    chks.flatten = items ++ rest.flatten ∧ items.length = n := by
  induction chks generalizing n items with
  | nil =>
    simp only [readExact] at h
    split at h
    · next hn =>
      cases h
      exact ⟨rfl, hn.symm⟩
    · cases h
  | cons chunk chks ih =>
    rw [readExact] at h
    split at h
    · next hn =>
      cases h
      rw [List.flatten_cons, List.flatten_cons, ← List.append_assoc, List.take_append_drop]
      exact ⟨rfl, List.length_take_of_le hn⟩
    · next hn =>
      obtain ⟨hr, hre⟩ := Prod.mk.inj h
      obtain ⟨first, hfst, rfl⟩ := Option.map_eq_some_iff.1 hr
      obtain ⟨hflat, hlen⟩ := ih (Prod.ext hfst hre)
      rw [List.flatten_cons, hflat, List.append_assoc, List.length_append]
      exact ⟨rfl, by omega⟩

theorem readExact_eq_none (h : readExact n chks = (none, rest)) : chks.flatten.length < n := by
  induction chks generalizing n with
  | nil =>
    simp only [readExact] at h
    split at h
    · cases h
    · next hn => exact Nat.pos_of_ne_zero hn
  | cons chunk chks ih =>
    rw [readExact] at h
    split at h
    · cases h
    · obtain ⟨hr, hre⟩ := Prod.mk.inj h
      have hlt := ih (Prod.ext (Option.map_eq_none_iff.1 hr) hre)
      rw [List.flatten_cons, List.length_append]
      omega

/-- A stream that starts with so many items gives them to the read. -/
theorem readExact_of_flatten (h : chks.flatten = items ++ later) (hn : items.length = n) :
    ∃ rest, readExact n chks = (some items, rest) ∧ rest.flatten = later := by
  rcases hr : readExact n chks with ⟨read, rest⟩
  cases read with
  | none =>
    have hlt := readExact_eq_none hr
    rw [h, List.length_append] at hlt
    omega
  | some read =>
    obtain ⟨hflat, hlen⟩ := readExact_eq_some hr
    obtain ⟨rfl, hl⟩ := List.append_inj (hflat.symm.trans h) (hlen.trans hn.symm)
    exact ⟨rest, rfl, hl⟩

end ChunkedStream
