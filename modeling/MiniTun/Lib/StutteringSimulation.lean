import Mathlib.Data.Prod.Lex
import Mathlib.Logic.Function.Iterate
import Mathlib.Order.WellFounded

/-!
# Stuttering simulations between deterministic machines

A machine follows another through a view of its states if each of its steps is a step
of the other, or shows nothing and makes a rank smaller.  It may also leave the other's
run; `Leaves` says where.  The step is asked for in states that look like a state of
the other's run, so that what is known of that run is known here.
-/

namespace StutteringSimulation

variable {S T : Type*}

/-- A step does what the specification does, or stutters and lowers the rank, or leaves. -/
structure Follows (step : S → S) (spec : T → T) (view : S → T) (start : T)
    (Inv Leaves : S → Prop) (rank : S → Nat) : Prop where
  next : ∀ s n, Inv s → view s = spec^[n] start →
    (Inv (step s) ∧ (view (step s) = spec (view s) ∨
      view (step s) = view s ∧ rank (step s) < rank s)) ∨ Leaves s

section Follows

variable {step : S → S} {spec : T → T} {view : S → T} {start : T} {Inv Leaves : S → Prop}
  {rank : S → Nat} (follows : Follows step spec view start Inv Leaves rank)

include follows

theorem Follows.reaches_next {s : S} {k : Nat} (hinv : Inv s) (hv : view s = spec^[k] start) :
    ∃ n, Inv (step^[n] s) ∧ (view (step^[n] s) = spec^[k + 1] start ∨
      view (step^[n] s) = spec^[k] start ∧ Leaves (step^[n] s)) := by
  induction hrank : rank s using Nat.strongRecOn generalizing s with
  | ind _ ih =>
    rcases follows.next s k hinv hv with ⟨hnx, hst | ⟨hs, hless⟩⟩ | hl
    · refine ⟨1, hnx, .inl ?_⟩
      rw [Function.iterate_one, hst, hv, Function.iterate_succ_apply']
    · obtain ⟨n, hn⟩ := ih _ (hrank ▸ hless) hnx (hs.trans hv) rfl
      exact ⟨n + 1, by rwa [Function.iterate_succ_apply]⟩
    · exact ⟨0, hinv, .inr ⟨hv, hl⟩⟩

theorem Follows.reaches {s : S} (hinv : Inv s) (hv : view s = start) (N : Nat) :
    ∃ n k, Inv (step^[n] s) ∧ view (step^[n] s) = spec^[k] start ∧
      (k = N ∨ k < N ∧ Leaves (step^[n] s)) := by
  induction N with
  | zero => exact ⟨0, 0, hinv, hv, .inl rfl⟩
  | succ N ih =>
    obtain ⟨n, k, hinv, hv, rfl | ⟨hk, hl⟩⟩ := ih
    · obtain ⟨more, hinv', hv' | ⟨hv', hl⟩⟩ := follows.reaches_next hinv hv
      · exact ⟨more + n, k + 1, by rwa [Function.iterate_add_apply],
          by rwa [Function.iterate_add_apply], .inl rfl⟩
      · exact ⟨more + n, k, by rwa [Function.iterate_add_apply],
          by rwa [Function.iterate_add_apply],
          .inr ⟨Nat.lt_succ_self k, by rwa [Function.iterate_add_apply]⟩⟩
    · exact ⟨n, k, hinv, hv, .inr ⟨Nat.lt_succ_of_lt hk, hl⟩⟩

end Follows

/-- A machine that makes a well-founded measure smaller until it is done gets done. -/
theorem exists_iterate_done {α : Type*} [Preorder α] [WellFoundedLT α] {step : S → S}
    {Inv Done : S → Prop} (measure : S → α) (keeps : ∀ s, Inv s → Inv (step s))
    (decreases : ∀ s, Inv s → Done s ∨ measure (step s) < measure s) {s : S} (hinv : Inv s) :
    ∃ n, Done (step^[n] s) := by
  induction hm : measure s using WellFoundedLT.induction generalizing s with
  | ind _ ih =>
    rcases decreases s hinv with hd | hless
    · exact ⟨0, hd⟩
    · obtain ⟨n, hn⟩ := ih _ (hm ▸ hless) (keeps s hinv) rfl
      exact ⟨n + 1, by rwa [Function.iterate_succ_apply]⟩

end StutteringSimulation
