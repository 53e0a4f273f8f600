import Mathlib.Logic.Basic

/-!
# Loops that are left from inside

A `for (;;)` loop with `break` and `continue`: the body makes a new state and says
whether to go round again.  The number of rounds is an input, and the rule below
proves that there are enough of them together with what holds at the end.
-/

namespace Loop

variable {σ : Type*}

/-- At most `rounds` rounds; `none` if the loop has not been left by then. -/
def run (body : σ → Bool × σ) : Nat → σ → Option σ
  | 0, _ => none
  | rounds + 1, s =>
    match body s with
    | (true, s') => run body rounds s'
    | (false, s') => some s'

/-- The rule for total correctness: a round keeps the invariant and lowers the variant, or
leaves the loop with the postcondition. -/
theorem run_of_variant (body : σ → Bool × σ) (Inv Post : σ → Prop) (variant : σ → Nat)
    (hr : ∀ s, Inv s → (∃ s', body s = (false, s') ∧ Post s') ∨
      ∃ s', body s = (true, s') ∧ Inv s' ∧ variant s' < variant s)
    {s : σ} (hs : Inv s) {rounds : Nat} (hrn : variant s < rounds) :
    ∃ s', run body rounds s = some s' ∧ Post s' := by
  induction rounds generalizing s with
  | zero => omega
  | succ rounds ih =>
    rcases hr s hs with ⟨s', hbody, hpost⟩ | ⟨s', hbody, hs', hless⟩
    · exact ⟨s', by simp [run, hbody], hpost⟩
    · obtain ⟨t, hrun, hpost⟩ := ih hs' (by omega)
      exact ⟨t, by simp [run, hbody, hrun], hpost⟩

end Loop
