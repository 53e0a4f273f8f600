import Mathlib.Tactic.TypeStar

/-!
# Programs that make requests

A program ends with a result or makes a request and goes on with the answer.  What a
request does is not part of the program: a machine answers it, given a choice of the
environment (which operation fails, say).  So one program can be run to its end, cut
off between any two requests, or interleaved with others.
-/

namespace Interaction

/-- A program with requests `E` and results `α`. -/
inductive Program (E : Type → Type) (α : Type) : Type 1 where
  | done (result : α)
  | call {β : Type} (request : E β) (next : β → Program E α)

namespace Program

variable {E : Type → Type} {α β : Type}

/-- Go on with `f` where the program ends. -/
protected def bind : Program E α → (α → Program E β) → Program E β
  | .done a, f => f a
  | .call request next, f => .call request fun answer => (next answer).bind f

instance : Monad (Program E) where
  pure := .done
  bind := Program.bind

def request (e : E β) : Program E β :=
  .call e .done

end Program

/-- Answers requests: the answer and the state after it, given the environment's
choice. -/
structure Machine (E : Type → Type) (ι σ : Type) where
  answer {β : Type} : E β → ι → σ → β
  after {β : Type} : E β → ι → σ → σ

section Semantics

variable {E : Type → Type} {ι σ α : Type} (M : Machine E ι σ)

/-- Run a program to its end, with the same choice at every request. -/
def run (choice : ι) : Program E α → σ → α × σ
  | .done a, s => (a, s)
  | .call e next, s => run choice (next (M.answer e choice s)) (M.after e choice s)

variable {M} {β : Type}

theorem run_bind (choice : ι) (p : Program E α) (f : α → Program E β) (s : σ) :
    run M choice (p >>= f) s =
      run M choice (f (run M choice p s).1) (run M choice p s).2 := by
  induction p generalizing s with
  | done a => rfl
  | call e next ih => exact ih (M.answer e choice s) (M.after e choice s)

end Semantics

end Interaction
