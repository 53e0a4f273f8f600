import Mathlib.Data.List.Basic

/-!
# Runs of a deterministic step function

A system is a function `step : σ → ε → σ`.  Whatever the environment decides
(a random draw, an operating-system verdict, the task that runs next) is part
of the event, so a run is a list of events and the state it reaches is a fold.

`AllSteps P` says that every step of a run meets `P`, a condition on the state
before the step and on the event.  The rules below are the inductions over runs that
the rest of the development performs.
-/

namespace TransitionSystem

variable {σ ε : Type*} {step : σ → ε → σ}

/-- The state a run reaches. -/
def exec (step : σ → ε → σ) (s : σ) (es : List ε) : σ :=
  es.foldl step s

/-- Every step of the run meets `P` in the state in which it is taken. -/
def AllSteps (step : σ → ε → σ) (P : σ → ε → Prop) : σ → List ε → Prop
  | _, [] => True
  | s, e :: es => P s e ∧ AllSteps step P (step s e) es

instance decidableAllSteps (P : σ → ε → Prop) [∀ s e, Decidable (P s e)] :
    ∀ s es, Decidable (AllSteps step P s es)
  | _, [] => isTrue trivial
  | s, e :: es =>
    have := decidableAllSteps P (step s e) es
    inferInstanceAs (Decidable (P s e ∧ AllSteps step P (step s e) es))

@[simp] theorem exec_nil (s : σ) : exec step s [] = s := rfl

@[simp] theorem exec_cons (s : σ) (e : ε) (es : List ε) :
    exec step s (e :: es) = exec step (step s e) es := rfl

theorem exec_append (s : σ) (es fs : List ε) :
    exec step s (es ++ fs) = exec step (exec step s es) fs :=
  List.foldl_append

@[simp] theorem allSteps_nil (P : σ → ε → Prop) (s : σ) : AllSteps step P s [] :=
  trivial

@[simp] theorem allSteps_cons (P : σ → ε → Prop) (s : σ) (e : ε) (es : List ε) :
    AllSteps step P s (e :: es) ↔ P s e ∧ AllSteps step P (step s e) es :=
  Iff.rfl

theorem allSteps_append (P : σ → ε → Prop) (s : σ) (es fs : List ε) :
    AllSteps step P s (es ++ fs) ↔
      AllSteps step P s es ∧ AllSteps step P (exec step s es) fs := by
  induction es generalizing s with
  | nil => simp
  | cons e es ih => simp [ih, and_assoc]

variable {es : List ε} {s : σ} {P Q : σ → ε → Prop} {Inv : σ → Prop}

theorem allSteps_of_forall_mem {R : ε → Prop} (h : ∀ e ∈ es, R e) :
    AllSteps step (fun _ e => R e) s es := by
  induction es generalizing s with
  | nil => trivial
  | cons e es ih =>
    exact ⟨h e List.mem_cons_self, ih fun e' he' => h e' (List.mem_cons_of_mem _ he')⟩

theorem AllSteps.and (hP : AllSteps step P s es) (hQ : AllSteps step Q s es) :
    AllSteps step (fun s e => P s e ∧ Q s e) s es := by
  induction es generalizing s with
  | nil => trivial
  | cons e es ih => exact ⟨⟨hP.1, hQ.1⟩, ih hP.2 hQ.2⟩

/-- What every step preserves holds at the end of every run. -/
theorem exec_invariant (hst : ∀ s e, Inv s → Inv (step s e)) (hs : Inv s) (es : List ε) :
    Inv (exec step s es) := by
  induction es generalizing s with
  | nil => exact hs
  | cons e es ih => exact ih (hst s e hs)

theorem AllSteps.at_split {pre post : List ε} {e : ε} (h : AllSteps step P s (pre ++ e :: post)) :
    P (exec step s pre) e :=
  ((allSteps_append P s pre (e :: post)).1 h).2.1

/-- **Invariant rule.** What every permitted step preserves holds at the end of
every permitted run. -/
theorem AllSteps.invariant (hst : ∀ s e, Inv s → P s e → Inv (step s e))
    (h : AllSteps step P s es) (hs : Inv s) : Inv (exec step s es) := by
  induction es generalizing s with
  | nil => exact hs
  | cons e es ih => exact ih h.2 (hst s e hs h.1)

/-- **Step rule.** Under an invariant, a condition on steps follows along the
whole run once it follows at one step. -/
theorem AllSteps.imp_of_invariant (hst : ∀ s e, Inv s → P s e → Inv (step s e))
    (himp : ∀ s e, Inv s → P s e → Q s e) (h : AllSteps step P s es) (hs : Inv s) :
    AllSteps step Q s es := by
  induction es generalizing s with
  | nil => trivial
  | cons e es ih => exact ⟨himp s e hs h.1, ih h.2 (hst s e hs h.1)⟩

/-- **Exchange rule.** Two conditions on steps that agree under an invariant agree
along every run whose events preserve it. -/
theorem allSteps_congr_of_invariant {R : ε → Prop} (hst : ∀ s e, Inv s → R e → Inv (step s e))
    (hiff : ∀ s e, Inv s → (P s e ↔ Q s e)) (hs : Inv s) (hes : ∀ e ∈ es, R e) :
    AllSteps step P s es ↔ AllSteps step Q s es := by
  induction es generalizing s with
  | nil => exact Iff.rfl
  | cons e es ih =>
    exact and_congr (hiff s e hs) (ih (hst s e hs (hes e List.mem_cons_self))
      fun e' he' => hes e' (List.mem_cons_of_mem _ he'))

/-- The same for two conditions one of which keeps the invariant itself, along a run
whose steps meet a third. -/
theorem allSteps_congr_of_kept {L : σ → ε → Prop} (hiff : ∀ s e, Inv s → L s e → (P s e ↔ Q s e))
    (hk : ∀ s e, Inv s → P s e → Inv (step s e)) (hs : Inv s) (hes : AllSteps step L s es) :
    AllSteps step P s es ↔ AllSteps step Q s es := by
  induction es generalizing s with
  | nil => exact Iff.rfl
  | cons e es ih =>
    have hh := hiff s e hs hes.1
    constructor
    · rintro ⟨hP, hr⟩
      exact ⟨hh.1 hP, (ih (hk s e hs hP) hes.2).1 hr⟩
    · rintro ⟨hQ, hr⟩
      exact ⟨hh.2 hQ, (ih (hk s e hs (hh.2 hQ)) hes.2).2 hr⟩

end TransitionSystem
