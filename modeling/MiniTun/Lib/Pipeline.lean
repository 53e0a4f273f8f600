import Mathlib.Data.List.Forall2

/-!
# Requests in flight

A client sends requests over one queue and reads their answers from another; the
server answers in order.  What the client still waits for is then cut in two:
the answers of the first part are in one queue, the requests of the second part
in the other.

`Asks a b` and `Answers a c` say what a request `b` and an answer `c` for the
entry `a` look like, and may speak of the state of both sides.  The three rules
below are the three ways such a state moves, and let the relations move with it.
-/

namespace Pipeline

variable {α β γ : Type*}

/-- The entries a client waits for, against the two queues. -/
def Pipelined (Asks : α → β → Prop) (Answers : α → γ → Prop) (awaited : List α)
    (requests : List β) (answers : List γ) : Prop :=
  ∃ answered unanswered, awaited = answered ++ unanswered ∧
    List.Forall₂ Answers answered answers ∧ List.Forall₂ Asks unanswered requests

variable {Asks Asks' : α → β → Prop} {Answers Answers' : α → γ → Prop} {awaited : List α}
  {reqs : List β} {answers : List γ}

theorem forall₂_imp_of_mem {R S : α → β → Prop} {l : List α} {m : List β}
    (h : List.Forall₂ R l m) (himp : ∀ a ∈ l, ∀ b, R a b → S a b) : List.Forall₂ S l m := by
  induction h with
  | nil => exact .nil
  | cons hab _ ih =>
    exact .cons (himp _ List.mem_cons_self _ hab)
      (ih fun a ha => himp a (List.mem_cons_of_mem _ ha))

theorem exists_of_forall₂ {R : α → β → Prop} {l : List α} {m : List β} {a : α}
    (h : List.Forall₂ R l m) (ha : a ∈ l) : ∃ b, R a b := by
  induction h with
  | nil => cases ha
  | @cons x y l m hx _ ih =>
    rcases List.mem_cons.1 ha with rfl | ha
    · exact ⟨y, hx⟩
    · exact ih ha

theorem Pipelined.of_mem {a : α} (h : Pipelined Asks Answers awaited reqs answers)
    (ha : a ∈ awaited) : (∃ b, Asks a b) ∨ ∃ c, Answers a c := by
  obtain ⟨answered, unanswered, rfl, han, hasks⟩ := h
  rcases List.mem_append.1 ha with ha | ha
  · exact .inr (exists_of_forall₂ han ha)
  · exact .inl (exists_of_forall₂ hasks ha)

theorem pipelined_nil_iff : Pipelined Asks Answers [] reqs answers ↔
    reqs = [] ∧ answers = [] := by
  constructor
  · rintro ⟨answered, unanswered, hs, ha, hasks⟩
    obtain ⟨rfl, rfl⟩ := List.append_eq_nil_iff.1 hs.symm
    exact ⟨List.forall₂_nil_left_iff.1 hasks, List.forall₂_nil_left_iff.1 ha⟩
  · rintro ⟨rfl, rfl⟩
    exact ⟨[], [], rfl, .nil, .nil⟩

/-- The relations may be replaced by others that follow for every entry. -/
theorem Pipelined.imp (h : Pipelined Asks Answers awaited reqs answers)
    (hasks : ∀ a ∈ awaited, ∀ b, Asks a b → Asks' a b)
    (han : ∀ a ∈ awaited, ∀ c, Answers a c → Answers' a c) :
    Pipelined Asks' Answers' awaited reqs answers := by
  obtain ⟨answered, unanswered, rfl, ha, hu⟩ := h
  exact ⟨answered, unanswered, rfl,
    forall₂_imp_of_mem ha fun a h => han a (List.mem_append_left _ h),
    forall₂_imp_of_mem hu fun a h => hasks a (List.mem_append_right _ h)⟩

theorem pipelined_of_forall₂ {new : List α} {win : List β}
    (h : List.Forall₂ Asks new win) : Pipelined Asks Answers new win ([] : List γ) :=
  ⟨[], new, rfl, .nil, h⟩

theorem Pipelined.serve {b : β} (h : Pipelined Asks Answers awaited (b :: reqs) answers) :
    ∃ before a after, awaited = before ++ a :: after ∧ Asks a b ∧
      ∀ {Asks' : α → β → Prop} {Answers' : α → γ → Prop} {c : γ},
        (∀ x ∈ before, ∀ y, Answers x y → Answers' x y) →
        (∀ x ∈ after, ∀ y, Asks x y → Asks' x y) → Answers' a c →
        Pipelined Asks' Answers' awaited reqs (answers ++ [c]) := by
  obtain ⟨answered, unanswered, rfl, ha, hu⟩ := h
  obtain ⟨a, after, hab, haf, rfl⟩ := List.forall₂_cons_right_iff.1 hu
  refine ⟨answered, a, after, rfl, hab, ?_⟩
  intro Asks' Answers' c hb hr hc
  refine ⟨answered ++ [a], after, by simp, ?_, forall₂_imp_of_mem haf hr⟩
  exact List.rel_append (forall₂_imp_of_mem ha hb) (.cons hc .nil)

theorem Pipelined.read {c : γ} (h : Pipelined Asks Answers awaited reqs (c :: answers)) :
    ∃ a rest, awaited = a :: rest ∧ Answers a c ∧
      ∀ {Asks' : α → β → Prop} {Answers' : α → γ → Prop},
        (∀ x ∈ rest, ∀ y, Asks x y → Asks' x y) →
        (∀ x ∈ rest, ∀ y, Answers x y → Answers' x y) →
        Pipelined Asks' Answers' rest reqs answers := by
  obtain ⟨answered, unanswered, rfl, ha, hu⟩ := h
  obtain ⟨a, answered, hac, hr, rfl⟩ := List.forall₂_cons_right_iff.1 ha
  refine ⟨a, answered ++ unanswered, rfl, hac, ?_⟩
  intro Asks' Answers' hasks han
  have hl : Pipelined Asks Answers (answered ++ unanswered) reqs answers :=
    ⟨answered, unanswered, rfl, hr, hu⟩
  exact hl.imp hasks han

end Pipeline
