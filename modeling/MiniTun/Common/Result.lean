import Mathlib.Data.List.Forall2
import Mathlib.Tactic.TypeStar

/-!
# Errors and results

`common::ErrorCode`, `common::Error` and `common::Result`.  A failure carries a
stable code and a message; both are part of what a caller sees, so the model
keeps them.
-/

namespace MiniTun

inductive ErrorCode where
  | ok
  | invalidArgument
  | notFound
  | alreadyExists
  | permissionDenied
  | notAuthenticated
  | authenticationFailed
  | connectionFailed
  | connectionTimeout
  | remotePortInUse
  | localConnectFailed
  | protocolError
  | frameTooLarge
  | unsupportedVersion
  | resourceExhausted
  | databaseError
  | tlsError
  | ipcError
  | internalError
deriving Repr, DecidableEq

structure Error where
  code : ErrorCode
  message : String
deriving Repr, DecidableEq

abbrev Result (α : Type*) := Except Error α

def failure {α : Type*} (code : ErrorCode) (message : String) : Result α :=
  .error ⟨code, message⟩

/-- What a peer is told about a result: nothing on success, the code otherwise. -/
def verdict {α : Type*} : Result α → Option ErrorCode
  | .ok _ => none
  | .error e => some e.code

variable {α : Type*} {β : Type}

@[simp] theorem verdict_ok (a : α) : verdict (.ok a : Result α) = none := rfl

@[simp] theorem verdict_failure (code : ErrorCode) (msg : String) :
    verdict (failure code msg : Result α) = some code := rfl

variable {r : Result α}

theorem exists_error_of_not_isOk (h : r.isOk = false) : ∃ e, r = .error e := by
  cases r with
  | error e => exact ⟨e, rfl⟩
  | ok a => cases h

theorem isOk_iff : r.isOk = true ↔ ∃ a, r = .ok a := by
  cases r <;> simp [Except.toBool]

theorem bind_eq_ok {β : Type*} {f : α → Result β} {b : β} :
    r.bind f = .ok b ↔ ∃ a, r = .ok a ∧ f a = .ok b := by
  cases r with
  | error e => simp [Except.bind]
  | ok a => simp [Except.bind]

theorem do_eq_ok {α : Type} {r : Result α} {f : α → Result β} {b : β} :
    (r >>= f) = .ok b ↔ ∃ a, r = .ok a ∧ f a = .ok b :=
  bind_eq_ok

theorem map_eq_ok {β : Type*} {f : α → β} {b : β} : r.map f = .ok b ↔ ∃ a, r = .ok a ∧ f a = b := by
  cases r with
  | error e => simp [Except.map]
  | ok a => simp [Except.map]

theorem exists_unit {p : Unit → Prop} : (∃ u, p u) ↔ p () :=
  ⟨fun ⟨(), h⟩ => h, fun h => ⟨(), h⟩⟩

theorem mapM_eq_ok {α : Type} {f : α → Result β} {items : List α} {values : List β} :
    items.mapM f = .ok values ↔ List.Forall₂ (fun a b => f a = .ok b) items values := by
  induction items generalizing values with
  | nil => simp [pure, Except.pure]
  | cons a items ih =>
    rw [List.mapM_cons, List.forall₂_cons_left_iff, do_eq_ok]
    constructor
    · rintro ⟨b, hb, hr⟩
      obtain ⟨bs, hbs, hval⟩ := do_eq_ok.1 hr
      cases hval
      exact ⟨b, bs, hb, ih.1 hbs, rfl⟩
    · rintro ⟨b, bs, hb, hbs, rfl⟩
      exact ⟨b, hb, do_eq_ok.2 ⟨bs, ih.2 hbs, rfl⟩⟩

theorem mem_of_mapM_eq_ok {α : Type} {f : α → Result β} {items : List α} {values : List β}
    (h : items.mapM f = .ok values) (b : β) : b ∈ values ↔ ∃ a ∈ items, f a = .ok b := by
  replace h := mapM_eq_ok.1 h
  induction h with
  | nil => simp
  | @cons a c items values hr _ ih => simp [ih, hr, eq_comm]

variable {code : ErrorCode} {msg : String}

theorem failure_ne_ok {a : α} : (failure code msg : Result α) ≠ .ok a := by
  simp [failure]

/-- A check that returns its failure, followed by the rest. -/
theorem guard_eq_ok {c : Prop} [Decidable c] {a : α} :
    (if c then failure code msg else r) = .ok a ↔ ¬ c ∧ r = .ok a := by
  by_cases h : c
  · simp [h, failure]
  · simp [h]

theorem ensure_eq_ok {c : Prop} [Decidable c] {a : α} :
    (if c then r else failure code msg) = .ok a ↔ c ∧ r = .ok a := by
  by_cases h : c <;> simp [h, failure]

end MiniTun
