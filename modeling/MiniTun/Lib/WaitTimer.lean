import Mathlib.Data.List.Basic

/-!
# Timers whose completions are queued

A timer of an event loop has an expiry time and waits that are under way.  When the clock has
passed the expiry, the loop puts the handlers of the waits into its queue with success; when the
timer is set again or cancelled, it puts them there with an abort.  A handler in the queue is out
of the timer's reach: neither setting the timer nor cancelling it changes the result the handler
will run with.

The generation counts how often the timer was set or cancelled, and a completion remembers the
generation it was queued in.  It is *superseded* once the two differ.  `Current` is what can be
said of the completions that are not superseded; those that are, it says nothing about.
-/

namespace WaitTimer

variable {W : Type*}

/-- What a wait ends with. -/
inductive WaitResult where
  | expired
  | aborted
deriving DecidableEq

/-- A handler in the queue. -/
structure Completion (W : Type*) where
  wait : W
  result : WaitResult
  generation : Nat
deriving DecidableEq

/-- A timer with its waits and its queued completions. -/
structure Timer (W : Type*) where
  expiry : Nat
  generation : Nat
  /-- The waits that are under way. -/
  waits : List W
  queue : List (Completion W)
deriving DecidableEq

namespace Timer

def new (expiry : Nat) : Timer W := ⟨expiry, 0, [], []⟩

section Operations

variable (t : Timer W)

/-- All waits under way end with a result. -/
def complete (result : WaitResult) : Timer W :=
  { t with
    waits := []
    queue := t.queue ++ t.waits.map fun w => ⟨w, result, t.generation⟩ }

def expiresAt (time : Nat) : Timer W :=
  { t.complete .aborted with expiry := time, generation := t.generation + 1 }

def cancel : Timer W :=
  { t.complete .aborted with generation := t.generation + 1 }

def asyncWait (w : W) : Timer W :=
  { t with waits := t.waits ++ [w] }

/-- The loop looks at the clock. -/
def expire (now : Nat) : Timer W :=
  if t.expiry ≤ now then t.complete .expired else t

def take (i : Nat) : Timer W :=
  { t with queue := t.queue.eraseIdx i }

/-- The handler at this place of the queue, if it runs with success. -/
def expiry? (i : Nat) : Option (Completion W) :=
  (t.queue[i]?).filter fun c => c.result = .expired

/-- The timer was set or cancelled after the completion was queued. -/
def superseded (c : Completion W) : Bool :=
  c.generation ≠ t.generation

@[simp] theorem expiry_expire (now : Nat) : (t.expire now).expiry = t.expiry := by
  unfold expire
  split
  · rfl
  · rfl

end Operations

theorem expiry?_eq_some {t : Timer W} {i : Nat} {c : Completion W} (h : t.expiry? i = some c) :
    c ∈ t.queue ∧ c.result = .expired := by
  obtain ⟨hget, hres⟩ := Option.filter_eq_some_iff.1 h
  exact ⟨List.mem_of_getElem? hget, of_decide_eq_true hres⟩

end Timer

/-- The waits under way meet `P`, and the completions with success that are not superseded
meet `R`. -/
structure Current (P R : W → Prop) (t : Timer W) : Prop where
  generation_le : ∀ c ∈ t.queue, c.generation ≤ t.generation
  waits : ∀ w ∈ t.waits, P w
  queue : ∀ c ∈ t.queue, c.result = .expired → c.generation = t.generation → R c.wait

namespace Current

variable {P R : W → Prop} {t : Timer W}

theorem new (expiry : Nat) : Current P R (Timer.new expiry) := by
  refine ⟨?_, ?_, ?_⟩
  · intro c hc
    cases hc
  · intro w hw
    cases hw
  · intro c hc
    cases hc

theorem mono {R' : W → Prop} (h : Current P R t) (himp : ∀ w, R w → R' w) : Current P R' t where
  generation_le := h.generation_le
  waits := h.waits
  queue := fun c hc hres hgen => himp _ (h.queue c hc hres hgen)

theorem generation_le_complete (h : Current P R t) (res : WaitResult) :
    ∀ c ∈ (t.complete res).queue, c.generation ≤ t.generation := by
  intro c hc
  rcases List.mem_append.1 hc with hold | hnew
  · exact h.generation_le c hold
  · obtain ⟨w, -, rfl⟩ := List.mem_map.1 hnew
    exact Nat.le_refl _

/-- After the timer was set or cancelled every completion is superseded. -/
theorem of_superseded {t' : Timer W} (hle : ∀ c ∈ t'.queue, c.generation < t'.generation)
    (hwa : t'.waits = []) : Current P R t' := by
  refine ⟨fun c hc => Nat.le_of_lt (hle c hc), ?_, ?_⟩
  · intro w hw
    rw [hwa] at hw
    cases hw
  · intro c hc _ hgen
    have := hle c hc
    omega

section Currency

variable (h : Current P R t)
include h

theorem expiresAt {P' R' : W → Prop} (time : Nat) : Current P' R' (t.expiresAt time) := by
  apply of_superseded
  · intro c hc
    exact Nat.lt_succ_of_le (h.generation_le_complete .aborted c hc)
  · rfl

theorem cancel {P' R' : W → Prop} : Current P' R' t.cancel := by
  apply of_superseded
  · intro c hc
    exact Nat.lt_succ_of_le (h.generation_le_complete .aborted c hc)
  · rfl

theorem asyncWait {w : W} (hw : P w) : Current P R (t.asyncWait w) := by
  refine ⟨h.generation_le, ?_, h.queue⟩
  intro w' hw'
  rcases List.mem_append.1 hw' with hold | hnew
  · exact h.waits w' hold
  · rw [List.mem_singleton.1 hnew]
    exact hw

theorem expire {now : Nat} (hdue : t.expiry ≤ now → ∀ w, P w → R w) :
    Current P R (t.expire now) := by
  unfold Timer.expire
  split
  · next hle =>
    refine ⟨h.generation_le_complete .expired, ?_, ?_⟩
    · intro w hw
      cases hw
    · intro c hc hres hgen
      rcases List.mem_append.1 hc with hold | hnew
      · exact h.queue c hold hres hgen
      · obtain ⟨w, hw, rfl⟩ := List.mem_map.1 hnew
        exact hdue hle w (h.waits w hw)
  · exact h

theorem take (i : Nat) : Current P R (t.take i) where
  generation_le := fun c hc => h.generation_le c (List.mem_of_mem_eraseIdx hc)
  waits := h.waits
  queue := fun c hc => h.queue c (List.mem_of_mem_eraseIdx hc)

/-- A handler that runs with success and is not superseded meets the condition. -/
theorem of_expiry? {i : Nat} {c : Completion W} (hc : t.expiry? i = some c)
    (hcur : t.superseded c = false) : R c.wait := by
  obtain ⟨hmem, hres⟩ := Timer.expiry?_eq_some hc
  have hgen : c.generation = t.generation := by
    unfold Timer.superseded at hcur
    rw [decide_eq_false_iff_not, not_not] at hcur
    exact hcur
  exact h.queue c hmem hres hgen

end Currency

end Current

end WaitTimer
