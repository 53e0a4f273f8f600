import Mathlib.Algebra.Order.Ring.Rat
import Mathlib.Tactic.Linarith
import MiniTun.Common.Endpoint
import MiniTun.Lib.KeyedMap
import MiniTun.Lib.TransitionSystem

/-!
# The rate of connections from one source

`SourceConnectionLimiter` has a bucket of tokens for every client and source address.  A call
fills the bucket at the rate it names, up to a minute's worth, and is admitted for one token.
Tokens and times are rational numbers, and a time is in minutes.
-/

namespace MiniTun.Server

open KeyedMap TransitionSystem

def kMaximumBuckets : Nat := 4096

structure Bucket where
  tokens : ℚ
  lastSeen : ℚ

/-- A bucket that was never seen has just been made. -/
def Bucket.refill (b : Bucket) (rate : Nat) (now : ℚ) : Bucket :=
  if b.lastSeen = 0 then ⟨rate, now⟩
  else ⟨min rate (b.tokens + (now - b.lastSeen) * rate), now⟩

/-- A call of `allow`; `rate` is `connections_per_minute`.  The table has no order of its own, and
`first` is the place of its `begin`. -/
structure AllowCall where
  clientId : Bytes
  source : Address
  rate : Nat
  now : ℚ
  first : Nat

abbrev SourceConnectionLimiter := Map Bytes Bucket

namespace SourceConnectionLimiter

section Calls

variable (net : AddressText) (s : SourceConnectionLimiter) (c : AllowCall)

def key : Bytes :=
  c.clientId ++ 0 :: net.print c.source

/-- The bucket of the call, filled up. -/
def bucket : Bucket :=
  ((s.lookup (key net c)).getD ⟨0, 0⟩).refill c.rate c.now

def eraseBegin (first : Nat) : SourceConnectionLimiter :=
  match s.entries[first % size s]? with
  | none => s
  | some e => s.erase e.1

def allow : Bool × SourceConnectionLimiter :=
  if c.rate = 0 then (false, s)
  else
    let b := bucket net s c
    if b.tokens < 1 then (false, s.insert (key net c) b)
    else
      let s := s.insert (key net c) { b with tokens := b.tokens - 1 }
      if kMaximumBuckets < size s ∧ s.lookup (key net c) ≠ none then (true, eraseBegin s c.first)
      else (true, s)

def step : SourceConnectionLimiter :=
  (allow net s c).2

/-- The bucket under this key is not evicted. -/
def Keeps (k : Bytes) : Prop :=
  s.lookup k ≠ none ∨ key net c = k → (step net s c).lookup k ≠ none

end Calls

/-- How many of the calls for this key are admitted. -/
def admitted (net : AddressText) (k : Bytes) : SourceConnectionLimiter → List AllowCall → Nat
  | _, [] => 0
  | s, c :: cs =>
    (if key net c = k ∧ (allow net s c).1 = true then 1 else 0) + admitted net k (step net s c) cs

variable {net : AddressText} {s s' : SourceConnectionLimiter} {c : AllowCall} {k : Bytes}
  {r n : Nat} {a d t : ℚ} {cs : List AllowCall}

/-! ## One call -/

/-- The text of an address has no NUL, so that the last one in a key ends the client. -/
theorem key_ne (hnul : ∀ x, 0 ∉ net.print x) {e : AllowCall}
    (h : (e.clientId, net.print e.source) ≠ (c.clientId, net.print c.source)) :
    key net e ≠ key net c := by
  intro heq
  have hpre : ∀ {x y p q : Bytes}, 0 ∉ p → x ++ 0 :: p = y ++ 0 :: q → y <+: x := by
    intro x y p q hp hx
    obtain ⟨z, rfl, hz⟩ | ⟨z, rfl, -⟩ := List.append_eq_append_iff.1 hx
    · cases z with
      | nil => exact ⟨[], by simp⟩
      | cons b z =>
        rw [List.cons_append, List.cons.injEq] at hz
        exact absurd (hz.2 ▸ by simp) hp
    · exact ⟨z, rfl⟩
  have hid : e.clientId = c.clientId :=
    (hpre (hnul _) heq.symm).eq_of_length_le (hpre (hnul _) heq).length_le
  unfold key at heq
  rw [hid, List.append_cancel_left_eq, List.cons.injEq] at heq
  exact h (Prod.ext hid heq.2)

theorem allow_fst : (allow net s c).1 = true ↔ c.rate ≠ 0 ∧ 1 ≤ (bucket net s c).tokens := by
  unfold allow
  split
  · next hz => simp [hz]
  · next hz =>
    simp only [hz, ne_eq, not_false_eq_true, true_and]
    split
    · next hlt => simp [hlt]
    · next hlt =>
      split
      · simpa using hlt
      · simpa using hlt

/-- A bucket that is new holds a token. -/
theorem one_le_tokens (hz : c.rate ≠ 0) (h : ∀ b, s.lookup (key net c) = some b →
    1 ≤ b.tokens + (c.now - b.lastSeen) * c.rate) : 1 ≤ (bucket net s c).tokens := by
  have hone : (1 : ℚ) ≤ c.rate := by exact_mod_cast Nat.one_le_iff_ne_zero.2 hz
  unfold bucket Bucket.refill
  split
  · exact hone
  · next hne =>
    cases hb : s.lookup (key net c) with
    | none => simp [hb] at hne
    | some b => exact le_min hone (h b hb)

/-- What a call leaves of its bucket. -/
def left (net : AddressText) (s : SourceConnectionLimiter) (c : AllowCall) : Bucket :=
  let b := bucket net s c
  if b.tokens < 1 then b else { b with tokens := b.tokens - 1 }

variable (net s) in
theorem step_cases (hz : c.rate ≠ 0) :
    step net s c = s.insert (key net c) (left net s c) ∧
        ((bucket net s c).tokens < 1 ∨
          size (s.insert (key net c) (left net s c)) ≤ kMaximumBuckets) ∨
      step net s c = eraseBegin (s.insert (key net c) (left net s c)) c.first := by
  simp only [step, allow, left, if_neg hz]
  split
  · next hlt => exact .inl ⟨rfl, .inl hlt⟩
  · split
    · exact .inr rfl
    · next hlt hs =>
      rw [AList.lookup_insert] at hs
      exact .inl ⟨rfl, .inr (by simpa using hs)⟩

theorem lookup_eraseBegin (first : Nat) :
    (eraseBegin s first).lookup k = none ∨ (eraseBegin s first).lookup k = s.lookup k := by
  unfold eraseBegin
  split
  · exact .inr rfl
  · next e _ =>
    rw [lookup_erase_eq_ite]
    split
    · exact .inl rfl
    · exact .inr rfl

theorem size_eraseBegin (h : 0 < size s) (first : Nat) :
    size (eraseBegin s first) + 1 = size s := by
  unfold eraseBegin
  split
  · next hnone =>
    have hlt := Nat.mod_lt first h
    exact absurd hlt (not_lt.2 (List.getElem?_eq_none_iff.1 hnone))
  · next hsome => exact size_erase_add_one (lookup_eq_some_iff.2 (List.mem_of_getElem? hsome))

variable (net s) in
theorem lookup_step (hz : c.rate ≠ 0) (k : Bytes) :
    (step net s c).lookup k = none ∨
      (step net s c).lookup k = if k = key net c then some (left net s c) else s.lookup k := by
  rw [← lookup_insert_eq_ite]
  obtain ⟨heq, -⟩ | heq := step_cases net s hz
  · exact .inr (by rw [heq])
  · rw [heq]
    exact lookup_eraseBegin c.first

/-- The call for a bucket that is new is admitted, and makes room for it. -/
theorem size_step (h : size s ≤ kMaximumBuckets) : size (step net s c) ≤ kMaximumBuckets := by
  by_cases hz : c.rate = 0
  · simpa [step, allow, hz] using h
  have hi : ∀ v, size (s.insert (key net c) v) = size (s.erase (key net c)) + 1 := fun _ => rfl
  obtain ⟨heq, hlt | hle⟩ | heq := step_cases net s hz
  · rw [heq, hi]
    cases hb : s.lookup (key net c) with
    | none => exact absurd hlt (not_lt.2 (one_le_tokens hz (by simp [hb])))
    | some b => rwa [size_erase_add_one hb]
  · rwa [heq]
  · have hle := (size_insert_le s (key net c) (left net s c)).trans (Nat.succ_le_succ h)
    have he := size_eraseBegin (s := s.insert (key net c) (left net s c)) (Nat.succ_pos _) c.first
    rw [heq]
    omega

/-! ## The rate -/

theorem refill_le (b : Bucket) (now : ℚ) : (b.refill r now).tokens ≤ r := by
  unfold Bucket.refill
  split
  · exact le_rfl
  · exact min_le_left _ _

/-- By the time `t`, `n` calls since `a` were admitted, and what the bucket holds was not spent. -/
structure Spent (k : Bytes) (r n : Nat) (a t : ℚ) (s : SourceConnectionLimiter) : Prop where
  since : a ≤ t
  le : (n : ℚ) ≤ r + r * (t - a)
  held : n = 0 ∨ ∃ b, s.lookup k = some b ∧ b.lastSeen ≠ 0 ∧ b.lastSeen ≤ t ∧
    n + b.tokens ≤ r + r * (b.lastSeen - a)

theorem Spent.wait (h : Spent k r n a t s) {t' : ℚ} (ht : t ≤ t')
    (hs : s.lookup k ≠ none → s'.lookup k = s.lookup k) : Spent k r n a t' s' := by
  have hmul : r * (t - a) ≤ r * (t' - a) := by gcongr
  refine ⟨h.since.trans ht, h.le.trans (by linarith), ?_⟩
  obtain hn | ⟨b, hb, hne, hle, htk⟩ := h.held
  · exact .inl hn
  · exact .inr ⟨b, (hs (by simp [hb])).trans hb, hne, hle.trans ht, htk⟩

theorem Spent.refill (h : Spent k r n a t s) (ht : t ≤ c.now) (hk : key net c = k)
    (hr : c.rate = r) :
    n + (bucket net s c).tokens ≤ r + r * (c.now - a) := by
  have hs := h.since.trans ht
  rw [bucket, hk, hr]
  obtain rfl | ⟨b, hb, hne, hle, htk⟩ := h.held
  · have hmax := refill_le (r := r) ((s.lookup k).getD ⟨0, 0⟩) c.now
    have hmul : 0 ≤ r * (c.now - a) := by
      apply mul_nonneg (Nat.cast_nonneg r)
      linarith
    push_cast
    linarith
  · have hmin := min_le_right (r : ℚ) (b.tokens + (c.now - b.lastSeen) * r)
    rw [hb, Option.getD_some, Bucket.refill, if_neg hne]
    linarith

theorem bucket_lastSeen : (bucket net s c).lastSeen = c.now := by
  unfold bucket Bucket.refill
  split
  · rfl
  · rfl

/-- **One call**: for its own key it spends a token when it is admitted. -/
theorem Spent.call (h : Spent k r n a t s) (ht : t ≤ c.now) (hpos : 0 < c.now)
    (hr : key net c = k → c.rate = r) (hkeep : Keeps net s c k) :
    Spent k r (n + if key net c = k ∧ (allow net s c).1 = true then 1 else 0) a c.now
      (step net s c) := by
  by_cases hz : c.rate = 0
  · have hfst : ¬(allow net s c).1 = true := fun h => (allow_fst.1 h).1 hz
    have hs : step net s c = s := by simp [step, allow, hz]
    rw [if_neg fun h => hfst h.2, hs]
    exact h.wait ht fun _ => rfl
  by_cases hk : key net c = k
  · have hl := (lookup_step net s hz k).resolve_left (hkeep (.inr hk))
    have hsum := h.refill ht hk (hr hk)
    rw [if_pos hk.symm] at hl
    have hnext := h.wait ht fun _ => rfl
    by_cases hlt : (bucket net s c).tokens < 1
    · have hfst : ¬(allow net s c).1 = true := fun h => absurd (allow_fst.1 h).2 (not_le.2 hlt)
      rw [if_neg fun h => hfst h.2]
      refine ⟨hnext.since, hnext.le, .inr ⟨_, hl, ?_⟩⟩
      rw [left, if_pos hlt, bucket_lastSeen]
      exact ⟨hpos.ne', le_rfl, hsum⟩
    · rw [if_pos ⟨hk, allow_fst.2 ⟨hz, not_lt.1 hlt⟩⟩]
      refine ⟨hnext.since, ?_, .inr ⟨_, hl, ?_⟩⟩
      · push_cast
        linarith
      · rw [left, if_neg hlt]
        refine ⟨bucket_lastSeen ▸ hpos.ne', bucket_lastSeen.le, ?_⟩
        rw [bucket_lastSeen]
        push_cast
        linarith
  · rw [if_neg fun h => hk h.1]
    refine h.wait ht fun hne => ?_
    have hl := (lookup_step net s hz k).resolve_left (hkeep (.inl hne))
    rwa [if_neg (Ne.symm hk)] at hl

theorem Spent.run (h : Spent k r n a t s) (hd : t ≤ a + d)
    (hord : (t :: cs.map AllowCall.now).Pairwise (· ≤ ·))
    (hin : ∀ c ∈ cs, 0 < c.now ∧ c.now ≤ a + d)
    (hr : ∀ c ∈ cs, key net c = k → c.rate = r)
    (hkeep : AllSteps (step net) (Keeps net · · k) s cs) :
    ((n + admitted net k s cs : Nat) : ℚ) ≤ r + r * d := by
  induction cs generalizing n t s with
  | nil =>
    have hmul : r * (t - a) ≤ r * d := by
      gcongr
      linarith
    exact h.le.trans (by linarith)
  | cons c cs ih =>
    rw [List.map_cons, List.pairwise_cons] at hord
    obtain ⟨hpos, hle⟩ := hin c List.mem_cons_self
    have ht : t ≤ c.now := hord.1 _ List.mem_cons_self
    have hnext := h.call ht hpos (hr c List.mem_cons_self) hkeep.1
    rw [admitted, ← Nat.add_assoc]
    exact ih hnext hle hord.2 (fun e he => hin e (List.mem_cons_of_mem _ he))
      (fun e he => hr e (List.mem_cons_of_mem _ he)) hkeep.2

/-! ## Other keys -/

theorem lookup_exec (hother : ∀ e ∈ cs, key net e ≠ k)
    (hkeep : AllSteps (step net) (Keeps net · · k) s cs) :
    (exec (step net) s cs).lookup k = s.lookup k := by
  induction cs generalizing s with
  | nil => rfl
  | cons e cs ih =>
    rw [exec_cons, ih (fun c hc => hother c (List.mem_cons_of_mem _ hc)) hkeep.2]
    by_cases hz : e.rate = 0
    · simp [step, allow, hz]
    have hk := hother e List.mem_cons_self
    obtain hnone | hsome := lookup_step net s hz k
    · rw [hnone]
      by_contra hne
      exact hkeep.1 (.inl (Ne.symm hne)) hnone
    · rwa [if_neg (Ne.symm hk)] at hsome

/-- The table stays bounded; in `d` minutes a source gets at most what its bucket holds and what
the rate adds; whoever has a token is admitted; and a source depends on its own calls only. -/
theorem source_rate_bounded (hnul : ∀ x, 0 ∉ net.print x) (before : List AllowCall) :
    let s := exec (step net) ∅ before
    size s ≤ kMaximumBuckets ∧
      (∀ k r a d cs, 0 ≤ d → cs.Pairwise (fun c e => c.now ≤ e.now) →
        (∀ c ∈ cs, 0 < c.now ∧ a ≤ c.now ∧ c.now ≤ a + d) →
        (∀ c ∈ cs, key net c = k → c.rate = r) →
        AllSteps (step net) (Keeps net · · k) s cs → (admitted net k s cs : ℚ) ≤ r + r * d) ∧
      (∀ c, c.rate ≠ 0 → (∀ b, s.lookup (key net c) = some b →
        1 ≤ b.tokens + (c.now - b.lastSeen) * c.rate) → (allow net s c).1 = true) ∧
      ∀ c cs, (∀ e ∈ cs, (e.clientId, net.print e.source) ≠ (c.clientId, net.print c.source)) →
        AllSteps (step net) (Keeps net · · (key net c)) s cs →
        (allow net (exec (step net) s cs) c).1 = (allow net s c).1 := by
  refine ⟨?_, ?_, ?_, ?_⟩
  · have hs : ∀ s c, size s ≤ kMaximumBuckets → size (step net s c) ≤ kMaximumBuckets :=
      fun _ _ => size_step
    exact exec_invariant hs (Nat.zero_le _) before
  · intro k r a d cs hd hord hin hr hkeep
    have hspent : Spent k r 0 a a (exec (step net) ∅ before) := ⟨le_rfl, by simp, .inl rfl⟩
    have hle := hspent.run (d := d) (by linarith)
      (List.pairwise_cons.2 ⟨by simpa using fun c hc => (hin c hc).2.1, List.pairwise_map.2 hord⟩)
      (fun c hc => ⟨(hin c hc).1, (hin c hc).2.2⟩) hr hkeep
    rwa [Nat.zero_add] at hle
  · intro c hz h
    exact allow_fst.2 ⟨hz, one_le_tokens hz h⟩
  · intro c cs hother hkeep
    have hl := lookup_exec (fun e he => key_ne hnul (hother e he)) hkeep
    rw [Bool.eq_iff_iff, allow_fst, allow_fst, bucket, hl, bucket]

/-- A connection of a source that may connect once a minute. -/
def visit (source : BitVec 32) (now : ℚ) : AllowCall :=
  ⟨ascii "client_00112233445566778899aabbccddeeff", .v4 source, 1, now, 0⟩

/-- `198.51.100.7` comes twice in half a minute. -/
def comes : AllowCall := visit 0xc6336407#32 1

def comesAgain : AllowCall := visit 0xc6336407#32 (3 / 2)

/-- `203.0.113.9` comes in between. -/
def other : AllowCall := visit 0xcb007109#32 (5 / 4)

/-- The second connection is refused, with or without that of the other source. -/
theorem source_rate_bounded_sample :
    let net := Endpoint.plainText
    let s := exec (step net) ∅ [comes]
    ((admitted net (key net comes) ∅ [comes, other, comesAgain] : ℚ) ≤ 1 + 1 * (1 / 2) ∧
        admitted net (key net comes) ∅ [comes, other, comesAgain] = 1) ∧
      (allow net (exec (step net) s [other]) comesAgain).1 = (allow net s comesAgain).1 ∧
      (allow net s comesAgain).1 = false := by
  intro net s
  have hnul := Endpoint.zero_notMem_plainText
  have hrate := (source_rate_bounded hnul []).2.1 (key net comes) 1 1 (1 / 2)
    [comes, other, comesAgain] (by norm_num) (by decide +kernel) (by decide +kernel)
    (by decide +kernel)
    ⟨fun _ => by decide +kernel, fun _ => by decide +kernel, fun _ => by decide +kernel, trivial⟩
  refine ⟨⟨by exact_mod_cast hrate, by decide +kernel⟩, ?_, by decide +kernel⟩
  exact (source_rate_bounded hnul [comes]).2.2.2 comesAgain [other] (by decide +kernel)
    ⟨fun _ => by decide +kernel, trivial⟩

end SourceConnectionLimiter

end MiniTun.Server
