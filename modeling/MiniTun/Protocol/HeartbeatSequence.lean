import Mathlib.Algebra.Group.Nat.Defs
import Mathlib.Logic.Function.Iterate
import MiniTun.Common.Result

/-!
# Heartbeat sequence numbers

A server tells the daemon how long a worker may be idle inside the sequence number of its
heartbeats.  The word holds a tag in the upper 16 bits, the timeout in 9 bits below and the
number of the heartbeat in the lower 39 bits; a heartbeat of an older server carries the number
alone.
-/

namespace MiniTun.Protocol

def kMinimumWorkerIdleTimeoutSeconds : UInt16 := 1
def kMaximumWorkerIdleTimeoutSeconds : UInt16 := 300
def kMaximumNegotiatedHeartbeatSequence : UInt64 := ((1 : UInt64) <<< 39) - 1
def kHeartbeatMetadataTag : UInt64 := (0x4d54 : UInt64) <<< 48
def kHeartbeatMetadataTagMask : UInt64 := (0xffff : UInt64) <<< 48
def kHeartbeatTimeoutMask : UInt64 := 0x1ff
def kHeartbeatTimeoutShift : UInt64 := 39

def encodeWorkerTimeoutHeartbeatSequence (sequence : UInt64) (workerIdleTimeoutSeconds : UInt16) :
    Result UInt64 :=
  if sequence = 0 ∨ kMaximumNegotiatedHeartbeatSequence < sequence ∨
      workerIdleTimeoutSeconds < kMinimumWorkerIdleTimeoutSeconds ∨
      kMaximumWorkerIdleTimeoutSeconds < workerIdleTimeoutSeconds then
    failure .invalidArgument "heartbeat sequence or Worker idle timeout is outside its limit"
  else
    .ok (kHeartbeatMetadataTag |||
      (workerIdleTimeoutSeconds.toUInt64 <<< kHeartbeatTimeoutShift) ||| sequence)

def decodeWorkerIdleTimeoutSeconds (sequence : UInt64) : Option UInt16 :=
  if sequence &&& kHeartbeatMetadataTagMask ≠ kHeartbeatMetadataTag ∨
      sequence &&& kMaximumNegotiatedHeartbeatSequence = 0 then none
  else
    let timeout := ((sequence >>> kHeartbeatTimeoutShift) &&& kHeartbeatTimeoutMask).toUInt16
    if timeout < kMinimumWorkerIdleTimeoutSeconds ∨ kMaximumWorkerIdleTimeoutSeconds < timeout then
      none
    else some timeout

def advanceSequence (sequence : UInt64) : UInt64 :=
  let sequence := sequence + 1
  if sequence = 0 ∨ kMaximumNegotiatedHeartbeatSequence < sequence then 1 else sequence

/-! ## The fields as numbers -/

theorem and_shiftLeft (n mask i : Nat) : n &&& (mask <<< i) = ((n >>> i) &&& mask) <<< i := by
  apply Nat.eq_of_testBit_eq
  intro j
  by_cases hj : i ≤ j
  · simp [hj]
  · simp [hj]

variable {sequence word : UInt64} {timeout : UInt16}

theorem toNat_maximum : kMaximumNegotiatedHeartbeatSequence.toNat = 2 ^ 39 - 1 := rfl
theorem toNat_shortest : kMinimumWorkerIdleTimeoutSeconds.toNat = 1 := rfl
theorem toNat_longest : kMaximumWorkerIdleTimeoutSeconds.toNat = 300 := rfl

theorem toNat_and_maximum (word : UInt64) :
    (word &&& kMaximumNegotiatedHeartbeatSequence).toNat = word.toNat % 2 ^ 39 := by
  rw [UInt64.toNat_and]
  exact Nat.and_two_pow_sub_one_eq_mod word.toNat 39

theorem and_maximum_eq_zero :
    word &&& kMaximumNegotiatedHeartbeatSequence = 0 ↔ word.toNat % 2 ^ 39 = 0 := by
  rw [← UInt64.toNat_inj, toNat_and_maximum]
  rfl

theorem tag_iff : word &&& kHeartbeatMetadataTagMask = kHeartbeatMetadataTag ↔
    word.toNat / 2 ^ 48 = 0x4d54 := by
  have hand : (word &&& kHeartbeatMetadataTagMask).toNat =
      (word.toNat / 2 ^ 48 % 2 ^ 16) * 2 ^ 48 := by
    rw [UInt64.toNat_and, ← Nat.and_two_pow_sub_one_eq_mod, ← Nat.shiftRight_eq_div_pow,
      ← Nat.shiftLeft_eq]
    exact and_shiftLeft word.toNat 0xffff 48
  have htag : kHeartbeatMetadataTag.toNat = 0x4d54 * 2 ^ 48 := rfl
  have hlt := word.toNat_lt
  rw [← UInt64.toNat_inj]
  omega

theorem toNat_timeout (word : UInt64) :
    ((word >>> kHeartbeatTimeoutShift) &&& kHeartbeatTimeoutMask).toUInt16.toNat =
      word.toNat / 2 ^ 39 % 2 ^ 9 := by
  have hmask := Nat.and_two_pow_sub_one_eq_mod (word.toNat / 2 ^ 39) 9
  have hand : ((word >>> kHeartbeatTimeoutShift) &&& kHeartbeatTimeoutMask).toNat =
      word.toNat / 2 ^ 39 % 2 ^ 9 := by
    rw [← hmask, ← Nat.shiftRight_eq_div_pow, UInt64.toNat_and, UInt64.toNat_shiftRight]
    rfl
  rw [UInt64.toNat_toUInt16]
  omega

theorem decodeWorkerIdleTimeoutSeconds_eq_some :
    decodeWorkerIdleTimeoutSeconds word = some timeout ↔
      word.toNat / 2 ^ 48 = 0x4d54 ∧ 0 < word.toNat % 2 ^ 39 ∧
        word.toNat / 2 ^ 39 % 2 ^ 9 = timeout.toNat ∧ 1 ≤ timeout.toNat ∧ timeout.toNat ≤ 300 := by
  simp only [decodeWorkerIdleTimeoutSeconds, Option.ite_none_left_eq_some, ne_eq, tag_iff,
    and_maximum_eq_zero, Option.some.injEq, UInt16.lt_iff_toNat_lt, ← UInt16.toNat_inj,
    toNat_timeout, toNat_shortest, toNat_longest]
  omega

theorem toNat_tagged (hs : sequence.toNat < 2 ^ 39) (ht : timeout.toNat < 2 ^ 9) :
    (kHeartbeatMetadataTag ||| (timeout.toUInt64 <<< kHeartbeatTimeoutShift) ||| sequence).toNat =
      0x4d54 * 2 ^ 48 + timeout.toNat * 2 ^ 39 + sequence.toNat := by
  have hsh : (timeout.toUInt64 <<< kHeartbeatTimeoutShift).toNat = timeout.toNat * 2 ^ 39 := by
    rw [UInt64.toNat_shiftLeft, Nat.shiftLeft_eq, UInt16.toNat_toUInt64]
    exact Nat.mod_eq_of_lt (show timeout.toNat * 2 ^ 39 < 2 ^ 64 by omega)
  have hu := Nat.two_pow_add_eq_or_of_lt (show timeout.toNat * 2 ^ 39 < 2 ^ 48 by omega) 0x4d54
  have hword := Nat.two_pow_add_eq_or_of_lt hs (0x4d54 * 2 ^ 9 + timeout.toNat)
  have htag : kHeartbeatMetadataTag.toNat = 2 ^ 48 * 0x4d54 := rfl
  rw [UInt64.toNat_or, UInt64.toNat_or, hsh, htag, ← hu]
  rw [show 2 ^ 48 * 0x4d54 + timeout.toNat * 2 ^ 39 = 2 ^ 39 * (0x4d54 * 2 ^ 9 + timeout.toNat) by
    omega, ← hword]
  omega

/-- A word is the coding of a number and a timeout exactly if they are read from it. -/
theorem encodeWorkerTimeoutHeartbeatSequence_eq_ok :
    encodeWorkerTimeoutHeartbeatSequence sequence timeout = .ok word ↔
      decodeWorkerIdleTimeoutSeconds word = some timeout ∧
        word &&& kMaximumNegotiatedHeartbeatSequence = sequence := by
  have hz : sequence = 0 ↔ sequence.toNat = 0 := UInt64.toNat_inj.symm
  rw [decodeWorkerIdleTimeoutSeconds_eq_some, encodeWorkerTimeoutHeartbeatSequence, guard_eq_ok,
    Except.ok.injEq, hz, ← UInt64.toNat_inj, ← UInt64.toNat_inj, toNat_and_maximum,
    UInt64.lt_iff_toNat_lt, UInt16.lt_iff_toNat_lt, UInt16.lt_iff_toNat_lt, toNat_maximum,
    toNat_shortest, toNat_longest]
  constructor
  · rintro ⟨hin, hword⟩
    rw [toNat_tagged (by omega) (by omega)] at hword
    omega
  · rintro ⟨hword, hs⟩
    rw [toNat_tagged (by omega) (by omega)]
    omega

/-! ## The numbers of plain heartbeats -/

theorem toNat_iterate_advanceSequence (n : Nat) :
    (advanceSequence^[n] 1).toNat = n % (2 ^ 39 - 1) + 1 := by
  induction n with
  | zero => rfl
  | succ n ih =>
    have hn : (advanceSequence^[n] 1 + 1).toNat = n % (2 ^ 39 - 1) + 2 := by
      rw [UInt64.toNat_add, ih]
      exact Nat.mod_eq_of_lt (show n % (2 ^ 39 - 1) + 2 < 2 ^ 64 by omega)
    have hz : advanceSequence^[n] 1 + 1 ≠ 0 := fun h => by
      rw [h] at hn
      cases hn
    rw [Function.iterate_succ_apply']
    simp only [advanceSequence, hz, false_or, UInt64.lt_iff_toNat_lt, toNat_maximum]
    split
    · rw [UInt64.toNat_one]
      omega
    · rw [hn]
      omega

/-- **Heartbeat metadata.**  The coding loses nothing and no two codings agree, the numbers of
plain heartbeats are not read as codings, and what is read as a coding is one. -/
theorem heartbeat_metadata_coded :
    (∀ sequence timeout word, encodeWorkerTimeoutHeartbeatSequence sequence timeout = .ok word ↔
      decodeWorkerIdleTimeoutSeconds word = some timeout ∧
        word &&& kMaximumNegotiatedHeartbeatSequence = sequence) ∧
    (∀ sequence timeout sequence' timeout' word,
      encodeWorkerTimeoutHeartbeatSequence sequence timeout = .ok word →
      encodeWorkerTimeoutHeartbeatSequence sequence' timeout' = .ok word →
        sequence = sequence' ∧ timeout = timeout') ∧
    (∀ sequence, (∃ n, advanceSequence^[n] 1 = sequence) ↔
      1 ≤ sequence ∧ sequence ≤ kMaximumNegotiatedHeartbeatSequence) ∧
    (∀ n, decodeWorkerIdleTimeoutSeconds (advanceSequence^[n] 1) = none) := by
  refine ⟨fun _ _ _ => encodeWorkerTimeoutHeartbeatSequence_eq_ok, ?_, ?_, ?_⟩
  · intro sequence timeout sequence' timeout' word h h'
    obtain ⟨ht, hs⟩ := encodeWorkerTimeoutHeartbeatSequence_eq_ok.1 h
    obtain ⟨ht', hs'⟩ := encodeWorkerTimeoutHeartbeatSequence_eq_ok.1 h'
    exact ⟨hs.symm.trans hs', Option.some.inj (ht.symm.trans ht')⟩
  · intro sequence
    rw [UInt64.le_iff_toNat_le, UInt64.le_iff_toNat_le, UInt64.toNat_one, toNat_maximum]
    constructor
    · rintro ⟨n, rfl⟩
      rw [toNat_iterate_advanceSequence]
      omega
    · intro hs
      refine ⟨sequence.toNat - 1, ?_⟩
      rw [← UInt64.toNat_inj, toNat_iterate_advanceSequence]
      omega
  · intro n
    rw [Option.eq_none_iff_forall_ne_some]
    intro timeout h
    have htag := (decodeWorkerIdleTimeoutSeconds_eq_some.1 h).1
    rw [toNat_iterate_advanceSequence] at htag
    omega

end MiniTun.Protocol
