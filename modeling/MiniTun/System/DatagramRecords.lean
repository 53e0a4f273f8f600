import MiniTun.Lib.ChunkedStream
import MiniTun.Protocol.RelayOperations

/-!
# Datagrams in a stream

A datagram crosses the relay as a record, its length in two bytes and its payload.  Records are
written by `encode_datagram_record` and by `pump_udp_to_stream`, and read by the coroutine
`pump_stream_to_udp` on one end and by the callbacks of a `PeerSession` on the other.
-/

namespace MiniTun.System

open ChunkedStream Protocol Server

/-- The buffers `pump_udp_to_stream` writes for a datagram. -/
def pumpedRecord (payload : Bytes) : Bytes :=
  Wire.bigEndian kDatagramRecordHeaderSize payload.length ++ payload

/-- A round of `pump_stream_to_udp`: the payload it sends and what is left of the stream, unless
it stops. -/
def nextRecord (chunks : List Bytes) : Option (Bytes × List Bytes) :=
  match readExact kDatagramRecordHeaderSize chunks with
  | (none, _) => none
  | (some header, rest) =>
    let length := Wire.value header
    if kMaximumUdpPayloadSize < length then none
    else if length ≠ 0 then
      match readExact length rest with
      | (none, _) => none
      | (some payload, rest) => some (payload, rest)
    else some ([], rest)

variable {chunks chks rest : List Bytes} {header payload pay later : Bytes}

theorem pumpedRecord_of_header (hlen : header.length = kDatagramRecordHeaderSize)
    (h : pay.length = Wire.value header) : pumpedRecord pay = header ++ pay := by
  rw [pumpedRecord, h, Wire.bigEndian_value hlen]

theorem nextRecord_eq_some (h : nextRecord chks = some (pay, rest)) :
    pay.length ≤ kMaximumUdpPayloadSize ∧
      chks.flatten = pumpedRecord pay ++ rest.flatten := by
  unfold nextRecord at h
  split at h
  · cases h
  · next hh =>
    obtain ⟨hflat, hlen⟩ := readExact_eq_some hh
    simp only at h
    split at h
    · cases h
    · next hmax =>
      split at h
      · split at h
        · cases h
        · next hpay =>
          cases h
          obtain ⟨hr, hs⟩ := readExact_eq_some hpay
          rw [pumpedRecord_of_header hlen hs, List.append_assoc, hflat, hr, hs]
          exact ⟨Nat.not_lt.1 hmax, rfl⟩
      · next hz =>
        cases h
        have hs : ([] : Bytes).length = Wire.value _ := (not_not.1 hz).symm
        rw [pumpedRecord_of_header hlen hs, List.append_nil]
        exact ⟨Nat.zero_le _, hflat⟩

theorem nextRecord_of_flatten (hmax : pay.length ≤ kMaximumUdpPayloadSize)
    (h : chks.flatten = pumpedRecord pay ++ later) :
    ∃ rest, nextRecord chks = some (pay, rest) ∧ rest.flatten = later := by
  have hval : Wire.value (Wire.bigEndian kDatagramRecordHeaderSize pay.length) =
      pay.length := by
    rw [Wire.value_bigEndian]
    exact Nat.mod_eq_of_lt (Nat.lt_of_le_of_lt hmax (by decide))
  rw [pumpedRecord, List.append_assoc] at h
  obtain ⟨behind, hh, hb⟩ := readExact_of_flatten h (Wire.length_bigEndian _ _)
  obtain ⟨rest, hpay, hr⟩ := readExact_of_flatten hb rfl
  by_cases hz : pay = []
  · subst hz
    refine ⟨behind, ?_, hb⟩
    simp only [nextRecord, hh]
    rfl
  · refine ⟨rest, ?_, hr⟩
    have hs : pay.length ≠ 0 := fun hnil => hz (List.length_eq_zero_iff.1 hnil)
    simp only [nextRecord, hh, hval, if_neg (Nat.not_lt.2 hmax), if_pos hs, hpay]

theorem length_nextRecord_lt (h : nextRecord chks = some (pay, rest)) :
    rest.flatten.length < chks.flatten.length := by
  rw [(nextRecord_eq_some h).2, pumpedRecord, List.length_append, List.length_append,
    Wire.length_bigEndian, kDatagramRecordHeaderSize]
  omega

/-- The loop of `pump_stream_to_udp`: the datagrams it sends. -/
def pumpStreamToUdp (chunks : List Bytes) : List Bytes :=
  match hnext : nextRecord chunks with
  | none => []
  | some (payload, rest) =>
    have := length_nextRecord_lt hnext
    payload :: pumpStreamToUdp rest
termination_by chunks.flatten.length
decreasing_by assumption

theorem pumpStreamToUdp_of_none (h : nextRecord chks = none) : pumpStreamToUdp chks = [] := by
  unfold pumpStreamToUdp
  split
  · rfl
  · next hn => cases h.symm.trans hn

theorem pumpStreamToUdp_of_some (h : nextRecord chks = some (pay, rest)) :
    pumpStreamToUdp chks = pay :: pumpStreamToUdp rest := by
  rw [pumpStreamToUdp]
  split
  · next hn => cases h.symm.trans hn
  · next hn => cases h.symm.trans hn; rfl

/-! ## The reader of a peer session -/

/-- The read a `PeerSession` waits for. -/
inductive PeerRead where
  | header
  | payload (length : Nat)
  | stopped
deriving DecidableEq

structure PeerReader where
  pending : PeerRead
  delivered : List Bytes
  stream : List Bytes

namespace PeerReader

variable (p : PeerReader)

/-- `deliver`, while there is a listener. -/
def deliver (payload : Bytes) : PeerReader :=
  { p with pending := .header, delivered := p.delivered ++ [payload] }

def close : PeerReader :=
  { p with pending := .stopped }

/-- The callback of the read that is waited for. -/
def complete : PeerReader :=
  match p.pending with
  | .stopped => p
  | .header =>
    match readExact kDatagramRecordHeaderSize p.stream with
    | (none, rest) => { p with stream := rest }.close
    | (some header, rest) =>
      let p := { p with stream := rest }
      let length := Wire.value header
      if kMaximumUdpPayloadSize < length then p.close
      else if length = 0 then p.deliver []
      else { p with pending := .payload length }
  | .payload length =>
    match readExact length p.stream with
    | (none, rest) => { p with stream := rest }.close
    | (some payload, rest) => { p with stream := rest }.deliver payload

end PeerReader

open PeerReader

/-- A session that has delivered something already stops behind these datagrams. -/
def Delivers (delivered chunks datagrams : List Bytes) : Prop :=
  ∃ n, (complete^[n] ⟨.header, delivered, chunks⟩).pending = .stopped ∧
    (complete^[n] ⟨.header, delivered, chunks⟩).delivered = delivered ++ datagrams

/-- One record, in one callback or in two. -/
theorem complete_record (delivered chks : List Bytes) :
    match nextRecord chks with
    | none => Delivers delivered chks []
    | some (pay, rest) => ∃ n, complete^[n] ⟨.header, delivered, chks⟩ =
        ⟨.header, delivered ++ [pay], rest⟩ := by
  unfold nextRecord Delivers
  rcases hh : readExact kDatagramRecordHeaderSize chks with ⟨_ | header, behind⟩
  · exact ⟨1, by simp [complete, hh, close]⟩
  · by_cases hmax : kMaximumUdpPayloadSize < Wire.value header
    · simp only [if_pos hmax]
      exact ⟨1, by simp [complete, hh, hmax, close]⟩
    · by_cases hz : Wire.value header = 0
      · simp only [if_neg hmax, if_neg (not_not.2 hz)]
        exact ⟨1, by simp [complete, hh, hz, deliver]⟩
      · simp only [if_neg hmax, if_pos hz]
        rcases hpay : readExact (Wire.value header) behind with ⟨_ | payload, rest⟩
        · exact ⟨2, by simp [complete, hh, hmax, hz, hpay, close]⟩
        · exact ⟨2, by simp [complete, hh, hmax, hz, hpay, deliver]⟩

theorem delivers_pumpStreamToUdp (delivered chks : List Bytes) :
    Delivers delivered chks (pumpStreamToUdp chks) := by
  induction chks using pumpStreamToUdp.induct generalizing delivered with
  | case1 chks h =>
    have hr := complete_record delivered chks
    rw [h] at hr
    rw [pumpStreamToUdp_of_none h]
    exact hr
  | case2 chks pay rest h _ ih =>
    have hr := complete_record delivered chks
    rw [h] at hr
    obtain ⟨n, hn⟩ := hr
    obtain ⟨m, hs, hd⟩ := ih (delivered ++ [pay])
    refine ⟨m + n, ?_, ?_⟩
    · rw [Function.iterate_add_apply, hn, hs]
    · rw [Function.iterate_add_apply, hn, hd, pumpStreamToUdp_of_some h, List.append_assoc]
      rfl

/-! ## Both ends -/

theorem pumpStreamToUdp_records {payloads : List Bytes}
    (hmax : ∀ pay ∈ payloads, pay.length ≤ kMaximumUdpPayloadSize)
    (h : chks.flatten = (payloads.map pumpedRecord).flatten) :
    pumpStreamToUdp chks = payloads := by
  induction payloads generalizing chks with
  | nil =>
    cases hn : nextRecord chks with
    | none => exact pumpStreamToUdp_of_none hn
    | some next =>
      have hlt := length_nextRecord_lt hn
      rw [h] at hlt
      cases hlt
  | cons pay payloads ih =>
    obtain ⟨hfits, hl⟩ := List.forall_mem_cons.1 hmax
    obtain ⟨rest, hn, hr⟩ := nextRecord_of_flatten hfits h
    rw [pumpStreamToUdp_of_some hn, ih hl hr]

theorem flatten_eq_pumpStreamToUdp (chks : List Bytes) :
    ∃ rest, chks.flatten = ((pumpStreamToUdp chks).map pumpedRecord).flatten ++ rest ∧
      ∀ pay later, pay.length ≤ kMaximumUdpPayloadSize →
        rest ≠ pumpedRecord pay ++ later := by
  induction chks using pumpStreamToUdp.induct with
  | case1 chks h =>
    rw [pumpStreamToUdp_of_none h]
    refine ⟨_, rfl, fun pay later hfits hrec => ?_⟩
    obtain ⟨rest, hn, -⟩ := nextRecord_of_flatten hfits hrec
    cases h.symm.trans hn
  | case2 chks pay rest h _ ih =>
    obtain ⟨left, hl, hs⟩ := ih
    rw [pumpStreamToUdp_of_some h, (nextRecord_eq_some h).2, hl, ← List.append_assoc]
    exact ⟨left, rfl, hs⟩

/-- **Datagram boundaries.**  The two writers agree; records come out of both receivers as the
datagrams that went in; and on any bytes both receivers give the datagrams of the records in front
of the first one that is too long or not all there. -/
theorem datagrams_preserved :
    (∀ payload, payload.length ≤ kMaximumUdpPayloadSize →
      encodeDatagramRecord payload = .ok (pumpedRecord payload)) ∧
    (∀ payloads chunks, (∀ payload ∈ payloads, payload.length ≤ kMaximumUdpPayloadSize) →
      chunks.flatten = (payloads.map pumpedRecord).flatten →
        pumpStreamToUdp chunks = payloads ∧ Delivers [] chunks payloads) ∧
    ∀ chunks, Delivers [] chunks (pumpStreamToUdp chunks) ∧
      ∃ rest, chunks.flatten = ((pumpStreamToUdp chunks).map pumpedRecord).flatten ++ rest ∧
        ∀ payload later, payload.length ≤ kMaximumUdpPayloadSize →
          rest ≠ pumpedRecord payload ++ later := by
  refine ⟨?_, ?_, ?_⟩
  · intro payload hmax
    rw [encodeDatagramRecord, if_neg (Nat.not_lt.2 hmax),
      PayloadWriter.u16_encode_length (Nat.le_trans hmax (by decide))]
    rfl
  · intro payloads chunks hmax h
    have hsent := pumpStreamToUdp_records hmax h
    exact ⟨hsent, hsent ▸ delivers_pumpStreamToUdp [] chunks⟩
  · intro chunks
    exact ⟨delivers_pumpStreamToUdp [] chunks, flatten_eq_pumpStreamToUdp chunks⟩

end MiniTun.System
