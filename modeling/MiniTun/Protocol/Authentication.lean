import Mathlib.Data.List.TakeWhile
import MiniTun.Protocol.CanonicalCodec
import MiniTun.Protocol.Frame

/-!
# Worker authentication data and the replay cache

`protocol/auth.cpp`: the digest a Worker proves its key with, and the cache of nonces
that were used.  The cache is a list in insertion order; an entry stays until a call
whose reading of the clock has reached its expiry finds it in front.

Readings of the steady clock are in nanoseconds.
-/

namespace MiniTun.Protocol

open PayloadWriter (written finish_holding)

/-- HMAC-SHA256 of an input under a key, as the cryptographic library computes it;
`none` where it fails. -/
abbrev Hmac := Bytes → Bytes → Option AuthenticationData

section WorkerData

variable (hmac : Hmac) (token clientId serverId : Bytes) (sessionGeneration : UInt64)
  (workerId : Bytes) (timestampSeconds : Int64) (nonce : AuthenticationNonce)

def computeWorkerAuthenticationData : Result AuthenticationData :=
  if token = [] ∨ 64 * 1024 < token.length then
    failure .invalidArgument "worker authentication token length is invalid"
  else if !validId .client clientId ∨ !validId .server serverId ∨
      !validId .connection workerId ∨ sessionGeneration = 0 then
    failure .invalidArgument "worker authentication identity is invalid"
  else do
    let writer ← written (newWriter.writeString (ascii "minitun-worker-auth"))
    let writer ← written (writer.writeU16 Remote.kProtocolVersion)
    let writer ← written (writer.writeString clientId)
    let writer ← written (writer.writeString serverId)
    let writer ← written (writer.writeU64 sessionGeneration)
    let writer ← written (writer.writeString workerId)
    let writer ← written (writer.writeU64 timestampSeconds.toUInt64)
    let writer ← written (writer.writeBytes nonce)
    let input ← writer.finish
    match hmac token input with
    | none => failure .internalError "worker authentication digest generation failed"
    | some output => .ok output

def verifyWorkerAuthenticationData (candidate : AuthenticationData) : Result Bool := do
  let expected ← computeWorkerAuthenticationData hmac token clientId serverId sessionGeneration
    workerId timestampSeconds nonce
  return expected.1 = candidate.1

def workerAuthenticationInput : Bytes :=
  bytesField (ascii "minitun-worker-auth") ++ u16.encode Remote.kProtocolVersion ++
    bytesField clientId ++ bytesField serverId ++ u64.encode sessionGeneration ++
    bytesField workerId ++ u64.encode timestampSeconds.toUInt64 ++ bytesField nonce

variable {hmac token clientId serverId sessionGeneration workerId timestampSeconds nonce}

theorem digest_eq_ok {input : Bytes} {msg : String} {output : AuthenticationData} :
    (match hmac token input with
      | none => failure .internalError msg
      | some output => .ok output) = .ok output ↔ hmac token input = some output := by
  cases hmac token input with
  | none => simp [failure]
  | some found => simp

/-- The digest is what the library computes of the input, for a usable key and well-formed
identities. -/
theorem computeWorkerAuthenticationData_eq_ok {output : AuthenticationData} :
    computeWorkerAuthenticationData hmac token clientId serverId sessionGeneration workerId
        timestampSeconds nonce = .ok output ↔
      (token ≠ [] ∧ token.length ≤ 64 * 1024) ∧
        (IsId .client clientId ∧ IsId .server serverId ∧ IsId .connection workerId ∧
          sessionGeneration ≠ 0) ∧
        hmac token (workerAuthenticationInput clientId serverId sessionGeneration workerId
          timestampSeconds nonce) = some output := by
  unfold computeWorkerAuthenticationData
  by_cases ht : token ≠ [] ∧ token.length ≤ 64 * 1024
  · rw [if_neg (by simp only [ht.1, false_or]; omega)]
    by_cases hids : IsId .client clientId ∧ IsId .server serverId ∧ IsId .connection workerId ∧
        sessionGeneration ≠ 0
    · obtain ⟨hc, hs, hw, hgen⟩ := hids
      have hci := length_le_of_isId hc
      have hsr := length_le_of_isId hs
      have hwr := length_le_of_isId hw
      have hnon : nonce.1.length = 32 := nonce.2
      have hl : isText (ascii "minitun-worker-auth") = true := by decide
      have hlb : (ascii "minitun-worker-auth").length = 19 := by decide
      rw [if_neg (by simp [validId_iff.2 hc, validId_iff.2 hs, validId_iff.2 hw,
        hgen])]
      rw [newWriter_eq, writeString_bind, writeU16_bind, writeString_bind, writeString_bind,
        writeU64_bind, writeString_bind, writeU64_bind, writeBytes_bind]
      simp only [List.length_append, length_bytesField, Wire.Word.length_encode, List.length_nil,
        kMaxPayloadSize_eq]
      constructor
      · rintro ⟨-, -, -, -, -, -, -, -, h⟩
        exact ⟨ht, ⟨hc, hs, hw, hgen⟩, digest_eq_ok.1 h⟩
      · rintro ⟨-, -, h⟩
        exact ⟨⟨hl, by omega⟩, by omega, ⟨isText_of_isId hc, by omega⟩,
          ⟨isText_of_isId hs, by omega⟩, by omega, ⟨isText_of_isId hw, by omega⟩,
          by omega, by omega, digest_eq_ok.2 h⟩
    · rw [if_pos]
      · exact iff_of_false failure_ne_ok fun h => hids h.2.1
      · simpa only [Bool.not_eq_true', ← Bool.not_eq_true, validId_iff, not_and_or,
          not_not] using hids
  · rw [if_pos (by rwa [not_and_or, not_not, Nat.not_le] at ht)]
    exact iff_of_false failure_ne_ok fun h => ht h.1

end WorkerData

/-! ## The replay cache -/

def kNanosecondsPerSecond : Nat := 1000000000

structure NonceReplayCacheOptions where
  maxEntries : Nat := 16384
  retention : Int := 5 * 60

/-- A nonce that is remembered. -/
structure ReplayEntry where
  key : Bytes
  expiresAt : Nat
deriving DecidableEq

/-- `NonceReplayCache`.  `entries_` is the index of `order_` by key, which has no key
twice. -/
structure NonceReplayCache where
  maxEntries : Nat
  retention : Nat
  order : List ReplayEntry
  maxEntries_pos : 0 < maxEntries
  retention_pos : 0 < retention
  nodup : (order.map ReplayEntry.key).Nodup

def replayKey (clientId : Bytes) (nonce : AuthenticationNonce) : Bytes :=
  clientId ++ ascii ":" ++ nonce.1

namespace NonceReplayCache

/-- The constructor raises a retention that is not positive. -/
def clampRetention (retention : Int) : Nat :=
  if retention ≤ 0 then 1 else retention.toNat

theorem clampRetention_pos (retention : Int) : 0 < clampRetention retention := by
  unfold clampRetention
  split <;> omega

theorem max_one_pos (n : Nat) : 0 < max n 1 := by
  omega

theorem nodup_keys_nil : (([] : List ReplayEntry).map ReplayEntry.key).Nodup :=
  List.nodup_nil

def new (options : NonceReplayCacheOptions) : NonceReplayCache :=
  ⟨max options.maxEntries 1, clampRetention options.retention, [], max_one_pos _,
    clampRetention_pos _, nodup_keys_nil⟩

theorem nodup_keys_dropWhile {ord : List ReplayEntry} (test : ReplayEntry → Bool)
    (h : (ord.map ReplayEntry.key).Nodup) :
    ((ord.dropWhile test).map ReplayEntry.key).Nodup :=
  h.sublist ((List.dropWhile_sublist _).map _)

/-- The loop at the head of `consume`: drop what has expired from the front. -/
def dropExpired (cache : NonceReplayCache) (now : Nat) : NonceReplayCache :=
  { cache with
    order := cache.order.dropWhile fun entry => entry.expiresAt ≤ now
    nodup := nodup_keys_dropWhile _ cache.nodup }

def contains (cache : NonceReplayCache) (key : Bytes) : Bool :=
  key ∈ cache.order.map ReplayEntry.key

theorem nodup_keys_append {cache : NonceReplayCache} {key : Bytes} (expiresAt : Nat)
    (hnew : ¬ cache.contains key = true) :
    ((cache.order ++ [(⟨key, expiresAt⟩ : ReplayEntry)]).map ReplayEntry.key).Nodup := by
  rw [List.map_append, List.map_singleton, List.nodup_append]
  refine ⟨cache.nodup, by simp, ?_⟩
  intro a ha b hb hab
  rw [List.mem_singleton] at hb
  subst hab hb
  exact hnew (decide_eq_true ha)

/-- Append an entry for a key that has none. -/
def remember (cache : NonceReplayCache) (key : Bytes) (now : Nat)
    (hnew : ¬ cache.contains key = true) : NonceReplayCache :=
  { cache with
    order := cache.order ++ [⟨key, now + cache.retention * kNanosecondsPerSecond⟩]
    nodup := nodup_keys_append _ hnew }

def consume (cache : NonceReplayCache) (clientId : Bytes) (nonce : AuthenticationNonce)
    (now : Nat) : Result Bool × NonceReplayCache :=
  if !validId .client clientId then
    (failure .invalidArgument "authentication replay client ID is invalid", cache)
  else
    let cache := cache.dropExpired now
    if h : cache.contains (replayKey clientId nonce) = true then (.ok false, cache)
    else if cache.maxEntries ≤ cache.order.length then
      (failure .resourceExhausted "authentication replay cache reached its configured limit",
        cache)
    else (.ok true, cache.remember (replayKey clientId nonce) now h)

variable {cache : NonceReplayCache} {clientId : Bytes} {nonce : AuthenticationNonce} {now : Nat}

@[simp] theorem retention_dropExpired (cache : NonceReplayCache) (now : Nat) :
    (cache.dropExpired now).retention = cache.retention := rfl

variable {ent : ReplayEntry}

theorem mem_dropExpired (h : ent ∈ cache.order) :
    ent ∈ (cache.dropExpired now).order ∨ ent.expiresAt ≤ now := by
  have hs : ent ∈ cache.order.takeWhile (fun e => e.expiresAt ≤ now) ++
      cache.order.dropWhile fun e => e.expiresAt ≤ now := by
    rwa [List.takeWhile_append_dropWhile]
  rcases List.mem_append.1 hs with ht | hk
  · exact .inr (by simpa using List.mem_takeWhile_imp ht)
  · exact .inl hk

/-- Everything a call can do: fail or find the nonce used, dropping at most what has
expired, or remember it. -/
theorem consume_cases (cache : NonceReplayCache) (clientId : Bytes) (nonce : AuthenticationNonce)
    (now : Nat) :
    ((cache.consume clientId nonce now).1 ≠ .ok true ∧
      ((cache.consume clientId nonce now).2 = cache ∨
        (cache.consume clientId nonce now).2 = cache.dropExpired now)) ∨
    ∃ hnew : ¬ (cache.dropExpired now).contains (replayKey clientId nonce) = true,
      cache.consume clientId nonce now =
        (.ok true, (cache.dropExpired now).remember (replayKey clientId nonce) now hnew) := by
  unfold consume
  split
  · exact .inl ⟨by simp [failure], .inl rfl⟩
  · simp only
    split
    · exact .inl ⟨by simp, .inr rfl⟩
    · next hnew =>
      split
      · exact .inl ⟨by simp [failure], .inr rfl⟩
      · exact .inr ⟨hnew, rfl⟩

@[simp] theorem retention_consume :
    (cache.consume clientId nonce now).2.retention = cache.retention := by
  obtain ⟨-, h | h⟩ | ⟨hnew, h⟩ := consume_cases cache clientId nonce now
  · rw [h]
  · rw [h, retention_dropExpired]
  · rw [h]
    rfl

theorem mem_consume (h : ent ∈ cache.order) :
    ent ∈ (cache.consume clientId nonce now).2.order ∨ ent.expiresAt ≤ now := by
  obtain ⟨-, hc | hc⟩ | ⟨hnew, hc⟩ := consume_cases cache clientId nonce now
  · rw [hc]
    exact .inl h
  · rw [hc]
    exact mem_dropExpired h
  · rw [hc]
    exact (mem_dropExpired h).imp_left (List.mem_append_left _)

/-- An accepted nonce is remembered for the retention, counted from the call's reading. -/
theorem remembered_of_consume (h : (cache.consume clientId nonce now).1 = .ok true) :
    ⟨replayKey clientId nonce, now + cache.retention * kNanosecondsPerSecond⟩ ∈
      (cache.consume clientId nonce now).2.order := by
  obtain ⟨hne, -⟩ | ⟨hnew, hc⟩ := consume_cases cache clientId nonce now
  · exact absurd h hne
  · rw [hc]
    exact List.mem_append_right _ (List.mem_singleton.2 rfl)

/-- A nonce is accepted only if every entry it has was reached by the call's reading. -/
theorem expired_of_consume (h : (cache.consume clientId nonce now).1 = .ok true)
    (hent : ent ∈ cache.order) (hkey : ent.key = replayKey clientId nonce) :
    ent.expiresAt ≤ now := by
  obtain ⟨hne, -⟩ | ⟨hnew, hc⟩ := consume_cases cache clientId nonce now
  · exact absurd h hne
  · refine (mem_dropExpired hent).resolve_left fun hk => hnew ?_
    simpa [contains, ← hkey] using ⟨ent, hk, rfl⟩

theorem consume_of_expired (hc : validId .client clientId = true)
    (h : ∀ ent ∈ cache.order, ent.expiresAt ≤ now) :
    (cache.consume clientId nonce now).1 = .ok true ∧
      (cache.consume clientId nonce now).2.order =
        [⟨replayKey clientId nonce, now + cache.retention * kNanosecondsPerSecond⟩] := by
  have he : (cache.dropExpired now).order = [] :=
    List.dropWhile_eq_nil_iff.2 fun ent hent => decide_eq_true (h ent hent)
  have hnew : ¬ (cache.dropExpired now).contains (replayKey clientId nonce) = true := by
    simp [contains, he]
  have hr : ¬ (cache.dropExpired now).maxEntries ≤ (cache.dropExpired now).order.length := by
    rw [he]
    exact Nat.not_le.2 cache.maxEntries_pos
  unfold consume
  simp only [hc, dif_neg hnew, if_neg hr]
  simp [remember, he]

end NonceReplayCache

end MiniTun.Protocol
