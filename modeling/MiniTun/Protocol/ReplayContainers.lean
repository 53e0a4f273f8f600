import MiniTun.Lib.KeyedMap
import MiniTun.Lib.TransitionSystem
import MiniTun.Protocol.Authentication

/-!
# The containers of the replay cache

`NonceReplayCache` keeps its entries in a list, in the order they were made in, and finds
them by a map from keys to iterators.  Both containers are modelled here, for clocks that go
back and forth.  Expiry looks at the front of the list only, so an entry can outlive its
retention behind one that has not expired; none is lost before it.

Readings of the clock are in nanoseconds from its epoch, and with the retention added they
are taken to be within its range.
-/

namespace MiniTun.Protocol

open KeyedMap TransitionSystem

/-- A node of `order_`; `number` stands for the iterator. -/
structure ReplayNode where
  number : Nat
  key : Bytes
  expiresAt : Int

/-- The entry of `entries_` that leads to a node. -/
def ReplayNode.indexed (node : ReplayNode) : Sigma fun _ : Bytes => Nat :=
  ⟨node.key, node.number⟩

/-- `NonceReplayCache`; `made` is the number of nodes there have been. -/
structure ReplayContainers where
  maxEntries : Nat
  retention : Nat
  entries : Map Bytes Nat
  order : List ReplayNode
  made : Nat

/-- The arguments of `consume`. -/
structure ConsumeCall where
  clientId : Bytes
  nonce : AuthenticationNonce
  now : Int

namespace ReplayContainers

def new (options : NonceReplayCacheOptions) : ReplayContainers :=
  ⟨max options.maxEntries 1, NonceReplayCache.clampRetention options.retention, ∅, [], 0⟩

/-- The loop at the head of `consume`. -/
def dropExpired (now : Int) (entries : Map Bytes Nat) :
    List ReplayNode → Map Bytes Nat × List ReplayNode
  | [] => (entries, [])
  | front :: rest =>
    if front.expiresAt ≤ now then dropExpired now (entries.erase front.key) rest
    else (entries, front :: rest)

section Calls

variable (s : ReplayContainers)

def pruned (now : Int) : ReplayContainers :=
  { s with
    entries := (dropExpired now s.entries s.order).1
    order := (dropExpired now s.entries s.order).2 }

/-- `push_back` and `emplace`. -/
def append (key : Bytes) (now : Int) : ReplayContainers :=
  { s with
    order := s.order ++ [⟨s.made, key, now + s.retention * kNanosecondsPerSecond⟩]
    entries := s.entries.insert key s.made
    made := s.made + 1 }

def consume (call : ConsumeCall) : Result Bool × ReplayContainers :=
  if !validId .client call.clientId then
    (failure .invalidArgument "authentication replay client ID is invalid", s)
  else
    let s := s.pruned call.now
    let key := replayKey call.clientId call.nonce
    if (s.entries.lookup key).isSome then (.ok false, s)
    else if s.maxEntries ≤ size s.entries then
      (failure .resourceExhausted "authentication replay cache reached its configured limit", s)
    else (.ok true, s.append key call.now)

def step (call : ConsumeCall) : ReplayContainers :=
  (s.consume call).2

end Calls

/-- The map has one entry for each node, under its key and with its iterator. -/
structure Indexed (options : NonceReplayCacheOptions) (s : ReplayContainers) : Prop where
  perm : s.entries.entries.Perm (s.order.map ReplayNode.indexed)
  numbers : (s.order.map ReplayNode.number).Nodup
  made : ∀ node ∈ s.order, node.number < s.made
  bounded : size s.entries ≤ max options.maxEntries 1
  maxEntries : s.maxEntries = max options.maxEntries 1
  retention : s.retention = NonceReplayCache.clampRetention options.retention

variable {opts : NonceReplayCacheOptions} {s : ReplayContainers} {node : ReplayNode}
  {call : ConsumeCall}

theorem dropExpired_spec (now : Int) {ents : Map Bytes Nat} {ord : List ReplayNode}
    (h : ents.entries.Perm (ord.map ReplayNode.indexed)) :
    (dropExpired now ents ord).2 = ord.dropWhile (fun node => node.expiresAt ≤ now) ∧
      (dropExpired now ents ord).1.entries.Perm
        ((dropExpired now ents ord).2.map ReplayNode.indexed) ∧
      (dropExpired now ents ord).1.entries.Sublist ents.entries := by
  induction ord generalizing ents with
  | nil => exact ⟨rfl, h, .refl _⟩
  | cons front rest ih =>
    unfold dropExpired
    by_cases hexp : front.expiresAt ≤ now
    · have he : (ents.erase front.key).entries.Perm (rest.map ReplayNode.indexed) := by
        refine (h.kerase ents.nodupKeys).trans ?_
        rw [List.map_cons, List.kerase_cons_eq (by rfl)]
      obtain ⟨hord, hperm, hsub⟩ := ih he
      rw [if_pos hexp, List.dropWhile_cons_of_pos (by simpa using hexp)]
      exact ⟨hord, hperm, hsub.trans (List.kerase_sublist _ _)⟩
    · rw [if_neg hexp, List.dropWhile_cons_of_neg (by simpa using hexp)]
      exact ⟨rfl, h, .refl _⟩

/-- What `kept` has is left of the cache after the loop: nothing that has not expired is
lost. -/
structure Keeps (now : Int) (s kept : ReplayContainers) : Prop where
  order : kept.order <:+ s.order
  entries : kept.entries.entries.Sublist s.entries.entries
  expired : ∀ node ∈ s.order, node ∈ kept.order ∨ node.expiresAt ≤ now

section Steps

variable (h : s.Indexed opts)
include h

theorem Indexed.pruned (now : Int) :
    (s.pruned now).Indexed opts ∧ Keeps now s (s.pruned now) := by
  obtain ⟨hord, hperm, hsub⟩ := dropExpired_spec now h.perm
  change (s.pruned now).order = _ at hord
  have hs : (s.pruned now).order <:+ s.order := by
    rw [hord]
    exact List.dropWhile_suffix _
  refine ⟨⟨hperm, h.numbers.sublist (hs.sublist.map _),
    fun node hn => h.made node (hs.mem hn), hsub.length_le.trans h.bounded,
    h.maxEntries, h.retention⟩, hs, hsub, ?_⟩
  intro node hn
  by_cases hk : node ∈ (s.pruned now).order
  · exact .inl hk
  · -- what is not left was taken off the front
    have ht : node ∈ s.order.takeWhile fun node => node.expiresAt ≤ now := by
      rw [← List.takeWhile_append_dropWhile (p := fun node => decide (node.expiresAt ≤ now))
        (l := s.order), List.mem_append, ← hord] at hn
      exact hn.resolve_right hk
    exact .inr (by simpa using List.mem_takeWhile_imp ht)

/-- Everything a call can do: fail or find the nonce used, and add nothing, or add a node. -/
theorem Indexed.consume_cases (call : ConsumeCall) :
    ∃ kept : ReplayContainers, kept.Indexed opts ∧ Keeps call.now s kept ∧
      ((s.consume call).1 ≠ .ok true ∧ (s.consume call).2 = kept ∨
        kept.entries.lookup (replayKey call.clientId call.nonce) = none ∧
          size kept.entries < kept.maxEntries ∧
          s.consume call =
            (.ok true, kept.append (replayKey call.clientId call.nonce) call.now)) := by
  obtain ⟨hp, hk⟩ := h.pruned call.now
  unfold consume
  split
  · exact ⟨s, h, ⟨List.suffix_rfl, .refl _, fun _ => .inl⟩, .inl ⟨by simp [failure], rfl⟩⟩
  · refine ⟨s.pruned call.now, hp, hk, ?_⟩
    simp only
    split
    · exact .inl ⟨by simp, rfl⟩
    · next hnew =>
      split
      · exact .inl ⟨by simp [failure], rfl⟩
      · next hr =>
        exact .inr ⟨Option.not_isSome_iff_eq_none.1 hnew, Nat.lt_of_not_le hr, rfl⟩

theorem Indexed.append {key : Bytes} (now : Int) (hnew : s.entries.lookup key = none)
    (hr : size s.entries < s.maxEntries) : (s.append key now).Indexed opts := by
  refine ⟨?_, ?_, ?_, (size_insert_le s.entries key s.made).trans (h.maxEntries ▸ hr),
    h.maxEntries, h.retention⟩
  · show (s.entries.insert key s.made).entries.Perm ((s.order ++ [_]).map _)
    rw [AList.entries_insert_of_notMem (AList.lookup_eq_none.1 hnew), List.map_append]
    exact (h.perm.cons _).trans (List.perm_append_singleton _ _).symm
  · show ((s.order ++ [_]).map _).Nodup
    rw [List.map_append, List.nodup_append]
    refine ⟨h.numbers, List.nodup_singleton _, ?_⟩
    intro number hnm other ho
    obtain ⟨node, hn, rfl⟩ := List.mem_map.1 hnm
    rw [List.mem_singleton.1 ho]
    exact Nat.ne_of_lt (h.made node hn)
  · intro node hn
    rcases List.mem_append.1 hn with hold | hnew
    · exact Nat.lt_succ_of_lt (h.made node hold)
    · rw [List.mem_singleton.1 hnew]
      exact Nat.lt_succ_self _

theorem Indexed.step (call : ConsumeCall) : (s.step call).Indexed opts := by
  unfold ReplayContainers.step
  obtain ⟨kept, hk, -, ⟨-, hs⟩ | ⟨hnew, hr, hs⟩⟩ := h.consume_cases call
  · rw [hs]
    exact hk
  · rw [hs]
    exact hk.append call.now hnew hr

theorem Indexed.mem_exec (calls : List ConsumeCall) (hn : node ∈ s.order) :
    node ∈ (exec ReplayContainers.step s calls).order ∨
      ∃ call ∈ calls, node.expiresAt ≤ call.now := by
  induction calls generalizing s with
  | nil => exact .inl hn
  | cons call calls ih =>
    obtain ⟨kept, -, hk, hs⟩ := h.consume_cases call
    rcases hk.expired node hn with hlf | hexp
    · have hst : node ∈ (s.step call).order := by
        unfold ReplayContainers.step
        rcases hs with ⟨-, hs⟩ | ⟨-, -, hs⟩
        · rwa [hs]
        · rw [hs]
          exact List.mem_append_left _ hlf
      refine (ih (h.step call) hst).imp_right ?_
      rintro ⟨later, hl, hexp⟩
      exact ⟨later, List.mem_cons_of_mem _ hl, hexp⟩
    · exact .inr ⟨call, List.mem_cons_self, hexp⟩

theorem Indexed.expired_of_accepted (hn : node ∈ s.order)
    (hkey : node.key = replayKey call.clientId call.nonce)
    (ha : (s.consume call).1 = .ok true) : node.expiresAt ≤ call.now := by
  obtain ⟨kept, hkp, hk, ⟨hne, -⟩ | ⟨hnew, -⟩⟩ := h.consume_cases call
  · exact absurd ha hne
  · refine (hk.expired node hn).resolve_left fun hl => ?_
    have hmem : node.indexed ∈ kept.entries.entries :=
      hkp.perm.mem_iff.2 (List.mem_map_of_mem hl)
    have hf := lookup_eq_some_iff.2 hmem
    rw [hkey, hnew] at hf
    cases hf

end Steps

theorem indexed_exec (opts : NonceReplayCacheOptions) (calls : List ConsumeCall) :
    (exec step (new opts) calls).Indexed opts :=
  exec_invariant (fun _ call h => h.step call)
    ⟨.nil, List.nodup_nil, (fun _ h => nomatch h), Nat.zero_le _, rfl, rfl⟩ calls

/-- **The replay cache.**  After any calls, with clocks that go back and forth, the two
containers are in bijection and within the limit.  A call that is not accepted adds no entry.
What is accepted a second time was accepted after some call, if only this one, had reached the
end of its retention. -/
theorem replay_containers_exact (options : NonceReplayCacheOptions) (history : List ConsumeCall)
    (call : ConsumeCall) :
    let s := exec step (new options) history
    (s.entries.entries.Perm (s.order.map ReplayNode.indexed) ∧
        (s.order.map ReplayNode.number).Nodup) ∧
      size s.entries ≤ max options.maxEntries 1 ∧
      ((s.consume call).1 ≠ .ok true → (s.consume call).2.order <:+ s.order ∧
        (s.consume call).2.entries.entries.Sublist s.entries.entries) ∧
      ∀ before first between, history = before ++ first :: between →
        ((exec step (new options) before).consume first).1 = .ok true →
        first.clientId = call.clientId → first.nonce = call.nonce →
        (s.consume call).1 = .ok true →
        ∃ later ∈ between ++ [call], first.now +
          NonceReplayCache.clampRetention options.retention * kNanosecondsPerSecond ≤
            later.now := by
  intro s
  have hindexed : s.Indexed options := indexed_exec options history
  refine ⟨⟨hindexed.perm, hindexed.numbers⟩, hindexed.bounded, ?_, ?_⟩
  · intro hrefused
    obtain ⟨kept, -, hkeeps, ⟨-, hs⟩ | ⟨-, -, hs⟩⟩ := hindexed.consume_cases call
    · rw [hs]
      exact ⟨hkeeps.order, hkeeps.entries⟩
    · exact absurd (congrArg Prod.fst hs) hrefused
  · intro before first between hhistory hfirst hclient hnonce hagain
    have hbefore := indexed_exec options before
    obtain ⟨kept, hkept, -, ⟨hne, -⟩ | ⟨-, -, hstep⟩⟩ := hbefore.consume_cases first
    · exact absurd hfirst hne
    -- the node of the first acceptance is followed through the calls between
    have hnode : ⟨kept.made, replayKey call.clientId call.nonce,
        first.now + kept.retention * kNanosecondsPerSecond⟩ ∈
        ((exec step (new options) before).step first).order := by
      rw [step, hstep, hclient, hnonce]
      exact List.mem_append_right _ (List.mem_singleton.2 rfl)
    have hs : exec step ((exec step (new options) before).step first) between = s := by
      rw [← exec_cons, ← exec_append, ← hhistory]
    rw [← hkept.retention]
    rcases (hbefore.step first).mem_exec between hnode with hleft | ⟨later, hlater, hexpired⟩
    · rw [hs] at hleft
      refine ⟨call, List.mem_append_right _ (List.mem_singleton.2 rfl), ?_⟩
      exact hindexed.expired_of_accepted hleft rfl hagain
    · exact ⟨later, List.mem_append_left _ hlater, hexpired⟩

/-! ## The one list of `NonceReplayCache` -/

/-- The cache has the entries of the list, in its order. -/
structure Lists (cache : NonceReplayCache) (s : ReplayContainers) : Prop where
  maxEntries : cache.maxEntries = s.maxEntries
  retention : cache.retention = s.retention
  order : cache.order.map (fun entry => (entry.key, (entry.expiresAt : Int))) =
    s.order.map fun node => (node.key, node.expiresAt)

variable {cache : NonceReplayCache}

theorem Lists.dropExpired (h : Lists cache s) (hs : s.Indexed opts) (now : Nat) :
    Lists (cache.dropExpired now) (s.pruned now) := by
  refine ⟨h.maxEntries, h.retention, ?_⟩
  have hd := congrArg (List.dropWhile fun e => decide (e.2 ≤ (now : Int))) h.order
  rw [List.dropWhile_map, List.dropWhile_map] at hd
  rw [ReplayContainers.pruned, (dropExpired_spec now hs.perm).1]
  simpa [NonceReplayCache.dropExpired, Function.comp_def] using hd

theorem Lists.contains_iff (h : Lists cache s) (hs : s.Indexed opts) (key : Bytes) :
    cache.contains key = true ↔ (s.entries.lookup key).isSome = true := by
  have hk : cache.order.map ReplayEntry.key = s.order.map ReplayNode.key := by
    simpa [Function.comp_def] using congrArg (List.map Prod.fst) h.order
  have hperm : s.entries.keys.Perm (s.order.map ReplayNode.key) := by
    simpa [AList.keys, List.keys, ReplayNode.indexed, Function.comp_def] using hs.perm.map Sigma.fst
  rw [NonceReplayCache.contains, decide_eq_true_eq, hk, AList.lookup_isSome, AList.mem_keys,
    hperm.mem_iff]

/-- **The cache as one list answers as its containers do**, while the clock is not before its
epoch. -/
theorem Lists.consume (h : Lists cache s) (hs : s.Indexed opts) (cid : Bytes)
    (nonce : AuthenticationNonce) (now : Nat) :
    (cache.consume cid nonce now).1 = (s.consume ⟨cid, nonce, now⟩).1 ∧
      Lists (cache.consume cid nonce now).2 (s.consume ⟨cid, nonce, now⟩).2 := by
  have hd := h.dropExpired hs now
  have hcon := hd.contains_iff (hs.pruned now).1 (replayKey cid nonce)
  have hsz : (cache.dropExpired now).order.length = size (s.pruned now).entries := by
    have hlen := congrArg List.length hd.order
    rw [List.length_map, List.length_map] at hlen
    rw [hlen, size, (hs.pruned now).1.perm.length_eq, List.length_map]
  unfold NonceReplayCache.consume ReplayContainers.consume
  simp only [hcon, hsz, hd.maxEntries]
  split
  · exact ⟨rfl, h⟩
  · split
    · exact ⟨rfl, hd⟩
    · split
      · exact ⟨rfl, hd⟩
      · refine ⟨rfl, hd.maxEntries, hd.retention, ?_⟩
        have hexp : cache.retention = (s.pruned now).retention := h.retention
        simp [NonceReplayCache.remember, append, hd.order, hexp]

end ReplayContainers

end MiniTun.Protocol
