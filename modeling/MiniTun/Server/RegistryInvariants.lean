import MiniTun.Lib.TransitionSystem
import MiniTun.Server.TunnelRegistry

/-!
# Invariants of the tunnel registry

What holds of the registry after any calls with any arguments, whatever the operating
system answers when a listener is started.  Keys are built by concatenation, yet even
a call with arguments that are no identifiers reaches only the listener of the client
and the tunnel it names: an identifier has no slash, so a key splits in one way.
-/

namespace MiniTun.Server

open KeyedMap

/-! ## Keys -/

theorem slash_not_mem_idPrefix (kind : IdKind) : (47 : UInt8) ∉ idPrefix kind := by
  cases kind <;> decide

theorem slash_not_mem_of_isId {kind : IdKind} {text : Bytes} (h : IsId kind text) :
    (47 : UInt8) ∉ text := by
  intro hmem
  have hf := List.find?_some h.kind_eq
  obtain ⟨rest, hr⟩ := List.isPrefixOf_iff_prefix.1 hf
  have hhex := h.hex
  rw [← hr, List.drop_left] at hhex
  rw [← hr] at hmem
  rcases List.mem_append.1 hmem with hmem | hmem
  · exact slash_not_mem_idPrefix kind hmem
  · exact absurd (List.all_eq_true.1 hhex 47 hmem) (by decide)

/-- A key names one client and one tunnel, whatever texts it is compared with. -/
theorem eq_of_bindingKey_eq {c t c' t' : Bytes} (hc : IsId .client c) (ht : IsId .tunnel t)
    (h : bindingKey c' t' = bindingKey c t) : c' = c ∧ t' = t := by
  unfold bindingKey at h
  rw [List.append_assoc, List.append_assoc] at h
  have hs : c ++ 47 :: t = c' ++ 47 :: t' := h.symm
  rw [List.append_cons_inj_of_notMem (slash_not_mem_of_isId hc) (slash_not_mem_of_isId ht)] at hs
  exact ⟨hs.1.symm, hs.2.2.symm⟩

namespace TunnelRegistry

/-! ## Calls -/

/-- A call of the registry.  A registration comes with what the operating system will
answer if a listener is started. -/
inductive Call where
  | register (binding : TunnelBinding) (maxForClient : Nat) (outcome : ListenOutcome)
  | unregister (clientId : Bytes) (sessionGeneration : Nat) (tunnelId : Bytes)
      (configRevision : Nat)
  | removeSession (clientId : Bytes) (sessionGeneration : Nat)
  | removeClient (clientId : Bytes)
  | clear

def Call.client : Call → Option Bytes
  | .register b _ _ => some b.clientId
  | .unregister clientId _ _ _ => some clientId
  | .removeSession clientId _ => some clientId
  | .removeClient clientId => some clientId
  | .clear => none

def perform (net : AddressText) (r : TunnelRegistry) : Call → TunnelRegistry
  | .register b maxForClient outcome => (r.registerTunnel net b maxForClient outcome).2
  | .unregister clientId generation tunnelId revision =>
    r.unregisterTunnel clientId generation tunnelId revision
  | .removeSession clientId generation => r.removeSession clientId generation
  | .removeClient clientId => r.removeClient clientId
  | .clear => r.clear

theorem wellKeyed_empty : WellKeyed ∅ :=
  fun _ _ h => nomatch h

def empty (allowedPorts : PortRange) (maxTunnelsPerClient maxTotalTunnels : Nat) :
    TunnelRegistry where
  allowedPorts := allowedPorts
  maxTunnelsPerClient := maxTunnelsPerClient
  maxTotalTunnels := maxTotalTunnels
  listeners := ∅
  wellKeyed := wellKeyed_empty

/-! ## One registration -/

/-- What was found when a listener was added: the binding passed every check, and there
was room for it once the tunnel's previous listener was gone. -/
structure Admitted (net : AddressText) (r : TunnelRegistry) (b : TunnelBinding)
    (maxForClient : Nat) : Prop where
  valid : validateBinding net r.allowedPorts b = .ok ()
  client_room : (r.eraseKey (bindingKey b.clientId b.tunnelId)).clientSize b.clientId <
    effectiveLimit maxForClient r.maxTunnelsPerClient
  total_room : size (r.eraseKey (bindingKey b.clientId b.tunnelId)).listeners < r.maxTotalTunnels

variable {b b' : TunnelBinding} {maxForClient lim : Nat} {outcome : ListenOutcome} {key c : Bytes}
  {call : Call}

theorem insertNew_eq_ok {r r' : TunnelRegistry} {hb : HasIdentity b}
    (h : r.insertNew b hb lim outcome = (.ok (), r')) :
    r.clientSize b.clientId < effectiveLimit lim r.maxTunnelsPerClient ∧
      size r.listeners < r.maxTotalTunnels ∧ r' = r.insertBinding b hb := by
  unfold insertNew at h
  simp only at h
  split at h
  · cases h
  · next hc =>
    split at h
    · cases h
    · next ht =>
      split at h
      · cases h
      · cases h
        exact ⟨by omega, by omega, rfl⟩

theorem registerTunnel_result (net : AddressText) (r : TunnelRegistry) (b : TunnelBinding)
    (lim : Nat) (outcome : ListenOutcome) :
    (r.registerTunnel net b lim outcome).2 = r ∨
    (HasIdentity b ∧ (r.registerTunnel net b lim outcome).2 =
      r.eraseKey (bindingKey b.clientId b.tunnelId)) ∨
    ∃ hb : HasIdentity b, (r.registerTunnel net b lim outcome).1 = .ok () ∧
      Admitted net r b lim ∧
      (r.registerTunnel net b lim outcome).2 =
        (r.eraseKey (bindingKey b.clientId b.tunnelId)).insertBinding b hb := by
  rcases r.registerTunnel_cases net b lim outcome with
    ⟨e, -, he⟩ | ⟨-, hok⟩ | ⟨e, -, hb, -, he⟩ | ⟨hb, ho, hok⟩
  · exact .inl (by rw [he])
  · exact .inl (by rw [hok])
  · exact .inr (.inl ⟨hb, by rw [he]⟩)
  · refine .inr (.inr ⟨hb, by rw [hok], ?_, by rw [hok]⟩)
    unfold registerTunnel at hok
    split at hok
    · cases hok
    · next hval =>
      split at hok
      · cases hok
      · simp only at hok
        rw [if_neg (show ¬ r.listeners.lookup (bindingKey b.clientId b.tunnelId) = some b
          from ho)] at hok
        obtain ⟨hc, ht, -⟩ := insertNew_eq_ok hok
        exact ⟨hval, hc, ht⟩

theorem numeric_of_validateBinding {net : AddressText} {ports : PortRange}
    (h : validateBinding net ports b = .ok ()) :
    ports.contains b.bindPort = true ∧ ∃ address, net.make b.bindHost = some address ∧
      (b.mode = .socks5 → address.isLoopback = true) := by
  unfold validateBinding at h
  split at h
  · cases h
  · split at h
    · cases h
    · next hp =>
      split at h
      · cases h
      · next address hadd =>
        split at h
        · cases h
        · next hl =>
          refine ⟨by simpa using hp, address, hadd, fun hm => ?_⟩
          by_contra hnot
          exact hl ⟨hm, Bool.not_eq_true _ ▸ hnot⟩

/-! ## What a call can do to a listener -/

variable {net : AddressText} {r : TunnelRegistry}

theorem lookup_of_registerTunnel
    (h : (r.registerTunnel net b lim outcome).2.listeners.lookup key = some b') :
    r.listeners.lookup key = some b' ∨ (b' = b ∧ Admitted net r b lim) := by
  rcases r.registerTunnel_result net b lim outcome with hr | ⟨-, hr⟩ | ⟨hb, -, ha, hr⟩
  · rw [hr] at h
    exact .inl h
  · rw [hr, lookup_eraseKey] at h
    split at h
    · cases h
    · exact .inl h
  · rw [hr, lookup_insertBinding] at h
    split at h
    · cases h
      exact .inr ⟨rfl, ha⟩
    · rw [lookup_eraseKey] at h
      split at h
      · cases h
      · exact .inl h

theorem identity_of_registerTunnel (hbf : r.listeners.lookup key = some b')
    (h : (r.registerTunnel net b lim outcome).2.listeners.lookup key ≠ some b') :
    b'.clientId = b.clientId ∧ b'.tunnelId = b.tunnelId := by
  have hown : HasIdentity b → key = bindingKey b.clientId b.tunnelId →
      b'.clientId = b.clientId ∧ b'.tunnelId = b.tunnelId := by
    intro hb hkey
    rw [lookup_key hbf] at hkey
    exact eq_of_bindingKey_eq hb.client hb.tunnel hkey
  rcases r.registerTunnel_result net b lim outcome with hr | ⟨hb, hr⟩ | ⟨hb, -, -, hr⟩
  · rw [hr] at h
    exact absurd hbf h
  · rw [hr, lookup_eraseKey] at h
    by_cases hkey : key = bindingKey b.clientId b.tunnelId
    · exact hown hb hkey
    · rw [if_neg hkey] at h
      exact absurd hbf h
  · rw [hr, lookup_insertBinding, lookup_eraseKey] at h
    by_cases hkey : key = bindingKey b.clientId b.tunnelId
    · exact hown hb hkey
    · rw [if_neg hkey, if_neg hkey] at h
      exact absurd hbf h

theorem lookup_of_unregisterTunnel {t : Bytes} {g rev : Nat}
    (h : (r.unregisterTunnel c g t rev).listeners.lookup key = some b) :
    r.listeners.lookup key = some b := by
  unfold unregisterTunnel at h
  simp only at h
  split at h
  · exact h
  · split at h
    · exact h
    · rw [lookup_eraseKey] at h
      split at h
      · cases h
      · exact h

/-- What unregistering stops is the listener it names, of the session and the revision
it names. -/
theorem identity_of_unregisterTunnel {t : Bytes} {g rev : Nat}
    (hbf : r.listeners.lookup key = some b)
    (h : (r.unregisterTunnel c g t rev).listeners.lookup key ≠ some b) :
    b.clientId = c ∧ b.tunnelId = t ∧ b.sessionGeneration = g ∧
      (rev ≠ 0 → b.configRevision = rev) := by
  unfold unregisterTunnel at h
  simp only at h
  split at h
  · exact absurd hbf h
  · next b' hb' =>
    split at h
    · exact absurd hbf h
    · next hm =>
      rw [lookup_eraseKey] at h
      by_cases hkey : key = bindingKey c t
      · rw [← hkey, hbf] at hb'
        cases hb'
        have hb := lookup_hasIdentity hbf
        obtain ⟨rfl, rfl⟩ := eq_of_bindingKey_eq hb.client hb.tunnel
          (hkey.symm.trans (lookup_key hbf))
        rw [not_or, not_not, not_and, not_not] at hm
        exact ⟨rfl, rfl, hm.1, hm.2⟩
      · rw [if_neg hkey] at h
        exact absurd hbf h

theorem lookup_of_perform (h : (r.perform net call).listeners.lookup key = some b) :
    r.listeners.lookup key = some b ∨
      ∃ lim outcome, call = .register b lim outcome ∧
        Admitted net r b lim := by
  cases call with
  | register b' lim outcome =>
    rcases lookup_of_registerTunnel h with h | ⟨rfl, ha⟩
    · exact .inl h
    · exact .inr ⟨lim, outcome, rfl, ha⟩
  | unregister c g t rev => exact .inl (lookup_of_unregisterTunnel h)
  | removeSession c g => exact .inl (lookup_removeSession.1 h).1
  | removeClient c => exact .inl (lookup_removeClient.1 h).1
  | clear => exact .inl (lookup_eraseMatching.1 h).1

theorem lookup_perform_of_ne (hca : call.client = some c) (hne : b.clientId ≠ c) :
    (r.perform net call).listeners.lookup key = some b ↔ r.listeners.lookup key = some b := by
  constructor
  · intro h
    rcases lookup_of_perform h with h | ⟨lim, outcome, rfl, -⟩
    · exact h
    · exact absurd (Option.some.inj hca) hne
  · intro hb
    by_contra h
    cases call with
    | register b' lim outcome =>
      cases hca
      exact hne (identity_of_registerTunnel hb h).1
    | unregister c' g t rev =>
      cases hca
      exact hne (identity_of_unregisterTunnel hb h).1
    | removeSession c' g =>
      cases hca
      exact h (lookup_removeSession.2 ⟨hb, fun hboth => hne hboth.1⟩)
    | removeClient c' =>
      cases hca
      exact h (lookup_removeClient.2 ⟨hb, hne⟩)
    | clear => cases hca

/-! ## Limits -/

/-- The registry's configuration never changes. -/
structure SameConfig (r r' : TunnelRegistry) : Prop where
  allowedPorts : r'.allowedPorts = r.allowedPorts
  maxTunnelsPerClient : r'.maxTunnelsPerClient = r.maxTunnelsPerClient
  maxTotalTunnels : r'.maxTotalTunnels = r.maxTotalTunnels

theorem sameConfig_perform (call : Call) : r.SameConfig (r.perform net call) := by
  cases call with
  | register b lim outcome =>
    simp only [perform]
    rcases r.registerTunnel_result net b lim outcome with hr | ⟨-, hr⟩ | ⟨hb, -, -, hr⟩ <;>
      rw [hr] <;> exact ⟨rfl, rfl, rfl⟩
  | unregister c g t rev =>
    simp only [perform, unregisterTunnel]
    split
    · exact ⟨rfl, rfl, rfl⟩
    · split <;> exact ⟨rfl, rfl, rfl⟩
  | removeSession c g => exact ⟨rfl, rfl, rfl⟩
  | removeClient c => exact ⟨rfl, rfl, rfl⟩
  | clear => exact ⟨rfl, rfl, rfl⟩

theorem size_perform_le (h : size r.listeners ≤ r.maxTotalTunnels) :
    size (r.perform net call).listeners ≤ r.maxTotalTunnels := by
  have he : ∀ key, size (r.eraseKey key).listeners ≤ r.maxTotalTunnels :=
    fun key => Nat.le_trans (size_erase_le r.listeners key) h
  have hrt : ∀ matching, size (r.eraseMatching matching).listeners ≤ r.maxTotalTunnels :=
    fun matching => Nat.le_trans (size_retain_le _ r.listeners) h
  cases call with
  | register b lim outcome =>
    simp only [perform]
    rcases r.registerTunnel_result net b lim outcome with
      hr | ⟨-, hr⟩ | ⟨hb, -, ha, hr⟩
    · rw [hr]
      exact h
    · rw [hr]
      exact he _
    · rw [hr]
      exact Nat.le_trans (size_insert_le _ _ _) ha.total_room
  | unregister c g t rev =>
    simp only [perform, unregisterTunnel]
    split
    · exact h
    · split
      · exact h
      · exact he _
  | removeSession c g => exact hrt _
  | removeClient c => exact hrt _
  | clear => exact hrt _

theorem clientSize_registerTunnel_le (hbf : r.listeners.lookup key ≠ some b)
    (ha : (r.registerTunnel net b lim outcome).2.listeners.lookup key = some b) :
    (r.registerTunnel net b lim outcome).2.clientSize b.clientId ≤
      effectiveLimit lim r.maxTunnelsPerClient := by
  rcases r.registerTunnel_result net b lim outcome with hr | ⟨-, hr⟩ | ⟨hb, -, had, hr⟩
  · rw [hr] at ha
    exact absurd ha hbf
  · rw [hr, lookup_eraseKey] at ha
    split at ha
    · cases ha
    · exact absurd ha hbf
  · rw [hr]
    exact Nat.le_trans (countIf_insert_le _ _ _ _) had.client_room

/-! ## Every run -/

/-- What holds of a registry after every call. -/
structure Orderly (net : AddressText) (r : TunnelRegistry) : Prop where
  keyed : ∀ key b, r.listeners.lookup key = some b → key = bindingKey b.clientId b.tunnelId
  unique : ∀ key key' b b', r.listeners.lookup key = some b → r.listeners.lookup key' = some b' →
    b.clientId = b'.clientId → b.tunnelId = b'.tunnelId → key = key' ∧ b = b'
  total : size r.listeners ≤ r.maxTotalTunnels
  numeric : ∀ key b, r.listeners.lookup key = some b → r.allowedPorts.contains b.bindPort = true ∧
    ∃ address, net.make b.bindHost = some address ∧ (b.mode = .socks5 → address.isLoopback = true)

/-- What one more call can do, whichever it is. -/
structure OrderlyCalls (net : AddressText) (r : TunnelRegistry) : Prop where
  added : ∀ call key b, r.listeners.lookup key ≠ some b →
    (r.perform net call).listeners.lookup key = some b →
    ∃ maxForClient outcome, call = .register b maxForClient outcome ∧
      (r.perform net call).clientSize b.clientId ≤
        effectiveLimit maxForClient r.maxTunnelsPerClient
  unregistered : ∀ c g t revision key b, r.listeners.lookup key = some b →
    (r.perform net (.unregister c g t revision)).listeners.lookup key ≠ some b →
    b.clientId = c ∧ b.tunnelId = t ∧ b.sessionGeneration = g ∧
      (revision ≠ 0 → b.configRevision = revision)
  refused : ∀ b maxForClient outcome e,
    (r.registerTunnel net b maxForClient outcome).1 = .error e →
    ∀ key b', (r.listeners.lookup key = some b' →
        (r.perform net (.register b maxForClient outcome)).listeners.lookup key ≠ some b' →
        b'.clientId = b.clientId ∧ b'.tunnelId = b.tunnelId) ∧
      ((r.perform net (.register b maxForClient outcome)).listeners.lookup key = some b' →
        r.listeners.lookup key = some b')
  others : ∀ call c key b, call.client = some c → b.clientId ≠ c →
    ((r.perform net call).listeners.lookup key = some b ↔ r.listeners.lookup key = some b)

theorem orderlyCalls (net : AddressText) (r : TunnelRegistry) : r.OrderlyCalls net where
  added call key b hbf ha := by
    rcases lookup_of_perform ha with h | ⟨lim, outcome, rfl, -⟩
    · exact absurd h hbf
    · exact ⟨lim, outcome, rfl, clientSize_registerTunnel_le hbf ha⟩
  unregistered _ _ _ _ _ _ hbf h := identity_of_unregisterTunnel hbf h
  refused b lim outcome e he key b' := by
    refine ⟨fun hbf h => identity_of_registerTunnel hbf h, fun ha => ?_⟩
    simp only [perform] at ha
    rcases r.registerTunnel_result net b lim outcome with hr | ⟨-, hr⟩ | ⟨hb, hok, -, -⟩
    · rwa [hr] at ha
    · rw [hr, lookup_eraseKey] at ha
      split at ha
      · cases ha
      · exact ha
    · rw [he] at hok
      cases hok
  others _ _ _ _ hca hne := lookup_perform_of_ne hca hne

theorem unique_of_wellKeyed {key' : Bytes} (h : r.listeners.lookup key = some b)
    (h' : r.listeners.lookup key' = some b') (hc : b.clientId = b'.clientId)
    (ht : b.tunnelId = b'.tunnelId) : key = key' ∧ b = b' := by
  have hkey : key = key' := by
    rw [lookup_key h, lookup_key h', hc, ht]
  subst hkey
  exact ⟨rfl, Option.some.inj (h.symm.trans h')⟩

theorem orderly_empty (ports : PortRange) (maxTunnelsPerClient maxTun : Nat) :
    (empty ports maxTunnelsPerClient maxTun).Orderly net where
  keyed _ _ h := lookup_key h
  unique _ _ _ _ h h' := unique_of_wellKeyed h h'
  total := Nat.zero_le _
  numeric _ _ h := nomatch h

theorem Orderly.perform (h : r.Orderly net) (call : Call) : (r.perform net call).Orderly net where
  keyed _ _ h := lookup_key h
  unique _ _ _ _ h h' := unique_of_wellKeyed h h'
  total := by
    rw [(sameConfig_perform call).maxTotalTunnels]
    exact size_perform_le h.total
  numeric key b hb := by
    rw [(sameConfig_perform call).allowedPorts]
    rcases lookup_of_perform hb with hbf | ⟨lim, outcome, -, ha⟩
    · exact h.numeric key b hbf
    · exact numeric_of_validateBinding ha.valid

open TransitionSystem (exec exec_invariant)

/-- Whatever calls are made, the registry is orderly, and so is every call that follows. -/
theorem registry_orderly (net : AddressText) (ports : PortRange)
    (maxTunnelsPerClient maxTotalTunnels : Nat) (calls : List Call) :
    (exec (perform net) (empty ports maxTunnelsPerClient maxTotalTunnels) calls).Orderly net ∧
      (exec (perform net) (empty ports maxTunnelsPerClient maxTotalTunnels) calls).OrderlyCalls
        net := by
  have hstep : ∀ (r : TunnelRegistry) (call : Call), r.Orderly net →
      (r.perform net call).Orderly net := fun _ call h => h.perform call
  exact ⟨exec_invariant hstep (orderly_empty ports maxTunnelsPerClient maxTotalTunnels) calls,
    orderlyCalls net _⟩

end TunnelRegistry

end MiniTun.Server
