import MiniTun.Common.Address
import MiniTun.Common.Id
import MiniTun.Common.PortRange
import MiniTun.Lib.KeyedMap
import MiniTun.Protocol.Messages

/-!
# Tunnel registry

`server::TunnelRegistry` owns the public listeners.  A listener is stored under
the client and the tunnel it belongs to; registering the same tunnel with a
different binding stops the listener that is there before it checks the limits
and tries to start the new one.

Whether the operating system lets a listener start is an input of the model.
-/

namespace MiniTun.Server

open KeyedMap

/-- What a tunnel is registered with. -/
structure TunnelBinding where
  clientId : Bytes
  sessionGeneration : Nat
  tunnelId : Bytes
  bindHost : Bytes
  bindPort : Nat
  configRevision : Nat
  mode : TunnelMode
deriving DecidableEq

/-- `binding_key`. -/
def bindingKey (clientId tunnelId : Bytes) : Bytes :=
  clientId ++ ascii "/" ++ tunnelId

/-- The checks of `validate_binding` on a binding's identity. -/
structure HasIdentity (b : TunnelBinding) : Prop where
  client : IsId .client b.clientId
  tunnel : IsId .tunnel b.tunnelId
  generation_pos : 0 < b.sessionGeneration
  revision_pos : 0 < b.configRevision

/-- Every listener is stored under the key of its own binding. -/
def WellKeyed (listeners : Map Bytes TunnelBinding) : Prop :=
  ∀ key b, listeners.lookup key = some b →
    key = bindingKey b.clientId b.tunnelId ∧ HasIdentity b

/-- The bindings that have a listener. -/
structure TunnelRegistry where
  allowedPorts : PortRange
  maxTunnelsPerClient : Nat
  maxTotalTunnels : Nat
  listeners : Map Bytes TunnelBinding
  wellKeyed : WellKeyed listeners

/-- A client's own limit, capped by the configured one; zero asks for the
configured limit. -/
def effectiveLimit (requested configured : Nat) : Nat :=
  if requested = 0 then configured else min requested configured

/-- What the operating system answers when a listener is started. -/
inductive ListenOutcome where
  | listening
  | addressInUse
  | accessDenied
  | otherError
deriving Repr, DecidableEq

def validateBinding (net : AddressText) (allowedPorts : PortRange) (b : TunnelBinding) :
    Result Unit :=
  if validId .client b.clientId = false ∨ validId .tunnel b.tunnelId = false ∨
      b.sessionGeneration = 0 ∨ b.configRevision = 0 ∨ b.bindHost = [] ∨ b.bindPort = 0 then
    failure .invalidArgument "tunnel binding is invalid"
  else if allowedPorts.contains b.bindPort = false then
    failure .permissionDenied "remote tunnel port is outside the allowlist"
  else match net.make b.bindHost with
    | none => failure .invalidArgument "remote tunnel bind host must be numeric"
    | some address =>
      if b.mode = .socks5 ∧ address.isLoopback = false then
        failure .permissionDenied "SOCKS5 tunnels must bind a numeric loopback address"
      else .ok ()

variable {b : TunnelBinding} {m : Map Bytes TunnelBinding}

theorem hasIdentity_of_validateBinding {net : AddressText} {ports : PortRange}
    (h : validateBinding net ports b = .ok ()) : HasIdentity b := by
  unfold validateBinding at h
  split at h
  · cases h
  · next hid =>
    simp only [not_or, Bool.not_eq_false] at hid
    obtain ⟨hc, ht, hgen, hrev, -, -⟩ := hid
    exact ⟨validId_iff.1 hc, validId_iff.1 ht, Nat.pos_of_ne_zero hgen, Nat.pos_of_ne_zero hrev⟩

theorem validateBinding_error {net : AddressText} {ports : PortRange} {e : Error}
    (h : validateBinding net ports b = .error e) :
    e.code = .invalidArgument ∨ e.code = .permissionDenied := by
  unfold validateBinding at h
  split at h
  · cases h; exact .inl rfl
  · split at h
    · cases h; exact .inr rfl
    · split at h
      · cases h; exact .inl rfl
      · split at h
        · cases h; exact .inr rfl
        · cases h

/-! ## Keys -/

/-- Identifiers of one kind have one length, so a key determines both parts. -/
theorem bindingKey_injective {c c' t t' : Bytes} (hc : IsId .client c) (hc' : IsId .client c')
    (h : bindingKey c t = bindingKey c' t') : c = c' ∧ t = t' := by
  have hlen : c.length = c'.length := by rw [hc.length, hc'.length]
  unfold bindingKey at h
  rw [List.append_assoc, List.append_assoc] at h
  obtain ⟨rfl, ht⟩ := List.append_inj h hlen
  exact ⟨rfl, List.append_cancel_left ht⟩

theorem WellKeyed.retain (h : WellKeyed m) (keep : TunnelBinding → Bool) :
    WellKeyed (retain keep m) :=
  fun key b hb => h key b (lookup_retain_eq_some.1 hb).1

theorem WellKeyed.erase (h : WellKeyed m) (key : Bytes) : WellKeyed (m.erase key) := by
  intro k b hb
  exact h k b (lookup_of_erase hb)

theorem WellKeyed.insert (h : WellKeyed m) (hb : HasIdentity b) :
    WellKeyed (m.insert (bindingKey b.clientId b.tunnelId) b) := by
  intro k b' hk
  rw [lookup_insert_eq_ite] at hk
  split at hk
  · next hkey => cases hk; exact ⟨hkey, hb⟩
  · exact h k b' hk

namespace TunnelRegistry

/-- `ListenerBase::start`.  The host was accepted by `validate_binding`, so only
the operating system can refuse. -/
def startListener (mode : TunnelMode) : ListenOutcome → Result Unit
  | .listening => .ok ()
  | .addressInUse => refuse .remotePortInUse
  | .accessDenied => refuse .permissionDenied
  | .otherError => refuse .connectionFailed
where
  refuse (code : ErrorCode) : Result Unit :=
    if mode = .udp then failure code "remote UDP listener could not be created"
    else failure code "remote tunnel listener could not be created"

section Calls

variable (r : TunnelRegistry)

variable (clientId : Bytes)

def clientSize : Nat :=
  countIf (fun b => b.clientId = clientId) r.listeners

def eraseKey (key : Bytes) : TunnelRegistry :=
  { r with listeners := r.listeners.erase key, wellKeyed := r.wellKeyed.erase key }

def insertBinding (b : TunnelBinding) (hb : HasIdentity b) : TunnelRegistry :=
  { r with
    listeners := r.listeners.insert (bindingKey b.clientId b.tunnelId) b
    wellKeyed := r.wellKeyed.insert hb }

/-- The part of `register_tunnel` after a different binding of the same tunnel
has been stopped: the limits, the listener itself, and the new entry. -/
def insertNew (b : TunnelBinding) (hb : HasIdentity b) (maxForClient : Nat)
    (outcome : ListenOutcome) : Result Unit × TunnelRegistry :=
  let effectiveClientLimit := effectiveLimit maxForClient r.maxTunnelsPerClient
  if effectiveClientLimit = 0 ∨ effectiveClientLimit ≤ r.clientSize b.clientId then
    (failure .resourceExhausted "client tunnel limit has been reached", r)
  else if r.maxTotalTunnels ≤ size r.listeners then
    (failure .resourceExhausted "global tunnel limit has been reached", r)
  else match startListener b.mode outcome with
    | .error e => (.error e, r)
    | .ok () => (.ok (), r.insertBinding b hb)

def maximumTotalTunnels : Nat := 100000

def registerTunnel (net : AddressText) (r : TunnelRegistry) (b : TunnelBinding)
    (maxForClient : Nat) (outcome : ListenOutcome) : Result Unit × TunnelRegistry :=
  match hvalid : validateBinding net r.allowedPorts b with
  | .error e => (.error e, r)
  | .ok () =>
    if r.maxTunnelsPerClient = 0 ∨ maximumTotalTunnels < r.maxTunnelsPerClient ∨
        r.maxTotalTunnels = 0 ∨ maximumTotalTunnels < r.maxTotalTunnels then
      (failure .invalidArgument "tunnel limits are invalid", r)
    else
      let key := bindingKey b.clientId b.tunnelId
      if r.listeners.lookup key = some b then (.ok (), r)
      else (r.eraseKey key).insertNew b (hasIdentity_of_validateBinding hvalid) maxForClient outcome

variable (sessionGeneration : Nat)

/-- `TunnelRegistry::unregister_tunnel`; revision zero matches every revision. -/
def unregisterTunnel (tunnelId : Bytes) (configRevision : Nat) : TunnelRegistry :=
  let key := bindingKey clientId tunnelId
  match r.listeners.lookup key with
  | none => r
  | some b =>
    if b.sessionGeneration ≠ sessionGeneration ∨
        (configRevision ≠ 0 ∧ b.configRevision ≠ configRevision) then r
    else r.eraseKey key

/-- Stop every listener whose binding meets the test. -/
def eraseMatching (matching : TunnelBinding → Bool) : TunnelRegistry :=
  { r with
    listeners := retain (fun b => !matching b) r.listeners
    wellKeyed := r.wellKeyed.retain _ }

def removeSession : TunnelRegistry :=
  r.eraseMatching fun b => b.clientId = clientId ∧ b.sessionGeneration = sessionGeneration

def removeClient : TunnelRegistry :=
  r.eraseMatching fun b => b.clientId = clientId

def clear : TunnelRegistry :=
  r.eraseMatching fun _ => true

/-! ## What the operations do to a listener -/

/-- The listener of one tunnel of one client. -/
def listenerOf (clientId tunnelId : Bytes) : Option TunnelBinding :=
  r.listeners.lookup (bindingKey clientId tunnelId)

end Calls

variable {b : TunnelBinding} {key c t c' t' : Bytes} {r : TunnelRegistry} {net : AddressText}
  {out : ListenOutcome} {g rev : Nat}

theorem lookup_key (h : r.listeners.lookup key = some b) : key = bindingKey b.clientId b.tunnelId :=
  (r.wellKeyed key b h).1

theorem lookup_hasIdentity (h : r.listeners.lookup key = some b) : HasIdentity b :=
  (r.wellKeyed key b h).2

theorem lookup_eraseKey (r : TunnelRegistry) (key k : Bytes) :
    (r.eraseKey key).listeners.lookup k = if k = key then none else r.listeners.lookup k :=
  lookup_erase_eq_ite _ _ _

theorem lookup_insertBinding (r : TunnelRegistry) (b : TunnelBinding) (hb : HasIdentity b)
    (k : Bytes) :
    (r.insertBinding b hb).listeners.lookup k =
      if k = bindingKey b.clientId b.tunnelId then some b else r.listeners.lookup k :=
  lookup_insert_eq_ite _ _ _ _

variable {matching : TunnelBinding → Bool}

theorem lookup_eraseMatching :
    (r.eraseMatching matching).listeners.lookup key = some b ↔
      r.listeners.lookup key = some b ∧ matching b = false := by
  unfold eraseMatching
  rw [lookup_retain_eq_some, Bool.not_eq_true']

theorem lookup_removeSession {cid : Bytes} {gen : Nat} :
    (r.removeSession cid gen).listeners.lookup key = some b ↔
      r.listeners.lookup key = some b ∧
        ¬(b.clientId = cid ∧ b.sessionGeneration = gen) := by
  unfold removeSession
  rw [lookup_eraseMatching, decide_eq_false_iff_not]

theorem lookup_removeClient {cid : Bytes} :
    (r.removeClient cid).listeners.lookup key = some b ↔
      r.listeners.lookup key = some b ∧ b.clientId ≠ cid := by
  unfold removeClient
  rw [lookup_eraseMatching, decide_eq_false_iff_not]

theorem registerTunnel_of_invalid {e : Error} (h : validateBinding net r.allowedPorts b = .error e)
    (lim : Nat) (out : ListenOutcome) :
    r.registerTunnel net b lim out = (.error e, r) := by
  unfold registerTunnel
  split
  · next e' he' => rw [h] at he'; cases he'; rfl
  · next hok => rw [h] at hok; cases hok

theorem registerTunnel_of_valid (h : validateBinding net r.allowedPorts b = .ok ()) (lim : Nat)
    (out : ListenOutcome) : r.registerTunnel net b lim out =
      if r.maxTunnelsPerClient = 0 ∨ maximumTotalTunnels < r.maxTunnelsPerClient ∨
          r.maxTotalTunnels = 0 ∨ maximumTotalTunnels < r.maxTotalTunnels then
        (failure .invalidArgument "tunnel limits are invalid", r)
      else if r.listeners.lookup (bindingKey b.clientId b.tunnelId) = some b then (.ok (), r)
      else (r.eraseKey (bindingKey b.clientId b.tunnelId)).insertNew b
        (hasIdentity_of_validateBinding h) lim out := by
  unfold registerTunnel
  split
  · next e he => rw [h] at he; cases he
  · rfl

theorem startListener_error {mode : TunnelMode} {e : Error}
    (h : startListener mode out = .error e) : e.code ≠ .authenticationFailed := by
  have href : ∀ code, startListener.refuse mode code = .error e → e.code = code := by
    intro code hc
    unfold startListener.refuse at hc
    split at hc <;> cases hc <;> rfl
  cases out with
  | listening => cases h
  | addressInUse | accessDenied | otherError => rw [href _ h]; decide

theorem insertNew_cases (r : TunnelRegistry) (b : TunnelBinding) (hb : HasIdentity b)
    (lim : Nat) (out : ListenOutcome) :
    (∃ e : Error, e.code ≠ .authenticationFailed ∧
      r.insertNew b hb lim out = (.error e, r)) ∨
    r.insertNew b hb lim out = (.ok (), r.insertBinding b hb) := by
  unfold insertNew
  simp only
  split
  · exact .inl ⟨⟨.resourceExhausted, _⟩, by decide, rfl⟩
  · split
    · exact .inl ⟨⟨.resourceExhausted, _⟩, by decide, rfl⟩
    · split
      · next e he => exact .inl ⟨e, startListener_error he, rfl⟩
      · exact .inr rfl

/-- **What registering can do**: refuse and change nothing, confirm a listener
that is already there, replace what was there and then fail, or leave exactly
the new binding under its key. -/
theorem registerTunnel_cases (net : AddressText) (r : TunnelRegistry) (b : TunnelBinding)
    (lim : Nat) (out : ListenOutcome) :
    (∃ e : Error, e.code ≠ .authenticationFailed ∧
      r.registerTunnel net b lim out = (.error e, r)) ∨
    (r.listenerOf b.clientId b.tunnelId = some b ∧
      r.registerTunnel net b lim out = (.ok (), r)) ∨
    (∃ e : Error, e.code ≠ .authenticationFailed ∧ HasIdentity b ∧
      r.listenerOf b.clientId b.tunnelId ≠ some b ∧
      r.registerTunnel net b lim out =
        (.error e, r.eraseKey (bindingKey b.clientId b.tunnelId))) ∨
    (∃ hb : HasIdentity b, r.listenerOf b.clientId b.tunnelId ≠ some b ∧
      r.registerTunnel net b lim out =
        (.ok (), (r.eraseKey (bindingKey b.clientId b.tunnelId)).insertBinding b hb)) := by
  unfold registerTunnel listenerOf
  split
  · next e hval =>
    refine .inl ⟨e, ?_, rfl⟩
    rcases validateBinding_error hval with hc | hc <;> rw [hc] <;> decide
  · next hval =>
    split
    · exact .inl ⟨⟨.invalidArgument, _⟩, by decide, rfl⟩
    · simp only
      split
      · next hs => exact .inr (.inl ⟨hs, rfl⟩)
      · next ho =>
        have hb := hasIdentity_of_validateBinding hval
        rcases insertNew_cases (r.eraseKey (bindingKey b.clientId b.tunnelId)) b hb lim
            out with ⟨e, hc, he⟩ | hok
        · exact .inr (.inr (.inl ⟨e, hc, hb, ho, he⟩))
        · exact .inr (.inr (.inr ⟨hb, ho, hok⟩))

theorem listenerOf_registerTunnel {lim : Nat} (h : (r.registerTunnel net b lim out).1 = .ok ()) :
    (r.registerTunnel net b lim out).2.listenerOf b.clientId b.tunnelId = some b := by
  rcases r.registerTunnel_cases net b lim out with
    ⟨e, -, he⟩ | ⟨hs, hok⟩ | ⟨e, -, -, -, he⟩ | ⟨hb, -, hok⟩
  · rw [he] at h; cases h
  · rw [hok]; exact hs
  · rw [he] at h; cases h
  · rw [hok]
    exact (lookup_insertBinding _ b hb _).trans (if_pos rfl)

theorem listenerOf_registerTunnel_of_ne {lim : Nat} (hc : IsId .client c)
    (hne : ¬(b.clientId = c ∧ b.tunnelId = t)) :
    (r.registerTunnel net b lim out).2.listenerOf c t = r.listenerOf c t := by
  have hkey : HasIdentity b → bindingKey c t ≠ bindingKey b.clientId b.tunnelId := by
    intro hb h
    obtain ⟨rfl, rfl⟩ := bindingKey_injective hc hb.client h
    exact hne ⟨rfl, rfl⟩
  unfold listenerOf
  rcases r.registerTunnel_cases net b lim out with
    ⟨e, -, he⟩ | ⟨-, hok⟩ | ⟨e, -, hb, -, he⟩ | ⟨hb, -, hok⟩
  · rw [he]
  · rw [hok]
  · rw [he, lookup_eraseKey, if_neg (hkey hb)]
  · rw [hok, lookup_insertBinding, if_neg (hkey hb), lookup_eraseKey, if_neg (hkey hb)]

theorem listenerOf_unregisterTunnel (h : r.listenerOf c t = some b)
    (hne : b.sessionGeneration ≠ g ∨ bindingKey c' t' ≠ bindingKey c t) :
    (r.unregisterTunnel c' g t' rev).listenerOf c t = some b := by
  unfold listenerOf at h ⊢
  unfold unregisterTunnel
  simp only
  split
  · exact h
  · next b' hb' =>
    split
    · exact h
    · next hm =>
      rw [not_or, not_not] at hm
      have hkey : bindingKey c t ≠ bindingKey c' t' := by
        intro hkey
        rw [← hkey, h] at hb'
        cases hb'
        exact hne.elim (fun hg => hg hm.1) (fun hk => hk hkey.symm)
      rw [lookup_eraseKey, if_neg hkey, h]

theorem listenerOf_removeSession (h : r.listenerOf c t = some b)
    (hne : ¬(b.clientId = c' ∧ b.sessionGeneration = g)) :
    (r.removeSession c' g).listenerOf c t = some b :=
  lookup_removeSession.2 ⟨h, hne⟩

theorem listenerOf_removeClient (h : r.listenerOf c t = some b) (hne : b.clientId ≠ c') :
    (r.removeClient c').listenerOf c t = some b :=
  lookup_removeClient.2 ⟨h, hne⟩

theorem identity_of_listenerOf (hc : IsId .client c) (h : r.listenerOf c t = some b) :
    b.clientId = c ∧ b.tunnelId = t :=
  bindingKey_injective (lookup_hasIdentity h).client hc (lookup_key h).symm

theorem listenerOf_eraseMatching_of_ne (hc : IsId .client c)
    (hmt : ∀ b, matching b = true → b.clientId ≠ c) :
    (r.eraseMatching matching).listenerOf c t = r.listenerOf c t := by
  apply Option.ext
  intro b
  unfold listenerOf
  rw [lookup_eraseMatching]
  constructor
  · rintro ⟨h, -⟩
    exact h
  · intro h
    refine ⟨h, ?_⟩
    by_contra hm
    exact hmt b (Bool.not_eq_false _ ▸ hm) (identity_of_listenerOf hc h).1

theorem listenerOf_unregisterTunnel_of_ne (hne : bindingKey c t ≠ bindingKey c' t') :
    (r.unregisterTunnel c' g t' rev).listenerOf c t = r.listenerOf c t := by
  unfold unregisterTunnel listenerOf
  simp only
  split
  · rfl
  · split
    · rfl
    · rw [lookup_eraseKey, if_neg hne]

theorem listenerOf_of_unregisterTunnel
    (h : (r.unregisterTunnel c' g t' rev).listenerOf c t = some b) :
    r.listenerOf c t = some b := by
  unfold unregisterTunnel listenerOf at h
  simp only at h
  split at h
  · exact h
  · split at h
    · exact h
    · rw [lookup_eraseKey] at h
      split at h
      · cases h
      · exact h

theorem listenerOf_unregisterTunnel_self (h : r.listenerOf c t = some b) :
    (r.unregisterTunnel c b.sessionGeneration t b.configRevision).listenerOf c t = none := by
  unfold listenerOf at h ⊢
  simp [unregisterTunnel, h, lookup_eraseKey]

end TunnelRegistry

end MiniTun.Server
