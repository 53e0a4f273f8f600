import MiniTun.Server.RegistryInvariants

/-!
# Public endpoints

The registry keeps no table of the endpoints in use.  That no two listeners share one
is left to the operating system, which refuses to bind a TCP socket to an address and
port another socket listens on.  A UDP socket is not refused: the listener sets
`SO_REUSEADDR`, and two such sockets may be bound to one endpoint.  So endpoints are
exclusive exactly as long as nobody registers a UDP tunnel where another one is.
-/

namespace MiniTun.Server.TunnelRegistry

open KeyedMap

section Endpoints

variable (net : AddressText)

/-- The same transport, address and port. -/
def SharesEndpoint (b b' : TunnelBinding) : Prop :=
  (b.mode = .udp ↔ b'.mode = .udp) ∧ b.bindPort = b'.bindPort ∧
    ∃ address, net.make b.bindHost = some address ∧ net.make b'.bindHost = some address

variable (r : TunnelRegistry)

/-- No two listeners share a public endpoint. -/
def Exclusive : Prop :=
  ∀ key key' b b', r.listeners.lookup key = some b → r.listeners.lookup key' = some b' →
    SharesEndpoint net b b' → key = key'

/-- A listener of another tunnel is live on the binding's endpoint. -/
def Occupied (b : TunnelBinding) : Prop :=
  ∃ key b', r.listeners.lookup key = some b' ∧ key ≠ bindingKey b.clientId b.tunnelId ∧
    SharesEndpoint net b' b

/-- How Linux answers a bind to an endpoint on which the registry has another listener:
both kinds of listener set `SO_REUSEADDR`, which does not help a TCP socket and lets a
UDP socket through. -/
def LinuxBind : Call → Prop
  | .register b _ outcome =>
    Occupied net r b → outcome = if b.mode = .udp then .listening else .addressInUse
  | _ => True

/-- The call leaves the endpoints exclusive, and an occupied one is refused as such. -/
def KeepsExclusive (call : Call) : Prop :=
  Exclusive net (r.perform net call) ∧
    ∀ b maxForClient outcome, call = .register b maxForClient outcome → Occupied net r b →
      ∃ e : Error, (r.registerTunnel net b maxForClient outcome).1 = .error e ∧
        e.code = .remotePortInUse

/-- The limits the registry was configured with are usable. -/
def ValidLimits : Prop :=
  ¬ (r.maxTunnelsPerClient = 0 ∨ maximumTotalTunnels < r.maxTunnelsPerClient ∨
    r.maxTotalTunnels = 0 ∨ maximumTotalTunnels < r.maxTotalTunnels)

/-- A registration at an occupied endpoint is not for UDP, and nothing but the bind
stands in its way. -/
def Contested : Call → Prop
  | .register b maxForClient _ =>
    Occupied net r b → b.mode ≠ .udp ∧ ValidLimits r ∧ Admitted net r b maxForClient
  | _ => True

end Endpoints

section Endpoints

variable {net : AddressText} {r : TunnelRegistry} {b : TunnelBinding} {lim : Nat}
  {out : ListenOutcome}

/-! ## A registration at an occupied endpoint -/

theorem not_lookup_of_occupied (h : Exclusive net r) (ho : Occupied net r b) :
    r.listeners.lookup (bindingKey b.clientId b.tunnelId) ≠ some b := by
  obtain ⟨key, b', hb', hne, hsha⟩ := ho
  exact fun hb => hne (h _ _ _ _ hb' hb hsha)

theorem registerTunnel_of_admitted (hlim : ValidLimits r) (ha : Admitted net r b lim)
    (ho : r.listeners.lookup (bindingKey b.clientId b.tunnelId) ≠ some b) :
    (r.registerTunnel net b lim out).1 = startListener b.mode out := by
  have hc := ha.client_room
  have ht := ha.total_room
  unfold registerTunnel
  split
  · next e he =>
    rw [ha.valid] at he
    cases he
  · rw [if_neg hlim]
    rw [if_neg ho, insertNew, if_neg (by
        simp only [eraseKey] at hc ⊢
        omega),
      if_neg (by
        simp only [eraseKey] at ht ⊢
        omega)]
    cases startListener b.mode out with
    | error e => rfl
    | ok _ => rfl

theorem code_of_not_admitted (ho : r.listeners.lookup (bindingKey b.clientId b.tunnelId) ≠ some b)
    (h : ¬ (ValidLimits r ∧ Admitted net r b lim)) {e : Error}
    (he : (r.registerTunnel net b lim out).1 = .error e) :
    e.code ≠ .remotePortInUse := by
  unfold registerTunnel at he
  split at he
  · next e' hval =>
    cases he
    rcases validateBinding_error hval with hc | hc <;> rw [hc] <;> decide
  · next hval =>
    by_cases hlim : ValidLimits r
    · rw [if_neg hlim] at he
      rw [if_neg ho, insertNew] at he
      split at he
      · cases he
        decide
      · next hcl =>
        split at he
        · cases he
          decide
        · next ht =>
          refine absurd ⟨hlim, hval, ?_, ?_⟩ h
          · simp only [eraseKey] at hcl ⊢
            omega
          · simp only [eraseKey] at ht ⊢
            omega
    · rw [if_pos (not_not.1 hlim)] at he
      cases he
      decide

theorem startListener_addressInUse (mode : TunnelMode) :
    ∃ e : Error, startListener mode .addressInUse = .error e ∧ e.code = .remotePortInUse := by
  by_cases h : mode = .udp
  · exact ⟨_, if_pos h, rfl⟩
  · exact ⟨_, if_neg h, rfl⟩

/-- An occupied endpoint is refused as such exactly if the registration is contested
by nothing but the bind, and the bind is not a UDP one. -/
theorem refused_iff (hex : Exclusive net r) (hoc : Occupied net r b)
    (hbind : LinuxBind net r (.register b lim out)) :
    (∃ e : Error, (r.registerTunnel net b lim out).1 = .error e ∧
      e.code = .remotePortInUse) ↔
    b.mode ≠ .udp ∧ ValidLimits r ∧ Admitted net r b lim := by
  have ho := not_lookup_of_occupied hex hoc
  have hout := hbind hoc
  constructor
  · rintro ⟨e, he, hc⟩
    by_cases ha : ValidLimits r ∧ Admitted net r b lim
    · refine ⟨fun hudp => ?_, ha⟩
      rw [if_pos hudp] at hout
      rw [registerTunnel_of_admitted ha.1 ha.2 ho, hout] at he
      cases he
    · exact absurd hc (code_of_not_admitted ho ha he)
  · rintro ⟨htcp, hlim, ha⟩
    rw [if_neg htcp] at hout
    rw [registerTunnel_of_admitted hlim ha ho, hout]
    exact startListener_addressInUse b.mode

/-! ## One call -/

theorem SharesEndpoint.symm {b b' : TunnelBinding} (h : SharesEndpoint net b b') :
    SharesEndpoint net b' b := by
  obtain ⟨ht, hp, address, hb, hb'⟩ := h
  exact ⟨ht.symm, hp.symm, address, hb', hb⟩

theorem Exclusive.mono {r' : TunnelRegistry} (h : Exclusive net r)
    (hold : ∀ key b, r'.listeners.lookup key = some b → r.listeners.lookup key = some b) :
    Exclusive net r' :=
  fun key key' b b' hb hb' hsha => h key key' b b' (hold key b hb) (hold key' b' hb') hsha

theorem Exclusive.register (h : Exclusive net r) (hfree : ¬ Occupied net r b) :
    Exclusive net (r.registerTunnel net b lim out).2 := by
  rcases r.registerTunnel_result net b lim out with hr | ⟨-, hr⟩ | ⟨hb, -, -, hr⟩
  · rwa [hr]
  · rw [hr]
    refine h.mono fun key b' hb' => ?_
    rw [lookup_eraseKey] at hb'
    split at hb'
    · cases hb'
    · exact hb'
  · rw [hr]
    -- Each of the two listeners is the new one or was there before, under another key.
    have hc : ∀ key b', ((r.eraseKey (bindingKey b.clientId b.tunnelId)).insertBinding b
        hb).listeners.lookup key = some b' →
        (key = bindingKey b.clientId b.tunnelId ∧ b' = b) ∨
          (key ≠ bindingKey b.clientId b.tunnelId ∧ r.listeners.lookup key = some b') := by
      intro key b' hb'
      rw [lookup_insertBinding, lookup_eraseKey] at hb'
      by_cases hkey : key = bindingKey b.clientId b.tunnelId
      · rw [if_pos hkey] at hb'
        exact .inl ⟨hkey, (Option.some.inj hb').symm⟩
      · rw [if_neg hkey, if_neg hkey] at hb'
        exact .inr ⟨hkey, hb'⟩
    intro key₁ key₂ b₁ b₂ h₁ h₂ hsha
    rcases hc key₁ b₁ h₁ with ⟨hkey₁, rfl⟩ | ⟨hkey₁, hold₁⟩
    · rcases hc key₂ b₂ h₂ with ⟨hkey₂, -⟩ | ⟨hkey₂, hold₂⟩
      · rw [hkey₁, hkey₂]
      · exact absurd ⟨key₂, b₂, hold₂, hkey₂, hsha.symm⟩ hfree
    · rcases hc key₂ b₂ h₂ with ⟨hkey₂, rfl⟩ | ⟨hkey₂, hold₂⟩
      · exact absurd ⟨key₁, b₁, hold₁, hkey₁, hsha⟩ hfree
      · exact h key₁ key₂ b₁ b₂ hold₁ hold₂ hsha

theorem keepsExclusive_iff (hex : Exclusive net r) {call : Call}
    (hbind : LinuxBind net r call) : KeepsExclusive net r call ↔ Contested net r call := by
  have hno : (∀ b lim out, call ≠ .register b lim out) →
      KeepsExclusive net r call := by
    intro hca
    refine ⟨hex.mono fun key b hb => ?_, fun b m o h => absurd h (hca b m o)⟩
    rcases lookup_of_perform hb with h | ⟨m, o, h, -⟩
    · exact h
    · exact absurd h (hca b m o)
  cases call with
  | register b lim out =>
    constructor
    · rintro ⟨-, href⟩ ho
      exact (refused_iff hex ho hbind).1 (href b lim out rfl ho)
    · intro hcon
      by_cases ho : Occupied net r b
      · have href := (refused_iff hex ho hbind).2 (hcon ho)
        refine ⟨?_, ?_⟩
        · obtain ⟨e, he, -⟩ := href
          exact hex.mono fun key b' =>
            ((orderlyCalls net r).refused b lim out e he key b').2
        · intro b' m o hca _
          cases hca
          exact href
      · refine ⟨hex.register ho, ?_⟩
        intro b' m o hca ho'
        cases hca
        exact absurd ho' ho
  | unregister c g t rev => exact iff_of_true (hno nofun) trivial
  | removeSession c g => exact iff_of_true (hno nofun) trivial
  | removeClient c => exact iff_of_true (hno nofun) trivial
  | clear => exact iff_of_true (hno nofun) trivial

/-! ## Every run -/

open TransitionSystem (AllSteps allSteps_congr_of_kept)

theorem exclusive_empty (ports : PortRange) (maxTunnelsPerClient maxTun : Nat) :
    Exclusive net (empty ports maxTunnelsPerClient maxTun) :=
  fun _ _ _ _ h => nomatch h

/-- Along a run on Linux, every call leaves the endpoints exclusive and is refused at an
occupied one, exactly if every registration at an occupied endpoint is contested by
nothing but a TCP bind. -/
theorem endpoints_exclusive_iff (net : AddressText) (ports : PortRange)
    (maxTunnelsPerClient maxTotalTunnels : Nat) (calls : List Call)
    (hlinux : AllSteps (perform net) (LinuxBind net)
      (empty ports maxTunnelsPerClient maxTotalTunnels) calls) :
    AllSteps (perform net) (KeepsExclusive net) (empty ports maxTunnelsPerClient maxTotalTunnels)
      calls ↔
    AllSteps (perform net) (Contested net) (empty ports maxTunnelsPerClient maxTotalTunnels)
      calls :=
  allSteps_congr_of_kept (fun _ _ hexclusive hbind => keepsExclusive_iff hexclusive hbind)
    (fun _ _ _ hkeeps => hkeeps.1)
    (exclusive_empty ports maxTunnelsPerClient maxTotalTunnels) hlinux

end Endpoints

namespace TwoClients

open TransitionSystem (AllSteps exec)

def net : AddressText where
  make text := if text = ascii "0.0.0.0" then some (.v4 0) else none
  print _ := ascii "0.0.0.0"

theorem ports_start_pos : (0 : Nat) < 6000 := by
  decide

theorem ports_start_le : (6000 : Nat) ≤ 6999 := by
  decide

theorem ports_stop_le : (6999 : Nat) ≤ 65535 := by
  decide

def ports : PortRange :=
  ⟨6000, 6999, ports_start_pos, ports_start_le, ports_stop_le⟩

def binding (client tunnel : Bytes) (mode : TunnelMode) : TunnelBinding :=
  ⟨client, 1, tunnel, ascii "0.0.0.0", 6000, 1, mode⟩

def first : TunnelMode → TunnelBinding :=
  binding (ascii "client_00000000000000000000000000000001")
    (ascii "tun_00000000000000000000000000000001")

def second : TunnelMode → TunnelBinding :=
  binding (ascii "client_00000000000000000000000000000002")
    (ascii "tun_00000000000000000000000000000002")

def calls (mode : TunnelMode) (outcome : ListenOutcome) : List Call :=
  [.register (first mode) 0 .listening, .register (second mode) 0 outcome]

theorem tcp_exclusive :
    AllSteps (perform net) (KeepsExclusive net) (empty ports 4 10) (calls .tcp .addressInUse) := by
  have hfree : ¬ Occupied net (empty ports 4 10) (first .tcp) := by
    rintro ⟨_, _, h, -⟩
    cases h
  refine (endpoints_exclusive_iff net ports 4 10 (calls .tcp .addressInUse) ⟨?_, ?_, trivial⟩).2
    ⟨?_, ?_, trivial⟩
  · exact fun h => absurd h hfree
  · exact fun _ => rfl
  · exact fun h => absurd h hfree
  · intro _
    exact ⟨by decide, by unfold ValidLimits; decide, by decide, by decide, by decide⟩

theorem udp_shared :
    AllSteps (perform net) (LinuxBind net) (empty ports 4 10) (calls .udp .listening) ∧
      ¬ Exclusive net (exec (perform net) (empty ports 4 10) (calls .udp .listening)) := by
  refine ⟨⟨fun _ => rfl, fun _ => rfl, trivial⟩, fun h => ?_⟩
  have hkeys := h (bindingKey (first .udp).clientId (first .udp).tunnelId)
    (bindingKey (second .udp).clientId (second .udp).tunnelId) (first .udp) (second .udp)
    (by rfl) (by rfl) ⟨Iff.rfl, rfl, .v4 0, rfl, rfl⟩
  exact absurd hkeys (by decide)

end TwoClients

end MiniTun.Server.TunnelRegistry
