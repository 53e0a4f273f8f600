import MiniTun.Server.ClientPolicy
import MiniTun.Server.TunnelRegistry

/-!
# Source admission

The head of `handle_public_connection`: the policy of the client that owns the listener,
and its check of the address at the other end of the socket.
-/

namespace MiniTun.Server

/-- The bytes of a version 6 address, most significant first. -/
def v6Bytes (bits : BitVec 128) : List (BitVec 8) :=
  (List.range 16).map fun i => bits.extractLsb' (8 * (15 - i)) 8

/-- The comparison of version 4 addresses in `allows_source`. -/
def matchesV4 (network candidate : BitVec 32) (prefixLength : Nat) : Bool :=
  let mask : BitVec 32 :=
    if prefixLength = 0 then 0 else BitVec.allOnes 32 <<< (32 - prefixLength)
  network &&& mask = candidate &&& mask

/-- The comparison of version 6 addresses: whole bytes, then the bits that are left. -/
def matchesV6 (network candidate : BitVec 128) (prefixLength : Nat) : Bool :=
  let fullBytes := prefixLength / 8
  let remainingBits := prefixLength % 8
  if (v6Bytes network).take fullBytes ≠ (v6Bytes candidate).take fullBytes then false
  else if remainingBits = 0 then true
  else
    let mask : BitVec 8 := 0xff#8 <<< (8 - remainingBits)
    ((v6Bytes network).getD fullBytes 0) &&& mask = ((v6Bytes candidate).getD fullBytes 0) &&& mask

/-- The body of the loop of `allows_source`; networks of the other family are passed over. -/
def SourceCidr.matchesAddress (cidr : SourceCidr) (source : Address) : Bool :=
  match cidr.network, source with
  | .v4 network, .v4 candidate => matchesV4 network candidate cidr.prefixLength
  | .v6 network _, .v6 candidate _ => matchesV6 network candidate cidr.prefixLength
  | _, _ => false

def PolicyFields.allowsSource (p : PolicyFields) (source : Address) : Bool :=
  p.allowedSourceCidrs = [] || p.allowedSourceCidrs.any fun cidr => cidr.matchesAddress source

/-- `admits_source`; `limiterAllows` is what the limiter answers when it is asked. -/
def admitsSource (p : PolicyFields) (source : Address) (limiterAllows : Bool) : Bool :=
  p.allowsSource source && (p.connectionsPerMinute = 0 || limiterAllows)

/-- What becomes of a public connection before the quota is asked. -/
inductive SourceVerdict where
  /-- The server stops, or the client has no enabled policy. -/
  | unserved
  /-- The socket has no remote endpoint any more. -/
  | unknownEndpoint
  /-- The source is not on the policy's list. -/
  | refused (policy : ClientPolicy)
  /-- The source is on the list and has connected too often. -/
  | limited
  | admitted (policy : ClientPolicy)

/-- `handle_public_connection` up to the quota; `remote` is the answer of
`remote_endpoint`. -/
def sourceVerdict (running : Bool) (policies : PolicySnapshot) (b : TunnelBinding)
    (remote : Option Address) (limiterAllows : Bool) : SourceVerdict :=
  if !running then .unserved
  else match policies.find b.clientId with
    | none => .unserved
    | some policy =>
      if !policy.enabled then .unserved
      else match remote with
        | none => .unknownEndpoint
        | some source =>
          if admitsSource policy.toPolicyFields source limiterAllows then .admitted policy
          else if policy.allowsSource source then .limited
          else .refused policy

section Verdicts

variable {running limiterAllows : Bool} {policies : PolicySnapshot} {b : TunnelBinding}
  {remote : Option Address} {pol : ClientPolicy}

/-- A verdict on the source is one on the address of the socket, by the policy in force. -/
theorem sourceVerdict_cases (running : Bool) (policies : PolicySnapshot) (b : TunnelBinding)
    (remote : Option Address) (limiterAllows : Bool) :
    (∀ pol, sourceVerdict running policies b remote limiterAllows ≠ .admitted pol ∧
      sourceVerdict running policies b remote limiterAllows ≠ .refused pol) ∨
    ∃ pol source, pol.enabled = true ∧ remote = some source ∧
      sourceVerdict running policies b remote limiterAllows =
        if pol.allowsSource source then .admitted pol else .refused pol := by
  unfold sourceVerdict
  split
  · exact .inl fun _ => ⟨nofun, nofun⟩
  split
  · exact .inl fun _ => ⟨nofun, nofun⟩
  next pol hf =>
  split
  · exact .inl fun _ => ⟨nofun, nofun⟩
  next hd =>
  have he : pol.enabled = true := by simpa using hd
  split
  · exact .inl fun _ => ⟨nofun, nofun⟩
  next source =>
  split
  · next ha =>
    have hall : pol.allowsSource source = true := (Bool.and_eq_true_iff.1 ha).1
    exact .inr ⟨pol, source, he, rfl, by rw [if_pos hall]⟩
  · split
    · exact .inl fun _ => ⟨nofun, nofun⟩
    · next href => exact .inr ⟨pol, source, he, rfl, by rw [if_neg href]⟩

theorem allowsSource_of_admitted
    (h : sourceVerdict running policies b remote limiterAllows = .admitted pol) :
    pol.enabled = true ∧ ∃ source, remote = some source ∧ pol.allowsSource source = true := by
  obtain hno | ⟨found, source, he, hr, hv⟩ :=
    sourceVerdict_cases running policies b remote limiterAllows
  · exact absurd h (hno pol).1
  · rw [h] at hv
    split at hv
    · next hall =>
      cases hv
      exact ⟨he, source, hr, hall⟩
    · cases hv

theorem not_allowsSource_of_refused
    (h : sourceVerdict running policies b remote limiterAllows = .refused pol) :
    pol.enabled = true ∧ ∃ source, remote = some source ∧ pol.allowsSource source = false := by
  obtain hno | ⟨found, source, he, hr, hv⟩ :=
    sourceVerdict_cases running policies b remote limiterAllows
  · exact absurd h (hno pol).2
  · rw [h] at hv
    split at hv
    · cases hv
    · next href =>
      cases hv
      exact ⟨he, source, hr, by simpa using href⟩

theorem sourceVerdict_of_enabled {src : Address} (hf : policies.find b.clientId = some pol)
    (he : pol.enabled = true) :
    sourceVerdict true policies b (some src) true =
      if pol.allowsSource src then .admitted pol else .refused pol := by
  unfold sourceVerdict admitsSource
  split <;> simp_all

end Verdicts

end MiniTun.Server
