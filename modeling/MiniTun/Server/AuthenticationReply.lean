import MiniTun.Protocol.CanonicalCodec
import MiniTun.Server.PolicyChange
import MiniTun.Server.ServerOptions

/-!
# The answer to an accepted client

`ControlSession::authenticate` answers a verified client with an `AUTH_OK` that it
builds from the options, the client's policy and a fresh generation.  The options, the
policy and the message each have bounds of their own.  The worker counts agree; the
heartbeat interval does not: an option may be five minutes, a message at most one
(`authOk_answered_iff`).
-/

namespace MiniTun.Protocol

/-- The loop of `generate_session_generation`; `randBytes` is what `RAND_bytes` gives. -/
def drawGeneration (randBytes : Nat → Option (FixedBytes 8)) : Nat → Result UInt64
  | 0 => failure .internalError "session generation randomness produced an invalid value"
  | attempts + 1 =>
    match randBytes attempts with
    | none => failure .internalError "session generation randomness failed"
    | some bytes =>
      let value := bytes.1.foldl (fun (value : UInt64) byte => value <<< 8 ||| byte.toUInt64) 0
      if value ≠ 0 then .ok value else drawGeneration randBytes attempts

def generateSessionGeneration (randBytes : Nat → Option (FixedBytes 8)) : Result UInt64 :=
  drawGeneration randBytes 4

theorem ne_zero_of_drawGeneration {randBytes : Nat → Option (FixedBytes 8)} {gen : UInt64}
    {attempts : Nat} (h : drawGeneration randBytes attempts = .ok gen) :
    gen ≠ 0 := by
  induction attempts with
  | zero => exact absurd h failure_ne_ok
  | succ attempts ih =>
    unfold drawGeneration at h
    split at h
    · exact absurd h failure_ne_ok
    · dsimp only at h
      split at h
      · next hval =>
        cases h
        exact hval
      · exact ih h

end MiniTun.Protocol

namespace MiniTun.Server

open Protocol KeyedMap LexicalPath

def ServerOptions.policyLimits (options : ServerOptions) : ClientPolicyLimits where
  maxClients := options.maxClients
  maxTunnelsPerClient := options.maxTunnelsPerClient
  maxConnectionsPerClient := options.maxConnectionsPerClient
  maxIdleWorkersPerClient := options.maxIdleWorkers

/-- The `AUTH_OK` of `authenticate`, with its narrowing casts. -/
def authOk (options : ServerOptions) (policy : ClientPolicy) (generation : UInt64) :
    AuthOkMessage where
  sessionGeneration := generation
  heartbeatIntervalMilliseconds := .ofBitVec (.ofInt 32 (options.heartbeatInterval * 1000))
  minIdleWorkers := min (.ofNat options.minIdleWorkers) (.ofNat policy.maxIdleWorkers)
  maxIdleWorkers := .ofNat policy.maxIdleWorkers

theorem heartbeat_and_workers_of_valid {opts : ServerOptions} (h : validateOptions opts = .ok ()) :
    (0 < opts.heartbeatInterval ∧ opts.heartbeatInterval ≤ kMaxConfiguredTimeout) ∧
      opts.maxIdleWorkers ≤ 128 := by
  simp only [validateOptions, guard_eq_ok] at h
  omega

theorem maxIdleWorkers_of_buildSnapshot {libs : Libraries} {fs : FileSystem} {doc : Json}
    {dir : Path Bytes} {limits : ClientPolicyLimits} {snap : PolicySnapshot}
    {cid : Bytes} {pol : ClientPolicy}
    (hs : buildSnapshot libs fs doc dir limits = .ok snap)
    (hpol : snap.find cid = some pol) :
    pol.maxIdleWorkers ≤ limits.maxIdleWorkersPerClient := by
  obtain ⟨ents, -, hof⟩ := buildSnapshot_ok hs
  obtain ⟨ent, -, hl, -⟩ := (hof.find_iff cid pol).1 hpol
  have hfs := (loadPolicy_ok hl).1
  unfold loadFields at hfs
  split at hfs
  · exact absurd hfs failure_ne_ok
  · simp only [guard_eq_ok, do_eq_ok] at hfs
    obtain ⟨-, _, -, _, -, _, -, _, -, _, -, workers, hw, _, -, _, -, _, -, hfs⟩ := hfs
    obtain rfl : workers = pol.maxIdleWorkers :=
      congrArg PolicyFields.maxIdleWorkers (Except.ok.inj hfs)
    unfold parseLimit at hw
    split at hw
    · exact absurd hw failure_ne_ok
    · obtain ⟨hran, hn⟩ := guard_eq_ok.1 hw
      cases hn
      omega

theorem workers_authOk (opts : ServerOptions) (pol : ClientPolicy) (gen : UInt64)
    (h : pol.maxIdleWorkers ≤ 128) :
    ¬ ((authOk opts pol gen).minIdleWorkers > (authOk opts pol gen).maxIdleWorkers ∨
      (authOk opts pol gen).maxIdleWorkers > 128) := by
  have hmax : (UInt16.ofNat pol.maxIdleWorkers).toNat = pol.maxIdleWorkers :=
    UInt16.toNat_ofNat_of_lt' (by simp only [UInt16.size]; omega)
  have h128 : (128 : UInt16).toNat = 128 := rfl
  simp only [authOk, not_or, UInt16.not_lt]
  refine ⟨Std.min_le_right, ?_⟩
  rw [UInt16.le_iff_toNat_le, hmax]
  exact h

theorem heartbeat_authOk (opts : ServerOptions) (pol : ClientPolicy) (gen : UInt64)
    (h : 0 < opts.heartbeatInterval ∧ opts.heartbeatInterval ≤ kMaxConfiguredTimeout) :
    ((authOk opts pol gen).heartbeatIntervalMilliseconds.toNat : Int) =
      opts.heartbeatInterval * 1000 := by
  have hs : opts.heartbeatInterval * 1000 < 2 ^ 32 := by
    simp only [kMaxConfiguredTimeout] at h
    omega
  have hcast : (opts.heartbeatInterval * 1000) % (2 ^ 32 : Nat) =
      opts.heartbeatInterval * 1000 := Int.emod_eq_of_lt (by omega) (by exact_mod_cast hs)
  simp only [authOk, UInt32.toNat_ofBitVec, BitVec.toNat_ofInt]
  omega

/-- **An accepted client is answered**: for accepted options, every policy built under them
and every generation drawn, the message is written and read back exactly if the heartbeat
interval is at most a minute. -/
theorem authOk_answered_iff {options : ServerOptions} {libs : Libraries} {fs : FileSystem}
    {document : Json} {directory : Path Bytes} {snapshot : PolicySnapshot} {clientId : Bytes}
    {policy : ClientPolicy} {randBytes : Nat → Option (FixedBytes 8)} {generation : UInt64}
    (hoptions : validateOptions options = .ok ())
    (hsnapshot : buildSnapshot libs fs document directory options.policyLimits = .ok snapshot)
    (hpolicy : snapshot.find clientId = some policy)
    (hgeneration : generateSessionGeneration randBytes = .ok generation) :
    (∃ payload, encodeAuthOk (authOk options policy generation) = .ok payload ∧
      decodeAuthOk payload = .ok (authOk options policy generation)) ↔
      options.heartbeatInterval ≤ 60 := by
  obtain ⟨hinterval, hidle⟩ := heartbeat_and_workers_of_valid hoptions
  have hworkers := workers_authOk options policy generation
    ((maxIdleWorkers_of_buildSnapshot hsnapshot hpolicy).trans hidle)
  have hb := heartbeat_authOk options policy generation hinterval
  have hwritten : (∃ payload, encodeAuthOk (authOk options policy generation) = .ok payload ∧
      decodeAuthOk payload = .ok (authOk options policy generation)) ↔
      (authOk options policy generation).Valid := by
    simp only [encodeAuthOk_eq_ok, decodeAuthOk_eq_ok]
    exact ⟨fun ⟨_, h, _⟩ => h.1, fun h => ⟨_, ⟨h, rfl⟩, h, rfl⟩⟩
  have hdrawn : (authOk options policy generation).sessionGeneration ≠ 0 :=
    ne_zero_of_drawGeneration hgeneration
  rw [hwritten, AuthOkMessage.Valid, and_iff_left hworkers, and_iff_right hdrawn]
  have h1000 : (1000 : UInt32).toNat = 1000 := rfl
  have h60000 : (60000 : UInt32).toNat = 60000 := rfl
  simp only [UInt32.lt_iff_toNat_lt]
  omega

namespace Sample

def randBytes (_ : Nat) : Option (FixedBytes 8) :=
  some ⟨[0, 0, 0, 0, 0, 0, 0, 1], rfl⟩

def slowOptions : ServerOptions :=
  { heartbeatInterval := 120, heartbeatTimeout := 300 }

end Sample

open Sample

theorem authOk_answered_default :
    ∃ payload, encodeAuthOk (authOk {} narrowPolicy 1) = .ok payload ∧
      decodeAuthOk payload = .ok (authOk {} narrowPolicy 1) := by
  have hfind : narrow.find clientId = some narrowPolicy := rfl
  have hgeneration : generateSessionGeneration randBytes = .ok 1 := rfl
  exact (authOk_answered_iff rfl build_narrow hfind hgeneration).2 (by decide)

/-- With a heartbeat every two minutes the options are accepted, the policy too, and no
`AUTH_OK` can be written. -/
theorem authOk_slow_unanswered :
    validateOptions slowOptions = .ok () ∧
    buildSnapshot movedLibraries disk (document [entry pskFile 1 23]) directory
      slowOptions.policyLimits = .ok narrow ∧
    narrow.find clientId = some narrowPolicy ∧
    generateSessionGeneration randBytes = .ok 1 ∧
    encodeAuthOk (authOk slowOptions narrowPolicy 1) =
      failure .protocolError "heartbeat interval is outside the protocol limits" :=
  ⟨rfl, build_narrow, rfl, rfl, rfl⟩

end MiniTun.Server
