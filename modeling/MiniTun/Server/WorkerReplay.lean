import MiniTun.Server.WorkerAuthentication

/-!
# Replayed Worker authentication

The timestamp of a `WORKER_HELLO` is accepted from `allowed_clock_skew` before it to
`allowed_clock_skew` after it, a window of twice that length.  The replay cache forgets a
nonce after five minutes, whatever the window is.  `validate_options` lets the skew be as
large as five minutes, and the window is then longer than the cache's memory: a frame
stamped ahead of the server's clock is accepted, forgotten and accepted again.
-/

namespace MiniTun.Server

open KeyedMap Protocol TransitionSystem AuthState

/-- **No replay**: in every run whose connections are prompt, a payload is accepted at
most once while its generation stays current. -/
def AcceptedOnce (options : ServerOptions) (serverId : Bytes) (hmac : Hmac) (delay : Nat) :
    Prop :=
  ∀ (epoch : Int) (s : AuthState) (before window : List AuthEvent) (payload : Bytes)
    (hello : WorkerHelloMessage),
    let d : Deployment := ⟨options, serverId, hmac, epoch⟩
    s.Initial → decodeWorkerHello payload = .ok hello →
    AllSteps (AuthState.step d) (Prompt delay) s (before ++ window) →
    AllSteps (AuthState.step d) (fun s _ => s.sessions.isCurrent hello.clientId
      hello.sessionGeneration.toNat = true) (exec (AuthState.step d) s before) window →
    (exec (AuthState.step d) s (before ++ window)).timesAccepted payload ≤
      (exec (AuthState.step d) s before).timesAccepted payload + 1

/-- The memory of the cache is longer than the window, the time a connection takes and
the second the wall clock is rounded to. -/
def OutlivesWindow (options : ServerOptions) (delay : Nat) : Prop :=
  delay + (2 * options.allowedClockSkew.toNat + 1) * kNanosecondsPerSecond ≤
    (NonceReplayCache.new {}).retention * kNanosecondsPerSecond

/-! ## A memory that is long enough -/

variable {d : Deployment} {s : AuthState} {delay : Nat}

theorem consistent_of_initial (h : s.Initial) :
    Consistent d (NonceReplayCache.new {}).retention s := by
  refine ⟨by rw [h.nonceCache], ?_, ?_, ?_⟩
  · intro conn p hp
    rw [h.presentations] at hp
    cases hp
  · intro p hp
    rw [h.accepted] at hp
    cases hp
  · intro p hp
    rw [h.accepted] at hp
    cases hp

/-- No payload was accepted twice so far. -/
structure Unrepeated (d : Deployment) (s : AuthState) : Prop extends
    Consistent d (NonceReplayCache.new {}).retention s where
  nodup : (s.accepted.map Presentation.payload).Nodup

theorem Unrepeated.step (hlong : OutlivesWindow d.options delay) {e : AuthEvent}
    (h : Unrepeated d s) (he : Prompt delay s e) : Unrepeated d (s.step d e) := by
  refine ⟨h.toConsistent.step e, ?_⟩
  obtain hs | ⟨conn, p, reading, last, rfl, hp, hpr, hcon, hmore⟩ :=
    accepted_step e
  · rw [hs]
    exact h.nodup
  · rw [hmore, List.map_cons, List.nodup_cons]
    exact ⟨h.toConsistent.fresh hlong hp (he p hp) hpr hcon, h.nodup⟩

theorem unrepeated_run (hlong : OutlivesWindow d.options delay) (hs : s.Initial)
    {es : List AuthEvent} (hes : AllSteps (AuthState.step d) (Prompt delay) s es) :
    Unrepeated d (exec (AuthState.step d) s es) := by
  refine hes.invariant (fun s e h he => h.step hlong he) ⟨consistent_of_initial hs, ?_⟩
  rw [hs.accepted]
  exact List.nodup_nil

theorem acceptedOnce_of_outlives {opts : ServerOptions} (hlong : OutlivesWindow opts delay)
    (sid : Bytes) (hmac : Hmac) : AcceptedOnce opts sid hmac delay := by
  intro epoch s before win pay hello d hs _ hp _
  have hn := (unrepeated_run (d := d) hlong hs hp).nodup
  have hc := List.nodup_iff_count_le_one.1 hn pay
  unfold timesAccepted
  omega

/-! ## A frame that is presented twice -/

/-- Everything but the clock is in favour of a payload. -/
structure Acceptable (d : Deployment) (s : AuthState)
    (certificateMatches : CertificateBinding → Bool) (payload : Bytes)
    (hello : WorkerHelloMessage) (policy : ClientPolicy) : Prop where
  decoded : decodeWorkerHello payload = .ok hello
  found : s.policies.find hello.clientId = some policy
  enabled : policy.enabled = true
  certificate : certificateMatches policy.certificate = true
  current : s.sessions.isCurrent hello.clientId hello.sessionGeneration.toNat = true
  verified : verifyWorkerAuthenticationData d.hmac policy.psk hello.clientId d.serverId
    hello.sessionGeneration hello.workerId hello.timestampSeconds hello.nonce
    hello.authenticationData = .ok true

/-- The wall clock is in the window around a timestamp. -/
def InWindow (d : Deployment) (hello : WorkerHelloMessage) (now : Nat) : Prop :=
  isClockSkewWithin hello.timestampSeconds.toInt (d.unixSecondsNow now)
    d.options.allowedClockSkew = .ok true

/-- A connection presents the payload, and it takes `wait` until the cache is asked. -/
def presented (certificateMatches : CertificateBinding → Bool) (payload : Bytes) (wait : Nat) :
    List AuthEvent :=
  [.workerHello 0 certificateMatches payload, .elapse wait, .resume 0, .resume 0]

section Presented

variable {d : Deployment} {s : AuthState} {certificateMatches : CertificateBinding → Bool}
  {payload : Bytes} {hello : WorkerHelloMessage} {policy : ClientPolicy} {wait : Nat}

section Presented

variable (h : Acceptable d s certificateMatches payload hello policy)
include h

theorem step_workerHello (hi : s.presentations.lookup 0 = none) (hwin : InWindow d hello s.now) :
    s.step d (.workerHello 0 certificateMatches payload) =
      { s with
        presentations := s.presentations.insert 0
          ⟨payload, hello, policy, s.now, .calling policy.psk false⟩ } := by
  unfold InWindow at hwin
  simp only [AuthState.step, hi, AuthState.workerHello, h.decoded, h.found, h.enabled,
    h.certificate, h.current, hwin]
  simp

theorem exec_presented (hi : s.presentations.lookup 0 = none) (hwin : InWindow d hello s.now)
    (hcon : (s.nonceCache.consume hello.clientId hello.nonce (s.now + wait)).1 = .ok true) :
    ∃ presentations p, presentations.lookup 0 = none ∧ p.payload = payload ∧
      exec (AuthState.step d) s (presented certificateMatches payload wait) =
        { s with
          now := s.now + wait
          nonceCache := (s.nonceCache.consume hello.clientId hello.nonce (s.now + wait)).2
          presentations := presentations
          accepted := p :: s.accepted } := by
  rw [presented, exec_cons, step_workerHello h hi hwin]
  simp [AuthState.step, AuthState.resume, h.verified, goOn, complete, hcon]

theorem prompt_presented {delay : Nat} (hi : s.presentations.lookup 0 = none)
    (hwin : InWindow d hello s.now) (hwait : wait ≤ delay) :
    AllSteps (AuthState.step d) (Prompt delay) s (presented certificateMatches payload wait) := by
  rw [presented, allSteps_cons, step_workerHello h hi hwin]
  simp [AuthState.step, AuthState.resume, h.verified, goOn, Prompt, hwait]

end Presented

def ChangesSessions : AuthEvent → Prop
  | .openSession .. => True
  | .closeSession .. => True
  | _ => False

theorem sessions_step {e : AuthEvent} (h : ¬ ChangesSessions e) :
    (s.step d e).sessions = s.sessions := by
  cases e with
  | openSession cid draw => exact absurd trivial h
  | closeSession cid gen => exact absurd trivial h
  | workerHello conn certificateMatches payload =>
    simp only [AuthState.step, AuthState.workerHello]
    repeat' split
    all_goals rfl
  | resume conn =>
    simp only [AuthState.step, AuthState.resume, callFailed]
    repeat' split
    all_goals rfl
  | _ => rfl

def replay (certificateMatches : CertificateBinding → Bool) (payload : Bytes)
    (pause wait : Nat) : List AuthEvent :=
  presented certificateMatches payload 0 ++
    .elapse pause :: presented certificateMatches payload wait

/-- Presented again when the cache has forgotten it, the payload is accepted again. -/
theorem exec_replay (pause : Nat) {delay : Nat} (hs : s.Initial)
    (h : Acceptable d s certificateMatches payload hello policy)
    (hc : validId .client hello.clientId = true)
    (hfst : InWindow d hello s.now) (hsec : InWindow d hello (s.now + pause))
    (hover : (NonceReplayCache.new {}).retention * kNanosecondsPerSecond ≤ pause + wait)
    (hwait : wait ≤ delay) :
    (exec (AuthState.step d) s (replay certificateMatches payload pause wait)).timesAccepted
        payload = 2 ∧
      AllSteps (AuthState.step d) (Prompt delay) s
        (replay certificateMatches payload pause wait) := by
  have hi : s.presentations.lookup 0 = none := by
    rw [hs.presentations]
    rfl
  have he : ∀ ent ∈ s.nonceCache.order, ent.expiresAt ≤ s.now + 0 := by
    rw [hs.nonceCache]
    rintro _ ⟨⟩
  obtain ⟨htrue, hord⟩ := NonceReplayCache.consume_of_expired hc he
  obtain ⟨presentations, p, hi', hp, hexec⟩ := exec_presented h hi hfst htrue
  let s' : AuthState :=
    { s with
      now := s.now + 0 + pause
      nonceCache := (s.nonceCache.consume hello.clientId hello.nonce (s.now + 0)).2
      presentations := presentations
      accepted := p :: s.accepted }
  have hfor : ∀ ent ∈ s'.nonceCache.order, ent.expiresAt ≤ s'.now + wait := by
    intro ent hent
    rw [hord, List.mem_singleton] at hent
    subst hent
    rw [hs.nonceCache]
    simp only [s']
    omega
  obtain ⟨htrue', -⟩ := NonceReplayCache.consume_of_expired hc hfor
  have h' : Acceptable d s' certificateMatches payload hello policy :=
    ⟨h.decoded, h.found, h.enabled, h.certificate, h.current, h.verified⟩
  obtain ⟨_, p', -, hp', hexec'⟩ := exec_presented h' hi' hsec htrue'
  have hst : (exec (AuthState.step d) s (presented certificateMatches payload 0)).step d
      (.elapse pause) = s' := by
    rw [hexec]
    rfl
  constructor
  · rw [replay, exec_append, exec_cons, hst, hexec']
    simp [timesAccepted, hp, hp', hs.accepted, s']
  · rw [replay, allSteps_append, allSteps_cons, hst]
    exact ⟨prompt_presented h hi hfst (Nat.zero_le _), trivial,
      prompt_presented h' hi' hsec hwait⟩

theorem current_replay {pause : Nat}
    (h : s.sessions.isCurrent hello.clientId hello.sessionGeneration.toNat = true) :
    AllSteps (AuthState.step d) (fun s _ => s.sessions.isCurrent hello.clientId
      hello.sessionGeneration.toNat = true) s (replay certificateMatches payload pause wait) := by
  have hev : ∀ e ∈ replay certificateMatches payload pause wait, ¬ ChangesSessions e := by
    simp [replay, presented, ChangesSessions]
  have hst : AllSteps (AuthState.step d) (fun _ e => ¬ ChangesSessions e) s
      (replay certificateMatches payload pause wait) := allSteps_of_forall_mem hev
  refine hst.imp_of_invariant (fun s e hs he => ?_) (fun s e hs _ => hs) h
  rw [sessions_step he]
  exact hs

end Presented

namespace Ahead

def workerId : Bytes := ascii "conn_00000000000000000000000000000001"

def nonce : AuthenticationNonce := ⟨List.replicate 32 7, rfl⟩

/-- A frame stamped with second 1000 by a Worker of the sample client. -/
def hello (data : AuthenticationData) : WorkerHelloMessage :=
  ⟨Sample.clientId, 1, workerId, 1000, nonce, data⟩

def start : AuthState where
  now := 0
  nonceCache := .new {}
  policies := PolicySnapshot.empty.emplace Sample.policy
  sessions := ((SessionRegistry.empty 1).openSession Sample.clientId (.ok 1)).2
  presentations := ∅
  accepted := []

theorem start_initial : start.Initial :=
  ⟨rfl, rfl, rfl⟩

theorem isId_clientId : IsId .client Sample.clientId :=
  validId_iff.1 (by decide)

theorem isId_workerId : IsId .connection workerId :=
  validId_iff.1 (by decide)

theorem acceptable {d : Deployment} (hs : IsId .server d.serverId) {data : AuthenticationData}
    (hdata : d.hmac Sample.policy.psk (workerAuthenticationInput Sample.clientId d.serverId 1
      workerId 1000 nonce) = some data) :
    Acceptable d start (fun _ => true) (hello data).layout (hello data) Sample.policy where
  decoded := decodeWorkerHello_eq_ok.2 ⟨⟨isId_clientId, isId_workerId, by simp [hello]⟩, rfl⟩
  found := rfl
  enabled := rfl
  certificate := rfl
  current := rfl
  verified := by
    have hc := computeWorkerAuthenticationData_eq_ok.2
      ⟨by decide, ⟨isId_clientId, hs, isId_workerId, by decide⟩, hdata⟩
    simp only [verifyWorkerAuthenticationData, hello]
    rw [hc]
    simp

/-- The frame is `ahead` seconds ahead of the clock when the server starts. -/
def deployment (options : ServerOptions) (serverId : Bytes) (hmac : Hmac) (ahead : Nat) :
    Deployment :=
  ⟨options, serverId, hmac, (1000 - ahead) * kNanosecondsPerSecond⟩

/-- The frame is accepted until its stamp is the whole skew behind the clock. -/
theorem inWindow {opts : ServerOptions} {sid : Bytes} {hmac : Hmac} {ahead now : Nat}
    {data : AuthenticationData} (hskew : 0 ≤ opts.allowedClockSkew)
    (hahead : ahead ≤ opts.allowedClockSkew.toNat)
    (hnow : now / kNanosecondsPerSecond ≤ ahead + opts.allowedClockSkew.toNat) :
    InWindow (deployment opts sid hmac ahead) (hello data) now := by
  have hwall : (deployment opts sid hmac ahead).unixSecondsNow now =
      1000 - ahead + (now / kNanosecondsPerSecond : Nat) := by
    simp only [Deployment.unixSecondsNow, deployment, kNanosecondsPerSecond]
    omega
  have hdistance : absoluteClockSkewSeconds 1000
      (1000 - ahead + (now / kNanosecondsPerSecond : Nat)) ≤ opts.allowedClockSkew.toNat := by
    generalize now / kNanosecondsPerSecond = seconds at hnow ⊢
    unfold absoluteClockSkewSeconds
    omega
  have hnon : ¬ (deployment opts sid hmac ahead).options.allowedClockSkew < 0 :=
    Int.not_lt.2 hskew
  unfold InWindow isClockSkewWithin
  rw [if_neg hnon, hwall]
  exact congrArg _ (decide_eq_true hdistance)

/-- When the memory of the cache is too short, the frame is accepted twice: it is
presented as early as the window allows, and again when the cache has forgotten it. -/
theorem replayed {opts : ServerOptions} (hskew : 0 ≤ opts.allowedClockSkew)
    {sid : Bytes} (hsv : IsId .server sid) {hmac : Hmac}
    (hhmac : ∀ key input, hmac key input ≠ none) {delay : Nat}
    (hs : ¬ OutlivesWindow opts delay) : ¬ AcceptedOnce opts sid hmac delay := by
  obtain ⟨data, hdata⟩ := Option.ne_none_iff_exists'.1 (hhmac Sample.policy.psk
    (workerAuthenticationInput Sample.clientId sid 1 workerId 1000 nonce))
  have hr : (NonceReplayCache.new {}).retention = 300 := rfl
  unfold OutlivesWindow at hs
  -- The second frame comes `pause` after the first, and then takes `wait` to reach the cache.
  obtain ⟨wait, pause, hwait, hover, hwin⟩ : ∃ wait pause, wait ≤ delay ∧
      300 * kNanosecondsPerSecond ≤ pause + wait ∧
      pause / kNanosecondsPerSecond ≤ 2 * opts.allowedClockSkew.toNat := by
    refine ⟨min delay (300 * kNanosecondsPerSecond),
      300 * kNanosecondsPerSecond - min delay (300 * kNanosecondsPerSecond), ?_, ?_, ?_⟩
    all_goals
      simp only [kNanosecondsPerSecond] at hs ⊢
      omega
  have ha := acceptable (d := deployment opts sid hmac opts.allowedClockSkew.toNat) hsv hdata
  obtain ⟨ht, hp⟩ := exec_replay pause start_initial ha
    (validId_iff.2 isId_clientId) (inWindow hskew (Nat.le_refl _) (by simp [start]))
    (inWindow hskew (Nat.le_refl _) (by simp only [start, Nat.zero_add]; omega))
    (by rwa [hr]) hwait
  intro honce
  have hc := honce _ start [] _ _ _ start_initial ha.decoded hp (current_replay ha.current)
  exact absurd (ht.symm.trans_le hc) (by simp [timesAccepted, start])

end Ahead

/-- A `WORKER_HELLO` can be replayed unless the cache outlives the window. -/
theorem worker_accepted_once_iff (options : ServerOptions)
    (hvalid : validateOptions options = .ok ()) (serverId : Bytes)
    (hserver : validId .server serverId = true) (hmac : Hmac)
    (hhmac : ∀ key input, hmac key input ≠ none) (delay : Nat) :
    AcceptedOnce options serverId hmac delay ↔ OutlivesWindow options delay := by
  constructor
  · intro honce
    by_contra hshort
    exact Ahead.replayed (allowedClockSkew_of_valid hvalid).1 (validId_iff.1 hserver) hhmac hshort
      honce
  · intro hlong
    exact acceptedOnce_of_outlives hlong serverId hmac

namespace Ahead

def serverId : Bytes := ascii "srv_00000000000000000000000000000001"

/-- The MAC of the frame under the key of its client; what others have is left open. -/
def tableHmac : Hmac := fun key input =>
  if key = Sample.policy.psk ∧
      input = workerAuthenticationInput Sample.clientId serverId 1 workerId 1000 nonce then
    some ⟨[223, 220, 92, 208, 9, 91, 77, 195, 131, 43, 187, 14, 146, 98, 76, 86, 205, 186, 56, 44,
      53, 162, 196, 111, 139, 205, 112, 194, 228, 91, 129, 115], rfl⟩
  else some ⟨nonce.1, nonce.2⟩

theorem tableHmac_ne_none (key input : Bytes) : tableHmac key input ≠ none := by
  unfold tableHmac
  split <;> exact Option.some_ne_none _

/-- With the default skew of thirty seconds nothing is replayed, even if a thread takes
two minutes from the check of the timestamp to the cache. -/
theorem default_skew_safe :
    validateOptions {} = .ok () ∧
      AcceptedOnce {} serverId tableHmac (120 * kNanosecondsPerSecond) :=
  ⟨rfl, (worker_accepted_once_iff {} rfl serverId (by decide) tableHmac tableHmac_ne_none _).2
    (by unfold OutlivesWindow; decide)⟩

/-- With a skew of two and a half minutes a frame is replayed, even if no time passes
within a connection. -/
theorem wide_skew_replayed :
    validateOptions { allowedClockSkew := 150 } = .ok () ∧
      ¬ AcceptedOnce { allowedClockSkew := 150 } serverId tableHmac 0 :=
  ⟨rfl, replayed (by decide) (validId_iff.1 (by decide)) tableHmac_ne_none
    (by unfold OutlivesWindow; decide)⟩

end Ahead

end MiniTun.Server
