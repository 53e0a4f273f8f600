import MiniTun.Lib.TransitionSystem
import MiniTun.Protocol.Authentication
import MiniTun.Server.ClientPolicy
import MiniTun.Server.ServerOptions
import MiniTun.Server.SessionRegistry

/-!
# Worker authentication

The head of `run_worker`, from the `WORKER_HELLO` frame to `authentication_completed`.
Many connections are in it at once, on as many threads, and each reads the clocks
several times: the wall clock for the timestamp, the steady clock for the replay cache,
the wall clock again for the rotated key.  Each of these readings is a step here, so that
time may pass and other connections may run in between.

A payload is accepted twice if the cache forgets its nonce while its timestamp is still
in the window.  `Consistent.fresh` says what it takes for a payload to be new.
-/

namespace MiniTun.Server

open KeyedMap Protocol

/-- `common::absolute_clock_skew_seconds`; the difference of two 64-bit numbers fits
the unsigned result. -/
def absoluteClockSkewSeconds (first second : Int) : Nat :=
  (first - second).natAbs

def isClockSkewWithin (timestamp reference allowedSkew : Int) : Result Bool :=
  if allowedSkew < 0 then
    failure .invalidArgument "allowed clock skew must not be negative"
  else .ok (absoluteClockSkewSeconds timestamp reference ≤ allowedSkew.toNat)

/-- What is fixed while the server runs.  `epoch` is the wall clock less the steady
clock, in nanoseconds: the two advance by equal amounts. -/
structure Deployment where
  options : ServerOptions
  serverId : Bytes
  hmac : Hmac
  epoch : Int

/-- `common::unix_seconds_now`, at a time of the steady clock. -/
def Deployment.unixSecondsNow (d : Deployment) (now : Nat) : Int :=
  (d.epoch + now) / kNanosecondsPerSecond

/-- Where a connection is once the timestamp was checked.  `last` is set for the second
call of `verify_and_consume_worker_authentication_data`, the one with the rotated key. -/
inductive Progress where
  /-- The call with this key is about to be made. -/
  | calling (token : Bytes) (last : Bool)
  /-- The digest was right; the call waits for the mutex of the cache. -/
  | locking (reading : Nat) (last : Bool)
  /-- The first call failed; `rotation_psk` comes next. -/
  | rotating
deriving DecidableEq

/-- A `WORKER_HELLO` that passed the checks up to the timestamp. -/
structure Presentation where
  payload : Bytes
  hello : WorkerHelloMessage
  policy : ClientPolicy
  checkedAt : Nat
  progress : Progress

/-- The part of the server the authentication of Workers reads and writes.  `accepted`
is its history: the presentations that reached `authentication_completed`. -/
structure AuthState where
  now : Nat
  nonceCache : NonceReplayCache
  policies : PolicySnapshot
  sessions : SessionRegistry
  presentations : Map Nat Presentation
  accepted : List Presentation

/-- A step of a connection, a call from elsewhere, or time that passes. -/
inductive AuthEvent where
  | elapse (duration : Nat)
  | installPolicies (snapshot : PolicySnapshot)
  | openSession (clientId : Bytes) (draw : Result Nat)
  | closeSession (clientId : Bytes) (generation : Nat)
  /-- A control session consumes its nonce, having read the clock `age` ago. -/
  | controlAuth (clientId : Bytes) (nonce : AuthenticationNonce) (age : Nat)
  | workerHello (connection : Nat) (certificateMatches : CertificateBinding → Bool)
      (payload : Bytes)
  /-- The connection runs on to its next reading of a clock or to the mutex. -/
  | resume (connection : Nat)

namespace AuthState

/-- The checks of `run_worker` up to the timestamp. -/
def workerHello (d : Deployment) (s : AuthState) (connection : Nat)
    (certificateMatches : CertificateBinding → Bool) (payload : Bytes) : AuthState :=
  match decodeWorkerHello payload with
  | .error _ => s
  | .ok hello =>
    match s.policies.find hello.clientId with
    | none => s
    | some policy =>
      if !policy.enabled ∨ !certificateMatches policy.certificate ∨
          !s.sessions.isCurrent hello.clientId hello.sessionGeneration.toNat then s
      else match isClockSkewWithin hello.timestampSeconds.toInt (d.unixSecondsNow s.now)
          d.options.allowedClockSkew with
        | .ok true =>
          { s with
            presentations := s.presentations.insert connection ⟨payload, hello, policy, s.now,
              .calling policy.psk false⟩ }
        | _ => s

/-- The connection goes on at another place. -/
def goOn (s : AuthState) (connection : Nat) (p : Presentation) (progress : Progress) :
    AuthState :=
  { s with presentations := s.presentations.insert connection { p with progress := progress } }

def refuse (s : AuthState) (connection : Nat) : AuthState :=
  { s with presentations := s.presentations.erase connection }

/-- A call returned an error or false. -/
def callFailed (s : AuthState) (connection : Nat) (p : Presentation) (last : Bool) :
    AuthState :=
  if last then s.refuse connection else s.goOn connection p .rotating

/-- `authentication_completed`. -/
def complete (s : AuthState) (connection : Nat) (p : Presentation) : AuthState :=
  { s with
    presentations := s.presentations.erase connection
    accepted := p :: s.accepted }

/-- One piece of `run_worker` between two readings. -/
def resume (d : Deployment) (s : AuthState) (connection : Nat) : AuthState :=
  match s.presentations.lookup connection with
  | none => s
  | some p =>
    match p.progress with
    | .calling token last =>
      match verifyWorkerAuthenticationData d.hmac token p.hello.clientId d.serverId
          p.hello.sessionGeneration p.hello.workerId p.hello.timestampSeconds p.hello.nonce
          p.hello.authenticationData with
      | .ok true => s.goOn connection p (.locking s.now last)
      | _ => s.callFailed connection p last
    | .locking reading last =>
      let (verified, cache) := s.nonceCache.consume p.hello.clientId p.hello.nonce reading
      let s := { s with nonceCache := cache }
      match verified with
      | .ok true => s.complete connection p
      | _ => s.callFailed connection p last
    | .rotating =>
      match p.policy.rotationPsk (d.unixSecondsNow s.now) with
      | none => s.refuse connection
      | some token => s.goOn connection p (.calling token true)

def step (d : Deployment) (s : AuthState) : AuthEvent → AuthState
  | .elapse duration => { s with now := s.now + duration }
  | .installPolicies snapshot => { s with policies := snapshot }
  | .openSession clientId draw =>
    { s with sessions := (s.sessions.openSession clientId draw).2 }
  | .closeSession clientId generation =>
    { s with sessions := s.sessions.close clientId generation }
  | .controlAuth clientId nonce age =>
    { s with nonceCache := (s.nonceCache.consume clientId nonce (s.now - age)).2 }
  | .workerHello connection certificateMatches payload =>
    -- a connection presents one frame and is then busy with it
    if s.presentations.lookup connection = none then
      s.workerHello d connection certificateMatches payload
    else s
  | .resume connection => s.resume d connection

/-- The server has just started; the cache has its default options. -/
structure Initial (s : AuthState) : Prop where
  nonceCache : s.nonceCache = .new {}
  presentations : s.presentations = ∅
  accepted : s.accepted = []

/-- A connection is through with the cache at most `delay` nanoseconds after the check
of its timestamp. -/
def Prompt (delay : Nat) (s : AuthState) : AuthEvent → Prop
  | .resume connection => ∀ p, s.presentations.lookup connection = some p →
      s.now ≤ p.checkedAt + delay
  | _ => True

def timesAccepted (s : AuthState) (payload : Bytes) : Nat :=
  (s.accepted.map Presentation.payload).count payload

/-! ## What the steps keep -/

/-- The timestamp was in the window when it was checked. -/
structure Checked (d : Deployment) (p : Presentation) : Prop where
  decoded : decodeWorkerHello p.payload = .ok p.hello
  inWindow : absoluteClockSkewSeconds p.hello.timestampSeconds.toInt
    (d.unixSecondsNow p.checkedAt) ≤ d.options.allowedClockSkew.toNat

/-- A presentation in flight; a reading it waits with was made after the check. -/
structure InFlight (d : Deployment) (now : Nat) (p : Presentation) : Prop extends Checked d p where
  checkedAt_le : p.checkedAt ≤ now
  reading : ∀ reading last, p.progress = .locking reading last →
    p.checkedAt ≤ reading ∧ reading ≤ now

/-- The cache knows the nonce of a presentation until the retention is over. -/
def Remembered (retention : Nat) (s : AuthState) (p : Presentation) : Prop :=
  p.checkedAt + retention * kNanosecondsPerSecond ≤ s.now ∨
    ∃ entry ∈ s.nonceCache.order, entry.key = replayKey p.hello.clientId p.hello.nonce ∧
      p.checkedAt + retention * kNanosecondsPerSecond ≤ entry.expiresAt

/-- The invariant: what was accepted is remembered for the retention. -/
structure Consistent (d : Deployment) (retention : Nat) (s : AuthState) : Prop where
  cacheRetention : s.nonceCache.retention = retention
  inFlight : ∀ connection p, s.presentations.lookup connection = some p → InFlight d s.now p
  checked : ∀ p ∈ s.accepted, Checked d p
  remembered : ∀ p ∈ s.accepted, Remembered retention s p

section Steps

variable {d : Deployment} {s : AuthState} {retention now : Nat}

variable {p : Presentation} {reading : Nat}

theorem InFlight.later (h : InFlight d now p) (duration : Nat) :
    InFlight d (now + duration) p where
  toChecked := h.toChecked
  checkedAt_le := Nat.le_trans h.checkedAt_le (Nat.le_add_right _ _)
  reading := by
    intro reading last hl
    have := h.reading reading last hl
    omega

section Steps

variable (h : Consistent d retention s)
include h

theorem Consistent.elapse (duration : Nat) :
    Consistent d retention { s with now := s.now + duration } where
  cacheRetention := h.cacheRetention
  inFlight := fun conn p hp => (h.inFlight conn p hp).later duration
  checked := h.checked
  remembered := fun p hp =>
    (h.remembered p hp).imp_left fun hle => Nat.le_trans hle (Nat.le_add_right _ _)

/-- A call of `consume` keeps what is remembered, whoever makes it: an entry it drops
was reached by a reading that lies in the past. -/
theorem Consistent.consume (cid : Bytes) (nonce : AuthenticationNonce) (hr : reading ≤ s.now) :
    Consistent d retention { s with nonceCache := (s.nonceCache.consume cid nonce reading).2 } where
  cacheRetention := by simpa using h.cacheRetention
  inFlight := h.inFlight
  checked := h.checked
  remembered := by
    intro p hp
    rcases h.remembered p hp with hover | ⟨ent, hent, hkey, hexp⟩
    · exact .inl hover
    · rcases NonceReplayCache.mem_consume hent with hk | hd
      · exact .inr ⟨ent, hk, hkey, hexp⟩
      · exact .inl (Nat.le_trans hexp (Nat.le_trans hd hr))

theorem Consistent.withPresentations {presentations : Map Nat Presentation}
    (hp : ∀ conn p, presentations.lookup conn = some p → InFlight d s.now p) :
    Consistent d retention { s with presentations := presentations } :=
  ⟨h.cacheRetention, hp, h.checked, h.remembered⟩

section Presented

variable (conn : Nat)

theorem Consistent.refuse : Consistent d retention (s.refuse conn) := by
  refine h.withPresentations fun other p hp => h.inFlight other p ?_
  exact lookup_of_erase hp

theorem Consistent.insert (hp : InFlight d s.now p) :
    Consistent d retention { s with presentations := s.presentations.insert conn p } := by
  refine h.withPresentations fun other q hq => ?_
  rw [lookup_insert_eq_ite] at hq
  split at hq
  · cases hq
    exact hp
  · exact h.inFlight other q hq

theorem Consistent.goOn {progress : Progress} (hp : InFlight d s.now p)
    (hr : ∀ reading last, progress = .locking reading last →
      p.checkedAt ≤ reading ∧ reading ≤ s.now) :
    Consistent d retention (s.goOn conn p progress) :=
  h.insert conn ⟨⟨hp.decoded, hp.inWindow⟩, hp.checkedAt_le, hr⟩

theorem Consistent.callFailed (hp : InFlight d s.now p) (last : Bool) :
    Consistent d retention (s.callFailed conn p last) := by
  unfold AuthState.callFailed
  split
  · exact h.refuse conn
  · exact h.goOn conn hp fun reading last hpr => by cases hpr

theorem Consistent.complete {conn : Nat} {last : Bool} (hp : s.presentations.lookup conn = some p)
    (hpr : p.progress = .locking reading last)
    (hcon : (s.nonceCache.consume p.hello.clientId p.hello.nonce reading).1 = .ok true) :
    Consistent d retention (complete { s with
          nonceCache := (s.nonceCache.consume p.hello.clientId p.hello.nonce reading).2 }
        conn p) := by
  have hf := h.inFlight conn p hp
  obtain ⟨hc, hpast⟩ := hf.reading reading last hpr
  have hr := (h.consume p.hello.clientId p.hello.nonce hpast).refuse conn
  have hent := NonceReplayCache.remembered_of_consume hcon
  rw [h.cacheRetention] at hent
  refine ⟨hr.cacheRetention, hr.inFlight, ?_, ?_⟩
  · intro q hq
    rcases List.mem_cons.1 hq with rfl | hq
    · exact hf.toChecked
    · exact h.checked q hq
  · intro q hq
    rcases List.mem_cons.1 hq with rfl | hq
    · exact .inr ⟨_, hent, rfl, Nat.add_le_add_right hc _⟩
    · exact hr.remembered q hq

theorem Consistent.workerHello (certOk : CertificateBinding → Bool) (pay : Bytes) :
    Consistent d retention (s.workerHello d conn certOk pay) := by
  unfold AuthState.workerHello
  split
  · exact h
  · next hello hd =>
    split
    · exact h
    · split
      · exact h
      · split
        · next hskew =>
          refine h.insert conn ⟨⟨hd, ?_⟩, Nat.le_refl _, fun _ _ hp => by cases hp⟩
          unfold isClockSkewWithin at hskew
          split at hskew
          · cases hskew
          · exact of_decide_eq_true (Except.ok.inj hskew)
        · exact h

theorem Consistent.resume : Consistent d retention (s.resume d conn) := by
  unfold AuthState.resume
  split
  · exact h
  · next p hp =>
    have hf := h.inFlight conn p hp
    split
    · next token last hpr =>
      split
      · refine h.goOn conn hf ?_
        intro reading last' hl
        cases hl
        exact ⟨hf.checkedAt_le, Nat.le_refl _⟩
      · exact h.callFailed conn hf last
    · next reading last hpr =>
      have hcon :=
        h.consume p.hello.clientId p.hello.nonce (hf.reading reading last hpr).2
      simp only
      split
      · next hv => exact h.complete hp hpr hv
      · exact hcon.callFailed conn hf last
    · next hpr =>
      split
      · exact h.refuse conn
      · exact h.goOn conn hf fun _ _ hl => by cases hl

end Presented

theorem Consistent.step (e : AuthEvent) : Consistent d retention (s.step d e) := by
  cases e with
  | elapse duration => exact h.elapse duration
  | installPolicies snap => exact ⟨h.cacheRetention, h.inFlight, h.checked, h.remembered⟩
  | openSession cid draw => exact ⟨h.cacheRetention, h.inFlight, h.checked, h.remembered⟩
  | closeSession cid gen =>
    exact ⟨h.cacheRetention, h.inFlight, h.checked, h.remembered⟩
  | controlAuth cid nonce age => exact h.consume cid nonce (Nat.sub_le _ _)
  | workerHello conn certOk pay =>
    simp only [AuthState.step]
    split
    · exact h.workerHello conn certOk pay
    · exact h
  | resume conn => exact h.resume conn

end Steps

/-! ## Acceptances -/

@[simp] theorem accepted_workerHello (conn : Nat)
    (certOk : CertificateBinding → Bool) (pay : Bytes) :
    (s.workerHello d conn certOk pay).accepted = s.accepted := by
  unfold AuthState.workerHello
  repeat' split
  all_goals rfl

@[simp] theorem accepted_callFailed (conn : Nat) (p : Presentation) (last : Bool) :
    (s.callFailed conn p last).accepted = s.accepted := by
  unfold AuthState.callFailed
  split <;> rfl

theorem accepted_resume (conn : Nat) :
    (s.resume d conn).accepted = s.accepted ∨
    ∃ p reading last, s.presentations.lookup conn = some p ∧
      p.progress = .locking reading last ∧
      (s.nonceCache.consume p.hello.clientId p.hello.nonce reading).1 = .ok true ∧
      (s.resume d conn).accepted = p :: s.accepted := by
  unfold AuthState.resume
  split
  · exact .inl rfl
  · next p hp =>
    split
    · split
      · exact .inl rfl
      · exact .inl (accepted_callFailed ..)
    · next reading last hpr =>
      simp only
      split
      · next hv => exact .inr ⟨p, reading, last, hp, hpr, hv, rfl⟩
      · exact .inl (accepted_callFailed ..)
    · split <;> exact .inl rfl

theorem accepted_step (e : AuthEvent) :
    (s.step d e).accepted = s.accepted ∨
    ∃ conn p reading last, e = .resume conn ∧
      s.presentations.lookup conn = some p ∧ p.progress = .locking reading last ∧
      (s.nonceCache.consume p.hello.clientId p.hello.nonce reading).1 = .ok true ∧
      (s.step d e).accepted = p :: s.accepted := by
  cases e with
  | workerHello conn certOk pay =>
    simp only [AuthState.step]
    split
    · exact .inl (accepted_workerHello ..)
    · exact .inl rfl
  | resume conn =>
    exact (accepted_resume conn).imp_right fun ⟨p, reading, last, h⟩ =>
      ⟨conn, p, reading, last, rfl, h⟩
  | _ => exact .inl rfl

theorem Checked.hello_eq {q : Presentation} (hp : Checked d p) (hq : Checked d q)
    (hpay : q.payload = p.payload) : q.hello = p.hello := by
  have hd := hq.decoded
  rw [hpay, hp.decoded] at hd
  exact (Except.ok.inj hd).symm

/-- Two checks of one timestamp that both found it in the window are at most twice the
skew apart, up to the second the wall clock is rounded to. -/
theorem Checked.near {q : Presentation} (hp : Checked d p) (hq : Checked d q)
    (hpay : q.payload = p.payload) :
    p.checkedAt < q.checkedAt +
      (2 * d.options.allowedClockSkew.toNat + 1) * kNanosecondsPerSecond := by
  have hpw := hp.inWindow
  have hqw := hq.inWindow
  rw [hp.hello_eq hq hpay] at hqw
  simp only [absoluteClockSkewSeconds, Deployment.unixSecondsNow, kNanosecondsPerSecond]
    at hpw hqw ⊢
  omega

/-- A payload accepted before is not accepted again by a prompt connection. -/
theorem Consistent.fresh (h : Consistent d retention s) {delay conn : Nat} {last : Bool}
    (hfits : delay + (2 * d.options.allowedClockSkew.toNat + 1) * kNanosecondsPerSecond ≤
      retention * kNanosecondsPerSecond) (hp : s.presentations.lookup conn = some p)
    (hpm : s.now ≤ p.checkedAt + delay) (hpr : p.progress = .locking reading last)
    (hcon : (s.nonceCache.consume p.hello.clientId p.hello.nonce reading).1 = .ok true) :
    p.payload ∉ s.accepted.map Presentation.payload := by
  intro hmem
  obtain ⟨q, hq, hpay⟩ := List.mem_map.1 hmem
  have hf := h.inFlight conn p hp
  have hnear := hf.toChecked.near (h.checked q hq) hpay
  have hpast := (hf.reading reading last hpr).2
  have hfor : q.checkedAt + retention * kNanosecondsPerSecond ≤ s.now := by
    rcases h.remembered q hq with hover | ⟨ent, hent, hkey, hexp⟩
    · exact hover
    · rw [hf.toChecked.hello_eq (h.checked q hq) hpay] at hkey
      have he := NonceReplayCache.expired_of_consume hcon hent hkey
      omega
  omega

end Steps

end AuthState

end MiniTun.Server
