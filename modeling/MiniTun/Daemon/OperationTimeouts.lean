import MiniTun.Protocol.RelayOperations

/-!
# The operation timeouts of a Worker session

A Worker session runs one operation after the other.  Before each it sets its one timer and
starts a wait whose handler closes every stream of the session; when the operation is over it
cancels the timer.  A handler that is in the queue with success by then is not withdrawn, and
nothing tells it that its operation is over: it closes the streams the next operation, or the
relay, is using.
-/

namespace MiniTun.Daemon

open TransitionSystem WaitTimer

/-- The sockets a session makes on the way. -/
inductive SessionSocket where
  | localSocket
  | localUdpSocket
  | p2pSocket
deriving DecidableEq

/-- A session with the timer of its operations.  A wait is named by the operation it was started
for; operations are numbered. -/
structure WorkerSession where
  now : Nat
  operationTimer : Timer Nat
  /-- The operation that is outstanding. -/
  operation : Option Nat
  operations : Nat
  streamOpen : Bool
  /-- The sockets that exist, and whether they are open. -/
  sockets : SessionSocket → Option Bool
  /-- Somebody still holds the session, so that its weak pointer can be locked. -/
  alive : Bool

/-- What happens to a Worker session and its timer. -/
inductive WorkerSessionEvent where
  | advance (time : Nat)
  | expire
  /-- `arm_timeout`, and an operation is started. -/
  | arm (timeout : Nat)
  /-- The operation is over, and `cancel_timeout` is called. -/
  | complete
  | openSocket (socket : SessionSocket)
  /-- The handler at this place of the queue is run. -/
  | timeoutHandler (i : Nat)
  | close
  /-- The last reference is dropped. -/
  | destroy

namespace WorkerSession

def start (now : Nat) : WorkerSession where
  now := now
  operationTimer := .new now
  operation := none
  operations := 0
  streamOpen := true
  sockets := fun _ => none
  alive := true

section Session

variable (s : WorkerSession)

def armTimeout (timeout : Nat) : WorkerSession :=
  { s with
    operationTimer := (s.operationTimer.expiresAt (s.now + timeout)).asyncWait s.operations
    operation := some s.operations
    operations := s.operations + 1 }

def cancelTimeout : WorkerSession :=
  { s with operationTimer := s.operationTimer.cancel }

/-- What the handler of a wait does on success. -/
def closeStreams : WorkerSession :=
  { s with
    streamOpen := false
    sockets := fun socket => (s.sockets socket).map fun _ => false }

def close : WorkerSession :=
  { s.cancelTimeout with streamOpen := false, sockets := fun _ => none }

def step : WorkerSessionEvent → WorkerSession
  | .advance time => { s with now := s.now + time }
  | .expire => { s with operationTimer := s.operationTimer.expire s.now }
  | .arm timeout => if s.operation.isNone ∧ s.alive then s.armTimeout timeout else s
  | .complete => if s.operation.isSome then { s with operation := none }.cancelTimeout else s
  | .openSocket socket =>
    if s.alive then { s with sockets := Function.update s.sockets socket (some true) } else s
  | .timeoutHandler i =>
    let taken := { s with operationTimer := s.operationTimer.take i }
    if (s.operationTimer.expiry? i).isSome ∧ s.alive then taken.closeStreams else taken
  | .close => s.close
  | .destroy => { s.cancelTimeout with alive := false }

/-- The expiry for which the event closes the streams. -/
def closedFor : WorkerSessionEvent → Option (Completion Nat)
  | .timeoutHandler i => if s.alive then s.operationTimer.expiry? i else none
  | _ => none

/-- The operation the wait was started for is outstanding. -/
def Outstanding (c : Completion Nat) : Prop :=
  s.operation = some c.wait

/-- The timer was cancelled or set after the expiry had been queued, and the operation is
over. -/
def Overtaken (c : Completion Nat) : Prop :=
  s.operationTimer.superseded c = true ∧ s.operation ≠ some c.wait

/-- Waits under way, and expiries that are not superseded, are of the outstanding operation. -/
def Sound : Prop :=
  Current (fun n => s.operation = some n) (fun n => s.operation = some n) s.operationTimer

end Session

variable {s : WorkerSession}

theorem Sound.step (h : s.Sound) (e : WorkerSessionEvent) : (s.step e).Sound := by
  cases e with
  | advance time => exact h
  | expire => exact Current.expire h fun _ _ hw => hw
  | arm timeout =>
    simp only [WorkerSession.step]
    split
    · exact Current.asyncWait (Current.expiresAt h _) rfl
    · exact h
  | complete =>
    simp only [WorkerSession.step]
    split
    · exact Current.cancel h
    · exact h
  | openSocket socket =>
    simp only [WorkerSession.step]
    split
    · exact h
    · exact h
  | timeoutHandler i =>
    simp only [WorkerSession.step]
    split
    · exact Current.take h i
    · exact Current.take h i
  | close => exact Current.cancel h
  | destroy => exact Current.cancel h

/-- The streams are closed for an operation that is outstanding, unless the expiry was
overtaken. -/
theorem Sound.outstanding_iff (h : s.Sound) {e : WorkerSessionEvent} {c : Completion Nat}
    (hc : s.closedFor e = some c) : s.Outstanding c ↔ ¬s.Overtaken c := by
  have hcur : s.operationTimer.superseded c = false → s.operation = some c.wait := by
    intro hcur
    cases e with
    | timeoutHandler i =>
      simp only [closedFor] at hc
      split at hc
      · exact Current.of_expiry? h hc hcur
      · cases hc
    | _ => cases hc
  constructor
  · intro hout ho
    exact ho.2 hout
  · intro hnot
    cases hs : s.operationTimer.superseded c with
    | true => exact not_not.1 fun hover => hnot ⟨hs, hover⟩
    | false => exact hcur hs

end WorkerSession

open Protocol (RelayOperation RelayOperationEvent DatagramRelayOperation DatagramRelayEvent)

/-- **Timeouts that strike in time.**  Along every run of a relay of either kind, whatever the
order of its completions, the inactivity failure is raised only when nothing was forwarded for
the whole timeout, exactly if it is never raised for an expiry that was queued before something
was forwarded less than the timeout ago.  Along every run of a Worker session the timeout closes
the streams only while its operation is outstanding, exactly if it never does for an expiry that
was queued before its operation was over. -/
theorem timeouts_in_time_iff (timeout now : Nat) (relayRun : List RelayOperationEvent)
    (datagramRun : List DatagramRelayEvent) (sessionRun : List WorkerSessionEvent) :
    (AllSteps RelayOperation.step (fun s e => ∀ c, s.raised e = some c → s.watch.Idle)
        (.start timeout now) relayRun ↔
      AllSteps RelayOperation.step (fun s e => ∀ c, s.raised e = some c → ¬s.watch.Overtaken c)
        (.start timeout now) relayRun) ∧
    (AllSteps DatagramRelayOperation.step (fun s e => ∀ c, s.raised e = some c → s.watch.Idle)
        (.start timeout now) datagramRun ↔
      AllSteps DatagramRelayOperation.step
        (fun s e => ∀ c, s.raised e = some c → ¬s.watch.Overtaken c)
        (.start timeout now) datagramRun) ∧
    (AllSteps WorkerSession.step (fun s e => ∀ c, s.closedFor e = some c → s.Outstanding c)
        (.start now) sessionRun ↔
      AllSteps WorkerSession.step (fun s e => ∀ c, s.closedFor e = some c → ¬s.Overtaken c)
        (.start now) sessionRun) := by
  refine ⟨?_, ?_, ?_⟩
  · apply Protocol.idle_run_iff RelayOperation.watch_step
    · intro s e c hc
      cases e with
      | resume i => exact ⟨i, hc⟩
      | _ => cases hc
    · exact Protocol.InactivityWatch.sound_start timeout now
  · apply Protocol.idle_run_iff DatagramRelayOperation.watch_step
    · intro s e c hc
      cases e with
      | resume i => exact ⟨i, hc⟩
      | _ => cases hc
    · exact Protocol.InactivityWatch.sound_start timeout now
  · have hstep : ∀ (s : WorkerSession) e, s.Sound → True → (s.step e).Sound :=
      fun _ e h _ => h.step e
    apply allSteps_congr_of_invariant hstep
    · intro s e hsound
      exact forall_congr' fun c => imp_congr_right fun hc => hsound.outstanding_iff hc
    · exact Current.new now
    · intro _ _
      trivial

/-- A byte, and a datagram, is forwarded while the expiry is in the queue, and the relay fails
at once.  An operation of a Worker session is over while its expiry is in the queue, and the
streams are closed under the next. -/
theorem timeouts_strike_late :
    (let s := exec RelayOperation.step (.start 60 0)
      [.begin, .readDone .tlsToTcp 1 none, .advance 60, .expire, .writeDone .tlsToTcp 1 none]
    (s.raised (.resume 0)).isSome ∧ s.watch.lastForwarded = 60 ∧ s.watch.now = 60 ∧
      (s.step (.resume 0)).isOpen = false ∧
      (s.step (.resume 0)).failure =
        some ⟨.connectionTimeout, "TCP relay inactivity timeout expired"⟩) ∧
    (let s := exec DatagramRelayOperation.step (.start 60 0)
      [.begin, .datagramReceived 1 none, .advance 60, .expire, .recordWritten 3 none]
    (s.raised (.resume 0)).isSome ∧ s.watch.lastForwarded = 60 ∧ s.watch.now = 60 ∧
      (s.step (.resume 0)).isOpen = false ∧
      (s.step (.resume 0)).failure =
        some ⟨.connectionTimeout, "UDP relay inactivity timeout expired"⟩) ∧
    (let s := exec WorkerSession.step (.start 0)
      [.arm 10, .advance 10, .expire, .complete, .arm 10]
    (s.closedFor (.timeoutHandler 0)).map (·.wait) = some 0 ∧ s.operation = some 1 ∧
      s.streamOpen = true ∧ (s.step (.timeoutHandler 0)).streamOpen = false) := by
  refine ⟨?_, ?_, ?_⟩
  · decide
  · decide
  · decide

end MiniTun.Daemon
