import MiniTun.Lib.WaitTimer
import MiniTun.Server.PublicIngress

/-!
# Relay operations and their inactivity timer

`RelayOperation` copies bytes between a TLS stream and a TCP socket, `DatagramRelayOperation`
records of a stream and datagrams of a UDP socket.  Both run two pumps and a watcher that waits
on one timer; whoever has forwarded something sets the timer anew.  The watcher fails the relay
when a wait ends with success.

Setting the timer does not take back an expiry whose handler is in the queue, and the watcher
does not look at the clock.  The failure is therefore raised although something has just been
forwarded, if that happened while the expiry was in the queue.
-/

namespace MiniTun.Protocol

open TransitionSystem WaitTimer

/-! ## The watcher -/

/-- The coroutine `watch_inactivity`. -/
inductive Watcher where
  | spawned
  | waiting
  | returned
deriving DecidableEq

/-- The timer of a relay with its watcher.  `lastForwarded` is the history: when something was
forwarded last, or when the relay began. -/
structure InactivityWatch where
  timeout : Nat
  now : Nat
  timer : Timer Unit
  watcher : Watcher
  done : Bool
  lastForwarded : Nat
deriving DecidableEq

/-- What happens to the timer and its watcher. -/
inductive WatchEvent where
  /-- Time passes. -/
  | advance (time : Nat)
  /-- The event loop looks at the clock. -/
  | expire
  /-- The watcher is run for the first time. -/
  | begin
  /-- The handler at this place of the queue is run: the watcher goes on. -/
  | resume (i : Nat)
  /-- The watcher, run with that handler, ends with an exception. -/
  | throw (i : Nat)
  | note
  | finish

namespace InactivityWatch

def start (timeout now : Nat) : InactivityWatch :=
  ⟨timeout, now, .new (now + timeout), .spawned, false, now⟩

section Watch

variable (w : InactivityWatch)

def noteActivity : InactivityWatch :=
  if w.done then { w with lastForwarded := w.now }
  else { w with lastForwarded := w.now, timer := w.timer.expiresAt (w.now + w.timeout) }

/-- `done_ = true`, and the activity timer is cancelled. -/
def finish : InactivityWatch :=
  { w with done := true, timer := w.timer.cancel }

/-- The head of the loop of `watch_inactivity`. -/
def watchLoop : InactivityWatch :=
  if w.done then { w with watcher := .returned }
  else { w with watcher := .waiting, timer := w.timer.asyncWait () }

/-- The body of the loop, after a wait has ended. -/
def watchInactivity (result : WaitResult) : InactivityWatch :=
  if w.done then { w with watcher := .returned }
  else
    match result with
    | .aborted => w.watchLoop
    | .expired => { w with watcher := .returned }

def step : WatchEvent → InactivityWatch
  | .advance time => { w with now := w.now + time }
  | .expire => { w with timer := w.timer.expire w.now }
  | .begin => if w.watcher = .spawned then w.watchLoop else w
  | .resume i =>
    match w.timer.queue[i]? with
    | none => w
    | some c => { w with timer := w.timer.take i }.watchInactivity c.result
  | .throw i =>
    match w.timer.queue[i]? with
    | none => w
    | some _ => { w with timer := w.timer.take i, watcher := .returned }
  | .note => w.noteActivity
  | .finish => w.finish

/-- The expiry the watcher fails the relay for, when it is run with this handler. -/
def raised (i : Nat) : Option (Completion Unit) :=
  if w.done then none else w.timer.expiry? i

/-- Nothing has been forwarded for the whole timeout. -/
def Idle : Prop :=
  w.lastForwarded + w.timeout ≤ w.now

/-- The timer was set after the expiry had been queued, for something that was forwarded less
than the timeout ago. -/
def Overtaken (c : Completion Unit) : Prop :=
  w.timer.superseded c = true ∧ w.now < w.lastForwarded + w.timeout

end Watch

/-- An expiry that is not superseded is of the time the timer is set to, and that is the
timeout after the last activity. -/
structure Sound (w : InactivityWatch) : Prop where
  current : Current (fun _ => True) (fun _ => w.timer.expiry ≤ w.now) w.timer
  expiry : w.done = false → w.timer.expiry = w.lastForwarded + w.timeout

variable {w : InactivityWatch}

theorem sound_start (timeout now : Nat) : (start timeout now).Sound where
  current := .new _
  expiry := fun _ => rfl

section WatchSteps

variable (h : w.Sound)
include h

theorem Sound.watchLoop : w.watchLoop.Sound := by
  unfold InactivityWatch.watchLoop
  split
  · exact ⟨h.current, h.expiry⟩
  · exact ⟨h.current.asyncWait trivial, h.expiry⟩

theorem Sound.take (i : Nat) : { w with timer := w.timer.take i }.Sound :=
  ⟨h.current.take i, h.expiry⟩

theorem Sound.watchInactivity (res : WaitResult) : (w.watchInactivity res).Sound := by
  unfold InactivityWatch.watchInactivity
  split
  · exact ⟨h.current, h.expiry⟩
  · cases res with
    | aborted => exact h.watchLoop
    | expired => exact ⟨h.current, h.expiry⟩

theorem Sound.noteActivity : w.noteActivity.Sound := by
  unfold InactivityWatch.noteActivity
  split
  · next hd =>
    refine ⟨h.current, ?_⟩
    intro hnot
    rw [hd] at hnot
    cases hnot
  · exact ⟨h.current.expiresAt _, fun _ => rfl⟩

/-- **One step of the watcher and its timer.** -/
theorem Sound.step (e : WatchEvent) : (w.step e).Sound := by
  cases e with
  | advance time =>
    refine ⟨h.current.mono ?_, h.expiry⟩
    intro _ hdue
    exact Nat.le_trans hdue (Nat.le_add_right _ _)
  | expire =>
    refine ⟨?_, ?_⟩
    · show Current _ (fun _ => (w.timer.expire w.now).expiry ≤ w.now) _
      rw [Timer.expiry_expire]
      exact h.current.expire fun hdue _ _ => hdue
    · intro hd
      show (w.timer.expire w.now).expiry = _
      rw [Timer.expiry_expire]
      exact h.expiry hd
  | begin =>
    simp only [InactivityWatch.step]
    split
    · exact h.watchLoop
    · exact h
  | resume i =>
    simp only [InactivityWatch.step]
    split
    · exact h
    · exact (h.take i).watchInactivity _
  | throw i =>
    simp only [InactivityWatch.step]
    split
    · exact h
    · exact ⟨h.current.take i, h.expiry⟩
  | note => exact h.noteActivity
  | finish =>
    refine ⟨h.current.cancel, ?_⟩
    intro hd
    cases hd

theorem Sound.exec (es : List WatchEvent) : (exec InactivityWatch.step w es).Sound :=
  exec_invariant (fun _ e hw => hw.step e) h es

/-- The failure is raised for an idle relay, unless the expiry was overtaken. -/
theorem Sound.idle_iff {i : Nat} {c : Completion Unit} (hc : w.raised i = some c) :
    w.Idle ↔ ¬w.Overtaken c := by
  unfold raised at hc
  split at hc
  · cases hc
  · next hd =>
    have hexp := h.expiry (Bool.eq_false_iff.2 hd)
    unfold Idle Overtaken
    constructor
    · intro hi ho
      omega
    · intro hnot
      cases hs : w.timer.superseded c with
      | true =>
        have hlate : ¬w.now < w.lastForwarded + w.timeout := fun hlt => hnot ⟨hs, hlt⟩
        omega
      | false =>
        have hdue := h.current.of_expiry? hc hs
        omega

end WatchSteps

end InactivityWatch

/-! ## Errors of the transports -/

/-- The errors a pump tells apart. -/
inductive IoError where
  | eof
  | streamTruncated
  | connectionReset
  | brokenPipe
  | operationAborted
  | invalidArgument
  | other
deriving DecidableEq

variable (error : IoError)

def isEndOfStream : Bool :=
  error = .eof ∨ error = .streamTruncated

def isNormalDisconnect : Bool :=
  isEndOfStream error ∨ error = .connectionReset ∨ error = .brokenPipe ∨
    error = .operationAborted

def isGracefulEof : Bool :=
  error = .eof ∨ error = .streamTruncated ∨ error = .connectionReset ∨ error = .brokenPipe ∨
    error = .operationAborted

/-! ## Bytes -/

/-- The two pumps. -/
inductive RelayDirection where
  | tlsToTcp
  | tcpToTls
deriving DecidableEq

/-- One of the coroutines `pump_tls_to_tcp` and `pump_tcp_to_tls`. -/
inductive Pump where
  | reading
  /-- Bytes are written that were read, possibly together with an error. -/
  | writing (bytes : Nat) (readError : Option IoError)
  | finished
deriving DecidableEq

structure RelayStats where
  tlsToTcpBytes : Nat
  tcpToTlsBytes : Nat
  duration : Nat
deriving DecidableEq

/-- A relay between a TLS stream and a TCP socket. -/
structure RelayOperation where
  watch : InactivityWatch
  started : Nat
  pumps : RelayDirection → Pump
  bytes : RelayDirection → Nat
  /-- The side that is written to has been shut down for sending. -/
  shutdownSend : RelayDirection → Bool
  failure : Option Error
  finishedDirections : Nat
  /-- Both sockets are open. -/
  isOpen : Bool
  /-- The completion timer has been cancelled: `run` goes on. -/
  completed : Bool
  result : Option (Result RelayStats)

/-- A completion, or a step of the watch. -/
inductive RelayOperationEvent where
  | advance (time : Nat)
  | expire
  | begin
  | resume (i : Nat)
  | readDone (direction : RelayDirection) (bytes : Nat) (error : Option IoError)
  | writeDone (direction : RelayDirection) (written : Nat) (error : Option IoError)
  /-- A pump, or the watcher, ends with an exception. -/
  | pumpThrows (direction : RelayDirection)
  | watcherThrows (i : Nat)
  | runGoesOn

namespace RelayOperation

/-- `run`, up to the wait for the completion timer. -/
def start (inactivityTimeout now : Nat) : RelayOperation where
  watch := .start inactivityTimeout now
  started := now
  pumps := fun _ => .reading
  bytes := fun _ => 0
  shutdownSend := fun _ => false
  failure := none
  finishedDirections := 0
  isOpen := true
  completed := false
  result := none

section Relay

variable (s : RelayOperation)

def signal (e : WatchEvent) : RelayOperation :=
  { s with watch := s.watch.step e }

variable (direction : RelayDirection)

def setPump (pump : Pump) : RelayOperation :=
  { s with pumps := Function.update s.pumps direction pump }

def setFailure (error : Error) : RelayOperation :=
  if s.failure.isNone then { s with failure := some error } else s

def closeBoth : RelayOperation :=
  { s with isOpen := false }

def finishDirection (failure : Option Error) : RelayOperation :=
  if s.watch.done then s
  else
    let failed := match failure with
      | none => s
      | some error => (s.setFailure error).closeBoth
    let counted := { failed with finishedDirections := failed.finishedDirections + 1 }
    if 2 ≤ counted.finishedDirections then { counted.signal .finish with completed := true }
    else counted

def finishDirectionAndClose : RelayOperation :=
  s.closeBoth.finishDirection none

def finishWriteError (error : Option IoError) (message : String) : RelayOperation :=
  if error.any isNormalDisconnect then s.finishDirectionAndClose
  else s.finishDirection (some ⟨.connectionFailed, message⟩)

def readFailed : RelayDirection → String
  | .tlsToTcp => "TLS relay read failed"
  | .tcpToTls => "local TCP relay read failed"

def writeFailed : RelayDirection → String
  | .tlsToTcp => "local TCP relay write failed"
  | .tcpToTls => "TLS relay write failed"

def pumpFailed : RelayDirection → String
  | .tlsToTcp => "TLS-to-TCP relay direction failed unexpectedly"
  | .tcpToTls => "TCP-to-TLS relay direction failed unexpectedly"

/-- The end of a round of a pump: what it has read is forwarded. -/
def afterRead :
    Option IoError → RelayOperation
  | none => s.setPump direction .reading
  | some error =>
    let s := s.setPump direction .finished
    if isEndOfStream error then
      { s with shutdownSend := Function.update s.shutdownSend direction true }.finishDirection none
    else if isNormalDisconnect error then s.finishDirectionAndClose
    else s.finishDirection (some ⟨.connectionFailed, readFailed direction⟩)

/-- The bytes of a pump have been written. -/
def forwarded (written : Nat) : RelayOperation :=
  { s with bytes := Function.update s.bytes direction (s.bytes direction + written) }.signal .note

def step : RelayOperationEvent → RelayOperation
  | .advance time => s.signal (.advance time)
  | .expire => s.signal .expire
  | .begin => s.signal .begin
  | .resume i =>
    if (s.watch.raised i).isSome then
      ((s.signal (.resume i)).setFailure
        ⟨.connectionTimeout, "TCP relay inactivity timeout expired"⟩).closeBoth
    else s.signal (.resume i)
  | .readDone direction bytes error =>
    if s.pumps direction = .reading then
      if 0 < bytes then s.setPump direction (.writing bytes error) else s.afterRead direction error
    else s
  | .writeDone direction written error =>
    match s.pumps direction with
    | .writing bytes readError =>
      if error.isSome ∨ written ≠ bytes then
        (s.setPump direction .finished).finishWriteError error (writeFailed direction)
      else (s.forwarded direction written).afterRead direction readError
    | _ => s
  | .pumpThrows direction =>
    if s.pumps direction = .finished then s
    else
      (s.setPump direction .finished).finishDirection (some ⟨.internalError, pumpFailed direction⟩)
  | .watcherThrows i =>
    if s.watch.timer.queue.length ≤ i then s
    else
      ((s.signal (.throw i)).setFailure
        ⟨.internalError, "relay inactivity monitor failed unexpectedly"⟩).closeBoth
  | .runGoesOn =>
    if s.completed ∧ s.result.isNone then
      let s := s.signal .finish
      { s with
        result := some (match s.failure with
          | some error => .error error
          | none => .ok ⟨s.bytes .tlsToTcp, s.bytes .tcpToTls, s.watch.now - s.started⟩) }
    else s

/-- The expiry for which the event raises the inactivity failure. -/
def raised : RelayOperationEvent → Option (Completion Unit)
  | .resume i => s.watch.raised i
  | _ => none

@[simp] theorem watch_setFailure (err : Error) : (s.setFailure err).watch = s.watch := by
  unfold setFailure
  split
  · rfl
  · rfl

/-- Whatever a direction ends with, the watch goes on as it was or is finished. -/
theorem watch_finishDirection (failure : Option Error) :
    ∃ es, (s.finishDirection failure).watch = exec InactivityWatch.step s.watch es := by
  unfold finishDirection
  split
  · exact ⟨[], rfl⟩
  · have hf : ∀ failed : RelayOperation, failed.watch = s.watch →
        ∃ es, (if 2 ≤ failed.finishedDirections + 1 then
            { { failed with
                finishedDirections := failed.finishedDirections + 1 }.signal .finish with
              completed := true }
          else { failed with finishedDirections := failed.finishedDirections + 1 }).watch =
            exec InactivityWatch.step s.watch es := by
      intro failed hw
      split
      · refine ⟨[.finish], ?_⟩
        rw [hw]
        rfl
      · exact ⟨[], hw⟩
    cases failure with
    | none => exact hf s rfl
    | some err => exact hf _ (watch_setFailure s err)

theorem watch_finishWriteError (err : Option IoError) (msg : String) :
    ∃ es, (s.finishWriteError err msg).watch = exec InactivityWatch.step s.watch es := by
  unfold finishWriteError
  split
  · exact watch_finishDirection s.closeBoth none
  · exact watch_finishDirection s _

theorem watch_afterRead (err : Option IoError) :
    ∃ es, (s.afterRead direction err).watch = exec InactivityWatch.step s.watch es := by
  cases err with
  | none => exact ⟨[], rfl⟩
  | some err =>
    simp only [afterRead]
    split
    · exact watch_finishDirection _ none
    · split
      · exact watch_finishDirection _ none
      · exact watch_finishDirection _ _

theorem watch_step (e : RelayOperationEvent) :
    ∃ es, (s.step e).watch = exec InactivityWatch.step s.watch es := by
  cases e with
  | advance time => exact ⟨[.advance time], rfl⟩
  | expire => exact ⟨[.expire], rfl⟩
  | begin => exact ⟨[.begin], rfl⟩
  | resume i =>
    refine ⟨[.resume i], ?_⟩
    simp only [step]
    split
    · exact watch_setFailure _ _
    · rfl
  | readDone direction bytes err =>
    simp only [step]
    split
    · split
      · exact ⟨[], rfl⟩
      · exact watch_afterRead s direction err
    · exact ⟨[], rfl⟩
  | writeDone direction written err =>
    simp only [step]
    split
    · split
      · exact watch_finishWriteError _ err _
      · obtain ⟨es, hes⟩ := watch_afterRead (s.forwarded direction written) direction _
        exact ⟨.note :: es, hes⟩
    · exact ⟨[], rfl⟩
  | pumpThrows direction =>
    simp only [step]
    split
    · exact ⟨[], rfl⟩
    · exact watch_finishDirection _ _
  | watcherThrows i =>
    simp only [step]
    split
    · exact ⟨[], rfl⟩
    · exact ⟨[.throw i], watch_setFailure _ _⟩
  | runGoesOn =>
    simp only [step]
    split
    · exact ⟨[.finish], rfl⟩
    · exact ⟨[], rfl⟩

end Relay

end RelayOperation

/-! ## Datagrams -/

/-- The coroutine `pump_stream_to_udp`. -/
inductive StreamPump where
  | readingHeader
  | readingPayload (length : Nat)
  | sending (length : Nat)
  | finished
deriving DecidableEq

/-- The coroutine `pump_udp_to_stream`. -/
inductive UdpPump where
  | receiving
  | writing (received : Nat)
  | finished
deriving DecidableEq

def kDatagramRecordHeaderSize : Nat := 2

structure DatagramRelayStats where
  tlsToUdpBytes : Nat
  udpToTlsBytes : Nat
  tlsToUdpDatagrams : Nat
  udpToTlsDatagrams : Nat
  duration : Nat
deriving DecidableEq

/-- A relay between records of a stream and datagrams. -/
structure DatagramRelayOperation where
  watch : InactivityWatch
  started : Nat
  streamToUdp : StreamPump
  udpToStream : UdpPump
  stats : DatagramRelayStats
  failure : Option Error
  isOpen : Bool
  completed : Bool
  result : Option (Result DatagramRelayStats)

/-- A completion, or a step of the watch. -/
inductive DatagramRelayEvent where
  | advance (time : Nat)
  | expire
  | begin
  | resume (i : Nat)
  | headerRead (read : Nat) (high low : UInt8) (error : Option IoError)
  | payloadRead (read : Nat) (error : Option IoError)
  | datagramSent (sent : Nat) (error : Option IoError)
  | datagramReceived (received : Nat) (error : Option IoError)
  | recordWritten (written : Nat) (error : Option IoError)
  | streamPumpThrows
  | udpPumpThrows
  | watcherThrows (i : Nat)
  | runGoesOn

namespace DatagramRelayOperation

def start (inactivityTimeout now : Nat) : DatagramRelayOperation where
  watch := .start inactivityTimeout now
  started := now
  streamToUdp := .readingHeader
  udpToStream := .receiving
  stats := ⟨0, 0, 0, 0, 0⟩
  failure := none
  isOpen := true
  completed := false
  result := none

section DatagramRelay

variable (s : DatagramRelayOperation)

def signal (e : WatchEvent) : DatagramRelayOperation :=
  { s with watch := s.watch.step e }

def finish : DatagramRelayOperation :=
  if s.watch.done then s else { s.signal .finish with isOpen := false, completed := true }

def fail (code : ErrorCode) (message : String) : DatagramRelayOperation :=
  (if s.failure.isNone then { s with failure := some ⟨code, message⟩ } else s).finish

variable (error : Option IoError) (message : String)

def finishTransport : DatagramRelayOperation :=
  if error.all isGracefulEof then s.finish else s.fail .connectionFailed message

/-- The pump from the stream returns after an operation that failed. -/
def endStreamPump : DatagramRelayOperation :=
  { s with streamToUdp := .finished }.finishTransport error message

def endUdpPump : DatagramRelayOperation :=
  { s with udpToStream := .finished }.finishTransport error message

def step : DatagramRelayEvent → DatagramRelayOperation
  | .advance time => s.signal (.advance time)
  | .expire => s.signal .expire
  | .begin => s.signal .begin
  | .resume i =>
    if (s.watch.raised i).isSome then
      (s.signal (.resume i)).fail .connectionTimeout "UDP relay inactivity timeout expired"
    else s.signal (.resume i)
  | .headerRead read high low error =>
    if s.streamToUdp = .readingHeader then
      let length := high.toNat * 256 + low.toNat
      if error.isSome ∨ read ≠ kDatagramRecordHeaderSize then
        s.endStreamPump error "UDP relay record header read failed"
      else if Server.kMaximumUdpPayloadSize < length then
        s.endStreamPump (some .invalidArgument) "UDP relay record length exceeds the protocol limit"
      else if length ≠ 0 then { s with streamToUdp := .readingPayload length }
      else { s with streamToUdp := .sending length }
    else s
  | .payloadRead read error =>
    match s.streamToUdp with
    | .readingPayload length =>
      if error.isSome ∨ read ≠ length then
        s.endStreamPump error "UDP relay record payload read failed"
      else { s with streamToUdp := .sending length }
    | _ => s
  | .datagramSent sent error =>
    match s.streamToUdp with
    | .sending length =>
      if error.isSome ∨ sent ≠ length then s.endStreamPump error "local UDP send failed"
      else
        { s with
          streamToUdp := .readingHeader
          stats := { s.stats with
            tlsToUdpBytes := s.stats.tlsToUdpBytes + sent
            tlsToUdpDatagrams := s.stats.tlsToUdpDatagrams + 1 } }.signal .note
    | _ => s
  | .datagramReceived received error =>
    if s.udpToStream = .receiving then
      if error.isSome then s.endUdpPump error "local UDP receive failed"
      else { s with udpToStream := .writing received }
    else s
  | .recordWritten written error =>
    match s.udpToStream with
    | .writing received =>
      if error.isSome ∨ written ≠ received + kDatagramRecordHeaderSize then
        s.endUdpPump error "UDP relay record write failed"
      else
        { s with
          udpToStream := .receiving
          stats := { s.stats with
            udpToTlsBytes := s.stats.udpToTlsBytes + received
            udpToTlsDatagrams := s.stats.udpToTlsDatagrams + 1 } }.signal .note
    | _ => s
  | .streamPumpThrows =>
    if s.streamToUdp = .finished then s
    else
      { s with streamToUdp := .finished }.fail .internalError
        "stream-to-UDP relay failed unexpectedly"
  | .udpPumpThrows =>
    if s.udpToStream = .finished then s
    else
      { s with udpToStream := .finished }.fail .internalError
        "UDP-to-stream relay failed unexpectedly"
  | .watcherThrows i =>
    if s.watch.timer.queue.length ≤ i then s
    else
      (s.signal (.throw i)).fail .internalError "UDP relay inactivity monitor failed unexpectedly"
  | .runGoesOn =>
    if s.completed ∧ s.result.isNone then
      let s := s.signal .finish
      { s with
        result := some (match s.failure with
          | some error => .error error
          | none => .ok { s.stats with duration := s.watch.now - s.started }) }
    else s

/-- The expiry for which the event raises the inactivity failure. -/
def raised : DatagramRelayEvent → Option (Completion Unit)
  | .resume i => s.watch.raised i
  | _ => none

theorem watch_finish : ∃ es, s.finish.watch = exec InactivityWatch.step s.watch es := by
  unfold finish
  split
  · exact ⟨[], rfl⟩
  · exact ⟨[.finish], rfl⟩

theorem watch_fail (code : ErrorCode) (msg : String) :
    ∃ es, (s.fail code msg).watch = exec InactivityWatch.step s.watch es := by
  unfold fail
  split
  · exact watch_finish _
  · exact watch_finish s

theorem watch_finishTransport (err : Option IoError) (msg : String) :
    ∃ es, (s.finishTransport err msg).watch = exec InactivityWatch.step s.watch es := by
  unfold finishTransport
  split
  · exact watch_finish s
  · exact watch_fail s _ _

theorem watch_step (e : DatagramRelayEvent) :
    ∃ es, (s.step e).watch = exec InactivityWatch.step s.watch es := by
  cases e with
  | advance time => exact ⟨[.advance time], rfl⟩
  | expire => exact ⟨[.expire], rfl⟩
  | begin => exact ⟨[.begin], rfl⟩
  | resume i =>
    simp only [step]
    split
    · obtain ⟨es, hes⟩ := watch_fail (s.signal (.resume i)) .connectionTimeout
        "UDP relay inactivity timeout expired"
      exact ⟨.resume i :: es, hes⟩
    · exact ⟨[.resume i], rfl⟩
  | headerRead read high low err =>
    simp only [step]
    split
    · split
      · exact watch_finishTransport _ err _
      · split
        · exact watch_finishTransport _ _ _
        · split
          · exact ⟨[], rfl⟩
          · exact ⟨[], rfl⟩
    · exact ⟨[], rfl⟩
  | payloadRead _ err | datagramReceived _ err =>
    simp only [step]
    split
    · split
      · exact watch_finishTransport _ err _
      · exact ⟨[], rfl⟩
    · exact ⟨[], rfl⟩
  | datagramSent _ err | recordWritten _ err =>
    simp only [step]
    split
    · split
      · exact watch_finishTransport _ err _
      · exact ⟨[.note], rfl⟩
    · exact ⟨[], rfl⟩
  | streamPumpThrows | udpPumpThrows =>
    simp only [step]
    split
    · exact ⟨[], rfl⟩
    · exact watch_fail _ _ _
  | watcherThrows i =>
    simp only [step]
    split
    · exact ⟨[], rfl⟩
    · obtain ⟨es, hes⟩ := watch_fail (s.signal (.throw i)) .internalError
        "UDP relay inactivity monitor failed unexpectedly"
      exact ⟨.throw i :: es, hes⟩
  | runGoesOn =>
    simp only [step]
    split
    · exact ⟨[.finish], rfl⟩
    · exact ⟨[], rfl⟩

end DatagramRelay

end DatagramRelayOperation

/-! ## Runs -/

/-- Along every run of a system whose steps are runs of a watch, the failures are raised for an
idle relay exactly if none is raised for an expiry that was overtaken. -/
theorem idle_run_iff {σ ε : Type*} {step : σ → ε → σ} {watch : σ → InactivityWatch}
    {raised : σ → ε → Option (Completion Unit)}
    (hw : ∀ s e, ∃ es, watch (step s e) = exec InactivityWatch.step (watch s) es)
    (hr : ∀ s e c, raised s e = some c → ∃ i, (watch s).raised i = some c)
    {s : σ} (hs : (watch s).Sound) (run : List ε) :
    AllSteps step (fun s e => ∀ c, raised s e = some c → (watch s).Idle) s run ↔
      AllSteps step (fun s e => ∀ c, raised s e = some c → ¬(watch s).Overtaken c) s run := by
  have hst : ∀ s e, (watch s).Sound → True → (watch (step s e)).Sound := by
    intro s e hsnd _
    obtain ⟨es, hes⟩ := hw s e
    rw [hes]
    exact hsnd.exec es
  apply allSteps_congr_of_invariant hst
  · intro s e hsnd
    apply forall_congr'
    intro c
    apply imp_congr_right
    intro hc
    obtain ⟨i, hi⟩ := hr s e c hc
    exact hsnd.idle_iff hi
  · exact hs
  · intro _ _
    trivial

end MiniTun.Protocol
