import MiniTun.Server.PublicIngress

/-!
# UDP listeners and their peer sessions

A UDP listener counts the datagrams that it has taken in and that are not yet written to a
bridge, against a limit of its own and one of the registry.  The queue is the peer session's,
which has a strand of its own: records are posted to it, and what it has written or
dropped is posted back and taken off the counters there.

A step is one handler: a completion, a posted task or a call from outside.  Tasks that are
posted may run in any order.  Counters are of 64 bits and note whether they have wrapped; the
budget of the registry notes whether a release was clamped.  What the sessions read from their
bridges and send to the public is not modelled, but for the fact that it can fail.
-/

namespace MiniTun.Server

open KeyedMap

/-- A `std::size_t` that is counted up and down. -/
structure SizeCounter where
  value : Nat
  wrapped : Bool
deriving DecidableEq

namespace SizeCounter

def zero : SizeCounter := ⟨0, false⟩

def add (c : SizeCounter) (n : Nat) : SizeCounter :=
  ⟨(c.value + n) % 2 ^ 64, c.wrapped || decide (2 ^ 64 ≤ c.value + n)⟩

def sub (c : SizeCounter) (n : Nat) : SizeCounter :=
  ⟨(c.value + (2 ^ 64 - n % 2 ^ 64)) % 2 ^ 64, c.wrapped || decide (c.value < n)⟩

end SizeCounter

/-- Datagrams and their bytes. -/
structure IngressAmount where
  datagrams : Nat
  bytes : Nat
deriving DecidableEq

/-- The two counters of a listener, and those of the registry. -/
structure IngressTally where
  datagrams : SizeCounter
  bytes : SizeCounter
deriving DecidableEq

namespace IngressTally

def zero : IngressTally := ⟨.zero, .zero⟩

variable (t : IngressTally) (a : IngressAmount)

def add : IngressTally :=
  ⟨t.datagrams.add a.datagrams, t.bytes.add a.bytes⟩

def sub : IngressTally :=
  ⟨t.datagrams.sub a.datagrams, t.bytes.sub a.bytes⟩

/-- As much of the amount as there is. -/
def atMost : IngressAmount :=
  ⟨min t.datagrams.value a.datagrams, min t.bytes.value a.bytes⟩

/-- One more datagram with so many bytes is within the limits. -/
def hasRoom (limit : IngressAmount) (bytes : Nat) : Bool :=
  t.datagrams.value < limit.datagrams ∧ bytes ≤ limit.bytes - min t.bytes.value limit.bytes

end IngressTally

structure UdpIngressBudget where
  queued : IngressTally
  clamped : Bool

namespace UdpIngressBudget

/-- `kMaximumDatagrams` and `kMaximumBytes`. -/
def limit : IngressAmount := ⟨8192, 64 * 1024 * 1024⟩

def reserve (b : UdpIngressBudget) (bytes : Nat) : Option UdpIngressBudget :=
  if b.queued.hasRoom limit bytes then some { b with queued := b.queued.add ⟨1, bytes⟩ } else none

def release (b : UdpIngressBudget) (a : IngressAmount) : UdpIngressBudget :=
  { queued := b.queued.sub (b.queued.atMost a)
    clamped := b.clamped || decide (b.queued.atMost a ≠ a) }

end UdpIngressBudget

/-- What is posted to the executor of a listener. -/
inductive ListenerTask where
  | releaseIngress (amount : IngressAmount)
  | peerFinished (key : Bytes) (session : Nat)
deriving DecidableEq

/-- What is posted to the strand of a peer session. -/
inductive PeerTask where
  | enqueue (record : Bytes)
  | close
deriving DecidableEq

/-- `UdpListener::PeerSession`.  `outstanding` is an `async_write` that has not completed. -/
structure UdpSession where
  owner : Nat
  key : Bytes
  queue : List Bytes
  queuedBytes : SizeCounter
  writing : Bool
  outstanding : Bool
  stopped : Bool
  tasks : List PeerTask

namespace UdpSession

/-- `kMaximumPeerQueuedDatagrams` and `kMaximumPeerQueuedBytes`. -/
def limit : IngressAmount := ⟨64, 512 * 1024⟩

def new (owner : Nat) (key : Bytes) : UdpSession :=
  ⟨owner, key, [], .zero, false, false, false, []⟩

/-- `release_ingress`: what is posted to the owner. -/
def releaseIngress (a : IngressAmount) : List ListenerTask :=
  if a.datagrams = 0 then [] else [.releaseIngress a]

section Session

variable (p : UdpSession)

def close (self : Nat) : UdpSession × List ListenerTask :=
  if p.stopped then (p, [])
  else
    ({ p with stopped := true, queue := [], queuedBytes := ⟨0, p.queuedBytes.wrapped⟩ },
      releaseIngress ⟨p.queue.length, p.queuedBytes.value⟩ ++ [.peerFinished p.key self])

def writeNext : UdpSession :=
  if p.stopped ∨ p.queue = [] then { p with writing := false }
  else { p with writing := true, outstanding := true }

def enqueue (record : Bytes) : UdpSession × List ListenerTask :=
  if p.stopped ∨ limit.datagrams ≤ p.queue.length ∨
      limit.bytes - min p.queuedBytes.value limit.bytes < record.length then
    (p, releaseIngress ⟨1, record.length⟩)
  else
    let p' := { p with
      queue := p.queue ++ [record]
      queuedBytes := p.queuedBytes.add record.length }
    (if p'.writing then p' else p'.writeNext, [])

/-- The completion of the write of the first record. -/
def written (self : Nat) (error : Bool) (bytes : Nat) : UdpSession × List ListenerTask :=
  match p.queue with
  | [] => p.close self
  | front :: rest =>
    if error ∨ bytes ≠ front.length then p.close self
    else
      ({ p with queue := rest, queuedBytes := p.queuedBytes.sub front.length }.writeNext,
        releaseIngress ⟨1, front.length⟩)

def run (self : Nat) : PeerTask → UdpSession × List ListenerTask
  | .enqueue record => p.enqueue record
  | .close => p.close self

end Session

end UdpSession

/-- The receive operation of a listener: a completion waits in the queue of the executor
until its handler runs. -/
inductive UdpReceive where
  | idle
  | waiting
  | completed (peer : PublicPeer) (payload : Bytes)
  | failed
  | aborted
deriving DecidableEq

structure UdpListener where
  isOpen : Bool
  receive : UdpReceive
  retry : Bool
  queuedIngress : IngressTally
  maxPeerSessions : Nat
  peers : Map Bytes Nat
  tasks : List ListenerTask
  destroyed : Bool

namespace UdpListener

/-- `kMaximumQueuedDatagrams` and `kMaximumQueuedBytes`. -/
def limit : IngressAmount := ⟨1024, 8 * 1024 * 1024⟩

def receiveNext (l : UdpListener) : UdpListener :=
  if l.isOpen then { l with receive := .waiting } else l

def new (maxPeerSessions : Nat) : UdpListener where
  isOpen := true
  receive := .waiting
  retry := false
  queuedIngress := .zero
  maxPeerSessions := if maxPeerSessions = 0 then 128 else maxPeerSessions
  peers := ∅
  tasks := []
  destroyed := false

/-- The socket is closed: an operation that has not completed is aborted. -/
def closeSocket (l : UdpListener) : UdpListener :=
  { l with
    isOpen := false
    receive := if l.receive = .waiting then .aborted else l.receive }

end UdpListener

/-- The UDP listeners of a registry, their peer sessions and the budget they share.
`delivered` is the history: the listeners for which a peer session was made and the connection
handler called. -/
structure UdpIngress where
  budget : UdpIngressBudget
  listeners : Map Nat UdpListener
  sessions : Map Nat UdpSession
  delivered : List Nat

inductive UdpIngressEvent where
  | listen (listener maxPeerSessions : Nat)
  /-- The operating system completes a receive operation. -/
  | arrive (listener : Nat) (peer : PublicPeer) (payload : Bytes)
  | fault (listener : Nat)
  /-- The handler of a receive operation runs.  `paired` says whether a socket pair can be made,
  `session` names the peer session it may make. -/
  | receive (listener : Nat) (paired : Bool) (session : Nat)
  | retry (listener : Nat)
  | stop (listener : Nat)
  | runListener (listener : Nat) (task : ListenerTask)
  | runSession (session : Nat) (task : PeerTask)
  | written (session : Nat) (error : Bool) (bytes : Nat)
  /-- The session cannot read from its bridge, or finds its owner gone. -/
  | readFails (session : Nat)
  /-- The last reference to a listener is dropped. -/
  | destroy (listener : Nat)

namespace UdpIngress

def initial : UdpIngress := ⟨⟨.zero, false⟩, ∅, ∅, []⟩

section Ingress

variable (s : UdpIngress)

section Listener

variable (listener : Nat)

/-- Tasks are posted to the owner of a session, if it still exists. -/
def postListener (tasks : List ListenerTask) : UdpIngress :=
  match s.listeners.lookup listener with
  | none => s
  | some l =>
    if l.destroyed then s
    else { s with listeners := s.listeners.insert listener { l with tasks := l.tasks ++ tasks } }

def postSession (session : Nat) (task : PeerTask) : UdpIngress :=
  match s.sessions.lookup session with
  | none => s
  | some p =>
    { s with sessions := s.sessions.insert session { p with tasks := p.tasks ++ [task] } }

def putSession (session : Nat) (result : UdpSession × List ListenerTask) : UdpIngress :=
  { s with sessions := s.sessions.insert session result.1 }.postListener result.1.owner result.2

def reserveIngress (l : UdpListener) (bytes : Nat) : Option UdpIngress :=
  if l.queuedIngress.hasRoom UdpListener.limit bytes then
    (s.budget.reserve bytes).map fun budget =>
      { s with
        budget := budget
        listeners := s.listeners.insert listener
          { l with queuedIngress := l.queuedIngress.add ⟨1, bytes⟩ } }
  else none

def releaseIngressNow (a : IngressAmount) : UdpIngress :=
  match s.listeners.lookup listener with
  | none => s
  | some l =>
    let released := l.queuedIngress.atMost a
    { s with
      budget := s.budget.release released
      listeners := s.listeners.insert listener
        { l with queuedIngress := l.queuedIngress.sub released } }

/-- A peer session is made for a new peer, and the connection handler called. -/
def addSession (key : Bytes) (session : Nat) : UdpIngress :=
  match s.listeners.lookup listener with
  | none => s
  | some l =>
    { s with
      listeners := s.listeners.insert listener { l with peers := l.peers.insert key session }
      sessions := s.sessions.insert session (.new listener key)
      delivered := s.delivered ++ [listener] }

/-- `UdpListener::handle_datagram`. -/
def handleDatagram (net : AddressText) (s : UdpIngress) (listener : Nat) (l : UdpListener)
    (peer : PublicPeer) (payload : Bytes) (paired : Bool) (session : Nat) : UdpIngress :=
  match encodeDatagramRecord payload with
  | .error _ => s
  | .ok record =>
    match s.reserveIngress listener l record.length with
    | none => s
    | some reserved =>
      match l.peers.lookup (peerKey net peer) with
      | some found => reserved.postSession found (.enqueue record)
      | none =>
        if l.maxPeerSessions ≤ size l.peers ∨ paired = false then
          reserved.releaseIngressNow listener ⟨1, record.length⟩
        else
          (reserved.addSession listener (peerKey net peer) session).postSession session
            (.enqueue record)

def update (f : UdpListener → UdpListener) : UdpIngress :=
  match s.listeners.lookup listener with
  | none => s
  | some l => { s with listeners := s.listeners.insert listener (f l) }

theorem lookup_update {s : UdpIngress} {listener : Nat} (f : UdpListener → UdpListener)
    {l : UdpListener} (hl : s.listeners.lookup listener = some l) :
    (s.update listener f).listeners.lookup listener = some (f l) := by
  unfold update
  rw [hl]
  exact AList.lookup_insert _

/-- The handler of a receive operation that has completed. -/
def receive (net : AddressText) (s : UdpIngress) (listener : Nat) (l : UdpListener)
    (paired : Bool) (session : Nat) : UdpIngress :=
  let s' := s.update listener fun l => { l with receive := .idle }
  match l.receive with
  | .completed peer payload =>
    (s'.handleDatagram net listener { l with receive := .idle } peer payload paired session).update
      listener UdpListener.receiveNext
  | .failed => s'.update listener fun l => { l with retry := l.isOpen }
  | .aborted => s'
  | .idle | .waiting => s

/-- `UdpListener::stop`. -/
def stop (l : UdpListener) : UdpIngress :=
  let closed := s.update listener fun l => { l.closeSocket with peers := ∅ }
  let stopped := (l.peers.entries.map (·.2)).foldl (·.postSession · .close) closed
  stopped.releaseIngressNow listener ⟨l.queuedIngress.datagrams.value, l.queuedIngress.bytes.value⟩

def runListener : ListenerTask → UdpIngress
  | .releaseIngress a => s.releaseIngressNow listener a
  | .peerFinished key session =>
    s.update listener fun l =>
      if l.peers.lookup key = some session then { l with peers := l.peers.erase key } else l

end Listener

/-- Nothing refers to the listener: neither the registry nor an operation or a task. -/
def unreferenced (l : UdpListener) : Bool :=
  l.isOpen = false ∧ l.receive = .idle ∧ l.retry = false ∧ l.tasks = []

def listenerStep (net : AddressText) (s : UdpIngress) (listener : Nat) (l : UdpListener) :
    UdpIngressEvent → UdpIngress
  | .arrive _ peer payload =>
    if l.receive = .waiting ∧ payload.length ≤ kMaximumUdpPayloadSize then
      s.update listener fun l => { l with receive := .completed peer payload }
    else s
  | .fault _ =>
    if l.receive = .waiting then s.update listener fun l => { l with receive := .failed } else s
  | .receive _ paired session =>
    match s.sessions.lookup session with
    | none => s.receive net listener l paired session
    | some _ => s
  | .retry _ =>
    if l.retry then s.update listener fun l => { l with retry := false }.receiveNext else s
  | .stop _ => s.stop listener l
  | .runListener _ task =>
    if task ∈ l.tasks then
      (s.update listener fun l => { l with tasks := l.tasks.erase task }).runListener listener task
    else s
  | .destroy _ =>
    if unreferenced l then (s.stop listener l).update listener fun l => { l with destroyed := true }
    else s
  | _ => s

def sessionStep (session : Nat) (p : UdpSession) : UdpIngressEvent → UdpIngress
  | .runSession _ task =>
    if task ∈ p.tasks then
      s.putSession session ({ p with tasks := p.tasks.erase task }.run session task)
    else s
  | .written _ error bytes =>
    if p.outstanding then
      s.putSession session ({ p with outstanding := false }.written session error bytes)
    else s
  | .readFails _ => s.putSession session (p.close session)
  | _ => s

end Ingress

end UdpIngress

/-- The listener or the session an event is about. -/
inductive UdpIngressSubject where
  | newListener (listener maxPeerSessions : Nat)
  | listener (listener : Nat)
  | session (session : Nat)

def UdpIngressEvent.subject : UdpIngressEvent → UdpIngressSubject
  | .listen listener maxPeerSessions => .newListener listener maxPeerSessions
  | .arrive listener _ _ | .fault listener | .receive listener _ _ | .retry listener
  | .stop listener | .runListener listener _ | .destroy listener => .listener listener
  | .runSession session _ | .written session _ _ | .readFails session => .session session

namespace UdpIngress

/-- A step of a listener or of one of its sessions. -/
def step (net : AddressText) (s : UdpIngress) (event : UdpIngressEvent) : UdpIngress :=
  match event.subject with
  | .newListener listener maxPeerSessions =>
    match s.listeners.lookup listener with
    | none => { s with listeners := s.listeners.insert listener (.new maxPeerSessions) }
    | some _ => s
  | .listener listener =>
    match s.listeners.lookup listener with
    | none => s
    | some l => if l.destroyed then s else s.listenerStep net listener l event
  | .session session =>
    match s.sessions.lookup session with
    | none => s
    | some p => s.sessionStep session p event

/-! ## Stopping -/

variable {s : UdpIngress} {lsn : Nat} {l : UdpListener}

theorem listeners_foldl_postClose (s : UdpIngress) (sess : List Nat) :
    (sess.foldl (·.postSession · .close) s).listeners = s.listeners ∧
      (sess.foldl (·.postSession · .close) s).delivered = s.delivered := by
  induction sess generalizing s with
  | nil => exact ⟨rfl, rfl⟩
  | cons ses sess ih =>
    obtain ⟨hlisteners, hdelivered⟩ := ih (s.postSession ses .close)
    have hpost : (s.postSession ses .close).listeners = s.listeners ∧
        (s.postSession ses .close).delivered = s.delivered := by
      unfold postSession
      split
      · exact ⟨rfl, rfl⟩
      · exact ⟨rfl, rfl⟩
    exact ⟨hlisteners.trans hpost.1, hdelivered.trans hpost.2⟩

/-- A stopped listener has no peers and counts nothing. -/
theorem lookup_stop (hl : s.listeners.lookup lsn = some l) :
    ∃ tally : IngressTally, (s.stop lsn l).listeners.lookup lsn =
        some { l.closeSocket with peers := ∅, queuedIngress := tally } ∧
      tally.datagrams.value = 0 ∧ tally.bytes.value = 0 := by
  have hempty : ∀ c : SizeCounter, (c.sub (min c.value c.value)).value = 0 := by
    intro c
    simp only [SizeCounter.sub, Nat.min_self]
    have hle := Nat.mod_lt c.value (Nat.two_pow_pos 64)
    rw [← Nat.mod_add_mod, Nat.add_sub_cancel' hle.le, Nat.mod_self]
  have hclosed := lookup_update (fun l => { l.closeSocket with peers := ∅ }) hl
  unfold stop
  dsimp only
  rw [← (listeners_foldl_postClose _ (l.peers.entries.map (·.2))).1] at hclosed
  unfold releaseIngressNow
  rw [hclosed]
  exact ⟨_, AList.lookup_insert _, hempty _, hempty _⟩

end UdpIngress

end MiniTun.Server
