import MiniTun.Server.ListenerEndpoints
import MiniTun.Server.UdpDeliveries

/-!
# Listeners that have been stopped

Stopping a listener closes its socket.  That aborts the accept or receive operation that is
under way, but not one that has already completed: its handler is in the queue of the executor
and runs with success.  The handlers of both kinds of listener look at the error only, so a
connection that was accepted before the stop is handed over after it, and a datagram that was
received before it opens a peer session of a listener the registry no longer has.

The registry, the listener objects it has made and their operations are one system here.  The
calls of the registry stop the objects where the source calls `stop()`.
-/

namespace MiniTun.Server

open KeyedMap TransitionSystem

/-- A TCP listener.  Every `accept_next` starts one more operation; operations of one stage are
alike, so they are counted. -/
structure TcpListener where
  isOpen : Bool
  /-- Accept operations that are under way. -/
  waiting : Nat
  /-- Those that have completed with a connection; their handlers have not run. -/
  accepted : Nat
  /-- Those that have failed with an error that is retried, likewise. -/
  retryable : Nat
  /-- Those that have failed with another error, likewise. -/
  failed : Nat
  /-- Waits for the retry timer. -/
  timers : Nat
deriving DecidableEq

/-- What happens to the operations of a TCP listener. -/
inductive TcpEvent where
  /-- The operating system completes an accept operation. -/
  | accepts
  | fails (retryable : Bool)
  /-- The handler of an operation runs. -/
  | handleAccepted
  | handleRetryable
  | handleFailed
  /-- The handler of a wait for the retry timer runs. -/
  | retry

namespace TcpListener

variable (t : TcpListener)

/-- `TcpListener::accept_next`. -/
def acceptNext : TcpListener :=
  if t.isOpen then { t with waiting := t.waiting + 1 } else t

/-- The listener that `start` leaves. -/
def new : TcpListener :=
  acceptNext ⟨true, 0, 0, 0, 0, 0⟩

/-- What is under way fails with `operation_aborted`, which is not retried.  A wait that is
cancelled does nothing, and neither does one that has run out, as the acceptor is closed. -/
def stop : TcpListener :=
  { t with isOpen := false, waiting := 0, failed := t.failed + t.waiting }

/-- A completion or a handler of the accept loop. -/
def step : TcpEvent → TcpListener
  | .accepts =>
    if t.waiting = 0 then t
    else { t with waiting := t.waiting - 1, accepted := t.accepted + 1 }
  | .fails true =>
    if t.waiting = 0 then t
    else { t with waiting := t.waiting - 1, retryable := t.retryable + 1 }
  | .fails false =>
    if t.waiting = 0 then t else { t with waiting := t.waiting - 1, failed := t.failed + 1 }
  | .handleAccepted =>
    if t.accepted = 0 then t else { t with accepted := t.accepted - 1 }.acceptNext
  | .handleRetryable =>
    if t.retryable = 0 then t
    else { t with retryable := t.retryable - 1, timers := t.timers + 1 }
  | .handleFailed => if t.failed = 0 then t else { t with failed := t.failed - 1 }.acceptNext
  | .retry => if t.timers = 0 then t else { t with timers := t.timers - 1 }.acceptNext

/-- How often an event calls the connection handler. -/
def calls : TcpEvent → Nat
  | .handleAccepted => if t.accepted = 0 then 0 else 1
  | _ => 0

/-- The operations that keep the accept loop going. -/
def operations : Nat :=
  t.waiting + t.accepted + t.retryable + t.failed + t.timers

variable {t}

theorem isOpen_acceptNext : t.acceptNext.isOpen = t.isOpen := by
  unfold acceptNext
  split
  · rfl
  · rfl

theorem isOpen_step (e : TcpEvent) : (t.step e).isOpen = t.isOpen := by
  cases e with
  | fails retryable =>
    cases retryable with
    | _ => simp only [step]; split <;> rfl
  | _ => simp only [step]; split <;> simp only [isOpen_acceptNext]

/-- Each handler on an open acceptor starts as many operations as it ends. -/
theorem operations_step (hopen : t.isOpen = true) (e : TcpEvent) :
    (t.step e).operations = t.operations := by
  cases e with
  | fails retryable =>
    cases retryable with
    | _ => simp only [step]; split <;> simp only [operations]; omega
  | _ => simp only [step, acceptNext, hopen, if_true]; split <;> simp only [operations]; omega

/-- A closed acceptor starts no operation, and hands over only what it has accepted. -/
theorem step_of_closed (hclosed : t.isOpen = false) (hwaiting : t.waiting = 0) (e : TcpEvent) :
    (t.step e).waiting = 0 ∧ t.calls e + (t.step e).accepted = t.accepted := by
  cases e with
  | fails retryable =>
    cases retryable with
    | _ => simp [step, calls, hwaiting]
  | handleAccepted =>
    simp only [step, calls, acceptNext, hclosed]
    split
    · exact ⟨hwaiting, by omega⟩
    · exact ⟨hwaiting, by simp only [Bool.false_eq_true, if_false]; omega⟩
  | _ =>
    simp only [step, calls, acceptNext, hclosed, Nat.zero_add, Bool.false_eq_true, if_false]
    split
    · exact ⟨hwaiting, rfl⟩
    · exact ⟨hwaiting, rfl⟩

end TcpListener

/-- What a key of the registry points to. -/
inductive ListenerObject where
  | tcp (name : Nat)
  | udp (name : Nat)
deriving DecidableEq

def ListenerObject.name : ListenerObject → Nat
  | .tcp name | .udp name => name

/-- The registry: its bindings, the objects under the same keys, and all objects it has made,
each with a name of its own.  `handled` is the history: the TCP listeners for which the connection
handler was called. -/
structure PublicListeners where
  registry : TunnelRegistry
  objects : Map Bytes ListenerObject
  names : List Nat
  tcp : Map Nat TcpListener
  udp : UdpIngress
  maxUdpPeerSessions : Nat
  handled : List Nat

/-- A call of the registry, or a step of a listener. -/
inductive PublicEvent where
  /-- A call of the registry, with a name for the listener it may make. -/
  | call (call : TunnelRegistry.Call) (name : Nat)
  | tcp (name : Nat) (event : TcpEvent)
  | udp (event : UdpIngressEvent)

namespace PublicListeners

def initial (allowedPorts : PortRange)
    (maxTunnelsPerClient maxTotalTunnels maxUdpPeerSessions : Nat) : PublicListeners :=
  ⟨.empty allowedPorts maxTunnelsPerClient maxTotalTunnels, ∅, [], ∅, .initial,
    maxUdpPeerSessions, []⟩

/-- `listener->stop()`. -/
def stopObject (s : PublicListeners) : ListenerObject → PublicListeners
  | .tcp name =>
    match s.tcp.lookup name with
    | none => s
    | some t => { s with tcp := s.tcp.insert name t.stop }
  | .udp name =>
    match s.udp.listeners.lookup name with
    | none => s
    | some l => { s with udp := s.udp.stop name l }

/-- The listener under a key is stopped, and the key erased. -/
def stopAt (s : PublicListeners) (key : Bytes) : PublicListeners :=
  let stopped := match s.objects.lookup key with
    | none => s
    | some object => s.stopObject object
  { stopped with registry := s.registry.eraseKey key, objects := s.objects.erase key }

/-- `make_shared` of the listener for a binding. -/
def objectFor (b : TunnelBinding) (name : Nat) : ListenerObject :=
  if b.mode = .udp then .udp name else .tcp name

/-- A listener is made and started for a binding, and put under its key. -/
def start (s : PublicListeners) (name : Nat) (b : TunnelBinding) (hb : HasIdentity b) :
    PublicListeners :=
  let named := { s with
    registry := s.registry.insertBinding b hb
    objects := s.objects.insert (bindingKey b.clientId b.tunnelId) (objectFor b name)
    names := name :: s.names }
  if b.mode = .udp then
    { named with
      udp := { s.udp with
        listeners := s.udp.listeners.insert name (.new s.maxUdpPeerSessions) } }
  else { named with tcp := s.tcp.insert name .new }

section Calls

variable (net : AddressText)

/-- `TunnelRegistry::register_tunnel`, with the objects. -/
def registerTunnel (s : PublicListeners) (b : TunnelBinding) (maxForClient : Nat)
    (outcome : ListenOutcome) (name : Nat) : PublicListeners :=
  match hvalid : validateBinding net s.registry.allowedPorts b with
  | .error _ => s
  | .ok () =>
    if s.registry.maxTunnelsPerClient = 0 ∨
        TunnelRegistry.maximumTotalTunnels < s.registry.maxTunnelsPerClient ∨
        s.registry.maxTotalTunnels = 0 ∨
        TunnelRegistry.maximumTotalTunnels < s.registry.maxTotalTunnels then s
    else if s.registry.listeners.lookup (bindingKey b.clientId b.tunnelId) = some b then s
    else
      let stopped := s.stopAt (bindingKey b.clientId b.tunnelId)
      let hb := hasIdentity_of_validateBinding hvalid
      match (stopped.registry.insertNew b hb maxForClient outcome).1 with
      | .error _ => stopped
      | .ok () => stopped.start name b hb

/-- `TunnelRegistry::unregister_tunnel`, likewise. -/
def unregisterTunnel (s : PublicListeners) (clientId : Bytes) (sessionGeneration : Nat)
    (tunnelId : Bytes) (configRevision : Nat) : PublicListeners :=
  match s.registry.listeners.lookup (bindingKey clientId tunnelId) with
  | none => s
  | some b =>
    if b.sessionGeneration ≠ sessionGeneration ∨
        (configRevision ≠ 0 ∧ b.configRevision ≠ configRevision) then s
    else s.stopAt (bindingKey clientId tunnelId)

/-- The loop of `erase_matching`. -/
def eraseMatching (s : PublicListeners) (matching : TunnelBinding → Bool) : PublicListeners :=
  s.registry.listeners.entries.foldl (fun s e => if matching e.2 then s.stopAt e.1 else s) s

/-- `clear` stops all listeners before it empties the map; nothing runs in between. -/
def perform (s : PublicListeners) (call : TunnelRegistry.Call) (name : Nat) : PublicListeners :=
  match call with
  | .register b maxForClient outcome => s.registerTunnel net b maxForClient outcome name
  | .unregister clientId generation tunnelId revision =>
    s.unregisterTunnel clientId generation tunnelId revision
  | .removeSession clientId generation =>
    s.eraseMatching fun b => b.clientId = clientId ∧ b.sessionGeneration = generation
  | .removeClient clientId => s.eraseMatching fun b => b.clientId = clientId
  | .clear => s.eraseMatching fun _ => true

def step (s : PublicListeners) : PublicEvent → PublicListeners
  | .call call name => if name ∈ s.names then s else s.perform net call name
  | .tcp name event =>
    match s.tcp.lookup name with
    | none => s
    | some t =>
      { s with
        tcp := s.tcp.insert name (t.step event)
        handled := s.handled ++ List.replicate (t.calls event) name }
  | .udp event => if UdpIngress.internal event then { s with udp := s.udp.step net event } else s

end Calls

/-! ## The calls, as those of the registry alone -/

variable {s s' : PublicListeners} {object other : ListenerObject} {key : Bytes} {name : Nat}
  {net : AddressText}

theorem lookup_eraseMatching (s : PublicListeners) (matching : TunnelBinding → Bool)
    (key : Bytes) : (s.eraseMatching matching).registry.listeners.lookup key =
      (s.registry.eraseMatching matching).listeners.lookup key := by
  have hloop : ∀ (b : TunnelBinding) (entries : List (Sigma fun _ : Bytes => TunnelBinding))
      (s : PublicListeners),
      (entries.foldl (fun s e => if matching e.2 then s.stopAt e.1 else s)
        s).registry.listeners.lookup key = some b ↔
      s.registry.listeners.lookup key = some b ∧
        ∀ e ∈ entries, e.1 = key → matching e.2 = false := by
    intro b entries
    induction entries with
    | nil => simp
    | cons e entries ih =>
      intro s
      rw [List.foldl_cons, ih, List.forall_mem_cons]
      by_cases hmatch : matching e.2 = true
      · have herase : (s.stopAt e.1).registry = s.registry.eraseKey e.1 := rfl
        rw [if_pos hmatch, herase, TunnelRegistry.lookup_eraseKey, hmatch]
        by_cases hkey : key = e.1
        · simp [hkey]
        · simp [hkey, Ne.symm hkey]
      · simp [hmatch]
  apply Option.ext
  intro b
  rw [eraseMatching, hloop, TunnelRegistry.lookup_eraseMatching]
  refine and_congr_right fun hlookup => ?_
  constructor
  · intro hall
    exact hall ⟨key, b⟩ (lookup_eq_some_iff.1 hlookup) rfl
  · rintro hmatch ⟨_, b'⟩ hmem rfl
    rw [lookup_eq_some_iff.2 hmem] at hlookup
    cases hlookup
    exact hmatch

/-- The bindings change as in the model of the registry without the objects. -/
theorem lookup_perform (net : AddressText) (s : PublicListeners) (call : TunnelRegistry.Call)
    (name : Nat) (key : Bytes) : (s.perform net call name).registry.listeners.lookup key =
      (s.registry.perform net call).listeners.lookup key := by
  cases call with
  | register b maxForClient outcome =>
    simp only [perform, TunnelRegistry.perform, registerTunnel]
    split
    · next e he => rw [TunnelRegistry.registerTunnel_of_invalid he]
    · next hvalid =>
      rw [TunnelRegistry.registerTunnel_of_valid hvalid]
      split
      · rfl
      · split
        · rfl
        · have herase : (s.stopAt (bindingKey b.clientId b.tunnelId)).registry =
            s.registry.eraseKey (bindingKey b.clientId b.tunnelId) := rfl
          rcases TunnelRegistry.insertNew_cases
            (s.registry.eraseKey (bindingKey b.clientId b.tunnelId)) b
            (hasIdentity_of_validateBinding hvalid) maxForClient outcome with ⟨e, -, he⟩ | hok
          · simp only [herase, he]
          · simp only [herase, hok, start]
            split <;> rfl
  | unregister clientId generation tunnelId revision =>
    simp only [perform, TunnelRegistry.perform, unregisterTunnel,
      TunnelRegistry.unregisterTunnel]
    cases s.registry.listeners.lookup (bindingKey clientId tunnelId) with
    | none => rfl
    | some b => dsimp only; split <;> rfl
  | _ => exact lookup_eraseMatching ..

/-! ## What is followed of a listener -/

/-- The operations a listener accepts or receives with. -/
structure Operation where
  isOpen : Bool
  waiting : Bool
  /-- How many have completed with success; their handlers have not run. -/
  completed : Nat

/-- The operations of an object; one that has not been made is closed. -/
def operation (s : PublicListeners) : ListenerObject → Operation
  | .tcp name =>
    match s.tcp.lookup name with
    | none => ⟨false, false, 0⟩
    | some t => ⟨t.isOpen, t.waiting ≠ 0, t.accepted⟩
  | .udp name =>
    let l := s.udp.coreOf name
    ⟨l.isOpen, l.receive = .waiting, l.completed⟩

/-- How often the connection handler was called for a listener. -/
def deliveries (s : PublicListeners) : ListenerObject → Nat
  | .tcp name => s.handled.count name
  | .udp name => s.udp.delivered.count name

/-- A connection or a datagram has come for the listener whose handler has not run. -/
def queued (s : PublicListeners) (object : ListenerObject) : Bool :=
  (s.operation object).completed ≠ 0

/-- The listener is closed and has no operation under way. -/
def Stopped (s : PublicListeners) (object : ListenerObject) : Prop :=
  (s.operation object).isOpen = false ∧ (s.operation object).waiting = false

/-- A key of the registry points to the object. -/
def Standing (s : PublicListeners) (object : ListenerObject) : Prop :=
  ∃ key, s.objects.lookup key = some object

/-- Stopping closes a listener; what has completed stays in the queue. -/
theorem operation_stopObject (s : PublicListeners) (object other : ListenerObject) :
    (s.stopObject other).operation object =
      if object = other then ⟨false, false, (s.operation object).completed⟩
      else s.operation object := by
  cases other with
  | tcp name =>
    cases ht : s.tcp.lookup name with
    | none =>
      simp only [stopObject, ht]
      split
      · next heq => simp only [heq, operation, ht]
      · rfl
    | some t =>
      cases object with
      | udp _ => simp only [stopObject, ht, operation, reduceCtorEq, if_false]
      | tcp other =>
        simp only [stopObject, ht, operation, lookup_insert_eq_ite, ListenerObject.tcp.injEq]
        by_cases heq : other = name
        · subst heq
          simp only [ht, if_true]
          rfl
        · simp only [heq, if_false]
  | udp name =>
    cases hl : s.udp.listeners.lookup name with
    | none =>
      simp only [stopObject, hl]
      split
      · next heq =>
        simp only [heq, operation, UdpIngress.coreOf, UdpIngress.views, hl]
        rfl
      · rfl
    | some l =>
      cases object with
      | tcp _ => simp only [stopObject, hl, operation, reduceCtorEq, if_false]
      | udp other =>
        simp only [stopObject, hl, operation, UdpIngress.coreOf_stop hl, ListenerObject.udp.injEq]
        split
        · obtain ⟨hwaiting, hcompleted⟩ := (s.udp.coreOf other).closeSocket_receive
          rw [hcompleted, decide_eq_false hwaiting]
          rfl
        · rfl

theorem deliveries_stopObject (s : PublicListeners) (object other : ListenerObject) :
    (s.stopObject other).deliveries object = s.deliveries object := by
  cases other with
  | tcp name =>
    simp only [stopObject]
    split <;> cases object <;> rfl
  | udp name =>
    simp only [stopObject]
    split
    · rfl
    · next hl =>
      cases object with
      | tcp _ => rfl
      | udp other => exact congrArg (·.2.count other) (UdpIngress.views_stop hl)

/-- **The invariant.**  A listener is open exactly while a key of the registry points to it, and
only then does it accept or receive. -/
structure Sound (s : PublicListeners) : Prop where
  keys : ∀ key, s.objects.lookup key = none ↔ s.registry.listeners.lookup key = none
  named : ∀ object, s.Standing object → object.name ∈ s.names
  once : ∀ object key key', s.objects.lookup key = some object →
    s.objects.lookup key' = some object → key = key'
  opened : ∀ object, s.Standing object → (s.operation object).isOpen = true
  stopped : ∀ object, ¬s.Standing object → s.Stopped object
  accepting : ∀ name t, s.tcp.lookup name = some t → t.isOpen = true → t.operations = 1

theorem Sound.accepting_stopObject (h : s.Sound) (other : ListenerObject) :
    ∀ name t, (s.stopObject other).tcp.lookup name = some t → t.isOpen = true →
      t.operations = 1 := by
  cases other with
  | tcp name =>
    simp only [stopObject]
    split
    · exact h.accepting
    · refine forall_lookup_insert ?_ h.accepting
      intro hopen
      cases hopen
  | udp name =>
    simp only [stopObject]
    split <;> exact h.accepting

theorem names_stopAt (s : PublicListeners) (key : Bytes) : (s.stopAt key).names = s.names := by
  unfold stopAt
  cases s.objects.lookup key with
  | none => rfl
  | some object =>
    cases object with
    | _ => simp only [stopObject]; split <;> rfl

theorem operation_stopAt (s : PublicListeners) (key : Bytes) (object : ListenerObject) :
    (s.stopAt key).operation object =
      if s.objects.lookup key = some object then ⟨false, false, (s.operation object).completed⟩
      else s.operation object := by
  change (match s.objects.lookup key with
    | none => s
    | some object => s.stopObject object).operation object = _
  cases s.objects.lookup key with
  | none => rfl
  | some other =>
    simp only [operation_stopObject, Option.some.injEq]
    by_cases heq : object = other
    · rw [if_pos heq, if_pos heq.symm]
    · rw [if_neg heq, if_neg (Ne.symm heq)]

theorem standing_stopAt :
    (s.stopAt key).Standing object ↔ ∃ key', key' ≠ key ∧ s.objects.lookup key' = some object := by
  refine exists_congr fun key' => ?_
  change (s.objects.erase key).lookup key' = some object ↔ _
  rw [lookup_erase_eq_ite]
  by_cases hkey : key' = key
  · simp [hkey]
  · simp [hkey]

theorem Sound.stopAt (h : s.Sound) (key : Bytes) : (s.stopAt key).Sound := by
  have haccepting :
      ∀ name t, (s.stopAt key).tcp.lookup name = some t → t.isOpen = true → t.operations = 1 := by
    unfold PublicListeners.stopAt
    cases s.objects.lookup key with
    | none => exact h.accepting
    | some object => exact h.accepting_stopObject object
  refine ⟨?_, ?_, ?_, ?_, ?_, haccepting⟩
  · intro key'
    change (s.objects.erase key).lookup key' = none ↔ _
    rw [lookup_erase_eq_ite, show (s.stopAt key).registry = s.registry.eraseKey key from rfl,
      TunnelRegistry.lookup_eraseKey]
    split
    · exact iff_of_true rfl rfl
    · exact h.keys key'
  · intro object hstanding
    obtain ⟨key', -, hkey'⟩ := standing_stopAt.1 hstanding
    exact names_stopAt s key ▸ h.named object ⟨key', hkey'⟩
  · intro object k k' hk hk'
    exact h.once object k k' (lookup_of_erase hk) (lookup_of_erase hk')
  · intro object hstanding
    obtain ⟨key', hne, hkey'⟩ := standing_stopAt.1 hstanding
    rw [operation_stopAt, if_neg fun hkey => hne (h.once object key' key hkey' hkey)]
    exact h.opened object ⟨key', hkey'⟩
  · intro object hstanding
    unfold Stopped
    rw [operation_stopAt]
    split
    · exact ⟨rfl, rfl⟩
    · next hkey =>
      refine h.stopped object ?_
      rintro ⟨key', hkey'⟩
      exact hstanding (standing_stopAt.2 ⟨key', fun heq => hkey (heq ▸ hkey'), hkey'⟩)

theorem operation_start (s : PublicListeners) (name : Nat) (b : TunnelBinding)
    (hb : HasIdentity b) : ((s.start name b hb).operation (objectFor b name)).isOpen = true ∧
      ∀ object ≠ objectFor b name, (s.start name b hb).operation object = s.operation object ∧
        (s.start name b hb).deliveries object = s.deliveries object := by
  have hcore : ∀ other, ({ s.udp with
      listeners := s.udp.listeners.insert name (.new s.maxUdpPeerSessions) } :
        UdpIngress).coreOf other = if other = name then (UdpListener.new s.maxUdpPeerSessions).core
        else s.udp.coreOf other :=
    UdpIngress.coreOf_insert rfl
  unfold start objectFor
  split
  · refine ⟨by simp only [operation, hcore, if_true]; rfl, fun object hne => ?_⟩
    cases object with
    | tcp _ => exact ⟨rfl, rfl⟩
    | udp other =>
      have hother : other ≠ name := fun heq => hne (congrArg _ heq)
      exact ⟨by simp only [operation, hcore, if_neg hother], rfl⟩
  · refine ⟨by simp only [operation, AList.lookup_insert]; rfl, fun object hne => ?_⟩
    cases object with
    | udp _ => exact ⟨rfl, rfl⟩
    | tcp other =>
      have hother : other ≠ name := fun heq => hne (congrArg _ heq)
      exact ⟨by simp only [operation, AList.lookup_insert_ne hother], rfl⟩

theorem name_objectFor (b : TunnelBinding) (name : Nat) : (objectFor b name).name = name := by
  unfold objectFor
  split <;> rfl

theorem table_start (s : PublicListeners) (name : Nat) (b : TunnelBinding) (hb : HasIdentity b) :
    (s.start name b hb).objects =
        s.objects.insert (bindingKey b.clientId b.tunnelId) (objectFor b name) ∧
      (s.start name b hb).registry = s.registry.insertBinding b hb ∧
      (s.start name b hb).names = name :: s.names := by
  unfold start
  split <;> exact ⟨rfl, rfl, rfl⟩

theorem Sound.start (h : s.Sound) (hname : name ∉ s.names) (b : TunnelBinding)
    (hb : HasIdentity b) (hkey : s.objects.lookup (bindingKey b.clientId b.tunnelId) = none) :
    (s.start name b hb).Sound := by
  obtain ⟨hobjects, hregistry, hnames⟩ := s.table_start name b hb
  obtain ⟨hopen, hothers⟩ := s.operation_start name b hb
  have hnew : ∀ {object}, s.Standing object → object ≠ objectFor b name := by
    rintro object hstanding rfl
    exact hname (name_objectFor b name ▸ h.named _ hstanding)
  have hstanding : ∀ object, (s.start name b hb).Standing object →
      object = objectFor b name ∨ s.Standing object := by
    rintro object ⟨key, hlookup⟩
    rw [hobjects, lookup_insert_eq_ite] at hlookup
    split at hlookup
    · exact .inl (Option.some.inj hlookup).symm
    · exact .inr ⟨key, hlookup⟩
  refine ⟨?_, ?_, ?_, ?_, ?_, ?_⟩
  · intro key
    rw [hobjects, hregistry, lookup_insert_eq_ite, TunnelRegistry.lookup_insertBinding]
    split
    · exact iff_of_false (Option.some_ne_none _) (Option.some_ne_none _)
    · exact h.keys key
  · intro object hstands
    rw [hnames]
    rcases hstanding object hstands with rfl | hstands
    · rw [name_objectFor]
      exact List.mem_cons_self
    · exact List.mem_cons_of_mem _ (h.named object hstands)
  · intro object key key' hlookup hlookup'
    rw [hobjects, lookup_insert_eq_ite] at hlookup hlookup'
    split at hlookup <;> split at hlookup'
    · next heq heq' => rw [heq, heq']
    · exact absurd (Option.some.inj hlookup).symm (hnew ⟨key', hlookup'⟩)
    · exact absurd (Option.some.inj hlookup').symm (hnew ⟨key, hlookup⟩)
    · exact h.once object key key' hlookup hlookup'
  · intro object hstands
    rcases hstanding object hstands with rfl | hstands
    · exact hopen
    · rw [(hothers object (hnew hstands)).1]
      exact h.opened object hstands
  · intro object hstands
    have hne : object ≠ objectFor b name := by
      rintro rfl
      exact hstands ⟨_, hobjects ▸ AList.lookup_insert _⟩
    unfold Stopped
    rw [(hothers object hne).1]
    refine h.stopped object ?_
    rintro ⟨key, hlookup⟩
    refine hstands ⟨key, ?_⟩
    rw [hobjects, lookup_insert_eq_ite, if_neg, hlookup]
    rintro rfl
    rw [hkey] at hlookup
    cases hlookup
  · unfold PublicListeners.start
    split
    · exact h.accepting
    · exact forall_lookup_insert (fun _ => rfl) h.accepting

/-- What a call leaves of an object that it does not make. -/
structure Called (s s' : PublicListeners) (object : ListenerObject) : Prop where
  lookup : ∀ key, s'.objects.lookup key = some object → s.objects.lookup key = some object
  completed : (s'.operation object).completed = (s.operation object).completed
  deliveries : s'.deliveries object = s.deliveries object
  stopped : s.Stopped object → s'.Stopped object

theorem called_stopAt (s : PublicListeners) (key : Bytes) (object : ListenerObject) :
    s.Called (s.stopAt key) object := by
  have hoperation := operation_stopAt s key object
  refine ⟨fun key' hlookup => lookup_of_erase hlookup, ?_, ?_, ?_⟩
  · rw [hoperation]
    split <;> rfl
  · change (match s.objects.lookup key with
      | none => s
      | some object => s.stopObject object).deliveries object = _
    cases s.objects.lookup key with
    | none => rfl
    | some other => exact deliveries_stopObject s object other
  · intro hstopped
    unfold Stopped
    rw [hoperation]
    split
    · exact ⟨rfl, rfl⟩
    · exact hstopped

/-- A call stops the listeners under some keys, and may then start one. -/
theorem perform_cases (net : AddressText) (s : PublicListeners) (call : TunnelRegistry.Call)
    (name : Nat) : ∃ keys : List Bytes, s.perform net call name = keys.foldl stopAt s ∨
      ∃ b hb, (keys.foldl stopAt s).objects.lookup (bindingKey b.clientId b.tunnelId) = none ∧
        s.perform net call name = (keys.foldl stopAt s).start name b hb := by
  have hmatching : ∀ matching : TunnelBinding → Bool,
      ∃ keys : List Bytes, s.eraseMatching matching = keys.foldl stopAt s := by
    intro matching
    unfold eraseMatching
    generalize s.registry.listeners.entries = entries
    induction entries generalizing s with
    | nil => exact ⟨[], rfl⟩
    | cons e entries ih =>
      rw [List.foldl_cons]
      split
      · obtain ⟨keys, heq⟩ := ih (s.stopAt e.1)
        exact ⟨e.1 :: keys, heq⟩
      · exact ih s
  cases call with
  | register b maxForClient outcome =>
    simp only [perform, registerTunnel]
    split
    · exact ⟨[], .inl rfl⟩
    · next hvalid =>
      split
      · exact ⟨[], .inl rfl⟩
      · split
        · exact ⟨[], .inl rfl⟩
        · refine ⟨[bindingKey b.clientId b.tunnelId], ?_⟩
          split
          · exact .inl rfl
          · refine .inr ⟨b, hasIdentity_of_validateBinding hvalid, ?_, rfl⟩
            exact (lookup_erase_eq_ite ..).trans (if_pos rfl)
  | unregister clientId generation tunnelId revision =>
    simp only [perform, unregisterTunnel]
    split
    · exact ⟨[], .inl rfl⟩
    · split
      · exact ⟨[], .inl rfl⟩
      · exact ⟨[bindingKey clientId tunnelId], .inl rfl⟩
  | _ =>
    simp only [perform]
    exact (hmatching _).imp fun _ heq => .inl heq

theorem Sound.foldl_stopAt (h : s.Sound) (keys : List Bytes) :
    (keys.foldl PublicListeners.stopAt s).Sound ∧
      (keys.foldl PublicListeners.stopAt s).names = s.names ∧
      ∀ object, s.Called (keys.foldl PublicListeners.stopAt s) object := by
  induction keys generalizing s with
  | nil => exact ⟨h, rfl, fun object => ⟨fun _ => id, rfl, rfl, id⟩⟩
  | cons key keys ih =>
    obtain ⟨hsound, hnames, hcalled⟩ := ih (h.stopAt key)
    refine ⟨hsound, hnames.trans ?_, fun object => ?_⟩
    · exact names_stopAt s key
    · have hfirst := called_stopAt s key object
      have hrest := hcalled object
      exact ⟨fun key hlookup => hfirst.lookup key (hrest.lookup key hlookup),
        hrest.completed.trans hfirst.completed, hrest.deliveries.trans hfirst.deliveries,
        fun hstopped => hrest.stopped (hfirst.stopped hstopped)⟩

/-- **A call** keeps the invariant; it leaves what has completed in the queue and calls no
handler. -/
theorem Sound.perform (h : s.Sound) (net : AddressText) (call : TunnelRegistry.Call)
    (hname : name ∉ s.names) : (s.perform net call name).Sound ∧
      ∀ object, object.name ∈ s.names → object.name ∈ (s.perform net call name).names ∧
        s.Called (s.perform net call name) object := by
  obtain ⟨keys, heq | ⟨b, hb, hkey, heq⟩⟩ := perform_cases net s call name
  · obtain ⟨hsound, hnames, hcalled⟩ := h.foldl_stopAt keys
    rw [heq, hnames]
    exact ⟨hsound, fun object hmem => ⟨hmem, hcalled object⟩⟩
  · obtain ⟨hsound, hnames, hcalled⟩ := h.foldl_stopAt keys
    obtain ⟨hobjects, -, hnames'⟩ := table_start (keys.foldl PublicListeners.stopAt s) name b hb
    rw [heq]
    refine ⟨hsound.start (hnames ▸ hname) b hb hkey, fun object hmem => ⟨?_, ?_⟩⟩
    · rw [hnames', hnames]
      exact List.mem_cons_of_mem _ hmem
    · have hne : object ≠ objectFor b name := by
        rintro rfl
        exact hname (name_objectFor b name ▸ hmem)
      obtain ⟨hoperation, hdeliveries⟩ :=
        (operation_start (keys.foldl PublicListeners.stopAt s) name b hb).2 object hne
      have hstopped := hcalled object
      refine ⟨fun key hlookup => hstopped.lookup key ?_, ?_, ?_, ?_⟩
      · rw [hobjects, lookup_insert_eq_ite] at hlookup
        split at hlookup
        · exact absurd (Option.some.inj hlookup).symm hne
        · exact hlookup
      · rw [hoperation, hstopped.completed]
      · rw [hdeliveries, hstopped.deliveries]
      · intro hbefore
        unfold Stopped
        rw [hoperation]
        exact hstopped.stopped hbefore

/-- What an operation, a handler or a task does to any listener. -/
structure Moves (s s' : PublicListeners) (object : ListenerObject) : Prop where
  isOpen : (s'.operation object).isOpen = (s.operation object).isOpen
  stopped : s.Stopped object → s'.Stopped object ∧ s.deliveries object ≤ s'.deliveries object ∧
    s'.deliveries object + (s'.operation object).completed ≤
      s.deliveries object + (s.operation object).completed

theorem Moves.of_eq (hoperation : s'.operation object = s.operation object)
    (hdeliveries : s'.deliveries object = s.deliveries object) : s.Moves s' object := by
  refine ⟨by rw [hoperation], fun h => ⟨?_, hdeliveries.ge, by rw [hdeliveries, hoperation]⟩⟩
  unfold Stopped
  rw [hoperation]
  exact h

theorem moves_tcp (net : AddressText) (s : PublicListeners) (name : Nat) (event : TcpEvent)
    (object : ListenerObject) : s.Moves (s.step net (.tcp name event)) object := by
  simp only [step]
  split
  · exact .of_eq rfl rfl
  · next t ht =>
    cases object with
    | udp _ => exact .of_eq rfl rfl
    | tcp other =>
      by_cases hother : other = name
      · subst hother
        have hisOpen := t.isOpen_step event
        refine ⟨by simp only [operation, AList.lookup_insert, ht, hisOpen], ?_⟩
        rintro ⟨hclosed, hwaiting⟩
        simp only [operation, ht, decide_eq_false_iff_not, not_not] at hclosed hwaiting
        obtain ⟨hnone, hcalls⟩ := t.step_of_closed hclosed hwaiting event
        refine ⟨⟨?_, ?_⟩, ?_, ?_⟩
        · simp only [operation, AList.lookup_insert, hisOpen, hclosed]
        · simp only [operation, AList.lookup_insert, hnone]
          rfl
        · simp only [deliveries, List.count_append]
          exact Nat.le_add_right _ _
        · simp only [deliveries, operation, AList.lookup_insert, ht, List.count_append,
            List.count_replicate_self]
          omega
      · refine .of_eq ?_ ?_
        · simp only [operation, AList.lookup_insert_ne hother]
        · simp only [deliveries, List.count_append, List.count_replicate, beq_iff_eq,
            Ne.symm hother, if_false, Nat.add_zero]

theorem moves_udp {event : UdpIngressEvent} (hinternal : UdpIngress.internal event = true)
    (object : ListenerObject) :
    s.Moves { s with udp := s.udp.step net event } object := by
  cases object with
  | tcp _ => exact .of_eq rfl rfl
  | udp name =>
    obtain ⟨calls, hmove, hcount⟩ := UdpIngress.moves_step (s := s.udp) net hinternal name
    refine ⟨hmove.isOpen, ?_⟩
    rintro ⟨hclosed, hwaiting⟩
    obtain ⟨hnone, hcalls⟩ := hmove.of_closed hclosed (of_decide_eq_false hwaiting)
    simp only [Stopped, operation, deliveries, hcount]
    exact ⟨⟨hmove.isOpen.trans hclosed, decide_eq_false hnone⟩, Nat.le_add_right _ _, by omega⟩

/-- **Every step** keeps the invariant. -/
theorem Sound.step (h : s.Sound) (net : AddressText) (event : PublicEvent) :
    (s.step net event).Sound := by
  have hmoves : ∀ {s' : PublicListeners}, (∀ object, s.Moves s' object) →
      s'.registry = s.registry → s'.objects = s.objects → s'.names = s.names →
      (∀ name t, s'.tcp.lookup name = some t → t.isOpen = true → t.operations = 1) →
      s'.Sound := by
    intro s' hall hregistry hobjects hnames haccepting
    have hstanding : ∀ object, s'.Standing object ↔ s.Standing object := by
      intro object
      unfold Standing
      rw [hobjects]
    refine ⟨?_, ?_, ?_, ?_, ?_, haccepting⟩
    · rw [hobjects, hregistry]
      exact h.keys
    · intro object hstands
      rw [hnames]
      exact h.named object ((hstanding object).1 hstands)
    · rw [hobjects]
      exact h.once
    · intro object hstands
      rw [(hall object).isOpen]
      exact h.opened object ((hstanding object).1 hstands)
    · intro object hstands
      exact ((hall object).stopped (h.stopped object fun hs => hstands ((hstanding object).2 hs))).1
  cases event with
  | call call name =>
    simp only [PublicListeners.step]
    split
    · exact h
    · next hname => exact (h.perform net call hname).1
  | tcp name event =>
    have hall := moves_tcp net s name event
    simp only [PublicListeners.step] at hall ⊢
    split
    · exact h
    · next t ht =>
      rw [ht] at hall
      refine hmoves hall rfl rfl rfl (forall_lookup_insert ?_ h.accepting)
      intro hopen
      rw [t.isOpen_step] at hopen
      rw [t.operations_step hopen]
      exact h.accepting name t ht hopen
  | udp event =>
    simp only [PublicListeners.step]
    split
    · next hinternal => exact hmoves (moves_udp hinternal) rfl rfl rfl h.accepting
    · exact h

/-! ## After the stop -/

/-- What one step does to a listener that has been stopped. -/
theorem Sound.step_of_stopped (h : s.Sound) (net : AddressText) (hmem : object.name ∈ s.names)
    (hstopped : s.Stopped object) (event : PublicEvent) :
    object.name ∈ (s.step net event).names ∧ (s.step net event).Stopped object ∧
      s.deliveries object ≤ (s.step net event).deliveries object ∧
      (s.step net event).deliveries object + ((s.step net event).operation object).completed ≤
        s.deliveries object + (s.operation object).completed := by
  cases event with
  | call call name =>
    simp only [PublicListeners.step]
    split
    · exact ⟨hmem, hstopped, Nat.le_refl _, Nat.le_refl _⟩
    · next hname =>
      obtain ⟨hkept, hcalled⟩ := (h.perform net call hname).2 object hmem
      rw [hcalled.deliveries, hcalled.completed]
      exact ⟨hkept, hcalled.stopped hstopped, Nat.le_refl _, Nat.le_refl _⟩
  | tcp name event =>
    refine ⟨?_, (moves_tcp net s name event object).stopped hstopped⟩
    simp only [PublicListeners.step]
    split <;> exact hmem
  | udp event =>
    simp only [PublicListeners.step]
    split
    · next hinternal => exact ⟨hmem, (moves_udp hinternal object).stopped hstopped⟩
    · exact ⟨hmem, hstopped, Nat.le_refl _, Nat.le_refl _⟩

/-- **A run after the stop** delivers at most what was in the queue. -/
theorem Sound.run_of_stopped (h : s.Sound) (net : AddressText) (hmem : object.name ∈ s.names)
    (hstopped : s.Stopped object) (rest : List PublicEvent) :
    s.deliveries object ≤ (exec (PublicListeners.step net) s rest).deliveries object ∧
      (exec (PublicListeners.step net) s rest).deliveries object ≤
        s.deliveries object + (s.operation object).completed := by
  induction rest generalizing s with
  | nil => exact ⟨Nat.le_refl _, Nat.le_add_right _ _⟩
  | cons event rest ih =>
    obtain ⟨hmem', hstopped', hmono, hbound⟩ := h.step_of_stopped net hmem hstopped event
    obtain ⟨hmono', hbound'⟩ := ih (h.step net event) hmem' hstopped'
    rw [exec_cons]
    omega

/-- An open listener has at most one completion in the queue. -/
theorem Sound.completed_le (h : s.Sound) (hopen : (s.operation object).isOpen = true) :
    (s.operation object).completed ≤ 1 := by
  cases object with
  | tcp name =>
    cases ht : s.tcp.lookup name with
    | none =>
      simp only [operation, ht] at hopen
      cases hopen
    | some t =>
      simp only [operation, ht] at hopen ⊢
      have hone := h.accepting name t ht hopen
      unfold TcpListener.operations at hone
      omega
  | udp name =>
    simp only [operation, UdpListener.completed]
    split <;> decide

/-- The handler of an accepted connection hands it over, whether the listener is open or not. -/
theorem handler_delivers (net : AddressText) (hqueued : s.queued (.tcp name) = true) :
    (s.step net (.tcp name .handleAccepted)).deliveries (.tcp name) =
      s.deliveries (.tcp name) + 1 := by
  have hcompleted : (s.operation (.tcp name)).completed ≠ 0 := of_decide_eq_true hqueued
  cases ht : s.tcp.lookup name with
  | none =>
    simp only [operation, ht] at hcompleted
    exact absurd rfl hcompleted
  | some t =>
    simp only [operation, ht] at hcompleted
    simp only [step, ht, deliveries, TcpListener.calls, if_neg hcompleted, List.count_append,
      List.count_replicate_self]

section Runs

variable (net : AddressText) (ports : PortRange)
  (maxTunnelsPerClient maxTotalTunnels maxUdpPeerSessions : Nat)

/-- The state a history reaches. -/
def reached (history : List PublicEvent) : PublicListeners :=
  exec (step net) (initial ports maxTunnelsPerClient maxTotalTunnels maxUdpPeerSessions) history

theorem sound_reached (history : List PublicEvent) :
    (reached net ports maxTunnelsPerClient maxTotalTunnels maxUdpPeerSessions history).Sound := by
  refine exec_invariant (fun s event h => h.step net event) ?_ history
  have hnone : ∀ object, ¬(initial ports maxTunnelsPerClient maxTotalTunnels
      maxUdpPeerSessions).Standing object := by
    rintro object ⟨key, h⟩
    cases h
  refine ⟨fun key => iff_of_true rfl rfl, ?_, ?_, ?_, ?_, ?_⟩
  · exact fun object h => absurd h (hnone object)
  · exact fun object key _ h => absurd ⟨key, h⟩ (hnone object)
  · exact fun object h => absurd h (hnone object)
  · intro object _
    cases object with
    | _ => exact ⟨rfl, rfl⟩
  · intro name t h
    cases h

/-- **Listeners and tunnels.**  A listener is open exactly while a key of the registry points to
it; the keys that point to one are those that have a binding; and what no key points to has no
operation under way. -/
theorem listeners_owned (history : List PublicEvent) :
    let s := reached net ports maxTunnelsPerClient maxTotalTunnels maxUdpPeerSessions history
    (∀ object, (s.operation object).isOpen = true ↔ s.Standing object) ∧
      (∀ key, s.objects.lookup key = none ↔ s.registry.listeners.lookup key = none) ∧
      ∀ object, ¬s.Standing object → (s.operation object).waiting = false := by
  intro s
  have h := sound_reached net ports maxTunnelsPerClient maxTotalTunnels maxUdpPeerSessions history
  refine ⟨fun object => ⟨fun hopen => ?_, h.opened object⟩, h.keys,
    fun object hstands => (h.stopped object hstands).2⟩
  by_contra hstands
  exact absurd (hopen.symm.trans (h.stopped object hstands).1) Bool.noConfusion

/-- **The accept loop.**  An open TCP listener has exactly one accept operation, under way or
with its handler still to run, or else one wait for the retry timer. -/
theorem listeners_accepting (history : List PublicEvent) (name : Nat) (t : TcpListener) :
    (reached net ports maxTunnelsPerClient maxTotalTunnels maxUdpPeerSessions
        history).tcp.lookup name = some t → t.isOpen = true → t.operations = 1 :=
  (sound_reached net ports maxTunnelsPerClient maxTotalTunnels maxUdpPeerSessions
    history).accepting name t

variable (history : List PublicEvent) (call : TunnelRegistry.Call) (name : Nat)

/-- The call takes the object from its key. -/
def Stops (s : PublicListeners) (object : ListenerObject) : Prop :=
  ∃ key, s.objects.lookup key = some object ∧
    (s.step net (.call call name)).objects.lookup key ≠ some object

/-- **What a stopped listener delivers.**  After a call that stops a listener, in whatever state
of the server, the connection handler is not called again for it, whatever happens, if no accept
or receive operation of it was completed with its handler still to run.  A connection that was
accepted is handed over by the next handler; there is at most one more call in all. -/
theorem stopped_delivers_nothing (object : ListenerObject) :
    let s := reached net ports maxTunnelsPerClient maxTotalTunnels maxUdpPeerSessions history
    let s' := s.step net (.call call name)
    name ∉ s.names → Stops net call name s object →
      (s.queued object = false →
        ∀ rest, (exec (step net) s' rest).deliveries object = s'.deliveries object) ∧
      (∀ n, object = .tcp n → s.queued object = true →
        (s'.step net (.tcp n .handleAccepted)).deliveries object = s'.deliveries object + 1) ∧
      ∀ rest, (exec (step net) s' rest).deliveries object ≤ s'.deliveries object + 1 := by
  intro s s' hname hstops
  have h : s.Sound :=
    sound_reached net ports maxTunnelsPerClient maxTotalTunnels maxUdpPeerSessions history
  have hperform : s' = s.perform net call name := if_neg hname
  obtain ⟨key, hkey, hgone⟩ := hstops
  obtain ⟨h', hcalls⟩ := h.perform net call hname
  obtain ⟨hmem, hcalled⟩ := hcalls object (h.named object ⟨key, hkey⟩)
  rw [← hperform] at h' hmem hcalled
  have hstanding : ¬s'.Standing object := by
    rintro ⟨key', hkey'⟩
    have heq := h.once object key' key (hcalled.lookup key' hkey') hkey
    exact hgone (heq ▸ hkey')
  have hrun := fun rest => h'.run_of_stopped net hmem (h'.stopped object hstanding) rest
  rw [hcalled.completed] at hrun
  refine ⟨?_, ?_, ?_⟩
  · intro hqueued rest
    have hnone : (s.operation object).completed = 0 := by
      have hnot := of_decide_eq_false hqueued
      omega
    have hbounds := hrun rest
    omega
  · rintro n rfl hqueued
    refine handler_delivers net ?_
    unfold queued
    rw [hcalled.completed]
    exact hqueued
  · intro rest
    have hbounds := hrun rest
    have hone := h.completed_le (h.opened object ⟨key, hkey⟩)
    omega

end Runs

end PublicListeners

/-! ## A listener is stopped while its completion is in the queue -/

namespace LateCompletions

open PublicListeners
open TunnelRegistry.TwoClients (net ports first)

def removal : TunnelRegistry.Call :=
  .removeClient (first .tcp).clientId

variable (mode : TunnelMode)

def object : ListenerObject :=
  objectFor (first mode) 0

def completion : TunnelMode → PublicEvent
  | .udp => .udp (.arrive 0 ⟨.v4 0xc6336407#32, 5000⟩ [])
  | _ => .tcp 0 .accepts

def handler : TunnelMode → PublicEvent
  | .udp => .udp (.receive 0 true 0)
  | _ => .tcp 0 .handleAccepted

/-- The tunnel of the client is registered, and then `events` happen. -/
def server (events : List PublicEvent) : PublicListeners :=
  reached net ports 4 10 8 (.call (.register (first mode) 0 .listening) 0 :: events)

theorem removal_stops (hm : mode = .tcp ∨ mode = .udp) (events : List PublicEvent)
    (he : events = [] ∨ events = [completion mode]) :
    Stops net removal 1 (server mode events) (object mode) := by
  refine ⟨bindingKey (first mode).clientId (first mode).tunnelId, ?_⟩
  rcases hm with rfl | rfl
  · rcases he with rfl | rfl
    · decide +kernel
    · decide +kernel
  · rcases he with rfl | rfl
    · decide +kernel
    · decide +kernel

/-- Nothing had completed when the client was removed: what the operating system and the
handlers do later delivers nothing. -/
theorem removed_idle_delivers_nothing :
    (exec (step net) ((server .udp []).step net (.call removal 1))
      [completion .udp, handler .udp]).deliveries (.udp 0) =
      ((server .udp []).step net (.call removal 1)).deliveries (.udp 0) :=
  (stopped_delivers_nothing net ports 4 10 8 [.call (.register (first .udp) 0 .listening) 0]
    removal 1 (.udp 0) (by decide +kernel)
    (removal_stops .udp (.inr rfl) [] (.inl rfl))).1 (by decide +kernel)
    [completion .udp, handler .udp]

/-- The handler of the completion calls the connection handler although the call before it has
stopped the listener. -/
def DeliversLate : Prop :=
  let s := server mode [completion mode]
  let s' := s.step net (.call removal 1)
  Stops net removal 1 s (object mode) ∧ s'.registry.listeners.entries = [] ∧
    s'.deliveries (object mode) = 0 ∧
    (exec (step net) s' [handler mode]).deliveries (object mode) = 1

/-- The registered listener accepts. -/
theorem registered_accepting : (server .tcp []).tcp.lookup 0 = some .new ∧
    TcpListener.new.operations = 1 :=
  ⟨by decide +kernel, listeners_accepting net ports 4 10 8
    [.call (.register (first .tcp) 0 .listening) 0] 0 .new (by decide +kernel) rfl⟩

/-- A connection that was accepted before the client was removed is handed over afterwards, and
a datagram that was received before makes a peer session. -/
theorem removed_delivers : DeliversLate .tcp ∧ DeliversLate .udp := by
  refine ⟨⟨removal_stops .tcp (.inl rfl) _ (.inr rfl), ?_⟩,
    removal_stops .udp (.inr rfl) _ (.inr rfl), ?_⟩
  · decide +kernel
  · decide +kernel

end LateCompletions

end MiniTun.Server
