import MiniTun.Protocol.RelayCodec
import MiniTun.Server.RegistryInvariants
import MiniTun.Server.StrandSteps

/-!
# What a worker's session sends

`handle_worker_assignment` builds `START_RELAY` from three sources: the binding of
the listener that accepted the connection, the addresses of the two sockets, and the
capabilities the worker's session has copied from the control session of its
generation (`control_session_capabilities`).  The mode is always written; the
addresses only under the capabilities that ask for them.
-/

namespace MiniTun

def TunnelMode.code : TunnelMode → Protocol.RawTunnelMode
  | .tcp => 0
  | .udp => 1
  | .socks5 => 2
  | .p2p => 3

def CapabilitySet.has (capabilities : CapabilitySet) (capability : Capability) : Bool :=
  capabilities.getLsbD capability.bit

theorem CapabilitySet.has_zero (cap : Capability) :
    CapabilitySet.has 0 cap = false :=
  BitVec.getLsbD_zero

theorem supportsTunnelMode_eq_has (caps : CapabilitySet) (mode : TunnelMode) :
    supportsTunnelMode caps mode =
      CapabilitySet.has caps (requiredCapability mode) :=
  rfl

/-- The payload of `REGISTER_TUNNEL` in the widths of the wire. -/
def RegisterTunnelMessage.wire (m : RegisterTunnelMessage) : Protocol.RegisterTunnelMessage where
  tunnelId := m.tunnelId
  bindHost := m.bindHost
  bindPort := .ofNat m.bindPort
  desiredRevision := .ofNat m.desiredRevision
  mode := m.mode.code

theorem TunnelMode.code_injective : Function.Injective TunnelMode.code := by
  intro mode mode' h
  cases mode <;> cases mode' <;> first | rfl | exact absurd h (by decide)

/-- The numbers of the message fit into the fields of the wire. -/
structure RegisterTunnelMessage.Fits (m : RegisterTunnelMessage) : Prop where
  bindPort : m.bindPort < 2 ^ 16
  desiredRevision : m.desiredRevision < 2 ^ 64

theorem RegisterTunnelMessage.Fits.wire_eq_iff {m m' : RegisterTunnelMessage} (h : m.Fits)
    (h' : m'.Fits) : m'.wire = m.wire ↔ m' = m := by
  refine ⟨fun heq => ?_, congrArg _⟩
  simp only [RegisterTunnelMessage.wire, Protocol.RegisterTunnelMessage.mk.injEq] at heq
  obtain ⟨hid, hhost, hport, hrevision, hmode⟩ := heq
  have hport := congrArg UInt16.toNat hport
  have hrevision := congrArg UInt64.toNat hrevision
  rw [UInt16.toNat_ofNat_of_lt' h.bindPort, UInt16.toNat_ofNat_of_lt' h'.bindPort] at hport
  rw [UInt64.toNat_ofNat_of_lt' h.desiredRevision,
    UInt64.toNat_ofNat_of_lt' h'.desiredRevision] at hrevision
  have hmode := TunnelMode.code_injective hmode
  cases m
  cases m'
  simp_all

/-- What is read from a registration's payload is the message that was written. -/
theorem RegisterTunnelMessage.Fits.decode_iff {m m' : RegisterTunnelMessage} {p : Bytes}
    (h : m.Fits) (h' : m'.Fits) (hp : Protocol.encodeRegisterTunnel m.wire = .ok p) :
    Protocol.decodeRegisterTunnel p = .ok m'.wire ↔ m' = m := by
  have hread := Protocol.decodeRegisterTunnel_eq_ok.2 (Protocol.encodeRegisterTunnel_eq_ok.1 hp)
  rw [hread, Except.ok.injEq, eq_comm, h.wire_eq_iff h']

namespace Protocol

/-! ## The images of the first version -/

/-- `REGISTER_TUNNEL` before there were modes. -/
def RegisterTunnelMessage.legacyImage (m : RegisterTunnelMessage) : Bytes :=
  bytesField m.tunnelId ++ bytesField m.bindHost ++ u16.encode m.bindPort ++
    u64.encode m.desiredRevision

/-- `START_RELAY` before there were modes and endpoints. -/
def StartRelayMessage.legacyImage (m : StartRelayMessage) : Bytes :=
  bytesField m.tunnelId ++ bytesField m.connectionId

variable {p : Bytes}

theorem legacyImage_of_encodeRegisterTunnel {m : RegisterTunnelMessage}
    (hm : m.mode = TunnelMode.tcp.code) (h : encodeRegisterTunnel m = .ok p) :
    p = m.legacyImage := by
  obtain ⟨-, rfl⟩ := encodeRegisterTunnel_eq_ok.1 h
  have hno : modeLayout m.mode = [] := if_pos hm
  rw [RegisterTunnelMessage.layout, hno, List.append_nil]
  rfl

theorem legacyImage_of_encodeStartRelay {m : StartRelayMessage}
    (hm : m.mode = TunnelMode.tcp.code) (hs : m.sourceHost = none)
    (h : encodeStartRelay m = .ok p) : p = m.legacyImage := by
  obtain ⟨-, rfl⟩ := encodeStartRelay_eq_ok.1 h
  have hno : m.extensions = [] := by
    unfold StartRelayMessage.extensions
    rw [hs]
    exact if_pos hm
  rw [StartRelayMessage.layout, hno, List.append_nil]
  rfl

/-- The encoder writes the observed host only behind a whole endpoint. -/
theorem source_of_observed {m : StartRelayMessage} (h : encodeStartRelay m = .ok p)
    (hobs : m.workerObservedHost.isSome = true) :
    m.sourceHost.isSome = true ∧ m.sourcePort.isSome = true := by
  obtain ⟨⟨-, -, -, hext⟩, -⟩ := encodeStartRelay_eq_ok.1 h
  unfold StartRelayMessage.Extended at hext
  split at hext
  · next hno => simp [hno] at hobs
  · next hh hp => simp [hh, hp]
  · exact hext.elim

end Protocol

namespace Server

open KeyedMap

/-! ## The message -/

/-- What the operating system reports of the public peer and of the worker's own peer. -/
structure RelayPeers where
  source : Option (Bytes × UInt16)
  workerObserved : Option Bytes

variable (capabilities : CapabilitySet)

def supportsSourceEndpoint : Bool :=
  CapabilitySet.has capabilities .proxyProtocol ||
    CapabilitySet.has capabilities .tcpSimultaneousOpen

def supportsWorkerObserved : Bool :=
  supportsSourceEndpoint capabilities && CapabilitySet.has capabilities .workerObservedEndpoint

/-- The message `handle_worker_assignment` encodes. -/
def assignmentMessage (b : TunnelBinding) (connectionId : Bytes) (peers : RelayPeers) :
    Protocol.StartRelayMessage :=
  let source := if supportsSourceEndpoint capabilities then peers.source else none
  { tunnelId := b.tunnelId
    connectionId := connectionId
    mode := b.mode.code
    sourceHost := source.map Prod.fst
    sourcePort := source.map Prod.snd
    workerObservedHost :=
      if supportsWorkerObserved capabilities then peers.workerObserved else none }

section Message

variable {caps : CapabilitySet} {b : TunnelBinding} {conId : Bytes}
  {peers : RelayPeers}

theorem source_assignmentMessage
    (h : (assignmentMessage caps b conId peers).sourceHost.isSome = true ∨
      (assignmentMessage caps b conId peers).sourcePort.isSome = true) :
    CapabilitySet.has caps .proxyProtocol = true ∨
      CapabilitySet.has caps .tcpSimultaneousOpen = true := by
  by_cases hs : supportsSourceEndpoint caps = true
  · simpa only [supportsSourceEndpoint, Bool.or_eq_true] using hs
  · simp [assignmentMessage, hs] at h

theorem observed_assignmentMessage
    (h : (assignmentMessage caps b conId peers).workerObservedHost.isSome = true) :
    CapabilitySet.has caps .workerObservedEndpoint = true := by
  by_cases hs : supportsWorkerObserved caps = true
  · simp only [supportsWorkerObserved, Bool.and_eq_true] at hs
    exact hs.2
  · simp [assignmentMessage, hs] at h

theorem sourceHost_assignmentMessage (h : supportsSourceEndpoint caps = false) :
    (assignmentMessage caps b conId peers).sourceHost = none := by
  simp [assignmentMessage, h]

end Message

/-! ## The capabilities of a worker's session -/

def ControlSession.isControlSession (session : ControlSession) (clientId : Bytes)
    (generation : Nat) : Bool :=
  match session.role with
  | .control own => session.clientId = clientId ∧ own = generation
  | _ => false

/-- `control_session_capabilities`; `order` is that of `sessions_`. -/
def ServerState.controlSessionCapabilities (s : ServerState) (order : List SessionKey)
    (clientId : Bytes) (generation : Nat) : CapabilitySet :=
  let found := order.findSome? fun key =>
    (s.sessions.lookup key).filter fun session => session.isControlSession clientId generation
  (found.map ControlSession.selectedCapabilities).getD 0

/-- The set is that of the open control session of the generation, or empty. -/
theorem controlSessionCapabilities_origin (s : ServerState) (ord : List SessionKey)
    (cid : Bytes) {gen : Nat} (hgen : gen ≠ 0) :
    s.controlSessionCapabilities ord cid gen = 0 ∨
      ∃ key session, s.sessions.lookup key = some session ∧ session.clientId = cid ∧
        session.openGeneration = some gen ∧
        session.selectedCapabilities =
          s.controlSessionCapabilities ord cid gen := by
  unfold ServerState.controlSessionCapabilities
  cases hf : ord.findSome? fun key =>
      (s.sessions.lookup key).filter fun session =>
        session.isControlSession cid gen with
  | none => exact .inl rfl
  | some session =>
    obtain ⟨key, -, hkey⟩ := List.exists_of_findSome?_eq_some hf
    obtain ⟨hl, hcon⟩ := Option.filter_eq_some_iff.1 hkey
    refine .inr ⟨key, session, hl, ?_⟩
    unfold ControlSession.isControlSession at hcon
    split at hcon
    · next own hr =>
      obtain ⟨hc, rfl⟩ := of_decide_eq_true hcon
      exact ⟨hc, ControlSession.openGeneration_eq_some.2 ⟨hr, hgen⟩, rfl⟩
    · cases hcon

/-! ## Where listeners, idle workers and worker sessions come from -/

variable {net : AddressText} {s : ServerState} {e : Event}

variable {session : ControlSession} {c : Bytes} {g : Nat}

theorem registerTunnel_of_supported {m : RegisterTunnelMessage} {out : ListenOutcome}
    {key : Bytes} {b : TunnelBinding}
    (h : (s.sessionRegisterTunnel net session m out).2.tunnelRegistry.listeners.lookup key =
      some b) :
    s.tunnelRegistry.listeners.lookup key = some b ∨
      (∃ gen, session.openGeneration = some gen) ∧ b = session.binding m ∧
        supportsTunnelMode session.selectedCapabilities m.mode = true := by
  by_cases hs : supportsTunnelMode session.selectedCapabilities m.mode = false
  · have hsa : (s.sessionRegisterTunnel net session m out).2 = s := by
      unfold ServerState.sessionRegisterTunnel ServerState.handleRegisterTunnel
      rw [if_pos hs]
      split <;> rfl
    rw [hsa] at h
    exact .inl h
  · rcases s.sessionRegisterTunnel_cases net session m out with
      ⟨error, he⟩ | ⟨gen, limit, hop, hr⟩
    · rw [he] at h
      exact .inl h
    · rw [hr] at h
      rcases TunnelRegistry.lookup_of_registerTunnel h with hold | ⟨hb, -⟩
      · exact .inl hold
      · exact .inr ⟨⟨gen, hop⟩, hb, Bool.not_eq_false _ ▸ hs⟩

/-- A listener that is there after a task was there before, or an open control session
has just registered it with a mode it has selected. -/
theorem listener_origin {key : Bytes} {b : TunnelBinding}
    (h : (step net s e).tunnelRegistry.listeners.lookup key = some b) :
    s.tunnelRegistry.listeners.lookup key = some b ∨
      ∃ k session generation m, s.sessions.lookup k = some session ∧
        session.openGeneration = some generation ∧ b = session.binding m ∧
        supportsTunnelMode session.selectedCapabilities m.mode = true := by
  by_cases hr : ∃ k m outcome, e = .session k (.registerTunnel m outcome)
  · obtain ⟨k, m, outcome, rfl⟩ := hr
    simp only [step] at h
    split at h
    · exact .inl h
    · next session hk =>
      rcases registerTunnel_of_supported h with hold | ⟨⟨generation, hop⟩, hb, hs⟩
      · exact .inl hold
      · exact .inr ⟨k, session, generation, m, hk, hop, hb, hs⟩
  · refine .inl ?_
    have he := stepEffect net s e
    generalize step net s e = s' at he h
    cases he with
    | nothing | accepted | own | workerRegistered | workerTimedOut | workerAssigned | left
    | workerLeft | updated => exact h
    | opened => exact (TunnelRegistry.lookup_removeClient.1 h).1
    | tunnelRegistered => exact absurd ⟨_, _, _, rfl⟩ hr
    | tunnelUnregistered => exact TunnelRegistry.lookup_of_unregisterTunnel h
    | controlLeft => exact (TunnelRegistry.lookup_removeSession.1 h).1
    | passed => exact (ServerState.lookup_tearDownAffected_listeners.1 h).1

/-- The idle worker a task has added, with the session whose handlers it carries. -/
def ServerState.addedWorker (s : ServerState) : Event → Option (Bytes × SessionKey)
  | .session key .registerWorker =>
    match s.sessions.lookup key with
    | none => none
    | some session =>
      match session.role, (s.sessionRegisterWorker key session).1 with
      | .worker _ workerId .greeted, .ok () => some (workerId, key)
      | _, _ => none
  | _ => none

/-- An idle worker that is there after a task was there before, or its session has just
registered it. -/
theorem worker_origin {wid : Bytes} {w : WorkerRegistration}
    (h : (step net s e).workerPool.entries.lookup wid = some w) :
    (s.workerPool.entries.lookup wid = some w ∧ ∀ k, s.addedWorker e ≠ some (wid, k)) ∨
      ∃ k session, s.addedWorker e = some (wid, k) ∧ s.sessions.lookup k = some session ∧
        session.role = .worker w.sessionGeneration wid .greeted ∧
        session.clientId = w.clientId := by
  by_cases hr : ∃ k, e = .session k .registerWorker
  · obtain ⟨k, rfl⟩ := hr
    simp only [step] at h
    split at h
    · next hk => exact .inl ⟨h, by simp [ServerState.addedWorker, hk]⟩
    · next session hk =>
      simp only [ServerState.sessionStep] at h
      rcases s.sessionRegisterWorker_cases k session with
        ⟨error, he⟩ | ⟨generation, own, hrl, ⟨error, he⟩ | ⟨limit, hw⟩⟩
      · rw [he] at h
        exact .inl ⟨h, by simp [ServerState.addedWorker, hk, he]⟩
      · rw [he] at h
        exact .inl ⟨h, by simp [ServerState.addedWorker, hk, he]⟩
      · have hadd : s.addedWorker (.session k .registerWorker) = some (own, k) := by
          simp [ServerState.addedWorker, hk, hrl, hw]
        rw [hw] at h
        have hent : (s.workerPool.entries.insert own
            ⟨session.clientId, generation, own, limit⟩).lookup wid = some w := h
        rw [lookup_insert_eq_ite] at hent
        split at hent
        · next hown =>
          subst hown
          cases hent
          exact .inr ⟨k, session, hadd, hk, hrl, rfl⟩
        · next hown =>
          refine .inl ⟨hent, fun k' hk' => hown ?_⟩
          rw [hadd] at hk'
          cases hk'
          rfl
  · refine .inl ⟨lookup_worker_of_step hr h, ?_⟩
    intro k hk
    unfold ServerState.addedWorker at hk
    split at hk
    · exact hr ⟨_, rfl⟩
    · cases hk

/-- The session is a worker of the given generation. -/
def ControlSession.Serves (session : ControlSession) (clientId : Bytes) (generation : Nat) :
    Prop :=
  session.clientId = clientId ∧ ∃ workerId phase, session.role = .worker generation workerId phase

theorem ControlSession.Serves.identity (h : session.Serves c g) :
    session.clientId = c ∧ session.generation = g := by
  obtain ⟨hc, _, _, hr⟩ := h
  exact ⟨hc, by rw [ControlSession.generation, hr]⟩

theorem ControlSession.Serves.unique {c' : Bytes} {g' : Nat} (h : session.Serves c g)
    (h' : session.Serves c' g') : c = c' ∧ g = g' :=
  ⟨h.identity.1.symm.trans h'.identity.1, h.identity.2.symm.trans h'.identity.2⟩

variable {session' : ControlSession}

theorem OwnStep.serves {task : SessionTask} (hown : OwnStep s session task session')
    (h : session.Serves c g) : session'.Serves c g := by
  obtain ⟨hc, workerId, phase, hr⟩ := h
  cases hown with
  | hello hfst => rw [hr] at hfst; cases hfst
  | workerHello hfst => rw [hr] at hfst; cases hfst
  | workerRefused hg =>
    rw [hr] at hg
    cases hg
    exact ⟨hc, _, _, rfl⟩
  | workerNotified hi =>
    rw [hr] at hi
    cases hi
    exact ⟨hc, _, _, rfl⟩
  | reloadStop => exact ⟨by simpa using hc, workerId, phase, by simpa using hr⟩

/-- A session that is there after a task, and was not just accepted, was there before; and
if it was a worker, it still is the same one. -/
theorem serves_origin {k : SessionKey} (hk : (step net s e).sessions.lookup k = some session')
    (hnew : e ≠ .accept k) :
    ∃ session, s.sessions.lookup k = some session ∧
      ∀ c g, session.Serves c g → session'.Serves c g := by
  have he := sessionEffect net s e k
  rw [hk] at he
  generalize s.sessions.lookup k = found at he ⊢
  cases he with
  | same | flagged => exact ⟨_, rfl, fun _ _ hs => hs⟩
  | accepted => exact absurd rfl hnew
  | own hown => exact ⟨_, rfl, fun _ _ hs => hown.serves hs⟩
  | opened _ hr =>
    refine ⟨_, rfl, ?_⟩
    rintro c g ⟨-, _, _, hw⟩
    rw [hr] at hw
    cases hw
  | worker hr =>
    refine ⟨_, rfl, ?_⟩
    rintro c g ⟨hc, _, _, hw⟩
    rw [hr] at hw
    cases hw
    exact ⟨hc, _, _, rfl⟩

end Server

end MiniTun
