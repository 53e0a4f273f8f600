import MiniTun.Protocol.Frame

/-!
# The protocol state machine

`protocol::StateMachine`: which message a peer may send or receive next.  There is
one machine for both roles and both kinds of connection; a peer asks it before it
sends a frame and when it has received one.  A refusal leaves the machine as it is.
-/

namespace MiniTun.Remote

def MessageType.wire : MessageType → UInt16
  | .hello => 1
  | .helloAck => 2
  | .auth => 3
  | .authOk => 4
  | .authError => 5
  | .registerTunnel => 6
  | .registerTunnelOk => 7
  | .registerTunnelError => 8
  | .unregisterTunnel => 9
  | .unregisterTunnelOk => 10
  | .requestWorkers => 11
  | .ping => 12
  | .pong => 13
  | .goaway => 14
  | .error => 15
  | .workerHello => 0x0100
  | .workerAccepted => 0x0101
  | .startRelay => 0x0102
  | .localConnectOk => 0x0103
  | .localConnectError => 0x0104

def isControlMessage (type : MessageType) : Bool :=
  type.wire ≥ MessageType.hello.wire && type.wire ≤ MessageType.error.wire

def isWorkerMessage (type : MessageType) : Bool :=
  type.wire ≥ MessageType.workerHello.wire && type.wire ≤ MessageType.localConnectError.wire

inductive PeerRole where
  | client | server
deriving Repr, DecidableEq

inductive ConnectionKind where
  | control | worker
deriving Repr, DecidableEq

inductive ConnectionState where
  | clientSendHello | clientWaitHelloAck | clientSendAuth | clientWaitAuthResult
  | serverWaitHello | serverSendHelloAck | serverWaitAuth | serverSendAuthResult
  | authenticated
  | clientSendWorkerHello | clientWaitWorkerAccepted
  | serverWaitWorkerHello | serverSendWorkerAccepted
  | workerIdle | clientConnectingLocal | serverWaitLocalResult
  | relay | closing
deriving Repr, DecidableEq

inductive Direction where
  | send | receive
deriving Repr, DecidableEq

def clientAuthenticatedMessage (sending : Bool) (type : MessageType) : Bool :=
  if sending then
    type = .registerTunnel || type = .unregisterTunnel || type = .ping || type = .pong
  else
    type = .registerTunnelOk || type = .registerTunnelError || type = .unregisterTunnelOk ||
      type = .requestWorkers || type = .ping || type = .pong

def serverAuthenticatedMessage (sending : Bool) (type : MessageType) : Bool :=
  if sending then
    type = .registerTunnelOk || type = .registerTunnelError || type = .unregisterTunnelOk ||
      type = .requestWorkers || type = .ping || type = .pong
  else
    type = .registerTunnel || type = .unregisterTunnel || type = .ping || type = .pong

structure StateMachine where
  role : PeerRole
  kind : ConnectionKind
  state : ConnectionState
deriving Repr, DecidableEq

namespace StateMachine

def new (role : PeerRole) (kind : ConnectionKind) : StateMachine where
  role := role
  kind := kind
  state := match kind, role with
    | .control, .client => .clientSendHello
    | .control, .server => .serverWaitHello
    | .worker, .client => .clientSendWorkerHello
    | .worker, .server => .serverWaitWorkerHello

def invalidTransition : Result StateMachine :=
  failure .protocolError "remote protocol message is invalid for the current connection state"

/-- `StateMachine::transition`. -/
def transition (m : StateMachine) (direction : Direction) (type : MessageType) :
    Result StateMachine :=
  if m.state = .relay ∨ m.state = .closing then invalidTransition
  else if type = .goaway ∨ type = .error then .ok { m with state := .closing }
  else if m.kind = .control ∧ !isControlMessage type then invalidTransition
  else if m.kind = .worker ∧ !isWorkerMessage type then invalidTransition
  else match m.state with
    | .clientSendHello =>
      if direction = .send ∧ type = .hello then .ok { m with state := .clientWaitHelloAck }
      else invalidTransition
    | .clientWaitHelloAck =>
      if direction = .receive ∧ type = .helloAck then .ok { m with state := .clientSendAuth }
      else invalidTransition
    | .clientSendAuth =>
      if direction = .send ∧ type = .auth then .ok { m with state := .clientWaitAuthResult }
      else invalidTransition
    | .clientWaitAuthResult =>
      if direction = .receive ∧ type = .authOk then .ok { m with state := .authenticated }
      else if direction = .receive ∧ type = .authError then .ok { m with state := .closing }
      else invalidTransition
    | .serverWaitHello =>
      if direction = .receive ∧ type = .hello then .ok { m with state := .serverSendHelloAck }
      else invalidTransition
    | .serverSendHelloAck =>
      if direction = .send ∧ type = .helloAck then .ok { m with state := .serverWaitAuth }
      else invalidTransition
    | .serverWaitAuth =>
      if direction = .receive ∧ type = .auth then .ok { m with state := .serverSendAuthResult }
      else invalidTransition
    | .serverSendAuthResult =>
      if direction = .send ∧ type = .authOk then .ok { m with state := .authenticated }
      else if direction = .send ∧ type = .authError then .ok { m with state := .closing }
      else invalidTransition
    | .authenticated =>
      if (m.role = .client ∧ clientAuthenticatedMessage (direction = .send) type) ∨
          (m.role = .server ∧ serverAuthenticatedMessage (direction = .send) type) then .ok m
      else invalidTransition
    | .clientSendWorkerHello =>
      if direction = .send ∧ type = .workerHello then
        .ok { m with state := .clientWaitWorkerAccepted }
      else invalidTransition
    | .clientWaitWorkerAccepted =>
      if direction = .receive ∧ type = .workerAccepted then .ok { m with state := .workerIdle }
      else invalidTransition
    | .serverWaitWorkerHello =>
      if direction = .receive ∧ type = .workerHello then
        .ok { m with state := .serverSendWorkerAccepted }
      else invalidTransition
    | .serverSendWorkerAccepted =>
      if direction = .send ∧ type = .workerAccepted then .ok { m with state := .workerIdle }
      else invalidTransition
    | .workerIdle =>
      if m.role = .client ∧ direction = .receive ∧ type = .startRelay then
        .ok { m with state := .clientConnectingLocal }
      else if m.role = .server ∧ direction = .send ∧ type = .startRelay then
        .ok { m with state := .serverWaitLocalResult }
      else invalidTransition
    | .clientConnectingLocal =>
      if direction = .send ∧ type = .localConnectOk then .ok { m with state := .relay }
      else if direction = .send ∧ type = .localConnectError then .ok { m with state := .closing }
      else invalidTransition
    | .serverWaitLocalResult =>
      if direction = .receive ∧ type = .localConnectOk then .ok { m with state := .relay }
      else if direction = .receive ∧ type = .localConnectError then
        .ok { m with state := .closing }
      else invalidTransition
    | .relay => invalidTransition
    | .closing => invalidTransition

def onSend (m : StateMachine) (type : MessageType) : Result StateMachine :=
  m.transition .send type

def onReceive (m : StateMachine) (type : MessageType) : Result StateMachine :=
  m.transition .receive type

/-! ## What a machine can do -/

/-- The moves of a machine other than the two that close it from any state.  That a
message belongs to the kind of the connection is part of the states it moves between. -/
inductive Moves : PeerRole → Direction → ConnectionState → MessageType → ConnectionState → Prop
  | sendHello {role} : Moves role .send .clientSendHello .hello .clientWaitHelloAck
  | receiveHello {role} : Moves role .receive .serverWaitHello .hello .serverSendHelloAck
  | sendHelloAck {role} : Moves role .send .serverSendHelloAck .helloAck .serverWaitAuth
  | receiveHelloAck {role} : Moves role .receive .clientWaitHelloAck .helloAck .clientSendAuth
  | sendAuth {role} : Moves role .send .clientSendAuth .auth .clientWaitAuthResult
  | receiveAuth {role} : Moves role .receive .serverWaitAuth .auth .serverSendAuthResult
  | sendAuthOk {role} : Moves role .send .serverSendAuthResult .authOk .authenticated
  | receiveAuthOk {role} : Moves role .receive .clientWaitAuthResult .authOk .authenticated
  | sendAuthError {role} : Moves role .send .serverSendAuthResult .authError .closing
  | receiveAuthError {role} : Moves role .receive .clientWaitAuthResult .authError .closing
  | client {direction type} (h : clientAuthenticatedMessage (direction = .send) type = true) :
      Moves .client direction .authenticated type .authenticated
  | server {direction type} (h : serverAuthenticatedMessage (direction = .send) type = true) :
      Moves .server direction .authenticated type .authenticated
  | sendWorkerHello {role} :
      Moves role .send .clientSendWorkerHello .workerHello .clientWaitWorkerAccepted
  | receiveWorkerHello {role} :
      Moves role .receive .serverWaitWorkerHello .workerHello .serverSendWorkerAccepted
  | sendWorkerAccepted {role} :
      Moves role .send .serverSendWorkerAccepted .workerAccepted .workerIdle
  | receiveWorkerAccepted {role} :
      Moves role .receive .clientWaitWorkerAccepted .workerAccepted .workerIdle
  | sendStartRelay : Moves .server .send .workerIdle .startRelay .serverWaitLocalResult
  | receiveStartRelay : Moves .client .receive .workerIdle .startRelay .clientConnectingLocal
  | sendLocalConnectOk {role} : Moves role .send .clientConnectingLocal .localConnectOk .relay
  | receiveLocalConnectOk {role} : Moves role .receive .serverWaitLocalResult .localConnectOk .relay
  | sendLocalConnectError {role} :
      Moves role .send .clientConnectingLocal .localConnectError .closing
  | receiveLocalConnectError {role} :
      Moves role .receive .serverWaitLocalResult .localConnectError .closing

variable {m m' : StateMachine} {direction : Direction} {type : MessageType}

theorem invalidTransition_ne_ok : invalidTransition ≠ .ok m :=
  failure_ne_ok

/-- A branch that moves under a condition and goes on to another one otherwise. -/
theorem ite_eq_ok {C : Prop} [Decidable C] {r r' : Result StateMachine} :
    (if C then r else r') = .ok m ↔ (C ∧ r = .ok m) ∨ (¬ C ∧ r' = .ok m) := by
  by_cases h : C
  · simp [h]
  · simp [h]

theorem moves_of_transition (hq : ¬ (type = .goaway ∨ type = .error))
    (h : m.transition direction type = .ok m') :
    m' = { m with state := m'.state } ∧ Moves m.role direction m.state type m'.state := by
  obtain ⟨role, kind, state⟩ := m
  obtain ⟨-, h⟩ | ⟨-, h⟩ := ite_eq_ok.1 h
  · exact absurd h invalidTransition_ne_ok
  rw [if_neg hq] at h
  obtain ⟨-, h⟩ | ⟨-, h⟩ := ite_eq_ok.1 h
  · exact absurd h invalidTransition_ne_ok
  obtain ⟨-, h⟩ | ⟨-, h⟩ := ite_eq_ok.1 h
  · exact absurd h invalidTransition_ne_ok
  cases state with
  | clientSendHello | clientWaitHelloAck | clientSendAuth | serverWaitHello | serverSendHelloAck
  | serverWaitAuth | clientSendWorkerHello | clientWaitWorkerAccepted | serverWaitWorkerHello
  | serverSendWorkerAccepted =>
    -- one message is permitted
    obtain ⟨⟨rfl, rfl⟩, h⟩ | ⟨-, h⟩ := ite_eq_ok.1 h <;> cases h
    exact ⟨rfl, by constructor⟩
  | clientWaitAuthResult | serverSendAuthResult | clientConnectingLocal | serverWaitLocalResult =>
    obtain ⟨⟨rfl, rfl⟩, h⟩ | ⟨-, h⟩ := ite_eq_ok.1 h
    · cases h
      exact ⟨rfl, by constructor⟩
    obtain ⟨⟨rfl, rfl⟩, h⟩ | ⟨-, h⟩ := ite_eq_ok.1 h <;> cases h
    exact ⟨rfl, by constructor⟩
  | authenticated =>
    obtain ⟨⟨rfl, hmsg⟩ | ⟨rfl, hmsg⟩, h⟩ | ⟨-, h⟩ := ite_eq_ok.1 h <;> cases h
    · exact ⟨rfl, .client hmsg⟩
    · exact ⟨rfl, .server hmsg⟩
  | workerIdle =>
    obtain ⟨⟨rfl, rfl, rfl⟩, h⟩ | ⟨-, h⟩ := ite_eq_ok.1 h
    · cases h
      exact ⟨rfl, .receiveStartRelay⟩
    obtain ⟨⟨rfl, rfl, rfl⟩, h⟩ | ⟨-, h⟩ := ite_eq_ok.1 h <;> cases h
    exact ⟨rfl, .sendStartRelay⟩
  | relay | closing => exact absurd h invalidTransition_ne_ok

theorem closing_of_transition (hloud : type = .goaway ∨ type = .error)
    (h : m.transition direction type = .ok m') : m' = { m with state := .closing } := by
  obtain ⟨-, h⟩ | ⟨-, h⟩ := ite_eq_ok.1 h
  · exact absurd h invalidTransition_ne_ok
  rw [if_pos hloud] at h
  cases h
  rfl

end StateMachine

end MiniTun.Remote
