import MiniTun.Lib.TransitionSystem
import MiniTun.Protocol.StateMachine

/-!
# The two ends of a connection

A client machine and a server machine joined by two queues.  Each sends what its own
machine allows and receives what the other has sent, in order and at any later time.
As long as neither has sent `GOAWAY` or `ERROR`, the pair is in one of a few joint
phases with known queues (`InStep`), so that nothing that arrives is ever refused.
What has been sent before a machine can stand in a state needs no such proviso.
-/

namespace MiniTun.Remote

open StateMachine

/-- Two machines, what is on the way to each of them, and all that was ever sent. -/
structure Connection where
  client : StateMachine
  server : StateMachine
  toServer : List MessageType
  toClient : List MessageType
  sent : List MessageType

namespace Connection

/-- A connection on which nothing has been sent. -/
def opened (kind : ConnectionKind) : Connection :=
  ⟨.new .client kind, .new .server kind, [], [], []⟩

/-- One end sends a message, or receives the next. -/
inductive Event where
  | send (role : PeerRole) (type : MessageType)
  | receive (role : PeerRole)
deriving Repr, DecidableEq

/-- The machine behind a receipt; a refusal leaves it as it is. -/
def received (m : StateMachine) (type : MessageType) : StateMachine :=
  match m.onReceive type with
  | .ok m' => m'
  | .error _ => m

/-- A peer sends a message its machine allows, or takes the first one on the way to it. -/
def step (c : Connection) : Event → Connection
  | .send .client type =>
    match c.client.onSend type with
    | .ok m => { c with client := m, toServer := c.toServer ++ [type], sent := c.sent ++ [type] }
    | .error _ => c
  | .send .server type =>
    match c.server.onSend type with
    | .ok m => { c with server := m, toClient := c.toClient ++ [type], sent := c.sent ++ [type] }
    | .error _ => c
  | .receive .client =>
    match c.toClient with
    | [] => c
    | type :: rest => { c with client := received c.client type, toClient := rest }
  | .receive .server =>
    match c.toServer with
    | [] => c
    | type :: rest => { c with server := received c.server type, toServer := rest }

/-- What a step can do. -/
inductive Takes (c : Connection) : Connection → Prop
  | nothing : Takes c c
  | clientSends {type m} (h : c.client.onSend type = .ok m) :
      Takes c
        { c with client := m, toServer := c.toServer ++ [type], sent := c.sent ++ [type] }
  | serverSends {type m} (h : c.server.onSend type = .ok m) :
      Takes c
        { c with server := m, toClient := c.toClient ++ [type], sent := c.sent ++ [type] }
  | clientReceives {type rest} (h : c.toClient = type :: rest) :
      Takes c { c with client := received c.client type, toClient := rest }
  | serverReceives {type rest} (h : c.toServer = type :: rest) :
      Takes c { c with server := received c.server type, toServer := rest }

theorem takes_step (c : Connection) (event : Event) : c.Takes (c.step event) := by
  unfold step
  split
  · split
    · next h => exact .clientSends h
    · exact .nothing
  · split
    · next h => exact .serverSends h
    · exact .nothing
  · split
    · exact .nothing
    · next h => exact .clientReceives h
  · split
    · exact .nothing
    · next h => exact .serverReceives h

/-! ## What has been sent before -/

/-- The messages that lead to a state. -/
def leadingTo : ConnectionState → List MessageType
  | .clientWaitHelloAck | .serverSendHelloAck => [.hello]
  | .clientSendAuth | .serverWaitAuth => [.hello, .helloAck]
  | .clientWaitAuthResult | .serverSendAuthResult => [.hello, .helloAck, .auth]
  | .authenticated => [.hello, .helloAck, .auth, .authOk]
  | .clientWaitWorkerAccepted | .serverSendWorkerAccepted => [.workerHello]
  | .workerIdle => [.workerHello, .workerAccepted]
  | .clientConnectingLocal | .serverWaitLocalResult =>
    [.workerHello, .workerAccepted, .startRelay]
  | .relay => [.workerHello, .workerAccepted, .startRelay, .localConnectOk]
  | .clientSendHello | .serverWaitHello | .clientSendWorkerHello | .serverWaitWorkerHello
  | .closing => []

/-- The messages that lead to one that is on the way, itself included. -/
def leadingUpTo : MessageType → List MessageType
  | .hello => [.hello]
  | .helloAck => [.hello, .helloAck]
  | .auth => [.hello, .helloAck, .auth]
  | .authOk => [.hello, .helloAck, .auth, .authOk]
  | .workerHello => [.workerHello]
  | .workerAccepted => [.workerHello, .workerAccepted]
  | .startRelay => [.workerHello, .workerAccepted, .startRelay]
  | .localConnectOk => [.workerHello, .workerAccepted, .startRelay, .localConnectOk]
  | _ => []

variable {type : MessageType} {c c' : Connection} {kind : ConnectionKind}

theorem leadingUpTo_client {sending : Bool} (h : clientAuthenticatedMessage sending type = true) :
    leadingUpTo type = [] := by
  cases sending <;> cases type <;> first | rfl | cases h

theorem leadingUpTo_server {sending : Bool} (h : serverAuthenticatedMessage sending type = true) :
    leadingUpTo type = [] := by
  cases sending <;> cases type <;> first | rfl | cases h

section Moves

variable {role : PeerRole} {before after : ConnectionState} {type : MessageType}

theorem leading_of_moves_send (h : Moves role .send before type after) :
    (leadingTo after).Sublist (leadingTo before ++ [type]) ∧
      (leadingUpTo type).Sublist (leadingTo before ++ [type]) := by
  cases h with
  | client h =>
    rw [leadingUpTo_client h]
    exact ⟨List.sublist_append_left _ _, List.nil_sublist _⟩
  | server h =>
    rw [leadingUpTo_server h]
    exact ⟨List.sublist_append_left _ _, List.nil_sublist _⟩
  | _ => exact ⟨by decide, by decide⟩

theorem leading_of_moves_receive (h : Moves role .receive before type after) :
    (leadingTo after).Sublist (leadingTo before) ∨
      (leadingTo after).Sublist (leadingUpTo type) := by
  cases h with
  | client h => exact .inl (List.Sublist.refl _)
  | server h => exact .inl (List.Sublist.refl _)
  | _ => exact .inr (by decide)

end Moves

section Machines

variable {m m' : StateMachine} {type : MessageType} {sent : List MessageType}

theorem leading_of_send (h : m.onSend type = .ok m') (hs : (leadingTo m.state).Sublist sent) :
    (leadingTo m'.state).Sublist (sent ++ [type]) ∧
      (leadingUpTo type).Sublist (sent ++ [type]) := by
  by_cases hloud : type = .goaway ∨ type = .error
  · rw [closing_of_transition hloud h]
    rcases hloud with rfl | rfl <;> exact ⟨List.nil_sublist _, List.nil_sublist _⟩
  · obtain ⟨-, hm⟩ := moves_of_transition hloud h
    have hl := hs.append_right [type]
    have hle := leading_of_moves_send hm
    exact ⟨hle.1.trans hl, hle.2.trans hl⟩

theorem leading_of_received (hs : (leadingTo m.state).Sublist sent)
    (ht : (leadingUpTo type).Sublist sent) :
    (leadingTo (received m type).state).Sublist sent := by
  unfold received
  cases h : m.onReceive type with
  | error e => exact hs
  | ok m' =>
    by_cases hloud : type = .goaway ∨ type = .error
    · simp only [closing_of_transition hloud h]
      exact List.nil_sublist _
    · obtain ⟨-, hm⟩ := moves_of_transition hloud h
      rcases leading_of_moves_receive hm with hl | hl
      · exact hl.trans hs
      · exact hl.trans ht

end Machines

/-- Each machine's state, and each message on the way, has its history behind it. -/
structure Ordered (c : Connection) : Prop where
  client : (leadingTo c.client.state).Sublist c.sent
  server : (leadingTo c.server.state).Sublist c.sent
  toServer : ∀ type ∈ c.toServer, (leadingUpTo type).Sublist c.sent
  toClient : ∀ type ∈ c.toClient, (leadingUpTo type).Sublist c.sent

theorem ordered_opened (kind : ConnectionKind) : (opened kind).Ordered := by
  cases kind <;> exact ⟨by decide, by decide, by simp [opened], by simp [opened]⟩

theorem mem_append_singleton {P : MessageType → Prop} {list : List MessageType}
    (hlist : ∀ t ∈ list, P t) (hty : P type) : ∀ t ∈ list ++ [type], P t := by
  intro t ht
  rcases List.mem_append.1 ht with ht | ht
  · exact hlist t ht
  · exact List.mem_singleton.1 ht ▸ hty

theorem Ordered.step (h : c.Ordered) (htk : c.Takes c') : c'.Ordered := by
  have hl : ∀ (list : List MessageType) (type : MessageType),
      list.Sublist c.sent → list.Sublist (c.sent ++ [type]) :=
    fun _ _ hlist => hlist.trans (List.sublist_append_left _ _)
  cases htk with
  | nothing => exact h
  | clientSends hsend =>
    obtain ⟨hs, hty⟩ := leading_of_send hsend h.client
    exact ⟨hs, hl _ _ h.server,
      mem_append_singleton (fun t ht => hl _ _ (h.toServer t ht)) hty,
      fun t ht => hl _ _ (h.toClient t ht)⟩
  | serverSends hsend =>
    obtain ⟨hs, hty⟩ := leading_of_send hsend h.server
    exact ⟨hl _ _ h.client, hs, fun t ht => hl _ _ (h.toServer t ht),
      mem_append_singleton (fun t ht => hl _ _ (h.toClient t ht)) hty⟩
  | @clientReceives type rest hway =>
    have hmem : ∀ t ∈ type :: rest, (leadingUpTo t).Sublist c.sent := hway ▸ h.toClient
    exact ⟨leading_of_received h.client (hmem type List.mem_cons_self), h.server, h.toServer,
      fun t ht => hmem t (List.mem_cons_of_mem _ ht)⟩
  | @serverReceives type rest hway =>
    have hmem : ∀ t ∈ type :: rest, (leadingUpTo t).Sublist c.sent := hway ▸ h.toServer
    exact ⟨h.client, leading_of_received h.server (hmem type List.mem_cons_self),
      fun t ht => hmem t (List.mem_cons_of_mem _ ht), h.toClient⟩

/-! ## Joint phases -/

/-- The states of the two machines and the queues towards the server and the client,
on a connection nobody has closed out of turn. -/
inductive InStep : ConnectionKind → ConnectionState → ConnectionState → List MessageType →
    List MessageType → Prop
  | control : InStep .control .clientSendHello .serverWaitHello [] []
  | hello : InStep .control .clientWaitHelloAck .serverWaitHello [.hello] []
  | helloReceived : InStep .control .clientWaitHelloAck .serverSendHelloAck [] []
  | helloAck : InStep .control .clientWaitHelloAck .serverWaitAuth [] [.helloAck]
  | helloAckReceived : InStep .control .clientSendAuth .serverWaitAuth [] []
  | auth : InStep .control .clientWaitAuthResult .serverWaitAuth [.auth] []
  | authReceived : InStep .control .clientWaitAuthResult .serverSendAuthResult [] []
  /-- The server is done with the handshake and may already be sending. -/
  | authOk {toClient} (h : ∀ t ∈ toClient, serverAuthenticatedMessage true t = true) :
      InStep .control .clientWaitAuthResult .authenticated [] (.authOk :: toClient)
  | authenticated {toServer toClient}
      (hserver : ∀ t ∈ toServer, clientAuthenticatedMessage true t = true)
      (hclient : ∀ t ∈ toClient, serverAuthenticatedMessage true t = true) :
      InStep .control .authenticated .authenticated toServer toClient
  | authError : InStep .control .clientWaitAuthResult .closing [] [.authError]
  | authErrorReceived : InStep .control .closing .closing [] []
  | worker : InStep .worker .clientSendWorkerHello .serverWaitWorkerHello [] []
  | workerHello : InStep .worker .clientWaitWorkerAccepted .serverWaitWorkerHello [.workerHello] []
  | workerHelloReceived :
      InStep .worker .clientWaitWorkerAccepted .serverSendWorkerAccepted [] []
  | workerAccepted : InStep .worker .clientWaitWorkerAccepted .workerIdle [] [.workerAccepted]
  /-- A worker may be assigned before it has read that it was accepted. -/
  | startRelayEarly : InStep .worker .clientWaitWorkerAccepted .serverWaitLocalResult []
      [.workerAccepted, .startRelay]
  | workerAcceptedReceived : InStep .worker .workerIdle .workerIdle [] []
  | startRelay : InStep .worker .workerIdle .serverWaitLocalResult [] [.startRelay]
  | startRelayReceived : InStep .worker .clientConnectingLocal .serverWaitLocalResult [] []
  | localConnectOk : InStep .worker .relay .serverWaitLocalResult [.localConnectOk] []
  | localConnectOkReceived : InStep .worker .relay .relay [] []
  | localConnectError : InStep .worker .closing .serverWaitLocalResult [.localConnectError] []
  | localConnectErrorReceived : InStep .worker .closing .closing [] []

section InStep

variable {kind : ConnectionKind} {client srv after : ConnectionState}
  {toServer toClient : List MessageType} {type : MessageType}

theorem InStep.clientSends (h : InStep kind client srv toServer toClient)
    (hm : Moves .client .send client type after) :
    InStep kind after srv (toServer ++ [type]) toClient := by
  cases h with
  | authenticated hs hc =>
    cases hm with
    | client hmsg => exact .authenticated (mem_append_singleton hs hmsg) hc
  | _ =>
    cases hm
    all_goals constructor

theorem InStep.serverSends (h : InStep kind client srv toServer toClient)
    (hm : Moves .server .send srv type after) :
    InStep kind client after toServer (toClient ++ [type]) := by
  cases h with
  | authOk hc =>
    cases hm with
    | server hmsg => exact .authOk (mem_append_singleton hc hmsg)
  | authenticated hs hc =>
    cases hm with
    | server hmsg => exact .authenticated hs (mem_append_singleton hc hmsg)
  | authReceived =>
    cases hm with
    | sendAuthOk => exact .authOk (by simp)
    | sendAuthError => exact .authError
  | _ =>
    cases hm
    all_goals constructor

theorem client_receives_authenticated (h : serverAuthenticatedMessage true type = true) :
    (StateMachine.mk .client .control .authenticated).onReceive type =
      .ok ⟨.client, .control, .authenticated⟩ := by
  cases type <;> first | rfl | cases h

theorem server_receives_authenticated (h : clientAuthenticatedMessage true type = true) :
    (StateMachine.mk .server .control .authenticated).onReceive type =
      .ok ⟨.server, .control, .authenticated⟩ := by
  cases type <;> first | rfl | cases h

theorem InStep.clientReceives (h : InStep kind client srv toServer (type :: toClient)) :
    ∃ after, (StateMachine.mk .client kind client).onReceive type = .ok ⟨.client, kind, after⟩ ∧
      InStep kind after srv toServer toClient := by
  cases h with
  | helloAck => exact ⟨_, rfl, .helloAckReceived⟩
  | authOk hc => exact ⟨_, rfl, .authenticated (by simp) hc⟩
  | authenticated hs hc =>
    obtain ⟨hh, ht⟩ := List.forall_mem_cons.1 hc
    exact ⟨_, client_receives_authenticated hh, .authenticated hs ht⟩
  | authError => exact ⟨_, rfl, .authErrorReceived⟩
  | workerAccepted => exact ⟨_, rfl, .workerAcceptedReceived⟩
  | startRelayEarly => exact ⟨_, rfl, .startRelay⟩
  | startRelay => exact ⟨_, rfl, .startRelayReceived⟩

theorem InStep.serverReceives (h : InStep kind client srv (type :: toServer) toClient) :
    ∃ after, (StateMachine.mk .server kind srv).onReceive type = .ok ⟨.server, kind, after⟩ ∧
      InStep kind client after toServer toClient := by
  cases h with
  | hello => exact ⟨_, rfl, .helloReceived⟩
  | auth => exact ⟨_, rfl, .authReceived⟩
  | authenticated hs hc =>
    obtain ⟨hh, ht⟩ := List.forall_mem_cons.1 hs
    exact ⟨_, server_receives_authenticated hh, .authenticated ht hc⟩
  | workerHello => exact ⟨_, rfl, .workerHelloReceived⟩
  | localConnectOk => exact ⟨_, rfl, .localConnectOkReceived⟩
  | localConnectError => exact ⟨_, rfl, .localConnectErrorReceived⟩

theorem InStep.toClient_of_relay (h : InStep kind .relay srv toServer toClient) :
    toClient = [] := by
  cases h <;> rfl

theorem InStep.toServer_of_relay (h : InStep kind client .relay toServer toClient) :
    toServer = [] := by
  cases h
  rfl

end InStep

/-- Nobody has sent one of the two messages that close a connection out of turn. -/
def Quiet (c : Connection) : Prop :=
  ∀ type ∈ c.sent, ¬ (type = .goaway ∨ type = .error)

/-- The machines of the two ends of one connection, in a joint phase. -/
structure Synchronised (kind : ConnectionKind) (c : Connection) : Prop where
  client : c.client = ⟨.client, kind, c.client.state⟩
  server : c.server = ⟨.server, kind, c.server.state⟩
  phase : InStep kind c.client.state c.server.state c.toServer c.toClient

theorem synchronised_opened (kind : ConnectionKind) : Synchronised kind (opened kind) := by
  cases kind with
  | control => exact ⟨rfl, rfl, .control⟩
  | worker => exact ⟨rfl, rfl, .worker⟩

theorem Synchronised.step (h : Synchronised kind c) (ht : c.Takes c') (hq : c'.Quiet) :
    Synchronised kind c' := by
  cases ht with
  | nothing => exact h
  | clientSends hsend =>
    obtain ⟨hm, hmv⟩ := moves_of_transition (hq _ (by simp)) hsend
    rw [h.client] at hm hmv
    refine ⟨?_, h.server, h.phase.clientSends hmv⟩
    rw [hm]
  | serverSends hsend =>
    obtain ⟨hm, hmv⟩ := moves_of_transition (hq _ (by simp)) hsend
    rw [h.server] at hm hmv
    refine ⟨h.client, ?_, h.phase.serverSends hmv⟩
    rw [hm]
  | clientReceives hway =>
    have hp := h.phase
    rw [hway] at hp
    obtain ⟨after, ha, haf⟩ := hp.clientReceives
    rw [← h.client] at ha
    simp only [received, ha]
    exact ⟨rfl, h.server, haf⟩
  | serverReceives hway =>
    have hp := h.phase
    rw [hway] at hp
    obtain ⟨after, ha, haf⟩ := hp.serverReceives
    rw [← h.server] at ha
    simp only [received, ha]
    exact ⟨h.client, rfl, haf⟩

theorem Takes.quiet_of_quiet (htk : c.Takes c') (h : c'.Quiet) : c.Quiet := by
  cases htk with
  | nothing => exact h
  | clientSends _ => exact fun t ht => h t (List.mem_append_left _ ht)
  | serverSends _ => exact fun t ht => h t (List.mem_append_left _ ht)
  | clientReceives _ => exact h
  | serverReceives _ => exact h

/-! ## Every run -/

open TransitionSystem (exec exec_invariant)

theorem ordered_exec (kind : ConnectionKind) (events : List Event) :
    (exec step (opened kind) events).Ordered :=
  exec_invariant (fun c event (h : c.Ordered) => h.step (c.takes_step event))
    (ordered_opened kind) events

theorem synchronised_exec (kind : ConnectionKind) (events : List Event)
    (hq : (exec step (opened kind) events).Quiet) :
    Synchronised kind (exec step (opened kind) events) := by
  have hs : ∀ (c : Connection) (event : Event), (c.Quiet → Synchronised kind c) →
      (c.step event).Quiet → Synchronised kind (c.step event) := by
    intro c event h ha
    have ht := c.takes_step event
    exact (h (ht.quiet_of_quiet ha)).step ht ha
  exact exec_invariant hs (fun _ => synchronised_opened kind) events hq

/-- The head of each queue is accepted by the machine it goes to. -/
def Accepting (c : Connection) : Prop :=
  (∀ type rest, c.toClient = type :: rest → (c.client.onReceive type).isOk = true) ∧
    ∀ type rest, c.toServer = type :: rest → (c.server.onReceive type).isOk = true

/-- No frame is on its way to a machine that has left framed mode for the relay. -/
def Drained (c : Connection) : Prop :=
  (c.client.state = .relay → c.toClient = []) ∧ (c.server.state = .relay → c.toServer = [])

/-- A machine is authenticated, or relays, only behind the messages of its handshake. -/
def HandshakeSent (c : Connection) : Prop :=
  ((c.client.state = .authenticated ∨ c.server.state = .authenticated) →
    [MessageType.hello, .helloAck, .auth, .authOk].Sublist c.sent) ∧
  ((c.client.state = .relay ∨ c.server.state = .relay) →
    [MessageType.workerHello, .workerAccepted, .startRelay, .localConnectOk].Sublist c.sent)

theorem Ordered.handshakeSent (h : c.Ordered) : c.HandshakeSent := by
  have hc := h.client
  have hsv := h.server
  constructor
  · rintro (hs | hs)
    · rw [hs] at hc
      exact hc
    · rw [hs] at hsv
      exact hsv
  · rintro (hs | hs)
    · rw [hs] at hc
      exact hc
    · rw [hs] at hsv
      exact hsv

theorem Synchronised.accepting (h : Synchronised kind c) : c.Accepting := by
  have hp := h.phase
  constructor
  · intro type rest hway
    rw [hway] at hp
    obtain ⟨after, ha, -⟩ := hp.clientReceives
    rw [h.client, ha]
    rfl
  · intro type rest hway
    rw [hway] at hp
    obtain ⟨after, ha, -⟩ := hp.serverReceives
    rw [h.server, ha]
    rfl

theorem Synchronised.drained (h : Synchronised kind c) : c.Drained := by
  have hp := h.phase
  constructor
  · intro hs
    rw [hs] at hp
    exact hp.toClient_of_relay
  · intro hs
    rw [hs] at hp
    exact hp.toServer_of_relay

/-- The machines of the two ends are dual: in every run, the handshake has been sent in
its order before a machine stands behind it; and until someone sends `GOAWAY` or
`ERROR`, whatever arrives first is accepted and nothing is on its way to a relay. -/
theorem machines_dual (kind : ConnectionKind) (events : List Event) :
    (exec step (opened kind) events).HandshakeSent ∧
      ((exec step (opened kind) events).Quiet →
        (exec step (opened kind) events).Accepting ∧ (exec step (opened kind) events).Drained) := by
  refine ⟨(ordered_exec kind events).handshakeSent, fun hquiet => ?_⟩
  have hsynchronised := synchronised_exec kind events hquiet
  exact ⟨hsynchronised.accepting, hsynchronised.drained⟩

/-- A worker that is assigned early still reaches the relay on both ends. -/
example : (exec step (opened .worker)
    [.send .client .workerHello, .receive .server, .send .server .workerAccepted,
      .send .server .startRelay, .receive .client, .receive .client,
      .send .client .localConnectOk, .receive .server]).server.state = .relay := by decide

end Connection

end MiniTun.Remote
