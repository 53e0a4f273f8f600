import MiniTun.Common.Endpoint
import MiniTun.Lib.TransitionSystem
import MiniTun.Protocol.Codec
import MiniTun.Server.SourceAdmission

/-!
# From the public peer to the Worker

A TCP listener hands the accepted socket itself to `handle_public_connection`.  A UDP
listener keeps a session for each peer and hands over one end of a socket pair on the
loopback interface; the peer's datagrams go in at the other end.  `remote_endpoint`, which
the source check asks, names the peer in the first case and `127.0.0.1` in the second.

Every datagram carries its true sender in the model, so that what reaches a Worker can be
compared with the policy it was admitted under.  Budgets and queue limits only drop
datagrams; they are an input of the event, as are the answers of the operating system, of
the limiter and of the quota.
-/

namespace MiniTun.Server

open KeyedMap

/-- A public peer; for UDP `asio::ip::udp::endpoint`. -/
structure PublicPeer where
  address : Address
  port : Nat
deriving DecidableEq

def peerKey (net : AddressText) (peer : PublicPeer) : Bytes :=
  net.print peer.address ++ ascii ":" ++ decimal peer.port

/-- The port is what follows the last colon, so a key names one peer. -/
theorem peerKey_injective {net : AddressText} (hp : Function.Injective net.print)
    {p q : PublicPeer} (h : peerKey net p = peerKey net q) : p = q := by
  unfold peerKey at h
  rw [List.append_assoc, List.append_assoc] at h
  obtain ⟨hadd, hpt⟩ := append_cons_decimal_inj (by decide) h
  rw [PublicPeer.mk.injEq]
  exact ⟨hp hadd, hpt⟩

/-- Bytes on their way to a Worker, with the peer that sent them. -/
structure Datagram where
  sender : PublicPeer
  bytes : Bytes

/-- Where an admitted connection is. -/
inductive ConnectionStage where
  | waiting
  /-- A Worker has it. -/
  | assigned
  | closed
deriving DecidableEq

/-- A connection that passed the source check and the quota, with the policy it was
admitted under. -/
structure AdmittedConnection where
  binding : TunnelBinding
  policy : ClientPolicy
  peer : PublicPeer
  stage : ConnectionStage
  /-- What can be read from its socket. -/
  inbound : List Datagram

/-- `UdpListener::PeerSession`.  `relay` is the connection the other end of the bridge
became, if it was not closed at once. -/
structure PeerSession where
  peer : PublicPeer
  relay : Option Nat
  stopped : Bool
  queue : List Datagram

/-- A decision of the source check about a peer, with the policy in force. -/
structure SourceDecision where
  mode : TunnelMode
  policy : ClientPolicy
  sender : PublicPeer

/-- `handed` and `refused` are the history: whose bytes a Worker got and through what, and
whom the source check turned away. -/
structure Ingress where
  running : Bool
  policies : PolicySnapshot
  connections : Map Nat AdmittedConnection
  /-- The `peers_` of the UDP listeners, by listener and peer. -/
  peers : Map (Bytes × Bytes) PeerSession
  handed : List SourceDecision
  refused : List SourceDecision

/-- What the environment decides about a new socket. -/
structure Circumstances where
  /-- The name of the connection it may become. -/
  connection : Nat
  endpointKnown : Bool
  limiterAllows : Bool
  quotaAllows : Bool

/-- What the public, the Workers and the policies do. -/
inductive IngressEvent where
  | installPolicies (snapshot : PolicySnapshot)
  | stop
  /-- A TCP listener accepts a socket. -/
  | accept (binding : TunnelBinding) (peer : PublicPeer) (env : Circumstances)
  /-- The peer of a TCP connection sends bytes. -/
  | send (connection : Nat) (bytes : Bytes)
  /-- A UDP listener receives a datagram.  `reserved` is the answer of `reserve_ingress`,
  `room` whether one more peer fits, `paired` whether the socket pair could be made, and
  `queued` whether the peer's own queue takes the record. -/
  | datagram (binding : TunnelBinding) (peer : PublicPeer) (payload : Bytes)
      (reserved room paired queued : Bool) (env : Circumstances)
  /-- The session of a peer writes its next record to the bridge. -/
  | writeNext (listener peer : Bytes)
  /-- The bridge of a peer fails; later `peer_finished` runs. -/
  | closeBridge (listener peer : Bytes)
  | peerFinished (listener peer : Bytes)
  | assign (connection : Nat)
  /-- The relay hands what it reads next to the Worker. -/
  | relay (connection : Nat)
  | closeConnection (connection : Nat)

def loopbackAddress : Address :=
  .v4 0x7f000001#32

/-- `remote_endpoint` of the socket that is handed over for a peer. -/
def socketAddress (mode : TunnelMode) (peer : PublicPeer) : Address :=
  if mode = .udp then loopbackAddress else peer.address

/-- The `kMaximumUdpPayloadSize` of the protocol. -/
def kMaximumUdpPayloadSize : Nat := 65507

def encodeDatagramRecord (payload : Bytes) : Result Bytes :=
  if kMaximumUdpPayloadSize < payload.length then
    failure .invalidArgument "UDP payload exceeds the protocol limit"
  else .ok (Protocol.u16.encode payload.length.toUInt16 ++ payload)

namespace Ingress

/-- `handle_public_connection`: the state after it, and whether the socket was kept. -/
def handlePublicConnection (s : Ingress) (b : TunnelBinding) (peer : PublicPeer)
    (env : Circumstances) : Ingress × Bool :=
  let remote := if env.endpointKnown then some (socketAddress b.mode peer) else none
  match sourceVerdict s.running s.policies b remote env.limiterAllows with
  | .admitted policy =>
    if env.quotaAllows ∧ s.connections.lookup env.connection = none then
      ({ s with
        connections := s.connections.insert env.connection ⟨b, policy, peer, .waiting, []⟩ }, true)
    else (s, false)
  | .refused policy => ({ s with refused := ⟨b.mode, policy, peer⟩ :: s.refused }, false)
  | _ => (s, false)

def enqueue (s : Ingress) (key : Bytes × Bytes) (datagram : Datagram) (queued : Bool) :
    Ingress :=
  match s.peers.lookup key with
  | none => s
  | some session =>
    if session.stopped ∨ queued = false then s
    else
      { s with
        peers := s.peers.insert key { session with queue := session.queue ++ [datagram] } }

/-- `UdpListener::handle_datagram`, once the record is encoded and its budget reserved. -/
def handleDatagram (net : AddressText) (s : Ingress) (b : TunnelBinding) (peer : PublicPeer)
    (record : Bytes) (room paired queued : Bool) (env : Circumstances) : Ingress :=
  let key := (bindingKey b.clientId b.tunnelId, peerKey net peer)
  match s.peers.lookup key with
  | some _ => s.enqueue key ⟨peer, record⟩ queued
  | none =>
    if room = false ∨ paired = false then s
    else
      let (s, kept) := s.handlePublicConnection b peer env
      let session : PeerSession := ⟨peer, if kept then some env.connection else none, false, []⟩
      { s with peers := s.peers.insert key session }.enqueue key ⟨peer, record⟩ queued

/-- What a socket can be read from grows. -/
def arrive (s : Ingress) (connection : Nat) (datagram : Datagram) : Ingress :=
  match s.connections.lookup connection with
  | none => s
  | some c =>
    if c.stage = .closed then s
    else
      { s with
        connections := s.connections.insert connection
          { c with inbound := c.inbound ++ [datagram] } }

def step (net : AddressText) (s : Ingress) : IngressEvent → Ingress
  | .installPolicies snapshot => { s with policies := snapshot }
  | .stop => { s with running := false }
  | .accept b peer env =>
    if b.mode = .udp then s else (s.handlePublicConnection b peer env).1
  | .send connection bytes =>
    match s.connections.lookup connection with
    | none => s
    | some c => if c.binding.mode = .udp then s else s.arrive connection ⟨c.peer, bytes⟩
  | .datagram b peer payload reserved room paired queued env =>
    match encodeDatagramRecord payload with
    | .error _ => s
    | .ok record =>
      if b.mode ≠ .udp ∨ reserved = false then s
      else s.handleDatagram net b peer record room paired queued env
  | .writeNext listener peer =>
    match s.peers.lookup (listener, peer) with
    | none => s
    | some session =>
      match session.stopped, session.queue with
      | false, datagram :: rest =>
        let s := { s with peers := s.peers.insert (listener, peer) { session with queue := rest } }
        match session.relay with
        | none => s
        | some connection => s.arrive connection datagram
      | _, _ => s
  | .closeBridge listener peer =>
    match s.peers.lookup (listener, peer) with
    | none => s
    | some session =>
      { s with
        peers := s.peers.insert (listener, peer) { session with stopped := true, queue := [] } }
  | .peerFinished listener peer =>
    match s.peers.lookup (listener, peer) with
    | none => s
    | some session =>
      if session.stopped then { s with peers := s.peers.erase (listener, peer) } else s
  | .assign connection =>
    match s.connections.lookup connection with
    | none => s
    | some c =>
      if c.stage = .waiting then
        { s with connections := s.connections.insert connection { c with stage := .assigned } }
      else s
  | .relay connection =>
    match s.connections.lookup connection with
    | none => s
    | some c =>
      match c.stage, c.inbound with
      | .assigned, datagram :: rest =>
        { s with
          connections := s.connections.insert connection { c with inbound := rest }
          handed := ⟨c.binding.mode, c.policy, datagram.sender⟩ :: s.handed }
      | _, _ => s
  | .closeConnection connection =>
    match s.connections.lookup connection with
    | none => s
    | some c =>
      { s with
        connections := s.connections.insert connection { c with stage := .closed, inbound := [] } }

/-! ## What the steps keep -/

/-- What an enabled policy says about the address of a peer's socket. -/
structure Decided (d : SourceDecision) (allowed : Bool) : Prop where
  enabled : d.policy.enabled = true
  verdict : d.policy.allowsSource (socketAddress d.mode d.sender) = allowed

/-- The policy allows the address of the connection's socket, and all bytes in it are
the peer's. -/
structure Sourced (c : AdmittedConnection) : Prop where
  allowed : Decided ⟨c.binding.mode, c.policy, c.peer⟩ true
  inbound : ∀ datagram ∈ c.inbound, datagram.sender = c.peer

/-- A session is filed under its peer, holds that peer's datagrams, and feeds a
connection of that peer. -/
structure Filed (net : AddressText) (connections : Map Nat AdmittedConnection) (key : Bytes)
    (session : PeerSession) : Prop where
  key_eq : peerKey net session.peer = key
  queue : ∀ datagram ∈ session.queue, datagram.sender = session.peer
  relay : ∀ connection, session.relay = some connection →
    ∃ c, connections.lookup connection = some c ∧ c.peer = session.peer

/-- The invariant: every verdict is about the peer's socket. -/
structure WellSourced (net : AddressText) (s : Ingress) : Prop where
  connections : ∀ connection c, s.connections.lookup connection = some c → Sourced c
  peers : ∀ listener key session, s.peers.lookup (listener, key) = some session →
    Filed net s.connections key session
  handed : ∀ d ∈ s.handed, Decided d true
  refused : ∀ d ∈ s.refused, Decided d false

section Steps

variable {net : AddressText} {s : Ingress}

section Steps

variable (h : WellSourced net s)
include h

theorem WellSourced.setConnection {conn : Nat} {c : AdmittedConnection} (hc : Sourced c)
    (hpeer : ∀ c₀, s.connections.lookup conn = some c₀ → c.peer = c₀.peer) :
    WellSourced net { s with connections := s.connections.insert conn c } where
  connections := by
    exact forall_lookup_insert hc h.connections
  peers := by
    intro lsn key ses hs
    have hf := h.peers lsn key ses hs
    refine ⟨hf.key_eq, hf.queue, ?_⟩
    intro other hr
    obtain ⟨c₀, hl, hc₀⟩ := hf.relay other hr
    by_cases heq : other = conn
    · subst heq
      exact ⟨c, by simp, (hpeer c₀ hl).trans hc₀⟩
    · exact ⟨c₀, by rw [lookup_insert_eq_ite, if_neg heq]; exact hl, hc₀⟩
  handed := h.handed
  refused := h.refused

theorem WellSourced.changeConnection {conn : Nat} {c c' : AdmittedConnection}
    (hc : s.connections.lookup conn = some c) (hc' : Sourced c') (hpeer : c'.peer = c.peer) :
    WellSourced net { s with connections := s.connections.insert conn c' } := by
  refine h.setConnection hc' fun c₀ hc₀ => ?_
  rw [hc] at hc₀
  cases hc₀
  exact hpeer

theorem WellSourced.setPeer {lsn key : Bytes} {ses : PeerSession}
    (hs : Filed net s.connections key ses) :
    WellSourced net { s with peers := s.peers.insert (lsn, key) ses } where
  connections := h.connections
  peers := by
    intro listener' key' ses' hl
    rw [lookup_insert_eq_ite] at hl
    split at hl
    · next hkey =>
      cases hkey
      cases hl
      exact hs
    · exact h.peers listener' key' ses' hl
  handed := h.handed
  refused := h.refused

theorem WellSourced.arrive {conn : Nat} {datagram : Datagram}
    (hsn : ∀ c, s.connections.lookup conn = some c → datagram.sender = c.peer) :
    WellSourced net (s.arrive conn datagram) := by
  unfold Ingress.arrive
  split
  · exact h
  · next c hc =>
    split
    · exact h
    · have hs := h.connections conn c hc
      refine h.changeConnection hc ⟨hs.allowed, ?_⟩ rfl
      intro d hd
      rcases List.mem_append.1 hd with hd | hd
      · exact hs.inbound d hd
      · rw [List.mem_singleton.1 hd]
        exact hsn c hc

/-- The verdict is about the address of the socket; a socket that is kept belongs to a
connection of the peer. -/
theorem WellSourced.handlePublicConnection (b : TunnelBinding) (peer : PublicPeer)
    (env : Circumstances) :
    WellSourced net (s.handlePublicConnection b peer env).1 ∧
      ((s.handlePublicConnection b peer env).2 = true →
        ∃ c, (s.handlePublicConnection b peer env).1.connections.lookup env.connection = some c ∧
          c.peer = peer) := by
  have hadd : ∀ source, (if env.endpointKnown then some (socketAddress b.mode peer) else none) =
      some source → source = socketAddress b.mode peer := by
    intro source hs
    split at hs
    · exact (Option.some.inj hs).symm
    · cases hs
  unfold Ingress.handlePublicConnection
  simp only
  split
  · next pol hv =>
    obtain ⟨he, source, hs, hall⟩ := allowsSource_of_admitted hv
    rw [hadd source hs] at hall
    split
    · next hnew =>
      refine ⟨h.setConnection ⟨⟨he, hall⟩, fun _ hd => by cases hd⟩ fun c₀ hc₀ => ?_,
        fun _ => ⟨_, AList.lookup_insert _, rfl⟩⟩
      rw [hnew.2] at hc₀
      cases hc₀
    · exact ⟨h, fun hk => by cases hk⟩
  · next pol hv =>
    obtain ⟨he, source, hs, href⟩ := not_allowsSource_of_refused hv
    rw [hadd source hs] at href
    refine ⟨⟨h.connections, h.peers, h.handed, ?_⟩, fun hk => by cases hk⟩
    intro d hd
    rcases List.mem_cons.1 hd with rfl | hd
    · exact ⟨he, href⟩
    · exact h.refused d hd
  · exact ⟨h, fun hk => by cases hk⟩

theorem WellSourced.enqueue (hp : Function.Injective net.print) {lsn key : Bytes}
    {datagram : Datagram} (hkey : peerKey net datagram.sender = key) (queued : Bool) :
    WellSourced net (s.enqueue (lsn, key) datagram queued) := by
  unfold Ingress.enqueue
  split
  · exact h
  · next ses hs =>
    split
    · exact h
    · have hf := h.peers lsn key ses hs
      refine h.setPeer ⟨hf.key_eq, ?_, hf.relay⟩
      intro d hd
      rcases List.mem_append.1 hd with hd | hd
      · exact hf.queue d hd
      · rw [List.mem_singleton.1 hd]
        exact peerKey_injective hp (hkey.trans hf.key_eq.symm)

theorem WellSourced.handleDatagram (hp : Function.Injective net.print) (b : TunnelBinding)
    (peer : PublicPeer) (rcd : Bytes) (room paired queued : Bool) (env : Circumstances) :
    WellSourced net (s.handleDatagram net b peer rcd room paired queued env) := by
  have hkey : peerKey net (⟨peer, rcd⟩ : Datagram).sender = peerKey net peer := rfl
  unfold Ingress.handleDatagram
  simp only
  split
  · exact h.enqueue hp hkey queued
  · split
    · exact h
    · obtain ⟨hs, hkp⟩ := h.handlePublicConnection b peer env
      have hf : Filed net (s.handlePublicConnection b peer env).1.connections
          (peerKey net peer) ⟨peer, if (s.handlePublicConnection b peer env).2 then
            some env.connection else none, false, []⟩ := by
        refine ⟨rfl, by simp, fun conn hr => ?_⟩
        split at hr
        · next hk =>
          cases hr
          exact hkp hk
        · cases hr
      exact (hs.setPeer hf).enqueue hp hkey queued

theorem WellSourced.writeNext (lsn key : Bytes) :
    WellSourced net (s.step net (.writeNext lsn key)) := by
  simp only [Ingress.step]
  split
  · exact h
  · next ses hse =>
    have hf := h.peers lsn key ses hse
    split
    · next datagram rest hst hq =>
      have hr : WellSourced net
          { s with peers := s.peers.insert (lsn, key) { ses with queue := rest } } :=
        h.setPeer ⟨hf.key_eq,
          fun d hd => hf.queue d (hq ▸ List.mem_cons_of_mem _ hd), hf.relay⟩
      split
      · exact hr
      · next conn hrl =>
        refine hr.arrive fun c hc => ?_
        obtain ⟨c', hc', hpeer⟩ := hf.relay conn hrl
        have hs : some c = some c' := hc.symm.trans hc'
        cases hs
        rw [hpeer]
        exact hf.queue datagram (hq ▸ List.mem_cons_self)
    · exact h

theorem WellSourced.peerFinished (lsn key : Bytes) :
    WellSourced net (s.step net (.peerFinished lsn key)) := by
  simp only [Ingress.step]
  split
  · exact h
  · split
    · refine ⟨h.connections, fun listener' key' ses' hs' => ?_, h.handed, h.refused⟩
      exact h.peers listener' key' ses' (lookup_of_erase hs')
    · exact h

theorem WellSourced.relay (conn : Nat) :
    WellSourced net (s.step net (.relay conn)) := by
  simp only [Ingress.step]
  split
  · exact h
  · next c hc =>
    have hs := h.connections conn c hc
    split
    · next datagram rest hst hi =>
      have hs' : Sourced { c with inbound := rest } := ⟨hs.allowed,
        fun d hd => hs.inbound d (hi ▸ List.mem_cons_of_mem _ hd)⟩
      have hr := h.changeConnection hc hs' rfl
      refine ⟨hr.connections, hr.peers, ?_, h.refused⟩
      intro d hd
      rcases List.mem_cons.1 hd with rfl | hd
      · rw [hs.inbound datagram (hi ▸ List.mem_cons_self)]
        exact hs.allowed
      · exact h.handed d hd
    · exact h

theorem WellSourced.step (hp : Function.Injective net.print) (e : IngressEvent) :
    WellSourced net (s.step net e) := by
  cases e with
  | installPolicies snap => exact ⟨h.connections, h.peers, h.handed, h.refused⟩
  | stop => exact ⟨h.connections, h.peers, h.handed, h.refused⟩
  | accept b peer env =>
    simp only [Ingress.step]
    split
    · exact h
    · exact (h.handlePublicConnection b peer env).1
  | send conn bytes =>
    simp only [Ingress.step]
    split
    · exact h
    · next c hc =>
      split
      · exact h
      · refine h.arrive fun c₀ hc₀ => ?_
        rw [hc] at hc₀
        cases hc₀
        rfl
  | datagram b peer pay reserved room paired queued env =>
    simp only [Ingress.step]
    split
    · exact h
    · split
      · exact h
      · exact h.handleDatagram hp b peer _ room paired queued env
  | writeNext lsn key => exact h.writeNext lsn key
  | closeBridge lsn key =>
    simp only [Ingress.step]
    split
    · exact h
    · next ses hse =>
      have hf := h.peers lsn key ses hse
      exact h.setPeer ⟨hf.key_eq, (fun _ hd => by cases hd), hf.relay⟩
  | peerFinished lsn key => exact h.peerFinished lsn key
  | assign conn =>
    simp only [Ingress.step]
    split
    · exact h
    · next c hc =>
      split
      · have hs := h.connections conn c hc
        exact h.changeConnection hc ⟨hs.allowed, hs.inbound⟩ rfl
      · exact h
  | relay conn => exact h.relay conn
  | closeConnection conn =>
    simp only [Ingress.step]
    split
    · exact h
    · next c hc =>
      have hs := h.connections conn c hc
      exact h.changeConnection hc ⟨hs.allowed, fun _ hd => by cases hd⟩ rfl

end Steps

end Steps

/-- Nothing has come in yet. -/
structure Initial (s : Ingress) : Prop where
  connections : s.connections = ∅
  peers : s.peers = ∅
  handed : s.handed = []
  refused : s.refused = []

theorem wellSourced_of_initial {s : Ingress} (net : AddressText) (h : s.Initial) :
    WellSourced net s where
  connections := by
    rw [h.connections]
    intro _ _ hc
    cases hc
  peers := by
    rw [h.peers]
    intro _ _ _ hs
    cases hs
  handed := by simp [h.handed]
  refused := by simp [h.refused]

open TransitionSystem (exec exec_invariant)

/-- **The source list governs** a policy, a mode and a peer: in every run, bytes of the
peer that reach a Worker through a connection of that mode admitted under the policy come
from an allowed address, and no allowed address is turned away. -/
def SourceGoverned (net : AddressText) (policy : ClientPolicy) (mode : TunnelMode)
    (peer : PublicPeer) : Prop :=
  ∀ s es, s.Initial →
    (⟨mode, policy, peer⟩ ∈ (exec (step net) s es).handed →
      policy.allowsSource peer.address = true) ∧
    (⟨mode, policy, peer⟩ ∈ (exec (step net) s es).refused →
      policy.allowsSource peer.address = false)

/-! ## A datagram of a UDP peer -/

section Udp

variable (net : AddressText) (policy : ClientPolicy) (peer : PublicPeer)

def udpTunnel : TunnelBinding :=
  ⟨policy.clientId, 1, [], [], 0, 1, .udp⟩

def underPolicy : Ingress where
  running := true
  policies := PolicySnapshot.empty.emplace policy
  connections := ∅
  peers := ∅
  handed := []
  refused := []

/-- The peer sends an empty datagram, and nothing stands in its way. -/
def firstDatagram : IngressEvent :=
  .datagram (udpTunnel policy) peer [] true true true true ⟨0, true, true, true⟩

/-- A Worker takes the connection and the datagram. -/
def takenByWorker : List IngressEvent :=
  [.assign 0, .writeNext (bindingKey policy.clientId []) (peerKey net peer), .relay 0]

variable {net policy peer}

theorem underPolicy_initial : (underPolicy policy).Initial :=
  ⟨rfl, rfl, rfl, rfl⟩

theorem handle_underPolicy (he : policy.enabled = true) :
    (underPolicy policy).handlePublicConnection (udpTunnel policy) peer ⟨0, true, true, true⟩ =
      if policy.allowsSource loopbackAddress then
        ({ underPolicy policy with
          connections := AList.insert 0 ⟨udpTunnel policy, policy, peer, .waiting, []⟩ ∅ }, true)
      else ({ underPolicy policy with refused := [⟨.udp, policy, peer⟩] }, false) := by
  have hf : (underPolicy policy).policies.find (udpTunnel policy).clientId = some policy := by
    rw [underPolicy, PolicySnapshot.find_emplace]
    exact if_pos rfl
  have hv : sourceVerdict true _ _ (some loopbackAddress) true = _ :=
    sourceVerdict_of_enabled hf he
  unfold handlePublicConnection
  simp only [if_true, underPolicy] at hv ⊢
  rw [socketAddress, if_pos (by rfl)]
  by_cases hl : policy.allowsSource loopbackAddress = true
  · rw [if_pos hl] at hv ⊢
    rw [hv]
    rfl
  · rw [if_neg hl] at hv ⊢
    rw [hv]
    rfl

theorem step_firstDatagram :
    (underPolicy policy).step net (firstDatagram policy peer) =
      let key := (bindingKey policy.clientId [], peerKey net peer)
      let r := (underPolicy policy).handlePublicConnection (udpTunnel policy) peer
        ⟨0, true, true, true⟩
      let session : PeerSession := ⟨peer, if r.2 then some 0 else none, false, []⟩
      { r.1 with peers := r.1.peers.insert key session }.enqueue key ⟨peer, [0, 0]⟩ true :=
  rfl

theorem handed_of_loopback (he : policy.enabled = true)
    (hl : policy.allowsSource loopbackAddress = true) :
    ⟨.udp, policy, peer⟩ ∈ (exec (step net) (underPolicy policy)
      (firstDatagram policy peer :: takenByWorker net policy peer)).handed := by
  rw [TransitionSystem.exec_cons, step_firstDatagram, handle_underPolicy he, if_pos hl]
  simp [takenByWorker, step, enqueue, arrive, udpTunnel, -AList.insert_empty]

theorem refused_of_loopback (he : policy.enabled = true)
    (hl : policy.allowsSource loopbackAddress = false) :
    ⟨.udp, policy, peer⟩ ∈
      (exec (step net) (underPolicy policy) [firstDatagram policy peer]).refused := by
  rw [TransitionSystem.exec_cons, step_firstDatagram, handle_underPolicy he,
    if_neg (by simp [hl])]
  simp [enqueue]

end Udp

theorem source_governed_iff (net : AddressText) (hprint : Function.Injective net.print)
    (policy : ClientPolicy) (mode : TunnelMode) (peer : PublicPeer) :
    SourceGoverned net policy mode peer ↔
      (mode = .udp → policy.enabled = true →
        policy.allowsSource peer.address = policy.allowsSource loopbackAddress) := by
  constructor
  · rintro hgoverned rfl henabled
    cases hloopback : policy.allowsSource loopbackAddress with
    | true => exact (hgoverned _ _ underPolicy_initial).1 (handed_of_loopback henabled hloopback)
    | false =>
      exact (hgoverned _ _ underPolicy_initial).2 (refused_of_loopback henabled hloopback)
  · intro hsame s es hs
    have hsourced : WellSourced net (exec (step net) s es) :=
      exec_invariant (fun s e h => h.step hprint e) (wellSourced_of_initial net hs) es
    have hsocket : policy.enabled = true →
        policy.allowsSource (socketAddress mode peer) = policy.allowsSource peer.address := by
      intro henabled
      unfold socketAddress
      split
      · next hudp => exact (hsame hudp henabled).symm
      · rfl
    constructor
    · intro hmem
      have hdecided := hsourced.handed _ hmem
      rw [← hsocket hdecided.enabled]
      exact hdecided.verdict
    · intro hmem
      have hdecided := hsourced.refused _ hmem
      rw [← hsocket hdecided.enabled]
      exact hdecided.verdict

namespace Lists

def net : AddressText := Endpoint.plainText

def listing (network : BitVec 32) (prefixLength : Nat) : ClientPolicy :=
  { Sample.policy with allowedSourceCidrs := [⟨.v4 network, prefixLength⟩] }

/-- `198.51.100.0/24`. -/
def office : ClientPolicy := listing 0xc6336400#32 24

/-- `127.0.0.0/8`. -/
def machine : ClientPolicy := listing 0x7f000000#32 8

/-- `198.51.100.7`. -/
def colleague : PublicPeer := ⟨.v4 0xc6336407#32, 5000⟩

/-- `203.0.113.9`. -/
def stranger : PublicPeer := ⟨.v4 0xcb007109#32, 5000⟩

theorem tcp_governed : SourceGoverned net office .tcp colleague :=
  (source_governed_iff net Endpoint.plainText_print_injective office .tcp colleague).2 nofun

/-- Over UDP a listed peer is turned away, and a peer that is not listed gets through. -/
theorem udp_not_governed :
    (office.allowsSource colleague.address = true ∧
      ¬ SourceGoverned net office .udp colleague) ∧
    (machine.allowsSource stranger.address = false ∧
      ¬ SourceGoverned net machine .udp stranger) := by
  have hlisted : office.allowsSource colleague.address = true := by decide
  have hunlisted : machine.allowsSource stranger.address = false := by decide
  refine ⟨⟨hlisted, fun hgoverned => ?_⟩, ⟨hunlisted, fun hgoverned => ?_⟩⟩
  · have hrefused := (hgoverned _ _ underPolicy_initial).2 (refused_of_loopback rfl (by decide))
    cases hrefused
  · have hhanded := (hgoverned _ _ underPolicy_initial).1 (handed_of_loopback rfl (by decide))
    cases hhanded

end Lists

end Ingress

end MiniTun.Server
