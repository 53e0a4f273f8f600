import MiniTun.Daemon.SessionSteps
import MiniTun.Daemon.TunnelReconciler

/-!
# Calls of `reconcile_tunnels`

`ServerSession` leaves open what its storage does.  Here the calls of one session run
one after the other against the rows: each operation on them takes its turn, after
whatever others have committed since the last, and may fail.  The server's side is a
function that says which frames it sends once a window of requests is written; the
frames queue up in `channel` until the session reads them.  Between two calls it is
`heartbeat_loop` that reads, unless the next call is due.
-/

namespace MiniTun

/-- A notice may come at any time and answers no request. -/
def ControlFrame.isNotice (frame : ControlFrame) : Bool :=
  match frame.message with
  | .ping _ | .requestWorkers _ => true
  | _ => false

def ControlFrame.isPing (frame : ControlFrame) : Bool :=
  match frame.message with
  | .ping _ => true
  | _ => false

end MiniTun

namespace MiniTun.Daemon

open KeyedMap Relational Storage

/-! ## Storage -/

/-- What an operation on the rows meets: what others have committed since the last one,
the clock, and whether the operation fails. -/
structure Instant where
  outside : TunnelReconciler → TunnelReconciler
  circumstances : Circumstances

/-- The rows, and how many operations of the session they have seen. -/
structure Persistence where
  reconciler : TunnelReconciler
  operations : Nat

/-- The error of a frame that fits no request, from `read_reconcile_response`. -/
def correlationError : Error :=
  ⟨.protocolError, "remote control response correlation is invalid"⟩

/-- All that a session depends on, apart from the frames it reads. -/
structure Surroundings where
  serverId : Id
  attemptGeneration : Nat
  /-- What the operations on the rows meet, in their order. -/
  storage : Nat → Instant
  /-- The order in which each call traverses `registered_tunnels_`. -/
  traversal : Nat → List Bytes → List Bytes
  /-- The error with which the encoder refuses a request. -/
  encode : ControlMessage → Option Error
  /-- `reconcile_requested_`: after so many calls, another is asked for before
  `heartbeat_loop` looks at the socket. -/
  requested : Nat → Bool
  traversal_perm : ∀ call keys, (traversal call keys).Perm keys

def faultOf {α : Type} : Result α → Option Error
  | .ok _ => none
  | .error error => some error

namespace Surroundings

variable (w : Surroundings)

def runDb {α : Type} (operation : TunnelReconciler → Circumstances → Result α × TunnelReconciler)
    (p : Persistence) : Result α × Persistence :=
  let now := w.storage p.operations
  let (result, reconciler) := operation (now.outside p.reconciler) now.circumstances
  (result, ⟨reconciler, p.operations + 1⟩)

variable (tunnelId : Id) (p : Persistence)

def listTunnels : Result Tunnels × Persistence :=
  w.runDb (fun r c => (match c.fault with
    | some error => .error error
    | none => .ok r.tunnels, r)) p

def loadTunnel : Result TunnelRecord × Persistence :=
  w.runDb (fun r c => (match c.fault, r.tunnels.find tunnelId.text with
    | some error, _ => .error error
    | none, none => failure .notFound "tunnel record was not found"
    | none, some row => .ok row, r)) p

def eraseTunnel : Result Unit × Persistence :=
  w.runDb (fun r c => match c.fault, r.tunnels.find tunnelId.text with
    | some error, _ => (.error error, r)
    | none, none => (failure .notFound "tunnel record was not found", r)
    | none, some row =>
      if row.desiredState ≠ .removed ∨ row.actualState ≠ .removing then
        (failure .invalidArgument
          "tunnel must be a reconciled removal tombstone before physical erase", r)
      else
        (.ok (), { r with tunnels := r.tunnels.delete fun row => row.id = tunnelId.text })) p

def persistTunnelState (expectedRevision : Nat) (state : TunnelActualState)
    (error : Option RecordedError) (synchronized : Bool) (p : Persistence) :
    Option Error × Persistence :=
  let (updated, p) := w.runDb (fun r c => r.transition c
    ⟨w.serverId, tunnelId, w.attemptGeneration, expectedRevision, state, error, synchronized⟩) p
  (faultOf updated, p)

variable (row : TunnelRecord)

/-- `persist_tunnel_state` for a row.  The identifier of a row is always one of a tunnel. -/
def persistRow (state : TunnelActualState) (error : Option RecordedError) (synchronized : Bool)
    (p : Persistence) : Option Error × Persistence :=
  match Id.parseKind row.id .tunnel with
  | .error e => (some e, p)
  | .ok id => w.persistTunnelState id row.configRevision state error synchronized p

/-- An `erase_tunnel` that does not mind if there is no such row. -/
def eraseIfFound : Option Error × Persistence :=
  let (erased, p) := w.eraseTunnel tunnelId p
  ((faultOf erased).filter fun error => error.code ≠ .notFound, p)

/-- Do something for each element of a list, up to the first that fails. -/
def untilFault {α : Type} (operation : α → Persistence → Option Error × Persistence) :
    List α → Persistence → Option Error × Persistence
  | [], p => (none, p)
  | a :: rest, p =>
    match operation a p with
    | (some error, p) => (some error, p)
    | (none, p) => untilFault operation rest p

/-- Erase a row of the snapshot that is a tombstone. -/
def purgeRow (p : Persistence) : Option Error × Persistence :=
  if row.desiredState ≠ .removed then (none, p)
  else match Id.parseKind row.id .tunnel with
    | .error e => (some e, p)
    | .ok id => w.eraseIfFound id p

/-- What the loop that collects `pending_registrations` writes for a row. -/
def recordRow (d : ServerSession) (row : TunnelRecord) (p : Persistence) :
    Option Error × Persistence :=
  if row.isActive = false then (none, p)
  else if (d.registered.lookup row.id).isSome then
    if row.actualState ≠ .active then w.persistRow row .active none true p else (none, p)
  else if supportsTunnelMode d.selectedCapabilities (remoteTunnelMode row.protocol) = false then
    if row.actualState ≠ .failed ∨ row.lastErrorCode ≠ some .unsupportedVersion then
      w.persistRow row .failed (some ⟨.unsupportedVersion,
        ascii "remote server did not negotiate this tunnel mode"⟩) false p
    else (none, p)
  else (none, p)

/-- What is done for a row before its registration is asked for. -/
def prepareRow (p : Persistence) : Option Error × Persistence :=
  match w.persistRow row .registering none false p with
  | (some error, p) => (some error, p)
  | (none, p) => (w.encode (.registerTunnel (registerMessage row)), p)

/-- The operations of the session on its way to where it waits next. -/
def recordAdvance (d : ServerSession) (p : Persistence) : Option Error × Persistence :=
  match d.phase with
  | .removing tunnels [] => untilFault w.purgeRow tunnels p
  | .removing _ stale =>
    (((stale.take tunnelSyncWindow).map removalRequest).findSome? fun request =>
      w.encode request.2, p)
  | .refreshing _ (row :: _) _ => w.recordRow d row p
  | .registering _ rows _ => untilFault w.prepareRow (rows.take tunnelSyncWindow) p
  | _ => (none, p)

def recordRemoval (tunnelId : Bytes) (p : Persistence) : Option Error × Persistence :=
  match Id.parseKind tunnelId .tunnel with
  | .error _ => (none, p)
  | .ok id =>
    match w.loadTunnel id p with
    | (.error _, p) => (none, p)
    | (.ok current, p) =>
      if current.desiredState = .removed then w.eraseIfFound id p
      else w.persistTunnelState id current.configRevision .disabled none true p

/-- What is written for an answer that fits its request. -/
def recordAnswer (request : Awaited) (message : ControlMessage) (p : Persistence) :
    Option Error × Persistence :=
  match request, message with
  | .removal tunnelId, _ => w.recordRemoval tunnelId p
  | .registration row, .registerTunnelOk _ _ => w.persistRow row .active none true p
  | .registration row, .registerTunnelError _ code _ =>
    w.persistRow row .failed (some ⟨code, ascii "remote tunnel registration was rejected"⟩) true p
  | .registration _, _ => (none, p)

end Surroundings

/-! ## Calls -/

def ReconcilePhase.isFailed : ReconcilePhase → Bool
  | .failed _ => true
  | _ => false

namespace ServerSession

variable (d : ServerSession)

def accepts (request : Awaited) (message : ControlMessage) : Bool :=
  !(d.handleResponse request [] message none).phase.isFailed

/-- The frame that ends the wait for the next answer. -/
def nextAnswer (channel : List ControlFrame) : Option ControlFrame :=
  match d.awaited with
  | [] => none
  | (requestId, _) :: _ =>
    match d.bufferedResponses.lookup requestId with
    | some frame => some frame
    | none => channel.head?.filter fun frame => !frame.isNotice ∧ frame.requestId = requestId

end ServerSession

/-- What a call of `reconcile_tunnels` has come to. -/
structure CallOutcome where
  result : Result Unit
  registered : Map Bytes RegisteredTunnel
  localEndpoints : Map Bytes LocalTunnelTarget
  tunnels : Tunnels

/-- A session, while its calls run. -/
structure Reconciling where
  session : ServerSession
  persistence : Persistence
  /-- The frames the server has sent and the session has not read. -/
  channel : List ControlFrame
  /-- The requests written so far. -/
  sent : List ControlFrame
  /-- The answers that the loops have taken so far. -/
  answered : List ControlFrame
  /-- The number of calls still to come. -/
  calls : Nat
  outcomes : List CallOutcome
  /-- What failed outside the session in the last step. -/
  fault : Option Error

/-- The server: the frames it sends, after the requests it has had before, for a window of
requests. -/
abbrev Deliver := List ControlFrame → List ControlFrame → List ControlFrame

namespace Reconciling

variable (w : Surroundings) (deliver : Deliver) (m : Reconciling)

def start (session : ServerSession) (reconciler : TunnelReconciler) (calls : Nat) :
    Reconciling where
  session := session
  persistence := ⟨reconciler, 0⟩
  channel := []
  sent := []
  answered := []
  calls := calls
  outcomes := []
  fault := none

/-- No call runs any more, none is to come, and there is nothing left to read. -/
def done : Bool :=
  match m.session.phase with
  | .failed _ => true
  | .idle _ => m.calls = 0 ∧ m.channel = []
  | _ => false

/-- Note the outcome of a call that has just ended. -/
def settle : Reconciling :=
  let outcome := fun result : Result Unit => CallOutcome.mk result m.session.registered
    m.session.localEndpoints m.persistence.reconciler.tunnels
  match m.session.phase with
  | .idle _ => { m with outcomes := m.outcomes ++ [outcome (.ok ())] }
  | .failed error => { m with outcomes := m.outcomes ++ [outcome (.error error)] }
  | _ => m

theorem settle_eq : ∃ outcomes, m.settle = { m with outcomes := outcomes } := by
  unfold settle
  split
  · exact ⟨_, rfl⟩
  · exact ⟨_, rfl⟩
  · exact ⟨m.outcomes, rfl⟩

/-- A call starts. -/
def begin : Reconciling :=
  let (database, persistence) := w.listTunnels m.persistence
  let order := w.traversal m.outcomes.length m.session.registered.keys
  { m with
    session := m.session.startReconcile database order
    persistence := persistence
    calls := m.calls - 1
    fault := faultOf database }.settle

/-- The call goes on until it waits for an answer. -/
def proceed : Reconciling :=
  let (fault, persistence) := w.recordAdvance m.session m.persistence
  let (session, requests) := m.session.advance (fault.map (⟨·, 0⟩))
  { m with
    session := session
    persistence := persistence
    channel := m.channel ++ deliver m.sent requests
    sent := m.sent ++ requests
    fault := fault }.settle

/-- What is written when the session takes the next frame. -/
def recordRead : Option Error × Persistence :=
  match m.session.nextAnswer m.channel, m.session.awaited with
  | some frame, (_, request) :: _ =>
    if m.session.accepts request frame.message then
      w.recordAnswer request frame.message m.persistence
    else (none, m.persistence)
  | _, _ => (none, m.persistence)

/-- The call reads a frame, or takes an answer that came before its turn. -/
def read : Reconciling :=
  let (fault, persistence) := m.recordRead w
  let (session, _, channel) := m.session.receive m.channel fault
  { m with
    session := session
    persistence := persistence
    channel := channel
    answered := m.answered ++ (m.session.nextAnswer m.channel).toList
    fault := fault }.settle

/-- The next call starts before anything is read. -/
def due : Bool :=
  m.calls ≠ 0 ∧ (m.channel = [] ∨ w.requested m.outcomes.length = true)

/-- `heartbeat_loop` reads a frame.  A ping asks for a call; what ends the session here is noted
like the end of a call. -/
def readBetween (frame : ControlFrame) (channel : List ControlFrame) : Reconciling :=
  let next := { m with session := (m.session.readIdle frame none).1, channel := channel }
  if next.session.phase.isFailed then next.settle
  else if frame.isPing ∧ m.calls ≠ 0 then next.begin w
  else next

def tick : Reconciling :=
  match m.session.phase, m.session.awaited with
  | .failed _, _ => m
  | .idle _, _ =>
    if m.due w then m.begin w
    else match m.channel with
      | [] => m
      | frame :: channel => m.readBetween w frame channel
  | _, [] => m.proceed w deliver
  | _, _ :: _ => m.read w

end Reconciling

/-! ## What has come before its turn

Only `receive` looks at `pending_reconcile_responses_`. -/

namespace ServerSession

variable (d : ServerSession) (parked : Map Nat ControlFrame)

def parking : ServerSession :=
  { d with bufferedResponses := parked }

theorem persist_parking (flt : Option Error) :
    (d.parking parked).persist flt = (d.persist flt).parking parked := by
  cases flt with
  | none => rfl
  | some err => rfl

theorem startReconcile_parking (dtb : Result Tunnels) (order : List Bytes) :
    (d.parking parked).startReconcile dtb order =
      (d.startReconcile dtb order).parking parked := by
  have hp : (d.parking parked).phase = d.phase := rfl
  simp only [startReconcile, hp]
  split
  · rfl
  · by_cases hord : order.Perm d.registered.keys
    · rw [if_pos hord]
      exact if_pos hord
    · rw [if_neg hord]
      exact if_neg hord
  · rfl

theorem sendWindow_parking (win : List WindowRequest) (next : ReconcilePhase)
    (intr : Option Interruption) :
    (d.parking parked).sendWindow win next intr =
      ((d.sendWindow win next intr).1.parking parked,
        (d.sendWindow win next intr).2) := by
  cases intr with
  | none => rfl
  | some i => rfl

theorem refreshRow_parking (tns rows ps : List TunnelRecord) (row : TunnelRecord)
    (flt : Option Error) :
    (d.parking parked).refreshRow tns rows ps row flt =
      (d.refreshRow tns rows ps row flt).parking parked := by
  have hr : (d.parking parked).registered = d.registered := rfl
  have hsel : (d.parking parked).selectedCapabilities = d.selectedCapabilities := rfl
  simp only [refreshRow, hr, hsel]
  by_cases hact : row.isActive = false
  · simp only [if_pos hact]
    rfl
  · simp only [if_neg hact]
    by_cases hk : (d.registered.lookup row.id).isSome
    · simp only [if_pos hk]
      exact persist_parking { d with
        phase := .refreshing tns rows ps
        localEndpoints := d.localEndpoints.insert row.id ⟨row.localEndpoint, row.proxyProtocol⟩ }
        parked _
    · simp only [if_neg hk]
      split
      · exact persist_parking { d with phase := .refreshing tns rows ps } parked _
      · rfl

theorem advance_parking (intr : Option Interruption) :
    (d.parking parked).advance intr =
      ((d.advance intr).1.parking parked, (d.advance intr).2) := by
  have ha : (d.parking parked).awaited = d.awaited := rfl
  have hp : (d.parking parked).phase = d.phase := rfl
  simp only [advance, ha, hp]
  split
  · next tns _ _ =>
    exact congrArg (·, []) (persist_parking { d with phase := .refreshing tns tns [] } parked _)
  · exact d.sendWindow_parking parked _ _ _
  · rfl
  · exact congrArg (·, []) (d.refreshRow_parking parked _ _ _ _ _)
  · rfl
  · exact d.sendWindow_parking parked _ _ _
  · rfl

theorem handleResponse_parking (req : Awaited) (rest : List (Nat × Awaited))
    (msg : ControlMessage) (flt : Option Error) :
    (d.parking parked).handleResponse req rest msg flt =
      (d.handleResponse req rest msg flt).parking parked := by
  have hr : (d.parking parked).registered = d.registered := rfl
  cases req with
  | removal tid =>
    simp only [handleResponse, hr]
    split
    · split
      · cases flt <;> rfl
      · rfl
    · rfl
  | registration row =>
    simp only [handleResponse]
    split
    · split
      · cases flt <;> rfl
      · rfl
    · split
      · cases flt <;> rfl
      · rfl
    · rfl

theorem bufferedResponses_startReconcile (dtb : Result Tunnels) (ord : List Bytes) :
    (d.startReconcile dtb ord).bufferedResponses = d.bufferedResponses := by
  have h : d.startReconcile dtb ord =
      (d.startReconcile dtb ord).parking d.bufferedResponses :=
    d.startReconcile_parking d.bufferedResponses dtb ord
  rw [h]
  rfl

theorem bufferedResponses_advance (intr : Option Interruption) :
    (d.advance intr).1.bufferedResponses = d.bufferedResponses := by
  have h : d.advance intr = ((d.advance intr).1.parking d.bufferedResponses,
      (d.advance intr).2) := d.advance_parking d.bufferedResponses intr
  rw [h]
  rfl

theorem bufferedResponses_handleResponse (req : Awaited) (rest : List (Nat × Awaited))
    (msg : ControlMessage) (flt : Option Error) :
    (d.handleResponse req rest msg flt).bufferedResponses = d.bufferedResponses := by
  have h : d.handleResponse req rest msg flt =
      (d.handleResponse req rest msg flt).parking d.bufferedResponses :=
    d.handleResponse_parking d.bufferedResponses req rest msg flt
  rw [h]
  rfl

theorem accepts_parking (req : Awaited) (msg : ControlMessage) :
    (d.parking parked).accepts req msg = d.accepts req msg := by
  unfold accepts
  rw [handleResponse_parking]
  rfl

end ServerSession

end MiniTun.Daemon
