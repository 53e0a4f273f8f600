import MiniTun.Daemon.ServerSession

/-!
# What one step of the daemon's session can do

One relation for each of the three ways the session moves: a reconciliation
starts, goes on, or reads a frame.  What is proved about the session is derived
from these and does not unfold its loops again.
-/

namespace MiniTun.Daemon

open KeyedMap Storage

/-- The requests of the next window, and the phase they leave. -/
inductive NextWindow : ReconcilePhase → List WindowRequest → ReconcilePhase → Prop where
  | removals (tunnels : List TunnelRecord) (stale : List (Bytes × Nat)) :
      NextWindow (.removing tunnels stale) ((stale.take tunnelSyncWindow).map removalRequest)
        (.removing tunnels (stale.drop tunnelSyncWindow))
  | registrations (tunnels rows : List TunnelRecord) (rejected : List Bytes) :
      NextWindow (.registering tunnels rows rejected)
        ((rows.take tunnelSyncWindow).map registrationRequest)
        (.registering tunnels (rows.drop tunnelSyncWindow) rejected)

/-- The rows a reconciliation has collected and not asked for yet. -/
def ReconcilePhase.toRegister : ReconcilePhase → List TunnelRecord
  | .refreshing _ _ pending => pending
  | .registering _ rows _ => rows
  | _ => []

/-- A phase, unless something the coroutine waited for failed. -/
inductive OrFailed (phase : ReconcilePhase) : ReconcilePhase → Prop where
  | reached : OrFailed phase phase
  | failed (error : Error) : OrFailed phase (.failed error)

/-- What starting a call can do. -/
inductive StartEffect (d : ServerSession) : Result Tunnels → ServerSession → Prop where
  | nothing (database : Result Tunnels) : StartEffect d database d
  | failed (error : Error) : StartEffect d (.error error) (d.fail error)
  | started {last : Option Reconciled} {order : List Bytes} (database : Tunnels)
      (hphase : d.phase = .idle last) (horder : order.Perm d.registered.keys) :
      StartEffect d (.ok database) { d with
        phase := .removing (listByServer database d.serverId)
          (d.staleTunnels (listByServer database d.serverId) order) }

/-- What going on can do, and what it sends. -/
inductive AdvanceEffect (d : ServerSession) : ServerSession × List ControlFrame → Prop where
  | nothing : AdvanceEffect d (d, [])
  | failed (error : Error) : AdvanceEffect d (d.fail error, [])
  | purged {tunnels : List TunnelRecord} (hawaited : d.awaited = [])
      (hphase : d.phase = .removing tunnels []) :
      AdvanceEffect d ({ d with phase := .refreshing tunnels tunnels [] }, [])
  | skipped {tunnels rows pending : List TunnelRecord} {row : TunnelRecord}
      (hawaited : d.awaited = []) (hphase : d.phase = .refreshing tunnels (row :: rows) pending)
      (hskip : row.isActive = true → d.registered.lookup row.id = none ∧
        supportsTunnelMode d.selectedCapabilities (remoteTunnelMode row.protocol) = false) :
      AdvanceEffect d ({ d with phase := .refreshing tunnels rows pending }, [])
  | refreshed {tunnels rows pending : List TunnelRecord} {row : TunnelRecord}
      {phase : ReconcilePhase} (hawaited : d.awaited = [])
      (hphase : d.phase = .refreshing tunnels (row :: rows) pending)
      (hactive : row.isActive = true) (hregistered : (d.registered.lookup row.id).isSome)
      (hnext : OrFailed (.refreshing tunnels rows pending) phase) :
      AdvanceEffect d
        ({ d with
          phase := phase
          localEndpoints :=
            d.localEndpoints.insert row.id ⟨row.localEndpoint, row.proxyProtocol⟩ }, [])
  | collected {tunnels rows pending : List TunnelRecord} {row : TunnelRecord}
      (hawaited : d.awaited = []) (hphase : d.phase = .refreshing tunnels (row :: rows) pending)
      (hactive : row.isActive = true) (hregistered : d.registered.lookup row.id = none)
      (hmode : supportsTunnelMode d.selectedCapabilities (remoteTunnelMode row.protocol) = true) :
      AdvanceEffect d ({ d with phase := .refreshing tunnels rows (pending ++ [row]) }, [])
  | allCollected {tunnels pending : List TunnelRecord} (hawaited : d.awaited = [])
      (hphase : d.phase = .refreshing tunnels [] pending) :
      AdvanceEffect d ({ d with phase := .registering tunnels pending [] }, [])
  | sent {window : List WindowRequest} {next : ReconcilePhase} (hawaited : d.awaited = [])
      (hwindow : NextWindow d.phase window next) (interruption : Option Interruption) :
      AdvanceEffect d (d.sendWindow window next interruption)
  | finished {tunnels : List TunnelRecord} {rejected : List Bytes} (hawaited : d.awaited = [])
      (hphase : d.phase = .registering tunnels [] rejected) :
      AdvanceEffect d (d.finish tunnels rejected, [])

/-- What reading a frame that is no answer leaves. -/
inductive NoticeEffect (d : ServerSession) : ServerSession → Prop where
  | nothing : NoticeEffect d d
  | failed (error : Error) : NoticeEffect d (d.fail error)
  /-- An answer was expected, and the target it was for is dropped. -/
  | dropped (tunnelId : Bytes) (error : Error) :
      NoticeEffect d ({ d with localEndpoints := d.localEndpoints.erase tunnelId }.fail error)

/-- What reading a frame can do: the session, what it sends, what is left. -/
inductive ReadEffect (d : ServerSession) :
    List ControlFrame → ServerSession × List ControlFrame × List ControlFrame → Prop where
  | nothing (channel : List ControlFrame) : ReadEffect d channel (d, [], channel)
  | noticed {frame : ControlFrame} {channel sent : List ControlFrame} {d' : ServerSession}
      (hnotice : frame.isResponse = false) (heffect : NoticeEffect d d')
      (hsent : sent.filter ControlFrame.isRequest = []) :
      ReadEffect d (frame :: channel) (d', sent, channel)
  | answered {frame : ControlFrame} {channel : List ControlFrame} {request : Awaited}
      {rest : List (Nat × Awaited)} (hresponse : frame.isResponse = true)
      (hawaited : d.awaited = (frame.requestId, request) :: rest) (fault : Option Error) :
      ReadEffect d (frame :: channel)
        (d.handleResponse request rest frame.message fault, [], channel)

theorem map_snd_numberRequests {α : Type*} (rid : Nat) (win : List α) :
    (numberRequests rid win).map Prod.snd = win := by
  induction win generalizing rid with
  | nil => rfl
  | cons a win ih => rw [numberRequests, List.map_cons, ih]

theorem mem_of_mem_numberRequests {α : Type*} {rid : Nat} {win : List α} {a : Nat × α}
    (h : a ∈ numberRequests rid win) : a.2 ∈ win := by
  rw [← map_snd_numberRequests rid win]
  exact List.mem_map_of_mem h

namespace ServerSession

variable (d : ServerSession)

theorem mem_staleTunnels {tns : List TunnelRecord} {ord : List Bytes} {s : Bytes × Nat} :
    s ∈ d.staleTunnels tns ord ↔ s.1 ∈ ord ∧
      (d.registered.lookup s.1).map RegisteredTunnel.configRevision = some s.2 ∧
      retained tns s.1 ≠ some s.2 := by
  unfold staleTunnels
  rw [List.mem_filterMap]
  constructor
  · rintro ⟨tid, hmem, hs⟩
    split at hs
    · cases hs
    · next regd hr =>
      split at hs
      · cases hs
      · next hrt =>
        cases hs
        exact ⟨hmem, by rw [hr]; rfl, hrt⟩
  · rintro ⟨hmem, hrev, hrt⟩
    obtain ⟨regd, hr, hs⟩ := Option.map_eq_some_iff.1 hrev
    refine ⟨s.1, hmem, ?_⟩
    simp only [hr, hs, if_neg hrt]

theorem ids_staleTunnels_sublist (tns : List TunnelRecord) (ord : List Bytes) :
    ((d.staleTunnels tns ord).map Prod.fst).Sublist ord := by
  unfold staleTunnels
  induction ord with
  | nil => exact .slnil
  | cons tid ord ih =>
    rw [List.filterMap_cons]
    split
    · exact ih.cons _
    · next s hs =>
      have hid : s.1 = tid := by
        split at hs
        · cases hs
        · split at hs
          · cases hs
          · cases hs
            rfl
      rw [List.map_cons, hid]
      exact ih.cons_cons _

theorem startEffect (dtb : Result Tunnels) (ord : List Bytes) :
    StartEffect d dtb (d.startReconcile dtb ord) := by
  unfold startReconcile
  split
  · exact .failed _
  · next hp =>
    split
    · next hord => exact .started _ hp hord
    · exact .nothing _
  · exact .nothing _

theorem persist_eq (flt : Option Error) :
    d.persist flt = d ∨ ∃ err, d.persist flt = d.fail err := by
  cases flt with
  | none => exact .inl rfl
  | some err => exact .inr ⟨err, rfl⟩

theorem refreshEffect {tns rows ps : List TunnelRecord} {row : TunnelRecord}
    (ha : d.awaited = []) (hp : d.phase = .refreshing tns (row :: rows) ps)
    (flt : Option Error) :
    AdvanceEffect d (d.refreshRow tns rows ps row flt, []) := by
  unfold refreshRow
  split
  · next hact => exact .skipped ha hp fun h => by simp [hact] at h
  · next hact =>
    rw [Bool.not_eq_false] at hact
    split
    · next hr =>
      rcases persist_eq _ _ with h | ⟨err, h⟩
      · rw [h]
        exact .refreshed ha hp hact hr .reached
      · rw [h]
        exact .refreshed ha hp hact hr (.failed err)
    · next hr =>
      rw [Bool.not_eq_true, Option.isSome_eq_false_iff, Option.isNone_iff_eq_none] at hr
      split
      · next hm =>
        rcases persist_eq _ _ with h | ⟨err, h⟩
        · rw [h]
          exact .skipped ha hp fun _ => ⟨hr, hm⟩
        · rw [h]
          exact .failed err
      · next hm =>
        exact .collected ha hp hact hr (Bool.not_eq_false _ ▸ hm)

theorem advanceEffect (intr : Option Interruption) :
    AdvanceEffect d (d.advance intr) := by
  unfold advance
  simp only
  split
  · next ha hp =>
    rcases persist_eq _ _ with h | ⟨err, h⟩
    · rw [h]
      exact .purged ha hp
    · rw [h]
      exact .failed err
  · next ha hp => exact .sent ha (hp ▸ .removals _ _) intr
  · next ha hp => exact .allCollected ha hp
  · next ha hp => exact d.refreshEffect ha hp _
  · next ha hp => exact .finished ha hp
  · next ha hp => exact .sent ha (hp ▸ .registrations _ _ _) intr
  · exact .nothing

theorem awaited_sendWindow (win : List WindowRequest) (next : ReconcilePhase) :
    (d.sendWindow win next none).1.awaited.map Prod.snd = win.map Prod.fst := by
  conv_rhs => rw [← map_snd_numberRequests d.nextRequestId win]
  simp only [sendWindow, List.map_map]
  rfl

variable {next : ReconcilePhase} {win : List WindowRequest} {frame frm : ControlFrame}

theorem mem_awaited_sendWindow {intr : Option Interruption} {a : Nat × Awaited}
    (h : a ∈ (d.sendWindow win next intr).1.awaited) :
    ∃ req ∈ win, a.2 = req.1 := by
  cases intr with
  | none =>
    obtain ⟨req, hreq, rfl⟩ := List.mem_map.1 h
    exact ⟨req.2, mem_of_mem_numberRequests hreq, rfl⟩
  | some i =>
    obtain ⟨req, hreq, rfl⟩ := List.mem_map.1 h
    exact ⟨req.2, mem_of_mem_numberRequests (List.mem_of_mem_take hreq), rfl⟩

theorem mem_frames_sendWindow {intr : Option Interruption}
    (h : frm ∈ (d.sendWindow win next intr).2) :
    ∃ req ∈ win, frm.message = req.2 := by
  cases intr with
  | none =>
    obtain ⟨req, hreq, rfl⟩ := List.mem_map.1 h
    exact ⟨req.2, mem_of_mem_numberRequests hreq, rfl⟩
  | some i =>
    obtain ⟨req, hreq, rfl⟩ := List.mem_map.1 h
    exact ⟨req.2, mem_of_mem_numberRequests (List.mem_of_mem_take hreq), rfl⟩

theorem persistEffect (flt : Option Error) : NoticeEffect d (d.persist flt) := by
  cases flt with
  | none => exact .nothing
  | some err => exact .failed err

theorem answerPingEffect (rid sequence : Nat) (flt : Option Error) :
    NoticeEffect d (d.answerPing rid sequence flt).1 ∧
      (d.answerPing rid sequence flt).2.filter ControlFrame.isRequest = [] := by
  cases flt with
  | none => exact ⟨.nothing, rfl⟩
  | some err => exact ⟨.failed err, rfl⟩

theorem readIdleEffect (frm : ControlFrame) (flt : Option Error) :
    NoticeEffect d (d.readIdle frm flt).1 ∧
      (d.readIdle frm flt).2.filter ControlFrame.isRequest = [] := by
  unfold readIdle
  split
  · exact d.answerPingEffect _ _ flt
  · exact ⟨d.persistEffect flt, rfl⟩
  · exact ⟨.failed _, rfl⟩
  · exact ⟨.failed _, rfl⟩
  · exact ⟨.failed _, rfl⟩

theorem handleResponse_of_not_response (req : Awaited) (rest : List (Nat × Awaited))
    (hn : frm.isResponse = false) (flt : Option Error) :
    NoticeEffect d (d.handleResponse req rest frm.message flt) := by
  obtain ⟨rid, msg⟩ := frm
  cases req with
  | removal tid =>
    unfold handleResponse
    simp only
    split
    · cases hn
    · exact .failed _
  | registration row =>
    unfold handleResponse
    simp only
    split
    · cases hn
    · cases hn
    · exact .dropped row.id _

theorem readResponseEffect (rid : Nat) (req : Awaited) (rest : List (Nat × Awaited))
    (hn : frm.isResponse = false) (flt : Option Error) :
    NoticeEffect d (d.readResponse rid req rest frm flt).1 ∧
      (d.readResponse rid req rest frm flt).2.filter ControlFrame.isRequest = [] := by
  unfold readResponse
  split
  · exact d.answerPingEffect _ _ flt
  · exact ⟨d.persistEffect flt, rfl⟩
  · split
    · exact ⟨d.handleResponse_of_not_response req rest hn flt, rfl⟩
    · rw [if_pos (.inl hn)]
      exact ⟨.failed _, rfl⟩

theorem readResponse_of_response (hr : frm.isResponse = true) (req : Awaited)
    (rest : List (Nat × Awaited)) (flt : Option Error) :
    d.readResponse frm.requestId req rest frm flt =
      (d.handleResponse req rest frm.message flt, []) := by
  unfold readResponse
  split
  · next hmsg => simp [ControlFrame.isResponse, hmsg] at hr
  · next hmsg => simp [ControlFrame.isResponse, hmsg] at hr
  · rw [if_pos rfl]

/-! ### Answers that fit their request -/

theorem handleResponse_removed {tid : Bytes} {regd : RegisteredTunnel}
    (hr : d.registered.lookup tid = some regd) (rest : List (Nat × Awaited))
    (flt : Option Error) :
    ∃ phase, OrFailed d.phase phase ∧
      d.handleResponse (.removal tid) rest (.unregisterTunnelOk tid regd.configRevision) flt =
        { d with
          registered := d.registered.erase tid
          localEndpoints := d.localEndpoints.erase tid
          awaited := rest
          phase := phase } := by
  simp only [handleResponse, hr]
  cases flt with
  | none => exact ⟨_, .reached, rfl⟩
  | some err => exact ⟨_, .failed err, rfl⟩

theorem handleResponse_accepted (row : TunnelRecord) (rest : List (Nat × Awaited))
    (flt : Option Error) :
    ∃ phase, OrFailed d.phase phase ∧
      d.handleResponse (.registration row) rest (.registerTunnelOk row.id row.configRevision) flt =
        { d with
          registered := d.registered.insert row.id ⟨row.configRevision, row.remoteEndpoint⟩
          localEndpoints := d.localEndpoints.insert row.id ⟨row.localEndpoint, row.proxyProtocol⟩
          awaited := rest
          phase := phase } := by
  simp only [handleResponse]
  cases flt with
  | none => exact ⟨_, .reached, rfl⟩
  | some err => exact ⟨_, .failed err, rfl⟩

theorem handleResponse_rejected (row : TunnelRecord) (code : ErrorCode)
    (rest : List (Nat × Awaited)) (flt : Option Error) :
    ∃ phase, OrFailed (noteRejection row.id d.phase) phase ∧
      d.handleResponse (.registration row) rest
          (.registerTunnelError row.id code row.configRevision) flt =
        { d with awaited := rest, phase := phase } := by
  simp only [handleResponse]
  cases flt with
  | none => exact ⟨_, .reached, rfl⟩
  | some err => exact ⟨_, .failed err, rfl⟩

/-- Where the answers come in the order of the requests, none is ever buffered. -/
theorem readEffect (chan : List ControlFrame) (flt : Option Error) (hem : d.bufferedResponses = ∅)
    (hord : ∀ frm rest, chan = frm :: rest → frm.isResponse = true →
      ∃ req reqs, d.awaited = (frm.requestId, req) :: reqs) :
    ReadEffect d chan (d.receive chan flt) := by
  unfold receive
  split
  · exact .nothing chan
  · split
    · next ha =>
      split
      · exact .nothing []
      · next frm chan =>
        have hn : frm.isResponse = false := by
          by_contra hr
          obtain ⟨_, _, h⟩ := hord frm chan rfl (Bool.not_eq_false _ ▸ hr)
          rw [ha] at h
          cases h
        obtain ⟨he, hs⟩ := d.readIdleEffect frm flt
        exact .noticed hn he hs
    · next rid req rest ha =>
      rw [hem, lookup_empty]
      cases chan with
      | nil => exact .nothing []
      | cons frm chan =>
        cases hr : frm.isResponse with
        | false =>
          obtain ⟨he, hs⟩ :=
            d.readResponseEffect rid req rest hr flt
          exact .noticed hr he hs
        | true =>
          obtain ⟨_, _, h⟩ := hord frm chan rfl hr
          obtain ⟨⟨rfl, rfl⟩, rfl⟩ := by simpa [ha] using h
          simp only [d.readResponse_of_response hr]
          exact .answered hr ha flt

/-! ### What is left to register -/

/-- Reading collects nothing and asks for nothing. -/
structure Keeps (d' : ServerSession) : Prop where
  selected : d'.selectedCapabilities = d.selectedCapabilities
  toRegister : ∀ row ∈ d'.phase.toRegister, row ∈ d.phase.toRegister

section Keeps

variable {d}

theorem Keeps.refl : d.Keeps d :=
  ⟨rfl, fun _ h => h⟩

variable {d' : ServerSession}

theorem Keeps.trans {d'' : ServerSession} (h : d.Keeps d') (h' : d'.Keeps d'') : d.Keeps d'' :=
  ⟨h'.selected.trans h.selected, fun row hrow => h.toRegister row (h'.toRegister row hrow)⟩

theorem Keeps.fail (h : d.Keeps d') (err : Error) : d.Keeps (d'.fail err) :=
  ⟨h.selected, fun _ hrow => by cases hrow⟩

theorem Keeps.persist (h : d.Keeps d') (flt : Option Error) : d.Keeps (d'.persist flt) := by
  cases flt with
  | none => exact h
  | some err => exact h.fail err

theorem toRegister_noteRejection (tid : Bytes) (phase : ReconcilePhase) :
    (noteRejection tid phase).toRegister = phase.toRegister := by
  cases phase <;> rfl

theorem handleResponse_keeps (req : Awaited) (rest : List (Nat × Awaited))
    (msg : ControlMessage) (flt : Option Error) :
    d.Keeps (d.handleResponse req rest msg flt) := by
  unfold handleResponse
  split
  · split
    · split
      · refine Keeps.persist ?_ flt
        exact ⟨rfl, fun _ h => h⟩
      · exact Keeps.refl.fail _
    · exact Keeps.refl.fail _
  · split
    · split
      · refine Keeps.persist ?_ flt
        exact ⟨rfl, fun _ h => h⟩
      · exact Keeps.refl.fail _
    · split
      · refine Keeps.persist ?_ flt
        exact ⟨rfl, fun _ h => toRegister_noteRejection _ d.phase ▸ h⟩
      · exact Keeps.refl.fail _
    · refine Keeps.fail ?_ _
      exact ⟨rfl, fun _ h => h⟩

theorem answerPing_keeps (rid sequence : Nat) (flt : Option Error) :
    d.Keeps (d.answerPing rid sequence flt).1 ∧
      ∀ frm ∈ (d.answerPing rid sequence flt).2, frm.isRequest = false := by
  cases flt with
  | none =>
    refine ⟨Keeps.refl, fun frm hf => ?_⟩
    rw [List.eq_of_mem_singleton hf]
    rfl
  | some err => exact ⟨Keeps.refl.fail err, fun _ h => by cases h⟩

theorem readResponse_keeps (rid : Nat) (req : Awaited) (rest : List (Nat × Awaited))
    (frm : ControlFrame) (flt : Option Error) :
    d.Keeps (d.readResponse rid req rest frm flt).1 ∧
      ∀ f ∈ (d.readResponse rid req rest frm flt).2, f.isRequest = false := by
  unfold readResponse
  split
  · exact answerPing_keeps _ _ flt
  · exact ⟨Keeps.refl.persist flt, fun _ h => by cases h⟩
  · split
    · exact ⟨handleResponse_keeps req rest _ flt, fun _ h => by cases h⟩
    · split
      · exact ⟨Keeps.refl.fail _, fun _ h => by cases h⟩
      · exact ⟨⟨rfl, fun _ h => h⟩, fun _ h => by cases h⟩

theorem readIdle_keeps (frm : ControlFrame) (flt : Option Error) :
    d.Keeps (d.readIdle frm flt).1 ∧
      ∀ f ∈ (d.readIdle frm flt).2, f.isRequest = false := by
  unfold readIdle
  split
  · exact answerPing_keeps _ _ flt
  · exact ⟨Keeps.refl.persist flt, fun _ h => by cases h⟩
  · exact ⟨Keeps.refl.fail _, fun _ h => by cases h⟩
  · exact ⟨Keeps.refl.fail _, fun _ h => by cases h⟩
  · exact ⟨Keeps.refl.fail _, fun _ h => by cases h⟩

theorem receive_keeps (chan : List ControlFrame) (flt : Option Error) :
    d.Keeps (d.receive chan flt).1 ∧
      ∀ f ∈ (d.receive chan flt).2.1, f.isRequest = false := by
  unfold receive
  split
  · exact ⟨Keeps.refl, fun _ h => by cases h⟩
  · split
    · split
      · exact ⟨Keeps.refl, fun _ h => by cases h⟩
      · exact readIdle_keeps _ flt
    · split
      · -- the buffered answer is taken out first
        refine ⟨Keeps.trans ?_ (handleResponse_keeps _ _ _ flt), fun _ h => by cases h⟩
        exact ⟨rfl, fun _ h => h⟩
      · exact ⟨Keeps.refl, fun _ h => by cases h⟩
      · exact readResponse_keeps _ _ _ _ flt

end Keeps

theorem startReconcile_keeps (dtb : Result Tunnels) (ord : List Bytes) :
    d.Keeps (d.startReconcile dtb ord) := by
  have he := d.startEffect dtb ord
  generalize d.startReconcile dtb ord = d' at he ⊢
  cases he with
  | nothing => exact Keeps.refl
  | failed err => exact Keeps.refl.fail err
  | started dtb _ _ => exact ⟨rfl, fun _ h => by cases h⟩

/-- The next part of a reconciliation: a row is collected only under its capability, and
only collected rows are asked for. -/
structure Collects (r : ServerSession × List ControlFrame) : Prop where
  selected : r.1.selectedCapabilities = d.selectedCapabilities
  toRegister : ∀ row ∈ r.1.phase.toRegister, row ∈ d.phase.toRegister ∨
    supportsTunnelMode d.selectedCapabilities (remoteTunnelMode row.protocol) = true
  asked : ∀ frame ∈ r.2, ∀ m, frame.message = .registerTunnel m →
    ∃ row ∈ d.phase.toRegister, m = registerMessage row

theorem Keeps.collects {d d' : ServerSession} (h : d.Keeps d') : d.Collects (d', []) :=
  ⟨h.selected, fun row hrow => .inl (h.toRegister row hrow), fun _ hf => by cases hf⟩

theorem sendWindow_collects (hwin : NextWindow d.phase win next)
    (intr : Option Interruption) : d.Collects (d.sendWindow win next intr) := by
  refine ⟨rfl, ?_, ?_⟩
  · intro row hrow
    cases intr with
    | none =>
      left
      generalize d.phase = phase at hwin ⊢
      cases hwin with
      | removals tns stale => cases hrow
      | registrations tns rows rej => exact List.mem_of_mem_drop hrow
    | some i => cases hrow
  · intro frm hf m hm
    obtain ⟨req, hreq, hmsg⟩ := d.mem_frames_sendWindow hf
    rw [hm] at hmsg
    generalize d.phase = phase at hwin ⊢
    cases hwin with
    | removals tns stale =>
      obtain ⟨_, -, rfl⟩ := List.mem_map.1 hreq
      cases hmsg
    | registrations tns rows rej =>
      obtain ⟨row, hrow, rfl⟩ := List.mem_map.1 hreq
      cases hmsg
      exact ⟨row, List.mem_of_mem_take hrow, rfl⟩

theorem advance_collects (intr : Option Interruption) :
    d.Collects (d.advance intr) := by
  have he := d.advanceEffect intr
  generalize d.advance intr = r at he ⊢
  cases he with
  | nothing => exact Keeps.refl.collects
  | failed err => exact (Keeps.refl.fail err).collects
  | purged _ hp => exact Keeps.collects ⟨rfl, fun _ h => by cases h⟩
  | skipped _ hp _ =>
    refine Keeps.collects ⟨rfl, fun row hrow => ?_⟩
    rw [hp]
    exact hrow
  | refreshed _ hp _ _ hn =>
    refine Keeps.collects ⟨rfl, fun row hrow => ?_⟩
    rw [hp]
    cases hn with
    | reached => exact hrow
    | failed err => cases hrow
  | collected _ hp _ _ hm =>
    refine ⟨rfl, fun row hrow => ?_, fun _ h => by cases h⟩
    rw [hp]
    rcases List.mem_append.1 hrow with hrow | hrow
    · exact .inl hrow
    · rw [List.eq_of_mem_singleton hrow]
      exact .inr hm
  | allCollected _ hp =>
    refine Keeps.collects ⟨rfl, fun row hrow => ?_⟩
    rw [hp]
    exact hrow
  | sent _ hwin intr => exact d.sendWindow_collects hwin intr
  | finished _ hp => exact Keeps.collects ⟨rfl, fun _ h => by cases h⟩

/-! ## Workers -/

theorem startRelay_eq_relayed {m : StartRelayMessage} {attempt : LocalAttempt}
    {ep : Endpoint} (h : d.startRelay m attempt = .relayed ep) :
    ∃ tgt, d.localEndpoints.lookup m.tunnelId = some tgt ∧ tgt.endpoint = ep := by
  have hres : d.resolveLocalEndpoint m.tunnelId = .ok ep := by
    unfold startRelay at h
    split at h
    · split at h <;> cases h
    all_goals
      split at h
      · cases h
      · next hres =>
        rw [hres]
        cases attempt <;> cases h
        rfl
  unfold resolveLocalEndpoint at hres
  split at hres
  · cases hres
  · next tgt ht =>
    cases hres
    exact ⟨tgt, ht, rfl⟩

theorem startRelay_eq_proxied {m : StartRelayMessage} {attempt : LocalAttempt}
    (h : d.startRelay m attempt = .proxied) : m.mode = .socks5 := by
  unfold startRelay at h
  split at h
  · next hm => exact hm
  all_goals
    split at h
    · cases h
    · cases attempt <;> cases h

end ServerSession

end MiniTun.Daemon
