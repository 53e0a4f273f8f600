import MiniTun.Daemon.TunnelReconciler

/-!
# Ended generations

`end_generation` marks the tunnels of a server pending, but leaves the entry of the server
in `generations_`.  The generation that has ended stays the current one until
`begin_generation` or `invalidate` replaces it, and a transition that was under way when the
session ended is made as if it had not.
-/

namespace MiniTun.Daemon

open KeyedMap Relational Storage TransitionSystem

namespace TunnelReconciler

/-- No transition of the generation changes a row, whatever tunnel, revision and state it
names. -/
def Silenced (server : Id) (generation : Nat) (r : TunnelReconciler) : Prop :=
  ∀ t c, t.serverId = server → t.generation = generation →
    ∀ id, (r.transition c t).2.tunnels.find id = r.tunnels.find id

/-- The server has a tunnel that is not a tombstone. -/
def HasTunnel (serverId : Bytes) (r : TunnelReconciler) : Prop :=
  ∃ id row, r.tunnels.find id = some row ∧ row.serverId = serverId ∧ row.desiredState ≠ .removed

/-- Nobody touches the row: no transaction updates it, and a transition of the server has a
number the map does not hold (any more). -/
def Undisturbed (serverId id : Bytes) (r : TunnelReconciler) : ReconcilerEvent → Prop
  | .transition t _ =>
    t.serverId.text = serverId → r.generations.lookup serverId ≠ some t.generation
  | .commit tunnels => tunnels.find id = r.tunnels.find id
  | _ => True

/-- The tunnel is an active one of the server, and is pending. -/
def Pending (serverId id : Bytes) (r : TunnelReconciler) : Prop :=
  ∃ row, r.tunnels.find id = some row ∧ row.serverId = serverId ∧ row.desiredState = .active ∧
    row.actualState = .pending

variable {r : TunnelReconciler}

/-! ## What the current generation can do -/

/-- A transition that the statement of `update_runtime_state_if_revision` makes of a row, later
than the row. -/
def touching (server tunnel : Id) (generation : Nat) (row : TunnelRecord) : Transition where
  serverId := server
  tunnelId := tunnel
  generation := generation
  expectedRevision := row.configRevision
  state := if row.desiredState = .disabled then .disabled else .active
  error := none
  synchronized := true

/-- The current generation can change every row of the server but a tombstone. -/
theorem not_silenced {server : Id} {generation : Nat} (hserver : server.kind = .server)
    (hpositive : 0 < generation) (hcurrent : r.generations.lookup server.text = some generation)
    (htunnel : r.HasTunnel server.text) : ¬r.Silenced server generation := by
  obtain ⟨id, row, hrow, howner, hdesired⟩ := htunnel
  have hchecked : row.Checked := Table.check_of_find hrow
  have hkey : row.id = id := (Table.find_eq_some_iff.1 hrow).2
  have hconfiguration := hchecked.configuration
  simp only [TunnelRecord.validConfiguration, decide_eq_true_eq] at hconfiguration
  obtain ⟨hid, -, -, -, hrevision, hmaximum⟩ := hconfiguration
  have htime : 0 ≤ row.updatedAt := hchecked.timed.created.trans hchecked.timed.updated
  let t := touching server ⟨.tunnel, row.id, validId_iff.1 hid⟩ generation row
  have hstate : row.desiredState = desiredFor t.state ∧ t.state ≠ .removing := by
    change row.desiredState = desiredFor (if row.desiredState = .disabled then _ else _) ∧
      (if row.desiredState = .disabled then TunnelActualState.disabled else .active) ≠ .removing
    cases hcase : row.desiredState with
    | removed => exact absurd hcase hdesired
    | _ => decide
  have hvalid : checkRuntimeUpdate t.tunnelId t.serverId t.expectedRevision t.state t.error
      (row.updatedAt + 1) = .ok () := by
    unfold checkRuntimeUpdate
    rw [if_neg]
    · rfl
    · rintro (h | h | h | h | h | h)
      · exact h rfl
      · exact h hserver
      · exact absurd h (Nat.ne_of_gt hrevision)
      · exact absurd h (Nat.not_lt.2 hmaximum)
      · omega
      · exact hstate.2 h
  have hselects : runtimeSelects t.tunnelId.text t.serverId.text t.expectedRevision t.state row =
      true := runtimeSelects_iff.2 ⟨rfl, howner, hstate.1, rfl⟩
  obtain ⟨-, hfind⟩ := transition_applies (c := ⟨row.updatedAt + 1, none⟩) (t := t) hpositive
    hcurrent hvalid rfl hrow hselects
  intro hsilenced
  have hsame := (hsilenced t _ rfl rfl id).symm.trans hfind
  rw [hrow, Option.some.injEq] at hsame
  have hlater : row.updatedAt = max row.updatedAt (row.updatedAt + 1) :=
    congrArg TunnelRecord.updatedAt hsame
  omega

/-- A generation is silenced exactly if it is not the current one, or its server has nothing it
could change. -/
theorem silenced_iff {server : Id} {generation : Nat} (hserver : server.kind = .server)
    (hpositive : 0 < generation) : r.Silenced server generation ↔
      r.generations.lookup server.text ≠ some generation ∨ ¬r.HasTunnel server.text := by
  constructor
  · intro hsilenced
    by_contra hnot
    rw [not_or, not_not, not_not] at hnot
    exact not_silenced hserver hpositive hnot.1 hnot.2 hsilenced
  · rintro hfenced t c rfl rfl id
    by_contra hchanged
    obtain ⟨hcurrent, row, hrow, hselects⟩ := transition_changes hchanged
    obtain ⟨-, howner, hdesired, -⟩ := runtimeSelects_iff.1 hselects
    rcases hfenced with hreplaced | hnone
    · exact hreplaced hcurrent
    · refine hnone ⟨id, row, hrow, howner, ?_⟩
      rw [hdesired]
      unfold desiredFor
      split
      · exact nofun
      · exact nofun

/-! ## Pending tunnels -/

section Pending

variable {sid id : Bytes}

theorem Pending.normalize (h : r.Pending sid id) (c : Circumstances) (srv : Id)
    (err : Option RecordedError) : (r.normalize c srv err).2.Pending sid id := by
  obtain ⟨row, hrow, hs, hd, hact⟩ := h
  rcases markActivePendingByServer_cases r.tunnels c.fault srv err c.now with hsa | hf
  · exact ⟨row, (congrArg (Table.find · id) hsa).trans hrow, hs, hd, hact⟩
  · refine ⟨_, (hf id).trans (congrArg _ hrow), ?_⟩
    unfold Table.assigned
    split
    · exact ⟨hs, hd, rfl⟩
    · exact ⟨hs, hd, hact⟩

/-- Only a transition of its server could take a pending tunnel out of that state. -/
theorem Pending.step (h : r.Pending sid id) {e : ReconcilerEvent}
    (hundisturbed : Undisturbed sid id r e) : (r.step e).Pending sid id := by
  cases e with
  | beginGeneration srv c =>
    simp only [TunnelReconciler.step, beginGeneration]
    split
    · exact h
    · exact Pending.normalize h c srv none
  | endGeneration srv number err c =>
    simp only [TunnelReconciler.step, endGeneration]
    split
    · exact h
    · split
      · exact h
      · exact h.normalize c srv err
  | invalidate srv err c =>
    simp only [TunnelReconciler.step, invalidate]
    split
    · exact h
    · exact Pending.normalize h c srv err
  | commit tns =>
    obtain ⟨row, hrow, hkeeps⟩ := h
    exact ⟨row, hundisturbed.trans hrow, hkeeps⟩
  | transition t c =>
    obtain ⟨row, hrow, howner, hkeeps⟩ := h
    have hsame : (r.transition c t).2.tunnels.find id = r.tunnels.find id := by
      by_contra hchanged
      obtain ⟨hcurrent, selected, hselected, hselects⟩ := transition_changes hchanged
      obtain rfl := Option.some.inj (hrow.symm.trans hselected)
      have hserver := (runtimeSelects_iff.1 hselects).2.1.symm.trans howner
      rw [hserver] at hcurrent
      exact hundisturbed hserver hcurrent
    exact ⟨row, hsame.trans hrow, howner, hkeeps⟩

theorem endGeneration_pending {c : Circumstances} {srv : Id} {gen : Nat}
    {err : Option RecordedError} {row : TunnelRecord}
    (hcur : r.generations.lookup srv.text = some gen)
    (hend : (r.endGeneration c srv gen err).1 = .ok ())
    (hrow : (r.endGeneration c srv gen err).2.tunnels.find id = some row)
    (hs : row.serverId = srv.text) (hd : row.desiredState = .active) :
    (r.endGeneration c srv gen err).2.Pending srv.text id := by
  refine ⟨row, hrow, hs, hd, ?_⟩
  unfold TunnelReconciler.endGeneration at hend hrow
  split at hend
  · exact absurd hend failure_ne_ok
  · next hval =>
    rw [if_neg (not_not.2 hcur)] at hend
    rw [if_neg hval, if_neg (not_not.2 hcur)] at hrow
    have hf := find_of_markActivePendingByServer_ok hend id
    obtain ⟨before, hb, heq⟩ := Option.map_eq_some_iff.1 (hf.symm.trans hrow)
    unfold Table.assigned at heq
    split at heq
    · rw [← heq]
      rfl
    · next hsel =>
      subst heq
      exact absurd (decide_eq_true ⟨hs, hd⟩) hsel

end Pending

/-- **The end of a generation**, at every point of every run after it.  The generation that has
ended can change no row exactly if a call after the end has made another generation of the
server, or the server has no tunnel left that is not a tombstone.  An active tunnel that nobody
touches, no transition with a number that is still current included, stays pending. -/
theorem endGeneration_silenced_iff {c : Circumstances} {server : Id} {generation : Nat}
    {error : Option RecordedError} (hcurrent : r.generations.lookup server.text = some generation)
    (hended : (r.endGeneration c server generation error).1 = .ok ())
    (rest : List ReconcilerEvent)
    (hcount : generation + generationsMade server.text rest ≤ maxGeneration) :
    let ended := (r.endGeneration c server generation error).2
    (Silenced server generation (exec step ended rest) ↔
      0 < generationsMade server.text rest ∨ ¬HasTunnel server.text (exec step ended rest)) ∧
    ∀ id row, ended.tunnels.find id = some row → row.serverId = server.text →
      row.desiredState = .active → AllSteps step (Undisturbed server.text id) ended rest →
      Pending server.text id (exec step ended rest) := by
  intro ended
  obtain ⟨hserver, hpositive⟩ : server.kind = .server ∧ 0 < generation := by
    unfold TunnelReconciler.endGeneration at hended
    split at hended
    · exact absurd hended failure_ne_ok
    · next hvalid =>
      rw [not_or, not_not] at hvalid
      exact ⟨hvalid.1, Nat.pos_of_ne_zero hvalid.2⟩
  have hkept : ended.generations.lookup server.text = numbered generation := by
    have hnumber := hcurrent.trans (numbered_eq_some.2 ⟨hpositive, rfl⟩).symm
    have hbound : generation + 0 ≤ maxGeneration := by omega
    exact lookup_step (e := .endGeneration server generation error c) hnumber hbound
  constructor
  · rw [silenced_iff hserver hpositive, lookup_exec hkept hcount, Ne, numbered_eq_some]
    refine or_congr_left ⟨fun hmade => ?_, fun hmade => ?_⟩
    · omega
    · omega
  · intro id row hrow howner hdesired hundisturbed
    apply hundisturbed.invariant
    · intro r e hpending hstep
      exact hpending.step hstep
    · exact endGeneration_pending hcurrent hended hrow howner hdesired

end TunnelReconciler

namespace Sample

def ended : Result Unit × TunnelReconciler :=
  (exec TunnelReconciler.step (.initial tunnels) history).endGeneration ⟨6, none⟩ serverId 1 none

end Sample

open Sample

/-- A registration that was under way when the session ended revives the tunnel. -/
theorem endGeneration_revived :
    (exec TunnelReconciler.step (.initial tunnels) history).generations.lookup
        serverId.text = some 1 ∧
      ended.1 = .ok () ∧
      (ended.2.tunnels.find tunnelId.text).map (·.actualState) = some .pending ∧
      ((ended.2.step (.transition registered ⟨7, none⟩)).tunnels.find
        tunnelId.text).map (·.actualState) = some .active := by
  decide +kernel

/-- Once the generation has been replaced, no such transition changes anything. -/
theorem endGeneration_silenced_invalidated :
    TunnelReconciler.Silenced serverId 1
      (exec TunnelReconciler.step ended.2 [.invalidate serverId none ⟨6, none⟩]) := by
  have hcurrent : (exec TunnelReconciler.step (.initial tunnels)
      history).generations.lookup serverId.text = some 1 := by
    decide +kernel
  have hended : ended.1 = .ok () := by decide +kernel
  exact (TunnelReconciler.endGeneration_silenced_iff hcurrent hended _ (by decide)).1.2
    (.inl (by decide))

end MiniTun.Daemon
