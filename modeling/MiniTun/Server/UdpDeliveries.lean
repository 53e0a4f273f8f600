import MiniTun.Server.UdpIngress

/-!
# What a UDP listener receives and hands over

Of a listener only its socket and its receive operation are followed here, without the counters,
the peers and the tasks (`core`), and the calls of the connection handler (`delivered`).  Most
steps leave both alone.  A closed socket starts no receive operation, so a listener that is
closed has at most the datagram that had already arrived.
-/

namespace MiniTun.Server

open KeyedMap

namespace UdpListener

/-- The listener without its counters, its peers and its tasks. -/
def core (l : UdpListener) : UdpListener :=
  { l with queuedIngress := .zero, peers := ∅, tasks := [] }

/-- The number of received datagrams whose handler has not run. -/
def completed (l : UdpListener) : Nat :=
  match l.receive with
  | .completed _ _ => 1
  | _ => 0

/-- What a step other than a stop does to the core of a listener, and how often it calls the
connection handler. -/
inductive Move (l : UdpListener) : UdpListener → Nat → Prop where
  | stay : Move l l 0
  | arrive (hwaiting : l.receive = .waiting) (peer : PublicPeer) (payload : Bytes) :
      Move l { l with receive := .completed peer payload } 0
  | fault (hwaiting : l.receive = .waiting) : Move l { l with receive := .failed } 0
  | handled (hcompleted : l.completed = 1) (calls : Nat) (hcalls : calls ≤ 1) :
      Move l { l with receive := .idle }.receiveNext calls
  | failed (hfailed : l.receive = .failed) :
      Move l { l with receive := .idle, retry := l.isOpen } 0
  | aborted (haborted : l.receive = .aborted) : Move l { l with receive := .idle } 0
  | retry : Move l { l with retry := false }.receiveNext 0
  | destroy (hclosed : l.isOpen = false) : Move l { l with destroyed := true } 0

variable {l l' : UdpListener} {calls : Nat}

theorem closeSocket_receive (l : UdpListener) :
    l.closeSocket.receive ≠ .waiting ∧ l.closeSocket.completed = l.completed := by
  unfold closeSocket completed
  cases l.receive with
  | _ => exact ⟨UdpReceive.noConfusion, rfl⟩

theorem isOpen_receiveNext (l : UdpListener) : l.receiveNext.isOpen = l.isOpen := by
  unfold receiveNext
  split
  · rfl
  · rfl

theorem receiveNext_of_closed (hclosed : l.isOpen = false) : l.receiveNext = l := by
  rw [receiveNext, hclosed, if_neg Bool.false_ne_true]

theorem core_receiveNext (l : UdpListener) : l.receiveNext.core = l.core.receiveNext := by
  unfold receiveNext
  split
  · next hopen => exact (if_pos hopen).symm
  · next hclosed => exact (if_neg hclosed).symm

theorem Move.isOpen (h : Move l l' calls) : l'.isOpen = l.isOpen := by
  cases h with
  | handled | retry => exact isOpen_receiveNext _
  | _ => rfl

/-- A closed listener starts no operation, and hands over only what it has received. -/
theorem Move.of_closed (h : Move l l' calls) (hclosed : l.isOpen = false)
    (hreceive : l.receive ≠ .waiting) :
    l'.receive ≠ .waiting ∧ calls + l'.completed ≤ l.completed := by
  cases h with
  | arrive hwaiting | fault hwaiting => exact absurd hwaiting hreceive
  | handled hcompleted calls hcalls =>
    rw [receiveNext_of_closed (l := { l with receive := .idle }) hclosed, hcompleted]
    exact ⟨fun hwaiting => UdpReceive.noConfusion hwaiting, hcalls⟩
  | failed | aborted =>
    exact ⟨fun hwaiting => UdpReceive.noConfusion hwaiting, Nat.zero_le _⟩
  | retry =>
    rw [receiveNext_of_closed (l := { l with retry := false }) hclosed]
    exact ⟨hreceive, Nat.le_of_eq (Nat.zero_add _)⟩
  | stay | destroy => exact ⟨hreceive, Nat.le_of_eq (Nat.zero_add _)⟩

end UdpListener

namespace UdpIngress

/-- The cores of all listeners, and the calls of the connection handler. -/
def views (s : UdpIngress) : (Nat → Option UdpListener) × List Nat :=
  (fun listener => (s.listeners.lookup listener).map UdpListener.core, s.delivered)

variable {s s' : UdpIngress} {lsn : Nat} {l l' : UdpListener} {event : UdpIngressEvent}

theorem update_views (hl : s.listeners.lookup lsn = some l) :
    Function.update s.views.1 lsn (some l.core) = s.views.1 := by
  rw [Function.update_eq_self_iff]
  simp only [views, hl, Option.map_some]

theorem views_insert (h : s'.listeners = s.listeners.insert lsn l') :
    s'.views = (Function.update s.views.1 lsn (some l'.core), s'.delivered) := by
  refine Prod.ext (funext fun other => ?_) rfl
  simp only [views, h, lookup_insert_eq_ite, Function.update_apply]
  split
  · rfl
  · rfl

/-- Counters, peers and tasks do not matter. -/
theorem views_insert_core (hl : s.listeners.lookup lsn = some l)
    (h : s'.listeners = s.listeners.insert lsn l') (hcore : l'.core = l.core) :
    s'.views = (s.views.1, s'.delivered) := by
  rw [views_insert h, hcore, update_views hl]

theorem views_update (hl : s.listeners.lookup lsn = some l) (f : UdpListener → UdpListener) :
    (s.update lsn f).views = (Function.update s.views.1 lsn (some (f l).core), s.delivered) := by
  unfold update
  rw [hl]
  exact views_insert rfl

theorem views_update_core (hl : s.listeners.lookup lsn = some l) {f : UdpListener → UdpListener}
    (hcore : (f l).core = l.core) : (s.update lsn f).views = s.views := by
  rw [views_update hl, hcore, update_views hl]
  rfl

theorem views_putSession (s : UdpIngress) (ses : Nat)
    (res : UdpSession × List ListenerTask) : (s.putSession ses res).views = s.views := by
  unfold putSession postListener
  split
  · rfl
  · next hl =>
    split
    · rfl
    · exact views_insert_core hl rfl rfl

@[simp] theorem views_postSession (s : UdpIngress) (ses : Nat) (task : PeerTask) :
    (s.postSession ses task).views = s.views := by
  unfold postSession
  split
  · rfl
  · rfl

@[simp] theorem views_releaseIngressNow (s : UdpIngress) (lsn : Nat) (a : IngressAmount) :
    (s.releaseIngressNow lsn a).views = s.views := by
  unfold releaseIngressNow
  split
  · rfl
  · next hl => exact views_insert_core hl rfl rfl

theorem views_stop (hl : s.listeners.lookup lsn = some l) :
    (s.stop lsn l).views =
      (Function.update s.views.1 lsn (some l.closeSocket.core), s.delivered) := by
  have hfold := listeners_foldl_postClose
    (s.update lsn fun l => { l.closeSocket with peers := ∅ }) (l.peers.entries.map (·.2))
  unfold stop
  rw [views_releaseIngressNow]
  refine Eq.trans ?_ (views_update hl fun l => { l.closeSocket with peers := ∅ })
  exact Prod.ext (by simp only [views, hfold.1]) hfold.2

section Handlers

variable (net : AddressText)

/-- A datagram calls the connection handler at most once. -/
theorem views_handleDatagram (hl : s.listeners.lookup lsn = some l) (peer : PublicPeer)
    (pay : Bytes) (paired : Bool) (ses : Nat) :
    ∃ calls ≤ 1, (s.handleDatagram net lsn l peer pay paired ses).views =
      (s.views.1, s.delivered ++ List.replicate calls lsn) := by
  have hnone : s.views = (s.views.1, s.delivered ++ List.replicate 0 lsn) := by
    rw [List.replicate_zero, List.append_nil]
    rfl
  unfold handleDatagram reserveIngress UdpIngressBudget.reserve
  split
  · exact ⟨0, Nat.zero_le _, hnone⟩
  · split
    · exact ⟨0, Nat.zero_le _, hnone⟩
    · next reserved hreserved =>
      obtain ⟨hviews, l', hlookup⟩ : reserved.views = s.views ∧
          ∃ l', reserved.listeners.lookup lsn = some l' := by
        split at hreserved
        · obtain ⟨budget, -, rfl⟩ := Option.map_eq_some_iff.1 hreserved
          exact ⟨views_insert_core hl rfl rfl, _, AList.lookup_insert _⟩
        · cases hreserved
      split
      · exact ⟨0, Nat.zero_le _, (views_postSession ..).trans (hviews.trans hnone)⟩
      · split
        · exact ⟨0, Nat.zero_le _, (views_releaseIngressNow ..).trans (hviews.trans hnone)⟩
        · refine ⟨1, Nat.le_refl _, ?_⟩
          have hdelivered : reserved.delivered = s.delivered := congrArg Prod.snd hviews
          rw [views_postSession, ← hviews, ← hdelivered, addSession, hlookup]
          exact views_insert_core hlookup rfl rfl

/-- The handler of a receive operation. -/
theorem moves_receive (hl : s.listeners.lookup lsn = some l) (paired : Bool) (ses : Nat) :
    ∃ l' calls, l.core.Move l' calls ∧ (s.receive net lsn l paired ses).views =
      (Function.update s.views.1 lsn (some l'), s.delivered ++ List.replicate calls lsn) := by
  have hidle := views_update hl fun l => { l with receive := .idle }
  have hlookup := lookup_update (fun l => { l with receive := .idle }) hl
  have hstay : s.views = (Function.update s.views.1 lsn (some l.core), s.delivered ++ []) := by
    rw [update_views hl, List.append_nil]
    rfl
  unfold receive
  cases hreceive : l.receive with
  | completed peer pay =>
    obtain ⟨calls, hcalls, hviews⟩ := views_handleDatagram net hlookup peer pay paired ses
    rw [hidle] at hviews
    obtain ⟨handled, hhandled, hcore⟩ := Option.map_eq_some_iff.1
      ((congrFun (congrArg Prod.fst hviews) lsn).trans (Function.update_self ..))
    refine ⟨_, calls, .handled (by simp only [UdpListener.completed, UdpListener.core, hreceive])
      calls hcalls, (views_update hhandled _).trans (Prod.ext ?_ ?_)⟩
    · rw [hviews, UdpListener.core_receiveNext, hcore]
      exact Function.update_idem ..
    · exact (congrArg Prod.snd hviews).trans (congrArg (· ++ _) (congrArg Prod.snd hidle))
  | failed =>
    refine ⟨_, 0, .failed hreceive, (views_update hlookup _).trans ?_⟩
    rw [hidle]
    refine Prod.ext (Function.update_idem ..) ?_
    exact (congrArg Prod.snd hidle).trans (List.append_nil _).symm
  | aborted =>
    refine ⟨_, 0, .aborted hreceive, hidle.trans ?_⟩
    rw [List.replicate_zero, List.append_nil]
    rfl
  | idle | waiting => exact ⟨_, 0, .stay, hstay⟩

/-- **What a step does to a listener**, if it does not stop it. -/
theorem moves_listenerStep (hl : s.listeners.lookup lsn = some l)
    (hstop : event ≠ .stop lsn) (hsubject : event.subject = .listener lsn) :
    ∃ l' calls, l.core.Move l' calls ∧ (s.listenerStep net lsn l event).views =
      (Function.update s.views.1 lsn (some l'), s.delivered ++ List.replicate calls lsn) := by
  have hstay : s.views = (Function.update s.views.1 lsn (some l.core), s.delivered ++ []) := by
    rw [update_views hl, List.append_nil]
    rfl
  have hmove : ∀ f : UdpListener → UdpListener, l.core.Move (f l).core 0 →
      ∃ l' calls, l.core.Move l' calls ∧ (s.update lsn f).views =
        (Function.update s.views.1 lsn (some l'), s.delivered ++ List.replicate calls lsn) := by
    intro f h
    refine ⟨_, 0, h, (views_update hl f).trans ?_⟩
    rw [List.replicate_zero, List.append_nil]
  cases event with
  | arrive _ peer pay =>
    simp only [listenerStep]
    split
    · next h => exact hmove _ (.arrive (l := l.core) h.1 peer pay)
    · exact ⟨_, 0, .stay, hstay⟩
  | fault _ =>
    simp only [listenerStep]
    split
    · next h => exact hmove _ (.fault h)
    · exact ⟨_, 0, .stay, hstay⟩
  | receive _ paired ses =>
    simp only [listenerStep]
    split
    · exact moves_receive net hl paired ses
    · exact ⟨_, 0, .stay, hstay⟩
  | retry _ =>
    simp only [listenerStep]
    split
    · refine hmove _ ?_
      rw [UdpListener.core_receiveNext]
      exact .retry
    · exact ⟨_, 0, .stay, hstay⟩
  | stop _ =>
    cases hsubject
    exact absurd rfl hstop
  | runListener _ task =>
    refine ⟨_, 0, .stay, Eq.trans ?_ hstay⟩
    simp only [listenerStep]
    split
    · refine Eq.trans ?_ (views_update_core hl
        (f := fun l => { l with tasks := l.tasks.erase task }) rfl)
      cases task with
      | releaseIngress a => exact views_releaseIngressNow ..
      | peerFinished key ses =>
        refine views_update_core (lookup_update _ hl) ?_
        split
        · rfl
        · rfl
    · rfl
  | destroy _ =>
    simp only [listenerStep]
    split
    · next hfree =>
      obtain ⟨hclosed, hidle, -⟩ := of_decide_eq_true hfree
      obtain ⟨tally, htally, -⟩ := lookup_stop hl
      have hkept : l.closeSocket = l := by
        simp only [UdpListener.closeSocket, hidle, reduceCtorEq, if_false, ← hclosed]
        rw [← hidle]
      rw [hkept] at htally
      refine ⟨_, 0, .destroy hclosed, (views_update htally _).trans (Prod.ext ?_ ?_)⟩
      · rw [views_stop hl]
        exact Function.update_idem ..
      · exact (congrArg Prod.snd (views_stop hl)).trans (List.append_nil _).symm
    · exact ⟨_, 0, .stay, hstay⟩
  | _ => cases hsubject

/-- A session's step posts tasks and does nothing else to the listeners. -/
theorem views_sessionStep (s : UdpIngress) (ses : Nat) (p : UdpSession) (event : UdpIngressEvent) :
    (s.sessionStep ses p event).views = s.views := by
  cases event with
  | runSession _ _ | written _ _ _ =>
    simp only [sessionStep]
    split
    · exact views_putSession ..
    · rfl
  | readFails _ => exact views_putSession ..
  | _ => rfl

end Handlers

/-- The core of a listener, or of one that is closed if there is none. -/
def coreOf (s : UdpIngress) (listener : Nat) : UdpListener :=
  (s.views.1 listener).getD { UdpListener.new 0 with isOpen := false, receive := .idle }

theorem coreOf_insert (h : s'.listeners = s.listeners.insert lsn l') (other : Nat) :
    s'.coreOf other = if other = lsn then l'.core else s.coreOf other := by
  simp only [coreOf, views_insert h, Function.update_apply]
  split
  · rfl
  · rfl

theorem coreOf_stop (hl : s.listeners.lookup lsn = some l) (other : Nat) :
    (s.stop lsn l).coreOf other =
      if other = lsn then (s.coreOf other).closeSocket else s.coreOf other := by
  simp only [coreOf, views_stop hl, Function.update_apply]
  split
  · next heq =>
    subst heq
    simp only [views, hl]
    rfl
  · rfl

/-- The event is of the operations and tasks of the listeners: only the registry makes
and stops listeners. -/
def internal : UdpIngressEvent → Bool
  | .listen _ _ | .stop _ => false
  | _ => true

/-- **What a step does to any listener**, if it makes and stops none. -/
theorem moves_step (net : AddressText) (hinternal : internal event = true) (lsn : Nat) :
    ∃ calls, (s.coreOf lsn).Move ((s.step net event).coreOf lsn) calls ∧
      (s.step net event).delivered.count lsn = s.delivered.count lsn + calls := by
  have hframe : ∀ {s' : UdpIngress}, s'.views = s.views →
      ∃ calls, (s.coreOf lsn).Move (s'.coreOf lsn) calls ∧
        s'.delivered.count lsn = s.delivered.count lsn + calls := by
    intro s' h
    rw [show s'.delivered = s.delivered from congrArg Prod.snd h, coreOf, coreOf, h]
    exact ⟨0, .stay, rfl⟩
  unfold step
  cases hsubject : event.subject with
  | newListener other maxPeers =>
    cases event with
    | listen _ _ => cases hinternal
    | _ => cases hsubject
  | session ses =>
    simp only
    split
    · exact hframe rfl
    · exact hframe (views_sessionStep ..)
  | listener other =>
    simp only
    split
    · exact hframe rfl
    · next l hl =>
      split
      · exact hframe rfl
      · have hstop : event ≠ .stop other := by
          rintro rfl
          cases hinternal
        obtain ⟨l', calls, hmove, hviews⟩ := moves_listenerStep net hl hstop hsubject
        have hdelivered := congrArg Prod.snd hviews
        simp only [views] at hdelivered
        by_cases hother : lsn = other
        · subst hother
          refine ⟨calls, ?_, ?_⟩
          · simp only [coreOf, hviews, Function.update_self, Option.getD_some]
            simp only [views, hl]
            exact hmove
          · rw [hdelivered, List.count_append, List.count_replicate_self]
        · refine ⟨0, ?_, ?_⟩
          · simp only [coreOf, hviews, Function.update_of_ne hother]
            exact .stay
          · rw [hdelivered, List.count_append, List.count_replicate,
              if_neg (by simpa using Ne.symm hother)]

end UdpIngress

end MiniTun.Server
