import MiniTun.Protocol.CanonicalCodec
import MiniTun.Sdk.RemoteProtocol

/-!
# Canonical messages through the SDK

The codecs of the single kinds, and the entry points that dispatch to them, are
inverse to each other.  The reservation for error codes carries over: a message
whose code names no enumerator encodes, and decodes as another message.
-/

namespace MiniTun.Remote

open MiniTun.Protocol
open Wire (Canonical)

/-- The error code of a message is an enumerator, if it has one at all. -/
def NamedCode : Message → Prop
  | ⟨.authError, m⟩ => IsNamedErrorCode m.code
  | ⟨.registerTunnelError, m⟩ => IsNamedErrorCode m.code
  | ⟨.localConnectError, m⟩ => IsNamedErrorCode m.code
  | _ => True

/-! ## The kinds -/

theorem canonical_of_eq_ok {α : Type} {Valid : α → Prop} {layout : α → Bytes}
    {encode : α → Result Bytes} {decode : Bytes → Result α}
    (he : ∀ m p, encode m = .ok p ↔ Valid m ∧ p = layout m)
    (hd : ∀ p m, decode p = .ok m ↔ Valid m ∧ p = layout m) :
    Canonical (fun _ => True) encode decode :=
  .of_layout he fun p m => by rw [hd p m, true_and]

theorem hello_canonical : Canonical (fun _ => True) encodeHello decodeHello :=
  canonical_of_eq_ok (fun _ _ => encodeHello_eq_ok) fun _ _ => decodeHello_eq_ok

theorem helloAck_canonical : Canonical (fun _ => True) encodeHelloAck decodeHelloAck :=
  canonical_of_eq_ok (fun _ _ => encodeHelloAck_eq_ok) fun _ _ => decodeHelloAck_eq_ok

theorem auth_canonical : Canonical (fun _ => True) encodeAuth decodeAuth :=
  canonical_of_eq_ok (fun _ _ => encodeAuth_eq_ok) fun _ _ => decodeAuth_eq_ok

theorem authOk_canonical : Canonical (fun _ => True) encodeAuthOk decodeAuthOk :=
  canonical_of_eq_ok (fun _ _ => encodeAuthOk_eq_ok) fun _ _ => decodeAuthOk_eq_ok

theorem authError_canonical :
    Canonical (fun m => IsNamedErrorCode m.code) encodeAuthError decodeAuthError :=
  .of_layout (fun _ _ => encodeAuthError_eq_ok) fun _ _ => decodeAuthError_eq_ok

theorem heartbeat_canonical : Canonical (fun _ => True) encodeHeartbeat decodeHeartbeat where
  decode_encode _ _ _ h := decodeHeartbeat_eq_ok.2 (encodeHeartbeat_eq_ok.1 h)
  encode_decode _ _ h := encodeHeartbeat_eq_ok.2 (decodeHeartbeat_eq_ok.1 h)

theorem registerTunnel_canonical :
    Canonical (fun _ => True) encodeRegisterTunnel decodeRegisterTunnel :=
  canonical_of_eq_ok (fun _ _ => encodeRegisterTunnel_eq_ok) fun _ _ => decodeRegisterTunnel_eq_ok

theorem registerTunnelOk_canonical :
    Canonical (fun _ => True) encodeRegisterTunnelOk decodeRegisterTunnelOk :=
  canonical_of_eq_ok (fun _ _ => encodeTunnelRevision_eq_ok) fun _ _ =>
    decodeRevisionAs_eq_ok (fun _ => rfl) (fun _ _ => rfl) fun _ _ => rfl

theorem registerTunnelError_canonical :
    Canonical (fun m => IsNamedErrorCode m.code) encodeRegisterTunnelError
      decodeRegisterTunnelError :=
  .of_layout (fun _ _ => encodeRegisterTunnelError_eq_ok) fun _ _ =>
    decodeRegisterTunnelError_eq_ok

theorem unregisterTunnel_canonical :
    Canonical (fun _ => True) encodeUnregisterTunnel decodeUnregisterTunnel :=
  canonical_of_eq_ok (fun _ _ => encodeTunnelRevision_eq_ok) fun _ _ =>
    decodeRevisionAs_eq_ok (fun _ => rfl) (fun _ _ => rfl) fun _ _ => rfl

theorem requestWorkers_canonical :
    Canonical (fun _ => True) encodeRequestWorkers decodeRequestWorkers :=
  canonical_of_eq_ok (fun _ _ => encodeRequestWorkers_eq_ok) fun _ _ => decodeRequestWorkers_eq_ok

theorem workerHello_canonical : Canonical (fun _ => True) encodeWorkerHello decodeWorkerHello :=
  canonical_of_eq_ok (fun _ _ => encodeWorkerHello_eq_ok) fun _ _ => decodeWorkerHello_eq_ok

theorem localConnectError_canonical :
    Canonical (fun m => IsNamedErrorCode m.code) encodeLocalConnectError decodeLocalConnectError :=
  .of_layout (fun _ _ => encodeLocalConnectError_eq_ok) fun _ _ => decodeLocalConnectError_eq_ok

theorem connectionId_canonical {α : Type} {make : Bytes → α} {conId : α → Bytes}
    {msg : String} (hmk : ∀ m, make (conId m) = m)
    (hid : ∀ i, conId (make i) = i) :
    Canonical (fun _ => True) (fun m => encodeConnectionId (conId m))
      (fun p => (decodeConnectionId msg p).map make) where
  decode_encode m p _ h := by
    have hd : decodeConnectionId msg p = .ok (conId m) :=
      decodeConnectionId_eq_ok.2 (encodeConnectionId_eq_ok.1 h)
    rw [hd]
    exact congrArg Except.ok (hmk m)
  encode_decode p m h := by
    cases hd : decodeConnectionId msg p with
    | error e => simp [hd, Except.map] at h
    | ok i =>
      rw [hd] at h
      cases h
      rw [hid]
      exact encodeConnectionId_eq_ok.2 (decodeConnectionId_eq_ok.1 hd)

theorem workerAccepted_canonical :
    Canonical (fun _ => True) encodeWorkerAccepted decodeWorkerAccepted :=
  connectionId_canonical (fun _ => rfl) fun _ => rfl

theorem localConnectOk_canonical :
    Canonical (fun _ => True) encodeLocalConnectOk decodeLocalConnectOk :=
  connectionId_canonical (fun _ => rfl) fun _ => rfl

/-! ## The entry points -/

theorem getIf_eq_some {alternative : Alternative} {msg : Message} {val : alternative.Value} :
    getIf alternative msg = some val ↔ msg = ⟨alternative, val⟩ := by
  obtain ⟨held, content⟩ := msg
  unfold getIf
  by_cases h : held = alternative
  · subst h
    simp
  · simp [h]

theorem canonical_as {alternative : Alternative} {Known : alternative.Value → Prop}
    {encode : alternative.Value → Result Bytes} {decode : Bytes → Result alternative.Value}
    (h : Canonical Known encode decode) {KnownMessage : Message → Prop}
    (hk : ∀ val, KnownMessage ⟨alternative, val⟩ → Known val) :
    Canonical KnownMessage (encodeAs alternative encode)
      (fun p => messageResult alternative (decode p)) where
  decode_encode m p hm he := by
    unfold encodeAs at he
    cases hget : getIf alternative m with
    | none => simp [hget, failure] at he
    | some val =>
      obtain rfl := getIf_eq_some.1 hget
      simp only [hget] at he
      simp [messageResult, h.decode_encode val p (hk val hm) he, Except.map]
  encode_decode p m hd := by
    unfold messageResult at hd
    cases hval : decode p with
    | error e => simp [hval, Except.map] at hd
    | ok val =>
      simp only [hval, Except.map, Except.ok.injEq] at hd
      subst hd
      have hget : getIf alternative ⟨alternative, val⟩ = some val := getIf_eq_some.2 rfl
      simp only [encodeAs, hget]
      exact h.encode_decode p val hval

theorem empty_canonical (type : UInt16) {KnownMessage : Message → Prop} :
    Canonical KnownMessage (encodeEmpty type) (decodeEmpty type) where
  decode_encode m p _ he := by
    unfold encodeEmpty at he
    cases hget : getIf .empty m with
    | none => simp [hget, failure] at he
    | some empty =>
      obtain rfl := getIf_eq_some.1 hget
      simp only [hget] at he
      by_cases ht : empty.type ≠ type
      · simp [ht, failure] at he
      · simp only [if_neg ht, Except.ok.injEq] at he
        obtain rfl := not_not.1 ht
        rw [← he]
        rfl
  encode_decode p m hd := by
    unfold decodeEmpty at hd
    by_cases hp : p ≠ []
    · simp [hp, failure] at hd
    · simp only [if_neg hp, Except.ok.injEq] at hd
      subst hd
      have hget : getIf .empty ⟨.empty, ⟨type⟩⟩ = some (⟨type⟩ : EmptyMessage) :=
        getIf_eq_some.2 rfl
      simp [encodeEmpty, hget, not_not.1 hp]

section EntryPoints

variable (isAddress : Bytes → Bool)

theorem payload_canonical {type : UInt16} (hr : messageTypeFromWire type ≠ some .startRelay) :
    Canonical NamedCode (encodePayload type) (decodePayload isAddress type) := by
  unfold encodePayload decodePayload
  cases ht : messageTypeFromWire type with
  | none =>
    exact ⟨fun _ _ _ h => absurd h failure_ne_ok, fun _ _ h => absurd h failure_ne_ok⟩
  | some t => cases t with
    | hello => exact canonical_as hello_canonical fun _ _ => trivial
    | helloAck => exact canonical_as helloAck_canonical fun _ _ => trivial
    | auth => exact canonical_as auth_canonical fun _ _ => trivial
    | authOk => exact canonical_as authOk_canonical fun _ _ => trivial
    | authError => exact canonical_as authError_canonical fun _ h => h
    | registerTunnel => exact canonical_as registerTunnel_canonical fun _ _ => trivial
    | registerTunnelOk => exact canonical_as registerTunnelOk_canonical fun _ _ => trivial
    | registerTunnelError => exact canonical_as registerTunnelError_canonical fun _ h => h
    | unregisterTunnel => exact canonical_as unregisterTunnel_canonical fun _ _ => trivial
    | unregisterTunnelOk => exact canonical_as unregisterTunnel_canonical fun _ _ => trivial
    | requestWorkers => exact canonical_as requestWorkers_canonical fun _ _ => trivial
    | ping => exact canonical_as heartbeat_canonical fun _ _ => trivial
    | pong => exact canonical_as heartbeat_canonical fun _ _ => trivial
    | goaway => exact empty_canonical type
    | error => exact empty_canonical type
    | workerHello => exact canonical_as workerHello_canonical fun _ _ => trivial
    | workerAccepted => exact canonical_as workerAccepted_canonical fun _ _ => trivial
    | startRelay => exact absurd ht hr
    | localConnectOk => exact canonical_as localConnectOk_canonical fun _ _ => trivial
    | localConnectError => exact canonical_as localConnectError_canonical fun _ h => h

theorem makeFrame_eq_ok {type : UInt16} {requestId : UInt64} {m : Message} {frm : Frame} :
    makeFrame type requestId m = .ok frm ↔
      ∃ pay, encodePayload type m = .ok pay ∧ frm = ⟨type, 0, requestId, pay⟩ := by
  rw [makeFrame, do_eq_ok]
  constructor
  · rintro ⟨pay, he, h⟩
    cases h
    exact ⟨pay, he, rfl⟩
  · rintro ⟨pay, he, rfl⟩
    exact ⟨pay, he, rfl⟩

/-- Every codec of the remote protocol but that of `START_RELAY` is canonical, on its
own and through the SDK. -/
structure CodecsCanonical : Prop where
  hello : Canonical (fun _ => True) encodeHello decodeHello
  helloAck : Canonical (fun _ => True) encodeHelloAck decodeHelloAck
  auth : Canonical (fun _ => True) encodeAuth decodeAuth
  authOk : Canonical (fun _ => True) encodeAuthOk decodeAuthOk
  authError : Canonical (fun m => IsNamedErrorCode m.code) encodeAuthError decodeAuthError
  heartbeat : Canonical (fun _ => True) encodeHeartbeat decodeHeartbeat
  registerTunnel : Canonical (fun _ => True) encodeRegisterTunnel decodeRegisterTunnel
  registerTunnelOk : Canonical (fun _ => True) encodeRegisterTunnelOk decodeRegisterTunnelOk
  registerTunnelError : Canonical (fun m => IsNamedErrorCode m.code) encodeRegisterTunnelError
    decodeRegisterTunnelError
  unregisterTunnel : Canonical (fun _ => True) encodeUnregisterTunnel decodeUnregisterTunnel
  unregisterTunnelOk : Canonical (fun _ => True) encodeUnregisterTunnelOk
    decodeUnregisterTunnelOk
  requestWorkers : Canonical (fun _ => True) encodeRequestWorkers decodeRequestWorkers
  workerHello : Canonical (fun _ => True) encodeWorkerHello decodeWorkerHello
  workerAccepted : Canonical (fun _ => True) encodeWorkerAccepted decodeWorkerAccepted
  localConnectOk : Canonical (fun _ => True) encodeLocalConnectOk decodeLocalConnectOk
  localConnectError : Canonical (fun m => IsNamedErrorCode m.code) encodeLocalConnectError
    decodeLocalConnectError
  decode_makeFrame : ∀ type requestId m frame, messageTypeFromWire type ≠ some .startRelay →
    NamedCode m → makeFrame type requestId m = .ok frame → decodeMessage isAddress frame = .ok m
  makeFrame_decode : ∀ frame m requestId, messageTypeFromWire frame.type ≠ some .startRelay →
    decodeMessage isAddress frame = .ok m →
      makeFrame frame.type requestId m = .ok ⟨frame.type, 0, requestId, frame.payload⟩

theorem codecs_canonical : CodecsCanonical isAddress where
  hello := hello_canonical
  helloAck := helloAck_canonical
  auth := auth_canonical
  authOk := authOk_canonical
  authError := authError_canonical
  heartbeat := heartbeat_canonical
  registerTunnel := registerTunnel_canonical
  registerTunnelOk := registerTunnelOk_canonical
  registerTunnelError := registerTunnelError_canonical
  unregisterTunnel := unregisterTunnel_canonical
  unregisterTunnelOk := unregisterTunnel_canonical
  requestWorkers := requestWorkers_canonical
  workerHello := workerHello_canonical
  workerAccepted := workerAccepted_canonical
  localConnectOk := localConnectOk_canonical
  localConnectError := localConnectError_canonical
  decode_makeFrame type requestId m frame hrelay hnamed h := by
    obtain ⟨payload, hencode, rfl⟩ := makeFrame_eq_ok.1 h
    exact (payload_canonical isAddress hrelay).decode_encode m payload hnamed hencode
  makeFrame_decode frame m requestId hrelay h := by
    have hencode := (payload_canonical isAddress hrelay).encode_decode frame.payload m h
    exact makeFrame_eq_ok.2 ⟨frame.payload, hencode, rfl⟩

end EntryPoints

/-- A code beyond the enumerators encodes under the spelling of `internal_error`, and
that spelling decodes to the enumerator: the message does not come back. -/
theorem authError_unnamed_not_canonical :
    encodeAuthError ⟨255⟩ = .ok ([0, 14] ++ ascii "internal_error") ∧
      decodeAuthError ([0, 14] ++ ascii "internal_error") = .ok ⟨18⟩ ∧
      ¬ Canonical (fun _ => True) encodeAuthError decodeAuthError := by
  have hencode : encodeAuthError ⟨255⟩ = .ok ([0, 14] ++ ascii "internal_error") := by decide
  have hnamed : IsNamedErrorCode 18 := by decide
  have hdecode : decodeAuthError ([0, 14] ++ ascii "internal_error") = .ok ⟨18⟩ :=
    decodeAuthError_eq_ok.2 ⟨⟨hnamed, by unfold AuthErrorMessage.Valid; decide⟩, by decide⟩
  refine ⟨hencode, hdecode, fun h => ?_⟩
  have hback := h.decode_encode ⟨255⟩ _ trivial hencode
  cases hback

end MiniTun.Remote
