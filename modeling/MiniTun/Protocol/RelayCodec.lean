import MiniTun.Protocol.CanonicalCodec

/-!
# The codec of `START_RELAY`

A `START_RELAY` ends in up to three optional parts, told apart by what is left of
the payload.  The encoder writes any text as a host and any number as a port; the
decoder takes only addresses of bounded length and ports other than zero.
-/

namespace MiniTun.Protocol

open PayloadWriter PayloadReader

/-! ## The layout -/

variable (m : StartRelayMessage)

/-- What follows the identifiers: the mode alone, absent for TCP, or an explicit mode
with the source endpoint and the worker's observed host behind it. -/
def StartRelayMessage.extensions : Bytes :=
  match m.sourceHost, m.sourcePort with
  | some host, some port =>
    u8.encode m.mode ++ bytesField host ++ u16.encode port ++
      m.workerObservedHost.elim [] bytesField
  | _, _ => modeLayout m.mode

def StartRelayMessage.layout : Bytes :=
  bytesField m.tunnelId ++ bytesField m.connectionId ++ m.extensions

/-- The optional parts the encoder can write: the endpoint as a whole, its host and
the observed host as text, and the observed host only behind an endpoint. -/
def StartRelayMessage.Extended : Prop :=
  match m.sourceHost, m.sourcePort, m.workerObservedHost with
  | none, none, none => True
  | some host, some _, observed =>
    isText host = true ∧ (∀ h ∈ observed, isText h = true) ∧ m.layout.length ≤ kMaxPayloadSize
  | _, _, _ => False

/-- What the encoder checks. -/
def StartRelayMessage.Valid : Prop :=
  IsId .tunnel m.tunnelId ∧ IsId .connection m.connectionId ∧ validTunnelMode m.mode = true ∧
    m.Extended

/-- A host as the decoder takes it. -/
def IsRelayHost (isAddress : Bytes → Bool) (host : Bytes) : Prop :=
  host.length ≤ kMaxTunnelBindHostBytes ∧ isAddress host = true

/-- What only the decoder checks: every host is an address of bounded length, and the
source port is not zero. -/
def StartRelayMessage.Addressed (isAddress : Bytes → Bool) (m : StartRelayMessage) : Prop :=
  (∀ host ∈ m.sourceHost, IsRelayHost isAddress host) ∧ m.sourcePort ≠ some 0 ∧
    ∀ host ∈ m.workerObservedHost, IsRelayHost isAddress host

theorem length_layout_le {tid conId host : Bytes} {mode : RawTunnelMode}
    {port : UInt16} {obs : Option Bytes} (htn : IsId .tunnel tid)
    (hconnection : IsId .connection conId) (hh : host.length ≤ kMaxTunnelBindHostBytes)
    (hobs : ∀ h ∈ obs, h.length ≤ kMaxTunnelBindHostBytes) :
    (StartRelayMessage.mk tid conId mode (some host) (some port)
      obs).layout.length ≤ kMaxPayloadSize := by
  have htun := length_le_of_isId htn
  have hcon := length_le_of_isId hconnection
  have hl : (obs.elim [] bytesField).length ≤ kMaxTunnelBindHostBytes + 2 := by
    cases obs with
    | none => simp
    | some h => simpa using hobs h rfl
  simp only [kMaxTunnelBindHostBytes] at hl hh
  simp only [StartRelayMessage.layout, StartRelayMessage.extensions, List.length_append,
    length_bytesField, Wire.Word.length_encode, kMaxPayloadSize_eq]
  omega

/-! ## The encoder -/

theorem room_of_ids {tid conId : Bytes} (htn : IsId .tunnel tid)
    (hconnection : IsId .connection conId) :
    (bytesField tid ++ bytesField conId).length + 1 ≤ kMaxPayloadSize := by
  have htun := length_le_of_isId htn
  have hcon := length_le_of_isId hconnection
  simp only [List.length_append, length_bytesField, kMaxPayloadSize_eq]
  omega

section Encoder

variable {tid connectionId p : Bytes} {mode : RawTunnelMode}

theorem invalidRelayIdentity_iff :
    ((!(validateTunnelId tid).isOk) = true ∨ (!(validateConnectionId connectionId).isOk) = true
      ∨ (!validTunnelMode mode) = true) ↔
    ¬ (IsId .tunnel tid ∧ IsId .connection connectionId ∧ validTunnelMode mode = true) := by
  rw [validateTunnelId, validateConnectionId, not_validateId_isOk, not_validateId_isOk,
    Bool.not_eq_true', ← Bool.not_eq_true]
  tauto

variable (htn : IsId .tunnel tid) (hconnection : IsId .connection connectionId)
  (hmode : validTunnelMode mode = true)

include htn hconnection hmode

theorem encodeStartRelay_plain :
    encodeStartRelay ⟨tid, connectionId, mode, none, none, none⟩ = .ok p ↔
      p = bytesField tid ++ bytesField connectionId ++ modeLayout mode := by
  have hr := room_of_ids htn hconnection
  have hsec : (bytesField tid).length + connectionId.length + 2 ≤ kMaxPayloadSize := by
    simp only [List.length_append, length_bytesField] at hr ⊢
    omega
  rw [encodeStartRelay, if_neg (invalidRelayIdentity_iff.not.2 (not_not.2
    ⟨htn, hconnection, hmode⟩)), newWriter_eq, writeString_bind, writeString_bind,
    List.nil_append, written_bind fun _ => written_encodeTunnelMode hr, finish_holding,
    Except.ok.injEq]
  constructor
  · rintro ⟨-, -, -, rfl⟩
    rfl
  · rintro rfl
    exact ⟨⟨isText_of_isId htn, room_of_isId htn (by simp)⟩,
      ⟨isText_of_isId hconnection, hsec⟩, hmode, rfl⟩

theorem encodeStartRelay_source {host : Bytes} {port : UInt16} {obs : Option Bytes} :
    encodeStartRelay ⟨tid, connectionId, mode, some host, some port, obs⟩ = .ok p ↔
      (StartRelayMessage.mk tid connectionId mode (some host) (some port) obs).Extended ∧
      p = (StartRelayMessage.mk tid connectionId mode (some host) (some port) obs).layout := by
  rw [encodeStartRelay, if_neg (invalidRelayIdentity_iff.not.2 (not_not.2
    ⟨htn, hconnection, hmode⟩)), newWriter_eq]
  have htun := isText_of_isId htn
  have hcon := isText_of_isId hconnection
  unfold StartRelayMessage.Extended
  -- Every write but the last leaves room for the bytes behind it.
  cases obs with
  | none =>
    simp only [writeU8_bind, writeString_bind, writeU16_bind, finish_holding, Except.ok.injEq,
      StartRelayMessage.layout, StartRelayMessage.extensions, List.length_append, length_bytesField,
      Wire.Word.length_encode, Option.elim, List.append_assoc, Option.not_mem_none, false_implies,
      implies_true, true_and]
    constructor
    · rintro ⟨-, -, -, ⟨ht, -⟩, hf, rfl⟩
      exact ⟨⟨ht, by omega⟩, rfl⟩
    · rintro ⟨⟨ht, hf⟩, rfl⟩
      exact ⟨⟨htun, by omega⟩, ⟨hcon, by omega⟩, by omega, ⟨ht, by omega⟩,
        by omega, rfl⟩
  | some obs =>
    simp only [writeU8_bind, writeString_bind, writeU16_bind, finish_holding, Except.ok.injEq,
      StartRelayMessage.layout, StartRelayMessage.extensions, List.length_append, List.length_nil,
      length_bytesField, Option.elim, List.append_assoc, Option.mem_def, Option.some.injEq,
      forall_eq']
    constructor
    · rintro ⟨-, -, -, ⟨ht, -⟩, -, ⟨hobs, hf⟩, rfl⟩
      exact ⟨⟨ht, hobs, by omega⟩, rfl⟩
    · rintro ⟨⟨ht, hobs, hf⟩, rfl⟩
      exact ⟨⟨htun, by omega⟩, ⟨hcon, by omega⟩, by omega, ⟨ht, by omega⟩,
        by omega, ⟨hobs, by omega⟩, rfl⟩

end Encoder

theorem encodeStartRelay_eq_ok {m : StartRelayMessage} {p : Bytes} :
    encodeStartRelay m = .ok p ↔ m.Valid ∧ p = m.layout := by
  obtain ⟨tid, connectionId, mode, host, port, obs⟩ := m
  by_cases hids : IsId .tunnel tid ∧ IsId .connection connectionId ∧
      validTunnelMode mode = true
  · obtain ⟨htn, hconnection, hmode⟩ := hids
    have hval : ∀ m : StartRelayMessage, m.tunnelId = tid → m.connectionId = connectionId →
        m.mode = mode → (m.Valid ↔ m.Extended) := by
      rintro m rfl rfl rfl
      exact ⟨fun h => h.2.2.2, fun h => ⟨htn, hconnection, hmode, h⟩⟩
    have hc := invalidRelayIdentity_iff.not.2 (not_not.2 ⟨htn, hconnection, hmode⟩)
    rw [hval _ rfl rfl rfl]
    cases host with
    | some host => cases port with
      | some port => exact encodeStartRelay_source htn hconnection hmode
      | none =>
        rw [encodeStartRelay, if_neg hc]
        simp [StartRelayMessage.Extended, do_eq_ok, failure]
    | none => cases port with
      | some port =>
        rw [encodeStartRelay, if_neg hc]
        simp [StartRelayMessage.Extended, do_eq_ok, failure]
      | none => cases obs with
        | some obs =>
          rw [encodeStartRelay, if_neg hc]
          simp [StartRelayMessage.Extended, do_eq_ok, failure]
        | none =>
          rw [encodeStartRelay_plain htn hconnection hmode]
          exact (and_iff_right trivial).symm
  · rw [encodeStartRelay, if_pos (invalidRelayIdentity_iff.2 hids)]
    exact iff_of_false failure_ne_ok fun h => hids ⟨h.1.1, h.1.2.1, h.1.2.2.1⟩

/-! ## The decoder -/

section Decoder

variable {isAddress : Bytes → Bool} {reader rest : Bytes}

variable {mode : RawTunnelMode}

theorem decodeRelayMode_eq_ok :
    decodeRelayMode reader = .ok (mode, rest) ↔
      validTunnelMode mode = true ∧
        ((mode = 0 ∧ rest = [] ∧ reader = []) ∨
          (¬ (mode = 0 ∧ rest = []) ∧ reader = u8.encode mode ++ rest)) := by
  unfold decodeRelayMode
  by_cases he : reader = []
  · subst he
    have hne : [] ≠ u8.encode mode ++ rest := by
      intro h
      have hlen := congrArg List.length h
      rw [List.length_append, u8.length_encode, List.length_nil] at hlen
      omega
    simp only [List.length_nil, ↓reduceIte, Except.ok.injEq, Prod.mk.injEq, hne, and_false,
      or_false, and_true]
    constructor
    · rintro ⟨rfl, rfl⟩
      exact ⟨by decide, rfl, rfl⟩
    · rintro ⟨-, rfl, rfl⟩
      exact ⟨rfl, rfl⟩
  · simp only [if_neg (List.length_eq_zero_iff.not.2 he), he, and_false, false_or]
    constructor
    · intro h
      rcases hr : readU8 reader with ⟨_ | value, rest'⟩
      · simp [hr, failure] at h
      · simp only [hr, guard_eq_ok, List.length_eq_zero_iff] at h
        obtain ⟨hval, hbare, rfl, rfl⟩ := h
        exact ⟨by simpa using hval, hbare, readU8_eq_ok.1 hr⟩
    · rintro ⟨hval, hbare, hl⟩
      simp only [readU8_eq_ok.2 hl, guard_eq_ok, List.length_eq_zero_iff]
      exact ⟨by simpa using hval, hbare, trivial⟩

theorem decodeRelaySource_none :
    decodeRelaySource isAddress reader = .ok (none, rest) ↔ reader = [] ∧ rest = [] := by
  unfold decodeRelaySource
  by_cases he : reader = []
  · subst he
    simp
  · rw [if_neg (List.length_eq_zero_iff.not.2 he)]
    refine iff_of_false ?_ fun h => he h.1
    rcases readString kMaxTunnelBindHostBytes reader with ⟨host, reader'⟩
    rcases hp : readU16 reader' with ⟨port, rest'⟩
    cases host with
    | error e => simp [failure]
    | ok host => cases port with
      | error e => simp [hp, failure]
      | ok port => simp [hp, guard_eq_ok]

theorem decodeRelaySource_some {host : Bytes} {port : UInt16} :
    decodeRelaySource isAddress reader = .ok (some (host, port), rest) ↔
      (IsRelayHost isAddress host ∧ isText host = true ∧ port ≠ 0) ∧
        reader = bytesField host ++ u16.encode port ++ rest := by
  unfold decodeRelaySource IsRelayHost
  constructor
  · intro h
    by_cases he : reader.length = 0
    · simp [he] at h
    rw [if_neg he] at h
    rcases hh : readString kMaxTunnelBindHostBytes reader with ⟨_ | host', reader'⟩
    · simp [hh, failure] at h
    rcases hp : readU16 reader' with ⟨_ | port', rest'⟩
    · simp [hh, hp, failure] at h
    simp only [hh, hp, guard_eq_ok, Bool.not_eq_true', Bool.not_eq_false] at h
    obtain ⟨hz, hadd, h⟩ := h
    cases h
    obtain ⟨⟨hlen, ht⟩, rfl⟩ := readHost_eq_ok.1 hh
    obtain rfl := readU16_eq_ok.1 hp
    exact ⟨⟨⟨hlen, hadd⟩, ht, hz⟩, by simp⟩
  · rintro ⟨⟨⟨hlen, hadd⟩, ht, hz⟩, rfl⟩
    have hne : ¬ (bytesField host ++ u16.encode port ++ rest).length = 0 := by simp
    rw [if_neg hne]
    simp only [readHost_eq_ok.2 ⟨⟨hlen, ht⟩, List.append_assoc _ _ _⟩, readU16_eq_ok.2 rfl,
      guard_eq_ok, hadd]
    exact ⟨hz, by decide, trivial⟩

theorem decodeRelayObserved_none :
    decodeRelayObserved isAddress reader = .ok (none, rest) ↔ reader = [] ∧ rest = [] := by
  unfold decodeRelayObserved
  by_cases he : reader = []
  · subst he
    simp
  · rw [if_neg (List.length_eq_zero_iff.not.2 he)]
    refine iff_of_false ?_ fun h => he h.1
    rcases readString kMaxTunnelBindHostBytes reader with ⟨obs, rest'⟩
    cases obs with
    | error e => simp [failure]
    | ok obs => simp [guard_eq_ok]

theorem decodeRelayObserved_some {obs : Bytes} :
    decodeRelayObserved isAddress reader = .ok (some obs, rest) ↔
      (IsRelayHost isAddress obs ∧ isText obs = true) ∧
        reader = bytesField obs ++ rest := by
  unfold decodeRelayObserved IsRelayHost
  constructor
  · intro h
    by_cases he : reader.length = 0
    · simp [he] at h
    rw [if_neg he] at h
    rcases hr : readString kMaxTunnelBindHostBytes reader with ⟨_ | observed', rest'⟩
    · simp [hr, failure] at h
    simp only [hr, guard_eq_ok, Bool.not_eq_true', Bool.not_eq_false] at h
    obtain ⟨hadd, h⟩ := h
    cases h
    obtain ⟨⟨hlen, ht⟩, rfl⟩ := readHost_eq_ok.1 hr
    exact ⟨⟨⟨hlen, hadd⟩, ht⟩, rfl⟩
  · rintro ⟨⟨⟨hlen, hadd⟩, ht⟩, rfl⟩
    have hne : ¬ (bytesField obs ++ rest).length = 0 := by simp
    have hr := readHost_eq_ok.2 ⟨⟨hlen, ht⟩, Eq.refl (bytesField obs ++ rest)⟩
    simp only [if_neg hne, hr, hadd, Bool.not_true, Bool.false_eq_true, ↓reduceIte]

/-- The optional parts as the decoder reads them, one after the other. -/
def ReadsExtensions (isAddress : Bytes → Bool) (reader : Bytes) (mode : RawTunnelMode)
    (source : Option (Bytes × UInt16)) (observed : Option Bytes) : Prop :=
  ∃ behindMode behindSource,
    decodeRelayMode reader = .ok (mode, behindMode) ∧
    decodeRelaySource isAddress behindMode = .ok (source, behindSource) ∧
    decodeRelayObserved isAddress behindSource = .ok (observed, [])

theorem readsExtensions_plain :
    ReadsExtensions isAddress reader mode none none ↔
      validTunnelMode mode = true ∧ reader = modeLayout mode := by
  unfold ReadsExtensions modeLayout
  simp only [decodeRelaySource_none, decodeRelayObserved_none, decodeRelayMode_eq_ok]
  constructor
  · rintro ⟨_, _, ⟨hmode, h⟩, ⟨rfl, rfl⟩, -⟩
    rcases h with ⟨rfl, -, rfl⟩ | ⟨hbare, rfl⟩
    · exact ⟨hmode, rfl⟩
    · rw [if_neg fun h0 => hbare ⟨h0, rfl⟩]
      exact ⟨hmode, rfl⟩
  · rintro ⟨hmode, rfl⟩
    refine ⟨[], [], ⟨hmode, ?_⟩, ⟨rfl, rfl⟩, rfl, trivial⟩
    by_cases htcp : mode = 0
    · exact .inl ⟨htcp, rfl, if_pos htcp⟩
    · exact .inr ⟨fun h => htcp h.1, by rw [if_neg htcp, List.append_nil]⟩

theorem not_readsExtensions_observed {obs : Bytes} :
    ¬ ReadsExtensions isAddress reader mode none (some obs) := by
  rintro ⟨_, _, -, hs, hobs⟩
  obtain ⟨rfl, rfl⟩ := decodeRelaySource_none.1 hs
  obtain ⟨-, hl⟩ := decodeRelayObserved_some.1 hobs
  have := congrArg List.length hl
  simp at this

theorem readsExtensions_source {host : Bytes} {port : UInt16} {obs : Option Bytes} :
    ReadsExtensions isAddress reader mode (some (host, port)) obs ↔
      (validTunnelMode mode = true ∧ IsRelayHost isAddress host ∧ isText host = true ∧ port ≠ 0 ∧
        ∀ h ∈ obs, IsRelayHost isAddress h ∧ isText h = true) ∧
      reader = u8.encode mode ++ bytesField host ++ u16.encode port ++ obs.elim [] bytesField := by
  unfold ReadsExtensions
  simp only [decodeRelaySource_some, decodeRelayMode_eq_ok]
  have hl : ∀ behindSource, decodeRelayObserved isAddress behindSource = .ok (obs, []) ↔
      (∀ h ∈ obs, IsRelayHost isAddress h ∧ isText h = true) ∧
        behindSource = obs.elim [] bytesField := by
    cases obs with
    | none => simp [decodeRelayObserved_none]
    | some obs => simp [decodeRelayObserved_some]
  simp only [hl]
  constructor
  · rintro ⟨_, _, ⟨hmode, h⟩, ⟨⟨hh, ht, hp⟩, rfl⟩, hobs, rfl⟩
    rcases h with ⟨-, hnil, -⟩ | ⟨-, rfl⟩
    · have := congrArg List.length hnil
      simp at this
    · exact ⟨⟨hmode, hh, ht, hp, hobs⟩, by simp⟩
  · rintro ⟨⟨hmode, hh, ht, hp, hobs⟩, rfl⟩
    refine ⟨_, _, ⟨hmode, .inr ⟨?_, by simp⟩⟩, ⟨⟨hh, ht, hp⟩, rfl⟩, hobs, rfl⟩
    rintro ⟨-, hnil⟩
    have := congrArg List.length hnil
    simp at this

theorem decodeStartRelay_reads {p : Bytes} {m : StartRelayMessage} :
    decodeStartRelay isAddress p = .ok m ↔
      (IsId .tunnel m.tunnelId ∧ IsId .connection m.connectionId) ∧
      ∃ reader source, p = bytesField m.tunnelId ++ bytesField m.connectionId ++ reader ∧
        ReadsExtensions isAddress reader m.mode source m.workerObservedHost ∧
        m.sourceHost = source.map Prod.fst ∧ m.sourcePort = source.map Prod.snd := by
  unfold decodeStartRelay
  constructor
  · intro h
    rcases htn : readString kMaxProtocolIdentifierBytes p with ⟨_ | tunnelId, reader⟩
    · simp [htn, failure] at h
    rcases hconnection : readString kMaxProtocolIdentifierBytes reader with
      ⟨_ | connectionId, reader'⟩
    · simp [htn, hconnection, failure] at h
    simp only [htn, hconnection] at h
    rw [guard_eq_ok, validateTunnelId, validateConnectionId, not_validateId_isOk,
      not_validateId_isOk, not_or, not_not, not_not] at h
    obtain ⟨hids, h⟩ := h
    obtain ⟨⟨mode, behindMode⟩, hmode, h⟩ := do_eq_ok.1 h
    obtain ⟨⟨source, behindSource⟩, hs, h⟩ := do_eq_ok.1 h
    obtain ⟨⟨obs, rest⟩, hobs, h⟩ := do_eq_ok.1 h
    obtain ⟨hend, h⟩ := guard_eq_ok.1 h
    obtain rfl := not_not.1 (not_requireEnd_isOk.not.1 hend)
    cases h
    refine ⟨hids, reader', source, ?_, ⟨behindMode, behindSource, hmode, hs, hobs⟩,
      rfl, rfl⟩
    rw [(readId_eq_ok hids.1).1 htn, (readId_eq_ok hids.2).1 hconnection, List.append_assoc]
  · rintro ⟨⟨htn, hconnection⟩, reader, source, rfl,
      ⟨behindMode, behindSource, hmode, hs, hobs⟩, hh, hp⟩
    simp only [(readId_eq_ok htn).2 (List.append_assoc _ _ _), (readId_eq_ok hconnection).2 rfl]
    rw [guard_eq_ok, validateTunnelId, validateConnectionId, not_validateId_isOk,
      not_validateId_isOk, not_or, not_not, not_not]
    refine ⟨⟨htn, hconnection⟩, do_eq_ok.2 ⟨_, hmode, do_eq_ok.2 ⟨_, hs,
      do_eq_ok.2 ⟨_, hobs, ?_⟩⟩⟩⟩
    rw [guard_eq_ok, not_requireEnd_isOk, ← hh, ← hp]
    exact ⟨not_not.2 rfl, rfl⟩

theorem decodeStartRelay_eq_ok {p : Bytes} {m : StartRelayMessage} :
    decodeStartRelay isAddress p = .ok m ↔ (m.Addressed isAddress ∧ m.Valid) ∧ p = m.layout := by
  rw [decodeStartRelay_reads]
  obtain ⟨tid, connectionId, mode, host, port, obs⟩ := m
  constructor
  · rintro ⟨⟨htunnel, hconnection⟩, reader, source, rfl, hr, hho, hp⟩
    cases source with
    | none =>
      obtain rfl : host = none := hho
      obtain rfl : port = none := hp
      cases obs with
      | none =>
        obtain ⟨hmode, rfl⟩ := readsExtensions_plain.1 hr
        exact ⟨⟨⟨by simp, by simp, by simp⟩, htunnel, hconnection, hmode, trivial⟩, rfl⟩
      | some obs => exact absurd hr not_readsExtensions_observed
    | some source =>
      obtain ⟨host', port'⟩ := source
      obtain rfl : host = some host' := hho
      obtain rfl : port = some port' := hp
      obtain ⟨⟨hmode, hadd, ht, hz, hobs⟩, rfl⟩ := readsExtensions_source.1 hr
      refine ⟨⟨⟨?_, ?_, fun h hh => (hobs h hh).1⟩, htunnel, hconnection, hmode,
        ht, fun h hh => (hobs h hh).2, ?_⟩, rfl⟩
      · rintro _ ⟨⟩
        exact hadd
      · simpa using hz
      · exact length_layout_le htunnel hconnection hadd.1 fun h hh => (hobs h hh).1.1
  · rintro ⟨⟨⟨hadd, hz, hobs⟩, htunnel, hconnection, hmode, hext⟩, rfl⟩
    refine ⟨⟨htunnel, hconnection⟩, _, host.bind fun h => port.map (h, ·), rfl, ?_⟩
    cases host with
    | none => cases port with
      | some port => exact hext.elim
      | none => cases obs with
        | some obs => exact hext.elim
        | none => exact ⟨readsExtensions_plain.2 ⟨hmode, rfl⟩, rfl, rfl⟩
    | some host => cases port with
      | none => exact hext.elim
      | some port =>
        obtain ⟨ht, hte, -⟩ := hext
        refine ⟨readsExtensions_source.2 ⟨⟨hmode, hadd host rfl, ht, by simpa using hz,
          fun h hh => ⟨hobs h hh, hte h hh⟩⟩, rfl⟩, rfl, rfl⟩

end Decoder

/-! ## Round trips -/

/-- Decoding what the encoder wrote gives the message back exactly if the endpoints
pass the decoder's checks; what the decoder accepts is encoded to the same bytes. -/
theorem startRelay_codec (isAddress : Bytes → Bool) :
    (∀ m p, encodeStartRelay m = .ok p →
      (decodeStartRelay isAddress p = .ok m ↔ m.Addressed isAddress)) ∧
    ∀ p m, decodeStartRelay isAddress p = .ok m → encodeStartRelay m = .ok p := by
  constructor
  · intro m p h
    obtain ⟨hvalid, hlayout⟩ := encodeStartRelay_eq_ok.1 h
    rw [decodeStartRelay_eq_ok]
    exact ⟨fun hd => hd.1.1, fun haddressed => ⟨⟨haddressed, hvalid⟩, hlayout⟩⟩
  · intro p m h
    obtain ⟨⟨-, hvalid⟩, hlayout⟩ := decodeStartRelay_eq_ok.1 h
    exact encodeStartRelay_eq_ok.2 ⟨hvalid, hlayout⟩

namespace PortlessSource

def tunnelId : Bytes := ascii "tun_0f1e2d3c4b5a69788796a5b4c3d2e1f0"

def connectionId : Bytes := ascii "conn_00000000000000000000000000000007"

/-- A TCP relay for a public peer at the given port. -/
def relay (port : UInt16) : StartRelayMessage :=
  ⟨tunnelId, connectionId, 0, some (ascii "198.51.100.7"), some port, none⟩

theorem relay_valid (port : UInt16) : (relay port).Valid := by
  have htunnel : IsId .tunnel tunnelId := validId_iff.1 (by decide)
  have hconnection : IsId .connection connectionId := validId_iff.1 (by decide)
  have ht : isText (ascii "198.51.100.7") = true := by decide
  have hlen : (ascii "198.51.100.7").length ≤ kMaxTunnelBindHostBytes := by decide
  have hno : ∀ {P : Bytes → Prop}, ∀ h ∈ (none : Option Bytes), P h := by
    rintro P _ ⟨⟩
  exact ⟨htunnel, hconnection, rfl, ht, hno, length_layout_le htunnel hconnection hlen hno⟩

theorem relay_comes_back :
    encodeStartRelay (relay 4321) = .ok (relay 4321).layout ∧
      decodeStartRelay (fun _ => true) (relay 4321).layout = .ok (relay 4321) := by
  have hencode := encodeStartRelay_eq_ok.2 ⟨relay_valid 4321, rfl⟩
  refine ⟨hencode, ((startRelay_codec fun _ => true).1 _ _ hencode).2 ⟨?_, by decide, ?_⟩⟩
  · rintro _ ⟨⟩
    exact ⟨by decide, rfl⟩
  · rintro _ ⟨⟩

/-- Port zero is written, and refused when it is read, even if every text is an address. -/
theorem portless_not_back :
    encodeStartRelay (relay 0) = .ok (relay 0).layout ∧
      decodeStartRelay (fun _ => true) (relay 0).layout =
        failure .protocolError "START_RELAY source endpoint is invalid" ∧
      ¬ ∀ p, encodeStartRelay (relay 0) = .ok p →
        decodeStartRelay (fun _ => true) p = .ok (relay 0) := by
  have hencode := encodeStartRelay_eq_ok.2 ⟨relay_valid 0, rfl⟩
  have hdecode : decodeStartRelay (fun _ => true) (relay 0).layout =
      failure .protocolError "START_RELAY source endpoint is invalid" := by rfl
  refine ⟨hencode, hdecode, fun h => ?_⟩
  have hback := h _ hencode
  exact failure_ne_ok hback

end PortlessSource

end MiniTun.Protocol
