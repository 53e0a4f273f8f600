import MiniTun.Protocol.RemoteMessages

/-!
# The message codecs are canonical

Each kind of message has a layout.  Its encoder succeeds exactly on the values
that pass the kind's checks and then produces their layout (`encode…_eq_ok`); its
decoder accepts exactly the layouts of such values (`decode…_eq_ok`).  So the two
are inverse to each other, with one reservation: an error code travels by its
spelling, and a value that is no enumerator shares the spelling of `internal_error`.
-/

namespace MiniTun.Protocol

open PayloadWriter PayloadReader

/-! ## Identifiers and spellings are text -/

variable {value text reader rest p : Bytes} {kind : IdKind} {msg : String} {m : AuthOkMessage}

theorem isValidUtf8_of_ascii (h : ∀ b ∈ value, b ≤ 0x7f) : isValidUtf8 value = true := by
  induction value with
  | nil => rfl
  | cons b value ih =>
    have hb : b ≤ 0x7f := h b (by simp)
    have ht : isValidUtf8 value = true := ih fun c hc => h c (by simp [hc])
    unfold isValidUtf8
    rw [if_pos hb]
    exact ht

/-- A printable seven-bit byte. -/
def isPlain (b : UInt8) : Bool :=
  b ≤ 0x7f && b ≠ 0

theorem isText_of_plain (h : ∀ b ∈ value, isPlain b = true) : isText value = true := by
  have ha : ∀ b ∈ value, b ≤ 0x7f := by
    intro b hb
    have := h b hb
    simp only [isPlain, Bool.and_eq_true, decide_eq_true_eq] at this
    exact this.1
  have hz : (0 : UInt8) ∉ value := by
    intro h0
    have := h 0 h0
    simp [isPlain] at this
  simp [isText, isValidUtf8_of_ascii ha, hz]

theorem isPlain_of_isLowerHex : ∀ b : UInt8, isLowerHex b = true → isPlain b = true := by
  intro b h
  simp only [isLowerHex, isPlain, Bool.and_eq_true, decide_eq_true_eq, UInt8.le_iff_toNat_le] at h ⊢
  have hne : b.toNat ≠ 0 → ¬ b = 0 := fun hb h0 => hb (by rw [h0]; rfl)
  have h48 : (48 : UInt8).toNat = 48 := rfl
  have h57 : (57 : UInt8).toNat = 57 := rfl
  have h97 : (97 : UInt8).toNat = 97 := rfl
  have h102 : (102 : UInt8).toNat = 102 := rfl
  have h127 : (0x7f : UInt8).toNat = 127 := rfl
  refine ⟨by omega, hne (by omega)⟩

theorem idPrefix_plain (kind : IdKind) : (idPrefix kind).all isPlain = true := by
  cases kind <;> rfl

theorem IsId.prefix_eq (h : IsId kind text) :
    text = idPrefix kind ++ text.drop (idPrefix kind).length := by
  have hf := List.find?_some h.kind_eq
  obtain ⟨rest, hr⟩ := List.isPrefixOf_iff_prefix.1 hf
  rw [← hr]
  simp

theorem isText_of_isId (h : IsId kind text) : isText text = true := by
  apply isText_of_plain
  intro b hb
  rw [IsId.prefix_eq h] at hb
  rcases List.mem_append.1 hb with hb | hb
  · exact List.all_eq_true.1 (idPrefix_plain kind) b hb
  · exact isPlain_of_isLowerHex b (List.all_eq_true.1 h.hex b hb)

theorem length_le_of_isId (h : IsId kind text) : text.length ≤ 64 := by
  have hpre : (idPrefix kind).length ≤ 7 := by cases kind <;> decide
  have hlen := h.length
  omega

theorem isText_errorCodeToString (code : RawErrorCode) :
    isText (errorCodeToString code) = true := by
  unfold errorCodeToString
  cases namedErrorCode code with
  | none => decide
  | some named => cases named <;> decide

theorem length_errorCodeToString_le (code : RawErrorCode) :
    (errorCodeToString code).length ≤ maxErrorCodeBytes := by
  unfold errorCodeToString
  cases namedErrorCode code with
  | none => decide
  | some named => cases named <;> decide

theorem kMaxPayloadSize_eq : kMaxPayloadSize = 65512 := rfl

/-! ## The shared checks -/

theorem validateId_eq_ok : validateId kind msg value = .ok () ↔ IsId kind value := by
  unfold validateId
  by_cases h : validId kind value = true
  · simp [h, validId_iff.1 h]
  · simp [h, failure, mt validId_iff.2 h]

theorem validateId_isOk : (validateId kind msg value).isOk = true ↔ IsId kind value := by
  unfold validateId
  by_cases h : validId kind value = true
  · simp [h, validId_iff.1 h, Except.toBool]
  · simp [h, failure, mt validId_iff.2 h, Except.toBool]

theorem not_validateId_isOk :
    (!(validateId kind msg value).isOk) = true ↔ ¬ IsId kind value := by
  rw [Bool.not_eq_true', ← Bool.not_eq_true, validateId_isOk]

theorem requireEnd_isOk : (requireEnd reader).isOk = true ↔ reader = [] := by
  unfold requireEnd
  by_cases h : reader = []
  · simp [h, Except.toBool]
  · simp [h, failure, Except.toBool]

theorem not_requireEnd_isOk : (!(requireEnd reader).isOk) = true ↔ reader ≠ [] := by
  rw [Bool.not_eq_true', ← Bool.not_eq_true, requireEnd_isOk]

theorem validateOfferedCapabilities_eq_ok {value : CapabilitySet} :
    validateOfferedCapabilities value = .ok () ↔
      value &&& kRequiredCapabilities = kRequiredCapabilities := by
  unfold validateOfferedCapabilities
  by_cases h : value &&& kRequiredCapabilities = kRequiredCapabilities
  · simp [h]
  · simp [failure]

/-- What a peer may select: all that is required, and nothing that is not supported. -/
def Selectable (value : CapabilitySet) : Prop :=
  value &&& kRequiredCapabilities = kRequiredCapabilities ∧
    value &&& ~~~kSupportedCapabilities = 0

theorem validateSelectedCapabilities_eq_ok {value : CapabilitySet} :
    validateSelectedCapabilities value = .ok () ↔ Selectable value := by
  rw [validateSelectedCapabilities, guard_eq_ok, Selectable]
  tauto

/-! ## Fields at the front of a payload -/

theorem readU8_eq_ok {value : UInt8} :
    readU8 reader = (.ok value, rest) ↔ reader = u8.encode value ++ rest :=
  (readWord_reads u8 reader value rest).trans (by simp only [true_and])

theorem readU16_eq_ok {value : UInt16} :
    readU16 reader = (.ok value, rest) ↔ reader = u16.encode value ++ rest :=
  (readWord_reads u16 reader value rest).trans (by simp only [true_and])

theorem readU32_eq_ok {value : UInt32} :
    readU32 reader = (.ok value, rest) ↔ reader = u32.encode value ++ rest :=
  (readWord_reads u32 reader value rest).trans (by simp only [true_and])

theorem readU64_eq_ok {value : UInt64} :
    readU64 reader = (.ok value, rest) ↔ reader = u64.encode value ++ rest :=
  (readWord_reads u64 reader value rest).trans (by simp only [true_and])

theorem readId_eq_ok (hid : IsId kind value) :
    readString kMaxProtocolIdentifierBytes reader = (.ok value, rest) ↔
      reader = bytesField value ++ rest := by
  have hlen : value.length ≤ kMaxProtocolIdentifierBytes := length_le_of_isId hid
  have hs : value.length ≤ 0xffff := hlen.trans (by decide)
  rw [readString_reads kMaxProtocolIdentifierBytes reader value rest]
  simp [isText_of_isId hid, hlen, hs]

theorem readFixedBytes_eq_ok {size : Nat} (hs : size ≤ 0xffff) {value : FixedBytes size} :
    readFixedBytes size reader = (.ok value, rest) ↔ reader = bytesField value ++ rest := by
  have hrd := readBytes_reads size reader
  unfold readFixedBytes
  constructor
  · intro h
    rcases hr : readBytes size reader with ⟨r, rest'⟩
    cases r with
    | error e => simp [hr] at h
    | ok bytes =>
      by_cases hlen : bytes.length = size
      · simp only [hr, dif_pos hlen, Prod.mk.injEq, Except.ok.injEq] at h
        obtain ⟨rfl, rfl⟩ := h
        exact ((hrd bytes rest').1 hr).2
      · simp [hr, hlen, failure] at h
  · intro h
    have hb : value.1.length ≤ size ∧ value.1.length ≤ 0xffff := by
      omega
    rw [(hrd value rest).2 ⟨hb, h⟩]
    simp [value.2]

/-! ## One step of an encoder or a decoder -/

section Steps

variable {β : Type} {bytes : Bytes} {k : PayloadWriter → Result β} {b : β}

theorem written_bind {r : Result Unit × PayloadWriter} {C : Prop} {w : PayloadWriter}
    (h : ∀ w', written r = .ok w' ↔ C ∧ w' = w) :
    (written r >>= k) = .ok b ↔ C ∧ k w = .ok b := by
  rw [do_eq_ok]
  constructor
  · rintro ⟨w', hw, hk⟩
    obtain ⟨hC, rfl⟩ := (h w').1 hw
    exact ⟨hC, hk⟩
  · rintro ⟨hC, hk⟩
    exact ⟨w, (h w).2 ⟨hC, rfl⟩, hk⟩

theorem writeU8_bind {value : UInt8} :
    (written ((holding bytes).writeU8 value) >>= k) = .ok b ↔
      bytes.length + 1 ≤ kMaxPayloadSize ∧ k (holding (bytes ++ u8.encode value)) = .ok b :=
  written_bind fun _ => written_writeU8

theorem writeU16_bind {value : UInt16} :
    (written ((holding bytes).writeU16 value) >>= k) = .ok b ↔
      bytes.length + 2 ≤ kMaxPayloadSize ∧ k (holding (bytes ++ u16.encode value)) = .ok b :=
  written_bind fun _ => written_writeU16

theorem writeU32_bind {value : UInt32} :
    (written ((holding bytes).writeU32 value) >>= k) = .ok b ↔
      bytes.length + 4 ≤ kMaxPayloadSize ∧ k (holding (bytes ++ u32.encode value)) = .ok b :=
  written_bind fun _ => written_writeU32

theorem writeU64_bind {value : UInt64} :
    (written ((holding bytes).writeU64 value) >>= k) = .ok b ↔
      bytes.length + 8 ≤ kMaxPayloadSize ∧ k (holding (bytes ++ u64.encode value)) = .ok b :=
  written_bind fun _ => written_writeU64

variable {value : Bytes}

theorem writeBytes_bind :
    (written ((holding bytes).writeBytes value) >>= k) = .ok b ↔
      bytes.length + value.length + 2 ≤ kMaxPayloadSize ∧
        k (holding (bytes ++ bytesField value)) = .ok b :=
  written_bind fun _ => written_writeBytes

theorem writeString_bind :
    (written ((holding bytes).writeString value) >>= k) = .ok b ↔
      (isText value = true ∧ bytes.length + value.length + 2 ≤ kMaxPayloadSize) ∧
        k (holding (bytes ++ bytesField value)) = .ok b :=
  written_bind fun _ => written_writeString.trans and_assoc.symm

theorem newWriter_eq : newWriter = holding [] :=
  new_eq_holding

theorem orReturn_bind {α : Type} {r : Result α × Bytes} {k : α × Bytes → Result β} :
    (orReturn r >>= k) = .ok b ↔ ∃ a rest, r = (.ok a, rest) ∧ k (a, rest) = .ok b := by
  rw [do_eq_ok, Prod.exists]
  simp only [orReturn_eq_ok]

theorem check_bind {r : Result Unit} {C : Prop} {k : Unit → Result β} (h : r = .ok () ↔ C) :
    (r >>= k) = .ok b ↔ C ∧ k () = .ok b := by
  rw [do_eq_ok, exists_unit, h]

theorem validateId_bind {kind : IdKind} {msg : String} {k : Unit → Result β} :
    (validateId kind msg value >>= k) = .ok b ↔ IsId kind value ∧ k () = .ok b :=
  check_bind validateId_eq_ok

theorem offered_bind {value : CapabilitySet} {k : Unit → Result β} :
    (validateOfferedCapabilities value >>= k) = .ok b ↔
      value &&& kRequiredCapabilities = kRequiredCapabilities ∧ k () = .ok b :=
  check_bind validateOfferedCapabilities_eq_ok

theorem selected_bind {value : CapabilitySet} {k : Unit → Result β} :
    (validateSelectedCapabilities value >>= k) = .ok b ↔ Selectable value ∧ k () = .ok b :=
  check_bind validateSelectedCapabilities_eq_ok

theorem requireEnd_bind {reader : Bytes} {k : Unit → Result β} :
    (requireEnd reader >>= k) = .ok b ↔ reader = [] ∧ k () = .ok b :=
  check_bind requireEnd_eq_ok

theorem room_of_isId {kind : IdKind} (h : IsId kind value) (hby : bytes.length ≤ 1000) :
    bytes.length + value.length + 2 ≤ kMaxPayloadSize := by
  have hlen := length_le_of_isId h
  rw [kMaxPayloadSize_eq]
  omega

end Steps

/-! ## The handshake -/

/-- The checks both ends make. -/
def HelloMessage.Valid (m : HelloMessage) : Prop :=
  IsId .client m.clientId ∧ m.capabilities &&& kRequiredCapabilities = kRequiredCapabilities

def HelloMessage.layout (m : HelloMessage) : Bytes :=
  bytesField m.clientId ++ u64.encode (.ofBitVec m.capabilities)

theorem encodeHello_eq_ok {m : HelloMessage} : encodeHello m = .ok p ↔ m.Valid ∧ p = m.layout := by
  simp only [encodeHello, validateClientId, validateId_bind, newWriter_eq, writeString_bind,
    offered_bind, writeU64_bind, finish_holding, Except.ok.injEq, List.nil_append]
  constructor
  · rintro ⟨hid, -, hcap, -, rfl⟩
    exact ⟨⟨hid, hcap⟩, rfl⟩
  · rintro ⟨⟨hid, hcap⟩, rfl⟩
    have hlen := length_le_of_isId hid
    refine ⟨hid, ⟨isText_of_isId hid, room_of_isId hid (by simp)⟩, hcap, ?_, rfl⟩
    rw [length_bytesField, kMaxPayloadSize_eq]
    omega

theorem decodeHello_eq_ok {m : HelloMessage} : decodeHello p = .ok m ↔ m.Valid ∧ p = m.layout := by
  simp only [decodeHello, orReturn_bind, validateClientId, validateId_bind, readU64_eq_ok,
    offered_bind, requireEnd_bind, pure, Except.pure, Except.ok.injEq, HelloMessage.layout]
  constructor
  · rintro ⟨cid, reader, hr, hid, capabilities, rest, rfl, hcap, rfl, rfl⟩
    rw [readId_eq_ok hid] at hr
    exact ⟨⟨hid, hcap⟩, by simpa using hr⟩
  · rintro ⟨⟨hid, hcap⟩, rfl⟩
    exact ⟨m.clientId, _, (readId_eq_ok hid).2 rfl, hid, .ofBitVec m.capabilities, [],
      (List.append_nil _).symm, hcap, rfl, rfl⟩

def HelloAckMessage.Valid (m : HelloAckMessage) : Prop :=
  IsId .server m.serverId ∧ Selectable m.selectedCapabilities

def HelloAckMessage.layout (m : HelloAckMessage) : Bytes :=
  bytesField m.serverId ++ u64.encode m.serverTimeSeconds.toUInt64 ++ bytesField m.nonce ++
    u64.encode (.ofBitVec m.selectedCapabilities)

theorem encodeHelloAck_eq_ok {m : HelloAckMessage} :
    encodeHelloAck m = .ok p ↔ m.Valid ∧ p = m.layout := by
  simp only [encodeHelloAck, validateServerId, validateId_bind, newWriter_eq, writeString_bind,
    writeU64_bind, writeBytes_bind, selected_bind, finish_holding, Except.ok.injEq, List.nil_append,
    HelloAckMessage.layout]
  constructor
  · rintro ⟨hid, -, -, -, hcap, -, rfl⟩
    exact ⟨⟨hid, hcap⟩, rfl⟩
  · rintro ⟨⟨hid, hcap⟩, rfl⟩
    have hlen := length_le_of_isId hid
    have hnon : m.nonce.1.length = 32 := m.nonce.2
    simp only [List.length_append, length_bytesField, Wire.Word.length_encode, kMaxPayloadSize_eq]
    exact ⟨hid, ⟨isText_of_isId hid, by simp; omega⟩, by omega, by omega, hcap, by omega, trivial⟩

theorem decodeHelloAck_eq_ok {m : HelloAckMessage} :
    decodeHelloAck p = .ok m ↔ m.Valid ∧ p = m.layout := by
  simp only [decodeHelloAck, orReturn_bind, validateServerId, validateId_bind, readU64_eq_ok,
    readFixedBytes_eq_ok (show kAuthenticationNonceSize ≤ 0xffff by decide), selected_bind,
      requireEnd_bind, pure, Except.pure, Except.ok.injEq, HelloAckMessage.layout]
  constructor
  · rintro ⟨sid, reader, hr, hid, time, _, rfl, nonce, _, rfl, selected, _, rfl, hcap,
      rfl, rfl⟩
    rw [readId_eq_ok hid] at hr
    exact ⟨⟨hid, hcap⟩, by simpa using hr⟩
  · rintro ⟨⟨hid, hcap⟩, rfl⟩
    refine ⟨m.serverId, _, (readId_eq_ok hid).2 ?_, hid, m.serverTimeSeconds.toUInt64, _, rfl,
      m.nonce, _, rfl, .ofBitVec m.selectedCapabilities, [], rfl, hcap, rfl, ?_⟩
    · simp
    · simp

def AuthMessage.Valid (m : AuthMessage) : Prop :=
  IsId .client m.clientId ∧ Selectable m.selectedCapabilities

def AuthMessage.layout (m : AuthMessage) : Bytes :=
  bytesField m.clientId ++ u64.encode m.timestampSeconds.toUInt64 ++ bytesField m.nonce ++
    bytesField m.authenticationData ++ u64.encode (.ofBitVec m.selectedCapabilities)

theorem encodeAuth_eq_ok {m : AuthMessage} : encodeAuth m = .ok p ↔ m.Valid ∧ p = m.layout := by
  simp only [encodeAuth, validateClientId, validateId_bind, newWriter_eq, writeString_bind,
    writeU64_bind, writeBytes_bind, selected_bind, finish_holding, Except.ok.injEq, List.nil_append,
    AuthMessage.layout]
  constructor
  · rintro ⟨hid, -, -, -, -, hcap, -, rfl⟩
    exact ⟨⟨hid, hcap⟩, rfl⟩
  · rintro ⟨⟨hid, hcap⟩, rfl⟩
    have hlen := length_le_of_isId hid
    have hnon : m.nonce.1.length = 32 := m.nonce.2
    have hdata : m.authenticationData.1.length = 32 := m.authenticationData.2
    simp only [List.length_append, length_bytesField, Wire.Word.length_encode, kMaxPayloadSize_eq]
    exact ⟨hid, ⟨isText_of_isId hid, by simp; omega⟩, by omega, by omega, by omega, hcap,
      by omega, trivial⟩

theorem decodeAuth_eq_ok {m : AuthMessage} : decodeAuth p = .ok m ↔ m.Valid ∧ p = m.layout := by
  simp only [decodeAuth, orReturn_bind, validateClientId, validateId_bind, readU64_eq_ok,
    readFixedBytes_eq_ok (show kAuthenticationNonceSize ≤ 0xffff by decide),
      readFixedBytes_eq_ok (show kAuthenticationDataSize ≤ 0xffff by decide), selected_bind,
        requireEnd_bind, pure, Except.pure, Except.ok.injEq, AuthMessage.layout]
  constructor
  · rintro ⟨cid, reader, hr, hid, time, _, rfl, nonce, _, rfl, data, _, rfl, selected, _,
      rfl, hcap, rfl, rfl⟩
    rw [readId_eq_ok hid] at hr
    exact ⟨⟨hid, hcap⟩, by simpa using hr⟩
  · rintro ⟨⟨hid, hcap⟩, rfl⟩
    refine ⟨m.clientId, _, (readId_eq_ok hid).2 ?_, hid, m.timestampSeconds.toUInt64, _, rfl,
      m.nonce, _, rfl, m.authenticationData, _, rfl, .ofBitVec m.selectedCapabilities, [], rfl,
      hcap, rfl, ?_⟩
    · simp
    · simp

def AuthOkMessage.Valid (m : AuthOkMessage) : Prop :=
  m.sessionGeneration ≠ 0 ∧
    ¬ (m.heartbeatIntervalMilliseconds < 1000 ∨ m.heartbeatIntervalMilliseconds > 60000) ∧
    ¬ (m.minIdleWorkers > m.maxIdleWorkers ∨ m.maxIdleWorkers > 128)

def AuthOkMessage.layout (m : AuthOkMessage) : Bytes :=
  u64.encode m.sessionGeneration ++ u32.encode m.heartbeatIntervalMilliseconds ++
    u16.encode m.minIdleWorkers ++ u16.encode m.maxIdleWorkers

theorem validateAuthOk_eq_ok : validateAuthOk m = .ok () ↔ m.Valid := by
  simp only [validateAuthOk, guard_eq_ok, AuthOkMessage.Valid, and_true]

theorem encodeAuthOk_eq_ok : encodeAuthOk m = .ok p ↔ m.Valid ∧ p = m.layout := by
  simp only [encodeAuthOk, check_bind validateAuthOk_eq_ok, newWriter_eq, writeU64_bind,
    writeU32_bind, writeU16_bind, finish_holding, Except.ok.injEq, List.length_append,
    Wire.Word.length_encode, List.length_nil, kMaxPayloadSize_eq]
  exact ⟨fun ⟨hval, _, _, _, _, h⟩ => ⟨hval, h.symm⟩, fun ⟨hval, h⟩ =>
    ⟨hval, by omega, by omega, by omega, by omega, h.symm⟩⟩

/-- All four reads are made before any of them is looked at. -/
theorem decodeAuthOk_eq_ok : decodeAuthOk p = .ok m ↔ m.Valid ∧ p = m.layout := by
  unfold decodeAuthOk AuthOkMessage.layout
  constructor
  · intro h
    rcases hg : readU64 p with ⟨g, r₁⟩
    rcases hb : readU32 r₁ with ⟨beat, r₂⟩
    rcases hmin : readU16 r₂ with ⟨low, r₃⟩
    rcases hmax : readU16 r₃ with ⟨high, r₄⟩
    simp only [hg, hb, hmin, hmax] at h
    split at h
    · simp only [requireEnd_bind, check_bind validateAuthOk_eq_ok, pure, Except.pure,
        Except.ok.injEq] at h
      obtain ⟨rfl, hval, rfl⟩ := h
      rw [readU64_eq_ok] at hg
      rw [readU32_eq_ok] at hb
      rw [readU16_eq_ok] at hmin hmax
      subst hmax hmin hb hg
      exact ⟨hval, by simp⟩
    · exact absurd h failure_ne_ok
  · rintro ⟨hval, rfl⟩
    simp only [List.append_assoc, readU64_eq_ok.2 rfl, readU32_eq_ok.2 rfl, readU16_eq_ok.2 rfl,
      readU16_eq_ok.2 (List.append_nil _).symm, requireEnd_bind, check_bind validateAuthOk_eq_ok,
      pure, Except.pure]
    exact ⟨trivial, hval, trivial⟩

/-- The spelling of a code at the front of a payload.  Only named codes are read. -/
theorem readCode_eq_ok {code : RawErrorCode} :
    (∃ text, readString maxErrorCodeBytes reader = (.ok text, rest) ∧
        errorCodeFromString text = some code) ↔
      IsNamedErrorCode code ∧ reader = bytesField (errorCodeToString code) ++ rest := by
  have hr := fun text => readString_reads maxErrorCodeBytes reader text rest
  constructor
  · rintro ⟨text, ht, hc⟩
    obtain ⟨hn, rfl⟩ := errorCodeFromString_eq_some_iff.1 hc
    exact ⟨hn, ((hr _).1 ht).2⟩
  · rintro ⟨hn, hl⟩
    have hlen := length_errorCodeToString_le code
    have hs : (errorCodeToString code).length ≤ 0xffff := hlen.trans (by decide)
    exact ⟨errorCodeToString code, (hr _).2 ⟨⟨⟨hlen, hs⟩, isText_errorCodeToString code⟩, hl⟩,
      errorCodeFromString_eq_some_iff.2 ⟨hn, rfl⟩⟩

def AuthErrorMessage.Valid (m : AuthErrorMessage) : Prop :=
  m.code ≠ ErrorCode.ok.raw

def AuthErrorMessage.layout (m : AuthErrorMessage) : Bytes :=
  bytesField (errorCodeToString m.code)

theorem encodeAuthError_eq_ok {m : AuthErrorMessage} :
    encodeAuthError m = .ok p ↔ m.Valid ∧ p = m.layout := by
  have hr : ([] : Bytes).length + (errorCodeToString m.code).length + 2 ≤ kMaxPayloadSize :=
    (Nat.add_le_add_right (by simpa using length_errorCodeToString_le m.code) 2).trans (by decide)
  rw [encodeAuthError, guard_eq_ok, newWriter_eq, writeString_bind, finish_holding, Except.ok.injEq]
  exact ⟨fun ⟨hc, _, h⟩ => ⟨hc, h.symm⟩, fun ⟨hc, h⟩ =>
    ⟨hc, ⟨isText_errorCodeToString m.code, hr⟩, h.symm⟩⟩

theorem decodeAuthError_eq_ok {m : AuthErrorMessage} :
    decodeAuthError p = .ok m ↔ (IsNamedErrorCode m.code ∧ m.Valid) ∧ p = m.layout := by
  unfold AuthErrorMessage.Valid AuthErrorMessage.layout
  simp only [decodeAuthError, orReturn_bind]
  constructor
  · rintro ⟨text, reader, ht, h⟩
    cases hc : errorCodeFromString text with
    | none => simp [hc, failure] at h
    | some code =>
      simp only [hc, guard_eq_ok, requireEnd_bind, pure, Except.pure, Except.ok.injEq] at h
      obtain ⟨hok, rfl, rfl⟩ := h
      obtain ⟨hn, hl⟩ := readCode_eq_ok.1 ⟨text, ht, hc⟩
      exact ⟨⟨hn, hok⟩, by simpa using hl⟩
  · rintro ⟨⟨hn, hok⟩, hl⟩
    obtain ⟨text, ht, hc⟩ :=
      readCode_eq_ok.2 ⟨hn, hl.trans (List.append_nil _).symm⟩
    refine ⟨text, [], ht, ?_⟩
    simp only [hc, guard_eq_ok, requireEnd_bind, pure, Except.pure]
    exact ⟨hok, trivial, trivial⟩

def HeartbeatMessage.layout (m : HeartbeatMessage) : Bytes :=
  u64.encode m.sequence

theorem encodeHeartbeat_eq_ok {m : HeartbeatMessage} :
    encodeHeartbeat m = .ok p ↔ p = m.layout := by
  have hr : ([] : Bytes).length + 8 ≤ kMaxPayloadSize := by decide
  rw [encodeHeartbeat, newWriter_eq, writeU64_bind, finish_holding, Except.ok.injEq]
  exact ⟨fun h => h.2.symm, fun h => ⟨hr, h.symm⟩⟩

theorem decodeHeartbeat_eq_ok {m : HeartbeatMessage} :
    decodeHeartbeat p = .ok m ↔ p = m.layout := by
  simp only [decodeHeartbeat, orReturn_bind, readU64_eq_ok, requireEnd_bind, pure, Except.pure,
    Except.ok.injEq, HeartbeatMessage.layout]
  constructor
  · rintro ⟨sequence, _, rfl, rfl, rfl⟩
    simp
  · rintro rfl
    exact ⟨m.sequence, [], (List.append_nil _).symm, rfl, rfl⟩

/-! ## Tunnels -/

/-- What a tunnel identifier and its revision have to satisfy. -/
def ValidRevision (tunnelId : Bytes) (revision : UInt64) : Prop :=
  IsId .tunnel tunnelId ∧ revision ≠ 0

def revisionLayout (tunnelId : Bytes) (revision : UInt64) : Bytes :=
  bytesField tunnelId ++ u64.encode revision

theorem encodeTunnelRevision_eq_ok {tid : Bytes} {rev : UInt64} :
    encodeTunnelRevision tid rev = .ok p ↔
      ValidRevision tid rev ∧ p = revisionLayout tid rev := by
  rw [encodeTunnelRevision, validateTunnelId, validateId_bind, guard_eq_ok, newWriter_eq,
    writeString_bind, writeU64_bind, finish_holding, Except.ok.injEq, List.nil_append]
  constructor
  · rintro ⟨hid, hrev, -, -, rfl⟩
    exact ⟨⟨hid, hrev⟩, rfl⟩
  · rintro ⟨⟨hid, hrev⟩, rfl⟩
    have hlen := length_le_of_isId hid
    refine ⟨hid, hrev, ⟨isText_of_isId hid, room_of_isId hid (by simp)⟩, ?_, rfl⟩
    rw [length_bytesField, kMaxPayloadSize_eq]
    omega

theorem decodeTunnelRevision_eq_ok {tid : Bytes} {rev : UInt64} :
    decodeTunnelRevision p = .ok (tid, rev) ↔
      ValidRevision tid rev ∧ p = revisionLayout tid rev := by
  unfold ValidRevision revisionLayout
  simp only [decodeTunnelRevision, orReturn_bind, validateTunnelId, validateId_bind]
  constructor
  · rintro ⟨id, reader, hrd, hid, h⟩
    rcases hr : readU64 reader with ⟨_ | value, rest⟩
    · simp [hr, failure] at h
    · simp only [hr, guard_eq_ok, requireEnd_bind] at h
      obtain ⟨hz, rfl, rfl, rfl⟩ := h
      rw [readU64_eq_ok] at hr
      rw [readId_eq_ok hid, hr] at hrd
      exact ⟨⟨hid, hz⟩, by simpa using hrd⟩
  · rintro ⟨⟨hid, hz⟩, rfl⟩
    refine ⟨tid, _, (readId_eq_ok hid).2 rfl, hid, ?_⟩
    rw [readU64_eq_ok.2 (List.append_nil _).symm]
    simp only [guard_eq_ok, requireEnd_bind, pure, Except.pure]
    exact ⟨hz, trivial, trivial⟩

/-- A message that is a tunnel identifier and a revision, under whatever constructor. -/
theorem decodeRevisionAs_eq_ok {α : Type} {make : Bytes → UInt64 → α} {tid : α → Bytes}
    {rev : α → UInt64} (hmk : ∀ m, make (tid m) (rev m) = m)
    (hid : ∀ i r, tid (make i r) = i) (hrev : ∀ i r, rev (make i r) = r) {m : α} :
    (decodeTunnelRevision p >>= fun v => pure (make v.1 v.2)) = .ok m ↔
      ValidRevision (tid m) (rev m) ∧ p = revisionLayout (tid m) (rev m) := by
  rw [do_eq_ok, Prod.exists]
  constructor
  · rintro ⟨i, r, hd, h⟩
    cases h
    rw [hid, hrev]
    exact decodeTunnelRevision_eq_ok.1 hd
  · intro h
    exact ⟨tid m, rev m, decodeTunnelRevision_eq_ok.2 h, congrArg Except.ok (hmk m)⟩

/-! The mode byte: absent for TCP, one byte for any other mode. -/

def modeLayout (mode : RawTunnelMode) : Bytes :=
  if mode = 0 then [] else u8.encode mode

theorem written_encodeTunnelMode {bytes : Bytes} {mode : RawTunnelMode} {w : PayloadWriter}
    (hr : bytes.length + 1 ≤ kMaxPayloadSize) :
    written (encodeTunnelMode (holding bytes) mode) = .ok w ↔
      validTunnelMode mode = true ∧ w = holding (bytes ++ modeLayout mode) := by
  unfold encodeTunnelMode modeLayout
  by_cases hval : validTunnelMode mode = true
  · by_cases htcp : mode = 0
    · simp [htcp, written, eq_comm, show validTunnelMode 0 = true by decide]
    · simp [hval, htcp, written_writeU8, hr]
  · simp [hval, written, failure]

theorem decodeTunnelMode_eq_ok {mode : RawTunnelMode} :
    decodeTunnelMode reader = (.ok mode, []) ↔
      validTunnelMode mode = true ∧ reader = modeLayout mode := by
  unfold decodeTunnelMode modeLayout
  constructor
  · intro h
    by_cases he : reader.length = 0
    · rw [if_pos he] at h
      obtain ⟨rfl, rfl⟩ := h
      exact ⟨by decide, by simp⟩
    by_cases hone : reader.length ≠ 1
    · simp [he, hone, failure] at h
    rcases hr : readU8 reader with ⟨_ | value, rest⟩
    · simp [he, hone, hr] at h
    · simp only [if_neg he, if_neg hone, hr] at h
      by_cases hbad : (!validTunnelMode value || value = 0) = true
      · simp [hbad, failure] at h
      · simp only [hbad, Bool.false_eq_true, ↓reduceIte, Prod.mk.injEq, Except.ok.injEq] at h
        obtain ⟨rfl, rfl⟩ := h
        have hp : validTunnelMode value = true ∧ value ≠ 0 := by simpa using hbad
        exact ⟨hp.1, by rw [if_neg hp.2]; simpa using readU8_eq_ok.1 hr⟩
  · rintro ⟨hval, rfl⟩
    by_cases htcp : mode = 0
    · simp [htcp]
    · have hlen : (u8.encode mode).length = 1 := u8.length_encode mode
      rw [if_neg htcp, readU8_eq_ok.2 (List.append_nil _).symm]
      simp [hval, htcp]

/-- The checks both ends make. -/
def RegisterTunnelMessage.Valid (m : RegisterTunnelMessage) : Prop :=
  IsId .tunnel m.tunnelId ∧
    (m.bindHost ≠ [] ∧ m.bindHost.length ≤ kMaxTunnelBindHostBytes ∧ isText m.bindHost = true) ∧
    m.bindPort ≠ 0 ∧ m.desiredRevision ≠ 0 ∧ validTunnelMode m.mode = true

def RegisterTunnelMessage.layout (m : RegisterTunnelMessage) : Bytes :=
  bytesField m.tunnelId ++ bytesField m.bindHost ++ u16.encode m.bindPort ++
    u64.encode m.desiredRevision ++ modeLayout m.mode

theorem RegisterTunnelMessage.room (m : RegisterTunnelMessage) (hid : IsId .tunnel m.tunnelId)
    (hh : m.bindHost.length ≤ kMaxTunnelBindHostBytes) :
    ([] ++ bytesField m.tunnelId ++ bytesField m.bindHost ++ u16.encode m.bindPort ++
      u64.encode m.desiredRevision).length + 1 ≤ kMaxPayloadSize := by
  have hidL := length_le_of_isId hid
  simp only [kMaxTunnelBindHostBytes] at hh
  simp only [List.length_append, length_bytesField, Wire.Word.length_encode, List.length_nil,
    kMaxPayloadSize_eq]
  omega

theorem encodeRegisterTunnel_eq_ok {m : RegisterTunnelMessage} :
    encodeRegisterTunnel m = .ok p ↔ m.Valid ∧ p = m.layout := by
  simp only [encodeRegisterTunnel, validateTunnelId, validateId_bind, guard_eq_ok, newWriter_eq,
    writeString_bind, writeU16_bind, writeU64_bind, not_or, Nat.not_lt, Bool.not_eq_true',
    Bool.not_eq_false, RegisterTunnelMessage.layout]
  constructor
  · rintro ⟨hid, ⟨hh, hlen, hp, hrev, hm⟩, -, ⟨ht, -⟩, -, -, hr⟩
    rw [written_bind fun _ => written_encodeTunnelMode (m.room hid hlen), finish_holding,
      Except.ok.injEq] at hr
    obtain ⟨-, rfl⟩ := hr
    exact ⟨⟨hid, ⟨hh, hlen, ht⟩, hp, hrev, hm⟩, by simp⟩
  · rintro ⟨⟨hid, ⟨hh, hlen, ht⟩, hp, hrev, hm⟩, rfl⟩
    have hrm := m.room hid hlen
    rw [written_bind fun _ => written_encodeTunnelMode hrm, finish_holding]
    simp only [List.length_append, length_bytesField, Wire.Word.length_encode, List.length_nil,
      List.nil_append] at hrm ⊢
    exact ⟨hid, ⟨hh, hlen, hp, hrev, hm⟩, ⟨isText_of_isId hid, by omega⟩,
      ⟨ht, by omega⟩, by omega, by omega, hm, trivial⟩

theorem readHost_eq_ok {host : Bytes} :
    readString kMaxTunnelBindHostBytes reader = (.ok host, rest) ↔
      (host.length ≤ kMaxTunnelBindHostBytes ∧ isText host = true) ∧
        reader = bytesField host ++ rest := by
  have hs : host.length ≤ kMaxTunnelBindHostBytes → host.length ≤ 0xffff :=
    fun h => h.trans (by decide)
  have hr := readString_reads kMaxTunnelBindHostBytes reader host rest
  simpa only [and_iff_left_of_imp hs] using hr

theorem decodeRegisterTunnel_eq_ok {m : RegisterTunnelMessage} :
    decodeRegisterTunnel p = .ok m ↔ m.Valid ∧ p = m.layout := by
  unfold decodeRegisterTunnel RegisterTunnelMessage.Valid RegisterTunnelMessage.layout
  constructor
  · intro h
    rcases hi : readString kMaxProtocolIdentifierBytes p with ⟨i, r₁⟩
    rcases hh : readString kMaxTunnelBindHostBytes r₁ with ⟨host, r₂⟩
    rcases hp : readU16 r₂ with ⟨port, r₃⟩
    rcases hr : readU64 r₃ with ⟨rev, r₄⟩
    simp only [hi, hh, hp, hr] at h
    split at h
    · simp only [validateTunnelId, validateId_bind, guard_eq_ok, orReturn_bind, requireEnd_bind,
        pure, Except.pure, Except.ok.injEq, not_or] at h
      obtain ⟨hid, hfs, mode, rest, hm, rfl, rfl⟩ := h
      obtain ⟨hval, hl⟩ := decodeTunnelMode_eq_ok.1 hm
      rw [readId_eq_ok hid] at hi
      obtain ⟨hho, hh⟩ := readHost_eq_ok.1 hh
      rw [readU16_eq_ok] at hp
      rw [readU64_eq_ok] at hr
      subst hl hr hp hh hi
      exact ⟨⟨hid, ⟨hfs.1, hho⟩, hfs.2.1, hfs.2.2, hval⟩, by simp⟩
    · exact absurd h failure_ne_ok
  · rintro ⟨⟨hid, ⟨hho, hb⟩, hpt, hrev, hm⟩, rfl⟩
    simp only [List.append_assoc, (readId_eq_ok hid).2 rfl, readHost_eq_ok.2 ⟨hb, rfl⟩,
      readU16_eq_ok.2 rfl, readU64_eq_ok.2 rfl, validateTunnelId, validateId_bind, guard_eq_ok,
      not_or, orReturn_bind, requireEnd_bind]
    exact ⟨hid, ⟨hho, hpt, hrev⟩, m.mode, [], decodeTunnelMode_eq_ok.2 ⟨hm, rfl⟩, rfl,
      rfl⟩

def RegisterTunnelErrorMessage.Valid (m : RegisterTunnelErrorMessage) : Prop :=
  IsId .tunnel m.tunnelId ∧ m.code ≠ ErrorCode.ok.raw ∧ m.desiredRevision ≠ 0

def RegisterTunnelErrorMessage.layout (m : RegisterTunnelErrorMessage) : Bytes :=
  bytesField m.tunnelId ++ bytesField (errorCodeToString m.code) ++ u64.encode m.desiredRevision

theorem encodeRegisterTunnelError_eq_ok {m : RegisterTunnelErrorMessage} :
    encodeRegisterTunnelError m = .ok p ↔ m.Valid ∧ p = m.layout := by
  rw [encodeRegisterTunnelError, validateTunnelId, validateId_bind, guard_eq_ok, newWriter_eq,
    writeString_bind, writeString_bind, writeU64_bind, finish_holding, Except.ok.injEq, not_or]
  constructor
  · rintro ⟨hid, hfs, -, -, -, rfl⟩
    exact ⟨⟨hid, hfs⟩, rfl⟩
  · rintro ⟨⟨hid, hfs⟩, rfl⟩
    have hidL := length_le_of_isId hid
    have hc := length_errorCodeToString_le m.code
    simp only [maxErrorCodeBytes] at hc
    simp only [List.length_append, length_bytesField, List.length_nil, kMaxPayloadSize_eq]
    exact ⟨hid, hfs, ⟨isText_of_isId hid, by omega⟩,
      ⟨isText_errorCodeToString m.code, by omega⟩, by omega, rfl⟩

theorem decodeRegisterTunnelError_eq_ok {m : RegisterTunnelErrorMessage} :
    decodeRegisterTunnelError p = .ok m ↔
      (IsNamedErrorCode m.code ∧ m.Valid) ∧ p = m.layout := by
  unfold decodeRegisterTunnelError RegisterTunnelErrorMessage.Valid
    RegisterTunnelErrorMessage.layout
  constructor
  · intro h
    rcases hi : readString kMaxProtocolIdentifierBytes p with ⟨i, r₁⟩
    rcases ht : readString maxErrorCodeBytes r₁ with ⟨text, r₂⟩
    rcases hr : readU64 r₂ with ⟨rev, r₃⟩
    simp only [hi, ht, hr] at h
    split at h
    case h_2 => exact absurd h failure_ne_ok
    split at h
    case h_2 => exact absurd h failure_ne_ok
    case h_1 code hv hc =>
      simp only [guard_eq_ok, requireEnd_bind, pure, Except.pure, Except.ok.injEq, not_or] at h
      obtain ⟨hfs, rfl, rfl⟩ := h
      have hid : IsId .tunnel _ := validateId_eq_ok.1 hv
      obtain ⟨hn, hl⟩ := readCode_eq_ok.1 ⟨_, ht, hc⟩
      rw [readId_eq_ok hid] at hi
      rw [readU64_eq_ok] at hr
      subst hr hl hi
      exact ⟨⟨hn, hid, hfs⟩, by simp⟩
  · rintro ⟨⟨hn, hid, hfs⟩, rfl⟩
    obtain ⟨text, ht, hc⟩ := readCode_eq_ok.2
      ⟨hn, (rfl : bytesField (errorCodeToString m.code) ++ u64.encode m.desiredRevision = _)⟩
    have hv : validateTunnelId m.tunnelId = .ok () := validateId_eq_ok.2 hid
    simp only [List.append_assoc, (readId_eq_ok hid).2 rfl, ht, readU64_eq_ok.2 (List.append_nil
      _).symm, hv, hc, guard_eq_ok, not_or, requireEnd_bind, pure, Except.pure]
    exact ⟨hfs, trivial, trivial⟩

/-! ## Workers -/

def RequestWorkersMessage.Valid (m : RequestWorkersMessage) : Prop :=
  ¬ (m.count = 0 ∨ m.count > 128)

def RequestWorkersMessage.layout (m : RequestWorkersMessage) : Bytes :=
  u16.encode m.count

theorem encodeRequestWorkers_eq_ok {m : RequestWorkersMessage} :
    encodeRequestWorkers m = .ok p ↔ m.Valid ∧ p = m.layout := by
  have hr : ([] : Bytes).length + 2 ≤ kMaxPayloadSize := by decide
  rw [encodeRequestWorkers, guard_eq_ok, newWriter_eq, writeU16_bind, finish_holding,
    Except.ok.injEq]
  exact ⟨fun h => ⟨h.1, h.2.2.symm⟩, fun h => ⟨h.1, hr, h.2.symm⟩⟩

theorem decodeRequestWorkers_eq_ok {m : RequestWorkersMessage} :
    decodeRequestWorkers p = .ok m ↔ m.Valid ∧ p = m.layout := by
  unfold decodeRequestWorkers RequestWorkersMessage.Valid RequestWorkersMessage.layout
  constructor
  · intro h
    rcases hr : readU16 p with ⟨_ | count, rest⟩
    · simp [hr, failure] at h
    · simp only [hr, guard_eq_ok, not_requireEnd_isOk, not_or, not_not, Except.ok.injEq] at h
      obtain ⟨⟨hz, hmany, rfl⟩, rfl⟩ := h
      rw [readU16_eq_ok] at hr
      exact ⟨not_or.2 ⟨hz, hmany⟩, hr⟩
  · rintro ⟨hval, rfl⟩
    rw [readU16_eq_ok.2 (List.append_nil _).symm]
    simp only [guard_eq_ok]
    tauto

def WorkerHelloMessage.Valid (m : WorkerHelloMessage) : Prop :=
  IsId .client m.clientId ∧ IsId .connection m.workerId ∧ m.sessionGeneration ≠ 0

def WorkerHelloMessage.layout (m : WorkerHelloMessage) : Bytes :=
  bytesField m.clientId ++ u64.encode m.sessionGeneration ++ bytesField m.workerId ++
    u64.encode m.timestampSeconds.toUInt64 ++ bytesField m.nonce ++
    bytesField m.authenticationData

theorem encodeWorkerHello_eq_ok {m : WorkerHelloMessage} :
    encodeWorkerHello m = .ok p ↔ m.Valid ∧ p = m.layout := by
  rw [encodeWorkerHello, guard_eq_ok, validateClientId, validateConnectionId, not_validateId_isOk,
    not_validateId_isOk, newWriter_eq, writeString_bind, writeU64_bind, writeString_bind,
    writeU64_bind, writeBytes_bind, writeBytes_bind, finish_holding, Except.ok.injEq]
  simp only [not_or, not_not]
  constructor
  · rintro ⟨hval, -, -, -, -, -, -, rfl⟩
    exact ⟨hval, rfl⟩
  · rintro ⟨⟨hc, hw, hgen⟩, rfl⟩
    have hci := length_le_of_isId hc
    have hwr := length_le_of_isId hw
    have hnon : m.nonce.1.length = 32 := m.nonce.2
    have hdata : m.authenticationData.1.length = 32 := m.authenticationData.2
    simp only [List.length_append, length_bytesField, Wire.Word.length_encode, List.length_nil,
      kMaxPayloadSize_eq]
    exact ⟨⟨hc, hw, hgen⟩, ⟨isText_of_isId hc, by omega⟩, by omega,
      ⟨isText_of_isId hw, by omega⟩, by omega, by omega, by omega, rfl⟩

theorem decodeWorkerHello_eq_ok {m : WorkerHelloMessage} :
    decodeWorkerHello p = .ok m ↔ m.Valid ∧ p = m.layout := by
  unfold decodeWorkerHello WorkerHelloMessage.Valid WorkerHelloMessage.layout
  have hnon : kAuthenticationNonceSize ≤ 0xffff := by decide
  have hdt : kAuthenticationDataSize ≤ 0xffff := by decide
  constructor
  · intro h
    rcases hc : readString kMaxProtocolIdentifierBytes p with ⟨client, r₁⟩
    rcases hg : readU64 r₁ with ⟨gen, r₂⟩
    rcases hw : readString kMaxProtocolIdentifierBytes r₂ with ⟨wkr, r₃⟩
    rcases ht : readU64 r₃ with ⟨time, r₄⟩
    rcases hn : readFixedBytes kAuthenticationNonceSize r₄ with ⟨nonce, r₅⟩
    rcases hd : readFixedBytes kAuthenticationDataSize r₅ with ⟨data, r₆⟩
    simp only [hc, hg, hw, ht, hn, hd] at h
    split at h
    · rw [guard_eq_ok, validateClientId, validateConnectionId, not_validateId_isOk,
        not_validateId_isOk, not_requireEnd_isOk] at h
      simp only [not_or, not_not] at h
      obtain ⟨⟨hgen, hcl, hwk, rfl⟩, h⟩ := h
      cases h
      rw [readId_eq_ok hcl] at hc
      rw [readId_eq_ok hwk] at hw
      rw [readU64_eq_ok] at hg ht
      rw [readFixedBytes_eq_ok hnon] at hn
      rw [readFixedBytes_eq_ok hdt] at hd
      subst hd hn ht hw hg hc
      exact ⟨⟨hcl, hwk, hgen⟩, by simp⟩
    · exact absurd h failure_ne_ok
  · rintro ⟨⟨hcl, hwk, hgen⟩, rfl⟩
    simp only [List.append_assoc, (readId_eq_ok hcl).2 rfl, (readId_eq_ok hwk).2 rfl,
      readU64_eq_ok.2 rfl, (readFixedBytes_eq_ok hnon).2 rfl,
      (readFixedBytes_eq_ok hdt).2 (List.append_nil _).symm]
    rw [guard_eq_ok, validateClientId, validateConnectionId, not_validateId_isOk,
      not_validateId_isOk]
    tauto

/-! ## Connections -/

theorem encodeConnectionId_eq_ok {conId : Bytes} :
    encodeConnectionId conId = .ok p ↔
      IsId .connection conId ∧ p = bytesField conId := by
  rw [encodeConnectionId, validateConnectionId, validateId_bind, newWriter_eq, writeString_bind,
    finish_holding, Except.ok.injEq]
  constructor
  · rintro ⟨hid, -, rfl⟩
    exact ⟨hid, rfl⟩
  · rintro ⟨hid, rfl⟩
    exact ⟨hid, ⟨isText_of_isId hid, room_of_isId hid (by simp)⟩, rfl⟩

theorem decodeConnectionId_eq_ok {conId : Bytes} :
    decodeConnectionId msg p = .ok conId ↔
      IsId .connection conId ∧ p = bytesField conId := by
  unfold decodeConnectionId
  constructor
  · intro h
    rcases hr : readString kMaxProtocolIdentifierBytes p with ⟨_ | value, rest⟩
    · simp [hr, failure] at h
    · simp only [hr] at h
      rw [guard_eq_ok, validateConnectionId, not_validateId_isOk, not_requireEnd_isOk, not_or,
        not_not, not_not, Except.ok.injEq] at h
      obtain ⟨⟨hid, rfl⟩, rfl⟩ := h
      rw [readId_eq_ok hid, List.append_nil] at hr
      exact ⟨hid, hr⟩
  · rintro ⟨hid, rfl⟩
    rw [(readId_eq_ok hid).2 (List.append_nil _).symm]
    rw [guard_eq_ok, validateConnectionId, not_validateId_isOk]
    tauto

def LocalConnectErrorMessage.Valid (m : LocalConnectErrorMessage) : Prop :=
  IsId .connection m.connectionId ∧ m.code ≠ ErrorCode.ok.raw

def LocalConnectErrorMessage.layout (m : LocalConnectErrorMessage) : Bytes :=
  bytesField m.connectionId ++ bytesField (errorCodeToString m.code)

theorem encodeLocalConnectError_eq_ok {m : LocalConnectErrorMessage} :
    encodeLocalConnectError m = .ok p ↔ m.Valid ∧ p = m.layout := by
  rw [encodeLocalConnectError, guard_eq_ok, validateConnectionId, not_validateId_isOk,
    newWriter_eq, writeString_bind, writeString_bind, finish_holding, Except.ok.injEq,
    List.nil_append, not_or, not_not]
  constructor
  · rintro ⟨hval, -, -, rfl⟩
    exact ⟨hval, rfl⟩
  · rintro ⟨⟨hid, hc⟩, rfl⟩
    have hidL := length_le_of_isId hid
    have hco := length_errorCodeToString_le m.code
    simp only [maxErrorCodeBytes] at hco
    simp only [length_bytesField, List.length_nil, kMaxPayloadSize_eq]
    exact ⟨⟨hid, hc⟩, ⟨isText_of_isId hid, by omega⟩,
      ⟨isText_errorCodeToString m.code, by omega⟩, rfl⟩

theorem decodeLocalConnectError_eq_ok {m : LocalConnectErrorMessage} :
    decodeLocalConnectError p = .ok m ↔
      (IsNamedErrorCode m.code ∧ m.Valid) ∧ p = m.layout := by
  unfold decodeLocalConnectError LocalConnectErrorMessage.Valid LocalConnectErrorMessage.layout
  constructor
  · intro h
    rcases hi : readString kMaxProtocolIdentifierBytes p with ⟨_ | i, r₁⟩
    · simp [hi, failure] at h
    rcases ht : readString maxErrorCodeBytes r₁ with ⟨_ | text, r₂⟩
    · simp [hi, ht, failure] at h
    cases hc : errorCodeFromString text with
    | none => simp [hi, ht, hc, failure] at h
    | some code =>
      simp only [hi, ht, hc] at h
      rw [guard_eq_ok, validateConnectionId, not_validateId_isOk, not_requireEnd_isOk, not_or,
        not_or, not_not, not_not, Except.ok.injEq] at h
      obtain ⟨⟨hid, hcd, rfl⟩, rfl⟩ := h
      obtain ⟨hn, hl⟩ := readCode_eq_ok.1 ⟨text, ht, hc⟩
      rw [readId_eq_ok hid] at hi
      subst hl hi
      exact ⟨⟨hn, hid, hcd⟩, by simp⟩
  · rintro ⟨⟨hn, hid, hcd⟩, rfl⟩
    obtain ⟨text, ht, hc⟩ := readCode_eq_ok.2 ⟨hn, (List.append_nil _).symm⟩
    simp only [(readId_eq_ok hid).2 rfl, ht, hc]
    rw [guard_eq_ok, validateConnectionId, not_validateId_isOk]
    tauto

end MiniTun.Protocol
