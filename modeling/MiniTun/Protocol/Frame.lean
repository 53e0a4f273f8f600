import MiniTun.Protocol.Codec

/-!
# Frames

`protocol::Frame`, its encoding, and `protocol::FrameDecoder`, which takes the bytes
of a connection in whatever pieces they arrive.  A decoder keeps the bytes of an
unfinished header, or the header's fields and the payload read so far.  Its buffers
are never full between two calls: the structure carries that, and the loop of `feed`
ends because of it.
-/

namespace MiniTun.Remote

open MiniTun.Protocol

inductive MessageType where
  | hello | helloAck | auth | authOk | authError
  | registerTunnel | registerTunnelOk | registerTunnelError
  | unregisterTunnel | unregisterTunnelOk | requestWorkers
  | ping | pong | goaway | error
  | workerHello | workerAccepted | startRelay | localConnectOk | localConnectError
deriving Repr, DecidableEq

def messageTypeFromWire (value : UInt16) : Option MessageType :=
  if value = 1 then some .hello else if value = 2 then some .helloAck
  else if value = 3 then some .auth else if value = 4 then some .authOk
  else if value = 5 then some .authError else if value = 6 then some .registerTunnel
  else if value = 7 then some .registerTunnelOk
  else if value = 8 then some .registerTunnelError
  else if value = 9 then some .unregisterTunnel
  else if value = 10 then some .unregisterTunnelOk
  else if value = 11 then some .requestWorkers else if value = 12 then some .ping
  else if value = 13 then some .pong else if value = 14 then some .goaway
  else if value = 15 then some .error else if value = 0x0100 then some .workerHello
  else if value = 0x0101 then some .workerAccepted
  else if value = 0x0102 then some .startRelay
  else if value = 0x0103 then some .localConnectOk
  else if value = 0x0104 then some .localConnectError
  else none

structure Frame where
  type : UInt16
  flags : UInt32
  requestId : UInt64
  payload : Bytes

def kFrameMagic : UInt32 := 0x4D54554E

def kProtocolVersion : UInt16 := 2

def effectiveFrameLimit (requested : Nat) : Nat :=
  min (max requested kFrameHeaderSize) kMaxFrameSize

def frameHeader (frame : Frame) : Bytes :=
  u32.encode kFrameMagic ++ u16.encode kProtocolVersion ++ u16.encode frame.type ++
    u32.encode frame.flags ++ u32.encode frame.payload.length.toUInt32 ++
    u64.encode frame.requestId

def encodeFrame (frame : Frame) (maxFrameSize : Nat) : Result Bytes :=
  if (messageTypeFromWire frame.type).isNone then
    failure .protocolError "remote frame message type is invalid"
  else if frame.flags ≠ 0 then
    failure .protocolError "remote frame contains unsupported flags"
  else if frame.payload.length > effectiveFrameLimit maxFrameSize - kFrameHeaderSize ∨
      frame.payload.length > 0xffffffff then
    failure .frameTooLarge "remote frame exceeds the configured size limit"
  else .ok (frameHeader frame ++ frame.payload)

/-! ## The decoder -/

def decoderError : ErrorCode → Error
  | .frameTooLarge => ⟨.frameTooLarge, "remote frame exceeds the configured size limit"⟩
  | .unsupportedVersion => ⟨.unsupportedVersion, "remote protocol version is unsupported"⟩
  | .resourceExhausted =>
    ⟨.resourceExhausted, "insufficient memory while decoding a remote frame"⟩
  | _ => ⟨.protocolError, "remote frame decoder is in a failed state"⟩

/-- `FrameDecoder`.  `header` holds the first `header_size_` bytes of `header_`, and
`failureCode` is `failure_code_` once `failed_` is set. -/
structure FrameDecoder where
  maxFrameSize : Nat
  header : Bytes
  expectedPayloadSize : UInt32
  currentType : UInt16
  currentFlags : UInt32
  currentRequestId : UInt64
  payload : Bytes
  readingPayload : Bool
  failureCode : Option ErrorCode
  header_lt : header.length < kFrameHeaderSize
  payload_lt : readingPayload = true → payload.length < expectedPayloadSize.toNat

namespace FrameDecoder

theorem nil_lt_header : ([] : Bytes).length < kFrameHeaderSize := by decide

theorem lt_of_not_reading {pay : Bytes} {expected : UInt32} (h : false = true) :
    pay.length < expected.toNat :=
  absurd h Bool.false_ne_true

def new (maxFrameSize : Nat) : FrameDecoder where
  maxFrameSize := effectiveFrameLimit maxFrameSize
  header := []
  expectedPayloadSize := 0
  currentType := 1
  currentFlags := 0
  currentRequestId := 0
  payload := []
  readingPayload := false
  failureCode := none
  header_lt := nil_lt_header
  payload_lt := lt_of_not_reading

section Decoding

variable (d : FrameDecoder)

def resetCurrentFrame : FrameDecoder :=
  { d with
    payload := [], expectedPayloadSize := 0, currentType := 1, currentFlags := 0
    currentRequestId := 0, readingPayload := false, payload_lt := lt_of_not_reading }

def fail (code : ErrorCode) : FrameDecoder :=
  { d.resetCurrentFrame with
    header := [], failureCode := some code, header_lt := nil_lt_header }

/-- `FrameDecoder::parse_header` on a full header, with the `header_size_ = 0` its
caller puts behind it.  No payload is being read at that point. -/
def parseHeader (header : Bytes) : Result Unit × FrameDecoder :=
  if u32.decode (header.take 4) ≠ kFrameMagic then
    (failure .protocolError "remote frame magic is invalid", d.fail .protocolError)
  else if u16.decode ((header.drop 4).take 2) ≠ kProtocolVersion then
    (failure .unsupportedVersion "remote protocol version is unsupported",
      d.fail .unsupportedVersion)
  else if (messageTypeFromWire (u16.decode ((header.drop 6).take 2))).isNone then
    (failure .protocolError "remote frame message type is invalid", d.fail .protocolError)
  else if u32.decode ((header.drop 8).take 4) ≠ 0 then
    (failure .protocolError "remote frame contains unsupported flags", d.fail .protocolError)
  else if (u32.decode ((header.drop 12).take 4)).toNat > d.maxFrameSize - kFrameHeaderSize then
    (failure .frameTooLarge "remote frame exceeds the configured size limit",
      d.fail .frameTooLarge)
  else
    (.ok (),
      { d with
        header := [], header_lt := nil_lt_header
        currentType := u16.decode ((header.drop 6).take 2)
        currentFlags := u32.decode ((header.drop 8).take 4)
        currentRequestId := u64.decode ((header.drop 16).take 8)
        expectedPayloadSize := u32.decode ((header.drop 12).take 4)
        readingPayload := false, payload_lt := lt_of_not_reading })

theorem take_min_header_lt {header bytes : Bytes} (hh : header.length < kFrameHeaderSize)
    (hne : (header ++ bytes.take (min bytes.length (kFrameHeaderSize - header.length))).length ≠
      kFrameHeaderSize) :
    (header ++ bytes.take (min bytes.length (kFrameHeaderSize - header.length))).length <
      kFrameHeaderSize := by
  simp only [List.length_append, List.length_take] at hne ⊢
  omega

theorem take_min_payload_lt {pay bytes : Bytes} {expected : Nat} (hpay : pay.length < expected)
    (hne : (pay ++ bytes.take (min bytes.length (expected - pay.length))).length ≠ expected) :
    (pay ++ bytes.take (min bytes.length (expected - pay.length))).length < expected := by
  simp only [List.length_append, List.length_take] at hne ⊢
  omega

theorem nil_lt_expected {expected : UInt32} (h : ¬ expected = 0) :
    ([] : Bytes).length < expected.toNat := by
  have : expected.toNat ≠ 0 := fun h0 => h (UInt32.toNat_inj.1 h0)
  simp only [List.length_nil]
  omega

/-- The frame whose header the decoder holds. -/
def currentFrame (payload : Bytes) : Frame :=
  ⟨d.currentType, d.currentFlags, d.currentRequestId, payload⟩

/-- The second half of the loop's body: payload bytes, and the frame once it is whole.
What is returned besides the decoder are the frames made and the bytes left. -/
def readPayload (bytes : Bytes) : FrameDecoder × List Frame × Bytes :=
  let count := min bytes.length (d.expectedPayloadSize.toNat - d.payload.length)
  if h : (d.payload ++ bytes.take count).length = d.expectedPayloadSize.toNat then
    (d.resetCurrentFrame, [d.currentFrame (d.payload ++ bytes.take count)], bytes.drop count)
  else
    ({ d with
        payload := d.payload ++ bytes.take count
        payload_lt := fun hreading => take_min_payload_lt (d.payload_lt hreading) h },
      [], bytes.drop count)

/-- `payload_.clear()` and `reading_payload_ = true` behind a header. -/
def beginPayload (h : ¬ d.expectedPayloadSize = 0) : FrameDecoder :=
  { d with payload := [], readingPayload := true, payload_lt := fun _ => nil_lt_expected h }

/-- A full header: it is parsed, and the body goes on to the payload if there is one. -/
def readHeader (header bytes : Bytes) :
    Except (Error × FrameDecoder) (FrameDecoder × List Frame × Bytes) :=
  match d.parseHeader header with
  | (.error e, d) => .error (e, d)
  | (.ok (), d) =>
    if h : d.expectedPayloadSize = 0 then
      .ok (d.resetCurrentFrame, [d.currentFrame []], bytes)
    else .ok ((d.beginPayload h).readPayload bytes)

/-- The body of the loop of `feed`. -/
def readSome (bytes : Bytes) : Except (Error × FrameDecoder) (FrameDecoder × List Frame × Bytes) :=
  if d.readingPayload = true then .ok (d.readPayload bytes)
  else
    let count := min bytes.length (kFrameHeaderSize - d.header.length)
    if h : (d.header ++ bytes.take count).length ≠ kFrameHeaderSize then
      .ok ({ d with
          header := d.header ++ bytes.take count
          header_lt := take_min_header_lt d.header_lt h }, [], bytes.drop count)
    else d.readHeader (d.header ++ bytes.take count) (bytes.drop count)

theorem length_readPayload (bytes : Bytes) :
    (d.readPayload bytes).2.2.length =
      bytes.length - min bytes.length (d.expectedPayloadSize.toNat - d.payload.length) := by
  unfold readPayload
  simp only
  split
  · exact List.length_drop
  · exact List.length_drop

end Decoding

theorem length_readHeader_le {d d' : FrameDecoder} {header bytes rest : Bytes}
    {made : List Frame} (h : d.readHeader header bytes = .ok (d', made, rest)) :
    rest.length ≤ bytes.length := by
  unfold readHeader at h
  split at h
  · cases h
  · next d'' _ =>
    by_cases hexp : d''.expectedPayloadSize = 0
    · rw [dif_pos hexp] at h
      cases h
      exact Nat.le_refl _
    · rw [dif_neg hexp] at h
      have hr := (d''.beginPayload hexp).length_readPayload bytes
      rw [Except.ok.inj h] at hr
      simp only at hr
      omega

theorem length_readSome_lt {d d' : FrameDecoder} {bytes rest : Bytes} {made : List Frame}
    (hne : bytes ≠ []) (h : d.readSome bytes = .ok (d', made, rest)) :
    rest.length < bytes.length := by
  have hlen := List.length_pos_iff.2 hne
  have hh := d.header_lt
  unfold readSome at h
  by_cases hra : d.readingPayload = true
  · have hpay := d.payload_lt hra
    rw [if_pos hra] at h
    have hr := d.length_readPayload bytes
    rw [Except.ok.inj h] at hr
    simp only at hr
    omega
  · rw [if_neg hra] at h
    simp only at h
    split at h
    · cases h
      rw [List.length_drop]
      omega
    · have hr := length_readHeader_le h
      rw [List.length_drop] at hr
      omega

/-- The frames of one call, behind the frames it has made already. -/
def behind (made : List Frame) :
    Result (List Frame) × FrameDecoder → Result (List Frame) × FrameDecoder
  | (.ok frames, d) => (.ok (made ++ frames), d)
  | (.error e, d) => (.error e, d)

def feedLoop (d : FrameDecoder) (bytes : Bytes) : Result (List Frame) × FrameDecoder :=
  if hne : bytes = [] then (.ok [], d)
  else match hread : d.readSome bytes with
    | .error (e, d) => (.error e, d)
    | .ok (d, made, rest) =>
      have := length_readSome_lt hne hread
      behind made (d.feedLoop rest)
termination_by bytes.length

def feed (d : FrameDecoder) (bytes : Bytes) : Result (List Frame) × FrameDecoder :=
  match d.failureCode with
  | some code => (.error (decoderError code), d)
  | none => d.feedLoop bytes

def finish (d : FrameDecoder) : Result Unit :=
  match d.failureCode with
  | some code => .error (decoderError code)
  | none =>
    if d.header.length ≠ 0 ∨ d.readingPayload = true then
      failure .protocolError "remote stream ended in the middle of a frame"
    else .ok ()

def bufferedSize (d : FrameDecoder) : Nat :=
  d.header.length + d.payload.length

end FrameDecoder

end MiniTun.Remote
