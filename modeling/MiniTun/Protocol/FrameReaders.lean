import MiniTun.Lib.ChunkedStream
import MiniTun.Protocol.FrameChunks

/-!
# Reading frame by frame

`async_read_frame` reads a header, finds the length of the payload in it, reads so many bytes and
hands both to a decoder of its own.  A stream read that way gives the frames one decoder gives
that is fed byte after byte.
-/

namespace MiniTun.Remote

open ChunkedStream FrameDecoder MiniTun.Protocol

def payloadLengthFromHeader (header : Bytes) : Nat :=
  Wire.value ((header.drop 12).take 4)

/-- `async_read_frame` on what is left of a stream that is closed behind its bytes. -/
def asyncReadFrame (maxFrameSize : Nat) (stream : List Bytes) : Result Frame × List Bytes :=
  match readExact kFrameHeaderSize stream with
  | (none, rest) =>
    (failure .connectionFailed "remote frame read ended because the peer closed", rest)
  | (some header, rest) =>
    match (new maxFrameSize).feed header with
    | (.error e, _) => (.error e, rest)
    | (.ok (frame :: more), _) =>
      if more ≠ [] then
        (failure .internalError "remote frame decoder returned extra frames", rest)
      else (.ok frame, rest)
    | (.ok [], decoder) =>
      match readExact (payloadLengthFromHeader header) rest with
      | (none, rest) =>
        (failure .connectionFailed "remote frame payload read ended because the peer closed", rest)
      | (some payload, rest) =>
        match decoder.feed payload with
        | (.error e, _) => (.error e, rest)
        | (.ok frames, decoder) =>
          match frames, decoder.finish with
          | [frame], .ok () => (.ok frame, rest)
          | _, _ =>
            (failure .internalError "remote frame decoder did not finish a frame", rest)

def kMaxPipelinedFrames : Nat := 32

/-- The loop of `async_write_frames`. -/
def encodeBatch (maxFrameSize : Nat) : List Frame → Bytes → Result Bytes
  | [], batch => .ok batch
  | frame :: frames, batch => do
    let encoded ← encodeFrame frame maxFrameSize
    if kMaxFrameSize * kMaxPipelinedFrames - encoded.length < batch.length then
      failure .frameTooLarge "remote frame pipeline exceeds the bounded window size"
    else encodeBatch maxFrameSize frames (batch ++ encoded)

def asyncWriteFrames (frames : List Frame) (maxFrameSize : Nat) : Result Bytes :=
  if frames = [] ∨ kMaxPipelinedFrames < frames.length then
    failure .invalidArgument "remote frame pipeline must contain between 1 and 32 frames"
  else encodeBatch maxFrameSize frames []

/-- The frames a decoder returns in total that is fed byte after byte until it fails. -/
def pushed (d : FrameDecoder) : Bytes → List Frame
  | [] => []
  | b :: bytes =>
    match d.feed [b] with
    | (.ok frames, d) => frames ++ pushed d bytes
    | (.error _, _) => []

/-! ## Byte after byte -/

variable {d d' : FrameDecoder} {header bytes later : Bytes} {made : List Frame} {limit : Nat}
  {frame : Frame} {stream rest : List Bytes}

theorem pushed_append (hd : d.failureCode = none) (h : d.feedLoop bytes = (.ok made, d'))
    (later : Bytes) : pushed d (bytes ++ later) = made ++ pushed d' later := by
  induction bytes generalizing d made with
  | nil =>
    rw [feedLoop_nil] at h
    cases h
    rfl
  | cons b bytes ih =>
    have hc := d.failureCode_feedLoop [b]
    rw [feedLoop_cons] at h
    rw [List.cons_append, pushed, feed_of_live hd]
    rcases hb : d.feedLoop [b] with ⟨r, d₁⟩
    rw [hb] at h hc
    cases r with
    | error e => cases h
    | ok first =>
      rcases hr : d₁.feedLoop bytes with ⟨r, d₂⟩
      rw [continued, hr] at h
      cases r with
      | error e => cases h
      | ok second =>
        cases h
        simp only
        rw [ih (hc.trans hd) hr, List.append_assoc]

theorem pushed_of_ok (hd : d.failureCode = none) (h : d.feedLoop bytes = (.ok made, d')) :
    pushed d bytes = made := by
  have happ := pushed_append hd h []
  rwa [List.append_nil, pushed, List.append_nil] at happ

/-- A turn that uses up the bytes is all the loop does. -/
theorem feedLoop_turn (hne : bytes ≠ []) (h : d.readSome bytes = .ok (d', made, [])) :
    d.feedLoop bytes = (.ok made, d') := by
  rw [feedLoop_ok hne h, feedLoop_nil, behind, List.append_nil]

theorem feedLoop_short (limit : Nat) (h : bytes.length < kFrameHeaderSize) :
    ∃ d, (new limit).feedLoop bytes = (.ok [], d) ∧ d.failureCode = none := by
  have hc := (new limit).failureCode_feedLoop bytes
  by_cases hne : bytes = []
  · exact ⟨new limit, hne ▸ feedLoop_nil, rfl⟩
  · have hloop := feedLoop_turn hne (readSome_short (d := new limit) rfl h)
    rw [hloop] at hc
    exact ⟨_, hloop, hc⟩

/-- A header that is refused is refused at its last byte. -/
theorem pushed_of_error {e : Error} (hlen : header.length = kFrameHeaderSize)
    (h : (new limit).feedLoop header = (.error e, d')) (later : Bytes) :
    pushed (new limit) (header ++ later) = [] := by
  obtain rfl | ⟨first, b, rfl⟩ := List.eq_nil_or_concat header
  · cases hlen
  · rw [List.concat_eq_append, List.length_append] at hlen
    obtain ⟨d, hfst, hd⟩ := feedLoop_short limit
      (show first.length < kFrameHeaderSize from Nat.lt_of_succ_le (Nat.le_of_eq hlen))
    rw [List.concat_eq_append, feedLoop_append, hfst, continued, behind_nil] at h
    rw [List.concat_eq_append, List.append_assoc, pushed_append rfl hfst, List.nil_append,
      List.singleton_append, pushed, feed_of_live hd, h]

/-! ## One frame -/

/-- A new decoder that has read a header, and waits for a payload of that length. -/
structure Awaits (limit : Nat) (n : Nat) (d : FrameDecoder) : Prop where
  reading : d.readingPayload = true
  empty : d.payload = []
  size : d.expectedPayloadSize.toNat = n
  live : d.failureCode = none
  reset : d.resetCurrentFrame = new limit

theorem Awaits.feedLoop {n : Nat} (h : Awaits limit n d) (hlen : bytes.length = n) :
    d.feedLoop bytes = (.ok [d.currentFrame bytes], new limit) := by
  have hlt := d.payload_lt h.reading
  have hne : bytes ≠ [] := by
    rintro rfl
    rw [h.empty, h.size, hlen] at hlt
    exact Nat.lt_irrefl _ hlt
  have hfull : d.readPayload (bytes ++ []) = _ :=
    readPayload_full (by rw [h.empty, h.size]; exact hlen)
  rw [List.append_nil, h.empty, h.reset] at hfull
  exact feedLoop_turn hne (by rw [readSome_payload h.reading, hfull]; rfl)

theorem Awaits.pushed {n : Nat} (h : Awaits limit n d) (hlen : bytes.length < n) :
    pushed d bytes = [] := by
  have hs := readPayload_short (d := d) (show (d.payload ++ bytes).length < _ by
    rw [h.empty, h.size]; exact hlen)
  by_cases hne : bytes = []
  · rw [hne, Remote.pushed]
  · exact pushed_of_ok h.live (feedLoop_turn hne (by rw [readSome_payload h.reading, hs]))

/-- What a new decoder makes of a header. -/
def HeaderRead (limit : Nat) (header : Bytes) : Result (List Frame) × FrameDecoder → Prop
  | (.error e, _) => e.code ≠ .internalError
  | (.ok [], d) => Awaits limit (payloadLengthFromHeader header) d
  | (.ok (frame :: more), d) => frame.payload = [] ∧ more = [] ∧ d = new limit

theorem parseHeader_new (limit : Nat) (hlen : header.length = kFrameHeaderSize) :
    (∃ e d, (new limit).parseHeader header = (.error e, d) ∧ e.code ≠ .internalError) ∨
    ∃ d, (new limit).parseHeader header = (.ok (), d) ∧ d.resetCurrentFrame = new limit ∧
      d.expectedPayloadSize.toNat = payloadLengthFromHeader header ∧ d.failureCode = none := by
  have hf : ((header.drop 12).take 4).length = 4 := by
    rw [List.length_take, List.length_drop, hlen]
    rfl
  have hval := Wire.value_lt ((header.drop 12).take 4)
  rw [hf] at hval
  unfold parseHeader
  split
  · exact .inl ⟨_, _, rfl, by decide⟩
  split
  · exact .inl ⟨_, _, rfl, by decide⟩
  split
  · exact .inl ⟨_, _, rfl, by decide⟩
  split
  · exact .inl ⟨_, _, rfl, by decide⟩
  split
  · exact .inl ⟨_, _, rfl, by decide⟩
  · exact .inr ⟨_, rfl, rfl, u32.toNat_ofNat _ hval, rfl⟩

theorem headerRead (limit : Nat) (hlen : header.length = kFrameHeaderSize) :
    HeaderRead limit header ((new limit).feedLoop header) := by
  have hne : header ≠ [] := by
    rintro rfl
    cases hlen
  have ht : (new limit).readSome (header ++ []) = (new limit).readHeader header [] :=
    readSome_full rfl hlen
  rw [List.append_nil, readHeader] at ht
  rcases parseHeader_new limit hlen with ⟨e, d, hp, he⟩ | ⟨d, hp, hres, hs, hl⟩
  · rw [hp] at ht
    rw [feedLoop_error hne ht]
    exact he
  · rw [hp] at ht
    by_cases hz : d.expectedPayloadSize = 0
    · simp only [dif_pos hz] at ht
      rw [feedLoop_turn hne ht]
      exact ⟨rfl, rfl, hres⟩
    · have hb : (d.beginPayload hz).readPayload [] = (d.beginPayload hz, [], []) :=
        readPayload_short (nil_lt_expected hz)
      simp only [dif_neg hz, hb] at ht
      rw [feedLoop_turn hne ht]
      exact ⟨rfl, rfl, hs, hl, hres⟩

/-- **One call**, against a decoder that is fed the whole stream. -/
def Agrees (limit : Nat) (stream : List Bytes) : Result Frame × List Bytes → Prop
  | (.ok frame, rest) =>
    (∃ header, header.length = kFrameHeaderSize ∧
      stream.flatten = header ++ (frame.payload ++ rest.flatten)) ∧
    pushed (new limit) stream.flatten = frame :: pushed (new limit) rest.flatten
  | (.error e, _) => e.code ≠ .internalError ∧ pushed (new limit) stream.flatten = []

theorem agrees_asyncReadFrame (limit : Nat) (stream : List Bytes) :
    Agrees limit stream (asyncReadFrame limit stream) := by
  unfold asyncReadFrame
  rcases hh : readExact kFrameHeaderSize stream with ⟨_ | header, rest⟩
  · obtain ⟨d, hloop, -⟩ := feedLoop_short limit (readExact_eq_none hh)
    exact ⟨nofun, pushed_of_ok rfl hloop⟩
  obtain ⟨hflat, hlen⟩ := readExact_eq_some hh
  have hrd := headerRead limit hlen
  simp only [show (new limit).feed header = (new limit).feedLoop header from feed_of_live rfl]
  rcases hloop : (new limit).feedLoop header with ⟨_ | _ | ⟨frame, more⟩, d⟩
  · rw [hloop] at hrd
    exact ⟨hrd, hflat ▸ pushed_of_error hlen hloop _⟩
  · rw [hloop] at hrd
    rcases hr : readExact (payloadLengthFromHeader header) rest with ⟨_ | payload, behind⟩
    · refine ⟨nofun, ?_⟩
      rw [hflat, pushed_append rfl hloop]
      exact hrd.pushed (readExact_eq_none hr)
    · obtain ⟨hre, hpay⟩ := readExact_eq_some hr
      have hn := hrd.feedLoop hpay
      simp only [feed_of_live hrd.live, hn]
      refine ⟨⟨header, hlen, hflat.trans (congrArg _ hre)⟩, ?_⟩
      rw [hflat, hre, pushed_append rfl hloop, pushed_append hrd.live hn]
      rfl
  · rw [hloop] at hrd
    obtain ⟨hpay, rfl, rfl⟩ := hrd
    refine ⟨⟨header, hlen, ?_⟩, hflat ▸ pushed_append rfl hloop _⟩
    rw [hpay]
    exact hflat

/-! ## The whole stream -/

theorem agrees_of {r : Result Frame × List Bytes} (h : asyncReadFrame limit stream = r) :
    Agrees limit stream r :=
  h ▸ agrees_asyncReadFrame limit stream

theorem length_asyncReadFrame_lt (h : asyncReadFrame limit stream = (.ok frame, rest)) :
    rest.flatten.length < stream.flatten.length := by
  obtain ⟨⟨header, hlen, hflat⟩, -⟩ := agrees_of h
  rw [hflat, List.length_append, List.length_append, hlen, kFrameHeaderSize]
  omega

/-- The frames of `async_read_frame`, called until it fails. -/
def readFrames (maxFrameSize : Nat) (stream : List Bytes) : List Frame :=
  match hread : asyncReadFrame maxFrameSize stream with
  | (.error _, _) => []
  | (.ok frame, rest) =>
    have := length_asyncReadFrame_lt hread
    frame :: readFrames maxFrameSize rest
termination_by stream.flatten.length
decreasing_by assumption

theorem readFrames_eq (limit : Nat) (stream : List Bytes) :
    readFrames limit stream = pushed (new limit) stream.flatten := by
  induction stream using readFrames.induct limit with
  | case1 stream e rest h =>
    rw [readFrames, (agrees_of h).2]
    split
    · rfl
    · next heq => cases h.symm.trans heq
  | case2 stream frame rest h _ ih =>
    rw [readFrames, (agrees_of h).2, ← ih]
    split
    · next heq => cases h.symm.trans heq
    · next heq => cases h.symm.trans heq; rfl

theorem encodeBatch_eq_ok {frms : List Frame} {batch : Bytes}
    (h : encodeBatch limit frms batch = .ok bytes) :
    ∃ encodings, List.Forall₂ (fun frame bytes => encodeFrame frame limit = .ok bytes) frms
      encodings ∧ bytes = batch ++ encodings.flatten := by
  induction frms generalizing batch with
  | nil =>
    cases h
    exact ⟨[], .nil, (List.append_nil _).symm⟩
  | cons frame frms ih =>
    obtain ⟨encoded, he, h⟩ := bind_eq_ok.1 h
    obtain ⟨encodings, hall, rfl⟩ := ih (guard_eq_ok.1 h).2
    exact ⟨encoded :: encodings, .cons he hall, by rw [List.flatten_cons, List.append_assoc]⟩

/-- **The two readers agree.**  Read call by call, a stream gives the frames one decoder gives;
a call takes the header and the payload of its frame and never ends in an internal error; and
what is written at once is read as the frames that were written. -/
theorem frame_readers_agree (limit : Nat) :
    (∀ stream, readFrames limit stream = pushed (new limit) stream.flatten) ∧
    (∀ stream frame rest, asyncReadFrame limit stream = (.ok frame, rest) →
      ∃ header, header.length = kFrameHeaderSize ∧
        stream.flatten = header ++ (frame.payload ++ rest.flatten)) ∧
    (∀ stream e rest, asyncReadFrame limit stream = (.error e, rest) → e.code ≠ .internalError) ∧
    ∀ frames bytes, asyncWriteFrames frames limit = .ok bytes →
      pushed (new limit) bytes = frames ∧
        ∀ stream, stream.flatten = bytes → readFrames limit stream = frames := by
  refine ⟨readFrames_eq limit, ?_, ?_, ?_⟩
  · intro stream frame rest h
    exact (agrees_of h).1
  · intro stream e rest h
    exact (agrees_of h).1
  · intro frames bytes h
    obtain ⟨encodings, hall, rfl⟩ := encodeBatch_eq_ok (guard_eq_ok.1 h).2
    have hp := pushed_of_ok rfl (feedLoop_frames hall)
    refine ⟨hp, fun stream hs => ?_⟩
    rw [readFrames_eq, hs]
    exact hp

end MiniTun.Remote
