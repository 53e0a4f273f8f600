import MiniTun.Protocol.Frame

/-!
# Frames in chunks

The bytes of a connection reach the decoder in pieces that have nothing to do with
frames.  A turn of its loop takes as many bytes as it can use, so the turns differ
from one chunking to another; that one byte and the bytes behind it may as well be
fed apart (`feedLoop_cons`) is what makes the chunking irrelevant.
-/

namespace MiniTun.Remote

open MiniTun.Protocol

namespace FrameDecoder

variable {d d' : FrameDecoder} {b : UInt8} {bytes : Bytes}

/-! ## One byte apart from those behind it -/

theorem feedLoop_nil : d.feedLoop [] = (.ok [], d) := by
  rw [feedLoop, dif_pos rfl]

theorem feedLoop_error {e : Error} (hne : bytes ≠ []) (h : d.readSome bytes = .error (e, d')) :
    d.feedLoop bytes = (.error e, d') := by
  rw [feedLoop, dif_neg hne]
  split
  · next heq =>
    cases h.symm.trans heq
    rfl
  · next heq => cases h.symm.trans heq

theorem feedLoop_ok {made : List Frame} {rest : Bytes} (hne : bytes ≠ [])
    (h : d.readSome bytes = .ok (d', made, rest)) :
    d.feedLoop bytes = behind made (d'.feedLoop rest) := by
  rw [feedLoop, dif_neg hne]
  split
  · next heq => cases h.symm.trans heq
  · next heq =>
    cases h.symm.trans heq
    rfl

section Continued

variable (r : Result (List Frame) × FrameDecoder)

@[simp] theorem behind_nil : behind [] r = r := by
  obtain ⟨r, d⟩ := r
  cases r with
  | ok frms => rfl
  | error e => rfl

theorem behind_append (made frms : List Frame) (r : Result (List Frame) × FrameDecoder) :
    behind (made ++ frms) r = behind made (behind frms r) := by
  obtain ⟨r, d⟩ := r
  cases r with
  | ok later => simp [behind]
  | error e => rfl

/-- The decoder with another part of the payload, which is not yet all of it. -/
def withPayload (d : FrameDecoder) (payload : Bytes)
    (h : payload.length < d.expectedPayloadSize.toNat) : FrameDecoder :=
  { d with payload, payload_lt := fun _ => h }

/-- The decoder with another part of the header. -/
def withHeader (d : FrameDecoder) (header : Bytes) (h : header.length < kFrameHeaderSize) :
    FrameDecoder :=
  { d with header, header_lt := h }

theorem readPayload_short (h : (d.payload ++ bytes).length < d.expectedPayloadSize.toNat) :
    d.readPayload bytes = (d.withPayload (d.payload ++ bytes) h, [], []) := by
  have hc : min bytes.length (d.expectedPayloadSize.toNat - d.payload.length) =
      bytes.length := by
    rw [List.length_append] at h
    omega
  unfold readPayload
  simp only [hc, List.take_length, List.drop_length]
  rw [dif_neg (Nat.ne_of_lt h)]
  rfl

theorem readPayload_full {pay : Bytes}
    (h : (d.payload ++ pay).length = d.expectedPayloadSize.toNat) :
    d.readPayload (pay ++ bytes) =
      (d.resetCurrentFrame, [d.currentFrame (d.payload ++ pay)], bytes) := by
  have hc : min (pay ++ bytes).length (d.expectedPayloadSize.toNat - d.payload.length) =
      pay.length := by
    rw [List.length_append] at h ⊢
    omega
  unfold readPayload
  simp only [hc, List.take_left, List.drop_left]
  rw [dif_pos h]

theorem readPayload_cons (h : (d.payload ++ [b]).length < d.expectedPayloadSize.toNat) :
    d.readPayload (b :: bytes) = (d.withPayload (d.payload ++ [b]) h).readPayload bytes := by
  by_cases hs : (d.payload ++ b :: bytes).length < d.expectedPayloadSize.toNat
  · rw [readPayload_short hs, readPayload_short (by simpa [withPayload] using hs)]
    simp [withPayload]
  · -- The payload ends within these bytes, at the same place in both.
    obtain ⟨first, rest, rfl, hfst⟩ : ∃ first rest, bytes = first ++ rest ∧
        (d.payload ++ b :: first).length = d.expectedPayloadSize.toNat := by
      refine ⟨bytes.take (d.expectedPayloadSize.toNat - d.payload.length - 1), _,
        (List.take_append_drop _ _).symm, ?_⟩
      simp only [List.length_append, List.length_cons, List.length_take] at h hs ⊢
      omega
    rw [← List.cons_append, readPayload_full hfst,
      readPayload_full (by simpa [withPayload] using hfst)]
    simp [withPayload, resetCurrentFrame, currentFrame]

theorem readSome_payload (hr : d.readingPayload = true) :
    d.readSome bytes = .ok (d.readPayload bytes) := by
  rw [readSome, if_pos hr]

theorem readSome_short (hh : d.readingPayload = false)
    (h : (d.header ++ bytes).length < kFrameHeaderSize) :
    d.readSome bytes = .ok (d.withHeader (d.header ++ bytes) h, [], []) := by
  have hc : min bytes.length (kFrameHeaderSize - d.header.length) = bytes.length := by
    rw [List.length_append] at h
    omega
  unfold readSome
  rw [if_neg (by simp [hh])]
  simp only [hc, List.take_length, List.drop_length]
  rw [dif_pos (Nat.ne_of_lt h)]
  rfl

theorem readSome_full {header : Bytes} (hh : d.readingPayload = false)
    (h : (d.header ++ header).length = kFrameHeaderSize) :
    d.readSome (header ++ bytes) = d.readHeader (d.header ++ header) bytes := by
  have hc : min (header ++ bytes).length (kFrameHeaderSize - d.header.length) =
      header.length := by
    rw [List.length_append] at h ⊢
    omega
  unfold readSome
  rw [if_neg (by simp [hh])]
  simp only [hc, List.take_left, List.drop_left]
  rw [dif_neg (not_not.2 h)]

theorem readSome_cons (hh : d.readingPayload = false)
    (h : (d.header ++ [b]).length < kFrameHeaderSize) :
    d.readSome (b :: bytes) = (d.withHeader (d.header ++ [b]) h).readSome bytes := by
  have ha : (d.withHeader (d.header ++ [b]) h).readingPayload = false := hh
  by_cases hs : (d.header ++ b :: bytes).length < kFrameHeaderSize
  · rw [readSome_short hh hs, readSome_short ha (by simpa [withHeader] using hs)]
    simp [withHeader]
  · obtain ⟨first, rest, rfl, hfst⟩ : ∃ first rest, bytes = first ++ rest ∧
        (d.header ++ b :: first).length = kFrameHeaderSize := by
      refine ⟨bytes.take (kFrameHeaderSize - d.header.length - 1), _,
        (List.take_append_drop _ _).symm, ?_⟩
      simp only [List.length_append, List.length_cons, List.length_take] at h hs ⊢
      omega
    rw [← List.cons_append, readSome_full hh hfst,
      readSome_full ha (by simpa [withHeader] using hfst)]
    simp [withHeader, readHeader, parseHeader, fail, resetCurrentFrame]

/-- What a call and the calls behind it give together: a failure is final. -/
def continued (bytes : Bytes) : Result (List Frame) × FrameDecoder :=
  match r with
  | (.ok made, d) => behind made (d.feedLoop bytes)
  | (.error e, d) => (.error e, d)

theorem continued_nil : continued r [] = r := by
  obtain ⟨r, d⟩ := r
  cases r with
  | ok made => simp [continued, feedLoop_nil, behind]
  | error e => rfl

end Continued

theorem continued_behind (made : List Frame) (r : Result (List Frame) × FrameDecoder) :
    continued (behind made r) bytes = behind made (continued r bytes) := by
  obtain ⟨r, d⟩ := r
  cases r with
  | ok frms => exact behind_append made frms _
  | error e => rfl

theorem feedLoop_cons_of_absorbed (hb : bytes ≠ []) (hone : d.readSome [b] = .ok (d', [], []))
    (h : d.readSome (b :: bytes) = d'.readSome bytes) :
    d.feedLoop (b :: bytes) = continued (d.feedLoop [b]) bytes := by
  have hfst : d.feedLoop [b] = (.ok [], d') := by
    rw [feedLoop_ok (List.cons_ne_nil _ _) hone, behind_nil, feedLoop_nil]
  rw [hfst, continued, behind_nil]
  cases hr : d'.readSome bytes with
  | error failed =>
    rw [feedLoop_error (List.cons_ne_nil _ _) (h.trans hr), feedLoop_error hb hr]
  | ok made =>
    rw [feedLoop_ok (List.cons_ne_nil _ _) (h.trans hr), feedLoop_ok hb hr]

theorem feedLoop_cons_of_done {made : List Frame} (hone : d.readSome [b] = .ok (d', made, []))
    (h : d.readSome (b :: bytes) = .ok (d', made, bytes)) :
    d.feedLoop (b :: bytes) = continued (d.feedLoop [b]) bytes := by
  rw [feedLoop_ok (List.cons_ne_nil _ _) h, feedLoop_ok (List.cons_ne_nil _ _) hone,
    feedLoop_nil, continued_behind, continued, behind_nil]

/-- A byte that completes the header: the payload, if there is one, may as well be
read in the next turn. -/
theorem feedLoop_cons_of_header (hb : bytes ≠ []) (hh : d.readingPayload = false)
    (h : (d.header ++ [b]).length = kFrameHeaderSize) :
    d.feedLoop (b :: bytes) = continued (d.feedLoop [b]) bytes := by
  have hone : d.readSome [b] = d.readHeader (d.header ++ [b]) [] := by
    exact readSome_full hh h
  have hmany : d.readSome (b :: bytes) = d.readHeader (d.header ++ [b]) bytes :=
    readSome_full hh h
  unfold readHeader at hone hmany
  rcases hp : d.parseHeader (d.header ++ [b]) with ⟨parsed, d'⟩
  cases parsed with
  | error e =>
    simp only [hp] at hone hmany
    rw [feedLoop_error (List.cons_ne_nil _ _) hone, feedLoop_error (List.cons_ne_nil _ _) hmany,
      continued]
  | ok _ =>
    simp only [hp] at hone hmany
    by_cases hexp : d'.expectedPayloadSize = 0
    · rw [dif_pos hexp] at hone hmany
      exact feedLoop_cons_of_done hone hmany
    · rw [dif_neg hexp] at hone hmany
      have hbg : (d'.beginPayload hexp).readPayload [] =
          (d'.beginPayload hexp, [], []) :=
        readPayload_short (nil_lt_expected hexp)
      rw [hbg] at hone
      exact feedLoop_cons_of_absorbed hb hone (hmany.trans (readSome_payload rfl).symm)

theorem feedLoop_cons :
    d.feedLoop (b :: bytes) = continued (d.feedLoop [b]) bytes := by
  by_cases hb : bytes = []
  · rw [hb, continued_nil]
  cases hr : d.readingPayload with
  | true =>
    have hlt := d.payload_lt hr
    by_cases hl : (d.payload ++ [b]).length < d.expectedPayloadSize.toNat
    · have hone : d.readSome [b] = .ok (d.withPayload (d.payload ++ [b]) hl, [], []) := by
        rw [readSome_payload hr, readPayload_short hl]
      have ha : (d.withPayload (d.payload ++ [b]) hl).readingPayload = true := hr
      refine feedLoop_cons_of_absorbed hb hone ?_
      rw [readSome_payload hr, readPayload_cons hl, readSome_payload ha]
    · have hf : (d.payload ++ [b]).length = d.expectedPayloadSize.toNat := by
        simp only [List.length_append, List.length_cons, List.length_nil] at hl ⊢
        omega
      have hd : ∀ rest, d.readSome ([b] ++ rest) =
          .ok (d.resetCurrentFrame, [d.currentFrame (d.payload ++ [b])], rest) := by
        intro rest
        rw [readSome_payload hr, readPayload_full hf]
      exact feedLoop_cons_of_done (hd []) (hd bytes)
  | false =>
    have hlt := d.header_lt
    by_cases hl : (d.header ++ [b]).length < kFrameHeaderSize
    · exact feedLoop_cons_of_absorbed hb (readSome_short hr hl) (readSome_cons hr hl)
    · have hf : (d.header ++ [b]).length = kFrameHeaderSize := by
        simp only [List.length_append, List.length_cons, List.length_nil] at hl ⊢
        omega
      exact feedLoop_cons_of_header hb hr hf

theorem feedLoop_append (first : Bytes) :
    d.feedLoop (first ++ bytes) = continued (d.feedLoop first) bytes := by
  induction first generalizing d with
  | nil => rw [List.nil_append, feedLoop_nil, continued, behind_nil]
  | cons b first ih =>
    have hfst : d.feedLoop (b :: first) = continued (d.feedLoop [b]) first := feedLoop_cons
    rw [List.cons_append, feedLoop_cons, hfst]
    rcases d.feedLoop [b] with ⟨r, d'⟩
    cases r with
    | error e => rfl
    | ok made =>
      simp only [continued]
      rw [ih]
      exact (continued_behind made _).symm

/-! ## Failures are final -/

theorem failureCode_parseHeader (d : FrameDecoder) (header : Bytes) :
    (d.parseHeader header).2.failureCode =
      match (d.parseHeader header).1 with
      | .ok _ => d.failureCode
      | .error e => some e.code := by
  unfold parseHeader
  split
  · rfl
  split
  · rfl
  split
  · rfl
  split
  · rfl
  split
  · rfl
  · rfl

theorem failureCode_readPayload (d : FrameDecoder) (bytes : Bytes) :
    (d.readPayload bytes).1.failureCode = d.failureCode := by
  unfold readPayload
  simp only
  split
  · rfl
  · rfl

/-- A turn of the loop that fails leaves the code of its error behind, and one that
succeeds leaves no other code than there was. -/
def TurnRecorded (d : FrameDecoder) :
    Except (Error × FrameDecoder) (FrameDecoder × List Frame × Bytes) → Prop
  | .ok (d', _, _) => d'.failureCode = d.failureCode
  | .error (e, d') => d'.failureCode = some e.code

theorem turnRecorded_readHeader (header : Bytes) :
    d.TurnRecorded (d.readHeader header bytes) := by
  have hp := d.failureCode_parseHeader header
  unfold readHeader
  rcases hpr : d.parseHeader header with ⟨r, d'⟩
  rw [hpr] at hp
  cases r with
  | error e => exact hp
  | ok _ =>
    simp only
    by_cases hexp : d'.expectedPayloadSize = 0
    · rw [dif_pos hexp]
      exact hp
    · rw [dif_neg hexp]
      exact (failureCode_readPayload _ _).trans hp

theorem turnRecorded_readSome (d : FrameDecoder) (bytes : Bytes) :
    d.TurnRecorded (d.readSome bytes) := by
  unfold readSome
  by_cases hr : d.readingPayload = true
  · rw [if_pos hr]
    exact failureCode_readPayload d bytes
  · rw [if_neg hr]
    by_cases hs : (d.header ++ bytes.take (min bytes.length
        (kFrameHeaderSize - d.header.length))).length ≠ kFrameHeaderSize
    · simp only [dif_pos hs]
      rfl
    · simp only [dif_neg hs]
      exact turnRecorded_readHeader _

theorem failureCode_feedLoop (d : FrameDecoder) (bytes : Bytes) :
    (d.feedLoop bytes).2.failureCode =
      match (d.feedLoop bytes).1 with
      | .ok _ => d.failureCode
      | .error e => some e.code := by
  induction d, bytes using feedLoop.induct with
  | case1 d => rw [feedLoop_nil]
  | case2 d bytes hne e d' hr =>
    have hf := d.turnRecorded_readSome bytes
    rw [hr] at hf
    rw [feedLoop_error hne hr]
    exact hf
  | case3 d bytes hne d' made rest hr hlt ih =>
    have hk := d.turnRecorded_readSome bytes
    rw [hr] at hk
    rw [feedLoop_ok hne hr]
    rcases hre : d'.feedLoop rest with ⟨r, d''⟩
    rw [hre] at ih
    cases r with
    | ok frms => exact ih.trans hk
    | error e => exact ih

/-! ## Chunks -/

/-- The calls of `feed` for one chunk after the other, and the decoder behind them. -/
def feedChunks (d : FrameDecoder) : List Bytes → List (Result (List Frame)) × FrameDecoder
  | [] => ([], d)
  | chunk :: chunks =>
    let (r, d) := d.feed chunk
    let (rs, d) := d.feedChunks chunks
    (r :: rs, d)

theorem feed_of_live (h : d.failureCode = none) : d.feed bytes = d.feedLoop bytes := by
  rw [feed, h]

theorem feedChunks_failed {code : ErrorCode} (h : d.failureCode = some code)
    (chks : List Bytes) : (d.feedChunks chks).2 = d := by
  induction chks with
  | nil => rfl
  | cons chunk chks ih =>
    have hfeed : d.feed chunk = (.error (decoderError code), d) := by rw [feed, h]
    simp only [feedChunks, hfeed]
    exact ih

/-- The calls for some chunks give what one run of the loop over all of them gives. -/
theorem feedChunks_eq (hlv : d.failureCode = none) (chks : List Bytes) :
    (d.feedChunks chks).2 = (d.feedLoop chks.flatten).2 ∧
      ∀ frms, (d.feedLoop chks.flatten).1 = .ok frms →
        ∃ lists : List (List Frame), (d.feedChunks chks).1 = lists.map .ok ∧
          lists.flatten = frms := by
  induction chks generalizing d with
  | nil =>
    rw [List.flatten_nil, feedLoop_nil]
    refine ⟨rfl, fun frms h => ?_⟩
    cases h
    exact ⟨[], rfl, rfl⟩
  | cons chunk chks ih =>
    have hc := d.failureCode_feedLoop chunk
    rw [List.flatten_cons, feedLoop_append]
    simp only [feedChunks, feed_of_live hlv]
    rcases hch : d.feedLoop chunk with ⟨r, d₁⟩
    rw [hch] at hc
    cases r with
    | error e =>
      -- The rest of the chunks meets a decoder that has failed.
      exact ⟨feedChunks_failed hc chks, nofun⟩
    | ok made =>
      obtain ⟨hs, hl⟩ := ih (hc.trans hlv)
      simp only [continued]
      rcases hr : d₁.feedLoop chks.flatten with ⟨r, d₂⟩
      rw [hr] at hs hl
      cases r with
      | error e => exact ⟨hs, nofun⟩
      | ok later =>
        refine ⟨hs, fun frms h => ?_⟩
        cases h
        obtain ⟨lists, heq, rfl⟩ := hl later rfl
        exact ⟨made :: lists, congrArg (_ :: ·) heq, rfl⟩

/-! ## Encoded frames -/

variable {limit : Nat} {frame frm : Frame}

theorem length_frameHeader (frm : Frame) : (frameHeader frm).length = kFrameHeaderSize := by
  simp [frameHeader, kFrameHeaderSize]

/-- `encode_frame` accepts the frame. -/
structure Encodable (limit : Nat) (frame : Frame) : Prop where
  type : (messageTypeFromWire frame.type).isNone = false
  flags : frame.flags = 0
  size : frame.payload.length ≤ effectiveFrameLimit limit - kFrameHeaderSize
  width : frame.payload.length ≤ 0xffffffff

theorem encodeFrame_eq_ok {bytes : Bytes} :
    encodeFrame frm limit = .ok bytes ↔
      Encodable limit frm ∧ bytes = frameHeader frm ++ frm.payload := by
  unfold encodeFrame
  by_cases ht : (messageTypeFromWire frm.type).isNone = true
  · rw [if_pos ht]
    exact iff_of_false failure_ne_ok fun h => Bool.false_ne_true (h.1.type.symm.trans ht)
  by_cases hf : frm.flags = 0
  · by_cases hs : frm.payload.length > effectiveFrameLimit limit - kFrameHeaderSize ∨
        frm.payload.length > 0xffffffff
    · rw [if_neg ht, if_neg (not_not.2 hf), if_pos hs]
      refine iff_of_false failure_ne_ok fun h => ?_
      have hfits := h.1.size
      have hwid := h.1.width
      omega
    · rw [if_neg ht, if_neg (not_not.2 hf), if_neg hs, Except.ok.injEq]
      constructor
      · rintro rfl
        exact ⟨⟨Bool.eq_false_iff.2 ht, hf, by omega, by omega⟩, rfl⟩
      · rintro ⟨-, rfl⟩
        rfl
  · rw [if_neg ht, if_pos hf]
    exact iff_of_false failure_ne_ok fun h => hf h.1.flags

/-- The decoder between the header and the payload of a frame. -/
def expecting (limit : Nat) (frame : Frame) : FrameDecoder :=
  { new limit with
    expectedPayloadSize := frame.payload.length.toUInt32
    currentType := frame.type
    currentFlags := frame.flags
    currentRequestId := frame.requestId
    payload_lt := lt_of_not_reading }

theorem toNat_payloadSize (h : Encodable limit frm) :
    frm.payload.length.toUInt32.toNat = frm.payload.length := by
  have hwid := h.width
  apply UInt32.toNat_ofNat_of_lt'
  simp only [UInt32.size]
  omega

theorem parseHeader_frameHeader (h : Encodable limit frm) :
    (new limit).parseHeader (frameHeader frm) = (.ok (), expecting limit frm) := by
  have hm : u32.decode ((frameHeader frm).take 4) = kFrameMagic := by
    simp [frameHeader]
  have hv : u16.decode (((frameHeader frm).drop 4).take 2) = kProtocolVersion := by
    simp [frameHeader]
  have ht : u16.decode (((frameHeader frm).drop 6).take 2) = frm.type := by
    simp [frameHeader, List.drop_append, List.drop_eq_nil_of_le]
  have hf : u32.decode (((frameHeader frm).drop 8).take 4) = frm.flags := by
    simp [frameHeader, List.drop_append, List.drop_eq_nil_of_le]
  have hs : u32.decode (((frameHeader frm).drop 12).take 4) =
      frm.payload.length.toUInt32 := by
    simp [frameHeader, List.drop_append, List.drop_eq_nil_of_le]
  have hreq : u64.decode (((frameHeader frm).drop 16).take 8) = frm.requestId := by
    simp [frameHeader, List.drop_append, List.drop_eq_nil_of_le, List.take_of_length_le]
  have hno : ¬ (messageTypeFromWire frm.type).isNone = true := by
    rw [h.type]
    exact Bool.false_ne_true
  have hfits : ¬ frm.payload.length.toUInt32.toNat >
      (new limit).maxFrameSize - kFrameHeaderSize := by
    rw [toNat_payloadSize h]
    exact Nat.not_lt.2 h.size
  unfold parseHeader
  simp only [hm, hv, ht, hf, hs, hreq, if_neg hno, if_neg hfits]
  simp [expecting, new, h.flags]

theorem feedLoop_frame (h : Encodable limit frm) :
    (new limit).feedLoop (frameHeader frm ++ frm.payload ++ bytes) =
      behind [frm] ((new limit).feedLoop bytes) := by
  have ht : (new limit).readSome (frameHeader frm ++ (frm.payload ++ bytes)) =
      (new limit).readHeader (frameHeader frm) (frm.payload ++ bytes) :=
    readSome_full rfl (length_frameHeader frm)
  have hne : frameHeader frm ++ (frm.payload ++ bytes) ≠ [] := by
    intro hnil
    have := congrArg List.length hnil
    rw [List.length_append, length_frameHeader, List.length_nil, kFrameHeaderSize] at this
    omega
  rw [readHeader, parseHeader_frameHeader h] at ht
  simp only at ht
  rw [List.append_assoc]
  by_cases he : (expecting limit frm).expectedPayloadSize = 0
  · have hpay : frm.payload = [] := by
      have hs : frm.payload.length.toUInt32.toNat = 0 := congrArg UInt32.toNat he
      rw [toNat_payloadSize h] at hs
      exact List.length_eq_zero_iff.1 hs
    rw [dif_pos he] at ht
    rw [feedLoop_ok hne ht]
    have hf : (expecting limit frm).currentFrame [] = frm := by
      rw [← hpay]
      rfl
    rw [hf, hpay]
    rfl
  · rw [dif_neg he] at ht
    have hfu : (((expecting limit frm).beginPayload he).payload ++ frm.payload).length =
        ((expecting limit frm).beginPayload he).expectedPayloadSize.toNat :=
      (toNat_payloadSize h).symm
    rw [readPayload_full hfu] at ht
    rw [feedLoop_ok hne ht]
    rfl

theorem feedLoop_frames {frms : List Frame} {encodings : List Bytes}
    (h : List.Forall₂ (fun frm bytes => encodeFrame frm limit = .ok bytes) frms encodings) :
    (new limit).feedLoop encodings.flatten = (.ok frms, new limit) := by
  induction h with
  | nil => exact feedLoop_nil
  | cons hf _ ih =>
    obtain ⟨he, rfl⟩ := encodeFrame_eq_ok.1 hf
    rw [List.flatten_cons, feedLoop_frame he, ih]
    rfl

end FrameDecoder

open FrameDecoder

/-- What a connection's decoder makes of its bytes does not depend on how they arrive. -/
structure ChunkIndependent (limit : Nat) : Prop where
  /-- Encoded frames come out as they went in, and nothing is left over. -/
  frames : ∀ (frames : List Frame) (encodings chunks : List Bytes),
    List.Forall₂ (fun frame bytes => encodeFrame frame limit = .ok bytes) frames encodings →
    chunks.flatten = encodings.flatten →
    ∃ lists : List (List Frame), ((new limit).feedChunks chunks).1 = lists.map .ok ∧
      lists.flatten = frames ∧ ((new limit).feedChunks chunks).2.bufferedSize = 0 ∧
      ((new limit).feedChunks chunks).2.finish = .ok ()
  /-- Two chunkings of any bytes agree. -/
  bytes : ∀ chunks chunks' : List Bytes, chunks.flatten = chunks'.flatten →
    (∃ lists lists' : List (List Frame), ((new limit).feedChunks chunks).1 = lists.map .ok ∧
      ((new limit).feedChunks chunks').1 = lists'.map .ok ∧ lists.flatten = lists'.flatten ∧
      ((new limit).feedChunks chunks).2.finish = ((new limit).feedChunks chunks').2.finish) ∨
    ∃ code, ((new limit).feedChunks chunks).2.failureCode = some code ∧
      ((new limit).feedChunks chunks').2.failureCode = some code

theorem decoder_chunk_independent (limit : Nat) : ChunkIndependent limit where
  frames frames encodings chunks hencoded hcut := by
    obtain ⟨hstate, hlists⟩ := feedChunks_eq (d := new limit) rfl chunks
    rw [hcut, feedLoop_frames hencoded] at hstate hlists
    obtain ⟨lists, hcalls, hframes⟩ := hlists frames rfl
    rw [hstate]
    exact ⟨lists, hcalls, hframes, rfl, rfl⟩
  bytes chunks chunks' hcut := by
    obtain ⟨hstate, hlists⟩ := feedChunks_eq (d := new limit) rfl chunks
    obtain ⟨hstate', hlists'⟩ := feedChunks_eq (d := new limit) rfl chunks'
    have hcode := (new limit).failureCode_feedLoop chunks.flatten
    rw [← hcut] at hstate' hlists'
    rw [hstate, hstate']
    cases hloop : ((new limit).feedLoop chunks.flatten).1 with
    | ok frames =>
      obtain ⟨lists, hcalls, hframes⟩ := hlists frames hloop
      obtain ⟨lists', hcalls', hframes'⟩ := hlists' frames hloop
      exact .inl ⟨lists, lists', hcalls, hcalls', hframes.trans hframes'.symm, rfl⟩
    | error e =>
      rw [hloop] at hcode
      exact .inr ⟨e.code, hcode, hcode⟩

end MiniTun.Remote
