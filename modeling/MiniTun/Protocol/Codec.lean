import MiniTun.Common.Bytes
import MiniTun.Common.Result
import MiniTun.Lib.Wire

/-!
# Payload fields

`protocol::PayloadWriter`, `protocol::PayloadReader` and `is_valid_utf8`.  A writer
keeps its limit, the bytes written so far and the first failure.  A reader is the
part of the payload it has not consumed; a read that fails leaves it where it
was, except that `read_string` has consumed the field whose text it rejects.
-/

namespace MiniTun.Protocol

def kFrameHeaderSize : Nat := 24

def kMaxFrameSize : Nat := 64 * 1024

def kMaxPayloadSize : Nat := kMaxFrameSize - kFrameHeaderSize

/-! ## Text -/

/-- One step of the loop over the continuation bytes. -/
def appendContinuation (codePoint : Nat) (continuation : UInt8) : Nat :=
  codePoint <<< 6 ||| (continuation &&& 0x3f).toNat

/-- What a sequence has to satisfy: continuation bytes throughout, no overlong
form, no surrogate, nothing beyond the last code point. -/
def validSequence (lead minimum : Nat) (continuations : Bytes) : Bool :=
  let codePoint := continuations.foldl appendContinuation lead
  continuations.all (fun c => c &&& 0xc0 = 0x80) &&
    !(codePoint < minimum || codePoint > 0x10ffff ||
      (codePoint ≥ 0xd800 && codePoint ≤ 0xdfff))

def isValidUtf8 : Bytes → Bool
  | [] => true
  | first :: rest =>
    if first ≤ 0x7f then isValidUtf8 rest
    else if first &&& 0xe0 = 0xc0 then
      match rest with
      | c₁ :: rest => validSequence (first &&& 0x1f).toNat 0x80 [c₁] && isValidUtf8 rest
      | _ => false
    else if first &&& 0xf0 = 0xe0 then
      match rest with
      | c₁ :: c₂ :: rest =>
        validSequence (first &&& 0x0f).toNat 0x800 [c₁, c₂] && isValidUtf8 rest
      | _ => false
    else if first &&& 0xf8 = 0xf0 then
      match rest with
      | c₁ :: c₂ :: c₃ :: rest =>
        validSequence (first &&& 0x07).toNat 0x10000 [c₁, c₂, c₃] && isValidUtf8 rest
      | _ => false
    else false

/-- What a string field may hold. -/
def isText (value : Bytes) : Bool :=
  isValidUtf8 value && !value.contains 0

/-! ## Words -/

def u8 : Wire.Word 1 UInt8 where
  toNat := UInt8.toNat
  ofNat := UInt8.ofNat
  toNat_lt w := w.toNat_lt
  ofNat_toNat w := by simp
  toNat_ofNat n h := by simpa using Nat.mod_eq_of_lt h

def u16 : Wire.Word 2 UInt16 where
  toNat := UInt16.toNat
  ofNat := UInt16.ofNat
  toNat_lt w := w.toNat_lt
  ofNat_toNat w := by simp
  toNat_ofNat n h := by simpa using Nat.mod_eq_of_lt h

def u32 : Wire.Word 4 UInt32 where
  toNat := UInt32.toNat
  ofNat := UInt32.ofNat
  toNat_lt w := w.toNat_lt
  ofNat_toNat w := by simp
  toNat_ofNat n h := by simpa using Nat.mod_eq_of_lt h

def u64 : Wire.Word 8 UInt64 where
  toNat := UInt64.toNat
  ofNat := UInt64.ofNat
  toNat_lt w := w.toNat_lt
  ofNat_toNat w := by simp
  toNat_ofNat n h := by simpa using Nat.mod_eq_of_lt h

/-! ## Writing -/

structure PayloadWriter where
  maxPayloadSize : Nat
  bytes : Bytes
  failure : Option Error

namespace PayloadWriter

def new (maxPayloadSize : Nat) : PayloadWriter :=
  ⟨min maxPayloadSize kMaxPayloadSize, [], none⟩

variable (w : PayloadWriter)

/-- `PayloadWriter::fail`: the first failure is the one that is kept. -/
def fail (code : ErrorCode) (message : String) : Result Unit × PayloadWriter :=
  match w.failure with
  | some e => (.error e, w)
  | none => (MiniTun.failure code message, { w with failure := some ⟨code, message⟩ })

variable (value : Bytes)

def append : Result Unit × PayloadWriter :=
  match w.failure with
  | some e => (.error e, w)
  | none =>
    if value.length > w.maxPayloadSize - min w.bytes.length w.maxPayloadSize then
      w.fail .frameTooLarge "remote message payload exceeds the configured size limit"
    else (.ok (), { w with bytes := w.bytes ++ value })

def writeU8 (value : UInt8) := w.append (u8.encode value)

def writeU16 (value : UInt16) := w.append (u16.encode value)

def writeU32 (value : UInt32) := w.append (u32.encode value)

def writeU64 (value : UInt64) := w.append (u64.encode value)

def writeBytes : Result Unit × PayloadWriter :=
  if value.length > 0xffff then
    w.fail .invalidArgument "remote message byte field exceeds the protocol limit"
  else match w.writeU16 value.length.toUInt16 with
    | (.error e, w) => (.error e, w)
    | (.ok (), w) => w.append value

def writeString : Result Unit × PayloadWriter :=
  if !isText value then
    w.fail .invalidArgument "remote message string field is not valid UTF-8 text"
  else w.writeBytes value

def finish : Result Bytes :=
  match w.failure with
  | some e => .error e
  | none => .ok w.bytes

end PayloadWriter

/-- `if (!written) return written.error()`: the writer is used further only after
a success. -/
def PayloadWriter.written : Result Unit × PayloadWriter → Result PayloadWriter
  | (.ok _, w) => .ok w
  | (.error e, _) => .error e

/-- The same for a read, which has a value besides. -/
def orReturn {α σ : Type} : Result α × σ → Result (α × σ)
  | (.ok a, s) => .ok (a, s)
  | (.error e, _) => .error e

/-! ## Reading -/

def truncatedPayloadError : Error :=
  ⟨.protocolError, "remote message payload ended before a field was complete"⟩

namespace PayloadReader

/-- The reads of one word, which differ in its width only. -/
def readWord {width : Nat} {W : Type} (word : Wire.Word width W) (reader : Bytes) :
    Result W × Bytes :=
  if reader.length < width then (.error truncatedPayloadError, reader)
  else (.ok (word.decode (reader.take width)), reader.drop width)

def readU8 := readWord u8

def readU16 := readWord u16

def readU32 := readWord u32

def readU64 := readWord u64

def readBytes (maxLength : Nat) (reader : Bytes) : Result Bytes × Bytes :=
  if reader.length < 2 then (.error truncatedPayloadError, reader)
  else
    let length := Wire.value (reader.take 2)
    if length > maxLength then
      (failure .protocolError "remote message byte field exceeds the permitted length", reader)
    else if reader.length - 2 < length then (.error truncatedPayloadError, reader)
    else (.ok ((reader.drop 2).take length), (reader.drop 2).drop length)

def readString (maxLength : Nat) (reader : Bytes) : Result Bytes × Bytes :=
  match readBytes maxLength reader with
  | (.error e, rest) => (.error e, rest)
  | (.ok text, rest) =>
    if isText text then (.ok text, rest)
    else (failure .protocolError "remote message string field is not valid UTF-8 text", rest)

def requireEnd (reader : Bytes) : Result Unit :=
  if reader.length ≠ 0 then
    failure .protocolError "remote message payload contains trailing bytes"
  else .ok ()

end PayloadReader

/-! ## The layout of a field -/

/-- A byte field: its length in two bytes, then the bytes. -/
def bytesField (value : Bytes) : Bytes :=
  Wire.bigEndian 2 value.length ++ value

@[simp] theorem length_bytesField (val : Bytes) :
    (bytesField val).length = val.length + 2 := by
  simp [bytesField, Nat.add_comm]

theorem orReturn_eq_ok {α σ : Type} {r : Result α × σ} {a : α} {s : σ} :
    orReturn r = .ok (a, s) ↔ r = (.ok a, s) := by
  obtain ⟨r, t⟩ := r
  cases r with
  | error e => simp [orReturn]
  | ok b => simp [orReturn]

namespace PayloadWriter

/-- A writer of the default limit that has not failed. -/
def holding (bytes : Bytes) : PayloadWriter :=
  ⟨kMaxPayloadSize, bytes, none⟩

/-- The room that is left admits the field. -/
def Fits (bytes field : Bytes) : Prop :=
  field.length ≤ kMaxPayloadSize - min bytes.length kMaxPayloadSize

theorem new_eq_holding : new kMaxPayloadSize = holding [] := by
  simp [new, holding]

variable {bytes field val : Bytes} {w : PayloadWriter}

@[simp] theorem finish_holding (bytes : Bytes) : (holding bytes).finish = .ok bytes := rfl

theorem append_of_fits (h : Fits bytes field) :
    (holding bytes).append field = (.ok (), holding (bytes ++ field)) :=
  if_neg (Nat.not_lt.2 h)

theorem append_of_not_fits (h : ¬ Fits bytes field) :
    ∃ e w, (holding bytes).append field = (.error e, w) :=
  ⟨_, _, if_pos (Nat.lt_of_not_le h)⟩

theorem fits_iff_room (h : field ≠ []) :
    Fits bytes field ↔ bytes.length + field.length ≤ kMaxPayloadSize := by
  have hpos : 0 < field.length := List.length_pos_iff.2 h
  unfold Fits
  omega

theorem written_append :
    written ((holding bytes).append field) = .ok w ↔
      Fits bytes field ∧ w = holding (bytes ++ field) := by
  by_cases h : Fits bytes field
  · simp [append_of_fits h, written, h, eq_comm]
  · obtain ⟨e, w', happ⟩ := append_of_not_fits h
    simp [happ, written, h]

theorem written_word {width : Nat} {W : Type} (word : Wire.Word width W) (hwid : 0 < width)
    {val : W} :
    written ((holding bytes).append (word.encode val)) = .ok w ↔
      bytes.length + width ≤ kMaxPayloadSize ∧ w = holding (bytes ++ word.encode val) := by
  have hne : word.encode val ≠ [] := by
    intro h
    have hlen := word.length_encode val
    rw [h, List.length_nil] at hlen
    omega
  rw [written_append, fits_iff_room hne, word.length_encode]

theorem written_writeU8 {val : UInt8} :
    written ((holding bytes).writeU8 val) = .ok w ↔
      bytes.length + 1 ≤ kMaxPayloadSize ∧ w = holding (bytes ++ u8.encode val) :=
  written_word u8 (by decide)

theorem written_writeU16 {val : UInt16} :
    written ((holding bytes).writeU16 val) = .ok w ↔
      bytes.length + 2 ≤ kMaxPayloadSize ∧ w = holding (bytes ++ u16.encode val) :=
  written_word u16 (by decide)

theorem written_writeU32 {val : UInt32} :
    written ((holding bytes).writeU32 val) = .ok w ↔
      bytes.length + 4 ≤ kMaxPayloadSize ∧ w = holding (bytes ++ u32.encode val) :=
  written_word u32 (by decide)

theorem written_writeU64 {val : UInt64} :
    written ((holding bytes).writeU64 val) = .ok w ↔
      bytes.length + 8 ≤ kMaxPayloadSize ∧ w = holding (bytes ++ u64.encode val) :=
  written_word u64 (by decide)

theorem u16_encode_length (h : val.length ≤ 0xffff) :
    u16.encode val.length.toUInt16 = Wire.bigEndian 2 val.length := by
  have hmod : val.length % 65536 = val.length := Nat.mod_eq_of_lt (by omega)
  simp [Wire.Word.encode, u16, hmod]

theorem written_writeBytes :
    written ((holding bytes).writeBytes val) = .ok w ↔
      bytes.length + val.length + 2 ≤ kMaxPayloadSize ∧
        w = holding (bytes ++ bytesField val) := by
  by_cases hs : val.length ≤ 0xffff
  · have he := u16_encode_length hs
    have htwo : (Wire.bigEndian 2 val.length).length = 2 := Wire.length_bigEndian 2 _
    have hne : Wire.bigEndian 2 val.length ≠ [] := by
      intro h
      simp [h] at htwo
    rw [writeBytes, if_neg (Nat.not_lt.2 hs), writeU16, he]
    by_cases hfst : Fits bytes (Wire.bigEndian 2 val.length)
    · have hr := (fits_iff_room hne).1 hfst
      rw [append_of_fits hfst]
      simp only [written_append, Fits, List.length_append, List.append_assoc]
      exact and_congr_left' (by omega)
    · obtain ⟨e, w', happ⟩ := append_of_not_fits hfst
      have hr := mt (fits_iff_room hne).2 hfst
      simp only [happ, written, reduceCtorEq, false_iff]
      omega
  · have hmax : ¬ bytes.length + val.length + 2 ≤ kMaxPayloadSize := by
      simp only [kMaxPayloadSize, kMaxFrameSize]
      omega
    simp [writeBytes, fail, holding, written, MiniTun.failure, hmax, Nat.lt_of_not_le hs]

theorem written_writeString :
    written ((holding bytes).writeString val) = .ok w ↔
      isText val = true ∧ bytes.length + val.length + 2 ≤ kMaxPayloadSize ∧
        w = holding (bytes ++ bytesField val) := by
  by_cases h : isText val = true
  · simp [writeString, h, written_writeBytes]
  · simp [writeString, h, fail, holding, written, MiniTun.failure]

end PayloadWriter

namespace PayloadReader

theorem readWord_reads {width : Nat} {W : Type} (word : Wire.Word width W) :
    Wire.Reads (readWord word) (fun _ => True) word.encode := by
  intro rdr w rest
  unfold readWord
  constructor
  · intro h
    by_cases hlen : rdr.length < width
    · simp [hlen] at h
    · rw [if_neg hlen] at h
      obtain ⟨rfl, rfl⟩ := h
      have htake : (rdr.take width).length = width := by
        rw [List.length_take]
        omega
      rw [word.encode_decode htake, List.take_append_drop]
      exact ⟨trivial, rfl⟩
  · rintro ⟨-, rfl⟩
    have hlen := word.length_encode w
    rw [if_neg (by simp), List.take_left' hlen, List.drop_left' hlen, word.decode_encode]

theorem readBytes_reads (maxLength : Nat) :
    Wire.Reads (readBytes maxLength) (fun v => v.length ≤ maxLength ∧ v.length ≤ 0xffff)
      bytesField := by
  intro rdr v rest
  unfold readBytes
  constructor
  · intro h
    by_cases hs : rdr.length < 2
    · simp [hs] at h
    rw [if_neg hs] at h
    have htwo : (rdr.take 2).length = 2 := by
      rw [List.length_take]
      omega
    have hlt := Wire.value_lt (rdr.take 2)
    rw [htwo] at hlt
    by_cases hmax : Wire.value (rdr.take 2) > maxLength
    · simp [hmax, failure] at h
    by_cases hr : rdr.length - 2 < Wire.value (rdr.take 2)
    · simp [hmax, hr] at h
    simp only [if_neg hmax, if_neg hr] at h
    obtain ⟨rfl, rfl⟩ := h
    have hlen : ((rdr.drop 2).take (Wire.value (rdr.take 2))).length = Wire.value (rdr.take 2) := by
      rw [List.length_take, List.length_drop]
      omega
    refine ⟨⟨by omega, by omega⟩, ?_⟩
    rw [bytesField, hlen, Wire.bigEndian_value htwo, List.append_assoc,
      List.take_append_drop, List.take_append_drop]
  · rintro ⟨⟨hmax, hb⟩, rfl⟩
    have htwo : (Wire.bigEndian 2 v.length).length = 2 := Wire.length_bigEndian 2 v.length
    have htake : (bytesField v ++ rest).take 2 = Wire.bigEndian 2 v.length := by
      rw [bytesField, List.append_assoc, List.take_left' htwo]
    have hdrop : (bytesField v ++ rest).drop 2 = v ++ rest := by
      rw [bytesField, List.append_assoc, List.drop_left' htwo]
    have hval : Wire.value (Wire.bigEndian 2 v.length) = v.length := by
      rw [Wire.value_bigEndian]
      exact Nat.mod_eq_of_lt (by omega)
    have hlen : (bytesField v ++ rest).length = v.length + 2 + rest.length := by simp
    simp only [htake, hdrop, hval]
    rw [if_neg (by omega), if_neg (by omega), if_neg (by omega), List.take_left, List.drop_left]

theorem readString_reads (maxLength : Nat) :
    Wire.Reads (readString maxLength)
      (fun v => (v.length ≤ maxLength ∧ v.length ≤ 0xffff) ∧ isText v = true) bytesField := by
  intro rdr v rest
  have hrd := readBytes_reads maxLength rdr
  unfold readString
  constructor
  · intro h
    rcases hr : readBytes maxLength rdr with ⟨r, rest'⟩
    cases r with
    | error e => simp [hr] at h
    | ok text =>
      by_cases ht : isText text = true
      · simp only [hr, if_pos ht, Prod.mk.injEq, Except.ok.injEq] at h
        obtain ⟨rfl, rfl⟩ := h
        obtain ⟨hb, hl⟩ := (hrd text rest').1 hr
        exact ⟨⟨hb, ht⟩, hl⟩
      · simp [hr, ht, failure] at h
  · rintro ⟨⟨hb, ht⟩, hl⟩
    rw [(hrd v rest).2 ⟨hb, hl⟩]
    simp [ht]

theorem requireEnd_eq_ok {rdr : Bytes} : requireEnd rdr = .ok () ↔ rdr = [] := by
  unfold requireEnd
  by_cases h : rdr = []
  · simp [h]
  · simp [failure]

end PayloadReader

end MiniTun.Protocol
