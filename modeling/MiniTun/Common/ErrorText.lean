import MiniTun.Common.Bytes
import MiniTun.Common.Result

/-!
# Error codes as the source stores them

`common::ErrorCode` is an enumeration over `std::uint8_t`, so a field of that type
can hold any byte, named or not.  `to_string` is total: a byte that names no
code is spelled like `internal_error`.  `error_code_from_string` only ever
returns named codes, so the two are inverse on those and not beyond.
-/

namespace MiniTun

/-- A value of type `common::ErrorCode`: any value of the underlying type. -/
abbrev RawErrorCode := UInt8

/-- The enumerators, in the order of the declaration. -/
def ErrorCode.all : List ErrorCode :=
  [.ok, .invalidArgument, .notFound, .alreadyExists, .permissionDenied, .notAuthenticated,
    .authenticationFailed, .connectionFailed, .connectionTimeout, .remotePortInUse,
    .localConnectFailed, .protocolError, .frameTooLarge, .unsupportedVersion,
    .resourceExhausted, .databaseError, .tlsError, .ipcError, .internalError]

def ErrorCode.raw (code : ErrorCode) : RawErrorCode :=
  (ErrorCode.all.idxOf code).toUInt8

def ErrorCode.text : ErrorCode → Bytes
  | .ok => ascii "ok"
  | .invalidArgument => ascii "invalid_argument"
  | .notFound => ascii "not_found"
  | .alreadyExists => ascii "already_exists"
  | .permissionDenied => ascii "permission_denied"
  | .notAuthenticated => ascii "not_authenticated"
  | .authenticationFailed => ascii "authentication_failed"
  | .connectionFailed => ascii "connection_failed"
  | .connectionTimeout => ascii "connection_timeout"
  | .remotePortInUse => ascii "remote_port_in_use"
  | .localConnectFailed => ascii "local_connect_failed"
  | .protocolError => ascii "protocol_error"
  | .frameTooLarge => ascii "frame_too_large"
  | .unsupportedVersion => ascii "unsupported_version"
  | .resourceExhausted => ascii "resource_exhausted"
  | .databaseError => ascii "database_error"
  | .tlsError => ascii "tls_error"
  | .ipcError => ascii "ipc_error"
  | .internalError => ascii "internal_error"

variable (code : RawErrorCode)

def namedErrorCode : Option ErrorCode :=
  ErrorCode.all.find? fun named => named.raw = code

def errorCodeToString : Bytes :=
  match namedErrorCode code with
  | some named => named.text
  | none => ascii "internal_error"

def errorCodeFromString (value : Bytes) : Option RawErrorCode :=
  (ErrorCode.all.find? fun named => named.text = value).map ErrorCode.raw

/-- The byte is that of an enumerator. -/
def IsNamedErrorCode : Prop :=
  (namedErrorCode code).isSome = true

instance (code : RawErrorCode) : Decidable (IsNamedErrorCode code) :=
  inferInstanceAs (Decidable ((namedErrorCode code).isSome = true))

theorem namedErrorCode_raw (code : ErrorCode) : namedErrorCode code.raw = some code := by
  cases code <;> decide

theorem raw_of_namedErrorCode {code : RawErrorCode} {named : ErrorCode}
    (h : namedErrorCode code = some named) : named.raw = code := by
  simpa using List.find?_some h

theorem find_text (code : ErrorCode) :
    ErrorCode.all.find? (fun named => named.text = code.text) = some code := by
  cases code <;> decide

/-- A spelling reads as a value exactly if the value is named and spelled that way. -/
theorem errorCodeFromString_eq_some_iff {val : Bytes} {code : RawErrorCode} :
    errorCodeFromString val = some code ↔
      IsNamedErrorCode code ∧ val = errorCodeToString code := by
  unfold errorCodeFromString IsNamedErrorCode errorCodeToString
  constructor
  · intro h
    obtain ⟨named, hf, rfl⟩ := Option.map_eq_some_iff.1 h
    have ht : named.text = val := by simpa using List.find?_some hf
    rw [namedErrorCode_raw]
    exact ⟨rfl, ht.symm⟩
  · rintro ⟨hn, rfl⟩
    obtain ⟨named, hc⟩ := Option.isSome_iff_exists.1 hn
    rw [hc]
    simp only [find_text, Option.map_some, raw_of_namedErrorCode hc]

/-- A byte beyond the last enumerator reads back as another code. -/
example : errorCodeFromString (errorCodeToString 255) = some ErrorCode.internalError.raw := by
  decide

end MiniTun
