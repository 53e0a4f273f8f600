import MiniTun.Common.Endpoint
import MiniTun.Lib.BoundedRead

/-!
# The requests of the admin listener

`parse_request` reads the head of an HTTP request: the request line and the headers, up to and
with the empty line.  Four headers are looked at.  The tests of the Host header and the texts of
the responses are here too.
-/

namespace MiniTun.Admin

open BoundedRead

def crlf : Bytes := [13, 10]

def headerTerminator : Bytes := [13, 10, 13, 10]

def lowerAscii (value : Bytes) : Bytes :=
  value.map Endpoint.lowerAscii

/-- A parsed request. -/
structure Request where
  method : Bytes
  path : Bytes
  host : Option Bytes
  authorization : Option Bytes
  contentLength : Nat
deriving Repr, DecidableEq

def maximumSize : Nat := 18446744073709551615

def parseContentLength (digits : Bytes) : Result Nat :=
  digits.foldlM (fun parsed byte =>
    let digit := byte.toNat - 48
    if (maximumSize - digit) / 10 < parsed then
      failure .invalidArgument "admin HTTP content-length overflows"
    else .ok (parsed * 10 + digit)) 0

/-- One header.  The flag says whether a Content-Length was seen. -/
def parseHeader (request : Request) (contentLengthSeen : Bool) (line : Bytes) :
    Result (Request × Bool) :=
  let nameBytes := line.takeWhile (· ≠ Endpoint.colon)
  if nameBytes.length = line.length ∨ nameBytes = [] then
    failure .invalidArgument "admin HTTP header is invalid"
  else
    let name := lowerAscii nameBytes
    let value := (line.drop (nameBytes.length + 1)).dropWhile fun b => b = 32 ∨ b = 9
    if name = ascii "content-length" then
      if contentLengthSeen ∨ value = [] ∨ !value.all isDigit then
        failure .invalidArgument "admin HTTP content-length header is invalid"
      else
        (parseContentLength value).map fun parsed =>
          ({ request with contentLength := parsed }, true)
    else if name = ascii "transfer-encoding" then
      failure .invalidArgument "admin HTTP transfer encoding is forbidden"
    else if name = ascii "host" then
      if request.host.isSome then failure .invalidArgument "duplicate admin host header"
      else if value = [] then failure .invalidArgument "admin HTTP host header is invalid"
      else .ok ({ request with host := some value }, contentLengthSeen)
    else if name = ascii "authorization" then
      if request.authorization.isSome then
        failure .invalidArgument "duplicate admin authorization header"
      else .ok ({ request with authorization := some value }, contentLengthSeen)
    else .ok (request, contentLengthSeen)

/-- The loop over the headers.  `left` is the number of headers that may still come. -/
def parseHeaders (text : Bytes) (headerEnd : Nat) :
    Nat → Nat → Request → Bool → Result Request
  | left, cursor, request, contentLengthSeen =>
    if headerEnd ≤ cursor then .ok request
    else
      match find? crlf (text.drop cursor), left with
      | some offset, left + 1 =>
        if headerEnd < cursor + offset then
          failure .invalidArgument "admin HTTP headers are invalid"
        else
          match parseHeader request contentLengthSeen ((text.drop cursor).take offset) with
          | .error error => .error error
          | .ok (request, contentLengthSeen) =>
            parseHeaders text headerEnd left (cursor + offset + 2) request contentLengthSeen
      | _, _ => failure .invalidArgument "admin HTTP headers are invalid"

def maximumHeaders : Nat := 64

/-- The request line: two spaces, and nothing but the version behind the second. -/
def parseRequestLine (line : Bytes) : Result Request :=
  match line.splitOn 32 with
  | [method, path, version] =>
    if version ≠ ascii "HTTP/1.1" then
      failure .invalidArgument "admin HTTP request line is invalid"
    else if path.head? ≠ some 47 ∨ path.contains 63 then
      failure .invalidArgument "admin HTTP request target is invalid"
    else .ok ⟨method, path, none, none, 0⟩
  | _ => failure .invalidArgument "admin HTTP request line is invalid"

/-- `parse_request`. -/
def parseRequest (text : Bytes) : Result Request :=
  match find? headerTerminator text with
  | none => failure .invalidArgument "admin HTTP request framing is invalid"
  | some headerEnd =>
    if headerEnd + 4 ≠ text.length then
      failure .invalidArgument "admin HTTP request framing is invalid"
    else
      match find? crlf text with
      | none => failure .invalidArgument "admin HTTP request line is invalid"
      | some firstEnd =>
        match parseRequestLine (text.take firstEnd) with
        | .error error => .error error
        | .ok request => parseHeaders text headerEnd maximumHeaders (firstEnd + 2) request false

/-- What is accepted is the head of a request and nothing more: the first empty line ends it. -/
theorem endsWithFirst_of_parseRequest {text : Bytes} {req : Request}
    (h : parseRequest text = .ok req) : EndsWithFirst headerTerminator text := by
  unfold parseRequest at h
  cases hfind : find? headerTerminator text with
  | none =>
    rw [hfind] at h
    cases h
  | some headerEnd =>
    rw [hfind] at h
    simp only at h
    have hlen : headerTerminator.length = 4 := rfl
    split at h
    · cases h
    · next hend =>
      refine ⟨?_, ?_⟩
      · rw [hfind]
        congr 1
        omega
      · omega

/-! ## The Host header -/

def normalizedHostAuthority (value : Bytes) : Bytes :=
  if value.head? = some Endpoint.openBracket then
    if value.contains Endpoint.closeBracket then
      value.takeWhile (· ≠ Endpoint.closeBracket) ++ [Endpoint.closeBracket]
    else value
  else if value.count Endpoint.colon = 1 then value.takeWhile (· ≠ Endpoint.colon)
  else value

/-- `host_header_matches`. -/
def hostHeaderMatches (host listenerAddress : Bytes) : Bool :=
  let authority := lowerAscii (normalizedHostAuthority host)
  host ≠ [] ∧ authority ≠ [] ∧
    (authority = ascii "localhost" ∨ authority = ascii "127.0.0.1" ∨ authority = ascii "[::1]" ∨
      authority = lowerAscii listenerAddress)

/-! ## Responses -/

def statusForError : ErrorCode → Nat × String
  | .notFound => (404, "Not Found")
  | .alreadyExists => (409, "Conflict")
  | .permissionDenied => (403, "Forbidden")
  | .notAuthenticated | .authenticationFailed => (401, "Unauthorized")
  | .resourceExhausted => (413, "Content Too Large")
  | .invalidArgument | .protocolError | .unsupportedVersion => (400, "Bad Request")
  | _ => (500, "Internal Server Error")

/-- `response`, with additional headers behind the status line. -/
def responseWith (headers : Bytes) (status : Nat) (reason contentType : String) (body : Bytes)
    (head : Bool) : Bytes :=
  ascii "HTTP/1.1 " ++ decimal status ++ ascii " " ++ ascii reason ++ crlf ++ headers ++
    ascii "Connection: close" ++ crlf ++ ascii "Cache-Control: no-store" ++ crlf ++
    ascii "X-Content-Type-Options: nosniff" ++ crlf ++
    ascii "Content-Type: " ++ ascii contentType ++ crlf ++
    ascii "Content-Length: " ++ decimal body.length ++ crlf ++ crlf ++
    if head then [] else body

def response (status : Nat) (reason contentType : String) (body : Bytes) (head : Bool) : Bytes :=
  responseWith [] status reason contentType body head

def textResponse (status : Nat) (reason body : String) : Bytes :=
  response status reason "text/plain" (ascii body) false

end MiniTun.Admin
