import MiniTun.Admin.HttpRequest
import MiniTun.Common.ErrorText
import MiniTun.Storage.ServerRecords
import MiniTun.Server.PolicyManagement

/-!
# The sessions of the admin listener

A session reads the head of one request, then what is missing of the body, and answers.  Both
reads go through one buffer whose size is the limit for the head.  The limit for bodies is
configured apart from it and may be larger, and then the second read ends with the buffer full:
the body is delivered exactly if what has not arrived together with the head fits into the
buffer.
-/

namespace MiniTun.Admin

open BoundedRead

/-! ## Options -/

/-- What `Server::create` is given. -/
structure ServerOptions where
  listenEndpoint : Bytes
  tokenFile : Bytes
  maxConnections : Nat
  maxHeaderBytes : Nat
  maxBodyBytes : Nat
  timeout : Int
deriving Repr, DecidableEq

def defaultOptions (listenEndpoint : Bytes) : ServerOptions :=
  ⟨listenEndpoint, [], 64, 8 * 1024, 64 * 1024, 5⟩

def maximumTokenBytes : Nat := 4 * 1024

/-- What `fstat` says about the token file, and what can be read of it. -/
structure TokenStatus where
  isRegular : Bool
  links : Nat
  owned : Bool
  /-- The permission bits of group and others. -/
  foreignMode : Nat
  size : Int
  content : Option Bytes
deriving DecidableEq

/-- How opening the token file ends. -/
inductive TokenFile where
  | denied
  | failed
  | opened (status : Option TokenStatus)

def readTokenFile (files : Bytes → TokenFile) (path : Bytes) : Result Bytes :=
  if path = [] ∨ 4096 < path.length ∨ path.contains 0 then
    failure .invalidArgument "admin token file path is invalid"
  else
    match files path with
    | .denied => failure .permissionDenied "admin token file cannot be opened"
    | .failed => failure .invalidArgument "admin token file cannot be opened"
    | .opened none =>
      failure .permissionDenied "admin token file must be private, owned, and bounded"
    | .opened (some status) =>
      if !status.isRegular ∨ status.links ≠ 1 ∨ !status.owned ∨ status.foreignMode ≠ 0 ∨
          status.size ≤ 0 ∨ maximumTokenBytes < status.size then
        failure .permissionDenied "admin token file must be private, owned, and bounded"
      else
        match status.content with
        | none => failure .invalidArgument "admin token file could not be read"
        | some content =>
          let token := content.rdropWhile fun b => b = 10 ∨ b = 13
          if token = [] ∨ token.contains 0 then
            failure .invalidArgument "admin token is empty or invalid"
          else .ok token

/-- A server that was created. -/
structure Server where
  options : ServerOptions
  listenerAddress : Bytes
  token : Option Bytes
  authenticationRequired : Bool
deriving DecidableEq

def printAddress (net : AddressFamilies) : Address → Bytes
  | .v4 bits => net.printV4 bits
  | .v6 bits scope => net.printV6 (bits, scope)

/-- `Server::create`: the checks of the options and the token. -/
def create (net : AddressFamilies) (files : Bytes → TokenFile) (options : ServerOptions) :
    Result Server :=
  if options.listenEndpoint = [] ∨ options.maxConnections = 0 ∨ 1024 < options.maxConnections ∨
      options.maxHeaderBytes < 1024 ∨ 64 * 1024 < options.maxHeaderBytes ∨
      options.maxBodyBytes < 1024 ∨ 1024 * 1024 < options.maxBodyBytes ∨ options.timeout ≤ 0 ∨
      60 < options.timeout then
    failure .invalidArgument "admin listener options are invalid"
  else
    match Endpoint.parse net options.listenEndpoint with
    | .error error => .error error
    | .ok parsed =>
      match makeAddress net parsed.host with
      | none => failure .invalidArgument "admin listener host must be a numeric IP address"
      | some address =>
        let server := fun token => (⟨options, printAddress net address, token,
          !address.isLoopback⟩ : Server)
        if options.tokenFile ≠ [] then
          (readTokenFile files options.tokenFile).map fun token => server (some token)
        else if address.isLoopback then .ok (server none)
        else
          failure .permissionDenied "a non-loopback admin listener requires --admin-token-file"

/-! ## Sessions -/

/-- What the management handler is called with. -/
structure ManagementRequest where
  method : Bytes
  path : Bytes
  body : Bytes
deriving Repr, DecidableEq

/-- What the server is told by the rest of the program.  A provider may be missing, and the call
of one may throw: `some none`. -/
structure Providers where
  healthy : Option (Option Bool)
  ready : Option (Option Bool)
  metrics : Option (Option Bytes)
  management : Option (ManagementRequest → Option (Result Server.ManagementResponse))

/-- What a session does: the calls of the management handler and the response. -/
structure Exchange where
  handled : List ManagementRequest
  response : Bytes
deriving DecidableEq

/-- `Session::write_response`. -/
def answer (response : Bytes) : Exchange := ⟨[], response⟩

def unauthorized : Bytes :=
  responseWith (ascii "WWW-Authenticate: Bearer realm=\"minitun-admin\"" ++ crlf) 401
    "Unauthorized" "text/plain" (ascii "unauthorized\n") false

def bearerPrefix : Bytes := ascii "Bearer "

def safeStatus (provider : Option (Option Bool)) : Bool :=
  provider = some (some true)

namespace Server

variable (server : Server) (providers : Providers)

/-- `Session::authenticated`: the bearer token is the configured one. -/
def authenticated (request : Request) : Bool :=
  match request.authorization with
  | none => false
  | some value =>
    bearerPrefix.isPrefixOf value ∧ server.token = some (value.drop bearerPrefix.length)

def managementMethods : List Bytes :=
  [ascii "GET", ascii "PUT", ascii "POST", ascii "DELETE"]

/-- The answer to what the management handler returned. -/
def managementAnswer : Option (Result Server.ManagementResponse) → Bytes
  | some (.ok reply) => Admin.response reply.status reply.reason reply.contentType reply.body false
  | some (.error error) =>
    let (status, reason) := statusForError error.code
    Admin.response status reason "application/json"
      (ascii "\x7b\"error\":\"" ++ error.code.text ++ ascii "\",\"message\":\"" ++
        ascii error.message ++ ascii "\"\x7d\n") false
  | none =>
    Admin.response 500 "Internal Server Error" "application/json"
      (ascii "\x7b\"error\":\"internal_error\",\"message\":\"management handler failed\"\x7d\n")
      false

/-- `Session::dispatch_management`: the token, the method, and one call of the handler. -/
def dispatchManagement
    (management : ManagementRequest → Option (Result Server.ManagementResponse))
    (request : Request) (body : Bytes) : Exchange :=
  if server.token.isSome ∧ !server.authenticated request then answer unauthorized
  else if request.method ∉ managementMethods then
    answer (textResponse 405 "Method Not Allowed" "method not allowed\n")
  else
    let call := ⟨request.method, request.path, body⟩
    ⟨[call], managementAnswer (management call)⟩

/-- The endpoints that are not of the management handler. -/
def dispatchStatus (request : Request) : Exchange :=
  let head : Bool := request.method = ascii "HEAD"
  let status := fun (good : Bool) (yes no : String) => answer (Admin.response
    (if good then 200 else 503) (if good then "OK" else "Service Unavailable") "text/plain"
    (ascii (if good then yes else no)) head)
  if server.authenticationRequired ∧ !server.authenticated request then answer unauthorized
  else if request.method ≠ ascii "GET" ∧ !head then
    answer (textResponse 405 "Method Not Allowed" "method not allowed\n")
  else if request.path = ascii "/healthz" then
    status (safeStatus providers.healthy) "ok\n" "unhealthy\n"
  else if request.path = ascii "/readyz" then
    status (safeStatus providers.ready) "ready\n" "not ready\n"
  else if request.path = ascii "/metrics" then
    if head then
      answer (Admin.response 405 "Method Not Allowed" "text/plain" (ascii "method not allowed\n")
        true)
    else
      match providers.metrics with
      | some none => answer (textResponse 500 "Internal Server Error" "metrics unavailable\n")
      | some (some metrics) =>
        answer (Admin.response 200 "OK" "text/plain; version=0.0.4; charset=utf-8" metrics false)
      | none => answer (Admin.response 200 "OK" "text/plain; version=0.0.4; charset=utf-8" [] false)
  else answer (Admin.response 404 "Not Found" "text/plain" (ascii "not found\n") head)

def managementRoute : Bytes := ascii "/v1/"

/-- `Session::dispatch`: the management routes, if there is a handler, or the status routes. -/
def dispatch (request : Request) (body : Bytes) : Exchange :=
  match providers.management with
  | some management =>
    if managementRoute.isPrefixOf request.path then
      server.dispatchManagement management request body
    else server.dispatchStatus providers request
  | none => server.dispatchStatus providers request

/-- The second read, and `on_body`. -/
def onBody (request : Request) (body : Bytes) (stream : List Bytes) : Exchange :=
  match readExactly server.options.maxHeaderBytes (request.contentLength - body.length) [] 0
    stream with
  | none => answer (textResponse 400 "Bad Request" "request body truncated\n")
  | some (buffer, _) =>
    if (body ++ buffer).length ≠ request.contentLength then
      answer (textResponse 400 "Bad Request" "request body length mismatch\n")
    else server.dispatch providers request (body ++ buffer)

/-- `on_headers`, with the head of the request, what is left in the buffer behind it and what has
not been read. -/
def onHeaders (text buffered : Bytes) (stream : List Bytes) : Exchange :=
  match parseRequest text with
  | .error _ => answer (textResponse 400 "Bad Request" "bad request\n")
  | .ok request =>
    if (request.method = ascii "GET" ∨ request.method = ascii "HEAD") ∧
        request.contentLength ≠ 0 then
      answer (textResponse 400 "Bad Request" "GET requests cannot carry a body\n")
    else if server.authenticationRequired ∧
        request.host.any fun host => !hostHeaderMatches host server.listenerAddress then
      answer (textResponse 421 "Misdirected Request" "request host is not this listener\n")
    else if server.options.maxBodyBytes < request.contentLength then
      answer (textResponse 413 "Content Too Large" "request body rejected\n")
    else if request.contentLength < buffered.length then
      answer (textResponse 400 "Bad Request" "request pipelining is forbidden\n")
    else if buffered.length < request.contentLength then
      server.onBody providers request buffered stream
    else server.dispatch providers request buffered

/-- A session on a stream that arrives in these chunks, before the deadline. -/
def session (stream : List Bytes) : Exchange :=
  match readUntil server.options.maxHeaderBytes headerTerminator [] stream with
  | none =>
    answer (textResponse 431 "Request Header Fields Too Large" "request headers rejected\n")
  | some (bytes, buffer, rest) =>
    if server.options.maxHeaderBytes < bytes then
      answer (textResponse 431 "Request Header Fields Too Large" "request headers rejected\n")
    else server.onHeaders providers (buffer.take bytes) (buffer.drop bytes) rest

/-- How much of what follows the head is in the buffer when the head has been read. -/
def bufferedBody (stream : List Bytes) : Nat :=
  match readUntil server.options.maxHeaderBytes headerTerminator [] stream with
  | none => 0
  | some (bytes, buffer, _) => buffer.length - bytes

/-! ## Bodies -/

/-- A request to a management route that the server lets through: its head and its body. -/
structure WellFormed (head body : Bytes) (request : Request) : Prop where
  parses : parseRequest head = .ok request
  fits : head.length ≤ server.options.maxHeaderBytes
  length : body.length = request.contentLength
  limit : request.contentLength ≤ server.options.maxBodyBytes
  route : managementRoute.isPrefixOf request.path = true
  method : request.method ∈ managementMethods
  noBody : request.method = ascii "GET" → request.contentLength = 0
  host : server.authenticationRequired = true →
    ∀ host, request.host = some host → hostHeaderMatches host server.listenerAddress = true
  token : server.token.isSome = true → server.authenticated request = true

/-- The management handler is called once, with this body. -/
def Delivers (request : Request) (body : Bytes) (exchange : Exchange) : Prop :=
  exchange.handled = [⟨request.method, request.path, body⟩]

variable {server providers}
variable {head body : Bytes} {request : Request}
  {management : ManagementRequest → Option (Result Server.ManagementResponse)}

section Delivered

variable (h : server.WellFormed head body request)
include h

theorem WellFormed.handled_dispatch (hm : providers.management = some management)
    (received : Bytes) :
    (server.dispatch providers request received).handled =
      [⟨request.method, request.path, received⟩] := by
  have ht : ¬(server.token.isSome = true ∧ (!server.authenticated request) = true) := by
    intro hd
    rw [h.token hd.1] at hd
    cases hd.2
  unfold dispatch
  rw [hm]
  simp only [h.route, if_true]
  unfold dispatchManagement
  rw [if_neg ht, if_neg (not_not.2 h.method)]

theorem WellFormed.not_head : request.method ≠ ascii "HEAD" := by
  intro hm
  have hmem := h.method
  rw [hm] at hmem
  revert hmem
  decide

theorem WellFormed.onHeaders_eq (buffered : Bytes) (stream : List Bytes)
    (hbuf : buffered.length ≤ body.length) :
    server.onHeaders providers head buffered stream =
      if buffered.length < body.length then server.onBody providers request buffered stream
      else server.dispatch providers request buffered := by
  have hget : ¬((request.method = ascii "GET" ∨ request.method = ascii "HEAD") ∧
      request.contentLength ≠ 0) := by
    intro hbad
    rcases hbad.1 with hm | hm
    · exact hbad.2 (h.noBody hm)
    · exact h.not_head hm
  have hh : ¬(server.authenticationRequired = true ∧
      (request.host.any fun host => !hostHeaderMatches host server.listenerAddress) = true) := by
    intro hbad
    obtain ⟨host, hsome, ho⟩ := (Option.any_eq_true _ _).1 hbad.2
    rw [h.host hbad.1 host hsome] at ho
    cases ho
  unfold onHeaders
  rw [h.parses]
  simp only
  rw [if_neg hget, if_neg hh, if_neg (Nat.not_lt.2 h.limit), ← h.length,
    if_neg (Nat.not_lt.2 hbuf)]

/-- The second read gives the rest of the body exactly if it fits into the buffer. -/
theorem WellFormed.delivers_onBody (hm : providers.management = some management)
    {buffered : Bytes} {stream : List Bytes} (hbody : buffered ++ stream.flatten = body) :
    Delivers request body (server.onBody providers request buffered stream) ↔
      body.length - buffered.length ≤ server.options.maxHeaderBytes := by
  have hr : body.length - buffered.length = stream.flatten.length := by
    rw [← hbody, List.length_append]
    omega
  have hask : request.contentLength - buffered.length = stream.flatten.length := by
    rw [← h.length, hr]
  have hall : stream.flatten.length - 0 ≤ stream.flatten.length := Nat.sub_le _ _
  obtain ⟨left, hl⟩ := readExactly_eq_some server.options.maxHeaderBytes [] hall
  rw [Nat.sub_zero, List.length_nil, Nat.sub_zero, List.nil_append] at hl
  unfold onBody
  rw [hask, hl, hr]
  simp only
  by_cases hfits : stream.flatten.length ≤ server.options.maxHeaderBytes
  · rw [Nat.min_eq_left hfits, List.take_length, hbody, h.length, if_neg (not_not.2 rfl)]
    exact iff_of_true (h.handled_dispatch hm body) hfits
  · rw [if_pos]
    · refine iff_of_false ?_ hfits
      intro hd
      cases hd
    · rw [List.length_append, List.length_take]
      omega

theorem WellFormed.delivers_session (hm : providers.management = some management)
    {stream : List Bytes} (hst : stream.flatten = head ++ body) :
    Delivers request body (server.session providers stream) ↔
      body.length - server.bufferedBody stream ≤ server.options.maxHeaderBytes := by
  have he : [] ++ stream.flatten = head ++ body := hst
  have hrm : ([] : Bytes).length ≤ server.options.maxHeaderBytes := Nat.zero_le _
  obtain ⟨left, rest, hr, hl⟩ := readUntil_eq_some
    (endsWithFirst_of_parseRequest h.parses) h.fits hrm he
  have hbuf : server.bufferedBody stream = left.length := by
    unfold bufferedBody
    rw [hr]
    simp only [List.length_append, Nat.add_sub_cancel_left]
  have hle : left.length ≤ body.length := by
    rw [← hl.tail, List.length_append]
    exact Nat.le_add_right _ _
  have hs : server.session providers stream = server.onHeaders providers head left rest := by
    unfold session
    rw [hr]
    simp only
    rw [if_neg (Nat.not_lt.2 h.fits), List.take_left, List.drop_left]
  rw [hs, hbuf, h.onHeaders_eq left rest hle]
  split
  · exact h.delivers_onBody hm hl.tail
  · next hall =>
    have hno : rest.flatten = [] := by
      have hlen := congrArg List.length hl.tail
      rw [List.length_append] at hlen
      rw [← List.length_eq_zero_iff]
      omega
    have hbody : left = body := by
      rw [← hl.tail, hno, List.append_nil]
    rw [hbody, Nat.sub_self]
    exact iff_of_true (h.handled_dispatch hm body) (Nat.zero_le _)

/-- Nothing of the body is in the buffer when it arrives behind the head. -/
theorem WellFormed.bufferedBody_eq_zero : server.bufferedBody [head, body] = 0 := by
  have hend := endsWithFirst_of_parseRequest h.parses
  have hr : readUntil server.options.maxHeaderBytes headerTerminator [] [head, body] =
      some (head.length, head, [body]) := by
    have hno : find? headerTerminator ([] : Bytes) = none := rfl
    rw [readUntil, hno]
    simp only [List.length_nil, Nat.sub_zero, h.fits, if_true, List.nil_append]
    rw [readUntil, hend.1]
    simp only [Nat.sub_add_cancel hend.2]
  unfold bufferedBody
  rw [hr]
  exact Nat.sub_self _

end Delivered

theorem options_create {net : AddressFamilies} {files : Bytes → TokenFile}
    {opts : ServerOptions} (h : create net files opts = .ok server) :
    server.options = opts := by
  unfold create at h
  split at h
  · cases h
  · split at h
    · cases h
    · split at h
      · cases h
      · simp only at h
        split at h
        · obtain ⟨token, -, rfl⟩ := map_eq_ok.1 h
          rfl
        · split at h
          · cases h
            rfl
          · cases h

/-- **When bodies are delivered intact.**  For a server that was created, and a well-formed request
to a management route: however its bytes arrive, the handler is called once with the whole body
exactly if what did not arrive together with the head fits into a buffer of the size of the limit
for the head.  They are delivered however they arrive exactly if the whole body fits. -/
theorem body_delivered_iff (net : AddressFamilies) (files : Bytes → TokenFile)
    (options : ServerOptions) (server : Server) (hcreate : create net files options = .ok server)
    (providers : Providers)
    (management : ManagementRequest → Option (Result Server.ManagementResponse))
    (hmanagement : providers.management = some management) (head body : Bytes) (request : Request)
    (h : server.WellFormed head body request) :
    (∀ stream : List Bytes, stream.flatten = head ++ body →
      (Delivers request body (server.session providers stream) ↔
        body.length - server.bufferedBody stream ≤ options.maxHeaderBytes)) ∧
    ((∀ stream : List Bytes, stream.flatten = head ++ body →
        Delivers request body (server.session providers stream)) ↔
      body.length ≤ options.maxHeaderBytes) := by
  rw [← options_create hcreate]
  refine ⟨fun stream hstream => h.delivers_session hmanagement hstream, ?_⟩
  constructor
  · intro hall
    have hstream : [head, body].flatten = head ++ body := by
      rw [List.flatten_cons, List.flatten_cons, List.flatten_nil, List.append_nil]
    have hfits := (h.delivers_session hmanagement hstream).1 (hall _ hstream)
    rw [h.bufferedBody_eq_zero] at hfits
    exact hfits
  · intro hfits stream hstream
    rw [h.delivers_session hmanagement hstream]
    exact Nat.le_trans (Nat.sub_le _ _) hfits

end Server

/-! ## A body that is larger than the head may be -/

namespace Sample

/-- The library's answers on the one address the sample uses. -/
def net : AddressFamilies where
  makeV4 := fun text => if text = ascii "127.0.0.1" then some 0x7f000001#32 else none
  printV4 := fun _ => ascii "127.0.0.1"
  makeV6 := fun _ => none
  printV6 := fun _ => []

def options : ServerOptions :=
  { defaultOptions (ascii "127.0.0.1:9100") with maxHeaderBytes := 1024 }

def server : Server := ⟨options, ascii "127.0.0.1", none, false⟩

theorem create_options : create net (fun _ => .failed) options = .ok server := by
  decide +kernel

/-- The handler answers every request alike. -/
def providers : Providers where
  healthy := none
  ready := none
  metrics := none
  management := some fun _ => some (.ok ⟨200, "OK", "application/json", []⟩)

def head (length : Nat) : Bytes :=
  ascii "PUT /v1/clients/a HTTP/1.1\r\nContent-Length: " ++ decimal length ++ headerTerminator

def request (length : Nat) : Request :=
  ⟨ascii "PUT", ascii "/v1/clients/a", none, none, length⟩

def body (length : Nat) : Bytes := List.replicate length 32

theorem wellFormed {length : Nat} (hp : parseRequest (head length) = .ok (request length))
    (hfits : (head length).length ≤ 1024) (hlim : length ≤ 64 * 1024) :
    server.WellFormed (head length) (body length) (request length) where
  parses := hp
  fits := hfits
  length := List.length_replicate
  limit := hlim
  route := by
    show List.isPrefixOf Server.managementRoute (ascii "/v1/clients/a") = true
    decide +kernel
  method := by
    show ascii "PUT" ∈ Server.managementMethods
    decide +kernel
  noBody := by
    intro hm
    have hnot : ascii "PUT" ≠ ascii "GET" := by decide +kernel
    exact absurd hm hnot
  host := by
    intro hreq
    cases hreq
  token := by
    intro ht
    cases ht

theorem wellFormed_two : server.WellFormed (head 2) (body 2) (request 2) :=
  wellFormed (by decide +kernel) (by decide +kernel) (by decide)

theorem wellFormed_large : server.WellFormed (head 1025) (body 1025) (request 1025) :=
  wellFormed (by decide +kernel) (by decide +kernel) (by decide)

theorem small_body_delivered :
    Server.Delivers (request 2) (body 2) (server.session providers [head 2, body 2]) :=
  (Server.body_delivered_iff net (fun _ => .failed) options server create_options providers _ rfl
    (head 2) (body 2) (request 2) wellFormed_two).2.2 (by decide) [head 2, body 2]
      (by rw [List.flatten_cons, List.flatten_singleton])

/-- A body of 1025 bytes that arrives behind the head is not delivered, although bodies of 65536
bytes are allowed. -/
theorem large_body_lost :
    create net (fun _ => .failed) options = .ok server ∧
      server.WellFormed (head 1025) (body 1025) (request 1025) ∧
      ¬Server.Delivers (request 1025) (body 1025)
        (server.session providers [head 1025, body 1025]) := by
  refine ⟨create_options, wellFormed_large, ?_⟩
  have hstream : [head 1025, body 1025].flatten = head 1025 ++ body 1025 := by
    rw [List.flatten_cons, List.flatten_cons, List.flatten_nil, List.append_nil]
  rw [wellFormed_large.delivers_session rfl hstream, body, List.length_replicate]
  decide

end Sample

end MiniTun.Admin
