import MiniTun.Lib.Program
import MiniTun.Storage.CredentialStore
import MiniTun.Storage.StateRepository

/-!
# What the daemon keeps

The daemon keeps its state in two databases: the rows of servers and tunnels, and the
credential store that the rows refer to.  Each is durable and atomic by itself, and no
transaction spans both.  The operations of the daemon are programs that make the
requests below; between any two requests the process may crash.
-/

namespace MiniTun.Daemon

open Interaction Storage

inductive ServerCredentialKind where
  | psk
  | caCertificate
  | clientCertificate
  | clientPrivateKey
deriving Repr, DecidableEq

/-- The order in which the source goes through the kinds. -/
def credentialKinds : List ServerCredentialKind :=
  [.psk, .caCertificate, .clientCertificate, .clientPrivateKey]

theorem mem_credentialKinds (kind : ServerCredentialKind) : kind ∈ credentialKinds := by
  cases kind <;> simp [credentialKinds]

/-- A secret that a request asks to be in force for a server. -/
structure Intent where
  serverId : Bytes
  kind : ServerCredentialKind
  secret : Bytes

/-- The requests of the daemon to its databases. -/
inductive StorageRequest : Type → Type where
  | get (key : Bytes) : StorageRequest (Result Bytes)
  | put (key secret : Bytes) : StorageRequest (Result Unit)
  | remove (key : Bytes) : StorageRequest (Result Unit)
  /-- A statement outside a transaction sees the committed database. -/
  | read : StorageRequest (Result Database)
  /-- `begin_transaction`: the database as it is inside the transaction. -/
  | begin : StorageRequest (Result Database)
  /-- `commit`.  Only specifications read the intents: they are the secrets that the
  transaction puts in force. -/
  | commit (db : Database) (intents : List Intent) : StorageRequest (Result Unit)
  | rollback : StorageRequest Unit

abbrev Procedure (α : Type) := Program StorageRequest α

/-- The committed state of both databases, and the secret that was last put in force
for each server and kind. -/
structure Durable where
  db : Database
  store : CredentialStore
  intended : Bytes → ServerCredentialKind → Option Bytes

/-- A failure of a database.  That a credential is absent is an answer, not a failure. -/
structure Fault where
  error : Error
  known : error.code ≠ .notFound

/-- The secrets in force after a transaction. -/
def intend (intents : List Intent) (intended : Bytes → ServerCredentialKind → Option Bytes)
    (serverId : Bytes) (kind : ServerCredentialKind) : Option Bytes :=
  match intents.find? fun intent => intent.serverId = serverId ∧ intent.kind = kind with
  | some intent => some intent.secret
  | none => intended serverId kind

/-- The answer to a request, if the database does not fail. -/
def answer {β : Type} (request : StorageRequest β) (state : Durable) : β :=
  match request with
  | .get key => state.store.get key
  | .put key secret => (state.store.put key secret).map fun _ => ()
  | .remove key => (state.store.remove key).map fun _ => ()
  | .read => .ok state.db
  | .begin => .ok state.db
  | .commit _ _ => .ok ()
  | .rollback => ()

/-- The state after a request, if the database does not fail. -/
def after {β : Type} (request : StorageRequest β) (state : Durable) : Durable :=
  match request with
  | .get _ => state
  | .put key secret =>
    match state.store.put key secret with
    | .error _ => state
    | .ok store => { state with store }
  | .remove key =>
    match state.store.remove key with
    | .error _ => state
    | .ok store => { state with store }
  | .read => state
  | .begin => state
  | .commit db intents => { state with db, intended := intend intents state.intended }
  | .rollback => state

/-- The answer of a database that fails. -/
def refusal {β : Type} (request : StorageRequest β) (error : Error) : β :=
  match request with
  | .get _ => .error error
  | .put _ _ => .error error
  | .remove _ => .error error
  | .read => .error error
  | .begin => .error error
  | .commit _ _ => .error error
  | .rollback => ()

/-- The two databases; each request may fail. -/
def databases : Machine StorageRequest (Option Fault) Durable where
  answer request fault state :=
    match fault with
    | none => answer request state
    | some fault => refusal request fault.error
  after request fault state :=
    match fault with
    | none => after request state
    | some _ => state

/-- Run a program to its end while no database fails. -/
def execute {α : Type} (program : Procedure α) (state : Durable) : α × Durable :=
  run databases none program state

section Execute

variable {α β : Type} {state : Durable}

theorem execute_bind (program : Procedure α) (next : α → Procedure β) :
    execute (program >>= next) state =
      execute (next (execute program state).1) (execute program state).2 :=
  run_bind none program next state

theorem execute_bind_of_eq {program : Procedure α} {next : α → Procedure β} {a : α}
    {state' : Durable} (h : execute program state = (a, state')) :
    execute (program >>= next) state = execute (next a) state' := by
  rw [execute_bind, h]

theorem execute_call (req : StorageRequest β) (next : β → Procedure α) :
    execute (Program.request req >>= next) state =
      execute (next (answer req state)) (after req state) :=
  execute_bind _ _

end Execute

end MiniTun.Daemon
