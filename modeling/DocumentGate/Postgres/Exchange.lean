import DocumentGate.Postgres.Column
import DocumentGate.Sql.Compile

/-!
# Exchanges with a server

An exchange is a sequence of requests to a database server.  What the server answers is
given beforehand as a list, one answer for each statement, so that a statement about all
lists is one about every behaviour of the server.  All requests are recorded in order.
-/

namespace DocumentGate.Postgres

/-- Why a statement fails. -/
inductive Failure where
  /-- The table or its schema does not exist. -/
  | missingRelation (message : String)
  /-- A row with this key exists. -/
  | duplicateKey (message : String)
  | other (message : String)
deriving DecidableEq, Repr

/-- The failure in words. -/
def Failure.message : Failure → String
  | .missingRelation message => message
  | .duplicateKey message => message
  | .other message => message

/-- What a statement gives. -/
structure Outcome where
  rows : List Row := []
  status : String := "DELETE 0"

/-- A request to the server. -/
inductive Request where
  | createPool (address : String) (minimum : Nat) (maximum : Int) (timeout : Double)
  | fetchValue (statement : String)
  | fetch (statement : String) (parameters : List Sql.Parameter)
  | execute (statement : String) (parameters : List Sql.Parameter)
  | executeMany (statement : String) (rows : List (String × String))
  | begin
  | commit
  | rollback
  | close
deriving DecidableEq

/-- The server as an exchange meets it. -/
structure Link where
  /-- Getting a connection fails so. -/
  acquiring : Option String := none
  /-- Every statement fails so. -/
  broken : Option String := none
  /-- The answers to the next statements; those after them find no rows. -/
  answers : List (Except Failure Outcome) := []
  /-- The requests so far. -/
  requests : List Request := []

/-- A computation that makes requests and may fail. -/
abbrev Exchange := ExceptT Failure (StateM Link)

/-- Record a request. -/
def record (request : Request) : Exchange Unit :=
  modify fun link => { link with requests := link.requests ++ [request] }

/-- Make a request that the server answers. -/
def ask (request : Request) : Exchange Outcome := do
  record request
  let link ← get
  match link.broken, link.answers with
  | some message, _ => throw (.other message)
  | none, [] => return {}
  | none, answer :: rest => do
    set { link with answers := rest }
    match answer with
    | .ok outcome => return outcome
    | .error failure => throw failure

/-- The rows that a statement finds. -/
def fetch (statement : String) (parameters : List Sql.Parameter) : Exchange (List Row) := do
  return (← ask (.fetch statement parameters)).rows

/-- The status that a statement ends with. -/
def execute (statement : String) (parameters : List Sql.Parameter) : Exchange String := do
  return (← ask (.execute statement parameters)).status

/-- A statement for each row of parameters. -/
def executeMany (statement : String) (rows : List (String × String)) : Exchange Unit := do
  let _ ← ask (.executeMany statement rows)

/-- A part that is committed when it succeeds and rolled back when it fails. -/
def transaction {α : Type} (body : Exchange α) : Exchange α := do
  record .begin
  let result ← tryCatch body fun failure => do
    record .rollback
    throw failure
  record .commit
  return result

/-- A part that gives a default where the table does not exist. -/
def orWhereMissing {α : Type} (default : α) (body : Exchange α) : Exchange α :=
  tryCatch body fun failure =>
    match failure with
    | .missingRelation _ => return default
    | _ => throw failure

end DocumentGate.Postgres
