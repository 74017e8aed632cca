import DocumentGate.Json.Equality
import DocumentGate.Postgres.Exchange
import DocumentGate.Postgres.Mapping
import DocumentGate.Postgres.Status
import DocumentGate.Store.Call

/-!
# Documents in tables

A database is a schema, and a collection a table with a row for each document: its
place in the order of insertion, its identity as a key, and the document itself.
Filters are compiled, so that the server finds the rows; updates are applied here,
inside a transaction that locks the rows it read.  A missing table holds no documents.

Whatever fails while a connection is held is a refusal of the store.  Documents that
were found are decoded after the connection is given back.
-/

namespace DocumentGate.Postgres

/-- An open or closed connection to a server. -/
structure Connection where
  default : String
  closed : Bool := false
  /-- Closing the connection fails so. -/
  closing : Option String := none
  /-- Every statement fails so. -/
  broken : Option String := none
  /-- Whoever deals with the server waits for a turn. -/
  slow : Bool := false

/-! ## Statements -/

/-- Selects the names of the schemas that are not the server's own. -/
def schemaQuery : String :=
  "SELECT schema_name FROM information_schema.schemata " ++
    "WHERE schema_name NOT IN ('pg_catalog', 'information_schema') " ++
    "AND schema_name NOT LIKE 'pg\\_toast%' AND schema_name NOT LIKE 'pg\\_temp%' " ++
    "ORDER BY schema_name"

/-- Selects the names of the tables of a schema. -/
def tableQuery : String :=
  "SELECT table_name FROM information_schema.tables " ++
    "WHERE table_schema = $1 AND table_type = 'BASE TABLE' ORDER BY table_name"

/-- A table and the condition on its rows, with the parameters of the condition. -/
structure Selection where
  table : String
  condition : String
  parameters : List Sql.Parameter

/-- Selects documents in the order of insertion. -/
def Selection.findStatement (selection : Selection) (onlyFirst : Bool) : String :=
  "SELECT doc FROM " ++ selection.table ++ " WHERE " ++ selection.condition ++
    " ORDER BY seq" ++ (if onlyFirst then " LIMIT 1" else "")

/-- Selects documents with their keys and locks their rows. -/
def Selection.lockStatement (selection : Selection) (many : Bool) : String :=
  "SELECT _id, doc FROM " ++ selection.table ++ " WHERE " ++ selection.condition ++
    " ORDER BY seq" ++ (if many then "" else " LIMIT 1") ++ " FOR UPDATE"

/-- Deletes documents, or the first one only. -/
def Selection.deleteStatement (selection : Selection) (many : Bool) : String :=
  if many then "DELETE FROM " ++ selection.table ++ " WHERE " ++ selection.condition
  else
    "DELETE FROM " ++ selection.table ++ " WHERE _id = (SELECT _id FROM " ++ selection.table ++
      " WHERE " ++ selection.condition ++ " ORDER BY seq LIMIT 1)"

/-- Makes a schema. -/
def createSchema (schema : String) : String :=
  "CREATE SCHEMA IF NOT EXISTS " ++ schema

/-- Makes a table of documents. -/
def createTable (table : String) : String :=
  "CREATE TABLE IF NOT EXISTS " ++ table ++
    " (seq bigserial, _id text PRIMARY KEY, doc jsonb NOT NULL)"

/-- Inserts a document under its key. -/
def insertStatement (table : String) : String :=
  "INSERT INTO " ++ table ++ " (_id, doc) VALUES ($1, $2::jsonb)"

/-- Replaces the document under a key. -/
def replaceStatement (table : String) : String :=
  "UPDATE " ++ table ++ " SET doc = $2::jsonb WHERE _id = $1"

/-! ## Preparation -/

/-- The table of a place. -/
def tableOf (place : Store.Place) : Except Store.Fault String :=
  (Sql.tableName place.database place.collection).mapError .database

/-- The rows of a place that a filter selects. -/
def select (place : Store.Place) (filter : Json) : Except Store.Fault Selection := do
  let table ← tableOf place
  let filter ← (Filter.read filter).mapError .filter
  let (condition, parameters) := Sql.compile filter []
  return ⟨table, condition.written, parameters⟩

/-! ## Exchanges -/

/-- A fault of something that was delivered, while the connection is held. -/
def orFailure {ε α : Type} (message : ε → String) (result : Except ε α) : Exchange α :=
  match result with
  | .ok value => return value
  | .error error => throw (.other (message error))

/-- The key of a row and the text of its document after an update, if that changes it. -/
def changedRow (update : Update) (row : Row) : Exchange (Option (String × String)) := do
  let (held, current) ← orFailure DocumentFault.message ((column "doc" row).bind decodeMapping)
  let updated ← orFailure Update.Failure.message (update.apply held.members)
  if Json.equals (.object updated) current then return none
  let key ← orFailure DocumentFault.message (columnText "_id" row)
  match Json.write? .stored (.object { held with members := updated }.written) with
  | some text => return some (key, text)
  | none => throw (.other Json.oversizedMessage)

/-- Update the selected rows; the result is how many were found and how many changed. -/
def updateRows (selection : Selection) (update : Update) (many : Bool) : Exchange (Nat × Nat) :=
  orWhereMissing (0, 0) <| transaction do
    let rows ← fetch (selection.lockStatement many) selection.parameters
    let changes := (← rows.mapM (changedRow update)).filterMap id
    unless changes.isEmpty do
      executeMany (replaceStatement selection.table) changes
    return (rows.length, changes.length)

/-- Insert rows into a table, which is made where it is missing. -/
def insertRows (schema table : String) (rows : List (String × String)) : Exchange Unit := do
  let _ ← execute (createSchema schema) []
  let _ ← execute (createTable table) []
  let inserting := transaction (executeMany (insertStatement table) rows)
  tryCatch inserting fun failure =>
    match failure with
    | .duplicateKey message => throw (.other ("Duplicate key: " ++ message))
    | _ => throw failure

/-- Delete the selected rows; the result is the status of the statement. -/
def deleteRows (selection : Selection) (many : Bool) : Exchange String :=
  orWhereMissing "" (execute (selection.deleteStatement many) selection.parameters)

/-- Find the selected rows. -/
def findRows (selection : Selection) (onlyFirst : Bool) : Exchange (List Row) :=
  orWhereMissing [] (fetch (selection.findStatement onlyFirst) selection.parameters)

/-! ## Calls -/

/-- A link to a server and the number of identities given so far. -/
structure Dealing where
  link : Link
  given : Identified.Given

/-- Hold a connection for an exchange; whatever fails there is a refusal. -/
def holding {α : Type} (connection : Connection) (exchange : Exchange α) (dealing : Dealing) :
    Except Store.Fault α × Dealing :=
  if connection.closed then (.error .closed, dealing)
  else
    match dealing.link.acquiring with
    | some message => (.error (.server message), dealing)
    | none =>
      let (result, link) := exchange dealing.link
      (result.mapError fun failure => .server failure.message, { dealing with link := link })

/-- Go on from what was prepared, or stop at its fault. -/
def continuing {α β : Type} (prepared : Except Store.Fault α) (dealing : Dealing)
    (next : α → Except Store.Fault β × Dealing) : Except Store.Fault β × Dealing :=
  match prepared with
  | .ok value => next value
  | .error fault => (.error fault, dealing)

/-- The documents that a filter selects. -/
def findDocuments (connection : Connection) (place : Store.Place) (filter : Json)
    (onlyFirst : Bool) (dealing : Dealing) : Except Store.Fault (List Json) × Dealing :=
  continuing (select place filter) dealing fun selection =>
    let (rows, dealing) := holding connection (findRows selection onlyFirst) dealing
    let decode (row : Row) : Except Store.Fault Json :=
      ((column "doc" row).bind decodeDocument).mapError .delivered
    (rows.bind fun rows => rows.mapM decode, dealing)

/-- Insert documents that were given identities. -/
def insertDocuments (connection : Connection) (place : Store.Place)
    (documents : Except Identified.Fault (List Identified)) (dealing : Dealing) :
    Except Store.Fault Store.Reply × Dealing :=
  let prepared : Except Store.Fault (String × String × List Identified) := do
    let documents ← documents.mapError .documents
    let table ← tableOf place
    let schema ← (Sql.schemaName place.database).mapError .database
    return (schema, table, documents)
  continuing prepared dealing fun (schema, table, documents) =>
    let rows := documents.map fun document =>
      (document.identity.key, Json.text (.object document.document))
    let (result, dealing) := holding connection (insertRows schema table rows) dealing
    (result.map fun _ => .identities (documents.map (·.identity)), dealing)

/-- The texts in a column of rows. -/
def columnTexts (name : String) (rows : List Row) : Except Store.Fault (List String) :=
  (rows.mapM (columnText name)).mapError .delivered

/-- What a call replies. -/
def perform (connection : Connection) (call : Store.Call) (dealing : Dealing) :
    Except Store.Fault Store.Reply × Dealing :=
  match call with
  | .databases =>
    let (rows, dealing) := holding connection (fetch schemaQuery []) dealing
    let names := rows.bind (columnTexts "schema_name")
    (names.map fun names => .names (Store.sortedNames (connection.default :: names)), dealing)
  | .collections database =>
    let (rows, dealing) := holding connection (fetch tableQuery [.text database]) dealing
    ((rows.bind (columnTexts "table_name")).map .names, dealing)
  | .find place filter =>
    let (found, dealing) := findDocuments connection place filter false dealing
    (found.map .documents, dealing)
  | .findOne place filter =>
    let (found, dealing) := findDocuments connection place filter true dealing
    (found.map fun documents => .document documents.head?, dealing)
  | .insert place values =>
    let (documents, given) := Identified.ofValues values dealing.given
    insertDocuments connection place documents { dealing with given := given }
  | .update place filter update many =>
    let prepared : Except Store.Fault (Update × Selection) := do
      let update ← (Update.read update).mapError .update
      return (update, ← select place filter)
    continuing prepared dealing fun (update, selection) =>
      let (result, dealing) := holding connection (updateRows selection update many) dealing
      (result.map fun (matched, modified) => .changed matched modified, dealing)
  | .delete place filter many =>
    continuing (select place filter) dealing fun selection =>
      let (status, dealing) := holding connection (deleteRows selection many) dealing
      (status.map fun status => .removed (affected status), dealing)

end DocumentGate.Postgres
