import DocumentGate.Document.Filter
import DocumentGate.Document.Identity
import DocumentGate.Document.Update
import DocumentGate.Postgres.Mapping
import DocumentGate.Sql.Name

/-!
# Calls of a store

What can be asked of a store of documents, what it replies, and why it refuses.  A
store keeps collections of documents in databases.
-/

namespace DocumentGate.Store

/-- A collection in a database. -/
structure Place where
  database : String
  collection : String
deriving DecidableEq, Repr

/-- What is asked of a store. -/
inductive Call where
  | databases
  | collections (database : String)
  | find (place : Place) (filter : Json)
  | findOne (place : Place) (filter : Json)
  | insert (place : Place) (documents : List Json)
  | update (place : Place) (filter update : Json) (many : Bool)
  | delete (place : Place) (filter : Json) (many : Bool)

/-- What a store replies. -/
inductive Reply where
  | names (names : List String)
  | documents (documents : List Json)
  | document (document : Option Json)
  | identities (identities : List Identity)
  | changed (matched modified : Nat)
  | removed (count : Int)

/-- Why a store does not do what is asked. -/
inductive Fault where
  | closed
  | filter (fault : Filter.Fault)
  | update (fault : Update.Fault)
  | failure (cause : Update.Failure)
  | documents (fault : Identified.Fault)
  | present (identity : Identity)
  | database (fault : Sql.InvalidDatabase)
  /-- The server, or the exchange with it, failed. -/
  | server (message : String)
  /-- What the server delivered is no document. -/
  | delivered (fault : Postgres.DocumentFault)
deriving DecidableEq

/-- The fault in words. -/
def Fault.message : Fault → String
  | .closed => "Connection is closed"
  | .filter fault => fault.message
  | .update fault => fault.message
  | .failure cause => cause.message
  | .documents fault => fault.message
  | .present identity => "Duplicate key: _id " ++ identity.shown ++ " already exists"
  | .database fault => fault.message
  | .server message => message
  | .delivered fault => fault.message

/-- The store itself refuses; the other faults come from values that it cannot handle. -/
def Fault.isRefusal : Fault → Bool
  | .failure .integerTooLarge => false
  | .delivered _ => false
  | _ => true

/-- Names, each once and by code points. -/
def sortedNames (names : List String) : List String :=
  names.eraseDups.mergeSort fun left right => decide (left ≤ right)

end DocumentGate.Store
