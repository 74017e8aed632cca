import DocumentGate.Command.Grammar
import DocumentGate.Store.Call

/-!
# Commands as calls of a store

An operation takes its arguments in one shape: a filter, a document, a list of
documents, or a filter and an update under their names.  Every operation is a case of
its own; nothing is looked up by name.  The reply of the store becomes a payload that
says what was done.
-/

namespace DocumentGate.Dispatch

/-- Arguments of the wrong shape. -/
inductive ShapeFault where
  | notFilter (operation : Operation)
  | notDocument (operation : Operation)
  | notDocuments
  | notAllDocuments
  | notFilterAndUpdate (operation : Operation)
  | missing (operation : Operation) (names : List String)
  | notObjects (operation : Operation)
  | noDatabaseName
deriving DecidableEq, Repr

/-- The fault in words. -/
def ShapeFault.message : ShapeFault → String
  | .notFilter operation => operation.name ++ " expects a filter object"
  | .notDocument operation => operation.name ++ " expects a document object"
  | .notDocuments => "insertMany expects a non-empty array of documents"
  | .notAllDocuments => "insertMany expects every element to be a document object"
  | .notFilterAndUpdate operation =>
    operation.name ++ " expects an object with 'filter' and 'update'"
  | .missing operation names =>
    operation.name ++ " arguments are missing " ++ ", ".intercalate (names.map Text.quoted)
  | .notObjects operation =>
    operation.name ++ " expects 'filter' and 'update' to be objects"
  | .noDatabaseName => "Database name is required"

/-- The value is an object. -/
def isObject : Json → Bool
  | .object _ => true
  | _ => false

/-- Arguments that are an object. -/
def asObject (fault : ShapeFault) (arguments : Json) : Except ShapeFault Json :=
  if isObject arguments then .ok arguments else .error fault

/-- Arguments that are a list of objects, at least one. -/
def asDocuments : Json → Except ShapeFault (List Json)
  | .array [] => .error .notDocuments
  | .array documents => if documents.all isObject then .ok documents else .error .notAllDocuments
  | _ => .error .notDocuments

/-- The filter and the update in arguments. -/
def asFilterAndUpdate (operation : Operation) (arguments : Json) :
    Except ShapeFault (Json × Json) :=
  match arguments with
  | .object members =>
    match Dictionary.get? "filter" members, Dictionary.get? "update" members with
    | some filter, some update =>
      if isObject filter && isObject update then .ok (filter, update)
      else .error (.notObjects operation)
    | some _, none => .error (.missing operation ["update"])
    | none, some _ => .error (.missing operation ["filter"])
    | none, none => .error (.missing operation ["filter", "update"])
  | _ => .error (.notFilterAndUpdate operation)

/-- The call that a command asks for in a database. -/
def callOf (database : String) (descriptor : Command.Descriptor) :
    Except ShapeFault Store.Call := do
  let place : Store.Place := ⟨database, descriptor.collection⟩
  let operation := descriptor.operation
  let arguments := descriptor.arguments
  match operation with
  | .find => return .find place (← asObject (.notFilter operation) arguments)
  | .findOne => return .findOne place (← asObject (.notFilter operation) arguments)
  | .insertOne => return .insert place [← asObject (.notDocument operation) arguments]
  | .insertMany => return .insert place (← asDocuments arguments)
  | .updateOne =>
    let (filter, update) ← asFilterAndUpdate operation arguments
    return .update place filter update false
  | .updateMany =>
    let (filter, update) ← asFilterAndUpdate operation arguments
    return .update place filter update true
  | .deleteOne => return .delete place (← asObject (.notFilter operation) arguments) false
  | .deleteMany => return .delete place (← asObject (.notFilter operation) arguments) true

/-- A payload that acknowledges an operation. -/
def acknowledged (members : Json.Members) : Json :=
  .object (("acknowledged", .boolean true) :: members)

/-- What an operation answers. -/
def payload (operation : Operation) : Store.Reply → Json
  | .names names => .array (names.map .string)
  | .documents documents => .array documents
  | .document document => document.getD .null
  | .identities identities =>
    let values := identities.map Identity.toValue
    if operation = .insertMany then
      acknowledged [("insertedCount", .count values.length), ("insertedIds", .array values)]
    else acknowledged [("insertedId", values.headD .null)]
  | .changed matched modified =>
    acknowledged [("matchedCount", .count matched), ("modifiedCount", .count modified)]
  | .removed count => acknowledged [("deletedCount", .integer count)]

end DocumentGate.Dispatch
