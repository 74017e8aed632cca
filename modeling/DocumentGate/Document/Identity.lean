import DocumentGate.Document.Path
import DocumentGate.Json.Writer
import DocumentGate.Text.Quoted

/-!
# Identities of documents

A document carries its identity under `_id`: a string or a whole number.  Documents to
be inserted get one where they have none, counted up from the numbers already given.
Two identities are the same when they are shown the same, so that a number differs from
the string of its digits.
-/

namespace DocumentGate

/-- What identifies a document in its collection. -/
inductive Identity where
  | text (value : String)
  | number (value : Int)
deriving DecidableEq

namespace Identity

/-- The identity that a value is, if it is one. -/
def ofValue? : Json → Option Identity
  | .string value => some (.text value)
  | .number (.integer value) => some (.number value)
  | _ => none

/-- The identity as a value. -/
def toValue : Identity → Json
  | .text value => .string value
  | .number value => .integer value

/-- The identity as messages show it. -/
def shown : Identity → String
  | .text value => Text.quoted value
  | .number value => toString value

/-- The text under which tables keep the identity. -/
def key (identity : Identity) : String :=
  Json.text identity.toValue

/-- The identity of a document, if it has a valid one. -/
def of? (document : Document) : Option Identity :=
  (Dictionary.get? "_id" document).bind ofValue?

/-- The identity that is given under a number: its hexadecimal digits, thirty-two of them. -/
def generated (number : Nat) : Identity :=
  .text (String.ofList (Text.hexDigits 32 number))

end Identity

/-- A document to be inserted, with its identity. -/
structure Identified where
  identity : Identity
  document : Document

namespace Identified

/-- Why documents cannot be inserted. -/
inductive Fault where
  | notObject
  | invalidIdentity
  | duplicate
deriving DecidableEq, Repr

/-- The fault in words. -/
def Fault.message : Fault → String
  | .notObject => "Documents must be objects"
  | .invalidIdentity => "_id must be a string or an integer"
  | .duplicate => "Duplicate _id in inserted documents"

/-- Identities that were given so far. -/
abbrev Given := Nat

/--
The value as a document with an identity.  One that is missing is given, and counted
even where a later value is refused.
-/
def ofValue (value : Json) : ExceptT Fault (StateM Given) Identified :=
  match value with
  | .object members =>
    match Dictionary.get? "_id" members with
    | some found =>
      match Identity.ofValue? found with
      | some identity => return ⟨identity, members⟩
      | none => throw .invalidIdentity
    | none => do
      modify (· + 1)
      let identity := Identity.generated (← get)
      return ⟨identity, Dictionary.insert "_id" identity.toValue members⟩
  | _ => throw .notObject

/-- The values as documents with identities that differ from each other. -/
def ofValues (values : List Json) : ExceptT Fault (StateM Given) (List Identified) := do
  let documents ← values.mapM ofValue
  if (documents.map fun document => document.identity.shown).Nodup then return documents
  else throw .duplicate

end Identified
end DocumentGate
