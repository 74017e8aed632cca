import DocumentGate.Json.Value
import DocumentGate.Text.Segments

/-!
# Paths into a document

A path is a text whose segments stand between dots, empty segments included.  Looking
a path up descends through objects only; a list is not entered by position.  Assigning
at a path makes an object of whatever else stands on the way, and removing stops there.
-/

namespace DocumentGate

/-- A document: the members of an object. -/
abbrev Document := Json.Members

namespace Document

/-- The segments of a path. -/
def segments (path : String) : List String :=
  Text.segments '.' path

/-- The value found by descending along segments. -/
def descend : Json → List String → Option Json
  | value, [] => some value
  | .object members, key :: rest =>
    match Dictionary.get? key members with
    | some child => descend child rest
    | none => none
  | _, _ :: _ => none

/-- The value at a path of a document. -/
def lookup (document : Document) (path : String) : Option Json :=
  descend (.object document) (segments path)

/-- The members of an object, and none of any other value. -/
def membersOf : Option Json → Json.Members
  | some (.object members) => members
  | _ => []

/-- The document with a value assigned at the given segments. -/
def assignAt (value : Json) : List String → Document → Document
  | [], document => document
  | [key], document => Dictionary.insert key value document
  | key :: rest, document =>
    Dictionary.insert key
      (.object (assignAt value rest (membersOf (Dictionary.get? key document)))) document

/-- The document with a value assigned at a path. -/
def assign (document : Document) (path : String) (value : Json) : Document :=
  assignAt value (segments path) document

/-- The document without what stands at the given segments. -/
def removeAt : List String → Document → Document
  | [], document => document
  | [key], document => Dictionary.erase key document
  | key :: rest, document =>
    match Dictionary.get? key document with
    | some (.object members) =>
      Dictionary.insert key (.object (removeAt rest members)) document
    | _ => document

/-- The document without what stands at a path. -/
def remove (document : Document) (path : String) : Document :=
  removeAt (segments path) document

end Document
end DocumentGate
