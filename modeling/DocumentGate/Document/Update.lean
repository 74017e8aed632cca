import DocumentGate.Document.Path

/-!
# Updates

An update is a list of changes, each of which sets, removes or increases the value at a
path.  Reading an update from a value rejects everything else, and every change at or
below the identity of a document, so that an update that has been read can fail on a
document in two ways only: by increasing what is not a number, and by a sum of a whole
number beyond the largest double with a double.
-/

namespace DocumentGate

/-- A change of a document. -/
inductive Change where
  | set (path : String) (value : Json)
  | unset (path : String)
  | increase (path : String) (amount : Number)

/-- An update: changes that are made one after the other. -/
abbrev Update := List Change

namespace Update

/-! ## Reading -/

/-- Why a value is no update. -/
inductive Fault where
  | notMembers
  | unknownOperator (name : String)
  | notObject (operator : String)
  | notAmount (path : String)
  | changesIdentity
deriving DecidableEq, Repr

/-- The fault in words. -/
def Fault.message : Fault → String
  | .notMembers => "Update must be a non-empty object"
  | .unknownOperator name =>
    "Update must use operators ['$inc', '$set', '$unset'], got '" ++ name ++ "'"
  | .notObject operator => operator ++ " expects an object"
  | .notAmount path => "$inc value for '" ++ path ++ "' must be a number"
  | .changesIdentity => "_id cannot be updated"

/-- What an operator makes of a path and the value given for it. -/
def changeOf? (operator : String) : Option (String → Json → Except Fault Change) :=
  match operator with
  | "$set" => some fun path value => .ok (.set path value)
  | "$unset" => some fun path _ => .ok (.unset path)
  | "$inc" => some fun path value =>
    match value with
    | .number amount => .ok (.increase path amount)
    | _ => .error (.notAmount path)
  | _ => none

/-- The path is that of the identity or lies below it. -/
def isIdentityPath (path : String) : Bool :=
  path == "_id" || ['_', 'i', 'd', '.'].isPrefixOf path.toList

/-- The changes of one operator. -/
def readOperator (operator : String) (fields : Json) : Except Fault Update :=
  match changeOf? operator with
  | none => .error (.unknownOperator operator)
  | some change =>
    match fields with
    | .object members => do
      let changes ← members.mapM fun (path, value) => change path value
      if members.any fun (path, _) => isIdentityPath path then throw .changesIdentity
      return changes
    | _ => .error (.notObject operator)

/-- The changes of operators in order. -/
def readOperators (members : Json.Members) : Except Fault Update := do
  let changes ← members.mapM fun (operator, fields) => readOperator operator fields
  return changes.flatten

/-- The update that a value stands for. -/
def read : Json → Except Fault Update
  | .object [] => .error .notMembers
  | .object members => readOperators members
  | _ => .error .notMembers

/-! ## Meaning -/

/-- Why a change cannot be made. -/
inductive Failure where
  | notNumeric (path : String)
  | integerTooLarge
deriving DecidableEq, Repr

/-- The failure in words. -/
def Failure.message : Failure → String
  | .notNumeric path => "Cannot apply $inc to non-numeric field '" ++ path ++ "'"
  | .integerTooLarge => "int too large to convert to float"

/-- The sum of what stands at a path, where nothing counts as zero, and an amount. -/
def increased (mark : Nat) (path : String) (found : Option Json) (amount : Number) :
    Except Failure Json :=
  let sum (current : Number) : Except Failure Json :=
    match current.add? mark amount with
    | some total => .ok (.number total)
    | none => .error .integerTooLarge
  match found with
  | none => sum (.integer 0)
  | some (.number current) => sum current
  | some _ => .error (.notNumeric path)

/-- The document after one change; a sum that is not a number takes the mark. -/
def applyChange (mark : Nat) (document : Document) : Change → Except Failure Document
  | .set path value => .ok (document.assign path value)
  | .unset path => .ok (document.remove path)
  | .increase path amount => do
    let total ← increased mark path (document.lookup path) amount
    return document.assign path total

/--
The document after all changes.  Sums that are not a number get a mark of their own, so
that none of them passes for what stood in the document before.
-/
def apply (update : Update) (document : Document) : Except Failure Document :=
  update.foldlM (applyChange (Json.object document).freshMark) document

end Update
end DocumentGate
