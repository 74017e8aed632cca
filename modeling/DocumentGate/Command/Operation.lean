/-!
# Operations

The closed set of operations that a command may name, in the order in which settings
list them.
-/

namespace DocumentGate

/-- An operation on a collection. -/
inductive Operation where
  | find
  | findOne
  | insertOne
  | insertMany
  | updateOne
  | updateMany
  | deleteOne
  | deleteMany
deriving DecidableEq, Repr

namespace Operation

/-- Every operation. -/
def all : List Operation :=
  [.find, .findOne, .insertOne, .insertMany, .updateOne, .updateMany, .deleteOne, .deleteMany]

/-- The name that commands use. -/
def name : Operation → String
  | .find => "find"
  | .findOne => "findOne"
  | .insertOne => "insertOne"
  | .insertMany => "insertMany"
  | .updateOne => "updateOne"
  | .updateMany => "updateMany"
  | .deleteOne => "deleteOne"
  | .deleteMany => "deleteMany"

/-- The operation with a name. -/
def ofName? (name : String) : Option Operation :=
  all.find? fun operation => operation.name == name

@[simp]
theorem ofName?_name (operation : Operation) : ofName? operation.name = some operation := by
  cases operation <;> decide

end Operation
end DocumentGate
