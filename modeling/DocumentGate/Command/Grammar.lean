import DocumentGate.Argument.Literal
import DocumentGate.Command.Denylist
import DocumentGate.Command.Operation

/-!
# Commands

A command names a collection and an operation after a root prefix and gives one value
as its arguments: `prefix.collection.operation(arguments)`.  The checks run in a fixed
order: the prefix, the denylist, the shape, the operation, the arguments, and the
denylist once more over the keys and strings of the arguments, since escapes resolve
only there.  Arguments are data; nothing in a command is evaluated.
-/

namespace DocumentGate.Command

/-- What the settings say about commands. -/
structure Policy where
  rootPrefix : String
  allowed : List Operation
  deniedKeywords : List String
  depthLimit : Int

/-- A command that passed every check. -/
structure Descriptor where
  collection : String
  operation : Operation
  arguments : Json

/-- Why a command is refused. -/
inductive Fault where
  | notText
  | wrongPrefix (rootPrefix : String)
  | denied (keyword : String)
  | wrongShape (rootPrefix : String)
  | unsupported (operation : String)
  | arguments (fault : Argument.Fault)
deriving DecidableEq, Repr

/-- The fault in words. -/
def Fault.message : Fault → String
  | .notText => "Command must be a string"
  | .wrongPrefix rootPrefix => "Command must start with '" ++ rootPrefix ++ ".'"
  | .denied keyword => "Operation '" ++ keyword ++ "' is not allowed"
  | .wrongShape rootPrefix =>
    "Invalid command format; expected " ++ rootPrefix ++
      ".<collection>.<operation>(<arguments>)"
  | .unsupported operation => "Unsupported operation '" ++ operation ++ "'"
  | .arguments fault => fault.message

/-- The parts of a command that has the right shape. -/
structure Parts where
  collection : List Char
  operation : List Char
  arguments : List Char
deriving DecidableEq

/-- A name and the text after it, if a name comes next. -/
def spanName : List Char → Option (List Char × List Char)
  | [] => none
  | first :: rest =>
    if Argument.isNameStart first then
      some (first :: rest.takeWhile Argument.isNamePart, rest.dropWhile Argument.isNamePart)
    else none

/-- The text before the closing parenthesis at its end, if it is one line. -/
def enclosed? (text : List Char) : Option (List Char) :=
  if text.getLast? = some ')' && !text.dropLast.contains '\n' then some text.dropLast else none

/-- The parts of the text after the root prefix and its dot. -/
def parts? (text : List Char) : Option Parts := do
  let (collection, afterCollection) ← spanName text
  let '.' :: rest := afterCollection | none
  let (operation, afterOperation) ← spanName rest
  let '(' :: rest := afterOperation | none
  let arguments ← enclosed? rest
  return ⟨collection, operation, arguments⟩

/-- The operation of a name, if the policy allows it. -/
def Policy.operation? (policy : Policy) (name : String) : Option Operation :=
  (Operation.ofName? name).filter policy.allowed.contains

/-- Check the text of a command without the blanks around it. -/
def parseText (policy : Policy) (text : List Char) : Except Fault Descriptor := do
  let start := policy.rootPrefix.toList ++ ['.']
  unless start.isPrefixOf text do throw (.wrongPrefix policy.rootPrefix)
  if let some keyword := Denylist.mentioned? policy.deniedKeywords (String.ofList text) then
    throw (.denied keyword)
  let some parts := parts? (text.drop start.length) | throw (.wrongShape policy.rootPrefix)
  let name := String.ofList parts.operation
  let some operation := policy.operation? name | throw (.unsupported name)
  let arguments ← (Argument.readChars policy.depthLimit parts.arguments).mapError .arguments
  if let some keyword := Denylist.mentionedIn? policy.deniedKeywords arguments then
    throw (.denied keyword)
  return ⟨String.ofList parts.collection, operation, arguments⟩

/-- Check a command, which must be a string. -/
def parse (policy : Policy) (command : Json) : Except Fault Descriptor :=
  match command with
  | .string text => parseText policy (Text.stripChars text.toList)
  | _ => .error .notText

end DocumentGate.Command
