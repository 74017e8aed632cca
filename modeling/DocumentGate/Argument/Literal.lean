import DocumentGate.Argument.Token
import DocumentGate.Json.Writer
import DocumentGate.Text.Quoted

/-!
# The arguments of a command

The tokens of the arguments are spelled again in the strict form and read as one value.
Strings in apostrophes get double quotation marks, identifiers before a colon become
strings, and a comma before a closing bracket is dropped unless nothing stands before
it.  Brackets may nest only to a limit.  The strict spelling puts nothing between
tokens, so that neighbours which the format does not separate run together.  Blank
arguments are an empty object.
-/

namespace DocumentGate.Argument

/-- Why arguments are not a value. -/
inductive Fault where
  | unexpectedCharacter (character : Char) (position : Nat)
  | nestedTooDeep (limit : Int)
  | unexpectedIdentifier (name : String)
  | malformed (fault : Json.Fault)
  /-- A whole number of so many digits; this one is not reported as a fault of the text. -/
  | oversized (digits : Nat)
deriving DecidableEq, Repr

/-- The fault in words. -/
def Fault.message : Fault → String
  | .unexpectedCharacter character position =>
    "Unexpected character " ++ Text.quoted (String.singleton character) ++ " at position " ++
      toString position
  | .nestedTooDeep limit => "Arguments nested deeper than " ++ toString limit ++ " levels"
  | .unexpectedIdentifier name => "Unexpected identifier '" ++ name ++ "' in arguments"
  | .malformed fault => "Could not parse arguments: " ++ fault.message
  | .oversized digits => Json.oversizedLiteralMessage digits

/-- The body of a string in apostrophes, as the body of one in double quotation marks. -/
def requote : List Char → List Char
  | '\\' :: next :: rest =>
    (if next = '\'' then ['\''] else ['\\', next]) ++ requote rest
  | character :: rest =>
    (if character = '"' then ['\\', '"'] else [character]) ++ requote rest
  | [] => []

/-- The token opens an object or an array. -/
def Token.opens (token : Token) : Bool :=
  token = .punctuation '{' || token = .punctuation '['

/-- The token closes an object or an array. -/
def Token.closes (token : Token) : Bool :=
  token = .punctuation '}' || token = .punctuation ']'

/-- A comma with an element before it and a closing bracket after it adds nothing. -/
def isTrailingComma (previous : Option Token) (following : List Token) : Bool :=
  match previous, following with
  | some before, after :: _ => after.closes && !before.opens && before != .punctuation ','
  | _, _ => false

/-- The names of values. -/
def valueNames : List (List Char) :=
  ["true".toList, "false".toList, "null".toList]

/-- An identifier as the key of a member or as the name of a value. -/
def spellIdentifier (characters : List Char) (following : List Token) :
    Except Fault (List Char) :=
  if following.head? = some (.punctuation ':') then .ok ('"' :: characters ++ ['"'])
  else if valueNames.contains characters then .ok characters
  else .error (.unexpectedIdentifier (String.ofList characters))

/--
The strict spelling of tokens.  `depth` counts the brackets opened and not closed so
far, and `previous` is the token before.
-/
def spell (limit depth : Int) (previous : Option Token) : List Token → Except Fault (List Char)
  | [] => .ok []
  | token :: following =>
    match token with
    | .doubleQuoted body => do
      return '"' :: body ++ '"' :: (← spell limit depth token following)
    | .singleQuoted body => do
      return '"' :: requote body ++ '"' :: (← spell limit depth token following)
    | .number characters => do
      return characters ++ (← spell limit depth token following)
    | .identifier characters => do
      let spelled ← spellIdentifier characters following
      return spelled ++ (← spell limit depth token following)
    | .punctuation mark =>
      if token.opens then
        if limit < depth + 1 then .error (.nestedTooDeep limit)
        else do return mark :: (← spell limit (depth + 1) token following)
      else if token.closes then do
        return mark :: (← spell limit (depth - 1) token following)
      else if mark = ',' && isTrailingComma previous following then
        spell limit depth token following
      else do return mark :: (← spell limit depth token following)

/-- The tokens of a text, or the fault of the character that starts none. -/
def tokenize (characters : List Char) : Except Fault (List Token) :=
  match tokens (characters.length + 1) characters with
  | .ok found => .ok found
  | .error rest =>
    .error (.unexpectedCharacter (rest.headD ' ') (characters.length - rest.length))

/-- The value of arguments that nest at most to the limit. -/
def readChars (limit : Int) (characters : List Char) : Except Fault Json :=
  if characters.all Text.isBlank then .ok (.object [])
  else do
    let spelled ← spell limit 0 none (← tokenize characters)
    match Json.readChars spelled with
    | .ok value => return value
    | .error (.malformed fault _) => throw (.malformed fault)
    | .error (.oversized digits) => throw (.oversized digits)

/-- The value of arguments that nest at most to the limit. -/
def read (limit : Int) (text : String) : Except Fault Json :=
  readChars limit text.toList

end DocumentGate.Argument
