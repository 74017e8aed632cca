import DocumentGate.Json.Reader
import DocumentGate.Text.Blank

/-!
# Tokens of the arguments of a command

Arguments are written in a relaxed form of the interchange format.  Their text is cut
into strings in either kind of quotation marks, numbers, identifiers and punctuation;
blanks between tokens are dropped.  A character that starts no token is a fault.
-/

namespace DocumentGate.Argument

/-- A token, with the characters it was written with. -/
inductive Token where
  /-- A string in double quotation marks, without them. -/
  | doubleQuoted (body : List Char)
  /-- A string in apostrophes, without them. -/
  | singleQuoted (body : List Char)
  | number (characters : List Char)
  | identifier (characters : List Char)
  | punctuation (mark : Char)
deriving DecidableEq, Repr

/-- A letter of the ASCII range or the underscore. -/
def isNameStart (character : Char) : Bool :=
  character.isAlpha || character = '_'

/-- A letter or digit of the ASCII range or the underscore. -/
def isNamePart (character : Char) : Bool :=
  character.isAlphanum || character = '_'

/-- A character inside an identifier: dots and dollar signs join the parts of a path. -/
def isIdentifierPart (character : Char) : Bool :=
  isNamePart character || character = '$' || character = '.'

/-- The marks that stand for themselves. -/
def isPunctuation (character : Char) : Bool :=
  ['{', '}', '[', ']', ':', ','].contains character

/--
The body of a string up to its closing mark, and what follows.  A backslash keeps the
next character in the body; a string does not run over the end of a line.
-/
def spanQuoted (mark : Char) : List Char → Option (List Char × List Char)
  | [] => none
  | ['\\'] => none
  | '\\' :: next :: rest =>
    if next = '\n' then none
    else (spanQuoted mark rest).map fun (body, after) => ('\\' :: next :: body, after)
  | character :: rest =>
    if character = mark then some ([], rest)
    else if character = '\n' then none
    else (spanQuoted mark rest).map fun (body, after) => (character :: body, after)

/-- The longest number at the start of a text, and what follows. -/
def spanNumber (input : List Char) : Option (List Char × List Char) :=
  let (sign, unsigned) := match input with
    | '-' :: unsigned => (['-'], unsigned)
    | unsigned => ([], unsigned)
  let (whole, afterWhole) := Json.spanWhole unsigned
  if whole.isEmpty then none
  else
    let (_, afterFraction) := Json.spanFraction afterWhole
    let (_, after) := Json.spanPower afterFraction
    some (sign ++ unsigned.take (unsigned.length - after.length), after)

/-- The longest identifier at the start of a text, and what follows. -/
def spanIdentifier (input : List Char) : Option (List Char × List Char) :=
  let (dollar, name) := match input with
    | '$' :: name => (['$'], name)
    | name => ([], name)
  match name with
  | first :: rest =>
    if isNameStart first then
      some (dollar ++ first :: rest.takeWhile isIdentifierPart, rest.dropWhile isIdentifierPart)
    else none
  | [] => none

/-- The token at the start of a text that is not blank there, and what follows. -/
def next? (input : List Char) : Option (Token × List Char) :=
  match input with
  | [] => none
  | character :: rest =>
    if character = '"' then
      (spanQuoted '"' rest).map fun (body, after) => (.doubleQuoted body, after)
    else if character = '\'' then
      (spanQuoted '\'' rest).map fun (body, after) => (.singleQuoted body, after)
    else if character = '-' || character.isDigit then
      (spanNumber input).map fun (characters, after) => (.number characters, after)
    else if isPunctuation character then some (.punctuation character, rest)
    else (spanIdentifier input).map fun (characters, after) => (.identifier characters, after)

/--
The tokens of a text, or the text from the first character on that starts none.  Every
token has a character, so as much fuel as there are characters is enough.
-/
def tokens : (fuel : Nat) → List Char → Except (List Char) (List Token)
  | 0, _ => .ok []
  | fuel + 1, input =>
    match input.dropWhile Text.isBlank with
    | [] => .ok []
    | start =>
      match next? start with
      | some (token, after) => do return token :: (← tokens fuel after)
      | none => .error start

end DocumentGate.Argument
