import DocumentGate.Dictionary
import DocumentGate.Text.Blank
import DocumentGate.Text.Cut
import DocumentGate.Text.Lowercase
import DocumentGate.Text.Segments

/-!
# Cookies

A request carries its cookies in one header, as names and values between semicolons.
A value between double quotation marks is read without them and with its escapes
undone.  A response sets a cookie, or lets it expire, in a header of its own.

Names in response headers consist of few characters and are none of the names that
attributes of cookies have, so that a header always reads back as what was meant.
-/

namespace DocumentGate.Http.Cookie

/-! ## Reading -/

/-- The character that three octal digits stand for, the first of which is at most three. -/
def octalCharacter? (first second third : Char) : Option Char :=
  let isDigit (character last : Char) : Bool := decide ('0' ≤ character ∧ character ≤ last)
  if isDigit first '3' && isDigit second '7' && isDigit third '7' then
    some (Char.ofNat (Nat.ofDigitChars 8 [first, second, third] 0))
  else none

/--
Undo escapes.  A backslash stands, with three octal digits behind it, for the character
of that number, and otherwise for the character that follows it, unless a line ends there.
-/
def unescaped : List Char → List Char
  | [] => []
  | '\\' :: '\n' :: rest => '\\' :: '\n' :: unescaped rest
  | '\\' :: first :: second :: third :: rest =>
    match octalCharacter? first second third with
    | some character => character :: unescaped rest
    | none => first :: unescaped (second :: third :: rest)
  | '\\' :: character :: rest => character :: unescaped rest
  | character :: rest => character :: unescaped rest
termination_by characters => characters.length

/-- A value without the quotation marks around it, if it has both. -/
def unquoted (value : List Char) : List Char :=
  match value with
  | '"' :: rest => if rest.getLast? = some '"' then unescaped rest.dropLast else value
  | _ => value

/-- The name and the value in a part of a header; a part without an equals sign is a value. -/
def pairOf (part : List Char) : List Char × List Char :=
  match Text.cut '=' part with
  | (name, some value) => (Text.stripChars name, Text.stripChars value)
  | (value, none) => ([], Text.stripChars value)

/-- The cookies in a header; the last value of a name counts. -/
def readAll (header : String) : Dictionary String :=
  let pairs := (Text.segmentsOf ';' header.toList).map pairOf
  let filled := pairs.filter fun (name, value) => !(name.isEmpty && value.isEmpty)
  Dictionary.ofPairs (filled.map fun (name, value) =>
    (String.ofList name, String.ofList (unquoted value)))

/-! ## Writing -/

/-- Names that attributes of cookies have. -/
def attributeNames : List String :=
  ["comment", "domain", "expires", "httponly", "max-age", "path", "samesite", "secure", "version"]

/-- The character may stand in the name of a cookie. -/
def isNameCharacter (character : Char) : Bool :=
  character.isAlphanum || "!#$%&'*+-.^_`|~:".toList.contains character

/-- The text may be the name of a cookie in a response. -/
def isName (text : String) : Bool :=
  !text.isEmpty && text.toList.all isNameCharacter && !attributeNames.contains (Text.lower text)

/-- The header that sets a cookie for a session. -/
def setHeader (name token : String) : String :=
  name ++ "=" ++ token ++ "; HttpOnly; Path=/; SameSite=lax"

/-- The header that lets a cookie expire at once. -/
def clearHeader (name : String) : String :=
  name ++ "=\"\"; Max-Age=0; Path=/; SameSite=lax"

end DocumentGate.Http.Cookie
