import DocumentGate.Json.Value
import DocumentGate.Number.Notation
import DocumentGate.Text.Hexadecimal
import DocumentGate.Text.Units

/-!
# Reading values

A value is read from text by the rules of the interchange format, with three names
besides for the doubles that have no digits.  A key that is repeated keeps its first
place and takes its last value.  A number with neither a point nor a power of ten is a
whole number of any size up to the digit limit; every other one is the nearest double.

Reading works on the characters that are left.  A fault names its cause and how many
characters were left where it was found, which the caller turns into a position.
-/

namespace DocumentGate.Json

/-- What is wrong with a text that is not a value. -/
inductive Fault where
  | byteOrderMark
  | expectingValue
  | expectingName
  | expectingColon
  | expectingComma
  | extraData
  | unterminatedString
  | controlCharacter
  | invalidEscape
  | invalidUnicodeEscape
deriving DecidableEq, Repr

/-- The fault in words. -/
def Fault.message : Fault → String
  | .byteOrderMark => "Unexpected UTF-8 BOM (decode using utf-8-sig)"
  | .expectingValue => "Expecting value"
  | .expectingName => "Expecting property name enclosed in double quotes"
  | .expectingColon => "Expecting ':' delimiter"
  | .expectingComma => "Expecting ',' delimiter"
  | .extraData => "Extra data"
  | .unterminatedString => "Unterminated string starting at"
  | .controlCharacter => "Invalid control character at"
  | .invalidEscape => "Invalid \\escape"
  | .invalidUnicodeEscape => "Invalid \\uXXXX escape"

/-- Why reading stopped. -/
inductive Stop where
  /-- The text is not a value; so many characters were left at the fault. -/
  | malformed (fault : Fault) (remaining : Nat)
  /-- A whole number of so many digits is beyond the limit. -/
  | oversized (digits : Nat)
deriving DecidableEq, Repr

/-- Blanks between the parts of a value. -/
def isSpace (character : Char) : Bool :=
  character = ' ' || character = '\t' || character = '\n' || character = '\r'

/-- The text from its first character that is not blank. -/
def skipSpace (input : List Char) : List Char :=
  input.dropWhile isSpace

/-- The character that a letter after a backslash stands for. -/
def escaped? : Char → Option Char
  | '"' => some '"'
  | '\\' => some '\\'
  | '/' => some '/'
  | 'b' => some '\x08'
  | 'f' => some '\x0c'
  | 'n' => some '\n'
  | 'r' => some '\r'
  | 't' => some '\t'
  | _ => none

/--
The codes of a string up to its closing mark, and the text after it.  `opened` counts
the characters left at the opening mark.
-/
def readCodes (opened : Nat) : List Char → Except Stop (List Nat × List Char)
  | [] => .error (.malformed .unterminatedString opened)
  | '"' :: rest => .ok ([], rest)
  | ['\\'] => .error (.malformed .unterminatedString opened)
  | '\\' :: 'u' :: rest =>
    match rest with
    | first :: second :: third :: fourth :: after =>
      match Text.hexValue? [first, second, third, fourth], after.isEmpty with
      | some code, false => do
        let (codes, after) ← readCodes opened after
        return (code :: codes, after)
      | _, _ => .error (.malformed .invalidUnicodeEscape (rest.length + 1))
    | _ => .error (.malformed .invalidUnicodeEscape (rest.length + 1))
  | '\\' :: letter :: rest =>
    match escaped? letter with
    | some character => do
      let (codes, after) ← readCodes opened rest
      return (character.toNat :: codes, after)
    | none => .error (.malformed .invalidEscape (rest.length + 2))
  | character :: rest =>
    if character.toNat < 0x20 then .error (.malformed .controlCharacter (rest.length + 1))
    else do
      let (codes, after) ← readCodes opened rest
      return (character.toNat :: codes, after)

/-- A string after its opening mark. -/
def readString (rest : List Char) : Except Stop (String × List Char) := do
  let (codes, after) ← readCodes (rest.length + 1) rest
  return (String.ofList (Text.joinSurrogates codes), after)

/-- The digits at the start of a text, and what follows them. -/
def spanDigits (input : List Char) : List Char × List Char :=
  (input.takeWhile Char.isDigit, input.dropWhile Char.isDigit)

/-- The digits before the point: one zero, or digits that start with another one. -/
def spanWhole : List Char → List Char × List Char
  | '0' :: rest => (['0'], rest)
  | input => spanDigits input

/-- The digits after a point, if a point and a digit come next. -/
def spanFraction (input : List Char) : List Char × List Char :=
  match input with
  | '.' :: rest =>
    let (digits, after) := spanDigits rest
    if digits.isEmpty then ([], input) else (digits, after)
  | _ => ([], input)

/-- The power of ten, if a mark for it and a digit come next. -/
def spanPower (input : List Char) : Option Int × List Char :=
  match input with
  | mark :: rest =>
    if mark = 'e' || mark = 'E' then
      let (negative, unsigned) := match rest with
        | '-' :: unsigned => (true, unsigned)
        | '+' :: unsigned => (false, unsigned)
        | unsigned => (false, unsigned)
      let (digits, after) := spanDigits unsigned
      if digits.isEmpty then (none, input)
      else (some (Double.signed negative (Nat.ofDigitChars 10 digits 0)), after)
    else (none, input)
  | [] => (none, input)

/-- A number at the start of a text. -/
def readNumber (input : List Char) : Except Stop (Number × List Char) :=
  let (negative, unsigned) := match input with
    | '-' :: unsigned => (true, unsigned)
    | unsigned => (false, unsigned)
  let (whole, afterWhole) := spanWhole unsigned
  if whole.isEmpty then .error (.malformed .expectingValue input.length)
  else
    let (fraction, afterFraction) := spanFraction afterWhole
    let (power, after) := spanPower afterFraction
    if fraction.isEmpty && power.isNone then
      if Number.digitLimit < whole.length then .error (.oversized whole.length)
      else .ok (.integer (Double.signed negative (Nat.ofDigitChars 10 whole 0)), after)
    else
      .ok (.double (Double.ofDecimal negative (Nat.ofDigitChars 10 (whole ++ fraction) 0)
        (power.getD 0 - fraction.length)), after)

mutual
/--
A value at the start of a text, and what follows it.  A bracket costs two steps, so twice
as much fuel as there are characters is enough, and one more for the value itself.
-/
def readValue : (fuel : Nat) → List Char → Except Stop (Json × List Char)
  | 0, input => .error (.malformed .expectingValue input.length)
  | fuel + 1, input =>
    match input with
    | '"' :: rest => do
      let (text, after) ← readString rest
      return (.string text, after)
    | '{' :: rest =>
      match skipSpace rest with
      | '}' :: after => .ok (.object [], after)
      | start => do
        let (pairs, after) ← readMembers fuel start
        return (.object (Dictionary.ofPairs pairs), after)
    | '[' :: rest =>
      match skipSpace rest with
      | ']' :: after => .ok (.array [], after)
      | start => do
        let (elements, after) ← readElements fuel start
        return (.array elements, after)
    | 'n' :: 'u' :: 'l' :: 'l' :: after => .ok (.null, after)
    | 't' :: 'r' :: 'u' :: 'e' :: after => .ok (.boolean true, after)
    | 'f' :: 'a' :: 'l' :: 's' :: 'e' :: after => .ok (.boolean false, after)
    | 'N' :: 'a' :: 'N' :: after => .ok (.number (.double (.nan 0)), after)
    | 'I' :: 'n' :: 'f' :: 'i' :: 'n' :: 'i' :: 't' :: 'y' :: after =>
      .ok (.number (.double (.infinite false)), after)
    | '-' :: 'I' :: 'n' :: 'f' :: 'i' :: 'n' :: 'i' :: 't' :: 'y' :: after =>
      .ok (.number (.double (.infinite true)), after)
    | _ => do
      let (value, after) ← readNumber input
      return (.number value, after)

/-- The members of an object up to its closing bracket, from the first key on. -/
def readMembers : (fuel : Nat) → List Char → Except Stop (List (String × Json) × List Char)
  | 0, input => .error (.malformed .expectingName input.length)
  | fuel + 1, input =>
    match input with
    | '"' :: rest => do
      let (key, afterKey) ← readString rest
      match skipSpace afterKey with
      | ':' :: rest =>
        let (value, afterValue) ← readValue fuel (skipSpace rest)
        match skipSpace afterValue with
        | '}' :: after => return ([(key, value)], after)
        | ',' :: rest =>
          let (pairs, after) ← readMembers fuel (skipSpace rest)
          return ((key, value) :: pairs, after)
        | other => .error (.malformed .expectingComma other.length)
      | other => .error (.malformed .expectingColon other.length)
    | _ => .error (.malformed .expectingName input.length)

/-- The elements of an array up to its closing bracket, from the first one on. -/
def readElements : (fuel : Nat) → List Char → Except Stop (List Json × List Char)
  | 0, input => .error (.malformed .expectingValue input.length)
  | fuel + 1, input => do
    let (element, afterElement) ← readValue fuel input
    match skipSpace afterElement with
    | ']' :: after => return ([element], after)
    | ',' :: rest =>
      let (elements, after) ← readElements fuel (skipSpace rest)
      return (element :: elements, after)
    | other => .error (.malformed .expectingComma other.length)
end

/-- The value that a whole text is, blanks around it aside. -/
def readChars (input : List Char) : Except Stop Json :=
  match input with
  | '\uFEFF' :: _ => .error (.malformed .byteOrderMark input.length)
  | _ => do
    let (value, after) ← readValue (2 * input.length + 1) (skipSpace input)
    match skipSpace after with
    | [] => return value
    | rest => .error (.malformed .extraData rest.length)

/-- Why a text could not be read, with the place in it. -/
inductive ReadError where
  | malformed (fault : Fault) (position line column : Nat)
  | oversized (digits : Nat)
deriving DecidableEq, Repr

/-- The place in a text where so many characters are left. -/
def ReadError.ofStop (input : List Char) : Stop → ReadError
  | .oversized digits => .oversized digits
  | .malformed fault remaining =>
    let before := input.take (input.length - remaining)
    let lastLine := before.reverse.takeWhile (· != '\n')
    .malformed fault before.length (before.count '\n' + 1) (lastLine.length + 1)

/-- What is said of a text that holds a whole number of too many digits. -/
def oversizedLiteralMessage (digits : Nat) : String :=
  "Exceeds the limit (4300 digits) for integer string conversion: value has " ++
    toString digits ++ " digits; use sys.set_int_max_str_digits() to increase the limit"

/-- The error in words, with the place counted in lines, columns and characters. -/
def ReadError.message : ReadError → String
  | .malformed fault position line column =>
    fault.message ++ ": line " ++ toString line ++ " column " ++ toString column ++
      " (char " ++ toString position ++ ")"
  | .oversized digits => oversizedLiteralMessage digits

/-- The value that a text is. -/
def read (text : String) : Except ReadError Json :=
  (readChars text.toList).mapError (ReadError.ofStop text.toList)

end DocumentGate.Json
