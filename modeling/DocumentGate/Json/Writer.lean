import DocumentGate.Json.Value
import DocumentGate.Number.Notation
import DocumentGate.Text.Hexadecimal
import DocumentGate.Text.Units

/-!
# Writing values

A value is written on one line.  Two styles are in use: the stored style puts a blank
after commas and colons and writes every character outside the printable ASCII range
by its code, in one or two units of sixteen bits; the compact style puts no blanks and
keeps all characters but the controls.  Each style has a notation for doubles of its own.
A value that has to be read again is only written while none of its whole numbers is
beyond the digit limit; otherwise no text is produced at all.
-/

namespace DocumentGate.Json

/-- What a written form may choose. -/
structure Style where
  afterElement : List Char
  afterKey : List Char
  asciiOnly : Bool
  doubles : Number.Notation

/-- The style of documents at rest and of values in answers. -/
def Style.stored : Style := ⟨[',', ' '], [':', ' '], true, ⟨3, 16, 2, true⟩⟩

/-- The style of response bodies. -/
def Style.compact : Style := ⟨[','], [':'], false, ⟨4, 16, 1, false⟩⟩

/-- A character written by the codes of its units. -/
def escapeUnits (character : Char) : List Char :=
  (Text.unitsOf character.toNat).flatMap fun unit => '\\' :: 'u' :: Text.hexDigits 4 unit

/-- One character of a written string. -/
def writeCharacter (style : Style) (character : Char) : List Char :=
  if character = '"' then ['\\', '"']
  else if character = '\\' then ['\\', '\\']
  else if character = '\n' then ['\\', 'n']
  else if character = '\r' then ['\\', 'r']
  else if character = '\t' then ['\\', 't']
  else if character = '\x0c' then ['\\', 'f']
  else if character = '\x08' then ['\\', 'b']
  else if character.toNat < 0x20 then escapeUnits character
  else if style.asciiOnly && 0x7E < character.toNat then escapeUnits character
  else [character]

/-- A string between double quotation marks. -/
def writeString (style : Style) (text : String) : List Char :=
  '"' :: text.toList.flatMap (writeCharacter style) ++ ['"']

mutual
/-- A value in the given style. -/
def write (style : Style) : Json → List Char
  | .null => ['n', 'u', 'l', 'l']
  | .boolean true => ['t', 'r', 'u', 'e']
  | .boolean false => ['f', 'a', 'l', 's', 'e']
  | .number value => value.written style.doubles
  | .string text => writeString style text
  | .array elements => '[' :: writeElements style elements ++ [']']
  | .object members => '{' :: writeMembers style members ++ ['}']
termination_by structural value => value

/-- Elements with the separator between them. -/
def writeElements (style : Style) : List Json → List Char
  | [] => []
  | element :: rest =>
    write style element ++
      match rest with
      | [] => []
      | _ :: _ => style.afterElement ++ writeElements style rest
termination_by structural elements => elements

/-- Members with the separator between them. -/
def writeMembers (style : Style) : List (String × Json) → List Char
  | [] => []
  | (key, value) :: rest =>
    writeString style key ++ style.afterKey ++ write style value ++
      match rest with
      | [] => []
      | _ :: _ => style.afterElement ++ writeMembers style rest
termination_by structural members => members
end

/-- The value in the stored style. -/
def text (value : Json) : String :=
  String.ofList (write .stored value)

mutual
/-- Some whole number in the value has more digits than are written. -/
def hasOversizedNumber : Json → Bool
  | .number value => value.isOversized
  | .array elements => anyOversized elements
  | .object members => anyMemberOversized members
  | _ => false
termination_by structural value => value

/-- `hasOversizedNumber` of some element. -/
def anyOversized : List Json → Bool
  | [] => false
  | element :: rest => hasOversizedNumber element || anyOversized rest
termination_by structural elements => elements

/-- `hasOversizedNumber` of the value of some member. -/
def anyMemberOversized : List (String × Json) → Bool
  | [] => false
  | (_, value) :: rest => hasOversizedNumber value || anyMemberOversized rest
termination_by structural members => members
end

/-- The text of a value that can be written in full. -/
def write? (style : Style) (value : Json) : Option String :=
  if hasOversizedNumber value then none else some (String.ofList (write style value))

/-- What is said of a whole number that has too many digits to be written. -/
def oversizedMessage : String :=
  "Exceeds the limit (4300 digits) for integer string conversion; " ++
    "use sys.set_int_max_str_digits() to increase the limit"

/-- A double with its first digit in the fifth place after the point, in both styles. -/
example :
    write .stored (.number (.double (.ofDecimal false 15 (-6)))) = "1.5e-05".toList ∧
      write .compact (.number (.double (.ofDecimal false 15 (-6)))) = "0.000015".toList := by
  decide +kernel

end DocumentGate.Json
