import DocumentGate.Json.Reader
import DocumentGate.Text.Blank
import DocumentGate.Text.Cut

/-!
# Coercion of settings

A setting that is a number may be given as a number of the other kind, as a boolean
or as a string that spells a number.  Blanks around a spelled number are dropped, unless
underscores join its digits and it is a double.  A whole number may be spelled with a plus
sign, with zeros in front of it and with zeros after a point.  Each kind of setting has
its own faults.  A number is never turned into a string.
-/

namespace DocumentGate.Settings

/-- What is wrong with the value of one setting. -/
inductive FieldFault where
  | greaterThan
  | lessThan
  | floatParsing
  | floatType
  | intParsing
  | intParsingSize
  | intType
  | intFromFloat
  | finiteNumber
  | stringType
  | tupleType
  | unknownOperations (names : List String)
  | emptyRootPrefix
deriving DecidableEq, Repr

/-- The fault by its name; the last two carry their own words. -/
def FieldFault.message : FieldFault → String
  | .greaterThan => "greater_than"
  | .lessThan => "less_than"
  | .floatParsing => "float_parsing"
  | .floatType => "float_type"
  | .intParsing => "int_parsing"
  | .intParsingSize => "int_parsing_size"
  | .intType => "int_type"
  | .intFromFloat => "int_from_float"
  | .finiteNumber => "finite_number"
  | .stringType => "string_type"
  | .tupleType => "tuple_type"
  | .unknownOperations names =>
    "value_error(Unknown operations in allow-list: " ++ ", ".intercalate names ++ ")"
  | .emptyRootPrefix => "value_error(root_prefix must not be empty)"

/-- Blanks around a spelled number: all but the four separator controls. -/
def isPadding (character : Char) : Bool :=
  Text.isBlank character && !(0x1C ≤ character.toNat && character.toNat ≤ 0x1F)

/-- A text without the blanks around a spelled number. -/
def trimmed (text : String) : List Char :=
  ((text.toList.dropWhile isPadding).reverse.dropWhile isPadding).reverse

/-- A sign, if one comes first, and the rest. -/
def spanSign : List Char → Bool × List Char
  | '-' :: rest => (true, rest)
  | '+' :: rest => (false, rest)
  | rest => (false, rest)

/-- Digits joined by single underscores, without the underscores. -/
def withoutUnderscores? (characters : List Char) : Option (List Char) :=
  let parts := characters.splitOn '_'
  if 1 < parts.length && parts.all (!·.isEmpty) then some parts.flatten else none

/-- The double that a text spells: digits around a point, a power of ten, or a name. -/
def spelledDouble? (characters : List Char) : Option Double :=
  let (negative, unsigned) := spanSign characters
  let name := unsigned.map Char.toLower
  if name = "inf".toList || name = "infinity".toList then some (.infinite negative)
  else if name = "nan".toList then some (.nan 0)
  else
    let (whole, afterWhole) := Json.spanDigits unsigned
    let (fraction, afterFraction) := match afterWhole with
      | '.' :: rest => Json.spanDigits rest
      | rest => ([], rest)
    let (power, after) := Json.spanPower afterFraction
    if after.isEmpty && !(whole.isEmpty && fraction.isEmpty) then
      some (.ofDecimal negative (Nat.ofDigitChars 10 (whole ++ fraction) 0)
        (power.getD 0 - fraction.length))
    else none

/-- A minus sign, if one comes first, and the rest. -/
def spanMinus : List Char → Bool × List Char
  | '-' :: rest => (true, rest)
  | rest => (false, rest)

/--
The whole number that a text is: digits without a zero in front of others, after a minus
sign if there is one.  The number of digits is limited, whatever comes after them.
-/
def plainInteger (characters : List Char) : Except FieldFault Int :=
  let (negative, unsigned) := spanMinus characters
  let (digits, after) := Json.spanWhole unsigned
  if Number.digitLimit < digits.length then .error .intParsingSize
  else if digits.isEmpty || !after.isEmpty then .error .intParsing
  else .ok (Double.signed negative (Nat.ofDigitChars 10 digits 0))

/-- What a number without zeros in front of it starts with. -/
def isFirst (character : Char) : Bool :=
  character = '-' || ('1' ≤ character && character ≤ '9')

/--
The rest of a number after zeros and underscores, the last of which is given: it stays
where a point or nothing at all follows.
-/
def afterZeros? (last : Char) : List Char → Option (List Char)
  | [] => some [last]
  | character :: rest =>
    if character = '0' || character = '_' then afterZeros? character rest
    else if character = '.' then some (last :: character :: rest)
    else if isFirst character then some (character :: rest)
    else none

/-- A number without the zeros in front of it. -/
def withoutZeros? : List Char → Option (List Char)
  | [] => none
  | character :: rest =>
    if character = '0' then afterZeros? character rest
    else if isFirst character then some (character :: rest)
    else none

/-- A number without a point that zeros only follow, and at least one. -/
def withoutZeroFraction (characters : List Char) : List Char :=
  match Text.cut '.' characters with
  | (whole, some fraction) =>
    if !fraction.isEmpty && fraction.all (· == '0') then whole else characters
  | (_, none) => characters

/-- A number without a plus sign, which no other sign may follow. -/
def withoutPlus? : List Char → Option (List Char)
  | '+' :: '-' :: _ => none
  | '+' :: rest => some rest
  | characters => some characters

/--
The plain spelling of a whole number, if the text can have one.  A minus sign stays in
front, and zeros behind it count as zeros in front of the number.
-/
def plainSpelling? (text : String) : Option (List Char) := do
  let (negative, unsigned) := spanMinus (← withoutPlus? (trimmed text))
  let number := withoutZeroFraction (← withoutZeros? unsigned)
  let plain := (withoutUnderscores? number).getD number
  return if negative then '-' :: plain else plain

/--
The whole number that a text spells, plainly or not.  That a number is too long is only
told of one that is spelled plainly.
-/
def spelledInteger (text : String) : Except FieldFault Int :=
  match plainInteger text.toList with
  | .error .intParsing =>
    match (plainSpelling? text).map plainInteger with
    | some (.ok number) => .ok number
    | _ => .error .intParsing
  | result => result

/-- The setting as a double. -/
def toDouble : Json → Except FieldFault Double
  | .number (.double value) => .ok value
  | .number (.integer value) =>
    match Double.ofInteger? value with
    | some value => .ok value
    | none => .error .floatType
  | .boolean value => .ok (.ofDecimal false value.toNat 0)
  | .string text =>
    match (spelledDouble? (trimmed text)).or
        ((withoutUnderscores? text.toList).bind spelledDouble?) with
    | some value => .ok value
    | none => .error .floatParsing
  | _ => .error .floatType

/-- The whole number that a double is, within sixty-four bits. -/
def wholeOfDouble (value : Double) : Except FieldFault Int :=
  match value.toRat? with
  | none => .error .finiteNumber
  | some exact =>
    if exact.den ≠ 1 then .error .intFromFloat
    else if exact.num.natAbs < Nat.pow 2 63 then .ok exact.num
    else .error .intParsingSize

/-- The setting as a whole number. -/
def toInteger : Json → Except FieldFault Int
  | .number (.integer value) => .ok value
  | .number (.double value) => wholeOfDouble value
  | .boolean value => .ok value.toNat
  | .string text => spelledInteger text
  | _ => .error .intType

/-- The setting as a string. -/
def toText : Json → Except FieldFault String
  | .string text => .ok text
  | _ => .error .stringType

end DocumentGate.Settings
