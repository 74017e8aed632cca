import DocumentGate.Json.Reader
import DocumentGate.Toml.Value

/-!
# The smallest parts of a settings file

Strings in four forms, numbers in four bases, dates and times.  Each part is taken from
the start of a text and leaves the rest.
-/

namespace DocumentGate.Toml

/-- Why a settings file cannot be read. -/
inductive Fault where
  | malformed
  /-- A whole number of so many digits is beyond the limit. -/
  | oversized (digits : Nat)
deriving DecidableEq, Repr

/-- What is left of the text after a part of it. -/
abbrev Reading (α : Type) := Except Fault (α × List Char)

/-- The text is not well formed. -/
def fail {α : Type} : Except Fault α :=
  .error .malformed

/-- Blanks inside a line. -/
def isInlineBlank (character : Char) : Bool :=
  character = ' ' || character = '\t'

/-- Blanks and ends of lines. -/
def isBlankOrLine (character : Char) : Bool :=
  isInlineBlank character || character = '\n'

/-- The text after the blanks at its start. -/
def skipInline (input : List Char) : List Char :=
  input.dropWhile isInlineBlank

/-- A control character that may not stand in a string or a comment of one line. -/
def isIllegal (character : Char) : Bool :=
  (character.toNat < 0x20 && character != '\t') || character.toNat == 0x7F

/-- A control character that may not stand in a string of several lines. -/
def isIllegalInLines (character : Char) : Bool :=
  isIllegal character && character != '\n'

/-- The text after a comment, if one starts it. -/
def skipComment (input : List Char) : Except Fault (List Char) :=
  match input with
  | '#' :: rest =>
    if (rest.takeWhile (· != '\n')).any isIllegal then fail
    else .ok (rest.dropWhile (· != '\n'))
  | _ => .ok input

/-- The text without the given start. -/
def dropStart? (start input : List Char) : Option (List Char) :=
  if start.isPrefixOf input then some (input.drop start.length) else none

/-- The character of a code in hexadecimal digits at the start of a text. -/
def readCode (digits : Nat) (input : List Char) : Reading Char :=
  if (input.take digits).length = digits then
    match Text.hexValue? (input.take digits) with
    | some code =>
      if code.isValidChar then .ok (Char.ofNat code, input.drop digits) else fail
    | none => fail
  else fail

/-- The character that a letter after a backslash stands for. -/
def escaped? : Char → Option Char
  | 'b' => some '\x08'
  | 't' => some '\t'
  | 'n' => some '\n'
  | 'f' => some '\x0c'
  | 'r' => some '\r'
  | '"' => some '"'
  | '\\' => some '\\'
  | _ => none

/--
What a backslash and the text after it stand for.  In a string of several lines a
backslash at the end of a line drops the blanks and ends of lines after it.
-/
def readEscape (lines : Bool) (rest : List Char) : Reading (List Char) :=
  match rest with
  | [] => fail
  | letter :: after =>
    if lines && isBlankOrLine letter then
      match rest.dropWhile isInlineBlank with
      | [] => .ok ([], [])
      | '\n' :: following => .ok ([], following.dropWhile isBlankOrLine)
      | _ => fail
    else if letter = 'u' then (readCode 4 after).map fun (value, after) => ([value], after)
    else if letter = 'U' then (readCode 8 after).map fun (value, after) => ([value], after)
    else
      match escaped? letter with
      | some value => .ok ([value], after)
      | none => fail

/--
A string with escapes after its opening marks, up to its closing mark or marks.  Every
step consumes a character, so as much fuel as there are characters is enough.
-/
def readEscaped (lines : Bool) :
    (fuel : Nat) → List Char → Except Fault (List Char × List Char)
  | 0, _ => fail
  | fuel + 1, input =>
    match input with
    | [] => fail
    | '"' :: rest =>
      if !lines then .ok ([], rest)
      else
        match dropStart? ['"', '"'] rest with
        | some after => .ok ([], after)
        | none => (readEscaped lines fuel rest).map fun (value, after) => ('"' :: value, after)
    | '\\' :: rest => do
      let (start, after) ← readEscape lines rest
      let (value, after) ← readEscaped lines fuel after
      return (start ++ value, after)
    | character :: rest =>
      if (if lines then isIllegalInLines character else isIllegal character) then fail
      else (readEscaped lines fuel rest).map fun (value, after) => (character :: value, after)

/-- A string without escapes after its opening mark, on one line. -/
def readLiteral (input : List Char) : Reading (List Char) :=
  let value := input.takeWhile (· != '\'')
  match input.dropWhile (· != '\'') with
  | _ :: after => if value.any isIllegal then fail else .ok (value, after)
  | [] => fail

/-- A string without escapes after its opening marks, over several lines. -/
def readLiteralLines : List Char → Reading (List Char)
  | [] => fail
  | '\'' :: '\'' :: '\'' :: after => .ok ([], after)
  | character :: rest =>
    if isIllegalInLines character then fail
    else (readLiteralLines rest).map fun (value, after) => (character :: value, after)

/-- Up to two marks more than the three that close a string belong to the string. -/
def withExtraMarks (mark : Char) (read : List Char × List Char) : List Char × List Char :=
  let (value, after) := read
  let extra := ((after.take 2).takeWhile (· == mark)).length
  (value ++ List.replicate extra mark, after.drop extra)

/-- The text without an end of line at its start. -/
def dropLineEnd : List Char → List Char
  | '\n' :: rest => rest
  | input => input

/-- A string in any of its forms, if one starts the text. -/
def readText? (input : List Char) : Option (Reading String) :=
  let reading : Option (Reading (List Char)) :=
    match dropStart? ['"', '"', '"'] input, dropStart? ['\'', '\'', '\''] input with
    | some rest, _ =>
      some ((readEscaped true (rest.length + 1) (dropLineEnd rest)).map (withExtraMarks '"'))
    | _, some rest =>
      some ((readLiteralLines (dropLineEnd rest)).map (withExtraMarks '\''))
    | none, none =>
      match input with
      | '"' :: rest => some (readEscaped false (rest.length + 1) rest)
      | '\'' :: rest => some (readLiteral rest)
      | _ => none
  reading.map fun result => result.map fun (value, after) => (String.ofList value, after)

/-- Digits that may be joined by single underscores, of which the first is a digit. -/
def spanJoined (isDigit : Char → Bool) : List Char → List Char × List Char
  | [] => ([], [])
  | digit :: '_' :: next :: rest =>
    if isDigit digit && isDigit next then
      let (digits, after) := spanJoined isDigit (next :: rest)
      (digit :: digits, after)
    else if isDigit digit then ([digit], '_' :: next :: rest)
    else ([], digit :: '_' :: next :: rest)
  | digit :: rest =>
    if isDigit digit then
      let (digits, after) := spanJoined isDigit rest
      (digit :: digits, after)
    else ([], digit :: rest)

/-- The value of digits in a base that is a power of two. -/
def valueInBase (base : Nat) (digits : List Char) : Nat :=
  digits.foldl (fun value digit => value * base + (Text.hexDigitValue? digit).getD 0) 0

/-- A digit below a base of at most sixteen. -/
def isDigitBelow (base : Nat) (character : Char) : Bool :=
  match Text.hexDigitValue? character with
  | some value => value < base
  | none => false

/-- A whole number in hexadecimal, octal or binary digits. -/
def readBased? (input : List Char) : Option (Int × List Char) :=
  let digitsIn (base : Nat) (rest : List Char) : Option (Int × List Char) :=
    let (digits, after) := spanJoined (isDigitBelow base) rest
    if digits.isEmpty then none else some ((valueInBase base digits : Nat), after)
  match input with
  | '0' :: 'x' :: rest => digitsIn 16 rest
  | '0' :: 'o' :: rest => digitsIn 8 rest
  | '0' :: 'b' :: rest => digitsIn 2 rest
  | _ => none

/-- A decimal number, whole or not. -/
def readDecimal? (input : List Char) : Option (Reading Toml) :=
  let (negative, unsigned) := match input with
    | '-' :: rest => (true, rest)
    | '+' :: rest => (false, rest)
    | rest => (false, rest)
  let (whole, afterWhole) := match unsigned with
    | '0' :: rest => (['0'], rest)
    | rest => spanJoined Char.isDigit rest
  if whole.isEmpty then none
  else
    let (fraction, afterFraction) := match afterWhole with
      | '.' :: rest =>
        let (digits, after) := spanJoined Char.isDigit rest
        if digits.isEmpty then ([], afterWhole) else (digits, after)
      | _ => ([], afterWhole)
    let (power, after) : Option Int × List Char := match afterFraction with
      | mark :: rest =>
        if mark = 'e' || mark = 'E' then
          let (down, digits) := match rest with
            | '-' :: digits => (true, digits)
            | '+' :: digits => (false, digits)
            | digits => (false, digits)
          let (digits, after) := spanJoined Char.isDigit digits
          if digits.isEmpty then (none, afterFraction)
          else (some (Double.signed down (Nat.ofDigitChars 10 digits 0)), after)
        else (none, afterFraction)
      | [] => (none, afterFraction)
    if fraction.isEmpty && power.isNone then
      if Number.digitLimit < whole.length then some (.error (.oversized whole.length))
      else some (.ok (.integer (Double.signed negative (Nat.ofDigitChars 10 whole 0)), after))
    else
      some (.ok (.double (Double.ofDecimal negative (Nat.ofDigitChars 10 (whole ++ fraction) 0)
        (power.getD 0 - fraction.length)), after))

/-- A double without digits. -/
def readNamedDouble? (input : List Char) : Option (Double × List Char) :=
  let (negative, unsigned) := match input with
    | '-' :: rest => (true, rest)
    | '+' :: rest => (false, rest)
    | rest => (false, rest)
  match dropStart? ['i', 'n', 'f'] unsigned, dropStart? ['n', 'a', 'n'] unsigned with
  | some after, _ => some (.infinite negative, after)
  | _, some after => some (.nan 0, after)
  | none, none => none

/-- A number of exactly so many digits, within bounds. -/
def spanField? (digits low high : Nat) (input : List Char) : Option (Nat × List Char) :=
  let taken := input.take digits
  let value := Nat.ofDigitChars 10 taken 0
  if taken.length = digits && taken.all Char.isDigit && low ≤ value && value ≤ high then
    some (value, input.drop digits)
  else none

/-- A time of day. -/
def skipTime? (input : List Char) : Option (List Char) := do
  let (_, rest) ← spanField? 2 0 23 input
  let rest ← dropStart? [':'] rest
  let (_, rest) ← spanField? 2 0 59 rest
  let rest ← dropStart? [':'] rest
  let (_, rest) ← spanField? 2 0 59 rest
  match rest with
  | '.' :: digits =>
    if (digits.takeWhile Char.isDigit).isEmpty then return rest
    else return digits.dropWhile Char.isDigit
  | _ => return rest

/-- The text after an offset from universal time, if one starts it. -/
def skipOffset (input : List Char) : List Char :=
  match input with
  | 'Z' :: rest => rest
  | 'z' :: rest => rest
  | sign :: rest =>
    if sign = '+' || sign = '-' then
      let offset := do
        let (_, rest) ← spanField? 2 0 23 rest
        let rest ← dropStart? [':'] rest
        let (_, rest) ← spanField? 2 0 59 rest
        return rest
      offset.getD input
    else input
  | [] => input

/-- The number of days in a month. -/
def daysIn (year month : Nat) : Nat :=
  if month = 2 then
    if year % 4 = 0 && (year % 100 != 0 || year % 400 = 0) then 29 else 28
  else if [4, 6, 9, 11].contains month then 30
  else 31

/-- A date, with or without a time of day and an offset; the day must exist. -/
def readMoment? (input : List Char) : Option (Reading Toml) := do
  let (year, rest) ← spanField? 4 0 9999 input
  let rest ← dropStart? ['-'] rest
  let (month, rest) ← spanField? 2 1 12 rest
  let rest ← dropStart? ['-'] rest
  let (day, rest) ← spanField? 2 1 31 rest
  let after := match rest with
    | separator :: time =>
      if separator = 'T' || separator = 't' || separator = ' ' then
        match skipTime? time with
        | some after => skipOffset after
        | none => rest
      else rest
    | [] => rest
  if 1 ≤ year && day ≤ daysIn year month then return .ok (.moment, after) else return fail

/-- A date, a time or a number, if one starts the text. -/
def readScalar? (input : List Char) : Option (Reading Toml) :=
  (readMoment? input).or <|
    ((skipTime? input).map fun after => .ok (.moment, after)).or <|
      ((readBased? input).map fun (value, after) => .ok (.integer value, after)).or <|
        (readDecimal? input).or <|
          (readNamedDouble? input).map fun (value, after) => .ok (.double value, after)

end DocumentGate.Toml
