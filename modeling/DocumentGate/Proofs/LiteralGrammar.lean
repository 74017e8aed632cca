import DocumentGate.Argument.Literal
import Mathlib.Data.List.Chain

/-!
# The grammar of arguments

Which texts are arguments, and which values they are, is said here without any reader.
A text is a list of tokens with blanks between them.  A value is derived from tokens by
rules for names, numbers, strings, arrays and objects, in which a comma may stand before
a closing bracket when something stands before the comma.

Strings are the strict ones or those in apostrophes, whose bodies may hold quotation
marks and escaped apostrophes besides.  Of a key that is repeated the last value counts.
-/

namespace DocumentGate.Argument

/-! ## Texts as tokens -/

/-- The characters of a token. -/
def Token.written : Token → List Char
  | .doubleQuoted body => '"' :: (body ++ ['"'])
  | .singleQuoted body => '\'' :: (body ++ ['\''])
  | .number characters => characters
  | .identifier characters => characters
  | .punctuation mark => [mark]

/-- The text is the tokens in order, with blanks only around them. -/
inductive Spaced : List Char → List Token → Prop where
  | blank {text} (blank : ∀ character ∈ text, Text.isBlank character = true) : Spaced text []
  | token {before rest token tokens}
      (blank : ∀ character ∈ before, Text.isBlank character = true)
      (further : Spaced rest tokens) :
      Spaced (before ++ (token.written ++ rest)) (token :: tokens)

/-! ## Strings -/

/-- The body of a string between two marks stands for the codes. -/
inductive Spells (mark : Char) : List Char → List Nat → Prop where
  | nil : Spells mark [] []
  | plain {character rest codes} (unmarked : character ≠ mark) (unescaped : character ≠ '\\')
      (printable : 0x20 ≤ character.toNat) (further : Spells mark rest codes) :
      Spells mark (character :: rest) (character.toNat :: codes)
  | escape {letter character rest codes} (escaped : Json.escaped? letter = some character)
      (further : Spells mark rest codes) :
      Spells mark ('\\' :: letter :: rest) (character.toNat :: codes)
  /-- In apostrophes an apostrophe is escaped. -/
  | apostrophe {rest codes} (single : mark = '\'') (further : Spells mark rest codes) :
      Spells mark ('\\' :: '\'' :: rest) ('\''.toNat :: codes)
  /-- Four hexadecimal digits stand for their code. -/
  | unicode {first second third fourth code rest codes}
      (hexadecimal : Text.hexValue? [first, second, third, fourth] = some code)
      (further : Spells mark rest codes) :
      Spells mark ('\\' :: 'u' :: first :: second :: third :: fourth :: rest) (code :: codes)

/-- The token is a string, and the text is what it stands for. -/
inductive StringToken : Token → String → Prop where
  | double {body codes} (spells : Spells '"' body codes) :
      StringToken (.doubleQuoted body) (String.ofList (Text.joinSurrogates codes))
  | single {body codes} (spells : Spells '\'' body codes) :
      StringToken (.singleQuoted body) (String.ofList (Text.joinSurrogates codes))

/-- The token may stand before a colon, and the text is the key that it stands for. -/
inductive KeyToken : Token → String → Prop where
  | string {token text} (string : StringToken token text) : KeyToken token text
  | name {first rest} (start : first = '$' ∨ isNameStart first = true)
      (all : ∀ character ∈ rest, isIdentifierPart character = true) :
      KeyToken (.identifier (first :: rest)) (String.ofList (first :: rest))

/-! ## Numbers -/

/-- Every character is a digit. -/
def AllDigits (characters : List Char) : Prop :=
  ∀ character ∈ characters, character.isDigit = true

/-- The digits before a point: a zero, or digits that start with another one. -/
inductive WholeText : List Char → Prop where
  | zero : WholeText ['0']
  | digits {first rest} (nonzero : first ≠ '0') (digits : AllDigits (first :: rest)) :
      WholeText (first :: rest)

/-- A point with digits after it, or nothing. -/
inductive FractionText : List Char → List Char → Prop where
  | none : FractionText [] []
  | some {digits} (nonempty : digits ≠ []) (all : AllDigits digits) :
      FractionText ('.' :: digits) digits

/-- The sign of a power of ten. -/
inductive SignText : List Char → Bool → Prop where
  | none : SignText [] false
  | plus : SignText ['+'] false
  | minus : SignText ['-'] true

/-- A power of ten, or nothing. -/
inductive PowerText : List Char → Option Int → Prop where
  | none : PowerText [] none
  | some {mark sign negative digits} (isMark : mark = 'e' ∨ mark = 'E')
      (signed : SignText sign negative) (nonempty : digits ≠ []) (all : AllDigits digits) :
      PowerText (mark :: (sign ++ digits))
        (some (Double.signed negative (Nat.ofDigitChars 10 digits 0)))

/-- The number of digits before and after a point, and a power of ten. -/
def numberOf (negative : Bool) (whole fraction : List Char) (power : Option Int) : Number :=
  if fraction.isEmpty && power.isNone then
    .integer (Double.signed negative (Nat.ofDigitChars 10 whole 0))
  else
    .double (Double.ofDecimal negative (Nat.ofDigitChars 10 (whole ++ fraction) 0)
      (power.getD 0 - fraction.length))

/-- The characters are one number. -/
inductive NumberText : List Char → Number → Prop where
  | parts {negative whole pointed fraction raised power} (isWhole : WholeText whole)
      (isFraction : FractionText pointed fraction) (isPower : PowerText raised power) :
      NumberText ((if negative then ['-'] else []) ++ (whole ++ (pointed ++ raised)))
        (numberOf negative whole fraction power)

/-! ## Values -/

/-- What can be derived: a value, the elements of an array or the members of an object. -/
inductive Phrase where
  | literal (value : Json)
  | elements (values : List Json)
  | members (pairs : List (String × Json))

/-- The comma that may stand after the last element or member. -/
def IsTrail (trail : List Token) : Prop :=
  trail = [] ∨ trail = [.punctuation ',']

/-- The tokens are the phrase. -/
inductive Derives : List Token → Phrase → Prop where
  | nullName : Derives [.identifier "null".toList] (.literal .null)
  | trueName : Derives [.identifier "true".toList] (.literal (.boolean true))
  | falseName : Derives [.identifier "false".toList] (.literal (.boolean false))
  | number {characters number} (isNumber : NumberText characters number) :
      Derives [.number characters] (.literal (.number number))
  | string {token text} (isString : StringToken token text) :
      Derives [token] (.literal (.string text))
  | emptyArray : Derives [.punctuation '[', .punctuation ']'] (.literal (.array []))
  | array {inner trail values} (elements : Derives inner (.elements values))
      (isTrail : IsTrail trail) :
      Derives (.punctuation '[' :: (inner ++ (trail ++ [.punctuation ']'])))
        (.literal (.array values))
  | emptyObject : Derives [.punctuation '\x7b', .punctuation '\x7d'] (.literal (.object []))
  | object {inner trail pairs} (members : Derives inner (.members pairs))
      (isTrail : IsTrail trail) :
      Derives (.punctuation '\x7b' :: (inner ++ (trail ++ [.punctuation '\x7d'])))
        (.literal (.object (Dictionary.ofPairs pairs)))
  | element {tokens value} (literal : Derives tokens (.literal value)) :
      Derives tokens (.elements [value])
  | elements {tokens rest value values} (literal : Derives tokens (.literal value))
      (further : Derives rest (.elements values)) :
      Derives (tokens ++ .punctuation ',' :: rest) (.elements (value :: values))
  | member {key text tokens value} (isKey : KeyToken key text)
      (literal : Derives tokens (.literal value)) :
      Derives (key :: .punctuation ':' :: tokens) (.members [(text, value)])
  | members {key text tokens rest value pairs} (isKey : KeyToken key text)
      (literal : Derives tokens (.literal value)) (further : Derives rest (.members pairs)) :
      Derives (key :: .punctuation ':' :: (tokens ++ .punctuation ',' :: rest))
        (.members ((text, value) :: pairs))

/-- The text is arguments with the value. -/
def Derivable (text : List Char) (value : Json) : Prop :=
  ∃ tokens, Spaced text tokens ∧ Derives tokens (.literal value)

/-! ## Neighbours -/

/-- Of two neighbours one is a mark. -/
def Token.Apart (first second : Token) : Prop :=
  (∃ mark, first = .punctuation mark) ∨ ∃ mark, second = .punctuation mark

/-- Of any two neighbours in what is derived one is a mark. -/
theorem Derives.apart {tokens : List Token} {phrase : Phrase} (derives : Derives tokens phrase) :
    tokens.IsChain Token.Apart := by
  have mark : ∀ {tokens : List Token} {mark : Char}, tokens.IsChain Token.Apart →
      (.punctuation mark :: tokens).IsChain Token.Apart := by
    intro tokens mark chain
    exact chain.cons fun next _ => Or.inl ⟨mark, rfl⟩
  have joined : ∀ {before after : List Token} {mark : Char}, before.IsChain Token.Apart →
      after.IsChain Token.Apart →
      (before ++ .punctuation mark :: after).IsChain Token.Apart := by
    intro before after _ first second
    refine List.IsChain.append first (mark second) ?_
    intro _ _ next same
    obtain rfl := Option.some.inj same
    exact Or.inr ⟨_, rfl⟩
  induction derives with
  | nullName =>
      exact .singleton _
  | trueName =>
      exact .singleton _
  | falseName =>
      exact .singleton _
  | number =>
      exact .singleton _
  | string =>
      exact .singleton _
  | emptyArray =>
      exact mark (.singleton _)
  | array elements isTrail ih =>
      rcases isTrail with rfl | rfl
      · exact mark (joined ih .nil)
      · exact mark (joined ih (.singleton _))
  | emptyObject =>
      exact mark (.singleton _)
  | object members isTrail ih =>
      rcases isTrail with rfl | rfl
      · exact mark (joined ih .nil)
      · exact mark (joined ih (.singleton _))
  | element literal ih =>
      exact ih
  | elements literal further first second =>
      exact joined first second
  | member isKey literal ih =>
      exact (mark ih).cons fun next same => Or.inr ⟨_, (Option.some.inj same).symm⟩
  | members isKey literal further first second =>
      exact (mark (joined first second)).cons fun next same =>
        Or.inr ⟨_, (Option.some.inj same).symm⟩

end DocumentGate.Argument
