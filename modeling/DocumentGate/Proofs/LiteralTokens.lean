import DocumentGate.Proofs.LiteralGrammar
import DocumentGate.Proofs.Results
import Mathlib.Data.List.TakeWhile
import Mathlib.Tactic.FinCases
import Mathlib.Tactic.Tauto

/-!
# Cutting arguments into tokens

The tokens that a text is cut into are the text with blanks left out.  Conversely, when a
text can be spaced as the tokens of a derivation, it is cut into these tokens or not at
all: the neighbours of numbers and identifiers are marks, so that nothing runs on.
-/

namespace DocumentGate.Argument

/-! ## What tokens hold -/

/-- The body of a string between two marks, in which the mark is escaped. -/
inductive Quoted (mark : Char) : List Char → Prop where
  | nil : Quoted mark []
  | plain {character rest} (unmarked : character ≠ mark) (unescaped : character ≠ '\\')
      (inLine : character ≠ '\n') (further : Quoted mark rest) : Quoted mark (character :: rest)
  | escape {character rest} (inLine : character ≠ '\n') (further : Quoted mark rest) :
      Quoted mark ('\\' :: character :: rest)

/-- A character that numbers consist of. -/
def isNumberPart (character : Char) : Bool :=
  character.isDigit || ['-', '+', '.', 'e', 'E'].contains character

/-- One or more numbers without anything between them. -/
structure IsRun (characters : List Char) : Prop where
  start : ∃ first ∈ characters.head?, first = '-' ∨ first.isDigit = true
  all : ∀ character ∈ characters, isNumberPart character = true

/-- The token holds the characters that its kind consists of. -/
def Token.IsLexical : Token → Prop
  | .doubleQuoted body => Quoted '"' body
  | .singleQuoted body => Quoted '\'' body
  | .number characters => IsRun characters
  | .identifier characters => KeyToken (.identifier characters) (String.ofList characters)
  | .punctuation mark => isPunctuation mark = true

/-- Behind the dollar sign of an identifier a name starts. -/
def Token.IsNamed : Token → Prop
  | .identifier ('$' :: rest) => ∃ first ∈ rest.head?, isNameStart first = true
  | _ => True

/-! ## Hexadecimal digits -/

/-- Every digit of a hexadecimal number has a value. -/
theorem isSome_of_hexValue? {digits : List Char} {code : Nat}
    (value : Text.hexValue? digits = some code) :
    ∀ digit ∈ digits, (Text.hexDigitValue? digit).isSome = true := by
  unfold Text.hexValue? at value
  generalize some 0 = start at value
  induction digits generalizing start with
  | nil =>
      simp
  | cons first rest ih =>
      intro digit member
      rcases List.mem_cons.mp member with rfl | later
      · cases found : Text.hexDigitValue? digit with
        | some _ =>
            rfl
        | none =>
            have stuck : ∀ others : List Char,
                others.foldl (fun value digit => do
                  return (← value) * 16 + (← Text.hexDigitValue? digit)) none = none := by
              intro others
              induction others with
              | nil =>
                  rfl
              | cons other more same =>
                  simpa using same
            have halted : (do return (← start) * 16 + (← Text.hexDigitValue? digit)) =
                (none : Option Nat) := by
              cases start <;> simp [found]
            rw [List.foldl_cons, halted, stuck] at value
            cases value
      · rw [List.foldl_cons] at value
        exact ih _ value digit later

/-- A hexadecimal digit is neither a mark of strings nor a backslash. -/
theorem hexadecimal_plain {digit : Char} (value : (Text.hexDigitValue? digit).isSome = true) :
    digit ≠ '"' ∧ digit ≠ '\'' ∧ digit ≠ '\\' ∧ digit ≠ '\n' := by
  refine ⟨?_, ?_, ?_, ?_⟩ <;>
    rintro rfl <;>
    revert value <;>
    decide

theorem Quoted.digit {mark digit : Char} {rest : List Char}
    (value : (Text.hexDigitValue? digit).isSome = true) (isMark : mark = '"' ∨ mark = '\'')
    (quoted : Quoted mark rest) : Quoted mark (digit :: rest) := by
  rcases hexadecimal_plain value with ⟨double, single, unescaped, inLine⟩
  refine .plain ?_ unescaped inLine quoted
  rcases isMark with rfl | rfl
  · exact double
  · exact single

/-! ## Strings -/

theorem spanQuoted_eq_some {mark : Char} {input body after : List Char}
    (spanned : spanQuoted mark input = some (body, after)) :
    input = body ++ mark :: after ∧ Quoted mark body := by
  fun_induction spanQuoted mark input generalizing body with
  | case1 =>
      cases spanned
  | case2 =>
      cases spanned
  | case3 =>
      cases spanned
  | case4 next rest inLine ih =>
      rcases Option.map_eq_some_iff.mp spanned with ⟨⟨inner, _⟩, further, same⟩
      rcases Prod.mk.inj same with ⟨rfl, rfl⟩
      rcases ih further with ⟨rfl, quoted⟩
      exact ⟨rfl, .escape inLine quoted⟩
  | case5 =>
      rcases Prod.mk.inj (Option.some.inj spanned) with ⟨rfl, rfl⟩
      exact ⟨rfl, .nil⟩
  | case6 =>
      cases spanned
  | case7 character rest last other unmarked inLine ih =>
      rcases Option.map_eq_some_iff.mp spanned with ⟨⟨inner, _⟩, further, same⟩
      rcases Prod.mk.inj same with ⟨rfl, rfl⟩
      rcases ih further with ⟨rfl, quoted⟩
      refine ⟨rfl, .plain unmarked ?_ inLine quoted⟩
      intro escapes
      cases inner with
      | nil =>
          exact other _ _ escapes rfl
      | cons first more =>
          exact other _ _ escapes rfl

/-- What a string stands for is inside its marks. -/
theorem Spells.quoted {mark : Char} {body : List Char} {codes : List Nat}
    (spells : Spells mark body codes) (isMark : mark = '"' ∨ mark = '\'') : Quoted mark body := by
  induction spells with
  | nil =>
      exact .nil
  | plain unmarked unescaped printable further ih =>
      refine .plain unmarked unescaped ?_ ih
      rintro rfl
      revert printable
      decide
  | escape escaped further ih =>
      refine .escape ?_ ih
      rintro rfl
      simp [Json.escaped?] at escaped
  | apostrophe single further ih =>
      exact .escape (by decide) ih
  | unicode hexadecimal further ih =>
      have value := isSome_of_hexValue? hexadecimal
      exact .escape (by decide)
        (.digit (value _ (by simp)) isMark (.digit (value _ (by simp)) isMark
          (.digit (value _ (by simp)) isMark (.digit (value _ (by simp)) isMark ih))))

theorem spanQuoted_append {mark : Char} {body : List Char} (quoted : Quoted mark body)
    (visible : mark ≠ '\\') (rest : List Char) :
    spanQuoted mark (body ++ mark :: rest) = some (body, rest) := by
  induction quoted with
  | nil =>
      rw [List.nil_append, spanQuoted]
      · simp
      · simp [visible]
      · simp [visible]
  | plain unmarked unescaped inLine further ih =>
      rw [List.cons_append, spanQuoted]
      · simp [unmarked, inLine, ih]
      · simp [unescaped]
      · simp [unescaped]
  | escape inLine further ih =>
      rw [List.cons_append, List.cons_append, spanQuoted]
      simp [inLine, ih]

/-! ## Numbers -/

/-- The text goes on with no digit. -/
def Stops (kind : Char → Bool) (rest : List Char) : Prop :=
  ∀ character ∈ rest.head?, kind character = false

/-- Characters of a kind are taken where the text goes on with none. -/
theorem span_append {kind : Char → Bool} {part rest : List Char}
    (all : ∀ character ∈ part, kind character = true) (stops : Stops kind rest) :
    (part ++ rest).takeWhile kind = part ∧ (part ++ rest).dropWhile kind = rest := by
  have stopped : rest.takeWhile kind = [] ∧ rest.dropWhile kind = rest := by
    cases rest with
    | nil =>
        exact ⟨rfl, rfl⟩
    | cons first more =>
        simp [stops first rfl]
  rw [List.takeWhile_append_of_pos all, List.dropWhile_append_of_pos all, stopped.1, stopped.2,
    List.append_nil]
  exact ⟨rfl, rfl⟩

theorem spanDigits_append {digits rest : List Char} (all : AllDigits digits)
    (stops : Stops Char.isDigit rest) : Json.spanDigits (digits ++ rest) = (digits, rest) := by
  rw [Json.spanDigits, (span_append all stops).1, (span_append all stops).2]

theorem spanDigits_spec {input digits after : List Char}
    (spanned : Json.spanDigits input = (digits, after)) :
    input = digits ++ after ∧ AllDigits digits := by
  rcases Prod.mk.inj spanned with ⟨rfl, rfl⟩
  exact ⟨List.takeWhile_append_dropWhile.symm, fun _ => List.mem_takeWhile_imp⟩

theorem spanWhole_spec {input whole after : List Char}
    (spanned : Json.spanWhole input = (whole, after)) (found : whole.isEmpty = false) :
    input = whole ++ after ∧ WholeText whole := by
  unfold Json.spanWhole at spanned
  split at spanned
  · rcases Prod.mk.inj spanned with ⟨rfl, rfl⟩
    exact ⟨rfl, .zero⟩
  · rename_i nonzero
    rcases spanDigits_spec spanned with ⟨rfl, digits⟩
    cases whole with
    | nil =>
        cases found
    | cons first rest =>
        refine ⟨rfl, .digits ?_ digits⟩
        rintro rfl
        exact nonzero _ rfl

theorem spanWhole_append {whole rest : List Char} (isWhole : WholeText whole)
    (stops : Stops Char.isDigit rest) : Json.spanWhole (whole ++ rest) = (whole, rest) := by
  cases isWhole with
  | zero =>
      rfl
  | digits nonzero digits =>
      rw [List.cons_append, Json.spanWhole, ← List.cons_append, spanDigits_append digits stops]
      simpa using nonzero

theorem spanFraction_spec {input fraction after : List Char}
    (spanned : Json.spanFraction input = (fraction, after)) :
    ∃ pointed, input = pointed ++ after ∧ FractionText pointed fraction := by
  unfold Json.spanFraction at spanned
  split at spanned
  · rename_i rest
    dsimp only at spanned
    split at spanned
    · rcases Prod.mk.inj spanned with ⟨rfl, rfl⟩
      exact ⟨[], rfl, .none⟩
    · rename_i nonempty
      rcases Prod.mk.inj spanned with ⟨rfl, rfl⟩
      have cut : Json.spanDigits rest = ((Json.spanDigits rest).1, (Json.spanDigits rest).2) := rfl
      rcases spanDigits_spec cut with ⟨split, digits⟩
      refine ⟨'.' :: (Json.spanDigits rest).1, ?_, .some (by simpa using nonempty) digits⟩
      exact congrArg ('.' :: ·) split
  · rcases Prod.mk.inj spanned with ⟨rfl, rfl⟩
    exact ⟨[], rfl, .none⟩

theorem spanFraction_append {pointed fraction rest : List Char}
    (isFraction : FractionText pointed fraction)
    (stops : Stops (fun character => character.isDigit || character = '.') rest) :
    Json.spanFraction (pointed ++ rest) = (fraction, rest) := by
  cases isFraction with
  | none =>
      cases rest with
      | nil =>
          rfl
      | cons first more =>
          have stop := stops first rfl
          rw [List.nil_append, Json.spanFraction]
          rintro more same
          simp [(List.cons.inj same).1] at stop
  | some nonempty all =>
      have further : Stops Char.isDigit rest := by
        intro character member
        have stop := stops character member
        rw [Bool.or_eq_false_iff] at stop
        exact stop.1
      rw [List.cons_append, Json.spanFraction, spanDigits_append all further]
      simp [nonempty]

theorem spanPower_spec {input after : List Char} {power : Option Int}
    (spanned : Json.spanPower input = (power, after)) :
    ∃ raised, input = raised ++ after ∧ PowerText raised power := by
  unfold Json.spanPower at spanned
  split at spanned
  · rename_i mark rest
    split at spanned
    · rename_i isMark
      split at spanned
      rename_i negative unsigned sign
      have signed : ∃ signs, rest = signs ++ unsigned ∧ SignText signs negative := by
        split at sign
        · rcases Prod.mk.inj sign with ⟨rfl, rfl⟩
          exact ⟨['-'], rfl, .minus⟩
        · rcases Prod.mk.inj sign with ⟨rfl, rfl⟩
          exact ⟨['+'], rfl, .plus⟩
        · rcases Prod.mk.inj sign with ⟨rfl, rfl⟩
          exact ⟨[], rfl, .none⟩
      rcases signed with ⟨signs, rfl, isSign⟩
      split at spanned
      rename_i digits left found
      rcases spanDigits_spec found with ⟨rfl, all⟩
      split at spanned
      · rcases Prod.mk.inj spanned with ⟨rfl, rfl⟩
        exact ⟨[], rfl, .none⟩
      · rename_i nonempty
        rcases Prod.mk.inj spanned with ⟨rfl, rfl⟩
        refine ⟨mark :: (signs ++ digits), by simp, .some ?_ isSign ?_ all⟩
        · simpa using isMark
        · simpa using nonempty
    · rcases Prod.mk.inj spanned with ⟨rfl, rfl⟩
      exact ⟨[], rfl, .none⟩
  · rcases Prod.mk.inj spanned with ⟨rfl, rfl⟩
    exact ⟨[], rfl, .none⟩

theorem spanPower_append {raised rest : List Char} {power : Option Int}
    (isPower : PowerText raised power)
    (stops :
      Stops (fun character => character.isDigit || character = 'e' || character = 'E') rest) :
    Json.spanPower (raised ++ rest) = (power, rest) := by
  cases isPower with
  | none =>
      cases rest with
      | nil =>
          rfl
      | cons first more =>
          have stop := stops first rfl
          simp only [Bool.or_eq_false_iff, Bool.or_assoc] at stop
          simp [Json.spanPower, stop]
  | @some mark sign negative digits isMark signed nonempty all =>
      have further : Stops Char.isDigit rest := by
        intro character member
        have stop := stops character member
        simp only [Bool.or_eq_false_iff] at stop
        exact stop.1.1
      have isMark : (decide (mark = 'e') || decide (mark = 'E')) = true := by
        simpa using isMark
      cases signed with
      | plus =>
          simp [Json.spanPower, isMark, spanDigits_append all further, nonempty]
      | minus =>
          simp [Json.spanPower, isMark, spanDigits_append all further, nonempty]
      | none =>
          cases digits with
          | nil =>
              exact absurd rfl nonempty
          | cons first others =>
              have digit := all first List.mem_cons_self
              simp only [Json.spanPower, List.cons_append, List.nil_append, isMark, if_true]
              split
              · rename_i same
                rw [(List.cons.inj same).1] at digit
                cases digit
              · rename_i same
                rw [(List.cons.inj same).1] at digit
                cases digit
              · rw [← List.cons_append, spanDigits_append all further]
                rfl

/-! ## Whole numbers as tokens -/

/-- The sign of a number. -/
def minus (negative : Bool) : List Char :=
  if negative then ['-'] else []

/-- The sign and what follows it are the whole text. -/
theorem minus_append {input unsigned : List Char} {negative : Bool}
    (signed : (match input with
      | '-' :: unsigned => (true, unsigned)
      | unsigned => (false, unsigned)) = (negative, unsigned)) :
    minus negative ++ unsigned = input := by
  split at signed
  · rcases Prod.mk.inj signed with ⟨rfl, rfl⟩
    rfl
  · rcases Prod.mk.inj signed with ⟨rfl, rfl⟩
    rfl

/-- What is found in a text part by part is a number. -/
theorem numberText_of_parts {unsigned whole afterWhole fraction afterFraction after : List Char}
    {power : Option Int} (wholeFound : Json.spanWhole unsigned = (whole, afterWhole))
    (nonempty : whole.isEmpty = false)
    (fractionFound : Json.spanFraction afterWhole = (fraction, afterFraction))
    (powerFound : Json.spanPower afterFraction = (power, after)) :
    ∃ characters, unsigned = characters ++ after ∧
      ∀ negative, NumberText (minus negative ++ characters)
        (numberOf negative whole fraction power) := by
  rcases spanWhole_spec wholeFound nonempty with ⟨rfl, isWhole⟩
  rcases spanFraction_spec fractionFound with ⟨pointed, rfl, isFraction⟩
  rcases spanPower_spec powerFound with ⟨raised, rfl, isPower⟩
  exact ⟨whole ++ (pointed ++ raised), by simp, fun _ => .parts isWhole isFraction isPower⟩

theorem spanNumber_eq_some {input characters after : List Char}
    (spanned : spanNumber input = some (characters, after)) :
    input = characters ++ after ∧ ∃ number, NumberText characters number := by
  unfold spanNumber at spanned
  split at spanned
  rename_i sign unsigned signed
  have split : ∃ negative, sign = minus negative ∧ input = sign ++ unsigned := by
    split at signed
    · rcases Prod.mk.inj signed with ⟨rfl, rfl⟩
      exact ⟨true, rfl, rfl⟩
    · rcases Prod.mk.inj signed with ⟨rfl, rfl⟩
      exact ⟨false, rfl, rfl⟩
  rcases split with ⟨negative, rfl, rfl⟩
  split at spanned
  rename_i whole afterWhole wholeFound
  split at spanned
  · cases spanned
  · rename_i nonempty
    split at spanned
    rename_i fraction afterFraction fractionFound
    split at spanned
    rename_i power left powerFound
    rcases numberText_of_parts wholeFound (by simpa using nonempty) fractionFound powerFound with
      ⟨digits, rfl, isNumber⟩
    rcases Prod.mk.inj (Option.some.inj spanned) with ⟨taken, rfl⟩
    have kept : (digits ++ left).take ((digits ++ left).length - left.length) = digits := by
      simp
    rw [kept] at taken
    rw [← taken]
    exact ⟨by simp, _, isNumber negative⟩

theorem WholeText.allDigits {whole : List Char} (isWhole : WholeText whole) : AllDigits whole := by
  cases isWhole with
  | zero =>
      simp [AllDigits]
  | digits nonzero digits =>
      exact digits

theorem isNumberPart_of_isDigit {character : Char} (digit : character.isDigit = true) :
    isNumberPart character = true := by
  simp [isNumberPart, digit]

theorem FractionText.all {pointed fraction : List Char}
    (isFraction : FractionText pointed fraction) :
    ∀ character ∈ pointed, isNumberPart character = true := by
  cases isFraction with
  | none =>
      simp
  | some nonempty all =>
      intro character member
      rcases List.mem_cons.mp member with rfl | digit
      · decide
      · exact isNumberPart_of_isDigit (all character digit)

theorem PowerText.all {raised : List Char} {power : Option Int} (isPower : PowerText raised power) :
    ∀ character ∈ raised, isNumberPart character = true := by
  cases isPower with
  | none =>
      simp
  | some isMark signed nonempty all =>
      intro character member
      rcases List.mem_cons.mp member with rfl | member
      · rcases isMark with rfl | rfl <;> decide
      · rcases List.mem_append.mp member with sign | digit
        · cases signed with
          | none =>
              cases sign
          | plus =>
              rw [List.mem_singleton.mp sign]
              decide
          | minus =>
              rw [List.mem_singleton.mp sign]
              decide
        · exact isNumberPart_of_isDigit (all character digit)

/-- A number starts with a digit or a minus sign. -/
theorem NumberText.isRun {characters : List Char} {number : Number}
    (isNumber : NumberText characters number) : IsRun characters := by
  cases isNumber with
  | @parts negative whole pointed fraction raised power isWhole isFraction isPower =>
      constructor
      · cases negative with
        | true =>
            exact ⟨'-', rfl, Or.inl rfl⟩
        | false =>
            cases isWhole with
            | zero =>
                exact ⟨'0', rfl, Or.inr (by decide)⟩
            | digits nonzero digits =>
                exact ⟨_, rfl, Or.inr (digits _ List.mem_cons_self)⟩
      · intro character member
        rcases List.mem_append.mp member with sign | member
        · cases negative with
          | true =>
              rw [List.mem_singleton.mp sign]
              decide
          | false =>
              cases sign
        · rcases List.mem_append.mp member with digit | member
          · exact isNumberPart_of_isDigit (isWhole.allDigits character digit)
          · rcases List.mem_append.mp member with point | raised
            · exact isFraction.all character point
            · exact isPower.all character raised

theorem Stops.mono {kind other : Char → Bool} {rest : List Char} (stops : Stops kind rest)
    (weaker : ∀ character, other character = true → kind character = true) : Stops other rest := by
  intro character member
  by_contra goes
  have stop := stops character member
  rw [weaker character (by simpa using goes)] at stop
  cases stop

/-- What follows the digits of a number in its text, or the text after it, is no digit. -/
theorem PowerText.stops {raised rest : List Char} {power : Option Int}
    (isPower : PowerText raised power) (stops : Stops isNumberPart rest) :
    Stops (fun character => character.isDigit || character = '.') (raised ++ rest) := by
  cases isPower with
  | none =>
      exact stops.mono (by simp [isNumberPart]; tauto)
  | some isMark signed nonempty all =>
      intro character member
      obtain rfl := Option.some.inj member
      rcases isMark with rfl | rfl <;> decide

theorem FractionText.stops {pointed fraction rest : List Char}
    (isFraction : FractionText pointed fraction)
    (stops : Stops (fun character => character.isDigit || character = '.') rest) :
    Stops Char.isDigit (pointed ++ rest) := by
  cases isFraction with
  | none =>
      exact stops.mono (by simp +contextual)
  | some nonempty all =>
      intro character member
      obtain rfl := Option.some.inj member
      decide

/-- A number starts with the sign or with a digit. -/
theorem WholeText.no_sign {whole : List Char} (isWhole : WholeText whole) (after text : List Char) :
    whole ++ after ≠ '-' :: text := by
  intro same
  cases isWhole with
  | zero =>
      cases same
  | digits nonzero digits =>
      have digit := digits _ List.mem_cons_self
      rw [(List.cons.inj same).1] at digit
      cases digit

/-- The parts of a number are found where nothing goes on after it. -/
theorem NumberText.found {characters rest : List Char} {number : Number}
    (isNumber : NumberText characters number) (stops : Stops isNumberPart rest) :
    ∃ negative whole fraction power unsigned afterWhole afterFraction,
      characters = minus negative ++ unsigned ∧ number = numberOf negative whole fraction power ∧
        WholeText whole ∧ (∀ text, unsigned ++ rest ≠ '-' :: text) ∧
        Json.spanWhole (unsigned ++ rest) = (whole, afterWhole) ∧
        Json.spanFraction afterWhole = (fraction, afterFraction) ∧
        Json.spanPower afterFraction = (power, rest) := by
  cases isNumber with
  | @parts negative whole pointed fraction raised power isWhole isFraction isPower =>
      have powerFound := spanPower_append isPower
        (stops.mono (by simp [isNumberPart]; tauto))
      have fractionFound := spanFraction_append isFraction (isPower.stops stops)
      have wholeFound := spanWhole_append isWhole (isFraction.stops (isPower.stops stops))
      have joined : whole ++ (pointed ++ raised) ++ rest = whole ++ (pointed ++ (raised ++ rest)) := by
        simp
      refine ⟨negative, whole, fraction, power, whole ++ (pointed ++ raised), _, _, rfl, rfl,
        isWhole, ?_, joined ▸ wholeFound, fractionFound, powerFound⟩
      rw [joined]
      exact isWhole.no_sign _

/-- A number is found where nothing goes on after it. -/
theorem spanNumber_append {characters rest : List Char} {number : Number}
    (isNumber : NumberText characters number) (stops : Stops isNumberPart rest) :
    spanNumber (characters ++ rest) = some (characters, rest) := by
  rcases isNumber.found stops with ⟨negative, whole, fraction, power, unsigned, _, _, rfl, -,
    isWhole, unmarked, wholeFound, fractionFound, powerFound⟩
  have nonempty : whole.isEmpty = false := by
    cases isWhole <;> rfl
  have kept : (unsigned ++ rest).take ((unsigned ++ rest).length - rest.length) = unsigned := by
    simp
  cases negative with
  | true =>
      show spanNumber ('-' :: (unsigned ++ rest)) = some ('-' :: unsigned, rest)
      simp only [spanNumber, wholeFound, fractionFound, powerFound, nonempty, kept]
      rfl
  | false =>
      show spanNumber (unsigned ++ rest) = some (unsigned, rest)
      unfold spanNumber
      split
      rename_i sign plain signed
      split at signed
      · exact absurd ‹_› (unmarked _)
      · rcases Prod.mk.inj signed with ⟨rfl, rfl⟩
        simp only [wholeFound, fractionFound, powerFound, nonempty, kept]
        rfl

/-! ## Identifiers -/

theorem isIdentifierPart_of_isNameStart {character : Char}
    (start : isNameStart character = true) : isIdentifierPart character = true := by
  simp only [isNameStart, isIdentifierPart, isNamePart, Char.isAlphanum, Bool.or_eq_true] at start ⊢
  tauto

theorem spanIdentifier_eq_some {input characters after : List Char}
    (spanned : spanIdentifier input = some (characters, after)) :
    input = characters ++ after ∧
      KeyToken (.identifier characters) (String.ofList characters) := by
  unfold spanIdentifier at spanned
  split at spanned
  rename_i dollar name led
  split at spanned
  · rename_i first rest
    split at spanned
    · rename_i start
      rcases Prod.mk.inj (Option.some.inj spanned) with ⟨rfl, rfl⟩
      have parts : ∀ character ∈ rest.takeWhile isIdentifierPart,
          isIdentifierPart character = true := fun _ => List.mem_takeWhile_imp
      split at led
      · rcases Prod.mk.inj led with ⟨rfl, rfl⟩
        refine ⟨by simp, .name (Or.inl rfl) ?_⟩
        intro character member
        rcases List.mem_cons.mp member with rfl | later
        · exact isIdentifierPart_of_isNameStart start
        · exact parts character later
      · rcases Prod.mk.inj led with ⟨rfl, rfl⟩
        exact ⟨by simp, .name (Or.inr start) parts⟩
    · cases spanned
  · cases spanned

/-- An identifier is found where nothing goes on after it, if a name is in it. -/
theorem spanIdentifier_append {characters rest : List Char} {text : String}
    (isKey : KeyToken (.identifier characters) text) (stops : Stops isIdentifierPart rest) :
    spanIdentifier (characters ++ rest) = some (characters, rest) ∨
      (¬(Token.identifier characters).IsNamed ∧ spanIdentifier (characters ++ rest) = none) := by
  cases isKey with
  | string isString =>
      cases isString
  | @name first more start all =>
      by_cases led : first = '$'
      · subst led
        cases more with
        | nil =>
            refine Or.inr ⟨by simp [Token.IsNamed], ?_⟩
            cases rest with
            | nil =>
                rfl
            | cons next further =>
                have plain : isNameStart next = false := by
                  by_contra starts
                  have stop := stops next rfl
                  rw [isIdentifierPart_of_isNameStart (by simpa using starts)] at stop
                  cases stop
                simp [spanIdentifier, plain]
        | cons next further =>
            have parts := span_append
              (fun character member => all character (List.mem_cons_of_mem _ member)) stops
            by_cases starts : isNameStart next = true
            · exact Or.inl (by simp [spanIdentifier, starts, parts])
            · exact Or.inr ⟨by simp [Token.IsNamed, starts], by simp [spanIdentifier, starts]⟩
      · have starts : isNameStart first = true := start.resolve_left led
        have parts := span_append all stops
        refine Or.inl ?_
        unfold spanIdentifier
        split
        rename_i dollar name same
        split at same
        · rename_i equal
          exact absurd (List.cons.inj equal).1 led
        · rcases Prod.mk.inj same with ⟨rfl, rfl⟩
          simp [starts, parts]

/-! ## Single tokens -/

theorem next?_eq_some {input after : List Char} {token : Token}
    (found : next? input = some (token, after)) :
    input = token.written ++ after ∧ token.IsLexical := by
  unfold next? at found
  split at found
  · cases found
  · rename_i character rest
    split at found
    · rename_i isMark
      subst isMark
      rcases Option.map_eq_some_iff.mp found with ⟨⟨body, _⟩, spanned, same⟩
      rcases Prod.mk.inj same with ⟨rfl, rfl⟩
      rcases spanQuoted_eq_some spanned with ⟨rfl, quoted⟩
      exact ⟨by simp [Token.written], quoted⟩
    · split at found
      · rename_i isMark
        subst isMark
        rcases Option.map_eq_some_iff.mp found with ⟨⟨body, _⟩, spanned, same⟩
        rcases Prod.mk.inj same with ⟨rfl, rfl⟩
        rcases spanQuoted_eq_some spanned with ⟨rfl, quoted⟩
        exact ⟨by simp [Token.written], quoted⟩
      · split at found
        · rcases Option.map_eq_some_iff.mp found with ⟨⟨characters, _⟩, spanned, same⟩
          rcases Prod.mk.inj same with ⟨rfl, rfl⟩
          rcases spanNumber_eq_some spanned with ⟨split, number, isNumber⟩
          exact ⟨split, isNumber.isRun⟩
        · split at found
          · rename_i isMark
            rcases Prod.mk.inj (Option.some.inj found) with ⟨rfl, rfl⟩
            exact ⟨rfl, isMark⟩
          · rcases Option.map_eq_some_iff.mp found with ⟨⟨characters, _⟩, spanned, same⟩
            rcases Prod.mk.inj same with ⟨rfl, rfl⟩
            exact spanIdentifier_eq_some spanned

theorem Token.IsLexical.written_ne_nil {token : Token} (lexical : token.IsLexical) :
    token.written ≠ [] := by
  cases token with
  | number characters =>
      rcases lexical.start with ⟨first, member, -⟩
      intro empty
      rw [show characters = [] from empty] at member
      cases member
  | identifier characters =>
      cases lexical with
      | string isString =>
          cases isString
      | name start all =>
          exact List.cons_ne_nil _ _
  | _ =>
      exact List.cons_ne_nil _ _

/-! ## The tokens of a text -/

/-- The tokens that a text is cut into are the text, blanks aside. -/
theorem tokens_eq_ok {fuel : Nat} {input : List Char} {found : List Token}
    (enough : input.length < fuel) (cut : tokens fuel input = .ok found) :
    Spaced input found ∧ ∀ token ∈ found, token.IsLexical := by
  induction fuel generalizing input found with
  | zero =>
      exact absurd enough (Nat.not_lt_zero _)
  | succ fuel ih =>
      have blank : ∀ character ∈ input.takeWhile Text.isBlank, Text.isBlank character = true :=
        fun _ => List.mem_takeWhile_imp
      have split : input.takeWhile Text.isBlank ++ input.dropWhile Text.isBlank = input :=
        List.takeWhile_append_dropWhile
      rw [tokens] at cut
      split at cut
      · rename_i empty
        obtain rfl := Except.ok.inj cut
        rw [empty, List.append_nil] at split
        exact ⟨.blank (split ▸ blank), by simp⟩
      · rename_i start nonempty
        split at cut
        · rename_i token after next
          rcases next?_eq_some next with ⟨written, lexical⟩
          cases further : tokens fuel after with
          | error stop =>
              rw [further] at cut
              cases cut
          | ok others =>
              rw [further] at cut
              obtain rfl := Except.ok.inj cut
              rw [written] at split
              have shorter : after.length < fuel := by
                have positive := List.length_pos_iff.mpr lexical.written_ne_nil
                rw [← split, List.length_append, List.length_append] at enough
                omega
              rcases ih shorter further with ⟨spaced, all⟩
              rw [← split]
              refine ⟨.token blank spaced, ?_⟩
              intro other member
              rcases List.mem_cons.mp member with rfl | later
              · exact lexical
              · exact all other later
        · cases cut

/-! ## The tokens of a derivation -/

/-- The token may stand in a derivation. -/
inductive Token.IsGrammatical : Token → Prop where
  | number {characters number} (isNumber : NumberText characters number) :
      IsGrammatical (.number characters)
  | key {token text} (isKey : KeyToken token text) : IsGrammatical token
  | mark {mark} (isMark : isPunctuation mark = true) : IsGrammatical (.punctuation mark)

theorem isGrammatical_valueName {characters : List Char} (member : characters ∈ valueNames) :
    (Token.identifier characters).IsGrammatical := by
  have isName : ∃ first rest, characters = first :: rest ∧ isNameStart first = true ∧
      ∀ character ∈ rest, isIdentifierPart character = true := by
    fin_cases member <;> exact ⟨_, _, rfl, by decide, List.all_eq_true.mp (by decide)⟩
  rcases isName with ⟨first, rest, rfl, start, all⟩
  exact .key (.name (Or.inr start) all)

theorem Derives.grammatical {tokens : List Token} {phrase : Phrase}
    (derives : Derives tokens phrase) : ∀ token ∈ tokens, token.IsGrammatical := by
  have comma : (Token.punctuation ',').IsGrammatical := .mark (by decide)
  have colon : (Token.punctuation ':').IsGrammatical := .mark (by decide)
  have trailing : ∀ trail, IsTrail trail → ∀ token ∈ trail, token.IsGrammatical := by
    rintro trail (rfl | rfl)
    · simp
    · simpa using comma
  induction derives with
  | nullName =>
      simpa using isGrammatical_valueName (by simp [valueNames])
  | trueName =>
      simpa using isGrammatical_valueName (by simp [valueNames])
  | falseName =>
      simpa using isGrammatical_valueName (by simp [valueNames])
  | number isNumber =>
      simpa using Token.IsGrammatical.number isNumber
  | string isString =>
      simpa using Token.IsGrammatical.key (.string isString)
  | emptyArray =>
      simpa using ⟨.mark (by decide), .mark (by decide)⟩
  | array elements isTrail ih =>
      simp only [List.forall_mem_cons, List.forall_mem_append]
      exact ⟨.mark (by decide), ih, trailing _ isTrail, .mark (by decide), by simp⟩
  | emptyObject =>
      simpa using ⟨.mark (by decide), .mark (by decide)⟩
  | object members isTrail ih =>
      simp only [List.forall_mem_cons, List.forall_mem_append]
      exact ⟨.mark (by decide), ih, trailing _ isTrail, .mark (by decide), by simp⟩
  | element literal ih =>
      exact ih
  | elements literal further first second =>
      simp only [List.forall_mem_cons, List.forall_mem_append]
      exact ⟨first, comma, second⟩
  | member isKey literal ih =>
      simp only [List.forall_mem_cons]
      exact ⟨.key isKey, colon, ih⟩
  | members isKey literal further first second =>
      simp only [List.forall_mem_cons, List.forall_mem_append]
      exact ⟨.key isKey, colon, first, comma, second⟩

/-- The letters are those of the ASCII range, by their codes. -/
theorem isAlpha_eq (character : Char) : character.isAlpha =
    decide ((65 ≤ character.toNat ∧ character.toNat ≤ 90) ∨
      (97 ≤ character.toNat ∧ character.toNat ≤ 122)) := by
  have upper : character.isUpper = decide (65 ≤ character.val ∧ character.val ≤ 90) := rfl
  have lower : character.isLower =
      (decide (97 ≤ character.val) && decide (character.val ≤ 122)) := rfl
  have split : character.isAlpha = (character.isUpper || character.isLower) := rfl
  rw [split, upper, lower, Bool.eq_iff_iff]
  simp only [Bool.or_eq_true, Bool.and_eq_true, decide_eq_true_eq, UInt32.le_iff_toNat_le]
  rfl

/-- The character parts tokens. -/
def IsBoundary (character : Char) : Prop :=
  Text.isBlank character = true ∨ isPunctuation character = true

theorem mem_marks {mark : Char} (isMark : isPunctuation mark = true) :
    mark ∈ ['\x7b', '\x7d', '[', ']', ':', ','] := by
  simpa [isPunctuation] using isMark

theorem IsBoundary.not_part {character : Char} (boundary : IsBoundary character) :
    isNumberPart character = false ∧ isIdentifierPart character = false := by
  rcases boundary with blank | isMark
  · have code : character.toNat = character.val.toNat := rfl
    have apart : ∀ other : Char, other.val.toNat ∈ [36, 43, 45, 46, 69, 95, 101] →
        character ≠ other := by
      rintro other member rfl
      simp only [Text.isBlank, Bool.or_eq_true, Bool.and_eq_true, decide_eq_true_eq,
        beq_iff_eq] at blank
      simp only [List.mem_cons, List.not_mem_nil, or_false] at member
      omega
    simp only [Text.isBlank, Bool.or_eq_true, Bool.and_eq_true, decide_eq_true_eq,
      beq_iff_eq] at blank
    constructor
    · simp [isNumberPart, Char.isDigit, UInt32.le_iff_toNat_le, apart]
      omega
    · simp [isIdentifierPart, isNamePart, Char.isAlphanum, isAlpha_eq, Char.isDigit,
        UInt32.le_iff_toNat_le, apart]
      omega
  · have member := mem_marks isMark
    fin_cases member <;> decide

theorem stops_of_boundary {rest : List Char}
    (boundary : ∀ character ∈ rest.head?, IsBoundary character) :
    Stops isNumberPart rest ∧ Stops isIdentifierPart rest :=
  ⟨fun character member => (boundary character member).not_part.1,
    fun character member => (boundary character member).not_part.2⟩

/-- Before a mark there are blanks, if anything. -/
theorem Spaced.boundary {text : List Char} {tokens : List Token} (spaced : Spaced text tokens)
    (marked : ∀ token ∈ tokens.head?,
      ∃ mark, token = .punctuation mark ∧ isPunctuation mark = true) :
    ∀ character ∈ text.head?, IsBoundary character := by
  intro character member
  cases spaced with
  | blank blank =>
      exact Or.inl (blank character (List.mem_of_mem_head? member))
  | @token before rest token tokens blank further =>
      cases before with
      | cons first more =>
          obtain rfl := Option.some.inj member
          exact Or.inl (blank _ List.mem_cons_self)
      | nil =>
          rcases marked token rfl with ⟨mark, rfl, isMark⟩
          obtain rfl := Option.some.inj member
          exact Or.inr isMark

theorem next?_number {characters rest : List Char} {number : Number}
    (isNumber : NumberText characters number) (stops : Stops isNumberPart rest) :
    next? (characters ++ rest) = some (.number characters, rest) := by
  have spanned := spanNumber_append isNumber stops
  rcases isNumber.isRun.start with ⟨first, member, start⟩
  rcases List.head?_eq_some_iff.mp member with ⟨more, rfl⟩
  have unquoted : first ≠ '"' ∧ first ≠ '\'' := by
    constructor <;>
      rintro rfl <;>
      revert start <;>
      decide
  have isStart : (first = '-' || first.isDigit) = true := by
    simpa using start
  rw [List.cons_append] at spanned ⊢
  simp only [next?, unquoted.1, unquoted.2, isStart, spanned, if_true, if_false, Option.map_some]

/-- An identifier starts as no other token does. -/
theorem identifier_start {first : Char} (start : first = '$' ∨ isNameStart first = true) :
    (first ≠ '"' ∧ first ≠ '\'') ∧ (first = '-' || first.isDigit) = false ∧
      isPunctuation first = false ∧ Text.isBlank first = false := by
  rcases start with rfl | start
  · decide
  · have part := isIdentifierPart_of_isNameStart start
    have inside : ¬IsBoundary first := by
      intro boundary
      rw [boundary.not_part.2] at part
      cases part
    refine ⟨⟨?_, ?_⟩, ?_, ?_, ?_⟩
    · rintro rfl
      revert start
      decide
    · rintro rfl
      revert start
      decide
    · by_contra digit
      rw [Bool.not_eq_false, Bool.or_eq_true, decide_eq_true_eq] at digit
      rcases digit with rfl | digit
      · revert start
        decide
      · have code : first.toNat = first.val.toNat := rfl
        simp only [isNameStart, isAlpha_eq, Char.isDigit, Bool.or_eq_true, Bool.and_eq_true,
          decide_eq_true_eq, UInt32.le_iff_toNat_le, ge_iff_le] at start digit
        rcases start with letter | rfl
        · simp at letter digit
          omega
        · simp at digit
    · exact Bool.eq_false_iff.mpr fun isMark => inside (Or.inr isMark)
    · exact Bool.eq_false_iff.mpr fun blank => inside (Or.inl blank)

theorem next?_identifier {characters rest : List Char} {text : String}
    (isKey : KeyToken (.identifier characters) text) (stops : Stops isIdentifierPart rest) :
    next? (characters ++ rest) = some (.identifier characters, rest) ∨
      (¬(Token.identifier characters).IsNamed ∧ next? (characters ++ rest) = none) := by
  have spanned := spanIdentifier_append isKey stops
  cases isKey with
  | string isString =>
      cases isString
  | @name first more start all =>
      rcases identifier_start start with ⟨⟨double, single⟩, number, unmarked, -⟩
      rw [List.cons_append] at spanned ⊢
      simp only [next?, double, single, number, unmarked, Bool.false_eq_true, if_false]
      rcases spanned with found | ⟨unnamed, none⟩
      · exact Or.inl (by rw [found]; rfl)
      · exact Or.inr ⟨unnamed, by rw [none]; rfl⟩

/-- Nothing runs on from the token into the text. -/
def Token.Ends (token : Token) (rest : List Char) : Prop :=
  (∃ mark, token = .punctuation mark) ∨
    (Stops isNumberPart rest ∧ Stops isIdentifierPart rest)

/-- A token of a derivation is found where it is written, if it is named. -/
theorem next?_written {token : Token} (grammatical : token.IsGrammatical) {rest : List Char}
    (ends : token.Ends rest) :
    next? (token.written ++ rest) = some (token, rest) ∨
      (¬token.IsNamed ∧ next? (token.written ++ rest) = none) := by
  cases grammatical with
  | number isNumber =>
      rcases ends with ⟨mark, same⟩ | stops
      · cases same
      · exact Or.inl (next?_number isNumber stops.1)
  | mark isMark =>
      rename_i mark
      have member := mem_marks isMark
      refine Or.inl ?_
      fin_cases member <;> rfl
  | key isKey =>
      cases isKey with
      | name start all =>
          rcases ends with ⟨mark, same⟩ | stops
          · cases same
          · exact next?_identifier (.name start all) stops.2
      | string isString =>
          cases isString with
          | double spells =>
              have spanned := spanQuoted_append (spells.quoted (Or.inl rfl)) (by decide) rest
              exact Or.inl (by simp [Token.written, next?, spanned])
          | single spells =>
              have spanned := spanQuoted_append (spells.quoted (Or.inr rfl)) (by decide) rest
              exact Or.inl (by simp [Token.written, next?, spanned])

/-- No token of a derivation starts with a blank. -/
theorem Token.IsGrammatical.start {token : Token} (grammatical : token.IsGrammatical) :
    ∃ first more, token.written = first :: more ∧ Text.isBlank first = false := by
  cases grammatical with
  | number isNumber =>
      rcases isNumber.isRun.start with ⟨first, member, start⟩
      rcases List.head?_eq_some_iff.mp member with ⟨more, rfl⟩
      refine ⟨first, more, rfl, Bool.eq_false_iff.mpr fun blank => ?_⟩
      have part := isNumber.isRun.all first List.mem_cons_self
      rw [(IsBoundary.not_part (Or.inl blank)).1] at part
      cases part
  | mark isMark =>
      rename_i mark
      have member := mem_marks isMark
      refine ⟨mark, [], rfl, ?_⟩
      fin_cases member <;> decide
  | key isKey =>
      cases isKey with
      | name start all =>
          exact ⟨_, _, rfl, (identifier_start start).2.2.2⟩
      | string isString =>
          cases isString <;> exact ⟨_, _, rfl, by decide⟩

/-- The text after a token that is no mark starts with a blank or a mark. -/
theorem Spaced.ends {token : Token} {rest : List Char} {others : List Token}
    (further : Spaced rest others) (grammatical : ∀ other ∈ others, other.IsGrammatical)
    (apart : (token :: others).IsChain Token.Apart) : token.Ends rest := by
  cases others with
  | nil =>
      exact Or.inr (stops_of_boundary (further.boundary (by simp)))
  | cons next others =>
      rcases (List.isChain_cons_cons.mp apart).1 with isMark | ⟨mark, rfl⟩
      · exact Or.inl isMark
      · refine Or.inr (stops_of_boundary (further.boundary ?_))
        rintro _ ⟨⟩
        cases grammatical _ List.mem_cons_self with
        | mark isMark =>
            exact ⟨mark, rfl, isMark⟩
        | key isKey =>
            cases isKey with
            | string isString =>
                cases isString

/-- The first token is looked for behind the blanks. -/
theorem tokens_token {fuel : Nat} {before rest : List Char} {token : Token}
    (blank : ∀ character ∈ before, Text.isBlank character = true)
    (grammatical : token.IsGrammatical) :
    tokens (fuel + 1) (before ++ (token.written ++ rest)) =
      match next? (token.written ++ rest) with
      | some (token, after) => do return token :: (← tokens fuel after)
      | none => .error (token.written ++ rest) := by
  rcases grammatical.start with ⟨first, more, written, visible⟩
  have start : (before ++ (token.written ++ rest)).dropWhile Text.isBlank =
      token.written ++ rest := by
    rw [List.dropWhile_append_of_pos blank, written, List.cons_append]
    simp [visible]
  rw [tokens, start]
  split
  · rename_i empty
    rw [written] at empty
    cases empty
  · rfl

theorem tokens_blank {fuel : Nat} {text : List Char}
    (blank : ∀ character ∈ text, Text.isBlank character = true) : tokens fuel text = .ok [] := by
  cases fuel with
  | zero =>
      rfl
  | succ fuel =>
      rw [tokens, List.dropWhile_eq_nil_iff.mpr blank]

/-- A token has a character. -/
theorem Token.IsGrammatical.shorter {fuel : Nat} {token : Token} {before rest : List Char}
    (grammatical : token.IsGrammatical)
    (enough : (before ++ (token.written ++ rest)).length < fuel + 1) : rest.length < fuel := by
  rcases grammatical.start with ⟨first, more, written, -⟩
  simp only [written, List.length_append, List.length_cons] at enough
  omega

/-- A text that can be spaced as the tokens of a derivation is cut into these or not at all. -/
theorem tokens_unique {fuel : Nat} {input : List Char} {found others : List Token}
    (enough : input.length < fuel) (cut : tokens fuel input = .ok found)
    (spaced : Spaced input others) (grammatical : ∀ token ∈ others, token.IsGrammatical)
    (apart : others.IsChain Token.Apart) : found = others := by
  -- The spacing is followed token by token: what comes after a token that is no mark is a
  -- boundary, so that the longest match ends where the token does.
  induction spaced generalizing fuel found with
  | blank blank =>
      rw [tokens_blank blank] at cut
      exact (Except.ok.inj cut).symm
  | @token before rest token others blank further ih =>
      cases fuel with
      | zero =>
          exact absurd enough (Nat.not_lt_zero _)
      | succ fuel =>
          rw [List.forall_mem_cons] at grammatical
          rw [tokens_token blank grammatical.1] at cut
          rcases next?_written grammatical.1 (further.ends grammatical.2 apart) with
            found | ⟨-, none⟩
          · rw [found] at cut
            rcases bind_eq_ok cut with ⟨cutRest, cutAfter, same⟩
            rw [← ih (grammatical.1.shorter enough) cutAfter grammatical.2 apart.tail]
            exact (Except.ok.inj same).symm
          · rw [none] at cut
            cases cut

/-- A text that can be spaced as the tokens of a derivation, each with a name, is cut into these. -/
theorem tokens_spaced {fuel : Nat} {input : List Char} {found : List Token}
    (enough : input.length < fuel) (spaced : Spaced input found)
    (grammatical : ∀ token ∈ found, token.IsGrammatical) (apart : found.IsChain Token.Apart)
    (named : ∀ token ∈ found, token.IsNamed) : tokens fuel input = .ok found := by
  induction spaced generalizing fuel with
  | blank blank =>
      exact tokens_blank blank
  | @token before rest token others blank further ih =>
      cases fuel with
      | zero =>
          exact absurd enough (Nat.not_lt_zero _)
      | succ fuel =>
          rw [List.forall_mem_cons] at grammatical named
          rw [tokens_token blank grammatical.1]
          rcases next?_written grammatical.1 (further.ends grammatical.2 apart) with
            found | ⟨unnamed, -⟩
          · rw [found]
            dsimp only
            rw [ih (grammatical.1.shorter enough) grammatical.2 apart.tail named.2]
            rfl
          · exact absurd named.1 unnamed

end DocumentGate.Argument
