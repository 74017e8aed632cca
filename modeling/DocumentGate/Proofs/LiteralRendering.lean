import DocumentGate.Proofs.LiteralReading
import DocumentGate.Proofs.StrictTexts

/-!
# Relaxed renderings of values

A value may be written in many ways.  Its strings stand in quotation marks or in apostrophes,
and each character of them for itself or as an escape.  A key that looks like a name may stand
alone.  A comma may follow the last element or member, and blanks stand anywhere between
tokens.

Every rendering of a value whose brackets nest within the limit is read as the value.
-/

namespace DocumentGate

/-! ## Nesting -/

mutual
/-- How many brackets of the value lie inside one another at most. -/
def Json.nesting : Json → Nat
  | .array elements => Json.nestingOfElements elements + 1
  | .object members => Json.nestingOfMembers members + 1
  | _ => 0
termination_by structural value => value

/-- The most `nesting` of an element. -/
def Json.nestingOfElements : List Json → Nat
  | [] => 0
  | element :: rest => max (Json.nesting element) (Json.nestingOfElements rest)
termination_by structural elements => elements

/-- The most `nesting` of the value of a member. -/
def Json.nestingOfMembers : List (String × Json) → Nat
  | [] => 0
  | (_, value) :: rest => max (Json.nesting value) (Json.nestingOfMembers rest)
termination_by structural members => members
end

namespace Argument

/-! ## Renderings -/

/-- The characters stand for the character in a string between two marks. -/
inductive CharacterText (mark : Char) : List Char → Char → Prop where
  | plain {character} (unmarked : character ≠ mark) (unescaped : character ≠ '\\')
      (printable : 0x20 ≤ character.toNat) : CharacterText mark [character] character
  | escape {letter character} (escaped : Json.escaped? letter = some character) :
      CharacterText mark ['\\', letter] character
  | apostrophe (single : mark = '\'') : CharacterText mark ['\\', '\''] '\''
  | unicode {first second third fourth character}
      (hexadecimal : Text.hexValue? [first, second, third, fourth] = some character.toNat) :
      CharacterText mark ['\\', 'u', first, second, third, fourth] character
  /-- A character beyond the first plane is two escapes. -/
  | pair {first second third fourth fifth sixth seventh eighth high low character}
      (isHigh : Text.hexValue? [first, second, third, fourth] = some high)
      (isLow : Text.hexValue? [fifth, sixth, seventh, eighth] = some low)
      (units : Text.unitsOf character.toNat = [high, low]) :
      CharacterText mark
        ['\\', 'u', first, second, third, fourth, '\\', 'u', fifth, sixth, seventh, eighth]
        character

/-- The body of a string between two marks stands for the characters one by one. -/
inductive BodyText (mark : Char) : List Char → List Char → Prop where
  | nil : BodyText mark [] []
  | cons {written body character characters} (first : CharacterText mark written character)
      (further : BodyText mark body characters) :
      BodyText mark (written ++ body) (character :: characters)

/-- The token is a string in either kind of marks. -/
inductive RendersString : Token → String → Prop where
  | double {body text} (isBody : BodyText '"' body text.toList) :
      RendersString (.doubleQuoted body) text
  | single {body text} (isBody : BodyText '\'' body text.toList) :
      RendersString (.singleQuoted body) text

/-- The token is a key: a string, or a name that may have a dollar sign before it. -/
inductive RendersKey : Token → String → Prop where
  | string {token text} (isString : RendersString token text) : RendersKey token text
  | name {dollar first rest} (isDollar : dollar = [] ∨ dollar = ['$'])
      (start : isNameStart first = true)
      (all : ∀ character ∈ rest, isIdentifierPart character = true) :
      RendersKey (.identifier (dollar ++ first :: rest)) (String.ofList (dollar ++ first :: rest))

/-- The tokens are a relaxed rendering of the phrase. -/
inductive Renders : List Token → Phrase → Prop where
  | nullName : Renders [.identifier "null".toList] (.literal .null)
  | trueName : Renders [.identifier "true".toList] (.literal (.boolean true))
  | falseName : Renders [.identifier "false".toList] (.literal (.boolean false))
  | number {characters number} (isNumber : NumberText characters number) :
      Renders [.number characters] (.literal (.number number))
  | string {token text} (isString : RendersString token text) :
      Renders [token] (.literal (.string text))
  | emptyArray : Renders [.punctuation '[', .punctuation ']'] (.literal (.array []))
  | array {inner trail values} (elements : Renders inner (.elements values))
      (isTrail : IsTrail trail) :
      Renders (.punctuation '[' :: (inner ++ (trail ++ [.punctuation ']'])))
        (.literal (.array values))
  | emptyObject : Renders [.punctuation '\x7b', .punctuation '\x7d'] (.literal (.object []))
  | object {inner trail members} (listed : Renders inner (.members members))
      (isTrail : IsTrail trail) :
      Renders (.punctuation '\x7b' :: (inner ++ (trail ++ [.punctuation '\x7d'])))
        (.literal (.object members))
  | element {tokens value} (literal : Renders tokens (.literal value)) :
      Renders tokens (.elements [value])
  | elements {tokens rest value values} (literal : Renders tokens (.literal value))
      (further : Renders rest (.elements values)) :
      Renders (tokens ++ .punctuation ',' :: rest) (.elements (value :: values))
  | member {key text tokens value} (isKey : RendersKey key text)
      (literal : Renders tokens (.literal value)) :
      Renders (key :: .punctuation ':' :: tokens) (.members [(text, value)])
  | members {key text tokens rest value pairs} (isKey : RendersKey key text)
      (literal : Renders tokens (.literal value)) (further : Renders rest (.members pairs)) :
      Renders (key :: .punctuation ':' :: (tokens ++ .punctuation ',' :: rest))
        (.members ((text, value) :: pairs))

/-- The text is a relaxed rendering of the value. -/
def Rendering (text : List Char) (value : Json) : Prop :=
  ∃ tokens, Spaced text tokens ∧ Renders tokens (.literal value)

/-! ## Strings -/

/-- What stands for characters stands for codes that join to them. -/
theorem BodyText.spells {mark : Char} {body characters : List Char}
    (isBody : BodyText mark body characters) :
    ∃ codes, Spells mark body codes ∧ Text.joinSurrogates codes = characters := by
  have single : ∀ (character : Char) (codes : List Nat),
      Text.joinSurrogates (character.toNat :: codes) =
        character :: Text.joinSurrogates codes := by
    intro character codes
    rw [Text.joinSurrogates_cons (Text.not_isSurrogate _).1, Text.characterOf_toNat]
  induction isBody with
  | nil =>
      exact ⟨[], .nil, rfl⟩
  | @cons written body character characters first further ih =>
      rcases ih with ⟨codes, spells, rfl⟩
      cases first with
      | plain unmarked unescaped printable =>
          exact ⟨_, .plain unmarked unescaped printable spells, single _ codes⟩
      | escape escaped =>
          exact ⟨_, .escape escaped spells, single _ codes⟩
      | apostrophe isMark =>
          exact ⟨_, .apostrophe isMark spells, single '\'' codes⟩
      | unicode hexadecimal =>
          exact ⟨_, .unicode hexadecimal spells, single _ codes⟩
      | pair isHigh isLow units =>
          refine ⟨_, .unicode isHigh (.unicode isLow spells), ?_⟩
          have joined := Text.joinSurrogates_unitsOf character codes
          rw [units] at joined
          exact joined

theorem isIdentifierPart_printable {character : Char} (part : isIdentifierPart character = true) :
    0x20 ≤ character.toNat := by
  have code : character.toNat = character.val.toNat := rfl
  simp only [isIdentifierPart, isNamePart, Char.isAlphanum, isAlpha_eq, Char.isDigit,
    Bool.or_eq_true, Bool.and_eq_true, decide_eq_true_eq, UInt32.le_iff_toNat_le, ge_iff_le] at part
  rcases part with (((letter | digit) | rfl) | rfl) | rfl
  · omega
  · have low : ('0' : Char).toNat ≤ character.toNat := digit.1
    exact Nat.le_trans (by decide) low
  · decide
  · decide
  · decide

/-- The parts of an identifier stand for themselves in quotation marks. -/
theorem BodyText.identifier {characters : List Char}
    (all : ∀ character ∈ characters, isIdentifierPart character = true) :
    BodyText '"' characters characters := by
  induction characters with
  | nil =>
      exact .nil
  | cons first rest ih =>
      rw [List.forall_mem_cons] at all
      rcases isIdentifierPart_plain all.1 with ⟨unmarked, unescaped, -⟩
      exact .cons (.plain unmarked unescaped (isIdentifierPart_printable all.1)) (ih all.2)

theorem RendersString.token {token : Token} {text : String} (renders : RendersString token text) :
    StringToken token text ∧ token.IsNamed := by
  rw [← String.ofList_toList (s := text)]
  cases renders with
  | double isBody =>
      rcases isBody.spells with ⟨codes, spells, joined⟩
      rw [← joined]
      exact ⟨.double spells, trivial⟩
  | single isBody =>
      rcases isBody.spells with ⟨codes, spells, joined⟩
      rw [← joined]
      exact ⟨.single spells, trivial⟩

theorem RendersKey.token {token : Token} {text : String} (renders : RendersKey token text) :
    KeyToken token text ∧ token.IsNamed := by
  cases renders with
  | string isString =>
      exact ⟨.string isString.token.1, isString.token.2⟩
  | @name dollar first rest isDollar start all =>
      rcases isDollar with rfl | rfl
      · refine ⟨.name (Or.inr start) all, ?_⟩
        unfold Token.IsNamed
        split
        · rename_i same
          rw [(List.cons.inj (Token.identifier.inj same)).1] at start
          cases start
        · trivial
      · have parts : ∀ character ∈ first :: rest, isIdentifierPart character = true :=
          List.forall_mem_cons.mpr ⟨isIdentifierPart_of_isNameStart start, all⟩
        exact ⟨.name (Or.inl rfl) parts, first, rfl, start⟩

/-! ## Derivations -/

/-- The keys of every object in the phrase are distinct. -/
def Phrase.HasDistinctKeys : Phrase → Prop
  | .literal value => value.HasDistinctKeys
  | .elements values => Json.AllHaveDistinctKeys values
  | .members pairs => Json.MembersHaveDistinctKeys pairs

/-- A rendering is a derivation, and its tokens are found one by one. -/
theorem Renders.derives {found : List Token} {phrase : Phrase} (renders : Renders found phrase)
    (distinct : phrase.HasDistinctKeys) :
    Derives found phrase ∧ ∀ token ∈ found, token.IsNamed := by
  have trailing : ∀ {trail : List Token}, IsTrail trail → ∀ token ∈ trail, token.IsNamed := by
    rintro trail (rfl | rfl)
    · simp
    · simp [Token.IsNamed]
  have mark : ∀ {mark : Char}, (Token.punctuation mark).IsNamed := trivial
  induction renders with
  | nullName =>
      exact ⟨.nullName, by simp [Token.IsNamed]⟩
  | trueName =>
      exact ⟨.trueName, by simp [Token.IsNamed]⟩
  | falseName =>
      exact ⟨.falseName, by simp [Token.IsNamed]⟩
  | number isNumber =>
      exact ⟨.number isNumber, by simp [Token.IsNamed]⟩
  | string isString =>
      exact ⟨.string isString.token.1, by simpa using isString.token.2⟩
  | emptyArray =>
      exact ⟨.emptyArray, by simp [mark]⟩
  | array elements isTrail ih =>
      rcases ih distinct with ⟨derives, named⟩
      refine ⟨.array derives isTrail, ?_⟩
      simp only [List.forall_mem_cons, List.forall_mem_append]
      exact ⟨mark, named, trailing isTrail, mark, by simp⟩
  | emptyObject =>
      exact ⟨.emptyObject, by simp [mark]⟩
  | @object inner trail members listed isTrail ih =>
      rcases ih distinct.2 with ⟨derives, named⟩
      have derived := Derives.object derives isTrail
      rw [Dictionary.ofPairs_of_nodup distinct.1] at derived
      refine ⟨derived, ?_⟩
      simp only [List.forall_mem_cons, List.forall_mem_append]
      exact ⟨mark, named, trailing isTrail, mark, by simp⟩
  | element literal ih =>
      rcases ih distinct.1 with ⟨derives, named⟩
      exact ⟨.element derives, named⟩
  | elements literal further first second =>
      rcases first distinct.1 with ⟨derives, named⟩
      rcases second distinct.2 with ⟨derivesFurther, namedFurther⟩
      refine ⟨.elements derives derivesFurther, ?_⟩
      simp only [List.forall_mem_cons, List.forall_mem_append]
      exact ⟨named, mark, namedFurther⟩
  | member isKey literal ih =>
      rcases ih distinct.1 with ⟨derives, named⟩
      refine ⟨.member isKey.token.1 derives, ?_⟩
      simp only [List.forall_mem_cons]
      exact ⟨isKey.token.2, mark, named⟩
  | members isKey literal further first second =>
      rcases first distinct.1 with ⟨derives, named⟩
      rcases second distinct.2 with ⟨derivesFurther, namedFurther⟩
      refine ⟨.members isKey.token.1 derives derivesFurther, ?_⟩
      simp only [List.forall_mem_cons, List.forall_mem_append]
      exact ⟨isKey.token.2, mark, named, mark, namedFurther⟩

/-! ## The strict spelling of a rendering -/

/-- Some number in the phrase is beyond the digit limit. -/
def Phrase.hasOversizedNumber : Phrase → Bool
  | .literal value => value.hasOversizedNumber
  | .elements values => Json.anyOversized values
  | .members pairs => Json.anyMemberOversized pairs

/-- How many brackets of the phrase lie inside one another at most. -/
def Phrase.nesting : Phrase → Nat
  | .literal value => value.nesting
  | .elements values => Json.nestingOfElements values
  | .members pairs => Json.nestingOfMembers pairs

/--
The tokens are spelled as the text wherever so many levels are left and no colon follows, and
a comma after them may be a trailing one.
-/
structure SpelledAs (limit : Int) (levels : Nat) (found : List Token) (text : List Char)
    (last : Token) : Prop where
  start : ∃ first rest, found = first :: rest ∧ first.closes = false
  open_ : last.opens = false
  apart : last ≠ .punctuation ','
  spelled : ∀ {depth : Int} {previous : Option Token} {left : List Token} {more : List Char},
    depth + levels ≤ limit → left.head? ≠ some (.punctuation ':') →
      spell limit depth (some last) left = .ok more →
        spell limit depth previous (found ++ left) = .ok (text ++ more)

theorem spell_opener {limit depth : Int} {previous : Option Token} {opener : Char}
    {following : List Token} {text : List Char} (opens : (Token.punctuation opener).opens = true)
    (within : depth + 1 ≤ limit)
    (further : spell limit (depth + 1) (some (.punctuation opener)) following = .ok text) :
    spell limit depth previous (.punctuation opener :: following) = .ok (opener :: text) := by
  rw [spell, if_pos opens, if_neg (Int.not_lt.mpr within), further]
  rfl

theorem spell_closer {limit depth : Int} {previous : Option Token} {closer : Char}
    {following : List Token} {text : List Char}
    (closes : closer ∈ [']', '\x7d'])
    (further : spell limit (depth - 1) (some (.punctuation closer)) following = .ok text) :
    spell limit depth previous (.punctuation closer :: following) = .ok (closer :: text) := by
  have facts : (Token.punctuation closer).opens = false ∧
      (Token.punctuation closer).closes = true := by
    fin_cases closes <;> decide
  rw [spell, if_neg (by simp [facts]), if_pos facts.2, further]
  rfl

/-- A colon is spelled, and a comma unless it is a trailing one. -/
theorem spell_separator {limit depth : Int} {previous : Option Token} {mark : Char}
    {following : List Token} {text : List Char} (separates : mark = ':' ∨
      mark = ',' ∧ isTrailingComma previous following = false)
    (further : spell limit depth (some (.punctuation mark)) following = .ok text) :
    spell limit depth previous (.punctuation mark :: following) = .ok (mark :: text) := by
  rcases separates with rfl | ⟨rfl, kept⟩
  · rw [spell, if_neg (by decide), if_neg (by decide), if_neg (by simp), further]
    rfl
  · rw [spell, if_neg (by decide), if_neg (by decide), if_neg (by simp [kept]), further]
    rfl

/-- A trailing comma is left out. -/
theorem spell_trail {limit depth : Int} {last : Token} {trail : List Token} {closer : Char}
    {following : List Token} {text : List Char} (isTrail : IsTrail trail)
    (closes : closer ∈ [']', '\x7d']) (open_ : last.opens = false)
    (apart : last ≠ .punctuation ',')
    (further : spell limit (depth - 1) (some (.punctuation closer)) following = .ok text) :
    spell limit depth (some last) (trail ++ .punctuation closer :: following) =
      .ok (closer :: text) := by
  rcases isTrail with rfl | rfl
  · exact spell_closer closes further
  · have closing : (Token.punctuation closer).closes = true := by
      fin_cases closes <;> decide
    have dropped : isTrailingComma (some last) (.punctuation closer :: following) = true := by
      simp [isTrailingComma, closing, open_, apart]
    rw [List.singleton_append, spell, if_neg (by decide), if_neg (by decide),
      if_pos (by simp [dropped])]
    exact spell_closer closes further

/-- A single token that is no mark. -/
theorem SpelledAs.token {limit : Int} {token : Token} {text : List Char}
    (plain : ∀ mark, token ≠ .punctuation mark)
    (spelled : ∀ {depth : Int} {previous : Option Token} {left : List Token} {more : List Char},
      left.head? ≠ some (.punctuation ':') → spell limit depth (some token) left = .ok more →
        spell limit depth previous (token :: left) = .ok (text ++ more)) :
    SpelledAs limit 0 [token] text token where
  start := ⟨token, [], rfl, by simp [Token.closes, plain]⟩
  open_ := by simp [Token.opens, plain]
  apart := plain ','
  spelled := fun _ separate further => spelled separate further

theorem spelledAs_name {limit : Int} {characters : List Char} (isName : characters ∈ valueNames) :
    SpelledAs limit 0 [.identifier characters] characters (.identifier characters) := by
  refine .token (by simp) ?_
  intro depth previous left more separate further
  have known : valueNames.contains characters = true := by
    simpa using isName
  rw [spell, spellIdentifier, if_neg separate, if_pos known]
  show (do return characters ++ (← spell limit depth _ left)) = _
  rw [further]
  rfl

theorem spelledAs_number {limit : Int} {characters : List Char} :
    SpelledAs limit 0 [.number characters] characters (.number characters) := by
  refine .token (by simp) ?_
  intro depth previous left more separate further
  rw [spell, further]
  rfl

/-- A string is spelled in quotation marks and stands for its text there. -/
theorem RendersString.spelled {token : Token} {text : String} (renders : RendersString token text)
    (limit : Int) :
    ∃ body codes, Spells '"' body codes ∧ String.ofList (Text.joinSurrogates codes) = text ∧
      (∀ mark, token ≠ .punctuation mark) ∧
      ∀ {depth : Int} {previous : Option Token} {following : List Token} {more : List Char},
        spell limit depth (some token) following = .ok more →
          spell limit depth previous (token :: following) = .ok ('"' :: (body ++ '"' :: more)) := by
  cases renders with
  | @double body text isBody =>
      rcases isBody.spells with ⟨codes, spells, joined⟩
      refine ⟨body, codes, spells, by rw [joined, String.ofList_toList], by simp, ?_⟩
      intro depth previous following more further
      rw [spell, further]
      rfl
  | @single body text isBody =>
      rcases isBody.spells with ⟨codes, spells, joined⟩
      refine ⟨requote body, codes, spells.requoted, by rw [joined, String.ofList_toList], by simp, ?_⟩
      intro depth previous following more further
      rw [spell, further]
      rfl

/-- A key is spelled in quotation marks before a colon and stands for its text there. -/
theorem RendersKey.spelled {token : Token} {text : String} (renders : RendersKey token text)
    (limit : Int) :
    ∃ body codes, Spells '"' body codes ∧ String.ofList (Text.joinSurrogates codes) = text ∧
      (∀ mark, token ≠ .punctuation mark) ∧
      ∀ {depth : Int} {previous : Option Token} {following : List Token} {more : List Char},
        spell limit depth (some (.punctuation ':')) following = .ok more →
          spell limit depth previous (token :: .punctuation ':' :: following) =
            .ok ('"' :: (body ++ '"' :: ':' :: more)) := by
  have colon : ∀ {depth : Int} {previous : Option Token} {following : List Token}
      {more : List Char}, spell limit depth (some (.punctuation ':')) following = .ok more →
        spell limit depth previous (.punctuation ':' :: following) = .ok (':' :: more) :=
    spell_separator (Or.inl rfl)
  cases renders with
  | string isString =>
      rcases isString.spelled limit with ⟨body, codes, spells, joined, plain, spelled⟩
      exact ⟨body, codes, spells, joined, plain, fun further => spelled (colon further)⟩
  | @name dollar first rest isDollar start all =>
      have parts : ∀ character ∈ dollar ++ first :: rest, isIdentifierPart character = true := by
        refine List.forall_mem_append.mpr ⟨?_, List.forall_mem_cons.mpr
          ⟨isIdentifierPart_of_isNameStart start, all⟩⟩
        rcases isDollar with rfl | rfl
        · simp
        · simp [isIdentifierPart]
      rcases (BodyText.identifier parts).spells with ⟨codes, spells, joined⟩
      refine ⟨_, codes, spells, by rw [joined], by simp, ?_⟩
      intro depth previous following more further
      rw [spell, spellIdentifier, if_pos List.head?_cons]
      show (do return '"' :: (dollar ++ first :: rest) ++ ['"'] ++
        (← spell limit depth _ (.punctuation ':' :: following))) = _
      rw [colon further]
      show Except.ok _ = Except.ok _
      simp

theorem spelledAs_empty {limit : Int} {opener closer : Char}
    (opens : (Token.punctuation opener).opens = true) (closes : closer ∈ [']', '\x7d']) :
    SpelledAs limit 1 [.punctuation opener, .punctuation closer] [opener, closer]
      (.punctuation closer) where
  start := ⟨_, _, rfl, Token.not_closes_of_opens opens⟩
  open_ := by fin_cases closes <;> decide
  apart := by fin_cases closes <;> decide
  spelled := by
    intro depth previous left more within separate further
    refine spell_opener opens (by omega) (spell_closer closes ?_)
    rw [show depth + 1 - 1 = depth by omega]
    exact further

/-- No colon stands before a closing bracket, with or without a comma. -/
theorem IsTrail.head?_ne_colon {trail : List Token} {closer : Char} (isTrail : IsTrail trail)
    (closes : closer ∈ [']', '\x7d']) (left : List Token) :
    (trail ++ .punctuation closer :: left).head? ≠ some (.punctuation ':') := by
  rcases isTrail with rfl | rfl
  · fin_cases closes <;> simp
  · simp

/-- What is in brackets is spelled in brackets, without the last comma. -/
theorem SpelledAs.enclosed {limit : Int} {levels : Nat} {inner trail : List Token}
    {text : List Char} {last : Token} {opener closer : Char}
    (spelled : SpelledAs limit levels inner text last) (isTrail : IsTrail trail)
    (opens : (Token.punctuation opener).opens = true) (closes : closer ∈ [']', '\x7d']) :
    SpelledAs limit (levels + 1)
      (.punctuation opener :: (inner ++ (trail ++ [.punctuation closer])))
      (opener :: (text ++ [closer])) (.punctuation closer) where
  start := ⟨_, _, rfl, Token.not_closes_of_opens opens⟩
  open_ := by fin_cases closes <;> decide
  apart := by fin_cases closes <;> decide
  spelled := by
    intro depth previous left more within separate further
    have closing : spell limit (depth + 1) (some last) (trail ++ .punctuation closer :: left) =
        .ok (closer :: more) := by
      refine spell_trail isTrail closes spelled.open_ spelled.apart ?_
      rw [show depth + 1 - 1 = depth by omega]
      exact further
    have noColon := isTrail.head?_ne_colon closes left
    have tokens : .punctuation opener :: (inner ++ (trail ++ [.punctuation closer])) ++ left =
        .punctuation opener :: (inner ++ (trail ++ .punctuation closer :: left)) := by
      simp
    have spelling : opener :: (text ++ [closer]) ++ more = opener :: (text ++ closer :: more) := by
      simp
    rw [tokens, spelling]
    exact spell_opener opens (by omega) (spelled.spelled (by omega) noColon closing)

/-- Between two phrases stands a comma. -/
theorem SpelledAs.joined {limit : Int} {levels others : Nat} {found rest : List Token}
    {text more : List Char} {last end_ : Token} (spelled : SpelledAs limit levels found text last)
    (further : SpelledAs limit others rest more end_) :
    SpelledAs limit (max levels others) (found ++ .punctuation ',' :: rest) (text ++ ',' :: more)
      end_ where
  start := by
    rcases spelled.start with ⟨first, following, rfl, goes⟩
    exact ⟨first, _, rfl, goes⟩
  open_ := further.open_
  apart := further.apart
  spelled := by
    intro depth previous left after within separate ends
    have second : spell limit depth (some (.punctuation ',')) (rest ++ left) =
        .ok (more ++ after) := further.spelled (by omega) separate ends
    have kept : isTrailingComma (some last) (rest ++ left) = false := by
      rcases further.start with ⟨first, following, rfl, goes⟩
      simp [isTrailingComma, goes]
    rw [List.append_assoc, List.cons_append, List.append_assoc, List.cons_append]
    exact spelled.spelled (by omega) (by simp) (spell_separator (Or.inr ⟨rfl, kept⟩) second)

/-- A member is spelled as its key in quotation marks, a colon and its value. -/
theorem SpelledAs.member {limit : Int} {levels : Nat} {key : Token} {name : String}
    {found : List Token} {text : List Char} {last : Token} (isKey : RendersKey key name)
    (spelled : SpelledAs limit levels found text last) :
    ∃ body codes, Spells '"' body codes ∧ String.ofList (Text.joinSurrogates codes) = name ∧
      SpelledAs limit levels (key :: .punctuation ':' :: found)
        ('"' :: (body ++ '"' :: ':' :: text)) last := by
  rcases isKey.spelled limit with ⟨body, codes, spells, joined, plain, spelledKey⟩
  refine ⟨body, codes, spells, joined, ⟨_, _, rfl, by simp [Token.closes, plain]⟩, spelled.open_,
    spelled.apart, ?_⟩
  intro depth previous left more within separate further
  simp only [List.cons_append, List.append_assoc]
  exact spelledKey (spelled.spelled within separate further)

/-- A rendering is spelled as a strict text of the same phrase. -/
theorem Renders.strict {found : List Token} {phrase : Phrase} (renders : Renders found phrase)
    (distinct : phrase.HasDistinctKeys) (fits : phrase.hasOversizedNumber = false) (limit : Int) :
    ∃ text last, Strict phrase text ∧ SpelledAs limit phrase.nesting found text last := by
  induction renders with
  | nullName =>
      exact ⟨_, _, .nullName, spelledAs_name (by simp [valueNames])⟩
  | trueName =>
      exact ⟨_, _, .trueName, spelledAs_name (by simp [valueNames])⟩
  | falseName =>
      exact ⟨_, _, .falseName, spelledAs_name (by simp [valueNames])⟩
  | number isNumber =>
      exact ⟨_, _, .number isNumber fits, spelledAs_number⟩
  | string isString =>
      rcases isString.spelled limit with ⟨body, codes, spells, rfl, plain, spelled⟩
      refine ⟨_, _, .string spells, .token plain ?_⟩
      intro depth previous left more separate further
      rw [List.cons_append, List.append_assoc]
      exact spelled further
  | emptyArray =>
      exact ⟨_, _, .emptyArray, spelledAs_empty (by decide) (by decide)⟩
  | array elements isTrail ih =>
      rcases ih distinct fits with ⟨text, last, strict, spelled⟩
      exact ⟨_, _, .array strict, spelled.enclosed isTrail (by decide) (by decide)⟩
  | emptyObject =>
      exact ⟨_, _, .emptyObject, spelledAs_empty (by decide) (by decide)⟩
  | object listed isTrail ih =>
      rcases ih distinct.2 fits with ⟨text, last, strict, spelled⟩
      have isObject := Strict.object strict
      rw [Dictionary.ofPairs_of_nodup distinct.1] at isObject
      exact ⟨_, _, isObject, spelled.enclosed isTrail (by decide) (by decide)⟩
  | element literal ih =>
      have small := (Bool.or_eq_false_iff.mp fits).1
      rcases ih distinct.1 small with ⟨text, last, strict, spelled⟩
      refine ⟨text, last, .element strict, ?_⟩
      simpa [Phrase.nesting, Json.nestingOfElements] using spelled
  | elements literal further first second =>
      rcases Bool.or_eq_false_iff.mp fits with ⟨small, smallFurther⟩
      rcases first distinct.1 small with ⟨text, last, strict, spelled⟩
      rcases second distinct.2 smallFurther with ⟨rest, end_, strictFurther, spelledFurther⟩
      exact ⟨_, end_, .elements strict strictFurther, spelled.joined spelledFurther⟩
  | member isKey literal ih =>
      have small := (Bool.or_eq_false_iff.mp fits).1
      rcases ih distinct.1 small with ⟨text, last, strict, spelled⟩
      rcases spelled.member isKey with ⟨body, codes, spells, rfl, spelledMember⟩
      refine ⟨_, last, .member spells strict, ?_⟩
      simpa [Phrase.nesting, Json.nestingOfMembers] using spelledMember
  | members isKey literal further first second =>
      rcases Bool.or_eq_false_iff.mp fits with ⟨small, smallFurther⟩
      rcases first distinct.1 small with ⟨text, last, strict, spelled⟩
      rcases second distinct.2 smallFurther with ⟨rest, end_, strictFurther, spelledFurther⟩
      rcases spelled.member isKey with ⟨body, codes, spells, rfl, spelledMember⟩
      have whole := spelledMember.joined spelledFurther
      simp only [List.cons_append, List.append_assoc] at whole
      exact ⟨_, end_, .members spells strict strictFurther, whole⟩

/-! ## Reading -/

theorem tokenize_eq {text : List Char} {found : List Token}
    (cut : tokens (text.length + 1) text = .ok found) : tokenize text = .ok found := by
  rw [tokenize, cut]

/-- A rendering has a character that is no blank. -/
theorem Spaced.not_blank {text : List Char} {token : Token} {others : List Token}
    (spaced : Spaced text (token :: others)) (grammatical : token.IsGrammatical) :
    text.all Text.isBlank = false := by
  rcases grammatical.start with ⟨first, more, written, visible⟩
  cases spaced with
  | token blank further =>
      simp [written, visible]

/--
Every relaxed rendering of a value is read as the value, if its brackets nest within the limit
and its whole numbers are within the digit limit.
-/
theorem read_rendering {limit : Int} {text : String} {value : Json}
    (distinct : value.HasDistinctKeys) (fits : value.hasOversizedNumber = false)
    (within : value.nesting ≤ limit) (rendering : Rendering text.toList value) :
    read limit text = .ok value := by
  rcases rendering with ⟨found, spaced, renders⟩
  rcases renders.derives distinct with ⟨derives, named⟩
  have grammatical := derives.grammatical
  have cut := tokens_spaced (Nat.lt_succ_self _) spaced grammatical derives.apart named
  rcases renders.strict distinct fits limit with ⟨spelling, last, strict, spelled⟩
  have spelledWhole : spell limit 0 none found = .ok spelling := by
    have ends : spell limit 0 (some last) [] = .ok [] := rfl
    rw [← List.append_nil found, ← List.append_nil spelling]
    exact spelled.spelled (by rw [Int.zero_add]; exact within) (by simp) ends
  rcases spelled.start with ⟨first, others, rfl, -⟩
  have visible := spaced.not_blank (grammatical first List.mem_cons_self)
  rw [read, readChars, visible, tokenize_eq cut]
  change (spell limit 0 none (first :: others) >>= _) = _
  rw [spelledWhole]
  dsimp only [bind, Except.bind]
  rw [strict.readChars]
  rfl

/-- A name with a dot as a key, a string in apostrophes with an escape, and trailing commas. -/
theorem read_rendering_member :
    read 2 "\x7b a.b: ['\"\\u0041', 1.0 ,],\x7d" =
      .ok (.object [("a.b", .array [.string "\"A", .number (numberOf false ['1'] ['0'] none)])]) := by
  have cut : tokens 100 "\x7b a.b: ['\"\\u0041', 1.0 ,],\x7d".toList = .ok [.punctuation '\x7b',
      .identifier ['a', '.', 'b'], .punctuation ':', .punctuation '[',
      .singleQuoted "\"\\u0041".toList, .punctuation ',', .number "1.0".toList,
      .punctuation ',', .punctuation ']', .punctuation ',', .punctuation '\x7d'] := by
    decide +kernel
  have isKey : RendersKey (.identifier ['a', '.', 'b']) "a.b" :=
    .name (Or.inl rfl) (by decide) (by simp [isIdentifierPart, isNamePart])
  have isString : RendersString (.singleQuoted "\"\\u0041".toList) "\"A" :=
    .single (.cons (.plain (by decide) (by decide) (by decide))
      (.cons (.unicode (by decide)) .nil))
  have isWhole : WholeText ['1'] := .digits (by decide) (by simp [AllDigits])
  have isFraction : FractionText ['.', '0'] ['0'] := .some (by decide) (by simp [AllDigits])
  have isNumber : NumberText "1.0".toList (numberOf false ['1'] ['0'] none) :=
    @NumberText.parts false _ _ _ _ _ isWhole isFraction .none
  have list : Renders _ (.literal (.array [.string "\"A", _])) :=
    .array (.elements (.string isString) (.element (.number isNumber))) (Or.inr rfl)
  exact read_rendering (by simp [Json.HasDistinctKeys, Json.MembersHaveDistinctKeys,
      Json.AllHaveDistinctKeys]) (by decide) (by decide)
    ⟨_, (tokens_eq_ok (by decide) cut).1, .object (.member isKey list) (Or.inr rfl)⟩

end Argument
end DocumentGate
