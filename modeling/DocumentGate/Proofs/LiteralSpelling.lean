import DocumentGate.Proofs.LiteralTokens

/-!
# The strict spelling of arguments

The tokens of arguments are spelled again for the strict reader.  Here stands what a token
becomes, and which token the reader was given when it meets a character.  A string reads as
what its token stands for, whether its marks were quotation marks, apostrophes or none.
-/

namespace DocumentGate.Argument

/-! ## Strings in quotation marks -/

/-- What is read up to a quotation mark is the body of a string. -/
theorem readCodes_eq_ok {opened : Nat} {input after : List Char} {codes : List Nat}
    (read : Json.readCodes opened input = .ok (codes, after)) :
    ∃ body, input = body ++ '"' :: after ∧ Spells '"' body codes := by
  fun_induction Json.readCodes opened input generalizing codes with
  | case1 =>
      cases read
  | case2 =>
      rcases Prod.mk.inj (Except.ok.inj read) with ⟨rfl, rfl⟩
      exact ⟨[], rfl, .nil⟩
  | case3 =>
      cases read
  | case4 first second third fourth rest code unfinished hexadecimal ih =>
      rcases bind_eq_ok read with ⟨⟨others, _⟩, further, same⟩
      rcases Prod.mk.inj (Except.ok.inj same) with ⟨rfl, rfl⟩
      rcases ih further with ⟨body, rfl, spells⟩
      exact ⟨_, rfl, .unicode hexadecimal spells⟩
  | case5 =>
      cases read
  | case6 =>
      cases read
  | case7 letter rest other character escaped ih =>
      rcases bind_eq_ok read with ⟨⟨others, _⟩, further, same⟩
      rcases Prod.mk.inj (Except.ok.inj same) with ⟨rfl, rfl⟩
      rcases ih further with ⟨body, rfl, spells⟩
      exact ⟨_, rfl, .escape escaped spells⟩
  | case8 =>
      cases read
  | case9 =>
      cases read
  | case10 character rest unmarked last _ other printable ih =>
      rcases bind_eq_ok read with ⟨⟨others, _⟩, further, same⟩
      rcases Prod.mk.inj (Except.ok.inj same) with ⟨rfl, rfl⟩
      rcases ih further with ⟨body, rfl, spells⟩
      refine ⟨_, rfl, .plain unmarked ?_ (Nat.le_of_not_lt printable) spells⟩
      intro escapes
      cases body with
      | nil =>
          exact other _ _ escapes rfl
      | cons next more =>
          exact other _ _ escapes rfl

/-- The body of a string is read where a quotation mark closes it. -/
theorem readCodes_append {opened : Nat} {body more after : List Char} {codes : List Nat}
    (quoted : Quoted '"' body)
    (read : Json.readCodes opened (body ++ '"' :: more) = .ok (codes, after)) :
    after = more ∧ Spells '"' body codes := by
  rcases readCodes_eq_ok read with ⟨found, same, spells⟩
  have cut := spanQuoted_append quoted (by decide) more
  rw [same, spanQuoted_append (spells.quoted (Or.inl rfl)) (by decide) after] at cut
  rcases Prod.mk.inj (Option.some.inj cut) with ⟨rfl, rfl⟩
  exact ⟨rfl, spells⟩

/-! ## Strings in apostrophes -/

theorem quoted_requote {body : List Char} (quoted : Quoted '\'' body) :
    Quoted '"' (requote body) := by
  induction quoted with
  | nil =>
      exact .nil
  | @plain character rest unmarked unescaped inLine further ih =>
      rw [requote]
      · split
        · exact .escape (by decide) ih
        · rename_i other
          exact .plain other unescaped inLine ih
      · rintro _ _ rfl
        exact absurd rfl unescaped
  | escape inLine further ih =>
      rw [requote]
      split
      · exact .plain (by decide) (by decide) (by decide) ih
      · exact .escape inLine ih

theorem requote_eq_nil {body : List Char} (same : requote body = []) : body = [] := by
  fun_cases requote body with
  | case1 next rest =>
      rw [requote] at same
      split at same <;> cases same
  | case2 character rest other =>
      rw [requote] at same
      · split at same <;> cases same
      · exact other
  | case3 =>
      rfl

/-- Only an apostrophe comes from other characters than itself. -/
theorem requote_eq_cons {body more : List Char} {character : Char}
    (same : requote body = character :: more) (unescaped : character ≠ '\\') :
    (∃ rest, body = character :: rest ∧ requote rest = more) ∨
      ∃ rest, body = '\\' :: '\'' :: rest ∧ character = '\'' ∧ requote rest = more := by
  fun_cases requote body with
  | case1 next rest =>
      rw [requote] at same
      split at same
      · rename_i isMark
        rcases List.cons.inj same with ⟨rfl, tail⟩
        exact Or.inr ⟨rest, by rw [isMark], rfl, tail⟩
      · exact absurd (List.cons.inj same).1.symm unescaped
  | case2 first rest other =>
      rw [requote] at same
      · split at same
        · exact absurd (List.cons.inj same).1.symm unescaped
        · rcases List.cons.inj same with ⟨rfl, tail⟩
          exact Or.inl ⟨rest, rfl, tail⟩
      · exact other
  | case3 =>
      cases same

/-- An escape was one before, or a quotation mark. -/
theorem requote_eq_escape {body more : List Char} {letter : Char}
    (same : requote body = '\\' :: letter :: more) :
    (∃ rest, body = '\\' :: letter :: rest ∧ requote rest = more) ∨
      ∃ rest, body = '"' :: rest ∧ letter = '"' ∧ requote rest = more := by
  fun_cases requote body with
  | case1 next rest =>
      rw [requote] at same
      split at same
      · cases same
      · rcases List.cons.inj same with ⟨-, same⟩
        rcases List.cons.inj same with ⟨rfl, tail⟩
        exact Or.inl ⟨rest, rfl, tail⟩
  | case2 first rest other =>
      rw [requote] at same
      · split at same
        · rename_i isMark
          rcases List.cons.inj same with ⟨-, same⟩
          rcases List.cons.inj same with ⟨rfl, tail⟩
          exact Or.inr ⟨rest, by rw [isMark], rfl, tail⟩
        · rcases List.cons.inj same with ⟨rfl, tail⟩
          cases rest with
          | nil =>
              cases tail
          | cons next others =>
              exact absurd rfl (other next others rfl)
      · exact other
  | case3 =>
      cases same

/-- Hexadecimal digits are themselves before. -/
theorem requote_eq_digit {body more : List Char} {digit : Char}
    (value : (Text.hexDigitValue? digit).isSome = true) (same : requote body = digit :: more) :
    ∃ rest, body = digit :: rest ∧ requote rest = more := by
  rcases hexadecimal_plain value with ⟨-, single, unescaped, -⟩
  rcases requote_eq_cons same unescaped with found | ⟨_, -, isMark, -⟩
  · exact found
  · exact absurd isMark single

theorem Quoted.of_plain {mark character : Char} {rest : List Char}
    (quoted : Quoted mark (character :: rest)) (unescaped : character ≠ '\\') :
    character ≠ mark ∧ Quoted mark rest := by
  cases quoted with
  | plain unmarked _ _ inside =>
      exact ⟨unmarked, inside⟩
  | escape =>
      exact absurd rfl unescaped

theorem Quoted.of_escape {mark character : Char} {rest : List Char}
    (quoted : Quoted mark ('\\' :: character :: rest)) : Quoted mark rest := by
  cases quoted with
  | plain _ unescaped =>
      exact absurd rfl unescaped
  | escape _ inside =>
      exact inside

theorem Quoted.of_digit {mark digit : Char} {rest : List Char}
    (value : (Text.hexDigitValue? digit).isSome = true) (quoted : Quoted mark (digit :: rest)) :
    Quoted mark rest :=
  (quoted.of_plain (hexadecimal_plain value).2.2.1).2

/-- What a string in apostrophes becomes stands for what the string stands for. -/
theorem Spells.of_requote {body : List Char} {codes : List Nat} (quoted : Quoted '\'' body)
    (spells : Spells '"' (requote body) codes) : Spells '\'' body codes := by
  generalize same : requote body = text at spells
  -- The induction is on what the spelling stands for; each case asks which characters of the
  -- body the next ones of the spelling came from.
  induction spells generalizing body with
  | nil =>
      rw [requote_eq_nil same]
      exact .nil
  | plain unmarked unescaped printable further ih =>
      rcases requote_eq_cons same unescaped with ⟨rest, rfl, tail⟩ | ⟨rest, rfl, rfl, tail⟩
      · rcases quoted.of_plain unescaped with ⟨apart, inside⟩
        exact .plain apart unescaped printable (ih inside tail)
      · exact .apostrophe rfl (ih quoted.of_escape tail)
  | escape escaped further ih =>
      rcases requote_eq_escape same with ⟨rest, rfl, tail⟩ | ⟨rest, rfl, rfl, tail⟩
      · exact .escape escaped (ih quoted.of_escape tail)
      · obtain rfl := Option.some.inj escaped
        exact .plain (by decide) (by decide) (by decide)
          (ih (quoted.of_plain (by decide)).2 tail)
  | apostrophe single further ih =>
      cases single
  | @unicode first second third fourth code more codes hexadecimal further ih =>
      have digits := isSome_of_hexValue? hexadecimal
      have start : ∃ rest, body = '\\' :: 'u' :: rest ∧
          requote rest = first :: second :: third :: fourth :: more := by
        rcases requote_eq_escape same with found | ⟨_, -, isMark, -⟩
        · exact found
        · cases isMark
      rcases start with ⟨body, rfl, tail⟩
      rcases requote_eq_digit (digits first (by simp)) tail with ⟨body, rfl, afterFirst⟩
      rcases requote_eq_digit (digits second (by simp)) afterFirst with ⟨body, rfl, afterSecond⟩
      rcases requote_eq_digit (digits third (by simp)) afterSecond with ⟨body, rfl, afterThird⟩
      rcases requote_eq_digit (digits fourth (by simp)) afterThird with ⟨body, rfl, afterFourth⟩
      have inside : Quoted '\'' body :=
        .of_digit (digits fourth (by simp)) (.of_digit (digits third (by simp))
          (.of_digit (digits second (by simp)) (.of_digit (digits first (by simp))
            quoted.of_escape)))
      exact .unicode hexadecimal (ih inside afterFourth)

theorem requote_plain {character : Char} (unescaped : character ≠ '\\') (rest : List Char) :
    requote (character :: rest) =
      (if character = '"' then ['\\', '"'] else [character]) ++ requote rest := by
  rw [requote]
  rintro _ _ rfl
  exact absurd rfl unescaped

theorem requote_digit {digit : Char} (value : (Text.hexDigitValue? digit).isSome = true)
    (rest : List Char) : requote (digit :: rest) = digit :: requote rest := by
  rcases hexadecimal_plain value with ⟨double, -, unescaped, -⟩
  rw [requote_plain unescaped, if_neg double, List.singleton_append]

theorem escaped?_letter {letter character : Char} (escaped : Json.escaped? letter = some character) :
    letter ≠ 'u' ∧ letter ≠ '\'' := by
  constructor
  · rintro rfl
    cases escaped
  · rintro rfl
    cases escaped

/-- What a string in apostrophes stands for, it stands for in quotation marks. -/
theorem Spells.requoted {body : List Char} {codes : List Nat} (spells : Spells '\'' body codes) :
    Spells '"' (requote body) codes := by
  induction spells with
  | nil =>
      exact .nil
  | plain unmarked unescaped printable further ih =>
      rw [requote_plain unescaped]
      split
      · rename_i isMark
        subst isMark
        exact .escape rfl ih
      · rename_i other
        exact .plain other unescaped printable ih
  | escape escaped further ih =>
      rw [requote, if_neg (escaped?_letter escaped).2]
      exact .escape escaped ih
  | apostrophe single further ih =>
      rw [requote, if_pos rfl]
      exact .plain (by decide) (by decide) (by decide) ih
  | unicode hexadecimal further ih =>
      have value := isSome_of_hexValue? hexadecimal
      rw [requote, if_neg (by decide), requote_digit (value _ (by simp)),
        requote_digit (value _ (by simp)), requote_digit (value _ (by simp)),
        requote_digit (value _ (by simp))]
      exact .unicode hexadecimal ih

/-! ## Names in quotation marks -/

theorem isIdentifierPart_plain {character : Char} (part : isIdentifierPart character = true) :
    character ≠ '"' ∧ character ≠ '\\' ∧ character ≠ '\n' := by
  refine ⟨?_, ?_, ?_⟩ <;>
    rintro rfl <;>
    revert part <;>
    decide

/-- An identifier in quotation marks is a string. -/
theorem quoted_identifier {characters : List Char}
    (all : ∀ character ∈ characters, isIdentifierPart character = true) :
    Quoted '"' characters := by
  induction characters with
  | nil =>
      exact .nil
  | cons first rest ih =>
      rw [List.forall_mem_cons] at all
      rcases isIdentifierPart_plain all.1 with ⟨unmarked, unescaped, inLine⟩
      exact .plain unmarked unescaped inLine (ih all.2)

/-- An identifier in quotation marks stands for itself. -/
theorem Spells.identifier {characters : List Char} {codes : List Nat}
    (spells : Spells '"' characters codes)
    (all : ∀ character ∈ characters, isIdentifierPart character = true) :
    Text.joinSurrogates codes = characters := by
  induction spells with
  | nil =>
      rfl
  | plain unmarked unescaped printable further ih =>
      rw [List.forall_mem_cons] at all
      rw [Text.joinSurrogates_cons (Text.not_isSurrogate _).1, Text.characterOf_toNat, ih all.2]
  | escape =>
      rw [List.forall_mem_cons] at all
      exact absurd rfl (isIdentifierPart_plain all.1).2.1
  | apostrophe single =>
      cases single
  | unicode =>
      rw [List.forall_mem_cons] at all
      exact absurd rfl (isIdentifierPart_plain all.1).2.1

/-! ## Strings and keys -/

/-- The token, with the tokens after it, is spelled as the body in quotation marks. -/
inductive InQuotes : Token → List Token → List Char → Prop where
  | double {body following} : InQuotes (.doubleQuoted body) following body
  | single {body following} : InQuotes (.singleQuoted body) following (requote body)
  | name {characters following} :
      InQuotes (.identifier characters) (.punctuation ':' :: following) characters

/-- What is read between quotation marks is the string or the key that the token stands for. -/
theorem InQuotes.readString {token : Token} {following : List Token} {body more after : List Char}
    {text : String} (inQuotes : InQuotes token following body) (lexical : token.IsLexical)
    (read : Json.readString (body ++ '"' :: more) = .ok (text, after)) :
    after = more ∧ KeyToken token text ∧
      (StringToken token text ∨ following.head? = some (.punctuation ':')) := by
  rcases bind_eq_ok read with ⟨⟨codes, _⟩, codesRead, same⟩
  rcases Prod.mk.inj (Except.ok.inj same) with ⟨rfl, rfl⟩
  cases inQuotes with
  | double =>
      rcases readCodes_append lexical codesRead with ⟨rfl, spells⟩
      exact ⟨rfl, .string (.double spells), Or.inl (.double spells)⟩
  | single =>
      rcases readCodes_append (quoted_requote lexical) codesRead with ⟨rfl, spells⟩
      have spells := Spells.of_requote lexical spells
      exact ⟨rfl, .string (.single spells), Or.inl (.single spells)⟩
  | name =>
      cases lexical with
      | string isString =>
          cases isString
      | @name first rest start all =>
          have parts : ∀ character ∈ first :: rest, isIdentifierPart character = true := by
            rw [List.forall_mem_cons]
            refine ⟨?_, all⟩
            rcases start with rfl | start
            · decide
            · exact isIdentifierPart_of_isNameStart start
          rcases readCodes_append (quoted_identifier parts) codesRead with ⟨rfl, spells⟩
          rw [spells.identifier parts]
          exact ⟨rfl, .name start all, Or.inr rfl⟩

/-! ## Tokens in the strict form -/

/-- The token is a number. -/
def Token.isNumber : Token → Bool
  | .number _ => true
  | _ => false

/-- Of two neighbours one is no number. -/
def Token.Parted (first second : Token) : Prop :=
  first.isNumber = false ∨ second.isNumber = false

/-- Neighbouring numbers are written as one. -/
def joinNumbers : List Token → List Token
  | .number first :: rest =>
    match joinNumbers rest with
    | .number second :: others => .number (first ++ second) :: others
    | others => .number first :: others
  | token :: rest => token :: joinNumbers rest
  | [] => []

theorem joinNumbers_cons {token : Token} (other : token.isNumber = false) (rest : List Token) :
    joinNumbers (token :: rest) = token :: joinNumbers rest := by
  cases token with
  | number characters =>
      cases other
  | _ =>
      rfl

/-- Without neighbouring numbers nothing is joined. -/
theorem joinNumbers_of_parted {found : List Token} (parted : found.IsChain Token.Parted) :
    joinNumbers found = found := by
  induction found with
  | nil =>
      rfl
  | cons token rest ih =>
      have same := ih parted.tail
      cases token with
      | number first =>
          rw [joinNumbers, same]
          cases rest with
          | nil =>
              rfl
          | cons next others =>
              rcases (List.isChain_cons_cons.mp parted).1 with other | other
              · cases other
              · cases next with
                | number second =>
                    cases other
                | _ =>
                    rfl
      | _ =>
          rw [joinNumbers_cons rfl, same]

theorem Token.opens_iff {mark : Char} :
    (Token.punctuation mark).opens = true ↔ mark = '\x7b' ∨ mark = '[' := by
  simp [Token.opens]

theorem Token.not_closes_of_opens {mark : Char}
    (opens : (Token.punctuation mark).opens = true) :
    (Token.punctuation mark).closes = false := by
  rcases opens_iff.mp opens with rfl | rfl
  · decide
  · decide

theorem Token.not_opens_of_closes {mark : Char}
    (closes : (Token.punctuation mark).closes = true) :
    (Token.punctuation mark).opens = false :=
  Bool.eq_false_iff.mpr fun opens =>
    Bool.false_ne_true ((not_closes_of_opens opens).symm.trans closes)

/-- No comma has been left out after the token before. -/
def isFresh (previous : Option Token) : Bool :=
  previous.all fun before => before.opens || before = .punctuation ','

/--
The tokens, of which no two neighbours are numbers, are spelled as the text.  A comma before
a closing bracket is left out, but not at a fresh start.
-/
inductive Spelled : (fresh : Bool) → List Token → List Char → Prop where
  | nil {fresh} : Spelled fresh [] []
  | string {fresh token body following text} (lexical : token.IsLexical)
      (inQuotes : InQuotes token following body) (further : Spelled false following text) :
      Spelled fresh (token :: following) ('"' :: (body ++ '"' :: text))
  | number {fresh characters following text} (isRun : IsRun characters)
      (parted : ∀ next ∈ following.head?, next.isNumber = false)
      (further : Spelled false following text) :
      Spelled fresh (.number characters :: following) (characters ++ text)
  | name {fresh characters following text} (isName : characters ∈ valueNames)
      (further : Spelled false following text) :
      Spelled fresh (.identifier characters :: following) (characters ++ text)
  | mark {fresh mark following text} (isMark : isPunctuation mark = true)
      (further : Spelled (isFresh (some (.punctuation mark))) following text) :
      Spelled fresh (.punctuation mark :: following) (mark :: text)
  | comma {closer following text} (closes : (Token.punctuation closer).closes = true)
      (further : Spelled true (.punctuation closer :: following) text) :
      Spelled false (.punctuation ',' :: .punctuation closer :: following) text

theorem IsRun.append {first second : List Char} (isRun : IsRun first) (further : IsRun second) :
    IsRun (first ++ second) := by
  constructor
  · rcases isRun.start with ⟨start, member, kind⟩
    rcases List.head?_eq_some_iff.mp member with ⟨more, rfl⟩
    exact ⟨start, rfl, kind⟩
  · exact List.forall_mem_append.mpr ⟨isRun.all, further.all⟩

/-- A number before spelled tokens joins a number that they start with. -/
theorem Spelled.joinNumber {fresh : Bool} {first : List Char} {rest : List Token}
    {text : List Char} (isRun : IsRun first) (spelled : Spelled false (joinNumbers rest) text) :
    Spelled fresh (joinNumbers (.number first :: rest)) (first ++ text) := by
  rw [joinNumbers]
  split
  · rename_i second others joined
    rw [joined] at spelled
    cases spelled with
    | string lexical inQuotes further =>
        cases inQuotes
    | number further parted spelled =>
        rw [← List.append_assoc]
        exact .number (isRun.append further) parted spelled
  · rename_i other
    refine .number isRun ?_ spelled
    intro next member
    rcases List.head?_eq_some_iff.mp member with ⟨others, joined⟩
    cases next with
    | number second =>
        exact absurd joined (other second others)
    | _ =>
        rfl

/-- Before a colon an identifier is a key, elsewhere it is the name of a value. -/
theorem Spelled.identifier {fresh : Bool} {characters spelled : List Char} {following : List Token}
    {text : List Char} (lexical : (Token.identifier characters).IsLexical)
    (spelling : spellIdentifier characters following = .ok spelled)
    (further : Spelled false (joinNumbers following) text) :
    Spelled fresh (joinNumbers (.identifier characters :: following)) (spelled ++ text) := by
  rw [joinNumbers_cons rfl]
  unfold spellIdentifier at spelling
  split at spelling
  · rename_i colon
    obtain rfl := Except.ok.inj spelling
    rcases List.head?_eq_some_iff.mp colon with ⟨others, rfl⟩
    rw [joinNumbers_cons rfl] at further ⊢
    rw [List.append_assoc, List.cons_append]
    exact .string lexical .name further
  · split at spelling
    · rename_i isName
      obtain rfl := Except.ok.inj spelling
      exact .name (by simpa using isName) further
    · cases spelling

/-- A comma that is left out stands before a closing bracket. -/
theorem isTrailingComma_eq_true {previous : Option Token} {following : List Token}
    (trailing : isTrailingComma previous following = true) :
    isFresh previous = false ∧ ∃ closer rest, following = .punctuation closer :: rest ∧
      (Token.punctuation closer).closes = true := by
  unfold isTrailingComma at trailing
  split at trailing
  · rename_i before after rest
    simp only [Bool.and_eq_true, Bool.not_eq_true', bne_iff_ne] at trailing
    refine ⟨by simp [isFresh, trailing], ?_⟩
    cases after with
    | punctuation closer =>
        exact ⟨closer, rest, rfl, trailing.1.1⟩
    | _ =>
        simp [Token.closes] at trailing
  · cases trailing

/-! ## One token after the other -/

/-- How a token is spelled after the one before it and before those that follow. -/
def Token.piece (previous : Option Token) (following : List Token) : Token → List Char
  | .doubleQuoted body => '"' :: (body ++ ['"'])
  | .singleQuoted body => '"' :: (requote body ++ ['"'])
  | .number characters => characters
  | .identifier characters =>
    if following.head? = some (.punctuation ':') then '"' :: (characters ++ ['"']) else characters
  | .punctuation mark => if mark = ',' && isTrailingComma previous following then [] else [mark]

/-- By how much the token changes the number of open brackets. -/
def Token.rise (token : Token) : Int :=
  if token.opens then 1 else if token.closes then -1 else 0

/-- How the token is spelled, if it may stand between its neighbours. -/
def Token.spelling (previous : Option Token) (following : List Token) (token : Token) :
    Except Fault (List Char) :=
  match token with
  | .identifier characters => spellIdentifier characters following
  | token => .ok (token.piece previous following)

/-- A bracket is refused beyond the limit; every other token is spelled before those after it. -/
theorem spell_cons (limit depth : Int) (previous : Option Token) (token : Token)
    (following : List Token) : spell limit depth previous (token :: following) =
      if token.opens = true ∧ limit < depth + 1 then .error (.nestedTooDeep limit)
      else do
        let spelled ← token.spelling previous following
        return spelled ++ (← spell limit (depth + token.rise) (some token) following) := by
  have further : ∀ (result : Except Fault (List Char)) {first second : List Char → List Char},
      first = second → (do return first (← result)) = (do return second (← result)) := by
    rintro result first _ rfl
    rfl
  cases token with
  | punctuation mark =>
      rw [spell, Token.rise]
      by_cases opens : (Token.punctuation mark).opens = true
      · have kept : mark ≠ ',' := by
          rintro rfl
          cases opens
        rw [if_pos opens, if_pos opens]
        by_cases beyond : limit < depth + 1
        · rw [if_pos beyond, if_pos ⟨opens, beyond⟩]
        · rw [if_neg beyond, if_neg fun both => beyond both.2]
          exact further _ (by simp [Token.piece, kept])
      · have inside : ¬((Token.punctuation mark).opens = true ∧ limit < depth + 1) :=
          fun beyond => opens beyond.1
        rw [if_neg opens, if_neg opens, if_neg inside]
        by_cases closes : (Token.punctuation mark).closes = true
        · have kept : mark ≠ ',' := by
            rintro rfl
            cases closes
          rw [if_pos closes, if_pos closes, ← Int.sub_eq_add_neg]
          exact further _ (by simp [Token.piece, kept])
        · rw [if_neg closes, if_neg closes, Int.add_zero]
          by_cases dropped : (mark = ',' && isTrailingComma previous following) = true
          · rw [if_pos dropped]
            have nothing : id = ((Token.punctuation mark).piece previous following ++ ·) :=
              funext fun more => by simp [Token.piece, dropped]
            exact (bind_pure _).symm.trans (further _ nothing)
          · rw [if_neg dropped]
            exact further _ (by simp [Token.piece, dropped])
  | identifier characters =>
      rw [if_neg (by simp [Token.opens]), Token.rise, if_neg (by simp [Token.opens]),
        if_neg (by simp [Token.closes]), Int.add_zero]
      rfl
  | _ =>
      rw [if_neg (by simp [Token.opens]), Token.rise, if_neg (by simp [Token.opens]),
        if_neg (by simp [Token.closes]), Int.add_zero]
      exact further _ (by simp [Token.piece])

/-- The strict spelling is the one of the tokens with neighbouring numbers joined. -/
theorem spell_eq_ok {limit depth : Int} {previous : Option Token} {found : List Token}
    {text : List Char} (lexical : ∀ token ∈ found, token.IsLexical)
    (spelling : spell limit depth previous found = .ok text) :
    Spelled (isFresh previous) (joinNumbers found) text := by
  induction found generalizing depth previous text with
  | nil =>
      obtain rfl := Except.ok.inj spelling
      exact .nil
  | cons token following ih =>
      rw [List.forall_mem_cons] at lexical
      rcases lexical with ⟨isLexical, lexical⟩
      rw [spell_cons] at spelling
      split at spelling
      · cases spelling
      rcases bind_eq_ok spelling with ⟨spelled, single, spelling⟩
      rcases bind_eq_ok spelling with ⟨more, further, same⟩
      obtain rfl := Except.ok.inj same
      have later := ih lexical further
      cases token with
      | identifier characters =>
          exact .identifier isLexical single later
      | doubleQuoted body =>
          obtain rfl := Except.ok.inj single
          rw [joinNumbers_cons rfl, Token.piece, List.cons_append, List.append_assoc]
          exact .string isLexical .double later
      | singleQuoted body =>
          obtain rfl := Except.ok.inj single
          rw [joinNumbers_cons rfl, Token.piece, List.cons_append, List.append_assoc]
          exact .string isLexical .single later
      | number characters =>
          obtain rfl := Except.ok.inj single
          exact .joinNumber isLexical later
      | punctuation mark =>
          obtain rfl := Except.ok.inj single
          rw [joinNumbers_cons rfl, Token.piece]
          split
          · rename_i dropped
            rw [Bool.and_eq_true, decide_eq_true_eq] at dropped
            rcases dropped with ⟨rfl, trailing⟩
            rcases isTrailingComma_eq_true trailing with ⟨stale, closer, rest, rfl, closes⟩
            rw [stale]
            rw [joinNumbers_cons rfl] at later ⊢
            exact .comma closes later
          · exact .mark isLexical later

/-! ## What a spelling starts with -/

theorem IsRun.eq_cons {characters : List Char} (isRun : IsRun characters) :
    ∃ first rest, characters = first :: rest ∧ isNumberPart first = true := by
  rcases isRun.start with ⟨first, member, kind⟩
  rcases List.head?_eq_some_iff.mp member with ⟨rest, rfl⟩
  exact ⟨first, rest, rfl, isRun.all first List.mem_cons_self⟩

/-- A mark is spelled as itself, where it is no comma that is left out. -/
theorem Spelled.eq_mark {fresh : Bool} {mark : Char} {following : List Token} {text : List Char}
    (spelled : Spelled fresh (.punctuation mark :: following) text)
    (kept : fresh = true ∨ mark ≠ ',') :
    ∃ more, text = mark :: more ∧ isPunctuation mark = true ∧
      Spelled (isFresh (some (.punctuation mark))) following more := by
  cases spelled with
  | string lexical inQuotes =>
      cases inQuotes
  | mark isMark further =>
      exact ⟨_, rfl, isMark, further⟩
  | comma =>
      rcases kept with start | other
      · cases start
      · exact absurd rfl other

/-- A mark at the start of a spelling is one of the tokens, if need be after a comma. -/
theorem Spelled.of_mark {fresh : Bool} {mark : Char} {found : List Token} {text : List Char}
    (spelled : Spelled fresh found (mark :: text)) (isMark : isPunctuation mark = true) :
    (∃ following, found = .punctuation mark :: following ∧
        Spelled (isFresh (some (.punctuation mark))) following text) ∨
      fresh = false ∧ (Token.punctuation mark).closes = true ∧
        ∃ following, found = .punctuation ',' :: .punctuation mark :: following ∧
          Spelled (isFresh (some (.punctuation mark))) following text := by
  generalize same : mark :: text = whole at spelled
  cases spelled with
  | nil =>
      cases same
  | string lexical inQuotes further =>
      rw [(List.cons.inj same).1] at isMark
      cases isMark
  | number isRun parted further =>
      rcases isRun.eq_cons with ⟨first, rest, rfl, part⟩
      rw [← (List.cons.inj same).1, (IsBoundary.not_part (Or.inr isMark)).1] at part
      cases part
  | name isName further =>
      fin_cases isName <;>
        rw [(List.cons.inj same).1] at isMark <;>
        cases isMark
  | mark _ further =>
      rcases List.cons.inj same with ⟨rfl, rfl⟩
      exact Or.inl ⟨_, rfl, further⟩
  | comma closes further =>
      rcases further.eq_mark (Or.inl rfl) with ⟨more, rfl, -, further⟩
      rcases List.cons.inj same with ⟨rfl, rfl⟩
      exact Or.inr ⟨rfl, closes, _, rfl, further⟩

/-- A quotation mark at the start of a spelling opens a string or a key. -/
theorem Spelled.of_quote {fresh : Bool} {found : List Token} {text : List Char}
    (spelled : Spelled fresh found ('"' :: text)) :
    ∃ token following body more, found = token :: following ∧ text = body ++ '"' :: more ∧
      token.IsLexical ∧ InQuotes token following body ∧ Spelled false following more := by
  generalize same : '"' :: text = whole at spelled
  cases spelled with
  | nil =>
      cases same
  | string lexical inQuotes further =>
      obtain rfl := (List.cons.inj same).2
      exact ⟨_, _, _, _, rfl, rfl, lexical, inQuotes, further⟩
  | number isRun parted further =>
      rcases isRun.eq_cons with ⟨first, rest, rfl, part⟩
      rw [← (List.cons.inj same).1] at part
      cases part
  | name isName further =>
      fin_cases isName <;> cases same
  | mark isMark further =>
      rw [← (List.cons.inj same).1] at isMark
      cases isMark
  | comma closes further =>
      rcases further.eq_mark (Or.inl rfl) with ⟨more, rfl, isMark, -⟩
      rw [← (List.cons.inj same).1] at isMark
      cases isMark

/-- Nothing is spelled as nothing. -/
theorem Spelled.eq_nil {fresh : Bool} {found : List Token} (spelled : Spelled fresh found []) :
    found = [] := by
  generalize same : [] = text at spelled
  cases spelled with
  | nil =>
      rfl
  | number isRun parted further =>
      rcases isRun.eq_cons with ⟨first, rest, rfl, -⟩
      cases same
  | name isName further =>
      fin_cases isName <;> cases same
  | comma closes further =>
      rcases further.eq_mark (Or.inl rfl) with ⟨more, rfl, -⟩
      cases same
  | _ =>
      cases same

theorem not_isSpace_of_part {character : Char} (part : isNumberPart character = true) :
    Json.isSpace character = false := by
  by_contra space
  rw [Bool.not_eq_false] at space
  have isBlank : character = ' ' ∨ character = '\t' ∨ character = '\n' ∨ character = '\r' := by
    simpa [Json.isSpace, or_assoc] using space
  rcases isBlank with rfl | rfl | rfl | rfl <;> cases part

/-- No token starts with a blank, and only a number with a part of a number. -/
theorem Spelled.start {fresh : Bool} {found : List Token} {character : Char} {more : List Char}
    (spelled : Spelled fresh found (character :: more)) :
    Json.isSpace character = false ∧ character ≠ 'I' ∧
      ((∀ next ∈ found.head?, next.isNumber = false) → isNumberPart character = false) := by
  have marked : ∀ mark, isPunctuation mark = true →
      Json.isSpace mark = false ∧ mark ≠ 'I' ∧ isNumberPart mark = false := by
    intro mark isMark
    have member := mem_marks isMark
    fin_cases member <;> decide
  generalize same : character :: more = text at spelled
  cases spelled with
  | nil =>
      cases same
  | string lexical inQuotes further =>
      obtain rfl := (List.cons.inj same).1
      exact ⟨by decide, by decide, fun _ => by decide⟩
  | number isRun parted further =>
      rcases isRun.eq_cons with ⟨first, rest, rfl, part⟩
      obtain rfl := (List.cons.inj same).1
      refine ⟨not_isSpace_of_part part, ?_, ?_⟩
      · rintro rfl
        cases part
      · intro other
        cases other _ rfl
  | name isName further =>
      fin_cases isName <;>
        obtain rfl := (List.cons.inj same).1 <;>
        exact ⟨by decide, by decide, fun _ => by decide⟩
  | mark isMark further =>
      obtain rfl := (List.cons.inj same).1
      rcases marked _ isMark with ⟨visible, other, part⟩
      exact ⟨visible, other, fun _ => part⟩
  | comma closes further =>
      rcases further.eq_mark (Or.inl rfl) with ⟨more, rfl, isMark, -⟩
      obtain rfl := (List.cons.inj same).1
      rcases marked _ isMark with ⟨visible, other, part⟩
      exact ⟨visible, other, fun _ => part⟩

theorem Spelled.skipSpace {fresh : Bool} {found : List Token} {text : List Char}
    (spelled : Spelled fresh found text) : Json.skipSpace text = text := by
  cases text with
  | nil =>
      rfl
  | cons character more =>
      rw [Json.skipSpace, List.dropWhile_cons_of_neg (by simp [spelled.start.1])]

/-! ## What starts as a number -/

/-- What starts as a number is read as one, unless infinity is meant. -/
theorem readValue_numeric {fuel : Nat} {first : Char} {rest : List Char}
    (part : isNumberPart first = true) (finite : first = '-' → ∀ more, rest ≠ 'I' :: more) :
    Json.readValue (fuel + 1) (first :: rest) = (do
      let (number, after) ← Json.readNumber (first :: rest)
      return (.number number, after)) := by
  have apart : ∀ {other : Char} {more : List Char}, isNumberPart other = false →
      first :: rest ≠ other :: more := by
    intro other more noPart same
    rw [(List.cons.inj same).1, noPart] at part
    cases part
  unfold Json.readValue
  split
  case h_9 =>
    rename_i more same
    rcases List.cons.inj same with ⟨isMinus, infinite⟩
    exact absurd infinite (finite isMinus _)
  case h_10 =>
    rfl
  all_goals
    exact absurd ‹_› (apart (by decide))

end DocumentGate.Argument
