import DocumentGate.Proofs.NestedArguments
import DocumentGate.Service.Fault

/-!
# Keys without marks

A key that looks like a name may stand without quotation marks, and means the same as with them:
the tokens behind it are the same, and a name before a colon is spelled in quotation marks.
Only the places of later faults differ, by the two marks.

The form of such keys lets any of them begin with a dollar sign.  But a token is a name only
where a letter or an underscore stands behind the dollar sign.  So a key like `$` or `$$ROOT` is
refused where it stands alone, whatever comes after it.
-/

namespace DocumentGate.Argument

/-! ## Objects with a key in front -/

/-- A key that may stand without marks, with a letter, an underscore or a dollar sign in front. -/
def IsBareKey : List Char → Prop
  | [] => False
  | first :: rest => (first = '$' ∨ isNameStart first = true) ∧
    ∀ character ∈ rest, isIdentifierPart character = true

instance (key : List Char) : Decidable (IsBareKey key) :=
  match key with
  | [] => inferInstanceAs (Decidable False)
  | first :: rest =>
    decidable_of_iff
      ((first = '$' ∨ isNameStart first = true) ∧ rest.all isIdentifierPart = true)
      (and_congr_right' List.all_eq_true)

/-- An object that starts with a key without marks. -/
def bareMember (key remainder : String) : String :=
  "\x7b" ++ key ++ ":" ++ remainder ++ "\x7d"

/-- An object that starts with a key in quotation marks. -/
def quotedMember (key remainder : String) : String :=
  "\x7b\"" ++ key ++ "\":" ++ remainder ++ "\x7d"

/-- The same value is read, or the faults are of one kind. -/
inductive Alike : Except Fault Json → Except Fault Json → Prop where
  | value {value} : Alike (.ok value) (.ok value)
  | fault {fault other} (same : Service.kindOfCommand? (.arguments fault) =
      Service.kindOfCommand? (.arguments other)) : Alike (.error fault) (.error other)

theorem IsBareKey.key {key : List Char} (isBare : IsBareKey key) :
    KeyToken (.identifier key) (String.ofList key) := by
  cases key with
  | nil =>
      cases isBare
  | cons first rest =>
      exact .name isBare.1 isBare.2

/-! ## Tokens -/

/-- A token is shorter than the text that it is found in, and so is what follows it. -/
theorem length_lt_of_next? {input after : List Char} {token : Token}
    (found : next? (input.dropWhile Text.isBlank) = some (token, after)) :
    after.length < input.length := by
  rcases next?_eq_some found with ⟨written, lexical⟩
  have positive := List.length_pos_iff.mpr lexical.written_ne_nil
  have shorter := (List.dropWhile_sublist Text.isBlank (l := input)).length_le
  rw [written, List.length_append] at shorter
  omega

/-- Fuel beyond the number of characters makes no difference. -/
theorem tokens_eq_of_lt {fuel more : Nat} {input : List Char} (enough : input.length < fuel)
    (further : input.length < more) : tokens fuel input = tokens more input := by
  induction fuel generalizing more input with
  | zero =>
      exact absurd enough (Nat.not_lt_zero _)
  | succ fuel ih =>
      obtain ⟨more, rfl⟩ := Nat.exists_eq_succ_of_ne_zero (Nat.ne_zero_of_lt further)
      rw [tokens, tokens]
      split
      · rfl
      · split
        · rename_i token after found
          have shorter := length_lt_of_next? found
          have same : tokens fuel after = tokens more after := ih (by omega) (by omega)
          rw [same]
        · rfl

/-- The text at a character that starts no token is an end of the whole text. -/
theorem length_le_of_tokens {fuel : Nat} {input rest : List Char}
    (failed : tokens fuel input = .error rest) : rest.length ≤ input.length := by
  induction fuel generalizing input with
  | zero =>
      cases failed
  | succ fuel ih =>
      rw [tokens] at failed
      split at failed
      · cases failed
      · split at failed
        · rename_i token after found
          have shorter := length_lt_of_next? found
          rcases bind_eq_error_iff.mp failed with stopped | ⟨others, -, ended⟩
          · have within := ih stopped
            omega
          · cases ended
        · obtain rfl := Except.error.inj failed
          exact (List.dropWhile_sublist Text.isBlank).length_le

/-- A character that starts no token is reported with its place. -/
theorem tokenize_eq_error {text stop : List Char}
    (failed : tokens (text.length + 1) text = .error stop) :
    tokenize text = .error (.unexpectedCharacter (stop.headD ' ') (text.length - stop.length)) := by
  rw [tokenize, failed]

/-- A token that may stand in a derivation is found in front of the text after it. -/
theorem tokens_cons {fuel : Nat} {token : Token} {rest : List Char}
    (grammatical : token.IsGrammatical) (named : token.IsNamed) (ends : token.Ends rest) :
    tokens (fuel + 1) (token.written ++ rest) = do return token :: (← tokens fuel rest) := by
  have found := (next?_written grammatical ends).resolve_right fun unnamed => unnamed.1 named
  have start : tokens (fuel + 1) ([] ++ (token.written ++ rest)) = _ :=
    tokens_token (List.forall_mem_nil _) grammatical
  rw [List.nil_append, found] at start
  exact start

/-- The tokens of an object with a key in front are its bracket, the key, a colon and others. -/
theorem tokens_opening {fuel : Nat} {key : Token} {rest : List Char}
    (grammatical : key.IsGrammatical) (named : key.IsNamed) :
    tokens (fuel + 3) ('\x7b' :: (key.written ++ ':' :: rest)) = do
      return .punctuation '\x7b' :: key :: .punctuation ':' :: (← tokens fuel rest) := by
  have colon : key.Ends (':' :: rest) := by
    refine Or.inr (stops_of_boundary ?_)
    rintro _ ⟨⟩
    exact Or.inr (by decide)
  have opener : tokens (fuel + 3)
      ((Token.punctuation '\x7b').written ++ (key.written ++ ':' :: rest)) = _ :=
    tokens_cons (.mark (by decide)) trivial (Or.inl ⟨_, rfl⟩)
  have separator : tokens (fuel + 1) ((Token.punctuation ':').written ++ rest) = _ :=
    tokens_cons (.mark (by decide)) trivial (Or.inl ⟨_, rfl⟩)
  have middle : tokens (fuel + 2) (key.written ++ ':' :: rest) = _ :=
    tokens_cons grammatical named colon
  rw [show (Token.punctuation ':').written ++ rest = ':' :: rest from rfl] at separator
  rw [separator] at middle
  rw [middle] at opener
  refine opener.trans ?_
  cases tokens fuel rest <;> rfl

/-- A key without marks before a colon is spelled as the one in quotation marks. -/
theorem spell_bareKey (limit depth : Int) (previous : Option Token) (key : List Char)
    (following : List Token) :
    spell limit depth previous (.identifier key :: .punctuation ':' :: following) =
      spell limit depth previous (.doubleQuoted key :: .punctuation ':' :: following) := by
  have colon : ∀ before, spell limit depth before (.punctuation ':' :: following) =
      (do return ':' :: (← spell limit depth (some (.punctuation ':')) following)) := fun _ => rfl
  rw [spell, spell, spellIdentifier, if_pos List.head?_cons, colon, colon]
  cases spell limit depth (some (.punctuation ':')) following with
  | error fault =>
      rfl
  | ok more =>
      show Except.ok _ = Except.ok _
      simp

/-! ## Reading -/

/-- What is read of tokens. -/
def readTokens (limit : Int) (found : List Token) : Except Fault Json := do
  let spelled ← spell limit 0 none found
  match Json.readChars spelled with
  | .ok value => return value
  | .error (.malformed fault _) => throw (.malformed fault)
  | .error (.oversized digits) => throw (.oversized digits)

/-- An object with a key in front is read by the tokens behind it. -/
theorem readChars_opening (limit : Int) {key : Token} {rest : List Char}
    (grammatical : key.IsGrammatical) (named : key.IsNamed) :
    readChars limit ('\x7b' :: (key.written ++ ':' :: rest)) =
      match tokens (rest.length + 1) rest with
      | .ok others =>
        readTokens limit (.punctuation '\x7b' :: key :: .punctuation ':' :: others)
      | .error stop => .error (.unexpectedCharacter (stop.headD ' ')
          (key.written.length + 2 + (rest.length - stop.length))) := by
  rcases grammatical.start with ⟨first, more, written, -⟩
  have positive : 0 < key.written.length := by
    rw [written]
    exact Nat.succ_pos _
  have size : ('\x7b' :: (key.written ++ ':' :: rest)).length + 1 =
      key.written.length + rest.length + 3 := by
    simp only [List.length_cons, List.length_append]
    omega
  -- What is left of the fuel behind the key depends on the key, but it is enough in any case.
  have fuel : tokens (key.written.length + rest.length) rest = tokens (rest.length + 1) rest :=
    tokens_eq_of_lt (by omega) (by omega)
  have cut : tokens (key.written.length + rest.length + 3)
      ('\x7b' :: (key.written ++ ':' :: rest)) = _ := tokens_opening grammatical named
  rw [fuel] at cut
  have visible : ('\x7b' :: (key.written ++ ':' :: rest)).all Text.isBlank = false := rfl
  rw [readChars, visible, tokenize, size, cut]
  cases behind : tokens (rest.length + 1) rest with
  | ok others =>
      rfl
  | error stop =>
      have within := length_le_of_tokens behind
      have place : ('\x7b' :: (key.written ++ ':' :: rest)).length - stop.length =
          key.written.length + 2 + (rest.length - stop.length) := by
        omega
      show Except.error (Fault.unexpectedCharacter _ _) = _
      rw [place]

/-- The dollar sign of a key without a name behind it starts no token. -/
theorem next?_unnamed {key : List Char} (isBare : IsBareKey key)
    (unnamed : ¬(Token.identifier key).IsNamed) (rest : List Char) :
    key.head? = some '$' ∧ next? (key ++ ':' :: rest) = none := by
  cases key with
  | nil =>
      cases isBare
  | cons first more =>
      by_cases led : first = '$'
      · subst led
        refine ⟨rfl, ?_⟩
        have noName : spanIdentifier ('$' :: (more ++ ':' :: rest)) = none := by
          cases more with
          | nil =>
              rfl
          | cons next others =>
              have plain : isNameStart next = false := by
                simpa [Token.IsNamed] using unnamed
              simp [spanIdentifier, plain]
        show (spanIdentifier ('$' :: (more ++ ':' :: rest))).map _ = none
        rw [noName]
        rfl
      · exact absurd (by simp [Token.IsNamed, led]) unnamed

/-- So the key is refused where it stands alone, whatever comes after it. -/
theorem readChars_unnamed (limit : Int) {key : List Char} (isBare : IsBareKey key)
    (unnamed : ¬(Token.identifier key).IsNamed) (rest : List Char) :
    readChars limit ('\x7b' :: (key ++ ':' :: rest)) = .error (.unexpectedCharacter '$' 1) := by
  rcases next?_unnamed isBare unnamed rest with ⟨led, none⟩
  rcases List.head?_eq_some_iff.mp led with ⟨more, rfl⟩
  generalize text : ('$' :: more) ++ ':' :: rest = behind at none
  have stopped : tokens (behind.length + 1) ([] ++ ('$' :: more ++ ':' :: rest)) = _ :=
    tokens_token (List.forall_mem_nil _) (.key isBare.key)
  rw [List.nil_append, text, Token.written, text, none] at stopped
  have cut : tokens (('\x7b' :: behind).length + 1) ('\x7b' :: behind) = _ :=
    tokens_cons (.mark (by decide)) trivial (Or.inl ⟨'\x7b', rfl⟩)
  have cut : tokens (('\x7b' :: behind).length + 1) ('\x7b' :: behind) = .error behind :=
    cut.trans (by rw [List.length_cons, stopped]; rfl)
  have tokenized : tokenize ('\x7b' :: behind) = .error (.unexpectedCharacter '$' 1) := by
    have place : ('\x7b' :: behind).length - behind.length = 1 := by
      simp
    rw [tokenize_eq_error cut, place, ← text]
    rfl
  have visible : ('\x7b' :: behind).all Text.isBlank = false := rfl
  rw [readChars, visible, tokenized]
  rfl

/-- A key in quotation marks may stand in a derivation. -/
theorem IsBareKey.quoted {key : List Char} (isBare : IsBareKey key) :
    (Token.doubleQuoted key).IsGrammatical := by
  cases key with
  | nil =>
      cases isBare
  | cons first rest =>
      have parts : ∀ character ∈ first :: rest, isIdentifierPart character = true := by
        refine List.forall_mem_cons.mpr ⟨?_, isBare.2⟩
        rcases isBare.1 with rfl | start
        · decide
        · exact isIdentifierPart_of_isNameStart start
      rcases (BodyText.identifier parts).spells with ⟨codes, spells, -⟩
      exact .key (.string (.double spells))

/--
A key without marks is read as the one in quotation marks: the same value, or the same fault,
but for the place of a character that starts no token.
-/
theorem readChars_named (limit : Int) {key : List Char} (isBare : IsBareKey key)
    (named : (Token.identifier key).IsNamed) (rest : List Char) :
    readChars limit ('\x7b' :: (key ++ ':' :: rest)) =
        readChars limit ('\x7b' :: '"' :: (key ++ '"' :: ':' :: rest)) ∨
      ∃ character place,
        readChars limit ('\x7b' :: (key ++ ':' :: rest)) =
            .error (.unexpectedCharacter character place) ∧
          readChars limit ('\x7b' :: '"' :: (key ++ '"' :: ':' :: rest)) =
            .error (.unexpectedCharacter character (place + 2)) := by
  have bare : readChars limit ('\x7b' :: (key ++ ':' :: rest)) = _ :=
    readChars_opening limit (.key isBare.key) named
  have quoted : readChars limit
      ('\x7b' :: ((Token.doubleQuoted key).written ++ ':' :: rest)) = _ :=
    readChars_opening limit isBare.quoted trivial
  have marks : (Token.doubleQuoted key).written ++ ':' :: rest =
      '"' :: (key ++ '"' :: ':' :: rest) := by
    simp [Token.written]
  rw [marks] at quoted
  rw [bare, quoted]
  cases tokens (rest.length + 1) rest with
  | ok others =>
      refine Or.inl ?_
      have same : spell limit 0 none
          (.punctuation '\x7b' :: .identifier key :: .punctuation ':' :: others) =
          spell limit 0 none
            (.punctuation '\x7b' :: .doubleQuoted key :: .punctuation ':' :: others) := by
        rw [spell_cons limit 0 none (.punctuation '\x7b') (.identifier key :: _),
          spell_cons limit 0 none (.punctuation '\x7b') (.doubleQuoted key :: _), spell_bareKey]
        rfl
      show readTokens limit _ = readTokens limit _
      rw [readTokens, readTokens, same]
  | error stop =>
      refine Or.inr ⟨_, _, rfl, ?_⟩
      simp [Token.written]
      omega

/-! ## Keys with and without marks -/

theorem toList_bareMember (key remainder : String) : (bareMember key remainder).toList =
    '\x7b' :: (key.toList ++ ':' :: (remainder.toList ++ ['\x7d'])) := by
  simp [bareMember]

theorem toList_quotedMember (key remainder : String) : (quotedMember key remainder).toList =
    '\x7b' :: '"' :: (key.toList ++ '"' :: ':' :: (remainder.toList ++ ['\x7d'])) := by
  simp [quotedMember]

theorem Alike.refl (result : Except Fault Json) : Alike result result := by
  cases result with
  | ok value =>
      exact .value
  | error fault =>
      exact .fault rfl

/-- A fault of a character that starts no token is like every other one that is reported. -/
theorem alike_unexpectedCharacter {character : Char} {place : Nat} {result : Except Fault Json} :
    Alike (.error (.unexpectedCharacter character place)) result ↔
      ∃ fault, result = .error fault ∧ ∀ digits, fault ≠ .oversized digits := by
  constructor
  · intro alike
    cases alike with
    | fault same =>
        refine ⟨_, rfl, ?_⟩
        rintro digits rfl
        cases same
  · rintro ⟨fault, rfl, reported⟩
    refine .fault ?_
    cases fault with
    | oversized digits =>
        exact absurd rfl (reported digits)
    | _ =>
        rfl

/--
A key without marks means the same as in quotation marks, and its faults are of the same kind,
unless it begins with a dollar sign that has no name behind it.  Such a key is refused at the
dollar sign, so that it means the same only where the key in quotation marks is refused as well.
-/
theorem read_bareMember (limit : Int) {key : String} (isBare : IsBareKey key.toList)
    (remainder : String) :
    ((Token.identifier key.toList).IsNamed →
      read limit (bareMember key remainder) = read limit (quotedMember key remainder) ∨
        ∃ character place,
          read limit (bareMember key remainder) =
              .error (.unexpectedCharacter character place) ∧
            read limit (quotedMember key remainder) =
              .error (.unexpectedCharacter character (place + 2))) ∧
    (¬(Token.identifier key.toList).IsNamed →
      read limit (bareMember key remainder) = .error (.unexpectedCharacter '$' 1)) ∧
    (Alike (read limit (bareMember key remainder)) (read limit (quotedMember key remainder)) ↔
      (Token.identifier key.toList).IsNamed ∨
        ∃ fault, read limit (quotedMember key remainder) = .error fault ∧
          ∀ digits, fault ≠ .oversized digits) := by
  have same : (Token.identifier key.toList).IsNamed → _ := fun named =>
    readChars_named limit isBare named (remainder.toList ++ ['\x7d'])
  have refused : ¬(Token.identifier key.toList).IsNamed → _ := fun unnamed =>
    readChars_unnamed limit isBare unnamed (remainder.toList ++ ['\x7d'])
  rw [← toList_bareMember] at same refused
  rw [← toList_quotedMember] at same
  refine ⟨same, refused, ?_⟩
  by_cases named : (Token.identifier key.toList).IsNamed
  · refine iff_of_true ?_ (Or.inl named)
    rcases same named with equal | ⟨character, place, bare, quoted⟩
    · rw [read, equal]
      exact Alike.refl _
    · rw [read, read, bare, quoted]
      exact .fault rfl
  · rw [read, refused named, alike_unexpectedCharacter]
    exact (or_iff_right named).symm

/-- The name of a path in a document, as a key before a list that is not closed. -/
theorem read_bareMember_path :
    IsBareKey "$set.a".toList ∧
      Alike (read 32 (bareMember "$set.a" "[1")) (read 32 (quotedMember "$set.a" "[1")) := by
  have isBare : IsBareKey "$set.a".toList := by
    simp only [String.reduceToList]
    decide
  have named : (Token.identifier "$set.a".toList).IsNamed := by
    simp only [String.reduceToList]
    exact ⟨'s', rfl, by decide⟩
  exact ⟨isBare, (read_bareMember 32 isBare "[1").2.2.mpr (Or.inl named)⟩

/-- A key of two dollar signs and a name has a value only in quotation marks. -/
theorem read_bareMember_root :
    IsBareKey "$$ROOT".toList ∧
      ¬Alike (read 32 (bareMember "$$ROOT" "1")) (read 32 (quotedMember "$$ROOT" "1")) := by
  have isBare : IsBareKey "$$ROOT".toList := by
    simp only [String.reduceToList]
    decide
  refine ⟨isBare, ?_⟩
  have refused : read 32 (bareMember "$$ROOT" "1") = .error (.unexpectedCharacter '$' 1) := by
    simp only [read, bareMember, String.reduceAppend, String.reduceToList]
    rfl
  have accepted : read 32 (quotedMember "$$ROOT" "1") =
      .ok (.object [("$$ROOT", .integer 1)]) := by
    simp only [read, quotedMember, String.reduceAppend, String.reduceToList]
    rfl
  rw [refused, accepted]
  intro alike
  cases alike

end DocumentGate.Argument
