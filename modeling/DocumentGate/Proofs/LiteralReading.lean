import DocumentGate.Proofs.LiteralSpelling

/-!
# Reading the strict spelling

Where the strict reader takes a value from a spelling, it takes whole tokens and they derive
the value.  The one other thing that it can do is to stop inside a run of numbers; it is stuck
then, since no character there ends a value.

Numbers that are neighbours are one number in the spelling.  They are all that a spelling
joins, so that arguments are read as the grammar has it unless two numbers are neighbours.
Such arguments can be read, but the grammar has no value for them.
-/

namespace DocumentGate.Argument

/-! ## Numbers -/

/-- What is read as a number is one. -/
theorem readNumber_eq_ok {input after : List Char} {number : Number}
    (read : Json.readNumber input = .ok (number, after)) :
    ∃ used, input = used ++ after ∧ NumberText used number := by
  unfold Json.readNumber at read
  split at read
  rename_i negative unsigned signed
  have sign := minus_append signed
  split at read
  rename_i whole afterWhole wholeFound
  split at read
  · cases read
  · rename_i nonempty
    split at read
    rename_i fraction afterFraction fractionFound
    split at read
    rename_i power left powerFound
    rcases numberText_of_parts wholeFound (by simpa using nonempty) fractionFound powerFound with
      ⟨digits, rfl, isNumber⟩
    have result : numberOf negative whole fraction power = number ∧ left = after := by
      unfold numberOf
      split at read
      · rename_i plain
        rw [if_pos plain]
        split at read
        · cases read
        · exact Prod.mk.inj (Except.ok.inj read)
      · rename_i pointed
        rw [if_neg pointed]
        exact Prod.mk.inj (Except.ok.inj read)
    rcases result with ⟨rfl, rfl⟩
    exact ⟨minus negative ++ digits, by rw [← sign, List.append_assoc], isNumber negative⟩

/-! ## Values -/

/-- The text goes on with a character that ends no value. -/
def IsStuck (text : List Char) : Prop :=
  ∃ character more, text = character :: more ∧ Json.isSpace character = false ∧
    character ∉ [',', ']', '\x7d']

/-- The first of the tokens derive the value and the others are spelled as the text. -/
def Takes (found : List Token) (value : Json) (text : List Char) : Prop :=
  ∃ taken left, found = taken ++ left ∧ Derives taken (.literal value) ∧ Spelled false left text

/-- The tokens up to the closing bracket derive the phrase, a last comma aside. -/
def Encloses (found : List Token) (phrase : Phrase) (closer : Char) (text : List Char) : Prop :=
  ∃ inner trail left, found = inner ++ (trail ++ .punctuation closer :: left) ∧
    Derives inner phrase ∧ IsTrail trail ∧ Spelled false left text

theorem IsStuck.skipSpace {text : List Char} (stuck : IsStuck text) :
    Json.skipSpace text = text := by
  rcases stuck with ⟨character, more, rfl, visible, -⟩
  rw [Json.skipSpace, List.dropWhile_cons_of_neg (by simp [visible])]

/-- A number in a spelling is read from its token and no further. -/
theorem readNumber_run {run text after : List Char} {following : List Token} {number : Number}
    (isRun : IsRun run) (parted : ∀ next ∈ following.head?, next.isNumber = false)
    (further : Spelled false following text)
    (read : Json.readNumber (run ++ text) = .ok (number, after)) :
    Takes (.number run :: following) (.number number) after ∨ IsStuck after := by
  rcases readNumber_eq_ok read with ⟨used, same, isNumber⟩
  -- The number that is read ends after the run, before its end or with it.
  rcases List.append_eq_append_iff.mp same with ⟨more, rfl, rfl⟩ | ⟨more, rfl, rfl⟩
  · cases more with
    | nil =>
        rw [List.append_nil] at isNumber
        exact Or.inl ⟨[.number run], following, rfl, .number isNumber, further⟩
    | cons first others =>
        have part := isNumber.isRun.all first (by simp)
        rw [further.start.2.2 parted] at part
        cases part
  · cases more with
    | nil =>
        rw [List.append_nil]
        exact Or.inl ⟨[.number used], following, rfl, .number isNumber, further⟩
    | cons first others =>
        have part := isRun.all first (by simp)
        refine Or.inr ⟨first, others ++ text, rfl, not_isSpace_of_part part, ?_⟩
        intro member
        fin_cases member <;> cases part

/-- The reader goes on after a value only where the value was taken from its tokens. -/
theorem takes_of_skipSpace {found : List Token} {value : Json} {character : Char}
    {after text : List Char} (taken : Takes found value after ∨ IsStuck after)
    (same : Json.skipSpace after = character :: text)
    (ends : character ∈ [',', ']', '\x7d']) : Takes found value (character :: text) := by
  rcases taken with ⟨tokens, left, split, derives, spelled⟩ | stuck
  · rw [spelled.skipSpace] at same
    exact ⟨tokens, left, split, derives, same ▸ spelled⟩
  · rw [stuck.skipSpace] at same
    rcases stuck with ⟨other, more, rfl, -, apart⟩
    rw [(List.cons.inj same).1] at apart
    exact absurd ends apart

theorem mark_of_closer {closer : Char} (closes : closer ∈ [']', '\x7d']) :
    isPunctuation closer = true ∧ isFresh (some (.punctuation closer)) = false := by
  fin_cases closes <;> decide

/-- Before a closing bracket there may be a comma. -/
theorem Takes.closer {found : List Token} {value : Json} {closer : Char} {text : List Char}
    (takes : Takes found value (closer :: text)) (closes : closer ∈ [']', '\x7d']) :
    ∃ taken trail left, found = taken ++ (trail ++ .punctuation closer :: left) ∧
      Derives taken (.literal value) ∧ IsTrail trail ∧ Spelled false left text := by
  rcases takes with ⟨taken, left, rfl, derives, spelled⟩
  have facts := mark_of_closer closes
  have marked := spelled.of_mark facts.1
  rw [facts.2] at marked
  rcases marked with ⟨following, rfl, further⟩ | ⟨-, -, following, rfl, further⟩
  · exact ⟨taken, [], following, rfl, derives, Or.inl rfl, further⟩
  · exact ⟨taken, [.punctuation ','], following, rfl, derives, Or.inr rfl, further⟩

theorem Takes.comma {found : List Token} {value : Json} {text : List Char}
    (takes : Takes found value (',' :: text)) :
    ∃ taken left, found = taken ++ .punctuation ',' :: left ∧
      Derives taken (.literal value) ∧ Spelled true left text := by
  rcases takes with ⟨taken, left, rfl, derives, spelled⟩
  rcases spelled.of_mark (by decide) with ⟨following, rfl, further⟩ | ⟨-, closes, -⟩
  · exact ⟨taken, following, rfl, derives, further⟩
  · cases closes

/-! ## The reader -/

/-- A value is read from tokens that derive it, or reading is stuck. -/
def ReadsValues (fuel : Nat) : Prop :=
  ∀ {fresh : Bool} {found : List Token} {input : List Char} {value : Json} {after : List Char},
    Spelled fresh found input → Json.readValue fuel input = .ok (value, after) →
      Takes found value after ∨ IsStuck after

/-- The elements of an array are read from tokens that derive them. -/
def ReadsElements (fuel : Nat) : Prop :=
  ∀ {fresh : Bool} {found : List Token} {input : List Char} {values : List Json}
    {after : List Char}, Spelled fresh found input →
      Json.readElements fuel input = .ok (values, after) →
        Encloses found (.elements values) ']' after

/-- The members of an object are read from tokens that derive them. -/
def ReadsMembers (fuel : Nat) : Prop :=
  ∀ {fresh : Bool} {found : List Token} {input : List Char} {pairs : List (String × Json)}
    {after : List Char}, Spelled fresh found input →
      Json.readMembers fuel input = .ok (pairs, after) →
        Encloses found (.members pairs) '\x7d' after

theorem readsElements_succ {fuel : Nat} (readsValues : ReadsValues fuel)
    (readsElements : ReadsElements fuel) : ReadsElements (fuel + 1) := by
  intro fresh found input values after spelled read
  rw [Json.readElements] at read
  rcases bind_eq_ok read with ⟨⟨value, afterValue⟩, first, read⟩
  dsimp only at read
  have taken := readsValues spelled first
  split at read
  · rename_i text same
    rcases Prod.mk.inj (Except.ok.inj read) with ⟨rfl, rfl⟩
    rcases (takes_of_skipSpace taken same (by decide)).closer (by decide) with
      ⟨inner, trail, left, rfl, derives, isTrail, further⟩
    exact ⟨inner, trail, left, rfl, .element derives, isTrail, further⟩
  · rename_i text same
    rcases (takes_of_skipSpace taken same (by decide)).comma with
      ⟨inner, left, rfl, derives, further⟩
    rcases bind_eq_ok read with ⟨⟨others, _⟩, readOthers, same⟩
    rcases Prod.mk.inj (Except.ok.inj same) with ⟨rfl, rfl⟩
    rw [further.skipSpace] at readOthers
    rcases readsElements further readOthers with
      ⟨rest, trail, left, rfl, derivesRest, isTrail, ends⟩
    refine ⟨inner ++ .punctuation ',' :: rest, trail, left, ?_, .elements derives derivesRest,
      isTrail, ends⟩
    simp
  · cases read

theorem readsMembers_succ {fuel : Nat} (readsValues : ReadsValues fuel)
    (readsMembers : ReadsMembers fuel) : ReadsMembers (fuel + 1) := by
  intro fresh found input pairs after spelled read
  unfold Json.readMembers at read
  split at read
  · rcases spelled.of_quote with ⟨key, following, body, more, rfl, rfl, lexical, inQuotes, further⟩
    rcases bind_eq_ok read with ⟨⟨name, afterKey⟩, readKey, readPairs⟩
    dsimp only at readPairs
    rcases inQuotes.readString lexical readKey with ⟨rfl, isKey, -⟩
    rw [further.skipSpace] at readPairs
    split at readPairs
    · rcases further.of_mark (by decide) with ⟨tokens, rfl, afterColon⟩ | ⟨-, closes, -⟩
      · rw [afterColon.skipSpace] at readPairs
        rcases bind_eq_ok readPairs with ⟨⟨value, afterValue⟩, first, readRest⟩
        dsimp only at readRest
        have taken := readsValues afterColon first
        split at readRest
        · rename_i text same
          rcases Prod.mk.inj (Except.ok.inj readRest) with ⟨rfl, rfl⟩
          rcases (takes_of_skipSpace taken same (by decide)).closer (by decide) with
            ⟨inner, trail, left, rfl, derives, isTrail, further⟩
          exact ⟨key :: .punctuation ':' :: inner, trail, left, rfl, .member isKey derives,
            isTrail, further⟩
        · rename_i text same
          rcases (takes_of_skipSpace taken same (by decide)).comma with
            ⟨inner, left, rfl, derives, further⟩
          rcases bind_eq_ok readRest with ⟨⟨others, _⟩, readOthers, same⟩
          rcases Prod.mk.inj (Except.ok.inj same) with ⟨rfl, rfl⟩
          rw [further.skipSpace] at readOthers
          rcases readsMembers further readOthers with
            ⟨rest, trail, left, rfl, derivesRest, isTrail, ends⟩
          refine ⟨key :: .punctuation ':' :: (inner ++ .punctuation ',' :: rest), trail, left, ?_,
            .members isKey derives derivesRest, isTrail, ends⟩
          simp
        · cases readRest
      · cases closes
    · cases readPairs
  · cases read

/-- What brackets enclose is a value where the grammar has a rule for it. -/
theorem Encloses.takes {opener closer : Char} {following : List Token} {phrase : Phrase}
    {value : Json} {text : List Char} (encloses : Encloses following phrase closer text)
    (rule : ∀ {inner trail : List Token}, Derives inner phrase → IsTrail trail →
      Derives (.punctuation opener :: (inner ++ (trail ++ [.punctuation closer])))
        (.literal value)) : Takes (.punctuation opener :: following) value text := by
  rcases encloses with ⟨inner, trail, left, rfl, derives, isTrail, ends⟩
  refine ⟨.punctuation opener :: (inner ++ (trail ++ [.punctuation closer])), left, ?_,
    rule derives isTrail, ends⟩
  simp

/-- Right after an opening bracket no comma is left out before the closing one. -/
theorem takes_empty {opener closer : Char} {following : List Token} {value : Json}
    {text : List Char} (spelled : Spelled true following (closer :: text))
    (closes : closer ∈ [']', '\x7d'])
    (rule : Derives [.punctuation opener, .punctuation closer] (.literal value)) :
    Takes (.punctuation opener :: following) value text := by
  have facts := mark_of_closer closes
  rcases spelled.of_mark facts.1 with ⟨left, rfl, further⟩ | ⟨impossible, -⟩
  · rw [facts.2] at further
    exact ⟨[.punctuation opener, .punctuation closer], left, rfl, rule, further⟩
  · cases impossible

theorem readsValues_array {fuel : Nat} (readsElements : ReadsElements fuel)
    {following : List Token} {text after : List Char} {value : Json}
    (spelled : Spelled true following text)
    (read : Json.readValue (fuel + 1) ('[' :: text) = .ok (value, after)) :
    Takes (.punctuation '[' :: following) value after := by
  rw [Json.readValue, spelled.skipSpace] at read
  split at read
  · rcases Prod.mk.inj (Except.ok.inj read) with ⟨rfl, rfl⟩
    exact takes_empty spelled (by decide) .emptyArray
  · rcases bind_eq_ok read with ⟨⟨values, _⟩, readInner, same⟩
    rcases Prod.mk.inj (Except.ok.inj same) with ⟨rfl, rfl⟩
    exact (readsElements spelled readInner).takes .array

theorem readsValues_object {fuel : Nat} (readsMembers : ReadsMembers fuel)
    {following : List Token} {text after : List Char} {value : Json}
    (spelled : Spelled true following text)
    (read : Json.readValue (fuel + 1) ('\x7b' :: text) = .ok (value, after)) :
    Takes (.punctuation '\x7b' :: following) value after := by
  rw [Json.readValue, spelled.skipSpace] at read
  split at read
  · rcases Prod.mk.inj (Except.ok.inj read) with ⟨rfl, rfl⟩
    exact takes_empty spelled (by decide) .emptyObject
  · rcases bind_eq_ok read with ⟨⟨pairs, _⟩, readInner, same⟩
    rcases Prod.mk.inj (Except.ok.inj same) with ⟨rfl, rfl⟩
    exact (readsMembers spelled readInner).takes .object

/-- A mark that opens nothing stands where a value is expected. -/
theorem readValue_mark {fuel : Nat} {mark : Char} {text : List Char}
    (isMark : isPunctuation mark = true) (plain : (Token.punctuation mark).opens = false) :
    Json.readValue (fuel + 1) (mark :: text) =
      .error (.malformed .expectingValue (text.length + 1)) := by
  have member := mem_marks isMark
  fin_cases member <;>
    first
    | rfl
    | cases plain

/-- What starts as a number is read as one. -/
theorem readValue_run {fuel : Nat} {run text : List Char} {following : List Token}
    (isRun : IsRun run) (further : Spelled false following text) :
    Json.readValue (fuel + 1) (run ++ text) = (do
      let (number, after) ← Json.readNumber (run ++ text)
      return (.number number, after)) := by
  rcases isRun.eq_cons with ⟨first, rest, rfl, part⟩
  refine readValue_numeric part ?_
  -- A minus sign is the start of infinity too, but no token goes on so.
  intro _ more same
  cases rest with
  | nil =>
      rw [show text = _ from same] at further
      exact absurd rfl further.start.2.1
  | cons second others =>
      have partSecond := isRun.all second (by simp)
      rw [(List.cons.inj same).1] at partSecond
      cases partSecond

theorem readsValues_succ {fuel : Nat} (readsElements : ReadsElements fuel)
    (readsMembers : ReadsMembers fuel) : ReadsValues (fuel + 1) := by
  intro fresh found input value after spelled read
  cases spelled with
  | nil =>
      cases read
  | string lexical inQuotes further =>
      rw [Json.readValue] at read
      rcases bind_eq_ok read with ⟨⟨text, _⟩, readText, same⟩
      rcases Prod.mk.inj (Except.ok.inj same) with ⟨rfl, rfl⟩
      rcases inQuotes.readString lexical readText with ⟨rfl, -, isString | colon⟩
      · exact Or.inl ⟨_, _, rfl, .string isString, further⟩
      · rcases List.head?_eq_some_iff.mp colon with ⟨others, rfl⟩
        rcases further.eq_mark (Or.inr (by decide)) with ⟨more, rfl, -⟩
        exact Or.inr ⟨':', more, rfl, by decide, by decide⟩
  | number isRun parted further =>
      rw [readValue_run isRun further] at read
      rcases bind_eq_ok read with ⟨⟨number, _⟩, readNumber, same⟩
      rcases Prod.mk.inj (Except.ok.inj same) with ⟨rfl, rfl⟩
      exact readNumber_run isRun parted further readNumber
  | @name _ characters following text isName further =>
      fin_cases isName
      · rcases Prod.mk.inj (Except.ok.inj read) with ⟨rfl, rfl⟩
        exact Or.inl ⟨_, following, rfl, .trueName, further⟩
      · rcases Prod.mk.inj (Except.ok.inj read) with ⟨rfl, rfl⟩
        exact Or.inl ⟨_, following, rfl, .falseName, further⟩
      · rcases Prod.mk.inj (Except.ok.inj read) with ⟨rfl, rfl⟩
        exact Or.inl ⟨_, following, rfl, .nullName, further⟩
  | mark isMark further =>
      rename_i mark following text
      cases opens : (Token.punctuation mark).opens with
      | false =>
          rw [readValue_mark isMark opens] at read
          cases read
      | true =>
          rcases Token.opens_iff.mp opens with rfl | rfl
          · exact Or.inl (readsValues_object readsMembers further read)
          · exact Or.inl (readsValues_array readsElements further read)
  | @comma closer following text closes further =>
      rcases further.eq_mark (Or.inl rfl) with ⟨more, rfl, isMark, -⟩
      rw [readValue_mark isMark (Token.not_opens_of_closes closes)] at read
      cases read

/-- The reader takes values from the tokens that derive them, whatever the fuel. -/
theorem reads (fuel : Nat) : ReadsValues fuel ∧ ReadsElements fuel ∧ ReadsMembers fuel := by
  induction fuel with
  | zero =>
      refine ⟨?_, ?_, ?_⟩ <;>
        intro fresh found input result after spelled read
      · rw [Json.readValue] at read
        cases read
      · rw [Json.readElements] at read
        cases read
      · rw [Json.readMembers] at read
        cases read
  | succ fuel ih =>
      rcases ih with ⟨values, elements, members⟩
      exact ⟨readsValues_succ elements members, readsElements_succ values elements,
        readsMembers_succ values members⟩

/-- A spelling that is read whole is read from tokens that derive the value. -/
theorem Spelled.derives {found : List Token} {text : List Char} {value : Json}
    (spelled : Spelled true found text) (read : Json.readChars text = .ok value) :
    Derives found (.literal value) := by
  unfold Json.readChars at read
  split at read
  · cases read
  · rw [spelled.skipSpace] at read
    rcases bind_eq_ok read with ⟨⟨first, after⟩, readFirst, ends⟩
    dsimp only at ends
    split at ends
    · rename_i done
      obtain rfl := Except.ok.inj ends
      rcases (reads _).1 spelled readFirst with ⟨taken, left, rfl, derives, further⟩ | stuck
      · rw [further.skipSpace] at done
        subst done
        rw [further.eq_nil, List.append_nil]
        exact derives
      · rw [stuck.skipSpace] at done
        rcases stuck with ⟨character, more, rfl, -⟩
        cases done
    · cases ends

/-! ## Arguments -/

theorem tokenize_eq_ok {text : List Char} {found : List Token}
    (cut : tokenize text = .ok found) : tokens (text.length + 1) text = .ok found := by
  unfold tokenize at cut
  split at cut
  · rename_i cutTokens
    obtain rfl := Except.ok.inj cut
    exact cutTokens
  · cases cut

/-- Arguments that are not blank are read from their tokens, neighbouring numbers joined. -/
theorem readChars_eq_ok {limit : Int} {text : List Char} {value : Json}
    (accepted : readChars limit text = .ok value) :
    (text.all Text.isBlank = true ∧ value = .object []) ∨
      ∃ found, tokenize text = .ok found ∧ Derives (joinNumbers found) (.literal value) := by
  unfold readChars at accepted
  split at accepted
  · rename_i blank
    exact Or.inl ⟨blank, (Except.ok.inj accepted).symm⟩
  · rcases bind_eq_ok accepted with ⟨found, cut, acceptedFound⟩
    rcases bind_eq_ok acceptedFound with ⟨spelling, spelled, acceptedSpelling⟩
    have lexical := (tokens_eq_ok (Nat.lt_succ_self _) (tokenize_eq_ok cut)).2
    have isSpelled : Spelled true (joinNumbers found) spelling := spell_eq_ok lexical spelled
    split at acceptedSpelling
    · rename_i read
      obtain rfl := Except.ok.inj acceptedSpelling
      exact Or.inr ⟨found, cut, isSpelled.derives read⟩
    · cases acceptedSpelling
    · cases acceptedSpelling

theorem Token.Apart.parted {first second : Token} (apart : first.Apart second) :
    first.Parted second := by
  rcases apart with ⟨mark, rfl⟩ | ⟨mark, rfl⟩
  · exact Or.inl rfl
  · exact Or.inr rfl

/--
The tokens of a derivation are the ones that the text is cut into, and no two neighbours
among them are numbers.
-/
theorem Derivable.parted {text : List Char} {found : List Token} {value : Json}
    (derivable : Derivable text value) (cut : tokenize text = .ok found) :
    found.IsChain Token.Parted := by
  rcases derivable with ⟨others, spaced, derives⟩
  obtain rfl := tokens_unique (Nat.lt_succ_self _) (tokenize_eq_ok cut) spaced
    derives.grammatical derives.apart
  exact derives.apart.imp fun _ _ => Token.Apart.parted

/--
Arguments that are read are blank or have a derivation of the value that is read, unless two
of their numbers are neighbours.  What is derived then is a text in which the neighbours are
one number; the arguments themselves have no derivation, whatever the value.
-/
theorem read_derives {limit : Int} {text : String} {value : Json}
    (accepted : read limit text = .ok value) :
    (text.toList.all Text.isBlank = true ∧ value = .object []) ∨
      ∃ found, tokenize text.toList = .ok found ∧ Spaced text.toList found ∧
        Derives (joinNumbers found) (.literal value) ∧
        (Derivable text.toList value ↔ found.IsChain Token.Parted) ∧
        (¬found.IsChain Token.Parted → ∀ other, ¬Derivable text.toList other) := by
  rcases readChars_eq_ok accepted with blank | ⟨found, cut, derives⟩
  · exact Or.inl blank
  · have spaced := (tokens_eq_ok (Nat.lt_succ_self _) (tokenize_eq_ok cut)).1
    refine Or.inr ⟨found, cut, spaced, derives, ⟨?_, ?_⟩, ?_⟩
    · intro derivable
      exact derivable.parted cut
    · intro parted
      rw [joinNumbers_of_parted parted] at derives
      exact ⟨found, spaced, derives⟩
    · intro neighbours other derivable
      exact neighbours (derivable.parted cut)

/-- A list in which a comma is last and a string in apostrophes is derivable. -/
theorem read_list_derives :
    read 32 "[1, 'x',]" = .ok (.array [.number (.integer 1), .string "x"]) ∧
      Derivable "[1, 'x',]".toList (.array [.number (.integer 1), .string "x"]) := by
  have accepted : read 32 "[1, 'x',]" = .ok (.array [.number (.integer 1), .string "x"]) := by
    simp only [read, String.reduceToList]
    rfl
  refine ⟨accepted, ?_⟩
  rcases read_derives accepted with ⟨-, empty⟩ | ⟨found, cut, -, -, derivable, -⟩
  · cases empty
  · refine derivable.mpr ?_
    have cutAs : tokenize "[1, 'x',]".toList = .ok [.punctuation '[', .number ['1'],
        .punctuation ',', .singleQuoted ['x'], .punctuation ',', .punctuation ']'] := by
      decide +kernel
    obtain rfl := Except.ok.inj (cut.symm.trans cutAs)
    simp [Token.Parted, Token.isNumber]

/-- Two numbers with a blank between them are read as one, but the text is not derivable. -/
theorem read_neighbours :
    read 32 "1 2" = .ok (.number (.integer 12)) ∧ "1 2".toList.all Text.isBlank = false ∧
      ∀ value, ¬Derivable "1 2".toList value := by
  have accepted : read 32 "1 2" = .ok (.number (.integer 12)) := by
    simp only [read, String.reduceToList]
    rfl
  have cut : tokenize "1 2".toList = .ok [.number ['1'], .number ['2']] := by
    decide +kernel
  refine ⟨accepted, by decide +kernel, ?_⟩
  intro value derivable
  rcases (List.isChain_cons_cons.mp (derivable.parted cut)).1 with other | other
  · cases other
  · cases other

end DocumentGate.Argument
