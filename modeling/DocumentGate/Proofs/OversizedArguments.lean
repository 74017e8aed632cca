import DocumentGate.Proofs.SpelledPieces

/-!
# Arguments with whole numbers of too many digits

Arguments that are spelled are read from their first token on, until something is wrong.  They
are not reported as a text that is wrong if and only if the first thing is a whole number of too
many digits.  Which tokens these are is said here without the reader: a value is awaited at the
number, and what stands before it is in order and has no such number.
-/

namespace DocumentGate.Argument

/-- What is awaited where tokens are read. -/
inductive Place where
  | literal
  | elements
  | members

/-- What is awaited where the phrase is. -/
def Phrase.place : Phrase → Place
  | .literal _ => .literal
  | .elements _ => .elements
  | .members _ => .members

/--
Read as what is awaited, the tokens come to a whole number of so many digits, which are too many,
and nothing before it is wrong.
-/
inductive Oversized (digits : Nat) : Place → List Token → Prop where
  | number {run following} (overruns : Overruns run digits) :
      Oversized digits .literal (.number run :: following)
  | array {inner} (elements : Oversized digits .elements inner) :
      Oversized digits .literal (.punctuation '[' :: inner)
  | object {inner} (members : Oversized digits .members inner) :
      Oversized digits .literal (.punctuation '\x7b' :: inner)
  | element {found} (literal : Oversized digits .literal found) :
      Oversized digits .elements found
  | elements {first rest value} (literal : Derives first (.literal value)) (short : Short first)
      (further : Oversized digits .elements rest) :
      Oversized digits .elements (first ++ .punctuation ',' :: rest)
  | member {key name found} (isKey : KeyToken key name)
      (literal : Oversized digits .literal found) :
      Oversized digits .members (key :: .punctuation ':' :: found)
  | members {key name first rest value} (isKey : KeyToken key name)
      (literal : Derives first (.literal value)) (short : Short first)
      (further : Oversized digits .members rest) :
      Oversized digits .members (key :: .punctuation ':' :: (first ++ .punctuation ',' :: rest))

/-! ## Short tokens -/

theorem Short.cons {token : Token} {found : List Token} (other : token.isNumber = false)
    (short : Short found) : Short (token :: found) := by
  intro run member
  rcases List.mem_cons.mp member with rfl | later
  · cases other
  · exact short run later

theorem Short.append {first second : List Token} (short : Short first) (further : Short second) :
    Short (first ++ second) := by
  intro run member
  rcases List.mem_append.mp member with former | later
  · exact short run former
  · exact further run later

theorem IsTrail.short {trail : List Token} (isTrail : IsTrail trail) : Short trail := by
  rcases isTrail with rfl | rfl
  · simp [Short]
  · simp [Short]

theorem KeyToken.isNumber {token : Token} {text : String} (isKey : KeyToken token text) :
    token.isNumber = false := by
  cases isKey with
  | string isString =>
      cases isString <;> rfl
  | name =>
      rfl

/-- Of what is derived the first number that is not short is met, whatever follows. -/
theorem Derives.oversized {found : List Token} {phrase : Phrase} (derives : Derives found phrase)
    (long : ¬Short found) : ∃ digits, ∀ left, Oversized digits phrase.place (found ++ left) := by
  have enclosed : ∀ {opener closer : Char} {inner trail : List Token}, IsTrail trail →
      ¬Short (.punctuation opener :: (inner ++ (trail ++ [.punctuation closer]))) →
        ¬Short inner := by
    intro opener closer inner trail isTrail long short
    exact long (.cons rfl (short.append (isTrail.short.append (.cons rfl nofun))))
  have before : ∀ {digits : Nat} {place : Place} {first second : List Token},
      (∀ left, Oversized digits place (first ++ left)) →
        ∀ left, Oversized digits place (first ++ second ++ left) := by
    intro digits place first second met left
    rw [List.append_assoc]
    exact met _
  induction derives with
  | @number characters =>
      have overruns : ∃ digits, Overruns characters digits := by
        by_contra none
        refine long fun run member digits overruns => none ⟨digits, ?_⟩
        rw [List.mem_singleton, Token.number.injEq] at member
        exact member ▸ overruns
      rcases overruns with ⟨digits, overruns⟩
      exact ⟨digits, fun left => .number overruns⟩
  | string isString =>
      exact absurd (.cons (KeyToken.string isString).isNumber nofun) long
  | array elements isTrail ih =>
      rcases ih (enclosed isTrail long) with ⟨digits, met⟩
      exact ⟨digits, fun left => .array (before met left)⟩
  | object members isTrail ih =>
      rcases ih (enclosed isTrail long) with ⟨digits, met⟩
      exact ⟨digits, fun left => .object (before met left)⟩
  | element literal ih =>
      rcases ih long with ⟨digits, met⟩
      exact ⟨digits, fun left => .element (met left)⟩
  | @elements tokens rest value values literal further first second =>
      by_cases short : Short tokens
      · rcases second fun shortRest => long (short.append (.cons rfl shortRest)) with ⟨digits, met⟩
        refine ⟨digits, fun left => ?_⟩
        rw [List.append_assoc, List.cons_append]
        exact .elements literal short (met left)
      · rcases first short with ⟨digits, met⟩
        exact ⟨digits, fun left => .element (before met left)⟩
  | member isKey literal ih =>
      rcases ih fun short => long (.cons isKey.isNumber (.cons rfl short)) with ⟨digits, met⟩
      exact ⟨digits, fun left => .member isKey (met left)⟩
  | @members key text tokens rest value pairs isKey literal further first second =>
      by_cases short : Short tokens
      · have longRest : ¬Short rest := fun shortRest =>
          long (.cons isKey.isNumber (.cons rfl (short.append (.cons rfl shortRest))))
        rcases second longRest with ⟨digits, met⟩
        refine ⟨digits, fun left => ?_⟩
        rw [List.cons_append, List.cons_append, List.append_assoc, List.cons_append]
        exact .members isKey literal short (met left)
      · rcases first short with ⟨digits, met⟩
        exact ⟨digits, fun left => .member isKey (before met left)⟩
  | _ =>
      exact absurd (by simp [Short]) long

/-! ## Reading up to the number -/

theorem lexical_joinNumbers {found : List Token} (lexical : ∀ token ∈ found, token.IsLexical) :
    ∀ token ∈ joinNumbers found, token.IsLexical := by
  induction found with
  | nil =>
      exact nofun
  | cons token following ih =>
      rcases List.forall_mem_cons.mp lexical with ⟨isLexical, lexicalRest⟩
      have further := ih lexicalRest
      cases token with
      | number first =>
          rw [joinNumbers]
          split
          · rename_i second others joined
            rw [joined, List.forall_mem_cons] at further
            exact List.forall_mem_cons.mpr ⟨IsRun.append isLexical further.1, further.2⟩
          · exact List.forall_mem_cons.mpr ⟨isLexical, further⟩
      | _ =>
          rw [joinNumbers_cons rfl]
          exact List.forall_mem_cons.mpr ⟨isLexical, further⟩

/-- No numbers are neighbours when neighbouring numbers are joined. -/
theorem parted_joinNumbers (found : List Token) : (joinNumbers found).IsChain Token.Parted := by
  induction found with
  | nil =>
      exact .nil
  | cons token following ih =>
      cases token with
      | number first =>
          rw [joinNumbers]
          split
          · rename_i second others joined
            rw [joined] at ih
            cases others with
            | nil =>
                exact .singleton _
            | cons next rest =>
                rw [List.isChain_cons_cons] at ih ⊢
                rcases ih.1 with other | other
                · cases other
                · exact ⟨Or.inr other, ih.2⟩
          · rename_i others
            refine ih.cons fun next member => Or.inr ?_
            cases next with
            | number second =>
                rcases List.head?_eq_some_iff.mp member with ⟨rest, same⟩
                exact absurd same (others second rest)
            | _ =>
                rfl
      | _ =>
          rw [joinNumbers_cons rfl]
          exact ih.cons fun _ _ => Or.inl rfl

/-- The tokens are the last ones of some that are spelled, neighbouring numbers joined. -/
structure IsSpelled (found : List Token) : Prop where
  lexical : ∀ token ∈ found, token.IsLexical
  parted : found.IsChain Token.Parted
  spelled : ∃ limit depth previous text, spell limit depth previous found = .ok text

theorem IsSpelled.later {first second : List Token} (isSpelled : IsSpelled (first ++ second)) :
    IsSpelled second := by
  rcases isSpelled with ⟨lexical, parted, limit, depth, previous, text, spelling⟩
  rcases spell_append_eq_ok spelling with ⟨after, before, more, further⟩
  exact ⟨fun token member => lexical token (List.mem_append_right first member),
    parted.right_of_append, limit, after, before, more, further⟩

theorem IsSpelled.tail {token : Token} {following : List Token}
    (isSpelled : IsSpelled (token :: following)) : IsSpelled following :=
  @IsSpelled.later [token] following isSpelled

/-- What is spelled after a number is no part of it. -/
theorem IsSpelled.stops {run : List Char} {following : List Token}
    (isSpelled : IsSpelled (.number run :: following)) :
    Stops isNumberPart (pieces (some (.number run)) following) := by
  rcases isSpelled with ⟨lexical, parted, limit, depth, previous, text, spelling⟩
  rcases spell_cons_eq_ok spelling with ⟨after, more, -, further⟩
  have spelled := spell_eq_ok (List.forall_mem_cons.mp lexical).2 further
  rw [joinNumbers_of_parted (show following.IsChain Token.Parted from parted.tail)] at spelled
  rw [← spell_eq_pieces further]
  intro character member
  rcases List.head?_eq_some_iff.mp member with ⟨rest, rfl⟩
  refine spelled.start.2.2 fun next isNext => ?_
  rcases List.head?_eq_some_iff.mp isNext with ⟨others, rfl⟩
  exact (List.isChain_cons_cons.mp parted).1.resolve_left nofun

/-- Reading what is awaited stops at a whole number of so many digits. -/
def StopsAt (digits : Nat) : Place → List Char → Prop
  | .literal, text => ∀ fuel, 2 * text.length + 1 ≤ fuel →
      Json.readValue fuel text = .error (.oversized digits)
  | .elements, text => ∀ fuel, 2 * text.length + 2 ≤ fuel →
      Json.readElements fuel text = .error (.oversized digits)
  | .members, text => ∀ fuel, 2 * text.length + 2 ≤ fuel →
      Json.readMembers fuel text = .error (.oversized digits)

theorem Overruns.start {input : List Char} {digits : Nat} (overruns : Overruns input digits) :
    ∃ first rest, input = first :: rest ∧ isNumberPart first = true ∧
      (first = '-' → ∀ more, rest ≠ 'I' :: more) := by
  cases overruns with
  | @whole negative whole rest isWhole many ends =>
      rcases whole with _ | ⟨digit, others⟩
      · cases many
      · have isDigit := isWhole.allDigits digit List.mem_cons_self
        cases negative with
        | true =>
            refine ⟨'-', _, rfl, by decide, fun _ more same => ?_⟩
            rw [(List.cons.inj same).1] at isDigit
            cases isDigit
        | false =>
            refine ⟨digit, _, rfl, isNumberPart_of_isDigit isDigit, ?_⟩
            rintro rfl
            cases isDigit

theorem starts_of_part {first : Char} {rest : List Char} (part : isNumberPart first = true) :
    Starts (first :: rest) := by
  refine ⟨first, rest, rfl, not_isSpace_of_part part, ?_⟩
  intro member
  fin_cases member <;> cases part

theorem Starts.skipSpace_eq {text : List Char} (starts : Starts text) :
    Json.skipSpace text = text := by
  have same := starts.skipSpace (List.forall_mem_nil _) []
  rwa [List.nil_append, List.append_nil] at same

/-- What starts so starts with none of the characters that end something. -/
theorem Starts.ne_cons {text more : List Char} {first : Char} (starts : Starts text)
    (ends : first ∈ [']', '\x7d', '\uFEFF']) : text ≠ first :: more := by
  rintro rfl
  rcases starts with ⟨other, rest, same, -, apart⟩
  rw [(List.cons.inj same).1] at ends
  exact apart ends

theorem stopsAt_number {digits : Nat} {text : List Char} (overruns : Overruns text digits) :
    Starts text ∧ StopsAt digits .literal text := by
  rcases overruns.start with ⟨first, rest, rfl, part, finite⟩
  refine ⟨starts_of_part part, fun fuel enough => ?_⟩
  obtain ⟨less, rfl⟩ : ∃ less, fuel = less + 1 := ⟨fuel - 1, by omega⟩
  rw [readValue_numeric part finite, readNumber_eq_oversized_iff.mpr overruns]
  rfl

theorem StopsAt.array {digits : Nat} {text : List Char} (starts : Starts text)
    (stops : StopsAt digits .elements text) : StopsAt digits .literal ('[' :: text) := by
  intro fuel enough
  rw [List.length_cons] at enough
  obtain ⟨less, rfl⟩ : ∃ less, fuel = less + 1 := ⟨fuel - 1, by omega⟩
  rw [Json.readValue, starts.skipSpace_eq]
  split
  · exact absurd rfl (starts.ne_cons (by decide))
  · rw [stops less (by omega)]
    rfl

theorem StopsAt.object {digits : Nat} {text : List Char} (starts : Starts text)
    (stops : StopsAt digits .members text) : StopsAt digits .literal ('\x7b' :: text) := by
  intro fuel enough
  rw [List.length_cons] at enough
  obtain ⟨less, rfl⟩ : ∃ less, fuel = less + 1 := ⟨fuel - 1, by omega⟩
  rw [Json.readValue, starts.skipSpace_eq]
  split
  · exact absurd rfl (starts.ne_cons (by decide))
  · rw [stops less (by omega)]
    rfl

theorem StopsAt.element {digits : Nat} {text : List Char} (stops : StopsAt digits .literal text) :
    StopsAt digits .elements text := by
  intro fuel enough
  obtain ⟨less, rfl⟩ : ∃ less, fuel = less + 1 := ⟨fuel - 1, by omega⟩
  rw [Json.readElements, stops less (by omega)]
  rfl

theorem StopsAt.elements {digits : Nat} {value : Json} {text more : List Char}
    (reads : Reads (.literal value) text) (starts : Starts more)
    (stops : StopsAt digits .elements more) : StopsAt digits .elements (text ++ ',' :: more) := by
  intro fuel enough
  rw [List.length_append, List.length_cons] at enough
  obtain ⟨less, rfl⟩ : ∃ less, fuel = less + 1 := ⟨fuel - 1, by omega⟩
  rw [Json.readElements, reads _ _ (by omega) (stops_mark (by decide) _)]
  change (Json.readElements less (Json.skipSpace more) >>= _) = _
  rw [starts.skipSpace_eq, stops less (by omega)]
  rfl

theorem StopsAt.member {digits : Nat} {body : List Char} {key : String} {text : List Char}
    (named : ReadsString key body) (starts : Starts text) (stops : StopsAt digits .literal text) :
    StopsAt digits .members ('"' :: (body ++ '"' :: ':' :: text)) := by
  intro fuel enough
  simp only [List.length_cons, List.length_append] at enough
  obtain ⟨less, rfl⟩ : ∃ less, fuel = less + 1 := ⟨fuel - 1, by omega⟩
  rw [Json.readMembers, named]
  change (Json.readValue less (Json.skipSpace text) >>= _) = _
  rw [starts.skipSpace_eq, stops less (by omega)]
  rfl

theorem StopsAt.members {digits : Nat} {body : List Char} {key : String} {value : Json}
    {text more : List Char} (named : ReadsString key body) (reads : Reads (.literal value) text)
    (starts : Starts text) (startsFurther : Starts more) (stops : StopsAt digits .members more) :
    StopsAt digits .members ('"' :: (body ++ '"' :: ':' :: (text ++ ',' :: more))) := by
  intro fuel enough
  simp only [List.length_cons, List.length_append] at enough
  obtain ⟨less, rfl⟩ : ∃ less, fuel = less + 1 := ⟨fuel - 1, by omega⟩
  rw [Json.readMembers, named]
  change (Json.readValue less (Json.skipSpace (text ++ ',' :: more)) >>= _) = _
  rw [(starts.append _).skipSpace_eq, reads _ _ (by omega) (stops_mark (by decide) _)]
  change (Json.readMembers less (Json.skipSpace more) >>= _) = _
  rw [startsFurther.skipSpace_eq, stops less (by omega)]
  rfl

theorem Oversized.start {digits : Nat} {place : Place} {found : List Token}
    (oversized : Oversized digits place found) :
    ∃ first rest, found = first :: rest ∧ first.closes = false := by
  induction oversized with
  | element literal ih =>
      exact ih
  | elements literal =>
      rcases literal.start with ⟨first, rest, rfl, goes⟩
      exact ⟨first, _, rfl, goes⟩
  | member isKey =>
      exact ⟨_, _, rfl, isKey.closes⟩
  | members isKey =>
      exact ⟨_, _, rfl, isKey.closes⟩
  | _ =>
      exact ⟨_, _, rfl, rfl⟩

/-- Before tokens that come to a number a comma is no trailing one. -/
theorem Oversized.kept {digits : Nat} {place : Place} {found : List Token}
    (oversized : Oversized digits place found) (previous : Option Token) :
    isTrailingComma previous found = false := by
  rcases oversized.start with ⟨first, rest, rfl, goes⟩
  cases previous with
  | none =>
      rfl
  | some before =>
      rw [isTrailingComma, goes]
      rfl

/-- Where tokens come to a number of too many digits, reading their spelling stops at it. -/
theorem Oversized.stopsAt {digits : Nat} {place : Place} {found : List Token}
    (oversized : Oversized digits place found) (isSpelled : IsSpelled found)
    (previous : Option Token) :
    Starts (pieces previous found) ∧ StopsAt digits place (pieces previous found) := by
  induction oversized generalizing previous with
  | number overruns =>
      rw [pieces, Token.piece]
      exact stopsAt_number ((overruns_append_iff isSpelled.stops).mpr overruns)
  | array elements ih =>
      rcases ih isSpelled.tail (some (.punctuation '[')) with ⟨starts, stops⟩
      rw [pieces_mark (Or.inl (by decide))]
      exact ⟨⟨_, _, rfl, by decide, by decide⟩, stops.array starts⟩
  | object members ih =>
      rcases ih isSpelled.tail (some (.punctuation '\x7b')) with ⟨starts, stops⟩
      rw [pieces_mark (Or.inl (by decide))]
      exact ⟨⟨_, _, rfl, by decide, by decide⟩, stops.object starts⟩
  | element literal ih =>
      rcases ih isSpelled previous with ⟨starts, stops⟩
      exact ⟨starts, stops.element⟩
  | @elements first rest value literal short further ih =>
      rcases literal.inPieces short with ⟨text, last, strict, spelled⟩
      rcases ih isSpelled.later.tail (some (.punctuation ',')) with ⟨starts, stops⟩
      rw [spelled.same previous (by simp), pieces_mark (Or.inr (further.kept _))]
      exact ⟨strict.starts.append _, stops.elements strict.reads starts⟩
  | @member key name found isKey literal ih =>
      rcases isKey.piece with ⟨body, codes, spells, rfl, -, spelledKey⟩
      rcases ih isSpelled.tail.tail (some (.punctuation ':')) with ⟨starts, stops⟩
      have whole : pieces previous (key :: .punctuation ':' :: found) =
          '"' :: (body ++ '"' :: ':' :: pieces (some (.punctuation ':')) found) := by
        rw [pieces, spelledKey, pieces_mark (Or.inl (by decide))]
        simp
      rw [whole]
      exact ⟨⟨_, _, rfl, by decide, by decide⟩, stops.member spells.readsString starts⟩
  | @members key name first rest value isKey literal short further ih =>
      rcases isKey.piece with ⟨body, codes, spells, rfl, -, spelledKey⟩
      rcases literal.inPieces short with ⟨text, last, strict, spelled⟩
      rcases ih isSpelled.tail.tail.later.tail (some (.punctuation ',')) with ⟨starts, stops⟩
      have whole :
          pieces previous (key :: .punctuation ':' :: (first ++ .punctuation ',' :: rest)) =
            '"' :: (body ++ '"' :: ':' ::
              (text ++ ',' :: pieces (some (.punctuation ',')) rest)) := by
        rw [pieces, spelledKey, pieces_mark (Or.inl (by decide)), spelled.same _ (by simp),
          pieces_mark (Or.inr (further.kept _))]
        simp
      rw [whole]
      exact ⟨⟨_, _, rfl, by decide, by decide⟩,
        stops.members spells.readsString strict.reads strict.starts starts⟩

/-! ## What reading stopped at -/

/-- A string is never a number of too many digits. -/
theorem readCodes_ne_oversized {opened digits : Nat} {input : List Char} :
    Json.readCodes opened input ≠ .error (.oversized digits) := by
  -- What is read further on has no such fault, and what is made of it is no fault.
  have later : ∀ {rest : List Char} {next : List Nat × List Char → List Nat × List Char},
      Json.readCodes opened rest ≠ .error (.oversized digits) →
        (Json.readCodes opened rest >>= fun reached => .ok (next reached)) ≠
          .error (.oversized digits) := by
    intro rest next ih failed
    rcases bind_eq_error_iff.mp failed with further | ⟨_, -, ended⟩
    · exact ih further
    · cases ended
  fun_induction Json.readCodes opened input with
  | case4 first second third fourth rest code unfinished hexadecimal ih =>
      exact later ih
  | case7 letter rest other character escaped ih =>
      exact later ih
  | case10 character rest unmarked last _ other printable ih =>
      exact later ih
  | _ =>
      intro failed
      cases failed

theorem readString_ne_oversized {digits : Nat} {input : List Char} :
    Json.readString input ≠ .error (.oversized digits) := by
  intro failed
  rcases bind_eq_error_iff.mp failed with codes | ⟨_, -, ended⟩
  · exact readCodes_ne_oversized codes
  · cases ended

/-- Where reading a value stops at a number, the tokens come to one. -/
def MeetsValues (fuel : Nat) : Prop :=
  ∀ {fresh : Bool} {found : List Token} {input : List Char} {digits : Nat},
    Spelled fresh found input → Json.readValue fuel input = .error (.oversized digits) →
      ∃ met, Oversized met .literal found

/-- Where reading the elements of an array stops at a number, the tokens come to one. -/
def MeetsElements (fuel : Nat) : Prop :=
  ∀ {fresh : Bool} {found : List Token} {input : List Char} {digits : Nat},
    Spelled fresh found input → Json.readElements fuel input = .error (.oversized digits) →
      ∃ met, Oversized met .elements found

/-- Where reading the members of an object stops at a number, the tokens come to one. -/
def MeetsMembers (fuel : Nat) : Prop :=
  ∀ {fresh : Bool} {found : List Token} {input : List Char} {digits : Nat},
    Spelled fresh found input → Json.readMembers fuel input = .error (.oversized digits) →
      ∃ met, Oversized met .members found

theorem meetsElements_succ {fuel : Nat} (values : MeetsValues fuel)
    (elements : MeetsElements fuel) : MeetsElements (fuel + 1) := by
  intro fresh found input digits spelled failed
  rw [Json.readElements] at failed
  rcases bind_eq_error_iff.mp failed with first | ⟨⟨value, afterValue⟩, first, failed⟩
  · rcases values spelled first with ⟨met, oversized⟩
    exact ⟨met, .element oversized⟩
  · dsimp only at failed
    have taken := (reads fuel).1 spelled first
    split at failed
    · cases failed
    · rename_i text same
      rcases (takes_of_skipSpace taken same (by decide)).comma with
        ⟨inner, left, rfl, derives, further⟩
      by_cases short : Short inner
      · rcases bind_eq_error_iff.mp failed with readOthers | ⟨_, -, ended⟩
        · rw [further.skipSpace] at readOthers
          rcases elements further readOthers with ⟨met, oversized⟩
          exact ⟨met, .elements derives short oversized⟩
        · cases ended
      · rcases derives.oversized short with ⟨met, oversized⟩
        exact ⟨met, .element (oversized _)⟩
    · cases failed

theorem meetsMembers_succ {fuel : Nat} (values : MeetsValues fuel)
    (members : MeetsMembers fuel) : MeetsMembers (fuel + 1) := by
  intro fresh found input digits spelled failed
  unfold Json.readMembers at failed
  split at failed
  · rcases spelled.of_quote with ⟨key, following, body, more, rfl, rfl, lexical, inQuotes, further⟩
    rcases bind_eq_error_iff.mp failed with readKey | ⟨⟨name, afterKey⟩, readKey, failedPairs⟩
    · exact absurd readKey readString_ne_oversized
    · dsimp only at failedPairs
      rcases inQuotes.readString lexical readKey with ⟨rfl, isKey, -⟩
      rw [further.skipSpace] at failedPairs
      split at failedPairs
      · rcases further.of_mark (by decide) with ⟨tokens, rfl, afterColon⟩ | ⟨-, closes, -⟩
        · rw [afterColon.skipSpace] at failedPairs
          rcases bind_eq_error_iff.mp failedPairs with
            first | ⟨⟨value, afterValue⟩, first, failedRest⟩
          · rcases values afterColon first with ⟨met, oversized⟩
            exact ⟨met, .member isKey oversized⟩
          · dsimp only at failedRest
            have taken := (reads fuel).1 afterColon first
            split at failedRest
            · cases failedRest
            · rename_i text same
              rcases (takes_of_skipSpace taken same (by decide)).comma with
                ⟨inner, left, rfl, derives, further⟩
              by_cases short : Short inner
              · rcases bind_eq_error_iff.mp failedRest with readOthers | ⟨_, -, ended⟩
                · rw [further.skipSpace] at readOthers
                  rcases members further readOthers with ⟨met, oversized⟩
                  exact ⟨met, .members isKey derives short oversized⟩
                · cases ended
              · rcases derives.oversized short with ⟨met, oversized⟩
                exact ⟨met, .member isKey (oversized _)⟩
            · cases failedRest
        · cases closes
      · cases failedPairs
  · cases failed

theorem meetsValues_succ {fuel : Nat} (elements : MeetsElements fuel)
    (members : MeetsMembers fuel) : MeetsValues (fuel + 1) := by
  intro fresh found input digits spelled failed
  cases spelled with
  | nil =>
      cases failed
  | string lexical inQuotes further =>
      rw [Json.readValue] at failed
      rcases bind_eq_error_iff.mp failed with readText | ⟨_, -, ended⟩
      · exact absurd readText readString_ne_oversized
      · cases ended
  | @number _ characters following text isRun parted further =>
      rw [readValue_run isRun further] at failed
      rcases bind_eq_error_iff.mp failed with readNumber | ⟨_, -, ended⟩
      · have stops : Stops isNumberPart text := by
          intro character member
          rcases List.head?_eq_some_iff.mp member with ⟨rest, rfl⟩
          exact further.start.2.2 parted
        have overruns := readNumber_eq_oversized_iff.mp readNumber
        exact ⟨digits, .number ((overruns_append_iff stops).mp overruns)⟩
      · cases ended
  | name isName further =>
      fin_cases isName <;>
        cases failed
  | @mark _ mark following text isMark further =>
      cases opens : (Token.punctuation mark).opens with
      | false =>
          rw [readValue_mark isMark opens] at failed
          cases failed
      | true =>
          rcases Token.opens_iff.mp opens with rfl | rfl
          · rw [Json.readValue, further.skipSpace] at failed
            split at failed
            · cases failed
            · rcases bind_eq_error_iff.mp failed with readInner | ⟨_, -, ended⟩
              · rcases members further readInner with ⟨met, oversized⟩
                exact ⟨met, .object oversized⟩
              · cases ended
          · rw [Json.readValue, further.skipSpace] at failed
            split at failed
            · cases failed
            · rcases bind_eq_error_iff.mp failed with readInner | ⟨_, -, ended⟩
              · rcases elements further readInner with ⟨met, oversized⟩
                exact ⟨met, .array oversized⟩
              · cases ended
  | @comma closer following text closes further =>
      rcases further.eq_mark (Or.inl rfl) with ⟨more, rfl, isMark, -⟩
      rw [readValue_mark isMark (Token.not_opens_of_closes closes)] at failed
      cases failed

/-- Where reading stops at a number, the tokens come to one, whatever the fuel. -/
theorem meets (fuel : Nat) : MeetsValues fuel ∧ MeetsElements fuel ∧ MeetsMembers fuel := by
  induction fuel with
  | zero =>
      refine ⟨?_, ?_, ?_⟩ <;>
        intro fresh found input digits spelled failed
      · rw [Json.readValue] at failed
        cases failed
      · rw [Json.readElements] at failed
        cases failed
      · rw [Json.readMembers] at failed
        cases failed
  | succ fuel ih =>
      rcases ih with ⟨values, elements, members⟩
      exact ⟨meetsValues_succ elements members, meetsElements_succ values elements,
        meetsMembers_succ values members⟩

/-! ## Arguments -/

theorem tokenize_ne_oversized {text : List Char} {digits : Nat} :
    tokenize text ≠ .error (.oversized digits) := by
  unfold tokenize
  split
  · exact nofun
  · exact nofun

theorem spelling_ne_oversized {token : Token} {previous : Option Token}
    {following : List Token} {digits : Nat} :
    token.spelling previous following ≠ .error (.oversized digits) := by
  intro failed
  cases token with
  | identifier characters =>
      rw [Token.spelling, spellIdentifier] at failed
      split at failed
      · cases failed
      · split at failed <;> cases failed
  | _ =>
      cases failed

/-- What cannot be spelled nests too deep or has an identifier out of place. -/
theorem spell_ne_oversized {limit depth : Int} {previous : Option Token} {found : List Token}
    {digits : Nat} : spell limit depth previous found ≠ .error (.oversized digits) := by
  intro failed
  induction found generalizing depth previous with
  | nil =>
      cases failed
  | cons token following ih =>
      rw [spell_cons] at failed
      split at failed
      · cases failed
      · rcases bind_eq_error_iff.mp failed with unspelled | ⟨spelled, -, failed⟩
        · exact spelling_ne_oversized unspelled
        · rcases bind_eq_error_iff.mp failed with further | ⟨more, -, ended⟩
          · exact ih further
          · cases ended

/-- Reading a spelling stops at a number if and only if its tokens come to the number. -/
theorem readSpelling_eq_oversized_iff {limit : Int} {found : List Token} {spelling : List Char}
    {digits : Nat} (lexical : ∀ token ∈ found, token.IsLexical)
    (spelled : spell limit 0 none found = .ok spelling) :
    Json.readChars spelling = .error (.oversized digits) ↔
      Oversized digits .literal (joinNumbers found) := by
  have joined : spell limit 0 none (joinNumbers found) = .ok spelling := by
    rw [spell_joinNumbers, spelled]
  have isSpelled : IsSpelled (joinNumbers found) :=
    ⟨lexical_joinNumbers lexical, parted_joinNumbers found, limit, 0, none, spelling, joined⟩
  have stops : ∀ {met : Nat}, Oversized met .literal (joinNumbers found) →
      Json.readChars spelling = .error (.oversized met) := by
    intro met oversized
    rcases oversized.stopsAt isSpelled none with ⟨starts, stops⟩
    rw [← spell_eq_pieces joined] at starts stops
    have read := stops _ (Nat.le_refl _)
    unfold Json.readChars
    split
    · exact absurd rfl (starts.ne_cons (by decide))
    · rw [starts.skipSpace_eq, read]
      rfl
  refine ⟨fun failed => ?_, stops⟩
  have isStrict : Spelled true (joinNumbers found) spelling := spell_eq_ok lexical spelled
  have met : ∃ met, Oversized met .literal (joinNumbers found) := by
    unfold Json.readChars at failed
    split at failed
    · cases failed
    · rw [isStrict.skipSpace] at failed
      rcases bind_eq_error_iff.mp failed with read | ⟨⟨value, after⟩, -, ended⟩
      · exact (meets _).1 isStrict read
      · dsimp only at ended
        split at ended
        · cases ended
        · cases ended
  rcases met with ⟨met, oversized⟩
  have same := failed.symm.trans (stops oversized)
  rw [Json.Stop.oversized.inj (Except.error.inj same)]
  exact oversized

/--
The arguments are spelled, brackets within the limit, and come to a whole number of so many
digits, which are too many, before anything in them is wrong.
-/
def ComesToOversized (limit : Int) (text : List Char) (digits : Nat) : Prop :=
  text.all Text.isBlank = false ∧ ∃ found, tokenize text = .ok found ∧
    (∃ spelling, spell limit 0 none found = .ok spelling) ∧
      Oversized digits .literal (joinNumbers found)

/-- Arguments are unread without being wrong if and only if they come to such a number. -/
theorem readChars_eq_oversized_iff {limit : Int} {text : List Char} {digits : Nat} :
    readChars limit text = .error (.oversized digits) ↔ ComesToOversized limit text digits := by
  constructor
  · intro failed
    unfold readChars at failed
    split at failed
    · cases failed
    · rename_i visible
      refine ⟨by simpa using visible, ?_⟩
      rcases bind_eq_error_iff.mp failed with cut | ⟨found, cut, failedFound⟩
      · exact absurd cut tokenize_ne_oversized
      · rcases bind_eq_error_iff.mp failedFound with unspelled | ⟨spelling, spelled, failedRead⟩
        · exact absurd unspelled spell_ne_oversized
        · have lexical := (tokens_eq_ok (Nat.lt_succ_self _) (tokenize_eq_ok cut)).2
          refine ⟨found, cut, ⟨spelling, spelled⟩, ?_⟩
          split at failedRead
          · cases failedRead
          · cases failedRead
          · rename_i others read
            obtain rfl := Fault.oversized.inj (Except.error.inj failedRead)
            exact (readSpelling_eq_oversized_iff lexical spelled).mp read
  · rintro ⟨visible, found, cut, ⟨spelling, spelled⟩, oversized⟩
    have lexical := (tokens_eq_ok (Nat.lt_succ_self _) (tokenize_eq_ok cut)).2
    have read := (readSpelling_eq_oversized_iff lexical spelled).mpr oversized
    rw [readChars, visible, cut]
    change (spell limit 0 none found >>= _) = _
    rw [spelled]
    dsimp only [bind, Except.bind]
    rw [read]
    rfl

end DocumentGate.Argument
