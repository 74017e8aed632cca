import DocumentGate.Proofs.LiteralRendering
import DocumentGate.Proofs.OversizedNumbers

/-!
# The strict spelling in pieces

Where tokens have a strict spelling, it is put together from a piece for each token, and the
piece depends only on the neighbours of the token.  Numbers that are neighbours are spelled as
the one number that they are joined to.

The pieces of the tokens that derive a value are a strict text of the value, whatever comes
before and after them, unless one of its whole numbers has too many digits.
-/

namespace DocumentGate.Argument

/-! ## Pieces -/

/-- How tokens are spelled after the one before them. -/
def pieces (previous : Option Token) : List Token → List Char
  | [] => []
  | token :: following => token.piece previous following ++ pieces (some token) following

theorem piece_of_spelling {previous : Option Token} {following : List Token} {token : Token}
    {spelled : List Char} (spelling : token.spelling previous following = .ok spelled) :
    spelled = token.piece previous following := by
  cases token with
  | identifier characters =>
      rw [Token.spelling, spellIdentifier] at spelling
      rw [Token.piece]
      split at spelling
      · rename_i colon
        rw [if_pos colon]
        exact (Except.ok.inj spelling).symm
      · rename_i noColon
        rw [if_neg noColon]
        split at spelling
        · exact (Except.ok.inj spelling).symm
        · cases spelling
  | _ =>
      exact (Except.ok.inj spelling).symm

/-- Spelling starts with the piece of the first token and goes on after it. -/
theorem spell_cons_eq_ok {limit depth : Int} {previous : Option Token} {token : Token}
    {following : List Token} {text : List Char}
    (spelling : spell limit depth previous (token :: following) = .ok text) :
    ∃ after more, text = token.piece previous following ++ more ∧
      spell limit after (some token) following = .ok more := by
  rw [spell_cons] at spelling
  split at spelling
  · cases spelling
  · rcases bind_eq_ok spelling with ⟨spelled, single, spelling⟩
    rcases bind_eq_ok spelling with ⟨more, further, same⟩
    obtain rfl := Except.ok.inj same
    obtain rfl := piece_of_spelling single
    exact ⟨_, more, rfl, further⟩

/-- Tokens that are spelled are spelled in pieces. -/
theorem spell_eq_pieces {limit depth : Int} {previous : Option Token} {found : List Token}
    {text : List Char} (spelling : spell limit depth previous found = .ok text) :
    text = pieces previous found := by
  induction found generalizing depth previous text with
  | nil =>
      exact (Except.ok.inj spelling).symm
  | cons token following ih =>
      rcases spell_cons_eq_ok spelling with ⟨after, more, rfl, further⟩
      rw [ih further, pieces]

/-- What comes after some of the tokens is spelled too. -/
theorem spell_append_eq_ok {limit depth : Int} {previous : Option Token}
    {first second : List Token} {text : List Char}
    (spelling : spell limit depth previous (first ++ second) = .ok text) :
    ∃ after before more, spell limit after before second = .ok more := by
  induction first generalizing depth previous text with
  | nil =>
      exact ⟨depth, previous, text, spelling⟩
  | cons token following ih =>
      rcases spell_cons_eq_ok spelling with ⟨after, more, -, further⟩
      exact ih further

/-! ## Neighbouring numbers -/

theorem isTrailingComma_joinNumbers (previous : Option Token) (found : List Token) :
    isTrailingComma previous (joinNumbers found) = isTrailingComma previous found := by
  cases found with
  | nil =>
      rfl
  | cons token rest =>
      cases token with
      | number first =>
          rw [joinNumbers]
          split <;>
            cases previous <;>
            rfl
      | _ =>
          rw [joinNumbers_cons rfl]
          cases previous <;> rfl

theorem spellIdentifier_joinNumbers (characters : List Char) (found : List Token) :
    spellIdentifier characters (joinNumbers found) = spellIdentifier characters found := by
  cases found with
  | nil =>
      rfl
  | cons token rest =>
      cases token with
      | number first =>
          rw [joinNumbers]
          split <;>
            simp [spellIdentifier]
      | _ =>
          rw [joinNumbers_cons rfl]
          rfl

/-- Of a number it makes no difference which one it is to what is spelled after it. -/
theorem spell_after_number (limit depth : Int) (first second : List Char) (found : List Token) :
    spell limit depth (some (.number first)) found =
      spell limit depth (some (.number second)) found := by
  cases found with
  | nil =>
      rfl
  | cons token following =>
      cases token with
      | punctuation mark =>
          have same : isTrailingComma (some (.number first)) following =
              isTrailingComma (some (.number second)) following := by
            cases following <;> rfl
          rw [spell, spell, same]
      | _ =>
          rfl

/-- Neighbouring numbers are spelled as the number that they are joined to. -/
theorem spell_joinNumbers (limit depth : Int) (previous : Option Token) (found : List Token) :
    spell limit depth previous (joinNumbers found) = spell limit depth previous found := by
  induction found generalizing depth previous with
  | nil =>
      rfl
  | cons token following ih =>
      cases token with
      | number first =>
          have further := ih depth (some (.number first))
          rw [joinNumbers]
          split
          · rename_i second others joined
            rw [joined, spell, spell_after_number limit depth second (first ++ second)] at further
            rw [spell, spell, ← further]
            cases spell limit depth (some (.number (first ++ second))) others with
            | error fault =>
                rfl
            | ok more =>
                exact congrArg Except.ok (List.append_assoc _ _ _)
          · rw [spell, spell, further]
      | identifier characters =>
          rw [joinNumbers_cons rfl, spell, spell, spellIdentifier_joinNumbers, ih]
      | punctuation mark =>
          rw [joinNumbers_cons rfl, spell, spell, isTrailingComma_joinNumbers, ih, ih, ih]
      | _ =>
          rw [joinNumbers_cons rfl, spell, spell, ih]

/-! ## Strings and keys -/

/-- A string is spelled in quotation marks and stands for its text there. -/
theorem StringToken.piece {token : Token} {text : String} (isString : StringToken token text) :
    ∃ body codes, Spells '"' body codes ∧ text = String.ofList (Text.joinSurrogates codes) ∧
      (∀ mark, token ≠ .punctuation mark) ∧
      ∀ previous following, token.piece previous following = '"' :: (body ++ ['"']) := by
  cases isString with
  | double spells =>
      exact ⟨_, _, spells, rfl, nofun, fun _ _ => rfl⟩
  | single spells =>
      exact ⟨_, _, spells.requoted, rfl, nofun, fun _ _ => rfl⟩

/-- A key is spelled in quotation marks before a colon and stands for its text there. -/
theorem KeyToken.piece {token : Token} {text : String} (isKey : KeyToken token text) :
    ∃ body codes, Spells '"' body codes ∧ text = String.ofList (Text.joinSurrogates codes) ∧
      (∀ mark, token ≠ .punctuation mark) ∧
      ∀ previous following, token.piece previous (.punctuation ':' :: following) =
        '"' :: (body ++ ['"']) := by
  cases isKey with
  | string isString =>
      rcases isString.piece with ⟨body, codes, spells, same, plain, spelled⟩
      exact ⟨body, codes, spells, same, plain, fun _ _ => spelled _ _⟩
  | @name first rest start all =>
      have parts : ∀ character ∈ first :: rest, isIdentifierPart character = true := by
        refine List.forall_mem_cons.mpr ⟨?_, all⟩
        rcases start with rfl | start
        · decide
        · exact isIdentifierPart_of_isNameStart start
      rcases (BodyText.identifier parts).spells with ⟨codes, spells, joined⟩
      exact ⟨_, codes, spells, by rw [joined], nofun, fun _ _ => rfl⟩

theorem KeyToken.closes {token : Token} {text : String} (isKey : KeyToken token text) :
    token.closes = false := by
  rcases isKey.piece with ⟨-, -, -, -, plain, -⟩
  simp [Token.closes, plain]

/-! ## Values -/

/-- No number among the tokens has too many digits. -/
def Short (found : List Token) : Prop :=
  ∀ run, Token.number run ∈ found → ∀ digits, ¬Overruns run digits

theorem Short.of_append {first second : List Token} (short : Short (first ++ second)) :
    Short first ∧ Short second :=
  ⟨fun run member => short run (List.mem_append_left second member),
    fun run member => short run (List.mem_append_right first member)⟩

theorem Short.of_cons {token : Token} {found : List Token} (short : Short (token :: found)) :
    Short found :=
  fun run member => short run (List.mem_cons_of_mem token member)

theorem Derives.start {found : List Token} {phrase : Phrase} (derives : Derives found phrase) :
    ∃ first rest, found = first :: rest ∧ first.closes = false := by
  induction derives with
  | string isString =>
      exact ⟨_, _, rfl, (KeyToken.string isString).closes⟩
  | element literal ih =>
      exact ih
  | elements literal further ih =>
      rcases ih with ⟨first, rest, rfl, goes⟩
      exact ⟨first, _, rfl, goes⟩
  | member isKey =>
      exact ⟨_, _, rfl, isKey.closes⟩
  | members isKey =>
      exact ⟨_, _, rfl, isKey.closes⟩
  | _ =>
      exact ⟨_, _, rfl, rfl⟩

/--
The tokens are spelled as the text after whatever token, and a comma after them may be a
trailing one.
-/
structure InPieces (found : List Token) (text : List Char) (last : Token) : Prop where
  open_ : last.opens = false
  apart : last ≠ .punctuation ','
  same : ∀ {left : List Token} (previous : Option Token),
    left.head? ≠ some (.punctuation ':') →
      pieces previous (found ++ left) = text ++ pieces (some last) left

theorem InPieces.token {token : Token} {text : List Char}
    (plain : ∀ mark, token ≠ .punctuation mark)
    (same : ∀ {left : List Token} (previous : Option Token),
      left.head? ≠ some (.punctuation ':') → token.piece previous left = text) :
    InPieces [token] text token where
  open_ := by simp [Token.opens, plain]
  apart := plain ','
  same := by
    intro left previous noColon
    rw [List.singleton_append, pieces, same previous noColon]

/-- A mark is spelled, unless it is a trailing comma. -/
theorem pieces_mark {mark : Char} {previous : Option Token} {following : List Token}
    (kept : mark ≠ ',' ∨ isTrailingComma previous following = false) :
    pieces previous (.punctuation mark :: following) =
      mark :: pieces (some (.punctuation mark)) following := by
  have stays : (mark = ',' && isTrailingComma previous following) = false := by
    rw [Bool.and_eq_false_iff, decide_eq_false_iff_not]
    exact kept
  rw [pieces, Token.piece, stays]
  rfl

/-- Before a closing bracket a comma is left out. -/
theorem pieces_trail {last : Token} {trail left : List Token} {closer : Char}
    (isTrail : IsTrail trail) (closes : closer ∈ [']', '\x7d']) (open_ : last.opens = false)
    (apart : last ≠ .punctuation ',') :
    pieces (some last) (trail ++ .punctuation closer :: left) =
      closer :: pieces (some (.punctuation closer)) left := by
  have noComma : closer ≠ ',' := by
    rintro rfl
    simp at closes
  rcases isTrail with rfl | rfl
  · exact pieces_mark (Or.inl noComma)
  · have closing : (Token.punctuation closer).closes = true := by
      fin_cases closes <;> decide
    have dropped : isTrailingComma (some last) (.punctuation closer :: left) = true := by
      simp [isTrailingComma, closing, open_, apart]
    rw [List.singleton_append, pieces, Token.piece, if_pos (by simp [dropped]), List.nil_append]
    exact pieces_mark (Or.inl noComma)

/-- What is in brackets is spelled in brackets, without the last comma. -/
theorem InPieces.enclosed {inner trail : List Token} {text : List Char} {last : Token}
    {opener closer : Char} (spelled : InPieces inner text last) (isTrail : IsTrail trail)
    (opens : opener ≠ ',') (closes : closer ∈ [']', '\x7d']) :
    InPieces (.punctuation opener :: (inner ++ (trail ++ [.punctuation closer])))
      (opener :: (text ++ [closer])) (.punctuation closer) where
  open_ := by fin_cases closes <;> decide
  apart := by fin_cases closes <;> decide
  same := by
    intro left previous _
    have noColon := isTrail.head?_ne_colon closes left
    have tokens : .punctuation opener :: (inner ++ (trail ++ [.punctuation closer])) ++ left =
        .punctuation opener :: (inner ++ (trail ++ .punctuation closer :: left)) := by
      simp
    rw [tokens, pieces_mark (Or.inl opens), spelled.same _ noColon,
      pieces_trail isTrail closes spelled.open_ spelled.apart]
    simp

/-- Between two phrases stands a comma. -/
theorem InPieces.joined {found rest : List Token} {text more : List Char} {last end_ : Token}
    (spelled : InPieces found text last) (further : InPieces rest more end_)
    (start : ∃ first others, rest = first :: others ∧ first.closes = false) :
    InPieces (found ++ .punctuation ',' :: rest) (text ++ ',' :: more) end_ where
  open_ := further.open_
  apart := further.apart
  same := by
    intro left previous noColon
    have kept : isTrailingComma (some last) (rest ++ left) = false := by
      rcases start with ⟨first, others, rfl, goes⟩
      simp [isTrailingComma, goes]
    rw [List.append_assoc, List.cons_append, spelled.same _ (by simp), pieces_mark (Or.inr kept),
      further.same _ noColon]
    simp

/-- A member is spelled as its key in quotation marks, a colon and its value. -/
theorem InPieces.member {key : Token} {body : List Char} {found : List Token} {text : List Char}
    {last : Token} (spelledKey : ∀ previous following,
      key.piece previous (.punctuation ':' :: following) = '"' :: (body ++ ['"']))
    (spelled : InPieces found text last) :
    InPieces (key :: .punctuation ':' :: found) ('"' :: (body ++ '"' :: ':' :: text)) last where
  open_ := spelled.open_
  apart := spelled.apart
  same := by
    intro left previous noColon
    rw [List.cons_append, List.cons_append, pieces, spelledKey, pieces_mark (Or.inl (by decide)),
      spelled.same _ noColon]
    simp

/-- What is derived is spelled as a strict text of it, if its numbers are short. -/
theorem Derives.inPieces {found : List Token} {phrase : Phrase} (derives : Derives found phrase)
    (short : Short found) : ∃ text last, Strict phrase text ∧ InPieces found text last := by
  have name : ∀ {characters : List Char}, InPieces [.identifier characters] characters
      (.identifier characters) :=
    .token nofun fun _ noColon => if_neg noColon
  induction derives with
  | nullName =>
      exact ⟨_, _, .nullName, name⟩
  | trueName =>
      exact ⟨_, _, .trueName, name⟩
  | falseName =>
      exact ⟨_, _, .falseName, name⟩
  | number isNumber =>
      exact ⟨_, _, .number isNumber (isNumber.fits (short _ List.mem_cons_self)),
        .token nofun fun _ _ => rfl⟩
  | string isString =>
      rcases isString.piece with ⟨body, codes, spells, rfl, plain, spelled⟩
      exact ⟨_, _, .string spells, .token plain fun _ _ => spelled _ _⟩
  | emptyArray =>
      refine ⟨_, .punctuation ']', .emptyArray, by decide, by decide, ?_⟩
      intro left previous _
      exact (pieces_mark (Or.inl (by decide))).trans
        (congrArg _ (pieces_mark (Or.inl (by decide))))
  | array elements isTrail ih =>
      rcases ih short.of_cons.of_append.1 with ⟨text, last, strict, spelled⟩
      exact ⟨_, _, .array strict, spelled.enclosed isTrail (by decide) (by decide)⟩
  | emptyObject =>
      refine ⟨_, .punctuation '\x7d', .emptyObject, by decide, by decide, ?_⟩
      intro left previous _
      exact (pieces_mark (Or.inl (by decide))).trans
        (congrArg _ (pieces_mark (Or.inl (by decide))))
  | object members isTrail ih =>
      rcases ih short.of_cons.of_append.1 with ⟨text, last, strict, spelled⟩
      exact ⟨_, _, .object strict, spelled.enclosed isTrail (by decide) (by decide)⟩
  | element literal ih =>
      rcases ih short with ⟨text, last, strict, spelled⟩
      exact ⟨text, last, .element strict, spelled⟩
  | elements literal further first second =>
      rcases first short.of_append.1 with ⟨text, last, strict, spelled⟩
      rcases second short.of_append.2.of_cons with ⟨rest, end_, strictFurther, spelledFurther⟩
      exact ⟨_, end_, .elements strict strictFurther, spelled.joined spelledFurther further.start⟩
  | member isKey literal ih =>
      rcases isKey.piece with ⟨body, codes, spells, rfl, -, spelledKey⟩
      rcases ih short.of_cons.of_cons with ⟨text, last, strict, spelled⟩
      exact ⟨_, last, .member spells strict, .member spelledKey spelled⟩
  | members isKey literal further first second =>
      rcases isKey.piece with ⟨body, codes, spells, rfl, -, spelledKey⟩
      have shortBoth := short.of_cons.of_cons.of_append
      rcases first shortBoth.1 with ⟨text, last, strict, spelled⟩
      rcases second shortBoth.2.of_cons with ⟨rest, end_, strictFurther, spelledFurther⟩
      have whole := InPieces.member spelledKey (spelled.joined spelledFurther further.start)
      exact ⟨_, end_, .members spells strict strictFurther, whole⟩

end DocumentGate.Argument
