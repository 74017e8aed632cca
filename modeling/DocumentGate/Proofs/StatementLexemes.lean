import DocumentGate.Argument.Token
import DocumentGate.Sql.Condition

/-!
# Lexemes of statements

The text of a statement is cut into words, placeholders of parameters, quoted texts, operators
and marks, with blanks between them.  Nothing here knows of conditions: any text is cut, and a
character that starts no lexeme or a quoted text without an end is refused.

The text of a condition is cut into the lexemes of the condition, whatever its parts are.
-/

namespace DocumentGate.Sql

/-- A part of the text of a statement. -/
inductive Lexeme where
  /-- A keyword, or the name of a column, a function or a type. -/
  | word (characters : List Char)
  /-- The place of the parameter of a number. -/
  | placeholder (number : Nat)
  /-- A text between apostrophes. -/
  | quoted (characters : List Char)
  /-- An operator. -/
  | symbol (characters : List Char)
  /-- A bracket or a comma. -/
  | mark (character : Char)
deriving DecidableEq, Repr

/-- A character of operators; the colons are those of a change of type. -/
def isSymbolPart (character : Char) : Bool :=
  "+-*/<>=~!@#%^&|?:".toList.contains character

/-- A character that is a lexeme by itself. -/
def isMark (character : Char) : Bool :=
  "()[],".toList.contains character

/-- How far a lexeme has been read. -/
inductive Reading where
  | between
  | word (characters : List Char)
  | placeholder (digits : List Char)
  | quoted (characters : List Char)
  /-- After an apostrophe, which ends the text unless a second one follows. -/
  | unquoted (characters : List Char)
  | symbol (characters : List Char)
  | mark (character : Char)
deriving DecidableEq, Repr

namespace Reading

/-- The same lexeme with one more character, if it goes on so. -/
def next? : Reading → Char → Option Reading
  | .between, _ => none
  | .word characters, character =>
    if Argument.isNamePart character then some (.word (characters ++ [character])) else none
  | .placeholder digits, character =>
    if character.isDigit then some (.placeholder (digits ++ [character])) else none
  | .quoted characters, character =>
    some (if character = '\'' then .unquoted characters else .quoted (characters ++ [character]))
  | .unquoted characters, character =>
    if character = '\'' then some (.quoted (characters ++ [character])) else none
  | .symbol characters, character =>
    if isSymbolPart character then some (.symbol (characters ++ [character])) else none
  | .mark _, _ => none

/-- What a character starts. -/
def start? (character : Char) : Option Reading :=
  if Json.isSpace character then some .between
  else if Argument.isNameStart character then some (.word [character])
  else if character = '$' then some (.placeholder [])
  else if character = '\'' then some (.quoted [])
  else if isSymbolPart character then some (.symbol [character])
  else if isMark character then some (.mark character)
  else none

/-- What has been read when the lexeme is over. -/
def done? : Reading → Option (List Lexeme)
  | .between => some []
  | .word characters => some [.word characters]
  | .placeholder digits =>
    if digits.isEmpty then none else some [.placeholder (Nat.ofDigitChars 10 digits 0)]
  | .quoted _ => none
  | .unquoted characters => some [.quoted characters]
  | .symbol characters => some [.symbol characters]
  | .mark character => some [.mark character]

/-- The lexemes that are over in a text, and the one that is being read at its end. -/
def run? (reading : Reading) : List Char → Option (List Lexeme × Reading)
  | [] => some ([], reading)
  | character :: rest =>
    match reading.next? character with
    | some next => next.run? rest
    | none => do
      let done ← reading.done?
      let next ← start? character
      let (found, last) ← next.run? rest
      return (done ++ found, last)

end Reading

/-- The lexemes of a text, and how far the last one has been read at its end. -/
def cut? (text : String) : Option (List Lexeme × Reading) := do
  let (found, last) ← Reading.between.run? text.toList
  return (found ++ (← last.done?), last)

/-- The lexemes of a text. -/
def lexemes? (text : String) : Option (List Lexeme) :=
  (cut? text).map Prod.fst

example : lexemes? "a <= $12::b['it''s']" =
    some [.word ['a'], .symbol ['<', '='], .placeholder 12, .symbol [':', ':'], .word ['b'],
      .mark '[', .quoted "it's".toList, .mark ']'] := by
  decide

/-! ## Texts one after the other -/

namespace Reading

/-- A text that goes on is read from where reading it has come to. -/
theorem run?_append {reading middle : Reading} {text : List Char} {found : List Lexeme}
    (read : reading.run? text = some (found, middle)) (rest : List Char) :
    reading.run? (text ++ rest) =
      (middle.run? rest).map fun (others, last) => (found ++ others, last) := by
  induction text generalizing reading found with
  | nil =>
      rcases Prod.mk.inj (Option.some.inj read) with ⟨rfl, rfl⟩
      simp
  | cons character text ih =>
      rw [List.cons_append]
      rw [run?] at read ⊢
      cases goes : reading.next? character with
      | some next =>
          rw [goes] at read
          exact ih read
      | none =>
          rw [goes] at read
          rcases Option.bind_eq_some_iff.mp read with ⟨done, isDone, started⟩
          rcases Option.bind_eq_some_iff.mp started with ⟨next, starts, went⟩
          rcases Option.bind_eq_some_iff.mp went with ⟨⟨others, reached⟩, further, same⟩
          rcases Prod.mk.inj (Option.some.inj same) with ⟨rfl, rfl⟩
          dsimp only
          rw [isDone, Option.bind_eq_bind, Option.bind_some, starts, Option.bind_eq_bind,
            Option.bind_some, ih further]
          cases reached.run? rest <;> simp

/-- What follows a lexeme that is over is read as if nothing stood before it. -/
theorem run?_of_done {reading : Reading} {found : List Lexeme} {character : Char}
    {rest : List Char} (ended : reading.next? character = none)
    (done : reading.done? = some found) :
    reading.run? (character :: rest) =
      (between.run? (character :: rest)).map fun (others, last) => (found ++ others, last) := by
  rw [run?, run?, ended, show between.next? character = none from rfl]
  dsimp only
  rw [done, show between.done? = some [] from rfl]
  simp only [Option.bind_eq_bind, Option.bind_some]
  cases start? character with
  | none =>
      rfl
  | some next =>
      simp only [Option.bind_some]
      cases next.run? rest with
      | none =>
          rfl
      | some reached =>
          rfl

end Reading

/-- Whatever follows. -/
abbrev Anything (_ : Char) : Prop :=
  True

/-- The text is not empty, and is the lexemes where nothing or such a character follows it. -/
def Cuts (follows : Char → Prop) (text : String) (found : List Lexeme) : Prop :=
  text.toList ≠ [] ∧
    ∃ last, cut? text = some (found, last) ∧
      ∀ character, follows character → last.next? character = none

/-- It is known what comes next where the first character of a text is. -/
theorem follows_head {follows : Char → Prop} {text : String} {first : Char}
    (head : text.toList.head? = some first) (goes : follows first) :
    ∀ character ∈ text.toList.head?, follows character := by
  intro character member
  rw [Option.mem_def, head] at member
  obtain rfl := Option.some.inj member
  exact goes

theorem Cuts.append {follows others : Char → Prop} {text more : String}
    {found further : List Lexeme} (first : Cuts follows text found)
    (second : Cuts others more further)
    (goes : ∀ character ∈ more.toList.head?, follows character) :
    Cuts others (text ++ more) (found ++ further) := by
  rcases first with ⟨someText, middle, cut, ends⟩
  rcases second with ⟨someMore, last, cutMore, endsMore⟩
  rcases List.exists_cons_of_ne_nil someMore with ⟨character, rest, same⟩
  have isFollower : follows character := goes character (by rw [same]; rfl)
  rcases Option.bind_eq_some_iff.mp cut with ⟨⟨begun, read⟩, isRead, finished⟩
  rcases Option.bind_eq_some_iff.mp finished with ⟨ended, done, both⟩
  rcases Prod.mk.inj (Option.some.inj both) with ⟨rfl, rfl⟩
  refine ⟨?_, last, ?_, endsMore⟩
  · rw [String.toList_append]
    exact List.append_ne_nil_of_left_ne_nil someText _
  · rw [cut?] at cutMore ⊢
    rw [String.toList_append, Reading.run?_append isRead, same,
      Reading.run?_of_done (ends character isFollower) done, ← same]
    rcases Option.bind_eq_some_iff.mp cutMore with ⟨⟨begunMore, readMore⟩, isReadMore, finishedMore⟩
    rcases Option.bind_eq_some_iff.mp finishedMore with ⟨endedMore, doneMore, bothMore⟩
    rcases Prod.mk.inj (Option.some.inj bothMore) with ⟨rfl, rfl⟩
    rw [isReadMore]
    simp [show readMore.done? = _ from doneMore]

/-- After a bracket or a blank anything may follow. -/
theorem Cuts.weaken {follows : Char → Prop} {text : String} {found : List Lexeme}
    (cuts : Cuts Anything text found) : Cuts follows text found := by
  rcases cuts with ⟨someText, last, cut, ends⟩
  exact ⟨someText, last, cut, fun character _ => ends character trivial⟩

theorem Cuts.lexemes? {follows : Char → Prop} {text : String} {found : List Lexeme}
    (cuts : Cuts follows text found) : lexemes? text = some found := by
  rcases cuts with ⟨-, last, cut, -⟩
  rw [Sql.lexemes?, cut]
  rfl

/-! ## The lexemes of conditions -/

/-- A keyword or a name. -/
def word (text : String) : Lexeme :=
  .word text.toList

/-- An operator. -/
def operator (text : String) : Lexeme :=
  .symbol text.toList

/-- The lexemes of a term. -/
def Term.lexemes : Term → List Lexeme
  | .field path =>
    [.mark '(', word "doc", operator "#>", .placeholder path, operator "::", word "text", .mark '[',
      .mark ']', .mark ')']
  | .parameter number => [.placeholder number, operator "::", word "jsonb"]
  | .jsonNull => [.quoted "null".toList, operator "::", word "jsonb"]
  | .typeOf term => word "jsonb_typeof" :: .mark '(' :: (term.lexemes ++ [.mark ')'])
  | .arrayType => [.quoted "array".toList]
  | .listOf term => word "jsonb_build_array" :: .mark '(' :: (term.lexemes ++ [.mark ')'])

/-- The lexemes of a condition. -/
def Condition.lexemes : Condition → List Lexeme
  | .constant true => [word "TRUE"]
  | .constant false => [word "FALSE"]
  | .isAbsent term => term.lexemes ++ [word "IS", word "NULL"]
  | .isPresent term => term.lexemes ++ [word "IS", word "NOT", word "NULL"]
  | .compare comparison left right =>
    left.lexemes ++ operator comparison.symbol :: right.lexemes
  | .orFalse condition =>
    word "COALESCE" :: .mark '(' ::
      (condition.lexemes ++ [.mark ',', word "FALSE", .mark ')'])
  | .negation condition => word "NOT" :: condition.lexemes
  | .both left right => left.lexemes ++ word "AND" :: right.lexemes
  | .either left right => left.lexemes ++ word "OR" :: right.lexemes
  | .group condition => .mark '(' :: (condition.lexemes ++ [.mark ')'])

/-! ## Reading the lexemes of conditions -/

/-- What follows a term or a condition in a statement: a blank, a bracket or a comma. -/
abbrev Ends (character : Char) : Prop :=
  character ∈ [' ', ')', ',']

theorem Reading.refuses_ends {reading : Reading} (blank : reading.next? ' ' = none)
    (bracket : reading.next? ')' = none) (comma : reading.next? ',' = none) :
    ∀ character, Ends character → reading.next? character = none :=
  List.forall_mem_cons.mpr ⟨blank, List.forall_mem_cons.mpr ⟨bracket,
    List.forall_mem_singleton.mpr comma⟩⟩

/-- A placeholder grows with each digit. -/
theorem run?_digits {digits : List Char} (areDigits : ∀ digit ∈ digits, digit.isDigit = true)
    (before : List Char) :
    (Reading.placeholder before).run? digits = some ([], .placeholder (before ++ digits)) := by
  induction digits generalizing before with
  | nil =>
      rw [List.append_nil]
      rfl
  | cons digit rest ih =>
      rw [List.forall_mem_cons] at areDigits
      rw [Reading.run?, Reading.next?, if_pos areDigits.1]
      dsimp only
      rw [ih areDigits.2, List.append_assoc]
      rfl

/-- The number of a parameter is read where no digit follows. -/
theorem cuts_placeholder (number : Nat) :
    Cuts (fun character => character.isDigit = false) ("$" ++ toString number)
      [.placeholder number] := by
  have same : ("$" ++ toString number).toList = '$' :: Nat.toDigits 10 number := by
    rw [String.toList_append, show toString number = String.ofList (Nat.toDigits 10 number) from
      Nat.toString_eq_ofList_toDigits]
    simp
  have read : Reading.between.run? ("$" ++ toString number).toList =
      some ([], .placeholder (Nat.toDigits 10 number)) := by
    rw [same, Reading.run?, show Reading.between.next? '$' = none from rfl]
    dsimp only
    rw [show Reading.between.done? = some [] from rfl,
      show Reading.start? '$' = some (.placeholder []) by decide]
    simp only [Option.bind_eq_bind, Option.bind_some]
    rw [run?_digits fun digit member =>
      Nat.isDigit_of_mem_toDigits (by decide : 0 < 10) (by decide) member]
    rfl
  refine ⟨by rw [same]; exact List.cons_ne_nil _ _, .placeholder (Nat.toDigits 10 number), ?_, ?_⟩
  · rw [cut?, read]
    simp [Reading.done?, Nat.ofDigitChars_ten_toDigits]
  · intro character noDigit
    rw [Reading.next?, noDigit]
    rfl

/-- What stands between brackets is cut with them, and with what is before the first one. -/
theorem Cuts.enclosed {opener text : String} {opening found : List Lexeme}
    (opens : Cuts Anything opener opening) (cuts : Cuts Ends text found) :
    Cuts Ends (opener ++ text ++ ")") (opening ++ (found ++ [.mark ')'])) := by
  have closer : Cuts Anything ")" [.mark ')'] :=
    ⟨by decide, .mark ')', by decide, fun _ _ => rfl⟩
  have whole := (opens.append cuts fun _ _ => trivial).append closer (follows_head rfl (by decide))
  rw [List.append_assoc] at whole
  exact whole.weaken

/-- The text of a term is cut into its lexemes. -/
theorem Term.cuts (term : Term) : Cuts Ends term.written term.lexemes := by
  induction term with
  | field path =>
      have column : Cuts Anything "(doc #> " [.mark '(', word "doc", operator "#>"] :=
        ⟨by decide, .between, by decide, fun _ _ => rfl⟩
      have ofTexts : Cuts Anything "::text[])"
          [operator "::", word "text", .mark '[', .mark ']', .mark ')'] :=
        ⟨by decide, .mark ')', by decide, fun _ _ => rfl⟩
      have whole := (column.append (cuts_placeholder path) fun _ _ => trivial).append ofTexts
        (follows_head rfl (by decide))
      rw [← String.append_assoc] at whole
      exact whole.weaken
  | parameter number =>
      have ofJson : Cuts Ends "::jsonb" [operator "::", word "jsonb"] :=
        ⟨by decide, .word "jsonb".toList, by decide, Reading.refuses_ends rfl rfl rfl⟩
      exact (cuts_placeholder number).append ofJson (follows_head rfl (by decide))
  | jsonNull =>
      exact ⟨by decide, .word "jsonb".toList, by decide, Reading.refuses_ends rfl rfl rfl⟩
  | typeOf term ih =>
      have call : Cuts Anything "jsonb_typeof(" [word "jsonb_typeof", .mark '('] :=
        ⟨by decide, .mark '(', by decide, fun _ _ => rfl⟩
      exact call.enclosed ih
  | arrayType =>
      exact ⟨by decide, .unquoted "array".toList, by decide, Reading.refuses_ends rfl rfl rfl⟩
  | listOf term ih =>
      have call : Cuts Anything "jsonb_build_array(" [word "jsonb_build_array", .mark '('] :=
        ⟨by decide, .mark '(', by decide, fun _ _ => rfl⟩
      exact call.enclosed ih

/-- Two texts are cut with what stands between them, if blanks are around it. -/
theorem Cuts.between {text more : String} {found further : List Lexeme} {between : String}
    {join : Lexeme} (first : Cuts Ends text found) (second : Cuts Ends more further)
    (joins : Cuts Anything between [join]) (blank : between.toList.head? = some ' ') :
    Cuts Ends (text ++ between ++ more) (found ++ join :: further) := by
  have joined := first.append joins (follows_head blank (by decide))
  have whole := joined.append second fun _ _ => trivial
  rwa [List.append_assoc] at whole

theorem Comparison.cuts (comparison : Comparison) :
    Cuts Anything (" " ++ comparison.symbol ++ " ") [operator comparison.symbol] := by
  cases comparison <;>
    exact ⟨by decide, .between, by decide, fun _ _ => rfl⟩

/-- The text of a condition is cut into its lexemes. -/
theorem Condition.cuts (condition : Condition) :
    Cuts Ends condition.written condition.lexemes := by
  induction condition with
  | constant value =>
      cases value with
      | true =>
          exact ⟨by decide, .word "TRUE".toList, by decide, Reading.refuses_ends rfl rfl rfl⟩
      | false =>
          exact ⟨by decide, .word "FALSE".toList, by decide, Reading.refuses_ends rfl rfl rfl⟩
  | isAbsent term =>
      exact term.cuts.append
        ⟨by decide, .word "NULL".toList, by decide, Reading.refuses_ends rfl rfl rfl⟩
        (follows_head rfl (by decide))
  | isPresent term =>
      exact term.cuts.append
        ⟨by decide, .word "NULL".toList, by decide, Reading.refuses_ends rfl rfl rfl⟩
        (follows_head rfl (by decide))
  | compare comparison left right =>
      have whole := left.cuts.between right.cuts comparison.cuts
        (by cases comparison <;> decide)
      rw [← String.append_assoc, ← String.append_assoc] at whole
      exact whole
  | orFalse condition ih =>
      have begin : Cuts Anything "COALESCE(" [word "COALESCE", .mark '('] :=
        ⟨by decide, .mark '(', by decide, fun _ _ => rfl⟩
      have last : Cuts Anything ", FALSE)" [.mark ',', word "FALSE", .mark ')'] :=
        ⟨by decide, .mark ')', by decide, fun _ _ => rfl⟩
      have whole := (begin.append ih fun _ _ => trivial).append last
        (follows_head rfl (by decide))
      rw [List.append_assoc] at whole
      exact whole.weaken
  | negation condition ih =>
      have begin : Cuts Anything "NOT " [word "NOT"] :=
        ⟨by decide, .between, by decide, fun _ _ => rfl⟩
      exact begin.append ih fun _ _ => trivial
  | both left right left_ih right_ih =>
      exact left_ih.between right_ih
        ⟨by decide, .between, by decide, fun _ _ => rfl⟩ (by decide)
  | either left right left_ih right_ih =>
      exact left_ih.between right_ih
        ⟨by decide, .between, by decide, fun _ _ => rfl⟩ (by decide)
  | group condition ih =>
      have opener : Cuts Anything "(" [.mark '('] :=
        ⟨by decide, .mark '(', by decide, fun _ _ => rfl⟩
      exact opener.enclosed ih

/-- A statement's condition is cut into the lexemes of the condition. -/
theorem lexemes?_written (condition : Condition) :
    lexemes? condition.written = some condition.lexemes :=
  condition.cuts.lexemes?

end DocumentGate.Sql
