import DocumentGate.Command.Grammar
import Mathlib.Data.List.Basic
import Mathlib.Data.List.TakeWhile
import Mathlib.Tactic.Tauto

/-!
# The trust boundary

A command that is accepted stays within its policy.  Its operation is allowed, its
collection is an identifier, and none of the names and strings that are handed on holds a
denied keyword as a word, however the text of the command spelled them.

Which words a text holds is said without the scan: from left to right, each as long as
it can be.  `Denylist.scanned_words` shows that the scan finds these words.
-/

namespace DocumentGate

namespace Denylist

/-! ## Words -/

/-- A letter or an underscore with letters, digits and underscores after it. -/
def IsName (name : List Char) : Prop :=
  ∃ first rest, name = first :: rest ∧ Argument.isNameStart first = true ∧
    ∀ character ∈ rest, Argument.isNamePart character = true

/-- A name, or a name with a dollar sign before it. -/
def IsWord (word : List Char) : Prop :=
  IsName word ∨ ∃ name, word = '$' :: name ∧ IsName name

/-- The words of a text: the leftmost one, as long as it can be, and those after it. -/
inductive Scanned : List Char → List (List Char) → Prop where
  | nil : Scanned [] []
  /-- No word starts with the first character. -/
  | skip {character rest found}
      (none : ∀ word, IsWord word → ¬word <+: character :: rest)
      (further : Scanned rest found) : Scanned (character :: rest) found
  /-- The longest word at the start. -/
  | word {word rest found} (isWord : IsWord word)
      (longest : ∀ other, IsWord other → other <+: word ++ rest → other.length ≤ word.length)
      (further : Scanned rest found) : Scanned (word ++ rest) (word :: found)

/-- The text has the word among its words. -/
def Mentions (text word : List Char) : Prop :=
  ∃ found, Scanned text found ∧ word ∈ found

theorem isNamePart_of_isNameStart {character : Char}
    (start : Argument.isNameStart character = true) : Argument.isNamePart character = true := by
  simp only [Argument.isNameStart, Argument.isNamePart, Char.isAlphanum, Bool.or_eq_true] at start ⊢
  tauto

theorem IsWord.ne_nil {word : List Char} (isWord : IsWord word) : word ≠ [] := by
  rcases isWord with ⟨first, rest, rfl, -⟩ | ⟨name, rfl, -⟩ <;> simp

/-! ## What the scan finds -/

theorem wordsFrom_inside (reversed text : List Char) :
    wordsFrom (.inside reversed) text =
      (reversed.reverse ++ text.takeWhile Argument.isNamePart) ::
        words (text.dropWhile Argument.isNamePart) := by
  induction text generalizing reversed with
  | nil =>
      simp [wordsFrom, words]
  | cons character rest ih =>
      by_cases part : Argument.isNamePart character = true
      · simp [wordsFrom, Scan.completed, Scan.next, part, ih]
      · simp [wordsFrom, words, Scan.completed, Scan.next, part]

theorem words_cons_of_start {first : Char} (start : Argument.isNameStart first = true)
    (rest : List Char) :
    words (first :: rest) =
      (first :: rest.takeWhile Argument.isNamePart) ::
        words (rest.dropWhile Argument.isNamePart) := by
  have inside : words (first :: rest) = wordsFrom (.inside [first]) rest := by
    simp [words, wordsFrom, Scan.completed, Scan.next, Scan.start, start]
  rw [inside, wordsFrom_inside]
  rfl

theorem words_dollar_of_start {first : Char} (start : Argument.isNameStart first = true)
    (rest : List Char) :
    words ('$' :: first :: rest) =
      ('$' :: first :: rest.takeWhile Argument.isNamePart) ::
        words (rest.dropWhile Argument.isNamePart) := by
  have dollar : Argument.isNameStart '$' = false := by decide
  have inside : words ('$' :: first :: rest) = wordsFrom (.inside [first, '$']) rest := by
    simp [words, wordsFrom, Scan.completed, Scan.next, Scan.start, start, dollar]
  rw [inside, wordsFrom_inside]
  rfl

theorem words_cons_of_other {character : Char} {rest : List Char}
    (other : Argument.isNameStart character = false)
    (unled : character = '$' → ∀ next ∈ rest.head?, Argument.isNameStart next = false) :
    words (character :: rest) = words rest := by
  by_cases dollar : character = '$'
  · subst dollar
    cases rest with
    | nil =>
        simp [words, wordsFrom, Scan.completed, Scan.next, Scan.start, other]
    | cons next further =>
        have plain := unled rfl next rfl
        simp [words, wordsFrom, Scan.completed, Scan.next, Scan.start, other, plain]
  · simp [words, wordsFrom, Scan.completed, Scan.next, Scan.start, other, dollar]

/-- A part of a text in which every character is of one kind is no longer than the longest. -/
theorem length_le_takeWhile {kind : Char → Bool} {part text : List Char}
    (prior : part <+: text) (all : ∀ character ∈ part, kind character = true) :
    part.length ≤ (text.takeWhile kind).length := by
  rcases prior with ⟨rest, rfl⟩
  rw [List.takeWhile_append_of_pos all, List.length_append]
  exact Nat.le_add_right _ _

theorem IsName.cons {first : Char} {name rest : List Char} (isName : IsName name)
    (prior : name <+: first :: rest) : Argument.isNameStart first = true ∧
      name.length ≤ (first :: rest.takeWhile Argument.isNamePart).length := by
  rcases isName with ⟨other, parts, rfl, start, all⟩
  rcases List.cons_prefix_cons.mp prior with ⟨rfl, further⟩
  exact ⟨start, Nat.succ_le_succ (length_le_takeWhile further all)⟩

theorem isName_takeWhile {first : Char} (start : Argument.isNameStart first = true)
    (rest : List Char) : IsName (first :: rest.takeWhile Argument.isNamePart) :=
  ⟨first, _, rfl, start, fun _ => List.mem_takeWhile_imp⟩

theorem not_isNameStart_dollar : Argument.isNameStart '$' = false := by
  decide

namespace Scanned

variable {first : Char} {rest : List Char} {found : List (List Char)}

theorem name (start : Argument.isNameStart first = true)
    (further : Scanned (rest.dropWhile Argument.isNamePart) found) :
    Scanned (first :: rest) ((first :: rest.takeWhile Argument.isNamePart) :: found) := by
  have longest : ∀ other, IsWord other → other <+: first :: rest →
      other.length ≤ (first :: rest.takeWhile Argument.isNamePart).length := by
    intro other isWord prior
    rcases isWord with isName | ⟨name, rfl, -⟩
    · exact (isName.cons prior).2
    · rw [← (List.cons_prefix_cons.mp prior).1, not_isNameStart_dollar] at start
      cases start
  have step := Scanned.word (Or.inl (isName_takeWhile start rest)) (by simpa using longest) further
  simpa using step

theorem dollar (start : Argument.isNameStart first = true)
    (further : Scanned (rest.dropWhile Argument.isNamePart) found) :
    Scanned ('$' :: first :: rest)
      (('$' :: first :: rest.takeWhile Argument.isNamePart) :: found) := by
  have longest : ∀ other, IsWord other → other <+: '$' :: first :: rest →
      other.length ≤ ('$' :: first :: rest.takeWhile Argument.isNamePart).length := by
    intro other isWord prior
    rcases isWord with isName | ⟨name, rfl, isName⟩
    · have dollar := (isName.cons prior).1
      rw [not_isNameStart_dollar] at dollar
      cases dollar
    · exact Nat.succ_le_succ (isName.cons (List.cons_prefix_cons.mp prior).2).2
  have isWord : IsWord ('$' :: first :: rest.takeWhile Argument.isNamePart) :=
    Or.inr ⟨_, rfl, isName_takeWhile start rest⟩
  have step := Scanned.word isWord (by simpa using longest) further
  simpa using step

theorem other (other : Argument.isNameStart first = false)
    (unled : first = '$' → ∀ next ∈ rest.head?, Argument.isNameStart next = false)
    (further : Scanned rest found) : Scanned (first :: rest) found := by
  refine .skip ?_ further
  intro word isWord prior
  rcases isWord with isName | ⟨name, rfl, isName⟩
  · exact absurd (isName.cons prior).1 (other ▸ Bool.false_ne_true)
  · rcases List.cons_prefix_cons.mp prior with ⟨dollar, within⟩
    cases rest with
    | nil =>
        rcases isName with ⟨next, parts, rfl, -⟩
        cases List.prefix_nil.mp within
    | cons next parts =>
        exact absurd (isName.cons within).1 (unled dollar.symm next rfl ▸ Bool.false_ne_true)

end Scanned

/-- The scan finds the words of a text. -/
theorem scanned_words (text : List Char) : Scanned text (words text) := by
  induction size : text.length using Nat.strong_induction_on generalizing text with
  | _ length ih =>
      have after : ∀ rest : List Char, rest.length < length → Scanned rest (words rest) :=
        fun rest shorter => ih rest.length shorter rest rfl
      have dropped : ∀ rest : List Char,
          (rest.dropWhile Argument.isNamePart).length ≤ rest.length :=
        fun rest => (List.dropWhile_suffix _).length_le
      cases text with
      | nil =>
          exact .nil
      | cons first rest =>
          rw [List.length_cons] at size
          by_cases start : Argument.isNameStart first = true
          · rw [words_cons_of_start start]
            exact .name start (after _ (by have := dropped rest; omega))
          · rw [Bool.not_eq_true] at start
            by_cases led : first = '$' → ∀ next ∈ rest.head?, Argument.isNameStart next = false
            · rw [words_cons_of_other start led]
              exact .other start led (after _ (by omega))
            · simp only [Classical.not_imp, not_forall, Bool.not_eq_false] at led
              rcases led with ⟨rfl, next, second, starts⟩
              rcases List.head?_eq_some_iff.mp second with ⟨further, rfl⟩
              rw [List.length_cons] at size
              rw [words_dollar_of_start starts]
              exact .dollar starts (after _ (by have := dropped further; omega))

/-- There is one way only to find the words of a text. -/
theorem Scanned.unique {text : List Char} {found others : List (List Char)}
    (first : Scanned text found) (second : Scanned text others) : found = others := by
  induction first generalizing others with
  | nil =>
      generalize same : ([] : List Char) = empty at second
      cases second with
      | nil =>
          rfl
      | skip none further =>
          cases same
      | word isWord longest further =>
          exact absurd (List.append_eq_nil_iff.mp same.symm).1 isWord.ne_nil
  | @skip character rest found none further ih =>
      generalize same : character :: rest = text at second
      cases second with
      | nil =>
          cases same
      | skip _ others =>
          obtain ⟨-, rfl⟩ := List.cons.inj same
          exact ih others
      | word isWord longest others =>
          exact absurd (same ▸ List.prefix_append _ _) (none _ isWord)
  | @word word rest found isWord longest further ih =>
      generalize same : word ++ rest = text at second
      cases second with
      | nil =>
          exact absurd (List.append_eq_nil_iff.mp same).1 isWord.ne_nil
      | skip none others =>
          exact absurd (same ▸ List.prefix_append _ _) (none _ isWord)
      | @word other after _ isOther longestOther others =>
          have shorter := longestOther word isWord (same ▸ List.prefix_append _ _)
          have longer := longest other isOther (same ▸ List.prefix_append _ _)
          have equal := List.append_inj same (Nat.le_antisymm shorter longer)
          rcases equal with ⟨rfl, rfl⟩
          rw [ih others]

theorem mentions_iff {text word : List Char} : Mentions text word ↔ word ∈ words text := by
  constructor
  · rintro ⟨found, scanned, member⟩
    rwa [← scanned.unique (scanned_words text)]
  · exact fun member => ⟨_, scanned_words text, member⟩

/-! ## Denied keywords -/

/-- No word of the text is a denied keyword, letter case aside. -/
def IsClean (keywords : List String) (text : String) : Prop :=
  ∀ word, Mentions text.toList word →
    ∀ keyword ∈ keywords, Text.lower (String.ofList word) ≠ Text.lower keyword

theorem mentioned?_eq_none_iff {keywords : List String} {text : String} :
    mentioned? keywords text = none ↔ IsClean keywords text := by
  simp only [mentioned?, List.findSome?_eq_none_iff, keywordOf?, List.find?_eq_none, IsClean,
    mentions_iff, List.mem_reverse, beq_iff_eq]
  exact ⟨fun clean word member keyword denied same => clean word member keyword denied same.symm,
    fun clean word member keyword denied same => clean word member keyword denied same.symm⟩

/-- A character that belongs to no word parts the words before it from those after it. -/
theorem wordsFrom_append_cons {character : Char} (apart : Argument.isNamePart character = false)
    (undollared : character ≠ '$') (state : Scan) (before after : List Char) :
    wordsFrom state (before ++ character :: after) = wordsFrom state before ++ words after := by
  have start : Argument.isNameStart character = false := by
    by_contra starts
    rw [isNamePart_of_isNameStart (by simpa using starts)] at apart
    cases apart
  induction before generalizing state with
  | nil =>
      cases state <;>
        simp [wordsFrom, words, Scan.completed, Scan.next, Scan.start, apart, undollared, start]
  | cons first rest ih =>
      simp [wordsFrom, ih]

/-- A part of a clean text between characters that belong to no word is clean. -/
theorem IsClean.part {keywords : List String} {text : List Char} {left right : Char}
    (clean : IsClean keywords (String.ofList text)) (before part after : List Char)
    (split : text = before ++ left :: part ++ right :: after)
    (apart : Argument.isNamePart left = false ∧ left ≠ '$')
    (beyond : Argument.isNamePart right = false ∧ right ≠ '$') :
    IsClean keywords (String.ofList part) := by
  intro word mentioned keyword denied
  refine clean word ?_ keyword denied
  rw [mentions_iff, String.toList_ofList] at mentioned ⊢
  have outer := wordsFrom_append_cons beyond.1 beyond.2 .between (before ++ left :: part) after
  have inner := wordsFrom_append_cons apart.1 apart.2 .between before part
  rw [split, words, outer, inner]
  exact List.mem_append_left _ (List.mem_append_right _ mentioned)

end Denylist

/-! ## Keys and strings of values -/

/-- The text is a key or a string in the value, at any depth. -/
inductive Json.Contains (text : String) : Json → Prop where
  | string : Contains text (.string text)
  | element {elements element} (member : element ∈ elements)
      (inside : Contains text element) : Contains text (.array elements)
  | key {members value} (member : (text, value) ∈ members) : Contains text (.object members)
  | value {members key value} (member : (key, value) ∈ members)
      (inside : Contains text value) : Contains text (.object members)

namespace Denylist

theorem mentionedInElements?_eq_none_iff {keywords : List String} {elements : List Json} :
    mentionedInElements? keywords elements = none ↔
      ∀ element ∈ elements, mentionedIn? keywords element = none := by
  induction elements with
  | nil =>
      simp [mentionedInElements?]
  | cons element rest ih =>
      simp [mentionedInElements?, ih]

theorem mentionedInMembers?_eq_none_iff {keywords : List String}
    {members : List (String × Json)} :
    mentionedInMembers? keywords members = none ↔
      ∀ member ∈ members,
        mentioned? keywords member.1 = none ∧ mentionedIn? keywords member.2 = none := by
  induction members with
  | nil =>
      simp [mentionedInMembers?]
  | cons member rest ih =>
      simp [mentionedInMembers?, ih]

/-- The keys and strings of a value that passes the denylist are clean. -/
theorem isClean_of_contains {keywords : List String} {value : Json} {text : String}
    (passes : mentionedIn? keywords value = none) (contains : value.Contains text) :
    IsClean keywords text := by
  induction contains with
  | string =>
      rw [mentionedIn?] at passes
      exact mentioned?_eq_none_iff.mp passes
  | element member inside ih =>
      rw [mentionedIn?] at passes
      exact ih (mentionedInElements?_eq_none_iff.mp passes _ member)
  | key member =>
      rw [mentionedIn?] at passes
      exact mentioned?_eq_none_iff.mp (mentionedInMembers?_eq_none_iff.mp passes _ member).1
  | value member inside ih =>
      rw [mentionedIn?] at passes
      exact ih (mentionedInMembers?_eq_none_iff.mp passes _ member).2

end Denylist

/-! ## Commands that are accepted -/

namespace Command

theorem spanName_eq_some {text name after : List Char}
    (spanned : spanName text = some (name, after)) :
    text = name ++ after ∧ Denylist.IsName name := by
  cases text with
  | nil =>
      cases spanned
  | cons first rest =>
      rw [spanName] at spanned
      split at spanned
      · rename_i start
        rcases Prod.mk.inj (Option.some.inj spanned) with ⟨rfl, rfl⟩
        exact ⟨by simp, Denylist.isName_takeWhile start rest⟩
      · cases spanned

theorem enclosed?_eq_some {text inner : List Char} (enclosed : enclosed? text = some inner) :
    text = inner ++ [')'] := by
  unfold enclosed? at enclosed
  split at enclosed
  · rename_i closes
    rw [Bool.and_eq_true, decide_eq_true_eq] at closes
    rw [← Option.some.inj enclosed]
    exact (List.dropLast_append_getLast? ')' (Option.mem_def.mpr closes.1)).symm
  · cases enclosed

/-- The parts of a command are what stands between its marks. -/
theorem parts?_eq_some {text : List Char} {parts : Parts} (found : parts? text = some parts) :
    text = parts.collection ++ '.' :: (parts.operation ++ '(' :: (parts.arguments ++ [')'])) ∧
      Denylist.IsName parts.collection ∧ Denylist.IsName parts.operation := by
  rcases Option.bind_eq_some_iff.mp found with ⟨⟨collection, _⟩, first, named⟩
  rcases spanName_eq_some first with ⟨rfl, isCollection⟩
  dsimp only at named
  split at named
  · rcases Option.bind_eq_some_iff.mp named with ⟨⟨operation, _⟩, second, called⟩
    rcases spanName_eq_some second with ⟨rfl, isOperation⟩
    dsimp only at called
    split at called
    · rcases Option.bind_eq_some_iff.mp called with ⟨inner, enclosed, done⟩
      obtain rfl := Option.some.inj done
      rw [enclosed?_eq_some enclosed]
      exact ⟨rfl, isCollection, isOperation⟩
    · cases called
  · cases named

/-- What an accepted command went through. -/
structure Passes (policy : Policy) (text : List Char) (parts : Parts) (descriptor : Descriptor) :
    Prop where
  prior : policy.rootPrefix.toList ++ ['.'] <+: text
  unmentioned : Denylist.mentioned? policy.deniedKeywords (String.ofList text) = none
  shape : parts? (text.drop (policy.rootPrefix.toList ++ ['.']).length) = some parts
  collection : descriptor.collection = String.ofList parts.collection
  operation : policy.operation? (String.ofList parts.operation) = some descriptor.operation
  arguments : Argument.readChars policy.depthLimit parts.arguments = .ok descriptor.arguments
  clean : Denylist.mentionedIn? policy.deniedKeywords descriptor.arguments = none

theorem parseText_eq_ok {policy : Policy} {text : List Char} {descriptor : Descriptor}
    (parsed : parseText policy text = .ok descriptor) :
    ∃ parts, Passes policy text parts descriptor := by
  have prior : (policy.rootPrefix.toList ++ ['.']).isPrefixOf text = true := by
    by_contra other
    simp only [parseText, other] at parsed
    cases parsed
  have unmentioned : Denylist.mentioned? policy.deniedKeywords (String.ofList text) = none := by
    by_contra mentions
    rcases Option.ne_none_iff_exists'.mp mentions with ⟨keyword, mentioned⟩
    simp only [parseText, prior, mentioned] at parsed
    cases parsed
  cases shape : parts? (text.drop (policy.rootPrefix.toList ++ ['.']).length) with
  | none =>
      simp only [parseText, prior, unmentioned, shape] at parsed
      cases parsed
  | some parts =>
      cases operation : policy.operation? (String.ofList parts.operation) with
      | none =>
          simp only [parseText, prior, unmentioned, shape, operation] at parsed
          cases parsed
      | some allowed =>
          cases arguments : Argument.readChars policy.depthLimit parts.arguments with
          | error fault =>
              simp only [parseText, prior, unmentioned, shape, operation, arguments] at parsed
              cases parsed
          | ok value =>
              have read : (Argument.readChars policy.depthLimit parts.arguments).mapError
                  Fault.arguments = pure value := by
                rw [arguments]
                rfl
              simp only [parseText, prior, unmentioned, shape, operation, read, if_true,
                pure_bind] at parsed
              cases mentioned : Denylist.mentionedIn? policy.deniedKeywords value with
              | some keyword =>
                  rw [mentioned] at parsed
                  cases parsed
              | none =>
                  rw [mentioned] at parsed
                  obtain rfl := Except.ok.inj parsed
                  exact ⟨parts, List.isPrefixOf_iff_prefix.mp prior, unmentioned, shape, rfl,
                    operation, arguments, mentioned⟩

/-! ## What is handed on -/

/-- What is handed on of a command stays within a policy. -/
structure Descriptor.Within (descriptor : Descriptor) (policy : Policy) : Prop where
  allowed : descriptor.operation ∈ policy.allowed
  collection : Denylist.IsName descriptor.collection.toList
  cleanCollection : Denylist.IsClean policy.deniedKeywords descriptor.collection
  cleanOperation : Denylist.IsClean policy.deniedKeywords descriptor.operation.name
  /-- Neither a key nor a string of the arguments mentions a denied keyword, at any depth. -/
  cleanArguments : ∀ text, descriptor.arguments.Contains text →
    Denylist.IsClean policy.deniedKeywords text

theorem Policy.operation?_eq_some {policy : Policy} {name : String} {operation : Operation}
    (found : policy.operation? name = some operation) :
    operation.name = name ∧ operation ∈ policy.allowed := by
  rcases Option.filter_eq_some_iff.mp found with ⟨named, allowed⟩
  exact ⟨by simpa using List.find?_some named, by simpa using allowed⟩

/-- The text of a command that passes the denylist is clean around each of its names. -/
theorem Passes.clean_names {policy : Policy} {text : List Char} {parts : Parts}
    {descriptor : Descriptor} (passes : Passes policy text parts descriptor) :
    Denylist.IsClean policy.deniedKeywords (String.ofList parts.collection) ∧
      Denylist.IsClean policy.deniedKeywords (String.ofList parts.operation) := by
  have clean := Denylist.mentioned?_eq_none_iff.mp passes.unmentioned
  rcases passes.prior with ⟨rest, rfl⟩
  have shape := passes.shape
  rw [List.drop_left] at shape
  rw [(parts?_eq_some shape).1] at clean
  have dot : Argument.isNamePart '.' = false ∧ '.' ≠ '$' := by decide
  have opening : Argument.isNamePart '(' = false ∧ '(' ≠ '$' := by decide
  constructor
  · exact clean.part policy.rootPrefix.toList parts.collection
      (parts.operation ++ '(' :: (parts.arguments ++ [')'])) (by simp) dot dot
  · exact clean.part (policy.rootPrefix.toList ++ '.' :: parts.collection) parts.operation
      (parts.arguments ++ [')']) (by simp) dot opening

/--
A command that is accepted stays within its policy, whatever escapes, quotation marks,
keys and commas its text was written with.
-/
theorem parse_within {policy : Policy} {command : Json} {descriptor : Descriptor}
    (parsed : parse policy command = .ok descriptor) : descriptor.Within policy := by
  cases command with
  | string text =>
      rcases parseText_eq_ok parsed with ⟨parts, passes⟩
      have names := passes.clean_names
      have operation := Policy.operation?_eq_some passes.operation
      refine ⟨operation.2, ?_, ?_, ?_, ?_⟩
      · rw [passes.collection, String.toList_ofList]
        exact (parts?_eq_some passes.shape).2.1
      · rw [passes.collection]
        exact names.1
      · rw [operation.1]
        exact names.2
      · exact fun inner contains => Denylist.isClean_of_contains passes.clean contains
  | _ =>
      cases parsed

/-- A policy under which documents can be found only. -/
def findOnly : Policy :=
  ⟨"db", [.find], ["$where", "drop"], 8⟩

/-- A command with a key without quotation marks, an escape and a comma too many. -/
def findUsers : Json :=
  .string "db.users.find(\x7bname: 'dro\\u0058',\x7d)"

theorem parse_findUsers_within :
    ∃ descriptor, parse findOnly findUsers = .ok descriptor ∧
      descriptor.collection = "users" ∧ descriptor.Within findOnly := by
  have accepted : (parse findOnly findUsers).toOption.map (·.collection) = some "users" := by
    decide +kernel
  cases parsed : parse findOnly findUsers with
  | error fault =>
      rw [parsed] at accepted
      cases accepted
  | ok descriptor =>
      rw [parsed] at accepted
      exact ⟨descriptor, rfl, Option.some.inj accepted, parse_within parsed⟩

end Command
end DocumentGate
