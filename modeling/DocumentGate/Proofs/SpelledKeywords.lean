import DocumentGate.Proofs.CommandShape
import DocumentGate.Proofs.LetterCase

/-!
# Keywords in the text of a command

The scan for words goes from left to right and takes each word as long as it can be.  A keyword
that stands apart in a text is found for all that: what comes before it cannot run into it, and what
comes after it cannot make it longer.  A command that holds such a keyword anywhere is refused for a
denied keyword, whatever else is wrong with it.
-/

namespace DocumentGate

namespace Denylist

open Text (AlikeInCase)

/-! ## Words that stand apart -/

/--
No letter, digit or underscore stands behind a word, and before a word that does not begin with a
dollar sign there stands no dollar sign and none of these.
-/
structure StandsApart (before word after : List Char) : Prop where
  apart : word.head? ≠ some '$' →
    ∀ character ∈ before.getLast?, Argument.isNamePart character = false ∧ character ≠ '$'
  ends : ∀ character ∈ after.head?, Argument.isNamePart character = false

/-- A character that belongs to no word, or can only begin one, parts a text. -/
theorem words_append_of_apart {first : Char} (apart : Argument.isNamePart first = false)
    (before after : List Char) :
    words (before ++ first :: after) = words before ++ words (first :: after) := by
  have start : Argument.isNameStart first = false := by
    by_contra starts
    rw [isNamePart_of_isNameStart (by simpa using starts)] at apart
    cases apart
  have parted : ∀ state, wordsFrom state (before ++ first :: after) =
      wordsFrom state before ++ words (first :: after) := by
    induction before with
    | nil =>
        intro state
        cases state <;> simp [wordsFrom, words, Scan.completed, Scan.next, apart, start]
    | cons character rest ih =>
        intro state
        simp [wordsFrom, ih]
  exact parted .between

/-- A word is found whole where it begins a text and nothing behind it makes it longer. -/
theorem mem_words_append {word : List Char} (isWord : IsWord word) (after : List Char)
    (ends : ∀ character ∈ after.head?, Argument.isNamePart character = false) :
    word ∈ words (word ++ after) := by
  have stops := (Command.span_of_ends ends).1
  rcases isWord with ⟨first, rest, rfl, start, all⟩ | ⟨_, rfl, first, rest, rfl, start, all⟩
  · rw [List.cons_append, words_cons_of_start start, List.takeWhile_append_of_pos all, stops,
      List.append_nil]
    exact List.mem_cons_self
  · rw [List.cons_append, List.cons_append, words_dollar_of_start start,
      List.takeWhile_append_of_pos all, stops, List.append_nil]
    exact List.mem_cons_self

/-- A word that stands apart in a text is one of its words. -/
theorem mem_words_of_standsApart {before word after : List Char} (isWord : IsWord word)
    (stands : StandsApart before word after) : word ∈ words (before ++ word ++ after) := by
  have found := mem_words_append isWord after stands.ends
  rw [List.append_assoc]
  by_cases dollared : word.head? = some '$'
  · rcases List.head?_eq_some_iff.mp dollared with ⟨name, rfl⟩
    have dollar : Argument.isNamePart '$' = false := by decide
    rw [List.cons_append, words_append_of_apart dollar]
    exact List.mem_append_right _ found
  · rcases List.eq_nil_or_concat before with rfl | ⟨prior, last, rfl⟩
    · exact found
    · have apart := stands.apart dollared last (by simp)
      rw [List.concat_eq_append, List.append_assoc, List.singleton_append, words,
        wordsFrom_append_cons apart.1 apart.2]
      exact List.mem_append_right _ found

/-! ## Spellings of a keyword -/

theorem ascii_of_isNamePart {character : Char} (part : Argument.isNamePart character = true) :
    character.toNat < 0x80 := by
  have code : character.toNat = character.val.toNat := rfl
  simp only [Argument.isNamePart, Char.isAlphanum, Argument.isAlpha_eq, Char.isDigit,
    Bool.or_eq_true, Bool.and_eq_true, decide_eq_true_eq, UInt32.le_iff_toNat_le, ge_iff_le] at part
  rcases part with (letter | digit) | rfl
  · omega
  · have high : character.toNat ≤ ('9' : Char).toNat := digit.2
    exact Nat.lt_of_le_of_lt high (by decide)
  · decide

theorem IsWord.parts {word : List Char} (isWord : IsWord word) :
    ∀ character ∈ word, Argument.isNamePart character = true ∨ character = '$' := by
  have named : ∀ name, IsName name → ∀ character ∈ name, Argument.isNamePart character = true := by
    rintro _ ⟨first, rest, rfl, start, all⟩
    exact List.forall_mem_cons.mpr ⟨isNamePart_of_isNameStart start, all⟩
  rcases isWord with isName | ⟨name, rfl, isName⟩
  · exact fun character member => Or.inl (named word isName character member)
  · exact List.forall_mem_cons.mpr
      ⟨Or.inr rfl, fun character member => Or.inl (named name isName character member)⟩

theorem IsWord.ascii {word : List Char} (isWord : IsWord word) :
    ∀ character ∈ word, character.toNat < 0x80 := by
  intro character member
  rcases isWord.parts character member with part | rfl
  · exact ascii_of_isNamePart part
  · decide

theorem isName_map_toLower {name : List Char} :
    IsName (name.map Char.toLower) ↔ IsName name := by
  constructor
  · rintro ⟨_, _, lowered, start, all⟩
    rcases List.map_eq_cons_iff.mp lowered with ⟨first, rest, rfl, rfl, rfl⟩
    refine ⟨first, rest, rfl, Text.isNameStart_toLower first ▸ start, fun character member => ?_⟩
    rw [← Text.isNamePart_toLower]
    exact all _ (List.mem_map_of_mem member)
  · rintro ⟨first, rest, rfl, start, all⟩
    refine ⟨first.toLower, rest.map Char.toLower, rfl, by rwa [Text.isNameStart_toLower], ?_⟩
    refine List.forall_mem_map.mpr fun character member => ?_
    rw [Text.isNamePart_toLower]
    exact all character member

theorem eq_dollar_of_toLower {character : Char} (lowered : character.toLower = '$') :
    character = '$' := by
  by_cases ascii : character.toNat < 0x80
  · exact Text.of_ascii (fun character =>
      character.toLower = '$' → character = '$') (by decide) ascii lowered
  · rwa [Text.toLower_of_beyond (Nat.le_of_not_lt ascii)] at lowered

theorem isWord_map_toLower {word : List Char} :
    IsWord (word.map Char.toLower) ↔ IsWord word := by
  refine or_congr isName_map_toLower ⟨?_, ?_⟩
  · rintro ⟨_, lowered, isName⟩
    rcases List.map_eq_cons_iff.mp lowered with ⟨first, name, rfl, dollar, rfl⟩
    exact ⟨name, by rw [eq_dollar_of_toLower dollar], isName_map_toLower.mp isName⟩
  · rintro ⟨name, rfl, isName⟩
    exact ⟨name.map Char.toLower, rfl, isName_map_toLower.mpr isName⟩

/-- What differs from a word in letter case only is a word. -/
theorem IsWord.of_alike {word spelled : List Char} (isWord : IsWord word)
    (alike : AlikeInCase spelled word) : IsWord spelled := by
  rw [← isWord_map_toLower, alike]
  exact isWord_map_toLower.mpr isWord

/-- A word is the same keyword in every spelling. -/
theorem lower_eq_of_alike {keyword : String} {spelled : List Char}
    (isWord : IsWord keyword.toList) (alike : AlikeInCase spelled keyword.toList) :
    Text.lower (String.ofList spelled) = Text.lower keyword := by
  rw [← String.ofList_toList (s := keyword)]
  exact (Text.lower_eq_iff_of_ascii (isWord.of_alike alike).ascii isWord.ascii).mpr alike

section Spelled

variable {keywords : List String} {keyword : String} {before spelled after : List Char}

/-- A denied keyword that stands apart in a text is found, or another one before it. -/
theorem exists_mentioned? (denied : keyword ∈ keywords) (isWord : IsWord keyword.toList)
    (alike : AlikeInCase spelled keyword.toList) (stands : StandsApart before spelled after) :
    ∃ named ∈ keywords,
      mentioned? keywords (String.ofList (before ++ spelled ++ after)) = some named := by
  have found : mentioned? keywords (String.ofList (before ++ spelled ++ after)) ≠ none := by
    intro clean
    refine mentioned?_eq_none_iff.mp clean spelled ?_ keyword denied (lower_eq_of_alike isWord alike)
    rw [mentions_iff, String.toList_ofList]
    exact mem_words_of_standsApart (isWord.of_alike alike) stands
  rcases Option.ne_none_iff_exists'.mp found with ⟨named, mentioned⟩
  exact ⟨named, mem_of_mentioned? mentioned, mentioned⟩

/-! ## Trimming -/

theorem IsWord.visible {word : List Char} (isWord : IsWord word) :
    ∀ character ∈ word, Text.isBlank character = false := by
  intro character member
  exact Text.of_ascii (fun character =>
    (Argument.isNamePart character = true ∨ character = '$') → Text.isBlank character = false)
    (by decide) (isWord.ascii character member) (isWord.parts character member)

/-- A word that stands apart in a text stands apart in what trimming leaves of the text. -/
theorem StandsApart.trimmed (stands : StandsApart before spelled after) (isWord : IsWord spelled) :
    ∃ left right, Text.stripChars (before ++ spelled ++ after) = left ++ spelled ++ right ∧
      StandsApart left spelled right := by
  refine ⟨before.dropWhile Text.isBlank, after.rdropWhile Text.isBlank,
    Text.stripChars_append isWord.ne_nil
      (fun character first => isWord.visible character (List.mem_of_mem_head? first))
      (fun character last => isWord.visible character (List.mem_of_mem_getLast? last)) before after,
    ?_, ?_⟩
  · intro undollared character last
    rcases List.dropWhile_suffix Text.isBlank (l := before) with ⟨blanks, whole⟩
    refine stands.apart undollared character ?_
    rw [← whole, List.getLast?_append, Option.mem_def.mp last]
    rfl
  · intro character first
    rcases List.rdropWhile_prefix Text.isBlank after with ⟨blanks, whole⟩
    refine stands.ends character ?_
    rw [← whole, List.head?_append, Option.mem_def.mp first]
    rfl

end Spelled

end Denylist

/-! ## Commands that hold a keyword -/

namespace Command

open Denylist (IsWord StandsApart)
open Text (AlikeInCase)

theorem parseText_eq_denied {policy : Policy} {text : List Char} {keyword : String}
    (prior : policy.rootPrefix.toList ++ ['.'] <+: text)
    (mentioned : Denylist.mentioned? policy.deniedKeywords (String.ofList text) = some keyword) :
    parseText policy text = .error (.denied keyword) := by
  simp only [parseText, List.isPrefixOf_iff_prefix.mpr prior, mentioned]
  rfl

/--
A denied keyword that is a word is found in every text in which it stands apart, in whatever case it
is spelled there; and a command that holds it so, with the blanks around the command or without
them, and begins with the root prefix and its dot is refused for a denied keyword.
-/
theorem parse_denied_of_spelled {policy : Policy} {keyword : String}
    (denied : keyword ∈ policy.deniedKeywords) (isWord : IsWord keyword.toList)
    {before spelled after : List Char} (alike : AlikeInCase spelled keyword.toList)
    (stands : StandsApart before spelled after) :
    (∃ named ∈ policy.deniedKeywords, Denylist.mentioned? policy.deniedKeywords
      (String.ofList (before ++ spelled ++ after)) = some named) ∧
    ∀ text : String,
      (text.toList = before ++ spelled ++ after ∨
        Text.stripChars text.toList = before ++ spelled ++ after) →
      policy.rootPrefix.toList ++ ['.'] <+: Text.stripChars text.toList →
      ∃ named ∈ policy.deniedKeywords,
        parse policy (.string text) = .error (.denied named) := by
  refine ⟨Denylist.exists_mentioned? denied isWord alike stands, ?_⟩
  intro text holds prior
  have inside : ∃ left right, Text.stripChars text.toList = left ++ spelled ++ right ∧
      StandsApart left spelled right := by
    rcases holds with whole | trimmed
    · rw [whole]
      exact stands.trimmed (isWord.of_alike alike)
    · exact ⟨before, after, trimmed, stands⟩
  rcases inside with ⟨left, right, trimmed, apart⟩
  rcases Denylist.exists_mentioned? denied isWord alike apart with ⟨named, member, mentioned⟩
  refine ⟨named, member, ?_⟩
  rw [← trimmed] at mentioned
  rw [parse]
  exact parseText_eq_denied prior mentioned

/-- In a command that is no command otherwise, after a dollar sign that is no part of the word. -/
theorem parse_malformed_denied :
    "$where" ∈ findOnly.deniedKeywords ∧
      ∃ named ∈ findOnly.deniedKeywords,
        parse findOnly (.string " db.us-ers(]'$$WHERE.x\n") = .error (.denied named) := by
  have isWord : IsWord "$where".toList :=
    Or.inr ⟨"where".toList, rfl, 'w', "here".toList, rfl, by decide, List.all_eq_true.mp (by decide)⟩
  have found := @parse_denied_of_spelled findOnly "$where" (by decide) isWord
    " db.us-ers(]'$".toList "$WHERE".toList ".x\n".toList (by unfold AlikeInCase; decide)
    ⟨fun undollared => absurd rfl undollared, by rintro _ ⟨⟩; rfl⟩
  exact ⟨by decide, found.2 _ (Or.inl rfl) (by decide)⟩

end Command
end DocumentGate
