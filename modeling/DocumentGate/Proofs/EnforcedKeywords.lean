import DocumentGate.Proofs.SpelledKeywords
import DocumentGate.Proofs.StoredTexts

/-!
# Keywords that are enforced

Settings accept every text as a denied keyword, but only words are looked for.  A keyword that is
a word never comes through in the keys and strings of a command.  One that is not is never found, not
even in a string that is the keyword itself: such a string is handed on where it is written with
escapes, so that the text of the command holds no word that could be taken for the keyword.
-/

namespace DocumentGate

namespace Denylist

open Text (AlikeInCase)

/-! ## Words of a text -/

/-- What is found in a text are words, and each of them lies in the text. -/
theorem Scanned.isWord {text word : List Char} {found : List (List Char)}
    (scanned : Scanned text found) (member : word ∈ found) : IsWord word ∧ word <:+: text := by
  induction scanned with
  | nil =>
      cases member
  | skip none further ih =>
      exact ⟨(ih member).1, (ih member).2.trans (List.suffix_cons _ _).isInfix⟩
  | word isWord longest further ih =>
      rcases List.mem_cons.mp member with rfl | later
      · exact ⟨isWord, (List.prefix_append _ _).isInfix⟩
      · exact ⟨(ih later).1, (ih later).2.trans (List.suffix_append _ _).isInfix⟩

theorem isWord_of_mem_words {text word : List Char} (member : word ∈ words text) :
    IsWord word ∧ word <:+: text :=
  (scanned_words text).isWord member

/-! ## Keywords that are found -/

variable {keyword : String}

/-- A text that is a denied keyword in some spelling is not clean, if the keyword is a word. -/
theorem not_isClean_of_alike {keywords : List String} {text : String}
    (denied : keyword ∈ keywords) (isWord : IsWord keyword.toList)
    (alike : AlikeInCase text.toList keyword.toList) : ¬IsClean keywords text := by
  intro clean
  have mentioned : Mentions text.toList text.toList := by
    rw [mentions_iff]
    simpa using mem_words_append (isWord.of_alike alike) [] (by simp)
  refine clean text.toList mentioned keyword denied ?_
  exact lower_eq_of_alike isWord alike

/-! ## Keywords that are not found -/

/-- A keyword that is no word is not found in itself: each word of it is shorter. -/
theorem isClean_self (noWord : ¬IsWord keyword.toList) : IsClean [keyword] keyword := by
  intro word mentioned other denied same
  obtain rfl := List.mem_singleton.mp denied
  rcases isWord_of_mem_words (mentions_iff.mp mentioned) with ⟨isWord, inside⟩
  have shorter : word.length < other.toList.length := by
    refine lt_of_le_of_ne inside.length_le fun equal => noWord ?_
    rwa [← inside.eq_of_length equal]
  have lowered : (Text.lowerOnto [] other.toList).length = word.length := by
    have lists := congrArg (fun text => text.toList.length) same
    simp only [Text.lower, String.toList_ofList, Text.lowerOnto_of_ascii isWord.ascii,
      List.length_map] at lists
    exact lists.symm
  have longer := Text.length_le_lowerOnto [] other.toList
  omega

/-- The character lies in the ASCII range, and nothing beyond that range has its lower case. -/
def IsPlain (character : Char) : Prop :=
  character.toNat < 0x80 ∧ character.toLower ≠ 'k'

instance (character : Char) : Decidable (IsPlain character) :=
  inferInstanceAs (Decidable (_ ∧ _))

theorem forall_isPlain_of_all {text : List Char} (all : text.all (decide <| IsPlain ·) = true) :
    ∀ character ∈ text, IsPlain character :=
  fun character member => of_decide_eq_true (List.all_eq_true.mp all character member)

/-- A keyword that is no word is not found in a text of such characters either. -/
theorem isClean_of_plain {text : List Char} (noWord : ¬IsWord keyword.toList)
    (plain : ∀ character ∈ text, IsPlain character) : IsClean [keyword] (String.ofList text) := by
  intro word mentioned other denied same
  obtain rfl := List.mem_singleton.mp denied
  rw [mentions_iff, String.toList_ofList] at mentioned
  rcases isWord_of_mem_words mentioned with ⟨isWord, inside⟩
  have lowered : Text.lowerOnto [] other.toList = word.map Char.toLower := by
    have lists := congrArg String.toList same
    simp only [Text.lower, String.toList_ofList, Text.lowerOnto_of_ascii isWord.ascii] at lists
    exact lists.symm
  have ascii : ∀ character ∈ other.toList, character.toNat < 0x80 := by
    refine Text.ascii_of_lowerOnto [] ?_
    rw [lowered]
    refine List.forall_mem_map.mpr fun character member => ?_
    have isPlain := plain character (inside.subset member)
    exact ⟨Text.of_ascii (fun character => character.toLower.toNat < 0x80) (by decide)
      isPlain.1, isPlain.2⟩
  have alike : AlikeInCase word other.toList := by
    rw [← Text.lower_eq_iff_of_ascii isWord.ascii ascii, same, String.ofList_toList]
  exact noWord (isWord.of_alike alike.symm)

end Denylist

/-! ## A string in escapes -/

namespace Argument

/-- The body of a string in which every character is written by its units. -/
def inEscapes (text : String) : List Char :=
  (text.toList.flatMap fun character => Text.unitsOf character.toNat).flatMap
    fun unit => '\\' :: 'u' :: Text.hexDigits 4 unit

theorem spells_inEscapes (text : String) :
    Spells '"' (inEscapes text) (text.toList.flatMap fun character => Text.unitsOf character.toNat) := by
  have small : ∀ unit ∈ text.toList.flatMap fun character => Text.unitsOf character.toNat,
      unit < 16 ^ 4 := by
    intro unit member
    rcases List.mem_flatMap.mp member with ⟨character, -, within⟩
    exact Text.unitsOf_lt character unit within
  simpa [inEscapes] using Spells.units small Spells.nil

/-- What holds of the marks of an escape and of its digits holds throughout. -/
theorem forall_mem_inEscapes (property : Char → Prop) (backslash : property '\\')
    (letter : property 'u') (digit : ∀ value < 16, property value.digitChar) (text : String) :
    ∀ character ∈ inEscapes text, property character := by
  have digits : ∀ width number, ∀ character ∈ Text.hexDigits width number, property character := by
    intro width
    induction width with
    | zero =>
        exact fun _ _ => nofun
    | succ width ih =>
        exact fun number => List.forall_mem_append.mpr
          ⟨ih _, List.forall_mem_singleton.mpr (digit _ (Nat.mod_lt number (by decide)))⟩
  intro character member
  rcases List.mem_flatMap.mp member with ⟨unit, -, within⟩
  exact List.forall_mem_cons.mpr ⟨backslash, List.forall_mem_cons.mpr ⟨letter, digits 4 unit⟩⟩
    character within

/-- A string in escapes is read as the string. -/
theorem readChars_inEscapes (limit : Int) (text : String) :
    readChars limit ('"' :: (inEscapes text ++ ['"'])) = .ok (.string text) := by
  have spells := spells_inEscapes text
  have isToken : StringToken (.doubleQuoted (inEscapes text)) text := by
    have isString := StringToken.double spells
    rwa [Text.joinSurrogates_flatMap, String.ofList_toList] at isString
  have grammatical : Token.IsGrammatical (.doubleQuoted (inEscapes text)) := .key (.string isToken)
  have spaced : Spaced ('"' :: (inEscapes text ++ ['"'])) [.doubleQuoted (inEscapes text)] := by
    simpa [Token.written] using
      @Spaced.token [] [] (.doubleQuoted (inEscapes text)) [] (List.forall_mem_nil _)
        (.blank (List.forall_mem_nil _))
  have cut : tokenize ('"' :: (inEscapes text ++ ['"'])) = .ok [.doubleQuoted (inEscapes text)] :=
    tokenize_eq (tokens_spaced (Nat.lt_succ_self _) spaced
      (List.forall_mem_singleton.mpr grammatical) (.singleton _)
      (List.forall_mem_singleton.mpr trivial))
  have read : Json.readChars ('"' :: (inEscapes text ++ ['"'])) = .ok (.string text) := by
    have readsString := spells.readsString
    rw [Text.joinSurrogates_flatMap, String.ofList_toList] at readsString
    exact (reads_string readsString).readChars ⟨'"', _, rfl, by decide, by decide⟩
  have spelled : spell limit 0 none [.doubleQuoted (inEscapes text)] =
      .ok ('"' :: (inEscapes text ++ ['"'])) := by
    simp [spell]
  rw [readChars, spaced.not_blank grammatical, cut]
  simp only [bind, Except.bind, Bool.false_eq_true, if_false, spelled, read]
  rfl

end Argument

/-! ## Enforced keywords -/

namespace Command

open Denylist (IsWord)
open Text (AlikeInCase)

/--
Whatever the settings are in which the keyword is denied, no key and no string of a command that is
accepted is the keyword, in whatever case.
-/
def IsEnforced (keyword : String) : Prop :=
  ∀ members settings, Settings.ofMembers members = .ok settings →
    keyword ∈ settings.deniedKeywords →
    ∀ command descriptor, parse settings.policy command = .ok descriptor →
      ∀ text, descriptor.arguments.Contains text → ¬AlikeInCase text.toList keyword.toList

/-- Settings in which the keyword alone is denied. -/
def denying (keyword : String) : Json.Members :=
  [("denied_keywords", .array [.string keyword])]

/-- What they say about commands. -/
def denyingPolicy (keyword : String) : Policy :=
  (Settings.forCommands "db" [keyword]).policy

theorem ofMembers_denying (keyword : String) :
    Settings.ofMembers (denying keyword) = .ok (Settings.forCommands "db" [keyword]) := by
  refine Settings.ofMembers_eq_ok_iff.mpr (Settings.readFrom_forCommands ?_ rfl rfl)
  intro field _ notKeywords
  simp [denying, Dictionary.get?, notKeywords.symm]

theorem rooted_denying (keyword : String) : (denyingPolicy keyword).HasRoot :=
  (Settings.ofMembers_eq_ok_iff.mp (ofMembers_denying keyword)).rootPrefix_starts

/-- The parts of a command with the keyword in escapes for its arguments. -/
def findEscaped (keyword : String) : Parts :=
  ⟨"c".toList, "find".toList, '"' :: (Argument.inEscapes keyword ++ ['"'])⟩

/-- The text of the command around the keyword. -/
theorem textOf_findEscaped (keyword : String) :
    (denyingPolicy keyword).textOf (findEscaped keyword) =
      "db.c.find(\"".toList ++ (Argument.inEscapes keyword ++ "\")".toList) := by
  simp [denyingPolicy, Settings.policy, Settings.forCommands, findEscaped, Policy.textOf,
    Parts.written]

variable {keyword : String}

theorem isWrittenOf_findEscaped (noWord : ¬IsWord keyword.toList) :
    IsWrittenOf (denyingPolicy keyword)
      (.string (String.ofList ((denyingPolicy keyword).textOf (findEscaped keyword))))
      (findEscaped keyword) .find where
  collection := ⟨'c', [], rfl, by decide, nofun⟩
  named := rfl
  allowed := List.mem_cons_self
  oneLine := by
    have unbroken := Argument.forall_mem_inEscapes (· ≠ '\n') (by decide) (by decide)
      (by decide) keyword
    simpa [findEscaped] using fun broken => unbroken '\n' broken rfl
  unmentioned := by
    refine Denylist.mentioned?_eq_none_iff.mpr (Denylist.isClean_of_plain noWord ?_)
    rw [textOf_findEscaped]
    exact List.forall_mem_append.mpr ⟨Denylist.forall_isPlain_of_all (by decide),
      List.forall_mem_append.mpr
        ⟨Argument.forall_mem_inEscapes _ (by decide) (by decide) (by decide) keyword,
          Denylist.forall_isPlain_of_all (by decide)⟩⟩
  spelled := ⟨_, [], [], rfl, by simp, nofun, nofun⟩

/-- A keyword that is no word is handed on though it is denied. -/
theorem parse_findEscaped (noWord : ¬IsWord keyword.toList) :
    parse (denyingPolicy keyword)
        (.string (String.ofList ((denyingPolicy keyword).textOf (findEscaped keyword)))) =
      .ok ⟨"c", .find, .string keyword⟩ := by
  have clean : Denylist.mentionedIn? (denyingPolicy keyword).deniedKeywords (.string keyword) =
      none := Denylist.mentioned?_eq_none_iff.mpr (Denylist.isClean_self noWord)
  rw [(isWrittenOf_findEscaped noWord).parse_of_read (rooted_denying keyword)
    (Argument.readChars_inEscapes _ keyword), clean]
  rfl

/-- The denied keywords that are enforced are those that are words. -/
theorem isEnforced_iff_isWord (keyword : String) : IsEnforced keyword ↔ IsWord keyword.toList := by
  constructor
  · intro enforced
    by_contra noWord
    exact enforced _ _ (ofMembers_denying keyword) (List.mem_singleton_self keyword) _ _
      (parse_findEscaped noWord) keyword .string rfl
  · intro isWord members settings _ denied command descriptor parsed text contains alike
    cases command with
    | string given =>
        rw [parse] at parsed
        rcases parseText_eq_ok parsed with ⟨parts, passes⟩
        exact Denylist.not_isClean_of_alike denied isWord alike
          (Denylist.isClean_of_contains passes.clean contains)
    | _ =>
        cases parsed

/-- The parts of a command that a keyword with a hyphen comes through in. -/
def findHyphened : Parts :=
  ⟨"users".toList, "find".toList, "\x7ba: 'drop-all'\x7d".toList⟩

/-- Where it is denied, a keyword with a hyphen is handed on, so that not all are enforced. -/
theorem hyphened_not_enforced :
    parse (denyingPolicy "drop-all") (.string "db.users.find(\x7ba: 'drop-all'\x7d)") =
        .ok ⟨"users", .find, .object [("a", .string "drop-all")]⟩ ∧
      ¬∀ keyword : String, keyword ≠ "" → IsEnforced keyword := by
  have written : IsWrittenOf (denyingPolicy "drop-all")
      (.string "db.users.find(\x7ba: 'drop-all'\x7d)") findHyphened .find :=
    { collection := (spanName_eq_some
        (show spanName "users".toList = some ("users".toList, []) by decide)).2
      named := rfl
      allowed := List.mem_cons_self
      oneLine := by decide
      unmentioned := by decide +kernel
      spelled := ⟨_, [], [], rfl, by decide, nofun, nofun⟩ }
  have read : Argument.readChars (denyingPolicy "drop-all").depthLimit findHyphened.arguments =
      .ok (.object [("a", .string "drop-all")]) := by
    simp only [findHyphened, String.reduceToList]
    rfl
  have clean : Denylist.mentionedIn? (denyingPolicy "drop-all").deniedKeywords
      (.object [("a", .string "drop-all")]) = none := by
    decide +kernel
  have accepted := written.parse_of_read (rooted_denying "drop-all") read
  rw [clean] at accepted
  refine ⟨accepted, fun enforced => ?_⟩
  exact enforced "drop-all" (by decide) _ _ (ofMembers_denying "drop-all")
    (List.mem_singleton_self _) _ _ accepted "drop-all" (.value List.mem_cons_self .string) rfl

end Command
end DocumentGate
