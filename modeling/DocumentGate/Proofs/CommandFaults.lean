import DocumentGate.Proofs.OversizedArguments
import DocumentGate.Proofs.TrimmedTexts
import DocumentGate.Proofs.TrustBoundary
import DocumentGate.Service.Fault

/-!
# Faults of commands

A command that is refused is refused with one of four kinds of faults, and arguments that
cannot be read with the one for arguments.  There is a single exception: where arguments are in
order up to a whole number of too many digits, the fault has no kind.
-/

namespace DocumentGate.Command

open Service (Kind kindOfCommand?)

/-- The kinds of faults that refusing a command may have. -/
def faultKinds : List Kind :=
  [.invalidCommandFormat, .disallowedOperation, .unsupportedOperation, .argumentParseError]

/-- A fault of a command has one of the four kinds, unless it is a number of too many digits. -/
theorem kindOfCommand?_cases (fault : Fault) :
    (∃ kind ∈ faultKinds, kindOfCommand? fault = some kind) ∨
      ∃ digits, fault = .arguments (.oversized digits) := by
  cases fault with
  | arguments fault =>
      cases fault with
      | oversized digits =>
          exact Or.inr ⟨digits, rfl⟩
      | _ =>
          exact Or.inl ⟨_, by simp [faultKinds], rfl⟩
  | _ =>
      exact Or.inl ⟨_, by simp [faultKinds], rfl⟩

/-! ## Up to the arguments -/

/-- The text of a command passes every check before the one of its arguments. -/
structure Reaches (policy : Policy) (text : List Char) (parts : Parts) : Prop where
  prior : policy.rootPrefix.toList ++ ['.'] <+: text
  unmentioned : Denylist.mentioned? policy.deniedKeywords (String.ofList text) = none
  shape : parts? (text.drop (policy.rootPrefix.toList ++ ['.']).length) = some parts
  allowed : (policy.operation? (String.ofList parts.operation)).isSome = true

section Arguments

variable {policy : Policy} {text : List Char} {parts : Parts}
  (reaches : Reaches policy text parts)

include reaches

theorem Reaches.isPrefixOf : (policy.rootPrefix.toList ++ ['.']).isPrefixOf text = true :=
  List.isPrefixOf_iff_prefix.mpr reaches.prior

/-- Behind those checks arguments that cannot be read are what the command is refused for. -/
theorem Reaches.refused {cause : Argument.Fault}
    (unread : Argument.readChars policy.depthLimit parts.arguments = .error cause) :
    parseText policy text = .error (.arguments cause) := by
  rcases Option.isSome_iff_exists.mp reaches.allowed with ⟨operation, allowed⟩
  simp only [Command.parseText, reaches.isPrefixOf, reaches.unmentioned, reaches.shape, allowed,
    unread, if_true]
  rfl

/-- Arguments that can be read are searched for keywords, and nothing else is asked of them. -/
theorem Reaches.not_refused {value : Json}
    (read : Argument.readChars policy.depthLimit parts.arguments = .ok value)
    (cause : Argument.Fault) : parseText policy text ≠ .error (.arguments cause) := by
  rcases Option.isSome_iff_exists.mp reaches.allowed with ⟨operation, allowed⟩
  have renamed : (Argument.readChars policy.depthLimit parts.arguments).mapError
      Fault.arguments = pure value := by
    rw [read]
    rfl
  intro refused
  simp only [Command.parseText, reaches.isPrefixOf, reaches.unmentioned, reaches.shape, allowed,
    renamed, if_true, pure_bind] at refused
  split at refused
  · cases refused
  · cases refused

end Arguments

/-- A command that does not come to its arguments is refused for something else. -/
theorem exists_reaches {policy : Policy} {text : List Char} {cause : Argument.Fault}
    (failed : Command.parseText policy text = .error (.arguments cause)) :
    ∃ parts, Reaches policy text parts := by
  have prior : (policy.rootPrefix.toList ++ ['.']).isPrefixOf text = true := by
    by_contra other
    simp only [Command.parseText, other] at failed
    cases failed
  have unmentioned : Denylist.mentioned? policy.deniedKeywords (String.ofList text) = none := by
    by_contra mentions
    rcases Option.ne_none_iff_exists'.mp mentions with ⟨keyword, mentioned⟩
    simp only [Command.parseText, prior, mentioned] at failed
    cases failed
  cases shape : parts? (text.drop (policy.rootPrefix.toList ++ ['.']).length) with
  | none =>
      simp only [Command.parseText, prior, unmentioned, shape] at failed
      cases failed
  | some parts =>
      refine ⟨parts, List.isPrefixOf_iff_prefix.mp prior, unmentioned, shape, ?_⟩
      by_contra other
      rw [Bool.not_eq_true, Option.isSome_eq_false_iff, Option.isNone_iff_eq_none] at other
      simp only [Command.parseText, prior, unmentioned, shape, other] at failed
      cases failed

/-- The arguments of a command are what is wrong if and only if nothing before them is. -/
theorem parseText_eq_arguments_iff {policy : Policy} {text : List Char} {cause : Argument.Fault} :
    parseText policy text = .error (.arguments cause) ↔
      ∃ parts, Reaches policy text parts ∧
        Argument.readChars policy.depthLimit parts.arguments = .error cause := by
  constructor
  · intro failed
    rcases exists_reaches failed with ⟨parts, reaches⟩
    refine ⟨parts, reaches, ?_⟩
    cases read : Argument.readChars policy.depthLimit parts.arguments with
    | error fault =>
        have same := failed.symm.trans (reaches.refused read)
        rw [Fault.arguments.inj (Except.error.inj same)]
    | ok value =>
        exact absurd failed (reaches.not_refused read cause)
  · rintro ⟨parts, reaches, unread⟩
    exact reaches.refused unread

/-! ## All faults -/

/-- The command is a text that passes every check before the one of its arguments. -/
def ComesTo (policy : Policy) (command : Json) (parts : Parts) : Prop :=
  ∃ text, command = .string text ∧ Reaches policy (Text.stripChars text.toList) parts

theorem parse_eq_arguments_iff {policy : Policy} {command : Json} {cause : Argument.Fault} :
    parse policy command = .error (.arguments cause) ↔
      ∃ parts, ComesTo policy command parts ∧
        Argument.readChars policy.depthLimit parts.arguments = .error cause := by
  cases command with
  | string text =>
      show parseText policy (Text.stripChars text.toList) = _ ↔ _
      rw [parseText_eq_arguments_iff]
      refine exists_congr fun parts => and_congr_left' ?_
      exact ⟨fun reaches => ⟨text, rfl, reaches⟩, fun ⟨_, same, reaches⟩ => by
        obtain rfl := Json.string.inj same
        exact reaches⟩
  | _ =>
      refine iff_of_false nofun ?_
      rintro ⟨parts, ⟨text, same, -⟩, -⟩
      cases same

/--
A command is accepted or refused with a fault of one of the four kinds, and for arguments that
cannot be read with the fault and the kind of arguments.  There is a single exception: nothing
before the arguments is wrong, and nothing in them up to a whole number of too many digits.
-/
theorem parse_faults (policy : Policy) (command : Json) :
    ((∃ descriptor, parse policy command = .ok descriptor) ∨
      (∃ fault, parse policy command = .error fault ∧
        ∃ kind ∈ faultKinds, kindOfCommand? fault = some kind) ∨
      ∃ digits, parse policy command = .error (.arguments (.oversized digits))) ∧
    (∀ parts cause, ComesTo policy command parts →
      Argument.readChars policy.depthLimit parts.arguments = .error cause →
        parse policy command = .error (.arguments cause) ∧
          (kindOfCommand? (.arguments cause) = some .argumentParseError ∨
            ∃ digits, cause = .oversized digits)) ∧
    ∀ digits, (parse policy command = .error (.arguments (.oversized digits)) ↔
      ∃ parts, ComesTo policy command parts ∧
        Argument.ComesToOversized policy.depthLimit parts.arguments digits) := by
  refine ⟨?_, ?_, ?_⟩
  · cases parsed : parse policy command with
    | ok descriptor =>
        exact Or.inl ⟨descriptor, rfl⟩
    | error fault =>
        rcases kindOfCommand?_cases fault with kinds | ⟨digits, rfl⟩
        · exact Or.inr (Or.inl ⟨fault, rfl, kinds⟩)
        · exact Or.inr (Or.inr ⟨digits, rfl⟩)
  · intro parts cause comes unread
    refine ⟨parse_eq_arguments_iff.mpr ⟨parts, comes, unread⟩, ?_⟩
    cases cause with
    | oversized digits =>
        exact Or.inr ⟨digits, rfl⟩
    | _ =>
        exact Or.inl rfl
  · intro digits
    rw [parse_eq_arguments_iff]
    exact exists_congr fun parts => and_congr_right' Argument.readChars_eq_oversized_iff

/-! ## A number of too many digits -/

/-- The digit one, so many times. -/
def ones (count : Nat) : List Char :=
  List.replicate count '1'

theorem comesToOversized_ones {limit : Int} {count : Nat} (many : Number.digitLimit < count) :
    Argument.ComesToOversized limit (ones count) count := by
  have isWhole : Argument.WholeText (ones count) := by
    cases count with
    | zero =>
        cases many
    | succ count =>
        refine .digits (by decide) ?_
        intro digit member
        rw [List.eq_of_mem_replicate (show digit ∈ List.replicate (count + 1) '1' from member)]
        rfl
  have isNumber : Argument.NumberText (ones count)
      (Argument.numberOf false (ones count) [] none) := by
    simpa using @Argument.NumberText.parts false _ _ _ _ _ isWhole .none .none
  have overruns : Argument.Overruns (ones count) count := by
    have whole := @Argument.Overruns.whole false (ones count) [] isWhole
      (by rw [ones, List.length_replicate]; exact many)
      ⟨by simp [Argument.Stops], fun _ => List.prefix_nil.mp, fun _ => List.prefix_nil.mp⟩
    simpa [ones, Argument.minus] using whole
  have cut : Argument.tokenize (ones count) = .ok [.number (ones count)] := by
    refine Argument.tokenize_eq (Argument.tokens_spaced (Nat.lt_succ_self _) ?_
      (List.forall_mem_singleton.mpr (.number isNumber)) (.singleton _)
      (List.forall_mem_singleton.mpr trivial))
    simpa [Argument.Token.written] using
      @Argument.Spaced.token [] [] (.number (ones count)) [] (List.forall_mem_nil _)
        (.blank (List.forall_mem_nil _))
  have visible : (ones count).all Text.isBlank = false := by
    rw [List.all_eq_false]
    refine ⟨'1', List.mem_replicate.mpr ⟨?_, rfl⟩, by decide⟩
    rintro rfl
    cases many
  exact ⟨visible, _, cut, ⟨_, rfl⟩, .number overruns⟩

/-- A policy that allows only to find documents, and denies no keyword. -/
def findAny : Policy :=
  ⟨"db", [.find], [], 32⟩

/-- The command to find the users with a number of so many digits for a filter. -/
def findOnes (count : Nat) : Json :=
  .string (String.ofList ("db.users.find(".toList ++ (ones count ++ [')'])))

theorem enclosed?_ones (count : Nat) : enclosed? (ones count ++ [')']) = some (ones count) := by
  simp [enclosed?, ones]

theorem parts?_ones (count : Nat) :
    parts? ("users.find(".toList ++ (ones count ++ [')'])) =
      some ⟨"users".toList, "find".toList, ones count⟩ := by
  have collection : spanName ("users.find(".toList ++ (ones count ++ [')'])) =
      some ("users".toList, '.' :: ("find(".toList ++ (ones count ++ [')']))) := rfl
  have operation : spanName ("find(".toList ++ (ones count ++ [')'])) =
      some ("find".toList, '(' :: (ones count ++ [')'])) := rfl
  simp only [parts?, collection, operation, Option.bind_eq_bind, Option.bind_some]
  rw [enclosed?_ones]
  rfl

theorem comesTo_ones (count : Nat) :
    ComesTo findAny (findOnes count) ⟨"users".toList, "find".toList, ones count⟩ := by
  have stripped : Text.stripChars ("db.users.find(".toList ++ (ones count ++ [')'])) =
      "db.users.find(".toList ++ (ones count ++ [')']) := by
    have ends : ("db.users.find(".toList ++ (ones count ++ [')'])).getLast? = some ')' := by
      rw [← List.append_assoc, List.getLast?_concat]
    have trimmed := @Text.stripChars_append ("db.users.find(".toList ++ (ones count ++ [')']))
      (by simp) (by rintro _ ⟨⟩; decide) (by rw [ends]; rintro _ ⟨⟩; decide) [] []
    simpa using trimmed
  refine ⟨_, rfl, ?_⟩
  rw [String.toList_ofList, stripped]
  exact ⟨⟨_, rfl⟩, Denylist.mentioned?_eq_none_iff.mpr nofun, parts?_ones count,
    show (findAny.operation? (String.ofList "find".toList)).isSome = true by decide⟩

theorem parse_ones {count : Nat} (many : Number.digitLimit < count) :
    parse findAny (findOnes count) = .error (.arguments (.oversized count)) :=
  parse_eq_arguments_iff.mpr ⟨_, comesTo_ones count,
    Argument.readChars_eq_oversized_iff.mpr (comesToOversized_ones many)⟩

/-- With one digit beyond the limit a command is neither accepted nor refused in one of the ways. -/
theorem parse_ones_escapes :
    ¬((∃ descriptor, parse findAny (findOnes 4301) = .ok descriptor) ∨
      ∃ fault, parse findAny (findOnes 4301) = .error fault ∧
        ∃ kind ∈ faultKinds, kindOfCommand? fault = some kind) := by
  rw [parse_ones (by decide)]
  rintro (⟨descriptor, accepted⟩ | ⟨fault, refused, kind, -, hasKind⟩)
  · cases accepted
  · obtain rfl := Except.error.inj refused
    cases hasKind

end DocumentGate.Command
