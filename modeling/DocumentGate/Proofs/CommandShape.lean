import DocumentGate.Proofs.CommandFaults
import DocumentGate.Proofs.ValidSettings

/-!
# The shape of commands

A command is written as a root prefix, the name of a collection, the name of an operation and the
text of the arguments, with marks between them.  Whatever the prefix is and whatever stands in the
arguments, a text is written in this way of one choice of parts at most, and what becomes of a
command is decided by its arguments alone.
-/

namespace DocumentGate

namespace Denylist

/-- A keyword that a text mentions is a denied one. -/
theorem mem_of_mentioned? {keywords : List String} {text keyword : String}
    (mentioned : mentioned? keywords text = some keyword) : keyword ∈ keywords := by
  rcases List.exists_of_findSome?_eq_some mentioned with ⟨word, -, found⟩
  exact List.mem_reverse.mp (List.mem_of_find?_eq_some found)

section Mentions

variable {keywords : List String} {keyword : String}

mutual

/-- A keyword that a value mentions is mentioned by one of its keys and strings. -/
theorem contains_of_mentionedIn? : ∀ {value : Json}, mentionedIn? keywords value = some keyword →
    ∃ text, value.Contains text ∧ mentioned? keywords text = some keyword
  | .string text, mentioned => ⟨text, .string, mentioned⟩
  | .array elements, mentioned => by
      rcases @contains_of_mentionedInElements? elements mentioned with
        ⟨element, member, text, inside, found⟩
      exact ⟨text, .element member inside, found⟩
  | .object members, mentioned => by
      rcases @contains_of_mentionedInMembers? members mentioned with
        ⟨text, inside, found⟩
      exact ⟨text, inside members (List.Subset.refl members), found⟩

theorem contains_of_mentionedInElements? : ∀ {elements : List Json},
    mentionedInElements? keywords elements = some keyword →
      ∃ element ∈ elements, ∃ text, element.Contains text ∧ mentioned? keywords text = some keyword
  | element :: rest, mentioned => by
      rw [mentionedInElements?, Option.or_eq_some_iff] at mentioned
      rcases mentioned with here | ⟨-, later⟩
      · exact ⟨element, List.mem_cons_self, contains_of_mentionedIn? here⟩
      · rcases contains_of_mentionedInElements? later with ⟨other, member, found⟩
        exact ⟨other, List.mem_cons_of_mem _ member, found⟩

theorem contains_of_mentionedInMembers? : ∀ {members : List (String × Json)},
    mentionedInMembers? keywords members = some keyword →
      ∃ text, (∀ all : List (String × Json), members ⊆ all → (Json.object all).Contains text) ∧
        mentioned? keywords text = some keyword
  | (key, value) :: rest, mentioned => by
      rw [mentionedInMembers?, Option.or_eq_some_iff, Option.or_eq_some_iff] at mentioned
      rcases mentioned with (named | ⟨-, here⟩) | ⟨-, later⟩
      · exact ⟨key, fun _ within => .key (within List.mem_cons_self), named⟩
      · rcases contains_of_mentionedIn? here with ⟨text, inside, found⟩
        exact ⟨text, fun _ within => .value (within List.mem_cons_self) inside, found⟩
      · rcases contains_of_mentionedInMembers? later with ⟨text, inside, found⟩
        exact ⟨text, fun _ within => inside _ (List.subset_of_cons_subset within), found⟩

end

/-- No key and no string of the value mentions a denied keyword. -/
def AllClean (keywords : List String) (value : Json) : Prop :=
  ∀ text, value.Contains text → IsClean keywords text

/-- A value passes the denylist if and only if its keys and strings are clean. -/
theorem mentionedIn?_eq_none_iff {value : Json} :
    mentionedIn? keywords value = none ↔ AllClean keywords value := by
  refine ⟨fun passes _ contains => isClean_of_contains passes contains, fun clean => ?_⟩
  by_contra mentions
  rcases Option.ne_none_iff_exists'.mp mentions with ⟨keyword, mentioned⟩
  rcases contains_of_mentionedIn? mentioned with ⟨text, contains, found⟩
  rw [mentioned?_eq_none_iff.mpr (clean text contains)] at found
  cases found

end Mentions

end Denylist

namespace Command

/-! ## Parts of a text -/

/-- What is written of parts behind the root prefix and its dot. -/
def Parts.written (parts : Parts) : List Char :=
  parts.collection ++ '.' :: (parts.operation ++ '(' :: (parts.arguments ++ [')']))

/-- The parts are two names and arguments on one line. -/
structure Parts.AreProper (parts : Parts) : Prop where
  collection : Denylist.IsName parts.collection
  operation : Denylist.IsName parts.operation
  oneLine : '\n' ∉ parts.arguments

/-- Nothing of a text is taken for a name where no letter, digit or underscore begins it. -/
theorem span_of_ends {after : List Char}
    (ends : ∀ character ∈ after.head?, Argument.isNamePart character = false) :
    after.takeWhile Argument.isNamePart = [] ∧ after.dropWhile Argument.isNamePart = after := by
  cases after with
  | nil =>
      exact ⟨rfl, rfl⟩
  | cons next further =>
      have apart : ¬Argument.isNamePart next = true := by simp [ends next rfl]
      exact ⟨List.takeWhile_cons_of_neg apart, List.dropWhile_cons_of_neg apart⟩

/-- A name is taken whole from a text in which no further letter follows it. -/
theorem spanName_append {name after : List Char} (isName : Denylist.IsName name)
    (ends : ∀ character ∈ after.head?, Argument.isNamePart character = false) :
    spanName (name ++ after) = some (name, after) := by
  rcases isName with ⟨first, rest, rfl, start, all⟩
  have stops := span_of_ends ends
  rw [List.cons_append, spanName, if_pos start, List.takeWhile_append_of_pos all,
    List.dropWhile_append_of_pos all, stops.1, stops.2, List.append_nil]

theorem enclosed?_eq_some_iff {text inner : List Char} :
    enclosed? text = some inner ↔ text = inner ++ [')'] ∧ '\n' ∉ inner := by
  constructor
  · intro enclosed
    refine ⟨enclosed?_eq_some enclosed, ?_⟩
    unfold enclosed? at enclosed
    split at enclosed
    · rename_i closes
      rw [Bool.and_eq_true] at closes
      rw [← Option.some.inj enclosed]
      simpa using closes.2
    · cases enclosed
  · rintro ⟨rfl, oneLine⟩
    simp [enclosed?, oneLine]

/-- The parts of a text are the only proper ones that it is written of. -/
theorem parts?_eq_some_iff {text : List Char} {parts : Parts} :
    parts? text = some parts ↔ parts.AreProper ∧ text = parts.written := by
  constructor
  · intro found
    rcases parts?_eq_some found with ⟨written, collection, operation⟩
    refine ⟨⟨collection, operation, ?_⟩, written⟩
    rcases Option.bind_eq_some_iff.mp found with ⟨⟨_, _⟩, -, named⟩
    dsimp only at named
    split at named
    · rcases Option.bind_eq_some_iff.mp named with ⟨⟨_, _⟩, -, called⟩
      dsimp only at called
      split at called
      · rcases Option.bind_eq_some_iff.mp called with ⟨inner, enclosed, done⟩
        obtain rfl := Option.some.inj done
        exact (enclosed?_eq_some_iff.mp enclosed).2
      · cases called
    · cases named
  · rintro ⟨proper, rfl⟩
    have collection : spanName parts.written =
        some (parts.collection, '.' :: (parts.operation ++ '(' :: (parts.arguments ++ [')']))) :=
      spanName_append proper.collection (by simp; decide)
    have operation : spanName (parts.operation ++ '(' :: (parts.arguments ++ [')'])) =
        some (parts.operation, '(' :: (parts.arguments ++ [')'])) :=
      spanName_append proper.operation (by simp; decide)
    have arguments : enclosed? (parts.arguments ++ [')']) = some parts.arguments :=
      enclosed?_eq_some_iff.mpr ⟨rfl, proper.oneLine⟩
    simp only [parts?, collection, operation, arguments, Option.bind_eq_bind, Option.bind_some]
    rfl

/-! ## Commands of parts -/

/-- The name of an operation is an identifier. -/
theorem isName_operation (operation : Operation) : Denylist.IsName operation.name.toList := by
  have named : ∀ name : String, spanName name.toList = some (name.toList, []) →
      Denylist.IsName name.toList := fun _ spanned => (spanName_eq_some spanned).2
  cases operation <;> exact named _ (by decide)

/-- The whole text of a command without the blanks around it. -/
def Policy.textOf (policy : Policy) (parts : Parts) : List Char :=
  policy.rootPrefix.toList ++ ['.'] ++ parts.written

/--
The command is written of an identifier, an allowed operation and arguments on one line, with
blanks around it, and its text mentions no denied keyword.
-/
structure IsWrittenOf (policy : Policy) (command : Json) (parts : Parts) (operation : Operation) :
    Prop where
  collection : Denylist.IsName parts.collection
  named : parts.operation = operation.name.toList
  allowed : operation ∈ policy.allowed
  oneLine : '\n' ∉ parts.arguments
  unmentioned : Denylist.mentioned? policy.deniedKeywords (String.ofList (policy.textOf parts)) = none
  spelled : ∃ text left right, command = .string text ∧
    text.toList = left ++ policy.textOf parts ++ right ∧
    (∀ character ∈ left, Text.isBlank character = true) ∧
    ∀ character ∈ right, Text.isBlank character = true

/-- The root prefix begins with a character that is not blank. -/
def Policy.HasRoot (policy : Policy) : Prop :=
  ∃ first rest, policy.rootPrefix.toList = first :: rest ∧ Text.isBlank first = false

section Parts

variable {policy : Policy} {command : Json} {parts : Parts} {operation : Operation}

/-- The blanks around a command are what trimming drops. -/
theorem stripChars_textOf (rooted : policy.HasRoot) {left right : List Char}
    (leading : ∀ character ∈ left, Text.isBlank character = true)
    (trailing : ∀ character ∈ right, Text.isBlank character = true) :
    Text.stripChars (left ++ policy.textOf parts ++ right) = policy.textOf parts := by
  rcases rooted with ⟨first, rest, root, visible⟩
  have starts : policy.textOf parts = first :: (rest ++ ['.'] ++ parts.written) := by
    rw [Policy.textOf, root]
    rfl
  have ends : (policy.textOf parts).getLast? = some ')' := by
    simp [Policy.textOf, Parts.written, List.getLast?_append, List.getLast?_cons]
  refine Text.stripChars_between (by simp [starts]) ?_ ?_ leading trailing
  · rw [starts]
    rintro _ ⟨⟩
    exact visible
  · rw [ends]
    rintro _ ⟨⟩
    decide

theorem IsWrittenOf.operation? (written : IsWrittenOf policy command parts operation) :
    policy.operation? (String.ofList parts.operation) = some operation := by
  rw [written.named, String.ofList_toList]
  simp [Policy.operation?, Option.filter, written.allowed]

theorem IsWrittenOf.areProper (written : IsWrittenOf policy command parts operation) :
    parts.AreProper :=
  ⟨written.collection, written.named ▸ isName_operation operation, written.oneLine⟩

/-- A command that is written of parts comes to its arguments. -/
theorem IsWrittenOf.reaches (written : IsWrittenOf policy command parts operation) :
    Reaches policy (policy.textOf parts) parts where
  prior := List.prefix_append _ _
  unmentioned := written.unmentioned
  shape := by
    rw [Policy.textOf, List.drop_left]
    exact parts?_eq_some_iff.mpr ⟨written.areProper, rfl⟩
  allowed := by rw [written.operation?]; rfl

theorem IsWrittenOf.parse_eq (written : IsWrittenOf policy command parts operation)
    (rooted : policy.HasRoot) : parse policy command = parseText policy (policy.textOf parts) := by
  rcases written.spelled with ⟨text, left, right, rfl, whole, leading, trailing⟩
  rw [parse, whole, stripChars_textOf rooted leading trailing]

/-- Arguments that can be read are searched for keywords, and then the command is accepted. -/
theorem IsWrittenOf.parse_of_read (written : IsWrittenOf policy command parts operation)
    (rooted : policy.HasRoot) {value : Json}
    (read : Argument.readChars policy.depthLimit parts.arguments = .ok value) :
    parse policy command =
      match Denylist.mentionedIn? policy.deniedKeywords value with
      | some keyword => .error (.denied keyword)
      | none => .ok ⟨String.ofList parts.collection, operation, value⟩ := by
  have reaches := written.reaches
  have renamed : (Argument.readChars policy.depthLimit parts.arguments).mapError
      Fault.arguments = pure value := by
    rw [read]
    rfl
  rw [written.parse_eq rooted]
  simp only [parseText, reaches.isPrefixOf, reaches.unmentioned, reaches.shape,
    written.operation?, renamed, if_true, pure_bind]
  cases Denylist.mentionedIn? policy.deniedKeywords value <;> rfl

/-- A command is written of one choice of parts at most. -/
theorem IsWrittenOf.unique (rooted : policy.HasRoot)
    (written : IsWrittenOf policy command parts operation) {others : Parts} {other : Operation}
    (again : IsWrittenOf policy command others other) : others = parts := by
  rcases written.spelled with ⟨text, left, right, rfl, whole, leading, trailing⟩
  rcases again.spelled with ⟨other, before, after, same, split, ahead, behind⟩
  obtain rfl := Json.string.inj same
  have texts : policy.textOf others = policy.textOf parts :=
    calc policy.textOf others
      _ = Text.stripChars text.toList := by rw [split, stripChars_textOf rooted ahead behind]
      _ = policy.textOf parts := by rw [whole, stripChars_textOf rooted leading trailing]
  have shape := again.reaches.shape
  rw [texts, written.reaches.shape] at shape
  exact (Option.some.inj shape).symm

/-- A command that is accepted is written of parts. -/
theorem exists_isWrittenOf {descriptor : Descriptor}
    (parsed : parse policy command = .ok descriptor) :
    ∃ parts, IsWrittenOf policy command parts descriptor.operation := by
  cases command with
  | string text =>
      rw [parse] at parsed
      rcases parseText_eq_ok parsed with ⟨parts, passes⟩
      have operation := Policy.operation?_eq_some passes.operation
      rcases parts?_eq_some_iff.mp passes.shape with ⟨proper, written⟩
      have whole : Text.stripChars text.toList = policy.textOf parts := by
        rcases passes.prior with ⟨rest, split⟩
        rw [← split, List.drop_left] at written
        rw [← split, written, Policy.textOf]
      rcases Text.exists_stripChars text.toList with ⟨left, right, split, leading, trailing⟩
      rw [whole] at split
      exact ⟨parts, proper.collection, by rw [operation.1, String.toList_ofList], operation.2,
        proper.oneLine, whole ▸ passes.unmentioned, text, left, right, rfl, split, leading, trailing⟩
  | _ =>
      cases parsed

end Parts

/--
A command that is written of an identifier, an allowed operation and arguments on one line is
refused with the fault of the arguments if they cannot be read, refused for a denied keyword if
their value mentions one, and otherwise accepted with these parts and this value; and each command
that is accepted is written of such parts, in one way only.
-/
theorem parse_decomposes {members : Json.Members} {settings : Settings}
    (accepted : Settings.ofMembers members = .ok settings) :
    (∀ command parts operation, IsWrittenOf settings.policy command parts operation →
      (∀ fault, Argument.readChars settings.depthLimit parts.arguments = .error fault →
        parse settings.policy command = .error (.arguments fault)) ∧
      ∀ value, Argument.readChars settings.depthLimit parts.arguments = .ok value →
        (¬Denylist.AllClean settings.deniedKeywords value →
          ∃ keyword ∈ settings.deniedKeywords,
            parse settings.policy command = .error (.denied keyword)) ∧
        (Denylist.AllClean settings.deniedKeywords value →
          parse settings.policy command =
            .ok ⟨String.ofList parts.collection, operation, value⟩)) ∧
    ∀ command descriptor, parse settings.policy command = .ok descriptor →
      ∃! parts, ∃ operation, IsWrittenOf settings.policy command parts operation := by
  have rooted : settings.policy.HasRoot :=
    (Settings.ofMembers_eq_ok_iff.mp accepted).rootPrefix_starts
  constructor
  · intro command parts operation written
    constructor
    · intro fault unread
      rw [written.parse_eq rooted]
      exact written.reaches.refused unread
    · intro value read
      have parsed := written.parse_of_read rooted read
      constructor
      · intro unclean
        rw [← Denylist.mentionedIn?_eq_none_iff] at unclean
        rcases Option.ne_none_iff_exists'.mp unclean with ⟨keyword, mentioned⟩
        rcases Denylist.contains_of_mentionedIn? mentioned with ⟨text, -, found⟩
        refine ⟨keyword, Denylist.mem_of_mentioned? found, ?_⟩
        rw [parsed, show Denylist.mentionedIn? settings.policy.deniedKeywords value = _ from mentioned]
      · intro clean
        rw [parsed, show Denylist.mentionedIn? settings.policy.deniedKeywords value = none from
          Denylist.mentionedIn?_eq_none_iff.mpr clean]
  · intro command descriptor parsed
    rcases exists_isWrittenOf parsed with ⟨parts, written⟩
    exact ⟨parts, ⟨_, written⟩, fun others ⟨_, again⟩ => written.unique rooted again⟩

/-- A root prefix with a dot in it and blanks around it, and a denied keyword. -/
def dotted : Json.Members :=
  [("root_prefix", .string " a.b "), ("denied_keywords", .array [.string "drop"])]

theorem ofMembers_dotted :
    Settings.ofMembers dotted = .ok (Settings.forCommands "a.b" ["drop"]) := by
  refine Settings.ofMembers_eq_ok_iff.mpr (Settings.readFrom_forCommands ?_ rfl rfl)
  intro field notRoot notKeywords
  simp [dotted, Dictionary.get?, notRoot.symm, notKeywords.symm]

/-- Arguments that hold the marks of a command. -/
def findMarked : Parts :=
  ⟨"users".toList, "find".toList, "\x7ba: 'b).c(\\'',\x7d".toList⟩

theorem parse_marked_accepted :
    Settings.ofMembers dotted = .ok (Settings.forCommands "a.b" ["drop"]) ∧
      parse (Settings.forCommands "a.b" ["drop"]).policy
          (.string " a.b.users.find(\x7ba: 'b).c(\\'',\x7d)\n") =
        .ok ⟨"users", .find, .object [("a", .string "b).c('")]⟩ := by
  have written : IsWrittenOf (Settings.forCommands "a.b" ["drop"]).policy
      (.string " a.b.users.find(\x7ba: 'b).c(\\'',\x7d)\n") findMarked .find :=
    { collection := (spanName_eq_some
        (show spanName "users".toList = some ("users".toList, []) by decide)).2
      named := rfl
      allowed := by decide
      oneLine := by decide
      unmentioned := by decide +kernel
      spelled := ⟨_, [' '], ['\n'], rfl, by decide, List.forall_mem_singleton.mpr rfl,
        List.forall_mem_singleton.mpr rfl⟩ }
  have read : Argument.readChars 32 findMarked.arguments =
      .ok (.object [("a", .string "b).c('")]) := by
    simp only [findMarked, String.reduceToList]
    rfl
  have clean : Denylist.mentionedIn? ["drop"] (.object [("a", .string "b).c('")]) = none := by
    decide +kernel
  exact ⟨ofMembers_dotted, (((parse_decomposes ofMembers_dotted).1 _ _ _ written).2 _ read).2
    (Denylist.mentionedIn?_eq_none_iff.mp clean)⟩

end Command
end DocumentGate
