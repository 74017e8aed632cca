import DocumentGate.Proofs.RevisedDocuments
import DocumentGate.Proofs.UnreadFilters

/-!
# Booleans and numbers in matches

A document matches what is expected at a path, outright, as `$eq` or as an element of `$in`, when
nothing stands there and null is expected, or when what stands there, or an element that is
reached from it through lists, is equal to what is expected.  A boolean by itself is told from a
number.  Inside of a list or an object it is not: there the equality of values takes it for the
number one or zero.

So each match either tells booleans from numbers at every depth or confuses them somewhere inside,
and an operand that is no list and no object is matched by what is the same only.
-/

namespace DocumentGate

namespace Json

/-- What is the same is a boolean on both sides or on neither. -/
theorem isBoolean_eq_of_same {left right : Json} (alike : same left right = true) :
    left.isBoolean = right.isBoolean := by
  cases left <;> cases right <;> first | rfl | cases alike

end Json

namespace Filter

variable {found : Option Json} {value part operand : Json}

/-! ## What is reached through lists -/

/-- The value itself, or an element that is reached from it through lists. -/
inductive Reaches : Json → Json → Prop
  | itself (value : Json) : Reaches value value
  | element {element part : Json} {elements : List Json} (member : element ∈ elements)
      (further : Reaches element part) : Reaches (.array elements) part

/--
Something stands at a path that reaches what is like the operand.  Where the operand is a list it
is so as a whole.
-/
def HasLike (alike : Json → Json → Prop) (found : Option Json) (operand : Json) : Prop :=
  ∃ value ∈ found, ∃ part, Reaches value part ∧
    (∀ operands, operand = .array operands → part = value) ∧ alike part operand

/-- The values are equal, and both or neither of them is a boolean. -/
def EqualsOutside (part operand : Json) : Prop :=
  part.isBoolean = operand.isBoolean ∧ Json.equals part operand = true

/-- What is no list is looked at itself. -/
theorem hasLike_iff_of_noList {alike : Json → Json → Prop}
    (noList : ∀ elements, value ≠ .array elements) :
    HasLike alike (some value) operand ↔ alike value operand := by
  constructor
  · rintro ⟨_, isValue, part, reaches, -, met⟩
    obtain rfl := Option.some.inj isValue
    cases reaches with
    | itself => exact met
    | element => exact absurd rfl (noList _)
  · intro met
    exact ⟨value, rfl, value, .itself value, fun _ _ => rfl, met⟩

/-- Where the operand is no list, the elements are looked at instead of the list. -/
theorem hasLike_array_iff {elements : List Json} (noList : ∀ operands, operand ≠ .array operands) :
    HasLike EqualsOutside (some (.array elements)) operand ↔
      ∃ element ∈ elements, HasLike EqualsOutside (some element) operand := by
  have whole {value part : Json} : ∀ operands, operand = .array operands → part = value :=
    fun operands same => absurd same (noList operands)
  constructor
  · rintro ⟨value, isValue, part, reaches, -, agree, equal⟩
    obtain rfl := Option.some.inj isValue
    cases reaches with
    | itself =>
        cases operand <;> first | cases equal | exact absurd rfl (noList _)
    | element member further =>
        exact ⟨_, member, _, rfl, part, further, whole, agree, equal⟩
  · rintro ⟨element, member, value, isValue, part, reaches, -, alike⟩
    obtain rfl := Option.some.inj isValue
    exact ⟨_, rfl, part, .element member reaches, whole, alike⟩

mutual
/-- A value meets an operand if it reaches what is equal to that. -/
theorem meets_iff : ∀ {value operand : Json},
    meets value operand = true ↔ HasLike EqualsOutside (some value) operand
  | .array elements, operand => by
      by_cases list : ∃ operands, operand = .array operands
      · rcases list with ⟨operands, rfl⟩
        constructor
        · intro equal
          exact ⟨_, rfl, _, .itself _, fun _ _ => rfl, rfl, equal⟩
        · rintro ⟨value, isValue, part, -, whole, -, equal⟩
          obtain rfl := Option.some.inj isValue
          obtain rfl := whole operands rfl
          exact equal
      · have noList : ∀ operands, operand ≠ .array operands := fun operands same =>
          list ⟨operands, same⟩
        rw [hasLike_array_iff noList, ← anyMeets_iff]
        cases operand <;> first | rfl | exact absurd rfl (noList _)
  | .null, operand | .boolean _, operand | .number _, operand | .string _, operand
  | .object _, operand => by
      rw [hasLike_iff_of_noList (by rintro _ ⟨⟩), meets, Bool.and_eq_true, beq_iff_eq]
      · rfl
      · rintro _ ⟨⟩
termination_by structural value => value

theorem anyMeets_iff : ∀ {elements : List Json} {operand : Json},
    anyMeets elements operand = true ↔
      ∃ element ∈ elements, HasLike EqualsOutside (some element) operand
  | [], operand => by simp [anyMeets]
  | element :: rest, operand => by
      rw [anyMeets, Bool.or_eq_true, meets_iff, anyMeets_iff, List.exists_mem_cons_iff]
termination_by structural elements => elements
end

/-! ## Booleans that are told from numbers -/

/-- Nothing stands at a path and the operand is null, or what stands there reaches the same. -/
inductive Agrees (found : Option Json) (operand : Json) : Prop
  | missing (nothing : found = none) (null : operand = .null)
  | reached (same : HasLike (fun part operand => Json.same part operand = true) found operand)

/-- The values are equal, but booleans are confused with numbers inside of them. -/
def Mistakes (part operand : Json) : Prop :=
  EqualsOutside part operand ∧ Json.Confuses part operand

theorem equalsOutside_iff :
    EqualsOutside part operand ↔ Json.same part operand = true ∨ Mistakes part operand := by
  constructor
  · intro alike
    by_cases confused : Json.Confuses part operand
    · exact Or.inr ⟨alike, confused⟩
    · exact Or.inl (Json.same_iff.mpr ⟨alike.2, confused⟩)
  · rintro (same | mistaken)
    · exact ⟨Json.isBoolean_eq_of_same same, Json.equals_of_same same⟩
    · exact mistaken.1

theorem hasLike_or {first second : Json → Json → Prop} :
    HasLike (fun part operand => first part operand ∨ second part operand) found operand ↔
      HasLike first found operand ∨ HasLike second found operand := by
  simp only [HasLike, and_or_left, exists_or]

/-- What is no list and no object is mistaken for nothing. -/
theorem not_mistakes_of_plain (noList : ∀ elements, operand ≠ .array elements)
    (noObject : ∀ members, operand ≠ .object members) : ¬Mistakes part operand := by
  rintro ⟨⟨agree, -⟩, confused⟩
  cases confused with
  | boolean => cases agree
  | number => cases agree
  | element => exact noList _ rfl
  | member => exact noObject _ rfl

/-- What stands at a path is taken for the operand, rightly or by mistake. -/
def IsTaken (found : Option Json) (operand : Json) : Prop :=
  Agrees found operand ∨ HasLike Mistakes found operand

theorem isTaken_some_iff :
    IsTaken (some value) operand ↔ HasLike EqualsOutside (some value) operand := by
  have parts : EqualsOutside =
      fun part operand => Json.same part operand = true ∨ Mistakes part operand :=
    funext fun _ => funext fun _ => propext equalsOutside_iff
  rw [IsTaken, parts, hasLike_or]
  refine or_congr_left ⟨?_, .reached⟩
  rintro (⟨⟨⟩, -⟩ | same)
  exact same

theorem isTaken_none_iff : IsTaken none operand ↔ operand = .null := by
  constructor
  · rintro ((⟨-, null⟩ | ⟨_, ⟨⟩, -⟩) | ⟨_, ⟨⟩, -⟩)
    exact null
  · intro null
    exact Or.inl (.missing rfl null)

theorem foundMeets_iff : foundMeets found operand = true ↔ IsTaken found operand := by
  cases found with
  | none =>
      rw [isTaken_none_iff]
      cases operand <;> simp [foundMeets]
  | some value =>
      rw [isTaken_some_iff, foundMeets]
      exact meets_iff

/-! ## Matches -/

/-- There is an answer, and it is yes exactly where the condition holds. -/
def Answers (result : Except UnreadFault Bool) (condition : Prop) : Prop :=
  ∃ answer, result = .ok answer ∧ (answer = true ↔ condition)

/-- How a document answers to what is expected at a path. -/
structure AnswersAt (document : Document) (path : String) : Prop where
  expected : ∀ operand, operators? operand = none →
    Answers (matchesUnread document (.object [(path, operand)]))
      (IsTaken (document.lookup path) operand)
  equal : ∀ operand, Answers (matchesUnread document (.object [(path, .object [("$eq", operand)])]))
    (IsTaken (document.lookup path) operand)
  among : ∀ operand operands, operand.elements? = some operands →
    Answers (matchesUnread document (.object [(path, .object [("$in", operand)])]))
      (∃ operand ∈ operands, IsTaken (document.lookup path) operand)
  /-- Mistakes are made about lists and objects only. -/
  plain : ∀ operand, (∀ elements, operand ≠ .array elements) →
    (∀ members, operand ≠ .object members) →
      (IsTaken (document.lookup path) operand ↔ Agrees (document.lookup path) operand)

/--
A document answers to what is expected at a path by what it finds there, with booleans told from
numbers at every depth but for the mistakes that are made inside of lists and objects.
-/
theorem matchesUnread_answersAt {path : String} (isAnd : path ≠ "$and") (isOr : path ≠ "$or")
    (document : Document) : AnswersAt document path where
  expected operand plain := by
    refine ⟨foundMeets (document.lookup path) operand, ?_, foundMeets_iff⟩
    rw [matchesUnread_field isAnd isOr, fieldHoldsUnread, plain]
  equal operand := by
    refine ⟨foundMeets (document.lookup path) operand, ?_, foundMeets_iff⟩
    rw [matchesUnread_field isAnd isOr, fieldHoldsUnread_single rfl]
    rfl
  among operand operands listed := by
    refine ⟨operands.any (foundMeets (document.lookup path)), ?_, ?_⟩
    · rw [matchesUnread_field isAnd isOr, fieldHoldsUnread_single rfl]
      change meetsElement (document.lookup path) operand = _
      rw [meetsElement, listed]
    · simp only [List.any_eq_true, foundMeets_iff]
  plain operand noList noObject := by
    refine ⟨?_, Or.inl⟩
    rintro (agrees | ⟨_, -, _, -, -, mistaken⟩)
    · exact agrees
    · exact absurd mistaken (not_mistakes_of_plain noList noObject)

theorem nested_answersAt :
    "a.b" ≠ "$and" ∧ "a.b" ≠ "$or" ∧ AnswersAt [("a", .object [("b", .boolean true)])] "a.b" :=
  ⟨by decide, by decide, matchesUnread_answersAt (by decide) (by decide) _⟩

/-- A list of the number one matches where a list of `true` is expected. -/
theorem boolean_taken_for_number :
    operators? (.array [.boolean true]) = none ∧
      matchesUnread [("a", .array [.integer 1])] (.object [("a", .array [.boolean true])]) =
        .ok true ∧
      ¬Agrees (Document.lookup [("a", .array [.integer 1])] "a") (.array [.boolean true]) := by
  have found : Document.lookup [("a", .array [.integer 1])] "a" = some (.array [.integer 1]) := rfl
  refine ⟨rfl, by decide +kernel, ?_⟩
  rw [found]
  rintro (⟨⟨⟩, -⟩ | ⟨value, isValue, part, -, whole, same⟩)
  obtain rfl := Option.some.inj isValue
  obtain rfl := whole _ rfl
  revert same
  decide +kernel

end Filter
end DocumentGate
