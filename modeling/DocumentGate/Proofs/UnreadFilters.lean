import DocumentGate.Document.Unread
import DocumentGate.Proofs.FilterOutlines
import DocumentGate.Proofs.Results

/-!
# Filters put to documents without reading

A value that is put to a document as it is gets the answer of the filter that it is read as,
whenever it can be read.  So whatever is said of the one holds of the other.
-/

namespace DocumentGate.Filter

variable {document : Document} {found : Option Json}

/-! ## Tests -/

theorem passesUnread_of_read {operator : String} {operand : Json} {test : Test}
    (accepted : readTest operator operand = .ok test) :
    passesUnread found operator operand = .ok (passes found test) := by
  cases standsFor_of_readTest accepted <;> rfl

theorem passAllUnread_of_read {members : List (String × Json)} {tests : List Test}
    (accepted : (members.mapM fun (operator, operand) => readTest operator operand) = .ok tests) :
    passAllUnread found members = .ok (tests.all (passes found)) := by
  induction members generalizing tests with
  | nil =>
      obtain rfl := Except.ok.inj accepted
      rfl
  | cons first rest ih =>
      rw [List.mapM_cons] at accepted
      rcases cons_eq_ok accepted with ⟨test, others, read, further, rfl⟩
      rw [passAllUnread, passesUnread_of_read read, List.all_cons, ih further]
      cases passes found test <;> rfl

/-! ## Clauses -/

theorem fieldHoldsUnread_of_read {path : String} {expected : Json} {clause : Clause}
    (accepted : readField path expected = .ok clause) :
    fieldHoldsUnread document path expected = .ok (clauseHolds document clause) := by
  cases standsAt_of_readField accepted with
  | tests known read =>
      rw [fieldHoldsUnread, known]
      exact passAllUnread_of_read read
  | value plain =>
      rw [fieldHoldsUnread, plain]
      rfl

/-- A member is put to a document as its clause is, if the filters in it are. -/
theorem holdUnread_cons {key : String} {value : Json} {rest : List (String × Json)}
    {clause : Clause} (accepted : readClause key value = .ok clause)
    (inner : ∀ filters, readFilters key value = .ok filters →
      allMatchUnread document value = .ok (allHold document filters) ∧
        anyMatchesUnread document value = .ok (anyHolds document filters)) :
    holdUnread document ((key, value) :: rest) =
      if clauseHolds document clause then holdUnread document rest else .ok false := by
  unfold readClause at accepted
  rw [holdUnread]
  split_ifs at accepted with isAnd isOr isName
  · rcases map_eq_ok accepted with ⟨filters, read, rfl⟩
    rw [if_pos isAnd, (inner filters read).1]
    rfl
  · rcases map_eq_ok accepted with ⟨filters, read, rfl⟩
    rw [if_neg isAnd, if_pos isOr, (inner filters read).2]
    rfl
  · rw [if_neg isAnd, if_neg isOr, fieldHoldsUnread_of_read accepted]
    rfl

/-! ## Filters -/

mutual
/-- A value is put to a document as the filter that it is read as. -/
theorem matchesUnread_of_read : ∀ {value : Json} {filter : Filter}, read value = .ok filter →
    matchesUnread document value = .ok (filter.matches document)
  | .object members, filter, accepted => holdUnread_of_read accepted
  | .null, filter, accepted => by cases accepted
  | .boolean value, filter, accepted => by cases accepted
  | .number value, filter, accepted => by cases accepted
  | .string text, filter, accepted => by cases accepted
  | .array elements, filter, accepted => by cases accepted
termination_by structural value => value

theorem holdUnread_of_read : ∀ {members : List (String × Json)} {filter : Filter},
    readClauses members = .ok filter → holdUnread document members = .ok (holds document filter)
  | [], filter, accepted => by
      obtain rfl := Except.ok.inj accepted
      rfl
  | (key, value) :: rest, filter, accepted => by
      rw [readClauses_cons] at accepted
      rcases cons_eq_ok accepted with ⟨clause, clauses, read, further, rfl⟩
      rw [holdUnread_cons read fun filters => allMatchUnread_of_read, holds,
        holdUnread_of_read further]
      cases clauseHolds document clause <;> rfl
termination_by structural members => members

theorem allMatchUnread_of_read {connective : String} : ∀ {value : Json} {filters : List Filter},
    readFilters connective value = .ok filters →
      allMatchUnread document value = .ok (allHold document filters) ∧
        anyMatchesUnread document value = .ok (anyHolds document filters)
  | .array (first :: others), filters, accepted => by
      rcases cons_eq_ok accepted with ⟨filter, further, read, readFurther, rfl⟩
      have here := matchesUnread_of_read read
      have there := elementsMatchUnread_of_read readFurther
      rw [allMatchUnread, anyMatchesUnread, allElementsMatchUnread, anyElementMatchesUnread, here,
        there.1, there.2, allHold, anyHolds, Filter.matches]
      cases holds document filter <;> exact ⟨rfl, rfl⟩
  | .array [], filters, accepted => by cases accepted
  | .object members, filters, accepted => by cases accepted
  | .null, filters, accepted => by cases accepted
  | .boolean value, filters, accepted => by cases accepted
  | .number value, filters, accepted => by cases accepted
  | .string text, filters, accepted => by cases accepted
termination_by structural value => value

theorem elementsMatchUnread_of_read : ∀ {values : List Json} {filters : List Filter},
    readAll values = .ok filters →
      allElementsMatchUnread document values = .ok (allHold document filters) ∧
        anyElementMatchesUnread document values = .ok (anyHolds document filters)
  | [], filters, accepted => by
      obtain rfl := Except.ok.inj accepted
      exact ⟨rfl, rfl⟩
  | first :: others, filters, accepted => by
      rcases cons_eq_ok accepted with ⟨filter, further, read, readFurther, rfl⟩
      have here := matchesUnread_of_read read
      have there := elementsMatchUnread_of_read readFurther
      rw [allElementsMatchUnread, anyElementMatchesUnread, here, there.1, there.2, allHold,
        anyHolds, Filter.matches]
      cases holds document filter <;> exact ⟨rfl, rfl⟩
termination_by structural values => values
end

/-! ## One path -/

/-- A path that names no connective is put to a document by itself. -/
theorem matchesUnread_field {path : String} (isAnd : path ≠ "$and") (isOr : path ≠ "$or")
    (document : Document) (expected : Json) :
    matchesUnread document (.object [(path, expected)]) =
      fieldHoldsUnread document path expected := by
  rw [matchesUnread, holdUnread, if_neg isAnd, if_neg isOr]
  cases fieldHoldsUnread document path expected with
  | error fault =>
      rfl
  | ok result =>
      cases result <;> rfl

theorem fieldHoldsUnread_single {operator : String} (named : isOperatorName operator = true)
    (document : Document) (path : String) (operand : Json) :
    fieldHoldsUnread document path (.object [(operator, operand)]) =
      passesUnread (document.lookup path) operator operand := by
  have single : operators? (.object [(operator, operand)]) = some [(operator, operand)] := by
    simp [operators?, named]
  rw [fieldHoldsUnread, single]
  dsimp only [passAllUnread]
  cases passesUnread (document.lookup path) operator operand with
  | error fault =>
      rfl
  | ok result =>
      cases result <;> rfl

/-- A document is found by what is expected at a path, whether or not the filter is read first. -/
structure Finds (document : Document) (path : String) (expected : Json) : Prop where
  unread : path ≠ "$and" → path ≠ "$or" →
    matchesUnread document (.object [(path, expected)]) = .ok true
  read : isOperatorName path = false → ∃ filter,
    Filter.read (.object [(path, expected)]) = .ok filter ∧ filter.matches document = true

theorem finds_of_passes {operator path : String} {operand : Json} {test : Test}
    (named : isOperatorName operator = true) (accepted : readTest operator operand = .ok test)
    (passed : passes (document.lookup path) test = true) :
    Finds document path (.object [(operator, operand)]) where
  unread isAnd isOr := by
    rw [matchesUnread_field isAnd isOr, fieldHoldsUnread_single named,
      passesUnread_of_read accepted, passed]
  read plain := by
    have single : operators? (.object [(operator, operand)]) = some [(operator, operand)] := by
      simp [operators?, named]
    have isAnd : path ≠ "$and" := by
      rintro rfl
      cases plain
    have isOr : path ≠ "$or" := by
      rintro rfl
      cases plain
    refine ⟨[.tests path [test]], ?_, ?_⟩
    · rw [Filter.read, readClauses, if_neg isAnd, if_neg isOr, if_neg (Bool.not_eq_true _ ▸ plain),
        readField, single]
      dsimp only
      rw [List.mapM_cons, accepted]
      rfl
    · simp [Filter.matches, holds, clauseHolds, passed]

end DocumentGate.Filter
