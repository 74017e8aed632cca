import DocumentGate.Proofs.Results
import DocumentGate.Sql.Compile
import Mathlib.Data.List.Forall2

/-!
# Outlines of filters

The outline of a filter has one path in the place of all paths, and one operand in the place of
all operands of a class: null, a list, a value that has an order, or another one.  What a filter
asks for by presence is kept, and so is how many operands there are where one of them is to be
met.  Two filters have the same outline where they differ in nothing but their data.

A filter and its outline compile in step: after equally many parameters they come to the same
condition, and add equally many.
-/

namespace DocumentGate

namespace Filter

/-! ## Outlines -/

/-- The operand in the place of all of the same class. -/
def standIn : Json → Json
  | .null => .null
  | .array _ => .array []
  | .number _ => .integer 0
  | .string _ => .integer 0
  | _ => .boolean false

/-- The operand in the place of all of the same class, where there is no question of order. -/
def plainStandIn : Json → Json
  | .null => .null
  | .array _ => .array []
  | _ => .boolean false

/-- The operand of an operator that takes a list, without the data in it. -/
def outlineOperands : Json → Json
  | .array operands => .array (operands.map plainStandIn)
  | other => other

/-- The operand of an operator without its data. -/
def outlineOperand (operator : String) (operand : Json) : Json :=
  if operator = "$exists" then .boolean operand.holds
  else if operator = "$in" ∨ operator = "$nin" then outlineOperands operand
  else standIn operand

/-- What is expected at a path, without its data. -/
def outlineExpected (expected : Json) : Json :=
  match operators? expected with
  | some members =>
    .object (members.map fun (operator, operand) => (operator, outlineOperand operator operand))
  | none => standIn expected

mutual
/-- The value that stands for a filter, without the data of the filter. -/
def outline : Json → Json
  | .object members => .object (outlineMembers members)
  | value => value
termination_by structural value => value

/-- Each member without its data. -/
def outlineMembers : List (String × Json) → List (String × Json)
  | [] => []
  | (key, value) :: rest =>
    (if key = "$and" ∨ key = "$or" then (key, outlineFilters value)
      else if isOperatorName key then (key, value)
      else ("", outlineExpected value)) :: outlineMembers rest
termination_by structural members => members

/-- The filters that a connective combines, without their data. -/
def outlineFilters : Json → Json
  | .array filters => .array (outlineAll filters)
  | value => value
termination_by structural value => value

/-- Each filter without its data. -/
def outlineAll : List Json → List Json
  | [] => []
  | first :: others => outline first :: outlineAll others
termination_by structural filters => filters
end

end Filter

namespace Sql

/-! ## Compiling in step -/

/-- After equally many parameters the two have the same result, and add equally many. -/
def InStep {Result : Type} (first other : Compiling Result) : Prop :=
  ∀ before after : List Parameter, before.length = after.length →
    (first.run before).1 = (other.run after).1 ∧
      (first.run before).2.length = (other.run after).2.length

namespace InStep

variable {First Result : Type} {first other : Compiling First}
  {next further : First → Compiling Result}

theorem pure (result : Result) : InStep (Pure.pure result) (Pure.pure result) :=
  fun _ _ same => ⟨rfl, same⟩

theorem bind (step : InStep first other) (steps : ∀ result, InStep (next result) (further result)) :
    InStep (first >>= next) (other >>= further) := by
  intro before after same
  rcases step before after same with ⟨result, length⟩
  have last := steps (first.run before).1 _ _ length
  rw [show (other >>= further).run after =
    (further (first.run before).1).run (other.run after).2 by rw [result]; rfl]
  exact last

theorem mapM {Item : Type} {items others : List Item} {step : Item → Compiling Result}
    (each : List.Forall₂ (fun item other => InStep (step item) (step other)) items others) :
    InStep (items.mapM step) (others.mapM step) := by
  induction each with
  | nil =>
      exact .pure []
  | cons here _ ih =>
      rw [List.mapM_cons, List.mapM_cons]
      exact here.bind fun result => ih.bind fun results => .pure (result :: results)

theorem addParameter (parameter other : Parameter) :
    InStep (Sql.addParameter parameter) (Sql.addParameter other) := by
  intro before after same
  have length : (before ++ [parameter]).length = (after ++ [other]).length := by
    rw [List.length_append, List.length_append, same]
    rfl
  exact ⟨length, length⟩

theorem fieldAt (path other : String) : InStep (Sql.fieldAt path) (Sql.fieldAt other) :=
  (addParameter _ _).bind fun number => .pure (Term.field number)

theorem operandTerm (operand other : Json) :
    InStep (Sql.operandTerm operand) (Sql.operandTerm other) :=
  (addParameter _ _).bind fun number => .pure (Term.parameter number)

/-- Operands of one class are compared in the same way. -/
theorem equality (field : Term) (operand : Json) :
    InStep (Sql.equality field operand) (Sql.equality field (Filter.standIn operand)) := by
  cases operand with
  | null =>
      exact .pure _
  | _ =>
      exact (operandTerm _ _).bind fun value => .pure _

theorem plainEquality (field : Term) (operand : Json) :
    InStep (Sql.equality field operand) (Sql.equality field (Filter.plainStandIn operand)) := by
  cases operand with
  | null =>
      exact .pure _
  | _ =>
      exact (operandTerm _ _).bind fun value => .pure _

theorem equalsAny (field : Term) (operands : List Json) :
    InStep (Sql.equalsAny field operands)
      (Sql.equalsAny field (operands.map Filter.plainStandIn)) := by
  refine bind (mapM ?_) fun conditions => .pure (Condition.group (.disjunction conditions))
  rw [List.forall₂_map_right_iff, List.forall₂_same]
  exact fun operand _ => plainEquality field operand

theorem ordered (field : Term) (relation : Relation) (operand : Json) :
    InStep (compileTest field (.ordered relation operand))
      (compileTest field (.ordered relation (Filter.standIn operand))) := by
  cases operand with
  | number value =>
      exact (operandTerm _ _).bind fun value => .pure _
  | string text =>
      exact (operandTerm _ _).bind fun value => .pure _
  | _ =>
      exact .pure _

end InStep

/-- On every field the two tests compile in step. -/
def TestsInStep (test other : Test) : Prop :=
  ∀ field, InStep (compileTest field test) (compileTest field other)

theorem among_inStep (operands : List Json) :
    TestsInStep (.among operands) (.among (operands.map Filter.plainStandIn)) := by
  intro field
  cases operands with
  | nil =>
      exact .pure _
  | cons first rest =>
      exact .equalsAny field (first :: rest)

theorem notAmong_inStep (operands : List Json) :
    TestsInStep (.notAmong operands) (.notAmong (operands.map Filter.plainStandIn)) := by
  intro field
  cases operands with
  | nil =>
      exact .pure _
  | cons first rest =>
      exact (InStep.equalsAny field (first :: rest)).bind fun condition => .pure _

end Sql

namespace Filter

open Sql (InStep TestsInStep)

/-! ## Reading tests -/

/-- The operator and its operand stand for the test. -/
inductive StandsFor : String → Json → Test → Prop where
  | equal (operand : Json) : StandsFor "$eq" operand (.equal operand)
  | different (operand : Json) : StandsFor "$ne" operand (.different operand)
  | among (operands : List Json) : StandsFor "$in" (.array operands) (.among operands)
  | notAmong (operands : List Json) : StandsFor "$nin" (.array operands) (.notAmong operands)
  | present (operand : Json) : StandsFor "$exists" operand (.present operand.holds)
  | greater (operand : Json) : StandsFor "$gt" operand (.ordered .greater operand)
  | greaterOrEqual (operand : Json) : StandsFor "$gte" operand (.ordered .greaterOrEqual operand)
  | less (operand : Json) : StandsFor "$lt" operand (.ordered .less operand)
  | lessOrEqual (operand : Json) : StandsFor "$lte" operand (.ordered .lessOrEqual operand)

/-- Only known operators are read, and only lists where elements are called for. -/
theorem standsFor_of_readTest {operator : String} {operand : Json} {test : Test}
    (accepted : readTest operator operand = .ok test) : StandsFor operator operand test := by
  unfold readTest at accepted
  split at accepted
  · obtain rfl := Except.ok.inj accepted
    exact .equal operand
  · obtain rfl := Except.ok.inj accepted
    exact .different operand
  · cases operand with
    | array operands =>
        obtain rfl := Except.ok.inj accepted
        exact .among operands
    | _ =>
        cases accepted
  · cases operand with
    | array operands =>
        obtain rfl := Except.ok.inj accepted
        exact .notAmong operands
    | _ =>
        cases accepted
  · obtain rfl := Except.ok.inj accepted
    exact .present operand
  · split at accepted
    · rename_i relation known
      obtain rfl := Except.ok.inj accepted
      unfold relation? at known
      split at known <;>
        cases known <;>
        constructor
    · cases accepted

/-- What is expected at a path stands for the clause. -/
inductive StandsAt (path : String) (expected : Json) : Clause → Prop where
  | tests {members : Json.Members} {tests : List Test} (known : operators? expected = some members)
      (read : (members.mapM fun (operator, operand) => readTest operator operand) = .ok tests) :
      StandsAt path expected (.tests path tests)
  | value (plain : operators? expected = none) : StandsAt path expected (.value path expected)

/-- An object of operators is read test by test, and anything else is a value. -/
theorem standsAt_of_readField {path : String} {expected : Json} {clause : Clause}
    (accepted : readField path expected = .ok clause) : StandsAt path expected clause := by
  unfold readField at accepted
  split at accepted
  · rename_i members known
    rcases bind_eq_ok accepted with ⟨tests, read, same⟩
    obtain rfl := Except.ok.inj same
    exact .tests known read
  · rename_i plain
    obtain rfl := Except.ok.inj accepted
    exact .value plain

/-! ## Reading outlines -/

theorem readTest_outline {operator : String} {operand : Json} {test : Test}
    (accepted : readTest operator operand = .ok test) :
    ∃ drawn, readTest operator (outlineOperand operator operand) = .ok drawn ∧
      TestsInStep test drawn := by
  cases standsFor_of_readTest accepted with
  | equal =>
      exact ⟨_, rfl, fun field => .equality field operand⟩
  | different =>
      exact ⟨_, rfl, fun field => (InStep.equality field operand).bind fun condition => .pure _⟩
  | among operands =>
      exact ⟨_, rfl, Sql.among_inStep operands⟩
  | notAmong operands =>
      exact ⟨_, rfl, Sql.notAmong_inStep operands⟩
  | present =>
      exact ⟨_, rfl, fun field => .pure _⟩
  | greater | greaterOrEqual | less | lessOrEqual =>
      exact ⟨.ordered _ (standIn operand), rfl, fun field => .ordered field _ operand⟩

/-- Tests of one outline compile in step, on fields of their own. -/
theorem readTests_outline {members : Json.Members} {tests : List Test}
    (accepted : (members.mapM fun (operator, operand) => readTest operator operand) = .ok tests) :
    ∃ drawn, ((members.map fun (operator, operand) =>
        (operator, outlineOperand operator operand)).mapM fun (operator, operand) =>
          readTest operator operand) = .ok drawn ∧ List.Forall₂ TestsInStep tests drawn := by
  induction members generalizing tests with
  | nil =>
      obtain rfl := Except.ok.inj accepted
      exact ⟨[], rfl, .nil⟩
  | cons member rest ih =>
      rcases member with ⟨operator, operand⟩
      rw [List.mapM_cons] at accepted
      rcases cons_eq_ok accepted with ⟨test, others, read, further, rfl⟩
      rcases readTest_outline read with ⟨drawn, readDrawn, step⟩
      rcases ih further with ⟨drawnOthers, readOthers, steps⟩
      refine ⟨drawn :: drawnOthers, ?_, .cons step steps⟩
      rw [List.map_cons, List.mapM_cons]
      dsimp only
      rw [readDrawn, readOthers]
      rfl

theorem operators?_outline {expected : Json} {members : Json.Members}
    (found : operators? expected = some members) :
    operators? (outlineExpected expected) = some (members.map fun (operator, operand) =>
      (operator, outlineOperand operator operand)) := by
  rw [outlineExpected, found]
  cases expected with
  | object given =>
      cases given with
      | nil =>
          cases found
      | cons first rest =>
          have all := (Option.ite_none_right_eq_some.mp found).1
          obtain rfl := Option.some.inj (Option.ite_none_right_eq_some.mp found).2
          refine if_pos ?_
          rw [List.all_map]
          exact all
  | _ =>
      cases found

theorem readField_outline {path : String} {expected : Json} {clause : Clause}
    (accepted : readField path expected = .ok clause) :
    ∃ drawn, readField "" (outlineExpected expected) = .ok drawn ∧
      InStep (Sql.compileClause clause) (Sql.compileClause drawn) := by
  cases standsAt_of_readField accepted with
  | tests known read =>
      rcases readTests_outline read with ⟨drawn, readDrawn, steps⟩
      refine ⟨.tests "" drawn, ?_, ?_⟩
      · rw [readField, operators?_outline known]
        dsimp only
        rw [readDrawn]
        rfl
      · refine (InStep.fieldAt path "").bind fun field => .mapM ?_
        exact steps.imp fun _ _ step => step field
  | value plain =>
      have drawn : outlineExpected expected = standIn expected := by
        rw [outlineExpected, plain]
      refine ⟨.value "" (standIn expected), ?_, ?_⟩
      · rw [drawn, readField]
        cases expected <;> rfl
      · exact (InStep.fieldAt path "").bind fun field =>
          (InStep.equality field expected).bind fun condition => .pure _

/-- The clause of a member. -/
def readClause (key : String) (value : Json) : Except Fault Clause :=
  if key = "$and" then (readFilters key value).map .all
  else if key = "$or" then (readFilters key value).map .any
  else if isOperatorName key then throw (.unknownOperator key)
  else readField key value

theorem readClauses_cons (key : String) (value : Json) (rest : Json.Members) :
    readClauses ((key, value) :: rest) = (do
      let clause ← readClause key value
      let clauses ← readClauses rest
      return clause :: clauses) := by
  rw [readClauses, readClause]
  split_ifs <;> rfl

/-- The key of a member, and its value without data. -/
def outlineMember (key : String) (value : Json) : String × Json :=
  if key = "$and" ∨ key = "$or" then (key, outlineFilters value)
  else if isOperatorName key then (key, value)
  else ("", outlineExpected value)

theorem outlineMembers_cons (key : String) (value : Json) (rest : Json.Members) :
    outlineMembers ((key, value) :: rest) = outlineMember key value :: outlineMembers rest :=
  rfl

/-- A member compiles in step with its outline, if the filters in it do. -/
theorem readClause_outline {key : String} {value : Json} {clause : Clause}
    (accepted : readClause key value = .ok clause)
    (inner : ∀ filters, readFilters key value = .ok filters →
      ∃ drawn, readFilters key (outlineFilters value) = .ok drawn ∧
        InStep (Sql.compileAll filters) (Sql.compileAll drawn)) :
    ∃ drawn, readClause (outlineMember key value).1 (outlineMember key value).2 = .ok drawn ∧
      InStep (Sql.compileClause clause) (Sql.compileClause drawn) := by
  unfold readClause at accepted
  split_ifs at accepted with isAnd isOr isName
  · rcases map_eq_ok accepted with ⟨filters, read, rfl⟩
    rcases inner filters read with ⟨drawn, readDrawn, step⟩
    refine ⟨.all drawn, ?_, step.bind fun conditions => .pure _⟩
    rw [outlineMember, if_pos (.inl isAnd), readClause, if_pos isAnd, readDrawn]
    rfl
  · rcases map_eq_ok accepted with ⟨filters, read, rfl⟩
    rcases inner filters read with ⟨drawn, readDrawn, step⟩
    refine ⟨.any drawn, ?_, step.bind fun conditions => .pure _⟩
    rw [outlineMember, if_pos (.inr isOr), readClause, if_neg isAnd, if_pos isOr, readDrawn]
    rfl
  · rcases readField_outline accepted with ⟨drawn, readDrawn, step⟩
    refine ⟨drawn, ?_, step⟩
    rw [outlineMember, if_neg (not_or.mpr ⟨isAnd, isOr⟩), if_neg isName]
    -- No path is left, and the empty one is the name of no operator.
    exact readDrawn

mutual
/-- A filter compiles in step with its outline. -/
theorem read_outline : ∀ {value : Json} {filter : Filter}, read value = .ok filter →
    ∃ drawn, read (outline value) = .ok drawn ∧
      InStep (Sql.compileClauses filter) (Sql.compileClauses drawn)
  | .object members, filter, accepted => readClauses_outline accepted
  | .null, filter, accepted => by cases accepted
  | .boolean value, filter, accepted => by cases accepted
  | .number value, filter, accepted => by cases accepted
  | .string text, filter, accepted => by cases accepted
  | .array elements, filter, accepted => by cases accepted
termination_by structural value => value

theorem readClauses_outline : ∀ {members : List (String × Json)} {filter : Filter},
    readClauses members = .ok filter →
      ∃ drawn, readClauses (outlineMembers members) = .ok drawn ∧
        InStep (Sql.compileClauses filter) (Sql.compileClauses drawn)
  | [], filter, accepted => by
      obtain rfl := Except.ok.inj accepted
      exact ⟨[], rfl, .pure []⟩
  | (key, value) :: rest, filter, accepted => by
      rw [readClauses_cons] at accepted
      rcases cons_eq_ok accepted with ⟨clause, clauses, read, further, rfl⟩
      rcases readClause_outline read fun filters => readFilters_outline with
        ⟨drawn, readDrawn, step⟩
      rcases readClauses_outline further with ⟨drawnClauses, readClauses, steps⟩
      refine ⟨drawn :: drawnClauses, ?_, ?_⟩
      · rw [outlineMembers_cons, readClauses_cons, readDrawn, readClauses]
        rfl
      · exact step.bind fun first => steps.bind fun others => .pure (first ++ others)
termination_by structural members => members

theorem readFilters_outline {connective : String} : ∀ {value : Json} {filters : List Filter},
    readFilters connective value = .ok filters →
      ∃ drawn, readFilters connective (outlineFilters value) = .ok drawn ∧
        InStep (Sql.compileAll filters) (Sql.compileAll drawn)
  | .array (first :: others), filters, accepted => by
      rcases cons_eq_ok accepted with ⟨filter, further, read, readFurther, rfl⟩
      rcases read_outline read with ⟨drawn, readDrawn, step⟩
      rcases readAll_outline readFurther with ⟨drawnOthers, readOthers, steps⟩
      refine ⟨drawn :: drawnOthers, ?_, ?_⟩
      · rw [outlineFilters, outlineAll, readFilters, readDrawn, readOthers]
        rfl
      · exact step.bind fun conditions => steps.bind fun others => .pure _
  | .array [], filters, accepted => by cases accepted
  | .object members, filters, accepted => by cases accepted
  | .null, filters, accepted => by cases accepted
  | .boolean value, filters, accepted => by cases accepted
  | .number value, filters, accepted => by cases accepted
  | .string text, filters, accepted => by cases accepted
termination_by structural value => value

theorem readAll_outline : ∀ {values : List Json} {filters : List Filter},
    readAll values = .ok filters →
      ∃ drawn, readAll (outlineAll values) = .ok drawn ∧
        InStep (Sql.compileAll filters) (Sql.compileAll drawn)
  | [], filters, accepted => by
      obtain rfl := Except.ok.inj accepted
      exact ⟨[], rfl, .pure []⟩
  | first :: others, filters, accepted => by
      rcases cons_eq_ok accepted with ⟨filter, further, read, readFurther, rfl⟩
      rcases read_outline read with ⟨drawn, readDrawn, step⟩
      rcases readAll_outline readFurther with ⟨drawnOthers, readOthers, steps⟩
      refine ⟨drawn :: drawnOthers, ?_, ?_⟩
      · rw [outlineAll, readAll, readDrawn, readOthers]
        rfl
      · exact step.bind fun conditions => steps.bind fun others => .pure _
termination_by structural values => values
end

end Filter

end DocumentGate
