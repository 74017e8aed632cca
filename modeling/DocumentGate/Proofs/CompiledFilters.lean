import DocumentGate.Proofs.ConditionMeaning

/-!
# Compiled filters

A filter compiles to a condition that is true or false of every document.  Compiling only adds
parameters, so that what a condition means does not change when further conditions are
compiled after it.  The condition is true where the filter holds, each of its tests answered
by binary JSON.
-/

namespace DocumentGate.Sql

/-! ## The tests of a filter -/

mutual
/-- The clause holds where each of its tests is answered as given. -/
def clauseHoldsBy (answer : String → Test → Bool) : Clause → Bool
  | .all filters => allHoldBy answer filters
  | .any filters => anyHoldsBy answer filters
  | .value path expected => answer path (.equal expected)
  | .tests path tests => tests.all (answer path)
termination_by structural clause => clause

/-- Every clause holds. -/
def holdsBy (answer : String → Test → Bool) : List Clause → Bool
  | [] => true
  | clause :: rest => clauseHoldsBy answer clause && holdsBy answer rest
termination_by structural clauses => clauses

/-- Every filter holds. -/
def allHoldBy (answer : String → Test → Bool) : List (List Clause) → Bool
  | [] => true
  | filter :: rest => holdsBy answer filter && allHoldBy answer rest
termination_by structural filters => filters

/-- Some filter holds. -/
def anyHoldsBy (answer : String → Test → Bool) : List (List Clause) → Bool
  | [] => false
  | filter :: rest => holdsBy answer filter || anyHoldsBy answer rest
termination_by structural filters => filters
end

mutual
/-- The tests of a clause, each with its path. -/
def clauseTests : Clause → List (String × Test)
  | .all filters => testsOfAll filters
  | .any filters => testsOfAll filters
  | .value path expected => [(path, .equal expected)]
  | .tests path tests => tests.map fun test => (path, test)
termination_by structural clause => clause

/-- The tests of clauses. -/
def testsOf : List Clause → List (String × Test)
  | [] => []
  | clause :: rest => clauseTests clause ++ testsOf rest
termination_by structural clauses => clauses

/-- The tests of filters. -/
def testsOfAll : List (List Clause) → List (String × Test)
  | [] => []
  | filter :: rest => testsOf filter ++ testsOfAll rest
termination_by structural filters => filters
end

/-- The operands that a test compares for equality. -/
def equalities : Test → List Json
  | .equal operand => [operand]
  | .different operand => [operand]
  | .among operands => operands
  | .notAmong operands => operands
  | _ => []

/-- All operands of a test. -/
def operands : Test → List Json
  | .ordered _ operand => [operand]
  | test => equalities test

section Answers

variable {answer : String → Test → Bool} {document : Document}

/-- The answers are those of the document. -/
def Agrees (answer : String → Test → Bool) (document : Document)
    (tests : List (String × Test)) : Prop :=
  ∀ path test, (path, test) ∈ tests → answer path test = Filter.passes (document.lookup path) test

mutual
theorem clauseHoldsBy_eq : ∀ {clause : Clause}, Agrees answer document (clauseTests clause) →
    clauseHoldsBy answer clause = Filter.clauseHolds document clause
  | .all filters, agrees => allHoldBy_eq agrees
  | .any filters, agrees => anyHoldsBy_eq agrees
  | .value path expected, agrees => agrees path _ List.mem_cons_self
  | .tests path tests, agrees => by
      rw [clauseHoldsBy, Filter.clauseHolds]
      rw [Bool.eq_iff_iff, List.all_eq_true, List.all_eq_true]
      apply forall₂_congr
      intro test member
      rw [agrees path test (List.mem_map_of_mem member)]
termination_by structural clause => clause

theorem holdsBy_eq : ∀ {filter : List Clause}, Agrees answer document (testsOf filter) →
    holdsBy answer filter = Filter.holds document filter
  | [], _ => rfl
  | clause :: rest, agrees => by
      rw [holdsBy, Filter.holds,
        clauseHoldsBy_eq fun path test member => agrees path test (List.mem_append_left _ member),
        holdsBy_eq fun path test member => agrees path test (List.mem_append_right _ member)]
termination_by structural filter => filter

theorem allHoldBy_eq : ∀ {filters : List (List Clause)},
    Agrees answer document (testsOfAll filters) →
      allHoldBy answer filters = Filter.allHold document filters
  | [], _ => rfl
  | filter :: rest, agrees => by
      rw [allHoldBy, Filter.allHold,
        holdsBy_eq fun path test member => agrees path test (List.mem_append_left _ member),
        allHoldBy_eq fun path test member => agrees path test (List.mem_append_right _ member)]
termination_by structural filters => filters

theorem anyHoldsBy_eq : ∀ {filters : List (List Clause)},
    Agrees answer document (testsOfAll filters) →
      anyHoldsBy answer filters = Filter.anyHolds document filters
  | [], _ => rfl
  | filter :: rest, agrees => by
      rw [anyHoldsBy, Filter.anyHolds,
        holdsBy_eq fun path test member => agrees path test (List.mem_append_left _ member),
        anyHoldsBy_eq fun path test member => agrees path test (List.mem_append_right _ member)]
termination_by structural filters => filters
end

end Answers

/-! ## Compiling in steps -/

/--
The computation only adds parameters, and its result has the property with the parameters that
were there before, those that it adds and any that are added later.
-/
def Compiles {Result : Type} (computation : Compiling Result)
    (holds : List Parameter → Result → Prop) : Prop :=
  ∀ before, ∃ added, (computation.run before).2 = before ++ added ∧
    ∀ later, holds (before ++ added ++ later) (computation.run before).1

namespace Compiles

variable {First Result : Type} {holds : List Parameter → Result → Prop}

theorem pure {result : Result} (all : ∀ parameters, holds parameters result) :
    Compiles (Pure.pure result) holds := by
  intro before
  exact ⟨[], (List.append_nil before).symm, fun later => all _⟩

theorem mono {computation : Compiling Result} {stronger : List Parameter → Result → Prop}
    (compiles : Compiles computation stronger)
    (weaker : ∀ parameters result, stronger parameters result → holds parameters result) :
    Compiles computation holds := by
  intro before
  rcases compiles before with ⟨added, after, property⟩
  exact ⟨added, after, fun later => weaker _ _ (property later)⟩

theorem bind {first : Compiling First} {next : First → Compiling Result}
    {between : List Parameter → First → Prop} (compiles : Compiles first between)
    (further : ∀ result, Compiles (next result) fun parameters last =>
      between parameters result → holds parameters last) : Compiles (first >>= next) holds := by
  intro before
  rcases compiles before with ⟨added, after, property⟩
  rcases further (first.run before).1 (before ++ added) with ⟨others, afterAll, last⟩
  have ran : (first >>= next).run before = (next (first.run before).1).run (before ++ added) := by
    rw [← after]
    rfl
  refine ⟨added ++ others, by rw [ran, afterAll, List.append_assoc], ?_⟩
  intro later
  have kept := last later (by
    have between := property (others ++ later)
    rwa [← List.append_assoc] at between)
  rw [ran, ← List.append_assoc before]
  exact kept

/-- What is made of a result adds nothing. -/
theorem map {first : Compiling First} {make : First → Result}
    {between : List Parameter → First → Prop} (compiles : Compiles first between)
    (made : ∀ parameters result, between parameters result → holds parameters (make result)) :
    Compiles (do return make (← first)) holds := by
  intro before
  rcases compiles before with ⟨added, after, property⟩
  exact ⟨added, after, fun later => made _ _ (property later)⟩

theorem addParameter (parameter : Parameter) :
    Compiles (Sql.addParameter parameter) fun parameters number =>
      parameterAt? parameters number = some parameter := by
  intro before
  refine ⟨[parameter], rfl, ?_⟩
  intro later
  show parameterAt? (before ++ [parameter] ++ later) (before ++ [parameter]).length = _
  rw [List.length_append, List.length_singleton, parameterAt?, List.append_assoc,
    List.getElem?_append_right (Nat.le_refl _), Nat.sub_self]
  rfl

end Compiles

/-! ## Tests in statements -/

/-- What stands at a path meets an operand as binary JSON. -/
def meetsAsJson : Option Json → Json → Bool
  | none, .null => true
  | none, _ => false
  | some value, .null => sameValue value .null
  | some value, .array elements => sameValue value (.array elements)
  | some (.array elements), operand => elements.any fun element => contains element operand
  | some value, operand => sameValue value operand

/-- What stands at a path passes a test of binary JSON. -/
def passesAsJson (found : Option Json) : Test → Bool
  | .equal operand => meetsAsJson found operand
  | .different operand => !meetsAsJson found operand
  | .ordered relation operand => Filter.relates relation found operand
  | .among operands => operands.any (meetsAsJson found)
  | .notAmong operands => !operands.any (meetsAsJson found)
  | .present wanted => found.isSome == wanted

/-- The operand comes back from the text that it is sent as. -/
def Engine.Reads (engine : Engine) (operand : Json) : Prop :=
  engine.parse (Json.text operand) = some operand

section Tests

variable {engine : Engine} {document : Json} {found : Option Json} {field : Term}

/-- The term stands for what is found, if anything is. -/
def IsFound (engine : Engine) (document : Json) (field : Term) (found : Option Json)
    (parameters : List Parameter) : Prop :=
  field.value? engine document parameters = found.map .json

theorem Compiles.fieldAt (engine : Engine) (document : Json) (path : String) :
    Compiles (Sql.fieldAt path) fun parameters field =>
      IsFound engine document field (engine.extract document (Document.segments path))
        parameters := by
  apply Compiles.bind (Compiles.addParameter _)
  intro number
  apply Compiles.pure
  intro parameters isPath
  rw [IsFound, Term.value?, isPath]

theorem Compiles.operandTerm (document : Json) {operand : Json} (reads : engine.Reads operand) :
    Compiles (Sql.operandTerm operand) fun parameters term =>
      term.value? engine document parameters = some (.json operand) := by
  apply Compiles.bind (Compiles.addParameter _)
  intro number
  apply Compiles.pure
  intro parameters isText
  rw [Term.value?, isText]
  show (engine.parse (Json.text operand)).map Datum.json = _
  rw [show engine.parse (Json.text operand) = some operand from reads]
  rfl

/-- An operand that is neither null nor a list is also looked for in a list. -/
theorem meetsAsJson_some (engine : Engine) {value operand : Json} (notNull : operand ≠ .null)
    (noList : ∀ elements, operand ≠ .array elements) :
    meetsAsJson (some value) operand =
      (sameValue value operand ||
        (typeName value == "array" &&
          engine.compareValues .contains value (.array [operand]))) := by
  have plain : ∀ elements, sameValue (.array elements) operand = false := by
    intro elements
    cases operand with
    | array others =>
        exact absurd rfl (noList others)
    | _ =>
        rfl
  cases value with
  | array elements =>
      rw [meetsAsJson, plain]
      · simp [typeName, Engine.compareValues, contains, containsElements, hasElement]
      · exact notNull
      · exact noList
  | _ =>
      rw [meetsAsJson]
      · simp [typeName]
      · simp
      · exact notNull
      · exact noList

theorem eval_equality {value : Term} {operand : Json} {parameters : List Parameter}
    (notNull : operand ≠ .null) (noList : ∀ elements, operand ≠ .array elements)
    (isFound : IsFound engine document field found parameters)
    (isOperand : value.value? engine document parameters = some (.json operand)) :
    (Condition.orFalse (.either (.compare .equal field value)
      (.group (.both (.compare .equal (.typeOf field) .arrayType)
        (.compare .contains field (.listOf value)))))).eval engine document parameters =
      some (meetsAsJson found operand) := by
  unfold IsFound at isFound
  cases found with
  | none =>
      have absent : meetsAsJson none operand = false := by
        rw [meetsAsJson]
        exact notNull
      simp only [Condition.eval, Term.value?, isFound, isOperand, absent]
      rfl
  | some actual =>
      rw [meetsAsJson_some engine notNull noList]
      simp only [Condition.eval, Term.value?, isFound, isOperand, Option.map_some, conjoin_some,
        disjoin_some]
      rfl

/-- The condition of an equality is true where what is found meets the operand. -/
theorem Compiles.equality {operand : Json} (reads : engine.Reads operand) :
    Compiles (Sql.equality field operand) fun parameters condition =>
      IsFound engine document field found parameters →
        condition.eval engine document parameters = some (meetsAsJson found operand) := by
  have other : operand ≠ .null → (∀ elements, operand ≠ .array elements) →
      Compiles (Sql.equality field operand) fun parameters condition =>
        IsFound engine document field found parameters →
          condition.eval engine document parameters = some (meetsAsJson found operand) := by
    intro notNull noList
    rw [Sql.equality]
    · apply Compiles.bind (Compiles.operandTerm document reads)
      intro value
      apply Compiles.pure
      intro parameters isOperand isFound
      exact eval_equality notNull noList isFound isOperand
    · exact notNull
    · exact noList
  cases operand with
  | null =>
      apply Compiles.pure
      intro parameters isFound
      unfold IsFound at isFound
      cases found with
      | none =>
          simp only [Condition.eval, Term.value?, isFound]
          rfl
      | some actual =>
          simp only [Condition.eval, Term.value?, isFound, Option.map_some, disjoin_some]
          rfl
  | array elements =>
      apply Compiles.bind (Compiles.operandTerm document reads)
      intro value
      apply Compiles.pure
      intro parameters isOperand isFound
      unfold IsFound at isFound
      cases found with
      | none =>
          simp only [Condition.eval, isFound, isOperand]
          rfl
      | some actual =>
          simp only [Condition.eval, isFound, isOperand, Option.map_some]
          rfl
  | _ =>
      exact other (by simp) (by simp)

/-- Conditions that are compiled one by one are true or false one by one. -/
theorem Compiles.mapM {α : Type} {items : List α} {compileOne : α → Compiling Condition}
    {given : List Parameter → Prop} {value : α → Bool}
    (each : ∀ item ∈ items, Compiles (compileOne item) fun parameters condition =>
      given parameters → condition.eval engine document parameters = some (value item)) :
    Compiles (items.mapM compileOne) fun parameters conditions =>
      given parameters → Evaluates engine document parameters conditions (items.map value) := by
  induction items with
  | nil =>
      rw [List.mapM_nil]
      apply Compiles.pure
      intro parameters holds
      rfl
  | cons first rest ih =>
      rw [List.forall_mem_cons] at each
      rw [List.mapM_cons]
      apply Compiles.bind each.1
      intro condition
      apply Compiles.bind (ih each.2)
      intro conditions
      apply Compiles.pure
      intro parameters further evaluated holds
      rw [Evaluates, List.map_cons, evaluated holds, show conditions.map _ = _ from further holds]
      rfl

theorem Compiles.equalsAny {operands : List Json}
    (reads : ∀ operand ∈ operands, engine.Reads operand) :
    Compiles (Sql.equalsAny field operands) fun parameters condition =>
      IsFound engine document field found parameters →
        condition.eval engine document parameters = some (operands.any (meetsAsJson found)) := by
  apply Compiles.bind (Compiles.mapM fun operand member => Compiles.equality (reads operand member))
  intro conditions
  apply Compiles.pure
  intro parameters evaluated isFound
  rw [Condition.eval, (evaluated isFound).disjunction]
  simp

theorem Compiles.negation {compiled : Compiling Condition} {given : List Parameter → Prop}
    {value : Bool} (compiles : Compiles compiled fun parameters condition =>
      given parameters → condition.eval engine document parameters = some value) :
    Compiles (do return Condition.negation (← compiled)) fun parameters condition =>
      given parameters → condition.eval engine document parameters = some !value := by
  apply Compiles.bind compiles
  intro condition
  apply Compiles.pure
  intro parameters evaluated holds
  rw [Condition.eval, evaluated holds]
  rfl

/-- The condition of an order is true where what is found is of the same kind and in it. -/
theorem eval_ordered {value : Term} {relation : Relation} {operand : Json}
    {parameters : List Parameter} (orderable : isOrderable operand = true)
    (isFound : IsFound engine document field found parameters)
    (isOperand : value.value? engine document parameters = some (.json operand)) :
    (Condition.orFalse (.both (.compare .equal (.typeOf field) (.typeOf value))
      (.compare (comparisonOf relation) field value))).eval engine document parameters =
      some (Filter.relates relation found operand) := by
  unfold IsFound at isFound
  cases found with
  | none =>
      simp only [Condition.eval, Term.value?, isFound, isOperand]
      rfl
  | some actual =>
      simp only [Condition.eval, Term.value?, isFound, isOperand, Option.map_some, conjoin_some]
      have related : ∀ left right, engine.compareData (comparisonOf relation) (.json left)
          (.json right) = engine.relates relation left right := by
        cases relation <;> intro left right <;> rfl
      rw [related]
      cases operand with
      | number right =>
          cases actual <;> simp [Engine.compareData, typeName, Engine.relates, Filter.relates]
      | string right =>
          cases actual <;> simp [Engine.compareData, typeName, Engine.relates, Filter.relates]
      | _ =>
          cases orderable

/-- The condition of a test is true where what is found passes the test of binary JSON. -/
theorem Compiles.compileTest {test : Test}
    (reads : ∀ operand ∈ operands test, engine.Reads operand) :
    Compiles (Sql.compileTest field test) fun parameters condition =>
      IsFound engine document field found parameters →
        condition.eval engine document parameters = some (passesAsJson found test) := by
  cases test with
  | equal operand =>
      exact Compiles.equality (reads operand List.mem_cons_self)
  | different operand =>
      exact Compiles.negation (Compiles.equality (reads operand List.mem_cons_self))
  | present wanted =>
      apply Compiles.pure
      intro parameters isFound
      unfold IsFound at isFound
      cases wanted <;>
        cases found <;>
        simp only [Condition.eval, isFound, if_true, if_false, Bool.false_eq_true] <;>
        rfl
  | among operands =>
      cases operands with
      | nil =>
          exact Compiles.pure fun parameters isFound => rfl
      | cons first rest =>
          exact Compiles.equalsAny reads
  | notAmong operands =>
      cases operands with
      | nil =>
          exact Compiles.pure fun parameters isFound => rfl
      | cons first rest =>
          exact Compiles.negation (Compiles.equalsAny reads)
  | ordered relation operand =>
      rw [Sql.compileTest]
      split
      · rename_i orderable
        apply Compiles.bind (Compiles.operandTerm document (reads operand List.mem_cons_self))
        intro value
        apply Compiles.pure
        intro parameters isOperand isFound
        exact eval_ordered orderable isFound isOperand
      · rename_i unordered
        apply Compiles.pure
        intro parameters isFound
        rw [Condition.eval, passesAsJson]
        cases operand with
        | number right =>
            exact absurd rfl unordered
        | string right =>
            exact absurd rfl unordered
        | _ =>
            cases found with
            | none =>
                rfl
            | some actual =>
                cases actual <;> rfl

end Tests

/-! ## Filters in statements -/

/-- The answer that binary JSON has to a test at a path. -/
def answerAsJson (engine : Engine) (document : Json) (path : String) (test : Test) : Bool :=
  passesAsJson (engine.extract document (Document.segments path)) test

/-- The operands of the tests come back from the texts that they are sent as. -/
def Engine.ReadsAll (engine : Engine) (tests : List (String × Test)) : Prop :=
  ∀ path test, (path, test) ∈ tests → ∀ operand ∈ operands test, engine.Reads operand

theorem Engine.ReadsAll.append {engine : Engine} {tests others : List (String × Test)}
    (reads : engine.ReadsAll (tests ++ others)) :
    engine.ReadsAll tests ∧ engine.ReadsAll others :=
  ⟨fun path test member => reads path test (List.mem_append_left _ member),
    fun path test member => reads path test (List.mem_append_right _ member)⟩

theorem allHoldBy_eq_all (answer : String → Test → Bool) (filters : List (List Clause)) :
    allHoldBy answer filters = (filters.map (holdsBy answer)).all id := by
  induction filters with
  | nil =>
      rfl
  | cons filter rest ih =>
      rw [allHoldBy, ih]
      rfl

theorem anyHoldsBy_eq_any (answer : String → Test → Bool) (filters : List (List Clause)) :
    anyHoldsBy answer filters = (filters.map (holdsBy answer)).any id := by
  induction filters with
  | nil =>
      rfl
  | cons filter rest ih =>
      rw [anyHoldsBy, ih]
      rfl

section Filters

variable {engine : Engine} {document : Json}

/-- The conditions are true or false, and all of them are true where the value is. -/
def AllEvaluate (engine : Engine) (document : Json) (value : Bool) (parameters : List Parameter)
    (conditions : List Condition) : Prop :=
  ∃ values, Evaluates engine document parameters conditions values ∧ values.all id = value

theorem AllEvaluate.single {parameters : List Parameter} {condition : Condition} {value : Bool}
    (evaluated : condition.eval engine document parameters = some value) :
    AllEvaluate engine document value parameters [condition] :=
  ⟨[value], by rw [Evaluates, List.map_singleton, evaluated]; rfl, by simp⟩

mutual
/-- The conditions of a clause are true of a document where the clause holds of it. -/
theorem Compiles.compileClause : ∀ {clause : Clause}, engine.ReadsAll (clauseTests clause) →
    Compiles (Sql.compileClause clause)
      (AllEvaluate engine document (clauseHoldsBy (answerAsJson engine document) clause))
  | .all filters, reads => by
      apply Compiles.bind (Compiles.compileAll reads)
      intro conditions
      apply Compiles.pure
      intro parameters evaluated
      apply AllEvaluate.single
      rw [Condition.eval, evaluated.conjunction, clauseHoldsBy, allHoldBy_eq_all]
  | .any filters, reads => by
      apply Compiles.bind (Compiles.compileAll reads)
      intro conditions
      apply Compiles.pure
      intro parameters evaluated
      apply AllEvaluate.single
      rw [Condition.eval, evaluated.disjunction, clauseHoldsBy, anyHoldsBy_eq_any]
  | .value path expected, reads => by
      apply Compiles.bind (Compiles.fieldAt engine document path)
      intro field
      apply Compiles.bind (Compiles.equality
        (reads path _ List.mem_cons_self expected List.mem_cons_self))
      intro condition
      apply Compiles.pure
      intro parameters evaluated isFound
      exact AllEvaluate.single (evaluated isFound)
  | .tests path tests, reads => by
      apply Compiles.bind (Compiles.fieldAt engine document path)
      intro field
      have each : Compiles (tests.mapM (Sql.compileTest field)) fun parameters conditions =>
          IsFound engine document field (engine.extract document (Document.segments path))
            parameters → Evaluates engine document parameters conditions
              (tests.map (answerAsJson engine document path)) :=
        Compiles.mapM fun test member =>
          Compiles.compileTest (reads path test (List.mem_map_of_mem member))
      apply each.mono
      intro parameters conditions evaluated isFound
      exact ⟨_, evaluated isFound, by rw [clauseHoldsBy, List.all_map]; rfl⟩
termination_by structural clause => clause

theorem Compiles.compileClauses : ∀ {clauses : List Clause}, engine.ReadsAll (testsOf clauses) →
    Compiles (Sql.compileClauses clauses)
      (AllEvaluate engine document (holdsBy (answerAsJson engine document) clauses))
  | [], _ => Compiles.pure fun _ => ⟨[], rfl, rfl⟩
  | clause :: rest, reads => by
      apply Compiles.bind (Compiles.compileClause reads.append.1)
      intro first
      apply Compiles.bind (Compiles.compileClauses reads.append.2)
      intro others
      apply Compiles.pure
      rintro parameters ⟨further, evaluatedFurther, same⟩ ⟨values, evaluated, sameFirst⟩
      refine ⟨values ++ further, evaluated.append evaluatedFurther, ?_⟩
      rw [List.all_append, same, sameFirst, holdsBy]
termination_by structural clauses => clauses

theorem Compiles.compileAll : ∀ {filters : List (List Clause)},
    engine.ReadsAll (testsOfAll filters) →
      Compiles (Sql.compileAll filters) fun parameters conditions =>
        Evaluates engine document parameters conditions
          (filters.map (holdsBy (answerAsJson engine document)))
  | [], _ => Compiles.pure fun _ => rfl
  | filter :: rest, reads => by
      apply Compiles.bind (Compiles.compileClauses reads.append.1)
      intro first
      apply Compiles.bind (Compiles.compileAll reads.append.2)
      intro others
      apply Compiles.pure
      rintro parameters evaluatedFurther ⟨values, evaluated, same⟩
      rw [Evaluates, List.map_cons, evaluated.conjunction, same,
        show others.map _ = _ from evaluatedFurther]
      rfl
termination_by structural filters => filters
end

/-- The condition of a filter is true of a document where the filter holds of binary JSON. -/
theorem Compiles.compile {filter : Filter} (reads : engine.ReadsAll (testsOf filter)) :
    Compiles (Sql.compile filter) fun parameters condition =>
      condition.eval engine document parameters =
        some (holdsBy (answerAsJson engine document) filter) := by
  apply Compiles.bind (Compiles.compileClauses reads)
  intro conditions
  apply Compiles.pure
  rintro parameters ⟨values, evaluated, same⟩
  rw [evaluated.conjunction, same]

end Filters

end DocumentGate.Sql
