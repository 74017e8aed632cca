import DocumentGate.Proofs.CompiledFilters
import DocumentGate.Proofs.StatementSyntax
import Mathlib.Data.List.Forall2
import Mathlib.Data.Option.Basic

/-!
# Truth of statements

The expression of a statement is made of tests of the document, which keywords combine.  A test
compares the part at a path with an operand, for equality or for an order, or asks whether there
is such a part; the path and the operand are the parameters that its placeholders stand for.
Whatever the tests are taken to say, the expression is as true as the filter that it was compiled
from.
-/

namespace DocumentGate.Sql

/-! ## Tests of a statement -/

/-- What the tests of a statement are taken to say, each for a path and the text of an operand. -/
structure Interpretation where
  equality : List String → String → Bool
  order : Relation → List String → String → Bool
  presence : List String → Bool

/-- The path from the column that an expression goes. -/
def Expression.path? (parameters : List Parameter) : Expression → Option (List String)
  | .operation symbol column (.cast (.placeholder number) type true) =>
    if symbol = "#>".toList ∧ column = .word "doc".toList ∧ type = "text".toList then
      match parameterAt? parameters number with
      | some (.path segments) => some segments
      | _ => none
    else none
  | _ => none

/-- The text of the operand that an expression is. -/
def Expression.operand? (parameters : List Parameter) : Expression → Option String
  | .cast (.placeholder number) type false =>
    if type = "jsonb".toList then
      match parameterAt? parameters number with
      | some (.text text) => some text
      | _ => none
    else none
  | _ => none

/-- The type of a value. -/
def Expression.typeOf (value : Expression) : Expression :=
  .call "jsonb_typeof".toList value

/-- The field is a list with the value as an element. -/
def Expression.hasElement (field value : Expression) : Expression :=
  .both (.operation "=".toList field.typeOf (.quoted "array".toList))
    (.operation "@>".toList field (.call "jsonb_build_array".toList value))

/-- The order that a comparison asks for. -/
def orderOf? (symbol : List Char) : Option Relation :=
  [Relation.greater, .greaterOrEqual, .less, .lessOrEqual].find? fun relation =>
    symbol = (comparisonOf relation).symbol.toList

/-- What a test says of a field, if it is one whose answer may be unknown. -/
def Expression.test? (interpretation : Interpretation) (parameters : List Parameter) :
    Expression → Option Bool
  | .operation symbol field value => do
    guard (symbol = "=".toList)
    return interpretation.equality (← field.path? parameters) (← value.operand? parameters)
  | .either (.operation symbol field value) element => do
    guard (symbol = "=".toList ∧ element = field.hasElement value)
    return interpretation.equality (← field.path? parameters) (← value.operand? parameters)
  | .both sameType (.operation symbol field value) => do
    guard (sameType = .operation "=".toList field.typeOf value.typeOf)
    return interpretation.order (← orderOf? symbol) (← field.path? parameters)
      (← value.operand? parameters)
  | _ => none

/-- The path of the field that is absent or null, if this is what the two expressions say. -/
def nullPath? (parameters : List Parameter) : Expression → Expression → Option (List String)
  | .isNull field, .operation symbol other value => do
    guard (symbol = "=".toList ∧ other = field ∧ value = Term.jsonNull.expression)
    field.path? parameters
  | _, _ => none

/-- Whether an expression is true, if it is made of tests. -/
def Expression.truth? (interpretation : Interpretation) (parameters : List Parameter) :
    Expression → Option Bool
  | .word characters =>
    if characters = "TRUE".toList then some true
    else if characters = "FALSE".toList then some false
    else none
  | .isNull field => (field.path? parameters).map fun path => !interpretation.presence path
  | .isNotNull field => (field.path? parameters).map interpretation.presence
  | .call function (.pair test otherwise) => do
    guard (function = "COALESCE".toList ∧ otherwise = .word "FALSE".toList)
    test.test? interpretation parameters
  | .negation condition => (condition.truth? interpretation parameters).map not
  | .both left right => do
    return (← left.truth? interpretation parameters) && (← right.truth? interpretation parameters)
  | .either left right =>
    match nullPath? parameters left right with
    | some path => some (interpretation.equality path "null")
    | none => do
      return (← left.truth? interpretation parameters) ||
        (← right.truth? interpretation parameters)
  | _ => none

/-! ## Tests of a filter -/

/-- What the tests of a filter are taken to say, each for a path and an operand. -/
structure Atoms where
  equality : String → Json → Bool
  order : Relation → String → Json → Bool
  presence : String → Bool

/-- What a test is, when it is put together from the ones that are given. -/
def Atoms.answer (atoms : Atoms) (path : String) : Test → Bool
  | .equal operand => atoms.equality path operand
  | .different operand => !atoms.equality path operand
  | .ordered relation operand => atoms.order relation path operand
  | .among operands => operands.any (atoms.equality path)
  | .notAmong operands => !operands.any (atoms.equality path)
  | .present wanted => atoms.presence path == wanted

/-- What the tests say of a document. -/
def Atoms.ofDocument (document : Document) : Atoms where
  equality path operand := Filter.foundMeets (document.lookup path) operand
  order relation path operand := Filter.relates relation (document.lookup path) operand
  presence path := (document.lookup path).isSome

/-- The tests of a filter as those of a statement; no other values than these have an order. -/
def Interpretation.atoms (interpretation : Interpretation) : Atoms where
  equality path operand := interpretation.equality (Document.segments path) (Json.text operand)
  order relation path operand :=
    isOrderable operand &&
      interpretation.order relation (Document.segments path) (Json.text operand)
  presence path := interpretation.presence (Document.segments path)

/-- A filter matches a document where it holds by what its tests say of the document. -/
theorem matches_eq_holdsBy (filter : Filter) (document : Document) :
    filter.matches document = holdsBy (Atoms.ofDocument document).answer filter := by
  refine (holdsBy_eq ?_).symm
  intro path test member
  cases test <;> rfl

section Truth

variable {interpretation : Interpretation} {parameters : List Parameter}

/-- The expression is true or false, as the value says. -/
def HasTruth (interpretation : Interpretation) (parameters : List Parameter)
    (expression : Expression) (value : Bool) : Prop :=
  expression.truth? interpretation parameters = some value

/-! ## Conditions of tests -/

/-- The condition is an expression of that truth, alone and next to any keyword. -/
def IsClause (interpretation : Interpretation) (parameters : List Parameter)
    (condition : Condition) (value : Bool) : Prop :=
  ∃ expression, condition.Reads expression ∧ HasTruth interpretation parameters expression value

/-- The term is the field at a path. -/
def IsField (path : String) (parameters : List Parameter) (field : Term) : Prop :=
  field.expression.path? parameters = some (Document.segments path)

/-- The term is an operand. -/
def IsOperand (operand : Json) (parameters : List Parameter) (value : Term) : Prop :=
  value.expression.operand? parameters = some (Json.text operand)

theorem Compiles.isField (path : String) : Compiles (Sql.fieldAt path) (IsField path) := by
  apply Compiles.map (Compiles.addParameter _)
  intro parameters number isPath
  rw [IsField, Term.expression, Expression.path?, if_pos ⟨rfl, rfl, rfl⟩, isPath]

theorem Compiles.isOperand (operand : Json) :
    Compiles (Sql.operandTerm operand) (IsOperand operand) := by
  apply Compiles.map (Compiles.addParameter _)
  intro parameters number isText
  rw [IsOperand, Term.expression, Expression.operand?, if_pos rfl, isText]

theorem isClause_constant (value : Bool) :
    IsClause interpretation parameters (.constant value) value := by
  refine ⟨_, Condition.reads_constant value, ?_⟩
  cases value <;>
    rw [HasTruth, Expression.truth?] <;>
    decide

theorem IsClause.negation {condition : Condition} {value : Bool}
    (isClause : IsClause interpretation parameters condition value) :
    IsClause interpretation parameters (.negation condition) !value := by
  rcases isClause with ⟨expression, reads, isTrue⟩
  refine ⟨_, reads.negation, ?_⟩
  rw [HasTruth, Expression.truth?, show expression.truth? _ _ = _ from isTrue]
  rfl

/-- A condition that is false where it is unknown is what its test says. -/
theorem IsClause.orFalse {condition : Condition} {expression : Expression} {value : Bool}
    (assembles : condition.Assembles expression)
    (answers : expression.test? interpretation parameters = some value) :
    IsClause interpretation parameters (.orFalse condition) value := by
  refine ⟨_, assembles.orFalse, ?_⟩
  rw [HasTruth, Expression.truth?, answers]
  rfl

variable {path : String} {field : Term}

theorem isClause_presence (isField : IsField path parameters field) (wanted : Bool) :
    IsClause interpretation parameters (if wanted then .isPresent field else .isAbsent field)
      (interpretation.atoms.presence path == wanted) := by
  unfold IsField at isField
  cases wanted with
  | true =>
      refine ⟨_, Condition.reads_isPresent field, ?_⟩
      rw [HasTruth, Expression.truth?, isField, Option.map_some, beq_true]
      rfl
  | false =>
      refine ⟨_, Condition.reads_isAbsent field, ?_⟩
      rw [HasTruth, Expression.truth?, isField, Option.map_some, beq_false]
      rfl

theorem isClause_null (isField : IsField path parameters field) :
    IsClause interpretation parameters
      (.group (.either (.isAbsent field) (.compare .equal field .jsonNull)))
      (interpretation.atoms.equality path .null) := by
  unfold IsField at isField
  refine ⟨_, ((Condition.reads_isAbsent field).either (Condition.reads_compare _ _ _)).group, ?_⟩
  have isNull : nullPath? parameters (.isNull field.expression)
      (.operation Comparison.equal.symbol.toList field.expression Term.jsonNull.expression) =
        some (Document.segments path) := by
    rw [nullPath?, guard, if_pos ⟨rfl, rfl, rfl⟩, isField]
    rfl
  rw [HasTruth, Expression.truth?, isNull]
  rfl

variable {operand : Json} {value : Term}

theorem test?_equal (isField : IsField path parameters field)
    (isOperand : IsOperand operand parameters value) :
    (Expression.operation Comparison.equal.symbol.toList field.expression value.expression).test?
      interpretation parameters = some (interpretation.atoms.equality path operand) := by
  unfold IsField at isField
  unfold IsOperand at isOperand
  rw [Expression.test?, guard, if_pos (show Comparison.equal.symbol.toList = "=".toList from rfl),
    isField, isOperand]
  rfl

theorem isClause_equal (isField : IsField path parameters field)
    (isOperand : IsOperand operand parameters value) :
    IsClause interpretation parameters (.orFalse (.compare .equal field value))
      (interpretation.atoms.equality path operand) :=
  .orFalse (Condition.reads_compare _ _ _).assembles (test?_equal isField isOperand)

theorem isClause_element (isField : IsField path parameters field)
    (isOperand : IsOperand operand parameters value) :
    IsClause interpretation parameters
      (.orFalse (.either (.compare .equal field value)
        (.group (.both (.compare .equal (.typeOf field) .arrayType)
          (.compare .contains field (.listOf value))))))
      (interpretation.atoms.equality path operand) := by
  have element := ((Condition.reads_compare .equal (.typeOf field) .arrayType).both
    (Condition.reads_compare .contains field (.listOf value))).group
  refine .orFalse ((Condition.reads_compare .equal field value).either element) ?_
  unfold IsField at isField
  unfold IsOperand at isOperand
  rw [Expression.test?, guard, if_pos ⟨rfl, rfl⟩, isField, isOperand]
  rfl

theorem isClause_ordered (isField : IsField path parameters field)
    (isOperand : IsOperand operand parameters value) (relation : Relation) :
    IsClause interpretation parameters
      (.orFalse (.both (.compare .equal (.typeOf field) (.typeOf value))
        (.compare (comparisonOf relation) field value)))
      (interpretation.order relation (Document.segments path) (Json.text operand)) := by
  refine .orFalse ((Condition.reads_compare .equal (.typeOf field) (.typeOf value)).both
    (Condition.reads_compare (comparisonOf relation) field value)) ?_
  have isOrder : orderOf? (comparisonOf relation).symbol.toList = some relation := by
    cases relation <;>
      decide
  unfold IsField at isField
  unfold IsOperand at isOperand
  have sameType : Expression.operation Comparison.equal.symbol.toList (Term.typeOf field).expression
      (Term.typeOf value).expression =
        .operation "=".toList field.expression.typeOf value.expression.typeOf := rfl
  rw [Expression.test?, guard, if_pos sameType, isOrder, isField, isOperand]
  rfl

/-- The condition of an equality is what the test of the operand says. -/
theorem Compiles.equality_isClause (field : Term) (path : String) (operand : Json) :
    Compiles (Sql.equality field operand) fun parameters condition =>
      IsField path parameters field →
        IsClause interpretation parameters condition
          (interpretation.atoms.equality path operand) := by
  unfold Sql.equality
  split
  · apply Compiles.pure
    intro parameters isField
    exact isClause_null isField
  · apply Compiles.map (Compiles.isOperand _)
    intro parameters value isOperand isField
    exact isClause_equal isField isOperand
  · apply Compiles.map (Compiles.isOperand _)
    intro parameters value isOperand isField
    exact isClause_element isField isOperand

/-! ## Conditions joined -/

/-- The items are read as an expression of that truth. -/
def Gives (interpretation : Interpretation) (parameters : List Parameter)
    (read? : List Item → Option Expression) (value : Bool) (items : List Item) : Prop :=
  ∃ expression, read? items = some expression ∧ HasTruth interpretation parameters expression value

/-- Values are combined one after the other, from either side. -/
structure Combines (combine : Bool → Bool → Bool) (whole : List Bool → Bool) : Prop where
  ends : ∀ value, combine value (whole []) = value
  goes : ∀ value rest, whole (value :: rest) = combine value (whole rest)
  assoc : ∀ first second third, combine (combine first second) third =
    combine first (combine second third)

theorem combines_and : Combines and (·.all id) :=
  ⟨Bool.and_true, fun _ _ => rfl, Bool.and_assoc⟩

theorem combines_or : Combines or (·.any id) :=
  ⟨Bool.or_false, fun _ _ => rfl, Bool.or_assoc⟩

/-- Things joined one after the other have what theirs combine to. -/
theorem Combines.foldl {combine : Bool → Bool → Bool} {whole : List Bool → Bool}
    (combines : Combines combine whole) {Thing : Type} {Has : Thing → Bool → Prop}
    {join : Thing → Thing → Thing}
    (joined : ∀ {left right : Thing} {first second : Bool}, Has left first → Has right second →
      Has (join left right) (combine first second))
    {first : Thing} {value : Bool} {things : List Thing} {values : List Bool}
    (start : Has first value) (all : List.Forall₂ Has things values) :
    Has (things.foldl join first) (whole (value :: values)) := by
  induction all generalizing first value with
  | nil =>
      rw [combines.goes, combines.ends]
      exact start
  | cons isNext _ ih =>
      rw [List.foldl_cons, combines.goes, combines.goes, ← combines.assoc, ← combines.goes]
      exact ih (joined start isNext)

theorem HasTruth.both {left right : Expression} {first second : Bool}
    (isFirst : HasTruth interpretation parameters left first)
    (isSecond : HasTruth interpretation parameters right second) :
    HasTruth interpretation parameters (.both left right) (first && second) := by
  unfold HasTruth at isFirst isSecond ⊢
  rw [Expression.truth?, isFirst, isSecond]
  rfl

/-- What has a truth of its own is no part of the question whether a field is absent or null. -/
theorem HasTruth.either {left right : Expression} {first second : Bool}
    (isFirst : HasTruth interpretation parameters left first)
    (isSecond : HasTruth interpretation parameters right second) :
    HasTruth interpretation parameters (.either left right) (first || second) := by
  unfold HasTruth at isFirst isSecond ⊢
  have noNull : nullPath? parameters left right = none := by
    cases right with
    | operation symbol field value =>
        cases isSecond
    | _ =>
        cases left <;> rfl
  rw [Expression.truth?, noNull, isFirst, isSecond]
  rfl

theorem exists_mapM {read? : List Item → Option Expression} {parts : List (List Item)}
    {values : List Bool}
    (gives : List.Forall₂ (Gives interpretation parameters read?) values parts) :
    ∃ expressions, parts.mapM read? = some expressions ∧
      List.Forall₂ (HasTruth interpretation parameters) expressions values := by
  induction gives with
  | nil =>
      exact ⟨[], rfl, .nil⟩
  | cons first _ ih =>
      rcases first with ⟨expression, reads, isTrue⟩
      rcases ih with ⟨expressions, readsAll, areTrue⟩
      refine ⟨expression :: expressions, ?_, .cons isTrue areTrue⟩
      rw [List.mapM_cons, reads, readsAll]
      rfl

/-- Parts that are joined by a keyword are read as what their truths combine to. -/
theorem Combines.gives {combine : Bool → Bool → Bool} {whole : List Bool → Bool}
    (combines : Combines combine whole) {keyword : String}
    {join : Expression → Expression → Expression} {read? : List Item → Option Expression}
    {items : List Item} {values : List Bool}
    (joins : ∀ {left right : Expression} {first second : Bool},
      HasTruth interpretation parameters left first →
        HasTruth interpretation parameters right second →
          HasTruth interpretation parameters (join left right) (combine first second))
    (gives : List.Forall₂ (Gives interpretation parameters read?) values
      (items.splitOnP (Item.isWord keyword))) :
    Gives interpretation parameters (joined? keyword join read?) (whole values) items := by
  rcases exists_mapM gives with ⟨expressions, reads, areTrue⟩
  cases areTrue with
  | nil =>
      rw [List.forall₂_nil_left_iff] at gives
      exact absurd gives (List.splitOnP_ne_nil _ _)
  | @cons first value rest values isFirst areRest =>
      refine ⟨rest.foldl join first, ?_, combines.foldl joins isFirst areRest⟩
      rw [joined?, reads]
      rfl

/-- The items are a conjunction: there is no OR among them, and all parts between AND hold. -/
def IsConjunction (interpretation : Interpretation) (parameters : List Parameter) (value : Bool)
    (items : List Item) : Prop :=
  (∀ item ∈ items, item.isWord "OR" = false) ∧
    ∃ values, List.Forall₂ (Gives interpretation parameters negand?) values
      (items.splitOnP (Item.isWord "AND")) ∧ values.all id = value

/-- The items are a disjunction: some part between OR holds. -/
def IsDisjunction (interpretation : Interpretation) (parameters : List Parameter) (value : Bool)
    (items : List Item) : Prop :=
  ∃ values, List.Forall₂ (IsConjunction interpretation parameters) values
    (items.splitOnP (Item.isWord "OR")) ∧ values.any id = value

theorem IsConjunction.gives {value : Bool} {items : List Item}
    (isConjunction : IsConjunction interpretation parameters value items) :
    Gives interpretation parameters (joined? "AND" .both negand?) value items := by
  rcases isConjunction with ⟨-, values, gives, rfl⟩
  exact combines_and.gives HasTruth.both gives

theorem IsDisjunction.gives {value : Bool} {items : List Item}
    (isDisjunction : IsDisjunction interpretation parameters value items) :
    Gives interpretation parameters assemble? value items := by
  rcases isDisjunction with ⟨values, areConjunctions, rfl⟩
  exact combines_or.gives HasTruth.either
    (areConjunctions.imp fun _ _ isConjunction => isConjunction.gives)

theorem IsConjunction.and {value other : Bool} {items further : List Item}
    (first : IsConjunction interpretation parameters value items)
    (second : IsConjunction interpretation parameters other further) :
    IsConjunction interpretation parameters (value && other)
      (items ++ .lexeme (word "AND") :: further) := by
  rcases first with ⟨noOr, values, gives, rfl⟩
  rcases second with ⟨noOrMore, valuesMore, givesMore, rfl⟩
  refine ⟨?_, values ++ valuesMore, ?_, List.all_append⟩
  · rw [List.forall_mem_append, List.forall_mem_cons]
    exact ⟨noOr, by decide, noOrMore⟩
  · rw [List.splitOnP_append_cons _ _ (by decide)]
    exact List.rel_append gives givesMore

theorem IsDisjunction.or {value other : Bool} {items further : List Item}
    (first : IsDisjunction interpretation parameters value items)
    (second : IsDisjunction interpretation parameters other further) :
    IsDisjunction interpretation parameters (value || other)
      (items ++ .lexeme (word "OR") :: further) := by
  rcases first with ⟨values, gives, rfl⟩
  rcases second with ⟨valuesMore, givesMore, rfl⟩
  refine ⟨values ++ valuesMore, ?_, List.any_append⟩
  rw [List.splitOnP_append_cons _ _ (by decide)]
  exact List.rel_append gives givesMore

theorem IsConjunction.isDisjunction {value : Bool} {items : List Item}
    (isConjunction : IsConjunction interpretation parameters value items) :
    IsDisjunction interpretation parameters value items := by
  refine ⟨[value], ?_, by simp⟩
  rw [List.splitOnP_eq_singleton isConjunction.1]
  exact .cons isConjunction .nil

/-! ## Conditions of filters -/

/-- The condition is made of such items, of the truth of the value. -/
def Means (level : Bool → List Item → Prop) (condition : Condition) (value : Bool) : Prop :=
  ∃ items, Groups condition.lexemes items ∧ level value items

theorem IsClause.means {condition : Condition} {value : Bool}
    (isClause : IsClause interpretation parameters condition value) :
    Means (IsConjunction interpretation parameters) condition value := by
  rcases isClause with ⟨expression, ⟨items, groups, isNegand⟩, isTrue⟩
  refine ⟨items, groups, isNegand.noOr, [value], ?_, by simp⟩
  rw [List.splitOnP_eq_singleton isNegand.noAnd]
  exact .cons ⟨expression, isNegand.reads, isTrue⟩ .nil

theorem Means.isDisjunction {condition : Condition} {value : Bool}
    (means : Means (IsConjunction interpretation parameters) condition value) :
    Means (IsDisjunction interpretation parameters) condition value := by
  rcases means with ⟨items, groups, isConjunction⟩
  exact ⟨items, groups, isConjunction.isDisjunction⟩

/-- A condition between brackets is one that anything may stand next to. -/
theorem Means.group {condition : Condition} {value : Bool}
    (means : Means (IsDisjunction interpretation parameters) condition value) :
    IsClause interpretation parameters (.group condition) value := by
  rcases means with ⟨items, groups, isDisjunction⟩
  rcases isDisjunction.gives with ⟨expression, assembled, isTrue⟩
  exact ⟨expression, Condition.Assembles.group ⟨items, groups, assembled⟩, isTrue⟩

theorem Means.conjunction {conditions : List Condition} {values : List Bool}
    (means : List.Forall₂ (Means (IsConjunction interpretation parameters)) conditions values) :
    Means (IsConjunction interpretation parameters) (.conjunction conditions) (values.all id) := by
  cases means with
  | nil =>
      exact (isClause_constant true).means
  | cons first rest =>
      refine combines_and.foldl ?_ first rest
      rintro left right value other ⟨items, groups, isFirst⟩ ⟨further, groupsMore, isSecond⟩
      exact ⟨_, groups.append ((Groups.lexeme rfl).append groupsMore), isFirst.and isSecond⟩

theorem Means.disjunction {conditions : List Condition} {values : List Bool}
    (means : List.Forall₂ (Means (IsDisjunction interpretation parameters)) conditions values) :
    Means (IsDisjunction interpretation parameters) (.disjunction conditions) (values.any id) := by
  cases means with
  | nil =>
      exact (isClause_constant false).means.isDisjunction
  | cons first rest =>
      refine combines_or.foldl ?_ first rest
      rintro left right value other ⟨items, groups, isFirst⟩ ⟨further, groupsMore, isSecond⟩
      exact ⟨_, groups.append ((Groups.lexeme rfl).append groupsMore), isFirst.or isSecond⟩

/-- What is compiled one by one has its values one by one. -/
theorem Compiles.all {α Result : Type} {items : List α} {compileOne : α → Compiling Result}
    {given : List Parameter → Prop} {Has : List Parameter → Result → Bool → Prop}
    {value : α → Bool}
    (each : ∀ item ∈ items, Compiles (compileOne item) fun parameters result =>
      given parameters → Has parameters result (value item)) :
    Compiles (items.mapM compileOne) fun parameters results =>
      given parameters → List.Forall₂ (Has parameters) results (items.map value) := by
  induction items with
  | nil =>
      exact Compiles.pure fun _ _ => .nil
  | cons first rest ih =>
      rw [List.forall_mem_cons] at each
      rw [List.mapM_cons]
      apply Compiles.bind each.1
      intro result
      apply Compiles.map (ih each.2)
      intro parameters results further has holds
      exact .cons (has holds) (further holds)

theorem Compiles.equalsAny_isClause (field : Term) (path : String) (operands : List Json) :
    Compiles (Sql.equalsAny field operands) fun parameters condition =>
      IsField path parameters field →
        IsClause interpretation parameters condition
          (operands.any (interpretation.atoms.equality path)) := by
  apply Compiles.map (Compiles.all fun operand _ =>
    @Compiles.equality_isClause interpretation field path operand)
  intro parameters conditions areClauses isField
  have means := Means.disjunction
    ((areClauses isField).imp fun _ _ isClause => isClause.means.isDisjunction)
  rw [List.any_map] at means
  exact means.group

theorem Compiles.isClause_negation {compiled : Compiling Condition}
    {given : List Parameter → Prop} {value : Bool}
    (compiles : Compiles compiled fun parameters condition =>
      given parameters → IsClause interpretation parameters condition value) :
    Compiles (do return Condition.negation (← compiled)) fun parameters condition =>
      given parameters → IsClause interpretation parameters condition !value := by
  apply Compiles.map compiles
  intro parameters condition isClause holds
  exact (isClause holds).negation

/-- The condition of a test is what the test is by the tests of the statement. -/
theorem Compiles.compileTest_isClause (field : Term) (path : String) (test : Test) :
    Compiles (Sql.compileTest field test) fun parameters condition =>
      IsField path parameters field →
        IsClause interpretation parameters condition (interpretation.atoms.answer path test) := by
  cases test with
  | equal operand =>
      exact Compiles.equality_isClause field path operand
  | different operand =>
      exact Compiles.isClause_negation (Compiles.equality_isClause field path operand)
  | present wanted =>
      exact Compiles.pure fun parameters isField => isClause_presence isField wanted
  | among operands =>
      cases operands with
      | nil =>
          exact Compiles.pure fun parameters _ => isClause_constant false
      | cons first rest =>
          exact Compiles.equalsAny_isClause field path (first :: rest)
  | notAmong operands =>
      cases operands with
      | nil =>
          exact Compiles.pure fun parameters _ => isClause_constant true
      | cons first rest =>
          exact Compiles.isClause_negation (Compiles.equalsAny_isClause field path (first :: rest))
  | ordered relation operand =>
      rw [Sql.compileTest]
      dsimp only [Atoms.answer, Interpretation.atoms]
      cases isOrderable operand with
      | true =>
          apply Compiles.map (Compiles.isOperand operand)
          intro parameters value isOperand isField
          exact isClause_ordered isField isOperand relation
      | false =>
          exact Compiles.pure fun parameters _ => isClause_constant false

/-- The conditions are clauses, and all of them hold where the value is true. -/
def AreClauses (interpretation : Interpretation) (value : Bool) (parameters : List Parameter)
    (conditions : List Condition) : Prop :=
  ∃ values, List.Forall₂ (IsClause interpretation parameters) conditions values ∧
    values.all id = value

theorem AreClauses.single {condition : Condition} {value : Bool}
    (isClause : IsClause interpretation parameters condition value) :
    AreClauses interpretation value parameters [condition] :=
  ⟨[value], .cons isClause .nil, by simp⟩

theorem AreClauses.conjunction {conditions : List Condition} {value : Bool}
    (areClauses : AreClauses interpretation value parameters conditions) :
    Means (IsConjunction interpretation parameters) (.conjunction conditions) value := by
  rcases areClauses with ⟨values, each, rfl⟩
  exact .conjunction (each.imp fun _ _ isClause => isClause.means)

mutual
/-- The conditions of a clause hold where the clause does by the tests of the statement. -/
theorem Compiles.compileClause_areClauses : ∀ clause : Clause,
    Compiles (Sql.compileClause clause)
      (AreClauses interpretation (clauseHoldsBy interpretation.atoms.answer clause))
  | .all filters => by
      apply Compiles.map (Compiles.compileAll_means filters)
      intro parameters conditions means
      apply AreClauses.single
      rw [clauseHoldsBy, allHoldBy_eq_all]
      exact (Means.conjunction means).isDisjunction.group
  | .any filters => by
      apply Compiles.map (Compiles.compileAll_means filters)
      intro parameters conditions means
      apply AreClauses.single
      rw [clauseHoldsBy, anyHoldsBy_eq_any]
      exact (Means.disjunction (means.imp fun _ _ each => each.isDisjunction)).group
  | .value path expected => by
      apply Compiles.bind (Compiles.isField path)
      intro field
      apply Compiles.map (Compiles.equality_isClause field path expected)
      intro parameters condition isClause isField
      exact .single (isClause isField)
  | .tests path tests => by
      apply Compiles.bind (Compiles.isField path)
      intro field
      apply (Compiles.all fun test _ => Compiles.compileTest_isClause field path test).mono
      intro parameters conditions areClauses isField
      exact ⟨_, areClauses isField, by rw [clauseHoldsBy, List.all_map]; rfl⟩
termination_by structural clause => clause

theorem Compiles.compileClauses_areClauses : ∀ clauses : List Clause,
    Compiles (Sql.compileClauses clauses)
      (AreClauses interpretation (holdsBy interpretation.atoms.answer clauses))
  | [] => Compiles.pure fun _ => ⟨[], .nil, rfl⟩
  | clause :: rest => by
      apply Compiles.bind (Compiles.compileClause_areClauses clause)
      intro first
      apply Compiles.map (Compiles.compileClauses_areClauses rest)
      rintro parameters others ⟨further, eachFurther, same⟩ ⟨values, each, sameFirst⟩
      refine ⟨values ++ further, List.rel_append each eachFurther, ?_⟩
      rw [List.all_append, same, sameFirst, holdsBy]
termination_by structural clauses => clauses

theorem Compiles.compileAll_means : ∀ filters : List (List Clause),
    Compiles (Sql.compileAll filters) fun parameters conditions =>
      List.Forall₂ (Means (IsConjunction interpretation parameters)) conditions
        (filters.map (holdsBy interpretation.atoms.answer))
  | [] => Compiles.pure fun _ => .nil
  | filter :: rest => by
      apply Compiles.bind (Compiles.compileClauses_areClauses filter)
      intro first
      apply Compiles.map (Compiles.compileAll_means rest)
      intro parameters others further areClauses
      exact .cons areClauses.conjunction further
termination_by structural filters => filters
end

/-- The condition of a filter is as true as the filter is by the tests of the statement. -/
theorem Compiles.compile_means (filter : Filter) :
    Compiles (Sql.compile filter) fun parameters condition =>
      Means (IsConjunction interpretation parameters) condition
        (holdsBy interpretation.atoms.answer filter) := by
  apply Compiles.map (Compiles.compileClauses_areClauses filter)
  intro parameters conditions areClauses
  exact areClauses.conjunction

/-- A condition that stands alone is read as an expression of its truth. -/
theorem Means.parse? {condition : Condition} {value : Bool}
    (means : Means (IsDisjunction interpretation parameters) condition value) :
    ∃ expression, parse? condition.written = some expression ∧
      HasTruth interpretation parameters expression value := by
  rcases means with ⟨items, groups, isDisjunction⟩
  rcases isDisjunction.gives with ⟨expression, assembled, isTrue⟩
  exact ⟨expression, Condition.Assembles.parse? ⟨items, groups, assembled⟩, isTrue⟩

end Truth

/--
Compiling a filter adds parameters after those that were there, and the text of the condition
is an expression.  Whatever its tests are taken to say of the paths and operands that its
placeholders stand for, the expression is true where the filter holds by the same tests, as it
matches a document where it holds by what they say of the document.
-/
theorem compile_truth (filter : Filter) (before : List Parameter) :
    ∃ added expression, ((compile filter).run before).2 = before ++ added ∧
      parse? ((compile filter).run before).1.written = some expression ∧
      (∀ interpretation : Interpretation,
        expression.truth? interpretation ((compile filter).run before).2 =
          some (holdsBy interpretation.atoms.answer filter)) ∧
      ∀ document, filter.matches document = holdsBy (Atoms.ofDocument document).answer filter := by
  have reads : ∀ interpretation : Interpretation, ∃ added expression,
      ((compile filter).run before).2 = before ++ added ∧
        parse? ((compile filter).run before).1.written = some expression ∧
        expression.truth? interpretation ((compile filter).run before).2 =
          some (holdsBy interpretation.atoms.answer filter) := by
    intro interpretation
    rcases @Compiles.compile_means interpretation filter before with
      ⟨added, after, means⟩
    have means := means []
    rw [List.append_nil, ← after] at means
    rcases means.isDisjunction.parse? with ⟨expression, parsed, isTrue⟩
    exact ⟨added, expression, after, parsed, isTrue⟩
  rcases reads ⟨fun _ _ => true, fun _ _ _ => true, fun _ => true⟩ with
    ⟨added, expression, after, parsed, -⟩
  refine ⟨added, expression, after, parsed, ?_, matches_eq_holdsBy filter⟩
  intro interpretation
  rcases reads interpretation with ⟨_, same, _, parsedSame, isTrue⟩
  rwa [← Option.some.inj (parsedSame.symm.trans parsed)]

end DocumentGate.Sql
