import DocumentGate.Sql.Compile

/-!
# The meaning of conditions

A condition is put to the document in the column, with the parameters of its statement.  Terms
are binary JSON or the name of a type, or have no value.  A comparison with a term that has no
value is neither true nor false, and conditions combine in the logic of three values.

Binary JSON tells booleans from numbers.  A path goes into objects by key and into lists by
position.  A list contains another one when each element of that is contained in one of its
own, and an object contains another one when it has its members; both hold at every depth.

What is not fixed here belongs to the database engine: which texts are binary JSON, which path
segments are positions, and the order of values that are not two numbers or two strings.
-/

namespace DocumentGate.Sql

/-- What conditions need of the engine that runs the statement. -/
structure Engine where
  /-- The binary JSON that a text is, if it is one. -/
  parse : String → Option Json
  /-- The position that a path segment is, counted from the end where it is negative. -/
  position? : String → Option Int
  /-- The order of values that are not two numbers or two strings. -/
  order : Relation → Json → Json → Bool

/-! ## Binary JSON -/

mutual
/-- The values are equal as binary JSON. -/
def sameValue : Json → Json → Bool
  | .null, .null => true
  | .boolean left, .boolean right => left == right
  | .number left, .number right => left.equals right
  | .string left, .string right => left == right
  | .array left, .array right => sameElements left right
  | .object left, .object right => left.length == right.length && sameMembers left right
  | _, _ => false
termination_by structural left => left

/-- The lists have the same elements in the same order. -/
def sameElements : List Json → List Json → Bool
  | [], [] => true
  | left :: lefts, right :: rights => sameValue left right && sameElements lefts rights
  | _, _ => false
termination_by structural lefts => lefts

/-- Each member has a counterpart among the members on the right. -/
def sameMembers : List (String × Json) → List (String × Json) → Bool
  | [], _ => true
  | (key, left) :: lefts, rights =>
    (match Dictionary.get? key rights with
      | some right => sameValue left right
      | none => false) &&
      sameMembers lefts rights
termination_by structural lefts => lefts
end

mutual
/-- The left value contains the right one, as it is inside lists and objects. -/
def contains : Json → Json → Bool
  | left, .array rights =>
    match left with
    | .array lefts => containsElements lefts rights
    | _ => false
  | left, .object rights =>
    match left with
    | .object lefts => containsMembers lefts rights
    | _ => false
  | left, right => sameValue left right
termination_by structural _ right => right

/-- Some element on the left contains each element on the right. -/
def containsElements (lefts : List Json) : List Json → Bool
  | [] => true
  | right :: rights =>
    lefts.any (fun left => contains left right) && containsElements lefts rights
termination_by structural rights => rights

/-- The members on the left contain each member on the right. -/
def containsMembers (lefts : List (String × Json)) : List (String × Json) → Bool
  | [] => true
  | (key, right) :: rights =>
    (match Dictionary.get? key lefts with
      | some left => contains left right
      | none => false) &&
      containsMembers lefts rights
termination_by structural rights => rights
end

/-- A list also contains each of its elements that is neither a list nor an object. -/
def hasElement : Json → Json → Bool
  | .array _, .array _ => false
  | .array _, .object _ => false
  | .array elements, right => elements.any fun element => sameValue element right
  | _, _ => false

/-- The element of a list at a path segment. -/
def Engine.element? (engine : Engine) (elements : List Json) (segment : String) : Option Json := do
  let position ← engine.position? segment
  let index := if position < 0 then position + elements.length else position
  if index < 0 then none else elements[index.toNat]?

/-- The part of a value at a path. -/
def Engine.extract (engine : Engine) : Json → List String → Option Json
  | value, [] => some value
  | .object members, key :: rest =>
    match Dictionary.get? key members with
    | some child => engine.extract child rest
    | none => none
  | .array elements, segment :: rest =>
    match engine.element? elements segment with
    | some element => engine.extract element rest
    | none => none
  | _, _ :: _ => none

/-- The name of the type of a value. -/
def typeName : Json → String
  | .null => "null"
  | .boolean _ => "boolean"
  | .number _ => "number"
  | .string _ => "string"
  | .array _ => "array"
  | .object _ => "object"

/-! ## Terms -/

/-- What a term stands for. -/
inductive Datum where
  | json (value : Json)
  | typeName (name : String)

/-- The parameter of a number, counted from one. -/
def parameterAt? (parameters : List Parameter) : Nat → Option Parameter
  | 0 => none
  | number + 1 => parameters[number]?

/-- The value of a term, if it has one. -/
def Term.value? (engine : Engine) (document : Json) (parameters : List Parameter) :
    Term → Option Datum
  | .field path =>
    match parameterAt? parameters path with
    | some (.path segments) => (engine.extract document segments).map .json
    | _ => none
  | .parameter number =>
    match parameterAt? parameters number with
    | some (.text text) => (engine.parse text).map .json
    | _ => none
  | .jsonNull => some (.json .null)
  | .typeOf term =>
    match term.value? engine document parameters with
    | some (.json value) => some (.typeName (Sql.typeName value))
    | _ => none
  | .arrayType => some (.typeName "array")
  | .listOf term =>
    match term.value? engine document parameters with
    | some (.json value) => some (.json (.array [value]))
    | _ => some (.json (.array [.null]))

/-! ## Conditions -/

/-- Two values stand in the relation: numbers by value, strings by code points. -/
def Engine.relates (engine : Engine) (relation : Relation) : Json → Json → Bool
  | .number left, .number right => Filter.relatesNumbers relation left right
  | .string left, .string right => Filter.relatesStrings relation left right
  | left, right => engine.order relation left right

/-- The comparison of two values. -/
def Engine.compareValues (engine : Engine) : Comparison → Json → Json → Bool
  | .equal, left, right => sameValue left right
  | .contains, left, right => contains left right || hasElement left right
  | .greater, left, right => engine.relates .greater left right
  | .greaterOrEqual, left, right => engine.relates .greaterOrEqual left right
  | .less, left, right => engine.relates .less left right
  | .lessOrEqual, left, right => engine.relates .lessOrEqual left right

/-- The comparison of two terms; names of types are only ever asked to be equal. -/
def Engine.compareData (engine : Engine) : Comparison → Datum → Datum → Bool
  | comparison, .json left, .json right => engine.compareValues comparison left right
  | .equal, .typeName left, .typeName right => left == right
  | _, _, _ => false

/-- True where both are, false where one of them is. -/
def conjoin : Option Bool → Option Bool → Option Bool
  | some false, _ => some false
  | _, some false => some false
  | some true, some true => some true
  | _, _ => none

/-- True where one of them is, false where both are. -/
def disjoin : Option Bool → Option Bool → Option Bool
  | some true, _ => some true
  | _, some true => some true
  | some false, some false => some false
  | _, _ => none

/-- Whether a condition is true or false of a document, if it is one of them. -/
def Condition.eval (engine : Engine) (document : Json) (parameters : List Parameter) :
    Condition → Option Bool
  | .constant value => some value
  | .isAbsent term => some (term.value? engine document parameters).isNone
  | .isPresent term => some (term.value? engine document parameters).isSome
  | .compare comparison left right =>
    match left.value? engine document parameters, right.value? engine document parameters with
    | some left, some right => some (engine.compareData comparison left right)
    | _, _ => none
  | .orFalse condition => some ((condition.eval engine document parameters).getD false)
  | .negation condition => (condition.eval engine document parameters).map not
  | .both left right =>
    conjoin (left.eval engine document parameters) (right.eval engine document parameters)
  | .either left right =>
    disjoin (left.eval engine document parameters) (right.eval engine document parameters)
  | .group condition => condition.eval engine document parameters

/-! ## Conditions that are true or false -/

variable {engine : Engine} {document : Json} {parameters : List Parameter}

@[simp]
theorem conjoin_some (left right : Bool) : conjoin (some left) (some right) = some (left && right) := by
  cases left <;> cases right <;> rfl

@[simp]
theorem disjoin_some (left right : Bool) : disjoin (some left) (some right) = some (left || right) := by
  cases left <;> cases right <;> rfl

/-- Every condition is true or false, as the values say. -/
def Evaluates (engine : Engine) (document : Json) (parameters : List Parameter)
    (conditions : List Condition) (values : List Bool) : Prop :=
  conditions.map (Condition.eval engine document parameters) = values.map some

theorem Evaluates.append {conditions others : List Condition} {values further : List Bool}
    (first : Evaluates engine document parameters conditions values)
    (second : Evaluates engine document parameters others further) :
    Evaluates engine document parameters (conditions ++ others) (values ++ further) := by
  rw [Evaluates, List.map_append, List.map_append, show conditions.map _ = _ from first,
    show others.map _ = _ from second]

/-- Conditions joined one after the other have the value that theirs combine to. -/
theorem eval_foldl {join : Condition → Condition → Condition} {combine : Bool → Bool → Bool}
    {whole : List Bool → Bool}
    (joined : ∀ {left right : Condition} {first second : Bool},
      left.eval engine document parameters = some first →
        right.eval engine document parameters = some second →
          (join left right).eval engine document parameters = some (combine first second))
    (ends : ∀ value, combine value (whole []) = value)
    (goes : ∀ value next rest,
      combine (combine value next) (whole rest) = combine value (whole (next :: rest)))
    {first : Condition} {value : Bool} {conditions : List Condition} {values : List Bool}
    (start : first.eval engine document parameters = some value)
    (evaluated : Evaluates engine document parameters conditions values) :
    (conditions.foldl join first).eval engine document parameters =
      some (combine value (whole values)) := by
  induction conditions generalizing first value values with
  | nil =>
      rw [List.map_eq_nil_iff.mp evaluated.symm, ends]
      exact start
  | cons next rest ih =>
      rcases List.map_eq_cons_iff.mp evaluated.symm with ⟨second, others, rfl, same, further⟩
      rw [List.foldl_cons, ih (joined start same.symm) further.symm, goes]

/-- Conditions joined by AND are true where all of them are. -/
theorem Evaluates.conjunction {conditions : List Condition} {values : List Bool}
    (evaluated : Evaluates engine document parameters conditions values) :
    (Condition.conjunction conditions).eval engine document parameters = some (values.all id) := by
  cases conditions with
  | nil =>
      rw [List.map_eq_nil_iff.mp evaluated.symm]
      rfl
  | cons first rest =>
      rcases List.map_eq_cons_iff.mp evaluated.symm with ⟨value, values, rfl, same, further⟩
      apply @eval_foldl engine document parameters .both and (·.all id)
      · intro left right first second isFirst isSecond
        rw [Condition.eval, isFirst, isSecond, conjoin_some]
      · exact Bool.and_true
      · exact fun value next rest => Bool.and_assoc value next _
      · exact same.symm
      · exact further.symm

/-- Conditions joined by OR are true where one of them is. -/
theorem Evaluates.disjunction {conditions : List Condition} {values : List Bool}
    (evaluated : Evaluates engine document parameters conditions values) :
    (Condition.disjunction conditions).eval engine document parameters = some (values.any id) := by
  cases conditions with
  | nil =>
      rw [List.map_eq_nil_iff.mp evaluated.symm]
      rfl
  | cons first rest =>
      rcases List.map_eq_cons_iff.mp evaluated.symm with ⟨value, values, rfl, same, further⟩
      apply @eval_foldl engine document parameters .either or (·.any id)
      · intro left right first second isFirst isSecond
        rw [Condition.eval, isFirst, isSecond, disjoin_some]
      · exact Bool.or_false
      · exact fun value next rest => Bool.or_assoc value next _
      · exact same.symm
      · exact further.symm

end DocumentGate.Sql
