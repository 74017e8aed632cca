import DocumentGate.Json.Reader
import DocumentGate.Proofs.CompiledFilters
import Mathlib.Tactic.FinCases

/-!
# Filters in statements

A filter means the same in a statement as for a document where no path goes into a list by
position and each comparison for equality is plain.  A comparison that is not plain meets a
value inside a list of a list, a null inside a list, an object that has more than the wanted
members, or a boolean in the place of a number.
-/

namespace DocumentGate.Sql

/-! ## Where the two meanings are the same -/

mutual
/--
Somewhere a boolean stands in the place of a number, or something that is not a number in its
own place.  Documents that differ so may be equal, but not as binary JSON.
-/
def blurs : Json → Json → Bool
  | .boolean _, .number _ => true
  | .number _, .boolean _ => true
  | .number left, .number right => Json.isSameNan (.number left) (.number right)
  | .array left, .array right => elementsBlur left right
  | .object left, .object right => membersBlur left right
  | _, _ => false
termination_by structural left => left

/-- Some element blurs with the one in its place. -/
def elementsBlur : List Json → List Json → Bool
  | left :: lefts, right :: rights => blurs left right || elementsBlur lefts rights
  | _, _ => false
termination_by structural lefts => lefts

/-- Some member blurs with its counterpart. -/
def membersBlur : List (String × Json) → List (String × Json) → Bool
  | [], _ => false
  | (key, left) :: lefts, rights =>
    (match Dictionary.get? key rights with
      | some right => blurs left right
      | none => false) ||
      membersBlur lefts rights
termination_by structural lefts => lefts
end

/-- An element meets the operand by itself, and only as a whole. -/
def PlainElement : Json → Json → Prop
  | .array elements, operand => Filter.anyMeets elements operand = false
  | .object members, .object wanted =>
    membersBlur members wanted = false ∧
      contains (.object members) (.object wanted) =
        sameValue (.object members) (.object wanted)
  | _, _ => True

/-- The comparison is the same for documents and for binary JSON. -/
def Plain : Json → Json → Prop
  | .array elements, .null => Filter.anyMeets elements .null = false
  | .array elements, .array wanted => elementsBlur elements wanted = false
  | .array elements, operand => ∀ element ∈ elements, PlainElement element operand
  | .object members, .object wanted => membersBlur members wanted = false
  | _, _ => True

/-- On the way along a path a segment is the position of an element of a list. -/
def Engine.entersList (engine : Engine) : Json → List String → Bool
  | .object members, key :: rest =>
    match Dictionary.get? key members with
    | some child => engine.entersList child rest
    | none => false
  | .array elements, segment :: _ => (engine.element? elements segment).isSome
  | _, _ => false

theorem equals_boolean (left right : Bool) :
    Json.equals (.boolean left) (.boolean right) = (left == right) := by
  cases left <;>
    cases right <;>
    decide +kernel

theorem isSameNan_of_blurs {left right : Json} (clear : blurs left right = false) :
    Json.isSameNan left right = false := by
  cases left with
  | number left =>
      cases right with
      | number right =>
          exact clear
      | _ =>
          simp [Json.isSameNan]
  | _ =>
      rfl

mutual
/-- Where nothing blurs, the two equalities are the same. -/
theorem sameValue_eq : ∀ {left right : Json}, blurs left right = false →
    sameValue left right = Json.equals left right
  | .null, right, clear => by
      cases right <;> rfl
  | .boolean left, right, clear => by
      cases right with
      | boolean right =>
          rw [equals_boolean]
          rfl
      | number right =>
          cases clear
      | _ =>
          rfl
  | .number left, right, clear => by
      cases right with
      | boolean right =>
          cases clear
      | _ =>
          rfl
  | .string left, right, clear => by
      cases right <;> rfl
  | .array left, right, clear => by
      cases right with
      | array right =>
          exact sameElements_eq clear
      | _ =>
          rfl
  | .object left, right, clear => by
      cases right with
      | object right =>
          rw [sameValue, Json.equals, sameMembers_eq clear]
      | _ =>
          rfl
termination_by structural left => left

theorem sameElements_eq : ∀ {lefts rights : List Json}, elementsBlur lefts rights = false →
    sameElements lefts rights = Json.elementsEqual lefts rights
  | [], rights, clear => by
      cases rights <;> rfl
  | left :: lefts, [], clear => rfl
  | left :: lefts, right :: rights, clear => by
      rcases Bool.or_eq_false_iff.mp clear with ⟨first, further⟩
      rw [sameElements, Json.elementsEqual, sameValue_eq first, sameElements_eq further,
        isSameNan_of_blurs first, Bool.false_or]
termination_by structural lefts => lefts

theorem sameMembers_eq : ∀ {lefts rights : List (String × Json)},
    membersBlur lefts rights = false → sameMembers lefts rights = Json.membersEqual lefts rights
  | [], rights, clear => rfl
  | (key, left) :: lefts, rights, clear => by
      rcases Bool.or_eq_false_iff.mp clear with ⟨first, further⟩
      rw [sameMembers, Json.membersEqual, sameMembers_eq further]
      cases found : Dictionary.get? key rights with
      | none =>
          rfl
      | some right =>
          rw [found] at first
          dsimp only at first ⊢
          rw [sameValue_eq first, isSameNan_of_blurs first, Bool.false_or]
termination_by structural lefts => lefts
end

theorem anyMeets_eq_any (elements : List Json) (operand : Json) :
    Filter.anyMeets elements operand = elements.any fun element => Filter.meets element operand := by
  induction elements with
  | nil =>
      rfl
  | cons first rest ih =>
      rw [Filter.anyMeets, ih]
      rfl

/-- Values that are no lists meet where they are the same as binary JSON. -/
theorem sameValue_eq_meets {value operand : Json} (noList : ∀ elements, value ≠ .array elements)
    (plain : Plain value operand) : sameValue value operand = Filter.meets value operand := by
  rw [Filter.meets]
  · cases value with
    | array elements =>
        exact absurd rfl (noList elements)
    | boolean left =>
        cases operand with
        | boolean right =>
            rw [equals_boolean]
            simp [sameValue, Json.isBoolean]
        | _ =>
            simp [sameValue, Json.isBoolean, Json.equals, Json.number?]
    | object members =>
        cases operand with
        | object wanted =>
            have clear : blurs (.object members) (.object wanted) = false := plain
            rw [sameValue_eq clear]
            simp [Json.isBoolean]
        | _ =>
            simp [sameValue, Json.isBoolean, Json.equals]
    | _ =>
        cases operand <;> simp [sameValue, Json.isBoolean, Json.equals, Json.number?]
  · exact noList

/-- Inside a list an element is contained where it meets the operand. -/
theorem contains_eq_meets {element operand : Json} (notNull : operand ≠ .null)
    (noList : ∀ elements, operand ≠ .array elements) (plain : PlainElement element operand) :
    contains element operand = Filter.meets element operand := by
  cases element with
  | array elements =>
      have inner : Filter.meets (.array elements) operand = false := by
        rw [Filter.meets]
        · exact plain
        · exact noList
      rw [inner]
      cases operand with
      | array others =>
          exact absurd rfl (noList others)
      | _ =>
          rfl
  | object members =>
      cases operand with
      | object wanted =>
          have whole : sameValue (.object members) (.object wanted) =
              Filter.meets (.object members) (.object wanted) :=
            sameValue_eq_meets (by simp) plain.1
          exact plain.2.trans whole
      | array others =>
          exact absurd rfl (noList others)
      | _ =>
          exact sameValue_eq_meets (by simp) trivial
  | _ =>
      refine Eq.trans ?_ (sameValue_eq_meets (by simp) trivial)
      cases operand with
      | array others =>
          exact absurd rfl (noList others)
      | _ =>
          rfl

/-- A plain comparison is the same for documents and for binary JSON. -/
theorem meetsAsJson_eq {found : Option Json} {operand : Json}
    (plain : ∀ value ∈ found, Plain value operand) :
    meetsAsJson found operand = Filter.foundMeets found operand := by
  cases found with
  | none =>
      cases operand <;> rfl
  | some value =>
      have plain := plain value rfl
      rw [Filter.foundMeets]
      cases value with
      | array elements =>
          have listed : operand ≠ .null → (∀ others, operand ≠ .array others) →
              (∀ element ∈ elements, PlainElement element operand) →
              meetsAsJson (some (.array elements)) operand =
                Filter.meets (.array elements) operand := by
            intro notNull noList each
            rw [meetsAsJson, Filter.meets, anyMeets_eq_any]
            · rw [Bool.eq_iff_iff, List.any_eq_true, List.any_eq_true]
              apply exists_congr
              intro element
              apply and_congr_right
              intro member
              rw [contains_eq_meets notNull noList (each element member)]
            · exact noList
            · exact notNull
            · exact noList
          cases operand with
          | null =>
              exact (show Filter.meets (.array elements) .null = false from plain).symm
          | array wanted =>
              exact sameValue_eq (show blurs (.array elements) (.array wanted) = false from plain)
          | _ =>
              exact listed (by simp) (by simp) plain
      | _ =>
          rw [← sameValue_eq_meets (by simp) plain]
          cases operand <;> rfl

/-- The conditions under which a filter is the same for a document and for binary JSON. -/
structure IsPlain (engine : Engine) (filter : Filter) (document : Document) : Prop where
  /-- No path of the filter goes into a list. -/
  outside : ∀ path test, (path, test) ∈ testsOf filter →
    engine.entersList (.object document) (Document.segments path) = false
  /-- Each comparison for equality is plain. -/
  plain : ∀ path test, (path, test) ∈ testsOf filter → ∀ operand ∈ equalities test,
    ∀ value ∈ document.lookup path, Plain value operand

/-- Outside of lists the part at a path is the one that a document has there. -/
theorem extract_eq_descend {engine : Engine} {value : Json} {path : List String}
    (outside : engine.entersList value path = false) :
    engine.extract value path = Document.descend value path := by
  fun_induction Engine.entersList engine value path with
  | case1 members key rest child found ih =>
      rw [Engine.extract, Document.descend, found]
      exact ih outside
  | case2 members key rest found =>
      rw [Engine.extract, Document.descend, found]
  | case3 elements segment rest =>
      rw [Option.isSome_eq_false_iff, Option.isNone_iff_eq_none] at outside
      rw [Engine.extract, outside]
      rfl
  | case4 path value noObject noList =>
      cases path with
      | nil =>
          cases value <;> rfl
      | cons segment rest =>
          cases value with
          | object members =>
              exact absurd rfl (noObject members segment rest rfl)
          | array elements =>
              exact absurd rfl (noList elements segment rest rfl)
          | _ =>
              rfl

theorem passesAsJson_eq {found : Option Json} {test : Test}
    (plain : ∀ operand ∈ equalities test, ∀ value ∈ found, Plain value operand) :
    passesAsJson found test = Filter.passes found test := by
  have any : ∀ {operands : List Json}, (∀ operand ∈ operands, ∀ value ∈ found,
      Plain value operand) →
        operands.any (meetsAsJson found) = operands.any (Filter.foundMeets found) := by
    intro operands plain
    rw [Bool.eq_iff_iff, List.any_eq_true, List.any_eq_true]
    apply exists_congr
    intro operand
    apply and_congr_right
    intro member
    rw [meetsAsJson_eq (plain operand member)]
  cases test with
  | equal operand =>
      exact meetsAsJson_eq (plain operand List.mem_cons_self)
  | different operand =>
      exact congrArg not (meetsAsJson_eq (plain operand List.mem_cons_self))
  | ordered relation operand =>
      rfl
  | among operands =>
      exact any plain
  | notAmong operands =>
      exact congrArg not (any plain)
  | present wanted =>
      rfl

/-- The answers are the same where the filter is plain. -/
theorem IsPlain.agrees {engine : Engine} {filter : Filter} {document : Document}
    (isPlain : IsPlain engine filter document) :
    Agrees (answerAsJson engine (.object document)) document (testsOf filter) := by
  intro path test member
  rw [answerAsJson, extract_eq_descend (isPlain.outside path test member)]
  exact passesAsJson_eq (isPlain.plain path test member)

/-- What the condition of a filter is of a document, in a statement with parameters before it. -/
def statementHolds (engine : Engine) (before : List Parameter) (filter : Filter)
    (document : Document) : Option Bool :=
  let (condition, parameters) := (compile filter).run before
  condition.eval engine (.object document) parameters

/--
The condition of a filter is true or false of every document, as the tests of the filter are
answered by binary JSON.  Where paths stay outside of lists and comparisons are plain, it is
true exactly of the documents that the filter matches.
-/
theorem statementHolds_eq {engine : Engine} {filter : Filter} (before : List Parameter)
    (document : Document) (reads : engine.ReadsAll (testsOf filter)) :
    statementHolds engine before filter document =
        some (holdsBy (answerAsJson engine (.object document)) filter) ∧
      (IsPlain engine filter document →
        statementHolds engine before filter document = some (filter.matches document)) := by
  rcases Compiles.compile reads before with ⟨added, after, evaluated⟩
  have evaluated := evaluated []
  rw [List.append_nil, ← after] at evaluated
  refine ⟨evaluated, ?_⟩
  intro isPlain
  rw [show statementHolds engine before filter document = _ from evaluated,
    holdsBy_eq isPlain.agrees]
  rfl

/-- An engine that reads texts as documents are read and takes digits for positions. -/
def Engine.standard : Engine where
  parse text := (Json.read text).toOption
  position? segment :=
    if segment.isEmpty || !segment.toList.all Char.isDigit then none
    else some (Nat.ofDigitChars 10 segment.toList 0)
  order _ _ _ := false

/-- A text that is an element of a list. -/
theorem statementHolds_tags :
    Engine.standard.ReadsAll (testsOf [.value "tags" (.string "x")]) ∧
      IsPlain .standard [.value "tags" (.string "x")]
        [("tags", .array [.string "x", .boolean true])] ∧
      statementHolds .standard [] [.value "tags" (.string "x")]
        [("tags", .array [.string "x", .boolean true])] = some true := by
  have reads : Engine.standard.ReadsAll (testsOf [.value "tags" (.string "x")]) := by
    intro path test member operand isOperand
    rcases Prod.mk.inj (List.mem_singleton.mp member) with ⟨rfl, rfl⟩
    rw [List.mem_singleton.mp isOperand]
    rfl
  have isPlain : IsPlain .standard [.value "tags" (.string "x")]
      [("tags", .array [.string "x", .boolean true])] := by
    constructor
    · intro path test member
      rcases Prod.mk.inj (List.mem_singleton.mp member) with ⟨rfl, rfl⟩
      decide +kernel
    · intro path test member operand isOperand value found
      rcases Prod.mk.inj (List.mem_singleton.mp member) with ⟨rfl, rfl⟩
      rw [List.mem_singleton.mp isOperand, ← Option.some.inj found]
      intro element member
      fin_cases member <;> trivial
  refine ⟨reads, isPlain, ?_⟩
  rw [(statementHolds_eq [] _ reads).2 isPlain]
  decide +kernel

/-- Where comparisons are not plain or a path goes into a list, statements and documents differ. -/
theorem statementHolds_differs :
    (Filter.matches [.value "a" .null] [("a", .array [.null])] = true ∧
        statementHolds .standard [] [.value "a" .null] [("a", .array [.null])] = some false) ∧
      (Filter.matches [.value "a" (.string "x")] [("a", .array [.array [.string "x"]])] = true ∧
        statementHolds .standard [] [.value "a" (.string "x")]
          [("a", .array [.array [.string "x"]])] = some false) ∧
      (Filter.matches [.value "a" (.object [("b", .null)])]
          [("a", .array [.object [("b", .null), ("c", .null)]])] = false ∧
        statementHolds .standard [] [.value "a" (.object [("b", .null)])]
          [("a", .array [.object [("b", .null), ("c", .null)]])] = some true) ∧
      (Filter.matches [.value "a" (.object [("b", .boolean true)])]
          [("a", .object [("b", Json.integer 1)])] = true ∧
        statementHolds .standard [] [.value "a" (.object [("b", .boolean true)])]
          [("a", .object [("b", Json.integer 1)])] = some false) ∧
      Filter.matches [.value "a.0" (.string "x")] [("a", .array [.string "x"])] = false ∧
        statementHolds .standard [] [.value "a.0" (.string "x")]
          [("a", .array [.string "x"])] = some true := by
  decide +kernel

end DocumentGate.Sql
