import DocumentGate.Proofs.CompiledFilters
import DocumentGate.Proofs.StatementLexemes

/-!
# Placeholders of statements

Compiling a filter adds a parameter for each path and each operand, in the order in which they
are met.  The text of the condition has a placeholder for each of them, with one exception: the
path of a field whose tests all have an answer that does not depend on the document is added
although nothing refers to it.
-/

namespace DocumentGate.Sql

/-! ## Placeholders -/

/-- The number of a placeholder. -/
def Lexeme.number? : Lexeme → Option Nat
  | .placeholder number => some number
  | _ => none

/-- The numbers of the placeholders among lexemes. -/
def numbers (found : List Lexeme) : List Nat :=
  found.filterMap Lexeme.number?

/-- The numbers of the placeholders in a text. -/
def placeholders? (text : String) : Option (List Nat) :=
  (lexemes? text).map numbers

example : placeholders? "a = $2 OR b = '$3' OR $10 = $2" = some [2, 10, 2] := by
  decide

section Lexemes

variable (found others : List Lexeme)

@[simp]
theorem numbers_nil : numbers [] = [] :=
  rfl

@[simp]
theorem numbers_append : numbers (found ++ others) = numbers found ++ numbers others :=
  List.filterMap_append

@[simp]
theorem numbers_mark (character : Char) : numbers (.mark character :: found) = numbers found :=
  rfl

theorem numbers_closed (character : Char) :
    numbers (found ++ [.mark character]) = numbers found := by
  rw [numbers_append, numbers_mark, numbers_nil, List.append_nil]

end Lexemes

/-- The numbers of the placeholders in a term. -/
def Term.placeholders (term : Term) : List Nat :=
  numbers term.lexemes

/-- The numbers of the placeholders in a condition. -/
def Condition.placeholders (condition : Condition) : List Nat :=
  numbers condition.lexemes

theorem placeholders?_written (condition : Condition) :
    placeholders? condition.written = some condition.placeholders := by
  rw [placeholders?, lexemes?_written]
  rfl

section Parts

variable (condition left right : Condition) (term other : Term)

@[simp]
theorem placeholders_field (number : Nat) : (Term.field number).placeholders = [number] :=
  rfl

@[simp]
theorem placeholders_parameter (number : Nat) : (Term.parameter number).placeholders = [number] :=
  rfl

@[simp]
theorem placeholders_jsonNull : Term.jsonNull.placeholders = [] :=
  rfl

@[simp]
theorem placeholders_arrayType : Term.arrayType.placeholders = [] :=
  rfl

@[simp]
theorem placeholders_typeOf : (Term.typeOf term).placeholders = term.placeholders :=
  numbers_closed term.lexemes ')'

@[simp]
theorem placeholders_listOf : (Term.listOf term).placeholders = term.placeholders :=
  numbers_closed term.lexemes ')'

@[simp]
theorem placeholders_constant (value : Bool) : (Condition.constant value).placeholders = [] := by
  cases value <;> rfl

@[simp]
theorem placeholders_isAbsent : (Condition.isAbsent term).placeholders = term.placeholders :=
  (numbers_append term.lexemes _).trans (List.append_nil _)

@[simp]
theorem placeholders_isPresent : (Condition.isPresent term).placeholders = term.placeholders :=
  (numbers_append term.lexemes _).trans (List.append_nil _)

@[simp]
theorem placeholders_compare (comparison : Comparison) :
    (Condition.compare comparison term other).placeholders =
      term.placeholders ++ other.placeholders :=
  numbers_append term.lexemes (operator comparison.symbol :: other.lexemes)

@[simp]
theorem placeholders_orFalse :
    (Condition.orFalse condition).placeholders = condition.placeholders :=
  (numbers_append condition.lexemes _).trans (List.append_nil _)

@[simp]
theorem placeholders_negation :
    (Condition.negation condition).placeholders = condition.placeholders :=
  rfl

@[simp]
theorem placeholders_both :
    (Condition.both left right).placeholders = left.placeholders ++ right.placeholders :=
  numbers_append left.lexemes (word "AND" :: right.lexemes)

@[simp]
theorem placeholders_either :
    (Condition.either left right).placeholders = left.placeholders ++ right.placeholders :=
  numbers_append left.lexemes (word "OR" :: right.lexemes)

@[simp]
theorem placeholders_group :
    (Condition.group condition).placeholders = condition.placeholders :=
  numbers_closed condition.lexemes ')'

end Parts

/-- Joining conditions neither adds nor drops placeholders. -/
theorem placeholders_foldl {join : Condition → Condition → Condition}
    (joined : ∀ left right,
      (join left right).placeholders = left.placeholders ++ right.placeholders)
    (first : Condition) (conditions : List Condition) :
    (conditions.foldl join first).placeholders =
      first.placeholders ++ conditions.flatMap Condition.placeholders := by
  induction conditions generalizing first with
  | nil =>
      exact (List.append_nil _).symm
  | cons next rest ih =>
      rw [List.foldl_cons, ih, joined, List.append_assoc, List.flatMap_cons]

@[simp]
theorem placeholders_conjunction (conditions : List Condition) :
    (Condition.conjunction conditions).placeholders =
      conditions.flatMap Condition.placeholders := by
  cases conditions with
  | nil =>
      rfl
  | cons first rest =>
      exact placeholders_foldl placeholders_both first rest

@[simp]
theorem placeholders_disjunction (conditions : List Condition) :
    (Condition.disjunction conditions).placeholders =
      conditions.flatMap Condition.placeholders := by
  cases conditions with
  | nil =>
      rfl
  | cons first rest =>
      exact placeholders_foldl placeholders_either first rest

/-! ## What is sent with a statement -/

/-- A parameter that compiling adds, and whether the condition refers to it. -/
structure Sent where
  parameter : Parameter
  isUsed : Bool
deriving DecidableEq, Repr

/-- An operand that is sent; null is part of the statement itself. -/
def operandSent : Json → List Sent
  | .null => []
  | operand => [⟨.text (Json.text operand), true⟩]

/-- The operands of a test that are sent. -/
def testSent : Test → List Sent
  | .equal operand => operandSent operand
  | .different operand => operandSent operand
  | .ordered _ operand => if isOrderable operand then [⟨.text (Json.text operand), true⟩] else []
  | .among operands => operands.flatMap operandSent
  | .notAmong operands => operands.flatMap operandSent
  | .present _ => []

/-- The answer to the test depends on the document. -/
def asks : Test → Bool
  | .ordered _ operand => isOrderable operand
  | .among operands => !operands.isEmpty
  | .notAmong operands => !operands.isEmpty
  | _ => true

mutual
/-- What is sent for a clause. -/
def clauseSent : Clause → List Sent
  | .all filters => allSent filters
  | .any filters => allSent filters
  | .value path expected => ⟨.path (Document.segments path), true⟩ :: operandSent expected
  | .tests path tests =>
    ⟨.path (Document.segments path), tests.any asks⟩ :: tests.flatMap testSent
termination_by structural clause => clause

/-- What is sent for clauses. -/
def sent : List Clause → List Sent
  | [] => []
  | clause :: rest => clauseSent clause ++ sent rest
termination_by structural clauses => clauses

/-- What is sent for filters. -/
def allSent : List (List Clause) → List Sent
  | [] => []
  | filter :: rest => sent filter ++ allSent rest
termination_by structural filters => filters
end

/-- The numbers of the parameters that are used, after so many others. -/
def usedNumbers (before : Nat) : List Sent → List Nat
  | [] => []
  | first :: rest =>
    (if first.isUsed then [before + 1] else []) ++ usedNumbers (before + 1) rest

@[simp]
theorem usedNumbers_single (before : Nat) (parameter : Parameter) :
    usedNumbers before [⟨parameter, true⟩] = [before + 1] :=
  rfl

theorem usedNumbers_append (before : Nat) (first others : List Sent) :
    usedNumbers before (first ++ others) =
      usedNumbers before first ++ usedNumbers (before + first.length) others := by
  induction first generalizing before with
  | nil =>
      rfl
  | cons next rest ih =>
      rw [List.cons_append, usedNumbers, usedNumbers, ih, List.append_assoc, List.length_cons,
        Nat.add_assoc, Nat.add_comm 1]

/-- A number is used where the parameter in its place is. -/
theorem mem_usedNumbers {before number : Nat} {sent : List Sent} :
    number ∈ usedNumbers before sent ↔
      ∃ index parameter, sent[index]? = some ⟨parameter, true⟩ ∧ number = before + index + 1 := by
  induction sent generalizing before with
  | nil =>
      simp [usedNumbers]
  | cons first rest ih =>
      rw [usedNumbers, List.mem_append, ih]
      constructor
      · rintro (here | ⟨index, parameter, found, rfl⟩)
        · rcases first with ⟨parameter, used⟩
          cases used with
          | false =>
              cases here
          | true =>
              exact ⟨0, parameter, rfl, List.mem_singleton.mp here⟩
        · exact ⟨index + 1, parameter, found, by omega⟩
      · rintro ⟨index, parameter, found, rfl⟩
        cases index with
        | zero =>
            rw [Option.some.inj found]
            exact .inl (List.mem_singleton.mpr rfl)
        | succ index =>
            exact .inr ⟨index, parameter, found, by omega⟩

/-! ## Compiling with numbers -/

/-- The places are the ones given and those of the parameters that are used. -/
def Places (places given : List Nat) (before : Nat) (sent : List Sent) : Prop :=
  ∀ number, number ∈ places ↔ number ∈ given ∨ number ∈ usedNumbers before sent

/-- The computation adds the parameters, and its result has the property after so many others. -/
def Sends {Result : Type} (computation : Compiling Result) (sent : List Sent)
    (holds : Nat → Result → Prop) : Prop :=
  ∀ before, (computation.run before).2 = before ++ sent.map Sent.parameter ∧
    holds before.length (computation.run before).1

namespace Sends

variable {First Result : Type} {added others : List Sent} {holds : Nat → Result → Prop}

theorem pure {result : Result} (all : ∀ before, holds before result) :
    Sends (Pure.pure result) [] holds := by
  intro before
  exact ⟨(List.append_nil before).symm, all _⟩

theorem bind {first : Compiling First} {next : First → Compiling Result}
    {between : Nat → First → Prop} (sends : Sends first added between)
    (further : ∀ result, Sends (next result) others fun before last =>
      ∀ start, before = start + added.length → between start result → holds start last) :
    Sends (first >>= next) (added ++ others) holds := by
  intro before
  rcases sends before with ⟨after, property⟩
  rcases further (first.run before).1 (before ++ added.map Sent.parameter) with ⟨afterAll, last⟩
  have ran : (first >>= next).run before =
      (next (first.run before).1).run (before ++ added.map Sent.parameter) := by
    rw [← after]
    rfl
  rw [ran]
  refine ⟨by rw [afterAll, List.append_assoc, List.map_append], ?_⟩
  exact last before.length (by rw [List.length_append, List.length_map]) property

/-- What is made of a result adds nothing. -/
theorem map {first : Compiling First} {make : First → Result} {between : Nat → First → Prop}
    (sends : Sends first added between)
    (made : ∀ before result, between before result → holds before (make result)) :
    Sends (do return make (← first)) added holds := by
  intro before
  rcases sends before with ⟨after, property⟩
  exact ⟨after, made _ _ property⟩

theorem addParameter (parameter : Parameter) (isUsed : Bool) :
    Sends (Sql.addParameter parameter) [⟨parameter, isUsed⟩] fun before number =>
      number = before + 1 := by
  intro before
  refine ⟨rfl, ?_⟩
  show (before ++ [parameter]).length = _
  rw [List.length_append, List.length_singleton]

theorem fieldAt (path : String) (isUsed : Bool) :
    Sends (Sql.fieldAt path) [⟨.path (Document.segments path), isUsed⟩] fun before field =>
      field.placeholders = [before + 1] := by
  apply Sends.map (Sends.addParameter _ isUsed)
  rintro before number rfl
  exact placeholders_field _

theorem operandTerm (operand : Json) :
    Sends (Sql.operandTerm operand) [⟨.text (Json.text operand), true⟩] fun before value =>
      value.placeholders = [before + 1] := by
  apply Sends.map (Sends.addParameter _ true)
  rintro before number rfl
  exact placeholders_parameter _

end Sends

/-- Places one after the other are those of the parameters one after the other. -/
theorem Places.append {places further given others : List Nat} {before : Nat}
    {added addedMore : List Sent} (first : Places places given before added)
    (second : Places further others (before + added.length) addedMore) :
    Places (places ++ further) (given ++ others) before (added ++ addedMore) := by
  intro number
  rw [List.mem_append, first number, second number, usedNumbers_append, List.mem_append,
    List.mem_append]
  exact or_or_or_comm

/-- The condition of an equality refers to the field and to the operand that is sent. -/
theorem Sends.equality (field : Term) (operand : Json) :
    Sends (Sql.equality field operand) (operandSent operand) fun before condition =>
      Places condition.placeholders field.placeholders before (operandSent operand) := by
  unfold Sql.equality
  split
  · apply Sends.pure
    intro before number
    simp [operandSent, usedNumbers]
  · apply Sends.map (Sends.operandTerm _)
    intro before value isPlace number
    simp [operandSent, isPlace]
  · rename_i notNull _
    rw [operandSent]
    · apply Sends.map (Sends.operandTerm _)
      intro before value isPlace number
      simp only [placeholders_orFalse, placeholders_either, placeholders_compare,
        placeholders_group, placeholders_both, placeholders_typeOf, placeholders_arrayType,
        placeholders_listOf, isPlace, usedNumbers_single]
      grind
    · exact notNull

/-- What is compiled one by one has the places of each. -/
theorem Sends.mapM {α Result : Type} {items : List α} {compileOne : α → Compiling Result}
    {placesOf : Result → List Nat} {given : α → List Nat} {sentFor : α → List Sent}
    (each : ∀ item ∈ items, Sends (compileOne item) (sentFor item) fun before result =>
      Places (placesOf result) (given item) before (sentFor item)) :
    Sends (items.mapM compileOne) (items.flatMap sentFor) fun before results =>
      Places (results.flatMap placesOf) (items.flatMap given) before (items.flatMap sentFor) := by
  induction items with
  | nil =>
      apply Sends.pure
      intro before number
      simp [usedNumbers]
  | cons first rest ih =>
      rw [List.forall_mem_cons] at each
      rw [List.mapM_cons, List.flatMap_cons]
      apply Sends.bind each.1
      intro result
      apply Sends.map (ih each.2)
      rintro _ results placesMore before rfl places
      exact places.append placesMore

theorem Sends.equalsAny (field : Term) {operands : List Json} (some : operands ≠ []) :
    Sends (Sql.equalsAny field operands) (operands.flatMap operandSent) fun before condition =>
      Places condition.placeholders field.placeholders before (operands.flatMap operandSent) := by
  apply Sends.map (Sends.mapM fun operand _ => Sends.equality field operand)
  intro before conditions places number
  rcases List.exists_cons_of_ne_nil some with ⟨first, rest, rfl⟩
  have given : number ∈ (first :: rest).flatMap (fun _ => field.placeholders) ↔
      number ∈ field.placeholders := by
    simp
  rw [placeholders_group, placeholders_disjunction, places number, given]

/-- The condition of a test refers to the field where the answer depends on the document. -/
theorem Sends.compileTest (field : Term) (test : Test) :
    Sends (Sql.compileTest field test) (testSent test) fun before condition =>
      Places condition.placeholders (if asks test then field.placeholders else []) before
        (testSent test) := by
  have constant : ∀ {value : Bool},
      Sends (Pure.pure (Condition.constant value)) [] fun before condition =>
        Places condition.placeholders [] before [] := by
    intro value
    apply Sends.pure
    intro before number
    simp [usedNumbers]
  cases test with
  | equal operand =>
      exact Sends.equality field operand
  | different operand =>
      apply Sends.map (Sends.equality field operand)
      intro before condition places
      rw [placeholders_negation]
      exact places
  | present wanted =>
      apply Sends.pure
      intro before number
      cases wanted <;>
        simp [asks, usedNumbers, testSent]
  | among operands =>
      cases operands with
      | nil =>
          exact constant
      | cons first rest =>
          exact Sends.equalsAny field (List.cons_ne_nil first rest)
  | notAmong operands =>
      cases operands with
      | nil =>
          exact constant
      | cons first rest =>
          apply Sends.map (Sends.equalsAny field (List.cons_ne_nil first rest))
          intro before condition places
          rw [placeholders_negation]
          exact places
  | ordered relation operand =>
      rw [Sql.compileTest, testSent, asks]
      cases isOrderable operand with
      | true =>
          apply Sends.map (Sends.operandTerm operand)
          intro before value isPlace number
          rw [if_pos rfl, if_pos rfl, usedNumbers_single]
          simp only [placeholders_orFalse, placeholders_both, placeholders_compare,
            placeholders_typeOf, isPlace]
          grind
      | false =>
          exact constant

/-- The conditions refer to what is sent, and to nothing that was there before. -/
def RefersTo (sent : List Sent) (before : Nat) (conditions : List Condition) : Prop :=
  Places (conditions.flatMap Condition.placeholders) [] before sent

mutual
/-- The conditions of a clause refer to what is sent for it and is used. -/
theorem Sends.compileClause : ∀ clause : Clause,
    Sends (Sql.compileClause clause) (clauseSent clause) (RefersTo (clauseSent clause))
  | .all filters => by
      apply Sends.map (Sends.compileAll filters)
      intro before conditions places
      simpa [RefersTo, clauseSent] using places
  | .any filters => by
      apply Sends.map (Sends.compileAll filters)
      intro before conditions places
      simpa [RefersTo, clauseSent] using places
  | .value path expected => by
      apply Sends.bind (Sends.fieldAt path true)
      intro field
      apply Sends.map (Sends.equality field expected)
      rintro _ condition places before rfl isPlace number
      have places := places number
      rw [isPlace] at places
      simpa [clauseSent, usedNumbers] using places
  | .tests path tests => by
      apply Sends.bind (Sends.fieldAt path (tests.any asks))
      intro field
      have each := Sends.mapM fun test (_ : test ∈ tests) => Sends.compileTest field test
      intro before
      rcases each before with ⟨after, places⟩
      refine ⟨after, ?_⟩
      intro start next isPlace number
      rw [places number, isPlace, next, clauseSent, usedNumbers, List.mem_append]
      simp [List.mem_flatMap, ← exists_and_right, and_assoc]
termination_by structural clause => clause

/-- The conditions of clauses refer to what is sent for them and is used. -/
theorem Sends.compileClauses : ∀ clauses : List Clause,
    Sends (Sql.compileClauses clauses) (sent clauses) (RefersTo (sent clauses))
  | [] => by
      apply Sends.pure
      intro before number
      simp [sent, usedNumbers]
  | clause :: rest => by
      apply Sends.bind (Sends.compileClause clause)
      intro first
      apply Sends.map (Sends.compileClauses rest)
      rintro _ others placesMore before rfl places
      rw [RefersTo, List.flatMap_append]
      exact places.append placesMore
termination_by structural clauses => clauses

/-- The conditions of filters refer to what is sent for them and is used. -/
theorem Sends.compileAll : ∀ filters : List (List Clause),
    Sends (Sql.compileAll filters) (allSent filters) (RefersTo (allSent filters))
  | [] => by
      apply Sends.pure
      intro before number
      simp [allSent, usedNumbers]
  | filter :: rest => by
      apply Sends.bind (Sends.compileClauses filter)
      intro first
      apply Sends.map (Sends.compileAll rest)
      rintro _ others placesMore before rfl places
      rw [RefersTo, List.flatMap_cons, placeholders_conjunction]
      exact places.append placesMore
termination_by structural filters => filters
end

/-! ## Filters whose parameters are all used -/

mutual
/-- Each field of a clause with tests has one whose answer depends on the document. -/
def clauseAsks : Clause → Bool
  | .all filters => allAsk filters
  | .any filters => allAsk filters
  | .value _ _ => true
  | .tests _ tests => tests.any asks
termination_by structural clause => clause

/-- Each field of clauses with tests has one whose answer depends on the document. -/
def everyFieldAsks : List Clause → Bool
  | [] => true
  | clause :: rest => clauseAsks clause && everyFieldAsks rest
termination_by structural clauses => clauses

/-- Each field of filters with tests has one whose answer depends on the document. -/
def allAsk : List (List Clause) → Bool
  | [] => true
  | filter :: rest => everyFieldAsks filter && allAsk rest
termination_by structural filters => filters
end

theorem operandSent_isUsed (operand : Json) : (operandSent operand).all Sent.isUsed = true := by
  cases operand <;> rfl

theorem testSent_isUsed (test : Test) : (testSent test).all Sent.isUsed = true := by
  have each : ∀ operands : List Json, (operands.flatMap operandSent).all Sent.isUsed = true := by
    intro operands
    rw [List.all_flatMap, List.all_eq_true]
    exact fun operand _ => operandSent_isUsed operand
  cases test with
  | equal operand =>
      exact operandSent_isUsed operand
  | different operand =>
      exact operandSent_isUsed operand
  | ordered relation operand =>
      rw [testSent]
      split <;> rfl
  | among operands =>
      exact each operands
  | notAmong operands =>
      exact each operands
  | present wanted =>
      rfl

mutual
theorem clauseSent_isUsed : ∀ clause : Clause,
    (clauseSent clause).all Sent.isUsed = clauseAsks clause
  | .all filters => allSent_isUsed filters
  | .any filters => allSent_isUsed filters
  | .value path expected => by
      rw [clauseSent, List.all_cons, operandSent_isUsed, clauseAsks]
      rfl
  | .tests path tests => by
      have each : (tests.flatMap testSent).all Sent.isUsed = true := by
        rw [List.all_flatMap, List.all_eq_true]
        exact fun test _ => testSent_isUsed test
      rw [clauseSent, List.all_cons, each, clauseAsks, Bool.and_true]
termination_by structural clause => clause

theorem sent_isUsed : ∀ clauses : List Clause,
    (sent clauses).all Sent.isUsed = everyFieldAsks clauses
  | [] => rfl
  | clause :: rest => by
      rw [sent, List.all_append, clauseSent_isUsed clause, sent_isUsed rest, everyFieldAsks]
termination_by structural clauses => clauses

theorem allSent_isUsed : ∀ filters : List (List Clause),
    (allSent filters).all Sent.isUsed = allAsk filters
  | [] => rfl
  | filter :: rest => by
      rw [allSent, List.all_append, sent_isUsed filter, allSent_isUsed rest, allAsk]
termination_by structural filters => filters
end

/-- All numbers are used where all parameters are. -/
theorem usedNumbers_all {before : Nat} {sent : List Sent} :
    (∀ number, number ∈ usedNumbers before sent ↔
      before < number ∧ number ≤ before + sent.length) ↔ sent.all Sent.isUsed = true := by
  rw [List.all_eq_true]
  constructor
  · intro exactly first member
    rcases List.getElem?_of_mem member with ⟨index, found⟩
    have inside : index < sent.length := (List.getElem?_eq_some_iff.mp found).1
    rcases mem_usedNumbers.mp ((exactly (before + index + 1)).mpr (by omega)) with
      ⟨place, parameter, isThere, same⟩
    obtain rfl : index = place := by omega
    rw [found] at isThere
    rw [Option.some.inj isThere]
  · intro used number
    rw [mem_usedNumbers]
    constructor
    · rintro ⟨index, parameter, found, rfl⟩
      have inside : index < sent.length := (List.getElem?_eq_some_iff.mp found).1
      omega
    · rintro ⟨after, within⟩
      have inside : number - before - 1 < sent.length := by omega
      refine ⟨number - before - 1, sent[number - before - 1].parameter, ?_, by omega⟩
      rw [List.getElem?_eq_getElem inside, ← used _ (List.getElem_mem inside)]

/--
Compiling a filter adds a parameter for each path and operand of the filter.  The placeholders in
the text are those of the added parameters that are used, and these are all of them exactly when
each field with tests has one whose answer depends on the document.
-/
theorem placeholders_compile (filter : Filter) (before : List Parameter) :
    ∃ found, placeholders? ((compile filter).run before).1.written = some found ∧
      ((compile filter).run before).2 = before ++ (sent filter).map Sent.parameter ∧
      (∀ number, number ∈ found ↔ ∃ index parameter,
        (sent filter)[index]? = some ⟨parameter, true⟩ ∧ number = before.length + index + 1) ∧
      ((∀ number, number ∈ found ↔
          before.length < number ∧ number ≤ ((compile filter).run before).2.length) ↔
        everyFieldAsks filter = true) := by
  have sends : Sends (compile filter) (sent filter) fun start condition =>
      ∀ number, number ∈ condition.placeholders ↔ number ∈ usedNumbers start (sent filter) := by
    apply Sends.map (Sends.compileClauses filter)
    intro start conditions places number
    rw [placeholders_conjunction, places number]
    simp
  rcases sends before with ⟨after, places⟩
  refine ⟨_, placeholders?_written _, after, ?_, ?_⟩
  · intro number
    rw [places number, mem_usedNumbers]
  · rw [← sent_isUsed, ← @usedNumbers_all before.length, after, List.length_append,
      List.length_map]
    exact forall_congr' fun number => by rw [places number]

/-- The path of a field that is asked to be among no values is sent, but nothing refers to it. -/
theorem placeholders_amongNone :
    (Filter.read (.object [("a", .object [("$in", .array [])])])).toOption.map
        (fun filter => ((compile filter).run []).1.written) = some "FALSE" ∧
      placeholders? "FALSE" = some [] ∧
      ((compile [.tests "a" [.among []]]).run []).2 = [.path ["a"]] ∧
      ¬ ∀ (filter : Filter) (before : List Parameter) (found : List Nat),
        placeholders? ((compile filter).run before).1.written = some found →
          ∀ number, number ∈ found ↔
            before.length < number ∧ number ≤ ((compile filter).run before).2.length := by
  refine ⟨by decide, by decide, by decide, ?_⟩
  intro exactly
  have found := (exactly [.tests "a" [.among []]] [] [] (by decide) 1).mpr
    (by decide)
  cases found

end DocumentGate.Sql
