import DocumentGate.Proofs.ReadNumbers
import DocumentGate.Proofs.UnreadFilters
import DocumentGate.Service.Machine
import DocumentGate.Sql.Unread

/-!
# Filters that are settled when they are read

Reading a filter, putting it to a document and compiling it go over its members each on their
own, and each decide for themselves which of them are tests.  They decide alike.  What can be read
is compiled to the condition of the filter, and nothing that the others take for a fault is met on
the way; what cannot be read is refused by all of them with the fault of reading it.
-/

namespace DocumentGate

theorem Filter.object_of_operators {expected : Json} {members : Json.Members}
    (known : Filter.operators? expected = some members) : expected = .object members := by
  unfold Filter.operators? at known
  split at known
  · cases known
  · split_ifs at known
    exact congrArg Json.object (Option.some.inj known)
  · cases known

namespace Sql

variable {field : Term}

/-! ## Steps that cannot fail -/

theorem lift_mapM {Item Result : Type} {step : Item → Compiling Result}
    {trial : Item → CompilingUnread Result} {items : List Item}
    (each : ∀ item ∈ items, trial item = ExceptT.lift (step item)) :
    items.mapM trial = ExceptT.lift (items.mapM step) := by
  induction items with
  | nil =>
      rfl
  | cons first rest ih =>
      rw [List.mapM_cons, List.mapM_cons, each first List.mem_cons_self,
        ih fun item later => each item (List.mem_cons_of_mem first later)]
      rfl

/-! ## Tests -/

theorem equalityUnread_of_fits {operand : Json} (fits : operand.hasOversizedNumber = false) :
    equalityUnread field operand = ExceptT.lift (equality field operand) := by
  rw [equalityUnread, if_neg (Bool.not_eq_true _ ▸ fits)]

theorem fits_of_mem {elements : List Json} (fit : Json.anyOversized elements = false) :
    ∀ element ∈ elements, element.hasOversizedNumber = false := by
  induction elements with
  | nil =>
      simp
  | cons first rest ih =>
      rcases Bool.or_eq_false_iff.mp fit with ⟨here, there⟩
      exact List.forall_mem_cons.mpr ⟨here, ih there⟩

theorem equalsElement_of_fits {operands : List Json} (fit : Json.anyOversized operands = false) :
    equalsElement field (.array operands) = ExceptT.lift (equalsAny field operands) := by
  have each : ∀ operand ∈ operands,
      equalityUnread field operand = ExceptT.lift (equality field operand) :=
    fun operand among => equalityUnread_of_fits (fits_of_mem fit operand among)
  dsimp only [equalsElement, Json.elements?]
  rw [lift_mapM each]
  rfl

/-- An operator is compiled as the test that it is read as. -/
theorem compileOperator_of_read {operator : String} {operand : Json} {test : Test}
    (accepted : Filter.readTest operator operand = .ok test)
    (fits : operand.hasOversizedNumber = false) :
    compileOperator field operator operand = ExceptT.lift (compileTest field test) := by
  cases Filter.standsFor_of_readTest accepted with
  | equal =>
      exact equalityUnread_of_fits fits
  | different =>
      dsimp only [compileOperator]
      rw [equalityUnread_of_fits fits]
      rfl
  | among operands =>
      cases operands with
      | nil =>
          rfl
      | cons first others =>
          exact equalsElement_of_fits fits
  | notAmong operands =>
      cases operands with
      | nil =>
          rfl
      | cons first others =>
          calc compileOperator field "$nin" (.array (first :: others))
            _ = do return .negation (← equalsElement field (.array (first :: others))) := rfl
            _ = ExceptT.lift (compileTest field (.notAmong (first :: others))) := by
              rw [equalsElement_of_fits fits]
              rfl
  | present =>
      rfl
  | greater | greaterOrEqual | less | lessOrEqual =>
      simp only [compileOperator, Filter.relation?, fits, Bool.and_false]
      rfl

theorem compileTests_of_read {members : Json.Members} {tests : List Test}
    (accepted : (members.mapM fun (operator, operand) => Filter.readTest operator operand) =
      .ok tests)
    (fit : Json.anyMemberOversized members = false) :
    (members.mapM fun (operator, operand) => compileOperator field operator operand) =
      ExceptT.lift (tests.mapM (compileTest field)) := by
  induction members generalizing tests with
  | nil =>
      obtain rfl := Except.ok.inj accepted
      rfl
  | cons first rest ih =>
      rcases first with ⟨operator, operand⟩
      rcases Bool.or_eq_false_iff.mp fit with ⟨here, there⟩
      rw [List.mapM_cons] at accepted
      rcases cons_eq_ok accepted with ⟨test, others, read, further, rfl⟩
      simp only [List.mapM_cons, compileOperator_of_read read here, ih further there]
      rfl

/-! ## Clauses -/

theorem compileField_of_read {path : String} {expected : Json} {clause : Clause}
    (accepted : Filter.readField path expected = .ok clause)
    (fits : expected.hasOversizedNumber = false) :
    compileField path expected = ExceptT.lift (compileClause clause) := by
  cases Filter.standsAt_of_readField accepted with
  | @tests members tests known read =>
      obtain rfl := Filter.object_of_operators known
      have each := fun field => @compileTests_of_read field members tests read fits
      simp only [compileField, known, each]
      rfl
  | value plain =>
      have each := fun field => @equalityUnread_of_fits field expected fits
      simp only [compileField, plain, each]
      rfl

/-- A member is compiled as its clause is, if the filters in it are. -/
theorem compileMembers_cons {key : String} {value : Json} {rest : Json.Members}
    {clause : Clause} (accepted : Filter.readClause key value = .ok clause)
    (fits : value.hasOversizedNumber = false)
    (inner : ∀ filters, Filter.readFilters key value = .ok filters →
      compileConnected value = ExceptT.lift (compileAll filters)) :
    compileMembers ((key, value) :: rest) = (do
      let first ← ExceptT.lift (compileClause clause)
      let others ← compileMembers rest
      return first ++ others) := by
  unfold Filter.readClause at accepted
  rw [compileMembers]
  split_ifs at accepted with isAnd isOr isName
  · rcases map_eq_ok accepted with ⟨filters, read, rfl⟩
    rw [if_pos isAnd, inner filters read]
    rfl
  · rcases map_eq_ok accepted with ⟨filters, read, rfl⟩
    rw [if_neg isAnd, if_pos isOr, inner filters read]
    rfl
  · rw [if_neg isAnd, if_neg isOr, compileField_of_read accepted fits]

/-! ## Filters -/

mutual
/-- A value is compiled as the filter that it is read as. -/
theorem compileUnread_of_read : ∀ {value : Json} {filter : Filter},
    Filter.read value = .ok filter → value.hasOversizedNumber = false →
      compileUnread value = ExceptT.lift (compile filter)
  | .object members, filter, accepted, fits => by
      rw [compileUnread, accepted, compileMembers_of_read accepted fits]
      rfl
  | .null, filter, accepted, _ => by cases accepted
  | .boolean value, filter, accepted, _ => by cases accepted
  | .number value, filter, accepted, _ => by cases accepted
  | .string text, filter, accepted, _ => by cases accepted
  | .array elements, filter, accepted, _ => by cases accepted
termination_by structural value => value

theorem compileMembers_of_read : ∀ {members : List (String × Json)} {filter : Filter},
    Filter.readClauses members = .ok filter → Json.anyMemberOversized members = false →
      compileMembers members = ExceptT.lift (compileClauses filter)
  | [], filter, accepted, _ => by
      obtain rfl := Except.ok.inj accepted
      rfl
  | (key, value) :: rest, filter, accepted, fits => by
      rcases Bool.or_eq_false_iff.mp fits with ⟨here, there⟩
      rw [Filter.readClauses_cons] at accepted
      rcases cons_eq_ok accepted with ⟨clause, clauses, read, further, rfl⟩
      rw [compileMembers_cons read here fun filters listed =>
        compileConnected_of_read listed here, compileMembers_of_read further there]
      rfl
termination_by structural members => members

theorem compileConnected_of_read {connective : String} : ∀ {value : Json} {filters : List Filter},
    Filter.readFilters connective value = .ok filters → value.hasOversizedNumber = false →
      compileConnected value = ExceptT.lift (compileAll filters)
  | .array (first :: others), filters, accepted, fits => by
      rcases Bool.or_eq_false_iff.mp fits with ⟨here, there⟩
      rcases cons_eq_ok accepted with ⟨filter, further, read, readFurther, rfl⟩
      rw [compileConnected, compileEach, compileUnread_of_read read here,
        compileEach_of_read readFurther there]
      rfl
  | .array [], filters, accepted, _ => by cases accepted
  | .object members, filters, accepted, _ => by cases accepted
  | .null, filters, accepted, _ => by cases accepted
  | .boolean value, filters, accepted, _ => by cases accepted
  | .number value, filters, accepted, _ => by cases accepted
  | .string text, filters, accepted, _ => by cases accepted
termination_by structural value => value

theorem compileEach_of_read : ∀ {values : List Json} {filters : List Filter},
    Filter.readAll values = .ok filters → Json.anyOversized values = false →
      compileEach values = ExceptT.lift (compileAll filters)
  | [], filters, accepted, _ => by
      obtain rfl := Except.ok.inj accepted
      rfl
  | first :: others, filters, accepted, fits => by
      rcases Bool.or_eq_false_iff.mp fits with ⟨here, there⟩
      rcases cons_eq_ok accepted with ⟨filter, further, read, readFurther, rfl⟩
      rw [compileEach, compileUnread_of_read read here, compileEach_of_read readFurther there]
      rfl
termination_by structural values => values
end

/-- What cannot be read is not compiled, and nothing is added for it. -/
theorem compileUnread_of_fault {value : Json} {fault : Filter.Fault}
    (refused : Filter.read value = .error fault) (parameters : List Parameter) :
    (compileUnread value).run.run parameters = (.error (.filter fault), parameters) := by
  cases value with
  | object members =>
      rw [compileUnread, refused]
      rfl
  | _ =>
      obtain rfl := Except.error.inj refused
      rfl

end Sql

/-! ## Filters that are asked for -/

namespace Filter

/-- The value is refused with one fault, whoever is asked. -/
structure Refused (value : Json) (fault : Fault) : Prop where
  compiling : ∀ parameters,
    (Sql.compileUnread value).run.run parameters = (.error (.filter fault), parameters)
  memory : ∀ default place keeping,
    Store.Cluster.perform default (.find place value) keeping = (.error (.filter fault), keeping)
  tables : ∀ connection place table dealing,
    Sql.tableName place.database place.collection = .ok table →
      Postgres.perform connection (.find place value) dealing = (.error (.filter fault), dealing)
  worded : (Store.Fault.filter fault).message = (Sql.UnreadFault.filter fault).message

/-- The value is answered for wherever a filter is asked for. -/
structure Accepted (value : Json) (filter : Filter) : Prop where
  matched : ∀ document, matchesUnread document value = .ok (filter.matches document)
  compiled : value.hasOversizedNumber = false → ∀ parameters,
    (Sql.compileUnread value).run.run parameters =
      (.ok ((Sql.compile filter).run parameters).1, ((Sql.compile filter).run parameters).2)

/-- Reading a value settles what becomes of it. -/
structure IsSettled (value : Json) : Prop where
  accepted : ∀ filter, read value = .ok filter → Accepted value filter
  refused : ∀ fault, read value = .error fault → Refused value fault
  /-- A value of a text has no number that cannot be written. -/
  written : ∀ text, Json.read text = .ok value → value.hasOversizedNumber = false

theorem accepted_of_read {value : Json} {filter : Filter} (accepted : read value = .ok filter) :
    Accepted value filter where
  matched _ := matchesUnread_of_read accepted
  compiled fits parameters := by
    rw [Sql.compileUnread_of_read accepted fits]
    rfl

theorem refused_of_read {value : Json} {fault : Fault} (refused : read value = .error fault) :
    Refused value fault where
  compiling := Sql.compileUnread_of_fault refused
  memory default place keeping := by
    dsimp only [Store.Cluster.perform, Store.Cluster.find, Store.Cluster.readFilter]
    rw [refused]
    rfl
  tables connection place table dealing usable := by
    dsimp only [Postgres.perform, Postgres.findDocuments, Postgres.select, Postgres.tableOf]
    rw [usable, refused]
    rfl
  worded := rfl

/-- Whatever value is given for a filter, reading it settles what becomes of it. -/
theorem read_settles (value : Json) : IsSettled value where
  accepted _ := accepted_of_read
  refused _ := refused_of_read
  written _ := Json.fits_of_read

/-- A store in memory that was closed, called to find what a text asks for. -/
def calledWhenShut : Service.Machine :=
  let backend := Backend.memory "c" "test" true
  let world :=
    { Service.World.ofSettings .defaults {} [] with handles := [.ofBackend "c" backend] }
  (Service.Machine.submit { world := world } "find"
    (.call 0 (.find ⟨"test", "items"⟩ (.string "x")))).settle

/-- A closed store and a database that cannot be are found fault with before the value is. -/
theorem text_refused_otherwise :
    read (.string "x") = .error .notObject ∧
      calledWhenShut.answers = [("find", .fault (.store .closed))] ∧
      (Postgres.perform { default := "public" } (.find ⟨"", "items"⟩ (.string "x"))
          ⟨{}, 0⟩).1 = .error (.database ⟨""⟩) :=
  ⟨rfl, rfl, rfl⟩

end Filter

end DocumentGate
