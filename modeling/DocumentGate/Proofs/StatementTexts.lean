import DocumentGate.Proofs.Exchanges
import DocumentGate.Proofs.FilterOutlines

/-!
# Texts of statements

Which statements a call makes depends on what the server answers, and each of them carries the
data of the call as parameters.  Their texts are those of a script, as far as the call comes,
and the script is that of the outline of the call.  So no data stands in a statement: two calls
that differ in nothing but their data make statements of the same texts, whatever happens to
them.
-/

namespace DocumentGate

/-- The call without its data, of which the name of a database in a question for tables is one. -/
def Store.Call.outline : Store.Call → Store.Call
  | .databases => .databases
  | .collections _ => .collections ""
  | .find place filter => .find place (Filter.outline filter)
  | .findOne place filter => .findOne place (Filter.outline filter)
  | .insert place _ => .insert place []
  | .update place filter _ many => .update place (Filter.outline filter) .null many
  | .delete place filter many => .delete place (Filter.outline filter) many

namespace Postgres

/-! ## Scripts -/

/-- The text of a statement. -/
def Request.text? : Request → Option String
  | .fetchValue statement => some statement
  | .fetch statement _ => some statement
  | .execute statement _ => some statement
  | .executeMany statement _ => some statement
  | _ => none

/-- The texts of the statements among requests. -/
def texts (requests : List Request) : List String :=
  requests.filterMap Request.text?

/-- The borders of a transaction have no text. -/
theorem texts_transaction {Value : Type} (inside : List Request) (result : Except Failure Value) :
    texts (.begin :: (inside ++ [ending result])) = texts inside := by
  have last : texts [ending result] = [] := by
    cases result <;> rfl
  calc
    texts (.begin :: (inside ++ [ending result])) = texts (inside ++ [ending result]) := rfl
    _ = texts inside ++ texts [ending result] := List.filterMap_append
    _ = texts inside := by rw [last, List.append_nil]

/-- The texts of statements on the rows that a filter selects. -/
def selectionScript (place : Store.Place) (filter : Json) (make : Selection → List String) :
    List String :=
  match select place filter with
  | .ok selection => make selection
  | .error _ => []

/-- The texts of the statements that a call makes in turn, as far as it comes. -/
def script : Store.Call → List String
  | .databases => [schemaQuery]
  | .collections _ => [tableQuery]
  | .find place filter =>
    selectionScript place filter fun selection => [selection.findStatement false]
  | .findOne place filter =>
    selectionScript place filter fun selection => [selection.findStatement true]
  | .insert place _ =>
    match Sql.schemaName place.database, tableOf place with
    | .ok schema, .ok table => [createSchema schema, createTable table, insertStatement table]
    | _, _ => []
  | .update place filter _ many =>
    selectionScript place filter fun selection =>
      [selection.lockStatement many, replaceStatement selection.table]
  | .delete place filter many =>
    selectionScript place filter fun selection => [selection.deleteStatement many]

/-! ## Selections -/

/-- The rows of a table that a filter selects. -/
def Selection.ofFilter (table : String) (filter : Filter) : Selection :=
  ⟨table, ((Sql.compile filter).run []).1.written, ((Sql.compile filter).run []).2⟩

theorem select_of_read {place : Store.Place} {value : Json} {table : String} {filter : Filter}
    (named : tableOf place = .ok table) (read : Filter.read value = .ok filter) :
    select place value = .ok (.ofFilter table filter) := by
  rw [select, named, read]
  rfl

theorem select_eq_ok {place : Store.Place} {value : Json} {selection : Selection}
    (selected : select place value = .ok selection) :
    ∃ table filter, tableOf place = .ok table ∧ Filter.read value = .ok filter ∧
      selection = .ofFilter table filter := by
  rcases bind_eq_ok selected with ⟨table, named, further⟩
  rcases bind_eq_ok further with ⟨filter, read, -⟩
  have read := mapError_eq_ok read
  rw [select_of_read named read] at selected
  exact ⟨table, filter, named, read, (Except.ok.inj selected).symm⟩

/-- What a filter selects is found in the table and on the condition of its outline. -/
theorem select_outline {place : Store.Place} {value : Json} {selection : Selection}
    (selected : select place value = .ok selection) :
    ∃ parameters, select place (Filter.outline value) =
      .ok ⟨selection.table, selection.condition, parameters⟩ := by
  rcases select_eq_ok selected with ⟨table, filter, named, read, rfl⟩
  rcases Filter.read_outline read with ⟨drawn, readDrawn, step⟩
  have condition : ((Sql.compile drawn).run []).1 = ((Sql.compile filter).run []).1 :=
    congrArg Sql.Condition.conjunction (step [] [] rfl).1.symm
  refine ⟨((Sql.compile drawn).run []).2, ?_⟩
  rw [select_of_read named readDrawn, Selection.ofFilter, condition]
  rfl

/-- The script of the outline is that of the rows that are selected. -/
theorem selectionScript_outline {place : Store.Place} {value : Json} {selection : Selection}
    {make : Selection → List String} (selected : select place value = .ok selection)
    (same : ∀ parameters,
      make ⟨selection.table, selection.condition, parameters⟩ = make selection) :
    selectionScript place (Filter.outline value) make = make selection := by
  rcases select_outline selected with ⟨parameters, drawn⟩
  rw [selectionScript, drawn]
  exact same parameters

/-! ## Exchanges -/

/-- The texts of what the exchange asks are those of the script, as far as it comes. -/
abbrev Follows {Value : Type} (exchange : Exchange Value) (script : List String) : Prop :=
  Asks exchange fun issued _ => texts issued <+: script

namespace Follows

variable {Value : Type} {exchange : Exchange Value} {script : List String}

theorem fetch (statement : String) (parameters : List Sql.Parameter) :
    Follows (Postgres.fetch statement parameters) [statement] :=
  (Asks.fetch statement parameters).mono fun issued _ same => by
    rw [same]
    exact List.prefix_rfl

theorem execute (statement : String) (parameters : List Sql.Parameter) :
    Follows (Postgres.execute statement parameters) [statement] :=
  (Asks.execute statement parameters).mono fun issued _ same => by
    rw [same]
    exact List.prefix_rfl

theorem executeMany (statement : String) (rows : List (String × String)) :
    Follows (Postgres.executeMany statement rows) [statement] :=
  (Asks.executeMany statement rows).mono fun issued _ same => by
    rw [same]
    exact List.prefix_rfl

theorem orWhereMissing {default : Value} (follows : Follows exchange script) :
    Follows (Postgres.orWhereMissing default exchange) script :=
  Asks.orWhereMissing follows

theorem transaction (follows : Follows exchange script) :
    Follows (Postgres.transaction exchange) script := by
  refine (Asks.transaction follows).mono ?_
  rintro _ result ⟨inside, rfl, comes⟩
  rw [texts_transaction]
  exact comes

/-- What follows on a statement follows on its text. -/
theorem after {statement : String} {next : String → Exchange Value}
    (parameters : List Sql.Parameter) (further : ∀ status, Follows (next status) script) :
    Follows (Postgres.execute statement parameters >>= next) (statement :: script) := by
  refine (Asks.execute statement parameters).bind ?_ fun status => (further status).mono ?_
  · rintro _ failure rfl
    simp [texts, Request.text?]
  · rintro later result comes _ rfl
    simpa [texts, Request.text?] using comes

theorem deleteRows (selection : Selection) (many : Bool) :
    Follows (Postgres.deleteRows selection many) [selection.deleteStatement many] :=
  (execute _ _).orWhereMissing

theorem findRows (selection : Selection) (onlyFirst : Bool) :
    Follows (Postgres.findRows selection onlyFirst) [selection.findStatement onlyFirst] :=
  (fetch _ _).orWhereMissing

theorem updateRows (selection : Selection) (update : Update) (many : Bool) :
    Follows (Postgres.updateRows selection update many)
      [selection.lockStatement many, replaceStatement selection.table] := by
  rw [updateRows_eq]
  refine (transaction ((Asks.replaceRows selection update many).mono ?_)).orWhereMissing
  rintro _ result ⟨_, rfl, rfl | ⟨rows, rfl⟩⟩ <;> simp [texts, Request.text?]

theorem insertRows (schema table : String) (rows : List (String × String)) :
    Follows (Postgres.insertRows schema table rows)
      [createSchema schema, createTable table, insertStatement table] := by
  refine after [] fun _ => after [] fun _ => ?_
  refine (transaction (executeMany _ rows)).tryCatch fun failure link => ⟨[], ?_, rfl⟩
  cases failure <;> exact (List.append_nil _).symm

end Follows

/-! ## Calls -/

/-- A call asks something whose texts are those of the script, as far as it comes. -/
def CallFollows (dealing after : Dealing) (script : List String) : Prop :=
  ∃ issued, after.link.requests = dealing.link.requests ++ issued ∧ texts issued <+: script

variable {connection : Connection} {dealing : Dealing} {script : List String}

theorem callFollows_self : CallFollows dealing dealing script :=
  ⟨[], (List.append_nil _).symm, List.nil_prefix⟩

theorem callFollows_holding {Value : Type} {exchange : Exchange Value}
    (follows : Follows exchange script) (connection : Connection) (dealing : Dealing) :
    CallFollows dealing (holding connection exchange dealing).2 script := by
  rcases holding_cases connection dealing with ⟨-, fault, -, refused⟩ | ⟨-, held⟩
  · rw [refused]
    exact callFollows_self
  · rw [held]
    exact follows dealing.link

theorem callFollows_continuing {First Last : Type} {prepared : Except Store.Fault First}
    {next : First → Except Store.Fault Last × Dealing}
    (further : ∀ value, prepared = .ok value → CallFollows dealing (next value).2 script) :
    CallFollows dealing (continuing prepared dealing next).2 script := by
  cases prepared with
  | ok value =>
      exact further value rfl
  | error fault =>
      exact callFollows_self

theorem perform_callFollows (connection : Connection) (call : Store.Call) (dealing : Dealing) :
    CallFollows dealing (perform connection call dealing).2 (Postgres.script call.outline) := by
  cases call with
  | databases =>
      exact callFollows_holding (.fetch schemaQuery []) connection dealing
  | collections database =>
      exact callFollows_holding (.fetch tableQuery _) connection dealing
  | find place filter =>
      refine callFollows_continuing fun selection selected => ?_
      rw [Store.Call.outline, Postgres.script, selectionScript_outline selected fun _ => rfl]
      exact callFollows_holding (.findRows selection false) connection dealing
  | findOne place filter =>
      refine callFollows_continuing fun selection selected => ?_
      rw [Store.Call.outline, Postgres.script, selectionScript_outline selected fun _ => rfl]
      exact callFollows_holding (.findRows selection true) connection dealing
  | insert place values =>
      refine callFollows_continuing fun (schema, table, documents) prepared => ?_
      rcases bind_eq_ok prepared with ⟨identified, -, prepared⟩
      rcases bind_eq_ok prepared with ⟨table, named, prepared⟩
      rcases bind_eq_ok prepared with ⟨schema, schemaNamed, same⟩
      obtain ⟨rfl, rfl, rfl⟩ := Prod.mk.inj (Except.ok.inj same)
      rw [Store.Call.outline, Postgres.script, mapError_eq_ok schemaNamed, named]
      exact callFollows_holding (.insertRows schema table _) connection _
  | update place filter update many =>
      refine callFollows_continuing fun (update, selection) prepared => ?_
      rcases bind_eq_ok prepared with ⟨update, -, prepared⟩
      rcases bind_eq_ok prepared with ⟨selection, selected, same⟩
      obtain ⟨rfl, rfl⟩ := Prod.mk.inj (Except.ok.inj same)
      rw [Store.Call.outline, Postgres.script, selectionScript_outline selected fun _ => rfl]
      exact callFollows_holding (.updateRows selection update many) connection dealing
  | delete place filter many =>
      refine callFollows_continuing fun selection selected => ?_
      rw [Store.Call.outline, Postgres.script, selectionScript_outline selected fun _ => rfl]
      exact callFollows_holding (.deleteRows selection many) connection dealing

/--
Of two calls that differ in nothing but their data, the one makes the statements that the other
makes first, to the letter, wherever and whenever they are made.
-/
theorem perform_sameTexts {call other : Store.Call} (same : call.outline = other.outline)
    (connection elsewhere : Connection) (dealing meanwhile : Dealing) :
    ∃ issued others,
      (perform connection call dealing).2.link.requests = dealing.link.requests ++ issued ∧
        (perform elsewhere other meanwhile).2.link.requests =
          meanwhile.link.requests ++ others ∧
        (texts issued <+: texts others ∨ texts others <+: texts issued) := by
  rcases perform_callFollows connection call dealing with ⟨issued, requests, comes⟩
  rcases perform_callFollows elsewhere other meanwhile with ⟨others, otherRequests, otherComes⟩
  rw [← same] at otherComes
  exact ⟨issued, others, requests, otherRequests,
    List.prefix_or_prefix_of_prefix comes otherComes⟩

/-- The documents of one with a name who was born in one of two years, or at no known time. -/
def findNamed : Store.Call :=
  .find ⟨"app", "users"⟩ (.object [("name", .string "ada"),
    ("life.born", .object [("$in", .array [.integer 1815, .integer 1816, .null])])])

/-- The same question with other names, in which there is text that looks like a statement. -/
def findHostile : Store.Call :=
  .find ⟨"app", "users"⟩ (.object [("a') OR TRUE --", .string "'; DROP TABLE users; --"),
    ("\" = $1", .object [("$in", .array [.string "1815", .boolean true, .null])])])

/-- A hostile question makes the statement that a plain one makes. -/
theorem findHostile_sameTexts :
    findNamed.outline = findHostile.outline ∧
      (∃ issued others,
        (perform { default := "app" } findNamed ⟨{}, 0⟩).2.link.requests = [] ++ issued ∧
          (perform { default := "test" } findHostile
              ⟨{ broken := some "gone" }, 0⟩).2.link.requests = [] ++ others ∧
          (texts issued <+: texts others ∨ texts others <+: texts issued)) ∧
      (texts (perform { default := "app" } findHostile ⟨{}, 0⟩).2.link.requests).length = 1 :=
  ⟨rfl, @perform_sameTexts findNamed findHostile rfl _ _ ⟨{}, 0⟩ ⟨{ broken := some "gone" }, 0⟩,
    by decide +kernel⟩

end Postgres

end DocumentGate
