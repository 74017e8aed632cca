import DocumentGate.Proofs.Exchanges
import DocumentGate.Proofs.Results
import DocumentGate.Service.Fault

/-!
# Deliveries that are not read

A call that fails is refused by the store, with one exception.  The rows that a question finds
are read once the connection has been given back, so that a row which cannot be read is no
fault of the store any more, and callers see no kind of fault.  What is read for an update is
read while the connection is held, and refused.
-/

namespace DocumentGate.Postgres

/-! ## Rows that are delivered -/

/-- The rows that a link answers the next statement with, if it answers. -/
def Link.answeredRows (link : Link) : List Row :=
  match link.broken, link.answers with
  | none, .ok outcome :: _ => outcome.rows
  | _, _ => []

/-- The rows that a connection delivers for the next statement, if it can be held. -/
def Connection.deliveredRows (connection : Connection) (link : Link) : List Row :=
  if connection.isBarred link then [] else link.answeredRows

/-- The result of asking for rows that are delivered, or of which there are none. -/
inductive Delivers {Fault : Type} (rows : List Row) : Except Fault (List Row) → Prop
  | delivered : Delivers rows (.ok rows)
  | failed (fault : Fault) (none : rows = []) : Delivers rows (.error fault)

namespace Delivers

variable {exchange : Exchange (List Row)} {rows : List Row} {link : Link}

theorem fetch (statement : String) (parameters : List Sql.Parameter) (link : Link) :
    Delivers link.answeredRows (Postgres.fetch statement parameters link).1 := by
  obtain ⟨acquiring, broken, answers, requests⟩ := link
  cases broken with
  | some message =>
      exact .failed _ rfl
  | none =>
      cases answers with
      | nil =>
          exact .delivered
      | cons answer rest =>
          cases answer with
          | ok outcome =>
              exact .delivered
          | error failure =>
              exact .failed failure rfl

theorem orWhereMissing (delivers : Delivers rows (exchange link).1) :
    Delivers rows (Postgres.orWhereMissing [] exchange link).1 := by
  cases ran : exchange link with
  | mk result after =>
      rw [ran] at delivers
      cases delivers with
      | delivered =>
          rw [Postgres.orWhereMissing, tryCatch_of_ok ran]
          exact .delivered
      | failed failure none =>
          rw [Postgres.orWhereMissing, tryCatch_of_error ran, none]
          cases failure with
          | missingRelation message =>
              exact .delivered
          | duplicateKey message =>
              exact .failed _ rfl
          | other message =>
              exact .failed _ rfl

theorem holding {dealing : Dealing}
    (delivers : Delivers dealing.link.answeredRows (exchange dealing.link).1)
    (connection : Connection) :
    Delivers (connection.deliveredRows dealing.link)
      (Postgres.holding connection exchange dealing).1 := by
  unfold Connection.deliveredRows
  rcases holding_cases connection dealing with ⟨barred, fault, -, refused⟩ | ⟨free, held⟩
  · rw [refused, barred]
    exact .failed fault rfl
  · rw [held, free]
    generalize (exchange dealing.link).1 = result at delivers ⊢
    cases delivers with
    | delivered =>
        exact .delivered
    | failed failure none =>
        exact .failed _ none

end Delivers

/-! ## Rows that are read -/

/-- The first fault of reading rows one by one. -/
def firstFault {Value : Type} (read : Row → Except DocumentFault Value) (rows : List Row) :
    Option DocumentFault :=
  rows.findSome? fun row => errorOf? (read row)

/-- The document in a row. -/
def documentOf (row : Row) : Except DocumentFault Json :=
  (column "doc" row).bind decodeDocument

/-- Why a row that is delivered for a call cannot be read, if there is such a row. -/
def unread? (connection : Connection) (link : Link) : Store.Call → Option DocumentFault
  | .databases => firstFault (columnText "schema_name") (connection.deliveredRows link)
  | .collections _ => firstFault (columnText "table_name") (connection.deliveredRows link)
  | .find place filter | .findOne place filter =>
    match select place filter with
    | .ok _ => firstFault documentOf (connection.deliveredRows link)
    | .error _ => none
  | .insert .. | .update .. | .delete .. => none

/-! ## Results -/

/-- The result of a call, by the fault of a delivered row that cannot be read. -/
inductive Reports {Value : Type} : Option DocumentFault → Except Store.Fault Value → Prop
  | done (value : Value) : Reports none (.ok value)
  | refused {fault : Store.Fault} (refusal : fault.isRefusal = true) : Reports none (.error fault)
  | unread (cause : DocumentFault) : Reports (some cause) (.error (.delivered cause))

namespace Reports

variable {First Last : Type} {unread? : Option DocumentFault} {result : Except Store.Fault First}

theorem map (reports : Reports unread? result) (make : First → Last) :
    Reports unread? (result.map make) := by
  cases reports with
  | done value =>
      exact .done (make value)
  | refused refusal =>
      exact .refused refusal
  | unread cause =>
      exact .unread cause

/-- What fails while a connection is held is refused. -/
theorem holding (connection : Connection) (exchange : Exchange First) (dealing : Dealing) :
    Reports none (Postgres.holding connection exchange dealing).1 := by
  rcases holding_cases connection dealing with ⟨-, fault, refusal, refused⟩ | ⟨-, held⟩
  · rw [refused]
    exact .refused refusal
  · rw [held]
    cases (exchange dealing.link).1 with
    | ok value =>
        exact .done value
    | error failure =>
        exact .refused rfl

/-- Rows that are asked for and read report the first fault of reading. -/
theorem read {rows : List Row} {result : Except Store.Fault (List Row)}
    (reports : Reports none result) (delivers : Delivers rows result)
    (read : Row → Except DocumentFault Last) :
    Reports (firstFault read rows)
      (result.bind fun rows => (rows.mapM read).mapError .delivered) := by
  cases delivers with
  | failed fault none =>
      rw [none]
      cases reports with
      | refused refusal =>
          exact .refused refusal
  | delivered =>
      change Reports _ ((rows.mapM read).mapError .delivered)
      rw [firstFault, ← errorOf?_mapM]
      cases rows.mapM read with
      | ok values =>
          exact .done values
      | error cause =>
          exact .unread cause

theorem continuing {prepared : Except Store.Fault First} {dealing : Dealing}
    {next : First → Except Store.Fault Last × Dealing}
    (reports : Reports none prepared) (further : ∀ value, Reports none (next value).1) :
    Reports none (Postgres.continuing prepared dealing next).1 := by
  cases reports with
  | done value =>
      exact further value
  | refused refusal =>
      exact .refused refusal

/-- Preparing what is asked is done in steps, of which each may refuse. -/
theorem bind {next : First → Except Store.Fault Last} (reports : Reports none result)
    (further : ∀ value, Reports none (next value)) : Reports none (result >>= next) := by
  cases reports with
  | done value =>
      exact further value
  | refused refusal =>
      exact .refused refusal

theorem mapError {Fault : Type} {result : Except Fault First} {change : Fault → Store.Fault}
    (refuses : ∀ fault, (change fault).isRefusal = true) :
    Reports none (result.mapError change) := by
  cases result with
  | ok value =>
      exact .done value
  | error fault =>
      exact .refused (refuses fault)

theorem select (place : Store.Place) (filter : Json) :
    Reports none (Postgres.select place filter) :=
  .bind (.mapError fun _ => rfl) fun _ => .bind (.mapError fun _ => rfl) fun _ => .done _

end Reports

/-! ## Calls -/

theorem findDocuments_reports (connection : Connection) (place : Store.Place) (filter : Json)
    (onlyFirst : Bool) (dealing : Dealing) :
    Reports (unread? connection dealing.link (.find place filter))
      (findDocuments connection place filter onlyFirst dealing).1 := by
  have selects := Reports.select place filter
  rw [unread?, findDocuments]
  cases selected : select place filter with
  | error fault =>
      rw [selected] at selects
      cases selects with
      | refused refusal =>
          exact .refused refusal
  | ok selection =>
      have delivers := ((Delivers.fetch (selection.findStatement onlyFirst) selection.parameters
        dealing.link).orWhereMissing).holding connection
      have reports := (Reports.holding connection _ dealing).read delivers documentOf
      simp only [← mapM_mapError] at reports
      exact reports

theorem perform_reports (connection : Connection) (call : Store.Call) (dealing : Dealing) :
    Reports (unread? connection dealing.link call) (perform connection call dealing).1 := by
  cases call with
  | databases =>
      exact ((Reports.holding connection _ dealing).read
        ((Delivers.fetch schemaQuery [] dealing.link).holding connection) _).map _
  | collections database =>
      exact ((Reports.holding connection _ dealing).read
        ((Delivers.fetch tableQuery _ dealing.link).holding connection) _).map _
  | find place filter =>
      exact (findDocuments_reports connection place filter false dealing).map _
  | findOne place filter =>
      exact (findDocuments_reports connection place filter true dealing).map _
  | insert place values =>
      refine .continuing ?_ fun (schema, table, documents) => (Reports.holding _ _ _).map _
      exact .bind (.mapError fun _ => rfl) fun _ => .bind (.mapError fun _ => rfl) fun _ =>
        .bind (.mapError fun _ => rfl) fun _ => .done _
  | update place filter update many =>
      refine .continuing ?_ fun (update, selection) => (Reports.holding _ _ _).map _
      exact .bind (.mapError fun _ => rfl) fun _ => .bind (.select place filter) fun _ => .done _
  | delete place filter many =>
      exact .continuing (.select place filter) fun selection => (Reports.holding _ _ _).map _

/--
Whatever the server answers, a call replies, or is refused by the store, which callers see, or
fails with a row that cannot be read, of which they do not see the kind.  The last is so exactly
if such a row is delivered, of which the first counts; what is inserted, updated or deleted is
never among them.
-/
theorem perform_outcomes (connection : Connection) (call : Store.Call) (dealing : Dealing) :
    ((∃ reply, (perform connection call dealing).1 = .ok reply) ∨
        (∃ fault, (perform connection call dealing).1 = .error fault ∧
          Service.Fault.kind? (.backend fault) = some .backendError) ∨
        ∃ cause, (perform connection call dealing).1 = .error (.delivered cause) ∧
          Service.Fault.kind? (.backend (.delivered cause)) = none) ∧
      ∀ cause, (perform connection call dealing).1 = .error (.delivered cause) ↔
        unread? connection dealing.link call = some cause := by
  have reports := perform_reports connection call dealing
  generalize (perform connection call dealing).1 = result at reports ⊢
  generalize unread? connection dealing.link call = unread at reports ⊢
  cases reports with
  | done reply =>
      exact ⟨.inl ⟨reply, rfl⟩, fun cause => iff_of_false nofun nofun⟩
  | @refused fault refusal =>
      refine ⟨.inr (.inl ⟨fault, rfl, by rw [Service.Fault.kind?, if_pos refusal]⟩), ?_⟩
      refine fun cause => iff_of_false (fun same => ?_) nofun
      rw [Except.error.inj same] at refusal
      cases refusal
  | unread cause =>
      refine ⟨.inr (.inr ⟨cause, rfl, rfl⟩), fun other => ?_⟩
      rw [Except.error.injEq, Store.Fault.delivered.injEq, Option.some.injEq]

/-- A document whose text is that of no value. -/
def brokenDocument : Link :=
  { answers := [.ok { rows := [[("doc", .string "x")]] }] }

/-- Whoever looks for a document that cannot be read is not told that the store has failed. -/
theorem find_brokenDocument :
    ∃ cause, errorOf? (perform { default := "public" } (.find ⟨"test", "items"⟩ (.object []))
        ⟨brokenDocument, 0⟩).1 = some (.delivered cause) ∧
      Store.Fault.isRefusal (.delivered cause) = false ∧
      Service.Fault.kind? (.backend (.delivered cause)) ≠ some .backendError := by
  refine ⟨.undecodable (.malformed .expectingValue 0 1 1), ?_, rfl, by decide⟩
  decide +kernel

end DocumentGate.Postgres
