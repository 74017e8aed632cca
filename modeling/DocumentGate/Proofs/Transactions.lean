import DocumentGate.Proofs.Exchanges
import DocumentGate.Proofs.Results

/-!
# Transactions of calls that write

A call that writes documents makes what it needs, and writes in one transaction: what is asked
after a begin are statements, and then a commit or a rollback as the last request of the call.
Which of the two it is, and what is replied, depends on nothing but the outcome of what the
transaction is made of.
-/

namespace DocumentGate.Postgres

/-! ## Writes -/

/-- The request is a statement. -/
def Request.isStatement : Request → Bool
  | .fetch .. | .execute .. | .executeMany .. => true
  | _ => false

/-- The request is a statement that makes what is missing. -/
def Request.Makes (request : Request) : Prop :=
  ∃ statement, request = .execute statement []

/-- What a call that writes does while a connection is held. -/
structure Write where
  /-- What is made before the transaction. -/
  opening : Exchange Unit
  /-- What the transaction is made of. -/
  body : Exchange Store.Reply
  /-- What is replied where the table does not exist. -/
  missing : Option Store.Reply
  /-- What a failure of the transaction is for the store. -/
  rename : Failure → Failure
  opens : AsksOnly opening Request.Makes
  states : AsksOnly body fun request => request.isStatement

namespace Write

/-- What is made of a failure of the transaction. -/
def mend (write : Write) : Failure → Except Failure Store.Reply
  | .missingRelation message =>
    match write.missing with
    | some reply => .ok reply
    | none => .error (write.rename (.missingRelation message))
  | failure => .error (write.rename failure)

/-- The transaction, with its failures mended. -/
def mended (write : Write) : Exchange Store.Reply :=
  tryCatch (transaction write.body) fun failure => MonadExcept.ofExcept (write.mend failure)

/-- What is made of the outcome of a transaction, once failures are handled, is a mended one. -/
theorem mended_eq {Value : Type} {write : Write} {body : Exchange Value}
    {make : Value → Store.Reply} {handle : Failure → Exchange Value}
    (made : write.body = make <$> body)
    (handled : ∀ failure, MonadExcept.ofExcept (write.mend failure) = make <$> handle failure) :
    write.mended = make <$> tryCatch (transaction body) handle := by
  rw [map_tryCatch, map_transaction, ← made, mended]
  exact congrArg _ (funext handled)

def exchange (write : Write) : Exchange Store.Reply := do
  write.opening
  write.mended

/-- The outcome of what the transaction is made of, if it is begun. -/
def outcome? (write : Write) (link : Link) : Option (Except Failure Store.Reply) :=
  match write.opening link with
  | (.ok _, after) => some (write.body (after.asked .begin)).1
  | (.error _, _) => none

variable {write : Write} {link after : Link}

theorem exchange_of_unopened {failure : Failure}
    (ran : write.opening link = (.error failure, after)) :
    write.exchange link = (.error failure, after) :=
  bind_of_error ran

/-- A write that is opened has the outcome of its transaction, with failures mended. -/
theorem exchange_of_opened (ran : write.opening link = (.ok (), after)) :
    write.exchange link =
      ((write.body (after.asked .begin)).1.tryCatch write.mend,
        (write.body (after.asked .begin)).2.asked
          (ending (write.body (after.asked .begin)).1)) := by
  have opened := transaction_eq write.body after
  refine (bind_of_ok ran).trans ?_
  cases outcome : (write.body (after.asked .begin)).1 with
  | ok reply =>
      rw [outcome] at opened
      exact tryCatch_of_ok opened
  | error failure =>
      rw [outcome] at opened
      refine (tryCatch_of_error opened).trans ?_
      change (MonadExcept.ofExcept (write.mend failure) : Exchange Store.Reply) _ =
        (write.mend failure, _)
      cases write.mend failure <;> rfl

end Write

/-! ## Borders -/

/-- What becomes of a write whose transaction has an outcome: an error, or a reply. -/
inductive Concluded {Fault : Type} (missing : Option Store.Reply) :
    Except Failure Store.Reply → Except Fault Store.Reply → Prop
  /-- The transaction succeeds, and its reply is that of the write. -/
  | done (reply : Store.Reply) : Concluded missing (.ok reply) (.ok reply)
  /-- The transaction fails, and so does the write. -/
  | failed (failure : Failure) (fault : Fault) : Concluded missing (.error failure) (.error fault)
  /-- There is no table for the transaction, and a reply for that. -/
  | absent (message : String) {reply : Store.Reply} (replied : missing = some reply) :
      Concluded missing (.error (.missingRelation message)) (.ok reply)

/--
The requests of a write, by the outcome of what its transaction is made of, and what becomes of
the write.  The transaction ends by its outcome, with the last of the requests.
-/
inductive Bordered {Fault : Type} (missing : Option Store.Reply) :
    Option (Except Failure Store.Reply) → List Request → Except Fault Store.Reply → Prop
  /-- No transaction is begun, and no documents are written. -/
  | unbegun {opening : List Request} (makes : ∀ request ∈ opening, request.Makes)
      (fault : Fault) : Bordered missing none opening (.error fault)
  | begun {opening inside : List Request} {outcome : Except Failure Store.Reply}
      {result : Except Fault Store.Reply} (makes : ∀ request ∈ opening, request.Makes)
      (states : ∀ request ∈ inside, request.isStatement)
      (concluded : Concluded missing outcome result) :
      Bordered missing (some outcome) (opening ++ .begin :: (inside ++ [ending outcome])) result

namespace Bordered

variable {Fault Other : Type} {missing : Option Store.Reply}
  {outcome : Option (Except Failure Store.Reply)} {issued : List Request}
  {result : Except Fault Store.Reply}

/-- Where nothing is asked, nothing is begun. -/
theorem silent (fault : Fault) : Bordered missing none [] (.error fault) :=
  .unbegun (by simp) fault

theorem mapError {change : Fault → Other} (bordered : Bordered missing outcome issued result) :
    Bordered missing outcome issued (result.mapError change) := by
  cases bordered with
  | unbegun makes fault =>
      exact .unbegun makes (change fault)
  | begun makes states concluded =>
      refine .begun makes states ?_
      cases concluded with
      | done reply =>
          exact .done reply
      | failed failure fault =>
          exact .failed failure (change fault)
      | absent message replied =>
          exact .absent message replied

theorem commit_not_mem_of_makes {opening : List Request}
    (makes : ∀ request ∈ opening, request.Makes) : .commit ∉ opening := by
  intro among
  rcases makes _ among with ⟨statement, same⟩
  cases same

/-- A commit is asked exactly if the transaction succeeds. -/
theorem commit_mem_iff (bordered : Bordered missing outcome issued result) :
    .commit ∈ issued ↔ ∃ reply, outcome = some (.ok reply) := by
  cases bordered with
  | unbegun makes fault =>
      exact iff_of_false (commit_not_mem_of_makes makes) nofun
  | @begun opening inside outcome result makes states concluded =>
      have notInside : .commit ∉ inside := fun among => nomatch states _ among
      cases outcome with
      | ok reply =>
          exact iff_of_true (by simp [ending]) ⟨reply, rfl⟩
      | error failure =>
          refine iff_of_false ?_ nofun
          simp [ending, commit_not_mem_of_makes makes, notInside]

/-- What fails has not committed. -/
theorem commit_not_mem_of_error {fault : Fault}
    (bordered : Bordered missing outcome issued (.error fault : Except Fault Store.Reply)) :
    .commit ∉ issued := by
  rw [bordered.commit_mem_iff]
  rintro ⟨reply, rfl⟩
  cases bordered with
  | begun makes states concluded =>
      cases concluded

end Bordered

namespace Write

/-- A mended outcome is what becomes of the write. -/
theorem concluded_mend (write : Write) (outcome : Except Failure Store.Reply) :
    Concluded write.missing outcome (outcome.tryCatch write.mend) := by
  cases outcome with
  | ok reply =>
      exact .done reply
  | error failure =>
      cases failure with
      | missingRelation message =>
          change Concluded _ _ (write.mend (.missingRelation message))
          unfold mend
          cases write.missing with
          | none =>
              exact .failed _ _
          | some reply =>
              exact .absent message rfl
      | duplicateKey message =>
          exact .failed _ _
      | other message =>
          exact .failed _ _

/-- From every link, a write is bordered. -/
theorem bordered (write : Write) (link : Link) :
    ∃ issued, (write.exchange link).2.requests = link.requests ++ issued ∧
      Bordered write.missing (write.outcome? link) issued (write.exchange link).1 := by
  rcases write.opens link with ⟨opening, requests, makes⟩
  cases ran : write.opening link with
  | mk result after =>
      rw [ran] at requests
      cases result with
      | error failure =>
          rw [exchange_of_unopened ran, outcome?, ran]
          exact ⟨opening, requests, .unbegun makes failure⟩
      | ok opened =>
          rcases write.states (after.asked .begin) with ⟨inside, further, states⟩
          rw [exchange_of_opened ran, outcome?, ran]
          refine ⟨_, ?_, .begun makes states (write.concluded_mend _)⟩
          rw [Link.requests_asked, further, Link.requests_asked, requests]
          simp

end Write

/-! ## Insertions -/

section Insertions

variable (schema table : String) (documents : List Identified)

/-- The rows of documents under their keys. -/
def identifiedRows : List (String × String) :=
  documents.map fun document => (document.identity.key, Json.text (.object document.document))

/-- A table is made where it is missing, and documents are inserted. -/
def insertWrite : Write where
  opening := do
    let _ ← execute (createSchema schema) []
    let _ ← execute (createTable table) []
  body := do
    executeMany (insertStatement table) (identifiedRows documents)
    return .identities (documents.map (·.identity))
  missing := none
  rename
    | .duplicateKey message => .other ("Duplicate key: " ++ message)
    | failure => failure
  opens :=
    .bind (.one (.execute _ _) ⟨_, rfl⟩) fun _ => .bind (.one (.execute _ _) ⟨_, rfl⟩) fun _ =>
      .pure ()
  states := .bind (.one (.executeMany _ _) rfl) fun _ => .pure _

/-- An insertion of rows replies with the identities of their documents. -/
theorem insertWrite_exchange :
    (insertWrite schema table documents).exchange =
      (fun _ => .identities (documents.map (·.identity))) <$>
        insertRows schema table (identifiedRows documents) := by
  -- What makes the table is a part of its own here, and not the start of a longer exchange.
  have opening : (insertWrite schema table documents).opening =
      execute (createSchema schema) [] >>= fun _ => execute (createTable table) [] >>= fun _ =>
        pure () :=
    rfl
  rw [Write.exchange, opening, insertRows]
  simp only [bind_assoc, pure_bind, map_bind]
  refine congrArg _ (funext fun _ => congrArg _ (funext fun _ => ?_))
  refine Write.mended_eq (map_eq_pure_bind _ _).symm fun failure => ?_
  cases failure <;> rfl

end Insertions

section Updates

variable (selection : Selection) (update : Update) (many : Bool)

/-- The reply on how many rows were found and how many changed. -/
def counted : Nat × Nat → Store.Reply :=
  fun (matched, modified) => .changed matched modified

/-- Rows are replaced, of which there are none where their table is missing. -/
def updateWrite : Write where
  opening := return
  body := do
    return counted (← replaceRows selection update many)
  missing := some (counted (0, 0))
  rename := id
  opens := .pure ()
  states := by
    refine .bind ((Asks.replaceRows selection update many).mono ?_) fun _ => .pure _
    rintro _ result ⟨_, rfl, rfl | ⟨rows, rfl⟩⟩ <;> simp [Request.isStatement]

/-- An update of rows replies with how many they are, which are none without a table. -/
theorem updateWrite_exchange :
    (updateWrite selection update many).exchange =
      counted <$> updateRows selection update many := by
  refine (pure_bind () _).trans (Write.mended_eq (map_eq_pure_bind _ _).symm fun failure => ?_)
  cases failure <;> rfl

end Updates

/-! ## Calls -/

/-- A call that writes documents. -/
inductive Writing where
  | insert (place : Store.Place) (documents : List Json)
  | update (place : Store.Place) (filter update : Json) (many : Bool)

namespace Writing

def call : Writing → Store.Call
  | .insert place documents => .insert place documents
  | .update place filter change many => .update place filter change many

/-- What is replied where the table does not exist. -/
def missing : Writing → Option Store.Reply
  | .insert .. => none
  | .update .. => some (.changed 0 0)

/-- What is to be done for a call, and the number of identities given by then. -/
def prepare (given : Identified.Given) :
    Writing → Except Store.Fault Write × Identified.Given
  | .insert place values =>
    let (documents, given) := Identified.ofValues values given
    let prepared : Except Store.Fault Write := do
      let documents ← documents.mapError .documents
      let table ← tableOf place
      let schema ← (Sql.schemaName place.database).mapError .database
      return insertWrite schema table documents
    (prepared, given)
  | .update place filter change many =>
    let prepared : Except Store.Fault Write := do
      let change ← (Update.read change).mapError .update
      return updateWrite (← select place filter) change many
    (prepared, given)

/-- The outcome of what the transaction of a call is made of, if it is begun. -/
def outcome? (writing : Writing) (connection : Connection) (dealing : Dealing) :
    Option (Except Failure Store.Reply) :=
  match (writing.prepare dealing.given).1 with
  | .ok write =>
    if connection.isBarred dealing.link then none else write.outcome? dealing.link
  | .error _ => none

end Writing

/--
A call that writes holds a connection for what it has to do, once that is prepared.  Identities
are given before anything is checked, and stay given where the call is refused.
-/
theorem perform_writing (connection : Connection) (writing : Writing) (dealing : Dealing) :
    perform connection writing.call dealing =
      continuing (writing.prepare dealing.given).1
        { dealing with given := (writing.prepare dealing.given).2 } fun write =>
          holding connection write.exchange
            { dealing with given := (writing.prepare dealing.given).2 } := by
  cases writing with
  | insert place values =>
      rcases ran : Identified.ofValues values dealing.given with ⟨documents, given⟩
      simp only [Writing.call, perform, Writing.prepare, insertDocuments, ran]
      cases documents.mapError Store.Fault.documents with
      | error fault =>
          rfl
      | ok documents =>
          cases tableOf place with
          | error fault =>
              rfl
          | ok table =>
              cases (Sql.schemaName place.database).mapError Store.Fault.database with
              | error fault =>
                  rfl
              | ok schema =>
                  change _ = holding connection (insertWrite schema table documents).exchange _
                  rw [insertWrite_exchange, holding_map]
                  rfl
  | update place filter update many =>
      simp only [Writing.call, perform, Writing.prepare]
      cases (Update.read update).mapError Store.Fault.update with
      | error fault =>
          rfl
      | ok update =>
          cases select place filter with
          | error fault =>
              rfl
          | ok selection =>
              change _ = holding connection (updateWrite selection update many).exchange _
              rw [updateWrite_exchange, holding_map]
              rfl

theorem Writing.missing_prepare {writing : Writing} {given : Identified.Given} {write : Write}
    (prepared : (writing.prepare given).1 = .ok write) : write.missing = writing.missing := by
  cases writing with
  | insert place values =>
      rcases bind_eq_ok prepared with ⟨documents, -, prepared⟩
      rcases bind_eq_ok prepared with ⟨table, -, prepared⟩
      rcases bind_eq_ok prepared with ⟨schema, -, same⟩
      obtain rfl := Except.ok.inj same
      rfl
  | update place filter update many =>
      rcases bind_eq_ok prepared with ⟨update, -, prepared⟩
      rcases bind_eq_ok prepared with ⟨selection, -, same⟩
      obtain rfl := Except.ok.inj same
      rfl

/-- A write is bordered while the connection is held, or not begun without one. -/
theorem holding_bordered (write : Write) (connection : Connection) (dealing : Dealing) :
    ∃ issued,
      (holding connection write.exchange dealing).2.link.requests =
          dealing.link.requests ++ issued ∧
        Bordered write.missing
          (if connection.isBarred dealing.link then none else write.outcome? dealing.link) issued
          (holding connection write.exchange dealing).1 := by
  rcases holding_cases connection dealing with ⟨barred, fault, -, refused⟩ | ⟨free, held⟩
  · rw [refused, barred]
    exact ⟨[], (List.append_nil _).symm, .silent fault⟩
  · rw [held, free]
    rcases write.bordered dealing.link with ⟨issued, requests, bordered⟩
    exact ⟨issued, requests, bordered.mapError⟩

/-- An update without a table is rolled back, and ends with that. -/
example :
    let unset : Json := .object [("$unset", .object [("born", .null)])]
    let missing : Link := { answers := [.error (.missingRelation "users")] }
    (perform { default := "app" } (.update ⟨"app", "users"⟩ (.object []) unset true)
      ⟨missing, 0⟩).2.link.requests.getLast? = some .rollback := by
  decide +kernel

end DocumentGate.Postgres
