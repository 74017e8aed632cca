import DocumentGate.Postgres.Store

/-!
# What exchanges ask

An exchange asks a server for something and goes on with what the server answers.  Answers are
given beforehand, so that a fact about all links is one about every behaviour of the server.

What an exchange asks is said by which requests go together with which results.  Such a fact
about an exchange comes from those about its parts, in the way in which they are put together.
-/

namespace DocumentGate.Postgres

/-! ## Steps -/

section Steps

variable {First Last : Type} {first : Exchange First} {next : First → Exchange Last}
  {link after : Link}

theorem bind_of_ok {value : First} (ran : first link = (.ok value, after)) :
    (first >>= next) link = next value after := by
  change ExceptT.bindCont next (first link).1 (first link).2 = _
  rw [ran]
  rfl

theorem bind_of_error {failure : Failure} (ran : first link = (.error failure, after)) :
    (first >>= next) link = (.error failure, after) := by
  change ExceptT.bindCont next (first link).1 (first link).2 = _
  rw [ran]
  rfl

theorem orFailure_of_ok {Fault : Type} {message : Fault → String} {result : Except Fault First}
    {value : First} (given : result = .ok value) (link : Link) :
    orFailure message result link = (.ok value, link) := by
  rw [given]
  rfl

theorem orFailure_of_error {Fault : Type} {message : Fault → String}
    {result : Except Fault First} {fault : Fault} (given : result = .error fault) (link : Link) :
    orFailure message result link = (.error (.other (message fault)), link) := by
  rw [given]
  rfl

/-- The link after a request. -/
def Link.asked (link : Link) (request : Request) : Link :=
  { link with requests := link.requests ++ [request] }

@[simp]
theorem Link.requests_asked (link : Link) (request : Request) :
    (link.asked request).requests = link.requests ++ [request] :=
  rfl

theorem tryCatch_of_ok {handle : Failure → Exchange First} {value : First}
    (ran : first link = (.ok value, after)) : tryCatch first handle link = (.ok value, after) := by
  simp only [tryCatch, tryCatchThe, MonadExceptOf.tryCatch, ExceptT.tryCatch, ExceptT.mk, bind,
    StateT.bind, ran]
  rfl

theorem tryCatch_of_error {handle : Failure → Exchange First} {failure : Failure}
    (ran : first link = (.error failure, after)) :
    tryCatch first handle link = handle failure after := by
  simp only [tryCatch, tryCatchThe, MonadExceptOf.tryCatch, ExceptT.tryCatch, ExceptT.mk, bind,
    StateT.bind, ran]

/-- What is made of an exchange is made of its result. -/
theorem map_eq (make : First → Last) (first : Exchange First) (link : Link) :
    (make <$> first) link = ((first link).1.map make, (first link).2) := by
  rw [map_eq_pure_bind]
  cases ran : first link with
  | mk result after =>
      cases result with
      | ok value =>
          exact bind_of_ok ran
      | error failure =>
          exact bind_of_error ran

/-- What is made of an exchange that is tried is made of it, or of what a failure becomes. -/
theorem map_tryCatch (make : First → Last) (first : Exchange First)
    (handle : Failure → Exchange First) :
    make <$> tryCatch first handle =
      tryCatch (make <$> first) fun failure => make <$> handle failure := by
  funext link
  have mapped := map_eq make first link
  cases ran : first link with
  | mk result after =>
      rw [ran] at mapped
      cases result with
      | ok value =>
          rw [map_eq, tryCatch_of_ok ran]
          exact (tryCatch_of_ok mapped).symm
      | error failure =>
          rw [map_eq, tryCatch_of_error ran]
          exact ((tryCatch_of_error mapped).trans (map_eq make _ after)).symm

theorem bind_record (request : Request) (next : Unit → Exchange Last) :
    (record request >>= next) link = next () (link.asked request) :=
  rfl

/-- A fault other than that the table is missing goes through. -/
theorem orWhereMissing_of_other {default : First} {message : String}
    (ran : first link = (.error (.other message), after)) :
    orWhereMissing default first link = (.error (.other message), after) :=
  (tryCatch_of_error ran).trans rfl

/-- The link after a request that took an answer. -/
def Link.answered (link : Link) (request : Request) : Link :=
  { link.asked request with answers := link.answers.tail }

/-- A part that succeeds is committed. -/
theorem transaction_of_ok {value : First} (ran : first (link.asked .begin) = (.ok value, after)) :
    transaction first link = (.ok value, after.asked .commit) := by
  rw [transaction, bind_record]
  exact bind_of_ok (tryCatch_of_ok ran)

/-- A part that fails is rolled back. -/
theorem transaction_of_error {failure : Failure}
    (ran : first (link.asked .begin) = (.error failure, after)) :
    transaction first link = (.error failure, after.asked .rollback) := by
  rw [transaction, bind_record]
  exact bind_of_error (tryCatch_of_error ran)

/-- A request that does not fail is answered by the next answer, or by none. -/
theorem ask_of_head {request : Request} (sound : link.broken = none)
    (served : ∀ failure, link.answers.head? ≠ some (.error failure)) :
    ask request link =
      (.ok ((link.answers.head?.bind Except.toOption).getD {}), link.answered request) := by
  obtain ⟨acquiring, broken, answers, requests⟩ := link
  obtain rfl : broken = none := sound
  cases answers with
  | nil =>
      rfl
  | cons answer rest =>
      cases answer with
      | ok outcome =>
          rfl
      | error failure =>
          exact absurd rfl (served failure)

end Steps

/-- The request that ends a transaction with such an outcome. -/
def ending {Value : Type} : Except Failure Value → Request
  | .ok _ => .commit
  | .error _ => .rollback

/-- A transaction has the outcome of what it is made of, and ends by it. -/
theorem transaction_eq {Value : Type} (body : Exchange Value) (link : Link) :
    transaction body link =
      ((body (link.asked .begin)).1,
        (body (link.asked .begin)).2.asked (ending (body (link.asked .begin)).1)) := by
  cases ran : body (link.asked .begin) with
  | mk outcome after =>
      cases outcome with
      | ok value =>
          exact transaction_of_ok ran
      | error failure =>
          exact transaction_of_error ran

/-- What is made of a transaction is made of what it is made of. -/
theorem map_transaction {First Last : Type} (make : First → Last) (body : Exchange First) :
    make <$> transaction body = transaction (make <$> body) := by
  funext link
  rw [map_eq, transaction_eq, transaction_eq, map_eq]
  cases (body (link.asked .begin)).1 <;> rfl

/-! ## Requests -/

/-- From every link the exchange asks something and ends, and the two are allowed together. -/
def Asks {Value : Type} (exchange : Exchange Value)
    (allows : List Request → Except Failure Value → Prop) : Prop :=
  ∀ link, ∃ issued, (exchange link).2.requests = link.requests ++ issued ∧
    allows issued (exchange link).1

namespace Asks

variable {First Last : Type} {first : Exchange First} {next : First → Exchange Last}
  {allows : List Request → Except Failure First → Prop}
  {goal : List Request → Except Failure Last → Prop}

theorem mono {more : List Request → Except Failure First → Prop} (asks : Asks first allows)
    (weaker : ∀ issued result, allows issued result → more issued result) : Asks first more := by
  intro link
  rcases asks link with ⟨issued, requests, allowed⟩
  exact ⟨issued, requests, weaker issued _ allowed⟩

theorem pure {value : First} (allowed : allows [] (.ok value)) :
    Asks (Pure.pure value : Exchange First) allows :=
  fun link => ⟨[], (List.append_nil link.requests).symm, allowed⟩

/-- What comes later is asked after what was asked first, unless that has failed. -/
theorem bind (asks : Asks first allows)
    (stops : ∀ issued failure, allows issued (.error failure) → goal issued (.error failure))
    (further : ∀ value, Asks (next value) fun later result =>
      ∀ issued, allows issued (.ok value) → goal (issued ++ later) result) :
    Asks (first >>= next) goal := by
  intro link
  rcases asks link with ⟨issued, requests, allowed⟩
  cases ran : first link with
  | mk result after =>
      rw [ran] at requests allowed
      cases result with
      | error failure =>
          rw [bind_of_error ran]
          exact ⟨issued, requests, stops issued failure allowed⟩
      | ok value =>
          rcases further value after with ⟨later, more, goes⟩
          rw [bind_of_ok ran]
          refine ⟨issued ++ later, ?_, goes issued allowed⟩
          rw [more, requests, List.append_assoc]

/-- Answering differently asks nothing more. -/
theorem map {make : First → Last} (asks : Asks first allows)
    (stops : ∀ issued failure, allows issued (.error failure) → goal issued (.error failure))
    (made : ∀ issued value, allows issued (.ok value) → goal issued (.ok (make value))) :
    Asks (do return make (← first)) goal := by
  refine asks.bind stops fun value => pure fun issued allowed => ?_
  rw [List.append_nil]
  exact made issued value allowed

theorem ask (request : Request) :
    Asks (Postgres.ask request) fun issued _ => issued = [request] := by
  intro link
  refine ⟨[request], ?_, rfl⟩
  obtain ⟨acquiring, broken, answers, requests⟩ := link
  cases broken with
  | some message =>
      rfl
  | none =>
      cases answers with
      | nil =>
          rfl
      | cons answer rest =>
          cases answer <;> rfl

theorem fetch (statement : String) (parameters : List Sql.Parameter) :
    Asks (Postgres.fetch statement parameters) fun issued _ =>
      issued = [.fetch statement parameters] :=
  (ask _).map (fun _ _ same => same) fun _ _ same => same

theorem execute (statement : String) (parameters : List Sql.Parameter) :
    Asks (Postgres.execute statement parameters) fun issued _ =>
      issued = [.execute statement parameters] :=
  (ask _).map (fun _ _ same => same) fun _ _ same => same

theorem executeMany (statement : String) (rows : List (String × String)) :
    Asks (Postgres.executeMany statement rows) fun issued _ =>
      issued = [.executeMany statement rows] :=
  (ask _).map (fun _ _ same => same) fun _ _ same => same

/-- What is tried is asked, and then what is made of a failure. -/
theorem tryCatch {handle : Failure → Exchange First} {allowed : List Request → Prop}
    (asks : Asks first fun issued _ => allowed issued)
    (handles : ∀ failure, Asks (handle failure) fun issued _ => issued = []) :
    Asks (MonadExcept.tryCatch first handle) fun issued _ => allowed issued := by
  intro link
  rcases asks link with ⟨issued, requests, kept⟩
  cases ran : first link with
  | mk result after =>
      rw [ran] at requests
      cases result with
      | ok value =>
          exact ⟨issued, by rw [tryCatch_of_ok ran]; exact requests, kept⟩
      | error failure =>
          rcases handles failure after with ⟨_, more, rfl⟩
          refine ⟨issued, ?_, kept⟩
          rw [tryCatch_of_error ran, more, List.append_nil]
          exact requests

/-- What fails because a table is missing asks nothing more. -/
theorem orWhereMissing {default : First} {allowed : List Request → Prop}
    (asks : Asks first fun issued _ => allowed issued) :
    Asks (Postgres.orWhereMissing default first) fun issued _ => allowed issued := by
  refine asks.tryCatch fun failure link => ⟨[], (List.append_nil _).symm.trans ?_, rfl⟩
  cases failure <;> rfl

/-- A transaction asks what it is made of, between a begin and the end that its outcome has. -/
theorem transaction (asks : Asks first allows) :
    Asks (Postgres.transaction first) fun issued result =>
      ∃ inside, issued = .begin :: (inside ++ [ending result]) ∧ allows inside result := by
  intro link
  rcases asks (link.asked .begin) with ⟨inside, requests, allowed⟩
  rw [transaction_eq]
  refine ⟨_, ?_, inside, rfl, allowed⟩
  rw [Link.requests_asked, requests, Link.requests_asked]
  simp

end Asks

/-- All that the exchange asks is of one kind. -/
abbrev AsksOnly {Value : Type} (exchange : Exchange Value) (kind : Request → Prop) : Prop :=
  Asks exchange fun issued _ => ∀ request ∈ issued, kind request

namespace AsksOnly

variable {First Last : Type} {first : Exchange First} {next : First → Exchange Last}
  {kind : Request → Prop}

theorem pure (value : First) : AsksOnly (Pure.pure value) kind :=
  Asks.pure nofun

theorem one {request : Request} (asks : Asks first fun issued _ => issued = [request])
    (of : kind request) : AsksOnly first kind := by
  refine asks.mono ?_
  rintro _ result rfl other among
  rw [List.mem_singleton.mp among]
  exact of

theorem bind (asks : AsksOnly first kind) (further : ∀ value, AsksOnly (next value) kind) :
    AsksOnly (first >>= next) kind := by
  refine Asks.bind asks (fun issued failure held => held) fun value => (further value).mono ?_
  intro later result held issued earlier request among
  exact (List.mem_append.mp among).elim (earlier request) (held request)

end AsksOnly

/-! ## Rows -/

theorem Asks.orFailure {Value Fault : Type} (message : Fault → String)
    (result : Except Fault Value) :
    Asks (Postgres.orFailure message result) fun issued _ => issued = [] := by
  intro link
  refine ⟨[], ?_, rfl⟩
  cases result <;> exact (List.append_nil _).symm

/-- Where nothing is asked at first, what is asked is asked later. -/
theorem Asks.after {First Last : Type} {first : Exchange First} {next : First → Exchange Last}
    {allowed : List Request → Prop} (asks : Asks first fun issued _ => issued = [])
    (none : allowed []) (further : ∀ value, Asks (next value) fun issued _ => allowed issued) :
    Asks (first >>= next) fun issued _ => allowed issued := by
  refine asks.bind (fun issued failure same => same ▸ none) fun value => ?_
  refine (further value).mono fun later _ allowed issued same => ?_
  rw [same]
  exact allowed

theorem Asks.changedRow (update : Update) (row : Row) :
    Asks (Postgres.changedRow update row) fun issued _ => issued = [] := by
  unfold Postgres.changedRow
  refine (Asks.orFailure _ _).after rfl fun (held, current) => ?_
  refine (Asks.orFailure _ _).after rfl fun updated => ?_
  split
  · exact .pure rfl
  · refine (Asks.orFailure _ _).after rfl fun key => ?_
    split
    · exact .pure rfl
    · exact fun link => ⟨[], (List.append_nil _).symm, rfl⟩

theorem Asks.mapM {Item Value : Type} {step : Item → Exchange Value}
    (each : ∀ item, Asks (step item) fun issued _ => issued = []) (items : List Item) :
    Asks (items.mapM step) fun issued _ => issued = [] := by
  induction items with
  | nil =>
      exact .pure rfl
  | cons item rest ih =>
      rw [List.mapM_cons]
      exact (each item).after rfl fun value => ih.after rfl fun values => .pure rfl

/-- What the transaction of an update is made of. -/
def replaceRows (selection : Selection) (update : Update) (many : Bool) : Exchange (Nat × Nat) := do
  let rows ← fetch (selection.lockStatement many) selection.parameters
  let changes := (← rows.mapM (changedRow update)).filterMap id
  unless changes.isEmpty do
    executeMany (replaceStatement selection.table) changes
  return (rows.length, changes.length)

theorem updateRows_eq (selection : Selection) (update : Update) (many : Bool) :
    updateRows selection update many =
      orWhereMissing (0, 0) (transaction (replaceRows selection update many)) :=
  rfl

/-- What replaces the rows that change is asked if there are any. -/
theorem Asks.replacing (selection : Selection) (update : Update) (rows : List Row) :
    Asks (do
        let changes := (← rows.mapM (Postgres.changedRow update)).filterMap id
        unless changes.isEmpty do
          Postgres.executeMany (replaceStatement selection.table) changes
        return (rows.length, changes.length)) fun replacing _ =>
      replacing = [] ∨
        ∃ changes, replacing = [.executeMany (replaceStatement selection.table) changes] := by
  refine (Asks.mapM (Asks.changedRow update) rows).after (.inl rfl) fun changes => ?_
  dsimp only
  split
  · exact .pure (.inl rfl)
  · refine (Asks.executeMany _ _).map ?_ ?_
    · exact fun issued _ same => .inr ⟨_, same⟩
    · exact fun issued _ same => .inr ⟨_, same⟩

/-- The rows are locked, and those that change are replaced. -/
theorem Asks.replaceRows (selection : Selection) (update : Update) (many : Bool) :
    Asks (Postgres.replaceRows selection update many) fun issued _ =>
      ∃ replacing,
        issued = .fetch (selection.lockStatement many) selection.parameters :: replacing ∧
          (replacing = [] ∨
            ∃ rows, replacing = [.executeMany (replaceStatement selection.table) rows]) := by
  refine (Asks.fetch _ _).bind (fun issued _ same => ⟨[], same, .inl rfl⟩) fun rows => ?_
  refine (Asks.replacing selection update rows).mono fun replacing _ asked issued same => ?_
  exact ⟨replacing, by rw [same]; rfl, asked⟩

/-! ## Connections -/

/-- The connection cannot be held. -/
def Connection.isBarred (connection : Connection) (link : Link) : Bool :=
  connection.closed || link.acquiring.isSome

/-- A connection is held for an exchange, or the store refuses whatever is to be exchanged. -/
theorem holding_cases (connection : Connection) (dealing : Dealing) :
    (connection.isBarred dealing.link = true ∧ ∃ fault : Store.Fault, fault.isRefusal = true ∧
      ∀ {Value : Type} (exchange : Exchange Value),
        holding connection exchange dealing = (.error fault, dealing)) ∨
    (connection.isBarred dealing.link = false ∧
      ∀ {Value : Type} (exchange : Exchange Value), holding connection exchange dealing =
        ((exchange dealing.link).1.mapError fun failure => .server failure.message,
          { dealing with link := (exchange dealing.link).2 })) := by
  cases closed : connection.closed with
  | true =>
      refine .inl ⟨by simp [Connection.isBarred, closed], .closed, rfl, fun exchange => ?_⟩
      simp [holding, closed]
  | false =>
      cases acquiring : dealing.link.acquiring with
      | some message =>
          refine .inl ⟨by simp [Connection.isBarred, acquiring], .server message, rfl, ?_⟩
          intro Value exchange
          simp [holding, closed, acquiring]
      | none =>
          refine .inr ⟨by simp [Connection.isBarred, closed, acquiring], fun exchange => ?_⟩
          simp only [holding, closed, acquiring]
          rfl

/-- What is made of an exchange is made of it while the connection is held. -/
theorem holding_map {First Last : Type} (connection : Connection) (make : First → Last)
    (exchange : Exchange First) (dealing : Dealing) :
    holding connection (make <$> exchange) dealing =
      ((holding connection exchange dealing).1.map make,
        (holding connection exchange dealing).2) := by
  rcases holding_cases connection dealing with ⟨-, fault, -, refused⟩ | ⟨-, held⟩
  · rw [refused, refused]
    rfl
  · rw [held, held, map_eq]
    cases (exchange dealing.link).1 <;> rfl

end DocumentGate.Postgres
