import DocumentGate.Proofs.Results
import DocumentGate.Proofs.Seats

/-!
# What a session is answered

Where all clusters are in memory, an operation of a session sees no more than the desk of the
session: its seat and what is in the clusters.  `Desk.serve` says what the operation answers and
what becomes of the desk.  It looks into one cluster only, that of the seat, and if documents are
inserted with identities of their own, it does not matter how many were given before.
-/

namespace DocumentGate

/-! ## Documents with identities of their own -/

/-- A value that is a document has an identity. -/
def Json.carriesIdentity : Json → Bool
  | .object members => (Dictionary.get? "_id" members).isSome
  | _ => true

/-- The documents that a command inserts. -/
def Command.Descriptor.inserted (descriptor : Command.Descriptor) : List Json :=
  match descriptor.operation, descriptor.arguments with
  | .insertOne, document => [document]
  | .insertMany, .array documents => documents
  | _, _ => []

/-- Every document that a call inserts has an identity. -/
def Store.Call.identifies : Store.Call → Bool
  | .insert _ values => values.all Json.carriesIdentity
  | _ => true

/-- What a command inserts is what its call inserts. -/
theorem Dispatch.identifies_callOf {database : String} {descriptor : Command.Descriptor}
    {call : Store.Call} (asks : Dispatch.callOf database descriptor = .ok call)
    (identified : descriptor.inserted.all Json.carriesIdentity = true) :
    call.identifies = true := by
  unfold Dispatch.callOf at asks
  unfold Command.Descriptor.inserted at identified
  cases operation : descriptor.operation <;> rw [operation] at asks identified
  case insertOne =>
    rcases bind_eq_ok asks with ⟨document, checked, made⟩
    obtain rfl := Except.ok.inj made
    unfold Dispatch.asObject at checked
    split at checked
    · obtain rfl := Except.ok.inj checked
      exact identified
    · cases checked
  case insertMany =>
    rcases bind_eq_ok asks with ⟨documents, checked, made⟩
    obtain rfl := Except.ok.inj made
    unfold Dispatch.asDocuments at checked
    split at checked
    · cases checked
    · rename_i values nonempty same
      split at checked
      · obtain rfl := Except.ok.inj checked
        rw [same] at identified
        exact identified
      · cases checked
    · cases checked
  all_goals
    rcases bind_eq_ok asks with ⟨_, -, made⟩
    obtain rfl := Except.ok.inj made
    rfl

namespace Identified

/-- The step neither asks how many identities were given nor gives one. -/
def IsIdle {α : Type} (step : ExceptT Fault (StateM Given) α) : Prop :=
  ∃ result, ∀ given, step given = (result, given)

theorem IsIdle.bind {First Last : Type} {step : ExceptT Fault (StateM Given) First}
    {next : First → ExceptT Fault (StateM Given) Last} (first : IsIdle step)
    (further : ∀ value, IsIdle (next value)) : IsIdle (step >>= next) := by
  rcases first with ⟨result, ran⟩
  cases result with
  | error fault =>
      refine ⟨.error fault, fun given => ?_⟩
      change ExceptT.bindCont next (step given).1 (step given).2 = _
      rw [ran]
      rfl
  | ok value =>
      rcases further value with ⟨last, goes⟩
      refine ⟨last, fun given => ?_⟩
      change ExceptT.bindCont next (step given).1 (step given).2 = _
      rw [ran]
      exact goes given

/-- No identity is given to a document that has one. -/
theorem isIdle_ofValue {value : Json} (carries : value.carriesIdentity = true) :
    IsIdle (ofValue value) := by
  cases value with
  | object members =>
      rcases Option.isSome_iff_exists.mp carries with ⟨found, present⟩
      rw [ofValue, present]
      cases valid : Identity.ofValue? found with
      | some identity =>
          simp only [valid]
          exact ⟨.ok ⟨identity, members⟩, fun _ => rfl⟩
      | none =>
          simp only [valid]
          exact ⟨.error .invalidIdentity, fun _ => rfl⟩
  | _ =>
      exact ⟨.error .notObject, fun _ => rfl⟩

theorem isIdle_mapM_ofValue {values : List Json}
    (carry : values.all Json.carriesIdentity = true) : IsIdle (values.mapM ofValue) := by
  induction values with
  | nil =>
      exact ⟨.ok [], fun _ => rfl⟩
  | cons value rest ih =>
      rw [List.all_cons, Bool.and_eq_true] at carry
      rw [List.mapM_cons]
      refine (isIdle_ofValue carry.1).bind fun first => (ih carry.2).bind fun others => ?_
      exact ⟨.ok (first :: others), fun _ => rfl⟩

theorem isIdle_ofValues {values : List Json} (carry : values.all Json.carriesIdentity = true) :
    IsIdle (ofValues values) := by
  refine (isIdle_mapM_ofValue carry).bind fun documents => ?_
  split
  · exact ⟨.ok documents, fun _ => rfl⟩
  · exact ⟨.error .duplicate, fun _ => rfl⟩

end Identified

/-- What is settled does not depend on how many identities were given. -/
theorem Store.Cluster.Keeping.settle_given (cluster : Store.Cluster) (given other : Nat)
    (result : Except Store.Fault (Store.Reply × Store.Cluster)) :
    (Keeping.settle ⟨cluster, given⟩ result).1 = (Keeping.settle ⟨cluster, other⟩ result).1 ∧
      (Keeping.settle ⟨cluster, given⟩ result).2.cluster =
        (Keeping.settle ⟨cluster, other⟩ result).2.cluster := by
  cases result <;> exact ⟨rfl, rfl⟩

/-- Where documents have identities, it does not matter how many were given before. -/
theorem Store.Cluster.perform_given {call : Store.Call} (identifies : call.identifies = true)
    (default : String) (cluster : Store.Cluster) (given other : Identified.Given) :
    (perform default call ⟨cluster, given⟩).1 = (perform default call ⟨cluster, other⟩).1 ∧
      (perform default call ⟨cluster, given⟩).2.cluster =
        (perform default call ⟨cluster, other⟩).2.cluster := by
  cases call with
  | insert place values =>
      rcases Identified.isIdle_ofValues identifies with ⟨result, ran⟩
      simp only [perform, ran]
      exact Keeping.settle_given cluster given other _
  | update place filter update many =>
      exact Keeping.settle_given cluster given other _
  | delete place filter many =>
      exact Keeping.settle_given cluster given other _
  | _ =>
      exact ⟨rfl, rfl⟩

namespace Service

/-! ## Desks -/

/-- What a session sees: its seat, if it has one, and what is in the clusters. -/
structure Desk where
  seat : Option Seat
  contents : String → Store.Cluster

/-- The desk of a session in a world. -/
def World.desk (world : World) (session : String) : Desk :=
  ⟨world.seat? session, world.contents⟩

/-- The cluster in memory that an operation connects to. -/
def Request.cluster? : Request → Option String
  | .connect _ address =>
    match Connection.read address with
    | .ok (_, .memory cluster _) => some cluster
    | _ => none
  | _ => none

/-- The operation does not connect to a server. -/
def Request.staysInMemory : Request → Bool
  | .connect _ address =>
    match Connection.read address with
    | .ok (_, .server _) => false
    | _ => true
  | _ => true

/-- Every document that the operation inserts has an identity. -/
def Request.identifies (policy : Command.Policy) : Request → Bool
  | .query _ command =>
    match Command.parse policy command with
    | .ok descriptor => descriptor.inserted.all Json.carriesIdentity
    | .error _ => true
  | _ => true

namespace Desk

/-- What an operation answers that calls the cluster of the seat, and what it leaves. -/
def call (given : Identified.Given) (now : Time) (desk : Desk)
    (plan : Seat → Except Fault (Store.Call × Use)) : Answer × Desk :=
  match desk.seat with
  | none => (.fault .notConnected, desk)
  | some seat =>
    match plan seat with
    | .error fault => (.fault fault, { desk with seat := some (seat.activeAt now) })
    | .ok (call, use) =>
      let (result, keeping) :=
        Store.Cluster.perform seat.default call ⟨desk.contents seat.cluster, given⟩
      (use.answer result,
        { seat := some (seat.activeAt now)
          contents := Function.update desk.contents seat.cluster keeping.cluster })

/-- What an operation answers where there are no servers, and what it leaves of the desk. -/
def serve (settings : Settings) (given : Identified.Given) (now : Time) (desk : Desk) :
    Request → Answer × Desk
  | .connect _ address =>
    match Connection.read address with
    | .ok (_, .memory cluster database) =>
      (messageAnswer "Connected successfully",
        { desk with seat := some ⟨cluster, database, database, now⟩ })
    | .ok (_, .server address) => (.fault (.connection (.refused address)), desk)
    | .error fault => (.fault (.connection fault), desk)
  | .listDatabases session => desk.call given now fun _ => .ok (.databases, .listing session)
  | .listCollections session =>
    desk.call given now fun seat => .ok (.collections seat.database, .listing session)
  | .selectDatabase _ name =>
    match desk.seat with
    | none => (.fault .notConnected, desk)
    | some seat =>
      match Machine.databaseName? name with
      | some database =>
        (messageAnswer "Database selected successfully",
          { desk with seat := some { seat.activeAt now with database := database } })
      | none =>
        (.fault (.shape .noDatabaseName), { desk with seat := some (seat.activeAt now) })
  | .query session command =>
    if desk.seat.isNone then (.fault .notConnected, desk)
    else
      match Command.parse settings.policy command with
      | .error fault => (.fault (.command fault), desk)
      | .ok descriptor =>
        desk.call given now fun seat =>
          match Dispatch.callOf seat.database descriptor with
          | .ok call => .ok (call, .querying session descriptor.operation)
          | .error fault => .error (.shape fault)
  | .endSession _ =>
    match desk.seat with
    | none => (.fault .noActiveSession, desk)
    | some _ => (messageAnswer "Session ended successfully", { desk with seat := none })
  | _ => (.value .null, desk)

/-! ## What operations see -/

variable {desk other : Desk} {own : String → Prop} {now : Time} {given : Identified.Given}
  {settings : Settings} {request : Request}

/-- The seat, if there is one, is in one of some clusters. -/
def Within (own : String → Prop) (desk : Desk) : Prop :=
  ∀ seat, desk.seat = some seat → own seat.cluster

/-- Two desks have the same seat and the same in some clusters. -/
structure Agrees (own : String → Prop) (desk other : Desk) : Prop where
  seat : desk.seat = other.seat
  contents : ∀ cluster, own cluster → desk.contents cluster = other.contents cluster

/-- What is answered is the same, and desks that agree are left. -/
structure AnswersAlike (own : String → Prop) (first second : Answer × Desk) : Prop where
  answer : first.1 = second.1
  agrees : first.2.Agrees own second.2

theorem Agrees.alike (agrees : desk.Agrees own other) (answer : Answer) (seat : Option Seat) :
    AnswersAlike own (answer, { desk with seat := seat }) (answer, { other with seat := seat }) :=
  ⟨rfl, rfl, agrees.contents⟩

/-- A call of the cluster of the seat sees no other one. -/
theorem Agrees.call (agrees : desk.Agrees own other) (within : desk.Within own)
    {plan : Seat → Except Fault (Store.Call × Use)}
    (identifies : ∀ seat call use, plan seat = .ok (call, use) → call.identifies = true)
    (given counted : Identified.Given) :
    AnswersAlike own (desk.call given now plan) (other.call counted now plan) := by
  unfold Desk.call
  rw [← agrees.seat]
  cases sits : desk.seat with
  | none =>
      exact ⟨rfl, agrees⟩
  | some seat =>
      dsimp only
      cases planned : plan seat with
      | error fault =>
          exact agrees.alike _ _
      | ok asked =>
          rcases asked with ⟨call, use⟩
          have identified := identifies seat call use planned
          have same := agrees.contents seat.cluster (within seat sits)
          rcases Store.Cluster.perform_given identified seat.default (desk.contents seat.cluster)
            given counted with ⟨answered, left⟩
          dsimp only
          rw [← same, answered, left]
          refine ⟨rfl, rfl, fun cluster mine => ?_⟩
          dsimp only
          by_cases here : cluster = seat.cluster
          · rw [here, Function.update_self, Function.update_self]
          · rw [Function.update_of_ne here, Function.update_of_ne here]
            exact agrees.contents cluster mine

/-- What is answered depends on the own clusters only. -/
theorem Agrees.serve (agrees : desk.Agrees own other) (within : desk.Within own)
    (identifies : request.identifies settings.policy = true) (given counted : Identified.Given) :
    AnswersAlike own (desk.serve settings given now request)
      (other.serve settings counted now request) := by
  cases request with
  | connect session address =>
      unfold Desk.serve
      dsimp only
      split
      · exact agrees.alike _ _
      · exact ⟨rfl, agrees⟩
      · exact ⟨rfl, agrees⟩
  | listDatabases session | listCollections session =>
      unfold Desk.serve
      refine agrees.call within ?_ given counted
      rintro _ _ _ ⟨⟩
      rfl
  | selectDatabase session name =>
      unfold Desk.serve
      rw [← agrees.seat]
      dsimp only
      split
      · exact ⟨rfl, agrees⟩
      · split
        · exact agrees.alike _ _
        · exact agrees.alike _ _
  | query session command =>
      unfold Desk.serve
      rw [← agrees.seat]
      dsimp only
      split
      · exact ⟨rfl, agrees⟩
      · split
        · exact ⟨rfl, agrees⟩
        · rename_i descriptor parsed
          refine agrees.call within ?_ given counted
          intro seat call use planned
          split at planned
          · rename_i asked asks
            obtain ⟨rfl, -⟩ := Prod.mk.inj (Except.ok.inj planned)
            rw [Request.identifies, parsed] at identifies
            exact Dispatch.identifies_callOf asks identifies
          · cases planned
  | endSession session =>
      unfold Desk.serve
      rw [← agrees.seat]
      dsimp only
      split
      · exact ⟨rfl, agrees⟩
      · exact agrees.alike _ _
  | _ =>
      exact ⟨rfl, agrees⟩

/-! ## What operations leave -/

/--
A desk that an operation may leave: it has no seat but in the cluster that the operation connects
to or in that of the seat before, and in other clusters than that it is the same.
-/
structure Leaves (desk : Desk) (request : Request) (left : Desk) : Prop where
  within : ∀ {own : String → Prop}, desk.Within own →
    (∀ cluster, request.cluster? = some cluster → own cluster) → left.Within own
  contents : ∀ {cluster : String}, desk.Within (· ≠ cluster) →
    left.contents cluster = desk.contents cluster

theorem leaves_self : desk.Leaves request desk :=
  ⟨fun within _ => within, fun _ => rfl⟩

/-- Another seat may be left in the same cluster. -/
theorem leaves_seat {seat after : Seat} (sits : desk.seat = some seat)
    (same : after.cluster = seat.cluster) :
    desk.Leaves request { desk with seat := some after } := by
  refine ⟨?_, fun _ => rfl⟩
  rintro own within - _ ⟨⟩
  exact same ▸ within seat sits

theorem leaves_call {plan : Seat → Except Fault (Store.Call × Use)} :
    desk.Leaves request (desk.call given now plan).2 := by
  unfold Desk.call
  cases sits : desk.seat with
  | none =>
      exact leaves_self
  | some seat =>
      dsimp only
      split
      · exact leaves_seat sits rfl
      · refine ⟨?_, fun elsewhere => Function.update_of_ne (elsewhere seat sits).symm _ _⟩
        rintro own within - _ ⟨⟩
        exact within seat sits

theorem leaves_serve : desk.Leaves request (desk.serve settings given now request).2 := by
  cases request with
  | connect session address =>
      unfold Desk.serve
      dsimp only
      split
      · rename_i label cluster database read
        refine ⟨?_, fun _ => rfl⟩
        rintro own - connects _ ⟨⟩
        refine connects cluster ?_
        rw [Request.cluster?, read]
      · exact leaves_self
      · exact leaves_self
  | listDatabases session | listCollections session =>
      exact leaves_call
  | selectDatabase session name =>
      unfold Desk.serve
      dsimp only
      split
      · exact leaves_self
      · rename_i seat sits
        split
        · exact leaves_seat sits rfl
        · exact leaves_seat sits rfl
  | query session command =>
      unfold Desk.serve
      dsimp only
      split
      · exact leaves_self
      · split
        · exact leaves_self
        · exact leaves_call
  | endSession session =>
      unfold Desk.serve
      dsimp only
      split
      · exact leaves_self
      · refine ⟨?_, fun _ => rfl⟩
        rintro own - - _ ⟨⟩
  | _ =>
      exact leaves_self

end Desk
end Service
end DocumentGate
