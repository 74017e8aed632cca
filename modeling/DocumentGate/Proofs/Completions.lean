import DocumentGate.Proofs.Desks
import DocumentGate.Proofs.FailedOperations

/-!
# Operations that are completed

Where nothing else is to be done, an operation for a session is answered within two turns: one
to begin, and one in which the cluster is called.  It is answered what the desk of its session
says, the session has the desk that is left, and everybody else has the same seat as before.
-/

namespace DocumentGate.Service

/-- A world at rest follows in which one session has another desk, at the same time. -/
structure World.Serves (world : World) (session : String) (desk : Desk) (next : World) : Prop where
  rests : next.AtRest
  course : world.SameCourse next
  contents : next.contents = desk.contents
  seats : next.seat? = Function.update world.seat? session desk.seat

/-- Nothing but a seat differs, and the clusters are what is left of them. -/
theorem World.Reseats.serves {world base next : World} {session : String} {seat : Option Seat}
    (reseats : base.Reseats session seat next) (course : world.SameCourse base)
    (seats : base.seat? = world.seat?) :
    world.Serves session ⟨seat, base.contents⟩ next where
  rests := reseats.rests
  course := course.trans reseats.course
  contents := by
    funext cluster
    change (Dictionary.get? cluster next.clusters).getD [] = _
    rw [reseats.clusters]
    rfl
  seats := by
    rw [reseats.seats, seats]

theorem World.AtRest.serves {world : World} (rests : world.AtRest) (session : String) :
    world.Serves session (world.desk session) world :=
  (rests.reseats session).serves (.refl world) rfl

/-- The session has the desk that is left. -/
theorem World.Serves.desk_eq {world next : World} {session : String} {desk : Desk}
    (serves : world.Serves session desk next) : next.desk session = desk := by
  rw [World.desk, serves.seats, Function.update_self, serves.contents]

/-- Everybody else has the same seat. -/
theorem World.Serves.seat?_of_ne {world next : World} {session other : String} {desk : Desk}
    (serves : world.Serves session desk next) (different : other ≠ session) :
    next.seat? other = world.seat? other := by
  rw [serves.seats, Function.update_of_ne different]

/-- What a session is answered in a world, and the desk that is left. -/
def World.serve (world : World) (session : String) (request : Request) : Answer × Desk :=
  (world.desk session).serve world.settings world.given world.now request

/-- A world after an operation that connects to a cluster, which may have come into being. -/
def World.growing (world : World) (cluster : String) : World :=
  { world with
    clusters := if (Dictionary.get? cluster world.clusters).isSome then world.clusters
      else Dictionary.insert cluster [] world.clusters }

/-- A cluster that comes into being is as empty as it was before. -/
theorem World.contents_growing (world : World) (cluster : String) :
    (world.growing cluster).contents = world.contents := by
  rw [growing]
  split
  · rfl
  · rename_i missing
    have empty : world.contents cluster = [] := by
      rw [contents, Option.not_isSome_iff_eq_none.mp missing]
      rfl
    rw [contents_insert]
    exact empty ▸ Function.update_eq_self cluster world.contents

/-- The limit of the reaper that was made last; without a reaper there is none. -/
def World.latestLimit (world : World) : Double :=
  ((world.reaper? world.latestReaper).map Reaper.idleLimit).getD (.infinite false)

namespace Machine

variable {machine : Machine} {label session : String} {request : Request} {answer : Answer}
  {next : World}

/-- Nothing is to be done, and nobody waits. -/
structure AtRest (machine : Machine) : Prop where
  ready : machine.ready = []
  draining : machine.draining = []
  world : machine.world.AtRest

/-- The operation is answered in another world, and nothing else is to be done then. -/
def Completes (machine : Machine) (label : String) (request : Request) (answer : Answer)
    (next : World) : Prop :=
  (machine.submit label request).settle = (machine.within next).finish label answer

/-! ## Turns -/

theorem runTurns_of_idle (idle : machine.ready = []) (fuel : Nat) :
    runTurns fuel machine = machine := by
  cases fuel with
  | zero =>
      rfl
  | succ fuel =>
      simp [runTurns, resume, idle]

theorem resume_later (idle : machine.ready = []) (label : String) (work : Work) :
    (machine.later label work).resume 0 = some (machine.perform label work) := by
  cases machine
  dsimp only at idle
  subst idle
  rfl

/-- There are enough turns to begin, and for one turn more. -/
theorem exists_turnLimit (machine : Machine) : ∃ fuel, machine.turnLimit = fuel + 2 := by
  refine ⟨machine.turnLimit - 2, (Nat.sub_add_cancel ?_).symm⟩
  exact Nat.le_mul_of_pos_left 2 (Nat.succ_pos _) |>.trans (Nat.mul_le_mul_left _ (by omega))

/-- An operation that answers in its first turn is completed. -/
theorem completes_of_begin (idle : machine.ready = [])
    (begins : machine.begin label request = (machine.within next).finish label answer) :
    machine.Completes label request answer next := by
  rcases exists_turnLimit (machine.submit label request) with ⟨fuel, limit⟩
  rw [Completes, settle, limit, runTurns, submit, resume_later idle]
  dsimp only
  rw [perform, begins]
  have settled : ((machine.within next).finish label answer).ready = [] := idle
  exact runTurns_of_idle settled _

/-- An operation that answers in its second turn is completed. -/
theorem completes_of_later {between : World} {work : Work} (idle : machine.ready = [])
    (begins : machine.begin label request = (machine.within between).later label work)
    (goes : (machine.within between).perform label work =
      (machine.within next).finish label answer) :
    machine.Completes label request answer next := by
  rcases exists_turnLimit (machine.submit label request) with ⟨fuel, limit⟩
  have waiting : (machine.within between).ready = [] := idle
  rw [Completes, settle, limit, runTurns, submit, resume_later idle]
  dsimp only
  rw [perform, begins, runTurns, resume_later waiting]
  dsimp only
  rw [goes]
  have settled : ((machine.within next).finish label answer).ready = [] := idle
  exact runTurns_of_idle settled _

/-! ## Parts of operations -/

theorem finishLease_eq {number : Nat} {returned : World} (idle : machine.draining = [])
    (gives : machine.world.giveBack? number = some returned) (answer : Answer) :
    machine.finishLease label (some session) number answer =
      (machine.within (returned.refreshFor session number)).finish label answer := by
  have alone : (machine.within returned).wake number = machine.within returned := by
    simp [wake, within, idle]
  have returns : machine.giveBack number = some (machine.within returned) := by
    rw [giveBack, gives, Option.map_some]
    dsimp only
    rw [alone, ite_self]
  rw [finishLease, returns]
  rfl

/-- A handle that rests is closed at once. -/
theorem close_eq {number : Nat} {closed : World}
    (begins : machine.world.beginClose number = .closed closed)
    (silent : closed.closingFault? number = none) (value : Json) :
    machine.close label number (.answer value) =
      (machine.within closed).finish label (.value value) := by
  rw [close, startClose, begins]
  dsimp only [progress, proceed]
  rw [afterClose, conclude, within, silent]

theorem leasing_eq {number : Nat} {leased : World} {handle : Handle}
    {body : Nat → Handle → Machine → Machine}
    (leases : machine.world.lease session = .ok (number, leased))
    (there : leased.handle? number = some handle) :
    machine.leasing label session body = body number handle (machine.within leased) := by
  rw [leasing, leases]
  dsimp only
  rw [there]

theorem leasing_of_none {body : Nat → Handle → Machine → Machine}
    (missing : machine.world.session? session = none) :
    machine.leasing label session body = machine.fail label .notConnected := by
  rw [leasing, World.lease, missing]

/-- The cluster of a handle is called in a turn of its own. -/
theorem beginCall_eq {number : Nat} {handle : Handle} {cluster default : String}
    (there : machine.world.handle? number = some handle)
    (backend : handle.backend = .memory cluster default false) (call : Store.Call) (use : Use) :
    machine.beginCall label number call use =
      machine.later label (.call number cluster default call use) := by
  rw [beginCall, there, Option.map_some, backend]

theorem resumeCall_eq {number : Nat} {handle : Handle} {cluster default : String}
    (there : machine.world.handle? number = some handle)
    (backend : handle.backend = .memory cluster default false) (call : Store.Call) {use : Use}
    (serves : use.session? = some session) {result : Except Store.Fault Store.Reply}
    {keeping : Store.Cluster.Keeping}
    (performs : Store.Cluster.perform default call
      ⟨machine.world.contents cluster, machine.world.given⟩ = (result, keeping)) :
    machine.resumeCall label number cluster default call use =
      (machine.within
        { machine.world with
          clusters := Dictionary.insert cluster keeping.cluster machine.world.clusters
          given := keeping.given }).finishLease label (some session) number
        (use.answer result) := by
  have open? : (machine.world.handle? number).all (·.backend.isClosed) = false := by
    rw [there, Option.all_some, backend]
    rfl
  rw [World.contents] at performs
  rw [resumeCall, open?, if_neg Bool.false_ne_true]
  dsimp only
  rw [performs]
  dsimp only
  rw [completeCall, serves]

/-! ## Operations -/

/-- The operation is answered what the desk says that its session has, and leaves that desk. -/
def IsServed (machine : Machine) (label session : String) (request : Request)
    (served : Answer × Desk) : Prop :=
  ∃ next, machine.Completes label request served.1 next ∧
    machine.world.Serves session served.2 next

theorem AtRest.isServed_fail (rests : machine.AtRest) (session : String) {fault : Fault}
    (begins : machine.begin label request = machine.fail label fault) :
    machine.IsServed label session request (.fault fault, machine.world.desk session) :=
  ⟨machine.world, completes_of_begin rests.ready begins, rests.world.serves session⟩

/-- The handle is given back with the answer, and the session is active. -/
theorem exists_finishLease {base : World} {number : Nat} (rests : base.AtRest)
    (idle : machine.draining = []) (lends : base.Lent session number machine.world)
    (course : base.SameCourse machine.world) (has : base.handleOf? session = some number)
    (still : machine.world.handleOf? session = some number) (answer : Answer) :
    ∃ next, machine.finishLease label (some session) number answer =
        (machine.within next).finish label answer ∧
      base.Reseats session ((base.seat? session).map (Seat.activeAt base.now)) next := by
  rcases rests.exists_giveBack lends course has still with ⟨returned, gives, reseats⟩
  exact ⟨_, finishLease_eq idle gives answer, reseats⟩

/-- Whoever has no seat is told so, and everybody else borrows a handle first. -/
theorem AtRest.isServed_leasing (rests : machine.AtRest)
    {body : Nat → Handle → Machine → Machine} (served : Option Seat → Answer × Desk)
    (begins : machine.begin label request = machine.leasing label session body)
    (nobody : served none = (.fault .notConnected, ⟨none, machine.world.contents⟩))
    (goes : ∀ {seat number handle leased},
      machine.world.Visits session seat number handle leased →
        machine.begin label request = body number handle (machine.within leased) →
          machine.IsServed label session request (served (some seat))) :
    machine.IsServed label session request (served (machine.world.seat? session)) := by
  cases found : machine.world.session? session with
  | none =>
      have fails := rests.isServed_fail session (begins.trans (leasing_of_none found))
      rw [World.desk, World.seat?_eq_none found] at fails
      rw [World.seat?_eq_none found, nobody]
      exact fails
  | some entry =>
      rcases rests.world.exists_lease found with ⟨seat, number, handle, leased, leases, visits⟩
      rw [visits.sits]
      exact goes visits (begins.trans (leasing_eq leases visits.there))

/-- The handle that was borrowed is given back at once. -/
theorem AtRest.isServed_finishLease (rests : machine.AtRest) {seat : Seat} {number : Nat}
    {handle : Handle} {leased : World}
    (visits : machine.world.Visits session seat number handle leased)
    (begins : machine.begin label request =
      (machine.within leased).finishLease label (some session) number answer) :
    machine.IsServed label session request
      (answer, ⟨some (seat.activeAt machine.world.now), machine.world.contents⟩) := by
  have idle : (machine.within leased).draining = [] := rests.draining
  rcases exists_finishLease rests.world idle visits.lent visits.course visits.has visits.still
    answer with ⟨next, finishes, reseats⟩
  have serves := reseats.serves (.refl machine.world) rfl
  rw [visits.sits] at serves
  exact ⟨next, completes_of_begin rests.ready (begins.trans finishes), serves⟩

/-- The cluster of the seat is called, and then the handle is given back. -/
theorem AtRest.isServed_beginCall (rests : machine.AtRest) {seat : Seat} {number : Nat}
    {handle : Handle} {leased : World}
    (visits : machine.world.Visits session seat number handle leased) {call : Store.Call}
    {use : Use} (serves : use.session? = some session)
    (begins : machine.begin label request =
      (machine.within leased).beginCall label number call use)
    {result : Except Store.Fault Store.Reply} {keeping : Store.Cluster.Keeping}
    (performs : Store.Cluster.perform seat.default call
      ⟨machine.world.contents seat.cluster, machine.world.given⟩ = (result, keeping)) :
    machine.IsServed label session request
      (use.answer result, ⟨some (seat.activeAt machine.world.now),
        Function.update machine.world.contents seat.cluster keeping.cluster⟩) := by
  have clusters : leased.clusters = machine.world.clusters := visits.lent.same.clusters
  have same : leased.contents = machine.world.contents := by
    funext cluster
    rw [World.contents, clusters]
    rfl
  rw [← same, ← visits.given] at performs
  let kept := Dictionary.insert seat.cluster keeping.cluster leased.clusters
  let base : World := { machine.world with clusters := kept, given := keeping.given }
  let called : World := { leased with clusters := kept, given := keeping.given }
  have resumes : (machine.within leased).resumeCall label number seat.cluster seat.default call
      use = _ := resumeCall_eq visits.there visits.backend call serves performs
  have idle : ((machine.within leased).within called).draining = [] := rests.draining
  have course : base.SameCourse called :=
    ⟨⟨visits.course.now, visits.course.rounding, visits.course.reapers⟩, visits.course.settings,
      visits.course.server⟩
  have lends := visits.lent.beside kept keeping.given keeping.given
  rcases exists_finishLease (rests.world.beside kept keeping.given) idle lends course visits.has
    visits.still (use.answer result) with ⟨next, finishes, reseats⟩
  have left : machine.world.Serves session _ next :=
    reseats.serves ⟨⟨rfl, rfl, rfl⟩, rfl, rfl⟩ rfl
  have sits : base.seat? session = some seat := visits.sits
  have filled : base.contents =
      Function.update machine.world.contents seat.cluster keeping.cluster :=
    same ▸ leased.contents_insert seat.cluster keeping.cluster
  rw [sits, filled] at left
  have begun := begins.trans (beginCall_eq visits.there visits.backend call use)
  exact ⟨next, completes_of_later rests.ready begun (resumes.trans finishes), left⟩

/-- The cluster of the seat is called in the second turn. -/
theorem AtRest.isServed_call (rests : machine.AtRest)
    {body : Nat → Handle → Machine → Machine} {plan : Seat → Except Fault (Store.Call × Use)}
    (begins : machine.begin label request = machine.leasing label session body)
    (planned : ∀ {seat number handle}, handle.database = seat.database → ∀ machine : Machine,
      body number handle machine =
        match plan seat with
        | .ok (call, use) => machine.beginCall label number call use
        | .error fault => machine.finishLease label (some session) number (.fault fault))
    (uses : ∀ seat call use, plan seat = .ok (call, use) → use.session? = some session) :
    machine.IsServed label session request
      ((machine.world.desk session).call machine.world.given machine.world.now plan) := by
  refine rests.isServed_leasing (fun seat =>
    Desk.call machine.world.given machine.world.now ⟨seat, machine.world.contents⟩ plan)
    begins rfl ?_
  intro seat number handle leased visits begins
  rw [planned visits.database] at begins
  dsimp only [Desk.call]
  cases plans : plan seat with
  | error fault =>
      rw [plans] at begins
      exact rests.isServed_finishLease visits begins
  | ok asked =>
      rw [plans] at begins
      exact rests.isServed_beginCall visits (uses seat asked.1 asked.2 plans) begins rfl

/-- Selecting a database gives the handle back at once. -/
theorem AtRest.isServed_selectDatabase (rests : machine.AtRest) (label session : String)
    (name : Json) :
    machine.IsServed label session (.selectDatabase session name)
      (machine.world.serve session (.selectDatabase session name)) := by
  refine rests.isServed_leasing (fun seat => Desk.serve machine.world.settings machine.world.given
    machine.world.now ⟨seat, machine.world.contents⟩ (.selectDatabase session name))
    (by rw [Machine.begin, selectDatabase]) rfl ?_
  intro seat number handle leased visits begins
  dsimp only [Desk.serve]
  cases named : databaseName? name with
  | none =>
      rw [named] at begins
      exact rests.isServed_finishLease visits begins
  | some database =>
      rw [named] at begins
      let base := machine.world.changeHandle number (·.select database)
      let selected := leased.changeHandle number (·.select database)
      have reselected := rests.world.reseats_select visits.has database
      have idle : ((machine.within leased).within selected).draining = [] := rests.draining
      have course : base.SameCourse selected :=
        ⟨⟨visits.course.now, visits.course.rounding, visits.course.reapers⟩,
          visits.course.settings, visits.course.server⟩
      rcases exists_finishLease reselected.rests idle (visits.lent.select database) course
        visits.has visits.still (messageAnswer "Database selected successfully") with
        ⟨next, finishes, reseats⟩
      have left := (reselected.trans reseats).serves (.refl machine.world) rfl
      rw [reselected.seats, Function.update_self, visits.sits] at left
      exact ⟨next, completes_of_begin rests.ready (begins.trans finishes), left⟩

/-- The handle of the session is registered at once, and the one before is closed. -/
theorem exists_connected {base : World} (rests : base.AtRest) {handle : Handle}
    (resting : handle.Rests) :
    ∃ next, (machine.within (base.addHandle handle).2).connected label session
          base.handles.length =
        (machine.within next).finish label (messageAnswer "Connected successfully") ∧
      base.Reseats session (seatOf? base.now handle) next := by
  rw [connected, put]
  cases puts : (base.addHandle handle).2.put session base.handles.length with
  | mk previous registered =>
      have registers : (machine.within (base.addHandle handle).2).world.put session
          base.handles.length = (previous, registered) := puts
      rw [registers]
      cases previous with
      | none =>
          refine ⟨registered, rfl, ?_⟩
          exact rests.reseats_put resting puts (.refl registered) rfl rfl fun _ _ => rfl
      | some previous =>
          rcases rests.exists_closePrevious resting puts with ⟨last, closed, silent, reseats⟩
          exact ⟨last, close_eq closed silent _, reseats⟩

/-- A session that connects has the seat in the cluster that its address names. -/
theorem AtRest.isServed_connect (rests : machine.AtRest) (label : String) {address : Json}
    (stays : (Request.connect session address).staysInMemory = true) :
    machine.IsServed label session (.connect session address)
      (machine.world.serve session (.connect session address)) := by
  rw [World.serve, Desk.serve]
  split
  · rename_i name cluster database read
    let base := machine.world.growing cluster
    let handle := Handle.ofBackend name (.memory cluster database false)
    have rested : base.AtRest := rests.world.beside base.clusters machine.world.given
    have begins : machine.begin label (.connect session address) =
        (machine.within (base.addHandle handle).2).connected label session
          base.handles.length := by
      rw [Machine.begin, Machine.connect, Connection.openUri, read]
      rfl
    rcases exists_connected rested (Handle.rests_ofBackend name cluster database) with
      ⟨next, connects, reseats⟩
    have left : machine.world.Serves session _ next :=
      reseats.serves ⟨⟨rfl, rfl, rfl⟩, rfl, rfl⟩ rfl
    rw [machine.world.contents_growing cluster] at left
    exact ⟨next, completes_of_begin rests.ready (begins.trans connects), left⟩
  · rename_i name server read
    rw [Request.staysInMemory, read] at stays
    cases stays
  · rename_i fault read
    refine rests.isServed_fail session ?_
    rw [Machine.begin, Machine.connect, Connection.openUri, read]
    rfl

theorem AtRest.isServed_endSession (rests : machine.AtRest) (label session : String) :
    machine.IsServed label session (.endSession session)
      (machine.world.serve session (.endSession session)) := by
  cases taken : machine.world.take? session .removed with
  | none =>
      have seatless := World.seat?_eq_none (Option.map_eq_none_iff.mp taken)
      rw [World.serve, Desk.serve, World.desk, seatless]
      have fails : machine.IsServed label session (.endSession session) _ :=
        rests.isServed_fail session (by rw [Machine.begin, remove, taken])
      rw [World.desk, seatless] at fails
      exact fails
  | some departed =>
      rcases departed with ⟨number, left⟩
      rcases rests.world.exists_close taken with ⟨last, closed, silent, reseats⟩
      rcases Option.map_eq_some_iff.mp taken with ⟨entry, found, -⟩
      rcases rests.world.exists_seat found with ⟨_, _, _, -, -, -, sits⟩
      rw [World.serve, Desk.serve, World.desk, sits]
      refine ⟨last, completes_of_begin rests.ready ?_, reseats.serves (.refl machine.world) rfl⟩
      rw [Machine.begin, remove, taken]
      exact close_eq closed silent _

/-- A command that can be read is called; whoever is not connected is told that first. -/
theorem AtRest.isServed_query (rests : machine.AtRest) (label session : String)
    (command : Json) :
    machine.IsServed label session (.query session command)
      (machine.world.serve session (.query session command)) := by
  cases found : machine.world.session? session with
  | none =>
      have seatless : (machine.world.desk session).seat = none := World.seat?_eq_none found
      rw [World.serve, Desk.serve, seatless]
      refine rests.isServed_fail session ?_
      rw [Machine.begin, query, found]
      rfl
  | some entry =>
      rcases rests.world.exists_seat found with ⟨_, _, _, -, -, -, sits⟩
      have seated : (machine.world.desk session).seat.isNone = false := by
        rw [World.desk, sits]
        rfl
      have known : (machine.world.session? session).isNone = false := by
        rw [found]
        rfl
      rw [World.serve, Desk.serve, seated, if_neg Bool.false_ne_true]
      cases parsed : Command.parse machine.world.settings.policy command with
      | error fault =>
          refine rests.isServed_fail session ?_
          rw [Machine.begin, query, known, if_neg Bool.false_ne_true, parsed]
      | ok descriptor =>
          refine rests.isServed_call
            (by rw [Machine.begin, query, known, if_neg Bool.false_ne_true, parsed]) ?_ ?_
          · intro seat number handle same base
            rw [same]
            cases Dispatch.callOf seat.database descriptor <;> rfl
          · intro seat call use planned
            split at planned
            · obtain ⟨-, rfl⟩ := Prod.mk.inj (Except.ok.inj planned)
              rfl
            · cases planned

/--
Where nothing else is to be done, whoever asks for an operation is answered what the desk says,
and there is again nothing to be done.
-/
theorem AtRest.isServed (rests : machine.AtRest) (label : String)
    (asks : request.caller? = some session) (stays : request.staysInMemory = true) :
    machine.IsServed label session request (machine.world.serve session request) := by
  cases request with
  | connect caller address =>
      obtain rfl := Option.some.inj asks
      exact rests.isServed_connect label stays
  | listDatabases caller =>
      obtain rfl := Option.some.inj asks
      refine rests.isServed_call (by rw [Machine.begin]) (fun _ _ => rfl) ?_
      rintro _ _ _ ⟨⟩
      rfl
  | selectDatabase caller name =>
      obtain rfl := Option.some.inj asks
      exact rests.isServed_selectDatabase label caller name
  | listCollections caller =>
      obtain rfl := Option.some.inj asks
      refine rests.isServed_call (by rw [Machine.begin]) (fun same _ => by rw [same]) ?_
      rintro _ _ _ ⟨⟩
      rfl
  | query caller command =>
      obtain rfl := Option.some.inj asks
      exact rests.isServed_query label caller command
  | endSession caller =>
      obtain rfl := Option.some.inj asks
      exact rests.isServed_endSession label caller
  | _ =>
      cases asks

/-! ## Scans -/

/-- A session that is looked at leaves or stays, and the scan goes on. -/
theorem exists_scan_cons (rests : machine.world.AtRest) (limit : Double) (evicted : List String)
    (session : String) (rest : List String) :
    ∃ further, Machine.scan label limit evicted machine (session :: rest) =
      Machine.scan label limit further
        (machine.within (machine.world.evict session limit).world) rest := by
  rw [Machine.scan, World.evict]
  split
  · cases taken : machine.world.take? session (.evicted limit) with
    | none =>
        exact ⟨evicted, rfl⟩
    | some departed =>
        rcases departed with ⟨number, left⟩
        rcases rests.exists_close taken with ⟨last, closed, silent, -⟩
        refine ⟨evicted ++ [session], ?_⟩
        have closes : (machine.within left).startClose label number
            (.scan limit (evicted ++ [session]) rest) = .done true (machine.within last) := by
          have begins : (machine.within left).world.beginClose number = .closed last := closed
          rw [startClose, begins]
          rfl
        have quiet : (machine.within last).world.closingFault? number = none := silent
        dsimp only
        rw [closes, closed]
        dsimp only
        rw [quiet]
  · exact ⟨evicted, rfl⟩

theorem exists_scan (rests : machine.world.AtRest) (limit : Double) (evicted : List String)
    (sessions : List String) :
    ∃ answer, Machine.scan label limit evicted machine sessions =
      (machine.within (machine.world.evictAll limit sessions).2).finish label answer := by
  induction sessions generalizing machine evicted with
  | nil =>
      exact ⟨_, rfl⟩
  | cons session rest ih =>
      rcases rests.evict session limit with ⟨silent, reseats⟩
      rcases exists_scan_cons rests limit evicted session rest with ⟨further, goes⟩
      have still : (machine.within (machine.world.evict session limit).world).world.AtRest :=
        reseats.rests
      rcases ih still further with ⟨answer, ends⟩
      refine ⟨answer, ?_⟩
      rw [goes, ends, World.evictAll]
      dsimp only
      rw [silent]
      rfl

/-- A scan that is asked for is completed in one turn. -/
theorem AtRest.exists_completes_scan (rests : machine.AtRest) (label : String) :
    ∃ answer, machine.Completes label .scan answer
      (machine.world.scan machine.world.latestLimit).2 := by
  rcases exists_scan rests.world machine.world.latestLimit [] _ with ⟨answer, ends⟩
  exact ⟨answer, completes_of_begin rests.ready ends⟩

end Machine
end DocumentGate.Service
