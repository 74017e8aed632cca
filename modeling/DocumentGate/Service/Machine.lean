import DocumentGate.Service.World

/-!
# Operations that take turns

Operations run one at a time and hand over at fixed points only: a call of a cluster in
memory waits for one turn before it does its work, closing a handle waits until the last
borrower has given it back and, where that is slow, one turn more until its store is
closed, a lease waits until it is ended, and stopping what runs in the background takes
two turns each.  Opening a connection to a slow server and calling it wait for a turn
after that.  Everything between two such points happens at once.

What is ready runs in the order in which it became ready.  `Machine.resume` runs any
ready operation, so that statements can be made about every order; `Machine.settle` runs
them first come, first served, until all that are left wait for something.
-/

namespace DocumentGate.Service

/-! ## What is asked and answered -/

/-- What can be asked of the service and its parts. -/
inductive Request where
  /-- A question about the world as it is. -/
  | ask (question : World → Json)
  -- The registry.
  | touch (session : String)
  | get (session : String)
  | put (session : String) (handle : Nat)
  | remove (session : String)
  | evict (session : String) (limit : Double)
  | closeAll
  | lease (session name : String) (failure : Option String)
  -- Handles.
  | borrow (handle : Nat)
  | giveBack (handle : Nat)
  | borrowUntilEnd (handle : Nat) (name : String)
  | endLease (name : String)
  | select (handle : Nat) (database : String)
  | close (handle : Nat)
  -- Reapers, of which the one that was made last is meant.
  | makeReaper (idleLimit interval : Double)
  | scan
  | startReaper
  | stopReaper
  -- Stores.
  | call (handle : Nat) (call : Store.Call)
  | dispatch (handle : Nat) (descriptor : Command.Descriptor)
  | closeStore (handle : Nat)
  -- The service.
  | connect (session : String) (address : Json)
  | listDatabases (session : String)
  | selectDatabase (session : String) (name : Json)
  | listCollections (session : String)
  | query (session : String) (command : Json)
  | endSession (session : String)
  | label (session : String)
  | start
  | shutdown

/-- What an operation answers. -/
inductive Answer where
  | value (value : Json)
  /-- The reply of a store that was called directly. -/
  | reply (reply : Store.Reply)
  /-- The reply of a store to an operation. -/
  | outcome (operation : Operation) (reply : Store.Reply)
  | fault (fault : Fault)

/-- A message as an answer. -/
def messageAnswer (text : String) : Answer :=
  .value (.object [("message", .string text)])

/-! ## What waits -/

/-- What the reply of a store is for. -/
inductive Use where
  | direct
  | dispatched (operation : Operation)
  | listing (session : String)
  | querying (session : String) (operation : Operation)

/-- The session whose handle is borrowed for a call. -/
def Use.session? : Use → Option String
  | .direct => none
  | .dispatched _ => none
  | .listing session => some session
  | .querying session _ => some session

/-- What a call answers. -/
def Use.answer (use : Use) (result : Except Store.Fault Store.Reply) : Answer :=
  match use, result with
  | .direct, .ok reply => .reply reply
  | .direct, .error fault => .fault (.store fault)
  | .dispatched operation, .ok reply => .outcome operation reply
  | .listing _, .ok (.names names) => .value (.array (names.map .string))
  | .listing _, .ok reply => .reply reply
  | .querying _ operation, .ok reply => .outcome operation reply
  | _, .error fault => .fault (.backend fault)

/-- Why every session is closed. -/
inductive Sweep where
  /-- To tell how many were closed. -/
  | counting
  | shutdown

/-- What a sweep answers. -/
def Sweep.answer (closed : Nat) : Sweep → Answer
  | .counting => .value (.count closed)
  | .shutdown => .value .null

/-- What is done when a handle was closed. -/
inductive AfterClose where
  /-- Answer whether this was the closing that counted. -/
  | direct
  | answer (value : Json)
  /-- Close the handles of further sessions. -/
  | sweep (purpose : Sweep) (closed : Nat) (rest : List String)
  /-- Evict further sessions that are idle, after those that were evicted. -/
  | scan (limit : Double) (evicted rest : List String)

/-- A handle that was borrowed until the lease is ended. -/
structure Loan where
  label : String
  handle : Nat
  /-- The session that the handle was borrowed from. -/
  session : Option String
  /-- The failure that ends the lease. -/
  failure : Option String

/-- What an operation does in its next turn. -/
inductive Work where
  | begin (request : Request)
  /-- A connection was opened for the session. -/
  | opened (session : String) (handle : Nat)
  /-- The store of the handle is a cluster in memory, which is called. -/
  | call (handle : Nat) (cluster default : String) (call : Store.Call) (use : Use)
  /-- The store of the handle is a server, which was called. -/
  | called (handle : Nat) (use : Use) (result : Except Store.Fault Store.Reply)
  /-- The last borrower has given the handle back. -/
  | drained (handle : Nat) (after : AfterClose)
  /-- Closing the store of the handle was tried in the turn before. -/
  | shut (handle : Nat) (after : AfterClose)
  | ended (loan : Loan)
  /-- A reaper stops in the first turn and is waited for until the second. -/
  | haltReaper (reaper : Nat) (stopped thenShutdown : Bool)
  /-- Regular reports stop in the first turn and are waited for until the second. -/
  | haltReports (stopped : Bool)

/-- An operation that is ready; its answer is given under its label. -/
structure Task where
  label : String
  work : Work

/-- An operation that waits until a handle is given back. -/
structure Draining where
  label : String
  handle : Nat
  after : AfterClose

/-- The world and the operations in it. -/
structure Machine where
  world : World
  ready : List Task := []
  draining : List Draining := []
  loans : Dictionary Loan := []
  /-- The answers so far, in the order in which they were given. -/
  answers : List (String × Answer) := []

namespace Machine

/-! ## Parts of operations -/

/-- Give an answer. -/
def finish (machine : Machine) (label : String) (answer : Answer) : Machine :=
  { machine with answers := machine.answers ++ [(label, answer)] }

/-- Give a value as the answer. -/
def finishWith (machine : Machine) (label : String) (value : Json) : Machine :=
  machine.finish label (.value value)

/-- Give a fault as the answer. -/
def fail (machine : Machine) (label : String) (fault : Fault) : Machine :=
  machine.finish label (.fault fault)

/-- Do further work when it is its turn. -/
def later (machine : Machine) (label : String) (work : Work) : Machine :=
  { machine with ready := machine.ready ++ [⟨label, work⟩] }

/-- The machine with another world. -/
def within (machine : Machine) (world : World) : Machine :=
  { machine with world := world }

/-- What waited for a handle to be given back is ready now. -/
def wake (machine : Machine) (handle : Nat) : Machine :=
  let woken := machine.draining.filter fun waiting => waiting.handle == handle
  { machine with
    ready := machine.ready ++ woken.map fun waiting =>
      ⟨waiting.label, .drained waiting.handle waiting.after⟩
    draining := machine.draining.filter fun waiting => waiting.handle != handle }

/-- Give a handle back; the last borrower wakes what waited for that. -/
def giveBack (machine : Machine) (handle : Nat) : Option Machine :=
  (machine.world.giveBack? handle).map fun world =>
    let returned := machine.within world
    if world.isDrained handle then returned.wake handle else returned

/-- The label of a handle. -/
def labelOf (world : World) (number : Nat) : String :=
  ((world.handle? number).map Handle.label).getD ""

/--
Give a borrowed handle back and answer.  The session that it was borrowed from is active
now if it still has the handle.
-/
def finishLease (machine : Machine) (label : String) (session : Option String) (handle : Nat)
    (answer : Answer) : Machine :=
  match machine.giveBack handle with
  | none => machine.fail label (.overReturned (labelOf machine.world handle))
  | some returned =>
    match session with
    | some session =>
      (returned.within (returned.world.refreshFor session handle)).finish label answer
    | none => returned.finish label answer

/-- Answer when a handle was closed, unless a failure is reported. -/
def conclude (machine : Machine) (label : String) (handle : Nat) (answer : Answer) : Machine :=
  match machine.world.closingFault? handle with
  | some fault => machine.fail label fault
  | none => machine.finish label answer

/-- One more session was closed, unless a failure was reported. -/
def countClosed (world : World) (handle closed : Nat) : Nat :=
  if (world.closingFault? handle).isSome then closed else closed + 1

/-- How far an operation has come that closes a handle. -/
inductive Progress where
  /-- The handle is closed; the operation says whether it was the one that closed it. -/
  | done (first : Bool) (machine : Machine)
  /-- The operation goes on in a later turn. -/
  | suspended (machine : Machine)

/-- Close the store of a handle that nobody has borrowed, and go on afterwards. -/
def progress (machine : Machine) (label : String) (handle : Nat) (after : AfterClose) :
    World.CloseStart → Progress
  | .refused world => .done false (machine.within world)
  | .closed world => .done true (machine.within world)
  | .closing world => .suspended ((machine.within world).later label (.shut handle after))
  | .waiting world =>
    .suspended
      { machine with world := world, draining := machine.draining ++ [⟨label, handle, after⟩] }

/-- Close a handle, and go on afterwards. -/
def startClose (machine : Machine) (label : String) (handle : Nat) (after : AfterClose) :
    Progress :=
  machine.progress label handle after (machine.world.beginClose handle)

/-- Close the handles of sessions one after the other, and wait where that is needed. -/
def sweep (label : String) (purpose : Sweep) (closed : Nat) (machine : Machine) :
    List String → Machine
  | [] => machine.finish label (purpose.answer closed)
  | session :: rest =>
    match machine.world.take? session .removed with
    | none => sweep label purpose closed machine rest
    | some (handle, world) =>
      match (machine.within world).startClose label handle (.sweep purpose closed rest) with
      | .done _ machine =>
        sweep label purpose (countClosed machine.world handle closed) machine rest
      | .suspended machine => machine

/-- Close the handle of every session. -/
def sweepAll (machine : Machine) (label : String) (purpose : Sweep) : Machine :=
  sweep label purpose 0 machine (Dictionary.names machine.world.sessions)

/-- Evict those of some sessions that are idle; a reported failure ends the scan. -/
def scan (label : String) (limit : Double) (evicted : List String) (machine : Machine) :
    List String → Machine
  | [] => machine.finishWith label (.array (evicted.map .string))
  | session :: rest =>
    if machine.world.isIdle session limit then
      match machine.world.take? session (.evicted limit) with
      | none => scan label limit evicted machine rest
      | some (handle, world) =>
        let further := evicted ++ [session]
        match (machine.within world).startClose label handle (.scan limit further rest) with
        | .done _ machine =>
          match machine.world.closingFault? handle with
          | some fault => machine.fail label fault
          | none => scan label limit further machine rest
        | .suspended machine => machine
    else scan label limit evicted machine rest

/--
Evict every session that is idle.  Which are looked at is decided at the beginning;
whether one of them is still idle, when its turn has come.
-/
def scanAll (machine : Machine) (label : String) (limit : Double) : Machine :=
  scan label limit [] machine (machine.world.overdue limit)

/-- Go on when a handle was closed. -/
def afterClose (machine : Machine) (label : String) (handle : Nat) (first : Bool) :
    AfterClose → Machine
  | .direct => machine.conclude label handle (.value (.boolean first))
  | .answer value => machine.conclude label handle (.value value)
  | .sweep purpose closed rest =>
    sweep label purpose (countClosed machine.world handle closed) machine rest
  | .scan limit evicted rest =>
    match machine.world.closingFault? handle with
    | some fault => machine.fail label fault
    | none => scan label limit evicted machine rest

/-- Go on with what closes a handle, as far as it has come. -/
def proceed (label : String) (handle : Nat) (after : AfterClose) : Progress → Machine
  | .done first machine => machine.afterClose label handle first after
  | .suspended machine => machine

/-- Close a handle, now or when the last borrower gives it back. -/
def close (machine : Machine) (label : String) (handle : Nat) (after : AfterClose) : Machine :=
  proceed label handle after (machine.startClose label handle after)

/-- Close the store of a handle that its last borrower has given back. -/
def closeDrained (machine : Machine) (label : String) (handle : Nat) (after : AfterClose) :
    Machine :=
  proceed label handle after
    (machine.progress label handle after (machine.world.beginStore handle))

/-- Take a session out and close its handle, if it is idle. -/
def evict (machine : Machine) (label session : String) (limit : Double) : Machine :=
  if machine.world.isIdle session limit then
    match machine.world.take? session (.evicted limit) with
    | none => machine.finishWith label (.boolean false)
    | some (handle, world) =>
      (machine.within world).close label handle (.answer (.boolean true))
  else machine.finishWith label (.boolean false)

/-- Register a handle and close the one that the session had before. -/
def put (machine : Machine) (label session : String) (handle : Nat) (first replaced : Json) :
    Machine :=
  match machine.world.put session handle with
  | (none, world) => (machine.within world).finishWith label first
  | (some previous, world) => (machine.within world).close label previous (.answer replaced)

/-- Take a session out and close its handle. -/
def remove (machine : Machine) (label session : String) (answer : Json) : Machine :=
  match machine.world.take? session .removed with
  | none => machine.fail label .noActiveSession
  | some (handle, world) => (machine.within world).close label handle (.answer answer)

/-- Give back what was borrowed for a call, and answer. -/
def completeCall (machine : Machine) (label : String) (handle : Nat) (use : Use)
    (result : Except Store.Fault Store.Reply) : Machine :=
  match use.session? with
  | some session => machine.finishLease label (some session) handle (use.answer result)
  | none => machine.finish label (use.answer result)

/--
Call the store of a handle: a cluster in its next turn, a server at once.  A slow server
replies in the next turn.
-/
def beginCall (machine : Machine) (label : String) (handle : Nat) (call : Store.Call) (use : Use) :
    Machine :=
  match (machine.world.handle? handle).map Handle.backend with
  | some (.memory cluster default false) =>
    machine.later label (.call handle cluster default call use)
  | some (.tables connection) =>
    let world := machine.world
    let (result, dealing) :=
      Postgres.perform connection call ⟨{ broken := connection.broken }, world.given⟩
    let called := machine.within { world with given := dealing.given }
    if connection.slow && !connection.closed then called.later label (.called handle use result)
    else called.completeCall label handle use result
  | _ => machine.completeCall label handle use (.error .closed)

/-- Call the cluster of a handle, unless its store was closed in between. -/
def resumeCall (machine : Machine) (label : String) (handle : Nat) (cluster default : String)
    (call : Store.Call) (use : Use) : Machine :=
  if (machine.world.handle? handle).all (·.backend.isClosed) then
    machine.completeCall label handle use (.error .closed)
  else
    let world := machine.world
    let (result, keeping) :=
      Store.Cluster.perform default call
        ⟨(Dictionary.get? cluster world.clusters).getD [], world.given⟩
    let kept :=
      { world with
        clusters := Dictionary.insert cluster keeping.cluster world.clusters
        given := keeping.given }
    (machine.within kept).completeCall label handle use result

/-- Borrow the handle of a session, or answer that there is none. -/
def leasing (machine : Machine) (label session : String)
    (next : Nat → Handle → Machine → Machine) : Machine :=
  match machine.world.lease session with
  | .error fault => machine.fail label fault
  | .ok (number, world) =>
    match world.handle? number with
    | some handle => next number handle (machine.within world)
    | none => machine.fail label .notConnected

/-- The database that a name selects. -/
def databaseName? : Json → Option String
  | .string name => if Text.isBlankText name then none else some name
  | _ => none

/-- Select a database for a session. -/
def selectDatabase (machine : Machine) (label session : String) (name : Json) : Machine :=
  machine.leasing label session fun number _ machine =>
    match databaseName? name with
    | some database =>
      let selected := machine.world.changeHandle number (·.select database)
      (machine.within selected).finishLease label (some session) number
        (messageAnswer "Database selected successfully")
    | none => machine.finishLease label (some session) number (.fault (.shape .noDatabaseName))

/-- Run a command for a session. -/
def query (machine : Machine) (label session : String) (command : Json) : Machine :=
  if (machine.world.session? session).isNone then machine.fail label .notConnected
  else
    match Command.parse machine.world.settings.policy command with
    | .error fault => machine.fail label (.command fault)
    | .ok descriptor =>
      machine.leasing label session fun number handle machine =>
        match Dispatch.callOf handle.database descriptor with
        | .ok call =>
          machine.beginCall label number call (.querying session descriptor.operation)
        | .error fault => machine.finishLease label (some session) number (.fault (.shape fault))

/-- Register the handle of a connection that was opened for a session. -/
def connected (machine : Machine) (label session : String) (handle : Nat) : Machine :=
  let message : Json := .object [("message", .string "Connected successfully")]
  machine.put label session handle message message

/-- Open a connection for a session. -/
def connect (machine : Machine) (label session : String) (address : Json) : Machine :=
  let world := machine.world
  let opening := Connection.openUri world.settings world.server world.clusters address
  let opened := { world with clusters := opening.clusters }
  match opening.result with
  | .error fault => (machine.within opened).fail label (.connection fault)
  | .ok handle =>
    let (number, added) := opened.addHandle handle
    if handle.slow then (machine.within added).later label (.opened session number)
    else (machine.within added).connected label session number

/-- Start what runs in the background. -/
def startBackground (machine : Machine) : Machine :=
  machine.within { machine.world.startReaper 0 with reporting := true }

/-- Stop the reports, if there are any, and close every session. -/
def haltReports (machine : Machine) (label : String) : Machine :=
  if machine.world.reporting then machine.later label (.haltReports false)
  else machine.sweepAll label .shutdown

/-- Go on when a reaper has stopped. -/
def reaperStopped (machine : Machine) (label : String) (thenShutdown : Bool) : Machine :=
  if thenShutdown then machine.haltReports label else machine.finishWith label .null

/-- Stop a reaper, if it runs. -/
def haltReaper (machine : Machine) (label : String) (reaper : Nat) (thenShutdown : Bool) :
    Machine :=
  if machine.world.isReaping reaper then
    machine.later label (.haltReaper reaper false thenShutdown)
  else machine.reaperStopped label thenShutdown

/-- A lease that waits until it is ended. -/
def addLoan (machine : Machine) (name : String) (loan : Loan) : Machine :=
  { machine with loans := Dictionary.insert name loan machine.loans }

/-- The database of a handle. -/
def databaseOf (world : World) (number : Nat) : String :=
  ((world.handle? number).map Handle.database).getD ""

/-! ## Operations -/

/-- Begin an operation. -/
def begin (machine : Machine) (label : String) : Request → Machine
  | .ask question => machine.finishWith label (question machine.world)
  | .touch session =>
    (machine.within (machine.world.refresh session)).finishWith label
      (.boolean (machine.world.session? session).isSome)
  | .get session =>
    match machine.world.get session with
    | .ok (number, world) =>
      (machine.within world).finishWith label (.string (labelOf world number))
    | .error fault => machine.fail label fault
  | .label session =>
    match machine.world.get session with
    | .ok (number, world) =>
      (machine.within world).finishWith label
        (.array [.string (labelOf world number), .string (databaseOf world number)])
    | .error fault => machine.fail label fault
  | .put session handle => machine.put label session handle (.boolean false) (.boolean true)
  | .remove session => machine.remove label session .null
  | .evict session limit => machine.evict label session limit
  | .closeAll => machine.sweepAll label .counting
  | .lease session name failure =>
    machine.leasing label session fun number _ machine =>
      machine.addLoan name ⟨label, number, some session, failure⟩
  | .borrow handle =>
    match machine.world.borrow? handle with
    | some world => (machine.within world).finishWith label .null
    | none => machine.fail label .notConnected
  | .giveBack handle =>
    match machine.giveBack handle with
    | some returned => returned.finishWith label .null
    | none => machine.fail label (.overReturned (labelOf machine.world handle))
  | .borrowUntilEnd handle name =>
    match machine.world.borrow? handle with
    | some world => (machine.within world).addLoan name ⟨label, handle, none, none⟩
    | none => machine.fail label .notConnected
  | .endLease name =>
    match Dictionary.get? name machine.loans with
    | some loan =>
      ({ machine with loans := Dictionary.erase name machine.loans }.later loan.label
        (.ended loan)).finishWith label .null
    | none => machine.finishWith label .null
  | .select handle database =>
    (machine.within (machine.world.changeHandle handle (·.select database))).finishWith label .null
  | .close handle => machine.close label handle .direct
  | .makeReaper idleLimit interval =>
    match machine.world.makeReaper idleLimit interval with
    | .ok world =>
      (machine.within world).finishWith label (.boolean (world.isReaping world.latestReaper))
    | .error fault => machine.fail label fault
  | .scan =>
    let reaper := machine.world.reaper? machine.world.latestReaper
    machine.scanAll label ((reaper.map Reaper.idleLimit).getD (.infinite false))
  | .startReaper =>
    (machine.within (machine.world.startReaper machine.world.latestReaper)).finishWith label .null
  | .stopReaper => machine.haltReaper label machine.world.latestReaper false
  | .call handle call => machine.beginCall label handle call .direct
  | .dispatch handle descriptor =>
    match Dispatch.callOf (databaseOf machine.world handle) descriptor with
    | .ok call => machine.beginCall label handle call (.dispatched descriptor.operation)
    | .error fault => machine.fail label (.shape fault)
  | .closeStore handle =>
    (machine.within (machine.world.closeStore handle)).finishWith label .null
  | .connect session address => machine.connect label session address
  | .listDatabases session =>
    machine.leasing label session fun number _ machine =>
      machine.beginCall label number .databases (.listing session)
  | .selectDatabase session name => machine.selectDatabase label session name
  | .listCollections session =>
    machine.leasing label session fun number handle machine =>
      machine.beginCall label number (.collections handle.database) (.listing session)
  | .query session command => machine.query label session command
  | .endSession session =>
    machine.remove label session (.object [("message", .string "Session ended successfully")])
  | .start => machine.startBackground.finishWith label .null
  | .shutdown => machine.haltReaper label 0 true

/-- What a lease answers when it was ended. -/
def Loan.answer (world : World) (loan : Loan) : Answer :=
  match loan.failure with
  | some message => .fault (.store (.server message))
  | none => .value (.string (labelOf world loan.handle))

/-- Do the work of one turn. -/
def perform (machine : Machine) (label : String) : Work → Machine
  | .begin request => machine.begin label request
  | .opened session handle => machine.connected label session handle
  | .call handle cluster default call use =>
    machine.resumeCall label handle cluster default call use
  | .called handle use result => machine.completeCall label handle use result
  | .drained handle after => machine.closeDrained label handle after
  | .shut handle after =>
    (machine.within (machine.world.shutStore handle)).afterClose label handle true after
  | .ended loan =>
    machine.finishLease label loan.session loan.handle (Loan.answer machine.world loan)
  | .haltReaper reaper false thenShutdown =>
    (machine.within (machine.world.stopReaper reaper)).later label
      (.haltReaper reaper true thenShutdown)
  | .haltReaper _ true thenShutdown => machine.reaperStopped label thenShutdown
  | .haltReports false =>
    (machine.within { machine.world with reporting := false }).later label (.haltReports true)
  | .haltReports true => machine.sweepAll label .shutdown

/-! ## Turns -/

/-- Run the turn of the ready operation at a position, if there is one. -/
def resume (machine : Machine) (position : Nat) : Option Machine :=
  machine.ready[position]?.map fun task =>
    { machine with ready := machine.ready.eraseIdx position }.perform task.label task.work

/-- Run turns first come, first served, at most so many. -/
def runTurns : (fuel : Nat) → Machine → Machine
  | 0, machine => machine
  | fuel + 1, machine =>
    match machine.resume 0 with
    | some next => runTurns fuel next
    | none => machine

/--
More turns than can be left: an operation that begins has at most six, and one that
closes the handles of all sessions has two for each session besides, of which there are
at most as many as there are now and may be registered by what is ready.
-/
def turnLimit (machine : Machine) : Nat :=
  (machine.ready.length + machine.draining.length + machine.loans.length + 1) *
    (2 * (machine.world.sessions.length + machine.ready.length) + 8)

/-- Run turns first come, first served, until all that are left wait. -/
def settle (machine : Machine) : Machine :=
  runTurns machine.turnLimit machine

/-- An operation is ready to begin. -/
def submit (machine : Machine) (label : String) (request : Request) : Machine :=
  machine.later label (.begin request)

/-- Let time pass. -/
def advance (machine : Machine) (span : Time) : Machine :=
  machine.within (machine.world.advance span)

end Machine
end DocumentGate.Service
