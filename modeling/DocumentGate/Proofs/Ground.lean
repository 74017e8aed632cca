import DocumentGate.Proofs.Runs

/-!
# The ground that operations stand on

Most of what happens to sessions and handles leaves two things as they are: the clusters in
memory, and what each handle was made with, which is the cluster that its store is and how
closing it goes.  They are the ground of a world.  Only three things change it: a call of a
cluster, a connection that is opened, and a handle that is made elsewhere.

A property of the ground that these three keep holds through every turn of every operation.
-/

namespace DocumentGate.Service

/-! ## Handles -/

/-- What a handle was made with. -/
structure Root where
  manner : Closing
  /-- The cluster in memory that its store is. -/
  cluster : Option String

/-- The cluster in memory that a store is. -/
def clusterOf : Backend → Option String
  | .memory cluster _ _ => some cluster
  | .tables _ => none

/-- What a handle was made with. -/
def rootOf (handle : Handle) : Root :=
  ⟨handle.manner, clusterOf handle.backend⟩

theorem rootOf_giveBack? {handle returned : Handle} (returns : handle.giveBack? = some returned) :
    rootOf returned = rootOf handle := by
  unfold Handle.giveBack? at returns
  split at returns
  · cases returns
  · obtain rfl := Option.some.inj returns
    rfl

theorem rootOf_shutStore (handle : Handle) : rootOf handle.shutStore = rootOf handle := by
  unfold Handle.shutStore
  split
  · rfl
  · unfold rootOf
    cases handle.backend <;> rfl

/-! ## Worlds -/

/-- The clusters of a world, and what its handles were made with. -/
structure Ground where
  clusters : Clusters
  roots : List Root

namespace World

/-- The ground of a world. -/
def ground (world : World) : Ground :=
  ⟨world.clusters, world.handles.map rootOf⟩

/-- The world in which closing has begun. -/
def CloseStart.world : CloseStart → World
  | .refused world => world
  | .closed world => world
  | .closing world => world
  | .waiting world => world

variable (world : World)

@[simp]
theorem ground_note (event : Event) : (world.note event).ground = world.ground :=
  rfl

theorem ground_changeHandle {number : Nat} {change : Handle → Handle}
    (keeps : ∀ handle, world.handle? number = some handle →
      rootOf (change handle) = rootOf handle) :
    (world.changeHandle number change).ground = world.ground := by
  have same : (world.handles.modify number change).map rootOf = world.handles.map rootOf := by
    apply List.ext_getElem?
    intro position
    rw [List.getElem?_map, List.getElem?_map, List.getElem?_modify]
    by_cases here : number = position
    · subst here
      cases found : world.handles[number]? with
      | none =>
          rfl
      | some handle =>
          simpa using keeps handle found
    · simp [here]
  rw [ground, changeHandle, same]
  rfl

theorem ground_borrow? {next : World} {number : Nat}
    (borrowed : world.borrow? number = some next) : next.ground = world.ground := by
  rcases borrow?_eq_some borrowed with ⟨handle, found, -, rfl⟩
  rw [ground_note]
  apply ground_changeHandle
  intro other same
  obtain rfl := Option.some.inj (found.symm.trans same)
  rfl

theorem ground_giveBack? {next : World} {number : Nat}
    (returned : world.giveBack? number = some next) : next.ground = world.ground := by
  rcases Option.bind_eq_some_iff.mp returned with ⟨handle, found, rest⟩
  rcases Option.bind_eq_some_iff.mp rest with ⟨lent, gives, done⟩
  obtain rfl := Option.some.inj done
  rw [ground_note]
  apply ground_changeHandle
  intro other same
  obtain rfl := Option.some.inj (found.symm.trans same)
  exact rootOf_giveBack? gives

@[simp]
theorem ground_shutStore (number : Nat) : (world.shutStore number).ground = world.ground :=
  world.ground_changeHandle fun handle _ => rootOf_shutStore handle

@[simp]
theorem ground_closeStore (number : Nat) : (world.closeStore number).ground = world.ground :=
  world.ground_changeHandle fun handle _ => rootOf_shutStore handle.tryStore

@[simp]
theorem ground_beginStore (number : Nat) :
    (world.beginStore number).world.ground = world.ground := by
  unfold beginStore
  split
  · exact world.ground_changeHandle fun handle _ => rfl
  · exact world.ground_closeStore number

@[simp]
theorem ground_beginClose (number : Nat) :
    (world.beginClose number).world.ground = world.ground := by
  have refusing : ((world.changeHandle number Handle.beginClosing).note
      (.closing number)).ground = world.ground :=
    world.ground_changeHandle fun handle _ => rfl
  unfold beginClose
  split
  · rfl
  · split
    · rfl
    · dsimp only
      split
      · exact refusing
      · rw [ground_beginStore, refusing]

@[simp]
theorem ground_refresh (session : String) : (world.refresh session).ground = world.ground := by
  unfold refresh
  split <;> rfl

@[simp]
theorem ground_refreshFor (session : String) (number : Nat) :
    (world.refreshFor session number).ground = world.ground := by
  unfold refreshFor
  split
  · split
    · exact world.ground_refresh session
    · rfl
  · rfl

theorem ground_get {next : World} {session : String} {number : Nat}
    (got : world.get session = .ok (number, next)) : next.ground = world.ground := by
  rw [get_eq_ok got]
  exact world.ground_refresh session

theorem ground_lease {next : World} {session : String} {number : Nat}
    (leased : world.lease session = .ok (number, next)) : next.ground = world.ground := by
  rcases lease_eq_ok leased with ⟨-, borrowed, borrows, rfl⟩
  rw [ground_refresh, world.ground_borrow? borrows]

@[simp]
theorem ground_put (session : String) (number : Nat) :
    (world.put session number).2.ground = world.ground := by
  unfold put
  dsimp only
  split <;> rfl

theorem ground_take? {next : World} {session : String} {cause : Departure} {number : Nat}
    (taken : world.take? session cause = some (number, next)) : next.ground = world.ground := by
  rcases Option.map_eq_some_iff.mp taken with ⟨entry, -, same⟩
  rw [← (Prod.mk.inj same).2]
  rfl

@[simp]
theorem ground_evict (session : String) (limit : Double) :
    (world.evict session limit).world.ground = world.ground := by
  unfold evict
  split
  · split
    · rename_i number rest taken
      have begun := rest.ground_beginClose number
      rw [world.ground_take? taken] at begun
      dsimp only
      split <;> rename_i started
      · rw [started] at begun
        exact begun
      · rw [started] at begun
        exact begun
      · rw [started] at begun
        rw [ground_shutStore]
        exact begun
      · rw [started] at begun
        exact begun
    · rfl
  · rfl

@[simp]
theorem ground_runDue (number : Nat) (due : Time) :
    (world.runDue number due).ground = world.ground :=
  @holds_runDue (·.ground = world.ground)
    (fun session limit before => (ground_evict _ session limit).trans before)
    (fun _ _ before => before) world rfl number due

@[simp]
theorem ground_advance (span : Time) : (world.advance span).ground = world.ground :=
  @holds_advance (·.ground = world.ground)
    (fun session limit before => (ground_evict _ session limit).trans before)
    (fun _ _ before => before) world rfl span

/-- A reaper is made if both of its spans are accepted, and comes after all others. -/
theorem makeReaper_eq_ok {world next : World} {idleLimit interval : Double}
    (made : world.makeReaper idleLimit interval = .ok next) :
    Number.lessOrEqual (.double idleLimit) (.integer 0) = false ∧
      Number.lessOrEqual (.double interval) (.integer 0) = false ∧
      next = { world with
        reapers := world.reapers ++ [{ idleLimit := idleLimit, interval := interval }] } := by
  unfold makeReaper at made
  split at made
  · cases made
  · rename_i patient
    split at made
    · cases made
    · rename_i often
      exact ⟨Bool.eq_false_iff.mpr patient, Bool.eq_false_iff.mpr often,
        (Except.ok.inj made).symm⟩

theorem ground_makeReaper {next : World} {idleLimit interval : Double}
    (made : world.makeReaper idleLimit interval = .ok next) : next.ground = world.ground := by
  rcases makeReaper_eq_ok made with ⟨-, -, rfl⟩
  rfl

end World

/-! ## What changes a ground -/

/--
Opening a connection gives a cluster, which exists from then on, or else it leaves the
clusters as they are and gives a server or a fault.
-/
theorem openUri_cases (settings : Settings) (server : Postgres.Server) (clusters : Clusters)
    (address : Json) :
    (∃ label cluster database,
      (Connection.openUri settings server clusters address).result =
          .ok (.ofBackend label (.memory cluster database false)) ∧
        (Connection.openUri settings server clusters address).clusters =
          if (Dictionary.get? cluster clusters).isSome then clusters
          else Dictionary.insert cluster [] clusters) ∨
      (Connection.openUri settings server clusters address).clusters = clusters ∧
        ∀ handle, (Connection.openUri settings server clusters address).result = .ok handle →
          ∃ label connection, handle = .ofBackend label (.tables connection) := by
  unfold Connection.openUri
  split
  · rename_i label target read
    cases target with
    | memory cluster database =>
        exact Or.inl ⟨label, cluster, database, rfl, rfl⟩
    | server address =>
        refine Or.inr ⟨rfl, ?_⟩
        intro handle opened
        dsimp only [Connection.openTarget] at opened
        split at opened
        · exact ⟨label, _, (Except.ok.inj opened).symm⟩
        · cases opened
        · cases opened
  · exact Or.inr ⟨rfl, nofun⟩

/-- What opening a connection makes of a ground. -/
def Ground.opened (ground : Ground) (opening : Connection.Opening) : Ground where
  clusters := opening.clusters
  roots := ground.roots ++ (opening.result.toOption.map rootOf).toList

/-- What a call of a cluster makes of a ground. -/
def Ground.called (ground : Ground) (cluster default : String) (call : Store.Call)
    (given : Identified.Given) : Ground :=
  let found := (Dictionary.get? cluster ground.clusters).getD []
  let keeping := (Store.Cluster.perform default call ⟨found, given⟩).2
  { ground with clusters := Dictionary.insert cluster keeping.cluster ground.clusters }

/-- The handle of a connection that was opened joins the others. -/
theorem World.ground_opened (world : World) {opening : Connection.Opening} {handle : Handle}
    (accepted : opening.result = .ok handle) :
    ({ world with clusters := opening.clusters }.addHandle handle).2.ground =
      world.ground.opened opening := by
  rw [Ground.opened, accepted]
  simp [addHandle, ground, Except.toOption]

/-! ## Machines -/

namespace Machine

variable (machine : Machine) (label : String)

theorem ground_giveBack {next : Machine} {handle : Nat}
    (returned : machine.giveBack handle = some next) :
    next.world.ground = machine.world.ground := by
  rcases Option.map_eq_some_iff.mp returned with ⟨world, gives, same⟩
  have kept := machine.world.ground_giveBack? gives
  dsimp only at same
  split at same <;>
    rw [← same] <;>
    exact kept

@[simp]
theorem ground_finishLease (session : Option String) (handle : Nat) (answer : Answer) :
    (machine.finishLease label session handle answer).world.ground = machine.world.ground := by
  unfold finishLease
  split
  · rfl
  · rename_i returned gives
    have kept := machine.ground_giveBack gives
    split
    · exact (returned.world.ground_refreshFor _ handle).trans kept
    · exact kept

@[simp]
theorem ground_conclude (handle : Nat) (answer : Answer) :
    (machine.conclude label handle answer).world.ground = machine.world.ground := by
  unfold conclude
  split <;> rfl

theorem ground_progress (handle : Nat) (after : AfterClose) (start : World.CloseStart) :
    (machine.progress label handle after start).machine.world.ground = start.world.ground := by
  cases start <;> rfl

theorem ground_startClose (handle : Nat) (after : AfterClose) :
    (machine.startClose label handle after).machine.world.ground = machine.world.ground :=
  (machine.ground_progress label handle after _).trans (machine.world.ground_beginClose handle)

theorem ground_sweep (purpose : Sweep) (sessions : List String) (closed : Nat)
    (machine : Machine) :
    (sweep label purpose closed machine sessions).world.ground = machine.world.ground := by
  induction sessions generalizing closed machine with
  | nil =>
      rfl
  | cons session rest ih =>
      rw [sweep]
      split
      · exact ih closed machine
      · rename_i handle world taken
        have begun := (machine.within world).ground_startClose label handle
          (.sweep purpose closed rest)
        have kept : (machine.within world).world.ground = machine.world.ground :=
          machine.world.ground_take? taken
        rw [kept] at begun
        split <;> rename_i started <;> rw [started] at begun
        · exact (ih _ _).trans begun
        · exact begun

theorem ground_sweepAll (purpose : Sweep) :
    (machine.sweepAll label purpose).world.ground = machine.world.ground :=
  ground_sweep label purpose _ 0 machine

theorem ground_scan (limit : Double) (sessions evicted : List String) (machine : Machine) :
    (scan label limit evicted machine sessions).world.ground = machine.world.ground := by
  induction sessions generalizing evicted machine with
  | nil =>
      rfl
  | cons session rest ih =>
      rw [scan]
      split
      · split
        · exact ih evicted machine
        · rename_i handle world taken
          have begun := (machine.within world).ground_startClose label handle
            (.scan limit (evicted ++ [session]) rest)
          have kept : (machine.within world).world.ground = machine.world.ground :=
            machine.world.ground_take? taken
          rw [kept] at begun
          dsimp only
          split <;> rename_i started <;> rw [started] at begun
          · split
            · exact begun
            · exact (ih _ _).trans begun
          · exact begun
      · exact ih evicted machine

@[simp]
theorem ground_afterClose (handle : Nat) (first : Bool) (after : AfterClose) :
    (machine.afterClose label handle first after).world.ground = machine.world.ground := by
  cases after with
  | direct =>
      exact machine.ground_conclude label handle _
  | answer value =>
      exact machine.ground_conclude label handle _
  | sweep purpose closed rest =>
      exact ground_sweep label purpose rest _ machine
  | scan limit evicted rest =>
      unfold afterClose
      dsimp only
      split
      · rfl
      · exact ground_scan label limit rest evicted machine

theorem ground_proceed (handle : Nat) (after : AfterClose) (progress : Progress) :
    (proceed label handle after progress).world.ground = progress.machine.world.ground := by
  cases progress with
  | done first machine =>
      exact machine.ground_afterClose label handle first after
  | suspended machine =>
      rfl

@[simp]
theorem ground_close (handle : Nat) (after : AfterClose) :
    (machine.close label handle after).world.ground = machine.world.ground :=
  (ground_proceed label handle after _).trans (machine.ground_startClose label handle after)

@[simp]
theorem ground_closeDrained (handle : Nat) (after : AfterClose) :
    (machine.closeDrained label handle after).world.ground = machine.world.ground :=
  (ground_proceed label handle after _).trans
    ((machine.ground_progress label handle after _).trans
      (machine.world.ground_beginStore handle))

@[simp]
theorem ground_evict (session : String) (limit : Double) :
    (machine.evict label session limit).world.ground = machine.world.ground := by
  unfold evict
  split
  · split
    · rfl
    · rename_i handle world taken
      rw [ground_close]
      exact machine.world.ground_take? taken
  · rfl

@[simp]
theorem ground_put (session : String) (handle : Nat) (first replaced : Json) :
    (machine.put label session handle first replaced).world.ground = machine.world.ground := by
  have kept := machine.world.ground_put session handle
  unfold put
  split <;> rename_i registered <;> rw [registered] at kept
  · exact kept
  · rw [ground_close]
    exact kept

@[simp]
theorem ground_remove (session : String) (answer : Json) :
    (machine.remove label session answer).world.ground = machine.world.ground := by
  unfold remove
  split
  · rfl
  · rename_i handle world taken
    rw [ground_close]
    exact machine.world.ground_take? taken

@[simp]
theorem ground_completeCall (handle : Nat) (use : Use) (result : Except Store.Fault Store.Reply) :
    (machine.completeCall label handle use result).world.ground = machine.world.ground := by
  unfold completeCall
  split
  · exact machine.ground_finishLease label _ handle _
  · rfl

@[simp]
theorem ground_beginCall (handle : Nat) (call : Store.Call) (use : Use) :
    (machine.beginCall label handle call use).world.ground = machine.world.ground := by
  unfold beginCall
  split
  · rfl
  · dsimp only
    split
    · rfl
    · exact ground_completeCall _ label handle use _
  · exact machine.ground_completeCall label handle use _

theorem ground_leasing (session : String) {next : Nat → Handle → Machine → Machine}
    (keeps : ∀ number handle machine,
      (next number handle machine).world.ground = machine.world.ground) :
    (machine.leasing label session next).world.ground = machine.world.ground := by
  unfold leasing
  split
  · rfl
  · rename_i number world leased
    split
    · rw [keeps]
      exact machine.world.ground_lease leased
    · rfl

@[simp]
theorem ground_selectDatabase (session : String) (name : Json) :
    (machine.selectDatabase label session name).world.ground = machine.world.ground := by
  apply machine.ground_leasing label session
  intro number handle machine
  split
  · rw [ground_finishLease]
    exact machine.world.ground_changeHandle fun handle _ => rfl
  · exact machine.ground_finishLease label _ number _

@[simp]
theorem ground_query (session : String) (command : Json) :
    (machine.query label session command).world.ground = machine.world.ground := by
  unfold query
  split
  · rfl
  · split
    · rfl
    · apply machine.ground_leasing label session
      intro number handle machine
      split
      · exact machine.ground_beginCall label number _ _
      · exact machine.ground_finishLease label _ number _

@[simp]
theorem ground_haltReports :
    (machine.haltReports label).world.ground = machine.world.ground := by
  unfold haltReports
  split
  · rfl
  · exact machine.ground_sweepAll label .shutdown

@[simp]
theorem ground_reaperStopped (thenShutdown : Bool) :
    (machine.reaperStopped label thenShutdown).world.ground = machine.world.ground := by
  unfold reaperStopped
  split
  · exact machine.ground_haltReports label
  · rfl

@[simp]
theorem ground_haltReaper (reaper : Nat) (thenShutdown : Bool) :
    (machine.haltReaper label reaper thenShutdown).world.ground = machine.world.ground := by
  unfold haltReaper
  split
  · rfl
  · exact machine.ground_reaperStopped label thenShutdown

theorem ground_connect (session : String) (address : Json) :
    (machine.connect label session address).world.ground =
      machine.world.ground.opened (Connection.openUri machine.world.settings machine.world.server
        machine.world.clusters address) := by
  unfold connect
  dsimp only
  split
  · rename_i fault refused
    rw [Ground.opened, refused]
    simp [fail, finish, within, World.ground, Except.toOption]
  · rename_i handle accepted
    have added := machine.world.ground_opened accepted
    split
    · exact added
    · exact (ground_put _ label session _ _ _).trans added

theorem ground_resumeCall (handle : Nat) (cluster default : String) (call : Store.Call)
    (use : Use) :
    (machine.resumeCall label handle cluster default call use).world.ground =
        machine.world.ground ∨
      (machine.resumeCall label handle cluster default call use).world.ground =
        machine.world.ground.called cluster default call machine.world.given := by
  unfold resumeCall
  split
  · exact Or.inl (machine.ground_completeCall label handle use _)
  · exact Or.inr (ground_completeCall _ label handle use _)

end Machine

/-! ## Properties of the ground -/

/-- Calls of clusters and connections that are opened keep the property. -/
structure Lasting (holds : Ground → Prop) : Prop where
  called : ∀ {ground : Ground} (cluster default : String) (call : Store.Call)
    (given : Identified.Given), holds ground → holds (ground.called cluster default call given)
  opened : ∀ {ground : Ground} (settings : Settings) (server : Postgres.Server) (address : Json),
    holds ground →
      holds (ground.opened (Connection.openUri settings server ground.clusters address))

namespace Lasting

open Machine

variable {holds : Ground → Prop} (lasting : Lasting holds) {machine : Machine} {label : String}

include lasting

/-- Beginning an operation keeps the property. -/
theorem begin (before : holds machine.world.ground) (request : Request) :
    holds (machine.begin label request).world.ground := by
  have stays : ∀ {next : Machine}, next.world.ground = machine.world.ground →
      holds next.world.ground := by
    intro next same
    rw [same]
    exact before
  cases request with
  | ask question =>
      exact before
  | touch session =>
      exact stays (machine.world.ground_refresh session)
  | get session | label session =>
      rw [Machine.begin]
      split
      · rename_i number world got
        exact stays (machine.world.ground_get got)
      · exact before
  | put session handle =>
      exact stays (machine.ground_put label session handle _ _)
  | remove session =>
      exact stays (machine.ground_remove label session _)
  | evict session limit =>
      exact stays (machine.ground_evict label session limit)
  | closeAll =>
      exact stays (machine.ground_sweepAll label .counting)
  | lease session name failure =>
      exact stays (machine.ground_leasing label session fun _ _ _ => rfl)
  | borrow handle | borrowUntilEnd handle name =>
      rw [Machine.begin]
      split
      · rename_i world borrowed
        exact stays (machine.world.ground_borrow? borrowed)
      · exact before
  | giveBack handle =>
      rw [Machine.begin]
      split
      · rename_i returned gives
        have kept := machine.ground_giveBack gives
        exact stays kept
      · exact before
  | endLease name =>
      rw [Machine.begin]
      split <;> exact before
  | select handle database =>
      exact stays (machine.world.ground_changeHandle fun handle _ => rfl)
  | close handle =>
      exact stays (machine.ground_close label handle .direct)
  | makeReaper idleLimit interval =>
      rw [Machine.begin]
      split
      · rename_i world made
        exact stays (machine.world.ground_makeReaper made)
      · exact before
  | scan =>
      exact stays (ground_scan label _ _ [] machine)
  | startReaper =>
      exact before
  | stopReaper =>
      exact stays (machine.ground_haltReaper label _ false)
  | call handle call =>
      exact stays (machine.ground_beginCall label handle call .direct)
  | dispatch handle descriptor =>
      rw [Machine.begin]
      split
      · exact stays (machine.ground_beginCall label handle _ _)
      · exact before
  | closeStore handle =>
      exact stays (machine.world.ground_closeStore handle)
  | connect session address =>
      rw [Machine.begin, machine.ground_connect label session address]
      exact lasting.opened machine.world.settings machine.world.server address before
  | listDatabases session | listCollections session =>
      exact stays (machine.ground_leasing label session fun number _ machine =>
        machine.ground_beginCall label number _ (.listing session))
  | selectDatabase session name =>
      exact stays (machine.ground_selectDatabase label session name)
  | query session command =>
      exact stays (machine.ground_query label session command)
  | endSession session =>
      exact stays (machine.ground_remove label session _)
  | start =>
      exact before
  | shutdown =>
      exact stays (machine.ground_haltReaper label 0 true)

/-- A turn keeps the property, whatever is done in it. -/
theorem perform (before : holds machine.world.ground) (work : Work) :
    holds (machine.perform label work).world.ground := by
  have stays : ∀ {next : Machine}, next.world.ground = machine.world.ground →
      holds next.world.ground := by
    intro next same
    rw [same]
    exact before
  cases work with
  | begin request =>
      exact lasting.begin before request
  | opened session handle =>
      exact stays (machine.ground_put label session handle _ _)
  | call handle cluster default call use =>
      rw [Machine.perform]
      rcases machine.ground_resumeCall label handle cluster default call use with same | called
      · exact stays same
      · rw [called]
        exact lasting.called cluster default call machine.world.given before
  | called handle use result =>
      exact stays (machine.ground_completeCall label handle use result)
  | drained handle after =>
      exact stays (machine.ground_closeDrained label handle after)
  | shut handle after =>
      exact stays ((ground_afterClose _ label handle true after).trans
        (machine.world.ground_shutStore handle))
  | ended loan =>
      exact stays (machine.ground_finishLease label loan.session loan.handle _)
  | haltReaper reaper stopped thenShutdown =>
      cases stopped with
      | false =>
          exact before
      | true =>
          exact stays (machine.ground_reaperStopped label thenShutdown)
  | haltReports stopped =>
      cases stopped with
      | false =>
          exact before
      | true =>
          exact stays (machine.ground_sweepAll label .shutdown)

/-- A turn keeps the property, whichever operation takes it. -/
theorem resume (before : holds machine.world.ground) {position : Nat} {next : Machine}
    (resumed : machine.resume position = some next) : holds next.world.ground := by
  rcases Option.map_eq_some_iff.mp resumed with ⟨task, -, rfl⟩
  have picked : holds { machine with ready := machine.ready.eraseIdx position }.world.ground :=
    before
  exact lasting.perform picked task.work

end Lasting

/-! ## Moves -/

namespace Machine

/-- What can happen to a machine. -/
inductive Move (machine : Machine) : Machine → Prop where
  /-- Something is asked of the service or of one of its parts. -/
  | submit (label : String) (request : Request) : Move machine (machine.submit label request)
  /-- An operation takes its turn, whichever it is of those that are ready. -/
  | turn {position : Nat} {next : Machine} (resumed : machine.resume position = some next) :
      Move machine next
  /-- Time passes, and reapers scan when that is due. -/
  | pass (span : Time) : Move machine (machine.advance span)
  /-- An operation is given up where it waits for its turn. -/
  | abandon (position : Nat) :
      Move machine { machine with ready := machine.ready.eraseIdx position }

theorem moves_afterTurn (machine : Machine) :
    Relation.ReflTransGen Move machine machine.afterTurn := by
  unfold afterTurn
  cases resumed : machine.resume 0 with
  | none =>
      exact .refl
  | some next =>
      exact .single (.turn resumed)

end Machine

namespace Lasting

open Machine

variable {holds : Ground → Prop} (lasting : Lasting holds) {machine next : Machine}

include lasting

/-- Whatever happens keeps the property. -/
theorem move (before : holds machine.world.ground) (move : machine.Move next) :
    holds next.world.ground := by
  cases move with
  | submit label request =>
      exact before
  | turn resumed =>
      exact lasting.resume before resumed
  | pass span =>
      rw [Machine.advance, within, World.ground_advance]
      exact before
  | abandon position =>
      exact before

theorem moves (before : holds machine.world.ground)
    (moves : Relation.ReflTransGen Move machine next) : holds next.world.ground := by
  induction moves with
  | refl =>
      exact before
  | tail _ move ih =>
      exact lasting.move ih move

end Lasting

end DocumentGate.Service
