import DocumentGate.Proofs.Deeds

/-!
# Who gives a handle back

An operation that has borrowed a handle remembers the session that it borrowed it from, and
this is the session that the handle was registered for.  So whatever an operation does in its
turn it does by deeds, and only reapers are tended to besides.
-/

namespace DocumentGate.Service

/-! ## Leases -/

/-- A handle that is to be given back, and the session that it was borrowed from. -/
structure Lease where
  handle : Nat
  session : Option String

/-- The lease that an operation has to give back in its next turn. -/
def Work.lease? : Work → Option Lease
  | .call handle _ _ _ use => some ⟨handle, use.session?⟩
  | .called handle use _ => some ⟨handle, use.session?⟩
  | .ended loan => some ⟨loan.handle, loan.session⟩
  | _ => none

/-- The handle was registered for the session that it was borrowed from. -/
def World.IsLent (world : World) (lease : Lease) : Prop :=
  ∃ session, lease.session = some session ∧ .registered session lease.handle ∈ world.history

theorem World.IsLent.mono {world next : World} {lease : Lease} (lent : world.IsLent lease)
    (kept : world.history <+: next.history) : next.IsLent lease := by
  rcases lent with ⟨session, known, registered⟩
  exact ⟨session, known, kept.subset registered⟩

/-- The session that something is asked for which a connected session is needed. -/
def Request.asks? : Request → Option String
  | .listDatabases session => some session
  | .selectDatabase session _ => some session
  | .listCollections session => some session
  | .query session _ => some session
  | _ => none

/-- Whoever has a handle can borrow it, which is written down. -/
theorem World.Orderly.exists_lease {world : World} {burdens : List Burden} {session : String}
    {number : Nat} (orderly : world.Orderly burdens) (settled : Settled burdens)
    (has : world.handleOf? session = some number) :
    ∃ next handle, world.lease session = .ok (number, next) ∧
      next.handle? number = some handle ∧
      world.journal ++ [⟨world.now, .borrowed number⟩] <+: next.journal := by
  rcases orderly.lives number with ⟨phase, -, fits⟩
  rcases fits.eq_registered has with ⟨borrowers, rfl⟩
  rcases fits.present (Or.inl rfl) with ⟨handle, there⟩
  have welcoming : handle.closing = false := (fits.described handle there).closing
  let borrowed := (world.changeHandle number fun _ => handle.lend).note (.borrowed number)
  have borrows : world.borrow? number = some borrowed := by
    rw [World.borrow?, there]
    simp [borrowed, Handle.borrow?, welcoming]
  rcases Option.map_eq_some_iff.mp has with ⟨entry, found, rfl⟩
  have leased : world.lease session = .ok (entry.handle, borrowed.refresh session) := by
    rw [World.lease, found]
    dsimp only
    rw [borrows]
  rcases (orderly.lease settled leased).lives entry.handle with ⟨phase, -, fits⟩
  rcases fits.open_of_lease List.mem_cons_self with ⟨lent, present, -, -⟩
  exact ⟨_, lent, leased, present, (World.Passes.refresh borrowed session).journal⟩

/-- A handle that has not left the registry is the one of its session. -/
theorem World.Orderly.handleOf?_of_registered {world : World} {burdens : List Burden}
    {session : String} {number : Nat} (orderly : world.Orderly burdens)
    (registered : .registered session number ∈ world.history)
    (stayed : world.history.countP (Event.leaves number) = 0) :
    world.handleOf? session = some number := by
  rcases orderly.lives number with ⟨phase, lived, fits⟩
  have known := lived.session?_of_registered registered
  have left := lived.countP_leaves
  rw [stayed] at left
  cases phase with
  | registered other borrowers =>
      obtain rfl := Option.some.inj known
      exact (fits.home other).mpr rfl
  | made =>
      cases known
  | _ =>
      simp at left

namespace Machine

/-- A handle that is to be registered was not registered before. -/
theorem Sound.unregistered {machine : Machine} {number : Nat}
    (sound : machine.Sound [.fresh number]) (session : String) :
    .registered session number ∉ machine.world.history := by
  rcases sound.orderly.lives number with ⟨phase, lived, fits⟩
  obtain rfl := fits.eq_made List.mem_cons_self
  intro registered
  exact Option.some_ne_none session (lived.session?_of_registered registered).symm

/-- What operations have borrowed and have still to give back. -/
def leases (machine : Machine) : List Lease :=
  machine.ready.filterMap (·.work.lease?) ++
    machine.loans.map fun loan => ⟨loan.2.handle, loan.2.session⟩

/-- Deeds have led to the world of the machine, and whoever has borrowed knows from whom. -/
structure Follows (origin : World) (held : List Lease) (machine : Machine) : Prop where
  did : origin.Did machine.world
  lent : ∀ lease ∈ held ++ machine.leases, machine.world.IsLent lease

namespace Follows

variable {origin world : World} {machine : Machine} {held : List Lease} {number : Nat}
  {session label : String}

/-! ## Parts of operations -/

theorem within (follows : machine.Follows origin held) (did : machine.world.Did world) :
    (machine.within world).Follows origin held where
  did := follows.did.trans did
  lent lease member := (follows.lent lease member).mono did.passes.history

/-- Sessions and handles stay as they are. -/
theorem beside (follows : machine.Follows origin held) (clusters : Clusters)
    (given : Identified.Given) (reporting : Bool) :
    (machine.within { machine.world with
      clusters := clusters, given := given, reporting := reporting }).Follows origin held :=
  follows.within (.single (.beside clusters given reporting))

theorem drop (follows : machine.Follows origin held) : machine.Follows origin [] where
  did := follows.did
  lent lease member := follows.lent lease (List.mem_append_right held member)

theorem finish (follows : machine.Follows origin held) (answer : Answer) :
    (machine.finish label answer).Follows origin held :=
  ⟨follows.did, follows.lent⟩

theorem later {work : Work} (follows : machine.Follows origin work.lease?.toList) :
    (machine.later label work).Follows origin [] where
  did := follows.did
  lent lease member := by
    refine follows.lent lease ?_
    cases carried : work.lease? with
    | none =>
        simpa [leases, Machine.later, carried] using member
    | some other =>
        simp only [leases, Machine.later, List.filterMap_append, List.mem_append] at member ⊢
        simp only [List.filterMap_cons, carried, List.filterMap_nil] at member
        simp only [Option.toList_some]
        tauto

theorem wake (follows : machine.Follows origin held) :
    (machine.wake number).Follows origin held where
  did := follows.did
  lent lease member := by
    refine follows.lent lease ?_
    simpa [leases, Machine.wake, Work.lease?, List.filterMap_append] using member

/-- A handle is given back for the session that it was borrowed from. -/
theorem finishLease (follows : machine.Follows origin [⟨number, some session⟩])
    (answer : Answer) :
    (machine.finishLease label (some session) number answer).Follows origin [] := by
  rcases follows.lent ⟨number, some session⟩ List.mem_cons_self with ⟨_, ⟨⟩, registered⟩
  unfold Machine.finishLease
  split
  · exact follows.drop.finish _
  · rename_i returned gives
    rcases Option.map_eq_some_iff.mp gives with ⟨world, given, same⟩
    have gave : machine.world.Did (world.refreshFor session number) :=
      .single (.giveBack registered given)
    have after := follows.drop.within gave
    dsimp only at same ⊢
    split at same <;>
      obtain rfl := same
    · exact after.wake.finish answer
    · exact after.finish answer

/-! ## Closing -/

theorem conclude (follows : machine.Follows origin held) (number : Nat) (answer : Answer) :
    (machine.conclude label number answer).Follows origin held := by
  unfold Machine.conclude
  split <;> exact follows.finish _

theorem progress {start : World.CloseStart} (follows : machine.Follows origin [])
    (began : machine.world.Did start.world) (after : AfterClose) :
    (machine.progress label number after start).machine.Follows origin [] := by
  have within := follows.within began
  cases start with
  | refused world =>
      exact within
  | closed world =>
      exact within
  | closing world =>
      exact within.later
  | waiting world =>
      exact ⟨within.did, within.lent⟩

theorem startClose (follows : machine.Follows origin []) (label : String) (number : Nat)
    (after : AfterClose) : (machine.startClose label number after).machine.Follows origin [] :=
  follows.progress (World.tidied_beginClose _ _).did after

theorem sweep (follows : machine.Follows origin []) (purpose : Sweep) (closed : Nat)
    (sessions : List String) :
    (Machine.sweep label purpose closed machine sessions).Follows origin [] := by
  induction sessions generalizing machine closed with
  | nil =>
      exact follows.finish _
  | cons session rest ih =>
      rw [Machine.sweep]
      split
      · exact ih follows closed
      · rename_i handle world taken
        have closing := (follows.within (World.did_removed taken)).startClose label handle
          (.sweep purpose closed rest)
        split <;>
          rename_i started <;>
          rw [started] at closing
        · exact ih closing _
        · exact closing

theorem scan (follows : machine.Follows origin []) (limit : Double)
    (evicted sessions : List String) :
    (Machine.scan label limit evicted machine sessions).Follows origin [] := by
  induction sessions generalizing machine evicted with
  | nil =>
      exact follows.finish _
  | cons session rest ih =>
      rw [Machine.scan]
      split
      · rename_i idle
        split
        · exact ih follows evicted
        · rename_i handle world taken
          have closing := (follows.within (World.did_evicted idle taken)).startClose label handle
            (.scan limit (evicted ++ [session]) rest)
          dsimp only
          split <;>
            rename_i started <;>
            rw [started] at closing
          · split
            · exact closing.finish _
            · exact ih closing _
          · exact closing
      · exact ih follows evicted

theorem afterClose (follows : machine.Follows origin []) (number : Nat) (first : Bool)
    (after : AfterClose) : (machine.afterClose label number first after).Follows origin [] := by
  cases after with
  | direct =>
      exact follows.conclude number _
  | answer value =>
      exact follows.conclude number _
  | sweep purpose closed rest =>
      exact follows.sweep purpose _ rest
  | scan limit evicted rest =>
      rw [Machine.afterClose]
      split
      · exact follows.finish _
      · exact follows.scan limit evicted rest

theorem proceed {progress : Progress} (follows : progress.machine.Follows origin [])
    (number : Nat) (after : AfterClose) :
    (Machine.proceed label number after progress).Follows origin [] := by
  cases progress with
  | done first machine =>
      exact Follows.afterClose follows number first after
  | suspended machine =>
      exact follows

theorem close (follows : machine.Follows origin []) (number : Nat) (after : AfterClose) :
    (machine.close label number after).Follows origin [] :=
  (follows.startClose label number after).proceed number after

theorem closeDrained (follows : machine.Follows origin []) (number : Nat) (after : AfterClose) :
    (machine.closeDrained label number after).Follows origin [] :=
  (follows.progress (World.tidied_beginStore _ number).did after).proceed number after

/-! ## Leaving and entering the registry -/

theorem evict (follows : machine.Follows origin []) (session : String) (limit : Double) :
    (machine.evict label session limit).Follows origin [] := by
  unfold Machine.evict
  split
  · rename_i idle
    split
    · exact follows.finish _
    · rename_i handle world taken
      exact (follows.within (World.did_evicted idle taken)).close handle _
  · exact follows.finish _

theorem remove (follows : machine.Follows origin []) (session : String) (answer : Json) :
    (machine.remove label session answer).Follows origin [] := by
  unfold Machine.remove
  split
  · exact follows.finish _
  · rename_i handle world taken
    exact (follows.within (World.did_removed taken)).close handle _

/-- A handle that was not registered before is registered. -/
theorem put (follows : machine.Follows origin []) (session : String)
    (fresh : ∀ other, .registered other number ∉ machine.world.history)
    (first replaced : Json) :
    (machine.put label session number first replaced).Follows origin [] := by
  have registered : machine.world.Did (machine.world.put session number).2 :=
    .single (.put session fresh)
  unfold Machine.put
  split <;>
    rename_i same <;>
    rw [same] at registered
  · exact (follows.within registered).finish _
  · exact (follows.within registered).close _ _

/-! ## Calls -/

theorem addLoan (follows : machine.Follows origin [⟨number, some session⟩]) (name : String)
    (failure : Option String) :
    (machine.addLoan name ⟨label, number, some session, failure⟩).Follows origin [] where
  did := follows.did
  lent lease member := by
    refine follows.lent lease ?_
    have among : ∀ loan ∈ Dictionary.insert name ⟨label, number, some session, failure⟩
        machine.loans, loan = (name, ⟨label, number, some session, failure⟩) ∨
          loan ∈ machine.loans := by
      intro loan inserted
      have known := (Dictionary.insert_subperm_cons name _ machine.loans).subset inserted
      simpa using known
    simp only [leases, Machine.addLoan, List.nil_append, List.mem_append, List.mem_map] at member
    rcases member with ready | ⟨loan, inserted, rfl⟩
    · simp only [leases, List.mem_append]
      exact Or.inr (Or.inl ready)
    · rcases among loan inserted with rfl | old
      · exact List.mem_cons_self
      · simp only [leases, List.mem_append, List.mem_map]
        exact Or.inr (Or.inr ⟨loan, old, rfl⟩)

theorem completeCall {use : Use} (follows : machine.Follows origin [⟨number, use.session?⟩])
    (result : Except Store.Fault Store.Reply) :
    (machine.completeCall label number use result).Follows origin [] := by
  unfold Machine.completeCall
  split
  · rename_i session known
    rw [known] at follows
    exact follows.finishLease _
  · exact follows.drop.finish _

theorem beginCall {use : Use} (follows : machine.Follows origin [⟨number, use.session?⟩])
    (call : Store.Call) : (machine.beginCall label number call use).Follows origin [] := by
  unfold Machine.beginCall
  split
  · exact follows.later
  · dsimp only
    split
    · exact Follows.later (follows.beside machine.world.clusters _ machine.world.reporting)
    · exact Follows.completeCall
        (follows.beside machine.world.clusters _ machine.world.reporting) _
  · exact follows.completeCall _

theorem resumeCall {use : Use} (follows : machine.Follows origin [⟨number, use.session?⟩])
    (cluster default : String) (call : Store.Call) :
    (machine.resumeCall label number cluster default call use).Follows origin [] := by
  unfold Machine.resumeCall
  split
  · exact follows.completeCall _
  · exact Follows.completeCall (follows.beside _ _ machine.world.reporting) _

/-- A handle that is borrowed from a session was registered for it. -/
theorem leasing (follows : machine.Follows origin []) (sound : machine.Sound [])
    (session : String) {next : Nat → Handle → Machine → Machine}
    (further : ∀ number handle, ∀ leased : Machine,
      leased.Follows origin [⟨number, some session⟩] →
        (next number handle leased).Follows origin []) :
    (machine.leasing label session next).Follows origin [] := by
  unfold Machine.leasing
  split
  · exact follows.finish _
  · rename_i number world leased
    have borrowed := follows.within (.single (.lease leased))
    split
    · refine further number _ _ ⟨borrowed.did, ?_⟩
      intro lease member
      rcases List.mem_cons.mp member with rfl | other
      · have has := (World.lease_eq_ok leased).1
        have registered := registered_of_tenant ((sound.orderly.registry session).symm.trans has)
        exact ⟨session, rfl, (World.Passes.lease leased).history.subset registered⟩
      · exact borrowed.lent lease other
    · exact follows.finish _

theorem selectDatabase (follows : machine.Follows origin []) (sound : machine.Sound [])
    (session : String) (name : Json) :
    (machine.selectDatabase label session name).Follows origin [] := by
  refine follows.leasing sound session fun number _ leased borrowed => ?_
  dsimp only
  split
  · rename_i database _
    have selected : leased.world.Tidies (leased.world.changeHandle number (·.select database)) :=
      .change number fun _ => rfl
    exact (borrowed.within (.single (.tidy selected))).finishLease _
  · exact borrowed.finishLease _

theorem query (follows : machine.Follows origin []) (sound : machine.Sound [])
    (session : String) (command : Json) :
    (machine.query label session command).Follows origin [] := by
  unfold Machine.query
  split
  · exact follows.finish _
  · split
    · exact follows.finish _
    · refine follows.leasing sound session fun number _ leased borrowed => ?_
      split
      · exact Follows.beginCall borrowed _
      · exact borrowed.finishLease _

/-- The handle of a connection that was opened was not registered before. -/
theorem connect (follows : machine.Follows origin []) (sound : machine.Sound [])
    (session : String) (address : Json) :
    (machine.connect label session address).Follows origin [] := by
  have opened := follows.beside
    (Connection.openUri machine.world.settings machine.world.server machine.world.clusters
      address).clusters machine.world.given machine.world.reporting
  unfold Machine.connect
  dsimp only
  split
  · exact opened.finish _
  · rename_i handle result
    have fresh := Connection.isFresh_of_openUri result
    have added := opened.within (.single (.addHandle fresh.borrowers))
    split
    · exact Follows.later added
    · have registering : (machine.within (machine.world.addHandle handle).2).Sound
          [.fresh machine.world.handles.length] := Sound.addHandle sound fresh
      exact Follows.put added session registering.unregistered _ _

/-! ## What runs in the background -/

theorem haltReports (follows : machine.Follows origin []) :
    (machine.haltReports label).Follows origin [] := by
  unfold Machine.haltReports
  split
  · exact follows.later
  · exact follows.sweep .shutdown 0 _

theorem reaperStopped (follows : machine.Follows origin []) (thenShutdown : Bool) :
    (machine.reaperStopped label thenShutdown).Follows origin [] := by
  unfold Machine.reaperStopped
  split
  · exact follows.haltReports
  · exact follows.finish _

theorem haltReaper (follows : machine.Follows origin []) (reaper : Nat) (thenShutdown : Bool) :
    (machine.haltReaper label reaper thenShutdown).Follows origin [] := by
  unfold Machine.haltReaper
  split
  · exact follows.later
  · exact follows.reaperStopped thenShutdown

/-! ## Whole turns -/

theorem endLease (follows : machine.Follows origin []) (name : String) :
    (machine.begin label (.endLease name)).Follows origin [] := by
  rw [Machine.begin]
  split
  · rename_i loan found
    suffices ended : { machine with loans := Dictionary.erase name machine.loans }.Follows origin
        (Work.ended loan).lease?.toList from ended.later.finish _
    refine ⟨follows.did, fun lease member => follows.lent lease ?_⟩
    simp only [Work.lease?, Option.toList_some, leases, List.mem_append, List.mem_map,
      List.mem_singleton] at member ⊢
    refine Or.inr ?_
    rcases member with rfl | ready | ⟨other, kept, rfl⟩
    · have among := (Dictionary.cons_erase_subperm found).subset List.mem_cons_self
      exact Or.inr ⟨(name, loan), among, rfl⟩
    · exact Or.inl ready
    · exact Or.inr ⟨other, (List.mem_filter.mp kept).1, rfl⟩
  · exact follows.finish _

end Follows

/-- Whoever has borrowed a handle knows the session that it was registered for. -/
def Lends (machine : Machine) : Prop :=
  ∀ lease ∈ machine.leases, machine.world.IsLent lease

section Turns

variable {machine next : Machine} {label : String}

theorem Lends.follows (lends : machine.Lends) : machine.Follows machine.world [] :=
  ⟨.refl, lends⟩

/-- Reapers are tended to while nothing else is done. -/
theorem Lends.tend {middle : World} (lends : machine.Lends) (tends : machine.world.Tends middle) :
    (machine.within middle).Follows middle [] where
  did := .refl
  lent lease member := by
    refine (lends lease member).mono ?_
    rw [Machine.within, tends.eq]
    exact List.prefix_refl _

/-- An operation that begins tends to reapers first, if at all. -/
theorem exists_follows_begin {request : Request}
    (sound : machine.Sound (Work.begin request).burden?.toList)
    (proper : (Work.begin request).IsProper) (lends : machine.Lends) :
    ∃ middle, machine.world.Tends middle ∧ (machine.begin label request).Follows middle [] := by
  have follows := lends.follows
  have stays : ∀ {next : Machine}, next.Follows machine.world [] →
      ∃ middle, machine.world.Tends middle ∧ next.Follows middle [] :=
    fun follows => ⟨_, .nothing, follows⟩
  cases request with
  | ask question =>
      exact stays (follows.finish _)
  | touch session =>
      exact stays ((follows.within (.single (.refresh session))).finish _)
  | get session | label session =>
      rw [Machine.begin]
      split
      · rename_i number world got
        rw [World.get_eq_ok got]
        exact stays ((follows.within (.single (.refresh session))).finish _)
      · exact stays (follows.finish _)
  | put session handle =>
      exact stays (follows.put session (Sound.unregistered sound) _ _)
  | remove session =>
      exact stays (follows.remove session .null)
  | evict session limit =>
      exact stays (follows.evict session limit)
  | closeAll =>
      exact stays (follows.sweep .counting 0 _)
  | lease session name failure =>
      rw [Machine.begin]
      refine stays (follows.leasing sound session fun number _ leased borrowed => ?_)
      exact borrowed.addLoan name failure
  | endLease name =>
      exact stays (follows.endLease name)
  | select handle database =>
      have selected :
          machine.world.Tidies (machine.world.changeHandle handle (·.select database)) :=
        .change handle fun _ => rfl
      exact stays ((follows.within (.single (.tidy selected))).finish _)
  | makeReaper idleLimit interval =>
      rw [Machine.begin]
      split
      · rename_i world made
        exact ⟨world, .make made, (lends.tend (.make made)).finish _⟩
      · exact stays (follows.finish _)
  | scan =>
      exact stays (follows.scan _ [] _)
  | startReaper =>
      have starts : machine.world.Tends (machine.world.startReaper machine.world.latestReaper) :=
        .start machine.world.latestReaper
      exact ⟨_, starts, (lends.tend starts).finish _⟩
  | stopReaper =>
      exact stays (follows.haltReaper _ false)
  | connect session address =>
      exact stays (follows.connect sound session address)
  | selectDatabase session name =>
      exact stays (follows.selectDatabase sound session name)
  | listDatabases session | listCollections session =>
      rw [Machine.begin]
      refine stays (follows.leasing sound session fun number _ leased borrowed => ?_)
      exact Follows.beginCall borrowed _
  | query session command =>
      exact stays (follows.query sound session command)
  | endSession session =>
      exact stays (follows.remove session _)
  | start =>
      have starts : machine.world.Tends (machine.world.startReaper 0) := .start 0
      exact ⟨_, starts, ((lends.tend starts).beside _ _ true).finish _⟩
  | shutdown =>
      exact stays (follows.haltReaper 0 true)
  | _ =>
      cases proper

/-- An operation tends to reapers first, if at all, in whichever turn it is. -/
theorem exists_follows_perform {work : Work} (sound : machine.Sound work.burden?.toList)
    (proper : work.IsProper) (follows : machine.Follows machine.world work.lease?.toList) :
    ∃ middle, machine.world.Tends middle ∧ (machine.perform label work).Follows middle [] := by
  have stays : ∀ {next : Machine}, next.Follows machine.world [] →
      ∃ middle, machine.world.Tends middle ∧ next.Follows middle [] :=
    fun follows => ⟨_, .nothing, follows⟩
  cases work with
  | begin request =>
      exact exists_follows_begin sound proper follows.lent
  | opened session handle =>
      exact stays (Follows.put follows session (Sound.unregistered sound) _ _)
  | call handle cluster default call use =>
      exact stays (Follows.resumeCall follows cluster default call)
  | called handle use result =>
      exact stays (Follows.completeCall follows result)
  | drained handle after =>
      exact stays (Follows.closeDrained follows handle after)
  | shut handle after =>
      have shut := Follows.within follows (World.tidied_shutStore machine.world handle).did
      exact stays (Follows.afterClose shut handle true after)
  | ended loan =>
      rcases follows.lent ⟨loan.handle, loan.session⟩ List.mem_cons_self with ⟨session, known, -⟩
      have known : loan.session = some session := known
      rw [Machine.perform, known]
      refine stays (Follows.finishLease ?_ _)
      rw [← known]
      exact follows
  | haltReaper reaper stopped thenShutdown =>
      cases stopped with
      | false =>
          have stops : machine.world.Tends (machine.world.stopReaper reaper) := .stop reaper
          exact ⟨_, stops, Follows.later (Lends.tend follows.lent stops)⟩
      | true =>
          exact stays (Follows.reaperStopped follows thenShutdown)
  | haltReports stopped =>
      cases stopped with
      | false =>
          have stopped := Follows.beside follows machine.world.clusters machine.world.given false
          exact stays (Follows.later stopped)
      | true =>
          exact stays (Follows.sweep follows .shutdown 0 _)

/-- What an operation has borrowed is held by it when its turn comes. -/
theorem Lends.pick (lends : machine.Lends) {position : Nat} {task : Task}
    (ready : machine.ready[position]? = some task) :
    { machine with ready := machine.ready.eraseIdx position }.Follows machine.world
      task.work.lease?.toList where
  did := .refl
  lent lease member := by
    refine lends lease ?_
    rcases List.mem_append.mp member with held | further
    · refine List.mem_append_left _ (List.mem_filterMap.mpr ?_)
      exact ⟨task, List.mem_of_getElem? ready, Option.mem_toList.mp held⟩
    · rcases List.mem_append.mp further with other | lent
      · rcases List.mem_filterMap.mp other with ⟨rest, among, carried⟩
        refine List.mem_append_left _ (List.mem_filterMap.mpr ?_)
        exact ⟨rest, List.mem_of_mem_eraseIdx among, carried⟩
      · exact List.mem_append_right _ lent

/-- A turn tends to reapers first, if at all, and then does its deeds. -/
theorem exists_follows_resume (sound : machine.Sound []) (lends : machine.Lends) {position : Nat}
    (resumed : machine.resume position = some next) :
    ∃ middle, machine.world.Tends middle ∧ next.Follows middle [] := by
  rcases Option.map_eq_some_iff.mp resumed with ⟨task, ready, rfl⟩
  exact exists_follows_perform (sound.pick ready)
    (sound.proper task (List.mem_of_getElem? ready)) (lends.pick ready)

end Turns

/-! ## Steps -/

section Steps

variable {machine next : Machine}

/-- What a step does to a world: deeds, after reapers were tended to, or time passes. -/
theorem Step.deeds (step : machine.Step next) (sound : machine.Sound [])
    (lends : machine.Lends) :
    (∃ middle, machine.world.Tends middle ∧ next.Follows middle []) ∨
      ∃ span, next = machine.advance span := by
  have follows := lends.follows
  cases step with
  | submit label orderly =>
      rename_i request
      exact Or.inl ⟨_, .nothing, Follows.later follows⟩
  | register label session fresh =>
      have added := follows.within (.single (.addHandle fresh.borrowers))
      exact Or.inl ⟨_, .nothing, Follows.later added⟩
  | turn resumed =>
      exact Or.inl (exists_follows_resume sound lends resumed)
  | pass span =>
      exact Or.inr ⟨span, rfl⟩
  | abandon waits =>
      exact Or.inl ⟨_, .nothing, (lends.pick waits).drop⟩

/-- A property that deeds keep lasts through a step, and so does who lends to whom. -/
theorem Step.keeps {holds : World → Prop} (step : machine.Step next) (sound : machine.Sound [])
    (lends : machine.Lends) (kept : World.Kept holds) (before : holds machine.world) :
    holds next.world ∧ next.Lends := by
  rcases step.deeds sound lends with ⟨middle, tends, follows⟩ | ⟨span, rfl⟩
  · exact ⟨kept.did (kept.tends before tends) follows.did, follows.lent⟩
  · refine ⟨kept.advance before span, fun lease member => (lends lease member).mono ?_⟩
    exact (World.kept_prefix machine.world.history).advance (List.prefix_refl _) span

theorem IsInitial.lends (initial : machine.IsInitial) : machine.Lends := by
  simp [Lends, leases, initial.ready, initial.loans]

/-- A property that deeds keep lasts through whole runs. -/
theorem steps_keep {holds : World → Prop} (steps : Relation.ReflTransGen Step machine next)
    (sound : machine.Sound []) (lends : machine.Lends) (kept : World.Kept holds)
    (before : holds machine.world) : next.Sound [] ∧ next.Lends ∧ holds next.world := by
  induction steps with
  | refl =>
      exact ⟨sound, lends, before⟩
  | tail _ step ih =>
      rcases ih with ⟨sound, lends, before⟩
      rcases step.keeps sound lends kept before with ⟨after, still⟩
      exact ⟨sound.step step, still, after⟩

/-- Whatever a sound machine comes to is sound and forgets nothing that happened. -/
theorem steps_history (steps : Relation.ReflTransGen Step machine next) (sound : machine.Sound [])
    (lends : machine.Lends) :
    next.Sound [] ∧ next.Lends ∧ machine.world.history <+: next.world.history :=
  steps_keep steps sound lends (World.kept_prefix _) (List.prefix_refl _)

theorem resume_afterTurn {task : Task} (ready : machine.ready[0]? = some task) :
    machine.resume 0 = some machine.afterTurn := by
  rw [afterTurn, resume, ready]
  rfl

/-- The turn of what has been ready for longest, if there is anything. -/
theorem steps_afterTurn (machine : Machine) :
    Relation.ReflTransGen Step machine machine.afterTurn := by
  unfold afterTurn
  cases resumed : machine.resume 0 with
  | none =>
      exact .refl
  | some next =>
      exact .single (.turn resumed)

theorem steps_registering (machine : Machine) (session : String) :
    Relation.ReflTransGen Step machine (machine.registering session) :=
  .single (.register session session (Handle.isFresh_ofBackend session rfl))

theorem steps_submit (machine : Machine) (label : String) (request : Request)
    (orderly : request.isOrderly = true) :
    Relation.ReflTransGen Step machine (machine.submit label request) :=
  .single (.submit label orderly)

end Steps
end Machine
end DocumentGate.Service
