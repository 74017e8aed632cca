import DocumentGate.Proofs.Deeds

/-!
# What turns are made of

Whatever an operation does in its turn, it does by a few parts, one after the other: it answers, it
becomes ready for another turn, it borrows a handle or gives one back, it registers a handle or
takes one out, it begins to close a handle, and handles are changed in ways that concern neither
their borrowers nor their closing.  `Machine.Part` is one of them, done under a label and for the
sessions that the turn concerns.

A turn that goes on when a handle was given back closes the store of that handle first, and nothing
else closes the store of a handle that is closing.
-/

namespace DocumentGate.Service

/-! ## Sessions that work concerns -/

/-- The session may be registered, taken out or active where this is done after closing. -/
def AfterClose.Concerns (_session : String) : AfterClose → Prop
  | .direct => False
  | .answer _ => False
  | .sweep _ _ _ => True
  | .scan _ _ _ => True

/-- The session may be registered, taken out or active where this is asked. -/
def Request.Concerns (session : String) : Request → Prop
  | .touch own => own = session
  | .get own => own = session
  | .put own _ => own = session
  | .remove own => own = session
  | .evict own _ => own = session
  | .lease own _ _ => own = session
  | .connect own _ => own = session
  | .listDatabases own => own = session
  | .selectDatabase own _ => own = session
  | .listCollections own => own = session
  | .query own _ => own = session
  | .endSession own => own = session
  | .label own => own = session
  | .closeAll => True
  | .scan => True
  | .shutdown => True
  | _ => False

/-- The session may be registered, taken out or active where this is done. -/
def Work.Concerns (session : String) : Work → Prop
  | .begin request => request.Concerns session
  | .opened own _ => own = session
  | .call _ _ _ _ use => use.session? = some session
  | .called _ use _ => use.session? = some session
  | .drained _ after => after.Concerns session
  | .shut _ after => after.Concerns session
  | .ended loan => loan.session = some session
  | .haltReaper _ _ thenShutdown => thenShutdown = true
  | .haltReports _ => True

/-- A handle may be registered for the session where this is done. -/
def Work.Registers (session : String) : Work → Prop
  | .begin (.put own _) => own = session
  | .begin (.connect own _) => own = session
  | .opened own _ => own = session
  | _ => False

theorem Work.Registers.concerns {session : String} {work : Work}
    (registers : work.Registers session) : work.Concerns session := by
  unfold Registers at registers
  split at registers
  · exact registers
  · exact registers
  · exact registers
  · exact registers.elim

/-- The work goes on with what was begun, other than by closing a store that was waited for. -/
def Work.GoesOn : Work → Prop
  | .begin _ => False
  | .drained _ _ => False
  | _ => True

/-- What goes on with other work concerns no more sessions and registers nothing for others. -/
structure Work.Continues (work following : Work) : Prop where
  goesOn : following.GoesOn
  within : ∀ session, following.Concerns session → work.Concerns session
  registers : ∀ session, following.Registers session → work.Registers session

/-- Nothing happens to handles and sessions, and the settings stay. -/
structure World.Beside (world next : World) : Prop where
  settings : next.settings = world.settings
  handles : next.handles = world.handles
  sessions : next.sessions = world.sessions
  journal : next.journal = world.journal

namespace Machine

/-! ## Parts -/

/-- A part of a turn in which this work is done, under a label. -/
inductive Part (label : String) (work : Work) (machine : Machine) : Machine → Prop
  | finish (answer : Answer) : Part label work machine (machine.finish label answer)
  | later {following : Work} (continues : work.Continues following) :
      Part label work machine (machine.later label following)
  | refresh {session : String} (own : work.Concerns session) :
      Part label work machine (machine.within (machine.world.refresh session))
  | borrow {number : Nat} {world : World} (borrows : machine.world.borrow? number = some world) :
      Part label work machine (machine.within world)
  | giveBack {number : Nat} {next : Machine} (gives : machine.giveBack number = some next) :
      Part label work machine next
  | put {session : String} (number : Nat) (own : work.Registers session) :
      Part label work machine (machine.within (machine.world.put session number).2)
  | take {session : String} {cause : Departure} {number : Nat} {world : World}
      (own : work.Concerns session)
      (taken : machine.world.take? session cause = some (number, world)) :
      Part label work machine (machine.within world)
  | startClose (number : Nat) {after : AfterClose}
      (within : ∀ session, after.Concerns session → work.Concerns session) :
      Part label work machine (machine.startClose label number after).machine
  | shutStore (number : Nat) :
      Part label work machine (machine.within (machine.world.shutStore number))
  | select (number : Nat) (database : String) :
      Part label work machine
        (machine.within (machine.world.changeHandle number (·.select database)))
  | addHandle {handle : Handle} (fresh : handle.IsFresh) :
      Part label work machine (machine.within (machine.world.addHandle handle).2)
  | beside {world : World} (beside : machine.world.Beside world) :
      Part label work machine (machine.within world)
  | addLoan (name : String) {loan : Loan} (labelled : loan.label = label)
      (within : ∀ session, loan.session = some session → work.Concerns session) :
      Part label work machine (machine.addLoan name loan)
  | endLoan {name : String} {loan : Loan} (found : Dictionary.get? name machine.loans = some loan) :
      Part label work machine
        ({ machine with loans := Dictionary.erase name machine.loans }.later loan.label
          (.ended loan))

/-- Parts of one turn, one after the other. -/
abbrev Parts (label : String) (work : Work) : Machine → Machine → Prop :=
  Relation.ReflTransGen (Part label work)

/-- The machine once a turn has closed the store that it waited for, or was asked to close. -/
def opening (machine : Machine) (label : String) : Work → Machine
  | .drained number after =>
    (machine.progress label number after (machine.world.beginStore number)).machine
  | .begin (.closeStore number) => machine.within (machine.world.closeStore number)
  | _ => machine

variable {machine next : Machine} {label : String} {work : Work} {number : Nat}

theorem world_progress (machine : Machine) (label : String) (number : Nat) (after : AfterClose)
    (start : World.CloseStart) :
    (machine.progress label number after start).machine.world = start.world := by
  cases start <;> rfl

theorem world_startClose (machine : Machine) (label : String) (number : Nat) (after : AfterClose) :
    (machine.startClose label number after).machine.world =
      (machine.world.beginClose number).world :=
  machine.world_progress label number after _

namespace Parts

theorem one (part : Part label work machine next) : Parts label work machine next :=
  .single part

theorem finish (machine : Machine) (answer : Answer) :
    Parts label work machine (machine.finish label answer) :=
  one (.finish answer)

theorem later (machine : Machine) {following : Work}
    (within : ∀ session, following.Concerns session → work.Concerns session)
    (goesOn : following.GoesOn := by exact trivial)
    (registers : ∀ session, following.Registers session → work.Registers session := by
      exact nofun) :
    Parts label work machine (machine.later label following) :=
  one (.later ⟨goesOn, within, registers⟩)

/-- What is done in a world that differs in nothing that matters is done in this one, too. -/
theorem after {world : World} (further : Parts label work (machine.within world) next)
    (beside : machine.world.Beside world) : Parts label work machine next :=
  (one (.beside beside)).trans further

theorem refreshFor {session : String} (own : work.Concerns session) (machine : Machine)
    (number : Nat) :
    Parts label work machine (machine.within (machine.world.refreshFor session number)) := by
  unfold World.refreshFor
  split
  · split
    · exact one (.refresh own)
    · exact .refl
  · exact .refl

theorem finishLease {session : Option String}
    (own : ∀ name, session = some name → work.Concerns name) (machine : Machine) (number : Nat)
    (answer : Answer) :
    Parts label work machine (machine.finishLease label session number answer) := by
  unfold Machine.finishLease
  split
  · exact finish _ _
  · rename_i returned gives
    refine (one (.giveBack gives)).trans ?_
    split
    · rename_i name
      exact (refreshFor (own name rfl) returned number).trans (finish _ _)
    · exact finish _ _

/-! ## Closing -/

theorem conclude (machine : Machine) (number : Nat) (answer : Answer) :
    Parts label work machine (machine.conclude label number answer) := by
  unfold Machine.conclude
  split <;> exact finish _ _

theorem sweep (all : ∀ session, work.Concerns session) (purpose : Sweep) (closed : Nat)
    (machine : Machine) (sessions : List String) :
    Parts label work machine (Machine.sweep label purpose closed machine sessions) := by
  induction sessions generalizing machine closed with
  | nil =>
      exact finish _ _
  | cons session rest ih =>
      rw [Machine.sweep]
      split
      · exact ih closed machine
      · rename_i number world taken
        have closing : Parts label work machine
            ((machine.within world).startClose label number (.sweep purpose closed rest)).machine :=
          (one (.take (all session) taken)).tail (.startClose number fun session _ => all session)
        split <;>
          rename_i started <;>
          rw [started] at closing
        · exact closing.trans (ih _ _)
        · exact closing

theorem scan (all : ∀ session, work.Concerns session) (limit : Double) (evicted : List String)
    (machine : Machine) (sessions : List String) :
    Parts label work machine (Machine.scan label limit evicted machine sessions) := by
  induction sessions generalizing machine evicted with
  | nil =>
      exact finish _ _
  | cons session rest ih =>
      rw [Machine.scan]
      split
      · split
        · exact ih evicted machine
        · rename_i number world taken
          have closing : Parts label work machine
              ((machine.within world).startClose label number
                (.scan limit (evicted ++ [session]) rest)).machine :=
            (one (.take (all session) taken)).tail
              (.startClose number fun session _ => all session)
          dsimp only
          split <;>
            rename_i started <;>
            rw [started] at closing
          · split
            · exact closing.trans (finish _ _)
            · exact closing.trans (ih _ _)
          · exact closing
      · exact ih evicted machine

theorem afterClose {after : AfterClose}
    (within : ∀ session, after.Concerns session → work.Concerns session) (machine : Machine)
    (number : Nat) (first : Bool) :
    Parts label work machine (machine.afterClose label number first after) := by
  cases after with
  | direct =>
      exact conclude _ _ _
  | answer value =>
      exact conclude _ _ _
  | sweep purpose closed rest =>
      exact sweep (fun session => within session trivial) _ _ _ _
  | scan limit evicted rest =>
      rw [Machine.afterClose]
      split
      · exact finish _ _
      · exact scan (fun session => within session trivial) _ _ _ _

theorem proceed {after : AfterClose}
    (within : ∀ session, after.Concerns session → work.Concerns session) (number : Nat)
    {progress : Progress} (parts : Parts label work machine progress.machine) :
    Parts label work machine (Machine.proceed label number after progress) := by
  cases progress with
  | done first next =>
      exact parts.trans (afterClose within next number first)
  | suspended next =>
      exact parts

theorem close {after : AfterClose}
    (within : ∀ session, after.Concerns session → work.Concerns session) (machine : Machine)
    (number : Nat) : Parts label work machine (machine.close label number after) :=
  proceed within number (one (.startClose number within))

/-! ## Leaving and entering the registry -/

theorem evict {session : String} (own : work.Concerns session) (machine : Machine)
    (limit : Double) :
    Parts label work machine (machine.evict label session limit) := by
  unfold Machine.evict
  split
  · split
    · exact finish _ _
    · rename_i number world taken
      exact (one (.take own taken)).trans (close (fun _ => False.elim) _ number)
  · exact finish _ _

theorem remove {session : String} (own : work.Concerns session) (machine : Machine)
    (answer : Json) :
    Parts label work machine (machine.remove label session answer) := by
  unfold Machine.remove
  split
  · exact finish _ _
  · rename_i number world taken
    exact (one (.take own taken)).trans (close (fun _ => False.elim) _ number)

theorem put {session : String} (own : work.Registers session) (machine : Machine) (number : Nat)
    (first replaced : Json) :
    Parts label work machine (machine.put label session number first replaced) := by
  have entered : Part label work machine
      (machine.within (machine.world.put session number).2) := .put number own
  unfold Machine.put
  split <;>
    rename_i registered <;>
    rw [registered] at entered
  · exact (one entered).trans (finish _ _)
  · exact (one entered).trans (close (fun _ => False.elim) _ _)

/-! ## Calls -/

theorem completeCall {use : Use}
    (own : ∀ session, use.session? = some session → work.Concerns session) (machine : Machine)
    (number : Nat) (result : Except Store.Fault Store.Reply) :
    Parts label work machine (machine.completeCall label number use result) := by
  unfold Machine.completeCall
  split
  · rename_i session known
    refine finishLease ?_ machine number _
    rintro name ⟨⟩
    exact own session known
  · exact finish _ _

theorem beginCall {use : Use} (own : ∀ session, use.session? = some session → work.Concerns session)
    (machine : Machine) (number : Nat) (call : Store.Call) :
    Parts label work machine (machine.beginCall label number call use) := by
  unfold Machine.beginCall
  split
  · exact later machine own
  · dsimp only
    split
    · exact after (later _ own) ⟨rfl, rfl, rfl, rfl⟩
    · exact after (completeCall own _ number _) ⟨rfl, rfl, rfl, rfl⟩
  · exact completeCall own machine number _

theorem resumeCall {use : Use}
    (own : ∀ session, use.session? = some session → work.Concerns session) (machine : Machine)
    (number : Nat) (cluster default : String) (call : Store.Call) :
    Parts label work machine (machine.resumeCall label number cluster default call use) := by
  unfold Machine.resumeCall
  split
  · exact completeCall own machine number _
  · exact after (completeCall own _ number _) ⟨rfl, rfl, rfl, rfl⟩

theorem leasing {session : String} (own : work.Concerns session) (machine : Machine)
    {further : Nat → Handle → Machine → Machine}
    (goesOn : ∀ number handle leased,
      Parts label work leased (further number handle leased)) :
    Parts label work machine (machine.leasing label session further) := by
  unfold Machine.leasing
  split
  · exact finish _ _
  · rename_i number world leased
    split
    · rename_i handle found
      rcases World.lease_eq_ok leased with ⟨-, borrowed, borrows, rfl⟩
      exact ((one (.borrow borrows)).tail (.refresh own)).trans (goesOn number handle _)
    · exact finish _ _

theorem selectDatabase {session : String} (own : work.Concerns session) (machine : Machine)
    (name : Json) :
    Parts label work machine (machine.selectDatabase label session name) := by
  have within : ∀ name, some session = some name → work.Concerns name := by
    rintro _ ⟨⟩
    exact own
  refine leasing own machine fun number _ leased => ?_
  dsimp only
  split
  · exact (one (.select number _)).trans (finishLease within _ number _)
  · exact finishLease within leased number _

theorem query {session : String} (own : work.Concerns session) (machine : Machine)
    (command : Json) :
    Parts label work machine (machine.query label session command) := by
  have within : ∀ name, some session = some name → work.Concerns name := by
    rintro _ ⟨⟩
    exact own
  unfold Machine.query
  split
  · exact finish _ _
  · split
    · exact finish _ _
    · refine leasing own machine fun number _ leased => ?_
      split
      · refine beginCall ?_ leased number _
        exact within
      · exact finishLease within leased number _

theorem connect {session : String} (own : work.Registers session) (machine : Machine)
    (address : Json) : Parts label work machine (machine.connect label session address) := by
  unfold Machine.connect
  dsimp only
  split
  · exact after (finish _ _) ⟨rfl, rfl, rfl, rfl⟩
  · rename_i handle result
    have within : ∀ name, session = name → work.Registers name := by
      rintro _ rfl
      exact own
    have opened : work.Continues (.opened session machine.world.handles.length) :=
      ⟨trivial, fun name same => (within name same).concerns, within⟩
    have added : ∀ world : World, Part label work (machine.within world)
        (machine.within (world.addHandle handle).2) := fun world =>
      .addHandle (Connection.isFresh_of_openUri result)
    split
    · exact after ((one (added _)).tail (.later opened)) ⟨rfl, rfl, rfl, rfl⟩
    · exact after ((one (added _)).trans (put own _ _ _ _)) ⟨rfl, rfl, rfl, rfl⟩

/-! ## What runs in the background -/

theorem haltReports (all : ∀ session, work.Concerns session) (machine : Machine) :
    Parts label work machine (machine.haltReports label) := by
  unfold Machine.haltReports
  split
  · exact later machine fun session _ => all session
  · exact sweep all _ _ _ _

theorem reaperStopped {thenShutdown : Bool}
    (all : thenShutdown = true → ∀ session, work.Concerns session) (machine : Machine) :
    Parts label work machine (machine.reaperStopped label thenShutdown) := by
  unfold Machine.reaperStopped
  split
  · rename_i shutdown
    exact haltReports (all shutdown) machine
  · exact finish _ _

theorem haltReaper {thenShutdown : Bool}
    (all : thenShutdown = true → ∀ session, work.Concerns session) (machine : Machine)
    (reaper : Nat) : Parts label work machine (machine.haltReaper label reaper thenShutdown) := by
  unfold Machine.haltReaper
  split
  · exact later machine fun session shutdown => all shutdown session
  · exact reaperStopped all machine

/-! ## Whole turns -/

theorem afterGet {session : String} (own : work.Concerns session) {world : World}
    (got : machine.world.get session = .ok (number, world)) :
    Parts label work machine (machine.within world) := by
  rw [World.get_eq_ok got]
  exact one (.refresh own)

/-- What is begun is made of parts, once a store was closed that was asked to be. -/
theorem begin (machine : Machine) (request : Request) :
    Parts label (.begin request) (machine.opening label (.begin request))
      (machine.begin label request) := by
  cases request with
  | ask question =>
      exact finish _ _
  | touch session =>
      exact (one (.refresh (by exact rfl))).trans (finish _ _)
  | get session | label session =>
      rw [Machine.begin]
      split
      · rename_i got
        exact (afterGet (by exact rfl) got).trans (finish _ _)
      · exact finish _ _
  | put session handle =>
      exact put (by exact rfl) _ _ _ _
  | remove session =>
      exact remove (by exact rfl) _ _
  | evict session limit =>
      exact evict (by exact rfl) _ _
  | closeAll =>
      exact sweep (fun _ => by exact trivial) _ _ _ _
  | lease session name failure =>
      rw [Machine.begin]
      refine leasing (by exact rfl) machine fun number _ leased => one (.addLoan name rfl ?_)
      rintro _ ⟨⟩
      rfl
  | borrow handle =>
      rw [Machine.begin]
      split
      · rename_i borrowed
        exact (one (.borrow borrowed)).trans (finish _ _)
      · exact finish _ _
  | giveBack handle =>
      rw [Machine.begin]
      split
      · rename_i gives
        exact (one (.giveBack gives)).trans (finish _ _)
      · exact finish _ _
  | borrowUntilEnd handle name =>
      rw [Machine.begin]
      split
      · rename_i borrowed
        exact (one (.borrow borrowed)).tail (.addLoan name rfl (by rintro _ ⟨⟩))
      · exact finish _ _
  | endLease name =>
      rw [Machine.begin]
      split
      · rename_i found
        exact (one (.endLoan found)).trans (finish _ _)
      · exact finish _ _
  | select handle database =>
      exact (one (.select _ _)).trans (finish _ _)
  | close handle =>
      exact close (by exact fun _ => False.elim) _ _
  | makeReaper idleLimit interval =>
      rw [Machine.begin]
      split
      · rename_i world made
        have same : world = { machine.world with reapers := world.reapers } :=
          World.Tends.eq (.make made)
        exact after (finish _ _) (by rw [same]; exact ⟨rfl, rfl, rfl, rfl⟩)
      · exact finish _ _
  | scan =>
      exact scan (fun _ => by exact trivial) _ _ _ _
  | startReaper =>
      exact after (finish _ _) ⟨rfl, rfl, rfl, rfl⟩
  | stopReaper =>
      exact haltReaper (by rintro ⟨⟩) _ _
  | call handle call =>
      exact beginCall (by rintro _ ⟨⟩) _ _ _
  | dispatch handle descriptor =>
      rw [Machine.begin]
      split
      · exact beginCall (by rintro _ ⟨⟩) _ _ _
      · exact finish _ _
  | closeStore handle =>
      exact finish _ _
  | connect session address =>
      exact connect (by exact rfl) _ _
  | listDatabases session | listCollections session =>
      refine leasing (by exact rfl) machine fun number _ leased => beginCall ?_ leased number _
      rintro _ ⟨⟩
      rfl
  | selectDatabase session name =>
      exact selectDatabase (by exact rfl) _ _
  | query session command =>
      exact query (by exact rfl) _ _
  | endSession session =>
      exact remove (by exact rfl) _ _
  | start =>
      exact after (finish _ _) ⟨rfl, rfl, rfl, rfl⟩
  | shutdown =>
      exact haltReaper (fun _ _ => by exact trivial) _ _

/-- A turn is made of parts, once the store was closed that it waited for. -/
theorem perform (machine : Machine) (label : String) (work : Work) :
    Parts label work (machine.opening label work) (machine.perform label work) := by
  cases work with
  | begin request =>
      exact begin _ _
  | opened session handle =>
      exact put (by exact rfl) _ _ _ _
  | call handle cluster default call use =>
      exact resumeCall (fun _ => id) _ _ _ _ _
  | called handle use result =>
      exact completeCall (fun _ => id) _ _ _
  | drained handle after =>
      exact proceed (fun _ => id) handle .refl
  | shut handle after =>
      exact (one (.shutStore handle)).trans (afterClose (fun _ => id) _ _ _)
  | ended loan =>
      exact finishLease (fun _ => id) _ _ _
  | haltReaper reaper stopped thenShutdown =>
      cases stopped with
      | false =>
          exact after (later _ fun _ => id) ⟨rfl, rfl, rfl, rfl⟩
      | true =>
          exact reaperStopped (by exact fun shutdown _ => shutdown) _
  | haltReports stopped =>
      cases stopped with
      | false =>
          exact after (later _ fun _ => id) ⟨rfl, rfl, rfl, rfl⟩
      | true =>
          exact sweep (fun _ => by exact trivial) _ _ _ _

end Parts

end Machine
end DocumentGate.Service
