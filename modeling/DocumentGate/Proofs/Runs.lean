import DocumentGate.Proofs.Turns
import Mathlib.Data.List.Perm.Subperm
import Mathlib.Logic.Relation

/-!
# Runs

Operations begin, take turns and time passes, in any order: `Machine.Step` is one step of
that and `Machine.Reachable` says where steps lead from a machine in which nothing has
happened.  Handles enter as fresh ones, each with the operation that registers it, and
nobody deals with handles and stores but through sessions and reapers.

Every machine that can be reached is sound.
-/

namespace DocumentGate

/-! ## Leases under names -/

namespace Dictionary

variable {α : Type}

theorem cons_erase_subperm {name : String} {value : α} {entries : Dictionary α}
    (found : get? name entries = some value) :
    List.Subperm ((name, value) :: erase name entries) entries := by
  induction entries with
  | nil =>
      cases found
  | cons first rest ih =>
      rcases first with ⟨other, old⟩
      by_cases same : other = name
      · obtain rfl : old = value := by
          simpa [get?, same] using found
        rw [same]
        have erased : erase name ((name, old) :: rest) = erase name rest := by
          simp [erase]
        rw [erased]
        exact (List.filter_sublist.cons_cons _).subperm
      · have kept : erase name ((other, old) :: rest) = (other, old) :: erase name rest := by
          simp [erase, same]
        rw [kept]
        have further : get? name rest = some value := by
          simpa [get?, same] using found
        refine (List.Perm.swap _ _ _).subperm.trans ?_
        exact (List.subperm_cons _).mpr (ih further)

theorem insert_subperm_cons (name : String) (value : α) (entries : Dictionary α) :
    List.Subperm (insert name value entries) ((name, value) :: entries) := by
  induction entries with
  | nil =>
      exact List.Subperm.refl _
  | cons first rest ih =>
      rcases first with ⟨other, old⟩
      by_cases same : other = name
      · subst same
        simp only [insert, if_true]
        exact ((List.sublist_cons_self _ _).cons_cons _).subperm
      · simp only [insert, same, if_false]
        refine ((List.subperm_cons _).mpr ih).trans ?_
        exact (List.Perm.swap _ _ _).subperm

end Dictionary

namespace Service

namespace Machine.Sound

variable {machine : Machine} {number : Nat} {label : String}

/-- Leases may be exchanged for others of the same handles, and some may be lost. -/
theorem withLoans {held others : List Nat} (sound : machine.Sound (held.map .lease))
    {loans : Dictionary Loan}
    (fewer : List.Subperm (others ++ loans.map (·.2.handle))
      (held ++ machine.loans.map (·.2.handle))) :
    { machine with loans := loans }.Sound (others.map .lease) := by
  refine ⟨sound.orderly.relax (fun burden => ?_) fun burden needed => ?_, sound.proper,
    sound.served⟩
  · rcases fewer with ⟨same, perm, sublist⟩
    have counted := ((sublist.map Burden.lease).count_le burden)
    rw [(perm.map Burden.lease).count_eq burden] at counted
    simp only [List.map_append, List.map_map, List.count_append, Function.comp_def] at counted
    simp only [burdens, List.count_append]
    omega
  · have none : ∀ handles : List Nat, (handles.map Burden.lease).count burden = 0 := by
      intro handles
      refine List.count_eq_zero_of_not_mem fun member => ?_
      rcases List.mem_map.mp member with ⟨handle, -, rfl⟩
      cases needed
    have loanless : ∀ loans : Dictionary Loan,
        (loans.map fun loan => Burden.lease loan.2.handle).count burden = 0 := by
      intro loans
      simpa [Function.comp_def] using none (loans.map (·.2.handle))
    simp [burdens, none, loanless]

theorem addLoan (sound : machine.Sound [.lease number]) (name : String) {loan : Loan}
    (handle : loan.handle = number) : (machine.addLoan name loan).Sound [] := by
  subst handle
  have before : machine.Sound ([loan.handle].map .lease) := sound
  suffices after : (machine.addLoan name loan).Sound (([] : List Nat).map .lease) from after
  refine before.withLoans ?_
  rcases Dictionary.insert_subperm_cons name loan machine.loans with ⟨same, perm, sublist⟩
  exact ⟨_, perm.map (·.2.handle), sublist.map (·.2.handle)⟩

/-- Only the handles, the registry and the journal of a world matter. -/
theorem elsewhere {held : List Burden} {next : World} (sound : machine.Sound held)
    (handles : next.handles = machine.world.handles)
    (sessions : next.sessions = machine.world.sessions)
    (journal : next.journal = machine.world.journal) : (machine.within next).Sound held :=
  sound.within (sound.orderly.congr handles sessions journal)

theorem addHandle {world : World} (sound : (machine.within world).Sound []) {handle : Handle}
    (fresh : handle.IsFresh) :
    (machine.within (world.addHandle handle).2).Sound [.fresh (world.addHandle handle).1] :=
  ⟨World.Orderly.addHandle sound.orderly fresh, sound.proper, sound.served⟩

/-! ## Calls -/

theorem completeCall (sound : machine.Sound [.lease number]) {use : Use}
    (session : use.session?.isSome = true) {result : Except Store.Fault Store.Reply}
    (served : Store.Served result) :
    (machine.completeCall label number use result).Sound [] := by
  rcases Option.isSome_iff_exists.mp session with ⟨name, known⟩
  simp only [Machine.completeCall, known]
  exact sound.finishLease (some name) (Answer.isServed_use use served)

/-- The store of a handle that was borrowed is open, so that calling it is served. -/
theorem beginCall (sound : machine.Sound [.lease number]) (call : Store.Call) {use : Use}
    (session : use.session?.isSome = true) :
    (machine.beginCall label number call use).Sound [] := by
  rcases sound.orderly.lives number with ⟨phase, lived, fits⟩
  rcases fits.open_of_lease List.mem_cons_self with ⟨handle, found, isOpen, -⟩
  cases backend : handle.backend with
  | memory cluster default closed =>
      rw [backend] at isOpen
      obtain rfl : closed = false := isOpen
      simp only [Machine.beginCall, found, Option.map_some, backend]
      exact sound.later session
  | tables connection =>
      rw [backend] at isOpen
      simp only [Machine.beginCall, found, Option.map_some, backend]
      have served := Postgres.served_perform isOpen call
        ⟨{ broken := connection.broken }, machine.world.given⟩
      split
      · refine Sound.later ?_ ⟨session, served⟩
        exact sound.elsewhere rfl rfl rfl
      · refine Sound.completeCall ?_ session served
        exact sound.elsewhere rfl rfl rfl

theorem resumeCall (sound : machine.Sound [.lease number]) (cluster default : String)
    (call : Store.Call) {use : Use} (session : use.session?.isSome = true) :
    (machine.resumeCall label number cluster default call use).Sound [] := by
  rcases sound.orderly.lives number with ⟨phase, lived, fits⟩
  rcases fits.open_of_lease List.mem_cons_self with ⟨handle, found, isOpen, -⟩
  simp only [Machine.resumeCall, found, Option.all_some, isOpen, Bool.false_eq_true, if_false]
  refine Sound.completeCall ?_ session (Store.Cluster.served_perform default call _)
  exact sound.elsewhere rfl rfl rfl

/-- Whatever is done with the handle of a session begins with a lease. -/
theorem leasing (sound : machine.Sound []) (session : String)
    {next : Nat → Handle → Machine → Machine}
    (further : ∀ number handle, ∀ leased : Machine, leased.Sound [.lease number] →
      (next number handle leased).Sound []) :
    (machine.leasing label session next).Sound [] := by
  unfold Machine.leasing
  split
  · rename_i fault refused
    rw [World.lease_eq_error refused]
    exact sound.fail Fault.noConfusion
  · rename_i number world leased
    split
    · exact further number _ _
        (sound.within (sound.orderly.lease machine.settled_burdens leased))
    · exact sound.fail Fault.noConfusion

theorem selectDatabase (sound : machine.Sound []) (session : String) (name : Json) :
    (machine.selectDatabase label session name).Sound [] := by
  refine sound.leasing session fun number _ leased borrowed => ?_
  dsimp only
  split
  · rename_i database _
    have selected := borrowed.within (borrowed.orderly.select number database)
    exact Sound.finishLease selected (some session) (Answer.isServed_value _)
  · exact borrowed.finishLease (some session) (Answer.isServed_fault Fault.noConfusion)

theorem query (sound : machine.Sound []) (session : String) (command : Json) :
    (machine.query label session command).Sound [] := by
  unfold Machine.query
  split
  · exact sound.fail Fault.noConfusion
  · split
    · exact sound.fail Fault.noConfusion
    · refine sound.leasing session fun number _ leased borrowed => ?_
      split
      · exact borrowed.beginCall _ rfl
      · exact borrowed.finishLease (some session) (Answer.isServed_fault Fault.noConfusion)

/-! ## Connections -/

theorem connected (sound : machine.Sound [.fresh number]) (session : String) :
    (machine.connected label session number).Sound [] :=
  sound.put session _ _

/-- The handle of a connection that was opened is fresh. -/
theorem connect (sound : machine.Sound []) (session : String) (address : Json) :
    (machine.connect label session address).Sound [] := by
  unfold Machine.connect
  dsimp only
  split
  · refine Sound.fail ?_ Fault.noConfusion
    exact sound.elsewhere rfl rfl rfl
  · rename_i handle result
    have fresh := Connection.isFresh_of_openUri result
    split
    · refine Sound.later (Sound.addHandle ?_ fresh) trivial
      exact sound.elsewhere rfl rfl rfl
    · refine Sound.connected (Sound.addHandle ?_ fresh) session
      exact sound.elsewhere rfl rfl rfl

/-! ## What runs in the background -/

theorem haltReports (sound : machine.Sound []) : (machine.haltReports label).Sound [] := by
  unfold Machine.haltReports
  split
  · exact sound.later trivial
  · exact sound.sweepAll .shutdown

theorem reaperStopped (sound : machine.Sound []) (thenShutdown : Bool) :
    (machine.reaperStopped label thenShutdown).Sound [] := by
  unfold Machine.reaperStopped
  split
  · exact sound.haltReports
  · exact sound.finishWith _

theorem haltReaper (sound : machine.Sound []) (reaper : Nat) (thenShutdown : Bool) :
    (machine.haltReaper label reaper thenShutdown).Sound [] := by
  unfold Machine.haltReaper
  split
  · exact sound.later trivial
  · exact sound.reaperStopped thenShutdown

theorem makeReaper (sound : machine.Sound []) (idleLimit interval : Double) :
    (machine.begin label (.makeReaper idleLimit interval)).Sound [] := by
  rw [Machine.begin, World.makeReaper]
  by_cases idle : Number.lessOrEqual (.double idleLimit) (.integer 0) = true
  · simp only [idle, if_true]
    exact sound.fail Fault.noConfusion
  · by_cases often : Number.lessOrEqual (.double interval) (.integer 0) = true
    · simp only [idle, often, if_true]
      exact sound.fail Fault.noConfusion
    · simp only [idle, often]
      refine Sound.finishWith ?_ _
      exact sound.elsewhere rfl rfl rfl

/-! ## Whole turns -/

/-- Asking for the handle of a session makes the session active. -/
theorem afterGet (sound : machine.Sound []) {session : String} {next : World}
    (found : machine.world.get session = .ok (number, next)) : (machine.within next).Sound [] := by
  rw [World.get_eq_ok found]
  exact sound.within (sound.orderly.refresh machine.settled_burdens session)

/-- A lease that is ended is given back in a later turn. -/
theorem endLease (sound : machine.Sound []) (name : String) :
    (machine.begin label (.endLease name)).Sound [] := by
  rw [Machine.begin]
  split
  · rename_i loan found
    have before : machine.Sound (([] : List Nat).map .lease) := sound
    have ended : { machine with loans := Dictionary.erase name machine.loans }.Sound
        ([loan.handle].map .lease) := by
      refine before.withLoans ?_
      rcases Dictionary.cons_erase_subperm found with ⟨same, perm, sublist⟩
      exact ⟨_, perm.map (·.2.handle), sublist.map (·.2.handle)⟩
    have later : ({ machine with loans := Dictionary.erase name machine.loans }.later loan.label
        (.ended loan)).Sound [] := Sound.later ended trivial
    exact later.finishWith .null
  · exact sound.finishWith .null

/-- An operation that begins sees to what it was given. -/
theorem begin {request : Request} (sound : machine.Sound (Work.begin request).burden?.toList)
    (proper : (Work.begin request).IsProper) : (machine.begin label request).Sound [] := by
  cases request with
  | ask question =>
      exact Sound.finishWith sound _
  | touch session =>
      refine Sound.finishWith (Sound.within sound ?_) _
      exact World.Orderly.refresh sound.orderly machine.settled_burdens session
  | get session | label session =>
      rw [Machine.begin]
      split
      · rename_i number world found
        exact Sound.finishWith (Sound.afterGet sound found) _
      · rename_i fault refused
        exact Sound.fail sound (World.get_eq_error refused ▸ Fault.noConfusion)
  | put session handle =>
      exact Sound.put sound session _ _
  | remove session =>
      exact Sound.remove sound session .null
  | evict session limit =>
      exact Sound.evict sound session limit
  | closeAll =>
      exact Sound.sweepAll sound .counting
  | lease session name failure =>
      rw [Machine.begin]
      refine Sound.leasing sound session fun number _ leased borrowed => ?_
      exact borrowed.addLoan name rfl
  | endLease name =>
      exact Sound.endLease sound name
  | select handle database =>
      exact Sound.finishWith (Sound.within sound (World.Orderly.select sound.orderly _ _)) .null
  | makeReaper idleLimit interval =>
      exact Sound.makeReaper sound idleLimit interval
  | scan =>
      exact Sound.scanAll sound _
  | startReaper | start =>
      refine Sound.finishWith ?_ .null
      exact Sound.elsewhere sound rfl rfl rfl
  | stopReaper =>
      exact Sound.haltReaper sound _ false
  | connect session address =>
      exact Sound.connect sound session address
  | listDatabases session | listCollections session =>
      rw [Machine.begin]
      refine Sound.leasing sound session fun number _ leased borrowed => ?_
      exact borrowed.beginCall _ rfl
  | selectDatabase session name =>
      exact Sound.selectDatabase sound session name
  | query session command =>
      exact Sound.query sound session command
  | endSession session =>
      exact Sound.remove sound session _
  | shutdown =>
      exact Sound.haltReaper sound 0 true
  | _ =>
      cases proper

/-- An operation sees to what it holds in its turn. -/
theorem perform {work : Work} (sound : machine.Sound work.burden?.toList)
    (proper : work.IsProper) : (machine.perform label work).Sound [] := by
  cases work with
  | begin request =>
      exact Sound.begin sound proper
  | opened session handle =>
      exact Sound.connected sound session
  | call handle cluster default call use =>
      exact Sound.resumeCall sound cluster default call proper
  | called handle use result =>
      exact Sound.completeCall sound proper.1 proper.2
  | drained handle after =>
      exact Sound.closeDrained sound after
  | shut handle after =>
      exact Sound.afterClose (Sound.within sound sound.orderly.shutStore) handle true after
  | ended loan =>
      exact Sound.finishLease sound loan.session (Answer.isServed_loan machine.world loan)
  | haltReaper reaper stopped thenShutdown =>
      cases stopped with
      | false =>
          refine Sound.later ?_ trivial
          exact Sound.elsewhere sound rfl rfl rfl
      | true =>
          exact Sound.reaperStopped sound thenShutdown
  | haltReports stopped =>
      cases stopped with
      | false =>
          refine Sound.later ?_ trivial
          exact Sound.elsewhere sound rfl rfl rfl
      | true =>
          exact Sound.sweepAll sound .shutdown

/-- What an operation is to see to is held by it when its turn comes. -/
theorem pick (sound : machine.Sound []) {position : Nat} {task : Task}
    (ready : machine.ready[position]? = some task) :
    { machine with ready := machine.ready.eraseIdx position }.Sound task.work.burden?.toList where
  orderly := by
    rcases List.getElem?_eq_some_iff.mp ready with ⟨inside, rfl⟩
    have picked := (List.getElem_cons_eraseIdx_perm inside).filterMap (·.work.burden?)
    refine sound.orderly.perm (List.perm_iff_count.mpr fun burden => ?_)
    have counted := picked.count_eq burden
    rw [← List.singleton_append, List.filterMap_append, List.count_append] at counted
    cases carried : machine.ready[position].work.burden? with
    | none =>
        simp [carried] at counted
        simp [burdens, counted]
    | some other =>
        simp [carried, List.count_cons] at counted
        simp [burdens, ← counted, List.count_cons]
        omega
  proper other member := sound.proper other (List.mem_of_mem_eraseIdx member)
  served := sound.served

/-- Whichever operation takes its turn, the machine stays sound. -/
theorem resume {next : Machine} {position : Nat} (sound : machine.Sound [])
    (resumed : machine.resume position = some next) : next.Sound [] := by
  rcases Option.map_eq_some_iff.mp resumed with ⟨task, ready, rfl⟩
  exact (sound.pick ready).perform (sound.proper task (List.mem_of_getElem? ready))

end Machine.Sound

/-! ## Steps -/

namespace Machine

/-- One step of a run. -/
inductive Step (machine : Machine) : Machine → Prop where
  /-- An operation is ready to begin. -/
  | submit (label : String) {request : Request} (orderly : request.isOrderly = true) :
      Step machine (machine.submit label request)
  /-- A fresh handle is made, and the operation that registers it is ready to begin. -/
  | register (label session : String) {handle : Handle} (fresh : handle.IsFresh) :
      Step machine ((machine.within (machine.world.addHandle handle).2).submit label
        (.put session (machine.world.addHandle handle).1))
  /-- An operation takes its turn, whichever it is of those that are ready. -/
  | turn {position : Nat} {next : Machine} (resumed : machine.resume position = some next) :
      Step machine next
  /-- Time passes, and reapers scan when that is due. -/
  | pass (span : Time) : Step machine (machine.advance span)
  /-- A scan is given up where it waits for a store to be closed. -/
  | abandon {position : Nat} {label : String} {handle : Nat} {limit : Double}
      {evicted rest : List String}
      (waits : machine.ready[position]? = some ⟨label, .shut handle (.scan limit evicted rest)⟩) :
      Step machine { machine with ready := machine.ready.eraseIdx position }

/-- Nothing has happened in the machine. -/
structure IsInitial (machine : Machine) : Prop where
  handles : machine.world.handles = []
  sessions : machine.world.sessions = []
  journal : machine.world.journal = []
  ready : machine.ready = []
  draining : machine.draining = []
  loans : machine.loans = []
  answers : machine.answers = []

/-- Steps lead to the machine from one in which nothing has happened. -/
def Reachable (machine : Machine) : Prop :=
  ∃ start : Machine, start.IsInitial ∧ Relation.ReflTransGen Step start machine

/-- What one step leads to can be reached. -/
theorem Reachable.step {machine next : Machine} (reachable : machine.Reachable)
    (step : machine.Step next) : next.Reachable := by
  rcases reachable with ⟨start, initial, steps⟩
  exact ⟨start, initial, steps.tail step⟩

theorem Reachable.submit {machine : Machine} (reachable : machine.Reachable) (label : String)
    (request : Request) (orderly : request.isOrderly = true) :
    (machine.submit label request).Reachable :=
  reachable.step (.submit label orderly)

/-- The machine after the turn of what has been ready for longest. -/
def afterTurn (machine : Machine) : Machine :=
  (machine.resume 0).getD machine

theorem Reachable.afterTurn {machine : Machine} (reachable : machine.Reachable) :
    machine.afterTurn.Reachable := by
  unfold Machine.afterTurn
  cases resumed : machine.resume 0 with
  | none =>
      exact reachable
  | some next =>
      exact reachable.step (.turn resumed)

/-- The machine where a connection to a cluster in memory is to be registered. -/
def registering (machine : Machine) (session : String) : Machine :=
  let handle := Handle.ofBackend session (.memory session "test" false)
  (machine.within (machine.world.addHandle handle).2).submit session
    (.put session (machine.world.addHandle handle).1)

theorem Reachable.registering {machine : Machine} (reachable : machine.Reachable)
    (session : String) : (machine.registering session).Reachable :=
  reachable.step (.register session session (Handle.isFresh_ofBackend session rfl))

/-- The machine that follows the defaults, before anything happens. -/
def atFirst : Machine where
  world := .ofSettings .defaults {} []

theorem atFirst_reachable : atFirst.Reachable :=
  ⟨atFirst, ⟨rfl, rfl, rfl, rfl, rfl, rfl, rfl⟩, .refl⟩

namespace Sound

variable {machine next : Machine}

/-- A step keeps a machine sound. -/
theorem step (sound : machine.Sound []) (step : machine.Step next) : next.Sound [] := by
  cases step with
  | submit label orderly =>
      rename_i request
      have light : (Work.begin request).burden? = none := by
        cases request <;> first | rfl | cases orderly
      refine Sound.later (light ▸ sound) ?_
      cases request <;> first | exact orderly | cases orderly
  | register label session fresh =>
      exact Sound.later (Sound.addHandle sound fresh) trivial
  | turn resumed =>
      exact sound.resume resumed
  | pass span =>
      exact sound.within (sound.orderly.advance machine.settled_burdens span)
  | abandon waits =>
      have held := sound.pick waits
      exact ⟨World.Orderly.forget held.orderly rfl, held.proper, held.served⟩

end Sound

theorem IsInitial.sound {machine : Machine} (initial : machine.IsInitial) : machine.Sound [] where
  orderly := by
    have history : machine.world.history = [] := by
      simp [World.history, initial.journal]
    have burdens : machine.burdens = [] := by
      simp [Machine.burdens, initial.ready, initial.draining, initial.loans]
    have absent : ∀ handle, machine.world.handle? handle = none := by
      simp [World.handle?, initial.handles]
    rw [List.nil_append, burdens]
    have unregistered : ∀ session, machine.world.handleOf? session = none := by
      simp [World.handleOf?, World.session?, initial.sessions, Dictionary.get?]
    refine ⟨fun handle => ⟨.made, history ▸ .made, ?_, ?_, ?_, ?_⟩, ?_, ?_, ?_⟩
    · simp
    · simp [absent]
    · simp [unregistered]
    · simp [Phase.needs_iff]
    · simp [history, unregistered, tenant?]
    · simp [history]
    · simp [history]
  proper := by
    simp [initial.ready]
  served := by
    simp [initial.answers]

/-- Whatever can be reached is sound. -/
theorem Reachable.sound {machine : Machine} (reachable : machine.Reachable) :
    machine.Sound [] := by
  rcases reachable with ⟨start, initial, steps⟩
  induction steps with
  | refl =>
      exact initial.sound
  | tail _ step ih =>
      exact ih.step step

end Machine
end Service
end DocumentGate
