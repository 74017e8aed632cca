import DocumentGate.Proofs.Endings
import DocumentGate.Proofs.Undertakings

/-!
# Closing every session while others go on

A sweep closes the handles of the sessions that are there when it begins, one after the other, and
waits for each of them.  Meanwhile others connect, borrow, end sessions and take their turns.

What is left when the sweep is answered are the handles that were registered since it began: it
does not come back for them.  The stores of all other handles are closed, but for those that
another operation has taken out and is about to close, and for those that a scan has given up.
-/

namespace DocumentGate.Service

/-! ## Handles of the past -/

/-- Of the handles that a history registered, only those of some sessions are still there. -/
def World.Retains (world : World) (known : List Event) (sessions : List String) : Prop :=
  ∀ session number, world.handleOf? session = some number →
    .registered session number ∈ known → session ∈ sessions

namespace World

variable {world next : World} {known : List Event} {sessions rest : List String}
  {session : String} {number : Nat}

theorem Tidied.handleOf?_eq (tidied : world.Tidied next) (session : String) :
    next.handleOf? session = world.handleOf? session := by
  induction tidied with
  | refl =>
      rfl
  | tail _ tidies ih =>
      rw [← ih]
      cases tidies with
      | change number keeps =>
          exact handleOf?_changeHandle _ number _ session
      | note closing =>
          exact handleOf?_note _ _ session

/-- Who has a handle that was registered before had it before. -/
theorem Orderly.handleOf?_of_later {burdens others : List Burden} (orderly : world.Orderly burdens)
    (later : next.Orderly others) (kept : world.history <+: next.history)
    (registered : .registered session number ∈ world.history)
    (has : next.handleOf? session = some number) : world.handleOf? session = some number := by
  rcases later.lives number with ⟨phase, lived, fits⟩
  rcases fits.eq_registered has with ⟨borrowers, rfl⟩
  have stayed : next.history.countP (Event.leaves number) = 0 := lived.countP_leaves
  refine orderly.handleOf?_of_registered registered (Nat.eq_zero_of_le_zero ?_)
  exact stayed ▸ kept.sublist.countP_le

theorem Retains.later {burdens others : List Burden} (retains : world.Retains known sessions)
    (orderly : world.Orderly burdens) (later : next.Orderly others)
    (past : known ⊆ world.history) (kept : world.history <+: next.history) :
    next.Retains known sessions := fun session number has registered =>
  retains session number
    (orderly.handleOf?_of_later later kept (past registered) has) registered

theorem Retains.tidied (retains : world.Retains known sessions) (tidied : world.Tidied next) :
    next.Retains known sessions := fun session number has registered =>
  retains session number ((tidied.handleOf?_eq session).symm.trans has) registered

/-- Every session is there at first. -/
theorem retains_names (world : World) (known : List Event) :
    world.Retains known (Dictionary.names world.sessions) := by
  intro session number has _
  rcases Option.map_eq_some_iff.mp has with ⟨entry, found, -⟩
  have among := (Dictionary.cons_erase_subperm found).subset List.mem_cons_self
  exact List.mem_map_of_mem among

/-- A session that is not there has no handle of the past. -/
theorem Retains.of_missing (retains : world.Retains known (session :: rest))
    (missing : world.handleOf? session = none) : world.Retains known rest := by
  intro asked number has registered
  rcases List.mem_cons.mp (retains asked number has registered) with rfl | further
  · exact absurd (missing.symm.trans has) (Option.some_ne_none number).symm
  · exact further

theorem Retains.take {cause : Departure} (retains : world.Retains known (session :: rest))
    (taken : world.take? session cause = some (number, next)) : next.Retains known rest := by
  rcases take?_eq_some taken with ⟨-, -, -, registry⟩
  have missing : next.handleOf? session = none := by
    rw [registry, if_pos rfl]
  refine Retains.of_missing (fun asked other has registered => ?_) missing
  rw [registry] at has
  split at has
  · cases has
  · exact retains asked other has registered

end World

/-! ## How far a sweep has come -/

/-- The sessions that a sweep has still to close when a handle was closed. -/
def Work.further? : Work → Option (List String)
  | .drained _ (.sweep _ _ rest) => some rest
  | .shut _ (.sweep _ _ rest) => some rest
  | _ => none

/-- The work is the beginning of an operation. -/
def Work.isBeginning : Work → Bool
  | .begin _ => true
  | _ => false

/-- The purpose for which every session is closed in the turn of the work. -/
def Work.sweep? (world : World) : Work → Option Sweep
  | .begin .closeAll => some .counting
  | .begin .shutdown => if world.isReaping 0 || world.reporting then none else some .shutdown
  | .haltReaper _ true true => if world.reporting then none else some .shutdown
  | .haltReports true => some .shutdown
  | _ => none

namespace Machine

variable {machine next : Machine} {label session : String} {number : Nat}

/-- A sweep waits for a handle to be closed, or it is over. -/
inductive SweepStage (label : String) (known : List Event) (given : List Answer)
    (machine : Machine) : Prop where
  /-- Nothing but the sweep is under way under its label, and what is left is what it closes. -/
  | underWay {work : Work} {rest : List String}
      (held : (machine.heldBy label).Subperm [⟨label, work⟩]) (further : work.further? = some rest)
      (retains : machine.world.Retains known rest) (unanswered : machine.answersOf label = given)
  | finished (held : machine.heldBy label = []) (retains : machine.world.Retains known [])

/-- Closing a handle is done at once, or it is the only thing that is added to what is under way. -/
theorem progress_cases (machine : Machine) (label : String) (number : Nat) (after : AfterClose)
    (start : World.CloseStart) :
    (∃ first, machine.progress label number after start =
        .done first (machine.within start.world)) ∨
      ∃ next work, machine.progress label number after start = .suspended next ∧
        (work = .drained number after ∨ work = .shut number after) ∧
        next.world = start.world ∧ next.answers = machine.answers ∧
        next.undertaken.Perm (⟨label, work⟩ :: machine.undertaken) := by
  cases start with
  | refused world =>
      exact Or.inl ⟨false, rfl⟩
  | closed world =>
      exact Or.inl ⟨true, rfl⟩
  | closing world =>
      exact Or.inr ⟨_, _, rfl, Or.inr rfl, rfl, rfl,
        (machine.within world).undertaken_later label (.shut number after)⟩
  | waiting world =>
      exact Or.inr ⟨_, _, rfl, Or.inl rfl, rfl, rfl,
        machine.undertaken_wait label number after world⟩

section Sweeping

variable {known : List Event} {given : List Answer} {purpose : Sweep} {rest : List String}

/-- When a handle was closed, the sweep is at the stage that the further sessions lead to. -/
theorem stage_proceed (closed : Nat) {start : World.CloseStart}
    (free : machine.heldBy label = []) (retains : start.world.Retains known rest)
    (unanswered : machine.answersOf label = given)
    (goes : ∀ (between : Machine) (closed : Nat), between.heldBy label = [] →
      between.world.Retains known rest → between.answersOf label = given →
        SweepStage label known given (sweep label purpose closed between rest)) :
    SweepStage label known given
      (proceed label number (.sweep purpose closed rest)
        (machine.progress label number (.sweep purpose closed rest) start)) := by
  rcases machine.progress_cases label number (.sweep purpose closed rest) start with
    ⟨first, done⟩ | ⟨next, work, suspended, waits, world, answers, added⟩
  · rw [done]
    exact goes (machine.within start.world) _ free retains unanswered
  · rw [suspended]
    have further : work.further? = some rest := by
      rcases waits with rfl | rfl <;> rfl
    have still : next.answersOf label = given := by
      rw [answersOf, answers]
      exact unanswered
    exact .underWay (heldBy_of_free added.subperm free) further (world ▸ retains) still

theorem stage_sweep (sessions : List String) (closed : Nat) (free : machine.heldBy label = [])
    (retains : machine.world.Retains known sessions)
    (unanswered : machine.answersOf label = given) :
    SweepStage label known given (sweep label purpose closed machine sessions) := by
  induction sessions generalizing machine closed with
  | nil =>
      exact .finished free retains
  | cons session rest ih =>
      rw [sweep_cons]
      cases taken : machine.world.take? session .removed with
      | none =>
          have missing : machine.world.handleOf? session = none := by
            rw [World.handleOf?, Option.map_eq_none_iff.mp taken]
            rfl
          -- whoever has left meanwhile has taken the handle along
          exact ih closed free (retains.of_missing missing) unanswered
      | some departed =>
          rcases departed with ⟨number, left⟩
          have begun := (retains.take taken).tidied (World.tidied_beginClose left number)
          exact @stage_proceed (machine.within left) label number known given purpose rest closed _
            free begun unanswered
            fun between closed free retains unanswered => ih closed free retains unanswered

/-- In the turn of a sweep the handle that it has waited for is closed. -/
theorem stage_perform {work : Work} (free : machine.heldBy label = [])
    (further : work.further? = some rest) (retains : machine.world.Retains known rest)
    (unanswered : machine.answersOf label = given) :
    SweepStage label known given (machine.perform label work) := by
  have goes : ∀ (purpose : Sweep) (between : Machine) (closed : Nat),
      between.heldBy label = [] → between.world.Retains known rest →
        between.answersOf label = given →
          SweepStage label known given (sweep label purpose closed between rest) :=
    fun purpose between closed free retains unanswered =>
      stage_sweep rest closed free retains unanswered
  unfold Work.further? at further
  split at further
  · rename_i number purpose closed others
    obtain rfl := Option.some.inj further
    have begun := retains.tidied (World.tidied_beginStore machine.world number)
    exact stage_proceed closed free begun unanswered (goes purpose)
  · rename_i number purpose closed others
    obtain rfl := Option.some.inj further
    have shut := retains.tidied (World.tidied_shutStore machine.world number)
    exact goes purpose (machine.within (machine.world.shutStore number)) _ free shut unanswered
  · cases further

end Sweeping

/-! ## Steps beside a sweep -/

/-- An operation is ready to begin under the label. -/
def begins (machine : Machine) (label : String) : Bool :=
  machine.ready.any fun task => task.label == label && task.work.isBeginning

/-- A step after which no other operation is ready to begin under the label. -/
def StepBeside (label : String) (machine next : Machine) : Prop :=
  machine.Step next ∧ next.begins label = false

theorem heldBy_pick {position : Nat} {work : Work}
    (ready : machine.ready[position]? = some ⟨label, work⟩) :
    (machine.heldBy label).Perm
      (⟨label, work⟩ ::
        heldBy { machine with ready := machine.ready.eraseIdx position } label) := by
  have picked := (undertaken_pick ready).filter fun task : Task => task.label == label
  rwa [List.filter_cons_of_pos (by simp)] at picked

/-- A sweep goes on in its own turns only. -/
theorem SweepStage.step {known : List Event} {given : List Answer}
    (stage : SweepStage label known given machine) (sound : machine.Sound [])
    (lends : machine.Lends) (past : known ⊆ machine.world.history)
    (step : StepBeside label machine next) : SweepStage label known given next := by
  -- handles of the past only leave, whoever does something
  rcases steps_history (.single step.1) sound lends with ⟨still, -, kept⟩
  have later : ∀ {rest}, machine.world.Retains known rest → next.world.Retains known rest :=
    fun retains => retains.later sound.orderly still.orderly past kept
  rcases step.1.under label with
    ⟨position, work, ready, resumed⟩ | ⟨request, beginning⟩ | ⟨fewer, same⟩
  · have picked := heldBy_pick ready
    cases stage with
    | underWay held further retains unanswered =>
        rename_i waiting rest
        -- nothing else is under way under the label, so this is the turn that was waited for
        have alone := picked.symm.subperm.trans held
        have single : work = waiting := by
          simpa using alone.subset List.mem_cons_self
        have free :
            heldBy { machine with ready := machine.ready.eraseIdx position } label = [] := by
          simpa using alone.length_le
        rcases Option.map_eq_some_iff.mp resumed with ⟨task, found, rfl⟩
        obtain rfl := Option.some.inj (ready.symm.trans found)
        exact stage_perform free (single ▸ further) retains unanswered
    | finished held retains =>
        rw [held] at picked
        exact absurd picked.length_eq (Nat.succ_ne_zero _).symm
  · have found : next.begins label = true :=
      List.any_eq_true.mpr ⟨_, beginning, by simp [Work.isBeginning]⟩
    exact absurd (found.symm.trans step.2) Bool.noConfusion
  · cases stage with
    | underWay held further retains unanswered =>
        exact .underWay (fewer.trans held) further (later retains) (same.trans unanswered)
    | finished held retains =>
        rw [held] at fewer
        exact .finished (List.subperm_nil.mp fewer) (later retains)

/-- So it does in whole runs. -/
theorem SweepStage.steps {known : List Event} {given : List Answer}
    (begun : SweepStage label known given machine) (sound : machine.Sound [])
    (lends : machine.Lends) (past : known ⊆ machine.world.history)
    (further : Relation.ReflTransGen (StepBeside label) machine next) :
    Relation.ReflTransGen Step machine next ∧ SweepStage label known given next := by
  induction further with
  | refl =>
      exact ⟨.refl, begun⟩
  | tail _ step ih =>
      rcases ih with ⟨steps, stage⟩
      rcases steps_history steps sound lends with ⟨still, lending, kept⟩
      exact ⟨steps.tail step.1,
        stage.step still lending (fun _ known => kept.subset (past known)) step⟩

/-! ## Answered sweeps -/

/-- What is left when a sweep was answered that began after a history. -/
structure Drained (start : Machine) (known : List Event) (label : String) (last : Machine) :
    Prop where
  /-- A handle that is still there was registered since the sweep began. -/
  newcomers : ∀ session number, last.world.handleOf? session = some number →
    .registered session number ∉ known
  /-- Nobody is connected where no handle was registered since then. -/
  emptied : (∀ session number, .registered session number ∈ last.world.history →
    .registered session number ∈ known) → last.world.sessions = []
  /-- Who is not there any more has a store that was closed, or somebody else sees to it. -/
  stores : ∀ session number, .registered session number ∈ last.world.history →
    last.world.handleOf? session = some number ∨ last.world.HasShut number ∨
      (∃ task ∈ last.undertaken, task.label ≠ label ∧ task.work.Closes number) ∨
      start.GivesUp number last

theorem sessions_eq_nil {world : World} (missing : ∀ session, world.handleOf? session = none) :
    world.sessions = [] := by
  cases sessions : world.sessions with
  | nil =>
      rfl
  | cons first rest =>
      have absent := missing first.1
      simp [World.handleOf?, World.session?, sessions, Dictionary.get?] at absent

/-- A sweep that is over has closed what was there when it began. -/
theorem IsInitial.drained_of_over {start : Machine} (initial : start.IsInitial)
    (steps : Relation.ReflTransGen Step start machine) (sound : machine.Sound [])
    {known : List Event} (held : machine.heldBy label = [])
    (retains : machine.world.Retains known []) : Drained start known label machine where
  newcomers session number has registered :=
    absurd (retains session number has registered) List.not_mem_nil
  emptied past := by
    refine sessions_eq_nil fun session => Option.eq_none_iff_forall_ne_some.mpr ?_
    intro number has
    have registered := registered_of_tenant ((sound.orderly.registry session).symm.trans has)
    exact absurd (retains session number has (past session number registered)) List.not_mem_nil
  stores session number registered := by
    rcases initial.store_cases steps registered with has | shut | ⟨task, among, closes⟩ | gives
    · exact Or.inl has
    · exact Or.inr (Or.inl shut)
    · refine Or.inr (Or.inr (Or.inl ⟨task, among, ?_, closes⟩))
      rintro rfl
      have own : task ∈ machine.heldBy task.label :=
        List.mem_filter.mpr ⟨among, beq_self_eq_true _⟩
      rw [held] at own
      exact absurd own List.not_mem_nil
    · exact Or.inr (Or.inr (Or.inr gives))

/-- Such a turn is the beginning of a sweep. -/
theorem perform_of_sweep? {work : Work} {purpose : Sweep}
    (sweeps : work.sweep? machine.world = some purpose) :
    machine.perform label work = machine.sweepAll label purpose := by
  unfold Work.sweep? at sweeps
  split at sweeps
  · obtain rfl := Option.some.inj sweeps
    rfl
  · split at sweeps
    · cases sweeps
    · rename_i still
      obtain rfl := Option.some.inj sweeps
      simp only [Bool.or_eq_true, not_or, Bool.not_eq_true] at still
      simp [perform, begin, haltReaper, reaperStopped, haltReports, still.1, still.2]
  · split at sweeps
    · cases sweeps
    · rename_i still
      obtain rfl := Option.some.inj sweeps
      simp [perform, reaperStopped, haltReports, still]
  · obtain rfl := Option.some.inj sweeps
    rfl
  · cases sweeps

/--
When closing every session is answered, whoever else goes on in between, only handles are still
there that were registered since it began.  The stores of all others were closed, or another
operation has taken them out and sees to them, or a scan was given up that had begun to.
-/
theorem IsInitial.drained_of_swept {start before swept last : Machine} {work : Work}
    {purpose : Sweep} {position : Nat} (initial : start.IsInitial)
    (arrived : Relation.ReflTransGen Step start before)
    (alone : before.heldBy label = [⟨label, work⟩])
    (ready : before.ready[position]? = some ⟨label, work⟩)
    (sweeps : work.sweep? before.world = some purpose)
    (resumed : before.resume position = some swept)
    (further : Relation.ReflTransGen (StepBeside label) swept last)
    (answered : last.answersOf label ≠ before.answersOf label) :
    Drained start before.world.history label last := by
  have begun : SweepStage label before.world.history (before.answersOf label) swept := by
    have picked := heldBy_pick ready
    rw [alone] at picked
    have free : heldBy { before with ready := before.ready.eraseIdx position } label = [] := by
      simpa using picked.length_eq
    have sweeping : perform { before with ready := before.ready.eraseIdx position } label work =
        sweepAll { before with ready := before.ready.eraseIdx position } label purpose :=
      perform_of_sweep? sweeps
    rw [resume, ready] at resumed
    obtain rfl := Option.some.inj resumed
    dsimp only
    rw [sweeping]
    exact stage_sweep _ 0 free (World.retains_names _ _) rfl
  rcases steps_history arrived initial.sound initial.lends with ⟨sound, lends, -⟩
  rcases steps_history (.single (.turn resumed)) sound lends with ⟨still, lending, kept⟩
  rcases begun.steps still lending kept.subset further with ⟨steps, stage⟩
  have whole : Relation.ReflTransGen Step start last :=
    (arrived.tail (.turn resumed)).trans steps
  cases stage with
  | underWay _ _ _ unanswered =>
      exact absurd unanswered answered
  | finished held retains =>
      exact initial.drained_of_over whole (Reachable.sound ⟨start, initial, whole⟩) held retains

/-! ## Sweeps that wait for a borrower -/

theorem steps_beside_afterTurn (machine : Machine)
    (quiet : machine.afterTurn.begins label = false) :
    Relation.ReflTransGen (StepBeside label) machine machine.afterTurn := by
  cases resumed : machine.resume 0 with
  | none =>
      rw [afterTurn, resumed]
      exact .refl
  | some next =>
      have same : machine.afterTurn = next := by
        rw [afterTurn, resumed]
        rfl
      rw [same] at quiet ⊢
      exact .single ⟨.turn resumed, quiet⟩

/-- Somebody has borrowed the handle of a session. -/
def lentOut : Machine :=
  ((atFirst.registering "red").afterTurn.submit "lease" (.lease "red" "open" none)).afterTurn

/-- Every session is to be closed meanwhile. -/
def beforeSweep : Machine :=
  lentOut.submit "close" .closeAll

/-- The sweep has begun, and it waits for that handle. -/
def sweeping : Machine :=
  beforeSweep.afterTurn

/-- The handle is given back, and what has waited for it goes on. -/
def givingBack (machine : Machine) : Machine :=
  (machine.submit "return" (.endLease "open")).afterTurn.afterTurn.afterTurn

theorem steps_beforeSweep : Relation.ReflTransGen Step atFirst beforeSweep :=
  (((steps_registering atFirst "red").trans (steps_afterTurn _)).trans
    ((steps_submit _ "lease" _ rfl).trans (steps_afterTurn _))).trans (steps_submit _ "close" _ rfl)

theorem ready_beforeSweep : beforeSweep.ready[0]? = some ⟨"close", .begin .closeAll⟩ := by
  have idle : lentOut.ready = [] := List.isEmpty_iff.mp (by decide +kernel)
  rw [beforeSweep, submit, later, idle]
  rfl

theorem resume_beforeSweep : beforeSweep.resume 0 = some sweeping :=
  resume_afterTurn ready_beforeSweep

theorem steps_beside_givingBack (machine : Machine) (label : String)
    (first : (machine.submit "return" (.endLease "open")).begins label = false)
    (second : (machine.submit "return" (.endLease "open")).afterTurn.begins label = false)
    (third : (machine.submit "return" (.endLease "open")).afterTurn.afterTurn.begins label = false)
    (last : machine.givingBack.begins label = false) :
    Relation.ReflTransGen (StepBeside label) machine machine.givingBack := by
  have asked : Relation.ReflTransGen (StepBeside label) machine
      (machine.submit "return" (.endLease "open")) := .single ⟨.submit "return" rfl, first⟩
  exact ((asked.trans (steps_beside_afterTurn _ second)).trans
    (steps_beside_afterTurn _ third)).trans (steps_beside_afterTurn _ last)

/-- The sweep is answered when the handle was given back, and everything is closed. -/
theorem sweeping_drained :
    (sweeping.givingBack.answersOf "close").length = 1 ∧
      sweeping.givingBack.world.history =
        [.registered "red" 0, .borrowed 0, .active "red" 0, .left "red" 0 .removed, .closing 0,
          .returned 0, .storeClosing 0] ∧
      Drained atFirst beforeSweep.world.history "close" sweeping.givingBack := by
  have answered : (sweeping.givingBack.answersOf "close").length = 1 := by decide +kernel
  have alone : beforeSweep.heldBy "close" = [⟨"close", .begin .closeAll⟩] :=
    heldBy_later_of_free (List.isEmpty_iff.mp (by decide +kernel))
  have further : Relation.ReflTransGen (StepBeside "close") sweeping sweeping.givingBack :=
    steps_beside_givingBack sweeping "close" (by decide +kernel) (by decide +kernel)
      (by decide +kernel) (by decide +kernel)
  refine ⟨answered, by decide +kernel, ?_⟩
  refine IsInitial.drained_of_swept ⟨rfl, rfl, rfl, rfl, rfl, rfl, rfl⟩ steps_beforeSweep alone
    ready_beforeSweep rfl resume_beforeSweep further fun same => ?_
  have before : (beforeSweep.answersOf "close").length = 0 := by decide +kernel
  rw [same, before] at answered
  exact Nat.zero_ne_one answered

/-- The sweep waits, and meanwhile another session comes before the handle is given back. -/
def overtaken : Machine :=
  (sweeping.registering "blue").afterTurn.givingBack

/-- Who has come while the sweep waited is still there, with a store that is open. -/
theorem overtaken_not_emptied :
    beforeSweep.resume 0 = some sweeping ∧
      Relation.ReflTransGen (StepBeside "close") sweeping overtaken ∧
      (beforeSweep.answersOf "close").length = 0 ∧ (overtaken.answersOf "close").length = 1 ∧
      overtaken.world.handleOf? "blue" = some 1 ∧
      (overtaken.world.handle? 1).map (·.backend.isClosed) = some false := by
  have came : Relation.ReflTransGen (StepBeside "close") sweeping
      (sweeping.registering "blue") := by
    refine .single ⟨?_, by decide +kernel⟩
    exact .register "blue" "blue" (Handle.isFresh_ofBackend "blue" rfl)
  have registered := came.trans (steps_beside_afterTurn _ (by decide +kernel))
  have returned := steps_beside_givingBack (sweeping.registering "blue").afterTurn "close"
    (by decide +kernel) (by decide +kernel) (by decide +kernel) (by decide +kernel)
  exact ⟨resume_beforeSweep, registered.trans returned, by decide +kernel, by decide +kernel,
    by decide +kernel, by decide +kernel⟩

end Machine
end DocumentGate.Service
