import DocumentGate.Proofs.AjarStores
import DocumentGate.Proofs.TurnParts

/-!
# What is under way

An operation that is not answered yet is under way: it is ready for its next turn, it waits for
a handle to be given back, or it has a lease.  Whatever it does in its turn it does under its own
label, so that nothing is added to what others have under way and nobody else is answered.

Who has begun to close a slow store sees to it in a turn that is ready, so that no store is left
ajar, unless a scan is given up.
-/

namespace DocumentGate.Service

/-! ## Operations that are under way -/

/-- What waits for a handle goes on when the handle was given back. -/
def Draining.task (waiting : Draining) : Task :=
  ⟨waiting.label, .drained waiting.handle waiting.after⟩

/-- What has a lease goes on when the lease was ended. -/
def Loan.task (loan : Loan) : Task :=
  ⟨loan.label, .ended loan⟩

/-- The work sees to the store of a handle that nobody has borrowed. -/
def Work.Closes (number : Nat) (work : Work) : Prop :=
  work.burden? = some (.drained number) ∨ work.burden? = some (.shut number)

/-- Closing the store of the handle was tried once, and it is closed unless that fails. -/
def World.HasShut (world : World) (number : Nat) : Prop :=
  ∃ handle, world.handle? number = some handle ∧ handle.storeClosings = 1 ∧
    (handle.manner ≠ .storeFails → handle.backend.isClosed = true)

namespace Machine

/-- What operations are going to do, as soon as they can. -/
def undertaken (machine : Machine) : List Task :=
  machine.ready ++ machine.draining.map Draining.task ++ machine.loans.map (·.2.task)

/-- What is under way under a label. -/
def heldBy (machine : Machine) (label : String) : List Task :=
  machine.undertaken.filter (·.label == label)

/-- What was answered under a label. -/
def answersOf (machine : Machine) (label : String) : List Answer :=
  (machine.answers.filter (·.1 == label)).map Prod.snd

/-- The store of the handle is ajar, and nobody sees to that. -/
structure Strands (machine : Machine) (number : Nat) : Prop where
  ajar : machine.world.IsAjar number
  unseen : ∀ task ∈ machine.ready, task.work.burden? ≠ some (.shut number)

/-- What is done under one label only. -/
structure Acts (label : String) (machine next : Machine) : Prop where
  held : ∀ other, other ≠ label → (next.heldBy other).Subperm (machine.heldBy other)
  answers : ∀ other, other ≠ label → next.answersOf other = machine.answersOf other
  strands : ∀ number, next.Strands number → machine.Strands number

variable {machine next last : Machine} {label : String} {number : Nat}

/-! ## What is added -/

theorem undertaken_later (machine : Machine) (label : String) (work : Work) :
    (machine.later label work).undertaken.Perm (⟨label, work⟩ :: machine.undertaken) := by
  simp only [undertaken, later, List.append_assoc, List.singleton_append]
  exact List.perm_middle

theorem undertaken_wait (machine : Machine) (label : String) (number : Nat) (after : AfterClose)
    (world : World) :
    (undertaken { machine with
      world := world, draining := machine.draining ++ [⟨label, number, after⟩] }).Perm
        (⟨label, .drained number after⟩ :: machine.undertaken) := by
  simp only [undertaken, List.map_append, List.map_cons, List.map_nil, List.append_assoc,
    List.singleton_append]
  rw [← List.append_assoc, ← List.append_assoc]
  exact List.perm_middle

theorem undertaken_wake (machine : Machine) (number : Nat) :
    (machine.wake number).undertaken.Perm machine.undertaken := by
  have parted := (List.filter_append_perm (fun waiting : Draining => waiting.handle == number)
    machine.draining).map Draining.task
  rw [List.map_append] at parted
  simp only [undertaken, wake, List.append_assoc]
  refine List.Perm.append_left _ ?_
  rw [← List.append_assoc]
  exact parted.append_right _

theorem undertaken_addLoan (machine : Machine) (name : String) (loan : Loan) :
    (machine.addLoan name loan).undertaken.Subperm (loan.task :: machine.undertaken) := by
  rcases Dictionary.insert_subperm_cons name loan machine.loans with ⟨same, perm, sublist⟩
  have added : ((machine.addLoan name loan).loans.map (·.2.task)).Subperm
      (loan.task :: machine.loans.map (·.2.task)) :=
    ⟨_, perm.map (·.2.task), sublist.map (·.2.task)⟩
  exact ((List.subperm_append_left _).mpr added).trans List.perm_middle.subperm

theorem undertaken_endLoan {name : String} {loan : Loan}
    (found : Dictionary.get? name machine.loans = some loan) :
    ({ machine with loans := Dictionary.erase name machine.loans }.later loan.label
      (.ended loan)).undertaken.Subperm machine.undertaken := by
  refine List.Subperm.trans (undertaken_later _ loan.label (.ended loan)).subperm ?_
  rcases Dictionary.cons_erase_subperm found with ⟨same, perm, sublist⟩
  have kept : (loan.task :: (Dictionary.erase name machine.loans).map (·.2.task)).Subperm
      (machine.loans.map (·.2.task)) :=
    ⟨_, perm.map (·.2.task), sublist.map (·.2.task)⟩
  refine List.Subperm.trans List.perm_middle.symm.subperm ?_
  exact (List.subperm_append_left _).mpr kept

/-- What nothing is added to has no more under way under any label. -/
theorem heldBy_of_subperm (fewer : next.undertaken.Subperm machine.undertaken) (label : String) :
    (next.heldBy label).Subperm (machine.heldBy label) :=
  List.Subperm.filter (fun task : Task => task.label == label) fewer

/-- What is added to one label is not added to others. -/
theorem heldBy_of_cons {task : Task}
    (added : next.undertaken.Subperm (task :: machine.undertaken)) {other : String}
    (different : other ≠ task.label) : (next.heldBy other).Subperm (machine.heldBy other) := by
  have kept := added.filter (·.label == other)
  rwa [List.filter_cons_of_neg (by simpa using Ne.symm different)] at kept

/-- What is added to a label under which nothing is under way is all that is under way there. -/
theorem heldBy_of_free {work : Work}
    (added : next.undertaken.Subperm (⟨label, work⟩ :: machine.undertaken))
    (free : machine.heldBy label = []) : (next.heldBy label).Subperm [⟨label, work⟩] := by
  have kept := added.filter (·.label == label)
  have none : machine.undertaken.filter (·.label == label) = [] := free
  rwa [List.filter_cons_of_pos (by simp), none] at kept

theorem heldBy_later_of_free {work : Work} (free : machine.heldBy label = []) :
    (machine.later label work).heldBy label = [⟨label, work⟩] := by
  have added := (machine.undertaken_later label work).filter fun task : Task => task.label == label
  have none : machine.undertaken.filter (·.label == label) = [] := free
  rw [List.filter_cons_of_pos (by simp), none] at added
  exact List.perm_singleton.mp added

theorem answersOf_finish (machine : Machine) (label : String) (answer : Answer) {other : String}
    (different : other ≠ label) :
    (machine.finish label answer).answersOf other = machine.answersOf other := by
  simp [answersOf, finish, Ne.symm different]

/-! ## Parts of operations -/

namespace Acts

theorem refl (label : String) (machine : Machine) : Acts label machine machine :=
  ⟨fun _ _ => List.Subperm.refl _, fun _ _ => rfl, fun _ => id⟩

theorem trans (first : Acts label machine next) (second : Acts label next last) :
    Acts label machine last where
  held other different := (second.held other different).trans (first.held other different)
  answers other different := (second.answers other different).trans (first.answers other different)
  strands number stranded := first.strands number (second.strands number stranded)

theorem finish (machine : Machine) (label : String) (answer : Answer) :
    Acts label machine (machine.finish label answer) where
  held _ _ := List.Subperm.refl _
  answers _ different := machine.answersOf_finish label answer different
  strands _ stranded := ⟨stranded.ajar, stranded.unseen⟩

theorem within {world : World} (secures : machine.world.Secures world) :
    Acts label machine (machine.within world) where
  held _ _ := List.Subperm.refl _
  answers _ _ := rfl
  strands number stranded := ⟨secures number stranded.ajar, stranded.unseen⟩

theorem later (machine : Machine) (label : String) (work : Work) :
    Acts label machine (machine.later label work) where
  held _ different := heldBy_of_cons (machine.undertaken_later label work).subperm different
  answers _ _ := rfl
  strands _ stranded :=
    ⟨stranded.ajar, fun task member => stranded.unseen task (List.mem_append_left _ member)⟩

theorem wake (machine : Machine) (number : Nat) : Acts label machine (machine.wake number) where
  held other _ := heldBy_of_subperm (machine.undertaken_wake number).subperm other
  answers _ _ := rfl
  strands _ stranded :=
    ⟨stranded.ajar, fun task member => stranded.unseen task (List.mem_append_left _ member)⟩

theorem giveBack (gives : machine.giveBack number = some next) : Acts label machine next := by
  rcases Option.map_eq_some_iff.mp gives with ⟨world, returned, rfl⟩
  have within : Acts label machine (machine.within world) := .within (.giveBack returned)
  dsimp only
  split
  · exact within.trans (.wake _ number)
  · exact within

/-- A store that is closed in a turn of its own is seen to by who closes it. -/
theorem progress {start : World.CloseStart} (secures : start.Secures machine.world number)
    (label : String) (after : AfterClose) :
    Acts label machine (machine.progress label number after start).machine := by
  cases start with
  | refused world =>
      exact .within secures
  | closed world =>
      exact .within secures
  | waiting world =>
      refine ⟨fun other different => ?_, fun _ _ => rfl, fun number stranded => ?_⟩
      · exact heldBy_of_cons (machine.undertaken_wait label _ after world).subperm different
      · exact ⟨secures number stranded.ajar, stranded.unseen⟩
  | closing world =>
      have later := Acts.later (machine.within world) label (.shut number after)
      refine ⟨later.held, later.answers, fun asked stranded => ?_⟩
      -- the store that is ajar now is the one that the turn just added is to shut
      rcases secures asked stranded.ajar with rfl | before
      · exact absurd rfl (stranded.unseen _ (List.mem_append_right _ List.mem_cons_self))
      · exact ⟨before, (later.strands asked stranded).unseen⟩

theorem startClose (machine : Machine) (label : String) (number : Nat) (after : AfterClose) :
    Acts label machine (machine.startClose label number after).machine :=
  .progress (World.secures_beginClose _ number) label after

theorem addLoan (machine : Machine) (name : String) (loan : Loan) :
    Acts loan.label machine (machine.addLoan name loan) where
  held _ different := heldBy_of_cons (machine.undertaken_addLoan name loan) different
  answers _ _ := rfl
  strands _ stranded := ⟨stranded.ajar, stranded.unseen⟩

/-- Who has a lease goes on with it under its own label, whoever ends the lease. -/
theorem endLoan {name : String} {loan : Loan}
    (found : Dictionary.get? name machine.loans = some loan) :
    Acts label machine ({ machine with loans := Dictionary.erase name machine.loans }.later
      loan.label (.ended loan)) where
  held other _ := heldBy_of_subperm (undertaken_endLoan found) other
  answers _ _ := rfl
  strands _ stranded :=
    ⟨stranded.ajar, fun task member => stranded.unseen task (List.mem_append_left _ member)⟩

end Acts

/-! ## Whole turns -/

variable {work : Work}

theorem Part.acts (part : Part label work machine next) : Acts label machine next := by
  cases part with
  | finish answer =>
      exact .finish _ _ answer
  | later continues =>
      exact .later _ _ _
  | refresh own =>
      exact .within (.refresh _ _)
  | borrow borrows =>
      exact .within (.borrow borrows)
  | giveBack gives =>
      exact .giveBack gives
  | put handle own =>
      exact .within (.put _ _ handle)
  | take own taken =>
      exact .within (.take taken)
  | startClose handle =>
      exact .startClose _ _ handle _
  | shutStore handle =>
      exact .within (.shutStore _ handle)
  | select handle database =>
      exact .within (.select _ handle database)
  | addHandle fresh =>
      exact .within (.addHandle _ fresh)
  | beside beside =>
      exact .within (.of_handles beside.handles)
  | addLoan name labelled =>
      exact labelled ▸ .addLoan _ name _
  | endLoan found =>
      exact .endLoan found

theorem Parts.acts (parts : Parts label work machine next) : Acts label machine next := by
  induction parts with
  | refl =>
      exact .refl label machine
  | tail _ part ih =>
      exact ih.trans part.acts

theorem Acts.opening (machine : Machine) (label : String) (work : Work) :
    Acts label machine (machine.opening label work) := by
  cases work with
  | drained handle after =>
      exact .progress (World.secures_beginStore _ handle) label after
  | begin request =>
      cases request with
      | closeStore handle =>
          exact .within (.closeStore _ handle)
      | _ =>
          exact .refl label machine
  | _ =>
      exact .refl label machine

theorem Acts.perform (machine : Machine) (label : String) (work : Work) :
    Acts label machine (machine.perform label work) :=
  (Acts.opening machine label work).trans (Parts.perform machine label work).acts

/-! ## Turns -/

theorem undertaken_pick {position : Nat} {task : Task}
    (ready : machine.ready[position]? = some task) :
    machine.undertaken.Perm
      (task :: undertaken { machine with ready := machine.ready.eraseIdx position }) := by
  rcases List.getElem?_eq_some_iff.mp ready with ⟨inside, rfl⟩
  simp only [undertaken, List.append_assoc]
  exact ((List.getElem_cons_eraseIdx_perm inside).symm.append_right _)

/-- A task that is picked leaves no store ajar, unless it was to be shut then. -/
theorem Strands.of_pick {position : Nat} {task : Task}
    (stranded : Strands { machine with ready := machine.ready.eraseIdx position } number)
    (ready : machine.ready[position]? = some task)
    (other : task.work.burden? ≠ some (.shut number)) : machine.Strands number where
  ajar := stranded.ajar
  unseen seen member := by
    rcases List.getElem?_eq_some_iff.mp ready with ⟨inside, rfl⟩
    rcases List.mem_cons.mp ((List.getElem_cons_eraseIdx_perm inside).mem_iff.mpr member) with
      rfl | among
    · exact other
    · exact stranded.unseen seen among

/-- Who is to shut a store closes it in that turn. -/
theorem Strands.of_perform {label : String} {work : Work}
    (stranded : (machine.perform label work).Strands number) :
    machine.Strands number ∧ work.burden? ≠ some (.shut number) := by
  refine ⟨(Acts.perform machine label work).strands number stranded, fun burden => ?_⟩
  cases work with
  | shut handle after =>
      obtain rfl : handle = number := Burden.shut.inj (Option.some.inj burden)
      have within (session : String) : after.Concerns session →
          (Work.shut handle after).Concerns session := id
      have shut := (Parts.afterClose within _ handle true).acts.strands handle stranded
      exact machine.world.not_isAjar_shutStore handle shut.ajar
  | begin request =>
      cases request <;> cases burden
  | _ =>
      cases burden

/-- A turn is done under the label of the operation that takes it. -/
theorem Acts.resume {position : Nat} {task : Task} (ready : machine.ready[position]? = some task)
    (resumed : machine.resume position = some next) : Acts task.label machine next := by
  rcases Option.map_eq_some_iff.mp resumed with ⟨taken, found, rfl⟩
  obtain rfl := Option.some.inj (ready.symm.trans found)
  have acts := Acts.perform { machine with ready := machine.ready.eraseIdx position } task.label
    task.work
  have picked := undertaken_pick ready
  -- the task is gone from what is ready, which matters only if it was to shut a store
  refine ⟨fun other different => ?_, acts.answers, fun number stranded => ?_⟩
  · have fewer := (List.sublist_cons_self task _).subperm.trans picked.symm.subperm
    exact (acts.held other different).trans (heldBy_of_subperm fewer other)
  · rcases stranded.of_perform with ⟨before, other⟩
    exact before.of_pick ready other

/-! ## Steps -/

/-- What a step does under a label: a turn, the beginning of an operation, or nothing. -/
theorem Step.under (step : machine.Step next) (label : String) :
    (∃ position work, machine.ready[position]? = some ⟨label, work⟩ ∧
        machine.resume position = some next) ∨
      (∃ request, ⟨label, .begin request⟩ ∈ next.ready) ∨
      ((next.heldBy label).Subperm (machine.heldBy label) ∧
        next.answersOf label = machine.answersOf label) := by
  have aside : ∀ {own}, own ≠ label → Acts own machine next →
      (next.heldBy label).Subperm (machine.heldBy label) ∧
        next.answersOf label = machine.answersOf label :=
    fun other acts => ⟨acts.held label other.symm, acts.answers label other.symm⟩
  cases step with
  | submit own orderly =>
      rename_i request
      by_cases same : own = label
      · subst same
        exact Or.inr (Or.inl ⟨request, List.mem_append_right _ List.mem_cons_self⟩)
      · exact Or.inr (Or.inr (aside same (.later machine own _)))
  | register own session fresh =>
      by_cases same : own = label
      · subst same
        exact Or.inr (Or.inl ⟨_, List.mem_append_right _ List.mem_cons_self⟩)
      · refine Or.inr (Or.inr (aside same ?_))
        exact (Acts.within (.addHandle _ fresh)).trans (.later _ own _)
  | turn resumed =>
      rcases Option.map_eq_some_iff.mp resumed with ⟨task, ready, -⟩
      by_cases same : task.label = label
      · exact Or.inl ⟨_, task.work, same ▸ ready, resumed⟩
      · exact Or.inr (Or.inr (aside same (.resume ready resumed)))
  | pass span =>
      exact Or.inr (Or.inr ⟨List.Subperm.refl _, rfl⟩)
  | abandon waits =>
      have fewer := (List.sublist_cons_self _ _).subperm.trans (undertaken_pick waits).symm.subperm
      exact Or.inr (Or.inr ⟨heldBy_of_subperm fewer label, rfl⟩)

/-- On the way to the machine a scan was given up that had begun to close the store. -/
def GivesUp (start : Machine) (number : Nat) (machine : Machine) : Prop :=
  ∃ (earlier : Machine) (position : Nat) (label : String) (limit : Double)
    (evicted rest : List String),
    Relation.ReflTransGen Step start earlier ∧
      earlier.ready[position]? = some ⟨label, .shut number (.scan limit evicted rest)⟩ ∧
      Relation.ReflTransGen Step { earlier with ready := earlier.ready.eraseIdx position } machine

/-- A step leaves no store ajar, unless it gives up a scan that sees to the store. -/
theorem Step.strands (step : machine.Step next) (stranded : next.Strands number) :
    machine.Strands number ∨ ∃ (position : Nat) (label : String) (limit : Double)
      (evicted rest : List String),
      machine.ready[position]? = some ⟨label, .shut number (.scan limit evicted rest)⟩ ∧
        next = { machine with ready := machine.ready.eraseIdx position } := by
  cases step with
  | submit label orderly =>
      exact Or.inl ((Acts.later machine label _).strands number stranded)
  | register label session fresh =>
      suffices acts : Acts label machine _ from Or.inl (acts.strands number stranded)
      exact (Acts.within (.addHandle machine.world fresh)).trans (.later _ label _)
  | turn resumed =>
      rcases Option.map_eq_some_iff.mp resumed with ⟨task, ready, -⟩
      exact Or.inl ((Acts.resume ready resumed).strands number stranded)
  | pass span =>
      exact Or.inl ⟨World.Secures.advance machine.world span number stranded.ajar, stranded.unseen⟩
  | abandon waits =>
      rename_i position label handle limit evicted rest
      by_cases same : handle = number
      · subst same
        exact Or.inr ⟨position, label, limit, evicted, rest, waits, rfl⟩
      · refine Or.inl (stranded.of_pick waits fun burden => same ?_)
        exact Burden.shut.inj (Option.some.inj burden)

theorem GivesUp.step {start : Machine} (gives : start.GivesUp number machine)
    (step : machine.Step next) : start.GivesUp number next := by
  rcases gives with ⟨earlier, position, label, limit, evicted, rest, before, waits, further⟩
  exact ⟨earlier, position, label, limit, evicted, rest, before, waits, further.tail step⟩

/-- A store is left ajar only where a scan was given up that had begun to close it. -/
theorem IsInitial.givesUp_of_strands {start : Machine} (initial : start.IsInitial)
    (steps : Relation.ReflTransGen Step start machine) (stranded : machine.Strands number) :
    start.GivesUp number machine := by
  induction steps with
  | refl =>
      rcases stranded.ajar with ⟨handle, found, -⟩
      simp [World.handle?, initial.handles] at found
  | tail earlier step ih =>
      rcases step.strands stranded with before | ⟨position, label, limit, evicted, rest, waits, rfl⟩
      · exact (ih before).step step
      · exact ⟨_, position, label, limit, evicted, rest, earlier, waits, .refl⟩

/-! ## Stores of handles that have left -/

/-- Who is about to close a store is under way. -/
theorem exists_closes {burden : Burden} (member : burden ∈ machine.burdens)
    (about : burden = .waiting number ∨ burden = .drained number) :
    ∃ task ∈ machine.undertaken, task.work.Closes number := by
  simp only [burdens, List.mem_append, List.mem_filterMap, List.mem_map] at member
  simp only [undertaken, List.mem_append, List.mem_map]
  rcases member with (⟨task, ready, carried⟩ | ⟨loan, -, rfl⟩) | ⟨waiting, drains, rfl⟩
  · refine ⟨task, Or.inl (Or.inl ready), Or.inl ?_⟩
    rcases about with rfl | rfl
    · unfold Work.burden? at carried
      split at carried <;> simp at carried
    · exact carried
  · rcases about with waits | waits <;> cases waits
  · rcases about with waits | waits
    · obtain rfl := Burden.waiting.inj waits
      exact ⟨waiting.task, Or.inl (Or.inr ⟨waiting, drains, rfl⟩), Or.inl rfl⟩
    · cases waits

/--
Every handle that was registered is there for its session, or its store was closed, or somebody
sees to that, unless a scan was given up that had begun to close it.
-/
theorem IsInitial.store_cases {start : Machine} (initial : start.IsInitial)
    (steps : Relation.ReflTransGen Step start machine) {session : String}
    (registered : .registered session number ∈ machine.world.history) :
    machine.world.handleOf? session = some number ∨ machine.world.HasShut number ∨
      (∃ task ∈ machine.undertaken, task.work.Closes number) ∨ start.GivesUp number machine := by
  have sound : machine.Sound [] := Reachable.sound ⟨start, initial, steps⟩
  rcases sound.orderly.lives number with ⟨phase, lived, fits⟩
  have known := lived.session?_of_registered registered
  cases phase with
  | made =>
      cases known
  | registered other borrowers =>
      obtain rfl := Option.some.inj known
      exact Or.inl ((fits.home other).mpr rfl)
  | released other borrowers =>
      have released : machine.burdens.count (.released number) = 1 := fits.needs.released
      rw [List.count_eq_zero_of_not_mem (machine.settled_burdens number)] at released
      cases released
  | closing other borrowers =>
      have closings : machine.burdens.count (.waiting number) +
        machine.burdens.count (.drained number) = 1 := fits.needs.closings
      -- a handle that is closing has its burden with an operation that drains it or has drained it
      refine Or.inr (Or.inr (Or.inl ?_))
      by_cases waits : .waiting number ∈ machine.burdens
      · exact exists_closes waits (Or.inl rfl)
      · rw [List.count_eq_zero_of_not_mem waits, Nat.zero_add] at closings
        exact exists_closes (List.count_pos_iff.mp (closings ▸ Nat.one_pos)) (Or.inr rfl)
  | closed other =>
      rcases fits.present (Or.inl rfl) with ⟨handle, there⟩
      have described := fits.described handle there
      -- the store is closed, or somebody is about to shut it, or nobody is
      by_cases stranded : machine.Strands number
      · exact Or.inr (Or.inr (Or.inr (initial.givesUp_of_strands steps stranded)))
      · by_cases ajar : handle.IsAjar
        · have seen : ∃ task ∈ machine.ready, task.work.burden? = some (.shut number) := by
            by_contra unseen
            refine stranded ⟨⟨handle, there, ajar⟩, fun task member burden => ?_⟩
            exact unseen ⟨task, member, burden⟩
          rcases seen with ⟨task, member, burden⟩
          have among : task ∈ machine.undertaken :=
            List.mem_append_left _ (List.mem_append_left _ member)
          exact Or.inr (Or.inr (Or.inl ⟨task, among, Or.inr burden⟩))
        · refine Or.inr (Or.inl ⟨handle, there, described.storeClosings, fun closable => ?_⟩)
          by_contra isOpen
          have once : handle.storeClosings ≠ 0 := described.storeClosings ▸ Nat.one_ne_zero
          exact ajar ⟨once, closable, Bool.eq_false_iff.mpr isOpen⟩

end Machine
end DocumentGate.Service
