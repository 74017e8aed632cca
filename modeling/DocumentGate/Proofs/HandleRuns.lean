import DocumentGate.Proofs.HandleTurns
import DocumentGate.Proofs.SameWorlds

/-!
# The life cycle of a handle

Whoever deals with a handle, and in whichever order operations take their turns: the handle has as
many borrowers as have borrowed it and not given it back, and it is drained when there are none.  It
is lent until somebody closes it, and what is refused changes nothing.  Who closes it first closes
its store, once, when everything was given back and nobody can borrow the handle any more; whoever
closes it again is told so at once.

Only a request to close the store itself, past its handle, is left out.
-/

namespace DocumentGate.Service

/-- What matters of a change is what becomes of the handle that is there. -/
theorem World.changeHandle_congr {world : World} {number : Nat} {handle : Handle}
    (found : world.handle? number = some handle) {change : Handle → Handle} :
    world.changeHandle number change = world.changeHandle number fun _ => change handle := by
  have handles : world.handles.modify number change =
      world.handles.modify number fun _ => change handle :=
    modify_congr fun other there => congrArg change (Option.some.inj (there.symm.trans found))
  rw [changeHandle, handles, changeHandle]

theorem World.mem_history_beginStore {world : World} {number : Nat} {event : Event}
    (before : event ∈ world.history) : event ∈ (world.beginStore number).world.history := by
  unfold beginStore closeStore
  split <;> simp [CloseStart.world, before]

namespace Machine

/-- What can happen to a machine while nobody closes the store of the handle past the handle. -/
inductive Handling (number : Nat) (machine : Machine) : Machine → Prop where
  /-- A handle is made. -/
  | make {handle : Handle} (unused : handle.record = (0, false, 0)) :
      Handling number machine (machine.within (machine.world.addHandle handle).2)
  /-- Something is asked of the service or of one of its parts. -/
  | submit (label : String) {request : Request} (own : request ≠ .closeStore number) :
      Handling number machine (machine.submit label request)
  /-- An operation takes its turn, whichever it is of those that are ready. -/
  | turn {position : Nat} {next : Machine} (resumed : machine.resume position = some next) :
      Handling number machine next
  /-- Time passes, and reapers scan when that is due. -/
  | pass (span : Time) : Handling number machine (machine.advance span)
  /-- An operation is given up where it waits for its turn. -/
  | abandon (position : Nat) :
      Handling number machine { machine with ready := machine.ready.eraseIdx position }
  /-- An operation is given up where it waits until a handle is given back. -/
  | forsake (position : Nat) :
      Handling number machine { machine with draining := machine.draining.eraseIdx position }

/-- On the way to the machine somebody began to close the handle in a turn under the label. -/
def BeganClosing (start : Machine) (number : Nat) (label : String) (machine : Machine) : Prop :=
  ∃ (before after : Machine) (position : Nat) (work : Work),
    Relation.ReflTransGen (Handling number) start before ∧
      before.ready[position]? = some ⟨label, work⟩ ∧ before.resume position = some after ∧
      .closing number ∉ before.world.history ∧ .closing number ∈ after.world.history ∧
      Relation.ReflTransGen (Handling number) after machine

variable {start machine next : Machine} {number : Nat} {standing : Standing}

theorem BeganClosing.step {label : String} (began : start.BeganClosing number label machine)
    (step : machine.Handling number next) : start.BeganClosing number label next := by
  rcases began with ⟨before, after, position, work, earlier, ready, resumed, not, closing, later⟩
  exact ⟨before, after, position, work, earlier, ready, resumed, not, closing, later.tail step⟩

/-! ## Steps -/

/-- Where a step leads the handle, and what it takes for its store to be closed in the step. -/
theorem Stands.step (stands : machine.Stands number standing)
    (step : machine.Handling number next) :
    ∃ following, next.Stands number following ∧
      (following = standing ∨ standing = .serving 0 ∧ following = .closed ∨
        ∃ position task, machine.ready[position]? = some task ∧
          machine.resume position = some next ∧
            (standing.Went task.label following ∨
              task.closer? number = some task.label ∧ standing = .due task.label ∧
                following = .closed)) := by
  cases step with
  | make unused =>
      exact ⟨standing, stands.within (stands.world.addHandle unused) rfl rfl, Or.inl rfl⟩
  | submit label own =>
      exact ⟨standing, stands.add rfl fun asked => own (Work.begin.inj asked), Or.inl rfl⟩
  | turn resumed =>
      rcases Option.map_eq_some_iff.mp resumed with ⟨task, ready, -⟩
      rcases stands.resume ready resumed with ⟨following, leads, goes⟩
      exact ⟨following, leads, Or.inr (Or.inr ⟨_, task, ready, resumed, goes⟩)⟩
  | pass span =>
      rcases stands.world.advance span with there | ⟨rfl, closed⟩
      · exact ⟨standing, stands.within there rfl rfl, Or.inl rfl⟩
      · exact ⟨.closed, stands.within closed rfl rfl, Or.inr (Or.inl ⟨rfl, rfl⟩)⟩
  | abandon position =>
      exact ⟨standing, stands.pick position, Or.inl rfl⟩
  | forsake position =>
      have fewer := ((List.eraseIdx_sublist machine.draining position).filter
        (·.handle == number)).map Draining.label
      exact ⟨standing, ⟨stands.world, fewer.trans stands.waits, stands.due, stands.own⟩, Or.inl rfl⟩

/-- The handle stands somewhere, and who is going to close its store was the first to close it. -/
def HasCloser (start : Machine) (number : Nat) (machine : Machine) : Prop :=
  ∃ standing, machine.Stands number standing ∧
    ∀ closer, standing.closer? = some closer → start.BeganClosing number closer machine

theorem HasCloser.step (has : start.HasCloser number machine)
    (steps : Relation.ReflTransGen (Handling number) start machine)
    (step : machine.Handling number next) : start.HasCloser number next := by
  rcases has with ⟨standing, stands, began⟩
  rcases stands.step step with ⟨following, leads, same | ⟨-, closed⟩ | turn⟩
  · exact ⟨following, leads, fun closer closes => (began closer (same ▸ closes)).step step⟩
  · exact ⟨following, leads, fun closer closes => by cases closed; cases closes⟩
  · rcases turn with ⟨position, task, ready, resumed, went | ⟨-, -, closed⟩⟩
    · refine ⟨following, leads, fun closer closes => ?_⟩
      rcases went.closer? closes with before | ⟨own, serves, refuses⟩
      · exact (began closer before).step step
      · refine ⟨machine, next, position, task.work, steps, own ▸ ready, resumed, ?_, ?_, .refl⟩
        · rw [stands.world.led.mem_closing_iff, serves]
          exact Bool.false_ne_true
        · rw [leads.world.led.mem_closing_iff, refuses]
    · exact ⟨following, leads, fun closer closes => by cases closed; cases closes⟩

theorem IsInitial.stands (initial : start.IsInitial) (number : Nat) :
    start.Stands number (.serving 0) where
  world :=
    { led := by
        have nothing : start.world.history = [] := by simp [World.history, initial.journal]
        exact nothing ▸ .made
      held := by simp [World.handle?, initial.handles]
      absent := fun _ => rfl }
  waits := by simp [waitsFor, initial.draining]
  due := by simp [dueFor, initial.ready]
  own := by simp [initial.ready]

theorem IsInitial.hasCloser (initial : start.IsInitial)
    (steps : Relation.ReflTransGen (Handling number) start machine) :
    start.HasCloser number machine := by
  induction steps with
  | refl =>
      exact ⟨.serving 0, initial.stands number, nofun⟩
  | tail earlier step ih =>
      exact ih.step earlier step

/-! ## Life cycles -/

/-- What is true of a handle at each moment on the way. -/
structure LifeCycle (start machine : Machine) (number : Nat) (handle : Handle) : Prop where
  /-- The handle was lent as often as it was given back, and to those who have it. -/
  counted : machine.world.history.count (.borrowed number) =
    machine.world.history.count (.returned number) + handle.borrowers
  drained : handle.drained = true ↔ handle.borrowers = 0
  /-- The handle is lent as long as nobody has begun to close it. -/
  lent : .closing number ∉ machine.world.history →
    machine.world.borrow? number =
      some ((machine.world.changeHandle number Handle.lend).note (.borrowed number))
  /-- Who is refused the handle is told so, and nothing else happens. -/
  refused : .closing number ∈ machine.world.history → ∀ label,
    machine.begin label (.borrow number) = machine.fail label .notConnected ∧
      (∀ name, machine.begin label (.borrowUntilEnd number name) =
        machine.fail label .notConnected) ∧
      ∀ session body, machine.world.handleOf? session = some number →
        machine.leasing label session body = machine.fail label .notConnected
  /-- The handle is taken back from those who have it. -/
  takenBack : handle.borrowers ≠ 0 →
    machine.world.giveBack? number =
      some ((machine.world.changeHandle number Handle.takeBack).note (.returned number))
  /-- Who gives back what nobody has borrowed is told so, and nothing else happens. -/
  overReturned : handle.borrowers = 0 → ∀ label,
    machine.begin label (.giveBack number) = machine.fail label (.overReturned handle.label) ∧
      ∀ session answer, machine.finishLease label session number answer =
        machine.fail label (.overReturned handle.label)
  /-- The handle is closing from the moment when somebody closes it. -/
  begun : ∀ label after,
    .closing number ∈ (machine.startClose label number after).machine.world.history
  begunOnce : machine.world.history.count (.closing number) ≤ 1
  /-- Who closes it again is told so at once, and nothing else happens. -/
  again : .closing number ∈ machine.world.history →
    machine.world.beginClose number = .refused (machine.world.note (.closingAgain number)) ∧
      (∀ label after, machine.startClose label number after =
        .done false (machine.within (machine.world.note (.closingAgain number)))) ∧
      ∀ label, handle.closingFault? = none →
        machine.begin label (.close number) =
          (machine.within (machine.world.note (.closingAgain number))).finishWith label
            (.boolean false)
  /-- The store is closed once at most. -/
  closedOnce : handle.storeClosings = machine.world.history.count (.storeClosing number) ∧
    handle.storeClosings ≤ 1
  /-- The store is closed when nobody has the handle, and nobody borrows it any more. -/
  closedLast : ∀ before after,
    machine.world.history = before ++ .storeClosing number :: after →
      .closing number ∈ before ∧
        before.count (.borrowed number) = before.count (.returned number) ∧
        .borrowed number ∉ after
  /-- Who closes the store has begun to close the handle, in the same step or before it waited. -/
  closedByFirst : ∀ next, machine.Handling number next →
    .storeClosing number ∉ machine.world.history → .storeClosing number ∈ next.world.history →
      .closing number ∉ machine.world.history ∧ .closing number ∈ next.world.history ∨
        ∃ position task, machine.ready[position]? = some task ∧
          machine.resume position = some next ∧ task.closer? number = some task.label ∧
            start.BeganClosing number task.label machine

namespace Stands

variable (stands : machine.Stands number standing) {handle : Handle}
  (found : machine.world.handle? number = some handle)

include stands

/-- The store is closed in a step only by who begins to close the handle or is due to do so. -/
theorem closes (step : machine.Handling number next)
    (before : .storeClosing number ∉ machine.world.history)
    (after : .storeClosing number ∈ next.world.history) :
    standing.refuses = false ∧ .closing number ∈ next.world.history ∨
      ∃ position task, machine.ready[position]? = some task ∧
        machine.resume position = some next ∧ task.closer? number = some task.label ∧
          standing = .due task.label := by
  have notClosed : standing ≠ .closed := mt stands.world.led.mem_storeClosing_iff.mpr before
  rcases stands.step step with ⟨following, leads, goes⟩
  have closed := leads.world.led.mem_storeClosing_iff.mp after
  have closing : .closing number ∈ next.world.history :=
    leads.world.led.mem_closing_iff.mpr (by rw [closed]; rfl)
  rcases goes with same | ⟨served, -⟩ | ⟨position, task, ready, resumed, goes⟩
  · exact absurd (same.symm.trans closed) notClosed
  · exact Or.inl ⟨served ▸ rfl, closing⟩
  · rcases goes with went | ⟨closes, due, -⟩
    · exact Or.inl ⟨(went.eq_closed closed).resolve_left notClosed, closing⟩
    · exact Or.inr ⟨position, task, ready, resumed, closes, due⟩

include found

theorem closing_iff : handle.closing = true ↔ .closing number ∈ machine.world.history := by
  rw [stands.world.closing found, stands.world.led.mem_closing_iff]

theorem lent (serves : .closing number ∉ machine.world.history) :
    machine.world.borrow? number =
      some ((machine.world.changeHandle number Handle.lend).note (.borrowed number)) := by
  have closing : ¬handle.closing = true := mt (stands.closing_iff found).mp serves
  rw [World.changeHandle_congr found]
  simp [World.borrow?, found, Handle.borrow?, closing]

theorem borrow?_eq_none (refuses : .closing number ∈ machine.world.history) :
    machine.world.borrow? number = none := by
  have closing := (stands.closing_iff found).mpr refuses
  simp [World.borrow?, found, Handle.borrow?, closing]

theorem beginClose_again (refuses : .closing number ∈ machine.world.history) :
    machine.world.beginClose number = .refused (machine.world.note (.closingAgain number)) := by
  have closing := (stands.closing_iff found).mpr refuses
  simp [World.beginClose, found, closing]

/-- Once somebody has closed the handle, it is closing. -/
theorem closing_mem : .closing number ∈ (machine.world.beginClose number).world.history := by
  by_cases refuses : .closing number ∈ machine.world.history
  · rw [stands.beginClose_again found refuses]
    simp [World.CloseStart.world, refuses]
  · have closing : ¬handle.closing = true := mt (stands.closing_iff found).mp refuses
    have begun : .closing number ∈ ((machine.world.changeHandle number
        Handle.beginClosing).note (.closing number)).history := by
      simp
    rw [World.beginClose, found]
    dsimp only
    rw [if_neg closing]
    split
    · exact begun
    · exact World.mem_history_beginStore begun

end Stands

/-- Every handle that there is goes through its life cycle. -/
theorem IsInitial.lifeCycle (initial : start.IsInitial)
    (steps : Relation.ReflTransGen (Handling number) start machine) {handle : Handle}
    (found : machine.world.handle? number = some handle) :
    start.LifeCycle machine number handle := by
  rcases initial.hasCloser steps with ⟨standing, stands, began⟩
  have led := stands.world.led
  have borrowers := stands.world.borrowers found
  exact
    { counted := borrowers ▸ led.count_borrowed
      drained := by simp [handle.drained_eq]
      lent := stands.lent found
      refused := fun refuses label => by
        have none := stands.borrow?_eq_none found refuses
        refine ⟨by rw [begin, none], fun name => by rw [begin, none], fun session body has => ?_⟩
        rcases Option.map_eq_some_iff.mp has with ⟨entry, there, rfl⟩
        rw [leasing, World.lease, there]
        dsimp only
        rw [none]
      takenBack := fun lent => by
        rw [World.changeHandle_congr found]
        exact World.giveBack?_eq_some_of_borrowed found lent
      overReturned := fun unused label => by
        have none : machine.giveBack number = none := by
          simp [giveBack, World.giveBack?, found, Handle.giveBack?, unused]
        have named : labelOf machine.world number = handle.label := by
          rw [labelOf, found]
          rfl
        refine ⟨by rw [begin, none, named], fun session answer => ?_⟩
        rw [finishLease, none, named]
      begun := fun label after => by
        rw [world_startClose]
        exact stands.closing_mem found
      begunOnce := by
        rw [led.count_closing]
        exact Bool.toNat_le _
      again := fun refuses => by
        have told := stands.beginClose_again found refuses
        refine ⟨told, fun label after => by rw [startClose, told]; rfl, fun label silent => ?_⟩
        have same : (machine.world.note (.closingAgain number)).closingFault? number = none := by
          simp [World.closingFault?, found, silent]
        rw [begin, close, startClose, told]
        dsimp only [progress, proceed]
        rw [afterClose, conclude, within, same]
        rfl
      closedOnce := by
        rw [stands.world.storeClosings found, led.count_storeClosing]
        exact ⟨rfl, by cases standing <;> simp⟩
      closedLast := fun before after split =>
        ⟨(led.before_storeClosing split).1, (led.before_storeClosing split).2,
          led.after_storeClosing split⟩
      closedByFirst := fun next step before after => by
        rcases stands.closes step before after with ⟨serves, closing⟩ | due
        · refine Or.inl ⟨mt led.mem_closing_iff.mp ?_, closing⟩
          rw [serves]
          exact Bool.false_ne_true
        · rcases due with ⟨position, task, ready, resumed, closes, due⟩
          exact Or.inr ⟨position, task, ready, resumed, closes, began _ (due ▸ rfl)⟩ }

theorem handled_afterTurn (steps : Relation.ReflTransGen (Handling number) start machine) :
    Relation.ReflTransGen (Handling number) start machine.afterTurn := by
  unfold afterTurn
  cases resumed : machine.resume 0 with
  | none =>
      exact steps
  | some next =>
      exact steps.tail (.turn resumed)

/-- The machine after an operation has had a turn. -/
def afterOperation (machine : Machine) (label : String) (request : Request) : Machine :=
  (machine.submit label request).afterTurn

theorem handled_afterOperation (steps : Relation.ReflTransGen (Handling number) start machine)
    (label : String) (request : Request) (own : request ≠ .closeStore number) :
    Relation.ReflTransGen (Handling number) start (machine.afterOperation label request) :=
  handled_afterTurn (steps.tail (.submit label own))

/-- There is a handle that somebody has borrowed. -/
def borrowedOnce : Machine :=
  (atFirst.within (atFirst.world.addHandle
    (.ofBackend "shared" (.memory "shared" "test" false))).2).afterOperation "first" (.borrow 0)

/-- Two close the handle before it is given back. -/
def closedTwice : Machine :=
  (((borrowedOnce.afterOperation "second" (.close 0)).afterOperation "third"
    (.close 0)).afterOperation "fourth" (.giveBack 0)).afterTurn

theorem lifeCycle_closedTwice :
    closedTwice.world.history =
        [.borrowed 0, .closing 0, .closingAgain 0, .returned 0, .storeClosing 0] ∧
      ∃ handle, closedTwice.world.handle? 0 = some handle ∧
        atFirst.LifeCycle closedTwice 0 handle := by
  have borrowed : Relation.ReflTransGen (Handling 0) atFirst borrowedOnce :=
    handled_afterOperation (.single (.make rfl)) "first" (.borrow 0) nofun
  have closing := handled_afterOperation borrowed "second" (.close 0) nofun
  have again := handled_afterOperation closing "third" (.close 0) nofun
  have returned := handled_afterOperation again "fourth" (.giveBack 0) nofun
  exact ⟨by decide +kernel, _, rfl, IsInitial.lifeCycle ⟨rfl, rfl, rfl, rfl, rfl, rfl, rfl⟩
    (handled_afterTurn returned) rfl⟩

end Machine
end DocumentGate.Service
