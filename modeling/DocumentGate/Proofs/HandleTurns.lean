import DocumentGate.Proofs.HandleStandings
import DocumentGate.Proofs.TurnParts

/-!
# Handles while operations take turns

Where a handle stands is told by what happened to it, and the handle is as its standing says: that
many have borrowed it, it refuses new borrowers or does not, and closing its store was tried once or
never.  An operation waits for the handle only where its standing has somebody who waits, and a turn
is due to close the store only where its standing says so.

Each part of a turn leads the handle from where it stands to a standing that comes after it.  The
store of a handle that was waited for is closed in the first thing that a turn does.
-/

namespace DocumentGate

theorem Handle.IsFresh.record {handle : Handle} (fresh : handle.IsFresh) :
    handle.record = (0, false, 0) := by
  simp [Handle.record, fresh.borrowers, fresh.closing, fresh.storeClosings]

theorem Handle.record_shutStore (handle : Handle) : handle.shutStore.record = handle.record := by
  unfold shutStore
  split <;> rfl

namespace Service

namespace World

variable {world next last : World} {number : Nat} {standing following : Standing}

/-! ## Worlds -/

/-- The handle of the number stands there; as long as there is none it serves nobody. -/
structure Stands (number : Nat) (standing : Standing) (world : World) : Prop where
  led : Standing.Led number world.history standing
  held : ∀ handle, world.handle? number = some handle → handle.record = standing.record
  absent : world.handle? number = none → standing = .serving 0

/-- Nothing happens to the handle, and what is counted of it stays. -/
structure Skirts (number : Nat) (world next : World) : Prop where
  record : (next.handle? number).map Handle.record = (world.handle? number).map Handle.record
  history : ∃ events, next.history = world.history ++ events ∧
    ∀ event ∈ events, event.isAside number = true

namespace Skirts

theorem refl (world : World) : world.Skirts number world :=
  ⟨rfl, [], (List.append_nil _).symm, nofun⟩

theorem trans (first : world.Skirts number next) (second : next.Skirts number last) :
    world.Skirts number last := by
  rcases first.history with ⟨events, history, others⟩
  rcases second.history with ⟨further, longer, thereafter⟩
  refine ⟨second.record.trans first.record, events ++ further, ?_, fun event member => ?_⟩
  · rw [longer, history, List.append_assoc]
  · exact (List.mem_append.mp member).elim (others event) (thereafter event)

theorem of_handle? (same : next.handle? number = world.handle? number) {events : List Event}
    (history : next.history = world.history ++ events)
    (others : ∀ event ∈ events, event.isAside number = true) : world.Skirts number next :=
  ⟨congrArg _ same, events, history, others⟩

theorem note (world : World) {event : Event} (other : event.isAside number = true) :
    world.Skirts number (world.note event) :=
  of_handle? rfl (history_note world event) (by simpa using other)

theorem change (world : World) (asked : Nat) {change : Handle → Handle}
    (keeps : ∀ handle, (change handle).record = handle.record) :
    world.Skirts number (world.changeHandle asked change) where
  record := by
    rw [handle?_changeHandle]
    split
    · rw [Option.map_map]
      exact congrArg (Option.map · _) (funext keeps)
    · rfl
  history := ⟨[], (List.append_nil _).symm, nofun⟩

/-- What happens to another handle does not matter. -/
theorem elsewhere {asked : Nat} (other : asked ≠ number) (world : World)
    (change : Handle → Handle) {event : Event} (aside : event.isAside number = true) :
    world.Skirts number ((world.changeHandle asked change).note event) :=
  of_handle? (handle?_changeHandle_of_ne other.symm world change)
    (history_note (world.changeHandle asked change) event) (by simpa using aside)

theorem refresh (world : World) (session : String) :
    world.Skirts number (world.refresh session) := by
  unfold World.refresh
  split
  · exact of_handle? rfl (history_note _ _) (by simp [Event.isAside])
  · exact refl world

theorem put (world : World) (session : String) (asked : Nat) :
    world.Skirts number (world.put session asked).2 := by
  rcases put_eq (rfl : world.put session asked = ((world.put session asked).1, _)) with
    ⟨-, -, history, -⟩
  refine of_handle? (handle?_put world session asked number) history fun event member => ?_
  simp only [List.mem_cons, List.mem_map] at member
  rcases member with rfl | ⟨_, -, rfl⟩ <;> rfl

theorem take {session : String} {cause : Departure} {asked : Nat}
    (taken : world.take? session cause = some (asked, next)) : world.Skirts number next := by
  rcases take?_eq_some taken with ⟨-, handles, history, -⟩
  exact of_handle? (congrArg (·[number]?) handles) history (by simp [Event.isAside])

theorem shutStore (world : World) (asked : Nat) : world.Skirts number (world.shutStore asked) :=
  change world asked Handle.record_shutStore

theorem closeStore {asked : Nat} (other : asked ≠ number) (world : World) :
    world.Skirts number (world.closeStore asked) :=
  elsewhere other world _ (by simpa [Event.isAside] using other)

theorem beginStore {asked : Nat} (other : asked ≠ number) (world : World) :
    world.Skirts number (world.beginStore asked).world := by
  unfold World.beginStore
  split
  · exact elsewhere other world _ (by simpa [Event.isAside] using other)
  · exact closeStore other world

theorem beginClose {asked : Nat} (other : asked ≠ number) (world : World) :
    world.Skirts number (world.beginClose asked).world := by
  have begun : world.Skirts number
      ((world.changeHandle asked Handle.beginClosing).note (.closing asked)) :=
    elsewhere other world _ (by simpa [Event.isAside] using other)
  unfold World.beginClose
  split
  · exact refl world
  · split
    · exact note world rfl
    · dsimp only
      split
      · exact begun
      · exact begun.trans (beginStore other _)

end Skirts

namespace Stands

theorem skirted (stands : world.Stands number standing) (skirts : world.Skirts number next) :
    next.Stands number standing where
  led := by
    rcases skirts.history with ⟨events, history, others⟩
    exact history ▸ stands.led.asides others
  held handle found := by
    have record := skirts.record
    rw [found, Option.map_some] at record
    rcases Option.map_eq_some_iff.mp record.symm with ⟨earlier, there, same⟩
    exact same ▸ stands.held earlier there
  absent missing := by
    have record := skirts.record
    rw [missing, Option.map_none] at record
    exact stands.absent (Option.map_eq_none_iff.mp record.symm)

theorem within (stands : world.Stands number standing) (handles : next.handles = world.handles)
    (journal : next.journal = world.journal) : next.Stands number standing :=
  stands.skirted (.of_handle? (congrArg (·[number]?) handles)
    ((congrArg (List.map Entry.event) journal).trans (List.append_nil _).symm) nofun)

/-! ## What is known of a handle -/

section Held

variable (stands : world.Stands number standing) {handle : Handle}
  (found : world.handle? number = some handle)

include stands found

theorem borrowers : handle.borrowers = standing.borrowers :=
  congrArg Prod.fst (stands.held handle found)

theorem closing : handle.closing = standing.refuses :=
  congrArg (·.2.1) (stands.held handle found)

theorem storeClosings : handle.storeClosings = standing.storeClosings :=
  congrArg (·.2.2) (stands.held handle found)

theorem drained : handle.drained = (standing.borrowers == 0) := by
  rw [handle.drained_eq, stands.borrowers found]

/-- Something happens to the handle that has its place where the handle stands. -/
theorem change {change : Handle → Handle} {event : Event}
    (moves : standing.Moves number event following)
    (record : (change handle).record = following.record) :
    ((world.changeHandle number change).note event).Stands number following where
  led := by
    rw [history_note, history_changeHandle]
    exact stands.led.event moves
  held changed there := by
    rw [handle?_note, handle?_changeHandle_self, found, Option.map_some] at there
    exact Option.some.inj there ▸ record
  absent missing := by
    rw [handle?_note, handle?_changeHandle_self, found, Option.map_some] at missing
    cases missing

end Held

/-- A handle that is there from now on serves nobody yet. -/
theorem addHandle (stands : world.Stands number standing) {handle : Handle}
    (unused : handle.record = (0, false, 0)) :
    (world.addHandle handle).2.Stands number standing where
  led := stands.led
  held found there := by
    rw [handle?_addHandle] at there
    split at there
    · rename_i added
      obtain rfl := Option.some.inj there
      have missing : world.handle? number = none := List.getElem?_eq_none (Nat.le_of_eq added.symm)
      rw [stands.absent missing]
      exact unused
    · exact stands.held found there
  absent missing := by
    rw [handle?_addHandle] at missing
    split at missing
    · cases missing
    · exact stands.absent missing

/-! ## Borrowing and giving back -/

theorem borrow (stands : world.Stands number standing)
    (borrows : world.borrow? number = some next) :
    ∃ borrowers, standing = .serving borrowers ∧
      next.Stands number (.serving (borrowers + 1)) := by
  rcases borrow?_eq_some borrows with ⟨handle, found, serves, rfl⟩
  rw [stands.closing found] at serves
  cases standing with
  | serving borrowers =>
      refine ⟨borrowers, rfl, stands.change found .borrow ?_⟩
      simp [Handle.record, Handle.lend, Standing.record, stands.borrowers found,
        stands.closing found, stands.storeClosings found]
  | _ =>
      cases serves

/-- Where the handle stands when it was given back. -/
theorem giveBack (stands : world.Stands number standing)
    (gives : world.giveBack? number = some next) :
    standing.borrowers ≠ 0 ∧ (∃ handle, next.handle? number = some handle) ∧
      ∀ following, standing.Moves number (.returned number) following →
        following.record = (standing.borrowers - 1, standing.refuses, standing.storeClosings) →
        next.Stands number following := by
  rcases Option.bind_eq_some_iff.mp gives with ⟨handle, found, -⟩
  have lent : handle.borrowers ≠ 0 := by
    intro unused
    simp [giveBack?, found, Handle.giveBack?, unused] at gives
  rw [giveBack?_eq_some_of_borrowed found lent] at gives
  obtain rfl := Option.some.inj gives
  refine ⟨stands.borrowers found ▸ lent, ⟨handle.takeBack, by simp [found]⟩, ?_⟩
  intro following moves record
  refine stands.change found moves ?_
  simp [record, Handle.record, Handle.takeBack, stands.borrowers found, stands.closing found,
    stands.storeClosings found]

/-! ## Closing -/

/-- The handle was due to be closed, and its store was closed, or that has begun. -/
theorem beginStore {closer : String} (stands : world.Stands number (.due closer)) :
    ∃ next, next.Stands number .closed ∧
      (world.beginStore number = .closed next ∨ world.beginStore number = .closing next) := by
  cases found : world.handle? number with
  | none =>
      cases stands.absent found
  | some handle =>
      have tried : handle.tryStore.record = Standing.closed.record := by
        simp [Handle.record, Handle.tryStore, Standing.record, stands.borrowers found,
          stands.closing found, stands.storeClosings found]
      unfold World.beginStore
      split
      · exact ⟨_, stands.change found .closeStore tried, Or.inr rfl⟩
      · have closed : handle.closeStore.record = Standing.closed.record :=
          (Handle.record_shutStore handle.tryStore).trans tried
        exact ⟨_, stands.change found .closeStore closed, Or.inl rfl⟩

end Stands

/-- What has become of a handle when somebody begins to close it. -/
inductive CloseStart.Leads (number : Nat) : Standing → CloseStart → Prop where
  | refused {standing : Standing} {next : World} (stands : next.Stands number standing) :
      Leads number standing (.refused next)
  | closed {next : World} (stands : next.Stands number .closed) :
      Leads number (.serving 0) (.closed next)
  | closing {next : World} (stands : next.Stands number .closed) :
      Leads number (.serving 0) (.closing next)
  | waiting {borrowers : Nat} {next : World}
      (stands : ∀ closer, next.Stands number (.waiting borrowers closer)) :
      Leads number (.serving (borrowers + 1)) (.waiting next)

namespace Stands

theorem beginClose (stands : world.Stands number standing) :
    CloseStart.Leads number standing (world.beginClose number) := by
  cases found : world.handle? number with
  | none =>
      rw [World.beginClose, found]
      exact .refused stands
  | some handle =>
      rw [World.beginClose, found]
      dsimp only
      rw [stands.closing found, stands.drained found]
      cases standing with
      | serving borrowers =>
          have begun {following : Standing}
              (moves : (Standing.serving borrowers).Moves number (.closing number) following)
              (record : following.record = (borrowers, true, 0)) :
              ((world.changeHandle number Handle.beginClosing).note (.closing number)).Stands number
                following := by
            refine stands.change found moves ?_
            simp [record, Handle.record, Handle.beginClosing, stands.borrowers found,
              stands.storeClosings found]
          cases borrowers with
          | zero =>
              -- nobody is waited for, so the handle is due in the same moment, whoever closes it
              have due : (Standing.serving 0).Moves number (.closing number) (.due "") := .close
              rcases (begun due rfl).beginStore with ⟨next, closed, done | done⟩
              · exact done ▸ .closed closed
              · exact done ▸ .closing closed
          | succ others =>
              exact .waiting fun closer => begun .wait rfl
      | _ =>
          exact .refused (stands.skirted (.note world rfl))

theorem isDrained (stands : world.Stands number standing) {handle : Handle}
    (found : world.handle? number = some handle) :
    world.isDrained number = (standing.borrowers == 0) := by
  rw [World.isDrained, found]
  exact stands.drained found

end Stands

theorem Skirts.giveBack {asked : Nat} (other : asked ≠ number)
    (gives : world.giveBack? asked = some next) : world.Skirts number next := by
  rcases Option.bind_eq_some_iff.mp gives with ⟨handle, -, rest⟩
  rcases Option.bind_eq_some_iff.mp rest with ⟨returned, -, done⟩
  obtain rfl := Option.some.inj done
  exact elsewhere other world _ (by simpa [Event.isAside] using other)

theorem Skirts.borrow {asked : Nat} (other : asked ≠ number)
    (borrows : world.borrow? asked = some next) : world.Skirts number next := by
  rcases borrow?_eq_some borrows with ⟨handle, -, -, rfl⟩
  exact elsewhere other world _ (by simpa [Event.isAside] using other)

end World

/-! ## Machines -/

/-- Who closes the store of the handle in this turn, if that was waited for. -/
def Task.closer? (number : Nat) (task : Task) : Option String :=
  match task.work with
  | .drained handle _ => if handle = number then some task.label else none
  | _ => none

theorem Task.closer?_of_goesOn {number : Nat} {task : Task} (goesOn : task.work.GoesOn) :
    task.closer? number = none := by
  unfold closer?
  split
  · rename_i drained
    rw [drained] at goesOn
    exact goesOn.elim
  · rfl

namespace Machine

variable {machine next : Machine} {number : Nat} {standing following : Standing} {label : String}

/-- Who waits until the handle is given back. -/
def waitsFor (number : Nat) (machine : Machine) : List String :=
  (machine.draining.filter (·.handle == number)).map Draining.label

/-- Who is due to close the store of the handle. -/
def dueFor (number : Nat) (machine : Machine) : List String :=
  machine.ready.filterMap (·.closer? number)

/-- The handle stands there, and nobody closes its store but who began to close it. -/
structure Stands (number : Nat) (standing : Standing) (machine : Machine) : Prop where
  world : machine.world.Stands number standing
  waits : (machine.waitsFor number).Sublist standing.waits?.toList
  due : (machine.dueFor number).Sublist standing.due?.toList
  own : ∀ task ∈ machine.ready, task.work ≠ .begin (.closeStore number)

theorem waitsFor_wake (machine : Machine) (asked : Nat) :
    (machine.wake asked).waitsFor number =
      if asked = number then [] else machine.waitsFor number := by
  unfold waitsFor wake
  rw [List.filter_filter]
  split
  · rename_i same
    subst same
    simp
  · rename_i other
    refine congrArg _ (List.filter_congr fun waiting _ => ?_)
    by_cases own : waiting.handle = number
    · simp [own, Ne.symm other]
    · simp [own]

theorem dueFor_wake (machine : Machine) (asked : Nat) :
    (machine.wake asked).dueFor number =
      machine.dueFor number ++ if asked = number then machine.waitsFor number else [] := by
  unfold dueFor wake
  rw [List.filterMap_append, List.filterMap_map]
  refine congrArg _ ?_
  split
  · rename_i same
    subst same
    rw [waitsFor, ← List.filterMap_eq_map]
    refine List.filterMap_congr fun waiting member => ?_
    have own : waiting.handle = asked := by simpa using (List.mem_filter.mp member).2
    simp [Task.closer?, own]
  · rename_i other
    refine List.filterMap_eq_nil_iff.mpr fun waiting member => ?_
    have elsewhere : waiting.handle = asked := by simpa using (List.mem_filter.mp member).2
    simp [Task.closer?, elsewhere, other]

namespace Stands

/-- Another world takes the place of the one that was, and the handle stands elsewhere. -/
theorem within (stands : machine.Stands number standing) {world : World}
    (leads : world.Stands number following) (waits : following.waits? = standing.waits?)
    (due : following.due? = standing.due?) : (machine.within world).Stands number following :=
  ⟨leads, waits ▸ stands.waits, due ▸ stands.due, stands.own⟩

theorem skirted (stands : machine.Stands number standing) {world : World}
    (skirts : machine.world.Skirts number world) : (machine.within world).Stands number standing :=
  stands.within (stands.world.skirted skirts) rfl rfl

theorem finish (stands : machine.Stands number standing) (answer : Answer) :
    (machine.finish label answer).Stands number standing :=
  ⟨stands.world, stands.waits, stands.due, stands.own⟩

/-- Work that neither closes the store nor is due to do so may be ready. -/
theorem add (stands : machine.Stands number standing) {work : Work}
    (none : (Task.mk label work).closer? number = none) (own : work ≠ .begin (.closeStore number)) :
    (machine.later label work).Stands number standing where
  world := stands.world
  waits := stands.waits
  due := by
    have same : (machine.later label work).dueFor number = machine.dueFor number := by
      simp [dueFor, Machine.later, List.filterMap_append, none]
    exact same ▸ stands.due
  own task member := by
    rcases List.mem_append.mp member with earlier | now
    · exact stands.own task earlier
    · rw [List.mem_singleton.mp now]
      exact own

theorem later (stands : machine.Stands number standing) {work : Work} (goesOn : work.GoesOn) :
    (machine.later label work).Stands number standing :=
  stands.add (Task.closer?_of_goesOn goesOn) fun asked => by rwa [asked] at goesOn

/-! ## Giving back -/

theorem own_wake (stands : machine.Stands number standing) (asked : Nat) :
    ∀ task ∈ (machine.wake asked).ready, task.work ≠ .begin (.closeStore number) := by
  intro task member
  rcases List.mem_append.mp member with earlier | now
  · exact stands.own task earlier
  · rcases List.mem_map.mp now with ⟨waiting, -, rfl⟩
    nofun

/-- Nobody waits for the handle, or others are woken. -/
theorem wake (stands : machine.Stands number standing) {asked : Nat}
    (idle : asked = number → standing.waits? = none) :
    (machine.wake asked).Stands number standing where
  world := stands.world
  waits := by
    rw [waitsFor_wake]
    split
    · exact List.nil_sublist _
    · exact stands.waits
  due := by
    rw [dueFor_wake]
    split
    · rename_i same
      have waits := stands.waits
      rw [idle same] at waits
      rw [List.sublist_nil.mp waits, List.append_nil]
      exact stands.due
    · rw [List.append_nil]
      exact stands.due
  own := stands.own_wake asked

/-- Who waited for the handle is due when the last borrower has given it back. -/
theorem giveBackLast {closer : String} (stands : machine.Stands number (.waiting 0 closer))
    {world : World} (leads : world.Stands number (.due closer)) :
    ((machine.within world).wake number).Stands number (.due closer) where
  world := leads
  waits := by
    rw [waitsFor_wake, if_pos rfl]
    exact List.nil_sublist _
  due := by
    have none : machine.dueFor number = [] := List.sublist_nil.mp stands.due
    rw [dueFor_wake, if_pos rfl]
    exact (congrArg (· ++ _) none).symm ▸ stands.waits
  own := stands.own_wake number

theorem giveBack (stands : machine.Stands number standing) {asked : Nat}
    (gives : machine.giveBack asked = some next) :
    ∃ following, standing.Goes label following ∧ next.Stands number following := by
  rcases Option.map_eq_some_iff.mp gives with ⟨world, returns, rfl⟩
  dsimp only
  by_cases same : asked = number
  · subst same
    rcases stands.world.giveBack returns with ⟨lent, ⟨handle, there⟩, leads⟩
    cases standing with
    | serving borrowers =>
        cases borrowers with
        | zero =>
            exact absurd rfl lent
        | succ borrowers =>
            have returned := stands.within (leads _ .giveBack rfl) rfl rfl
            refine ⟨.serving borrowers, .giveBack, ?_⟩
            split
            · exact returned.wake fun _ => rfl
            · exact returned
    | waiting others closer =>
        cases others with
        | zero =>
            have due := leads _ .giveBackLast rfl
            rw [due.isDrained there]
            exact ⟨.due closer, .giveBackLast, stands.giveBackLast due⟩
        | succ others =>
            have waits := leads _ .giveBackLate rfl
            rw [waits.isDrained there]
            exact ⟨.waiting others closer, .giveBackLate, stands.within waits rfl rfl⟩
    | _ =>
        exact absurd rfl lent
  · have returned := stands.skirted (.giveBack same returns)
    refine ⟨standing, .stay, ?_⟩
    split
    · exact returned.wake fun own => absurd own same
    · exact returned

/-! ## Closing -/

/-- How far an operation has come that closes another handle does not matter. -/
theorem progress {asked : Nat} (other : asked ≠ number) (stands : machine.Stands number standing)
    (after : AfterClose) {start : World.CloseStart}
    (skirts : machine.world.Skirts number start.world) :
    (machine.progress label asked after start).machine.Stands number standing := by
  have going : (machine.within start.world).Stands number standing := stands.skirted skirts
  cases start with
  | refused world | closed world =>
      exact going
  | closing world =>
      exact going.later trivial
  | waiting world =>
      refine ⟨going.world, ?_, going.due, going.own⟩
      have same : (machine.progress label asked after (.waiting world)).machine.waitsFor number =
          machine.waitsFor number := by
        simp [waitsFor, Machine.progress, Progress.machine, List.filter_append, other]
      exact same ▸ stands.waits

theorem startClose (stands : machine.Stands number standing) (asked : Nat) (after : AfterClose) :
    ∃ following, standing.Goes label following ∧
      (machine.startClose label asked after).machine.Stands number following := by
  unfold Machine.startClose
  by_cases same : asked = number
  · subst same
    have begun := stands.world.beginClose
    generalize machine.world.beginClose asked = start at begun ⊢
    cases begun with
    | refused next =>
        exact ⟨standing, .stay, stands.within next rfl rfl⟩
    | closed next =>
        exact ⟨.closed, .close, stands.within next rfl rfl⟩
    | closing next =>
        have closing : ((machine.within _).later label (.shut asked after)).Stands asked .closed :=
          (stands.within next rfl rfl).later trivial
        exact ⟨.closed, .close, closing⟩
    | waiting next =>
        rename_i borrowers world
        refine ⟨.waiting borrowers label, .wait, next label, ?_, stands.due, stands.own⟩
        have none : machine.waitsFor asked = [] := List.sublist_nil.mp stands.waits
        have waits : (machine.progress label asked after (.waiting world)).machine.waitsFor asked =
            machine.waitsFor asked ++ [label] := by
          simp [waitsFor, Machine.progress, Progress.machine, List.filter_append]
        rw [waits, none]
        exact List.Sublist.refl _
  · exact ⟨standing, .stay, stands.progress same after (.beginClose same machine.world)⟩

end Stands

/-! ## Parts of turns and whole turns -/

variable {work : Work}

/-- What a part of a turn does to where a handle stands. -/
theorem Part.stands (part : Part label work machine next)
    (stands : machine.Stands number standing) :
    ∃ following, standing.Goes label following ∧ next.Stands number following := by
  have stays {world : World} (skirts : machine.world.Skirts number world) :
      ∃ following, standing.Goes label following ∧ (machine.within world).Stands number following :=
    ⟨standing, .stay, stands.skirted skirts⟩
  cases part with
  | finish answer =>
      exact ⟨standing, .stay, stands.finish answer⟩
  | later continues =>
      exact ⟨standing, .stay, stands.later continues.goesOn⟩
  | refresh =>
      exact stays (.refresh machine.world _)
  | borrow borrows =>
      rename_i asked world
      by_cases same : asked = number
      · subst same
        rcases stands.world.borrow borrows with ⟨borrowers, rfl, lent⟩
        exact ⟨.serving (borrowers + 1), .borrow, stands.within lent rfl rfl⟩
      · exact stays (.borrow same borrows)
  | giveBack gives =>
      exact stands.giveBack gives
  | put asked =>
      exact stays (.put machine.world _ asked)
  | take own taken =>
      exact stays (.take taken)
  | startClose asked =>
      exact stands.startClose asked _
  | shutStore asked =>
      exact stays (.shutStore machine.world asked)
  | select asked database =>
      exact stays (.change machine.world asked fun _ => rfl)
  | addHandle fresh =>
      have unused : Handle.record _ = (0, false, 0) := fresh.record
      exact ⟨standing, .stay, stands.within (stands.world.addHandle unused) rfl rfl⟩
  | beside beside =>
      have same := stands.world.within beside.handles beside.journal
      exact ⟨standing, .stay, stands.within same rfl rfl⟩
  | addLoan name labelled =>
      exact ⟨standing, .stay, stands.world, stands.waits, stands.due, stands.own⟩
  | endLoan found =>
      rename_i name loan
      have ended : { machine with loans := Dictionary.erase name machine.loans }.Stands number
          standing := ⟨stands.world, stands.waits, stands.due, stands.own⟩
      exact ⟨standing, .stay, ended.later trivial⟩

theorem Parts.stands (parts : Parts label work machine next)
    (stands : machine.Stands number standing) :
    ∃ following, standing.Went label following ∧ next.Stands number following := by
  induction parts with
  | refl =>
      exact ⟨standing, .refl, stands⟩
  | tail _ part ih =>
      rcases ih with ⟨earlier, went, there⟩
      rcases part.stands there with ⟨following, goes, leads⟩
      exact ⟨following, went.tail goes, leads⟩

namespace Stands

/-- Where the handle stands does not change when an operation is picked. -/
theorem pick (stands : machine.Stands number standing) (position : Nat) :
    { machine with ready := machine.ready.eraseIdx position }.Stands number standing where
  world := stands.world
  waits := stands.waits
  due := (List.eraseIdx_sublist machine.ready position).filterMap _ |>.trans stands.due
  own task member := stands.own task (List.mem_of_mem_eraseIdx member)

/-- Who closes the store in a turn was due, and nobody else is. -/
theorem pick_closer (stands : machine.Stands number standing) {position : Nat} {task : Task}
    (ready : machine.ready[position]? = some task) {closer : String}
    (closes : task.closer? number = some closer) :
    standing = .due closer ∧
      { machine with ready := machine.ready.eraseIdx position }.dueFor number = [] := by
  rcases List.getElem?_eq_some_iff.mp ready with ⟨inside, rfl⟩
  have picked := (List.getElem_cons_eraseIdx_perm inside).filterMap (Task.closer? number)
  rw [List.filterMap_cons_some closes] at picked
  have due : closer ∈ standing.due?.toList :=
    stands.due.subset (picked.subset List.mem_cons_self)
  cases standing with
  | due other =>
      obtain rfl : closer = other := List.mem_singleton.mp due
      refine ⟨rfl, List.eq_nil_of_length_eq_zero ?_⟩
      have few := picked.length_eq.trans_le stands.due.length_le
      exact Nat.le_zero.mp (Nat.le_of_succ_le_succ few)
  | _ =>
      cases due

/-- The store of the handle is closed first in a turn of who is due, and in no other. -/
theorem opening (stands : machine.Stands number standing) {position : Nat} {task : Task}
    (ready : machine.ready[position]? = some task) :
    let opened := { machine with ready := machine.ready.eraseIdx position }.opening task.label
      task.work
    opened.Stands number standing ∨
      task.closer? number = some task.label ∧ standing = .due task.label ∧
        opened.Stands number .closed := by
  have picked := stands.pick position
  rcases task with ⟨label, work⟩
  cases work with
  | drained asked after =>
      by_cases same : asked = number
      · subst same
        have closes : (Task.mk label (.drained asked after)).closer? asked = some label :=
          if_pos rfl
        rcases stands.pick_closer ready closes with ⟨rfl, none⟩
        rcases stands.world.beginStore with ⟨world, closed, begun | begun⟩
        all_goals
          have done : ({ machine with ready := machine.ready.eraseIdx position }.within
              world).Stands asked .closed :=
            ⟨closed, picked.waits, none ▸ List.Sublist.refl _, picked.own⟩
          refine Or.inr ⟨closes, rfl, ?_⟩
          simp only [Machine.opening, begun]
        · exact done
        · exact done.later trivial
      · exact Or.inl (picked.progress same after (.beginStore same machine.world))
  | begin request =>
      cases request with
      | closeStore asked =>
          have other : asked ≠ number := by
            rintro rfl
            exact stands.own _ (List.mem_of_getElem? ready) rfl
          exact Or.inl (picked.skirted (.closeStore other machine.world))
      | _ =>
          exact Or.inl picked
  | _ =>
      exact Or.inl picked

/-- A turn goes on from where the handle stands, or was due to close its store and does so. -/
theorem resume (stands : machine.Stands number standing) {position : Nat} {task : Task}
    (ready : machine.ready[position]? = some task)
    (resumed : machine.resume position = some next) :
    ∃ following, next.Stands number following ∧
      (standing.Went task.label following ∨
        task.closer? number = some task.label ∧ standing = .due task.label ∧
          following = .closed) := by
  rcases Option.map_eq_some_iff.mp resumed with ⟨other, found, rfl⟩
  obtain rfl := Option.some.inj (ready.symm.trans found)
  have parts := Parts.perform { machine with ready := machine.ready.eraseIdx position } task.label
    task.work
  rcases stands.opening ready with opened | ⟨closes, due, opened⟩
  · rcases parts.stands opened with ⟨following, went, leads⟩
    exact ⟨following, leads, Or.inl went⟩
  · rcases parts.stands opened with ⟨following, went, leads⟩
    exact ⟨following, leads, Or.inr ⟨closes, due, went.of_closed⟩⟩

end Stands

end Machine

/-! ## Time that passes -/

namespace World

variable {world : World} {number : Nat} {standing : Standing}

/-- The handle stands there, or it served nobody and is closed by now. -/
def Keeps (number : Nat) (standing : Standing) (world : World) : Prop :=
  world.Stands number standing ∨ standing = .serving 0 ∧ world.Stands number .closed

theorem Stands.evict (stands : world.Stands number standing) (session : String) (limit : Double) :
    (world.evict session limit).world.Keeps number standing := by
  unfold World.evict
  split
  · rename_i idle
    split
    · rename_i asked rest taken
      have left := stands.skirted (.take taken)
      dsimp only
      by_cases same : asked = number
      · subst same
        have unused : rest.isBusy asked = false := by
          have handles := (take?_eq_some taken).2.1
          simpa [isBusy, handle?, handles] using isBusy_of_isIdle idle (take?_eq_some taken).1
        have begun := left.beginClose
        have free := beginClose_ne_waiting unused
        generalize rest.beginClose asked = start at begun free ⊢
        cases begun with
        | refused next =>
            exact Or.inl next
        | closed next =>
            exact Or.inr ⟨rfl, next⟩
        | closing next =>
            exact Or.inr ⟨rfl, next.skirted (.shutStore _ asked)⟩
        | waiting next =>
            exact absurd rfl (free _)
      · have skirts := Skirts.beginClose same rest
        generalize rest.beginClose asked = start at skirts ⊢
        refine Or.inl (left.skirted ?_)
        cases start with
        | closing next =>
            exact skirts.trans (.shutStore next asked)
        | _ =>
            exact skirts
    · exact Or.inl stands
  · exact Or.inl stands

theorem Keeps.evict (keeps : world.Keeps number standing) (session : String) (limit : Double) :
    (world.evict session limit).world.Keeps number standing := by
  rcases keeps with there | ⟨served, closed⟩
  · exact there.evict session limit
  · rcases closed.evict session limit with still | ⟨serving, -⟩
    · exact Or.inr ⟨served, still⟩
    · cases serving

theorem Stands.advance (stands : world.Stands number standing) (span : Time) :
    (world.advance span).Keeps number standing :=
  @holds_advance (Keeps number standing) (fun session limit keeps => keeps.evict session limit)
    (fun _ _ keeps => keeps.imp (·.within rfl rfl) (And.imp_right (·.within rfl rfl))) _
    (Or.inl stands) span

end World
end Service
end DocumentGate
