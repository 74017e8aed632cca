import DocumentGate.Proofs.TurnParts
import DocumentGate.Proofs.Undertakings

/-!
# Sessions that turns regard

A turn regards the sessions that its work concerns: others keep their entries, and an entry is made
only for a session that the work registers a handle for.  What a turn leaves under way concerns no
further sessions, so that whoever has work under way answers for the sessions that were concerned
when it began.

The settings of a world never change.
-/

namespace DocumentGate.Service

namespace World

variable {world next last : World} {work : Work}

/-- What the work may do to entries of sessions. -/
structure Regards (work : Work) (world next : World) : Prop where
  settings : next.settings = world.settings
  others : ∀ session, ¬work.Concerns session → next.session? session = world.session? session
  made : ∀ session, world.session? session = none → next.session? session ≠ none →
    work.Registers session

namespace Regards

theorem of_session? (settings : next.settings = world.settings)
    (same : ∀ session, next.session? session = world.session? session) :
    world.Regards work next where
  settings := settings
  others session _ := same session
  made session missing there := absurd ((same session).trans missing) there

/-- The registry stays as it is. -/
theorem of_sessions (settings : next.settings = world.settings)
    (same : next.sessions = world.sessions) : world.Regards work next :=
  of_session? settings fun session => congrArg (Dictionary.get? session) same

theorem refl (world : World) : world.Regards work world :=
  of_sessions rfl rfl

theorem trans (first : world.Regards work next) (second : next.Regards work last) :
    world.Regards work last where
  settings := second.settings.trans first.settings
  others session other := (second.others session other).trans (first.others session other)
  made session missing there := by
    by_cases between : next.session? session = none
    · exact second.made session between there
    · exact first.made session missing between

theorem note (world : World) (event : Event) : world.Regards work (world.note event) :=
  of_sessions rfl rfl

theorem changeHandle (world : World) (number : Nat) (change : Handle → Handle) :
    world.Regards work (world.changeHandle number change) :=
  of_sessions rfl rfl

theorem refresh {session : String} (own : work.Concerns session) (world : World) :
    world.Regards work (world.refresh session) where
  settings := by
    unfold World.refresh
    split <;> rfl
  others asked other := by
    rw [session?_refresh, if_neg]
    rintro rfl
    exact other own
  made asked missing there := by
    rw [session?_refresh] at there
    split at there
    · rename_i same
      rw [same, missing] at there
      exact absurd rfl there
    · exact absurd missing there

theorem borrow {number : Nat} (borrows : world.borrow? number = some next) :
    world.Regards work next := by
  rcases borrow?_eq_some borrows with ⟨handle, -, -, rfl⟩
  exact of_sessions rfl rfl

theorem giveBack {number : Nat} (gives : world.giveBack? number = some next) :
    world.Regards work next := by
  rcases Option.bind_eq_some_iff.mp gives with ⟨handle, -, rest⟩
  rcases Option.bind_eq_some_iff.mp rest with ⟨returned, -, done⟩
  obtain rfl := Option.some.inj done
  exact of_sessions rfl rfl

theorem put {session : String} (own : work.Registers session) (world : World) (number : Nat) :
    world.Regards work (world.put session number).2 where
  settings := by
    unfold World.put
    dsimp only
    split <;> rfl
  others asked other := by
    rw [session?_put, if_neg]
    rintro rfl
    exact other own.concerns
  made asked missing there := by
    rw [session?_put] at there
    split at there
    · rename_i same
      exact same ▸ own
    · exact absurd missing there

theorem take {session : String} {cause : Departure} {number : Nat} (own : work.Concerns session)
    (taken : world.take? session cause = some (number, next)) : world.Regards work next := by
  rcases Option.map_eq_some_iff.mp taken with ⟨entry, -, done⟩
  obtain ⟨-, rfl⟩ := Prod.mk.inj done
  have erased (asked : String) : Dictionary.get? asked (Dictionary.erase session world.sessions) =
      if session = asked then none else world.session? asked :=
    Dictionary.get?_erase session asked world.sessions
  refine ⟨rfl, fun asked other => ?_, fun asked missing there => ?_⟩
  · refine (erased asked).trans (if_neg ?_)
    rintro rfl
    exact other own
  · refine absurd ((erased asked).trans ?_) there
    split
    · rfl
    · exact missing

theorem beginStore (world : World) (number : Nat) :
    world.Regards work (world.beginStore number).world := by
  unfold World.beginStore
  split <;> exact of_sessions rfl rfl

theorem beginClose (world : World) (number : Nat) :
    world.Regards work (world.beginClose number).world := by
  have begun : world.Regards work
      ((world.changeHandle number Handle.beginClosing).note (.closing number)) :=
    of_sessions rfl rfl
  unfold World.beginClose
  split
  · exact refl world
  · split
    · exact note world _
    · dsimp only
      split
      · exact begun
      · exact begun.trans (beginStore _ number)

end Regards

/-! ## Time that passes -/

/-- Whoever is evicted, a scan could have taken them out. -/
theorem regards_evict (world : World) (session : String) (limit : Double) :
    world.Regards (.begin .scan) (world.evict session limit).world := by
  unfold World.evict
  split
  · split
    · rename_i number rest taken
      have own : (Work.begin .scan).Concerns session := trivial
      have left : world.Regards (.begin .scan) rest := .take own taken
      have begun : rest.Regards (.begin .scan) (rest.beginClose number).world :=
        .beginClose rest number
      refine left.trans ?_
      dsimp only
      split <;>
        rename_i start <;>
        rw [start] at begun
      · exact begun
      · exact begun
      · exact begun.trans (.changeHandle _ number Handle.shutStore)
      · exact begun
    · exact .refl world
  · exact .refl world

/-- While time passes entries are taken out only. -/
theorem regards_advance (world : World) (span : Time) :
    world.Regards (.begin .scan) (world.advance span) :=
  @holds_advance (world.Regards (.begin .scan))
    (fun session limit before => before.trans (regards_evict _ session limit))
    (fun _ _ before => before.trans (.of_sessions rfl rfl)) world (.refl world) span

end World

/-! ## Parts of turns -/

namespace Machine

variable {machine next : Machine} {label : String} {work : Work}

/-- A part of a turn regards the sessions that the turn concerns. -/
theorem Part.regards (part : Part label work machine next) :
    machine.world.Regards work next.world := by
  cases part with
  | finish | later | addLoan | endLoan =>
      exact .refl machine.world
  | refresh own =>
      exact .refresh own machine.world
  | borrow borrows =>
      exact .borrow borrows
  | giveBack gives =>
      rcases Option.map_eq_some_iff.mp gives with ⟨world, returns, rfl⟩
      dsimp only
      split <;> exact .giveBack returns
  | put number own =>
      exact .put own machine.world number
  | take own taken =>
      exact .take own taken
  | startClose number =>
      rw [world_startClose]
      exact .beginClose machine.world number
  | shutStore number | select number =>
      exact .changeHandle machine.world number _
  | addHandle =>
      exact .of_sessions rfl rfl
  | beside beside =>
      exact .of_sessions beside.settings beside.sessions

theorem Parts.regards (parts : Parts label work machine next) :
    machine.world.Regards work next.world := by
  induction parts with
  | refl =>
      exact .refl machine.world
  | tail _ part ih =>
      exact ih.trans part.regards

/-! ## What is under way -/

/-- The work concerns only such sessions, and registers handles for only such sessions. -/
structure Within (owns makes : String → Prop) (work : Work) : Prop where
  concerns : ∀ session, work.Concerns session → owns session
  registers : ∀ session, work.Registers session → makes session

/-- Whatever is under way is for sessions that its label may deal with and make. -/
def Minds (owns makes : String → String → Prop) (machine : Machine) : Prop :=
  ∀ task ∈ machine.undertaken, Within (owns task.label) (makes task.label) task.work

variable {owns makes : String → String → Prop}

theorem Within.continues {owns makes : String → Prop} {following : Work}
    (within : Within owns makes work) (continues : work.Continues following) :
    Within owns makes following where
  concerns session concerned := within.concerns session (continues.within session concerned)
  registers session registered := within.registers session (continues.registers session registered)

namespace Minds

/-- Nothing is under way but what was, and one task more. -/
theorem of_subperm {task : Task} (minds : machine.Minds owns makes)
    (fewer : next.undertaken.Subperm (task :: machine.undertaken))
    (own : Within (owns task.label) (makes task.label) task.work) : next.Minds owns makes := by
  intro other member
  rcases List.mem_cons.mp (fewer.subset member) with rfl | before
  · exact own
  · exact minds other before

/-- Whoever may deal with more sessions may deal with those. -/
theorem mono {more further : String → String → Prop} (minds : machine.Minds owns makes)
    (owned : ∀ label session, owns label session → more label session)
    (made : ∀ label session, makes label session → further label session) :
    machine.Minds more further := fun task member =>
  ⟨fun session concerned => owned _ _ ((minds task member).concerns session concerned),
    fun session registered => made _ _ ((minds task member).registers session registered)⟩

theorem of_perm (minds : machine.Minds owns makes)
    (same : next.undertaken.Perm machine.undertaken) : next.Minds owns makes :=
  fun task member => minds task (same.subset member)

theorem submit (minds : machine.Minds owns makes) {request : Request}
    (own : Within (owns label) (makes label) (.begin request)) :
    (machine.submit label request).Minds owns makes :=
  minds.of_subperm (machine.undertaken_later label (.begin request)).subperm own

theorem progress (minds : machine.Minds owns makes) (number : Nat) {after : AfterClose}
    (own : ∀ session, after.Concerns session → owns label session) (start : World.CloseStart) :
    (machine.progress label number after start).machine.Minds owns makes := by
  cases start with
  | refused world | closed world =>
      exact minds
  | closing world =>
      have later := (machine.within world).undertaken_later label (.shut number after)
      exact minds.of_subperm later.subperm ⟨own, nofun⟩
  | waiting world =>
      exact minds.of_subperm (machine.undertaken_wait label number after world).subperm ⟨own, nofun⟩

end Minds

/-- A part of a turn leaves nothing under way but what the turn may deal with. -/
theorem Part.minds (part : Part label work machine next) (minds : machine.Minds owns makes)
    (own : Within (owns label) (makes label) work) : next.Minds owns makes := by
  cases part with
  | later continues =>
      exact minds.of_subperm (machine.undertaken_later label _).subperm (own.continues continues)
  | giveBack gives =>
      rcases Option.map_eq_some_iff.mp gives with ⟨world, returns, rfl⟩
      dsimp only
      split
      · exact minds.of_perm (undertaken_wake (machine.within world) _)
      · exact minds
  | startClose number within =>
      exact minds.progress number
        (fun session concerned => own.concerns session (within session concerned)) _
  | addLoan name labelled within =>
      rename_i loan
      refine minds.of_subperm (machine.undertaken_addLoan name loan) ⟨?_, nofun⟩
      intro session concerned
      change owns loan.label session
      rw [labelled]
      exact own.concerns session (within session concerned)
  | endLoan found =>
      exact fun task member => minds task ((undertaken_endLoan found).subset member)
  | _ =>
      exact minds

theorem Parts.minds (parts : Parts label work machine next) (minds : machine.Minds owns makes)
    (own : Within (owns label) (makes label) work) : next.Minds owns makes := by
  induction parts with
  | refl =>
      exact minds
  | tail _ part ih =>
      exact part.minds ih own

/-! ## Turns -/

theorem regards_opening (machine : Machine) (label : String) (work : Work) :
    machine.world.Regards work (machine.opening label work).world := by
  cases work with
  | drained number after =>
      rw [opening, world_progress]
      exact .beginStore machine.world number
  | begin request =>
      cases request with
      | closeStore number =>
          exact .of_sessions rfl rfl
      | _ =>
          exact .refl machine.world
  | _ =>
      exact .refl machine.world

theorem Minds.opening (minds : machine.Minds owns makes)
    (own : Within (owns label) (makes label) work) :
    (machine.opening label work).Minds owns makes := by
  cases work with
  | drained number after =>
      exact minds.progress number own.concerns _
  | begin request =>
      cases request <;> exact minds
  | _ =>
      exact minds

/-- A turn regards the sessions that its work concerns, and leaves nothing for others. -/
theorem Minds.resume (minds : machine.Minds owns makes) {position : Nat} {task : Task}
    (ready : machine.ready[position]? = some task)
    (resumed : machine.resume position = some next) :
    next.Minds owns makes ∧ machine.world.Regards task.work next.world ∧
      Within (owns task.label) (makes task.label) task.work := by
  rcases Option.map_eq_some_iff.mp resumed with ⟨taken, found, rfl⟩
  obtain rfl := Option.some.inj (ready.symm.trans found)
  have picked := undertaken_pick ready
  have own := minds task (picked.symm.subset List.mem_cons_self)
  have remaining : { machine with ready := machine.ready.eraseIdx position }.Minds owns makes :=
    fun other member => minds other (picked.symm.subset (List.mem_cons_of_mem _ member))
  have parts := Parts.perform { machine with ready := machine.ready.eraseIdx position } task.label
    task.work
  have opened := regards_opening { machine with ready := machine.ready.eraseIdx position }
    task.label task.work
  exact ⟨parts.minds (remaining.opening own) own, opened.trans parts.regards, own⟩

end Machine
end DocumentGate.Service
