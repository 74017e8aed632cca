import DocumentGate.Proofs.Ground

/-!
# What turns do to a world

Whatever an operation does in its turn, it does by a few deeds on the world: a session becomes
active, its handle is borrowed or given back, a handle is registered or taken out, and handles
change in ways that leave their borrowers alone.  `World.Deed` is one of them, with what can be
relied on when it is done.  Who gives a handle back knows the session that it was registered
for, and only sessions that are idle are evicted.

Reapers are made, started and stopped in turns of their own.  So a property of worlds that each
deed keeps holds through every turn, if tending to reapers keeps it too.
-/

namespace DocumentGate.Service

/-- What happens belongs to the closing of a handle. -/
def Event.isClosing : Event → Bool
  | .closing _ => true
  | .closingAgain _ => true
  | .storeClosing _ => true
  | _ => false

namespace World

/-- A new handle comes after all others. -/
theorem handle?_addHandle (world : World) (handle : Handle) (asked : Nat) :
    (world.addHandle handle).2.handle? asked =
      if asked = world.handles.length then some handle else world.handle? asked := by
  unfold addHandle handle?
  split
  · rename_i last
    simp [last]
  · rename_i other
    rcases Nat.lt_or_gt_of_ne other with earlier | later
    · exact List.getElem?_append_left earlier
    · rw [List.getElem?_eq_none (by simp; omega), List.getElem?_eq_none (by omega)]

theorem session?_refresh (world : World) (session asked : String) :
    (world.refresh session).session? asked =
      if session = asked then
        (world.session? session).map fun entry => { entry with lastActivity := world.now }
      else world.session? asked := by
  unfold refresh
  split
  · rename_i entry found
    rw [found]
    exact Dictionary.get?_insert session asked _ world.sessions
  · rename_i missing
    split
    · rename_i same
      rw [← same, missing]
      rfl
    · rfl

theorem session?_refreshFor (world : World) (session asked : String) (number : Nat) :
    (world.refreshFor session number).session? asked =
      if session = asked ∧ world.handleOf? session = some number then
        (world.session? session).map fun entry => { entry with lastActivity := world.now }
      else world.session? asked := by
  unfold refreshFor
  split
  · rename_i entry found
    rw [handleOf?_eq_some found]
    split
    · rename_i same
      rw [session?_refresh, found]
      simp [same]
    · rename_i other
      simp [other]
  · rename_i missing
    simp [handleOf?, missing]

@[simp]
theorem handle?_refreshFor (world : World) (session : String) (number asked : Nat) :
    (world.refreshFor session number).handle? asked = world.handle? asked := by
  unfold refreshFor
  split
  · split
    · exact world.handle?_refresh session asked
    · rfl
  · rfl

theorem session?_put (world : World) (session asked : String) (number : Nat) :
    (world.put session number).2.session? asked =
      if session = asked then some ⟨number, world.now⟩ else world.session? asked := by
  have inserted := Dictionary.get?_insert session asked (⟨number, world.now⟩ : Session)
    world.sessions
  unfold put
  dsimp only
  split <;> exact inserted

@[simp]
theorem handle?_put (world : World) (session : String) (number asked : Nat) :
    (world.put session number).2.handle? asked = world.handle? asked := by
  unfold put
  dsimp only
  split <;> rfl

/-! ## Deeds -/

/-- What closing a handle does: the handle changes, and its borrowers stay. -/
inductive Tidies (world : World) : World → Prop where
  | change (number : Nat) {change : Handle → Handle}
      (keeps : ∀ handle, (change handle).borrowers = handle.borrowers) :
      Tidies world (world.changeHandle number change)
  | note {event : Event} (closing : event.isClosing = true) : Tidies world (world.note event)

/-- What is done to a world at one moment. -/
inductive Deed (world : World) : World → Prop where
  | refresh (session : String) : Deed world (world.refresh session)
  | lease {session : String} {number : Nat} {next : World}
      (leased : world.lease session = .ok (number, next)) : Deed world next
  /-- A handle is given back for the session that it was registered for. -/
  | giveBack {session : String} {number : Nat} {returned : World}
      (registered : .registered session number ∈ world.history)
      (gives : world.giveBack? number = some returned) :
      Deed world (returned.refreshFor session number)
  /-- A handle is registered for the first time. -/
  | put (session : String) {number : Nat}
      (fresh : ∀ other, .registered other number ∉ world.history) :
      Deed world (world.put session number).2
  /-- A session is taken out, and if it is evicted, it is idle. -/
  | take {session : String} {cause : Departure} {number : Nat} {next : World}
      (ended : cause ≠ .replaced)
      (idle : ∀ limit, cause = .evicted limit → world.isIdle session limit = true)
      (taken : world.take? session cause = some (number, next)) : Deed world next
  | tidy {next : World} (tidies : world.Tidies next) : Deed world next
  | addHandle {handle : Handle} (unused : handle.borrowers = 0) :
      Deed world (world.addHandle handle).2
  /-- Nothing of sessions and handles changes. -/
  | beside (clusters : Clusters) (given : Identified.Given) (reporting : Bool) :
      Deed world { world with clusters := clusters, given := given, reporting := reporting }

/-- What is done to a world by one deed after the other. -/
abbrev Did : World → World → Prop :=
  Relation.ReflTransGen Deed

/-- What is done to a world by closing handles. -/
abbrev Tidied : World → World → Prop :=
  Relation.ReflTransGen Tidies

theorem Tidied.did {world next : World} (tidied : world.Tidied next) : world.Did next :=
  Relation.ReflTransGen.lift id (fun _ _ => Deed.tidy) _ _ tidied

/-- What is done to the reapers of a world. -/
inductive Tends (world : World) : World → Prop where
  | nothing : Tends world world
  | make {idleLimit interval : Double} {next : World}
      (made : world.makeReaper idleLimit interval = .ok next) : Tends world next
  | start (number : Nat) : Tends world (world.startReaper number)
  | stop (number : Nat) : Tends world (world.stopReaper number)

/-! ## What deeds leave as it is -/

/-- The clock, how it rounds, and the reapers are the same. -/
structure SameClock (world next : World) : Prop where
  now : next.now = world.now
  rounding : next.rounding = world.rounding
  reapers : next.reapers = world.reapers

theorem SameClock.trans {world next last : World} (first : SameClock world next)
    (second : SameClock next last) : SameClock world last :=
  ⟨second.now.trans first.now, second.rounding.trans first.rounding,
    second.reapers.trans first.reapers⟩

/-- What happened before is not forgotten, and no deed takes time. -/
structure Passes (world next : World) : Prop where
  clock : SameClock world next
  settings : next.settings = world.settings
  journal : world.journal <+: next.journal

namespace Passes

variable {world next last : World}

theorem refl (world : World) : Passes world world :=
  ⟨⟨rfl, rfl, rfl⟩, rfl, List.prefix_refl _⟩

theorem trans (first : Passes world next) (second : Passes next last) : Passes world last :=
  ⟨first.clock.trans second.clock, second.settings.trans first.settings,
    first.journal.trans second.journal⟩

theorem history (passes : Passes world next) : world.history <+: next.history :=
  passes.journal.map Entry.event

theorem note (world : World) (event : Event) : Passes world (world.note event) :=
  ⟨⟨rfl, rfl, rfl⟩, rfl, List.prefix_append _ _⟩

theorem change (world : World) (number : Nat) (change : Handle → Handle) :
    Passes world (world.changeHandle number change) :=
  ⟨⟨rfl, rfl, rfl⟩, rfl, List.prefix_refl _⟩

/-- The entries of the registry do not matter. -/
theorem register (world : World) (sessions : Dictionary Session) :
    Passes world { world with sessions := sessions } :=
  ⟨⟨rfl, rfl, rfl⟩, rfl, List.prefix_refl _⟩

theorem refresh (world : World) (session : String) : Passes world (world.refresh session) := by
  unfold World.refresh
  split
  · exact (register world _).trans (.note _ _)
  · exact .refl world

theorem refreshFor (world : World) (session : String) (number : Nat) :
    Passes world (world.refreshFor session number) := by
  unfold World.refreshFor
  split
  · split
    · exact .refresh world session
    · exact .refl world
  · exact .refl world

theorem borrow {number : Nat} (borrowed : world.borrow? number = some next) :
    Passes world next := by
  rcases borrow?_eq_some borrowed with ⟨handle, -, -, rfl⟩
  exact (change world number _).trans (.note _ _)

theorem giveBack {number : Nat} (returned : world.giveBack? number = some next) :
    Passes world next := by
  rcases Option.bind_eq_some_iff.mp returned with ⟨handle, -, rest⟩
  rcases Option.bind_eq_some_iff.mp rest with ⟨lent, -, done⟩
  obtain rfl := Option.some.inj done
  exact (change world number _).trans (.note _ _)

theorem lease {session : String} {number : Nat}
    (leased : world.lease session = .ok (number, next)) : Passes world next := by
  rcases lease_eq_ok leased with ⟨-, borrowed, borrows, rfl⟩
  exact (borrow borrows).trans (.refresh borrowed session)

theorem put (world : World) (session : String) (number : Nat) :
    Passes world (world.put session number).2 := by
  unfold World.put
  dsimp only
  split
  · exact ((register world _).trans (.note _ _)).trans (.note _ _)
  · exact (register world _).trans (.note _ _)

theorem take {session : String} {cause : Departure} {number : Nat}
    (taken : world.take? session cause = some (number, next)) : Passes world next := by
  rcases Option.map_eq_some_iff.mp taken with ⟨entry, -, same⟩
  rw [← (Prod.mk.inj same).2]
  exact (register world _).trans (.note _ _)

end Passes

variable {world next : World}

theorem Deed.passes (deed : world.Deed next) : Passes world next := by
  cases deed with
  | refresh session =>
      exact .refresh world session
  | lease leased =>
      exact .lease leased
  | giveBack registered gives =>
      exact (Passes.giveBack gives).trans (.refreshFor _ _ _)
  | put session fresh =>
      exact .put world session _
  | take ended idle taken =>
      exact .take taken
  | tidy tidies =>
      cases tidies with
      | change number keeps =>
          exact .change world number _
      | note closing =>
          exact .note world _
  | addHandle unused =>
      exact ⟨⟨rfl, rfl, rfl⟩, rfl, List.prefix_refl _⟩
  | beside clusters given reporting =>
      exact ⟨⟨rfl, rfl, rfl⟩, rfl, List.prefix_refl _⟩

theorem Did.passes (did : world.Did next) : Passes world next := by
  induction did with
  | refl =>
      exact .refl world
  | tail _ deed ih =>
      exact ih.trans deed.passes

/-- Nothing but the reapers differs. -/
theorem Tends.eq (tends : world.Tends next) :
    next = { world with reapers := next.reapers } := by
  cases tends with
  | nothing =>
      rfl
  | make made =>
      rcases makeReaper_eq_ok made with ⟨-, -, rfl⟩
      rfl
  | start number =>
      rfl
  | stop number =>
      rfl

/-! ## Closing and evicting by deeds -/

theorem tidied_shutStore (world : World) (number : Nat) :
    world.Tidied (world.shutStore number) := by
  refine .single (.change number fun handle => ?_)
  unfold Handle.shutStore
  split <;> rfl

theorem tidied_beginStore (world : World) (number : Nat) :
    world.Tidied (world.beginStore number).world := by
  unfold beginStore
  split
  · have tried : world.Tidies (world.changeHandle number Handle.tryStore) :=
      .change number fun handle => rfl
    exact (Relation.ReflTransGen.single tried).tail (.note rfl)
  · have closed : world.Tidies (world.changeHandle number Handle.closeStore) := by
      refine .change number fun handle => ?_
      unfold Handle.closeStore Handle.shutStore
      split <;> rfl
    exact (Relation.ReflTransGen.single closed).tail (.note rfl)

theorem tidied_beginClose (world : World) (number : Nat) :
    world.Tidied (world.beginClose number).world := by
  unfold beginClose
  split
  · exact .refl
  · split
    · exact .single (.note rfl)
    · have refusing : world.Tidies (world.changeHandle number Handle.beginClosing) :=
        .change number fun handle => rfl
      have closing : Event.isClosing (.closing number) = true := rfl
      have begun := (Relation.ReflTransGen.single refusing).tail (.note closing)
      dsimp only
      split
      · exact begun
      · exact begun.trans (tidied_beginStore _ number)

theorem did_removed {session : String} {number : Nat}
    (taken : world.take? session .removed = some (number, next)) : world.Did next :=
  .single (.take Departure.noConfusion (fun _ => Departure.noConfusion) taken)

theorem did_evicted {session : String} {limit : Double} {number : Nat}
    (idle : world.isIdle session limit = true)
    (taken : world.take? session (.evicted limit) = some (number, next)) : world.Did next := by
  refine .single (.take Departure.noConfusion ?_ taken)
  rintro _ ⟨⟩
  exact idle

/-- A scan looks at every session that is idle. -/
theorem mem_overdue_of_isIdle {session : String} {limit : Double}
    (idle : world.isIdle session limit = true) : session ∈ world.overdue limit := by
  unfold isIdle at idle
  split at idle
  · rename_i entry found
    have among := (Dictionary.cons_erase_subperm found).subset List.mem_cons_self
    have longer := (Bool.and_eq_true_iff.mp idle).2
    exact List.mem_map.mpr ⟨_, List.mem_filter.mpr ⟨among, longer⟩, rfl⟩
  · cases idle

/-- A session that is idle is taken out and its handle is closed; any other one stays. -/
theorem evict_cases (world : World) (session : String) (limit : Double) :
    (world.isIdle session limit = false ∧ (world.evict session limit).world = world) ∨
      (world.isIdle session limit = true ∧ ∃ number rest,
        world.take? session (.evicted limit) = some (number, rest) ∧
          rest.Tidied (world.evict session limit).world) := by
  unfold evict
  split
  · rename_i idle
    split
    · rename_i number rest taken
      have begun := tidied_beginClose rest number
      refine Or.inr ⟨idle, number, rest, taken, ?_⟩
      dsimp only
      split <;>
        rename_i started <;>
        rw [started] at begun
      · exact begun
      · exact begun
      · exact begun.trans (tidied_shutStore _ number)
      · exact begun
    · rename_i missing
      have absent : world.session? session = none := Option.map_eq_none_iff.mp missing
      simp [isIdle, absent] at idle
  · rename_i active
    exact Or.inl ⟨Bool.eq_false_iff.mpr active, rfl⟩

theorem did_evict (world : World) (session : String) (limit : Double) :
    world.Did (world.evict session limit).world := by
  rcases world.evict_cases session limit with ⟨-, same⟩ | ⟨idle, number, rest, taken, tidied⟩
  · rw [same]
  · exact (did_evicted idle taken).trans tidied.did

theorem did_evictAll (limit : Double) (sessions : List String) (world : World) :
    world.Did (world.evictAll limit sessions).2 :=
  holds_evictAll (fun session limit before => before.trans (did_evict _ session limit)) limit
    sessions .refl

/-! ## Properties that deeds keep -/

/-- Deeds keep the property, and so does whatever happens to the clock and the reapers. -/
structure Kept (holds : World → Prop) : Prop where
  deed : ∀ {world next : World}, world.Deed next → holds world → holds next
  wait : ∀ {world : World} (now : Time), holds world → holds { world with now := now }
  tend : ∀ {world : World} (reapers : List Reaper),
    holds world → holds { world with reapers := reapers }

namespace Kept

variable {holds : World → Prop} (kept : Kept holds)

include kept

theorem did (before : holds world) (did : world.Did next) : holds next := by
  induction did with
  | refl =>
      exact before
  | tail _ deed ih =>
      exact kept.deed deed ih

theorem tends (before : holds world) (tends : world.Tends next) : holds next := by
  rw [tends.eq]
  exact kept.tend next.reapers before

theorem runDue (before : holds world) (number : Nat) (due : Time) :
    holds (world.runDue number due) :=
  holds_runDue (fun session limit before => kept.did before (did_evict _ session limit))
    (fun now reapers before => kept.tend reapers (kept.wait now before)) before number due

theorem advance (before : holds world) (span : Time) : holds (world.advance span) :=
  holds_advance (fun session limit before => kept.did before (did_evict _ session limit))
    (fun now reapers before => kept.tend reapers (kept.wait now before)) before span

end Kept

theorem Kept.and {holds also : World → Prop} (kept : Kept holds) (other : Kept also) :
    Kept fun world => holds world ∧ also world where
  deed deed before := ⟨kept.deed deed before.1, other.deed deed before.2⟩
  wait now before := ⟨kept.wait now before.1, other.wait now before.2⟩
  tend reapers before := ⟨kept.tend reapers before.1, other.tend reapers before.2⟩

theorem kept_rounding (rounding : Time → Time) : Kept fun world => world.rounding = rounding where
  deed deed before := deed.passes.clock.rounding.trans before
  wait _ before := before
  tend _ before := before

theorem kept_settings (settings : Settings) : Kept fun world => world.settings = settings where
  deed deed before := deed.passes.settings.trans before
  wait _ before := before
  tend _ before := before

/-- What was written down is never lost. -/
theorem kept_journal (journal : List Entry) : Kept fun world => journal <+: world.journal where
  deed deed before := before.trans deed.passes.journal
  wait _ before := before
  tend _ before := before

/-- What happened before is never forgotten. -/
theorem kept_prefix (history : List Event) : Kept fun world => history <+: world.history where
  deed deed before := before.trans deed.passes.history
  wait _ before := before
  tend _ before := before

end World
end DocumentGate.Service
