import DocumentGate.Proofs.Leases
import DocumentGate.Proofs.RoundedSpans

/-!
# What the journal records of sessions

The registry and the handles agree with the journal: who has which handle, how many have
borrowed it, and when the session that has it was active last.  Borrowing a handle and giving
it back count as activity of the session, which the registry notes in the same turn.  So the
journal also tells, for every session that was evicted, how long it had been idle and that
nobody had borrowed its handle.
-/

namespace DocumentGate.Service

/-! ## Activity -/

/-- Whoever has the handle is active: it is registered, asked for, borrowed or given back. -/
def Event.isActivity (handle : Nat) : Event → Bool
  | .registered _ other => other = handle
  | .active _ other => other = handle
  | .borrowed other => other = handle
  | .returned other => other = handle
  | _ => false

section Closing

variable {event : Event} (closing : event.isClosing = true)

include closing

theorem Event.isActivity_of_isClosing (handle : Nat) : event.isActivity handle = false := by
  cases event <;> first | rfl | cases closing

theorem Event.tenant?_of_isClosing (session : String) (had : Option Nat) :
    event.tenant? session had = had := by
  cases event <;> first | rfl | cases closing

theorem Event.count_borrowed_of_isClosing (handle : Nat) :
    [event].count (.borrowed handle) = 0 := by
  cases event <;> first | rfl | cases closing

theorem Event.count_returned_of_isClosing (handle : Nat) :
    [event].count (.returned handle) = 0 := by
  cases event <;> first | rfl | cases closing

end Closing

/-- When whoever has the handle was active last. -/
def lastActive? (handle : Nat) (journal : List Entry) : Option Time :=
  journal.foldl
    (fun found entry => if entry.event.isActivity handle then some entry.time else found) none

theorem lastActive?_concat (handle : Nat) (journal : List Entry) (entry : Entry) :
    lastActive? handle (journal ++ [entry]) =
      if entry.event.isActivity handle then some entry.time else lastActive? handle journal := by
  rw [lastActive?, List.foldl_append]
  rfl

/-- Where the clock never goes back, nothing was later than the last activity. -/
theorem le_lastActive {handle : Nat} {journal : List Entry} {last : Time}
    (ordered : journal.Pairwise fun earlier later => earlier.time ≤ later.time)
    (active : lastActive? handle journal = some last) :
    ∀ entry ∈ journal, entry.event.isActivity handle = true → entry.time ≤ last := by
  induction journal using List.reverseRecOn generalizing last with
  | nil =>
      cases active
  | append_singleton earlier final ih =>
      rcases List.pairwise_append.mp ordered with ⟨before, -, across⟩
      rw [lastActive?_concat] at active
      intro entry member isActive
      split at active
      · obtain rfl := Option.some.inj active
        rcases List.mem_append.mp member with old | new
        · exact across entry old final List.mem_cons_self
        · exact (congrArg Entry.time (List.mem_singleton.mp new)).le
      · rename_i quiet
        rcases List.mem_append.mp member with old | new
        · exact ih before active entry old isActive
        · rw [List.mem_singleton.mp new] at isActive
          exact absurd isActive quiet

/-! ## Evictions -/

/-- A session that leaves for being idle was idle, as far as the journal tells. -/
structure WasIdle (rounding : Time → Time) (before : List Entry) (time : Time) (session : String)
    (handle : Nat) (limit : Double) : Prop where
  current : tenant? session (before.map Entry.event) = some handle
  returned : (before.map Entry.event).count (.borrowed handle) =
    (before.map Entry.event).count (.returned handle)
  overdue : ∃ last, lastActive? handle before = some last ∧
    exceeds (rounding (time - last)) limit = true

/-- Every session that was evicted was idle then. -/
def EvictsIdle (rounding : Time → Time) (journal : List Entry) : Prop :=
  ∀ before after time session handle limit,
    journal = before ++ ⟨time, .left session handle (.evicted limit)⟩ :: after →
      WasIdle rounding before time session handle limit

theorem EvictsIdle.nil (rounding : Time → Time) : EvictsIdle rounding [] := by
  intro before after time session handle limit split
  simp at split

theorem EvictsIdle.concat {rounding : Time → Time} {journal : List Entry}
    (evicts : EvictsIdle rounding journal) {entry : Entry}
    (idle : ∀ session handle limit, entry.event = .left session handle (.evicted limit) →
      WasIdle rounding journal entry.time session handle limit) :
    EvictsIdle rounding (journal ++ [entry]) := by
  intro before after time session handle limit split
  rcases List.eq_nil_or_concat after with rfl | ⟨earlier, last, rfl⟩
  · obtain ⟨rfl, now⟩ := List.append_inj' split rfl
    obtain rfl := (List.cons.inj now).1
    exact idle session handle limit rfl
  · rw [List.concat_eq_append, ← List.cons_append, ← List.append_assoc] at split
    exact evicts before earlier time session handle limit (List.append_inj' split rfl).1

/-! ## Recorded worlds -/

namespace World

/-- How many have borrowed the handle of a number. -/
def borrowersOf (world : World) (number : Nat) : Nat :=
  ((world.handle? number).map Handle.borrowers).getD 0

theorem isBusy_eq (world : World) (number : Nat) :
    world.isBusy number = (world.borrowersOf number != 0) := by
  unfold isBusy borrowersOf
  cases world.handle? number <;> rfl

theorem borrowersOf_of_keeps (world : World) (number : Nat) {change : Handle → Handle}
    (keeps : ∀ handle, (change handle).borrowers = handle.borrowers) (asked : Nat) :
    (world.changeHandle number change).borrowersOf asked = world.borrowersOf asked := by
  unfold borrowersOf
  rw [handle?_changeHandle]
  split
  · cases world.handle? asked with
    | none =>
        rfl
    | some handle =>
        exact keeps handle
  · rfl

/-- How many have borrowed a handle when it was changed. -/
theorem borrowersOf_changeHandle (world : World) (number asked : Nat) {change : Handle → Handle}
    {handle : Handle} (found : world.handle? number = some handle) :
    (world.changeHandle number change).borrowersOf asked =
      if number = asked then (change handle).borrowers else world.borrowersOf asked := by
  unfold borrowersOf
  rw [handle?_changeHandle]
  split
  · rename_i same
    rw [← same, found]
    rfl
  · rfl

theorem borrowersOf_addHandle (world : World) {handle : Handle} (unused : handle.borrowers = 0)
    (asked : Nat) : (world.addHandle handle).2.borrowersOf asked = world.borrowersOf asked := by
  unfold borrowersOf
  rw [handle?_addHandle]
  split
  · rename_i last
    simp [last, handle?, unused]
  · rfl

/--
The registry and the handles are as the journal tells.  While an operation is in the middle of
borrowing a handle or giving it back, the activity of the session that has it is pending.
-/
structure Recorded (world : World) (pending : Option Nat) : Prop where
  registry : ∀ session, world.handleOf? session = tenant? session world.history
  single : ∀ {handle : Nat} {session other : String},
    .registered session handle ∈ world.history → .registered other handle ∈ world.history →
      session = other
  counted : ∀ number, world.history.count (.borrowed number) =
    world.history.count (.returned number) + world.borrowersOf number
  latest : ∀ session entry, world.session? session = some entry → pending ≠ some entry.handle →
    lastActive? entry.handle world.journal = some entry.lastActivity
  evictsIdle : EvictsIdle world.rounding world.journal

namespace Recorded

variable {world next : World} {pending : Option Nat} {number : Nat} {session : String}

/-- The session that has a handle is the one that it was registered for. -/
theorem registered (recorded : world.Recorded pending)
    (has : world.handleOf? session = some number) :
    .registered session number ∈ world.history :=
  registered_of_tenant ((recorded.registry session).symm.trans has)

/-- No two sessions have the same handle. -/
theorem injective (recorded : world.Recorded pending) {other : String}
    (has : world.handleOf? session = some number) (also : world.handleOf? other = some number) :
    session = other :=
  recorded.single (recorded.registered has) (recorded.registered also)

/-- What the journal tells stays right when an event has its place. -/
theorem step (recorded : world.Recorded pending) {event : Event} {others : Option Nat}
    (journal : next.journal = world.journal ++ [⟨world.now, event⟩])
    (rounding : next.rounding = world.rounding)
    (registry : ∀ session, next.handleOf? session = event.tenant? session (world.handleOf? session))
    (fresh : ∀ session handle, event = .registered session handle →
      ∀ other, .registered other handle ∉ world.history)
    (counted : ∀ number, [event].count (.borrowed number) + world.borrowersOf number =
      [event].count (.returned number) + next.borrowersOf number)
    (latest : ∀ session entry, next.session? session = some entry → others ≠ some entry.handle →
      lastActive? entry.handle (world.journal ++ [⟨world.now, event⟩]) = some entry.lastActivity)
    (idle : ∀ session handle limit, event = .left session handle (.evicted limit) →
      WasIdle world.rounding world.journal world.now session handle limit) :
    next.Recorded others := by
  have history : next.history = world.history ++ [event] := by
    simp [World.history, journal]
  refine ⟨?_, ?_, ?_, ?_, ?_⟩
  · intro session
    rw [history, tenant?_concat, ← recorded.registry, registry]
  · intro handle session other first second
    rw [history, List.mem_append, List.mem_singleton] at first second
    rcases first with old | new
    · rcases second with also | new
      · exact recorded.single old also
      · exact absurd old (fresh other handle new.symm session)
    · rcases second with old | also
      · exact absurd old (fresh session handle new.symm other)
      · exact (Event.registered.inj (new.trans also.symm)).1
  · intro number
    have before := recorded.counted number
    have change := counted number
    rw [history, List.count_append, List.count_append]
    omega
  · rw [journal]
    exact latest
  · rw [journal, rounding]
    exact recorded.evictsIdle.concat idle

/-- An event that is no activity of a handle leaves what was its latest. -/
theorem latest_concat (recorded : world.Recorded pending) {event : Event}
    (entries : ∀ session, next.session? session = world.session? session)
    (quiet : ∀ handle, pending ≠ some handle → event.isActivity handle = false) :
    ∀ session entry, next.session? session = some entry → pending ≠ some entry.handle →
      lastActive? entry.handle (world.journal ++ [⟨world.now, event⟩]) =
        some entry.lastActivity := by
  intro session entry found settled
  rw [entries] at found
  rw [lastActive?_concat, if_neg]
  · exact recorded.latest session entry found settled
  · exact Bool.eq_false_iff.mp (quiet entry.handle settled)

/-! ## Deeds -/

/-- A handle may change, if its borrowers stay. -/
theorem change (recorded : world.Recorded pending) (number : Nat) {change : Handle → Handle}
    (keeps : ∀ handle, (change handle).borrowers = handle.borrowers) :
    (world.changeHandle number change).Recorded pending := by
  refine { recorded with counted := fun asked => ?_ }
  rw [borrowersOf_of_keeps world number keeps asked]
  exact recorded.counted asked

theorem note (recorded : world.Recorded pending) {event : Event}
    (closing : event.isClosing = true) : (world.note event).Recorded pending := by
  refine recorded.step rfl rfl ?_ ?_ ?_ ?_ ?_
  · intro session
    exact (Event.tenant?_of_isClosing closing session _).symm
  · rintro session handle rfl
    cases closing
  · intro number
    rw [Event.count_borrowed_of_isClosing closing, Event.count_returned_of_isClosing closing]
    rfl
  · exact recorded.latest_concat (fun _ => rfl)
      fun handle _ => Event.isActivity_of_isClosing closing handle
  · rintro session handle limit rfl
    cases closing

/-- The session that has a handle is active, and nothing is pending any more. -/
theorem refresh (recorded : world.Recorded pending)
    (whose : ∀ number, pending = some number → world.handleOf? session = some number) :
    (world.refresh session).Recorded none := by
  unfold World.refresh
  split
  · rename_i entry found
    refine recorded.step rfl rfl ?_ nofun ?_ ?_ nofun
    · intro asked
      rw [handleOf?_note, handleOf?_insert]
      split
      · rename_i same
        rw [← same]
        exact (handleOf?_eq_some found).symm
      · rfl
    · intro number
      simp [borrowersOf]
      rfl
    · intro asked other present _
      rw [lastActive?_concat]
      have stands : (if session = asked then some { entry with lastActivity := world.now }
          else world.session? asked) = some other := by
        rw [← present]
        exact (Dictionary.get?_insert session asked _ world.sessions).symm
      split at stands
      · obtain rfl := Option.some.inj stands
        exact if_pos (by simp [Event.isActivity])
      · rename_i elsewhere
        have different : entry.handle ≠ other.handle := by
          intro same
          refine elsewhere (recorded.injective (handleOf?_eq_some found) ?_)
          rw [handleOf?_eq_some stands, same]
        rw [if_neg (by simpa [Event.isActivity] using different)]
        refine recorded.latest asked other stands fun pends => elsewhere ?_
        exact recorded.injective (whose other.handle pends) (handleOf?_eq_some stands)
  · rename_i missing
    cases pending with
    | none =>
        exact recorded
    | some number =>
        have has := whose number rfl
        rw [handleOf?, missing] at has
        cases has

/-- Nothing is pending for a handle that nobody has. -/
theorem settle (recorded : world.Recorded pending)
    (free : ∀ number, pending = some number → ∀ session, world.handleOf? session ≠ some number) :
    world.Recorded none := by
  refine { recorded with latest := fun session entry found _ => ?_ }
  refine recorded.latest session entry found fun pends => ?_
  exact free entry.handle pends session (handleOf?_eq_some found)

/-- Lending a handle or taking it back leaves the activity of its session pending. -/
theorem exchange (recorded : world.Recorded none) {handle changed : Handle} {event : Event}
    (found : world.handle? number = some handle)
    (kind : event = .borrowed number ∨ event = .returned number)
    (counts : [event].count (.borrowed number) + handle.borrowers =
      [event].count (.returned number) + changed.borrowers) :
    ((world.changeHandle number fun _ => changed).note event).Recorded (some number) := by
  refine recorded.step rfl rfl ?_ ?_ ?_ ?_ ?_
  · intro session
    rcases kind with rfl | rfl
    · rfl
    · rfl
  · rintro session handle rfl
    simp at kind
  · intro asked
    have counted : ((world.changeHandle number fun _ => changed).note event).borrowersOf asked =
        if number = asked then changed.borrowers else world.borrowersOf asked :=
      borrowersOf_changeHandle world number asked found
    rw [counted]
    split
    · rename_i same
      subst same
      simpa [borrowersOf, found] using counts
    · rename_i other
      have elsewhere : event.handle ≠ asked := by
        rcases kind with rfl | rfl
        · exact other
        · exact other
      rw [Event.count_singleton_of_ne (.borrowed asked) elsewhere,
        Event.count_singleton_of_ne (.returned asked) elsewhere]
  · intro session entry present settled
    rw [lastActive?_concat, if_neg]
    · exact recorded.latest session entry present nofun
    · rcases kind with rfl | rfl
      · simpa [Event.isActivity] using settled
      · simpa [Event.isActivity] using settled
  · rintro session handle limit rfl
    simp at kind

theorem borrow (recorded : world.Recorded none) (borrowed : world.borrow? number = some next) :
    next.Recorded (some number) := by
  rcases borrow?_eq_some borrowed with ⟨handle, found, -, rfl⟩
  exact recorded.exchange found (Or.inl rfl) (by simp [Nat.add_comm])

theorem handleOf?_borrow? (borrowed : world.borrow? number = some next) (session : String) :
    next.handleOf? session = world.handleOf? session := by
  rcases borrow?_eq_some borrowed with ⟨handle, -, -, rfl⟩
  rfl

theorem giveBack (recorded : world.Recorded none) (returned : world.giveBack? number = some next) :
    next.Recorded (some number) := by
  rcases Option.bind_eq_some_iff.mp returned with ⟨handle, found, rest⟩
  rcases Option.bind_eq_some_iff.mp rest with ⟨lent, gives, done⟩
  obtain rfl := Option.some.inj done
  have fewer : lent.borrowers + 1 = handle.borrowers := by
    unfold Handle.giveBack? at gives
    split at gives
    · cases gives
    · rename_i borrowed
      rw [← Option.some.inj gives]
      exact Nat.succ_pred_eq_of_ne_zero borrowed
  exact recorded.exchange found (Or.inr rfl) (by simp [← fewer, Nat.add_comm])

/-- Giving a handle back is an activity of the session that it was registered for. -/
theorem refreshFor (recorded : world.Recorded (some number))
    (registered : .registered session number ∈ world.history) :
    (world.refreshFor session number).Recorded none := by
  have free : world.handleOf? session ≠ some number → ∀ other,
      world.handleOf? other ≠ some number := by
    intro gone other has
    exact gone (recorded.single registered (recorded.registered has) ▸ has)
  have whose : world.handleOf? session = some number → ∀ asked, some number = some asked →
      world.handleOf? session = some asked := by
    rintro has _ ⟨⟩
    exact has
  have settled : world.handleOf? session ≠ some number → world.Recorded none := by
    intro gone
    refine recorded.settle ?_
    rintro _ ⟨⟩
    exact free gone
  unfold World.refreshFor
  split
  · rename_i entry found
    split
    · rename_i same
      exact recorded.refresh (whose (same ▸ handleOf?_eq_some found))
    · rename_i other
      refine settled fun has => other ?_
      exact Option.some.inj ((handleOf?_eq_some found).symm.trans has)
  · rename_i missing
    refine settled fun has => ?_
    rw [handleOf?, missing] at has
    cases has

/-- An entry that takes the place of another one leaves the entries of other sessions. -/
theorem enroll (recorded : world.Recorded none) (session : String)
    (fresh : ∀ other, .registered other number ∉ world.history) :
    ({ world with sessions := Dictionary.insert session ⟨number, world.now⟩ world.sessions }.note
      (.registered session number)).Recorded none := by
  refine recorded.step rfl rfl ?_ ?_ ?_ ?_ nofun
  · intro asked
    rw [handleOf?_note, handleOf?_insert]
    rfl
  · rintro _ _ ⟨⟩
    exact fresh
  · intro asked
    rfl
  · intro asked entry present _
    rw [lastActive?_concat]
    have stands : (if session = asked then some ⟨number, world.now⟩ else world.session? asked) =
        some entry := by
      rw [← present]
      exact (Dictionary.get?_insert session asked _ world.sessions).symm
    split at stands
    · obtain rfl := Option.some.inj stands
      exact if_pos (by simp [Event.isActivity])
    · have different : number ≠ entry.handle := by
        rintro rfl
        exact fresh asked (recorded.registered (handleOf?_eq_some stands))
      rw [if_neg (by simpa [Event.isActivity] using different)]
      exact recorded.latest asked entry stands nofun

theorem put (recorded : world.Recorded none)
    (fresh : ∀ other, .registered other number ∉ world.history) :
    (world.put session number).2.Recorded none := by
  have registered := recorded.enroll session fresh
  unfold World.put
  dsimp only
  split
  · refine registered.step rfl rfl ?_ nofun ?_ ?_ ?_
    · intro asked
      simp
    · intro asked
      rfl
    · exact registered.latest_concat (fun _ => rfl) fun handle _ => rfl
    · rintro _ _ _ ⟨⟩
  · exact registered

/-- A session that is evicted is idle. -/
theorem wasIdle (recorded : world.Recorded none) {limit : Double}
    (idle : world.isIdle session limit = true) (has : world.handleOf? session = some number) :
    WasIdle world.rounding world.journal world.now session number limit := by
  rcases Option.map_eq_some_iff.mp has with ⟨entry, found, rfl⟩
  simp only [isIdle, found, Bool.and_eq_true, Bool.not_eq_true', isBusy_eq, bne_eq_false_iff_eq]
    at idle
  have settled : none ≠ some entry.handle := (Option.some_ne_none entry.handle).symm
  refine ⟨?_, ?_, entry.lastActivity, recorded.latest session entry found settled, idle.2⟩
  · exact (recorded.registry session).symm.trans has
  · have counted := recorded.counted entry.handle
    rw [idle.1] at counted
    exact counted

theorem take {cause : Departure} (recorded : world.Recorded none) (ended : cause ≠ .replaced)
    (idle : ∀ limit, cause = .evicted limit → world.isIdle session limit = true)
    (taken : world.take? session cause = some (number, next)) : next.Recorded none := by
  have has := (take?_eq_some taken).1
  have registry := (take?_eq_some taken).2.2.2
  rcases Option.map_eq_some_iff.mp taken with ⟨entry, found, same⟩
  obtain ⟨rfl, rfl⟩ := Prod.mk.inj same
  refine recorded.step rfl rfl ?_ nofun (fun _ => rfl) ?_ ?_
  · intro asked
    rw [registry asked]
    simp [ended]
  · intro asked other present _
    rw [lastActive?_concat, if_neg (by simp [Event.isActivity])]
    have stands : (if session = asked then none else world.session? asked) = some other := by
      rw [← present]
      exact (Dictionary.get?_erase session asked world.sessions).symm
    split at stands
    · cases stands
    · exact recorded.latest asked other stands nofun
  · rintro _ _ limit ⟨⟩
    exact recorded.wasIdle (idle limit rfl) has

theorem addHandle (recorded : world.Recorded none) {handle : Handle}
    (unused : handle.borrowers = 0) : (world.addHandle handle).2.Recorded none := by
  refine { recorded with counted := fun asked => ?_ }
  rw [borrowersOf_addHandle world unused asked]
  exact recorded.counted asked

end Recorded

theorem kept_recorded : Kept fun world => world.Recorded none where
  deed deed recorded := by
    cases deed with
    | refresh session =>
        exact recorded.refresh nofun
    | lease leased =>
        rcases lease_eq_ok leased with ⟨has, borrowed, borrows, rfl⟩
        refine (recorded.borrow borrows).refresh ?_
        rintro _ ⟨⟩
        rw [Recorded.handleOf?_borrow? borrows]
        exact has
    | giveBack registered gives =>
        have kept := (Passes.giveBack gives).history.subset registered
        exact (recorded.giveBack gives).refreshFor kept
    | put session fresh =>
        exact recorded.put fresh
    | take ended idle taken =>
        exact recorded.take ended idle taken
    | tidy tidies =>
        cases tidies with
        | change number keeps =>
            exact recorded.change number keeps
        | note closing =>
            exact recorded.note closing
    | addHandle unused =>
        exact recorded.addHandle unused
    | beside clusters given reporting =>
        exact { recorded with }
  wait now recorded := { recorded with }
  tend reapers recorded := { recorded with }

end World
end DocumentGate.Service
