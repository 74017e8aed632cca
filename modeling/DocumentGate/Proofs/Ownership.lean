import DocumentGate.Proofs.Runs

/-!
# Who owns a handle

Two guarantees hold of every machine that can be reached, whatever the sessions, the
operations and the order of their turns.

No store is used after it was closed: closing a store begins when every lease on its
handle has been given back, nobody is granted a lease after closing has begun, and so no
operation ever meets a closed store.

Every handle has one owner: it is registered for the session that it was registered for
at first, or it has left the registry once, and whoever took it out closed it at once and
for the only time.
-/

namespace DocumentGate.Service

/-! ## What the journal tells -/

/-- The journal tells how often a handle was borrowed and how often its store was closed. -/
structure World.IsTold (world : World) (number : Nat) (handle : Handle) : Prop where
  borrowers : world.history.count (.borrowed number) =
    world.history.count (.returned number) + handle.borrowers
  closing : handle.closing = true ↔ .closing number ∈ world.history
  storeClosings : handle.storeClosings = world.history.count (.storeClosing number)
  closed : handle.backend.isClosed = true → .storeClosing number ∈ world.history

namespace World.Orderly

variable {world : World} {burdens : List Burden} {number : Nat}

theorem isTold (orderly : world.Orderly burdens) {handle : Handle}
    (found : world.handle? number = some handle) : world.IsTold number handle := by
  rcases orderly.lives number with ⟨phase, lived, fits⟩
  have described := fits.described handle found
  refine ⟨?_, ?_, ?_, ?_⟩
  · rw [lived.count_borrowed, described.borrowers]
  · rw [← List.count_pos_iff, lived.count_closing, described.closing]
    cases phase <;> simp
  · rw [lived.count_storeClosing, described.storeClosings]
  · intro closed
    rw [← List.count_pos_iff, lived.count_storeClosing, described.closed closed]
    exact Nat.one_pos

/-- Whoever has taken a handle out of the registry closes it at once. -/
theorem closing_after_left (orderly : world.Orderly burdens) (settled : Settled burdens)
    {session : String} {cause : Departure} (left : .left session number cause ∈ world.history) :
    ∃ before after,
      world.history = before ++ .left session number cause :: .closing number :: after := by
  rcases List.append_of_mem left with ⟨before, rest, split⟩
  cases rest with
  | nil =>
      have released := orderly.last (.left session number cause) (by simp [split]) number
        (by simp [Event.leaves])
      exact absurd released (settled number)
  | cons event after =>
      have prompt := orderly.prompt
      rw [split, List.isChain_append] at prompt
      have next : event = .closing number :=
        (List.isChain_cons_cons.mp prompt.2.1).1 number (by simp [Event.leaves])
      exact ⟨before, after, next ▸ split⟩

/-- A handle that has left the registry has left the session that it was registered for. -/
theorem left_of_registered (orderly : world.Orderly burdens) {session : String}
    (registered : .registered session number ∈ world.history)
    (gone : 0 < world.history.countP (Event.leaves number)) :
    ∃ cause, .left session number cause ∈ world.history := by
  rcases orderly.lives number with ⟨phase, lived, -⟩
  rcases List.countP_pos_iff.mp gone with ⟨event, member, leaves⟩
  cases event with
  | left other handle cause =>
      obtain rfl : handle = number := by
        simpa [Event.leaves] using leaves
      have same :=
        (lived.session?_of_left member).symm.trans (lived.session?_of_registered registered)
      exact ⟨cause, Option.some.inj same ▸ member⟩
  | _ =>
      cases leaves

end World.Orderly

namespace Machine

variable {machine : Machine}

/-! ## No use after closing -/

/-- No store is used after closing it has begun. -/
structure ClosesUnused (machine : Machine) : Prop where
  /-- When closing a store begins, every lease on its handle was given back before. -/
  returned : ∀ handle before after,
    machine.world.history = before ++ .storeClosing handle :: after →
      before.count (.borrowed handle) = before.count (.returned handle) ∧
        .closing handle ∈ before
  /-- Nobody is granted a lease after closing a handle has begun. -/
  refused : ∀ handle before after,
    machine.world.history = before ++ .closing handle :: after → .borrowed handle ∉ after
  /-- The store of a lease that an operation has still to give back is open. -/
  held : ∀ handle, .lease handle ∈ machine.burdens →
    ∃ found, machine.world.handle? handle = some found ∧ found.borrowers ≠ 0 ∧
      found.backend.isClosed = false ∧ .storeClosing handle ∉ machine.world.history
  /-- No operation of the service fails because the store is closed. -/
  served : ∀ label, (label, .fault (.backend .closed)) ∉ machine.answers
  told : ∀ handle found, machine.world.handle? handle = some found →
    machine.world.IsTold handle found

/--
Closing a store never begins while a lease on its handle is outstanding, no lease is
granted after closing has begun, and no operation ever meets a closed store.
-/
theorem Reachable.closesUnused (reachable : machine.Reachable) : machine.ClosesUnused where
  returned handle before after split := by
    rcases reachable.sound.orderly.lives handle with ⟨phase, lived, -⟩
    exact lived.returned_before_storeClosing split
  refused handle before after split := by
    rcases reachable.sound.orderly.lives handle with ⟨phase, lived, -⟩
    exact lived.not_borrowed_after_closing split
  held handle lease := by
    rcases reachable.sound.orderly.lives handle with ⟨phase, lived, fits⟩
    rcases fits.open_of_lease lease with ⟨found, there, isOpen, borrowed⟩
    refine ⟨found, there, borrowed, isOpen, ?_⟩
    rw [← List.count_eq_zero, lived.count_storeClosing]
    have unclosed : phase.borrowers ≠ 0 := (fits.described found there).borrowers ▸ borrowed
    cases phase <;> simp_all
  served label closed :=
    reachable.sound.served _ closed rfl
  told handle found there := reachable.sound.orderly.isTold there

/-- A session that was leased and ended, and whose lease was given back after that. -/
def endedWhileLeased : Machine :=
  let leased := ((atFirst.registering "red").afterTurn.submit "lease"
    (.lease "red" "open" none)).afterTurn
  let ended := (leased.submit "end" (.endSession "red")).afterTurn
  (ended.submit "return" (.endLease "open")).afterTurn.afterTurn.afterTurn

theorem endedWhileLeased_reachable : endedWhileLeased.Reachable := by
  have registered := (atFirst_reachable.registering "red").afterTurn
  have leased := (registered.submit "lease" (.lease "red" "open" none) rfl).afterTurn
  have ended := (leased.submit "end" (.endSession "red") rfl).afterTurn
  exact (ended.submit "return" (.endLease "open") rfl).afterTurn.afterTurn.afterTurn

theorem endedWhileLeased_closesUnused :
    endedWhileLeased.world.history =
        [.registered "red" 0, .borrowed 0, .active "red" 0, .left "red" 0 .removed, .closing 0,
          .returned 0, .storeClosing 0] ∧
      endedWhileLeased.ClosesUnused :=
  ⟨by decide, endedWhileLeased_reachable.closesUnused⟩

/-! ## One owner for each handle -/

/-- The session has the handle, nobody else has it, and it was never taken out. -/
structure Keeps (machine : Machine) (session : String) (handle : Nat) : Prop where
  home : ∀ other, machine.world.handleOf? other = some handle ↔ other = session
  leaves : machine.world.history.countP (Event.leaves handle) = 0
  closing : .closing handle ∉ machine.world.history

/-- The handle was taken out of the registry once, and closed at once and only then. -/
structure HasClosed (machine : Machine) (session : String) (handle : Nat) : Prop where
  home : ∀ other, machine.world.handleOf? other ≠ some handle
  leaves : machine.world.history.countP (Event.leaves handle) = 1
  closing : machine.world.history.count (.closing handle) = 1
  owner : ∃ cause before after, machine.world.history =
    before ++ .left session handle cause :: .closing handle :: after

/-- The handle of the session is open, and all others that it had are closed or closing. -/
structure KeepsOnly (machine : Machine) (session : String) (current : Nat) : Prop where
  home : machine.world.handleOf? session = some current
  registered : .registered session current ∈ machine.world.history
  /-- Of the handles that were registered for the session, the current one is open. -/
  isOpen : ∀ handle, .registered session handle ∈ machine.world.history →
    ∃ found, machine.world.handle? handle = some found ∧
      (found.closing = false ↔ handle = current)
  /-- The stores of the others are closed, unless an operation has still to see to them. -/
  closed : ∀ handle, .registered session handle ∈ machine.world.history → handle ≠ current →
    (∀ burden ∈ machine.burdens, burden.handle ≠ handle) →
      machine.world.history.count (.storeClosing handle) = 1

/-- Every handle that was registered has one owner, who closes it. -/
structure OwnsHandles (machine : Machine) : Prop where
  /-- No handle that is registered is closing. -/
  accepting : ∀ session handle, machine.world.handleOf? session = some handle →
    ∃ found, machine.world.handle? handle = some found ∧ found.closing = false
  /-- A handle is where it was registered, or it was taken out and closed by its owner. -/
  placed : ∀ session handle, .registered session handle ∈ machine.world.history →
    machine.Keeps session handle ∨ machine.HasClosed session handle
  /-- A handle is registered once and its store closed once; closing is never asked for twice. -/
  once : ∀ handle, machine.world.history.countP (Event.registers handle) ≤ 1 ∧
    machine.world.history.count (.storeClosing handle) ≤ 1 ∧
      .closingAgain handle ∉ machine.world.history
  /-- Of the handles of a session that nobody ended, the registered one is open. -/
  replaced : ∀ session, (∃ handle, .registered session handle ∈ machine.world.history) →
    (∀ handle cause, .left session handle cause ∈ machine.world.history → cause = .replaced) →
      ∃ current, machine.KeepsOnly session current
  told : ∀ handle found, machine.world.handle? handle = some found →
    machine.world.IsTold handle found

namespace Sound

variable (sound : machine.Sound [])

include sound

theorem accepting {session : String} {handle : Nat}
    (has : machine.world.handleOf? session = some handle) :
    ∃ found, machine.world.handle? handle = some found ∧ found.closing = false := by
  rcases sound.orderly.lives handle with ⟨phase, lived, fits⟩
  rcases fits.eq_registered has with ⟨borrowers, rfl⟩
  rcases fits.present (Or.inl rfl) with ⟨found, there⟩
  exact ⟨found, there, (fits.described found there).closing⟩

theorem placed {session : String} {handle : Nat}
    (registered : .registered session handle ∈ machine.world.history) :
    machine.Keeps session handle ∨ machine.HasClosed session handle := by
  rcases sound.orderly.lives handle with ⟨phase, lived, fits⟩
  have known := lived.session?_of_registered registered
  have leaves := lived.countP_leaves
  have closings := lived.count_closing
  have closed : 0 < machine.world.history.countP (Event.leaves handle) →
      ∃ cause before after, machine.world.history =
        before ++ .left session handle cause :: .closing handle :: after := by
    intro gone
    rcases sound.orderly.left_of_registered registered gone with ⟨cause, left⟩
    exact ⟨cause, sound.orderly.closing_after_left machine.settled_burdens left⟩
  cases phase with
  | made =>
      cases known
  | registered other borrowers =>
      obtain rfl : other = session := Option.some.inj known
      refine Or.inl ⟨fun asked => ?_, leaves, List.count_eq_zero.mp closings⟩
      simpa [eq_comm] using fits.home asked
  | released other borrowers =>
      have released : machine.burdens.count (.released handle) = 1 := fits.needs.released
      rw [List.count_eq_zero_of_not_mem (machine.settled_burdens handle)] at released
      cases released
  | closing other borrowers =>
      refine Or.inr ⟨fun asked => ?_, leaves, closings, closed (leaves ▸ Nat.one_pos)⟩
      simpa using fits.home asked
  | closed other =>
      refine Or.inr ⟨fun asked => ?_, leaves, closings, closed (leaves ▸ Nat.one_pos)⟩
      simpa using fits.home asked

theorem keepsOnly {session : String} {current : Nat}
    (has : machine.world.handleOf? session = some current) : machine.KeepsOnly session current where
  home := has
  registered := registered_of_tenant ((sound.orderly.registry session).symm.trans has)
  isOpen handle registered := by
    rcases sound.orderly.lives handle with ⟨phase, lived, fits⟩
    have known := lived.session?_of_registered registered
    have made : phase.registrations = 0 := by
      cases phase with
      | made =>
          cases known
      | _ =>
          rfl
    rcases fits.present (Or.inl made) with ⟨found, there⟩
    refine ⟨found, there, ?_⟩
    constructor
    · intro isOpen
      rcases sound.placed registered with keeps | closed
      · exact Option.some.inj (((keeps.home session).mpr rfl).symm.trans has)
      · have begun := (sound.orderly.isTold there).closing.mpr
          (List.count_pos_iff.mp (closed.closing ▸ Nat.one_pos))
        exact absurd (isOpen.symm.trans begun) Bool.false_ne_true
    · rintro rfl
      rcases sound.accepting has with ⟨same, again, isOpen⟩
      exact (Option.some.inj (there.symm.trans again)) ▸ isOpen
  closed handle registered other free := by
    rcases sound.placed registered with keeps | closed
    · exact absurd (Option.some.inj (((keeps.home session).mpr rfl).symm.trans has)) other
    · rcases sound.orderly.lives handle with ⟨phase, lived, fits⟩
      have begun := lived.count_closing
      rw [closed.closing] at begun
      have spent : phase.closings = 0 := by
        rw [← fits.needs.closings]
        have waiting := List.count_eq_zero_of_not_mem
          fun member => free (.waiting handle) member rfl
        have drained := List.count_eq_zero_of_not_mem
          fun member => free (.drained handle) member rfl
        simp [waiting, drained]
      rw [lived.count_storeClosing]
      omega

end Sound

/--
No registered handle is closing; every handle that was registered is still there for its
session, or has left the registry once and was closed at once and once; and of the
handles of a session that nobody ended the registered one is open.
-/
theorem Reachable.ownsHandles (reachable : machine.Reachable) : machine.OwnsHandles where
  accepting session handle has := reachable.sound.accepting has
  placed session handle registered := reachable.sound.placed registered
  once handle := by
    rcases reachable.sound.orderly.lives handle with ⟨phase, lived, -⟩
    refine ⟨?_, ?_, ?_⟩
    · exact Nat.le_of_add_right_le lived.countP_registers.le
    · rw [lived.count_storeClosing]
      cases phase <;> simp
    · exact List.count_eq_zero.mp lived.count_closingAgain
  replaced session registered kept := by
    rcases registered with ⟨handle, registered⟩
    rcases exists_tenant registered kept with ⟨current, tenant⟩
    have has := (reachable.sound.orderly.registry session).trans tenant
    exact ⟨current, reachable.sound.keepsOnly has⟩
  told handle found there := reachable.sound.orderly.isTold there

/-- Two connections that were opened for one session at once. -/
def connectedTwice : Machine :=
  ((atFirst.registering "red").registering "red").afterTurn.afterTurn

theorem connectedTwice_reachable : connectedTwice.Reachable :=
  ((atFirst_reachable.registering "red").registering "red").afterTurn.afterTurn

theorem connectedTwice_ownsHandles :
    connectedTwice.world.history =
        [.registered "red" 0, .registered "red" 1, .left "red" 0 .replaced, .closing 0,
          .storeClosing 0] ∧
      connectedTwice.OwnsHandles :=
  ⟨by decide, connectedTwice_reachable.ownsHandles⟩

end Machine
end DocumentGate.Service
