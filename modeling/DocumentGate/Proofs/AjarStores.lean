import DocumentGate.Proofs.Leases

/-!
# Stores that are ajar

Closing a slow store takes two turns, and between them the store is ajar: closing has begun and is
not done.  Whatever else is done to a world leaves no store ajar that was not before, time passing
included, since a scan that is due does both at once.
-/

namespace DocumentGate

theorem Backend.isClosed_close (backend : Backend) : backend.close.isClosed = true := by
  cases backend with
  | memory cluster default closed =>
      rfl
  | tables connection =>
      unfold close isClosed Postgres.Connection.close
      dsimp only
      split
      · rename_i already
        exact already
      · rfl

/-- Closing the store was tried and can be done, and it is not closed. -/
structure Handle.IsAjar (handle : Handle) : Prop where
  begun : handle.storeClosings ≠ 0
  closable : handle.manner ≠ .storeFails
  notClosed : handle.backend.isClosed = false

theorem Handle.not_isAjar_shutStore (handle : Handle) : ¬handle.shutStore.IsAjar := by
  intro ajar
  have closable := ajar.closable
  have notClosed := ajar.notClosed
  unfold shutStore at closable notClosed
  split at closable
  · rename_i fails
    exact closable fails
  · rename_i sound
    rw [if_neg sound, Backend.isClosed_close] at notClosed
    cases notClosed

namespace Service

namespace World

/-- Closing the store of the handle has begun and is not done. -/
def IsAjar (world : World) (number : Nat) : Prop :=
  ∃ handle, world.handle? number = some handle ∧ handle.IsAjar

/-- No store is ajar that was not before. -/
def Secures (world next : World) : Prop :=
  ∀ number, next.IsAjar number → world.IsAjar number

namespace Secures

variable {world next last : World} {session : String} {number : Nat}

theorem refl (world : World) : world.Secures world :=
  fun _ => id

theorem trans (first : world.Secures next) (second : next.Secures last) : world.Secures last :=
  fun number ajar => first number (second number ajar)

theorem of_handle? (same : ∀ number, next.handle? number = world.handle? number) :
    world.Secures next := by
  rintro number ⟨handle, found, ajar⟩
  exact ⟨handle, (same number).symm.trans found, ajar⟩

theorem of_handles (same : next.handles = world.handles) : world.Secures next :=
  of_handle? fun number => congrArg (·[number]?) same

theorem change {change : Handle → Handle}
    (harmless : ∀ handle, world.handle? number = some handle →
      (change handle).IsAjar → handle.IsAjar) :
    world.Secures (world.changeHandle number change) := by
  rintro asked ⟨changed, found, ajar⟩
  rw [handle?_changeHandle] at found
  split at found
  · rename_i same
    subst same
    rcases Option.map_eq_some_iff.mp found with ⟨handle, there, rfl⟩
    exact ⟨handle, there, harmless handle there ajar⟩
  · exact ⟨changed, found, ajar⟩

/-- Changes of a handle that have nothing to do with its store. -/
theorem adjust {change : Handle → Handle}
    (closings : ∀ handle, world.handle? number = some handle →
      (change handle).storeClosings = handle.storeClosings)
    (manner : ∀ handle, world.handle? number = some handle →
      (change handle).manner = handle.manner)
    (backend : ∀ handle, world.handle? number = some handle →
      (change handle).backend = handle.backend) :
    world.Secures (world.changeHandle number change) :=
  Secures.change fun handle there ajar =>
    ⟨closings handle there ▸ ajar.begun, manner handle there ▸ ajar.closable,
      backend handle there ▸ ajar.notClosed⟩

theorem note (world : World) (event : Event) : world.Secures (world.note event) :=
  of_handles rfl

theorem refresh (world : World) (session : String) : world.Secures (world.refresh session) :=
  of_handle? (handle?_refresh world session)

theorem select (world : World) (number : Nat) (database : String) :
    world.Secures (world.changeHandle number (·.select database)) :=
  adjust (fun _ _ => rfl) (fun _ _ => rfl) fun _ _ => rfl

theorem borrow (borrowed : world.borrow? number = some next) : world.Secures next := by
  rcases borrow?_eq_some borrowed with ⟨handle, found, -, rfl⟩
  refine trans (adjust ?_ ?_ ?_) (note _ _) <;>
    intro other there <;>
    rw [Option.some.inj (found.symm.trans there)] <;>
    rfl

theorem giveBack (returned : world.giveBack? number = some next) : world.Secures next := by
  rcases Option.bind_eq_some_iff.mp returned with ⟨handle, found, rest⟩
  rcases Option.bind_eq_some_iff.mp rest with ⟨lent, gives, done⟩
  obtain rfl := Option.some.inj done
  unfold Handle.giveBack? at gives
  split at gives
  · cases gives
  · obtain rfl := Option.some.inj gives
    refine trans (adjust ?_ ?_ ?_) (note _ _) <;>
      intro other there <;>
      rw [Option.some.inj (found.symm.trans there)] <;>
      rfl

theorem put (world : World) (session : String) (number : Nat) :
    world.Secures (world.put session number).2 :=
  of_handle? (handle?_put world session number)

theorem take {cause : Departure} (taken : world.take? session cause = some (number, next)) :
    world.Secures next :=
  of_handles (take?_eq_some taken).2.1

/-- Closing the store of a fresh handle was not tried. -/
theorem addHandle (world : World) {handle : Handle} (fresh : handle.IsFresh) :
    world.Secures (world.addHandle handle).2 := by
  rintro number ⟨found, there, ajar⟩
  rw [handle?_addHandle] at there
  split at there
  · obtain rfl := Option.some.inj there
    exact absurd fresh.storeClosings ajar.begun
  · exact ⟨found, there, ajar⟩

theorem shutStore (world : World) (number : Nat) : world.Secures (world.shutStore number) :=
  change fun handle _ ajar => absurd ajar handle.not_isAjar_shutStore

theorem closeStore (world : World) (number : Nat) : world.Secures (world.closeStore number) :=
  (change fun handle _ ajar => absurd ajar handle.tryStore.not_isAjar_shutStore).trans (note _ _)

theorem beginClosing (world : World) (number : Nat) :
    world.Secures ((world.changeHandle number Handle.beginClosing).note (.closing number)) := by
  refine trans (adjust ?_ ?_ ?_) (note _ _) <;>
    intro handle _ <;>
    rfl

end Secures

variable {world : World}

/-- A store that was shut is not ajar. -/
theorem not_isAjar_shutStore (world : World) (number : Nat) :
    ¬(world.shutStore number).IsAjar number := by
  rintro ⟨shut, found, ajar⟩
  rw [World.shutStore, handle?_changeHandle_self] at found
  rcases Option.map_eq_some_iff.mp found with ⟨handle, -, rfl⟩
  exact handle.not_isAjar_shutStore ajar

/-- No store is ajar that was not before, but one that is closed in a turn of its own. -/
def CloseStart.Secures (world : World) (number : Nat) : CloseStart → Prop
  | .refused next => world.Secures next
  | .closed next => world.Secures next
  | .closing next => ∀ asked, next.IsAjar asked → asked = number ∨ world.IsAjar asked
  | .waiting next => world.Secures next

theorem CloseStart.Secures.after {before : World} {number : Nat} {start : CloseStart}
    (first : before.Secures world) (second : start.Secures world number) :
    start.Secures before number := by
  cases start with
  | closing next =>
      exact fun asked ajar => (second asked ajar).imp_right (first asked)
  | refused next =>
      exact first.trans second
  | closed next =>
      exact first.trans second
  | waiting next =>
      exact first.trans second

theorem secures_beginStore (world : World) (number : Nat) :
    (world.beginStore number).Secures world number := by
  unfold beginStore
  split
  · rintro asked ⟨tried, found, ajar⟩
    rw [handle?_note, handle?_changeHandle] at found
    split at found
    · rename_i same
      exact Or.inl same.symm
    · exact Or.inr ⟨tried, found, ajar⟩
  · exact .closeStore world number

theorem secures_beginClose (world : World) (number : Nat) :
    (world.beginClose number).Secures world number := by
  unfold beginClose
  split
  · exact Secures.refl world
  · split
    · exact Secures.note world _
    · dsimp only
      split
      · exact Secures.beginClosing world number
      · exact (secures_beginStore _ number).after (.beginClosing world number)

/-! ## Scans that are due -/

theorem Secures.evict (world : World) (session : String) (limit : Double) :
    world.Secures (world.evict session limit).world := by
  unfold World.evict
  split
  · split
    · rename_i number rest taken
      have left := Secures.take taken
      have begun := secures_beginClose rest number
      dsimp only
      split <;>
        rename_i next start <;>
        rw [start] at begun
      · exact left.trans begun
      · exact left.trans begun
      -- what `beginClose` leaves ajar is shut at the same moment
      · refine left.trans fun asked ajar => ?_
        rcases begun asked (Secures.shutStore next number asked ajar) with rfl | before
        · exact absurd ajar (next.not_isAjar_shutStore asked)
        · exact before
      · exact left.trans begun
    · exact .refl world
  · exact .refl world

theorem Secures.advance (world : World) (span : Time) : world.Secures (world.advance span) :=
  holds_advance (fun session limit before => before.trans (.evict _ session limit))
    (fun _ _ before => before.trans (.of_handles rfl)) (.refl world) span

end World

end Service
end DocumentGate
