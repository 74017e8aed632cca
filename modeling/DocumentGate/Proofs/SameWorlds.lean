import DocumentGate.Proofs.Ground

/-!
# Worlds that are the same but for a session

Two worlds are compared by their clusters, by every handle that was ever made and by the
sessions with their handles.  Leasing a handle borrows it once more and makes its session
active, and giving it back restores it, so that both together leave all of that as it was
but for the time when the session was last active.
-/

namespace DocumentGate.Service

/-- The handle with one borrower more. -/
def lentOnce (handle : Handle) : Handle :=
  handle.lend

namespace World

/--
The same clusters, handles and sessions are in both worlds.  Only when the one session was
last active may differ, and what is kept beside them: the clock, the journal and the number
of identities that were given.
-/
structure SameBut (session : String) (before after : World) : Prop where
  clusters : after.clusters = before.clusters
  handles : after.handles = before.handles
  /-- The same sessions are registered, in the same order and with the same handles. -/
  registered : after.sessions.map (Prod.map id Session.handle) =
    before.sessions.map (Prod.map id Session.handle)
  /-- Every other session was last active at the same time. -/
  others : ∀ other, other ≠ session → after.session? other = before.session? other

/-- A handle is borrowed once more in the second world, and nothing else differs. -/
structure Lent (session : String) (number : Nat) (before after : World) : Prop where
  present : ∃ handle, before.handle? number = some handle
  same : (before.changeHandle number lentOnce).SameBut session after

/-- A handle that was borrowed once more is restored where it is given back. -/
theorem giveBack?_of_lentOnce {world : World} {number : Nat} {handle : Handle}
    (borrowed : world.handle? number = some (lentOnce handle)) :
    world.giveBack? number =
      some ((world.changeHandle number fun _ => handle).note (.returned number)) := by
  rw [giveBack?, borrowed, lentOnce]
  simp [Handle.giveBack?_lend]

variable {session : String} {before between after : World} {number : Nat}

namespace SameBut

theorem refl (session : String) (world : World) : world.SameBut session world :=
  ⟨rfl, rfl, rfl, fun _ _ => rfl⟩

theorem trans (first : before.SameBut session between) (last : between.SameBut session after) :
    before.SameBut session after where
  clusters := last.clusters.trans first.clusters
  handles := last.handles.trans first.handles
  registered := last.registered.trans first.registered
  others other different := (last.others other different).trans (first.others other different)

theorem refresh (session : String) (world : World) :
    world.SameBut session (world.refresh session) := by
  unfold World.refresh
  split
  · rename_i entry found
    constructor
    · rfl
    · rfl
    · exact Dictionary.map_insert_of_get? found Session.handle rfl
    · intro other different
      exact (Dictionary.get?_insert session other _ world.sessions).trans
        (if_neg different.symm)
  · exact .refl session world

theorem refreshFor (session : String) (number : Nat) (world : World) :
    world.SameBut session (world.refreshFor session number) := by
  unfold World.refreshFor
  split
  · split
    · exact .refresh session world
    · exact .refl session world
  · exact .refl session world

/-- Changing the same handle in both worlds makes no difference. -/
theorem changeHandle (same : before.SameBut session after) (number : Nat)
    (change : Handle → Handle) :
    (before.changeHandle number change).SameBut session (after.changeHandle number change) where
  clusters := same.clusters
  handles := congrArg (·.modify number change) same.handles
  registered := same.registered
  others := same.others

end SameBut

/-- Changes that make the same of a handle make the same of its list. -/
theorem modify_congr {handles : List Handle} {number : Nat} {first other : Handle → Handle}
    (alike : ∀ handle, handles[number]? = some handle → first handle = other handle) :
    handles.modify number first = handles.modify number other := by
  apply List.ext_getElem?
  intro position
  rw [List.getElem?_modify, List.getElem?_modify]
  cases found : handles[position]? with
  | none =>
      rfl
  | some handle =>
      by_cases here : number = position
      · subst here
        simp [alike handle found]
      · simp [here]

/-- The handle that a session leases is borrowed once more. -/
theorem lent_of_lease (leased : before.lease session = .ok (number, after)) :
    before.Lent session number after := by
  rcases lease_eq_ok leased with ⟨-, borrowed, borrows, rfl⟩
  rcases borrow?_eq_some borrows with ⟨handle, there, -, rfl⟩
  refine ⟨⟨handle, there⟩, SameBut.trans ?_ (.refresh session _)⟩
  constructor
  · rfl
  · apply modify_congr
    intro other same
    obtain rfl := Option.some.inj (there.symm.trans same)
    rfl
  · rfl
  · exact fun _ _ => rfl

namespace Lent

theorem of_same (lent : between.Lent session number after)
    (same : before.SameBut session between) : before.Lent session number after where
  present := by
    rcases lent.present with ⟨handle, found⟩
    refine ⟨handle, ?_⟩
    rw [← found, handle?, handle?, same.handles]
  same := (same.changeHandle number lentOnce).trans lent.same

theorem then_same (lent : before.Lent session number between)
    (same : between.SameBut session after) : before.Lent session number after :=
  ⟨lent.present, lent.same.trans same⟩

theorem handle?_eq (lent : before.Lent session number after) :
    ∃ handle, before.handle? number = some handle ∧
      after.handle? number = some (lentOnce handle) := by
  rcases lent.present with ⟨handle, found⟩
  refine ⟨handle, found, ?_⟩
  have changed := before.handle?_changeHandle_self number lentOnce
  rw [found, handle?, ← lent.same.handles] at changed
  exact changed

/-- Giving the handle back leaves nothing that differs. -/
theorem giveBack (lent : before.Lent session number after) {returned : World}
    (returns : after.giveBack? number = some returned) : before.SameBut session returned := by
  rcases lent.handle?_eq with ⟨handle, found, borrowed⟩
  obtain rfl := Option.some.inj ((giveBack?_of_lentOnce borrowed).symm.trans returns)
  have restored : (after.changeHandle number fun _ => handle).handles = before.handles := by
    rw [changeHandle, lent.same.handles, changeHandle, List.modify_modify_eq]
    refine (modify_congr ?_).trans (List.modify_id number before.handles)
    intro other same
    exact Option.some.inj (found.symm.trans same)
  constructor
  · exact lent.same.clusters
  · exact restored
  · exact lent.same.registered
  · exact lent.same.others

end Lent

end World

end DocumentGate.Service
