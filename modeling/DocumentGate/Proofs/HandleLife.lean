import DocumentGate.Service.World
import Mathlib.Data.List.Chain

/-!
# The life of a handle

A handle is made, is registered for one session, leaves the registry, refuses everybody
who wants to borrow it from then on, and has its store closed when the last borrower has
returned it.  `Phase.Moves` says which events have their place in which phase of such a
life, and `Life` that a history leads a handle to a phase through events of that kind.

What can be read off a life are the counts of its events, and their order: nobody borrows
a handle that is closing, and its store is closed when everything was returned.
-/

namespace DocumentGate.Service

/-! ## Events -/

/-- The handle that something happens to. -/
@[simp]
def Event.handle : Event → Nat
  | .registered _ handle => handle
  | .active _ handle => handle
  | .left _ handle _ => handle
  | .borrowed handle => handle
  | .returned handle => handle
  | .closing handle => handle
  | .closingAgain handle => handle
  | .storeClosing handle => handle

/-- The handle is registered for some session. -/
def Event.registers (handle : Nat) : Event → Bool
  | .registered _ other => other = handle
  | _ => false

/-- The handle leaves the registry. -/
def Event.leaves (handle : Nat) : Event → Bool
  | .left _ other _ => other = handle
  | _ => false

/-- The handle that a session has after an event. -/
@[simp]
def Event.tenant? (session : String) (had : Option Nat) : Event → Option Nat
  | .registered other handle => if other = session then some handle else had
  | .left other _ cause => if other = session ∧ cause ≠ .replaced then none else had
  | _ => had

/-- The handle that a session has after a history. -/
def tenant? (session : String) (history : List Event) : Option Nat :=
  history.foldl (Event.tenant? session) none

/-- A handle that left the registry begins to close in the next event. -/
def Event.Before (earlier later : Event) : Prop :=
  ∀ handle, earlier.leaves handle = true → later = .closing handle

/-! ## Phases -/

/-- How far a handle has come. -/
inductive Phase where
  | made
  | registered (session : String) (borrowers : Nat)
  /-- The handle has left the registry, and closing has to begin. -/
  | released (session : String) (borrowers : Nat)
  | closing (session : String) (borrowers : Nat)
  /-- Closing the store has begun. -/
  | closed (session : String)
deriving DecidableEq

namespace Phase

/-- How many have borrowed the handle. -/
@[simp]
def borrowers : Phase → Nat
  | .registered _ borrowers => borrowers
  | .released _ borrowers => borrowers
  | .closing _ borrowers => borrowers
  | _ => 0

/-- The session that the handle was registered for. -/
@[simp]
def session? : Phase → Option String
  | .made => none
  | .registered session _ => some session
  | .released session _ => some session
  | .closing session _ => some session
  | .closed session => some session

/-- The session that the handle is registered for. -/
@[simp]
def home? : Phase → Option String
  | .registered session _ => some session
  | _ => none

/-- The handle refuses new borrowers. -/
@[simp]
def refuses : Phase → Bool
  | .closing _ _ => true
  | .closed _ => true
  | _ => false

/-- How often the handle may still be registered. -/
@[simp]
def registrations : Phase → Nat
  | .made => 1
  | _ => 0

/-- How often the handle has left the registry without closing yet. -/
@[simp]
def releases : Phase → Nat
  | .released _ _ => 1
  | _ => 0

/-- How often the store has still to be closed. -/
@[simp]
def closings : Phase → Nat
  | .closing _ _ => 1
  | _ => 0

/-- How often closing the store was tried. -/
@[simp]
def storeClosings : Phase → Nat
  | .closed _ => 1
  | _ => 0

end Phase

/-! ## Lives -/

/-- An event that has its place in a phase, and the phase after it. -/
inductive Phase.Moves (handle : Nat) : Phase → Event → Phase → Prop where
  /-- What happens to another handle does not matter. -/
  | elsewhere {phase event} (other : event.handle ≠ handle) : Moves handle phase event phase
  | register {session} :
      Moves handle .made (.registered session handle) (.registered session 0)
  | act {session borrowers} :
      Moves handle (.registered session borrowers) (.active session handle)
        (.registered session borrowers)
  | borrow {session borrowers} :
      Moves handle (.registered session borrowers) (.borrowed handle)
        (.registered session (borrowers + 1))
  | giveBack {session borrowers} :
      Moves handle (.registered session (borrowers + 1)) (.returned handle)
        (.registered session borrowers)
  | leave {session borrowers cause} :
      Moves handle (.registered session borrowers) (.left session handle cause)
        (.released session borrowers)
  | close {session borrowers} :
      Moves handle (.released session borrowers) (.closing handle) (.closing session borrowers)
  | giveBackLate {session borrowers} :
      Moves handle (.closing session (borrowers + 1)) (.returned handle)
        (.closing session borrowers)
  | closeStore {session} :
      Moves handle (.closing session 0) (.storeClosing handle) (.closed session)

/-- A history that leads a handle to a phase, each event having its place. -/
inductive Life (handle : Nat) : List Event → Phase → Prop where
  | made : Life handle [] .made
  | event {history phase event following}
      (lived : Life handle history phase) (moves : phase.Moves handle event following) :
      Life handle (history ++ [event]) following

/-! ## Sessions that nobody ends -/

@[simp]
theorem tenant?_concat (session : String) (history : List Event) (event : Event) :
    tenant? session (history ++ [event]) = event.tenant? session (tenant? session history) := by
  simp [tenant?]

/-- The handle that a session has was registered for it. -/
theorem registered_of_tenant {session : String} {history : List Event} {current : Nat}
    (has : tenant? session history = some current) : .registered session current ∈ history := by
  induction history using List.reverseRecOn with
  | nil =>
      cases has
  | append_singleton earlier event ih =>
      rw [tenant?_concat] at has
      refine List.mem_append.mpr ?_
      cases event with
      | registered other new =>
          by_cases same : other = session
          · obtain rfl : new = current := by
              simpa [same] using has
            exact Or.inr (by simp [same])
          · exact Or.inl (ih (by simpa [same] using has))
      | left other old cause =>
          by_cases gone : other = session ∧ cause ≠ .replaced
          · simp [gone] at has
          · exact Or.inl (ih (by simpa [gone] using has))
      | _ =>
          exact Or.inl (ih has)

/-- A session has one of the handles that were registered for it, unless one was taken out. -/
theorem exists_tenant {session : String} {history : List Event} {handle : Nat}
    (registered : .registered session handle ∈ history)
    (kept : ∀ handle cause, .left session handle cause ∈ history → cause = .replaced) :
    ∃ current, tenant? session history = some current := by
  induction history using List.reverseRecOn with
  | nil =>
      cases registered
  | append_singleton earlier event ih =>
      have before : .registered session handle ∈ earlier →
          ∃ current, tenant? session earlier = some current :=
        fun member => ih member fun handle cause left =>
          kept handle cause (List.mem_append_left _ left)
      rw [tenant?_concat]
      rcases List.mem_append.mp registered with first | now
      · rcases before first with ⟨current, has⟩
        cases event with
        | registered other new =>
            by_cases same : other = session <;> simp [same, has]
        | left other old cause =>
            refine ⟨current, ?_⟩
            have replaced : other = session → cause = .replaced := by
              rintro rfl
              exact kept old cause (by simp)
            simpa [has] using replaced
        | _ =>
            exact ⟨current, has⟩
      · rw [← List.mem_singleton.mp now]
        exact ⟨handle, by simp⟩

/-! ## What a life says about its history -/

theorem Event.count_singleton_of_ne {event : Event} (wanted : Event)
    (other : event.handle ≠ wanted.handle) : [event].count wanted = 0 := by
  rw [List.count_singleton, if_neg]
  rw [beq_iff_eq]
  rintro rfl
  exact other rfl

theorem Event.registers_of_ne {handle : Nat} {event : Event} (other : event.handle ≠ handle) :
    event.registers handle = false := by
  cases event <;> simp_all [Event.registers, Event.handle]

theorem Event.leaves_of_ne {handle : Nat} {event : Event} (other : event.handle ≠ handle) :
    event.leaves handle = false := by
  cases event <;> simp_all [Event.leaves, Event.handle]

namespace Life

variable {handle : Nat} {history : List Event} {phase : Phase}

/-- What was borrowed was returned, but for those who still have the handle. -/
theorem count_borrowed (life : Life handle history phase) :
    history.count (.borrowed handle) = history.count (.returned handle) + phase.borrowers := by
  induction life with
  | made =>
      rfl
  | event lived moves ih =>
      rw [List.count_append, List.count_append, ih]
      cases moves with
      | elsewhere other =>
          rw [Event.count_singleton_of_ne (.borrowed handle) other,
            Event.count_singleton_of_ne (.returned handle) other]
          rfl
      | giveBack =>
          simp [Nat.add_assoc, Nat.add_comm 1]
      | giveBackLate =>
          simp [Nat.add_assoc, Nat.add_comm 1]
      | _ =>
          simp [Nat.add_assoc]

/-- A handle is registered once. -/
theorem countP_registers (life : Life handle history phase) :
    history.countP (Event.registers handle) + phase.registrations = 1 := by
  induction life with
  | made =>
      rfl
  | event lived moves ih =>
      rw [List.countP_append]
      cases moves with
      | elsewhere other =>
          simpa [Event.registers_of_ne other] using ih
      | _ =>
          simpa [Event.registers] using ih

/-- A handle has left the registry once, if it is not there any more. -/
theorem countP_leaves (life : Life handle history phase) :
    history.countP (Event.leaves handle) =
      phase.releases + phase.closings + phase.storeClosings := by
  induction life with
  | made =>
      rfl
  | event lived moves ih =>
      rw [List.countP_append, ih]
      cases moves with
      | elsewhere other =>
          simp [Event.leaves_of_ne other]
      | _ =>
          simp [Event.leaves]

/-- A handle begins to close once. -/
theorem count_closing (life : Life handle history phase) :
    history.count (.closing handle) = phase.closings + phase.storeClosings := by
  induction life with
  | made =>
      rfl
  | event lived moves ih =>
      rw [List.count_append, ih]
      cases moves with
      | elsewhere other =>
          rw [Event.count_singleton_of_ne (.closing handle) other]
          rfl
      | _ =>
          simp

/-- Closing the store of a handle begins once. -/
theorem count_storeClosing (life : Life handle history phase) :
    history.count (.storeClosing handle) = phase.storeClosings := by
  induction life with
  | made =>
      rfl
  | event lived moves ih =>
      rw [List.count_append, ih]
      cases moves with
      | elsewhere other =>
          rw [Event.count_singleton_of_ne (.storeClosing handle) other]
          rfl
      | _ =>
          simp

/-- Nobody asks to close a handle that is closing. -/
theorem count_closingAgain (life : Life handle history phase) :
    history.count (.closingAgain handle) = 0 := by
  induction life with
  | made =>
      rfl
  | event lived moves ih =>
      rw [List.count_append, ih]
      cases moves with
      | elsewhere other =>
          rw [Event.count_singleton_of_ne (.closingAgain handle) other]
      | _ =>
          simp

/-- The session of a handle is the one that it was registered for. -/
theorem session?_of_registered (life : Life handle history phase) {session : String}
    (registered : .registered session handle ∈ history) : phase.session? = some session := by
  induction life with
  | made =>
      simp at registered
  | event lived moves ih =>
      rcases List.mem_append.mp registered with earlier | now
      · have known := ih earlier
        cases moves with
        | register =>
            simp at known
        | _ =>
            exact known
      · obtain rfl := List.mem_singleton.mp now
        cases moves with
        | elsewhere other =>
            exact absurd rfl other
        | register =>
            rfl

/-- The session that a handle has left is the one that it was registered for. -/
theorem session?_of_left (life : Life handle history phase) {session : String}
    {cause : Departure} (left : .left session handle cause ∈ history) :
    phase.session? = some session := by
  induction life with
  | made =>
      simp at left
  | event lived moves ih =>
      rcases List.mem_append.mp left with earlier | now
      · have known := ih earlier
        cases moves with
        | register =>
            simp at known
        | _ =>
            exact known
      · obtain rfl := List.mem_singleton.mp now
        cases moves with
        | elsewhere other =>
            exact absurd rfl other
        | leave =>
            rfl

/-- Nobody borrows a handle after it has begun to close. -/
theorem not_borrowed_after_closing (life : Life handle history phase)
    {before after : List Event} (split : history = before ++ .closing handle :: after) :
    .borrowed handle ∉ after := by
  induction life generalizing after with
  | made =>
      simp at split
  | event lived moves ih =>
      rcases List.eq_nil_or_concat after with rfl | ⟨earlier, last, rfl⟩
      · simp
      · rw [List.concat_eq_append, ← List.cons_append, ← List.append_assoc] at split
        obtain ⟨past, now⟩ := List.append_inj' split rfl
        obtain rfl := (List.cons.inj now).1
        have still := ih past
        have closing := lived.count_closing
        rw [past] at closing
        simp only [List.concat_eq_append, List.mem_append, List.mem_singleton, not_or]
        refine ⟨still, ?_⟩
        rintro rfl
        cases moves with
        | elsewhere other =>
            exact other rfl
        | borrow =>
            simp at closing

/-- Everything that was borrowed was returned when closing the store begins. -/
theorem returned_before_storeClosing (life : Life handle history phase)
    {before after : List Event} (split : history = before ++ .storeClosing handle :: after) :
    before.count (.borrowed handle) = before.count (.returned handle) ∧
      .closing handle ∈ before := by
  induction life generalizing after with
  | made =>
      simp at split
  | event lived moves ih =>
      rcases List.eq_nil_or_concat after with rfl | ⟨earlier, last, rfl⟩
      · obtain ⟨rfl, now⟩ := List.append_inj' split rfl
        obtain rfl := (List.cons.inj now).1
        cases moves with
        | elsewhere other =>
            exact absurd rfl other
        | closeStore =>
            refine ⟨lived.count_borrowed, List.count_pos_iff.mp ?_⟩
            rw [lived.count_closing]
            exact Nat.one_pos
      · rw [List.concat_eq_append, ← List.cons_append, ← List.append_assoc] at split
        exact ih (List.append_inj' split rfl).1

end Life
end DocumentGate.Service
