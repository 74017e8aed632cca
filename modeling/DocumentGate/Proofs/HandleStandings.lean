import DocumentGate.Service.World
import Mathlib.Data.List.Chain
import Mathlib.Logic.Relation

/-!
# Where a handle stands

A handle serves borrowers, until somebody asks for it to be closed for the first time.  From then on
it refuses new borrowers; who closes it waits for those that it has, is due when the last one has
given it back, and closes the store.  That holds for whoever deals with the handle, be it through
the registry or not.

`Standing.Moves` says which event leads from where to where, and `Standing.Goes` what one part of a
turn does to where a handle stands.
-/

namespace DocumentGate

/-- What is counted of a handle: its borrowers, if closing has begun, and closings of its store. -/
def Handle.record (handle : Handle) : Nat × Bool × Nat :=
  (handle.borrowers, handle.closing, handle.storeClosings)

namespace Service

/-- Nobody borrows the handle, gives it back or closes it for the first time. -/
def Event.isAside (number : Nat) : Event → Bool
  | .borrowed other => other != number
  | .returned other => other != number
  | .closing other => other != number
  | .storeClosing other => other != number
  | _ => true

/-! ## Standings -/

/-- How far a handle has come, and under which label it is going to be closed. -/
inductive Standing where
  | serving (borrowers : Nat)
  /-- Who closes the handle waits for one borrower and some others. -/
  | waiting (others : Nat) (closer : String)
  /-- Nobody has borrowed the handle any more, and its store is to be closed. -/
  | due (closer : String)
  | closed

namespace Standing

/-- How many have borrowed the handle. -/
@[simp]
def borrowers : Standing → Nat
  | .serving borrowers => borrowers
  | .waiting others _ => others + 1
  | _ => 0

/-- The handle refuses new borrowers. -/
@[simp]
def refuses : Standing → Bool
  | .serving _ => false
  | _ => true

/-- How often closing the store was tried. -/
@[simp]
def storeClosings : Standing → Nat
  | .closed => 1
  | _ => 0

/-- Who waits until the handle is given back. -/
@[simp]
def waits? : Standing → Option String
  | .waiting _ closer => some closer
  | _ => none

/-- Who is due to close the store. -/
@[simp]
def due? : Standing → Option String
  | .due closer => some closer
  | _ => none

/-- Who is going to close the store. -/
@[simp]
def closer? : Standing → Option String
  | .waiting _ closer => some closer
  | .due closer => some closer
  | _ => none

/-- What is counted of a handle that stands there. -/
def record (standing : Standing) : Nat × Bool × Nat :=
  (standing.borrowers, standing.refuses, standing.storeClosings)

/-- An event that has its place where a handle stands, and where the handle stands then. -/
inductive Moves (number : Nat) : Standing → Event → Standing → Prop where
  | aside {standing : Standing} {event : Event} (other : event.isAside number = true) :
      Moves number standing event standing
  | borrow {borrowers : Nat} :
      Moves number (.serving borrowers) (.borrowed number) (.serving (borrowers + 1))
  | giveBack {borrowers : Nat} :
      Moves number (.serving (borrowers + 1)) (.returned number) (.serving borrowers)
  | close {closer : String} : Moves number (.serving 0) (.closing number) (.due closer)
  | wait {borrowers : Nat} {closer : String} :
      Moves number (.serving (borrowers + 1)) (.closing number) (.waiting borrowers closer)
  | giveBackLate {others : Nat} {closer : String} :
      Moves number (.waiting (others + 1) closer) (.returned number) (.waiting others closer)
  | giveBackLast {closer : String} :
      Moves number (.waiting 0 closer) (.returned number) (.due closer)
  | closeStore {closer : String} : Moves number (.due closer) (.storeClosing number) .closed

/-- A history that leads a handle to where it stands. -/
inductive Led (number : Nat) : List Event → Standing → Prop where
  | made : Led number [] (.serving 0)
  | event {history : List Event} {standing following : Standing} {event : Event}
      (led : Led number history standing) (moves : standing.Moves number event following) :
      Led number (history ++ [event]) following

/-- What a part of a turn under a label does to where a handle stands. -/
inductive Goes (label : String) : Standing → Standing → Prop where
  | stay {standing : Standing} : Goes label standing standing
  | borrow {borrowers : Nat} : Goes label (.serving borrowers) (.serving (borrowers + 1))
  | giveBack {borrowers : Nat} : Goes label (.serving (borrowers + 1)) (.serving borrowers)
  | giveBackLate {others : Nat} {closer : String} :
      Goes label (.waiting (others + 1) closer) (.waiting others closer)
  | giveBackLast {closer : String} : Goes label (.waiting 0 closer) (.due closer)
  | wait {borrowers : Nat} : Goes label (.serving (borrowers + 1)) (.waiting borrowers label)
  | close : Goes label (.serving 0) .closed

/-! ## What a standing says about the history -/

namespace Led

variable {number : Nat} {history : List Event} {standing : Standing}

theorem count_of_isAside {event : Event} (other : event.isAside number = true) :
    [event].count (.borrowed number) = 0 ∧ [event].count (.returned number) = 0 ∧
      [event].count (.closing number) = 0 ∧ [event].count (.storeClosing number) = 0 := by
  cases event <;> simp_all [Event.isAside]

/-- Whatever was borrowed was given back, but by those who still have the handle. -/
theorem count_borrowed (led : Led number history standing) :
    history.count (.borrowed number) =
      history.count (.returned number) + standing.borrowers := by
  induction led with
  | made =>
      rfl
  | event led moves ih =>
      rw [List.count_append, List.count_append, ih]
      cases moves with
      | aside other =>
          rcases count_of_isAside other with ⟨borrowed, returned, -, -⟩
          rw [borrowed, returned]
          rfl
      | giveBack | giveBackLate | giveBackLast =>
          simp [Nat.add_assoc, Nat.add_comm 1]
      | _ =>
          simp [Nat.add_assoc]

/-- Closing begins once at most, and a handle refuses new borrowers from then on. -/
theorem count_closing (led : Led number history standing) :
    history.count (.closing number) = standing.refuses.toNat := by
  induction led with
  | made =>
      rfl
  | event led moves ih =>
      rw [List.count_append, ih]
      cases moves with
      | aside other =>
          rw [(count_of_isAside other).2.2.1]
          rfl
      | _ =>
          simp

theorem mem_closing_iff (led : Led number history standing) :
    .closing number ∈ history ↔ standing.refuses = true := by
  rw [← List.count_pos_iff, led.count_closing]
  cases standing.refuses <;> simp

/-- The store is closed once at most. -/
theorem count_storeClosing (led : Led number history standing) :
    history.count (.storeClosing number) = standing.storeClosings := by
  induction led with
  | made =>
      rfl
  | event led moves ih =>
      rw [List.count_append, ih]
      cases moves with
      | aside other =>
          rw [(count_of_isAside other).2.2.2]
          rfl
      | _ =>
          simp

theorem mem_storeClosing_iff (led : Led number history standing) :
    .storeClosing number ∈ history ↔ standing = .closed := by
  rw [← List.count_pos_iff, led.count_storeClosing]
  cases standing <;> simp

/-- Nobody borrows a handle that is closing. -/
theorem not_mem_borrowed (led : Led number history standing) {before after : List Event}
    (split : history = before ++ .closing number :: after) : .borrowed number ∉ after := by
  induction led generalizing after with
  | made =>
      simp at split
  | event led moves ih =>
      rcases List.eq_nil_or_concat after with rfl | ⟨earlier, last, rfl⟩
      · simp
      · rw [List.concat_eq_append, ← List.cons_append, ← List.append_assoc] at split
        obtain ⟨past, now⟩ := List.append_inj' split rfl
        obtain rfl := (List.cons.inj now).1
        have refuses := led.mem_closing_iff.mp (by simp [past])
        simp only [List.concat_eq_append, List.mem_append, List.mem_singleton, not_or]
        refine ⟨ih past, ?_⟩
        rintro rfl
        cases moves with
        | aside other =>
            simp [Event.isAside] at other
        | borrow =>
            cases refuses

/-- The store is closed after closing has begun and everything was given back. -/
theorem before_storeClosing (led : Led number history standing) {before after : List Event}
    (split : history = before ++ .storeClosing number :: after) :
    .closing number ∈ before ∧
      before.count (.borrowed number) = before.count (.returned number) := by
  induction led generalizing after with
  | made =>
      simp at split
  | event led moves ih =>
      rcases List.eq_nil_or_concat after with rfl | ⟨earlier, last, rfl⟩
      · obtain ⟨rfl, now⟩ := List.append_inj' split rfl
        obtain rfl := (List.cons.inj now).1
        cases moves with
        | aside other =>
            simp [Event.isAside] at other
        | closeStore =>
            exact ⟨led.mem_closing_iff.mpr rfl, led.count_borrowed⟩
      · rw [List.concat_eq_append, ← List.cons_append, ← List.append_assoc] at split
        exact ih (List.append_inj' split rfl).1

/-- After its store was closed nobody borrows a handle. -/
theorem after_storeClosing (led : Led number history standing) {before after : List Event}
    (split : history = before ++ .storeClosing number :: after) : .borrowed number ∉ after := by
  rcases List.append_of_mem (led.before_storeClosing split).1 with ⟨first, last, rfl⟩
  have borrowless : .borrowed number ∉ last ++ .storeClosing number :: after :=
    led.not_mem_borrowed (by simpa using split)
  simp at borrowless
  exact borrowless.2

theorem asides (led : Led number history standing) {events : List Event}
    (others : ∀ event ∈ events, event.isAside number = true) :
    Led number (history ++ events) standing := by
  induction events using List.reverseRecOn with
  | nil =>
      rwa [List.append_nil]
  | append_singleton earlier event ih =>
      rw [← List.append_assoc]
      exact (ih fun other member => others other (List.mem_append_left _ member)).event
        (.aside (others event (by simp)))

end Led

/-! ## What parts of turns do -/

/-- Parts of a turn, one after the other. -/
abbrev Went (label : String) : Standing → Standing → Prop :=
  Relation.ReflTransGen (Goes label)

variable {label : String} {standing following : Standing}

/-- A handle that refuses new borrowers does so for good. -/
theorem Went.refuses (went : standing.Went label following) (before : standing.refuses = true) :
    following.refuses = true := by
  induction went with
  | refl =>
      exact before
  | tail _ goes ih =>
      cases goes <;> first | exact ih | rfl

/-- Where a handle serves, it has served before. -/
theorem Went.serving {borrowers : Nat} (went : standing.Went label (.serving borrowers)) :
    standing.refuses = false :=
  Bool.eq_false_iff.mpr fun before => nomatch went.refuses before

/-- Who is going to close a store was so before, or has just begun to close the handle. -/
theorem Went.closer? (went : standing.Went label following) {closer : String}
    (closes : following.closer? = some closer) :
    standing.closer? = some closer ∨
      (closer = label ∧ standing.refuses = false ∧ following.refuses = true) := by
  induction went with
  | refl =>
      exact Or.inl closes
  | tail went goes ih =>
      cases goes with
      | stay =>
          exact ih closes
      | giveBackLate | giveBackLast =>
          exact (ih closes).imp_right fun begun => ⟨begun.1, begun.2.1, rfl⟩
      | wait =>
          exact Or.inr ⟨(Option.some.inj closes).symm, Went.serving went, rfl⟩
      | borrow | giveBack | close =>
          cases closes

/-- A store is closed in a part of a turn only if closing began in the same turn. -/
theorem Went.eq_closed (went : standing.Went label following) (closed : following = .closed) :
    standing = .closed ∨ standing.refuses = false := by
  induction went with
  | refl =>
      exact Or.inl closed
  | tail went goes ih =>
      cases goes with
      | stay =>
          exact ih closed
      | close =>
          exact Or.inr (Went.serving went)
      | borrow | giveBack | giveBackLate | giveBackLast | wait =>
          cases closed

theorem Went.of_closed (went : Standing.closed.Went label following) : following = .closed := by
  induction went with
  | refl =>
      rfl
  | tail _ goes ih =>
      subst ih
      cases goes
      rfl

end Standing

end Service
end DocumentGate
