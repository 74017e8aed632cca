import DocumentGate.Proofs.HandleLife
import Mathlib.Data.List.Chain
import Mathlib.Data.List.Perm.Basic

/-!
# Who sees to a handle

While operations take turns, each of them has something to see to: a handle that it made
has to be registered, one that it borrowed has to be given back, one that it took out of
the registry has to be closed.  A world is orderly with such burdens when every handle
leads a life, the handle and the registry are as the phase of that life says, and each
phase has exactly the burdens that it needs.

Every operation on a world keeps it orderly and takes up or lays down the burdens that
belong to it.
-/

namespace DocumentGate

/-- A handle that nobody has done anything with. -/
structure Handle.IsFresh (handle : Handle) : Prop where
  borrowers : handle.borrowers = 0
  closing : handle.closing = false
  storeClosings : handle.storeClosings = 0
  isOpen : handle.backend.isClosed = false

namespace Service

/-! ## Burdens -/

/-- What an operation has to see to. -/
inductive Burden where
  /-- The handle is to be registered. -/
  | fresh (handle : Nat)
  /-- The handle was borrowed and is to be given back. -/
  | lease (handle : Nat)
  /-- The handle was taken out of the registry and is to be closed. -/
  | released (handle : Nat)
  /-- The store of the handle is to be closed when the handle was given back. -/
  | waiting (handle : Nat)
  /-- The store of the handle is to be closed. -/
  | drained (handle : Nat)
  /-- Closing the store of the handle was begun and is to be brought to its end. -/
  | shut (handle : Nat)
deriving DecidableEq

/-- The handle that is seen to. -/
@[simp]
def Burden.handle : Burden → Nat
  | .fresh handle => handle
  | .lease handle => handle
  | .released handle => handle
  | .waiting handle => handle
  | .drained handle => handle
  | .shut handle => handle

/-- Nothing is out of order when the burden is laid down without having been seen to. -/
def Burden.isOptional : Burden → Bool
  | .lease _ => true
  | .shut _ => true
  | _ => false

/-- No handle is between the registry and its closing. -/
def Settled (burdens : List Burden) : Prop :=
  ∀ handle, .released handle ∉ burdens

/-! ## What the parts of a world become -/

namespace World

/-- The handle that a session has. -/
def handleOf? (world : World) (session : String) : Option Nat :=
  (world.session? session).map Session.handle

@[simp]
theorem handle?_note (world : World) (event : Event) (number : Nat) :
    (world.note event).handle? number = world.handle? number :=
  rfl

@[simp]
theorem handleOf?_note (world : World) (event : Event) (session : String) :
    (world.note event).handleOf? session = world.handleOf? session :=
  rfl

@[simp]
theorem history_note (world : World) (event : Event) :
    (world.note event).history = world.history ++ [event] := by
  simp [history, note]

theorem handle?_changeHandle (world : World) (number asked : Nat) (change : Handle → Handle) :
    (world.changeHandle number change).handle? asked =
      if number = asked then (world.handle? asked).map change else world.handle? asked := by
  by_cases same : number = asked
  · subst same
    simp [changeHandle, handle?]
  · simp [changeHandle, handle?, same]

@[simp]
theorem handle?_changeHandle_of_ne {number asked : Nat} (other : asked ≠ number) (world : World)
    (change : Handle → Handle) :
    (world.changeHandle number change).handle? asked = world.handle? asked := by
  rw [handle?_changeHandle, if_neg (Ne.symm other)]

@[simp]
theorem handle?_changeHandle_self (world : World) (number : Nat) (change : Handle → Handle) :
    (world.changeHandle number change).handle? number = (world.handle? number).map change := by
  rw [handle?_changeHandle, if_pos rfl]

@[simp]
theorem handleOf?_changeHandle (world : World) (number : Nat) (change : Handle → Handle)
    (session : String) :
    (world.changeHandle number change).handleOf? session = world.handleOf? session :=
  rfl

@[simp]
theorem history_changeHandle (world : World) (number : Nat) (change : Handle → Handle) :
    (world.changeHandle number change).history = world.history :=
  rfl

end World

/-! ## Orderly worlds -/

/-- The handle is as the phase says. -/
structure Phase.Describes (phase : Phase) (handle : Handle) : Prop where
  borrowers : handle.borrowers = phase.borrowers
  closing : handle.closing = phase.refuses
  storeClosings : handle.storeClosings = phase.storeClosings
  closed : handle.backend.isClosed = true → phase.storeClosings = 1

/-- The burdens with a handle are those that the phase needs. -/
@[mk_iff]
structure Phase.Needs (phase : Phase) (burdens : List Burden) (handle : Nat) : Prop where
  fresh : burdens.count (.fresh handle) ≤ phase.registrations
  leases : burdens.count (.lease handle) ≤ phase.borrowers
  released : burdens.count (.released handle) = phase.releases
  closings : burdens.count (.waiting handle) + burdens.count (.drained handle) = phase.closings
  idle : 0 < burdens.count (.drained handle) → phase.borrowers = 0
  shuts : burdens.count (.shut handle) ≤ phase.storeClosings

/-- A handle, its place in the registry and the burdens with it are as the phase says. -/
structure Phase.Fits (phase : Phase) (world : World) (burdens : List Burden)
    (handle : Nat) : Prop where
  present : phase.registrations = 0 ∨ .fresh handle ∈ burdens →
    ∃ found, world.handle? handle = some found
  described : ∀ found, world.handle? handle = some found → phase.Describes found
  home : ∀ session, world.handleOf? session = some handle ↔ phase.home? = some session
  needs : phase.Needs burdens handle

/-- Every handle leads a life, and every handle that leaves the registry closes at once. -/
structure World.Orderly (world : World) (burdens : List Burden) : Prop where
  lives : ∀ handle, ∃ phase, Life handle world.history phase ∧ phase.Fits world burdens handle
  registry : ∀ session, world.handleOf? session = tenant? session world.history
  prompt : world.history.IsChain Event.Before
  last : ∀ event ∈ world.history.getLast?, ∀ handle, event.leaves handle = true →
    .released handle ∈ burdens

/-- The same burdens go with a handle. -/
def SameBurdens (handle : Nat) (burdens others : List Burden) : Prop :=
  ∀ burden : Burden, burden.handle = handle → others.count burden = burdens.count burden

/-- Nothing of what concerns a handle differs between two worlds with their burdens. -/
structure SameAt (handle : Nat) (world : World) (burdens : List Burden) (next : World)
    (others : List Burden) : Prop where
  record : next.handle? handle = world.handle? handle
  home : ∀ session, next.handleOf? session = some handle ↔ world.handleOf? session = some handle
  burdens : SameBurdens handle burdens others

theorem SameBurdens.refl (handle : Nat) (burdens : List Burden) :
    SameBurdens handle burdens burdens :=
  fun _ _ => rfl

theorem SameBurdens.symm {handle : Nat} {burdens others : List Burden}
    (same : SameBurdens handle burdens others) : SameBurdens handle others burdens :=
  fun burden about => (same burden about).symm

theorem SameBurdens.trans {handle : Nat} {burdens others further : List Burden}
    (first : SameBurdens handle burdens others) (second : SameBurdens handle others further) :
    SameBurdens handle burdens further :=
  fun burden about => (second burden about).trans (first burden about)

/-- A burden with another handle does not count. -/
theorem SameBurdens.cons {handle : Nat} (burden : Burden) (other : burden.handle ≠ handle)
    (burdens : List Burden) : SameBurdens handle burdens (burden :: burdens) := by
  intro asked about
  refine List.count_cons_of_ne ?_
  rintro rfl
  exact other about

theorem SameBurdens.cons_cons {handle : Nat} {burdens others : List Burden}
    (same : SameBurdens handle burdens others) (burden : Burden) :
    SameBurdens handle (burden :: burdens) (burden :: others) := by
  intro asked about
  rw [List.count_cons, List.count_cons, same asked about]

theorem SameBurdens.mem_iff {handle : Nat} {burdens others : List Burden}
    (same : SameBurdens handle burdens others) {burden : Burden}
    (about : burden.handle = handle) : burden ∈ others ↔ burden ∈ burdens := by
  rw [← List.count_pos_iff, ← List.count_pos_iff, same burden about]

theorem Phase.Needs.of_same {phase : Phase} {burdens others : List Burden} {handle : Nat}
    (needs : phase.Needs burdens handle) (same : SameBurdens handle burdens others) :
    phase.Needs others handle := by
  obtain ⟨fresh, leases, released, closings, idle, shuts⟩ := needs
  rw [← same _ rfl] at fresh leases released closings idle shuts
  rw [← same (.drained handle) rfl] at closings
  exact ⟨fresh, leases, released, closings, idle, shuts⟩

theorem Phase.Fits.of_sameAt {phase : Phase} {world next : World} {burdens others : List Burden}
    {handle : Nat} (fits : phase.Fits world burdens handle)
    (same : SameAt handle world burdens next others) : phase.Fits next others handle where
  present := by
    rw [same.burdens.mem_iff rfl, same.record]
    exact fits.present
  described := by
    rw [same.record]
    exact fits.described
  home session := (same.home session).trans (fits.home session)
  needs := fits.needs.of_same same.burdens

namespace World.Orderly

variable {world next : World} {burdens others : List Burden}

/-- An event that closes what was released, if anything was, goes on promptly. -/
theorem prompt_append (orderly : world.Orderly burdens) (event : Event)
    (prompt : ∀ handle, .released handle ∈ burdens → event = .closing handle) :
    (world.history ++ [event]).IsChain Event.Before := by
  rw [List.isChain_append]
  refine ⟨orderly.prompt, List.IsChain.singleton event, ?_⟩
  intro earlier last later same handle left
  obtain rfl := Option.some.inj same
  exact prompt handle (orderly.last earlier last handle left)

/-- An orderly world stays one when an event has its place in the life of its handle. -/
theorem step (orderly : world.Orderly burdens) (event : Event)
    (history : next.history = world.history ++ [event])
    (registry : ∀ session, next.handleOf? session = event.tenant? session (world.handleOf? session))
    (prompt : ∀ handle, .released handle ∈ burdens → event = .closing handle)
    (leaving : ∀ handle, event.leaves handle = true → .released handle ∈ others)
    (elsewhere : ∀ handle, handle ≠ event.handle → SameAt handle world burdens next others)
    (here : ∀ phase : Phase, phase.Fits world burdens event.handle →
      ∃ following : Phase, phase.Moves event.handle event following ∧
        following.Fits next others event.handle) :
    next.Orderly others where
  lives handle := by
    obtain ⟨phase, lived, fits⟩ := orderly.lives handle
    rw [history]
    by_cases same : handle = event.handle
    · subst same
      obtain ⟨following, moves, fitting⟩ := here phase fits
      exact ⟨following, .event lived moves, fitting⟩
    · exact ⟨phase, .event lived (.elsewhere (Ne.symm same)),
        fits.of_sameAt (elsewhere handle same)⟩
  registry session := by
    rw [history, tenant?_concat, ← orderly.registry, registry]
  prompt := history ▸ orderly.prompt_append event prompt
  last := by
    intro last same handle left
    rw [history, List.getLast?_concat] at same
    obtain rfl := Option.some.inj same
    exact leaving handle left

/-- An orderly world stays one when nothing happens that the journal tells. -/
theorem rearrange (orderly : world.Orderly burdens) (history : next.history = world.history)
    (registry : ∀ session, next.handleOf? session = world.handleOf? session)
    (released : ∀ handle, .released handle ∈ burdens → .released handle ∈ others)
    (fitting : ∀ phase : Phase, ∀ handle, Life handle world.history phase →
      phase.Fits world burdens handle → phase.Fits next others handle) :
    next.Orderly others where
  lives handle := by
    obtain ⟨phase, lived, fits⟩ := orderly.lives handle
    exact ⟨phase, history ▸ lived, fitting phase handle lived fits⟩
  registry session := by
    rw [history, registry, orderly.registry]
  prompt := history ▸ orderly.prompt
  last := by
    rw [history]
    intro event last handle left
    exact released handle (orderly.last event last handle left)

/-- Only the handles, the registry and the journal matter. -/
theorem congr (orderly : world.Orderly burdens) (handles : next.handles = world.handles)
    (sessions : next.sessions = world.sessions) (journal : next.journal = world.journal) :
    next.Orderly burdens := by
  have registry : ∀ session, next.handleOf? session = world.handleOf? session := by
    simp [handleOf?, session?, sessions]
  refine orderly.rearrange (by simp [history, journal]) registry (fun _ => id) ?_
  intro phase handle _ fits
  refine fits.of_sameAt ⟨?_, ?_, fun _ _ => rfl⟩
  · simp [handle?, handles]
  · simp [registry]

/-- Nothing is out of order when a lease is never ended, or a store never shut. -/
theorem relax (orderly : world.Orderly burdens)
    (fewer : ∀ burden, others.count burden ≤ burdens.count burden)
    (needed : ∀ burden : Burden, burden.isOptional = false →
      others.count burden = burdens.count burden) : world.Orderly others := by
  refine orderly.rearrange rfl (fun _ => rfl) ?_ ?_
  · intro handle released
    rw [← List.count_pos_iff, needed _ rfl]
    exact List.count_pos_iff.mpr released
  · intro phase handle _ fits
    rcases fits.needs with ⟨fresh, leases, released, closings, idle, shuts⟩
    refine { fits with present := ?_, needs := ⟨?_, ?_, ?_, ?_, ?_, ?_⟩ }
    · rw [← List.count_pos_iff, needed _ rfl, List.count_pos_iff]
      exact fits.present
    · rwa [needed _ rfl]
    · exact (fewer _).trans leases
    · rwa [needed _ rfl]
    · rwa [needed _ rfl, needed (.drained handle) rfl]
    · rwa [needed _ rfl]
    · exact (fewer _).trans shuts

/-- The order of burdens does not matter. -/
theorem perm (orderly : world.Orderly burdens) (same : burdens.Perm others) :
    world.Orderly others :=
  orderly.relax (fun burden => (same.count_eq burden).ge) fun burden _ =>
    (same.count_eq burden).symm

theorem forget {burden : Burden} (orderly : world.Orderly (burden :: burdens))
    (optional : burden.isOptional = true) : world.Orderly burdens := by
  refine orderly.relax (fun other => List.count_le_count_cons) ?_
  intro other needed
  refine (List.count_cons_of_ne ?_).symm
  rintro rfl
  exact Bool.false_ne_true (needed.symm.trans optional)

end World.Orderly

/-! ## What a burden says about the phase -/

namespace Phase.Fits

variable {phase : Phase} {world : World} {burdens : List Burden} {handle : Nat}

/-- A session that has a handle is the one that the handle is registered for. -/
theorem eq_registered (fits : phase.Fits world burdens handle) {session : String}
    (has : world.handleOf? session = some handle) :
    ∃ borrowers, phase = .registered session borrowers := by
  have home := (fits.home session).mp has
  cases phase with
  | registered other borrowers =>
      obtain rfl := Option.some.inj home
      exact ⟨borrowers, rfl⟩
  | _ =>
      simp at home

/-- A handle that is to be registered is made and nothing else. -/
theorem eq_made (fits : phase.Fits world burdens handle) (fresh : .fresh handle ∈ burdens) :
    phase = .made := by
  have registrations := fits.needs.fresh
  have positive := List.count_pos_iff.mpr fresh
  cases phase with
  | made =>
      rfl
  | _ =>
      simp only [Phase.registrations] at registrations
      omega

/-- A handle that was taken out of the registry has not begun to close. -/
theorem eq_released (fits : phase.Fits world burdens handle)
    (released : .released handle ∈ burdens) :
    ∃ session borrowers, phase = .released session borrowers := by
  have releases := fits.needs.released
  have positive := List.count_pos_iff.mpr released
  cases phase with
  | released session borrowers =>
      exact ⟨session, borrowers, rfl⟩
  | _ =>
      simp only [Phase.releases] at releases
      omega

/-- A store that is to be closed is not closed yet, and nobody has borrowed its handle. -/
theorem eq_closing (fits : phase.Fits world burdens handle)
    (drained : .drained handle ∈ burdens) :
    ∃ session, phase = .closing session 0 := by
  have closings := fits.needs.closings
  have positive := List.count_pos_iff.mpr drained
  have idle := fits.needs.idle positive
  cases phase with
  | closing session borrowers =>
      exact ⟨session, by rw [show borrowers = 0 from idle]⟩
  | _ =>
      simp only [Phase.closings] at closings
      omega

/-- The store of a handle that somebody has borrowed is not closed. -/
theorem open_of_lease (fits : phase.Fits world burdens handle)
    (lease : .lease handle ∈ burdens) :
    ∃ found, world.handle? handle = some found ∧ found.backend.isClosed = false ∧
      found.borrowers ≠ 0 := by
  have leases := fits.needs.leases
  have positive := List.count_pos_iff.mpr lease
  have borrowed : phase.borrowers ≠ 0 := by omega
  have known : phase.registrations = 0 := by
    cases phase <;> simp_all [Phase.borrowers, Phase.registrations]
  obtain ⟨found, present⟩ := fits.present (Or.inl known)
  have described := fits.described found present
  refine ⟨found, present, ?_, described.borrowers ▸ borrowed⟩
  by_contra closed
  have shut := described.closed (by simpa using closed)
  cases phase <;> simp_all [Phase.borrowers, Phase.storeClosings]

end Phase.Fits
end Service
end DocumentGate
