import DocumentGate.Proofs.Burdens

/-!
# What operations do with burdens

Each operation on a world that concerns handles and sessions keeps the world orderly.
Borrowing a handle takes up a lease and giving it back lays the lease down; taking a
session out of the registry takes up its handle as released, and closing the handle lays
that burden down, at once or when the last borrower has given the handle back.
-/

namespace DocumentGate.Service

namespace World

/-! ## Operations that succeed -/

theorem borrow?_eq_some {world next : World} {number : Nat}
    (borrowed : world.borrow? number = some next) :
    ∃ handle, world.handle? number = some handle ∧ handle.closing = false ∧
      next = (world.changeHandle number fun _ => handle.lend).note (.borrowed number) := by
  obtain ⟨handle, found, rest⟩ := Option.bind_eq_some_iff.mp borrowed
  obtain ⟨lent, lends, done⟩ := Option.bind_eq_some_iff.mp rest
  obtain rfl := Option.some.inj done
  unfold Handle.borrow? at lends
  split at lends
  · simp at lends
  · obtain rfl := Option.some.inj lends
    exact ⟨handle, found, by simpa using ‹¬handle.closing = true›, rfl⟩

theorem giveBack?_eq_some_of_borrowed {world : World} {number : Nat} {handle : Handle}
    (found : world.handle? number = some handle) (borrowed : handle.borrowers ≠ 0) :
    world.giveBack? number =
      some ((world.changeHandle number fun _ => handle.takeBack).note (.returned number)) := by
  simp [giveBack?, found, Handle.giveBack?, borrowed]

theorem handleOf?_eq_some {world : World} {session : String} {entry : Session}
    (found : world.session? session = some entry) :
    world.handleOf? session = some entry.handle := by
  rw [handleOf?, found]
  rfl

@[simp]
theorem handle?_refresh (world : World) (session : String) (number : Nat) :
    (world.refresh session).handle? number = world.handle? number := by
  unfold refresh
  split <;> rfl

theorem handleOf?_insert (world : World) (session asked : String) (entry : Session) :
    { world with sessions := Dictionary.insert session entry world.sessions }.handleOf? asked =
      if session = asked then some entry.handle else world.handleOf? asked := by
  simp only [handleOf?, session?, Dictionary.get?_insert]
  split <;> rfl

@[simp]
theorem handleOf?_refresh (world : World) (session asked : String) :
    (world.refresh session).handleOf? asked = world.handleOf? asked := by
  unfold refresh
  split
  · rename_i entry found
    rw [handleOf?_note, handleOf?_insert]
    split
    · rename_i same
      exact same ▸ (handleOf?_eq_some found).symm
    · rfl
  · rfl

/-- A lease borrows the handle of a session, which is active then. -/
theorem lease_eq_ok {world next : World} {session : String} {number : Nat}
    (leased : world.lease session = .ok (number, next)) :
    world.handleOf? session = some number ∧
      ∃ borrowed, world.borrow? number = some borrowed ∧ next = borrowed.refresh session := by
  unfold lease at leased
  split at leased
  · rename_i entry found
    split at leased
    · rename_i borrowed borrows
      obtain ⟨rfl, rfl⟩ := Prod.mk.inj (Except.ok.inj leased)
      exact ⟨handleOf?_eq_some found, borrowed, borrows, rfl⟩
    · cases leased
  · cases leased

/-- What taking a session out of the registry does. -/
theorem take?_eq_some {world next : World} {session : String} {cause : Departure} {number : Nat}
    (taken : world.take? session cause = some (number, next)) :
    world.handleOf? session = some number ∧ next.handles = world.handles ∧
      next.history = world.history ++ [.left session number cause] ∧
      ∀ asked, next.handleOf? asked = if session = asked then none else world.handleOf? asked := by
  obtain ⟨entry, found, done⟩ := Option.map_eq_some_iff.mp taken
  obtain ⟨rfl, rfl⟩ := Prod.mk.inj done
  refine ⟨handleOf?_eq_some found, rfl, by rw [history_note]; rfl, ?_⟩
  intro asked
  simp only [handleOf?, session?, note, Dictionary.get?_erase]
  split <;> rfl

/-- What registering a handle does. -/
theorem put_eq {world next : World} {session : String} {number : Nat} {previous : Option Nat}
    (registered : world.put session number = (previous, next)) :
    previous = world.handleOf? session ∧ next.handles = world.handles ∧
      next.history = world.history ++ .registered session number ::
        previous.toList.map (.left session · .replaced) ∧
      ∀ asked, next.handleOf? asked =
        if session = asked then some number else world.handleOf? asked := by
  unfold put at registered
  split at registered
  · rename_i entry found
    obtain ⟨rfl, rfl⟩ := Prod.mk.inj registered
    refine ⟨(handleOf?_eq_some found).symm, rfl, ?_, ?_⟩
    · rw [history_note, history_note, List.append_assoc]
      rfl
    · exact fun asked => handleOf?_insert world session asked ⟨number, world.now⟩
  · rename_i missing
    obtain ⟨rfl, rfl⟩ := Prod.mk.inj registered
    refine ⟨by simp [handleOf?, missing], rfl, by rw [history_note]; rfl, ?_⟩
    exact fun asked => handleOf?_insert world session asked ⟨number, world.now⟩

/-- Registering a handle for a session concerns this handle and the one before it only. -/
theorem handleOf?_of_put {world next : World} {session : String} {number other : Nat}
    {previous : Option Nat} (had : previous = world.handleOf? session)
    (registry : ∀ asked, next.handleOf? asked =
      if session = asked then some number else world.handleOf? asked)
    (new : other ≠ number) (kept : previous ≠ some other) (asked : String) :
    next.handleOf? asked = some other ↔ world.handleOf? asked = some other := by
  rw [registry]
  split
  · rename_i same
    rw [← same, ← had]
    constructor
    · intro has
      exact absurd (Option.some.inj has).symm new
    · intro has
      exact absurd has kept
  · exact Iff.rfl

theorem isBusy_of_isIdle {world : World} {session : String} {limit : Double} {number : Nat}
    (idle : world.isIdle session limit = true) (has : world.handleOf? session = some number) :
    world.isBusy number = false := by
  rcases Option.map_eq_some_iff.mp has with ⟨entry, found, rfl⟩
  simp only [isIdle, found, Bool.and_eq_true, Bool.not_eq_true'] at idle
  exact idle.1

/-- Closing a handle that nobody has borrowed does not wait for anybody. -/
theorem beginClose_ne_waiting {world : World} {number : Nat}
    (idle : world.isBusy number = false) (waiting : World) :
    world.beginClose number ≠ .waiting waiting := by
  cases found : world.handle? number with
  | none =>
      simp [beginClose, found]
  | some handle =>
      have unused : handle.isBusy = false := by
        simpa [isBusy, found] using idle
      simp only [beginClose, found, beginStore, Handle.not_drained, unused, Bool.false_eq_true,
        if_false]
      split
      · exact CloseStart.noConfusion
      · split <;> exact CloseStart.noConfusion

end World

/-! ## One handle changes -/

theorem SameAt.change {other number : Nat} {world : World} {burdens others : List Burden}
    (different : other ≠ number) (same : SameBurdens other burdens others)
    (change : Handle → Handle) (event : Event) :
    SameAt other world burdens ((world.changeHandle number change).note event) others :=
  ⟨by simp [different], by simp, same⟩

theorem Phase.Fits.change {phase : Phase} {world : World} {burdens others : List Burden}
    {number : Nat} (fits : phase.Fits world burdens number) (following : Phase)
    {handle : Handle} (found : world.handle? number = some handle) {change : Handle → Handle}
    (described : following.Describes (change handle)) (home : following.home? = phase.home?)
    (needs : following.Needs others number) (event : Event) :
    following.Fits ((world.changeHandle number change).note event) others number where
  present _ := ⟨change handle, by simp [found]⟩
  described result changed := by
    simp only [World.handle?_note, World.handle?_changeHandle_self, found, Option.map_some,
      Option.some.injEq] at changed
    exact changed ▸ described
  home session := by
    rw [World.handleOf?_note, World.handleOf?_changeHandle, home]
    exact fits.home session
  needs := needs

/-- A handle that was registered and is not any more has to be closed. -/
theorem Phase.Fits.release {world next : World} {burdens others : List Burden} {number : Nat}
    {session : String} {borrowers : Nat}
    (fits : (Phase.registered session borrowers).Fits world burdens number)
    (record : next.handle? number = world.handle? number)
    (gone : ∀ asked, next.handleOf? asked ≠ some number)
    (same : SameBurdens number (.released number :: burdens) others) :
    (Phase.released session borrowers).Fits next others number where
  present _ := record ▸ fits.present (Or.inl rfl)
  described := by
    rw [record]
    intro found present
    obtain ⟨count, closing, storeClosings, closed⟩ := fits.described found present
    exact ⟨count, closing, storeClosings, closed⟩
  home asked := by
    simpa [Phase.home?] using gone asked
  needs := by
    refine Phase.Needs.of_same ?_ same
    simpa [Phase.needs_iff] using fits.needs

/-- A handle that was made is registered for a session. -/
theorem Phase.Fits.enroll {world next : World} {burdens others : List Burden} {number : Nat}
    {session : String} (fits : Phase.made.Fits world (.fresh number :: burdens) number)
    (record : next.handle? number = world.handle? number)
    (home : ∀ asked, next.handleOf? asked = some number ↔ session = asked)
    (same : SameBurdens number burdens others) :
    (Phase.registered session 0).Fits next others number where
  present _ := record ▸ fits.present (Or.inr List.mem_cons_self)
  described := by
    rw [record]
    intro found present
    obtain ⟨count, closing, storeClosings, closed⟩ := fits.described found present
    exact ⟨count, closing, storeClosings, closed⟩
  home asked := by
    simpa [Phase.home?] using home asked
  needs := by
    refine Phase.Needs.of_same ?_ same
    simpa [Phase.needs_iff] using fits.needs

namespace World.Orderly

variable {world next : World} {burdens others : List Burden} {number : Nat} {session : String}

/-! ## Borrowing and giving back -/

/-- A session may be active at any time. -/
theorem refresh (orderly : world.Orderly burdens) (settled : Settled burdens)
    (session : String) : (world.refresh session).Orderly burdens := by
  have unchanged : ∀ handle, SameAt handle world burdens (world.refresh session) burdens :=
    fun handle => ⟨by simp, by simp, SameBurdens.refl handle burdens⟩
  cases found : world.session? session with
  | none =>
      simpa [World.refresh, found] using orderly
  | some entry =>
      refine orderly.step (.active session entry.handle) (by simp [World.refresh, found]; rfl)
        (by simp)
        (fun handle released => absurd released (settled handle))
        (by simp [Event.leaves]) (fun handle _ => unchanged handle) ?_
      intro phase fits
      obtain ⟨borrowers, rfl⟩ := fits.eq_registered (handleOf?_eq_some found)
      exact ⟨_, .act, fits.of_sameAt (unchanged entry.handle)⟩

/-- Whoever borrows the handle of a session has to give it back. -/
theorem borrow (orderly : world.Orderly burdens) (settled : Settled burdens)
    (has : world.handleOf? session = some number) (borrowed : world.borrow? number = some next) :
    next.Orderly (.lease number :: burdens) := by
  obtain ⟨handle, found, accepting, rfl⟩ := borrow?_eq_some borrowed
  refine orderly.step (.borrowed number) (by simp) (by simp)
    (fun handle released => absurd released (settled handle)) (by simp [Event.leaves]) ?_ ?_
  · intro other different
    exact .change different (.cons (.lease number) (Ne.symm different) burdens) _ _
  · intro phase fits
    obtain ⟨borrowers, rfl⟩ := fits.eq_registered has
    obtain ⟨borrowed, closing, storeClosings, closed⟩ := fits.described handle found
    refine ⟨_, .borrow, fits.change (.registered session (borrowers + 1)) found ?_ rfl ?_ _⟩
    · exact ⟨congrArg (· + 1) borrowed, closing, storeClosings, closed⟩
    · obtain ⟨fresh, leases, released, closings, -, shuts⟩ := fits.needs
      simp_all [Phase.needs_iff]

/-- Whoever is given the handle of a session has to give it back. -/
theorem lease (orderly : world.Orderly burdens) (settled : Settled burdens)
    (leased : world.lease session = .ok (number, next)) :
    next.Orderly (.lease number :: burdens) := by
  obtain ⟨has, borrowed, borrows, rfl⟩ := lease_eq_ok leased
  refine (orderly.borrow settled has borrows).refresh ?_ session
  simpa [Settled] using settled

/-- Whoever has borrowed a handle can give it back. -/
theorem giveBack (orderly : world.Orderly (.lease number :: burdens))
    (settled : Settled burdens) :
    ∃ returned, world.giveBack? number = some returned ∧ returned.Orderly burdens := by
  obtain ⟨phase, lived, fits⟩ := orderly.lives number
  obtain ⟨handle, found, -, borrowed⟩ := fits.open_of_lease List.mem_cons_self
  refine ⟨_, giveBack?_eq_some_of_borrowed found borrowed, ?_⟩
  refine orderly.step (.returned number) (by simp) (by simp)
    (fun other released => absurd released (by simpa using settled other))
    (by simp [Event.leaves]) ?_ ?_
  · intro other different
    exact .change different (SameBurdens.cons (.lease number) (Ne.symm different) burdens).symm _ _
  · intro phase fits
    have described := fits.described handle found
    cases phase with
    | registered session borrowers =>
        obtain ⟨count, closing, storeClosings, closed⟩ := described
        obtain ⟨fewer, rfl⟩ := Nat.exists_eq_succ_of_ne_zero (count ▸ borrowed)
        refine ⟨_, .giveBack, fits.change (.registered session fewer) found ?_ rfl ?_ _⟩
        · exact ⟨congrArg (· - 1) count, closing, storeClosings, closed⟩
        · obtain ⟨fresh, leases, released, closings, -, shuts⟩ := fits.needs
          simp_all [Phase.needs_iff]
    | closing session borrowers =>
        obtain ⟨count, closing, storeClosings, closed⟩ := described
        obtain ⟨fewer, rfl⟩ := Nat.exists_eq_succ_of_ne_zero (count ▸ borrowed)
        refine ⟨_, .giveBackLate, fits.change (.closing session fewer) found ?_ rfl ?_ _⟩
        · exact ⟨congrArg (· - 1) count, closing, storeClosings, closed⟩
        · obtain ⟨fresh, leases, released, closings, idle, shuts⟩ := fits.needs
          simp_all [Phase.needs_iff]
    | released session borrowers =>
        have released := fits.needs.released
        simp [List.count_eq_zero_of_not_mem (settled number)] at released
    | _ =>
        exact absurd described.borrowers borrowed

/-- When the last borrower has given a handle back, its store can be closed. -/
theorem wake (orderly : world.Orderly (.waiting number :: burdens))
    (idle : world.isBusy number = false) : world.Orderly (.drained number :: burdens) := by
  refine orderly.rearrange rfl (fun _ => rfl) (fun handle released => by simpa using released) ?_
  intro phase handle _ fits
  by_cases same : handle = number
  · subst same
    have present := fits.present
    rcases fits.needs with ⟨fresh, leases, released, closings, -, shuts⟩
    refine { fits with present := by simpa using present, needs := ?_ }
    have waits : burdens.count (.waiting handle) + 1 + burdens.count (.drained handle) =
        phase.closings := by
      simpa using closings
    have unused : phase.borrowers = 0 := by
      cases phase with
      | closing session borrowers =>
          rcases fits.present (Or.inl rfl) with ⟨found, there⟩
          have unused : found.borrowers = 0 := by
            simpa [isBusy, there, Handle.isBusy] using idle
          exact (fits.described found there).borrowers ▸ unused
      | _ =>
          simp at waits
    refine ⟨by simpa using fresh, by simpa using leases, by simpa using released, ?_,
      fun _ => unused, by simpa using shuts⟩
    simpa [Nat.add_assoc, Nat.add_comm 1] using waits
  · refine fits.of_sameAt ⟨rfl, fun _ => Iff.rfl, ?_⟩
    exact (SameBurdens.cons (.waiting number) (Ne.symm same) burdens).symm.trans
      (.cons (.drained number) (Ne.symm same) burdens)

/-! ## Entering and leaving the registry -/

/-- A session that is taken out of the registry leaves its handle to be closed. -/
theorem take {cause : Departure} (orderly : world.Orderly burdens) (settled : Settled burdens)
    (taken : world.take? session cause = some (number, next)) (ended : cause ≠ .replaced) :
    next.Orderly (.released number :: burdens) := by
  obtain ⟨has, handles, history, registry⟩ := take?_eq_some taken
  have records : ∀ handle, next.handle? handle = world.handle? handle := by
    simp [handle?, handles]
  refine orderly.step (.left session number cause) history (by simp [registry, ended])
    (fun handle released => absurd released (settled handle)) (by simp [Event.leaves]) ?_ ?_
  · intro other different
    refine ⟨records other, ?_, .cons (.released number) (Ne.symm different) burdens⟩
    intro asked
    rw [registry]
    split
    · rename_i same
      subst same
      simpa [has] using Ne.symm different
    · exact Iff.rfl
  · intro phase fits
    obtain ⟨borrowers, rfl⟩ := fits.eq_registered has
    refine ⟨_, .leave, fits.release (records number) ?_ (SameBurdens.refl _ _)⟩
    intro asked again
    rw [registry] at again
    split at again
    · cases again
    · rename_i different
      exact different (Option.some.inj ((fits.home asked).mp again))

/-- A handle that was just made is registered for nobody. -/
theorem handleOf?_ne_fresh (orderly : world.Orderly (.fresh number :: burdens)) (asked : String) :
    world.handleOf? asked ≠ some number := by
  obtain ⟨phase, lived, fits⟩ := orderly.lives number
  obtain rfl := fits.eq_made List.mem_cons_self
  simpa [Phase.home?] using fits.home asked

section Registering

variable (orderly : world.Orderly (.fresh number :: burdens))
  (records : ∀ handle, next.handle? handle = world.handle? handle)
  (registry : ∀ asked, next.handleOf? asked =
    if session = asked then some number else world.handleOf? asked)

include orderly records registry

/-- The handle that is registered lives on for its session. -/
theorem enrolls (same : SameBurdens number burdens others) {phase : Phase}
    (fits : phase.Fits world (.fresh number :: burdens) number) :
    phase = .made ∧ (Phase.registered session 0).Fits next others number := by
  obtain rfl := fits.eq_made List.mem_cons_self
  refine ⟨rfl, fits.enroll (records number) (fun asked => ?_) same⟩
  rw [registry]
  split
  · simp [*]
  · simp [*, orderly.handleOf?_ne_fresh asked]

/-- A handle lives on when the session that had another one is registered for a new one. -/
theorem lives_replacing {previous : Nat} (had : some previous = world.handleOf? session)
    (handle : Nat) :
    ∃ phase, Life handle
        (world.history ++ [.registered session number] ++ [.left session previous .replaced])
        phase ∧
      phase.Fits next (.released previous :: burdens) handle := by
  have different : previous ≠ number := by
    rintro rfl
    exact orderly.handleOf?_ne_fresh session had.symm
  obtain ⟨phase, lived, fits⟩ := orderly.lives handle
  by_cases new : handle = number
  · subst new
    obtain ⟨rfl, enrolled⟩ := orderly.enrolls records registry
      (.cons (.released previous) different burdens) fits
    exact ⟨_, (lived.event .register).event (.elsewhere different), enrolled⟩
  have earlier : Life handle (world.history ++ [.registered session number]) phase :=
    lived.event (.elsewhere (Ne.symm new))
  have without : SameBurdens handle (.fresh number :: burdens) burdens :=
    (SameBurdens.cons (.fresh number) (Ne.symm new) burdens).symm
  by_cases old : handle = previous
  · subst old
    obtain ⟨borrowers, rfl⟩ := fits.eq_registered had.symm
    refine ⟨_, earlier.event .leave,
      fits.release (records handle) ?_ (without.cons_cons (.released handle))⟩
    intro asked again
    rw [registry] at again
    split at again
    · exact different (Option.some.inj again).symm
    · rename_i elsewhere
      exact elsewhere (Option.some.inj ((fits.home asked).mp again))
  · have kept := handleOf?_of_put had registry new fun same => old (Option.some.inj same).symm
    exact ⟨_, earlier.event (.elsewhere (Ne.symm old)),
      fits.of_sameAt ⟨records handle, kept,
        without.trans (.cons (.released previous) (Ne.symm old) burdens)⟩⟩

end Registering

/-- A handle that is registered may leave another one to be closed. -/
theorem put {previous : Option Nat} (orderly : world.Orderly (.fresh number :: burdens))
    (settled : Settled burdens) (registered : world.put session number = (previous, next)) :
    next.Orderly (previous.toList.map .released ++ burdens) := by
  obtain ⟨had, handles, history, registry⟩ := put_eq registered
  have records : ∀ handle, next.handle? handle = world.handle? handle := by
    simp [handle?, handles]
  have chain := orderly.prompt_append (.registered session number) fun handle released =>
    absurd released (by simpa using settled handle)
  cases previous with
  | none =>
      refine orderly.step (.registered session number) history (by simp [registry])
        (fun handle released => absurd released (by simpa using settled handle))
        (by simp [Event.leaves]) ?_ ?_
      · intro other different
        exact ⟨records other,
          handleOf?_of_put had registry different (Option.some_ne_none other).symm,
          (SameBurdens.cons (.fresh number) (Ne.symm different) burdens).symm⟩
      · intro phase fits
        obtain ⟨rfl, enrolled⟩ := orderly.enrolls records registry (SameBurdens.refl _ _) fits
        exact ⟨_, .register, enrolled⟩
  | some previous =>
      have journal : next.history =
          world.history ++ [.registered session number] ++ [.left session previous .replaced] := by
        simpa using history
      refine ⟨?_, ?_, ?_, ?_⟩
      · rw [journal]
        exact orderly.lives_replacing records registry had
      · intro asked
        rw [journal, tenant?_concat, tenant?_concat, ← orderly.registry, registry]
        simp
      · rw [journal, List.isChain_append]
        refine ⟨chain, List.IsChain.singleton _, ?_⟩
        simp [Event.Before, Event.leaves]
      · simp [journal, Event.leaves]

/-! ## Closing -/

/-- A handle may change in a way that its phase does not tell. -/
theorem adjust (orderly : world.Orderly burdens) (number : Nat) {change : Handle → Handle}
    (described : ∀ phase : Phase, ∀ found, phase.Fits world burdens number →
      phase.Describes found → phase.Describes (change found)) :
    (world.changeHandle number change).Orderly burdens := by
  refine orderly.rearrange rfl (fun _ => rfl) (fun _ => id) ?_
  intro phase handle _ fits
  by_cases same : handle = number
  · subst same
    refine { fits with present := ?_, described := ?_ }
    · intro needed
      rcases fits.present needed with ⟨found, present⟩
      exact ⟨change found, by simp [present]⟩
    · intro result changed
      rw [handle?_changeHandle_self] at changed
      rcases Option.map_eq_some_iff.mp changed with ⟨found, present, rfl⟩
      exact described phase found fits (fits.described found present)
  · exact fits.of_sameAt ⟨by simp [same], fun _ => Iff.rfl, fun _ _ => rfl⟩

/-- Another database may be selected at any time. -/
theorem select (orderly : world.Orderly burdens) (number : Nat) (database : String) :
    (world.changeHandle number (·.select database)).Orderly burdens := by
  refine orderly.adjust number ?_
  intro phase found _ described
  exact ⟨described.borrowers, described.closing, described.storeClosings, described.closed⟩

/-- A handle that nobody has done anything with is to be registered. -/
theorem addHandle (orderly : world.Orderly burdens) {handle : Handle} (fresh : handle.IsFresh) :
    (world.addHandle handle).2.Orderly (.fresh (world.addHandle handle).1 :: burdens) := by
  have absent : world.handle? world.handles.length = none := by
    simp [handle?]
  refine orderly.rearrange rfl (fun _ => rfl)
    (fun other released => List.mem_cons_of_mem _ released) ?_
  intro phase other _ fits
  by_cases same : other = world.handles.length
  · subst same
    have unused : .fresh world.handles.length ∉ burdens := by
      intro already
      rcases fits.present (Or.inr already) with ⟨found, present⟩
      exact Option.some_ne_none found (present.symm.trans absent)
    have made : phase = .made := by
      by_contra other
      have registered : phase.registrations = 0 := by
        cases phase with
        | made =>
            exact absurd rfl other
        | _ =>
            rfl
      rcases fits.present (Or.inl registered) with ⟨found, present⟩
      exact Option.some_ne_none found (present.symm.trans absent)
    subst made
    refine ⟨fun _ => ⟨handle, by simp [handle?, World.addHandle]⟩, ?_, fits.home, ?_⟩
    · intro found present
      obtain rfl : handle = found := by
        simpa [handle?, World.addHandle] using present
      exact ⟨fresh.borrowers, fresh.closing, fresh.storeClosings, by simp [fresh.isOpen]⟩
    · rcases fits.needs with ⟨-, leases, released, closings, idle, shuts⟩
      have none := List.count_eq_zero_of_not_mem unused
      simp_all [Phase.needs_iff, World.addHandle]
  · refine fits.of_sameAt ⟨?_, fun _ => Iff.rfl, .cons _ (Ne.symm same) burdens⟩
    rcases Nat.lt_or_gt_of_ne same with earlier | later
    · simp [handle?, World.addHandle, List.getElem?_append_left earlier]
    · simp only [handle?, World.addHandle]
      rw [List.getElem?_eq_none (by simp; omega), List.getElem?_eq_none (by omega)]

/-- Closing a store is begun when its handle was given back. -/
theorem storeClosing (orderly : world.Orderly (.drained number :: burdens))
    (settled : Settled burdens) {change : Handle → Handle}
    (counted : ∀ handle, (change handle).borrowers = handle.borrowers ∧
      (change handle).closing = handle.closing ∧
      (change handle).storeClosings = handle.storeClosings + 1) :
    ((world.changeHandle number change).note (.storeClosing number)).Orderly
      (.shut number :: burdens) := by
  refine orderly.step (.storeClosing number) (by simp) (by simp)
    (fun handle released => absurd released (by simpa using settled handle))
    (by simp [Event.leaves]) ?_ ?_
  · intro other different
    refine .change different ?_ _ _
    exact (SameBurdens.cons (.drained number) (Ne.symm different) burdens).symm.trans
      (.cons (.shut number) (Ne.symm different) burdens)
  · intro phase fits
    rcases fits.eq_closing List.mem_cons_self with ⟨session, rfl⟩
    rcases fits.present (Or.inl rfl) with ⟨handle, found⟩
    rcases fits.described handle found with ⟨borrowed, closing, storeClosings, -⟩
    rcases counted handle with ⟨sameBorrowers, sameClosing, oneMore⟩
    refine ⟨_, .closeStore, fits.change (.closed session) found ?_ rfl ?_ _⟩
    · exact ⟨by simp [sameBorrowers, borrowed], by simp [sameClosing, closing],
        by simp [oneMore, storeClosings], by simp⟩
    · rcases fits.needs with ⟨fresh, leases, released, closings, idle, shuts⟩
      have last : burdens.count (.waiting number) + (burdens.count (.drained number) + 1) = 1 := by
        simpa using closings
      have none : burdens.count (.waiting number) = 0 ∧ burdens.count (.drained number) = 0 := by
        omega
      simp_all [Phase.needs_iff]

/-- Closing a store that was begun may come to its end. -/
theorem shutStore (orderly : world.Orderly (.shut number :: burdens)) :
    (world.shutStore number).Orderly burdens := by
  suffices still : (world.shutStore number).Orderly (.shut number :: burdens) from still.forget rfl
  refine orderly.adjust number ?_
  intro phase found fits described
  have closed : phase.storeClosings = 1 := by
    have shuts := fits.needs.shuts
    rw [List.count_cons_self] at shuts
    cases phase with
    | closed session =>
        rfl
    | _ =>
        simp at shuts
  unfold Handle.shutStore
  split
  · exact described
  · exact ⟨described.borrowers, described.closing, described.storeClosings, fun _ => closed⟩

end World.Orderly

/-- The handle that begins to close is seen to, however far closing has come. -/
def World.CloseStart.Keeps (number : Nat) (burdens : List Burden) : World.CloseStart → Prop
  | .refused _ => False
  | .closed world => world.Orderly burdens
  | .closing world => world.Orderly (.shut number :: burdens)
  | .waiting world => world.Orderly (.waiting number :: burdens)

namespace World.Orderly

variable {world : World} {burdens : List Burden} {number : Nat}

/-- Closing the store of a handle that was given back goes on as far as it can. -/
theorem beginStore (orderly : world.Orderly (.drained number :: burdens))
    (settled : Settled burdens) : (world.beginStore number).Keeps number burdens := by
  unfold World.beginStore
  split
  · exact orderly.storeClosing settled fun handle => ⟨rfl, rfl, rfl⟩
  · have closed : (world.closeStore number).Orderly (.shut number :: burdens) := by
      refine orderly.storeClosing settled fun handle => ?_
      unfold Handle.closeStore Handle.shutStore
      split <;> exact ⟨rfl, rfl, rfl⟩
    exact closed.forget rfl

/-- A handle that left the registry begins to close. -/
theorem closing {burden : Burden} {handle : Handle}
    (orderly : world.Orderly (.released number :: burdens)) (settled : Settled burdens)
    (found : world.handle? number = some handle)
    (next : burden = if handle.isBusy then .waiting number else .drained number) :
    ((world.changeHandle number Handle.beginClosing).note (.closing number)).Orderly
      (burden :: burdens) := by
  have about : burden.handle = number := by
    rw [next]
    split <;> rfl
  refine orderly.step (.closing number) (by simp) (by simp) ?_ (by simp [Event.leaves]) ?_ ?_
  · intro other released
    rcases List.mem_cons.mp released with same | already
    · rw [Burden.released.inj same]
    · exact absurd already (settled other)
  · intro other different
    refine .change different ?_ _ _
    exact (SameBurdens.cons (.released number) (Ne.symm different) burdens).symm.trans
      (.cons burden (about ▸ Ne.symm different) burdens)
  · intro phase fits
    rcases fits.eq_released List.mem_cons_self with ⟨session, borrowers, rfl⟩
    rcases fits.described handle found with ⟨borrowed, -, storeClosings, closed⟩
    refine ⟨_, .close, fits.change (.closing session borrowers) found ?_ rfl ?_ _⟩
    · exact ⟨borrowed, rfl, storeClosings, closed⟩
    · rcases fits.needs with ⟨fresh, leases, released, closings, idle, shuts⟩
      split at next <;> simp_all [Phase.needs_iff, Handle.isBusy]

/-- Closing a handle that left the registry is never refused. -/
theorem beginClose (orderly : world.Orderly (.released number :: burdens))
    (settled : Settled burdens) : (world.beginClose number).Keeps number burdens := by
  rcases orderly.lives number with ⟨phase, lived, fits⟩
  rcases fits.eq_released List.mem_cons_self with ⟨session, borrowers, rfl⟩
  rcases fits.present (Or.inl rfl) with ⟨handle, found⟩
  have accepting : handle.closing = false := (fits.described handle found).closing
  simp only [World.beginClose, found, accepting, Handle.not_drained]
  rw [if_neg Bool.false_ne_true]
  split
  · rename_i busy
    exact orderly.closing settled found (if_pos busy).symm
  · rename_i idle
    exact (orderly.closing settled found (if_neg idle).symm).beginStore settled

/-! ## Idle sessions -/

/-- A session that is evicted leaves nothing to see to. -/
theorem evict (orderly : world.Orderly burdens) (settled : Settled burdens) (session : String)
    (limit : Double) : (world.evict session limit).world.Orderly burdens := by
  unfold World.evict
  split
  · rename_i idle
    split
    · rename_i number rest taken
      have keeps := (orderly.take settled taken nofun).beginClose settled
      rcases take?_eq_some taken with ⟨has, handles, -, -⟩
      have unused : rest.isBusy number = false := by
        simpa [isBusy, handle?, handles] using isBusy_of_isIdle idle has
      split
      · rename_i refused start
        exact (start ▸ keeps : (CloseStart.refused refused).Keeps number burdens).elim
      · rename_i closed start
        exact (start ▸ keeps : (CloseStart.closed closed).Keeps number burdens)
      · rename_i closing start
        exact (start ▸ keeps : (CloseStart.closing closing).Keeps number burdens).shutStore
      · rename_i waiting start
        exact absurd start (beginClose_ne_waiting unused waiting)
    · exact orderly
  · exact orderly

/-- Time may pass. -/
theorem advance (orderly : world.Orderly burdens) (settled : Settled burdens) (span : Time) :
    (world.advance span).Orderly burdens :=
  @holds_advance (·.Orderly burdens)
    (fun session limit before => before.evict settled session limit)
    (fun _ _ before => before.congr rfl rfl rfl) world orderly span

end World.Orderly
end DocumentGate.Service
