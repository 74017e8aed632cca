import DocumentGate.Proofs.Deeds
import DocumentGate.Proofs.SameWorlds
import Mathlib.Logic.Function.Basic

/-!
# Worlds at rest

Between operations that have been completed nobody has borrowed the handle of a session, and
where every store is a cluster in memory, none of them takes turns to be closed.  In such a
world all that a session has is its seat: a database in a cluster, and the time when it was
last active.  Whatever is done for one session leaves the seats of the others as they are, and
a scan takes the seats of those that have been idle for too long.
-/

namespace DocumentGate

/-- The store of the handle is an open cluster in memory, and nobody has borrowed the handle. -/
structure Handle.Rests (handle : Handle) : Prop where
  memory : ∃ cluster default, handle.backend = .memory cluster default false
  returned : handle.borrowers = 0
  welcoming : handle.closing = false
  sound : handle.manner = .sound
  quick : handle.slow = false

/-- The handle of a connection to a cluster rests at first. -/
theorem Handle.rests_ofBackend (label cluster default : String) :
    (Handle.ofBackend label (.memory cluster default false)).Rests :=
  ⟨⟨cluster, default, rfl⟩, rfl, rfl, rfl, rfl⟩

theorem Handle.Rests.select {handle : Handle} (rests : handle.Rests) (database : String) :
    (handle.select database).Rests :=
  ⟨rests.memory, rests.returned, rests.welcoming, rests.sound, rests.quick⟩

namespace Service

/-- What a session has: a database in a cluster, and when it was last active. -/
structure Seat where
  cluster : String
  /-- The database that was selected at first. -/
  default : String
  database : String
  lastActivity : Time

/-- The seat of a session that is active at a time. -/
def Seat.activeAt (time : Time) (seat : Seat) : Seat :=
  { seat with lastActivity := time }

/-- The seat that a handle is for a session that was last active at a time. -/
def seatOf? (time : Time) (handle : Handle) : Option Seat :=
  match handle.backend with
  | .memory cluster default _ => some ⟨cluster, default, handle.database, time⟩
  | .tables _ => none

namespace World

/-- The seat of a session. -/
def seat? (world : World) (session : String) : Option Seat :=
  (world.session? session).bind fun entry =>
    (world.handle? entry.handle).bind (seatOf? entry.lastActivity)

/-- What is in a cluster; there is nothing in one that does not exist. -/
def contents (world : World) (cluster : String) : Store.Cluster :=
  (Dictionary.get? cluster world.clusters).getD []

/-- Nothing differs but clusters, handles and sessions, and what is written down about them. -/
structure SameCourse (world next : World) : Prop extends SameClock world next where
  settings : next.settings = world.settings
  server : next.server = world.server

/-- No handle of a session is borrowed, and no two sessions have the same one. -/
structure AtRest (world : World) : Prop where
  rests : ∀ session number, world.handleOf? session = some number →
    ∃ handle, world.handle? number = some handle ∧ handle.Rests
  single : ∀ session other number, world.handleOf? session = some number →
    world.handleOf? other = some number → session = other

/-- Another world at rest, in which one session has a new seat and nothing else differs. -/
structure Reseats (world : World) (session : String) (seat : Option Seat) (next : World) :
    Prop where
  rests : next.AtRest
  course : SameCourse world next
  clusters : next.clusters = world.clusters
  seats : next.seat? = Function.update world.seat? session seat

variable {world next last : World} {session : String} {number : Nat}

theorem SameCourse.refl (world : World) : SameCourse world world :=
  ⟨⟨rfl, rfl, rfl⟩, rfl, rfl⟩

theorem SameCourse.symm (course : SameCourse world next) : SameCourse next world :=
  ⟨⟨course.now.symm, course.rounding.symm, course.reapers.symm⟩, course.settings.symm,
    course.server.symm⟩

theorem SameCourse.trans (first : SameCourse world next) (second : SameCourse next last) :
    SameCourse world last :=
  ⟨first.toSameClock.trans second.toSameClock, second.settings.trans first.settings,
    second.server.trans first.server⟩

/-- Only the latest seat counts. -/
theorem Reseats.trans {seat other : Option Seat} (first : world.Reseats session seat next)
    (second : next.Reseats session other last) : world.Reseats session other last where
  rests := second.rests
  course := first.course.trans second.course
  clusters := second.clusters.trans first.clusters
  seats := by
    rw [second.seats, first.seats, Function.update_idem]

/-- Nothing happens where a session keeps its seat. -/
theorem AtRest.reseats (rests : world.AtRest) (session : String) :
    world.Reseats session (world.seat? session) world :=
  ⟨rests, .refl world, rfl, (Function.update_eq_self session world.seat?).symm⟩

theorem contents_insert (world : World) (cluster : String) (found : Store.Cluster) :
    contents { world with clusters := Dictionary.insert cluster found world.clusters } =
      Function.update world.contents cluster found := by
  funext asked
  rw [contents, Dictionary.get?_insert]
  by_cases same : cluster = asked
  · subst same
    simp
  · rw [if_neg same, Function.update_of_ne (Ne.symm same)]
    rfl

/-- A session whose entry and whose handle are the same has the same seat. -/
theorem seat?_congr (entry : next.session? session = world.session? session)
    (handle : ∀ number, world.handleOf? session = some number →
      next.handle? number = world.handle? number) :
    next.seat? session = world.seat? session := by
  unfold seat?
  rw [entry]
  cases found : world.session? session with
  | none =>
      rfl
  | some entry =>
      rw [Option.bind_some, Option.bind_some, handle entry.handle (handleOf?_eq_some found)]

theorem seat?_eq_none (missing : world.session? session = none) :
    world.seat? session = none := by
  rw [seat?, missing]
  rfl

namespace AtRest

/-- Every session has a seat. -/
theorem exists_seat (rests : world.AtRest) {entry : Session}
    (found : world.session? session = some entry) :
    ∃ handle cluster default, world.handle? entry.handle = some handle ∧ handle.Rests ∧
      handle.backend = .memory cluster default false ∧
      world.seat? session = some ⟨cluster, default, handle.database, entry.lastActivity⟩ := by
  rcases rests.rests session entry.handle (handleOf?_eq_some found) with ⟨handle, there, resting⟩
  rcases resting.memory with ⟨cluster, default, backend⟩
  refine ⟨handle, cluster, default, there, resting, backend, ?_⟩
  rw [seat?, found, Option.bind_some, there, Option.bind_some, seatOf?, backend]

/-- What is done for one session leaves the others where they are. -/
theorem reseats_of (rests : world.AtRest) (course : SameCourse world next)
    (clusters : next.clusters = world.clusters)
    (entries : ∀ asked, asked ≠ session → next.session? asked = world.session? asked)
    (handles : ∀ asked number, asked ≠ session → world.handleOf? asked = some number →
      next.handle? number = world.handle? number)
    (own : ∀ number, next.handleOf? session = some number →
      (∃ handle, next.handle? number = some handle ∧ handle.Rests) ∧
        ∀ asked, asked ≠ session → world.handleOf? asked ≠ some number) :
    world.Reseats session (next.seat? session) next where
  rests := by
    have others : ∀ {asked number}, asked ≠ session → next.handleOf? asked = some number →
        world.handleOf? asked = some number := by
      intro asked number different has
      rwa [handleOf?, entries asked different] at has
    constructor
    · intro asked number has
      by_cases same : asked = session
      · subst same
        exact (own number has).1
      · have had := others same has
        rw [handles asked number same had]
        exact rests.rests asked number had
    · intro asked other number has shares
      by_cases first : asked = session
      · by_cases second : other = session
        · exact first.trans second.symm
        · exact absurd (others second shares) ((own number (first ▸ has)).2 other second)
      · by_cases second : other = session
        · exact absurd (others first has) ((own number (second ▸ shares)).2 asked first)
        · exact rests.single asked other number (others first has) (others second shares)
  course := course
  clusters := clusters
  seats := by
    funext asked
    by_cases same : asked = session
    · rw [same, Function.update_self]
    · rw [Function.update_of_ne same]
      exact seat?_congr (entries asked same) fun number has => handles asked number same has

end AtRest

/-! ## Handles that leave -/

/-- Nothing differs but one handle. -/
structure Spares (number : Nat) (world next : World) : Prop where
  course : SameCourse world next
  clusters : next.clusters = world.clusters
  sessions : next.sessions = world.sessions
  others : ∀ other, other ≠ number → next.handle? other = world.handle? other

/-- A handle that rests is closed at once, and no failure is reported. -/
theorem exists_beginClose {handle : Handle} (found : world.handle? number = some handle)
    (rests : handle.Rests) :
    ∃ next, world.beginClose number = .closed next ∧ next.closingFault? number = none ∧
      Spares number world next := by
  have refusing : ((world.changeHandle number Handle.beginClosing).note
      (.closing number)).handle? number = some handle.beginClosing := by
    simp [found]
  refine ⟨((world.changeHandle number Handle.beginClosing).note (.closing number)).closeStore
    number, ?_, ?_, ⟨⟨rfl, rfl, rfl⟩, rfl, rfl⟩, rfl, rfl, ?_⟩
  · have quick : handle.beginClosing.slow = false := rests.quick
    simp [beginClose, found, rests.welcoming, handle.drained_eq, rests.returned, beginStore,
      refusing, quick]
  · have sound : handle.beginClosing.closeStore.manner = .sound := by
      simp [Handle.closeStore, Handle.shutStore, Handle.tryStore, Handle.beginClosing, rests.sound]
    simp [closingFault?, closeStore, found, Handle.closingFault?, sound]
  · intro other different
    simp [closeStore, different]

/-- Taking a session out leaves everything but its entry as it is. -/
theorem course_of_take? {cause : Departure}
    (taken : world.take? session cause = some (number, next)) :
    SameCourse world next ∧ next.clusters = world.clusters ∧
      ∀ asked, next.session? asked = if session = asked then none else world.session? asked := by
  rcases Option.map_eq_some_iff.mp taken with ⟨entry, -, same⟩
  obtain ⟨-, rfl⟩ := Prod.mk.inj same
  exact ⟨⟨⟨rfl, rfl, rfl⟩, rfl, rfl⟩, rfl,
    fun asked => Dictionary.get?_erase session asked world.sessions⟩

/-- Where a session leaves, its handle is closed at once, and nobody else loses a seat. -/
theorem AtRest.exists_close (rests : world.AtRest) {cause : Departure}
    (taken : world.take? session cause = some (number, next)) :
    ∃ last, next.beginClose number = .closed last ∧ last.closingFault? number = none ∧
      world.Reseats session none last := by
  rcases take?_eq_some taken with ⟨has, handles, -, -⟩
  rcases course_of_take? taken with ⟨course, clusters, entries⟩
  have unchanged : ∀ asked, next.handle? asked = world.handle? asked := by
    intro asked
    rw [handle?, handles, handle?]
  rcases rests.rests session number has with ⟨handle, there, resting⟩
  rcases exists_beginClose ((unchanged number).trans there) resting with
    ⟨last, closed, silent, spares⟩
  have left : ∀ asked, last.session? asked =
      if session = asked then none else world.session? asked := by
    intro asked
    rw [← entries asked, World.session?, spares.sessions, World.session?]
  have gone : last.session? session = none := by
    rw [left, if_pos rfl]
  refine ⟨last, closed, silent, seat?_eq_none gone ▸ rests.reseats_of
    (course.trans spares.course) (spares.clusters.trans clusters) ?_ ?_ ?_⟩
  · intro asked different
    rw [left, if_neg (Ne.symm different)]
  · intro asked other different had
    rw [spares.others other ?_, unchanged]
    rintro rfl
    exact different (rests.single asked session _ had has)
  · intro other still
    rw [handleOf?, gone] at still
    cases still

/-! ## Handles that come -/

theorem course_of_put (world : World) (session : String) (number : Nat) :
    SameCourse world (world.put session number).2 ∧
      (world.put session number).2.clusters = world.clusters := by
  unfold put
  dsimp only
  split <;> exact ⟨⟨⟨rfl, rfl, rfl⟩, rfl, rfl⟩, rfl⟩

/-- No session has the handle that is made next. -/
theorem AtRest.handleOf?_ne (rests : world.AtRest) (session : String) :
    world.handleOf? session ≠ some world.handles.length := by
  intro has
  rcases rests.rests session _ has with ⟨handle, there, -⟩
  rw [handle?, List.getElem?_eq_none le_rfl] at there
  cases there

/-- The handle that was made last is registered for a session, and the one before is not kept. -/
theorem AtRest.reseats_put (rests : world.AtRest) {handle : Handle} (resting : handle.Rests)
    {registered : World} {previous : Option Nat}
    (puts : (world.addHandle handle).2.put session world.handles.length = (previous, registered))
    (course : SameCourse registered last) (clusters : last.clusters = registered.clusters)
    (sessions : last.sessions = registered.sessions)
    (others : ∀ other, previous ≠ some other → last.handle? other = registered.handle? other) :
    world.Reseats session (seatOf? world.now handle) last := by
  have had : previous = world.handleOf? session := (put_eq puts).1
  obtain rfl : ((world.addHandle handle).2.put session world.handles.length).2 = registered :=
    congrArg Prod.snd puts
  rcases course_of_put (world.addHandle handle).2 session world.handles.length with
    ⟨joined, same⟩
  have entries : ∀ asked, last.session? asked =
      if session = asked then some ⟨world.handles.length, world.now⟩
      else world.session? asked := by
    intro asked
    rw [World.session?, sessions]
    exact session?_put (world.addHandle handle).2 session asked world.handles.length
  have handles : ∀ other, previous ≠ some other → last.handle? other =
      if other = world.handles.length then some handle else world.handle? other := by
    intro other kept
    rw [others other kept, handle?_put, handle?_addHandle]
  have entry : last.session? session = some ⟨world.handles.length, world.now⟩ := by
    rw [entries, if_pos rfl]
  have new : last.handle? world.handles.length = some handle := by
    rw [handles _ (had ▸ rests.handleOf?_ne session), if_pos rfl]
  have seat : last.seat? session = seatOf? world.now handle := by
    rw [seat?, entry, Option.bind_some, new, Option.bind_some]
  have added : SameCourse world (world.addHandle handle).2 := ⟨⟨rfl, rfl, rfl⟩, rfl, rfl⟩
  refine seat ▸ rests.reseats_of ((added.trans joined).trans course) (clusters.trans same) ?_ ?_ ?_
  · intro asked different
    rw [entries, if_neg (Ne.symm different)]
  · intro asked number different has
    have kept : previous ≠ some number := by
      rw [had]
      exact fun same => different (rests.single asked session number has same)
    rw [handles number kept, if_neg]
    rintro rfl
    exact rests.handleOf?_ne asked has
  · intro number has
    obtain rfl := Option.some.inj ((handleOf?_eq_some entry).symm.trans has)
    exact ⟨⟨handle, new, resting⟩, fun asked _ => rests.handleOf?_ne asked⟩

/-- Where a session comes with a new handle, the one it had before is closed at once. -/
theorem AtRest.exists_closePrevious (rests : world.AtRest) {handle : Handle}
    (resting : handle.Rests) {registered : World} {previous : Nat}
    (puts : (world.addHandle handle).2.put session world.handles.length =
      (some previous, registered)) :
    ∃ last, registered.beginClose previous = .closed last ∧
      last.closingFault? previous = none ∧
      world.Reseats session (seatOf? world.now handle) last := by
  have had : world.handleOf? session = some previous := (put_eq puts).1.symm
  rcases rests.rests session previous had with ⟨before, there, closable⟩
  have present : registered.handle? previous = some before := by
    have unused : previous ≠ world.handles.length := by
      rintro rfl
      exact rests.handleOf?_ne session had
    rw [handle?, (put_eq puts).2.1, ← handle?, handle?_addHandle, if_neg unused, there]
  rcases exists_beginClose present closable with ⟨last, closed, silent, spares⟩
  refine ⟨last, closed, silent, rests.reseats_put resting puts spares.course spares.clusters
    spares.sessions fun other kept => spares.others other ?_⟩
  exact fun same => kept (congrArg some same.symm)

/-! ## Visits -/

theorem course_refresh (world : World) (session : String) :
    SameCourse world (world.refresh session) ∧ (world.refresh session).given = world.given := by
  unfold refresh
  split <;> exact ⟨⟨⟨rfl, rfl, rfl⟩, rfl, rfl⟩, rfl⟩

/-- A session with a seat has borrowed its handle, and nothing else differs yet. -/
structure Visits (world : World) (session : String) (seat : Seat) (number : Nat) (handle : Handle)
    (leased : World) : Prop where
  sits : world.seat? session = some seat
  has : world.handleOf? session = some number
  lent : world.Lent session number leased
  still : leased.handleOf? session = some number
  course : SameCourse world leased
  given : leased.given = world.given
  there : leased.handle? number = some handle
  backend : handle.backend = .memory seat.cluster seat.default false
  database : handle.database = seat.database

/-- A session with a seat can borrow its handle. -/
theorem AtRest.exists_lease (rests : world.AtRest) {entry : Session}
    (found : world.session? session = some entry) :
    ∃ seat number handle leased, world.lease session = .ok (number, leased) ∧
      world.Visits session seat number handle leased := by
  rcases rests.exists_seat found with ⟨handle, cluster, default, there, resting, backend, sits⟩
  have has := handleOf?_eq_some found
  let lends : World :=
    (world.changeHandle entry.handle fun _ => lentOnce handle).note (.borrowed entry.handle)
  have borrowed : world.borrow? entry.handle = some lends := by
    rw [borrow?, there]
    simp [Handle.borrow?, resting.welcoming, lends, lentOnce]
  have course : SameCourse world lends := ⟨⟨rfl, rfl, rfl⟩, rfl, rfl⟩
  rcases course_refresh lends session with ⟨further, given⟩
  have leased : world.lease session = .ok (entry.handle, lends.refresh session) := by
    rw [lease, found]
    dsimp only
    rw [borrowed]
  refine ⟨_, entry.handle, lentOnce handle, lends.refresh session, leased, sits, has,
    lent_of_lease leased, ?_, course.trans further, given, ?_, backend, rfl⟩
  · rw [handleOf?_refresh, handleOf?_note, handleOf?_changeHandle, has]
  · rw [handle?_refresh, handle?_note, handle?_changeHandle_self, there]
    rfl

/-- What is done to clusters in the meantime does not matter to who has borrowed a handle. -/
theorem Lent.beside (lent : world.Lent session number next) (clusters : Clusters)
    (given counted : Identified.Given) :
    Lent session number { world with clusters := clusters, given := given }
      { next with clusters := clusters, given := counted } :=
  ⟨lent.present, rfl, lent.same.handles, lent.same.registered, lent.same.others⟩

/-- Another database may be selected for a session that has borrowed its handle. -/
theorem Lent.select (lent : world.Lent session number next) (database : String) :
    Lent session number (world.changeHandle number (·.select database))
      (next.changeHandle number (·.select database)) where
  present := by
    rcases lent.present with ⟨handle, there⟩
    refine ⟨handle.select database, ?_⟩
    rw [handle?_changeHandle_self, there]
    rfl
  same := by
    have swapped : (world.changeHandle number (·.select database)).changeHandle number lentOnce =
        (world.changeHandle number lentOnce).changeHandle number (·.select database) := by
      simp only [changeHandle, List.modify_modify_eq]
      rfl
    rw [swapped]
    exact lent.same.changeHandle number (·.select database)

theorem AtRest.beside (rests : world.AtRest) (clusters : Clusters) (given : Identified.Given) :
    AtRest { world with clusters := clusters, given := given } :=
  ⟨rests.rests, rests.single⟩

/-- Giving back the handle is an activity, and everything else is as it was. -/
theorem AtRest.exists_giveBack (rests : world.AtRest) (lent : world.Lent session number next)
    (course : SameCourse world next) (has : world.handleOf? session = some number)
    (still : next.handleOf? session = some number) :
    ∃ returned, next.giveBack? number = some returned ∧
      world.Reseats session ((world.seat? session).map (Seat.activeAt world.now))
        (returned.refreshFor session number) := by
  rcases lent.handle?_eq with ⟨handle, there, borrowed⟩
  have gives := giveBack?_of_lentOnce borrowed
  refine ⟨_, gives, ?_⟩
  generalize given : (next.changeHandle number fun _ => handle).note (.returned number) = returned
    at gives ⊢
  have returning : SameCourse next returned := given ▸ ⟨⟨rfl, rfl, rfl⟩, rfl, rfl⟩
  have entries : returned.session? session = next.session? session := given ▸ rfl
  rcases Option.map_eq_some_iff.mp has with ⟨entry, found, rfl⟩
  rcases Option.map_eq_some_iff.mp still with ⟨other, present, shared⟩
  have ends : returned.refreshFor session entry.handle = returned.refresh session := by
    rw [refreshFor, entries, present]
    exact if_pos shared
  have active : (returned.refresh session).session? session =
      some ⟨entry.handle, world.now⟩ := by
    rw [session?_refresh, if_pos rfl, entries, present, Option.map_some, shared, returning.now,
      course.now]
  have same := (lent.giveBack gives).trans (.refresh session returned)
  have handles : ∀ asked, (returned.refresh session).handle? asked = world.handle? asked := by
    intro asked
    rw [handle?, same.handles, handle?]
  have seat : (returned.refresh session).seat? session =
      (world.seat? session).map (Seat.activeAt world.now) := by
    rcases rests.exists_seat found with ⟨rested, cluster, default, known, -, backend, before⟩
    rw [before, seat?, active, Option.bind_some, handles, known, Option.bind_some, seatOf?, backend]
    rfl
  rw [ends, ← seat]
  refine rests.reseats_of ((course.trans returning).trans (course_refresh returned session).1)
    same.clusters same.others (fun asked number _ _ => handles number) ?_
  intro asked holds
  obtain rfl := Option.some.inj ((handleOf?_eq_some active).symm.trans holds)
  rcases rests.rests session entry.handle has with ⟨rested, known, resting⟩
  exact ⟨⟨rested, (handles _).trans known, resting⟩, fun asked different shares =>
    different (rests.single asked session _ shares has)⟩

/-- Another database is selected for a session. -/
theorem AtRest.reseats_select (rests : world.AtRest) (has : world.handleOf? session = some number)
    (database : String) :
    world.Reseats session ((world.seat? session).map fun seat => { seat with database := database })
      (world.changeHandle number (·.select database)) := by
  rcases rests.rests session number has with ⟨handle, there, resting⟩
  have selected : (world.changeHandle number (·.select database)).handle? number =
      some (handle.select database) := by
    rw [handle?_changeHandle_self, there]
    rfl
  have seat : (world.changeHandle number (·.select database)).seat? session =
      (world.seat? session).map fun seat => { seat with database := database } := by
    rcases Option.map_eq_some_iff.mp has with ⟨entry, found, rfl⟩
    rcases rests.exists_seat found with ⟨other, cluster, default, present, -, backend, before⟩
    obtain rfl := Option.some.inj (there.symm.trans present)
    have still : (world.changeHandle entry.handle (·.select database)).session? session =
        some entry := found
    rw [before, seat?, still, Option.bind_some, selected, Option.bind_some, seatOf?]
    change (match handle.backend with | .memory _ _ _ => _ | .tables _ => _) = _
    rw [backend]
    rfl
  refine seat ▸ rests.reseats_of ⟨⟨rfl, rfl, rfl⟩, rfl, rfl⟩ rfl (fun _ _ => rfl) ?_ ?_
  · intro asked other different had
    refine handle?_changeHandle_of_ne ?_ world _
    rintro rfl
    exact different (rests.single asked session _ had has)
  · intro other had
    obtain rfl := Option.some.inj (has.symm.trans had)
    exact ⟨⟨_, selected, resting.select database⟩, fun asked different shares =>
      different (rests.single asked session _ shares has)⟩

/-! ## Scans -/

/-- A session with the seat was active within a limit. -/
def within (world : World) (limit : Double) (seat : Seat) : Bool :=
  !exceeds (world.since seat.lastActivity) limit

theorem SameCourse.within (course : SameCourse world next) (limit : Double) :
    next.within limit = world.within limit := by
  funext seat
  rw [World.within, since, course.now, course.rounding]
  rfl

/-- A session keeps its seat unless it is idle. -/
theorem AtRest.filter_within (rests : world.AtRest) (session : String) (limit : Double) :
    (world.seat? session).filter (world.within limit) =
      if world.isIdle session limit then none else world.seat? session := by
  unfold isIdle
  cases found : world.session? session with
  | none =>
      rw [seat?_eq_none found]
      rfl
  | some entry =>
      rcases rests.exists_seat found with ⟨handle, cluster, default, there, resting, -, seat⟩
      have free : world.isBusy entry.handle = false := by
        simp [isBusy, there, Handle.isBusy, resting.returned]
      rw [seat, Option.filter_some, World.within]
      cases longer : exceeds (world.since entry.lastActivity) limit <;> simp [free, longer]

/-- Whether a session is evicted depends on its own seat only. -/
theorem AtRest.evict (rests : world.AtRest) (session : String) (limit : Double) :
    (world.evict session limit).fault = none ∧
      world.Reseats session ((world.seat? session).filter (world.within limit))
        (world.evict session limit).world := by
  rw [rests.filter_within, World.evict]
  split
  · split
    · rename_i number left taken
      rcases rests.exists_close taken with ⟨last, closed, silent, reseats⟩
      rw [closed]
      exact ⟨silent, reseats⟩
    · rename_i missing
      have seatless := seat?_eq_none (Option.map_eq_none_iff.mp missing)
      exact ⟨rfl, seatless ▸ rests.reseats session⟩
  · exact ⟨rfl, rests.reseats session⟩

theorem AtRest.evictAll (rests : world.AtRest) (limit : Double) (sessions : List String) :
    (world.evictAll limit sessions).2.AtRest ∧
      SameCourse world (world.evictAll limit sessions).2 ∧
      (world.evictAll limit sessions).2.clusters = world.clusters ∧
      ∀ asked, (world.evictAll limit sessions).2.seat? asked =
        if asked ∈ sessions then (world.seat? asked).filter (world.within limit)
        else world.seat? asked := by
  induction sessions generalizing world with
  | nil =>
      exact ⟨rests, .refl world, rfl, fun _ => rfl⟩
  | cons first rest ih =>
      rcases rests.evict first limit with ⟨silent, reseats⟩
      rcases ih reseats.rests with ⟨after, course, clusters, seats⟩
      rw [World.evictAll]
      dsimp only
      rw [silent]
      refine ⟨after, reseats.course.trans course, clusters.trans reseats.clusters, ?_⟩
      intro asked
      dsimp only
      rw [seats, reseats.seats, reseats.course.within]
      by_cases same : asked = first
      · subst same
        simp
      · simp [same]

/-- A scan takes the seats of those that have been idle for longer than its limit. -/
theorem AtRest.scan (rests : world.AtRest) (limit : Double) :
    (world.scan limit).2.AtRest ∧ SameCourse world (world.scan limit).2 ∧
      (world.scan limit).2.clusters = world.clusters ∧
      ∀ session, (world.scan limit).2.seat? session =
        (world.seat? session).filter (world.within limit) := by
  rcases rests.evictAll limit (world.overdue limit) with ⟨after, course, clusters, seats⟩
  refine ⟨after, course, clusters, fun session => (seats session).trans ?_⟩
  split
  · rfl
  · rename_i active
    rw [rests.filter_within, if_neg fun idle => active (mem_overdue_of_isIdle idle)]

end World
end Service
end DocumentGate
