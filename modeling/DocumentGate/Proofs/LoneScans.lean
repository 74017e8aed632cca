import DocumentGate.Proofs.AjarStores
import DocumentGate.Proofs.BoundedIdleness
import DocumentGate.Proofs.Connectedness
import DocumentGate.Proofs.WholeDocuments

/-!
# Scans that nothing interferes with

A scan that is asked for while nothing else is to be done takes a turn more for every store that
is closed slowly, and comes to what the scan of a reaper comes to that is due.  It takes out every
session that has been idle for longer than the limit and whose handle nobody has borrowed, in the
order of the registry, and closes their stores.

Which sessions these are is decided by the world in which the scan begins, although each of them
is judged when its turn has come: who leaves changes neither when the others were active nor who
has borrowed their handles.  A store that cannot be closed makes no difference to the others.
-/

namespace DocumentGate

/-! ## Handles that are closed -/

namespace Handle

/-- What closing a handle makes of it that nobody has borrowed. -/
def retired (handle : Handle) : Handle :=
  if handle.closing then handle else handle.beginClosing.closeStore

theorem retired_of_open {handle : Handle} (isOpen : handle.closing = false) :
    handle.retired = handle.beginClosing.closeStore := by
  rw [retired, isOpen, if_neg Bool.false_ne_true]

theorem retired_of_closing {handle : Handle} (closing : handle.closing = true) :
    handle.retired = handle :=
  if_pos closing

/-- The handle was closed, and what else is known of it stays. -/
structure ClosedOnce (handle after : Handle) : Prop where
  closing : after.closing = true
  database : after.database = handle.database
  borrowers : after.borrowers = handle.borrowers
  /-- Its store is closed unless closing the handle had begun before. -/
  tried : after.storeClosings = handle.storeClosings + if handle.closing then 0 else 1
  /-- So a store that was closed with its handle only was closed once. -/
  once : (handle.storeClosings = if handle.closing then 1 else 0) → after.storeClosings = 1
  shut : handle.closing = false → handle.manner ≠ .storeFails → after.backend.isClosed = true

theorem closedOnce_retired (handle : Handle) : handle.ClosedOnce handle.retired := by
  cases closing : handle.closing with
  | false =>
      rw [retired_of_open closing, closeStore, shutStore]
      split <;> constructor <;> simp_all [beginClosing, tryStore, Backend.isClosed_close]
  | true =>
      rw [retired_of_closing closing]
      constructor <;> simp [closing]

/-- A handle is closed once only. -/
theorem retired_retired (handle : Handle) : handle.retired.retired = handle.retired :=
  retired_of_closing handle.closedOnce_retired.closing

end Handle

theorem Dictionary.get?_filter_names {α : Type} (keeps : String → Bool) (asked : String)
    (entries : Dictionary α) :
    get? asked (entries.filter fun entry => keeps entry.1) =
      if keeps asked then get? asked entries else none := by
  induction entries with
  | nil =>
      simp [get?]
  | cons first rest ih =>
      by_cases same : first.1 = asked
      · cases kept : keeps asked <;> simp_all [get?]
      · by_cases kept : keeps first.1 <;> simp_all [get?]

namespace Service

namespace World

variable {world next last origin : World} {number : Nat} {session : String} {limit : Double}
  {gone : List String}

/-- The world when the store was closed, where that is done in a turn of its own too. -/
def CloseStart.finish (number : Nat) : CloseStart → World
  | .refused world => world
  | .closed world => world
  | .closing world => world.shutStore number
  | .waiting world => world

/-- A handle that nobody has borrowed is closed, all in one. -/
def retire (world : World) (number : Nat) : World :=
  (world.beginClose number).finish number

theorem handle?_finish_beginStore (world : World) (number asked : Nat) :
    ((world.beginStore number).finish number).handle? asked =
      if number = asked then (world.handle? asked).map Handle.closeStore
      else world.handle? asked := by
  unfold beginStore
  split
  · simp only [CloseStart.finish, shutStore, handle?_changeHandle, handle?_note]
    split
    · rw [Option.map_map]
      rfl
    · rfl
  · exact handle?_changeHandle world number asked Handle.closeStore

theorem handle?_retire (unused : world.isBusy number = false) (asked : Nat) :
    (world.retire number).handle? asked =
      if number = asked then (world.handle? asked).map Handle.retired
      else world.handle? asked := by
  unfold retire beginClose
  cases found : world.handle? number with
  | none =>
      change world.handle? asked = _
      by_cases same : number = asked
      · rw [if_pos same, ← same, found]
        rfl
      · rw [if_neg same]
  | some handle =>
      have idle : handle.isBusy = false := by
        simpa [isBusy, found] using unused
      dsimp only
      rw [Handle.not_drained, idle, if_neg Bool.false_ne_true]
      by_cases closing : handle.closing = true
      · rw [if_pos closing]
        change world.handle? asked = _
        by_cases same : number = asked
        · rw [if_pos same, ← same, found, Option.map_some, Handle.retired_of_closing closing]
        · rw [if_neg same]
      · rw [if_neg closing, handle?_finish_beginStore, handle?_note, handle?_changeHandle]
        have isOpen := Handle.retired_of_open (Bool.eq_false_iff.mpr closing)
        by_cases same : number = asked
        · rw [if_pos same, if_pos same, if_pos same, ← same, found, Option.map_some,
            Option.map_some, Option.map_some, isOpen]
        · rw [if_neg same, if_neg same, if_neg same]

/-- The store is closed where closing the handle has begun, or in a turn after that. -/
theorem retire_cases (world : World) (number : Nat) :
    world.retire number = (world.beginClose number).world ∨
      world.retire number = (world.beginClose number).world.shutStore number := by
  unfold retire
  cases world.beginClose number with
  | closing next =>
      exact Or.inr rfl
  | _ =>
      exact Or.inl rfl

theorem tidied_retire (world : World) (number : Nat) : world.Tidied (world.retire number) := by
  have begun := world.tidied_beginClose number
  rcases world.retire_cases number with same | same
  · exact same ▸ begun
  · exact same ▸ begun.trans (tidied_shutStore _ number)

theorem ground_retire (world : World) (number : Nat) :
    (world.retire number).ground = world.ground := by
  have begun := world.ground_beginClose number
  rcases world.retire_cases number with same | same
  · exact same ▸ begun
  · exact same ▸ (ground_shutStore _ number).trans begun

theorem evict_of_isIdle (idle : world.isIdle session limit = true)
    (taken : world.take? session (.evicted limit) = some (number, next)) :
    world.evict session limit =
      ⟨next.retire number, true, (next.retire number).closingFault? number⟩ := by
  rw [evict, if_pos idle, taken]
  rfl

/-- A session that is not idle is passed over. -/
theorem evictAll_of_active {sessions : List String} (active : world.isIdle session limit = false) :
    world.evictAll limit (session :: sessions) = world.evictAll limit sessions := by
  rw [evictAll, evict, active, if_neg Bool.false_ne_true]
  dsimp only
  cases world.evictAll limit sessions with
  | mk answer last =>
      cases answer <;> rfl

/-- A session that is idle leaves, and the scan goes on unless a failure is reported. -/
theorem evictAll_of_isIdle {sessions : List String} (idle : world.isIdle session limit = true)
    (taken : world.take? session (.evicted limit) = some (number, next)) :
    world.evictAll limit (session :: sessions) =
      match (next.retire number).closingFault? number with
      | some fault => (.error fault, next.retire number)
      | none =>
        (((next.retire number).evictAll limit sessions).1.map (session :: ·),
          ((next.retire number).evictAll limit sessions).2) := by
  rw [evictAll, evict_of_isIdle idle taken]
  rfl

/-- A session that is idle can be taken out, and nobody has borrowed its handle. -/
theorem exists_take?_of_isIdle (idle : world.isIdle session limit = true) (cause : Departure) :
    ∃ number next, world.take? session cause = some (number, next) ∧
      next.isBusy number = false := by
  unfold isIdle at idle
  cases found : world.session? session with
  | none =>
      rw [found] at idle
      cases idle
  | some entry =>
      rw [found] at idle
      refine ⟨entry.handle, _, by rw [take?, found]; rfl, ?_⟩
      exact (Bool.not_eq_true' _).mp (Bool.and_eq_true_iff.mp idle).1

/-! ## Sessions that leave -/

/-- Nothing differs but handles and sessions, and what was written down about them. -/
def SameBeside (world next : World) : Prop :=
  { next with handles := world.handles, sessions := world.sessions, journal := world.journal } =
    world

theorem SameBeside.trans (first : world.SameBeside next) (second : next.SameBeside last) :
    world.SameBeside last := by
  unfold SameBeside at first second ⊢
  rw [← second] at first
  exact first

theorem Tidied.sessions_eq (tidied : world.Tidied next) : next.sessions = world.sessions := by
  induction tidied with
  | refl =>
      rfl
  | tail _ tidies ih =>
      cases tidies <;> exact ih

theorem Tidied.sameBeside (tidied : world.Tidied next) : world.SameBeside next := by
  induction tidied with
  | refl =>
      rfl
  | tail _ tidies ih =>
      refine ih.trans ?_
      cases tidies <;> rfl

/-- The session that is taken out is the only entry that leaves. -/
theorem take?_spec {cause : Departure} (taken : world.take? session cause = some (number, next)) :
    next.sessions = Dictionary.erase session world.sessions ∧ world.SameBeside next := by
  rcases Option.map_eq_some_iff.mp taken with ⟨entry, -, same⟩
  rw [← (Prod.mk.inj same).2]
  exact ⟨rfl, rfl⟩

/-- Some sessions are gone and their handles were closed, and nothing else is different. -/
structure Without (origin : World) (gone : List String) (next : World) : Prop where
  sessions : next.sessions = origin.sessions.filter fun entry => !gone.contains entry.1
  handles : ∀ number, next.handle? number = (origin.handle? number).map fun handle =>
    if ∃ session ∈ gone, origin.handleOf? session = some number then handle.retired else handle
  beside : origin.SameBeside next

namespace Without

theorem refl (world : World) : world.Without [] world where
  sessions := by simp
  handles number := by simp
  beside := rfl

variable (without : origin.Without gone world)

include without

theorem session?_eq (stays : session ∉ gone) :
    world.session? session = origin.session? session := by
  rw [World.session?, without.sessions,
    Dictionary.get?_filter_names fun name => !gone.contains name, if_pos (by simpa using stays)]
  rfl

theorem isBusy_eq (number : Nat) : world.isBusy number = origin.isBusy number := by
  rw [World.isBusy, World.isBusy, without.handles]
  cases origin.handle? number with
  | none =>
      rfl
  | some handle =>
      simp only [Option.map_some, Option.any_some, Handle.isBusy]
      split
      · rw [handle.closedOnce_retired.borrowers]
      · rfl

theorem since_eq (time : Time) : world.since time = origin.since time := by
  have same := without.beside
  unfold SameBeside at same
  rw [← same]
  rfl

/-- Who is idle does not depend on who has left before. -/
theorem isIdle_eq (stays : session ∉ gone) (limit : Double) :
    world.isIdle session limit = origin.isIdle session limit := by
  simp only [World.isIdle, without.session?_eq stays, without.isBusy_eq, without.since_eq]

theorem handleOf?_eq (stays : session ∉ gone) :
    world.handleOf? session = origin.handleOf? session := by
  rw [handleOf?, handleOf?, without.session?_eq stays]

/-- One session more is gone when it was taken out and its handle was closed. -/
theorem retire (stays : session ∉ gone) {cause : Departure}
    (taken : world.take? session cause = some (number, next))
    (unused : next.isBusy number = false) :
    origin.Without (gone ++ [session]) (next.retire number) := by
  have tidied := next.tidied_retire number
  rcases take?_eq_some taken with ⟨has, handles, -, -⟩
  rcases take?_spec taken with ⟨sessions, beside⟩
  rw [without.handleOf?_eq stays] at has
  refine ⟨?_, fun asked => ?_, (without.beside.trans beside).trans tidied.sameBeside⟩
  · rw [tidied.sessions_eq, sessions, Dictionary.erase, without.sessions, List.filter_filter]
    refine List.filter_congr fun other _ => ?_
    rw [List.contains_append, List.contains_cons, List.contains_nil, Bool.or_false, Bool.not_or,
      Bool.and_comm]
    rfl
  · rw [handle?_retire unused, handle?, handles, ← handle?, without.handles]
    by_cases same : number = asked
    · have among : ∃ other ∈ gone ++ [session], origin.handleOf? other = some asked :=
        ⟨session, by simp, same ▸ has⟩
      rw [if_pos same, Option.map_map]
      congr 1
      funext handle
      rw [if_pos among, Function.comp_apply]
      split
      · exact handle.retired_retired
      · rfl
    · have still : (∃ other ∈ gone ++ [session], origin.handleOf? other = some asked) ↔
          ∃ other ∈ gone, origin.handleOf? other = some asked := by
        simp [or_and_right, exists_or, has, same]
      simp only [if_neg same, still]

end Without

theorem IsQuiet.retire (quiet : world.IsQuiet) {cause : Departure}
    (taken : world.take? session cause = some (number, next)) : (next.retire number).IsQuiet :=
  quiet.of_ground ((next.ground_retire number).trans (world.ground_take? taken))

/-- A scan of sessions evicts those that are idle when it begins, one after the other. -/
theorem Without.evictAll {sessions : List String} (without : origin.Without gone world)
    (quiet : world.IsQuiet) (fresh : (gone ++ sessions).Nodup) :
    (world.evictAll limit sessions).1 = .ok (sessions.filter (origin.isIdle · limit)) ∧
      origin.Without (gone ++ sessions.filter (origin.isIdle · limit))
        (world.evictAll limit sessions).2 := by
  induction sessions generalizing gone world with
  | nil =>
      exact ⟨rfl, by simpa [World.evictAll] using without⟩
  | cons session rest ih =>
      have stays : session ∉ gone := fun member =>
        (List.nodup_append.mp fresh).2.2 session member session List.mem_cons_self rfl
      rw [List.filter_cons, ← without.isIdle_eq stays]
      cases idle : world.isIdle session limit with
      | false =>
          rw [evictAll_of_active idle, if_neg Bool.false_ne_true]
          exact ih without quiet
            (fresh.sublist ((List.sublist_cons_self session rest).append_left gone))
      | true =>
          rcases exists_take?_of_isIdle idle (.evicted limit) with ⟨number, next, taken, unused⟩
          have silent := quiet.retire taken
          have again : (gone ++ [session] ++ rest).Nodup := by
            rwa [List.append_assoc]
          rcases ih (without.retire stays taken unused) silent again with ⟨answer, further⟩
          rw [evictAll_of_isIdle idle taken, silent number, if_pos rfl]
          refine ⟨?_, ?_⟩
          · dsimp only
            rw [answer]
            rfl
          · rwa [List.append_assoc] at further

/-! ## Sessions that have lapsed -/

/-- The session was active longer ago than a finite limit, and nobody has borrowed its handle. -/
def hasLapsed (world : World) (limit : Double) (entry : Session) : Bool :=
  !world.isBusy entry.handle &&
    limit.toRat?.any fun bound => decide (bound < world.since entry.lastActivity)

/-- What has lapsed, in the order of the registry. -/
def lapsed (world : World) (limit : Double) : Dictionary Session :=
  world.sessions.filter fun entry => world.hasLapsed limit entry.2

/-- No span is longer than a positive limit that is not finite. -/
theorem exceeds_of_positive (positive : Number.less (.integer 0) (.double limit) = true)
    (elapsed : Time) :
    exceeds elapsed limit = limit.toRat?.any fun bound => decide (bound < elapsed) := by
  cases finite : limit.toRat? with
  | some bound =>
      rw [exceeds_eq finite]
      rfl
  | none =>
      cases limit with
      | finite negative significand exponent fits =>
          cases finite
      | infinite negative =>
          cases negative with
          | false =>
              rfl
          | true =>
              cases positive
      | nan mark =>
          cases positive

section Distinct

variable (distinct : world.Distinct)

include distinct

theorem Distinct.session?_eq {entry : Session} (member : (session, entry) ∈ world.sessions) :
    world.session? session = some entry :=
  Dictionary.get?_of_mem distinct member

theorem Distinct.mem_names_lapsed {entry : Session} (member : (session, entry) ∈ world.sessions) :
    session ∈ Dictionary.names (world.lapsed limit) ↔ world.hasLapsed limit entry = true := by
  constructor
  · intro among
    rcases List.mem_map.mp among with ⟨⟨other, found⟩, lapsed, rfl⟩
    rcases List.mem_filter.mp lapsed with ⟨there, late⟩
    have same := (distinct.session?_eq there).symm.trans (distinct.session?_eq member)
    exact Option.some.inj same ▸ late
  · exact fun late => List.mem_map.mpr ⟨_, List.mem_filter.mpr ⟨member, late⟩, rfl⟩

/-- The sessions that are idle are those that have lapsed. -/
theorem Distinct.filter_isIdle (positive : Number.less (.integer 0) (.double limit) = true) :
    (world.overdue limit).filter (world.isIdle · limit) =
      Dictionary.names (world.lapsed limit) := by
  rw [overdue, List.filter_map, List.filter_filter, Dictionary.names, lapsed]
  refine congrArg _ (List.filter_congr fun entry member => ?_)
  rcases entry with ⟨session, entry⟩
  have found := distinct.session?_eq member
  simp only [Function.comp_apply, isIdle, found, hasLapsed, exceeds_of_positive positive]
  cases world.isBusy entry.handle <;> simp

/-- The handles of the sessions that have lapsed. -/
theorem Distinct.handleOf?_lapsed (number : Nat) :
    (∃ session ∈ Dictionary.names (world.lapsed limit), world.handleOf? session = some number) ↔
      ∃ session entry, (session, entry) ∈ world.lapsed limit ∧ entry.handle = number := by
  have has : ∀ session entry, (session, entry) ∈ world.lapsed limit →
      world.handleOf? session = some entry.handle := fun session entry lapsed =>
    handleOf?_eq_some (distinct.session?_eq (List.mem_filter.mp lapsed).1)
  constructor
  · rintro ⟨session, among, same⟩
    rcases List.mem_map.mp among with ⟨⟨session, entry⟩, lapsed, rfl⟩
    exact ⟨session, entry, lapsed, Option.some.inj ((has session entry lapsed).symm.trans same)⟩
  · rintro ⟨session, entry, lapsed, rfl⟩
    exact ⟨session, List.mem_map_of_mem lapsed, has session entry lapsed⟩

end Distinct

/-- What has lapsed was taken out and its handles were closed, and nothing else is different. -/
structure Reaps (world : World) (limit : Double) (last : World) : Prop where
  gone : ∀ session ∈ Dictionary.names (world.lapsed limit), last.session? session = none
  /-- The other entries are what they were, in the same order. -/
  entries : last.sessions = world.sessions.filter fun entry => !world.hasLapsed limit entry.2
  closed : ∀ session entry handle, (session, entry) ∈ world.lapsed limit →
    world.handle? entry.handle = some handle →
      ∃ after, last.handle? entry.handle = some after ∧ handle.ClosedOnce after
  others : ∀ number, (∀ session entry, (session, entry) ∈ world.lapsed limit →
    entry.handle ≠ number) → last.handle? number = world.handle? number
  /-- Every handle has the same database selected and is borrowed as often. -/
  kept : ∀ number handle, world.handle? number = some handle →
    ∃ after, last.handle? number = some after ∧ after.database = handle.database ∧
      after.borrowers = handle.borrowers
  beside : world.SameBeside last

theorem Without.reaps (without : world.Without (Dictionary.names (world.lapsed limit)) last)
    (distinct : world.Distinct) : world.Reaps limit last where
  gone session among := by
    rw [session?, without.sessions, Dictionary.get?_filter_names fun name =>
      !(Dictionary.names (world.lapsed limit)).contains name, if_neg]
    simpa using among
  entries := by
    rw [without.sessions]
    refine List.filter_congr fun entry member => congrArg not (Bool.eq_iff_iff.mpr ?_)
    rw [List.contains_iff_mem]
    exact distinct.mem_names_lapsed member
  closed session entry handle lapsed found := by
    refine ⟨handle.retired, ?_, handle.closedOnce_retired⟩
    rw [without.handles, found, Option.map_some,
      if_pos ((distinct.handleOf?_lapsed _).mpr ⟨session, entry, lapsed, rfl⟩)]
  others number elsewhere := by
    have stays : ¬∃ session ∈ Dictionary.names (world.lapsed limit),
        world.handleOf? session = some number := fun left => by
      rcases (distinct.handleOf?_lapsed number).mp left with ⟨session, entry, lapsed, same⟩
      exact elsewhere session entry lapsed same
    simp only [without.handles, if_neg stays, Option.map_id']
  kept number handle found := by
    rw [without.handles, found, Option.map_some]
    refine ⟨_, rfl, ?_⟩
    split
    · exact ⟨handle.closedOnce_retired.database, handle.closedOnce_retired.borrowers⟩
    · exact ⟨rfl, rfl⟩
  beside := without.beside

end World

namespace Machine

variable {rest machine : Machine} {label : String} {count number : Nat} {world : World}
  {limit : Double}

/-! ## Turns of a scan -/

/-- A handle that nobody has borrowed is closed at once or in the next turn. -/
theorem concludes_retire (idle : rest.ready = []) (unused : world.isBusy number = false)
    {after : AfterClose} {holds : Answer → World → Prop}
    (goes : ∀ first, rest.Concludes label count
      ((rest.within (world.retire number)).afterClose label number first after) holds) :
    rest.Concludes label (count + 1) ((rest.within world).close label number after) holds := by
  have close_eq : (rest.within world).close label number after =
      proceed label number after
        ((rest.within world).progress label number after (world.beginClose number)) := rfl
  unfold World.retire at goes
  rw [close_eq]
  cases begins : world.beginClose number with
  | refused next =>
      rw [begins] at goes
      exact (goes false).longer (Nat.le_succ count)
  | closed next =>
      rw [begins] at goes
      exact (goes true).longer (Nat.le_succ count)
  | closing next =>
      rw [begins] at goes
      exact concludes_later idle (goes true)
  | waiting next =>
      exact absurd begins (World.beginClose_ne_waiting unused next)

/-- What a scan answers that has evicted some sessions before. -/
def scanAnswer (evicted : List String) : Except Fault (List String) → Answer
  | .ok further => .value (.array ((evicted ++ further).map .string))
  | .error fault => .fault fault

/-- However many turns a scan takes, it comes to what evicting all at once comes to. -/
theorem concludes_evictAll (idle : rest.ready = []) (limit : Double) (world : World)
    (sessions evicted : List String) :
    rest.Concludes label sessions.length (scan label limit evicted (rest.within world) sessions)
      fun answer next => answer = scanAnswer evicted (world.evictAll limit sessions).1 ∧
        next = (world.evictAll limit sessions).2 := by
  induction sessions generalizing world evicted with
  | nil =>
      refine concludes_finish idle ⟨?_, rfl⟩
      rw [World.evictAll, scanAnswer, List.append_nil]
  | cons session others ih =>
      rw [scan_cons]
      cases active : world.isIdle session limit with
      | false =>
          rw [World.evictAll_of_active active]
          have skips : (rest.within world).world.isIdle session limit = false := active
          rw [skips, if_neg Bool.false_ne_true]
          exact (ih world evicted).longer (Nat.le_succ _)
      | true =>
          rcases World.exists_take?_of_isIdle active (.evicted limit) with
            ⟨number, next, taken, unused⟩
          have leaves : (rest.within world).world.isIdle session limit = true := active
          have took : (rest.within world).world.take? session (.evicted limit) =
            some (number, next) := taken
          rw [World.evictAll_of_isIdle active taken, leaves, if_pos rfl, took]
          refine concludes_retire idle unused fun first => ?_
          have same : (rest.within (next.retire number)).world.closingFault? number =
            (next.retire number).closingFault? number := rfl
          rw [afterClose, same]
          cases (next.retire number).closingFault? number with
          | some fault =>
              exact concludes_finish idle ⟨rfl, rfl⟩
          | none =>
              rcases ih (next.retire number) (evicted ++ [session]) with
                ⟨answer, last, ⟨answered, ends⟩, runs⟩
              refine ⟨answer, last, ⟨?_, ends⟩, runs⟩
              rw [answered]
              cases ((next.retire number).evictAll limit others).1 with
              | error fault =>
                  rfl
              | ok further =>
                  simp [scanAnswer, Except.map]

/-- A scan that is asked for while nothing else is to be done comes to an end. -/
theorem completes_scan (idle : machine.ready = []) (label : String) :
    machine.Completes label .scan (scanAnswer [] (machine.world.scan machine.world.latestLimit).1)
      (machine.world.scan machine.world.latestLimit).2 := by
  let limit := machine.world.latestLimit
  have fewer : (machine.world.overdue limit).length ≤ machine.world.sessions.length := by
    rw [World.overdue, List.length_map]
    exact List.length_filter_le _ _
  have begins : machine.Concludes label (machine.world.sessions.length + 1)
      (machine.submit label .scan) _ :=
    concludes_later idle ((concludes_evictAll idle limit machine.world _ []).longer fewer)
  rcases begins with ⟨answer, next, ⟨rfl, rfl⟩, runs⟩
  exact runs _ ((Nat.add_le_add_left (by decide) _).trans (le_turnLimit idle label .scan))

/-- A scan that nothing interfered with. -/
structure ReapsAlone (machine : Machine) (label : String) (limit : Double) (last : Machine) :
    Prop where
  answers : last.answers = machine.answers ++ [(label,
    .value (.array ((Dictionary.names (machine.world.lapsed limit)).map .string)))]
  reaps : machine.world.Reaps limit last.world
  /-- Nothing else is to be done, and whoever has waited for something still does. -/
  ready : last.ready = []
  draining : last.draining = machine.draining
  loans : last.loans = machine.loans
  /-- A scan that is due comes to the same. -/
  due : machine.world.scan limit =
    (.ok (Dictionary.names (machine.world.lapsed limit)), last.world)

/--
A scan that is asked for while nothing else is to be done evicts exactly the sessions that have
lapsed, in the order of the registry, whichever of their stores cannot be closed.
-/
theorem scan_reapsAlone (idle : machine.ready = []) (distinct : machine.world.Distinct)
    (quiet : machine.world.IsQuiet) {reaper : Reaper}
    (latest : machine.world.reaper? machine.world.latestReaper = some reaper)
    (positive : Number.less (.integer 0) (.double reaper.idleLimit) = true) (label : String) :
    machine.ReapsAlone label reaper.idleLimit (machine.submit label .scan).settle := by
  have limit : machine.world.latestLimit = reaper.idleLimit := by
    rw [World.latestLimit, latest]
    rfl
  have fresh : ([] ++ machine.world.overdue reaper.idleLimit).Nodup :=
    (List.filter_sublist.map Prod.fst).nodup distinct
  rcases (World.Without.refl machine.world).evictAll quiet fresh with ⟨answer, without⟩
  rw [distinct.filter_isIdle positive, List.nil_append] at without
  rw [distinct.filter_isIdle positive] at answer
  have completes := completes_scan idle label
  rw [Completes, limit, World.scan, answer] at completes
  rw [completes]
  exact ⟨rfl, without.reaps distinct, idle, rfl, rfl, Prod.ext answer rfl⟩

/-- A handle on a cluster of its own. -/
def handleOn (name : String) : Handle :=
  .ofBackend name (.memory name "test" false)

/-- Sessions are idle when they were active longer than a minute ago. -/
def patient : Reaper :=
  { idleLimit := minute, interval := minute }

/-- Four sessions: a store that cannot be closed, one in use, a slow one, and a late arrival. -/
def heldOver : Machine where
  world :=
    { World.ofSettings .defaults {} [] with
      handles :=
        [{ handleOn "red" with manner := .storeFails }, (handleOn "blue").lend,
          { handleOn "white" with slow := true }, handleOn "green"]
      sessions := [("red", ⟨0, 0⟩), ("blue", ⟨1, 0⟩), ("white", ⟨2, 30⟩), ("green", ⟨3, 100⟩)]
      now := 160
      reapers := [patient] }
  loans := [("open", ⟨"lease", 1, some "blue", none⟩)]

theorem isQuiet_heldOver : heldOver.world.IsQuiet
  | 0 | 1 | 2 | 3 => rfl
  | _ + 4 => rfl

theorem heldOver_reapsAlone :
    Dictionary.names (heldOver.world.lapsed patient.idleLimit) = ["red", "white"] ∧
      heldOver.ReapsAlone "scan" patient.idleLimit (heldOver.submit "scan" .scan).settle := by
  have latest : heldOver.world.reaper? heldOver.world.latestReaper = some patient := rfl
  have distinct : heldOver.world.Distinct := by
    unfold World.Distinct
    decide
  refine ⟨by decide +kernel, ?_⟩
  exact scan_reapsAlone rfl distinct isQuiet_heldOver latest (by decide +kernel) "scan"

end Machine
end Service
end DocumentGate
