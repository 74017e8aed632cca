import DocumentGate.Proofs.Evictions
import Mathlib.Algebra.Order.Field.Basic
import Mathlib.Algebra.Field.Rat
import Mathlib.Tactic.Linarith

/-!
# Sessions that are attended to

A request that borrows the handle of a session makes the session active at the moment at which
it begins, whatever comes of it: a store that refuses, a call that does not fit its operation and
a name that selects no database all come later.  So a session for which such requests keep
coming is never evicted.

A command that cannot be read comes before the handle is borrowed.  It is answered although it
leaves the session as idle as it was, and a session for which nothing else comes is evicted.
-/

namespace DocumentGate.Service

/-- The session whose handle is borrowed for a request, if the session is connected. -/
def Request.attends? (policy : Command.Policy) (request : Request) : Option String :=
  match request with
  | .query session command =>
    match Command.parse policy command with
    | .ok _ => some session
    | .error _ => none
  | request => request.asks?

/-! ## What can be told of a run -/

/-- A request begins, or something is written in the journal. -/
inductive Happening where
  | request (request : Request)
  | event (event : Event)

/-- Something that happens, with its time. -/
structure Moment where
  time : Time
  happening : Happening

/-- An entry of the journal as something that happens. -/
def Entry.moment (entry : Entry) : Moment :=
  ⟨entry.time, .event entry.event⟩

/-- The entry of the journal that is told. -/
def Moment.entry? (moment : Moment) : Option Entry :=
  match moment.happening with
  | .request _ => none
  | .event event => some ⟨moment.time, event⟩

/-- The entries of the journal among what is told. -/
def entriesOf (told : List Moment) : List Entry :=
  told.filterMap Moment.entry?

theorem Moment.eq_of_entry? {moment : Moment} {entry : Entry} (same : moment.entry? = some entry) :
    moment = entry.moment := by
  rcases moment with ⟨time, happening⟩
  cases happening with
  | request request =>
      cases same
  | event event =>
      rw [← Option.some.inj same]
      rfl

theorem mem_entriesOf {entry : Entry} {told : List Moment} :
    entry ∈ entriesOf told ↔ entry.moment ∈ told := by
  constructor
  · intro member
    rcases List.mem_filterMap.mp member with ⟨moment, among, same⟩
    rw [← Moment.eq_of_entry? same]
    exact among
  · intro among
    exact List.mem_filterMap.mpr ⟨_, among, rfl⟩

/-- What is told is told in the order of time. -/
def Rises (told : List Moment) : Prop :=
  told.Pairwise fun earlier later => earlier.time ≤ later.time

/-- Such requests begin in every span of that length in a period. -/
def Recurs (told : List Moment) (holds : Request → Prop) (span opening closing : Time) : Prop :=
  ∀ time, opening ≤ time → time + span ≤ closing →
    ∃ asked request, ⟨asked, .request request⟩ ∈ told ∧ time ≤ asked ∧ asked ≤ time + span ∧
      holds request

theorem Rises.entries {told : List Moment} (rises : Rises told) :
    (entriesOf told).Pairwise fun earlier later => earlier.time ≤ later.time := by
  refine List.Pairwise.filterMap _ ?_ rises
  intro earlier later inOrder entry first other second
  rw [Moment.eq_of_entry? first, Moment.eq_of_entry? second] at inOrder
  exact inOrder

/-- What was earlier was told before. -/
theorem mem_of_lt {before after : List Moment} {moment other : Moment}
    (rises : Rises (before ++ moment :: after)) (among : other ∈ before ++ moment :: after)
    (earlier : other.time < moment.time) : other ∈ before := by
  rcases List.mem_append.mp among with old | new
  · exact old
  · have last := (List.pairwise_append.mp rises).2.1
    rcases List.mem_cons.mp new with rfl | later
    · exact absurd earlier (lt_irrefl _)
    · exact absurd earlier (not_lt.mpr ((List.pairwise_cons.mp last).1 other later))

@[simp]
theorem entriesOf_append (told more : List Moment) :
    entriesOf (told ++ more) = entriesOf told ++ entriesOf more :=
  List.filterMap_append

@[simp]
theorem entriesOf_request (time : Time) (request : Request) (rest : List Moment) :
    entriesOf (⟨time, .request request⟩ :: rest) = entriesOf rest :=
  rfl

@[simp]
theorem entriesOf_moments (entries : List Entry) :
    entriesOf (entries.map Entry.moment) = entries := by
  rw [entriesOf, List.filterMap_map]
  exact List.filterMap_some

namespace Machine

/-- What is within a limit that was exceeded is less than what exceeded it. -/
theorem lt_of_within {rounding : Time → Time} (faithful : Faithful rounding) {limit : Double}
    {span elapsed : Time} (within : exceeds span limit = false)
    (longer : exceeds (rounding elapsed) limit = true) : span < elapsed := by
  cases finite : limit.toRat? with
  | some bound =>
      rw [exceeds_eq finite, decide_eq_false_iff_not, not_lt] at within
      exact within.trans_lt (lt_of_exceeds faithful finite longer)
  | none =>
      cases limit with
      | finite negative significand exponent fits =>
          cases finite
      | infinite negative =>
          exact absurd (within.symm.trans longer) Bool.noConfusion
      | nan mark =>
          cases within

/-- What is written in the journal between two points of a run. -/
def written (machine next : Machine) : List Moment :=
  (next.world.journal.drop machine.world.journal.length).map Entry.moment

/-- A run, and what can be told of it: requests that begin, and all entries of the journal. -/
inductive Tells (start : Machine) : List Moment → Machine → Prop where
  | nothing : Tells start [] start
  | begins {told machine next position label request} (earlier : Tells start told machine)
      (ready : machine.ready[position]? = some ⟨label, .begin request⟩)
      (resumed : machine.resume position = some next) :
      Tells start
        (told ++ ⟨machine.world.now, .request request⟩ :: machine.written next) next
  | step {told machine next} (earlier : Tells start told machine) (step : machine.Step next) :
      Tells start (told ++ machine.written next) next

variable {start machine next : Machine} {told : List Moment}

namespace Tells

theorem steps (tells : start.Tells told machine) :
    Relation.ReflTransGen Step start machine := by
  induction tells with
  | nothing =>
      exact .refl
  | begins _ _ resumed ih =>
      exact ih.tail (.turn resumed)
  | step _ step ih =>
      exact ih.tail step

end Tells

/-- A step writes at the end of the journal. -/
theorem Step.journal (step : machine.Step next) (sound : machine.Sound [])
    (lends : machine.Lends) : machine.world.journal <+: next.world.journal :=
  (step.keeps sound lends (World.kept_journal machine.world.journal) (List.prefix_refl _)).1

theorem entriesOf_written (grows : machine.world.journal <+: next.world.journal) :
    next.world.journal = machine.world.journal ++ entriesOf (machine.written next) := by
  rcases grows with ⟨more, same⟩
  rw [written, entriesOf_moments, ← same, List.drop_left]

/-- Every entry of the journal is told. -/
theorem Tells.entries (tells : start.Tells told machine) (initial : start.IsInitial) :
    entriesOf told = machine.world.journal := by
  have kept := World.kept_settings start.world.settings
  induction tells with
  | nothing =>
      exact initial.journal.symm
  | @begins told machine next position label request earlier ready resumed ih =>
      rcases steps_keep earlier.steps initial.sound initial.lends kept rfl with ⟨sound, lends, -⟩
      have grows := (Step.turn resumed).journal sound lends
      rw [entriesOf_append, entriesOf_request, ih, ← entriesOf_written grows]
  | @step told machine next earlier step ih =>
      rcases steps_keep earlier.steps initial.sound initial.lends kept rfl with ⟨sound, lends, -⟩
      rw [entriesOf_append, ih, ← entriesOf_written (step.journal sound lends)]

/-- What is written between two points is what is written to a third one, and from there. -/
theorem written_append {middle : Machine} (grows : machine.world.journal <+: middle.world.journal)
    (further : middle.world.journal <+: next.world.journal) :
    machine.written middle ++ middle.written next = machine.written next := by
  rcases grows with ⟨first, same⟩
  rcases further with ⟨second, also⟩
  simp [written, ← also, ← same, List.drop_append]

/-- Whatever steps are made, what is written in the journal is told. -/
theorem Tells.later (tells : start.Tells told machine) (initial : start.IsInitial)
    (steps : Relation.ReflTransGen Step machine next) :
    start.Tells (told ++ machine.written next) next := by
  have kept := World.kept_settings start.world.settings
  rcases steps_keep tells.steps initial.sound initial.lends kept rfl with ⟨sound, lends, -⟩
  have grown := World.kept_journal machine.world.journal
  induction steps with
  | refl =>
      simpa [written] using tells
  | @tail middle next steps step ih =>
      rcases steps_keep steps sound lends grown (List.prefix_refl _) with ⟨sound, lends, grows⟩
      rw [← written_append grows (step.journal sound lends), ← List.append_assoc]
      exact ih.step step

theorem not_mem_written (machine next : Machine) (time : Time) (request : Request) :
    ⟨time, .request request⟩ ∉ machine.written next := by
  intro member
  rcases List.mem_map.mp member with ⟨entry, -, same⟩
  cases congrArg Moment.happening same

/-- What is not among the last is before them. -/
theorem split_of_not_mem {told last before after : List Moment} {moment : Moment}
    (other : moment ∉ last) (split : told ++ last = before ++ moment :: after) :
    ∃ between, told = before ++ moment :: between ∧ after = between ++ last := by
  rcases List.append_eq_append_iff.mp split with ⟨more, rfl, rest⟩ | ⟨more, rfl, rest⟩
  · refine absurd ?_ other
    rw [rest]
    simp
  · cases more with
    | nil =>
        refine absurd ?_ other
        rw [List.nil_append] at rest
        simp [← rest]
    | cons first between =>
        obtain ⟨rfl, rfl⟩ := List.cons.inj rest
        exact ⟨between, rfl, rfl⟩

/-- A request that is told of began at its place in the run. -/
theorem Tells.exists_begins (tells : start.Tells told machine) {before after : List Moment}
    {time : Time} {request : Request}
    (split : told = before ++ ⟨time, .request request⟩ :: after) :
    ∃ earlier next : Machine, ∃ position label, start.Tells before earlier ∧
      earlier.world.now = time ∧
      earlier.ready[position]? = some ⟨label, .begin request⟩ ∧
      earlier.resume position = some next ∧ earlier.written next <+: after := by
  induction tells generalizing after with
  | nothing =>
      simp at split
  | @begins told machine next position label other earlier ready resumed ih =>
      rw [List.append_cons] at split
      rcases split_of_not_mem (not_mem_written machine next time request) split with
        ⟨between, first, rfl⟩
      rcases List.eq_nil_or_concat between with rfl | ⟨front, last, rfl⟩
      · obtain ⟨rfl, same⟩ := List.append_inj' first rfl
        cases same
        exact ⟨machine, next, position, label, earlier, rfl, ready, resumed, List.prefix_refl _⟩
      · rw [List.concat_eq_append, ← List.cons_append, ← List.append_assoc] at first
        rcases ih (List.append_inj' first rfl).1 with
          ⟨origin, following, place, name, ran, now, was, went, wrote⟩
        refine ⟨origin, following, place, name, ran, now, was, went, wrote.trans ?_⟩
        simp
  | @step told machine next earlier step ih =>
      rcases split_of_not_mem (not_mem_written machine next time request) split with
        ⟨between, first, rfl⟩
      rcases ih first with ⟨origin, following, place, name, ran, now, was, went, wrote⟩
      exact ⟨origin, following, place, name, ran, now, was, went,
        wrote.trans (List.prefix_append _ _)⟩

/-! ## Borrowing at the beginning -/

end Machine

namespace World

variable {world : World} {burdens : List Burden}

/-- A handle leaves the registry at most once. -/
theorem Orderly.countP_leaves_le (orderly : world.Orderly burdens) (number : Nat) :
    world.history.countP (Event.leaves number) ≤ 1 := by
  rcases orderly.lives number with ⟨phase, lived, -⟩
  rw [lived.countP_leaves]
  cases phase <;> simp

/-- A handle is registered at most once. -/
theorem Orderly.countP_registers_le (orderly : world.Orderly burdens) (number : Nat) :
    world.history.countP (Event.registers number) ≤ 1 := by
  rcases orderly.lives number with ⟨phase, lived, -⟩
  have once := lived.countP_registers
  omega

end World

namespace Machine

section Turns

variable {machine : Machine} {label session : String} {number : Nat}

/-- Whatever is done with a borrowed handle, it was borrowed now. -/
theorem borrowed_leasing (sound : machine.Sound []) (lends : machine.Lends)
    (has : machine.world.handleOf? session = some number) {body : Nat → Handle → Machine → Machine}
    (further : ∀ {origin handle leased}, leased.Follows origin [⟨number, some session⟩] →
      (body number handle leased).Follows origin []) :
    ⟨machine.world.now, .borrowed number⟩ ∈
      entriesOf (machine.written (machine.leasing label session body)) := by
  rcases World.Orderly.exists_lease sound.orderly machine.settled_burdens has with
    ⟨next, handle, leased, there, wrote⟩
  have goes : machine.leasing label session body = body number handle (machine.within next) := by
    rw [leasing, leased]
    dsimp only
    rw [there]
  have kept := (World.Passes.lease leased).history
  have follows : (machine.within next).Follows next [⟨number, some session⟩] := by
    refine ⟨.refl, fun lease member => ?_⟩
    rcases List.mem_cons.mp member with rfl | other
    · have registered := registered_of_tenant ((sound.orderly.registry session).symm.trans has)
      exact ⟨session, rfl, kept.subset registered⟩
    · exact (lends lease other).mono kept
  have done : (body number handle (machine.within next)).Follows next [] := further follows
  rcases wrote.trans done.did.passes.journal with ⟨more, same⟩
  rw [goes, written, entriesOf_moments, ← same, List.append_assoc, List.drop_left]
  exact List.mem_cons_self

/-- A request that borrows a handle has borrowed it when it has begun. -/
theorem borrowed_begin (sound : machine.Sound []) (lends : machine.Lends) {request : Request}
    (attends : request.attends? machine.world.settings.policy = some session)
    (has : machine.world.handleOf? session = some number) :
    ⟨machine.world.now, .borrowed number⟩ ∈
      entriesOf (machine.written (machine.begin label request)) := by
  cases request with
  | listDatabases name =>
      obtain rfl := Option.some.inj attends
      exact borrowed_leasing sound lends has fun borrowed => Follows.beginCall borrowed _
  | listCollections name =>
      obtain rfl := Option.some.inj attends
      exact borrowed_leasing sound lends has fun borrowed => Follows.beginCall borrowed _
  | selectDatabase name database =>
      obtain rfl := Option.some.inj attends
      refine borrowed_leasing sound lends has fun {origin handle leased} borrowed => ?_
      dsimp only
      split
      · rename_i chosen _
        have selected : leased.world.Tidies (leased.world.changeHandle number (·.select chosen)) :=
          .change number fun _ => rfl
        exact (borrowed.within (.single (.tidy selected))).finishLease _
      · exact borrowed.finishLease _
  | query name command =>
      cases parsed : Command.parse machine.world.settings.policy command with
      | error fault =>
          simp [Request.attends?, parsed] at attends
      | ok descriptor =>
          simp only [Request.attends?, parsed, Option.some.injEq] at attends
          subst attends
          rcases Option.map_eq_some_iff.mp has with ⟨entry, found, -⟩
          rw [begin, query, found, parsed, if_neg (by simp)]
          refine borrowed_leasing sound lends has fun borrowed => ?_
          split
          · exact Follows.beginCall borrowed _
          · exact borrowed.finishLease _
  | _ =>
      cases attends

end Turns

/-! ## Whole runs -/

section Runs

variable {start machine : Machine} {told before after : List Moment} {session : String}
  {handle : Nat}

/-- Whoever has a handle that it is going to leave borrows it with a request in between. -/
theorem Tells.borrowed (tells : start.Tells told machine) (initial : start.IsInitial)
    {asked : Time} {request : Request}
    (split : told = before ++ ⟨asked, .request request⟩ :: after)
    (attends : request.attends? start.world.settings.policy = some session)
    (registered : .registered session handle ∈ (entriesOf before).map Entry.event)
    (leaves : ∃ entry ∈ entriesOf after, entry.event.leaves handle = true) :
    ⟨asked, .borrowed handle⟩ ∈ entriesOf after := by
  rcases tells.exists_begins split with
    ⟨earlier, next, position, label, ran, rfl, ready, resumed, wrote⟩
  have kept := World.kept_settings start.world.settings
  rcases steps_keep ran.steps initial.sound initial.lends kept rfl with ⟨sound, lends, settings⟩
  rcases steps_keep tells.steps initial.sound initial.lends kept rfl with ⟨ended, -, -⟩
  have stayed : earlier.world.history.countP (Event.leaves handle) = 0 := by
    have once := World.Orderly.countP_leaves_le ended.orderly handle
    have once : (machine.world.journal.map Entry.event).countP (Event.leaves handle) ≤ 1 := once
    rw [← tells.entries initial, split, entriesOf_append, entriesOf_request, List.map_append,
      List.countP_append, ran.entries initial] at once
    have later : 0 < ((entriesOf after).map Entry.event).countP (Event.leaves handle) := by
      rcases leaves with ⟨entry, member, does⟩
      exact List.countP_pos_iff.mpr ⟨_, List.mem_map_of_mem member, does⟩
    exact Nat.eq_zero_of_not_pos fun before => by
      have before : 0 < (earlier.world.journal.map Entry.event).countP (Event.leaves handle) :=
        before
      omega
  rw [ran.entries initial] at registered
  have has := World.Orderly.handleOf?_of_registered sound.orderly registered stayed
  rcases Option.map_eq_some_iff.mp resumed with ⟨task, found, rfl⟩
  obtain rfl := Option.some.inj (found.symm.trans ready)
  have light : (Work.begin request).burden? = none := by
    cases request <;> first | rfl | cases attends
  have picked := sound.pick ready
  rw [light] at picked
  rw [← settings] at attends
  rcases wrote with ⟨more, rfl⟩
  rw [entriesOf_append]
  exact List.mem_append_left _ (borrowed_begin picked (lends.pick ready).lent attends has)

/-- A handle is registered but once, and so at no other time. -/
theorem mem_of_registered (sound : machine.Sound []) {first second : List Entry}
    (known : machine.world.journal = first ++ second)
    (there : .registered session handle ∈ first.map Entry.event) {time : Time}
    (registered : ⟨time, .registered session handle⟩ ∈ machine.world.journal) :
    ⟨time, .registered session handle⟩ ∈ first := by
  have once := World.Orderly.countP_registers_le sound.orderly handle
  rw [World.history, known, List.map_append, List.countP_append] at once
  rw [known] at registered
  rcases List.mem_append.mp registered with early | late
  · exact early
  · have again : .registered session handle ∈ second.map Entry.event := List.mem_map_of_mem late
    have before : 0 < (first.map Entry.event).countP (Event.registers handle) :=
      List.countP_pos_iff.mpr ⟨_, there, by simp [Event.registers]⟩
    have after : 0 < (second.map Entry.event).countP (Event.registers handle) :=
      List.countP_pos_iff.mpr ⟨_, again, by simp [Event.registers]⟩
    omega

/--
Where the clock never goes back, and rounding takes no span beyond a limit that it is within:
a session is not evicted if, since it was connected, requests that borrow its handle come at
least once in every span that is within the limit.
-/
theorem IsInitial.not_evicted_of_attended (initial : start.IsInitial)
    (tells : start.Tells told machine) (faithful : Faithful start.world.rounding)
    (ordered : (told.map Moment.time ++ [machine.world.now]).Pairwise (· ≤ ·))
    {connected span : Time} {limit : Double}
    (registered : ⟨connected, .registered session handle⟩ ∈ machine.world.journal)
    (attended : Recurs told (·.attends? start.world.settings.policy = some session) span
      connected machine.world.now)
    (within : exceeds span limit = false) (time : Time) :
    ⟨time, .left session handle (.evicted limit)⟩ ∉ machine.world.journal := by
  intro evicted
  have kept := World.kept_recorded.and (World.kept_rounding start.world.rounding)
  rcases steps_keep tells.steps initial.sound initial.lends kept ⟨initial.recorded, rfl⟩ with
    ⟨sound, -, recorded, rounding⟩
  rw [← rounding] at faithful
  have entries := tells.entries initial
  rcases List.pairwise_append.mp ordered with ⟨inOrder, -, past⟩
  have rises : Rises told := List.pairwise_map.mp inOrder
  rw [← entries, mem_entriesOf] at evicted
  rcases List.append_of_mem evicted with ⟨before, after, rfl⟩
  rw [entriesOf_append] at entries
  have idle := recorded.evictsIdle (entriesOf before) _ time session handle limit entries.symm
  rcases idle.overdue with ⟨last, active, longer⟩
  have early : Rises before := (List.pairwise_append.mp rises).1
  have latest := le_lastActive early.entries active
  have begun := mem_of_registered sound entries.symm (registered_of_tenant idle.current) registered
  have lived : connected ≤ last := latest _ begun (by simp [Event.isActivity])
  have now : time ≤ machine.world.now :=
    past time (List.mem_map_of_mem evicted) _ (List.mem_singleton_self _)
  have short : span < time - last := lt_of_within faithful within longer
  -- a span that begins after the last activity and is over before the eviction
  rcases exists_between (lt_sub_comm.mp short) with ⟨middle, after, room⟩
  have done : middle + span < time := lt_sub_iff_add_lt.mp room
  rcases attended middle (lived.trans after.le) (done.le.trans now) with
    ⟨asked, request, among, later, sooner, attends⟩
  have quiet : last < asked := after.trans_le later
  have before : asked < time := sooner.trans_lt done
  rcases List.append_of_mem (mem_of_lt rises among before) with ⟨opening, rest, rfl⟩
  have connecting := mem_of_lt early (mem_entriesOf.mp begun) (lived.trans_lt quiet)
  have lent := tells.borrowed initial (List.append_assoc _ _ _) attends
    (List.mem_map_of_mem (mem_entriesOf.mpr connecting))
    ⟨_, mem_entriesOf.mpr (List.mem_append_right _ List.mem_cons_self),
      by simp [Event.leaves]⟩
  have told := List.mem_append_right (opening ++ [⟨asked, .request request⟩])
    (mem_entriesOf.mp lent)
  have borrowed := mem_of_lt rises (by simpa using told) before
  have activity := latest _ (mem_entriesOf.mpr borrowed) (by simp [Event.isActivity])
  exact absurd quiet (not_lt.mpr activity)

end Runs

/-- What can be told of a run in which a request begins between other steps. -/
def toldAround (start machine last : Machine) (request : Request) : List Moment :=
  start.written machine ++
    ⟨machine.world.now, .request request⟩ :: machine.written machine.afterTurn ++
      machine.afterTurn.written last

theorem tells_around {start machine last : Machine} {label : String} {request : Request}
    (initial : start.IsInitial) (earlier : Relation.ReflTransGen Step start machine)
    (ready : machine.ready[0]? = some ⟨label, .begin request⟩)
    (further : Relation.ReflTransGen Step machine.afterTurn last) :
    start.Tells (start.toldAround machine last request) last := by
  have before := Tells.later .nothing initial earlier
  have asked := Tells.begins before ready (resume_afterTurn ready)
  rw [List.nil_append] at asked
  exact asked.later initial further

/-- A session is connected while a reaper scans. -/
def watched : Machine :=
  ((atFirst.submit "start" .start).afterTurn.registering "red").afterTurn

/-- Later, something is asked for the session. -/
def asking (request : Request) (span : Time) : Machine :=
  (watched.advance span).submit "ask" request

/-- What was asked is answered, and more time passes. -/
def asked (request : Request) (span further : Time) : Machine :=
  (asking request span).afterTurn.afterTurn.advance further

theorem tells_asked {request : Request} (orderly : request.isOrderly = true)
    (span further : Time) :
    atFirst.Tells (atFirst.toldAround (asking request span) (asked request span further) request)
      (asked request span further) := by
  have before := ((steps_submit atFirst "start" .start rfl).trans (steps_afterTurn _)).trans
    ((steps_registering _ "red").trans (steps_afterTurn _))
  have idle : watched.ready = [] := List.isEmpty_iff.mp (by decide +kernel)
  have ready : (asking request span).ready = [⟨"ask", .begin request⟩] := by
    change watched.ready ++ [_] = _
    rw [idle, List.nil_append]
  exact tells_around ⟨rfl, rfl, rfl, rfl, rfl, rfl, rfl⟩
    ((before.tail (.pass span)).trans (steps_submit _ "ask" request orderly))
    (congrArg (·[0]?) ready) ((steps_afterTurn _).tail (.pass further))

/-- A request that begins not too late and not too early is enough for a while. -/
theorem recurs_around {start machine last : Machine} {request : Request} {holds : Request → Prop}
    {span opening : Time} (does : holds request) (soon : machine.world.now ≤ opening + span)
    (late : last.world.now - span ≤ machine.world.now) :
    Recurs (start.toldAround machine last request) holds span opening last.world.now := by
  intro time since room
  refine ⟨machine.world.now, request, ?_, ?_, ?_, does⟩
  · simp [toldAround]
  · linarith
  · linarith

theorem mem_of_mem_map {journal : List Entry} {time : Time} {event : Event}
    (member : (time, event) ∈ journal.map fun entry => (entry.time, entry.event)) :
    ⟨time, event⟩ ∈ journal := by
  rcases List.mem_map.mp member with ⟨entry, among, same⟩
  obtain ⟨rfl, rfl⟩ := Prod.mk.inj same
  exact among

theorem listed_not_evicted :
    ⟨0, .registered "red" 0⟩ ∈ (asked (.listDatabases "red") 500 500).world.journal ∧
      Recurs (atFirst.toldAround (asking (.listDatabases "red") 500)
          (asked (.listDatabases "red") 500 500) (.listDatabases "red"))
        (·.attends? Settings.defaults.policy = some "red") 600 0
        (asked (.listDatabases "red") 500 500).world.now ∧
      ∀ time, ⟨time, .left "red" 0 (.evicted Settings.defaults.idleTimeout)⟩ ∉
        (asked (.listDatabases "red") 500 500).world.journal := by
  have registered : ⟨0, .registered "red" 0⟩ ∈
      (asked (.listDatabases "red") 500 500).world.journal :=
    mem_of_mem_map (by decide +kernel)
  have attended : Recurs (atFirst.toldAround (asking (.listDatabases "red") 500)
        (asked (.listDatabases "red") 500 500) (.listDatabases "red"))
      (·.attends? Settings.defaults.policy = some "red") 600 0
      (asked (.listDatabases "red") 500 500).world.now :=
    recurs_around rfl (by decide +kernel) (by decide +kernel)
  exact ⟨registered, attended, IsInitial.not_evicted_of_attended
    ⟨rfl, rfl, rfl, rfl, rfl, rfl, rfl⟩ (tells_asked rfl 500 500) faithful_rounded
    (by decide +kernel) registered attended (by decide +kernel)⟩

/-- A command that has no operation. -/
def unreadable : Request :=
  .query "red" (.string "db.things")

/-- A session for which nothing but a command comes that cannot be read is evicted in time. -/
theorem unreadable_evicted :
    atFirst.Tells (atFirst.toldAround (asking unreadable 540) (asked unreadable 540 160) unreadable)
        (asked unreadable 540 160) ∧
      Recurs (atFirst.toldAround (asking unreadable 540) (asked unreadable 540 160) unreadable)
        (·.asks? = some "red") 600 0 (asked unreadable 540 160).world.now ∧
      ((asked unreadable 540 160).world.journal.map fun entry => (entry.time, entry.event)) =
        [(0, .registered "red" 0), (660, .left "red" 0 (.evicted Settings.defaults.idleTimeout)),
          (660, .closing 0), (660, .storeClosing 0)] :=
  ⟨tells_asked rfl 540 160, recurs_around rfl (by decide +kernel) (by decide +kernel),
    by decide +kernel⟩

end Machine
end DocumentGate.Service
