import DocumentGate.Proofs.Completions

/-!
# Isolation of sessions

Sessions share the registry, the clusters, the clock and the reapers.  Still, what a session is
answered does not depend on what others do, as long as they connect to other clusters: two
services that differ in the operations of others only have the same desk for the session, as
far as its own clusters go.  An operation of the session sees no more than that, an operation of
somebody else touches nothing of it, and a scan judges the session by its own seat.
-/

namespace DocumentGate.Service

/-! ## What occurs -/

/-- What occurs in a service where each operation is completed before the next one begins. -/
inductive Occurrence where
  /-- A session asks for an operation. -/
  | operation (request : Request) (served : request.caller?.isSome = true)
  /-- Time passes, and reapers scan when that is due. -/
  | pass (span : Time)
  /-- The registry is scanned. -/
  | scan

namespace Occurrence

/-- The operation that is asked for. -/
def request? : Occurrence → Option Request
  | .operation request _ => some request
  | _ => none

/-- The session that asks for it. -/
def caller? (occurrence : Occurrence) : Option String :=
  occurrence.request?.bind Request.caller?

/-- The cluster that is connected to. -/
def cluster? (occurrence : Occurrence) : Option String :=
  occurrence.request?.bind Request.cluster?

/-- No server is connected to. -/
def staysInMemory (occurrence : Occurrence) : Bool :=
  occurrence.request?.all Request.staysInMemory

/-- Every document that is inserted has an identity. -/
def identifies (policy : Command.Policy) (occurrence : Occurrence) : Bool :=
  occurrence.request?.all (Request.identifies policy)

/-- No other session asks for it. -/
def concerns (session : String) (occurrence : Occurrence) : Bool :=
  occurrence.caller?.all (· == session)

end Occurrence

namespace Machine

/-- What becomes of a machine, as far as it comes without time passing. -/
def occur (machine : Machine) : Occurrence → Machine
  | .operation request _ => (machine.submit "operation" request).settle
  | .pass span => machine.advance span
  | .scan => (machine.submit "scan" .scan).settle

/-- The answers that are given in a later machine only. -/
def answersSince (machine next : Machine) : List Answer :=
  (next.answers.drop machine.answers.length).map Prod.snd

/-- The answers to each of the operations that a session asks for. -/
def answersTo (session : String) : Machine → List Occurrence → List (List Answer)
  | _, [] => []
  | machine, occurrence :: rest =>
    let next := machine.occur occurrence
    let further := answersTo session next rest
    if occurrence.caller? = some session then machine.answersSince next :: further else further

end Machine

/-! ## Two worlds -/

namespace World

/--
Two worlds at rest and at the same time that a session cannot tell apart: it has the same seat
in them, in a cluster of its own, and its own clusters are the same.  In the first one nobody
else has a seat in any of them.
-/
structure Mirrors (settings : Settings) (session : String) (own : String → Prop)
    (world mirror : World) : Prop where
  settled : world.settings = settings
  rests : world.AtRest
  mirrored : mirror.AtRest
  course : world.SameCourse mirror
  agrees : (world.desk session).Agrees own (mirror.desk session)
  within : (world.desk session).Within own
  apart : ∀ other, other ≠ session → (world.desk other).Within fun cluster => ¬own cluster

variable {settings : Settings} {session : String} {own : String → Prop} {world mirror : World}

namespace Mirrors

/-- A scan takes the seat in both worlds or in none. -/
theorem scan (mirrors : world.Mirrors settings session own mirror) (limit : Double) :
    (world.scan limit).2.Mirrors settings session own (mirror.scan limit).2 := by
  rcases mirrors.rests.scan limit with ⟨rests, course, clusters, seats⟩
  rcases mirrors.mirrored.scan limit with ⟨mirrored, passed, same, reflected⟩
  have stays : ∀ {asked seat}, (world.scan limit).2.seat? asked = some seat →
      world.seat? asked = some seat := by
    intro asked seat sits
    rw [seats] at sits
    exact (Option.filter_eq_some_iff.mp sits).1
  refine ⟨course.settings.trans mirrors.settled, rests, mirrored,
    course.symm.trans (mirrors.course.trans passed), ⟨?_, ?_⟩, ?_, ?_⟩
  · change (world.scan limit).2.seat? session = (mirror.scan limit).2.seat? session
    rw [seats, reflected, mirrors.course.within]
    exact congrArg (Option.filter (world.within limit)) mirrors.agrees.seat
  · intro cluster mine
    change (Dictionary.get? cluster (world.scan limit).2.clusters).getD [] =
      (Dictionary.get? cluster (mirror.scan limit).2.clusters).getD []
    rw [clusters, same]
    exact mirrors.agrees.contents cluster mine
  · exact fun seat sits => mirrors.within seat (stays sits)
  · exact fun other different seat sits => mirrors.apart other different seat (stays sits)

/-- The clock and the reapers may change in both worlds alike. -/
theorem beside (mirrors : world.Mirrors settings session own mirror) {first second : Time}
    {reapers others : List Reaper} (clock : second = first) (same : others = reapers) :
    Mirrors settings session own { world with now := first, reapers := reapers }
      { mirror with now := second, reapers := others } :=
  ⟨mirrors.settled, ⟨mirrors.rests.rests, mirrors.rests.single⟩,
    ⟨mirrors.mirrored.rests, mirrors.mirrored.single⟩,
    ⟨⟨clock, mirrors.course.rounding, same⟩, mirrors.course.settings, mirrors.course.server⟩,
    ⟨mirrors.agrees.seat, mirrors.agrees.contents⟩, mirrors.within, mirrors.apart⟩

theorem after_eq (mirrors : world.Mirrors settings session own mirror) (time span : Time) :
    mirror.after time span = world.after time span := by
  rw [after, after, mirrors.course.rounding]

/-- A scan that is due is due in both worlds. -/
theorem runDue (mirrors : world.Mirrors settings session own mirror) (number : Nat) (due : Time) :
    (world.runDue number due).Mirrors settings session own (mirror.runDue number due) := by
  have same : mirror.reaper? number = world.reaper? number := by
    rw [reaper?, mirrors.course.reapers, reaper?]
  unfold World.runDue
  rw [same]
  cases world.reaper? number with
  | none =>
      exact mirrors
  | some reaper =>
      have scanned := (mirrors.beside (Eq.refl due) mirrors.course.reapers).scan reaper.idleLimit
      have next : mirror.after due = world.after due := funext (mirrors.after_eq due)
      refine scanned.beside scanned.course.now ?_
      rw [next, scanned.course.reapers]

theorem runUntil (mirrors : world.Mirrors settings session own mirror) (target : Time)
    (fuel : Nat) :
    (world.runUntil target fuel).Mirrors settings session own (mirror.runUntil target fuel) := by
  induction fuel generalizing world mirror with
  | zero =>
      exact mirrors
  | succ fuel ih =>
      have same : mirror.nextDue? target = world.nextDue? target := by
        rw [nextDue?, mirrors.course.reapers, nextDue?]
      rw [World.runUntil, World.runUntil, same]
      split
      · exact ih (mirrors.runDue _ _)
      · exact mirrors

theorem advance (mirrors : world.Mirrors settings session own mirror) (span : Time) :
    (world.advance span).Mirrors settings session own (mirror.advance span) := by
  unfold World.advance
  rw [mirrors.after_eq, mirrors.course.now, mirrors.course.reapers]
  have reached := mirrors.runUntil (world.after world.now span)
  exact (reached _).beside rfl (reached _).course.reapers

/-- An operation of the session is answered the same. -/
theorem serve (mirrors : world.Mirrors settings session own mirror) {request : Request}
    {next reflected : World} (identifies : request.identifies settings.policy = true)
    (connects : ∀ cluster, request.cluster? = some cluster → own cluster)
    (serves : world.Serves session (world.serve session request).2 next)
    (reflects : mirror.Serves session (mirror.serve session request).2 reflected) :
    (world.serve session request).1 = (mirror.serve session request).1 ∧
      next.Mirrors settings session own reflected := by
  have alike : Desk.AnswersAlike own (world.serve session request)
      (mirror.serve session request) := by
    rw [World.serve, World.serve, mirrors.course.settings, mirrors.course.now, mirrors.settled]
    exact mirrors.agrees.serve mirrors.within identifies world.given mirror.given
  refine ⟨alike.answer, serves.course.settings.trans mirrors.settled, serves.rests, reflects.rests,
    serves.course.symm.trans (mirrors.course.trans reflects.course), ?_, ?_, ?_⟩
  · rw [serves.desk_eq, reflects.desk_eq]
    exact alike.agrees
  · rw [serves.desk_eq]
    exact Desk.leaves_serve.within mirrors.within connects
  · intro other different seat sits
    exact mirrors.apart other different seat ((serves.seat?_of_ne different).symm.trans sits)

/-- An operation of another session touches nothing that the session sees. -/
theorem serveOther (mirrors : world.Mirrors settings session own mirror) {other : String}
    (different : other ≠ session) {request : Request} {next : World}
    (connects : ∀ cluster, request.cluster? = some cluster → ¬own cluster)
    (serves : world.Serves other (world.serve other request).2 next) :
    next.Mirrors settings session own mirror := by
  have same : next.seat? session = world.seat? session := serves.seat?_of_ne different.symm
  refine ⟨serves.course.settings.trans mirrors.settled, serves.rests, mirrors.mirrored,
    serves.course.symm.trans mirrors.course, ⟨same.trans mirrors.agrees.seat, ?_⟩, ?_, ?_⟩
  · intro cluster mine
    have elsewhere : (world.desk other).Within (· ≠ cluster) := by
      rintro seat sits rfl
      exact mirrors.apart other different seat sits mine
    change next.contents cluster = _
    rw [serves.contents, World.serve, Desk.leaves_serve.contents elsewhere]
    exact mirrors.agrees.contents cluster mine
  · exact fun seat sits => mirrors.within seat (same.symm.trans sits)
  · intro asked distinct
    by_cases caller : asked = other
    · subst caller
      rw [serves.desk_eq]
      exact Desk.leaves_serve.within (mirrors.apart asked distinct) connects
    · intro seat sits
      exact mirrors.apart asked distinct seat ((serves.seat?_of_ne caller).symm.trans sits)

end Mirrors
end World

/-! ## Two machines -/

namespace Machine

/-- Nothing is to be done in two machines that a session cannot tell apart. -/
structure Mirrors (settings : Settings) (session : String) (own : String → Prop)
    (machine mirror : Machine) : Prop where
  rests : machine.AtRest
  mirrored : mirror.AtRest
  worlds : machine.world.Mirrors settings session own mirror.world

end Machine

/-- What occurs stays in memory and keeps a session and its own clusters apart from others. -/
structure Occurrence.Respects (settings : Settings) (session : String) (own : String → Prop)
    (occurrence : Occurrence) : Prop where
  inMemory : occurrence.staysInMemory = true
  identified : occurrence.caller? = some session → occurrence.identifies settings.policy = true
  connects : occurrence.caller? = some session →
    ∀ cluster, occurrence.cluster? = some cluster → own cluster
  apart : occurrence.caller? ≠ some session →
    ∀ cluster, occurrence.cluster? = some cluster → ¬own cluster

namespace Machine

variable {settings : Settings} {session : String} {own : String → Prop}
  {machine mirror : Machine}

theorem Completes.rests {label : String} {request : Request} {answer : Answer} {next : World}
    (completes : machine.Completes label request answer next) (rests : machine.AtRest)
    (still : next.AtRest) : (machine.submit label request).settle.AtRest := by
  rw [completes]
  exact ⟨rests.ready, rests.draining, still⟩

theorem Completes.answersSince {label : String} {request : Request} {answer : Answer}
    {next : World} (completes : machine.Completes label request answer next) :
    machine.answersSince (machine.submit label request).settle = [answer] := by
  rw [completes, Machine.answersSince, finish]
  simp [within]

namespace Mirrors

/-- What is completed in both machines leaves them so. -/
theorem completed (mirrors : machine.Mirrors settings session own mirror) {label : String}
    {request : Request} {first second : Answer} {next reflected : World}
    (completes : machine.Completes label request first next)
    (reflects : mirror.Completes label request second reflected)
    (worlds : next.Mirrors settings session own reflected) :
    (machine.submit label request).settle.Mirrors settings session own
      (mirror.submit label request).settle := by
  refine ⟨completes.rests mirrors.rests worlds.rests,
    reflects.rests mirrors.mirrored worlds.mirrored, ?_⟩
  rw [completes, reflects]
  exact worlds

/-- What nobody asks for occurs in both machines. -/
theorem occur (mirrors : machine.Mirrors settings session own mirror) {occurrence : Occurrence}
    (uncalled : occurrence.caller? = none) :
    (machine.occur occurrence).Mirrors settings session own (mirror.occur occurrence) := by
  cases occurrence with
  | operation request served =>
      have nobody : request.caller? = none := uncalled
      rw [nobody] at served
      cases served
  | pass span =>
      have passed := mirrors.worlds.advance span
      exact ⟨⟨mirrors.rests.ready, mirrors.rests.draining, passed.rests⟩,
        ⟨mirrors.mirrored.ready, mirrors.mirrored.draining, passed.mirrored⟩, passed⟩
  | scan =>
      rcases mirrors.rests.exists_completes_scan "scan" with ⟨first, completes⟩
      rcases mirrors.mirrored.exists_completes_scan "scan" with ⟨second, reflects⟩
      have same : mirror.world.latestLimit = machine.world.latestLimit := by
        rw [World.latestLimit, World.latestReaper, World.reaper?, mirrors.worlds.course.reapers]
        rfl
      rw [same] at reflects
      exact mirrors.completed completes reflects (mirrors.worlds.scan machine.world.latestLimit)

/-- What the session asks for is answered the same, once. -/
theorem occurFor (mirrors : machine.Mirrors settings session own mirror) {occurrence : Occurrence}
    (asked : occurrence.caller? = some session)
    (respects : occurrence.Respects settings session own) :
    (machine.occur occurrence).Mirrors settings session own (mirror.occur occurrence) ∧
      ∃ answer, machine.answersSince (machine.occur occurrence) = [answer] ∧
        mirror.answersSince (mirror.occur occurrence) = [answer] := by
  cases occurrence with
  | operation request served =>
      have stays : request.staysInMemory = true := respects.inMemory
      rcases mirrors.rests.isServed "operation" asked stays with ⟨next, completes, serves⟩
      rcases mirrors.mirrored.isServed "operation" asked stays with ⟨reflected, reflects, served⟩
      rcases mirrors.worlds.serve (respects.identified asked)
        (respects.connects asked) serves served with ⟨same, worlds⟩
      refine ⟨mirrors.completed completes reflects worlds, _, completes.answersSince, ?_⟩
      rw [same]
      exact reflects.answersSince
  | pass span =>
      cases asked
  | scan =>
      cases asked

/-- What another session asks for occurs in one machine only. -/
theorem occurBeside (mirrors : machine.Mirrors settings session own mirror)
    {occurrence : Occurrence} {other : String} (asked : occurrence.caller? = some other)
    (different : other ≠ session) (respects : occurrence.Respects settings session own) :
    (machine.occur occurrence).Mirrors settings session own mirror := by
  cases occurrence with
  | operation request served =>
      rcases mirrors.rests.isServed "operation" asked respects.inMemory with
        ⟨next, completes, serves⟩
      have elsewhere : Occurrence.caller? (.operation request served) ≠ some session := by
        rw [asked]
        exact fun same => different (Option.some.inj same)
      have worlds := mirrors.worlds.serveOther different (respects.apart elsewhere) serves
      refine ⟨completes.rests mirrors.rests worlds.rests, mirrors.mirrored, ?_⟩
      rw [Machine.occur, completes]
      exact worlds
  | pass span =>
      cases asked
  | scan =>
      cases asked

/-- Whatever occurs, the session is answered the same where only its own operations do. -/
theorem answersTo (mirrors : machine.Mirrors settings session own mirror)
    {occurrences : List Occurrence}
    (respect : ∀ occurrence ∈ occurrences, occurrence.Respects settings session own) :
    machine.answersTo session occurrences =
        mirror.answersTo session (occurrences.filter (·.concerns session)) ∧
      ∀ answers ∈ machine.answersTo session occurrences, answers.length = 1 := by
  induction occurrences generalizing machine mirror with
  | nil =>
      exact ⟨rfl, by simp [Machine.answersTo]⟩
  | cons occurrence rest ih =>
      have respects := respect occurrence List.mem_cons_self
      have others : ∀ later ∈ rest, later.Respects settings session own :=
        fun later member => respect later (List.mem_cons_of_mem occurrence member)
      by_cases mine : occurrence.caller? = some session
      · have kept : occurrence.concerns session = true := by
          simp [Occurrence.concerns, mine]
        rcases mirrors.occurFor mine respects with ⟨still, answer, here, there⟩
        rcases ih still others with ⟨same, single⟩
        rw [List.filter_cons_of_pos kept, Machine.answersTo, Machine.answersTo, if_pos mine,
          if_pos mine, here, there, same]
        refine ⟨rfl, List.forall_mem_cons.mpr ⟨rfl, ?_⟩⟩
        exact same ▸ single
      · rw [Machine.answersTo, if_neg mine]
        cases asked : occurrence.caller? with
        | none =>
            have kept : occurrence.concerns session = true := by
              simp [Occurrence.concerns, asked]
            rw [List.filter_cons_of_pos kept, Machine.answersTo, if_neg mine]
            exact ih (mirrors.occur asked) others
        | some caller =>
            have different : caller ≠ session := by
              rintro rfl
              exact mine asked
            have dropped : ¬occurrence.concerns session = true := by
              simp [Occurrence.concerns, asked, different]
            rw [List.filter_cons_of_neg dropped]
            exact ih (mirrors.occurBeside asked different respects) others

end Mirrors

/-- Before anything happens, nobody has a seat. -/
theorem IsInitial.mirrors (initial : machine.IsInitial) :
    machine.Mirrors machine.world.settings session own machine := by
  have missing : ∀ asked, machine.world.session? asked = none := by
    simp [World.session?, initial.sessions, Dictionary.get?]
  have seatless : ∀ asked seat, machine.world.seat? asked ≠ some seat := by
    intro asked seat sits
    rw [World.seat?_eq_none (missing asked)] at sits
    cases sits
  have unregistered : ∀ asked number, machine.world.handleOf? asked ≠ some number := by
    intro asked number has
    rw [World.handleOf?, missing asked] at has
    cases has
  have rests : machine.world.AtRest :=
    ⟨fun asked number has => (unregistered asked number has).elim,
      fun asked _ number has => (unregistered asked number has).elim⟩
  have machines : machine.AtRest := ⟨initial.ready, initial.draining, rests⟩
  exact ⟨machines, machines, rfl, rests, rests, .refl machine.world, ⟨rfl, fun _ _ => rfl⟩,
    fun seat sits => (seatless session seat sits).elim,
    fun other _ seat sits => (seatless other seat sits).elim⟩

/--
Sessions are isolated: where all clusters are in memory, where no other session connects to a
cluster that a session connects to, and where the documents that it inserts have identities,
each of its operations is answered, and the same as if no other session had asked for anything.
-/
theorem IsInitial.answersTo_eq {start : Machine} (initial : start.IsInitial) (session : String)
    (occurrences : List Occurrence)
    (inMemory : ∀ occurrence ∈ occurrences, occurrence.staysInMemory = true)
    (apart : ∀ mine ∈ occurrences, mine.caller? = some session →
      ∀ theirs ∈ occurrences, theirs.caller? ≠ some session →
        ∀ cluster ∈ mine.cluster?, theirs.cluster? ≠ some cluster)
    (identified : ∀ mine ∈ occurrences, mine.caller? = some session →
      mine.identifies start.world.settings.policy = true) :
    start.answersTo session occurrences =
        start.answersTo session (occurrences.filter (·.concerns session)) ∧
      ∀ answers ∈ start.answersTo session occurrences, answers.length = 1 := by
  let own : String → Prop := fun cluster =>
    ∃ mine ∈ occurrences, mine.caller? = some session ∧ mine.cluster? = some cluster
  have respect : ∀ occurrence ∈ occurrences,
      occurrence.Respects start.world.settings session own := by
    intro occurrence member
    refine ⟨inMemory occurrence member, identified occurrence member, ?_, ?_⟩
    · exact fun asked cluster named => ⟨occurrence, member, asked, named⟩
    · rintro asked cluster named ⟨mine, among, concerns, same⟩
      exact apart mine among concerns occurrence member asked cluster same named
  exact initial.mirrors.answersTo respect

/-- A session inserts a document. -/
def inserting (session : String) : Occurrence :=
  .operation (.query session (.string "db.items.insertOne(\x7b_id: 1\x7d)")) rfl

/-- A session asks for its documents. -/
def finding (session : String) : Occurrence :=
  .operation (.query session (.string "db.items.find(\x7b\x7d)")) rfl

/-- Two sessions in clusters of their own, of which one is idle for longer than the other. -/
def neighbours : List Occurrence :=
  [.operation (.connect "red" (.string "memory://warm")) rfl,
    .operation (.connect "blue" (.string "memory://cold")) rfl,
    inserting "blue", inserting "red", .pass 300, finding "blue", .pass 400, .scan,
    finding "red", inserting "blue"]

theorem neighbours_answersTo :
    (unconnected.answersTo "red" neighbours).map (·.map Answer.fault?) =
        [[none], [none], [some .notConnected]] ∧
      unconnected.answersTo "red" neighbours =
          unconnected.answersTo "red" (neighbours.filter (·.concerns "red")) ∧
        ∀ answers ∈ unconnected.answersTo "red" neighbours, answers.length = 1 := by
  exact ⟨by decide +kernel,
    IsInitial.answersTo_eq ⟨rfl, rfl, rfl, rfl, rfl, rfl, rfl⟩ "red" neighbours
      (by decide +kernel) (by decide +kernel) (by decide +kernel)⟩

end Machine
end DocumentGate.Service
