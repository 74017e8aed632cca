import DocumentGate.Service.Fault
import DocumentGate.Service.Journal

/-!
# Sessions and their handles

The registry knows the handle of each session and when the session was last active.
A handle that leaves the registry is closed by whoever took it out.  A session is idle
when it was last active longer ago than a limit; handles that somebody has borrowed are
never taken for idleness.

Times are in seconds.  A world rounds their sums and differences as doubles, or not at
all where its arithmetic is meant to be exact.  Limits come from the settings and may be
infinite.

What happens to handles and sessions is written down in a journal, which no operation
reads.
-/

namespace DocumentGate.Service

/-- The whole milliseconds of a time: the nearest to its thousandfold, a half to the even one. -/
def milliseconds (time : Time) : Int :=
  let thousandfold := Double.rounded (time * 1000)
  Double.signed (thousandfold < 0)
    (Number.divideRounding thousandfold.num.natAbs thousandfold.den)

/-- A span is longer than a limit.  Nothing stays within a limit that is not a number. -/
def exceeds (elapsed : Time) (limit : Double) : Bool :=
  match limit with
  | .infinite negative => negative
  | limit =>
    match limit.toRat? with
    | some seconds => seconds < elapsed
    | none => true

/-- An entry of the registry. -/
structure Session where
  /-- The number of the handle. -/
  handle : Nat
  lastActivity : Time

/-- What scans the registry for idle sessions. -/
structure Reaper where
  idleLimit : Double
  interval : Double
  running : Bool := false
  /-- When the next scan is due, if there is going to be one. -/
  due : Option Time := none

/-- Everything that outlives an operation. -/
structure World where
  settings : Settings
  server : Postgres.Server := {}
  clusters : Clusters := []
  /-- How many identities were given to documents. -/
  given : Identified.Given := 0
  /-- Every handle that was ever made, by its number. -/
  handles : List Handle := []
  sessions : Dictionary Session := []
  now : Time := 0
  /-- How sums and differences of times are rounded. -/
  rounding : Time → Time := Double.rounded
  /-- The reapers in the order in which they were made; the service starts and stops the first. -/
  reapers : List Reaper := []
  /-- The number of sessions is reported regularly. -/
  reporting : Bool := false
  /-- What happened so far, the latest at the end. -/
  journal : List Entry := []

namespace World

/-! ## The journal -/

/-- The world with one event more in its journal. -/
def note (world : World) (event : Event) : World :=
  { world with journal := world.journal ++ [⟨world.now, event⟩] }

/-- What happened so far, without the times. -/
def history (world : World) : List Event :=
  world.journal.map Entry.event

/-! ## Times -/

/-- The time a span after another time. -/
def after (world : World) (time span : Time) : Time :=
  world.rounding (time + span)

/-- How long ago a time was. -/
def since (world : World) (time : Time) : Time :=
  world.rounding (world.now - time)

/-! ## Handles -/

/-- The handle of a number. -/
def handle? (world : World) (number : Nat) : Option Handle :=
  world.handles[number]?

/-- The world with a handle changed. -/
def changeHandle (world : World) (number : Nat) (change : Handle → Handle) : World :=
  { world with handles := world.handles.modify number change }

/-- The world with one handle more, and the number of that. -/
def addHandle (world : World) (handle : Handle) : Nat × World :=
  (world.handles.length, { world with handles := world.handles ++ [handle] })

/-- The world with a handle borrowed once more, unless closing it has begun. -/
def borrow? (world : World) (number : Nat) : Option World := do
  let handle ← world.handle? number
  let borrowed ← handle.borrow?
  return (world.changeHandle number fun _ => borrowed).note (.borrowed number)

/-- The world with a handle given back once, if it was borrowed. -/
def giveBack? (world : World) (number : Nat) : Option World := do
  let handle ← world.handle? number
  let returned ← handle.giveBack?
  return (world.changeHandle number fun _ => returned).note (.returned number)

/-- Somebody has borrowed the handle. -/
def isBusy (world : World) (number : Nat) : Bool :=
  (world.handle? number).any Handle.isBusy

/-- The last borrower has given the handle back. -/
def isDrained (world : World) (number : Nat) : Bool :=
  (world.handle? number).all Handle.drained

theorem not_isDrained (world : World) (number : Nat) :
    (!world.isDrained number) = world.isBusy number := by
  cases found : world.handle? number with
  | none => simp [isDrained, isBusy, found]
  | some handle => simp [isDrained, isBusy, found, handle.not_drained]

/-- The world with the store of a handle closed. -/
def closeStore (world : World) (number : Nat) : World :=
  (world.changeHandle number Handle.closeStore).note (.storeClosing number)

/-- The world with the store of a handle closed that was tried to close before. -/
def shutStore (world : World) (number : Nat) : World :=
  world.changeHandle number Handle.shutStore

/-- The failure that is reported when closing a handle is done. -/
def closingFault? (world : World) (number : Nat) : Option Fault :=
  ((world.handle? number).bind Handle.closingFault?).map .closing

/-- How closing a handle begins. -/
inductive CloseStart where
  /-- Closing had begun before. -/
  | refused (world : World)
  /-- Nobody has borrowed the handle, and its store was closed. -/
  | closed (world : World)
  /-- Nobody has borrowed the handle, and its store is closed in a turn of its own. -/
  | closing (world : World)
  /-- New borrowers are refused, and the store is closed later. -/
  | waiting (world : World)

/-- Begin to close the store of a handle that nobody has borrowed. -/
def beginStore (world : World) (number : Nat) : CloseStart :=
  if (world.handle? number).any Handle.slow then
    .closing ((world.changeHandle number Handle.tryStore).note (.storeClosing number))
  else .closed (world.closeStore number)

/-- Begin to close a handle. -/
def beginClose (world : World) (number : Nat) : CloseStart :=
  match world.handle? number with
  | none => .refused world
  | some handle =>
    if handle.closing then .refused (world.note (.closingAgain number))
    else
      let refusing := (world.changeHandle number Handle.beginClosing).note (.closing number)
      if !handle.drained then .waiting refusing else refusing.beginStore number

/-! ## Sessions -/

/-- The entry of a session. -/
def session? (world : World) (session : String) : Option Session :=
  Dictionary.get? session world.sessions

/-- The session is active now, if there is one. -/
def refresh (world : World) (session : String) : World :=
  match world.session? session with
  | some entry =>
    let refreshed := { entry with lastActivity := world.now }
    { world with sessions := Dictionary.insert session refreshed world.sessions }.note
      (.active session entry.handle)
  | none => world

/-- The handle of a session, which is active now. -/
def get (world : World) (session : String) : Except Fault (Nat × World) :=
  match world.session? session with
  | some entry => .ok (entry.handle, world.refresh session)
  | none => .error .notConnected

/-- The handle of a session, borrowed; the session is active now. -/
def lease (world : World) (session : String) : Except Fault (Nat × World) :=
  match world.session? session with
  | some entry =>
    match world.borrow? entry.handle with
    | some borrowed => .ok (entry.handle, borrowed.refresh session)
    | none => .error .notConnected
  | none => .error .notConnected

/-- The session is active now, if it still has the handle. -/
def refreshFor (world : World) (session : String) (number : Nat) : World :=
  match world.session? session with
  | some entry => if entry.handle = number then world.refresh session else world
  | none => world

/-- The world with a handle registered for a session, and the handle it had before. -/
def put (world : World) (session : String) (number : Nat) : Option Nat × World :=
  let entry : Session := ⟨number, world.now⟩
  let registered :=
    { world with sessions := Dictionary.insert session entry world.sessions }.note
      (.registered session number)
  match world.session? session with
  | some previous =>
    (some previous.handle, registered.note (.left session previous.handle .replaced))
  | none => (none, registered)

/-- The handle of a session, which leaves the registry for a cause. -/
def take? (world : World) (session : String) (cause : Departure) : Option (Nat × World) :=
  (world.session? session).map fun entry =>
    (entry.handle,
      { world with sessions := Dictionary.erase session world.sessions }.note
        (.left session entry.handle cause))

/-- What monitoring sees of a session. -/
structure Snapshot where
  session : String
  lastActivity : Time
  database : String
  busy : Bool

/-- What monitoring sees, in the order of the registry. -/
def snapshot (world : World) : List Snapshot :=
  world.sessions.filterMap fun (session, entry) =>
    (world.handle? entry.handle).map fun handle =>
      ⟨session, entry.lastActivity, handle.database, handle.isBusy⟩

/-! ## Idle sessions -/

/-- The session is idle for longer than a limit, and nobody has borrowed its handle. -/
def isIdle (world : World) (session : String) (limit : Double) : Bool :=
  match world.session? session with
  | some entry =>
    !world.isBusy entry.handle && exceeds (world.since entry.lastActivity) limit
  | none => false

/-- The sessions that were last active longer ago than a limit, in the order of the registry. -/
def overdue (world : World) (limit : Double) : List String :=
  (world.sessions.filter fun (_, entry) =>
    exceeds (world.since entry.lastActivity) limit).map Prod.fst

/-- What became of a session that may be idle. -/
structure Eviction where
  world : World
  evicted : Bool
  fault : Option Fault := none

/-- Take a session out and close its handle, if it is idle, all in one. -/
def evict (world : World) (session : String) (limit : Double) : Eviction :=
  if world.isIdle session limit then
    match world.take? session (.evicted limit) with
    | some (number, rest) =>
      let closed :=
        match rest.beginClose number with
        | .refused world => world
        | .closed world => world
        | .closing world => world.shutStore number
        | .waiting world => world
      ⟨closed, true, closed.closingFault? number⟩
    | none => ⟨world, false, none⟩
  else ⟨world, false, none⟩

/-- Evict those of some sessions that are idle; a reported failure ends the scan. -/
def evictAll (limit : Double) (world : World) :
    List String → Except Fault (List String) × World
  | [] => (.ok [], world)
  | session :: rest =>
    let eviction := world.evict session limit
    match eviction.fault with
    | some fault => (.error fault, eviction.world)
    | none =>
      let (others, final) := evictAll limit eviction.world rest
      (others.map fun others => if eviction.evicted then session :: others else others, final)

/-- One scan of the registry while nothing else is ready. -/
def scan (world : World) (limit : Double) : Except Fault (List String) × World :=
  world.evictAll limit (world.overdue limit)

/-! ## Reapers -/

/-- The number of the reaper that was made last. -/
def latestReaper (world : World) : Nat :=
  world.reapers.length - 1

/-- The reaper of a number. -/
def reaper? (world : World) (number : Nat) : Option Reaper :=
  world.reapers[number]?

/-- The world with a reaper changed. -/
def changeReaper (world : World) (number : Nat) (change : Reaper → Reaper) : World :=
  { world with reapers := world.reapers.modify number change }

/-- A reaper scans regularly. -/
def isReaping (world : World) (number : Nat) : Bool :=
  (world.reaper? number).any Reaper.running

/-- Make one more reaper. -/
def makeReaper (world : World) (idleLimit interval : Double) : Except Fault World :=
  if Number.lessOrEqual (.double idleLimit) (.integer 0) then .error .idleLimitNotPositive
  else if Number.lessOrEqual (.double interval) (.integer 0) then .error .intervalNotPositive
  else
    let reaper : Reaper := { idleLimit := idleLimit, interval := interval }
    .ok { world with reapers := world.reapers ++ [reaper] }

/-- A reaper scans regularly from now on, if it did not before. -/
def startReaper (world : World) (number : Nat) : World :=
  world.changeReaper number fun reaper =>
    if reaper.running then reaper
    else
      { reaper with running := true, due := reaper.interval.toRat?.map (world.after world.now) }

/-- A reaper does not scan any more. -/
def stopReaper (world : World) (number : Nat) : World :=
  world.changeReaper number fun reaper => { reaper with running := false, due := none }

/-! ## The passing of time -/

/-- The reaper whose next scan is due first, up to a time. -/
def nextDue? (world : World) (target : Time) : Option (Nat × Time) :=
  let dues := world.reapers.zipIdx.filterMap fun (reaper, number) =>
    reaper.due.map fun due => (number, due)
  (dues.filter fun (_, due) => due ≤ target).foldl
    (fun first candidate =>
      match first with
      | some found => if candidate.2 < found.2 then some candidate else some found
      | none => some candidate)
    none

/-- The scan of a reaper when it is due. -/
def runDue (world : World) (number : Nat) (due : Time) : World :=
  match world.reaper? number with
  | none => world
  | some reaper =>
    let next := reaper.interval.toRat?.map (world.after due)
    let scanned := ({ world with now := due }.scan reaper.idleLimit).2
    scanned.changeReaper number fun reaper => { reaper with due := next }

/-- Run the scans that are due up to a time, at most so many. -/
def runUntil (target : Time) : (fuel : Nat) → World → World
  | 0, world => world
  | fuel + 1, world =>
    match world.nextDue? target with
    | some (number, due) => runUntil target fuel (world.runDue number due)
    | none => world

/--
How many scans of a reaper are due up to a time, at most.  Rounding makes the span between
two scans shorter than the interval, but never by more than half of it.
-/
def dueCount (target : Time) (reaper : Reaper) : Nat :=
  match reaper.due, reaper.interval.toRat? with
  | some due, some interval =>
    if due ≤ target then (2 * (target - due) / interval).floor.toNat + 1 else 0
  | _, _ => 0

/-- Let time pass, with every scan at the time when it is due. -/
def advance (world : World) (span : Time) : World :=
  let target := world.after world.now span
  let fuel := world.reapers.foldl (fun count reaper => count + dueCount target reaper) 0
  { world.runUntil target fuel with now := target }

/-! ## What the passing of time keeps -/

section Passing

variable {holds : World → Prop}
  (evicts : ∀ {world : World} (session : String) (limit : Double), holds world →
    holds (world.evict session limit).world)
  (waits : ∀ {world : World} (now : Time) (reapers : List Reaper), holds world →
    holds { world with now := now, reapers := reapers })

include evicts

theorem holds_evictAll (limit : Double) (sessions : List String) {world : World}
    (before : holds world) : holds (world.evictAll limit sessions).2 := by
  induction sessions generalizing world with
  | nil =>
      exact before
  | cons session rest ih =>
      rw [evictAll]
      dsimp only
      split
      · exact evicts session limit before
      · exact ih (evicts session limit before)

include waits

theorem holds_runDue {world : World} (before : holds world) (number : Nat) (due : Time) :
    holds (world.runDue number due) := by
  unfold runDue
  split
  · exact before
  · exact waits _ _ (holds_evictAll evicts _ _ (waits _ world.reapers before))

/-- Sessions are evicted while time passes, and nothing else happens but to clock and reapers. -/
theorem holds_advance {world : World} (before : holds world) (span : Time) :
    holds (world.advance span) := by
  have ran (target : Time) (fuel : Nat) {world : World} (before : holds world) :
      holds (world.runUntil target fuel) := by
    induction fuel generalizing world with
    | zero =>
        exact before
    | succ fuel ih =>
        rw [runUntil]
        split
        · exact ih (holds_runDue evicts waits before _ _)
        · exact before
  exact waits _ _ (ran _ _ before)

end Passing

end World

/-- A world whose reaper follows the settings. -/
def World.ofSettings (settings : Settings) (server : Postgres.Server)
    (clusters : Clusters) : World where
  settings := settings
  server := server
  clusters := clusters
  reapers := [{ idleLimit := settings.idleTimeout, interval := settings.scanInterval }]

end DocumentGate.Service
