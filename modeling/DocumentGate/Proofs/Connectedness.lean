import DocumentGate.Proofs.Endings
import DocumentGate.Proofs.SessionIsolation
import Mathlib.Data.Set.Card

/-!
# Connectedness

Where every operation is completed before the next one begins, what has become of a session is
told by its milestones: it is connected if it has connected successfully since it was last ended
or evicted and since the service was last shut down.  Whatever is asked for it is refused for want
of a connection exactly if it is not connected, before anything else is looked at, and the
registry has as many entries as there are connected sessions.
-/

namespace DocumentGate.Service

/-! ## What comes to pass -/

/-- Something that is asked of the service or of its reaper. -/
def Request.isOfService : Request → Bool
  | .ask _ => true
  | .connect _ _ => true
  | .listDatabases _ => true
  | .selectDatabase _ _ => true
  | .listCollections _ => true
  | .query _ _ => true
  | .endSession _ => true
  | .label _ => true
  | .start => true
  | .shutdown => true
  | .scan => true
  | _ => false

/-- The milestone that is passed by an operation that succeeds. -/
def Request.milestone? (request : Request) (answer : Answer) : Option Milestone :=
  match request, answer.fault? with
  | .connect session _, none => some (.connected session)
  | .endSession session, none => some (.ended session)
  | .shutdown, none => some .halted
  | _, _ => none

/-- What comes to pass in a service where each operation is completed before the next begins. -/
inductive Affair where
  | operation (request : Request) (ofService : request.isOfService = true)
  /-- Time passes, and reapers scan when that is due. -/
  | pass (span : Time)

/-- The milestone that is passed, as the answer tells. -/
def Affair.milestone? (affair : Affair) (answer : Answer) : Option Milestone :=
  match affair with
  | .operation request _ => request.milestone? answer
  | .pass _ => none

/-- The milestones are passed that the answer and the journal tell. -/
def World.Accounts (world : World) (request : Request) (answer : Answer) (next : World) : Prop :=
  ∃ gone : List String,
    world.Leads (gone.map .evicted ++ (request.milestone? answer).toList) next

namespace Machine

/-- The machine when an operation was completed. -/
def completing (machine : Machine) (request : Request) : Machine :=
  (machine.submit "operation" request).settle

/-- What an operation is answered. -/
def repliesTo (machine : Machine) (request : Request) : List Answer :=
  machine.answersSince (machine.completing request)

/-- What becomes of a machine. -/
def following (machine : Machine) : Affair → Machine
  | .operation request _ => machine.completing request
  | .pass span => machine.advance span

/-- The milestones that are passed: evictions by the journal, and all others by the answers. -/
def passed (machine : Machine) (affair : Affair) : List Milestone :=
  let next := machine.following affair
  ((next.world.journal.drop machine.world.journal.length).filterMap Entry.evicted?).map .evicted ++
    (machine.answersSince next).filterMap affair.milestone?

/-- What becomes of a machine by one affair after the other. -/
def followingAll (machine : Machine) (affairs : List Affair) : Machine :=
  affairs.foldl following machine

/-- The milestones that are passed by one affair after the other. -/
def annals : Machine → List Affair → List Milestone
  | _, [] => []
  | machine, affair :: rest => machine.passed affair ++ annals (machine.following affair) rest

/-- What a machine in which nothing is to be done makes of milestones. -/
structure Reflects (machine : Machine) (milestones : List Milestone) : Prop where
  /-- Whatever is asked for a session is refused for want of a connection if there is none. -/
  asked : ∀ session request, request.asks? = some session → ∃ answer,
    machine.repliesTo request = [answer] ∧
      (answer = .fault .notConnected ↔ ¬IsConnected session milestones)
  ended : ∀ session, ∃ answer, machine.repliesTo (.endSession session) = [answer] ∧
    (answer = .fault .noActiveSession ↔ ¬IsConnected session milestones)
  /-- Where there is no connection, nothing changes. -/
  unchanged : ∀ session request, request.asks? = some session ∨ request = .endSession session →
    ¬IsConnected session milestones → (machine.completing request).world = machine.world
  active : machine.world.sessions.length = {session | IsConnected session milestones}.ncard

variable {machine rest : Machine} {request : Request} {label : String}

/-! ## Completion -/

/-- What a turn keeps, some turns keep. -/
theorem runTurns_keeps (holds : Machine → Prop)
    (keeps : ∀ {machine next : Machine}, holds machine → machine.resume 0 = some next → holds next)
    (before : holds machine) (fuel : Nat) : holds (runTurns fuel machine) := by
  induction fuel generalizing machine with
  | zero =>
      exact before
  | succ fuel ih =>
      rw [runTurns]
      split
      · rename_i next resumed
        exact ih (keeps before resumed)
      · exact before

/-- There are more turns than an operation takes. -/
theorem le_turnLimit (idle : rest.ready = []) (label : String) (request : Request) :
    rest.world.sessions.length + 5 ≤ (rest.submit label request).turnLimit := by
  have ready : (rest.submit label request).ready = [⟨label, .begin request⟩] := by
    rw [submit, later, idle, List.nil_append]
  have sessions : (rest.submit label request).world.sessions = rest.world.sessions := rfl
  rw [turnLimit, ready, sessions]
  refine le_trans ?_ (Nat.le_mul_of_pos_left _ (Nat.succ_pos _))
  omega

theorem answersSince_finish (next : World) (answer : Answer) :
    rest.answersSince ((rest.within next).finish label answer) = [answer] := by
  simp [answersSince, finish, within]

/-- Among the milestones of an operation, evictions are told by the journal. -/
theorem evicted?_milestones (gone : List String) (request : Request) (answer : Answer) :
    (gone.map Milestone.evicted ++ (request.milestone? answer).toList).filterMap
      Milestone.evicted? = gone := by
  have other : (request.milestone? answer).toList.filterMap Milestone.evicted? = [] := by
    unfold Request.milestone?
    split <;> rfl
  rw [List.filterMap_append, other, List.append_nil, List.filterMap_map]
  exact List.filterMap_some

namespace IsQuiet

variable (quiet : rest.IsQuiet)

include quiet

/-- An operation that comes to an end has come to it when it is completed. -/
theorem exists_completing {holds : Answer → World → Prop}
    (concludes : rest.Concludes "operation" (rest.world.sessions.length + 4)
      (rest.begin "operation" request) holds) :
    ∃ answer next, holds answer next ∧
      rest.completing request = (rest.within next).finish "operation" answer := by
  have begun : rest.Concludes "operation" (rest.world.sessions.length + 5)
      (rest.submit "operation" request) holds :=
    concludes_later quiet.ready concludes
  rcases begun with ⟨answer, next, held, runs⟩
  exact ⟨answer, next, held, runs _ (le_turnLimit quiet.ready "operation" request)⟩

/-- What is left when an operation was completed is quiet again. -/
theorem of_completing (orderly : request.isOrderly = true) {answer : Answer} {next : World}
    (unlent : next.Lends none)
    (completes : rest.completing request = (rest.within next).finish "operation" answer) :
    (rest.completing request).IsQuiet := by
  have runs : Relation.ReflTransGen Step rest (rest.completing request) ∧
      (rest.completing request).world.ground.IsSteady := by
    refine runTurns_keeps
      (fun next => Relation.ReflTransGen Step rest next ∧ next.world.ground.IsSteady) ?_
      ⟨.single (.submit "operation" orderly), quiet.calm.steady⟩ _
    intro earlier later before resumed
    exact ⟨before.1.tail (.turn resumed), lasting_isSteady.resume before.2 resumed⟩
  have lends : rest.Lends := by
    simp [Machine.Lends, leases, quiet.ready, quiet.loans]
  rcases steps_keep runs.1 quiet.sound lends World.kept_distinct quiet.distinct with
    ⟨sound, -, distinct⟩
  refine ⟨sound, ⟨?_, runs.2⟩, distinct, ?_, ?_, ?_⟩ <;>
    rw [completes]
  · exact unlent
  · exact quiet.ready
  · exact quiet.draining
  · exact quiet.loans

theorem advance (span : Time) : (rest.advance span).IsQuiet where
  sound := quiet.sound.step (.pass span)
  calm := quiet.calm.of_ground ((World.Evicts.advance rest.world span).frees quiet.calm.unlent)
    (rest.world.ground_advance span)
  distinct := World.kept_distinct.advance quiet.distinct span
  ready := quiet.ready
  draining := quiet.draining
  loans := quiet.loans

/-- Every operation of the service passes the milestones that its answer and the journal tell. -/
theorem concludes_begin (ofService : request.isOfService = true) :
    rest.Concludes label (rest.world.sessions.length + 4) (rest.begin label request)
      (rest.world.Accounts request) := by
  have stays : ∀ {answer next}, request.milestone? answer = none → rest.world.Leads [] next →
      rest.world.Accounts request answer next :=
    fun none leads => ⟨[], by rw [none]; exact leads⟩
  have asked : ∀ {session}, request.asks? = some session →
      (∀ answer, request.milestone? answer = none) →
        rest.Concludes label (rest.world.sessions.length + 4) (rest.begin label request)
          (rest.world.Accounts request) := by
    intro session asks none
    cases known : rest.world.knows session with
    | true =>
        refine Concludes.longer (quiet.concludes_asked known asks ?_) (Nat.le_add_left 1 _)
        exact fun answer next _ leads => stays (none answer) leads
    | false =>
        rw [begin_of_unknown known asks]
        exact concludes_finish quiet.ready (stays (none _) quiet.calm.leads)
  cases request with
  | listDatabases session | listCollections session =>
      exact asked rfl fun _ => rfl
  | selectDatabase session name =>
      exact asked rfl fun _ => rfl
  | query session command =>
      exact asked rfl fun _ => rfl
  | connect session address =>
      refine Concludes.longer (quiet.concludes_connect session address ?_ ?_) (by omega)
      · exact fun fault next leads => stays rfl leads
      · exact fun value next leads => ⟨[], leads⟩
  | endSession session =>
      rw [begin]
      refine Concludes.longer (concludes_remove quiet.ready quiet.calm session ?_ ?_) (by omega)
      · exact fun _ => stays rfl quiet.calm.leads
      · exact fun next _ leads => ⟨[], leads⟩
  | shutdown =>
      rw [begin]
      exact concludes_shutdown quiet.ready quiet.calm fun next leads => ⟨[], leads⟩
  | scan =>
      have fewer : (rest.world.overdue rest.world.latestLimit).length ≤
          rest.world.sessions.length := by
        rw [World.overdue, List.length_map]
        exact List.length_filter_le _ _
      rw [begin]
      refine Concludes.longer (concludes_scan quiet.ready rest.world.latestLimit _ [] quiet.calm ?_)
        (fewer.trans (Nat.le_add_right _ 4))
      exact fun answer next gone leads => ⟨gone, by simpa [Request.milestone?] using leads⟩
  | ask question =>
      exact concludes_finish quiet.ready (stays rfl quiet.calm.leads)
  | label session =>
      rw [begin]
      split
      · rename_i number world got
        rw [World.get_eq_ok got]
        exact concludes_finish quiet.ready
          (stays rfl ⟨.refresh rest.world session, quiet.calm.unlent.refresh session⟩)
      · exact concludes_finish quiet.ready (stays rfl quiet.calm.leads)
  | start =>
      refine concludes_finish quiet.ready (stays rfl ?_)
      exact ⟨.still rfl rfl, quiet.calm.unlent⟩
  | _ =>
      cases ofService

/-- An affair passes its milestones, and what is left is quiet again. -/
theorem following (affair : Affair) :
    (rest.following affair).IsQuiet ∧
      rest.world.Marks (rest.passed affair) (rest.following affair).world := by
  cases affair with
  | operation request ofService =>
      have orderly : request.isOrderly = true := by
        cases request <;> first | rfl | cases ofService
      rcases quiet.exists_completing (quiet.concludes_begin ofService) with
        ⟨answer, next, ⟨gone, leads⟩, completes⟩
      have marks : rest.world.Marks (gone.map .evicted ++ (request.milestone? answer).toList)
          (rest.following (.operation request ofService)).world := by
        rw [Machine.following, completes]
        exact leads.marks
      have answers : rest.answersSince (rest.following (.operation request ofService)) =
          [answer] := by
        rw [Machine.following, completes, answersSince_finish]
      refine ⟨quiet.of_completing orderly leads.unlent completes, ?_⟩
      -- the journal tells the evictions of the operation, and its one answer the rest
      have told : [answer].filterMap (request.milestone? ·) =
          (request.milestone? answer).toList := by
        cases passes : request.milestone? answer <;> simp [passes]
      rw [passed, marks.evictions, answers, evicted?_milestones]
      exact told ▸ marks
  | pass span =>
      refine ⟨quiet.advance span, ?_⟩
      rcases (World.Evicts.advance rest.world span).marks with ⟨gone, marks⟩
      have told : (gone.map Milestone.evicted).filterMap Milestone.evicted? = gone := by
        rw [List.filterMap_map]
        exact List.filterMap_some
      have silent : rest.answersSince (rest.following (.pass span)) = [] := by
        simp [answersSince, Machine.following, Machine.advance, within]
      have same : rest.passed (.pass span) = gone.map .evicted := by
        rw [passed, silent]
        change ((rest.world.advance span).journal.drop _ |>.filterMap _).map _ ++ [] = _
        rw [marks.evictions, told, List.append_nil]
      rw [same]
      exact marks

theorem followingAll (affairs : List Affair) :
    (rest.followingAll affairs).IsQuiet ∧
      rest.world.Marks (rest.annals affairs) (rest.followingAll affairs).world := by
  induction affairs generalizing rest with
  | nil =>
      exact ⟨quiet, .refl rest.world⟩
  | cons affair affairs ih =>
      rcases quiet.following affair with ⟨left, marks⟩
      rcases ih left with ⟨last, further⟩
      exact ⟨last, marks.trans further⟩

/-- A request is answered once, and what is left is as the end of its turns says. -/
theorem exists_reply (holds : Answer → World → Prop)
    (concludes : rest.Concludes "operation" 1 (rest.begin "operation" request) holds) :
    ∃ answer, rest.repliesTo request = [answer] ∧
      holds answer (rest.completing request).world := by
  rcases quiet.exists_completing (concludes.longer (Nat.le_add_left 1 _)) with
    ⟨answer, next, held, completes⟩
  rw [repliesTo, completes]
  exact ⟨answer, answersSince_finish next answer, held⟩

/-- Where there is no connection, that is said, and nothing changes. -/
theorem asked {session : String} (asks : request.asks? = some session) :
    ∃ answer, rest.repliesTo request = [answer] ∧
      (answer = .fault .notConnected ↔ rest.world.knows session = false) ∧
      (rest.world.knows session = false → (rest.completing request).world = rest.world) := by
  refine quiet.exists_reply (fun answer next => (answer = .fault .notConnected ↔
    rest.world.knows session = false) ∧ (rest.world.knows session = false → next = rest.world)) ?_
  cases known : rest.world.knows session with
  | true =>
      refine quiet.concludes_asked known asks fun answer next other leads => ⟨?_, Bool.noConfusion⟩
      exact ⟨fun same => absurd same other, Bool.noConfusion⟩
  | false =>
      rw [begin_of_unknown known asks]
      exact concludes_finish quiet.ready ⟨⟨fun _ => rfl, fun _ => rfl⟩, fun _ => rfl⟩

/-- Where there is no session to end, that is said, and nothing changes. -/
theorem ended (session : String) :
    ∃ answer, rest.repliesTo (.endSession session) = [answer] ∧
      (answer = .fault .noActiveSession ↔ rest.world.knows session = false) ∧
      (rest.world.knows session = false →
        (rest.completing (.endSession session)).world = rest.world) := by
  refine quiet.exists_reply (fun answer next => (answer = .fault .noActiveSession ↔
    rest.world.knows session = false) ∧ (rest.world.knows session = false → next = rest.world)) ?_
  rw [begin]
  refine concludes_remove quiet.ready quiet.calm session ?_ ?_
  · exact fun missing => ⟨⟨fun _ => missing, fun _ => rfl⟩, fun _ => rfl⟩
  · intro next known leads
    rw [known]
    exact ⟨⟨Answer.noConfusion, Bool.noConfusion⟩, Bool.noConfusion⟩

/-- Where the registry has the sessions that are connected, everything follows from that. -/
theorem reflects {milestones : List Milestone}
    (told : ∀ session, rest.world.knows session = true ↔ IsConnected session milestones) :
    rest.Reflects milestones := by
  have missing : ∀ session,
      rest.world.knows session = false ↔ ¬IsConnected session milestones := by
    intro session
    rw [← told, Bool.not_eq_true]
  refine ⟨?_, ?_, ?_, ?_⟩
  · intro session request asks
    rcases quiet.asked asks with ⟨answer, replies, refused, -⟩
    exact ⟨answer, replies, refused.trans (missing session)⟩
  · intro session
    rcases quiet.ended session with ⟨answer, replies, refused, -⟩
    exact ⟨answer, replies, refused.trans (missing session)⟩
  · rintro session request (asks | rfl) disconnected
    · rcases quiet.asked asks with ⟨answer, -, -, unchanged⟩
      exact unchanged ((missing session).mpr disconnected)
    · rcases quiet.ended session with ⟨answer, -, -, unchanged⟩
      exact unchanged ((missing session).mpr disconnected)
  -- the names in the registry are distinct, so that there are as many entries as names
  · have same : {session | IsConnected session milestones} =
        ((Dictionary.names rest.world.sessions).toFinset : Set String) := by
      ext session
      rw [Set.mem_ofPred_eq, ← told, World.knows_eq]
      simp
    rw [same, Set.ncard_coe_finset, List.toFinset_card_of_nodup quiet.distinct]
    exact (List.length_map _).symm

end IsQuiet

theorem IsInitial.isQuiet {start : Machine} (initial : start.IsInitial) : start.IsQuiet where
  sound := initial.sound
  calm := by
    refine ⟨fun asked => ?_, ?_⟩
    · simp [World.borrowersOf, World.handle?, initial.handles]
    · constructor <;>
        intro root member <;>
        rw [World.ground, initial.handles] at member <;>
        cases member
  distinct := by
    simp [World.Distinct, initial.sessions, Dictionary.names]
  ready := initial.ready
  draining := initial.draining
  loans := initial.loans

/--
After any operations, each completed before the next one, and any spans of time, the milestones
tell who is connected: whoever is not is refused everything, and nothing else is counted.
-/
theorem IsInitial.reflects_annals {start : Machine} (initial : start.IsInitial)
    (affairs : List Affair) :
    (start.followingAll affairs).Reflects (start.annals affairs) := by
  rcases initial.isQuiet.followingAll affairs with ⟨quiet, marks⟩
  refine quiet.reflects fun session => ?_
  have unknown : start.world.knows session = false := by
    simp [World.knows, World.session?, initial.sessions, Dictionary.get?]
  rw [marks.roster, unknown, connectedAfter_iff]

/-- Two sessions connect, one of them in vain, and then the other one is left alone. -/
def neglected : List Affair :=
  [.operation .start rfl,
    .operation (.connect "red" (.string "memory://local/app")) rfl,
    .operation (.connect "blue" (.string "nowhere")) rfl,
    .pass 700,
    .operation (.connect "blue" (.string "memory://local/app")) rfl,
    .operation (.query "red" (.string "db.things.find()")) rfl]

theorem neglected_reflects :
    atFirst.annals neglected = [.connected "red", .evicted "red", .connected "blue"] ∧
      (atFirst.followingAll neglected).Reflects (atFirst.annals neglected) :=
  ⟨by decide +kernel, IsInitial.reflects_annals ⟨rfl, rfl, rfl, rfl, rfl, rfl, rfl⟩ neglected⟩

end Machine
end DocumentGate.Service
