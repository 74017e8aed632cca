import DocumentGate.Proofs.SameWorlds

/-!
# Operations that fail

An operation of the service that fails leaves everything as it was, but for the time when
its caller was last active.  Either it fails before it does anything, or it has borrowed the
handle of its session and gives it back with the fault.  A call of a cluster that is refused
changes nothing, and closing a handle does not fail, so that connecting and ending a session
can fail only at their beginning.
-/

namespace DocumentGate

namespace Store.Cluster

/-! ## Calls that are refused -/

/-- A call that is refused leaves the cluster as it was. -/
theorem cluster_perform_of_error {default : String} {call : Call} {keeping : Keeping}
    {fault : Fault} (refused : (perform default call keeping).1 = .error fault) :
    (perform default call keeping).2.cluster = keeping.cluster := by
  have settled : ∀ (keeping : Keeping) (result : Except Fault (Reply × Cluster)),
      (keeping.settle result).1 = .error fault →
        (keeping.settle result).2.cluster = keeping.cluster := by
    intro keeping result stopped
    cases result with
    | ok done =>
        cases stopped
    | error other =>
        rfl
  cases call with
  | insert place values =>
      exact settled _ _ refused
  | update place filter update many =>
      exact settled _ _ refused
  | delete place filter many =>
      exact settled _ _ refused
  | _ =>
      rfl

end Store.Cluster

namespace Service

/-! ## Handles of connections -/

/-- Closing a handle goes well, and the cluster that its store is exists. -/
structure Ground.IsSteady (ground : Ground) : Prop where
  sound : ∀ root ∈ ground.roots, root.manner = .sound
  known : ∀ root ∈ ground.roots, ∀ cluster ∈ root.cluster,
    (Dictionary.get? cluster ground.clusters).isSome = true

/-- Opening a connection leaves every cluster there. -/
theorem isSome_openUri {settings : Settings} {server : Postgres.Server} {clusters : Clusters}
    {address : Json} {name : String} (present : (Dictionary.get? name clusters).isSome = true) :
    (Dictionary.get? name
      (Connection.openUri settings server clusters address).clusters).isSome = true := by
  rcases openUri_cases settings server clusters address with
    ⟨label, cluster, database, -, grown⟩ | ⟨same, -⟩
  · rw [grown]
    split
    · exact present
    · exact Dictionary.isSome_get?_insert present
  · rw [same]
    exact present

/-- The handle of a connection that is opened can be closed, and its cluster exists. -/
theorem rootOf_openUri {settings : Settings} {server : Postgres.Server} {clusters : Clusters}
    {address : Json} {handle : Handle}
    (opened : (Connection.openUri settings server clusters address).result = .ok handle) :
    (rootOf handle).manner = .sound ∧ ∀ cluster ∈ (rootOf handle).cluster,
      (Dictionary.get? cluster
        (Connection.openUri settings server clusters address).clusters).isSome = true := by
  rcases openUri_cases settings server clusters address with
    ⟨label, cluster, database, result, grown⟩ | ⟨-, servers⟩
  · obtain rfl := Except.ok.inj (result.symm.trans opened)
    refine ⟨rfl, ?_⟩
    intro other same
    obtain rfl := Option.some.inj same
    rw [grown]
    split
    · assumption
    · rw [Dictionary.get?_insert, if_pos rfl]
      rfl
  · rcases servers handle opened with ⟨label, connection, rfl⟩
    exact ⟨rfl, nofun⟩

/-- A connection that cannot be opened leaves the clusters as they are. -/
theorem clusters_openUri_of_error {settings : Settings} {server : Postgres.Server}
    {clusters : Clusters} {address : Json} {fault : Connection.Fault}
    (refused : (Connection.openUri settings server clusters address).result = .error fault) :
    (Connection.openUri settings server clusters address).clusters = clusters := by
  rcases openUri_cases settings server clusters address with
    ⟨label, cluster, database, result, -⟩ | ⟨same, -⟩
  · cases result.symm.trans refused
  · exact same

theorem lasting_isSteady : Lasting Ground.IsSteady where
  called := by
    intro ground cluster default call given steady
    constructor
    · exact steady.sound
    · intro root member name same
      exact Dictionary.isSome_get?_insert (steady.known root member name same)
  opened := by
    intro ground settings server address steady
    have cases : ∀ root, root ∈ (ground.opened
        (Connection.openUri settings server ground.clusters address)).roots →
          root ∈ ground.roots ∨ ∃ handle, rootOf handle = root ∧
            (Connection.openUri settings server ground.clusters address).result = .ok handle := by
      intro root member
      rcases List.mem_append.mp member with old | new
      · exact Or.inl old
      · refine Or.inr ?_
        cases result : (Connection.openUri settings server ground.clusters address).result with
        | ok handle =>
            rw [result] at new
            exact ⟨handle, (List.mem_singleton.mp new).symm, rfl⟩
        | error fault =>
            rw [result] at new
            cases new
    constructor
    · intro root member
      rcases cases root member with old | ⟨handle, rfl, result⟩
      · exact steady.sound root old
      · exact (rootOf_openUri result).1
    · intro root member name same
      rcases cases root member with old | ⟨handle, rfl, result⟩
      · exact isSome_openUri (steady.known root old name same)
      · exact (rootOf_openUri result).2 name same

theorem World.rootOf_mem {world : World} {number : Nat} {handle : Handle}
    (found : world.handle? number = some handle) : rootOf handle ∈ world.ground.roots :=
  List.mem_map_of_mem (List.mem_of_getElem? found)

/-- No failure is reported after closing a handle. -/
theorem Ground.IsSteady.closingFault?_eq_none {world : World} (steady : world.ground.IsSteady)
    (number : Nat) : world.closingFault? number = none := by
  rw [World.closingFault?, Option.map_eq_none_iff, Option.bind_eq_none_iff]
  intro handle found
  have sound : handle.manner = .sound := steady.sound _ (World.rootOf_mem found)
  rw [Handle.closingFault?, sound]

/-! ## Operations that run by themselves -/

/-- The session for which a caller asks for an operation. -/
def Request.caller? : Request → Option String
  | .connect session _ => some session
  | .listDatabases session => some session
  | .selectDatabase session _ => some session
  | .listCollections session => some session
  | .query session _ => some session
  | .endSession session => some session
  | _ => none

/-- A call is answered with a fault only where the store refused it. -/
theorem Use.error_of_answer (use : Use) {result : Except Store.Fault Store.Reply} {fault : Fault}
    (failed : use.answer result = .fault fault) : ∃ cause, result = .error cause := by
  cases result with
  | ok reply =>
      unfold Use.answer at failed
      split at failed
      case h_2 impossible =>
        cases impossible
      case h_7 impossible =>
        cases impossible
      all_goals
        cases failed
  | error cause =>
      exact ⟨cause, rfl⟩

/-- The fault that an answer is. -/
def Answer.fault? : Answer → Option Fault
  | .fault cause => some cause
  | _ => none

/-- What is left of an operation is a call for a session, of a cluster that exists. -/
def Work.CallsFor (clusters : Clusters) (session : String) (number : Nat) : Work → Prop
  | .call handle cluster _ _ use =>
    handle = number ∧ use.session? = some session ∧
      (Dictionary.get? cluster clusters).isSome = true
  | .called handle use _ => handle = number ∧ use.session? = some session
  | _ => False

/-- What is left of an operation is to register a handle, or to answer that one was closed. -/
def Work.Settles : Work → Prop
  | .opened _ _ => True
  | .shut _ (.answer _) => True
  | _ => False

namespace Machine

/-- The fault that was answered after so many answers. -/
def faultAfter? (machine : Machine) (count : Nat) : Option Fault :=
  machine.answers[count]?.bind (·.2.fault?)

/-- An operation that is asked for takes turns by itself until it answers. -/
inductive Alone (machine : Machine) (label : String) (request : Request) : Machine → Prop where
  | ask : Alone machine label request (machine.submit label request)
  /-- Time passes, and no reaper scans. -/
  | wait {next : Machine} (alone : Alone machine label request next) (time : Time) :
      Alone machine label request (next.within { next.world with now := time })
  /-- What was ready before stays so, and the operation takes its turn behind that. -/
  | turn {next following : Machine} (alone : Alone machine label request next)
      (silent : next.answers.length = machine.answers.length)
      (resumed : next.resume machine.ready.length = some following) :
      Alone machine label request following

/-- How far an operation has come that runs by itself. -/
inductive Stage (machine : Machine) (label session : String) (next : Machine) : Prop where
  /-- It has not begun. -/
  | asked {request : Request} (asks : request.caller? = some session)
      (ready : next.ready = machine.ready ++ [⟨label, .begin request⟩])
      (silent : next.answers = machine.answers)
      (same : machine.world.SameBut session next.world)
  /-- It has borrowed the handle of the session and calls its store. -/
  | calling {work : Work} {handle : Nat}
      (calls : work.CallsFor machine.world.clusters session handle)
      (ready : next.ready = machine.ready ++ [⟨label, work⟩])
      (silent : next.answers = machine.answers)
      (lent : machine.world.Lent session handle next.world)
  /-- It has only to finish what cannot fail. -/
  | settling {work : Work} (settles : work.Settles)
      (ready : next.ready = machine.ready ++ [⟨label, work⟩])
      (silent : next.answers = machine.answers)
  /-- It waits until others have given a handle back. -/
  | waiting (ready : next.ready = machine.ready) (silent : next.answers = machine.answers)
  /-- It has answered, and if that was a fault, nothing differs. -/
  | answered {answer : Answer} (given : next.answers = machine.answers ++ [(label, answer)])
      (intact : ∀ fault, answer = .fault fault → machine.world.SameBut session next.world)

/-- What was ready before and what was answered before are still the same. -/
structure Beside (machine next : Machine) : Prop where
  ready : next.ready = machine.ready
  silent : next.answers = machine.answers

theorem Beside.within {machine next : Machine} (beside : machine.Beside next) (world : World) :
    machine.Beside (next.within world) :=
  ⟨beside.ready, beside.silent⟩

theorem Beside.ready_later {machine next : Machine} (beside : machine.Beside next)
    (label : String) (work : Work) :
    (next.later label work).ready = machine.ready ++ [⟨label, work⟩] := by
  rw [later, beside.ready]

namespace Stage

variable {machine base next : Machine} {label session : String}

section Parts

variable (beside : machine.Beside base)

include beside

theorem finish {answer : Answer}
    (intact : ∀ fault, answer = .fault fault → machine.world.SameBut session base.world) :
    machine.Stage label session (base.finish label answer) :=
  .answered (congrArg (· ++ [(label, answer)]) beside.silent) intact

theorem fail (same : machine.world.SameBut session base.world) (fault : Fault) :
    machine.Stage label session (base.fail label fault) :=
  finish beside fun _ _ => same

/-- The call of a store is left to a later turn. -/
theorem laterCall {work : Work} {handle : Nat}
    (calls : work.CallsFor machine.world.clusters session handle)
    (lent : machine.world.Lent session handle base.world) :
    machine.Stage label session (base.later label work) :=
  .calling calls (beside.ready_later label work) beside.silent lent

/-- What cannot fail is left to a later turn. -/
theorem laterSettling {work : Work} (settles : work.Settles) :
    machine.Stage label session (base.later label work) :=
  .settling settles (beside.ready_later label work) beside.silent

/-- The handle is given back with the answer. -/
theorem finishLease {handle : Nat} {found : Handle} (answer : Answer)
    (borrowed : base.world.handle? handle = some (lentOnce found))
    (intact : ∀ fault, answer = .fault fault →
      machine.world.Lent session handle base.world) :
    machine.Stage label session (base.finishLease label (some session) handle answer) := by
  have returns := World.giveBack?_of_lentOnce borrowed
  have returned : ∃ returned, base.giveBack handle = some returned ∧
      returned.answers = base.answers ∧ base.world.giveBack? handle = some returned.world := by
    rw [Machine.giveBack, returns]
    refine ⟨_, rfl, ?_, ?_⟩ <;> dsimp only <;> split <;> rfl
  rcases returned with ⟨returned, gives, silent, there⟩
  simp only [Machine.finishLease, gives]
  apply Stage.answered
  · exact congrArg (· ++ [(label, answer)]) (silent.trans beside.silent)
  · intro fault failed
    exact ((intact fault failed).giveBack there).trans (.refreshFor session handle _)

/-- The reply of a store is answered when the handle was given back. -/
theorem completeCall {handle : Nat} {found : Handle} {use : Use}
    {result : Except Store.Fault Store.Reply} (serves : use.session? = some session)
    (borrowed : base.world.handle? handle = some (lentOnce found))
    (intact : ∀ fault, result = .error fault → machine.world.Lent session handle base.world) :
    machine.Stage label session (base.completeCall label handle use result) := by
  rw [Machine.completeCall, serves]
  apply finishLease beside _ borrowed
  intro fault failed
  rcases use.error_of_answer failed with ⟨cause, refused⟩
  exact intact cause refused

/-- The store of a borrowed handle is called. -/
theorem beginCall {handle : Nat} {use : Use} (serves : use.session? = some session)
    (lent : machine.world.Lent session handle base.world) (steady : base.world.ground.IsSteady)
    (call : Store.Call) : machine.Stage label session (base.beginCall label handle call use) := by
  rcases lent.handle?_eq with ⟨found, -, borrowed⟩
  unfold Machine.beginCall
  split
  · rename_i cluster default backend
    have known : (Dictionary.get? cluster base.world.clusters).isSome = true := by
      apply steady.known _ (World.rootOf_mem borrowed)
      rw [borrowed] at backend
      rw [rootOf, Option.some.inj backend]
      rfl
    rw [lent.same.clusters] at known
    exact laterCall beside ⟨rfl, serves, known⟩ lent
  · -- Calling a server changes nothing here but how many identities were given.
    have called : ∀ given, machine.world.Lent session handle
        { base.world with given := given } :=
      fun given => lent.then_same ⟨rfl, rfl, rfl, fun _ _ => rfl⟩
    dsimp only
    split
    · exact laterCall (beside.within _) ⟨rfl, serves⟩ (called _)
    · exact completeCall (beside.within _) serves borrowed fun _ _ => called _
  · exact completeCall beside serves borrowed fun _ _ => lent

/-- An operation that leases the handle of its session fails before that or holds it then. -/
theorem leasing (same : machine.world.SameBut session base.world)
    {next : Nat → Handle → Machine → Machine}
    (further : ∀ number handle world, machine.world.Lent session number world →
      world.ground = base.world.ground →
        machine.Stage label session (next number handle (base.within world))) :
    machine.Stage label session (base.leasing label session next) := by
  unfold Machine.leasing
  split
  · exact fail beside same _
  · rename_i number world leased
    have lent := (World.lent_of_lease leased).of_same same
    split
    · rename_i handle there
      exact further number handle world lent (base.world.ground_lease leased)
    · rename_i absent
      rcases lent.handle?_eq with ⟨found, -, borrowed⟩
      cases absent.symm.trans borrowed

/-- The answer that follows the closing of a handle is no fault. -/
theorem conclude (steady : base.world.ground.IsSteady) (handle : Nat) (value : Json) :
    machine.Stage label session (base.conclude label handle (.value value)) := by
  rw [Machine.conclude, steady.closingFault?_eq_none handle]
  exact finish beside nofun

/-- Closing a handle ends with an answer, now or later. -/
theorem close (steady : base.world.ground.IsSteady) (handle : Nat) (value : Json) :
    machine.Stage label session (base.close label handle (.answer value)) := by
  have kept := base.world.ground_beginClose handle
  unfold Machine.close Machine.startClose
  cases started : base.world.beginClose handle <;> rename_i world <;> rw [started] at kept
  case refused =>
    change machine.Stage label session ((base.within world).conclude label handle (.value value))
    exact conclude (beside.within world) (kept ▸ steady) handle value
  case closed =>
    change machine.Stage label session ((base.within world).conclude label handle (.value value))
    exact conclude (beside.within world) (kept ▸ steady) handle value
  case closing =>
    exact laterSettling (beside.within world) trivial
  case waiting =>
    exact .waiting beside.ready beside.silent

theorem put (steady : base.world.ground.IsSteady) (name : String) (handle : Nat)
    (first replaced : Json) :
    machine.Stage label session (base.put label name handle first replaced) := by
  have kept := base.world.ground_put name handle
  unfold Machine.put
  split <;> rename_i world registered <;> rw [registered] at kept
  · exact finish (beside.within world) nofun
  · exact close (beside.within world) (kept ▸ steady) _ replaced

/-! ### Turns -/

/-- A call of a cluster that is refused leaves the clusters as they were. -/
theorem resumeCall {handle : Nat} {cluster default : String} {call : Store.Call} {use : Use}
    (calls : Work.CallsFor machine.world.clusters session handle
      (.call handle cluster default call use))
    (lent : machine.world.Lent session handle base.world) :
    machine.Stage label session (base.resumeCall label handle cluster default call use) := by
  rcases calls with ⟨-, serves, known⟩
  rcases lent.handle?_eq with ⟨found, -, borrowed⟩
  unfold Machine.resumeCall
  split
  · exact completeCall beside serves borrowed fun _ _ => lent
  · dsimp only
    refine completeCall (beside.within _) serves borrowed fun fault refused => ?_
    rw [← show base.world.clusters = machine.world.clusters from lent.same.clusters] at known
    rcases Option.isSome_iff_exists.mp known with ⟨there, present⟩
    apply lent.then_same
    constructor
    · change Dictionary.insert cluster _ base.world.clusters = base.world.clusters
      rw [Store.Cluster.cluster_perform_of_error refused, present]
      exact Dictionary.insert_of_get? present
    · rfl
    · rfl
    · exact fun _ _ => rfl

/-- A connection that cannot be opened leaves the clusters as they were. -/
theorem connect (same : machine.world.SameBut session base.world)
    (steady : base.world.ground.IsSteady) (address : Json) :
    machine.Stage label session (base.connect label session address) := by
  unfold Machine.connect
  dsimp only
  split
  · rename_i fault refused
    apply fail (beside.within _)
    apply same.trans
    constructor
    · exact clusters_openUri_of_error refused
    · rfl
    · rfl
    · exact fun _ _ => rfl
  · rename_i handle accepted
    have joined : World.ground _ = _ := base.world.ground_opened accepted
    have further := lasting_isSteady.opened base.world.settings base.world.server address steady
    split
    · exact laterSettling (beside.within _) trivial
    · exact put (beside.within _) (joined ▸ further) session _ _ _

/-- Selecting a database without a name only borrows the handle and gives it back. -/
theorem selectDatabase (same : machine.world.SameBut session base.world) (name : Json) :
    machine.Stage label session (base.selectDatabase label session name) := by
  apply leasing beside same
  intro number handle world lent kept
  rcases lent.handle?_eq with ⟨found, -, borrowed⟩
  split
  · rename_i database named
    have selected : (world.changeHandle number (·.select database)).handle? number =
        some (lentOnce (found.select database)) := by
      rw [World.handle?_changeHandle_self, borrowed]
      rfl
    exact finishLease (beside.within _) _ selected nofun
  · exact finishLease (beside.within world) _ borrowed fun _ _ => lent

/-- A command fails before the handle is borrowed, before its call, or with that. -/
theorem query (same : machine.world.SameBut session base.world)
    (steady : base.world.ground.IsSteady) (command : Json) :
    machine.Stage label session (base.query label session command) := by
  unfold Machine.query
  split
  · exact fail beside same _
  · split
    · exact fail beside same _
    · apply leasing beside same
      intro number handle world lent kept
      split
      · exact beginCall (beside.within world) rfl lent (kept ▸ steady) _
      · rcases lent.handle?_eq with ⟨found, -, borrowed⟩
        exact finishLease (beside.within world) _ borrowed fun _ _ => lent

/-- Ending a session fails only where there is none. -/
theorem remove (same : machine.world.SameBut session base.world)
    (steady : base.world.ground.IsSteady) (answer : Json) :
    machine.Stage label session (base.remove label session answer) := by
  unfold Machine.remove
  split
  · exact fail beside same _
  · rename_i handle world taken
    have kept := base.world.ground_take? taken
    exact close (beside.within world) (kept ▸ steady) handle answer

/-- However an operation begins, it fails with nothing changed or has not failed yet. -/
theorem begin {request : Request} (asks : request.caller? = some session)
    (same : machine.world.SameBut session base.world) (steady : base.world.ground.IsSteady) :
    machine.Stage label session (base.begin label request) := by
  cases request with
  | connect caller address =>
      obtain rfl := Option.some.inj asks
      exact connect beside same steady address
  | listDatabases caller | listCollections caller =>
      obtain rfl := Option.some.inj asks
      rw [Machine.begin]
      apply leasing beside same
      intro number handle world lent kept
      exact beginCall (beside.within world) rfl lent (kept ▸ steady) _
  | selectDatabase caller name =>
      obtain rfl := Option.some.inj asks
      exact selectDatabase beside same name
  | query caller command =>
      obtain rfl := Option.some.inj asks
      exact query beside same steady command
  | endSession caller =>
      obtain rfl := Option.some.inj asks
      exact remove beside same steady _
  | _ =>
      cases asks

end Parts

/-- The turn of an operation takes it to a further stage. -/
theorem turn (stage : machine.Stage label session base) (steady : base.world.ground.IsSteady)
    (silent : base.answers.length = machine.answers.length)
    (resumed : base.resume machine.ready.length = some next) :
    machine.Stage label session next := by
  rcases Option.map_eq_some_iff.mp resumed with ⟨task, ready, rfl⟩
  have picked : ∀ {work : Work}, base.ready = machine.ready ++ [⟨label, work⟩] →
      base.answers = machine.answers → task = ⟨label, work⟩ ∧
        machine.Beside { base with ready := base.ready.eraseIdx machine.ready.length } := by
    intro work waits silent
    rw [waits, List.getElem?_append_right (Nat.le_refl _), Nat.sub_self] at ready
    refine ⟨(Option.some.inj ready).symm, ?_, silent⟩
    dsimp only
    rw [waits, List.eraseIdx_append_of_length_le (Nat.le_refl _), Nat.sub_self]
    exact List.append_nil machine.ready
  cases stage with
  | asked asks waits silent same =>
      rcases picked waits silent with ⟨rfl, beside⟩
      exact begin beside asks same steady
  | @calling work handle calls waits silent lent =>
      rcases picked waits silent with ⟨rfl, beside⟩
      cases work with
      | call number cluster default call use =>
          obtain rfl := calls.1
          exact resumeCall beside calls lent
      | called number use result =>
          obtain rfl := calls.1
          rcases lent.handle?_eq with ⟨found, -, borrowed⟩
          exact completeCall beside calls.2 borrowed fun _ _ => lent
      | _ =>
          cases calls
  | @settling work settles waits silent =>
      rcases picked waits silent with ⟨rfl, beside⟩
      cases work with
      | opened caller handle =>
          exact put beside steady caller handle _ _
      | shut handle after =>
          cases after with
          | answer value =>
              have shut := base.world.ground_shutStore handle
              exact conclude (beside.within _) (shut ▸ steady) handle value
          | _ =>
              cases settles
      | _ =>
          cases settles
  | waiting waits silent =>
      rw [waits, List.getElem?_eq_none (Nat.le_refl _)] at ready
      cases ready
  | answered given intact =>
      rw [given, List.length_append, List.length_singleton] at silent
      omega

/-- Time that passes takes an operation to no other stage. -/
theorem wait (stage : machine.Stage label session base) (time : Time) :
    machine.Stage label session (base.within { base.world with now := time }) := by
  have later : base.world.SameBut session { base.world with now := time } :=
    ⟨rfl, rfl, rfl, fun _ _ => rfl⟩
  cases stage with
  | asked asks waits silent same =>
      exact .asked asks waits silent (same.trans later)
  | calling calls waits silent lent =>
      exact .calling calls waits silent (lent.then_same later)
  | settling settles waits silent =>
      exact .settling settles waits silent
  | waiting waits silent =>
      exact .waiting waits silent
  | answered given intact =>
      exact .answered given fun fault failed => (intact fault failed).trans later

/-- A fault is answered in the last stage only. -/
theorem intact (stage : machine.Stage label session next) {fault : Fault}
    (failed : next.faultAfter? machine.answers.length = some fault) :
    machine.world.SameBut session next.world := by
  have none_of_silent : next.answers = machine.answers → False := by
    intro silent
    rw [faultAfter?, silent, List.getElem?_eq_none (Nat.le_refl _)] at failed
    cases failed
  cases stage with
  | asked asks waits silent same =>
      exact (none_of_silent silent).elim
  | calling calls waits silent lent =>
      exact (none_of_silent silent).elim
  | settling settles waits silent =>
      exact (none_of_silent silent).elim
  | waiting waits silent =>
      exact (none_of_silent silent).elim
  | @answered answer given intact =>
      rw [faultAfter?, given, List.getElem?_append_right (Nat.le_refl _), Nat.sub_self] at failed
      cases answer with
      | fault cause =>
          exact intact cause rfl
      | _ =>
          cases failed

end Stage

namespace Alone

variable {machine next : Machine} {label session : String} {request : Request}

theorem ground (steady : machine.world.ground.IsSteady)
    (alone : machine.Alone label request next) : next.world.ground.IsSteady := by
  induction alone with
  | ask =>
      exact steady
  | wait alone time ih =>
      exact ih
  | turn alone silent resumed ih =>
      exact lasting_isSteady.resume ih resumed

theorem stage (steady : machine.world.ground.IsSteady) (asks : request.caller? = some session)
    (alone : machine.Alone label request next) : machine.Stage label session next := by
  induction alone with
  | ask =>
      exact .asked asks rfl rfl (.refl session machine.world)
  | wait alone time ih =>
      exact ih.wait time
  | turn alone silent resumed ih =>
      exact ih.turn (alone.ground steady) silent resumed

end Alone

/-- The machine with the cluster to try things on and without connections. -/
def unconnected : Machine where
  world := .ofSettings { Settings.defaults with deniedKeywords := ["drop"] } {} Clusters.initial

/-- The machine where a session is connected to the cluster to try things on. -/
def connectedSample : Machine :=
  (unconnected.submit "connect" (.connect "red" (.string "memory://demo/sample"))).afterTurn

/-- A query for a document whose identity is taken. -/
def duplication : Request :=
  .query "red" (.string "db.orders.insertOne(\x7b_id: 'ord-1'\x7d)")

/-- The machine after the query, which takes two turns. -/
def afterDuplicate : Machine :=
  (connectedSample.submit "query" duplication).afterTurn.afterTurn

theorem Alone.afterTurn {machine next : Machine} {label : String} {request : Request}
    (alone : machine.Alone label request next) (idle : machine.ready.length = 0)
    (silent : next.answers.length = machine.answers.length) :
    machine.Alone label request next.afterTurn := by
  unfold Machine.afterTurn
  cases resumed : next.resume 0 with
  | none =>
      exact alone
  | some following =>
      exact alone.turn silent (idle.symm ▸ resumed)

end Machine
end Service
end DocumentGate
