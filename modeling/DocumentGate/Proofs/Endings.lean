import DocumentGate.Proofs.Completions
import DocumentGate.Proofs.Rosters

/-!
# Operations that come to an end

Where nothing else is to be done, every operation of the service is answered after some turns,
also where connections are opened, called and closed slowly: closing handles waits for nobody,
since nobody has borrowed them, and takes one turn for each session at most.  What is left is
again a machine in which nothing is to be done, with the milestones passed that the answer tells.
-/

namespace DocumentGate.Service

/-- Nobody has borrowed a handle, and closing one goes well. -/
structure World.Calm (world : World) : Prop where
  unlent : world.Lends none
  steady : world.ground.IsSteady

/-- The milestones are passed, and nobody has borrowed a handle. -/
structure World.Leads (world : World) (milestones : List Milestone) (next : World) : Prop where
  marks : world.Marks milestones next
  unlent : next.Lends none

theorem World.Calm.leads {world : World} (calm : world.Calm) : world.Leads [] world :=
  ⟨.refl world, calm.unlent⟩

theorem World.Leads.after {world next last : World} {first second : List Milestone}
    (later : next.Leads second last) (earlier : world.Marks first next) :
    world.Leads (first ++ second) last :=
  ⟨earlier.trans later.marks, later.unlent⟩

namespace World.Calm

variable {world next : World} {number : Nat}

theorem of_ground (calm : world.Calm) (unlent : next.Lends none)
    (ground : next.ground = world.ground) : next.Calm :=
  ⟨unlent, ground ▸ calm.steady⟩

theorem take {session : String} {cause : Departure} (calm : world.Calm)
    (taken : world.take? session cause = some (number, next)) : next.Calm :=
  calm.of_ground (calm.unlent.take taken) (world.ground_take? taken)

theorem put (calm : world.Calm) (session : String) (number : Nat) :
    (world.put session number).2.Calm :=
  calm.of_ground (calm.unlent.put session number) (world.ground_put session number)

theorem shut (calm : world.Calm) (number : Nat) : (world.shutStore number).Calm :=
  calm.of_ground (calm.unlent.tidied (world.tidied_shutStore number))
    (world.ground_shutStore number)

end World.Calm

namespace Machine

variable {rest : Machine} {label session : String} {count : Nat} {world : World} {number : Nat}
  {holds : Answer → World → Prop}

/-- The operation is answered within so many turns, and nothing else is to be done then. -/
def Concludes (rest : Machine) (label : String) (count : Nat) (machine : Machine)
    (holds : Answer → World → Prop) : Prop :=
  ∃ answer next, holds answer next ∧
    ∀ fuel, count ≤ fuel → runTurns fuel machine = (rest.within next).finish label answer

theorem Concludes.longer {machine : Machine}
    (concludes : rest.Concludes label count machine holds) {more : Nat} (longer : count ≤ more) :
    rest.Concludes label more machine holds := by
  rcases concludes with ⟨answer, next, held, runs⟩
  exact ⟨answer, next, held, fun fuel enough => runs fuel (longer.trans enough)⟩

section Turns

variable (idle : rest.ready = [])

include idle

theorem concludes_finish {answer : Answer} {next : World} (held : holds answer next) :
    rest.Concludes label count ((rest.within next).finish label answer) holds :=
  ⟨answer, next, held, fun fuel _ =>
    @runTurns_of_idle ((rest.within next).finish label answer) idle fuel⟩

/-- What is done in the next turn comes to the same end one turn later. -/
theorem concludes_later {work : Work}
    (goes : rest.Concludes label count ((rest.within world).perform label work) holds) :
    rest.Concludes label (count + 1) ((rest.within world).later label work) holds := by
  rcases goes with ⟨answer, next, held, runs⟩
  refine ⟨answer, next, held, fun fuel enough => ?_⟩
  rcases Nat.exists_eq_add_of_le' enough with ⟨spare, rfl⟩
  have waiting : (rest.within world).ready = [] := idle
  rw [← Nat.add_assoc, runTurns, resume_later waiting]
  exact runs _ (Nat.le_add_left count spare)

end Turns

/-! ## Closing handles -/

/-- Closing a handle that nobody has borrowed is done at once or in the next turn. -/
theorem startClose_cases (rest : Machine) (calm : world.Calm) (label : String) (number : Nat)
    (after : AfterClose) :
    ∃ next, world.Marks [] next ∧ next.Calm ∧
      ((∃ first, (rest.within world).startClose label number after =
          .done first (rest.within next)) ∨
        (rest.within world).startClose label number after =
          .suspended ((rest.within next).later label (.shut number after))) := by
  have tidied := world.tidied_beginClose number
  have settled : (world.beginClose number).world.Calm :=
    calm.of_ground (calm.unlent.tidied tidied) (world.ground_beginClose number)
  have marks : world.Marks [] (world.beginClose number).world := .tidied tidied
  refine ⟨_, marks, settled, ?_⟩
  change (∃ first, (rest.within world).progress label number after (world.beginClose number) = _) ∨
    (rest.within world).progress label number after (world.beginClose number) = _
  cases begins : world.beginClose number with
  | refused next =>
      exact Or.inl ⟨false, rfl⟩
  | closed next =>
      exact Or.inl ⟨true, rfl⟩
  | closing next =>
      exact Or.inr rfl
  | waiting next =>
      exact absurd begins (World.beginClose_ne_waiting (calm.unlent.isBusy number) next)

/-- What is done when a handle was closed is done now or in the next turn. -/
theorem concludes_close (idle : rest.ready = []) (calm : world.Calm) {after : AfterClose}
    (goes : ∀ next first, world.Marks [] next → next.Calm →
      rest.Concludes label count ((rest.within next).afterClose label number first after) holds) :
    rest.Concludes label (count + 1) ((rest.within world).close label number after) holds := by
  rcases startClose_cases rest calm label number after with
    ⟨next, marks, settled, ⟨first, done⟩ | suspended⟩
  · rw [close, done]
    exact (goes next first marks settled).longer (Nat.le_succ count)
  · rw [close, suspended]
    have shut : next.Marks [] (next.shutStore number) := .tidied (next.tidied_shutStore number)
    exact concludes_later idle (goes _ true (marks.rest shut) (settled.shut number))

/-- An answer is given when the handle was closed. -/
theorem concludes_closeAnswering (idle : rest.ready = []) (calm : world.Calm) (value : Json)
    (held : ∀ next, world.Leads [] next → holds (.value value) next) :
    rest.Concludes label 1 ((rest.within world).close label number (.answer value)) holds := by
  refine concludes_close idle calm fun next first marks settled => ?_
  have silent : (rest.within next).world.closingFault? number = none :=
    settled.steady.closingFault?_eq_none number
  rw [afterClose, conclude, silent]
  exact concludes_finish idle (held next ⟨marks, settled.unlent⟩)

/-- The handle that a session had is closed when another one was registered. -/
theorem concludes_put (idle : rest.ready = []) (calm : world.Calm) (session : String)
    (number : Nat) {first replaced : Json}
    (held : ∀ value next, world.Leads [.connected session] next → holds (.value value) next) :
    rest.Concludes label 1 ((rest.within world).put label session number first replaced)
      holds := by
  have marks := World.Marks.put world session number
  have settled := calm.put session number
  rw [put]
  cases registered : (rest.within world).world.put session number with
  | mk previous next =>
      have same : (world.put session number).2 = next := congrArg Prod.snd registered
      rw [same] at marks settled
      cases previous with
      | none =>
          exact concludes_finish idle (held first next ⟨marks, settled.unlent⟩)
      | some previous =>
          exact concludes_closeAnswering idle settled replaced fun last leads =>
            held replaced last (leads.after marks)

/-- A session that is taken out is closed; where there is none, that is said. -/
theorem concludes_remove (idle : rest.ready = []) (calm : world.Calm) (session : String)
    {value : Json}
    (missing : world.knows session = false → holds (.fault .noActiveSession) world)
    (held : ∀ next, world.knows session = true → world.Leads [.ended session] next →
      holds (.value value) next) :
    rest.Concludes label 1 ((rest.within world).remove label session value) holds := by
  rw [remove]
  cases taken : (rest.within world).world.take? session .removed with
  | none =>
      have absent : world.session? session = none := Option.map_eq_none_iff.mp taken
      exact concludes_finish idle (missing (by rw [World.knows, absent]; rfl))
  | some departed =>
      rcases departed with ⟨number, left⟩
      have took : world.take? session .removed = some (number, left) := taken
      rcases Option.map_eq_some_iff.mp took with ⟨entry, found, -⟩
      have known : world.knows session = true := by rw [World.knows, found]; rfl
      exact concludes_closeAnswering idle (calm.take took) value fun last leads =>
        held last known (leads.after (.removed took))

/-! ## Closing every session -/

/-- A sweep closes the first session that is left, and goes on with the others. -/
theorem sweep_cons (label : String) (purpose : Sweep) (closed : Nat) (machine : Machine)
    (session : String) (others : List String) :
    sweep label purpose closed machine (session :: others) =
      match machine.world.take? session .removed with
      | none => sweep label purpose closed machine others
      | some (number, left) =>
        (machine.within left).close label number (.sweep purpose closed others) := by
  rw [sweep]
  cases machine.world.take? session .removed with
  | none =>
      rfl
  | some departed =>
      dsimp only
      rw [close]
      split <;> rename_i goes <;> rw [goes] <;> rfl

theorem concludes_sweep (idle : rest.ready = []) (purpose : Sweep) (sessions : List String)
    (closed : Nat) (calm : world.Calm)
    (held : ∀ closed next, world.Leads (sessions.map .ended) next →
      holds (purpose.answer closed) next) :
    rest.Concludes label sessions.length
      (sweep label purpose closed (rest.within world) sessions) holds := by
  -- each session is passed as ended, also one that is not there: that tells nothing of others
  induction sessions generalizing closed world with
  | nil =>
      exact concludes_finish idle (held closed world calm.leads)
  | cons session others ih =>
      rw [sweep_cons]
      cases taken : (rest.within world).world.take? session .removed with
      | none =>
          have missing : world.session? session = none := Option.map_eq_none_iff.mp taken
          have absent : world.knows session = false := by
            rw [World.knows, missing]
            rfl
          have stays : world.Marks [.ended session] world := by
            refine ⟨⟨[], by simp, rfl⟩, fun asked => ?_⟩
            by_cases same : session = asked
            · simp [connectedAfter, Milestone.after, ← same, absent]
            · have other : (session != asked) = true := bne_iff_ne.mpr same
              simp [connectedAfter, Milestone.after, other]
          refine Concludes.longer (ih closed calm fun count next leads => ?_) (Nat.le_succ _)
          exact held count next (leads.after stays)
      | some departed =>
          rcases departed with ⟨number, left⟩
          have took : world.take? session .removed = some (number, left) := taken
          refine concludes_close idle (calm.take took) fun next first marks settled => ?_
          refine ih _ settled fun count last leads => held count last ?_
          exact leads.after ((World.Marks.removed took).rest marks)

/-- When every session was closed, nobody is connected. -/
theorem marks_halted {next : World}
    (marks : world.Marks ((Dictionary.names world.sessions).map .ended) next) :
    world.Marks [.halted] next := by
  refine ⟨?_, fun session => ?_⟩
  · rcases marks.journal with ⟨more, wrote, told⟩
    refine ⟨more, wrote, told.trans ?_⟩
    simp [List.filterMap_map, Function.comp_def, Milestone.evicted?]
  · rw [marks.roster, connectedAfter_ended, World.knows_eq]
    exact Bool.and_not_self _

/-- Stopping the reports takes two turns, and closing every session one turn for each. -/
theorem concludes_haltReports (idle : rest.ready = []) (calm : world.Calm)
    (held : ∀ next, world.Leads [.halted] next → holds (.value .null) next) :
    rest.Concludes label (world.sessions.length + 2) ((rest.within world).haltReports label)
      holds := by
  have sweeps : ∀ base : World, world.Marks [] base → base.Calm →
      base.sessions = world.sessions →
        rest.Concludes label world.sessions.length ((rest.within base).sweepAll label .shutdown)
          holds := by
    intro base marks settled same
    have length : (Dictionary.names base.sessions).length = world.sessions.length := by
      rw [Dictionary.names, List.length_map, same]
    rw [← length]
    refine concludes_sweep idle .shutdown _ 0 settled fun closed next leads => held next ?_
    exact ⟨marks.trans (marks_halted leads.marks), leads.unlent⟩
  rw [haltReports]
  split
  · refine concludes_later idle (concludes_later idle ?_)
    have stopped : World.Calm { world with reporting := false } :=
      ⟨calm.unlent, calm.steady⟩
    exact sweeps _ (.still rfl rfl) stopped rfl
  · exact (sweeps world (.refl world) calm rfl).longer (Nat.le_add_right _ _)

/-- Stopping the reaper takes two turns more. -/
theorem concludes_shutdown (idle : rest.ready = []) (calm : world.Calm)
    (held : ∀ next, world.Leads [.halted] next → holds (.value .null) next) :
    rest.Concludes label (world.sessions.length + 4) ((rest.within world).haltReaper label 0 true)
      holds := by
  rw [haltReaper]
  split
  · refine concludes_later idle (concludes_later idle ?_)
    have stopped : (world.stopReaper 0).Calm := ⟨calm.unlent, calm.steady⟩
    have stays : world.Marks [] (world.stopReaper 0) := .still rfl rfl
    exact concludes_haltReports idle stopped fun next leads => held next (leads.after stays)
  · exact (concludes_haltReports idle calm held).longer (Nat.le_add_right _ 2)

/-! ## Scans -/

/-- A scan closes the first session that is left if it is idle, and goes on with the others. -/
theorem scan_cons (label : String) (limit : Double) (evicted : List String) (machine : Machine)
    (session : String) (others : List String) :
    scan label limit evicted machine (session :: others) =
      if machine.world.isIdle session limit then
        match machine.world.take? session (.evicted limit) with
        | none => scan label limit evicted machine others
        | some (number, left) =>
          (machine.within left).close label number (.scan limit (evicted ++ [session]) others)
      else scan label limit evicted machine others := by
  rw [scan]
  cases machine.world.take? session (.evicted limit) with
  | none =>
      rfl
  | some departed =>
      dsimp only
      rw [close]
      cases (machine.within departed.2).startClose label departed.1
        (.scan limit (evicted ++ [session]) others) <;> rfl

theorem concludes_scan (idle : rest.ready = []) (limit : Double) (sessions evicted : List String)
    (calm : world.Calm)
    (held : ∀ answer next (gone : List String), world.Leads (gone.map .evicted) next →
      holds answer next) :
    rest.Concludes label sessions.length (scan label limit evicted (rest.within world) sessions)
      holds := by
  induction sessions generalizing evicted world with
  | nil =>
      exact concludes_finish idle (held _ world [] calm.leads)
  | cons session others ih =>
      have skips : rest.Concludes label (session :: others).length
          (scan label limit evicted (rest.within world) others) holds :=
        (ih evicted calm held).longer (Nat.le_succ _)
      rw [scan_cons]
      split
      · cases taken : (rest.within world).world.take? session (.evicted limit) with
        | none =>
            exact skips
        | some departed =>
            rcases departed with ⟨number, left⟩
            have took : world.take? session (.evicted limit) = some (number, left) := taken
            refine concludes_close idle (calm.take took) fun next first marks settled => ?_
            have silent : (rest.within next).world.closingFault? number = none :=
              settled.steady.closingFault?_eq_none number
            rw [afterClose, silent]
            refine ih _ settled fun answer last gone leads => held answer last (session :: gone) ?_
            exact leads.after ((World.Marks.evicted took).rest marks)
      · exact skips

/-! ## Calls -/

section Calls

variable (idle : rest.ready = []) (alone : rest.draining = [])

include idle alone

theorem concludes_finishLease {answer : Answer} (lends : world.Lends (some number))
    (held : ∀ next, world.Leads [] next → holds answer next) :
    rest.Concludes label count
      ((rest.within world).finishLease label (some session) number answer) holds := by
  rcases lends.exists_giveBack with ⟨returned, gives, free⟩
  have waits : (rest.within world).draining = [] := alone
  rw [finishLease_eq waits gives]
  refine concludes_finish idle (held _ ⟨?_, free.refreshFor session number⟩)
  exact (World.Marks.giveBack gives).rest (.refreshFor returned session number)

/-- Whatever the store replies, the handle is given back with that. -/
theorem concludes_completeCall {use : Use} (serves : use.session? = some session)
    (lends : world.Lends (some number)) (result : Except Store.Fault Store.Reply)
    (held : ∀ result next, world.Leads [] next → holds (use.answer result) next) :
    rest.Concludes label count ((rest.within world).completeCall label number use result)
      holds := by
  rw [completeCall, serves]
  exact concludes_finishLease idle alone lends (held result)

theorem concludes_beginCall {use : Use} (serves : use.session? = some session)
    (lends : world.Lends (some number)) (call : Store.Call)
    (held : ∀ result next, world.Leads [] next → holds (use.answer result) next) :
    rest.Concludes label 1 ((rest.within world).beginCall label number call use) holds := by
  have beside : ∀ (clusters : Clusters) (given : Identified.Given)
      (result : Except Store.Fault Store.Reply) (count : Nat),
      rest.Concludes label count ((rest.within
        { world with clusters := clusters, given := given }).completeCall label number use result)
        holds := by
    intro clusters given result count
    let base : World := { world with clusters := clusters, given := given }
    have lent : base.Lends (some number) := lends
    have stays : world.Marks [] base := .still rfl rfl
    exact concludes_completeCall idle alone serves lent result fun result next leads =>
      held result next (leads.after stays)
  rw [beginCall]
  split
  · rename_i cluster default _
    refine concludes_later idle ?_
    rw [perform, resumeCall]
    split
    · exact concludes_completeCall idle alone serves lends _ held
    · exact beside _ _ _ 0
  · rename_i connection _
    dsimp only
    split
    · exact concludes_later idle (beside _ _ _ 0)
    · exact beside _ _ _ 1
  · exact concludes_completeCall idle alone serves lends _ held

end Calls

/-! ## Operations -/

/-- Nothing is to be done, nobody has borrowed a handle, and closing one goes well. -/
structure IsQuiet (rest : Machine) : Prop where
  sound : rest.Sound []
  calm : rest.world.Calm
  distinct : rest.world.Distinct
  ready : rest.ready = []
  draining : rest.draining = []
  loans : rest.loans = []

/-- A store does not say that its session is not connected. -/
theorem answer_ne_notConnected (use : Use) (result : Except Store.Fault Store.Reply) :
    use.answer result ≠ .fault .notConnected := by
  intro same
  cases result with
  | ok reply =>
      cases use with
      | listing session =>
          cases reply <;> cases same
      | _ =>
          cases same
  | error fault =>
      cases use <;> cases same

/-- Whoever is not connected is told so, and that is all. -/
theorem begin_of_unknown (missing : rest.world.knows session = false) {request : Request}
    (asks : request.asks? = some session) :
    rest.begin label request = rest.fail label .notConnected := by
  have absent : rest.world.session? session = none := by
    simpa [World.knows] using missing
  cases request with
  | query name command =>
      obtain rfl := Option.some.inj asks
      rw [begin, query, absent]
      rfl
  | listDatabases name | listCollections name =>
      obtain rfl := Option.some.inj asks
      rw [begin, leasing_of_none absent]
  | selectDatabase name database =>
      obtain rfl := Option.some.inj asks
      rw [begin, selectDatabase, leasing_of_none absent]
  | _ =>
      cases asks

namespace IsQuiet

variable (quiet : rest.IsQuiet)

include quiet

/-- Whoever is connected borrows the handle of the session. -/
theorem concludes_leasing (known : rest.world.knows session = true)
    {body : Nat → Handle → Machine → Machine}
    (goes : ∀ number handle leased, rest.world.Marks [] leased → leased.Lends (some number) →
      rest.Concludes label count (body number handle (rest.within leased)) holds) :
    rest.Concludes label count (rest.leasing label session body) holds := by
  rcases Option.isSome_iff_exists.mp known with ⟨entry, found⟩
  rcases quiet.sound.orderly.exists_lease rest.settled_burdens (World.handleOf?_eq_some found) with
    ⟨leased, handle, leases, there, -⟩
  rw [leasing_eq leases there]
  exact goes _ handle leased (.lease leases) (quiet.calm.unlent.lease leases)

/-- What is asked for a connected session is answered, and nothing happens to any session. -/
theorem concludes_asked (known : rest.world.knows session = true) {request : Request}
    (asks : request.asks? = some session)
    (held : ∀ answer next, answer ≠ .fault .notConnected → rest.world.Leads [] next →
      holds answer next) :
    rest.Concludes label 1 (rest.begin label request) holds := by
  have calls : ∀ {leased number} (call : Store.Call) (use : Use), use.session? = some session →
      rest.world.Marks [] leased → leased.Lends (some number) →
        rest.Concludes label 1 ((rest.within leased).beginCall label number call use) holds := by
    intro leased number call use serves marks lends
    exact concludes_beginCall quiet.ready quiet.draining serves lends call fun result next leads =>
      held _ next (answer_ne_notConnected use result) (leads.after marks)
  have answers : ∀ {leased number} (answer : Answer), answer ≠ .fault .notConnected →
      rest.world.Marks [] leased → leased.Lends (some number) → rest.Concludes label 1
        ((rest.within leased).finishLease label (some session) number answer) holds := by
    intro leased number answer other marks lends
    exact concludes_finishLease quiet.ready quiet.draining lends fun next leads =>
      held answer next other (leads.after marks)
  cases request with
  | listDatabases name | listCollections name =>
      obtain rfl := Option.some.inj asks
      rw [begin]
      exact quiet.concludes_leasing known fun number handle leased => calls _ _ rfl
  | selectDatabase name database =>
      obtain rfl := Option.some.inj asks
      rw [begin, selectDatabase]
      refine quiet.concludes_leasing known fun number handle leased marks lends => ?_
      split
      · refine answers _ Answer.noConfusion (marks.rest (.change leased number _)) ?_
        exact lends.tidied (.single (.change number fun _ => rfl))
      · exact answers _ (Fault.noConfusion ∘ Answer.fault.inj) marks lends
  | query name command =>
      obtain rfl := Option.some.inj asks
      have present : (rest.world.session? name).isNone = false := by
        simpa [World.knows] using known
      rw [begin, query, present, if_neg Bool.false_ne_true]
      split
      · refine concludes_finish quiet.ready (held _ _ ?_ quiet.calm.leads)
        exact Fault.noConfusion ∘ Answer.fault.inj
      · refine quiet.concludes_leasing known fun number handle leased marks lends => ?_
        split
        · exact calls _ _ rfl marks lends
        · exact answers _ (Fault.noConfusion ∘ Answer.fault.inj) marks lends
  | _ =>
      cases asks

/-- A connection that is opened makes its session connected; a fault leaves all as it is. -/
theorem concludes_connect (session : String) (address : Json)
    (refused : ∀ fault next, rest.world.Leads [] next → holds (.fault fault) next)
    (accepted : ∀ value next, rest.world.Leads [.connected session] next →
      holds (.value value) next) :
    rest.Concludes label 2 (rest.begin label (.connect session address)) holds := by
  rw [begin, connect]
  dsimp only
  split
  · refine concludes_finish quiet.ready (refused _ _ ⟨.still rfl rfl, ?_⟩)
    exact quiet.calm.unlent
  · rename_i handle result
    let opening := Connection.openUri rest.world.settings rest.world.server rest.world.clusters
      address
    let added := ({ rest.world with clusters := opening.clusters }.addHandle handle).2
    have ground : added.ground = rest.world.ground.opened opening :=
      rest.world.ground_opened result
    have settled : added.Calm := by
      refine ⟨World.Lends.addHandle ?_ (Connection.isFresh_of_openUri result).borrowers, ?_⟩
      · exact quiet.calm.unlent
      · rw [ground]
        exact lasting_isSteady.opened _ _ _ quiet.calm.steady
    have stays : rest.world.Marks [] added := .still rfl rfl
    have registers : rest.Concludes label 1
        ((rest.within added).connected label session rest.world.handles.length) holds :=
      concludes_put quiet.ready settled session _ fun value next leads =>
        accepted value next (leads.after stays)
    split
    · exact concludes_later quiet.ready registers
    · exact registers.longer (Nat.le_succ 1)

end IsQuiet

end Machine
end DocumentGate.Service
