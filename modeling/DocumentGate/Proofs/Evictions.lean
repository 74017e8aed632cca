import DocumentGate.Proofs.Records

/-!
# Evictions

A session is evicted by a scan or directly, some time after it was found idle, and in between
it may have become active, may have been taken out or may have another handle.  Whatever the
operations and the order of their turns, it is judged as it is when it is evicted: nobody has
borrowed its handle, and everything that was done with the handle was done longer ago than the
limit.  Who gives back a handle that the session does not have any more leaves its entry alone.
-/

namespace DocumentGate.Service

namespace Machine

variable {machine : Machine}

/-! ## Late returns -/

/-- Nothing of sessions and handles differs but one handle. -/
structure SpareRegistry (number : Nat) (world next : World) : Prop where
  sessions : next.sessions = world.sessions
  others : ∀ other, other ≠ number → next.handle? other = world.handle? other

/-- Whoever gives back a handle that its session does not have changes nothing else. -/
theorem spareRegistry_finishLease {session label : String} {number : Nat} {answer : Answer}
    (gone : machine.world.handleOf? session ≠ some number) :
    SpareRegistry number machine.world
      (machine.finishLease label (some session) number answer).world := by
  unfold Machine.finishLease
  split
  · exact ⟨rfl, fun _ _ => rfl⟩
  · rename_i returned gives
    rcases Option.map_eq_some_iff.mp gives with ⟨world, given, same⟩
    rcases Option.bind_eq_some_iff.mp given with ⟨handle, -, rest⟩
    rcases Option.bind_eq_some_iff.mp rest with ⟨lent, -, done⟩
    have kept : returned.world = world := by
      rw [← same]
      dsimp only
      split <;> rfl
    have late : world.refreshFor session number = world := by
      unfold World.refreshFor
      split
      · rename_i entry found
        rw [if_neg]
        rintro rfl
        refine gone ?_
        rw [← Option.some.inj done] at found
        exact World.handleOf?_eq_some found
      · rfl
    obtain rfl := Option.some.inj done
    dsimp only
    rw [Machine.finish, within, kept, late]
    exact ⟨rfl, fun other different => by simp [different]⟩

theorem spareRegistry_completeCall {world : World} {session label : String} {number : Nat}
    {use : Use} (sessions : machine.world.sessions = world.sessions)
    (handles : machine.world.handles = world.handles) (from? : use.session? = some session)
    (result : Except Store.Fault Store.Reply) (gone : world.handleOf? session ≠ some number) :
    SpareRegistry number world (machine.completeCall label number use result).world := by
  rw [World.handleOf?, World.session?, ← sessions] at gone
  have spared : SpareRegistry number machine.world
      (machine.finishLease label (some session) number (use.answer result)).world :=
    spareRegistry_finishLease gone
  rw [completeCall, from?]
  refine ⟨spared.sessions.trans sessions, fun other different => ?_⟩
  rw [spared.others other different, World.handle?, World.handle?, handles]

theorem spareRegistry_perform (machine : Machine) {label session : String} {work : Work}
    {lease : Lease} (returns : work.lease? = some lease) (from? : lease.session = some session)
    (gone : machine.world.handleOf? session ≠ some lease.handle) :
    SpareRegistry lease.handle machine.world (machine.perform label work).world := by
  cases work with
  | call handle cluster default call use =>
      obtain rfl := Option.some.inj returns
      rw [perform, resumeCall]
      split
      · exact spareRegistry_completeCall rfl rfl from? _ gone
      · refine spareRegistry_completeCall ?_ ?_ from? _ gone <;> rfl
  | called handle use result =>
      obtain rfl := Option.some.inj returns
      exact spareRegistry_completeCall rfl rfl from? result gone
  | ended loan =>
      obtain rfl := Option.some.inj returns
      have known : loan.session = some session := from?
      rw [perform, known]
      exact spareRegistry_finishLease gone
  | _ =>
      cases returns

/-! ## Whole runs -/

/-- Sessions are evicted for being idle only. -/
structure EvictsOnlyIdle (machine : Machine) : Prop where
  /-- The session has the handle when it is evicted, and every lease on it was given back. -/
  unused : ∀ before after time session handle limit,
    machine.world.journal = before ++ ⟨time, .left session handle (.evicted limit)⟩ :: after →
      tenant? session (before.map Entry.event) = some handle ∧
        (before.map Entry.event).count (.borrowed handle) =
          (before.map Entry.event).count (.returned handle)
  /-- The handle was registered, used, borrowed and given back longer ago than the limit. -/
  earlier : ∀ before after time session handle limit,
    machine.world.journal = before ++ ⟨time, .left session handle (.evicted limit)⟩ :: after →
      limit ≠ .infinite false ∧
        ∀ bound, limit.toRat? = some bound →
          ∀ entry ∈ before, entry.event.isActivity handle = true → entry.time < time - bound
  /-- The registry knows of every session when it was active last. -/
  told : ∀ session entry, machine.world.session? session = some entry →
    .registered session entry.handle ∈ machine.world.history ∧
      lastActive? entry.handle machine.world.journal = some entry.lastActivity
  /-- Giving back a handle that its session does not have leaves every entry alone. -/
  late : ∀ {position : Nat} {task : Task} {lease : Lease} {next : Machine},
    machine.ready[position]? = some task → task.work.lease? = some lease →
      machine.resume position = some next →
        ∃ session, lease.session = some session ∧
          .registered session lease.handle ∈ machine.world.history ∧
          (machine.world.handleOf? session ≠ some lease.handle →
            SpareRegistry lease.handle machine.world next.world)

theorem IsInitial.recorded (initial : machine.IsInitial) : machine.world.Recorded none := by
  have history : machine.world.history = [] := by
    simp [World.history, initial.journal]
  have unregistered : ∀ session, machine.world.session? session = none := by
    simp [World.session?, initial.sessions, Dictionary.get?]
  refine ⟨?_, ?_, ?_, ?_, ?_⟩
  · simp [World.handleOf?, unregistered, history, tenant?]
  · simp [history]
  · simp [history, World.borrowersOf, World.handle?, initial.handles]
  · simp [unregistered]
  · rw [initial.journal]
    exact .nil _

/--
Where the clock never goes back, and rounding takes no span beyond a limit that it is within,
sessions are evicted for being idle only, however operations and scans take turns.
-/
theorem IsInitial.evictsOnlyIdle {start : Machine} (initial : start.IsInitial)
    (steps : Relation.ReflTransGen Step start machine) (faithful : Faithful start.world.rounding)
    (ordered : machine.world.journal.Pairwise fun earlier later => earlier.time ≤ later.time) :
    machine.EvictsOnlyIdle := by
  have kept := World.kept_recorded.and (World.kept_rounding start.world.rounding)
  rcases steps_keep steps initial.sound initial.lends kept ⟨initial.recorded, rfl⟩ with
    ⟨-, lends, recorded, rounding⟩
  rw [← rounding] at faithful
  refine ⟨?_, ?_, ?_, ?_⟩
  · intro before after time session handle limit split
    have idle := recorded.evictsIdle before after time session handle limit split
    exact ⟨idle.current, idle.returned⟩
  · intro before after time session handle limit split
    rcases (recorded.evictsIdle before after time session handle limit split).overdue with
      ⟨last, active, longer⟩
    refine ⟨?_, ?_⟩
    · rintro rfl
      cases longer
    · intro bound finite entry member isActive
      rw [split] at ordered
      have latest := le_lastActive (List.pairwise_append.mp ordered).1 active entry member isActive
      have exceeded := lt_of_exceeds faithful finite longer
      exact latest.trans_lt (lt_sub_comm.mp exceeded)
  · intro session entry found
    have has := World.handleOf?_eq_some found
    exact ⟨recorded.registered has, recorded.latest session entry found nofun⟩
  · intro position task lease next ready returns resumed
    have among : lease ∈ machine.leases :=
      List.mem_append_left _ (List.mem_filterMap.mpr ⟨task, List.mem_of_getElem? ready, returns⟩)
    rcases lends lease among with ⟨session, from?, registered⟩
    refine ⟨session, from?, registered, fun gone => ?_⟩
    rcases Option.map_eq_some_iff.mp resumed with ⟨picked, found, rfl⟩
    obtain rfl := Option.some.inj (found.symm.trans ready)
    exact spareRegistry_perform { machine with ready := machine.ready.eraseIdx position } returns
      from? gone

/-- A minute. -/
def minute : Double :=
  .ofDecimal false 60 0

/-- Two sessions, of which one is active in between, and then both are to be evicted. -/
def evictedAlone : Machine :=
  let registered := ((atFirst.registering "red").registering "blue").afterTurn.afterTurn
  let touched := ((registered.advance 45).submit "touch" (.touch "blue")).afterTurn
  let asked := (touched.advance 30).submit "red" (.evict "red" minute)
  (asked.submit "blue" (.evict "blue" minute)).afterTurn.afterTurn

theorem steps_evictedAlone : Relation.ReflTransGen Step atFirst evictedAlone := by
  have registered := (((steps_registering atFirst "red").trans (steps_registering _ "blue")).trans
    (steps_afterTurn _)).trans (steps_afterTurn _)
  have touched := ((registered.tail (.pass 45)).trans
    (steps_submit _ "touch" (.touch "blue") rfl)).trans (steps_afterTurn _)
  have asked := (touched.tail (.pass 30)).trans (steps_submit _ "red" (.evict "red" minute) rfl)
  exact ((asked.trans (steps_submit _ "blue" (.evict "blue" minute) rfl)).trans
    (steps_afterTurn _)).trans (steps_afterTurn _)

theorem evictedAlone_evictsOnlyIdle :
    evictedAlone.world.journal.map (fun entry => (entry.time, entry.event)) =
        [(0, .registered "red" 0), (0, .registered "blue" 1), (45, .active "blue" 1),
          (75, .left "red" 0 (.evicted minute)), (75, .closing 0), (75, .storeClosing 0)] ∧
      evictedAlone.EvictsOnlyIdle :=
  ⟨by decide +kernel,
    IsInitial.evictsOnlyIdle ⟨rfl, rfl, rfl, rfl, rfl, rfl, rfl⟩ steps_evictedAlone
      faithful_rounded (by decide +kernel)⟩

end Machine
end DocumentGate.Service
