import DocumentGate.Proofs.Custody
import DocumentGate.Proofs.OpenStores
import DocumentGate.Service.Machine

/-!
# Turns that see to their handles

What a machine has to see to is told by the operations in it: one that is ready may have
a handle to register, to give back or to close, a lease is to be given back, and what
drains is to be closed.  A machine is sound when its world is orderly with these burdens
and no operation was answered that its store is closed.

Each part of an operation keeps a machine sound and lays down what the operation holds
while it is in its turn.  So does a whole turn, whichever of the operations that are
ready it is given to.
-/

namespace DocumentGate.Service

/-! ## What operations have to see to -/

/-- Nobody deals with handles and stores but through sessions and reapers. -/
def Request.isOrderly : Request → Bool
  | .put _ _ => false
  | .borrow _ => false
  | .giveBack _ => false
  | .borrowUntilEnd _ _ => false
  | .close _ => false
  | .call _ _ => false
  | .dispatch _ _ => false
  | .closeStore _ => false
  | _ => true

/-- What an operation has to see to in its next turn. -/
def Work.burden? : Work → Option Burden
  | .begin (.put _ handle) => some (.fresh handle)
  | .opened _ handle => some (.fresh handle)
  | .call handle _ _ _ _ => some (.lease handle)
  | .called handle _ _ => some (.lease handle)
  | .drained handle _ => some (.drained handle)
  | .shut handle _ => some (.shut handle)
  | .ended loan => some (.lease loan.handle)
  | _ => none

/-- The work is done for a session, and no store was found closed. -/
def Work.IsProper : Work → Prop
  | .begin (.put _ _) => True
  | .begin request => request.isOrderly = true
  | .call _ _ _ _ use => use.session?.isSome = true
  | .called _ use result => use.session?.isSome = true ∧ Store.Served result
  | _ => True

/-- The answer is not that the store of a session is closed. -/
def Answer.IsServed (answer : Answer) : Prop :=
  answer ≠ .fault (.backend .closed)

namespace Machine

/-- What the operations in a machine have to see to. -/
def burdens (machine : Machine) : List Burden :=
  machine.ready.filterMap (·.work.burden?) ++ machine.loans.map (.lease ·.2.handle) ++
    machine.draining.map (.waiting ·.handle)

/-- What operations have to see to is seen to, with what one of them holds in its turn. -/
structure Sound (machine : Machine) (held : List Burden) : Prop where
  orderly : machine.world.Orderly (held ++ machine.burdens)
  proper : ∀ task ∈ machine.ready, task.work.IsProper
  served : ∀ given ∈ machine.answers, given.2.IsServed

/-- Nobody has taken out of the registry what is not closing yet. -/
theorem settled_burdens (machine : Machine) : Settled machine.burdens := by
  intro handle released
  simp only [burdens, List.mem_append, List.mem_filterMap, List.mem_map] at released
  rcases released with (⟨task, -, burden⟩ | ⟨loan, -, burden⟩) | ⟨waiting, -, burden⟩
  · unfold Work.burden? at burden
    split at burden <;> simp at burden
  · cases burden
  · cases burden

end Machine

/-! ## Answers -/

namespace Answer

theorem isServed_value (value : Json) : (Answer.value value).IsServed :=
  fun closed => nomatch closed

theorem isServed_fault {fault : Fault} (other : fault ≠ .backend .closed) :
    (Answer.fault fault).IsServed :=
  fun closed => other (Answer.fault.inj closed)

theorem isServed_use (use : Use) {result : Except Store.Fault Store.Reply}
    (served : Store.Served result) : (use.answer result).IsServed := by
  cases result with
  | ok reply =>
      unfold Use.answer
      split
      case h_7 impossible =>
        cases impossible
      all_goals
        rintro ⟨⟩
  | error fault =>
      have other : fault ≠ .closed := fun closed => served (congrArg Except.error closed)
      cases use with
      | direct =>
          exact isServed_fault Fault.noConfusion
      | dispatched operation =>
          exact isServed_fault fun closed => other (Fault.backend.inj closed)
      | listing session =>
          exact isServed_fault fun closed => other (Fault.backend.inj closed)
      | querying session operation =>
          exact isServed_fault fun closed => other (Fault.backend.inj closed)

theorem isServed_loan (world : World) (loan : Loan) :
    (Machine.Loan.answer world loan).IsServed := by
  unfold Machine.Loan.answer
  split <;> rintro ⟨⟩

end Answer

namespace World

variable {world : World}

theorem closingFault?_ne {number : Nat} {fault : Fault}
    (reported : world.closingFault? number = some fault) : fault ≠ .backend .closed := by
  rcases Option.map_eq_some_iff.mp reported with ⟨message, -, rfl⟩
  exact Fault.noConfusion

theorem lease_eq_error {session : String} {fault : Fault}
    (refused : world.lease session = .error fault) : fault = .notConnected := by
  unfold lease at refused
  split at refused
  · split at refused
    · cases refused
    · exact (Except.error.inj refused).symm
  · exact (Except.error.inj refused).symm

theorem get_eq_error {session : String} {fault : Fault}
    (refused : world.get session = .error fault) : fault = .notConnected := by
  unfold get at refused
  split at refused
  · cases refused
  · exact (Except.error.inj refused).symm

theorem get_eq_ok {session : String} {number : Nat} {next : World}
    (found : world.get session = .ok (number, next)) : next = world.refresh session := by
  unfold get at found
  split at found
  · exact (Prod.mk.inj (Except.ok.inj found)).2.symm
  · cases found

end World

namespace Machine

/-! ## What the parts of a machine become -/

theorem burdens_later (machine : Machine) (label : String) (work : Work) :
    (work.burden?.toList ++ machine.burdens).Perm (machine.later label work).burdens := by
  refine List.perm_iff_count.mpr fun burden => ?_
  cases carried : work.burden? with
  | none =>
      simp [burdens, later, carried]
  | some other =>
      simp [burdens, later, carried, List.count_cons]
      omega

namespace Sound

variable {machine : Machine} {held : List Burden} {number : Nat} {label : String}

/-! ## Parts of operations -/

/-- Another world takes the place of the one that was. -/
theorem within {others : List Burden} {world : World} (sound : machine.Sound held)
    (orderly : world.Orderly (others ++ machine.burdens)) :
    (machine.within world).Sound others :=
  ⟨orderly, sound.proper, sound.served⟩

theorem finish (sound : machine.Sound held) {answer : Answer} (served : answer.IsServed) :
    (machine.finish label answer).Sound held where
  orderly := sound.orderly
  proper := sound.proper
  served given member := by
    rcases List.mem_append.mp member with earlier | now
    · exact sound.served given earlier
    · rw [List.mem_singleton.mp now]
      exact served

theorem finishWith (sound : machine.Sound held) (value : Json) :
    (machine.finishWith label value).Sound held :=
  sound.finish (Answer.isServed_value value)

theorem fail (sound : machine.Sound held) {fault : Fault} (other : fault ≠ .backend .closed) :
    (machine.fail label fault).Sound held :=
  sound.finish (Answer.isServed_fault other)

/-- What an operation holds is seen to in a later turn. -/
theorem later {work : Work} (sound : machine.Sound work.burden?.toList)
    (proper : work.IsProper) : (machine.later label work).Sound [] where
  orderly := sound.orderly.perm (machine.burdens_later label work)
  proper task member := by
    rcases List.mem_append.mp member with earlier | now
    · exact sound.proper task earlier
    · rw [List.mem_singleton.mp now]
      exact proper
  served := sound.served

end Sound

/-! ## Giving back -/

/-- What waited for a handle can close its store when nobody has borrowed the handle. -/
theorem orderly_woken {world : World} {number : Nat} (idle : world.isBusy number = false)
    (draining : List Draining) {burdens : List Burden}
    (orderly : world.Orderly (burdens ++ draining.map (.waiting ·.handle))) :
    world.Orderly (burdens ++ (draining.filter (·.handle == number)).map (.drained ·.handle) ++
      (draining.filter (·.handle != number)).map (.waiting ·.handle)) := by
  induction draining generalizing burdens with
  | nil =>
      simpa using orderly
  | cons first rest ih =>
      have front : world.Orderly
          (.waiting first.handle :: (burdens ++ rest.map (.waiting ·.handle))) :=
        orderly.perm List.perm_middle
      by_cases same : first.handle = number
      · rw [same] at front
        have woken : world.Orderly (.drained number :: burdens ++ rest.map (.waiting ·.handle)) :=
          front.wake idle
        refine (ih woken).perm (List.perm_iff_count.mpr fun burden => ?_)
        simp [same, List.count_cons]
        omega
      · have further : world.Orderly
            (.waiting first.handle :: burdens ++ rest.map (.waiting ·.handle)) := front
        refine (ih further).perm (List.perm_iff_count.mpr fun burden => ?_)
        simp [same, List.count_cons]
        omega

namespace Sound

variable {machine : Machine} {held : List Burden} {number : Nat} {label : String}

/-- What waited for a handle is ready when nobody has borrowed the handle any more. -/
theorem wake (sound : machine.Sound []) (idle : machine.world.isBusy number = false) :
    (machine.wake number).Sound [] where
  orderly := by
    have woken := orderly_woken idle machine.draining sound.orderly
    refine woken.perm (List.perm_iff_count.mpr fun burden => ?_)
    simp [burdens, Machine.wake, Work.burden?, List.filterMap_append]
    omega
  proper task member := by
    rcases List.mem_append.mp member with earlier | now
    · exact sound.proper task earlier
    · rcases List.mem_map.mp now with ⟨waiting, -, rfl⟩
      trivial
  served := sound.served

/-- A borrowed handle can be given back. -/
theorem giveBack (sound : machine.Sound [.lease number]) :
    ∃ returned, machine.giveBack number = some returned ∧ returned.Sound [] := by
  rcases sound.orderly.giveBack machine.settled_burdens with ⟨world, returns, orderly⟩
  have returned : (machine.within world).Sound [] := sound.within orderly
  rw [Machine.giveBack, returns, Option.map_some]
  refine ⟨_, rfl, ?_⟩
  split
  · rename_i drained
    have idle : world.isBusy number = false := by
      rw [← world.not_isDrained, drained]
      rfl
    exact returned.wake idle
  · exact returned

theorem finishLease (sound : machine.Sound [.lease number]) (session : Option String)
    {answer : Answer} (served : answer.IsServed) :
    (machine.finishLease label session number answer).Sound [] := by
  rcases sound.giveBack with ⟨returned, returns, still⟩
  simp only [Machine.finishLease, returns]
  cases session with
  | none =>
      exact still.finish served
  | some session =>
      refine Sound.finish (still.within ?_) served
      unfold World.refreshFor
      split
      · split
        · exact still.orderly.refresh returned.settled_burdens session
        · exact still.orderly
      · exact still.orderly

/-! ## Closing -/

theorem conclude (sound : machine.Sound []) (number : Nat) {answer : Answer}
    (served : answer.IsServed) : (machine.conclude label number answer).Sound [] := by
  unfold Machine.conclude
  split
  · rename_i fault reported
    exact sound.fail (World.closingFault?_ne reported)
  · exact sound.finish served

end Sound

/-- The machine of an operation that closes a handle, however far the operation has come. -/
def Progress.machine : Progress → Machine
  | .done _ machine => machine
  | .suspended machine => machine

namespace Sound

variable {machine : Machine} {held : List Burden} {number : Nat} {label : String}

theorem progress {start : World.CloseStart} (proper : ∀ task ∈ machine.ready, task.work.IsProper)
    (served : ∀ given ∈ machine.answers, given.2.IsServed)
    (keeps : start.Keeps number machine.burdens) (after : AfterClose) :
    (machine.progress label number after start).machine.Sound [] := by
  cases start with
  | refused world =>
      exact keeps.elim
  | closed world =>
      exact ⟨keeps, proper, served⟩
  | closing world =>
      have closing : (machine.within world).Sound [.shut number] := ⟨keeps, proper, served⟩
      exact closing.later trivial
  | waiting world =>
      refine ⟨keeps.perm (List.perm_iff_count.mpr fun burden => ?_), proper, served⟩
      simp [Machine.progress, Progress.machine, burdens, List.count_cons]
      omega

/-- A handle that left the registry is closed, or will be. -/
theorem startClose (sound : machine.Sound [.released number]) (after : AfterClose) :
    (machine.startClose label number after).machine.Sound [] :=
  progress sound.proper sound.served
    (sound.orderly.beginClose machine.settled_burdens) after

/-- Closing handles one after the other leaves nothing to see to. -/
theorem sweep (sound : machine.Sound []) (purpose : Sweep) (closed : Nat)
    (sessions : List String) : (Machine.sweep label purpose closed machine sessions).Sound [] := by
  induction sessions generalizing machine closed with
  | nil =>
      refine sound.finish ?_
      cases purpose <;> exact Answer.isServed_value _
  | cons session rest ih =>
      rw [Machine.sweep]
      split
      · exact ih sound closed
      · rename_i handle world taken
        have released : (machine.within world).Sound [.released handle] :=
          sound.within (sound.orderly.take machine.settled_burdens taken nofun)
        have closing : ((machine.within world).startClose label handle
            (.sweep purpose closed rest)).machine.Sound [] := released.startClose _
        split
        · rename_i first next done
          rw [done] at closing
          exact ih closing _
        · rename_i next suspended
          rw [suspended] at closing
          exact closing

theorem sweepAll (sound : machine.Sound []) (purpose : Sweep) :
    (machine.sweepAll label purpose).Sound [] :=
  sound.sweep purpose 0 _

/-- Evicting sessions one after the other leaves nothing to see to. -/
theorem scan (sound : machine.Sound []) (limit : Double) (evicted sessions : List String) :
    (Machine.scan label limit evicted machine sessions).Sound [] := by
  induction sessions generalizing machine evicted with
  | nil =>
      exact sound.finishWith _
  | cons session rest ih =>
      rw [Machine.scan]
      split
      · split
        · exact ih sound evicted
        · rename_i handle world taken
          have released : (machine.within world).Sound [.released handle] :=
            sound.within (sound.orderly.take machine.settled_burdens taken nofun)
          have closing : ((machine.within world).startClose label handle
              (.scan limit (evicted ++ [session]) rest)).machine.Sound [] :=
            released.startClose _
          dsimp only
          split
          · rename_i first next done
            rw [done] at closing
            split
            · rename_i fault reported
              exact closing.fail (World.closingFault?_ne reported)
            · exact ih closing _
          · rename_i next suspended
            rw [suspended] at closing
            exact closing
      · exact ih sound evicted

theorem scanAll (sound : machine.Sound []) (limit : Double) :
    (machine.scanAll label limit).Sound [] :=
  sound.scan limit [] _

theorem afterClose (sound : machine.Sound []) (number : Nat) (first : Bool) (after : AfterClose) :
    (machine.afterClose label number first after).Sound [] := by
  cases after with
  | direct =>
      exact sound.conclude number (Answer.isServed_value _)
  | answer value =>
      exact sound.conclude number (Answer.isServed_value value)
  | sweep purpose closed rest =>
      exact sound.sweep purpose _ rest
  | scan limit evicted rest =>
      rw [Machine.afterClose]
      split
      · rename_i fault reported
        exact sound.fail (World.closingFault?_ne reported)
      · exact sound.scan limit evicted rest

theorem proceed {progress : Progress} (sound : progress.machine.Sound []) (number : Nat)
    (after : AfterClose) : (Machine.proceed label number after progress).Sound [] := by
  cases progress with
  | done first machine =>
      exact Sound.afterClose sound number first after
  | suspended machine =>
      exact sound

theorem close (sound : machine.Sound [.released number]) (after : AfterClose) :
    (machine.close label number after).Sound [] :=
  (sound.startClose after).proceed number after

theorem closeDrained (sound : machine.Sound [.drained number]) (after : AfterClose) :
    (machine.closeDrained label number after).Sound [] :=
  (progress sound.proper sound.served
    (sound.orderly.beginStore machine.settled_burdens) after).proceed number after

/-! ## Leaving and entering the registry -/

theorem evict (sound : machine.Sound []) (session : String) (limit : Double) :
    (machine.evict label session limit).Sound [] := by
  unfold Machine.evict
  split
  · split
    · exact sound.finishWith _
    · rename_i handle world taken
      have released : (machine.within world).Sound [.released handle] :=
        sound.within (sound.orderly.take machine.settled_burdens taken nofun)
      exact released.close _
  · exact sound.finishWith _

theorem remove (sound : machine.Sound []) (session : String) (answer : Json) :
    (machine.remove label session answer).Sound [] := by
  unfold Machine.remove
  split
  · exact sound.fail Fault.noConfusion
  · rename_i handle world taken
    have released : (machine.within world).Sound [.released handle] :=
      sound.within (sound.orderly.take machine.settled_burdens taken nofun)
    exact released.close _

/-- A fresh handle is registered, and the one that it replaces is closed. -/
theorem put (sound : machine.Sound [.fresh number]) (session : String) (first replaced : Json) :
    (machine.put label session number first replaced).Sound [] := by
  unfold Machine.put
  split
  · rename_i world registered
    have orderly := sound.orderly.put machine.settled_burdens registered
    exact Sound.finishWith (sound.within orderly) first
  · rename_i previous world registered
    have orderly := sound.orderly.put machine.settled_burdens registered
    exact Sound.close (sound.within orderly) (.answer replaced)

end Sound
end Machine
end DocumentGate.Service
