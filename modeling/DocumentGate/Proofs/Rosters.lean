import DocumentGate.Proofs.Records

/-!
# Who is connected

A session is connected when the registry has an entry for it.  That changes at few points only:
a connection is registered, a session is ended or evicted, or all of them are closed.  They are
the milestones of a run; whatever else is done to a world passes none.  Scans evict sessions, and
the journal tells which.
-/

namespace DocumentGate

namespace Service

/-! ## Milestones -/

/-- What makes a session connected or ends that. -/
inductive Milestone where
  | connected (session : String)
  | ended (session : String)
  | evicted (session : String)
  /-- Every session was closed. -/
  | halted
deriving DecidableEq

namespace Milestone

/-- The session is not connected any more after it. -/
def ends (session : String) : Milestone → Bool
  | .connected _ => false
  | .ended other => other == session
  | .evicted other => other == session
  | .halted => true

/-- Whether a session is connected after it, where that is known before. -/
def after (session : String) (before : Bool) : Milestone → Bool
  | .connected other => before || other == session
  | .ended other => before && other != session
  | .evicted other => before && other != session
  | .halted => false

theorem after_eq (session : String) (before : Bool) {milestone : Milestone}
    (other : milestone ≠ .connected session) :
    milestone.after session before = (before && !milestone.ends session) := by
  cases milestone with
  | connected name =>
      have different : name ≠ session := fun same => other (congrArg _ same)
      simp [after, ends, different]
  | halted =>
      simp [after, ends]
  | _ =>
      rfl

/-- The session that is evicted. -/
def evicted? : Milestone → Option String
  | .evicted session => some session
  | _ => none

end Milestone

/-- Whether a session is connected after some milestones, where that is known before them. -/
def connectedAfter (session : String) (before : Bool) (milestones : List Milestone) : Bool :=
  milestones.foldl (Milestone.after session) before

@[simp]
theorem connectedAfter_nil (session : String) (before : Bool) :
    connectedAfter session before [] = before :=
  rfl

@[simp]
theorem connectedAfter_append (session : String) (before : Bool) (first second : List Milestone) :
    connectedAfter session before (first ++ second) =
      connectedAfter session (connectedAfter session before first) second :=
  List.foldl_append

theorem connectedAfter_singleton (session : String) (before : Bool) (milestone : Milestone) :
    connectedAfter session before [milestone] = milestone.after session before :=
  rfl

/-- There was a milestone at which the session was connected, and none that ended that. -/
def IsConnected (session : String) (milestones : List Milestone) : Prop :=
  ∃ earlier later, milestones = earlier ++ .connected session :: later ∧
    ∀ milestone ∈ later, milestone.ends session = false

/-- Whether a session is connected can be decided by going through the milestones once. -/
theorem connectedAfter_iff (session : String) (milestones : List Milestone) :
    connectedAfter session false milestones = true ↔ IsConnected session milestones := by
  -- from the end, since the last milestone that concerns the session decides
  induction milestones using List.reverseRecOn with
  | nil =>
      constructor
      · nofun
      · rintro ⟨earlier, later, split, -⟩
        simp at split
  | append_singleton milestones last ih =>
      rw [connectedAfter_append, connectedAfter_singleton]
      constructor
      · intro holds
        by_cases connects : last = .connected session
        · exact ⟨milestones, [], by rw [connects], nofun⟩
        · rw [Milestone.after_eq session _ connects, Bool.and_eq_true_iff] at holds
          rcases ih.mp holds.1 with ⟨earlier, later, rfl, kept⟩
          refine ⟨earlier, later ++ [last], by simp, fun milestone member => ?_⟩
          rcases List.mem_append.mp member with old | new
          · exact kept milestone old
          · exact List.mem_singleton.mp new ▸ Bool.not_eq_true' _ ▸ holds.2
      · rintro ⟨earlier, later, split, kept⟩
        rcases List.eq_nil_or_concat later with rfl | ⟨front, final, rfl⟩
        · obtain ⟨-, same⟩ := List.append_inj' split rfl
          obtain rfl := (List.cons.inj same).1
          simp [Milestone.after]
        · rw [List.concat_eq_append, ← List.cons_append, ← List.append_assoc] at split
          obtain ⟨rfl, same⟩ := List.append_inj' split rfl
          obtain rfl := (List.cons.inj same).1
          have connected : connectedAfter session false (earlier ++ .connected session :: front) =
              true :=
            ih.mpr ⟨earlier, front, rfl, fun milestone member => kept milestone (by simp [member])⟩
          by_cases connects : last = .connected session
          · simp [connects, Milestone.after]
          · rw [connected, Milestone.after_eq session _ connects, kept last (by simp)]
            rfl

/-- Sessions that are ended are not connected, and nothing else changes. -/
theorem connectedAfter_ended (session : String) (before : Bool) (sessions : List String) :
    connectedAfter session before (sessions.map .ended) =
      (before && !sessions.contains session) := by
  induction sessions generalizing before with
  | nil =>
      simp
  | cons first rest ih =>
      change connectedAfter session (Milestone.after session before (.ended first)) _ = _
      rw [ih, Milestone.after]
      by_cases same : first = session
      · simp [same]
      · have stays : (first != session) = true := bne_iff_ne.mpr same
        simp [stays, Ne.symm same]

/-- The session that is evicted, as the journal tells. -/
def Entry.evicted? (entry : Entry) : Option String :=
  match entry.event with
  | .left session _ (.evicted _) => some session
  | _ => none

namespace World

/-! ## What a world passes -/

/-- The registry has an entry for the session. -/
def knows (world : World) (session : String) : Bool :=
  (world.session? session).isSome

theorem knows_eq (world : World) (session : String) :
    world.knows session = (Dictionary.names world.sessions).contains session :=
  Dictionary.isSome_get?_eq session world.sessions

/-- The milestones lead from what one world knows to what the other one does. -/
structure Marks (world : World) (milestones : List Milestone) (next : World) : Prop where
  journal : ∃ more, next.journal = world.journal ++ more ∧
    more.filterMap Entry.evicted? = milestones.filterMap Milestone.evicted?
  roster : ∀ session,
    next.knows session = connectedAfter session (world.knows session) milestones

variable {world next last : World} {first second : List Milestone} {session : String}
  {number : Nat}

namespace Marks

theorem refl (world : World) : world.Marks [] world :=
  ⟨⟨[], by simp, rfl⟩, fun _ => rfl⟩

theorem trans (earlier : world.Marks first next) (later : next.Marks second last) :
    world.Marks (first ++ second) last where
  journal := by
    rcases earlier.journal with ⟨more, wrote, told⟩
    rcases later.journal with ⟨further, also, retold⟩
    refine ⟨more ++ further, ?_, ?_⟩
    · rw [also, wrote, List.append_assoc]
    · rw [List.filterMap_append, List.filterMap_append, told, retold]
  roster session := by
    rw [later.roster, earlier.roster, connectedAfter_append]

/-- The sessions that were evicted are those that the journal tells of. -/
theorem evictions (marks : world.Marks first next) :
    (next.journal.drop world.journal.length).filterMap Entry.evicted? =
      first.filterMap Milestone.evicted? := by
  rcases marks.journal with ⟨more, wrote, told⟩
  rw [wrote, List.drop_left, told]

/-- What passes no milestone may come after what passes some. -/
theorem rest (earlier : world.Marks first next) (later : next.Marks [] last) :
    world.Marks first last := by
  simpa using earlier.trans later

/-- Nothing is said about sessions and nobody is evicted. -/
theorem still (journal : next.journal = world.journal) (sessions : next.sessions = world.sessions) :
    world.Marks [] next :=
  ⟨⟨[], by rw [journal, List.append_nil], rfl⟩, fun session => by
    rw [knows, session?, sessions]
    rfl⟩

theorem change (world : World) (number : Nat) (change : Handle → Handle) :
    world.Marks [] (world.changeHandle number change) :=
  still rfl rfl

theorem note (world : World) {event : Event}
    (stays : (Entry.mk world.now event).evicted? = none) : world.Marks [] (world.note event) :=
  ⟨⟨[⟨world.now, event⟩], rfl, by simp [stays]⟩, fun _ => rfl⟩

theorem refresh (world : World) (session : String) : world.Marks [] (world.refresh session) := by
  refine ⟨?_, fun asked => ?_⟩
  · unfold World.refresh
    split
    · exact ⟨_, rfl, rfl⟩
    · exact ⟨[], by simp, rfl⟩
  · rw [knows, session?_refresh]
    split
    · rename_i same
      rw [same, Option.isSome_map]
      rfl
    · rfl

theorem refreshFor (world : World) (session : String) (number : Nat) :
    world.Marks [] (world.refreshFor session number) := by
  unfold World.refreshFor
  split
  · split
    · exact .refresh world session
    · exact .refl world
  · exact .refl world

theorem lease (leased : world.lease session = .ok (number, next)) : world.Marks [] next := by
  rcases lease_eq_ok leased with ⟨-, borrowed, borrows, rfl⟩
  rcases borrow?_eq_some borrows with ⟨handle, -, -, rfl⟩
  exact ((change world number _).rest (.note _ rfl)).rest (.refresh _ session)

theorem giveBack (returned : world.giveBack? number = some next) : world.Marks [] next := by
  rcases Option.bind_eq_some_iff.mp returned with ⟨handle, -, rest⟩
  rcases Option.bind_eq_some_iff.mp rest with ⟨lent, -, done⟩
  obtain rfl := Option.some.inj done
  exact (change world number _).rest (.note _ rfl)

/-- Closing handles says nothing about who is connected. -/
theorem tidied (tidied : world.Tidied next) : world.Marks [] next := by
  induction tidied with
  | refl =>
      exact .refl world
  | tail _ tidies ih =>
      refine ih.rest ?_
      cases tidies with
      | change number keeps =>
          exact .still rfl rfl
      | @note event closing =>
          refine .note _ ?_
          cases event <;> first | rfl | cases closing

/-- A handle that is registered makes its session connected. -/
theorem put (world : World) (session : String) (number : Nat) :
    world.Marks [.connected session] (world.put session number).2 := by
  refine ⟨?_, fun asked => ?_⟩
  · unfold World.put
    dsimp only
    split
    · exact ⟨[_, _], List.append_assoc _ _ _, rfl⟩
    · exact ⟨[_], rfl, rfl⟩
  · rw [knows, session?_put, connectedAfter_singleton, Milestone.after]
    by_cases same : session = asked
    · simp [same]
    · simp [same, knows]

/-- A session that is taken out is not connected any more. -/
theorem take {cause : Departure} (taken : world.take? session cause = some (number, next))
    {milestone : Milestone}
    (leaves : ∀ asked before, milestone.after asked before = (before && session != asked))
    (told : (Entry.mk world.now (.left session number cause)).evicted? = milestone.evicted?) :
    world.Marks [milestone] next := by
  rcases Option.map_eq_some_iff.mp taken with ⟨entry, -, same⟩
  obtain ⟨rfl, rfl⟩ := Prod.mk.inj same
  refine ⟨⟨[_], rfl, ?_⟩, fun asked => ?_⟩
  · rw [List.filterMap_cons, List.filterMap_cons, told]
    rfl
  · rw [connectedAfter_singleton, leaves]
    change (Dictionary.get? asked (Dictionary.erase session world.sessions)).isSome = _
    rw [Dictionary.get?_erase]
    by_cases same : session = asked
    · simp [same]
    · simp [same, knows, session?]

theorem removed (taken : world.take? session .removed = some (number, next)) :
    world.Marks [.ended session] next :=
  take taken (fun _ _ => rfl) rfl

theorem evicted {limit : Double}
    (taken : world.take? session (.evicted limit) = some (number, next)) :
    world.Marks [.evicted session] next :=
  take taken (fun _ _ => rfl) rfl

end Marks

/-! ## Who has borrowed -/

/-- A handle is borrowed once, or none is. -/
def Lends (world : World) (lent : Option Nat) : Prop :=
  ∀ asked, world.borrowersOf asked = if lent = some asked then 1 else 0

namespace Lends

variable {lent : Option Nat}

theorem of_handles (lends : world.Lends lent) (handles : next.handles = world.handles) :
    next.Lends lent := by
  intro asked
  rw [borrowersOf, handle?, handles]
  exact lends asked

theorem isBusy (lends : world.Lends none) (number : Nat) : world.isBusy number = false := by
  rw [isBusy_eq, lends]
  rfl

theorem tidied (lends : world.Lends lent) (tidied : world.Tidied next) : next.Lends lent := by
  induction tidied with
  | refl =>
      exact lends
  | tail _ tidies ih =>
      cases tidies with
      | change number keeps =>
          exact fun asked => (borrowersOf_of_keeps _ number keeps asked).trans (ih asked)
      | note closing =>
          exact ih

theorem refresh (lends : world.Lends lent) (session : String) :
    (world.refresh session).Lends lent := by
  intro asked
  rw [borrowersOf, handle?_refresh]
  exact lends asked

theorem refreshFor (lends : world.Lends lent) (session : String) (number : Nat) :
    (world.refreshFor session number).Lends lent := by
  intro asked
  rw [borrowersOf, handle?_refreshFor]
  exact lends asked

theorem addHandle (lends : world.Lends lent) {handle : Handle} (unused : handle.borrowers = 0) :
    (world.addHandle handle).2.Lends lent :=
  fun asked => (borrowersOf_addHandle world unused asked).trans (lends asked)

theorem put (lends : world.Lends lent) (session : String) (number : Nat) :
    (world.put session number).2.Lends lent := by
  intro asked
  rw [borrowersOf, handle?_put]
  exact lends asked

theorem take {cause : Departure} (lends : world.Lends lent)
    (taken : world.take? session cause = some (number, next)) : next.Lends lent :=
  lends.of_handles (take?_eq_some taken).2.1

/-- Whoever leases a handle is the one who has borrowed it. -/
theorem lease (lends : world.Lends none) (leased : world.lease session = .ok (number, next)) :
    next.Lends (some number) := by
  rcases lease_eq_ok leased with ⟨-, borrowed, borrows, rfl⟩
  rcases borrow?_eq_some borrows with ⟨handle, found, -, rfl⟩
  have unused : handle.borrowers = 0 := by
    have counted := lends number
    rw [borrowersOf, found] at counted
    exact counted
  intro asked
  rw [borrowersOf, handle?_refresh]
  refine (borrowersOf_changeHandle world number asked found).trans ?_
  by_cases same : number = asked
  · simp [same, unused]
  · rw [if_neg same, if_neg (by simpa using same)]
    exact lends asked

/-- What was borrowed can be given back, and then nobody has borrowed anything. -/
theorem exists_giveBack (lends : world.Lends (some number)) :
    ∃ returned, world.giveBack? number = some returned ∧ returned.Lends none := by
  have counted := lends number
  rw [if_pos rfl, borrowersOf] at counted
  cases found : world.handle? number with
  | none =>
      rw [found] at counted
      cases counted
  | some handle =>
      rw [found] at counted
      have once : handle.borrowers = 1 := counted
      refine ⟨_, giveBack?_eq_some_of_borrowed found (by omega), fun asked => ?_⟩
      refine (borrowersOf_changeHandle world number asked found).trans ?_
      by_cases same : number = asked
      · simp [same, once]
      · rw [if_neg same, lends asked, if_neg (by simpa using same)]
        rfl

end Lends

/-! ## Evictions -/

/-- Sessions are evicted, and nothing else happens to who is connected. -/
structure Evicts (world next : World) : Prop where
  marks : ∃ evicted : List String, world.Marks (evicted.map .evicted) next
  frees : world.Lends none → next.Lends none

namespace Evicts

theorem refl (world : World) : world.Evicts world :=
  ⟨⟨[], .refl world⟩, id⟩

theorem trans (earlier : world.Evicts next) (later : next.Evicts last) : world.Evicts last where
  marks := by
    rcases earlier.marks with ⟨evicted, marks⟩
    rcases later.marks with ⟨further, also⟩
    exact ⟨evicted ++ further, List.map_append ▸ marks.trans also⟩
  frees := later.frees ∘ earlier.frees

theorem still (journal : next.journal = world.journal) (sessions : next.sessions = world.sessions)
    (handles : next.handles = world.handles) : world.Evicts next :=
  ⟨⟨[], .still journal sessions⟩, fun lends => lends.of_handles handles⟩

theorem tidied (tidied : world.Tidied next) : world.Evicts next :=
  ⟨⟨[], .tidied tidied⟩, fun lends => lends.tidied tidied⟩

theorem take {limit : Double}
    (taken : world.take? session (.evicted limit) = some (number, next)) : world.Evicts next :=
  ⟨⟨[session], .evicted taken⟩, fun lends => lends.take taken⟩

theorem evict (world : World) (session : String) (limit : Double) :
    world.Evicts (world.evict session limit).world := by
  rcases world.evict_cases session limit with ⟨-, same⟩ | ⟨-, number, rest, taken, closed⟩
  · rw [same]
    exact .refl world
  · exact (take taken).trans (tidied closed)

/-- While time passes, sessions are evicted by scans that are due. -/
theorem advance (world : World) (span : Time) : world.Evicts (world.advance span) :=
  holds_advance (fun session limit before => before.trans (.evict _ session limit))
    (fun _ _ before => before.trans (.still rfl rfl rfl)) (.refl world) span

end Evicts
/-! ## Distinct sessions -/

/-- No session has two entries. -/
def Distinct (world : World) : Prop :=
  (Dictionary.names world.sessions).Nodup

theorem Distinct.insert {world : World} (distinct : world.Distinct) (session : String)
    (entry : Session) :
    (Dictionary.names (Dictionary.insert session entry world.sessions)).Nodup := by
  rw [Dictionary.names_insert]
  split
  · exact distinct
  · rename_i new
    refine List.nodup_append.mpr ⟨distinct, List.pairwise_singleton _ session, ?_⟩
    rintro name member other last rfl
    exact new (List.mem_singleton.mp last ▸ member)

theorem Distinct.refresh {world : World} (distinct : world.Distinct) (session : String) :
    (world.refresh session).Distinct := by
  unfold World.refresh
  split
  · exact distinct.insert session _
  · exact distinct

theorem kept_distinct : Kept Distinct where
  deed {world next} deed distinct := by
    cases deed with
    | refresh session =>
        exact distinct.refresh session
    | lease leased =>
        rcases lease_eq_ok leased with ⟨-, borrowed, borrows, rfl⟩
        rcases borrow?_eq_some borrows with ⟨handle, -, -, rfl⟩
        refine Distinct.refresh ?_ _
        exact distinct
    | giveBack registered gives =>
        rcases Option.bind_eq_some_iff.mp gives with ⟨handle, -, rest⟩
        rcases Option.bind_eq_some_iff.mp rest with ⟨lent, -, done⟩
        obtain rfl := Option.some.inj done
        unfold World.refreshFor
        split
        · split
          · refine Distinct.refresh ?_ _
            exact distinct
          · exact distinct
        · exact distinct
    | put session fresh =>
        unfold World.put
        dsimp only
        split <;> exact distinct.insert session _
    | take ended idle taken =>
        rcases Option.map_eq_some_iff.mp taken with ⟨entry, -, same⟩
        rw [← (Prod.mk.inj same).2]
        exact (List.filter_sublist.map Prod.fst).nodup distinct
    | tidy tidies =>
        cases tidies <;> exact distinct
    | addHandle unused =>
        exact distinct
    | beside clusters given reporting =>
        exact distinct
  wait _ distinct := distinct
  tend _ distinct := distinct

end World
end Service
end DocumentGate
