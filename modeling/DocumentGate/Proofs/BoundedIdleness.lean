import DocumentGate.Proofs.DueScans
import DocumentGate.Proofs.Evictions

/-!
# How long sessions are idle

Where times are exact and a reaper runs, no session whose handle is not borrowed is ever idle
for as long as the limit and the interval of the reaper together, from the first scan on.  A
scan leaves no session that has been idle for longer than the limit.  From then on whoever is
active is so later, and so is a session whose handle was borrowed during the scan, since giving
the handle back is an activity.  And the next scan comes after the interval.
-/

namespace DocumentGate.Service

namespace World

variable {world next last : World} {limit : Double}

/-! ## What a scan leaves -/

/-- Sessions leave, and nobody borrows a handle or gives it back. -/
structure Sheds (world next : World) : Prop where
  sessions : ∀ session,
    next.session? session = none ∨ next.session? session = world.session? session
  borrowers : ∀ number, next.borrowersOf number = world.borrowersOf number
  clock : SameClock world next

namespace Sheds

theorem refl (world : World) : Sheds world world :=
  ⟨fun _ => Or.inr rfl, fun _ => rfl, rfl, rfl, rfl⟩

theorem trans (first : Sheds world next) (second : Sheds next last) : Sheds world last where
  sessions session := by
    rcases second.sessions session with gone | same
    · exact Or.inl gone
    · rw [same]
      exact first.sessions session
  borrowers number := (second.borrowers number).trans (first.borrowers number)
  clock := first.clock.trans second.clock

theorem tidied (tidied : world.Tidied next) : Sheds world next := by
  induction tidied with
  | refl =>
      exact refl world
  | tail _ tidies ih =>
      refine ih.trans ?_
      cases tidies with
      | change number keeps =>
          refine ⟨fun _ => Or.inr rfl, fun asked => ?_, rfl, rfl, rfl⟩
          exact borrowersOf_of_keeps _ number keeps asked
      | note closing =>
          exact ⟨fun _ => Or.inr rfl, fun _ => rfl, rfl, rfl, rfl⟩

theorem take {session : String} {cause : Departure} {number : Nat}
    (taken : world.take? session cause = some (number, next)) :
    Sheds world next ∧ next.session? session = none := by
  rcases Option.map_eq_some_iff.mp taken with ⟨entry, -, same⟩
  obtain ⟨-, rfl⟩ := Prod.mk.inj same
  have erased : ∀ asked, Dictionary.get? asked (Dictionary.erase session world.sessions) =
      if session = asked then none else world.session? asked :=
    fun asked => Dictionary.get?_erase session asked world.sessions
  refine ⟨⟨fun asked => ?_, fun _ => rfl, rfl, rfl, rfl⟩, (erased session).trans (if_pos rfl)⟩
  by_cases same : session = asked
  · exact Or.inl ((erased asked).trans (if_pos same))
  · exact Or.inr ((erased asked).trans (if_neg same))

/-- A session that is not idle does not become so. -/
theorem isIdle (sheds : Sheds world next) {session : String}
    (active : world.isIdle session limit = false) : next.isIdle session limit = false := by
  unfold World.isIdle at active ⊢
  rcases sheds.sessions session with gone | same
  · rw [gone]
  · rw [same]
    cases found : world.session? session with
    | none =>
        rfl
    | some entry =>
        rw [found] at active
        simp only [isBusy_eq, since, sheds.borrowers, sheds.clock.now, sheds.clock.rounding]
        simpa only [isBusy_eq, since] using active

end Sheds

theorem sheds_evict (world : World) (session : String) (limit : Double) :
    Sheds world (world.evict session limit).world ∧
      (world.evict session limit).world.isIdle session limit = false := by
  rcases world.evict_cases session limit with ⟨active, same⟩ | ⟨-, number, rest, taken, tidied⟩
  · rw [same]
    exact ⟨.refl world, active⟩
  · rcases Sheds.take taken with ⟨sheds, gone⟩
    have further := Sheds.tidied tidied
    refine ⟨sheds.trans further, further.isIdle ?_⟩
    rw [isIdle, gone]

theorem sheds_evictAll (limit : Double) (sessions : List String) (world : World) :
    Sheds world (world.evictAll limit sessions).2 :=
  holds_evictAll (fun session limit before => before.trans (sheds_evict _ session limit).1) limit
    sessions (.refl world)

/-- No failure is reported when a handle is closed. -/
def IsQuiet (world : World) : Prop :=
  ∀ number, world.closingFault? number = none

/-- The failure that is reported depends on what the handle was made with. -/
theorem closingFault?_eq (world : World) (number : Nat) :
    world.closingFault? number = (world.ground.roots[number]?).bind fun root =>
      match root.manner with
      | .reports message => some (.closing message)
      | _ => none := by
  rw [closingFault?, handle?, ground, List.getElem?_map]
  cases world.handles[number]? with
  | none =>
      rfl
  | some handle =>
      simp only [Option.bind_some, Option.map_some, Handle.closingFault?, rootOf]
      cases handle.manner <;> rfl

theorem IsQuiet.of_ground (quiet : world.IsQuiet) (same : next.ground = world.ground) :
    next.IsQuiet := by
  intro number
  rw [closingFault?_eq, same, ← closingFault?_eq]
  exact quiet number

theorem fault_evict (quiet : world.IsQuiet) (session : String) (limit : Double) :
    (world.evict session limit).fault = none := by
  have closed := quiet.of_ground (world.ground_evict session limit)
  unfold evict at closed ⊢
  split
  · rename_i idle
    rw [if_pos idle] at closed
    split
    · rename_i number rest taken
      simp only [taken] at closed
      exact closed number
    · rfl
  · rfl

/-- None of the sessions that a scan looks at stays while it is idle. -/
theorem isIdle_evictAll {sessions : List String} (quiet : world.IsQuiet) :
    ∀ session ∈ sessions, (world.evictAll limit sessions).2.isIdle session limit = false := by
  induction sessions generalizing world with
  | nil =>
      simp
  | cons first rest ih =>
      intro session member
      rw [evictAll]
      dsimp only
      rw [fault_evict quiet first limit]
      rcases List.mem_cons.mp member with rfl | later
      · exact (sheds_evictAll limit rest _).isIdle (world.sheds_evict session limit).2
      · exact ih (quiet.of_ground (world.ground_evict first limit)) session later

/-- No session is idle after a scan. -/
theorem isIdle_scan (quiet : world.IsQuiet) (limit : Double) (session : String) :
    (world.scan limit).2.isIdle session limit = false := by
  by_cases overdue : session ∈ world.overdue limit
  · exact isIdle_evictAll quiet session overdue
  · refine (sheds_evictAll limit _ world).isIdle ?_
    exact Bool.eq_false_iff.mpr fun idle => overdue (mem_overdue_of_isIdle idle)

/-! ## Sessions that are active -/

/-- Whoever has a handle that is not borrowed was active at a time or later. -/
def ActiveSince (world : World) (time : Time) : Prop :=
  ∀ session entry, world.session? session = some entry → world.isBusy entry.handle = false →
    time ≤ entry.lastActivity

namespace ActiveSince

variable {time : Time} {session : String} {number : Nat}

theorem of_sheds (active : world.ActiveSince time) (sheds : Sheds world next) :
    next.ActiveSince time := by
  intro session entry found idle
  rcases sheds.sessions session with gone | same
  · rw [gone] at found
    cases found
  · rw [same] at found
    rw [isBusy_eq, sheds.borrowers, ← isBusy_eq] at idle
    exact active session entry found idle

theorem refresh (active : world.ActiveSince time) (past : time ≤ world.now) (session : String) :
    (world.refresh session).ActiveSince time := by
  intro asked entry found idle
  rw [session?_refresh] at found
  split at found
  · rcases Option.map_eq_some_iff.mp found with ⟨before, -, rfl⟩
    exact past
  · refine active asked entry found ?_
    simpa [isBusy] using idle

/-- A handle that is borrowed does not matter. -/
theorem borrow (active : world.ActiveSince time) (borrowed : world.borrow? number = some next) :
    next.ActiveSince time := by
  rcases borrow?_eq_some borrowed with ⟨handle, there, -, rfl⟩
  intro session entry found idle
  refine active session entry found ?_
  by_cases same : number = entry.handle
  · rw [isBusy, handle?_note, ← same, handle?_changeHandle_self, there] at idle
    simp [Handle.isBusy] at idle
  · rwa [isBusy, handle?_note, handle?_changeHandle_of_ne (Ne.symm same)] at idle

/-- Giving a handle back is an activity of the session that has it. -/
theorem giveBack (active : world.ActiveSince time) (recorded : world.Recorded none)
    (past : time ≤ world.now) (registered : .registered session number ∈ world.history)
    (gives : world.giveBack? number = some next) :
    (next.refreshFor session number).ActiveSince time := by
  rcases Option.bind_eq_some_iff.mp gives with ⟨handle, there, rest⟩
  rcases Option.bind_eq_some_iff.mp rest with ⟨lent, -, done⟩
  obtain rfl := Option.some.inj done
  intro asked entry found idle
  rw [session?_refreshFor] at found
  split at found
  · rcases Option.map_eq_some_iff.mp found with ⟨before, -, rfl⟩
    exact past
  · rename_i elsewhere
    -- Only the session that the handle was registered for can have it.
    have different : entry.handle ≠ number := by
      rintro rfl
      have has : world.handleOf? asked = some entry.handle := handleOf?_eq_some found
      obtain rfl := recorded.single registered (recorded.registered has)
      exact elsewhere ⟨rfl, has⟩
    refine active asked entry found ?_
    simpa [isBusy, different] using idle

/-- Whatever is done at a moment is done later than what was longest ago. -/
theorem deed (active : world.ActiveSince time) (recorded : world.Recorded none)
    (past : time ≤ world.now) (deed : world.Deed next) : next.ActiveSince time := by
  cases deed with
  | refresh session =>
      exact active.refresh past session
  | lease leased =>
      rcases lease_eq_ok leased with ⟨-, borrowed, borrows, rfl⟩
      refine (active.borrow borrows).refresh ?_ _
      rw [(Passes.borrow borrows).clock.now]
      exact past
  | giveBack registered gives =>
      exact active.giveBack recorded past registered gives
  | put session fresh =>
      intro asked entry found idle
      rw [session?_put] at found
      split at found
      · obtain rfl := Option.some.inj found
        exact past
      · refine active asked entry found ?_
        rwa [isBusy, handle?_put] at idle
  | take ended idle taken =>
      exact active.of_sheds (Sheds.take taken).1
  | tidy tidies =>
      exact active.of_sheds (.tidied (.single tidies))
  | addHandle unused =>
      exact active.of_sheds ⟨fun _ => Or.inr rfl, borrowersOf_addHandle world unused, rfl, rfl, rfl⟩
  | beside clusters given reporting =>
      exact active

theorem did (active : world.ActiveSince time) (recorded : world.Recorded none)
    (past : time ≤ world.now) (did : world.Did next) : next.ActiveSince time := by
  induction did with
  | refl =>
      exact active
  | tail did deed ih =>
      refine ih.deed (kept_recorded.did recorded did) ?_ deed
      rw [(Did.passes did).clock.now]
      exact past

end ActiveSince

/-! ## Scans at their times -/

/-- The journal tells what happened, times are exact, and no scan was left out. -/
structure Timely (world : World) : Prop where
  regular : world.IsRegular
  recorded : world.Recorded none
  upcoming : ∀ number reaper due, world.reaper? number = some reaper → reaper.due = some due →
    world.now ≤ due

/-- No scan is due now either. -/
def IsRested (world : World) : Prop :=
  ∀ number reaper due, world.reaper? number = some reaper → reaper.due = some due →
    world.now < due

theorem reaper?_changeReaper (world : World) (number asked : Nat) (change : Reaper → Reaper) :
    (world.changeReaper number change).reaper? asked =
      if number = asked then (world.reaper? asked).map change else world.reaper? asked := by
  by_cases same : number = asked
  · subst same
    simp [changeReaper, reaper?]
  · simp [changeReaper, reaper?, same]

/-- The reapers after a scan that is due: only the one that scanned has another due. -/
theorem reaper?_runDue {number : Nat} {reaper : Reaper} {interval : Time}
    (regular : world.IsRegular) (found : world.reaper? number = some reaper)
    (distance : reaper.interval.toRat? = some interval) (due : Time) (asked : Nat) :
    (world.runDue number due).reaper? asked =
      if number = asked then some { reaper with due := some (due + interval) }
      else world.reaper? asked := by
  have changed : (world.runDue number due).reaper? asked =
      (world.changeReaper number fun reaping =>
        { reaping with due := some (due + interval) }).reaper? asked := by
    rw [reaper?, reapers_runDue found, distance, Option.map_some, regular.after_eq]
    rfl
  rw [changed, reaper?_changeReaper]
  split
  · rename_i same
    rw [← same, found]
    rfl
  · rfl

theorem now_runDue {number : Nat} {reaper : Reaper} {due : Time}
    (found : world.reaper? number = some reaper) : (world.runDue number due).now = due := by
  simp only [runDue, found, changeReaper, scan]
  rw [(did_evictAll _ _ _).passes.clock.now]

theorem rounding_runDue {number : Nat} {due : Time} :
    (world.runDue number due).rounding = world.rounding :=
  (kept_rounding world.rounding).runDue rfl number due

namespace Timely

variable {target : Time} {number : Nat} {reaper : Reaper} {due : Time}

/-- A scan that is due first is run at its time, and the next one is due later. -/
theorem runDue (timely : world.Timely) (first : world.IsFirst target number reaper due) :
    (world.runDue number due).Timely := by
  have regular := timely.regular.of_reaper? first.found
  rcases regular.finite due first.isDue with ⟨interval, distance⟩
  have reapers := reaper?_runDue timely.regular first.found distance due
  refine ⟨⟨?_, ?_⟩, kept_recorded.runDue timely.recorded number due, ?_⟩
  · rw [rounding_runDue]
    exact timely.regular.exact
  · intro other member
    rcases List.getElem?_of_mem member with ⟨asked, found⟩
    rw [← reaper?, reapers] at found
    split at found
    · obtain rfl := Option.some.inj found
      exact regular.reschedule distance reaper.running _
    · exact timely.regular.of_reaper? found
  · intro asked other later found isDue
    rw [now_runDue first.found]
    rw [reapers] at found
    split at found
    · obtain rfl := Option.some.inj found
      obtain rfl := Option.some.inj isDue
      have positive := regular.positive interval distance
      linarith
    · exact first.first asked other later found isDue

end Timely

/--
A reaper runs, and its first scan is due, or at its latest one no session stayed that was idle
for longer than its limit.
-/
def Watches (world : World) (number : Nat) (reaper : Reaper) (first idle interval : Time) : Prop :=
  ∃ due, world.reaper? number = some { reaper with due := some due } ∧
    (due = first ∨
      due - interval ≤ world.now ∧ world.ActiveSince (due - interval - idle))

theorem activeSince_runDue {number : Nat} {reaper : Reaper} {due time : Time}
    (found : world.reaper? number = some reaper) :
    (world.runDue number due).ActiveSince time ↔
      ({ world with now := due }.scan reaper.idleLimit).2.ActiveSince time := by
  simp only [runDue, found]
  exact Iff.rfl

/-- No session that a scan leaves was idle for longer than the limit. -/
theorem activeSince_scan {idle : Time} (exact : world.rounding = id) (quiet : world.IsQuiet)
    (finite : limit.toRat? = some idle) :
    (world.scan limit).2.ActiveSince (world.now - idle) := by
  intro session entry found unused
  have within := isIdle_scan quiet limit session
  have clock := (did_evictAll limit (world.overdue limit) world).passes.clock
  rw [isIdle, found] at within
  dsimp only at within
  rw [unused, Bool.not_false, Bool.true_and, since, scan, clock.rounding, clock.now, exact,
    exceeds_eq finite, decide_eq_false_iff_not] at within
  exact sub_le_comm.mp (not_lt.mp within)

namespace Watches

variable {number : Nat} {reaper : Reaper} {first idle interval target : Time}

/-- A scan that is due first is run at its time, whichever reaper it is. -/
theorem runDue (watches : world.Watches number reaper first idle interval)
    (timely : world.Timely) (quiet : world.IsQuiet) (patience : reaper.idleLimit.toRat? = some idle)
    (distance : reaper.interval.toRat? = some interval) {scanning : Nat} {other : Reaper}
    {due : Time} (isFirst : world.IsFirst target scanning other due) :
    (world.runDue scanning due).Watches number reaper first idle interval := by
  rcases watches with ⟨planned, found, state⟩
  have regular := timely.regular.of_reaper? isFirst.found
  rcases regular.finite due isFirst.isDue with ⟨span, spanned⟩
  have reapers := reaper?_runDue timely.regular isFirst.found spanned due number
  by_cases same : scanning = number
  · subst same
    obtain rfl := Option.some.inj (isFirst.found.symm.trans found)
    obtain rfl := Option.some.inj isFirst.isDue
    obtain rfl := Option.some.inj (spanned.symm.trans distance)
    rw [if_pos rfl] at reapers
    refine ⟨planned + span, reapers, Or.inr ?_⟩
    rw [now_runDue isFirst.found, activeSince_runDue isFirst.found, add_sub_cancel_right]
    refine ⟨le_rfl, ?_⟩
    have silent : World.IsQuiet { world with now := planned } := quiet
    exact activeSince_scan timely.regular.exact silent patience
  · rw [if_neg same] at reapers
    refine ⟨planned, reapers.trans found, ?_⟩
    rcases state with before | ⟨past, active⟩
    · exact Or.inl before
    · rw [now_runDue isFirst.found, activeSince_runDue isFirst.found]
      have later := timely.upcoming scanning other due isFirst.found isFirst.isDue
      have still : World.ActiveSince { world with now := due } (planned - interval - idle) := active
      exact Or.inr ⟨past.trans later, still.of_sheds (sheds_evictAll _ _ _)⟩

/-- Every scan that is due while time passes is run at its time. -/
theorem advance (watches : world.Watches number reaper first idle interval)
    (timely : world.Timely) (quiet : world.IsQuiet) (patience : reaper.idleLimit.toRat? = some idle)
    (distance : reaper.interval.toRat? = some interval) {span : Time} (forward : 0 ≤ span) :
    (world.advance span).Watches number reaper first idle interval := by
  let holds (reached : World) : Prop :=
    reached.Timely ∧ reached.now ≤ world.now + span ∧ reached.IsQuiet ∧
      reached.Watches number reaper first idle interval
  have scan : ∀ {reached : World} {scanning : Nat} {other : Reaper} {due : Time}, holds reached →
      reached.IsFirst (world.now + span) scanning other due →
        holds (reached.runDue scanning due) := by
    rintro reached scanning other due ⟨timely, -, quiet, watches⟩ isFirst
    refine ⟨timely.runDue isFirst, ?_, quiet.of_ground (reached.ground_runDue scanning due),
      watches.runDue timely quiet patience distance isFirst⟩
    rw [now_runDue isFirst.found]
    exact isFirst.within
  have before : holds world := ⟨timely, by linarith, quiet, watches⟩
  rcases advance_of_regular (fun held => held.1.regular) scan before with
    ⟨last, ⟨-, past, -, due, found, state⟩, same, -⟩
  rw [same]
  refine ⟨due, found, state.imp id fun ⟨scanned, active⟩ => ⟨scanned.trans past, active⟩⟩

end Watches

/-- Every scan that is due while time passes is run, and none is due when it has passed. -/
theorem Timely.advance (timely : world.Timely) (span : Time) :
    (world.advance span).Timely ∧ (world.advance span).IsRested := by
  let holds (reached : World) : Prop := reached.Timely
  have scan : ∀ {reached : World} {scanning : Nat} {other : Reaper} {due : Time}, holds reached →
      reached.IsFirst (world.now + span) scanning other due →
        holds (reached.runDue scanning due) :=
    fun timely isFirst => timely.runDue isFirst
  rcases advance_of_regular (fun held => Timely.regular held) scan timely with
    ⟨last, after, same, none⟩
  rw [same]
  have rested : World.IsRested { last with now := world.now + span } :=
    fun number reaper due found isDue => none found isDue
  refine ⟨⟨⟨after.regular.exact, after.regular.reapers⟩, { after.recorded with }, ?_⟩, rested⟩
  exact fun number reaper due found isDue => (rested number reaper due found isDue).le

/-! ## Turns of operations -/

/-- A limit that was accepted is above zero. -/
theorem positive_of_accepted {limit : Double} {seconds : Time}
    (accepted : Number.lessOrEqual (.double limit) (.integer 0) = false)
    (finite : limit.toRat? = some seconds) : 0 < seconds := by
  cases limit with
  | finite negative significand exponent fits =>
      obtain rfl := Option.some.inj finite
      have above : 0 < Double.signed negative (significand * Nat.pow 2 exponent) := by
        simp only [Number.lessOrEqual, Number.less, Number.equals, Number.related, Number.place?,
          Number.Place.before, Int.zero_mul, Bool.or_eq_false_iff, decide_eq_false_iff_not,
          beq_eq_false_iff_ne, ne_eq, Number.Place.steps.injEq] at accepted
        omega
      have unit : 0 < Double.stepsPerUnit := by
        decide +kernel
      rw [Rat.mkRat_eq_div]
      exact div_pos (Int.cast_pos.mpr above) (Nat.cast_pos.mpr unit)
  | infinite negative =>
      cases finite
  | nan mark =>
      cases finite

/-- A reaper that is made is regular, and nothing is due for it yet. -/
theorem isRegular_of_makeReaper {idleLimit interval : Double}
    (made : world.makeReaper idleLimit interval = .ok next) :
    Reaper.IsRegular { idleLimit := idleLimit, interval := interval } ∧
      next.reapers = world.reapers ++ [{ idleLimit := idleLimit, interval := interval }] := by
  rcases makeReaper_eq_ok made with ⟨patient, often, rfl⟩
  exact ⟨⟨fun _ => positive_of_accepted patient, fun _ => positive_of_accepted often, nofun⟩, rfl⟩

/-- Reapers are the ones that were there, or they are new and nothing is due for them yet. -/
theorem Tends.reaper? (tends : world.Tends next) (regular : world.IsRegular) {number : Nat}
    {reaper : Reaper} (found : next.reaper? number = some reaper) :
    reaper.IsRegular ∧ ∀ due, reaper.due = some due →
      world.reaper? number = some reaper ∨ world.now < due := by
  cases tends with
  | nothing =>
      exact ⟨regular.of_reaper? found, fun _ _ => Or.inl found⟩
  | make made =>
      rcases isRegular_of_makeReaper made with ⟨fresh, reapers⟩
      rw [World.reaper?, reapers] at found
      rcases Nat.lt_or_ge number world.reapers.length with there | beyond
      · rw [List.getElem?_append_left there] at found
        exact ⟨regular.of_reaper? found, fun _ _ => Or.inl found⟩
      · rw [List.getElem?_append_right beyond] at found
        obtain rfl := List.mem_singleton.mp (List.mem_of_getElem? found)
        refine ⟨fresh, fun due isDue => ?_⟩
        cases isDue
  | start started =>
      rw [startReaper, reaper?_changeReaper] at found
      split at found
      · rcases Option.map_eq_some_iff.mp found with ⟨before, there, rfl⟩
        have scans := regular.of_reaper? there
        split
        · exact ⟨scans, fun _ _ => Or.inl there⟩
        · refine ⟨⟨scans.patient, scans.positive, fun due isDue => ?_⟩, fun due isDue => ?_⟩
          · rcases Option.map_eq_some_iff.mp isDue with ⟨interval, distance, -⟩
            exact ⟨interval, distance⟩
          · rcases Option.map_eq_some_iff.mp isDue with ⟨interval, distance, rfl⟩
            have positive := scans.positive interval distance
            rw [regular.after_eq]
            exact Or.inr (by linarith)
      · exact ⟨regular.of_reaper? found, fun _ _ => Or.inl found⟩
  | stop stopped =>
      rw [stopReaper, reaper?_changeReaper] at found
      split at found
      · rcases Option.map_eq_some_iff.mp found with ⟨before, there, rfl⟩
        have scans := regular.of_reaper? there
        refine ⟨⟨scans.patient, scans.positive, fun due isDue => ?_⟩, fun due isDue => ?_⟩ <;>
          cases isDue
      · exact ⟨regular.of_reaper? found, fun _ _ => Or.inl found⟩

theorem Timely.tends (timely : world.Timely) (rested : world.IsRested) (tends : world.Tends next) :
    next.Timely ∧ next.IsRested := by
  have reapers : ∀ {number : Nat} {reaper : Reaper}, next.reaper? number = some reaper →
      reaper.IsRegular ∧ ∀ due, reaper.due = some due → world.now < due := by
    intro number reaper found
    rcases tends.reaper? timely.regular found with ⟨regular, dues⟩
    refine ⟨regular, fun due isDue => ?_⟩
    rcases dues due isDue with before | later
    · exact rested number reaper due before isDue
    · exact later
  have clock : next.now = world.now ∧ next.rounding = world.rounding := by
    rw [tends.eq]
    exact ⟨rfl, rfl⟩
  have still : next.IsRested := by
    intro number reaper due found isDue
    rw [clock.1]
    exact (reapers found).2 due isDue
  refine ⟨⟨⟨clock.2.trans timely.regular.exact, ?_⟩, kept_recorded.tends timely.recorded tends,
    ?_⟩, still⟩
  · intro reaper member
    rcases List.getElem?_of_mem member with ⟨number, found⟩
    exact (reapers found).1
  · exact fun number reaper due found isDue => (still number reaper due found isDue).le

theorem Timely.did (timely : world.Timely) (rested : world.IsRested) (did : world.Did next) :
    next.Timely ∧ next.IsRested := by
  have clock := (Did.passes did).clock
  have still : next.IsRested := by
    unfold IsRested World.reaper?
    rw [clock.now, clock.reapers]
    exact rested
  refine ⟨⟨⟨clock.rounding.trans timely.regular.exact, ?_⟩,
    kept_recorded.did timely.recorded did, ?_⟩, still⟩
  · rw [clock.reapers]
    exact timely.regular.reapers
  · exact fun number reaper due found isDue => (still number reaper due found isDue).le

namespace Watches

variable {number : Nat} {reaper : Reaper} {first idle interval : Time}

/-- A reaper that runs goes on as it was, unless it is stopped. -/
theorem tends (watches : world.Watches number reaper first idle interval)
    (running : reaper.running = true) (tends : world.Tends next)
    (still : next.isReaping number = true) : next.Watches number reaper first idle interval := by
  rcases watches with ⟨due, found, state⟩
  have same : next.reaper? number = some { reaper with due := some due } := by
    cases tends with
    | nothing =>
        exact found
    | make made =>
        rw [World.reaper?, (isRegular_of_makeReaper made).2,
          List.getElem?_append_left (List.getElem?_eq_some_iff.mp found).1]
        exact found
    | start started =>
        rw [startReaper, reaper?_changeReaper, found]
        split
        · rw [Option.map_some, if_pos running]
        · rfl
    | stop stopped =>
        rw [isReaping, stopReaper, reaper?_changeReaper] at still
        rw [stopReaper, reaper?_changeReaper]
        split
        · rename_i here
          rw [if_pos here, found] at still
          cases still
        · exact found
  refine ⟨due, same, ?_⟩
  rw [tends.eq]
  exact state

theorem did (watches : world.Watches number reaper first idle interval)
    (recorded : world.Recorded none) (positive : 0 < idle) (did : world.Did next) :
    next.Watches number reaper first idle interval := by
  rcases watches with ⟨due, found, state⟩
  have clock := (Did.passes did).clock
  refine ⟨due, ?_, ?_⟩
  · rw [World.reaper?, clock.reapers]
    exact found
  · rw [clock.now]
    rcases state with before | ⟨scanned, active⟩
    · exact Or.inl before
    · have past : due - interval - idle ≤ world.now := by
        linarith
      exact Or.inr ⟨scanned, active.did recorded past did⟩

end Watches

end World

/-! ## Whole runs -/

namespace Machine

variable {machine next : Machine} {number : Nat} {reaper : Reaper} {first idle interval : Time}

/-- Who lends to whom is known, and the scans of all reapers are run at their times. -/
structure Punctual (machine : Machine) : Prop where
  sound : machine.Sound []
  lends : machine.Lends
  timely : machine.world.Timely
  rested : machine.world.IsRested

/-- A machine stays punctual, whatever the step. -/
theorem Punctual.step (punctual : machine.Punctual) (step : machine.Step next) :
    next.Punctual := by
  have lends := (step.keeps punctual.sound punctual.lends World.kept_recorded
    punctual.timely.recorded).2
  rcases step.deeds punctual.sound punctual.lends with ⟨middle, tends, follows⟩ | ⟨span, rfl⟩
  · rcases punctual.timely.tends punctual.rested tends with ⟨timely, rested⟩
    rcases timely.did rested follows.did with ⟨timely, rested⟩
    exact ⟨punctual.sound.step step, lends, timely, rested⟩
  · rcases punctual.timely.advance span with ⟨timely, rested⟩
    exact ⟨punctual.sound.step step, lends, timely, rested⟩

theorem Punctual.steps (punctual : machine.Punctual)
    (steps : Relation.ReflTransGen Step machine next) : next.Punctual := by
  induction steps with
  | refl =>
      exact punctual
  | tail _ step ih =>
      exact ih.step step

/-- Where times are exact and no reaper runs yet, a machine is punctual at first. -/
theorem IsInitial.punctual (initial : machine.IsInitial) (exact : machine.world.rounding = id)
    (asleep : ∀ reaper ∈ machine.world.reapers, reaper.IsRegular ∧ reaper.due = none) :
    machine.Punctual := by
  have undue : ∀ {number : Nat} {reaper : Reaper} {due : Time},
      machine.world.reaper? number = some reaper → reaper.due = some due → False := by
    intro number reaper due found isDue
    rw [(asleep reaper (List.mem_of_getElem? found)).2] at isDue
    cases isDue
  exact ⟨initial.sound, initial.lends,
    ⟨⟨exact, fun reaper member => (asleep reaper member).1⟩, initial.recorded,
      fun _ _ _ found isDue => (undue found isDue).elim⟩,
    fun _ _ _ found isDue => (undue found isDue).elim⟩

/--
A step after which a reaper runs.  The clock does not go back, and handles report no failure
when they are closed, as those of connections never do, whatever becomes of their stores.
-/
structure Onward (number : Nat) (machine next : Machine) : Prop where
  step : machine.Step next
  forward : machine.world.now ≤ next.world.now
  running : next.world.isReaping number = true
  quiet : next.world.IsQuiet

/-- A reaper that runs watches over the sessions, whatever the step. -/
theorem Punctual.onward (punctual : machine.Punctual) (running : reaper.running = true)
    (patience : reaper.idleLimit.toRat? = some idle)
    (distance : reaper.interval.toRat? = some interval) (onward : machine.Onward number next)
    (watches : machine.world.Watches number reaper first idle interval) :
    next.world.Watches number reaper first idle interval := by
  rcases onward.step.deeds punctual.sound punctual.lends with
    ⟨middle, tends, follows⟩ | ⟨span, rfl⟩
  · have clock := (World.Did.passes follows.did).clock
    have still : middle.isReaping number = true := by
      rw [World.isReaping, World.reaper?, ← clock.reapers]
      exact onward.running
    rcases watches with ⟨due, found, state⟩
    have regular := punctual.timely.regular.of_reaper? found
    have positive : 0 < idle := regular.patient idle patience
    have tended : middle.Watches number reaper first idle interval :=
      World.Watches.tends ⟨due, found, state⟩ running tends still
    exact tended.did (punctual.timely.tends punctual.rested tends).1.recorded positive follows.did
  · have quiet := onward.quiet.of_ground (machine.world.ground_advance span).symm
    have forward : machine.world.now ≤ machine.world.now + span := by
      rw [← punctual.timely.regular.after_eq]
      exact onward.forward
    exact watches.advance punctual.timely quiet patience distance (by linarith)

theorem Punctual.watches (punctual : machine.Punctual) (running : reaper.running = true)
    (patience : reaper.idleLimit.toRat? = some idle)
    (distance : reaper.interval.toRat? = some interval)
    (onward : Relation.ReflTransGen (Onward number) machine next)
    (watches : machine.world.Watches number reaper first idle interval) :
    next.Punctual ∧ next.world.Watches number reaper first idle interval := by
  induction onward with
  | refl =>
      exact ⟨punctual, watches⟩
  | tail _ onward ih =>
      exact ⟨ih.1.step onward.step, ih.1.onward running patience distance onward ih.2⟩

/--
Where times are exact and a reaper runs, no session whose handle is not borrowed is idle for as
long as the limit and the interval of the reaper together, from the first scan on, whatever is
done in the meantime.
-/
theorem IsInitial.idleness_lt {origin start : Machine} (initial : origin.IsInitial)
    (exact : origin.world.rounding = id)
    (asleep : ∀ reaper ∈ origin.world.reapers, reaper.IsRegular ∧ reaper.due = none)
    (before : Relation.ReflTransGen Step origin start)
    (found : start.world.reaper? number = some reaper) (running : reaper.running = true)
    (isDue : reaper.due = some first) (patience : reaper.idleLimit.toRat? = some idle)
    (distance : reaper.interval.toRat? = some interval)
    (onward : Relation.ReflTransGen (Onward number) start machine)
    (scanned : first ≤ machine.world.now) :
    ∀ session entry, machine.world.session? session = some entry →
      machine.world.isBusy entry.handle = false →
        machine.world.now - entry.lastActivity < idle + interval := by
  have watches : start.world.Watches number reaper first idle interval :=
    ⟨first, by rw [found, ← isDue], Or.inl rfl⟩
  have reached := ((initial.punctual exact asleep).steps before).watches running patience distance
    onward watches
  rcases reached with ⟨punctual, due, there, state⟩
  have later : machine.world.now < due := punctual.rested number _ due there rfl
  intro session entry registered unused
  rcases state with same | ⟨-, active⟩
  · exact absurd scanned (not_le.mpr (same ▸ later))
  · have since := active session entry registered unused
    linarith

/-- A machine with exact times, before anything happens. -/
def exactAtFirst : Machine :=
  { atFirst with world := { atFirst.world with rounding := id } }

/-- A machine with exact times whose reaper was started. -/
def watching : Machine :=
  (exactAtFirst.submit "start" .startReaper).afterTurn

/-- A session that is idle for longer than the limit, and the next scan is yet to come. -/
def nearlyScanned : Machine :=
  (watching.registering "red").afterTurn.advance 605

theorem steps_nearlyScanned : Relation.ReflTransGen (Onward 0) watching nearlyScanned := by
  have quiet : ∀ {machine : Machine}, (∀ handle ∈ machine.world.handles, handle.manner = .sound) →
      machine.world.IsQuiet := by
    intro machine sound number
    rw [World.closingFault?, World.handle?]
    cases found : machine.world.handles[number]? with
    | none =>
        rfl
    | some handle =>
        rw [Option.bind_some, Handle.closingFault?, sound handle (List.mem_of_getElem? found)]
        rfl
  have registering : Onward 0 watching (watching.registering "red") :=
    ⟨.register "red" "red" (Handle.isFresh_ofBackend "red" rfl), by decide +kernel,
      by decide +kernel, quiet (by decide +kernel)⟩
  have turn : Onward 0 (watching.registering "red") (watching.registering "red").afterTurn := by
    refine ⟨?_, by decide +kernel, by decide +kernel, quiet (by decide +kernel)⟩
    exact @Step.turn _ 0 _ rfl
  exact ((Relation.ReflTransGen.single registering).tail turn).tail
    ⟨.pass 605, by decide +kernel, by decide +kernel, quiet (by decide +kernel)⟩

theorem nearlyScanned_idleness_lt :
    (nearlyScanned.world.session? "red").map Session.lastActivity = some 0 ∧
      nearlyScanned.world.now = 605 ∧
      ∀ session entry, nearlyScanned.world.session? session = some entry →
        nearlyScanned.world.isBusy entry.handle = false →
          nearlyScanned.world.now - entry.lastActivity < 600 + 60 := by
  have started : Relation.ReflTransGen Step exactAtFirst watching :=
    (steps_submit _ "start" .startReaper rfl).trans (steps_afterTurn _)
  have asleep : ∀ reaper ∈ exactAtFirst.world.reapers, reaper.IsRegular ∧ reaper.due = none := by
    intro reaper member
    obtain rfl := List.mem_singleton.mp member
    exact ⟨⟨fun _ => World.positive_of_accepted (by decide +kernel),
      fun _ => World.positive_of_accepted (by decide +kernel), nofun⟩, rfl⟩
  have scanned : 60 ≤ nearlyScanned.world.now := by
    decide +kernel
  exact ⟨by decide +kernel, by decide +kernel,
    IsInitial.idleness_lt ⟨rfl, rfl, rfl, rfl, rfl, rfl, rfl⟩ rfl asleep started rfl rfl
      (by decide +kernel) (by decide +kernel) (by decide +kernel) steps_nearlyScanned scanned⟩

end Machine
end DocumentGate.Service
