import DocumentGate.Proofs.Records
import Mathlib.Data.List.MinMax
import Mathlib.Data.Rat.Floor
import Mathlib.Tactic.FieldSimp
import Mathlib.Tactic.Linarith

/-!
# Scans that are due

When time passes, the scans of all reapers are run in the order in which they are due.  Where
times are exact and every interval is positive, no scan that is due by then is left out: each
of them makes the number of scans that may still be due smaller.
-/

namespace DocumentGate.Service

/-- The limit and the interval are above zero, and a scan is due only if the interval ends. -/
structure Reaper.IsRegular (reaper : Reaper) : Prop where
  patient : ∀ limit, reaper.idleLimit.toRat? = some limit → 0 < limit
  positive : ∀ interval, reaper.interval.toRat? = some interval → 0 < interval
  finite : ∀ due, reaper.due = some due → ∃ interval, reaper.interval.toRat? = some interval

theorem Reaper.IsRegular.reschedule {reaper : Reaper} (regular : reaper.IsRegular)
    {interval : Time} (distance : reaper.interval.toRat? = some interval) (running : Bool)
    (due : Option Time) :
    Reaper.IsRegular { reaper with running := running, due := due } :=
  ⟨regular.patient, regular.positive, fun _ _ => ⟨interval, distance⟩⟩

namespace World

variable {world : World} {target : Time}

/-! ## The scan that is due first -/

/-- The scan of a reaper is due up to a time, and no other one is due before it. -/
structure IsFirst (world : World) (target : Time) (number : Nat) (reaper : Reaper)
    (due : Time) : Prop where
  found : world.reaper? number = some reaper
  isDue : reaper.due = some due
  within : due ≤ target
  first : ∀ other rival later, world.reaper? other = some rival → rival.due = some later →
    due ≤ later

/-- The dues of all reapers. -/
def dues (world : World) : List (Nat × Time) :=
  world.reapers.zipIdx.filterMap fun (reaper, number) => reaper.due.map fun due => (number, due)

theorem mem_dues {number : Nat} {due : Time} :
    (number, due) ∈ world.dues ↔
      ∃ reaper, world.reaper? number = some reaper ∧ reaper.due = some due := by
  simp only [dues, List.mem_filterMap, Prod.exists, List.mk_mem_zipIdx_iff_getElem?,
    Option.map_eq_some_iff, Prod.mk.injEq, reaper?]
  constructor
  · rintro ⟨reaper, position, found, later, isDue, rfl, rfl⟩
    exact ⟨reaper, found, isDue⟩
  · rintro ⟨reaper, found, isDue⟩
    exact ⟨reaper, number, found, due, isDue, rfl, rfl⟩

theorem nextDue?_eq_argmin (world : World) (target : Time) :
    world.nextDue? target = (world.dues.filter fun due => due.2 ≤ target).argmin Prod.snd := by
  unfold nextDue? List.argmin
  dsimp only
  congr 1
  funext first candidate
  cases first with
  | none =>
      rfl
  | some found =>
      simp only [List.argAux]

theorem isFirst_of_nextDue? {number : Nat} {due : Time}
    (next : world.nextDue? target = some (number, due)) :
    ∃ reaper, world.IsFirst target number reaper due := by
  rw [nextDue?_eq_argmin] at next
  rcases List.mem_filter.mp (List.argmin_mem next) with ⟨among, within⟩
  rcases mem_dues.mp among with ⟨reaper, found, isDue⟩
  refine ⟨reaper, found, isDue, of_decide_eq_true within, ?_⟩
  intro other rival later there isLater
  by_cases soon : later ≤ target
  · have candidate : (other, later) ∈ world.dues.filter fun due => due.2 ≤ target :=
      List.mem_filter.mpr ⟨mem_dues.mpr ⟨rival, there, isLater⟩, decide_eq_true soon⟩
    exact List.le_of_mem_argmin candidate next
  · exact (of_decide_eq_true within).trans (not_le.mp soon).le

theorem lt_of_nextDue? (none : world.nextDue? target = none) {number : Nat} {reaper : Reaper}
    {due : Time} (found : world.reaper? number = some reaper) (isDue : reaper.due = some due) :
    target < due := by
  rw [nextDue?_eq_argmin, List.argmin_eq_none, List.filter_eq_nil_iff] at none
  simpa using none (number, due) (mem_dues.mpr ⟨reaper, found, isDue⟩)

/-! ## No scan is left out -/

/-- How many scans of all reapers may be due up to a time. -/
def dueTotal (world : World) (target : Time) : Nat :=
  (world.reapers.map (dueCount target)).sum

theorem foldl_dueCount (world : World) (target : Time) :
    world.reapers.foldl (fun count reaper => count + dueCount target reaper) 0 =
      world.dueTotal target := by
  rw [dueTotal, List.sum_eq_foldl, List.foldl_map]

/-- A scan that was run leaves fewer that may be due. -/
theorem dueCount_lt {reaper : Reaper} {due interval : Time} (isDue : reaper.due = some due)
    (within : due ≤ target) (distance : reaper.interval.toRat? = some interval)
    (positive : 0 < interval) :
    dueCount target { reaper with due := some (due + interval) } < dueCount target reaper := by
  simp only [dueCount, isDue, distance, if_pos within]
  split
  · rename_i again
    have shorter : 2 * (target - (due + interval)) / interval =
        2 * (target - due) / interval - (2 : Nat) := by
      field_simp
      push_cast
      ring
    have left : 0 ≤ 2 * (target - (due + interval)) / interval :=
      div_nonneg (by linarith) positive.le
    have rest : (0 : Int) ≤ ⌊2 * (target - due) / interval - (2 : Nat)⌋ :=
      Int.floor_nonneg.mpr (shorter ▸ left)
    rw [shorter]
    change ⌊2 * (target - due) / interval - (2 : Nat)⌋.toNat + 1 <
      ⌊2 * (target - due) / interval⌋.toNat + 1
    rw [Int.floor_sub_natCast] at rest ⊢
    omega
  · exact Nat.succ_pos _

/-- Where one of many counts gets smaller, their sum does. -/
theorem sum_modify_lt {α : Type} {values : List α} {number : Nat} {value : α} {change : α → α}
    {count : α → Nat} (found : values[number]? = some value)
    (less : count (change value) < count value) :
    ((values.modify number change).map count).sum < (values.map count).sum := by
  induction values generalizing number with
  | nil =>
      simp at found
  | cons first rest ih =>
      cases number with
      | zero =>
          obtain rfl : first = value := by
            simpa using found
          simpa using less
      | succ number =>
          have further := ih (by simpa using found)
          simpa using further

/-- What the reapers are after the scan of one of them. -/
theorem reapers_runDue {number : Nat} {reaper : Reaper} {due : Time}
    (found : world.reaper? number = some reaper) :
    (world.runDue number due).reapers = world.reapers.modify number fun reaping =>
      { reaping with due := reaper.interval.toRat?.map (world.after due) } := by
  simp only [runDue, found, changeReaper, scan]
  rw [(did_evictAll _ _ _).passes.clock.reapers]

/-- Times are exact, and every reaper is regular. -/
structure IsRegular (world : World) : Prop where
  exact : world.rounding = id
  reapers : ∀ reaper ∈ world.reapers, reaper.IsRegular

namespace IsRegular

variable {number : Nat} {reaper : Reaper} {due : Time}

theorem of_reaper? (regular : world.IsRegular) (found : world.reaper? number = some reaper) :
    reaper.IsRegular :=
  regular.reapers reaper (List.mem_of_getElem? found)

theorem after_eq (regular : world.IsRegular) (time span : Time) :
    world.after time span = time + span := by
  rw [World.after, regular.exact]
  rfl

/-- A scan that was run leaves fewer that may be due. -/
theorem dueTotal_runDue_lt (regular : world.IsRegular)
    (first : world.IsFirst target number reaper due) :
    (world.runDue number due).dueTotal target < world.dueTotal target := by
  have scans := regular.of_reaper? first.found
  rcases scans.finite due first.isDue with ⟨interval, distance⟩
  rw [dueTotal, reapers_runDue first.found]
  refine sum_modify_lt first.found ?_
  rw [distance, Option.map_some, regular.after_eq]
  exact dueCount_lt first.isDue first.within distance (scans.positive interval distance)

theorem nextDue?_eq_none (regular : world.IsRegular) (spent : world.dueTotal target = 0) :
    world.nextDue? target = none := by
  cases next : world.nextDue? target with
  | none =>
      rfl
  | some pair =>
      rcases isFirst_of_nextDue? next with ⟨reaper, first⟩
      have fewer := regular.dueTotal_runDue_lt first
      omega

end IsRegular

/--
A property of regular worlds that the scan which is due first keeps lasts until no scan is due
any more, if as many may be run as may be due.
-/
theorem runUntil_of_dueTotal {holds : World → Prop}
    (regular : ∀ {world : World}, holds world → world.IsRegular)
    (scan : ∀ {world : World} {number : Nat} {reaper : Reaper} {due : Time}, holds world →
      world.IsFirst target number reaper due → holds (world.runDue number due))
    (fuel : Nat) (enough : world.dueTotal target ≤ fuel) (before : holds world) :
    holds (world.runUntil target fuel) ∧ (world.runUntil target fuel).nextDue? target = none := by
  induction fuel generalizing world with
  | zero =>
      exact ⟨before, (regular before).nextDue?_eq_none (Nat.le_zero.mp enough)⟩
  | succ fuel ih =>
      rw [runUntil]
      split
      · rename_i number due next
        rcases isFirst_of_nextDue? next with ⟨reaper, first⟩
        have fewer := (regular before).dueTotal_runDue_lt first
        exact ih (by omega) (scan before first)
      · rename_i done
        exact ⟨before, done⟩

/-- When time passes, every scan that is due by then is run. -/
theorem advance_of_regular {holds : World → Prop} {span : Time}
    (regular : ∀ {world : World}, holds world → world.IsRegular)
    (scan : ∀ {next : World} {number : Nat} {reaper : Reaper} {due : Time}, holds next →
      next.IsFirst (world.now + span) number reaper due → holds (next.runDue number due))
    (before : holds world) :
    ∃ last, holds last ∧ world.advance span = { last with now := world.now + span } ∧
      ∀ {number : Nat} {reaper : Reaper} {due : Time}, last.reaper? number = some reaper →
        reaper.due = some due → world.now + span < due := by
  rw [advance, foldl_dueCount, (regular before).after_eq]
  rcases runUntil_of_dueTotal regular scan _ le_rfl before with ⟨after, done⟩
  exact ⟨_, after, rfl, lt_of_nextDue? done⟩

end World
end DocumentGate.Service
