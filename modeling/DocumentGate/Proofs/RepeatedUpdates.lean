import DocumentGate.Proofs.OverflowingSums
import DocumentGate.Proofs.RearrangedDocuments

/-!
# Updates that are made again

An update that only sets and removes makes of what stands at a place the same whatever stood
there, or it leaves it as it is.  So making it again changes nothing but the order of members,
however its paths overlap, and the two documents are equal.

A store that is given the update again reports no document as modified to which it was made
before.  Where all matching documents are updated, those are all that it is made to again.  Where
only the first one is updated, it is made to that one again as long as the filter matches it.
Otherwise it goes to the next one.
-/

namespace DocumentGate

open Document (segments)

/-! ## One place -/

/-- What is made does not depend on what was there, unless that is kept. -/
def KeepsOrFixes (effect : Option Json → Option Json) : Prop :=
  (∀ before, effect before = before) ∨ ∃ after, ∀ before, effect before = after

namespace KeepsOrFixes

variable {effect further : Option Json → Option Json}

theorem twice (keepsOrFixes : KeepsOrFixes effect) (before : Option Json) :
    effect (effect before) = effect before := by
  rcases keepsOrFixes with keeps | ⟨after, fixes⟩
  · exact keeps (effect before)
  · rw [fixes, fixes]

theorem comp (second : KeepsOrFixes further) (first : KeepsOrFixes effect) :
    KeepsOrFixes (further ∘ effect) := by
  rcases second with keeps | ⟨after, fixes⟩
  · have same : further ∘ effect = effect := funext fun before => keeps (effect before)
    rwa [same]
  · exact Or.inr ⟨after, fun before => fixes (effect before)⟩

end KeepsOrFixes

theorem Document.rewritten_keepsOrFixes (path : List String) (written : Option Json)
    (place : List String) : KeepsOrFixes (rewritten path written place) := by
  by_cases below : path <+: place
  · exact Or.inr ⟨written.bind fun value => value.standing (place.drop path.length),
      fun _ => if_pos below⟩
  by_cases above : place <+: path ∧ written.isSome = true
  · refine Or.inr ⟨some (.object []), fun before => ?_⟩
    rw [rewritten, if_neg below, if_pos above]
  · refine Or.inl fun before => ?_
    rw [rewritten, if_neg below, if_neg above]

/-! ## Updates without increases -/

/-- The change increases a number. -/
def Change.increases : Change → Bool
  | .increase _ _ => true
  | _ => false

namespace Update

/-- The update only sets and removes. -/
def OnlySetsAndUnsets (update : Update) : Prop :=
  ∀ change ∈ update, change.increases = false

variable {mark : Nat} {document : Document} {update : Update}

/-- What a change writes that increases nothing does not depend on what was there. -/
theorem exists_written {change : Change} (plain : change.increases = false) :
    ∃ written, ∀ mark found, change.written mark found = .ok written := by
  cases change with
  | set path value =>
      exact ⟨some value, fun _ _ => rfl⟩
  | unset path =>
      exact ⟨none, fun _ _ => rfl⟩
  | increase path amount =>
      cases plain

/-- What an update makes of each place, if it only sets and removes. -/
theorem exists_effect (plain : update.OnlySetsAndUnsets) :
    ∃ effect : List String → Option Json → Option Json, (∀ place, KeepsOrFixes (effect place)) ∧
      ∀ mark document, ∃ updated, update.foldlM (applyChange mark) document = .ok updated ∧
        ∀ place, updated.sight place = effect place (document.sight place) := by
  induction update with
  | nil =>
      exact ⟨fun _ => id, fun _ => Or.inl fun _ => rfl,
        fun _ document => ⟨document, rfl, fun _ => rfl⟩⟩
  | cons change rest ih =>
      rcases exists_written (plain change List.mem_cons_self) with ⟨written, writes⟩
      rcases ih fun other member => plain other (List.mem_cons_of_mem change member) with
        ⟨effect, keepsOrFixes, runs⟩
      refine ⟨fun place => effect place ∘ Document.rewritten (segments change.path) written place,
        fun place => (keepsOrFixes place).comp (Document.rewritten_keepsOrFixes _ written place),
        fun mark document => ?_⟩
      rcases runs mark (document.write (segments change.path) written) with ⟨updated, ran, sights⟩
      refine ⟨updated, ?_, fun place => ?_⟩
      · rw [List.foldlM_cons, applyChange_eq, writes]
        exact ran
      · rw [sights, Document.sight_write (Document.segments_ne_nil change.path)]
        rfl

theorem exists_apply (plain : update.OnlySetsAndUnsets) (document : Document) :
    ∃ updated, update.apply document = .ok updated := by
  rcases exists_effect plain with ⟨_, -, runs⟩
  rcases runs (Json.object document).freshMark document with ⟨updated, ran, -⟩
  exact ⟨updated, ran⟩

/-- What is made again differs in the order of members only. -/
theorem rearranges_of_twice (plain : update.OnlySetsAndUnsets)
    (made : ∀ change ∈ update, change.HasDistinctKeys)
    (distinct : (Json.object document).HasDistinctKeys) {once twice : Document}
    (first : update.apply document = .ok once) (second : update.apply once = .ok twice) :
    Json.Rearranges (.object twice) (.object once) := by
  have distinctOnce := distinct_changes made distinct first
  refine Json.rearranges_of_standing (distinct_changes made distinctOnce second) distinctOnce ?_
  rcases exists_effect plain with ⟨effect, keepsOrFixes, runs⟩
  rcases runs (Json.object document).freshMark document with ⟨_, ran, sights⟩
  rcases runs (Json.object once).freshMark once with ⟨_, ranAgain, sightsAgain⟩
  obtain rfl := Except.ok.inj (ran.symm.trans first)
  obtain rfl := Except.ok.inj (ranAgain.symm.trans second)
  funext place
  change Document.sight _ place = Document.sight _ place
  rw [sightsAgain, sights, (keepsOrFixes place).twice]

theorem equals_of_twice (plain : update.OnlySetsAndUnsets)
    (made : ∀ change ∈ update, change.HasDistinctKeys)
    (distinct : (Json.object document).HasDistinctKeys) {once twice : Document}
    (first : update.apply document = .ok once) (second : update.apply once = .ok twice) :
    Json.equals (.object twice) (.object once) = true :=
  (rearranges_of_twice plain made distinct first second).equals
    (distinct_changes made (distinct_changes made distinct first) second)

end Update

namespace Store.Cluster

variable {filter : Filter} {update : Update} {many : Bool} {before after : List Document}

/-! ## Stores -/

/-- Documents that an update cannot fail on are updated. -/
theorem exists_revise (total : ∀ document, ∃ updated, update.apply document = .ok updated)
    (filter : Filter) (many : Bool) (documents : List Document) :
    ∃ revision, revise filter update many documents = .ok revision := by
  cases revised : revise filter update many documents with
  | ok revision =>
      exact ⟨revision, rfl⟩
  | error cause =>
      rcases revise_eq_error_iff.mp revised with ⟨_, document, _, -, -, failed, -⟩
      rcases total document with ⟨updated, applied⟩
      rw [applied] at failed
      cases failed

/-- Made again to documents that it was made to before, the update alters none of them. -/
theorem Revises.modified_again {positions again : List Nat} {revision further : Revision}
    (plain : update.OnlySetsAndUnsets) (made : ∀ change ∈ update, change.HasDistinctKeys)
    (distinct : ∀ document ∈ before, (Json.object document).HasDistinctKeys)
    (revises : Revises Json.equals update positions before revision)
    (revisesAgain : Revises Json.equals update again revision.documents further)
    (within : ∀ position ∈ again, position ∈ positions) : further.modified = 0 := by
  rw [revisesAgain.modified, List.countP_eq_zero]
  intro position member
  rcases revises.replaced position (within position member) with
    ⟨document, once, found, applied, written⟩
  rw [written, Option.any_some]
  split
  · rename_i equal
    rw [Update.alters_of_apply applied, equal]
    exact Bool.false_ne_true
  · rcases Update.exists_apply plain once with ⟨twice, appliedAgain⟩
    rw [Update.alters_of_apply appliedAgain, Update.equals_of_twice plain made
      (distinct document (List.mem_of_getElem? found)) applied appliedAgain]
    exact Bool.false_ne_true

/-- The filter matches the document at a position, if there is one. -/
def MatchesAt (filter : Filter) (documents : List Document) (position : Nat) : Prop :=
  documents[position]?.any filter.matches = true

theorem matchesAt_iff {documents : List Document} {position : Nat}
    (inside : position < documents.length) :
    MatchesAt filter documents position ↔ filter.matches documents[position] = true := by
  rw [MatchesAt, List.getElem?_eq_getElem inside, Option.any_some]

theorem MatchesAt.lt_length {documents : List Document} {position : Nat}
    (matched : MatchesAt filter documents position) : position < documents.length := by
  rcases (Option.any_eq_true _ _).mp matched with ⟨document, found, -⟩
  exact (List.getElem?_eq_some_iff.mp found).1

/-- Where all are updated, those are the ones that the filter matches. -/
theorem mem_meant_all {documents : List Document} {position : Nat} :
    position ∈ meant filter true documents ↔ MatchesAt filter documents position := by
  rw [meant, if_pos rfl, List.mem_findIdxs_iff_exists_getElem_pos]
  constructor
  · rintro ⟨inside, met⟩
    exact (matchesAt_iff inside).mpr met
  · intro matched
    exact ⟨matched.lt_length, (matchesAt_iff matched.lt_length).mp matched⟩

/-- Where one is updated, it is the first one that the filter matches. -/
theorem mem_meant_first {documents : List Document} {position : Nat} :
    position ∈ meant filter false documents ↔
      MatchesAt filter documents position ∧
        ∀ earlier < position, ¬MatchesAt filter documents earlier := by
  have first : position ∈ meant filter false documents ↔
      documents.findIdx? filter.matches = some position := by
    induction documents generalizing position with
    | nil =>
        simp [meant]
    | cons document rest ih =>
        rw [meant_cons, List.findIdx?_cons]
        split
        · simp [eq_comm]
        · simp [ih]
  rw [first, List.findIdx?_eq_some_iff_getElem]
  constructor
  · rintro ⟨inside, met, unmet⟩
    refine ⟨(matchesAt_iff inside).mpr met, fun earlier before matched => ?_⟩
    exact unmet earlier before ((matchesAt_iff (before.trans inside)).mp matched)
  · rintro ⟨matched, unmatched⟩
    have inside := matched.lt_length
    refine ⟨inside, (matchesAt_iff inside).mp matched, fun earlier before met => ?_⟩
    exact unmatched earlier before ((matchesAt_iff (before.trans inside)).mpr met)

theorem matchesAt_of_mem_meant {documents : List Document} {position : Nat}
    (matching : position ∈ meant filter many documents) :
    MatchesAt filter documents position := by
  cases many with
  | false => exact (mem_meant_first.mp matching).1
  | true => exact mem_meant_all.mp matching

section Retrying

variable {revision : Revision}

/-- Where all matching documents were updated, no other one matches now. -/
theorem Revises.within_all
    (revises : Revises Json.equals update (meant filter true before) before revision) :
    ∀ position ∈ meant filter true revision.documents, position ∈ meant filter true before := by
  intro position matching
  by_contra other
  refine other (mem_meant_all.mpr ?_)
  have matched := mem_meant_all.mp matching
  rwa [MatchesAt, revises.others position other] at matched

/-- Where the document that was updated still matches, no other one is the first to match. -/
theorem Revises.within_first
    (revises : Revises Json.equals update (meant filter false before) before revision)
    (still : ∀ position ∈ meant filter false before,
      MatchesAt filter revision.documents position) :
    ∀ position ∈ meant filter false revision.documents, position ∈ meant filter false before := by
  intro position matching
  rcases mem_meant_first.mp matching with ⟨matched, unmatched⟩
  by_contra other
  have matchedBefore : MatchesAt filter before position := by
    rwa [MatchesAt, revises.others position other] at matched
  -- The first document to match before still matches, so it is no earlier one.
  have unmatchedBefore : ∀ earlier < position, ¬MatchesAt filter before earlier := by
    intro earlier
    induction earlier using Nat.strongRecOn with
    | ind earlier ih =>
        intro sooner first
        refine unmatched earlier sooner (still earlier (mem_meant_first.mpr ⟨first, ?_⟩))
        exact fun other less => ih other less (less.trans sooner)
  exact other (mem_meant_first.mpr ⟨matchedBefore, unmatchedBefore⟩)

end Retrying

section Calls

variable {default : String} {place : Place} {filterValue value : Json} {keeping : Keeping}

theorem perform_update_unmodified {revision : Revision}
    (reads : Filter.read filterValue = .ok filter)
    (accepts : Update.read value = .ok update)
    (revised : revise filter update many (keeping.cluster.documents place) = .ok revision)
    (none : revision.modified = 0) :
    perform default (.update place filterValue value many) keeping =
      (.ok (.changed revision.matched 0), keeping) := by
  change keeping.settle (keeping.cluster.update place filterValue value many) = _
  have readsUpdate : readUpdate value = .ok update := by
    rw [readUpdate, accepts]
    rfl
  rw [Cluster.update, readFilter_eq_ok reads, readsUpdate]
  dsimp only [bind, Except.bind]
  rw [revised]
  dsimp only [Except.mapError]
  rw [none, if_pos rfl]
  rfl

/-- The call is acknowledged without a document modified, and changes nothing. -/
def IsSettled (default : String) (call : Call) (keeping : Keeping) : Prop :=
  ∃ matched, perform default call keeping = (.ok (.changed matched 0), keeping)

/--
What comes of an update that is made again.  No document changes but for the order of members, and
a store modifies none to which it was made before.
-/
structure Settles (value : Json) (update : Update) : Prop where
  /-- Made twice it makes the same of a document, the order of members aside. -/
  twice : ∀ document : Document, (Json.object document).HasDistinctKeys →
    ∃ once twice, update.apply document = .ok once ∧ update.apply once = .ok twice ∧
      Json.Rearranges (.object twice) (.object once) ∧
      Json.equals (.object twice) (.object once) = true
  /--
  A store modifies nothing where all are updated, where the one that was updated still matches,
  and where none matches any more.
  -/
  retried : ∀ (default : String) (place : Place) (filterValue : Json) (filter : Filter)
    (many : Bool) (keeping after : Keeping) (matched modified : Nat),
    Filter.read filterValue = .ok filter →
    (∀ document ∈ keeping.cluster.documents place, (Json.object document).HasDistinctKeys) →
    perform default (.update place filterValue value many) keeping =
      (.ok (.changed matched modified), after) →
    many = true ∨
      (∀ position ∈ meant filter many (keeping.cluster.documents place),
        MatchesAt filter (after.cluster.documents place) position) ∨
      (∀ position, ¬MatchesAt filter (after.cluster.documents place) position) →
    IsSettled default (.update place filterValue value many) after

/-- An update that only sets and removes settles, and so does a store that it is made to again. -/
theorem settles_of_read (accepted : Update.read value = .ok update)
    (plain : update.OnlySetsAndUnsets) (distinct : value.HasDistinctKeys) :
    Settles value update where
  twice document distinctDocument := by
    have made := Update.distinct_read accepted distinct
    rcases Update.exists_apply plain document with ⟨once, first⟩
    rcases Update.exists_apply plain once with ⟨twice, second⟩
    exact ⟨once, twice, first, second,
      Update.rearranges_of_twice plain made distinctDocument first second,
      Update.equals_of_twice plain made distinctDocument first second⟩
  retried default place filterValue filter many keeping after matched modified reads distinctAll
      acknowledged again := by
    rcases perform_update_eq_ok acknowledged with
      ⟨read, changes, revision, readFilter, readUpdate, revised, -, -, -, here⟩
    obtain rfl := Except.ok.inj (readFilter.symm.trans reads)
    obtain rfl := Except.ok.inj (readUpdate.symm.trans accepted)
    have revises := revises_of_revise revised
    have within : ∀ position ∈ meant read many (after.cluster.documents place),
        position ∈ meant read many (keeping.cluster.documents place) := by
      rw [here] at again ⊢
      rcases again with rfl | still | unmatched
      · exact revises.within_all
      · cases many with
        | false => exact revises.within_first still
        | true => exact revises.within_all
      · exact fun position matching => absurd (matchesAt_of_mem_meant matching) (unmatched position)
    rcases exists_revise (Update.exists_apply plain) read many (after.cluster.documents place) with
      ⟨further, revisedAgain⟩
    have revisesAgain := revises_of_revise revisedAgain
    have unmodified : further.modified = 0 := by
      rw [here] at revisesAgain within
      exact revises.modified_again plain (Update.distinct_read accepted distinct) distinctAll
        revisesAgain within
    exact ⟨further.matched,
      perform_update_unmodified reads accepted revisedAgain unmodified⟩

/-- An update that sets a member it removes, and removes one below a member that it sets. -/
def contrary : Json :=
  .object [("$set", .object [("a.b", .integer 1), ("c", .integer 2)]),
    ("$unset", .object [("a", .string ""), ("c.d", .string "")])]

/-- What the update is read as. -/
def contraryChanges : Update :=
  [.set "a.b" (.integer 1), .set "c" (.integer 2), .unset "a", .unset "c.d"]

theorem contrary_settles :
    Update.read contrary = .ok contraryChanges ∧ contraryChanges.OnlySetsAndUnsets ∧
      contrary.HasDistinctKeys ∧ Settles contrary contraryChanges := by
  have accepted : Update.read contrary = .ok contraryChanges := rfl
  have plain : contraryChanges.OnlySetsAndUnsets := by
    simp [contraryChanges, Update.OnlySetsAndUnsets, Change.increases]
  have distinct : contrary.HasDistinctKeys := by
    simp [contrary, Json.HasDistinctKeys, Json.MembersHaveDistinctKeys, Json.integer]
  exact ⟨accepted, plain, distinct, settles_of_read accepted plain distinct⟩

/-- The first document that has the number one under `k` has the number two there. -/
def promote : Call :=
  .update ⟨"shop", "items"⟩ (.object [("k", .integer 1)])
    (.object [("$set", .object [("k", .integer 2)])]) false

/-- Two documents that have the number one under `k`. -/
def unpromoted : List Document :=
  [[("_id", .integer 1), ("k", .integer 1)], [("_id", .integer 2), ("k", .integer 1)]]

/-- The collection after the first of them was updated. -/
def promoted : Except Fault Reply × Keeping :=
  perform "test" promote (collected unpromoted)

/-- Made again, an update of one document goes to the next one that the filter matches. -/
theorem promote_moves_on :
    Update.read (.object [("$set", .object [("k", .integer 2)])]) =
        .ok [.set "k" (.integer 2)] ∧
      Update.OnlySetsAndUnsets [.set "k" (.integer 2)] ∧
      changes? promoted.1 = some (1, 1) ∧
      changes? (perform "test" promote promoted.2).1 = some (1, 1) ∧
      ¬IsSettled "test" promote promoted.2 := by
  have moved : changes? (perform "test" promote promoted.2).1 = some (1, 1) := by
    decide +kernel
  refine ⟨rfl, ?_, by decide +kernel, moved, ?_⟩
  · simp [Update.OnlySetsAndUnsets, Change.increases]
  · rintro ⟨matched, settled⟩
    rw [settled] at moved
    cases moved

end Calls

end Store.Cluster
end DocumentGate
