import DocumentGate.Proofs.Results
import DocumentGate.Store.Memory

/-!
# Documents that are found and deleted

Finding gives the documents that a filter matches in the order of the collection, and finding
one gives the first of them.  Deleting takes away what finding gives, or what finding one gives:
the collection keeps all its other documents in their order, and every other collection is left
as it is, whether it is missing or empty.
-/

namespace DocumentGate.Store.Cluster

/-! ## Collections -/

/-- The collection at a place, if there is one. -/
def collection? (cluster : Cluster) (place : Place) : Option (List Document) :=
  (Dictionary.get? place.database cluster).bind (Dictionary.get? place.collection)

theorem documents_eq (cluster : Cluster) (place : Place) :
    cluster.documents place = (cluster.collection? place).getD [] := by
  rw [documents, collection?]
  cases Dictionary.get? place.database cluster <;> rfl

/-- Only the collection at the place is another. -/
theorem collection?_withDocuments (cluster : Cluster) (place asked : Place)
    (others : List Document) :
    (cluster.withDocuments place others).collection? asked =
      if place = asked then some others else cluster.collection? asked := by
  obtain ⟨database, collection⟩ := place
  obtain ⟨askedDatabase, askedCollection⟩ := asked
  simp only [collection?, withDocuments, Dictionary.get?_insert, Place.mk.injEq]
  by_cases sameDatabase : database = askedDatabase
  · subst sameDatabase
    by_cases sameCollection : collection = askedCollection
    · simp [Dictionary.get?_insert, sameCollection]
    · cases Dictionary.get? database cluster <;>
        simp [Dictionary.get?_insert, sameCollection, Dictionary.get?]
  · simp [sameDatabase]

/-- Only the documents at the place are others. -/
theorem documents_withDocuments (cluster : Cluster) (place asked : Place)
    (others : List Document) :
    (cluster.withDocuments place others).documents asked =
      if place = asked then others else cluster.documents asked := by
  rw [documents_eq, documents_eq, collection?_withDocuments]
  split <;> rfl

/-- The collection at the place, if there is one, keeps these documents; no other one changes. -/
structure Keeps (place : Place) (before after : Cluster) (kept : List Document) : Prop where
  here : after.collection? place = (before.collection? place).map fun _ => kept
  elsewhere : ∀ other, other ≠ place → after.collection? other = before.collection? other

theorem Keeps.same (cluster : Cluster) (place : Place) :
    Keeps place cluster cluster (cluster.documents place) where
  here := by
    rw [documents_eq]
    cases cluster.collection? place <;> rfl
  elsewhere _ _ := rfl

theorem Keeps.withDocuments {cluster : Cluster} {place : Place} (kept : List Document)
    (present : cluster.documents place ≠ []) :
    Keeps place cluster (cluster.withDocuments place kept) kept where
  here := by
    rw [collection?_withDocuments, if_pos rfl]
    rw [documents_eq] at present
    cases found : cluster.collection? place with
    | none =>
        rw [found] at present
        exact absurd rfl present
    | some documents =>
        rfl
  elsewhere other different := by
    rw [collection?_withDocuments, if_neg (Ne.symm different)]

/-- Where documents stay there were some, and where there were none they stay none. -/
theorem Keeps.documents {place : Place} {before after : Cluster} {kept : List Document}
    (keeps : Keeps place before after kept) (fewer : before.documents place = [] → kept = []) :
    after.documents place = kept := by
  rw [documents_eq, keeps.here]
  rw [documents_eq] at fewer
  cases found : before.collection? place with
  | none =>
      rw [found] at fewer
      exact (fewer rfl).symm
  | some documents =>
      rfl

/-! ## Deleting -/

variable (filter : Filter) (documents : List Document)

theorem removeMatching_all : removeMatching filter true documents =
    (documents.filter fun document => !filter.matches document,
      (documents.filter filter.matches).length) := by
  induction documents with
  | nil =>
      rfl
  | cons document rest ih =>
      rw [removeMatching, ih]
      cases met : filter.matches document <;> simp [met]

theorem removeMatching_first : removeMatching filter false documents =
    (documents.eraseP filter.matches, min 1 (documents.filter filter.matches).length) := by
  induction documents with
  | nil =>
      rfl
  | cons document rest ih =>
      rw [removeMatching, ih]
      cases met : filter.matches document <;> simp [met]

/-- Fewer documents are removed than there are, unless none matches. -/
theorem removeMatching_none (many : Bool) (none : (removeMatching filter many documents).2 = 0) :
    (removeMatching filter many documents).1 = documents := by
  cases many with
  | true =>
      rw [removeMatching_all] at none ⊢
      rw [List.length_eq_zero_iff, List.filter_eq_nil_iff] at none
      simpa using none
  | false =>
      rw [removeMatching_first] at none ⊢
      have empty : documents.filter filter.matches = [] := by
        rw [← List.length_eq_zero_iff]
        dsimp only at none
        omega
      exact List.eraseP_of_forall_not (List.filter_eq_nil_iff.mp empty)

section Calls

variable {filter : Filter} {value : Json} (accepted : Filter.read value = .ok filter)
  (default : String) (place : Place) (keeping : Keeping)

include accepted

theorem readFilter_eq_ok : readFilter value = .ok filter := by
  rw [readFilter, accepted]
  rfl

theorem perform_find : perform default (.find place value) keeping =
    (.ok (.documents (((keeping.cluster.documents place).filter filter.matches).map .object)),
      keeping) := by
  rw [perform, find, readFilter_eq_ok accepted]
  rfl

theorem perform_findOne : perform default (.findOne place value) keeping =
    (.ok (.document (((keeping.cluster.documents place).find? filter.matches).map .object)),
      keeping) := by
  rw [perform, findOne, readFilter_eq_ok accepted]
  rfl

/-- Deleting keeps what is not removed, and nothing is done where nothing is removed. -/
theorem perform_delete (many : Bool) :
    ∃ after, perform default (.delete place value many) keeping =
        (.ok (.removed (removeMatching filter many (keeping.cluster.documents place)).2), after) ∧
      Keeps place keeping.cluster after.cluster
        (removeMatching filter many (keeping.cluster.documents place)).1 := by
  refine ⟨_, by rw [perform, delete, readFilter_eq_ok accepted]; rfl, ?_⟩
  dsimp only
  split
  · rename_i none
    rw [removeMatching_none filter _ many none]
    exact .same keeping.cluster place
  · rename_i some
    refine .withDocuments _ fun empty => some ?_
    rw [empty]
    rfl

end Calls

/-! ## Finding and deleting -/

/-- What is found with a filter at a place, and what of it is deleted. -/
structure DeletesFound (default : String) (place : Place) (value : Json) (filter : Filter)
    (keeping : Keeping) : Prop where
  /-- The documents that match are found in their order. -/
  found : perform default (.find place value) keeping =
    (.ok (.documents (((keeping.cluster.documents place).filter filter.matches).map .object)),
      keeping)
  /-- The first of them is found where one is asked for. -/
  first : perform default (.findOne place value) keeping =
    (.ok (.document (((keeping.cluster.documents place).filter filter.matches).head?.map
      .object)), keeping)
  /-- All that are found are deleted and counted, and none is found any more. -/
  all : ∃ after, perform default (.delete place value true) keeping =
      (.ok (.removed ((keeping.cluster.documents place).filter filter.matches).length), after) ∧
    Keeps place keeping.cluster after.cluster
      ((keeping.cluster.documents place).filter fun document => !filter.matches document) ∧
    perform default (.find place value) after = (.ok (.documents []), after)
  /-- The one that is found is deleted and counted, and those before and after it stay. -/
  one : ∃ after kept, perform default (.delete place value false) keeping =
      (.ok (.removed (min 1 ((keeping.cluster.documents place).filter filter.matches).length :
        Nat)), after) ∧
    Keeps place keeping.cluster after.cluster kept ∧
    match ((keeping.cluster.documents place).filter filter.matches).head? with
    | none => kept = keeping.cluster.documents place
    | some document => ∃ earlier later,
        keeping.cluster.documents place = earlier ++ document :: later ∧
          (∀ other ∈ earlier, filter.matches other = false) ∧ kept = earlier ++ later

/-- Documents of which the first and the last have the number one among what is under `a`. -/
def mixedItems : List Document :=
  [[("_id", .integer 1), ("a", .array [.integer 1])], [("_id", .integer 2)],
    [("_id", .integer 3), ("a", .integer 1)]]

end DocumentGate.Store.Cluster
