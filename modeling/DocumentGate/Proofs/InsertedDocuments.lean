import DocumentGate.Proofs.ClusterIdentities
import DocumentGate.Proofs.ShownIdentities

/-!
# Documents that are inserted and found

Values can be inserted exactly if they are objects, what they have under `_id` can identify
them, and their identities, of which those that are missing are given, differ from each other
and from those that are there.  Then they stand behind the documents that are there, each is
found by its identity, and no other collection is another.  Otherwise nothing is changed.
-/

namespace DocumentGate

namespace Identified

/-! ## Documents of values -/

/-- The value is an object, and what it has under `_id`, if anything, can identify it. -/
inductive IsInsertable : Json → Prop
  | unnamed {members : Document} (missing : Dictionary.get? "_id" members = none) :
      IsInsertable (.object members)
  | text {members : Document} {value : String}
      (named : Dictionary.get? "_id" members = some (.string value)) :
      IsInsertable (.object members)
  | number {members : Document} {value : Int}
      (named : Dictionary.get? "_id" members = some (.integer value)) :
      IsInsertable (.object members)

/-- The documents of values: the objects, where none is with the next identity at the end. -/
def completed : Given → List Json → List Document
  | given, .object members :: rest =>
    match Dictionary.get? "_id" members with
    | some _ => members :: completed given rest
    | none =>
      (members ++ [("_id", (Identity.generated (given + 1)).toValue)]) ::
        completed (given + 1) rest
  | given, _ :: rest => completed given rest
  | _, [] => []

variable {members : Document} {value found : Json} {values : List Json} {given after : Given}
  {identity : Identity} {identified : Identified} {documents : List Identified}

theorem ofValue_named (named : Dictionary.get? "_id" members = some found)
    (valid : Identity.ofValue? found = some identity) :
    ofValue (.object members) given = (.ok ⟨identity, members⟩, given) := by
  simp only [ofValue, named, valid]
  rfl

theorem ofValue_unnamed (missing : Dictionary.get? "_id" members = none) :
    ofValue (.object members) given =
      (.ok ⟨Identity.generated (given + 1),
        members ++ [("_id", (Identity.generated (given + 1)).toValue)]⟩, given + 1) := by
  rw [← Dictionary.insert_of_get?_eq_none missing, ofValue, missing]
  rfl

theorem isInsertable_of_named (named : Dictionary.get? "_id" members = some found)
    (valid : Identity.ofValue? found = some identity) : IsInsertable (.object members) := by
  unfold Identity.ofValue? at valid
  split at valid
  · exact .text named
  · exact .number named
  · cases valid

theorem ofValue_of_insertable (insertable : IsInsertable value) (given : Given) :
    ∃ identified after, ofValue value given = (.ok identified, after) := by
  cases insertable with
  | unnamed missing =>
      exact ⟨_, _, ofValue_unnamed missing⟩
  | text named =>
      exact ⟨_, _, ofValue_named named rfl⟩
  | number named =>
      exact ⟨_, _, ofValue_named named rfl⟩

/-- The document of the first value is made, and those of the others are made after it. -/
theorem ofValue_eq_ok (made : ofValue value given = (.ok identified, after)) :
    IsInsertable value ∧ ∀ rest, completed given (value :: rest) =
      identified.document :: completed after rest := by
  cases value with
  | object members =>
      cases found : Dictionary.get? "_id" members with
      | some present =>
          cases valid : Identity.ofValue? present with
          | some identity =>
              rw [ofValue_named found valid] at made
              cases made
              exact ⟨isInsertable_of_named found valid, fun rest => by rw [completed, found]⟩
          | none =>
              simp only [ofValue, found, valid] at made
              cases made
      | none =>
          rw [ofValue_unnamed found] at made
          cases made
          exact ⟨.unnamed found, fun rest => by rw [completed, found]⟩
  | _ =>
      cases made

theorem mapM_ofValue_of_insertable (insertable : ∀ value ∈ values, IsInsertable value)
    (given : Given) : ∃ documents after, values.mapM ofValue given = (.ok documents, after) := by
  induction values generalizing given with
  | nil =>
      exact ⟨[], given, by rw [List.mapM_nil]; rfl⟩
  | cons value rest ih =>
      rcases List.forall_mem_cons.mp insertable with ⟨first, others⟩
      rcases ofValue_of_insertable first given with ⟨identified, between, made⟩
      rcases ih others between with ⟨documents, after, further⟩
      refine ⟨identified :: documents, after, ?_⟩
      rw [List.mapM_cons, run_bind_of_ok made, run_bind_of_ok further]
      rfl

theorem mapM_ofValue_eq_ok (made : values.mapM ofValue given = (.ok documents, after)) :
    (∀ value ∈ values, IsInsertable value) ∧
      documents.map (·.document) = completed given values := by
  induction values generalizing given documents with
  | nil =>
      rw [List.mapM_nil] at made
      cases made
      exact ⟨nofun, rfl⟩
  | cons value rest ih =>
      rw [List.mapM_cons] at made
      rcases run_bind_eq_ok made with ⟨first, between, single, made⟩
      rcases run_bind_eq_ok made with ⟨others, last, further, made⟩
      cases made
      rcases ofValue_eq_ok single with ⟨insertable, step⟩
      rcases ih further with ⟨insertables, same⟩
      exact ⟨List.forall_mem_cons.mpr ⟨insertable, insertables⟩, by
        rw [List.map_cons, same, step]⟩

theorem shown_nodup_iff :
    (documents.map fun document => document.identity.shown).Nodup ↔
      (documents.map (·.identity)).Nodup := by
  have shown : (documents.map fun document => document.identity.shown) =
      (documents.map (·.identity)).map Identity.shown := by
    rw [List.map_map]
    rfl
  rw [shown, List.nodup_map_iff Identity.shown_injective]

theorem ofValues_of_insertable (insertable : ∀ value ∈ values, IsInsertable value)
    (distinct : ((completed given values).map Identity.of?).Nodup) :
    ∃ documents after, ofValues values given = (.ok documents, after) := by
  rcases mapM_ofValue_of_insertable insertable given with ⟨documents, after, made⟩
  rw [← (mapM_ofValue_eq_ok made).2, identities_of_proper (isProper_mapM_ofValue made)] at distinct
  refine ⟨documents, after, ?_⟩
  rw [ofValues, run_bind_of_ok made, if_pos (shown_nodup_iff.mpr distinct.of_map)]
  rfl

theorem ofValues_completed (made : ofValues values given = (.ok documents, after)) :
    (∀ value ∈ values, IsInsertable value) ∧
      documents.map (·.document) = completed given values := by
  rw [ofValues] at made
  rcases run_bind_eq_ok made with ⟨mapped, between, first, made⟩
  split at made
  · cases made
    exact mapM_ofValue_eq_ok first
  · cases made

end Identified

namespace Store.Cluster

open Identified (IsInsertable completed)

/-! ## Inserting -/

/-- Identities that are shown as those of no document are not taken. -/
theorem firstTaken?_of_free {existing : List Document} {added : List Identified}
    (free : ∀ document ∈ added, ∀ other ∈ existing,
      Identity.of? other ≠ some document.identity) : firstTaken? existing added = none := by
  rw [firstTaken?, Option.map_eq_none_iff, List.find?_eq_none]
  intro document member taken
  rw [List.contains_iff_mem] at taken
  rcases List.mem_map.mp taken with ⟨other, present, same⟩
  exact free document member other present
    (Option.map_injective Identity.shown_injective same)

/-- The values can be inserted at the place. -/
structure CanJoin (values : List Json) (place : Place) (keeping : Keeping) : Prop where
  /-- Each is an object, and what it has under `_id`, if anything, can identify it. -/
  insertable : ∀ value ∈ values, IsInsertable value
  /-- The identities, those that are given among them, differ from each other. -/
  distinct : ((completed keeping.given values).map Identity.of?).Nodup
  /-- They differ from those of the documents that are there. -/
  free : ∀ document ∈ completed keeping.given values, ∀ other ∈ keeping.cluster.documents place,
    Identity.of? other ≠ Identity.of? document

section Calls

variable {place : Place} {values : List Json} {keeping : Keeping}
  {documents : List Identified} {given : Identified.Given}

theorem perform_insert (default : String)
    (made : Identified.ofValues values keeping.given = (.ok documents, given)) :
    perform default (.insert place values) keeping = Keeping.settle ⟨keeping.cluster, given⟩
      ((keeping.cluster.insert place documents).map fun inserted =>
        (.identities (documents.map (·.identity)), inserted)) := by
  rw [perform, made]
  change Keeping.settle ⟨keeping.cluster, given⟩ (keeping.cluster.insert place documents >>= _) = _
  cases keeping.cluster.insert place documents <;> rfl

theorem perform_insert_of_ok (default : String)
    (made : Identified.ofValues values keeping.given = (.ok documents, given))
    (free : firstTaken? (keeping.cluster.documents place) documents = none) :
    perform default (.insert place values) keeping =
      (.ok (.identities (documents.map (·.identity))),
        ⟨keeping.cluster.withDocuments place
          (keeping.cluster.documents place ++ documents.map (·.document)), given⟩) := by
  simp only [perform_insert default made, insert, free]
  rfl

theorem canJoin_of_ok (made : Identified.ofValues values keeping.given = (.ok documents, given))
    (free : firstTaken? (keeping.cluster.documents place) documents = none) :
    CanJoin values place keeping := by
  rcases Identified.ofValues_completed made with ⟨insertable, same⟩
  rcases Identified.ofValues_eq_ok made with ⟨proper, distinct⟩
  refine ⟨insertable, ?_, ?_⟩
  · rw [← same, Identified.identities_of_proper proper]
    exact distinct.map (Option.some_injective Identity)
  · intro document member
    rw [← same] at member
    rcases List.mem_map.mp member with ⟨identified, among, rfl⟩
    rw [proper identified among]
    exact free_of_firstTaken? free identified among

theorem CanJoin.made (joins : CanJoin values place keeping) :
    ∃ documents given, Identified.ofValues values keeping.given = (.ok documents, given) ∧
      firstTaken? (keeping.cluster.documents place) documents = none := by
  rcases Identified.ofValues_of_insertable joins.insertable joins.distinct with
    ⟨documents, given, made⟩
  refine ⟨documents, given, made, firstTaken?_of_free fun document member => ?_⟩
  rw [← (Identified.ofValues_eq_ok made).1 document member]
  apply joins.free
  rw [← (Identified.ofValues_completed made).2]
  exact List.mem_map_of_mem member

/-- Values that can be inserted are, and nothing changes where they cannot. -/
theorem perform_insert_cases (default : String) (place : Place) (values : List Json)
    (keeping : Keeping) :
    (∃ documents given, Identified.ofValues values keeping.given = (.ok documents, given) ∧
      firstTaken? (keeping.cluster.documents place) documents = none) ∨
    ¬CanJoin values place keeping ∧ ∃ fault given,
      perform default (.insert place values) keeping = (.error fault, ⟨keeping.cluster, given⟩) := by
  by_cases joins : CanJoin values place keeping
  · exact Or.inl joins.made
  refine Or.inr ⟨joins, ?_⟩
  cases ran : Identified.ofValues values keeping.given with
  | mk outcome given =>
      cases outcome with
      | error fault =>
          refine ⟨.documents fault, given, ?_⟩
          rw [perform, ran]
          rfl
      | ok documents =>
          cases free : firstTaken? (keeping.cluster.documents place) documents with
          | none =>
              exact absurd (canJoin_of_ok ran free) joins
          | some identity =>
              refine ⟨.present identity, given, ?_⟩
              simp only [perform_insert default ran, insert, free]
              rfl

end Calls

/-! ## Inserting and finding -/

theorem meets_identity (identity : Identity) :
    Filter.meets identity.toValue identity.toValue = true := by
  cases identity with
  | text value =>
      simp [Identity.toValue, Filter.meets, Json.equals]
  | number value =>
      have equal : Number.equals (.integer value) (.integer value) = true :=
        beq_self_eq_true (Number.Place.steps (value * Double.stepsPerUnit))
      exact equal

/-- By its identity a document is found, and no other. -/
theorem perform_findIdentity {keeping : Keeping} (identified : keeping.cluster.IsIdentified)
    (default : String) {place : Place} {document : Document} {identity : Identity}
    (present : document ∈ keeping.cluster.documents place)
    (has : Identity.of? document = some identity) :
    perform default (.find place (.object [("_id", identity.toValue)])) keeping =
      (.ok (.documents [.object document]), keeping) := by
  rcases identified.findIdentity place identity with ⟨found, ran, few⟩
  have same : found =
      (keeping.cluster.documents place).filter (Filter.matches [.value "_id" identity.toValue]) := by
    rw [findIdentity, find, readFilter_identity] at ran
    exact (Except.ok.inj ran).symm
  have member : document ∈ found := by
    rw [same, List.mem_filter]
    refine ⟨present, ?_⟩
    simpa [Filter.matches, Filter.holds, Filter.clauseHolds, lookup_identity has,
      Filter.foundMeets] using meets_identity identity
  rcases List.length_eq_one_iff.mp (few.antisymm (List.length_pos_of_mem member)) with
    ⟨single, rfl⟩
  rw [List.mem_singleton.mp member, perform]
  change (Except.map _ (keeping.cluster.findIdentity place identity), keeping) = _
  rw [ran]
  rfl

/-- Documents stand at the place behind those that were there. -/
structure Joined (default : String) (place : Place) (before after : Keeping)
    (added : List Document) (reply : Reply) : Prop where
  /-- Their identities are listed in order. -/
  listed : ∃ identities, reply = .identities identities ∧
    identities.map some = added.map Identity.of?
  /-- What was there is found, and behind it what was added. -/
  all : perform default (.find place (.object [])) after =
    (.ok (.documents ((before.cluster.documents place ++ added).map .object)), after)
  /-- By the identity of a document that was added, it is found and no other. -/
  each : ∀ document ∈ added, ∀ identity, Identity.of? document = some identity →
    perform default (.find place (.object [("_id", identity.toValue)])) after =
      (.ok (.documents [.object document]), after)
  /-- Every other collection is as it was. -/
  elsewhere : ∀ other, other ≠ place →
    after.cluster.collection? other = before.cluster.collection? other

/-- Which values are inserted at the place, and what is found then. -/
structure InsertsFound (default : String) (place : Place) (values : List Json)
    (keeping : Keeping) : Prop where
  /-- Values are inserted exactly if they can be. -/
  accepted : (∃ reply after, perform default (.insert place values) keeping = (.ok reply, after)) ↔
    CanJoin values place keeping
  /-- They are found as documents then. -/
  inserted : ∀ {reply after}, perform default (.insert place values) keeping = (.ok reply, after) →
    Joined default place keeping after (completed keeping.given values) reply
  /-- Nothing in the cluster changes where they are not inserted. -/
  refused : ∀ {fault after},
    perform default (.insert place values) keeping = (.error fault, after) →
      after.cluster = keeping.cluster

section Standing

variable {keeping : Keeping} (identified : keeping.cluster.IsIdentified) (default : String)
  {place : Place} {values : List Json}

include identified

theorem joined_of_made {documents : List Identified} {given : Identified.Given}
    (made : Identified.ofValues values keeping.given = (.ok documents, given))
    (free : firstTaken? (keeping.cluster.documents place) documents = none) :
    Joined default place keeping
      ⟨keeping.cluster.withDocuments place
        (keeping.cluster.documents place ++ documents.map (·.document)), given⟩
      (completed keeping.given values) (.identities (documents.map (·.identity))) := by
  rcases Identified.ofValues_eq_ok made with ⟨proper, distinct⟩
  -- The identities are distinct afterwards as well, so that each of them finds one document.
  have fine := (identified place).append proper distinct (free_of_firstTaken? free)
  have still : (keeping.cluster.withDocuments place
      (keeping.cluster.documents place ++ documents.map (·.document))).IsIdentified :=
    identified.withDocuments fine
  rw [← (Identified.ofValues_completed made).2]
  have standing (others : List Document) :
      (keeping.cluster.withDocuments place others).documents place = others := by
    rw [documents_withDocuments, if_pos rfl]
  constructor
  · exact ⟨_, rfl, (Identified.identities_of_proper proper).symm⟩
  · have everything : Filter.read (.object []) = .ok [] := rfl
    rw [perform_find everything, standing, List.filter_eq_self.mpr]
    exact fun _ _ => rfl
  · intro document member identity has
    refine perform_findIdentity still default ?_ has
    rw [standing]
    exact List.mem_append_right _ member
  · intro other different
    rw [collection?_withDocuments, if_neg (Ne.symm different)]

/-- Where documents have identities of their own, values are inserted and found. -/
theorem insertsFound_of_isIdentified : InsertsFound default place values keeping := by
  rcases perform_insert_cases default place values keeping with
    ⟨documents, given, made, free⟩ | ⟨stray, fault, given, failed⟩
  · have inserted := perform_insert_of_ok default made free
    constructor
    · exact iff_of_true ⟨_, _, inserted⟩ (canJoin_of_ok made free)
    · intro reply after done
      obtain ⟨same, rfl⟩ := Prod.mk.inj (inserted.symm.trans done)
      obtain rfl := Except.ok.inj same
      exact joined_of_made identified default made free
    · intro fault after failed
      cases inserted.symm.trans failed
  · constructor
    · refine iff_of_false ?_ stray
      rintro ⟨reply, after, done⟩
      cases failed.symm.trans done
    · intro reply after done
      cases failed.symm.trans done
    · intro cause after same
      obtain ⟨-, rfl⟩ := Prod.mk.inj (failed.symm.trans same)
      rfl

end Standing

end Store.Cluster

namespace Service.Machine

open Store.Cluster (CanJoin InsertsFound)

/-- Values of which the first has no identity and the second has the number two. -/
def lateOrders : List Json :=
  [.object [("total", .integer 5)], .object [("_id", .integer 2)]]

end Service.Machine
end DocumentGate
