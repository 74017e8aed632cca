import DocumentGate.Proofs.DocumentIdentities
import DocumentGate.Proofs.FoundDocuments
import DocumentGate.Proofs.Ground

/-!
# Identities in a cluster

In every collection each document has an identity of its own.  New identities are compared
with each other and with those that are there, as messages show them, which tells them
apart.  An update leaves all of them as they are, and every other call removes documents
or leaves them where they are.

A call of a cluster does all its work in one turn.  So this holds after every turn, however
many stores share the cluster and in whichever order their calls take turns.
-/

namespace DocumentGate

namespace Store

/-! ## Collections -/

/-- Every document has an identity, and no two have the same one. -/
structure AreIdentified (documents : List Document) : Prop where
  present : ∀ document ∈ documents, (Identity.of? document).isSome = true
  distinct : (documents.map Identity.of?).Nodup

namespace AreIdentified

variable {documents others : List Document}

theorem nil : AreIdentified [] :=
  ⟨nofun, .nil⟩

theorem sublist (identified : AreIdentified documents) (kept : others.Sublist documents) :
    AreIdentified others where
  present document member := identified.present document (kept.mem member)
  distinct := identified.distinct.sublist (kept.map Identity.of?)

/-- Documents that keep what stands under `_id` keep their identities. -/
theorem congr (identified : AreIdentified documents)
    (same : others.map Document.identity? = documents.map Document.identity?) :
    AreIdentified others := by
  have identities : others.map Identity.of? = documents.map Identity.of? := by
    have derived : ∀ documents : List Document, documents.map Identity.of? =
        (documents.map Document.identity?).map (·.bind Identity.ofValue?) := by
      intro documents
      rw [List.map_map]
      rfl
    rw [derived others, same, ← derived documents]
  constructor
  · intro document member
    have among : Identity.of? document ∈ documents.map Identity.of? := by
      rw [← identities]
      exact List.mem_map_of_mem member
    rcases List.mem_map.mp among with ⟨counterpart, present, alike⟩
    rw [← alike]
    exact identified.present counterpart present
  · rw [identities]
    exact identified.distinct

/-- Documents whose identities differ and are not taken join those that are there. -/
theorem append (identified : AreIdentified documents) {added : List Identified}
    (proper : ∀ document ∈ added, document.IsProper)
    (distinct : (added.map (·.identity)).Nodup)
    (free : ∀ document ∈ added, ∀ other ∈ documents,
      Identity.of? other ≠ some document.identity) :
    AreIdentified (documents ++ added.map (·.document)) := by
  constructor
  · intro document member
    rcases List.mem_append.mp member with old | new
    · exact identified.present document old
    · rcases List.mem_map.mp new with ⟨origin, among, rfl⟩
      rw [proper origin among]
      rfl
  · rw [List.map_append, List.nodup_append, Identified.identities_of_proper proper]
    refine ⟨identified.distinct, ?_, ?_⟩
    · exact List.Pairwise.map some (fun _ _ different same => different (Option.some.inj same))
        distinct
    · intro identity old other new same
      rcases List.mem_map.mp old with ⟨document, among, rfl⟩
      rw [List.map_map] at new
      rcases List.mem_map.mp new with ⟨fresh, among', rfl⟩
      exact free fresh among' document among same

end AreIdentified

namespace Cluster

/-! ## Calls -/

/-- What is not taken differs from the identities of the documents that are there. -/
theorem free_of_firstTaken? {existing : List Document} {added : List Identified}
    (free : firstTaken? existing added = none) : ∀ document ∈ added, ∀ other ∈ existing,
      Identity.of? other ≠ some document.identity := by
  intro document member other present same
  rw [firstTaken?, Option.map_eq_none_iff, List.find?_eq_none] at free
  apply free document member
  rw [List.contains_iff_mem]
  have shown : shownIdentity other = some document.identity.shown := by
    rw [shownIdentity, same]
    rfl
  rw [← shown]
  exact List.mem_map_of_mem present

/-- In every collection each document has an identity of its own. -/
def IsIdentified (cluster : Cluster) : Prop :=
  ∀ place, AreIdentified (cluster.documents place)

theorem isIdentified_nil : IsIdentified [] :=
  fun _ => .nil

theorem IsIdentified.withDocuments {cluster : Cluster} (identified : cluster.IsIdentified)
    {place : Place} {others : List Document} (fine : AreIdentified others) :
    (cluster.withDocuments place others).IsIdentified := by
  intro asked
  rw [documents_withDocuments]
  split
  · exact fine
  · exact identified asked

theorem isIdentified_sample : IsIdentified sample := by
  have accounts : AreIdentified (sample.documents ⟨"sample", "accounts"⟩) :=
    ⟨by decide, by decide⟩
  have orders : AreIdentified (sample.documents ⟨"sample", "orders"⟩) :=
    ⟨by decide, by decide⟩
  intro place
  obtain ⟨database, collection⟩ := place
  by_cases stored : "sample" = database
  · subst stored
    by_cases first : "accounts" = collection
    · subst first
      exact accounts
    · by_cases second : "orders" = collection
      · subst second
        exact orders
      · have absent : sample.documents ⟨"sample", collection⟩ = [] := by
          simp [documents, sample, Dictionary.get?, first, second]
        rw [absent]
        exact .nil
  · have absent : sample.documents ⟨database, collection⟩ = [] := by
      simp [documents, sample, Dictionary.get?, stored]
    rw [absent]
    exact .nil

theorem sublist_removeMatching (filter : Filter) (many : Bool) (documents : List Document) :
    (removeMatching filter many documents).1.Sublist documents := by
  cases many with
  | true =>
      rw [removeMatching_all]
      exact List.filter_sublist
  | false =>
      rw [removeMatching_first]
      exact List.eraseP_sublist

section Calls

variable {keeping : Keeping} (identified : keeping.cluster.IsIdentified)

include identified

/-- A call that is refused leaves the identities as they were. -/
theorem IsIdentified.settle {result : Except Fault (Reply × Cluster)}
    (fine : ∀ reply cluster, result = .ok (reply, cluster) → cluster.IsIdentified) :
    (keeping.settle result).2.cluster.IsIdentified := by
  cases result with
  | ok done =>
      exact fine done.1 done.2 rfl
  | error fault =>
      exact identified

theorem IsIdentified.insert {place : Place} {values : List Json} {given : Identified.Given}
    {reply : Reply} {cluster : Cluster}
    (inserted : keeping.cluster.insertIdentified place (Identified.ofValues values given).1 =
      .ok (reply, cluster)) : cluster.IsIdentified := by
  rcases bind_eq_ok inserted with ⟨added, made, inserted⟩
  rcases bind_eq_ok inserted with ⟨next, joined, same⟩
  obtain ⟨rfl, rfl⟩ := Prod.mk.inj (Except.ok.inj same)
  rcases Identified.ofValues_eq_ok (Prod.ext (mapError_eq_ok made) rfl) with ⟨proper, distinct⟩
  unfold Cluster.insert at joined
  dsimp only at joined
  split at joined
  · cases joined
  · rename_i free
    obtain rfl := Except.ok.inj joined
    exact identified.withDocuments
      ((identified place).append proper distinct (free_of_firstTaken? free))

theorem IsIdentified.delete {place : Place} {filter : Json} {many : Bool} {reply : Reply}
    {cluster : Cluster} (deleted : keeping.cluster.delete place filter many =
      .ok (reply, cluster)) : cluster.IsIdentified := by
  rcases bind_eq_ok deleted with ⟨filter, -, same⟩
  obtain ⟨rfl, rfl⟩ := Prod.mk.inj (Except.ok.inj same)
  split
  · exact identified
  · exact identified.withDocuments
      ((identified place).sublist (sublist_removeMatching filter many _))

end Calls

/-- An update leaves what stands under `_id` as it is, document by document. -/
theorem identity?_update {cluster next : Cluster} {place : Place} {filter update : Json}
    {many : Bool} {reply : Reply}
    (updated : cluster.update place filter update many = .ok (reply, next)) (asked : Place) :
    (next.documents asked).map Document.identity? =
      (cluster.documents asked).map Document.identity? := by
  rcases bind_eq_ok updated with ⟨filter, -, updated⟩
  rcases bind_eq_ok updated with ⟨update, accepted, updated⟩
  rcases bind_eq_ok updated with ⟨revision, revised, same⟩
  obtain ⟨rfl, rfl⟩ := Prod.mk.inj (Except.ok.inj same)
  have spares := Update.read_sparesIdentity (mapError_eq_ok accepted)
  split
  · rfl
  · rw [documents_withDocuments]
    split
    · rename_i here
      rw [← here]
      exact identity?_revise spares (mapError_eq_ok revised)
    · rfl

theorem identity?_perform (default : String) (place : Place) (filter update : Json) (many : Bool)
    (keeping : Keeping) (asked : Place) :
    ((Cluster.perform default (.update place filter update many) keeping).2.cluster.documents
        asked).map Document.identity? =
      (keeping.cluster.documents asked).map Document.identity? := by
  change (((keeping.settle (keeping.cluster.update place filter update many)).2.cluster.documents
    asked).map Document.identity?) = _
  cases updated : keeping.cluster.update place filter update many with
  | ok done =>
      exact identity?_update updated asked
  | error fault =>
      rfl

/-- No call takes a document its identity, or gives it that of another one. -/
theorem IsIdentified.perform {keeping : Keeping} (identified : keeping.cluster.IsIdentified)
    (default : String) (call : Call) :
    (Cluster.perform default call keeping).2.cluster.IsIdentified := by
  cases call with
  | databases =>
      exact identified
  | collections database =>
      exact identified
  | find place filter =>
      exact identified
  | findOne place filter =>
      exact identified
  | insert place values =>
      refine IsIdentified.settle ?_ fun reply cluster => ?_
      · exact identified
      · exact IsIdentified.insert identified
  | update place filter update many =>
      refine identified.settle fun reply cluster updated asked => ?_
      exact (identified asked).congr (identity?_update updated asked)
  | delete place filter many =>
      exact identified.settle fun reply cluster => IsIdentified.delete identified

/-! ## Documents by their identity -/

/-- The documents of an identity. -/
def findIdentity (cluster : Cluster) (place : Place) (identity : Identity) :
    Except Fault (List Document) :=
  cluster.find place (.object [("_id", identity.toValue)])

theorem readFilter_identity (identity : Identity) :
    readFilter (.object [("_id", identity.toValue)]) =
      .ok [.value "_id" identity.toValue] := by
  cases identity <;> rfl

/-- Whole numbers are equal only to the same ones. -/
theorem eq_of_equals {left right : Int}
    (equal : Number.equals (.integer left) (.integer right) = true) : left = right := by
  have scaled : left * Double.stepsPerUnit = right * Double.stepsPerUnit :=
    Number.Place.steps.inj (beq_iff_eq.mp equal)
  have steps : Double.stepsPerUnit ≠ 0 := by
    decide +kernel
  exact Int.eq_of_mul_eq_mul_right (Int.natCast_ne_zero.mpr steps) scaled

/-- Strings and whole numbers meet only the same ones. -/
theorem eq_of_meets {own identity : Identity}
    (meets : Filter.meets own.toValue identity.toValue = true) : own = identity := by
  cases own with
  | text own =>
      cases identity with
      | text value =>
          simpa [Identity.toValue, Filter.meets, Json.equals, Json.isBoolean] using meets
      | number value =>
          simp [Identity.toValue, Json.integer, Filter.meets, Json.equals] at meets
  | number own =>
      cases identity with
      | text value =>
          simp [Identity.toValue, Json.integer, Filter.meets, Json.equals, Json.number?] at meets
      | number value =>
          have equal : Number.equals (.integer own) (.integer value) = true :=
            meets
          rw [eq_of_equals equal]

/-- What stands under `_id` is found by the path of that name. -/
theorem lookup_identity {document : Document} {own : Identity}
    (has : Identity.of? document = some own) : document.lookup "_id" = some own.toValue := by
  rcases Option.bind_eq_some_iff.mp has with ⟨value, present, valid⟩
  have whole : value = own.toValue := by
    unfold Identity.ofValue? at valid
    split at valid
    · rw [← Option.some.inj valid, Identity.toValue]
    · rw [← Option.some.inj valid, Identity.toValue, Json.integer]
    · cases valid
  have segments : Document.segments "_id" = ["_id"] := rfl
  rw [Document.lookup, segments, Document.descend, present, whole]
  exact Document.descend.eq_1 _

theorem identity_of_matches {document : Document} {own identity : Identity}
    (has : Identity.of? document = some own)
    (found : Filter.matches [.value "_id" identity.toValue] document = true) : own = identity := by
  apply eq_of_meets
  simpa [Filter.matches, Filter.holds, Filter.clauseHolds, lookup_identity has,
    Filter.foundMeets] using found

/-- At most one document has an identity. -/
theorem IsIdentified.findIdentity {cluster : Cluster} (identified : cluster.IsIdentified)
    (place : Place) (identity : Identity) :
    ∃ found, cluster.findIdentity place identity = .ok found ∧ found.length ≤ 1 := by
  let filter : Filter := [.value "_id" identity.toValue]
  refine ⟨(cluster.documents place).filter filter.matches, ?_, ?_⟩
  · rw [Cluster.findIdentity, Cluster.find, readFilter_identity]
    rfl
  · have kept := (identified place).sublist (List.filter_sublist (p := filter.matches))
    have same : ∀ own ∈ ((cluster.documents place).filter filter.matches).map Identity.of?,
        own = some identity := by
      intro own member
      rcases List.mem_map.mp member with ⟨document, among, rfl⟩
      rcases Option.isSome_iff_exists.mp (kept.present document among) with ⟨own, has⟩
      rw [has, identity_of_matches has (List.mem_filter.mp among).2]
    have distinct := kept.distinct
    rw [List.eq_replicate_of_mem same, List.nodup_replicate, List.length_map] at distinct
    exact distinct

end Cluster
end Store

namespace Service

open Store.Cluster (IsIdentified)

/-! ## Runs -/

namespace Ground

/-- The cluster of a name; it is empty where there is none. -/
def cluster (ground : Ground) (name : String) : Store.Cluster :=
  (Dictionary.get? name ground.clusters).getD []

/-- In every cluster each document has an identity of its own in its collection. -/
def IsIdentified (ground : Ground) : Prop :=
  ∀ name, (ground.cluster name).IsIdentified

theorem cluster_called (ground : Ground) (name default asked : String) (call : Store.Call)
    (given : Identified.Given) :
    (ground.called name default call given).cluster asked =
      if name = asked then
        (Store.Cluster.perform default call ⟨ground.cluster name, given⟩).2.cluster
      else ground.cluster asked := by
  rw [cluster, called, Dictionary.get?_insert]
  split <;> rfl

end Ground

theorem lasting_isIdentified : Lasting Ground.IsIdentified where
  called := by
    intro ground cluster default call given identified name
    rw [Ground.cluster_called]
    split
    · exact IsIdentified.perform (identified cluster) default call
    · exact identified name
  opened := by
    intro ground settings server address identified name
    rw [Ground.cluster, Ground.opened]
    rcases openUri_cases settings server ground.clusters address with
      ⟨label, cluster, database, -, grown⟩ | ⟨same, -⟩
    · rw [grown]
      split
      · exact identified name
      · rw [Dictionary.get?_insert]
        split
        · exact Store.Cluster.isIdentified_nil
        · exact identified name
    · rw [same]
      exact identified name

/-- The work of the turn is an update of a cluster. -/
def Work.IsUpdate : Work → Prop
  | .call _ _ _ (.update _ _ _ _) _ => True
  | _ => False

namespace Machine

variable {machine next : Machine}

/-- The turn of an update leaves what stands under `_id` as it is, document by document. -/
theorem identity?_resume {position : Nat} {task : Task}
    (ready : machine.ready[position]? = some task) (updates : task.work.IsUpdate)
    (resumed : machine.resume position = some next) (name : String) (place : Store.Place) :
    ((next.world.ground.cluster name).documents place).map Document.identity? =
      ((machine.world.ground.cluster name).documents place).map Document.identity? := by
  rcases Option.map_eq_some_iff.mp resumed with ⟨picked, found, rfl⟩
  obtain rfl := Option.some.inj (found.symm.trans ready)
  obtain ⟨label, work⟩ := picked
  cases work with
  | call handle cluster default call use =>
      cases call with
      | update target filter update many =>
          let picked := { machine with ready := machine.ready.eraseIdx position }
          let identitiesOf (ground : Ground) : List (Option Json) :=
            ((ground.cluster name).documents place).map Document.identity?
          rcases picked.ground_resumeCall label handle cluster default
            (.update target filter update many) use with same | called
          · exact congrArg identitiesOf same
          · refine (congrArg identitiesOf called).trans ?_
            dsimp only [identitiesOf]
            rw [Ground.cluster_called]
            split
            · rename_i here
              rw [← here]
              exact Store.Cluster.identity?_perform default target filter update many _ place
            · rfl
      | _ =>
          cases updates
  | _ =>
      cases updates

/-- Documents have identities, which tell them apart and which no update changes. -/
structure KeepsIdentities (machine : Machine) : Prop where
  /-- In every collection each document has an identity of its own. -/
  identified : ∀ name place,
    Store.AreIdentified ((machine.world.ground.cluster name).documents place)
  /-- The next turn of an update leaves what stands under `_id` as it is. -/
  unchanged : ∀ {position : Nat} {task : Task} {next : Machine},
    machine.ready[position]? = some task → task.work.IsUpdate →
      machine.resume position = some next → ∀ name place,
        ((next.world.ground.cluster name).documents place).map Document.identity? =
          ((machine.world.ground.cluster name).documents place).map Document.identity?
  /-- At most one document is found by an identity. -/
  single : ∀ name place identity, ∃ found,
    (machine.world.ground.cluster name).findIdentity place identity = .ok found ∧
      found.length ≤ 1

theorem Move.isIdentified {start machine : Machine}
    (fresh : ∀ name, start.world.ground.cluster name = [] ∨
      start.world.ground.cluster name = Store.Cluster.sample)
    (moves : Relation.ReflTransGen Move start machine) : machine.world.ground.IsIdentified := by
  refine lasting_isIdentified.moves (fun name => ?_) moves
  rcases fresh name with empty | sample
  · rw [empty]
    exact Store.Cluster.isIdentified_nil
  · rw [sample]
    exact Store.Cluster.isIdentified_sample

/--
Where every cluster is empty at first or the one to try things on, documents have identities
from then on, whatever is asked of any number of stores and whichever call takes its turn.
-/
theorem Move.keepsIdentities {start machine : Machine}
    (fresh : ∀ name, start.world.ground.cluster name = [] ∨
      start.world.ground.cluster name = Store.Cluster.sample)
    (moves : Relation.ReflTransGen Move start machine) : machine.KeepsIdentities := by
  have identified := Move.isIdentified fresh moves
  exact ⟨identified, identity?_resume, fun name => (identified name).findIdentity⟩

/-- A connection to the cluster to try things on, before anything happens. -/
def atSample : Machine where
  world :=
    { World.ofSettings .defaults {} Clusters.initial with
      handles := [.ofBackend "demo" (.memory "demo" "sample" false)] }

theorem cluster_atSample (name : String) :
    atSample.world.ground.cluster name = [] ∨
      atSample.world.ground.cluster name = Store.Cluster.sample := by
  change (Dictionary.get? name [("demo", Store.Cluster.sample)]).getD [] = [] ∨
    (Dictionary.get? name [("demo", Store.Cluster.sample)]).getD [] = Store.Cluster.sample
  rw [Dictionary.get?]
  split
  · exact Or.inr rfl
  · exact Or.inl rfl

/-- Insert a number and the text of its digits as identities beside those to try things on. -/
def insertion : Request :=
  .call 0 (.insert ⟨"sample", "orders"⟩
    [.object [("_id", .integer 1)], .object [("_id", .string "1")]])

/-- The machine after the insertion, which takes two turns. -/
def afterInsertion : Machine :=
  (atSample.submit "insert" insertion).afterTurn.afterTurn

theorem moves_afterInsertion : Relation.ReflTransGen Move atSample afterInsertion := by
  have asked : Relation.ReflTransGen Move atSample (atSample.submit "insert" insertion) :=
    .single (.submit "insert" insertion)
  exact (asked.trans (moves_afterTurn _)).trans (moves_afterTurn _)

theorem afterInsertion_keepsIdentities :
    ((afterInsertion.world.ground.cluster "demo").documents ⟨"sample", "orders"⟩).map
        Identity.of? =
      [some (.text "ord-1"), some (.text "ord-2"), some (.text "ord-3"), some (.number 1),
        some (.text "1")] ∧
      afterInsertion.KeepsIdentities :=
  ⟨by decide +kernel, Move.keepsIdentities cluster_atSample moves_afterInsertion⟩

end Machine
end Service
end DocumentGate
