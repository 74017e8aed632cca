import DocumentGate.Proofs.RearrangedDocuments
import DocumentGate.Proofs.UnreadFilters

/-!
# Places of a document after an update

After an update each place shows what the last change left there that has to do with it, however
the paths of its changes overlap.  A place that no path leads to or through keeps what was found
there.  Where a value was set last it is found, and a filter that asks for it matches, if it is a
number at all.  Where something was removed last nothing is found, and a filter that asks for
nothing matches.  What stands under `_id` is never changed.

A filter cannot ask for a path that names a connective.
-/

namespace DocumentGate

open Document (Comparable segments)

namespace Update

variable {mark : Nat} {document updated : Document} {change : Change} {update : Update}

/-! ## One change -/

theorem lookup_applyChange_self (applied : applyChange mark document change = .ok updated) :
    change.written mark (document.lookup change.path) = .ok (updated.lookup change.path) := by
  rw [applyChange_eq] at applied
  rcases map_eq_ok applied with ⟨written, made, rfl⟩
  rw [made, Document.lookup, Document.descend_write_self (Document.segments_ne_nil change.path)]

theorem lookup_applyChange_of_apart {path : String}
    (apart : ¬Comparable (segments change.path) (segments path))
    (applied : applyChange mark document change = .ok updated) :
    updated.lookup path = document.lookup path := by
  rw [applyChange_eq] at applied
  rcases map_eq_ok applied with ⟨written, -, rfl⟩
  exact Document.descend_write_of_apart apart

/-! ## All changes -/

/-- The changes leave a place alone. -/
def IsApart (update : Update) (path : String) : Prop :=
  ∀ change ∈ update, ¬Comparable (segments change.path) (segments path)

theorem lookup_changes_of_apart {path : String} (apart : update.IsApart path)
    (applied : update.foldlM (applyChange mark) document = .ok updated) :
    updated.lookup path = document.lookup path := by
  refine foldlM_keeps (fun reached => reached.lookup path = document.lookup path)
    (fun change member before after changed kept => ?_) applied rfl
  exact (lookup_applyChange_of_apart (apart change member) changed).trans kept

/-- What the last change of a place wrote there is found there. -/
theorem lookup_changes_of_last {before after : Update} (apart : after.IsApart change.path)
    (applied : (before ++ change :: after).foldlM (applyChange mark) document = .ok updated) :
    ∃ between, before.foldlM (applyChange mark) document = .ok between ∧
      change.written mark (between.lookup change.path) = .ok (updated.lookup change.path) := by
  rw [List.foldlM_append] at applied
  rcases bind_eq_ok applied with ⟨between, earlier, applied⟩
  rw [List.foldlM_cons] at applied
  rcases bind_eq_ok applied with ⟨next, changed, applied⟩
  refine ⟨between, earlier, ?_⟩
  rw [lookup_changes_of_apart apart applied]
  exact lookup_applyChange_self changed

/-- Changes that spare the identity leave it alone. -/
theorem SparesIdentity.isApart (spares : update.SparesIdentity) : update.IsApart "_id" := by
  intro change member comparable
  rcases Document.segments_eq_cons (spares change member) with ⟨name, rest, split, different⟩
  have identity : segments "_id" = ["_id"] := rfl
  rw [split, identity] at comparable
  rcases comparable with leads | below
  · exact different (List.cons_prefix_cons.mp leads).1
  · exact different (List.cons_prefix_cons.mp below).1.symm

/-! ## What is found -/

/-- What equals itself meets itself. -/
theorem meets_self {value : Json} (equal : Json.equals value value = true) :
    Filter.meets value value = true := by
  cases value with
  | array elements =>
      exact equal
  | _ =>
      simp only [Filter.meets, beq_self_eq_true, Bool.true_and, equal]

theorem finds_value {document : Document} {path : String} {value : Json}
    (found : document.lookup path = some value) (distinct : value.HasDistinctKeys)
    (isNumber : Json.isSameNan value value = false) :
    Filter.Finds document path (.object [("$eq", value)]) := by
  refine Filter.finds_of_passes rfl rfl ?_
  have same := Json.same_self distinct
  rw [isNumber, Bool.false_or] at same
  have met := meets_self (Json.equals_of_same same)
  rw [Filter.passes, found]
  cases value <;> exact met

theorem finds_nothing {document : Document} {path : String}
    (missing : document.lookup path = none) :
    Filter.Finds document path (.object [("$exists", .boolean false)]) := by
  refine Filter.finds_of_passes rfl rfl ?_
  rw [Filter.passes, missing]
  rfl

/-- What an update shows at each place of a document that it was made to. -/
structure ReadsBack (update : Update) (document updated : Document) : Prop where
  /-- A place that no change has to do with is as before. -/
  kept : ∀ path, update.IsApart path → updated.lookup path = document.lookup path
  /-- What was set last is there, and is found unless it is no number. -/
  set : ∀ (before : Update) (path : String) (value : Json) (after : Update),
    update = before ++ .set path value :: after →
    after.IsApart path → updated.lookup path = some value ∧
      (Json.isSameNan value value = false →
        Filter.Finds updated path (.object [("$eq", value)]))
  /-- Where something was removed last nothing is there. -/
  removed : ∀ (before : Update) (path : String) (after : Update),
    update = before ++ .unset path :: after →
    after.IsApart path → updated.lookup path = none ∧
      Filter.Finds updated path (.object [("$exists", .boolean false)])
  identity : updated.lookup "_id" = document.lookup "_id"

/-- An update that can be read reads back as what its last changes wrote, at every place. -/
theorem apply_readsBack {value : Json} {update : Update} (accepted : read value = .ok update)
    (distinct : value.HasDistinctKeys) {document updated : Document}
    (applied : update.apply document = .ok updated) : ReadsBack update document updated where
  kept path apart := lookup_changes_of_apart apart applied
  set before path value after same apart := by
    subst same
    have apart : after.IsApart (Change.set path value).path := apart
    rcases lookup_changes_of_last apart applied with ⟨between, -, written⟩
    have found : updated.lookup path = some value := (Except.ok.inj written).symm
    have made := distinct_read accepted distinct (.set path value)
      (List.mem_append_right before List.mem_cons_self)
    exact ⟨found, finds_value found made⟩
  removed before path after same apart := by
    subst same
    have apart : after.IsApart (Change.unset path).path := apart
    rcases lookup_changes_of_last apart applied with ⟨between, -, written⟩
    have missing : updated.lookup path = none := (Except.ok.inj written).symm
    exact ⟨missing, finds_nothing missing⟩
  identity := lookup_changes_of_apart (read_sparesIdentity accepted).isApart applied

/-- An update of a document in which something is set below a number and removed around a member. -/
def overlapping : Json :=
  .object [("$set", .object [("a.b", .array [.boolean true]), ("e.f", .integer 4)]),
    ("$unset", .object [("e", .string ""), ("d.x", .string "")])]

/-- A document whose members it overlaps with. -/
def overlapped : Document :=
  [("_id", .integer 1), ("a", .integer 5), ("d", .integer 2), ("e", .object [("f", .integer 3)])]

/-- What the update is read as. -/
def overlappingChanges : Update :=
  [.set "a.b" (.array [.boolean true]), .set "e.f" (.integer 4), .unset "e", .unset "d.x"]

theorem overlapping_readsBack :
    read overlapping = .ok overlappingChanges ∧ overlapping.HasDistinctKeys ∧
      overlappingChanges.apply overlapped = .ok [("_id", .integer 1),
        ("a", .object [("b", .array [.boolean true])]), ("d", .integer 2)] ∧
      ReadsBack overlappingChanges overlapped [("_id", .integer 1),
        ("a", .object [("b", .array [.boolean true])]), ("d", .integer 2)] := by
  have accepted : read overlapping = .ok overlappingChanges := rfl
  have distinct : overlapping.HasDistinctKeys := by
    simp [overlapping, Json.HasDistinctKeys, Json.MembersHaveDistinctKeys,
      Json.AllHaveDistinctKeys, Json.integer]
  have applied : overlappingChanges.apply overlapped = .ok [("_id", .integer 1),
      ("a", .object [("b", .array [.boolean true])]), ("d", .integer 2)] := rfl
  exact ⟨accepted, distinct, applied, apply_readsBack accepted distinct applied⟩

/--
What was removed is not found under the name of a connective: no filter can be read that asks
for it, and put to the document as it is, the value is no list of filters.
-/
theorem unset_connective_not_found :
    read (.object [("$unset", .object [("$and", .string "")])]) = .ok [.unset "$and"] ∧
      apply [.unset "$and"] [] = .ok [] ∧ Document.lookup [] "$and" = none ∧
      Filter.read (.object [("$and", .object [("$exists", .boolean false)])]) =
        .error (.notFilters "$and") ∧
      Filter.matchesUnread [] (.object [("$and", .object [("$exists", .boolean false)])]) =
        .error (.noMembers "str") :=
  ⟨rfl, rfl, rfl, rfl, rfl⟩

end Update
end DocumentGate
