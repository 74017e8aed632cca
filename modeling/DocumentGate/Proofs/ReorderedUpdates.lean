import DocumentGate.Proofs.RearrangedDocuments
import Mathlib.Data.List.Perm.Basic

/-!
# Updates in another order

Where no path of an update leads to or through another one, its changes do not depend on each
other.  So the operators of such an update and the fields of each may stand in any order: it is
read all the same, and it either fails on a document in both orders, or makes of it two documents
that differ in the order of members only.

The changes commute as functions of what stands at each place, where the order of members does
not show.  That the documents come out alike is told from these functions at the end.
-/

namespace DocumentGate

open Document (Comparable segments)

/-! ## What changes make of all places -/

/-- What stands at each place. -/
abbrev Sight : Type := List String → Option Json

namespace Change

/-- What a change makes of what stands at each place, if it can be made. -/
def sighted (mark : Nat) (change : Change) (sight : Sight) : Option Sight :=
  (change.written mark (sight (segments change.path))).toOption.map fun written place =>
    Document.rewritten (segments change.path) written place (sight place)

variable {mark : Nat} {first second : Change}

/-- A change at another place is made of what stood there at first. -/
theorem sighted_bind (apart : ¬Comparable (segments first.path) (segments second.path))
    (sight : Sight) :
    (first.sighted mark sight).bind (second.sighted mark) =
      (first.written mark (sight (segments first.path))).toOption.bind fun written =>
        (second.written mark (sight (segments second.path))).toOption.map fun further place =>
          Document.rewritten (segments second.path) further place
            (Document.rewritten (segments first.path) written place (sight place)) := by
  rw [sighted, Option.bind_map]
  refine congrArg (Option.bind _) (funext fun written => ?_)
  rw [Function.comp_apply, sighted, Document.rewritten_of_apart apart]

/-- Of two changes at places that are not comparable it does not matter which comes first. -/
theorem sighted_comm (apart : ¬Comparable (segments first.path) (segments second.path))
    (sight : Sight) :
    (first.sighted mark sight).bind (second.sighted mark) =
      (second.sighted mark sight).bind (first.sighted mark) := by
  rw [sighted_bind apart, sighted_bind fun comparable => apart comparable.symm]
  cases (first.written mark (sight (segments first.path))).toOption with
  | none =>
      cases (second.written mark (sight (segments second.path))).toOption <;> rfl
  | some written =>
      cases (second.written mark (sight (segments second.path))).toOption with
      | none =>
          rfl
      | some further =>
          refine congrArg some (funext fun place => ?_)
          exact Document.rewritten_comm apart written further place (sight place)

end Change

namespace Update

variable {mark : Nat} {document : Document} {update others : Update}

theorem sight_applyChange (mark : Nat) (document : Document) (change : Change) :
    (applyChange mark document change).toOption.map Document.sight =
      change.sighted mark document.sight := by
  have same : change.written mark (document.sight (segments change.path)) =
      change.written mark (document.lookup change.path) :=
    written_bare mark (document.lookup change.path) change
  rw [applyChange_eq, Change.sighted, same]
  cases change.written mark (document.lookup change.path) with
  | error failure =>
      rfl
  | ok written =>
      refine congrArg some (funext fun place => ?_)
      exact Document.sight_write (Document.segments_ne_nil change.path) place

/-- What changes make of what stands at each place, one after the other. -/
def sighted (mark : Nat) (update : Update) (sight : Option Sight) : Option Sight :=
  update.foldl (fun sight change => sight.bind (change.sighted mark)) sight

theorem sighted_none (mark : Nat) (update : Update) : update.sighted mark none = none := by
  induction update with
  | nil =>
      rfl
  | cons change rest ih =>
      exact ih

theorem sight_changes (mark : Nat) (document : Document) (update : Update) :
    (update.foldlM (applyChange mark) document).toOption.map Document.sight =
      update.sighted mark (some document.sight) := by
  induction update generalizing document with
  | nil =>
      rfl
  | cons change rest ih =>
      rw [List.foldlM_cons, sighted, List.foldl_cons, Option.bind_some, ← sight_applyChange]
      cases applyChange mark document change with
      | error failure =>
          exact (sighted_none mark rest).symm
      | ok between =>
          exact ih between

/-! ## Changes in another order -/

/-- No path of the update leads to or through another one. -/
def IsIndependent (update : Update) : Prop :=
  update.Pairwise fun first second => ¬Comparable (segments first.path) (segments second.path)

theorem sighted_perm (mark : Nat) (independent : update.IsIndependent)
    (reordered : update.Perm others) (sight : Option Sight) :
    update.sighted mark sight = others.sighted mark sight := by
  have symmetric : Std.Symm fun first second : Change =>
      ¬Comparable (segments first.path) (segments second.path) :=
    ⟨fun _ _ apart comparable => apart comparable.symm⟩
  refine reordered.foldl_eq' ?_ sight
  intro first isFirst second isSecond sight
  cases sight with
  | none =>
      rfl
  | some sight =>
      by_cases same : first = second
      · rw [same]
      · exact Change.sighted_comm (independent.forall isFirst isSecond same) sight

/-- Both are documents, which differ in the order of members only, or both are failures. -/
inductive Coincide : Except Failure Document → Except Failure Document → Prop
  | made {left right : Document} (rearranged : Json.Rearranges (.object left) (.object right)) :
      Coincide (.ok left) (.ok right)
  | failed (left right : Failure) : Coincide (.error left) (.error right)

/-- Independent changes come to the same in any order. -/
theorem apply_perm (independent : update.IsIndependent) (reordered : update.Perm others)
    (made : ∀ change ∈ update, change.HasDistinctKeys)
    (distinct : (Json.object document).HasDistinctKeys) :
    Coincide (update.apply document) (others.apply document) := by
  unfold apply
  generalize (Json.object document).freshMark = mark
  have same := sighted_perm mark independent reordered (some document.sight)
  rw [← sight_changes, ← sight_changes] at same
  have madeOthers : ∀ change ∈ others, change.HasDistinctKeys :=
    fun change member => made change (reordered.mem_iff.mpr member)
  cases left : update.foldlM (applyChange mark) document with
  | error failure =>
      cases right : others.foldlM (applyChange mark) document with
      | error other =>
          exact .failed failure other
      | ok second =>
          rw [left, right] at same
          cases same
  | ok first =>
      cases right : others.foldlM (applyChange mark) document with
      | error other =>
          rw [left, right] at same
          cases same
      | ok second =>
          rw [left, right] at same
          exact .made (Json.rearranges_of_standing (distinct_changes made distinct left)
            (distinct_changes madeOthers distinct right) (Option.some.inj same))

end Update

/-! ## Values in another order -/

/-- Steps have results exactly where each has the one in its place. -/
theorem mapM_eq_ok_iff {Error First Last : Type} {step : First → Except Error Last}
    {firsts : List First} {lasts : List Last} :
    firsts.mapM step = .ok lasts ↔
      List.Forall₂ (fun first last => step first = .ok last) firsts lasts := by
  induction firsts generalizing lasts with
  | nil =>
      rw [List.mapM_nil, List.forall₂_nil_left_iff]
      exact ⟨fun same => (Except.ok.inj same).symm, fun same => congrArg _ same.symm⟩
  | cons first rest ih =>
      rw [List.mapM_cons, List.forall₂_cons_left_iff]
      constructor
      · intro ran
        rcases cons_eq_ok ran with ⟨last, others, made, further, same⟩
        exact ⟨last, others, made, ih.mp further, same.symm⟩
      · rintro ⟨last, others, made, further, rfl⟩
        rw [made, ih.mpr further]
        rfl

/-- Steps in another order have their results in another order. -/
theorem mapM_perm {Error First Last : Type} {step : First → Except Error Last}
    {firsts seconds : List First} {lasts : List Last} (ran : firsts.mapM step = .ok lasts)
    (reordered : firsts.Perm seconds) :
    ∃ others, seconds.mapM step = .ok others ∧ lasts.Perm others := by
  rcases List.perm_comp_forall₂ reordered.symm (mapM_eq_ok_iff.mp ran) with
    ⟨others, made, perm⟩
  exact ⟨others, mapM_eq_ok_iff.mpr made, perm.symm⟩

namespace Update

/-- An operator with its fields in another order. -/
inductive ReordersFields : String × Json → String × Json → Prop
  | intro (operator : String) {fields others : Json.Members} (reordered : fields.Perm others) :
      ReordersFields (operator, .object fields) (operator, .object others)

/-- The same operators in another order, each with its fields in another order. -/
inductive Reorders : Json → Json → Prop
  | intro {operators between others : Json.Members}
      (fields : List.Forall₂ ReordersFields operators between)
      (reordered : between.Perm others) : Reorders (.object operators) (.object others)

theorem readOperator_perm {operator : String} {fields others : Json.Members} {changes : Update}
    (accepted : readOperator operator (.object fields) = .ok changes)
    (reordered : fields.Perm others) :
    ∃ further, readOperator operator (.object others) = .ok further ∧ changes.Perm further := by
  unfold readOperator at accepted ⊢
  split at accepted
  · cases accepted
  · rename_i change known
    dsimp only at accepted ⊢
    rcases bind_eq_ok accepted with ⟨made, ran, checked⟩
    split at checked
    · cases checked
    · rename_i spared
      obtain rfl := Except.ok.inj checked
      rcases mapM_perm ran reordered with ⟨further, ranOthers, perm⟩
      refine ⟨further, ?_, perm⟩
      rw [ranOthers, ← reordered.any_eq]
      exact if_neg spared

/-- Operators whose fields are in another order are read as the same changes in another order. -/
theorem mapM_readOperator_perm {operators between : Json.Members} {parts : List Update}
    (fields : List.Forall₂ ReordersFields operators between)
    (ran : (operators.mapM fun (operator, given) => readOperator operator given) = .ok parts) :
    ∃ others, (between.mapM fun (operator, given) => readOperator operator given) = .ok others ∧
      List.Forall₂ List.Perm parts others := by
  induction fields generalizing parts with
  | nil =>
      obtain rfl := Except.ok.inj ran
      exact ⟨[], rfl, .nil⟩
  | cons first _ ih =>
      cases first with
      | intro operator reordered =>
          rw [List.mapM_cons] at ran
          rcases cons_eq_ok ran with ⟨changes, rest, here, there, rfl⟩
          rcases readOperator_perm here reordered with ⟨further, read, perm⟩
          rcases ih there with ⟨others, readOthers, perms⟩
          refine ⟨further :: others, ?_, .cons perm perms⟩
          rw [List.mapM_cons]
          dsimp only
          rw [read, readOthers]
          rfl

/-- A value in another order is read as the same changes in another order. -/
theorem read_reordered {value other : Json} {update : Update} (accepted : read value = .ok update)
    (reorders : Reorders value other) :
    ∃ others, read other = .ok others ∧ update.Perm others := by
  cases reorders with
  | @intro operators between others fields reordered =>
      cases operators with
      | nil =>
          cases accepted
      | cons first rest =>
          rcases bind_eq_ok accepted with ⟨parts, ran, same⟩
          obtain rfl := Except.ok.inj same
          rcases mapM_readOperator_perm fields ran with ⟨middle, readMiddle, inner⟩
          rcases mapM_perm readMiddle reordered with ⟨final, readFinal, outer⟩
          refine ⟨final.flatten, ?_, (List.Perm.flatten_congr inner).trans outer.flatten⟩
          cases others with
          | nil =>
              cases fields
              cases reordered.eq_nil
          | cons second further =>
              rw [read, readOperators, readFinal]
              · rfl
              · exact List.cons_ne_nil second further

/--
An update whose paths do not lead to or through each other is read in any order of its operators
and of their fields, and comes to the same: it fails on a document in both orders, or makes of it
documents that differ in the order of members only.
-/
theorem apply_reordered {value other : Json} {update : Update} {document : Document}
    (accepted : read value = .ok update) (independent : update.IsIndependent)
    (reorders : Reorders value other) (given : value.HasDistinctKeys)
    (distinct : (Json.object document).HasDistinctKeys) :
    ∃ reordered, read other = .ok reordered ∧
      Coincide (update.apply document) (reordered.apply document) := by
  rcases read_reordered accepted reorders with ⟨reordered, read, perm⟩
  exact ⟨reordered, read, apply_perm independent perm (distinct_read accepted given) distinct⟩

/-- An update whose paths go through the same member, beside each other. -/
def siblings : Json :=
  .object [("$set", .object [("a.x", .integer 1)]), ("$unset", .object [("a.y", .string "")]),
    ("$inc", .object [("n", .integer 2), ("a.z", .integer 3)])]

/-- The same update from its end. -/
def siblingsBackwards : Json :=
  .object [("$inc", .object [("a.z", .integer 3), ("n", .integer 2)]),
    ("$unset", .object [("a.y", .string "")]), ("$set", .object [("a.x", .integer 1)])]

/-- A document in which the member that the paths go through is a number. -/
def blocked : Document :=
  [("n", .integer 5), ("a", .integer 7)]

/-- What the update is read as. -/
def siblingChanges : Update :=
  [.set "a.x" (.integer 1), .unset "a.y", .increase "n" (.integer 2), .increase "a.z" (.integer 3)]

theorem siblings_reordered :
    read siblings = .ok siblingChanges ∧ siblingChanges.IsIndependent ∧
      Reorders siblings siblingsBackwards ∧ siblings.HasDistinctKeys ∧
      (Json.object blocked).HasDistinctKeys ∧
      ∃ reordered, read siblingsBackwards = .ok reordered ∧
        Coincide (siblingChanges.apply blocked) (reordered.apply blocked) := by
  have accepted : read siblings = .ok siblingChanges := rfl
  have independent : siblingChanges.IsIndependent := by
    unfold IsIndependent Comparable
    decide +kernel
  have reorders : Reorders siblings siblingsBackwards :=
    .intro (.cons (.intro "$set" (.refl _)) (.cons (.intro "$unset" (.refl _))
      (.cons (.intro "$inc" (.swap _ _ _)) .nil))) (List.reverse_perm _).symm
  have given : siblings.HasDistinctKeys := by
    simp [siblings, Json.HasDistinctKeys, Json.MembersHaveDistinctKeys, Json.integer]
  have distinct : (Json.object blocked).HasDistinctKeys := by
    simp [blocked, Json.HasDistinctKeys, Json.MembersHaveDistinctKeys, Json.integer]
  exact ⟨accepted, independent, reorders, given, distinct,
    apply_reordered accepted independent reorders given distinct⟩

end Update
end DocumentGate
