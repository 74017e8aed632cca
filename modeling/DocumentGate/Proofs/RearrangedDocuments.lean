import DocumentGate.Proofs.DocumentPlaces
import DocumentGate.Proofs.RevisedDocuments
import DocumentGate.Proofs.WholeDocuments

/-!
# Documents that differ in order only

Two documents where the same stands at each place have the same members in some order, and so
have the objects in them.  Lists are the same as they are, for no place is inside of one.

Such documents are equal, and booleans are in the place of booleans.  This needs the names in
every object to be distinct, which no update changes.
-/

namespace DocumentGate

/-! ## Distinct names -/

namespace Dictionary

variable {α : Type} {name : String} {value : α} {entries : Dictionary α}

theorem mem_of_get? (found : get? name entries = some value) : (name, value) ∈ entries := by
  induction entries with
  | nil =>
      cases found
  | cons first rest ih =>
      rw [get?] at found
      split at found
      · rename_i here
        rw [← here, ← Option.some.inj found]
        exact List.mem_cons_self
      · exact List.mem_cons_of_mem first (ih found)

theorem nodup_names_insert (distinct : (names entries).Nodup) :
    (names (insert name value entries)).Nodup := by
  rw [names_insert]
  split
  · exact distinct
  · rename_i new
    rw [List.nodup_append]
    refine ⟨distinct, List.nodup_singleton name, ?_⟩
    rintro other among _ member rfl
    rw [List.mem_singleton.mp member] at among
    exact new among

theorem mem_insert {entry : String × α} (member : entry ∈ insert name value entries) :
    entry.2 = value ∨ entry ∈ entries := by
  induction entries with
  | nil =>
      rw [List.mem_singleton.mp member]
      exact Or.inl rfl
  | cons first rest ih =>
      rw [insert] at member
      split at member <;>
        rcases List.mem_cons.mp member with rfl | later
      · exact Or.inl rfl
      · exact Or.inr (List.mem_cons_of_mem first later)
      · exact Or.inr List.mem_cons_self
      · exact (ih later).imp_right (List.mem_cons_of_mem first)

end Dictionary

namespace Json

variable {name : String} {value : Json} {members : Members}

theorem membersHaveDistinctKeys_iff :
    MembersHaveDistinctKeys members ↔ ∀ member ∈ members, member.2.HasDistinctKeys := by
  induction members with
  | nil =>
      exact iff_of_true trivial fun _ member => nomatch member
  | cons first rest ih =>
      rw [MembersHaveDistinctKeys, ih, List.forall_mem_cons]

theorem HasDistinctKeys.get? (distinct : (Json.object members).HasDistinctKeys)
    (found : Dictionary.get? name members = some value) : value.HasDistinctKeys :=
  membersHaveDistinctKeys_iff.mp distinct.2 _ (Dictionary.mem_of_get? found)

theorem HasDistinctKeys.insert (distinct : (Json.object members).HasDistinctKeys)
    (added : value.HasDistinctKeys) :
    (Json.object (Dictionary.insert name value members)).HasDistinctKeys := by
  refine ⟨Dictionary.nodup_names_insert distinct.1, membersHaveDistinctKeys_iff.mpr ?_⟩
  intro member among
  rcases Dictionary.mem_insert among with here | there
  · rwa [here]
  · exact membersHaveDistinctKeys_iff.mp distinct.2 member there

theorem HasDistinctKeys.erase (distinct : (Json.object members).HasDistinctKeys) :
    (Json.object (Dictionary.erase name members)).HasDistinctKeys := by
  refine ⟨distinct.1.sublist (List.filter_sublist.map Prod.fst), ?_⟩
  refine membersHaveDistinctKeys_iff.mpr fun member among => ?_
  exact membersHaveDistinctKeys_iff.mp distinct.2 member (List.mem_of_mem_filter among)

end Json

namespace Document

variable {document : Document} {path : List String}

theorem distinct_membersOf {found : Option Json}
    (distinct : ∀ value, found = some value → value.HasDistinctKeys) :
    (Json.object (membersOf found)).HasDistinctKeys := by
  unfold membersOf
  split
  · exact distinct _ rfl
  · exact ⟨List.nodup_nil, trivial⟩

theorem distinct_assignAt {value : Json} (added : value.HasDistinctKeys)
    (distinct : (Json.object document).HasDistinctKeys) :
    (Json.object (assignAt value path document)).HasDistinctKeys := by
  induction path, document using assignAt.induct with
  | case1 document =>
      exact distinct
  | case2 key document =>
      exact distinct.insert added
  | case3 document key rest more ih =>
      rw [assignAt_cons value more]
      exact distinct.insert (ih (distinct_membersOf fun child found => distinct.get? found))

theorem distinct_removeAt (distinct : (Json.object document).HasDistinctKeys) :
    (Json.object (removeAt path document)).HasDistinctKeys := by
  induction path, document using removeAt.induct with
  | case1 document =>
      exact distinct
  | case2 key document =>
      exact distinct.erase
  | case3 document key rest more members found ih =>
      rw [removeAt, found]
      · exact distinct.insert (ih (distinct.get? found))
      · exact more
  | case4 document key rest more other =>
      rw [removeAt]
      · split
        · rename_i members found
          exact absurd found (other members)
        · exact distinct
      · exact more

end Document

namespace Json

/-! ## Order aside -/

/-- The values are the same but for the order of members, in the value and in objects inside it. -/
inductive Rearranges : Json → Json → Prop
  | same (value : Json) : Rearranges value value
  | object {lefts rights : Members}
      (names : (Dictionary.names lefts).Perm (Dictionary.names rights))
      (members : ∀ name left right, Dictionary.get? name lefts = some left →
        Dictionary.get? name rights = some right → Rearranges left right) :
      Rearranges (.object lefts) (.object rights)

/-- Values that are the same without their members are the same, or both are objects. -/
theorem eq_of_bare_eq {left right : Json} (same : left.bare = right.bare) :
    left = right ∨ ∃ lefts rights, left = .object lefts ∧ right = .object rights := by
  cases left with
  | object lefts =>
      cases right with
      | object rights =>
          exact Or.inr ⟨lefts, rights, rfl, rfl⟩
      | _ =>
          cases same
  | _ =>
      cases right with
      | object rights =>
          cases same
      | _ =>
          exact Or.inl same

section Standing

variable {lefts rights : Members}
  (same : (Json.object lefts).standing = (Json.object rights).standing)

include same

theorem names_perm_of_standing (left : (Dictionary.names lefts).Nodup)
    (right : (Dictionary.names rights).Nodup) :
    (Dictionary.names lefts).Perm (Dictionary.names rights) := by
  rw [List.perm_ext_iff_of_nodup left right]
  intro name
  have present := congrArg Option.isSome (congrFun same [name])
  simp only [standing_object_cons, standing_nil, Option.isSome_bind, Option.any_true,
    Option.isSome_some, Dictionary.isSome_get?_eq] at present
  rw [← List.contains_iff_mem, ← List.contains_iff_mem, present]

theorem standing_of_get? {name : String} {left right : Json}
    (isLeft : Dictionary.get? name lefts = some left)
    (isRight : Dictionary.get? name rights = some right) : left.standing = right.standing := by
  funext place
  have below := congrFun same (name :: place)
  rwa [standing_object_cons, standing_object_cons, isLeft, isRight] at below

end Standing

theorem sizeOf_lt_of_get? {name : String} {value : Json} {members : Members}
    (found : Dictionary.get? name members = some value) :
    sizeOf value < sizeOf (Json.object members) := by
  have inside := List.sizeOf_lt_of_mem (Dictionary.mem_of_get? found)
  simp only [Prod.mk.sizeOf_spec, Json.object.sizeOf_spec] at inside ⊢
  omega

/-- Where the same stands at each place, only the order is another one. -/
theorem rearranges_of_standing {left right : Json} (isLeft : left.HasDistinctKeys)
    (isRight : right.HasDistinctKeys) (same : left.standing = right.standing) :
    Rearranges left right := by
  have here := congrFun same []
  rw [standing_nil, standing_nil] at here
  rcases eq_of_bare_eq (Option.some.inj here) with rfl | ⟨lefts, rights, rfl, rfl⟩
  · exact .same left
  · refine .object (names_perm_of_standing same isLeft.1 isRight.1) ?_
    intro name left right inLeft inRight
    have smaller := sizeOf_lt_of_get? inLeft
    exact rearranges_of_standing (isLeft.get? inLeft) (isRight.get? inRight)
      (standing_of_get? same inLeft inRight)
termination_by sizeOf left

/-! ## Equality, booleans told from numbers -/

theorem number_same_self (value : Number) :
    (isSameNan (.number value) (.number value) || same (.number value) (.number value)) = true := by
  cases value with
  | integer value =>
      exact beq_self_eq_true _
  | double value =>
      cases value with
      | nan mark =>
          exact Bool.or_eq_true_iff.mpr (Or.inl (beq_self_eq_true mark))
      | _ =>
          exact beq_self_eq_true _

/-- Members are the same where each of them is the same as its counterpart. -/
theorem membersSame_of_forall {lefts rights : List (String × Json)}
    (each : ∀ member ∈ lefts, ∃ right, Dictionary.get? member.1 rights = some right ∧
      (isSameNan member.2 right || same member.2 right) = true) :
    membersSame lefts rights = true := by
  induction lefts with
  | nil =>
      rfl
  | cons first rest ih =>
      rcases each first List.mem_cons_self with ⟨right, found, alike⟩
      rw [membersSame, found]
      exact Bool.and_eq_true_iff.mpr
        ⟨alike, ih fun member among => each member (List.mem_cons_of_mem first among)⟩

mutual
/-- A value is the same as itself, or one that is not a number. -/
theorem same_self : ∀ {value : Json}, value.HasDistinctKeys →
    (isSameNan value value || same value value) = true
  | .null, _ => rfl
  | .boolean value, _ => beq_self_eq_true value
  | .number value, _ => number_same_self value
  | .string text, _ => beq_self_eq_true text
  | .array elements, distinct => elementsSame_self distinct
  | .object members, distinct => by
      refine Bool.and_eq_true_iff.mpr ⟨beq_self_eq_true members.length, ?_⟩
      refine membersSame_of_forall fun member among => ⟨member.2, ?_, ?_⟩
      · exact Dictionary.get?_of_mem distinct.1 among
      · exact memberSame_self distinct.2 member among
termination_by structural value => value

theorem elementsSame_self : ∀ {elements : List Json}, AllHaveDistinctKeys elements →
    elementsSame elements elements = true
  | [], _ => rfl
  | _ :: _, distinct =>
      Bool.and_eq_true_iff.mpr ⟨same_self distinct.1, elementsSame_self distinct.2⟩
termination_by structural elements => elements

theorem memberSame_self : ∀ {members : List (String × Json)}, MembersHaveDistinctKeys members →
    ∀ member ∈ members, (isSameNan member.2 member.2 || same member.2 member.2) = true
  | [], _, _, among => nomatch among
  | (_, _) :: _, distinct, member, among => by
      rcases List.mem_cons.mp among with rfl | later
      · exact same_self distinct.1
      · exact memberSame_self distinct.2 member later
termination_by structural members => members
end

/-- Values that differ in order only are the same, or the same one that is not a number. -/
theorem Rearranges.same_or_nan {left right : Json} (rearranges : Rearranges left right)
    (distinct : left.HasDistinctKeys) : (isSameNan left right || Json.same left right) = true := by
  induction rearranges with
  | same value =>
      exact same_self distinct
  | @object lefts rights names _ ih =>
      have length : lefts.length = rights.length := by
        simpa [Dictionary.names] using names.length_eq
      refine Bool.and_eq_true_iff.mpr ⟨beq_iff_eq.mpr length, ?_⟩
      refine membersSame_of_forall fun member among => ?_
      have isLeft := Dictionary.get?_of_mem distinct.1 among
      have named : member.1 ∈ Dictionary.names rights :=
        names.mem_iff.mp (List.mem_map_of_mem among)
      have present : (Dictionary.get? member.1 rights).isSome = true := by
        rw [Dictionary.isSome_get?_eq, List.contains_iff_mem]
        exact named
      rcases Option.isSome_iff_exists.mp present with ⟨right, isRight⟩
      exact ⟨right, isRight, ih _ _ _ isLeft isRight (distinct.get? isLeft)⟩

/-- Documents that differ in order only are equal. -/
theorem Rearranges.equals {left right : Document}
    (rearranges : Rearranges (.object left) (.object right))
    (distinct : (Json.object left).HasDistinctKeys) :
    Json.equals (.object left) (.object right) = true :=
  equals_of_same (rearranges.same_or_nan distinct)

end Json

/-! ## Updates -/

/-- The names in every object that a change puts into a document are distinct. -/
def Change.HasDistinctKeys : Change → Prop
  | .set _ value => value.HasDistinctKeys
  | _ => True

theorem Document.distinct_write {document : Document} {written : Option Json} {path : List String}
    (added : ∀ value, written = some value → value.HasDistinctKeys)
    (distinct : (Json.object document).HasDistinctKeys) :
    (Json.object (document.write path written)).HasDistinctKeys := by
  cases written with
  | none =>
      exact distinct_removeAt distinct
  | some value =>
      exact distinct_assignAt (added value rfl) distinct

namespace Update

variable {mark : Nat} {document updated : Document} {change : Change} {update : Update}

theorem distinct_written {found : Option Json} {value : Json} (made : change.HasDistinctKeys)
    (written : change.written mark found = .ok (some value)) : value.HasDistinctKeys := by
  cases change with
  | set path given =>
      obtain rfl := Option.some.inj (Except.ok.inj written)
      exact made
  | unset path =>
      cases written
  | increase path amount =>
      rcases map_eq_ok written with ⟨total, increased, same⟩
      obtain rfl := Option.some.inj same
      unfold Update.increased at increased
      dsimp only at increased
      split at increased
      · split at increased <;> cases increased
        trivial
      · split at increased <;> cases increased
        trivial
      · cases increased

theorem distinct_applyChange (made : change.HasDistinctKeys)
    (distinct : (Json.object document).HasDistinctKeys)
    (applied : applyChange mark document change = .ok updated) :
    (Json.object updated).HasDistinctKeys := by
  rw [applyChange_eq] at applied
  rcases map_eq_ok applied with ⟨written, found, rfl⟩
  refine Document.distinct_write (fun value same => ?_) distinct
  rw [same] at found
  exact distinct_written made found

/-- Changes that put distinct names into a document leave its names distinct. -/
theorem distinct_changes (made : ∀ change ∈ update, change.HasDistinctKeys)
    (distinct : (Json.object document).HasDistinctKeys)
    (applied : update.foldlM (applyChange mark) document = .ok updated) :
    (Json.object updated).HasDistinctKeys := by
  refine foldlM_keeps (fun reached => (Json.object reached).HasDistinctKeys)
    (fun change member before after changed kept => ?_) applied distinct
  exact distinct_applyChange (made change member) kept changed

theorem distinct_madeOf {path : String} {operand : Json} (made : MadeOf path operand change)
    (distinct : operand.HasDistinctKeys) : change.HasDistinctKeys := by
  cases made with
  | set => exact distinct
  | unset => trivial
  | increase => trivial

/-- An update that is read from a value with distinct names puts distinct names into documents. -/
theorem distinct_read {value : Json} (accepted : read value = .ok update)
    (distinct : value.HasDistinctKeys) : ∀ change ∈ update, change.HasDistinctKeys := by
  intro change member
  rcases mem_read accepted member with ⟨members, _, fields, _, _, rfl, listed, inside, -, made⟩
  have below : (Json.object fields).HasDistinctKeys :=
    Json.membersHaveDistinctKeys_iff.mp distinct.2 _ listed
  exact distinct_madeOf made (Json.membersHaveDistinctKeys_iff.mp below.2 _ inside)

end Update
end DocumentGate
