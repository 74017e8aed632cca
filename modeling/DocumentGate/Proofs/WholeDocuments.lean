import DocumentGate.Json.Equality
import DocumentGate.Proofs.DocumentIdentities
import DocumentGate.Proofs.StoredTexts

/-!
# Documents of whole numbers

Changes that are made with whole numbers leave a document of whole numbers one of whole
numbers.  So an update with whole numbers fails on such a document in one way only, by
increasing what is not a number.  A document that can be stored equals itself.
-/

namespace DocumentGate

/-! ## Members -/

theorem Dictionary.get?_of_mem {α : Type} {name : String} {value : α} {entries : Dictionary α}
    (distinct : (names entries).Nodup) (member : (name, value) ∈ entries) :
    get? name entries = some value := by
  induction entries with
  | nil =>
      cases member
  | cons first rest ih =>
      rcases List.nodup_cons.mp distinct with ⟨new, distinct⟩
      rcases List.mem_cons.mp member with rfl | later
      · exact if_pos rfl
      · have other : first.1 ≠ name := by
          rintro rfl
          exact new (List.mem_map.mpr ⟨_, later, rfl⟩)
        rw [get?, if_neg other, ih distinct later]

namespace Json

theorem membersAreWhole_iff {members : List (String × Json)} :
    membersAreWhole members = true ↔ ∀ member ∈ members, member.2.isWhole = true := by
  induction members with
  | nil =>
      exact iff_of_true rfl fun _ member => nomatch member
  | cons first rest ih =>
      rw [membersAreWhole, Bool.and_eq_true, ih, List.forall_mem_cons]

theorem isWhole_of_get? {name : String} {value : Json} {members : List (String × Json)}
    (whole : membersAreWhole members = true) (found : Dictionary.get? name members = some value) :
    value.isWhole = true := by
  induction members with
  | nil =>
      cases found
  | cons first rest ih =>
      rcases Bool.and_eq_true_iff.mp whole with ⟨here, there⟩
      rw [Dictionary.get?] at found
      split at found
      · rw [← Option.some.inj found]
        exact here
      · exact ih there found

theorem membersAreWhole_insert {name : String} {value : Json} {members : List (String × Json)}
    (whole : membersAreWhole members = true) (added : value.isWhole = true) :
    membersAreWhole (Dictionary.insert name value members) = true := by
  induction members with
  | nil =>
      exact Bool.and_eq_true_iff.mpr ⟨added, rfl⟩
  | cons first rest ih =>
      rcases Bool.and_eq_true_iff.mp whole with ⟨here, there⟩
      rw [Dictionary.insert]
      split
      · exact Bool.and_eq_true_iff.mpr ⟨added, there⟩
      · exact Bool.and_eq_true_iff.mpr ⟨here, ih there⟩

theorem membersAreWhole_erase {name : String} {members : List (String × Json)}
    (whole : membersAreWhole members = true) :
    membersAreWhole (Dictionary.erase name members) = true := by
  rw [membersAreWhole_iff] at whole ⊢
  exact fun member among => whole member (List.mem_of_mem_filter among)

/-! ## Equality -/

mutual
/-- What can be stored equals itself. -/
theorem equals_self : ∀ {value : Json}, value.IsStorable → equals value value = true
  | .null, _ => rfl
  | .boolean value, _ => by
      cases value <;> decide +kernel
  | .number (.integer value), _ => beq_self_eq_true _
  | .number (.double _), storable => by
      cases storable.whole
  | .string text, _ => beq_self_eq_true text
  | .array elements, storable => elementsEqual_self storable
  | .object members, storable => by
      rw [equals, beq_self_eq_true, Bool.true_and]
      refine membersEqual_self storable fun name value member => ?_
      exact Dictionary.get?_of_mem storable.distinct.1 member
termination_by structural value => value

theorem elementsEqual_self : ∀ {elements : List Json}, (Json.array elements).IsStorable →
    elementsEqual elements elements = true
  | [], _ => rfl
  | first :: rest, storable => by
      rw [elementsEqual, equals_self storable.element.1, Bool.or_true, Bool.true_and]
      exact elementsEqual_self storable.element.2
termination_by structural elements => elements

theorem membersEqual_self : ∀ {members all : List (String × Json)},
    (Json.object members).IsStorable →
    (∀ name value, (name, value) ∈ members → Dictionary.get? name all = some value) →
    membersEqual members all = true
  | [], _, _, _ => rfl
  | (name, value) :: rest, all, storable, found => by
      rw [membersEqual, found name value List.mem_cons_self]
      dsimp only
      rw [equals_self storable.member.1, Bool.or_true, Bool.true_and]
      exact membersEqual_self storable.member.2 fun other value member =>
        found other value (List.mem_cons_of_mem _ member)
termination_by structural members => members
end

end Json

/-! ## Paths -/

namespace Document

theorem isWhole_of_descend {value found : Json} {path : List String} (whole : value.isWhole = true)
    (reached : descend value path = some found) : found.isWhole = true := by
  induction path generalizing value with
  | nil =>
      cases value <;> cases reached <;> exact whole
  | cons key rest ih =>
      cases value with
      | object members =>
          rw [descend] at reached
          split at reached
          · rename_i child present
            exact ih (Json.isWhole_of_get? whole present) reached
          · cases reached
      | _ =>
          cases reached

theorem isWhole_membersOf {found : Option Json}
    (whole : ∀ value, found = some value → value.isWhole = true) :
    Json.membersAreWhole (membersOf found) = true := by
  unfold membersOf
  split
  · exact whole _ rfl
  · rfl

theorem isWhole_assignAt {value : Json} (added : value.isWhole = true) {path : List String}
    {document : Document} (whole : Json.membersAreWhole document = true) :
    Json.membersAreWhole (assignAt value path document) = true := by
  induction path, document using assignAt.induct with
  | case1 document =>
      exact whole
  | case2 document key =>
      exact Json.membersAreWhole_insert whole added
  | case3 document key rest more ih =>
      rw [assignAt]
      · refine Json.membersAreWhole_insert whole (ih (isWhole_membersOf ?_))
        exact fun child present => Json.isWhole_of_get? whole present
      · exact more

theorem isWhole_removeAt {path : List String} {document : Document}
    (whole : Json.membersAreWhole document = true) :
    Json.membersAreWhole (removeAt path document) = true := by
  induction path, document using removeAt.induct with
  | case1 document =>
      exact whole
  | case2 document key =>
      exact Json.membersAreWhole_erase whole
  | case3 document key rest more members present ih =>
      rw [removeAt, present]
      · have inner : Json.membersAreWhole members = true := Json.isWhole_of_get? whole present
        exact Json.membersAreWhole_insert whole (ih inner)
      · exact more
  | case4 document key rest more absent =>
      rw [removeAt]
      · split
        · exact absurd ‹_› (absent _)
        · exact whole
      · exact more

end Document

/-! ## Changes -/

/-- What the change is made with holds whole numbers only. -/
def Change.isWhole : Change → Bool
  | .set _ value => value.isWhole
  | .unset _ => true
  | .increase _ amount => (Json.number amount).isWhole

namespace Update

theorem increased_whole (mark : Nat) (path : String) {found : Option Json} {amount : Number}
    (whole : ∀ value, found = some value → value.isWhole = true)
    (added : (Json.number amount).isWhole = true) :
    (∃ total, increased mark path found amount = .ok total ∧ total.isWhole = true) ∨
      increased mark path found amount = .error (.notNumeric path) := by
  cases amount with
  | double value =>
      cases added
  | integer amount =>
      cases found with
      | none =>
          exact Or.inl ⟨_, rfl, rfl⟩
      | some value =>
          have known := whole value rfl
          cases value with
          | number current =>
              cases current with
              | integer current =>
                  exact Or.inl ⟨_, rfl, rfl⟩
              | double current =>
                  cases known
          | _ =>
              exact Or.inr rfl

/-- A change with whole numbers keeps the numbers of a document whole, or meets no number. -/
theorem applyChange_whole (mark : Nat) {document : Document} {change : Change}
    (whole : Json.membersAreWhole document = true) (made : change.isWhole = true) :
    (∃ updated, applyChange mark document change = .ok updated ∧
        Json.membersAreWhole updated = true) ∨
      ∃ path, applyChange mark document change = .error (.notNumeric path) := by
  cases change with
  | set path value =>
      exact Or.inl ⟨_, rfl, Document.isWhole_assignAt made whole⟩
  | unset path =>
      exact Or.inl ⟨_, rfl, Document.isWhole_removeAt whole⟩
  | increase path amount =>
      have found : ∀ value, document.lookup path = some value → value.isWhole = true :=
        fun value reached =>
          Document.isWhole_of_descend
            (show (Json.object document).isWhole = true from whole) reached
      rcases increased_whole mark path found made with
        ⟨total, increased, isWhole⟩ | refused
      · refine Or.inl ⟨document.assign path total, ?_, Document.isWhole_assignAt isWhole whole⟩
        rw [applyChange, increased]
        rfl
      · refine Or.inr ⟨path, ?_⟩
        rw [applyChange, refused]
        rfl

/-- An update with whole numbers fails on a document of whole numbers at what is no number. -/
theorem apply_whole {update : Update} {document : Document} {failure : Failure}
    (whole : Json.membersAreWhole document = true) (made : ∀ change ∈ update, change.isWhole = true)
    (failed : update.apply document = .error failure) : ∃ path, failure = .notNumeric path := by
  unfold apply at failed
  generalize (Json.object document).freshMark = mark at failed
  induction update generalizing document with
  | nil =>
      cases failed
  | cons change rest ih =>
      rw [List.foldlM_cons] at failed
      rcases applyChange_whole mark whole (made change List.mem_cons_self) with
        ⟨updated, changed, isWhole⟩ | ⟨path, refused⟩
      · rw [changed] at failed
        exact ih isWhole (fun other member => made other (List.mem_cons_of_mem change member))
          failed
      · rw [refused] at failed
        exact ⟨path, (Except.error.inj failed).symm⟩

theorem isWhole_madeOf {path : String} {operand : Json} {change : Change}
    (made : MadeOf path operand change) (whole : operand.isWhole = true) :
    change.isWhole = true := by
  cases made with
  | set => exact whole
  | unset => rfl
  | increase => exact whole

/-- The changes of an update hold whole numbers only where the value that it was read from does. -/
theorem isWhole_read {value : Json} {update : Update} (read : Update.read value = .ok update)
    (whole : value.isWhole = true) : ∀ change ∈ update, change.isWhole = true := by
  intro change member
  rcases mem_read read member with ⟨members, _, fields, _, _, rfl, given, listed, -, made⟩
  have wholeFields : (Json.object fields).isWhole = true :=
    Json.membersAreWhole_iff.mp whole _ given
  exact isWhole_madeOf made (Json.membersAreWhole_iff.mp wholeFields _ listed)

end Update
end DocumentGate
