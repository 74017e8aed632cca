import DocumentGate.Document.Update
import DocumentGate.Proofs.DocumentIdentities
import DocumentGate.Proofs.Results

/-!
# Places of a document

Segments lead from a document to a place in it.  A change writes at one path: it puts a value
there, or leaves nothing there.  What it makes of all places is told from the outside, place by
place.  At and below the path stands what was written.  Above it stands an object, which is made
where a value needs one, and left as it is where nothing is written.  Every other place keeps
what stands there, whatever is overwritten on the way.

So of what stands at a place, each change keeps all or nothing, unless it increases a number.
-/

namespace DocumentGate

namespace Document

/-! ## Descending -/

section Descending

variable {document : Document} {key : String} {rest path place : List String}

theorem segments_ne_nil (path : String) : segments path ≠ [] := by
  rw [segments, Text.segments]
  exact fun none => Text.segmentsOf_ne_nil '.' path.toList (List.map_eq_nil_iff.mp none)

theorem descend_cons (members : Json.Members) (key : String) (rest : List String) :
    descend (.object members) (key :: rest) =
      (Dictionary.get? key members).bind fun child => descend child rest := by
  rw [descend]
  cases Dictionary.get? key members <;> rfl

/-- What is no object has nothing below it, like an object without members. -/
theorem descend_membersOf (found : Option Json) (below : place ≠ []) :
    descend (.object (membersOf found)) place = found.bind fun value => descend value place := by
  cases place with
  | nil =>
      exact absurd rfl below
  | cons key rest =>
      cases found with
      | none =>
          rfl
      | some value =>
          cases value <;> rfl

theorem membersOf_descend (found : Option Json) (place : List String) :
    membersOf (descend (.object (membersOf found)) place) =
      membersOf (found.bind fun value => descend value place) := by
  cases place with
  | nil =>
      cases found with
      | none =>
          rfl
      | some value =>
          cases value <;> rfl
  | cons key rest =>
      rw [descend_membersOf found (List.cons_ne_nil key rest)]

/-! ## Assigning -/

theorem assignAt_cons (value : Json) (more : rest ≠ []) :
    assignAt value (key :: rest) document = Dictionary.insert key
      (.object (assignAt value rest (membersOf (Dictionary.get? key document)))) document := by
  rw [assignAt]
  exact more

/-- What is found at each place after a value was assigned at a path. -/
theorem descend_assignAt (value : Json) (leads : path ≠ []) (place : List String) :
    descend (.object (assignAt value path document)) place =
      if path <+: place then descend value (place.drop path.length)
      else if place <+: path then
        some (.object (assignAt value (path.drop place.length)
          (membersOf (descend (.object document) place))))
      else descend (.object document) place := by
  induction path generalizing document place with
  | nil =>
      exact absurd rfl leads
  | cons key rest ih =>
      cases place with
      | nil =>
          simp [descend, membersOf]
      | cons other further =>
          by_cases same : key = other
          · subst same
            cases rest with
            | nil =>
                simp [assignAt, descend_cons, Dictionary.get?_insert]
            | cons next rest =>
                have more := List.cons_ne_nil next rest
                rw [assignAt_cons value more, descend_cons, Dictionary.get?_insert, if_pos rfl,
                  Option.bind_some, ih more further]
                simp only [List.cons_prefix_cons, true_and, List.length_cons,
                  List.drop_succ_cons, descend_cons, membersOf_descend]
                split
                · rfl
                split
                · rfl
                · rename_i apart
                  refine descend_membersOf _ ?_
                  rintro rfl
                  exact apart List.nil_prefix
          · rw [descend_cons, get?_assignAt value rest same, ← descend_cons]
            simp [same, Ne.symm same]

/-! ## Removing -/

/-- The value without what stands below it at a path. -/
def removeIn (path : List String) : Json → Json
  | .object members => .object (removeAt path members)
  | value => value

theorem get?_removeAt_self (more : rest ≠ []) :
    Dictionary.get? key (removeAt (key :: rest) document) =
      (Dictionary.get? key document).map (removeIn rest) := by
  rw [removeAt]
  · split
    · rename_i members found
      rw [Dictionary.get?_insert, if_pos rfl, found]
      rfl
    · rename_i other
      cases found : Dictionary.get? key document with
      | none =>
          rfl
      | some value =>
          cases value with
          | object members =>
              exact absurd found (other members)
          | _ =>
              rfl
  · exact more

/-- What is found at each place after what stands at a path was removed. -/
theorem descend_removeAt (leads : path ≠ []) (place : List String) :
    descend (.object (removeAt path document)) place =
      if path <+: place then none
      else if place <+: path then
        (descend (.object document) place).map (removeIn (path.drop place.length))
      else descend (.object document) place := by
  induction path generalizing document place with
  | nil =>
      exact absurd rfl leads
  | cons key rest ih =>
      cases place with
      | nil =>
          simp [descend, removeIn]
      | cons other further =>
          by_cases same : key = other
          · subst same
            cases rest with
            | nil =>
                simp [removeAt, descend_cons, Dictionary.get?_erase]
            | cons next rest =>
                have more := List.cons_ne_nil next rest
                rw [descend_cons, get?_removeAt_self more, descend_cons]
                simp only [List.cons_prefix_cons, true_and, List.length_cons,
                  List.drop_succ_cons]
                cases Dictionary.get? key document with
                | none =>
                    simp
                | some value =>
                    rw [Option.map_some, Option.bind_some, Option.bind_some]
                    cases value with
                    | object members =>
                        exact ih more further
                    | _ =>
                        -- Removing stops here, and nothing stands below.
                        cases further <;> simp [removeIn, descend]
          · rw [descend_cons, get?_removeAt rest same, ← descend_cons]
            simp [same, Ne.symm same]

end Descending

/-! ## Writing -/

/-- Segments that lead to the same place or from one place to another below it. -/
def Comparable (path other : List String) : Prop :=
  path <+: other ∨ other <+: path

theorem Comparable.symm {path other : List String} (comparable : Comparable path other) :
    Comparable other path :=
  Or.symm comparable

/-- The document with a value at a path, or with nothing there. -/
def write (path : List String) (written : Option Json) (document : Document) : Document :=
  match written with
  | some value => assignAt value path document
  | none => removeAt path document

section Writing

variable {document : Document} {path place : List String} {written : Option Json}

/-- What is written at a path is found there. -/
theorem descend_write_self (leads : path ≠ []) :
    descend (.object (write path written document)) path = written := by
  cases written with
  | none =>
      rw [write, descend_removeAt leads, if_pos (List.prefix_refl path)]
  | some value =>
      rw [write, descend_assignAt value leads, if_pos (List.prefix_refl path), List.drop_length,
        descend]

/-- What is found at another place stays, whatever is written. -/
theorem descend_write_of_apart (apart : ¬Comparable path place) :
    descend (.object (write path written document)) place = descend (.object document) place := by
  rcases not_or.mp apart with ⟨outside, beside⟩
  have leads : path ≠ [] := by
    rintro rfl
    exact outside List.nil_prefix
  cases written with
  | none =>
      rw [write, descend_removeAt leads, if_neg outside, if_neg beside]
  | some value =>
      rw [write, descend_assignAt value leads, if_neg outside, if_neg beside]

end Writing

end Document

/-! ## What stands at a place -/

namespace Json

/-- The value without the members of an object. -/
def bare : Json → Json
  | .object _ => .object []
  | value => value

/-- What stands at a place: an object, whatever its members, another value, or nothing. -/
def standing (value : Json) (place : List String) : Option Json :=
  (Document.descend value place).map bare

theorem standing_nil (value : Json) : value.standing [] = some value.bare := by
  rw [standing, Document.descend, Option.map_some]

theorem standing_object_cons (members : Members) (key : String) (rest : List String) :
    (Json.object members).standing (key :: rest) =
      (Dictionary.get? key members).bind fun child => child.standing rest := by
  rw [standing, Document.descend_cons, Option.map_bind]
  rfl

end Json

namespace Document

variable {document : Document} {path place : List String} {written : Option Json}

/-- What stands at each place of a document. -/
def sight (document : Document) : List String → Option Json :=
  (Json.object document).standing

/-- What comes to stand at a place where something is written at a path. -/
def rewritten (path : List String) (written : Option Json) (place : List String)
    (before : Option Json) : Option Json :=
  if path <+: place then written.bind fun value => value.standing (place.drop path.length)
  else if place <+: path ∧ written.isSome = true then some (.object [])
  else before

theorem bare_removeIn (path : List String) (value : Json) :
    (removeIn path value).bare = value.bare := by
  cases value <;> rfl

/-- Writing is told place by place. -/
theorem sight_write (leads : path ≠ []) (place : List String) :
    (write path written document).sight place =
      rewritten path written place (document.sight place) := by
  rw [sight, sight, Json.standing, rewritten]
  cases written with
  | none =>
      have unwritten : ¬(place <+: path ∧ (none : Option Json).isSome = true) :=
        fun above => Bool.false_ne_true above.2
      rw [write, descend_removeAt leads, if_neg unwritten]
      split
      · rfl
      split
      · rw [Option.map_map]
        exact congrFun (congrArg Option.map (funext (bare_removeIn _))) _
      · rfl
  | some value =>
      rw [write, descend_assignAt value leads]
      simp only [Option.isSome_some, and_true, Option.bind_some]
      split
      · rfl
      split <;> rfl

theorem rewritten_of_apart (apart : ¬Comparable path place) (before : Option Json) :
    rewritten path written place before = before := by
  rcases not_or.mp apart with ⟨outside, beside⟩
  rw [rewritten, if_neg outside, if_neg fun above => beside above.1]

/-- Of two writings at places that are not comparable it does not matter which comes first. -/
theorem rewritten_comm {other : List String} (apart : ¬Comparable path other)
    (written further : Option Json) (place : List String) (before : Option Json) :
    rewritten other further place (rewritten path written place before) =
      rewritten path written place (rewritten other further place before) := by
  have disjoint : ¬(path <+: place ∧ other <+: place) := fun ⟨first, second⟩ =>
    apart (List.prefix_or_prefix_of_prefix first second)
  have inside : path <+: place → ¬place <+: other := fun first second =>
    apart (Or.inl (first.trans second))
  have outside : other <+: place → ¬place <+: path := fun first second =>
    apart (Or.inr (first.trans second))
  unfold rewritten
  by_cases atFirst : path <+: place
  · have elsewhere : ¬other <+: place := fun second => disjoint ⟨atFirst, second⟩
    rw [if_pos atFirst, if_pos atFirst, if_neg elsewhere,
      if_neg fun above => inside atFirst above.1]
  · by_cases atSecond : other <+: place
    · rw [if_neg atFirst, if_pos atSecond, if_neg atFirst, if_pos atSecond,
        if_neg fun above => outside atSecond above.1]
    · rw [if_neg atFirst, if_neg atSecond, if_neg atFirst, if_neg atSecond]
      split <;> split <;> rfl

end Document

/-! ## Changes -/

/-- What a change writes at its path, by what is found there. -/
def Change.written (mark : Nat) (found : Option Json) : Change → Except Update.Failure (Option Json)
  | .set _ value => .ok (some value)
  | .unset _ => .ok none
  | .increase path amount => (Update.increased mark path found amount).map some

namespace Update

variable {mark : Nat} {document updated : Document} {change : Change}

/-- A change writes at its path, unless it fails. -/
theorem applyChange_eq (mark : Nat) (document : Document) (change : Change) :
    applyChange mark document change =
      (change.written mark (document.lookup change.path)).map fun written =>
        Document.write (Document.segments change.path) written document := by
  cases change with
  | set path value =>
      rfl
  | unset path =>
      rfl
  | increase path amount =>
      rw [applyChange, Change.written, Change.path]
      cases increased mark path (document.lookup path) amount <;> rfl

/-- What a change writes does not depend on the members of an object that is found. -/
theorem written_bare (mark : Nat) (found : Option Json) (change : Change) :
    change.written mark (found.map Json.bare) = change.written mark found := by
  cases change with
  | increase path amount =>
      cases found with
      | none =>
          rfl
      | some value =>
          cases value <;> rfl
  | _ =>
      rfl

end Update
end DocumentGate
