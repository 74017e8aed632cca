import DocumentGate.Proofs.ClusterIdentities

/-!
# Documents after an update

An update that is acknowledged is meant for the documents that the filter matches, or for the
first of them only.  Each of those is replaced by what the update makes of it, unless the two
are equal, and every other document stays.  The reply tells how many documents the update is
meant for, and how many of them it altered.

The equality of documents takes a boolean for the number one or zero.  So an update that puts
one of them in the place of the other is acknowledged and neither kept nor counted.  This is
the only change that gets lost: the statement for the equality that tells booleans from numbers
holds exactly where no such document is among those that the update is meant for.
-/

namespace DocumentGate

namespace Json

/-! ## Sameness -/

mutual
/-- The values are equal, and booleans are equal to booleans only, at every depth. -/
def same : Json → Json → Bool
  | .null, .null => true
  | .boolean left, .boolean right => left == right
  | .number left, .number right => left.equals right
  | .string left, .string right => left == right
  | .array left, .array right => elementsSame left right
  | .object left, .object right => left.length == right.length && membersSame left right
  | _, _ => false
termination_by structural left => left

/-- The lists have the same elements in the same order. -/
def elementsSame : List Json → List Json → Bool
  | [], [] => true
  | left :: lefts, right :: rights =>
    (isSameNan left right || same left right) && elementsSame lefts rights
  | _, _ => false
termination_by structural lefts => lefts

/-- Each member is the same as its counterpart among the members on the right. -/
def membersSame : List (String × Json) → List (String × Json) → Bool
  | [], _ => true
  | (key, left) :: lefts, rights =>
    (match Dictionary.get? key rights with
      | some right => isSameNan left right || same left right
      | none => false) &&
      membersSame lefts rights
termination_by structural lefts => lefts
end

/-! ## Values that are confused -/

/--
At the same place in two values one has a boolean and the other has a number.  The place is given
by positions in lists and by the names that the members on the left have.
-/
inductive Confuses : Json → Json → Prop
  | boolean (left : Bool) (right : Number) : Confuses (.boolean left) (.number right)
  | number (left : Number) (right : Bool) : Confuses (.number left) (.boolean right)
  | element {left right : Json} {lefts rights : List Json}
      (paired : (left, right) ∈ lefts.zip rights) (inside : Confuses left right) :
      Confuses (.array lefts) (.array rights)
  | member {name : String} {left right : Json} {lefts rights : Members}
      (named : (name, left) ∈ lefts) (found : Dictionary.get? name rights = some right)
      (inside : Confuses left right) : Confuses (.object lefts) (.object rights)

theorem confuses_array_iff {lefts rights : List Json} :
    Confuses (.array lefts) (.array rights) ↔
      ∃ pair ∈ lefts.zip rights, Confuses pair.1 pair.2 := by
  constructor
  · rintro (_ | _ | ⟨paired, inside⟩ | _)
    exact ⟨_, paired, inside⟩
  · rintro ⟨_, paired, inside⟩
    exact .element paired inside

theorem confuses_object_iff {lefts rights : Members} :
    Confuses (.object lefts) (.object rights) ↔
      ∃ member ∈ lefts, ∃ right, Dictionary.get? member.1 rights = some right ∧
        Confuses member.2 right := by
  constructor
  · rintro (_ | _ | _ | ⟨named, found, inside⟩)
    exact ⟨_, named, _, found, inside⟩
  · rintro ⟨_, named, _, found, inside⟩
    exact .member named found inside

/-- What is not a number is confused with nothing. -/
theorem not_confuses_of_isSameNan {left right : Json} (nan : isSameNan left right = true) :
    ¬Confuses left right := by
  rintro (_ | _ | _ | _) <;> simp [isSameNan] at nan

/-- Parts of values are the same where they are equal and nothing is confused. -/
theorem part_same_iff {left right : Json}
    (alike : same left right = true ↔ equals left right = true ∧ ¬Confuses left right) :
    (isSameNan left right || same left right) = true ↔
      (isSameNan left right || equals left right) = true ∧ ¬Confuses left right := by
  cases nan : isSameNan left right with
  | false =>
      simpa using alike
  | true =>
      simpa using not_confuses_of_isSameNan nan

mutual
/-- Values are the same where they are equal and nothing is confused. -/
theorem same_iff : ∀ {left right : Json},
    same left right = true ↔ equals left right = true ∧ ¬Confuses left right
  | .array lefts, .array rights => by
      rw [same, equals, elementsSame_iff, confuses_array_iff]
  | .object lefts, .object rights => by
      rw [same, equals, Bool.and_eq_true, Bool.and_eq_true, membersSame_iff, confuses_object_iff,
        and_assoc]
  | .boolean left, right => by
      cases right with
      | boolean right =>
          have separate : ¬Confuses (.boolean left) (.boolean right) := nofun
          rw [iff_true_intro separate, and_true]
          cases left <;> cases right <;> decide +kernel
      | number right =>
          have confused : Confuses (.boolean left) (.number right) := .boolean left right
          simp [same, confused]
      | _ =>
          simp [same, equals, number?]
  | .number left, right => by
      cases right with
      | boolean right =>
          have confused : Confuses (.number left) (.boolean right) := .number left right
          simp [same, confused]
      | number right =>
          have separate : ¬Confuses (.number left) (.number right) := nofun
          simp [same, equals, number?, separate]
      | _ =>
          simp [same, equals, number?]
  | .null, right => by
      have separate : ¬Confuses .null right := nofun
      cases right <;> simp [same, equals, separate]
  | .string left, right => by
      have separate : ¬Confuses (.string left) right := nofun
      cases right <;> simp [same, equals, separate]
  | .array lefts, .null | .array lefts, .boolean _ | .array lefts, .number _
  | .array lefts, .string _ | .array lefts, .object _ => by
      simp [same, equals]
  | .object lefts, .null | .object lefts, .boolean _ | .object lefts, .number _
  | .object lefts, .string _ | .object lefts, .array _ => by
      simp [same, equals]
termination_by structural left => left

theorem elementsSame_iff : ∀ {lefts rights : List Json},
    elementsSame lefts rights = true ↔
      elementsEqual lefts rights = true ∧ ¬∃ pair ∈ lefts.zip rights, Confuses pair.1 pair.2
  | [], [] => by simp [elementsSame, elementsEqual]
  | [], _ :: _ => by simp [elementsSame, elementsEqual]
  | _ :: _, [] => by simp [elementsSame, elementsEqual]
  | left :: lefts, right :: rights => by
      rw [elementsSame, elementsEqual, Bool.and_eq_true, Bool.and_eq_true, part_same_iff same_iff,
        elementsSame_iff, List.zip_cons_cons, List.exists_mem_cons_iff, not_or,
        and_and_and_comm]
termination_by structural lefts => lefts

theorem membersSame_iff : ∀ {lefts rights : List (String × Json)},
    membersSame lefts rights = true ↔
      membersEqual lefts rights = true ∧ ¬∃ member ∈ lefts, ∃ right,
        Dictionary.get? member.1 rights = some right ∧ Confuses member.2 right
  | [], rights => by simp [membersSame, membersEqual]
  | (key, left) :: lefts, rights => by
      rw [membersSame, membersEqual, Bool.and_eq_true, Bool.and_eq_true, membersSame_iff,
        List.exists_mem_cons_iff, not_or, and_and_and_comm]
      refine and_congr_left' ?_
      cases found : Dictionary.get? key rights with
      | none =>
          simp
      | some right =>
          simpa using part_same_iff same_iff
termination_by structural lefts => lefts
end

/-- Values that are the same are equal. -/
theorem equals_of_same {left right : Json} (alike : same left right = true) :
    equals left right = true :=
  (same_iff.mp alike).1

end Json

/-! ## Documents that an update is meant for -/

/-- The update makes of the document what is not equal to it. -/
def Update.alters (update : Update) (equal : Json → Json → Bool) (document : Document) : Bool :=
  match update.apply document with
  | .ok updated => !equal (.object updated) (.object document)
  | .error _ => false

theorem Update.alters_of_apply {update : Update} {document updated : Document}
    (applied : update.apply document = .ok updated) (equal : Json → Json → Bool) :
    update.alters equal document = !equal (.object updated) (.object document) := by
  rw [Update.alters, applied]

namespace Store.Cluster

/-- The positions of the documents that the filter matches, or that of the first one only. -/
def meant (filter : Filter) (many : Bool) (documents : List Document) : List Nat :=
  let matching := documents.findIdxs filter.matches
  if many then matching else matching.take 1

/--
What an update is said to have done to the documents at some positions: each of them is what the
update makes of it, or is kept where the two are equal, every other document is kept, and those
that the update alters are counted.
-/
structure Revises (equal : Json → Json → Bool) (update : Update) (positions : List Nat)
    (before : List Document) (revision : Revision) : Prop where
  matched : revision.matched = positions.length
  modified : revision.modified = positions.countP fun position =>
    before[position]?.any (update.alters equal)
  length : revision.documents.length = before.length
  others : ∀ position, position ∉ positions →
    revision.documents[position]? = before[position]?
  replaced : ∀ position ∈ positions, ∃ document updated,
    before[position]? = some document ∧ update.apply document = .ok updated ∧
      revision.documents[position]? =
        some (if equal (.object updated) (.object document) then document else updated)

/-! ## One document after the other -/

theorem length_meant (filter : Filter) (many : Bool) (documents : List Document) :
    (meant filter many documents).length =
      if many then documents.countP filter.matches
      else min 1 (documents.countP filter.matches) := by
  cases many <;> simp [meant]

theorem meant_cons (filter : Filter) (many : Bool) (document : Document) (rest : List Document) :
    meant filter many (document :: rest) =
      if filter.matches document then
        0 :: (if many then meant filter many rest else []).map Nat.succ
      else (meant filter many rest).map Nat.succ := by
  have shifted : rest.findIdxs filter.matches 1 = (rest.findIdxs filter.matches).map Nat.succ :=
    List.findIdxs_start
  rw [meant, meant, List.findIdxs_cons, shifted]
  by_cases met : filter.matches document = true
  · rw [if_pos met, if_pos met]
    cases many <;> rfl
  · rw [if_neg met, if_neg met]
    cases many with
    | false =>
        exact List.map_take.symm
    | true =>
        rfl

/-- Where fewer count among as many, none is left out. -/
theorem of_countP_eq {α : Type} {first second : α → Bool} {values : List α}
    (fewer : ∀ value ∈ values, first value = true → second value = true)
    (same : values.countP first = values.countP second) :
    ∀ value ∈ values, second value = true → first value = true := by
  have kept : values.filter first = values.filter second := by
    have part : (values.filter first).Sublist (values.filter second) := by
      have twice : values.filter first = (values.filter second).filter first := by
        rw [List.filter_filter]
        refine List.filter_congr fun value member => ?_
        cases holds : first value with
        | false =>
            rfl
        | true =>
            rw [fewer value member holds]
            rfl
      rw [twice]
      exact List.filter_sublist
    refine part.eq_of_length ?_
    rw [← List.countP_eq_length_filter, ← List.countP_eq_length_filter, same]
  intro value member holds
  have among : value ∈ values.filter first := by
    rw [kept]
    exact List.mem_filter.mpr ⟨member, holds⟩
  exact (List.mem_filter.mp among).2

namespace Revises

variable {equal other : Json → Json → Bool} {update : Update} {positions : List Nat}
  {document updated : Document} {before : List Document} {revision : Revision}

theorem nothing (before : List Document) : Revises equal update [] before ⟨before, 0, 0⟩ :=
  ⟨rfl, rfl, rfl, fun _ _ => rfl, nofun⟩

/-- A document that the update is not meant for stays in front of the others. -/
theorem pass (rest : Revises equal update positions before revision) (document : Document) :
    Revises equal update (positions.map Nat.succ) (document :: before)
      { revision with documents := document :: revision.documents } where
  matched := by
    rw [List.length_map]
    exact rest.matched
  modified := by
    rw [List.countP_map]
    exact rest.modified
  length := congrArg Nat.succ rest.length
  others position elsewhere := by
    cases position with
    | zero =>
        rfl
    | succ position =>
        exact rest.others position fun member => elsewhere (List.mem_map_of_mem member)
  replaced position member := by
    rcases List.mem_map.mp member with ⟨position, among, rfl⟩
    exact rest.replaced position among

/-- A document that the update is meant for is written in front of the others. -/
theorem write (rest : Revises equal update positions before revision)
    (applied : update.apply document = .ok updated) :
    Revises equal update (0 :: positions.map Nat.succ) (document :: before)
      (if equal (.object updated) (.object document) then
        ⟨document :: revision.documents, revision.matched + 1, revision.modified⟩
      else ⟨updated :: revision.documents, revision.matched + 1, revision.modified + 1⟩) := by
  have alters := Update.alters_of_apply applied equal
  have first : (if equal (.object updated) (.object document) then
        ⟨document :: revision.documents, revision.matched + 1, revision.modified⟩
      else ⟨updated :: revision.documents, revision.matched + 1, revision.modified + 1⟩) =
        (⟨(if equal (.object updated) (.object document) then document else updated) ::
          revision.documents, revision.matched + 1,
          revision.modified + if update.alters equal document then 1 else 0⟩ : Revision) := by
    rw [alters]
    cases equal (.object updated) (.object document) <;> rfl
  rw [first]
  constructor
  · rw [List.length_cons, List.length_map, rest.matched]
  · rw [List.countP_cons, List.countP_map, rest.modified]
    rfl
  · exact congrArg Nat.succ rest.length
  · intro position elsewhere
    cases position with
    | zero =>
        exact absurd List.mem_cons_self elsewhere
    | succ position =>
        refine rest.others position fun member => elsewhere ?_
        exact List.mem_cons_of_mem 0 (List.mem_map_of_mem member)
  · intro position member
    rcases List.mem_cons.mp member with rfl | later
    · exact ⟨document, updated, rfl, applied, rfl⟩
    · rcases List.mem_map.mp later with ⟨position, among, rfl⟩
      exact rest.replaced position among

/-- Equalities that agree on what the update is meant for say the same of it. -/
theorem congr (revises : Revises equal update positions before revision)
    (agree : ∀ position ∈ positions, ∀ document updated, before[position]? = some document →
      update.apply document = .ok updated →
        other (.object updated) (.object document) = equal (.object updated) (.object document)) :
    Revises other update positions before revision := by
  have alters : ∀ position ∈ positions, before[position]?.any (update.alters equal) =
      before[position]?.any (update.alters other) := by
    intro position member
    rcases revises.replaced position member with ⟨document, updated, found, applied, -⟩
    rw [found, Option.any_some, Option.any_some, Update.alters_of_apply applied,
      Update.alters_of_apply applied]
    exact congrArg not (agree position member document updated found applied).symm
  refine ⟨revises.matched, ?_, revises.length, revises.others, ?_⟩
  · rw [revises.modified]
    refine List.countP_congr fun position member => ?_
    rw [alters position member]
  · intro position member
    rcases revises.replaced position member with ⟨document, updated, found, applied, written⟩
    refine ⟨document, updated, found, applied, ?_⟩
    rw [written, agree position member document updated found applied]

/-- Nothing is another where nothing was altered. -/
theorem unaltered (revises : Revises equal update positions before revision)
    (none : revision.modified = 0) : revision.documents = before := by
  apply List.ext_getElem?
  intro position
  by_cases member : position ∈ positions
  · rcases revises.replaced position member with ⟨document, updated, found, applied, written⟩
    have kept := List.countP_eq_zero.mp (revises.modified.symm.trans none) position member
    rw [found, Option.any_some, Update.alters_of_apply applied] at kept
    have equal : equal (.object updated) (.object document) = true := by
      simpa using kept
    rw [written, if_pos equal, found]
  · exact revises.others position member

/-- Where an equality that identifies more tells the same, it identifies nothing more. -/
theorem agree (revises : Revises equal update positions before revision)
    (further : Revises other update positions before revision)
    (finer : ∀ left right, other left right = true → equal left right = true) :
    ∀ position ∈ positions, ∀ document updated, before[position]? = some document →
      update.apply document = .ok updated →
        equal (.object updated) (.object document) = true →
          other (.object updated) (.object document) = true := by
  have coarser : ∀ position ∈ positions, before[position]?.any (update.alters equal) = true →
      before[position]?.any (update.alters other) = true := by
    intro position member alters
    rcases revises.replaced position member with ⟨document, updated, found, applied, -⟩
    rw [found, Option.any_some, Update.alters_of_apply applied] at alters ⊢
    cases same : other (.object updated) (.object document) with
    | false =>
        rfl
    | true =>
        rw [finer _ _ same] at alters
        cases alters
  have counted := of_countP_eq coarser (revises.modified.symm.trans further.modified)
  intro position member document updated found applied same
  by_contra unlike
  have alters : before[position]?.any (update.alters other) = true := by
    rw [found, Option.any_some, Update.alters_of_apply applied]
    simpa using unlike
  have altered := counted position member alters
  rw [found, Option.any_some, Update.alters_of_apply applied, same] at altered
  cases altered

end Revises

/-- Updating documents does to them what the reply tells. -/
theorem revises_of_revise {filter : Filter} {update : Update} {many : Bool}
    {documents : List Document} {revision : Revision}
    (revised : revise filter update many documents = .ok revision) :
    Revises Json.equals update (meant filter many documents) documents revision := by
  induction documents generalizing revision with
  | nil =>
      obtain rfl := Except.ok.inj revised
      cases many <;> exact .nothing []
  | cons document rest ih =>
      rw [revise] at revised
      rw [meant_cons]
      split at revised
      · rename_i met
        rcases bind_eq_ok revised with ⟨updated, applied, revised⟩
        rw [if_pos met]
        have going : ∃ others, Revises Json.equals update
              (if many then meant filter many rest else []) rest others ∧
            (if Json.equals (.object updated) (.object document) then
              Except.ok ⟨document :: others.documents, others.matched + 1, others.modified⟩
            else .ok ⟨updated :: others.documents, others.matched + 1, others.modified + 1⟩) =
              (.ok revision : Except Update.Failure Revision) := by
          cases many with
          | false =>
              exact ⟨⟨rest, 0, 0⟩, .nothing rest, revised⟩
          | true =>
              rcases bind_eq_ok revised with ⟨others, further, revised⟩
              exact ⟨others, ih further, revised⟩
        rcases going with ⟨others, going, same⟩
        have written := going.write applied
        split at same <;>
          rename_i equal <;>
          obtain rfl := Except.ok.inj same
        · rwa [if_pos equal] at written
        · rwa [if_neg equal] at written
      · rename_i unmet
        rcases bind_eq_ok revised with ⟨others, further, revised⟩
        obtain rfl := Except.ok.inj revised
        rw [if_neg unmet]
        exact (ih further).pass document

/-! ## Updates that are acknowledged -/

/-- An update that is acknowledged was read, and it did what it does to the documents. -/
theorem perform_update_eq_ok {default : String} {place : Place} {filter update : Json}
    {many : Bool} {keeping after : Keeping} {matched modified : Nat}
    (acknowledged : perform default (.update place filter update many) keeping =
      (.ok (.changed matched modified), after)) :
    ∃ read changes revision, Filter.read filter = .ok read ∧ Update.read update = .ok changes ∧
      revise read changes many (keeping.cluster.documents place) = .ok revision ∧
      revision.matched = matched ∧ revision.modified = modified ∧
      (∀ other, other ≠ place → after.cluster.documents other = keeping.cluster.documents other) ∧
      after.cluster.documents place = revision.documents := by
  change keeping.settle (keeping.cluster.update place filter update many) = _ at acknowledged
  cases updated : keeping.cluster.update place filter update many with
  | error fault =>
      rw [updated] at acknowledged
      cases acknowledged
  | ok done =>
      rw [updated] at acknowledged
      rcases Prod.mk.inj acknowledged with ⟨replied, rfl⟩
      rcases bind_eq_ok updated with ⟨read, reads, updated⟩
      rcases bind_eq_ok updated with ⟨changes, accepts, updated⟩
      rcases bind_eq_ok updated with ⟨revision, revises, same⟩
      have revised := mapError_eq_ok revises
      obtain rfl := Except.ok.inj same
      obtain ⟨rfl, rfl⟩ := Reply.changed.inj (Except.ok.inj replied)
      refine ⟨read, changes, revision, mapError_eq_ok reads, mapError_eq_ok accepts, revised, rfl,
        rfl, ?_, ?_⟩
      · intro other elsewhere
        dsimp only
        split
        · rfl
        · rw [documents_withDocuments, if_neg (Ne.symm elsewhere)]
      · dsimp only
        split
        · rename_i none
          exact ((revises_of_revise revised).unaltered none).symm
        · rw [documents_withDocuments, if_pos rfl]

/-- What the reply to an update tells of the collection, for an equality of values. -/
def Tells (equal : Json → Json → Bool) (filter : Filter) (update : Update) (many : Bool)
    (before after : List Document) (matched modified : Nat) : Prop :=
  Revises equal update (meant filter many before) before ⟨after, matched, modified⟩

/-- What an update that was acknowledged did to a cluster. -/
structure Accounts (filter : Filter) (update : Update) (many : Bool) (place : Place)
    (before after : Cluster) (matched modified : Nat) : Prop where
  counted : matched =
    if many then (before.documents place).countP filter.matches
    else min 1 ((before.documents place).countP filter.matches)
  elsewhere : ∀ other, other ≠ place → after.documents other = before.documents other
  tells : Tells Json.equals filter update many (before.documents place) (after.documents place)
    matched modified
  /-- No change is lost exactly where no document equals what replaces it but is another. -/
  exact : Tells Json.same filter update many (before.documents place) (after.documents place)
      matched modified ↔
    ∀ position ∈ meant filter many (before.documents place), ∀ document updated,
      (before.documents place)[position]? = some document →
        update.apply document = .ok updated →
          Json.equals (.object updated) (.object document) = true →
            Json.same (.object updated) (.object document) = true

/--
An update that is acknowledged was done to the documents that the filter matches, or to the
first of them, by the equality that takes booleans for numbers.  It was done so by the equality
that does not exactly where none of these documents equals what the update makes of it without
being the same.
-/
theorem perform_update_accounts {default : String} {place : Place} {filter update : Json}
    {many : Bool} {keeping after : Keeping} {matched modified : Nat}
    (acknowledged : perform default (.update place filter update many) keeping =
      (.ok (.changed matched modified), after)) :
    ∃ read changes, Filter.read filter = .ok read ∧ Update.read update = .ok changes ∧
      Accounts read changes many place keeping.cluster after.cluster matched modified := by
  rcases perform_update_eq_ok acknowledged with
    ⟨read, changes, revision, reads, accepts, revised, rfl, rfl, others, here⟩
  have revises := revises_of_revise revised
  have tells : Tells Json.equals read changes many (keeping.cluster.documents place)
      (after.cluster.documents place) revision.matched revision.modified := by
    rw [here]
    exact revises
  refine ⟨read, changes, reads, accepts, ?_, others, tells, ?_, ?_⟩
  · rw [revises.matched, length_meant]
  · intro exact
    exact tells.agree exact fun left right => Json.equals_of_same
  · intro agree
    refine tells.congr fun position member document updated found applied => ?_
    rw [Bool.eq_iff_iff]
    exact ⟨Json.equals_of_same, agree position member document updated found applied⟩

/-- One collection with some documents. -/
def collected (documents : List Document) : Keeping :=
  ⟨[("shop", [("items", documents)])], 0⟩

/-- Set the member `a` of every document. -/
def setEvery (value : Json) : Call :=
  .update ⟨"shop", "items"⟩ (.object []) (.object [("$set", .object [("a", value)])]) true

/-- Two documents, one of which has the member `a` already. -/
def twoItems : List Document :=
  [[("_id", .string "one"), ("a", .string "new")], [("_id", .string "two")]]

theorem twoItems_accounts :
    (perform "test" (setEvery (.string "new")) (collected twoItems)).1 = .ok (.changed 2 1) ∧
      Accounts [] [.set "a" (.string "new")] true ⟨"shop", "items"⟩ (collected twoItems).cluster
        (perform "test" (setEvery (.string "new")) (collected twoItems)).2.cluster 2 1 := by
  have acknowledged :
      (perform "test" (setEvery (.string "new")) (collected twoItems)).1 = .ok (.changed 2 1) :=
    rfl
  rcases perform_update_accounts (Prod.ext acknowledged rfl) with
    ⟨read, changes, reads, accepts, accounts⟩
  obtain rfl := Except.ok.inj reads
  obtain rfl := Except.ok.inj accepts
  exact ⟨acknowledged, accounts⟩

/-- How many documents a reply says that were matched and modified. -/
def changes? : Except Fault Reply → Option (Nat × Nat)
  | .ok (.changed matched modified) => some (matched, modified)
  | _ => none

/-- One document, which has the number one under `a`. -/
def numbered : List Document :=
  [[("_id", .string "one"), ("a", .integer 1)]]

/-- The collection after `true` was set in the place of the number one. -/
def switched : Except Fault Reply × Keeping :=
  perform "test" (setEvery (.boolean true)) (collected numbered)

/-- The update is acknowledged, and the number stays. -/
theorem switched_not_same :
    changes? switched.1 = some (1, 0) ∧
      Json.elementsSame ((switched.2.cluster.documents ⟨"shop", "items"⟩).map .object)
        (numbered.map .object) = true ∧
      ¬ Tells Json.same [] [.set "a" (.boolean true)] true numbered
        (switched.2.cluster.documents ⟨"shop", "items"⟩) 1 0 := by
  refine ⟨by decide +kernel, by decide +kernel, fun tells => ?_⟩
  have counted := tells.modified
  revert counted
  decide +kernel

end Store.Cluster
end DocumentGate
