import DocumentGate.Proofs.InsertedDocuments

/-!
# Identities under which tables keep documents

A cluster in memory compares what is shown of identities, and a table the texts under which it
keeps them.  The key of a string is read back as the string, and begins with a mark that no whole
number has in its text; the key of a whole number is what is shown of it.  So both kinds of store
take two identities for one exactly if they are of one kind and equal.
-/

namespace DocumentGate

namespace Identity

/-! ## Keys -/

/-- A whole number is kept under what is shown of it. -/
theorem key_number (value : Int) : key (number value) = shown (number value) := by
  rw [shown_number, ← String.toList_inj, Int.repr_eq_if]
  change (String.ofList (Number.writtenInteger value)).toList = _
  rw [String.toList_ofList, Number.writtenInteger]
  by_cases below : value < 0
  · have magnitude : value.natAbs = (-value).toNat := by
      omega
    rw [if_pos below, if_neg (Int.not_le.mpr below), String.toList_append,
      Nat.repr_eq_ofList_toDigits, magnitude]
    exact congrArg (['-'] ++ ·) String.toList_ofList.symm
  · have magnitude : value.natAbs = value.toNat := by
      omega
    rw [if_neg below, if_pos (Int.not_lt.mp below), Nat.repr_eq_ofList_toDigits,
      String.toList_ofList, magnitude, List.nil_append]

/-- The key of a string is read as the string. -/
theorem read_key_text (value : String) : Json.read (key (text value)) = .ok (.string value) :=
  Json.read_text ⟨rfl, rfl, trivial⟩

/-- No string is kept under the key of a whole number. -/
theorem key_text_ne (left : String) (value : Int) : key (text left) ≠ key (number value) := by
  intro same
  have member : '"' ∈ value.repr.toList := by
    rw [← shown_number, ← key_number, ← same, key, Json.text, String.toList_ofList]
    exact List.mem_cons_self
  have written := digits_of_mem_repr member
  revert written
  decide

/-- Identities that are kept under one key are the same. -/
theorem key_injective : Function.Injective key := by
  intro left right same
  cases left with
  | text left =>
      cases right with
      | text right =>
          have read := (read_key_text left).symm.trans
            ((congrArg Json.read same).trans (read_key_text right))
          exact congrArg text (Json.string.inj (Except.ok.inj read))
      | number right =>
          exact absurd same (key_text_ne left right)
  | number left =>
      cases right with
      | text right =>
          exact absurd same.symm (key_text_ne right left)
      | number right =>
          rw [key_number, key_number] at same
          exact shown_injective same

/-! ## Values -/

/-- Identities are the same if they are of one kind and their values are equal. -/
theorem eq_iff_values {first second : Identity} :
    first = second ↔ first.toValue.kindName = second.toValue.kindName ∧
      Json.equals first.toValue second.toValue = true := by
  constructor
  · rintro rfl
    refine ⟨rfl, ?_⟩
    cases first <;> exact beq_self_eq_true _
  · rintro ⟨-, equal⟩
    apply Store.Cluster.eq_of_meets
    cases first <;> cases second <;> exact equal

theorem value_of_of? {document : Document} {identity : Identity}
    (has : of? document = some identity) :
    ∃ found, Dictionary.get? "_id" document = some found ∧ ofValue? found = some identity :=
  Option.bind_eq_some_iff.mp has

/-! ## Duplicates -/

/-- Two documents to be inserted are refused where they are shown the same. -/
theorem ofValues_pair {left right : Document} {first second : Identity}
    (isFirst : of? left = some first) (isSecond : of? right = some second)
    (given : Identified.Given) :
    (Identified.ofValues [.object left, .object right] given).1 = .error .duplicate ↔
      first.shown = second.shown := by
  rcases value_of_of? isFirst with ⟨_, named, valid⟩
  rcases value_of_of? isSecond with ⟨_, alsoNamed, alsoValid⟩
  have made : [Json.object left, .object right].mapM Identified.ofValue given =
      (.ok [⟨first, left⟩, ⟨second, right⟩], given) := by
    have last : [Json.object right].mapM Identified.ofValue given =
        (.ok [⟨second, right⟩], given) := by
      rw [List.mapM_cons,
        Identified.run_bind_of_ok (Identified.ofValue_named alsoNamed alsoValid)]
      rfl
    rw [List.mapM_cons, Identified.run_bind_of_ok (Identified.ofValue_named named valid),
      Identified.run_bind_of_ok last]
    rfl
  have distinct : (([⟨first, left⟩, ⟨second, right⟩] : List Identified).map
      fun document => document.identity.shown).Nodup ↔ first.shown ≠ second.shown := by
    simp
  rw [Identified.ofValues, Identified.run_bind_of_ok made]
  split
  · rename_i different
    exact iff_of_false (fun refused => by cases refused) (distinct.mp different)
  · rename_i alike
    exact iff_of_true rfl (not_not.mp (mt distinct.mpr alike))

/-- A document is refused by a cluster that has one whose identity is shown the same. -/
theorem insert_single {cluster : Store.Cluster} {place : Store.Place} {left right : Document}
    {first : Identity} (stored : cluster.documents place = [left]) (isFirst : of? left = some first)
    (second : Identity) :
    cluster.insert place [⟨second, right⟩] = .error (.present second) ↔
      first.shown = second.shown := by
  have taken : Store.Cluster.firstTaken? [left] [⟨second, right⟩] =
      if first.shown = second.shown then some second else none := by
    by_cases same : first.shown = second.shown
    · simp [Store.Cluster.firstTaken?, Store.Cluster.shownIdentity, isFirst, same]
    · simp [Store.Cluster.firstTaken?, Store.Cluster.shownIdentity, isFirst, same, Ne.symm same]
  rw [Store.Cluster.insert, stored, taken]
  split_ifs with same
  · exact iff_of_true rfl same
  · exact iff_of_false id same

/-! ## Both stores -/

/-- Whatever compares two identities takes them for one exactly if they are. -/
structure ComparedAlike (first second : Identity) : Prop where
  shown : first.shown = second.shown ↔ first.key = second.key
  key : first.key = second.key ↔
    first.toValue.kindName = second.toValue.kindName ∧
      Json.equals first.toValue second.toValue = true
  /-- Documents that are to be inserted together are refused. -/
  together : ∀ left right given, of? left = some first → of? right = some second →
    ((Identified.ofValues [.object left, .object right] given).1 = .error .duplicate ↔
      first.key = second.key)
  /-- A document is refused by a cluster in memory that has the other one. -/
  after : ∀ (cluster : Store.Cluster) place left right, cluster.documents place = [left] →
    of? left = some first →
      (cluster.insert place [⟨second, right⟩] = .error (.present second) ↔
        first.key = second.key)

/-- What is shown of identities and what they are kept under tell them apart alike. -/
theorem comparedAlike (first second : Identity) : ComparedAlike first second := by
  have alike : first.shown = second.shown ↔ first.key = second.key :=
    shown_injective.eq_iff.trans key_injective.eq_iff.symm
  refine ⟨alike, key_injective.eq_iff.trans eq_iff_values, ?_, ?_⟩
  · intro left right given isFirst isSecond
    exact (ofValues_pair isFirst isSecond given).trans alike
  · intro cluster place left right stored isFirst
    exact (insert_single stored isFirst second).trans alike

/-- A number and the string of its digits are two identities. -/
example : (number 1).key = "1" ∧ (text "1").key = "\"1\"" := by
  decide +kernel

end Identity
end DocumentGate
