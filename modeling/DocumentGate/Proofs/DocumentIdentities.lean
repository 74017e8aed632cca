import DocumentGate.Proofs.Results
import DocumentGate.Store.Memory

/-!
# Identities of documents

Updating keeps what stands under `_id`, because no path of an update that can be read
begins with it.  Documents that are to be inserted have an identity, their own or one that
is given to them, and no two of them have the same.
-/

namespace DocumentGate

/-! ## Paths that lead elsewhere -/

/-- The first segment is the whole text, or a separator follows it. -/
theorem Text.segmentsOf_eq_cons (separator : Char) (characters : List Char) :
    ∃ first others, Text.segmentsOf separator characters = first :: others ∧
      (characters = first ∨ first ++ [separator] <+: characters) := by
  induction characters with
  | nil =>
      exact ⟨[], [], rfl, Or.inl rfl⟩
  | cons character rest ih =>
      rcases ih with ⟨first, others, split, whole⟩
      by_cases separates : character = separator
      · subst separates
        refine ⟨[], Text.segmentsOf character rest, by rw [Text.segmentsOf, if_pos rfl], ?_⟩
        exact Or.inr ⟨rest, rfl⟩
      · refine ⟨character :: first, others, ?_, ?_⟩
        · rw [Text.segmentsOf, if_neg separates, split]
        · rcases whole with rfl | follows
          · exact Or.inl rfl
          · exact Or.inr (List.prefix_cons_inj character |>.mpr follows)

/-- A path that is neither that of the identity nor below it begins with another name. -/
theorem Document.segments_eq_cons {path : String} (other : Update.isIdentityPath path = false) :
    ∃ name rest, Document.segments path = name :: rest ∧ name ≠ "_id" := by
  rcases Text.segmentsOf_eq_cons '.' path.toList with ⟨first, others, split, whole⟩
  refine ⟨String.ofList first, others.map String.ofList, ?_, ?_⟩
  · rw [Document.segments, Text.segments, split, List.map_cons]
  · intro identity
    have named : first = "_id".toList := by
      rw [← identity, String.toList_ofList]
    unfold Update.isIdentityPath at other
    rw [Bool.or_eq_false_iff] at other
    rcases whole with same | follows
    · apply (beq_eq_false_iff_ne.mp other.1)
      rw [← String.ofList_toList (s := path), same, identity]
    · rw [named] at follows
      have below := List.isPrefixOf_iff_prefix.mpr follows
      exact Bool.false_ne_true (other.2.symm.trans below)

namespace Document

variable {name asked : String} {document : Document}

/-- Assigning below a name keeps what stands under every other one. -/
theorem get?_assignAt (value : Json) (rest : List String) (other : name ≠ asked) :
    Dictionary.get? asked (assignAt value (name :: rest) document) =
      Dictionary.get? asked document := by
  cases rest with
  | nil =>
      rw [assignAt, Dictionary.get?_insert, if_neg other]
  | cons next rest =>
      rw [assignAt, Dictionary.get?_insert, if_neg other]
      exact List.cons_ne_nil next rest

/-- Removing below a name keeps what stands under every other one. -/
theorem get?_removeAt (rest : List String) (other : name ≠ asked) :
    Dictionary.get? asked (removeAt (name :: rest) document) =
      Dictionary.get? asked document := by
  cases rest with
  | nil =>
      rw [removeAt, Dictionary.get?_erase, if_neg other]
  | cons next rest =>
      rw [removeAt]
      · split
        · rw [Dictionary.get?_insert, if_neg other]
        · rfl
      · exact List.cons_ne_nil next rest

end Document

/-! ## Updates -/

/-- The path that a change is made at. -/
def Change.path : Change → String
  | .set path _ => path
  | .unset path => path
  | .increase path _ => path

/-- What stands under `_id` in a document. -/
def Document.identity? (document : Document) : Option Json :=
  Dictionary.get? "_id" document

namespace Update

/-- No change is made at or below the identity. -/
def SparesIdentity (update : Update) : Prop :=
  ∀ change ∈ update, isIdentityPath change.path = false

/-- What an operator makes of a field: the change is made at the path, with the value if any. -/
inductive MadeOf (path : String) : Json → Change → Prop
  | set (value : Json) : MadeOf path value (.set path value)
  | unset (value : Json) : MadeOf path value (.unset path)
  | increase (amount : Number) : MadeOf path (.number amount) (.increase path amount)

theorem madeOf_changeOf? {operator path : String} {operand : Json} {change : Change}
    {make : String → Json → Except Fault Change} (known : changeOf? operator = some make)
    (made : make path operand = .ok change) : MadeOf path operand change := by
  unfold changeOf? at known
  split at known
  · obtain rfl := Option.some.inj known
    rw [← Except.ok.inj made]
    exact .set operand
  · obtain rfl := Option.some.inj known
    rw [← Except.ok.inj made]
    exact .unset operand
  · obtain rfl := Option.some.inj known
    dsimp only at made
    split at made
    · rw [← Except.ok.inj made]
      exact .increase _
    · cases made
  · cases known

theorem MadeOf.path_eq {path : String} {operand : Json} {change : Change}
    (made : MadeOf path operand change) : change.path = path := by
  cases made <;> rfl

/-- The changes of an operator come from its fields, and none of them is made to the identity. -/
theorem mem_readOperator {operator : String} {given : Json} {update : Update} {change : Change}
    (read : readOperator operator given = .ok update) (member : change ∈ update) :
    ∃ fields path operand, given = .object fields ∧ (path, operand) ∈ fields ∧
      isIdentityPath path = false ∧ MadeOf path operand change := by
  unfold readOperator at read
  split at read
  · cases read
  · rename_i make known
    split at read
    · rename_i fields
      rcases bind_eq_ok read with ⟨changes, mapped, checked⟩
      split at checked
      · cases checked
      · rename_i spared
        obtain rfl := Except.ok.inj checked
        rcases mapM_eq_ok mapped change member with ⟨⟨path, operand⟩, among, made⟩
        rw [Bool.not_eq_true, List.any_eq_false] at spared
        exact ⟨fields, path, operand, rfl, among,
          Bool.eq_false_iff.mpr (spared (path, operand) among), madeOf_changeOf? known made⟩
    · cases read

/-- The changes of an update come from the fields of its operators. -/
theorem mem_read {value : Json} {update : Update} {change : Change}
    (accepted : read value = .ok update) (member : change ∈ update) :
    ∃ members operator fields path operand, value = .object members ∧
      (operator, Json.object fields) ∈ members ∧ (path, operand) ∈ fields ∧
      isIdentityPath path = false ∧ MadeOf path operand change := by
  unfold read at accepted
  split at accepted
  · cases accepted
  · rename_i members _
    rcases bind_eq_ok accepted with ⟨updates, mapped, same⟩
    obtain rfl := Except.ok.inj same
    rcases List.mem_flatten.mp member with ⟨part, among, inside⟩
    rcases mapM_eq_ok mapped part among with ⟨⟨operator, given⟩, listed, single⟩
    rcases mem_readOperator single inside with ⟨fields, path, operand, rfl, field, spared, made⟩
    exact ⟨members, operator, fields, path, operand, rfl, listed, field, spared, made⟩
  · cases accepted

/-- No update that can be read changes the identity. -/
theorem read_sparesIdentity {value : Json} {update : Update} (accepted : read value = .ok update) :
    update.SparesIdentity := by
  intro change member
  rcases mem_read accepted member with ⟨_, _, _, _, _, -, -, -, spared, made⟩
  rw [made.path_eq]
  exact spared

theorem identity?_applyChange {mark : Nat} {document updated : Document} {change : Change}
    (other : isIdentityPath change.path = false)
    (applied : applyChange mark document change = .ok updated) :
    updated.identity? = document.identity? := by
  rcases Document.segments_eq_cons other with ⟨name, rest, split, different⟩
  cases change with
  | set path value =>
      obtain rfl := Except.ok.inj applied
      rw [Change.path] at split
      rw [Document.identity?, Document.assign, split]
      exact Document.get?_assignAt value rest different
  | unset path =>
      obtain rfl := Except.ok.inj applied
      rw [Change.path] at split
      rw [Document.identity?, Document.remove, split]
      exact Document.get?_removeAt rest different
  | increase path amount =>
      rcases bind_eq_ok applied with ⟨total, -, same⟩
      obtain rfl := Except.ok.inj same
      rw [Change.path] at split
      rw [Document.identity?, Document.assign, split]
      exact Document.get?_assignAt total rest different

/-- An update that spares the identity leaves that of every document as it is. -/
theorem identity?_apply {update : Update} (spares : update.SparesIdentity)
    {document updated : Document} (applied : update.apply document = .ok updated) :
    updated.identity? = document.identity? := by
  refine foldlM_keeps (fun reached => reached.identity? = document.identity?)
    (fun change member before after changed kept => ?_) applied rfl
  exact (identity?_applyChange (spares change member) changed).trans kept

end Update

namespace Store.Cluster

/-- Updating documents leaves what stands under `_id` as it is, document by document. -/
theorem identity?_revise {filter : Filter} {update : Update} {many : Bool}
    (spares : update.SparesIdentity) {documents : List Document} {revision : Revision}
    (revised : revise filter update many documents = .ok revision) :
    revision.documents.map Document.identity? = documents.map Document.identity? := by
  induction documents generalizing revision with
  | nil =>
      obtain rfl := Except.ok.inj revised
      rfl
  | cons document rest ih =>
      rw [revise] at revised
      split at revised
      · rcases bind_eq_ok revised with ⟨updated, applied, revised⟩
        have here := Update.identity?_apply spares applied
        dsimp only at revised
        split at revised
        · rcases bind_eq_ok revised with ⟨others, further, revised⟩
          have there := ih further
          split at revised <;>
            obtain rfl := Except.ok.inj revised
          · rw [List.map_cons, List.map_cons, there]
          · rw [List.map_cons, List.map_cons, there, here]
        · -- Only the first document that the filter matches is updated.
          rw [pure_bind] at revised
          split at revised <;>
            obtain rfl := Except.ok.inj revised
          · rfl
          · rw [List.map_cons, List.map_cons, here]
      · rcases bind_eq_ok revised with ⟨others, further, revised⟩
        obtain rfl := Except.ok.inj revised
        rw [List.map_cons, List.map_cons, ih further]

end Store.Cluster

/-! ## Documents to be inserted -/

namespace Identified

/-- What is computed in steps comes from a value of the first one, and goes on from there. -/
theorem run_bind_eq_ok {First Last : Type} {first : ExceptT Fault (StateM Given) First}
    {next : First → ExceptT Fault (StateM Given) Last} {given after : Given} {result : Last}
    (ran : (first >>= next) given = (.ok result, after)) :
    ∃ value between, first given = (.ok value, between) ∧
      next value between = (.ok result, after) := by
  change ExceptT.bindCont next (first given).1 (first given).2 = (.ok result, after) at ran
  cases stepped : first given with
  | mk outcome between =>
      rw [stepped] at ran
      cases outcome with
      | error fault =>
          cases ran
      | ok value =>
          exact ⟨value, between, rfl, ran⟩

theorem run_bind_of_ok {First Last : Type} {first : ExceptT Fault (StateM Given) First}
    {given between : Given} {value : First} (ran : first given = (.ok value, between))
    (next : First → ExceptT Fault (StateM Given) Last) :
    (first >>= next) given = next value between := by
  change ExceptT.bindCont next (first given).1 (first given).2 = next value between
  rw [ran]
  rfl

/-- A document to be inserted has the identity that is kept beside it. -/
def IsProper (identified : Identified) : Prop :=
  Identity.of? identified.document = some identified.identity

theorem isProper_ofValue {value : Json} {given after : Given} {identified : Identified}
    (made : ofValue value given = (.ok identified, after)) : identified.IsProper := by
  cases value with
  | object members =>
      rw [ofValue] at made
      cases found : Dictionary.get? "_id" members with
      | some present =>
          rw [found] at made
          cases valid : Identity.ofValue? present with
          | some identity =>
              simp only [valid] at made
              obtain rfl := Except.ok.inj (Prod.mk.inj made).1
              rw [IsProper, Identity.of?, found]
              exact valid
          | none =>
              simp only [valid] at made
              cases made
      | none =>
          rw [found] at made
          rcases run_bind_eq_ok made with ⟨_, counted, -, made⟩
          rcases run_bind_eq_ok made with ⟨number, _, -, made⟩
          obtain rfl := Except.ok.inj (Prod.mk.inj made).1
          rw [IsProper, Identity.of?, Dictionary.get?_insert, if_pos rfl]
          rfl
  | _ =>
      cases made

theorem isProper_mapM_ofValue {values : List Json} {given after : Given}
    {documents : List Identified} (made : values.mapM ofValue given = (.ok documents, after)) :
    ∀ identified ∈ documents, identified.IsProper := by
  induction values generalizing given after documents with
  | nil =>
      rw [List.mapM_nil] at made
      obtain rfl := Except.ok.inj (Prod.mk.inj made).1
      simp
  | cons value rest ih =>
      rw [List.mapM_cons] at made
      rcases run_bind_eq_ok made with ⟨first, between, single, made⟩
      rcases run_bind_eq_ok made with ⟨others, last, further, made⟩
      obtain rfl := Except.ok.inj (Prod.mk.inj made).1
      exact List.forall_mem_cons.mpr ⟨isProper_ofValue single, ih further⟩

theorem identities_of_proper {documents : List Identified}
    (proper : ∀ document ∈ documents, document.IsProper) :
    (documents.map (·.document)).map Identity.of? = (documents.map (·.identity)).map some := by
  rw [List.map_map, List.map_map]
  exact List.map_congr_left proper

/-- Documents to be inserted have identities, which differ from each other. -/
theorem ofValues_eq_ok {values : List Json} {given after : Given}
    {documents : List Identified} (made : ofValues values given = (.ok documents, after)) :
    (∀ identified ∈ documents, identified.IsProper) ∧
      (documents.map (·.identity)).Nodup := by
  rw [ofValues] at made
  rcases run_bind_eq_ok made with ⟨mapped, between, proper, made⟩
  split at made
  · rename_i distinct
    obtain rfl := Except.ok.inj (Prod.mk.inj made).1
    have shown : ((mapped.map (·.identity)).map Identity.shown).Nodup := by
      rw [List.map_map]
      exact distinct
    exact ⟨isProper_mapM_ofValue proper,
      List.Pairwise.of_map Identity.shown (fun _ _ => mt (congrArg _)) shown⟩
  · cases made

end Identified
end DocumentGate
