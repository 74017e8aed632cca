import DocumentGate.Proofs.ClusterIdentities
import DocumentGate.Proofs.Exchanges
import DocumentGate.Proofs.WholeDocuments

/-!
# Updates in memory and in tables

A cluster in memory and a server with tables are given the same documents and the same update
of all of them.  The one goes through its documents by position.  The other takes them from the
texts in the rows that it has locked, and sends back a key and a text for each document that has
become another one.

Where all numbers are whole and no document outgrows what is written, the two reply alike.  The
rows that are sent are those of the documents that are replaced in memory, in their order.  An
update that fails in the middle fails at the same document, and nothing is kept or sent.
-/

namespace DocumentGate

open Store (Cluster)

/-! ## One document -/

/-- The document as the row of a table. -/
def Identified.row (held : Identified) : Postgres.Row :=
  [("_id", .string held.identity.key), ("doc", .string (Json.text (.object held.document)))]

/-- The key and the text of what has come for a document, if the two are not equal. -/
def Identified.replacedBy (held : Identified) (document : Document) : Option (String × String) :=
  if Json.equals (.object document) (.object held.document) then none
  else some (held.identity.key, Json.text (.object document))

/-- The keys and the texts of what has come for documents, where it is not equal to them. -/
def replacedRows (before : List Identified) (after : List Document) : List (String × String) :=
  (List.zipWith Identified.replacedBy before after).filterMap id

/-- The document can be stored, and so can be written what the update makes of it. -/
structure Identified.Bears (update : Update) (held : Identified) : Prop where
  storable : (Json.object held.document).IsStorable
  fits : ∀ updated, update.apply held.document = .ok updated →
    (Json.object updated).hasOversizedNumber = false

theorem Identified.replacedBy_self {held : Identified}
    (storable : (Json.object held.document).IsStorable) : held.replacedBy held.document = none := by
  rw [replacedBy, Json.equals_self storable, if_pos rfl]

/-- Documents are not replaced by themselves. -/
theorem replacedRows_self {before : List Identified}
    (storable : ∀ held ∈ before, (Json.object held.document).IsStorable) :
    replacedRows before (before.map (·.document)) = [] := by
  induction before with
  | nil =>
      rfl
  | cons held rest ih =>
      have here := Identified.replacedBy_self (storable held List.mem_cons_self)
      have there := ih fun other member => storable other (List.mem_cons_of_mem held member)
      rw [replacedRows] at there ⊢
      rw [List.map_cons, List.zipWith_cons_cons, here, List.filterMap_cons_none rfl, there]

namespace Postgres

/-! ## Rows -/

/-- What is sent for a document, or why the update cannot be made to it. -/
def changeOf (update : Update) (held : Identified) : Except Failure (Option (String × String)) :=
  ((update.apply held.document).map held.replacedBy).mapError fun cause => .other cause.message

theorem decodeMapping_text {document : Document} (storable : (Json.object document).IsStorable) :
    decodeMapping (.string (Json.text (.object document))) =
      .ok (⟨document, []⟩, .object document) := by
  rw [decodeMapping, Json.read_text storable]
  rfl

theorem written_plain (members : Json.Members) : (Held.mk members []).written = members := by
  simp [Held.written]

/-- A row is dealt with as the document in it. -/
theorem changedRow_row {update : Update} {held : Identified} (bears : held.Bears update)
    (link : Link) : changedRow update held.row link = (changeOf update held, link) := by
  have decoded : (column "doc" held.row).bind decodeMapping =
      .ok (⟨held.document, []⟩, .object held.document) :=
    decodeMapping_text bears.storable
  unfold changedRow changeOf
  rw [decoded]
  refine (bind_of_ok rfl).trans ?_
  cases applied : update.apply held.document with
  | error cause =>
      refine (bind_of_error (orFailure_of_error applied link)).trans ?_
      rfl
  | ok updated =>
      refine (bind_of_ok (orFailure_of_ok applied link)).trans ?_
      dsimp only [Except.map, Except.mapError, Identified.replacedBy]
      split
      · rfl
      · refine (bind_of_ok rfl).trans ?_
        rw [written_plain, Json.write?, bears.fits updated applied]
        rfl

theorem mapM_changedRow {update : Update} {before : List Identified}
    (bears : ∀ held ∈ before, held.Bears update) (link : Link) :
    (before.map Identified.row).mapM (changedRow update) link =
      (before.mapM (changeOf update), link) := by
  induction before with
  | nil =>
      rfl
  | cons held rest ih =>
      rw [List.map_cons, List.mapM_cons, List.mapM_cons]
      have here := changedRow_row (bears held List.mem_cons_self) link
      have there := ih fun other member => bears other (List.mem_cons_of_mem held member)
      cases made : changeOf update held with
      | error failure =>
          rw [made] at here
          rw [bind_of_error here]
          rfl
      | ok change =>
          rw [made] at here
          rw [bind_of_ok here]
          cases further : rest.mapM (changeOf update) with
          | error failure =>
              rw [further] at there
              rw [bind_of_error there]
              rfl
          | ok changes =>
              rw [further] at there
              rw [bind_of_ok there]
              rfl

/-! ## All rows -/

/-- The requests by which rows are replaced: one for all of them, and none without rows. -/
def replacing (table : String) (rows : List (String × String)) : List Request :=
  if rows.isEmpty then [] else [.executeMany (replaceStatement table) rows]

/-- The request by which the rows are locked. -/
def Selection.locking (selection : Selection) : Request :=
  .fetch (selection.lockStatement true) selection.parameters

section Updates

variable {selection : Selection} {update : Update} {before : List Identified} {link : Link}
  {outcome : Outcome} {rest : List (Except Failure Outcome)}

/-- The link delivers the documents, and fails at nothing that is sent for them. -/
structure Link.Delivers (before : List Identified) (link : Link) : Prop where
  acquired : link.acquiring = none
  sound : link.broken = none
  delivered : ∃ outcome rest, link.answers = .ok outcome :: rest ∧
    outcome.rows = before.map Identified.row ∧ ∀ failure, rest.head? ≠ some (.error failure)

/-- The rows are locked and read first. -/
theorem fetch_of_delivers (delivers : link.Delivers before) :
    fetch (selection.lockStatement true) selection.parameters (link.asked .begin) =
      (.ok (before.map Identified.row), (link.asked .begin).answered selection.locking) := by
  rcases delivers.delivered with ⟨outcome, rest, answers, rows, -⟩
  have same : (link.asked .begin).answers = .ok outcome :: rest := answers
  have asked : ask selection.locking (link.asked .begin) = _ :=
    ask_of_head delivers.sound (by simp [same])
  rw [same] at asked
  refine (bind_of_ok asked).trans ?_
  rw [← rows]
  rfl

/-- What is sent for the rows is accepted. -/
theorem replace_of_delivers (delivers : link.Delivers before) (rows : List (String × String))
    (counts : Nat × Nat) :
    ∃ after : Link, (do
        unless rows.isEmpty do
          executeMany (replaceStatement selection.table) rows
        return counts : Exchange (Nat × Nat))
        ((link.asked .begin).answered selection.locking) = (.ok counts, after) ∧
      after.requests = link.requests ++ ([.begin, selection.locking] ++
        replacing selection.table rows) := by
  rcases delivers.delivered with ⟨outcome, rest, answers, -, served⟩
  have left : ((link.asked .begin).answered selection.locking).answers = rest :=
    congrArg List.tail answers
  cases rows with
  | nil =>
      refine ⟨_, rfl, ?_⟩
      simp [Link.answered, Link.asked, replacing]
  | cons first others =>
      refine ⟨_, bind_of_ok (bind_of_ok (ask_of_head delivers.sound (by rwa [left]))), ?_⟩
      simp [Link.answered, Link.asked, replacing]

/-- Where the update can be made to every document, the rows of those it alters are sent. -/
theorem updateRows_of_ok (delivers : link.Delivers before)
    (bears : ∀ held ∈ before, held.Bears update) {changes : List (Option (String × String))}
    (made : before.mapM (changeOf update) = .ok changes) :
    ∃ after : Link, updateRows selection update true link =
        (.ok (before.length, (changes.filterMap id).length), after) ∧
      after.requests = link.requests ++ ([.begin, selection.locking] ++
        replacing selection.table (changes.filterMap id) ++ [.commit]) := by
  have mapped := mapM_changedRow bears ((link.asked .begin).answered selection.locking)
  rw [made] at mapped
  rcases replace_of_delivers delivers (changes.filterMap id)
    (before.length, (changes.filterMap id).length) with ⟨after, replaced, requests⟩
  refine ⟨after.asked .commit, ?_, ?_⟩
  · refine tryCatch_of_ok (transaction_of_ok ?_)
    refine (bind_of_ok (fetch_of_delivers delivers)).trans ?_
    refine (bind_of_ok mapped).trans ?_
    rw [← List.length_map Identified.row] at replaced ⊢
    exact replaced
  · rw [Link.asked, requests]
    simp

/-- Where the update cannot be made to some document, nothing is sent. -/
theorem updateRows_of_error (delivers : link.Delivers before)
    (bears : ∀ held ∈ before, held.Bears update) {message : String}
    (failed : before.mapM (changeOf update) = .error (.other message)) :
    ∃ after : Link, updateRows selection update true link = (.error (.other message), after) ∧
      after.requests = link.requests ++ [.begin, selection.locking, .rollback] := by
  have mapped := mapM_changedRow bears ((link.asked .begin).answered selection.locking)
  rw [failed] at mapped
  refine ⟨((link.asked .begin).answered selection.locking).asked .rollback, ?_, ?_⟩
  · refine orWhereMissing_of_other (transaction_of_error ?_)
    exact (bind_of_ok (fetch_of_delivers delivers)).trans (bind_of_error mapped)
  · simp [Link.answered, Link.asked]

end Updates

end Postgres

/-! ## All documents -/

/-- Every document is updated, one after the other. -/
theorem revise_all_cons (update : Update) (document : Document) (rest : List Document) :
    Cluster.revise [] update true (document :: rest) = (do
      let updated ← update.apply document
      let others ← Cluster.revise [] update true rest
      return if Json.equals (.object updated) (.object document) then
          ⟨document :: others.documents, others.matched + 1, others.modified⟩
        else ⟨updated :: others.documents, others.matched + 1, others.modified + 1⟩) := by
  rw [Cluster.revise, if_pos (by rfl)]
  refine bind_congr fun updated => ?_
  rw [if_pos rfl]
  refine bind_congr fun others => ?_
  split <;> rfl

theorem changeOf_of_ok {update : Update} {held : Identified} {updated : Document}
    (applied : update.apply held.document = .ok updated) :
    Postgres.changeOf update held = .ok (held.replacedBy updated) := by
  rw [Postgres.changeOf, applied]
  rfl

/-- What comes for documents in memory is what is sent for them. -/
theorem changes_of_revise {update : Update} {before : List Identified} {revision : Cluster.Revision}
    (bears : ∀ held ∈ before, held.Bears update)
    (revised : Cluster.revise [] update true (before.map (·.document)) = .ok revision) :
    before.mapM (Postgres.changeOf update) =
        .ok (List.zipWith Identified.replacedBy before revision.documents) ∧
      revision.documents.length = before.length ∧ revision.matched = before.length ∧
      revision.modified = (replacedRows before revision.documents).length := by
  induction before generalizing revision with
  | nil =>
      obtain rfl := Except.ok.inj revised
      exact ⟨rfl, rfl, rfl, rfl⟩
  | cons held rest ih =>
      rw [List.map_cons, revise_all_cons] at revised
      rcases bind_eq_ok revised with ⟨updated, applied, revised⟩
      rcases bind_eq_ok revised with ⟨others, further, revised⟩
      rcases ih (fun other member => bears other (List.mem_cons_of_mem held member)) further with
        ⟨changes, length, matched, modified⟩
      rw [List.mapM_cons, changeOf_of_ok applied, changes]
      obtain rfl := Except.ok.inj revised
      unfold replacedRows at modified ⊢
      split
      · rename_i equal
        -- The document that is kept counts as replaced by neither store.
        have self := Identified.replacedBy_self (bears held List.mem_cons_self).storable
        have here : held.replacedBy updated = held.replacedBy held.document :=
          self ▸ if_pos equal
        refine ⟨?_, ?_, ?_, ?_⟩
        · rw [here]
          rfl
        · rw [List.length_cons, List.length_cons, length]
        · rw [List.length_cons, ← matched]
        · rw [List.zipWith_cons_cons, self, List.filterMap_cons_none rfl, ← modified]
      · rename_i different
        have here : held.replacedBy updated =
            some (held.identity.key, Json.text (.object updated)) := if_neg different
        refine ⟨rfl, ?_, ?_, ?_⟩
        · rw [List.length_cons, List.length_cons, length]
        · rw [List.length_cons, ← matched]
        · rw [List.zipWith_cons_cons, here, List.filterMap_cons]
          exact congrArg (· + 1) modified

/-- An update that fails in memory fails in tables, at the same document. -/
theorem changes_of_failure {update : Update} {before : List Identified} {cause : Update.Failure}
    (failed : Cluster.revise [] update true (before.map (·.document)) = .error cause) :
    before.mapM (Postgres.changeOf update) = .error (.other cause.message) ∧
      ∃ held ∈ before, update.apply held.document = .error cause := by
  induction before with
  | nil =>
      cases failed
  | cons held rest ih =>
      rw [List.map_cons, revise_all_cons] at failed
      rw [List.mapM_cons]
      cases applied : update.apply held.document with
      | error stop =>
          rw [applied] at failed
          obtain rfl := Except.error.inj failed
          have made : Postgres.changeOf update held = .error (.other stop.message) := by
            rw [Postgres.changeOf, applied]
            rfl
          rw [made]
          exact ⟨rfl, held, List.mem_cons_self, applied⟩
      | ok updated =>
          rw [applied] at failed
          cases further : Cluster.revise [] update true (rest.map (·.document)) with
          | error stop =>
              rw [further] at failed
              obtain rfl := Except.error.inj failed
              rcases ih further with ⟨changes, origin, among, refused⟩
              rw [changeOf_of_ok applied, changes]
              exact ⟨rfl, origin, List.mem_cons_of_mem held among, refused⟩
          | ok others =>
              rw [further] at failed
              cases failed

/-! ## Both stores -/

/-- What a call did to a store in memory and to one with tables. -/
structure UpdatedAlike (before : List Identified) (selection : Postgres.Selection)
    (place : Store.Place) (keeping : Cluster.Keeping) (link : Postgres.Link)
    (memory : Except Store.Fault Store.Reply × Cluster.Keeping)
    (tables : Except Store.Fault Store.Reply × Postgres.Dealing) : Prop where
  /-- The replies are the same, or the messages are. -/
  replies : memory.1.mapError Store.Fault.message = tables.1.mapError Store.Fault.message
  /-- Both stores refuse, and neither fails in another way. -/
  refusals : ∀ fault, memory.1 = .error fault ∨ tables.1 = .error fault → fault.isRefusal = true
  /-- The rows that are sent are those of the documents that were replaced in memory. -/
  sent : ∀ reply, memory.1 = .ok reply →
    let rows := replacedRows before (memory.2.cluster.documents place)
    reply = .changed before.length rows.length ∧
      (memory.2.cluster.documents place).length = before.length ∧
      tables.2.link.requests = link.requests ++ ([.begin, selection.locking] ++
        Postgres.replacing selection.table rows ++ [.commit])
  /-- Nothing is kept in memory, and no row is sent, where the update fails. -/
  unwritten : ∀ fault, memory.1 = .error fault → memory.2 = keeping ∧
    (tables.2.link.requests = link.requests ∨
      tables.2.link.requests = link.requests ++ [.begin, selection.locking, .rollback])

/-- What an update of all documents does in memory. -/
theorem perform_update_all (default : String) (place : Store.Place) {value : Json}
    {update : Update} (accepted : Update.read value = .ok update) (keeping : Cluster.Keeping) :
    Cluster.perform default (.update place (.object []) value true) keeping =
      keeping.settle (((Cluster.revise [] update true
        (keeping.cluster.documents place)).mapError .failure).map fun revision =>
          (.changed revision.matched revision.modified,
            if revision.modified = 0 then keeping.cluster
            else keeping.cluster.withDocuments place revision.documents)) := by
  have read : Cluster.readUpdate value = .ok update := by
    rw [Cluster.readUpdate, accepted]
    rfl
  have filter : Cluster.readFilter (.object []) = .ok [] := rfl
  rw [Cluster.perform, Cluster.update, filter, read]
  dsimp only [bind, Except.bind]
  cases Cluster.revise [] update true (keeping.cluster.documents place) <;> rfl

/-- What an update of all documents does in tables. -/
theorem Postgres.perform_update_all {connection : Postgres.Connection} {place : Store.Place}
    {value : Json} {update : Update} {selection : Postgres.Selection} {dealing : Postgres.Dealing}
    {result : Except Postgres.Failure (Nat × Nat)} {after : Postgres.Link}
    (isOpen : connection.closed = false) (acquired : dealing.link.acquiring = none)
    (accepted : Update.read value = .ok update)
    (selected : Postgres.select place (.object []) = .ok selection)
    (ran : Postgres.updateRows selection update true dealing.link = (result, after)) :
    Postgres.perform connection (.update place (.object []) value true) dealing =
      ((result.mapError fun failure => .server failure.message).map
        fun (matched, modified) => .changed matched modified, { dealing with link := after }) := by
  rw [Postgres.perform, accepted, selected]
  simp only [Except.mapError, bind, Except.bind, pure, Except.pure, Postgres.continuing,
    Postgres.holding, isOpen, acquired, ran, Bool.false_eq_true, if_false]

/-- Documents at other places stay, and so do those here where nothing is modified. -/
theorem replacedRows_revised {before : List Identified} {place : Store.Place} {cluster : Cluster}
    {revision : Cluster.Revision}
    (storable : ∀ held ∈ before, (Json.object held.document).IsStorable)
    (stored : cluster.documents place = before.map (·.document))
    (length : revision.documents.length = before.length)
    (modified : revision.modified = (replacedRows before revision.documents).length) :
    let revised := if revision.modified = 0 then cluster
      else cluster.withDocuments place revision.documents
    (revised.documents place).length = before.length ∧
      replacedRows before (revised.documents place) = replacedRows before revision.documents := by
  dsimp only
  split
  · rename_i none
    rw [stored, replacedRows_self storable, List.length_map]
    exact ⟨rfl, (List.length_eq_zero_iff.mp (modified ▸ none)).symm⟩
  · rw [Cluster.documents_withDocuments, if_pos rfl]
    exact ⟨length, rfl⟩

/--
A cluster in memory and a server with tables that hold the same documents deal alike with an
update of all of them.
-/
theorem perform_updatesAlike {default : String} {place : Store.Place} {value : Json}
    {before : List Identified} {selection : Postgres.Selection} {connection : Postgres.Connection}
    {keeping : Cluster.Keeping} {dealing : Postgres.Dealing}
    (stored : keeping.cluster.documents place = before.map (·.document))
    (delivers : dealing.link.Delivers before) (isOpen : connection.closed = false)
    (selected : Postgres.select place (.object []) = .ok selection)
    (storable : ∀ held ∈ before, (Json.object held.document).IsStorable)
    (whole : value.isWhole = true)
    (fits : ∀ update, Update.read value = .ok update → ∀ held ∈ before, ∀ updated,
      update.apply held.document = .ok updated →
        (Json.object updated).hasOversizedNumber = false) :
    UpdatedAlike before selection place keeping dealing.link
      (Cluster.perform default (.update place (.object []) value true) keeping)
      (Postgres.perform connection (.update place (.object []) value true) dealing) := by
  cases accepted : Update.read value with
  | error fault =>
      have inMemory : Cluster.perform default (.update place (.object []) value true) keeping =
          (.error (.update fault), keeping) := by
        rw [Cluster.perform, Cluster.update, Cluster.readUpdate, accepted]
        rfl
      have inTables : Postgres.perform connection (.update place (.object []) value true) dealing =
          (.error (.update fault), dealing) := by
        rw [Postgres.perform, accepted]
        rfl
      rw [inMemory, inTables]
      refine ⟨rfl, ?_, ?_, fun fault _ => ⟨rfl, Or.inl rfl⟩⟩
      · rintro fault (refused | refused) <;>
          rw [← Except.error.inj refused] <;> rfl
      · intro reply replied
        cases replied
  | ok update =>
      have bears : ∀ held ∈ before, held.Bears update :=
        fun held member => ⟨storable held member, fits update accepted held member⟩
      have inMemory := perform_update_all default place accepted keeping
      rw [stored] at inMemory
      cases revised : Cluster.revise [] update true (before.map (·.document)) with
      | error cause =>
          rcases changes_of_failure revised with ⟨changes, held, among, refused⟩
          rcases Update.apply_whole (storable held among).whole (Update.isWhole_read accepted whole)
            refused with ⟨path, rfl⟩
          rcases Postgres.updateRows_of_error delivers bears changes with ⟨after, ran, requests⟩
          have inTables :=
            Postgres.perform_update_all isOpen delivers.acquired accepted selected ran
          rw [revised] at inMemory
          rw [inMemory, inTables]
          refine ⟨rfl, ?_, ?_, fun fault _ => ⟨rfl, Or.inr requests⟩⟩
          · rintro fault (refused | refused) <;>
              rw [← Except.error.inj refused] <;> rfl
          · intro reply replied
            cases replied
      | ok revision =>
          rcases changes_of_revise bears revised with ⟨changes, length, matched, modified⟩
          rcases Postgres.updateRows_of_ok delivers bears changes with ⟨after, ran, requests⟩
          have inTables :=
            Postgres.perform_update_all isOpen delivers.acquired accepted selected ran
          rcases replacedRows_revised storable stored length modified with ⟨kept, rows⟩
          rw [revised] at inMemory
          rw [inMemory, inTables]
          refine ⟨?_, ?_, ?_, ?_⟩
          · change Except.ok (Store.Reply.changed revision.matched revision.modified) =
              Except.ok (Store.Reply.changed before.length
                (replacedRows before revision.documents).length)
            rw [matched, modified]
          · rintro fault (refused | refused) <;> cases refused
          · intro reply replied
            obtain rfl := Except.ok.inj replied
            dsimp only [Cluster.Keeping.settle, Except.map, Except.mapError]
            refine ⟨?_, kept, ?_⟩
            · rw [rows, matched, modified]
            · rw [rows]
              exact requests
          · intro fault failed
            cases failed

/-- Two documents in the order in which they were inserted. -/
def twoCounts : List Identified :=
  [⟨.text "a", [("_id", .string "a"), ("n", .integer 5)]⟩,
    ⟨.number 2, [("_id", .integer 2), ("n", .integer 1)]⟩]

/-- The update that sets the count of every document to five. -/
def countToFive : Json :=
  .object [("$set", .object [("n", .integer 5)])]

/-- Where the documents are kept. -/
def countsPlace : Store.Place :=
  ⟨"test", "items"⟩

/-- A cluster with the two documents. -/
def keepingCounts : Cluster.Keeping :=
  ⟨Cluster.withDocuments [] countsPlace (twoCounts.map (·.document)), 0⟩

/-- A server that delivers the two documents and accepts what is sent for them. -/
def dealingCounts : Postgres.Dealing :=
  ⟨{ answers := [.ok { rows := twoCounts.map Identified.row }, .ok {}] }, 0⟩

/-- Only the second document becomes another one, and only its row is sent. -/
theorem twoCounts_updatedAlike :
    UpdatedAlike twoCounts ⟨"\"test\".\"items\"", "TRUE", []⟩ countsPlace keepingCounts
        dealingCounts.link
        (Cluster.perform "test" (.update countsPlace (.object []) countToFive true) keepingCounts)
        (Postgres.perform { default := "test" }
          (.update countsPlace (.object []) countToFive true) dealingCounts) ∧
      replacedRows twoCounts ((Cluster.perform "test"
        (.update countsPlace (.object []) countToFive true)
        keepingCounts).2.cluster.documents countsPlace) =
          [("2", "\x7b\"_id\": 2, \"n\": 5\x7d")] := by
  have storable : ∀ held ∈ twoCounts, (Json.object held.document).IsStorable := by
    simp only [twoCounts, List.forall_mem_cons, List.not_mem_nil, false_implies, implies_true,
      and_true]
    refine ⟨⟨rfl, by decide +kernel, ?_⟩, ⟨rfl, by decide +kernel, ?_⟩⟩ <;>
      simp [Json.HasDistinctKeys, Json.MembersHaveDistinctKeys, Json.integer]
  refine ⟨perform_updatesAlike rfl ⟨rfl, rfl, _, _, rfl, rfl, ?_⟩ rfl ?_ storable rfl ?_, ?_⟩
  · intro failure served
    cases Option.some.inj served
  · rfl
  · intro update read held member updated applied
    obtain rfl := Except.ok.inj read
    simp only [twoCounts, List.mem_cons, List.not_mem_nil, or_false] at member
    rcases member with rfl | rfl <;>
      rw [← Except.ok.inj applied] <;> decide +kernel
  · decide +kernel

end DocumentGate
