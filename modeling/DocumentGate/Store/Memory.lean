import DocumentGate.Store.Call

/-!
# Clusters in memory

A cluster keeps its documents in memory and is shared by every connection to it.
Databases and collections come into being when documents are inserted.  A call that is
refused leaves the cluster as it was: every check and every change of a document is
done before anything is kept.
-/

namespace DocumentGate.Store

/-- The collections of a database. -/
abbrev Collections := Dictionary (List Document)

/-- The databases of a cluster. -/
abbrev Cluster := Dictionary Collections

namespace Cluster

/-- The documents at a place; there are none where the place is missing. -/
def documents (cluster : Cluster) (place : Place) : List Document :=
  (((Dictionary.get? place.database cluster).getD []).get? place.collection).getD []

/-- The cluster with other documents at a place. -/
def withDocuments (cluster : Cluster) (place : Place) (documents : List Document) : Cluster :=
  let collections := (Dictionary.get? place.database cluster).getD []
  cluster.insert place.database (collections.insert place.collection documents)

/-- The names of the databases that have collections, and of the one that is selected at first. -/
def databaseNames (cluster : Cluster) (default : String) : List String :=
  let named := cluster.filter fun (_, collections) => !collections.isEmpty
  sortedNames (default :: Dictionary.names named)

/-- The names of the collections of a database. -/
def collectionNames (cluster : Cluster) (database : String) : List String :=
  sortedNames (Dictionary.names ((Dictionary.get? database cluster).getD []))

/-- The identity of a document as messages show it. -/
def shownIdentity (document : Document) : Option String :=
  (Identity.of? document).map Identity.shown

/-- The first of new documents whose identity is taken. -/
def firstTaken? (existing : List Document) (documents : List Identified) : Option Identity :=
  let taken := existing.map shownIdentity
  (documents.find? fun document => taken.contains (some document.identity.shown)).map (·.identity)

/-- New documents behind those at a place, if no identity is taken. -/
def insert (cluster : Cluster) (place : Place) (documents : List Identified) :
    Except Fault Cluster :=
  let existing := cluster.documents place
  match firstTaken? existing documents with
  | some identity => .error (.present identity)
  | none => .ok (cluster.withDocuments place (existing ++ documents.map (·.document)))

/-- What an update makes of documents. -/
structure Revision where
  documents : List Document
  matched : Nat
  modified : Nat

/--
Update every document that the filter matches, or the first one only.  A document that
equals what the update makes of it is kept and does not count as modified.
-/
def revise (filter : Filter) (update : Update) (many : Bool) :
    List Document → Except Update.Failure Revision
  | [] => .ok ⟨[], 0, 0⟩
  | document :: rest =>
    if filter.matches document then do
      let updated ← update.apply document
      let others ← if many then revise filter update many rest else pure ⟨rest, 0, 0⟩
      if Json.equals (.object updated) (.object document) then
        return ⟨document :: others.documents, others.matched + 1, others.modified⟩
      else return ⟨updated :: others.documents, others.matched + 1, others.modified + 1⟩
    else do
      let others ← revise filter update many rest
      return { others with documents := document :: others.documents }

/-- Documents without those that the filter matches, or without the first one only. -/
def removeMatching (filter : Filter) (many : Bool) : List Document → List Document × Nat
  | [] => ([], 0)
  | document :: rest =>
    if filter.matches document then
      if many then
        let (kept, removed) := removeMatching filter many rest
        (kept, removed + 1)
      else (rest, 1)
    else
      let (kept, removed) := removeMatching filter many rest
      (document :: kept, removed)

/-- The filter that a value stands for. -/
def readFilter (value : Json) : Except Fault Filter :=
  (Filter.read value).mapError .filter

/-- The update that a value stands for. -/
def readUpdate (value : Json) : Except Fault Update :=
  (Update.read value).mapError .update

/-- Documents that were given identities are inserted. -/
def insertIdentified (cluster : Cluster) (place : Place)
    (documents : Except Identified.Fault (List Identified)) : Except Fault (Reply × Cluster) := do
  let documents ← documents.mapError .documents
  let inserted ← cluster.insert place documents
  return (.identities (documents.map (·.identity)), inserted)

/-- The documents that the filter matches are updated. -/
def update (cluster : Cluster) (place : Place) (filter update : Json) (many : Bool) :
    Except Fault (Reply × Cluster) := do
  let filter ← readFilter filter
  let update ← readUpdate update
  let revision ← (revise filter update many (cluster.documents place)).mapError .failure
  let revised :=
    if revision.modified = 0 then cluster else cluster.withDocuments place revision.documents
  return (.changed revision.matched revision.modified, revised)

/-- The documents that the filter matches are removed. -/
def delete (cluster : Cluster) (place : Place) (filter : Json) (many : Bool) :
    Except Fault (Reply × Cluster) := do
  let filter ← readFilter filter
  let (kept, removed) := removeMatching filter many (cluster.documents place)
  return (.removed removed, if removed = 0 then cluster else cluster.withDocuments place kept)

/-- The documents that the filter matches. -/
def find (cluster : Cluster) (place : Place) (filter : Json) : Except Fault (List Document) := do
  let filter ← readFilter filter
  return (cluster.documents place).filter filter.matches

/-- The first document that the filter matches. -/
def findOne (cluster : Cluster) (place : Place) (filter : Json) :
    Except Fault (Option Document) := do
  let filter ← readFilter filter
  return (cluster.documents place).find? filter.matches

/-- A cluster and the number of identities given so far. -/
structure Keeping where
  cluster : Cluster
  given : Identified.Given

/-- A call that is refused leaves the cluster as it was. -/
def Keeping.settle (keeping : Keeping) :
    Except Fault (Reply × Cluster) → Except Fault Reply × Keeping
  | .ok (reply, cluster) => (.ok reply, { keeping with cluster := cluster })
  | .error fault => (.error fault, keeping)

/-- What a call of an open store replies, and what it makes of the cluster. -/
def perform (default : String) (call : Call) (keeping : Keeping) :
    Except Fault Reply × Keeping :=
  let cluster := keeping.cluster
  match call with
  | .databases => (.ok (.names (cluster.databaseNames default)), keeping)
  | .collections database => (.ok (.names (cluster.collectionNames database)), keeping)
  | .find place filter =>
    ((cluster.find place filter).map fun found => .documents (found.map .object), keeping)
  | .findOne place filter =>
    ((cluster.findOne place filter).map fun found => .document (found.map .object), keeping)
  | .insert place values =>
    let (documents, given) := Identified.ofValues values keeping.given
    { keeping with given := given }.settle (cluster.insertIdentified place documents)
  | .update place filter update many => keeping.settle (cluster.update place filter update many)
  | .delete place filter many => keeping.settle (cluster.delete place filter many)

/-! ## A cluster to try things on -/

/-- A document with an identity and further members. -/
def sampleDocument (identity : String) (members : List (String × Json)) : Document :=
  ("_id", .string identity) :: members

/-- A number with decimal places. -/
def decimal (digits : Nat) (places : Int) : Json :=
  .number (.double (Double.ofDecimal false digits (-places)))

/-- Two accounts and three orders. -/
def sample : Cluster :=
  [("sample",
    [("accounts",
      [sampleDocument "acc-1"
          [("email", .string "alice@example.com"), ("status", .string "active"),
            ("logins", .integer 12)],
        sampleDocument "acc-2"
          [("email", .string "bob@example.com"), ("status", .string "disabled"),
            ("logins", .integer 3)]]),
      ("orders",
        [sampleDocument "ord-1"
            [("account_id", .string "acc-1"), ("total", decimal 425 1),
              ("currency", .string "EUR")],
          sampleDocument "ord-2"
            [("account_id", .string "acc-1"), ("total", decimal 70 1),
              ("currency", .string "EUR")],
          sampleDocument "ord-3"
            [("account_id", .string "acc-2"), ("total", decimal 1999 2),
              ("currency", .string "USD")]])])]

end Cluster
end DocumentGate.Store
