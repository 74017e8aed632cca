import DocumentGate.Connection.Handle
import DocumentGate.Settings.Basic
import DocumentGate.Text.Blank
import DocumentGate.Uri.Redact

/-!
# Opening connections

A connection string names a cluster in memory by `memory://cluster/database`, or a
server by `postgres://` or `postgresql://`.  Clusters come into being when they are
first named and are shared by all connections to them.
-/

namespace DocumentGate

/-- The clusters in memory by their names. -/
abbrev Clusters := Dictionary Store.Cluster

/-- The clusters that exist at first. -/
def Clusters.initial : Clusters := [("demo", Store.Cluster.sample)]

namespace Connection

/-- Why a connection cannot be opened. -/
inductive Fault where
  | missing
  | malformed (fault : Uri.Fault)
  | noCluster
  | unsupported (scheme : String)
  | refused (message : String)
  /-- After a failure the server could not be left either. -/
  | closing (message : String)
deriving DecidableEq, Repr

/-- The fault in words. -/
def Fault.message : Fault → String
  | .missing => "Connection string is required"
  | .malformed fault => "Malformed connection string: " ++ fault.message
  | .noCluster => "memory:// connection strings need a cluster name"
  | .unsupported scheme => "Unsupported connection scheme '" ++ scheme ++ "'"
  | .refused message => message
  | .closing message => message

/-- What a connection string points at. -/
inductive Target where
  | memory (cluster database : String)
  | server (address : String)
deriving DecidableEq, Repr

/-- The database named by a path: what is left without the slashes at its ends. -/
def databaseOf (path : List Char) : String :=
  let isSlash (character : Char) : Bool := character = '/'
  let named := ((path.dropWhile isSlash).reverse.dropWhile isSlash).reverse
  if named.isEmpty then "test" else String.ofList named

/-- What the parts of a connection string point at. -/
def targetOf (text : String) (uri : Uri) : Except Fault Target :=
  let scheme := String.ofList uri.scheme
  if scheme = "memory" then
    if uri.authority.isEmpty then .error .noCluster
    else .ok (.memory (String.ofList uri.authority) (databaseOf uri.path))
  else if scheme = "postgres" || scheme = "postgresql" then .ok (.server text)
  else .error (.unsupported scheme)

/-- What a connection string points at, without the blanks around it. -/
def read (value : Json) : Except Fault (String × Target) := do
  let .string given := value | throw .missing
  if Text.isBlankText given then throw .missing
  let text := Text.strip given
  let uri ← (Uri.split text.toList).mapError .malformed
  return (Uri.redact text, ← targetOf text uri)

/-- What opening a connection gives and does. -/
structure Opening where
  result : Except Fault Handle
  clusters : Clusters
  requests : List Postgres.Request := []

/-- Open a connection to a target. -/
def openTarget (settings : Settings) (server : Postgres.Server) (clusters : Clusters)
    (label : String) : Target → Opening
  | .memory cluster database =>
    { result := .ok (.ofBackend label (.memory cluster database false))
      clusters :=
        if (Dictionary.get? cluster clusters).isSome then clusters
        else Dictionary.insert cluster [] clusters }
  | .server address =>
    let (result, requests) :=
      server.connect ⟨address, settings.poolLimit, settings.connectTimeout⟩
    let opened :=
      match result with
      | .ok connection => .ok (.ofBackend label (.tables connection))
      | .error (.refused message) => .error (.refused message)
      | .error (.closing message) => .error (.closing message)
    { result := opened, clusters := clusters, requests := requests }

/-- Open the connection that a connection string asks for. -/
def openUri (settings : Settings) (server : Postgres.Server) (clusters : Clusters)
    (value : Json) : Opening :=
  match read value with
  | .ok (label, target) => openTarget settings server clusters label target
  | .error fault => { result := .error fault, clusters := clusters }

end Connection
end DocumentGate
