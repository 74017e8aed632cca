import DocumentGate.Command.Grammar

/-!
# Settings

The settings of the gate, their defaults, and the order in which they are listed.
Times are in seconds.
-/

namespace DocumentGate

/-- The settings of the gate. -/
structure Settings where
  idleTimeout : Double
  scanInterval : Double
  allowedOperations : List Operation
  deniedKeywords : List String
  rootPrefix : String
  depthLimit : Int
  connectTimeout : Double
  poolLimit : Int
  host : String
  port : Int
  sessionCookie : String
  statusInterval : Double

namespace Settings

/-- A whole number of seconds. -/
def wholeSeconds (seconds : Nat) : Double :=
  Double.nearest false (seconds * Double.stepsPerUnit) 1

/-- The keywords that are denied unless the settings say otherwise. -/
def defaultDeniedKeywords : List String :=
  ["dropDatabase", "drop", "eval", "runCommand", "adminCommand", "$where", "$function",
    "$accumulator", "mapReduce", "shutdown", "createUser", "dropUser", "grantRolesToUser"]

/-- The settings where nothing else is said. -/
def defaults : Settings where
  idleTimeout := wholeSeconds 600
  scanInterval := wholeSeconds 60
  allowedOperations := Operation.all
  deniedKeywords := defaultDeniedKeywords
  rootPrefix := "db"
  depthLimit := 32
  connectTimeout := wholeSeconds 5
  poolLimit := 4
  host := "127.0.0.1"
  port := 5000
  sessionCookie := "docproxy_session"
  statusInterval := wholeSeconds 10

/-- What the settings say about commands. -/
def policy (settings : Settings) : Command.Policy :=
  ⟨settings.rootPrefix, settings.allowedOperations, settings.deniedKeywords, settings.depthLimit⟩

/-- A double as a value. -/
def ofDouble (value : Double) : Json :=
  .number (.double value)

/-- Strings as a value. -/
def ofStrings (strings : List String) : Json :=
  .array (strings.map .string)

/-- Every setting under its name, in the order of the listing. -/
def fields (settings : Settings) : List (String × Json) :=
  [("idle_timeout_seconds", ofDouble settings.idleTimeout),
    ("scan_interval_seconds", ofDouble settings.scanInterval),
    ("allowed_operations", ofStrings (settings.allowedOperations.map Operation.name)),
    ("denied_keywords", ofStrings settings.deniedKeywords),
    ("root_prefix", .string settings.rootPrefix),
    ("max_argument_depth", .integer settings.depthLimit),
    ("connect_timeout", ofDouble settings.connectTimeout),
    ("pool_max_size", .integer settings.poolLimit),
    ("host", .string settings.host),
    ("port", .integer settings.port),
    ("session_cookie", .string settings.sessionCookie),
    ("status_log_interval_seconds", ofDouble settings.statusInterval)]

/-- The names of the allowed operations, each once and in alphabetical order. -/
def allowedNames (settings : Settings) : List String :=
  ((Operation.all.filter settings.allowedOperations.contains).map Operation.name).mergeSort
    (fun left right => decide (left ≤ right))

end Settings
end DocumentGate
