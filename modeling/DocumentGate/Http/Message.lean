import DocumentGate.Json.Reader
import DocumentGate.Json.Writer
import DocumentGate.Text.Blank
import DocumentGate.Text.Cut
import DocumentGate.Text.Encoding
import DocumentGate.Text.Lowercase

/-!
# Requests and responses

A request names a route by its path and its method.  A route that takes an argument
finds it as a string under one name in the body, which is an object in JSON, in any
encoding.  The bytes of a header are read as one character each.
-/

namespace DocumentGate.Http

/-- A request. -/
structure Request where
  method : String
  path : String
  /-- The bytes of the body; an empty one counts as none. -/
  body : List UInt8 := []
  contentType : String := "application/json"
  /-- The header that carries cookies. -/
  cookies : String := ""

/-- What is read of a header that was sent as this text: a character for each byte. -/
def receivedHeader (sent : String) : String :=
  String.ofList (sent.toUTF8.toList.map fun byte => Char.ofNat byte.toNat)

/-- A response. -/
structure Response where
  status : Nat
  body : String
  /-- The headers that set cookies. -/
  cookies : List String := []
  /-- Where to look instead. -/
  location : Option String := none
deriving DecidableEq, Repr

/-! ## Routes -/

/-- What can be asked for. -/
inductive Route where
  | connect
  | databases
  | select
  | collections
  | query
  | endSession
  | status
deriving DecidableEq, Repr

namespace Route

/-- Every route. -/
def all : List Route :=
  [.connect, .databases, .select, .collections, .query, .endSession, .status]

/-- The path of a route. -/
def path : Route → String
  | .connect => "/databases/connect"
  | .databases => "/databases"
  | .select => "/databases/select"
  | .collections => "/databases/collections"
  | .query => "/databases/query"
  | .endSession => "/databases/end-session"
  | .status => "/status"

/-- The method of a route. -/
def method : Route → String
  | .databases => "GET"
  | .collections => "GET"
  | .status => "GET"
  | _ => "POST"

/-- The name of the argument in the body, where there is one. -/
def argument? : Route → Option String
  | .connect => some "connectionString"
  | .select => some "databaseName"
  | .query => some "command"
  | _ => none

end Route

/-- What a path and a method lead to. -/
inductive Destination where
  | route (route : Route)
  /-- The route has another method. -/
  | wrongMethod
  /-- The route has no slash at the end of its path. -/
  | elsewhere (path : String)
  | nowhere
deriving DecidableEq, Repr

/-- The path is the given one, behind which one end of a line may stand. -/
def isPath (path given : String) : Bool :=
  path == given || path == given ++ "\n"

/-- The route with a path. -/
def routeAt? (path : String) : Option Route :=
  Route.all.find? fun route => isPath path route.path

/-- Paths that are kept for pages about the application, which are not served here. -/
def reservedPaths : List String :=
  ["/openapi.json", "/docs", "/docs/oauth2-redirect", "/redoc"]

/-- The path is kept for a page about the application. -/
def isReserved (path : String) : Bool :=
  reservedPaths.any (isPath path)

/-- A path without slashes at its end. -/
def withoutEndSlashes (path : String) : String :=
  String.ofList (path.toList.reverse.dropWhile (· = '/')).reverse

/-- What a request is led to. -/
def Request.destination (request : Request) : Destination :=
  match routeAt? request.path with
  | some route => if route.method = request.method then .route route else .wrongMethod
  | none =>
    let bare := withoutEndSlashes request.path
    if isReserved request.path then
      if ["GET", "HEAD"].contains request.method then .nowhere else .wrongMethod
    else if bare ≠ request.path ∧ ((routeAt? bare).isSome ∨ isReserved bare) then .elsewhere bare
    else .nowhere

/-! ## Bodies -/

/-- Why a body is refused. -/
inductive BodyFault where
  /-- The bytes encode no text, or the text holds a number that is not read. -/
  | unreadable
  /-- The body is no JSON from this position on. -/
  | malformed (position : Nat)
  | notObject
  /-- The argument of this name is missing or no string. -/
  | argument (name : String)
deriving DecidableEq, Repr

/-- The place that is reported, unless the body cannot be read at all. -/
def BodyFault.place? : BodyFault → Option String
  | .unreadable => none
  | .malformed position => some ("body." ++ toString position)
  | .notObject => some "body"
  | .argument name => some ("body." ++ name)

/-- The type of content is JSON, or based on it. -/
def isJsonType (contentType : String) : Bool :=
  let (type, _) := Text.cut ';' contentType.toList
  match Text.cut '/' (Text.lower (String.ofList (Text.stripChars type))).toList with
  | (family, some kind) =>
    family == "application".toList && !kind.contains '/' &&
      (kind == "json".toList || "+json".toList.isSuffixOf kind)
  | (_, none) => false

/-- The members of a body. -/
def Request.members (request : Request) : Except BodyFault Json.Members :=
  if request.body.isEmpty || !isJsonType request.contentType then .error .notObject
  else
    match (Text.charactersOf? request.body).map fun text => Json.read (String.ofList text) with
    | some (.ok (.object members)) => .ok members
    | some (.ok _) => .error .notObject
    | some (.error (.malformed _ position _ _)) => .error (.malformed position)
    | some (.error (.oversized _)) => .error .unreadable
    | none => .error .unreadable

/-- The argument in a body. -/
def Request.argument (request : Request) (name : String) : Except BodyFault String := do
  match Dictionary.get? name (← request.members) with
  | some (.string value) => return value
  | _ => throw (.argument name)

/-! ## Contents of responses -/

/-- A response with an object in JSON. -/
def Response.ofObject (status : Nat) (members : List (String × String)) : Response where
  status := status
  body := String.ofList (Json.write .compact
    (.object (members.map fun (name, text) => (name, .string text))))

/-- A response that reports a fault. -/
def Response.ofFault (status : Nat) (kind message : String) : Response :=
  .ofObject status [("error", kind), ("message", message)]

/-- A response in a few words. -/
def Response.ofDetail (status : Nat) (detail : String) : Response :=
  .ofObject status [("detail", detail)]

/-- The response to a request that failed for reasons that callers are not told. -/
def Response.internalError : Response :=
  .ofFault 500 "InternalError" "Something went wrong!"

/-- The response to a body that is refused. -/
def Response.ofBodyFault (fault : BodyFault) : Response :=
  match fault.place? with
  | some place => .ofFault 400 "InvalidRequest" ("Invalid request body: " ++ place)
  | none => .ofDetail 400 "There was an error parsing the body"

/-- Values that have more levels are not written. -/
def levelLimit : Nat := 255

/-- A response with a value in JSON, if that has not too many levels. -/
def Response.ofValue (value : Json) : Response :=
  if value.levels ≤ levelLimit then
    { status := 200, body := String.ofList (Json.write .compact value) }
  else .internalError

end DocumentGate.Http
