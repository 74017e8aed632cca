import DocumentGate.Http.Application

/-!
# Requests and responses on the wire

The head of a request is a line with its method and its target, and a line for each
header.  The body follows an empty line and is as long as a header says.  A response is
written the same way round.
-/

namespace DocumentGate.Http

/-- The head of a request: its method, its path, and its headers under names in lower case. -/
structure Head where
  method : String
  path : String
  headers : List (String × String)
deriving DecidableEq, Repr

namespace Head

/-- The method and the path in the first line; a query behind the path is dropped. -/
def ofRequestLine? (line : String) : Option (String × String) :=
  match Text.segmentsOf ' ' (Text.stripChars line.toList) with
  | [method, target, _] => some (String.ofList method, String.ofList (Text.cut '?' target).1)
  | _ => none

/-- The name and the value of a header. -/
def headerOf? (line : String) : Option (String × String) :=
  match Text.cut ':' line.toList with
  | (name, some value) =>
    some (Text.lower (String.ofList name), receivedHeader (String.ofList (Text.stripChars value)))
  | (_, none) => none

/-- The head that lines make up. -/
def ofLines? : List String → Option Head
  | [] => none
  | first :: rest => do
    let (method, path) ← ofRequestLine? first
    return ⟨method, path, rest.filterMap headerOf?⟩

/-- The value of a header, or nothing. -/
def header (head : Head) (name : String) : String :=
  (head.headers.lookup name).getD ""

/-- How many bytes the body has. -/
def contentLength (head : Head) : Nat :=
  (head.header "content-length").toNat?.getD 0

/-- The request with this head and a body. -/
def request (head : Head) (body : List UInt8) : Request where
  method := head.method
  path := head.path
  body := body
  contentType := head.header "content-type"
  cookies := head.header "cookie"

end Head

/-- What a status is called. -/
def reason : Nat → String
  | 200 => "OK"
  | 307 => "Temporary Redirect"
  | 400 => "Bad Request"
  | 403 => "Forbidden"
  | 404 => "Not Found"
  | 405 => "Method Not Allowed"
  | 409 => "Conflict"
  | 502 => "Bad Gateway"
  | _ => "Internal Server Error"

/-- The headers of a response. -/
def Response.headers (response : Response) : List (String × String) :=
  [("content-type", "application/json"),
      ("content-length", toString response.body.utf8ByteSize)] ++
    response.location.toList.map (fun path => ("location", path)) ++
    response.cookies.map fun cookie => ("set-cookie", cookie)

/-- A response as it is sent. -/
def Response.written (response : Response) : String :=
  let line := "HTTP/1.1 " ++ toString response.status ++ " " ++ reason response.status
  let headers := response.headers.map fun (name, value) => name ++ ": " ++ value
  "\r\n".intercalate (line :: headers ++ ["", response.body])

/-- What a server is told about the application. -/
structure Launch where
  host : String
  port : Int
  title : String := Http.title
  version : String := Http.version
deriving DecidableEq, Repr

/-- How the application is launched with settings. -/
def Launch.ofSettings (settings : Settings) : Launch where
  host := settings.host
  port := settings.port

end DocumentGate.Http
