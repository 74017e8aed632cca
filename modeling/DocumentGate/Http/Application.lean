import DocumentGate.Http.Cookie
import DocumentGate.Http.Message
import DocumentGate.Service.Machine

/-!
# The service behind requests

A session is known by the token in a cookie.  A request without such a cookie gets a
session of its own, whose token comes with the response: also with one that reports a
fault, but not with an internal error.  Where a session is ended, its cookie expires
instead.

Requests that ask something of the service wait there for their turns, so that a
statement about every order of turns is one about every order of requests.
-/

namespace DocumentGate.Http

/-- The name under which the application is known. -/
def title : String := "docproxy"

/-- The version of the application. -/
def version : String := "0.1.0"

/-- The session of a request. -/
structure Admission where
  session : String
  /-- The session was made for this request. -/
  isNew : Bool
deriving DecidableEq, Repr

/-- A request that waits for the service. -/
structure Exchange where
  route : Route
  admission : Admission
deriving DecidableEq, Repr

/-- The service with the requests that were made to it. -/
structure Application where
  machine : Service.Machine
  /-- The tokens of new sessions, one after the other. -/
  tokens : Nat → String
  /-- How many sessions were made. -/
  issued : Nat := 0
  /-- The requests that wait, by their labels. -/
  exchanges : Dictionary Exchange := []
  /-- The responses so far, under the labels of their requests. -/
  responses : List (String × Response) := []

/-! ## Questions to the service -/

/-- The number of sessions, as the status reports it. -/
def activeSessions (world : Service.World) : Json :=
  .object [("active_sessions", .count world.sessions.length)]

/-- What a route without an argument asks of the service, or what one with an argument does. -/
def Route.ask (session argument : String) : Route → Service.Request
  | .connect => .connect session (.string argument)
  | .databases => .listDatabases session
  | .select => .selectDatabase session (.string argument)
  | .collections => .listCollections session
  | .query => .query session (.string argument)
  | .endSession => .endSession session
  | .status => .ask activeSessions

/-- What a request to a route asks of the service. -/
def Request.ask (request : Request) (session : String) (route : Route) :
    Except BodyFault Service.Request := do
  match route.argument? with
  | some name => return route.ask session (← request.argument name)
  | none => return route.ask session ""

/-! ## Responses -/

/-- What an answer of the service holds. -/
def contentOf : Service.Answer → Except Service.Fault Json
  | .value value => .ok value
  | .reply reply => .ok (Dispatch.payload .find reply)
  | .outcome operation reply => .ok (Dispatch.payload operation reply)
  | .fault fault => .error fault

/-- The response that reports a fault of the service. -/
def Response.ofServiceFault (fault : Service.Fault) : Response :=
  match fault.kind? with
  | some kind => .ofFault kind.status kind.name fault.message
  | none => .internalError

/-- The response reports an internal error. -/
def Response.isInternalError (response : Response) : Bool :=
  response.status == 500

/-- The response with one header that sets a cookie of this name, if it can have one. -/
def Response.withCookie (name header : String) (response : Response) : Response :=
  if Cookie.isName name then { response with cookies := [header] } else .internalError

/-- The response with the cookie of a new session. -/
def Admission.introduce (admission : Admission) (name : String) (response : Response) : Response :=
  if admission.isNew && !response.isInternalError then
    response.withCookie name (Cookie.setHeader name admission.session)
  else response

/-- The response to a request that the service has answered. -/
def Exchange.respond (exchange : Exchange) (name : String) (answer : Service.Answer) : Response :=
  match contentOf answer with
  | .error fault => exchange.admission.introduce name (.ofServiceFault fault)
  | .ok content =>
    let response := Response.ofValue content
    match exchange.route with
    | .endSession => response.withCookie name (Cookie.clearHeader name)
    | _ => exchange.admission.introduce name response

namespace Application

/-- The name of the cookie that carries tokens. -/
def cookieName (application : Application) : String :=
  application.machine.world.settings.sessionCookie

/-- The session that a request belongs to, which is made where there is none. -/
def identify (application : Application) (request : Request) : Admission × Application :=
  match Dictionary.get? application.cookieName (Cookie.readAll request.cookies) with
  | some session => if session.isEmpty then issue else (⟨session, false⟩, application)
  | none => issue
where
  /-- A session of its own. -/
  issue : Admission × Application :=
    (⟨application.tokens application.issued, true⟩,
      { application with issued := application.issued + 1 })

/-- Give a response. -/
def reply (application : Application) (label : String) (response : Response) : Application :=
  { application with responses := application.responses ++ [(label, response)] }

/-- Give a response that the service has no part in. -/
def replyAtOnce (application : Application) (label : String) (admission : Admission)
    (response : Response) : Application :=
  application.reply label (admission.introduce application.cookieName response)

/-- Take a request, and ask the service for what it needs. -/
def receive (application : Application) (label : String) (request : Request) : Application :=
  let (admission, application) := application.identify request
  match request.destination with
  | .nowhere => application.replyAtOnce label admission (.ofDetail 404 "Not Found")
  | .wrongMethod => application.replyAtOnce label admission (.ofDetail 405 "Method Not Allowed")
  | .elsewhere path =>
    application.replyAtOnce label admission { status := 307, body := "", location := some path }
  | .route route =>
    match request.ask admission.session route with
    | .error fault => application.replyAtOnce label admission (.ofBodyFault fault)
    | .ok asked =>
      { application with
        machine := application.machine.submit label asked
        exchanges := Dictionary.insert label ⟨route, admission⟩ application.exchanges }

/-- Turn an answer of the service into the response that waits for it. -/
def deliver (application : Application) (label : String) (answer : Service.Answer) : Application :=
  match Dictionary.get? label application.exchanges with
  | some exchange =>
    { application with exchanges := Dictionary.erase label application.exchanges }.reply label
      (exchange.respond application.cookieName answer)
  | none => application

/-- Turn every answer of the service into a response. -/
def collect (application : Application) : Application :=
  let machine := { application.machine with answers := [] }
  application.machine.answers.foldl (fun application (label, answer) =>
    application.deliver label answer) { application with machine := machine }

/-- Run the turn of the ready operation at a position, if there is one. -/
def resume (application : Application) (position : Nat) : Option Application :=
  (application.machine.resume position).map fun machine =>
    { application with machine := machine }.collect

/-- Run turns first come, first served, until all that are left wait. -/
def settle (application : Application) : Application :=
  { application with machine := application.machine.settle }.collect

/-- Let time pass. -/
def advance (application : Application) (span : Service.Time) : Application :=
  { application with machine := application.machine.advance span }

/-- Have the service do something that no request asked for. -/
def conduct (application : Application) (request : Service.Request) : Application :=
  { application with machine := application.machine.submit "" request }.settle

/-- An application in a world, with everything running in the background. -/
def started (world : Service.World) (tokens : Nat → String) : Application :=
  ({ machine := { world := world }, tokens := tokens } : Application).conduct .start

/-- The application after every session was closed, unless one waits for a borrower. -/
def stopped (application : Application) : Application :=
  application.conduct .shutdown

/-- Take a request and run turns; the response is missing where the request has to wait. -/
def serve (application : Application) (label : String) (request : Request) :
    Option Response × Application :=
  let served := (application.receive label request).settle
  ((served.responses.find? fun (other, _) => other == label).map Prod.snd,
    { served with responses := served.responses.filter fun (other, _) => other != label })

end Application
end DocumentGate.Http
