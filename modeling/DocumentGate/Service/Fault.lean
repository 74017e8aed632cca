import DocumentGate.Command.Grammar
import DocumentGate.Connection.Open
import DocumentGate.Service.Dispatch

/-!
# Faults of the service

Every fault that a caller is meant to see has a kind and a status for responses.  What
remains has neither: values that a command or a store cannot handle, and misuse of the
parts of the service.
-/

namespace DocumentGate.Service

/-- Why an operation of the service fails. -/
inductive Fault where
  | notConnected
  | noActiveSession
  | connection (fault : Connection.Fault)
  | command (fault : Command.Fault)
  | shape (fault : Dispatch.ShapeFault)
  /-- A fault of the store behind a session. -/
  | backend (fault : Store.Fault)
  /-- A fault of a store that was called directly. -/
  | store (fault : Store.Fault)
  /-- A handle was given back more often than it was borrowed. -/
  | overReturned (label : String)
  /-- A failure that was reported after a handle was closed. -/
  | closing (message : String)
  | idleLimitNotPositive
  | intervalNotPositive
deriving DecidableEq

/-- The fault in words. -/
def Fault.message : Fault → String
  | .notConnected => "Not connected to a database"
  | .noActiveSession => "No active session"
  | .connection fault => fault.message
  | .command fault => fault.message
  | .shape fault => fault.message
  | .backend fault => fault.message
  | .store fault => fault.message
  | .overReturned label => "Connection " ++ label ++ " released more often than retained"
  | .closing message => message
  | .idleLimitNotPositive => "idle_timeout must be positive"
  | .intervalNotPositive => "scan_interval must be positive"

/-- The kinds of faults that callers see. -/
inductive Kind where
  | notConnected
  | noActiveSession
  | connectFailure
  | invalidCommandFormat
  | disallowedOperation
  | unsupportedOperation
  | argumentParseError
  | argumentShapeError
  | backendError
deriving DecidableEq, Repr

/-- The name of a kind in responses. -/
def Kind.name : Kind → String
  | .notConnected => "NotConnected"
  | .noActiveSession => "NoActiveSession"
  | .connectFailure => "ConnectFailure"
  | .invalidCommandFormat => "InvalidCommandFormat"
  | .disallowedOperation => "DisallowedOperation"
  | .unsupportedOperation => "UnsupportedOperation"
  | .argumentParseError => "ArgumentParseError"
  | .argumentShapeError => "ArgumentShapeError"
  | .backendError => "BackendError"

/-- The status of a response that reports a fault of the kind. -/
def Kind.status : Kind → Nat
  | .notConnected => 409
  | .noActiveSession => 409
  | .connectFailure => 502
  | .disallowedOperation => 403
  | .backendError => 502
  | _ => 400

/-- The kind of a fault of a command; a number of too many digits has none. -/
def kindOfCommand? : Command.Fault → Option Kind
  | .notText => some .invalidCommandFormat
  | .wrongPrefix _ => some .invalidCommandFormat
  | .wrongShape _ => some .invalidCommandFormat
  | .denied _ => some .disallowedOperation
  | .unsupported _ => some .unsupportedOperation
  | .arguments (.oversized _) => none
  | .arguments _ => some .argumentParseError

/-- The kind of a fault, if callers are meant to see it. -/
def Fault.kind? : Fault → Option Kind
  | .notConnected => some .notConnected
  | .noActiveSession => some .noActiveSession
  | .connection (.closing _) => none
  | .connection _ => some .connectFailure
  | .command fault => kindOfCommand? fault
  | .shape _ => some .argumentShapeError
  | .backend fault => if fault.isRefusal then some .backendError else none
  | _ => none

end DocumentGate.Service
