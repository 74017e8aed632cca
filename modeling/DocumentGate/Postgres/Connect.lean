import DocumentGate.Postgres.Store

/-!
# Opening and closing connections to a server

A connection is opened by creating a pool and asking for the schema that is selected at
first.  When that fails, the pool is closed again, and what goes wrong there is the
failure that counts.
-/

namespace DocumentGate.Postgres

/-- How a server behaves. -/
structure Server where
  /-- Creating a pool fails so. -/
  connecting : Option String := none
  /-- The schema that is selected at first, or why asking for it fails. -/
  schema : Except String (Option String) := .ok (some "public")
  /-- Closing a pool fails so. -/
  closing : Option String := none
  /-- Every later statement fails so. -/
  broken : Option String := none
  /-- Whoever deals with the server waits for a turn. -/
  slow : Bool := false

/-- Why a connection cannot be opened. -/
inductive ConnectFault where
  | refused (message : String)
  /-- The pool could not be closed after a failure. -/
  | closing (message : String)
deriving DecidableEq, Repr

/-- What a connection is opened with. -/
structure Options where
  address : String
  maximum : Int
  timeout : Double

/-- Asks for the schema that is selected at first. -/
def schemaStatement : String := "SELECT current_schema()"

/-- Open a connection; the requests are listed in order. -/
def Server.connect (server : Server) (options : Options) :
    Except ConnectFault Connection × List Request :=
  let created := Request.createPool options.address 1 options.maximum options.timeout
  match server.connecting with
  | some message => (.error (.refused ("Failed to connect: " ++ message)), [created])
  | none =>
    let asked := [created, .fetchValue schemaStatement]
    match server.schema with
    | .error message =>
      let fault :=
        match server.closing with
        | some closing => .closing closing
        | none => .refused ("Failed to inspect connection: " ++ message)
      (.error fault, asked ++ [.close])
    | .ok schema =>
      let named := schema.filter (!·.isEmpty)
      (.ok
        { default := named.getD "public", closing := server.closing, broken := server.broken,
          slow := server.slow },
        asked)

/-- Close a connection once; the requests are listed in order. -/
def Connection.close (connection : Connection) :
    Except Store.Fault Unit × Connection × List Request :=
  if connection.closed then (.ok (), connection, [])
  else
    let result : Except Store.Fault Unit :=
      match connection.closing with
      | some message => .error (.server ("Failed to close connection pool: " ++ message))
      | none => .ok ()
    (result, { connection with closed := true }, [.close])

end DocumentGate.Postgres
