import DocumentGate.Postgres.Connect
import DocumentGate.Store.Memory

/-!
# Connection handles

A handle is a live connection to a store with the database that is selected in it.
Operations borrow the handle.  Closing refuses new borrowers at once, and the store is
closed when the last borrower has returned the handle, once.
-/

namespace DocumentGate

/-- The store behind a handle. -/
inductive Backend where
  /-- A cluster in memory, by its name. -/
  | memory (cluster default : String) (closed : Bool)
  | tables (connection : Postgres.Connection)

/-- The database that is selected at first. -/
def Backend.default : Backend → String
  | .memory _ default _ => default
  | .tables connection => connection.default

/-- Whoever deals with the store waits for a turn, also when it is closed. -/
def Backend.isSlow : Backend → Bool
  | .memory _ _ _ => false
  | .tables connection => connection.slow

/-- The store was closed. -/
def Backend.isClosed : Backend → Bool
  | .memory _ _ closed => closed
  | .tables connection => connection.closed

/-- The store after it was closed. -/
def Backend.close : Backend → Backend
  | .memory cluster default _ => .memory cluster default true
  | .tables connection => .tables connection.close.2.1

/-- How closing a handle goes. -/
inductive Closing where
  | sound
  /-- The store cannot be closed; that is passed over. -/
  | storeFails
  /-- The store is closed, and a failure is reported after that. -/
  | reports (message : String)
deriving DecidableEq, Repr

/-- A connection handle. -/
structure Handle where
  label : String
  backend : Backend
  /-- The selected database. -/
  database : String
  /-- How many have borrowed the handle. -/
  borrowers : Nat := 0
  /-- What closing waits for: the last borrower has given the handle back. -/
  drained : Bool := true
  drained_eq : drained = (borrowers == 0) := by rfl
  /-- Closing has begun. -/
  closing : Bool := false
  /-- How often closing the store was tried. -/
  storeClosings : Nat := 0
  manner : Closing := .sound
  /-- Closing the store takes a turn of its own. -/
  slow : Bool := false

namespace Handle

/-- A handle for a store. -/
def ofBackend (label : String) (backend : Backend) : Handle where
  label := label
  backend := backend
  database := backend.default
  slow := backend.isSlow

/-- Somebody has borrowed the handle. -/
def isBusy (handle : Handle) : Bool :=
  handle.borrowers != 0

/-- The handle with another database selected. -/
def select (handle : Handle) (database : String) : Handle :=
  { handle with database := database }

/-- The handle with one borrower more. -/
def lend (handle : Handle) : Handle :=
  { handle with
    borrowers := handle.borrowers + 1
    drained := false
    drained_eq := rfl }

/-- The handle with one borrower less; it is drained with the last one. -/
def takeBack (handle : Handle) : Handle :=
  { handle with
    borrowers := handle.borrowers - 1
    drained := handle.drained || handle.borrowers - 1 == 0
    drained_eq := by
      rw [handle.drained_eq]
      cases handle.borrowers <;> simp }

/-- The handle with one borrower more, unless closing has begun. -/
def borrow? (handle : Handle) : Option Handle :=
  if handle.closing then none else some handle.lend

/-- The handle with one borrower less, if it has any. -/
def giveBack? (handle : Handle) : Option Handle :=
  if handle.borrowers = 0 then none else some handle.takeBack

@[simp]
theorem borrowers_lend (handle : Handle) : handle.lend.borrowers = handle.borrowers + 1 := rfl

@[simp]
theorem borrowers_takeBack (handle : Handle) :
    handle.takeBack.borrowers = handle.borrowers - 1 := rfl

/-- A handle that was borrowed and given back is as it was. -/
theorem giveBack?_lend (handle : Handle) : handle.lend.giveBack? = some handle := by
  obtain ⟨label, backend, database, borrowers, drained, same, closing, tried, manner, slow⟩ :=
    handle
  simp [giveBack?, lend, takeBack, same]

theorem not_drained (handle : Handle) : (!handle.drained) = handle.isBusy := by
  rw [handle.drained_eq]
  rfl

/-- The handle that refuses new borrowers. -/
def beginClosing (handle : Handle) : Handle :=
  { handle with closing := true }

/-- The handle after closing its store was tried once more. -/
def tryStore (handle : Handle) : Handle :=
  { handle with storeClosings := handle.storeClosings + 1 }

/-- The handle with its store closed, unless that fails. -/
def shutStore (handle : Handle) : Handle :=
  if handle.manner = .storeFails then handle
  else { handle with backend := handle.backend.close }

/-- The handle after its store was closed, or could not be. -/
def closeStore (handle : Handle) : Handle :=
  handle.tryStore.shutStore

/-- The failure that is reported when closing is done. -/
def closingFault? (handle : Handle) : Option String :=
  match handle.manner with
  | .reports message => some message
  | _ => none

end Handle
end DocumentGate
