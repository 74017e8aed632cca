import DocumentGate.Proofs.Results
import DocumentGate.Service.Fault

/-!
# Connections that are not opened

Whatever a connection string is, and whatever a server does, opening a connection gives a
handle or fails, and callers see that connecting has failed, with one exception.  Where a pool
is there and the schema cannot be asked for, the pool is closed again; when that fails as well,
its failure takes the place of the other one, and callers see no kind of fault.
-/

namespace DocumentGate

/-! ## Connection strings -/

namespace Connection

/-- Callers see that connecting has failed. -/
def Fault.IsSeen (fault : Fault) : Prop :=
  Service.Fault.kind? (.connection fault) = some .connectFailure

theorem Fault.isSeen_or_closing (fault : Fault) :
    fault.IsSeen ∨ ∃ message, fault = .closing message := by
  cases fault with
  | closing message =>
      exact .inr ⟨message, rfl⟩
  | missing | malformed | noCluster | unsupported | refused =>
      exact .inl rfl

theorem isSeen_of_targetOf {text : String} {uri : Uri} {fault : Fault}
    (failed : targetOf text uri = .error fault) : fault.IsSeen := by
  unfold targetOf at failed
  dsimp only at failed
  split at failed
  · split at failed
    · exact Except.error.inj failed ▸ rfl
    · cases failed
  · split at failed
    · cases failed
    · exact Except.error.inj failed ▸ rfl

/-- Callers see that a connection string cannot be read. -/
theorem isSeen_of_read {value : Json} {fault : Fault} (failed : read value = .error fault) :
    fault.IsSeen := by
  cases value with
  | string given =>
      unfold read at failed
      dsimp only at failed
      split at failed
      · exact Except.error.inj failed ▸ rfl
      · rcases bind_eq_error_iff.mp failed with unsplit | ⟨uri, -, failed⟩
        · rcases mapError_eq_error_iff.mp unsplit with ⟨cause, -, rfl⟩
          rfl
        · rcases bind_eq_error_iff.mp failed with untargeted | ⟨target, -, same⟩
          · exact isSeen_of_targetOf untargeted
          · cases same
  | null | boolean | number | array | object =>
      exact Except.error.inj failed ▸ rfl

end Connection

/-! ## Servers -/

namespace Postgres.Server

/-- A pool has been created. -/
def Pools (server : Server) (requests : List Request) : Prop :=
  server.connecting = none ∧
    ∃ address minimum maximum timeout, .createPool address minimum maximum timeout ∈ requests

/-- The schema cannot be asked for, and then the pool cannot be closed either. -/
structure Strands (server : Server) (message : String) : Prop where
  pooled : server.connecting = none
  unasked : ∃ cause, server.schema = .error cause
  unclosed : server.closing = some message

/-- The result of connecting to a server, and the requests. -/
inductive Connects (server : Server) : Except ConnectFault Connection → List Request → Prop
  | opened (connection : Connection) (requests : List Request) :
      Connects server (.ok connection) requests
  /-- There is no pool. -/
  | unpooled (message : String) (requests : List Request) (unpooled : server.connecting ≠ none) :
      Connects server (.error (.refused message)) requests
  /-- The pool is closed again. -/
  | closed (message : String) {requests : List Request} (closes : .close ∈ requests) :
      Connects server (.error (.refused message)) requests
  /-- The pool is not closed, although that was tried. -/
  | stranded {message : String} {requests : List Request} (strands : server.Strands message)
      (closes : .close ∈ requests) : Connects server (.error (.closing message)) requests

theorem connects (server : Server) (options : Options) :
    server.Connects (server.connect options).1 (server.connect options).2 := by
  unfold connect
  cases connecting : server.connecting with
  | some message =>
      exact .unpooled _ _ (by simp [connecting])
  | none =>
      cases schema : server.schema with
      | ok schema =>
          exact .opened _ _
      | error cause =>
          cases closing : server.closing with
          | none =>
              exact .closed _ (by simp)
          | some message =>
              exact .stranded ⟨connecting, ⟨cause, schema⟩, closing⟩ (by simp)

theorem connect_of_strands {server : Server} {message : String} (strands : server.Strands message)
    (options : Options) : (server.connect options).1 = .error (.closing message) := by
  rcases strands with ⟨pooled, ⟨cause, unasked⟩, unclosed⟩
  simp only [connect, pooled, unasked, unclosed]

end Postgres.Server

/-! ## Openings -/

namespace Connection

open Postgres (Server)

variable (settings : Settings) (server : Server) (clusters : Clusters) (value : Json)

/-- The connection string is one of a server. -/
def NamesServer (value : Json) : Prop :=
  ∃ label address, read value = .ok (label, .server address)

/-- The result of opening a connection, and the requests. -/
inductive Opens : Except Fault Handle → List Postgres.Request → Prop
  | opened (handle : Handle) (requests : List Postgres.Request) : Opens (.ok handle) requests
  /-- There is no pool that could be left open. -/
  | refused {fault : Fault} {requests : List Postgres.Request} (seen : fault.IsSeen)
      (shut : server.Pools requests → .close ∈ requests) : Opens (.error fault) requests
  | stranded {message : String} {requests : List Postgres.Request} (names : NamesServer value)
      (strands : server.Strands message) (closes : .close ∈ requests) :
      Opens (.error (.closing message)) requests

/-- Opening a connection asks a server only if the connection string can be read as one of it. -/
theorem opens_openUri :
    Opens server value (openUri settings server clusters value).result
      (openUri settings server clusters value).requests := by
  unfold openUri
  cases reads : read value with
  | error fault =>
      refine .refused (isSeen_of_read reads) ?_
      rintro ⟨-, _, _, _, _, created⟩
      cases created
  | ok named =>
      rcases named with ⟨label, target⟩
      cases target with
      | memory cluster database =>
          exact .opened _ _
      | server address =>
          have connects := server.connects ⟨address, settings.poolLimit, settings.connectTimeout⟩
          simp only [openTarget]
          generalize server.connect _ = connected at connects ⊢
          rcases connected with ⟨result, requests⟩
          cases connects with
          | opened connection =>
              exact .opened _ _
          | unpooled message _ unpooled =>
              exact .refused rfl fun pools => absurd pools.1 unpooled
          | closed message closes =>
              exact .refused rfl fun _ => closes
          | stranded strands closes =>
              exact .stranded ⟨label, address, reads⟩ strands closes

theorem openUri_of_strands {message : String} (names : NamesServer value)
    (strands : server.Strands message) :
    (openUri settings server clusters value).result = .error (.closing message) := by
  rcases names with ⟨label, address, reads⟩
  simp only [openUri, reads, openTarget, Server.connect_of_strands strands]

/-- The failure to close is that of a server which strands its pool, and no other failure is. -/
theorem openUri_eq_closing_iff {message : String} :
    (openUri settings server clusters value).result = .error (.closing message) ↔
      NamesServer value ∧ server.Strands message := by
  constructor
  · intro failed
    have opens := opens_openUri settings server clusters value
    rw [failed] at opens
    cases opens with
    | refused seen shut =>
        cases seen
    | stranded names strands closes =>
        exact ⟨names, strands⟩
  · rintro ⟨names, strands⟩
    exact openUri_of_strands settings server clusters value names strands

/-- Closing is tried wherever there is a pool but no handle. -/
theorem close_mem_of_openUri {fault : Fault}
    (failed : (openUri settings server clusters value).result = .error fault)
    (pools : server.Pools (openUri settings server clusters value).requests) :
    .close ∈ (openUri settings server clusters value).requests := by
  have opens := opens_openUri settings server clusters value
  rw [failed] at opens
  cases opens with
  | refused seen shut =>
      exact shut pools
  | stranded names strands closes =>
      exact closes

/--
Opening a connection gives a handle, or fails with what callers see as a failure to connect, or
with a failure to close of which they do not see the kind.  The last is so exactly if the
connection string is one of a server that creates a pool, does not tell the schema and does not
close the pool.  Wherever there is a pool and opening fails, closing the pool is tried.
-/
theorem openUri_outcomes :
    ((∃ handle, (openUri settings server clusters value).result = .ok handle) ∨
        (∃ fault, (openUri settings server clusters value).result = .error fault ∧
          Service.Fault.kind? (.connection fault) = some .connectFailure) ∨
        ∃ message, (openUri settings server clusters value).result = .error (.closing message) ∧
          Service.Fault.kind? (.connection (.closing message)) = none) ∧
      (∀ message, (openUri settings server clusters value).result = .error (.closing message) ↔
        NamesServer value ∧ server.Strands message) ∧
      ∀ fault, (openUri settings server clusters value).result = .error fault →
        server.Pools (openUri settings server clusters value).requests →
          .close ∈ (openUri settings server clusters value).requests := by
  refine ⟨?_, fun message => openUri_eq_closing_iff settings server clusters value,
    fun fault => close_mem_of_openUri settings server clusters value⟩
  cases opened : (openUri settings server clusters value).result with
  | ok handle =>
      exact .inl ⟨handle, rfl⟩
  | error fault =>
      rcases fault.isSeen_or_closing with seen | ⟨message, rfl⟩
      · exact .inr (.inl ⟨fault, rfl, seen⟩)
      · exact .inr (.inr ⟨message, rfl, rfl⟩)

/-- A server that creates a pool, but neither tells its schema nor closes the pool. -/
def strandingServer : Server :=
  { schema := .error "boom", closing := some "bang" }

/-- Whoever connects to such a server is not told that connecting has failed. -/
theorem openUri_strandingServer :
    errorOf? (openUri Settings.defaults strandingServer .initial
        (.string "postgresql://h/db")).result = some (.closing "bang") ∧
      Service.Fault.kind? (.connection (.closing "bang")) ≠ some .connectFailure := by
  decide +kernel

end Connection

end DocumentGate
