import DocumentGate.Connection.Open
import DocumentGate.Proofs.Burdens

/-!
# Stores that are open

A store that is open never replies that it is closed, whatever it is asked and however
the server behind it behaves.  The store of a connection that was just opened is open.
-/

namespace DocumentGate.Store

/-! ## Results -/

/-- The result is not that the store is closed. -/
def Served {α : Type} (result : Except Fault α) : Prop :=
  result ≠ .error .closed

namespace Served

variable {α β ε : Type} {result : Except Fault α}

theorem ok (value : α) : Served (.ok value) :=
  fun closed => nomatch closed

theorem map (served : Served result) (f : α → β) : Served (result.map f) := by
  cases result with
  | ok value =>
      exact .ok (f value)
  | error fault =>
      exact fun closed => served (congrArg Except.error (Except.error.inj closed))

theorem bind (served : Served result) {next : α → Except Fault β}
    (further : ∀ value, Served (next value)) : Served (result >>= next) := by
  cases result with
  | ok value =>
      exact further value
  | error fault =>
      exact fun closed => served (congrArg Except.error (Except.error.inj closed))

/-- A fault of another kind is not that the store is closed. -/
theorem mapError (result : Except ε α) {cause : ε → Fault}
    (other : ∀ fault, cause fault ≠ .closed) :
    Served (result.mapError cause) := by
  cases result with
  | ok value =>
      exact .ok value
  | error fault =>
      exact fun closed => other fault (Except.error.inj closed)

theorem mapM {f : β → Except Fault α} (each : ∀ value, Served (f value)) (values : List β) :
    Served (values.mapM f) := by
  induction values with
  | nil =>
      exact .ok []
  | cons value rest ih =>
      rw [List.mapM_cons]
      exact (each value).bind fun _ => ih.bind fun _ => .ok _

end Served

/-! ## Clusters in memory -/

namespace Cluster

theorem served_readFilter (value : Json) : Served (readFilter value) :=
  .mapError _ fun _ => Fault.noConfusion

theorem served_insert (cluster : Cluster) (place : Place) (documents : List Identified) :
    Served (cluster.insert place documents) := by
  unfold insert
  dsimp only
  split <;> exact fun closed => nomatch closed

theorem Keeping.served_settle (keeping : Keeping) {result : Except Fault (Reply × Cluster)}
    (served : Served result) : Served (keeping.settle result).1 := by
  cases result with
  | ok done =>
      exact .ok done.1
  | error fault =>
      exact fun closed => served (congrArg Except.error (Except.error.inj closed))

/-- A cluster never replies that it is closed. -/
theorem served_perform (default : String) (call : Call) (keeping : Keeping) :
    Served (perform default call keeping).1 := by
  cases call with
  | databases =>
      exact .ok _
  | collections database =>
      exact .ok _
  | find place filter =>
      exact ((served_readFilter filter).bind fun _ => .ok _).map _
  | findOne place filter =>
      exact ((served_readFilter filter).bind fun _ => .ok _).map _
  | insert place values =>
      refine Keeping.served_settle _ ?_
      refine (Served.mapError _ fun _ => Fault.noConfusion).bind fun documents => ?_
      exact (served_insert _ place documents).bind fun _ => .ok _
  | update place filter update many =>
      refine Keeping.served_settle _ ((served_readFilter filter).bind fun filter => ?_)
      refine (Served.mapError _ fun _ => Fault.noConfusion).bind fun update => ?_
      exact (Served.mapError _ fun _ => Fault.noConfusion).bind fun _ => .ok _
  | delete place filter many =>
      exact Keeping.served_settle _ ((served_readFilter filter).bind fun _ => .ok _)

end Cluster
end DocumentGate.Store

namespace DocumentGate.Postgres

open Store (Served)

/-! ## Servers -/

variable {connection : Connection}

theorem served_holding {α : Type} (isOpen : connection.closed = false) (exchange : Exchange α)
    (dealing : Dealing) : Served (holding connection exchange dealing).1 := by
  simp only [holding, isOpen, Bool.false_eq_true, if_false]
  split
  · exact fun closed => nomatch closed
  · exact .mapError _ fun _ => Store.Fault.noConfusion

theorem served_continuing {α β : Type} {prepared : Except Store.Fault α} {dealing : Dealing}
    {next : α → Except Store.Fault β × Dealing} (served : Served prepared)
    (further : ∀ value, Served (next value).1) : Served (continuing prepared dealing next).1 := by
  cases prepared with
  | ok value =>
      exact further value
  | error fault =>
      exact fun closed => served (congrArg Except.error (Except.error.inj closed))

theorem served_tableOf (place : Store.Place) : Served (tableOf place) :=
  .mapError _ fun _ => Store.Fault.noConfusion

theorem served_select (place : Store.Place) (filter : Json) : Served (select place filter) := by
  refine (served_tableOf place).bind fun table => ?_
  exact (Served.mapError _ fun _ => Store.Fault.noConfusion).bind fun _ => .ok _

theorem served_columnTexts (name : String) (rows : List Row) : Served (columnTexts name rows) :=
  .mapError _ fun _ => Store.Fault.noConfusion

theorem served_findDocuments (isOpen : connection.closed = false) (place : Store.Place)
    (filter : Json) (onlyFirst : Bool) (dealing : Dealing) :
    Served (findDocuments connection place filter onlyFirst dealing).1 := by
  refine served_continuing (served_select place filter) fun selection => ?_
  refine (served_holding isOpen (findRows selection onlyFirst) dealing).bind fun rows => ?_
  exact .mapM (fun _ => .mapError _ fun _ => Store.Fault.noConfusion) rows

theorem served_insertDocuments (isOpen : connection.closed = false) (place : Store.Place)
    (documents : Except Identified.Fault (List Identified)) (dealing : Dealing) :
    Served (insertDocuments connection place documents dealing).1 := by
  refine served_continuing ?_ fun prepared => ?_
  · refine (Served.mapError _ fun _ => Store.Fault.noConfusion).bind fun documents => ?_
    refine (served_tableOf place).bind fun table => ?_
    exact (Served.mapError _ fun _ => Store.Fault.noConfusion).bind fun _ => .ok _
  · exact (served_holding isOpen _ dealing).map _

/-- A connection that is open never replies that it is closed. -/
theorem served_perform (isOpen : connection.closed = false) (call : Store.Call)
    (dealing : Dealing) : Served (perform connection call dealing).1 := by
  cases call with
  | databases =>
      have held := served_holding isOpen (fetch schemaQuery []) dealing
      exact (held.bind fun rows => served_columnTexts "schema_name" rows).map _
  | collections database =>
      have held := served_holding isOpen (fetch tableQuery [.text database]) dealing
      exact (held.bind fun rows => served_columnTexts "table_name" rows).map _
  | find place filter =>
      exact (served_findDocuments isOpen place filter false dealing).map _
  | findOne place filter =>
      exact (served_findDocuments isOpen place filter true dealing).map _
  | insert place values =>
      exact served_insertDocuments isOpen place _ _
  | update place filter update many =>
      refine served_continuing ?_ fun prepared => ?_
      · refine (Served.mapError _ fun _ => Store.Fault.noConfusion).bind fun update => ?_
        exact (served_select place filter).bind fun _ => .ok _
      · exact (served_holding isOpen _ dealing).map _
  | delete place filter many =>
      refine served_continuing (served_select place filter) fun selection => ?_
      exact (served_holding isOpen _ dealing).map _

theorem Server.connect_eq_ok {server : Server} {options : Options} {connection : Connection}
    (connected : (server.connect options).1 = .ok connection) : connection.closed = false := by
  unfold Server.connect at connected
  dsimp only at connected
  split at connected
  · cases connected
  · split at connected
    · cases connected
    · rw [← Except.ok.inj connected]

end DocumentGate.Postgres

namespace DocumentGate

/-! ## Connections that were just opened -/

theorem Handle.isFresh_ofBackend (label : String) {backend : Backend}
    (isOpen : backend.isClosed = false) : (Handle.ofBackend label backend).IsFresh :=
  ⟨rfl, rfl, rfl, isOpen⟩

/-- Nobody has done anything with the handle of a connection that was just opened. -/
theorem Connection.isFresh_of_openUri {settings : Settings} {server : Postgres.Server}
    {clusters : Clusters} {address : Json} {handle : Handle}
    (opened : (openUri settings server clusters address).result = .ok handle) :
    handle.IsFresh := by
  unfold openUri at opened
  split at opened
  · rename_i label target _
    cases target with
    | memory cluster database =>
        rw [← Except.ok.inj opened]
        exact Handle.isFresh_ofBackend label rfl
    | server name =>
        simp only [openTarget] at opened
        split at opened
        · rename_i connection connected
          rw [← Except.ok.inj opened]
          exact Handle.isFresh_ofBackend label (Postgres.Server.connect_eq_ok connected)
        · cases opened
        · cases opened
  · cases opened

end DocumentGate
