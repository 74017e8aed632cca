import DocumentGate.Proofs.Completions
import DocumentGate.Proofs.OverflowingSums

/-!
# Faults of operations

An operation on a cluster in memory is answered with what the cluster replies, or with a fault
that callers see as one of the arguments or of the store.  There is one exception: an update
whose sum overflows ends with a fault of neither kind.  Which updates these are is decided by
the documents that the cluster holds.
-/

namespace DocumentGate

namespace Store.Cluster

/-! ## Faults of calls -/

/-- The call is an update that meets a sum that overflows. -/
def CallOverflows (cluster : Cluster) (call : Call) : Prop :=
  ∃ place filterValue updateValue many filter update,
    call = .update place filterValue updateValue many ∧ Filter.read filterValue = .ok filter ∧
      Update.read updateValue = .ok update ∧
      Overflows filter update many (cluster.documents place)

theorem Keeping.settle_eq_error_iff {keeping : Keeping} {result : Except Fault (Reply × Cluster)}
    {fault : Fault} : (keeping.settle result).1 = .error fault ↔ result = .error fault := by
  cases result with
  | ok done =>
      exact iff_of_false nofun nofun
  | error stop =>
      exact ⟨fun same => congrArg Except.error (Except.error.inj same),
        fun same => congrArg Except.error (Except.error.inj same)⟩

theorem isRefusal_readFilter {value : Json} {fault : Fault}
    (failed : readFilter value = .error fault) : fault.isRefusal = true := by
  rcases mapError_eq_error_iff.mp failed with ⟨cause, -, rfl⟩
  rfl

theorem isRefusal_insertIdentified {cluster : Cluster} {place : Place}
    {documents : Except Identified.Fault (List Identified)} {fault : Fault}
    (failed : cluster.insertIdentified place documents = .error fault) :
    fault.isRefusal = true := by
  rcases bind_eq_error_iff.mp failed with failed | ⟨made, -, failed⟩
  · rcases mapError_eq_error_iff.mp failed with ⟨cause, -, rfl⟩
    rfl
  · rcases bind_eq_error_iff.mp failed with failed | ⟨inserted, -, done⟩
    · unfold insert at failed
      dsimp only at failed
      split at failed
      · rw [← Except.error.inj failed]
        rfl
      · cases failed
    · cases done

/-- An update fails with a refusal, or because a sum overflows. -/
theorem update_eq_error {cluster : Cluster} {place : Place} {filterValue updateValue : Json}
    {many : Bool} {fault : Fault}
    (failed : cluster.update place filterValue updateValue many = .error fault) :
    fault.isRefusal = true ∨ fault = .failure .integerTooLarge := by
  rcases bind_eq_error_iff.mp failed with failed | ⟨filter, -, failed⟩
  · exact .inl (isRefusal_readFilter failed)
  · rcases bind_eq_error_iff.mp failed with failed | ⟨update, -, failed⟩
    · rcases mapError_eq_error_iff.mp failed with ⟨cause, -, rfl⟩
      exact .inl rfl
    · rcases bind_eq_error_iff.mp failed with failed | ⟨revision, -, done⟩
      · rcases mapError_eq_error_iff.mp failed with ⟨cause, -, rfl⟩
        cases cause with
        | notNumeric path =>
            exact .inl rfl
        | integerTooLarge =>
            exact .inr rfl
      · cases done

theorem update_eq_tooLarge_iff {cluster : Cluster} {place : Place}
    {filterValue updateValue : Json} {many : Bool} :
    cluster.update place filterValue updateValue many = .error (.failure .integerTooLarge) ↔
      ∃ filter update, Filter.read filterValue = .ok filter ∧
        Update.read updateValue = .ok update ∧
        Overflows filter update many (cluster.documents place) := by
  constructor
  · intro failed
    rcases bind_eq_error_iff.mp failed with failed | ⟨filter, reads, failed⟩
    · rcases mapError_eq_error_iff.mp failed with ⟨cause, -, same⟩
      cases same
    · rcases bind_eq_error_iff.mp failed with failed | ⟨update, readsUpdate, failed⟩
      · rcases mapError_eq_error_iff.mp failed with ⟨cause, -, same⟩
        cases same
      · rcases bind_eq_error_iff.mp failed with failed | ⟨revision, -, done⟩
        · rcases mapError_eq_error_iff.mp failed with ⟨cause, fails, same⟩
          rw [Fault.failure.inj same] at fails
          exact ⟨filter, update, mapError_eq_ok reads, mapError_eq_ok readsUpdate,
            revise_eq_tooLarge_iff.mp fails⟩
        · cases done
  · rintro ⟨filter, update, reads, readsUpdate, overflows⟩
    rw [Cluster.update, readFilter, readUpdate, reads, readsUpdate]
    dsimp only [Except.mapError, bind, Except.bind]
    rw [revise_eq_tooLarge_iff.mpr overflows]

/-- A call that fails is refused, or is an update that fails. -/
theorem perform_eq_error {default : String} {call : Call} {keeping : Keeping} {fault : Fault}
    (failed : (perform default call keeping).1 = .error fault) :
    fault.isRefusal = true ∨ ∃ place filterValue updateValue many,
      call = .update place filterValue updateValue many ∧
        keeping.cluster.update place filterValue updateValue many = .error fault := by
  have finding : ∀ {α : Type} {value : Json} {next : Filter → Except Fault α},
      (readFilter value >>= next) = .error fault → (∀ filter, next filter ≠ .error fault) →
        fault.isRefusal = true := by
    intro α value next failed never
    rcases bind_eq_error_iff.mp failed with failed | ⟨filter, -, failed⟩
    · exact isRefusal_readFilter failed
    · exact absurd failed (never filter)
  cases call with
  | databases =>
      cases failed
  | collections database =>
      cases failed
  | find place filter =>
      exact .inl (finding (map_eq_error_iff.mp failed) nofun)
  | findOne place filter =>
      exact .inl (finding (map_eq_error_iff.mp failed) nofun)
  | insert place values =>
      exact .inl (isRefusal_insertIdentified (Keeping.settle_eq_error_iff.mp failed))
  | update place filter update many =>
      exact .inr ⟨place, filter, update, many, rfl, Keeping.settle_eq_error_iff.mp failed⟩
  | delete place filter many =>
      exact .inl (finding (Keeping.settle_eq_error_iff.mp failed) nofun)

/-- A cluster fails with a refusal, or because a sum overflows. -/
theorem perform_refuses {default : String} {call : Call} {keeping : Keeping} {fault : Fault}
    (failed : (perform default call keeping).1 = .error fault) :
    fault.isRefusal = true ∨ fault = .failure .integerTooLarge := by
  rcases perform_eq_error failed with refused | ⟨_, _, _, _, -, failed⟩
  · exact .inl refused
  · exact update_eq_error failed

theorem perform_eq_tooLarge_iff {default : String} {call : Call} {keeping : Keeping} :
    (perform default call keeping).1 = .error (.failure .integerTooLarge) ↔
      CallOverflows keeping.cluster call := by
  constructor
  · intro failed
    rcases perform_eq_error failed with
      refused | ⟨place, filterValue, updateValue, many, rfl, fails⟩
    · cases refused
    · rcases update_eq_tooLarge_iff.mp fails with ⟨filter, update, reads, readsUpdate, overflows⟩
      exact ⟨place, filterValue, updateValue, many, filter, update, rfl, reads, readsUpdate,
        overflows⟩
  · rintro ⟨place, filterValue, updateValue, many, filter, update, rfl, reads, readsUpdate,
      overflows⟩
    exact Keeping.settle_eq_error_iff.mpr
      (update_eq_tooLarge_iff.mpr ⟨filter, update, reads, readsUpdate, overflows⟩)

end Store.Cluster

namespace Service

/-- The fault is one that callers see as one of the arguments or of the store. -/
def Fault.isExpected (fault : Fault) : Bool :=
  fault.kind? = some .argumentShapeError || fault.kind? = some .backendError

namespace Machine

variable {machine : Machine} {label cluster default : String} {number : Nat} {handle : Handle}

/-- What a call for an operation replies is the answer of the operation. -/
theorem resumeCall_dispatched (there : machine.world.handle? number = some handle)
    (backend : handle.backend = .memory cluster default false) (call : Store.Call)
    (operation : Operation) :
    ∃ next, machine.resumeCall label number cluster default call (.dispatched operation) =
      (machine.within next).finish label ((Use.dispatched operation).answer
        (Store.Cluster.perform default call
          ⟨machine.world.contents cluster, machine.world.given⟩).1) := by
  have open? : (machine.world.handle? number).all (·.backend.isClosed) = false := by
    rw [there, Option.all_some, backend]
    rfl
  rw [resumeCall, open?, if_neg Bool.false_ne_true]
  exact ⟨_, rfl⟩

/-- A handle of a cluster in memory. -/
def localHandle : Handle :=
  .ofBackend "memory://local/app" (.memory "local" "app" false)

/-- The handle of a cluster with nothing in it. -/
def withCluster : Machine where
  world := { World.ofSettings Settings.defaults {} [("local", [])] with handles := [localHandle] }

/-- A document with the count is to be inserted. -/
def insertingCount (count : Int) : Command.Descriptor :=
  ⟨"counts", .insertOne, .object [("_id", .integer 1), ("count", .integer count)]⟩

/-- Half of one is to be added to the count of each document. -/
def addingHalf : Command.Descriptor :=
  let half : Json := .object [("count", Store.Cluster.decimal 5 1)]
  ⟨"counts", .updateMany, .object [("filter", .object []), ("update", .object [("$inc", half)])]⟩

/-- The count is inserted, and half of one is added to it. -/
def countAndHalf (count : Int) : Machine :=
  let inserted := (withCluster.submit "insert" (.dispatch 0 (insertingCount count))).settle
  (inserted.submit "increase" (.dispatch 0 addingHalf)).settle

end Machine

end Service

end DocumentGate
