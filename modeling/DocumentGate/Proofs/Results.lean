/-!
# Results of steps

What is computed in steps has a result only if each step has one, and the result comes from
theirs.
-/

namespace DocumentGate

variable {Error Other First Last : Type}

/-- What is computed in steps comes from a value of the first one. -/
theorem bind_eq_ok {first : Except Error First} {next : First → Except Error Last} {result : Last}
    (ran : (first >>= next) = .ok result) :
    ∃ value, first = .ok value ∧ next value = .ok result := by
  cases first with
  | error stop =>
      cases ran
  | ok value =>
      exact ⟨value, rfl, ran⟩

/-- A list that is computed in steps has a value of the first one before the others. -/
theorem cons_eq_ok {first : Except Error First} {others : Except Error (List First)}
    {values : List First}
    (ran : (do
      let value ← first
      let further ← others
      return value :: further) = .ok values) :
    ∃ value further, first = .ok value ∧ others = .ok further ∧ value :: further = values := by
  rcases bind_eq_ok ran with ⟨value, begun, ran⟩
  rcases bind_eq_ok ran with ⟨further, done, same⟩
  exact ⟨value, further, begun, done, Except.ok.inj same⟩

/-- What is computed under another name for faults has the same results. -/
theorem mapError_eq_ok {result : Except Error Last} {change : Error → Other} {value : Last}
    (ran : result.mapError change = .ok value) : result = .ok value := by
  cases result with
  | error stop =>
      cases ran
  | ok found =>
      exact congrArg Except.ok (Except.ok.inj ran)

/-- What is made of a result is made of its value. -/
theorem map_eq_ok {result : Except Error First} {make : First → Last} {value : Last}
    (ran : result.map make = .ok value) : ∃ origin, result = .ok origin ∧ make origin = value := by
  cases result with
  | error stop =>
      cases ran
  | ok origin =>
      exact ⟨origin, rfl, Except.ok.inj ran⟩

/-- What is computed in steps ends with a fault of the first one, or of those after it. -/
theorem bind_eq_error_iff {first : Except Error First} {next : First → Except Error Last}
    {fault : Error} : (first >>= next) = .error fault ↔
      first = .error fault ∨ ∃ value, first = .ok value ∧ next value = .error fault := by
  cases first with
  | error stop =>
      exact ⟨fun same => .inl (congrArg Except.error (Except.error.inj same)), by
        rintro (same | ⟨value, done, -⟩)
        · exact congrArg Except.error (Except.error.inj same)
        · cases done⟩
  | ok value =>
      constructor
      · exact fun failed => .inr ⟨value, rfl, failed⟩
      · rintro (failed | ⟨other, same, failed⟩)
        · cases failed
        · obtain rfl := Except.ok.inj same
          exact failed

/-- A fault under another name is one of what was computed. -/
theorem mapError_eq_error_iff {result : Except Error Last} {change : Error → Other}
    {fault : Other} :
    result.mapError change = .error fault ↔
      ∃ cause, result = .error cause ∧ change cause = fault := by
  cases result with
  | error stop =>
      constructor
      · exact fun same => ⟨stop, rfl, Except.error.inj same⟩
      · rintro ⟨cause, same, rfl⟩
        rw [Except.error.inj same]
        rfl
  | ok value =>
      exact iff_of_false nofun fun ⟨_, failed, _⟩ => nomatch failed

/-- What is made of a result has the faults of the result. -/
theorem map_eq_error_iff {result : Except Error First} {make : First → Last} {fault : Error} :
    result.map make = .error fault ↔ result = .error fault := by
  cases result with
  | error stop =>
      exact ⟨fun same => congrArg Except.error (Except.error.inj same),
        fun same => congrArg Except.error (Except.error.inj same)⟩
  | ok value =>
      exact iff_of_false nofun nofun

/-- The fault of a result. -/
def errorOf? : Except Error Last → Option Error
  | .ok _ => none
  | .error fault => some fault

theorem errorOf?_eq_some_iff {result : Except Error Last} {fault : Error} :
    errorOf? result = some fault ↔ result = .error fault := by
  cases result <;> simp [errorOf?]

theorem toOption_eq_some_iff {result : Except Error Last} {value : Last} :
    result.toOption = some value ↔ result = .ok value := by
  cases result <;> simp [Except.toOption]

/-- What is made of a result has the fault of the result. -/
theorem errorOf?_map (result : Except Error First) (make : First → Last) :
    errorOf? (result.map make) = errorOf? result := by
  cases result <;> rfl

/-- What each step keeps is kept by all of them. -/
theorem foldlM_keeps {State Step : Type} {step : State → Step → Except Error State}
    {steps : List Step} {first last : State} (Kept : State → Prop)
    (keeps : ∀ item ∈ steps, ∀ before after, step before item = .ok after →
      Kept before → Kept after)
    (ran : steps.foldlM step first = .ok last) (kept : Kept first) : Kept last := by
  induction steps generalizing first with
  | nil =>
      obtain rfl := Except.ok.inj ran
      exact kept
  | cons item rest ih =>
      rw [List.foldlM_cons] at ran
      rcases bind_eq_ok ran with ⟨between, stepped, ran⟩
      exact ih (fun other member => keeps other (List.mem_cons_of_mem item member)) ran
        (keeps item List.mem_cons_self first between stepped kept)

/-- A list of steps under another name for faults is the list of them, under that name. -/
theorem mapM_mapError (step : First → Except Error Last) (change : Error → Other)
    (firsts : List First) :
    firsts.mapM (fun first => (step first).mapError change) =
      (firsts.mapM step).mapError change := by
  induction firsts with
  | nil =>
      rfl
  | cons first rest ih =>
      rw [List.mapM_cons, List.mapM_cons, ih]
      cases step first with
      | error fault =>
          rfl
      | ok value =>
          cases rest.mapM step <;> rfl

/-- A list of steps ends with the first of their faults. -/
theorem errorOf?_mapM (step : First → Except Error Last) (firsts : List First) :
    errorOf? (firsts.mapM step) = firsts.findSome? fun first => errorOf? (step first) := by
  induction firsts with
  | nil =>
      rfl
  | cons first rest ih =>
      rw [List.mapM_cons, List.findSome?_cons, ← ih]
      cases step first with
      | error fault =>
          rfl
      | ok value =>
          cases rest.mapM step <;> rfl

/-- Each value that a list of steps results in comes from one of them. -/
theorem mapM_eq_ok {step : First → Except Error Last} {firsts : List First} {lasts : List Last}
    (ran : firsts.mapM step = .ok lasts) :
    ∀ last ∈ lasts, ∃ first ∈ firsts, step first = .ok last := by
  induction firsts generalizing lasts with
  | nil =>
      rw [List.mapM_nil] at ran
      obtain rfl := Except.ok.inj ran
      simp
  | cons first rest ih =>
      rw [List.mapM_cons] at ran
      rcases cons_eq_ok ran with ⟨value, values, stepped, further, rfl⟩
      intro last member
      rcases List.mem_cons.mp member with rfl | later
      · exact ⟨first, List.mem_cons_self, stepped⟩
      · rcases ih further last later with ⟨origin, among, made⟩
        exact ⟨origin, List.mem_cons_of_mem first among, made⟩

/-- Steps that may leave a value out end with the first of their faults. -/
theorem errorOf?_filterMapM (step : First → Except Error (Option Last)) (firsts : List First) :
    errorOf? (firsts.filterMapM step) = firsts.findSome? fun first => errorOf? (step first) := by
  induction firsts with
  | nil =>
      rfl
  | cons first rest ih =>
      rw [List.filterMapM_cons, List.findSome?_cons, ← ih]
      cases step first with
      | error fault =>
          rfl
      | ok value? =>
          cases value? with
          | none =>
              rfl
          | some value =>
              cases rest.filterMapM step <;> rfl

/-- Steps that may leave a value out result in what each of them results in. -/
theorem filterMapM_of_ok {step : First → Except Error (Option Last)} {pick : First → Option Last}
    {firsts : List First} (steps : ∀ first ∈ firsts, step first = .ok (pick first)) :
    firsts.filterMapM step = .ok (firsts.filterMap pick) := by
  induction firsts with
  | nil =>
      rfl
  | cons first rest ih =>
      rw [List.filterMapM_cons, steps first List.mem_cons_self,
        ih fun later among => steps later (List.mem_cons_of_mem first among)]
      cases picked : pick first with
      | none =>
          rw [List.filterMap_cons_none picked]
          rfl
      | some value =>
          rw [List.filterMap_cons_some picked]
          rfl

end DocumentGate
