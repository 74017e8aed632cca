import DocumentGate.Proofs.OverflowingSums
import DocumentGate.Proofs.ValidSettings
import DocumentGate.Settings.File

/-!
# Usable values of a settings file

What a settings file may say about each setting.  A value that is usable passes the check that the
setting has, so that nothing that is taken from a file is refused later; what is not usable is
passed over, with two exceptions: whole numbers of seconds for which there is no double, and lists
and tables among the operations.
-/

namespace DocumentGate

namespace Double

/-- What a significand above zero makes is above zero. -/
theorem less_ofParts {significand : Nat} (positive : 0 < significand) (exponent : Nat) :
    Number.less (.integer 0) (.double (ofParts false significand exponent)) = true := by
  unfold ofParts
  split
  · have above : 0 < significand * Nat.pow 2 exponent :=
      Nat.mul_pos positive (Nat.two_pow_pos exponent)
    show decide ((0 : Int) * stepsPerUnit < signed false (significand * Nat.pow 2 exponent)) = true
    rw [Int.zero_mul]
    exact decide_eq_true (Int.natCast_pos.mpr above)
  · rfl

/-- A number of steps above zero is rounded to a double above zero. -/
theorem less_nearest {steps : Nat} (positive : 0 < steps) :
    Number.less (.integer 0) (.double (nearest false steps 1)) = true := by
  have significand : 0 < Number.divideRounding steps (2 ^ shiftFor steps) := by
    rcases Nat.eq_zero_or_pos (shiftFor steps) with unshifted | shifted
    · rw [unshifted]
      refine Number.le_divideRounding Nat.one_pos ?_
      rw [Nat.pow_zero, Nat.mul_one]
      exact positive
    · exact Nat.lt_of_lt_of_le (by decide) (le_significand shifted)
  rw [nearest_one]
  split
  · exact less_ofParts (by decide) _
  · exact less_ofParts significand _

/-- The double of a whole number above zero is above zero. -/
theorem less_of_ofInteger? {value : Int} {double : Double} (positive : 0 < value)
    (found : ofInteger? value = some double) :
    Number.less (.integer 0) (.double double) = true := by
  have unit : 0 < stepsPerUnit := by decide +kernel
  have sign : decide (value < 0) = false := by simpa using positive.le
  rw [ofInteger?_eq_filter, Option.filter_eq_some_iff] at found
  rw [← Option.some.inj found.1, sign]
  exact less_nearest (Nat.mul_pos (by omega) unit)

end Double

/-- An operation that is found by a name has it. -/
theorem Operation.name_of_ofName? {name : String} {operation : Operation}
    (found : Operation.ofName? name = some operation) : operation.name = name :=
  by simpa using List.find?_some found

namespace Settings

/-! ## Seconds -/

/-- A number of seconds above zero for which there is a double. -/
def secondsOf? : Toml → Option Double
  | .integer value => if 0 < value then Double.ofInteger? value else none
  | .double value => if Number.less (.integer 0) (.double value) then some value else none
  | _ => none

/-- The value is a whole number above zero for which there is no double. -/
def IsTooLarge (value : Toml) : Prop :=
  ∃ number : Int, value = .integer number ∧ (Double.integerLimit : Int) ≤ number

theorem fileSeconds_of_isTooLarge {value : Toml} (large : IsTooLarge value) :
    fileSeconds value = .error .integerTooLarge := by
  rcases large with ⟨number, rfl, large⟩
  have limit : 0 < Double.integerLimit := by
    decide +kernel
  have beyond : Double.ofInteger? number = none := by
    rw [Double.ofInteger?_eq_none_iff]
    omega
  rw [fileSeconds, if_neg (show ¬number ≤ 0 by omega), beyond]

theorem fileSeconds_of_not_isTooLarge {value : Toml} (small : ¬IsTooLarge value) :
    fileSeconds value = .ok ((secondsOf? value).map ofDouble) := by
  cases value with
  | integer number =>
      rw [fileSeconds, secondsOf?]
      split
      · rename_i below
        rw [if_neg (Int.not_lt.mpr below)]
        rfl
      · rename_i above
        rw [if_pos (Int.not_le.mp above)]
        cases found : Double.ofInteger? number with
        | some seconds =>
            rfl
        | none =>
            rw [Double.ofInteger?_eq_none_iff] at found
            exact (small ⟨number, rfl, by omega⟩).elim
  | double number =>
      rw [fileSeconds, secondsOf?]
      split <;> rfl
  | text | boolean | moment | array | table =>
      rfl

/-- Usable seconds are above zero. -/
theorem less_of_secondsOf? {value : Toml} {seconds : Double}
    (usable : secondsOf? value = some seconds) :
    Number.less (.integer 0) (.double seconds) = true := by
  cases value with
  | integer number =>
      rw [secondsOf?] at usable
      split at usable
      · rename_i above
        exact Double.less_of_ofInteger? above usable
      · cases usable
  | double number =>
      rw [secondsOf?] at usable
      split at usable
      · rename_i above
        rw [← Option.some.inj usable]
        exact above
      · cases usable
  | text | boolean | moment | array | table =>
      cases usable

/-- Usable seconds are accepted. -/
theorem positiveDouble_of_secondsOf? {value : Toml} {seconds : Double}
    (usable : secondsOf? value = some seconds) :
    positiveDouble (ofDouble seconds) = .ok seconds := by
  have read : toDouble (ofDouble seconds) = .ok seconds := rfl
  simp only [positiveDouble, read, bind, Except.bind, less_of_secondsOf? usable]
  rfl

/-! ## Whole numbers and texts -/

/-- A whole number above zero and below the bound, if there is one. -/
def wholeOf? (bound : Option Int) : Toml → Option Int
  | .integer value => if 0 < value ∧ ∀ limit ∈ bound, value < limit then some value else none
  | _ => none

theorem fileWhole_eq (bound : Option Int) (value : Toml) :
    fileWhole bound value = .ok ((wholeOf? bound value).map .integer) := by
  cases value with
  | integer number =>
      have agree : (decide (number ≤ 0) || bound.any (· ≤ number)) = false ↔
          0 < number ∧ ∀ limit ∈ bound, number < limit := by
        cases bound <;> simp
      rw [fileWhole, wholeOf?]
      by_cases within : 0 < number ∧ ∀ limit ∈ bound, number < limit
      · rw [if_pos within, agree.mpr within]
        rfl
      · rw [if_neg within, Bool.eq_true_of_not_eq_false (mt agree.mp within)]
        rfl
  | text | double | boolean | moment | array | table =>
      rfl

/-- A usable whole number is above zero and below its bound. -/
theorem wholeOf?_eq_some {bound : Option Int} {value : Toml} {number : Int}
    (usable : wholeOf? bound value = some number) :
    0 < number ∧ ∀ limit ∈ bound, number < limit := by
  cases value with
  | integer given =>
      rw [wholeOf?] at usable
      split at usable
      · rename_i within
        rw [← Option.some.inj usable]
        exact within
      · cases usable
  | text | double | boolean | moment | array | table =>
      cases usable

theorem positiveInteger_of_wholeOf? {bound : Option Int} {value : Toml} {number : Int}
    (usable : wholeOf? bound value = some number) :
    positiveInteger (.integer number) = .ok number := by
  have above := (wholeOf?_eq_some usable).1
  simp only [positiveInteger, Json.integer, toInteger, bind, Except.bind,
    if_neg (Int.not_le.mpr above)]
  rfl

theorem portNumber_of_wholeOf? {value : Toml} {number : Int}
    (usable : wholeOf? (some 65536) value = some number) :
    portNumber (.integer number) = .ok number := by
  rcases wholeOf?_eq_some usable with ⟨above, below⟩
  simp only [portNumber, Json.integer, toInteger, bind, Except.bind,
    if_neg (Int.not_le.mpr above), if_neg (Int.not_le.mpr (below 65536 rfl))]
  rfl

/-- A text that is not blank. -/
def textOf? : Toml → Option String
  | .text value => if Text.isBlankText value then none else some value
  | _ => none

theorem fileText_eq (value : Toml) :
    fileText value = .ok ((textOf? value).map Json.string) := by
  cases value with
  | text value =>
      rw [fileText, textOf?]
      split <;> rfl
  | integer | double | boolean | moment | array | table =>
      rfl

theorem prefixText_of_textOf? {value : Toml} {text : String}
    (usable : textOf? value = some text) :
    prefixText (.string text) = .ok (Text.strip text) := by
  cases value with
  | text given =>
      rw [textOf?] at usable
      split at usable
      · cases usable
      · rename_i shown
        rw [← Option.some.inj usable]
        simp only [prefixText, toText, bind, Except.bind, if_neg shown]
        rfl
  | integer | double | boolean | moment | array | table =>
      cases usable

/-! ## Lists -/

/-- The operation that an element of a list names. -/
def operationOf? : Toml → Option Operation
  | .text name => Operation.ofName? name
  | _ => none

/-- The operations that a list names, in its order. -/
def operationsOf? : Toml → Option (List Operation)
  | .array elements => some (elements.filterMap operationOf?)
  | _ => none

/-- The fault with an element of a list that cannot be looked up by name. -/
def elementFault? : Toml → Option LoadFault
  | .array _ => some .listAmongOperations
  | .table _ => some .tableAmongOperations
  | _ => none

/-- The fault with the first element of a list that cannot be looked up by name. -/
def listFault? : Toml → Option LoadFault
  | .array elements => elements.findSome? elementFault?
  | _ => none

/-- What is taken of an element of a list. -/
def takeOperation (element : Toml) : Except LoadFault (Option Json) :=
  match elementFault? element with
  | some fault => .error fault
  | none => .ok ((operationOf? element).map fun operation => .string operation.name)

theorem fileOperations_array (elements : List Toml) :
    fileOperations (.array elements) =
      (elements.filterMapM takeOperation).map fun names => some (.array names) := by
  have run : fileOperations (.array elements) =
      (do let names ← elements.filterMapM takeOperation; return some (.array names)) := by
    rw [fileOperations]
    congr 2
    funext element
    cases element with
    | text name =>
        simp only [takeOperation, elementFault?, operationOf?]
        cases found : Operation.ofName? name with
        | none =>
            rfl
        | some operation =>
            simp [Operation.name_of_ofName? found]
    | integer | double | boolean | moment | array | table =>
        rfl
  rw [run]
  cases elements.filterMapM takeOperation <;> rfl

theorem errorOf?_takeOperation (element : Toml) :
    errorOf? (takeOperation element) = elementFault? element := by
  rw [takeOperation]
  cases elementFault? element <;> rfl

/-- The fault with a list of operations is that of its first list or table. -/
theorem errorOf?_fileOperations (value : Toml) :
    errorOf? (fileOperations value) = listFault? value := by
  cases value with
  | array elements =>
      rw [fileOperations_array, errorOf?_map, errorOf?_filterMapM]
      simp only [errorOf?_takeOperation, listFault?]
  | text | integer | double | boolean | moment | table =>
      rfl

theorem fileOperations_of_none {value : Toml} (unhindered : listFault? value = none) :
    fileOperations value =
      .ok ((operationsOf? value).map fun operations => ofStrings (operations.map Operation.name)) := by
  cases value with
  | array elements =>
      have steps : ∀ element ∈ elements, takeOperation element =
          .ok ((operationOf? element).map fun operation => .string operation.name) := by
        intro element among
        rw [takeOperation, List.findSome?_eq_none_iff.mp unhindered element among]
      rw [fileOperations_array, filterMapM_of_ok steps, ← List.map_filterMap]
      simp only [operationsOf?, ofStrings, Except.map, Option.map_some, List.map_map]
      rfl
  | text | integer | double | boolean | moment | table =>
      rfl

/-- A keyword among the elements of a list: a text that is not empty. -/
def keywordOf? : Toml → Option String
  | .text word => if word.isEmpty then none else some word
  | _ => none

/-- The keywords of a list, in its order. -/
def keywordsOf? : Toml → Option (List String)
  | .array elements => some (elements.filterMap keywordOf?)
  | _ => none

theorem fileKeywords_eq (value : Toml) :
    fileKeywords value = .ok ((keywordsOf? value).map ofStrings) := by
  cases value with
  | array elements =>
      rw [fileKeywords, keywordsOf?, Option.map_some, ofStrings, List.map_filterMap]
      congr 4
      funext element
      cases element with
      | text word =>
          simp only [keywordOf?]
          split <;> rfl
      | integer | double | boolean | moment | array | table =>
          rfl
  | text | integer | double | boolean | moment | table =>
      rfl

theorem readStrings_ofStrings {pairs : Json.Members} {field : String} {strings : List String}
    (given : Dictionary.get? field pairs = some (ofStrings strings)) (default : List String) :
    readStrings pairs field default = .valid strings := by
  have read : ∀ (strings : List String) (start : Nat), ((strings.map Json.string).zipIdx start).foldr
      (fun entry rest => List.cons <$>
        Validated.ofResult (field ++ "." ++ toString entry.2) (toText entry.1) <*> rest)
      (.valid []) = .valid strings := by
    intro strings
    induction strings with
    | nil =>
        exact fun _ => rfl
    | cons first rest ih =>
        intro start
        rw [List.map_cons, List.zipIdx_cons, List.foldr_cons, ih]
        rfl
  rw [readStrings, given]
  exact read strings 0

theorem knownOperations_names (field : String) (operations : List Operation) :
    knownOperations field (.valid (operations.map Operation.name)) = .valid operations := by
  have known : (operations.map Operation.name).filterMap Operation.ofName? = operations := by
    rw [List.filterMap_map]
    simp
  have unknown : (operations.map Operation.name).filter
      (fun name => (Operation.ofName? name).isNone) = [] := by
    simp
  rw [knownOperations, unknown, known]
  rfl

end Settings
end DocumentGate
