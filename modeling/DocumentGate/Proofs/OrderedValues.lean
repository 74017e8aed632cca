import DocumentGate.Proofs.UnreadFilters
import Mathlib.Algebra.Order.Field.Basic
import Mathlib.Algebra.Order.Ring.Rat
import Mathlib.Data.String.Basic
import Mathlib.Order.WithBot

/-!
# The order of values

Numbers are ordered by their exact values: whole numbers of any size and doubles stand on one line,
with the infinities at its ends.  Strings are ordered by their characters.  Nothing else has an
order, and neither has a double that is not a number.

The comparisons of what stands at a path with an operand are answered by this order.  Where the two
have one, exactly one of less, equal and greater holds; where they have none, no comparison does.
-/

namespace DocumentGate

namespace Number

/-- A point of the line of exact values, which has the infinities at its ends. -/
abbrev Point := WithBot (WithTop ℚ)

/-- The exact value of a number, if it has one. -/
def point? : Number → Option Point
  | .integer value => some ((value : ℚ) : WithTop ℚ)
  | .double (.infinite negative) => some (if negative then ⊥ else ⊤)
  | .double value => value.toRat?.map fun (exact : ℚ) => ((exact : WithTop ℚ) : Point)

/-- How the exact values of two numbers are ordered, if both have one. -/
def ordering? (left right : Number) : Option Ordering :=
  left.point?.bind fun first => right.point?.map (compare first)

/-- Only what is not a number has no exact value. -/
theorem isSome_point? (number : Number) :
    number.point?.isSome = true ↔ ∀ mark, number ≠ .double (.nan mark) := by
  cases number with
  | integer value =>
      simp [point?]
  | double value =>
      cases value <;> simp [point?, Double.toRat?]

/-! ## Places and exact values -/

/-- The point at a place. -/
def Place.point : Place → Point
  | .lowest => ⊥
  | .steps count => (((count : ℚ) / (Double.stepsPerUnit : ℚ) : ℚ) : WithTop ℚ)
  | .highest => ⊤

theorem stepsPerUnit_pos : (0 : ℚ) < (Double.stepsPerUnit : ℚ) := by
  have unit : 0 < Double.stepsPerUnit := by
    decide +kernel
  exact Nat.cast_pos.mpr unit

/-- The exact value of a number is the point at its place. -/
theorem point?_eq (number : Number) : number.point? = number.place?.map Place.point := by
  cases number with
  | integer value =>
      rw [point?, place?, Option.map_some, Place.point, Int.cast_mul, Int.cast_natCast,
        mul_div_cancel_right₀ _ stepsPerUnit_pos.ne']
  | double value =>
      cases value with
      | finite negative significand exponent fits =>
          have exact := Rat.mkRat_eq_div
            (Double.signed negative (significand * Nat.pow 2 exponent)) Double.stepsPerUnit
          exact congrArg (fun exact : ℚ => some ((exact : WithTop ℚ) : Point)) exact
      | infinite negative =>
          cases negative <;> rfl
      | nan mark =>
          rfl

theorem Place.before_iff (left right : Place) :
    left.before right = true ↔ left.point < right.point := by
  cases left with
  | lowest =>
      cases right with
      | lowest => exact iff_of_false Bool.false_ne_true (lt_irrefl _)
      | steps other => exact iff_of_true rfl (WithBot.bot_lt_coe _)
      | highest => exact iff_of_true rfl (WithBot.bot_lt_coe _)
  | steps count =>
      cases right with
      | lowest => exact iff_of_false Bool.false_ne_true not_lt_bot
      | steps other =>
          rw [before, decide_eq_true_iff, point, point, WithBot.coe_lt_coe, WithTop.coe_lt_coe,
            div_lt_div_iff_of_pos_right stepsPerUnit_pos, Int.cast_lt]
      | highest => exact iff_of_true rfl (WithBot.coe_lt_coe.mpr (WithTop.coe_lt_top _))
  | highest =>
      exact iff_of_false (by cases right <;> exact Bool.false_ne_true) not_top_lt

theorem Place.point_injective : Function.Injective Place.point := by
  intro left right same
  have before : left.before right = false := by
    rw [← Bool.not_eq_true, before_iff, same]
    exact lt_irrefl _
  have behind : right.before left = false := by
    rw [← Bool.not_eq_true, before_iff, same]
    exact lt_irrefl _
  simpa [before, behind] using before_trichotomy left right

/-! ## Comparisons of numbers -/

section Comparisons

variable (left right : Number)

theorem less_eq : left.less right = (left.ordering? right == some .lt) := by
  rw [less, related, ordering?, point?_eq, point?_eq, Bool.eq_iff_iff, beq_iff_eq]
  cases left.place? <;> cases right.place? <;>
    simp [Place.before_iff, compare_lt_iff_lt]

theorem equals_eq : left.equals right = (left.ordering? right == some .eq) := by
  rw [equals, related, ordering?, point?_eq, point?_eq, Bool.eq_iff_iff, beq_iff_eq]
  cases left.place? <;> cases right.place? <;>
    simp [Place.point_injective.eq_iff]

theorem ordering?_swap : right.ordering? left = (left.ordering? right).map Ordering.swap := by
  cases first : left.point? with
  | none =>
      cases right.point? <;> simp [ordering?, first]
  | some low =>
      cases second : right.point? with
      | none =>
          simp [ordering?, first, second]
      | some high =>
          simp [ordering?, first, second, ← Std.OrientedCmp.eq_swap]

end Comparisons
end Number

/-! ## The order of two values -/

namespace Json

/-- How two values are ordered, if they have an order. -/
def ordering? : Json → Json → Option Ordering
  | .number left, .number right => left.ordering? right
  | .string left, .string right => some (compare left right)
  | _, _ => none

/-- Two numbers that have a value, or two strings. -/
inductive HasOrder : Json → Json → Prop
  | numbers {left right : Number} (first : ∀ mark, left ≠ .double (.nan mark))
      (second : ∀ mark, right ≠ .double (.nan mark)) : HasOrder (.number left) (.number right)
  | strings (left right : String) : HasOrder (.string left) (.string right)

variable {left right : Json}

theorem isSome_ordering? : (left.ordering? right).isSome = true ↔ HasOrder left right := by
  constructor
  · intro ordered
    unfold ordering? at ordered
    split at ordered
    · rename_i left right
      simp only [Number.ordering?, Option.isSome_bind, Option.isSome_map,
        Option.any_eq_true] at ordered
      rcases ordered with ⟨point, first, second⟩
      exact .numbers (left.isSome_point?.mp (Option.isSome_of_mem first))
        (right.isSome_point?.mp second)
    · exact .strings _ _
    · cases ordered
  · intro ordered
    cases ordered with
    | numbers first second =>
        rcases Option.isSome_iff_exists.mp ((Number.isSome_point? _).mpr first) with ⟨low, isLow⟩
        rcases Option.isSome_iff_exists.mp ((Number.isSome_point? _).mpr second) with ⟨high, isHigh⟩
        simp [ordering?, Number.ordering?, isLow, isHigh]
    | strings left right =>
        rfl

/-- Values that one comes before the other have an order. -/
theorem hasOrder_of_ordering? {order : Ordering} (ordered : left.ordering? right = some order) :
    HasOrder left right :=
  isSome_ordering?.mp (Option.isSome_of_mem ordered)

/-- What is less than something less is less, across whole numbers and doubles and among strings. -/
theorem ordering?_trans {first second third : Json} (less : first.ordering? second = some .lt)
    (further : second.ordering? third = some .lt) : first.ordering? third = some .lt := by
  cases hasOrder_of_ordering? less with
  | numbers =>
      cases hasOrder_of_ordering? further
      simp only [ordering?, Number.ordering?, Option.bind_eq_some_iff, Option.map_eq_some_iff,
        compare_lt_iff_lt] at less further ⊢
      rcases less with ⟨low, isLow, middle, isMiddle, below⟩
      rcases further with ⟨same, isSame, high, isHigh, above⟩
      obtain rfl := Option.some.inj (isMiddle.symm.trans isSame)
      exact ⟨low, isLow, high, isHigh, below.trans above⟩
  | strings =>
      cases hasOrder_of_ordering? further
      simp only [ordering?, Option.some.injEq, compare_lt_iff_lt] at less further ⊢
      exact less.trans further

end Json

/-! ## Comparisons of what stands at a path -/

namespace Filter

/-- What is related has this order. -/
def allows : Relation → Ordering → Bool
  | .greater, order => order == .gt
  | .greaterOrEqual, order => order != .lt
  | .less, order => order == .lt
  | .lessOrEqual, order => order != .gt

theorem relatesNumbers_eq (relation : Relation) (left right : Number) :
    relatesNumbers relation left right = (left.ordering? right).any (allows relation) := by
  cases relation <;>
    simp only [relatesNumbers, Number.lessOrEqual, Number.less_eq, Number.equals_eq,
      Number.ordering?_swap left right] <;>
    cases left.ordering? right with
    | none =>
        rfl
    | some order =>
        cases order <;> rfl

theorem relatesStrings_eq (relation : Relation) (left right : String) :
    relatesStrings relation left right = allows relation (compare left right) := by
  rcases lt_trichotomy left right with less | rfl | greater
  · rw [compare_lt_iff_lt.mpr less]
    cases relation <;> simp [relatesStrings, allows, less, less.le, less.not_gt, less.not_ge]
  · rw [compare_eq_iff_eq.mpr rfl]
    cases relation <;> simp [relatesStrings, allows]
  · rw [compare_gt_iff_gt.mpr greater]
    cases relation <;>
      simp [relatesStrings, allows, greater, greater.le, greater.not_gt, greater.not_ge]

/-- Values are related as their order allows, and not at all without one. -/
theorem relates_eq (relation : Relation) (value operand : Json) :
    relates relation (some value) operand = (value.ordering? operand).any (allows relation) := by
  cases value <;> cases operand <;> try rfl
  case number.number left right =>
    exact relatesNumbers_eq relation left right
  case string.string left right =>
    exact relatesStrings_eq relation left right

theorem relates_less_iff {value operand : Json} :
    relates .less (some value) operand = true ↔ value.ordering? operand = some .lt := by
  rw [relates_eq]
  cases value.ordering? operand with
  | none =>
      simp
  | some order =>
      cases order <;> simp [allows]

theorem relates_of_unordered (relation : Relation) {found : Option Json} {operand : Json}
    (unordered : ∀ value, found = some value → ¬Json.HasOrder value operand) :
    relates relation found operand = false := by
  cases found with
  | none =>
      rfl
  | some value =>
      have none : value.ordering? operand = none := by
        rw [← Option.not_isSome_iff_eq_none, Json.isSome_ordering?]
        exact unordered value rfl
      rw [relates_eq, none]
      rfl

/-- Values that have an order are equal where neither comes before the other. -/
theorem meets_eq {value operand : Json} {order : Ordering}
    (ordered : value.ordering? operand = some order) :
    meets value operand = (order == .eq) := by
  cases Json.hasOrder_of_ordering? ordered with
  | numbers =>
      rename_i left right _ _
      change left.equals right = _
      rw [Number.equals_eq]
      change left.ordering? right = some order at ordered
      rw [ordered]
      rfl
  | strings left right =>
      obtain rfl := Option.some.inj ordered
      change (left == right) = _
      rw [Bool.eq_iff_iff, beq_iff_eq, beq_iff_eq, compare_eq_iff_eq]

/-- The answer to one comparison of what stands at a path with an operand. -/
def compared (operator : String) (document : Document) (path : String) (operand : Json) :
    Except UnreadFault Bool :=
  matchesUnread document (.object [(path, .object [(operator, operand)])])

/-- Every comparison with the operand is answered by one order. -/
structure AnswersBy (order : Ordering) (document : Document) (path : String) (operand : Json) :
    Prop where
  less : compared "$lt" document path operand = .ok (order == .lt)
  equal : compared "$eq" document path operand = .ok (order == .eq)
  greater : compared "$gt" document path operand = .ok (order == .gt)
  lessOrEqual : compared "$lte" document path operand = .ok (order == .lt || order == .eq)
  greaterOrEqual : compared "$gte" document path operand = .ok (order == .gt || order == .eq)

/-- The comparisons of what stands at a path form one order. -/
structure OrdersAt (path : String) : Prop where
  /-- Of two numbers that have a value, or two strings, one order holds and no other. -/
  decided : ∀ {document : Document} {value operand : Json},
    document.lookup path = some value → Json.HasOrder value operand →
      ∃ order, value.ordering? operand = some order ∧ AnswersBy order document path operand
  transitive : ∀ {first second : Document} {middle high : Json},
    compared "$lt" first path middle = .ok true → second.lookup path = some middle →
      compared "$lt" second path high = .ok true → compared "$lt" first path high = .ok true
  /-- Whatever has no order with the operand, or is missing, fails each of the comparisons. -/
  undecided : ∀ {document : Document} {operand : Json},
    (∀ value, document.lookup path = some value → ¬Json.HasOrder value operand) →
      ∀ operator ∈ ["$lt", "$lte", "$gt", "$gte"],
        compared operator document path operand = .ok false

section Paths

variable {path : String} (isAnd : path ≠ "$and") (isOr : path ≠ "$or")

include isAnd isOr

theorem compared_eq {operator : String} (named : isOperatorName operator = true)
    (document : Document) (operand : Json) :
    compared operator document path operand =
      passesUnread (document.lookup path) operator operand := by
  rw [compared, matchesUnread_field isAnd isOr, fieldHoldsUnread_single named]

theorem compared_less (document : Document) (operand : Json) :
    compared "$lt" document path operand = .ok (relates .less (document.lookup path) operand) :=
  compared_eq isAnd isOr rfl document operand

/--
Comparisons with an operand are answered by the order of exact values, or of strings, and fail
where there is none.
-/
theorem comparisons_ordersAt : OrdersAt path where
  decided {document value operand} found ordered := by
    rcases Option.isSome_iff_exists.mp (Json.isSome_ordering?.mpr ordered) with ⟨order, known⟩
    have related (relation : Relation) :
        relates relation (document.lookup path) operand = allows relation order := by
      rw [found, relates_eq, known]
      rfl
    refine ⟨order, known, ?_, ?_, ?_, ?_, ?_⟩
    · rw [compared_less isAnd isOr, related]
      rfl
    · rw [compared_eq isAnd isOr rfl]
      change Except.ok (foundMeets (document.lookup path) operand) = _
      rw [found, foundMeets, meets_eq known]
    · rw [compared_eq isAnd isOr rfl]
      exact congrArg Except.ok (related .greater)
    · rw [compared_eq isAnd isOr rfl]
      refine (congrArg Except.ok (related .lessOrEqual)).trans ?_
      cases order <;> rfl
    · rw [compared_eq isAnd isOr rfl]
      refine (congrArg Except.ok (related .greaterOrEqual)).trans ?_
      cases order <;> rfl
  transitive {first second middle high} less found further := by
    rw [compared_less isAnd isOr] at less further ⊢
    replace less := Except.ok.inj less
    replace further := Except.ok.inj further
    cases low : first.lookup path with
    | none =>
        rw [low] at less
        cases less
    | some value =>
        rw [low, relates_less_iff] at less
        rw [found, relates_less_iff] at further
        rw [relates_less_iff.mpr (Json.ordering?_trans less further)]
  undecided {document operand} unordered operator member := by
    have unrelated (relation : Relation) := relates_of_unordered relation unordered
    simp only [List.mem_cons, List.not_mem_nil, or_false] at member
    rcases member with rfl | rfl | rfl | rfl <;>
      rw [compared_eq isAnd isOr rfl] <;>
      exact congrArg Except.ok (unrelated _)

end Paths

/-- A whole number that no double has is greater than the double nearest to it. -/
theorem comparisons_ordersAt_count :
    "count" ≠ "$and" ∧ "count" ≠ "$or" ∧ OrdersAt "count" ∧
      compared "$gt" [("count", .integer (2 ^ 53 + 1))] "count"
        (.number (.double (Double.nearest false ((2 ^ 53 + 1) * Double.stepsPerUnit) 1))) =
          .ok true :=
  ⟨by decide, by decide, comparisons_ordersAt (by decide) (by decide), by decide +kernel⟩

end Filter
end DocumentGate
