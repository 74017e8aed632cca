import DocumentGate.Proofs.StrictTexts

/-!
# Whole numbers of too many digits

A whole number is read up to the digit limit.  A longer one is no fault of the text that it is
in: reading stops with the number of its digits.  This happens at the start of a text if and
only if its digits are too many and neither a fraction nor a power of ten goes on after them.

What follows a run of numbers in a spelling is no part of one, so that the run alone tells.
-/

namespace DocumentGate.Argument

/-- Nothing that a text goes on with makes the digits before it more than a whole number. -/
structure EndsWhole (rest : List Char) : Prop where
  noDigit : Stops Char.isDigit rest
  noFraction : ∀ {pointed fraction}, FractionText pointed fraction → pointed <+: rest →
    pointed = []
  noPower : ∀ {raised power}, PowerText raised power → raised <+: rest → raised = []

/-- The text starts with a whole number of so many digits, and these are too many. -/
inductive Overruns : List Char → Nat → Prop where
  | whole {negative whole rest} (isWhole : WholeText whole)
      (many : Number.digitLimit < whole.length) (ends : EndsWhole rest) :
      Overruns (minus negative ++ (whole ++ rest)) whole.length

/-! ## The parts of a number -/

theorem FractionText.eq_nil {pointed : List Char} (isFraction : FractionText pointed []) :
    pointed = [] := by
  cases isFraction with
  | none =>
      rfl
  | some nonempty =>
      exact absurd rfl nonempty

theorem PowerText.eq_nil {raised : List Char} (isPower : PowerText raised Option.none) :
    raised = [] := by
  cases isPower
  rfl

/-- More digits than one are all that there are. -/
theorem spanWhole_stops {input whole after : List Char}
    (spanned : Json.spanWhole input = (whole, after)) (many : 1 < whole.length) :
    Stops Char.isDigit after := by
  unfold Json.spanWhole at spanned
  split at spanned
  · rcases Prod.mk.inj spanned with ⟨rfl, rfl⟩
    exact absurd many (Nat.lt_irrefl 1)
  · rcases Prod.mk.inj spanned with ⟨rfl, rfl⟩
    intro character member
    have stop := List.head?_dropWhile_not Char.isDigit input
    rw [Option.mem_def.mp member] at stop
    exact stop

/-- A fraction at the start of a text is found, if not to its end. -/
theorem FractionText.eq_nil_of_span {pointed fraction rest after : List Char}
    (isFraction : FractionText pointed fraction) (atStart : pointed <+: rest)
    (spanned : Json.spanFraction rest = ([], after)) : pointed = [] := by
  cases isFraction with
  | none =>
      rfl
  | @some digits nonempty all =>
      rcases atStart with ⟨more, rfl⟩
      rcases List.exists_cons_of_ne_nil nonempty with ⟨first, others, rfl⟩
      simp [Json.spanFraction, Json.spanDigits, all first List.mem_cons_self] at spanned

theorem PowerText.eq_nil_of_span {raised rest after : List Char} {power : Option Int}
    (isPower : PowerText raised power) (atStart : raised <+: rest)
    (spanned : Json.spanPower rest = (Option.none, after)) : raised = [] := by
  cases isPower with
  | none =>
      rfl
  | @some mark sign negative digits isMark signed nonempty all =>
      rcases atStart with ⟨more, rfl⟩
      rcases List.exists_cons_of_ne_nil nonempty with ⟨first, others, rfl⟩
      have isMark : (decide (mark = 'e') || decide (mark = 'E')) = true := by
        simpa using isMark
      have digit := all first List.mem_cons_self
      cases signed with
      | none =>
          simp only [Json.spanPower, List.cons_append, List.nil_append, isMark, if_true] at spanned
          split at spanned
          · rename_i same
            rw [(List.cons.inj same).1] at digit
            cases digit
          · rename_i same
            rw [(List.cons.inj same).1] at digit
            cases digit
          · simp [Json.spanDigits, digit] at spanned
      | _ =>
          simp [Json.spanPower, isMark, Json.spanDigits, digit] at spanned

/-- What is found to end a whole number ends it. -/
theorem endsWhole_iff {rest : List Char} (noDigit : Stops Char.isDigit rest) :
    EndsWhole rest ↔ Json.spanFraction rest = ([], rest) ∧ Json.spanPower rest = (none, rest) := by
  constructor
  · intro ends
    constructor
    · rcases spanned : Json.spanFraction rest with ⟨fraction, after⟩
      rcases spanFraction_spec spanned with ⟨pointed, rfl, isFraction⟩
      obtain rfl := ends.noFraction isFraction (List.prefix_append _ _)
      cases isFraction
      rfl
    · rcases spanned : Json.spanPower rest with ⟨power, after⟩
      rcases spanPower_spec spanned with ⟨raised, rfl, isPower⟩
      obtain rfl := ends.noPower isPower (List.prefix_append _ _)
      cases isPower
      rfl
  · rintro ⟨noFraction, noPower⟩
    exact ⟨noDigit, fun isFraction atStart => isFraction.eq_nil_of_span atStart noFraction,
      fun isPower atStart => isPower.eq_nil_of_span atStart noPower⟩

/-! ## Reading -/

/-- A number is read part by part after its sign. -/
theorem readNumber_signed {negative : Bool} {whole rest : List Char} (isWhole : WholeText whole)
    (noDigit : Stops Char.isDigit rest) :
    Json.readNumber (minus negative ++ (whole ++ rest)) =
      (let (fraction, afterFraction) := Json.spanFraction rest
       let (power, after) := Json.spanPower afterFraction
       if fraction.isEmpty && power.isNone then
         if Number.digitLimit < whole.length then .error (.oversized whole.length)
         else .ok (.integer (Double.signed negative (Nat.ofDigitChars 10 whole 0)), after)
       else
         .ok (.double (Double.ofDecimal negative (Nat.ofDigitChars 10 (whole ++ fraction) 0)
           (power.getD 0 - fraction.length)), after)) := by
  have wholeFound := spanWhole_append isWhole noDigit
  have nonempty : whole.isEmpty = false := by
    cases isWhole <;> rfl
  cases negative with
  | true =>
      show Json.readNumber ('-' :: (whole ++ rest)) = _
      simp only [Json.readNumber, wholeFound, nonempty]
      rfl
  | false =>
      show Json.readNumber (whole ++ rest) = _
      unfold Json.readNumber
      split
      rename_i sign plain signed
      split at signed
      · exact absurd ‹_› (isWhole.no_sign _ _)
      · rcases Prod.mk.inj signed with ⟨rfl, rfl⟩
        simp only [wholeFound, nonempty]
        rfl

/-- Reading stops at whole numbers of too many digits, and with their number. -/
theorem readNumber_eq_oversized_iff {input : List Char} {digits : Nat} :
    Json.readNumber input = .error (.oversized digits) ↔ Overruns input digits := by
  constructor
  · intro failed
    unfold Json.readNumber at failed
    split at failed
    rename_i negative unsigned signed
    have sign := minus_append signed
    split at failed
    rename_i whole afterWhole wholeFound
    split at failed
    · cases failed
    · rename_i nonempty
      rcases spanWhole_spec wholeFound (by simpa using nonempty) with ⟨rfl, isWhole⟩
      split at failed
      rename_i fraction afterFraction fractionFound
      split at failed
      rename_i power after powerFound
      split at failed
      · rename_i plain
        split at failed
        · rename_i many
          obtain rfl := Json.Stop.oversized.inj (Except.error.inj failed)
          rw [Bool.and_eq_true, List.isEmpty_iff, Option.isNone_iff_eq_none] at plain
          rcases plain with ⟨rfl, rfl⟩
          have noDigit := spanWhole_stops wholeFound (Nat.lt_trans (by decide) many)
          rcases spanFraction_spec fractionFound with ⟨pointed, rfl, isFraction⟩
          obtain rfl := isFraction.eq_nil
          rcases spanPower_spec powerFound with ⟨raised, rfl, isPower⟩
          obtain rfl := isPower.eq_nil
          rw [← sign]
          exact .whole isWhole many ((endsWhole_iff noDigit).mpr ⟨fractionFound, powerFound⟩)
        · cases failed
      · cases failed
  · rintro ⟨isWhole, many, ends⟩
    have found := (endsWhole_iff ends.noDigit).mp ends
    rw [readNumber_signed isWhole ends.noDigit, found.1]
    dsimp only
    rw [found.2]
    exact if_pos many

/-! ## Runs of numbers -/

/-- What is at the start of a text is within the part that holds all characters of its kind. -/
theorem prefix_of_stops {kind : Char → Bool} {part run text : List Char}
    (all : ∀ character ∈ part, kind character = true) (stops : Stops kind text)
    (atStart : part <+: run ++ text) : part <+: run := by
  rcases List.prefix_or_prefix_of_prefix atStart (List.prefix_append run text) with within | beyond
  · exact within
  · rcases beyond with ⟨more, rfl⟩
    rw [List.prefix_append_right_inj] at atStart
    cases more with
    | nil =>
        simp
    | cons first others =>
        rcases atStart with ⟨left, rfl⟩
        have stop := stops first rfl
        rw [all first (by simp)] at stop
        cases stop

theorem Stops.of_append {kind : Char → Bool} {rest text : List Char}
    (stops : Stops kind (rest ++ text)) : Stops kind rest := by
  cases rest with
  | nil =>
      simp [Stops]
  | cons first more =>
      exact stops

theorem Stops.append {kind : Char → Bool} {rest text : List Char} (stops : Stops kind rest)
    (further : Stops kind text) : Stops kind (rest ++ text) := by
  cases rest with
  | nil =>
      exact further
  | cons first more =>
      exact stops

section Runs

variable {text : List Char} (stops : Stops isNumberPart text)

include stops

theorem endsWhole_append_iff {rest : List Char} : EndsWhole (rest ++ text) ↔ EndsWhole rest := by
  constructor
  · intro ends
    exact ⟨ends.noDigit.of_append,
      fun isFraction atStart => ends.noFraction isFraction (atStart.trans (List.prefix_append _ _)),
      fun isPower atStart => ends.noPower isPower (atStart.trans (List.prefix_append _ _))⟩
  · intro ends
    exact ⟨ends.noDigit.append (stops.mono fun _ => isNumberPart_of_isDigit),
      fun isFraction atStart => ends.noFraction isFraction
        (prefix_of_stops isFraction.all stops atStart),
      fun isPower atStart => ends.noPower isPower (prefix_of_stops isPower.all stops atStart)⟩

/-- A run of numbers goes on in no text that starts with no part of a number. -/
theorem overruns_append_iff {run : List Char} {digits : Nat} :
    Overruns (run ++ text) digits ↔ Overruns run digits := by
  constructor
  · intro overruns
    generalize same : run ++ text = input at overruns
    cases overruns with
    | @whole negative whole rest isWhole many ends =>
        have all : ∀ character ∈ minus negative ++ whole, isNumberPart character = true := by
          refine List.forall_mem_append.mpr ⟨?_, fun character member =>
            isNumberPart_of_isDigit (isWhole.allDigits character member)⟩
          cases negative <;>
            simp [minus, isNumberPart]
        have atStart : minus negative ++ whole <+: run ++ text :=
          ⟨rest, by rw [same, List.append_assoc]⟩
        rcases prefix_of_stops all stops atStart with ⟨left, rfl⟩
        rw [List.append_assoc, List.append_assoc, List.append_cancel_left_eq,
          List.append_cancel_left_eq] at same
        subst same
        rw [List.append_assoc]
        exact .whole isWhole many ((endsWhole_append_iff stops).mp ends)
  · rintro ⟨isWhole, many, ends⟩
    rw [List.append_assoc, List.append_assoc]
    exact .whole isWhole many ((endsWhole_append_iff stops).mpr ends)

end Runs

theorem digit_lt {digit : Char} (isDigit : digit.isDigit = true) :
    digit.toNat - '0'.toNat < 10 := by
  simp only [Char.isDigit, Bool.and_eq_true, decide_eq_true_eq] at isDigit
  have high : digit.toNat ≤ ('9' : Char).toNat := UInt32.le_iff_toNat_le.mp isDigit.2
  have nine : ('9' : Char).toNat = '0'.toNat + 9 := rfl
  omega

/-- Digits behind a number make no more of it than their count allows. -/
theorem ofDigitChars_lt {digits : List Char} (all : AllDigits digits) (start : Nat) :
    Nat.ofDigitChars 10 digits start < (start + 1) * Nat.pow 10 digits.length := by
  induction digits generalizing start with
  | nil =>
      simp [Nat.ofDigitChars_eq_foldl]
  | cons first rest ih =>
      rcases List.forall_mem_cons.mp all with ⟨isDigit, allRest⟩
      have digit := digit_lt isDigit
      rw [Nat.ofDigitChars_cons, List.length_cons]
      calc Nat.ofDigitChars 10 rest (10 * start + (first.toNat - '0'.toNat))
          < (10 * start + (first.toNat - '0'.toNat) + 1) * 10 ^ rest.length := ih allRest _
        _ ≤ (start + 1) * 10 * 10 ^ rest.length := Nat.mul_le_mul_right _ (by omega)
        _ = (start + 1) * 10 ^ (rest.length + 1) := by
            rw [Nat.mul_assoc, Nat.pow_succ, Nat.mul_comm 10]

/-- A whole number has at least as many digits as its size calls for. -/
theorem WholeText.lt_length {whole : List Char} (isWhole : WholeText whole) {limit : Nat}
    (large : Nat.pow 10 limit ≤ Nat.ofDigitChars 10 whole 0) : limit < whole.length := by
  have less := Nat.lt_of_le_of_lt large (ofDigitChars_lt isWhole.allDigits 0)
  rw [Nat.zero_add, Nat.one_mul] at less
  exact (Nat.pow_lt_pow_iff_right (by decide)).mp less

/-- A number that does not overrun is small enough to be written. -/
theorem NumberText.fits {run : List Char} {number : Number} (isNumber : NumberText run number)
    (short : ∀ digits, ¬Overruns run digits) : number.isOversized = false := by
  cases isNumber with
  | @parts negative whole pointed fraction raised power isWhole isFraction isPower =>
      unfold numberOf
      split
      · rename_i plain
        rw [Bool.and_eq_true, List.isEmpty_iff, Option.isNone_iff_eq_none] at plain
        rcases plain with ⟨rfl, rfl⟩
        obtain rfl := isFraction.eq_nil
        obtain rfl := isPower.eq_nil
        rw [Number.isOversized, natAbs_signed, decide_eq_false_iff_not]
        intro large
        refine short _ (.whole isWhole (isWhole.lt_length large) ⟨by simp [Stops], ?_, ?_⟩)
        · exact fun _ atStart => List.prefix_nil.mp atStart
        · exact fun _ atStart => List.prefix_nil.mp atStart
      · rfl

end DocumentGate.Argument
