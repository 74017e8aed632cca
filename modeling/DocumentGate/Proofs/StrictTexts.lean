import DocumentGate.Proofs.LiteralSpelling

/-!
# Strict texts

A strict text is a value written with nothing between its parts.  Its strings stand in
quotation marks, and no comma stands before a closing bracket.  Every strict text is read as
the value that it is a text of, whatever comes after it, as long as a number at its end does
not run on and no whole number in it is beyond the digit limit.
-/

namespace DocumentGate.Argument

/-- The text is the phrase in the strict form. -/
inductive Strict : Phrase → List Char → Prop where
  | nullName : Strict (.literal .null) "null".toList
  | trueName : Strict (.literal (.boolean true)) "true".toList
  | falseName : Strict (.literal (.boolean false)) "false".toList
  | number {characters number} (isNumber : NumberText characters number)
      (fits : number.isOversized = false) : Strict (.literal (.number number)) characters
  | string {body codes} (spells : Spells '"' body codes) :
      Strict (.literal (.string (String.ofList (Text.joinSurrogates codes))))
        ('"' :: (body ++ ['"']))
  | emptyArray : Strict (.literal (.array [])) ['[', ']']
  | array {values inner} (elements : Strict (.elements values) inner) :
      Strict (.literal (.array values)) ('[' :: (inner ++ [']']))
  | emptyObject : Strict (.literal (.object [])) ['\x7b', '\x7d']
  | object {pairs inner} (members : Strict (.members pairs) inner) :
      Strict (.literal (.object (Dictionary.ofPairs pairs))) ('\x7b' :: (inner ++ ['\x7d']))
  | element {value text} (literal : Strict (.literal value) text) :
      Strict (.elements [value]) text
  | elements {value values text rest} (literal : Strict (.literal value) text)
      (further : Strict (.elements values) rest) :
      Strict (.elements (value :: values)) (text ++ ',' :: rest)
  | member {body codes value text} (spells : Spells '"' body codes)
      (literal : Strict (.literal value) text) :
      Strict (.members [(String.ofList (Text.joinSurrogates codes), value)])
        ('"' :: (body ++ '"' :: ':' :: text))
  | members {body codes value pairs text rest} (spells : Spells '"' body codes)
      (literal : Strict (.literal value) text) (further : Strict (.members pairs) rest) :
      Strict (.members ((String.ofList (Text.joinSurrogates codes), value) :: pairs))
        ('"' :: (body ++ '"' :: ':' :: (text ++ ',' :: rest)))

/-! ## Strings -/

/-- What stands for codes between quotation marks is read as the codes. -/
theorem Spells.readCodes {body : List Char} {codes : List Nat} (spells : Spells '"' body codes)
    (opened : Nat) (rest : List Char) :
    Json.readCodes opened (body ++ '"' :: rest) = .ok (codes, rest) := by
  induction spells with
  | nil =>
      rw [List.nil_append, Json.readCodes]
  | @plain character more codes unmarked unescaped printable further ih =>
      rw [List.cons_append, Json.readCodes]
      · rw [if_neg (Nat.not_lt.mpr printable), ih]
        rfl
      · exact unmarked
      · exact fun same _ => unescaped same
      · exact fun _ same _ => unescaped same
      · exact fun _ _ same _ => unescaped same
  | escape escaped further ih =>
      rw [List.cons_append, List.cons_append, Json.readCodes]
      · rw [escaped, ih]
        rfl
      · exact (escaped?_letter escaped).1
  | apostrophe single =>
      cases single
  | @unicode first second third fourth code more codes hexadecimal further ih =>
      have goes : (more ++ '"' :: rest).isEmpty = false := by
        simp
      simp only [List.cons_append, Json.readCodes, hexadecimal, goes, ih]
      rfl

/-- The string is read where its text stands before a quotation mark. -/
def ReadsString (text : String) (body : List Char) : Prop :=
  ∀ rest, Json.readString (body ++ '"' :: rest) = .ok (text, rest)

theorem Spells.readsString {body : List Char} {codes : List Nat} (spells : Spells '"' body codes) :
    ReadsString (String.ofList (Text.joinSurrogates codes)) body := by
  intro rest
  rw [Json.readString, spells.readCodes]
  rfl

/-! ## Numbers -/

/-- Digits behind a number make it as many times larger. -/
theorem le_ofDigitChars (digits : List Char) (start : Nat) :
    start * Nat.pow 10 digits.length ≤ Nat.ofDigitChars 10 digits start := by
  induction digits generalizing start with
  | nil =>
      simp [Nat.ofDigitChars_eq_foldl]
  | cons first rest ih =>
      rw [Nat.ofDigitChars_cons, List.length_cons]
      calc start * 10 ^ (rest.length + 1)
          = 10 * start * 10 ^ rest.length := by
            rw [Nat.pow_succ, Nat.mul_comm _ 10, ← Nat.mul_assoc, Nat.mul_comm start 10]
        _ ≤ (10 * start + (first.toNat - '0'.toNat)) * 10 ^ rest.length :=
            Nat.mul_le_mul_right _ (Nat.le_add_right _ _)
        _ ≤ Nat.ofDigitChars 10 rest (10 * start + (first.toNat - '0'.toNat)) :=
            ih _

/-- A digit that is not zero counts for something. -/
theorem digit_positive {digit : Char} (isDigit : digit.isDigit = true) (nonzero : digit ≠ '0') :
    0 < digit.toNat - '0'.toNat := by
  simp only [Char.isDigit, Bool.and_eq_true, decide_eq_true_eq] at isDigit
  have low : ('0' : Char).toNat ≤ digit.toNat := UInt32.le_iff_toNat_le.mp isDigit.1
  have other : digit.toNat ≠ ('0' : Char).toNat := fun same => nonzero (Char.toNat_inj.mp same)
  omega

/-- A whole number has no more digits than its size calls for. -/
theorem WholeText.length_le {whole : List Char} (isWhole : WholeText whole) {limit : Nat}
    (positive : 0 < limit) (small : Nat.ofDigitChars 10 whole 0 < Nat.pow 10 limit) :
    whole.length ≤ limit := by
  cases isWhole with
  | zero =>
      exact positive
  | @digits first rest nonzero digits =>
      have value := digit_positive (digits first List.mem_cons_self) nonzero
      rw [Nat.ofDigitChars_cons, Nat.mul_zero, Nat.zero_add] at small
      have fewer : 10 ^ rest.length < 10 ^ limit := by
        calc 10 ^ rest.length
            ≤ (first.toNat - '0'.toNat) * 10 ^ rest.length := Nat.le_mul_of_pos_left _ value
          _ ≤ Nat.ofDigitChars 10 rest (first.toNat - '0'.toNat) := le_ofDigitChars rest _
          _ < 10 ^ limit := small
      exact (Nat.pow_lt_pow_iff_right (by decide)).mp fewer

theorem natAbs_signed (negative : Bool) (magnitude : Nat) :
    (Double.signed negative magnitude).natAbs = magnitude := by
  cases negative <;> simp [Double.signed]

/-- A number of at most so many digits is read where its text stands and does not run on. -/
theorem NumberText.readNumber {characters rest : List Char} {number : Number}
    (isNumber : NumberText characters number) (fits : number.isOversized = false)
    (stops : Stops isNumberPart rest) :
    Json.readNumber (characters ++ rest) = .ok (number, rest) := by
  rcases isNumber.found stops with ⟨negative, whole, fraction, power, unsigned, _, _, rfl, rfl,
    isWhole, unmarked, wholeFound, fractionFound, powerFound⟩
  have nonempty : whole.isEmpty = false := by
    cases isWhole <;> rfl
  have within : (fraction.isEmpty && power.isNone) = true →
      ¬Number.digitLimit < whole.length := by
    intro plain
    rw [numberOf, if_pos plain, Number.isOversized, decide_eq_false_iff_not, Nat.not_le,
      natAbs_signed] at fits
    exact Nat.not_lt.mpr (isWhole.length_le (by decide) fits)
  have read : ∀ sign, (if fraction.isEmpty && power.isNone then
        if Number.digitLimit < whole.length then .error (.oversized whole.length)
        else .ok (.integer (Double.signed sign (Nat.ofDigitChars 10 whole 0)), rest)
      else
        .ok (.double (Double.ofDecimal sign (Nat.ofDigitChars 10 (whole ++ fraction) 0)
          (power.getD 0 - fraction.length)), rest)) =
      (Except.ok (numberOf sign whole fraction power, rest) :
        Except Json.Stop (Number × List Char)) := by
    intro sign
    unfold numberOf
    split
    · rename_i plain
      rw [if_neg (within plain)]
    · rfl
  cases negative with
  | true =>
      show Json.readNumber ('-' :: (unsigned ++ rest)) = _
      simp only [Json.readNumber, wholeFound, fractionFound, powerFound, nonempty]
      exact read true
  | false =>
      show Json.readNumber (unsigned ++ rest) = _
      unfold Json.readNumber
      split
      rename_i sign plain signed
      split at signed
      · exact absurd ‹_› (unmarked _)
      · rcases Prod.mk.inj signed with ⟨rfl, rfl⟩
        simp only [wholeFound, fractionFound, powerFound, nonempty]
        exact read false

/-! ## Values -/

/-- The text starts with no blank and with no closing bracket. -/
def Starts (text : List Char) : Prop :=
  ∃ first more, text = first :: more ∧ Json.isSpace first = false ∧
    first ∉ [']', '\x7d', '\uFEFF']

theorem Starts.append {text : List Char} (starts : Starts text) (more : List Char) :
    Starts (text ++ more) := by
  rcases starts with ⟨first, others, rfl, visible, goes⟩
  exact ⟨first, others ++ more, rfl, visible, goes⟩

/-- Nothing of a text is skipped but the blanks before it. -/
theorem Starts.skipSpace {text gap : List Char} (starts : Starts text)
    (blank : ∀ character ∈ gap, Json.isSpace character = true) (rest : List Char) :
    Json.skipSpace (gap ++ (text ++ rest)) = text ++ rest := by
  rcases starts with ⟨first, more, rfl, visible, -⟩
  rw [Json.skipSpace, List.dropWhile_append_of_pos blank, List.cons_append,
    List.dropWhile_cons_of_neg (by simp [visible])]

theorem starts_number {characters : List Char} {number : Number}
    (isNumber : NumberText characters number) : Starts characters := by
  rcases isNumber.isRun.eq_cons with ⟨first, rest, rfl, part⟩
  refine ⟨first, rest, rfl, not_isSpace_of_part part, ?_⟩
  intro member
  fin_cases member <;> cases part

theorem Strict.starts {phrase : Phrase} {text : List Char} (strict : Strict phrase text) :
    Starts text := by
  induction strict with
  | number isNumber fits =>
      exact starts_number isNumber
  | element literal ih =>
      exact ih
  | elements literal further ih =>
      exact ih.append _
  | _ =>
      exact ⟨_, _, rfl, by decide, by decide⟩

/-- The text is read as the phrase that it stands for. -/
def Reads : Phrase → List Char → Prop
  | .literal value, text => ∀ fuel rest, text.length ≤ fuel → Stops isNumberPart rest →
      Json.readValue fuel (text ++ rest) = .ok (value, rest)
  | .elements values, text => ∀ fuel rest, text.length < fuel →
      Json.readElements fuel (text ++ ']' :: rest) = .ok (values, rest)
  | .members pairs, text => ∀ fuel rest, text.length < fuel →
      Json.readMembers fuel (text ++ '\x7d' :: rest) = .ok (pairs, rest)

theorem stops_mark {mark : Char} (isMark : isPunctuation mark = true) (rest : List Char) :
    Stops isNumberPart (mark :: rest) := by
  rintro _ ⟨⟩
  exact (IsBoundary.not_part (Or.inr isMark)).1

theorem reads_number {characters : List Char} {number : Number}
    (isNumber : NumberText characters number) (fits : number.isOversized = false) :
    Reads (.literal (.number number)) characters := by
  intro fuel rest enough stops
  have read := isNumber.readNumber fits stops
  rcases isNumber.isRun.eq_cons with ⟨first, more, rfl, part⟩
  cases fuel with
  | zero =>
      exact absurd enough (Nat.not_succ_le_zero _)
  | succ fuel =>
      rw [List.cons_append] at read ⊢
      rw [readValue_numeric part, read]
      · rfl
      -- A minus sign is the start of infinity too, but no number goes on so.
      · rintro rfl others infinite
        rw [infinite] at read
        cases read

theorem reads_string {text : String} {body : List Char} (read : ReadsString text body) :
    Reads (.literal (.string text)) ('"' :: (body ++ ['"'])) := by
  intro fuel rest enough stops
  cases fuel with
  | zero =>
      exact absurd enough (Nat.not_succ_le_zero _)
  | succ fuel =>
      rw [List.cons_append, List.append_assoc, List.singleton_append, Json.readValue, read]
      rfl

theorem Reads.element {value : Json} {text : List Char} (literal : Reads (.literal value) text) :
    Reads (.elements [value]) text := by
  intro fuel rest enough
  cases fuel with
  | zero =>
      exact absurd enough (Nat.not_lt_zero _)
  | succ fuel =>
      rw [Json.readElements, literal _ _ (Nat.le_of_lt_succ enough) (stops_mark (by decide) rest)]
      rfl

section Gaps

variable {gap : List Char} (blank : ∀ character ∈ gap, Json.isSpace character = true)

include blank

theorem Reads.elements {value : Json} {values : List Json} {text more : List Char}
    (literal : Reads (.literal value) text) (further : Reads (.elements values) more)
    (starts : Starts more) :
    Reads (.elements (value :: values)) (text ++ ',' :: (gap ++ more)) := by
  intro fuel rest enough
  rw [List.length_append, List.length_cons, List.length_append] at enough
  cases fuel with
  | zero =>
      exact absurd enough (Nat.not_lt_zero _)
  | succ fuel =>
      rw [List.append_assoc, List.cons_append, List.append_assoc, Json.readElements,
        literal _ _ (by omega) (stops_mark (by decide) _)]
      change (Json.readElements fuel (Json.skipSpace (gap ++ (more ++ ']' :: rest))) >>= _) = _
      rw [starts.skipSpace blank, further _ _ (by omega)]
      rfl

theorem Reads.member {body : List Char} {key : String} {value : Json} {text : List Char}
    (named : ReadsString key body) (literal : Reads (.literal value) text) (starts : Starts text) :
    Reads (.members [(key, value)]) ('"' :: (body ++ '"' :: ':' :: (gap ++ text))) := by
  intro fuel rest enough
  simp only [List.length_cons, List.length_append] at enough
  cases fuel with
  | zero =>
      exact absurd enough (Nat.not_lt_zero _)
  | succ fuel =>
      simp only [List.cons_append, List.append_assoc]
      rw [Json.readMembers, named]
      change (Json.readValue fuel (Json.skipSpace (gap ++ (text ++ '\x7d' :: rest))) >>= _) = _
      rw [starts.skipSpace blank, literal _ _ (by omega) (stops_mark (by decide) _)]
      rfl

theorem Reads.members {body : List Char} {key : String} {value : Json}
    {pairs : List (String × Json)} {text more : List Char} (named : ReadsString key body)
    (literal : Reads (.literal value) text) (further : Reads (.members pairs) more)
    (starts : Starts text) (startsFurther : Starts more) :
    Reads (.members ((key, value) :: pairs))
      ('"' :: (body ++ '"' :: ':' :: (gap ++ (text ++ ',' :: (gap ++ more))))) := by
  intro fuel rest enough
  simp only [List.length_cons, List.length_append] at enough
  cases fuel with
  | zero =>
      exact absurd enough (Nat.not_lt_zero _)
  | succ fuel =>
      simp only [List.cons_append, List.append_assoc]
      rw [Json.readMembers, named]
      change (Json.readValue fuel
        (Json.skipSpace (gap ++ (text ++ ',' :: (gap ++ (more ++ '\x7d' :: rest))))) >>= _) = _
      rw [starts.skipSpace blank, literal _ _ (by omega) (stops_mark (by decide) _)]
      change (Json.readMembers fuel (Json.skipSpace (gap ++ (more ++ '\x7d' :: rest))) >>= _) = _
      rw [startsFurther.skipSpace blank, further _ _ (by omega)]
      rfl

end Gaps

theorem Reads.array {values : List Json} {inner : List Char}
    (elements : Reads (.elements values) inner) (starts : Starts inner) :
    Reads (.literal (.array values)) ('[' :: (inner ++ [']'])) := by
  intro fuel rest enough stops
  simp only [List.length_cons, List.length_append] at enough
  cases fuel with
  | zero =>
      exact absurd enough (Nat.not_succ_le_zero _)
  | succ fuel =>
      have whole : '[' :: (inner ++ [']']) ++ rest = '[' :: (inner ++ ']' :: rest) := by
        simp
      have visible : Json.skipSpace (inner ++ ']' :: rest) = inner ++ ']' :: rest :=
        starts.skipSpace (List.forall_mem_nil _) _
      rcases starts with ⟨first, more, rfl, -, goes⟩
      rw [whole, Json.readValue, visible]
      split
      · rename_i closed
        exact absurd (by rw [(List.cons.inj closed).1]; decide) goes
      · rw [elements _ _ (by omega)]
        rfl

theorem Reads.object {pairs : List (String × Json)} {inner : List Char}
    (members : Reads (.members pairs) inner) (starts : Starts inner) :
    Reads (.literal (.object (Dictionary.ofPairs pairs))) ('\x7b' :: (inner ++ ['\x7d'])) := by
  intro fuel rest enough stops
  simp only [List.length_cons, List.length_append] at enough
  cases fuel with
  | zero =>
      exact absurd enough (Nat.not_succ_le_zero _)
  | succ fuel =>
      have whole : '\x7b' :: (inner ++ ['\x7d']) ++ rest =
          '\x7b' :: (inner ++ '\x7d' :: rest) := by
        simp
      have visible : Json.skipSpace (inner ++ '\x7d' :: rest) = inner ++ '\x7d' :: rest :=
        starts.skipSpace (List.forall_mem_nil _) _
      rcases starts with ⟨first, more, rfl, -, goes⟩
      rw [whole, Json.readValue, visible]
      split
      · rename_i closed
        exact absurd (by rw [(List.cons.inj closed).1]; decide) goes
      · rw [members _ _ (by omega)]
        rfl

/-- Every strict text is read as what it is a text of. -/
theorem Strict.reads {phrase : Phrase} {text : List Char} (strict : Strict phrase text) :
    Reads phrase text := by
  have positive : ∀ {fuel length : Nat}, length + 1 ≤ fuel → ∃ less, fuel = less + 1 := by
    intro fuel length enough
    exact ⟨fuel - 1, by omega⟩
  induction strict with
  | number isNumber fits =>
      exact reads_number isNumber fits
  | string spells =>
      exact reads_string spells.readsString
  | array elements ih =>
      exact ih.array elements.starts
  | object members ih =>
      exact ih.object members.starts
  | element literal ih =>
      exact ih.element
  | elements literal further first second =>
      exact Reads.elements (List.forall_mem_nil _) first second further.starts
  | member spells literal ih =>
      exact Reads.member (List.forall_mem_nil _) spells.readsString ih literal.starts
  | members spells literal further first second =>
      exact Reads.members (List.forall_mem_nil _) spells.readsString first second literal.starts
        further.starts
  | _ =>
      intro fuel rest enough stops
      rcases positive enough with ⟨fuel, rfl⟩
      rfl

/-- A text that is read as a value where it stands is the text of the value. -/
theorem Reads.readChars {value : Json} {text : List Char} (reads : Reads (.literal value) text)
    (starts : Starts text) : Json.readChars text = .ok value := by
  have read : Json.readValue (2 * text.length + 1) (text ++ []) = .ok (value, []) :=
    reads _ _ (by omega) (by simp [Stops])
  have spaces : Json.skipSpace (text ++ []) = text ++ [] :=
    starts.skipSpace (List.forall_mem_nil _) []
  rw [List.append_nil] at read spaces
  rcases starts with ⟨first, more, rfl, -, goes⟩
  unfold Json.readChars
  split
  · rename_i marked
    exact absurd (by rw [(List.cons.inj marked).1]; decide) goes
  · rw [spaces, read]
    rfl

/-- A strict text of a value is read as the value. -/
theorem Strict.readChars {value : Json} {text : List Char}
    (strict : Strict (.literal value) text) : Json.readChars text = .ok value :=
  strict.reads.readChars strict.starts

end DocumentGate.Argument
