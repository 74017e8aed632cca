import DocumentGate.Proofs.LiteralReading

/-!
# The fuel of the reader

A value, the elements of an array and the members of an object each leave less of a text than
they were read from.  A bracket takes two steps and is itself a character, so twice as many steps
as there are characters are never used up: with more of them the same is read, and the same fault
is found in the same place.
-/

namespace DocumentGate.Json

/-! ## What is left of a text -/

theorem length_skipSpace_le (input : List Char) : (skipSpace input).length ≤ input.length :=
  List.length_dropWhile_le _ _

theorem length_lt_of_skipSpace {input rest : List Char} {first : Char}
    (starts : skipSpace input = first :: rest) : rest.length < input.length := by
  have shorter := length_skipSpace_le input
  rwa [starts] at shorter

theorem length_lt_of_readString {input after : List Char} {text : String}
    (read : readString input = .ok (text, after)) : after.length < input.length := by
  rcases bind_eq_ok read with ⟨⟨codes, rest⟩, found, same⟩
  obtain rfl := (Prod.mk.inj (Except.ok.inj same)).2
  rcases Argument.readCodes_eq_ok found with ⟨body, rfl, -⟩
  rw [List.length_append, List.length_cons]
  omega

theorem length_lt_of_readNumber {input after : List Char} {number : Number}
    (read : readNumber input = .ok (number, after)) : after.length < input.length := by
  rcases Argument.readNumber_eq_ok read with ⟨used, rfl, isNumber⟩
  rcases isNumber.isRun.eq_cons with ⟨first, rest, rfl, -⟩
  rw [List.length_append, List.length_cons]
  omega

/-- With so much fuel, what is read leaves less of a text than there was. -/
structure Consumes (fuel : Nat) : Prop where
  value : ∀ {input after value}, readValue fuel input = .ok (value, after) →
    after.length < input.length
  elements : ∀ {input after elements}, readElements fuel input = .ok (elements, after) →
    after.length < input.length
  members : ∀ {input after members}, readMembers fuel input = .ok (members, after) →
    after.length < input.length

namespace Consumes

variable {fuel : Nat} {input after : List Char}

theorem value_succ (consumes : Consumes fuel) {value : Json}
    (read : readValue (fuel + 1) input = .ok (value, after)) : after.length < input.length := by
  unfold readValue at read
  split at read
  · rcases bind_eq_ok read with ⟨⟨text, rest⟩, found, same⟩
    obtain rfl := (Prod.mk.inj (Except.ok.inj same)).2
    exact Nat.lt_succ_of_lt (length_lt_of_readString found)
  · rename_i inner
    split at read
    · rename_i empty
      obtain rfl := (Prod.mk.inj (Except.ok.inj read)).2
      exact Nat.lt_succ_of_lt (length_lt_of_skipSpace empty)
    · rcases bind_eq_ok read with ⟨⟨members, rest⟩, found, same⟩
      obtain rfl := (Prod.mk.inj (Except.ok.inj same)).2
      exact Nat.lt_succ_of_lt ((consumes.members found).trans_le (length_skipSpace_le inner))
  · rename_i inner
    split at read
    · rename_i empty
      obtain rfl := (Prod.mk.inj (Except.ok.inj read)).2
      exact Nat.lt_succ_of_lt (length_lt_of_skipSpace empty)
    · rcases bind_eq_ok read with ⟨⟨elements, rest⟩, found, same⟩
      obtain rfl := (Prod.mk.inj (Except.ok.inj same)).2
      exact Nat.lt_succ_of_lt ((consumes.elements found).trans_le (length_skipSpace_le inner))
  case h_10 =>
    rcases bind_eq_ok read with ⟨⟨number, rest⟩, found, same⟩
    obtain rfl := (Prod.mk.inj (Except.ok.inj same)).2
    exact length_lt_of_readNumber found
  -- The names that stand for values are left.
  all_goals
    obtain rfl := (Prod.mk.inj (Except.ok.inj read)).2
    simp only [List.length_cons]
    omega

theorem elements_succ (consumes : Consumes fuel) {elements : List Json}
    (read : readElements (fuel + 1) input = .ok (elements, after)) :
    after.length < input.length := by
  rw [readElements] at read
  rcases bind_eq_ok read with ⟨⟨element, rest⟩, first, read⟩
  have shorter := consumes.value first
  dsimp only at read
  split at read
  · rename_i closed
    obtain rfl := (Prod.mk.inj (Except.ok.inj read)).2
    exact (length_lt_of_skipSpace closed).trans shorter
  · rename_i more comma
    rcases bind_eq_ok read with ⟨⟨others, last⟩, further, same⟩
    obtain rfl := (Prod.mk.inj (Except.ok.inj same)).2
    calc last.length
        < (skipSpace more).length := consumes.elements further
      _ ≤ more.length := length_skipSpace_le more
      _ < rest.length := length_lt_of_skipSpace comma
      _ < input.length := shorter
  · cases read

theorem members_succ (consumes : Consumes fuel) {members : List (String × Json)}
    (read : readMembers (fuel + 1) input = .ok (members, after)) :
    after.length < input.length := by
  unfold readMembers at read
  split at read
  · rename_i quoted
    rcases bind_eq_ok read with ⟨⟨key, afterKey⟩, named, read⟩
    have shorterKey := length_lt_of_readString named
    dsimp only at read
    split at read
    · rename_i afterColon colon
      rcases bind_eq_ok read with ⟨⟨value, rest⟩, first, read⟩
      have shorter : rest.length < quoted.length :=
        calc rest.length
            < (skipSpace afterColon).length := consumes.value first
          _ ≤ afterColon.length := length_skipSpace_le afterColon
          _ < afterKey.length := length_lt_of_skipSpace colon
          _ < quoted.length := shorterKey
      dsimp only at read
      split at read
      · rename_i closed
        obtain rfl := (Prod.mk.inj (Except.ok.inj read)).2
        exact Nat.lt_succ_of_lt ((length_lt_of_skipSpace closed).trans shorter)
      · rename_i more comma
        rcases bind_eq_ok read with ⟨⟨others, last⟩, further, same⟩
        obtain rfl := (Prod.mk.inj (Except.ok.inj same)).2
        calc last.length
            < (skipSpace more).length := consumes.members further
          _ ≤ more.length := length_skipSpace_le more
          _ < rest.length := length_lt_of_skipSpace comma
          _ < quoted.length := shorter
          _ < quoted.length + 1 := Nat.lt_succ_self _
      · cases read
    · cases read
  · cases read

end Consumes

/-- What is read leaves less of a text than there was, whatever the fuel. -/
theorem consumes (fuel : Nat) : Consumes fuel := by
  induction fuel with
  | zero =>
      refine ⟨?_, ?_, ?_⟩ <;>
        intro input after result read
      · rw [readValue] at read
        cases read
      · rw [readElements] at read
        cases read
      · rw [readMembers] at read
        cases read
  | succ fuel ih =>
      exact ⟨ih.value_succ, ih.elements_succ, ih.members_succ⟩

/-! ## Fuel that is enough -/

/-- One more step than so many makes no difference where these are enough for the text. -/
structure Steady (fuel : Nat) : Prop where
  value : ∀ {input}, 2 * input.length + 1 ≤ fuel → readValue (fuel + 1) input = readValue fuel input
  elements : ∀ {input}, 2 * input.length + 2 ≤ fuel →
    readElements (fuel + 1) input = readElements fuel input
  members : ∀ {input}, 2 * input.length + 2 ≤ fuel →
    readMembers (fuel + 1) input = readMembers fuel input

namespace Steady

variable {fuel : Nat} {input : List Char}

theorem value_succ (steady : Steady fuel) (enough : 2 * input.length + 1 ≤ fuel + 1) :
    readValue (fuel + 2) input = readValue (fuel + 1) input := by
  have inside : ∀ {opener : Char} {inner : List Char}, input = opener :: inner →
      2 * (skipSpace inner).length + 2 ≤ fuel := by
    rintro opener inner rfl
    have shorter := length_skipSpace_le inner
    rw [List.length_cons] at enough
    omega
  unfold readValue
  split
  · rfl
  · split
    · rfl
    · rw [steady.members (inside rfl)]
  · split
    · rfl
    · rw [steady.elements (inside rfl)]
  all_goals rfl

theorem elements_succ (steady : Steady fuel) (enough : 2 * input.length + 2 ≤ fuel + 1) :
    readElements (fuel + 2) input = readElements (fuel + 1) input := by
  rw [readElements, readElements, steady.value (by omega)]
  cases first : readValue fuel input with
  | error stop =>
      rfl
  | ok result =>
      rcases result with ⟨element, rest⟩
      have shorter := (consumes fuel).value first
      dsimp only [bind, Except.bind]
      split
      · rfl
      · rename_i more comma
        have shorterMore := length_lt_of_skipSpace comma
        have visible := length_skipSpace_le more
        rw [steady.elements (by omega)]
      · rfl

theorem members_succ (steady : Steady fuel) (enough : 2 * input.length + 2 ≤ fuel + 1) :
    readMembers (fuel + 2) input = readMembers (fuel + 1) input := by
  unfold readMembers
  split
  · rename_i quoted
    rw [List.length_cons] at enough
    cases named : readString quoted with
    | error stop =>
        rfl
    | ok result =>
        rcases result with ⟨key, afterKey⟩
        have shorterKey := length_lt_of_readString named
        dsimp only [bind, Except.bind]
        split
        · rename_i afterColon colon
          have shorterColon := length_lt_of_skipSpace colon
          have visibleColon := length_skipSpace_le afterColon
          rw [steady.value (by omega)]
          cases first : readValue fuel (skipSpace afterColon) with
          | error stop =>
              rfl
          | ok result =>
              rcases result with ⟨value, rest⟩
              have shorter := (consumes fuel).value first
              dsimp only
              split
              · rfl
              · rename_i more comma
                have shorterMore := length_lt_of_skipSpace comma
                have visible := length_skipSpace_le more
                rw [steady.members (by omega)]
              · rfl
        · rfl
  · rfl

end Steady

theorem steady (fuel : Nat) : Steady fuel := by
  induction fuel with
  | zero =>
      refine ⟨?_, ?_, ?_⟩ <;>
        intro input enough <;>
        omega
  | succ fuel ih =>
      exact ⟨ih.value_succ, ih.elements_succ, ih.members_succ⟩

/-- Any two amounts of fuel that are enough for a text read the same of it. -/
theorem readValue_eq_of_le {fuel more : Nat} {input : List Char}
    (enough : 2 * input.length + 1 ≤ fuel) (less : fuel ≤ more) :
    readValue more input = readValue fuel input := by
  induction more, less using Nat.le_induction with
  | base =>
      rfl
  | succ more less ih =>
      rw [(steady more).value (enough.trans less), ih]

/-- A whole text is read as it would be with more fuel. -/
theorem readChars_eq_of_le {fuel : Nat} {input : List Char}
    (enough : 2 * input.length + 1 ≤ fuel) (unmarked : ∀ rest, input ≠ '\uFEFF' :: rest) :
    readChars input = (do
      let (value, after) ← readValue fuel (skipSpace input)
      if (skipSpace after).isEmpty then return value
      else .error (.malformed .extraData (skipSpace after).length)) := by
  have shorter := length_skipSpace_le input
  have same : readValue fuel (skipSpace input) =
      readValue (2 * input.length + 1) (skipSpace input) :=
    readValue_eq_of_le (by omega) enough
  unfold readChars
  split
  · exact absurd rfl (unmarked _)
  · rw [same]
    apply bind_congr
    rintro ⟨value, after⟩
    dsimp only
    cases skipSpace after <;> rfl

end DocumentGate.Json
