import DocumentGate.Proofs.SpelledPieces

/-!
# Nesting of arguments

The limit on nesting is put to the brackets in the order in which they are written, whether or
not they match.  Arguments that are read have a derivation, in which brackets do match: the
tokens of a phrase leave as many brackets open as they find, and inside them as many more are
open as the phrase has levels.  So no value nests deeper than the limit.

The limit does nothing but refuse.  Whatever it does not refuse has the same spelling under
every higher limit.
-/

namespace DocumentGate

namespace Json

/-! ## Levels of members -/

theorem nesting_insert_le (key : String) (value : Json) (members : Members) :
    nestingOfMembers (Dictionary.insert key value members) ≤
      max value.nesting (nestingOfMembers members) := by
  induction members with
  | nil =>
      exact Nat.le_refl _
  | cons first rest ih =>
      obtain ⟨other, old⟩ := first
      rw [Dictionary.insert]
      split
      · simp only [nestingOfMembers]
        omega
      · simp only [nestingOfMembers]
        omega

/-- Of a key that is repeated the value that counts is one of those that are written. -/
theorem nesting_ofPairs_le (pairs : List (String × Json)) :
    nestingOfMembers (Dictionary.ofPairs pairs) ≤ nestingOfMembers pairs := by
  -- Pairs are inserted one after the other, so the members that are there vary.
  have along : ∀ members : Members,
      nestingOfMembers (pairs.foldl (fun entries pair =>
        Dictionary.insert pair.1 pair.2 entries) members) ≤
        max (nestingOfMembers members) (nestingOfMembers pairs) := by
    induction pairs with
    | nil =>
        exact fun members => Nat.le_max_left _ _
    | cons first rest ih =>
        intro members
        obtain ⟨key, value⟩ := first
        have inserted := nesting_insert_le key value members
        have further := ih (Dictionary.insert key value members)
        rw [List.foldl_cons, nestingOfMembers]
        dsimp only at further ⊢
        omega
  have whole : nestingOfMembers (Dictionary.ofPairs pairs) ≤
      max (nestingOfMembers []) (nestingOfMembers pairs) := along []
  rwa [nestingOfMembers, Nat.zero_max] at whole

end Json

namespace Argument

/-! ## Brackets that match -/

/-- The tokens have a spelling where so many brackets are open. -/
def Fits (limit depth : Int) (found : List Token) : Prop :=
  ∃ previous text, spell limit depth previous found = .ok text

theorem Fits.cons {limit depth : Int} {token : Token} {following : List Token}
    (fits : Fits limit depth (token :: following)) :
    (token.opens = true → depth + 1 ≤ limit) ∧ Fits limit (depth + token.rise) following := by
  rcases fits with ⟨previous, text, spelled⟩
  rw [spell_cons] at spelled
  split at spelled
  · cases spelled
  · rename_i inside
    rcases bind_eq_ok spelled with ⟨piece, -, spelled⟩
    rcases bind_eq_ok spelled with ⟨more, further, -⟩
    exact ⟨fun opens => Int.not_lt.mp fun beyond => inside ⟨opens, beyond⟩, _, more, further⟩

/--
Wherever the tokens have a spelling, the limit leaves room for so many levels, and after them as
many brackets are open as before.
-/
structure Spans (found : List Token) (levels : Nat) : Prop where
  within : ∀ {limit depth : Int} {left : List Token},
    Fits limit depth (found ++ left) → depth + levels ≤ max limit depth
  further : ∀ {limit depth : Int} {left : List Token},
    Fits limit depth (found ++ left) → Fits limit depth left

namespace Spans

variable {found rest inner trail : List Token} {levels others : Nat} {token : Token}
  {opener closer : Char}

theorem nil : Spans [] 0 where
  within _ := by omega
  further fits := fits

theorem mono (spans : Spans found levels) (fewer : others ≤ levels) : Spans found others where
  within fits := by
    have within := spans.within fits
    omega
  further fits := spans.further fits

/-- A token that is no bracket stands before others. -/
theorem cons (flat : token.rise = 0) (spans : Spans found levels) :
    Spans (token :: found) levels := by
  have next : ∀ {limit depth : Int} {left : List Token},
      Fits limit depth (token :: found ++ left) → Fits limit depth (found ++ left) := by
    intro limit depth left fits
    have fits := (Fits.cons fits).2
    rwa [flat, Int.add_zero] at fits
  exact ⟨fun fits => spans.within (next fits), fun fits => spans.further (next fits)⟩

theorem append (spans : Spans found levels) (later : Spans rest others) :
    Spans (found ++ rest) (max levels others) where
  within fits := by
    rw [List.append_assoc] at fits
    have first := spans.within fits
    have second := later.within (spans.further fits)
    omega
  further fits := by
    rw [List.append_assoc] at fits
    exact later.further (spans.further fits)

/-- Brackets around tokens are one level more. -/
theorem enclosed (spans : Spans inner levels) (isTrail : IsTrail trail)
    (opens : (Token.punctuation opener).opens = true)
    (closes : (Token.punctuation closer).rise = -1) :
    Spans (.punctuation opener :: (inner ++ (trail ++ [.punctuation closer]))) (levels + 1) := by
  have comma : (Token.punctuation ',').rise = 0 := by decide
  have raised : (Token.punctuation opener).rise = 1 := if_pos opens
  have flat : Spans (inner ++ trail) levels := by
    rcases isTrail with rfl | rfl
    · simpa using spans.append nil
    · simpa using spans.append (nil.cons comma)
  have inside : ∀ {limit depth : Int} {left : List Token},
      Fits limit depth (.punctuation opener :: (inner ++ (trail ++ [.punctuation closer])) ++ left) →
        depth + 1 ≤ limit ∧
          Fits limit (depth + 1) (inner ++ trail ++ (.punctuation closer :: left)) := by
    intro limit depth left fits
    rcases Fits.cons fits with ⟨room, fits⟩
    rw [raised] at fits
    exact ⟨room opens, by simpa using fits⟩
  constructor
  · intro limit depth left fits
    rcases inside fits with ⟨room, fits⟩
    have within := flat.within fits
    omega
  · intro limit depth left fits
    have closing := (Fits.cons (flat.further (inside fits).2)).2
    rwa [closes, show depth + 1 + -1 = depth by omega] at closing

end Spans

theorem KeyToken.rise {token : Token} {text : String} (isKey : KeyToken token text) :
    token.rise = 0 := by
  rcases isKey.piece with ⟨-, -, -, -, plain, -⟩
  simp [Token.rise, Token.opens, Token.closes, plain]

/-- The tokens of a phrase span its levels. -/
theorem Derives.spans {found : List Token} {phrase : Phrase} (derives : Derives found phrase) :
    Spans found phrase.nesting := by
  have comma : (Token.punctuation ',').rise = 0 := by decide
  have colon : (Token.punctuation ':').rise = 0 := by decide
  induction derives with
  | string isString =>
      exact Spans.nil.cons (KeyToken.string isString).rise
  | emptyArray =>
      exact Spans.nil.enclosed (Or.inl rfl) (by decide) (by decide)
  | array elements isTrail ih =>
      exact ih.enclosed isTrail (by decide) (by decide)
  | emptyObject =>
      exact Spans.nil.enclosed (Or.inl rfl) (by decide) (by decide)
  | object members isTrail ih =>
      refine Spans.mono (ih.enclosed isTrail (by decide) (by decide)) ?_
      exact Nat.succ_le_succ (Json.nesting_ofPairs_le _)
  | element literal ih =>
      exact ih.mono (by simp [Phrase.nesting, Json.nestingOfElements])
  | elements literal further first second =>
      exact first.append (second.cons comma)
  | member isKey literal ih =>
      exact ((ih.cons colon).cons isKey.rise).mono
        (by simp [Phrase.nesting, Json.nestingOfMembers])
  | members isKey literal further first second =>
      exact ((first.append (second.cons comma)).cons colon).cons isKey.rise
  | _ =>
      exact Spans.nil.cons rfl

/-! ## Higher limits -/

/-- What the limit does not refuse is spelled alike under every higher one. -/
theorem spell_of_le {limit higher : Int} (le : limit ≤ higher) (depth : Int)
    (previous : Option Token) (found : List Token) :
    spell limit depth previous found = .error (.nestedTooDeep limit) ∨
      spell higher depth previous found = spell limit depth previous found := by
  induction found generalizing depth previous with
  | nil =>
      exact Or.inr rfl
  | cons token following ih =>
      rw [spell_cons, spell_cons]
      by_cases beyond : token.opens = true ∧ limit < depth + 1
      · exact Or.inl (if_pos beyond)
      · have inside : ¬(token.opens = true ∧ higher < depth + 1) :=
          fun above => beyond ⟨above.1, Int.lt_of_le_of_lt le above.2⟩
        rw [if_neg beyond, if_neg inside]
        cases token.spelling previous following with
        | error fault =>
            exact Or.inr rfl
        | ok piece =>
            rcases ih (depth + token.rise) (some token) with refused | same
            · refine Or.inl ?_
              rw [refused]
              rfl
            · refine Or.inr ?_
              rw [same]

theorem readChars_of_le {limit higher : Int} (le : limit ≤ higher) (text : List Char) :
    readChars limit text = .error (.nestedTooDeep limit) ∨
      readChars higher text = readChars limit text := by
  unfold readChars
  split
  · exact Or.inr rfl
  · cases tokenize text with
    | error fault =>
        exact Or.inr rfl
    | ok found =>
        rcases spell_of_le le 0 none found with refused | same
        · refine Or.inl ?_
          show (spell limit 0 none found >>= _) = _
          rw [refused]
          rfl
        · refine Or.inr ?_
          show (spell higher 0 none found >>= _) = (spell limit 0 none found >>= _)
          rw [same]

/-! ## Arguments -/

/-- The tokens that a value is derived from have a spelling within the limit. -/
theorem nesting_le_of_readChars {limit : Int} {text : List Char} {value : Json}
    (positive : 1 ≤ limit) (accepted : readChars limit text = .ok value) :
    value.nesting ≤ limit := by
  rcases readChars_eq_ok accepted with ⟨-, rfl⟩ | ⟨found, cut, derives⟩
  · exact positive
  · unfold readChars at accepted
    split at accepted
    · obtain rfl := Except.ok.inj accepted
      exact positive
    · rcases bind_eq_ok accepted with ⟨others, cutOthers, accepted⟩
      obtain rfl := Except.ok.inj (cut.symm.trans cutOthers)
      rcases bind_eq_ok accepted with ⟨spelling, spelled, -⟩
      have fits : Fits limit 0 (joinNumbers found ++ []) := by
        refine ⟨none, spelling, ?_⟩
        rw [List.append_nil, spell_joinNumbers, spelled]
      have spans : Spans (joinNumbers found) value.nesting := derives.spans
      have within := spans.within fits
      omega

/--
Arguments that are read under a limit of at least one level are a value that nests no deeper,
and the same value under every higher limit.  Where a higher limit makes a difference, the
arguments are refused for their nesting.
-/
theorem read_within_limit {limit : Int} (positive : 1 ≤ limit) (text : String) :
    (∀ value, read limit text = .ok value →
      value.nesting ≤ limit ∧ ∀ higher, limit ≤ higher → read higher text = .ok value) ∧
    ∀ higher, limit ≤ higher → read higher text ≠ read limit text →
      read limit text = .error (.nestedTooDeep limit) := by
  refine ⟨fun value accepted => ⟨nesting_le_of_readChars positive accepted, ?_⟩, ?_⟩
  · intro higher le
    rcases readChars_of_le le text.toList with refused | same
    · rw [read, refused] at accepted
      cases accepted
    · exact same.trans accepted
  · intro higher le differs
    exact (readChars_of_le le text.toList).resolve_right differs

/-- Arguments with a key whose first value nests deepest and whose last value counts. -/
def overwriting : String :=
  "\x7ba: [[1]], 'a': [2,], b: \x7b\x7d\x7d"

/-- The value of those arguments. -/
def overwritten : Json :=
  .object [("a", .array [.integer 2]), ("b", .object [])]

theorem read_overwriting_within_limit :
    (1 : Int) ≤ 3 ∧ read 3 overwriting = .ok overwritten ∧ (overwritten.nesting : Int) ≤ 3 ∧
      read 64 overwriting = .ok overwritten := by
  have positive : (1 : Int) ≤ 3 := by decide
  have accepted : read 3 overwriting = .ok overwritten := by
    simp only [read, overwriting, String.reduceToList]
    rfl
  rcases (read_within_limit positive overwriting).1 overwritten accepted with ⟨within, higher⟩
  exact ⟨positive, accepted, within, higher 64 (by decide)⟩

/-- Brackets that close nothing make room for others, but such arguments are not read. -/
example : read 1 "][[1]]" = .error (.malformed .expectingValue) := by
  cbv

end Argument
end DocumentGate
