import DocumentGate.Http.Cookie
import DocumentGate.Proofs.LiteralTokens
import DocumentGate.Proofs.TrimmedTexts
import Mathlib.Data.List.Basic

/-!
# What clients keep of a cookie

A client keeps the value of a cookie that a response sets, and drops it when a response lets it
expire.  It sends back what it keeps.  Tokens are texts of characters that are safe in an address:
what a client keeps of the cookie of a session is the token, and what it sends back is read as the
token again.
-/

namespace DocumentGate

namespace Text

theorem segmentsOf_of_not_mem {separator : Char} {characters : List Char}
    (absent : separator ∉ characters) : segmentsOf separator characters = [characters] := by
  induction characters with
  | nil =>
      rfl
  | cons first rest ih =>
      rw [List.mem_cons, not_or] at absent
      rw [segmentsOf, if_neg (Ne.symm absent.1), ih absent.2]

theorem segmentsOf_append {separator : Char} {before : List Char} (absent : separator ∉ before)
    (after : List Char) :
    segmentsOf separator (before ++ separator :: after) =
      before :: segmentsOf separator after := by
  induction before with
  | nil =>
      exact if_pos rfl
  | cons first rest ih =>
      rw [List.mem_cons, not_or] at absent
      rw [List.cons_append, segmentsOf, if_neg (Ne.symm absent.1), ih absent.2]

theorem stripChars_of_shown {characters : List Char}
    (shown : ∀ character ∈ characters, isBlank character = false) :
    stripChars characters = characters := by
  have kept {shown : List Char} (all : ∀ character ∈ shown, isBlank character = false) :
      shown.dropWhile isBlank = shown := by
    cases shown with
    | nil =>
        rfl
    | cons first rest =>
        exact List.dropWhile_cons_of_neg (by simp [all first List.mem_cons_self])
  rw [stripChars, kept shown, kept fun character member => shown character (by simpa using member),
    List.reverse_reverse]

end Text

namespace Http.Cookie

/-! ## Clients -/

/-- The attribute lets a cookie expire at once. -/
def isExpiry (part : List Char) : Bool :=
  Text.lower (String.ofList (pairOf part).1) == "max-age" && (pairOf part).2 == ['0']

/-- What a client keeps of the cookie of a name after a header that sets or drops a cookie. -/
def kept (name : String) (before : Option String) (header : String) : Option String :=
  match Text.segmentsOf ';' header.toList with
  | [] => before
  | pair :: attributes =>
    if String.ofList (pairOf pair).1 = name then
      if attributes.any isExpiry then none else some (String.ofList (pairOf pair).2)
    else before

/-- The header in which a client sends back what it keeps. -/
def sentBack (name : String) : Option String → String
  | some value => name ++ "=" ++ value
  | none => ""

/-- The text consists of characters that are safe in an address. -/
def isToken (text : String) : Bool :=
  !text.isEmpty && text.toList.all fun character =>
    character.isAlphanum || character == '-' || character == '_'

/-! ## Characters -/

theorem isNameCharacter_range {character : Char} (part : isNameCharacter character = true) :
    0x21 ≤ character.toNat ∧ character.toNat ≤ 0x7E := by
  rw [isNameCharacter, Bool.or_eq_true] at part
  rcases part with letter | sign
  · simp only [Char.isAlphanum, Argument.isAlpha_eq, Char.isDigit, Bool.or_eq_true,
      Bool.and_eq_true, decide_eq_true_eq, UInt32.le_iff_toNat_le, ge_iff_le] at letter
    rcases letter with (⟨low, high⟩ | ⟨low, high⟩) | ⟨low, high⟩ <;>
      exact ⟨Nat.le_trans (by decide) low, Nat.le_trans high (by decide)⟩
  · have signs : ∀ character ∈ "!#$%&'*+-.^_`|~:".toList,
        0x21 ≤ character.toNat ∧ character.toNat ≤ 0x7E :=
      List.forall_iff_forall_mem.mp (by decide)
    exact signs character (List.contains_iff_mem.mp sign)

theorem not_blank_of_isNameCharacter {character : Char} (part : isNameCharacter character = true) :
    Text.isBlank character = false := by
  have range := isNameCharacter_range part
  simp [Text.isBlank]
  omega

theorem ne_of_isNameCharacter {character : Char} (part : isNameCharacter character = true) :
    character ≠ ';' ∧ character ≠ '=' ∧ character ≠ '"' := by
  refine ⟨?_, ?_, ?_⟩ <;>
    rintro rfl <;>
    revert part <;>
    decide

theorem isNameCharacter_of_isToken {text : String} (token : isToken text = true) :
    ∀ character ∈ text.toList, isNameCharacter character = true := by
  intro character member
  have safe := List.all_eq_true.mp (Bool.and_eq_true_iff.mp token).2 character member
  simp only [Bool.or_eq_true, beq_iff_eq] at safe
  rcases safe with (letter | rfl) | rfl
  · rw [isNameCharacter, letter, Bool.true_or]
  · rfl
  · rfl

theorem isNameCharacter_of_isName {name : String} (valid : isName name = true) :
    ∀ character ∈ name.toList, isNameCharacter character = true := by
  simp only [isName, Bool.and_eq_true] at valid
  exact List.all_eq_true.mp valid.1.2

/-! ## Pairs -/

/-- A name and a value of such characters are read as they were written. -/
theorem pairOf_append {name value : List Char}
    (plain : ∀ character ∈ name, isNameCharacter character = true)
    (shown : ∀ character ∈ value, Text.isBlank character = false) :
    pairOf (name ++ '=' :: value) = (name, value) := by
  have absent : '=' ∉ name := fun member => (ne_of_isNameCharacter (plain _ member)).2.1 rfl
  rw [pairOf, Text.cut_of_not_mem absent]
  dsimp only
  rw [Text.stripChars_of_shown shown, Text.stripChars_of_shown fun character member =>
    not_blank_of_isNameCharacter (plain character member)]

theorem not_mem_pair {name value : List Char}
    (plain : ∀ character ∈ name, isNameCharacter character = true) (single : ';' ∉ value) :
    ';' ∉ name ++ '=' :: value := by
  intro member
  rcases List.mem_append.mp member with within | within
  · exact (ne_of_isNameCharacter (plain _ within)).1 rfl
  · exact (List.mem_cons.mp within).elim (by decide) single

theorem shown_of_isToken {token : String} (safe : isToken token = true) :
    (∀ character ∈ token.toList, Text.isBlank character = false) ∧ ';' ∉ token.toList :=
  have letters := isNameCharacter_of_isToken safe
  ⟨fun character member => not_blank_of_isNameCharacter (letters character member),
    fun member => (ne_of_isNameCharacter (letters _ member)).1 rfl⟩

variable {name : String} (valid : isName name = true)

include valid

/-! ## Responses -/

theorem kept_eq {header : String} {value attributes : List Char}
    (written : header.toList = name.toList ++ '=' :: value ++ ';' :: attributes)
    (shown : ∀ character ∈ value, Text.isBlank character = false) (single : ';' ∉ value)
    (before : Option String) :
    kept name before header =
      if (Text.segmentsOf ';' attributes).any isExpiry then none
      else some (String.ofList value) := by
  have plain := isNameCharacter_of_isName valid
  rw [kept, written, Text.segmentsOf_append (not_mem_pair plain single)]
  dsimp only
  rw [pairOf_append plain shown, if_pos String.ofList_toList]

/-- Who is given a cookie for a session keeps its token. -/
theorem kept_setHeader {token : String} (safe : isToken token = true) (before : Option String) :
    kept name before (setHeader name token) = some token := by
  have written : (setHeader name token).toList = name.toList ++ '=' :: token.toList ++
      ';' :: " HttpOnly; Path=/; SameSite=lax".toList := by
    simp [setHeader]
  have lasting : (Text.segmentsOf ';' " HttpOnly; Path=/; SameSite=lax".toList).any isExpiry =
      false := by
    decide +kernel
  rcases shown_of_isToken safe with ⟨shown, single⟩
  rw [kept_eq valid written shown single, lasting]
  exact congrArg some String.ofList_toList

/-- Who is told that a cookie expires keeps nothing. -/
theorem kept_clearHeader (before : Option String) : kept name before (clearHeader name) = none := by
  have written : (clearHeader name).toList = name.toList ++ '=' :: ['"', '"'] ++
      ';' :: " Max-Age=0; Path=/; SameSite=lax".toList := by
    simp [clearHeader]
  have expires : (Text.segmentsOf ';' " Max-Age=0; Path=/; SameSite=lax".toList).any isExpiry =
      true := by
    decide +kernel
  rw [kept_eq valid written (List.forall_iff_forall_mem.mp (by decide)) (by decide), expires]
  rfl

/-! ## Requests -/

/-- What a client sends back is read as what it keeps. -/
theorem readAll_sentBack {held : Option String} (safe : ∀ token ∈ held, isToken token = true) :
    Dictionary.get? name (readAll (sentBack name held)) = held := by
  cases held with
  | none =>
      rfl
  | some token =>
      have isSafe := safe token rfl
      have plain := isNameCharacter_of_isName valid
      rcases shown_of_isToken isSafe with ⟨shown, single⟩
      have written : (sentBack name (some token)).toList = name.toList ++ '=' :: token.toList := by
        simp [sentBack]
      have bare : unquoted token.toList = token.toList := by
        unfold unquoted
        split
        · rename_i rest quoted
          have letters := isNameCharacter_of_isToken isSafe '"'
          rw [quoted] at letters
          exact absurd rfl (ne_of_isNameCharacter (letters List.mem_cons_self)).2.2
        · rfl
      have filled : name.toList ≠ [] := by
        simp only [isName, Bool.and_eq_true] at valid
        simpa using valid.1.1
      rw [readAll, written, Text.segmentsOf_of_not_mem (not_mem_pair plain single)]
      simp [pairOf_append plain shown, bare, filled, Dictionary.ofPairs, Dictionary.insert,
        Dictionary.get?]

end Http.Cookie
end DocumentGate
