import DocumentGate.Proofs.StatementLexemes

/-!
# Expressions of statements

The lexemes of a statement are read as an expression.  Brackets come first: what stands between
two of them is read by itself and is one item of what stands around them.  Then the operators
follow in their order: OR binds loosest, then AND, NOT, IS, the comparisons, the other operators
and at last a change of type.

Only what is needed for conditions is read.  An expression with two comparisons one after the
other, with operators in a row or with another use of a keyword is refused.
-/

namespace DocumentGate.Sql

/-- An expression of a statement. -/
inductive Expression where
  /-- A constant or the name of a column. -/
  | word (characters : List Char)
  | placeholder (number : Nat)
  | quoted (characters : List Char)
  /-- A value as one of a type, or as a list of such values. -/
  | cast (operand : Expression) (type : List Char) (isList : Bool)
  | call (function : List Char) (arguments : Expression)
  /-- Two parts with a comma between them. -/
  | pair (first second : Expression)
  | operation (symbol : List Char) (left right : Expression)
  | isNull (operand : Expression)
  | isNotNull (operand : Expression)
  | negation (operand : Expression)
  | both (left right : Expression)
  | either (left right : Expression)
deriving DecidableEq, Repr

/-- A part of an expression at one depth of brackets. -/
inductive Item where
  | lexeme (lexeme : Lexeme)
  /-- What stands between two brackets. -/
  | group (inner : Expression)
deriving DecidableEq, Repr

/-- The item is the word. -/
def Item.isWord (text : String) (item : Item) : Bool :=
  item = .lexeme (word text)

/-- The item is such an operator. -/
def Item.isSymbol (which : List Char → Bool) : Item → Bool
  | .lexeme (.symbol characters) => which characters
  | _ => false

/-! ## Operators in their order -/

/-- A word that is no name. -/
def isKeyword (characters : List Char) : Bool :=
  ["OR".toList, "AND".toList, "NOT".toList, "IS".toList, "NULL".toList].contains characters

/-- The operator compares two values. -/
def isComparison (characters : List Char) : Bool :=
  ["=".toList, "<".toList, ">".toList, "<=".toList, ">=".toList, "<>".toList].contains characters

/-- The operator changes the type of a value. -/
def isCast (characters : List Char) : Bool :=
  characters = "::".toList

/-- The operator neither compares nor changes a type. -/
def isOther (characters : List Char) : Bool :=
  !isComparison characters && !isCast characters

/-- A name, a parameter, a text, a call or what stands between brackets. -/
def primary? : List Item → Option Expression
  | [.lexeme (.word characters)] => if isKeyword characters then none else some (.word characters)
  | [.lexeme (.placeholder number)] => some (.placeholder number)
  | [.lexeme (.quoted characters)] => some (.quoted characters)
  | [.group inner] => some inner
  | [.lexeme (.word function), .group arguments] =>
    if isKeyword function then none else some (.call function arguments)
  | _ => none

/-- The change of type that stands after a value, if there is one. -/
def change? : List Item → Option (Expression → Expression)
  | [] => some id
  | [_, .lexeme (.word type)] => some (.cast · type false)
  | [_, .lexeme (.word type), .lexeme (.mark '['), .lexeme (.mark ']')] => some (.cast · type true)
  | _ => none

/-- A value, perhaps with a type that it is changed to. -/
def cast? (items : List Item) : Option Expression := do
  let change ← change? (items.dropWhile fun item => !item.isSymbol isCast)
  return change (← primary? (items.takeWhile fun item => !item.isSymbol isCast))

/-- One of the operators between two parts, or no such operator. -/
def operation? (which : List Char → Bool) (read? : List Item → Option Expression)
    (items : List Item) : Option Expression :=
  match items.dropWhile fun item => !item.isSymbol which with
  | .lexeme (.symbol characters) :: right => do
    let left ← read? (items.takeWhile fun item => !item.isSymbol which)
    return .operation characters left (← read? right)
  | _ => read? items

/-- A comparison of two values, or a value. -/
def comparison? : List Item → Option Expression :=
  operation? isComparison (operation? isOther cast?)

/-- What is asked about a value. -/
def question? (asked : List Item) : Option (Expression → Expression) :=
  if asked = [.lexeme (word "NULL")] then some .isNull
  else if asked = [.lexeme (word "NOT"), .lexeme (word "NULL")] then some .isNotNull
  else none

/-- A comparison, or the question whether something is null. -/
def test? (items : List Item) : Option Expression :=
  match items.splitOnP (Item.isWord "IS") with
  | [whole] => comparison? whole
  | [operand, asked] => do
    let question ← question? asked
    return question (← comparison? operand)
  | _ => none

/-- A test, or the negation of one. -/
def negand? : List Item → Option Expression
  | [] => none
  | first :: rest =>
    if first.isWord "NOT" then (negand? rest).map .negation else test? (first :: rest)

/-- Parts with a keyword between each two of them, joined from the left on. -/
def joined? (keyword : String) (join : Expression → Expression → Expression)
    (read? : List Item → Option Expression) (items : List Item) : Option Expression := do
  match ← (items.splitOnP (Item.isWord keyword)).mapM read? with
  | [] => none
  | first :: rest => some (rest.foldl join first)

/-- The expression that items at one depth of brackets are. -/
def assemble? : List Item → Option Expression :=
  joined? "OR" .either (joined? "AND" .both negand?)

/-! ## Brackets -/

/-- What has been read since a bracket was opened. -/
structure Level where
  /-- The parts before the last comma. -/
  parts : Option Expression
  /-- The items after it. -/
  items : List Item

/-- Nothing has been read. -/
def Level.empty : Level :=
  ⟨none, []⟩

/-- The level with further items. -/
def Level.add (level : Level) (items : List Item) : Level :=
  { level with items := level.items ++ items }

/-- The expression that has been read. -/
def Level.finish? (level : Level) : Option Expression := do
  let last ← assemble? level.items
  match level.parts with
  | none => some last
  | some parts => some (.pair parts last)

/-- The expression of lexemes, after what has been read between the brackets that are open. -/
def build? (level : Level) (outer : List Level) : List Lexeme → Option Expression
  | [] => if outer.isEmpty then level.finish? else none
  | .mark '(' :: rest => build? .empty (level :: outer) rest
  | .mark ',' :: rest => do
    let parts ← level.finish?
    build? ⟨some parts, []⟩ outer rest
  | .mark ')' :: rest =>
    match outer with
    | [] => none
    | below :: others => do
      let inner ← level.finish?
      build? (below.add [.group inner]) others rest
  | lexeme :: rest => build? (level.add [.lexeme lexeme]) outer rest

/-- The expression that a text is. -/
def parse? (text : String) : Option Expression := do
  build? .empty [] (← lexemes? text)

example : parse? "NOT a = $1 AND (b IS NULL OR f(c))" =
    some (.both (.negation (.operation ['='] (.word ['a']) (.placeholder 1)))
      (.either (.isNull (.word ['b'])) (.call ['f'] (.word ['c'])))) := by
  decide

/-! ## Lexemes as items -/

/-- Reading the lexemes adds the items, whatever has been read before. -/
def Groups (found : List Lexeme) (items : List Item) : Prop :=
  ∀ level outer rest, build? level outer (found ++ rest) = build? (level.add items) outer rest

/-- The lexeme opens, parts or closes what stands between brackets. -/
def Lexeme.isBracket : Lexeme → Bool
  | .mark character => character = '(' || character = ',' || character = ')'
  | _ => false

theorem finish?_empty {items : List Item} {whole : Expression}
    (assembled : assemble? items = some whole) : (Level.empty.add items).finish? = some whole := by
  rw [Level.finish?, show (Level.empty.add items).items = items from rfl, assembled]
  rfl

theorem finish?_parts {items : List Item} {last : Expression} (parts : Expression)
    (assembled : assemble? items = some last) :
    (Level.add ⟨some parts, []⟩ items).finish? = some (.pair parts last) := by
  rw [Level.finish?, show (Level.add ⟨some parts, []⟩ items).items = items from rfl, assembled]
  rfl

namespace Groups

variable {found others : List Lexeme} {items further : List Item}

theorem append (first : Groups found items) (second : Groups others further) :
    Groups (found ++ others) (items ++ further) := by
  intro level outer rest
  rw [List.append_assoc, first, second, Level.add, Level.add, Level.add, List.append_assoc]

theorem lexeme {lexeme : Lexeme} (plain : lexeme.isBracket = false) :
    Groups [lexeme] [.lexeme lexeme] := by
  have other : ∀ {character : Char}, (Lexeme.mark character).isBracket = true →
      lexeme ≠ .mark character := by
    rintro character bracket rfl
    rw [bracket] at plain
    cases plain
  intro level outer rest
  rw [List.singleton_append, build?] <;>
    exact other rfl

/-- Lexemes without brackets among them are items. -/
theorem lexemes (found : List Lexeme) (plain : ∀ lexeme ∈ found, lexeme.isBracket = false) :
    Groups found (found.map .lexeme) := by
  induction found with
  | nil =>
      intro level outer rest
      rw [List.map_nil, Level.add, List.append_nil]
      rfl
  | cons first rest ih =>
      rw [List.forall_mem_cons] at plain
      exact (lexeme plain.1).append (ih plain.2)

/-- What stands between brackets is one item. -/
theorem group {inner : Expression} (groups : Groups found items)
    (assembled : assemble? items = some inner) :
    Groups (.mark '(' :: (found ++ [.mark ')'])) [.group inner] := by
  intro level outer rest
  rw [List.cons_append, List.append_assoc, build?, groups, List.singleton_append, build?,
    finish?_empty assembled]
  rfl

/-- Between brackets there may be two parts with a comma between them. -/
theorem groupPair {first second : Expression} (groups : Groups found items)
    (assembled : assemble? items = some first) (groupsMore : Groups others further)
    (assembledMore : assemble? further = some second) :
    Groups (.mark '(' :: (found ++ .mark ',' :: (others ++ [.mark ')'])))
      [.group (.pair first second)] := by
  intro level outer rest
  rw [List.cons_append, List.append_assoc, build?, groups, List.cons_append, build?,
    finish?_empty assembled, Option.bind_eq_bind, Option.bind_some, List.append_assoc, groupsMore,
    List.singleton_append, build?, finish?_parts first assembledMore]
  rfl

/-- Lexemes without brackets around them are the whole expression. -/
theorem build? {whole : Expression} (groups : Groups found items)
    (assembled : assemble? items = some whole) : build? .empty [] found = some whole := by
  have read := groups .empty [] []
  rw [List.append_nil] at read
  rw [read]
  exact finish?_empty assembled

end Groups

/-! ## Values and tests -/

/-- The item is no keyword, and no operator but a change of type. -/
def Item.isPlain : Item → Bool
  | .lexeme (.word characters) => !isKeyword characters
  | .lexeme (.symbol characters) => isCast characters
  | _ => true

theorem isWord_of_plain {item : Item} {keyword : String} (plain : item.isPlain = true)
    (reserved : isKeyword keyword.toList = true) : item.isWord keyword = false := by
  rw [Item.isWord, decide_eq_false_iff_not]
  rintro rfl
  have free : (!isKeyword keyword.toList) = true := plain
  rw [reserved] at free
  cases free

theorem isSymbol_of_plain {item : Item} {which : List Char → Bool} (plain : item.isPlain = true)
    (others : which "::".toList = false) : item.isSymbol which = false := by
  cases item with
  | lexeme lexeme =>
      cases lexeme with
      | symbol characters =>
          rw [of_decide_eq_true (show decide (characters = "::".toList) = true from plain)]
          exact others
      | _ =>
          rfl
  | group inner =>
      rfl

/-- What holds of an item and of those before and after it holds of all of them. -/
theorem forall_mem_joined {holds : Item → Prop} {left right : List Item} {middle : Item}
    (before : ∀ item ∈ left, holds item) (between : holds middle)
    (after : ∀ item ∈ right, holds item) : ∀ item ∈ left ++ middle :: right, holds item :=
  List.forall_mem_append.mpr ⟨before, List.forall_mem_cons.mpr ⟨between, after⟩⟩

/-- The items are a value, with no operator at this depth but a change of type. -/
structure IsValue (items : List Item) (value : Expression) : Prop where
  plain : ∀ item ∈ items, item.isPlain = true
  reads : cast? items = some value

theorem IsValue.exists_cons {items : List Item} {value : Expression}
    (isValue : IsValue items value) : ∃ first rest, items = first :: rest := by
  cases items with
  | nil =>
      cases isValue.reads
  | cons first rest =>
      exact ⟨first, rest, rfl⟩

section Operations

variable {which : List Char → Bool} {read? : List Item → Option Expression}

theorem operation?_of_none {items : List Item}
    (none : ∀ item ∈ items, item.isSymbol which = false) :
    operation? which read? items = read? items := by
  have all : items.dropWhile (fun item => !item.isSymbol which) = [] := by
    rw [← List.append_nil items, List.dropWhile_append_of_pos]
    · rfl
    · intro item member
      rw [none item member]
      rfl
  rw [operation?, all]

theorem operation?_of_some {left right : List Item} {characters : List Char}
    (none : ∀ item ∈ left, item.isSymbol which = false) (isOperator : which characters = true) :
    operation? which read? (left ++ .lexeme (.symbol characters) :: right) = (do
      let first ← read? left
      return .operation characters first (← read? right)) := by
  have others : ∀ item ∈ left, (!item.isSymbol which) = true := by
    intro item member
    rw [none item member]
    rfl
  have stops : (!(Item.lexeme (.symbol characters)).isSymbol which) = false := by
    rw [Item.isSymbol, isOperator]
    rfl
  rw [operation?, List.dropWhile_append_of_pos others, List.takeWhile_append_of_pos others,
    List.dropWhile_cons, stops, List.takeWhile_cons, stops]
  simp

end Operations

theorem IsValue.other? {items : List Item} {value : Expression} (isValue : IsValue items value) :
    operation? isOther cast? items = some value := by
  rw [operation?_of_none fun item member =>
    isSymbol_of_plain (isValue.plain item member) (by decide)]
  exact isValue.reads

theorem IsValue.comparison? {items : List Item} {value : Expression}
    (isValue : IsValue items value) : comparison? items = some value := by
  rw [Sql.comparison?, operation?_of_none fun item member =>
    isSymbol_of_plain (isValue.plain item member) (by decide)]
  exact isValue.other?

/-- One operator between two values. -/
theorem IsValue.operate {left right : List Item} {first second : Expression}
    (isFirst : IsValue left first) (isSecond : IsValue right second) {symbol : List Char}
    (noCast : isCast symbol = false) :
    Sql.comparison? (left ++ .lexeme (.symbol symbol) :: right) =
      some (.operation symbol first second) := by
  have noneLeft : ∀ {which : List Char → Bool}, which "::".toList = false →
      ∀ item ∈ left, item.isSymbol which = false :=
    fun others item member => isSymbol_of_plain (isFirst.plain item member) others
  cases compares : isComparison symbol with
  | true =>
      rw [Sql.comparison?, operation?_of_some (noneLeft (by decide)) compares,
        isFirst.other?, isSecond.other?]
      rfl
  | false =>
      have isOperator : isOther symbol = true := by
        rw [isOther, compares, noCast]
        rfl
      rw [Sql.comparison?, operation?_of_none,
        operation?_of_some (noneLeft (by decide)) isOperator, isFirst.reads,
        isSecond.reads]
      · rfl
      · exact forall_mem_joined (noneLeft (by decide)) compares fun item member =>
          isSymbol_of_plain (isSecond.plain item member) (by decide)

theorem IsValue.isWord {items : List Item} {value : Expression} (isValue : IsValue items value)
    {keyword : String} (reserved : isKeyword keyword.toList = true) :
    ∀ item ∈ items, item.isWord keyword = false :=
  fun item member => isWord_of_plain (isValue.plain item member) reserved

/-! ## Conditions -/

/-- The items are a condition that keywords may be put around. -/
structure IsNegand (items : List Item) (condition : Expression) : Prop where
  noOr : ∀ item ∈ items, item.isWord "OR" = false
  noAnd : ∀ item ∈ items, item.isWord "AND" = false
  reads : negand? items = some condition

/-- What starts with a value is no negation. -/
theorem IsValue.negand? {items : List Item} {value : Expression} (isValue : IsValue items value)
    (rest : List Item) : negand? (items ++ rest) = test? (items ++ rest) := by
  rcases isValue.exists_cons with ⟨first, others, rfl⟩
  rw [List.cons_append, Sql.negand?,
    isValue.isWord (by decide) first List.mem_cons_self]
  rfl

namespace IsNegand

variable {items left right : List Item} {value first second condition : Expression}

theorem ofValue (isValue : IsValue items value) : IsNegand items value where
  noOr := isValue.isWord (by decide)
  noAnd := isValue.isWord (by decide)
  reads := by
    rw [← List.append_nil items, isValue.negand?, List.append_nil, test?,
      List.splitOnP_eq_singleton (isValue.isWord (by decide))]
    exact isValue.comparison?

theorem operate (isFirst : IsValue left first) (isSecond : IsValue right second)
    {symbol : List Char} (noCast : isCast symbol = false) :
    IsNegand (left ++ .lexeme (.symbol symbol) :: right) (.operation symbol first second) := by
  have noWord : ∀ {keyword : String}, isKeyword keyword.toList = true →
      ∀ item ∈ left ++ .lexeme (.symbol symbol) :: right, item.isWord keyword = false := by
    intro keyword reserved
    exact forall_mem_joined (isFirst.isWord reserved) (by simp [Item.isWord, word])
      (isSecond.isWord reserved)
  refine ⟨noWord (by decide), noWord (by decide), ?_⟩
  rw [isFirst.negand?, test?, List.splitOnP_eq_singleton (noWord (by decide))]
  exact isFirst.operate isSecond noCast

/-- A question about a value. -/
theorem question {asked : List Item} {asks : Expression → Expression}
    (isValue : IsValue items value) (isQuestion : question? asked = some asks)
    (free : ∀ keyword ∈ ["OR", "AND", "IS"], ∀ item ∈ asked, item.isWord keyword = false) :
    IsNegand (items ++ .lexeme (word "IS") :: asked) (asks value) := by
  have noWord : ∀ keyword ∈ ["OR", "AND"],
      ∀ item ∈ items ++ .lexeme (word "IS") :: asked, item.isWord keyword = false := by
    intro keyword connective
    have reserved := (by decide : ∀ keyword ∈ ["OR", "AND"], isKeyword keyword.toList = true)
      keyword connective
    have other := (by decide :
      ∀ keyword ∈ ["OR", "AND"], (Item.lexeme (word "IS")).isWord keyword = false)
        keyword connective
    exact forall_mem_joined (isValue.isWord reserved) other
      (free keyword (List.mem_append_left ["IS"] connective))
  refine ⟨noWord "OR" (by decide), noWord "AND" (by decide), ?_⟩
  rw [isValue.negand?, test?, List.splitOnP_append_cons _ _ (by decide),
    List.splitOnP_eq_singleton (isValue.isWord (by decide)),
    List.splitOnP_eq_singleton (free "IS" (by decide)), List.singleton_append]
  dsimp only
  rw [isQuestion, isValue.comparison?]
  rfl

theorem isNull (isValue : IsValue items value) :
    IsNegand (items ++ [.lexeme (word "IS"), .lexeme (word "NULL")]) (.isNull value) :=
  question isValue rfl (by decide)

theorem isNotNull (isValue : IsValue items value) :
    IsNegand (items ++ [.lexeme (word "IS"), .lexeme (word "NOT"), .lexeme (word "NULL")])
      (.isNotNull value) :=
  question isValue (by rw [question?, if_neg (by decide), if_pos rfl])
    (by decide)

theorem negation (isNegand : IsNegand items condition) :
    IsNegand (.lexeme (word "NOT") :: items) (.negation condition) where
  noOr := List.forall_mem_cons.mpr ⟨by decide, isNegand.noOr⟩
  noAnd := List.forall_mem_cons.mpr ⟨by decide, isNegand.noAnd⟩
  reads := by
    rw [Sql.negand?, show (Item.lexeme (word "NOT")).isWord "NOT" = true by decide,
      if_pos rfl, isNegand.reads]
    rfl

end IsNegand

section Joined

variable {keyword : String} {join : Expression → Expression → Expression}
  {read? : List Item → Option Expression}

theorem joined?_of_none {items : List Item} (none : ∀ item ∈ items, item.isWord keyword = false) :
    joined? keyword join read? items = read? items := by
  rw [joined?, List.splitOnP_eq_singleton none, List.mapM_cons, List.mapM_nil]
  cases read? items <;> rfl

theorem joined?_of_one {left right : List Item}
    (noneLeft : ∀ item ∈ left, item.isWord keyword = false)
    (noneRight : ∀ item ∈ right, item.isWord keyword = false) {first second : Expression}
    (isFirst : read? left = some first) (isSecond : read? right = some second) :
    joined? keyword join read? (left ++ .lexeme (word keyword) :: right) =
      some (join first second) := by
  have separates : (Item.lexeme (word keyword)).isWord keyword = true := decide_eq_true rfl
  rw [joined?, List.splitOnP_append_cons _ _ separates, List.splitOnP_eq_singleton noneLeft,
    List.splitOnP_eq_singleton noneRight, List.singleton_append, List.mapM_cons, List.mapM_cons,
    List.mapM_nil, isFirst, isSecond]
  rfl

end Joined

namespace IsNegand

variable {items left right : List Item} {first second condition : Expression}

theorem conjunction? (isNegand : IsNegand items condition) :
    joined? "AND" .both negand? items = some condition := by
  rw [joined?_of_none isNegand.noAnd]
  exact isNegand.reads

theorem assemble? (isNegand : IsNegand items condition) : assemble? items = some condition := by
  rw [Sql.assemble?, joined?_of_none isNegand.noOr]
  exact isNegand.conjunction?

theorem assemble?_either (isFirst : IsNegand left first) (isSecond : IsNegand right second) :
    Sql.assemble? (left ++ .lexeme (word "OR") :: right) = some (.either first second) :=
  joined?_of_one isFirst.noOr isSecond.noOr isFirst.conjunction? isSecond.conjunction?

theorem assemble?_both (isFirst : IsNegand left first) (isSecond : IsNegand right second) :
    Sql.assemble? (left ++ .lexeme (word "AND") :: right) = some (.both first second) := by
  rw [Sql.assemble?, joined?_of_none]
  · exact joined?_of_one isFirst.noAnd isSecond.noAnd isFirst.reads isSecond.reads
  · exact forall_mem_joined isFirst.noOr (by decide) isSecond.noOr

end IsNegand

/-! ## Terms -/

/-- The expression that a term is. -/
def Term.expression : Term → Expression
  | .field path =>
    .operation "#>".toList (.word "doc".toList) (.cast (.placeholder path) "text".toList true)
  | .parameter number => .cast (.placeholder number) "jsonb".toList false
  | .jsonNull => .cast (.quoted "null".toList) "jsonb".toList false
  | .typeOf term => .call "jsonb_typeof".toList term.expression
  | .arrayType => .quoted "array".toList
  | .listOf term => .call "jsonb_build_array".toList term.expression

/-- The items of a term. -/
def Term.items : Term → List Item
  | .field path => [.group (Term.field path).expression]
  | .parameter number =>
    [.lexeme (.placeholder number), .lexeme (operator "::"), .lexeme (word "jsonb")]
  | .jsonNull =>
    [.lexeme (.quoted "null".toList), .lexeme (operator "::"), .lexeme (word "jsonb")]
  | .typeOf term => [.lexeme (word "jsonb_typeof"), .group term.expression]
  | .arrayType => [.lexeme (.quoted "array".toList)]
  | .listOf term => [.lexeme (word "jsonb_build_array"), .group term.expression]

theorem isValue_group (inner : Expression) : IsValue [.group inner] inner :=
  ⟨by simp [Item.isPlain], rfl⟩

/-- A word that is no keyword. -/
theorem isValue_word {text : String} (free : isKeyword text.toList = false) :
    IsValue [.lexeme (word text)] (.word text.toList) where
  plain := by
    simp [Item.isPlain, word, free]
  reads := by
    simp [cast?, primary?, Item.isSymbol, word, free]
    rfl

/-- A call of a function that has no keyword for a name. -/
theorem isValue_call {function : String} (free : isKeyword function.toList = false)
    (arguments : Expression) :
    IsValue [.lexeme (word function), .group arguments] (.call function.toList arguments) where
  plain := by
    simp [Item.isPlain, word, free]
  reads := by
    simp [cast?, primary?, Item.isSymbol, word, free]
    rfl

/-- A parameter or a text that is changed to a type. -/
theorem isValue_cast {item : Item} {type : List Item} (value : Expression)
    (change : Expression → Expression) (plain : item.isPlain = true)
    (single : item.isSymbol isCast = false) (reads : primary? [item] = some value)
    (plainType : ∀ item ∈ type, item.isPlain = true)
    (changes : change? (.lexeme (operator "::") :: type) = some change) :
    IsValue (item :: .lexeme (operator "::") :: type) (change value) where
  plain :=
    List.forall_mem_cons.mpr ⟨plain, List.forall_mem_cons.mpr ⟨by decide, plainType⟩⟩
  reads := by
    have casts : (Item.lexeme (operator "::")).isSymbol isCast = true := by
      decide
    rw [cast?, List.takeWhile_cons, List.takeWhile_cons, List.dropWhile_cons, List.dropWhile_cons,
      single, casts]
    simp only [Bool.not_false, Bool.not_true, if_true, Bool.false_eq_true, if_false, reads,
      changes, Option.bind_eq_bind, Option.bind_some]
    rfl

theorem Term.isValue (term : Term) : IsValue term.items term.expression := by
  cases term with
  | field path =>
      exact isValue_group _
  | parameter number =>
      exact isValue_cast (.placeholder number) (.cast · "jsonb".toList false) rfl rfl rfl
        (by decide) rfl
  | jsonNull =>
      exact isValue_cast (.quoted "null".toList) (.cast · "jsonb".toList false) rfl rfl rfl
        (by decide) rfl
  | typeOf term =>
      exact isValue_call (by decide) _
  | arrayType =>
      exact ⟨by decide, by decide⟩
  | listOf term =>
      exact isValue_call (by decide) _

/-- The lexemes of a term are its items. -/
theorem Term.groups (term : Term) : Groups term.lexemes term.items := by
  induction term with
  | field path =>
      have column : IsValue [.lexeme (word "doc")] (.word "doc".toList) :=
        isValue_word (by decide)
      have segments : IsValue
          (([.placeholder path, operator "::", word "text", .mark '[', .mark ']'] :
            List Lexeme).map .lexeme)
          (.cast (.placeholder path) "text".toList true) :=
        isValue_cast (.placeholder path) (.cast · "text".toList true) rfl rfl rfl
          (by decide) rfl
      have part := (IsNegand.operate column segments
        (show isCast "#>".toList = false by decide)).assemble?
      refine Groups.group (Groups.lexemes
        [word "doc", operator "#>", .placeholder path, operator "::", word "text", .mark '[',
          .mark ']'] ?_) part
      simp [Lexeme.isBracket, word, operator]
  | parameter number =>
      apply Groups.lexemes (Term.parameter number).lexemes
      simp [Term.lexemes, Lexeme.isBracket, word, operator]
  | jsonNull =>
      exact Groups.lexemes Term.jsonNull.lexemes (by decide)
  | typeOf term ih =>
      exact (Groups.lexeme rfl).append (Groups.group ih (IsNegand.ofValue term.isValue).assemble?)
  | arrayType =>
      exact Groups.lexemes Term.arrayType.lexemes (by decide)
  | listOf term ih =>
      exact (Groups.lexeme rfl).append (Groups.group ih (IsNegand.ofValue term.isValue).assemble?)

/-! ## Conditions as expressions -/

/-- The condition is the expression, alone and next to any keyword. -/
def Condition.Reads (condition : Condition) (expression : Expression) : Prop :=
  ∃ items, Groups condition.lexemes items ∧ IsNegand items expression

/-- The condition is the expression where it stands alone or between brackets. -/
def Condition.Assembles (condition : Condition) (expression : Expression) : Prop :=
  ∃ items, Groups condition.lexemes items ∧ assemble? items = some expression

theorem Condition.reads_constant (value : Bool) :
    (Condition.constant value).Reads
      (.word (if value then "TRUE".toList else "FALSE".toList)) := by
  cases value with
  | true =>
      exact ⟨_, Groups.lexeme rfl, IsNegand.ofValue (isValue_word (by decide))⟩
  | false =>
      exact ⟨_, Groups.lexeme rfl, IsNegand.ofValue (isValue_word (by decide))⟩

theorem Condition.reads_isAbsent (term : Term) :
    (Condition.isAbsent term).Reads (.isNull term.expression) :=
  ⟨_, term.groups.append (Groups.lexemes [word "IS", word "NULL"] (by decide)),
    IsNegand.isNull term.isValue⟩

theorem Condition.reads_isPresent (term : Term) :
    (Condition.isPresent term).Reads (.isNotNull term.expression) :=
  ⟨_, term.groups.append
      (Groups.lexemes [word "IS", word "NOT", word "NULL"] (by decide)),
    IsNegand.isNotNull term.isValue⟩

theorem Condition.reads_compare (comparison : Comparison) (left right : Term) :
    (Condition.compare comparison left right).Reads
      (.operation comparison.symbol.toList left.expression right.expression) := by
  refine ⟨_, left.groups.append ((Groups.lexeme rfl).append right.groups), ?_⟩
  apply IsNegand.operate left.isValue right.isValue
  cases comparison <;>
    decide

section Compound

variable {condition left right : Condition} {expression first second : Expression}

theorem Condition.Reads.negation (reads : condition.Reads expression) :
    (Condition.negation condition).Reads (.negation expression) := by
  rcases reads with ⟨items, groups, isNegand⟩
  exact ⟨_, (Groups.lexeme rfl).append groups, isNegand.negation⟩

theorem Condition.Reads.assembles (reads : condition.Reads expression) :
    condition.Assembles expression := by
  rcases reads with ⟨items, groups, isNegand⟩
  exact ⟨items, groups, isNegand.assemble?⟩

theorem Condition.Reads.both (isFirst : left.Reads first) (isSecond : right.Reads second) :
    (Condition.both left right).Assembles (.both first second) := by
  rcases isFirst with ⟨items, groups, isNegand⟩
  rcases isSecond with ⟨further, groupsMore, isNegandMore⟩
  exact ⟨_, groups.append ((Groups.lexeme rfl).append groupsMore),
    isNegand.assemble?_both isNegandMore⟩

theorem Condition.Reads.either (isFirst : left.Reads first) (isSecond : right.Reads second) :
    (Condition.either left right).Assembles (.either first second) := by
  rcases isFirst with ⟨items, groups, isNegand⟩
  rcases isSecond with ⟨further, groupsMore, isNegandMore⟩
  exact ⟨_, groups.append ((Groups.lexeme rfl).append groupsMore),
    isNegand.assemble?_either isNegandMore⟩

theorem Condition.Assembles.group (assembles : condition.Assembles expression) :
    (Condition.group condition).Reads expression := by
  rcases assembles with ⟨items, groups, assembled⟩
  exact ⟨_, groups.group assembled, IsNegand.ofValue (isValue_group expression)⟩

theorem Condition.Assembles.orFalse (assembles : condition.Assembles expression) :
    (Condition.orFalse condition).Reads
      (.call "COALESCE".toList (.pair expression (.word "FALSE".toList))) := by
  rcases assembles with ⟨items, groups, assembled⟩
  have otherwise : IsNegand [.lexeme (word "FALSE")] (.word "FALSE".toList) :=
    IsNegand.ofValue (isValue_word (by decide))
  exact ⟨_, (Groups.lexeme rfl).append
      (groups.groupPair assembled (Groups.lexeme rfl) otherwise.assemble?),
    IsNegand.ofValue (isValue_call (by decide) _)⟩

/-- A condition that stands alone is the expression of its text. -/
theorem Condition.Assembles.parse? (assembles : condition.Assembles expression) :
    parse? condition.written = some expression := by
  rcases assembles with ⟨items, groups, assembled⟩
  rw [Sql.parse?, lexemes?_written]
  exact groups.build? assembled

end Compound

end DocumentGate.Sql
