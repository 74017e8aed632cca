import DocumentGate.Toml.Lexeme

/-!
# Reading a settings file

A settings file is a sequence of lines: members, headers of tables, and headers that
add a table to an array of tables.  A dotted key opens tables on its way.  What has been
written may not be reopened: a value in brackets or braces is complete where it stands,
a table has one header, and the tables that dotted keys open under one header are closed
for later headers and keys.
-/

namespace DocumentGate.Toml

/-- A path of keys. -/
abbrev Key := List String

/-- A character of a key without quotation marks. -/
def isBareKeyPart (character : Char) : Bool :=
  character.isAlphanum || character = '-' || character = '_'

/-- One part of a key. -/
def readKeyPart (input : List Char) : Reading String :=
  match input with
  | '\'' :: rest => (readLiteral rest).map fun (value, after) => (String.ofList value, after)
  | '"' :: rest =>
    (readEscaped false (rest.length + 1) rest).map fun (value, after) =>
      (String.ofList value, after)
  | _ =>
    let name := input.takeWhile isBareKeyPart
    if name.isEmpty then fail else .ok (String.ofList name, input.dropWhile isBareKeyPart)

/-- A key and the blanks after it. -/
def readKey : (fuel : Nat) → List Char → Except Fault (Key × List Char)
  | 0, _ => fail
  | fuel + 1, input => do
    let (part, after) ← readKeyPart input
    match skipInline after with
    | '.' :: rest =>
      let (parts, after) ← readKey fuel (skipInline rest)
      return (part :: parts, after)
    | after => return ([part], after)

/-- The text after blanks, ends of lines and comments. -/
def skipInArray : (fuel : Nat) → List Char → Except Fault (List Char)
  | 0, input => .ok input
  | fuel + 1, input => do
    let after ← skipComment (input.dropWhile isBlankOrLine)
    if after.length = input.length then return after else skipInArray fuel after

/-- The value opens a table or an array, which is complete where it stands. -/
def isContainer : Toml → Bool
  | .array _ => true
  | .table _ => true
  | _ => false

/-- A table in braces while it is read, with the paths of the containers inside it. -/
structure InlineTable where
  members : Members := []
  complete : List Key := []

/-- The table with one member more. -/
def InlineTable.add (inline : InlineTable) (key : Key) (value : Toml) : Except Fault InlineTable :=
  if inline.complete.any fun path => path.isPrefixOf key then fail
  else
    let stem := key.getLastD ""
    let place (members : Members) : Option Members :=
      if (Dictionary.get? stem members).isSome then none
      else some (Dictionary.insert stem value members)
    match changeAt false key.dropLast place inline.members with
    | some members =>
      .ok ⟨members, if isContainer value then key :: inline.complete else inline.complete⟩
    | none => fail

mutual
/-- A value at the start of a text. -/
def readValue : (fuel : Nat) → List Char → Except Fault (Toml × List Char)
  | 0, _ => fail
  | fuel + 1, input =>
    match readText? input with
    | some reading => reading.map fun (value, after) => (.text value, after)
    | none =>
      match input with
      | 't' :: 'r' :: 'u' :: 'e' :: after => .ok (.boolean true, after)
      | 'f' :: 'a' :: 'l' :: 's' :: 'e' :: after => .ok (.boolean false, after)
      | '[' :: rest => do
        match ← skipInArray (rest.length + 1) rest with
        | ']' :: after => return (.array [], after)
        | start =>
          let (elements, after) ← readElements fuel start
          return (.array elements, after)
      | '{' :: rest =>
        match skipInline rest with
        | '}' :: after => .ok (.table [], after)
        | start => do
          let (inline, after) ← readInlineMembers fuel {} start
          return (.table inline.members, after)
      | _ => (readScalar? input).getD fail

/-- The elements of an array up to its closing bracket, from the first one on. -/
def readElements : (fuel : Nat) → List Char → Except Fault (List Toml × List Char)
  | 0, _ => fail
  | fuel + 1, input => do
    let (element, after) ← readValue fuel input
    match ← skipInArray (after.length + 1) after with
    | ']' :: after => return ([element], after)
    | ',' :: rest =>
      match ← skipInArray (rest.length + 1) rest with
      | ']' :: after => return ([element], after)
      | start =>
        let (elements, after) ← readElements fuel start
        return (element :: elements, after)
    | _ => fail

/-- The members of a table in braces up to its closing brace, from the first key on. -/
def readInlineMembers : (fuel : Nat) → InlineTable → List Char →
    Except Fault (InlineTable × List Char)
  | 0, _, _ => fail
  | fuel + 1, inline, input => do
    let (key, after) ← readKey (input.length + 1) input
    let '=' :: rest := after | fail
    let (value, after) ← readValue fuel (skipInline rest)
    let inline ← inline.add key value
    match skipInline after with
    | '}' :: after => return (inline, after)
    | ',' :: rest => readInlineMembers fuel inline (skipInline rest)
    | _ => fail
end

/-- A settings file while it is read. -/
structure Document where
  members : Members := []
  /-- The path of the current header. -/
  header : Key := []
  /-- Values in brackets or braces; nothing may be added below them. -/
  complete : List Key := []
  /-- Tables that may not be opened again. -/
  declared : List Key := []
  /-- Tables that dotted keys opened since the last header. -/
  opened : List Key := []

namespace Document

/-- The path lies at or below a complete value. -/
def isComplete (document : Document) (path : Key) : Bool :=
  document.complete.any fun complete => complete.isPrefixOf path

/-- The paths of the tables that a dotted key opens below a header. -/
def openedBy (header key : Key) : List Key :=
  (List.range (key.length - 1)).map fun index => header ++ key.take (index + 1)

/-- The document with one member more under the current header. -/
def addMember (document : Document) (key : Key) (value : Toml) : Except Fault Document :=
  let opened := openedBy document.header key
  let parent := document.header ++ key.dropLast
  let stem := key.getLastD ""
  let place (members : Members) : Option Members :=
    if (Dictionary.get? stem members).isSome then none
    else some (Dictionary.insert stem value members)
  if opened.any document.declared.contains || document.isComplete parent then fail
  else
    match changeAt true parent place document.members with
    | none => fail
    | some members =>
      .ok { document with
        members := members
        opened := opened ++ document.opened
        complete :=
          if isContainer value then (document.header ++ key) :: document.complete
          else document.complete }

/-- The document when a header begins: the tables opened so far are closed. -/
def closeOpened (document : Document) : Document :=
  { document with declared := document.opened ++ document.declared, opened := [] }

/-- The document under the header of a table. -/
def openTable (document : Document) (key : Key) : Except Fault Document :=
  if document.declared.contains key || document.isComplete key then fail
  else
    match changeAt true key some document.members with
    | none => fail
    | some members =>
      .ok { document with
        members := members, header := key, declared := key :: document.declared }

/-- The document under a header that adds a table to an array of tables. -/
def openElement (document : Document) (key : Key) : Except Fault Document :=
  if document.isComplete key then fail
  else
    let stem := key.getLastD ""
    let place (members : Members) : Option Members :=
      match Dictionary.get? stem members with
      | none => some (Dictionary.insert stem (.array [.table []]) members)
      | some (.array elements) =>
        some (Dictionary.insert stem (.array (elements ++ [.table []])) members)
      | some _ => none
    match changeAt true key.dropLast place document.members with
    | none => fail
    | some members =>
      .ok { document with
        members := members
        header := key
        complete := document.complete.filter fun path => !key.isPrefixOf path
        declared := key :: document.declared.filter fun path => !key.isPrefixOf path }

/-- The document after the header or the member that starts the text. -/
def readStatement (document : Document) (input : List Char) :
    Except Fault (Document × List Char) :=
  match input with
  | '[' :: '[' :: rest => do
    let (key, after) ← readKey (rest.length + 1) (skipInline rest)
    let document ← document.closeOpened.openElement key
    let some after := dropStart? [']', ']'] after | fail
    return (document, after)
  | '[' :: rest => do
    let (key, after) ← readKey (rest.length + 1) (skipInline rest)
    let document ← document.closeOpened.openTable key
    let some after := dropStart? [']'] after | fail
    return (document, after)
  | _ => do
    let (key, after) ← readKey (input.length + 1) input
    let '=' :: rest := after | fail
    let (value, after) ← readValue (rest.length + 1) (skipInline rest)
    return (← document.addMember key value, after)

/-- The document after all lines of a text. -/
def readLines (document : Document) : (fuel : Nat) → List Char → Except Fault Document
  | 0, _ => fail
  | fuel + 1, input =>
    match skipInline input with
    | [] => .ok document
    | '\n' :: rest => readLines document fuel rest
    | start => do
      let (document, after) ←
        if start.head? = some '#' then pure (document, start) else readStatement document start
      match ← skipComment (skipInline after) with
      | [] => return document
      | '\n' :: rest => readLines document fuel rest
      | _ => fail

end Document

/-- A text whose lines end in one character. -/
def joinLineEnds : List Char → List Char
  | '\r' :: '\n' :: rest => '\n' :: joinLineEnds rest
  | character :: rest => character :: joinLineEnds rest
  | [] => []

/-- The table that a settings file is. -/
def read (characters : List Char) : Except Fault Members := do
  let input := joinLineEnds characters
  return (← Document.readLines {} (input.length + 1) input).members

end DocumentGate.Toml
