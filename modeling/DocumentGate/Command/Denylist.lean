import DocumentGate.Argument.Token
import DocumentGate.Json.Value
import DocumentGate.Text.Lowercase

/-!
# The denylist

A command may not mention a denied keyword.  A text mentions the words that are found
in it from left to right: a letter or an underscore with all letters, digits and
underscores after it, and a dollar sign before it where one stands there.  Words and
keywords are compared in lower case; of keywords that differ in case only, the last one
is named.
-/

namespace DocumentGate.Denylist

/-- How far the scan for words has come. -/
inductive Scan where
  | between
  | afterDollar
  /-- Inside a word, whose characters are kept in reverse. -/
  | inside (reversed : List Char)
deriving DecidableEq

/-- The word that ends before the character, if one does. -/
def Scan.completed (state : Scan) (character : Char) : List (List Char) :=
  match state with
  | .inside reversed => if Argument.isNamePart character then [] else [reversed.reverse]
  | _ => []

/-- A character outside words: it may start one, or be the dollar sign before one. -/
def Scan.start (character : Char) : Scan :=
  if Argument.isNameStart character then .inside [character]
  else if character = '$' then .afterDollar
  else .between

/-- The scan after one more character. -/
def Scan.next (state : Scan) (character : Char) : Scan :=
  match state with
  | .between => Scan.start character
  | .afterDollar =>
    if Argument.isNameStart character then .inside [character, '$'] else Scan.start character
  | .inside reversed =>
    if Argument.isNamePart character then .inside (character :: reversed)
    else Scan.start character

/-- The words of a text, given how far the scan before it has come. -/
def wordsFrom (state : Scan) : List Char → List (List Char)
  | [] =>
    match state with
    | .inside reversed => [reversed.reverse]
    | _ => []
  | character :: rest => state.completed character ++ wordsFrom (state.next character) rest

/-- The words of a text. -/
def words (text : List Char) : List (List Char) :=
  wordsFrom .between text

/-- The keyword that a word is, letter case aside. -/
def keywordOf? (keywords : List String) (word : List Char) : Option String :=
  let lowered := Text.lower (String.ofList word)
  keywords.reverse.find? fun keyword => Text.lower keyword == lowered

/-- The first denied keyword that a text mentions. -/
def mentioned? (keywords : List String) (text : String) : Option String :=
  (words text.toList).findSome? (keywordOf? keywords)

mutual
/-- The first denied keyword in the keys and strings of a value. -/
def mentionedIn? (keywords : List String) : Json → Option String
  | .string text => mentioned? keywords text
  | .array elements => mentionedInElements? keywords elements
  | .object members => mentionedInMembers? keywords members
  | _ => none
termination_by structural value => value

/-- `mentionedIn?` over elements in order. -/
def mentionedInElements? (keywords : List String) : List Json → Option String
  | [] => none
  | element :: rest =>
    (mentionedIn? keywords element).or (mentionedInElements? keywords rest)
termination_by structural elements => elements

/-- `mentionedIn?` over members in order, the key of each before its value. -/
def mentionedInMembers? (keywords : List String) : List (String × Json) → Option String
  | [] => none
  | (key, value) :: rest =>
    ((mentioned? keywords key).or (mentionedIn? keywords value)).or
      (mentionedInMembers? keywords rest)
termination_by structural members => members
end

example :
    words "a$where $$x 9b".toList =
      ["a".toList, "$where".toList, "$x".toList, "b".toList] := by
  decide

end DocumentGate.Denylist
