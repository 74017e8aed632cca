import DocumentGate.Number.Notation
import DocumentGate.Text.Cut
import DocumentGate.Text.Lowercase
import DocumentGate.Text.Quoted
import DocumentGate.Uri.Address

/-!
# Parts of a connection string

A connection string falls into a scheme, an authority, a path, a query and a fragment.
Controls and spaces in front are dropped first, and tabs and ends of lines wherever they
stand.  The scheme is only split off where it is spelled like one, and the authority only
after two slashes.  The authority must be bracketed soundly and must not hold characters
that turn into delimiters when they are brought to their compatible form.
-/

namespace DocumentGate

/-- The parts of a connection string. -/
structure Uri where
  scheme : List Char
  authority : List Char
  path : List Char
  query : List Char
  fragment : List Char
deriving DecidableEq, Repr

namespace Uri

/-- Why a connection string has no parts. -/
inductive Fault where
  | unsoundBrackets
  | invalidFutureAddress
  | bracketedShortAddress
  | notAddress (host : String)
  | disguisedDelimiter (authority : String)
deriving DecidableEq, Repr

/-- The fault in words. -/
def Fault.message : Fault → String
  | .unsoundBrackets => "Invalid IPv6 URL"
  | .invalidFutureAddress => "IPvFuture address is invalid"
  | .bracketedShortAddress => "An IPv4 address cannot be in brackets"
  | .notAddress host => Text.quoted host ++ " does not appear to be an IPv4 or IPv6 address"
  | .disguisedDelimiter authority =>
    "netloc '" ++ authority ++ "' contains invalid characters under NFKC normalization"

/-! ## Checks of the authority -/

/-- Characters whose compatible form holds a delimiter. -/
def disguises : List Nat :=
  [0x2047, 0x2048, 0x2049, 0x2100, 0x2101, 0x2105, 0x2106, 0x2A74, 0xFE13, 0xFE16, 0xFE55,
    0xFE56, 0xFE5F, 0xFE6B, 0xFF03, 0xFF0F, 0xFF1A, 0xFF1F, 0xFF20]

/-- An address of a form yet to come: `v`, a hexadecimal number, a dot and something. -/
def isFutureAddress (host : List Char) : Bool :=
  match host with
  | 'v' :: rest =>
    let version := rest.takeWhile fun digit => (Text.hexDigitValue? digit).isSome
    match rest.drop version.length with
    | '.' :: address => !version.isEmpty && !address.isEmpty
    | _ => false
  | _ => false

/-- What stands between brackets must be a long address or one of a form yet to come. -/
def checkBracketed (host : List Char) : Except Fault Unit :=
  if host.head? = some 'v' then
    if isFutureAddress host then .ok () else .error .invalidFutureAddress
  else if isShortAddress host then .error .bracketedShortAddress
  else if isLongAddress host then .ok ()
  else .error (.notAddress (String.ofList host))

/-- The authority after the name and password in it. -/
def hostAndPort (authority : List Char) : List Char :=
  (Text.cutLast '@' authority).2

/-- An authority with brackets must have its host, and nothing else, between them. -/
def checkBrackets (authority : List Char) : Except Fault Unit :=
  let opened := authority.contains '['
  let closed := authority.contains ']'
  if opened != closed then .error .unsoundBrackets
  else if !opened then .ok ()
  else
    match Text.cut '[' (hostAndPort authority) with
    | (before, some bracketed) =>
      let (host, after) := Text.cut ']' bracketed
      let rest := after.getD []
      if !before.isEmpty || (!rest.isEmpty && rest.head? != some ':') then .error .unsoundBrackets
      else checkBracketed host
    | (_, none) => checkBracketed (Text.cut ':' (hostAndPort authority)).1

/-- An authority may not hold a delimiter in disguise. -/
def checkDelimiters (authority : List Char) : Except Fault Unit :=
  if authority.any fun character => disguises.contains character.toNat then
    .error (.disguisedDelimiter (String.ofList authority))
  else .ok ()

/-! ## Splitting -/

/-- A control or a space; they are dropped in front of a connection string. -/
def isLeadIn (character : Char) : Bool :=
  character.toNat ≤ 0x20

/-- A tab or a part of an end of line; they are dropped wherever they stand. -/
def isDropped (character : Char) : Bool :=
  character = '\t' || character = '\r' || character = '\n'

/-- A character of a scheme. -/
def isSchemePart (character : Char) : Bool :=
  character.isAlphanum || character = '+' || character = '-' || character = '.'

/-- The scheme in lower case and the text after it, or no scheme and the whole text. -/
def splitScheme (characters : List Char) : List Char × List Char :=
  match Text.cut ':' characters with
  | (first :: others, some rest) =>
    if first.isAlpha && others.all isSchemePart then ((first :: others).map Char.toLower, rest)
    else ([], characters)
  | _ => ([], characters)

/-- A character before which the authority ends. -/
def endsAuthority (character : Char) : Bool :=
  character = '/' || character = '?' || character = '#'

/-- The authority and the text after it. -/
def splitAuthority (characters : List Char) : Except Fault (List Char × List Char) :=
  match characters with
  | '/' :: '/' :: rest => do
    let authority := rest.takeWhile (!endsAuthority ·)
    checkBrackets authority
    return (authority, rest.dropWhile (!endsAuthority ·))
  | _ => .ok ([], characters)

/-- A connection string without what counts for nothing in it. -/
def significant (characters : List Char) : List Char :=
  (characters.dropWhile isLeadIn).filter (!isDropped ·)

/-- The parts of a connection string. -/
def split (characters : List Char) : Except Fault Uri := do
  let (scheme, afterScheme) := splitScheme (significant characters)
  let (authority, rest) ← splitAuthority afterScheme
  checkDelimiters authority
  let (beforeFragment, fragment) := Text.cut '#' rest
  let (path, query) := Text.cut '?' beforeFragment
  return ⟨scheme, authority, path, query.getD [], fragment.getD []⟩

/-! ## Parts of the authority -/

/-- The user and the password, where there are any. -/
def credentials (uri : Uri) : Option (List Char × Option (List Char)) :=
  (Text.cutLast '@' uri.authority).1.map (Text.cut ':')

/-- The host as it is spelled, and the text after the colon behind it. -/
def spelledHost (uri : Uri) : List Char × List Char :=
  let rest := hostAndPort uri.authority
  match Text.cut '[' rest with
  | (_, some bracketed) =>
    let (host, after) := Text.cut ']' bracketed
    (host, (Text.cut ':' (after.getD [])).2.getD [])
  | (_, none) =>
    let (host, port) := Text.cut ':' rest
    (host, port.getD [])

/-- The host in lower case; a zone behind a percent sign keeps its case. -/
def host (uri : Uri) : List Char :=
  let (name, zone) := Text.cut '%' uri.spelledHost.1
  Text.lowerOnto [] name ++
    match zone with
    | some zone => '%' :: zone
    | none => []

/-- The spelling of a port. -/
inductive Port where
  | none
  | number (value : Nat)
  | invalid
deriving DecidableEq, Repr

/-- The port: decimal digits, not too many, of a number below 65536. -/
def port (uri : Uri) : Port :=
  let digits := uri.spelledHost.2
  let value := Nat.ofDigitChars 10 digits 0
  if digits.isEmpty then .none
  else if digits.all Char.isDigit && digits.length ≤ Number.digitLimit && value < 65536 then
    .number value
  else .invalid

/-! ## Joining -/

/-- A part behind its mark, or nothing for an empty part. -/
def marked (mark : Char) (part : List Char) : List Char :=
  if part.isEmpty then [] else mark :: part

/-- The text of parts with an authority. -/
def join (uri : Uri) : List Char :=
  let scheme := if uri.scheme.isEmpty then [] else uri.scheme ++ [':']
  scheme ++ '/' :: '/' :: uri.authority ++ uri.path ++ marked '?' uri.query ++
    marked '#' uri.fragment

end Uri
end DocumentGate
