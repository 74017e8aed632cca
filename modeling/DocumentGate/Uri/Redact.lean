import DocumentGate.Uri.Split

/-!
# Connection strings without passwords

Connections are labelled by their connection strings, in which a password is replaced.
The authority is put together again from the user, the host and the port, and nothing
but a fixed text is shown where the parts make no sense.
-/

namespace DocumentGate.Uri

/-- What is shown of a connection string that has no sound parts. -/
def malformedLabel : String := "<malformed uri>"

/-- The host and the port of a redacted authority, if the port makes sense. -/
def redactedHost? (uri : Uri) : Option (List Char) :=
  match uri.port with
  | .none => some uri.host
  | .number value => some (uri.host ++ ':' :: Nat.toDigits 10 value)
  | .invalid => none

/-- The authority with its password replaced. -/
def redactedAuthority (user host : List Char) : List Char :=
  (if user.isEmpty then [] else user ++ [':']) ++ ['*', '*', '*', '@'] ++ host

/-- The connection string with its password replaced, if it has one. -/
def redact (text : String) : String :=
  match split text.toList with
  | .error _ => malformedLabel
  | .ok uri =>
    match uri.credentials with
    | some (user, some _) =>
      match uri.redactedHost? with
      | some host =>
        String.ofList (join { uri with authority := redactedAuthority user host })
      | none => malformedLabel
    | _ => text

end DocumentGate.Uri
