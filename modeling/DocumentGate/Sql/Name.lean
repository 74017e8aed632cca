import DocumentGate.Text.Quoted

/-!
# Names in statements

A database is a schema and a collection a table in it.  Both are written between double
quotation marks, where a quotation mark is doubled.  A database name that is empty or
holds a zero character is refused.
-/

namespace DocumentGate.Sql

/-- A name between double quotation marks. -/
def quotedName (name : String) : String :=
  let inner :=
    name.toList.flatMap fun character =>
      if character = '"' then ['"', '"'] else [character]
  String.ofList ('"' :: inner ++ ['"'])

/-- A database name that no schema can have. -/
structure InvalidDatabase where
  name : String
deriving DecidableEq, Repr

/-- The fault in words. -/
def InvalidDatabase.message (fault : InvalidDatabase) : String :=
  "Invalid database name " ++ Text.quoted fault.name

/-- The schema of a database. -/
def schemaName (database : String) : Except InvalidDatabase String :=
  if database.isEmpty || database.toList.contains '\x00' then .error ⟨database⟩
  else .ok (quotedName database)

/-- The table of a collection; an empty collection name is left out. -/
def tableName (database collection : String) : Except InvalidDatabase String := do
  let schema ← schemaName database
  return if collection.isEmpty then schema else schema ++ "." ++ quotedName collection

end DocumentGate.Sql
