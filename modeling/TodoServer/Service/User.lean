import TodoServer.Data.Record

/-!
# Users
-/

namespace TodoServer

/-- A stored account. -/
structure User where
  id : Int
  name : String
  email : String
  passwordHash : String
  createdAt : String
  updatedAt : String
  deriving DecidableEq, Repr, Inhabited

namespace User

/-- The table of accounts. -/
def table : String := "users"

/-- Reads a row. -/
def ofRecord (row : Record) : Except DecodeError User := do
  let id ← row.int "id"
  let name ← row.text "name"
  let email ← row.text "email"
  let passwordHash ← row.text "password_hash"
  let createdAt ← row.text "created_at"
  let updatedAt ← row.text "updated_at"
  .ok { id, name, email, passwordHash, createdAt, updatedAt }

/-- The document that is shown of an account. It leaves the password out. -/
def toJson (u : User) : Json :=
  .obj [("id", .int u.id), ("name", .str u.name), ("email", .str u.email),
    ("created_at", .str u.createdAt), ("updated_at", .str u.updatedAt)]

end User

end TodoServer
