import TodoServer.Data.Record

/-!
# Todos
-/

namespace TodoServer

/-- A stored todo. -/
structure Todo where
  id : Int
  title : String
  description : Option String
  completed : Bool
  userId : Int
  createdAt : String
  updatedAt : String
  deriving DecidableEq, Repr, Inhabited

/-- What is given for a new todo. -/
structure NewTodo where
  title : String
  description : Option String
  deriving DecidableEq, Repr, Inhabited

namespace Todo

/-- The table of todos. -/
def table : String := "todos"

/-- Reads a row. -/
def ofRecord (row : Record) : Except DecodeError Todo := do
  let id ← row.int "id"
  let title ← row.text "title"
  let description ← row.text? "description"
  let completed ← row.bool "completed"
  let userId ← row.int "user_id"
  let createdAt ← row.text "created_at"
  let updatedAt ← row.text "updated_at"
  .ok { id, title, description, completed, userId, createdAt, updatedAt }

/-- The document that is shown of a todo. -/
def toJson (t : Todo) : Json :=
  .obj [("id", .int t.id), ("title", .str t.title),
    ("description", (t.description.map Json.str).getD .null), ("completed", .bool t.completed),
    ("user_id", .int t.userId), ("created_at", .str t.createdAt), ("updated_at", .str t.updatedAt)]

end Todo

/-- The row of a new todo, which is not completed. -/
def NewTodo.toRecord (t : NewTodo) (userId : Int) (now : String) : Record :=
  .ofList [("title", .text t.title), ("description", .ofText? t.description),
    ("completed", .bool false), ("user_id", .integer userId), ("created_at", .text now),
    ("updated_at", .text now)]

end TodoServer
