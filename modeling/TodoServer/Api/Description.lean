import TodoServer.Json.Value
import TodoServer.Text.Ascii
import TodoServer.Version

/-!
# The description of the API

Operations and schemas, and the document that describes them to programs.
-/

namespace TodoServer.Api

/-- The type of a field or of a value. -/
inductive FieldType where
  | text
  | number
  | flag
  | list (item : FieldType)
  /-- A schema by its name. -/
  | named (name : String)
  deriving Repr

/-- A field of a schema. -/
structure Field where
  name : String
  type : FieldType
  required : Bool
  deriving Repr

/-- A named schema. -/
structure Schema where
  name : String
  fields : List Field
  deriving Repr

/-- A parameter of an operation. -/
structure Parameter where
  name : String
  place : String
  type : FieldType
  required : Bool
  deriving Repr

/-- What an operation may answer. -/
structure Outcome where
  status : Nat
  description : String
  content : Option FieldType
  deriving Repr

/-- An operation on a path. -/
structure OperationInfo where
  method : String
  name : String
  tag : String
  summary : String
  parameters : List Parameter
  body : Option FieldType
  /-- Whether only callers with a token are let in. -/
  secured : Bool
  outcomes : List Outcome
  deriving Repr

/-- A path and the operations on it. -/
structure PathInfo where
  path : String
  operations : List OperationInfo
  deriving Repr

/-- A tag and what it stands for. -/
structure Tag where
  name : String
  description : String
  deriving Repr

/-- What the API consists of. -/
structure Description where
  title : String
  version : String
  summary : String
  tags : List Tag
  paths : List PathInfo
  schemas : List Schema
  /-- The names of the ways to be let in. -/
  security : List String
  deriving Repr

namespace Description

/-! ## The document -/

/-- The document of a type. -/
def typeJson : FieldType → Json
  | .text => .obj [("type", .str "string")]
  | .number => .obj [("type", .str "integer"), ("format", .str "int64")]
  | .flag => .obj [("type", .str "boolean")]
  | .list item => .obj [("type", .str "array"), ("items", typeJson item)]
  | .named name => .obj [("$ref", .str ("#/components/schemas/" ++ name))]

/-- The document of a schema. -/
def schemaJson (s : Schema) : Json :=
  let required := s.fields.filter (·.required)
  .obj ([("type", Json.str "object")] ++
    (if required.isEmpty then [] else [("required", Json.arr (required.map (.str ·.name)))]) ++
    [("properties", .obj (s.fields.map fun f => (f.name, typeJson f.type)))])

/-- The document of a parameter. -/
def parameterJson (p : Parameter) : Json :=
  .obj [("name", .str p.name), ("in", .str p.place), ("required", .bool p.required),
    ("schema", typeJson p.type)]

/-- The document of what may be sent or answered. -/
def contentJson (type : FieldType) : Json :=
  .obj [("application/json", .obj [("schema", typeJson type)])]

/-- The document of an outcome. -/
def outcomeJson (o : Outcome) : Json :=
  .obj ([("description", Json.str o.description)] ++
    (match o.content with
      | some type => [("content", contentJson type)]
      | none => []))

/-- The document of an operation. -/
def operationJson (security : List String) (o : OperationInfo) : Json :=
  .obj ([("tags", Json.arr [.str o.tag]), ("summary", .str o.summary),
      ("operationId", .str o.name)] ++
    (if o.parameters.isEmpty then []
      else [("parameters", .arr (o.parameters.map parameterJson))]) ++
    (match o.body with
      | some type =>
        [("requestBody", .obj [("content", contentJson type), ("required", .bool true)])]
      | none => []) ++
    [("responses", .obj (o.outcomes.map fun x => (Text.decimalNat x.status, outcomeJson x)))] ++
    (if o.secured then
      [("security", .arr [.obj (security.map fun name => (name, .arr []))])] else []))

/-- The document that describes the API. -/
def toJson (d : Description) : Json :=
  .obj [("openapi", .str "3.1.0"),
    ("info", .obj [("title", .str d.title), ("description", .str d.summary),
      ("version", .str d.version)]),
    ("paths", .obj (d.paths.map fun p =>
      (p.path, .obj (p.operations.map fun o => (o.method, operationJson d.security o))))),
    ("components", .obj [("schemas", .obj (d.schemas.map fun s => (s.name, schemaJson s))),
      ("securitySchemes", .obj (d.security.map fun name =>
        (name, .obj [("type", .str "http"), ("scheme", .str "bearer"),
          ("bearerFormat", .str "JWT")])))]),
    ("tags", .arr (d.tags.map fun t =>
      .obj [("name", .str t.name), ("description", .str t.description)]))]

end Description

/-! ## The API -/

namespace Contents

/-- A field that is always there. -/
def needed (name : String) (type : FieldType) : Field := ⟨name, type, true⟩

/-- A field that may be left out or null. -/
def given (name : String) (type : FieldType) : Field := ⟨name, type, false⟩

/-- An outcome that tells an error. -/
def failing (status : Nat) (description : String) : Outcome :=
  ⟨status, description, some (.named "ErrorBody")⟩

/-- An outcome with a document. -/
def telling (status : Nat) (description : String) (type : FieldType) : Outcome :=
  ⟨status, description, some type⟩

/-- The schemas of what is sent and answered. -/
def schemas : List Schema :=
  [⟨"ErrorBody", [needed "error" .text, needed "code" .text, needed "message" .text]⟩,
    ⟨"HealthResponse", [needed "status" .text, needed "version" .text]⟩,
    ⟨"LoginRequest", [needed "email" .text, needed "password" .text]⟩,
    ⟨"LoginResponse", [needed "token" .text, needed "token_type" .text,
      needed "expires_in" .number]⟩,
    ⟨"UserDto", [needed "id" .number, needed "name" .text, needed "email" .text,
      needed "created_at" .text, needed "updated_at" .text]⟩,
    ⟨"CreateUserRequest", [needed "name" .text, needed "email" .text, needed "password" .text]⟩,
    ⟨"UpdateUserRequest", [given "name" .text, given "email" .text, given "password" .text]⟩,
    ⟨"TodoDto", [needed "id" .number, needed "title" .text, given "description" .text,
      needed "completed" .flag, needed "user_id" .number, needed "created_at" .text,
      needed "updated_at" .text]⟩,
    ⟨"CreateTodoRequest", [needed "title" .text, given "description" .text]⟩,
    ⟨"BatchCreateTodosRequest", [needed "todos" (.list (.named "CreateTodoRequest"))]⟩,
    ⟨"BatchCreatedResponse", [needed "count" .number, needed "last_id" .number]⟩,
    ⟨"UpdateTodoRequest", [given "title" .text, given "description" .text]⟩]

/-- The id in a path. -/
def idParameter : Parameter := ⟨"id", "path", .number, true⟩

/-- The check of the server. -/
def healthOperation : OperationInfo :=
  ⟨"get", "health", "health", "Health check endpoint", [], none, false,
    [telling 200 "Service is healthy" (.named "HealthResponse")]⟩

/-- The login. -/
def loginOperation : OperationInfo :=
  ⟨"post", "login", "auth", "Exchange email and password for an access token", [],
    some (.named "LoginRequest"), false,
    [telling 200 "Credentials accepted" (.named "LoginResponse"),
      failing 401 "Invalid email or password"]⟩

/-- The operations on all accounts and on that of the caller. -/
def userPaths : List PathInfo :=
  [⟨"/api/v1/users",
      [⟨"post", "create_user", "users", "Register a new user", [],
        some (.named "CreateUserRequest"), false,
        [telling 201 "User created" (.named "UserDto"), failing 400 "Invalid request",
          failing 409 "Email already registered"]⟩]⟩,
    ⟨"/api/v1/users/me",
      [⟨"get", "get_current_user", "users", "Get the current user\x27s profile", [], none, true,
          [telling 200 "User profile" (.named "UserDto"), failing 401 "Not authenticated",
            failing 404 "User not found"]⟩,
        ⟨"put", "update_current_user", "users", "Update the current user\x27s profile", [],
          some (.named "UpdateUserRequest"), true,
          [telling 200 "User profile updated" (.named "UserDto"),
            failing 400 "Nothing to update", failing 404 "User not found",
            failing 409 "Email already registered"]⟩,
        ⟨"delete", "delete_current_user", "users",
          "Delete the current user and all of their todos", [], none, true,
          [⟨204, "User deleted", none⟩, failing 404 "User not found"]⟩]⟩]

/-- The operations on the todos of the caller. -/
def todoPaths : List PathInfo :=
  [⟨"/api/v1/todos",
      [⟨"get", "list_todos", "todos", "List the current user\x27s todos",
          [⟨"completed", "query", .flag, false⟩, ⟨"q", "query", .text, false⟩], none, true,
          [telling 200 "Matching todos" (.list (.named "TodoDto")),
            failing 401 "Not authenticated"]⟩,
        ⟨"post", "create_todo", "todos", "Create a todo", [],
          some (.named "CreateTodoRequest"), true,
          [telling 201 "Todo created" (.named "TodoDto"), failing 400 "Invalid request"]⟩]⟩,
    ⟨"/api/v1/todos/batch",
      [⟨"post", "create_todos_batch", "todos", "Create several todos in one statement", [],
        some (.named "BatchCreateTodosRequest"), true,
        [telling 201 "Todos created" (.named "BatchCreatedResponse"),
          failing 400 "Invalid request"]⟩]⟩,
    ⟨"/api/v1/todos/\x7bid\x7d",
      [⟨"get", "get_todo", "todos", "Get one todo", [idParameter], none, true,
          [telling 200 "The todo" (.named "TodoDto"), failing 404 "Todo not found"]⟩,
        ⟨"put", "update_todo", "todos", "Update title and/or description", [idParameter],
          some (.named "UpdateTodoRequest"), true,
          [telling 200 "Todo updated" (.named "TodoDto"), failing 400 "Nothing to update",
            failing 404 "Todo not found"]⟩,
        ⟨"delete", "delete_todo", "todos", "Delete a todo", [idParameter], none, true,
          [⟨204, "Todo deleted", none⟩, failing 404 "Todo not found"]⟩]⟩,
    ⟨"/api/v1/todos/\x7bid\x7d/complete",
      [⟨"put", "toggle_todo", "todos", "Flip the completion flag", [idParameter], none, true,
        [telling 200 "Todo with its new completion state" (.named "TodoDto"),
          failing 404 "Todo not found"]⟩]⟩]

end Contents

/-- The description of the API. -/
def description : Description where
  title := "Kotodo API"
  version := version
  summary := "Per-user todo lists"
  tags := [⟨"health", "Health check endpoint"⟩, ⟨"auth", "Authentication endpoints"⟩,
    ⟨"users", "User registration and profile"⟩, ⟨"todos", "Todo management"⟩]
  paths := [⟨"/api/v1/health", [Contents.healthOperation]⟩,
    ⟨"/api/v1/auth/login", [Contents.loginOperation]⟩] ++ Contents.userPaths ++
    Contents.todoPaths
  schemas := Contents.schemas
  security := ["bearer"]

end TodoServer.Api
