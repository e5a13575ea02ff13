import TodoServer.Api.Violation
import TodoServer.Json.Shape
import TodoServer.Service.Todo

/-!
# Forms

What callers send: its shape as a document, and the rules for its fields.
-/

namespace TodoServer.Api

/-- How a document is read as a value, and the rules for that value. -/
structure Form (α : Type) where
  shape : Json.Shape
  /-- The value of a document of the shape. -/
  value? : Json.Datum → Option α
  violations : α → List Violation

namespace Form

/-- The value of a datum that was read. -/
def take {α : Type} (form : Form α) (datum : Json.Datum) : Except Json.Fault α :=
  match form.value? datum with
  | some value => .ok value
  | none => .error .mismatched

/-- Reads a document. -/
def read {α : Type} (form : Form α) (bytes : List UInt8) : Except Json.Fault α :=
  form.shape.read bytes >>= form.take

/-- Fits a document that was read before. -/
def fit {α : Type} (form : Form α) (document : Json) : Except Json.Fault α :=
  form.shape.fit document.draft >>= form.take

end Form

/-- An email and a password to log in with. -/
structure Credentials where
  email : String
  password : String
  deriving DecidableEq, Repr

/-- A new account. -/
structure Registration where
  name : String
  email : String
  password : String
  deriving DecidableEq, Repr

/-- What is to be changed of an account. -/
structure ProfileChange where
  name : Option String
  email : Option String
  password : Option String
  deriving DecidableEq, Repr

/-- What is to be changed of a todo. -/
structure TodoChange where
  title : Option String
  description : Option String
  deriving DecidableEq, Repr

/-- Which todos are to be listed. -/
structure Listing where
  completed : Option Bool
  search : Option String
  deriving DecidableEq, Repr

/-! ## Rules

Lengths are counted in characters. -/

def nameRule : String → List Violation :=
  Violation.ofLength 1 (some 100) "name" "Name must be 1-100 characters"

def emailRule : String → List Violation :=
  Violation.ofEmail "email" "Email must be a valid address"

def passwordRule : String → List Violation :=
  Violation.ofLength 8 (some 128) "password" "Password must be 8-128 characters"

def titleRule : String → List Violation :=
  Violation.ofLength 1 (some 200) "title" "Title must be 1-200 characters"

def descriptionRule : String → List Violation :=
  Violation.ofLength 0 (some 2000) "description" "Description must be at most 2000 characters"

def searchRule : String → List Violation :=
  Violation.ofLength 0 (some 200) "q" "Search text must be at most 200 characters"

/-- The most todos that can be created at once. -/
def largestBatch : Nat := 500

/-- A batch holds a todo at least and not too many. -/
def batchRule (todos : List NewTodo) : List Violation :=
  Violation.check (1 ≤ todos.length && todos.length ≤ largestBatch) "todos"
    "Batch must hold 1-500 todos"

/-- The rules of a new todo. -/
def todoRules (todo : NewTodo) : List Violation :=
  titleRule todo.title ++ Violation.ofGiven descriptionRule todo.description

/-! ## Forms -/

/-- The form of credentials: neither may be empty. -/
def credentialsForm : Form Credentials where
  shape := .object [("email", .text), ("password", .text)]
  value?
    | .object [.text email, .text password] => some ⟨email, password⟩
    | _ => none
  violations c :=
    Violation.ofLength 1 none "email" "Email cannot be empty" c.email ++
      Violation.ofLength 1 none "password" "Password cannot be empty" c.password

/-- The form of a new account. All is required. -/
def registrationForm : Form Registration where
  shape := .object [("name", .text), ("email", .text), ("password", .text)]
  value?
    | .object [.text name, .text email, .text password] => some ⟨name, email, password⟩
    | _ => none
  violations r := nameRule r.name ++ emailRule r.email ++ passwordRule r.password

/-- The form of a change of an account. What is left out stays. -/
def profileForm : Form ProfileChange where
  shape := .object [("name", .optional .text), ("email", .optional .text),
    ("password", .optional .text)]
  value?
    | .object [name, email, password] => some ⟨name.text?, email.text?, password.text?⟩
    | _ => none
  violations p :=
    Violation.ofGiven nameRule p.name ++ Violation.ofGiven emailRule p.email ++
      Violation.ofGiven passwordRule p.password

/-- The value of a document of a new todo. -/
def newTodo? : Json.Datum → Option NewTodo
  | .object [.text title, description] => some ⟨title, description.text?⟩
  | _ => none

/-- The form of a new todo. The description may be left out. -/
def newTodoForm : Form NewTodo where
  shape := .object [("title", .text), ("description", .optional .text)]
  value? := newTodo?
  violations := todoRules

/-- The form of several new todos. -/
def batchForm : Form (List NewTodo) where
  shape := .object [("todos", .list newTodoForm.shape)]
  value?
    | .object [.list todos] => todos.mapM newTodo?
    | _ => none
  violations todos := batchRule todos ++ Violation.ofItems todoRules 0 todos

/-- The form of a change of a todo. What is left out stays. -/
def todoChangeForm : Form TodoChange where
  shape := .object [("title", .optional .text), ("description", .optional .text)]
  value?
    | .object [title, description] => some ⟨title.text?, description.text?⟩
    | _ => none
  violations t :=
    Violation.ofGiven titleRule t.title ++ Violation.ofGiven descriptionRule t.description

/-- The form of what is to be listed, when it is given as a document. -/
def listingForm : Form Listing where
  shape := .object [("completed", .optional .flag), ("q", .optional .text)]
  value?
    | .object [completed, search] => some ⟨completed.flag?, search.text?⟩
    | _ => none
  violations l := Violation.ofGiven searchRule l.search

end TodoServer.Api
