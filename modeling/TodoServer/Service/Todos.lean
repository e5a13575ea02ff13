import TodoServer.Data.Instant
import TodoServer.Filter.Builder
import TodoServer.Query.Executor
import TodoServer.Service.Error
import TodoServer.Service.Todo
import TodoServer.Text.Blank

/-!
# The todo service

Each operation is scoped to the owner: a todo of somebody else is like one that does not exist. All
operations but the toggle issue at most one statement; the toggle reads the flag and then writes it
only while it still is what was read.
-/

namespace TodoServer.Todos

variable {σ : Type} (r : Runner σ)

/-- The filter of one todo of its owner. -/
def owned (userId todoId : Int) : Except ServiceError Filter :=
  orFilter ((FilterBuilder.empty.eq "id" (.integer todoId)).eq "user_id" (.integer userId)).build

/-- The todos that a filter accepts. -/
def fetch (filter : Except ServiceError Filter) (state : σ) :
    Except ServiceError (List Todo) × σ :=
  match filter with
  | .error e => (.error e, state)
  | .ok filter =>
    let (answer, state) := Executor.select r Todo.table [] filter state
    (do orRow ((← orQuery answer).mapM Todo.ofRecord), state)

/-- The pattern of the texts that contain another text. -/
def containing (text : String) : Scalar :=
  .text ("%" ++ Sql.escapeLike text ++ "%")

/-- The words searched for: a search text without blanks at its ends, unless nothing is left. -/
def wanted (search : Option String) : Option String :=
  (search.map Text.trim).filter (· ≠ "")

/-- The builder of a list: the owner's todos, narrowed by status and by a text in the title or in
the description. -/
def listing (userId : Int) (completed : Option Bool) (search : Option String) : FilterBuilder :=
  let owner := (FilterBuilder.empty.eq "user_id" (.integer userId)).eqGiven "completed"
    (completed.map .bool)
  match wanted search with
  | none => owner
  | some text =>
    owner.nested .or ((FilterBuilder.empty.condition "title" .like (containing text)).condition
      "description" .like (containing text))

/-- The todos of an owner, narrowed by status and search text. -/
def list (userId : Int) (completed : Option Bool) (search : Option String) (state : σ) :
    Except ServiceError (List Todo) × σ :=
  fetch r (orFilter (listing userId completed search).build) state

/-- One todo of an owner. -/
def get (userId todoId : Int) (state : σ) : Except ServiceError (Option Todo) × σ :=
  let (answer, state) := fetch r (owned userId todoId) state
  (answer.map List.head?, state)

/-- Creates a todo and reports its id. -/
def insert (now : Instant) (userId : Int) (todo : NewTodo) (state : σ) :
    Except ServiceError Int × σ :=
  let (answer, state) := Executor.insert r Todo.table (todo.toRecord userId now.text) state
  (orQuery answer, state)

/-- Creates several todos at once and reports the last id, or zero when there are none. -/
def insertMany (now : Instant) (userId : Int) (todos : List NewTodo) (state : σ) :
    Except ServiceError Int × σ :=
  let (answer, state) :=
    Executor.insertAll r Todo.table (todos.map (·.toRecord userId now.text)) state
  (orQuery answer, state)

/-- The changed columns of a todo. The time is set when anything else is. -/
def changes (now : Instant) (title description : Option String) : Record :=
  let given := (Record.empty.setGiven "title" (title.map .text)).setGiven "description"
    (description.map .text)
  if given.isEmpty then given else given.set "updated_at" (.text now.text)

/-- Changes a todo and reports how many rows that touched. -/
def update (now : Instant) (userId todoId : Int) (title description : Option String) (state : σ) :
    Except ServiceError Nat × σ :=
  match owned userId todoId with
  | .error e => (.error e, state)
  | .ok filter =>
    let (answer, state) := Executor.update r Todo.table (changes now title description) filter state
    (orQuery answer, state)

/-- Removes a todo and reports how many rows that touched. -/
def delete (userId todoId : Int) (state : σ) : Except ServiceError Nat × σ :=
  match owned userId todoId with
  | .error e => (.error e, state)
  | .ok filter =>
    let (answer, state) := Executor.delete r Todo.table filter state
    (orQuery answer, state)

/-- The flag of the first of some rows. -/
def flagOf : List Record → Except ServiceError (Option Bool)
  | [] => .ok none
  | row :: _ => (orRow (row.bool "completed")).map some

/-- The flag of a todo, if there is such a todo. -/
def completion (userId todoId : Int) (state : σ) : Except ServiceError (Option Bool) × σ :=
  match owned userId todoId with
  | .error e => (.error e, state)
  | .ok filter =>
    let (answer, state) := Executor.select r Todo.table ["completed"] filter state
    (orQuery answer >>= flagOf, state)

/-- Whether a todo is completed. A missing one is not. -/
def isCompleted (userId todoId : Int) (state : σ) : Except ServiceError Bool × σ :=
  let (answer, state) := completion r userId todoId state
  (answer.map (·.getD false), state)

/-- Writes the opposite of a flag that was seen, if the todo still has it, and reports how many rows
that touched. -/
def flip (now : Instant) (userId todoId : Int) (seen : Bool) (state : σ) :
    Except ServiceError Nat × σ :=
  match orFilter (((FilterBuilder.empty.eq "id" (.integer todoId)).eq "user_id"
      (.integer userId)).eq "completed" (.bool seen)).build with
  | .error e => (.error e, state)
  | .ok filter =>
    let data := Record.ofList [("completed", .bool !seen), ("updated_at", .text now.text)]
    let (answer, state) := Executor.update r Todo.table data filter state
    (orQuery answer, state)

/-- How far a toggle has come. -/
inductive Toggle where
  /-- The flag has to be read. -/
  | reading
  /-- The flag was seen and has to be written. -/
  | writing (seen : Bool)
  | done (answer : Except ServiceError Bool)
  deriving Repr

namespace Toggle

/-- One more statement of a toggle. A write that touches no row leads back to reading. -/
def step (now : Instant) (userId todoId : Int) (t : Toggle) (state : σ) : Toggle × σ :=
  match t with
  | reading =>
    let (answer, state) := completion r userId todoId state
    (match answer with
      | .ok (some seen) => .writing seen
      | .ok none => .done (.error (.notFound "todo" todoId))
      | .error e => .done (.error e), state)
  | writing seen =>
    let (answer, state) := flip r now userId todoId seen state
    (match answer with
      | .ok 0 => .reading
      | .ok (_ + 1) => .done (.ok !seen)
      | .error e => .done (.error e), state)
  | done answer => (.done answer, state)

/-- A toggle alone for at most `n` statements. -/
def run (now : Instant) (userId todoId : Int) : Nat → Toggle → σ → Toggle × σ
  | 0, t, state => (t, state)
  | n + 1, t, state =>
    let (t, state) := step r now userId todoId t state
    run now userId todoId n t state

/-- The answer of a toggle. One that has none yet has not found its todo unchanged. -/
def answer (todoId : Int) : Toggle → Except ServiceError Bool
  | done answer => answer
  | _ => .error (.notFound "todo" todoId)

end Toggle

/-- Flips the flag of a todo and reports the new one. Alone it reads once and writes once. -/
def toggle (now : Instant) (userId todoId : Int) (state : σ) : Except ServiceError Bool × σ :=
  let (t, state) := Toggle.run r now userId todoId 2 .reading state
  (t.answer todoId, state)

end TodoServer.Todos
