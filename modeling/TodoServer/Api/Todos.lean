import TodoServer.Api.Reply

/-!
# Endpoints of todos

All of them act on the todos of the caller alone.
-/

namespace TodoServer.Api.Todos

variable {σ : Type} (r : Runner σ)

/-- What is told of a todo that is not there. -/
def missing (todoId : Int) : ApiError :=
  .notFound "TODO_NOT_FOUND" ("Todo " ++ Text.decimal todoId ++ " not found")

/-- Shows a todo as it is stored. -/
def shown (status : Nat) (userId todoId : Int) (state : σ) : Reply σ :=
  after (TodoServer.Todos.get r userId todoId state) fun
    | some todo, state => (.ok (.json status todo.toJson), state)
    | none, state => (.error (missing todoId), state)

/-- Lists todos. -/
def list (userId : Int) (request : Http.Request) (state : σ) : Reply σ :=
  accepting (listingOfQuery request.target.query) state fun listing =>
    after (TodoServer.Todos.list r userId listing.completed listing.search state) fun todos state =>
      (.ok (.json 200 (.arr (todos.map Todo.toJson))), state)

/-- Creates a todo. -/
def create (moment : Moment) (userId : Int) (request : Http.Request) (state : σ) : Reply σ :=
  accepting (newTodoForm.ofRequest ownLimit request) state fun todo =>
    after (TodoServer.Todos.insert r moment.now userId todo state) fun todoId state =>
      shown r 201 userId todoId state

/-- Creates several todos. -/
def createMany (moment : Moment) (userId : Int) (request : Http.Request) (state : σ) : Reply σ :=
  accepting (batchForm.ofRequest ownLimit request) state fun todos =>
    after (TodoServer.Todos.insertMany r moment.now userId todos state) fun lastId state =>
      (.ok (.json 201 (.obj [("count", .int todos.length), ("last_id", .int lastId)])), state)

/-- Shows a todo. -/
def get (userId : Int) (part : String) (state : σ) : Reply σ :=
  accepting (pathId part) state fun todoId => shown r 200 userId todoId state

/-- Changes a todo. -/
def change (moment : Moment) (userId : Int) (part : String) (request : Http.Request) (state : σ) :
    Reply σ :=
  accepting (pathId part) state fun todoId =>
    accepting (todoChangeForm.ofRequest ownLimit request) state fun given =>
      after (TodoServer.Todos.update r moment.now userId todoId given.title given.description state)
        fun
        | 0, state => (.error (missing todoId), state)
        | _ + 1, state => shown r 200 userId todoId state

/-- Removes a todo. -/
def remove (userId : Int) (part : String) (state : σ) : Reply σ :=
  accepting (pathId part) state fun todoId =>
    after (TodoServer.Todos.delete r userId todoId state) fun
      | 0, state => (.error (missing todoId), state)
      | _ + 1, state => (.ok (.bare 204), state)

/-- How far the answering of a request has come that flips the flag of a todo. -/
inductive Completing where
  | toggling (toggle : TodoServer.Todos.Toggle)
  /-- The flag was flipped and the todo has to be shown. -/
  | loading
  | answered (answer : Except ApiError Http.Response)

namespace Completing

/-- One more statement for such a request. -/
def step (now : Instant) (userId todoId : Int) (c : Completing) (state : σ) : Completing × σ :=
  match c with
  | toggling t =>
    let (t, state) := t.step r now userId todoId state
    (match t with
      | .done (.ok _) => loading
      | .done (.error e) => answered (.error (.ofService e))
      | t => toggling t, state)
  | loading =>
    let (answer, state) := shown r 200 userId todoId state
    (answered answer, state)
  | answered answer => (answered answer, state)

/-- Such a request alone for at most `n` statements. -/
def run (now : Instant) (userId todoId : Int) : Nat → Completing → σ → Completing × σ
  | 0, c, state => (c, state)
  | n + 1, c, state =>
    let (c, state) := step r now userId todoId c state
    run now userId todoId n c state

/-- The answer of such a request. One that has none yet has not found its todo unchanged. -/
def answer (todoId : Int) : Completing → Except ApiError Http.Response
  | answered answer => answer
  | _ => .error (.ofService (.notFound "todo" todoId))

end Completing

/-- Flips the flag of a todo. Alone that reads the flag, writes it and reads the todo. -/
def complete (moment : Moment) (userId : Int) (part : String) (state : σ) : Reply σ :=
  accepting (pathId part) state fun todoId =>
    let (c, state) := Completing.run r moment.now userId todoId 3 (.toggling .reading) state
    (c.answer todoId, state)

end TodoServer.Api.Todos
