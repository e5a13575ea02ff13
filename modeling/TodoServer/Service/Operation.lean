import TodoServer.Service.Todos
import TodoServer.Service.Users

/-!
# Operations of the services

Each request to a service as a value, so that runs of any operations in any order can be spoken of.
-/

namespace TodoServer

/-- What an operation takes from its surroundings. -/
structure Moment where
  now : Instant
  /-- Random bytes for a new password. -/
  salt : List UInt8
  /-- The id of a new token. -/
  tokenId : String
  deriving DecidableEq, Repr, Inhabited

/-- A request to the user service or to the todo service. -/
inductive Operation where
  | insertUser (name email password : String)
  | getUser (userId : Int)
  | findUser (name email : Option String)
  | updateUser (userId : Int) (name email password : Option String)
  | deleteUser (userId : Int)
  | authenticate (email password : String)
  | listTodos (userId : Int) (completed : Option Bool) (search : Option String)
  | getTodo (userId todoId : Int)
  | insertTodo (userId : Int) (todo : NewTodo)
  | insertTodos (userId : Int) (todos : List NewTodo)
  | updateTodo (userId todoId : Int) (title description : Option String)
  | isCompleted (userId todoId : Int)
  | toggle (userId todoId : Int)
  | deleteTodo (userId todoId : Int)
  deriving DecidableEq, Repr

namespace Operation

/-- The list of the todos of an owner with a status. -/
abbrev todosByStatus (userId : Int) (completed : Bool) : Operation :=
  listTodos userId (some completed) none

/-- The list of all todos of an owner. -/
abbrev allTodos (userId : Int) : Operation := listTodos userId none none

/-- The owner and the todo of a toggle. -/
def toggled? : Operation → Option (Int × Int)
  | toggle userId todoId => some (userId, todoId)
  | _ => none

/-- What an operation returns. -/
inductive Outcome where
  | id (id : Int)
  | user (user : Option User)
  | affected (count : Nat)
  | account (userId : Option Int)
  | todos (todos : List Todo)
  | todo (todo : Option Todo)
  | completed (flag : Bool)
  deriving DecidableEq, Repr

/-- An answer with its result as an outcome. -/
def shaped {α σ : Type} (shape : α → Outcome) (x : Except ServiceError α × σ) :
    Except ServiceError Outcome × σ :=
  (x.1.map shape, x.2)

/-- Carries out an operation alone. -/
def run {σ : Type} (r : Runner σ) (moment : Moment) (operation : Operation) (state : σ) :
    Except ServiceError Outcome × σ :=
  match operation with
  | insertUser name email password =>
    shaped .id (Users.insert r moment.now moment.salt name email password state)
  | getUser userId => shaped .user (Users.get r userId state)
  | findUser name email => shaped .user (Users.find r name email state)
  | updateUser userId name email password =>
    shaped .affected (Users.update r moment.now moment.salt userId name email password state)
  | deleteUser userId => shaped .affected (Users.delete r userId state)
  | authenticate email password => shaped .account (Users.authenticate r email password state)
  | listTodos userId completed search =>
    shaped .todos (Todos.list r userId completed search state)
  | getTodo userId todoId => shaped .todo (Todos.get r userId todoId state)
  | insertTodo userId todo => shaped .id (Todos.insert r moment.now userId todo state)
  | insertTodos userId todos => shaped .id (Todos.insertMany r moment.now userId todos state)
  | updateTodo userId todoId title description =>
    shaped .affected (Todos.update r moment.now userId todoId title description state)
  | isCompleted userId todoId => shaped .completed (Todos.isCompleted r userId todoId state)
  | toggle userId todoId => shaped .completed (Todos.toggle r moment.now userId todoId state)
  | deleteTodo userId todoId => shaped .affected (Todos.delete r userId todoId state)

end Operation

end TodoServer
