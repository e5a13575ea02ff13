import TodoServer.Text.Ascii

/-!
# Routes

Which resource a path names, and which endpoint answers which method on it.
-/

namespace TodoServer.Api

/-- What a path names. The part of a path that holds an id is kept as it is. -/
inductive Resource where
  | health
  | description
  | docs
  | login
  | users
  | me
  | todos
  | batch
  | todo (part : String)
  | completion (part : String)
  deriving DecidableEq, Repr

/-- The endpoints for everybody. -/
inductive OpenEndpoint where
  | health
  | description
  | docs
  | login
  | register
  deriving DecidableEq, Repr

/-- The endpoints for callers who are let in. -/
inductive OwnEndpoint where
  | profile
  | changeProfile
  | removeAccount
  | listTodos
  | createTodo
  | createTodos
  | todo (part : String)
  | changeTodo (part : String)
  | removeTodo (part : String)
  | completeTodo (part : String)
  deriving DecidableEq, Repr

/-- What answers a request. -/
inductive Endpoint where
  | everybody (endpoint : OpenEndpoint)
  | owner (endpoint : OwnEndpoint)
  deriving DecidableEq, Repr

namespace Resource

/-- The resource below the todos that the parts of a path name. -/
def ofTodoParts? : List String → Option Resource
  | [] => some todos
  | ["batch"] => some batch
  | [part] => if part = "" then none else some (todo part)
  | [part, "complete"] => some (completion part)
  | _ => none

/-- The resource that a path names. -/
def ofPath? (path : String) : Option Resource :=
  match Text.split '/' path with
  | ["", "api", "openapi.json"] => some description
  | ["", "api", "docs"] => some docs
  | ["", "api", "v1", "health"] => some health
  | ["", "api", "v1", "auth", "login"] => some login
  | ["", "api", "v1", "users"] => some users
  | ["", "api", "v1", "users", "me"] => some me
  | "" :: "api" :: "v1" :: "todos" :: parts => ofTodoParts? parts
  | _ => none

/-- The endpoints of a resource by their methods. -/
def endpoints : Resource → List (String × Endpoint)
  | health => [("GET", .everybody .health)]
  | description => [("GET", .everybody .description)]
  | docs => [("GET", .everybody .docs)]
  | login => [("POST", .everybody .login)]
  | users => [("POST", .everybody .register)]
  | me => [("GET", .owner .profile), ("PUT", .owner .changeProfile),
      ("DELETE", .owner .removeAccount)]
  | todos => [("GET", .owner .listTodos), ("POST", .owner .createTodo)]
  | batch => [("POST", .owner .createTodos)]
  | todo part => [("GET", .owner (.todo part)), ("PUT", .owner (.changeTodo part)),
      ("DELETE", .owner (.removeTodo part))]
  | completion part => [("PUT", .owner (.completeTodo part))]

/-- Whether only callers with a token are let in. -/
def isOwn (r : Resource) : Bool :=
  r.endpoints.any fun (_, endpoint) => endpoint matches .owner _

/-- The endpoint that answers a method. `HEAD` is answered as `GET` is. -/
def endpoint? (r : Resource) (method : String) : Option Endpoint :=
  let wanted := if method = "HEAD" then "GET" else method
  (r.endpoints.find? (·.1 == wanted)).map (·.2)

/-- The methods that a resource allows. -/
def allowed (r : Resource) : String :=
  Text.join "," (r.endpoints.map fun (method, _) => if method = "GET" then "GET,HEAD" else method)

end Resource

end TodoServer.Api
