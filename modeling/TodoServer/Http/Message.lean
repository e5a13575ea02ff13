import TodoServer.Http.Target
import TodoServer.Http.Token
import TodoServer.Json.Value

/-!
# Requests and responses
-/

namespace TodoServer.Http

/-- A line of the head of a message. The name is in lower case. -/
structure Header where
  name : String
  value : String
  deriving DecidableEq, Repr

/-- A header, if its name and its value may be sent. -/
def Header.of? (name value : String) : Option Header :=
  if isToken name && isFieldValue value then some ⟨Text.lower name, value⟩ else none

/-- A request. The headers are in order of arrival. -/
structure Request where
  method : String
  target : Target
  headers : List Header
  body : List UInt8
  deriving Repr

namespace Request

/-- The first header of a name. -/
def header? (r : Request) (name : String) : Option String :=
  (r.headers.find? (·.name == name)).map (·.value)

/-- The first header of a name, if it is plain. -/
def plainHeader? (r : Request) (name : String) : Option String :=
  (r.header? name).filter isPlain

end Request

/-- The body of a response. -/
inductive Body where
  | empty
  | json (document : Json)
  | text (text : String)
  deriving Repr, Inhabited

/-- A response. -/
structure Response where
  status : Nat
  headers : List Header
  body : Body
  deriving Repr, Inhabited

namespace Response

/-- A response without a body. -/
def bare (status : Nat) : Response := ⟨status, [], .empty⟩

/-- A response with a document. -/
def json (status : Nat) (document : Json) : Response :=
  ⟨status, [⟨"content-type", "application/json"⟩], .json document⟩

/-- A response with a page. -/
def page (status : Nat) (text : String) : Response :=
  ⟨status, [⟨"content-type", "text/html; charset=utf-8"⟩], .text text⟩

/-- Adds headers behind those that are there. -/
def withHeaders (r : Response) (headers : List Header) : Response :=
  { r with headers := r.headers ++ headers }

/-- The response without its body. -/
def withoutBody (r : Response) : Response :=
  { r with body := .empty }

end Response

end TodoServer.Http
