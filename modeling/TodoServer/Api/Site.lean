import TodoServer.Api.Access
import TodoServer.Api.Accounts
import TodoServer.Api.Description
import TodoServer.Api.Docs
import TodoServer.Api.Route
import TodoServer.Api.Todos
import TodoServer.Http.Origins
import TodoServer.Json.Draft

/-!
# Answering requests

A request goes to the endpoint of its path and method, past the check of its token where one is
needed. What no path names is noted in the log.
-/

namespace TodoServer.Api

/-- What answers requests: the storage, the keeper of tokens and the pages that may call. -/
structure Site (σ : Type) where
  runner : Runner σ
  manager : Auth.Manager
  origins : Http.Origins

/-- A response, and what is noted in the log of a request that no path names. -/
structure Answer where
  response : Http.Response
  note : Option String
  deriving Repr

/-! ## Requests that no path names -/

/-- The greatest body that is noted. -/
def noteLimit : Nat := 64 * 1024

/-- The headers to be noted: plain ones without credentials, of equal names the last at the place of
the first. -/
def notedHeaders (headers : List Http.Header) : List (String × Json) :=
  let plain := headers.filter fun h => h.name ≠ "authorization" && Http.isPlain h.value
  Json.keepLast (plain.map fun h => (h.name, .str h.value))

/-- The body to be noted: as a document, else as a text, else by its size. -/
def notedBody (body : List UInt8) : Json :=
  if body.isEmpty then .null
  else match Json.parseBytes? body with
    | some document => document.settled
    | none =>
      match Text.decode? body with
      | some text => .str text
      | none => .str ("<binary " ++ Text.decimalNat body.length ++ " bytes>")

/-- The note of a request that no path names. -/
def missNote (request : Http.Request) : String :=
  if noteLimit < request.body.length then
    "[404] " ++ request.method ++ " " ++ request.target.text ++ " (failed to read body)"
  else
    "[404]\n" ++ (Json.obj [("status", .int 404), ("method", .str request.method),
      ("url", .str request.target.text), ("headers", .obj (notedHeaders request.headers)),
      ("body", notedBody request.body)]).pretty

/-! ## Endpoints -/

namespace Site

variable {σ : Type} (site : Site σ)

/-- What an endpoint for everybody answers. -/
def answerOpen (moment : Moment) (endpoint : OpenEndpoint) (request : Http.Request) (state : σ) :
    Reply σ :=
  match endpoint with
  | .health =>
    (.ok (.json 200 (.obj [("status", .str "ok"), ("version", .str version)])), state)
  | .description => (.ok (.json 200 Api.description.toJson), state)
  | .docs => (.ok (.page 200 docsPage), state)
  | .login => Accounts.login site.runner site.manager moment request state
  | .register => Accounts.register site.runner moment request state

/-- What an endpoint answers to a caller who was let in. -/
def answerOwn (moment : Moment) (endpoint : OwnEndpoint) (userId : Int) (request : Http.Request)
    (state : σ) : Reply σ :=
  match endpoint with
  | .profile => Accounts.shown site.runner 200 userId state
  | .changeProfile => Accounts.change site.runner moment userId request state
  | .removeAccount => Accounts.remove site.runner userId state
  | .listTodos => Todos.list site.runner userId request state
  | .createTodo => Todos.create site.runner moment userId request state
  | .createTodos => Todos.createMany site.runner moment userId request state
  | .todo part => Todos.get site.runner userId part state
  | .changeTodo part => Todos.change site.runner moment userId part request state
  | .removeTodo part => Todos.remove site.runner userId part state
  | .completeTodo part => Todos.complete site.runner moment userId part state

/-- The response of a reply. -/
def respond (reply : Reply σ) : Http.Response × σ :=
  match reply.1 with
  | .ok response => (response, reply.2)
  | .error e => (e.response, reply.2)

/-- The response to a method that a resource does not allow. -/
def refusal (resource : Resource) : Http.Response :=
  (Http.Response.bare 405).withHeaders [⟨"allow", resource.allowed⟩]

/-- The response of a resource. Whether the caller is let in is asked before anything else, also for
a method that is not allowed. -/
def answerResource (moment : Moment) (resource : Resource) (request : Http.Request) (state : σ) :
    Http.Response × σ :=
  match resource.endpoint? request.method with
  | some (.everybody endpoint) => respond (site.answerOpen moment endpoint request state)
  | some (.owner endpoint) =>
    match caller site.manager moment.now request with
    | .error failure => (failure.toApiError.response, state)
    | .ok userId => respond (site.answerOwn moment endpoint userId request state)
  | none =>
    if resource.isOwn then
      match caller site.manager moment.now request with
      | .error failure =>
        (failure.toApiError.response.withHeaders [⟨"allow", resource.allowed⟩], state)
      | .ok _ => (refusal resource, state)
    else (refusal resource, state)

/-- The response to a browser that asks what it may send. -/
def permission (request : Http.Request) (resource? : Option Resource) : Http.Response :=
  let allow := resource?.toList.map fun resource => (⟨"allow", resource.allowed⟩ : Http.Header)
  (Http.Response.bare 200).withHeaders
    (allow ++ site.origins.headers request ++ Http.Origins.permissions)

/-- Answers a request. -/
def answer (moment : Moment) (request : Http.Request) (state : σ) : Answer × σ :=
  let resource? := Resource.ofPath? request.target.path
  if request.method = "OPTIONS" then (⟨site.permission request resource?, none⟩, state)
  else
    let finish (r : Http.Response) : Http.Response :=
      let r := r.withHeaders (site.origins.headers request)
      if request.method = "HEAD" then r.withoutBody else r
    match resource? with
    | none => (⟨finish (.bare 404), some (missNote request)⟩, state)
    | some resource =>
      let (response, state) := site.answerResource moment resource request state
      (⟨finish response, none⟩, state)

end Site

end TodoServer.Api
