import TodoServer.Api.Error
import TodoServer.Auth.Manager
import TodoServer.Text.Blank

/-!
# Access

Who calls: the account named by the token that a request bears.
-/

namespace TodoServer.Api

/-- What stands in front of a token. -/
def bearer : List Char := "Bearer ".toList

/-- The token that a request bears. -/
def bearerToken? (request : Http.Request) : Option String := do
  let value ← request.plainHeader? "authorization"
  let cs := value.toList
  if bearer.isPrefixOf cs then
    let token := Text.trim (String.ofList (cs.drop bearer.length))
    if token.isEmpty then none else some token
  else none

/-- The account that calls. -/
def caller (manager : Auth.Manager) (now : Instant) (request : Http.Request) :
    Except AuthFailure Int :=
  match bearerToken? request with
  | none => .error .required
  | some token =>
    match manager.validate now token with
    | .error e => .error (.ofToken e)
    | .ok claims =>
      match claims.userId? with
      | some userId => .ok userId
      | none => .error .invalid

end TodoServer.Api
