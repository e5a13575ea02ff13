import TodoServer.Auth.Token
import TodoServer.Http.Message
import TodoServer.Service.Error

/-!
# API errors

What callers are told when a request fails. Faults of the caller are named; of those of the server
only their class is told.
-/

namespace TodoServer.Api

/-- Why a request fails, as far as the caller is told. -/
inductive ApiError where
  | badRequest (code message : String)
  | notFound (code message : String)
  | unauthorized (code message : String)
  | conflict (code message : String)
  | unavailable (message : String)
  /-- A fault of the server. -/
  | failed (message : String)
  deriving DecidableEq, Repr

namespace ApiError

/-- The status of the response. -/
def status : ApiError → Nat
  | badRequest _ _ => 400
  | unauthorized _ _ => 401
  | notFound _ _ => 404
  | conflict _ _ => 409
  | failed _ => 500
  | unavailable _ => 503

/-- The class of an error. -/
def kind : ApiError → String
  | badRequest _ _ => "bad_request"
  | unauthorized _ _ => "unauthorized"
  | notFound _ _ => "not_found"
  | conflict _ _ => "conflict"
  | failed _ => "internal_error"
  | unavailable _ => "service_unavailable"

/-- The code by which programs tell errors apart. -/
def code : ApiError → String
  | badRequest code _ | unauthorized code _ | notFound code _ | conflict code _ => code
  | failed _ => "INTERNAL"
  | unavailable _ => "SERVICE_UNAVAILABLE"

/-- The wording of an error. -/
def message : ApiError → String
  | badRequest _ message | unauthorized _ message | notFound _ message | conflict _ message
  | failed message | unavailable message => message

/-- The document that tells an error. -/
def toJson (e : ApiError) : Json :=
  .obj [("error", .str e.kind), ("code", .str e.code), ("message", .str e.message)]

/-- The response that tells an error. -/
def response (e : ApiError) : Http.Response :=
  .json e.status e.toJson

/-- What is told of a storage error. -/
def ofStorage : StorageError → ApiError
  | .conflict _ => conflict "CONFLICT" "The request conflicts with existing data"
  | .notFound detail => notFound "NOT_FOUND" detail
  | .unavailable _ _ => unavailable "Database is not available"
  | _ => failed "Database operation failed"

/-- What is told of a query error. -/
def ofQuery (e : QueryError) : ApiError :=
  match e with
  | .expression _ | .refused _ => badRequest e.code e.message
  | .insertFailed _ => failed "Database operation failed"
  | .storage e => ofStorage e

/-- What is told of a service error. -/
def ofService (e : ServiceError) : ApiError :=
  match e with
  | .query e => ofQuery e
  | .notFound _ _ => notFound "NOT_FOUND" e.message
  | .malformedRow _ | .malformedPassword => failed "Internal server error"

end ApiError

/-- Why a caller is not let in. -/
inductive AuthFailure where
  | required
  | expired
  | invalid
  | credentials
  deriving DecidableEq, Repr

namespace AuthFailure

/-- The code by which programs tell failures apart. -/
def code : AuthFailure → String
  | required => "AUTH_REQUIRED"
  | expired => "TOKEN_EXPIRED"
  | invalid => "TOKEN_INVALID"
  | credentials => "INVALID_CREDENTIALS"

/-- The wording of a failure. -/
def message : AuthFailure → String
  | required => "Authentication required"
  | expired => "Access token has expired"
  | invalid => "Invalid access token"
  | credentials => "Invalid email or password"

/-- What a caller is told who is not let in. -/
def toApiError (f : AuthFailure) : ApiError :=
  .unauthorized f.code f.message

/-- The failure of a token that was not accepted. -/
def ofToken : Auth.TokenError → AuthFailure
  | .expired => expired
  | _ => invalid

end AuthFailure

end TodoServer.Api
