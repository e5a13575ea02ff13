import TodoServer.Api.Rejection
import TodoServer.Service.Operation

/-!
# Replies

An endpoint turns a request and the state of the storage into a response or an error, and a state.
-/

namespace TodoServer.Api

/-- A response or an error, and the state after it. -/
abbrev Reply (σ : Type) := Except ApiError Http.Response × σ

variable {α σ : Type}

/-- Goes on with the result of a service, or tells its error. -/
def after (x : Except ServiceError α × σ) (next : α → σ → Reply σ) : Reply σ :=
  match x.1 with
  | .ok a => next a x.2
  | .error e => (.error (.ofService e), x.2)

/-- Goes on with what a request was read as, or rejects it. -/
def accepting (x : Except Rejection α) (state : σ) (next : α → Reply σ) : Reply σ :=
  match x with
  | .ok a => next a
  | .error rejection => (.error rejection.toApiError, state)

/-- The greatest size of the documents that anybody may send. -/
def openLimit : Nat := 64 * 1024

/-- The greatest size of the documents of callers who are let in. -/
def ownLimit : Nat := 1024 * 1024

end TodoServer.Api
