import TodoServer.Query.Error
import TodoServer.Data.Record

/-!
# Service errors

A service fails because a query failed, because a stored row or password could not be read, or
because what it was asked to change is not there.
-/

namespace TodoServer

/-- Why an operation of a service fails. -/
inductive ServiceError where
  | query (error : QueryError)
  | malformedRow (error : DecodeError)
  | malformedPassword
  | notFound (entity : String) (id : Int)
  deriving DecidableEq, Repr

namespace ServiceError

/-- The wording of a service error. -/
def message : ServiceError → String
  | query e => e.message
  | malformedRow e => "Malformed row: " ++ e.message
  | malformedPassword => "Malformed password hash"
  | notFound entity id => entity ++ " " ++ Text.decimal id ++ " not found"

end ServiceError

/-- A query error as a service error. -/
def orQuery {α : Type} (x : Except QueryError α) : Except ServiceError α :=
  x.mapError .query

/-- A decoding error as a service error. -/
def orRow {α : Type} (x : Except DecodeError α) : Except ServiceError α :=
  x.mapError .malformedRow

/-- The filter of a builder, or its error as a service error. -/
def orFilter (x : Except FilterError Filter) : Except ServiceError Filter :=
  x.mapError fun e => .query (.expression e)

end TodoServer
