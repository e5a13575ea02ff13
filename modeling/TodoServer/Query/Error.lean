import TodoServer.Sql.Statement
import TodoServer.Storage.Error

/-!
# Query errors

A query fails because its filter could not be built, because its command was refused, because an
insertion named no row, or because storage failed.
-/

namespace TodoServer

/-- Why a query fails. -/
inductive QueryError where
  | expression (error : FilterError)
  | refused (refusal : Refusal)
  | insertFailed (table : String)
  | storage (error : StorageError)
  deriving DecidableEq, Repr

namespace QueryError

/-- The wording of a query error. -/
def message : QueryError → String
  | expression e => e.message
  | refused r => r.message
  | insertFailed table => "Insert into " ++ table ++ " produced no row id"
  | storage e => "Storage failure: " ++ e.message

def code : QueryError → String
  | expression _ => "INVALID_EXPRESSION"
  | refused r => r.code
  | insertFailed _ => "INSERT_FAILED"
  | storage e => e.code

end QueryError

end TodoServer
