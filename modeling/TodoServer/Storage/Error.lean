import TodoServer.Text.Ascii

/-!
# Storage errors

A violated constraint is a conflict; a closed pool makes storage unavailable; everything else that
goes wrong in the database is passed on as it is.
-/

namespace TodoServer

/-- What goes wrong in the storage behind the statements. -/
inductive StorageError where
  /-- The database refused or broke off for a reason of its own. -/
  | database (detail : String)
  | conflict (detail : String)
  | notFound (detail : String)
  | unavailable (backend reason : String)
  | migrationFailed (backend : String) (version : Int) (name detail : String)
  | io (detail : String)
  deriving DecidableEq, Repr

namespace StorageError

/-- The wording of a storage error. -/
def message : StorageError → String
  | database detail => "SQLite error: " ++ detail
  | conflict detail => "Conflict: " ++ detail
  | notFound detail => "Not found: " ++ detail
  | unavailable backend reason => "Backend " ++ backend ++ " is not available: " ++ reason
  | migrationFailed backend version name detail =>
    "Migration " ++ Text.decimal version ++ " (" ++ name ++ ") failed on " ++ backend ++ ": " ++
      detail
  | io detail => "IO error: " ++ detail

def code : StorageError → String
  | conflict _ => "CONSTRAINT_VIOLATION"
  | notFound _ => "NOT_FOUND"
  | unavailable _ _ => "UNAVAILABLE"
  | _ => "UNKNOWN"

/-- A row was wanted and there is none. -/
def rowNotFound : StorageError := notFound "row not found"

/-- The pool of connections is closed. -/
def poolClosed : StorageError := unavailable "sqlite" "connection pool is closed"

end StorageError

end TodoServer
