import TodoServer.Storage.Database
import TodoServer.Query.Executor

/-!
# The pool

A pool gives statements access to one database until it is closed; from then on every statement
fails and nothing changes.
-/

namespace TodoServer.Storage

/-- A database and whether it can still be reached. -/
structure Pool where
  database : Database
  isOpen : Bool
  deriving DecidableEq, Repr, Inhabited

namespace Pool

/-- An open pool on a database. -/
def of (database : Database) : Pool := ⟨database, true⟩

def close (p : Pool) : Pool := { p with isOpen := false }

/-- Moves what was written into the main file of the database, where no statement sees a
difference. -/
def checkpoint (p : Pool) : Except StorageError Unit × Pool :=
  (if p.isOpen then .ok () else .error .poolClosed, p)

/-- How many values a statement may hold. -/
def valueLimit : Nat := 32766

/-- Refuses a statement that holds too many values. -/
def checkValues (s : Statement) : Except StorageError Unit :=
  if s.written.values.length ≤ valueLimit then .ok ()
  else .error (.database "too many SQL variables")

/-- What a statement reads. -/
def fetch (p : Pool) (s : Statement) : Except StorageError (List Record) :=
  if p.isOpen then checkValues s >>= fun () => p.database.read s.command
  else .error .poolClosed

/-- What a statement changes, and what it reports. -/
def execute (p : Pool) (s : Statement) : Except StorageError WriteOutcome × Pool :=
  if p.isOpen then
    match checkValues s >>= fun () => p.database.write s.command with
    | .ok (database, outcome) =>
      let lastId := if outcome.affected = 0 then none else outcome.lastId
      (.ok ⟨lastId, outcome.affected⟩, { p with database })
    | .error e => (.error e, p)
  else (.error .poolClosed, p)

/-- The runner on the pool. -/
def runner : Runner Pool where
  dialect := .sqlite
  fetch s p := (p.fetch s, p)
  execute s p := p.execute s

@[simp] theorem execute_of_not_isOpen {p : Pool} (h : p.isOpen = false) (s : Statement) :
    p.execute s = (.error .poolClosed, p) := by
  simp [execute, h]

theorem checkValues_of_le {s : Statement} (h : s.written.values.length ≤ valueLimit) :
    checkValues s = .ok () := by
  simp [checkValues, h]

end Pool

end TodoServer.Storage
