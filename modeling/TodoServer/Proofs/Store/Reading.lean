import TodoServer.Proofs.Store.Condition
import TodoServer.Proofs.Query.Scope

/-!
# Reading a store

A selection on a database that is filled by a store returns the records of those users or todos that
its filter finds, and these records read back as the users and todos they stand for.
-/

namespace TodoServer

open Storage

/-! ## Records of rows -/

/-- The record that all columns of an account come back as. -/
def User.record (u : User) : Record :=
  ⟨[("id", .integer u.id), ("name", .text u.name), ("email", .text u.email),
    ("password_hash", .text u.passwordHash), ("created_at", .text u.createdAt),
    ("updated_at", .text u.updatedAt)]⟩

/-- The record that all columns of a todo come back as. -/
def Todo.record (t : Todo) : Record :=
  ⟨[("id", .integer t.id), ("title", .text t.title), ("description", .ofText? t.description),
    ("completed", .integer (if t.completed then 1 else 0)), ("user_id", .integer t.userId),
    ("created_at", .text t.createdAt), ("updated_at", .text t.updatedAt)]⟩

@[simp] theorem User.ofRecord_record (u : User) : User.ofRecord u.record = .ok u := rfl

@[simp] theorem Todo.ofRecord_record (t : Todo) : Todo.ofRecord t.record = .ok t := by
  obtain ⟨id, title, description, completed, userId, createdAt, updatedAt⟩ := t
  cases description <;> cases completed <;> rfl

/-- What is written down by a function and read back by another one is read back item by item. -/
theorem mapM_eq_ok_of_map {α β ε : Type} {write : α → β} {read : β → Except ε α}
    (back : ∀ x, read (write x) = .ok x) (xs : List α) : (xs.map write).mapM read = .ok xs := by
  induction xs with
  | nil => rfl
  | cons x rest ih =>
    rw [List.map_cons, List.mapM_cons, back, ih]
    rfl

theorem User.mapM_ofRecord_record (users : List User) :
    (users.map User.record).mapM User.ofRecord = .ok users :=
  mapM_eq_ok_of_map User.ofRecord_record users

theorem Todo.mapM_ofRecord_record (todos : List Todo) :
    (todos.map Todo.record).mapM Todo.ofRecord = .ok todos :=
  mapM_eq_ok_of_map Todo.ofRecord_record todos

namespace Storage.Database

variable (s : Store) (rest : Database)

theorem resolve_users :
    (s.fill rest).resolve "users" = .ok (.users, ⟨s.users.map User.row, s.lastUser⟩) := rfl

theorem resolve_todos :
    (s.fill rest).resolve "todos" = .ok (.todos, ⟨s.todos.map Todo.row, s.lastTodo⟩) := rfl

/-- What a selection returns of the rows that it finds. -/
theorem select_of_found {db : Database} {table : String} {columns : List String} {filter : Filter}
    {id : TableId} {t : Table} {outputs : List Output} {rows : List Row}
    (resolved : db.resolve table = .ok (id, t))
    (projected : Output.ofText? id.schema
      (if columns.isEmpty then "*" else Text.join ", " columns) = some outputs)
    (plain : outputs.any Output.isTotal = false) (found : find id t filter = .ok rows) :
    db.select table columns filter = .ok (rows.map fun row => record outputs row rows.length) := by
  simp only [select, resolved, bind, Except.bind, projected, found, plain]
  rfl

/-- A selection is refused when the search for its rows is. -/
theorem select_of_refused {db : Database} {table : String} {columns : List String} {filter : Filter}
    {id : TableId} {t : Table} {outputs : List Output} {e : StorageError}
    (resolved : db.resolve table = .ok (id, t))
    (projected : Output.ofText? id.schema
      (if columns.isEmpty then "*" else Text.join ", " columns) = some outputs)
    (refused : find id t filter = .error e) : db.select table columns filter = .error e := by
  simp only [select, resolved, bind, Except.bind, projected, refused]

variable {s rest} {filter : Filter}

theorem select_todos {todos : List Todo}
    (found : find .todos ⟨s.todos.map Todo.row, s.lastTodo⟩ filter = .ok (todos.map Todo.row)) :
    (s.fill rest).select "todos" [] filter = .ok (todos.map Todo.record) := by
  rw [select_of_found (resolve_todos s rest) rfl rfl found, List.map_map]
  congr 1
  refine List.map_congr_left fun t _ => ?_
  obtain ⟨id, title, description, completed, userId, createdAt, updatedAt⟩ := t
  cases description <;> rfl

theorem select_completed {todos : List Todo}
    (found : find .todos ⟨s.todos.map Todo.row, s.lastTodo⟩ filter = .ok (todos.map Todo.row)) :
    (s.fill rest).select "todos" ["completed"] filter =
      .ok (todos.map fun t => ⟨[("completed", .integer (if t.completed then 1 else 0))]⟩) := by
  rw [select_of_found (resolve_todos s rest) rfl rfl found, List.map_map]
  rfl

theorem select_users {users : List User}
    (found : find .users ⟨s.users.map User.row, s.lastUser⟩ filter = .ok (users.map User.row)) :
    (s.fill rest).select "users" [] filter = .ok (users.map User.record) := by
  rw [select_of_found (resolve_users s rest) rfl rfl found, List.map_map]
  rfl

theorem select_credentials {users : List User}
    (found : find .users ⟨s.users.map User.row, s.lastUser⟩ filter = .ok (users.map User.row)) :
    (s.fill rest).select "users" ["id", "password_hash"] filter =
      .ok (users.map fun u =>
        ⟨[("id", .integer u.id), ("password_hash", .text u.passwordHash)]⟩) := by
  rw [select_of_found (resolve_users s rest) rfl rfl found, List.map_map]
  rfl

end Storage.Database

/-! ## Statements on an open pool -/

namespace Executor

variable {command : Command} {db : Database}

theorem statement_pool (accepted : command.refusal? .sqlite = none) :
    statement Pool.runner command = .ok ⟨command, .sqlite⟩ := by
  have written : Statement.of Pool.runner.dialect command = .ok ⟨command, .sqlite⟩ :=
    Statement.of_eq_ok_iff.2 ⟨accepted, rfl⟩
  rw [statement, written]

/-- A pool keeps no log. -/
theorem log_pool (s : Statement) (p : Pool) : log Pool.runner s p = p := rfl

theorem checkValues_pool (few : command.values.length ≤ Pool.valueLimit) :
    Pool.checkValues ⟨command, .sqlite⟩ = .ok () := by
  refine Pool.checkValues_of_le ?_
  rw [Statement.written, Command.values_write]
  exact few

/-- A command that reads leaves any pool as it is. -/
theorem state_fetch (p : Pool) (command : Command) : (fetch Pool.runner command p).2 = p := by
  rw [fetch]
  split <;> rfl

/-- A command that is accepted reads the database of the pool. -/
theorem fetch_pool (accepted : command.refusal? .sqlite = none)
    (few : command.values.length ≤ Pool.valueLimit) :
    fetch Pool.runner command (.of db) = ((db.read command).mapError .storage, .of db) := by
  rw [fetch, statement_pool accepted]
  simp only [Pool.runner, Pool.fetch, Pool.of, checkValues_pool few]
  rfl

theorem execute_pool_of_ok {db' : Database} {outcome : WriteOutcome}
    (accepted : command.refusal? .sqlite = none)
    (few : command.values.length ≤ Pool.valueLimit)
    (written : db.write command = .ok (db', outcome)) :
    execute Pool.runner command (.of db) =
      (.ok ⟨if outcome.affected = 0 then none else outcome.lastId, outcome.affected⟩, .of db') := by
  rw [execute, statement_pool accepted]
  simp only [log_pool]
  simp only [Pool.runner, Pool.execute, Pool.of, checkValues_pool few, bind, Except.bind, written]
  rfl

theorem execute_pool_of_error {e : StorageError} (accepted : command.refusal? .sqlite = none)
    (few : command.values.length ≤ Pool.valueLimit) (refused : db.write command = .error e) :
    execute Pool.runner command (.of db) = (.error (.storage e), .of db) := by
  rw [execute, statement_pool accepted]
  simp only [log_pool]
  simp only [Pool.runner, Pool.execute, Pool.of, checkValues_pool few, bind, Except.bind, refused]
  rfl

end Executor

end TodoServer
