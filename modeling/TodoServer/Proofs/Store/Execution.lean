import TodoServer.Proofs.Store.Writing

/-!
# Statements on a store

What the executor answers on an open pool on a database that is filled by a store, and the store
that it leaves behind.
-/

namespace TodoServer

open Storage Storage.Database

/-- What the executor answers to a write. -/
def Store.reply {α : Type} (written : Except StorageError (α × Store)) : Except QueryError α :=
  (written.map Prod.fst).mapError .storage

/-- The store that a write leaves behind. -/
def Store.after {α : Type} (s : Store) (written : Except StorageError (α × Store)) : Store :=
  match written with
  | .ok (_, s') => s'
  | .error _ => s

/-- What a service answers to a write, and the store that it leaves behind. -/
def Store.settle {α : Type} (s : Store) (written : Except StorageError (α × Store)) :
    Except ServiceError α × Store :=
  (orQuery (Store.reply written), s.after written)

/-- An answer with the pool that a store fills. -/
def Store.pooled {α : Type} (rest : Database) (x : Except ServiceError α × Store) :
    Except ServiceError α × Pool :=
  (x.1, x.2.pool rest)

variable {s : Store} {rest : Database}

namespace Executor

variable {table : String} {columns : List String} {filter : Filter} {data : Record}

theorem select_pool (few : filter.values.length ≤ Pool.valueLimit) :
    select Pool.runner table columns filter (s.pool rest) =
      (((s.fill rest).select table columns filter).mapError .storage, s.pool rest) :=
  fetch_pool rfl few

theorem insert_pool {written : Except StorageError (Int × Store)}
    (few : data.values.length ≤ Pool.valueLimit)
    (inserted : (s.fill rest).insert table data =
      written.map fun x => (x.2.fill rest, ⟨some x.1, 1⟩)) :
    insert Pool.runner table data (s.pool rest) =
      (Store.reply written, (s.after written).pool rest) := by
  cases written with
  | error e =>
    have refused : execute Pool.runner (.insert table data) (.of (s.fill rest)) = _ :=
      execute_pool_of_error rfl few inserted
    rw [insert, Store.pool, refused]
    rfl
  | ok x =>
    have done : execute Pool.runner (.insert table data) (.of (s.fill rest)) = _ :=
      execute_pool_of_ok rfl few inserted
    rw [insert, Store.pool, done]
    rfl

theorem insertAll_pool {first : Record} {others : List Record}
    {written : Except StorageError (Int × Store)}
    (few : ((first :: others).flatMap Record.values).length ≤ Pool.valueLimit)
    (inserted : (s.fill rest).insertAll table first others =
      written.map fun x => (x.2.fill rest, ⟨some x.1, others.length + 1⟩)) :
    insertAll Pool.runner table (first :: others) (s.pool rest) =
      (Store.reply written, (s.after written).pool rest) := by
  cases written with
  | error e =>
    have refused : execute Pool.runner (.insertAll table first others) (.of (s.fill rest)) = _ :=
      execute_pool_of_error rfl few inserted
    simp only [insertAll, Store.pool, refused]
    rfl
  | ok x =>
    have done : execute Pool.runner (.insertAll table first others) (.of (s.fill rest)) = _ :=
      execute_pool_of_ok rfl few inserted
    simp only [insertAll, Store.pool, done]
    rfl

/-- The refusal of a statement that binds too many values. -/
def tooManyValues : StorageError := .database "too many SQL variables"

theorem insertAll_pool_of_many {first : Record} {others : List Record}
    (many : Pool.valueLimit < ((first :: others).flatMap Record.values).length) :
    insertAll Pool.runner table (first :: others) (s.pool rest) =
      (.error (.storage tooManyValues), s.pool rest) := by
  have checked : Pool.checkValues ⟨.insertAll table first others, .sqlite⟩ =
      .error tooManyValues := by
    rw [Pool.checkValues, Statement.written, Command.values_write]
    exact if_neg (Nat.not_le.2 many)
  have refused : execute Pool.runner (.insertAll table first others) (s.pool rest) =
      (.error (.storage tooManyValues), s.pool rest) := by
    rw [execute, statement_pool rfl]
    simp only [Pool.runner, Pool.execute, Store.pool, Pool.of, checked, bind, Except.bind]
    rfl
  simp only [insertAll, refused]
  rfl

theorem update_pool {written : Except StorageError (Nat × Store)}
    (present : data.isEmpty = false) (held : filter.HasCondition)
    (few : (data.values ++ filter.values).length ≤ Pool.valueLimit)
    (updated : (s.fill rest).update table data filter =
      written.map fun x => (x.2.fill rest, ⟨none, x.1⟩)) :
    update Pool.runner table data filter (s.pool rest) =
      (Store.reply written, (s.after written).pool rest) := by
  have accepted := Command.refusal?_update_of_scoped .sqlite table present held
  cases written with
  | error e =>
    rw [update, Store.pool, execute_pool_of_error accepted few updated]
    rfl
  | ok x =>
    rw [update, Store.pool, execute_pool_of_ok accepted few updated]
    rfl

theorem delete_pool {count : Nat} {s' : Store} (held : filter.HasCondition)
    (few : filter.values.length ≤ Pool.valueLimit)
    (deleted : (s.fill rest).delete table filter = .ok (s'.fill rest, ⟨none, count⟩)) :
    delete Pool.runner table filter (s.pool rest) = (.ok count, s'.pool rest) := by
  have accepted := Command.refusal?_delete_of_scoped .sqlite table held
  rw [delete, Store.pool, execute_pool_of_ok accepted few deleted]
  rfl

end Executor

end TodoServer
