import TodoServer.Proofs.Store.Change

/-!
# What tables show

Rows, keys and flags as they stand in the tables of a database, and what they are in a database that
is filled by a store. A filled database shows all of its store.
-/

namespace TodoServer

open Storage

namespace Storage.Database

/-- The rows of a table, none if there is no such table. -/
def rowsOf (db : Database) (id : TableId) : List Row :=
  (db.table? id).elim [] Table.rows

/-- The keys of a table. -/
def keysOf (db : Database) (id : TableId) : List Int :=
  (db.rowsOf id).map Row.key

/-- The flag of the todo of an id and an owner. -/
def flag? (db : Database) (userId todoId : Int) : Option Bool :=
  ((db.rowsOf .todos).find? fun row =>
    row.key = todoId && row.cell 4 = .integer userId).map fun row => row.cell 3 = .integer 1

end Storage.Database

namespace User

theorem row_inj {u v : User} (same : u.row = v.row) : u = v := by
  cases u
  cases v
  simp only [row, Row.mk.injEq, List.cons.injEq, Cell.text.injEq, and_true] at same
  simpa only [mk.injEq] using same

end User

namespace Todo

theorem row_inj {t t' : Todo} (same : t.row = t'.row) : t = t' := by
  obtain ⟨id, title, description, completed, userId, createdAt, updatedAt⟩ := t
  obtain ⟨id', title', description', completed', userId', createdAt', updatedAt'⟩ := t'
  simp only [row, Row.mk.injEq, List.cons.injEq, Cell.text.injEq, Cell.integer.injEq,
    and_true] at same
  obtain ⟨rfl, rfl, text, flag, rfl, rfl, rfl⟩ := same
  have description : description = description' := by
    cases description <;> cases description' <;> simp_all
  have completed : completed = completed' := by
    cases completed <;> cases completed' <;> simp_all
  rw [description, completed]

theorem owner_row {t : Todo} {userId : Int} :
    t.row.cell 4 = .integer userId ↔ t.userId = userId := by
  have cell : t.row.cell 4 = .integer t.userId := rfl
  rw [cell, Cell.integer.injEq]

/-- The rows of the todos of an owner. -/
theorem filter_owner_row (todos : List Todo) (userId : Int) :
    (todos.map row).filter (·.cell 4 = .integer userId) =
      (todos.filter (·.userId = userId)).map row := by
  rw [List.filter_map]
  refine congrArg (List.map row) (List.filter_congr fun t _ => ?_)
  simp only [Function.comp_apply, owner_row]

/-- The rows of the todos of all others. -/
theorem filter_owner_row_ne (todos : List Todo) (userId : Int) :
    (todos.map row).filter (·.cell 4 ≠ .integer userId) =
      (todos.filter (·.userId ≠ userId)).map row := by
  rw [List.filter_map]
  refine congrArg (List.map row) (List.filter_congr fun t _ => ?_)
  simp only [Function.comp_apply, ne_eq, owner_row]

theorem flag_row (t : Todo) : decide (t.row.cell 3 = .integer 1) = t.completed := by
  have cell : t.row.cell 3 = .integer (if t.completed then 1 else 0) := rfl
  rw [cell]
  cases t.completed <;> rfl

end Todo

namespace Store

variable {s s' : Store} (rest : Database)

theorem rowsOf_users : (s.fill rest).rowsOf .users = s.users.map User.row := rfl

theorem rowsOf_todos : (s.fill rest).rowsOf .todos = s.todos.map Todo.row := rfl

theorem mem_users_iff {u : User} : u.row ∈ (s.fill rest).rowsOf .users ↔ u ∈ s.users := by
  rw [rowsOf_users, List.mem_map]
  constructor
  · rintro ⟨other, held, same⟩
    exact User.row_inj same ▸ held
  · exact fun held => ⟨u, held, rfl⟩

theorem mem_todos_iff {t : Todo} : t.row ∈ (s.fill rest).rowsOf .todos ↔ t ∈ s.todos := by
  rw [rowsOf_todos, List.mem_map]
  constructor
  · rintro ⟨other, held, same⟩
    exact Todo.row_inj same ▸ held
  · exact fun held => ⟨t, held, rfl⟩

theorem keysOf_users : (s.fill rest).keysOf .users = s.users.map User.id := by
  rw [Database.keysOf, rowsOf_users, List.map_map]
  rfl

theorem keysOf_todos : (s.fill rest).keysOf .todos = s.todos.map Todo.id := by
  rw [Database.keysOf, rowsOf_todos, List.map_map]
  rfl

/-- Items that are replaced by their keys have their rows replaced by their keys. -/
theorem map_row_replaced {α : Type} (row : α → Row) (xs : List α) (k : Int) (new : α) :
    (xs.map fun x => if (row x).key = k then new else x).map row =
      (xs.map row).map fun r => if r.key = k then row new else r := by
  rw [List.map_map, List.map_map]
  refine List.map_congr_left fun x _ => ?_
  by_cases found : (row x).key = k
  · simp only [Function.comp_apply, if_pos found]
  · simp only [Function.comp_apply, if_neg found]

theorem fill_user_replaced (old new : User) :
    fill { s with users := s.users.map fun u => if u.id = old.id then new else u } rest =
      (s.fill rest).setTable .users ⟨(s.users.map User.row).map fun row =>
        if row.key = old.row.key then new.row else row, s.lastUser⟩ := by
  rw [← map_row_replaced User.row s.users old.row.key new]
  rfl

theorem fill_todo_replaced (old new : Todo) :
    fill { s with todos := s.todos.map fun t => if t.id = old.id then new else t } rest =
      (s.fill rest).setTable .todos ⟨(s.todos.map Todo.row).map fun row =>
        if row.key = old.row.key then new.row else row, s.lastTodo⟩ := by
  rw [← map_row_replaced Todo.row s.todos old.row.key new]
  rfl

theorem fill_user_added (user : User) :
    fill { s with users := s.users ++ [user], lastUser := user.id } rest =
      (s.fill rest).setTable .users ⟨s.users.map User.row ++ [user.row], user.row.key⟩ := by
  rw [← List.map_singleton, ← List.map_append]
  rfl

theorem flag?_fill (userId todoId : Int) :
    (s.fill rest).flag? userId todoId = s.flag? userId todoId := by
  have sought : (fun row : Row => decide (row.key = todoId) &&
      decide (row.cell 4 = .integer userId)) ∘ Todo.row =
        fun t : Todo => decide (t.id = todoId) && decide (t.userId = userId) := by
    funext t
    simp only [Function.comp_apply, Todo.owner_row]
    rfl
  rw [Database.flag?, rowsOf_todos, List.find?_map, sought, Option.map_map, flag?, todo?]
  exact congrFun (congrArg Option.map (funext Todo.flag_row)) _

/-- Two stores that fill a database in the same way are the same. -/
theorem fill_inj (same : s.fill rest = s'.fill rest) : s = s' := by
  obtain ⟨users, todos, lastUser, lastTodo⟩ := s
  obtain ⟨users', todos', lastUser', lastTodo'⟩ := s'
  simp only [fill, Database.mk.injEq, Option.some_inj, Table.mk.injEq, true_and, and_true] at same
  obtain ⟨⟨rowsOfUsers, rfl⟩, rowsOfTodos, rfl⟩ := same
  have users := (List.map_injective_iff.2 fun _ _ => User.row_inj) rowsOfUsers
  have todos := (List.map_injective_iff.2 fun _ _ => Todo.row_inj) rowsOfTodos
  rw [users, todos]

theorem pool_inj (same : s.pool rest = s'.pool rest) : s = s' :=
  fill_inj rest (congrArg Pool.database same)

end Store

end TodoServer
