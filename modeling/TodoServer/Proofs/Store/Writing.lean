import TodoServer.Proofs.Store.Change
import TodoServer.Proofs.Store.Reading

/-!
# Writing to a store

A statement that writes turns a database that is filled by a store into the same database filled by
another store, or is refused with the error of the store's own write.
-/

namespace TodoServer

open Storage

namespace Storage.Database

/-! ## Keys -/

/-- No key in use or issued before lies above the last one issued. -/
theorem maxKey?_le {last : Int} (nonneg : 0 ≤ last) {rows : List Row} {lastKey : Int}
    (bound : ∀ row ∈ rows, row.key ≤ last) : (Table.maxKey? ⟨rows, lastKey⟩).getD 0 ≤ last := by
  rw [Table.maxKey?]
  refine List.foldlRecOn rows _ (motive := fun found : Option Int => found.getD 0 ≤ last) nonneg ?_
  intro found below row mem
  have here := bound row mem
  cases found with
  | none => exact here
  | some n => exact Int.max_le.2 ⟨below, here⟩

/-- A table that counts on gives the next key after the last one issued. -/
theorem freshKey_of_issued {schema : TableSchema} (counts : schema.autoincrement = true)
    {rows : List Row} {last : Int} (issued : Issued (rows.map Row.key) last) :
    freshKey schema ⟨rows, last⟩ =
      if keyLimit < last + 1 then .error Store.idsExhausted else .ok (last + 1) := by
  have bound : ∀ row ∈ rows, row.key ≤ last :=
    fun row mem => issued.le_last _ (List.mem_map_of_mem mem)
  have top : (Table.maxKey? ⟨rows, last⟩).getD 0 ≤ last := maxKey?_le issued.last_nonneg bound
  simp only [freshKey, counts, if_true, Int.max_eq_right top]
  rfl

/-- A row with a key above all others comes last. -/
theorem place_of_lt {row : Row} :
    ∀ {rows : List Row}, (∀ r ∈ rows, r.key < row.key) → Table.place row rows = rows ++ [row]
  | [], _ => rfl
  | r :: rest, above => by
    have here := above r List.mem_cons_self
    have others := place_of_lt fun x mem => above x (List.mem_cons_of_mem r mem)
    rw [Table.place, if_neg (by omega), others, List.cons_append]

/-! ## Constraints -/

theorem failedCheck?_user (u : User) : failedCheck? .users u.row = u.fault? := by
  have name : CheckRule.accepts (.lengthWithin 1 100) (.text u.name) =
      (decide (1 ≤ (Text.untilNul u.name).length) &&
        decide ((Text.untilNul u.name).length ≤ 100)) :=
    rfl
  have email : CheckRule.accepts (.minLength 3) (.text u.email) =
      decide (3 ≤ (Text.untilNul u.email).length) := rfl
  simp only [failedCheck?, TableSchema.users, User.row, User.fault?, List.zip_cons_cons,
    List.findSome?_cons, Option.bind_none, Option.bind_some, name, email]
  by_cases named : 1 ≤ (Text.untilNul u.name).length ∧ (Text.untilNul u.name).length ≤ 100 <;>
    by_cases mailed : 3 ≤ (Text.untilNul u.email).length <;> simp [named, mailed]

theorem failedCheck?_todo (t : Todo) : failedCheck? .todos t.row = t.fault? := by
  have title : CheckRule.accepts (.minLength 1) (.text t.title) =
      decide (1 ≤ (Text.untilNul t.title).length) := rfl
  have flag :
      CheckRule.accepts (.oneOf [0, 1]) (.integer (if t.completed then 1 else 0)) = true := by
    cases t.completed <;> rfl
  simp only [failedCheck?, TableSchema.todos, Todo.row, Todo.fault?, List.zip_cons_cons,
    List.findSome?_cons, Option.bind_none, Option.bind_some, title, flag]
  by_cases titled : 1 ≤ (Text.untilNul t.title).length <;> simp [titled]

theorem checkRow_user {others : List User} {u : User} (fresh : ∀ x ∈ others, x.id ≠ u.id) :
    checkRow .users (others.map User.row) u.row = Store.checkUser others u := by
  have missing : missingColumn? .users u.row = none := rfl
  have free : (others.map User.row).any (·.key == u.row.key) = false := by
    simpa [User.row] using fresh
  have taken : takenColumn? .users (others.map User.row) u.row =
      if others.any (·.email = u.email) then some "email" else none := by
    have column : TableSchema.users.position? "email" = some 2 := rfl
    have used : ((others.map User.row).any fun other =>
        (other.cell 2).order (u.row.cell 2) == .eq) = others.any (·.email = u.email) := by
      rw [List.any_map]
      exact congrArg others.any (funext fun x => Cell.text_beq x.email u.email)
    simp only [takenColumn?, free, TableSchema.users] at column ⊢
    simp only [List.find?_cons, column, used]
    cases others.any (·.email = u.email) <;> rfl
  rw [checkRow, missing, failedCheck?_user, taken, Store.checkUser]
  cases u.fault? with
  | some check => rfl
  | none =>
    by_cases used : others.any (·.email = u.email)
    · rw [if_pos used, if_pos used]
      rfl
    · rw [if_neg used, if_neg used]

theorem checkRow_todo {others : List Todo} {t : Todo} (fresh : ∀ x ∈ others, x.id ≠ t.id) :
    checkRow .todos (others.map Todo.row) t.row = Store.checkTodo t := by
  have missing : missingColumn? .todos t.row = none := rfl
  have free : (others.map Todo.row).any (·.key == t.row.key) = false := by
    simpa [Todo.row] using fresh
  have taken : takenColumn? .todos (others.map Todo.row) t.row = none := by
    rw [takenColumn?, free]
    rfl
  rw [checkRow, missing, failedCheck?_todo, taken, Store.checkTodo]
  cases t.fault? <;> rfl

/-! ## Insertions -/

theorem insertRows_eq {db : Database} {table : String} {fields : List String}
    {rows : List (List Scalar)} {id : TableId} {t : Table} {positions : List Nat}
    (resolved : db.resolve table = .ok (id, t))
    (named : fields.mapM (dataPosition id.schema) = .ok positions) :
    db.insertRows table fields rows =
      addRows id.schema positions t 0 rows >>= fun added =>
        (db.putTable id added.1).map fun db => (db, ⟨some added.2, rows.length⟩) := by
  simp only [insertRows, resolved, bind, Except.bind, named]
  cases addRows id.schema positions t 0 rows with
  | error e => rfl
  | ok added => cases h : db.putTable id added.1 <;> simp only [h, Except.map]

theorem assemble_user (t : Table) (name email hash created updated : String) :
    assemble .users t [1, 2, 3, 4, 5]
      [.text name, .text email, .text hash, .text created, .text updated] =
      (freshKey .users t).map fun key => User.row ⟨key, name, email, hash, created, updated⟩ := by
  have keyed : assemble .users t [1, 2, 3, 4, 5]
      [.text name, .text email, .text hash, .text created, .text updated] =
      freshKey .users t >>= fun key => .ok (User.row ⟨key, name, email, hash, created, updated⟩) :=
    rfl
  rw [keyed]
  cases freshKey .users t <;> rfl

theorem assemble_todo (t : Table) (title : String) (description : Option String) (flag : Bool)
    (userId : Int) (created updated : String) :
    assemble .todos t [1, 2, 3, 4, 5, 6]
      [.text title, .ofText? description, .bool flag, .integer userId, .text created,
        .text updated] =
      (freshKey .todos t).map fun key =>
        Todo.row ⟨key, title, description, flag, userId, created, updated⟩ := by
  have keyed : assemble .todos t [1, 2, 3, 4, 5, 6]
      [.text title, .ofText? description, .bool flag, .integer userId, .text created,
        .text updated] =
      freshKey .todos t >>= fun key =>
        .ok (Todo.row ⟨key, title, description, flag, userId, created, updated⟩) := by
    cases description <;> rfl
  rw [keyed]
  cases freshKey .todos t <;> rfl

/-- A row that comes last in its table. -/
theorem addRow_next {α : Type} {schema : TableSchema} {row : α → Row} {xs : List α} {x : α}
    {last : Int} (issued : Issued ((xs.map row).map Row.key) last) (next : (row x).key = last + 1) :
    addRow schema ⟨xs.map row, last⟩ (row x) =
      (checkRow schema (xs.map row) (row x)).map fun _ => ⟨(xs ++ [x]).map row, last + 1⟩ := by
  have above : ∀ r ∈ xs.map row, r.key < (row x).key := by
    intro r mem
    have bound := issued.le_last r.key (List.mem_map_of_mem mem)
    omega
  have greater : max last (row x).key = last + 1 := by omega
  simp only [addRow, place_of_lt above, greater, List.map_append]
  cases checkRow schema (xs.map row) (row x) <;> rfl

variable {s : Store} {rest : Database}

theorem hasOwner_row (t : Todo) :
    hasOwner ⟨s.users.map User.row, s.lastUser⟩ t.row = s.hasUser t.userId := by
  change (s.users.map User.row).any (·.key == t.userId) = s.users.any (·.id = t.userId)
  rw [List.any_map]
  rfl

/-- Owners are checked at the end of a statement that adds or changes rows. -/
theorem checkOwners_fill :
    checkOwners (s.fill rest) =
      if s.todos.all fun t => s.hasUser t.userId then .ok (s.fill rest)
      else .error Store.ownerMissing := by
  have owned : ownersExist (s.fill rest) = s.todos.all fun t => s.hasUser t.userId := by
    change (s.todos.map Todo.row).all (hasOwner ⟨s.users.map User.row, s.lastUser⟩) = _
    rw [List.all_map]
    exact congrArg s.todos.all (funext hasOwner_row)
  rw [checkOwners, owned]
  rfl

theorem checkOwners_of_owners (owned : ∀ t ∈ s.todos, s.hasUser t.userId = true) :
    checkOwners (s.fill rest) = .ok (s.fill rest) := by
  rw [checkOwners_fill, if_pos (List.all_eq_true.2 owned)]

theorem addRows_cons (schema : TableSchema) (positions : List Nat) (t : Table) (last : Int)
    (values : List Scalar) (rest : List (List Scalar)) :
    addRows schema positions t last (values :: rest) =
      (assemble schema t positions values >>= fun row =>
        (addRow schema t row).map fun t => (t, row.key)) >>= fun x =>
      addRows schema positions x.1 x.2 rest := by
  rw [addRows]
  cases assemble schema t positions values with
  | error e => rfl
  | ok row => cases added : addRow schema t row <;> simp only [bind, Except.bind, added] <;> rfl

/-- The row of a new account. -/
theorem addRows_user (ids : Issued (s.users.map User.id) s.lastUser)
    (name email hash time : String) :
    addRows .users [1, 2, 3, 4, 5] ⟨s.users.map User.row, s.lastUser⟩ 0
        [[.text name, .text email, .text hash, .text time, .text time]] =
      (s.addUser name email hash time).map fun x =>
        (⟨x.2.users.map User.row, x.2.lastUser⟩, x.1) := by
  have keys : Issued ((s.users.map User.row).map Row.key) s.lastUser := by
    rw [List.map_map]
    exact ids
  have next := freshKey_of_issued (rfl : TableSchema.users.autoincrement = true) keys
  simp only [addRows, assemble_user, next, Store.addUser]
  by_cases full : keyLimit < s.lastUser + 1
  · rw [if_pos full, if_pos full]
    rfl
  · rw [if_neg full, if_neg full]
    let user : User := ⟨s.lastUser + 1, name, email, hash, time, time⟩
    have fresh : ∀ x ∈ s.users, x.id ≠ user.id := by
      intro x mem same
      exact ids.next_notMem (List.mem_map.2 ⟨x, mem, same⟩)
    have added : addRow .users ⟨s.users.map User.row, s.lastUser⟩ user.row = _ :=
      addRow_next keys rfl
    rw [checkRow_user fresh] at added
    change (addRow .users ⟨s.users.map User.row, s.lastUser⟩ user.row >>= fun t =>
        .ok (t, user.id)) =
      (Store.checkUser s.users user >>= fun _ =>
        .ok (user.id, { s with users := s.users ++ [user], lastUser := user.id })).map _
    rw [added]
    cases Store.checkUser s.users user <;> rfl

/-- A new account. -/
theorem insertRows_user (valid : s.Valid) (name email hash time : String) :
    (s.fill rest).insertRows "users" ["name", "email", "password_hash", "created_at", "updated_at"]
      [[.text name, .text email, .text hash, .text time, .text time]] =
      (s.addUser name email hash time).map fun x => (x.2.fill rest, ⟨some x.1, 1⟩) := by
  have named : ["name", "email", "password_hash", "created_at", "updated_at"].mapM
      (dataPosition .users) = .ok [1, 2, 3, 4, 5] := rfl
  rw [insertRows_eq (resolve_users s rest) named, TableId.schema,
    addRows_user valid.userIds name email hash time]
  cases added : s.addUser name email hash time with
  | error e => rfl
  | ok x =>
    obtain ⟨id, s'⟩ := x
    have valid' := valid.change (.of_addUser added)
    obtain ⟨_, _, rfl⟩ := Store.addUser_eq_ok added
    change (checkOwners (Store.fill _ rest)).map _ = _
    rw [checkOwners_of_owners valid'.owners]
    rfl

/-- The row of a new todo. -/
theorem addRow_todo (ids : Issued (s.todos.map Todo.id) s.lastTodo) (userId : Int) (time : String)
    (new : NewTodo) :
    (assemble .todos ⟨s.todos.map Todo.row, s.lastTodo⟩ [1, 2, 3, 4, 5, 6]
        (new.toRecord userId time).values >>= fun row =>
      (addRow .todos ⟨s.todos.map Todo.row, s.lastTodo⟩ row).map fun t => (t, row.key)) =
      (s.addTodo userId time new).map fun s' =>
        (⟨s'.todos.map Todo.row, s'.lastTodo⟩, s'.lastTodo) := by
  have keys : Issued ((s.todos.map Todo.row).map Row.key) s.lastTodo := by
    rw [List.map_map]
    exact ids
  have next := freshKey_of_issued (rfl : TableSchema.todos.autoincrement = true) keys
  have values : (new.toRecord userId time).values = [.text new.title, .ofText? new.description,
      .bool false, .integer userId, .text time, .text time] := rfl
  rw [values, assemble_todo, next, Store.addTodo]
  by_cases full : keyLimit < s.lastTodo + 1
  · rw [if_pos full, if_pos full]
    rfl
  · rw [if_neg full, if_neg full]
    let todo : Todo := ⟨s.lastTodo + 1, new.title, new.description, false, userId, time, time⟩
    have fresh : ∀ x ∈ s.todos, x.id ≠ todo.id := by
      intro x mem same
      exact ids.next_notMem (List.mem_map.2 ⟨x, mem, same⟩)
    have added : addRow .todos ⟨s.todos.map Todo.row, s.lastTodo⟩ todo.row = _ :=
      addRow_next keys rfl
    rw [checkRow_todo fresh] at added
    change (addRow .todos ⟨s.todos.map Todo.row, s.lastTodo⟩ todo.row).map
        (fun t => (t, todo.id)) =
      (Store.checkTodo todo >>= fun _ =>
        .ok { s with todos := s.todos ++ [todo], lastTodo := todo.id }).map _
    rw [added]
    cases Store.checkTodo todo <;> rfl

/-- The rows of new todos, one after the other. -/
theorem addRows_todos (userId : Int) (time : String) (new : List NewTodo) (last : Int)
    (ids : Issued (s.todos.map Todo.id) s.lastTodo) :
    addRows .todos [1, 2, 3, 4, 5, 6] ⟨s.todos.map Todo.row, s.lastTodo⟩ last
        (new.map fun t => (t.toRecord userId time).values) =
      (new.foldlM (fun (s : Store) new => s.addTodo userId time new) s).map fun s' =>
        (⟨s'.todos.map Todo.row, s'.lastTodo⟩, if new.isEmpty then last else s'.lastTodo) := by
  induction new generalizing s last with
  | nil => rfl
  | cons todo others ih =>
    rw [List.map_cons, addRows_cons, addRow_todo ids, List.foldlM_cons]
    cases added : s.addTodo userId time todo with
    | error e => rfl
    | ok s' =>
      obtain ⟨_, rfl⟩ := Store.addTodo_eq_ok added
      have ids' : Issued ((s.todos ++ [(⟨s.lastTodo + 1, todo.title, todo.description, false,
          userId, time, time⟩ : Todo)]).map Todo.id) (s.lastTodo + 1) := by
        rw [List.map_append]
        exact ids.append_next
      change addRows .todos [1, 2, 3, 4, 5, 6] ⟨List.map Todo.row _, s.lastTodo + 1⟩ _ _ = _
      rw [ih (s := { s with todos := _, lastTodo := s.lastTodo + 1 }) _ ids']
      cases others <;> rfl

/-- With new todos the owner of these is all that is checked. -/
theorem checkOwners_newTodos (valid : s.Valid) (userId last : Int) (time : String)
    {new : List NewTodo} (given : new ≠ []) :
    checkOwners (Store.fill { s with
        todos := s.todos ++ Store.newTodos userId time s.lastTodo new, lastTodo := last } rest) =
      if s.hasUser userId then
        .ok (Store.fill { s with
          todos := s.todos ++ Store.newTodos userId time s.lastTodo new, lastTodo := last } rest)
      else .error Store.ownerMissing := by
  have old : s.todos.all (fun t => s.hasUser t.userId) = true := List.all_eq_true.2 valid.owners
  have added : (Store.newTodos userId time s.lastTodo new).all (fun t => s.hasUser t.userId) =
      s.hasUser userId := by
    have owned := (Store.newTodos_spec userId time s.lastTodo new).1
    cases new with
    | nil => exact absurd rfl given
    | cons first others =>
      rw [Bool.eq_iff_iff, List.all_eq_true]
      refine ⟨fun all => all _ List.mem_cons_self, fun owner t mem => ?_⟩
      rw [(owned t mem).1]
      exact owner
  rw [checkOwners_fill, List.all_append]
  change (if (s.todos.all (fun t => s.hasUser t.userId) &&
    (Store.newTodos userId time s.lastTodo new).all (fun t => s.hasUser t.userId))
    then _ else _) = _
  rw [old, added, Bool.true_and]

/-- New todos of one owner. -/
theorem insertRows_todos (valid : s.Valid) (userId : Int) (time : String) {new : List NewTodo}
    (given : new ≠ []) :
    (s.fill rest).insertRows "todos"
        ["title", "description", "completed", "user_id", "created_at", "updated_at"]
        (new.map fun t => (t.toRecord userId time).values) =
      (s.addTodos userId time new).map fun x => (x.2.fill rest, ⟨some x.1, new.length⟩) := by
  have named : ["title", "description", "completed", "user_id", "created_at", "updated_at"].mapM
      (dataPosition .todos) = .ok [1, 2, 3, 4, 5, 6] := rfl
  rw [insertRows_eq (resolve_todos s rest) named, TableId.schema,
    addRows_todos userId time new 0 valid.todoIds, Store.addTodos, List.length_map]
  cases added : new.foldlM (fun (s : Store) new => s.addTodo userId time new) s with
  | error e => rfl
  | ok s' =>
    obtain ⟨_, rfl⟩ := Store.foldlM_addTodo_eq_ok added
    have nonempty : new.isEmpty = false := List.isEmpty_eq_false_iff.2 given
    have filled (last : Int) : (s.fill rest).putTable .todos
        ⟨(s.todos ++ Store.newTodos userId time s.lastTodo new).map Todo.row, last⟩ =
      checkOwners (Store.fill { s with
        todos := s.todos ++ Store.newTodos userId time s.lastTodo new, lastTodo := last } rest) :=
      rfl
    have same : Store.hasUser { s with
        todos := s.todos ++ Store.newTodos userId time s.lastTodo new
        lastTodo := s.lastTodo + new.length } userId = s.hasUser userId := rfl
    simp only [Except.map, bind, Except.bind, nonempty, filled, same,
      checkOwners_newTodos valid userId _ time given]
    cases s.hasUser userId <;> rfl

/-! ## Changes -/

/-- A change of the one row that was chosen, which keeps its key. -/
theorem changeRows_one {α : Type} {schema : TableSchema} {assignments : List (Nat × Scalar)}
    {row : α → Row} {xs : List α} {old new : α}
    (assigned : assignAll schema assignments (row old) = .ok (row new))
    (same : (row new).key = (row old).key) :
    changeRows schema assignments (xs.map row) [row old] =
      (checkRow schema ((xs.filter fun x => (row x).key ≠ (row old).key).map row) (row new)).map
        fun _ => (xs.map fun x => if (row x).key = (row old).key then new else x).map row := by
  have others : (xs.map row).filter (·.key != (row old).key) =
      (xs.filter fun x => (row x).key ≠ (row old).key).map row := by
    rw [List.filter_map]
    refine congrArg (List.map row) (List.filter_congr fun x _ => ?_)
    by_cases found : (row x).key = (row old).key <;> simp [found]
  have replaced : ((xs.map row).map fun r => if r.key = (row old).key then row new else r) =
      (xs.map fun x => if (row x).key = (row old).key then new else x).map row := by
    rw [List.map_map, List.map_map]
    refine List.map_congr_left fun x _ => ?_
    by_cases found : (row x).key = (row old).key <;> simp [found]
  simp only [changeRows, bind, Except.bind, assigned, others, same, if_true, replaced]
  cases checkRow schema ((xs.filter fun x => (row x).key ≠ (row old).key).map row) (row new) <;> rfl

theorem update_eq {db : Database} {table : String} {data : Record} {filter : Filter} {id : TableId}
    {t : Table} {positions : List Nat} {chosen : List Row}
    (resolved : db.resolve table = .ok (id, t))
    (named : data.names.mapM (dataPosition id.schema) = .ok positions)
    (found : find id t filter = .ok chosen) :
    db.update table data filter =
      changeRows id.schema (positions.zip data.values) t.rows chosen >>= fun rows =>
        (db.putTable id { t with rows }).map fun db => (db, ⟨none, chosen.length⟩) := by
  simp only [update, resolved, bind, Except.bind, named, found]
  cases changeRows id.schema (positions.zip data.values) t.rows chosen with
  | error e => rfl
  | ok rows =>
    cases h : db.putTable id { t with rows } <;> simp only [h, Except.map]

/-- Fields of data, each with the position of its column. -/
abbrev Placed := List (Nat × String × Scalar)

/-- Data that consist of placed fields are written to their columns. -/
theorem mapM_dataPosition {schema : TableSchema} {data : Record} {placed : Placed}
    (fields : data.fields = placed.map Prod.snd)
    (named : ∀ x ∈ placed, dataPosition schema x.2.1 = .ok x.1) :
    data.names.mapM (dataPosition schema) = .ok (placed.map Prod.fst) := by
  rw [Record.names, fields, List.map_map]
  clear fields
  induction placed with
  | nil => rfl
  | cons x others ih =>
    have rest := ih fun y mem => named y (List.mem_cons_of_mem x mem)
    rw [List.map_cons, List.mapM_cons, rest, Function.comp_apply, named x List.mem_cons_self]
    rfl

theorem zip_values {data : Record} {placed : Placed}
    (fields : data.fields = placed.map Prod.snd) :
    (placed.map Prod.fst).zip data.values = placed.map fun x => (x.1, x.2.2) := by
  rw [Record.values, fields, List.map_map, List.zip_map']
  rfl

/-- A change of the user of an id. -/
theorem update_user (valid : s.Valid) {userId : Int} {data : Record} {filter : Filter}
    {placed : Placed} {change : User → User}
    (found : find .users ⟨s.users.map User.row, s.lastUser⟩ filter =
      .ok ((s.users.filter (·.id = userId)).map User.row))
    (fields : data.fields = placed.map Prod.snd)
    (named : ∀ x ∈ placed, dataPosition .users x.2.1 = .ok x.1)
    (assigned : ∀ u : User,
      assignAll .users (placed.map fun x => (x.1, x.2.2)) u.row = .ok (change u).row)
    (keeps : ∀ u, (change u).id = u.id) :
    (s.fill rest).update "users" data filter =
      (s.changeUser userId change).map fun x => (x.2.fill rest, ⟨none, x.1⟩) := by
  rw [valid.filter_user] at found
  rw [update_eq (resolve_users s rest) (mapM_dataPosition fields named) found, zip_values fields,
    Store.changeUser]
  cases chosen : s.user? userId with
  | none =>
    change (checkOwners (s.fill rest)).map _ = _
    rw [checkOwners_of_owners valid.owners]
    rfl
  | some user =>
    have same : user.id = userId := by simpa using List.find?_some chosen
    subst same
    have fresh : ∀ x ∈ s.users.filter (·.id ≠ user.id), x.id ≠ (change user).id := by
      intro x mem
      rw [keeps user]
      simpa using (List.mem_filter.1 mem).2
    have changed :
        changeRows .users (placed.map fun x => (x.1, x.2.2)) (s.users.map User.row) [user.row] =
          _ :=
      changeRows_one (assigned user) (keeps user)
    have checks := checkRow_user fresh
    simp only [TableId.schema, Option.toList_some, List.map_cons, List.map_nil]
    rw [changed]
    change ((checkRow .users ((s.users.filter (·.id ≠ user.id)).map User.row)
      (change user).row).map _ >>= _) = _
    rw [checks]
    cases checked : Store.checkUser (s.users.filter (·.id ≠ user.id)) (change user) with
    | error e => rfl
    | ok _ =>
      have valid' := valid.userChanged (keeps user) checked
      change (checkOwners (Store.fill { s with
        users := s.users.map fun u => if u.id = user.id then change user else u } rest)).map _ = _
      rw [checkOwners_of_owners valid'.owners]
      rfl

/-- A change of the todo of an id and an owner that meets a condition. -/
theorem update_todo (valid : s.Valid) {userId todoId : Int} {condition : Todo → Bool}
    {data : Record} {filter : Filter} {placed : Placed} {change : Todo → Todo}
    (found : find .todos ⟨s.todos.map Todo.row, s.lastTodo⟩ filter =
      .ok ((s.todos.filter fun t => t.id = todoId && t.userId = userId && condition t).map
        Todo.row))
    (fields : data.fields = placed.map Prod.snd)
    (named : ∀ x ∈ placed, dataPosition .todos x.2.1 = .ok x.1)
    (assigned : ∀ t : Todo, condition t = true →
      assignAll .todos (placed.map fun x => (x.1, x.2.2)) t.row = .ok (change t).row)
    (keeps : ∀ t, (change t).id = t.id ∧ (change t).userId = t.userId) :
    (s.fill rest).update "todos" data filter =
      (s.changeTodo userId todoId condition change).map fun x => (x.2.fill rest, ⟨none, x.1⟩) := by
  have one : s.todos.filter (fun t => t.id = todoId && t.userId = userId && condition t) =
      ((s.todo? userId todoId).filter condition).toList := by
    rw [Option.toList_filter, ← valid.filter_todo, List.filter_filter]
    exact List.filter_congr fun t _ => Bool.and_comm _ _
  rw [one] at found
  rw [update_eq (resolve_todos s rest) (mapM_dataPosition fields named) found, zip_values fields,
    Store.changeTodo]
  cases chosen : (s.todo? userId todoId).filter condition with
  | none =>
    change (checkOwners (s.fill rest)).map _ = _
    rw [checkOwners_of_owners valid.owners]
    rfl
  | some todo =>
    obtain ⟨sought, holds⟩ := Option.filter_eq_some_iff.1 chosen
    obtain ⟨held, same, owner⟩ := Store.mem_of_todo? sought
    subst same
    have fresh : ∀ x ∈ s.todos.filter (·.id ≠ todo.id), x.id ≠ (change todo).id := by
      intro x mem
      rw [(keeps todo).1]
      simpa using (List.mem_filter.1 mem).2
    have changed :
        changeRows .todos (placed.map fun x => (x.1, x.2.2)) (s.todos.map Todo.row) [todo.row] =
          _ :=
      changeRows_one (assigned todo holds) (keeps todo).1
    have checks := checkRow_todo fresh
    simp only [TableId.schema, Option.toList_some, List.map_cons, List.map_nil]
    rw [changed]
    change ((checkRow .todos ((s.todos.filter (·.id ≠ todo.id)).map Todo.row)
      (change todo).row).map _ >>= _) = _
    rw [checks]
    cases checked : Store.checkTodo (change todo) with
    | error e => rfl
    | ok _ =>
      have valid' := valid.todoReplaced held (keeps todo).1 (keeps todo).2
        (Store.checkTodo_eq_ok_iff.1 checked)
      change (checkOwners (Store.fill { s with
        todos := s.todos.map fun t => if t.id = todo.id then change todo else t } rest)).map _ = _
      rw [checkOwners_of_owners valid'.owners]
      rfl

/-! ## Removals -/

/-- The rows that are left when those of some items are removed. -/
theorem delete_eq {α : Type} {db : Database} {table : String} {filter : Filter} {id : TableId}
    {row : α → Row} {xs : List α} {p : α → Bool} {last : Int}
    (resolved : db.resolve table = .ok (id, ⟨xs.map row, last⟩))
    (issued : Issued (xs.map fun x => (row x).key) last)
    (found : find id ⟨xs.map row, last⟩ filter = .ok ((xs.filter p).map row)) :
    db.delete table filter =
      .ok ((db.setTable id ⟨(xs.filter (!p ·)).map row, last⟩).dropOrphans,
        ⟨none, (xs.filter p).length⟩) := by
  have left : ((xs.map row).filter fun r => !((xs.filter p).map row).any (·.key == r.key)) =
      (xs.filter (!p ·)).map row := by
    rw [List.filter_map]
    refine congrArg (List.map row) (List.filter_congr fun x mem => ?_)
    rw [Function.comp_apply, Bool.not_inj_iff, Bool.eq_iff_iff, List.any_eq_true]
    refine ⟨?_, fun chosen => ⟨row x, ?_, beq_self_eq_true _⟩⟩
    · rintro ⟨r, removed, same⟩
      obtain ⟨y, taken, rfl⟩ := List.mem_map.1 removed
      obtain ⟨held, chosen⟩ := List.mem_filter.1 taken
      rwa [← issued.eq_of_same held mem (beq_iff_eq.1 same)]
    · exact List.mem_map_of_mem (List.mem_filter.2 ⟨mem, chosen⟩)
  simp only [delete, resolved, bind, Except.bind, found, left, List.length_map]

/-- Todos without an owner go. -/
theorem dropOrphans_fill :
    (s.fill rest).dropOrphans =
      Store.fill { s with todos := s.todos.filter fun t => s.hasUser t.userId } rest := by
  have kept : (s.todos.map Todo.row).filter (hasOwner ⟨s.users.map User.row, s.lastUser⟩) =
      (s.todos.filter fun t => s.hasUser t.userId).map Todo.row := by
    rw [List.filter_map]
    exact congrArg (List.map Todo.row) (List.filter_congr fun t _ => hasOwner_row t)
  simp only [dropOrphans, Store.fill, kept]

/-- The removal of the user of an id. -/
theorem delete_user (valid : s.Valid) {userId : Int} {filter : Filter}
    (found : find .users ⟨s.users.map User.row, s.lastUser⟩ filter =
      .ok ((s.users.filter (·.id = userId)).map User.row)) :
    (s.fill rest).delete "users" filter =
      .ok ((s.dropUser userId).2.fill rest, ⟨none, (s.dropUser userId).1⟩) := by
  have left : s.users.filter (fun u => !decide (u.id = userId)) = s.users.filter (·.id ≠ userId) :=
    List.filter_congr fun u _ => (decide_not).symm
  have orphans : s.todos.filter (fun t => (s.dropUser userId).2.hasUser t.userId) =
      s.todos.filter (·.userId ≠ userId) := by
    refine List.filter_congr fun t mem => ?_
    rw [Store.hasUser_dropUser, valid.owners t mem, Bool.true_and]
  rw [delete_eq (resolve_users s rest) valid.userIds found, left]
  change Except.ok ((Store.fill { s with users := s.users.filter (·.id ≠ userId) }
    rest).dropOrphans, _) = _
  rw [dropOrphans_fill, valid.filter_user]
  change Except.ok (Store.fill { s with
    users := s.users.filter (·.id ≠ userId)
    todos := s.todos.filter fun t => (s.dropUser userId).2.hasUser t.userId } rest, _) = _
  rw [orphans]
  rfl

/-- The removal of the todo of an id and an owner. -/
theorem delete_todo (valid : s.Valid) {userId todoId : Int} {filter : Filter}
    (found : find .todos ⟨s.todos.map Todo.row, s.lastTodo⟩ filter =
      .ok ((s.todos.filter fun t => t.id = todoId && t.userId = userId).map Todo.row)) :
    (s.fill rest).delete "todos" filter =
      .ok ((s.dropTodo userId todoId).2.fill rest, ⟨none, (s.dropTodo userId todoId).1⟩) := by
  have owned : (s.dropTodo userId todoId).2.todos.filter
      (fun t => (s.dropTodo userId todoId).2.hasUser t.userId) =
      (s.dropTodo userId todoId).2.todos :=
    List.filter_eq_self.2 (valid.todoDropped userId todoId).owners
  rw [delete_eq (resolve_todos s rest) valid.todoIds found, valid.filter_todo]
  change Except.ok ((Store.fill (s.dropTodo userId todoId).2 rest).dropOrphans, _) = _
  rw [dropOrphans_fill, owned]
  rfl

end Storage.Database

end TodoServer
