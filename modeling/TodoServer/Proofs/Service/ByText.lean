import TodoServer.Proofs.Service.Confinement
import TodoServer.Proofs.Store.ByText

/-!
# Services that go by the text

The services name tables and columns by plain words, and their filters find the same rows when they
are made again from their text. So every operation answers and changes the same on a pool that is
handed nothing but the text of its statements and their values.
-/

namespace TodoServer

open Storage

/-! ## Filters and commands -/

/-- A filter of which nothing is lost in its text. -/
structure Filter.Textual (filter : Filter) : Prop where
  plain : ∀ field ∈ filter.fields, Sql.isPlainName .folded field = true
  alike : filter.FindsAlike

theorem Filter.Textual.of_fields {filter : Filter} {fields : List String}
    (asked : filter.fields = fields)
    (plain : ∀ field ∈ fields, Sql.isPlainName .folded field = true) (alike : filter.FindsAlike) :
    filter.Textual :=
  ⟨asked ▸ plain, alike⟩

namespace Command.Textual

variable {table : String} {columns : List String} {data : Record} {filter : Filter}
  (named : Sql.isPlainName .folded table = true)

include named

theorem select (shown : ∀ column ∈ columns, Sql.isPlainName .folded column = true)
    (asked : filter.Textual) : (Command.select table columns filter).Textual where
  plain := by
    simp only [names, List.cons_append, List.forall_mem_cons, List.forall_mem_append]
    exact ⟨named, shown, asked.plain⟩
  even := trivial
  alike := asked.alike

theorem update (changed : ∀ field ∈ data.names, Sql.isPlainName .folded field = true)
    (asked : filter.Textual) : (Command.update table data filter).Textual where
  plain := by
    simp only [names, List.cons_append, List.forall_mem_cons, List.forall_mem_append]
    exact ⟨named, changed, asked.plain⟩
  even := trivial
  alike := asked.alike

theorem delete (asked : filter.Textual) : (Command.delete table filter).Textual where
  plain := List.forall_mem_cons.2 ⟨named, asked.plain⟩
  even := trivial
  alike := asked.alike

theorem insert (given : ∀ field ∈ data.names, Sql.isPlainName .folded field = true) :
    (Command.insert table data).Textual where
  plain := List.forall_mem_cons.2 ⟨named, given⟩
  even := trivial
  alike := trivial

end Command.Textual

/-! ## The user service -/

namespace Users

theorem plain_openColumns : ∀ name ∈ User.openColumns, Sql.isPlainName .folded name = true := by
  decide

theorem textual_identified (userId : Int) :
    Filter.Textual ⟨[.condition ⟨"id", .eq, .integer userId⟩]⟩ :=
  .of_fields (rfl : _ = ["id"]) (by decide) fun _ _ => rfl

theorem textual_mailed (email : String) :
    Filter.Textual ⟨[.condition ⟨"email", .eq, .text email⟩]⟩ :=
  .of_fields (rfl : _ = ["email"]) (by decide) fun _ _ => rfl

theorem textual_namedOrMailed {name email : Option String} {filter : Filter}
    (built : namedOrMailed name email = .ok filter) : filter.Textual := by
  cases name with
  | none =>
    cases email with
    | none => cases built
    | some email =>
      cases built
      exact .of_fields (rfl : _ = ["email"]) (by decide) fun _ t =>
        Database.find_normal_single rfl t
  | some name =>
    cases email with
    | none =>
      cases built
      exact .of_fields (rfl : _ = ["name"]) (by decide) fun _ t =>
        Database.find_normal_single rfl t
    | some email =>
      cases built
      exact .of_fields (rfl : _ = ["name", "email"]) (by decide) fun _ _ => rfl

variable (p : Pool)

theorem first_textRunner {filter : Except ServiceError Filter}
    (asked : ∀ f, filter = .ok f → f.Textual) :
    first Pool.textRunner filter p = first Pool.runner filter p := by
  cases filter with
  | error e => rfl
  | ok filter =>
    have textual : (Command.select User.table [] filter).Textual :=
      .select (by decide) (List.forall_mem_nil _) (asked filter rfl)
    simp only [first, Executor.select, Executor.fetch_textRunner textual]

theorem insert_textRunner (now : Instant) (salt : List UInt8) (name email password : String) :
    insert Pool.textRunner now salt name email password p =
      insert Pool.runner now salt name email password p := by
  have fields : (newRecord now salt name email password).names =
      ["name", "email", "password_hash", "created_at", "updated_at"] := rfl
  have textual : (Command.insert User.table (newRecord now salt name email password)).Textual :=
    .insert (by decide) (by rw [fields]; decide)
  simp only [insert, Executor.insert, Executor.execute_textRunner textual]

theorem get_textRunner (userId : Int) :
    get Pool.textRunner userId p = get Pool.runner userId p :=
  first_textRunner p fun f built => by
    cases built
    exact textual_identified userId

theorem find_textRunner (name email : Option String) :
    find Pool.textRunner name email p = find Pool.runner name email p :=
  first_textRunner p fun _ built => textual_namedOrMailed built

theorem update_textRunner (now : Instant) (salt : List UInt8) (userId : Int)
    (name email password : Option String) :
    update Pool.textRunner now salt userId name email password p =
      update Pool.runner now salt userId name email password p := by
  have textual : (Command.update User.table (changes now salt name email password)
      ⟨[.condition ⟨"id", .eq, .integer userId⟩]⟩).Textual :=
    .update (by decide) (fun field mem => plain_openColumns field (names_changes _ _ _ _ _ mem))
      (textual_identified userId)
  simp only [update, identified_eq, Executor.update, Executor.execute_textRunner textual]

theorem delete_textRunner (userId : Int) :
    delete Pool.textRunner userId p = delete Pool.runner userId p := by
  have textual := Command.Textual.delete (by decide : Sql.isPlainName .folded User.table = true)
    (textual_identified userId)
  simp only [delete, identified_eq, Executor.delete, Executor.execute_textRunner textual]

theorem authenticate_textRunner (email password : String) :
    authenticate Pool.textRunner email password p = authenticate Pool.runner email password p := by
  have textual : (Command.select User.table ["id", "password_hash"]
      ⟨[.condition ⟨"email", .eq, .text email⟩]⟩).Textual :=
    .select (by decide) (by decide) (textual_mailed email)
  simp only [authenticate, mailed_eq, Executor.select, Executor.fetch_textRunner textual]

end Users

/-! ## The todo service -/

namespace Todos

theorem plain_openColumns : ∀ name ∈ Todo.openColumns, Sql.isPlainName .folded name = true := by
  decide

theorem textual_owned (userId todoId : Int) :
    Filter.Textual ⟨[.condition ⟨"id", .eq, .integer todoId⟩,
      .condition ⟨"user_id", .eq, .integer userId⟩]⟩ :=
  .of_fields (rfl : _ = ["id", "user_id"]) (by decide)
    (Filter.findsAlike_of_order fun id => by cases id <;> rfl)

theorem textual_unchanged (userId todoId : Int) (seen : Bool) :
    Filter.Textual ⟨[.condition ⟨"id", .eq, .integer todoId⟩,
      .condition ⟨"user_id", .eq, .integer userId⟩, .condition ⟨"completed", .eq, .bool seen⟩]⟩ :=
  .of_fields (rfl : _ = ["id", "user_id", "completed"]) (by decide)
    (Filter.findsAlike_of_order fun id => by cases id <;> rfl)

theorem textual_listing {userId : Int} {completed : Option Bool} {search : Option String}
    {filter : Filter} (built : orFilter (listing userId completed search).build = .ok filter) :
    filter.Textual := by
  cases asked : wanted search <;> cases completed <;> simp only [listing, asked] at built <;>
    cases built
  · exact .of_fields (rfl : _ = ["user_id"]) (by decide)
      (Filter.findsAlike_of_order fun id => by cases id <;> rfl)
  · exact .of_fields (rfl : _ = ["user_id", "completed"]) (by decide)
      (Filter.findsAlike_of_order fun id => by cases id <;> rfl)
  · exact .of_fields (rfl : _ = ["user_id", "title", "description"]) (by decide)
      (Filter.findsAlike_of_order fun id => by cases id <;> rfl)
  · exact .of_fields (rfl : _ = ["user_id", "completed", "title", "description"]) (by decide)
      (Filter.findsAlike_of_order fun id => by cases id <;> rfl)

theorem names_toRecord (todo : NewTodo) (userId : Int) (now : String) :
    (todo.toRecord userId now).names =
      ["title", "description", "completed", "user_id", "created_at", "updated_at"] := rfl

variable (p : Pool) (now : Instant) (userId todoId : Int)

theorem list_textRunner (completed : Option Bool) (search : Option String) :
    list Pool.textRunner userId completed search p =
      list Pool.runner userId completed search p := by
  rw [list, list]
  cases built : orFilter (listing userId completed search).build with
  | error e => rfl
  | ok filter =>
    have textual : (Command.select Todo.table [] filter).Textual :=
      .select (by decide) (List.forall_mem_nil _) (textual_listing built)
    simp only [fetch, Executor.select, Executor.fetch_textRunner textual]

theorem get_textRunner :
    get Pool.textRunner userId todoId p = get Pool.runner userId todoId p := by
  have textual : (Command.select Todo.table [] ⟨[.condition ⟨"id", .eq, .integer todoId⟩,
      .condition ⟨"user_id", .eq, .integer userId⟩]⟩).Textual :=
    .select (by decide) (List.forall_mem_nil _) (textual_owned userId todoId)
  simp only [get, owned_eq, fetch, Executor.select, Executor.fetch_textRunner textual]

theorem insert_textRunner (todo : NewTodo) :
    insert Pool.textRunner now userId todo p = insert Pool.runner now userId todo p := by
  have textual : (Command.insert Todo.table (todo.toRecord userId now.text)).Textual :=
    .insert (by decide) (by rw [names_toRecord]; decide)
  simp only [insert, Executor.insert, Executor.execute_textRunner textual]

theorem insertMany_textRunner (todos : List NewTodo) :
    insertMany Pool.textRunner now userId todos p = insertMany Pool.runner now userId todos p := by
  cases todos with
  | nil => rfl
  | cons first others =>
    have textual : (Command.insertAll Todo.table (first.toRecord userId now.text)
        (others.map (·.toRecord userId now.text))).Textual := by
      refine ⟨?_, ⟨rfl, fun r mem => ?_⟩, trivial⟩
      · rw [Command.names, names_toRecord]
        decide
      · obtain ⟨todo, -, rfl⟩ := List.mem_map.1 mem
        rfl
    simp only [insertMany, List.map_cons, Executor.insertAll, Executor.execute_textRunner textual]

theorem update_textRunner (title description : Option String) :
    update Pool.textRunner now userId todoId title description p =
      update Pool.runner now userId todoId title description p := by
  have textual : (Command.update Todo.table (changes now title description)
      ⟨[.condition ⟨"id", .eq, .integer todoId⟩,
        .condition ⟨"user_id", .eq, .integer userId⟩]⟩).Textual :=
    .update (by decide) (fun field mem => plain_openColumns field (names_changes _ _ _ mem))
      (textual_owned userId todoId)
  simp only [update, owned_eq, Executor.update, Executor.execute_textRunner textual]

theorem delete_textRunner :
    delete Pool.textRunner userId todoId p = delete Pool.runner userId todoId p := by
  have textual := Command.Textual.delete (by decide : Sql.isPlainName .folded Todo.table = true)
    (textual_owned userId todoId)
  simp only [delete, owned_eq, Executor.delete, Executor.execute_textRunner textual]

theorem completion_textRunner :
    completion Pool.textRunner userId todoId p = completion Pool.runner userId todoId p := by
  have textual : (Command.select Todo.table ["completed"] ⟨[.condition ⟨"id", .eq, .integer todoId⟩,
      .condition ⟨"user_id", .eq, .integer userId⟩]⟩).Textual :=
    .select (by decide) (by decide) (textual_owned userId todoId)
  simp only [completion, owned_eq, Executor.select, Executor.fetch_textRunner textual]

theorem isCompleted_textRunner :
    isCompleted Pool.textRunner userId todoId p = isCompleted Pool.runner userId todoId p := by
  rw [isCompleted, completion_textRunner, isCompleted]

theorem flip_textRunner (seen : Bool) :
    flip Pool.textRunner now userId todoId seen p = flip Pool.runner now userId todoId seen p := by
  have built : orFilter (((FilterBuilder.empty.eq "id" (.integer todoId)).eq "user_id"
      (.integer userId)).eq "completed" (.bool seen)).build =
      .ok ⟨[.condition ⟨"id", .eq, .integer todoId⟩, .condition ⟨"user_id", .eq, .integer userId⟩,
        .condition ⟨"completed", .eq, .bool seen⟩]⟩ := rfl
  have fields : (Record.ofList [("completed", .bool !seen), ("updated_at", .text now.text)]).names =
      ["completed", "updated_at"] := rfl
  have plain : ∀ field ∈ (Record.ofList [("completed", .bool !seen),
      ("updated_at", .text now.text)]).names, Sql.isPlainName .folded field = true := by
    rw [fields]
    decide
  have textual := Command.Textual.update (by decide : Sql.isPlainName .folded Todo.table = true)
    plain (textual_unchanged userId todoId seen)
  simp only [flip, built, Executor.update, Executor.execute_textRunner textual]

namespace Toggle

/-- A statement of a toggle is one whose text says all of it. -/
theorem step_textRunner (t : Toggle) :
    t.step Pool.textRunner now userId todoId p = t.step Pool.runner now userId todoId p := by
  cases t with
  | reading => rw [step, completion_textRunner, step]
  | writing seen => rw [step, flip_textRunner, step]
  | done answer => rfl

theorem run_textRunner (n : Nat) (t : Toggle) :
    run Pool.textRunner now userId todoId n t p = run Pool.runner now userId todoId n t p := by
  induction n generalizing t p with
  | zero => rfl
  | succ n ih =>
    rw [run, run, step_textRunner]
    exact ih _ _

end Toggle

theorem toggle_textRunner :
    toggle Pool.textRunner now userId todoId p = toggle Pool.runner now userId todoId p := by
  rw [toggle, Toggle.run_textRunner, toggle]

end Todos

/-- **Nothing of an operation is lost in the text of its statements.** On a pool that is handed the
text of each statement and its values, every operation answers and changes what it does on a pool
that is handed the commands. -/
theorem Operation.run_textRunner (operation : Operation) (moment : Moment) (p : Pool) :
    operation.run Pool.textRunner moment p = operation.run Pool.runner moment p := by
  cases operation with
  | insertUser => rw [run, Users.insert_textRunner, run]
  | getUser => rw [run, Users.get_textRunner, run]
  | findUser => rw [run, Users.find_textRunner, run]
  | updateUser => rw [run, Users.update_textRunner, run]
  | deleteUser => rw [run, Users.delete_textRunner, run]
  | authenticate => rw [run, Users.authenticate_textRunner, run]
  | listTodos => rw [run, Todos.list_textRunner, run]
  | getTodo => rw [run, Todos.get_textRunner, run]
  | insertTodo => rw [run, Todos.insert_textRunner, run]
  | insertTodos => rw [run, Todos.insertMany_textRunner, run]
  | updateTodo => rw [run, Todos.update_textRunner, run]
  | isCompleted => rw [run, Todos.isCompleted_textRunner, run]
  | toggle => rw [run, Todos.toggle_textRunner, run]
  | deleteTodo => rw [run, Todos.delete_textRunner, run]

end TodoServer
