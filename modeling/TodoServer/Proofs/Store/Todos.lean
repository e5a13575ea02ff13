import TodoServer.Proofs.Service.Opening
import TodoServer.Proofs.Storage.Statements
import TodoServer.Proofs.Store.Execution

/-!
# The todo service on a store

What each operation of the todo service answers on a database that is filled by a valid store, and
the store it leaves behind.
-/

namespace TodoServer

open Storage Storage.Database

variable {s : Store} {rest : Database}

namespace Todos

theorem find_owned (s : Store) (userId todoId : Int) :
    Database.find .todos ⟨s.todos.map Todo.row, s.lastTodo⟩
        ⟨[.condition ⟨"id", .eq, .integer todoId⟩, .condition ⟨"user_id", .eq, .integer userId⟩]⟩ =
      .ok ((s.todos.filter fun t => t.id = todoId && t.userId = userId).map Todo.row) := by
  refine find_todos
    (checkFields_of_columns .todos (rfl : _ = ["id", "user_id"]) (by decide)) fun t _ => ?_
  rw [accepts_cons (truth_todo_id t todoId), accepts_cons (truth_todo_userId t userId), accepts_nil]
  cases decide (t.id = todoId) <;> cases decide (t.userId = userId) <;> rfl

theorem find_seen (s : Store) (userId todoId : Int) (seen : Bool) :
    Database.find .todos ⟨s.todos.map Todo.row, s.lastTodo⟩
        ⟨[.condition ⟨"id", .eq, .integer todoId⟩, .condition ⟨"user_id", .eq, .integer userId⟩,
          .condition ⟨"completed", .eq, .bool seen⟩]⟩ =
      .ok ((s.todos.filter fun t =>
        t.id = todoId && t.userId = userId && decide (t.completed = seen)).map Todo.row) := by
  refine find_todos
    (checkFields_of_columns .todos (rfl : _ = ["id", "user_id", "completed"]) (by decide))
    fun t _ => ?_
  rw [accepts_cons (truth_todo_id t todoId), accepts_cons (truth_todo_userId t userId),
    accepts_cons (truth_todo_completed t seen), accepts_nil]
  cases decide (t.id = todoId) <;> cases decide (t.userId = userId) <;>
    cases decide (t.completed = seen) <;> rfl

theorem fetch_pool {filter : Filter} {todos : List Todo}
    (few : filter.values.length ≤ Pool.valueLimit)
    (found : Database.find .todos ⟨s.todos.map Todo.row, s.lastTodo⟩ filter =
      .ok (todos.map Todo.row)) :
    fetch Pool.runner (.ok filter) (s.pool rest) = (.ok todos, s.pool rest) := by
  rw [fetch, Todo.table, Executor.select_pool few, select_todos found]
  change (orRow ((todos.map Todo.record).mapM Todo.ofRecord), s.pool rest) = _
  rw [Todo.mapM_ofRecord_record]
  rfl

theorem fetch_pool_of_refused {filter : Filter} {e : StorageError}
    (few : filter.values.length ≤ Pool.valueLimit)
    (refused : Database.find .todos ⟨s.todos.map Todo.row, s.lastTodo⟩ filter = .error e) :
    fetch Pool.runner (.ok filter) (s.pool rest) = (.error (.query (.storage e)), s.pool rest) := by
  rw [fetch, Todo.table, Executor.select_pool few,
    select_of_refused (resolve_todos s rest) rfl refused]
  rfl

theorem get_pool (userId todoId : Int) :
    get Pool.runner userId todoId (s.pool rest) = (.ok (s.todo? userId todoId), s.pool rest) := by
  rw [get, owned_eq,
    fetch_pool (by exact Nat.le_of_ble_eq_true rfl) (find_owned s userId todoId)]
  change (Except.ok (List.head? _), _) = _
  rw [List.head?_filter]
  rfl

variable (valid : s.Valid)

include valid in
theorem insert_pool (now : Instant) (userId : Int) (new : NewTodo) :
    insert Pool.runner now userId new (s.pool rest) =
      Store.pooled rest (s.settle (s.addTodos userId now.text [new])) := by
  have done :
      Executor.insert Pool.runner "todos" (new.toRecord userId now.text) (s.pool rest) = _ :=
    Executor.insert_pool (show 6 ≤ 32766 by decide)
      (insertRows_todos valid userId now.text (List.cons_ne_nil new []))
  rw [insert, Todo.table, done]
  rfl

include valid in
theorem delete_pool (userId todoId : Int) :
    delete Pool.runner userId todoId (s.pool rest) =
      (.ok (s.dropTodo userId todoId).1, (s.dropTodo userId todoId).2.pool rest) := by
  simp only [delete, owned_eq, Todo.table,
    Executor.delete_pool ⟨_, List.mem_cons_self, .condition _⟩
      (by exact Nat.le_of_ble_eq_true rfl) (delete_todo valid (find_owned s userId todoId))]
  rfl

/-- Each new todo binds six values. -/
theorem length_values_toRecords (userId : Int) (time : String) (new : List NewTodo) :
    ((new.map (·.toRecord userId time)).flatMap Record.values).length = 6 * new.length := by
  induction new with
  | nil => rfl
  | cons first others ih =>
    have here : ((first.toRecord userId time).values).length = 6 := rfl
    rw [List.map_cons, List.flatMap_cons, List.length_append, ih, here, List.length_cons]
    omega

theorem insertMany_pool_of_many (now : Instant) (userId : Int) {new : List NewTodo}
    (many : Pool.valueLimit < 6 * new.length) :
    insertMany Pool.runner now userId new (s.pool rest) =
      (.error (.query (.storage Executor.tooManyValues)), s.pool rest) := by
  rw [← length_values_toRecords userId now.text] at many
  cases new with
  | nil => exact absurd many (Nat.not_lt_zero _)
  | cons first others =>
    have refused : Executor.insertAll Pool.runner "todos"
        ((first :: others).map (·.toRecord userId now.text)) (s.pool rest) = _ :=
      Executor.insertAll_pool_of_many many
    rw [insertMany, Todo.table, refused]
    rfl

include valid in
theorem insertMany_pool (now : Instant) (userId : Int) {new : List NewTodo} (given : new ≠ [])
    (few : 6 * new.length ≤ Pool.valueLimit) :
    insertMany Pool.runner now userId new (s.pool rest) =
      Store.pooled rest (s.settle (s.addTodos userId now.text new)) := by
  rw [← length_values_toRecords userId now.text] at few
  cases new with
  | nil => exact absurd rfl given
  | cons first others =>
    have rows := insertAll_toRecord (s.fill rest) "todos" userId now.text first others
    have inserted := rows.trans (insertRows_todos valid userId now.text given)
    rw [← List.length_map (·.toRecord userId now.text)] at inserted
    have done : Executor.insertAll Pool.runner "todos"
        ((first :: others).map (·.toRecord userId now.text)) (s.pool rest) = _ :=
      Executor.insertAll_pool few inserted
    rw [insertMany, Todo.table, done]
    rfl

/-- The changes of a todo that are asked for. -/
def changed (time : String) (title description : Option String) (t : Todo) : Todo :=
  { t with
    title := title.getD t.title
    description := description.or t.description
    updatedAt := time }

/-- The fields of the changes that are asked for. -/
def placed (time : String) (title description : Option String) : Placed :=
  (title.map fun title => (1, "title", .text title)).toList ++
    (description.map fun description => (2, "description", .text description)).toList ++
    [(6, "updated_at", .text time)]

section

variable (time : String) (title description : Option String)

theorem dataPosition_placed :
    ∀ x ∈ placed time title description, dataPosition .todos x.2.1 = .ok x.1 := by
  have columns : dataPosition .todos "title" = .ok 1 ∧ dataPosition .todos "description" = .ok 2 ∧
      dataPosition .todos "updated_at" = .ok 6 := ⟨rfl, rfl, rfl⟩
  cases title <;> cases description <;> simp [placed, columns]

theorem assignAll_placed (t : Todo) :
    assignAll .todos ((placed time title description).map fun x => (x.1, x.2.2)) t.row =
      .ok (changed time title description t).row := by
  cases title <;> cases description <;> rfl

theorem length_placed :
    1 ≤ (placed time title description).length ∧ (placed time title description).length ≤ 3 := by
  cases title <;> cases description <;> simp [placed]

end

theorem fields_changes {title description : Option String} (now : Instant)
    (given : ¬(title = none ∧ description = none)) :
    (changes now title description).fields = (placed now.text title description).map Prod.snd := by
  cases title <;> cases description <;> first | rfl | exact absurd ⟨rfl, rfl⟩ given

include valid in
theorem update_pool {title description : Option String} (now : Instant) (userId todoId : Int)
    (given : ¬(title = none ∧ description = none)) :
    update Pool.runner now userId todoId title description (s.pool rest) =
      Store.pooled rest (s.settle (s.changeTodo userId todoId (fun _ => true)
        (changed now.text title description))) := by
  have fields := fields_changes now given
  obtain ⟨present, few⟩ := length_placed now.text title description
  have found : Database.find .todos ⟨s.todos.map Todo.row, s.lastTodo⟩
      ⟨[.condition ⟨"id", .eq, .integer todoId⟩, .condition ⟨"user_id", .eq, .integer userId⟩]⟩ =
      .ok ((s.todos.filter fun t => t.id = todoId && t.userId = userId && true).map Todo.row) := by
    simp only [Bool.and_true]
    exact find_owned s userId todoId
  have some : (changes now title description).isEmpty = false := by
    rw [Record.isEmpty, fields, List.isEmpty_eq_false_iff, ← List.length_pos_iff, List.length_map]
    exact present
  have few : ((changes now title description).values ++
      [Scalar.integer todoId, Scalar.integer userId]).length ≤ Pool.valueLimit := by
    rw [List.length_append, Record.values, fields, List.length_map, List.length_map,
      List.length_cons, List.length_singleton, Pool.valueLimit]
    omega
  have done : Executor.update Pool.runner "todos" (changes now title description)
      ⟨[.condition ⟨"id", .eq, .integer todoId⟩, .condition ⟨"user_id", .eq, .integer userId⟩]⟩
      (s.pool rest) = _ :=
    Executor.update_pool some ⟨_, List.mem_cons_self, .condition _⟩ few
      (update_todo valid found fields (dataPosition_placed _ title description)
        (fun t _ => assignAll_placed _ title description t) fun _ => ⟨rfl, rfl⟩)
  simp only [update, owned_eq, Todo.table, done]
  rfl

/-! ## Flags -/

theorem completion_pool (userId todoId : Int) :
    completion Pool.runner userId todoId (s.pool rest) =
      (.ok (s.flag? userId todoId), s.pool rest) := by
  have answer : flagOf ((s.todos.filter fun t => t.id = todoId && t.userId = userId).map fun t =>
      ⟨[("completed", .integer (if t.completed then 1 else 0))]⟩) =
      .ok (s.flag? userId todoId) := by
    rw [Store.flag?, Store.todo?, ← List.head?_filter]
    cases s.todos.filter (fun t => t.id = todoId && t.userId = userId) with
    | nil => rfl
    | cons t others =>
      obtain ⟨id, title, description, completed, userId, createdAt, updatedAt⟩ := t
      cases completed <;> rfl
  have selected : Executor.select Pool.runner "todos" ["completed"]
      ⟨[.condition ⟨"id", .eq, .integer todoId⟩, .condition ⟨"user_id", .eq, .integer userId⟩]⟩
      (s.pool rest) = _ := Executor.select_pool (Nat.le_of_ble_eq_true rfl)
  rw [select_completed (find_owned s userId todoId)] at selected
  rw [completion, owned_eq, Todo.table]
  simp only [selected]
  rw [← answer]
  rfl

theorem isCompleted_pool (userId todoId : Int) :
    isCompleted Pool.runner userId todoId (s.pool rest) =
      (.ok ((s.flag? userId todoId).getD false), s.pool rest) := by
  rw [isCompleted, completion_pool]
  rfl

theorem seen_eq (userId todoId : Int) (seen : Bool) :
    orFilter (((FilterBuilder.empty.eq "id" (.integer todoId)).eq "user_id" (.integer userId)).eq
      "completed" (.bool seen)).build =
      .ok ⟨[.condition ⟨"id", .eq, .integer todoId⟩, .condition ⟨"user_id", .eq, .integer userId⟩,
        .condition ⟨"completed", .eq, .bool seen⟩]⟩ := rfl

include valid in
theorem flip_pool (now : Instant) (userId todoId : Int) (seen : Bool) :
    flip Pool.runner now userId todoId seen (s.pool rest) =
      Store.pooled rest (s.settle (s.changeTodo userId todoId (·.completed = seen)
        (Todo.flipped seen now.text))) := by
  have fields : (Record.ofList
      [("completed", .bool !seen), ("updated_at", .text now.text)]).fields =
      ([(3, "completed", .bool !seen), (6, "updated_at", .text now.text)] : Placed).map Prod.snd :=
    rfl
  have named : ∀ x ∈ ([(3, "completed", .bool !seen), (6, "updated_at", .text now.text)] : Placed),
      dataPosition .todos x.2.1 = .ok x.1 := by
    have columns : dataPosition .todos "completed" = .ok 3 ∧
      dataPosition .todos "updated_at" = .ok 6 := ⟨rfl, rfl⟩
    simp [columns]
  have assigned : ∀ t : Todo, decide (t.completed = seen) = true →
      assignAll .todos [(3, .bool !seen), (6, .text now.text)] t.row =
        .ok (Todo.row (t.flipped seen now.text)) := fun _ _ => rfl
  have done : Executor.update Pool.runner "todos"
      (.ofList [("completed", .bool !seen), ("updated_at", .text now.text)])
      ⟨[.condition ⟨"id", .eq, .integer todoId⟩, .condition ⟨"user_id", .eq, .integer userId⟩,
        .condition ⟨"completed", .eq, .bool seen⟩]⟩ (s.pool rest) = _ :=
    Executor.update_pool rfl ⟨_, List.mem_cons_self, .condition _⟩ (Nat.le_of_ble_eq_true rfl)
      (update_todo valid (find_seen s userId todoId seen) fields named assigned
        fun _ => ⟨rfl, rfl⟩)
  simp only [flip, seen_eq, Todo.table, done]
  rfl

/-- What one more statement of a toggle does. A write finds the flag as it was seen, or the toggle
goes back to reading. -/
def Toggle.effect (now : Instant) (userId todoId : Int) (t : Toggle) (s : Store) : Toggle × Store :=
  match t with
  | .reading =>
    (match s.flag? userId todoId with
      | some seen => .writing seen
      | none => .done (.error (.notFound "todo" todoId)), s)
  | .writing seen =>
    if s.flag? userId todoId = some seen then
      (.done (.ok !seen),
        s.after (s.changeTodo userId todoId (·.completed = seen) (Todo.flipped seen now.text)))
    else (.reading, s)
  | .done answer => (.done answer, s)

include valid in
theorem Toggle.step_pool (now : Instant) (userId todoId : Int) (t : Toggle) :
    t.step Pool.runner now userId todoId (s.pool rest) =
      ((t.effect now userId todoId s).1, (t.effect now userId todoId s).2.pool rest) := by
  cases t with
  | reading =>
    rw [step, completion_pool, effect]
    cases s.flag? userId todoId <;> rfl
  | writing seen =>
    rw [step, flip_pool valid, effect]
    by_cases still : s.flag? userId todoId = some seen
    · obtain ⟨s', changed, _⟩ := Store.changeTodo_of_flag valid now.text still
      rw [if_pos still, changed]
      rfl
    · rw [if_neg still, Store.changeTodo_of_flag_ne _ still]
      rfl
  | done answer => rfl

/-- What a toggle alone answers, and what it leaves behind. -/
def toggled (now : Instant) (userId todoId : Int) (s : Store) : Except ServiceError Bool × Store :=
  match s.flag? userId todoId with
  | none => (.error (.notFound "todo" todoId), s)
  | some seen =>
    (.ok !seen,
      s.after (s.changeTodo userId todoId (·.completed = seen) (Todo.flipped seen now.text)))

include valid in
theorem toggle_pool (now : Instant) (userId todoId : Int) :
    toggle Pool.runner now userId todoId (s.pool rest) =
      Store.pooled rest (toggled now userId todoId s) := by
  rw [toggle, toggled, Toggle.run, Toggle.step_pool valid, Toggle.effect]
  cases found : s.flag? userId todoId with
  | none => rfl
  | some seen =>
    simp only [Toggle.run]
    rw [Toggle.step_pool valid, Toggle.effect, if_pos found]
    rfl

/-! ## Lists -/

/-- The pattern of the texts that contain another text, as it is written. -/
def pattern (text : String) : String := "%" ++ Sql.escapeLike text ++ "%"

/-- Whether a todo is listed for an owner and a status. -/
def isListed (userId : Int) (completed : Option Bool) (t : Todo) : Bool :=
  t.userId = userId && completed.all (t.completed = ·)

/-- Whether the title or the description of a todo is like a pattern. -/
def isLike (pattern : String) (t : Todo) : Bool :=
  Text.isLike pattern t.title || t.description.any (Text.isLike pattern)

/-- The todos that a search lists. A pattern that is too long is refused at the first todo that it
would be compared with. -/
def listed (s : Store) (userId : Int) (completed : Option Bool) (search : Option String) :
    Except ServiceError (List Todo) :=
  match wanted search with
  | none => .ok (s.todos.filter (isListed userId completed))
  | some text =>
    if Like.patternLimit < (pattern text).utf8ByteSize ∧
        s.todos.any (isListed userId completed) = true then
      .error (.query (.storage patternTooComplex))
    else
      .ok (s.todos.filter fun t => isListed userId completed t && isLike (pattern text) t)

/-- The conditions on owner and status. -/
def scope (userId : Int) (completed : Option Bool) : List Node :=
  .condition ⟨"user_id", .eq, .integer userId⟩ ::
    (completed.map fun flag => .condition ⟨"completed", .eq, .bool flag⟩).toList

/-- The choice between title and description. -/
def choice (text : String) : Node :=
  .group .or [.condition ⟨"title", .like, .text (pattern text)⟩,
    .condition ⟨"description", .like, .text (pattern text)⟩]

theorem listing_eq (userId : Int) (completed : Option Bool) (search : Option String) :
    orFilter (listing userId completed search).build =
      .ok ⟨scope userId completed ++ ((wanted search).map choice).toList⟩ := by
  rw [listing]
  cases wanted search <;> cases completed <;> rfl

theorem accepts_scope (userId : Int) (completed : Option Bool) (t : Todo) (others : List Node) :
    Filter.accepts (conditionTruth .todos t.row) ⟨scope userId completed ++ others⟩ =
      if isListed userId completed t then
        Filter.accepts (conditionTruth .todos t.row) ⟨others⟩
      else .ok false := by
  rw [scope, List.cons_append, accepts_cons (truth_todo_userId t userId), isListed]
  cases completed with
  | none => cases decide (t.userId = userId) <;> rfl
  | some flag =>
    rw [Option.map_some, Option.toList_some, List.singleton_append,
      accepts_cons (truth_todo_completed t flag)]
    cases decide (t.userId = userId) <;> rfl

theorem accepts_choice {text : String} (t : Todo)
    (short : (pattern text).utf8ByteSize ≤ Like.patternLimit) :
    Filter.accepts (conditionTruth .todos t.row) ⟨[choice text]⟩ =
      .ok (isLike (pattern text) t) := by
  have title := truth_todo_title t (pattern text)
  have description := truth_todo_description t (pattern text)
  rw [if_neg (Nat.not_lt.2 short)] at title description
  rw [choice, accepts_either title description, isLike]
  cases Text.isLike (pattern text) t.title <;> cases t.description with
  | none => rfl
  | some d => cases found : Text.isLike (pattern text) d <;> simp [found, Truth.ofBool]

theorem accepts_choice_of_long {text : String} (t : Todo)
    (long : Like.patternLimit < (pattern text).utf8ByteSize) :
    Filter.accepts (conditionTruth .todos t.row) ⟨[choice text]⟩ = .error patternTooComplex := by
  have title := truth_todo_title t (pattern text)
  rw [if_pos long] at title
  exact accepts_either_error title

theorem list_pool (userId : Int) (completed : Option Bool) (search : Option String) :
    list Pool.runner userId completed search (s.pool rest) =
      (listed s userId completed search, s.pool rest) := by
  rw [list, listing_eq, listed]
  cases asked : wanted search with
  | none =>
    have found : Database.find .todos ⟨s.todos.map Todo.row, s.lastTodo⟩
        ⟨scope userId completed ++ []⟩ =
        .ok ((s.todos.filter (isListed userId completed)).map Todo.row) := by
      refine find_todos ?_ fun t _ => ?_
      · cases completed
        · exact checkFields_of_columns .todos (rfl : _ = ["user_id"]) (by decide)
        · exact checkFields_of_columns .todos (rfl : _ = ["user_id", "completed"]) (by decide)
      · rw [accepts_scope, accepts_nil]
        cases isListed userId completed t <;> simp
    exact fetch_pool (by cases completed <;> exact Nat.le_of_ble_eq_true rfl) found
  | some text =>
    have named : checkFields .todos ⟨scope userId completed ++ [choice text]⟩ = .ok () := by
      cases completed
      · exact checkFields_of_columns .todos (rfl : _ = ["user_id", "title", "description"])
          (by decide)
      · exact checkFields_of_columns .todos
          (rfl : _ = ["user_id", "completed", "title", "description"]) (by decide)
    have few : (Filter.values ⟨scope userId completed ++ [choice text]⟩).length ≤
        Pool.valueLimit := by
      cases completed <;> exact Nat.le_of_ble_eq_true rfl
    by_cases long : Like.patternLimit < (pattern text).utf8ByteSize
    · have found : Database.find .todos ⟨s.todos.map Todo.row, s.lastTodo⟩
          ⟨scope userId completed ++ [choice text]⟩ =
          if s.todos.any (isListed userId completed) then .error patternTooComplex else .ok [] := by
        refine find_todos_error named fun t _ => ?_
        rw [accepts_scope, accepts_choice_of_long t long]
      by_cases some : s.todos.any (isListed userId completed) = true
      · rw [if_pos some] at found
        simp only [long, some, and_self, if_true]
        exact fetch_pool_of_refused few found
      · have none : (s.todos.filter fun t =>
            isListed userId completed t && isLike (pattern text) t) = [] := by
          rw [Bool.not_eq_true, List.any_eq_false] at some
          rw [List.filter_eq_nil_iff]
          intro t mem
          rw [Bool.and_eq_true, not_and]
          exact fun here => absurd here (some t mem)
        have nothing : Database.find .todos ⟨s.todos.map Todo.row, s.lastTodo⟩
            ⟨scope userId completed ++ [choice text]⟩ = .ok (([] : List Todo).map Todo.row) :=
          found.trans (if_neg some)
        simp only [Bool.not_eq_true] at some
        simp only [some, Bool.false_eq_true, and_false, if_false, none]
        exact fetch_pool few nothing
    · have found : Database.find .todos ⟨s.todos.map Todo.row, s.lastTodo⟩
          ⟨scope userId completed ++ [choice text]⟩ =
          .ok ((s.todos.filter fun t =>
            isListed userId completed t && isLike (pattern text) t).map Todo.row) := by
        refine find_todos named fun t _ => ?_
        rw [accepts_scope, accepts_choice t (Nat.not_lt.1 long)]
        cases isListed userId completed t <;> simp
      simp only [long, false_and, if_false]
      exact fetch_pool few found

end Todos

end TodoServer
