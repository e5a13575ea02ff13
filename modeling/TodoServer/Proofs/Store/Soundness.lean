import TodoServer.Proofs.Auth.Password
import TodoServer.Proofs.Service.Turns
import TodoServer.Proofs.Store.Reachable

/-!
# Errors that are never answered

Whatever callers ask for and in whatever order they take turns, all that the services stored can be
read back, statements that read, change or remove rows carry a condition, and an insertion that
succeeds reports an id. So the errors that would tell of the contrary are never answered.
-/

namespace TodoServer

open Storage

/-! ## What is promised -/

/-- Errors that tell of a row or a password that was stored and cannot be read, of a statement
without a condition, or of a stored row without an id. -/
def ServiceError.isInternal : ServiceError → Bool
  | malformedRow _ | malformedPassword | query (.insertFailed _) => true
  | query (.refused (.missingFilter _ _)) => true
  | _ => false

/-- Whether an operation is a change in which no field is given. -/
def Operation.changesNothing : Operation → Bool
  | updateUser _ none none none | updateTodo _ _ none none => true
  | _ => false

/-- The errors that can be answered to an operation. -/
structure Operation.MayFail (operation : Operation) (e : ServiceError) : Prop where
  outer : e.isInternal = false
  expression : ∀ f, e = .query (.expression f) → operation = .findUser none none
  missingData : ∀ table, e = .query (.refused (.missingUpdateData table)) →
    operation.changesNothing = true

/-- Whether every password can be checked against the one that is stored. -/
def User.IsCheckable (u : User) : Prop :=
  ∀ password, (Auth.verifyPassword? password u.passwordHash).isSome = true

/-- A command that reads, changes or removes rows has a condition on them. -/
def Command.IsConditioned : Command → Prop
  | select _ _ filter | update _ _ filter | delete _ filter => filter.HasCondition
  | insert .. | insertAll .. => True

/-- What holds of a run on an open pool. -/
structure Run.Faultless (run : Run Task Pool) : Prop where
  answers : ∀ task ∈ run.tasks, ∀ e, task.answer? = some (.error e) → task.operation.MayFail e
  /-- Accounts that are read are decoded, and their passwords can be checked. -/
  users : ∀ filter records, run.state.database.select User.table [] filter = .ok records →
    ∃ users, records.mapM User.ofRecord = .ok users ∧ ∀ u ∈ users, u.IsCheckable
  /-- Todos that are read are decoded. -/
  todos : ∀ filter records, run.state.database.select Todo.table [] filter = .ok records →
    ∃ todos, records.mapM Todo.ofRecord = .ok todos
  /-- What a next turn hands over has a condition. -/
  conditions : ∀ task ∈ run.tasks, ∀ moment, ∀ s ∈
    (task.step (Executor.noting Pool.runner) moment (run.state, [])).2.2, s.command.IsConditioned

/-! ## Passwords -/

/-- The accounts of a store have passwords that can be checked. -/
def Store.IsCheckable (s : Store) : Prop :=
  ∀ u ∈ s.users, u.IsCheckable

theorem Auth.isSome_verifyPassword? (stored password : String) (salt : List UInt8) :
    (verifyPassword? password (hashPassword stored salt)).isSome = true := by
  have positive : PasswordHash.standardIterations ≠ 0 := by decide
  have bounded : PasswordHash.standardIterations < UInt32.size := by decide
  rw [hashPassword, PasswordHash.fresh, verifyPassword?_text stored password salt positive bounded]
  rfl

namespace Store.IsCheckable

variable {s s' : Store}

theorem empty : Store.empty.IsCheckable := fun _ mem => absurd mem List.not_mem_nil

theorem of_users (checkable : s.IsCheckable) (same : s'.users ⊆ s.users) : s'.IsCheckable :=
  fun u mem => checkable u (same mem)

theorem after {α : Type} {written : Except StorageError (α × Store)} (checkable : s.IsCheckable)
    (writes : ∀ x, written = .ok x → x.2.IsCheckable) : (s.after written).IsCheckable := by
  cases written with
  | error e => exact checkable
  | ok x => exact writes x rfl

theorem addUser {name email password time : String} {salt : List UInt8} {x : Int × Store}
    (checkable : s.IsCheckable)
    (added : s.addUser name email (Auth.hashPassword password salt) time = .ok x) :
    x.2.IsCheckable := by
  obtain ⟨id, s'⟩ := x
  obtain ⟨-, -, rfl⟩ := Store.addUser_eq_ok added
  intro u mem
  rcases List.mem_append.1 mem with old | new
  · exact checkable u old
  · rw [List.mem_singleton.1 new]
    exact fun other => Auth.isSome_verifyPassword? password other salt

theorem changeUser {userId : Int} {change : User → User} {x : Nat × Store}
    (checkable : s.IsCheckable) (keeps : ∀ u : User, u.IsCheckable → (change u).IsCheckable)
    (changed : s.changeUser userId change = .ok x) : x.2.IsCheckable := by
  rw [Store.changeUser] at changed
  split at changed
  · cases changed
    exact checkable
  · next user found =>
    obtain ⟨_, _, done⟩ := bind_eq_ok_iff.1 changed
    cases done
    intro u mem
    obtain ⟨old, held, rfl⟩ := List.mem_map.1 mem
    split
    · exact keeps user (checkable user (List.mem_of_find?_eq_some found))
    · exact checkable old held

theorem addTodos {userId : Int} {time : String} {new : List NewTodo} {x : Int × Store}
    (checkable : s.IsCheckable) (added : s.addTodos userId time new = .ok x) :
    x.2.IsCheckable := by
  obtain ⟨id, s'⟩ := x
  obtain ⟨-, -, -, rfl⟩ := Store.addTodos_eq_ok added
  exact checkable

theorem changeTodo {userId todoId : Int} {condition : Todo → Bool} {change : Todo → Todo}
    {x : Nat × Store} (checkable : s.IsCheckable)
    (changed : s.changeTodo userId todoId condition change = .ok x) : x.2.IsCheckable := by
  obtain ⟨count, s'⟩ := x
  obtain ⟨-, -, rfl⟩ | ⟨_, -, -, -, rfl⟩ := Store.changeTodo_eq_ok changed
  all_goals exact checkable

end Store.IsCheckable

/-- A change of an account leaves its password or sets a new one. -/
theorem Users.isCheckable_changed (time : String) (name email password : Option String)
    (salt : List UInt8) {u : User} (checkable : u.IsCheckable) :
    (changed time name email (password.map (Auth.hashPassword · salt)) u).IsCheckable := by
  cases password with
  | none => exact checkable
  | some password => exact fun other => Auth.isSome_verifyPassword? password other salt

/-! ## Answers -/

namespace Operation

variable {operation : Operation} {s : Store}

theorem mayFail_storage (operation : Operation) (e : StorageError) :
    operation.MayFail (.query (.storage e)) := by
  constructor
  · rfl
  · intro f same
    cases same
  · intro table same
    cases same

theorem mayFail_notFound (operation : Operation) (entity : String) (id : Int) :
    operation.MayFail (.notFound entity id) := by
  constructor
  · rfl
  · intro f same
    cases same
  · intro table same
    cases same

theorem mayFail_expression (f : FilterError) :
    (findUser none none).MayFail (.query (.expression f)) := by
  constructor
  · rfl
  · intro _ _
    rfl
  · intro table same
    cases same

theorem mayFail_missingData (idle : operation.changesNothing = true) (table : String) :
    operation.MayFail (.query (.refused (.missingUpdateData table))) := by
  constructor
  · rfl
  · intro f same
    cases same
  · intro _ _
    exact idle

/-- A write fails because storage refuses it. -/
theorem mayFail_settle {α : Type} {written : Except StorageError (α × Store)}
    {shape : α → Outcome} {e : ServiceError}
    (failed : (shaped shape (s.settle written)).1 = .error e) : operation.MayFail e := by
  cases written with
  | error refusal =>
    cases failed
    exact mayFail_storage operation refusal
  | ok x => cases failed

/-- Credentials are checked without an error. -/
theorem exists_credited (checkable : s.IsCheckable) (email password : String) :
    ∃ id, Users.credited s email password = .ok id := by
  rw [Users.credited]
  split
  · exact ⟨none, rfl⟩
  · next u found =>
    have some := checkable u (List.mem_of_find?_eq_some found) password
    rw [Users.opened]
    split
    · next none =>
      rw [none] at some
      cases some
    · exact ⟨_, rfl⟩
    · exact ⟨_, rfl⟩

/-- The errors that an operation answers on a store whose passwords can be checked. -/
theorem mayFail_effect (checkable : s.IsCheckable) (moment : Moment) {e : ServiceError}
    (failed : (operation.effect moment s).1 = .error e) : operation.MayFail e := by
  cases operation with
  | insertUser | insertTodo => exact mayFail_settle failed
  | getUser | deleteUser | getTodo | isCompleted | deleteTodo => cases failed
  | findUser name email =>
    cases name <;> cases email <;> cases failed
    exact mayFail_expression _
  | updateUser userId name email password =>
    by_cases absent : name = none ∧ email = none ∧ password = none
    · obtain ⟨rfl, rfl, rfl⟩ := absent
      cases failed
      exact mayFail_missingData rfl _
    · cases name <;> cases email <;> cases password <;>
        first | exact mayFail_settle failed | exact absurd ⟨rfl, rfl, rfl⟩ absent
  | authenticate email password =>
    obtain ⟨id, found⟩ := exists_credited checkable email password
    rw [effect, found] at failed
    cases failed
  | listTodos userId completed search =>
    rw [effect, Todos.listed] at failed
    split at failed
    · cases failed
    · split at failed
      · cases failed
        exact mayFail_storage _ _
      · cases failed
  | insertTodos userId new =>
    cases new with
    | nil => cases failed
    | cons first others =>
      rw [effect_insertTodos] at failed
      split at failed
      · cases failed
        exact mayFail_storage _ _
      · exact mayFail_settle failed
  | updateTodo userId todoId title description =>
    by_cases absent : title = none ∧ description = none
    · obtain ⟨rfl, rfl⟩ := absent
      cases failed
      exact mayFail_missingData rfl _
    · cases title <;> cases description <;>
        first | exact mayFail_settle failed | exact absurd ⟨rfl, rfl⟩ absent
  | toggle userId todoId =>
    rw [effect, Todos.toggled] at failed
    split at failed
    · cases failed
      exact mayFail_notFound _ _ _
    · cases failed

/-- An operation leaves passwords that can be checked. -/
theorem isCheckable_effect (checkable : s.IsCheckable) (moment : Moment) (operation : Operation) :
    (operation.effect moment s).2.IsCheckable := by
  cases operation with
  | insertUser name email password => exact checkable.after fun x => checkable.addUser
  | getUser | authenticate | listTodos | getTodo | isCompleted => exact checkable
  | findUser name email => cases name <;> cases email <;> exact checkable
  | updateUser userId name email password =>
    have one (password : Option String) : (s.after (s.changeUser userId
        (Users.changed moment.now.text name email
          (password.map (Auth.hashPassword · moment.salt))))).IsCheckable :=
      checkable.after fun x => checkable.changeUser fun u =>
        Users.isCheckable_changed moment.now.text name email password moment.salt
    cases name <;> cases email <;> cases password <;> first | exact checkable | exact one _
  | deleteUser userId => exact checkable.of_users List.filter_sublist.subset
  | insertTodo userId new => exact checkable.after fun x => checkable.addTodos
  | insertTodos userId new =>
    cases new with
    | nil => exact checkable
    | cons first others =>
      rw [effect_insertTodos]
      split
      · exact checkable
      · exact checkable.after fun x => checkable.addTodos
  | updateTodo userId todoId title description =>
    have one : (s.after (s.changeTodo userId todoId (fun _ => true)
        (Todos.changed moment.now.text title description))).IsCheckable :=
      checkable.after fun x => checkable.changeTodo
    cases title <;> cases description <;> first | exact checkable | exact one
  | toggle userId todoId =>
    rw [effect, Todos.toggled]
    split
    · exact checkable
    · exact checkable.after fun x => checkable.changeTodo
  | deleteTodo userId todoId => exact checkable

end Operation

/-! ## Conditions -/

theorem Executor.command_of_mem_handed {d : Dialect} {command : Command} {s : Statement}
    (mem : s ∈ handed d command) : s.command = command := by
  rw [handed] at mem
  split at mem
  · next made =>
    obtain ⟨-, rfl⟩ := Statement.of_eq_ok_iff.1 made
    rw [List.mem_singleton.1 mem]
  · cases mem

namespace Operation

/-- The command that an operation opens with has a condition. -/
theorem isConditioned_opening {moment : Moment} {operation : Operation} {call : Executor.Call}
    {command : Command} (opens : operation.opening moment = some call)
    (asks : call.command? = some command) : command.IsConditioned := by
  have first (c : Condition) (others : List Node) : Filter.HasCondition ⟨.condition c :: others⟩ :=
    ⟨_, List.mem_cons_self, .condition c⟩
  cases operation with
  | insertUser | insertTodo =>
    cases opens
    cases asks
    trivial
  | insertTodos userId todos =>
    cases opens
    cases todos <;> cases asks
    trivial
  | findUser name email =>
    have either (c : Condition) (others : List Node) :
        Filter.HasCondition ⟨[.group .or (.condition c :: others)]⟩ :=
      ⟨_, List.mem_cons_self, .group .or List.mem_cons_self (.condition c)⟩
    cases name <;> cases email <;> cases opens <;> cases asks <;> exact either _ _
  | listTodos userId completed search =>
    rw [opening, Todos.listing_eq] at opens
    cases opens
    cases asks
    exact first _ _
  | getUser | updateUser | deleteUser | authenticate | getTodo | updateTodo | isCompleted | toggle
  | deleteTodo =>
    cases opens
    cases asks
    exact first _ _

theorem isConditioned_of_mem_opened {d : Dialect} (moment : Moment) (operation : Operation) :
    ∀ s ∈ operation.opened d moment, s.command.IsConditioned := by
  intro s mem
  rw [opened] at mem
  cases opens : operation.opening moment with
  | none =>
    rw [opens] at mem
    cases mem
  | some call =>
    rw [opens, Option.elim_some, Executor.Call.issued] at mem
    cases asks : call.command? with
    | none =>
      rw [asks] at mem
      cases mem
    | some command =>
      rw [asks] at mem
      exact Executor.command_of_mem_handed mem ▸ isConditioned_opening opens asks

end Operation

section

variable {σ : Type} (r : Runner σ)

theorem Todos.Toggle.isConditioned_of_mem_step (moment : Moment) (userId todoId : Int)
    (progress : Todos.Toggle) (state : σ) :
    ∀ s ∈ (progress.step (Executor.noting r) moment.now userId todoId (state, [])).2.2,
      s.command.IsConditioned := by
  intro s mem
  cases progress with
  | reading =>
    simp only [step, Operation.completion_noting] at mem
    exact Operation.isConditioned_of_mem_opened moment (.isCompleted userId todoId) s mem
  | writing seen =>
    simp only [step, flip] at mem
    split at mem
    · cases mem
    · next filter built =>
      cases built
      simp only [Executor.update, Executor.execute_noting, List.nil_append] at mem
      rw [Executor.command_of_mem_handed mem]
      exact ⟨_, List.mem_cons_self, .condition _⟩
  | done answer => cases mem

/-- Statements that a turn hands over have a condition, whatever the runner answers. -/
theorem Task.isConditioned_of_mem_step (moment : Moment) (task : Task) (state : σ) :
    ∀ s ∈ (task.step (Executor.noting r) moment (state, [])).2.2, s.command.IsConditioned := by
  cases task with
  | toggle userId todoId progress =>
    exact Todos.Toggle.isConditioned_of_mem_step r moment userId todoId progress state
  | single operation plain answer =>
    cases answer with
    | none =>
      simp only [step, Operation.issues_opened r moment plain]
      exact Operation.isConditioned_of_mem_opened moment operation
    | some answer => exact List.forall_mem_nil _

end

/-! ## Rows -/

/-- Items that all come from others by a function are the images of some of these. -/
theorem exists_map_eq_of_subset {α β : Type} {f : α → β} {xs : List α} {ys : List β}
    (all : ys ⊆ xs.map f) : ∃ some ⊆ xs, ys = some.map f := by
  induction ys with
  | nil => exact ⟨[], List.nil_subset _, rfl⟩
  | cons y rest ih =>
    obtain ⟨here, others⟩ := List.cons_subset.1 all
    obtain ⟨x, mem, rfl⟩ := List.mem_map.1 here
    obtain ⟨more, held, rfl⟩ := ih others
    exact ⟨x :: more, List.cons_subset.2 ⟨mem, held⟩, rfl⟩

namespace Storage.Database

variable {filter : Filter}

theorem exists_of_select_users {s : Store} {rest : Database} {records : List Record}
    (selected : (s.fill rest).select User.table [] filter = .ok records) :
    ∃ users ⊆ s.users, records = users.map User.record := by
  cases searched : find .users ⟨s.users.map User.row, s.lastUser⟩ filter with
  | error e =>
    rw [User.table, select_of_refused (resolve_users s rest) rfl searched] at selected
    cases selected
  | ok rows =>
    obtain ⟨users, held, rfl⟩ := exists_map_eq_of_subset (subset_of_find searched)
    rw [User.table, select_users searched] at selected
    cases selected
    exact ⟨users, held, rfl⟩

theorem exists_of_select_todos {s : Store} {rest : Database} {records : List Record}
    (selected : (s.fill rest).select Todo.table [] filter = .ok records) :
    ∃ todos ⊆ s.todos, records = todos.map Todo.record := by
  cases searched : find .todos ⟨s.todos.map Todo.row, s.lastTodo⟩ filter with
  | error e =>
    rw [Todo.table, select_of_refused (resolve_todos s rest) rfl searched] at selected
    cases selected
  | ok rows =>
    obtain ⟨todos, held, rfl⟩ := exists_map_eq_of_subset (subset_of_find searched)
    rw [Todo.table, select_todos searched] at selected
    cases selected
    exact ⟨todos, held, rfl⟩

end Storage.Database

/-! ## Runs -/

/-- Each error that a caller was answered is one that the operation can be answered. -/
def Task.IsAnswered (task : Task) : Prop :=
  ∀ e, task.answer? = some (.error e) → task.operation.MayFail e

namespace Task

variable {s : Store} {task : Task}

theorem isAnswered_ofOperation (operation : Operation) : (ofOperation operation).IsAnswered := by
  intro e answered
  cases operation <;> cases answered

theorem isAnswered_effect (checkable : s.IsCheckable) (moment : Moment)
    (answered : task.IsAnswered) : (task.effect moment s).1.IsAnswered := by
  intro e failed
  cases task with
  | toggle userId todoId progress =>
    cases progress with
    | reading =>
      simp only [effect, Todos.Toggle.effect] at failed
      split at failed
      · cases failed
      · cases failed
        exact Operation.mayFail_notFound _ _ _
    | writing seen =>
      simp only [effect, Todos.Toggle.effect] at failed
      split at failed <;> cases failed
    | done answer => exact answered e failed
  | single operation plain answer =>
    cases answer with
    | some answer => exact answered e failed
    | none => exact Operation.mayFail_effect checkable moment (Option.some.inj failed)

theorem isCheckable_effect (checkable : s.IsCheckable) (moment : Moment) (task : Task) :
    (task.effect moment s).2.IsCheckable := by
  cases task with
  | toggle userId todoId progress =>
    cases progress with
    | reading | done => exact checkable
    | writing seen =>
      rw [effect, Todos.Toggle.effect]
      split
      · exact checkable.after fun x => checkable.changeTodo
      · exact checkable
  | single operation plain answer =>
    cases answer with
    | some answer => exact checkable
    | none => exact Operation.isCheckable_effect checkable moment operation

end Task

namespace Run

/-- A run on the empty store leaves passwords that can be checked, and answers with errors that the
operations can be answered. -/
theorem isAnswered_follow (operations : List Operation) (schedule : List (Nat × Moment)) :
    let run := (start (operations.map Task.ofOperation) Store.empty).follow Task.effect schedule
    run.state.IsCheckable ∧ ∀ task ∈ run.tasks, task.IsAnswered := by
  refine follow_induction (motive := fun run : Run Task Store => run.state.IsCheckable ∧
    ∀ task ∈ run.tasks, task.IsAnswered) schedule ⟨.empty, ?_⟩ ?_
  · intro task mem
    obtain ⟨operation, -, rfl⟩ := List.mem_map.1 mem
    exact Task.isAnswered_ofOperation operation
  · rintro run caller task moment found ⟨checkable, answered⟩
    refine ⟨Task.isCheckable_effect checkable moment task, ?_⟩
    intro other mem
    rcases List.mem_or_eq_of_mem_set mem with old | rfl
    · exact answered other old
    · exact Task.isAnswered_effect checkable moment (answered task (List.mem_of_getElem? found))

end Run

/-- The errors that would tell of a mistake of the services are answered in no run from a new
database, whatever is asked for and in whatever order the statements of the callers are served. -/
theorem internal_errors_unreachable (now : Int) (operations : List Operation)
    (schedule : List (Nat × Moment)) :
    ((Run.start (operations.map Task.ofOperation) (Pool.fresh now)).follow
      (Task.step Pool.runner) schedule).Faultless := by
  obtain ⟨checkable, answered⟩ := Run.isAnswered_follow operations schedule
  rw [Run.follow_fresh]
  refine ⟨answered, ?_, ?_, ?_⟩
  · intro filter records selected
    obtain ⟨users, held, rfl⟩ := Database.exists_of_select_users selected
    exact ⟨users, User.mapM_ofRecord_record users, fun u mem => checkable u (held mem)⟩
  · intro filter records selected
    obtain ⟨todos, -, rfl⟩ := Database.exists_of_select_todos selected
    exact ⟨todos, Todo.mapM_ofRecord_record todos⟩
  · intro task _ moment
    exact Task.isConditioned_of_mem_step Pool.runner moment task _

end TodoServer
