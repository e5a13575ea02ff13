import TodoServer.Proofs.Store.Todos
import TodoServer.Proofs.Store.Users

/-!
# Operations on a store

Every operation of the services, carried out on a database that is filled by a valid store, has an
effect on the store: an answer and the store left behind. Apart from a toggle, an operation makes at
most one write.
-/

namespace TodoServer

open Storage

namespace Operation

/-- What an operation answers on a store and what it leaves behind. -/
def effect (moment : Moment) (operation : Operation) (s : Store) :
    Except ServiceError Outcome × Store :=
  match operation with
  | insertUser name email password =>
    shaped .id (s.settle
      (s.addUser name email (Auth.hashPassword password moment.salt) moment.now.text))
  | getUser userId => (.ok (.user (s.user? userId)), s)
  | findUser none none => (.error (.query (.expression .lookupWithoutKey)), s)
  | findUser name email => (.ok (.user (Users.lookedUp s name email)), s)
  | updateUser _ none none none => (.error (.query (.refused (.missingUpdateData "users"))), s)
  | updateUser userId name email password =>
    shaped .affected (s.settle (s.changeUser userId (Users.changed moment.now.text name email
      (password.map (Auth.hashPassword · moment.salt)))))
  | deleteUser userId => (.ok (.affected (s.dropUser userId).1), (s.dropUser userId).2)
  | authenticate email password => ((Users.credited s email password).map .account, s)
  | listTodos userId completed search =>
    ((Todos.listed s userId completed search).map .todos, s)
  | getTodo userId todoId => (.ok (.todo (s.todo? userId todoId)), s)
  | insertTodo userId new =>
    shaped .id (s.settle (s.addTodos userId moment.now.text [new]))
  | insertTodos _ [] => (.ok (.id 0), s)
  | insertTodos userId new =>
    if Pool.valueLimit < 6 * new.length then
      (.error (.query (.storage Executor.tooManyValues)), s)
    else shaped .id (s.settle (s.addTodos userId moment.now.text new))
  | updateTodo _ _ none none => (.error (.query (.refused (.missingUpdateData "todos"))), s)
  | updateTodo userId todoId title description =>
    shaped .affected (s.settle (s.changeTodo userId todoId (fun _ => true)
      (Todos.changed moment.now.text title description)))
  | isCompleted userId todoId => (.ok (.completed ((s.flag? userId todoId).getD false)), s)
  | toggle userId todoId => shaped .completed (Todos.toggled moment.now userId todoId s)
  | deleteTodo userId todoId =>
    (.ok (.affected (s.dropTodo userId todoId).1), (s.dropTodo userId todoId).2)

variable {s : Store} {rest : Database}

theorem effect_insertTodos (moment : Moment) (userId : Int) (first : NewTodo)
    (others : List NewTodo) :
    effect moment (insertTodos userId (first :: others)) s =
      if Pool.valueLimit < 6 * (first :: others).length then
        (.error (.query (.storage Executor.tooManyValues)), s)
      else shaped .id (s.settle (s.addTodos userId moment.now.text (first :: others))) :=
  rfl

/-- An operation on a database that is filled by a valid store has its effect on the store. -/
theorem run_pool (valid : s.Valid) (moment : Moment) (operation : Operation) :
    operation.run Pool.runner moment (s.pool rest) =
      Store.pooled rest (operation.effect moment s) := by
  cases operation with
  | insertUser name email password =>
    rw [run, Users.insert_pool valid]
    rfl
  | getUser userId =>
    rw [run, Users.get_pool]
    rfl
  | findUser name email =>
    by_cases absent : name = none ∧ email = none
    · obtain ⟨rfl, rfl⟩ := absent
      rfl
    · rw [run, Users.find_pool absent]
      cases name <;> cases email <;> first | rfl | exact absurd ⟨rfl, rfl⟩ absent
  | updateUser userId name email password =>
    by_cases absent : name = none ∧ email = none ∧ password = none
    · obtain ⟨rfl, rfl, rfl⟩ := absent
      rfl
    · rw [run, Users.update_pool valid _ _ _ absent]
      cases name <;> cases email <;> cases password <;>
        first | rfl | exact absurd ⟨rfl, rfl, rfl⟩ absent
  | deleteUser userId =>
    rw [run, Users.delete_pool valid]
    rfl
  | authenticate email password =>
    rw [run, Users.authenticate_pool]
    rfl
  | listTodos userId completed search =>
    rw [run, Todos.list_pool]
    rfl
  | getTodo userId todoId =>
    rw [run, Todos.get_pool]
    rfl
  | insertTodo userId new =>
    rw [run, Todos.insert_pool valid]
    rfl
  | insertTodos userId new =>
    cases new with
    | nil => rfl
    | cons first others =>
      rw [run, effect_insertTodos]
      by_cases many : Pool.valueLimit < 6 * (first :: others).length
      · rw [Todos.insertMany_pool_of_many moment.now userId many, if_pos many]
        rfl
      · rw [Todos.insertMany_pool valid moment.now userId (List.cons_ne_nil _ _)
          (Nat.not_lt.1 many), if_neg many]
        rfl
  | updateTodo userId todoId title description =>
    by_cases absent : title = none ∧ description = none
    · obtain ⟨rfl, rfl⟩ := absent
      rfl
    · rw [run, Todos.update_pool valid _ _ _ absent]
      cases title <;> cases description <;> first | rfl | exact absurd ⟨rfl, rfl⟩ absent
  | isCompleted userId todoId =>
    rw [run, Todos.isCompleted_pool]
    rfl
  | toggle userId todoId =>
    rw [run, Todos.toggle_pool valid]
    rfl
  | deleteTodo userId todoId =>
    rw [run, Todos.delete_pool valid]
    rfl

/-! ## Changes -/

/-- What is left behind by a write that changes the store in one of its ways, or is refused. -/
theorem change_after {α : Type} {written : Except StorageError (α × Store)}
    (changes : ∀ x, written = .ok x → s.Change x.2) : s.Change (s.after written) := by
  cases written with
  | error e => exact .none
  | ok x => exact changes x rfl

/-- An operation other than a toggle makes at most one write to a store. -/
theorem effect_change (valid : s.Valid) (moment : Moment) {operation : Operation}
    (single : ∀ userId todoId, operation ≠ .toggle userId todoId) :
    s.Change (operation.effect moment s).2 := by
  cases operation with
  | insertUser name email password => exact change_after fun x added => .of_addUser added
  | getUser | authenticate | listTodos | getTodo | isCompleted => exact .none
  | findUser name email => cases name <;> cases email <;> exact .none
  | updateUser userId name email password =>
    have one (hash : Option String) : s.Change
        (s.after (s.changeUser userId (Users.changed moment.now.text name email hash))) :=
      change_after fun x changed => .of_changeUser changed fun _ => rfl
    cases name <;> cases email <;> cases password <;> first | exact .none | exact one _
  | deleteUser userId => exact .userDropped userId
  | insertTodo userId new => exact change_after fun x added => .of_addTodos valid added
  | insertTodos userId new =>
    cases new with
    | nil => exact .none
    | cons first others =>
      rw [effect_insertTodos]
      split
      · exact .none
      · exact change_after fun x added => .of_addTodos valid added
  | updateTodo userId todoId title description =>
    have one : s.Change (s.after (s.changeTodo userId todoId (fun _ => true)
        (Todos.changed moment.now.text title description))) :=
      change_after fun x changed => .of_changeTodo changed fun _ => ⟨rfl, rfl, rfl⟩
    cases title <;> cases description <;> first | exact .none | exact one
  | toggle userId todoId => exact absurd rfl (single userId todoId)
  | deleteTodo userId todoId => exact .todoDropped userId todoId

end Operation

end TodoServer
