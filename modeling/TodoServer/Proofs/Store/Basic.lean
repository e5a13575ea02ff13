import TodoServer.Service.Error
import TodoServer.Service.Todo
import TodoServer.Service.User
import TodoServer.Storage.Pool
import Mathlib.Data.List.Nodup

/-!
# Stores

A store is what the tables of users and todos hold, read as users and todos, with the last id that
each table issued. A database is filled with a store row by row. What the services do to a database
is said of its store, and the writes that storage allows are functions on stores.
-/

namespace TodoServer

open Storage

/-- The row that keeps an account. -/
def User.row (u : User) : Row :=
  ⟨u.id, [.text u.name, .text u.email, .text u.passwordHash, .text u.createdAt, .text u.updatedAt]⟩

/-- The row that keeps a todo. The flag is a number. -/
def Todo.row (t : Todo) : Row :=
  ⟨t.id, [.text t.title, (t.description.map Cell.text).getD .null,
    .integer (if t.completed then 1 else 0), .integer t.userId, .text t.createdAt,
    .text t.updatedAt]⟩

/-- The characters that checks and patterns see of a text: those before the first NUL. -/
def Text.untilNul (s : String) : List Char :=
  s.toList.takeWhile (· ≠ '\x00')

/-- Whether a text is like a pattern, as storage sees the two. -/
def Text.isLike (pattern text : String) : Bool :=
  Like.isMatch (untilNul pattern) (untilNul text)

/-- The first check that an account fails. -/
def User.fault? (u : User) : Option String :=
  if ¬(1 ≤ (Text.untilNul u.name).length ∧ (Text.untilNul u.name).length ≤ 100) then
    some "length(name) >= 1 AND length(name) <= 100"
  else if ¬3 ≤ (Text.untilNul u.email).length then some "length(email) >= 3"
  else none

/-- The first check that a todo fails. -/
def Todo.fault? (t : Todo) : Option String :=
  if ¬1 ≤ (Text.untilNul t.title).length then some "length(title) >= 1" else none

theorem User.fault?_eq_none_iff (u : User) :
    u.fault? = none ↔ (1 ≤ (Text.untilNul u.name).length ∧ (Text.untilNul u.name).length ≤ 100) ∧
      3 ≤ (Text.untilNul u.email).length := by
  rw [fault?]
  by_cases named : 1 ≤ (Text.untilNul u.name).length ∧ (Text.untilNul u.name).length ≤ 100 <;>
    by_cases mailed : 3 ≤ (Text.untilNul u.email).length <;> simp [named, mailed]

theorem Todo.fault?_eq_none_iff (t : Todo) :
    t.fault? = none ↔ 1 ≤ (Text.untilNul t.title).length := by
  rw [fault?]
  by_cases titled : 1 ≤ (Text.untilNul t.title).length <;> simp [titled]

/-! ## Ids -/

/-- At most one item meets a condition that only items with one key meet. -/
theorem filter_eq_of_nodup {α : Type} {key : α → Int} {xs : List α} (distinct : (xs.map key).Nodup)
    {p : α → Bool} {k : Int} (keyed : ∀ x, p x = true → key x = k) :
    xs.filter p = (xs.find? p).toList := by
  have apart : xs.Pairwise (key · ≠ key ·) := List.pairwise_map.1 distinct
  clear distinct
  induction xs with
  | nil => rfl
  | cons x rest ih =>
    obtain ⟨here, others⟩ := List.pairwise_cons.1 apart
    cases found : p x with
    | false => rw [List.filter_cons_of_neg (by simp [found]), List.find?_cons, found, ih others]
    | true =>
      have none : rest.filter p = [] := by
        rw [List.filter_eq_nil_iff]
        intro y mem also
        exact here y mem ((keyed x found).trans (keyed y also).symm)
      rw [List.filter_cons_of_pos found, none, List.find?_cons, found]
      rfl

/-- Ids that a table issued: they ascend, and none lies above the last one issued. -/
structure Issued (ids : List Int) (last : Int) : Prop where
  ascending : ids.Pairwise (· < ·)
  le_last : ∀ id ∈ ids, id ≤ last
  last_nonneg : 0 ≤ last

namespace Issued

variable {ids ids' : List Int} {last : Int}

theorem nil : Issued [] 0 := ⟨.nil, by simp, Int.le_refl 0⟩

/-- Removing rows keeps the ids of the others issued. -/
theorem sublist (h : Issued ids last) (sub : ids'.Sublist ids) : Issued ids' last :=
  ⟨h.ascending.sublist sub, fun id mem => h.le_last id (sub.subset mem), h.last_nonneg⟩

/-- The next id is fresh. -/
theorem append_next (h : Issued ids last) : Issued (ids ++ [last + 1]) (last + 1) := by
  refine ⟨?_, ?_, ?_⟩
  · refine List.pairwise_append.2 ⟨h.ascending, List.pairwise_singleton _ _, ?_⟩
    intro id mem next same
    have bound := h.le_last id mem
    rw [List.mem_singleton.1 same]
    omega
  · intro id mem
    rcases List.mem_append.1 mem with old | new
    · have bound := h.le_last id old
      omega
    · exact Int.le_of_eq (List.mem_singleton.1 new)
  · have nonneg := h.last_nonneg
    omega

theorem next_notMem (h : Issued ids last) : last + 1 ∉ ids := by
  intro mem
  have bound := h.le_last _ mem
  omega

theorem nodup (h : Issued ids last) : ids.Nodup :=
  h.ascending.imp fun lt => Int.ne_of_lt lt

/-- Items with issued ids are told apart by their ids. -/
theorem eq_of_same {α : Type} {key : α → Int} {xs : List α} (h : Issued (xs.map key) last)
    {x y : α} (memX : x ∈ xs) (memY : y ∈ xs) (same : key x = key y) : x = y :=
  List.inj_on_of_nodup_map h.nodup memX memY same

/-- At most one item meets a condition that only items with one id meet. -/
theorem filter_eq {α : Type} {key : α → Int} {xs : List α} (h : Issued (xs.map key) last)
    {p : α → Bool} {id : Int} (keyed : ∀ x, p x = true → key x = id) :
    xs.filter p = (xs.find? p).toList :=
  filter_eq_of_nodup h.nodup keyed

end Issued

/-! ## Stores -/

/-- What the tables of users and todos hold, and the last id that each of them issued. -/
structure Store where
  users : List User
  todos : List Todo
  lastUser : Int
  lastTodo : Int
  deriving DecidableEq, Repr

namespace Store

def empty : Store := ⟨[], [], 0, 0⟩

/-- A database with its tables of users and todos filled by a store. -/
def fill (s : Store) (rest : Database) : Database :=
  { rest with
    users := some ⟨s.users.map User.row, s.lastUser⟩
    todos := some ⟨s.todos.map Todo.row, s.lastTodo⟩ }

/-- An open pool on a database that is filled by a store. -/
def pool (s : Store) (rest : Database) : Pool := .of (s.fill rest)

/-- The account of an id. -/
def user? (s : Store) (userId : Int) : Option User :=
  s.users.find? fun u => u.id = userId

/-- The todo of an id and an owner. -/
def todo? (s : Store) (userId todoId : Int) : Option Todo :=
  s.todos.find? fun t => t.id = todoId && t.userId = userId

/-- Whether an id is that of a user. -/
def hasUser (s : Store) (userId : Int) : Bool :=
  s.users.any (·.id = userId)

/-- A store that keeps all constraints of its tables. -/
structure Valid (s : Store) : Prop where
  userIds : Issued (s.users.map User.id) s.lastUser
  todoIds : Issued (s.todos.map Todo.id) s.lastTodo
  emails : s.users.Pairwise (·.email ≠ ·.email)
  owners : ∀ t ∈ s.todos, s.hasUser t.userId = true
  users : ∀ u ∈ s.users, u.fault? = none
  todos : ∀ t ∈ s.todos, t.fault? = none

theorem valid_empty : empty.Valid :=
  ⟨.nil, .nil, .nil, by simp [empty], by simp [empty], by simp [empty]⟩

theorem Valid.filter_user {s : Store} (valid : s.Valid) (userId : Int) :
    s.users.filter (·.id = userId) = (s.user? userId).toList :=
  valid.userIds.filter_eq fun _ chosen => of_decide_eq_true chosen

theorem Valid.filter_todo {s : Store} (valid : s.Valid) (userId todoId : Int) :
    s.todos.filter (fun t => t.id = todoId && t.userId = userId) =
      (s.todo? userId todoId).toList :=
  valid.todoIds.filter_eq fun _ chosen => of_decide_eq_true (Bool.and_eq_true_iff.1 chosen).1

/-! ## Writes

Each write that a service asks for, with what storage reports of it. -/

/-- No id is left to issue. -/
def idsExhausted : StorageError := .database "database or disk is full"

/-- A check fails. -/
def checkFailed (check : String) : StorageError := .conflict ("CHECK constraint failed: " ++ check)

/-- An email is taken. -/
def emailTaken : StorageError := .conflict "UNIQUE constraint failed: users.email"

/-- A todo has no owner. -/
def ownerMissing : StorageError := .conflict "FOREIGN KEY constraint failed"

/-- The constraints on an account beside other accounts. -/
def checkUser (others : List User) (u : User) : Except StorageError Unit :=
  match u.fault? with
  | some check => .error (checkFailed check)
  | none => if others.any (·.email = u.email) then .error emailTaken else .ok ()

/-- The constraints on a todo apart from that on its owner. -/
def checkTodo (t : Todo) : Except StorageError Unit :=
  match t.fault? with
  | some check => .error (checkFailed check)
  | none => .ok ()

/-- One more user, and its id. -/
def addUser (s : Store) (name email passwordHash time : String) :
    Except StorageError (Int × Store) := do
  if Database.keyLimit < s.lastUser + 1 then .error idsExhausted
  let user : User := ⟨s.lastUser + 1, name, email, passwordHash, time, time⟩
  checkUser s.users user
  .ok (user.id, { s with users := s.users ++ [user], lastUser := user.id })

/-- A change of one user, and how many users that touched. -/
def changeUser (s : Store) (userId : Int) (change : User → User) :
    Except StorageError (Nat × Store) :=
  match s.user? userId with
  | none => .ok (0, s)
  | some user => do
    checkUser (s.users.filter (·.id ≠ userId)) (change user)
    .ok (1, { s with users := s.users.map fun u => if u.id = userId then change user else u })

/-- The removal of a user with all that the user owns, and how many users that touched. -/
def dropUser (s : Store) (userId : Int) : Nat × Store :=
  ((s.user? userId).toList.length,
    { s with
      users := s.users.filter (·.id ≠ userId)
      todos := s.todos.filter (·.userId ≠ userId) })

/-- One more todo. Whether its owner exists is not looked at here. -/
def addTodo (s : Store) (userId : Int) (time : String) (new : NewTodo) :
    Except StorageError Store := do
  if Database.keyLimit < s.lastTodo + 1 then .error idsExhausted
  let todo : Todo := ⟨s.lastTodo + 1, new.title, new.description, false, userId, time, time⟩
  checkTodo todo
  .ok { s with todos := s.todos ++ [todo], lastTodo := todo.id }

/-- New todos of one owner, and the last id. -/
def addTodos (s : Store) (userId : Int) (time : String) (new : List NewTodo) :
    Except StorageError (Int × Store) := do
  let s ← new.foldlM (fun s new => s.addTodo userId time new) s
  if s.hasUser userId then .ok (s.lastTodo, s) else .error ownerMissing

/-- A change of one todo of an owner, if it meets a condition, and how many todos that touched. -/
def changeTodo (s : Store) (userId todoId : Int) (condition : Todo → Bool) (change : Todo → Todo) :
    Except StorageError (Nat × Store) :=
  match (s.todo? userId todoId).filter condition with
  | none => .ok (0, s)
  | some todo => do
    checkTodo (change todo)
    .ok (1, { s with todos := s.todos.map fun t => if t.id = todoId then change todo else t })

/-- The removal of one todo of an owner, and how many todos that touched. -/
def dropTodo (s : Store) (userId todoId : Int) : Nat × Store :=
  ((s.todo? userId todoId).toList.length,
    { s with todos := s.todos.filter fun t => !(t.id = todoId && t.userId = userId) })

end Store

end TodoServer
