import TodoServer.Proofs.Store.Reachable
import TodoServer.Proofs.Store.View

/-!
# Isolation of owners

An operation on todos depends on the todos of its caller, on whether the caller exists and on the
last id that was issued, and on nothing else that is stored. It leaves all accounts alone and the
todos of all others, and a todo of another user is to it as if there were none.
-/

namespace TodoServer

open Storage

/-! ## What an owner sees -/

namespace Operation

/-- The user in whose name an operation on todos is carried out. -/
def owner? : Operation → Option Int
  | listTodos userId _ _ => some userId
  | getTodo userId _ => some userId
  | insertTodo userId _ => some userId
  | insertTodos userId _ => some userId
  | updateTodo userId _ _ _ => some userId
  | isCompleted userId _ => some userId
  | toggle userId _ => some userId
  | deleteTodo userId _ => some userId
  | _ => none

/-- The todo that an operation is about, and what is answered when the caller has no such todo. -/
def missing? : Operation → Option (Int × Except ServiceError Outcome)
  | getTodo _ todoId => some (todoId, .ok (.todo none))
  | updateTodo _ todoId none none =>
    some (todoId, .error (.query (.refused (.missingUpdateData "todos"))))
  | updateTodo _ todoId _ _ => some (todoId, .ok (.affected 0))
  | isCompleted _ todoId => some (todoId, .ok (.completed false))
  | toggle _ todoId => some (todoId, .error (.notFound "todo" todoId))
  | deleteTodo _ todoId => some (todoId, .ok (.affected 0))
  | _ => none

end Operation

namespace Storage.Database

/-- The rows of the todos of a user. -/
def ownRows (db : Database) (userId : Int) : List Row :=
  (db.rowsOf .todos).filter (·.cell 4 = .integer userId)

/-- Databases that agree on the todos of a user, on whether the user exists and on the last id of a
todo. -/
structure AlikeFor (userId : Int) (a b : Database) : Prop where
  todos : a.ownRows userId = b.ownRows userId
  user : userId ∈ a.keysOf .users ↔ userId ∈ b.keysOf .users
  lastTodo : (a.table? .todos).map Table.lastKey = (b.table? .todos).map Table.lastKey

/-- All accounts are as before, and so are the todos of all but one user. -/
structure KeepsOthers (userId : Int) (before after : Database) : Prop where
  users : after.table? .users = before.table? .users
  todos : (after.rowsOf .todos).filter (·.cell 4 ≠ .integer userId) =
    (before.rowsOf .todos).filter (·.cell 4 ≠ .integer userId)

end Storage.Database

/-! ## Stores -/

namespace Store

/-- The todos of a user. -/
def owned (s : Store) (userId : Int) : List Todo := s.todos.filter (·.userId = userId)

/-- Stores that agree on the todos of a user, on whether the user exists and on the last id of a
todo. -/
structure AlikeFor (userId : Int) (s t : Store) : Prop where
  todos : s.owned userId = t.owned userId
  user : s.hasUser userId = t.hasUser userId
  lastTodo : s.lastTodo = t.lastTodo

/-- All accounts are as before, and so are the todos of all but one user. -/
structure KeepsOthers (userId : Int) (s s' : Store) : Prop where
  users : s'.users = s.users
  lastUser : s'.lastUser = s.lastUser
  todos : s'.todos.filter (·.userId ≠ userId) = s.todos.filter (·.userId ≠ userId)

theorem KeepsOthers.refl (userId : Int) (s : Store) : s.KeepsOthers userId s := ⟨rfl, rfl, rfl⟩

variable {s t : Store} {userId : Int}

theorem todo?_eq_find?_owned (s : Store) (userId todoId : Int) :
    s.todo? userId todoId = (s.owned userId).find? (·.id = todoId) := by
  rw [owned, List.find?_filter, todo?]
  exact List.find?_congr fun t _ => by rw [Bool.and_comm]; simp

theorem filter_isListed (s : Store) (userId : Int) (completed : Option Bool) (p : Todo → Bool) :
    s.todos.filter (fun t => Todos.isListed userId completed t && p t) =
      (s.owned userId).filter fun t => completed.all (t.completed = ·) && p t := by
  rw [owned, List.filter_filter]
  refine List.filter_congr fun t _ => ?_
  rw [Todos.isListed, Bool.and_comm (decide _), Bool.and_assoc, Bool.and_comm (decide _),
    Bool.and_assoc]

theorem any_isListed (s : Store) (userId : Int) (completed : Option Bool) :
    s.todos.any (Todos.isListed userId completed) =
      (s.owned userId).any fun t => completed.all (t.completed = ·) := by
  rw [owned, List.any_filter]
  rfl

namespace AlikeFor

variable (alike : AlikeFor userId s t)

include alike

theorem todo? (todoId : Int) : s.todo? userId todoId = t.todo? userId todoId := by
  rw [todo?_eq_find?_owned, todo?_eq_find?_owned, alike.todos]

theorem flag? (todoId : Int) : s.flag? userId todoId = t.flag? userId todoId := by
  rw [Store.flag?, Store.flag?, alike.todo?]

theorem listed (completed : Option Bool) (search : Option String) :
    Todos.listed s userId completed search = Todos.listed t userId completed search := by
  have rows (p : Todo → Bool) :
      s.todos.filter (fun x => Todos.isListed userId completed x && p x) =
        t.todos.filter fun x => Todos.isListed userId completed x && p x := by
    rw [filter_isListed, filter_isListed, alike.todos]
  have some : s.todos.any (Todos.isListed userId completed) =
      t.todos.any (Todos.isListed userId completed) := by
    rw [any_isListed, any_isListed, alike.todos]
  rw [Todos.listed, Todos.listed, some]
  cases Todos.wanted search with
  | none =>
    have all := rows fun _ => true
    simp only [Bool.and_true] at all
    exact congrArg Except.ok all
  | some text => simp only [rows]

end AlikeFor

/-! ## Writes -/

/-- Two writes with one result, which leave alike stores behind. -/
inductive WrittenAlike {α : Type} (userId : Int) :
    Except StorageError (α × Store) → Except StorageError (α × Store) → Prop
  | error (e : StorageError) : WrittenAlike userId (.error e) (.error e)
  | ok (x : α) {s t : Store} : AlikeFor userId s t → WrittenAlike userId (.ok (x, s)) (.ok (x, t))

theorem WrittenAlike.settle {α : Type} {x y : Except StorageError (α × Store)}
    (written : WrittenAlike userId x y) (alike : AlikeFor userId s t) :
    (s.settle x).1 = (t.settle y).1 ∧ AlikeFor userId (s.settle x).2 (t.settle y).2 := by
  cases written with
  | error e => exact ⟨rfl, alike⟩
  | ok x after => exact ⟨rfl, after⟩

theorem AlikeFor.addTodo (alike : AlikeFor userId s t) (time : String) (new : NewTodo) :
    (∃ e, s.addTodo userId time new = .error e ∧ t.addTodo userId time new = .error e) ∨
      ∃ s' t', s.addTodo userId time new = .ok s' ∧ t.addTodo userId time new = .ok t' ∧
        AlikeFor userId s' t' := by
  rw [Store.addTodo, Store.addTodo, alike.lastTodo]
  split
  · exact .inl ⟨_, rfl, rfl⟩
  · cases checked :
        checkTodo ⟨t.lastTodo + 1, new.title, new.description, false, userId, time, time⟩ with
    | error e => exact .inl ⟨e, by simp only [checked, bind, Except.bind],
        by simp only [checked, bind, Except.bind]⟩
    | ok _ =>
      simp only [checked, bind, Except.bind]
      refine .inr ⟨_, _, rfl, rfl, ⟨?_, alike.user, ?_⟩⟩
      · rw [owned, owned, List.filter_append, List.filter_append]
        exact congrArg (· ++ _) alike.todos
      · rfl

theorem AlikeFor.addTodos (alike : AlikeFor userId s t) (time : String) (new : List NewTodo) :
    WrittenAlike userId (s.addTodos userId time new) (t.addTodos userId time new) := by
  rw [Store.addTodos, Store.addTodos]
  induction new generalizing s t with
  | nil =>
    simp only [List.foldlM_nil, bind, Except.bind, pure, Except.pure, alike.user, alike.lastTodo]
    split
    · exact .ok _ alike
    · exact .error _
  | cons first others ih =>
    rw [List.foldlM_cons, List.foldlM_cons]
    rcases alike.addTodo time first with ⟨e, left, right⟩ | ⟨s', t', left, right, later⟩
    · rw [left, right]
      exact .error e
    · rw [left, right]
      exact ih later

/-- The todos that meet a condition, when one is replaced by one that meets it likewise. -/
theorem filter_replaced (valid : s.Valid) {old new : Todo} (held : old ∈ s.todos)
    {p : Todo → Bool} (same : p new = p old) :
    (s.todos.map fun x => if x.id = old.id then new else x).filter p =
      (s.todos.filter p).map fun x => if x.id = old.id then new else x := by
  rw [List.filter_map]
  refine congrArg (List.map _) (List.filter_congr fun x mem => ?_)
  by_cases found : x.id = old.id
  · rw [valid.todoIds.eq_of_same mem held found, Function.comp_apply, if_pos rfl, same]
  · rw [Function.comp_apply, if_neg found]

theorem AlikeFor.changeTodo (alike : AlikeFor userId s t) (validS : s.Valid) (validT : t.Valid)
    (todoId : Int) (condition : Todo → Bool) {change : Todo → Todo}
    (keeps : ∀ x, (change x).userId = x.userId) :
    WrittenAlike userId (s.changeTodo userId todoId condition change)
      (t.changeTodo userId todoId condition change) := by
  have sought := alike.todo? todoId
  rw [Store.changeTodo, Store.changeTodo, sought]
  cases found : (t.todo? userId todoId).filter condition with
  | none => exact .ok 0 alike
  | some todo =>
    have right := (Option.filter_eq_some_iff.1 found).1
    have left := sought.trans right
    obtain ⟨heldT, rfl, _⟩ := mem_of_todo? right
    obtain ⟨heldS, _, _⟩ := mem_of_todo? left
    simp only [bind, Except.bind]
    cases checkTodo (change todo) with
    | error e => exact .error e
    | ok _ =>
      refine .ok 1 ⟨?_, alike.user, alike.lastTodo⟩
      have same : decide ((change todo).userId = userId) = decide (todo.userId = userId) := by
        rw [keeps]
      have before := filter_replaced (p := fun x => x.userId = userId) validS heldS same
      have after := filter_replaced (p := fun x => x.userId = userId) validT heldT same
      exact (before.trans (congrArg (List.map _) alike.todos)).trans after.symm

theorem AlikeFor.toggled (alike : AlikeFor userId s t) (validS : s.Valid) (validT : t.Valid)
    (now : Instant) (todoId : Int) :
    (Todos.toggled now userId todoId s).1 = (Todos.toggled now userId todoId t).1 ∧
      AlikeFor userId (Todos.toggled now userId todoId s).2
        (Todos.toggled now userId todoId t).2 := by
  rw [Todos.toggled, Todos.toggled, alike.flag?]
  cases t.flag? userId todoId with
  | none => exact ⟨rfl, alike⟩
  | some seen =>
    have written : WrittenAlike userId
        (s.changeTodo userId todoId (·.completed = seen) (Todo.flipped seen now.text))
        (t.changeTodo userId todoId (·.completed = seen) (Todo.flipped seen now.text)) :=
      alike.changeTodo validS validT todoId _ fun _ => rfl
    exact ⟨rfl, (written.settle alike).2⟩

theorem AlikeFor.dropTodo (alike : AlikeFor userId s t) (todoId : Int) :
    (s.dropTodo userId todoId).1 = (t.dropTodo userId todoId).1 ∧
      AlikeFor userId (s.dropTodo userId todoId).2 (t.dropTodo userId todoId).2 := by
  have kept (x : Store) : (x.dropTodo userId todoId).2.owned userId =
      (x.owned userId).filter fun t => !(t.id = todoId && t.userId = userId) := by
    rw [owned, owned, Store.dropTodo, List.filter_filter, List.filter_filter]
    exact List.filter_congr fun _ _ => Bool.and_comm _ _
  refine ⟨?_, ?_, alike.user, alike.lastTodo⟩
  · rw [Store.dropTodo, Store.dropTodo, alike.todo?]
  · rw [kept, kept, alike.todos]

/-! ## Others -/

namespace KeepsOthers

theorem after {α : Type} {written : Except StorageError (α × Store)}
    (keeps : ∀ x, written = .ok x → s.KeepsOthers userId x.2) :
    s.KeepsOthers userId (s.after written) := by
  cases written with
  | error e => exact .refl userId s
  | ok x => exact keeps x rfl

theorem addTodos {time : String} {new : List NewTodo} {x : Int × Store}
    (added : s.addTodos userId time new = .ok x) : s.KeepsOthers userId x.2 := by
  obtain ⟨_, _, _, stored⟩ := addTodos_eq_ok added
  have owned := (newTodos_spec userId time s.lastTodo new).1
  have none : (newTodos userId time s.lastTodo new).filter (·.userId ≠ userId) = [] := by
    rw [List.filter_eq_nil_iff]
    intro t mem
    simp [(owned t mem).1]
  rw [stored]
  refine ⟨rfl, rfl, ?_⟩
  rw [List.filter_append, none, List.append_nil]

theorem changeTodo (valid : s.Valid) {todoId : Int} {condition : Todo → Bool}
    {change : Todo → Todo} (keeps : ∀ x, (change x).userId = x.userId) {x : Nat × Store}
    (changed : s.changeTodo userId todoId condition change = .ok x) :
    s.KeepsOthers userId x.2 := by
  obtain ⟨_, _, same⟩ | ⟨todo, found, _, _, stored⟩ := changeTodo_eq_ok changed
  · rw [same]
    exact .refl userId s
  · obtain ⟨held, _, own⟩ := mem_of_todo? (Option.filter_eq_some_iff.1 found).1
    rw [stored]
    refine ⟨rfl, rfl, ?_⟩
    have apart : ∀ t ∈ s.todos.filter (·.userId ≠ userId),
        (if t.id = todo.id then change todo else t) = t := by
      intro t mem
      obtain ⟨stored, foreign⟩ := List.mem_filter.1 mem
      refine if_neg fun same => of_decide_eq_true foreign ?_
      rw [valid.todoIds.eq_of_same stored held same, own]
    rw [filter_replaced valid held (by rw [keeps])]
    exact (List.map_congr_left apart).trans (List.map_id' _)

theorem dropTodo (s : Store) (userId todoId : Int) :
    s.KeepsOthers userId (s.dropTodo userId todoId).2 := by
  refine ⟨rfl, rfl, ?_⟩
  rw [Store.dropTodo, List.filter_filter]
  refine List.filter_congr fun t _ => ?_
  by_cases own : t.userId = userId <;> simp [own]

end KeepsOthers

end Store

/-! ## Operations -/

namespace Operation

variable {s t : Store} {userId : Int} {operation : Operation}

/-- An operation answers its caller the same on alike stores and leaves alike stores behind. -/
theorem effect_alike (owner : operation.owner? = some userId) (alike : s.AlikeFor userId t)
    (validS : s.Valid) (validT : t.Valid) (moment : Moment) :
    (operation.effect moment s).1 = (operation.effect moment t).1 ∧
      (operation.effect moment s).2.AlikeFor userId (operation.effect moment t).2 := by
  -- Wrapping the result does not tell the two sides apart.
  have shape {α : Type} {shape : α → Outcome} {x y : Except ServiceError α × Store}
      (both : x.1 = y.1 ∧ x.2.AlikeFor userId y.2) :
      (shaped shape x).1 = (shaped shape y).1 ∧
        (shaped shape x).2.AlikeFor userId (shaped shape y).2 :=
    ⟨congrArg (Except.map shape) both.1, both.2⟩
  cases operation with
  | insertUser | getUser | findUser | updateUser | deleteUser | authenticate => cases owner
  | listTodos _ completed search =>
    cases owner
    exact ⟨congrArg (Except.map Outcome.todos) (alike.listed completed search), alike⟩
  | getTodo _ todoId =>
    cases owner
    exact ⟨by simp only [effect, alike.todo?], alike⟩
  | insertTodo _ new =>
    cases owner
    exact shape ((alike.addTodos moment.now.text [new]).settle alike)
  | insertTodos _ new =>
    cases owner
    cases new with
    | nil => exact ⟨rfl, alike⟩
    | cons first others =>
      rw [effect_insertTodos, effect_insertTodos]
      split
      · exact ⟨rfl, alike⟩
      · exact shape ((alike.addTodos moment.now.text (first :: others)).settle alike)
  | updateTodo _ todoId title description =>
    cases owner
    have written : Store.WrittenAlike userId
        (s.changeTodo userId todoId (fun _ => true)
          (Todos.changed moment.now.text title description))
        (t.changeTodo userId todoId (fun _ => true)
          (Todos.changed moment.now.text title description)) :=
      alike.changeTodo validS validT todoId _ fun _ => rfl
    cases title <;> cases description <;>
      first | exact ⟨rfl, alike⟩ | exact shape (written.settle alike)
  | isCompleted _ todoId =>
    cases owner
    exact ⟨by simp only [effect, alike.flag?], alike⟩
  | toggle _ todoId =>
    cases owner
    exact shape (alike.toggled validS validT moment.now todoId)
  | deleteTodo _ todoId =>
    cases owner
    obtain ⟨count, after⟩ := alike.dropTodo todoId
    exact ⟨by simp only [effect, count], after⟩

/-- An operation on todos leaves accounts and the todos of others alone. -/
theorem effect_keepsOthers (owner : operation.owner? = some userId) (valid : s.Valid)
    (moment : Moment) : s.KeepsOthers userId (operation.effect moment s).2 := by
  cases operation with
  | insertUser | getUser | findUser | updateUser | deleteUser | authenticate => cases owner
  | listTodos | getTodo | isCompleted => exact .refl userId s
  | insertTodo _ new =>
    cases owner
    exact .after fun _ => .addTodos
  | insertTodos _ new =>
    cases owner
    cases new with
    | nil => exact .refl userId s
    | cons first others =>
      rw [effect_insertTodos]
      split
      · exact .refl userId s
      · exact .after fun _ => .addTodos
  | updateTodo _ todoId title description =>
    cases owner
    have one : s.KeepsOthers userId (s.after (s.changeTodo userId todoId (fun _ => true)
        (Todos.changed moment.now.text title description))) :=
      .after fun _ changed => .changeTodo valid (fun _ => by rfl) changed
    cases title <;> cases description <;> first | exact .refl userId s | exact one
  | toggle _ todoId =>
    cases owner
    change s.KeepsOthers userId (Todos.toggled moment.now userId todoId s).2
    rw [Todos.toggled]
    split
    · exact .refl userId s
    · exact .after fun _ changed => .changeTodo valid (fun _ => by rfl) changed
  | deleteTodo _ todoId =>
    cases owner
    exact .dropTodo s userId todoId

/-- An operation on a todo that its caller does not have answers so and changes nothing. -/
theorem effect_missing (owner : operation.owner? = some userId) {todoId : Int}
    {absent : Except ServiceError Outcome} (missing : operation.missing? = some (todoId, absent))
    (none : s.todo? userId todoId = none) (moment : Moment) :
    operation.effect moment s = (absent, s) := by
  have unflagged : s.flag? userId todoId = .none := by rw [Store.flag?, none, Option.map_none]
  have unchanged (change : Todo → Todo) :
      s.changeTodo userId todoId (fun _ => true) change = .ok (0, s) :=
    Store.changeTodo_of_none none
  cases operation with
  | getTodo =>
    cases owner
    cases missing
    simp only [effect, none]
  | updateTodo _ _ title description =>
    cases owner
    cases title <;> cases description <;> cases missing <;>
      simp only [effect, unchanged, Store.settle, Store.reply, Store.after, shaped] <;> rfl
  | isCompleted =>
    cases owner
    cases missing
    simp only [effect, unflagged]
    rfl
  | toggle =>
    cases owner
    cases missing
    simp only [effect, Todos.toggled, unflagged]
    rfl
  | deleteTodo =>
    cases owner
    cases missing
    simp only [effect, Store.dropTodo_of_none none]
  | _ => cases missing

end Operation

/-! ## Databases -/

namespace Store

variable {s t : Store} (rest rest' : Database) {userId : Int}

theorem ownRows_fill : (s.fill rest).ownRows userId = (s.owned userId).map Todo.row := by
  rw [Database.ownRows, rowsOf_todos, Todo.filter_owner_row, owned]

theorem alikeFor_fill :
    (s.fill rest).AlikeFor userId (t.fill rest') ↔ s.AlikeFor userId t := by
  have users : (userId ∈ (s.fill rest).keysOf .users ↔ userId ∈ (t.fill rest').keysOf .users) ↔
      s.hasUser userId = t.hasUser userId := by
    rw [keysOf_users, keysOf_users, ← hasUser_iff, ← hasUser_iff]
    exact Bool.eq_iff_iff.symm
  constructor
  · rintro ⟨todos, user, lastTodo⟩
    rw [ownRows_fill, ownRows_fill] at todos
    exact ⟨(List.map_injective_iff.2 fun _ _ => Todo.row_inj) todos, users.1 user,
      Option.some_inj.1 lastTodo⟩
  · rintro ⟨todos, user, lastTodo⟩
    refine ⟨?_, users.2 user, congrArg some lastTodo⟩
    rw [ownRows_fill, ownRows_fill, todos]

theorem KeepsOthers.fill (keeps : s.KeepsOthers userId t) :
    (s.fill rest).KeepsOthers userId (t.fill rest) := by
  refine ⟨?_, ?_⟩
  · change some (⟨t.users.map User.row, t.lastUser⟩ : Table) =
      some ⟨s.users.map User.row, s.lastUser⟩
    rw [keeps.users, keeps.lastUser]
  · rw [rowsOf_todos, rowsOf_todos, Todo.filter_owner_row_ne, Todo.filter_owner_row_ne, keeps.todos]

theorem todo?_eq_none_of_notMem {todoId : Int}
    (absent : todoId ∉ ((s.fill rest).ownRows userId).map Row.key) :
    s.todo? userId todoId = none := by
  rw [ownRows_fill, List.map_map] at absent
  rw [todo?_eq_find?_owned, List.find?_eq_none]
  intro t mem same
  refine absent (List.mem_map.2 ⟨t, mem, ?_⟩)
  exact of_decide_eq_true same

end Store

/-- An operation on todos answers its caller the same on any two reachable databases that agree on
the todos of the caller, on whether the caller exists and on the last id of a todo. The databases
that it leaves behind agree again, and in each of them all accounts and the todos of others are as
they were. A todo that the caller does not have is answered in one way, whether or not it belongs to
somebody else. -/
theorem owners_isolated {a b : Database} (left : Reachable a) (right : Reachable b)
    {operation : Operation} {userId : Int} (owner : operation.owner? = some userId)
    (alike : a.AlikeFor userId b) (moment : Moment) :
    ∃ answer a' b',
      operation.run Pool.runner moment (.of a) = (answer, .of a') ∧
      operation.run Pool.runner moment (.of b) = (answer, .of b') ∧
      a'.AlikeFor userId b' ∧ a.KeepsOthers userId a' ∧ b.KeepsOthers userId b' ∧
      ∀ todoId absent, operation.missing? = some (todoId, absent) →
        todoId ∉ (a.ownRows userId).map Row.key → answer = absent ∧ a' = a := by
  obtain ⟨s, rest, validS, rfl⟩ := left.filled
  obtain ⟨t, rest', validT, rfl⟩ := right.filled
  have agree := (Store.alikeFor_fill rest rest').1 alike
  obtain ⟨same, after⟩ := Operation.effect_alike owner agree validS validT moment
  refine ⟨(operation.effect moment s).1, (operation.effect moment s).2.fill rest,
    (operation.effect moment t).2.fill rest', ?_, ?_, ?_, ?_, ?_, ?_⟩
  · exact Operation.run_pool validS moment operation
  · rw [same]
    exact Operation.run_pool validT moment operation
  · exact (Store.alikeFor_fill rest rest').2 after
  · exact (Operation.effect_keepsOthers owner validS moment).fill rest
  · exact (Operation.effect_keepsOthers owner validT moment).fill rest'
  · intro todoId absent missing foreign
    rw [Operation.effect_missing owner missing (Store.todo?_eq_none_of_notMem rest foreign) moment]
    exact ⟨rfl, rfl⟩

/-- Two databases that differ in a todo of Bob's. Ann's attempt to change it finds nothing in
either. -/
theorem attempt_on_foreign_todo :
    Reachable (sampleDatabase "Bread") ∧ Reachable (sampleDatabase "Cake") ∧
      sampleDatabase "Bread" ≠ sampleDatabase "Cake" ∧
      (Operation.updateTodo 1 2 (some "Mine") none).owner? = some 1 ∧
      (sampleDatabase "Bread").AlikeFor 1 (sampleDatabase "Cake") ∧
      ∃ answer a' b',
        (Operation.updateTodo 1 2 (some "Mine") none).run Pool.runner .sample
          (.of (sampleDatabase "Bread")) = (answer, .of a') ∧
        (Operation.updateTodo 1 2 (some "Mine") none).run Pool.runner .sample
          (.of (sampleDatabase "Cake")) = (answer, .of b') ∧
        a'.AlikeFor 1 b' ∧ (sampleDatabase "Bread").KeepsOthers 1 a' ∧
        (sampleDatabase "Cake").KeepsOthers 1 b' ∧
        ∀ todoId absent,
          (Operation.updateTodo 1 2 (some "Mine") none).missing? = some (todoId, absent) →
          todoId ∉ ((sampleDatabase "Bread").ownRows 1).map Row.key →
          answer = absent ∧ a' = sampleDatabase "Bread" := by
  have left : Reachable (sampleDatabase "Bread") := reachable_sampleDatabase (by decide +kernel)
  have right : Reachable (sampleDatabase "Cake") := reachable_sampleDatabase (by decide +kernel)
  have alike : (sampleDatabase "Bread").AlikeFor 1 (sampleDatabase "Cake") := by
    refine (Store.alikeFor_fill _ _).2 ⟨?_, rfl, rfl⟩
    rfl
  have differ : sampleDatabase "Bread" ≠ sampleDatabase "Cake" := by
    intro same
    have todos := congrArg (fun s : Store => s.todos.map Todo.title) (Store.fill_inj _ same)
    simp [Store.sample] at todos
  exact ⟨left, right, differ, rfl, alike, owners_isolated left right rfl alike .sample⟩

end TodoServer
