import TodoServer.Proofs.Service.ByText
import TodoServer.Proofs.Store.Batch
import TodoServer.Proofs.Store.Isolation

/-!
# Writes to one todo

A change, a toggle or a removal that reaches its todo touches the row of that todo alone, and one
that does not reach it touches nothing. The three ways of reading a todo agree before and after each
of them. All this holds of storage that is handed the commands of the service and of storage that is
handed nothing but their text and values.
-/

namespace TodoServer

open Storage

namespace Storage.Database

/-- The database with a todo in the place of the one of the same id. -/
def replaceTodo (db : Database) (t : Todo) : Database :=
  db.setTable .todos
    ⟨(db.rowsOf .todos).map fun row => if row.key = t.id then t.row else row,
      db.lastKeyOf .todos⟩

/-- The database without the todo of an id. -/
def removeTodo (db : Database) (todoId : Int) : Database :=
  db.setTable .todos ⟨(db.rowsOf .todos).filter (·.key ≠ todoId), db.lastKeyOf .todos⟩

end Storage.Database

namespace Store

variable {s : Store} {userId todoId : Int} {t new : Todo}

/-! ## One todo of a store -/

/-- The store with a todo in the place of the one of the same id. -/
def replaceTodo (s : Store) (t : Todo) : Store :=
  { s with todos := s.todos.map fun x => if x.id = t.id then t else x }

/-- The store without the todo of an id. -/
def removeTodo (s : Store) (todoId : Int) : Store :=
  { s with todos := s.todos.filter (·.id ≠ todoId) }

theorem fill_replaceTodo (rest : Database) (t : Todo) :
    (s.replaceTodo t).fill rest = (s.fill rest).replaceTodo t :=
  fill_todo_replaced rest t t

theorem fill_removeTodo (rest : Database) (todoId : Int) :
    (s.removeTodo todoId).fill rest = (s.fill rest).removeTodo todoId := by
  have rows : (s.todos.filter (·.id ≠ todoId)).map Todo.row =
      (s.todos.map Todo.row).filter (·.key ≠ todoId) := by
    rw [List.filter_map]
    rfl
  rw [Database.removeTodo, rowsOf_todos, ← rows]
  rfl

theorem replaceTodo_replaceTodo {u v : Todo} (same : u.id = v.id) :
    (s.replaceTodo u).replaceTodo v = s.replaceTodo v := by
  have once (x : Todo) : (if (if x.id = u.id then u else x).id = v.id then v
      else if x.id = u.id then u else x) = if x.id = v.id then v else x := by
    by_cases found : x.id = u.id
    · rw [if_pos found, if_pos same, if_pos (found.trans same)]
    · rw [if_neg found]
  simp only [replaceTodo, List.map_map, Function.comp_def, once]

section

variable (valid : s.Valid) (found : s.todo? userId todoId = some t)

include valid found

theorem valid_replaceTodo (same : new.id = t.id) (owner : new.userId = t.userId)
    (sound : new.fault? = none) : (s.replaceTodo new).Valid := by
  rw [replaceTodo, same]
  exact valid.todoReplaced (mem_of_todo? found).1 same owner sound

theorem todo?_replaceTodo (same : new.id = t.id) (owner : new.userId = t.userId) :
    (s.replaceTodo new).todo? userId todoId = some new := by
  have replaced := todo?_replaced same owner (mem_of_todo? found).1 valid userId todoId
  rw [replaceTodo, same, replaced, found, Option.map_some, if_pos rfl]

/-- The todo of an id is that of its owner. -/
theorem dropTodo_of_found : s.dropTodo userId todoId = (1, s.removeTodo todoId) := by
  obtain ⟨held, rfl, rfl⟩ := mem_of_todo? found
  have kept : s.todos.filter (fun x => !(x.id = t.id && x.userId = t.userId)) =
      s.todos.filter (·.id ≠ t.id) := by
    refine List.filter_congr fun x mem => ?_
    by_cases same : x.id = t.id
    · simp [valid.todoIds.eq_of_same mem held same]
    · simp [same]
  rw [dropTodo, found, kept]
  rfl

end

theorem todo?_removeTodo : (s.removeTodo todoId).todo? userId todoId = none := by
  rw [todo?, removeTodo, List.find?_eq_none]
  intro x mem
  simp [of_decide_eq_true (List.mem_filter.1 mem).2]

theorem valid_removeTodo (valid : s.Valid) (found : s.todo? userId todoId = some t) :
    (s.removeTodo todoId).Valid := by
  have dropped := valid.todoDropped userId todoId
  rw [dropTodo_of_found valid found] at dropped
  exact dropped

/-- A todo that is found and keeps its check is changed in its place. -/
theorem changeTodo_of_found {condition : Todo → Bool} {change : Todo → Todo}
    (found : s.todo? userId todoId = some t) (met : condition t = true)
    (same : (change t).id = t.id) (sound : (change t).fault? = none) :
    s.changeTodo userId todoId condition change = .ok (1, s.replaceTodo (change t)) := by
  obtain ⟨-, rfl, -⟩ := mem_of_todo? found
  rw [changeTodo, found, Option.filter_some, if_pos met]
  simp only [bind, Except.bind, checkTodo_eq_ok_iff.2 sound, replaceTodo, same]

theorem changeTodo_of_fault {change : Todo → Todo} {check : String}
    (found : s.todo? userId todoId = some t) (fault : (change t).fault? = some check) :
    s.changeTodo userId todoId (fun _ => true) change = .error (checkFailed check) := by
  rw [changeTodo, found, Option.filter_some, if_pos rfl]
  simp only [bind, Except.bind, checkTodo, fault]

end Store

namespace Todos

variable {s : Store} {userId todoId : Int} {t : Todo}

/-! ## What an owner is shown -/

/-- Whether a todo of an owner has the status and the text that a list asks for. -/
def isAskedFor (completed : Option Bool) (search : Option String) (t : Todo) : Bool :=
  completed.all (t.completed = ·) && (wanted search).all fun text => isLike (pattern text) t

/-- What the three ways of reading tell an owner of the todo of an id, which is as it stands in its
table. A list is refused only for a search text that is too long. -/
structure Shows (r : Runner Pool) (db : Database) (userId todoId : Int) (found : Option Todo) :
    Prop where
  held : ∀ t, found = some t ↔ t.row ∈ db.rowsOf .todos ∧ t.id = todoId ∧ t.userId = userId
  get : get r userId todoId (.of db) = (.ok found, .of db)
  isCompleted : isCompleted r userId todoId (.of db) =
    (.ok (found.elim false Todo.completed), .of db)
  list : ∀ completed search, ∃ answer,
    list r userId completed search (.of db) = (answer, .of db) ∧
      (∀ todos, answer = .ok todos →
        todos.filter (·.id = todoId) = (found.filter (isAskedFor completed search)).toList) ∧
      ((∀ text, wanted search = some text →
          (pattern text).utf8ByteSize ≤ Like.patternLimit) →
        ∃ todos, answer = .ok todos)

theorem eq_of_listed {completed : Option Bool} {search : Option String} {todos : List Todo}
    (answered : listed s userId completed search = .ok todos) :
    todos =
      s.todos.filter fun t => decide (t.userId = userId) && isAskedFor completed search t := by
  rw [listed] at answered
  cases sought : wanted search with
  | none =>
    rw [sought] at answered
    cases answered
    exact List.filter_congr fun t _ => by simp [isListed, isAskedFor, sought]
  | some text =>
    simp only [sought] at answered
    split at answered
    · cases answered
    · cases answered
      exact List.filter_congr fun t _ => by simp [isListed, isAskedFor, sought, Bool.and_assoc]

theorem listed_of_short {completed : Option Bool} {search : Option String}
    (short : ∀ text, wanted search = some text → (pattern text).utf8ByteSize ≤ Like.patternLimit) :
    ∃ todos, listed s userId completed search = .ok todos := by
  rw [listed]
  cases sought : wanted search with
  | none => exact ⟨_, rfl⟩
  | some text =>
    have fits := short text sought
    simp only [Nat.not_lt.2 fits, false_and, if_false]
    exact ⟨_, rfl⟩

/-- The todo of an owner in a store is what the owner is shown. -/
theorem shows_fill (valid : s.Valid) (rest : Database) (userId todoId : Int) :
    Shows Pool.runner (s.fill rest) userId todoId (s.todo? userId todoId) := by
  refine ⟨fun t => ?_, get_pool userId todoId, ?_, fun completed search => ?_⟩
  · rw [Store.mem_todos_iff]
    constructor
    · exact Store.mem_of_todo?
    · rintro ⟨held, rfl, rfl⟩
      exact valid.todo?_of_mem held
  · have read : isCompleted Pool.runner userId todoId (s.pool rest) = _ :=
      isCompleted_pool userId todoId
    rw [Store.flag?] at read
    refine read.trans ?_
    cases s.todo? userId todoId <;> rfl
  · refine ⟨_, list_pool userId completed search, fun todos answered => ?_, listed_of_short⟩
    have own := valid.filter_todo userId todoId
    rw [eq_of_listed answered, List.filter_filter, Option.toList_filter, ← own,
      List.filter_filter]
    refine List.filter_congr fun t _ => ?_
    rw [← Bool.and_assoc, Bool.and_comm]

theorem shows_replaceTodo (valid : s.Valid) (rest : Database) {new : Todo}
    (found : s.todo? userId todoId = some t) (same : new.id = t.id) (owner : new.userId = t.userId)
    (sound : new.fault? = none) :
    Shows Pool.runner ((s.fill rest).replaceTodo new) userId todoId (some new) := by
  have shown := shows_fill (Store.valid_replaceTodo valid found same owner sound) rest userId todoId
  rw [Store.todo?_replaceTodo valid found same owner, Store.fill_replaceTodo] at shown
  exact shown

/-! ## Toggles alone -/

theorem Toggle.run_done {σ : Type} (r : Runner σ) (now : Instant) (userId todoId : Int) (n : Nat)
    (answer : Except ServiceError Bool) (state : σ) :
    run r now userId todoId n (.done answer) state = (.done answer, state) := by
  induction n with
  | zero => rfl
  | succ n ih => exact ih

section

variable (valid : s.Valid) (found : s.todo? userId todoId = some t)

include valid found

/-- A toggle alone is over after it has read and written once. -/
theorem Toggle.run_of_found (rest : Database) (now : Instant) (more : Nat) :
    run Pool.runner now userId todoId (more + 2) .reading (.of (s.fill rest)) =
      (.done (.ok !t.completed),
        .of ((s.fill rest).replaceTodo (t.flipped t.completed now.text))) := by
  have flag : s.flag? userId todoId = some t.completed := by
    rw [Store.flag?, found, Option.map_some]
  have sound : (t.flipped t.completed now.text).fault? = none :=
    valid.todos t (Store.mem_of_todo? found).1
  have changed : s.changeTodo userId todoId (·.completed = t.completed)
      (Todo.flipped t.completed now.text) = _ :=
    Store.changeTodo_of_found found (decide_eq_true rfl) rfl sound
  have reads : reading.step Pool.runner now userId todoId (.of (s.fill rest)) = _ :=
    step_pool valid now userId todoId .reading
  have writes : (writing t.completed).step Pool.runner now userId todoId (.of (s.fill rest)) = _ :=
    step_pool valid now userId todoId (.writing t.completed)
  simp only [effect, flag] at reads
  simp only [effect, flag, if_true, changed, Store.after, Store.pool,
    Store.fill_replaceTodo] at writes
  rw [run, reads]
  simp only [Store.pool]
  rw [run, writes]
  exact run_done Pool.runner now userId todoId more _ _

theorem toggle_of_found (rest : Database) (now : Instant) :
    toggle Pool.runner now userId todoId (.of (s.fill rest)) =
      (.ok !t.completed, .of ((s.fill rest).replaceTodo (t.flipped t.completed now.text))) := by
  rw [toggle, Toggle.run_of_found valid found rest now 0]
  rfl

/-- Another toggle leaves nothing changed but the time. -/
theorem toggle_flipped (rest : Database) (now later : Instant) :
    toggle Pool.runner later userId todoId
        (.of ((s.fill rest).replaceTodo (t.flipped t.completed now.text))) =
      (.ok t.completed, .of ((s.fill rest).replaceTodo { t with updatedAt := later.text })) := by
  have sound : (t.flipped t.completed now.text).fault? = none :=
    valid.todos t (Store.mem_of_todo? found).1
  have back : (t.flipped t.completed now.text).flipped (!t.completed) later.text =
      { t with updatedAt := later.text } := by
    simp only [Todo.flipped, Bool.not_not]
  have kept : (s.replaceTodo (t.flipped t.completed now.text)).Valid :=
    Store.valid_replaceTodo valid found rfl rfl sound
  have again := toggle_of_found kept (Store.todo?_replaceTodo valid found rfl rfl) rest later
  have flag : (t.flipped t.completed now.text).completed = !t.completed := rfl
  have once : (s.replaceTodo (t.flipped t.completed now.text)).replaceTodo
      { t with updatedAt := later.text } = s.replaceTodo { t with updatedAt := later.text } :=
    Store.replaceTodo_replaceTodo rfl
  rw [flag, back, Bool.not_not, ← Store.fill_replaceTodo, once, Store.fill_replaceTodo,
    Store.fill_replaceTodo] at again
  exact again

end

/-! ## Writes -/

/-- What the writes of an owner to the todo of an id come to on a database, where that todo is found
or is not. -/
structure WritesExactly (r : Runner Pool) (db : Database) (now : Instant) (userId todoId : Int)
    (found : Option Todo) : Prop where
  shows : Shows r db userId todoId found
  /-- Without anything to change no statement is written. -/
  update_idle : update r now userId todoId none none (.of db) =
    (.error (.query (.refused (.missingUpdateData "todos"))), .of db)
  update_found : ∀ t, found = some t → ∀ title description,
    ¬(title = none ∧ description = none) →
    (∀ given, title = some given → 1 ≤ (Text.untilNul given).length) →
      update r now userId todoId title description (.of db) =
          (.ok 1, .of (db.replaceTodo (changed now.text title description t))) ∧
        Shows r (db.replaceTodo (changed now.text title description t)) userId todoId
          (some (changed now.text title description t))
  update_untitled : ∀ t, found = some t → ∀ given description,
    ¬1 ≤ (Text.untilNul given).length →
      ∃ detail, update r now userId todoId (some given) description (.of db) =
        (.error (.query (.storage (.conflict detail))), .of db)
  update_missing : found = none → ∀ title description, ¬(title = none ∧ description = none) →
    update r now userId todoId title description (.of db) = (.ok 0, .of db)
  /-- A toggle alone reads once and writes once, and another one turns the flag back. -/
  toggle_found : ∀ t, found = some t →
    (∀ more, Toggle.run r now userId todoId (more + 2) .reading (.of db) =
        (.done (.ok !t.completed), .of (db.replaceTodo (t.flipped t.completed now.text)))) ∧
      toggle r now userId todoId (.of db) =
        (.ok !t.completed, .of (db.replaceTodo (t.flipped t.completed now.text))) ∧
      Shows r (db.replaceTodo (t.flipped t.completed now.text)) userId todoId
        (some (t.flipped t.completed now.text)) ∧
      ∀ later, toggle r later userId todoId
            (.of (db.replaceTodo (t.flipped t.completed now.text))) =
          (.ok t.completed, .of (db.replaceTodo { t with updatedAt := later.text })) ∧
        Shows r (db.replaceTodo { t with updatedAt := later.text }) userId todoId
          (some { t with updatedAt := later.text })
  toggle_missing : found = none → toggle r now userId todoId (.of db) =
    (.error (.notFound "todo" todoId), .of db)
  delete_found : ∀ t, found = some t →
    delete r userId todoId (.of db) = (.ok 1, .of (db.removeTodo todoId)) ∧
      Shows r (db.removeTodo todoId) userId todoId none
  delete_missing : found = none →
    delete r userId todoId (.of db) = (.ok 0, .of db)

section

variable {db : Database} {found : Option Todo}

/-- A todo is shown the same where the service is answered from the text of its statements. -/
theorem Shows.byText (shown : Shows Pool.runner db userId todoId found) :
    Shows Pool.textRunner db userId todoId found where
  held := shown.held
  get := (get_textRunner _ userId todoId).trans shown.get
  isCompleted := (isCompleted_textRunner _ userId todoId).trans shown.isCompleted
  list completed search := by
    obtain ⟨answer, given, rest⟩ := shown.list completed search
    exact ⟨answer, (list_textRunner _ userId completed search).trans given, rest⟩

/-- Writes come to the same where they are carried out from the text of their statements. -/
theorem WritesExactly.byText {now : Instant}
    (writes : WritesExactly Pool.runner db now userId todoId found) :
    WritesExactly Pool.textRunner db now userId todoId found where
  shows := writes.shows.byText
  update_idle := (update_textRunner _ now userId todoId none none).trans writes.update_idle
  update_found t held title description given titled := by
    obtain ⟨done, shown⟩ := writes.update_found t held title description given titled
    exact ⟨(update_textRunner _ now userId todoId title description).trans done, shown.byText⟩
  update_untitled t held given description untitled := by
    obtain ⟨detail, refused⟩ := writes.update_untitled t held given description untitled
    exact ⟨detail, (update_textRunner _ now userId todoId _ description).trans refused⟩
  update_missing none title description given :=
    (update_textRunner _ now userId todoId title description).trans
      (writes.update_missing none title description given)
  toggle_found t held := by
    obtain ⟨runs, done, shown, again⟩ := writes.toggle_found t held
    refine ⟨fun more => (Toggle.run_textRunner _ now userId todoId _ _).trans (runs more),
      (toggle_textRunner _ now userId todoId).trans done, shown.byText, fun later => ?_⟩
    obtain ⟨back, shown⟩ := again later
    exact ⟨(toggle_textRunner _ later userId todoId).trans back, shown.byText⟩
  toggle_missing none :=
    (toggle_textRunner _ now userId todoId).trans (writes.toggle_missing none)
  delete_found t held := by
    obtain ⟨done, shown⟩ := writes.delete_found t held
    exact ⟨(delete_textRunner _ userId todoId).trans done, shown.byText⟩
  delete_missing none := (delete_textRunner _ userId todoId).trans (writes.delete_missing none)

end

theorem fault?_changed (time : String) (title description : Option String) (t : Todo) :
    (changed time title description t).fault? = none ↔
      1 ≤ (Text.untilNul (title.getD t.title)).length :=
  Todo.fault?_eq_none_iff _

theorem writesExactly (valid : s.Valid) (rest : Database) (now : Instant) (userId todoId : Int) :
    WritesExactly Pool.runner (s.fill rest) now userId todoId (s.todo? userId todoId) where
  shows := shows_fill valid rest userId todoId
  update_idle := rfl
  update_found t found title description given titled := by
    have sound : (changed now.text title description t).fault? = none := by
      rw [fault?_changed]
      cases title with
      | none => exact (Todo.fault?_eq_none_iff t).1 (valid.todos t (Store.mem_of_todo? found).1)
      | some title => exact titled title rfl
    have done : update Pool.runner now userId todoId title description (s.pool rest) = _ :=
      update_pool valid now userId todoId given
    rw [Store.changeTodo_of_found found rfl rfl sound] at done
    refine ⟨?_, shows_replaceTodo valid rest found rfl rfl sound⟩
    rw [← Store.fill_replaceTodo]
    exact done
  update_untitled t found given description untitled := by
    have done : update Pool.runner now userId todoId (some given) description (s.pool rest) = _ :=
      update_pool valid now userId todoId fun absent => Option.some_ne_none given absent.1
    cases fault : (changed now.text (some given) description t).fault? with
    | none => exact absurd ((fault?_changed _ _ _ _).1 fault) untitled
    | some check =>
      rw [Store.changeTodo_of_fault found fault] at done
      exact ⟨_, done⟩
  update_missing none title description given := by
    have done : update Pool.runner now userId todoId title description (s.pool rest) = _ :=
      update_pool valid now userId todoId given
    rw [Store.changeTodo_of_none none] at done
    exact done
  toggle_found t found := by
    have sound := valid.todos t (Store.mem_of_todo? found).1
    have flipped : (t.flipped t.completed now.text).fault? = none := sound
    refine ⟨Toggle.run_of_found valid found rest now, toggle_of_found valid found rest now,
      shows_replaceTodo valid rest found rfl rfl flipped, fun later => ?_⟩
    have back : ({ t with updatedAt := later.text } : Todo).fault? = none :=
      (Todo.fault?_eq_none_iff _).2 ((Todo.fault?_eq_none_iff t).1 sound)
    exact ⟨toggle_flipped valid found rest now later,
      shows_replaceTodo valid rest found rfl rfl back⟩
  toggle_missing none := by
    have done : toggle Pool.runner now userId todoId (s.pool rest) = _ :=
      toggle_pool valid now userId todoId
    simp only [toggled, Store.flag?, none] at done
    exact done
  delete_found t found := by
    have done : delete Pool.runner userId todoId (s.pool rest) = _ :=
      delete_pool valid userId todoId
    have shown := shows_fill (Store.valid_removeTodo valid found) rest userId todoId
    rw [Store.dropTodo_of_found valid found] at done
    rw [Store.todo?_removeTodo, Store.fill_removeTodo] at shown
    refine ⟨?_, shown⟩
    rw [← Store.fill_removeTodo]
    exact done
  delete_missing none := by
    have done : delete Pool.runner userId todoId (s.pool rest) = _ :=
      delete_pool valid userId todoId
    rw [Store.dropTodo_of_none none] at done
    exact done

end Todos

/-- **A write to a todo touches that todo alone.** On a reachable database a change, a toggle or a
removal replaces or removes the row of the todo that its owner asks for, and one that asks for no
todo of its owner changes nothing. What the owner reads before and after is the row as it stands. It
makes no difference whether storage is handed the commands or nothing but their text. -/
theorem todo_writes_exact {db : Database} (reachable : Reachable db) (now : Instant)
    (userId todoId : Int) :
    ∃ found, Todos.WritesExactly Pool.runner db now userId todoId found ∧
      Todos.WritesExactly Pool.textRunner db now userId todoId found := by
  obtain ⟨s, rest, valid, rfl⟩ := reachable.filled
  have writes := Todos.writesExactly valid rest now userId todoId
  exact ⟨_, writes, writes.byText⟩

/-- Ann gives one of her todos another title, and Bob does not reach it. -/
theorem todo_writes_in_sampleDatabase :
    Reachable (sampleDatabase "Bread") ∧
      (∀ r ∈ [Pool.runner, Pool.textRunner],
        Todos.update r ⟨0⟩ 1 3 (some "Tea") none (.of (sampleDatabase "Bread")) =
          (.ok 1, .of ((sampleDatabase "Bread").replaceTodo
            ⟨3, "Tea", some "two_litres", false, 1, Instant.text ⟨0⟩, Instant.text ⟨0⟩⟩))) ∧
      ∀ r ∈ [Pool.runner, Pool.textRunner],
        Todos.update r ⟨0⟩ 2 3 (some "Tea") none (.of (sampleDatabase "Bread")) =
          (.ok 0, .of (sampleDatabase "Bread")) := by
  have reachable : Reachable (sampleDatabase "Bread") :=
    reachable_sampleDatabase (by decide +kernel)
  obtain ⟨own, ann, annByText⟩ := todo_writes_exact reachable ⟨0⟩ 1 3
  obtain ⟨foreign, bob, bobByText⟩ := todo_writes_exact reachable ⟨0⟩ 2 3
  have held :
      (⟨3, "Milk", some "two_litres", false, 1, Instant.text ⟨0⟩, Instant.text ⟨0⟩⟩ : Todo) ∈
      (Store.sample "Bread").todos := by
    exact .tail _ (.tail _ (.head _))
  have mine := (ann.shows.held _).2 ⟨(Store.mem_todos_iff _).2 held, rfl, rfl⟩
  have none : foreign = none := by
    refine Option.eq_none_iff_forall_ne_some.2 fun t found => ?_
    obtain ⟨stored, same, owner⟩ := (bob.shows.held t).1 found
    have stored := (Store.mem_todos_iff _).1 stored
    simp only [Store.sample, List.mem_cons, List.not_mem_nil, or_false] at stored
    rcases stored with rfl | rfl | rfl
    · cases same
    · cases same
    · cases owner
  have titled : ∀ given, some "Tea" = some given → 1 ≤ (Text.untilNul given).length := by
    intro given same
    cases same
    decide +kernel
  refine ⟨reachable, ?_, ?_⟩
  · simp only [List.forall_mem_cons]
    exact ⟨(ann.update_found _ mine (some "Tea") .none (by simp) titled).1,
      (annByText.update_found _ mine (some "Tea") .none (by simp) titled).1, List.forall_mem_nil _⟩
  · simp only [List.forall_mem_cons]
    exact ⟨bob.update_missing none _ _ (by simp), bobByText.update_missing none _ _ (by simp),
      List.forall_mem_nil _⟩

end TodoServer
