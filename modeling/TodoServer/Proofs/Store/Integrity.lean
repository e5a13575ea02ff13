import TodoServer.Proofs.Store.Reachable
import TodoServer.Proofs.Store.View

/-!
# Integrity over whole runs

In every state of every run each todo belongs to a user, emails are distinct and flags are zero or
one. Ids are issued in ascending order and never again, and a user leaves with all of the user's
todos and nothing else.
-/

namespace TodoServer

open Storage

/-! ## What holds of a database -/

namespace Storage.Database

/-- Todos belong to users, emails are distinct and flags are zero or one. -/
structure Intact (db : Database) : Prop where
  owned : ∀ todo ∈ db.rowsOf .todos, ∃ userId ∈ db.keysOf .users, todo.cell 4 = .integer userId
  emails : (db.rowsOf .users).Pairwise fun a b => a.cell 2 ≠ b.cell 2
  flags : ∀ todo ∈ db.rowsOf .todos, todo.cell 3 = .integer 0 ∨ todo.cell 3 = .integer 1

end Storage.Database

/-- The keys that a turn stored in a table. -/
def Turn.newKeys {τ : Type} (turn : Turn τ Pool) (id : TableId) : List Int :=
  (turn.target.database.keysOf id).filter (· ∉ turn.source.database.keysOf id)

/-- A turn removes one user with all of the user's todos, and nothing else. -/
structure Turn.RemovesUser (turn : Turn Task Pool) (userId : Int) : Prop where
  users : turn.target.database.rowsOf .users =
    (turn.source.database.rowsOf .users).filter (·.key ≠ userId)
  todos : turn.target.database.rowsOf .todos =
    (turn.source.database.rowsOf .todos).filter (·.cell 4 ≠ .integer userId)
  answer : turn.after.answer? = some (.ok (.affected
    ((turn.source.database.keysOf .users).count userId)))

/-- What holds of a run on an open pool. -/
structure Run.Intact (run : Run Task Pool) : Prop where
  state : run.state.database.Intact
  states : ∀ turn ∈ run.turns, turn.source.database.Intact ∧ turn.target.database.Intact
  /-- Each key stored is above all keys that were stored before it. -/
  ascending : ∀ id ∈ [TableId.users, .todos], (run.turns.flatMap (·.newKeys id)).Pairwise (· < ·)
  /-- No key comes from elsewhere. -/
  issued : ∀ id ∈ [TableId.users, .todos], ∀ key ∈ run.state.database.keysOf id,
    key ∈ run.turns.flatMap (·.newKeys id)
  removals : ∀ turn ∈ run.turns, ∀ userId plain,
    turn.before = .single (.deleteUser userId) plain none → turn.RemovesUser userId

/-! ## Ids -/

/-- Ids that were issued one after the other, the last no later than `last`, and that cover those in
use. -/
structure Accounted (issued ids : List Int) (last : Int) : Prop where
  ascending : issued.Pairwise (· < ·)
  le_last : ∀ id ∈ issued, id ≤ last
  covers : ∀ id ∈ ids, id ∈ issued

/-- New ids go to the end of those issued. -/
theorem Accounted.step {issued ids ids' : List Int} {last last' : Int}
    (accounted : Accounted issued ids last) (later : last ≤ last')
    (fresh : ∀ id ∈ ids', id ∈ ids ∨ last < id) (sound : Issued ids' last') :
    Accounted (issued ++ ids'.filter (· ∉ ids)) ids' last' := by
  have new : ∀ id ∈ ids'.filter (· ∉ ids), id ∈ ids' ∧ last < id := by
    intro id mem
    obtain ⟨used, absent⟩ := List.mem_filter.1 mem
    exact ⟨used, (fresh id used).resolve_left (of_decide_eq_true absent)⟩
  refine ⟨?_, ?_, ?_⟩
  · refine List.pairwise_append.2
      ⟨accounted.ascending, sound.ascending.sublist List.filter_sublist, ?_⟩
    intro old mem id added
    have bound := accounted.le_last old mem
    have above := (new id added).2
    omega
  · intro id mem
    rcases List.mem_append.1 mem with old | added
    · exact Int.le_trans (accounted.le_last id old) later
    · exact sound.le_last id (new id added).1
  · intro id mem
    by_cases known : id ∈ ids
    · exact List.mem_append_left _ (accounted.covers id known)
    · exact List.mem_append_right _ (List.mem_filter.2 ⟨mem, decide_eq_true known⟩)

/-! ## Stores -/

namespace Store

variable {s : Store} (rest : Database)

theorem Valid.intact (valid : s.Valid) : (s.fill rest).Intact := by
  refine ⟨?_, ?_, ?_⟩
  · intro todo mem
    obtain ⟨t, held, rfl⟩ := List.mem_map.1 mem
    rw [keysOf_users]
    exact ⟨t.userId, hasUser_iff.1 (valid.owners t held), rfl⟩
  · refine List.pairwise_map.2 (valid.emails.imp fun {u v} distinct same => distinct ?_)
    exact Cell.text.inj same
  · intro todo mem
    obtain ⟨t, held, rfl⟩ := List.mem_map.1 mem
    have flag : t.row.cell 3 = .integer (if t.completed then 1 else 0) := rfl
    rw [flag]
    cases t.completed
    · exact .inl rfl
    · exact .inr rfl

theorem Valid.length_user? (valid : s.Valid) (userId : Int) :
    (s.user? userId).toList.length = (s.users.map User.id).count userId := by
  rw [← valid.filter_user, ← List.countP_eq_length_filter, List.count, List.countP_map]
  exact List.countP_congr fun u _ => by simp

end Store

namespace Turn

variable (turn : Turn Task Store)

/-- The ids of the users that a turn stored. -/
def newUsers : List Int :=
  (turn.target.users.map User.id).filter (· ∉ turn.source.users.map User.id)

/-- The ids of the todos that a turn stored. -/
def newTodos : List Int :=
  (turn.target.todos.map Todo.id).filter (· ∉ turn.source.todos.map Todo.id)

variable (rest : Database)

theorem newKeys_users : (turn.map (·.pool rest)).newKeys .users = turn.newUsers := by
  change ((turn.target.fill rest).keysOf .users).filter
    (· ∉ (turn.source.fill rest).keysOf .users) = _
  rw [Store.keysOf_users, Store.keysOf_users]
  rfl

theorem newKeys_todos : (turn.map (·.pool rest)).newKeys .todos = turn.newTodos := by
  change ((turn.target.fill rest).keysOf .todos).filter
    (· ∉ (turn.source.fill rest).keysOf .todos) = _
  rw [Store.keysOf_todos, Store.keysOf_todos]
  rfl

variable {turn}

theorem removesUser (valid : turn.source.Valid) {userId : Int}
    (dropped : turn.target = (turn.source.dropUser userId).2)
    (answer : turn.after.answer? = some (.ok (.affected (turn.source.dropUser userId).1))) :
    (turn.map (·.pool rest)).RemovesUser userId := by
  refine ⟨?_, ?_, ?_⟩
  · change turn.target.users.map User.row = (turn.source.users.map User.row).filter _
    rw [dropped, List.filter_map]
    rfl
  · change turn.target.todos.map Todo.row = (turn.source.todos.map Todo.row).filter _
    rw [dropped, Todo.filter_owner_row_ne]
    rfl
  · change turn.after.answer? = _
    rw [answer]
    have count : ((turn.source.fill rest).keysOf .users).count userId =
        (turn.source.dropUser userId).1 := by
      rw [Store.keysOf_users, ← valid.length_user?]
      rfl
    rw [← count]
    rfl

end Turn

/-! ## Runs -/

namespace Run

/-- What every turn on a store keeps. -/
structure Kept (run : Run Task Store) : Prop where
  valid : run.state.Valid
  turns : ∀ turn ∈ run.turns, turn.source.Valid ∧ turn.target.Valid ∧
    ∀ userId plain, turn.before = .single (.deleteUser userId) plain none →
      turn.target = (turn.source.dropUser userId).2 ∧
      turn.after.answer? = some (.ok (.affected (turn.source.dropUser userId).1))
  users : Accounted (run.turns.flatMap Turn.newUsers) (run.state.users.map User.id)
    run.state.lastUser
  todos : Accounted (run.turns.flatMap Turn.newTodos) (run.state.todos.map Todo.id)
    run.state.lastTodo

theorem kept_start (tasks : List Task) : (start tasks Store.empty).Kept :=
  ⟨Store.valid_empty, by simp [start], ⟨.nil, by simp [start], by simp [start, Store.empty]⟩,
    ⟨.nil, by simp [start], by simp [start, Store.empty]⟩⟩

theorem Kept.turn {run : Run Task Store} (kept : run.Kept) (caller : Nat) (task : Task)
    (moment : Moment) :
    Kept ⟨run.tasks.set caller (task.effect moment run.state).1, (task.effect moment run.state).2,
      run.turns ++ [⟨caller, task, (task.effect moment run.state).1, run.state,
        (task.effect moment run.state).2⟩]⟩ := by
  have valid := Task.effect_valid kept.valid moment task
  have follows := Task.effect_follows kept.valid moment task
  refine ⟨valid, ?_, ?_, ?_⟩
  · intro turn mem
    rcases List.mem_append.1 mem with old | new
    · exact kept.turns turn old
    · rw [List.mem_singleton.1 new]
      refine ⟨kept.valid, valid, ?_⟩
      rintro userId plain rfl
      exact ⟨rfl, rfl⟩
  · rw [List.flatMap_append, List.flatMap_singleton]
    exact kept.users.step follows.lastUser follows.users valid.userIds
  · rw [List.flatMap_append, List.flatMap_singleton]
    exact kept.todos.step follows.lastTodo follows.todos valid.todoIds

theorem kept_follow (tasks : List Task) (schedule : List (Nat × Moment)) :
    ((start tasks Store.empty).follow Task.effect schedule).Kept :=
  follow_induction schedule (kept_start tasks) fun _ caller task moment _ kept =>
    kept.turn caller task moment

theorem Kept.intact {run : Run Task Store} (kept : run.Kept) (rest : Database) :
    (run.map (·.pool rest)).Intact := by
  have newUsers : (run.map (·.pool rest)).turns.flatMap (·.newKeys .users) =
      run.turns.flatMap Turn.newUsers := by
    simp only [map, List.flatMap_map, Turn.newKeys_users]
  have newTodos : (run.map (·.pool rest)).turns.flatMap (·.newKeys .todos) =
      run.turns.flatMap Turn.newTodos := by
    simp only [map, List.flatMap_map, Turn.newKeys_todos]
  refine ⟨kept.valid.intact rest, ?_, ?_, ?_, ?_⟩
  · intro turn mem
    obtain ⟨stored, taken, rfl⟩ := List.mem_map.1 mem
    obtain ⟨source, target, _⟩ := kept.turns stored taken
    exact ⟨source.intact rest, target.intact rest⟩
  · intro id mem
    rcases List.mem_cons.1 mem with rfl | mem
    · rw [newUsers]
      exact kept.users.ascending
    · rw [List.mem_singleton.1 mem, newTodos]
      exact kept.todos.ascending
  · intro id mem key used
    rcases List.mem_cons.1 mem with rfl | mem
    · rw [newUsers]
      exact kept.users.covers key (Store.keysOf_users rest ▸ used)
    · rw [List.mem_singleton.1 mem] at used ⊢
      rw [newTodos]
      exact kept.todos.covers key (Store.keysOf_todos rest ▸ used)
  · intro turn mem userId plain deletes
    obtain ⟨stored, taken, rfl⟩ := List.mem_map.1 mem
    obtain ⟨source, _, removes⟩ := kept.turns stored taken
    obtain ⟨dropped, answer⟩ := removes userId plain deletes
    exact Turn.removesUser rest source dropped answer

end Run

/-- Every run from a new database keeps the tables intact, whatever is asked for and in whatever
order the statements of the callers are served. -/
theorem every_run_intact (now : Int) (operations : List Operation)
    (schedule : List (Nat × Moment)) :
    ((Run.start (operations.map Task.ofOperation) (Pool.fresh now)).follow
      (Task.step Pool.runner) schedule).Intact := by
  have kept := Run.kept_follow (operations.map Task.ofOperation) schedule
  rw [Run.follow_fresh]
  exact kept.intact _

end TodoServer
