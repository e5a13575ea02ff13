import TodoServer.Proofs.Api.Report

/-!
# Accounts that are not there

For an account that is not there lists are empty and everything else fails. The first statement of a
request decides on that, so nothing that other requests do behind it matters.
-/

namespace TodoServer

open Storage

/-! ## The next statement -/

/-- A runner that answers the next statement as a pool does, once it is logged. -/
structure Runner.AnswersAs {σ : Type} (r : Runner σ) (state : σ) (p : Pool) : Prop where
  dialect : r.dialect = .sqlite
  fetch : ∀ s, (r.fetch s (Executor.log r s state)).1 = p.fetch s
  execute : ∀ s, (r.execute s (Executor.log r s state)).1 = (p.execute s).1

theorem Storage.Pool.runner_answersAs (p : Pool) : Pool.runner.AnswersAs p p :=
  ⟨rfl, fun _ => rfl, fun _ => rfl⟩

variable {σ : Type} {r : Runner σ} {state : σ} {p : Pool} {s : Store} {rest : Database}
  {userId : Int}

namespace Runner.AnswersAs

variable (same : r.AnswersAs state p)

include same

theorem statement_eq (command : Command) :
    Executor.statement r command = Executor.statement Pool.runner command := by
  rw [Executor.statement, Executor.statement, same.dialect]
  rfl

theorem fst_fetch (command : Command) :
    (Executor.fetch r command state).1 = (Executor.fetch Pool.runner command p).1 := by
  rw [Executor.fetch, Executor.fetch, same.statement_eq]
  cases Executor.statement Pool.runner command with
  | error e => rfl
  | ok s => exact congrArg (Except.mapError QueryError.storage) (same.fetch s)

theorem fst_execute (command : Command) :
    (Executor.execute r command state).1 = (Executor.execute Pool.runner command p).1 := by
  rw [Executor.execute, Executor.execute, same.statement_eq]
  cases Executor.statement Pool.runner command with
  | error e => rfl
  | ok s => exact congrArg (Except.mapError QueryError.storage) (same.execute s)

end Runner.AnswersAs

/-! ## Operations -/

/-- Nobody owns a todo without an account. -/
theorem Store.Valid.owned_of_absent (valid : s.Valid) (absent : s.hasUser userId = false) :
    s.owned userId = [] := by
  refine List.filter_eq_nil_iff.2 fun t held own => ?_
  rw [← of_decide_eq_true own, valid.owners t held] at absent
  cases absent

theorem Store.Valid.todo?_of_absent (valid : s.Valid) (absent : s.hasUser userId = false)
    (todoId : Int) : s.todo? userId todoId = none := by
  rw [Store.todo?_eq_find?_owned, valid.owned_of_absent absent]
  rfl

/-- Without an account there is nothing to list. -/
theorem Store.Valid.listed_of_absent (valid : s.Valid) (absent : s.hasUser userId = false)
    (completed : Option Bool) (search : Option String) :
    Todos.listed s userId completed search = .ok [] := by
  have none (p : Todo → Bool) :
      (s.todos.filter fun t => Todos.isListed userId completed t && p t) = [] := by
    rw [Store.filter_isListed, valid.owned_of_absent absent]
    rfl
  have empty : ¬s.todos.any (Todos.isListed userId completed) = true := by
    rw [Store.any_isListed, valid.owned_of_absent absent]
    exact Bool.false_ne_true
  rw [Todos.listed]
  cases Todos.wanted search with
  | none => exact congrArg Except.ok (by simpa using none fun _ => true)
  | some text =>
    exact (if_neg fun refused => empty refused.2).trans (congrArg Except.ok (none _))

/-- Todos without an owner are not stored. -/
theorem Store.fails_of_absent (absent : s.hasUser userId = false) (time : String)
    (new : List NewTodo) : ∃ e, (s.settle (s.addTodos userId time new)).1 = .error e := by
  cases written : s.addTodos userId time new with
  | error e => exact ⟨_, rfl⟩
  | ok x =>
    obtain ⟨-, owner, -⟩ := Store.addTodos_eq_ok written
    rw [owner] at absent
    cases absent

theorem Store.user?_of_absent (absent : s.hasUser userId = false) : s.user? userId = none := by
  rw [hasUser_eq_isSome] at absent
  exact Option.isSome_eq_false_iff.1 absent |> Option.isNone_iff_eq_none.1

variable (same : r.AnswersAs state (s.pool rest)) (valid : s.Valid)
  (absent : s.hasUser userId = false)

include same absent

namespace Users

theorem get_of_absent : (get r userId state).1 = .ok none := by
  have pool : (get Pool.runner userId (s.pool rest)).1 = .ok none := by
    rw [get_pool, Store.user?_of_absent absent]
  rw [← pool]
  simp only [get, first, identified_eq, Executor.select, same.fst_fetch]

include valid

theorem update_of_absent (now : Instant) (salt : List UInt8) (name email password : Option String)
    {count : Nat} (changed : (update r now salt userId name email password state).1 = .ok count) :
    count = 0 := by
  have pool : (update r now salt userId name email password state).1 =
      (update Pool.runner now salt userId name email password (s.pool rest)).1 := by
    simp only [update, identified_eq, Executor.update, same.fst_execute]
  rw [pool] at changed
  by_cases nothing : name = none ∧ email = none ∧ password = none
  · obtain ⟨rfl, rfl, rfl⟩ := nothing
    cases changed
  · rw [update_pool valid _ _ _ nothing, Store.changeUser, Store.user?_of_absent absent] at changed
    cases changed
    rfl

theorem delete_of_absent : (delete r userId state).1 = .ok 0 := by
  have pool : (delete Pool.runner userId (s.pool rest)).1 = .ok 0 := by
    rw [delete_pool valid, valid.dropUser_of_none (Store.user?_of_absent absent)]
  rw [← pool]
  simp only [delete, identified_eq, Executor.delete, same.fst_execute]

end Users

namespace Todos

include valid

theorem list_of_absent (completed : Option Bool) (search : Option String) :
    (list r userId completed search state).1 = .ok [] := by
  have pool : (list Pool.runner userId completed search (s.pool rest)).1 = .ok [] := by
    rw [list_pool, valid.listed_of_absent absent]
  rw [← pool]
  simp only [list, listing_eq, fetch, Executor.select, same.fst_fetch]

theorem get_of_absent (todoId : Int) : (get r userId todoId state).1 = .ok none := by
  have pool : (get Pool.runner userId todoId (s.pool rest)).1 = .ok none := by
    rw [get_pool, valid.todo?_of_absent absent]
  rw [← pool]
  simp only [get, fetch, owned_eq, Executor.select, same.fst_fetch]

theorem insert_of_absent (now : Instant) (todo : NewTodo) :
    ∃ e, (insert r now userId todo state).1 = .error e := by
  have pool : (insert r now userId todo state).1 =
      (insert Pool.runner now userId todo (s.pool rest)).1 := by
    simp only [insert, Executor.insert, same.fst_execute]
  rw [pool, insert_pool valid]
  exact Store.fails_of_absent absent now.text [todo]

theorem insertMany_of_absent (now : Instant) {todos : List NewTodo} (given : todos ≠ []) :
    ∃ e, (insertMany r now userId todos state).1 = .error e := by
  have pool : (insertMany r now userId todos state).1 =
      (insertMany Pool.runner now userId todos (s.pool rest)).1 := by
    cases todos with
    | nil => exact absurd rfl given
    | cons first others => simp only [insertMany, List.map_cons, Executor.insertAll,
      same.fst_execute]
  rw [pool]
  by_cases many : Pool.valueLimit < 6 * todos.length
  · rw [insertMany_pool_of_many now userId many]
    exact ⟨_, rfl⟩
  · rw [insertMany_pool valid now userId given (Nat.not_lt.1 many)]
    exact Store.fails_of_absent absent now.text todos

theorem update_of_absent (now : Instant) (todoId : Int) (title description : Option String)
    {count : Nat} (changed : (update r now userId todoId title description state).1 = .ok count) :
    count = 0 := by
  have pool : (update r now userId todoId title description state).1 =
      (update Pool.runner now userId todoId title description (s.pool rest)).1 := by
    simp only [update, owned_eq, Executor.update, same.fst_execute]
  rw [pool] at changed
  by_cases nothing : title = none ∧ description = none
  · obtain ⟨rfl, rfl⟩ := nothing
    cases changed
  · rw [update_pool valid _ _ _ nothing, Store.changeTodo, valid.todo?_of_absent absent] at changed
    cases changed
    rfl

theorem delete_of_absent (todoId : Int) : (delete r userId todoId state).1 = .ok 0 := by
  have pool : (delete Pool.runner userId todoId (s.pool rest)).1 = .ok 0 := by
    rw [delete_pool valid, Store.dropTodo_of_none (valid.todo?_of_absent absent todoId)]
  rw [← pool]
  simp only [delete, owned_eq, Executor.delete, same.fst_execute]

theorem completion_of_absent (todoId : Int) : (completion r userId todoId state).1 = .ok none := by
  have pool : (completion Pool.runner userId todoId (s.pool rest)).1 = .ok none := by
    rw [completion_pool, Store.flag?, valid.todo?_of_absent absent]
    rfl
  rw [← pool]
  simp only [completion, owned_eq, Executor.select, same.fst_fetch]

end Todos

omit same absent

/-! ## Replies -/

namespace Api

/-- A reply that is an error. -/
def Fails (reply : Reply σ) : Prop := ∃ e, reply.1 = .error e

section

variable {α : Type}

theorem fails_accepting {x : Except Rejection α} {next : α → Reply σ}
    (accepted : ∀ a, x = .ok a → Fails (next a)) : Fails (accepting x state next) := by
  cases x with
  | error rejection => exact ⟨_, rfl⟩
  | ok a => exact accepted a rfl

theorem after_of_ok {x : Except ServiceError α × σ} {a : α} (found : x.1 = .ok a)
    (next : α → σ → Reply σ) : after x next = next a x.2 := by
  rw [after, found]

theorem fails_after {x : Except ServiceError α × σ} {next : α → σ → Reply σ}
    (found : ∀ a, x.1 = .ok a → Fails (next a x.2)) : Fails (after x next) := by
  rw [after]
  split
  · next a done => exact found a done
  · exact ⟨_, rfl⟩

end

/-- An answer stays. -/
theorem Todos.Completing.run_answered (r : Runner σ) (now : Instant) (userId todoId : Int) (n : Nat)
    (answer : Except ApiError Http.Response) (state : σ) :
    run r now userId todoId n (.answered answer) state = (.answered answer, state) := by
  induction n with
  | zero => rfl
  | succ n ih =>
    rw [run]
    exact ih

include same valid absent

namespace Accounts

omit valid in
theorem shown_of_absent (status : Nat) : Fails (shown r status userId state) := by
  rw [shown, after_of_ok (Users.get_of_absent same absent)]
  exact ⟨missing, rfl⟩

theorem change_of_absent (moment : Moment) (request : Http.Request) :
    Fails (change r moment userId request state) := by
  rw [change]
  refine fails_accepting fun given _ => fails_after fun count changed => ?_
  cases Users.update_of_absent same valid absent _ _ _ _ _ changed
  exact ⟨missing, rfl⟩

theorem remove_of_absent : Fails (remove r userId state) := by
  rw [remove, after_of_ok (Users.delete_of_absent same valid absent)]
  exact ⟨missing, rfl⟩

end Accounts

namespace Todos

theorem list_of_absent {request : Http.Request} {listing : Listing}
    (read : listingOfQuery request.target.query = .ok listing) :
    (list r userId request state).1 = .ok (.json 200 (.arr [])) := by
  rw [list, read, accepting, after_of_ok (TodoServer.Todos.list_of_absent same valid absent _ _)]
  rfl

theorem create_of_absent (moment : Moment) (request : Http.Request) :
    Fails (create r moment userId request state) := by
  rw [create]
  refine fails_accepting fun todo _ => fails_after fun todoId stored => ?_
  obtain ⟨e, failed⟩ := TodoServer.Todos.insert_of_absent same valid absent moment.now todo
  cases stored.symm.trans failed

theorem createMany_of_absent (moment : Moment) (request : Http.Request) :
    Fails (createMany r moment userId request state) := by
  rw [createMany]
  refine fails_accepting fun todos read => fails_after fun last stored => ?_
  obtain ⟨e, failed⟩ := TodoServer.Todos.insertMany_of_absent same valid absent moment.now
    (length_of_batch read).1
  cases stored.symm.trans failed

theorem shown_of_absent (status : Nat) (todoId : Int) :
    Fails (shown r status userId todoId state) := by
  rw [shown, after_of_ok (TodoServer.Todos.get_of_absent same valid absent todoId)]
  exact ⟨missing todoId, rfl⟩

theorem change_of_absent (moment : Moment) (part : String) (request : Http.Request) :
    Fails (change r moment userId part request state) := by
  rw [change]
  refine fails_accepting fun todoId _ => fails_accepting fun given _ => ?_
  refine fails_after fun count changed => ?_
  cases TodoServer.Todos.update_of_absent same valid absent _ _ _ _ changed
  exact ⟨missing todoId, rfl⟩

theorem remove_of_absent (part : String) : Fails (remove r userId part state) := by
  rw [remove]
  refine fails_accepting fun todoId _ => ?_
  rw [after_of_ok (TodoServer.Todos.delete_of_absent same valid absent todoId)]
  exact ⟨missing todoId, rfl⟩

theorem complete_of_absent (moment : Moment) (part : String) :
    Fails (complete r moment userId part state) := by
  rw [complete]
  refine fails_accepting fun todoId _ => ?_
  have unseen := TodoServer.Todos.completion_of_absent same valid absent todoId
  have read : (Completing.step r moment.now userId todoId (.toggling .reading) state).1 =
      .answered (.error (.ofService (.notFound "todo" todoId))) := by
    simp only [Completing.step, TodoServer.Todos.Toggle.step, unseen]
  rw [Completing.run]
  simp only [read, Completing.run_answered]
  exact ⟨_, rfl⟩

end Todos

namespace Site

variable (manager : Auth.Manager) (origins : Http.Origins) (moment : Moment)
  (request : Http.Request)

/-- Without an account an endpoint of the caller's own fails, unless it lists todos. -/
theorem fails_of_absent {endpoint : OwnEndpoint} (other : endpoint ≠ .listTodos) :
    Fails (answerOwn ⟨r, manager, origins⟩ moment endpoint userId request state) := by
  cases endpoint with
  | profile => exact Accounts.shown_of_absent same absent 200
  | changeProfile => exact Accounts.change_of_absent same valid absent moment request
  | removeAccount => exact Accounts.remove_of_absent same valid absent
  | listTodos => exact absurd rfl other
  | createTodo => exact Todos.create_of_absent same valid absent moment request
  | createTodos => exact Todos.createMany_of_absent same valid absent moment request
  | todo part =>
    exact fails_accepting fun todoId _ => Todos.shown_of_absent same valid absent 200 todoId
  | changeTodo part => exact Todos.change_of_absent same valid absent moment part request
  | removeTodo part => exact Todos.remove_of_absent same valid absent part
  | completeTodo part => exact Todos.complete_of_absent same valid absent moment part

end Site

end Api

end TodoServer
