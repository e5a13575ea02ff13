import TodoServer.Proofs.Service.Opening
import TodoServer.Storage.Pool

/-!
# Storage that fails

Where storage fails for every statement and stays as it is, an operation that issues a statement
fails likewise, and no operation changes anything.
-/

namespace TodoServer

variable {σ : Type}

/-- Every statement fails with one error and leaves a state as it is. -/
structure Runner.FailsAt (r : Runner σ) (e : StorageError) (state : σ) : Prop where
  fetch : ∀ s, r.fetch s state = (.error e, state)
  execute : ∀ s, r.execute s state = (.error e, state)
  log : ∀ s, Executor.log r s state = state

theorem Storage.Pool.fails_of_not_isOpen {p : Pool} (shut : p.isOpen = false) :
    runner.FailsAt .poolClosed p where
  fetch s := by simp [runner, Pool.fetch, shut]
  execute s := execute_of_not_isOpen shut s
  log _ := rfl

variable {r : Runner σ} {e : StorageError} {state : σ}

namespace Executor

/-- The error of a command where storage fails. -/
def failure (d : Dialect) (e : StorageError) (command : Command) : QueryError :=
  match Statement.of d command with
  | .ok _ => .storage e
  | .error refusal => .refused refusal

/-- A command that becomes a statement fails as storage does. -/
theorem failure_of_handed {d : Dialect} {command : Command} (issued : handed d command ≠ []) :
    failure d e command = .storage e := by
  rw [handed] at issued
  rw [failure]
  cases made : Statement.of d command with
  | ok s => rfl
  | error refusal =>
    rw [made] at issued
    exact absurd rfl issued

theorem fetch_failing (failing : r.FailsAt e state) (command : Command) :
    fetch r command state = (.error (failure r.dialect e command), state) := by
  rw [fetch, statement, failure]
  cases Statement.of r.dialect command with
  | ok s =>
    simp only [failing.log, failing.fetch]
    rfl
  | error refusal => rfl

theorem execute_failing (failing : r.FailsAt e state) (command : Command) :
    execute r command state = (.error (failure r.dialect e command), state) := by
  rw [execute, statement, failure]
  cases Statement.of r.dialect command with
  | ok s =>
    simp only [failing.log, failing.execute]
    rfl
  | error refusal => rfl

end Executor

namespace Operation

/-- A result that fails as storage does if anything was handed over, and changes nothing. -/
def Failed (e : StorageError) (state : σ) (issued : List Statement)
    (x : Except ServiceError Outcome × σ) : Prop :=
  x.2 = state ∧ (issued ≠ [] → x.1 = .error (.query (.storage e)))

theorem failed_of_failure {d : Dialect} {command : Command} :
    Failed e state (Executor.handed d command)
      (.error (.query (Executor.failure d e command)), state) :=
  ⟨rfl, fun issued => by rw [Executor.failure_of_handed issued]⟩

/-- An operation on failing storage fails if its opening becomes a statement. -/
theorem run_failing (failing : r.FailsAt e state) (moment : Moment) (operation : Operation) :
    Failed e state (operation.opened r.dialect moment) (operation.run r moment state) := by
  have fetched := Executor.fetch_failing failing
  have executed := Executor.execute_failing failing
  cases operation with
  | insertUser name email password =>
    simp only [run, Users.insert, Executor.insert, executed]
    exact failed_of_failure
  | getUser userId =>
    simp only [run, Users.get, Users.identified_eq, Users.first, Executor.select, fetched]
    exact failed_of_failure
  | findUser name email =>
    rw [opened, opening]
    simp only [run, Users.find]
    cases Users.namedOrMailed name email with
    | error e => exact ⟨rfl, absurd rfl⟩
    | ok filter =>
      simp only [Users.first, Executor.select, fetched]
      exact failed_of_failure
  | updateUser userId name email password =>
    simp only [run, Users.update, Users.identified_eq, Executor.update, executed]
    exact failed_of_failure
  | deleteUser userId =>
    simp only [run, Users.delete, Users.identified_eq, Executor.delete, executed]
    exact failed_of_failure
  | authenticate email password =>
    simp only [run, Users.authenticate, Users.mailed_eq, Executor.select, fetched]
    exact failed_of_failure
  | listTodos userId completed search =>
    rw [opened, opening]
    simp only [run, Todos.list]
    cases orFilter (Todos.listing userId completed search).build with
    | error e => exact ⟨rfl, absurd rfl⟩
    | ok filter =>
      simp only [Todos.fetch, Executor.select, fetched]
      exact failed_of_failure
  | getTodo userId todoId =>
    simp only [run, Todos.get, Todos.owned_eq, Todos.fetch, Executor.select, fetched]
    exact failed_of_failure
  | insertTodo userId todo =>
    simp only [run, Todos.insert, Executor.insert, executed]
    exact failed_of_failure
  | insertTodos userId todos =>
    cases todos with
    | nil => exact ⟨rfl, absurd rfl⟩
    | cons todo rest =>
      simp only [run, Todos.insertMany, List.map_cons, Executor.insertAll, executed]
      exact failed_of_failure
  | updateTodo userId todoId title description =>
    simp only [run, Todos.update, Todos.owned_eq, Executor.update, executed]
    exact failed_of_failure
  | isCompleted userId todoId =>
    simp only [run, Todos.isCompleted, Todos.completion, Todos.owned_eq, Executor.select, fetched]
    exact failed_of_failure
  | toggle userId todoId =>
    -- The reading fails, and what comes after it keeps that answer.
    simp only [run, Todos.toggle, Todos.Toggle.run, Todos.Toggle.step, Todos.completion,
      Todos.owned_eq, Executor.select, fetched]
    exact failed_of_failure
  | deleteTodo userId todoId =>
    simp only [run, Todos.delete, Todos.owned_eq, Executor.delete, executed]
    exact failed_of_failure

/-- Whether an operation hands any statement to a runner. -/
def Issues (r : Runner σ) (moment : Moment) (operation : Operation) (state : σ) : Prop :=
  (operation.run (Executor.noting r) moment (state, [])).2.2 ≠ []

theorem opened_ne_nil_of_issues {moment : Moment} {operation : Operation}
    (issues : operation.Issues r moment state) : operation.opened r.dialect moment ≠ [] := by
  intro nothing
  have first := opens r moment operation state
  rw [nothing, List.head?_nil, List.head?_eq_none_iff] at first
  exact issues first

end Operation

end TodoServer
