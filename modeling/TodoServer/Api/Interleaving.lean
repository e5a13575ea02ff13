import TodoServer.Api.Todos
import TodoServer.Service.Interleaving

/-!
# Requests at the same time

A request that flips the flag of a todo takes a turn for each of its statements: those of the toggle
and the one that reads the todo back. Other visitors carry out operations of the services.
-/

namespace TodoServer.Api

/-- What a visitor comes for. -/
inductive Errand where
  | completeTodo (userId todoId : Int)
  | carryOut (operation : Operation)
  deriving DecidableEq, Repr

/-- How far a visitor has come. -/
inductive Visitor where
  | completing (userId todoId : Int) (progress : Todos.Completing)
  | operating (task : Task)

namespace Visitor

/-- A visitor before the first statement. -/
def ofErrand : Errand → Visitor
  | .completeTodo userId todoId => completing userId todoId (.toggling .reading)
  | .carryOut operation => operating (.ofOperation operation)

/-- One turn. Nothing happens once the visitor has an answer. -/
def step {σ : Type} (r : Runner σ) (moment : Moment) (visitor : Visitor) (state : σ) :
    Visitor × σ :=
  match visitor with
  | completing userId todoId progress =>
    let (progress, state) := progress.step r moment.now userId todoId state
    (completing userId todoId progress, state)
  | operating task =>
    let (task, state) := task.step r moment state
    (operating task, state)

/-- A visitor who takes all turns comes to what the request comes to alone. -/
theorem follow_alone {σ : Type} (r : Runner σ) (moment : Moment) (userId todoId : Int) (n : Nat)
    {run : Run Visitor σ} {progress : Todos.Completing}
    (alone : run.tasks = [completing userId todoId progress]) :
    (run.follow (step r) (List.replicate n (0, moment))).tasks = [completing userId todoId
        (progress.run r moment.now userId todoId n run.state).1] ∧
      (run.follow (step r) (List.replicate n (0, moment))).state =
        (progress.run r moment.now userId todoId n run.state).2 := by
  induction n generalizing run progress with
  | zero => exact ⟨alone, rfl⟩
  | succ n ih =>
    have found : run.tasks[0]? = some (completing userId todoId progress) := by
      rw [alone]
      rfl
    have first : run.follow (step r) (List.replicate (n + 1) (0, moment)) =
        (run.advance (step r moment) 0).follow (step r) (List.replicate n (0, moment)) := rfl
    rw [first, Run.advance_of_some found, alone]
    exact ih rfl

end Visitor

end TodoServer.Api
