import TodoServer.Proofs.Service.Opening
import TodoServer.Service.Interleaving

/-!
# Statements of a turn

A turn hands over at most one statement, whatever the runner behind it answers. As storage carries
out one statement at a time, callers that take turns are callers whose statements are interleaved.
-/

namespace TodoServer

namespace Executor

theorem length_handed_le (d : Dialect) (command : Command) : (handed d command).length ≤ 1 := by
  rw [handed]
  cases Statement.of d command with
  | ok s => exact Nat.le_refl 1
  | error refusal => exact Nat.zero_le 1

theorem length_issued_le (d : Dialect) (call : Call) : (call.issued d).length ≤ 1 := by
  rw [Call.issued]
  cases call.command? with
  | none => exact Nat.zero_le 1
  | some command => exact length_handed_le d command

end Executor

theorem Operation.length_opened_le (d : Dialect) (moment : Moment) (operation : Operation) :
    (operation.opened d moment).length ≤ 1 := by
  rw [opened]
  cases operation.opening moment with
  | none => exact Nat.zero_le 1
  | some call => exact Executor.length_issued_le d call

variable {σ : Type} (r : Runner σ)

/-- A step of a toggle hands over one selection, one update or nothing. -/
theorem Todos.Toggle.length_step_le (moment : Moment) (userId todoId : Int) (t : Toggle)
    (state : σ) :
    (t.step (Executor.noting r) moment.now userId todoId (state, [])).2.2.length ≤ 1 := by
  cases t with
  | reading =>
    simp only [step, Operation.completion_noting]
    exact Operation.length_opened_le r.dialect moment (.isCompleted userId todoId)
  | writing seen =>
    simp only [step, flip]
    split
    · exact Nat.zero_le 1
    · simp only [Executor.update, Executor.execute_noting]
      exact Executor.length_handed_le r.dialect _
  | done answer => exact Nat.zero_le 1

/-- A turn hands over at most one statement. -/
theorem Task.length_step_le (moment : Moment) (task : Task) (state : σ) :
    (task.step (Executor.noting r) moment (state, [])).2.2.length ≤ 1 := by
  cases task with
  | toggle userId todoId progress =>
    exact Todos.Toggle.length_step_le r moment userId todoId progress state
  | single operation plain answer =>
    cases answer with
    | none =>
      simp only [step, Operation.issues_opened r moment plain]
      exact Operation.length_opened_le r.dialect moment operation
    | some answer => exact Nat.zero_le 1

end TodoServer
