import TodoServer.Api.Site
import TodoServer.Proofs.Service.Confinement

/-!
# Endpoints confined to one user

An endpoint for callers who are let in hands over statements that are confined to its caller, and no
others, whatever a runner answers.
-/

namespace TodoServer.Api

variable {α σ : Type} {r : Runner σ} {userId : Int} {holds : σ → Prop}

/-! ## Replies -/

theorem after_keeps {x : Except ServiceError α × σ} {next : α → σ → Reply σ} (held : holds x.2)
    (kept : ∀ a state, holds state → holds (next a state).2) : holds (after x next).2 := by
  rw [after]
  split
  · exact kept _ _ held
  · exact held

theorem accepting_keeps {x : Except Rejection α} {state : σ} {next : α → Reply σ}
    (held : holds state)
    (kept : ∀ a, x = .ok a → holds (next a).2) : holds (accepting x state next).2 := by
  cases x with
  | ok a => exact kept a rfl
  | error rejection => exact held

variable (keeps : r.Keeps userId holds) {state : σ} (held : holds state)

include keeps held

/-! ## Accounts -/

namespace Accounts

theorem shown_keeps (status : Nat) : holds (shown r status userId state).2 := by
  refine after_keeps (Users.get_keeps keeps held) fun found state held => ?_
  cases found <;> exact held

theorem change_keeps (moment : Moment) (request : Http.Request) :
    holds (change r moment userId request state).2 := by
  refine accepting_keeps held fun given _ => ?_
  refine after_keeps (Users.update_keeps keeps held _ _ _ _ _) fun count state held => ?_
  cases count with
  | zero => exact held
  | succ => exact shown_keeps keeps held 200

theorem remove_keeps : holds (remove r userId state).2 := by
  refine after_keeps (Users.delete_keeps keeps held) fun count state held => ?_
  cases count <;> exact held

end Accounts

/-! ## Todos -/

namespace Todos

theorem shown_keeps (status : Nat) (todoId : Int) :
    holds (shown r status userId todoId state).2 := by
  refine after_keeps (TodoServer.Todos.get_keeps keeps held todoId) fun found state held => ?_
  cases found <;> exact held

theorem list_keeps (request : Http.Request) : holds (list r userId request state).2 := by
  refine accepting_keeps held fun listing _ => ?_
  exact after_keeps (TodoServer.Todos.list_keeps keeps held _ _) fun _ _ held => held

theorem create_keeps (moment : Moment) (request : Http.Request) :
    holds (create r moment userId request state).2 := by
  refine accepting_keeps held fun todo _ => ?_
  exact after_keeps (TodoServer.Todos.insert_keeps keeps held _ _) fun todoId _ held =>
    shown_keeps keeps held 201 todoId

theorem createMany_keeps (moment : Moment) (request : Http.Request) :
    holds (createMany r moment userId request state).2 := by
  refine accepting_keeps held fun todos _ => ?_
  exact after_keeps (TodoServer.Todos.insertMany_keeps keeps held _ _) fun _ _ held => held

theorem get_keeps (part : String) : holds (get r userId part state).2 :=
  accepting_keeps held fun todoId _ => shown_keeps keeps held 200 todoId

theorem change_keeps (moment : Moment) (part : String) (request : Http.Request) :
    holds (change r moment userId part request state).2 := by
  refine accepting_keeps held fun todoId _ => accepting_keeps held fun given _ => ?_
  refine after_keeps (TodoServer.Todos.update_keeps keeps held _ _ _ _) fun count state held => ?_
  cases count with
  | zero => exact held
  | succ => exact shown_keeps keeps held 200 todoId

theorem remove_keeps (part : String) : holds (remove r userId part state).2 := by
  refine accepting_keeps held fun todoId _ => ?_
  refine after_keeps (TodoServer.Todos.delete_keeps keeps held todoId) fun count state held => ?_
  cases count <;> exact held

namespace Completing

/-- One more statement keeps what confined statements keep. -/
theorem step_keeps (now : Instant) (todoId : Int) (c : Completing) :
    holds (c.step r now userId todoId state).2 := by
  cases c with
  | toggling t => exact TodoServer.Todos.Toggle.step_keeps keeps held now todoId t
  | loading => exact shown_keeps keeps held 200 todoId
  | answered answer => exact held

theorem run_keeps (now : Instant) (todoId : Int) (n : Nat) (c : Completing) :
    holds (run r now userId todoId n c state).2 := by
  induction n generalizing c state with
  | zero => exact held
  | succ n ih => exact ih (step_keeps keeps held now todoId c) _

end Completing

theorem complete_keeps (moment : Moment) (part : String) :
    holds (complete r moment userId part state).2 := by
  refine accepting_keeps held fun todoId _ => ?_
  have ran := Completing.run_keeps keeps held moment.now todoId 3 (.toggling .reading)
  simp only
  generalize Completing.run r moment.now userId todoId 3 (.toggling .reading) state = x at ran ⊢
  exact ran

end Todos

end TodoServer.Api

namespace TodoServer.Api.Site

variable {σ : Type} {site : Site σ} {userId : Int} {holds : σ → Prop}

/-- What an endpoint does to a state is kept by all that statements confined to its caller keep. -/
theorem answerOwn_keeps (keeps : site.runner.Keeps userId holds) {state : σ} (held : holds state)
    (moment : Moment) (endpoint : OwnEndpoint) (request : Http.Request) :
    holds (site.answerOwn moment endpoint userId request state).2 := by
  cases endpoint with
  | profile => exact Accounts.shown_keeps keeps held 200
  | changeProfile => exact Accounts.change_keeps keeps held moment request
  | removeAccount => exact Accounts.remove_keeps keeps held
  | listTodos => exact Todos.list_keeps keeps held request
  | createTodo => exact Todos.create_keeps keeps held moment request
  | createTodos => exact Todos.createMany_keeps keeps held moment request
  | todo part => exact Todos.get_keeps keeps held part
  | changeTodo part => exact Todos.change_keeps keeps held moment part request
  | removeTodo part => exact Todos.remove_keeps keeps held part
  | completeTodo part => exact Todos.complete_keeps keeps held moment part

end TodoServer.Api.Site
