import TodoServer.Service.Operation

/-!
# Interleaving

Callers that carry out operations at the same time share one state. Storage serves one statement at
a time, so between two statements of one caller there may be statements of others: the callers take
turns, in any order, and a turn is at most one statement. A run keeps every turn with the states
before and after it.
-/

namespace TodoServer

/-- What one turn of a caller did. -/
structure Turn (τ σ : Type) where
  caller : Nat
  /-- The task of the caller before the turn. -/
  before : τ
  after : τ
  /-- The state before the turn. -/
  source : σ
  target : σ

/-- The tasks of all callers, the state that they share and the turns taken so far. -/
structure Run (τ σ : Type) where
  tasks : List τ
  state : σ
  turns : List (Turn τ σ)

namespace Run

variable {τ σ : Type}

/-- A run in which no turn was taken. -/
def start (tasks : List τ) (state : σ) : Run τ σ := ⟨tasks, state, []⟩

/-- One turn of a caller. There is none of a caller without a task. -/
def advance (step : τ → σ → τ × σ) (caller : Nat) (run : Run τ σ) : Run τ σ :=
  match run.tasks[caller]? with
  | none => run
  | some task =>
    let (next, state) := step task run.state
    ⟨run.tasks.set caller next, state, run.turns ++ [⟨caller, task, next, run.state, state⟩]⟩

/-- The turns of a schedule one after the other, each taken at a moment of its own. -/
def follow (step : Moment → τ → σ → τ × σ) (schedule : List (Nat × Moment)) (run : Run τ σ) :
    Run τ σ :=
  schedule.foldl (fun run turn => run.advance (step turn.2) turn.1) run

/-- The turns of a caller. -/
def turnsOf (run : Run τ σ) (caller : Nat) : List (Turn τ σ) :=
  run.turns.filter (·.caller = caller)

variable {step : τ → σ → τ × σ} {caller : Nat} {run : Run τ σ}

theorem advance_of_none (absent : run.tasks[caller]? = none) : run.advance step caller = run := by
  simp only [advance, absent]

theorem advance_of_some {task : τ} (found : run.tasks[caller]? = some task) :
    run.advance step caller =
      ⟨run.tasks.set caller (step task run.state).1, (step task run.state).2,
        run.turns ++ [⟨caller, task, (step task run.state).1, run.state,
          (step task run.state).2⟩]⟩ := by
  simp only [advance, found]

end Run

/-- How far a caller has come with an operation of the services. -/
inductive Task where
  /-- A toggle takes a turn for each of its statements. -/
  | toggle (userId todoId : Int) (progress : Todos.Toggle)
  /-- Any other operation issues at most one statement and takes one turn. -/
  | single (operation : Operation) (plain : operation.toggled? = none)
      (answer : Option (Except ServiceError Operation.Outcome))

namespace Task

/-- An operation before its first statement. -/
def ofOperation (operation : Operation) : Task :=
  match plain : operation.toggled? with
  | some (userId, todoId) => toggle userId todoId .reading
  | none => single operation plain none

/-- The operation that is carried out. -/
def operation : Task → Operation
  | toggle userId todoId _ => .toggle userId todoId
  | single operation _ _ => operation

/-- What a caller was answered, once the operation is over. -/
def answer? : Task → Option (Except ServiceError Operation.Outcome)
  | toggle _ _ (.done answer) => some (answer.map .completed)
  | toggle _ _ _ => none
  | single _ _ answer => answer

/-- One turn. Nothing happens once the operation is over. -/
def step {σ : Type} (r : Runner σ) (moment : Moment) (task : Task) (state : σ) : Task × σ :=
  match task with
  | toggle userId todoId progress =>
    let (progress, state) := progress.step r moment.now userId todoId state
    (toggle userId todoId progress, state)
  | single operation plain none =>
    let (answer, state) := operation.run r moment state
    (single operation plain (some answer), state)
  | single operation plain (some answer) => (single operation plain (some answer), state)

theorem operation_ofOperation (operation : Operation) :
    (ofOperation operation).operation = operation := by
  cases operation <;> rfl

end Task

end TodoServer
