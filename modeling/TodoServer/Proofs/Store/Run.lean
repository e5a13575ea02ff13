import TodoServer.Proofs.Store.Operation
import TodoServer.Service.Interleaving

/-!
# Runs on a store

Callers that take turns on a database that is filled by a valid store take the same turns on the
store itself. What holds before the first turn and is kept by each turn holds of every run.
-/

namespace TodoServer

open Storage

/-! ## Runs -/

/-- An item of a list with one more item at its end is that item or stands before it. -/
theorem eq_or_eq_of_append_singleton {α : Type} {xs front back : List α} {x y : α}
    (parts : xs ++ [x] = front ++ y :: back) :
    (front = xs ∧ y = x) ∨ ∃ others, xs = front ++ y :: others := by
  rcases List.eq_nil_or_concat back with rfl | ⟨others, last, rfl⟩
  · obtain ⟨rfl, single⟩ := List.append_inj' parts rfl
    exact .inl ⟨rfl, (List.cons.inj single).1.symm⟩
  · rw [List.concat_eq_append, ← List.cons_append, ← List.append_assoc] at parts
    exact .inr ⟨others, (List.append_inj' parts rfl).1⟩

namespace Turn

variable {τ σ ρ : Type}

/-- A turn with its states seen through a function. -/
def map (f : σ → ρ) (turn : Turn τ σ) : Turn τ ρ :=
  ⟨turn.caller, turn.before, turn.after, f turn.source, f turn.target⟩

end Turn

namespace Run

variable {τ σ ρ : Type}

/-- A run with its states seen through a function. -/
def map (f : σ → ρ) (run : Run τ σ) : Run τ ρ :=
  ⟨run.tasks, f run.state, run.turns.map (Turn.map f)⟩

theorem turnsOf_map (f : σ → ρ) (run : Run τ σ) (caller : Nat) :
    (run.map f).turnsOf caller = (run.turnsOf caller).map (Turn.map f) := by
  rw [turnsOf, map, List.filter_map]
  rfl

/-- What holds at the start and is kept by each turn holds after a schedule. -/
theorem follow_induction {motive : Run τ σ → Prop} {step : Moment → τ → σ → τ × σ} {run : Run τ σ}
    (schedule : List (Nat × Moment)) (start : motive run)
    (turn : ∀ (run : Run τ σ) (caller : Nat) (task : τ) (moment : Moment),
      run.tasks[caller]? = some task → motive run →
      motive ⟨run.tasks.set caller (step moment task run.state).1, (step moment task run.state).2,
        run.turns ++ [⟨caller, task, (step moment task run.state).1, run.state,
          (step moment task run.state).2⟩]⟩) :
    motive (run.follow step schedule) := by
  induction schedule generalizing run with
  | nil => exact start
  | cons first others ih =>
    change motive ((run.advance (step first.2) first.1).follow step others)
    cases found : run.tasks[first.1]? with
    | none =>
      rw [advance_of_none found]
      exact ih start
    | some task =>
      rw [advance_of_some found]
      exact ih (turn run first.1 task first.2 found start)

/-- A schedule on states that are seen through a function, when each turn on them is one on the
states themselves and keeps what that depends on. -/
theorem follow_map (f : σ → ρ) (keeps : σ → Prop) {step : Moment → τ → σ → τ × σ}
    {shown : Moment → τ → ρ → τ × ρ}
    (same : ∀ moment task s, keeps s →
      shown moment task (f s) = ((step moment task s).1, f (step moment task s).2))
    (kept : ∀ moment task s, keeps s → keeps (step moment task s).2) {run : Run τ σ}
    (schedule : List (Nat × Moment)) (start : keeps run.state) :
    (run.map f).follow shown schedule = (run.follow step schedule).map f := by
  induction schedule generalizing run with
  | nil => rfl
  | cons first others ih =>
    change ((run.map f).advance (shown first.2) first.1).follow shown others =
      ((run.advance (step first.2) first.1).follow step others).map f
    cases found : run.tasks[first.1]? with
    | none =>
      have absent : (run.map f).tasks[first.1]? = none := found
      rw [advance_of_none found, advance_of_none absent]
      exact ih start
    | some task =>
      have present : (run.map f).tasks[first.1]? = some task := found
      have here : (run.map f).advance (shown first.2) first.1 =
          (run.advance (step first.2) first.1).map f := by
        rw [advance_of_some found, advance_of_some present]
        simp only [map, same _ _ _ start, List.map_append, List.map_cons, List.map_nil, Turn.map]
      rw [here]
      refine ih ?_
      rw [advance_of_some found]
      exact kept first.2 task run.state start

end Run

/-! ## Turns on a store -/

namespace Task

/-- One turn on a store. -/
def effect (moment : Moment) (task : Task) (s : Store) : Task × Store :=
  match task with
  | toggle userId todoId progress =>
    (toggle userId todoId (progress.effect moment.now userId todoId s).1,
      (progress.effect moment.now userId todoId s).2)
  | single operation plain none =>
    (single operation plain (some (operation.effect moment s).1), (operation.effect moment s).2)
  | single operation plain (some answer) => (single operation plain (some answer), s)

variable {s : Store} {rest : Database}

theorem step_pool (valid : s.Valid) (moment : Moment) (task : Task) :
    task.step Pool.runner moment (s.pool rest) =
      ((task.effect moment s).1, (task.effect moment s).2.pool rest) := by
  cases task with
  | toggle userId todoId progress =>
    rw [step, Todos.Toggle.step_pool valid]
    rfl
  | single operation plain answer =>
    cases answer with
    | none =>
      rw [step, Operation.run_pool valid]
      rfl
    | some answer => rfl

/-- What one turn does to a store: a flip by the write of a toggle that finds the flag as it was
seen, or else a change that flips nothing. -/
theorem effect_cases (valid : s.Valid) (moment : Moment) (task : Task) :
    s.Change (task.effect moment s).2 ∨
      ∃ userId todoId seen, task = toggle userId todoId (.writing seen) ∧
        (task.effect moment s).1 = toggle userId todoId (.done (.ok !seen)) ∧
        Store.Flip userId todoId seen s (task.effect moment s).2 := by
  cases task with
  | single operation plain answer =>
    cases answer with
    | some answer => exact .inl .none
    | none =>
      refine .inl (Operation.effect_change valid moment fun userId todoId same => ?_)
      rw [same] at plain
      cases plain
  | toggle userId todoId progress =>
    cases progress with
    | reading => exact .inl .none
    | done answer => exact .inl .none
    | writing seen =>
      by_cases still : s.flag? userId todoId = some seen
      · obtain ⟨s', changed, flip⟩ := Store.changeTodo_of_flag valid moment.now.text still
        refine .inr ⟨userId, todoId, seen, rfl, ?_, ?_⟩ <;>
          simp only [effect, Todos.Toggle.effect, still, if_true, changed]
        exact flip
      · left
        simp only [effect, Todos.Toggle.effect, still, if_false]
        exact .none

theorem effect_valid (valid : s.Valid) (moment : Moment) (task : Task) :
    (task.effect moment s).2.Valid := by
  rcases effect_cases valid moment task with change | ⟨_, _, _, _, _, flip⟩
  · exact valid.change change
  · exact valid.flip flip

theorem effect_follows (valid : s.Valid) (moment : Moment) (task : Task) :
    s.Follows (task.effect moment s).2 := by
  rcases effect_cases valid moment task with change | ⟨_, _, _, _, _, flip⟩
  · exact change.follows
  · exact flip.follows

end Task

/-- A schedule on a database that is filled by a valid store is one on the store. -/
theorem Run.follow_pool (rest : Database) (run : Run Task Store) (valid : run.state.Valid)
    (schedule : List (Nat × Moment)) :
    (run.map (·.pool rest)).follow (Task.step Pool.runner) schedule =
      (run.follow Task.effect schedule).map (·.pool rest) := by
  have same (moment : Moment) (task : Task) (s : Store) (valid : s.Valid) :
      task.step Pool.runner moment (s.pool rest) =
        ((task.effect moment s).1, (task.effect moment s).2.pool rest) :=
    Task.step_pool valid moment task
  have kept (moment : Moment) (task : Task) (s : Store) (valid : s.Valid) :=
    Task.effect_valid valid moment task
  exact follow_map (·.pool rest) Store.Valid same kept schedule valid

end TodoServer
