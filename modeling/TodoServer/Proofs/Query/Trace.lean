import TodoServer.Query.Executor

/-!
# What a call hands over and logs

A runner with a record at its side answers and changes its state as the runner inside does. A call
adds to the record of statements what it hands over, and to the log an entry for each of these; its
command alone decides what that is.
-/

namespace TodoServer.Executor

variable {σ : Type}

/-- The statements that a command hands over. -/
def handed (d : Dialect) (command : Command) : List Statement :=
  match Statement.of d command with
  | .ok s => [s]
  | .error _ => []

theorem handed_of_accepted {d : Dialect} {command : Command} (h : command.refusal? d = none) :
    handed d command = [⟨command, d⟩] := by
  rw [handed, Statement.of_eq_ok_iff.2 ⟨h, rfl⟩]

theorem handed_of_refused {d : Dialect} {command : Command} {refusal : Refusal}
    (h : command.refusal? d = some refusal) : handed d command = [] := by
  rw [handed, Statement.of, h]

theorem execute_of_refused {r : Runner σ} {command : Command} {refusal : Refusal}
    (h : command.refusal? r.dialect = some refusal) (state : σ) :
    execute r command state = (.error (.refused refusal), state) := by
  rw [execute, statement, Statement.of, h]

theorem execute_state_of_handed_nil {r : Runner σ} {command : Command}
    (h : handed r.dialect command = []) (state : σ) : (execute r command state).2 = state := by
  cases refused : command.refusal? r.dialect with
  | none =>
    rw [handed_of_accepted refused] at h
    cases h
  | some refusal => rw [execute_of_refused refused]

/-! ## Records -/

/-- A runner that answers and changes a state as another one does, and adds to a record for each
statement that is logged and handed to it. -/
structure Records {α : Type} (recorder : Runner (σ × List α)) (r : Runner σ)
    (entry : Statement → α) : Prop where
  dialect : recorder.dialect = r.dialect
  fetch : ∀ s state record, recorder.fetch s (log recorder s (state, record)) =
    ((r.fetch s (log r s state)).1, (r.fetch s (log r s state)).2, record ++ [entry s])
  execute : ∀ s state record, recorder.execute s (log recorder s (state, record)) =
    ((r.execute s (log r s state)).1, (r.execute s (log r s state)).2, record ++ [entry s])

theorem log_noting (r : Runner σ) (s : Statement) (state : σ) (noted : List Statement) :
    log (noting r) s (state, noted) = (log r s state, noted) := by
  have kept : (noting r).log.keep? =
      r.log.keep?.map fun keep entry state => (keep entry state.1, state.2) := rfl
  rw [log, log, kept]
  cases r.log.keep? <;> rfl

theorem log_logging (r : Runner σ) (s : Statement) (state : σ) (logged : List LogEntry) :
    log (logging r) s (state, logged) = (log r s state, logged ++ [announce s]) := by
  rw [log]
  change (r.log.keep?.elim state fun keep => keep (announce s) state, _) = _
  cases kept : r.log.keep? <;> simp [log, kept]

theorem records_noting (r : Runner σ) : Records (noting r) r id where
  dialect := rfl
  fetch s state record := by
    rw [log_noting]
    rfl
  execute s state record := by
    rw [log_noting]
    rfl

theorem records_logging (r : Runner σ) : Records (logging r) r announce where
  dialect := rfl
  fetch s state record := by
    rw [log_logging]
    rfl
  execute s state record := by
    rw [log_logging]
    rfl

section

variable {α : Type} {recorder : Runner (σ × List α)} {r : Runner σ} {entry : Statement → α}
  (records : Records recorder r entry)

include records

theorem Records.statement (command : Command) :
    Executor.statement recorder command = Executor.statement r command := by
  rw [Executor.statement, Executor.statement, records.dialect]

theorem fetch_records (command : Command) (state : σ) (record : List α) :
    fetch recorder command (state, record) =
      ((fetch r command state).1, (fetch r command state).2,
        record ++ (handed r.dialect command).map entry) := by
  rw [fetch, fetch, records.statement, statement, handed]
  cases Statement.of r.dialect command with
  | ok s => simp only [records.fetch, List.map_cons, List.map_nil]
  | error refusal => simp

theorem execute_records (command : Command) (state : σ) (record : List α) :
    execute recorder command (state, record) =
      ((execute r command state).1, (execute r command state).2,
        record ++ (handed r.dialect command).map entry) := by
  rw [execute, execute, records.statement, statement, handed]
  cases Statement.of r.dialect command with
  | ok s => simp only [records.execute, List.map_cons, List.map_nil]
  | error refusal => simp

/-- A record leaves the answer and the state of a call alone and gains what the call issues. -/
theorem run_records (call : Call) (state : σ) (record : List α) :
    run recorder call (state, record) =
      ((run r call state).1, (run r call state).2,
        record ++ (call.issued r.dialect).map entry) := by
  cases call with
  | select table columns filter =>
    simp only [run, select, fetch_records records]
    rfl
  | insert table data =>
    simp only [run, insert, execute_records records]
    rfl
  | insertAll table rows =>
    cases rows with
    | nil => simp [run, insertAll, Call.issued, Call.command?]
    | cons first others =>
      simp only [run, insertAll, execute_records records]
      rfl
  | update table data filter =>
    simp only [run, update, execute_records records]
    rfl
  | delete table filter =>
    simp only [run, delete, execute_records records]
    rfl

end

variable (r : Runner σ)

theorem fetch_noting (command : Command) (state : σ) (issued : List Statement) :
    fetch (noting r) command (state, issued) =
      ((fetch r command state).1, (fetch r command state).2,
        issued ++ handed r.dialect command) := by
  rw [fetch_records (records_noting r), List.map_id]

theorem execute_noting (command : Command) (state : σ) (issued : List Statement) :
    execute (noting r) command (state, issued) =
      ((execute r command state).1, (execute r command state).2,
        issued ++ handed r.dialect command) := by
  rw [execute_records (records_noting r), List.map_id]

theorem run_noting (call : Call) (state : σ) (issued : List Statement) :
    run (noting r) call (state, issued) =
      ((run r call state).1, (run r call state).2, issued ++ call.issued r.dialect) := by
  rw [run_records (records_noting r), List.map_id]

theorem run_logging (call : Call) (state : σ) (logged : List LogEntry) :
    run (logging r) call (state, logged) =
      ((run r call state).1, (run r call state).2,
        logged ++ (call.issued r.dialect).map announce) :=
  run_records (records_logging r) call state logged

end TodoServer.Executor
