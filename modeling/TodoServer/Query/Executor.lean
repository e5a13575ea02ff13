import TodoServer.Query.Error
import TodoServer.Sql.Inlined

/-!
# Executing commands

A runner hands statements to storage and reports what storage answers. The executor writes each
command as one statement, logs it while the log takes entries for debugging, gives it to the runner
and shapes the answer. A command that is refused reaches neither the log nor the runner.
-/

namespace TodoServer

/-- An entry of the log: a statement is executed. -/
structure LogEntry where
  operation : String
  backend : Dialect
  /-- The statement with its values in place. -/
  sql : String
  deriving DecidableEq, Repr

/-- A log that is part of a state. -/
class Log (σ : Type) where
  /-- What becomes of the state with an entry for debugging, while such entries are taken. -/
  keep? : Option (LogEntry → σ → σ)

/-- A state without a log takes no entries. -/
instance (priority := low) Log.silent {σ : Type} : Log σ := ⟨none⟩

/-- What runs statements on a state, and the log at its side. -/
structure Runner (σ : Type) where
  dialect : Dialect
  fetch : Statement → σ → Except StorageError (List Record) × σ
  execute : Statement → σ → Except StorageError WriteOutcome × σ
  [log : Log σ]

namespace Executor

variable {σ : Type}

/-- The entry that announces a statement. -/
def announce (s : Statement) : LogEntry :=
  let written := s.written
  ⟨s.command.operation, s.dialect, Sql.inlined written.text written.values⟩

/-- Logs a statement, if entries for debugging are taken. -/
def log (r : Runner σ) (s : Statement) (state : σ) : σ :=
  match r.log.keep? with
  | some keep => keep (announce s) state
  | none => state

/-- The statement that a command becomes, or its refusal. -/
def statement (r : Runner σ) (command : Command) : Except QueryError Statement :=
  match Statement.of r.dialect command with
  | .ok s => .ok s
  | .error refusal => .error (.refused refusal)

/-- Runs a command that reads: its statement is logged and handed over. -/
def fetch (r : Runner σ) (command : Command) (state : σ) :
    Except QueryError (List Record) × σ :=
  match statement r command with
  | .error e => (.error e, state)
  | .ok s =>
    let (answer, state) := r.fetch s (log r s state)
    (answer.mapError .storage, state)

/-- Runs a command that writes: its statement is logged and handed over. -/
def execute (r : Runner σ) (command : Command) (state : σ) :
    Except QueryError WriteOutcome × σ :=
  match statement r command with
  | .error e => (.error e, state)
  | .ok s =>
    let (answer, state) := r.execute s (log r s state)
    (answer.mapError .storage, state)

/-- The id that an insertion into a table reports. -/
def insertedId (table : String) (answer : Except QueryError WriteOutcome) :
    Except QueryError Int := do
  let outcome ← answer
  match outcome.lastId with
  | some id => .ok id
  | none => .error (.insertFailed table)

/-- The rows that a filter accepts, in some columns or in all. -/
def select (r : Runner σ) (table : String) (columns : List String) (filter : Filter) (state : σ) :
    Except QueryError (List Record) × σ :=
  fetch r (.select table columns filter) state

/-- Stores a record and reports its id. -/
def insert (r : Runner σ) (table : String) (data : Record) (state : σ) :
    Except QueryError Int × σ :=
  let (answer, state) := execute r (.insert table data) state
  (insertedId table answer, state)

/-- Stores records in one statement and reports the last id. Without records there is no statement,
and the id is zero. -/
def insertAll (r : Runner σ) (table : String) (rows : List Record) (state : σ) :
    Except QueryError Int × σ :=
  match rows with
  | [] => (.ok 0, state)
  | first :: others =>
    let (answer, state) := execute r (.insertAll table first others) state
    (insertedId table answer, state)

/-- Changes the rows that a filter accepts and reports how many. -/
def update (r : Runner σ) (table : String) (data : Record) (filter : Filter) (state : σ) :
    Except QueryError Nat × σ :=
  let (answer, state) := execute r (.update table data filter) state
  (answer.map WriteOutcome.affected, state)

/-- Removes the rows that a filter accepts and reports how many. -/
def delete (r : Runner σ) (table : String) (filter : Filter) (state : σ) :
    Except QueryError Nat × σ :=
  let (answer, state) := execute r (.delete table filter) state
  (answer.map WriteOutcome.affected, state)

/-- A request to the executor. -/
inductive Call where
  | select (table : String) (columns : List String) (filter : Filter)
  | insert (table : String) (data : Record)
  | insertAll (table : String) (rows : List Record)
  | update (table : String) (data : Record) (filter : Filter)
  | delete (table : String) (filter : Filter)
  deriving Repr

/-- What a call returns. -/
inductive Reply where
  | rows (rows : List Record)
  | id (id : Int)
  | affected (count : Nat)
  deriving DecidableEq, Repr

/-- The command of a call, if it has one. -/
def Call.command? : Call → Option Command
  | .select table columns filter => some (.select table columns filter)
  | .insert table data => some (.insert table data)
  | .insertAll _ [] => none
  | .insertAll table (first :: others) => some (.insertAll table first others)
  | .update table data filter => some (.update table data filter)
  | .delete table filter => some (.delete table filter)

/-- The statements that a call hands to a runner of a dialect. -/
def Call.issued (d : Dialect) (call : Call) : List Statement :=
  match call.command? with
  | none => []
  | some command =>
    match Statement.of d command with
    | .ok s => [s]
    | .error _ => []

/-- Makes a call. -/
def run (r : Runner σ) (call : Call) (state : σ) : Except QueryError Reply × σ :=
  match call with
  | .select table columns filter =>
    let (answer, state) := select r table columns filter state
    (answer.map .rows, state)
  | .insert table data =>
    let (answer, state) := insert r table data state
    (answer.map .id, state)
  | .insertAll table rows =>
    let (answer, state) := insertAll r table rows state
    (answer.map .id, state)
  | .update table data filter =>
    let (answer, state) := update r table data filter state
    (answer.map .affected, state)
  | .delete table filter =>
    let (answer, state) := delete r table filter state
    (answer.map .affected, state)

/-- The runner that notes each statement it is given. -/
def noting (r : Runner σ) : Runner (σ × List Statement) where
  dialect := r.dialect
  fetch s state :=
    let noted := state.2 ++ [s]
    let (answer, inner) := r.fetch s state.1
    (answer, inner, noted)
  execute s state :=
    let noted := state.2 ++ [s]
    let (answer, inner) := r.execute s state.1
    (answer, inner, noted)
  log := ⟨r.log.keep?.map fun keep entry state => (keep entry state.1, state.2)⟩

/-- The runner beside a log that takes every entry. -/
def logging (r : Runner σ) : Runner (σ × List LogEntry) where
  dialect := r.dialect
  fetch s state :=
    let (answer, inner) := r.fetch s state.1
    (answer, inner, state.2)
  execute s state :=
    let (answer, inner) := r.execute s state.1
    (answer, inner, state.2)
  log := ⟨some fun entry state =>
    (r.log.keep?.elim state.1 fun keep => keep entry state.1, state.2 ++ [entry])⟩

end Executor

end TodoServer
