import TodoServer.Proofs.Sql.Clauses
import TodoServer.Proofs.Storage.Statements
import TodoServer.Proofs.Store.Condition
import TodoServer.Storage.Pool

/-!
# Storage that goes by the text

A pool that is handed nothing but the text of a statement and its values reads the command from them
and refuses a text that says none. It answers and changes as a pool that is handed the command:
which rows a filter finds depends on its formula, and a batch stores the values of its records under
the names of the first.
-/

namespace TodoServer

open Storage

namespace Storage

/-! ## A runner that reads -/

namespace Pool

/-- The runner on the pool that takes a statement to ask for what `meaning` makes of it. -/
def serving (meaning : Statement → Except StorageError Command) : Runner Pool where
  dialect := .sqlite
  fetch s p :=
    (if p.isOpen then checkValues s >>= fun () => meaning s >>= p.database.read
      else .error .poolClosed, p)
  execute s p :=
    if p.isOpen then
      match checkValues s >>= fun () => meaning s >>= p.database.write with
      | .ok (database, outcome) =>
        let lastId := if outcome.affected = 0 then none else outcome.lastId
        (.ok ⟨lastId, outcome.affected⟩, { p with database })
      | .error e => (.error e, p)
    else (.error .poolClosed, p)

/-- The command that a statement says in its text. -/
def said (s : Statement) : Except StorageError Command :=
  match s.written.command? .folded with
  | some command => .ok command
  | none => .error (.database "syntax error")

/-- The runner on the pool that goes by the text of a statement and its values. -/
def textRunner : Runner Pool := serving said

/-- The runner on the pool takes a statement for the command that it was made of. -/
theorem runner_eq_serving : runner = serving fun s => .ok s.command := rfl

end Pool

/-! ## Filters -/

namespace Database

variable {filter : Filter} {id : TableId}

theorem checkFields_normal (schema : TableSchema) (filter : Filter) :
    checkFields schema filter.normal = checkFields schema filter := by
  rw [checkFields, checkFields, filter.allConditions_normal]

theorem accepted_normal (schema : TableSchema) (filter : Filter) (rows : List Row) :
    accepted schema filter.normal rows = accepted schema filter rows := by
  induction rows with
  | nil => rfl
  | cons row rest ih => rw [accepted, accepted, filter.accepts_normal, ih]

/-- A filter finds what it finds if it is made again from its formula, as long as it visits rows in
the same order. -/
theorem find_normal (order : alternatives? id filter.normal = alternatives? id filter) (t : Table) :
    find id t filter.normal = find id t filter := by
  have visited : visitOrder id filter.normal t.rows = visitOrder id filter t.rows := by
    rw [visitOrder, visitOrder, order]
  rw [find, find, checkFields_normal, visited, accepted_normal]

/-- An equality of something that has a name is true, false or unknown in every row. -/
theorem conditionTruth_of_named {schema : TableSchema} {c : Condition} {term : Term}
    (equality : c.comparison = .eq) (named : Term.ofText? schema c.field = some term) (row : Row) :
    ∃ truth, conditionTruth schema row c = .ok truth := by
  simp only [conditionTruth, named, compareTruth, equality]
  split <;> exact ⟨_, rfl⟩

/-- Whether a condition is true of a row. -/
def holds (schema : TableSchema) (c : Condition) (row : Row) : Bool :=
  match conditionTruth schema row c with
  | .ok .yes => true
  | _ => false

theorem visitOrder_single {c : Condition} (through : alternatives? id filter = some [c])
    (rows : List Row) : visitOrder id filter rows = rows.filter (holds id.schema c) := by
  rw [visitOrder, through]
  simp only [List.foldl_cons, List.foldl_nil, List.nil_append, List.any_nil, Bool.not_false,
    Bool.and_true]
  rfl

theorem accepted_single {schema : TableSchema} {c : Condition} {term : Term}
    (equality : c.comparison = .eq) (named : Term.ofText? schema c.field = some term)
    (rows : List Row) :
    accepted schema ⟨[.condition c]⟩ rows = .ok (rows.filter (holds schema c)) := by
  have accepts : ∀ row ∈ rows, Filter.accepts (conditionTruth schema row) ⟨[.condition c]⟩ =
      .ok (holds schema c row) := by
    intro row _
    obtain ⟨truth, found⟩ := conditionTruth_of_named equality named row
    simp only [holds, Filter.accepts, Node.truthAll, Node.truth, found]
    cases truth <;> rfl
  have all : accepted schema ⟨[.condition c]⟩ (rows.map fun row => row) = _ := accepted_map accepts
  simpa only [List.map_id'] using all

/-- The rows that meet an equality are those of a choice with this equality alone, whether they are
visited through an index or in the order of keys. -/
theorem find_normal_single {c : Condition} (equality : c.comparison = .eq) (t : Table) :
    find id t (Filter.normal ⟨[.group .or [.condition c]]⟩) =
      find id t ⟨[.group .or [.condition c]]⟩ := by
  have normal : Filter.normal ⟨[.group .or [.condition c]]⟩ = ⟨[.condition c]⟩ := rfl
  have plain : alternatives? id ⟨[.condition c]⟩ = none := by cases id <;> rfl
  cases through : alternatives? id ⟨[.group .or [.condition c]]⟩ with
  | none => exact find_normal (by rw [normal, plain, through]) t
  | some alternatives =>
    have only : alternatives = [c] := by
      cases id with
      | users =>
        simp only [alternatives?, equality, true_and, List.mapM_cons, List.mapM_nil] at through
        split at through
        · exact (Option.some.inj through).symm
        · cases through
      | versions | history | todos => cases through
    have whole : visitOrder id ⟨[.condition c]⟩ t.rows = t.rows := by rw [visitOrder, plain]
    rw [only] at through
    rw [find, find, checkFields_normal, visitOrder_single through, normal, whole,
      ← accepted_normal id.schema ⟨[.group .or [.condition c]]⟩, normal]
    cases named : Term.ofText? id.schema c.field with
    | none => simp [checkFields, Node.allConditions, Node.conditions, named, bind, Except.bind]
    | some term =>
      rw [accepted_single equality named, accepted_single equality named, List.filter_filter]
      simp

end Database

end Storage

/-! ## Commands -/

/-- A filter finds the same rows in the same order when it is made again from its formula. -/
def Filter.FindsAlike (filter : Filter) : Prop :=
  ∀ id t, Database.find id t filter.normal = Database.find id t filter

theorem Filter.findsAlike_of_order {filter : Filter}
    (order : ∀ id, Database.alternatives? id filter.normal = Database.alternatives? id filter) :
    filter.FindsAlike :=
  fun id t => Database.find_normal (order id) t

theorem Record.values_renamed {columns : List String} {r : Record}
    (size : r.size = columns.length) :
    (r.renamed columns).values = r.values := by
  rw [← length_values] at size
  exact List.map_snd_zip (Nat.le_of_eq size)

theorem Record.size_renamed {columns : List String} {r : Record} (size : r.size = columns.length) :
    (r.renamed columns).size = r.size := by
  rw [← length_values, values_renamed size, length_values]

namespace Command

/-- A filter of the command finds the same rows in the same order when it is made again. -/
def FindsAlike : Command → Prop
  | select _ _ filter | update _ _ filter | delete _ filter => filter.FindsAlike
  | insert .. | insertAll .. => True

variable (db : Database) {command : Command}

theorem read_normal (alike : command.FindsAlike) : db.read command.normal = db.read command := by
  cases command with
  | select table columns filter =>
    have found : ∀ id t, Database.find id t filter.normal = Database.find id t filter := alike
    simp only [normal, Database.read, Database.select, found]
  | insertAll table first others => cases others <;> rfl
  | insert | update | delete => rfl

/-- What is made again from a text is written as what the text was written for. -/
theorem write_normal (even : command.IsEven) (alike : command.FindsAlike) :
    db.write command.normal = db.write command := by
  cases command with
  | select | insert => rfl
  | insertAll table first others =>
    obtain ⟨given, sizes⟩ := even
    cases others with
    | nil => exact (Database.insertAll_of_even given sizes).symm
    | cons second more =>
      have fits : ∀ r ∈ second :: more, r.size = first.names.length := fun r mem =>
        (sizes r mem).trans first.length_names.symm
      have again :
          ∀ r ∈ (second :: more).map (Record.renamed first.names), r.size = first.size := by
        intro r mem
        obtain ⟨s, held, rfl⟩ := List.mem_map.1 mem
        rw [Record.size_renamed (fits s held), sizes s held]
      have values : ((second :: more).map (Record.renamed first.names)).map Record.values =
          (second :: more).map Record.values := by
        rw [List.map_map]
        exact List.map_congr_left fun r mem => Record.values_renamed (fits r mem)
      change db.insertAll table first ((second :: more).map (Record.renamed first.names)) =
        db.insertAll table first (second :: more)
      rw [Database.insertAll_of_even given again, Database.insertAll_of_even given sizes,
        List.map_cons (l := (second :: more).map _), values]
      rfl
  | update table data filter =>
    have found : ∀ id t, Database.find id t filter.normal = Database.find id t filter := alike
    simp only [normal, Database.write, Database.update, found]
  | delete table filter =>
    have found : ∀ id t, Database.find id t filter.normal = Database.find id t filter := alike
    simp only [normal, Database.write, Database.delete, found]

/-- A command of which nothing is lost in its text. -/
structure Textual (command : Command) : Prop where
  plain : ∀ name ∈ command.names, Sql.isPlainName .folded name = true
  even : command.IsEven
  alike : command.FindsAlike

end Command

/-! ## Statements -/

section

variable {command : Command} (textual : command.Textual)

include textual

namespace Storage.Pool

/-- A statement that is not refused says in its text what its command asks for. -/
theorem said_statement (accepted : command.refusal? .sqlite = none) :
    said ⟨command, .sqlite⟩ = .ok command.normal := by
  have read := Fragment.command?_write textual.plain accepted textual.even
  rw [said, Statement.written, read]

variable (accepted : command.refusal? .sqlite = none) (p : Pool)

include accepted

theorem fetch_textRunner :
    textRunner.fetch ⟨command, .sqlite⟩ p = runner.fetch ⟨command, .sqlite⟩ p := by
  rw [runner_eq_serving]
  simp only [textRunner, serving, said_statement textual accepted, bind, Except.bind,
    command.read_normal p.database textual.alike]

theorem execute_textRunner :
    textRunner.execute ⟨command, .sqlite⟩ p = runner.execute ⟨command, .sqlite⟩ p := by
  rw [runner_eq_serving]
  simp only [textRunner, serving, said_statement textual accepted, bind, Except.bind,
    command.write_normal p.database textual.even textual.alike]

end Storage.Pool

namespace Executor

omit textual in
theorem accepted_of_statement {s : Statement} (made : statement Pool.runner command = .ok s) :
    command.refusal? .sqlite = none ∧ s = ⟨command, .sqlite⟩ := by
  rw [statement] at made
  cases written : Statement.of Pool.runner.dialect command with
  | error refusal => simp [written] at made
  | ok other =>
    rw [written] at made
    cases made
    exact Statement.of_eq_ok_iff.1 written

/-- A command that reads is answered by its text as it is by itself. -/
theorem fetch_textRunner (p : Pool) :
    fetch Pool.textRunner command p = fetch Pool.runner command p := by
  have same : statement Pool.textRunner command = statement Pool.runner command := rfl
  rw [fetch, fetch, same]
  cases made : statement Pool.runner command with
  | error e => rfl
  | ok s =>
    obtain ⟨accepted, rfl⟩ := accepted_of_statement made
    simp only [Pool.fetch_textRunner textual accepted]
    rfl

/-- A command that writes is carried out by its text as it is by itself. -/
theorem execute_textRunner (p : Pool) :
    execute Pool.textRunner command p = execute Pool.runner command p := by
  have same : statement Pool.textRunner command = statement Pool.runner command := rfl
  rw [execute, execute, same]
  cases made : statement Pool.runner command with
  | error e => rfl
  | ok s =>
    obtain ⟨accepted, rfl⟩ := accepted_of_statement made
    simp only [Pool.execute_textRunner textual accepted]
    rfl

end Executor

end

end TodoServer
