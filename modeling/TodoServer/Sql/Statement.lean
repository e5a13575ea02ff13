import TodoServer.Data.Record
import TodoServer.Sql.Fragment

/-!
# Statements

A command says what is asked of a table; a statement is a command written in a dialect. Commands
that would change all rows of a table, or change nothing, are refused before they are written.
-/

namespace TodoServer

/-- What is asked of a table. -/
inductive Command where
  /-- Rows that a filter accepts; all columns when none are named. -/
  | select (table : String) (columns : List String) (filter : Filter)
  | insert (table : String) (data : Record)
  /-- Several rows in one statement, with the columns of the first. -/
  | insertAll (table : String) (first : Record) (others : List Record)
  | update (table : String) (data : Record) (filter : Filter)
  | delete (table : String) (filter : Filter)
  deriving Repr

/-- Why a command is refused. -/
inductive Refusal where
  | missingFilter (operation table : String)
  | missingUpdateData (table : String)
  deriving DecidableEq, Repr

namespace Refusal

/-- The wording of a refusal. -/
def message : Refusal → String
  | missingFilter operation table => s!"Refusing to {operation} {table} without conditions"
  | missingUpdateData table => s!"No data provided to update {table}"

def code : Refusal → String
  | missingFilter _ _ => "MISSING_FILTER"
  | missingUpdateData _ => "MISSING_UPDATE_DATA"

end Refusal

namespace Command

/-- The name of the command in the log. -/
def operation : Command → String
  | select .. => "select"
  | insert .. => "insert"
  | insertAll .. => "bulk_insert"
  | update .. => "update"
  | delete .. => "delete"

/-- Why a command is refused, if it is. A filter that comes to no text is no filter, and an update
without data is refused for that first. -/
def refusal? (d : Dialect) : Command → Option Refusal
  | update table data filter =>
    if data.isEmpty then some (.missingUpdateData table)
    else if (Fragment.ofFilter d data.size filter).isEmpty then some (.missingFilter "update" table)
    else none
  | delete table filter =>
    if (Fragment.ofFilter d 0 filter).isEmpty then some (.missingFilter "delete from" table)
    else none
  | _ => none

/-- A tuple of placeholders for each record, behind `bound` values. -/
def tuples (d : Dialect) (bound : Nat) : List Record → List String
  | [] => []
  | row :: rest =>
    ("(" ++ d.placeholderList (bound + 1) row.size ++ ")") :: tuples d (bound + row.size) rest

/-- An assignment for each field, the first value at a position. -/
def assignments (d : Dialect) (position : Nat) : List String → List String
  | [] => []
  | field :: rest => (field ++ " = " ++ d.placeholder position) :: assignments d (position + 1) rest

/-- The command written in a dialect. -/
def write (d : Dialect) : Command → Fragment
  | select table columns filter =>
    let projection := if columns.isEmpty then "*" else Text.join ", " columns
    let condition := Fragment.ofFilter d 0 filter
    let text := "SELECT " ++ projection ++ " FROM " ++ table
    ⟨if condition.isEmpty then text else text ++ " WHERE " ++ condition.text, condition.values⟩
  | insert table data =>
    if data.isEmpty then ⟨"INSERT INTO " ++ table ++ " DEFAULT VALUES", []⟩
    else
      ⟨"INSERT INTO " ++ table ++ " (" ++ Text.join ", " data.names ++ ") VALUES (" ++
        d.placeholderList 1 data.size ++ ")", data.values⟩
  | insertAll table first others =>
    ⟨"INSERT INTO " ++ table ++ " (" ++ Text.join ", " first.names ++ ") VALUES " ++
      Text.join ", " (tuples d 0 (first :: others)), (first :: others).flatMap Record.values⟩
  | update table data filter =>
    let condition := Fragment.ofFilter d data.size filter
    ⟨"UPDATE " ++ table ++ " SET " ++ Text.join ", " (assignments d 1 data.names) ++ " WHERE " ++
      condition.text, data.values ++ condition.values⟩
  | delete table filter =>
    let condition := Fragment.ofFilter d 0 filter
    ⟨"DELETE FROM " ++ table ++ " WHERE " ++ condition.text, condition.values⟩

/-- The values that a command binds, in order. -/
def values : Command → List Scalar
  | select _ _ filter => filter.values
  | insert _ data => data.values
  | insertAll _ first others => (first :: others).flatMap Record.values
  | update _ data filter => data.values ++ filter.values
  | delete _ filter => filter.values

theorem values_write (d : Dialect) (command : Command) :
    (command.write d).values = command.values := by
  cases command with
  | insert table data =>
    simp only [write, values]
    split
    · next blank => simp_all [Record.isEmpty, Record.values]
    · rfl
  | insertAll => rfl
  | select | update | delete =>
    simp only [write, values, Filter.values, Fragment.ofFilter, Fragment.values_ofNodes]

end Command

/-- A command that was not refused, in a dialect. -/
structure Statement where
  command : Command
  dialect : Dialect
  deriving Repr

/-- What a statement that writes reports. -/
structure WriteOutcome where
  /-- The id of the last row stored. -/
  lastId : Option Int
  /-- How many rows were stored, changed or removed. -/
  affected : Nat
  deriving DecidableEq, Repr, Inhabited

namespace Statement

/-- The text of a statement and the values of its placeholders. -/
def written (s : Statement) : Fragment :=
  s.command.write s.dialect

/-- The statement of a command, unless the command is refused. -/
def of (d : Dialect) (command : Command) : Except Refusal Statement :=
  match command.refusal? d with
  | some refusal => .error refusal
  | none => .ok ⟨command, d⟩

theorem of_eq_ok_iff {d : Dialect} {command : Command} {s : Statement} :
    Statement.of d command = .ok s ↔ command.refusal? d = none ∧ s = ⟨command, d⟩ := by
  rw [Statement.of]
  cases command.refusal? d with
  | none => simp [eq_comm]
  | some refusal => simp

end Statement

end TodoServer
