import TodoServer.Storage.Cell

/-!
# Schema

The four tables: the version of the schema, the history of its migrations, users and todos. Each
has an integer key as its first column. The definitions are given twice, as data that statements
are checked against and as the text that creates the tables.
-/

namespace TodoServer.Storage

/-- What a check asks of a column. A check accepts null. -/
inductive CheckRule where
  /-- At least so many characters. -/
  | minLength (least : Nat)
  /-- At least and at most so many characters. -/
  | lengthWithin (least most : Nat)
  /-- One of some integers. -/
  | oneOf (allowed : List Int)
  deriving DecidableEq, Repr

/-- A check of a column, with the text that reports it. -/
structure Check where
  rule : CheckRule
  text : String
  deriving DecidableEq, Repr

namespace CheckRule

/-- Whether a rule accepts a cell. -/
def accepts : CheckRule → Cell → Bool
  | minLength least, cell => cell.length?.all (least ≤ ·)
  | lengthWithin least most, cell => cell.length?.all fun n => least ≤ n && n ≤ most
  | oneOf allowed, cell => cell.isNull || allowed.any fun n => cell.order (.integer n) == .eq

end CheckRule

/-- A column beside the key. -/
structure Column where
  name : String
  affinity : Affinity
  notNull : Bool
  standard : Cell
  check? : Option Check
  deriving DecidableEq, Repr

/-- A table of the schema. -/
inductive TableId where
  | versions
  | history
  | users
  | todos
  deriving DecidableEq, Repr, Inhabited

/-- The definition of a table. -/
structure TableSchema where
  name : String
  /-- The name of the integer key, the first column. -/
  key : String
  /-- A check of the key. -/
  keyCheck? : Option Check
  /-- Whether keys of removed rows are never issued again. -/
  autoincrement : Bool
  columns : List Column
  /-- The columns whose values differ from row to row. -/
  unique : List String
  deriving DecidableEq, Repr

namespace TableSchema

def versions : TableSchema where
  name := "schema_version"
  key := "id"
  keyCheck? := some ⟨.oneOf [1], "id = 1"⟩
  autoincrement := false
  columns := [
    ⟨"version", .integer, true, .null, none⟩,
    ⟨"applied_at", .integer, true, .null, none⟩,
    ⟨"description", .text, false, .null, none⟩]
  unique := []

def history : TableSchema where
  name := "schema_migrations"
  key := "version"
  keyCheck? := none
  autoincrement := false
  columns := [
    ⟨"name", .text, true, .null, none⟩,
    ⟨"applied_at", .integer, true, .null, none⟩,
    ⟨"checksum", .text, true, .null, none⟩,
    ⟨"execution_time_ms", .integer, false, .null, none⟩,
    ⟨"success", .integer, true, .integer 1, none⟩]
  unique := []

def users : TableSchema where
  name := "users"
  key := "id"
  keyCheck? := none
  autoincrement := true
  columns := [
    ⟨"name", .text, true, .null,
      some ⟨.lengthWithin 1 100, "length(name) >= 1 AND length(name) <= 100"⟩⟩,
    ⟨"email", .text, true, .null, some ⟨.minLength 3, "length(email) >= 3"⟩⟩,
    ⟨"password_hash", .text, true, .null, none⟩,
    ⟨"created_at", .text, true, .null, none⟩,
    ⟨"updated_at", .text, true, .null, none⟩]
  unique := ["email"]

def todos : TableSchema where
  name := "todos"
  key := "id"
  keyCheck? := none
  autoincrement := true
  columns := [
    ⟨"title", .text, true, .null, some ⟨.minLength 1, "length(title) >= 1"⟩⟩,
    ⟨"description", .text, false, .null, none⟩,
    ⟨"completed", .integer, true, .integer 0, some ⟨.oneOf [0, 1], "completed IN (0, 1)"⟩⟩,
    ⟨"user_id", .integer, true, .null, none⟩,
    ⟨"created_at", .text, true, .null, none⟩,
    ⟨"updated_at", .text, true, .null, none⟩]
  unique := []

/-- The names of all columns, the key first. -/
def columnNames (s : TableSchema) : List String :=
  s.key :: s.columns.map Column.name

/-- The position of a column, the key being zero. Case does not matter. -/
def position? (s : TableSchema) (name : String) : Option Nat :=
  s.columnNames.findIdx? (Text.sameLetters name)

/-- The affinity of the column at a position. -/
def affinityAt (s : TableSchema) (position : Nat) : Affinity :=
  match position with
  | 0 => .integer
  | i + 1 => (s.columns[i]?.map Column.affinity).getD .none

end TableSchema

namespace TableId

def all : List TableId := [versions, history, users, todos]

def schema : TableId → TableSchema
  | versions => .versions
  | history => .history
  | users => .users
  | todos => .todos

/-- The table of a name. Case does not matter. -/
def named? (name : String) : Option TableId :=
  all.find? fun id => Text.sameLetters name id.schema.name

end TableId

/-- An index of the schema. -/
inductive IndexId where
  | usersName
  | todosUser
  | todosUserCompleted
  deriving DecidableEq, Repr

namespace IndexId

def all : List IndexId := [usersName, todosUser, todosUserCompleted]

def name : IndexId → String
  | usersName => "idx_users_name"
  | todosUser => "idx_todos_user"
  | todosUserCompleted => "idx_todos_user_completed"

/-- The table that an index belongs to. -/
def table : IndexId → TableId
  | usersName => .users
  | todosUser => .todos
  | todosUserCompleted => .todos

end IndexId

/-- The version of the schema that a fresh database gets. -/
def schemaVersion : Int := 2

/-- The text that creates the tables and indexes of a fresh database. -/
def schemaText : String :=
  "
-- =============================================================================
-- Infrastructure: Schema version tracking
-- =============================================================================
CREATE TABLE IF NOT EXISTS schema_version (
    id INTEGER PRIMARY KEY CHECK (id = 1),
    version INTEGER NOT NULL,
    applied_at INTEGER NOT NULL,
    description TEXT
);

CREATE TABLE IF NOT EXISTS schema_migrations (
    version INTEGER PRIMARY KEY,
    name TEXT NOT NULL,
    applied_at INTEGER NOT NULL,
    checksum TEXT NOT NULL,
    execution_time_ms INTEGER,
    success INTEGER NOT NULL DEFAULT 1
);

-- =============================================================================
-- 1. Users
-- =============================================================================
CREATE TABLE IF NOT EXISTS users (
    id INTEGER PRIMARY KEY AUTOINCREMENT,
    name TEXT NOT NULL CHECK(length(name) >= 1 AND length(name) <= 100),
    email TEXT NOT NULL UNIQUE CHECK(length(email) >= 3),
    password_hash TEXT NOT NULL,
    created_at TEXT NOT NULL,
    updated_at TEXT NOT NULL
);

CREATE INDEX IF NOT EXISTS idx_users_name ON users(name);

-- =============================================================================
-- 2. Todos (references users)
-- =============================================================================
CREATE TABLE IF NOT EXISTS todos (
    id INTEGER PRIMARY KEY AUTOINCREMENT,
    title TEXT NOT NULL CHECK(length(title) >= 1),
    description TEXT,
    completed INTEGER NOT NULL DEFAULT 0 CHECK(completed IN (0, 1)),
    user_id INTEGER NOT NULL REFERENCES users(id) ON DELETE CASCADE,
    created_at TEXT NOT NULL,
    updated_at TEXT NOT NULL
);

CREATE INDEX IF NOT EXISTS idx_todos_user ON todos(user_id);
CREATE INDEX IF NOT EXISTS idx_todos_user_completed ON todos(user_id, completed);
"

end TodoServer.Storage
