import TodoServer.Storage.Database

/-!
# Migrations

A database without a version table gets the whole schema in one step. One with an older version is
taken forward version by version; each step is recorded in the history. A step that fails leaves no
trace.
-/

namespace TodoServer.Storage

namespace Database

/-- The database with an empty table where there was none. -/
def createTable (db : Database) (id : TableId) : Database :=
  match db.table? id with
  | some _ => db
  | none => db.setTable id .empty

/-- The database with an index, if it was not there. Its table has to exist. -/
def createIndex (db : Database) (index : IndexId) : Except StorageError Database :=
  match db.table? index.table with
  | none => .error (.database ("error returned from database: (code: 1) no such table: main." ++
      index.table.schema.name))
  | some _ =>
    if db.indexes.contains index then .ok db
    else .ok { db with indexes := db.indexes ++ [index] }

/-- The database without an index. -/
def dropIndex (db : Database) (index : IndexId) : Except StorageError Database :=
  if db.indexes.contains index then .ok { db with indexes := db.indexes.filter (· ≠ index) }
  else .error (.database ("no such index: " ++ index.name))

/-- The database without a table and its indexes. -/
def dropTable (db : Database) (id : TableId) : Except StorageError Database :=
  match db.table? id with
  | none => .error (.database ("no such table: " ++ id.schema.name))
  | some _ =>
    let rest := { db with indexes := db.indexes.filter fun index => index.table ≠ id }
    match id with
    | .versions => .ok { rest with versions := none }
    | .history => .ok { rest with history := none }
    | .users => .ok { rest with users := none }
    | .todos => .ok { rest with todos := none }

/-- The names of the indexes of a table, sorted. -/
def indexNames (db : Database) (id : TableId) : List String :=
  (IndexId.all.filter fun index => index.table = id && db.indexes.contains index).map IndexId.name

end Database

/-- A step from one version of the schema to the next. -/
structure Migration where
  version : Int
  name : String
  /-- The text of the step, whose checksum is recorded. -/
  text : String
  /-- The index that the step creates. -/
  index : IndexId
  deriving DecidableEq, Repr

namespace Migration

/-- Lists of todos by status get an index. -/
def indexTodosByStatus : Migration where
  version := 2
  name := "index_todos_by_status"
  text := "CREATE INDEX IF NOT EXISTS idx_todos_user_completed ON todos(user_id, completed)"
  index := .todosUserCompleted

/-- Hashes a text to its checksum. -/
abbrev Checksum := String → String

/-- The entry of a step in the history. -/
def historyEntry (version : Int) (name checksum : String) (now : Int) : Record :=
  .ofList [("version", .integer version), ("name", .text name), ("applied_at", .integer now),
    ("checksum", .text checksum), ("execution_time_ms", .integer 0), ("success", .integer 1)]

/-- Creates all tables and indexes and records the version. -/
def initialSchema (checksum : Checksum) (now : Int) (db : Database) :
    Except StorageError Database := do
  let db := TableId.all.foldl Database.createTable db
  let db ← IndexId.all.foldlM Database.createIndex db
  let (db, _) ← db.insert "schema_version" (.ofList [("id", .integer 1),
    ("version", .integer schemaVersion), ("applied_at", .integer now),
    ("description", .text "Initial schema")])
  let (db, _) ← db.insert "schema_migrations"
    (historyEntry schemaVersion "initial_schema" (checksum schemaText) now)
  .ok db

/-- The filter of the row that holds the version. -/
def versionRow : Filter :=
  ⟨[.condition ⟨"id", .eq, .integer 1⟩]⟩

/-- Takes a step and records it. -/
def apply (checksum : Checksum) (now : Int) (m : Migration) (db : Database) :
    Except StorageError Database := do
  let db ← match db.createIndex m.index with
    | .ok db => .ok db
    | .error (.database detail) => .error (.migrationFailed "sqlite" m.version m.name
        ("Failed at statement: " ++ String.ofList (m.text.toList.take 50) ++ " - " ++ detail))
    | .error e => .error e
  let (db, _) ← db.update "schema_version" (.ofList [("version", .integer m.version),
    ("applied_at", .integer now), ("description", .text m.name)]) versionRow
  let (db, _) ← db.insert "schema_migrations"
    (historyEntry m.version m.name (checksum m.text) now)
  .ok db

/-- Takes the step to a version. The first version is part of the initial schema. -/
def applyVersion (checksum : Checksum) (now : Int) (version : Int) (db : Database) :
    Except StorageError Database :=
  if version = 1 then .ok db
  else if version = 2 then indexTodosByStatus.apply checksum now db
  else .error (.migrationFailed "sqlite" version "unknown"
    ("Unknown migration version: " ++ Text.decimal version))

/-- Takes `count` steps, the first one to a version. -/
def applyFrom (checksum : Checksum) (now : Int) :
    Nat → Int → Database → Except StorageError Database
  | 0, _, db => .ok db
  | count + 1, version, db => do
    let db ← applyVersion checksum now version db
    applyFrom checksum now count (version + 1) db

/-- The version recorded in a table, or zero. It has 32 bits. -/
def recordedVersion (versions : Table) : Except StorageError Int :=
  match versions.row? 1 with
  | none => .ok 0
  | some row =>
    match row.cell 1 with
    | .integer n =>
      if -2147483648 ≤ n ∧ n ≤ 2147483647 then .ok n
      else .error (.database "error occurred while decoding column 0")
    | _ => .error (.database "error occurred while decoding column 0")

/-- Brings a database to the current version of the schema. -/
def run (checksum : Checksum) (now : Int) (db : Database) : Except StorageError Database :=
  match db.versions with
  | none => initialSchema checksum now db
  | some versions => do
    let current ← recordedVersion versions
    applyFrom checksum now (schemaVersion - current).toNat (current + 1) db

end Migration

end TodoServer.Storage
