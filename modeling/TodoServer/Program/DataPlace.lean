import TodoServer.Program.Machine

/-!
# Where data is kept

The directory of the program's data and the file of its database. Both directories are made if they
are not there.
-/

namespace TodoServer.Program

/-- Where data is kept. -/
structure DataPlace where
  directory : String
  database : String
  deriving DecidableEq, Repr

/-- Why data cannot be kept. -/
inductive PlaceError where
  | dataDirectory (path : String)
  | databaseDirectory (path : String)
  deriving DecidableEq, Repr

/-- The wording of such an error. -/
def PlaceError.message : PlaceError → String
  | dataDirectory path => "Failed to create data directory: " ++ path
  | databaseDirectory path => "Failed to create database directory: " ++ path

namespace DataPlace

/-- The variable that gives the directory. -/
def variableName : String := "KOTODO_DATA_DIR"

/-- The variable that gives the directory of all programs' data. -/
def sharedVariable : String := "XDG_DATA_HOME"

/-- The name of the program's directory among those of other programs. -/
def directoryName : String := "kotodo"

/-- The name of the database file. -/
def fileName : String := "kotodo.db"

/-- The part of the program that notes what happens here. -/
def source : String := "kotodo_server::core::storage"

/-- The directory of all programs' data. A variable that gives no absolute path does not count. -/
def sharedDirectory (place : Place) (environment : EnvFile.Variables) : String :=
  match (EnvFile.lookUp? environment sharedVariable).filter Path.isAbsolute with
  | some path => path
  | none => Path.join place.home ".local/share"

/-- The directory of the program's data. -/
def resolve (place : Place) (environment : EnvFile.Variables) : String :=
  match EnvFile.lookUp? environment variableName with
  | some path => Path.expand place path
  | none => Path.join (sharedDirectory place environment) directoryName

/-- The directory that has to be there for a database file, if any. -/
def directoryFor? (database : String) : Option String :=
  (Path.parent? database).filter (· ≠ "")

/-- Makes the directories. -/
def prepare {m : Type → Type} [Monad m] (machine : Machine m) (place : Place)
    (environment : EnvFile.Variables) (config : Config) : ExceptT PlaceError m DataPlace := do
  let wanted := resolve place environment
  if !(← machine.makeDirectories wanted) then throw (.dataDirectory wanted)
  let directory ← machine.canonical wanted
  let database := config.database.path.getD (Path.join directory fileName)
  if let some above := directoryFor? database then
    if !(← machine.makeDirectories above) then throw (.databaseDirectory above)
  machine.note ⟨.debug, source, "Storage initialized",
    [("data_dir", directory), ("db_path", database)]⟩
  if config.debug then
    machine.note ⟨.warn, source,
      "Debug mode enabled, statements are logged with inlined values", []⟩
  return ⟨directory, database⟩

end DataPlace

end TodoServer.Program
