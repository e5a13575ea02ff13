import TodoServer.Address.Ip
import TodoServer.Program.DataPlace
import TodoServer.Version

/-!
# Running the program

A run reads the variables of a file, then the command line, then the configuration; it makes its
directories, opens the database and serves. The first step that fails ends the run.
-/

namespace TodoServer.Program

/-- Why a run fails. -/
inductive RunError where
  | config (error : ConfigError)
  | place (error : PlaceError)
  | database (path : String)
  | address
  | serving (reason : String)
  deriving DecidableEq, Repr

/-- The wording of a failure. -/
def RunError.message : RunError → String
  | config e => e.message
  | place e => e.message
  | database path => "Failed to open database at " ++ path ++ ": Database error"
  | address => "invalid IP address syntax"
  | serving reason => reason

/-- How a run ends. -/
inductive Ending where
  /-- The command line was not taken, or asked for help or for the version. -/
  | usage (error : UsageError)
  | failed (error : RunError)
  /-- The server ran until it was told to stop. -/
  | served
  deriving DecidableEq, Repr

/-- The code that the program ends with. -/
def Ending.exitCode : Ending → Nat
  | usage .help | usage .version => 0
  | usage _ => 2
  | failed _ => 1
  | served => 0

namespace Startup

/-- The part of the program that notes what happens here. -/
def source : String := "kotodo_server::app"

/-- The part of the program that notes what happens to the database. -/
def databaseSource : String := "kotodo_server::data::sqlite"

/-- The part of the program that notes how it ends. -/
def shutdownSource : String := "kotodo_server::core::shutdown"

/-- The name of the program in its log. -/
def displayName : String := "Kotodo"

/-- The variables that give the filter of the log, the first one that is set counting. -/
def filterVariables : List String := ["KOTODO_LOG", "RUST_LOG"]

/-- The filter of the log. -/
def filter (environment : EnvFile.Variables) (options : Options) : LogFilter :=
  .parse ((filterVariables.findSome? (EnvFile.lookUp? environment)).getD
    (LogFilter.standard options.debug))

variable {m : Type → Type} [Monad m] (machine : Machine m)

/-- The content of the first of some paths at which a file stands. -/
def firstFile? : List String → m (Option (List UInt8))
  | [] => return none
  | path :: rest => do
    match ← machine.entry path with
    | .file content => return some content
    | _ => firstFile? rest

/-- The variables together with those that a file gives. -/
def allVariables (place : Place) (environment : EnvFile.Variables) : m EnvFile.Variables := do
  match ← firstFile? machine (EnvFile.candidates place) with
  | some content => return EnvFile.load content environment
  | none => return environment

/-- The configuration. -/
def configure (place : Place) (options : Options) : ExceptT RunError m Config := do
  let profile ← machine.entry (Config.profilePath place)
  let overlay ← machine.entry (Config.overlayPath place options)
  let (result, notes) := Config.load place options profile overlay |>.run.run []
  for event in notes.reverse do machine.note event
  match result with
  | .ok config => return config
  | .error e => throw (.config e)

/-- The database, which is opened in its place. -/
def openDatabase (place : Place) (environment : EnvFile.Variables) (config : Config) :
    ExceptT RunError m DataPlace := do
  match ← (DataPlace.prepare machine place environment config).run with
  | .error e => throw (.place e)
  | .ok data =>
    if !(← machine.openDatabase data.database) then throw (.database data.database)
    machine.note ⟨.debug, databaseSource ++ "::migrations", "Applied initial schema", []⟩
    machine.note ⟨.debug, databaseSource, "SqliteService initialized", [("path", data.database)]⟩
    return data

/-- The run behind the command line. -/
def start (place : Place) (environment : EnvFile.Variables) (options : Options) :
    ExceptT RunError m Unit := do
  machine.note ⟨.debug, source, "Application starting", []⟩
  let config ← configure machine place options
  let data ← openDatabase machine place environment config
  if config.auth.secret.isNone then
    machine.note ⟨.warn, "kotodo_server::api::auth::manager", Auth.Manager.randomKeyWarning, []⟩
  machine.note ⟨.debug, source, "Background tasks started", []⟩
  machine.note ⟨.info, source, displayName ++ " listening",
    [("host", config.server.host), ("port", Text.decimalNat config.server.port),
      ("database", data.database)]⟩
  if !Address.isIp config.server.host.toList then throw .address
  match ← machine.serve machine.note config with
  | some reason => throw (.serving reason)
  | none =>
    machine.note ⟨.debug, shutdownSource, "Initiating graceful shutdown...", []⟩
    machine.note ⟨.debug, databaseSource, "SQLite pool closed", []⟩
    machine.note ⟨.debug, shutdownSource, "Shutdown complete", []⟩

/-- A machine whose log is written through a filter. -/
def filtered (filter : LogFilter) : Machine m :=
  { machine with note := fun event => if filter.allows event then machine.note event else pure () }

/-- A run of the program. -/
def run (place : Place) (environment : EnvFile.Variables) (arguments : List String) : m Ending := do
  let environment ← allVariables machine place environment
  match CommandLine.parse arguments environment with
  | .error e => return .usage e
  | .ok options =>
    let machine := filtered machine (filter environment options)
    match ← (start machine place environment options).run with
    | .ok () => return .served
    | .error e => return .failed e

end Startup

end TodoServer.Program
