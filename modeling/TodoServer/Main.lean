import Std.Async.Select
import Std.Async.Signal
import Std.Async.TCP
import Std.Sync.Mutex
import TodoServer.Api.Site
import TodoServer.Http.Wire
import TodoServer.Program.Shutdown
import TodoServer.Program.Startup
import TodoServer.Storage.Opening

/-!
# The program

The machine that a run stands on: the disk, the clock and the network of the host. Rows are kept in
memory while the server runs; the database file marks their place and stays empty.
-/

namespace TodoServer.Program.Host

open Std.Async

/-- The time. -/
def now : IO Instant := do
  let time ← Std.Time.Timestamp.now
  return ⟨time.toMillisecondsSinceUnixEpoch.val.toNat⟩

/-- Random bytes. -/
def randomBytes (count : USize) : IO (List UInt8) := do
  return (← IO.getRandomBytes count).toList

/-- What a request takes from its surroundings. -/
def moment : IO Moment := do
  return ⟨← now, ← randomBytes Auth.PasswordHash.saltSize.toUSize,
    Auth.Token.idText (← randomBytes 16)⟩

/-- Writes a line of the log. -/
def note (event : Event) : IO Unit := do
  let level := event.level.name
  let margin := String.ofList (List.replicate (5 - level.length) ' ')
  IO.println ((← now).text ++ " " ++ margin ++ level ++ " " ++ event.text)

/-! ## The disk -/

/-- What stands at a path. What cannot be read counts as a directory. -/
def entry (path : String) : IO Entry := do
  match ← (IO.FS.readBinFile path).toBaseIO with
  | .ok content => return .file content.toList
  | .error _ =>
    match ← (IO.FS.realPath path).toBaseIO with
    | .ok _ => return .directory
    | .error _ => return .missing

/-- Whether an action ends without an error. -/
def succeeds (action : IO Unit) : IO Bool := do
  match ← action.toBaseIO with
  | .ok () => return true
  | .error _ => return false

/-- The path without detours of what stands at a path, or the path itself. -/
def canonical (path : String) : IO String := do
  match ← (IO.FS.realPath path).toBaseIO with
  | .ok found => return found.toString
  | .error _ => return path

/-- Opens a database file that holds nothing, or makes one. -/
def openDatabase (path : String) : IO Bool := do
  if path = Rehearsal.unfiled then return true
  match ← entry path with
  | .missing => succeeds (IO.FS.writeFile path "")
  | .file content => return content.isEmpty
  | .directory => return false

/-! ## The network -/

/-- The address of a host and a port. -/
def address? (config : ServerConfig) : Option Std.Net.SocketAddress :=
  match Std.Net.IPv4Addr.ofString config.host with
  | some address => some (.v4 ⟨address, config.port.toUInt16⟩)
  | none =>
    (Std.Net.IPv6Addr.ofString config.host).map fun address =>
      .v6 ⟨address, config.port.toUInt16⟩

/-- The bytes of a body that are of interest: one more than any endpoint takes. -/
def bodyLimit : Nat := Api.ownLimit + 1

/-- Reads a request. -/
partial def receive (client : TCP.Socket.Client) (found : List UInt8) :
    Async (Option Http.Request) := do
  match Http.Arrival.ofBytes bodyLimit found with
  | .complete request => return some request
  | .malformed => return none
  | .incomplete =>
    match ← client.recv? 65536 with
    | some bytes => receive client (found ++ bytes.toList)
    | none => return none

/-- The note of an entry of the log. -/
def executing (entry : LogEntry) : Event :=
  ⟨.debug, "kotodo_server::data::query::executor", "Executing statement",
    [("operation", entry.operation), ("backend", entry.backend.name), ("sql", entry.sql)]⟩

/-- A server at work: what answers requests, the database and the log. The site logs the statements
of a request beside the database. -/
structure Desk where
  site : Api.Site (Storage.Pool × List LogEntry)
  pool : Std.Mutex Storage.Pool
  note : Event → IO Unit

namespace Desk

/-- The response to a request. -/
def respond (desk : Desk) (request : Http.Request) : IO Http.Response := do
  let moment ← moment
  let (answer, entries) ← desk.pool.atomically do
    let (answer, next, entries) := desk.site.answer moment request (← get, [])
    set next
    return (answer, entries)
  for entry in entries do desk.note (executing entry)
  for text in answer.note.toList do
    desk.note ⟨.debug, "kotodo_server::api::middleware", text, []⟩
  return answer.response

/-- Answers one request of a client. -/
def attend (desk : Desk) (client : TCP.Socket.Client) : Async Unit := do
  try
    let response ← match ← receive client [] with
      | some request => desk.respond request
      | none => pure (.bare 400)
    client.send response.text.toUTF8
    client.shutdown
  catch _ => pure ()

/-- Attends to clients until a signal arrives. -/
partial def attendAll (desk : Desk) (server : TCP.Socket.Server) (stop : Signal.Waiter) :
    Async Unit := do
  let next? ← Selectable.one #[.case server.acceptSelector fun client => return some client,
    .case stop.selector fun () => return none]
  match next? with
  | some client =>
    background (desk.attend client)
    desk.attendAll server stop
  | none => return ()

end Desk

/-- Serves until the program is interrupted, and closes the pool behind the last request. -/
def serve (note : Event → IO Unit) (config : Config) : IO (Option String) := do
  match address? config.server with
  | none => return some RunError.address.message
  | some address =>
    let server ← TCP.Socket.Server.mk
    match ← (do server.bind address; server.listen 1024 : IO Unit).toBaseIO with
    | .error e => return some (toString e)
    | .ok () =>
      note (.bound config.server)
      let site : Api.Site (Storage.Pool × List LogEntry) :=
        { runner := Executor.logging Storage.Pool.runner
          manager := .of config.auth.secret (← randomBytes Auth.Manager.randomKeySize.toUSize)
            config.auth.lifetime
          origins := .of config.server.host config.server.port }
      let pool ← Std.Mutex.new (Storage.Pool.fresh (← now).seconds)
      let stop ← Signal.Waiter.mk .sigint false
      (Desk.attendAll ⟨site, pool, note⟩ server stop).block
      pool.atomically do
        let last := (Shutdown.of (← get)).after [.trigger, .shutdown]
        set last.pool
      return none

/-- The machine of the host. -/
def machine : Machine IO where
  entry := entry
  makeDirectories path := succeeds (IO.FS.createDirAll path)
  canonical := canonical
  openDatabase := openDatabase
  note := note
  serve := serve

/-- The names of the variables that the program looks at. -/
def variableNames : List String :=
  ["HOME", DataPlace.variableName, DataPlace.sharedVariable] ++ Startup.filterVariables ++
    Setting.all.map (·.variableName)

/-- The variables of the environment. -/
def environment : IO EnvFile.Variables := do
  let found ← variableNames.mapM fun name =>
    return (← IO.getEnv name).map fun value => (name, value)
  return found.filterMap id

/-- The text that is shown when a run ends. -/
def report : Ending → Option String
  | .usage .help => some ("Usage: " ++ programName ++ " [OPTIONS]")
  | .usage .version => some (programName ++ " " ++ version)
  | .usage _ => some ("error: invalid command line\n\nFor more information, try '--help'.")
  | .failed e => some ("\nError: " ++ e.message ++ "\n")
  | .served => none

end TodoServer.Program.Host

open TodoServer.Program

/-- Runs the program. -/
def main (arguments : List String) : IO UInt32 := do
  let environment ← Host.environment
  let home := (EnvFile.lookUp? environment "HOME").getD "/"
  let place : Place := ⟨home, (← IO.currentDir).toString⟩
  let ending ← Startup.run Host.machine place environment arguments
  match Host.report ending with
  | some text => if ending.exitCode = 0 then IO.println text else IO.eprintln text
  | none => pure ()
  return ending.exitCode.toUInt32
