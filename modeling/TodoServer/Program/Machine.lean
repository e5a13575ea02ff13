import TodoServer.Program.Config
import TodoServer.Program.EnvFile

/-!
# What a run needs

The disk, the log and the network as far as a run of the program uses them. A rehearsal has a tree
of files for the disk and keeps the log.
-/

namespace TodoServer.Program

/-- What a run asks of its surroundings. -/
structure Machine (m : Type → Type) where
  /-- What stands at a path. -/
  entry : String → m Entry
  /-- Makes a directory and those above it, and says whether it is there now. -/
  makeDirectories : String → m Bool
  /-- The path without detours of what stands at a path. -/
  canonical : String → m String
  /-- Opens a database file, or makes one, and says whether that went well. -/
  openDatabase : String → m Bool
  /-- Writes to the log. -/
  note : Event → m Unit
  /-- Serves until it is told to stop, with a log to write to, or says why it cannot serve. -/
  serve : (Event → m Unit) → Config → m (Option String)

/-- The note of a server that listens. -/
def Event.bound (config : ServerConfig) : Event :=
  ⟨.debug, "kotodo_server::api::server", "API server bound",
    [("addr", config.host ++ ":" ++ Text.decimalNat config.port)]⟩

/-- The state of a rehearsal. -/
structure Rehearsal where
  tree : Tree
  /-- What was noted, the latest first. -/
  log : List Event

namespace Rehearsal

/-- The name of a database that is kept in no file. -/
def unfiled : String := ":memory:"

/-- The tree after a database file has been opened, if that goes well. A file that holds anything is
no database of this program. -/
def openDatabase? (working : String) (t : Tree) (path : String) : Option Tree :=
  if path = unfiled then some t
  else match t.entry working path with
    | .directory => none
    | .file content => if content.isEmpty then some t else none
    | .missing =>
      match t.locate? working path with
      | some _ => some (t.write working path [])
      | none => none

/-- Why a server cannot listen on an address that the host does not have. -/
def addressRefused : String := "Cannot assign requested address (os error 99)"

/-- Whether an address stands for the host itself or for all of its interfaces. -/
def isOwnAddress (address : String) : Bool :=
  "127.".toList.isPrefixOf address.toList || ["0.0.0.0", "::", "::1"].contains address

/-- The machine of a rehearsal. -/
def machine (working : String) : Machine (StateM Rehearsal) where
  entry path := do return (← get).tree.entry working path
  makeDirectories path := do
    let s ← get
    match s.tree.makeDirectories? working path with
    | some tree =>
      set { s with tree }
      return true
    | none => return false
  canonical path := do return (← get).tree.canonical working path
  openDatabase path := do
    let s ← get
    match openDatabase? working s.tree path with
    | some tree =>
      set { s with tree }
      return true
    | none => return false
  note event := modify fun s => { s with log := event :: s.log }
  serve note config := do
    if isOwnAddress config.server.host then
      note (.bound config.server)
      return none
    else return some addressRefused

end Rehearsal

end TodoServer.Program
