import TodoServer.Auth.Manager
import TodoServer.Http.Origins
import TodoServer.Program.CommandLine
import TodoServer.Program.Event
import TodoServer.Program.FileSettings
import TodoServer.Program.Tree

/-!
# The configuration

Each setting comes from the command line, else from the nearer file, else from the file of the user,
else it has its standard value. The configuration as a whole has to pass a check.
-/

namespace TodoServer.Program

/-- Where the server listens. -/
structure ServerConfig where
  host : String
  port : Nat
  deriving DecidableEq, Repr

/-- How access tokens are made. -/
structure AuthConfig where
  /-- The secret, if one is configured. -/
  secret : Option String
  /-- The lifetime of tokens in minutes. -/
  lifetime : Nat
  deriving DecidableEq, Repr

/-- Where the database is. -/
structure DatabaseConfig where
  /-- The file, if one is configured. -/
  path : Option String
  maxConnections : Nat
  deriving DecidableEq, Repr

/-- All that the server has to know. -/
structure Config where
  server : ServerConfig
  auth : AuthConfig
  database : DatabaseConfig
  debug : Bool
  deriving DecidableEq, Repr

/-- Why there is no configuration. -/
inductive ConfigError where
  | fileMissing (path : String)
  | fileUnreadable (path : String)
  | fileMalformed (path : String)
  | lifetimeOutOfBounds
  | secretTooShort
  | noConnections
  deriving DecidableEq, Repr

/-- The length in bytes that a secret needs. -/
def shortestSecret : Nat := 32

/-- The wording of a configuration error. -/
def ConfigError.message : ConfigError → String
  | fileMissing path => "Config file not found: " ++ path
  | fileUnreadable path => "Failed to read config file: " ++ path
  | fileMalformed path => "Failed to parse config file: " ++ path
  | lifetimeOutOfBounds =>
    "Configuration error: auth.token_ttl_minutes must be between 1 and " ++
      Text.decimalNat Auth.Manager.longestLifetime
  | secretTooShort =>
    "Configuration error: JWT secret must be at least " ++ Text.decimalNat shortestSecret ++
      " bytes. Set via " ++ Setting.secret.variableName ++
      " env var or auth.jwt_secret in config file."
  | noConnections => "Configuration error: database.max_connections must be greater than 0"

/-- The settings of access tokens for a log, without the secret. -/
def AuthConfig.shown (a : AuthConfig) : String :=
  "AuthConfig \x7b jwt_secret: " ++ (if a.secret.isSome then "Some(\"[redacted]\")" else "None") ++
    ", token_ttl_minutes: " ++ Text.decimalNat a.lifetime ++ " \x7d"

namespace Config

/-! ## Standard values -/

def standardHost : String := "127.0.0.1"

def standardPort : Nat := 3000

/-- The lifetime of tokens in minutes. -/
def standardLifetime : Nat := 15

def standardConnections : Nat := 5

/-! ## Layers -/

/-- The configuration that the command line and the files give. -/
def layer (place : Place) (options : Options) (files : FileSettings) : Config where
  server :=
    { host := (options.host.or files.host).getD standardHost
      port := (options.port.or files.port).getD standardPort }
  auth :=
    { secret := (options.secret.or files.secret).filter (· ≠ "")
      lifetime := (options.lifetime.or files.lifetime).getD standardLifetime }
  database :=
    { path := options.database.or (files.path.map (Path.expand place))
      maxConnections := files.maxConnections.getD standardConnections }
  debug := options.debug || files.debug.getD false

/-- What is wrong with a configuration, if anything. -/
def fault? (c : Config) : Option ConfigError :=
  if c.auth.lifetime = 0 ∨ Auth.Manager.longestLifetime < c.auth.lifetime then
    some .lifetimeOutOfBounds
  else if c.auth.secret.any (·.utf8ByteSize < shortestSecret) then some .secretTooShort
  else if c.database.maxConnections = 0 then some .noConnections
  else none

/-! ## Files -/

/-- The name of a file of settings. -/
def fileName : String := "kotodo.json"

/-- The directory of the user's file within the home directory. -/
def profileDirectory : String := ".kotodo"

/-- The file of the user. -/
def profilePath (place : Place) : String :=
  Path.join (Path.join place.home profileDirectory) fileName

/-- The nearer file: the one named on the command line, or the one in the working directory. -/
def overlayPath (place : Place) (options : Options) : String :=
  match options.config with
  | some path => Path.expand place path
  | none => fileName

/-! ## Loading -/

/-- The part of the program that notes what happens here. -/
def source : String := "kotodo_server::core::config"

/-- A result and what was noted on the way, the latest first. -/
abbrev Loading (α : Type) := ExceptT ConfigError (StateM (List Event)) α

/-- Notes something. -/
def note (event : Event) : Loading Unit :=
  modify (event :: ·)

/-- Notes the unknown fields of a file, if it has any. -/
def noteUnknown (names : List String) : Loading Unit :=
  if names.isEmpty then pure ()
  else note ⟨.warn, source, "Unknown fields in config file (possible typos)",
    [("fields", Text.join ", " names)]⟩

/-- The settings of a file that is there. -/
def loadFile (path : String) (entry : Entry) : Loading FileSettings := do
  note ⟨.debug, source, "Loading config file", [("path", path)]⟩
  match entry with
  | .file content =>
    if (Text.decode? content).isNone then throw (.fileUnreadable path)
    match FileSettings.read? content with
    | some (settings, unknown) =>
      noteUnknown unknown
      return settings
    | none => throw (.fileMalformed path)
  | _ => throw (.fileUnreadable path)

/-- The settings of a file, none if it is not there. -/
def loadIfThere (path : String) (entry : Entry) : Loading FileSettings :=
  if entry = .missing then pure .empty else loadFile path entry

/-- The settings of both files. A file named on the command line has to be there. -/
def loadFiles (place : Place) (options : Options) (profile overlay : Entry) :
    Loading FileSettings := do
  let lower ← loadIfThere (profilePath place) profile
  let path := overlayPath place options
  if options.config.isSome && overlay = .missing then throw (.fileMissing path)
  let upper ← loadIfThere path overlay
  return upper.layeredOn lower

/-- Loads the configuration, given what stands at the paths of both files. -/
def load (place : Place) (options : Options) (profile overlay : Entry) : Loading Config := do
  note ⟨.debug, source, "Loading application configuration", []⟩
  let files ← loadFiles place options profile overlay
  note ⟨.debug, source, "Config files loaded", []⟩
  let config := layer place options files
  match config.fault? with
  | some fault => throw fault
  | none =>
    if Http.isEveryInterface config.server.host then
      note ⟨.warn, source, "Server is listening on all interfaces",
        [("host", config.server.host)]⟩
    return config

end Config

end TodoServer.Program
