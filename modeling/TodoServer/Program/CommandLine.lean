import TodoServer.Text.Ascii

/-!
# The command line

Settings given as arguments, and by environment variables where no argument gives them. A setting
may be given once. A long option takes its value behind an equals sign or as the next argument; a
short one also directly behind its letter.
-/

namespace TodoServer.Program

/-- What can be set on the command line, in the order in which variables are looked up. -/
inductive Setting where
  | host
  | port
  | debug
  | config
  | database
  | secret
  | lifetime
  deriving DecidableEq, Repr

namespace Setting

/-- All settings in order. -/
def all : List Setting := [host, port, debug, config, database, secret, lifetime]

/-- The name of the long option. -/
def long : Setting → String
  | host => "host"
  | port => "port"
  | debug => "debug"
  | config => "config"
  | database => "db-path"
  | secret => "jwt-secret"
  | lifetime => "token-ttl-minutes"

/-- The setting of a letter. -/
def ofLetter? (c : Char) : Option Setting :=
  if c = 'H' then some host
  else if c = 'p' then some port
  else if c = 'c' then some config
  else none

/-- The environment variable that gives a setting. -/
def variableName : Setting → String
  | host => "KOTODO_HOST"
  | port => "KOTODO_PORT"
  | debug => "KOTODO_DEBUG"
  | config => "KOTODO_CONFIG"
  | database => "KOTODO_DB_PATH"
  | secret => "KOTODO_JWT_SECRET"
  | lifetime => "KOTODO_TOKEN_TTL_MINUTES"

end Setting

/-- Why a command line is not taken. Asking for help or for the version also ends the reading. -/
inductive UsageError where
  | unknownArgument
  /-- A value is missing, or is not one of those allowed. -/
  | invalidValue
  /-- A value cannot be read as a number within its bounds. -/
  | unreadableValue
  | givenTwice
  /-- A value was given to an option that takes none. -/
  | needlessValue
  | help
  | version
  deriving DecidableEq, Repr

/-- The settings that were given. -/
structure Options where
  host : Option String
  port : Option Nat
  debug : Bool
  config : Option String
  database : Option String
  secret : Option String
  /-- The lifetime of tokens in minutes. -/
  lifetime : Option Nat
  deriving DecidableEq, Repr, Inhabited

namespace Options

/-- Nothing is given. -/
def none : Options := ⟨.none, .none, false, .none, .none, .none, .none⟩

/-- A number below a bound. -/
def number (bound : Nat) (value : String) : Except UsageError Nat :=
  match Text.unsigned? bound value.toList with
  | some n => .ok n
  | .none => .error .unreadableValue

/-- A path, which may not be empty. -/
def path (value : String) : Except UsageError String :=
  if value.isEmpty then .error .invalidValue else .ok value

/-- A flag in words. -/
def flag (value : String) : Except UsageError Bool :=
  if value == "true" then .ok true
  else if value == "false" then .ok false
  else .error .invalidValue

/-- Takes the value of a setting. -/
def take (o : Options) (setting : Setting) (value : String) : Except UsageError Options :=
  match setting with
  | .host => .ok { o with host := some value }
  | .port => (number 65536 value).map fun n => { o with port := some n }
  | .debug => (flag value).map fun b => { o with debug := b }
  | .config => (path value).map fun p => { o with config := some p }
  | .database => (path value).map fun p => { o with database := some p }
  | .secret => .ok { o with secret := some value }
  | .lifetime => (number UInt64.size value).map fun n => { o with lifetime := some n }

end Options

namespace CommandLine

/-- How far the reading has come. -/
structure Progress where
  options : Options
  /-- The settings that have been given. -/
  given : List Setting
  /-- An option whose value is awaited, or stands behind it and has yet to be taken. -/
  pending : Option (Setting × Option String)
  /-- Whether everything from here on is no option. -/
  ended : Bool

/-- Nothing has been read. -/
def Progress.start : Progress := ⟨.none, [], none, false⟩

/-- Takes the value of a setting that has not been given before. -/
def store (p : Progress) (setting : Setting) (value : String) : Except UsageError Progress :=
  if p.given.contains setting then .error .givenTwice
  else (p.options.take setting value).map fun options =>
    { p with options, given := setting :: p.given }

/-- Takes the value of the pending option. -/
def settle (p : Progress) : Except UsageError Progress :=
  match p.pending with
  | none => .ok p
  | some (_, none) => .error .invalidValue
  | some (setting, some value) => store { p with pending := none } setting value

/-- Reads an option that takes a value, which may be attached. -/
def valued (p : Progress) (setting : Setting) (attached : Option String) :
    Except UsageError Progress := do
  let p ← settle p
  match attached with
  | some value => store p setting value
  | none => .ok { p with pending := some (setting, none) }

/-- Reads an option without a value that ends the reading. -/
def ending (p : Progress) (error : UsageError) : Except UsageError Progress := do
  let _ ← settle p
  .error error

/-- Reads a long option, given without its hyphens. -/
def readLong (p : Progress) (cs : List Char) : Except UsageError Progress :=
  let name := cs.takeWhile (· ≠ '=')
  let text := String.ofList name
  let attached : Option String :=
    if name.length < cs.length then some (String.ofList (cs.drop (name.length + 1))) else none
  let bare (read : Except UsageError Progress) : Except UsageError Progress :=
    if attached.isSome then .error .needlessValue else read
  if text == "help" then bare (ending p .help)
  else if text == "version" then bare (ending p .version)
  else match Setting.all.find? (·.long == text) with
    | none => .error .unknownArgument
    | some .debug => bare (do store (← settle p) .debug "true")
    | some setting => valued p setting attached

/-- Reads short options, given without their hyphen. The first one takes the rest as its value. -/
def readShort (p : Progress) (letter : Char) (rest : List Char) : Except UsageError Progress :=
  if letter = 'h' then ending p .help
  else if letter = 'V' then ending p .version
  else match Setting.ofLetter? letter with
    | none => .error .unknownArgument
    | some setting =>
      valued p setting (match rest with
        | [] => none
        | '=' :: value => some (String.ofList value)
        | value => some (String.ofList value))

/-- Reads one argument. -/
def readArgument (p : Progress) (argument : String) : Except UsageError Progress :=
  if p.ended then .error .unknownArgument
  else match argument.toList with
    | ['-', '-'] => .ok { p with ended := true }
    | '-' :: '-' :: rest => readLong p rest
    | '-' :: letter :: rest => readShort p letter rest
    | _ =>
      match p.pending with
      | some (setting, none) => .ok { p with pending := some (setting, some argument) }
      | _ => .error .unknownArgument

/-- Takes a setting from its variable, unless an argument has given it. -/
def readVariable (environment : List (String × String)) (p : Progress) (setting : Setting) :
    Except UsageError Progress :=
  if p.given.contains setting then .ok p
  else match environment.find? (·.1 == setting.variableName) with
    | some (_, value) => store p setting value
    | none => .ok p

/-- The settings of a command line and of environment variables. -/
def parse (arguments : List String) (environment : List (String × String)) :
    Except UsageError Options := do
  let p ← arguments.foldlM readArgument .start
  let p ← Setting.all.foldlM (readVariable environment) (← settle p)
  .ok p.options

end CommandLine

end TodoServer.Program
