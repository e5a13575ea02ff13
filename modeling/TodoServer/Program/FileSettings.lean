import TodoServer.Json.Shape

/-!
# Settings in files

A file of settings is a JSON object with sections. Sections and their fields may be left out. Files
are laid over one another field by field.
-/

namespace TodoServer.Program

/-- The settings of the server itself. -/
structure ServerSection where
  host : Option String
  port : Option Nat
  deriving DecidableEq, Repr

/-- The settings of access tokens. -/
structure AuthSection where
  secret : Option String
  /-- The lifetime of tokens in minutes. -/
  lifetime : Option Nat
  deriving DecidableEq, Repr

/-- The settings of the database. -/
structure DatabaseSection where
  path : Option String
  maxConnections : Option Nat
  deriving DecidableEq, Repr

/-- What a file of settings gives. -/
structure FileSettings where
  server : Option ServerSection
  auth : Option AuthSection
  database : Option DatabaseSection
  debug : Option Bool
  deriving DecidableEq, Repr

namespace FileSettings

/-- No setting is given. -/
def empty : FileSettings := ⟨none, none, none, none⟩

/-! ## Single settings -/

def host (s : FileSettings) : Option String := s.server.bind (·.host)

def port (s : FileSettings) : Option Nat := s.server.bind (·.port)

def secret (s : FileSettings) : Option String := s.auth.bind (·.secret)

def lifetime (s : FileSettings) : Option Nat := s.auth.bind (·.lifetime)

def path (s : FileSettings) : Option String := s.database.bind (·.path)

def maxConnections (s : FileSettings) : Option Nat := s.database.bind (·.maxConnections)

/-! ## Laying over -/

/-- Lays a section over another one, if both are there. -/
def overSection {α : Type} (merge : α → α → α) : Option α → Option α → Option α
  | some upper, some lower => some (merge upper lower)
  | some upper, none => some upper
  | none, lower => lower

/-- The server section of two files. -/
def overServer (upper lower : ServerSection) : ServerSection :=
  ⟨upper.host.or lower.host, upper.port.or lower.port⟩

/-- The section of access tokens of two files. -/
def overAuth (upper lower : AuthSection) : AuthSection :=
  ⟨upper.secret.or lower.secret, upper.lifetime.or lower.lifetime⟩

/-- The database section of two files. -/
def overDatabase (upper lower : DatabaseSection) : DatabaseSection :=
  ⟨upper.path.or lower.path, upper.maxConnections.or lower.maxConnections⟩

/-- The settings of a file laid over those of another one. -/
def layeredOn (upper lower : FileSettings) : FileSettings where
  server := overSection overServer upper.server lower.server
  auth := overSection overAuth upper.auth lower.auth
  database := overSection overDatabase upper.database lower.database
  debug := upper.debug.or lower.debug

/-- A setting that is laid over field by field within its section is laid over as a whole. -/
theorem bind_overSection {α β : Type} {merge : α → α → α} {setting : α → Option β}
    (fieldwise : ∀ a b, setting (merge a b) = (setting a).or (setting b)) (upper lower : Option α) :
    (overSection merge upper lower).bind setting =
      (upper.bind setting).or (lower.bind setting) := by
  cases upper with
  | none => rfl
  | some a =>
    cases lower with
    | none => exact Option.or_none.symm
    | some b => exact fieldwise a b

@[simp] theorem host_layeredOn (a b : FileSettings) :
    (a.layeredOn b).host = a.host.or b.host :=
  bind_overSection (fun _ _ => rfl) a.server b.server

@[simp] theorem port_layeredOn (a b : FileSettings) :
    (a.layeredOn b).port = a.port.or b.port :=
  bind_overSection (fun _ _ => rfl) a.server b.server

@[simp] theorem secret_layeredOn (a b : FileSettings) :
    (a.layeredOn b).secret = a.secret.or b.secret :=
  bind_overSection (fun _ _ => rfl) a.auth b.auth

@[simp] theorem lifetime_layeredOn (a b : FileSettings) :
    (a.layeredOn b).lifetime = a.lifetime.or b.lifetime :=
  bind_overSection (fun _ _ => rfl) a.auth b.auth

@[simp] theorem path_layeredOn (a b : FileSettings) :
    (a.layeredOn b).path = a.path.or b.path :=
  bind_overSection (fun _ _ => rfl) a.database b.database

@[simp] theorem maxConnections_layeredOn (a b : FileSettings) :
    (a.layeredOn b).maxConnections = a.maxConnections.or b.maxConnections :=
  bind_overSection (fun _ _ => rfl) a.database b.database

@[simp] theorem debug_layeredOn (a b : FileSettings) :
    (a.layeredOn b).debug = a.debug.or b.debug := rfl

/-! ## Reading -/

/-- The shapes of the fields. -/
def fields : List (String × Json.Shape) :=
  [("server", .optional (.object [("host", .optional .text),
      ("port", .optional (.integer 0 65535))])),
    ("auth", .optional (.object [("jwt_secret", .optional .text),
      ("token_ttl_minutes", .optional (.integer 0 (UInt64.size - 1)))])),
    ("database", .optional (.object [("path", .optional .text),
      ("max_connections", .optional (.integer 0 (UInt32.size - 1)))])),
    ("debug", .optional .flag)]

/-- A natural number that a datum holds. -/
def natural? (d : Json.Datum) : Option Nat :=
  d.integer?.map Int.toNat

/-- The two fields of a section. -/
def pair? : Json.Datum → Option (Json.Datum × Json.Datum)
  | .object [a, b] => some (a, b)
  | _ => none

/-- The settings of a document of the shape. -/
def ofDatum : Json.Datum → FileSettings
  | .object [server, auth, database, debug] =>
    { server := (pair? server).map fun (host, port) => ⟨host.text?, natural? port⟩
      auth := (pair? auth).map fun (secret, lifetime) => ⟨secret.text?, natural? lifetime⟩
      database := (pair? database).map fun (path, most) => ⟨path.text?, natural? most⟩
      debug := debug.flag? }
  | _ => empty

/-- How deep the values of unknown fields may be nested. -/
def unknownNesting : Nat := 126

/-- Whether the value of an unknown field can be read. -/
def isReadable (d : Json.Draft) : Bool :=
  d.whole?.any fun value => value.nesting ≤ unknownNesting

/-- Reads a document: the settings, and the names of its unknown fields in order. -/
def read? (content : List UInt8) : Option (FileSettings × List String) :=
  match Json.Draft.ofGlyphs Json.Shape.skippedNesting (Text.glyphs content) with
  | (.obj members true, true) =>
    let unknown := members.filter fun (name, _) => !fields.any (·.1 == name)
    match (Json.Shape.object fields).fit (.obj members true) with
    | .ok datum =>
      if unknown.all fun (_, value) => isReadable value then
        some (ofDatum datum, (unknown.map (·.1)).eraseDups)
      else none
    | .error _ => none
  | _ => none

end FileSettings

end TodoServer.Program
