import TodoServer.Program.Path

/-!
# Trees of files

Directories and files by their paths. There are no links, no permissions and no limits: a path leads
to what stands there, through directories only.
-/

namespace TodoServer.Program

/-- What stands at a path. -/
inductive Entry where
  | missing
  | directory
  | file (content : List UInt8)
  deriving DecidableEq, Repr, Inhabited

/-- Directories and files by the parts of their paths from the root. The root is always there. -/
structure Tree where
  entries : List (List String × Entry)
  deriving Repr

namespace Tree

/-- The tree with nothing but its root. -/
def empty : Tree := ⟨[]⟩

/-- What stands at the end of some parts. -/
def get (t : Tree) (parts : List String) : Entry :=
  if parts.isEmpty then .directory
  else ((t.entries.find? (·.1 == parts)).map (·.2)).getD .missing

/-- Puts an entry at the end of some parts. -/
def put (t : Tree) (parts : List String) (entry : Entry) : Tree :=
  ⟨(parts, entry) :: t.entries.filter (·.1 ≠ parts)⟩

/-- Where some parts lead to from a place, if all on the way are directories. -/
def walk? (t : Tree) : List String → List String → Option (List String)
  | at_, [] => some at_
  | at_, part :: rest =>
    if t.get at_ = .directory then
      walk? t (if part = ".." then at_.dropLast else at_ ++ [part]) rest
    else none

/-- Where a path leads to, seen from the working directory. -/
def locate? (t : Tree) (working path : String) : Option (List String) :=
  if path.isEmpty then none else t.walk? [] (Path.parts (Path.join working path))

/-- What stands at a path. -/
def entry (t : Tree) (working path : String) : Entry :=
  match t.locate? working path with
  | some parts => t.get parts
  | none => .missing

/-- Makes the directories on the way along some parts; none when a file stands in the way. -/
def makeAlong? (t : Tree) : List String → List String → Option Tree
  | _, [] => some t
  | at_, part :: rest =>
    let next := if part = ".." then at_.dropLast else at_ ++ [part]
    match t.get next with
    | .directory => makeAlong? t next rest
    | .missing => makeAlong? (t.put next .directory) next rest
    | .file _ => none

/-- Makes a directory and those above it; none when a file stands in the way. -/
def makeDirectories? (t : Tree) (working path : String) : Option Tree :=
  t.makeAlong? [] (Path.parts (Path.join working path))

/-- The path of some parts from the root. -/
def pathOf (parts : List String) : String :=
  "/" ++ Text.join "/" parts

/-- The path without detours of what stands at a path, or the path itself. -/
def canonical (t : Tree) (working path : String) : String :=
  match t.locate? working path with
  | some parts => if t.get parts = .missing then path else pathOf parts
  | none => path

/-- Writes a file where a path leads to, if it leads anywhere. -/
def write (t : Tree) (working path : String) (content : List UInt8) : Tree :=
  match t.locate? working path with
  | some parts => t.put parts (.file content)
  | none => t

/-- The tree with a directory and those above it, if nothing stands in the way. -/
def withDirectory (t : Tree) (path : String) : Tree :=
  (t.makeDirectories? "/" path).getD t

/-- The tree with a file and the directories above it, if nothing stands in the way. -/
def withFile (t : Tree) (path : String) (content : List UInt8) : Tree :=
  ((Path.parent? path).elim t t.withDirectory).write "/" path content

end Tree

end TodoServer.Program
