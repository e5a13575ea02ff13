import TodoServer.Text.Ascii
import TodoServer.Text.Blank

/-!
# Paths

Paths of files as texts: parts with slashes between them. A path is absolute when a slash stands in
front; others are seen from the working directory, and a tilde stands for the home directory.
-/

namespace TodoServer.Program

/-- The directories that paths are seen from. -/
structure Place where
  home : String
  working : String
  deriving DecidableEq, Repr

namespace Path

/-- Whether a slash stands in front. -/
def isAbsolute (path : String) : Bool :=
  path.toList.head? == some '/'

/-- A path seen from a directory. -/
def join (directory path : String) : String :=
  if isAbsolute path || directory.isEmpty then path
  else if directory.toList.getLast? == some '/' then directory ++ path
  else directory ++ "/" ++ path

/-- A path as a user writes it, seen from the working directory. Blanks around it do not count, and
nothing stands for the working directory itself. -/
def expand (place : Place) (path : String) : String :=
  let path := Text.trim path
  let homed := match path.toList with
    | ['~'] => place.home
    | '~' :: '/' :: rest => join place.home (String.ofList rest)
    | _ => path
  if homed.isEmpty then place.working else join place.working homed

/-- The parts of a path that lead somewhere. -/
def parts (path : String) : List String :=
  (Text.split '/' path).filter fun part => part ≠ "" ∧ part ≠ "."

/-- Drops the slashes and single dots at the end, given in reverse. -/
def dropIdle : List Char → List Char
  | '/' :: rest => dropIdle rest
  | '.' :: '/' :: rest => dropIdle rest
  | cs => cs

/-- The directory that a path lies in; none for the root and for the empty path. A bare name lies in
the empty path. -/
def parent? (path : String) : Option String :=
  match dropIdle path.toList.reverse with
  | [] => none
  | cs =>
    let above := dropIdle (cs.dropWhile (· ≠ '/'))
    some (if above.isEmpty && isAbsolute path then "/" else String.ofList above.reverse)

/-- A path and the directories above it, the nearest first. -/
def directoriesAbove : Nat → String → List String
  | 0, _ => []
  | n + 1, path =>
    path :: (match parent? path with
      | some above => directoriesAbove n above
      | none => [])

/-- A directory and the directories above it, the nearest first. -/
def upwards (directory : String) : List String :=
  directoriesAbove (directory.length + 1) directory

example : expand ⟨"/home/ada", "/work"⟩ "~/x" = "/home/ada/x" := by decide
example : expand ⟨"/home/ada", "/work"⟩ "~x" = "/work/~x" := by decide
example : expand ⟨"/home/ada", "/work"⟩ " " = "/work" := by decide
example : parent? "a/b.db" = some "a" := by decide
example : parent? "b.db" = some "" := by decide
example : parent? "/" = none := by decide

end Path

end TodoServer.Program
