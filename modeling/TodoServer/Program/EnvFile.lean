import TodoServer.Program.Path
import TodoServer.Text.Utf8

/-!
# Files of environment variables

Lines of a name, an equals sign and a value. Values may be quoted, strongly or weakly; outside
strong quotes a backslash escapes and a dollar sign stands before the name of a variable. Reading
ends at the first line that cannot be read; what came before it holds. Variables that are set
already stay.
-/

namespace TodoServer.Program.EnvFile

/-- The name of the file, which is looked for in the working directory and those above it. -/
def fileName : String := ".env"

/-! ## Lines -/

/-- Where the reading of a line stands. -/
inductive LineState where
  | plain
  | blank
  | escaped
  | strong
  | strongEscaped
  | weak
  | weakEscaped
  deriving DecidableEq, Repr

/-- The state outside quotes after a character that is no blank. -/
def LineState.entered (c : Char) : LineState :=
  if c = '\\' then .escaped
  else if c = '"' then .weak
  else if c = '\x27' then .strong
  else .plain

/-- The state after one more character. -/
def LineState.step (s : LineState) (c : Char) : LineState :=
  match s with
  | blank => entered c
  | plain => if Text.isBlank c && c ≠ '\n' && c ≠ '\r' then blank else entered c
  | escaped => plain
  | weak => if c = '\\' then weakEscaped else if c = '"' then plain else weak
  | weakEscaped => weak
  | strong => if c = '\\' then strongEscaped else if c = '\x27' then plain else strong
  | strongEscaped => strong

/-- A line without the break at its end. -/
def withoutBreak (cs : List Char) : List Char :=
  match cs.reverse with
  | '\n' :: '\r' :: rest => rest.reverse
  | '\n' :: rest => rest.reverse
  | _ => cs

/-- How a piece of text up to a line break ends. -/
inductive LineEnd where
  /-- A comment starts behind some characters. -/
  | comment (before : List Char)
  | state (state : LineState)

/-- Reads a piece of text, of which the characters in `seen` have been read, in reverse. -/
def scan (s : LineState) (seen : List Char) : List Char → LineEnd
  | [] => .state s
  | c :: rest =>
    if s = .blank ∧ c = '#' then .comment seen.reverse
    else scan (s.step c) (c :: seen) rest

/-- The pieces of a text, each with the line break at its end. -/
def pieces : List Char → List (List Char)
  | [] => []
  | c :: rest =>
    if c = '\n' then [c] :: pieces rest
    else match pieces rest with
      | [] => [[c]]
      | piece :: others => (c :: piece) :: others

/-- The lines of a text, of which `held` has been read without an end in the state `s`. A quoted
line break does not end a line. The last item is `none` when the text ends within a line that has
not. -/
def lines (s : LineState) (held : List Char) : List (List Char) → List (Option (List Char))
  | [] => if s = .plain then [] else [none]
  | piece :: rest =>
    let all := held ++ piece
    if (Text.trimStart all).head? == some '#' then some [] :: lines .plain [] rest
    else match scan s [] piece with
      | .comment before => some (held ++ before) :: lines .plain [] rest
      | .state .plain => some (withoutBreak all) :: lines .plain [] rest
      | .state s => lines s all rest

/-! ## Values -/

/-- Whether the name of a variable is being read. -/
inductive Naming where
  | none
  | bare
  | braced
  deriving DecidableEq, Repr

/-- How far a value has been read. -/
structure Reading where
  strong : Bool
  weak : Bool
  escaped : Bool
  /-- Whether only blanks and a comment may follow. -/
  ended : Bool
  /-- Whether a comment has begun. -/
  commented : Bool
  naming : Naming
  name : List Char
  value : List Char

/-- Nothing of the value has been read. -/
def Reading.start : Reading := ⟨false, false, false, false, false, .none, [], []⟩

/-- Whether a character belongs to the name of a variable without braces. -/
def isNameChar (c : Char) : Bool :=
  c.isAlphanum || (128 ≤ c.toNat && !Text.isBlank c)

/-- Puts the value of the variable in the place of its name. -/
def Reading.filled (look : String → String) (r : Reading) : Reading :=
  { r with value := r.value ++ (look (String.ofList r.name)).toList, name := [] }

/-- Adds a character to the value. -/
def Reading.push (r : Reading) (c : Char) : Reading :=
  { r with value := r.value ++ [c] }

/-- Reads a character of the name of a variable. -/
def Reading.stepName (look : String → String) (r : Reading) (c : Char) : Reading :=
  if isNameChar c then { r with name := r.name ++ [c] }
  else if r.naming = .braced then
    if c = '\x7d' then { r.filled look with naming := .none }
    else { r with name := r.name ++ [c] }
  else if c = '\x7b' ∧ r.name = [] then { r with naming := .braced }
  else if c = '$' then { r.filled look with naming := .bare }
  else { r.filled look with naming := .none }.push c

/-- The character that an escape stands for. -/
def escape? (c : Char) : Option Char :=
  if c = '\\' ∨ c = '\x27' ∨ c = '"' ∨ c = '$' ∨ c = ' ' then some c
  else if c = 'n' then some '\n'
  else none

/-- Reads one more character of a value. -/
def Reading.step (look : String → String) (r : Reading) (c : Char) : Option Reading :=
  if r.commented then some r
  else if r.ended then
    if c = ' ' ∨ c = '\t' then some r
    else if c = '#' then some { r with commented := true }
    else none
  else if r.escaped then (escape? c).map fun c => { r with escaped := false }.push c
  else if r.strong then some (if c = '\x27' then { r with strong := false } else r.push c)
  else if r.naming ≠ .none then some (r.stepName look c)
  else if c = '$' then some { r with naming := .bare }
  else if r.weak then
    some (if c = '"' then { r with weak := false }
      else if c = '\\' then { r with escaped := true }
      else r.push c)
  else if c = '\x27' then some { r with strong := true }
  else if c = '"' then some { r with weak := true }
  else if c = '\\' then some { r with escaped := true }
  else if c = ' ' ∨ c = '\t' then some { r with ended := true }
  else some (r.push c)

/-- The value of some characters, or `none` when they cannot be read. -/
def value? (look : String → String) (cs : List Char) : Option String := do
  let r ← cs.foldlM (Reading.step look) .start
  if r.naming = .braced || r.strong || r.weak then none
  else some (String.ofList (r.filled look).value)

/-! ## Bindings -/

/-- What a line says. -/
inductive Line where
  | nothing
  | binding (name : String) (value : List Char)

/-- Whether a character may begin a name. -/
def isNameStart (c : Char) : Bool :=
  c.isAlpha || c == '_'

/-- A name in front and what follows it and its blanks. -/
def takeName? (cs : List Char) : Option (String × List Char) :=
  if cs.head?.any isNameStart then
    let name := cs.takeWhile fun c => c.isAlphanum || c == '_' || c == '.'
    some (String.ofList name, Text.trimStart (cs.drop name.length))
  else none

/-- A name and what follows the equals sign behind it. -/
def takeBinding? (cs : List Char) : Option (String × List Char) := do
  match ← takeName? cs with
  | (name, '=' :: rest) => some (name, Text.trimStart rest)
  | _ => none

/-- Reads a line. The word `export` may stand before the name. -/
def Line.parse? (cs : List Char) : Option Line :=
  let cs := Text.trimStart (Text.trimEnd cs)
  if cs.isEmpty || cs.head? == some '#' then some .nothing
  else do
    let (name, value) ← match takeName? cs with
      | some ("export", rest) =>
        if rest.head? == some '=' then takeBinding? cs else takeBinding? rest
      | _ => takeBinding? cs
    some (.binding name (if value.head? == some '#' then [] else value))

/-- Environment variables by name; the first of a name counts. -/
abbrev Variables := List (String × String)

/-- The value of a variable. -/
def lookUp? (environment : Variables) (name : String) : Option String :=
  if name.isEmpty then none else (environment.find? (·.1 == name)).map (·.2)

/-- Sets the variables of lines, up to the first line that cannot be read. The variables `told` are
those that the file gives, set or not, the last first. -/
def apply (environment told : Variables) : List (Option (List Char)) → Variables
  | [] => environment
  | none :: _ => environment
  | some line :: rest =>
    match Line.parse? line with
    | none => environment
    | some .nothing => apply environment told rest
    | some (.binding name value) =>
      let look (wanted : String) : String :=
        ((lookUp? environment wanted).or (lookUp? told wanted)).getD ""
      match value? look value with
      | none => environment
      | some value =>
        let set := if (lookUp? environment name).isSome then environment
          else environment ++ [(name, value)]
        apply set ((name, value) :: told) rest

/-- The pieces of a file up to the first that holds stray bytes. A mark of the byte order in front
does not count. -/
def readable (content : List UInt8) : List (List Char) :=
  let glyphs := Text.glyphs (match content with
    | 0xEF :: 0xBB :: 0xBF :: rest => rest
    | bytes => bytes)
  let text := (glyphs.takeWhile Option.isSome).filterMap id
  if text.length = glyphs.length then pieces text
  else (pieces text).filter fun piece => piece.getLast? == some '\n'

/-- The variables after reading a file. -/
def load (content : List UInt8) (environment : Variables) : Variables :=
  apply environment [] (lines .plain [] (readable content))

/-- The paths at which the file is looked for, in order. -/
def candidates (place : Place) : List String :=
  (Path.upwards place.working).map fun directory => Path.join directory fileName

end TodoServer.Program.EnvFile
