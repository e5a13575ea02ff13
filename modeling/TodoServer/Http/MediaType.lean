import TodoServer.Http.Token
import TodoServer.Text.Ascii

/-!
# Media types

A type and a subtype, where the subtype may end in a suffix behind a plus sign, and parameters.
-/

namespace TodoServer.Http

/-- A media type without its parameters. -/
structure MediaType where
  type : String
  subtype : String
  suffix : Option String
  deriving DecidableEq, Repr

namespace MediaType

/-- What the reading of parameters has come to. -/
inductive Reading where
  | start
  | name
  | valueStart
  | value
  | quotedStart
  | quoted
  | quotedEnd
  deriving DecidableEq, Repr

namespace Reading

/-- Whether a character may stand in quotes. -/
def isQuotedChar (c : Char) : Bool :=
  31 < c.toNat && c.toNat ≠ 127

/-- Reads one more character. -/
def step (r : Reading) (c : Char) : Option Reading :=
  match r with
  | start => if c = ' ' then some start else if isTokenChar c then some name else none
  | name => if c = '=' then some valueStart else if isTokenChar c then some name else none
  | valueStart => if c = '"' then some quotedStart else if isTokenChar c then some value else none
  | value => if c = ';' then some start else if isTokenChar c then some value else none
  | quotedStart => if isQuotedChar c then some quoted else none
  | quoted => if c = '"' then some quotedEnd else if isQuotedChar c then some quoted else none
  | quotedEnd => if c = ';' then some start else if c = ' ' then some quotedEnd else none

/-- Whether parameters may end here. -/
def isEnd : Reading → Bool
  | start | valueStart | value | quotedEnd => true
  | _ => false

end Reading

/-- Whether a text is parameters with semicolons between them. -/
def areParameters (cs : List Char) : Bool :=
  (cs.foldlM Reading.step .start).any Reading.isEnd

/-- The subtype and the suffix, which stands behind the last plus sign that is not in front. -/
def splitSuffix (cs : List Char) : List Char × Option (List Char) :=
  let suffix := (cs.reverse.takeWhile (· ≠ '+')).reverse
  if suffix.length + 1 < cs.length then (cs.take (cs.length - suffix.length - 1), some suffix)
  else (cs, none)

/-- Reads a media type. Letters are folded to lower case. -/
def parse? (s : String) : Option MediaType :=
  let cs := (Text.lower s).toList
  let type := cs.takeWhile isTokenChar
  match cs.drop type.length with
  | '/' :: rest =>
    let sub := rest.takeWhile isTokenChar
    let (subtype, suffix) := splitSuffix sub
    let found : MediaType := ⟨String.ofList type, String.ofList subtype, suffix.map String.ofList⟩
    if type.isEmpty then none
    else match rest.drop sub.length with
      | [] => some found
      | ';' :: parameters => if !sub.isEmpty && areParameters parameters then some found else none
      | _ => none
  | _ => none

/-- Whether a media type announces JSON. -/
def isJson (m : MediaType) : Bool :=
  m.type == "application" && (m.subtype == "json" || m.suffix == some "json")

example : (parse? "application/json; charset=utf-8").any isJson = true := by decide
example : (parse? "application/problem+json").any isJson = true := by decide
example : (parse? "text/json").any isJson = false := by decide

end MediaType

end TodoServer.Http
