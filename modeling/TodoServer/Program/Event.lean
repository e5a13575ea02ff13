import TodoServer.Text.Ascii

/-!
# The log

What the program notes while it runs: a level, the part of the program that notes it, a message and
fields. A filter says which notes are written.
-/

namespace TodoServer.Program

/-- How grave a note is. -/
inductive Level where
  | error
  | warn
  | info
  | debug
  | trace
  deriving DecidableEq, Repr

namespace Level

/-- The place of a level, the gravest first. -/
def rank : Level → Nat
  | error => 1
  | warn => 2
  | info => 3
  | debug => 4
  | trace => 5

/-- The name of a level in the log. -/
def name : Level → String
  | error => "ERROR"
  | warn => "WARN"
  | info => "INFO"
  | debug => "DEBUG"
  | trace => "TRACE"

end Level

/-- A note. -/
structure Event where
  level : Level
  /-- The part of the program that notes it. -/
  source : String
  message : String
  fields : List (String × String)
  deriving DecidableEq, Repr

/-- The text of a note: the message and then the fields. -/
def Event.text (e : Event) : String :=
  e.message ++ String.join (e.fields.map fun (name, value) => " " ++ name ++ "=" ++ value)

/-! ## Filters -/

/-- A rule of a filter: notes from sources that start with a text are written up to a rank. -/
structure Directive where
  source : String
  rank : Nat
  deriving DecidableEq, Repr

/-- Which notes are written. -/
structure LogFilter where
  directives : List Directive
  deriving DecidableEq, Repr

namespace Directive

/-- The rank that the name of a level, or its number, stands for. -/
def rank? (text : String) : Option Nat :=
  let text := Text.lower text
  if text == "off" || text == "0" then some 0
  else if text == "error" || text == "1" then some 1
  else if text == "warn" || text == "2" then some 2
  else if text == "info" || text == "3" then some 3
  else if text == "debug" || text == "4" then some 4
  else if text == "trace" || text == "5" then some 5
  else none

/-- Whether a character may stand in the name of a source. -/
def isSourceChar (c : Char) : Bool :=
  c.isAlphanum || c == '_' || c == ':' || c == '-' || 128 ≤ c.toNat

/-- Reads a rule: a level for all sources, a source with everything it notes, or a source and a
level. -/
def parse? (text : String) : Option Directive :=
  match rank? text with
  | some rank => some ⟨"", rank⟩
  | none =>
    let cs := text.toList
    let source := cs.takeWhile isSourceChar
    let found := String.ofList source
    if source.isEmpty then none
    else match cs.drop source.length with
      | [] | ['='] => some ⟨found, 5⟩
      | '=' :: level => (rank? (String.ofList level)).map fun rank => ⟨found, rank⟩
      | _ => none

end Directive

namespace LogFilter

/-- Reads the rules of a filter with commas between them. What cannot be read is passed over;
without any rule only errors are written. -/
def parse (text : String) : LogFilter :=
  let found := (Text.split ',' text).filterMap Directive.parse?
  ⟨if found.isEmpty then [⟨"", 1⟩] else found⟩

/-- The more exact of two rules; of equally exact ones the later. -/
def moreExact (best : Option Directive) (next : Directive) : Option Directive :=
  match best with
  | none => some next
  | some d => if d.source.length ≤ next.source.length then some next else some d

/-- Whether a note is written: the most exact rule for its source decides. -/
def allows (f : LogFilter) (e : Event) : Bool :=
  let rules := f.directives.filter fun d => d.source.toList.isPrefixOf e.source.toList
  match rules.foldl moreExact none with
  | some d => e.level.rank ≤ d.rank
  | none => false

/-- The filter when none is given. With debugging on, the program itself notes more. -/
def standard (debug : Bool) : String :=
  "info,kotodo_server=" ++ (if debug then "debug" else "info")

end LogFilter

end TodoServer.Program
