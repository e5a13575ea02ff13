import TodoServer.Number.Decimal

/-!
# JSON values and their texts

Objects keep their members in order. A text is written compactly or with one member a line.
-/

namespace TodoServer

/-- A JSON value. A whole number without fraction or exponent is told apart from a float. -/
inductive Json where
  | null
  | bool (value : Bool)
  | int (value : Int)
  | float (value : Double)
  | str (value : String)
  | arr (items : List Json)
  | obj (members : List (String × Json))
  deriving Repr, Inhabited

namespace Json

/-- The value of the first member with a name. -/
def member? (name : String) : Json → Option Json
  | obj members => (members.find? (·.1 == name)).map (·.2)
  | _ => none

/-- Of the members of one name the last one, at the place of the first. -/
def keepLast {α : Type} (members : List (String × α)) : List (String × α) :=
  let latest := members.reverse
  (members.map (·.1)).eraseDups.filterMap fun name => latest.find? (·.1 == name)

mutual

/-- A value in which every name of an object is kept once. -/
def settled : Json → Json
  | arr items => arr (settledItems items)
  | obj members => obj (keepLast (settledMembers members))
  | j => j

/-- The items settled. -/
def settledItems : List Json → List Json
  | [] => []
  | item :: rest => settled item :: settledItems rest

/-- The values of the members settled. -/
def settledMembers : List (String × Json) → List (String × Json)
  | [] => []
  | (name, value) :: rest => (name, settled value) :: settledMembers rest

end

mutual

/-- How many arrays and objects a value is nested in one another. -/
def nesting : Json → Nat
  | arr items => itemNesting items + 1
  | obj members => memberNesting members + 1
  | _ => 0

/-- The greatest nesting of some items. -/
def itemNesting : List Json → Nat
  | [] => 0
  | item :: rest => max item.nesting (itemNesting rest)

/-- The greatest nesting of the values of some members. -/
def memberNesting : List (String × Json) → Nat
  | [] => 0
  | (_, value) :: rest => max value.nesting (memberNesting rest)

end

/-- The escape of a character inside quotes, or the character itself. -/
def escapeChar (c : Char) : List Char :=
  if c = '"' then ['\\', '"']
  else if c = '\\' then ['\\', '\\']
  else if c = '\n' then ['\\', 'n']
  else if c = '\r' then ['\\', 'r']
  else if c = '\t' then ['\\', 't']
  else if c = '\x08' then ['\\', 'b']
  else if c = '\x0c' then ['\\', 'f']
  else if c.toNat < 0x20 then
    ['\\', 'u', '0', '0', Char.ofNat ('0'.toNat + c.toNat / 16), (Nat.digitChar (c.toNat % 16))]
  else [c]

/-- A text in quotes. -/
def quote (s : String) : List Char :=
  '"' :: (s.toList.flatMap escapeChar ++ ['"'])

/-- The text of a float; what is no number is written as null. -/
def writeFloat (d : Double) : List Char :=
  if d.isFinite then (d.writeFinite .interchange).toList else ['n', 'u', 'l', 'l']

mutual

/-- The compact text of a value. -/
def chars : Json → List Char
  | null => ['n', 'u', 'l', 'l']
  | bool true => ['t', 'r', 'u', 'e']
  | bool false => ['f', 'a', 'l', 's', 'e']
  | int n => (Text.decimal n).toList
  | float d => writeFloat d
  | str s => quote s
  | arr items => '[' :: (itemChars items ++ [']'])
  | obj members => '\x7b' :: (memberChars members ++ ['\x7d'])

/-- The items with commas between them. -/
def itemChars : List Json → List Char
  | [] => []
  | [item] => chars item
  | item :: rest => chars item ++ ',' :: itemChars rest

/-- The members with commas between them. -/
def memberChars : List (String × Json) → List Char
  | [] => []
  | [(name, value)] => quote name ++ ':' :: chars value
  | (name, value) :: rest => quote name ++ ':' :: chars value ++ ',' :: memberChars rest

end

/-- The compact text of a value. -/
def compact (j : Json) : String :=
  String.ofList j.chars

/-- A line break and two blanks for each level. -/
def newline (level : Nat) : List Char :=
  '\n' :: List.replicate (2 * level) ' '

mutual

/-- The text of a value with each item and member on a line of its own. -/
def prettyChars (level : Nat) : Json → List Char
  | arr [] => ['[', ']']
  | arr items => '[' :: (prettyItems (level + 1) items ++ newline level ++ [']'])
  | obj [] => ['\x7b', '\x7d']
  | obj members => '\x7b' :: (prettyMembers (level + 1) members ++ newline level ++ ['\x7d'])
  | null => ['n', 'u', 'l', 'l']
  | bool b => chars (bool b)
  | int n => chars (int n)
  | float d => writeFloat d
  | str s => quote s

/-- The items, each after a line break. -/
def prettyItems (level : Nat) : List Json → List Char
  | [] => []
  | [item] => newline level ++ prettyChars level item
  | item :: rest => newline level ++ prettyChars level item ++ ',' :: prettyItems level rest

/-- The members, each after a line break. -/
def prettyMembers (level : Nat) : List (String × Json) → List Char
  | [] => []
  | [(name, value)] => newline level ++ quote name ++ ':' :: ' ' :: prettyChars level value
  | (name, value) :: rest =>
    newline level ++ quote name ++ ':' :: ' ' :: prettyChars level value ++
      ',' :: prettyMembers level rest

end

/-- The text of a value over several lines, indented by two blanks a level. -/
def pretty (j : Json) : String :=
  String.ofList (j.prettyChars 0)

end Json

end TodoServer
