import TodoServer.Text.Ascii

/-!
# Dialects

The dialects differ in how a statement marks the places of its values.
-/

namespace TodoServer

/-- A database whose SQL is written. -/
inductive Dialect where
  | sqlite
  | postgres
  deriving DecidableEq, Repr, Inhabited

namespace Dialect

def name : Dialect → String
  | sqlite => "sqlite"
  | postgres => "postgres"

/-- The mark of the value at a position, counted from one. -/
def placeholder (d : Dialect) (position : Nat) : String :=
  match d with
  | sqlite => "?"
  | postgres => "$" ++ Text.decimalNat position

/-- The marks of `count` values from a position on. -/
def placeholders (d : Dialect) (start count : Nat) : List String :=
  (List.range' start count).map d.placeholder

/-- The marks of `count` values from a position on, with commas between them. -/
def placeholderList (d : Dialect) (start count : Nat) : String :=
  Text.join ", " (d.placeholders start count)

end Dialect

end TodoServer
