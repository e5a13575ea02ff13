import TodoServer.Json.Value

/-!
# Scalars

The values that filters compare with, that records hold and that rows come back with.
-/

namespace TodoServer

/-- The kind of a scalar. -/
inductive ScalarKind where
  | null
  | boolean
  | integer
  | float
  | text
  deriving DecidableEq, Repr

/-- The name of a kind. -/
def ScalarKind.name : ScalarKind → String
  | null => "null"
  | boolean => "boolean"
  | integer => "integer"
  | float => "float"
  | text => "text"

/-- A value of a column. Integers are those of 64 bits. -/
inductive Scalar where
  | null
  | bool (value : Bool)
  | integer (value : Int)
  | float (value : Double)
  | text (value : String)
  deriving DecidableEq, Repr, Inhabited

namespace Scalar

def kind : Scalar → ScalarKind
  | null => .null
  | bool _ => .boolean
  | integer _ => .integer
  | float _ => .float
  | text _ => .text

def isNull : Scalar → Bool
  | null => true
  | _ => false

/-- The whole number of an integer or of a truth value. -/
def toInt? : Scalar → Option Int
  | integer n => some n
  | bool b => some (if b then 1 else 0)
  | _ => none

def toText? : Scalar → Option String
  | text s => some s
  | _ => none

/-- The truth value of a boolean, of zero or of one. -/
def toBool? : Scalar → Option Bool
  | bool b => some b
  | integer n => if n = 0 then some false else if n = 1 then some true else none
  | _ => none

/-- The bare text of a scalar. -/
def display : Scalar → String
  | null => "NULL"
  | bool true => "true"
  | bool false => "false"
  | integer n => Text.decimal n
  | float d => d.display
  | text s => s

/-- The null scalar stands for a text that is not given. -/
def ofText? (s : Option String) : Scalar :=
  match s with
  | some s => text s
  | none => null

/-- Whether a whole number has 64 bits. -/
def fits64 (n : Int) : Bool :=
  -9223372036854775808 ≤ n && n ≤ 9223372036854775807

/-- The scalar of a JSON value that is no array or object. A whole number beyond 64 bits is a
float. -/
def ofJson? : Json → Option Scalar
  | .null => some null
  | .bool b => some (bool b)
  | .int n => some (if fits64 n then integer n else float (Double.ofInt n))
  | .float d => some (float d)
  | .str s => some (text s)
  | .arr _ => none
  | .obj _ => none

/-- The JSON value of a scalar. -/
def toJson : Scalar → Json
  | null => .null
  | bool b => .bool b
  | integer n => .int n
  | float d => .float d
  | text s => .str s

end Scalar

end TodoServer
