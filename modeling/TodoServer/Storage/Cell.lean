import TodoServer.Data.Scalar
import TodoServer.Text.Hex
import TodoServer.Text.Utf8

/-!
# Cells

What a table holds at a row and a column. Values are converted to the affinity of a column when
they are stored in it and when they are compared with it.
-/

namespace TodoServer.Storage

/-- A stored value in one of the five storage classes. -/
inductive Cell where
  | null
  | integer (value : Int)
  | real (value : Double)
  | text (value : String)
  | blob (bytes : List UInt8)
  deriving DecidableEq, Repr, Inhabited

/-- The class of values that a column prefers. -/
inductive Affinity where
  | integer
  | text
  | none
  deriving DecidableEq, Repr, Inhabited

namespace Cell

/-- The cell that a scalar is bound as. Truth values are numbers, and what is no number is null. -/
def ofScalar : Scalar → Cell
  | .null => null
  | .bool b => integer (if b then 1 else 0)
  | .integer n => integer n
  | .float d => if d.isNaN then null else real d
  | .text s => text s

/-- The scalar that a cell is read as, by its storage class. Bytes are read as their digits. -/
def toScalar : Cell → Scalar
  | null => .null
  | integer n => .integer n
  | real d => .float d
  | text s => .text s
  | blob bytes => .text (Text.hex bytes)

def isNull : Cell → Bool
  | null => true
  | _ => false

/-- Whether a character is skipped around a number. -/
def isNumberBlank (c : Char) : Bool :=
  c == ' ' || c == '\t' || c == '\n' || c == '\x0b' || c == '\x0c' || c == '\r'

/-- The integer that a double equals, if it is whole and strictly within 64 bits. -/
def wholeNumber? (d : Double) : Option Int :=
  match d.toInt? with
  | some n => if -9223372036854775808 < n ∧ n < 9223372036854775807 then some n else none
  | none => none

/-- The number that a whole text denotes. An integer beyond 64 bits is a real number. -/
def numberOf? (s : String) : Option Cell :=
  let cs := (s.toList.dropWhile isNumberBlank).reverse.dropWhile isNumberBlank |>.reverse
  let (negative, cs) : Bool × List Char := match cs with
    | '-' :: rest => (true, rest)
    | '+' :: rest => (false, rest)
    | rest => (false, rest)
  match Text.numeral? cs with
  | some n =>
    let n : Int := if negative then -(n : Int) else n
    if Scalar.fits64 n then some (integer n) else some (real (Double.ofInt n))
  | none => (Double.readUnsigned? cs).map fun numeral => real (numeral.toDouble negative)

/-- A real number that is whole becomes an integer. -/
def preferInteger : Cell → Cell
  | real d =>
    match wholeNumber? d with
    | some n => integer n
    | none => real d
  | cell => cell

/-- The text of a real number: fifteen digits, with a fraction. -/
def realText (d : Double) : String :=
  if d.isInfinite then (if d.isNegative then "-Inf" else "Inf")
  else String.ofList
    ((if d.isNegative && d.magnitudeBits ≠ 0 then ['-'] else []) ++
      DecimalLayout.stored.write (d.rounded 15))

/-- The cell with its number as text. -/
def preferText : Cell → Cell
  | integer n => text (Text.decimal n)
  | real d => text (realText d)
  | cell => cell

/-- The cell that a column of an affinity keeps. -/
def stored (affinity : Affinity) (cell : Cell) : Cell :=
  match affinity with
  | .integer =>
    match cell with
    | text s =>
      match numberOf? s with
      | some number => number.preferInteger
      | none => text s
    | cell => cell.preferInteger
  | .text => cell.preferText
  | .none => cell

/-- The text that string functions see, up to the first NUL; null has none. -/
def chars? : Cell → Option (List Char)
  | null => none
  | integer n => some (Text.decimal n).toList
  | real d => some (realText d).toList
  | text s => some (s.toList.takeWhile (· ≠ '\x00'))
  | blob bytes => some ((Text.decodeLossy bytes).toList.takeWhile (· ≠ '\x00'))

/-- The bytes of a value as a text, those behind a NUL included. -/
def byteSize (cell : Cell) : Nat :=
  match cell.preferText with
  | text s => s.utf8ByteSize
  | blob bytes => bytes.length
  | _ => 0

/-- The length of a value: characters before the first NUL of a text, bytes of a blob. -/
def length? : Cell → Option Nat
  | blob bytes => some bytes.length
  | cell => cell.chars?.map List.length

/-- The place of a storage class in the order of all values. -/
def classRank : Cell → Nat
  | null => 0
  | integer _ => 1
  | real _ => 1
  | text _ => 2
  | blob _ => 3

/-- The order of lists by their first difference. -/
def compareLists (key : α → Nat) : List α → List α → Ordering
  | [], [] => .eq
  | [], _ :: _ => .lt
  | _ :: _, [] => .gt
  | a :: as, b :: bs => (compare (key a) (key b)).then (compareLists key as bs)

/-- The order of two cells: numbers by value, then texts by characters, then bytes. -/
def order : Cell → Cell → Ordering
  | integer a, integer b => compare a b
  | integer a, real b => (b.compareInt a).swap
  | real a, integer b => a.compareInt b
  | real a, real b => compare a.rank b.rank
  | text a, text b => compareLists Char.toNat a.toList b.toList
  | blob a, blob b => compareLists UInt8.toNat a b
  | a, b => compare a.classRank b.classRank

/-- A value prepared for a comparison with a column of an affinity. -/
def comparable (affinity : Affinity) (cell : Cell) : Cell :=
  match affinity with
  | .integer =>
    match cell with
    | text s => (numberOf? s).getD (text s)
    | cell => cell
  | .text => cell.preferText
  | .none => cell

end Cell

end TodoServer.Storage
