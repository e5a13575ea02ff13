/-!
# ASCII letters and numerals

Case is folded for the letters A to Z alone, and numerals are the digits 0 to 9 with an optional
sign in front, read within the bounds of a machine word.
-/

namespace TodoServer.Text

/-- A text with the letters A to Z in lower case. -/
def lower (s : String) : String :=
  String.ofList (s.toList.map Char.toLower)

/-- Whether two texts differ at most in the case of ASCII letters. -/
def sameLetters (a b : String) : Bool :=
  a.toList.map Char.toLower == b.toList.map Char.toLower

/-- The number that a list of digits denotes, the most significant digit first. -/
def digitsValue (cs : List Char) : Nat :=
  cs.foldl (fun n c => n * 10 + (c.toNat - '0'.toNat)) 0

/-- A numeral of at least one digit and nothing else. -/
def numeral? (cs : List Char) : Option Nat :=
  if cs.isEmpty || !cs.all Char.isDigit then none else some (digitsValue cs)

/-- An unsigned number below `bound`; a plus sign in front is allowed. -/
def unsigned? (bound : Nat) (cs : List Char) : Option Nat := do
  let n ← match cs with
    | '+' :: digits => numeral? digits
    | digits => numeral? digits
  if n < bound then some n else none

/-- A signed 64-bit number; a plus or minus sign in front is allowed. -/
def signed64? (cs : List Char) : Option Int := do
  let n ← match cs with
    | '-' :: digits => (numeral? digits).map fun n => -(Int.ofNat n)
    | '+' :: digits => (numeral? digits).map Int.ofNat
    | digits => (numeral? digits).map Int.ofNat
  if -9223372036854775808 ≤ n ∧ n ≤ 9223372036854775807 then some n else none

/-- The decimal text of an integer. -/
def decimal (n : Int) : String :=
  match n with
  | .ofNat k => String.ofList (Nat.toDigits 10 k)
  | .negSucc k => String.ofList ('-' :: Nat.toDigits 10 (k + 1))

/-- The decimal text of a natural number. -/
def decimalNat (n : Nat) : String :=
  String.ofList (Nat.toDigits 10 n)

/-- A natural number is written with digits alone. -/
theorem isDigit_of_mem_toDigits {n : Nat} : ∀ c ∈ Nat.toDigits 10 n, c.isDigit = true :=
  fun _ h => Nat.isDigit_of_mem_toDigits (by decide) (by decide) h

/-- The texts joined with a separator between neighbours. -/
def join (separator : String) (parts : List String) : String :=
  separator.intercalate parts

/-- The parts of a list of characters between the places that hold `separator`. -/
def splitChars (separator : Char) : List Char → List (List Char)
  | [] => [[]]
  | c :: rest =>
    if c = separator then [] :: splitChars separator rest
    else match splitChars separator rest with
      | [] => [[c]]
      | part :: parts => (c :: part) :: parts

/-- The parts of a text between the places that hold `separator`. -/
def split (separator : Char) (s : String) : List String :=
  (splitChars separator s.toList).map String.ofList

end TodoServer.Text
