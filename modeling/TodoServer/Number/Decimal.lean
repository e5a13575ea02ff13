import TodoServer.Number.Double
import TodoServer.Text.Ascii

/-!
# Decimal texts of doubles

The shortest decimal that reads back as a given double, rounding to a fixed count of digits, and
the layouts in which such decimals are written and read.
-/

namespace TodoServer

/-- The number `digits * 10 ^ exponent`. -/
structure Decimal where
  digits : Nat
  exponent : Int
  deriving DecidableEq, Repr

namespace Decimal

/-- Moves zeros at the end of the digits into the exponent, at most `fuel` of them. -/
def trimZeros : Nat → Decimal → Decimal
  | 0, d => d
  | fuel + 1, d =>
    if d.digits ≠ 0 ∧ d.digits % 10 = 0 then trimZeros fuel ⟨d.digits / 10, d.exponent + 1⟩ else d

/-- The digits as characters. -/
def text (d : Decimal) : List Char :=
  Nat.toDigits 10 d.digits

/-- The exponent of the first digit. -/
def leadingExponent (d : Decimal) : Int :=
  d.exponent + d.text.length - 1

end Decimal

namespace Double

/-- A positive ratio in units of `10 ^ k`, as a fraction. -/
def scaledTen (num den : Nat) (k : Int) : Nat × Nat :=
  match k with
  | .ofNat k => (num, den * Nat.pow 10 k)
  | .negSucc k => (num * Nat.pow 10 (k + 1), den)

/-- The exponent of the first decimal digit of a positive ratio. -/
def decimalExponent (num den : Nat) : Int :=
  let bits : Int := (Nat.log2 num : Int) - (Nat.log2 den : Int)
  let low : Int := (bits - 1) * 30103 / 100000 - 1
  let reaches (k : Int) : Bool :=
    let (n, d) := scaledTen num den k
    d ≤ n
  if reaches (low + 3) then low + 3
  else if reaches (low + 2) then low + 2
  else if reaches (low + 1) then low + 1
  else low

/-- The magnitude of a finite double as a fraction, with half the gap to each neighbour over the
same denominator, the lower gap first. -/
def interval (d : Double) : Nat × Nat × Nat × Nat :=
  let narrow := d.fractionField = 0 ∧ 1 < d.exponentField
  let (unit, den) : Nat × Nat := match d.power with
    | .ofNat k => (Nat.pow 2 k, 4)
    | .negSucc k => (1, 4 * Nat.pow 2 (k + 1))
  (4 * d.significand * unit, den, if narrow then unit else 2 * unit, 2 * unit)

/-- The point of the grid of `10 ^ k` nearest to the magnitude among the two neighbours that read
back as it, a tie going to the even one. -/
def gridPoint? (d : Double) (k : Int) : Option Nat :=
  let (num, den, low, high) := d.interval
  let (n, m) := scaledTen num den k
  let (lowN, _) := scaledTen low den k
  let (highN, _) := scaledTen high den k
  let closed := d.significand % 2 == 0
  let below := n / m
  let above := below + 1
  let offBelow := n - below * m
  let offAbove := above * m - n
  let fitsBelow := below ≠ 0 && (offBelow < lowN || (closed && offBelow == lowN))
  let fitsAbove := offAbove < highN || (closed && offAbove == highN)
  if fitsBelow && fitsAbove then
    if offBelow < offAbove || (offBelow == offAbove && below % 2 == 0) then some below
    else some above
  else if fitsBelow then some below
  else if fitsAbove then some above
  else none

/-- Tries grids of more and more digits, `count` of them left, the first one `10 ^ k`. -/
def shortestFrom (d : Double) : Nat → Int → Decimal
  | 0, k => ⟨(d.gridPoint? k).getD 0, k⟩
  | count + 1, k =>
    match d.gridPoint? k with
    | some digits => ⟨digits, k⟩
    | none => shortestFrom d count (k - 1)

/-- The decimal of fewest digits that reads back as the magnitude of a finite double, and of those
the nearest. -/
def shortest (d : Double) : Decimal :=
  if d.magnitudeBits = 0 then ⟨0, 0⟩
  else
    let (num, den, _, _) := d.interval
    (d.shortestFrom 17 (decimalExponent num den)).trimZeros 20

/-- The magnitude of a finite double rounded to `count` digits, a half to the even neighbour. -/
def rounded (d : Double) (count : Nat) : Decimal :=
  if d.magnitudeBits = 0 then ⟨0, 0⟩
  else
    let (num, den, _, _) := d.interval
    let k := decimalExponent num den - count + 1
    let (n, m) := scaledTen num den k
    (Decimal.mk (divideToEven n m) k).trimZeros 20

end Double

/-- How a decimal is laid out: when positionally, and how an exponent is written. -/
structure DecimalLayout where
  /-- The least exponent of the first digit that is written positionally, if there is one. -/
  lowest : Option Int
  /-- The greatest exponent of the first digit that is written positionally, if there is one. -/
  highest : Option Int
  /-- Whether a whole number keeps a fraction of one zero. -/
  keepsFraction : Bool
  /-- Whether a number with an exponent keeps such a fraction too. -/
  keepsScientificFraction : Bool
  /-- The least count of digits in the exponent. -/
  exponentDigits : Nat
  deriving Repr

namespace DecimalLayout

/-- Positional notation throughout, a whole number without a fraction. -/
def plain : DecimalLayout := ⟨none, none, false, false, 1⟩

/-- Positional from `0.00001` up to below `1e+16`, a whole number with a fraction of one zero. -/
def interchange : DecimalLayout := ⟨some (-5), some 15, true, false, 1⟩

/-- Positional from `0.0001` up to below `1.0e+15`, with a fraction throughout. -/
def stored : DecimalLayout := ⟨some (-4), some 14, true, true, 2⟩

/-- The digits with the point where the exponent puts it. -/
def positional (layout : DecimalLayout) (d : Decimal) : List Char :=
  let digits := d.text
  let lead := d.leadingExponent
  if 0 ≤ d.exponent then
    digits ++ List.replicate d.exponent.toNat '0' ++
      (if layout.keepsFraction then ['.', '0'] else [])
  else if 0 ≤ lead then
    digits.take (lead.toNat + 1) ++ '.' :: digits.drop (lead.toNat + 1)
  else '0' :: '.' :: (List.replicate (-lead - 1).toNat '0' ++ digits)

/-- One digit, the fraction and the exponent with its sign. -/
def scientific (layout : DecimalLayout) (d : Decimal) : List Char :=
  let lead := d.leadingExponent
  let exponent := Nat.toDigits 10 lead.natAbs
  let padding := List.replicate (layout.exponentDigits - exponent.length) '0'
  let fraction := match d.text.drop 1 with
    | [] => if layout.keepsScientificFraction then ['.', '0'] else []
    | rest => '.' :: rest
  d.text.take 1 ++ fraction ++ 'e' :: (if lead < 0 then '-' else '+') :: (padding ++ exponent)

/-- The text of a nonnegative decimal. -/
def write (layout : DecimalLayout) (d : Decimal) : List Char :=
  let lead := d.leadingExponent
  if layout.lowest.all (· ≤ lead) && layout.highest.all (lead ≤ ·) then layout.positional d
  else layout.scientific d

end DecimalLayout

namespace Double

/-- The text of a finite double from its shortest decimal. -/
def writeFinite (layout : DecimalLayout) (d : Double) : String :=
  String.ofList ((if d.isNegative then ['-'] else []) ++ layout.write d.shortest)

/-- The positional text of a double, `NaN`, `inf` or `-inf`. -/
def display (d : Double) : String :=
  if d.isNaN then "NaN"
  else if d.isInfinite then (if d.isNegative then "-inf" else "inf")
  else d.writeFinite .plain

/-- The parts of an unsigned decimal numeral: whole digits, fraction digits, exponent. -/
structure Numeral where
  whole : List Char
  fraction : List Char
  exponent : Int

/-- A run of digits in front, and the rest. -/
def takeDigits (cs : List Char) : List Char × List Char :=
  (cs.takeWhile Char.isDigit, cs.dropWhile Char.isDigit)

/-- An exponent mark with its number in front, or an exponent of zero when there is no mark. `none`
when the mark has no digits. -/
def takeExponent? (cs : List Char) : Option (Int × List Char) :=
  let signed (sign : Int) (rest : List Char) :=
    let (digits, rest) := takeDigits rest
    if digits.isEmpty then none else some (sign * (Text.digitsValue digits : Nat), rest)
  match cs with
  | c :: rest =>
    if c = 'e' ∨ c = 'E' then
      match rest with
      | '-' :: rest => signed (-1) rest
      | '+' :: rest => signed 1 rest
      | rest => signed 1 rest
    else some (0, cs)
  | [] => some (0, [])

/-- The double nearest to a numeral. -/
def Numeral.toDouble (n : Numeral) (negative : Bool) : Double :=
  ofDecimal negative (Text.digitsValue (n.whole ++ n.fraction)) (n.exponent - n.fraction.length)

/-- Reads an unsigned numeral that has at least one digit beside its point. -/
def readUnsigned? (cs : List Char) : Option Numeral := do
  let (whole, rest) := takeDigits cs
  let (fraction, rest) := match rest with
    | '.' :: rest => takeDigits rest
    | rest => ([], rest)
  if whole.isEmpty && fraction.isEmpty then none
  let (exponent, rest) ← takeExponent? rest
  if rest.isEmpty then some ⟨whole, fraction, exponent⟩ else none

/-- Reads a double from a text: a decimal numeral, `inf`, `infinity` or `nan` in any case, each with
an optional sign. -/
def read? (s : String) : Option Double :=
  let (negative, cs) : Bool × List Char := match s.toList with
    | '-' :: rest => (true, rest)
    | '+' :: rest => (false, rest)
    | rest => (false, rest)
  let word := Text.lower (String.ofList cs)
  if word == "inf" || word == "infinity" then some (infinity negative)
  else if word == "nan" then some nan
  else (readUnsigned? cs).map (·.toDouble negative)

end Double

end TodoServer
