/-!
# Binary floating point numbers of 64 bits

A double is its bit pattern: one bit of sign, eleven of exponent and fifty-two of fraction. All
operations work on the pattern and on exact whole numbers.
-/

namespace TodoServer

/-- A floating point number of 64 bits. -/
structure Double where
  /-- The sign, the exponent and the fraction, the sign in the highest bit. -/
  bits : UInt64
  deriving DecidableEq, Repr, Inhabited

namespace Double

/-- Whether the sign bit is set. -/
def isNegative (d : Double) : Bool :=
  Nat.pow 2 63 ≤ d.bits.toNat

/-- The bits below the sign, as one number. They grow with the magnitude. -/
def magnitudeBits (d : Double) : Nat :=
  d.bits.toNat % Nat.pow 2 63

/-- The eleven bits of the exponent. -/
def exponentField (d : Double) : Nat :=
  d.magnitudeBits / Nat.pow 2 52

/-- The fifty-two bits of the fraction. -/
def fractionField (d : Double) : Nat :=
  d.magnitudeBits % Nat.pow 2 52

def isNaN (d : Double) : Bool :=
  d.exponentField == 2047 && d.fractionField != 0

def isInfinite (d : Double) : Bool :=
  d.exponentField == 2047 && d.fractionField == 0

def isFinite (d : Double) : Bool :=
  d.exponentField != 2047

/-- The whole number `m` of a finite magnitude `m * 2 ^ q`. -/
def significand (d : Double) : Nat :=
  if d.exponentField = 0 then d.fractionField else Nat.pow 2 52 + d.fractionField

/-- The power `q` of a finite magnitude `m * 2 ^ q`. -/
def power (d : Double) : Int :=
  if d.exponentField = 0 then -1074 else (d.exponentField : Int) - 1075

/-- The double with a sign and the bits of a magnitude. -/
def ofFields (negative : Bool) (magnitude : Nat) : Double :=
  ⟨UInt64.ofNat ((if negative then Nat.pow 2 63 else 0) + magnitude)⟩

/-- The magnitude bits of infinity, above those of all finite numbers. -/
def infinityBits : Nat :=
  2047 * Nat.pow 2 52

def infinity (negative : Bool) : Double :=
  ofFields negative infinityBits

def zero (negative : Bool) : Double :=
  ofFields negative 0

def nan : Double :=
  ofFields false (infinityBits + Nat.pow 2 51)

/-- The quotient rounded to the nearest whole number, a half to the even neighbour. -/
def divideToEven (num den : Nat) : Nat :=
  let quotient := num / den
  let twice := 2 * (num % den)
  if den < twice || (den == twice && quotient % 2 == 1) then quotient + 1 else quotient

/-- A positive ratio in units of `2 ^ q`, as a fraction. -/
def scaled (num den : Nat) (q : Int) : Nat × Nat :=
  match q with
  | .ofNat k => (num, den * Nat.pow 2 k)
  | .negSucc k => (num * Nat.pow 2 (k + 1), den)

/-- The power of two for which a positive ratio has fifty-three whole bits, or the lowest one. -/
def powerFor (num den : Nat) : Int :=
  let guess : Int := (Nat.log2 num : Int) - (Nat.log2 den : Int) - 52
  let (n, d) := scaled num den guess
  max (-1074) (if n / d < Nat.pow 2 52 then guess - 1 else guess)

/-- The double nearest to a ratio, a tie going to the even fraction. -/
def ofRatio (negative : Bool) (num den : Nat) : Double :=
  if num = 0 then zero negative
  else
    let q := powerFor num den
    let (n, d) := scaled num den q
    ofFields negative (min infinityBits ((q + 1074).toNat * Nat.pow 2 52 + divideToEven n d))

/-- The double nearest to a whole number. -/
def ofInt (n : Int) : Double :=
  ofRatio (n < 0) n.natAbs 1

/-- The double nearest to `digits * 10 ^ exponent`. -/
def ofDecimal (negative : Bool) (digits : Nat) (exponent : Int) : Double :=
  if digits = 0 then zero negative
  else if 400 < exponent then infinity negative
  else if exponent + (Nat.log2 digits : Int) < -1200 then zero negative
  else match exponent with
    | .ofNat k => ofRatio negative (digits * Nat.pow 10 k) 1
    | .negSucc k => ofRatio negative digits (Nat.pow 10 (k + 1))

/-- A number that grows with the value: both zeros have the same. Meaningless for `nan`. -/
def rank (d : Double) : Int :=
  if d.isNegative then -(d.magnitudeBits : Int) else d.magnitudeBits

/-- The whole number that a finite double equals, if it is whole. -/
def toInt? (d : Double) : Option Int :=
  let sign : Int := if d.isNegative then -1 else 1
  if !d.isFinite then none
  else match d.power with
    | .ofNat k => some (sign * (d.significand * Nat.pow 2 k : Nat))
    | .negSucc k =>
      if d.significand % Nat.pow 2 (k + 1) = 0 then
        some (sign * (d.significand / Nat.pow 2 (k + 1) : Nat))
      else none

/-- How a double that is a number stands to a whole number. -/
def compareInt (d : Double) (n : Int) : Ordering :=
  if d.isInfinite then if d.isNegative then .lt else .gt
  else
    let sign : Int := if d.isNegative then -1 else 1
    match d.power with
    | .ofNat k => compare (sign * (d.significand * Nat.pow 2 k : Nat)) n
    | .negSucc k => compare (sign * (d.significand : Nat)) (n * (Nat.pow 2 (k + 1) : Nat))

end Double

end TodoServer
