/-!
# Punycode

Letters beyond ASCII written with ASCII ones: first the ASCII characters of a label as they are,
then for each other character the steps to it from the one before, as numbers in a base of
thirty-six whose digits have moving thresholds.
-/

namespace TodoServer.Address.Punycode

/-- The digit of a number below thirty-six: letters first, then numerals. -/
def digit (n : Nat) : Char :=
  if n < 26 then Char.ofNat ('a'.toNat + n) else Char.ofNat ('0'.toNat + (n - 26))

/-- The value from which a digit at a place is followed by another digit. -/
def threshold (bias place : Nat) : Nat :=
  max 1 (min 26 (place - bias))

theorem threshold_pos (bias place : Nat) : 1 ≤ threshold bias place :=
  Nat.le_max_left _ _

/-- The digits of a number, the least significant one first. -/
def digits (bias place n : Nat) : List Char :=
  let t := threshold bias place
  if n < t then [digit n]
  else digit (t + (n - t) % (36 - t)) :: digits bias (place + 36) ((n - t) / (36 - t))
termination_by n
decreasing_by
  have pos := threshold_pos bias place
  have le := Nat.div_le_self (n - threshold bias place) (36 - threshold bias place)
  omega

/-- The bias after a number, once it has been scaled. -/
def settled (bias n : Nat) : Nat :=
  if 455 < n then settled (bias + 36) (n / 35) else bias + 36 * n / (n + 38)
termination_by n
decreasing_by omega

/-- The bias after a number of steps, when so many characters have been written. -/
def adapted (steps written : Nat) (isFirst : Bool) : Nat :=
  let scaled := if isFirst then steps / 700 else steps / 2
  settled 0 (scaled + scaled / written)

/-- How far the writing of a label has come. -/
structure Progress where
  /-- Steps since the last character that was written. -/
  steps : Nat
  bias : Nat
  written : Nat
  text : List Char

/-- Passes by one character of the label while looking for the character `wanted`. -/
def pass (basic wanted : Nat) (p : Progress) (c : Char) : Progress :=
  if c.toNat < wanted then { p with steps := p.steps + 1 }
  else if c.toNat = wanted then
    { steps := 0
      bias := adapted p.steps (p.written + 1) (p.written == basic)
      written := p.written + 1
      text := p.text ++ digits p.bias 36 p.steps }
  else p

/-- Writes each wanted character, of which `least` is the least that can still come. -/
def writeAll (label : List Char) (basic : Nat) : List Nat → Nat → Progress → Progress
  | [], _, p => p
  | wanted :: rest, least, p =>
    let p := { p with steps := p.steps + (wanted - least) * (p.written + 1) }
    let p := label.foldl (pass basic wanted) p
    writeAll label basic rest (wanted + 1) { p with steps := p.steps + 1 }

/-- Drops repetitions of neighbours. -/
def distinct : List Nat → List Nat
  | a :: b :: rest => if a = b then distinct (b :: rest) else a :: distinct (b :: rest)
  | short => short

/-- A label in ASCII, without the mark of such labels. -/
def encode (label : List Char) : List Char :=
  let plain := label.filter fun c => c.toNat < 128
  let others := (label.map Char.toNat).filter fun n => 128 ≤ n
  let p := writeAll label plain.length (distinct (others.mergeSort (· ≤ ·))) 128
    ⟨0, 72, plain.length, []⟩
  (if plain.isEmpty then [] else plain ++ ['-']) ++ p.text

end TodoServer.Address.Punycode
