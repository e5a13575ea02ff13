import TodoServer.Text.Ascii

/-!
# Points in time

An instant counts milliseconds from the start of 1970. Its text is the date and time in universal
time with three places for the milliseconds.
-/

namespace TodoServer

/-- A point in time, in milliseconds since the start of 1970. -/
structure Instant where
  millis : Nat
  deriving DecidableEq, Repr, Inhabited

namespace Instant

/-- Whole seconds since the start of 1970. -/
def seconds (t : Instant) : Nat :=
  t.millis / 1000

/-- A day of the calendar. -/
structure Date where
  year : Nat
  month : Nat
  day : Nat
  deriving DecidableEq, Repr

/-- The date of a day counted from the start of 1970. Years are counted from March, so that the day
that some years lack comes last, in cycles of four hundred years. -/
def Date.ofDay (n : Nat) : Date :=
  let z := n + 719468
  let cycle := z / 146097
  let dayOfCycle := z % 146097
  let yearOfCycle :=
    (dayOfCycle - dayOfCycle / 1460 + dayOfCycle / 36524 - dayOfCycle / 146096) / 365
  let dayOfYear := dayOfCycle - (365 * yearOfCycle + yearOfCycle / 4 - yearOfCycle / 100)
  let shifted := (5 * dayOfYear + 2) / 153
  let month := if shifted < 10 then shifted + 3 else shifted - 9
  let year := yearOfCycle + cycle * 400 + (if month ≤ 2 then 1 else 0)
  ⟨year, month, dayOfYear - (153 * shifted + 2) / 5 + 1⟩

/-- A number with zeros in front up to a width. -/
def padded (width n : Nat) : String :=
  let digits := Nat.toDigits 10 n
  String.ofList (List.replicate (width - digits.length) '0' ++ digits)

/-- The text of an instant, such as `2024-01-31T08:05:09.007Z`. -/
def text (t : Instant) : String :=
  let date := Date.ofDay (t.seconds / 86400)
  let clock := t.seconds % 86400
  padded 4 date.year ++ "-" ++ padded 2 date.month ++ "-" ++ padded 2 date.day ++ "T" ++
    padded 2 (clock / 3600) ++ ":" ++ padded 2 (clock / 60 % 60) ++ ":" ++ padded 2 (clock % 60) ++
    "." ++ padded 3 (t.millis % 1000) ++ "Z"

example : Date.ofDay 0 = ⟨1970, 1, 1⟩ := by decide
example : Date.ofDay 11016 = ⟨2000, 2, 29⟩ := by decide
example : Date.ofDay 11017 = ⟨2000, 3, 1⟩ := by decide
example : Date.ofDay 19722 = ⟨2023, 12, 31⟩ := by decide

end Instant

end TodoServer
