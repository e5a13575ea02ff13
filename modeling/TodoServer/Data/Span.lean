import TodoServer.Data.Instant

/-!
# Lengths of time

A span counts seconds. Its milliseconds are a number of 64 bits, and an instant that a span leads to
is one of the calendar: other spans and other instants are not made at all.
-/

namespace TodoServer

/-- A length of time. -/
structure Span where
  seconds : Int
  /-- The milliseconds have 64 bits. -/
  bounded : -9223372036854775 ≤ seconds ∧ seconds ≤ 9223372036854775
  deriving DecidableEq, Repr

namespace Span

/-- The span of a number of minutes. A product with more than 64 bits is outside of the bounds of
spans too. -/
def ofMinutes? (minutes : Int) : Option Span :=
  if bounded : -9223372036854775 ≤ minutes * 60 ∧ minutes * 60 ≤ 9223372036854775 then
    some ⟨minutes * 60, bounded⟩
  else none

/-- The whole minutes of a span. -/
def minutes (s : Span) : Int :=
  s.seconds.tdiv 60

end Span

namespace Instant

/-- The first second of the calendar, which starts with the year -262143. -/
def firstSecond : Int := -8334601228800

/-- The last second of the calendar, which ends with the year 262142. -/
def lastSecond : Int := 8210266876799

/-- The second in which a span ends that starts at an instant, if the calendar has it. -/
def secondAfter? (t : Instant) (s : Span) : Option Int :=
  let sum := t.seconds + s.seconds
  if firstSecond ≤ sum ∧ sum ≤ lastSecond then some sum else none

end Instant

end TodoServer
