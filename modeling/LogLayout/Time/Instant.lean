namespace LogLayout.Time

/-!
Instants of time.

An instant is a count of seconds since the start of 1970 in universal time and
a count of nanoseconds behind that second.  A leap second is written as a second
whose nanoseconds run from 1 000 000 000 on.
-/

/-- A point in time, to the nanosecond. -/
structure Instant where
  seconds : Int
  nanos : Nat
  deriving DecidableEq, Repr

namespace Instant

/-- The start of 1970 in universal time. -/
def epoch : Instant := ⟨0, 0⟩

/-- The nanoseconds as a clock shows them, within one second. -/
def fraction (instant : Instant) : Nat := instant.nanos % 1000000000

end Instant
end LogLayout.Time
