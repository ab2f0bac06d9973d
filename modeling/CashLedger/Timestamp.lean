/-!
# Moments in time

A moment is a whole second, counted in UTC from the start of 1970, and the nanoseconds
since its start. The last second of a minute may be followed by a leap second: this has no
number of its own, so that its nanoseconds go on from a thousand million.
-/

namespace CashLedger

structure Timestamp where
  seconds : Int
  nanos : Nat
  nanos_lt : nanos < 2000000000
  /-- Only the last second of a minute is followed by a leap second. -/
  seconds_of_leap : 1000000000 ≤ nanos → seconds % 60 = 59
  deriving DecidableEq

namespace Timestamp

instance : LE Timestamp :=
  ⟨fun a b => a.seconds < b.seconds ∨ a.seconds = b.seconds ∧ a.nanos ≤ b.nanos⟩

instance : LT Timestamp :=
  ⟨fun a b => a.seconds < b.seconds ∨ a.seconds = b.seconds ∧ a.nanos < b.nanos⟩

instance (a b : Timestamp) : Decidable (a ≤ b) :=
  inferInstanceAs (Decidable (a.seconds < b.seconds ∨ a.seconds = b.seconds ∧ a.nanos ≤ b.nanos))

instance (a b : Timestamp) : Decidable (a < b) :=
  inferInstanceAs (Decidable (a.seconds < b.seconds ∨ a.seconds = b.seconds ∧ a.nanos < b.nanos))

/-- The moment that many nanoseconds after the start of 1970, leap seconds not counted. -/
def ofNanos (total : Int) : Timestamp :=
  ⟨total / 1000000000, (total % 1000000000).toNat, by omega, by omega⟩

instance : Inhabited Timestamp := ⟨ofNanos 0⟩

/-- A moment within a minute, which is counted from the start of 1970. Second 60 is the
leap second. -/
def inMinute? (minute : Int) (second fraction : Nat) : Option Timestamp :=
  if inSecond : fraction < 1000000000 then
    if second < 60 then
      some ⟨60 * minute + second, fraction, by omega, by omega⟩
    else if second = 60 then
      some ⟨60 * minute + 59, 1000000000 + fraction, by omega, by omega⟩
    else
      none
  else
    none

/-- Seconds from the start of 1970 to the start of 2000. -/
def secondsTo2000 : Int := 946684800

/-- Microseconds from the start of 2000. What is less than a microsecond is dropped, so
that the count never lies farther from 2000 than the moment; a leap second counts as the
second after it. -/
def toMicros (moment : Timestamp) : Int :=
  ((moment.seconds - secondsTo2000) * 1000000000 + moment.nanos).tdiv 1000

def ofMicros (micros : Int) : Timestamp :=
  ofNanos (micros * 1000 + secondsTo2000 * 1000000000)

end Timestamp

end CashLedger
