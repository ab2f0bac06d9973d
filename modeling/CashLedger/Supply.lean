import CashLedger.Id
import CashLedger.Timestamp

/-!
# Clock readings and new identifiers

The engine takes the time and new identifiers from a supply, in order, and never the same
one twice. The standard supply reads a clock that moves on by a microsecond with each
reading and makes time-ordered identifiers.
-/

namespace CashLedger

structure Supply where
  moment : Nat → Timestamp
  uuid : Nat → Uuid
  /-- Readings taken so far. -/
  readings : Nat := 0
  /-- Identifiers handed out so far. -/
  issued : Nat := 0

namespace Supply

def clock (supply : Supply) : Timestamp × Supply :=
  (supply.moment supply.readings, { supply with readings := supply.readings + 1 })

def draw (supply : Supply) : Uuid × Supply :=
  (supply.uuid supply.issued, { supply with issued := supply.issued + 1 })

/-- The identifiers handed out so far. -/
def drawn (supply : Supply) : List Uuid := (List.range supply.issued).map supply.uuid

/-- Of what was given out so far, no later reading is earlier and every later identifier is
greater. -/
structure Increasing (supply : Supply) : Prop where
  moment_le : ∀ {i j : Nat}, i < j → j < supply.readings → supply.moment i ≤ supply.moment j
  uuid_lt : ∀ {i j : Nat}, i < j → j < supply.issued → supply.uuid i < supply.uuid j

/-- Identifiers of one millisecond count up; the clock starts at that millisecond. -/
def standard (startMillis : Nat) : Supply where
  moment n := .ofNanos (startMillis * 1000000 + (n + 1) * 1000 : Nat)
  uuid n := Uuid.timeOrdered startMillis (n + 1)

end Supply

end CashLedger
