import CashLedger.Backend

/-!
# Faults, races and stops

Backends that put trouble in an operation's way: one whose store fails at a chosen moment,
one where others work between an operation's last call and its commit, and one that tells
where the program has stopped.
-/

namespace CashLedger

/-- A moment in the life of a unit of work. -/
inductive Moment where
  | begin
  | call (name : String)
  | commit
  | rollback
  deriving DecidableEq

namespace Moment

def ofWord (word : String) : Moment :=
  if word = "begin" then begin
  else if word = "commit" then commit
  else if word = "rollback" then rollback
  else call word

end Moment

/-- The store fails when the moment comes for the `nth` time, counted from 1. -/
structure Fault where
  moment : Moment
  nth : Nat
  text : String
  deriving DecidableEq

/-- A unit, with how often the moment of a fault has come. -/
structure Watched (U : Type) where
  unit : U
  met : Nat

namespace Fault

def cause (fault : Fault) : LedgerError := .database (.stated fault.text)

def strikes (fault : Fault) (moment : Moment) (met : Nat) : Bool :=
  fault.moment = moment && fault.nth = met + 1

/-- How often the moment of the fault has come after this one. -/
def count (fault : Fault) (moment : Moment) (met : Nat) : Nat :=
  if fault.moment = moment then met + 1 else met

end Fault

namespace Backend

variable {V W U : Type}

/-- Fails as the fault says; the call that fails does not reach the store. -/
def failing (fault : Fault) (backend : Backend W U) : Backend W (Watched U) where
  begin world :=
    if fault.strikes .begin 0 then (.error fault.cause, world)
    else
      let (unit, world) := backend.begin world
      (unit.map fun unit => ⟨unit, 0⟩, world)
  answer request watched world :=
    let moment := .call request.name
    let met := fault.count moment watched.met
    if fault.strikes moment watched.met then
      (.error fault.cause, ⟨watched.unit, met⟩, world)
    else
      let (answer, unit, world) := backend.answer request watched.unit world
      (answer, ⟨unit, met⟩, world)
  commit watched world :=
    if fault.strikes .commit watched.met then (.error fault.cause, world)
    else backend.commit watched.unit world
  rollback watched world :=
    if fault.strikes .rollback watched.met then (.error fault.cause, world)
    else backend.rollback watched.unit world
  clock := backend.clock
  draw := backend.draw
  note := backend.note

/-- Lets others act on the world before each commit. -/
def beforeCommit (others : W → W) (backend : Backend W U) : Backend W U :=
  { backend with commit := fun unit world => backend.commit unit (others world) }

/-- Leaves a mark on the world when a call stops the program. From then on nothing that the backend
answers happens any more. -/
def marking (stops : U → Call → Bool) (mark : W → W) (backend : Backend W U) : Backend W U :=
  { backend with
    answer := fun request unit world =>
      backend.answer request unit (if stops unit request then mark world else world) }

/-- A backend over a part of a larger world. -/
def within (part : V → W) (replace : W → V → V) (backend : Backend W U) :
    Backend V U where
  begin world :=
    let (unit, inner) := backend.begin (part world)
    (unit, replace inner world)
  answer request unit world :=
    let (answer, unit, inner) := backend.answer request unit (part world)
    (answer, unit, replace inner world)
  commit unit world :=
    let (result, inner) := backend.commit unit (part world)
    (result, replace inner world)
  rollback unit world :=
    let (result, inner) := backend.rollback unit (part world)
    (result, replace inner world)
  clock world :=
    let (moment, inner) := backend.clock (part world)
    (moment, replace inner world)
  draw world :=
    let (uuid, inner) := backend.draw (part world)
    (uuid, replace inner world)
  note event world := replace (backend.note event (part world)) world

end Backend

end CashLedger
