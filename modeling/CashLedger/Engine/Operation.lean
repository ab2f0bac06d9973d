import CashLedger.Backend

/-!
# Operations

An operation checks its request, opens one unit of work, does its work there and closes
the unit: a change commits, or rolls back when the work failed; a query always rolls back.
What it logs is part of it.
-/

namespace CashLedger

inductive Purpose where
  | change
  | query
  deriving DecidableEq

structure Operation (α : Type) where
  name : String
  purpose : Purpose
  /-- The part of the program that the span belongs to. -/
  component : Component := .engine
  /-- Fields of the span that is opened first, if one is. -/
  span : Option LogFields := none
  /-- What is refused before a unit of work is opened. -/
  check : Except LedgerError Unit := .ok ()
  work : Work α
  /-- What is logged last, after success. -/
  report : α → List Event := fun _ => []

namespace Operation

variable {α W U : Type}

def opening (operation : Operation α) : List Event :=
  match operation.span with
  | some fields => [.span operation.component operation.name fields]
  | none => []

def failureFields (name : String) (cause : LedgerError) : LogFields :=
  [("operation", .text name), ("code", .text cause.code), ("error", .error cause)]

/-- Closes the unit of a change. The answer is the work's error, else the commit's. -/
def settle (backend : Backend W U) (name : String) (result : Except LedgerError α) (unit : U)
    (world : W) : Except LedgerError α × W :=
  match result with
  | .ok value =>
    match backend.commit unit world with
    | (.ok (), world) => (.ok value, world)
    | (.error cause, world) =>
      (.error cause,
        backend.note (.entry .warn .engine "Commit failed" (failureFields name cause)) world)
  | .error cause =>
    let world := backend.note
      (.entry .warn .engine "Rolling back unit of work" (failureFields name cause)) world
    match backend.rollback unit world with
    | (.ok (), world) => (.error cause, world)
    | (.error second, world) =>
      (.error cause, backend.note (.entry .error .engine "Rollback failed"
        [("operation", .text name), ("error", .error second)]) world)

/-- Closes the unit of a query. A failing rollback takes the place of the answer. -/
def discard (backend : Backend W U) (result : Except LedgerError α) (unit : U) (world : W) :
    Except LedgerError α × W :=
  match backend.rollback unit world with
  | (.ok (), world) => (result, world)
  | (.error cause, world) => (.error cause, world)

def close (backend : Backend W U) (operation : Operation α) (result : Except LedgerError α)
    (unit : U) (world : W) : Except LedgerError α × W :=
  match operation.purpose with
  | .change => settle backend operation.name result unit world
  | .query => discard backend result unit world

def run (backend : Backend W U) (operation : Operation α) (world : W) :
    Except LedgerError α × W :=
  let world := backend.notes operation.opening world
  match operation.check with
  | .error cause => (.error cause, world)
  | .ok () =>
    match backend.begin world with
    | (.error cause, world) => (.error cause, world)
    | (.ok unit, world) =>
      let (result, unit, world) := operation.work.run backend unit world
      match operation.close backend result unit world with
      | (.ok value, world) => (.ok value, backend.notes (operation.report value) world)
      | (.error cause, world) => (.error cause, world)

end Operation

end CashLedger
