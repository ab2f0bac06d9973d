import CashLedger.Log
import CashLedger.Work

/-!
# What the engine runs on

A backend is a store that opens units of work, a clock, a source of new identifiers and a
log, all over one world. Nothing is assumed about how it answers.
-/

namespace CashLedger

/-- A world `W` in which units of work `U` can be opened. -/
structure Backend (W U : Type) where
  begin : W → Except LedgerError U × W
  /-- Asks an open unit. -/
  answer : (request : Call) → U → W → Except LedgerError request.Answer × U × W
  commit : U → W → Except LedgerError Unit × W
  rollback : U → W → Except LedgerError Unit × W
  clock : W → Timestamp × W
  draw : W → Uuid × W
  note : Event → W → W

namespace Work

variable {α β W U : Type}

/-- Does the work in an open unit. -/
def run (backend : Backend W U) : Work α → U → W → Except LedgerError α × U × W
  | done value, unit, world => (.ok value, unit, world)
  | fail cause, unit, world => (.error cause, unit, world)
  | call request next, unit, world =>
    match backend.answer request unit world with
    | (.ok answer, unit, world) => (next answer).run backend unit world
    | (.error cause, unit, world) => (.error cause, unit, world)
  | clock next, unit, world =>
    let (moment, world) := backend.clock world
    (next moment).run backend unit world
  | draw next, unit, world =>
    let (uuid, world) := backend.draw world
    (next uuid).run backend unit world

theorem run_bind (backend : Backend W U) (work : Work α) (next : α → Work β) (unit : U)
    (world : W) :
    (work.bind next).run backend unit world =
      match work.run backend unit world with
      | (.ok value, unit, world) => (next value).run backend unit world
      | (.error cause, unit, world) => (.error cause, unit, world) := by
  induction work generalizing unit world with
  | done value => rfl
  | fail cause => rfl
  | call request rest ih =>
    simp only [bind, run]
    match backend.answer request unit world with
    | (.ok answer, unit, world) => exact ih answer unit world
    | (.error cause, unit, world) => rfl
  | clock rest ih => exact ih _ unit _
  | draw rest ih => exact ih _ unit _

end Work

def Backend.notes {W U : Type} (backend : Backend W U) (events : List Event) (world : W) : W :=
  events.foldl (fun world event => backend.note event world) world

end CashLedger
