import CashLedger.Log
import CashLedger.Supply

/-!
# Worlds

A store together with the supply that the engine draws from and what has been logged so
far.
-/

namespace CashLedger

structure World (S : Type) where
  store : S
  supply : Supply
  /-- In the order in which it was logged. -/
  log : List Event := []

namespace World

variable {S : Type}

def clock (world : World S) : Timestamp × World S :=
  (world.supply.clock.1, { world with supply := world.supply.clock.2 })

def draw (world : World S) : Uuid × World S :=
  (world.supply.draw.1, { world with supply := world.supply.draw.2 })

def note (event : Event) (world : World S) : World S :=
  { world with log := world.log ++ [event] }

end World

end CashLedger
