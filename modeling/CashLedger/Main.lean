import CashLedger.Node.Line
import CashLedger.Node.Run

/-!
# The node program

Runs a node with the settings of the environment, prints what it logs and ends with 1 if it
failed. Rules of the log filter that make no sense are named on standard error. No database
can be reached from here, so that a run with valid settings ends at the connection.
-/

namespace CashLedger.Node

def settingNames : List String :=
  ["DATABASE_URL", "DATABASE_MAX_CONNECTIONS", "LOG_LEVEL", "RUST_LOG",
   "LEDGER_MAX_DEBT_LEGS", "LEDGER_MAX_DETAILS_LEN"]

def readEnvironment : IO Environment := do
  let values ← settingNames.mapM fun name => do return (name, ← IO.getEnv name)
  return fun name => (values.lookup name).join

def nowhere : World Sql.Script where
  store := { address := "", isOpen := false }
  supply := .standard 0

def program : IO UInt32 := do
  let env ← readEnvironment
  let settings := Settings.ofEnvironment env
  let (result, world) := run Sql.Script.server settings nowhere
  let filterText := settings.filterText env
  for complaint in Filter.complaints filterText do
    IO.eprintln complaint
  for event in (Filter.ofText filterText).shown world.log do
    IO.println event.line
  match result with
  | .ok () => return 0
  | .error failure =>
    IO.eprintln ("Error: " ++ failure.message)
    return 1

end CashLedger.Node

def main : IO UInt32 := CashLedger.Node.program
