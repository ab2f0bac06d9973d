import CashLedger.Engine.Integrity
import CashLedger.Node.Filter
import CashLedger.Node.Settings
import CashLedger.Store.Postgres

/-!
# The run of a node

A node brings the database schema up to date and checks that all balances agree with their
records. It ends well only if they do.
-/

namespace CashLedger.Node

/-- Why a node ends badly. -/
inductive Failure where
  | settings (text : String)
  | ledger (cause : LedgerError)
  | discrepancies (count : Nat)
  deriving DecidableEq

def Failure.message : Failure → String
  | settings text => "Configuration error: " ++ text
  | ledger cause => cause.message
  | discrepancies count => toString count ++ " balance discrepancies found"

def entry (level : Level) (message : String) (fields : LogFields) : Event :=
  .entry level .node message fields

variable {S : Type}

/-- Says what the integrity check found. -/
def conclude (report : IntegrityReport) (world : World S) : Except Failure Unit × World S :=
  if report.isClean then
    let consistent := entry .info "Ledger is consistent"
      [("balances", .int report.balancesChecked), ("records", .int report.recordsChecked)]
    (.ok (), (world.note consistent).note (entry .info "Cashdesk node finished" []))
  else
    (.error (.discrepancies report.discrepancies.length),
      world.note (entry .warn "Ledger has discrepancies"
        [("report", .text (Form.ofReport report).render)]))

def verify (server : Sql.Server S) (world : World S) : Except Failure Unit × World S :=
  match Engine.verifyIntegrity.run (Postgres.backend server) world with
  | (.ok report, world) => conclude report world
  | (.error cause, world) =>
    (.error (.ledger cause),
      world.note (entry .error "Integrity check failed"
        [("code", .text cause.code), ("error", .error cause)]))

def migrateAndVerify (server : Sql.Server S) (world : World S) :
    Except Failure Unit × World S :=
  match Postgres.migrate server world with
  | (.ok (), world) => verify server world
  | (.error cause, world) => (.error (.ledger cause), world)

def run (server : Sql.Server S) (settings : Settings) (world : World S) :
    Except Failure Unit × World S :=
  let world := world.note (entry .info "Starting Cashdesk node" [])
  match settings.validate with
  | .error text =>
    (.error (.settings text),
      world.note (entry .error "Invalid configuration" [("error", .text text)]))
  | .ok () =>
    match Postgres.connect server settings.databaseUrl world with
    | .error cause => (.error (.ledger cause), world)
    | .ok () => migrateAndVerify server world

end CashLedger.Node
