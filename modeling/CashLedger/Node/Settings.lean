import CashLedger.Limits

/-!
# Settings of a node

Where the database is, how many connections to it may be open, what is logged and what the
engine allows, all taken from the environment.
-/

namespace CashLedger.Node

structure Settings where
  databaseUrl : String := "postgres://localhost/cashdesk"
  maxConnections : Nat := 10
  /-- What is logged, unless `RUST_LOG` says so. -/
  logLevel : String := "info"
  limits : Limits := {}
  deriving DecidableEq

namespace Settings

def standard : Settings := {}

def mostConnections : Nat := 4294967295

def ofEnvironment (env : Environment) : Settings where
  databaseUrl := (env "DATABASE_URL").getD standard.databaseUrl
  maxConnections :=
    env.unsigned "DATABASE_MAX_CONNECTIONS" mostConnections standard.maxConnections
  logLevel := (env "LOG_LEVEL").getD standard.logLevel
  limits := .ofEnvironment env

def validate (settings : Settings) : Except String Unit :=
  if settings.databaseUrl = "" then .error "Database URL cannot be empty"
  else if settings.maxConnections = 0 then .error "Max connections cannot be 0"
  else settings.limits.validate

/-- The text of the log filter: `RUST_LOG` comes before the settings. -/
def filterText (settings : Settings) (env : Environment) : String :=
  (env "RUST_LOG").getD settings.logLevel

end Settings

end CashLedger.Node
