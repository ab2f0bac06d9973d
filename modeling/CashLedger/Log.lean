import CashLedger.Error

/-!
# The log

What is logged: the spans that operations open and the events inside them. A field is a
number, a text or an error, so that a reader can tell where an error stands.
-/

namespace CashLedger

/-- How much an event matters, from least to most. -/
inductive Level where
  | debug
  | info
  | warn
  | error
  deriving DecidableEq

namespace Level

def rank : Level → Nat
  | debug => 1
  | info => 2
  | warn => 3
  | error => 4

def word : Level → String
  | debug => "DEBUG"
  | info => "INFO"
  | warn => "WARN"
  | error => "ERROR"

end Level

/-- The part of the program that an event comes from. -/
inductive Component where
  | engine
  | exchanges
  | debts
  | records
  | integrity
  | memory
  | postgres
  | node
  deriving DecidableEq

/-- The path that filters match events by. -/
def Component.path : Component → String
  | engine => "cashdesk_ledger::engine"
  | exchanges => "cashdesk_ledger::engine::exchange"
  | debts => "cashdesk_ledger::engine::debt"
  | records => "cashdesk_ledger::engine::records"
  | integrity => "cashdesk_ledger::engine::reconcile"
  | memory => "cashdesk_ledger::store::memory"
  | postgres => "cashdesk_ledger::store::postgres"
  | node => "cashdesk_node"

inductive LogValue where
  | int (n : Int)
  | text (text : String)
  | error (cause : LedgerError)
  deriving DecidableEq

abbrev LogFields := List (String × LogValue)

inductive Event where
  /-- An operation was entered. -/
  | span (component : Component) (name : String) (fields : LogFields)
  | entry (level : Level) (component : Component) (message : String) (fields : LogFields)
  deriving DecidableEq

def LogValue.amount (amount : Amount) : LogValue := .int amount.toInt

def LogValue.id {kind : IdKind} (id : Id kind) : LogValue := .text id.toText

end CashLedger
