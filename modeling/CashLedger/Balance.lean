import CashLedger.Error
import CashLedger.Timestamp

/-!
# Users and their balances

A user has one running balance per currency, with the totals of all that ever left it and
all that ever came in. A leg is applied to a balance, or taken back from it.
-/

namespace CashLedger

/-- A cashier. The ledger knows only which company the cashier works for. -/
structure User where
  id : UserId
  companyId : CompanyId
  deriving DecidableEq

/-- One movement of money over a balance. -/
structure Leg where
  direction : Direction
  amount : Amount
  deriving DecidableEq

structure Balance where
  id : BalanceId
  userId : UserId
  companyId : CompanyId
  currency : Currency
  /-- What is there now. -/
  funds : Amount
  /-- All that went out. -/
  outgoing : Amount
  /-- All that came in. -/
  incoming : Amount
  /-- Raised by every stored update. -/
  version : Int64
  createdAt : Timestamp
  updatedAt : Timestamp
  deriving DecidableEq

def checkPositive (amount : Amount) : Except LedgerError Unit :=
  if amount ≤ 0 then .error (.invalidAmount amount) else .ok ()

namespace Balance

def zero (id : BalanceId) (user : User) (currency : Currency) (now : Timestamp) : Balance where
  id := id
  userId := user.id
  companyId := user.companyId
  currency := currency
  funds := 0
  outgoing := 0
  incoming := 0
  version := 0
  createdAt := now
  updatedAt := now

def covers (balance : Balance) (amount : Amount) : Bool := amount ≤ balance.funds

def shortage (balance : Balance) (amount : Amount) : LedgerError :=
  .insufficientFunds balance.id balance.funds amount

def overflow (balance : Balance) : LedgerError := .amountOverflow (.balance balance.id)

/-- Sets the funds, then the outgoing total, then the time of change, as far as the new
values exist. -/
def setOutgoing (balance : Balance) (funds outgoing : Option Amount) (now : Timestamp) :
    Balance × Except LedgerError Unit :=
  match funds, outgoing with
  | none, _ => (balance, .error balance.overflow)
  | some funds, none => ({ balance with funds }, .error balance.overflow)
  | some funds, some outgoing =>
    ({ balance with funds, outgoing, updatedAt := now }, .ok ())

/-- Sets the funds, then the incoming total, then the time of change, as far as the new
values exist. -/
def setIncoming (balance : Balance) (funds incoming : Option Amount) (now : Timestamp) :
    Balance × Except LedgerError Unit :=
  match funds, incoming with
  | none, _ => (balance, .error balance.overflow)
  | some funds, none => ({ balance with funds }, .error balance.overflow)
  | some funds, some incoming =>
    ({ balance with funds, incoming, updatedAt := now }, .ok ())

/-- Applies a leg. The balance comes back as far as it was changed: a leg whose second
total leaves the range has already changed the funds. -/
def apply (balance : Balance) (leg : Leg) (now : Timestamp) :
    Balance × Except LedgerError Unit :=
  match checkPositive leg.amount, leg.direction with
  | .error e, _ => (balance, .error e)
  | .ok (), .debit =>
    if balance.covers leg.amount then
      balance.setOutgoing (balance.funds.sub? leg.amount) (balance.outgoing.add? leg.amount) now
    else
      (balance, .error (balance.shortage leg.amount))
  | .ok (), .credit =>
    balance.setIncoming (balance.funds.add? leg.amount) (balance.incoming.add? leg.amount) now

/-- Takes back a leg that was applied before. Taking back a credit needs the funds. -/
def reverse (balance : Balance) (leg : Leg) (now : Timestamp) :
    Balance × Except LedgerError Unit :=
  match checkPositive leg.amount, leg.direction with
  | .error e, _ => (balance, .error e)
  | .ok (), .debit =>
    balance.setOutgoing (balance.funds.add? leg.amount) (balance.outgoing.sub? leg.amount) now
  | .ok (), .credit =>
    if balance.covers leg.amount then
      balance.setIncoming (balance.funds.sub? leg.amount) (balance.incoming.sub? leg.amount) now
    else
      (balance, .error (balance.shortage leg.amount))

/-- The changed balance of a step that went through. -/
def settled (step : Balance × Except LedgerError Unit) : Except LedgerError Balance :=
  step.2.map fun _ => step.1

end Balance

end CashLedger
