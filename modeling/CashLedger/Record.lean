import CashLedger.Balance

/-!
# Balance records

The audit trail: one record for every leg that stands against a balance, with what caused
it.
-/

namespace CashLedger

inductive RecordSource where
  /-- A single manual posting. -/
  | manual
  /-- One leg of a manual transaction of two. -/
  | transaction (id : TransactionId)
  | exchange (id : ExchangeId)
  | debt (id : DebtId)
  deriving DecidableEq

namespace RecordSource

/-- Records of an exchange or a debt change only together with it. -/
def isOwned : RecordSource → Bool
  | exchange _ | debt _ => true
  | manual | transaction _ => false

def exchangeId? : RecordSource → Option ExchangeId
  | exchange id => some id
  | _ => none

def debtId? : RecordSource → Option DebtId
  | debt id => some id
  | _ => none

def transactionId? : RecordSource → Option TransactionId
  | transaction id => some id
  | _ => none

end RecordSource

structure Record where
  id : RecordId
  balanceId : BalanceId
  userId : UserId
  companyId : CompanyId
  kind : RecordKind
  /-- A magnitude; the kind says which way it went. -/
  amount : Amount
  currency : Currency
  source : RecordSource
  details : Option String
  createdAt : Timestamp
  updatedAt : Timestamp
  deriving DecidableEq

namespace Record

/-- The record of a leg that was applied to a balance. -/
def posted (id : RecordId) (balance : Balance) (leg : Leg) (source : RecordSource)
    (details : Option String) (now : Timestamp) : Record where
  id := id
  balanceId := balance.id
  userId := balance.userId
  companyId := balance.companyId
  kind := .ofDirection leg.direction
  amount := leg.amount
  currency := balance.currency
  source := source
  details := details
  createdAt := now
  updatedAt := now

/-- The leg that the record stands for. -/
def leg (record : Record) : Leg := ⟨record.kind.direction, record.amount⟩

def money (record : Record) : Money := ⟨record.amount, record.currency⟩

/-- The same record for another leg, on that leg's balance. -/
def repost (record : Record) (balance : Balance) (leg : Leg) (now : Timestamp) : Record :=
  { record with
    balanceId := balance.id
    currency := balance.currency
    kind := .ofDirection leg.direction
    amount := leg.amount
    updatedAt := now }

/-- The sum of the amounts of one kind, taken from the first record on. -/
def total (records : List Record) (kind : RecordKind) : Except LedgerError Amount :=
  (records.filter fun r => r.kind = kind).foldlM
    (fun sum r =>
      match Amount.add? sum r.amount with
      | some sum => .ok sum
      | none => .error (.amountOverflow (.records kind r.balanceId)))
    0

end Record

/-- A request to sell one currency and receive another without an exchange. -/
structure ManualExchange where
  userId : UserId
  received : Money
  sold : Money
  details : Option String
  deriving DecidableEq

end CashLedger
