import CashLedger.Record

/-!
# Exchanges

One conversion: money of one currency left the user's balance, and money of another came
in.
-/

namespace CashLedger

structure Exchange where
  id : ExchangeId
  userId : UserId
  companyId : CompanyId
  received : Money
  sold : Money
  details : Option String
  createdAt : Timestamp
  updatedAt : Timestamp
  deriving DecidableEq

structure NewExchange where
  userId : UserId
  received : Money
  sold : Money
  details : Option String
  deriving DecidableEq

/-- New amounts for an exchange that exists. -/
structure ExchangeAmounts where
  received : Money
  sold : Money
  deriving DecidableEq

/-- The money of the leg that a record of the exchange stands for. -/
def ExchangeAmounts.moneyFor (amounts : ExchangeAmounts) : RecordKind → Money
  | .sell => amounts.sold
  | .buy => amounts.received

namespace Exchange

def new (id : ExchangeId) (user : User) (request : NewExchange) (now : Timestamp) :
    Exchange where
  id := id
  userId := user.id
  companyId := user.companyId
  received := request.received
  sold := request.sold
  details := request.details
  createdAt := now
  updatedAt := now

def amend (exchange : Exchange) (amounts : ExchangeAmounts) (now : Timestamp) : Exchange :=
  { exchange with received := amounts.received, sold := amounts.sold, updatedAt := now }

end Exchange

end CashLedger
