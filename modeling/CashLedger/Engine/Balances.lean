import CashLedger.Engine.Operation
import CashLedger.Engine.Posting

/-!
# Operations on balances

Opening a balance, and looking balances and their records up.
-/

namespace CashLedger.Engine

def openBalance (user : UserId) (currency : Currency) : Operation Balance where
  name := "open_balance"
  purpose := .change
  span := some [("user_id", .id user), ("currency", .text currency.toText)]
  check :=
    if currency.isValid then .ok ()
    else .error (.badField "currency" ("'" ++ currency.toText ++ "' is not a currency code"))
  work := do
    let owner ← Posting.findUser user
    let now ← Work.now
    let id ← Work.newId
    let balance := Balance.zero id owner currency now
    Work.ask (.createBalance balance)
    return balance
  report balance := [.entry .info .engine "Balance opened" [("balance_id", .id balance.id)]]

def balance (user : UserId) (currency : Currency) : Operation Balance where
  name := "balance"
  purpose := .query
  work := Posting.findBalance user currency

def balanceById (id : BalanceId) : Operation Balance where
  name := "balance_by_id"
  purpose := .query
  work := do
    let balance ← Work.ask (.balanceById id)
    Work.require (.notFound .balance id) balance

def balancesForUser (user : UserId) : Operation (List Balance) where
  name := "balances_for_user"
  purpose := .query
  work := Work.ask (.balancesForUser user)

def balancesForCompany (company : CompanyId) : Operation (List Balance) where
  name := "balances_for_company"
  purpose := .query
  work := Work.ask (.balancesForCompany company)

def recordsForBalance (balance : BalanceId) : Operation (List Record) where
  name := "records_for_balance"
  purpose := .query
  work := Work.ask (.recordsForBalance balance)

end CashLedger.Engine
