import CashLedger.Engine.Operation
import CashLedger.Engine.Posting

/-!
# Exchanges

An exchange debits what was sold and credits what was received. Changing it posts both
legs anew on the records it has; deleting it takes both back.
-/

namespace CashLedger.Engine

def createExchange (limits : Limits) (request : NewExchange) : Operation Exchange where
  name := "create_exchange"
  purpose := .change
  component := .exchanges
  span := some [("user_id", .id request.userId)]
  check := do
    Posting.checkLeg request.sold
    Posting.checkLeg request.received
    Posting.checkDetails limits request.details
  work := do
    let user ← Posting.findUser request.userId
    let now ← Work.now
    let id ← Work.newId
    let exchange := Exchange.new id user request now
    Work.ask (.createExchange exchange)
    let _ ← Posting.postLeg user.id exchange.sold .debit (.exchange id) exchange.details
    let _ ← Posting.postLeg user.id exchange.received .credit (.exchange id) exchange.details
    return exchange
  report exchange :=
    [.entry .info .exchanges "Exchange created"
      [("exchange_id", .id exchange.id), ("sold", .text exchange.sold.toText),
       ("received", .text exchange.received.toText)]]

def findExchange (id : ExchangeId) : Work Exchange := do
  let exchange ← Work.ask (.exchangeById id)
  Work.require (.notFound .exchange id) exchange

/-- Posts each record of an exchange anew, on the user's balance in the new currency. -/
def repostRecords (user : UserId) (amounts : ExchangeAmounts) : List Record → Work Unit
  | [] => return ()
  | record :: rest => do
    let money := amounts.moneyFor record.kind
    let direction := record.kind.direction
    let _ ← Posting.reverseRecord record
    let balance ← Posting.applyLeg user money direction
    let now ← Work.now
    Work.ask (.updateRecord (record.repost balance ⟨direction, money.amount⟩ now))
    repostRecords user amounts rest

def updateExchange (id : ExchangeId) (amounts : ExchangeAmounts) : Operation Exchange where
  name := "update_exchange"
  purpose := .change
  component := .exchanges
  span := some [("exchange_id", .id id)]
  check := do
    Posting.checkLeg amounts.sold
    Posting.checkLeg amounts.received
  work := do
    let exchange ← findExchange id
    let records ← Work.ask (.recordsForExchange id)
    repostRecords exchange.userId amounts records
    let now ← Work.now
    let exchange := exchange.amend amounts now
    Work.ask (.updateExchange exchange)
    return exchange
  report exchange :=
    [.entry .info .exchanges "Exchange updated"
      [("sold", .text exchange.sold.toText), ("received", .text exchange.received.toText)]]

/-- Answers the exchange as it was. -/
def deleteExchange (id : ExchangeId) : Operation Exchange where
  name := "delete_exchange"
  purpose := .change
  component := .exchanges
  span := some [("exchange_id", .id id)]
  work := do
    let exchange ← findExchange id
    let records ← Work.ask (.recordsForExchange id)
    Posting.reverseRecords records
    let _ ← Work.ask (.deleteRecordsForExchange id)
    Work.ask (.deleteExchange id)
    return exchange
  report _ := [.entry .info .exchanges "Exchange deleted" []]

def exchange (id : ExchangeId) : Operation Exchange where
  name := "exchange"
  purpose := .query
  work := findExchange id

def recordsForExchange (id : ExchangeId) : Operation (List Record) where
  name := "records_for_exchange"
  purpose := .query
  work := Work.ask (.recordsForExchange id)

end CashLedger.Engine
