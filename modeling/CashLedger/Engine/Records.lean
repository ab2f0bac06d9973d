import CashLedger.Engine.Operation
import CashLedger.Engine.Posting

/-!
# Manual postings

Deposits, withdrawals and transactions of two legs, and changes of single records. A
record of an exchange or a debt is refused here: it changes only with its owner.
-/

namespace CashLedger.Engine

def performBalanceRecord (limits : Limits) (request : ManualExchange) :
    Operation (List Record) where
  name := "perform_balance_record"
  purpose := .change
  component := .records
  span := some [("user_id", .id request.userId)]
  check := do
    Posting.checkLeg request.sold
    Posting.checkLeg request.received
    Posting.checkDetails limits request.details
  work := do
    let user ← Posting.findUser request.userId
    let transaction ← Work.newId
    let sold ← Posting.postLeg user.id request.sold .debit (.transaction transaction)
      request.details
    let received ← Posting.postLeg user.id request.received .credit (.transaction transaction)
      request.details
    return [sold, received]
  report records :=
    [.entry .info .records "Manual exchange posted" [("legs", .int records.length)]]

def postBalanceRecord (limits : Limits) (user : UserId) (kind : RecordKind) (money : Money)
    (details : Option String) : Operation Record where
  name := "post_balance_record"
  purpose := .change
  component := .records
  span := some
    [("user_id", .id user), ("kind", .text kind.word), ("money", .text money.toText)]
  check := do
    Posting.checkLeg money
    Posting.checkDetails limits details
  work := do
    let owner ← Posting.findUser user
    Posting.postLeg owner.id money kind.direction .manual details
  report record :=
    [.entry .info .records "Balance record posted" [("record_id", .id record.id)]]

/-- A record that may be changed by itself. -/
def findFreeRecord (id : RecordId) : Work Record := do
  let record ← Work.ask (.recordById id)
  let record ← Work.require (.notFound .record id) record
  if record.source.isOwned then Work.fail (.sourceOwned id) else return record

def rollbackRecord (id : RecordId) : Operation Balance where
  name := "rollback_record"
  purpose := .change
  component := .records
  span := some [("record_id", .id id)]
  work := do
    let record ← findFreeRecord id
    let balance ← Posting.reverseRecord record
    Work.ask (.deleteRecord id)
    return balance
  report balance :=
    [.entry .info .records "Balance record rolled back"
      [("balance_id", .id balance.id), ("balance", .amount balance.funds)]]

def updateRecord (id : RecordId) (kind : RecordKind) (money : Money) : Operation Record where
  name := "update_record"
  purpose := .change
  component := .records
  span := some
    [("record_id", .id id), ("kind", .text kind.word), ("money", .text money.toText)]
  check := Posting.checkLeg money
  work := do
    let record ← findFreeRecord id
    let _ ← Posting.reverseRecord record
    let balance ← Posting.applyLeg record.userId money kind.direction
    let now ← Work.now
    let record := record.repost balance ⟨kind.direction, money.amount⟩ now
    Work.ask (.updateRecord record)
    return record
  report record :=
    [.entry .info .records "Balance record updated" [("balance_id", .id record.balanceId)]]

def record (id : RecordId) : Operation Record where
  name := "record"
  purpose := .query
  work := do
    let record ← Work.ask (.recordById id)
    Work.require (.notFound .record id) record

end CashLedger.Engine
