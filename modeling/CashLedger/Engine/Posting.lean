import CashLedger.Limits
import CashLedger.Work

/-!
# Posting legs

The steps that every change is made of: finding the user and the balance, applying a leg
and storing the balance, recording the leg, and taking a recorded leg back.
-/

namespace CashLedger.Posting

def checkLeg (money : Money) : Except LedgerError Unit := checkPositive money.amount

def checkDetails (limits : Limits) (details : Option String) : Except LedgerError Unit :=
  match details with
  | none => .ok ()
  | some text =>
    if text.length ≤ limits.maxDetailsLen then .ok ()
    else .error (.badField "details"
      ("details longer than " ++ toString limits.maxDetailsLen ++ " characters"))

def findUser (id : UserId) : Work User := do
  let user ← Work.ask (.userById id)
  Work.require (.notFound .user id) user

def findBalance (user : UserId) (currency : Currency) : Work Balance := do
  let balance ← Work.ask (.balanceFor user currency)
  Work.require (.currencyNotFound user currency) balance

/-- Applies a leg to the user's balance in the currency and stores the balance. -/
def applyLeg (user : UserId) (money : Money) (direction : Direction) : Work Balance := do
  let balance ← findBalance user money.currency
  let now ← Work.now
  let balance ← Work.check (Balance.settled (balance.apply ⟨direction, money.amount⟩ now))
  Work.ask (.updateBalance balance)

/-- Applies a leg and stores the record of it. -/
def postLeg (user : UserId) (money : Money) (direction : Direction) (source : RecordSource)
    (details : Option String) : Work Record := do
  let balance ← applyLeg user money direction
  let now ← Work.now
  let id ← Work.newId
  let record := Record.posted id balance ⟨direction, money.amount⟩ source details now
  Work.ask (.createRecord record)
  return record

/-- Takes the leg of a record back from its balance. The record stays. -/
def reverseRecord (record : Record) : Work Balance := do
  let balance ← Work.ask (.balanceById record.balanceId)
  let balance ← Work.require (.notFound .balance record.balanceId) balance
  let now ← Work.now
  let balance ← Work.check (Balance.settled (balance.reverse record.leg now))
  Work.ask (.updateBalance balance)

/-- Takes the legs of records back, the first one first. -/
def reverseRecords : List Record → Work Unit
  | [] => return ()
  | record :: rest => do
    let _ ← reverseRecord record
    reverseRecords rest

end CashLedger.Posting
