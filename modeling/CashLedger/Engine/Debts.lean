import CashLedger.Engine.Operation
import CashLedger.Engine.Posting

/-!
# Debts

Lending to and borrowing from debtors. A debt moves the debtor's balance by its nominal
amount and posts one leg per received amount; lending debits the user, borrowing credits
them.
-/

namespace CashLedger.Engine

def checkLegs : List Money → Except LedgerError Unit
  | [] => .ok ()
  | money :: rest => do
    Posting.checkLeg money
    checkLegs rest

def checkDebt (limits : Limits) (amounts : DebtAmounts) (details : Option String) :
    Except LedgerError Unit := do
  Posting.checkLeg amounts.debted
  if limits.maxDebtLegs < amounts.received.length then
    .error (.badField "received"
      ("a debt carries at most " ++ toString limits.maxDebtLegs ++ " legs, got "
        ++ toString amounts.received.length))
  else do
    checkLegs amounts.received
    Posting.checkDetails limits details

def checkName (name : String) : Except LedgerError Unit :=
  if Text.trim name = "" then .error (.badField "debtor_name" "debtor name is required")
  else .ok ()

def findDebtor (id : DebtorId) : Work Debtor := do
  let debtor ← Work.ask (.debtorById id)
  Work.require (.notFound .debtor id) debtor

def findDebt (id : DebtId) : Work Debt := do
  let debt ← Work.ask (.debtById id)
  Work.require (.notFound .debt id) debt

/-- Moves the debtor's running balance, without storing it. -/
def adjustDebtor (debtor : Debtor) (change : Amount) : Work Debtor := do
  let now ← Work.now
  Work.check (debtor.adjust change now)

/-- Posts legs of positive amounts in the debt's direction, the first one first. -/
def postDebtLegs (debt : Debt) : List Money → Work (List Record)
  | [] => return []
  | money :: rest => do
    let record ← Posting.postLeg debt.userId money debt.kind.direction (.debt debt.id)
      debt.details
    let records ← postDebtLegs debt rest
    return record :: records

/-- Takes a debt's legs and its effect on the debtor back and deletes its records. -/
def unpostDebt (debt : Debt) (debtor : Debtor) : Work Debtor := do
  let records ← Work.ask (.recordsForDebt debt.id)
  Posting.reverseRecords records
  let _ ← Work.ask (.deleteRecordsForDebt debt.id)
  adjustDebtor debtor (-debt.debted.amount)

def newDebt (debtor : Debtor) (status : DebtStatus) (amounts : DebtAmounts)
    (details : Option String) : Work Debt := do
  let now ← Work.now
  let id ← Work.newId
  return Debt.new id debtor status amounts details now

def createDebt (limits : Limits) (request : NewDebt) : Operation DebtPosting where
  name := "create_debt"
  purpose := .change
  component := .debts
  span := some [("user_id", .id request.userId), ("kind", .text request.kind.word)]
  check := do
    checkName request.debtorName
    checkDebt limits request.amounts request.details
  work := do
    let user ← Posting.findUser request.userId
    let now ← Work.now
    let id ← Work.newId
    let debtor ← adjustDebtor
      (Debtor.new id user (Text.trim request.debtorName) request.debtorPhone
        request.debted.currency now)
      (request.kind.signed request.debted.amount)
    Work.ask (.createDebtor debtor)
    let debt ← newDebt debtor .opening request.amounts request.details
    Work.ask (.createDebt debt)
    let records ← postDebtLegs debt request.received
    return ⟨debtor, debt, records⟩
  report posting :=
    [.entry .info .debts "Debt created"
      [("debtor_id", .id posting.debtor.id), ("debt_id", .id posting.debt.id),
       ("debtor_balance", .amount posting.debtor.balance),
       ("legs", .int posting.records.length)]]

def settleDebt (limits : Limits) (request : DebtInstallment) : Operation DebtPosting where
  name := "settle_debt"
  purpose := .change
  component := .debts
  span := some [("debtor_id", .id request.debtorId), ("kind", .text request.kind.word)]
  check := checkDebt limits request.amounts request.details
  work := do
    let debtor ← findDebtor request.debtorId
    Work.check (debtor.checkCurrency request.debted.currency)
    let debt ← newDebt debtor .installment request.amounts request.details
    Work.ask (.createDebt debt)
    let records ← postDebtLegs debt request.received
    let debtor ← adjustDebtor debtor debt.debted.amount
    let debtor ← Work.ask (.updateDebtor debtor)
    return ⟨debtor, debt, records⟩
  report posting :=
    [.entry .info .debts "Debt installment posted"
      [("debt_id", .id posting.debt.id), ("debtor_balance", .amount posting.debtor.balance),
       ("legs", .int posting.records.length)]]

def updateDebt (limits : Limits) (id : DebtId) (amounts : DebtAmounts) :
    Operation DebtPosting where
  name := "update_debt"
  purpose := .change
  component := .debts
  span := some [("debt_id", .id id), ("kind", .text amounts.kind.word)]
  check := checkDebt limits amounts none
  work := do
    let debt ← findDebt id
    let debtor ← findDebtor debt.debtorId
    Work.check (debtor.checkCurrency amounts.debted.currency)
    let debtor ← unpostDebt debt debtor
    let now ← Work.now
    let debt := debt.reset amounts now
    let records ← postDebtLegs debt amounts.received
    let debtor ← adjustDebtor debtor debt.debted.amount
    let debtor ← Work.ask (.updateDebtor debtor)
    Work.ask (.updateDebt debt)
    return ⟨debtor, debt, records⟩
  report posting :=
    [.entry .info .debts "Debt updated"
      [("debtor_balance", .amount posting.debtor.balance),
       ("legs", .int posting.records.length)]]

/-- Answers the debtor as it is afterwards. -/
def deleteDebt (id : DebtId) : Operation Debtor where
  name := "delete_debt"
  purpose := .change
  component := .debts
  span := some [("debt_id", .id id)]
  work := do
    let debt ← findDebt id
    let debtor ← findDebtor debt.debtorId
    let debtor ← unpostDebt debt debtor
    let debtor ← Work.ask (.updateDebtor debtor)
    Work.ask (.deleteDebt id)
    return debtor
  report debtor :=
    [.entry .info .debts "Debt deleted"
      [("debtor_id", .id debtor.id), ("debtor_balance", .amount debtor.balance)]]

def debtor (id : DebtorId) : Operation Debtor where
  name := "debtor"
  purpose := .query
  work := findDebtor id

def debt (id : DebtId) : Operation Debt where
  name := "debt"
  purpose := .query
  work := findDebt id

def debtorsForUser (user : UserId) : Operation (List Debtor) where
  name := "debtors_for_user"
  purpose := .query
  work := Work.ask (.debtorsForUser user)

def debtsForDebtor (debtor : DebtorId) : Operation (List Debt) where
  name := "debts_for_debtor"
  purpose := .query
  work := Work.ask (.debtsForDebtor debtor)

def recordsForDebt (debt : DebtId) : Operation (List Record) where
  name := "records_for_debt"
  purpose := .query
  work := Work.ask (.recordsForDebt debt)

end CashLedger.Engine
