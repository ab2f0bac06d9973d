import CashLedger.Record

/-!
# Debtors and debts

A debtor is somebody outside with a running net balance in one currency: negative while
they owe the user, positive while the user owes them. Each debt moves that balance by its
nominal amount and the user's own balances by any number of legs.
-/

namespace CashLedger

structure Debtor where
  id : DebtorId
  userId : UserId
  companyId : CompanyId
  name : String
  phone : Option String
  currency : Currency
  balance : Amount
  /-- Raised by every stored update. -/
  version : Int64
  createdAt : Timestamp
  updatedAt : Timestamp
  deriving DecidableEq

namespace Debtor

def new (id : DebtorId) (user : User) (name : String) (phone : Option String)
    (currency : Currency) (now : Timestamp) : Debtor where
  id := id
  userId := user.id
  companyId := user.companyId
  name := name
  phone := phone
  currency := currency
  balance := 0
  version := 0
  createdAt := now
  updatedAt := now

/-- Adds a signed amount to the running balance. -/
def adjust (debtor : Debtor) (change : Amount) (now : Timestamp) :
    Except LedgerError Debtor :=
  match debtor.balance.add? change with
  | some balance => .ok { debtor with balance, updatedAt := now }
  | none => .error (.amountOverflow (.debtor debtor.id))

def checkCurrency (debtor : Debtor) (currency : Currency) : Except LedgerError Unit :=
  if debtor.currency = currency then .ok ()
  else .error (.currencyMismatch debtor.currency currency)

end Debtor

structure Debt where
  id : DebtId
  debtorId : DebtorId
  userId : UserId
  companyId : CompanyId
  kind : DebtKind
  status : DebtStatus
  /-- The nominal amount in the debtor's currency, with the sign of the kind. -/
  debted : Money
  /-- What was moved over the user's balances, with the sign of the kind. -/
  received : List Money
  details : Option String
  createdAt : Timestamp
  updatedAt : Timestamp
  deriving DecidableEq

/-- A request to open a debt with somebody new. -/
structure NewDebt where
  userId : UserId
  debtorName : String
  debtorPhone : Option String
  kind : DebtKind
  /-- Positive; its currency becomes the debtor's. -/
  debted : Money
  /-- Positive amounts to move over the user's balances. -/
  received : List Money
  details : Option String
  deriving DecidableEq

/-- A request to post one more debt with a debtor who exists. -/
structure DebtInstallment where
  debtorId : DebtorId
  kind : DebtKind
  debted : Money
  received : List Money
  details : Option String
  deriving DecidableEq

/-- New amounts for a debt that exists. -/
structure DebtAmounts where
  kind : DebtKind
  debted : Money
  received : List Money
  deriving DecidableEq

def NewDebt.amounts (request : NewDebt) : DebtAmounts :=
  ⟨request.kind, request.debted, request.received⟩

def DebtInstallment.amounts (request : DebtInstallment) : DebtAmounts :=
  ⟨request.kind, request.debted, request.received⟩

/-- The outcome of a debt operation. -/
structure DebtPosting where
  debtor : Debtor
  debt : Debt
  records : List Record
  deriving DecidableEq

namespace DebtKind

def signedMoney (kind : DebtKind) (money : Money) : Money :=
  { money with amount := kind.signed money.amount }

end DebtKind

namespace Debt

/-- A debt with positive amounts, which get the sign of the kind. -/
def new (id : DebtId) (debtor : Debtor) (status : DebtStatus) (amounts : DebtAmounts)
    (details : Option String) (now : Timestamp) : Debt where
  id := id
  debtorId := debtor.id
  userId := debtor.userId
  companyId := debtor.companyId
  kind := amounts.kind
  status := status
  debted := amounts.kind.signedMoney amounts.debted
  received := amounts.received.map amounts.kind.signedMoney
  details := details
  createdAt := now
  updatedAt := now

/-- The same debt with other positive amounts. -/
def reset (debt : Debt) (amounts : DebtAmounts) (now : Timestamp) : Debt :=
  { debt with
    kind := amounts.kind
    debted := amounts.kind.signedMoney amounts.debted
    received := amounts.received.map amounts.kind.signedMoney
    updatedAt := now }

end Debt

end CashLedger
