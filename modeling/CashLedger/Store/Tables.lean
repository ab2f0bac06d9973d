import CashLedger.Store.Table

/-!
# The tables of the ledger

All rows that a store holds, and what is looked up or listed from them. Listings are
sorted: balances by owner and currency, everything else by age.
-/

namespace CashLedger

structure Tables where
  users : Table User := .empty
  balances : Table Balance := .empty
  records : Table Record := .empty
  exchanges : Table Exchange := .empty
  debtors : Table Debtor := .empty
  debts : Table Debt := .empty

/-- Not younger: by the time of creation, and of one moment by identifier. -/
def olderFirst {α : Type} {kind : IdKind} (createdAt : α → Timestamp) (id : α → Id kind)
    (a b : α) : Bool :=
  createdAt a < createdAt b || (createdAt a = createdAt b && id a ≤ id b)

namespace Balance

def currencyFirst (a b : Balance) : Bool := a.currency ≤ b.currency

/-- By the user, and of one user by currency. -/
def ownerFirst (a b : Balance) : Bool :=
  a.userId < b.userId || (a.userId = b.userId && currencyFirst a b)

end Balance

def Record.olderFirst : Record → Record → Bool := CashLedger.olderFirst createdAt id

def Debtor.olderFirst : Debtor → Debtor → Bool := CashLedger.olderFirst createdAt id

def Debt.olderFirst : Debt → Debt → Bool := CashLedger.olderFirst createdAt id

namespace Tables

def insertUser (tables : Tables) (user : User) : Tables :=
  { tables with users := tables.users.insert user }

def balanceFor (tables : Tables) (user : UserId) (currency : Currency) : Option Balance :=
  tables.balances.rows.find? fun b => b.userId = user && b.currency = currency

def balancesForUser (tables : Tables) (user : UserId) : List Balance :=
  (tables.balances.rows.filter fun b => b.userId = user).mergeSort Balance.currencyFirst

def balancesForCompany (tables : Tables) (company : CompanyId) : List Balance :=
  (tables.balances.rows.filter fun b => b.companyId = company).mergeSort Balance.ownerFirst

def allBalances (tables : Tables) : List Balance :=
  tables.balances.rows.mergeSort Balance.ownerFirst

def recordsWhere (tables : Tables) (chosen : Record → Bool) : List Record :=
  (tables.records.rows.filter chosen).mergeSort Record.olderFirst

def debtorsForUser (tables : Tables) (user : UserId) : List Debtor :=
  (tables.debtors.rows.filter fun d => d.userId = user).mergeSort Debtor.olderFirst

def debtsForDebtor (tables : Tables) (debtor : DebtorId) : List Debt :=
  (tables.debts.rows.filter fun d => d.debtorId = debtor).mergeSort Debt.olderFirst

end Tables

namespace Record

def isOnBalance (balance : BalanceId) (record : Record) : Bool := record.balanceId = balance

def isOfExchange (exchange : ExchangeId) (record : Record) : Bool :=
  record.source.exchangeId? = some exchange

def isOfDebt (debt : DebtId) (record : Record) : Bool := record.source.debtId? = some debt

end Record

end CashLedger
