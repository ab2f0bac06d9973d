import CashLedger.Sql.Cell
import CashLedger.Sql.Schema

/-!
# Ledger values as rows

The values for the columns of each table, the columns that an update sets, and how rows
are read. A record's source is read before its other columns, and a debt's legs are too;
of the rest the first column that is wrong decides the error.
-/

namespace CashLedger.Sql

open Column (toCell)

/-- A row that holds values under the columns of a table. -/
def Relation.row (relation : Relation) (values : List Cell) : Row :=
  relation.columns.zip values

namespace Row

def toUser (row : Row) : Except LedgerError User := do
  let id ← row.read "id"
  let companyId ← row.read "company_id"
  return { id, companyId }

def balanceValues (balance : Balance) : List Cell :=
  [toCell balance.id, toCell balance.userId, toCell balance.companyId,
   toCell balance.currency.code, toCell balance.funds, toCell balance.outgoing,
   toCell balance.incoming, toCell balance.version, toCell balance.createdAt,
   toCell balance.updatedAt]

def balanceChanges (balance : Balance) : List (String × Cell) :=
  [("balance", toCell balance.funds), ("in_out_lay", toCell balance.outgoing),
   ("out_in_lay", toCell balance.incoming), ("updated_at", toCell balance.updatedAt)]

def toBalance (row : Row) : Except LedgerError Balance := do
  let id ← row.read "id"
  let userId ← row.read "user_id"
  let companyId ← row.read "company_id"
  let currency ← row.readCurrency "currency"
  let funds ← row.read "balance"
  let outgoing ← row.read "in_out_lay"
  let incoming ← row.read "out_in_lay"
  let version ← row.read "version"
  let createdAt ← row.read "created_at"
  let updatedAt ← row.read "updated_at"
  return { id, userId, companyId, currency, funds, outgoing, incoming, version, createdAt,
           updatedAt }

def sourceWord : RecordSource → String
  | .manual => "MANUAL"
  | .transaction _ => "TRANSACTION"
  | .exchange _ => "EXCHANGE"
  | .debt _ => "DEBT"

/-- The identifier that a source names, which must not be null. -/
def readReference {kind : IdKind} (row : Row) (name : String) :
    Except LedgerError (Id kind) := do
  let id : Option (Id kind) ← row.read name
  match id with
  | some id => return id
  | none =>
    .error (.database (.stated ("balance record source column " ++ name ++ " is null")))

def toSource (row : Row) : Except LedgerError RecordSource := do
  let word : String ← row.read "source_type"
  if word = "MANUAL" then return .manual
  else if word = "TRANSACTION" then (row.readReference "transaction_id").map .transaction
  else if word = "EXCHANGE" then (row.readReference "exchange_id").map .exchange
  else if word = "DEBT" then (row.readReference "debt_id").map .debt
  else .error (.unknownType .recordSource word)

def recordValues (record : Record) : List Cell :=
  [toCell record.id, toCell record.balanceId, toCell record.userId, toCell record.companyId,
   toCell record.kind.word, toCell record.amount, toCell record.currency.code,
   toCell (sourceWord record.source), toCell record.source.transactionId?,
   toCell record.source.exchangeId?, toCell record.source.debtId?, toCell record.details,
   toCell record.createdAt, toCell record.updatedAt]

def recordChanges (record : Record) : List (String × Cell) :=
  [("balance_id", toCell record.balanceId), ("kind", toCell record.kind.word),
   ("amount", toCell record.amount), ("currency", toCell record.currency.code),
   ("details", toCell record.details), ("updated_at", toCell record.updatedAt)]

def toRecord (row : Row) : Except LedgerError Record := do
  let source ← row.toSource
  let id ← row.read "id"
  let balanceId ← row.read "balance_id"
  let userId ← row.read "user_id"
  let companyId ← row.read "company_id"
  let kindWord ← row.read "kind"
  let kind ← RecordKind.readWord kindWord
  let amount ← row.read "amount"
  let currency ← row.readCurrency "currency"
  let details ← row.read "details"
  let createdAt ← row.read "created_at"
  let updatedAt ← row.read "updated_at"
  return { id, balanceId, userId, companyId, kind, amount, currency, source, details,
           createdAt, updatedAt }

def exchangeValues (exchange : Exchange) : List Cell :=
  [toCell exchange.id, toCell exchange.userId, toCell exchange.companyId,
   toCell exchange.received.amount, toCell exchange.received.currency.code,
   toCell exchange.sold.amount, toCell exchange.sold.currency.code,
   toCell exchange.details, toCell exchange.createdAt, toCell exchange.updatedAt]

def exchangeChanges (exchange : Exchange) : List (String × Cell) :=
  [("received_amount", toCell exchange.received.amount),
   ("received_currency", toCell exchange.received.currency.code),
   ("sold_amount", toCell exchange.sold.amount),
   ("sold_currency", toCell exchange.sold.currency.code),
   ("details", toCell exchange.details), ("updated_at", toCell exchange.updatedAt)]

def toExchange (row : Row) : Except LedgerError Exchange := do
  let id ← row.read "id"
  let userId ← row.read "user_id"
  let companyId ← row.read "company_id"
  let receivedAmount ← row.read "received_amount"
  let receivedCurrency ← row.readCurrency "received_currency"
  let soldAmount ← row.read "sold_amount"
  let soldCurrency ← row.readCurrency "sold_currency"
  let details ← row.read "details"
  let createdAt ← row.read "created_at"
  let updatedAt ← row.read "updated_at"
  return {
    id, userId, companyId, details, createdAt, updatedAt
    received := ⟨receivedAmount, receivedCurrency⟩
    sold := ⟨soldAmount, soldCurrency⟩ }

def debtorValues (debtor : Debtor) : List Cell :=
  [toCell debtor.id, toCell debtor.userId, toCell debtor.companyId, toCell debtor.name,
   toCell debtor.phone, toCell debtor.currency.code, toCell debtor.balance,
   toCell debtor.version, toCell debtor.createdAt, toCell debtor.updatedAt]

def debtorChanges (debtor : Debtor) : List (String × Cell) :=
  [("name", toCell debtor.name), ("phone", toCell debtor.phone),
   ("balance", toCell debtor.balance), ("updated_at", toCell debtor.updatedAt)]

def toDebtor (row : Row) : Except LedgerError Debtor := do
  let id ← row.read "id"
  let userId ← row.read "user_id"
  let companyId ← row.read "company_id"
  let name ← row.read "name"
  let phone ← row.read "phone"
  let currency ← row.readCurrency "currency"
  let balance ← row.read "balance"
  let version ← row.read "version"
  let createdAt ← row.read "created_at"
  let updatedAt ← row.read "updated_at"
  return { id, userId, companyId, name, phone, currency, balance, version, createdAt,
           updatedAt }

def debtValues (debt : Debt) : List Cell :=
  [toCell debt.id, toCell debt.debtorId, toCell debt.userId, toCell debt.companyId,
   toCell debt.kind.word, toCell debt.status.word, toCell debt.debted.amount,
   toCell debt.debted.currency.code, toCell debt.received, toCell debt.details,
   toCell debt.createdAt, toCell debt.updatedAt]

def debtChanges (debt : Debt) : List (String × Cell) :=
  [("kind", toCell debt.kind.word), ("status", toCell debt.status.word),
   ("debted_amount", toCell debt.debted.amount),
   ("debted_currency", toCell debt.debted.currency.code),
   ("received", toCell debt.received), ("details", toCell debt.details),
   ("updated_at", toCell debt.updatedAt)]

def toDebt (row : Row) : Except LedgerError Debt := do
  let received ← row.read "received"
  let id ← row.read "id"
  let debtorId ← row.read "debtor_id"
  let userId ← row.read "user_id"
  let companyId ← row.read "company_id"
  let kindWord ← row.read "kind"
  let kind ← DebtKind.readWord kindWord
  let statusWord ← row.read "status"
  let status ← DebtStatus.readWord statusWord
  let amount ← row.read "debted_amount"
  let currency ← row.readCurrency "debted_currency"
  let details ← row.read "details"
  let createdAt ← row.read "created_at"
  let updatedAt ← row.read "updated_at"
  return {
    id, debtorId, userId, companyId, kind, status, received, details, createdAt, updatedAt
    debted := ⟨amount, currency⟩ }

end Row

end CashLedger.Sql
