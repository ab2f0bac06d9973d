import CashLedger.Id
import CashLedger.Kind
import CashLedger.Money

/-!
# What can go wrong

Each failure of the ledger is a cause with its particulars. The wording, the stable code
and the advice whether trying again may help are functions of the cause.
-/

namespace CashLedger

inductive EntityKind where
  | user
  | balance
  | record
  | exchange
  | debtor
  | debt
  deriving DecidableEq

def EntityKind.word : EntityKind → String
  | user => "user"
  | balance => "balance"
  | record => "balance record"
  | exchange => "exchange"
  | debtor => "debtor"
  | debt => "debt"

/-- What a type word was read for. -/
inductive TagKind where
  | record
  | debt
  | debtStatus
  | recordSource
  deriving DecidableEq

def TagKind.word : TagKind → String
  | record => "balance record"
  | debt => "debt"
  | debtStatus => "debt status"
  | recordSource => "balance record source"

/-- Whose running total left the 64-bit range. -/
inductive OverflowSubject where
  | balance (id : BalanceId)
  | debtor (id : DebtorId)
  | records (kind : RecordKind) (balance : BalanceId)
  | named (text : String)
  deriving DecidableEq

def OverflowSubject.text : OverflowSubject → String
  | balance id => "balance " ++ id.toText
  | debtor id => "debtor " ++ id.toText
  | records kind id => kind.word ++ " records of balance " ++ id.toText
  | named text => text

inductive DatabaseFault where
  /-- In the words of a store of this library. -/
  | stated (text : String)
  /-- In the words of the database or of its client. -/
  | foreign (text : String)
  deriving DecidableEq

def DatabaseFault.text : DatabaseFault → String
  | stated text => text
  | foreign text => text

inductive LedgerError where
  /-- A debit would take the balance below zero. -/
  | insufficientFunds (balance : BalanceId) (available required : Amount)
  /-- The user has no balance in the currency. -/
  | currencyNotFound (user : UserId) (currency : Currency)
  /-- A debt is not in its debtor's currency. -/
  | currencyMismatch (expected actual : Currency)
  | entityNotFound (entity : EntityKind) (id : String)
  | unknownType (tag : TagKind) (value : String)
  | balanceExists (user : UserId) (currency : Currency)
  | invalidAmount (amount : Amount)
  | invalidRequest (message : String) (field : Option String)
  /-- The record changes only through the exchange or debt it belongs to. -/
  | sourceOwned (record : RecordId)
  | amountOverflow (subject : OverflowSubject)
  /-- Another unit of work changed the row first. -/
  | concurrentModification (entity : EntityKind) (id : String)
  | database (fault : DatabaseFault)
  | configuration (message : String)
  deriving DecidableEq

namespace LedgerError

def notFound {kind : IdKind} (entity : EntityKind) (id : Id kind) : LedgerError :=
  .entityNotFound entity id.toText

def conflict {kind : IdKind} (entity : EntityKind) (id : Id kind) : LedgerError :=
  .concurrentModification entity id.toText

def badField (field message : String) : LedgerError := .invalidRequest message (some field)

def message : LedgerError → String
  | insufficientFunds balance available required =>
    "Insufficient funds on balance " ++ balance.toText ++ ": required "
      ++ required.toText ++ ", available " ++ available.toText
  | currencyNotFound user currency =>
    "No " ++ currency.toText ++ " balance for user " ++ user.toText
  | currencyMismatch expected actual =>
    "Currency mismatch: expected " ++ expected.toText ++ ", got " ++ actual.toText
  | entityNotFound entity id => entity.word ++ " not found: " ++ id
  | unknownType tag value => "Unknown " ++ tag.word ++ " type: " ++ value
  | balanceExists user currency =>
    "User " ++ user.toText ++ " already has a " ++ currency.toText ++ " balance"
  | invalidAmount amount => "Invalid amount " ++ amount.toText ++ ": must be positive"
  | invalidRequest message _ => "Invalid request: " ++ message
  | sourceOwned record =>
    "Balance record " ++ record.toText
      ++ " is owned by its source and cannot be changed directly"
  | amountOverflow subject => "Amount overflow on " ++ subject.text
  | concurrentModification entity id =>
    "Concurrent modification of " ++ entity.word ++ " " ++ id
  | database fault => "Database error: " ++ fault.text
  | configuration message => "Configuration error: " ++ message

def code : LedgerError → String
  | insufficientFunds .. => "INSUFFICIENT_FUNDS"
  | currencyNotFound .. => "CURRENCY_NOT_FOUND"
  | currencyMismatch .. => "CURRENCY_MISMATCH"
  | entityNotFound .. => "ENTITY_NOT_FOUND"
  | unknownType .. => "UNKNOWN_TYPE"
  | balanceExists .. => "BALANCE_EXISTS"
  | invalidAmount .. => "INVALID_AMOUNT"
  | invalidRequest .. => "INVALID_REQUEST"
  | sourceOwned .. => "SOURCE_OWNED"
  | amountOverflow .. => "AMOUNT_OVERFLOW"
  | concurrentModification .. => "CONCURRENT_MODIFICATION"
  | database .. => "DATABASE_ERROR"
  | configuration .. => "CONFIGURATION_ERROR"

/-- Whether the same request may succeed when it is made again. The engine never repeats
one by itself. -/
def isRetryable : LedgerError → Bool
  | concurrentModification .. | database .. => true
  | _ => false

end LedgerError

namespace RecordKind

def readWord (word : String) : Except LedgerError RecordKind :=
  match ofWord? word with
  | some kind => .ok kind
  | none => .error (.unknownType .record word)

def readCode (code : Int) : Except LedgerError RecordKind :=
  match ofCode? code with
  | some kind => .ok kind
  | none => .error (.unknownType .record (toString code))

end RecordKind

namespace DebtKind

def readWord (word : String) : Except LedgerError DebtKind :=
  match ofWord? word with
  | some kind => .ok kind
  | none => .error (.unknownType .debt word)

def readCode (code : Int) : Except LedgerError DebtKind :=
  match ofCode? code with
  | some kind => .ok kind
  | none => .error (.unknownType .debt (toString code))

end DebtKind

def DebtStatus.readWord (word : String) : Except LedgerError DebtStatus :=
  match DebtStatus.ofWord? word with
  | some status => .ok status
  | none => .error (.unknownType .debtStatus word)

end CashLedger
