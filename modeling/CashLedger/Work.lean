import CashLedger.Debt
import CashLedger.Exchange

/-!
# Work on a store

What an operation does inside one unit of work, as a tree: calls to the store with what
follows each answer, readings of the clock, new identifiers, and at the leaves a result or
an error. A call that the store answers with an error ends the work with that error.
-/

namespace CashLedger

/-- What a unit of work can be asked for. -/
inductive Call where
  | createBalance (balance : Balance)
  | balanceById (id : BalanceId)
  | balanceFor (user : UserId) (currency : Currency)
  | balancesForUser (user : UserId)
  | balancesForCompany (company : CompanyId)
  | allBalances
  | updateBalance (balance : Balance)
  | createRecord (record : Record)
  | recordById (id : RecordId)
  | updateRecord (record : Record)
  | deleteRecord (id : RecordId)
  | recordsForBalance (balance : BalanceId)
  | recordsForExchange (exchange : ExchangeId)
  | recordsForDebt (debt : DebtId)
  | deleteRecordsForExchange (exchange : ExchangeId)
  | deleteRecordsForDebt (debt : DebtId)
  | createExchange (exchange : Exchange)
  | exchangeById (id : ExchangeId)
  | updateExchange (exchange : Exchange)
  | deleteExchange (id : ExchangeId)
  | createDebtor (debtor : Debtor)
  | debtorById (id : DebtorId)
  | debtorsForUser (user : UserId)
  | updateDebtor (debtor : Debtor)
  | createDebt (debt : Debt)
  | debtById (id : DebtId)
  | debtsForDebtor (debtor : DebtorId)
  | updateDebt (debt : Debt)
  | deleteDebt (id : DebtId)
  | userById (id : UserId)
  deriving DecidableEq

namespace Call

/-- What the store gives for a call that succeeds: a row, rows, a count, or nothing. An
update of a balance or debtor gives the row as it is stored now. -/
abbrev Answer : Call → Type
  | createBalance _ => Unit
  | balanceById _ => Option Balance
  | balanceFor _ _ => Option Balance
  | balancesForUser _ => List Balance
  | balancesForCompany _ => List Balance
  | allBalances => List Balance
  | updateBalance _ => Balance
  | createRecord _ => Unit
  | recordById _ => Option Record
  | updateRecord _ => Unit
  | deleteRecord _ => Unit
  | recordsForBalance _ => List Record
  | recordsForExchange _ => List Record
  | recordsForDebt _ => List Record
  | deleteRecordsForExchange _ => Nat
  | deleteRecordsForDebt _ => Nat
  | createExchange _ => Unit
  | exchangeById _ => Option Exchange
  | updateExchange _ => Unit
  | deleteExchange _ => Unit
  | createDebtor _ => Unit
  | debtorById _ => Option Debtor
  | debtorsForUser _ => List Debtor
  | updateDebtor _ => Debtor
  | createDebt _ => Unit
  | debtById _ => Option Debt
  | debtsForDebtor _ => List Debt
  | updateDebt _ => Unit
  | deleteDebt _ => Unit
  | userById _ => Option User

def name : Call → String
  | createBalance _ => "create_balance"
  | balanceById _ => "balance_by_id"
  | balanceFor _ _ => "balance_for"
  | balancesForUser _ => "balances_for_user"
  | balancesForCompany _ => "balances_for_company"
  | allBalances => "all_balances"
  | updateBalance _ => "update_balance"
  | createRecord _ => "create_record"
  | recordById _ => "record_by_id"
  | updateRecord _ => "update_record"
  | deleteRecord _ => "delete_record"
  | recordsForBalance _ => "records_for_balance"
  | recordsForExchange _ => "records_for_exchange"
  | recordsForDebt _ => "records_for_debt"
  | deleteRecordsForExchange _ => "delete_records_for_exchange"
  | deleteRecordsForDebt _ => "delete_records_for_debt"
  | createExchange _ => "create_exchange"
  | exchangeById _ => "exchange_by_id"
  | updateExchange _ => "update_exchange"
  | deleteExchange _ => "delete_exchange"
  | createDebtor _ => "create_debtor"
  | debtorById _ => "debtor_by_id"
  | debtorsForUser _ => "debtors_for_user"
  | updateDebtor _ => "update_debtor"
  | createDebt _ => "create_debt"
  | debtById _ => "debt_by_id"
  | debtsForDebtor _ => "debts_for_debtor"
  | updateDebt _ => "update_debt"
  | deleteDebt _ => "delete_debt"
  | userById _ => "user_by_id"

/-- Calls that change nothing. -/
def isRead : Call → Bool
  | balanceById _ | balanceFor _ _ | balancesForUser _ | balancesForCompany _ | allBalances
  | recordById _ | recordsForBalance _ | recordsForExchange _ | recordsForDebt _
  | exchangeById _ | debtorById _ | debtorsForUser _ | debtById _ | debtsForDebtor _
  | userById _ => true
  | _ => false

end Call

inductive Work (α : Type) where
  | done (value : α)
  | fail (cause : LedgerError)
  | call (request : Call) (next : request.Answer → Work α)
  | clock (next : Timestamp → Work α)
  | draw (next : Uuid → Work α)

namespace Work

variable {α β γ : Type}

def bind : Work α → (α → Work β) → Work β
  | done value, next => next value
  | fail cause, _ => fail cause
  | call request rest, next => call request fun answer => (rest answer).bind next
  | clock rest, next => clock fun moment => (rest moment).bind next
  | draw rest, next => draw fun uuid => (rest uuid).bind next

instance : Monad Work where
  pure := done
  bind := bind

theorem bind_done (work : Work α) : work.bind done = work := by
  induction work with
  | done value => rfl
  | fail cause => rfl
  | call request next ih => exact congrArg _ (funext ih)
  | clock next ih => exact congrArg _ (funext ih)
  | draw next ih => exact congrArg _ (funext ih)

theorem bind_assoc (work : Work α) (first : α → Work β) (second : β → Work γ) :
    (work.bind first).bind second = work.bind fun value => (first value).bind second := by
  induction work with
  | done value => rfl
  | fail cause => rfl
  | call request next ih => exact congrArg _ (funext ih)
  | clock next ih => exact congrArg _ (funext ih)
  | draw next ih => exact congrArg _ (funext ih)

instance : LawfulMonad Work :=
  LawfulMonad.mk' Work bind_done (fun _ _ => rfl) bind_assoc

/-- One call, whose answer is the result. -/
def ask (request : Call) : Work request.Answer := call request done

def now : Work Timestamp := clock done

def newId {kind : IdKind} : Work (Id kind) := draw fun uuid => done ⟨uuid⟩

/-- A check that needs no store. -/
def check : Except LedgerError α → Work α
  | .ok value => done value
  | .error cause => fail cause

/-- A row that has to be there. -/
def require (cause : LedgerError) : Option α → Work α
  | some value => done value
  | none => fail cause

end Work

end CashLedger
