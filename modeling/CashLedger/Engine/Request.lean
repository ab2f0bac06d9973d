import CashLedger.Engine.Balances
import CashLedger.Engine.Debts
import CashLedger.Engine.Exchanges
import CashLedger.Engine.Integrity
import CashLedger.Engine.Records

/-!
# Requests

Everything that can be asked of the engine, as data: which operation, and with what.
-/

namespace CashLedger

inductive Request where
  | openBalance (user : UserId) (currency : Currency)
  | balance (user : UserId) (currency : Currency)
  | balanceById (id : BalanceId)
  | balancesForUser (user : UserId)
  | balancesForCompany (company : CompanyId)
  | recordsForBalance (balance : BalanceId)
  | performBalanceRecord (exchange : ManualExchange)
  | postBalanceRecord (user : UserId) (kind : RecordKind) (money : Money)
      (details : Option String)
  | rollbackRecord (id : RecordId)
  | updateRecord (id : RecordId) (kind : RecordKind) (money : Money)
  | record (id : RecordId)
  | createExchange (exchange : NewExchange)
  | updateExchange (id : ExchangeId) (amounts : ExchangeAmounts)
  | deleteExchange (id : ExchangeId)
  | exchange (id : ExchangeId)
  | recordsForExchange (id : ExchangeId)
  | createDebt (debt : NewDebt)
  | settleDebt (debt : DebtInstallment)
  | updateDebt (id : DebtId) (amounts : DebtAmounts)
  | deleteDebt (id : DebtId)
  | debtor (id : DebtorId)
  | debt (id : DebtId)
  | debtorsForUser (user : UserId)
  | debtsForDebtor (debtor : DebtorId)
  | recordsForDebt (debt : DebtId)
  | verifyIntegrity
  deriving DecidableEq

namespace Request

abbrev Answer : Request → Type
  | openBalance _ _ => Balance
  | balance _ _ => Balance
  | balanceById _ => Balance
  | balancesForUser _ => List Balance
  | balancesForCompany _ => List Balance
  | recordsForBalance _ => List Record
  | performBalanceRecord _ => List Record
  | postBalanceRecord _ _ _ _ => Record
  | rollbackRecord _ => Balance
  | updateRecord _ _ _ => Record
  | record _ => Record
  | createExchange _ => Exchange
  | updateExchange _ _ => Exchange
  | deleteExchange _ => Exchange
  | exchange _ => Exchange
  | recordsForExchange _ => List Record
  | createDebt _ => DebtPosting
  | settleDebt _ => DebtPosting
  | updateDebt _ _ => DebtPosting
  | deleteDebt _ => Debtor
  | debtor _ => Debtor
  | debt _ => Debt
  | debtorsForUser _ => List Debtor
  | debtsForDebtor _ => List Debt
  | recordsForDebt _ => List Record
  | verifyIntegrity => IntegrityReport

def operation (limits : Limits) : (request : Request) → Operation request.Answer
  | openBalance user currency => Engine.openBalance user currency
  | balance user currency => Engine.balance user currency
  | balanceById id => Engine.balanceById id
  | balancesForUser user => Engine.balancesForUser user
  | balancesForCompany company => Engine.balancesForCompany company
  | recordsForBalance id => Engine.recordsForBalance id
  | performBalanceRecord wanted => Engine.performBalanceRecord limits wanted
  | postBalanceRecord user kind money details =>
    Engine.postBalanceRecord limits user kind money details
  | rollbackRecord id => Engine.rollbackRecord id
  | updateRecord id kind money => Engine.updateRecord id kind money
  | record id => Engine.record id
  | createExchange wanted => Engine.createExchange limits wanted
  | updateExchange id amounts => Engine.updateExchange id amounts
  | deleteExchange id => Engine.deleteExchange id
  | exchange id => Engine.exchange id
  | recordsForExchange id => Engine.recordsForExchange id
  | createDebt wanted => Engine.createDebt limits wanted
  | settleDebt wanted => Engine.settleDebt limits wanted
  | updateDebt id amounts => Engine.updateDebt limits id amounts
  | deleteDebt id => Engine.deleteDebt id
  | debtor id => Engine.debtor id
  | debt id => Engine.debt id
  | debtorsForUser user => Engine.debtorsForUser user
  | debtsForDebtor id => Engine.debtsForDebtor id
  | recordsForDebt id => Engine.recordsForDebt id
  | verifyIntegrity => Engine.verifyIntegrity

/-- Requests that may change something. -/
def isChange : Request → Bool
  | openBalance _ _ | performBalanceRecord _ | postBalanceRecord _ _ _ _ | rollbackRecord _
  | updateRecord _ _ _ | createExchange _ | updateExchange _ _ | deleteExchange _
  | createDebt _ | settleDebt _ | updateDebt _ _ | deleteDebt _ => true
  | _ => false

theorem purpose_operation (limits : Limits) (request : Request) :
    (request.operation limits).purpose = if request.isChange then .change else .query := by
  cases request <;> rfl

end Request

end CashLedger
