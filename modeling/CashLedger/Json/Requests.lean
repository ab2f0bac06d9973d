import CashLedger.Engine.Request

/-!
# Requests and calls as JSON

A request to the engine, or a call to a unit of work, is read from a name and an object
with its fields; the answer is written as JSON. Currencies of a field of their own are
tidied, unless the object says that they are raw.
-/

namespace CashLedger

/-- Why a request cannot be read. -/
inductive Unreadable where
  | unknown
  | malformed
  deriving DecidableEq

abbrev Readers (α : Type) := List (String × (Json → Option α))

def Readers.read {α : Type} (readers : Readers α) (name : String) (json : Json) :
    Except Unreadable α :=
  match readers.lookup name with
  | none => .error .unknown
  | some reader =>
    match reader json with
    | some value => .ok value
    | none => .error .malformed

namespace Json

/-- A code in a field, as it is written if the object is raw. -/
def currency? (json : Json) (name : String) : Option Currency :=
  match json.get? "raw" with
  | some (bool true) => json.member? name
  | _ => (json.member? name).map Currency.ofText

end Json

namespace Form

/-- The parts of a posting, in a list. -/
def ofPosting (posting : DebtPosting) : Json := .array
  [write posting.debtor, write posting.debt, write posting.records]

/-- A report that begins with whether it is clean. -/
def ofVerdict (report : IntegrityReport) : Json :=
  match ofReport report with
  | .object fields => .object (("is_clean", .bool report.isClean) :: fields)
  | json => json

def ofOption {α : Type} [Form α] : Option α → Json
  | some value => write value
  | none => .null

end Form

namespace Request

variable {α β : Type} [Form α]

/-- Reads the one field of a request. -/
def one (name : String) (make : α → Request) (json : Json) : Option Request :=
  (json.member? name).map make

def readers : Readers Request :=
  [("open_balance", fun json => do
      let user ← json.member? "user_id"
      return .openBalance user (← json.currency? "currency")),
   ("balance", fun json => do
      let user ← json.member? "user_id"
      return .balance user (← json.currency? "currency")),
   ("balance_by_id", one "id" .balanceById),
   ("balances_for_user", one "user_id" .balancesForUser),
   ("balances_for_company", one "company_id" .balancesForCompany),
   ("records_for_balance", one "id" .recordsForBalance),
   ("perform_balance_record", one "request" .performBalanceRecord),
   ("post_balance_record", fun json => do
      let user ← json.member? "user_id"
      let kind ← json.member? "kind"
      let money ← json.member? "money"
      return .postBalanceRecord user kind money (← json.optionalText? "details")),
   ("rollback_record", one "id" .rollbackRecord),
   ("update_record", fun json => do
      let id ← json.member? "id"
      let kind ← json.member? "kind"
      return .updateRecord id kind (← json.member? "money")),
   ("record", one "id" .record),
   ("create_exchange", one "request" .createExchange),
   ("update_exchange", fun json => do
      let id ← json.member? "id"
      return .updateExchange id (← json.member? "amounts")),
   ("delete_exchange", one "id" .deleteExchange),
   ("exchange", one "id" .exchange),
   ("records_for_exchange", one "id" .recordsForExchange),
   ("create_debt", one "request" .createDebt),
   ("settle_debt", one "request" .settleDebt),
   ("update_debt", fun json => do
      let id ← json.member? "id"
      return .updateDebt id (← json.member? "amounts")),
   ("delete_debt", one "id" .deleteDebt),
   ("debtor", one "id" .debtor),
   ("debt", one "id" .debt),
   ("debtors_for_user", one "user_id" .debtorsForUser),
   ("debts_for_debtor", one "id" .debtsForDebtor),
   ("records_for_debt", one "id" .recordsForDebt),
   ("verify_integrity", fun _ => some .verifyIntegrity)]

def writeAnswer : (request : Request) → request.Answer → Json
  | openBalance _ _, answer => Form.write answer
  | balance _ _, answer => Form.write answer
  | balanceById _, answer => Form.write answer
  | balancesForUser _, answer => Form.write answer
  | balancesForCompany _, answer => Form.write answer
  | recordsForBalance _, answer => Form.write answer
  | performBalanceRecord _, answer => Form.write answer
  | postBalanceRecord _ _ _ _, answer => Form.write answer
  | rollbackRecord _, answer => Form.write answer
  | updateRecord _ _ _, answer => Form.write answer
  | record _, answer => Form.write answer
  | createExchange _, answer => Form.write answer
  | updateExchange _ _, answer => Form.write answer
  | deleteExchange _, answer => Form.write answer
  | exchange _, answer => Form.write answer
  | recordsForExchange _, answer => Form.write answer
  | createDebt _, answer => Form.ofPosting answer
  | settleDebt _, answer => Form.ofPosting answer
  | updateDebt _ _, answer => Form.ofPosting answer
  | deleteDebt _, answer => Form.write answer
  | debtor _, answer => Form.write answer
  | debt _, answer => Form.write answer
  | debtorsForUser _, answer => Form.write answer
  | debtsForDebtor _, answer => Form.write answer
  | recordsForDebt _, answer => Form.write answer
  | verifyIntegrity, answer => Form.ofVerdict answer

end Request

namespace Call

variable {α : Type} [Form α]

/-- Reads the one field of a call. -/
def one (name : String) (make : α → Call) (json : Json) : Option Call :=
  (json.member? name).map make

def readers : Readers Call :=
  [("create_balance", one "row" .createBalance),
   ("balance_by_id", one "id" .balanceById),
   ("balance_for", fun json => do
      let user ← json.member? "user_id"
      return .balanceFor user (← json.currency? "currency")),
   ("balances_for_user", one "user_id" .balancesForUser),
   ("balances_for_company", one "company_id" .balancesForCompany),
   ("all_balances", fun _ => some .allBalances),
   ("update_balance", one "row" .updateBalance),
   ("create_record", one "row" .createRecord),
   ("record_by_id", one "id" .recordById),
   ("update_record", one "row" .updateRecord),
   ("delete_record", one "id" .deleteRecord),
   ("records_for_balance", one "id" .recordsForBalance),
   ("records_for_exchange", one "id" .recordsForExchange),
   ("records_for_debt", one "id" .recordsForDebt),
   ("delete_records_for_exchange", one "id" .deleteRecordsForExchange),
   ("delete_records_for_debt", one "id" .deleteRecordsForDebt),
   ("create_exchange", one "row" .createExchange),
   ("exchange_by_id", one "id" .exchangeById),
   ("update_exchange", one "row" .updateExchange),
   ("delete_exchange", one "id" .deleteExchange),
   ("create_debtor", one "row" .createDebtor),
   ("debtor_by_id", one "id" .debtorById),
   ("debtors_for_user", one "user_id" .debtorsForUser),
   ("update_debtor", one "row" .updateDebtor),
   ("create_debt", one "row" .createDebt),
   ("debt_by_id", one "id" .debtById),
   ("debts_for_debtor", one "id" .debtsForDebtor),
   ("update_debt", one "row" .updateDebt),
   ("delete_debt", one "id" .deleteDebt),
   ("user_by_id", one "id" .userById)]

def writeAnswer : (request : Call) → request.Answer → Json
  | createBalance _, _ => .null
  | balanceById _, answer => Form.ofOption answer
  | balanceFor _ _, answer => Form.ofOption answer
  | balancesForUser _, answer => Form.write answer
  | balancesForCompany _, answer => Form.write answer
  | allBalances, answer => Form.write answer
  | updateBalance _, answer => Form.write answer
  | createRecord _, _ => .null
  | recordById _, answer => Form.ofOption answer
  | updateRecord _, _ => .null
  | deleteRecord _, _ => .null
  | recordsForBalance _, answer => Form.write answer
  | recordsForExchange _, answer => Form.write answer
  | recordsForDebt _, answer => Form.write answer
  | deleteRecordsForExchange _, count => .int count
  | deleteRecordsForDebt _, count => .int count
  | createExchange _, _ => .null
  | exchangeById _, answer => Form.ofOption answer
  | updateExchange _, _ => .null
  | deleteExchange _, _ => .null
  | createDebtor _, _ => .null
  | debtorById _, answer => Form.ofOption answer
  | debtorsForUser _, answer => Form.write answer
  | updateDebtor _, answer => Form.write answer
  | createDebt _, _ => .null
  | debtById _, answer => Form.ofOption answer
  | debtsForDebtor _, answer => Form.write answer
  | updateDebt _, _ => .null
  | deleteDebt _, _ => .null
  | userById _, answer => Form.ofOption answer

end Call

end CashLedger
