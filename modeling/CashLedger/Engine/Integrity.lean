import CashLedger.Engine.Operation
import CashLedger.Json.Form

/-!
# Integrity check

Every balance's totals are compared with what its records add up to, and its funds with
the difference of the totals.
-/

namespace CashLedger

/-- One of the three totals of a balance. -/
inductive Total where
  | outgoing
  | incoming
  | funds
  deriving DecidableEq

def Total.word : Total → String
  | outgoing => "in_out_lay"
  | incoming => "out_in_lay"
  | funds => "balance"

/-- A total that is not what it should be. -/
structure Discrepancy where
  balanceId : BalanceId
  userId : UserId
  currency : Currency
  field : Total
  expected : Amount
  actual : Amount
  deriving DecidableEq

structure IntegrityReport where
  balancesChecked : Nat := 0
  recordsChecked : Nat := 0
  discrepancies : List Discrepancy := []
  deriving DecidableEq

namespace IntegrityReport

def isClean (report : IntegrityReport) : Bool := report.discrepancies.isEmpty

def compare (balance : Balance) (field : Total) (expected actual : Amount) :
    List Discrepancy :=
  if expected = actual then []
  else [⟨balance.id, balance.userId, balance.currency, field, expected, actual⟩]

/-- What is wrong with a balance, given the sums of its records. -/
def discrepanciesOf (balance : Balance) (sold bought : Amount) : List Discrepancy :=
  compare balance .outgoing sold balance.outgoing
    ++ compare balance .incoming bought balance.incoming
    ++ compare balance .funds (Amount.subClamped balance.incoming balance.outgoing)
      balance.funds

/-- The report with one more balance and its records. -/
def check (report : IntegrityReport) (balance : Balance) (records : List Record) :
    Except LedgerError IntegrityReport := do
  let sold ← Record.total records .sell
  let bought ← Record.total records .buy
  return {
    balancesChecked := report.balancesChecked + 1
    recordsChecked := report.recordsChecked + records.length
    discrepancies := report.discrepancies ++ discrepanciesOf balance sold bought }

end IntegrityReport

namespace Form

def ofDiscrepancy (d : Discrepancy) : Json := .object
  [("balance_id", write d.balanceId), ("user_id", write d.userId),
   ("currency", write d.currency), ("field", .string d.field.word),
   ("expected", write d.expected), ("actual", write d.actual)]

def ofReport (report : IntegrityReport) : Json := .object
  [("balances_checked", .int report.balancesChecked),
   ("records_checked", .int report.recordsChecked),
   ("discrepancies", .array (report.discrepancies.map ofDiscrepancy))]

end Form

namespace Engine

def checkBalances (report : IntegrityReport) : List Balance → Work IntegrityReport
  | [] => return report
  | balance :: rest => do
    let records ← Work.ask (.recordsForBalance balance.id)
    let report ← Work.check (report.check balance records)
    checkBalances report rest

def discrepancyEvent (d : Discrepancy) : Event :=
  .entry .warn .integrity "Balance does not match its records"
    [("balance_id", .id d.balanceId), ("currency", .text d.currency.toText),
     ("field", .text d.field.word), ("expected", .amount d.expected),
     ("actual", .amount d.actual)]

def verifyIntegrity : Operation IntegrityReport where
  name := "verify_integrity"
  purpose := .query
  component := .integrity
  span := some []
  work := do
    let balances ← Work.ask .allBalances
    checkBalances {} balances
  report report := report.discrepancies.map discrepancyEvent ++
    [.entry .info .integrity "Integrity check complete"
      [("balances", .int report.balancesChecked), ("records", .int report.recordsChecked),
       ("discrepancies", .int report.discrepancies.length)]]

end Engine

end CashLedger
