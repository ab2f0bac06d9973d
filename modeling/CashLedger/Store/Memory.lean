import CashLedger.Backend
import CashLedger.Store.Tables
import CashLedger.World

/-!
# The store in memory

A unit of work changes a copy of the tables and remembers what it wrote. Its commit first
checks that the balances and debtors it changed are still as it found them and that no
balance it opened is there already; then all of its writes appear in the shared tables at
once, or none.

Each update of a balance or debtor adds one to its version. The addition is checked, and the
program stops where it overflows.
-/

namespace CashLedger

namespace Call

/-- The version of the row that is updated. -/
def version? : Call → Option Int64
  | updateBalance balance => some balance.version
  | updateDebtor debtor => some debtor.version
  | _ => none

/-- There is a next version for the row that is updated. -/
def HasRoom (request : Call) : Prop := request.version? ≠ some Int64.maxValue

instance (request : Call) : Decidable request.HasRoom :=
  inferInstanceAs (Decidable (request.version? ≠ some Int64.maxValue))

end Call

/-- What a unit found when it first wrote a row. -/
inductive Base where
  | created
  | stored (version : Int64)
  deriving DecidableEq

/-- The rows that a unit wrote. One that is no longer in its tables was deleted. -/
structure WriteSet where
  balances : List (BalanceId × Base) := []
  debtors : List (DebtorId × Base) := []
  records : List RecordId := []
  exchanges : List ExchangeId := []
  debts : List DebtId := []
  deriving DecidableEq

/-- Remembers what was found at the first write of a row. -/
def WriteSet.touch {κ : Type} [DecidableEq κ] (touched : List (κ × Base)) (id : κ)
    (base : Base) : List (κ × Base) :=
  if id ∈ touched.map Prod.fst then touched else touched ++ [(id, base)]

structure MemoryUnit where
  working : Tables
  writes : WriteSet := {}

namespace MemoryUnit

def writeBalance (unit : MemoryUnit) (balance : Balance) (base : Base) : MemoryUnit where
  working := { unit.working with balances := unit.working.balances.insert balance }
  writes := { unit.writes with
    balances := WriteSet.touch unit.writes.balances balance.id base }

def writeDebtor (unit : MemoryUnit) (debtor : Debtor) (base : Base) : MemoryUnit where
  working := { unit.working with debtors := unit.working.debtors.insert debtor }
  writes := { unit.writes with debtors := WriteSet.touch unit.writes.debtors debtor.id base }

def writeRecord (unit : MemoryUnit) (record : Record) : MemoryUnit where
  working := { unit.working with records := unit.working.records.insert record }
  writes := { unit.writes with records := unit.writes.records.insert record.id }

def writeExchange (unit : MemoryUnit) (exchange : Exchange) : MemoryUnit where
  working := { unit.working with exchanges := unit.working.exchanges.insert exchange }
  writes := { unit.writes with exchanges := unit.writes.exchanges.insert exchange.id }

def writeDebt (unit : MemoryUnit) (debt : Debt) : MemoryUnit where
  working := { unit.working with debts := unit.working.debts.insert debt }
  writes := { unit.writes with debts := unit.writes.debts.insert debt.id }

def dropRecord (unit : MemoryUnit) (id : RecordId) : MemoryUnit where
  working := { unit.working with records := unit.working.records.erase id }
  writes := { unit.writes with records := unit.writes.records.insert id }

def dropExchange (unit : MemoryUnit) (id : ExchangeId) : MemoryUnit where
  working := { unit.working with exchanges := unit.working.exchanges.erase id }
  writes := { unit.writes with exchanges := unit.writes.exchanges.insert id }

def dropDebt (unit : MemoryUnit) (id : DebtId) : MemoryUnit where
  working := { unit.working with debts := unit.working.debts.erase id }
  writes := { unit.writes with debts := unit.writes.debts.insert id }

def createBalance (unit : MemoryUnit) (balance : Balance) :
    Except LedgerError Unit × MemoryUnit :=
  if (unit.working.balanceFor balance.userId balance.currency).isSome then
    (.error (.balanceExists balance.userId balance.currency), unit)
  else
    (.ok (), unit.writeBalance balance .created)

/-- Stores the row with the next version, if the given one is the current one. Where there is no
next version the call `stops`. -/
def updateBalance (unit : MemoryUnit) (balance : Balance) :
    Except LedgerError Balance × MemoryUnit :=
  match unit.working.balances.find? balance.id with
  | none => (.error (.notFound .balance balance.id), unit)
  | some current =>
    if current.version = balance.version then
      let stored := { balance with version := balance.version + 1 }
      (.ok stored, unit.writeBalance stored (.stored current.version))
    else
      (.error (.conflict .balance balance.id), unit)

/-- Stores the row with the next version, if the given one is the current one. Where there is no
next version the call `stops`. -/
def updateDebtor (unit : MemoryUnit) (debtor : Debtor) :
    Except LedgerError Debtor × MemoryUnit :=
  match unit.working.debtors.find? debtor.id with
  | none => (.error (.notFound .debtor debtor.id), unit)
  | some current =>
    if current.version = debtor.version then
      let stored := { debtor with version := debtor.version + 1 }
      (.ok stored, unit.writeDebtor stored (.stored current.version))
    else
      (.error (.conflict .debtor debtor.id), unit)

/-- A change of a row that has to be there. -/
def changing (present : Bool) (missing : LedgerError) (unit changed : MemoryUnit) :
    Except LedgerError Unit × MemoryUnit :=
  if present then (.ok (), changed) else (.error missing, unit)

def deleteRecordsWhere (unit : MemoryUnit) (chosen : Record → Bool) :
    Except LedgerError Nat × MemoryUnit :=
  let ids := (unit.working.records.rows.filter chosen).map Record.id
  (.ok ids.length, ids.foldl dropRecord unit)

/-- What a call that comes back is answered, and the unit after it. -/
def answer (unit : MemoryUnit) : (request : Call) →
    Except LedgerError request.Answer × MemoryUnit
  | .createBalance balance => unit.createBalance balance
  | .balanceById id => (.ok (unit.working.balances.find? id), unit)
  | .balanceFor user currency => (.ok (unit.working.balanceFor user currency), unit)
  | .balancesForUser user => (.ok (unit.working.balancesForUser user), unit)
  | .balancesForCompany company => (.ok (unit.working.balancesForCompany company), unit)
  | .allBalances => (.ok unit.working.allBalances, unit)
  | .updateBalance balance => unit.updateBalance balance
  | .createRecord record => (.ok (), unit.writeRecord record)
  | .recordById id => (.ok (unit.working.records.find? id), unit)
  | .updateRecord record =>
    changing (unit.working.records.contains record.id) (.notFound .record record.id) unit
      (unit.writeRecord record)
  | .deleteRecord id =>
    changing (unit.working.records.contains id) (.notFound .record id) unit
      (unit.dropRecord id)
  | .recordsForBalance id =>
    (.ok (unit.working.recordsWhere (Record.isOnBalance id)), unit)
  | .recordsForExchange id =>
    (.ok (unit.working.recordsWhere (Record.isOfExchange id)), unit)
  | .recordsForDebt id => (.ok (unit.working.recordsWhere (Record.isOfDebt id)), unit)
  | .deleteRecordsForExchange id => unit.deleteRecordsWhere (Record.isOfExchange id)
  | .deleteRecordsForDebt id => unit.deleteRecordsWhere (Record.isOfDebt id)
  | .createExchange exchange => (.ok (), unit.writeExchange exchange)
  | .exchangeById id => (.ok (unit.working.exchanges.find? id), unit)
  | .updateExchange exchange =>
    changing (unit.working.exchanges.contains exchange.id) (.notFound .exchange exchange.id)
      unit (unit.writeExchange exchange)
  | .deleteExchange id =>
    changing (unit.working.exchanges.contains id) (.notFound .exchange id) unit
      (unit.dropExchange id)
  | .createDebtor debtor => (.ok (), unit.writeDebtor debtor .created)
  | .debtorById id => (.ok (unit.working.debtors.find? id), unit)
  | .debtorsForUser user => (.ok (unit.working.debtorsForUser user), unit)
  | .updateDebtor debtor => unit.updateDebtor debtor
  | .createDebt debt => (.ok (), unit.writeDebt debt)
  | .debtById id => (.ok (unit.working.debts.find? id), unit)
  | .debtsForDebtor debtor => (.ok (unit.working.debtsForDebtor debtor), unit)
  | .updateDebt debt =>
    changing (unit.working.debts.contains debt.id) (.notFound .debt debt.id) unit
      (unit.writeDebt debt)
  | .deleteDebt id =>
    changing (unit.working.debts.contains id) (.notFound .debt id) unit (unit.dropDebt id)
  | .userById id => (.ok (unit.working.users.find? id), unit)

/-- The program stops in a call that is not refused but has no next version to store. Such a call
never comes back: it stores nothing, and nothing of what `answer` makes of it happens. -/
def stops (unit : MemoryUnit) (request : Call) : Bool :=
  (unit.answer request).1.isOk && !decide request.HasRoom

/-- A balance that was changed has to have the version it was found with; the owner of one
that was opened must not have another in its currency. -/
def checkBalance (unit : MemoryUnit) (shared : Tables) :
    BalanceId × Base → Except LedgerError Unit
  | (id, .stored version) =>
    if (shared.balances.find? id).map Balance.version = some version then .ok ()
    else .error (.conflict .balance id)
  | (id, .created) =>
    match unit.working.balances.find? id with
    | none => .ok ()
    | some opened =>
      if shared.balances.rows.any fun b =>
          b.id ≠ opened.id && b.userId = opened.userId && b.currency = opened.currency then
        .error (.balanceExists opened.userId opened.currency)
      else
        .ok ()

def checkDebtor (shared : Tables) : DebtorId × Base → Except LedgerError Unit
  | (id, .stored version) =>
    if (shared.debtors.find? id).map Debtor.version = some version then .ok ()
    else .error (.conflict .debtor id)
  | (_, .created) => .ok ()

def check (unit : MemoryUnit) (shared : Tables) : Except LedgerError Unit := do
  unit.writes.balances.forM (unit.checkBalance shared)
  unit.writes.debtors.forM (checkDebtor shared)

/-- The shared tables with every row that the unit wrote as the unit has it. -/
def publish (unit : MemoryUnit) (shared : Tables) : Tables :=
  { shared with
    balances := (unit.writes.balances.map Prod.fst).foldl
      (Table.copyRow unit.working.balances) shared.balances
    records := unit.writes.records.foldl (Table.copyRow unit.working.records) shared.records
    exchanges := unit.writes.exchanges.foldl (Table.copyRow unit.working.exchanges)
      shared.exchanges
    debtors := (unit.writes.debtors.map Prod.fst).foldl
      (Table.copyRow unit.working.debtors) shared.debtors
    debts := unit.writes.debts.foldl (Table.copyRow unit.working.debts) shared.debts }

def commit (unit : MemoryUnit) (shared : Tables) : Except LedgerError Tables := do
  unit.check shared
  return unit.publish shared

end MemoryUnit

namespace Memory

def committed (writes : WriteSet) : Event :=
  .entry .debug .memory "Memory unit committed"
    [("balances", .int writes.balances.length), ("records", .int writes.records.length)]

def rolledBack : Event := .entry .debug .memory "Memory unit rolled back" []

def backend : Backend (World Tables) MemoryUnit where
  begin world := (.ok ⟨world.store, {}⟩, world)
  answer request unit world :=
    let (answer, unit) := unit.answer request
    (answer, unit, world)
  commit unit world :=
    match unit.commit world.store with
    | .ok store => (.ok (), { world with store }.note (committed unit.writes))
    | .error cause => (.error cause, world)
  rollback _ world := (.ok (), world.note rolledBack)
  clock := World.clock
  draw := World.draw
  note := World.note

end Memory

end CashLedger
