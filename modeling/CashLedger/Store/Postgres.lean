import CashLedger.Backend
import CashLedger.Sql.Rows
import CashLedger.Sql.Server
import CashLedger.World

/-!
# The store in Postgres

A unit of work is a transaction. Each call is one statement and one way to read its reply;
what a statement changes and what the schema refuses is left to the database.
-/

namespace CashLedger.Postgres

open Sql
open Sql.Column (toCell)

/-- A statement and what its reply means. -/
structure Query (α : Type) where
  statement : Statement
  read : Reply → Except LedgerError α

namespace Query

variable {α : Type}

/-- All rows, each read in turn. -/
def all (read : Row → Except LedgerError α) (statement : Statement) : Query (List α) where
  statement := statement
  read reply := do
    let rows ← reply.toRows
    rows.mapM read

/-- The first row, if there is one. -/
def first (read : Row → Except LedgerError α) (statement : Statement) : Query (Option α) where
  statement := statement
  read reply := do
    let rows ← reply.toRows
    match rows with
    | [] => return none
    | row :: _ => (read row).map some

/-- The row that an update gives back; none means that another unit came first. -/
def revised (read : Row → Except LedgerError α) (stale : LedgerError)
    (statement : Statement) : Query α where
  statement := statement
  read reply := do
    let rows ← reply.toRows
    match rows with
    | [] => .error stale
    | row :: _ => read row

/-- A change of at least one row. -/
def changing (missing : LedgerError) (statement : Statement) : Query Unit where
  statement := statement
  read reply := do
    let count ← reply.toCount
    if count = 0 then .error missing else return ()

def counting (statement : Statement) : Query Nat := ⟨statement, Reply.toCount⟩

def adding (statement : Statement) : Query Unit := ⟨statement, Reply.toUnit⟩

end Query

/-- The code of an error on a value that has to be unique. -/
def uniqueViolation : String := "23505"

/-- Adds a balance, which the schema refuses if its owner has one in the currency. -/
def insertBalance (balance : Balance) : Query Unit where
  statement := .insert .balances (Row.balanceValues balance)
  read
    | .refused code text =>
      if code = uniqueViolation then .error (.balanceExists balance.userId balance.currency)
      else .error (.database (.foreign text))
    | _ => .ok ()

def byAge : List String := ["created_at", "id"]

def byOwner : List String := ["user_id", "currency"]

def query : (request : Call) → Query request.Answer
  | .createBalance balance => insertBalance balance
  | .balanceById id => .first Row.toBalance (.select .balances [("id", toCell id)] [])
  | .balanceFor user currency =>
    .first Row.toBalance
      (.select .balances [("user_id", toCell user), ("currency", toCell currency.code)] [])
  | .balancesForUser user =>
    .all Row.toBalance (.select .balances [("user_id", toCell user)] ["currency"])
  | .balancesForCompany company =>
    .all Row.toBalance (.select .balances [("company_id", toCell company)] byOwner)
  | .allBalances => .all Row.toBalance (.select .balances [] byOwner)
  | .updateBalance balance =>
    .revised Row.toBalance (.conflict .balance balance.id)
      (.revise .balances balance.id.uuid balance.version (Row.balanceChanges balance))
  | .createRecord record => .adding (.insert .records (Row.recordValues record))
  | .recordById id => .first Row.toRecord (.select .records [("id", toCell id)] [])
  | .updateRecord record =>
    .changing (.notFound .record record.id)
      (.update .records record.id.uuid (Row.recordChanges record))
  | .deleteRecord id => .changing (.notFound .record id) (.delete .records "id" id.uuid)
  | .recordsForBalance id =>
    .all Row.toRecord (.select .records [("balance_id", toCell id)] byAge)
  | .recordsForExchange id =>
    .all Row.toRecord (.select .records [("exchange_id", toCell id)] byAge)
  | .recordsForDebt id => .all Row.toRecord (.select .records [("debt_id", toCell id)] byAge)
  | .deleteRecordsForExchange id => .counting (.delete .records "exchange_id" id.uuid)
  | .deleteRecordsForDebt id => .counting (.delete .records "debt_id" id.uuid)
  | .createExchange exchange => .adding (.insert .exchanges (Row.exchangeValues exchange))
  | .exchangeById id => .first Row.toExchange (.select .exchanges [("id", toCell id)] [])
  | .updateExchange exchange =>
    .changing (.notFound .exchange exchange.id)
      (.update .exchanges exchange.id.uuid (Row.exchangeChanges exchange))
  | .deleteExchange id =>
    .changing (.notFound .exchange id) (.delete .exchanges "id" id.uuid)
  | .createDebtor debtor => .adding (.insert .debtors (Row.debtorValues debtor))
  | .debtorById id => .first Row.toDebtor (.select .debtors [("id", toCell id)] [])
  | .debtorsForUser user => .all Row.toDebtor (.select .debtors [("user_id", toCell user)] byAge)
  | .updateDebtor debtor =>
    .revised Row.toDebtor (.conflict .debtor debtor.id)
      (.revise .debtors debtor.id.uuid debtor.version (Row.debtorChanges debtor))
  | .createDebt debt => .adding (.insert .debts (Row.debtValues debt))
  | .debtById id => .first Row.toDebt (.select .debts [("id", toCell id)] [])
  | .debtsForDebtor debtor =>
    .all Row.toDebt (.select .debts [("debtor_id", toCell debtor)] byAge)
  | .updateDebt debt =>
    .changing (.notFound .debt debt.id) (.update .debts debt.id.uuid (Row.debtChanges debt))
  | .deleteDebt id => .changing (.notFound .debt id) (.delete .debts "id" id.uuid)
  | .userById id => .first Row.toUser (.select .users [("id", toCell id)] [])

variable {S : Type}

def send (server : Server S) (message : Message) (world : World S) : Reply × World S :=
  let (reply, store) := server.send message world.store
  (reply, { world with store })

/-- Sends a message whose reply matters only if it is a refusal. -/
def command (server : Server S) (message : Message) (world : World S) :
    Except LedgerError Unit × World S :=
  let (reply, world) := send server message world
  (reply.toUnit, world)

def committed : Event := .entry .debug .postgres "Postgres unit committed" []

def rolledBack : Event := .entry .debug .postgres "Postgres unit rolled back" []

def schemaCurrent : Event := .entry .info .postgres "Ledger schema up to date" []

/-- Sends a message and logs an event if it was not refused. -/
def announced (server : Server S) (message : Message) (event : Event) (world : World S) :
    Except LedgerError Unit × World S :=
  match command server message world with
  | (.ok (), world) => (.ok (), world.note event)
  | (.error cause, world) => (.error cause, world)

def backend (server : Server S) : Backend (World S) Unit where
  begin := command server .begin
  answer request _ world :=
    let (reply, world) := send server (.run (query request).statement) world
    ((query request).read reply, (), world)
  commit _ := announced server .commit committed
  rollback _ := announced server .rollback rolledBack
  clock := World.clock
  draw := World.draw
  note := World.note

def connect (server : Server S) (address : String) (world : World S) :
    Except LedgerError Unit :=
  if server.accepts world.store address then .ok ()
  else .error (.database (.foreign ("cannot connect to " ++ address)))

/-- Sends messages until one is refused. -/
def commands (server : Server S) : List Message → World S → Except LedgerError Unit × World S
  | [], world => (.ok (), world)
  | message :: rest, world =>
    match command server message world with
    | (.ok (), world) => commands server rest world
    | (.error cause, world) => (.error cause, world)

/-- The messages that bring a schema up to date. -/
def migration : SchemaState → List Message
  | .missing => [.begin, .script schemaScript, .commit]
  | _ => []

/-- Brings the schema up to date, unless what the database says about it stands against
that. -/
def migrate (server : Server S) (world : World S) : Except LedgerError Unit × World S :=
  let state := server.schema world.store
  match state.trouble? with
  | some text => (.error (.database (.foreign text)), world)
  | none =>
    match commands server (migration state) world with
    | (.ok (), world) => (.ok (), world.note schemaCurrent)
    | (.error cause, world) => (.error cause, world)

end CashLedger.Postgres
