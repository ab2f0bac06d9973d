/-!
# The database schema

The tables that the ledger keeps in a database, the columns of each in the order in which
they are written, and the script that creates them.
-/

namespace CashLedger.Sql

inductive Relation where
  | users
  | balances
  | records
  | exchanges
  | debtors
  | debts
  deriving DecidableEq

namespace Relation

def name : Relation → String
  | users => "users"
  | balances => "balances"
  | records => "balance_records"
  | exchanges => "exchanges"
  | debtors => "debtors"
  | debts => "debts"

def columns : Relation → List String
  | users => ["id", "company_id"]
  | balances =>
    ["id", "user_id", "company_id", "currency", "balance", "in_out_lay", "out_in_lay",
     "version", "created_at", "updated_at"]
  | records =>
    ["id", "balance_id", "user_id", "company_id", "kind", "amount", "currency",
     "source_type", "transaction_id", "exchange_id", "debt_id", "details", "created_at",
     "updated_at"]
  | exchanges =>
    ["id", "user_id", "company_id", "received_amount", "received_currency", "sold_amount",
     "sold_currency", "details", "created_at", "updated_at"]
  | debtors =>
    ["id", "user_id", "company_id", "name", "phone", "currency", "balance", "version",
     "created_at", "updated_at"]
  | debts =>
    ["id", "debtor_id", "user_id", "company_id", "kind", "status", "debted_amount",
     "debted_currency", "received", "details", "created_at", "updated_at"]

end Relation

inductive CellType where
  | uuid
  | int8
  | text
  | timestamptz
  | jsonb
  deriving DecidableEq

def CellType.ofWord? (word : String) : Option CellType :=
  if word = "uuid" then some uuid
  else if word = "int8" then some int8
  else if word = "text" then some text
  else if word = "timestamptz" then some timestamptz
  else if word = "jsonb" then some jsonb
  else none

/-- Columns of one name have the same type in all tables. -/
def columnType (name : String) : CellType :=
  if name = "id" ∨ name.endsWith "_id" then .uuid
  else if name.endsWith "_at" then .timestamptz
  else if name.endsWith "amount" then .int8
  else if name ∈ ["balance", "in_out_lay", "out_in_lay", "version"] then .int8
  else if name = "received" then .jsonb
  else .text

/-- What a database says about the scripts that were run on it. -/
inductive SchemaState where
  /-- The script has not been run. -/
  | missing
  | current
  /-- Another text of the script was run. -/
  | altered
  /-- The script was run and failed. -/
  | failed
  /-- A script was run that is not known here. -/
  | foreign
  deriving DecidableEq

/-- Why a schema cannot be brought up to date, if it cannot. -/
def SchemaState.trouble? : SchemaState → Option String
  | missing | current => none
  | altered => some "the schema script was changed after it was run"
  | failed => some "the schema script has failed before"
  | foreign => some "the database has a schema script that is not known"

def scriptLines : List String :=
  ["-- Users are owned by the surrounding application; the ledger only reads them.",
   "CREATE TABLE IF NOT EXISTS users (",
   "    id UUID PRIMARY KEY,",
   "    company_id UUID NOT NULL",
   ");",
   "",
   "CREATE TABLE balances (",
   "    id UUID PRIMARY KEY,",
   "    user_id UUID NOT NULL,",
   "    company_id UUID NOT NULL,",
   "    currency TEXT NOT NULL,",
   "    balance BIGINT NOT NULL,",
   "    in_out_lay BIGINT NOT NULL,",
   "    out_in_lay BIGINT NOT NULL,",
   "    version BIGINT NOT NULL DEFAULT 0,",
   "    created_at TIMESTAMPTZ NOT NULL,",
   "    updated_at TIMESTAMPTZ NOT NULL,",
   "    UNIQUE (user_id, currency)",
   ");",
   "",
   "CREATE INDEX balances_company_idx ON balances (company_id);",
   "",
   "CREATE TABLE exchanges (",
   "    id UUID PRIMARY KEY,",
   "    user_id UUID NOT NULL,",
   "    company_id UUID NOT NULL,",
   "    received_amount BIGINT NOT NULL,",
   "    received_currency TEXT NOT NULL,",
   "    sold_amount BIGINT NOT NULL,",
   "    sold_currency TEXT NOT NULL,",
   "    details TEXT,",
   "    created_at TIMESTAMPTZ NOT NULL,",
   "    updated_at TIMESTAMPTZ NOT NULL",
   ");",
   "",
   "CREATE TABLE debtors (",
   "    id UUID PRIMARY KEY,",
   "    user_id UUID NOT NULL,",
   "    company_id UUID NOT NULL,",
   "    name TEXT NOT NULL,",
   "    phone TEXT,",
   "    currency TEXT NOT NULL,",
   "    balance BIGINT NOT NULL,",
   "    version BIGINT NOT NULL DEFAULT 0,",
   "    created_at TIMESTAMPTZ NOT NULL,",
   "    updated_at TIMESTAMPTZ NOT NULL",
   ");",
   "",
   "CREATE INDEX debtors_user_idx ON debtors (user_id);",
   "",
   "CREATE TABLE debts (",
   "    id UUID PRIMARY KEY,",
   "    debtor_id UUID NOT NULL REFERENCES debtors (id),",
   "    user_id UUID NOT NULL,",
   "    company_id UUID NOT NULL,",
   "    kind TEXT NOT NULL CHECK (kind IN ('LEND', 'BORROW')),",
   "    status TEXT NOT NULL CHECK (status IN ('OPENING', 'INSTALLMENT')),",
   "    debted_amount BIGINT NOT NULL,",
   "    debted_currency TEXT NOT NULL,",
   "    received JSONB NOT NULL DEFAULT '[]',",
   "    details TEXT,",
   "    created_at TIMESTAMPTZ NOT NULL,",
   "    updated_at TIMESTAMPTZ NOT NULL",
   ");",
   "",
   "CREATE INDEX debts_debtor_idx ON debts (debtor_id);",
   "",
   "CREATE TABLE balance_records (",
   "    id UUID PRIMARY KEY,",
   "    balance_id UUID NOT NULL REFERENCES balances (id),",
   "    user_id UUID NOT NULL,",
   "    company_id UUID NOT NULL,",
   "    kind TEXT NOT NULL CHECK (kind IN ('SELL', 'BUY')),",
   "    amount BIGINT NOT NULL CHECK (amount > 0),",
   "    currency TEXT NOT NULL,",
   "    source_type TEXT NOT NULL CHECK (source_type IN ('MANUAL', 'TRANSACTION', 'EXCHANGE', 'DEBT')),",
   "    transaction_id UUID,",
   "    exchange_id UUID REFERENCES exchanges (id),",
   "    debt_id UUID REFERENCES debts (id),",
   "    details TEXT,",
   "    created_at TIMESTAMPTZ NOT NULL,",
   "    updated_at TIMESTAMPTZ NOT NULL",
   ");",
   "",
   "CREATE INDEX balance_records_balance_idx ON balance_records (balance_id);",
   "CREATE INDEX balance_records_exchange_idx ON balance_records (exchange_id);",
   "CREATE INDEX balance_records_debt_idx ON balance_records (debt_id);"]

/-- The script that creates the schema. -/
def schemaScript : String := String.join (scriptLines.map fun line => line ++ "\n")

end CashLedger.Sql
