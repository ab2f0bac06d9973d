import CashLedger.Engine.Request
import CashLedger.Proofs.Store.Table
import CashLedger.Proofs.Supply

/-!
# Twin runs

One request about one user, made once on each of two stores.  The two runs draw from
supplies of their own, so what they leave and answer is compared up to what was
generated: identifiers that both drew at the same place stand for one another, so do
times that both read at the same place, and all else has to be the same.
-/

namespace CashLedger

open Keyed (key)

/-! ## Whose rows -/

/-- Rows that belong to a user. -/
class Owned (α : Type) where
  owner : α → UserId

open Owned (owner)

instance : Owned Balance := ⟨Balance.userId⟩
instance : Owned Record := ⟨Record.userId⟩
instance : Owned Exchange := ⟨Exchange.userId⟩
instance : Owned Debtor := ⟨Debtor.userId⟩
instance : Owned Debt := ⟨Debt.userId⟩

namespace Table

variable {α κ : Type} [Keyed α κ] [Owned α]

/-- The same rows, as far as they belong to users who are chosen. -/
def AgreeWhere (chosen : UserId → Prop) (left right : Table α) : Prop :=
  ∀ row, chosen (owner row) → (row ∈ left.rows ↔ row ∈ right.rows)

instance (chosen : UserId → Prop) [DecidablePred chosen] [DecidableEq α]
    (left right : Table α) : Decidable (left.AgreeWhere chosen right) :=
  decidable_of_iff
    ((∀ row ∈ left.rows, chosen (owner row) → row ∈ right.rows) ∧
      ∀ row ∈ right.rows, chosen (owner row) → row ∈ left.rows)
    ⟨fun h row hrow => ⟨fun hmem => h.1 row hmem hrow, fun hmem => h.2 row hmem hrow⟩,
      fun h => ⟨fun row hmem hrow => (h row hrow).mp hmem,
        fun row hmem hrow => (h row hrow).mpr hmem⟩⟩

/-- The row of a key is there and belongs to the user. -/
def HasOf (user : UserId) (table : Table α) (k : κ) : Prop :=
  ∃ row ∈ table.rows, key row = k ∧ owner row = user

instance [DecidableEq κ] (user : UserId) (table : Table α) (k : κ) :
    Decidable (table.HasOf user k) :=
  inferInstanceAs (Decidable (∃ row ∈ table.rows, key row = k ∧ owner row = user))

/-- The rows of the user stand for one another one by one. -/
def OneForOne (user : UserId) (alike : α → α → Prop) (left right : Table α) : Prop :=
  ∃ rows, (right.rows.filter fun row => owner row = user).Perm rows ∧
    List.Forall₂ alike (left.rows.filter fun row => owner row = user) rows

end Table

namespace Tables

/-- The same rows of the users who are chosen in all tables. -/
structure AgreeWhere (chosen : UserId → Prop) (left right : Tables) : Prop where
  users : ∀ id, chosen id → left.users.find? id = right.users.find? id
  balances : left.balances.AgreeWhere chosen right.balances
  records : left.records.AgreeWhere chosen right.records
  exchanges : left.exchanges.AgreeWhere chosen right.exchanges
  debtors : left.debtors.AgreeWhere chosen right.debtors
  debts : left.debts.AgreeWhere chosen right.debts

instance (user : UserId) (left right : Tables) : Decidable (left.AgreeWhere (· = user) right) :=
  decidable_of_iff
    (left.users.find? user = right.users.find? user ∧
      left.balances.AgreeWhere (· = user) right.balances ∧
      left.records.AgreeWhere (· = user) right.records ∧
      left.exchanges.AgreeWhere (· = user) right.exchanges ∧
      left.debtors.AgreeWhere (· = user) right.debtors ∧
      left.debts.AgreeWhere (· = user) right.debts)
    ⟨fun ⟨husers, hbalances, hrecords, hexchanges, hdebtors, hdebts⟩ =>
      ⟨fun _ hid => hid ▸ husers, hbalances, hrecords, hexchanges, hdebtors, hdebts⟩,
      fun h => ⟨h.users user rfl, h.balances, h.records, h.exchanges, h.debtors, h.debts⟩⟩

/-- All generated identifiers that the rows hold. -/
def uuids (tables : Tables) : List Uuid :=
  tables.balances.rows.map (fun balance => balance.id.uuid)
    ++ tables.records.rows.map (fun record => record.id.uuid)
    ++ tables.records.rows.filterMap (fun record => record.source.transactionId?.map Id.uuid)
    ++ tables.exchanges.rows.map (fun exchange => exchange.id.uuid)
    ++ tables.debtors.rows.map (fun debtor => debtor.id.uuid)
    ++ tables.debts.rows.map (fun debt => debt.id.uuid)

end Tables

/-- Requests that name the user, or that name one of the user's rows. -/
def Request.AddressedTo (user : UserId) (tables : Tables) : Request → Prop
  | openBalance id _ | balance id _ | balancesForUser id | postBalanceRecord id _ _ _
  | debtorsForUser id => id = user
  | performBalanceRecord wanted => wanted.userId = user
  | createExchange wanted => wanted.userId = user
  | createDebt wanted => wanted.userId = user
  | balanceById id | recordsForBalance id => tables.balances.HasOf user id
  | record id | rollbackRecord id | updateRecord id _ _ => tables.records.HasOf user id
  | exchange id | updateExchange id _ | deleteExchange id | recordsForExchange id =>
    tables.exchanges.HasOf user id
  | debtor id | debtsForDebtor id => tables.debtors.HasOf user id
  | settleDebt wanted => tables.debtors.HasOf user wanted.debtorId
  | debt id | updateDebt id _ | deleteDebt id | recordsForDebt id => tables.debts.HasOf user id
  | balancesForCompany _ | verifyIntegrity => False

/-- One request about a user on two stores: the tables on which the runs start, and their
supplies at the end. -/
structure Twins where
  user : UserId
  left : Tables
  right : Tables
  first : Supply
  second : Supply

/-! ## The same but for what was generated -/

/-- The same error, or values that are alike. -/
def SameOutcome {α β : Type} (alike : α → β → Prop) :
    Except LedgerError α → Except LedgerError β → Prop
  | .ok a, .ok b => alike a b
  | .error cause, .error other => cause = other
  | _, _ => False

namespace Twins

variable (t : Twins)

/-- Drawn at the same place. -/
def Together (a b : Uuid) : Prop :=
  ∃ n < t.first.issued, n < t.second.issued ∧ a = t.first.uuid n ∧ b = t.second.uuid n

/-- Drawn at the same place, or one identifier that neither run drew. -/
def SameUuid (a b : Uuid) : Prop :=
  t.Together a b ∨ a = b ∧ a ∉ t.first.drawn ∧ a ∉ t.second.drawn

def SameId {kind : IdKind} (a b : Id kind) : Prop := t.SameUuid a.uuid b.uuid

/-- One time, or read at the same place. -/
def SameTime (a b : Timestamp) : Prop :=
  a = b ∨ ∃ n < t.first.readings, n < t.second.readings ∧
    a = t.first.moment n ∧ b = t.second.moment n

inductive SameSource : RecordSource → RecordSource → Prop
  | manual : SameSource .manual .manual
  | transaction {a b : TransactionId} (hsame : t.SameId a b) :
      SameSource (.transaction a) (.transaction b)
  | exchange {a b : ExchangeId} (hsame : t.SameId a b) : SameSource (.exchange a) (.exchange b)
  | debt {a b : DebtId} (hsame : t.SameId a b) : SameSource (.debt a) (.debt b)

structure SameBalance (a b : Balance) : Prop where
  id : t.SameId a.id b.id
  createdAt : t.SameTime a.createdAt b.createdAt
  updatedAt : t.SameTime a.updatedAt b.updatedAt
  rest : b = { a with id := b.id, createdAt := b.createdAt, updatedAt := b.updatedAt }

structure SameRecord (a b : Record) : Prop where
  id : t.SameId a.id b.id
  balanceId : t.SameId a.balanceId b.balanceId
  source : t.SameSource a.source b.source
  createdAt : t.SameTime a.createdAt b.createdAt
  updatedAt : t.SameTime a.updatedAt b.updatedAt
  rest : b = { a with
    id := b.id, balanceId := b.balanceId, source := b.source, createdAt := b.createdAt,
    updatedAt := b.updatedAt }

structure SameExchange (a b : Exchange) : Prop where
  id : t.SameId a.id b.id
  createdAt : t.SameTime a.createdAt b.createdAt
  updatedAt : t.SameTime a.updatedAt b.updatedAt
  rest : b = { a with id := b.id, createdAt := b.createdAt, updatedAt := b.updatedAt }

structure SameDebtor (a b : Debtor) : Prop where
  id : t.SameId a.id b.id
  createdAt : t.SameTime a.createdAt b.createdAt
  updatedAt : t.SameTime a.updatedAt b.updatedAt
  rest : b = { a with id := b.id, createdAt := b.createdAt, updatedAt := b.updatedAt }

structure SameDebt (a b : Debt) : Prop where
  id : t.SameId a.id b.id
  debtorId : t.SameId a.debtorId b.debtorId
  createdAt : t.SameTime a.createdAt b.createdAt
  updatedAt : t.SameTime a.updatedAt b.updatedAt
  rest : b = { a with
    id := b.id, debtorId := b.debtorId, createdAt := b.createdAt, updatedAt := b.updatedAt }

structure SamePosting (a b : DebtPosting) : Prop where
  debtor : t.SameDebtor a.debtor b.debtor
  debt : t.SameDebt a.debt b.debt
  records : List.Forall₂ t.SameRecord a.records b.records

def SameAnswer : (request : Request) → request.Answer → request.Answer → Prop
  | .openBalance _ _ | .balance _ _ | .balanceById _ | .rollbackRecord _ => t.SameBalance
  | .balancesForUser _ | .balancesForCompany _ => List.Forall₂ t.SameBalance
  | .postBalanceRecord _ _ _ _ | .updateRecord _ _ _ | .record _ => t.SameRecord
  | .recordsForBalance _ | .performBalanceRecord _ | .recordsForExchange _
  | .recordsForDebt _ => List.Forall₂ t.SameRecord
  | .createExchange _ | .updateExchange _ _ | .deleteExchange _ | .exchange _ =>
    t.SameExchange
  | .createDebt _ | .settleDebt _ | .updateDebt _ _ => t.SamePosting
  | .deleteDebt _ | .debtor _ => t.SameDebtor
  | .debtorsForUser _ => List.Forall₂ t.SameDebtor
  | .debt _ => t.SameDebt
  | .debtsForDebtor _ => List.Forall₂ t.SameDebt
  | .verifyIntegrity => Eq

/-- The rows of the user are the same in both. -/
structure SameRows (left right : Tables) : Prop where
  users : left.users.find? t.user = right.users.find? t.user
  balances : left.balances.OneForOne t.user t.SameBalance right.balances
  records : left.records.OneForOne t.user t.SameRecord right.records
  exchanges : left.exchanges.OneForOne t.user t.SameExchange right.exchanges
  debtors : left.debtors.OneForOne t.user t.SameDebtor right.debtors
  debts : left.debts.OneForOne t.user t.SameDebt right.debts

/-! ## One for one -/

/-- The same runs in the other order. -/
def swap : Twins where
  user := t.user
  left := t.right
  right := t.left
  first := t.second
  second := t.first

variable {t} {a b c : Uuid}

theorem Together.mem_drawn (htogether : t.Together a b) :
    a ∈ t.first.drawn ∧ b ∈ t.second.drawn := by
  obtain ⟨n, hfirst, hsecond, rfl, rfl⟩ := htogether
  exact ⟨Supply.mem_drawn.mpr ⟨n, hfirst, rfl⟩, Supply.mem_drawn.mpr ⟨n, hsecond, rfl⟩⟩

theorem SameUuid.swap (hsame : t.SameUuid a b) : t.swap.SameUuid b a := by
  rcases hsame with ⟨n, hfirst, hsecond, ha, hb⟩ | ⟨rfl, hfirst, hsecond⟩
  · exact .inl ⟨n, hsecond, hfirst, hb, ha⟩
  · exact .inr ⟨rfl, hsecond, hfirst⟩

/-- If no identifier was given out twice, one stands for one other only. -/
theorem SameUuid.right_unique (hdistinct : t.first.Distinct) (hb : t.SameUuid a b)
    (hc : t.SameUuid a c) : b = c := by
  rcases hb with hb | ⟨rfl, hfirst, -⟩ <;> rcases hc with hc | ⟨rfl, hfirst', -⟩
  · obtain ⟨n, hn, -, rfl, rfl⟩ := hb
    obtain ⟨m, hm, -, huuid, rfl⟩ := hc
    rw [hdistinct.eq_of_uuid_eq hn hm huuid]
  · exact absurd hb.mem_drawn.1 hfirst'
  · exact absurd hc.mem_drawn.1 hfirst
  · rfl

theorem SameUuid.left_unique (hdistinct : t.second.Distinct) (ha : t.SameUuid a c)
    (hb : t.SameUuid b c) : a = b :=
  @right_unique t.swap c a b hdistinct ha.swap hb.swap

/-- A row that is the same is the row with other identifiers and times. -/
theorem SameBalance.exists_row {a b : Balance} (hsame : t.SameBalance a b) :
    ∃ id createdAt updatedAt, t.SameId a.id id ∧ t.SameTime a.createdAt createdAt ∧
      t.SameTime a.updatedAt updatedAt ∧ b = { a with id, createdAt, updatedAt } :=
  ⟨_, _, _, hsame.id, hsame.createdAt, hsame.updatedAt, hsame.rest⟩

theorem SameDebtor.exists_row {a b : Debtor} (hsame : t.SameDebtor a b) :
    ∃ id createdAt updatedAt, t.SameId a.id id ∧ t.SameTime a.createdAt createdAt ∧
      t.SameTime a.updatedAt updatedAt ∧ b = { a with id, createdAt, updatedAt } :=
  ⟨_, _, _, hsame.id, hsame.createdAt, hsame.updatedAt, hsame.rest⟩

theorem SameDebt.exists_row {a b : Debt} (hsame : t.SameDebt a b) :
    ∃ id debtorId createdAt updatedAt, t.SameId a.id id ∧ t.SameId a.debtorId debtorId ∧
      t.SameTime a.createdAt createdAt ∧ t.SameTime a.updatedAt updatedAt ∧
      b = { a with id, debtorId, createdAt, updatedAt } :=
  ⟨_, _, _, _, hsame.id, hsame.debtorId, hsame.createdAt, hsame.updatedAt, hsame.rest⟩

theorem SameTime.refl (time : Timestamp) : t.SameTime time time := .inl rfl

end Twins

end CashLedger
