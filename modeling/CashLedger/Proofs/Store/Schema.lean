import CashLedger.Proofs.Store.Postgres
import CashLedger.Proofs.Store.Updates

/-!
# Statements and the schema

What the schema of a database asks for, the statements of an operation observe: amounts are
positive and words are known, a record names its one source, and what a row refers to was
inserted or came back before it.  An exchange or debt is deleted only after its records.
-/

namespace CashLedger

open Sql
open Sql.Column (toCell)

/-! ## Rows and replies -/

theorem Except.bind_eq_ok {ε α β : Type} {first : Except ε α} {next : α → Except ε β} {value : β} :
    (first >>= next) = .ok value ↔ ∃ middle, first = .ok middle ∧ next middle = .ok value := by
  cases first <;> simp [bind, Except.bind]

namespace Sql

theorem Row.id?_of_read {kind : IdKind} {row : Row} {id : Id kind}
    (hread : row.read "id" = .ok id) : row.id? = some id.uuid := by
  simp only [Row.read] at hread
  rw [Row.id?]
  split at hread
  · next value hvalue =>
    cases hread
    obtain ⟨cell, hcell, hof⟩ := Option.bind_eq_some_iff.mp hvalue
    rw [hcell]
    cases cell with
    | uuid uuid =>
      cases hof
      rfl
    | _ => cases hof
  · cases hread

namespace Row

variable {row : Row}

theorem id?_of_toBalance {balance : Balance} (hread : row.toBalance = .ok balance) :
    row.id? = some balance.id.uuid := by
  simp only [toBalance, Except.bind_eq_ok] at hread
  obtain ⟨id, hid, _, -, _, -, _, -, _, -, _, -, _, -, _, -, _, -, _, -, ⟨⟩⟩ := hread
  exact id?_of_read hid

theorem id?_of_toExchange {exchange : Exchange} (hread : row.toExchange = .ok exchange) :
    row.id? = some exchange.id.uuid := by
  simp only [toExchange, Except.bind_eq_ok] at hread
  obtain ⟨id, hid, _, -, _, -, _, -, _, -, _, -, _, -, _, -, _, -, _, -, ⟨⟩⟩ := hread
  exact id?_of_read hid

theorem id?_of_toDebtor {debtor : Debtor} (hread : row.toDebtor = .ok debtor) :
    row.id? = some debtor.id.uuid := by
  simp only [toDebtor, Except.bind_eq_ok] at hread
  obtain ⟨id, hid, _, -, _, -, _, -, _, -, _, -, _, -, _, -, _, -, _, -, ⟨⟩⟩ := hread
  exact id?_of_read hid

theorem id?_of_toDebt {debt : Debt} (hread : row.toDebt = .ok debt) :
    row.id? = some debt.id.uuid := by
  simp only [toDebt, Except.bind_eq_ok] at hread
  obtain ⟨_, -, id, hid, _, -, _, -, _, -, _, -, _, -, _, -, _, -, _, -, _, -, _, -, _, -, _, -,
    ⟨⟩⟩ := hread
  exact id?_of_read hid

/-- The column has one of some words. -/
def HasWord (row : Row) (name : String) (words : List String) : Prop :=
  ∃ word ∈ words, row.lookup name = some (.text word)

/-- The source types with the column that each has its identifier in. -/
def sourceColumns : List (String × Option String) :=
  [("MANUAL", none), ("TRANSACTION", some "transaction_id"), ("EXCHANGE", some "exchange_id"),
   ("DEBT", some "debt_id")]

/-- The column of the source type is the only one that is not null. -/
def HasSource (row : Row) : Prop :=
  ∃ source ∈ sourceColumns, row.lookup "source_type" = some (.text source.1) ∧
    ∀ name ∈ ["transaction_id", "exchange_id", "debt_id"],
      if source.2 = some name then ∃ id, row.lookup name = some (.uuid id)
      else row.lookup name = some .null

theorem hasSource_recordValues (record : Record) :
    (Relation.records.row (recordValues record)).HasSource := by
  obtain ⟨id, balanceId, userId, companyId, kind, amount, currency, source, details, createdAt,
    updatedAt⟩ := record
  cases source with
  | manual =>
    refine ⟨("MANUAL", none), by simp [sourceColumns], rfl, ?_⟩
    exact List.forall_iff_forall_mem.mp ⟨rfl, rfl, rfl⟩
  | transaction id =>
    refine ⟨("TRANSACTION", some "transaction_id"), by simp [sourceColumns], rfl, ?_⟩
    exact List.forall_iff_forall_mem.mp ⟨⟨id.uuid, rfl⟩, rfl, rfl⟩
  | exchange id =>
    refine ⟨("EXCHANGE", some "exchange_id"), by simp [sourceColumns], rfl, ?_⟩
    exact List.forall_iff_forall_mem.mp ⟨rfl, ⟨id.uuid, rfl⟩, rfl⟩
  | debt id =>
    refine ⟨("DEBT", some "debt_id"), by simp [sourceColumns], rfl, ?_⟩
    exact List.forall_iff_forall_mem.mp ⟨rfl, rfl, ⟨id.uuid, rfl⟩⟩

end Row

namespace Statement

/-- The relation that a statement puts values into. -/
def writes? : Statement → Option Relation
  | insert relation _ | update relation _ _ | revise relation _ _ _ => some relation
  | _ => none

/-- The columns that a statement has values for. -/
def bound : Statement → Row
  | insert relation values => relation.row values
  | statement => statement.changes

end Statement

end Sql

namespace Sent

/-- A row with this identifier came back, from a selection or an update. -/
inductive Returns (relation : Relation) (id : Uuid) : Sent → Prop
  | selected (keys : List (String × Cell)) (order : List String) (row : Row) (rest : List Row)
      (hid : row.id? = some id) :
      Returns relation id ⟨.run (.select relation keys order), .rows (row :: rest)⟩
  | revised (named : Uuid) (version : Int64) (changes : List (String × Cell)) (row : Row)
      (rest : List Row) (hid : row.id? = some id) :
      Returns relation id ⟨.run (.revise relation named version changes), .rows (row :: rest)⟩

/-- A row with this identifier was inserted or selected. -/
inductive Meets (relation : Relation) (id : Uuid) : Sent → Prop
  | inserted (values : List Cell) (reply : Reply) (hid : (relation.row values).id? = some id)
      (hreply : reply.toUnit = .ok ()) : Meets relation id ⟨.run (.insert relation values), reply⟩
  | selected (keys : List (String × Cell)) (order : List String) (row : Row) (rest : List Row)
      (hid : row.id? = some id) :
      Meets relation id ⟨.run (.select relation keys order), .rows (row :: rest)⟩

/-- A row that was looked up by its identifier has it. -/
def findsById : Sent → Bool
  | ⟨.run (.select _ [(name, .uuid id)] _), .rows (row :: _)⟩ => name != "id" || row.id? == some id
  | _ => true

end Sent

/-- The records with this owner were deleted, and none was inserted after that. -/
def Cleared (before : List Sent) (column : String) (owner : Uuid) : Prop :=
  ∃ earlier reply later,
    before = earlier ++ ⟨.run (.delete .records column owner), reply⟩ :: later ∧
      reply.toUnit = .ok () ∧
      ∀ sent ∈ later, ∀ values, sent.message ≠ .run (.insert .records values)

/-- What the schema asks of the values of a record, whether it is new or not. -/
structure BindsRecord (before : List Sent) (bound : Row) : Prop where
  amount : ∃ amount, bound.lookup "amount" = some (.int amount) ∧ 0 < amount
  kind : bound.HasWord "kind" ["SELL", "BUY"]
  balance : ∃ id, bound.lookup "balance_id" = some (.uuid id) ∧
    ∃ found ∈ before, found.Returns .balances id

/-- What the schema asks of the source of a new record. -/
structure BindsSource (before : List Sent) (bound : Row) : Prop where
  source : bound.HasSource
  exchange : ∀ id, bound.lookup "exchange_id" = some (.uuid id) →
    ∃ found ∈ before, found.Meets .exchanges id
  debt : ∀ id, bound.lookup "debt_id" = some (.uuid id) → ∃ found ∈ before, found.Meets .debts id

/-- What the schema asks of the values of a debt, whether it is new or not. -/
structure BindsDebt (bound : Row) : Prop where
  kind : bound.HasWord "kind" ["LEND", "BORROW"]
  status : bound.HasWord "status" ["OPENING", "INSTALLMENT"]

/-- What the schema asks of a statement, after what was sent before it. -/
structure RespectsSchema (before : List Sent) (statement : Statement) : Prop where
  record : statement.writes? = some .records → BindsRecord before statement.bound
  debt : statement.writes? = some .debts → BindsDebt statement.bound
  newRecord : ∀ values, statement = .insert .records values → BindsSource before statement.bound
  newDebt : ∀ values, statement = .insert .debts values →
    ∃ id, statement.bound.lookup "debtor_id" = some (.uuid id) ∧
      ∃ found ∈ before, found.Meets .debtors id
  oldExchange : ∀ column id, statement = .delete .exchanges column id →
    column = "id" ∧ Cleared before "exchange_id" id
  oldDebt : ∀ column id, statement = .delete .debts column id →
    column = "id" ∧ Cleared before "debt_id" id

/-- What is sent before all else makes no difference. -/
theorem RespectsSchema.cons {before : List Sent} {statement : Statement} {first : Sent}
    (hrespects : RespectsSchema before statement) : RespectsSchema (first :: before) statement := by
  have hmore : ∀ {holds : Sent → Prop}, (∃ found ∈ before, holds found) →
      ∃ found ∈ first :: before, holds found :=
    fun ⟨found, hmem, hholds⟩ => ⟨found, List.mem_cons_of_mem _ hmem, hholds⟩
  have hcleared : ∀ {column owner}, Cleared before column owner →
      Cleared (first :: before) column owner := by
    rintro column owner ⟨earlier, reply, later, rfl, hrest⟩
    exact ⟨first :: earlier, reply, later, rfl, hrest⟩
  constructor
  case record =>
    intro hwrites
    obtain ⟨hamount, hkind, id, hid, hfound⟩ := hrespects.record hwrites
    exact ⟨hamount, hkind, id, hid, hmore hfound⟩
  case debt => exact hrespects.debt
  case newRecord =>
    intro values hinsert
    obtain ⟨hsource, hexchange, hdebt⟩ := hrespects.newRecord values hinsert
    exact ⟨hsource, fun id hid => hmore (hexchange id hid), fun id hid => hmore (hdebt id hid)⟩
  case newDebt =>
    intro values hinsert
    obtain ⟨id, hid, hfound⟩ := hrespects.newDebt values hinsert
    exact ⟨id, hid, hmore hfound⟩
  case oldExchange =>
    intro column id hdelete
    exact (hrespects.oldExchange column id hdelete).imp_right hcleared
  case oldDebt =>
    intro column id hdelete
    exact (hrespects.oldDebt column id hdelete).imp_right hcleared

namespace Postgres

/-! ## Calls behind statements -/

section Calls

variable {call : Call}

theorem record_of_writes (hwrites : (query call).statement.writes? = some .records) :
    ∃ record, call = .createRecord record ∨ call = .updateRecord record := by
  cases call with
  | createRecord record => exact ⟨record, .inl rfl⟩
  | updateRecord record => exact ⟨record, .inr rfl⟩
  | _ => cases hwrites

theorem debt_of_writes (hwrites : (query call).statement.writes? = some .debts) :
    ∃ debt, call = .createDebt debt ∨ call = .updateDebt debt := by
  cases call with
  | createDebt debt => exact ⟨debt, .inl rfl⟩
  | updateDebt debt => exact ⟨debt, .inr rfl⟩
  | _ => cases hwrites

theorem createRecord_of_insert {values : List Cell}
    (hinsert : (query call).statement = .insert .records values) :
    ∃ record, call = .createRecord record ∧ values = Row.recordValues record := by
  cases call with
  | createRecord record =>
    cases hinsert
    exact ⟨record, rfl, rfl⟩
  | _ => cases hinsert

theorem createDebt_of_insert {values : List Cell}
    (hinsert : (query call).statement = .insert .debts values) :
    ∃ debt, call = .createDebt debt ∧ values = Row.debtValues debt := by
  cases call with
  | createDebt debt =>
    cases hinsert
    exact ⟨debt, rfl, rfl⟩
  | _ => cases hinsert

theorem deleteExchange_of_delete {column : String} {id : Uuid}
    (hdelete : (query call).statement = .delete .exchanges column id) :
    call = .deleteExchange ⟨id⟩ ∧ column = "id" := by
  cases call with
  | deleteExchange wanted =>
    cases hdelete
    exact ⟨rfl, rfl⟩
  | _ => cases hdelete

theorem deleteDebt_of_delete {column : String} {id : Uuid}
    (hdelete : (query call).statement = .delete .debts column id) :
    call = .deleteDebt ⟨id⟩ ∧ column = "id" := by
  cases call with
  | deleteDebt wanted =>
    cases hdelete
    exact ⟨rfl, rfl⟩
  | _ => cases hdelete

end Calls

/-! ## What was sent for what was heard -/

theorem Transcript.split {earlier later : List Answered} {here : Answered}
    {statements : List Sent} (htranscript : Transcript (earlier ++ here :: later) statements) :
    ∃ before sent after, statements = before ++ sent :: after ∧ Told here.contact sent ∧
      Transcript later after := by
  rw [Transcript, List.map_append, List.map_cons] at htranscript
  obtain ⟨before, sent, after, rfl, -, htold, hafter⟩ := forall₂_split htranscript.flip
  exact ⟨before, sent, after, rfl, htold, hafter.flip⟩

section Told

variable {α : Type} {relation : Relation} {read : Row → Except LedgerError α} {value : α}
  {sent : Sent}

/-- A selection that found a value. -/
theorem selected_of_told {keys : List (String × Cell)} {order : List String}
    (hmessage : sent.message = .run (.select relation keys order))
    (hread : (Query.first read (.select relation keys order)).read sent.reply = .ok (some value)) :
    ∃ row rest, sent = ⟨.run (.select relation keys order), .rows (row :: rest)⟩ ∧
      read row = .ok value := by
  obtain ⟨message, reply⟩ := sent
  subst hmessage
  obtain ⟨found, hfound, hfirst⟩ := Except.bind_eq_ok.mp hread
  rcases found with - | ⟨row, rest⟩
  · cases hfirst
  · cases reply with
    | rows rows =>
      cases hfound
      refine ⟨row, rest, rfl, ?_⟩
      cases hrow : read row with
      | error cause => simp [Except.map, hrow] at hfirst
      | ok other =>
        have hother : other = value := by simpa [Except.map, hrow] using hfirst
        rw [hother]
    | affected count | refused code text => cases hfound

/-- An update that gave its row back. -/
theorem revised_of_told {id : Uuid} {version : Int64} {changes : List (String × Cell)}
    {stale : LedgerError} (hmessage : sent.message = .run (.revise relation id version changes))
    (hread : (Query.revised read stale (.revise relation id version changes)).read sent.reply =
      .ok value) :
    ∃ row rest, sent = ⟨.run (.revise relation id version changes), .rows (row :: rest)⟩ ∧
      read row = .ok value := by
  obtain ⟨message, reply⟩ := sent
  subst hmessage
  obtain ⟨found, hfound, hfirst⟩ := Except.bind_eq_ok.mp hread
  rcases found with - | ⟨row, rest⟩
  · cases hfirst
  · cases reply with
    | rows rows =>
      cases hfound
      exact ⟨row, rest, rfl, hfirst⟩
    | affected count | refused code text => cases hfound

theorem meets_of_inserted {values : List Cell} {id : Uuid}
    (hmessage : sent.message = .run (.insert relation values))
    (hread : sent.reply.toUnit = .ok ()) (hid : (relation.row values).id? = some id) :
    sent.Meets relation id := by
  obtain ⟨message, reply⟩ := sent
  subst hmessage
  exact .inserted values reply hid hread

theorem meets_of_selected {keys : List (String × Cell)} {order : List String} {id : Uuid}
    (hmessage : sent.message = .run (.select relation keys order))
    (hread : (Query.first read (.select relation keys order)).read sent.reply = .ok (some value))
    (hid : ∀ row, read row = .ok value → row.id? = some id) : sent.Meets relation id := by
  obtain ⟨row, rest, rfl, hrow⟩ := selected_of_told hmessage hread
  exact .selected keys order row rest (hid row hrow)

end Told

variable {past : List Answered} {statements : List Sent}

theorem exists_returns {after stored : Balance} (htranscript : Transcript past statements)
    (hmem : ⟨.updateBalance after, stored⟩ ∈ past) :
    ∃ found ∈ statements, found.Returns .balances stored.id.uuid := by
  obtain ⟨sent, hsent, htold⟩ := htranscript.exists_told hmem
  obtain ⟨row, rest, rfl, hrow⟩ := revised_of_told htold.1 htold.2
  exact ⟨_, hsent, .revised _ _ _ row rest (Row.id?_of_toBalance hrow)⟩

theorem exists_meets_exchange {answered : Answered} {exchange : Exchange}
    (htranscript : Transcript past statements) (hmem : answered ∈ past)
    (hmeets : answered.Meets exchange) :
    ∃ found ∈ statements, found.Meets .exchanges exchange.id.uuid := by
  obtain ⟨sent, hsent, htold⟩ := htranscript.exists_told hmem
  cases hmeets with
  | stored => exact ⟨sent, hsent, meets_of_inserted htold.1 htold.2 rfl⟩
  | found id =>
    exact ⟨sent, hsent, meets_of_selected htold.1 htold.2 fun _ => Row.id?_of_toExchange⟩

theorem exists_meets_debt {answered : Answered} {debt : Debt}
    (htranscript : Transcript past statements) (hmem : answered ∈ past)
    (hmeets : answered.MeetsDebt debt) :
    ∃ found ∈ statements, found.Meets .debts debt.id.uuid := by
  obtain ⟨sent, hsent, htold⟩ := htranscript.exists_told hmem
  cases hmeets with
  | stored => exact ⟨sent, hsent, meets_of_inserted htold.1 htold.2 rfl⟩
  | found id => exact ⟨sent, hsent, meets_of_selected htold.1 htold.2 fun _ => Row.id?_of_toDebt⟩

theorem exists_meets_debtor {answered : Answered} {debtor : Debtor}
    (htranscript : Transcript past statements) (hmem : answered ∈ past)
    (hmeets : answered.MeetsDebtor debtor) :
    ∃ found ∈ statements, found.Meets .debtors debtor.id.uuid := by
  obtain ⟨sent, hsent, htold⟩ := htranscript.exists_told hmem
  cases hmeets with
  | stored => exact ⟨sent, hsent, meets_of_inserted htold.1 htold.2 rfl⟩
  | found id =>
    exact ⟨sent, hsent, meets_of_selected htold.1 htold.2 fun _ => Row.id?_of_toDebtor⟩

/-- A debt that was looked up has the identifier that it was looked up by. -/
theorem debt_id_eq {id : DebtId} {debt : Debt} (htranscript : Transcript past statements)
    (hids : ∀ sent ∈ statements, sent.findsById = true)
    (hmem : ⟨.debtById id, some debt⟩ ∈ past) : debt.id = id := by
  obtain ⟨sent, hsent, htold⟩ := htranscript.exists_told hmem
  obtain ⟨row, rest, rfl, hrow⟩ := selected_of_told htold.1 htold.2
  have hfinds := hids _ hsent
  have hid : row.id? = some id.uuid := by simpa [Sent.findsById, toCell] using hfinds
  rw [Row.id?_of_toDebt hrow] at hid
  exact Id.uuid_injective (Option.some.inj hid)

theorem toUnit_of_toCount {reply : Reply} {count : Nat} (hcount : reply.toCount = .ok count) :
    reply.toUnit = .ok () := by
  rw [Reply.toUnit, hcount]
  rfl

theorem cleared_of_deleteExchange {id : ExchangeId}
    (hgrounded : (Call.deleteExchange id).Grounded past)
    (htranscript : Transcript past statements) : Cleared statements "exchange_id" id.uuid := by
  obtain ⟨earlier, count, rfl⟩ := hgrounded
  obtain ⟨before, ⟨message, reply⟩, after, rfl, ⟨hmessage, hread⟩, hafter⟩ := htranscript.split
  cases hafter
  cases hmessage
  exact ⟨before, reply, [], rfl, toUnit_of_toCount hread, nofun⟩

theorem cleared_of_deleteDebt {id : DebtId} (hgrounded : (Call.deleteDebt id).Grounded past)
    (htranscript : Transcript past statements)
    (hids : ∀ sent ∈ statements, sent.findsById = true) :
    Cleared statements "debt_id" id.uuid := by
  obtain ⟨earlier, debt, count, debtor, stored, hmem, rfl⟩ := hgrounded
  obtain rfl := debt_id_eq htranscript hids hmem
  obtain ⟨before, ⟨message, reply⟩, after, rfl, ⟨hmessage, hread⟩, hafter⟩ := htranscript.split
  obtain ⟨last, rest, htold, hrest, rfl⟩ := List.forall₂_cons_left_iff.mp hafter
  cases hrest
  cases hmessage
  refine ⟨before, reply, [last], rfl, toUnit_of_toCount hread, fun sent hsent values hinsert => ?_⟩
  rw [List.mem_singleton.mp hsent, htold.1] at hinsert
  cases hinsert

/-! ## Statements of requests -/

theorem bindsRecord {record : Record} {bound : Row} (hgrounded : record.Grounded past)
    (htranscript : Transcript past statements)
    (hamount : bound.lookup "amount" = some (toCell record.amount))
    (hkind : bound.lookup "kind" = some (toCell record.kind.word))
    (hbalance : bound.lookup "balance_id" = some (toCell record.balanceId)) :
    BindsRecord statements bound where
  amount := ⟨record.amount, hamount, Int64.lt_iff_toInt_lt.mpr hgrounded.positive⟩
  kind := by
    refine ⟨record.kind.word, ?_, hkind⟩
    cases record.kind <;> simp [RecordKind.word]
  balance := by
    obtain ⟨after, stored, hmem, hid⟩ := hgrounded.moved
    refine ⟨record.balanceId.uuid, hbalance, ?_⟩
    rw [hid]
    exact exists_returns htranscript hmem

theorem bindsSource {record : Record} (hmet : record.source.Met past)
    (htranscript : Transcript past statements) :
    BindsSource statements (Relation.records.row (Row.recordValues record)) where
  source := Row.hasSource_recordValues record
  exchange id hid := by
    replace hid : some (toCell record.source.exchangeId?) = some (.uuid id) := hid
    cases hsource : record.source with
    | exchange owner =>
      rw [hsource] at hid hmet
      obtain ⟨answered, hmem, exchange, hmeets, rfl⟩ := hmet
      obtain rfl : exchange.id.uuid = id := by simpa [RecordSource.exchangeId?, toCell] using hid
      exact exists_meets_exchange htranscript hmem hmeets
    | _ =>
      rw [hsource] at hid
      cases hid
  debt id hid := by
    replace hid : some (toCell record.source.debtId?) = some (.uuid id) := hid
    cases hsource : record.source with
    | debt owner =>
      rw [hsource] at hid hmet
      obtain ⟨answered, hmem, debt, hmeets, rfl⟩ := hmet
      obtain rfl : debt.id.uuid = id := by simpa [RecordSource.debtId?, toCell] using hid
      exact exists_meets_debt htranscript hmem hmeets
    | _ =>
      rw [hsource] at hid
      cases hid

theorem bindsDebt (debt : Debt) {bound : Row}
    (hkind : bound.lookup "kind" = some (toCell debt.kind.word))
    (hstatus : bound.lookup "status" = some (toCell debt.status.word)) : BindsDebt bound where
  kind := by
    refine ⟨debt.kind.word, ?_, hkind⟩
    cases debt.kind <;> simp [DebtKind.word]
  status := by
    refine ⟨debt.status.word, ?_, hstatus⟩
    cases debt.status <;> simp [DebtStatus.word]

/-- A call that stands on what was heard is sent as a statement that respects the schema. -/
theorem respectsSchema_of_grounded {call : Call} (hgrounded : call.Grounded past)
    (htranscript : Transcript past statements)
    (hids : ∀ sent ∈ statements, sent.findsById = true) :
    RespectsSchema statements (query call).statement where
  record hwrites := by
    obtain ⟨record, rfl | rfl⟩ := record_of_writes hwrites
    · exact bindsRecord hgrounded.1 htranscript rfl rfl rfl
    · exact bindsRecord hgrounded.1 htranscript rfl rfl rfl
  debt hwrites := by
    obtain ⟨debt, rfl | rfl⟩ := debt_of_writes hwrites
    · exact bindsDebt debt rfl rfl
    · exact bindsDebt debt rfl rfl
  newRecord values hinsert := by
    obtain ⟨record, rfl, rfl⟩ := createRecord_of_insert hinsert
    exact bindsSource hgrounded.2 htranscript
  newDebt values hinsert := by
    obtain ⟨debt, rfl, rfl⟩ := createDebt_of_insert hinsert
    obtain ⟨answered, hmem, debtor, hmeets, hid⟩ := hgrounded
    refine ⟨debt.debtorId.uuid, rfl, ?_⟩
    rw [← hid]
    exact exists_meets_debtor htranscript hmem hmeets
  oldExchange column id hdelete := by
    obtain ⟨rfl, hcolumn⟩ := deleteExchange_of_delete hdelete
    exact ⟨hcolumn, cleared_of_deleteExchange hgrounded htranscript⟩
  oldDebt column id hdelete := by
    obtain ⟨rfl, hcolumn⟩ := deleteDebt_of_delete hdelete
    exact ⟨hcolumn, cleared_of_deleteDebt hgrounded htranscript hids⟩

/-- Whatever the server replies, a request sends only what respects the schema, and does the
same whether or not there is a log. -/
theorem respectsSchema {S : Type} (limits : Limits) (request : Request) (server : Server S)
    (world : World S)
    (hids : ∀ sent ∈
        ((request.operation limits).run (backend server.logged) world.logged).2.store.sent,
      sent.findsById = true) :
    (request.operation limits).run (backend server) world =
        ((request.operation limits).run (backend server.logged) world.logged).map id
          World.unlogged ∧
      ∀ {before after : List Sent} {statement : Statement} {reply : Reply},
        ((request.operation limits).run (backend server.logged) world.logged).2.store.sent =
            before ++ ⟨.run statement, reply⟩ :: after →
          InTransaction before ∧ RespectsSchema before statement := by
  refine ⟨(logged_refines server).run_operation _ world.logged, fun hsplit => ?_⟩
  obtain ⟨contacts, hagrees, hconduct⟩ :=
    exists_contacts server world (request.onlyReads limits)
  obtain ⟨call, past, opening, statements, rfl, hgrounded, rfl, htranscript, -⟩ :=
    exists_call hagrees hconduct (request.grounded limits) hsplit
  refine ⟨⟨opening, statements, rfl, fun _ => htranscript.message_eq⟩, ?_⟩
  refine (respectsSchema_of_grounded hgrounded htranscript fun sent hmem => hids sent ?_).cons
  rw [hsplit]
  exact List.mem_append_left _ (List.mem_cons_of_mem _ hmem)

/-! ## A run -/

/-- A loan of 50 dollars is deleted, with the leg that it took from a purse. -/
def forgivenScript : World Script :=
  let usd : Currency := ⟨"USD"⟩
  let moment : Timestamp := .ofNanos 0
  let user : User := ⟨⟨⟨1⟩⟩, ⟨⟨2⟩⟩⟩
  let debtor : Debtor :=
    { Debtor.new ⟨⟨3⟩⟩ user "Ann" none usd moment with balance := -50, version := 6 }
  let debt : Debt := .new ⟨⟨4⟩⟩ debtor .opening ⟨.lend, ⟨50, usd⟩, [⟨50, usd⟩]⟩ none moment
  let purse : Balance :=
    { Balance.zero ⟨⟨5⟩⟩ user usd moment with
      funds := 30, outgoing := 50, incoming := 80, version := 2 }
  let record : Record := .posted ⟨⟨6⟩⟩ purse ⟨.debit, 50⟩ (.debt debt.id) none moment
  let refilled : Balance := { purse with funds := 80, outgoing := 0, version := 3 }
  { supply := .standard 0
    store :=
      { address := ""
        replies :=
          [.rows [Relation.debts.row (Row.debtValues debt)],
            .rows [Relation.debtors.row (Row.debtorValues debtor)],
            .rows [Relation.records.row (Row.recordValues record)],
            .rows [Relation.balances.row (Row.balanceValues purse)],
            .rows [Relation.balances.row (Row.balanceValues refilled)], .affected 1,
            .rows [Relation.debtors.row (Row.debtorValues { debtor with balance := 0 })],
            .affected 1] } }

def forgivenRun : Except LedgerError Debtor × World (Logged Script) :=
  (((Request.deleteDebt ⟨⟨4⟩⟩).operation .standard).run (backend Script.server.logged)
    forgivenScript.logged)

/-- The ninth of ten messages deletes the debt. -/
theorem respectsSchema_forgiven :
    forgivenRun.1.map Debtor.balance = .ok 0 ∧ forgivenRun.2.store.sent.length = 10 ∧
      ∀ {before after : List Sent} {statement : Statement} {reply : Reply},
        forgivenRun.2.store.sent = before ++ ⟨.run statement, reply⟩ :: after →
          InTransaction before ∧ RespectsSchema before statement :=
  ⟨by decide +kernel, by decide +kernel,
    (respectsSchema .standard (.deleteDebt ⟨⟨4⟩⟩) Script.server forgivenScript
      (by decide +kernel)).2⟩

end Postgres

end CashLedger
