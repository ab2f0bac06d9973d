import CashLedger.Proofs.Text.UpperCase
import CashLedger.Store.Postgres

/-!
# Rows read back

Whatever is put into a table is read back as it was, if the database keeps what it is
given: moments to the microsecond, and codes of currencies that are tidy already,
since they are tidied again when they are read.
-/

namespace CashLedger

/-- A number of microseconds before or after the start of 2000.  What lies between two
microseconds is not, and neither is a leap second, which has no number of its own. -/
def Timestamp.IsWholeMicros (moment : Timestamp) : Prop := ∃ micros, moment = .ofMicros micros

theorem Timestamp.toMicros_ofMicros (micros : Int) : (ofMicros micros).toMicros = micros := by
  have hexact : ((ofMicros micros).seconds - secondsTo2000) * 1000000000 + (ofMicros micros).nanos =
      micros * 1000 := by
    simp only [ofMicros, ofNanos, secondsTo2000]
    omega
  rw [toMicros, hexact, Int.mul_tdiv_cancel _ (by decide)]

/-- Which moments these are, by their seconds and nanoseconds. -/
theorem Timestamp.isWholeMicros_iff {moment : Timestamp} :
    moment.IsWholeMicros ↔ moment.nanos < 1000000000 ∧ moment.nanos % 1000 = 0 := by
  obtain ⟨seconds, nanos, hlt, hleap⟩ := moment
  change _ ↔ nanos < 1000000000 ∧ nanos % 1000 = 0
  constructor
  · rintro ⟨micros, hmicros⟩
    simp only [ofMicros, ofNanos, secondsTo2000, mk.injEq] at hmicros
    omega
  · rintro ⟨hnanos, hwhole⟩
    refine ⟨(seconds - secondsTo2000) * 1000000 + nanos / 1000, ?_⟩
    simp only [ofMicros, ofNanos, secondsTo2000, mk.injEq]
    omega

instance (moment : Timestamp) : Decidable moment.IsWholeMicros :=
  decidable_of_iff _ Timestamp.isWholeMicros_iff.symm

/-- A code that is as a user's text is made into. -/
def Currency.IsTidy (currency : Currency) : Prop := ∃ text, currency = .ofText text

theorem Currency.IsTidy.ofText_code {currency : Currency} (htidy : currency.IsTidy) :
    ofText currency.code = currency := by
  obtain ⟨text, rfl⟩ := htidy
  exact ofText_ofText text

/-! ## JSON -/

namespace Form

theorem read_write_money (money : Money) : read? (write money) = some money := by
  have hamount : Amount.ofInt? money.amount.toInt = some money.amount :=
    Amount.ofInt?_eq_some_iff.mpr rfl
  simp [write, read?, Json.named, Json.member?, Json.get?, Json.int, List.lookup, hamount]

theorem read_write_monies (monies : List Money) : read? (write monies) = some monies := by
  change (monies.map write).mapM read? = some monies
  induction monies with
  | nil => rfl
  | cons money rest ih => simp [List.mapM_cons, read_write_money, ih]

end Form

namespace Sql

open Column (toCell ofCell?)

/-! ## Columns -/

/-- A value that a column gives back as it was put in. -/
def Column.Keeps {α : Type} [Column α] (value : α) : Prop := ofCell? (toCell value) = some value

namespace Column

theorem keeps_id {kind : IdKind} (id : Id kind) : Keeps id := rfl

theorem keeps_int (n : Int64) : Keeps n := rfl

theorem keeps_text (text : String) : Keeps text := rfl

theorem keeps_moment {moment : Timestamp} (hwhole : moment.IsWholeMicros) : Keeps moment := by
  obtain ⟨micros, rfl⟩ := hwhole
  change some (Timestamp.ofMicros (Timestamp.ofMicros micros).toMicros) = _
  rw [Timestamp.toMicros_ofMicros]

theorem keeps_monies (monies : List Money) : Keeps monies := Form.read_write_monies monies

theorem keeps_optionalText (text : Option String) : Keeps text := by
  cases text <;> rfl

theorem keeps_optionalId {kind : IdKind} (id : Option (Id kind)) : Keeps id := by
  cases id <;> rfl

end Column

/-! ## Rows -/

/-- A row that has, under each column that an insertion names, the value that it puts there. -/
def Row.Holds (row : Row) : Statement → Prop
  | .insert relation values =>
    ∀ pair ∈ relation.columns.zip values, row.lookup pair.1 = some pair.2
  | _ => False

theorem Row.lookup_of_mem {row : Row} (hdistinct : (row.map Prod.fst).Nodup)
    {pair : String × Cell} (hmem : pair ∈ row) : row.lookup pair.1 = some pair.2 := by
  obtain ⟨before, after, rfl⟩ := List.append_of_mem hmem
  rw [List.map_append, List.nodup_append'] at hdistinct
  refine List.lookup_eq_some_iff.mpr ⟨before, after, rfl, fun other hother => bne_iff_ne.mpr ?_⟩
  intro hname
  apply hdistinct.2.2 (List.mem_map_of_mem hother)
  rw [List.map_cons, ← hname]
  exact List.mem_cons_self

/-- The row of the values themselves is such a row. -/
theorem Relation.row_holds {relation : Relation} {values : List Cell}
    (hlength : relation.columns.length ≤ values.length) :
    (relation.row values).Holds (.insert relation values) := by
  have hcolumns : relation.columns.Nodup := by cases relation <;> decide
  intro pair hmem
  apply Row.lookup_of_mem _ hmem
  rw [List.map_fst_zip hlength]
  exact hcolumns

namespace Row

open Column

variable {α : Type} [Column α] {row : Row} {name : String}

theorem read_eq_ok {value : α} (hcell : row.lookup name = some (toCell value))
    (hkeeps : Column.Keeps value) : row.read name = .ok value := by
  rw [read, hcell, Option.bind_some, hkeeps]

theorem readCurrency_eq_ok {currency : Currency}
    (hcell : row.lookup name = some (toCell currency.code)) (htidy : currency.IsTidy) :
    row.readCurrency name = .ok currency := by
  rw [readCurrency, read_eq_ok hcell (Column.keeps_text _)]
  exact congrArg Except.ok htidy.ofText_code

theorem readReference_eq_ok {kind : IdKind} {id : Id kind}
    (hcell : row.lookup name = some (toCell (some id))) : row.readReference name = .ok id := by
  rw [readReference, read_eq_ok hcell (keeps_optionalId (some id))]
  rfl

/-! ### Each kind of row -/

theorem toBalance_of_holds {balance : Balance} (hcurrency : balance.currency.IsTidy)
    (hcreated : balance.createdAt.IsWholeMicros) (hupdated : balance.updatedAt.IsWholeMicros)
    (hholds : row.Holds (.insert .balances (balanceValues balance))) :
    row.toBalance = .ok balance := by
  simp only [Holds, Relation.columns, balanceValues, List.zip_cons_cons, List.zip_nil_right,
    List.forall_mem_cons] at hholds
  obtain ⟨hid, huser, hcompany, hcode, hfunds, houtgoing, hincoming, hversion, hcreatedAt,
    hupdatedAt, -⟩ := hholds
  rw [toBalance, read_eq_ok hid (keeps_id _), read_eq_ok huser (keeps_id _),
    read_eq_ok hcompany (keeps_id _), readCurrency_eq_ok hcode hcurrency,
    read_eq_ok hfunds (keeps_int _), read_eq_ok houtgoing (keeps_int _),
    read_eq_ok hincoming (keeps_int _), read_eq_ok hversion (keeps_int _),
    read_eq_ok hcreatedAt (keeps_moment hcreated), read_eq_ok hupdatedAt (keeps_moment hupdated)]
  rfl

theorem toSource_of_holds {record : Record}
    (hholds : row.Holds (.insert .records (recordValues record))) :
    row.toSource = .ok record.source := by
  simp only [Holds, Relation.columns, recordValues, List.zip_cons_cons, List.zip_nil_right,
    List.forall_mem_cons] at hholds
  obtain ⟨-, -, -, -, -, -, -, hword, htransaction, hexchange, hdebt, -⟩ := hholds
  rw [toSource, read_eq_ok hword (keeps_text _)]
  cases hsource : record.source with
  | manual => rfl
  | transaction id =>
    rw [hsource] at htransaction
    have hreference : row.readReference "transaction_id" = .ok id :=
      readReference_eq_ok htransaction
    simp [sourceWord, hreference, bind, Except.bind, Except.map]
  | exchange id =>
    rw [hsource] at hexchange
    have hreference : row.readReference "exchange_id" = .ok id := readReference_eq_ok hexchange
    simp [sourceWord, hreference, bind, Except.bind, Except.map]
  | debt id =>
    rw [hsource] at hdebt
    have hreference : row.readReference "debt_id" = .ok id := readReference_eq_ok hdebt
    simp [sourceWord, hreference, bind, Except.bind, Except.map]

theorem toRecord_of_holds {record : Record} (hcurrency : record.currency.IsTidy)
    (hcreated : record.createdAt.IsWholeMicros) (hupdated : record.updatedAt.IsWholeMicros)
    (hholds : row.Holds (.insert .records (recordValues record))) :
    row.toRecord = .ok record := by
  have hsource := toSource_of_holds hholds
  simp only [Holds, Relation.columns, recordValues, List.zip_cons_cons, List.zip_nil_right,
    List.forall_mem_cons] at hholds
  obtain ⟨hid, hbalance, huser, hcompany, hkind, hamount, hcode, -, -, -, -, hdetails,
    hcreatedAt, hupdatedAt, -⟩ := hholds
  have hword : RecordKind.readWord record.kind.word = .ok record.kind := by
    cases record.kind <;> rfl
  rw [toRecord, hsource, read_eq_ok hid (keeps_id _), read_eq_ok hbalance (keeps_id _),
    read_eq_ok huser (keeps_id _), read_eq_ok hcompany (keeps_id _),
    read_eq_ok hkind (keeps_text _), read_eq_ok hamount (keeps_int _),
    readCurrency_eq_ok hcode hcurrency, read_eq_ok hdetails (keeps_optionalText _),
    read_eq_ok hcreatedAt (keeps_moment hcreated), read_eq_ok hupdatedAt (keeps_moment hupdated)]
  simp [bind, Except.bind, hword, pure, Except.pure]

theorem toExchange_of_holds {exchange : Exchange} (hreceived : exchange.received.currency.IsTidy)
    (hsold : exchange.sold.currency.IsTidy) (hcreated : exchange.createdAt.IsWholeMicros)
    (hupdated : exchange.updatedAt.IsWholeMicros)
    (hholds : row.Holds (.insert .exchanges (exchangeValues exchange))) :
    row.toExchange = .ok exchange := by
  simp only [Holds, Relation.columns, exchangeValues, List.zip_cons_cons, List.zip_nil_right,
    List.forall_mem_cons] at hholds
  obtain ⟨hid, huser, hcompany, hreceivedAmount, hreceivedCode, hsoldAmount, hsoldCode,
    hdetails, hcreatedAt, hupdatedAt, -⟩ := hholds
  rw [toExchange, read_eq_ok hid (keeps_id _), read_eq_ok huser (keeps_id _),
    read_eq_ok hcompany (keeps_id _), read_eq_ok hreceivedAmount (keeps_int _),
    readCurrency_eq_ok hreceivedCode hreceived, read_eq_ok hsoldAmount (keeps_int _),
    readCurrency_eq_ok hsoldCode hsold, read_eq_ok hdetails (keeps_optionalText _),
    read_eq_ok hcreatedAt (keeps_moment hcreated), read_eq_ok hupdatedAt (keeps_moment hupdated)]
  rfl

theorem toDebtor_of_holds {debtor : Debtor} (hcurrency : debtor.currency.IsTidy)
    (hcreated : debtor.createdAt.IsWholeMicros) (hupdated : debtor.updatedAt.IsWholeMicros)
    (hholds : row.Holds (.insert .debtors (debtorValues debtor))) :
    row.toDebtor = .ok debtor := by
  simp only [Holds, Relation.columns, debtorValues, List.zip_cons_cons, List.zip_nil_right,
    List.forall_mem_cons] at hholds
  obtain ⟨hid, huser, hcompany, hname, hphone, hcode, hbalance, hversion, hcreatedAt,
    hupdatedAt, -⟩ := hholds
  rw [toDebtor, read_eq_ok hid (keeps_id _), read_eq_ok huser (keeps_id _),
    read_eq_ok hcompany (keeps_id _), read_eq_ok hname (keeps_text _),
    read_eq_ok hphone (keeps_optionalText _), readCurrency_eq_ok hcode hcurrency,
    read_eq_ok hbalance (keeps_int _), read_eq_ok hversion (keeps_int _),
    read_eq_ok hcreatedAt (keeps_moment hcreated), read_eq_ok hupdatedAt (keeps_moment hupdated)]
  rfl

theorem toDebt_of_holds {debt : Debt} (hdebted : debt.debted.currency.IsTidy)
    (hcreated : debt.createdAt.IsWholeMicros) (hupdated : debt.updatedAt.IsWholeMicros)
    (hholds : row.Holds (.insert .debts (debtValues debt))) : row.toDebt = .ok debt := by
  simp only [Holds, Relation.columns, debtValues, List.zip_cons_cons, List.zip_nil_right,
    List.forall_mem_cons] at hholds
  obtain ⟨hid, hdebtor, huser, hcompany, hkind, hstatus, hamount, hcode, hreceived, hdetails,
    hcreatedAt, hupdatedAt, -⟩ := hholds
  have hkindWord : DebtKind.readWord debt.kind.word = .ok debt.kind := by
    cases debt.kind <;> rfl
  have hstatusWord : DebtStatus.readWord debt.status.word = .ok debt.status := by
    cases debt.status <;> rfl
  rw [toDebt, read_eq_ok hreceived (keeps_monies _), read_eq_ok hid (keeps_id _),
    read_eq_ok hdebtor (keeps_id _), read_eq_ok huser (keeps_id _),
    read_eq_ok hcompany (keeps_id _), read_eq_ok hkind (keeps_text _),
    read_eq_ok hstatus (keeps_text _), read_eq_ok hamount (keeps_int _),
    readCurrency_eq_ok hcode hdebted, read_eq_ok hdetails (keeps_optionalText _),
    read_eq_ok hcreatedAt (keeps_moment hcreated), read_eq_ok hupdatedAt (keeps_moment hupdated)]
  simp [bind, Except.bind, hkindWord, hstatusWord, pure, Except.pure]

end Row

end Sql

namespace Postgres

open Sql

/-- What the store reads from a row that has, under the columns of an insertion, what it put
there, is the value that was inserted; a debt's amounts may be of any currencies. -/
theorem read_inserted :
    (∀ (balance : Balance) (row : Row), balance.currency.IsTidy →
      balance.createdAt.IsWholeMicros → balance.updatedAt.IsWholeMicros →
      row.Holds (query (.createBalance balance)).statement → row.toBalance = .ok balance) ∧
    (∀ (record : Record) (row : Row), record.currency.IsTidy →
      record.createdAt.IsWholeMicros → record.updatedAt.IsWholeMicros →
      row.Holds (query (.createRecord record)).statement → row.toRecord = .ok record) ∧
    (∀ (exchange : Exchange) (row : Row), exchange.received.currency.IsTidy →
      exchange.sold.currency.IsTidy → exchange.createdAt.IsWholeMicros →
      exchange.updatedAt.IsWholeMicros →
      row.Holds (query (.createExchange exchange)).statement → row.toExchange = .ok exchange) ∧
    (∀ (debtor : Debtor) (row : Row), debtor.currency.IsTidy →
      debtor.createdAt.IsWholeMicros → debtor.updatedAt.IsWholeMicros →
      row.Holds (query (.createDebtor debtor)).statement → row.toDebtor = .ok debtor) ∧
    ∀ (debt : Debt) (row : Row), debt.debted.currency.IsTidy →
      debt.createdAt.IsWholeMicros → debt.updatedAt.IsWholeMicros →
      row.Holds (query (.createDebt debt)).statement → row.toDebt = .ok debt := by
  refine ⟨?_, ?_, ?_, ?_, ?_⟩
  · intro balance row hcurrency hcreated hupdated hholds
    exact Row.toBalance_of_holds hcurrency hcreated hupdated hholds
  · intro record row hcurrency hcreated hupdated hholds
    exact Row.toRecord_of_holds hcurrency hcreated hupdated hholds
  · intro exchange row hreceived hsold hcreated hupdated hholds
    exact Row.toExchange_of_holds hreceived hsold hcreated hupdated hholds
  · intro debtor row hcurrency hcreated hupdated hholds
    exact Row.toDebtor_of_holds hcurrency hcreated hupdated hholds
  · intro debt row hdebted hcreated hupdated hholds
    exact Row.toDebt_of_holds hdebted hcreated hupdated hholds

/-- A loan to a new debtor, with a leg in a code that is not tidy, and an exchange. -/
theorem read_inserted_loan :
    let moment : Timestamp := .ofMicros 7
    let user : User := ⟨⟨⟨1⟩⟩, ⟨⟨2⟩⟩⟩
    let balance := Balance.zero ⟨⟨3⟩⟩ user .usd moment
    let debtor := Debtor.new ⟨⟨4⟩⟩ user "Ann" none .eur moment
    let debt := Debt.new ⟨⟨5⟩⟩ debtor .opening ⟨.lend, ⟨50, .eur⟩, [⟨30, ⟨"usd "⟩⟩]⟩
      (some "until May") moment
    let record := Record.posted ⟨⟨6⟩⟩ balance ⟨.debit, 30⟩ (.debt debt.id) none moment
    let exchange := Exchange.new ⟨⟨7⟩⟩ user ⟨user.id, ⟨1, .usd⟩, ⟨2, .eur⟩, none⟩ moment
    (Relation.balances.row (Row.balanceValues balance)).toBalance = .ok balance ∧
      (Relation.records.row (Row.recordValues record)).toRecord = .ok record ∧
      (Relation.exchanges.row (Row.exchangeValues exchange)).toExchange = .ok exchange ∧
      (Relation.debtors.row (Row.debtorValues debtor)).toDebtor = .ok debtor ∧
      (Relation.debts.row (Row.debtValues debt)).toDebt = .ok debt := by
  intro moment user balance debtor debt record exchange
  have hwhole : moment.IsWholeMicros := by decide
  have husd : Currency.usd.IsTidy := ⟨"USD", rfl⟩
  have heur : Currency.eur.IsTidy := ⟨"EUR", rfl⟩
  obtain ⟨hbalance, hrecord, hexchange, hdebtor, hdebt⟩ := read_inserted
  exact ⟨hbalance balance _ husd hwhole hwhole (Relation.row_holds le_rfl),
    hrecord record _ husd hwhole hwhole (Relation.row_holds le_rfl),
    hexchange exchange _ husd heur hwhole hwhole (Relation.row_holds le_rfl),
    hdebtor debtor _ heur hwhole hwhole (Relation.row_holds le_rfl),
    hdebt debt _ heur hwhole hwhole (Relation.row_holds le_rfl)⟩

end Postgres

end CashLedger
