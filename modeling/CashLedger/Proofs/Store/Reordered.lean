import CashLedger.Proofs.Engine.Posting
import CashLedger.Proofs.Store.Ordering

/-!
# The order of the rows

The rows of a table, and the entries of what a unit has written, come in no order of their own.
So two units that differ in nothing else are answered alike, whatever they are asked, and differ in
nothing else afterwards, as long as a user has one balance in a currency.
-/

namespace CashLedger

open Keyed (key)

/-! ## Tables -/

namespace Table

variable {α κ : Type} [Keyed α κ]

/-- The same rows in another order. -/
def Reordered (table other : Table α) : Prop := other.rows.Perm table.rows

namespace Reordered

variable {table other : Table α}

theorem refl (table : Table α) : table.Reordered table := List.Perm.refl _

variable [DecidableEq κ]

theorem same (hreordered : table.Reordered other) : table.Same other := by
  intro k
  apply Option.ext
  intro row
  rw [find?_eq_some_iff, find?_eq_some_iff, List.Perm.mem_iff hreordered]

theorem of_same (hsame : table.Same other) : table.Reordered other := hsame.symm.perm

theorem find?_eq (hreordered : table.Reordered other) (k : κ) :
    other.find? k = table.find? k := (hreordered.same k).symm

theorem contains_eq (hreordered : table.Reordered other) (k : κ) :
    other.contains k = table.contains k := by
  rw [contains, contains, hreordered.find?_eq]

theorem insert (hreordered : table.Reordered other) (row : α) :
    (table.insert row).Reordered (other.insert row) :=
  of_same fun k => by rw [find?_insert, find?_insert, hreordered.find?_eq]

theorem erase (hreordered : table.Reordered other) (k : κ) :
    (table.erase k).Reordered (other.erase k) :=
  of_same fun k => by rw [find?_erase, find?_erase, hreordered.find?_eq]

theorem eraseAll (hreordered : table.Reordered other) {keys others : List κ}
    (hperm : others.Perm keys) :
    (keys.foldl Table.erase table).Reordered (others.foldl Table.erase other) :=
  of_same fun k => by
    rw [find?_foldl_erase, find?_foldl_erase, hreordered.find?_eq]
    simp only [hperm.mem_iff]

end Reordered

end Table

/-- Each table has the same rows, in another order. -/
structure Tables.Reordered (tables other : Tables) : Prop where
  users : tables.users.Reordered other.users
  balances : tables.balances.Reordered other.balances
  records : tables.records.Reordered other.records
  exchanges : tables.exchanges.Reordered other.exchanges
  debtors : tables.debtors.Reordered other.debtors
  debts : tables.debts.Reordered other.debts

namespace Tables.Reordered

variable {tables other : Tables}

theorem refl (tables : Tables) : tables.Reordered tables where
  users := .refl _
  balances := .refl _
  records := .refl _
  exchanges := .refl _
  debtors := .refl _
  debts := .refl _

theorem balanceFor_eq (hreordered : tables.Reordered other) (hone : tables.balances.OnePerPair)
    (user : UserId) (currency : Currency) :
    other.balanceFor user currency = tables.balanceFor user currency := by
  have hmem : ∀ balance, balance ∈ other.balances.rows ↔ balance ∈ tables.balances.rows :=
    fun balance => List.Perm.mem_iff hreordered.balances
  have hother : other.balances.OnePerPair := fun left hleft right hright =>
    hone left ((hmem left).mp hleft) right ((hmem right).mp hright)
  apply Option.ext
  intro balance
  rw [balanceFor_eq_some_iff hother, balanceFor_eq_some_iff hone, hmem]

theorem balancesForUser_eq (hreordered : tables.Reordered other)
    (hone : tables.balances.OnePerPair) (user : UserId) :
    other.balancesForUser user = tables.balancesForUser user :=
  (hone.sortable_user user).mergeSort_eq (hreordered.balances.filter _)

theorem balancesForCompany_eq (hreordered : tables.Reordered other)
    (hone : tables.balances.OnePerPair) (company : CompanyId) :
    other.balancesForCompany company = tables.balancesForCompany company :=
  (hone.sortable_filter _).mergeSort_eq (hreordered.balances.filter _)

theorem allBalances_eq (hreordered : tables.Reordered other)
    (hone : tables.balances.OnePerPair) : other.allBalances = tables.allBalances :=
  (Balance.sortable_ownerFirst hone).mergeSort_eq hreordered.balances

theorem recordsWhere_eq (hreordered : tables.Reordered other) (chosen : Record → Bool) :
    other.recordsWhere chosen = tables.recordsWhere chosen :=
  (tables.sortable_records chosen).mergeSort_eq (hreordered.records.filter _)

theorem debtorsForUser_eq (hreordered : tables.Reordered other) (user : UserId) :
    other.debtorsForUser user = tables.debtorsForUser user :=
  (tables.sortable_debtors _).mergeSort_eq (hreordered.debtors.filter _)

theorem debtsForDebtor_eq (hreordered : tables.Reordered other) (debtor : DebtorId) :
    other.debtsForDebtor debtor = tables.debtsForDebtor debtor :=
  (tables.sortable_debts _).mergeSort_eq (hreordered.debts.filter _)

end Tables.Reordered

/-! ## Units -/

/-- The same rows have been written, in another order. -/
structure WriteSet.Reordered (writes other : WriteSet) : Prop where
  balances : other.balances.Perm writes.balances
  debtors : other.debtors.Perm writes.debtors
  records : other.records.Perm writes.records
  exchanges : other.exchanges.Perm writes.exchanges
  debts : other.debts.Perm writes.debts

theorem WriteSet.touch_perm {κ : Type} [DecidableEq κ] {touched others : List (κ × Base)}
    (hperm : others.Perm touched) (id : κ) (base : Base) :
    (touch others id base).Perm (touch touched id base) := by
  unfold touch
  simp only [(hperm.map Prod.fst).mem_iff]
  split
  · exact hperm
  · exact hperm.append_right _

namespace MemoryUnit

/-- Two units that differ in the order of their rows at most. -/
structure Reordered (unit other : MemoryUnit) : Prop where
  working : unit.working.Reordered other.working
  writes : unit.writes.Reordered other.writes

namespace Reordered

variable {unit other : MemoryUnit}

theorem refl (unit : MemoryUnit) : unit.Reordered unit :=
  ⟨.refl _, ⟨.refl _, .refl _, .refl _, .refl _, .refl _⟩⟩

theorem trans (hfirst : unit.Reordered other) {last : MemoryUnit} (hlast : other.Reordered last) :
    unit.Reordered last where
  working :=
    { users := hlast.working.users.trans hfirst.working.users
      balances := hlast.working.balances.trans hfirst.working.balances
      records := hlast.working.records.trans hfirst.working.records
      exchanges := hlast.working.exchanges.trans hfirst.working.exchanges
      debtors := hlast.working.debtors.trans hfirst.working.debtors
      debts := hlast.working.debts.trans hfirst.working.debts }
  writes :=
    { balances := hlast.writes.balances.trans hfirst.writes.balances
      debtors := hlast.writes.debtors.trans hfirst.writes.debtors
      records := hlast.writes.records.trans hfirst.writes.records
      exchanges := hlast.writes.exchanges.trans hfirst.writes.exchanges
      debts := hlast.writes.debts.trans hfirst.writes.debts }

theorem writeBalance (hreordered : unit.Reordered other) (balance : Balance) (base : Base) :
    (unit.writeBalance balance base).Reordered (other.writeBalance balance base) where
  working := { hreordered.working with balances := hreordered.working.balances.insert balance }
  writes := { hreordered.writes with
    balances := WriteSet.touch_perm hreordered.writes.balances _ _ }

theorem writeDebtor (hreordered : unit.Reordered other) (debtor : Debtor) (base : Base) :
    (unit.writeDebtor debtor base).Reordered (other.writeDebtor debtor base) where
  working := { hreordered.working with debtors := hreordered.working.debtors.insert debtor }
  writes := { hreordered.writes with
    debtors := WriteSet.touch_perm hreordered.writes.debtors _ _ }

theorem writeRecord (hreordered : unit.Reordered other) (record : Record) :
    (unit.writeRecord record).Reordered (other.writeRecord record) where
  working := { hreordered.working with records := hreordered.working.records.insert record }
  writes := { hreordered.writes with records := hreordered.writes.records.insert record.id }

theorem writeExchange (hreordered : unit.Reordered other) (exchange : Exchange) :
    (unit.writeExchange exchange).Reordered (other.writeExchange exchange) where
  working := { hreordered.working with
    exchanges := hreordered.working.exchanges.insert exchange }
  writes := { hreordered.writes with
    exchanges := hreordered.writes.exchanges.insert exchange.id }

theorem writeDebt (hreordered : unit.Reordered other) (debt : Debt) :
    (unit.writeDebt debt).Reordered (other.writeDebt debt) where
  working := { hreordered.working with debts := hreordered.working.debts.insert debt }
  writes := { hreordered.writes with debts := hreordered.writes.debts.insert debt.id }

theorem dropRecord (hreordered : unit.Reordered other) (id : RecordId) :
    (unit.dropRecord id).Reordered (other.dropRecord id) where
  working := { hreordered.working with records := hreordered.working.records.erase id }
  writes := { hreordered.writes with records := hreordered.writes.records.insert id }

theorem dropExchange (hreordered : unit.Reordered other) (id : ExchangeId) :
    (unit.dropExchange id).Reordered (other.dropExchange id) where
  working := { hreordered.working with exchanges := hreordered.working.exchanges.erase id }
  writes := { hreordered.writes with exchanges := hreordered.writes.exchanges.insert id }

theorem dropDebt (hreordered : unit.Reordered other) (id : DebtId) :
    (unit.dropDebt id).Reordered (other.dropDebt id) where
  working := { hreordered.working with debts := hreordered.working.debts.erase id }
  writes := { hreordered.writes with debts := hreordered.writes.debts.insert id }

theorem dropRecord_swap (hreordered : unit.Reordered other) (first second : RecordId) :
    ((unit.dropRecord first).dropRecord second).Reordered
      ((other.dropRecord second).dropRecord first) where
  working := { hreordered.working with
    records := hreordered.working.records.eraseAll (List.Perm.swap first second []) }
  writes := { hreordered.writes with
    records := ((hreordered.writes.records.insert second).insert first).trans
      (List.perm_insert_swap first second _) }

/-- Records that are dropped leave the same ones, in whatever order they go. -/
theorem dropRecords {ids others : List RecordId} (hperm : others.Perm ids)
    (hreordered : unit.Reordered other) :
    (ids.foldl MemoryUnit.dropRecord unit).Reordered
      (others.foldl MemoryUnit.dropRecord other) := by
  induction hperm generalizing unit other with
  | nil => exact hreordered
  | cons id _ ih => exact ih (hreordered.dropRecord id)
  | swap first second rest =>
    have hrest : ∀ {unit other : MemoryUnit}, unit.Reordered other →
        (rest.foldl MemoryUnit.dropRecord unit).Reordered
          (rest.foldl MemoryUnit.dropRecord other) := by
      induction rest with
      | nil => exact id
      | cons id rest ih => exact fun hreordered => ih (hreordered.dropRecord id)
    exact hrest (hreordered.dropRecord_swap first second)
  | trans _ _ ih ih' => exact (ih' hreordered).trans (ih (.refl _))

theorem dropWhere (hreordered : unit.Reordered other) (chosen : Record → Bool) :
    (Posting.dropWhere unit chosen).Reordered (Posting.dropWhere other chosen) :=
  hreordered.dropRecords ((hreordered.working.records.filter chosen).map Record.id)

theorem deleteRecordsWhere (hreordered : unit.Reordered other) (chosen : Record → Bool) :
    (other.deleteRecordsWhere chosen).1 = (unit.deleteRecordsWhere chosen).1 ∧
      (unit.deleteRecordsWhere chosen).2.Reordered (other.deleteRecordsWhere chosen).2 := by
  have hids := (hreordered.working.records.filter chosen).map Record.id
  exact ⟨congrArg Except.ok hids.length_eq, hreordered.dropWhere chosen⟩

theorem changing (hreordered : unit.Reordered other) {changed changed' : MemoryUnit}
    {present present' : Bool} {missing : LedgerError} (hpresent : present' = present)
    (hchanged : changed.Reordered changed') :
    (MemoryUnit.changing present' missing other changed').1 =
        (MemoryUnit.changing present missing unit changed).1 ∧
      (MemoryUnit.changing present missing unit changed).2.Reordered
        (MemoryUnit.changing present' missing other changed').2 := by
  subst hpresent
  cases present' with
  | true => exact ⟨rfl, hchanged⟩
  | false => exact ⟨rfl, hreordered⟩

/-- Whatever is asked, the order of the rows does not show in the answer, and is all that may
differ afterwards. -/
theorem answer (hreordered : unit.Reordered other) (hone : unit.working.balances.OnePerPair)
    (request : Call) :
    (other.answer request).1 = (unit.answer request).1 ∧
      (unit.answer request).2.Reordered (other.answer request).2 := by
  have hworking := hreordered.working
  cases request with
  | createBalance balance =>
    simp only [MemoryUnit.answer, MemoryUnit.createBalance, hworking.balanceFor_eq hone]
    split
    · exact ⟨rfl, hreordered⟩
    · exact ⟨rfl, hreordered.writeBalance _ _⟩
  | updateBalance balance =>
    simp only [MemoryUnit.answer, MemoryUnit.updateBalance, hworking.balances.find?_eq]
    split
    · exact ⟨rfl, hreordered⟩
    · split
      · exact ⟨rfl, hreordered.writeBalance _ _⟩
      · exact ⟨rfl, hreordered⟩
  | updateDebtor debtor =>
    simp only [MemoryUnit.answer, MemoryUnit.updateDebtor, hworking.debtors.find?_eq]
    split
    · exact ⟨rfl, hreordered⟩
    · split
      · exact ⟨rfl, hreordered.writeDebtor _ _⟩
      · exact ⟨rfl, hreordered⟩
  | createRecord record => exact ⟨rfl, hreordered.writeRecord record⟩
  | createExchange exchange => exact ⟨rfl, hreordered.writeExchange exchange⟩
  | createDebtor debtor => exact ⟨rfl, hreordered.writeDebtor debtor .created⟩
  | createDebt debt => exact ⟨rfl, hreordered.writeDebt debt⟩
  | updateRecord record =>
    exact hreordered.changing (hworking.records.contains_eq _) (hreordered.writeRecord record)
  | deleteRecord id =>
    exact hreordered.changing (hworking.records.contains_eq _) (hreordered.dropRecord id)
  | updateExchange exchange =>
    exact hreordered.changing (hworking.exchanges.contains_eq _)
      (hreordered.writeExchange exchange)
  | deleteExchange id =>
    exact hreordered.changing (hworking.exchanges.contains_eq _) (hreordered.dropExchange id)
  | updateDebt debt =>
    exact hreordered.changing (hworking.debts.contains_eq _) (hreordered.writeDebt debt)
  | deleteDebt id =>
    exact hreordered.changing (hworking.debts.contains_eq _) (hreordered.dropDebt id)
  | deleteRecordsForExchange id => exact hreordered.deleteRecordsWhere _
  | deleteRecordsForDebt id => exact hreordered.deleteRecordsWhere _
  | balanceById id => exact ⟨congrArg Except.ok (hworking.balances.find?_eq id), hreordered⟩
  | balanceFor user currency =>
    exact ⟨congrArg Except.ok (hworking.balanceFor_eq hone user currency), hreordered⟩
  | balancesForUser user =>
    exact ⟨congrArg Except.ok (hworking.balancesForUser_eq hone user), hreordered⟩
  | balancesForCompany company =>
    exact ⟨congrArg Except.ok (hworking.balancesForCompany_eq hone company), hreordered⟩
  | allBalances => exact ⟨congrArg Except.ok (hworking.allBalances_eq hone), hreordered⟩
  | recordById id => exact ⟨congrArg Except.ok (hworking.records.find?_eq id), hreordered⟩
  | recordsForBalance _ | recordsForExchange _ | recordsForDebt _ =>
    exact ⟨congrArg Except.ok (hworking.recordsWhere_eq _), hreordered⟩
  | exchangeById id => exact ⟨congrArg Except.ok (hworking.exchanges.find?_eq id), hreordered⟩
  | debtorById id => exact ⟨congrArg Except.ok (hworking.debtors.find?_eq id), hreordered⟩
  | debtorsForUser user =>
    exact ⟨congrArg Except.ok (hworking.debtorsForUser_eq user), hreordered⟩
  | debtById id => exact ⟨congrArg Except.ok (hworking.debts.find?_eq id), hreordered⟩
  | debtsForDebtor debtor =>
    exact ⟨congrArg Except.ok (hworking.debtsForDebtor_eq debtor), hreordered⟩
  | userById id => exact ⟨congrArg Except.ok (hworking.users.find?_eq id), hreordered⟩

end Reordered

end MemoryUnit

end CashLedger
