import CashLedger.Proofs.Books
import CashLedger.Proofs.Owners

/-!
# Consistent tables

The books are balanced, every exchange and debt is mirrored by its records, and
every debtor's balance is the sum of the debts.  A change writes records of one
source only; what all other sources own stays mirrored.
-/

namespace CashLedger

namespace Tables

structure Consistent (promise : Promise) (tables : Tables) : Prop where
  balanced : Balanced tables.balances tables.records
  owed : Owed tables.debtors tables.debts
  exchanges : ∀ exchange ∈ tables.exchanges.rows, exchange.Mirrored tables.records
  debts : ∀ debt ∈ tables.debts.rows, debt.Signed ∧ debt.Mirrored promise tables.records
  exchangeOf : ∀ record ∈ tables.records.rows, ∀ id, record.source = .exchange id →
    ∃ exchange, tables.exchanges.find? id = some exchange
  debtOf : ∀ record ∈ tables.records.rows, ∀ id, record.source = .debt id →
    ∃ debt, tables.debts.find? id = some debt

/-- Tables that differ at most in the records of one source and in its owner, balances
and debtors apart. -/
structure Apart (owner : RecordSource) (before after : Tables) : Prop where
  records : ∀ record, record.source ≠ owner →
    (record ∈ after.records.rows ↔ record ∈ before.records.rows)
  exchanges : ∀ id, owner ≠ .exchange id →
    after.exchanges.find? id = before.exchanges.find? id
  debts : ∀ id, owner ≠ .debt id → after.debts.find? id = before.debts.find? id

variable {promise : Promise} {before after : Tables} {owner : RecordSource}

theorem Apart.filter_perm (hapart : Apart owner before after) {keep : Record → Bool}
    (hkeep : ∀ record, keep record = true → record.source ≠ owner) :
    (before.records.rows.filter keep).Perm (after.records.rows.filter keep) := by
  apply (List.perm_ext_iff_of_nodup (before.records.nodup_rows.filter _)
    (after.records.nodup_rows.filter _)).mpr
  intro record
  rw [List.mem_filter, List.mem_filter]
  exact and_congr_left fun h => (hapart.records record (hkeep record h)).symm

/-- Consistency after a change: only what the change owns has to be looked at. -/
theorem Consistent.of_apart (hconsistent : before.Consistent promise)
    (hapart : Apart owner before after)
    (hbalanced : Balanced after.balances after.records)
    (howed : Owed after.debtors after.debts)
    (hexchange : ∀ exchange ∈ after.exchanges.rows, owner = .exchange exchange.id →
      exchange.Mirrored after.records)
    (hdebt : ∀ debt ∈ after.debts.rows, owner = .debt debt.id →
      debt.Signed ∧ debt.Mirrored promise after.records)
    (hexchangeOf : ∀ record ∈ after.records.rows, ∀ id, record.source = .exchange id →
      owner = .exchange id → ∃ exchange, after.exchanges.find? id = some exchange)
    (hdebtOf : ∀ record ∈ after.records.rows, ∀ id, record.source = .debt id →
      owner = .debt id → ∃ debt, after.debts.find? id = some debt) :
    after.Consistent promise where
  balanced := hbalanced
  owed := howed
  exchanges exchange hmem := by
    by_cases howner : owner = .exchange exchange.id
    · exact hexchange exchange hmem howner
    · have hfind : after.exchanges.find? exchange.id = some exchange :=
        Table.mem_rows_iff.mp hmem
      rw [hapart.exchanges _ howner] at hfind
      apply (hconsistent.exchanges exchange (Table.mem_of_find? hfind)).congr
      apply hapart.filter_perm
      intro record hrecord
      rw [Record.isOfExchange_iff.mp hrecord]
      exact Ne.symm howner
  debts debt hmem := by
    by_cases howner : owner = .debt debt.id
    · exact hdebt debt hmem howner
    · have hfind : after.debts.find? debt.id = some debt := Table.mem_rows_iff.mp hmem
      rw [hapart.debts _ howner] at hfind
      obtain ⟨hsigned, hmirrored⟩ := hconsistent.debts debt (Table.mem_of_find? hfind)
      refine ⟨hsigned, hmirrored.congr (hapart.filter_perm ?_)⟩
      intro record hrecord
      rw [Record.isOfDebt_iff.mp hrecord]
      exact Ne.symm howner
  exchangeOf record hmem id hsource := by
    by_cases howner : owner = .exchange id
    · exact hexchangeOf record hmem id hsource howner
    · have hne : record.source ≠ owner := hsource ▸ Ne.symm howner
      rw [hapart.exchanges id howner]
      exact hconsistent.exchangeOf record ((hapart.records record hne).mp hmem) id hsource
  debtOf record hmem id hsource := by
    by_cases howner : owner = .debt id
    · exact hdebtOf record hmem id hsource howner
    · have hne : record.source ≠ owner := hsource ▸ Ne.symm howner
      rw [hapart.debts id howner]
      exact hconsistent.debtOf record ((hapart.records record hne).mp hmem) id hsource

/-- Records never name an exchange that is not stored. -/
theorem Consistent.source_ne_exchange (hconsistent : before.Consistent promise)
    {id : ExchangeId} (hunknown : before.exchanges.find? id = none) :
    ∀ record ∈ before.records.rows, record.source ≠ .exchange id := by
  intro record hmem hsource
  obtain ⟨exchange, hfind⟩ := hconsistent.exchangeOf record hmem id hsource
  rw [hunknown] at hfind
  cases hfind

/-- Records never name a debt that is not stored. -/
theorem Consistent.source_ne_debt (hconsistent : before.Consistent promise) {id : DebtId}
    (hunknown : before.debts.find? id = none) :
    ∀ record ∈ before.records.rows, record.source ≠ .debt id := by
  intro record hmem hsource
  obtain ⟨debt, hfind⟩ := hconsistent.debtOf record hmem id hsource
  rw [hunknown] at hfind
  cases hfind

/-- Users and the order of rows do not matter. -/
theorem Consistent.congr (hconsistent : before.Consistent promise)
    (hbalances : before.balances.Same after.balances)
    (hrecords : before.records.Same after.records)
    (hexchanges : before.exchanges.Same after.exchanges)
    (hdebtors : before.debtors.Same after.debtors)
    (hdebts : before.debts.Same after.debts) : after.Consistent promise := by
  have hapart : Apart .manual before after := by
    constructor
    · exact fun record _ => hrecords.mem_iff.symm
    · exact fun id _ => (hexchanges id).symm
    · exact fun id _ => (hdebts id).symm
  exact hconsistent.of_apart hapart (hconsistent.balanced.congr hbalances hrecords)
    (hconsistent.owed.congr hdebtors hdebts) nofun nofun nofun nofun

/-- A store that holds only users. -/
theorem consistent_of_users (users : Table User) : Consistent promise { users } where
  balanced := .empty
  owed := .empty
  exchanges _ h := by cases h
  debts _ h := by cases h
  exchangeOf _ h := by cases h
  debtOf _ h := by cases h

end Tables

end CashLedger
