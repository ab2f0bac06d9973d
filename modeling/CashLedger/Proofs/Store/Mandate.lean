import CashLedger.Proofs.Consistent
import CashLedger.Proofs.Store.Unit

/-!
# What a change answers for

Only balances and debtors carry versions, so a change must hold, by having
written it, a balance or debtor for everything else that it reads or writes.  The
records it writes are all of one source: they are free and their balances are
held, or they belong to one exchange all of whose balances are held, or to one
debt whose debtor is held.  This is asked of the calls one by one, and a unit
whose calls are all within it has written nothing else.
-/

namespace CashLedger

/-- The tables a change started on, the source of the records it writes, and the
point at which it is done. -/
structure Mandate where
  snapshot : Tables
  owner : RecordSource
  last : Course

/-- Every identifier of a row is an allowed one. -/
structure Tables.IdsIn (allowed : Uuid → Prop) (tables : Tables) : Prop where
  balances : ∀ id row, tables.balances.find? id = some row → allowed id.uuid
  records : ∀ id row, tables.records.find? id = some row → allowed id.uuid
  exchanges : ∀ id row, tables.exchanges.find? id = some row → allowed id.uuid
  debtors : ∀ id row, tables.debtors.find? id = some row → allowed id.uuid
  debts : ∀ id row, tables.debts.find? id = some row → allowed id.uuid

namespace Mandate

/-- The identifiers that the change has drawn. -/
def drawn (mandate : Mandate) : List Uuid := mandate.last.supply.drawn

/-- None of the identifiers drawn was there before. -/
def Fresh (mandate : Mandate) : Prop := mandate.snapshot.IdsIn (· ∉ mandate.drawn)

/-- A balance that was there and has been written. -/
def HoldsBalance (mandate : Mandate) (id : BalanceId) : Prop :=
  (∃ balance, mandate.snapshot.balances.find? id = some balance) ∧
    id ∈ mandate.last.unit.writes.balanceIds

/-- A debtor who was there and has been written. -/
def HoldsDebtor (mandate : Mandate) (id : DebtorId) : Prop :=
  (∃ debtor, mandate.snapshot.debtors.find? id = some debtor) ∧
    id ∈ mandate.last.unit.writes.debtorIds

/-- A record of the change's source; if it is free, its balance has been written. -/
def HoldsRecord (mandate : Mandate) (record : Record) : Prop :=
  record.source = mandate.owner ∧ (record.source.isOwned = false →
    record.balanceId ∈ mandate.last.unit.writes.balanceIds)

def OwnsRecord (mandate : Mandate) (id : RecordId) : Prop :=
  ∃ record, mandate.snapshot.records.find? id = some record ∧ mandate.HoldsRecord record

def OwnsExchange (mandate : Mandate) (id : ExchangeId) : Prop :=
  mandate.owner = .exchange id ∧
    ∃ exchange, mandate.snapshot.exchanges.find? id = some exchange

def OwnsDebt (mandate : Mandate) (id : DebtId) : Prop :=
  mandate.owner = .debt id ∧ ∃ debt, mandate.snapshot.debts.find? id = some debt

end Mandate

/-- What a change may ask its unit for. -/
def Call.Within (mandate : Mandate) : Call → Prop
  | createBalance balance =>
    balance.id.uuid ∈ mandate.drawn ∧
      mandate.snapshot.balanceFor balance.userId balance.currency = none ∧
      balance.id ∈ mandate.last.unit.writes.balanceIds ∧
      mandate.last.unit.working.balances.find? balance.id = some balance
  | balanceById id => mandate.HoldsBalance id
  | balanceFor user currency => ∃ balance ∈ mandate.snapshot.balances.rows,
      balance.userId = user ∧ balance.currency = currency ∧
        balance.id ∈ mandate.last.unit.writes.balanceIds
  | updateBalance balance => mandate.HoldsBalance balance.id
  | createRecord record => record.id.uuid ∈ mandate.drawn ∧ record.source = mandate.owner
  | recordById id => mandate.OwnsRecord id
  | updateRecord record => mandate.OwnsRecord record.id ∧ record.source = mandate.owner
  | deleteRecord id => mandate.OwnsRecord id
  | recordsForExchange id => mandate.OwnsExchange id
  | recordsForDebt id => mandate.OwnsDebt id
  | deleteRecordsForExchange id => mandate.OwnsExchange id
  | deleteRecordsForDebt id => mandate.OwnsDebt id
  | createExchange exchange =>
    exchange.id.uuid ∈ mandate.drawn ∧ mandate.owner = .exchange exchange.id
  | exchangeById id => mandate.OwnsExchange id
  | updateExchange exchange => mandate.OwnsExchange exchange.id
  | deleteExchange id => mandate.OwnsExchange id
  | createDebtor debtor => debtor.id.uuid ∈ mandate.drawn
  | debtorById id => mandate.HoldsDebtor id
  | updateDebtor debtor => mandate.HoldsDebtor debtor.id
  | createDebt debt => debt.id.uuid ∈ mandate.drawn ∧ mandate.owner = .debt debt.id
  | debtById id => mandate.OwnsDebt id
  | updateDebt debt => mandate.OwnsDebt debt.id
  | deleteDebt id => mandate.OwnsDebt id
  | userById _ => True
  | balancesForUser _ | balancesForCompany _ | allBalances | recordsForBalance _
  | debtorsForUser _ | debtsForDebtor _ => False

namespace Mandate

/-- The change has asked for nothing else, and holds the balances of its exchange or
the debtor of its debt, if that was there before. -/
structure Fulfilled (mandate : Mandate) : Prop where
  calls : ∀ request ∈ mandate.last.calls, request.Within mandate
  exchange : ∀ id, mandate.OwnsExchange id → ∀ record ∈ mandate.snapshot.records.rows,
    record.source = .exchange id → record.balanceId ∈ mandate.last.unit.writes.balanceIds
  debt : ∀ id debt, mandate.owner = .debt id → mandate.snapshot.debts.find? id = some debt →
    debt.debtorId ∈ mandate.last.unit.writes.debtorIds

variable {mandate : Mandate} {unit last : MemoryUnit} {request : Call}

theorem Fresh.balance (hfresh : mandate.Fresh) {id : BalanceId}
    (hdrawn : id.uuid ∈ mandate.drawn) : mandate.snapshot.balances.find? id = none :=
  Option.eq_none_iff_forall_ne_some.mpr fun row hfind => hfresh.balances id row hfind hdrawn

theorem Fresh.record (hfresh : mandate.Fresh) {id : RecordId}
    (hdrawn : id.uuid ∈ mandate.drawn) : mandate.snapshot.records.find? id = none :=
  Option.eq_none_iff_forall_ne_some.mpr fun row hfind => hfresh.records id row hfind hdrawn

theorem Fresh.exchange (hfresh : mandate.Fresh) {id : ExchangeId}
    (hdrawn : id.uuid ∈ mandate.drawn) : mandate.snapshot.exchanges.find? id = none :=
  Option.eq_none_iff_forall_ne_some.mpr fun row hfind => hfresh.exchanges id row hfind hdrawn

theorem Fresh.debtor (hfresh : mandate.Fresh) {id : DebtorId}
    (hdrawn : id.uuid ∈ mandate.drawn) : mandate.snapshot.debtors.find? id = none :=
  Option.eq_none_iff_forall_ne_some.mpr fun row hfind => hfresh.debtors id row hfind hdrawn

theorem Fresh.debt (hfresh : mandate.Fresh) {id : DebtId}
    (hdrawn : id.uuid ∈ mandate.drawn) : mandate.snapshot.debts.find? id = none :=
  Option.eq_none_iff_forall_ne_some.mpr fun row hfind => hfresh.debts id row hfind hdrawn

theorem Fresh.freshIn (hfresh : mandate.Fresh) (hwithin : request.Within mandate) :
    request.FreshIn mandate.snapshot := by
  cases request with
  | createBalance balance => exact hfresh.balance hwithin.1
  | createDebtor debtor => exact hfresh.debtor hwithin
  | _ => trivial

end Mandate

namespace MemoryUnit

open Mandate

/-- Outside the balances and debtors, a unit has written only what its mandate
covers. -/
structure Confined (mandate : Mandate) (unit : MemoryUnit) : Prop where
  stored : ∀ id ∈ unit.writes.records, ∀ record,
    mandate.snapshot.records.find? id = some record → mandate.HoldsRecord record
  written : ∀ id ∈ unit.writes.records, ∀ record,
    unit.working.records.find? id = some record → record.source = mandate.owner
  exchanges : ∀ id ∈ unit.writes.exchanges, mandate.owner = .exchange id
  debts : ∀ id ∈ unit.writes.debts, mandate.owner = .debt id

namespace Confined

variable {mandate : Mandate} {unit last : MemoryUnit} {request : Call}

theorem start (mandate : Mandate) (tables : Tables) : Confined mandate ⟨tables, {}⟩ := by
  constructor <;> exact nofun

theorem writeRecord (hconfined : Confined mandate unit) {record : Record}
    (hsource : record.source = mandate.owner)
    (hstored : ∀ old, mandate.snapshot.records.find? record.id = some old →
      mandate.HoldsRecord old) :
    Confined mandate (unit.writeRecord record) :=
  { hconfined with
    stored := by
      intro id hid old hold
      rcases List.mem_insert_iff.mp hid with rfl | hid
      · exact hstored old hold
      · exact hconfined.stored id hid old hold
    written := by
      intro id hid found hfind
      simp only [MemoryUnit.writeRecord, Table.find?_insert] at hfind
      split at hfind
      · cases hfind
        exact hsource
      · next hne =>
        exact hconfined.written id ((List.mem_insert_iff.mp hid).resolve_left hne) found hfind }

theorem dropRecord (hconfined : Confined mandate unit) {id : RecordId}
    (hstored : ∀ old, mandate.snapshot.records.find? id = some old →
      mandate.HoldsRecord old) :
    Confined mandate (unit.dropRecord id) :=
  { hconfined with
    stored := by
      intro other hother old hold
      rcases List.mem_insert_iff.mp hother with rfl | hother
      · exact hstored old hold
      · exact hconfined.stored other hother old hold
    written := by
      intro other hother found hfind
      simp only [MemoryUnit.dropRecord, Table.find?_erase] at hfind
      split at hfind
      · cases hfind
      · next hne =>
        exact hconfined.written other ((List.mem_insert_iff.mp hother).resolve_left hne)
          found hfind }

theorem dropRecords (hconfined : Confined mandate unit) {ids : List RecordId}
    (hstored : ∀ id ∈ ids, ∀ old, mandate.snapshot.records.find? id = some old →
      mandate.HoldsRecord old) :
    Confined mandate (ids.foldl MemoryUnit.dropRecord unit) := by
  induction ids generalizing unit with
  | nil => exact hconfined
  | cons id rest ih =>
    exact ih (hconfined.dropRecord (hstored id (by simp)))
      fun other hother => hstored other (by simp [hother])

/-- Records of the change's source that are deleted together were held, or were
written before. -/
theorem stored_of_chosen (hconfined : Confined mandate unit)
    (htracks : Tracks mandate.snapshot unit) {chosen : Record → Bool}
    (hchosen : ∀ record, chosen record = true →
      record.source = mandate.owner ∧ record.source.isOwned = true) :
    ∀ id ∈ (unit.working.records.rows.filter chosen).map Record.id, ∀ old,
      mandate.snapshot.records.find? id = some old → mandate.HoldsRecord old := by
  intro id hid old hold
  obtain ⟨record, hmem, rfl⟩ := List.mem_map.mp hid
  obtain ⟨hmem, hkeep⟩ := List.mem_filter.mp hmem
  by_cases hwritten : record.id ∈ unit.writes.records
  · exact hconfined.stored record.id hwritten old hold
  · have hfind : unit.working.records.find? record.id = some record :=
      Table.mem_rows_iff.mp hmem
    rw [htracks.records _ hwritten, hold] at hfind
    obtain rfl := Option.some.inj hfind
    obtain ⟨hsource, howned⟩ := hchosen old hkeep
    exact ⟨hsource, fun hfree => by simp [howned] at hfree⟩

theorem writeExchange (hconfined : Confined mandate unit) {exchange : Exchange}
    (howner : mandate.owner = .exchange exchange.id) :
    Confined mandate (unit.writeExchange exchange) :=
  { hconfined with
    exchanges := fun id hid => by
      rcases List.mem_insert_iff.mp hid with rfl | hid
      · exact howner
      · exact hconfined.exchanges id hid }

theorem dropExchange (hconfined : Confined mandate unit) {id : ExchangeId}
    (howner : mandate.owner = .exchange id) : Confined mandate (unit.dropExchange id) :=
  { hconfined with
    exchanges := fun other hother => by
      rcases List.mem_insert_iff.mp hother with rfl | hother
      · exact howner
      · exact hconfined.exchanges other hother }

theorem writeDebt (hconfined : Confined mandate unit) {debt : Debt}
    (howner : mandate.owner = .debt debt.id) : Confined mandate (unit.writeDebt debt) :=
  { hconfined with
    debts := fun id hid => by
      rcases List.mem_insert_iff.mp hid with rfl | hid
      · exact howner
      · exact hconfined.debts id hid }

theorem dropDebt (hconfined : Confined mandate unit) {id : DebtId}
    (howner : mandate.owner = .debt id) : Confined mandate (unit.dropDebt id) :=
  { hconfined with
    debts := fun other hother => by
      rcases List.mem_insert_iff.mp hother with rfl | hother
      · exact howner
      · exact hconfined.debts other hother }

theorem answer (hconfined : Confined mandate unit) (htracks : Tracks mandate.snapshot unit)
    (hfresh : mandate.Fresh) (hwithin : request.Within mandate)
    {result : request.Answer} (hanswer : unit.answer request = (.ok result, last)) :
    Confined mandate last := by
  cases request with
  | createBalance balance =>
    obtain ⟨-, rfl⟩ := createBalance_eq_ok.mp hanswer
    exact { hconfined with }
  | updateBalance balance =>
    obtain ⟨current, -, -, -, rfl⟩ := updateBalance_eq_ok.mp hanswer
    exact { hconfined with }
  | createDebtor debtor =>
    cases hanswer
    exact { hconfined with }
  | updateDebtor debtor =>
    obtain ⟨current, -, -, -, rfl⟩ := updateDebtor_eq_ok.mp hanswer
    exact { hconfined with }
  | createRecord record =>
    cases hanswer
    apply hconfined.writeRecord hwithin.2
    rw [hfresh.record hwithin.1]
    exact nofun
  | updateRecord record =>
    obtain ⟨-, rfl⟩ := changing_eq_ok.mp hanswer
    obtain ⟨⟨stored, hfind, hholds⟩, hsource⟩ := hwithin
    apply hconfined.writeRecord hsource
    intro old hold
    rw [hfind] at hold
    cases hold
    exact hholds
  | deleteRecord id =>
    obtain ⟨-, rfl⟩ := changing_eq_ok.mp hanswer
    obtain ⟨stored, hfind, hholds⟩ := hwithin
    apply hconfined.dropRecord
    intro old hold
    rw [hfind] at hold
    cases hold
    exact hholds
  | deleteRecordsForExchange id =>
    cases hanswer
    apply hconfined.dropRecords (hconfined.stored_of_chosen htracks _)
    intro record hrecord
    rw [hwithin.1, Record.isOfExchange_iff.mp hrecord]
    exact ⟨rfl, rfl⟩
  | deleteRecordsForDebt id =>
    cases hanswer
    apply hconfined.dropRecords (hconfined.stored_of_chosen htracks _)
    intro record hrecord
    rw [hwithin.1, Record.isOfDebt_iff.mp hrecord]
    exact ⟨rfl, rfl⟩
  | createExchange exchange =>
    cases hanswer
    exact hconfined.writeExchange hwithin.2
  | updateExchange exchange =>
    obtain ⟨-, rfl⟩ := changing_eq_ok.mp hanswer
    exact hconfined.writeExchange hwithin.1
  | deleteExchange id =>
    obtain ⟨-, rfl⟩ := changing_eq_ok.mp hanswer
    exact hconfined.dropExchange hwithin.1
  | createDebt debt =>
    cases hanswer
    exact hconfined.writeDebt hwithin.2
  | updateDebt debt =>
    obtain ⟨-, rfl⟩ := changing_eq_ok.mp hanswer
    exact hconfined.writeDebt hwithin.1
  | deleteDebt id =>
    obtain ⟨-, rfl⟩ := changing_eq_ok.mp hanswer
    exact hconfined.dropDebt hwithin.1
  | _ =>
    -- What only reads leaves the unit as it is.
    cases hanswer
    exact hconfined

/-- What a confined unit has not written is as it was. -/
theorem apart (hconfined : Confined mandate unit) (htracks : Tracks mandate.snapshot unit) :
    Tables.Apart mandate.owner mandate.snapshot unit.working where
  records record hsource := by
    rw [Table.mem_rows_iff, Table.mem_rows_iff]
    by_cases hwritten : record.id ∈ unit.writes.records
    · constructor
      · intro hfind
        exact absurd (hconfined.written _ hwritten record hfind) hsource
      · intro hfind
        exact absurd (hconfined.stored _ hwritten record hfind).1 hsource
    · exact iff_of_eq (congrArg (· = some record) (htracks.records _ hwritten))
  exchanges id howner :=
    htracks.exchanges id fun hwritten => howner (hconfined.exchanges id hwritten)
  debts id howner := htracks.debts id fun hwritten => howner (hconfined.debts id hwritten)

end Confined

end MemoryUnit

namespace Mandate

/-- A change that has fulfilled its mandate tracks its tables and is confined. -/
theorem Fulfilled.tracks_confined {α : Type} {mandate : Mandate} {work : Work α}
    {supply : Supply} {value : α} (hfulfilled : mandate.Fulfilled) (hfresh : mandate.Fresh)
    (hroom : ∀ request ∈ mandate.last.calls, request.HasRoom)
    (hperform : work.perform (.start mandate.snapshot supply) = .ok (value, mandate.last)) :
    MemoryUnit.Tracks mandate.snapshot mandate.last.unit ∧
      MemoryUnit.Confined mandate mandate.last.unit := by
  apply @MemoryUnit.of_perform α (fun request => request.Within mandate ∧ request.HasRoom)
    (fun unit => MemoryUnit.Tracks mandate.snapshot unit ∧ MemoryUnit.Confined mandate unit)
    _ work _ mandate.last value hperform
    (fun request hmem => ⟨hfulfilled.calls request hmem, hroom request hmem⟩)
    ⟨.refl _, .start _ _⟩
  rintro request answer unit last ⟨hwithin, hroom⟩ ⟨htracks, hconfined⟩ hanswer
  exact ⟨htracks.answer hanswer (hfresh.freshIn hwithin) hroom,
    hconfined.answer htracks hfresh hwithin hanswer⟩

end Mandate

end CashLedger
