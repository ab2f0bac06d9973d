import CashLedger.Proofs.Accounts
import CashLedger.Proofs.Store.Reordered

/-!
# Listings do not depend on the order of rows

Wherever a unit is on its way, what it lists are just the rows that are asked for, each once and in
strict order, so there is one answer in whatever order the rows come.  To delete the records of an
exchange or a debt is to delete those that are listed for it.  For balances this takes that a user
has one in a currency, in every unit and at every point of its work.
-/

namespace CashLedger

namespace MemoryUnit

variable {unit other : MemoryUnit}

/-- There is one answer, in whatever order the rows come: a listing of the chosen rows. -/
def Lists {α : Type} (unit : MemoryUnit)
    (ask : MemoryUnit → Except LedgerError (List α) × MemoryUnit) (rows : List α)
    (chosen : α → Prop) (below : α → α → Prop) : Prop :=
  ∃ listed, Listing below rows chosen listed ∧
    ∀ other, unit.Reordered other → ask other = (.ok listed, other)

/-- In whatever order the rows come, the records that go are those that are listed, and are
counted; nothing else changes. -/
def Sweeps (unit : MemoryUnit) (ask : MemoryUnit → Except LedgerError Nat × MemoryUnit)
    (list : MemoryUnit → Except LedgerError (List Record) × MemoryUnit) : Prop :=
  ∃ listed, list unit = (.ok listed, unit) ∧
    ∀ other, unit.Reordered other → ∃ last, ask other = (.ok listed.length, last) ∧
      last.working = { other.working with records := last.working.records } ∧
      ∀ record, record ∈ last.working.records.rows ↔
        record ∈ unit.working.records.rows ∧ record ∉ listed

/-- All that is listed is in order, and what is deleted by exchange or debt is what is listed. -/
structure InOrder (unit : MemoryUnit) : Prop where
  balancesForUser user : unit.Lists (·.answer (.balancesForUser user))
    unit.working.balances.rows (·.userId = user) Balance.CurrencyBelow
  balancesForCompany company : unit.Lists (·.answer (.balancesForCompany company))
    unit.working.balances.rows (·.companyId = company) Balance.OwnerBelow
  allBalances : unit.Lists (·.answer .allBalances)
    unit.working.balances.rows (fun _ => True) Balance.OwnerBelow
  recordsForBalance id : unit.Lists (·.answer (.recordsForBalance id))
    unit.working.records.rows (·.balanceId = id) Record.Older
  recordsForExchange id : unit.Lists (·.answer (.recordsForExchange id))
    unit.working.records.rows (·.source = .exchange id) Record.Older
  recordsForDebt id : unit.Lists (·.answer (.recordsForDebt id))
    unit.working.records.rows (·.source = .debt id) Record.Older
  debtorsForUser user : unit.Lists (·.answer (.debtorsForUser user))
    unit.working.debtors.rows (·.userId = user) Debtor.Older
  debtsForDebtor debtor : unit.Lists (·.answer (.debtsForDebtor debtor))
    unit.working.debts.rows (·.debtorId = debtor) Debt.Older
  deleteRecordsForExchange id : unit.Sweeps (·.answer (.deleteRecordsForExchange id))
    (·.answer (.recordsForExchange id))
  deleteRecordsForDebt id : unit.Sweeps (·.answer (.deleteRecordsForDebt id))
    (·.answer (.recordsForDebt id))

/-- Whatever is asked, the order of the rows neither shows in the answer nor in what there is
afterwards, but for the order of rows. -/
def Indifferent (unit : MemoryUnit) : Prop :=
  ∀ other, unit.Reordered other → ∀ request,
    (other.answer request).1 = (unit.answer request).1 ∧
      (unit.answer request).2.Reordered (other.answer request).2

theorem Lists.of_sortable {α : Type} {ask : MemoryUnit → Except LedgerError (List α) × MemoryUnit}
    {rows : List α} {before : α → α → Bool} {below : α → α → Prop} {test : α → Bool}
    {chosen : α → Prop} (hsortable : Sortable before below (rows.filter test))
    (hnodup : rows.Nodup) (hchosen : ∀ row, test row = true ↔ chosen row)
    (hask : ∀ other, unit.Reordered other →
      ask other = (.ok ((rows.filter test).mergeSort before), other)) :
    unit.Lists ask rows chosen below := by
  have hlisting := hsortable.listing hnodup
  refine ⟨_, { hlisting with mem_iff := fun row => ?_ }, hask⟩
  rw [hlisting.mem_iff, hchosen]

theorem lists_records {test : Record → Bool} {chosen : Record → Prop}
    {ask : MemoryUnit → Except LedgerError (List Record) × MemoryUnit}
    (hchosen : ∀ record, test record = true ↔ chosen record)
    (hask : ∀ other, ask other = (.ok (other.working.recordsWhere test), other)) :
    unit.Lists ask unit.working.records.rows chosen Record.Older := by
  refine .of_sortable (unit.working.sortable_records test) unit.working.records.nodup_rows
    hchosen fun other hreordered => ?_
  rw [hask, hreordered.working.recordsWhere_eq]
  rfl

theorem sweeps_records {test : Record → Bool}
    {ask : MemoryUnit → Except LedgerError Nat × MemoryUnit}
    {list : MemoryUnit → Except LedgerError (List Record) × MemoryUnit}
    (hask : ∀ other, ask other = other.deleteRecordsWhere test)
    (hlist : list unit = (.ok (unit.working.recordsWhere test), unit)) :
    unit.Sweeps ask list := by
  refine ⟨_, hlist, fun other hreordered =>
    ⟨Posting.dropWhere other test, ?_, ?_, fun record => ?_⟩⟩
  · have hcount : ((other.working.records.rows.filter test).map Record.id).length =
        (unit.working.recordsWhere test).length := by
      rw [List.length_map, (hreordered.working.records.filter test).length_eq,
        (unit.working.recordsWhere_perm test).length_eq]
    rw [hask, MemoryUnit.deleteRecordsWhere, hcount]
    rfl
  · rw [Posting.dropWhere, Posting.working_dropRecords]
  · have hmem : record ∈ other.working.records.rows ↔ record ∈ unit.working.records.rows :=
      List.Perm.mem_iff hreordered.working.records
    rw [Posting.mem_records_dropWhere, Tables.mem_recordsWhere, hmem, not_and, Bool.not_eq_true]
    exact and_congr_right fun hthere => ⟨fun hother _ => hother, fun hother => hother hthere⟩

theorem inOrder (hone : unit.working.balances.OnePerPair) : unit.InOrder where
  balancesForUser user :=
    .of_sortable (hone.sortable_user user) unit.working.balances.nodup_rows
      (fun _ => decide_eq_true_iff) fun other hreordered =>
        congrArg (Except.ok · , other) (hreordered.working.balancesForUser_eq hone user)
  balancesForCompany company :=
    .of_sortable (hone.sortable_filter _) unit.working.balances.nodup_rows
      (fun _ => decide_eq_true_iff) fun other hreordered =>
        congrArg (Except.ok · , other) (hreordered.working.balancesForCompany_eq hone company)
  allBalances := by
    refine .of_sortable (hone.sortable_filter fun _ => true) unit.working.balances.nodup_rows
      (fun _ => by simp) fun other hreordered => ?_
    rw [List.filter_true]
    exact congrArg (Except.ok · , other) (hreordered.working.allBalances_eq hone)
  recordsForBalance id := lists_records (fun _ => decide_eq_true_iff) fun _ => rfl
  recordsForExchange id := lists_records (fun _ => Record.isOfExchange_iff) fun _ => rfl
  recordsForDebt id := lists_records (fun _ => Record.isOfDebt_iff) fun _ => rfl
  debtorsForUser user :=
    .of_sortable (unit.working.sortable_debtors _) unit.working.debtors.nodup_rows
      (fun _ => decide_eq_true_iff) fun other hreordered =>
        congrArg (Except.ok · , other) (hreordered.working.debtorsForUser_eq user)
  debtsForDebtor debtor :=
    .of_sortable (unit.working.sortable_debts _) unit.working.debts.nodup_rows
      (fun _ => decide_eq_true_iff) fun other hreordered =>
        congrArg (Except.ok · , other) (hreordered.working.debtsForDebtor_eq debtor)
  deleteRecordsForExchange id := sweeps_records (fun _ => rfl) rfl
  deleteRecordsForDebt id := sweeps_records (fun _ => rfl) rfl

end MemoryUnit

namespace Desk

variable {promise : Promise} {desk : Desk}

theorem Orderly.inOrder (horderly : desk.Orderly) :
    MemoryUnit.InOrder ⟨desk.shared, {}⟩ ∧
      ∀ session ∈ desk.sessions, ∀ point, session.Passes point →
        point.unit.InOrder ∧ point.unit.Indifferent := by
  refine ⟨MemoryUnit.inOrder horderly.shared, fun session hmem point hpasses => ?_⟩
  have hone := Session.onePerPair_of_passes hpasses (horderly.snapshots session hmem)
  exact ⟨MemoryUnit.inOrder hone, fun other hreordered => hreordered.answer hone⟩

theorem Reachable.inOrder (hreachable : desk.Reachable promise) :
    MemoryUnit.InOrder ⟨desk.shared, {}⟩ ∧
      ∀ session ∈ desk.sessions, ∀ point, session.Passes point →
        point.unit.InOrder ∧ point.unit.Indifferent :=
  hreachable.orderly.inOrder

/-- Of a store that began with users only, whatever sessions have done on it: units that are opened
now, and those at work at every point of their work, list in order, and do not depend on the order
of rows in anything else either. -/
theorem listings_in_order (users : Table User) (turns : List Turn)
    (hnew : AllOpenAnew { shared := { users } } turns) :
    let desk := run { shared := { users } } turns
    MemoryUnit.InOrder ⟨desk.shared, {}⟩ ∧
      ∀ session ∈ desk.sessions, ∀ point, session.Passes point →
        point.unit.InOrder ∧ point.unit.Indifferent := by
  intro desk
  have horderly : desk.Orderly := ((Orderly.start users).run hnew).1
  exact horderly.inOrder

/-- Two sessions are at work when there are two balances. -/
theorem listings_in_order_noon :
    let noon := morning.run (dayTurns.take 10)
    noon.sessions.length = 2 ∧ noon.shared.balances.rows.length = 2 ∧
      MemoryUnit.InOrder ⟨noon.shared, {}⟩ ∧
      ∀ session ∈ noon.sessions, ∀ point, session.Passes point →
        point.unit.InOrder ∧ point.unit.Indifferent :=
  ⟨by decide +kernel, by decide +kernel,
    listings_in_order _ (dayTurns.take 10) (by decide +kernel)⟩

end Desk

end CashLedger
