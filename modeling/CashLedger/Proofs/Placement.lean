import CashLedger.Proofs.Desk

/-!
# Where records lie

Every record lies on one balance, which has its user and its currency.  So the
lists of records that the balances have share nothing, and leave no record out.
-/

namespace CashLedger

/-- A record of some money on a balance of its own user and currency. -/
structure Record.Placed (balances : Table Balance) (record : Record) : Prop where
  positive : 0 < record.amount.toInt
  onBalance : ∃ balance, balances.find? record.balanceId = some balance ∧
    balance.userId = record.userId ∧ balance.currency = record.currency

theorem Balanced.record {balances : Table Balance} {records : Table Record}
    (hbalanced : Balanced balances records) {record : Record}
    (hrecord : record ∈ records.rows) : record.Placed balances where
  positive := hbalanced.positive record hrecord
  onBalance := hbalanced.placed record hrecord

namespace Tables

variable {tables : Tables}

theorem disjoint_recordsWhere_isOnBalance {left right : BalanceId} (hne : left ≠ right) :
    (tables.recordsWhere (Record.isOnBalance left)).Disjoint
      (tables.recordsWhere (Record.isOnBalance right)) := by
  intro record hleft hright
  have hon := (mem_recordsWhere.mp hleft).2
  have hon' := (mem_recordsWhere.mp hright).2
  simp only [Record.isOnBalance, decide_eq_true_eq] at hon hon'
  exact hne (hon.symm.trans hon')

/-- The lists of the balances share nothing. -/
theorem pairwise_disjoint_recordsWhere :
    tables.balances.rows.Pairwise fun left right =>
      (tables.recordsWhere (Record.isOnBalance left.id)).Disjoint
        (tables.recordsWhere (Record.isOnBalance right.id)) := by
  apply (List.pairwise_map.mp tables.balances.nodup).imp
  intro left right hne
  exact disjoint_recordsWhere_isOnBalance hne

/-- Records that all lie on balances are what the lists of the balances hold together. -/
theorem flatMap_recordsWhere_perm
    (hplaced : ∀ record ∈ tables.records.rows, record.Placed tables.balances) :
    (tables.balances.rows.flatMap fun balance =>
      tables.recordsWhere (Record.isOnBalance balance.id)).Perm tables.records.rows := by
  apply (List.perm_ext_iff_of_nodup ?_ tables.records.nodup_rows).mpr
  · intro record
    rw [List.mem_flatMap]
    constructor
    · rintro ⟨balance, -, hlisted⟩
      exact (mem_recordsWhere.mp hlisted).1
    · intro hrecord
      obtain ⟨balance, hfind, -⟩ := (hplaced record hrecord).onBalance
      have hkey : balance.id = record.balanceId := Table.key_of_find? hfind
      refine ⟨balance, Table.mem_of_find? hfind, mem_recordsWhere.mpr ⟨hrecord, ?_⟩⟩
      simp [Record.isOnBalance, hkey]
  · refine List.nodup_flatMap.mpr ⟨fun balance _ => ?_, pairwise_disjoint_recordsWhere⟩
    exact (tables.recordsWhere_perm _).nodup_iff.mpr (tables.records.nodup_rows.filter _)

end Tables

/-- Asked for the records of a balance, the store lists them. -/
theorem Engine.recordsForBalance_run (id : BalanceId) (world : World Tables) :
    ((recordsForBalance id).run Memory.backend world).1 =
      .ok (world.store.recordsWhere (Record.isOnBalance id)) := by
  have hperform : (recordsForBalance id).work.perform (.start world.store world.supply) = _ :=
    (Work.perform_read_eq_ok rfl).mpr ⟨rfl, rfl⟩
  have hrun := Operation.run_memory (recordsForBalance id) world rfl
  rw [Operation.conclude_memory, hperform] at hrun
  exact congrArg Prod.fst hrun

/-- Whatever the sessions do, every record has a positive amount and lies on a balance of
its own user and currency, and what the balances list are the records, each of them once. -/
theorem Desk.reachable_placed {desk : Desk} (hreachable : desk.Reachable .distinct) :
    (∀ record ∈ desk.shared.records.rows, record.Placed desk.shared.balances) ∧
      ∃ listed : BalanceId → List Record,
        (∀ (id : BalanceId) (world : World Tables), world.store = desk.shared →
          ((Engine.recordsForBalance id).run Memory.backend world).1 = .ok (listed id)) ∧
        (desk.shared.balances.rows.flatMap fun balance => listed balance.id).Perm
          desk.shared.records.rows ∧
        desk.shared.balances.rows.Pairwise fun left right =>
          (listed left.id).Disjoint (listed right.id) := by
  have hbalanced := hreachable.consistent.balanced
  have hplaced : ∀ record ∈ desk.shared.records.rows, record.Placed desk.shared.balances :=
    fun record hrecord => hbalanced.record hrecord
  refine ⟨hplaced, fun id => desk.shared.recordsWhere (Record.isOnBalance id), ?_,
    Tables.flatMap_recordsWhere_perm hplaced, Tables.pairwise_disjoint_recordsWhere⟩
  rintro id world hstore
  rw [Engine.recordsForBalance_run, hstore]

theorem Desk.placed_evening :
    evening.shared.records.rows.length = 5 ∧
      (∀ record ∈ evening.shared.records.rows, record.Placed evening.shared.balances) ∧
      ∃ listed : BalanceId → List Record,
        (∀ (id : BalanceId) (world : World Tables), world.store = evening.shared →
          ((Engine.recordsForBalance id).run Memory.backend world).1 = .ok (listed id)) ∧
        (evening.shared.balances.rows.flatMap fun balance => listed balance.id).Perm
          evening.shared.records.rows ∧
        evening.shared.balances.rows.Pairwise fun left right =>
          (listed left.id).Disjoint (listed right.id) :=
  ⟨by decide +kernel, reachable_placed (evening_reachable _)⟩

end CashLedger
