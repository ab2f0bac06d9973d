import CashLedger.Proofs.Desk

/-!
# Integrity

On a desk every balance is what its records add up to.  The integrity check adds
them up again: its sums stay within the totals that are already there, so it never
overflows, finds nothing wrong, and comes by every balance and every record once.
-/

namespace CashLedger

/-! ## Sums of records -/

/-- The exact sum of the amounts of one kind. -/
def Record.exactTotal (kind : RecordKind) (records : List Record) : Int :=
  ((records.filter fun r => r.kind = kind).map fun r => r.amount.toInt).sum

/-- A quantity that only records of one kind have, summed over those on a balance. -/
theorem sumOf_onBalance {quantity : Record → Int} {kind : RecordKind}
    (hquantity : ∀ record, quantity record =
      if record.kind = kind then record.amount.toInt else 0)
    (records : Table Record) (id : BalanceId) :
    (records.sumOf fun record => if record.balanceId = id then quantity record else 0) =
      Record.exactTotal kind (records.rows.filter (Record.isOnBalance id)) := by
  rw [Record.exactTotal, List.filter_filter, ← Table.sumOf_ite]
  apply Table.sumOf_congr
  intro record _
  rw [hquantity]
  by_cases honBalance : record.balanceId = id <;> simp [Record.isOnBalance, honBalance]

theorem sumOf_outgoingFrom (records : Table Record) (id : BalanceId) :
    records.sumOf (Record.outgoingFrom id) =
      Record.exactTotal .sell (records.rows.filter (Record.isOnBalance id)) := by
  apply sumOf_onBalance
  intro record
  cases hkind : record.kind <;> simp [Record.leg, Leg.outgoing, RecordKind.direction, hkind]

theorem sumOf_incomingTo (records : Table Record) (id : BalanceId) :
    records.sumOf (Record.incomingTo id) =
      Record.exactTotal .buy (records.rows.filter (Record.isOnBalance id)) := by
  apply sumOf_onBalance
  intro record
  cases hkind : record.kind <;> simp [Record.leg, Leg.incoming, RecordKind.direction, hkind]

theorem sum_nonneg_of_positive {records : List Record}
    (hpositive : ∀ record ∈ records, 0 < record.amount.toInt) :
    0 ≤ (records.map fun r => r.amount.toInt).sum := by
  apply List.sum_nonneg
  intro amount hmem
  obtain ⟨record, hrecord, rfl⟩ := List.mem_map.mp hmem
  exact (hpositive record hrecord).le

/-- Positive amounts whose sum is in range are added up without overflow. -/
theorem Record.total_eq_ok {records : List Record} {kind : RecordKind} {sum : Amount}
    (hpositive : ∀ record ∈ records, 0 < record.amount.toInt)
    (hsum : sum.toInt = Record.exactTotal kind records) :
    Record.total records kind = .ok sum := by
  have hkept : ∀ record ∈ records.filter fun r => r.kind = kind, 0 < record.amount.toInt :=
    fun record hmem => hpositive record (List.mem_filter.mp hmem).1
  have hstart : sum.toInt = (0 : Amount).toInt + Record.exactTotal kind records := by
    rw [hsum, Int64.toInt_zero, Int.zero_add]
  unfold Record.total
  unfold Record.exactTotal at hstart
  generalize (records.filter fun r => r.kind = kind) = rest at hkept hstart
  generalize (0 : Amount) = start at hstart
  -- The sum so far never passes the final one, as nothing that is added is negative.
  induction rest generalizing start with
  | nil =>
    simp only [List.map_nil, List.sum_nil, Int.add_zero] at hstart
    rw [Int64.toInt_inj.mp hstart]
    rfl
  | cons record rest ih =>
    have hrest := sum_nonneg_of_positive fun r hmem => hkept r (List.mem_cons_of_mem _ hmem)
    rw [List.map_cons, List.sum_cons] at hstart
    have hpositive := hkept record List.mem_cons_self
    have hlow := Int64.le_toInt start
    have hhigh := Int64.toInt_lt sum
    have hnext : (Int64.ofInt (start.toInt + record.amount.toInt)).toInt =
        start.toInt + record.amount.toInt :=
      Int64.toInt_ofInt_of_le (by omega) (by omega)
    rw [List.foldlM_cons, Amount.add?_eq_some_iff.mpr hnext]
    apply ih fun r hmem => hkept r (List.mem_cons_of_mem _ hmem)
    rw [hstart, hnext, Int.add_assoc]

/-! ## Balances -/

/-- A balance that is what its records add up to. -/
structure Balance.Reconciled (balance : Balance) (records : Table Record) : Prop where
  covered : 0 ≤ balance.funds.toInt
  outgoing : balance.outgoing.toInt =
    Record.exactTotal .sell (records.rows.filter (Record.isOnBalance balance.id))
  incoming : balance.incoming.toInt =
    Record.exactTotal .buy (records.rows.filter (Record.isOnBalance balance.id))
  funds : balance.funds.toInt = balance.incoming.toInt - balance.outgoing.toInt

theorem Balanced.reconciled {balances : Table Balance} {records : Table Record}
    (hbalanced : Balanced balances records) {balance : Balance}
    (hmem : balance ∈ balances.rows) : balance.Reconciled records where
  covered := hbalanced.covered balance hmem
  outgoing := (hbalanced.outgoing balance hmem).trans (sumOf_outgoingFrom records balance.id)
  incoming := (hbalanced.incoming balance hmem).trans (sumOf_incomingTo records balance.id)
  funds := hbalanced.funds balance hmem

/-! ## The check -/

theorem Record.exactTotal_perm {records listed : List Record} (hperm : records.Perm listed)
    (kind : RecordKind) : exactTotal kind records = exactTotal kind listed :=
  ((hperm.filter _).map _).sum_eq

/-- A difference in range is not clamped. -/
theorem Amount.subClamped_eq {a b difference : Amount}
    (heq : difference.toInt = a.toInt - b.toInt) : subClamped a b = difference := by
  have hlow := Int64.le_toInt difference
  have hhigh := Int64.toInt_lt difference
  rw [subClamped, ← heq, lowest, highest, min_eq_right (by omega), max_eq_right (by omega),
    Int64.ofInt_toInt]

namespace IntegrityReport

/-- The report with some more balances and records, among which nothing was wrong. -/
def counting (report : IntegrityReport) (balances records : Nat) : IntegrityReport :=
  { report with
    balancesChecked := report.balancesChecked + balances
    recordsChecked := report.recordsChecked + records }

theorem counting_counting (report : IntegrityReport) (b r b' r' : Nat) :
    (report.counting b r).counting b' r' = report.counting (b + b') (r + r') := by
  simp [counting, Nat.add_assoc]

theorem counting_start (balances records : Nat) :
    counting {} balances records =
      { balancesChecked := balances, recordsChecked := records } := by
  simp [counting]

theorem discrepanciesOf_eq_nil {balance : Balance} {records : Table Record}
    (hreconciled : balance.Reconciled records) :
    discrepanciesOf balance balance.outgoing balance.incoming = [] := by
  rw [discrepanciesOf, Amount.subClamped_eq hreconciled.funds]
  simp [compare]

theorem check_eq_ok {report : IntegrityReport} {balance : Balance} {records : Table Record}
    {listed : List Record} (hreconciled : balance.Reconciled records)
    (hpositive : ∀ record ∈ records.rows, 0 < record.amount.toInt)
    (hperm : listed.Perm (records.rows.filter (Record.isOnBalance balance.id))) :
    report.check balance listed = .ok (report.counting 1 listed.length) := by
  have hlisted : ∀ record ∈ listed, 0 < record.amount.toInt := fun record hmem =>
    hpositive record (List.mem_filter.mp (hperm.mem_iff.mp hmem)).1
  have hsold : Record.total listed .sell = .ok balance.outgoing := by
    apply Record.total_eq_ok hlisted
    rw [hreconciled.outgoing, Record.exactTotal_perm hperm]
  have hbought : Record.total listed .buy = .ok balance.incoming := by
    apply Record.total_eq_ok hlisted
    rw [hreconciled.incoming, Record.exactTotal_perm hperm]
  simp [check, hsold, hbought, discrepanciesOf_eq_nil hreconciled, counting, bind, Except.bind,
    pure, Except.pure]

end IntegrityReport

namespace Engine

open Work

/-- Balances that are what their records add up to pass the check one by one. -/
theorem perform_checkBalances {tables : Tables} {balances : List Balance}
    (hreconciled : ∀ balance ∈ balances, balance.Reconciled tables.records)
    (hpositive : ∀ record ∈ tables.records.rows, 0 < record.amount.toInt)
    (report : IntegrityReport) {course : Course} (hworking : course.unit.working = tables) :
    ∃ last, (checkBalances report balances).perform course =
      .ok (report.counting balances.length
        (balances.map fun b =>
          (tables.records.rows.filter (Record.isOnBalance b.id)).length).sum, last) := by
  induction balances generalizing report course with
  | nil => exact ⟨course, rfl⟩
  | cons balance rest ih =>
    have hperm := tables.recordsWhere_perm (Record.isOnBalance balance.id)
    have hask : (ask (.recordsForBalance balance.id)).perform course =
        .ok (tables.recordsWhere (Record.isOnBalance balance.id),
          course.answered (.recordsForBalance balance.id) course.unit) := by
      rw [← hworking]
      exact (perform_read_eq_ok rfl).mpr ⟨rfl, rfl⟩
    have hcheck := @IntegrityReport.check_eq_ok report _ _ _
      (hreconciled balance List.mem_cons_self) hpositive hperm
    have hchecked := (@perform_check_eq_ok _ _
      (course.answered (.recordsForBalance balance.id) course.unit) _ _).mpr ⟨hcheck, rfl⟩
    obtain ⟨last, hrest⟩ := ih (fun b hmem => hreconciled b (List.mem_cons_of_mem _ hmem))
      (report.counting 1 (tables.recordsWhere (Record.isOnBalance balance.id)).length)
      (show (course.answered (.recordsForBalance balance.id) course.unit).unit.working = tables
        from hworking)
    refine ⟨last, perform_bind_eq_ok.mpr ⟨_, _, hask, perform_bind_eq_ok.mpr
      ⟨_, _, hchecked, ?_⟩⟩⟩
    rw [hrest, IntegrityReport.counting_counting, hperm.length_eq, List.map_cons,
      List.sum_cons, List.length_cons, Nat.add_comm 1]

/-- Every record is counted at its own balance and at no other. -/
theorem sum_onBalance_eq {balances : Table Balance} {records : List Record}
    (hplaced : ∀ record ∈ records, ∃ balance, balances.find? record.balanceId = some balance) :
    (balances.rows.map fun b => (records.filter (Record.isOnBalance b.id)).length).sum =
      records.length := by
  induction records with
  | nil => simp
  | cons record rest ih =>
    obtain ⟨balance, hfind⟩ := hplaced record List.mem_cons_self
    have hrest := ih fun r hmem => hplaced r (List.mem_cons_of_mem _ hmem)
    have hlength : ∀ b : Balance, ((record :: rest).filter (Record.isOnBalance b.id)).length =
        (if b.id = record.balanceId then 1 else 0) +
          (rest.filter (Record.isOnBalance b.id)).length := by
      intro b
      by_cases heq : b.id = record.balanceId
      · rw [List.filter_cons_of_pos (by simp [Record.isOnBalance, heq]), if_pos heq,
          List.length_cons, Nat.add_comm]
      · rw [List.filter_cons_of_neg (by simp [Record.isOnBalance, Ne.symm heq]), if_neg heq,
          Nat.zero_add]
    have hone : (balances.rows.map fun b =>
        if b.id = record.balanceId then 1 else 0).sum = 1 := by
      have hrow : (balances.rows.filter fun b => b.id = record.balanceId) = [balance] := by
        have hkey := balances.filter_key_eq record.balanceId
        rw [hfind] at hkey
        exact hkey
      rw [List.sum_map_ite, hrow]
      simp
    simp only [hlength]
    rw [List.sum_map_add, hone, hrest, List.length_cons, Nat.add_comm]

/-- On books that balance the integrity check succeeds, finds nothing wrong and counts
every balance and every record. -/
theorem verifyIntegrity_run {tables : Tables}
    (hbalanced : Balanced tables.balances tables.records) {world : World Tables}
    (hstore : world.store = tables) :
    (verifyIntegrity.run Memory.backend world).1 =
      .ok { balancesChecked := tables.balances.rows.length
            recordsChecked := tables.records.rows.length } := by
  subst hstore
  have hall : world.store.allBalances.Perm world.store.balances.rows := List.mergeSort_perm _ _
  obtain ⟨last, hchecked⟩ := @perform_checkBalances world.store world.store.allBalances
    (fun balance hmem => hbalanced.reconciled (hall.mem_iff.mp hmem)) hbalanced.positive {}
    ((Course.start world.store world.supply).answered .allBalances ⟨world.store, {}⟩) rfl
  have hplaced : ∀ record ∈ world.store.records.rows, ∃ balance,
      world.store.balances.find? record.balanceId = some balance := by
    intro record hmem
    obtain ⟨balance, hfind, -⟩ := hbalanced.placed record hmem
    exact ⟨balance, hfind⟩
  rw [hall.length_eq, (hall.map _).sum_eq, sum_onBalance_eq hplaced,
    IntegrityReport.counting_start] at hchecked
  have hperform : verifyIntegrity.work.perform (.start world.store world.supply) = _ :=
    perform_bind_eq_ok.mpr ⟨_, _, (perform_read_eq_ok rfl).mpr ⟨rfl, rfl⟩, hchecked⟩
  have hrun := Operation.run_memory verifyIntegrity world rfl
  rw [Operation.conclude_memory, hperform] at hrun
  exact congrArg Prod.fst hrun

end Engine

namespace Desk

/-- Whatever the sessions do, every balance is covered and is what its records add up to,
and so the integrity check always succeeds, is clean and comes by all rows. -/
theorem reachable_reconciled {desk : Desk} (hreachable : desk.Reachable .distinct) :
    (∀ balance ∈ desk.shared.balances.rows, balance.Reconciled desk.shared.records) ∧
      ∀ world : World Tables, world.store = desk.shared →
        ∃ report, (Engine.verifyIntegrity.run Memory.backend world).1 = .ok report ∧
          report.isClean = true ∧
          report.balancesChecked = desk.shared.balances.rows.length ∧
          report.recordsChecked = desk.shared.records.rows.length := by
  have hbalanced := hreachable.consistent.balanced
  refine ⟨fun balance hmem => hbalanced.reconciled hmem, fun world hstore => ?_⟩
  exact ⟨_, Engine.verifyIntegrity_run hbalanced hstore, rfl, rfl, rfl⟩

theorem reconciled_evening :
    evening.shared.records.rows.length = 5 ∧
      (∀ balance ∈ evening.shared.balances.rows,
        balance.Reconciled evening.shared.records) ∧
      ∀ world : World Tables, world.store = evening.shared →
        ∃ report, (Engine.verifyIntegrity.run Memory.backend world).1 = .ok report ∧
          report.isClean = true ∧
          report.balancesChecked = evening.shared.balances.rows.length ∧
          report.recordsChecked = evening.shared.records.rows.length :=
  ⟨by decide +kernel, reachable_reconciled (evening_reachable _)⟩

end Desk

end CashLedger
