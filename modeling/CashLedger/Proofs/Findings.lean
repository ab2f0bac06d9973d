import CashLedger.Proofs.Engine.Refusals
import CashLedger.Proofs.Funds
import CashLedger.Proofs.Integrity

/-!
# What the integrity check finds

The check is exact on every store whose records have positive amounts, whatever the totals of its
balances are.  It overflows precisely if the records of some balance come to more than an amount
can tell of; otherwise it reports the balances on which one of three equations fails, and no
others.  The third equation is tested against a difference that is clamped to the range: a clamped
difference can hide that it fails, but only if one of the sums is wrong as well.
-/

namespace CashLedger

/-! ## Sums -/

namespace Record

/-- A sum that is there is exact, whatever the amounts are. -/
theorem toInt_of_total_eq_ok {records : List Record} {kind : RecordKind} {sum : Amount}
    (htotal : total records kind = .ok sum) : sum.toInt = exactTotal kind records := by
  have hgoal : sum.toInt = (0 : Amount).toInt + exactTotal kind records ↔
      sum.toInt = exactTotal kind records := by rw [Int64.toInt_zero, Int.zero_add]
  rw [← hgoal]
  unfold total at htotal
  unfold exactTotal
  generalize (records.filter fun r => r.kind = kind) = rest at htotal ⊢
  generalize (0 : Amount) = start at htotal ⊢
  induction rest generalizing start with
  | nil =>
    cases htotal
    simp
  | cons record rest ih =>
    rw [List.foldlM_cons] at htotal
    cases hadd : Amount.add? start record.amount with
    | none =>
      rw [hadd] at htotal
      cases htotal
    | some next =>
      rw [hadd] at htotal
      rw [ih next htotal, Amount.add?_eq_some_iff.mp hadd, List.map_cons, List.sum_cons,
        Int.add_assoc]

/-- A sum of positive amounts fails only by growing beyond the range. -/
theorem exceeds_of_total_eq_error {records : List Record} {kind : RecordKind}
    {cause : LedgerError} (hpositive : ∀ record ∈ records, 0 < record.amount.toInt)
    (htotal : total records kind = .error cause) :
    Amount.highest < exactTotal kind records ∧
      ∃ record ∈ records, cause = .amountOverflow (.records kind record.balanceId) := by
  have hkept : ∀ record ∈ records.filter fun r => r.kind = kind, record ∈ records :=
    fun record hmem => (List.mem_filter.mp hmem).1
  have hgoal : Amount.highest < (0 : Amount).toInt + exactTotal kind records ↔
      Amount.highest < exactTotal kind records := by rw [Int64.toInt_zero, Int.zero_add]
  rw [← hgoal]
  unfold total at htotal
  unfold exactTotal
  have hstart : 0 ≤ (0 : Amount).toInt := by decide
  generalize (records.filter fun r => r.kind = kind) = rest at hkept htotal ⊢
  generalize (0 : Amount) = start at hstart htotal ⊢
  induction rest generalizing start with
  | nil => cases htotal
  | cons record rest ih =>
    have hrecord := hpositive record (hkept record List.mem_cons_self)
    have hrest : ∀ r ∈ rest, r ∈ records := fun r hmem => hkept r (List.mem_cons_of_mem _ hmem)
    rw [List.foldlM_cons] at htotal
    rw [List.map_cons, List.sum_cons, ← Int.add_assoc]
    cases hadd : Amount.add? start record.amount with
    | none =>
      rw [hadd] at htotal
      cases htotal
      have hlow : Amount.lowest ≤ start.toInt + record.amount.toInt :=
        le_trans (by decide) (add_nonneg hstart hrecord.le)
      have hnot := Amount.ofInt?_eq_none_iff.mp hadd
      have hsum := sum_nonneg_of_positive fun r hmem => hpositive r (hrest r hmem)
      simp only [Amount.Fits, hlow, true_and, not_le] at hnot
      exact ⟨by omega, record, hkept record List.mem_cons_self, rfl⟩
    | some next =>
      rw [hadd] at htotal
      have hnext := Amount.add?_eq_some_iff.mp hadd
      rw [← hnext]
      exact ih hrest next (by omega) htotal

/-- Positive amounts have a sum precisely if it is in range. -/
theorem exists_total_eq_ok_iff {records : List Record} {kind : RecordKind}
    (hpositive : ∀ record ∈ records, 0 < record.amount.toInt) :
    (∃ sum, total records kind = .ok sum) ↔ exactTotal kind records ≤ Amount.highest := by
  constructor
  · rintro ⟨sum, htotal⟩
    rw [← toInt_of_total_eq_ok htotal]
    exact (Amount.fits_toInt sum).2
  · intro hrange
    cases htotal : total records kind with
    | ok sum => exact ⟨sum, rfl⟩
    | error cause =>
      exact absurd (exceeds_of_total_eq_error hpositive htotal).1 (not_lt.mpr hrange)

end Record

/-! ## What the totals of a balance should be -/

namespace Tables

variable (tables : Tables)

/-- What the records of a balance come to that moved money one way. -/
def moved (kind : RecordKind) (balance : Balance) : Int :=
  Record.exactTotal kind (tables.records.rows.filter (Record.isOnBalance balance.id))

/-- What the records and the other totals say that a total is. -/
def due (balance : Balance) : Total → Int
  | .outgoing => tables.moved .sell balance
  | .incoming => tables.moved .buy balance
  | .funds => balance.incoming.toInt - balance.outgoing.toInt

/-- The records of a balance come to more than an amount can tell of. -/
def Exceeds : Prop :=
  ∃ balance ∈ tables.balances.rows, ∃ kind, Amount.highest < tables.moved kind balance

end Tables

/-- The total as the balance has it. -/
def Total.stored (balance : Balance) : Total → Amount
  | .outgoing => balance.outgoing
  | .incoming => balance.incoming
  | .funds => balance.funds

/-- The nearest amount. -/
def Amount.clamped (n : Int) : Amount := Int64.ofInt (max lowest (min highest n))

theorem Amount.clamped_toInt (amount : Amount) : clamped amount.toInt = amount := by
  have hfits := fits_toInt amount
  rw [clamped, min_eq_right hfits.2, max_eq_right hfits.1, Int64.ofInt_toInt]

theorem Amount.toInt_clamped {n : Int} (hfits : Fits n) : (clamped n).toInt = n := by
  rw [clamped, min_eq_right hfits.2, max_eq_right hfits.1, toInt_ofInt hfits.1 hfits.2]

/-- Every record that has a balance is counted there and nowhere else. -/
theorem Tables.sum_attached_eq (tables : Tables) :
    (tables.balances.rows.map fun b =>
        (tables.records.rows.filter (Record.isOnBalance b.id)).length).sum =
      (tables.records.rows.filter fun record =>
        (tables.balances.find? record.balanceId).isSome).length := by
  have hplaced : ∀ record ∈ tables.records.rows.filter fun record =>
        (tables.balances.find? record.balanceId).isSome,
      ∃ balance, tables.balances.find? record.balanceId = some balance := by
    intro record hmem
    exact Option.isSome_iff_exists.mp (List.mem_filter.mp hmem).2
  rw [← Engine.sum_onBalance_eq hplaced]
  congr 1
  apply List.map_congr_left
  intro balance hbalance
  rw [List.filter_filter]
  congr 1
  apply List.filter_congr
  intro record _
  by_cases honBalance : record.balanceId = balance.id
  · have hfind : tables.balances.find? balance.id = some balance :=
      Table.mem_rows_iff.mp hbalance
    simp [Record.isOnBalance, honBalance, hfind]
  · simp [Record.isOnBalance, honBalance]

/-- A report is right about a store. -/
structure IntegrityReport.Tells (report : IntegrityReport) (tables : Tables) : Prop where
  complete : ∀ balance ∈ tables.balances.rows,
    (∀ finding ∈ report.discrepancies, finding.balanceId ≠ balance.id) ↔
      ∀ total, (Total.stored balance total).toInt = tables.due balance total
  sound : ∀ finding ∈ report.discrepancies, ∃ balance ∈ tables.balances.rows,
    finding.balanceId = balance.id ∧ finding.userId = balance.userId ∧
      finding.currency = balance.currency ∧
      finding.actual = Total.stored balance finding.field ∧
      finding.expected = Amount.clamped (tables.due balance finding.field) ∧
      finding.actual.toInt ≠ tables.due balance finding.field
  balances : report.balancesChecked = tables.balances.rows.length
  records : report.recordsChecked =
    (tables.records.rows.filter fun record =>
      (tables.balances.find? record.balanceId).isSome).length

/-! ## One balance -/

namespace Tables

variable {tables : Tables} {balance : Balance}

theorem moved_nonneg (hpositive : ∀ record ∈ tables.records.rows, 0 < record.amount.toInt)
    (kind : RecordKind) (balance : Balance) : 0 ≤ tables.moved kind balance :=
  sum_nonneg_of_positive fun _ hmem =>
    hpositive _ (List.mem_filter.mp (List.mem_filter.mp hmem).1).1

/-- Where the sums are right the third test is exact: two amounts that are not negative have a
difference in range. -/
theorem right_of_tests (hpositive : ∀ record ∈ tables.records.rows, 0 < record.amount.toInt)
    (hrange : ∀ kind, tables.moved kind balance ≤ Amount.highest)
    (htests : ∀ total, Amount.clamped (tables.due balance total) = Total.stored balance total) :
    ∀ total, (Total.stored balance total).toInt = tables.due balance total := by
  have hlow : Amount.lowest ≤ 0 := by decide
  have hhigh : Amount.lowest ≤ -Amount.highest := by decide
  have hmoved (kind : RecordKind) : Amount.Fits (tables.moved kind balance) :=
    ⟨hlow.trans (moved_nonneg hpositive kind balance), hrange kind⟩
  have houtgoing : balance.outgoing.toInt = tables.moved .sell balance := by
    rw [show balance.outgoing = _ from (htests .outgoing).symm]
    exact Amount.toInt_clamped (hmoved .sell)
  have hincoming : balance.incoming.toInt = tables.moved .buy balance := by
    rw [show balance.incoming = _ from (htests .incoming).symm]
    exact Amount.toInt_clamped (hmoved .buy)
  have hdifference : Amount.Fits (balance.incoming.toInt - balance.outgoing.toInt) := by
    have hsold := moved_nonneg hpositive .sell balance
    have hbought := moved_nonneg hpositive .buy balance
    have hsoldRange := hrange .sell
    have hboughtRange := hrange .buy
    exact ⟨by omega, by omega⟩
  intro total
  cases total with
  | outgoing => exact houtgoing
  | incoming => exact hincoming
  | funds =>
    rw [← htests .funds]
    exact Amount.toInt_clamped hdifference

end Tables

namespace IntegrityReport

/-- The finding about a total of a balance. -/
def finding (tables : Tables) (balance : Balance) (total : Total) : Discrepancy :=
  ⟨balance.id, balance.userId, balance.currency, total,
    Amount.clamped (tables.due balance total), Total.stored balance total⟩

/-- All that is found about a balance. -/
def found (tables : Tables) (balance : Balance) : List Discrepancy :=
  discrepanciesOf balance (Amount.clamped (tables.moved .sell balance))
    (Amount.clamped (tables.moved .buy balance))

variable {tables : Tables} {balance : Balance} {report last : IntegrityReport}

theorem mem_compare_iff {total : Total} {expected actual : Amount} {d : Discrepancy} :
    d ∈ compare balance total expected actual ↔
      expected ≠ actual ∧
        d = ⟨balance.id, balance.userId, balance.currency, total, expected, actual⟩ := by
  unfold compare
  split <;> simp_all

theorem mem_found_iff {d : Discrepancy} :
    d ∈ found tables balance ↔
      ∃ total, Amount.clamped (tables.due balance total) ≠ Total.stored balance total ∧
        d = finding tables balance total := by
  simp only [found, discrepanciesOf, List.mem_append, mem_compare_iff]
  constructor
  · rintro ((hfound | hfound) | hfound)
    · exact ⟨.outgoing, hfound⟩
    · exact ⟨.incoming, hfound⟩
    · exact ⟨.funds, hfound⟩
  · rintro ⟨total, hfound⟩
    cases total with
    | outgoing => exact .inl (.inl hfound)
    | incoming => exact .inl (.inr hfound)
    | funds => exact .inr hfound

theorem found_eq_nil_iff
    (hpositive : ∀ record ∈ tables.records.rows, 0 < record.amount.toInt)
    (hrange : ∀ kind, tables.moved kind balance ≤ Amount.highest) :
    found tables balance = [] ↔
      ∀ total, (Total.stored balance total).toInt = tables.due balance total := by
  rw [List.eq_nil_iff_forall_not_mem]
  constructor
  · intro hnone
    apply Tables.right_of_tests hpositive hrange
    intro total
    by_contra htest
    exact hnone _ (mem_found_iff.mpr ⟨total, htest, rfl⟩)
  · intro hright d hmem
    obtain ⟨total, htest, -⟩ := mem_found_iff.mp hmem
    exact htest (by rw [← hright total, Amount.clamped_toInt])

theorem check_eq_ok_iff {listed : List Record}
    (hlisted : listed.Perm (tables.records.rows.filter (Record.isOnBalance balance.id)))
    (hpositive : ∀ record ∈ tables.records.rows, 0 < record.amount.toInt) :
    report.check balance listed = .ok last ↔
      (∀ kind, tables.moved kind balance ≤ Amount.highest) ∧
        last =
          { balancesChecked := report.balancesChecked + 1
            recordsChecked := report.recordsChecked + listed.length
            discrepancies := report.discrepancies ++ found tables balance } := by
  have hkept : ∀ record ∈ listed, 0 < record.amount.toInt := fun record hmem =>
    hpositive record (List.mem_filter.mp (hlisted.mem_iff.mp hmem)).1
  have hmoved (kind : RecordKind) : Record.exactTotal kind listed = tables.moved kind balance :=
    Record.exactTotal_perm hlisted kind
  have hclamped (kind : RecordKind) {sum : Amount} (htotal : Record.total listed kind = .ok sum) :
      sum = Amount.clamped (tables.moved kind balance) := by
    rw [← hmoved, ← Record.toInt_of_total_eq_ok htotal, Amount.clamped_toInt]
  have hexists (kind : RecordKind) : (∃ sum, Record.total listed kind = .ok sum) ↔
      tables.moved kind balance ≤ Amount.highest := by
    rw [← hmoved]
    exact Record.exists_total_eq_ok_iff hkept
  constructor
  · intro hcheck
    cases hsold : Record.total listed .sell with
    | error cause => simp [check, hsold, bind, Except.bind] at hcheck
    | ok sold =>
      cases hbought : Record.total listed .buy with
      | error cause => simp [check, hsold, hbought, bind, Except.bind] at hcheck
      | ok bought =>
        simp only [check, hsold, hbought, bind, Except.bind, pure, Except.pure,
          Except.ok.injEq] at hcheck
        refine ⟨fun kind => (hexists kind).mp ?_, ?_⟩
        · cases kind with
          | sell => exact ⟨sold, hsold⟩
          | buy => exact ⟨bought, hbought⟩
        · rw [← hcheck, found, ← hclamped .sell hsold, ← hclamped .buy hbought]
  · rintro ⟨hrange, rfl⟩
    obtain ⟨sold, hsold⟩ := (hexists .sell).mpr (hrange .sell)
    obtain ⟨bought, hbought⟩ := (hexists .buy).mpr (hrange .buy)
    simp only [check, hsold, hbought, bind, Except.bind, pure, Except.pure]
    rw [found, ← hclamped .sell hsold, ← hclamped .buy hbought]

/-- A balance stops the check only by a sum that is out of range. -/
theorem exceeds_of_check_eq_error {listed : List Record} {cause : LedgerError}
    (hlisted : listed.Perm (tables.records.rows.filter (Record.isOnBalance balance.id)))
    (hpositive : ∀ record ∈ tables.records.rows, 0 < record.amount.toInt)
    (hcheck : report.check balance listed = .error cause) :
    ∃ kind, Amount.highest < tables.moved kind balance ∧
      cause = .amountOverflow (.records kind balance.id) := by
  have hkept : ∀ record ∈ listed, 0 < record.amount.toInt := fun record hmem =>
    hpositive record (List.mem_filter.mp (hlisted.mem_iff.mp hmem)).1
  have hfailed (kind : RecordKind) (htotal : Record.total listed kind = .error cause) :
      ∃ kind, Amount.highest < tables.moved kind balance ∧
        cause = .amountOverflow (.records kind balance.id) := by
    obtain ⟨hexceeds, record, hmem, hcause⟩ := Record.exceeds_of_total_eq_error hkept htotal
    have honBalance : record.balanceId = balance.id := by
      simpa [Record.isOnBalance] using (List.mem_filter.mp (hlisted.mem_iff.mp hmem)).2
    rw [Record.exactTotal_perm hlisted] at hexceeds
    exact ⟨kind, hexceeds, by rw [hcause, honBalance]⟩
  cases hsold : Record.total listed .sell with
  | error other =>
    simp only [check, hsold, bind, Except.bind, Except.error.injEq] at hcheck
    exact hfailed .sell (hcheck ▸ hsold)
  | ok sold =>
    cases hbought : Record.total listed .buy with
    | error other =>
      simp only [check, hsold, hbought, bind, Except.bind, Except.error.injEq] at hcheck
      exact hfailed .buy (hcheck ▸ hbought)
    | ok bought => simp [check, hsold, hbought, bind, Except.bind, pure, Except.pure] at hcheck

end IntegrityReport

/-! ## All balances -/

namespace IntegrityReport

variable {tables : Tables} {report last : IntegrityReport} {balances : List Balance}

/-- The check of some balances against the records of a store. -/
def checkAll (tables : Tables) (report : IntegrityReport) (balances : List Balance) :
    Except LedgerError IntegrityReport :=
  balances.foldlM (fun report balance =>
    report.check balance (tables.recordsWhere (Record.isOnBalance balance.id))) report

theorem checkAll_cons (report : IntegrityReport) (balance : Balance) (rest : List Balance) :
    checkAll tables report (balance :: rest) =
      (report.check balance (tables.recordsWhere (Record.isOnBalance balance.id))).bind
        fun next => checkAll tables next rest := by
  rw [checkAll, List.foldlM_cons]
  rfl

theorem checkAll_eq_ok
    (hpositive : ∀ record ∈ tables.records.rows, 0 < record.amount.toInt)
    (hchecked : checkAll tables report balances = .ok last) :
    (∀ balance ∈ balances, ∀ kind, tables.moved kind balance ≤ Amount.highest) ∧
      last =
        { balancesChecked := report.balancesChecked + balances.length
          recordsChecked := report.recordsChecked +
            (balances.map fun b =>
              (tables.records.rows.filter (Record.isOnBalance b.id)).length).sum
          discrepancies := report.discrepancies ++ balances.flatMap (found tables) } := by
  induction balances generalizing report with
  | nil =>
    cases hchecked
    exact ⟨nofun, by simp⟩
  | cons balance rest ih =>
    have hlisted := tables.recordsWhere_perm (Record.isOnBalance balance.id)
    rw [checkAll_cons] at hchecked
    cases hcheck : report.check balance (tables.recordsWhere (Record.isOnBalance balance.id)) with
    | error cause =>
      rw [hcheck] at hchecked
      cases hchecked
    | ok next =>
      rw [hcheck] at hchecked
      obtain ⟨hrange, rfl⟩ := (check_eq_ok_iff hlisted hpositive).mp hcheck
      obtain ⟨hrest, rfl⟩ := ih hchecked
      refine ⟨List.forall_mem_cons.mpr ⟨hrange, hrest⟩, ?_⟩
      simp only [mk.injEq, List.map_cons, List.sum_cons, List.length_cons, List.flatMap_cons,
        List.append_assoc, hlisted.length_eq, and_true]
      omega

theorem checkAll_eq_error {cause : LedgerError}
    (hpositive : ∀ record ∈ tables.records.rows, 0 < record.amount.toInt)
    (hchecked : checkAll tables report balances = .error cause) :
    ∃ balance ∈ balances, ∃ kind, Amount.highest < tables.moved kind balance ∧
      cause = .amountOverflow (.records kind balance.id) := by
  induction balances generalizing report with
  | nil => cases hchecked
  | cons balance rest ih =>
    rw [checkAll_cons] at hchecked
    cases hcheck : report.check balance (tables.recordsWhere (Record.isOnBalance balance.id)) with
    | error other =>
      rw [hcheck] at hchecked
      cases hchecked
      exact ⟨balance, List.mem_cons_self, exceeds_of_check_eq_error
        (tables.recordsWhere_perm _) hpositive hcheck⟩
    | ok next =>
      rw [hcheck] at hchecked
      obtain ⟨other, hmem, hexceeds⟩ := ih hchecked
      exact ⟨other, List.mem_cons_of_mem _ hmem, hexceeds⟩

/-- A report made of what is found about every balance is right. -/
theorem tells_of_checkAll
    (hpositive : ∀ record ∈ tables.records.rows, 0 < record.amount.toInt)
    (hlisted : balances.Perm tables.balances.rows)
    (hchecked : checkAll tables {} balances = .ok last) : last.Tells tables := by
  obtain ⟨hrange, rfl⟩ := checkAll_eq_ok hpositive hchecked
  have hmem_iff (d : Discrepancy) : d ∈ [] ++ balances.flatMap (found tables) ↔
      ∃ balance ∈ tables.balances.rows, d ∈ found tables balance := by
    simp only [List.nil_append, List.mem_flatMap, hlisted.mem_iff]
  exact {
    complete := by
      intro balance hbalance
      rw [← found_eq_nil_iff hpositive (hrange balance (hlisted.mem_iff.mpr hbalance)),
        List.eq_nil_iff_forall_not_mem]
      constructor
      · intro hnone d hfound
        obtain ⟨total, -, rfl⟩ := mem_found_iff.mp hfound
        exact hnone _ ((hmem_iff _).mpr ⟨balance, hbalance, hfound⟩) rfl
      · intro hnone d hmem hid
        obtain ⟨other, hother, hfound⟩ := (hmem_iff d).mp hmem
        obtain ⟨total, -, rfl⟩ := mem_found_iff.mp hfound
        obtain rfl := Table.eq_of_key_eq hother hbalance hid
        exact hnone _ hfound
    sound := by
      intro d hmem
      obtain ⟨balance, hbalance, hfound⟩ := (hmem_iff d).mp hmem
      obtain ⟨total, htest, rfl⟩ := mem_found_iff.mp hfound
      refine ⟨balance, hbalance, rfl, rfl, rfl, rfl, rfl, fun hright => htest ?_⟩
      rw [← show _ = tables.due balance total from hright]
      exact Amount.clamped_toInt _
    balances := by simp [hlisted.length_eq]
    records := by
      rw [(hlisted.map _).sum_eq]
      exact (Nat.zero_add _).trans (Tables.sum_attached_eq tables) }

end IntegrityReport

namespace Engine

open Work

/-- In a unit the check sees nothing but the records of one balance after the other. -/
theorem perform_checkBalances_eq {tables : Tables} (report : IntegrityReport)
    (balances : List Balance) {course : Course} (hworking : course.unit.working = tables) :
    ((checkBalances report balances).perform course).map Prod.fst =
      IntegrityReport.checkAll tables report balances := by
  induction balances generalizing report course with
  | nil => rfl
  | cons balance rest ih =>
    have hask : (ask (.recordsForBalance balance.id)).perform course =
        .ok (tables.recordsWhere (Record.isOnBalance balance.id),
          course.answered (.recordsForBalance balance.id) course.unit) := by
      rw [← hworking]
      exact (perform_read_eq_ok rfl).mpr ⟨rfl, rfl⟩
    rw [IntegrityReport.checkAll_cons, checkBalances, perform_bind_of_ok hask]
    cases hcheck : report.check balance (tables.recordsWhere (Record.isOnBalance balance.id)) with
    | error cause => rfl
    | ok next => exact ih next hworking

/-- What the integrity check gives, whatever is stored. -/
theorem verifyIntegrity_run_eq (world : World Tables) :
    (verifyIntegrity.run Memory.backend world).1 =
      IntegrityReport.checkAll world.store {} world.store.allBalances := by
  have hrun := congrArg Prod.fst ((verifyIntegrity.run_memory world rfl).trans
    (verifyIntegrity.conclude_memory world.store _))
  have hperform : (verifyIntegrity.work.perform (.start world.store world.supply)).map Prod.fst =
      IntegrityReport.checkAll world.store {} world.store.allBalances := by
    rw [show verifyIntegrity.work = ask .allBalances >>= checkBalances {} from rfl,
      perform_bind_of_ok ((perform_read_eq_ok rfl).mpr ⟨rfl, rfl⟩)]
    exact perform_checkBalances_eq {} _ rfl
  rw [← hperform]
  refine hrun.trans ?_
  cases verifyIntegrity.work.perform (.start world.store world.supply) <;> rfl

/-- Whatever the totals of the balances are: if the records of some balance come to more than an
amount can tell of, the check fails with an overflow, and with no other error.  If not, it gives a
report, which names precisely the balances that are wrong. -/
theorem verifyIntegrity_exact {world : World Tables}
    (hpositive : ∀ record ∈ world.store.records.rows, 0 < record.amount.toInt) :
    ((∃ subject, (verifyIntegrity.run Memory.backend world).1 =
        .error (.amountOverflow subject)) ↔ world.store.Exceeds) ∧
      (¬ world.store.Exceeds →
        ∃ report, (verifyIntegrity.run Memory.backend world).1 = .ok report ∧
          report.Tells world.store) := by
  have hlisted : world.store.allBalances.Perm world.store.balances.rows := List.mergeSort_perm _ _
  rw [verifyIntegrity_run_eq]
  cases hchecked : IntegrityReport.checkAll world.store {} world.store.allBalances with
  | error cause =>
    obtain ⟨balance, hmem, kind, hexceeds, rfl⟩ :=
      IntegrityReport.checkAll_eq_error hpositive hchecked
    have hstore : world.store.Exceeds := ⟨balance, hlisted.mem_iff.mp hmem, kind, hexceeds⟩
    exact ⟨iff_of_true ⟨_, rfl⟩ hstore, fun hnot => absurd hstore hnot⟩
  | ok report =>
    have hstore : ¬ world.store.Exceeds := by
      rintro ⟨balance, hmem, kind, hexceeds⟩
      have hrange := (IntegrityReport.checkAll_eq_ok hpositive hchecked).1
      exact absurd (hrange balance (hlisted.mem_iff.mpr hmem) kind) (not_le.mpr hexceeds)
    exact ⟨iff_of_false nofun hstore, fun _ =>
      ⟨report, rfl, IntegrityReport.tells_of_checkAll hpositive hlisted hchecked⟩⟩

/-- A balance with totals that its one record does not bear out.  Its funds are wrong too, but
equal the difference of the totals once that is clamped. -/
def misstated : Balance where
  id := Desk.deposited.balanceId
  userId := Desk.deposited.userId
  companyId := Desk.deposited.companyId
  currency := Desk.deposited.currency
  funds := Int64.maxValue
  outgoing := Int64.minValue
  incoming := Int64.maxValue
  version := 1
  createdAt := Desk.deposited.createdAt
  updatedAt := Desk.deposited.updatedAt

def misstatedWorld : World Tables where
  store :=
    { balances := Table.empty.insert misstated, records := Table.empty.insert Desk.deposited }
  supply := Desk.supplied 1

example : Amount.clamped (misstatedWorld.store.due misstated .funds) = misstated.funds := by
  decide +kernel

theorem verifyIntegrity_exact_misstated :
    (∀ record ∈ misstatedWorld.store.records.rows, 0 < record.amount.toInt) ∧
      ¬ misstatedWorld.store.Exceeds ∧
      (¬ ∃ subject, (verifyIntegrity.run Memory.backend misstatedWorld).1 =
        .error (.amountOverflow subject)) ∧
      ∃ report, (verifyIntegrity.run Memory.backend misstatedWorld).1 = .ok report ∧
        report.Tells misstatedWorld.store := by
  have hpositive : ∀ record ∈ misstatedWorld.store.records.rows, 0 < record.amount.toInt := by
    decide +kernel
  have hstore : ¬ misstatedWorld.store.Exceeds := by
    rintro ⟨balance, hmem, kind, hexceeds⟩
    obtain rfl : balance = misstated := List.mem_singleton.mp hmem
    revert hexceeds
    cases kind <;> decide +kernel
  have hexact := verifyIntegrity_exact hpositive
  exact ⟨hpositive, hstore, fun herror => hstore (hexact.1.mp herror), hexact.2 hstore⟩

end Engine

end CashLedger
