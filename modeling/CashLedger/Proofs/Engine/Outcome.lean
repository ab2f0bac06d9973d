import CashLedger.Proofs.Engine.Posting

/-!
# What a change leaves behind

A change that is done has fulfilled its mandate, the books balance with the
records that are stored now, and its exchange or debt, if it has one, is mirrored
by its records.  With that the whole of its tables is consistent again, and their
identifiers are old ones or such as it has drawn.
-/

namespace CashLedger

open Work

/-- A change that starts on consistent tables and draws in order what they do not
have. -/
structure Opening (promise : Promise) (snapshot : Tables) (last : Course) : Prop where
  consistent : snapshot.Consistent promise
  keeps : last.supply.Keeps promise
  fresh : snapshot.IdsIn (· ∉ last.supply.drawn)

namespace Opening

variable {promise : Promise} {snapshot : Tables} {last : Course}

theorem mandate_fresh (hopening : Opening promise snapshot last) (owner : RecordSource) :
    Mandate.Fresh ⟨snapshot, owner, last⟩ := hopening.fresh

theorem standing (hopening : Opening promise snapshot last) (owner : RecordSource)
    (supply : Supply) :
    Standing ⟨snapshot, owner, last⟩ (.start snapshot supply) snapshot.records :=
  .start hopening.consistent.balanced (hopening.mandate_fresh owner)

end Opening

namespace Mandate

/-- The tables at the end of the change. -/
def working (mandate : Mandate) : Tables := mandate.last.unit.working

structure Settled (promise : Promise) (mandate : Mandate) : Prop where
  fulfilled : mandate.Fulfilled
  balanced : Balanced mandate.working.balances mandate.working.records
  owed : Owed mandate.working.debtors mandate.working.debts
  exchange : ∀ exchange ∈ mandate.working.exchanges.rows,
    mandate.owner = .exchange exchange.id → exchange.Mirrored mandate.working.records
  debt : ∀ debt ∈ mandate.working.debts.rows, mandate.owner = .debt debt.id →
    debt.Signed ∧ debt.Mirrored promise mandate.working.records
  exchangeOf : ∀ record ∈ mandate.working.records.rows, ∀ id,
    record.source = .exchange id → mandate.owner = .exchange id →
    ∃ exchange, mandate.working.exchanges.find? id = some exchange
  debtOf : ∀ record ∈ mandate.working.records.rows, ∀ id,
    record.source = .debt id → mandate.owner = .debt id →
    ∃ debt, mandate.working.debts.find? id = some debt

namespace Settled

variable {promise : Promise} {mandate : Mandate}

/-- A change of free records or of no record at all. -/
theorem of_free (hfree : mandate.owner.isOwned = false)
    (hcalls : ∀ request ∈ mandate.last.calls, request.Within mandate)
    (hbalanced : Balanced mandate.working.balances mandate.working.records)
    (howed : Owed mandate.working.debtors mandate.working.debts) : mandate.Settled promise := by
  have hexchange : ∀ id, mandate.owner ≠ .exchange id := by
    intro id heq
    rw [heq] at hfree
    cases hfree
  have hdebt : ∀ id, mandate.owner ≠ .debt id := by
    intro id heq
    rw [heq] at hfree
    cases hfree
  refine ⟨⟨hcalls, ?_, ?_⟩, hbalanced, howed, ?_, ?_, ?_, ?_⟩
  · exact fun id howns => absurd howns.1 (hexchange id)
  · exact fun id debt howner => absurd howner (hdebt id)
  · exact fun exchange _ howner => absurd howner (hexchange exchange.id)
  · exact fun debt _ howner => absurd howner (hdebt debt.id)
  · exact fun record _ id _ howner => absurd howner (hexchange id)
  · exact fun record _ id _ howner => absurd howner (hdebt id)

/-- A change of one exchange. -/
theorem of_exchange {id : ExchangeId} (howner : mandate.owner = .exchange id)
    (hstanding : Standing mandate mandate.last mandate.working.records)
    (howed : Owed mandate.working.debtors mandate.working.debts)
    (hheld : ∀ exchange, mandate.snapshot.exchanges.find? id = some exchange →
      ∀ record ∈ mandate.snapshot.records.rows, record.source = .exchange id →
        record.balanceId ∈ mandate.last.unit.writes.balanceIds)
    (hmirrored : ∀ exchange, mandate.working.exchanges.find? id = some exchange →
      exchange.Mirrored mandate.working.records)
    (hstored : ∀ record ∈ mandate.working.records.rows, record.source = .exchange id →
      ∃ exchange, mandate.working.exchanges.find? id = some exchange) :
    mandate.Settled promise := by
  have hdebt : ∀ id, mandate.owner ≠ .debt id := by
    intro id heq
    rw [howner] at heq
    cases heq
  refine ⟨⟨hstanding.calls, ?_, ?_⟩, hstanding.balanced, howed, ?_, ?_, ?_, ?_⟩
  · rintro other ⟨heq, exchange, hfind⟩
    rw [howner] at heq
    cases heq
    exact hheld exchange hfind
  · exact fun id debt howner => absurd howner (hdebt id)
  · intro exchange hmem heq
    rw [howner] at heq
    cases heq
    exact hmirrored exchange (Table.mem_rows_iff.mp hmem)
  · exact fun debt _ howner => absurd howner (hdebt debt.id)
  · intro record hmem other hsource heq
    rw [howner] at heq
    cases heq
    exact hstored record hmem hsource
  · exact fun record _ id _ howner => absurd howner (hdebt id)

/-- A change that leaves its exchange stored. -/
theorem of_stored_exchange {exchange : Exchange}
    (howner : mandate.owner = .exchange exchange.id)
    (hstanding : Standing mandate mandate.last mandate.working.records)
    (howed : Owed mandate.working.debtors mandate.working.debts)
    (hheld : ∀ old, mandate.snapshot.exchanges.find? exchange.id = some old →
      ∀ record ∈ mandate.snapshot.records.rows, record.source = .exchange exchange.id →
        record.balanceId ∈ mandate.last.unit.writes.balanceIds)
    (hfind : mandate.working.exchanges.find? exchange.id = some exchange)
    (hmirrored : exchange.Mirrored mandate.working.records) : mandate.Settled promise := by
  apply of_exchange howner hstanding howed hheld
  · intro found hfound
    rw [hfind] at hfound
    cases hfound
    exact hmirrored
  · exact fun record _ _ => ⟨exchange, hfind⟩

/-- A change of one debt. -/
theorem of_debt {id : DebtId} (howner : mandate.owner = .debt id)
    (hstanding : Standing mandate mandate.last mandate.working.records)
    (howed : Owed mandate.working.debtors mandate.working.debts)
    (hheld : ∀ debt, mandate.snapshot.debts.find? id = some debt →
      debt.debtorId ∈ mandate.last.unit.writes.debtorIds)
    (hmirrored : ∀ debt, mandate.working.debts.find? id = some debt →
      debt.Signed ∧ debt.Mirrored promise mandate.working.records)
    (hstored : ∀ record ∈ mandate.working.records.rows, record.source = .debt id →
      ∃ debt, mandate.working.debts.find? id = some debt) :
    mandate.Settled promise := by
  have hexchange : ∀ id, mandate.owner ≠ .exchange id := by
    intro id heq
    rw [howner] at heq
    cases heq
  refine ⟨⟨hstanding.calls, ?_, ?_⟩, hstanding.balanced, howed, ?_, ?_, ?_, ?_⟩
  · exact fun id howns => absurd howns.1 (hexchange id)
  · intro other debt heq hfind
    rw [howner] at heq
    cases heq
    exact hheld debt hfind
  · exact fun exchange _ howner => absurd howner (hexchange exchange.id)
  · intro debt hmem heq
    rw [howner] at heq
    cases heq
    exact hmirrored debt (Table.mem_rows_iff.mp hmem)
  · exact fun record _ id _ howner => absurd howner (hexchange id)
  · intro record hmem other hsource heq
    rw [howner] at heq
    cases heq
    exact hstored record hmem hsource

/-- A change that leaves its debt stored. -/
theorem of_stored_debt {debt : Debt} (howner : mandate.owner = .debt debt.id)
    (hstanding : Standing mandate mandate.last mandate.working.records)
    (howed : Owed mandate.working.debtors mandate.working.debts)
    (hheld : ∀ old, mandate.snapshot.debts.find? debt.id = some old →
      old.debtorId ∈ mandate.last.unit.writes.debtorIds)
    (hfind : mandate.working.debts.find? debt.id = some debt) (hsigned : debt.Signed)
    (hmirrored : debt.Mirrored promise mandate.working.records) : mandate.Settled promise := by
  apply of_debt howner hstanding howed hheld
  · intro found hfound
    rw [hfind] at hfound
    cases hfound
    exact ⟨hsigned, hmirrored⟩
  · exact fun record _ _ => ⟨debt, hfind⟩

theorem consistent (hsettled : mandate.Settled promise)
    (hconsistent : mandate.snapshot.Consistent promise)
    (htracks : MemoryUnit.Tracks mandate.snapshot mandate.last.unit)
    (hconfined : MemoryUnit.Confined mandate mandate.last.unit) :
    mandate.working.Consistent promise :=
  hconsistent.of_apart (hconfined.apart htracks) hsettled.balanced hsettled.owed
    hsettled.exchange hsettled.debt hsettled.exchangeOf hsettled.debtOf

end Settled

end Mandate

/-! ## Identifiers -/

section Ids

variable {allowed : Uuid → Prop} {mandate : Mandate} {unit last : MemoryUnit}

/-- What holds of the key of each stored row and of a new one. -/
theorem Table.forall_find?_insert {α κ : Type} [Keyed α κ] [DecidableEq κ] {table : Table α}
    {row : α} {good : κ → Prop} (hrow : good (Keyed.key row))
    (htable : ∀ k found, table.find? k = some found → good k) :
    ∀ k found, (table.insert row).find? k = some found → good k := by
  intro k found hfind
  rw [find?_insert] at hfind
  split at hfind
  · next heq => exact heq ▸ hrow
  · exact htable k found hfind

theorem Table.forall_find?_erase {α κ : Type} [Keyed α κ] [DecidableEq κ] {table : Table α}
    {k : κ} {good : κ → Prop} (htable : ∀ k found, table.find? k = some found → good k) :
    ∀ other found, (table.erase k).find? other = some found → good other := by
  intro other found hfind
  rw [find?_erase] at hfind
  split at hfind
  · cases hfind
  · exact htable other found hfind

namespace Tables.IdsIn

theorem dropRecords (hids : unit.working.IdsIn allowed) (ids : List RecordId) :
    (ids.foldl MemoryUnit.dropRecord unit).working.IdsIn allowed := by
  rw [Posting.working_dropRecords]
  refine { hids with records := fun id row hfind => ?_ }
  simp only [Table.find?_foldl_erase] at hfind
  split at hfind
  · cases hfind
  · exact hids.records id row hfind

/-- A call within the mandate stores rows only under old identifiers and drawn ones. -/
theorem answer (hids : unit.working.IdsIn allowed) {request : Call}
    (hwithin : request.Within mandate) (hdrawn : ∀ uuid ∈ mandate.drawn, allowed uuid)
    {result : request.Answer} (hanswer : unit.answer request = (.ok result, last)) :
    last.working.IdsIn allowed := by
  cases request with
  | createBalance balance =>
    obtain ⟨-, rfl⟩ := MemoryUnit.createBalance_eq_ok.mp hanswer
    exact { hids with balances := Table.forall_find?_insert (hdrawn _ hwithin.1) hids.balances }
  | updateBalance balance =>
    obtain ⟨current, hcurrent, -, rfl, rfl⟩ := MemoryUnit.updateBalance_eq_ok.mp hanswer
    have hknown := hids.balances balance.id current hcurrent
    exact { hids with balances := Table.forall_find?_insert hknown hids.balances }
  | createRecord record =>
    cases hanswer
    exact { hids with records := Table.forall_find?_insert (hdrawn _ hwithin.1) hids.records }
  | updateRecord record =>
    obtain ⟨hpresent, rfl⟩ := MemoryUnit.changing_eq_ok.mp hanswer
    obtain ⟨old, hold⟩ := Option.isSome_iff_exists.mp hpresent
    have hknown := hids.records _ old hold
    exact { hids with records := Table.forall_find?_insert hknown hids.records }
  | deleteRecord id =>
    obtain ⟨-, rfl⟩ := MemoryUnit.changing_eq_ok.mp hanswer
    exact { hids with records := Table.forall_find?_erase hids.records }
  | deleteRecordsForExchange id =>
    cases hanswer
    exact hids.dropRecords _
  | deleteRecordsForDebt id =>
    cases hanswer
    exact hids.dropRecords _
  | createExchange exchange =>
    cases hanswer
    exact { hids with exchanges := Table.forall_find?_insert (hdrawn _ hwithin.1) hids.exchanges }
  | updateExchange exchange =>
    obtain ⟨hpresent, rfl⟩ := MemoryUnit.changing_eq_ok.mp hanswer
    obtain ⟨old, hold⟩ := Option.isSome_iff_exists.mp hpresent
    have hknown := hids.exchanges _ old hold
    exact { hids with exchanges := Table.forall_find?_insert hknown hids.exchanges }
  | deleteExchange id =>
    obtain ⟨-, rfl⟩ := MemoryUnit.changing_eq_ok.mp hanswer
    exact { hids with exchanges := Table.forall_find?_erase hids.exchanges }
  | createDebtor debtor =>
    cases hanswer
    exact { hids with debtors := Table.forall_find?_insert (hdrawn _ hwithin) hids.debtors }
  | updateDebtor debtor =>
    obtain ⟨current, hcurrent, -, rfl, rfl⟩ := MemoryUnit.updateDebtor_eq_ok.mp hanswer
    have hknown := hids.debtors debtor.id current hcurrent
    exact { hids with debtors := Table.forall_find?_insert hknown hids.debtors }
  | createDebt debt =>
    cases hanswer
    exact { hids with debts := Table.forall_find?_insert (hdrawn _ hwithin.1) hids.debts }
  | updateDebt debt =>
    obtain ⟨hpresent, rfl⟩ := MemoryUnit.changing_eq_ok.mp hanswer
    obtain ⟨old, hold⟩ := Option.isSome_iff_exists.mp hpresent
    have hknown := hids.debts _ old hold
    exact { hids with debts := Table.forall_find?_insert hknown hids.debts }
  | deleteDebt id =>
    obtain ⟨-, rfl⟩ := MemoryUnit.changing_eq_ok.mp hanswer
    exact { hids with debts := Table.forall_find?_erase hids.debts }
  | _ =>
    cases hanswer
    exact hids

end Tables.IdsIn

theorem Mandate.Fulfilled.idsIn {α : Type} {work : Work α} {supply : Supply} {value : α}
    (hfulfilled : mandate.Fulfilled) (hids : mandate.snapshot.IdsIn allowed)
    (hdrawn : ∀ uuid ∈ mandate.drawn, allowed uuid)
    (hperform : work.perform (.start mandate.snapshot supply) = .ok (value, mandate.last)) :
    mandate.working.IdsIn allowed := by
  apply @MemoryUnit.of_perform α (fun request => request.Within mandate)
    (fun unit => unit.working.IdsIn allowed) _ work _ mandate.last value hperform
    hfulfilled.calls hids
  intro request answer unit last hwithin hids hanswer
  exact hids.answer hwithin hdrawn hanswer

end Ids

end CashLedger
