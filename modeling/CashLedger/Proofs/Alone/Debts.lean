import CashLedger.Proofs.Alone

/-!
# Debts changed, deleted and settled alone

Of the rows of a store each of these touches one debt with its records, the debtor, and the
balances that the records move.
-/

namespace CashLedger

open Engine

/-- The tables after a debt was posted: its records are listed in the order of its legs. -/
structure DebtPosting.Stored (before : Tables) (posting : DebtPosting) (legs : List Money)
    (after : Tables) : Prop where
  debt : after.debts.find? posting.debt.id = some posting.debt
  debtors : after.debtors.Same (before.debtors.insert posting.debtor)
  listed : after.recordsWhere (Record.isOfDebt posting.debt.id) = posting.records
  legs : List.Forall₂ (Record.Posted before.place posting.debt.userId
    posting.debt.kind.direction (.debt posting.debt.id) posting.debt.details) legs posting.records
  apart : Tables.Apart (.debt posting.debt.id) before after
  users : after.users = before.users

namespace Debt

/-- The tables after a debt was changed. -/
structure Changed (before : Tables) (debt : Debt) (debtor : Debtor) (amounts : DebtAmounts)
    (posting : DebtPosting) (after : Tables) : Prop where
  row : posting.debt = debt.reset amounts posting.debt.updatedAt
  debtor : debtor.Rebalanced ((debtor.balance.add? (-debt.debted.amount)).bind fun relieved =>
    relieved.add? (amounts.kind.signed amounts.debted.amount)) posting.debtor
  stored : posting.Stored before amounts.received after

/-- The tables after a debt was deleted: it is gone with its records. -/
structure Gone (before : Tables) (debt : Debt) (debtor stored : Debtor) (after : Tables) :
    Prop where
  unknown : after.debts.find? debt.id = none
  records : ∀ record ∈ after.records.rows, record.source ≠ .debt debt.id
  debtor : debtor.Rebalanced (debtor.balance.add? (-debt.debted.amount)) stored
  debtors : after.debtors.Same (before.debtors.insert stored)
  apart : Tables.Apart (.debt debt.id) before after
  users : after.users = before.users

/-- The tables after one more debt with a debtor. -/
structure Added (before : Tables) (debtor : Debtor) (request : DebtInstallment)
    (posting : DebtPosting) (after : Tables) : Prop where
  row : ∃ now, posting.debt = .new posting.debt.id debtor .installment request.amounts
    request.details now
  debtor : debtor.Rebalanced
    (debtor.balance.add? (request.kind.signed request.debted.amount)) posting.debtor
  stored : posting.Stored before request.received after

end Debt

namespace Engine

section Left

variable {tables store : Tables} {last : Course} {debt : Debt} {debtor : Debtor}
  {posting : DebtPosting} (hsame : store.Same last.unit.working)

include hsame

/-- The records of a posting stand in the place of all that the debt had. -/
theorem stored_of_leaves {records : Table Record} {legs : List Money}
    (hlegs : DebtLegs tables.place posting.debt legs posting.records last.supply)
    (hleaves : last.Leaves tables (posting.records.foldl Table.insert records) tables.exchanges
      (tables.debtors.insert posting.debtor) (tables.debts.insert posting.debt))
    (hincreasing : last.supply.Increasing)
    (hnone : ∀ record ∈ records.rows, record.source ≠ .debt posting.debt.id)
    (hkept : ∀ record, record.source ≠ .debt posting.debt.id →
      (record ∈ records.rows ↔ record ∈ tables.records.rows))
    (hfresh : ∀ record ∈ tables.records.rows, record.id.uuid ∉ last.supply.drawn) :
    posting.Stored tables legs store := by
  have hstore := hleaves.same hsame
  have howner : ∀ record ∈ posting.records, record.source = .debt posting.debt.id := by
    intro record hmem
    obtain ⟨money, -, hposted⟩ := exists_related_of_mem hlegs.posted hmem
    exact hposted.source
  have hold : ∀ record ∈ records.rows,
      record.source = .debt posting.debt.id ↔ record.id ∈ posting.records.map Record.id := by
    refine fun record hmem => iff_of_false (hnone record hmem) fun hid => ?_
    obtain ⟨other, hother, hsameId⟩ := List.mem_map.mp hid
    exact hfresh record ((hkept record (hnone record hmem)).mp hmem)
      (hsameId ▸ hlegs.drawn other hother)
  obtain ⟨hlisted, hothers⟩ := Tables.listed_of_posted Record.isOfDebt_iff hstore.records
    (hlegs.ordered hincreasing) howner hold
  exact
    { debt := by
        rw [hstore.debts]
        exact Table.find?_insert_self _ _
      debtors := hstore.debtors
      listed := hlisted
      legs := hlegs.posted
      apart :=
        { records := fun record hother => (hothers record hother).trans (hkept record hother)
          exchanges := fun id _ => hstore.exchanges id
          debts := fun id hother => by
            rw [hstore.debts]
            refine Table.find?_insert_of_ne _ fun h => hother ?_
            rw [h]
            rfl }
      users := hstore.users }

theorem changed_of_debtReset {amounts : DebtAmounts}
    (hreset : DebtReset tables debt debtor amounts posting last)
    (hincreasing : last.supply.Increasing)
    (hfresh : ∀ record ∈ tables.records.rows, record.id.uuid ∉ last.supply.drawn) :
    debt.Changed tables debtor amounts posting store := by
  have hid : posting.debt.id = debt.id := by
    rw [hreset.row]
    rfl
  have hdropped : ∀ {record : Record}, Record.isOfDebt debt.id record = false ↔
      record.source ≠ .debt posting.debt.id :=
    fun {record} => by rw [← Bool.not_eq_true, Record.isOfDebt_iff, hid]
  refine ⟨hreset.row, hreset.debtor, stored_of_leaves hsame hreset.legs hreset.leaves hincreasing
    (fun record hmem => hdropped.mp (Tables.mem_recordsWithout.mp hmem).2)
    (fun record hother => ?_) hfresh⟩
  rw [Tables.mem_recordsWithout, hdropped]
  exact and_iff_left hother

theorem gone_of_debtDropped {stored : Debtor}
    (hdropped : DebtDropped tables debt debtor stored last) :
    debt.Gone tables debtor stored store := by
  have hstore := hdropped.leaves.same hsame
  obtain ⟨hnone, hothers⟩ := Tables.kept_of_dropped Record.isOfDebt_iff hstore.records
  exact
    { unknown := by
        rw [hstore.debts, Table.find?_erase, if_pos rfl]
      records := hnone
      debtor := hdropped.debtor
      debtors := hstore.debtors
      apart :=
        { records := hothers
          exchanges := fun id _ => hstore.exchanges id
          debts := fun id hother => by
            rw [hstore.debts, Table.find?_erase, if_neg]
            rintro rfl
            exact hother rfl }
      users := hstore.users }

theorem added_of_debtSettled {request : DebtInstallment}
    (hsettled : DebtSettled tables debtor request posting last)
    (hincreasing : last.supply.Increasing)
    (hnone : ∀ record ∈ tables.records.rows, record.source ≠ .debt posting.debt.id)
    (hfresh : ∀ record ∈ tables.records.rows, record.id.uuid ∉ last.supply.drawn) :
    Debt.Added tables debtor request posting store :=
  ⟨hsettled.row, hsettled.debtor, stored_of_leaves hsame hsettled.legs hsettled.leaves
    hincreasing hnone (fun _ _ => .rfl) hfresh⟩

end Left

/-! ## Movements -/

/-- What it takes to take a debt back. -/
def unposting (tables : Tables) (debt : Debt) (debtor : Debtor) : List Movement :=
  (tables.recordsWhere (Record.isOfDebt debt.id)).map Record.undoing ++
    [.passed (debtor.balance.add? (-debt.debted.amount)).isSome]

/-- What it takes to post the legs of a debt when the debtor has this balance. -/
def postingLegs (place : Places) (user : UserId) (amounts : DebtAmounts)
    (balance : Option Amount) : List Movement :=
  amounts.received.map (Money.posting place user amounts.kind.direction) ++
    [.passed (balance.bind fun before =>
      before.add? (amounts.kind.signed amounts.debted.amount)).isSome]

/-! ## Alone -/

variable {limits : Limits} (world : World Tables) {world' : World Tables} {debt : Debt}
  {debtor : Debtor}

theorem updateDebt_alone (hone : world.store.balances.OnePerPair)
    (hmem : debt ∈ world.store.debts.rows)
    (hdebtor : world.store.debtors.find? debt.debtorId = some debtor) {amounts : DebtAmounts}
    {result : Except LedgerError DebtPosting}
    (hrun : ((Request.updateDebt debt.id amounts).operation limits).run Memory.backend world =
      (result, world'))
    (hincreasing : world'.supply.Increasing)
    (hfresh : ∀ record ∈ world.store.records.rows, record.id.uuid ∉ world'.supply.drawn) :
    Tables.Enacted (updateDebt limits debt.id amounts).check.isOk world.store.place
      (.passed (debtor.checkCurrency amounts.debted.currency).isOk ::
        (unposting world.store debt debtor ++
          postingLegs world.store.place debt.userId amounts
            (debtor.balance.add? (-debt.debted.amount))))
      world.store world'.store
      (fun posting => debt.Changed world.store debtor amounts posting world'.store) result := by
  refine (Request.alone (enacts_updateDebt hone hmem hdebtor amounts) rfl (by rintro _ _ ⟨⟩)
    hrun).mono ?_
  rintro posting ⟨last, hreset, hsame, hsupply⟩
  rw [hsupply] at hincreasing hfresh
  exact changed_of_debtReset hsame hreset hincreasing hfresh

theorem deleteDebt_alone (hone : world.store.balances.OnePerPair)
    (hmem : debt ∈ world.store.debts.rows)
    (hdebtor : world.store.debtors.find? debt.debtorId = some debtor)
    {result : Except LedgerError Debtor}
    (hrun : ((Request.deleteDebt debt.id).operation limits).run Memory.backend world =
      (result, world')) :
    Tables.Enacted true world.store.place (unposting world.store debt debtor) world.store
      world'.store (fun stored => debt.Gone world.store debtor stored world'.store) result := by
  refine (Request.alone (enacts_deleteDebt hone hmem hdebtor) rfl (by rintro _ _ ⟨⟩) hrun).mono ?_
  rintro stored ⟨last, hdropped, hsame, -⟩
  exact gone_of_debtDropped hsame hdropped

theorem settleDebt_alone (hone : world.store.balances.OnePerPair) {request : DebtInstallment}
    (hdebtor : world.store.debtors.find? request.debtorId = some debtor)
    {result : Except LedgerError DebtPosting}
    (hrun : ((Request.settleDebt request).operation limits).run Memory.backend world =
      (result, world'))
    (hincreasing : world'.supply.Increasing)
    (hfresh : ∀ record ∈ world.store.records.rows, record.id.uuid ∉ world'.supply.drawn)
    (howners : ∀ record ∈ world.store.records.rows, ∀ id : DebtId,
      record.source = .debt id → id.uuid ∉ world'.supply.drawn) :
    Tables.Enacted (settleDebt limits request).check.isOk world.store.place
      (.passed (debtor.checkCurrency request.debted.currency).isOk ::
        postingLegs world.store.place debtor.userId request.amounts (some debtor.balance))
      world.store world'.store
      (fun posting => Debt.Added world.store debtor request posting world'.store ∧
        posting.debt.id.uuid ∈ world'.supply.drawn) result := by
  refine (Request.alone (enacts_settleDebt hone hdebtor) rfl (by rintro _ _ ⟨⟩) hrun).mono ?_
  rintro posting ⟨last, hsettled, hsame, hsupply⟩
  rw [hsupply] at hincreasing hfresh howners ⊢
  exact ⟨added_of_debtSettled hsame hsettled hincreasing
    (fun record hmem hsource => howners record hmem _ hsource hsettled.drawn) hfresh,
    hsettled.drawn⟩

end Engine

end CashLedger
