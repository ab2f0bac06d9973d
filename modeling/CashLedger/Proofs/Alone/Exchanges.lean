import CashLedger.Proofs.Alone

/-!
# Exchanges changed, deleted and made alone

Of the rows of a store each of these touches one exchange and its records, and the balances
that these move.
-/

namespace CashLedger

open Engine

namespace Exchange

/-- The tables after an exchange was changed: it is the same exchange with the same two
records, and all others stay. -/
structure Changed (before : Tables) (exchange : Exchange) (amounts : ExchangeAmounts)
    (changed : Exchange) (after : Tables) : Prop where
  row : changed = exchange.amend amounts changed.updatedAt
  stored : after.exchanges.find? exchange.id = some changed
  records : List.Forall₂ (Record.Restated before.place exchange.userId amounts)
    (before.recordsWhere (Record.isOfExchange exchange.id))
    (after.recordsWhere (Record.isOfExchange exchange.id))
  apart : Tables.Apart (.exchange exchange.id) before after
  debtors : after.debtors.Same before.debtors
  users : after.users = before.users

/-- The tables after an exchange was deleted: it is gone with its records. -/
structure Gone (before : Tables) (exchange : Exchange) (after : Tables) : Prop where
  unknown : after.exchanges.find? exchange.id = none
  records : ∀ record ∈ after.records.rows, record.source ≠ .exchange exchange.id
  apart : Tables.Apart (.exchange exchange.id) before after
  debtors : after.debtors.Same before.debtors
  users : after.users = before.users

/-- The tables after an exchange was made: it has two records, and all others stay. -/
structure Added (before : Tables) (request : NewExchange) (created : Exchange)
    (after : Tables) : Prop where
  row : ∃ user now, before.users.find? request.userId = some user ∧
    created = .new created.id user request now
  stored : after.exchanges.find? created.id = some created
  records : ∃ sold received,
    after.recordsWhere (Record.isOfExchange created.id) = [sold, received] ∧
      sold.Posted before.place request.userId .debit (.exchange created.id) request.details
        request.sold ∧
      received.Posted before.place request.userId .credit (.exchange created.id) request.details
        request.received
  apart : Tables.Apart (.exchange created.id) before after
  debtors : after.debtors.Same before.debtors
  users : after.users = before.users

end Exchange

namespace Engine

section Left

variable {tables store : Tables} {last : Course} {exchange changed created : Exchange}
  {amounts : ExchangeAmounts} {request : NewExchange} (hsame : store.Same last.unit.working)

include hsame

theorem changed_of_exchangeAmended
    (hamended : ExchangeAmended tables exchange amounts changed last) :
    exchange.Changed tables amounts changed store := by
  obtain ⟨posted, heach, hleaves⟩ := hamended.legs
  have hstore := hleaves.same hsame
  have hid : changed.id = exchange.id := by
    rw [hamended.row]
    rfl
  have hcontinues : List.Forall₂ Record.Continues
      (tables.recordsWhere (Record.isOfExchange exchange.id)) posted :=
    heach.imp fun _ _ hrestated => hrestated.continues
  have hids : posted.map Record.id =
      (tables.recordsWhere (Record.isOfExchange exchange.id)).map Record.id :=
    map_id_of_reposted (heach.imp fun _ _ hrestated => hrestated.toReposted)
  have howner : ∀ record ∈ posted, record.source = .exchange exchange.id := by
    intro record hrecord
    obtain ⟨old, hold, hcontinued⟩ := exists_related_of_mem hcontinues hrecord
    rw [hcontinued.source]
    exact Record.isOfExchange_iff.mp (Tables.mem_recordsWhere.mp hold).2
  obtain ⟨hlisted, hothers⟩ := Tables.listed_of_posted Record.isOfExchange_iff hstore.records
    (pairwise_of_continues hcontinues (tables.pairwise_recordsWhere _)) howner
    fun record hmem => hids ▸ Tables.source_eq_iff_listed Record.isOfExchange_iff hmem
  exact
    { row := hamended.row
      stored := by
        rw [hstore.exchanges, ← hid]
        exact Table.find?_insert_self _ _
      records := hlisted.symm ▸ heach
      apart :=
        { records := hothers
          exchanges := fun id hother => by
            rw [hstore.exchanges]
            refine Table.find?_insert_of_ne _ fun h => hother ?_
            rw [h]
            exact congrArg _ hid.symm
          debts := fun id _ => hstore.debts id }
      debtors := hstore.debtors
      users := hstore.users }

theorem gone_of_leaves (hleaves : last.Leaves tables
      (tables.recordsWithout (Record.isOfExchange exchange.id))
      (tables.exchanges.erase exchange.id) tables.debtors tables.debts) :
    exchange.Gone tables store := by
  have hstore := hleaves.same hsame
  obtain ⟨hnone, hothers⟩ := Tables.kept_of_dropped Record.isOfExchange_iff hstore.records
  exact
    { unknown := by
        rw [hstore.exchanges, Table.find?_erase, if_pos rfl]
      records := hnone
      apart :=
        { records := hothers
          exchanges := fun id hother => by
            rw [hstore.exchanges, Table.find?_erase, if_neg]
            rintro rfl
            exact hother rfl
          debts := fun id _ => hstore.debts id }
      debtors := hstore.debtors
      users := hstore.users }

theorem added_of_exchangeMade (hmade : ExchangeMade tables request created last)
    (hincreasing : last.supply.Increasing)
    (hnone : ∀ record ∈ tables.records.rows, record.source ≠ .exchange created.id)
    (hfresh : ∀ record ∈ tables.records.rows, record.id.uuid ∉ last.supply.drawn) :
    Exchange.Added tables request created store := by
  obtain ⟨sold, received, hpair, hleaves⟩ := hmade.legs
  have hstore := hleaves.same hsame
  have hnew : ∀ record ∈ [sold, received], record.id.uuid ∈ last.supply.drawn := by
    simpa using hpair.drawn
  have howner : ∀ record ∈ [sold, received], record.source = .exchange created.id := by
    simpa using ⟨hpair.sold.source, hpair.received.source⟩
  have hold : ∀ record ∈ tables.records.rows,
      record.source = .exchange created.id ↔ record.id ∈ [sold, received].map Record.id := by
    refine fun record hmem => iff_of_false (hnone record hmem) fun hid => ?_
    obtain ⟨other, hother, hsameId⟩ := List.mem_map.mp hid
    exact hfresh record hmem (hsameId ▸ hnew other hother)
  obtain ⟨hlisted, hothers⟩ := Tables.listed_of_posted Record.isOfExchange_iff hstore.records
    (List.pairwise_pair.mpr (hpair.ordered hincreasing)) howner hold
  exact
    { row := hmade.row
      stored := by
        rw [hstore.exchanges]
        exact Table.find?_insert_self _ _
      records := ⟨sold, received, hlisted, hpair.sold, hpair.received⟩
      apart :=
        { records := hothers
          exchanges := fun id hother => by
            rw [hstore.exchanges]
            refine Table.find?_insert_of_ne _ fun h => hother ?_
            rw [h]
            rfl
          debts := fun id _ => hstore.debts id }
      debtors := hstore.debtors
      users := hstore.users }

end Left

/-! ## Alone -/

variable {limits : Limits} (world : World Tables) {world' : World Tables}
  {result : Except LedgerError Exchange} {exchange : Exchange}

theorem updateExchange_alone (hone : world.store.balances.OnePerPair)
    (hmem : exchange ∈ world.store.exchanges.rows)
    (hmirrored : exchange.Mirrored world.store.records) {amounts : ExchangeAmounts}
    (hrun : ((Request.updateExchange exchange.id amounts).operation limits).run Memory.backend
      world = (result, world')) :
    Tables.Enacted (updateExchange exchange.id amounts).check.isOk world.store.place
      ((world.store.recordsWhere (Record.isOfExchange exchange.id)).flatMap
        (Record.restating world.store.place exchange.userId amounts))
      world.store world'.store
      (fun changed => exchange.Changed world.store amounts changed world'.store) result := by
  refine (Request.alone (enacts_updateExchange hone hmem hmirrored amounts) rfl
    (by rintro _ _ ⟨⟩) hrun).mono ?_
  rintro changed ⟨last, hamended, hsame, -⟩
  exact changed_of_exchangeAmended hsame hamended

theorem deleteExchange_alone (hone : world.store.balances.OnePerPair)
    (hmem : exchange ∈ world.store.exchanges.rows)
    (hrun : ((Request.deleteExchange exchange.id).operation limits).run Memory.backend world =
      (result, world')) :
    Tables.Enacted true world.store.place
      ((world.store.recordsWhere (Record.isOfExchange exchange.id)).map Record.undoing)
      world.store world'.store (fun _ => exchange.Gone world.store world'.store) result := by
  refine (Request.alone (enacts_deleteExchange hone hmem) rfl (by rintro _ _ ⟨⟩) hrun).mono ?_
  rintro deleted ⟨last, ⟨-, hleaves⟩, hsame, -⟩
  exact gone_of_leaves hsame hleaves

theorem createExchange_alone (hone : world.store.balances.OnePerPair) {request : NewExchange}
    {user : User} (huser : world.store.users.find? request.userId = some user)
    (hrun : ((Request.createExchange request).operation limits).run Memory.backend world =
      (result, world'))
    (hincreasing : world'.supply.Increasing)
    (hfresh : ∀ record ∈ world.store.records.rows, record.id.uuid ∉ world'.supply.drawn)
    (howners : ∀ record ∈ world.store.records.rows, ∀ id : ExchangeId,
      record.source = .exchange id → id.uuid ∉ world'.supply.drawn) :
    Tables.Enacted (createExchange limits request).check.isOk world.store.place
      [request.sold.posting world.store.place request.userId .debit,
        request.received.posting world.store.place request.userId .credit]
      world.store world'.store
      (fun created => Exchange.Added world.store request created world'.store ∧
        created.id.uuid ∈ world'.supply.drawn) result := by
  refine (Request.alone (enacts_createExchange hone huser) rfl (by rintro _ _ ⟨⟩) hrun).mono ?_
  rintro created ⟨last, hmade, hsame, hsupply⟩
  rw [hsupply] at hincreasing hfresh howners ⊢
  exact ⟨added_of_exchangeMade hsame hmade hincreasing
    (fun record hmem hsource => howners record hmem _ hsource hmade.drawn) hfresh, hmade.drawn⟩

end Engine

end CashLedger
