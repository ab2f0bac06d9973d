import CashLedger.Proofs.Alone.Exchanges
import CashLedger.Proofs.Replacements

/-!
# An exchange changed, or made anew

To change an exchange takes the sold leg back and posts it anew, and then the received one.
To make it anew takes both back first.  The one difference is that the new sold leg and the old
received one change places; both take money out, so it does not matter which is first.
-/

namespace CashLedger

open Engine

/-- The new sold leg and the old received one change places. -/
theorem moves_restating (accounts : Accounts) (place : Places) (user : UserId)
    (amounts : ExchangeAmounts) {sold received : Record} (hsold : sold.kind = .sell)
    (hreceived : received.kind = .buy) :
    accounts.moves ([sold, received].flatMap (Record.restating place user amounts)) =
      accounts.moves ([sold, received].map Record.undoing ++
        [amounts.sold.posting place user .debit,
          amounts.received.posting place user .credit]) := by
  have hsteps : [sold, received].flatMap (Record.restating place user amounts) =
      [sold.undoing, amounts.sold.posting place user .debit, received.undoing,
        amounts.received.posting place user .credit] := by
    simp [Record.restating, hsold, hreceived, ExchangeAmounts.moneyFor, RecordKind.direction]
  have hcredit : received.undoing = .undone received.balanceId ⟨.credit, received.amount⟩ := by
    rw [Record.undoing, Record.leg, hreceived]
    rfl
  have hsteps' : [sold, received].map Record.undoing = [sold.undoing, received.undoing] := rfl
  rw [hsteps, hsteps', hcredit]
  change (accounts.move sold.undoing).bind _ = (accounts.move sold.undoing).bind _
  congr 1
  funext later
  exact later.moves_swap _ _ _ _ _

/-! ## Both ways -/

/-- An exchange that was changed next to the one that was made anew in its place. -/
structure Exchange.Replaced (before : Tables) (exchange : Exchange) (amounts : ExchangeAmounts)
    (changed renewed : Exchange) (left right : Tables) : Prop where
  /-- Every balance is the same but for the time of its last change. -/
  balances : left.balances.accounts = right.balances.accounts
  debtors : left.debtors.Same right.debtors
  /-- All debts are the same, and all records and exchanges but those of these two. -/
  others : Tables.AlikeBut (.exchange exchange.id) (.exchange renewed.id) left right
  stored : left.exchanges.find? exchange.id = some changed
  gone : right.exchanges.find? exchange.id = none ∧
    ∀ record ∈ right.records.rows, record.source ≠ .exchange exchange.id
  storedAnew : right.exchanges.find? renewed.id = some renewed
  alike : changed.userId = renewed.userId ∧ changed.sold = renewed.sold ∧
    changed.received = renewed.received ∧ changed.details = renewed.details
  /-- One record of what was sold and one of what was received. -/
  legs : ∃ sold received sold' received' : Record,
    left.recordsWhere (Record.isOfExchange exchange.id) = [sold, received] ∧
      right.recordsWhere (Record.isOfExchange renewed.id) = [sold', received'] ∧
      sold.kind = .sell ∧ received.kind = .buy ∧ sold.SameLeg sold' ∧ received.SameLeg received'
  /-- The exchange keeps all that it has but for the amounts and the time of the change. -/
  kept : changed = exchange.amend amounts changed.updatedAt
  recordIds : (left.recordsWhere (Record.isOfExchange exchange.id)).map Record.id =
    (before.recordsWhere (Record.isOfExchange exchange.id)).map Record.id

/-- The request that makes an exchange anew with other amounts. -/
def Exchange.renewal (exchange : Exchange) (amounts : ExchangeAmounts) : NewExchange :=
  ⟨exchange.userId, amounts.received, amounts.sold, exchange.details⟩

theorem sameLeg_of_restated {place : Places} {user : UserId} {amounts : ExchangeAmounts}
    {old record other : Record} {direction : Direction} {source : RecordSource}
    {details : Option String} (hrestated : old.Restated place user amounts record)
    (hposted : other.Posted place user direction source details (amounts.moneyFor old.kind))
    (hkind : other.kind = old.kind) :
    record.SameLeg other where
  balanceId := Option.some.inj (hrestated.place.symm.trans hposted.place)
  kind := by rw [hrestated.shows.kind, hkind]
  money := by rw [hrestated.shows.money, hposted.money]

theorem Exchange.replaced {before between left right : Tables} {exchange changed renewed : Exchange}
    {amounts : ExchangeAmounts} (hmirrored : exchange.Mirrored before.records)
    (hfirst : before.records.SoldFirst) (hchanged : exchange.Changed before amounts changed left)
    (hgone : exchange.Gone before between) (hplace : between.place = before.place)
    (hadded : Exchange.Added between (exchange.renewal amounts) renewed right)
    (hid : renewed.id ≠ exchange.id)
    (hbalances : left.balances.accounts = right.balances.accounts) :
    exchange.Replaced before amounts changed renewed left right := by
  obtain ⟨old, old', hold, hshows, hshows'⟩ := hmirrored.listed hfirst
  obtain ⟨sold', received', hlisted', hsold', hreceived'⟩ := hadded.records
  rw [hplace] at hsold' hreceived'
  -- Each of the two old records was put anew, so there are two of them now.
  have heach := hchanged.records
  rw [hold] at heach
  generalize hlisted : left.recordsWhere (Record.isOfExchange exchange.id) = listed at heach
  obtain - | ⟨hsold, - | ⟨hreceived, ⟨⟩⟩⟩ := heach
  rename_i sold received
  have hother : RecordSource.exchange renewed.id ≠ .exchange exchange.id :=
    fun h => hid (RecordSource.exchange.inj h)
  obtain ⟨user, now, hfind, hrow⟩ := hadded.row
  exact
    { balances := hbalances
      debtors := fun id => (hchanged.debtors id).trans
        ((hgone.debtors id).symm.trans (hadded.debtors id).symm)
      others := hchanged.apart.alikeBut hgone.apart hadded.apart
        (hchanged.users.trans (hgone.users.symm.trans hadded.users.symm))
      stored := hchanged.stored
      gone := ⟨(hadded.apart.exchanges exchange.id hother).trans hgone.unknown,
        hadded.apart.none_of_none hother hgone.records⟩
      storedAnew := hadded.stored
      alike := by
        rw [hchanged.row, hrow]
        exact ⟨(Table.key_of_find? hfind).symm, rfl, rfl, rfl⟩
      legs := ⟨sold, received, sold', received', hlisted, hlisted',
        hsold.shows.kind.trans hshows.kind, hreceived.shows.kind.trans hshows'.kind,
        sameLeg_of_restated hsold (by rwa [hshows.kind]) (hsold'.kind.trans hshows.kind.symm),
        sameLeg_of_restated hreceived (by rwa [hshows'.kind])
          (hreceived'.kind.trans hshows'.kind.symm)⟩
      kept := hchanged.row
      recordIds := map_id_of_reposted (hchanged.records.imp fun _ _ h => h.toReposted) }

namespace Desk

variable {limits : Limits} {desk : Desk} {exchange : Exchange} {amounts : ExchangeAmounts}

theorem isOk_check_renewal
    (hdetails : Posting.checkDetails limits exchange.details = .ok ()) :
    (createExchange limits (exchange.renewal amounts)).check.isOk =
      (updateExchange exchange.id amounts).check.isOk := by
  have hupdate : (updateExchange exchange.id amounts).check.isOk =
      ((Posting.checkLeg amounts.sold).isOk && (Posting.checkLeg amounts.received).isOk) :=
    Except.isOk_bind _ _
  rw [hupdate, isOk_check_createExchange]
  change (_ && (_ && (Posting.checkDetails limits exchange.details).isOk)) = _
  rw [hdetails]
  exact congrArg _ (Bool.and_true _)

/-- What is made anew starts where the deletion ended, with every balance in its place. -/
theorem renewal_alone (hreachable : desk.ReachableUnder limits .increasing)
    (hmem : exchange ∈ desk.shared.exchanges.rows) {between right : World Tables}
    {undone : List Movement}
    (hmoved : Tables.Moved desk.shared.place undone desk.shared between.store)
    (hgone : exchange.Gone desk.shared between.store) {created : Except LedgerError Exchange}
    (hcreate : ((Request.createExchange (exchange.renewal amounts)).operation limits).run
      Memory.backend between = (created, right))
    (hincreasing : right.supply.Increasing)
    (hfresh : ∀ uuid ∈ right.supply.drawn, uuid ∉ desk.shared.uuids) :
    Tables.Enacted (updateExchange exchange.id amounts).check.isOk desk.shared.place
      [amounts.sold.posting desk.shared.place exchange.userId .debit,
        amounts.received.posting desk.shared.place exchange.userId .credit]
      between.store right.store
      (fun renewed => Exchange.Added between.store (exchange.renewal amounts) renewed
        right.store ∧ renewed.id ≠ exchange.id) created := by
  have hfiled := hreachable.filed.shared
  obtain ⟨⟨user, huser⟩, hdetails⟩ := hfiled.exchanges exchange hmem
  have hunnamed : ∀ record ∈ between.store.records.rows, _ := fun record hrecord =>
    hreachable.reachable.consistent.unnamed hfresh (hgone.apart.mem_of_none hgone.records hrecord)
  have hright := createExchange_alone between hmoved.onePerPair
    (hgone.users ▸ huser : between.store.users.find? (exchange.renewal amounts).userId = some user)
    hcreate hincreasing (fun record hrecord => (hunnamed record hrecord).1)
    fun record hrecord => (hunnamed record hrecord).2.1
  rw [hmoved.place_eq, isOk_check_renewal hdetails] at hright
  refine hright.mono fun renewed ⟨hadded, hdrawn⟩ => ⟨hadded, fun hid => ?_⟩
  rw [hid] at hdrawn
  exact hfresh _ hdrawn (Twinned.mem_uuids hmem)

/-- To change an exchange goes through exactly if it can be deleted and made anew with the other
amounts, as long as the limits stay the same; and then it comes to the same, but that the
exchange and its records are the ones that were there. -/
theorem exchange_replaced (hreachable : desk.ReachableUnder limits .increasing)
    (hmem : exchange ∈ desk.shared.exchanges.rows) {moment moment' : Nat → Timestamp}
    {uuid uuid' : Nat → Uuid} {updated deleted created : Except LedgerError Exchange}
    {left between right : World Tables}
    (hupdate : desk.alone limits (.updateExchange exchange.id amounts) { moment, uuid } =
      (updated, left))
    (hdelete : desk.alone limits (.deleteExchange exchange.id)
      { moment := moment', uuid := uuid' } = (deleted, between))
    (hcreate : ((Request.createExchange (exchange.renewal amounts)).operation limits).run
      Memory.backend between = (created, right))
    (hincreasing : right.supply.Increasing)
    (hfresh : ∀ uuid ∈ right.supply.drawn, uuid ∉ desk.shared.uuids) :
    (updated.isOk ↔ deleted.isOk ∧ created.isOk) ∧
      ∀ changed, updated = .ok changed → ∃ renewed, created = .ok renewed ∧
        exchange.Replaced desk.shared amounts changed renewed left.store right.store := by
  have hconsistent := hreachable.reachable.consistent
  have hfirst := hreachable.filed.shared.records
  have hone : desk.shared.balances.OnePerPair := hconsistent.balanced.unique
  have hmirrored := hconsistent.exchanges exchange hmem
  obtain ⟨old, old', hold, hshows, hshows'⟩ := hmirrored.listed hfirst
  have hsteps := moves_restating desk.shared.balances.accounts desk.shared.place exchange.userId
    amounts hshows.kind hshows'.kind
  rw [← hold] at hsteps
  have hupdated := updateExchange_alone ⟨desk.shared, _, []⟩ hone hmem hmirrored hupdate
  have hdeleted := deleteExchange_alone ⟨desk.shared, _, []⟩ hone hmem hdelete
  obtain ⟨hiff, hboth⟩ := hupdated.replaces hsteps hdeleted fun hmoved hgone =>
    renewal_alone hreachable hmem hmoved hgone hcreate hincreasing hfresh
  refine ⟨hiff, fun changed hresult => ?_⟩
  obtain ⟨-, renewed, hcreated, hbalances, hplace, hchanged, hgone, hadded, hid⟩ :=
    hboth changed hresult
  exact ⟨renewed, hcreated,
    Exchange.replaced hmirrored hfirst hchanged hgone hplace hadded hid hbalances⟩

/-- Twice as much was sold, and what was received moves to the other balance. -/
def dearer : ExchangeAmounts := ⟨⟨5, ⟨"USD"⟩⟩, ⟨40, ⟨"USD"⟩⟩⟩

def corrected : Except LedgerError Exchange × World Tables :=
  evening.alone .standard (.updateExchange bought.id dearer) (supplied 10)

def cancelled : Except LedgerError Exchange × World Tables :=
  evening.alone .standard (.deleteExchange bought.id) (supplied 11)

def boughtAnew : Except LedgerError Exchange × World Tables :=
  ((Request.createExchange (bought.renewal dearer)).operation .standard).run Memory.backend
    cancelled.2

set_option maxRecDepth 100000 in
theorem isOk_corrected : corrected.1.isOk = true := by decide_cbv

set_option maxRecDepth 100000 in
theorem supply_boughtAnew :
    boughtAnew.2.supply = { supplied 11 with readings := 7, issued := 3 } := by
  cbv

theorem exchange_replaced_bought :
    corrected.1.isOk ∧ cancelled.1.isOk ∧ boughtAnew.1.isOk ∧
      ∀ changed, corrected.1 = .ok changed → ∃ renewed, boughtAnew.1 = .ok renewed ∧
        bought.Replaced evening.shared dearer changed renewed corrected.2.store
          boughtAnew.2.store := by
  have hincreasing : boughtAnew.2.supply.Increasing := by
    rw [supply_boughtAnew]
    decide +kernel
  have hfresh : ∀ uuid ∈ boughtAnew.2.supply.drawn, uuid ∉ evening.shared.uuids := by
    rw [supply_boughtAnew]
    decide +kernel
  obtain ⟨hiff, hreplaced⟩ := exchange_replaced evening_reachableUnder
    (by decide +kernel : bought ∈ evening.shared.exchanges.rows) (@rfl _ corrected)
    (@rfl _ cancelled) (@rfl _ boughtAnew) hincreasing hfresh
  obtain ⟨hdeleted, hcreated⟩ := hiff.mp isOk_corrected
  exact ⟨isOk_corrected, hdeleted, hcreated, hreplaced⟩

end Desk

end CashLedger
