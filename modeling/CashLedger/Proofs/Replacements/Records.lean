import CashLedger.Proofs.Replacements

/-!
# A record changed, or posted anew

To change a record takes its leg back and applies another one for the same user.  To roll it back
and to post a record does the same in the same order, but that the record is a new one then.
-/

namespace CashLedger

open Engine

/-- A record that was changed next to the one that was posted in its place. -/
structure Record.Replaced (before : Tables) (record : Record) (kind : RecordKind) (money : Money)
    (changed renewed : Record) (left right : Tables) : Prop where
  /-- Every balance is the same but for the time of its last change. -/
  balances : left.balances.accounts = right.balances.accounts
  leg : changed.kind = kind ∧ changed.money = money
  alike : changed.SameLeg renewed ∧ changed.userId = renewed.userId ∧
    changed.details = renewed.details
  /-- The record keeps all that it has but for its leg and the time of the change. -/
  kept : changed = { record with
    balanceId := changed.balanceId, kind := changed.kind, amount := changed.amount,
    currency := changed.currency, updatedAt := changed.updatedAt }
  /-- The record stands where it stood, and nothing else has changed. -/
  others : left.Same { before with
    balances := left.balances, records := before.records.insert changed }
  /-- The record is gone and the other one is there, and nothing else has changed. -/
  othersAnew : right.Same { before with
    balances := right.balances, records := (before.records.erase record.id).insert renewed }

theorem Record.replaced {before between left right : Tables} {record changed renewed : Record}
    {kind : RecordKind} {money : Money} {first last : Course}
    (hchanged : LegReplaced before record kind money changed first)
    (hleft : left.Same first.unit.working)
    (hgone : between.Same { before with
      balances := between.balances, records := before.records.erase record.id })
    (hplace : between.place = before.place)
    (hposted : LegPosted between record.userId kind.direction money record.details renewed last)
    (hright : right.Same last.unit.working)
    (hbalances : left.balances.accounts = right.balances.accounts) :
    record.Replaced before kind money changed renewed left right := by
  obtain ⟨balance, hbalance, hcurrency, hrow⟩ := hchanged.row
  have hnew := hposted.leaves.same_of_moved hright
  have hkind : changed.kind = kind := by
    rw [hrow]
    exact kind.ofDirection_direction
  have hmoney : changed.money = money := by
    rw [hrow, Record.money, Record.repost, hcurrency]
  exact
    { balances := hbalances
      leg := ⟨hkind, hmoney⟩
      alike := by
        refine ⟨⟨?_, ?_, hmoney.trans hposted.posted.money.symm⟩, ?_, ?_⟩
        · have hplaced := hposted.posted.place
          rw [hplace, hbalance] at hplaced
          rw [hrow]
          exact Option.some.inj hplaced
        · rw [hkind, hposted.posted.kind, kind.ofDirection_direction]
        · rw [hrow, hposted.posted.userId]
          rfl
        · rw [hrow, hposted.posted.details]
          rfl
      kept := by
        rw [hrow]
        rfl
      others := hchanged.leaves.same_of_moved hleft
      othersAnew :=
        { users := hnew.users.trans hgone.users
          balances := .refl _
          records := fun id => by
            rw [hnew.records id, Table.find?_insert, Table.find?_insert, hgone.records id]
          exchanges := fun id => (hnew.exchanges id).trans (hgone.exchanges id)
          debtors := fun id => (hnew.debtors id).trans (hgone.debtors id)
          debts := fun id => (hnew.debts id).trans (hgone.debts id) } }

namespace Desk

variable {limits : Limits} {promise : Promise} {desk : Desk} {record : Record} {kind : RecordKind}
  {money : Money}

theorem isOk_check_reposting
    (hdetails : Posting.checkDetails limits record.details = .ok ()) :
    (postBalanceRecord limits record.userId kind money record.details).check.isOk =
      (updateRecord record.id kind money).check.isOk := by
  rw [isOk_check_postBalanceRecord, hdetails]
  exact Bool.and_true _

/-- What is posted anew starts where the record was rolled back, with every balance in its place
and all users as they were. -/
theorem reposting_alone (hreachable : desk.ReachableUnder limits promise)
    (hmem : record ∈ desk.shared.records.rows) (hfree : record.source.isOwned = false)
    {between right : World Tables} {undone : List Movement}
    (hmoved : Tables.Moved desk.shared.place undone desk.shared between.store)
    (husers : between.store.users = desk.shared.users) {posted : Except LedgerError Record}
    (hpost : ((Request.postBalanceRecord record.userId kind money record.details).operation
      limits).run Memory.backend between = (posted, right)) :
    Tables.Enacted (updateRecord record.id kind money).check.isOk desk.shared.place
      [money.posting desk.shared.place record.userId kind.direction] between.store right.store
      (fun renewed => ∃ last : Course, LegPosted between.store record.userId kind.direction money
        record.details renewed last ∧ right.store.Same last.unit.working ∧
          right.supply = last.supply) posted := by
  obtain ⟨⟨user, huser⟩, hdetails⟩ := hreachable.filed.shared.free record hmem hfree
  rw [← isOk_check_reposting hdetails, ← hmoved.place_eq]
  rw [← husers] at huser
  exact Request.alone
    (enacts_postBalanceRecord hmoved.onePerPair huser kind money record.details) rfl
    (by rintro _ _ ⟨⟩) hpost

/-- To change a record goes through exactly if it can be rolled back and one posted with the other
leg, as long as the limits stay the same; and then it comes to the same, but that the record is
the one that was there. -/
theorem record_replaced (hreachable : desk.ReachableUnder limits promise)
    (hmem : record ∈ desk.shared.records.rows) (hfree : record.source.isOwned = false)
    (kind : RecordKind) (money : Money) {supply supply' : Supply}
    {updated posted : Except LedgerError Record} {undone : Except LedgerError Balance}
    {left between right : World Tables}
    (hupdate : desk.alone limits (.updateRecord record.id kind money) supply = (updated, left))
    (hrollback : desk.alone limits (.rollbackRecord record.id) supply' = (undone, between))
    (hpost : ((Request.postBalanceRecord record.userId kind money record.details).operation
      limits).run Memory.backend between = (posted, right)) :
    (updated.isOk ↔ undone.isOk ∧ posted.isOk) ∧
      ∀ changed, updated = .ok changed → ∃ renewed, posted = .ok renewed ∧
        renewed.id.uuid ∈ right.supply.drawn ∧
        record.Replaced desk.shared kind money changed renewed left.store right.store := by
  have hone : desk.shared.balances.OnePerPair := hreachable.reachable.consistent.balanced.unique
  have hupdated := Request.alone (enacts_updateRecord hone hmem hfree kind money) rfl
    (by rintro _ _ ⟨⟩) hupdate
  have hundone := Request.alone (enacts_rollbackRecord hone hmem hfree) rfl (by rintro _ _ ⟨⟩)
    hrollback
  obtain ⟨hiff, hboth⟩ := hupdated.replaces rfl hundone fun {_} hmoved ⟨last, hleaves, hsame, _⟩ =>
    reposting_alone hreachable hmem hfree hmoved (hleaves.same hsame).users hpost
  refine ⟨hiff, fun changed hresult => ?_⟩
  obtain ⟨balance, renewed, hrenewed, hbalances, hplace, ⟨first, hchanged, hleft, -⟩,
    ⟨middle, hleaves, hgone, -⟩, last, hposted, hright, hsupply⟩ := hboth changed hresult
  exact ⟨renewed, hrenewed, hsupply ▸ hposted.drawn, Record.replaced hchanged hleft
    (hleaves.same_of_moved hgone) hplace hposted hright hbalances⟩

/-- The desk when the money has come in and none of it is spent. -/
def forenoon : Desk := morning.run (dayTurns.take 8)

theorem forenoon_reachableUnder : forenoon.ReachableUnder .standard .increasing :=
  (ReachableUnder.start _).run (by decide +kernel) (by decide +kernel)

/-- More came in than was written down, and in the other currency. -/
def counted : Money := ⟨120, ⟨"EUR"⟩⟩

def recounted : Except LedgerError Record × World Tables :=
  forenoon.alone .standard (.updateRecord deposited.id .buy counted) (supplied 10)

def withdrawn : Except LedgerError Balance × World Tables :=
  forenoon.alone .standard (.rollbackRecord deposited.id) (supplied 11)

def depositedAnew : Except LedgerError Record × World Tables :=
  ((Request.postBalanceRecord deposited.userId .buy counted deposited.details).operation
    .standard).run Memory.backend withdrawn.2

set_option maxRecDepth 100000 in
theorem isOk_recounted : recounted.1.isOk = true := by decide_cbv

theorem record_replaced_deposited :
    recounted.1.isOk ∧ withdrawn.1.isOk ∧ depositedAnew.1.isOk ∧
      ∀ changed, recounted.1 = .ok changed → ∃ renewed, depositedAnew.1 = .ok renewed ∧
        renewed.id.uuid ∈ depositedAnew.2.supply.drawn ∧
        deposited.Replaced forenoon.shared .buy counted changed renewed recounted.2.store
          depositedAnew.2.store := by
  obtain ⟨hiff, hreplaced⟩ := record_replaced forenoon_reachableUnder
    (by decide +kernel : deposited ∈ forenoon.shared.records.rows) (by decide) .buy counted
    (@rfl _ recounted) (@rfl _ withdrawn) (@rfl _ depositedAnew)
  obtain ⟨hwithdrawn, hdeposited⟩ := hiff.mp isOk_recounted
  exact ⟨isOk_recounted, hwithdrawn, hdeposited, hreplaced⟩

end Desk

end CashLedger
