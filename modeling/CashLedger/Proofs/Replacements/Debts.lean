import CashLedger.Proofs.Alone.Debts
import CashLedger.Proofs.Replacements

/-!
# A debt changed, or made anew

To change a debt takes its legs and its part of the debtor's balance back and posts the new
ones.  To delete it and post an installment does the same in the same order; only the currency
is looked at later, and the debtor is stored once more on the way.
-/

namespace CashLedger

open Engine

/-- The request that posts a debt anew with other amounts. -/
def Debt.renewal (debt : Debt) (amounts : DebtAmounts) : DebtInstallment :=
  ⟨debt.debtorId, amounts.kind, amounts.debted, amounts.received, debt.details⟩

/-- A debt that was changed next to the one that was posted in its place. -/
structure Debt.Replaced (before : Tables) (debt : Debt) (amounts : DebtAmounts)
    (changed renewed : DebtPosting) (left right : Tables) : Prop where
  /-- Every balance is the same but for the time of its last change. -/
  balances : left.balances.accounts = right.balances.accounts
  debtor : left.debtors.find? debt.debtorId = some changed.debtor ∧
    right.debtors.find? debt.debtorId = some renewed.debtor
  /-- The debtor is the same, stored once more. -/
  rebalanced : changed.debtor.Rebalanced (some changed.debtor.balance) renewed.debtor
  debtors : ∀ id, id ≠ debt.debtorId → left.debtors.find? id = right.debtors.find? id
  /-- All exchanges are the same, and all records and debts but those of these two. -/
  others : Tables.AlikeBut (.debt debt.id) (.debt renewed.debt.id) left right
  stored : left.debts.find? debt.id = some changed.debt
  gone : right.debts.find? debt.id = none ∧
    ∀ record ∈ right.records.rows, record.source ≠ .debt debt.id
  storedAnew : right.debts.find? renewed.debt.id = some renewed.debt
  alike : changed.debt.debtorId = renewed.debt.debtorId ∧
    changed.debt.userId = renewed.debt.userId ∧ changed.debt.kind = renewed.debt.kind ∧
    changed.debt.debted = renewed.debt.debted ∧ changed.debt.received = renewed.debt.received ∧
    changed.debt.details = renewed.debt.details
  /-- The records are alike one by one in the order in which they are listed. -/
  legs : List.Forall₂ (fun record other => record.SameLeg other ∧ record.details = other.details)
    (left.recordsWhere (Record.isOfDebt debt.id))
    (right.recordsWhere (Record.isOfDebt renewed.debt.id))
  /-- The debt keeps all that it has but for the kind, the amounts and the time of the change. -/
  kept : changed.debt = debt.reset amounts changed.debt.updatedAt
  /-- All other records, exchanges and debts are as they were. -/
  apart : Tables.Apart (.debt debt.id) before left

variable {before between left right : Tables} {debt : Debt} {amounts : DebtAmounts}

/-! ## The debtor -/

theorem Debtor.Rebalanced.find? {debtor stored : Debtor} {balance : Option Amount} {id : DebtorId}
    {debtors debtors' : Table Debtor} (hrebalanced : debtor.Rebalanced balance stored)
    (hdebtor : debtors.find? id = some debtor) (hsame : debtors'.Same (debtors.insert stored)) :
    debtors'.find? id = some stored ∧ ∀ other, other ≠ id →
      debtors'.find? other = debtors.find? other := by
  have hid : stored.id = id := by
    rw [hrebalanced.row]
    exact Table.key_of_find? hdebtor
  subst hid
  exact ⟨(hsame _).trans (Table.find?_insert_self _ _),
    fun other hother => (hsame other).trans (Table.find?_insert_of_ne _ hother)⟩

/-- To move a balance in two steps comes to the same as in one, but that it is stored twice. -/
theorem Debtor.Rebalanced.twice {debtor middle first second : Debtor} {relieved : Option Amount}
    {change : Amount} (hmiddle : debtor.Rebalanced relieved middle)
    (hfirst : debtor.Rebalanced (relieved.bind (·.add? change)) first)
    (hsecond : middle.Rebalanced (middle.balance.add? change) second) :
    first.Rebalanced (some first.balance) second := by
  have hbalance : first.balance = second.balance := by
    have h := hfirst.balance
    rw [hmiddle.balance, Option.bind_some, hsecond.balance] at h
    exact (Option.some.inj h).symm
  refine ⟨congrArg some hbalance, ?_⟩
  rw [hsecond.row, hmiddle.row, hfirst.row]

/-! ## Both ways -/

theorem forall₂_of_common {α β γ : Type} {first : α → β → Prop} {second : α → γ → Prop}
    {both : β → γ → Prop} (hboth : ∀ {a b c}, first a b → second a c → both b c) {common : List α}
    {left : List β} {right : List γ} (hleft : List.Forall₂ first common left)
    (hright : List.Forall₂ second common right) : List.Forall₂ both left right := by
  induction hleft generalizing right with
  | nil =>
    cases hright
    exact .nil
  | cons hhead _ ih =>
    cases hright with
    | cons hhead' hrest => exact .cons (hboth hhead hhead') (ih hrest)

theorem sameLeg_of_posted {place : Places} {user : UserId} {direction : Direction}
    {source source' : RecordSource} {details : Option String} {money : Money}
    {record other : Record} (hposted : record.Posted place user direction source details money)
    (hposted' : other.Posted place user direction source' details money) :
    record.SameLeg other ∧ record.details = other.details where
  left :=
    { balanceId := Option.some.inj <| by
        rw [← hposted.place, ← hposted'.place]
      kind := hposted.kind.trans hposted'.kind.symm
      money := hposted.money.trans hposted'.money.symm }
  right := hposted.details.trans hposted'.details.symm

theorem Debt.replaced {debtor middle : Debtor} {changed renewed : DebtPosting}
    (hdebtor : before.debtors.find? debt.debtorId = some debtor)
    (huser : debtor.userId = debt.userId)
    (hchanged : debt.Changed before debtor amounts changed left)
    (hgone : debt.Gone before debtor middle between) (hplace : between.place = before.place)
    (hadded : Debt.Added between middle (debt.renewal amounts) renewed right)
    (hid : renewed.debt.id ≠ debt.id)
    (hbalances : left.balances.accounts = right.balances.accounts) :
    debt.Replaced before amounts changed renewed left right := by
  -- Both ways the debtor is found again under the same name, each time as stored last.
  obtain ⟨hleft, hleftOthers⟩ := hchanged.debtor.find? hdebtor hchanged.stored.debtors
  obtain ⟨hbetween, hbetweenOthers⟩ := hgone.debtor.find? hdebtor hgone.debtors
  obtain ⟨hright, hrightOthers⟩ := hadded.debtor.find? hbetween hadded.stored.debtors
  obtain ⟨now, hrow⟩ := hadded.row
  have hsameId : changed.debt.id = debt.id := by
    rw [hchanged.row]
    rfl
  obtain ⟨hstored, -, hlisted, hlegs, hapart, husers⟩ := hchanged.stored
  rw [hsameId] at hstored hlisted hlegs hapart
  have hother : RecordSource.debt renewed.debt.id ≠ .debt debt.id :=
    fun h => hid (RecordSource.debt.inj h)
  have halike : changed.debt.debtorId = renewed.debt.debtorId ∧
      changed.debt.userId = renewed.debt.userId ∧ changed.debt.kind = renewed.debt.kind ∧
      changed.debt.debted = renewed.debt.debted ∧
      changed.debt.received = renewed.debt.received ∧
      changed.debt.details = renewed.debt.details := by
    have hmiddle : middle.id = debt.debtorId ∧ middle.userId = debt.userId :=
      ⟨Table.key_of_find? hbetween, by rw [hgone.debtor.row, ← huser]⟩
    rw [hchanged.row, hrow]
    exact ⟨hmiddle.1.symm, hmiddle.2.symm, rfl, rfl, rfl, rfl⟩
  have hlegs' := hadded.stored.legs
  have ⟨_, huserId, hkind, _, _, hdetails⟩ := halike
  rw [hplace, ← huserId, ← hkind, ← hdetails] at hlegs'
  exact
    { balances := hbalances
      debtor := ⟨hleft, hright⟩
      rebalanced := hgone.debtor.twice hchanged.debtor hadded.debtor
      debtors := fun id hne => (hleftOthers id hne).trans
        ((hbetweenOthers id hne).symm.trans (hrightOthers id hne).symm)
      others := hapart.alikeBut hgone.apart hadded.stored.apart
        (husers.trans (hgone.users.symm.trans hadded.stored.users.symm))
      stored := hstored
      gone := ⟨(hadded.stored.apart.debts debt.id hother).trans hgone.unknown,
        hadded.stored.apart.none_of_none hother hgone.records⟩
      storedAnew := hadded.stored.debt
      alike := halike
      legs := by
        rw [hlisted, hadded.stored.listed]
        refine forall₂_of_common ?_ hlegs hlegs'
        exact sameLeg_of_posted
      kept := hchanged.row
      apart := hapart }

namespace Desk

variable {limits : Limits} {desk : Desk}

theorem isOk_check_settlement (hdetails : Posting.checkDetails limits debt.details = .ok ()) :
    (settleDebt limits (debt.renewal amounts)).check.isOk =
      (updateDebt limits debt.id amounts).check.isOk := by
  change (checkDebt limits amounts debt.details).isOk = (checkDebt limits amounts none).isOk
  rw [isOk_checkDebt, isOk_checkDebt, hdetails]
  rfl

/-- What is posted anew starts where the deletion ended, and finds the debtor relieved. -/
theorem settlement_alone (hreachable : desk.ReachableUnder limits .increasing)
    (hmem : debt ∈ desk.shared.debts.rows) {debtor middle : Debtor}
    (hdebtor : desk.shared.debtors.find? debt.debtorId = some debtor)
    (huser : debtor.userId = debt.userId) {between right : World Tables}
    {undone : List Movement}
    (hmoved : Tables.Moved desk.shared.place undone desk.shared between.store)
    (hgone : debt.Gone desk.shared debtor middle between.store)
    {settled : Except LedgerError DebtPosting}
    (hsettle : ((Request.settleDebt (debt.renewal amounts)).operation limits).run
      Memory.backend between = (settled, right))
    (hincreasing : right.supply.Increasing)
    (hfresh : ∀ uuid ∈ right.supply.drawn, uuid ∉ desk.shared.uuids) :
    Tables.Enacted (updateDebt limits debt.id amounts).check.isOk desk.shared.place
      (.passed (debtor.checkCurrency amounts.debted.currency).isOk ::
        postingLegs desk.shared.place debt.userId amounts
          (debtor.balance.add? (-debt.debted.amount)))
      between.store right.store
      (fun renewed => Debt.Added between.store middle (debt.renewal amounts) renewed right.store ∧
        renewed.debt.id ≠ debt.id) settled := by
  have hunnamed : ∀ record ∈ between.store.records.rows, _ := fun record hrecord =>
    hreachable.reachable.consistent.unnamed hfresh (hgone.apart.mem_of_none hgone.records hrecord)
  have hmiddle := (hgone.debtor.find? hdebtor hgone.debtors).1
  have hcurrency : middle.checkCurrency amounts.debted.currency =
      debtor.checkCurrency amounts.debted.currency := by
    rw [hgone.debtor.row]
    rfl
  have howner : middle.userId = debt.userId := by rw [hgone.debtor.row, ← huser]
  have hright := settleDebt_alone between hmoved.onePerPair hmiddle hsettle hincreasing
    (fun record hrecord => (hunnamed record hrecord).1)
    fun record hrecord => (hunnamed record hrecord).2.2
  rw [hmoved.place_eq, isOk_check_settlement (hreachable.filed.shared.debts debt hmem), howner,
    ← hgone.debtor.balance] at hright
  rw [← hcurrency]
  refine hright.mono fun renewed ⟨hadded, hdrawn⟩ => ⟨hadded, fun hid => ?_⟩
  rw [hid] at hdrawn
  exact hfresh _ hdrawn (Twinned.mem_uuids hmem)

/-- To change a debt goes through exactly if it can be deleted and an installment with the other
amounts posted, as long as the limits stay the same; and then it comes to the same, but that the
debt is the one that was there and the debtor is stored once less. -/
theorem debt_replaced (hreachable : desk.ReachableUnder limits .increasing)
    (hmem : debt ∈ desk.shared.debts.rows) {moment moment' : Nat → Timestamp}
    {uuid uuid' : Nat → Uuid} {updated settled : Except LedgerError DebtPosting}
    {deleted : Except LedgerError Debtor} {left between right : World Tables}
    (hupdate : desk.alone limits (.updateDebt debt.id amounts) { moment, uuid } =
      (updated, left))
    (hdelete : desk.alone limits (.deleteDebt debt.id)
      { moment := moment', uuid := uuid' } = (deleted, between))
    (hsettle : ((Request.settleDebt (debt.renewal amounts)).operation limits).run
      Memory.backend between = (settled, right))
    (hincreasing : left.supply.Increasing ∧ right.supply.Increasing)
    (hfresh : ∀ uuid ∈ left.supply.drawn ++ right.supply.drawn, uuid ∉ desk.shared.uuids) :
    (updated.isOk ↔ deleted.isOk ∧ settled.isOk) ∧
      ∀ changed, updated = .ok changed → ∃ renewed, settled = .ok renewed ∧
        debt.Replaced desk.shared amounts changed renewed left.store right.store := by
  have hconsistent := hreachable.reachable.consistent
  have hone : desk.shared.balances.OnePerPair := hconsistent.balanced.unique
  obtain ⟨debtor, hdebtor, huser, -, -⟩ := hconsistent.owed.debtor debt hmem
  obtain ⟨hfreshLeft, hfreshRight⟩ := List.forall_mem_append.mp hfresh
  -- The currency may be looked at before or after the debt is taken back.
  have hsteps := (desk.shared.balances.accounts.moves_passed (unposting desk.shared debt debtor)
    (postingLegs desk.shared.place debt.userId amounts
      (debtor.balance.add? (-debt.debted.amount)))
    (debtor.checkCurrency amounts.debted.currency).isOk).symm
  have hupdated := updateDebt_alone ⟨desk.shared, _, []⟩ hone hmem hdebtor hupdate hincreasing.1
    fun record hrecord => (hconsistent.unnamed hfreshLeft hrecord).1
  have hdeleted := deleteDebt_alone ⟨desk.shared, _, []⟩ hone hmem hdebtor hdelete
  obtain ⟨hiff, hboth⟩ := hupdated.replaces hsteps hdeleted fun hmoved hgone =>
    settlement_alone hreachable hmem hdebtor huser hmoved hgone hsettle hincreasing.2 hfreshRight
  refine ⟨hiff, fun changed hresult => ?_⟩
  obtain ⟨middle, renewed, hposted, hbalances, hplace, hchanged, hgone, hadded, hid⟩ :=
    hboth changed hresult
  exact ⟨renewed, hposted,
    Debt.replaced hdebtor huser hchanged hgone hplace hadded hid hbalances⟩

/-- The user is the one who borrows, and one of the legs moves to the other balance. -/
def borrowed : DebtAmounts := ⟨.borrow, ⟨40, ⟨"EUR"⟩⟩, [⟨25, ⟨"EUR"⟩⟩, ⟨15, ⟨"USD"⟩⟩]⟩

def flipped : Except LedgerError DebtPosting × World Tables :=
  evening.alone .standard (.updateDebt lent.id borrowed) (supplied 10)

def forgiven : Except LedgerError Debtor × World Tables :=
  evening.alone .standard (.deleteDebt lent.id) (supplied 11)

def settledAnew : Except LedgerError DebtPosting × World Tables :=
  ((Request.settleDebt (lent.renewal borrowed)).operation .standard).run Memory.backend
    forgiven.2

set_option maxRecDepth 100000 in
theorem isOk_flipped : flipped.1.isOk = true := by decide_cbv

set_option maxRecDepth 100000 in
theorem supply_flipped :
    flipped.2.supply = { supplied 10 with readings := 9, issued := 2 } := by
  cbv

set_option maxRecDepth 100000 in
theorem supply_settledAnew :
    settledAnew.2.supply = { supplied 11 with readings := 9, issued := 3 } := by
  cbv

theorem debt_replaced_lent :
    flipped.1.isOk ∧ forgiven.1.isOk ∧ settledAnew.1.isOk ∧
      ∀ changed, flipped.1 = .ok changed → ∃ renewed, settledAnew.1 = .ok renewed ∧
        lent.Replaced evening.shared borrowed changed renewed flipped.2.store
          settledAnew.2.store := by
  have hincreasing : flipped.2.supply.Increasing ∧ settledAnew.2.supply.Increasing := by
    rw [supply_flipped, supply_settledAnew]
    decide +kernel
  have hfresh : ∀ uuid ∈ flipped.2.supply.drawn ++ settledAnew.2.supply.drawn,
      uuid ∉ evening.shared.uuids := by
    rw [supply_flipped, supply_settledAnew]
    decide +kernel
  obtain ⟨hiff, hreplaced⟩ := debt_replaced evening_reachableUnder
    (by decide +kernel : lent ∈ evening.shared.debts.rows) (@rfl _ flipped) (@rfl _ forgiven)
    (@rfl _ settledAnew) hincreasing hfresh
  obtain ⟨hdeleted, hsettled⟩ := hiff.mp isOk_flipped
  exact ⟨isOk_flipped, hdeleted, hsettled, hreplaced⟩

end Desk

end CashLedger
