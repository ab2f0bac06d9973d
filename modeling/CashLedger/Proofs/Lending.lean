import CashLedger.Proofs.Alone.Debts
import CashLedger.Proofs.Engine.Refusals
import CashLedger.Proofs.Funds

/-!
# Lending and borrowing in many legs

The legs of a debt are posted one by one, and several may be in one currency.  All the same a debt
can be posted exactly if in each currency the user's balance covers the sum of the legs, or has
room for it; and each of these balances then moves by that sum.  So the order of the legs matters
only for the order of their records.
-/

namespace CashLedger

open Engine

/-- What is owed counts below nothing if it was lent. -/
def DebtKind.owed (kind : DebtKind) (quantity : Int) : Int :=
  match kind with
  | .lend => -quantity
  | .borrow => quantity

/-- The tables after the legs of a debt were posted for a user, with the debtor and the debt of
the posting. -/
structure DebtPosting.Spread (before : Tables) (posting : DebtPosting) (user : UserId)
    (kind : DebtKind) (legs : List Money) (last : Supply) (after : Tables) : Prop where
  /-- Each balance of the user has moved by the sum of the legs in its currency, and its version
  by their number; where there are none, and for all others, the row is as it was. -/
  balances : before.balances.Shifted (Money.postedOn user kind.direction legs) after.balances
  /-- One record for each leg, in the order of the legs. -/
  legs : List.Forall₂ (Record.Posted before.place user kind.direction (.debt posting.debt.id)
    posting.debt.details) legs posting.records
  others : after.Same { before with
    balances := after.balances
    records := posting.records.foldl Table.insert before.records
    debtors := before.debtors.insert posting.debtor
    debts := before.debts.insert posting.debt }
  added : last.New before → after.records.rows.Perm (posting.records ++ before.records.rows)
  /-- In this order they are listed, too. -/
  listed : last.New before → last.Increasing →
    after.recordsWhere (Record.isOfDebt posting.debt.id) = posting.records

/-- How a debt with somebody new ends. -/
structure NewDebt.Opens (before : Tables) (request : NewDebt)
    (result : Except LedgerError DebtPosting) (last : Supply) (after : Tables) : Prop where
  isOk : result.isOk ↔ (∃ user, before.users.find? request.userId = some user) ∧
    before.Affords request.userId request.kind.direction request.received
  posted : ∀ posting, result = .ok posting →
    posting.debtor.balance.toInt = request.kind.owed request.debted.amount.toInt ∧
      posting.Spread before request.userId request.kind request.received last after

/-- How one more debt with a debtor ends. -/
structure DebtInstallment.Settles (before : Tables) (request : DebtInstallment)
    (result : Except LedgerError DebtPosting) (last : Supply) (after : Tables) : Prop where
  isOk : result.isOk ↔ ∃ debtor, before.debtors.find? request.debtorId = some debtor ∧
    debtor.currency = request.debted.currency ∧
    before.Affords debtor.userId request.kind.direction request.received ∧
    Amount.Fits (debtor.balance.toInt + request.kind.owed request.debted.amount.toInt)
  posted : ∀ posting, result = .ok posting → ∃ debtor,
    before.debtors.find? request.debtorId = some debtor ∧
      posting.debtor.balance.toInt =
        debtor.balance.toInt + request.kind.owed request.debted.amount.toInt ∧
      posting.debtor = { debtor with
        balance := posting.debtor.balance, version := debtor.version + 1,
        updatedAt := posting.debtor.updatedAt } ∧
      posting.Spread before debtor.userId request.kind request.received last after

/-- Two postings that go through together, and then leave the same totals. -/
structure DebtPosting.SameTotals (result result' : Except LedgerError DebtPosting)
    (after after' : Tables) : Prop where
  isOk : result.isOk ↔ result'.isOk
  totals : ∀ posting posting', result = .ok posting → result' = .ok posting' →
    after.balances.accounts = after'.balances.accounts ∧
      posting.debtor.balance = posting'.debtor.balance

/-! ## What is checked -/

namespace Engine

variable {limits : Limits} {amounts : DebtAmounts} {details : Option String}

theorem isOk_checkLegs_iff {legs : List Money} :
    (checkLegs legs).isOk ↔ ∀ money ∈ legs, 0 < money.amount.toInt := by
  induction legs with
  | nil => exact iff_of_true rfl nofun
  | cons money rest ih =>
    have hcons : (checkLegs (money :: rest)).isOk =
        ((Posting.checkLeg money).isOk && (checkLegs rest).isOk) := Except.isOk_bind _ _
    rw [hcons, Bool.and_eq_true, ih, List.forall_mem_cons, Except.isOk_iff, Posting.checkLeg,
      checkPositive_eq_ok_iff]

theorem positive_of_checkDebt_received (hcheck : checkDebt limits amounts details = .ok ()) :
    ∀ money ∈ amounts.received, 0 < money.amount.toInt := by
  rw [← Except.isOk_iff, isOk_checkDebt] at hcheck
  simp only [Bool.and_eq_true] at hcheck
  exact isOk_checkLegs_iff.mp hcheck.2.2.1

theorem isOk_checkCurrency_iff {debtor : Debtor} {currency : Currency} :
    (debtor.checkCurrency currency).isOk ↔ debtor.currency = currency := by
  unfold Debtor.checkCurrency
  split
  · next hsame => exact iff_of_true rfl hsame
  · next hother => exact iff_of_false nofun hother

/-- The order of the legs does not matter to the check. -/
theorem checkDebt_of_perm (hcheck : checkDebt limits amounts details = .ok ())
    {legs : List Money} (hperm : legs.Perm amounts.received) :
    checkDebt limits { amounts with received := legs } details = .ok () := by
  rw [← Except.isOk_iff, isOk_checkDebt] at hcheck ⊢
  simp only [Bool.and_eq_true, isOk_checkLegs_iff] at hcheck ⊢
  obtain ⟨hdebted, hfew, hlegs, hdetails⟩ := hcheck
  exact ⟨hdebted, hperm.length_eq ▸ hfew, fun money hmem => hlegs money (hperm.subset hmem),
    hdetails⟩

end Engine

/-! ## What is posted -/

theorem DebtPosting.spread {promise : Promise} {before after : Tables} {posting : DebtPosting}
    {user : UserId} {kind : DebtKind} {legs : List Money} {movements : List Movement}
    {last : Course} (hconsistent : before.Consistent promise)
    (hmoved : Tables.Moved before.place movements before after)
    (htally : Movement.tallyAll movements =
      Movement.tallyAll (legs.map (Money.posting before.place user kind.direction)))
    (howner : posting.debt.userId = user ∧ posting.debt.kind = kind)
    (hdrawn : posting.debt.id.uuid ∈ last.supply.drawn)
    (hlegs : DebtLegs before.place posting.debt legs posting.records last.supply)
    (hleaves : last.Leaves before (posting.records.foldl Table.insert before.records)
      before.exchanges (before.debtors.insert posting.debtor)
      (before.debts.insert posting.debt))
    (hsame : after.Same last.unit.working) :
    posting.Spread before user kind legs last.supply after where
  balances := hmoved.shifted fun balance hmem => by
    rw [htally]
    exact Tables.tallyAll_posting hconsistent.balanced.unique hmem user kind.direction legs
  legs := by
    obtain ⟨rfl, rfl⟩ := howner
    exact hlegs.posted
  others := hleaves.same_of_moved hsame
  added hnew := hnew.perm hlegs.drawn (hlegs.distinct hnew.distinct) (hleaves.same hsame).records
  listed hnew hincreasing := by
    have hunnamed : ∀ record ∈ before.records.rows, _ := fun record hrecord =>
      hconsistent.unnamed hnew.fresh hrecord
    exact (stored_of_leaves hsame hlegs hleaves hincreasing
      (fun record hrecord hsource => (hunnamed record hrecord).2.2 _ hsource hdrawn)
      (fun _ _ => .rfl) fun record hrecord => (hunnamed record hrecord).1).listed

/-! ## The order of the legs -/

section Order

variable {legs more : List Money}

theorem Money.postedOn_perm (hperm : legs.Perm more) (user : UserId) (direction : Direction) :
    postedOn user direction legs = postedOn user direction more := by
  funext balance
  rw [postedOn, postedOn, totalIn_perm hperm, countIn_perm hperm]

theorem Tables.affords_perm (hperm : legs.Perm more) {tables : Tables} {user : UserId}
    {direction : Direction} :
    tables.Affords user direction legs ↔ tables.Affords user direction more := by
  simp only [Affords, hperm.mem_iff, Money.totalIn_perm hperm]

variable {before after after' : Tables} {result result' : Except LedgerError DebtPosting}
  {last last' : Supply}

theorem DebtPosting.Spread.accounts_eq {posting posting' : DebtPosting} {user : UserId}
    {kind : DebtKind} (hperm : legs.Perm more)
    (hspread : posting.Spread before user kind more last after)
    (hspread' : posting'.Spread before user kind legs last' after') :
    after.balances.accounts = after'.balances.accounts := by
  have hbalances := hspread'.balances
  rw [Money.postedOn_perm hperm] at hbalances
  exact hspread.balances.accounts_eq hbalances

theorem NewDebt.Opens.sameTotals {request : NewDebt} (hperm : legs.Perm request.received)
    (hopens : request.Opens before result last after)
    (hopens' : NewDebt.Opens before { request with received := legs } result' last' after') :
    DebtPosting.SameTotals result result' after after' where
  isOk := by
    rw [hopens.isOk, hopens'.isOk]
    exact and_congr_right fun _ => (Tables.affords_perm hperm).symm
  totals posting posting' hposting hposting' := by
    obtain ⟨hbalance, hspread⟩ := hopens.posted posting hposting
    obtain ⟨hbalance', hspread'⟩ := hopens'.posted posting' hposting'
    exact ⟨hspread.accounts_eq hperm hspread', Int64.toInt_inj.mp (hbalance.trans hbalance'.symm)⟩

theorem DebtInstallment.Settles.sameTotals {request : DebtInstallment}
    (hperm : legs.Perm request.received)
    (hsettles : request.Settles before result last after)
    (hsettles' : DebtInstallment.Settles before { request with received := legs } result' last'
      after') :
    DebtPosting.SameTotals result result' after after' where
  isOk := by
    rw [hsettles.isOk, hsettles'.isOk]
    simp only [Tables.affords_perm hperm]
  totals posting posting' hposting hposting' := by
    obtain ⟨debtor, hfind, hbalance, -, hspread⟩ := hsettles.posted posting hposting
    obtain ⟨debtor', hfind', hbalance', -, hspread'⟩ := hsettles'.posted posting' hposting'
    obtain rfl : debtor = debtor' := Option.some.inj (hfind.symm.trans hfind')
    exact ⟨hspread.accounts_eq hperm hspread', Int64.toInt_inj.mp (hbalance.trans hbalance'.symm)⟩

end Order

/-! ## Each of the two -/

namespace Desk

variable {promise : Promise} {limits : Limits} {desk : Desk} {supply : Supply}
  {result : Except LedgerError DebtPosting} {world : World Tables}

theorem createDebt_opens (hreachable : desk.Reachable promise) {request : NewDebt}
    (hcheck : (createDebt limits request).check = .ok ())
    (hrun : desk.alone limits (.createDebt request) supply = (result, world)) :
    request.Opens desk.shared result world.supply world.store := by
  have hconsistent := hreachable.consistent
  have hbalanced := hconsistent.balanced
  obtain ⟨-, hdebt⟩ := check_createDebt_eq_ok_iff.mp hcheck
  have howed : (request.kind.signed request.debted.amount).toInt =
      request.kind.owed request.debted.amount.toInt :=
    request.kind.toInt_signed (positive_of_checkDebt hdebt)
  have hlegs : ∀ money ∈ request.received, 0 < money.amount.toInt :=
    positive_of_checkDebt_received hdebt
  cases hfind : desk.shared.users.find? request.userId with
  | none =>
    obtain ⟨rfl, -⟩ := Request.eq_of_run_failed hrun hcheck
      (Work.perform_bind_of_error (Posting.perform_findUser_of_none hfind))
    exact ⟨iff_of_false Bool.false_ne_true fun h => by simpa [hfind] using h.1,
      fun _ h => by cases h⟩
  | some user =>
    have henacted := Request.alone (enacts_createDebt hbalanced.unique hfind) rfl
      (by rintro _ _ ⟨⟩) hrun
    constructor
    · have hpassed : (Amount.add? 0 (request.kind.signed request.debted.amount)).isSome := by
        rw [Amount.isSome_add?_iff, Int64.toInt_zero, Int.zero_add]
        exact Amount.fits_toInt _
      refine (henacted.isOk_iff (congrArg Except.isOk hcheck)).trans
        (Accounts.isSome_moves_passed.trans ((and_iff_right hpassed).trans ?_))
      refine (hbalanced.isSome_posting_iff _ _ hlegs).trans ?_
      rw [hfind]
      exact (and_iff_right ⟨user, rfl⟩).symm
    · rintro posting rfl
      obtain ⟨hmoved, last, hopened, hsame, hsupply⟩ := henacted.ok rfl
      obtain ⟨owner, now, howner, hcounts⟩ := hopened.debtor
      obtain ⟨now', hrow⟩ := hopened.row
      have huser : posting.debt.userId = request.userId := by
        rw [hrow]
        change posting.debtor.userId = request.userId
        rw [hcounts.row]
        exact Table.key_of_find? howner
      have hbalance := Amount.add?_eq_some_iff.mp hcounts.balance
      rw [howed] at hbalance
      rw [hsupply]
      refine ⟨hbalance.trans (Int.zero_add _), DebtPosting.spread hconsistent hmoved
        (Movement.tallyAll_passed _ _) ⟨huser, by rw [hrow]; rfl⟩ hopened.drawn.2 hopened.legs
        hopened.leaves hsame⟩

theorem settleDebt_settles (hreachable : desk.Reachable promise) {request : DebtInstallment}
    (hcheck : (settleDebt limits request).check = .ok ())
    (hrun : desk.alone limits (.settleDebt request) supply = (result, world)) :
    request.Settles desk.shared result world.supply world.store := by
  have hconsistent := hreachable.consistent
  have hbalanced := hconsistent.balanced
  have howed : (request.kind.signed request.debted.amount).toInt =
      request.kind.owed request.debted.amount.toInt :=
    request.kind.toInt_signed (positive_of_checkDebt hcheck)
  have hlegs : ∀ money ∈ request.received, 0 < money.amount.toInt :=
    positive_of_checkDebt_received hcheck
  cases hfind : desk.shared.debtors.find? request.debtorId with
  | none =>
    obtain ⟨rfl, -⟩ := Request.eq_of_run_failed hrun hcheck
      (Work.perform_bind_of_error (perform_findDebtor_of_none hfind))
    exact ⟨iff_of_false Bool.false_ne_true fun h => by simp [hfind] at h, fun _ h => by cases h⟩
  | some debtor =>
    have henacted := Request.alone (enacts_settleDebt hbalanced.unique hfind) rfl
      (by rintro _ _ ⟨⟩) hrun
    constructor
    · refine (henacted.isOk_iff (congrArg Except.isOk hcheck)).trans
        (Accounts.isSome_moves_passed.trans ?_)
      rw [Accounts.isSome_moves_append_passed, isOk_checkCurrency_iff, Amount.isSome_add?_iff,
        howed]
      refine (and_congr_right fun _ => and_congr_right fun _ =>
        hbalanced.isSome_posting_iff _ _ hlegs).trans ?_
      simp [hfind, and_comm]
    · rintro posting rfl
      obtain ⟨hmoved, last, hsettled, hsame, hsupply⟩ := henacted.ok rfl
      obtain ⟨now, hrow⟩ := hsettled.row
      have hbalance := Amount.add?_eq_some_iff.mp hsettled.debtor.balance
      rw [howed] at hbalance
      rw [hsupply]
      refine ⟨debtor, hfind, hbalance, hsettled.debtor.row, DebtPosting.spread hconsistent hmoved
        ?_ ⟨by rw [hrow]; rfl, by rw [hrow]; rfl⟩ hsettled.drawn hsettled.legs hsettled.leaves
        hsame⟩
      rw [Movement.tallyAll_passed, Movement.tallyAll_append_passed]

/-- On any desk, and however many legs there are: whoever passes the checks can lend or borrow,
alone, exactly if there is somebody to do so and in each currency the balance covers the sum of
the legs or has room for it; then each of these balances has moved by the sum, and there is one
record for each leg.  The order of the legs matters neither to the one nor to the other. -/
theorem reachable_lends (hreachable : desk.Reachable promise) (limits : Limits)
    (supply supply' : Supply) :
    (∀ request : NewDebt, (createDebt limits request).check = .ok () →
      ∀ result world, desk.alone limits (.createDebt request) supply = (result, world) →
        request.Opens desk.shared result world.supply world.store ∧
        ∀ legs, legs.Perm request.received → ∀ result' world',
          desk.alone limits (.createDebt { request with received := legs }) supply' =
            (result', world') →
          DebtPosting.SameTotals result result' world.store world'.store) ∧
      ∀ request : DebtInstallment, (settleDebt limits request).check = .ok () →
        ∀ result world, desk.alone limits (.settleDebt request) supply = (result, world) →
          request.Settles desk.shared result world.supply world.store ∧
          ∀ legs, legs.Perm request.received → ∀ result' world',
            desk.alone limits (.settleDebt { request with received := legs }) supply' =
              (result', world') →
            DebtPosting.SameTotals result result' world.store world'.store := by
  constructor
  · intro request hcheck result world hrun
    have hopens := createDebt_opens hreachable hcheck hrun
    refine ⟨hopens, fun legs hperm result' world' hrun' => hopens.sameTotals hperm
      (createDebt_opens hreachable ?_ hrun')⟩
    obtain ⟨hname, hdebt⟩ := check_createDebt_eq_ok_iff.mp hcheck
    exact check_createDebt_eq_ok_iff.mpr ⟨hname, checkDebt_of_perm hdebt hperm⟩
  · intro request hcheck result world hrun
    have hsettles := settleDebt_settles hreachable hcheck hrun
    exact ⟨hsettles, fun legs hperm result' world' hrun' => hsettles.sameTotals hperm
      (settleDebt_settles hreachable (checkDebt_of_perm hcheck hperm) hrun')⟩

/-- A loan of all the dollars that there are, in two legs, and of some euros. -/
def loan : NewDebt :=
  ⟨cashier.id, "Bob", none, .lend, ⟨35, ⟨"EUR"⟩⟩,
    [⟨12, ⟨"USD"⟩⟩, ⟨5, ⟨"EUR"⟩⟩, ⟨18, ⟨"USD"⟩⟩], none⟩

def loaned : Except LedgerError DebtPosting × World Tables :=
  evening.alone .standard (.createDebt loan) (supplied 10)

/-- The same with the legs in the other order. -/
def loanedBackward : Except LedgerError DebtPosting × World Tables :=
  evening.alone .standard (.createDebt { loan with received := loan.received.reverse })
    (supplied 11)

/-- The debtor of the day pays some money back. -/
def repayment : DebtInstallment :=
  ⟨⟨⟨5000⟩⟩, .borrow, ⟨20, ⟨"EUR"⟩⟩, [⟨15, ⟨"USD"⟩⟩, ⟨5, ⟨"USD"⟩⟩], none⟩

def repaid : Except LedgerError DebtPosting × World Tables :=
  evening.alone .standard (.settleDebt repayment) (supplied 10)

set_option maxRecDepth 100000 in
theorem isOk_loaned : loaned.1.isOk = true ∧ repaid.1.isOk = true := by decide_cbv

set_option maxRecDepth 100000 in
theorem supply_loaned :
    loaned.2.supply = { supplied 10 with readings := 9, issued := 5 } := by
  cbv

theorem lends_evening :
    (loaned.1.isOk = true ∧ repaid.1.isOk = true) ∧ loaned.2.supply.New evening.shared ∧
      loan.Opens evening.shared loaned.1 loaned.2.supply loaned.2.store ∧
      DebtPosting.SameTotals loaned.1 loanedBackward.1 loaned.2.store loanedBackward.2.store ∧
      repayment.Settles evening.shared repaid.1 repaid.2.supply repaid.2.store := by
  have hnew : loaned.2.supply.New evening.shared := by
    rw [supply_loaned]
    exact ⟨by decide +kernel, by decide +kernel⟩
  obtain ⟨hopens, hsettles⟩ :=
    reachable_lends (evening_reachable .distinct) .standard (supplied 10) (supplied 11)
  obtain ⟨hloan, horder⟩ := hopens loan (by decide +kernel) _ _ (@rfl _ loaned)
  exact ⟨isOk_loaned, hnew, hloan,
    horder _ (List.reverse_perm _) _ _ (@rfl _ loanedBackward),
    (hsettles repayment (by decide +kernel) _ _ (@rfl _ repaid)).1⟩

end Desk

end CashLedger
