import CashLedger.Proofs.Conduct
import CashLedger.Proofs.Legs

/-!
# Revisions

A balance or debtor is only ever stored as a revision of one that was just found.  A
balance is found and, as the very next call, stored with one leg applied or taken
back; a debtor may be found earlier, and is stored with the balance moved by what the
request is worth.  The rows that the store answers may be any rows.
-/

namespace CashLedger

/-- Only the least amount cannot be turned around. -/
theorem Amount.toInt_neg {amount : Amount} (hne : amount ≠ Int64.minValue) :
    (-amount).toInt = -amount.toInt := by
  have hlow := Int64.le_toInt amount
  have hhigh := Int64.toInt_lt amount
  have hmin : amount.toInt ≠ -9223372036854775808 := fun h => hne (Int64.toInt_inj.mp h)
  rw [Int64.toInt_neg, Int.bmod_eq_of_le (by omega) (by omega)]

/-- The same balance after one leg, applied or taken back. -/
def Balance.Revised (balance after : Balance) : Prop :=
  ∃ leg now, balance.Applied leg now after ∨ balance.Undone leg now after

theorem Balance.Revised.exists_sameRow {balance after : Balance}
    (hrevised : balance.Revised after) : ∃ now, balance.SameRow after now := by
  obtain ⟨leg, now, h | h⟩ := hrevised
  · exact ⟨now, h.sameRow⟩
  · exact ⟨now, h.sameRow⟩

/-- What takes from a balance leaves it at zero or more. -/
theorem Balance.Revised.funds_nonneg {balance after : Balance}
    (hrevised : balance.Revised after) (hlower : after.funds.toInt < balance.funds.toInt) :
    0 ≤ after.funds.toInt := by
  obtain ⟨⟨direction, amount⟩, now, h | h⟩ := hrevised
  · have hpositive : 0 < amount.toInt := h.positive
    have hcovered : direction = .debit → amount.toInt ≤ balance.funds.toInt := h.covered
    have hfunds := h.funds
    cases direction with
    | debit =>
      simp only [Leg.incoming, Leg.outgoing] at hfunds
      have := hcovered rfl
      omega
    | credit =>
      simp only [Leg.incoming, Leg.outgoing] at hfunds
      omega
  · have hpositive : 0 < amount.toInt := h.positive
    have hcovered : direction = .credit → amount.toInt ≤ balance.funds.toInt := h.covered
    have hfunds := h.funds
    cases direction with
    | debit =>
      simp only [Leg.incoming, Leg.outgoing] at hfunds
      omega
    | credit =>
      simp only [Leg.incoming, Leg.outgoing] at hfunds
      have := hcovered rfl
      omega

/-- The same debtor with a balance that has moved by some amount. -/
structure Debtor.Revised (debtor : Debtor) (change : Int) (after : Debtor) : Prop where
  sameRow : ∃ now, after = { debtor with balance := after.balance, updatedAt := now }
  balance : after.balance.toInt = debtor.balance.toInt + change

namespace Debtor.Revised

variable {first middle last : Debtor} {change more : Int}

theorem of_adjust {amount : Amount} {now : Timestamp}
    (hadjust : first.adjust amount now = .ok last) : first.Revised amount.toInt last := by
  simp only [adjust] at hadjust
  split at hadjust
  · next balance hsum =>
    cases hadjust
    exact ⟨⟨now, rfl⟩, Amount.add?_eq_some_iff.mp hsum⟩
  · cases hadjust

theorem trans (hfirst : first.Revised change middle) (hlast : middle.Revised more last) :
    first.Revised (change + more) last where
  sameRow := by
    obtain ⟨_, hmiddle⟩ := hfirst.sameRow
    obtain ⟨now, hafter⟩ := hlast.sameRow
    refine ⟨now, ?_⟩
    rw [hafter, hmiddle]
  balance := by
    rw [hlast.balance, hfirst.balance]
    omega

end Debtor.Revised

/-- The call found a balance. -/
inductive Answered.Found (balance : Balance) : Answered → Prop
  | byId (id : BalanceId) : Found balance ⟨.balanceById id, some balance⟩
  | byOwner (user : UserId) (currency : Currency) :
      Found balance ⟨.balanceFor user currency, some balance⟩

/-- A row that is stored is one that was found before, revised. -/
def Call.Revises (moves : List Answered → Int → Prop) (past : List Answered) : Call → Prop
  | updateBalance after => ∃ earlier last balance,
    past = earlier ++ [last] ∧ last.Found balance ∧ balance.Revised after
  | updateDebtor after => ∃ id debtor change,
    ⟨debtorById id, some debtor⟩ ∈ past ∧ moves past change ∧ debtor.Revised change after
  | _ => True

/-- What a request moves a debtor by, given the debts that were found. -/
def Request.Moves : Request → List Answered → Int → Prop
  | settleDebt wanted, _, change => change = (wanted.kind.signed wanted.debted.amount).toInt
  | updateDebt id amounts, past, change => ∃ debt, ⟨.debtById id, some debt⟩ ∈ past ∧
    (debt.debted.amount ≠ Int64.minValue →
      change = -debt.debted.amount.toInt + (amounts.kind.signed amounts.debted.amount).toInt)
  | deleteDebt id, past, change => ∃ debt, ⟨.debtById id, some debt⟩ ∈ past ∧
    (debt.debted.amount ≠ Int64.minValue → change = -debt.debted.amount.toInt)
  | _, _, _ => False

open Work

/-! ## Steps -/

section Steps

variable {moves : List Answered → Int → Prop} {past : List Answered}

theorem Call.revises_of_isRead {request : Call} (hread : request.isRead = true) :
    request.Revises moves past := by
  cases request with
  | updateBalance _ | updateDebtor _ => cases hread
  | _ => trivial

theorem Posting.revises_findUser {id : UserId} {post : List Answered → User → Prop}
    (hpost : ∀ user, post (past ++ [⟨.userById id, some user⟩]) user) :
    (findUser id).Obeys (Call.Revises moves) post past := by
  refine obeys_bind.mpr ⟨trivial, fun found => ?_⟩
  cases found with
  | none => trivial
  | some user => exact hpost user

theorem Posting.revises_applyLeg {user : UserId} {money : Money} {direction : Direction}
    {post : List Answered → Balance → Prop} (hpost : ∀ more balance, post (past ++ more) balance) :
    (applyLeg user money direction).Obeys (Call.Revises moves) post past := by
  refine obeys_bind.mpr (obeys_bind.mpr ⟨trivial, fun found => ?_⟩)
  refine obeys_require.mpr fun balance hfound => ?_
  subst hfound
  refine obeys_bind.mpr fun now => obeys_bind.mpr (obeys_check.mpr fun after hafter => ?_)
  have happlied := Balance.settled_apply_eq_ok_iff.mp hafter
  refine ⟨⟨past, _, balance, rfl, .byOwner _ _, _, now, .inl happlied⟩, fun stored => ?_⟩
  rw [List.append_assoc]
  exact hpost _ stored

theorem Posting.revises_postLeg {user : UserId} {money : Money} {direction : Direction}
    {source : RecordSource} {details : Option String} {post : List Answered → Record → Prop}
    (hpost : ∀ more record, post (past ++ more) record) :
    (postLeg user money direction source details).Obeys (Call.Revises moves) post past := by
  refine obeys_bind.mpr (revises_applyLeg fun more balance => ?_)
  refine obeys_bind.mpr fun now => obeys_bind.mpr fun uuid => obeys_bind.mpr ⟨trivial, fun _ => ?_⟩
  rw [List.append_assoc]
  exact hpost _ _

theorem Posting.revises_reverseRecord {record : Record} {post : List Answered → Balance → Prop}
    (hpost : ∀ more balance, post (past ++ more) balance) :
    (reverseRecord record).Obeys (Call.Revises moves) post past := by
  refine obeys_bind.mpr ⟨trivial, fun found => obeys_bind.mpr ?_⟩
  refine obeys_require.mpr fun balance (hfound : found = some balance) => ?_
  subst hfound
  refine obeys_bind.mpr fun now => obeys_bind.mpr (obeys_check.mpr fun after hafter => ?_)
  have hundone := Balance.settled_reverse_eq_ok_iff.mp hafter
  refine ⟨⟨past, _, balance, rfl, .byId _, _, now, .inr hundone⟩, fun stored => ?_⟩
  rw [List.append_assoc]
  exact hpost _ stored

theorem Posting.revises_reverseRecords {records : List Record} {post : List Answered → Unit → Prop}
    (hpost : ∀ more done, post (past ++ more) done) :
    (reverseRecords records).Obeys (Call.Revises moves) post past := by
  induction records generalizing past with
  | nil =>
    have hdone := hpost [] ()
    rw [List.append_nil] at hdone
    exact hdone
  | cons record rest ih =>
    refine obeys_bind.mpr (revises_reverseRecord fun more balance => ih fun others done => ?_)
    rw [List.append_assoc]
    exact hpost _ done

theorem Engine.revises_repostRecords {user : UserId} {amounts : ExchangeAmounts}
    {records : List Record} {post : List Answered → Unit → Prop}
    (hpost : ∀ more done, post (past ++ more) done) :
    (repostRecords user amounts records).Obeys (Call.Revises moves) post past := by
  induction records generalizing past with
  | nil =>
    have hdone := hpost [] ()
    rw [List.append_nil] at hdone
    exact hdone
  | cons record rest ih =>
    refine obeys_bind.mpr (Posting.revises_reverseRecord fun more _ => ?_)
    refine obeys_bind.mpr (Posting.revises_applyLeg fun others balance => ?_)
    refine obeys_bind.mpr fun now => obeys_bind.mpr ⟨trivial, fun _ => ih fun last done => ?_⟩
    rw [List.append_assoc, List.append_assoc, List.append_assoc]
    exact hpost _ done

theorem Engine.revises_postDebtLegs {debt : Debt} {legs : List Money}
    {post : List Answered → List Record → Prop}
    (hpost : ∀ more records, post (past ++ more) records) :
    (postDebtLegs debt legs).Obeys (Call.Revises moves) post past := by
  induction legs generalizing past post with
  | nil =>
    have hdone := hpost [] []
    rw [List.append_nil] at hdone
    exact hdone
  | cons money rest ih =>
    refine obeys_bind.mpr (Posting.revises_postLeg fun more record => ?_)
    refine obeys_bind.mpr (ih fun others records => ?_)
    change post _ _
    rw [List.append_assoc]
    exact hpost _ _

theorem Engine.revises_findFreeRecord {id : RecordId} {post : List Answered → Record → Prop}
    (hpost : ∀ record, post (past ++ [⟨.recordById id, some record⟩]) record) :
    (findFreeRecord id).Obeys (Call.Revises moves) post past := by
  refine obeys_bind.mpr ⟨trivial, fun found => obeys_bind.mpr ?_⟩
  refine obeys_require.mpr fun record (hfound : found = some record) => ?_
  subst hfound
  split
  · trivial
  · exact hpost record

theorem Engine.revises_findDebtor {id : DebtorId} {post : List Answered → Debtor → Prop}
    (hpost : ∀ debtor, post (past ++ [⟨.debtorById id, some debtor⟩]) debtor) :
    (findDebtor id).Obeys (Call.Revises moves) post past := by
  refine obeys_bind.mpr ⟨trivial, fun found => ?_⟩
  cases found with
  | none => trivial
  | some debtor => exact hpost debtor

theorem Engine.revises_findDebt {id : DebtId} {post : List Answered → Debt → Prop}
    (hpost : ∀ debt, post (past ++ [⟨.debtById id, some debt⟩]) debt) :
    (findDebt id).Obeys (Call.Revises moves) post past := by
  refine obeys_bind.mpr ⟨trivial, fun found => ?_⟩
  cases found with
  | none => trivial
  | some debt => exact hpost debt

theorem Engine.revises_adjustDebtor {debtor : Debtor} {amount : Amount}
    {post : List Answered → Debtor → Prop}
    (hpost : ∀ after, debtor.Revised amount.toInt after → post past after) :
    (adjustDebtor debtor amount).Obeys (Call.Revises moves) post past :=
  obeys_bind.mpr fun _ => obeys_check.mpr fun after hadjust => hpost after (.of_adjust hadjust)

theorem Engine.revises_unpostDebt {debt : Debt} {debtor : Debtor}
    {post : List Answered → Debtor → Prop}
    (hpost : ∀ more after, debtor.Revised (-debt.debted.amount).toInt after →
      post (past ++ more) after) :
    (unpostDebt debt debtor).Obeys (Call.Revises moves) post past := by
  refine obeys_bind.mpr ⟨trivial, fun records => ?_⟩
  refine obeys_bind.mpr (Posting.revises_reverseRecords fun more _ => ?_)
  refine obeys_bind.mpr ⟨trivial, fun _ => revises_adjustDebtor fun after hrevised => ?_⟩
  rw [List.append_assoc, List.append_assoc]
  exact hpost _ after hrevised

end Steps

/-! ## Requests -/

namespace Request

variable {limits : Limits}

theorem revises_settleDebt (wanted : DebtInstallment) :
    ((settleDebt wanted).operation limits).work.Obeys
      (Call.Revises (settleDebt wanted).Moves) (fun _ _ => True) [] := by
  refine obeys_bind.mpr (Engine.revises_findDebtor fun debtor => ?_)
  refine obeys_bind.mpr (obeys_check.mpr fun _ _ => ?_)
  refine obeys_bind.mpr (obeys_bind.mpr fun now => obeys_bind.mpr fun uuid => ?_)
  refine obeys_bind.mpr ⟨trivial, fun _ => ?_⟩
  refine obeys_bind.mpr (Engine.revises_postDebtLegs fun more records => ?_)
  refine obeys_bind.mpr (Engine.revises_adjustDebtor fun after hrevised => ?_)
  refine obeys_bind.mpr ⟨⟨wanted.debtorId, debtor, _, ?_, rfl, hrevised⟩, fun _ => trivial⟩
  simp

theorem revises_updateDebt (id : DebtId) (amounts : DebtAmounts) :
    ((updateDebt id amounts).operation limits).work.Obeys
      (Call.Revises (updateDebt id amounts).Moves) (fun _ _ => True) [] := by
  refine obeys_bind.mpr (Engine.revises_findDebt fun debt => ?_)
  refine obeys_bind.mpr (Engine.revises_findDebtor fun debtor => ?_)
  refine obeys_bind.mpr (obeys_check.mpr fun _ _ => ?_)
  refine obeys_bind.mpr (Engine.revises_unpostDebt fun more middle hfirst => ?_)
  refine obeys_bind.mpr fun now => ?_
  refine obeys_bind.mpr (Engine.revises_postDebtLegs fun others records => ?_)
  refine obeys_bind.mpr (Engine.revises_adjustDebtor fun after hlast => ?_)
  refine obeys_bind.mpr
    ⟨⟨debt.debtorId, debtor, _, ?_, ⟨debt, ?_, fun hne => ?_⟩, hfirst.trans hlast⟩, fun _ => ?_⟩
  · simp
  · simp
  · rw [Amount.toInt_neg hne]
    rfl
  · exact obeys_bind.mpr ⟨trivial, fun _ => trivial⟩

theorem revises_deleteDebt (id : DebtId) :
    ((deleteDebt id).operation limits).work.Obeys
      (Call.Revises (deleteDebt id).Moves) (fun _ _ => True) [] := by
  refine obeys_bind.mpr (Engine.revises_findDebt fun debt => ?_)
  refine obeys_bind.mpr (Engine.revises_findDebtor fun debtor => ?_)
  refine obeys_bind.mpr (Engine.revises_unpostDebt fun more after hrevised => ?_)
  refine obeys_bind.mpr
    ⟨⟨debt.debtorId, debtor, _, ?_, ⟨debt, ?_, fun hne => ?_⟩, hrevised⟩, fun _ => ?_⟩
  · simp
  · simp
  · exact Amount.toInt_neg hne
  · exact obeys_bind.mpr ⟨trivial, fun _ => trivial⟩

theorem revises_createDebt (wanted : NewDebt) :
    ((createDebt wanted).operation limits).work.Obeys
      (Call.Revises (createDebt wanted).Moves) (fun _ _ => True) [] := by
  refine obeys_bind.mpr (Posting.revises_findUser fun user => ?_)
  refine obeys_bind.mpr fun now => obeys_bind.mpr fun uuid => ?_
  refine obeys_bind.mpr (Engine.revises_adjustDebtor fun debtor _ => ?_)
  refine obeys_bind.mpr ⟨trivial, fun _ => ?_⟩
  refine obeys_bind.mpr (obeys_bind.mpr fun now => obeys_bind.mpr fun uuid => ?_)
  refine obeys_bind.mpr ⟨trivial, fun _ => ?_⟩
  exact obeys_bind.mpr (Engine.revises_postDebtLegs fun _ _ => trivial)

theorem revises_createExchange (wanted : NewExchange) :
    ((createExchange wanted).operation limits).work.Obeys
      (Call.Revises (createExchange wanted).Moves) (fun _ _ => True) [] := by
  refine obeys_bind.mpr (Posting.revises_findUser fun user => ?_)
  refine obeys_bind.mpr fun now => obeys_bind.mpr fun uuid => ?_
  refine obeys_bind.mpr ⟨trivial, fun _ => ?_⟩
  refine obeys_bind.mpr (Posting.revises_postLeg fun _ _ => ?_)
  exact obeys_bind.mpr (Posting.revises_postLeg fun _ _ => trivial)

theorem revises_updateExchange (id : ExchangeId) (amounts : ExchangeAmounts) :
    ((updateExchange id amounts).operation limits).work.Obeys
      (Call.Revises (updateExchange id amounts).Moves) (fun _ _ => True) [] := by
  refine obeys_bind.mpr (obeys_bind.mpr ⟨trivial, fun _ => obeys_require.mpr fun exchange _ => ?_⟩)
  refine obeys_bind.mpr ⟨trivial, fun records => ?_⟩
  refine obeys_bind.mpr (Engine.revises_repostRecords fun _ _ => ?_)
  exact obeys_bind.mpr fun now => obeys_bind.mpr ⟨trivial, fun _ => trivial⟩

theorem revises_deleteExchange (id : ExchangeId) :
    ((deleteExchange id).operation limits).work.Obeys
      (Call.Revises (deleteExchange id).Moves) (fun _ _ => True) [] := by
  refine obeys_bind.mpr (obeys_bind.mpr ⟨trivial, fun _ => obeys_require.mpr fun exchange _ => ?_⟩)
  refine obeys_bind.mpr ⟨trivial, fun records => ?_⟩
  refine obeys_bind.mpr (Posting.revises_reverseRecords fun _ _ => ?_)
  exact obeys_bind.mpr ⟨trivial, fun _ => obeys_bind.mpr ⟨trivial, fun _ => trivial⟩⟩

theorem revises_performBalanceRecord (wanted : ManualExchange) :
    ((performBalanceRecord wanted).operation limits).work.Obeys
      (Call.Revises (performBalanceRecord wanted).Moves) (fun _ _ => True) [] := by
  refine obeys_bind.mpr (Posting.revises_findUser fun user => ?_)
  refine obeys_bind.mpr fun uuid => ?_
  refine obeys_bind.mpr (Posting.revises_postLeg fun _ _ => ?_)
  exact obeys_bind.mpr (Posting.revises_postLeg fun _ _ => trivial)

theorem revises_rollbackRecord (id : RecordId) :
    ((rollbackRecord id).operation limits).work.Obeys
      (Call.Revises (rollbackRecord id).Moves) (fun _ _ => True) [] := by
  refine obeys_bind.mpr (Engine.revises_findFreeRecord fun record => ?_)
  refine obeys_bind.mpr (Posting.revises_reverseRecord fun _ _ => ?_)
  exact obeys_bind.mpr ⟨trivial, fun _ => trivial⟩

theorem revises_updateRecord (id : RecordId) (kind : RecordKind) (money : Money) :
    ((updateRecord id kind money).operation limits).work.Obeys
      (Call.Revises (updateRecord id kind money).Moves) (fun _ _ => True) [] := by
  refine obeys_bind.mpr (Engine.revises_findFreeRecord fun record => ?_)
  refine obeys_bind.mpr (Posting.revises_reverseRecord fun _ _ => ?_)
  refine obeys_bind.mpr (Posting.revises_applyLeg fun _ _ => ?_)
  exact obeys_bind.mpr fun now => obeys_bind.mpr ⟨trivial, fun _ => trivial⟩

/-- Whatever the store answers, a request stores balances and debtors only as revisions
of what it found. -/
theorem revises (limits : Limits) (request : Request) :
    (request.operation limits).work.Obeys (Call.Revises request.Moves) (fun _ _ => True) [] := by
  cases request with
  | openBalance user currency =>
    refine obeys_bind.mpr (Posting.revises_findUser fun user => ?_)
    refine obeys_bind.mpr fun now => obeys_bind.mpr fun uuid => ?_
    exact obeys_bind.mpr ⟨trivial, fun _ => trivial⟩
  | performBalanceRecord wanted => exact revises_performBalanceRecord wanted
  | postBalanceRecord user kind money details =>
    refine obeys_bind.mpr (Posting.revises_findUser fun user => ?_)
    exact Posting.revises_postLeg fun _ _ => trivial
  | rollbackRecord id => exact revises_rollbackRecord id
  | updateRecord id kind money => exact revises_updateRecord id kind money
  | createExchange wanted => exact revises_createExchange wanted
  | updateExchange id amounts => exact revises_updateExchange id amounts
  | deleteExchange id => exact revises_deleteExchange id
  | createDebt wanted => exact revises_createDebt wanted
  | settleDebt wanted => exact revises_settleDebt wanted
  | updateDebt id amounts => exact revises_updateDebt id amounts
  | deleteDebt id => exact revises_deleteDebt id
  | _ => exact (onlyReads limits _ rfl).mono_rule fun _ _ => Call.revises_of_isRead

end Request

end CashLedger
