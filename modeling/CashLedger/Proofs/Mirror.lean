import CashLedger.Proofs.Desk

/-!
# Owners and their records

On a desk exchanges and debts are mirrored by their records, a record never outlives
its owner, and what debtors owe is the sum of their debts.
-/

namespace CashLedger

/-- Strictly negative for money lent, strictly positive for money borrowed. -/
def DebtKind.Directs (kind : DebtKind) (money : Money) : Prop :=
  match kind with
  | .lend => money.amount.toInt < 0
  | .borrow => 0 < money.amount.toInt

theorem DebtKind.directs_signedMoney (kind : DebtKind) {money : Money}
    (hpositive : 0 < money.amount.toInt) : kind.Directs (kind.signedMoney money) := by
  have hsigned := kind.toInt_signed hpositive
  cases kind with
  | lend =>
    change (DebtKind.lend.signed money.amount).toInt < 0
    rw [hsigned]
    exact Int.neg_neg_of_pos hpositive
  | borrow => exact hpositive

theorem DebtKind.natAbs_signed (kind : DebtKind) {amount : Amount}
    (hpositive : 0 < amount.toInt) : amount.toInt = |(kind.signed amount).toInt| := by
  rw [kind.toInt_signed hpositive]
  cases kind with
  | lend => rw [abs_neg, abs_of_pos hpositive]
  | borrow => rw [abs_of_pos hpositive]

namespace Debt

/-- A record of a debt and the amount of it that was moved. -/
structure Moved (debt : Debt) (record : Record) (money : Money) : Prop where
  userId : record.userId = debt.userId
  kind : record.kind = .ofDirection debt.kind.direction
  currency : record.currency = money.currency
  amount : record.amount.toInt = |money.amount.toInt|

variable {debt : Debt} {tables : Tables}

theorem Mirrored.moved (hmirrored : debt.Mirrored .increasing tables.records)
    (hpositive : ∀ record ∈ tables.records.rows, 0 < record.amount.toInt) :
    List.Forall₂ debt.Moved (tables.recordsWhere (Record.isOfDebt debt.id)) debt.received ∧
      ∀ money ∈ debt.received, debt.kind.Directs money := by
  obtain ⟨posted, hperm, hordered, hlegs, hreceived⟩ := hmirrored
  have hamount : ∀ record ∈ posted, 0 < record.amount.toInt := fun record hmem =>
    hpositive record (List.mem_filter.mp (hperm.mem_iff.mpr hmem)).1
  rw [Tables.recordsWhere_eq hperm (hordered rfl), hreceived]
  constructor
  · rw [List.forall₂_map_right_iff, List.forall₂_same]
    intro record hmem
    exact
      { userId := (hlegs record hmem).userId
        kind := (hlegs record hmem).kind
        currency := rfl
        amount := debt.kind.natAbs_signed (hamount record hmem) }
  · intro money hmem
    obtain ⟨record, hrecord, rfl⟩ := List.mem_map.mp hmem
    exact debt.kind.directs_signedMoney (hamount record hrecord)

theorem Signed.directs (hsigned : debt.Signed) : debt.kind.Directs debt.debted := by
  obtain ⟨owed, hpositive, hamount⟩ := hsigned
  have hdirects := @DebtKind.directs_signedMoney debt.kind ⟨owed, debt.debted.currency⟩ hpositive
  unfold DebtKind.Directs at hdirects ⊢
  rw [hamount]
  exact hdirects

end Debt

namespace Desk

/-- Whatever the sessions do: an exchange has one record of what was sold and one of what
was received and no other; a debt has, from old to young, one record for each amount that
was moved, and its amounts have the sign of its kind; and no record names an exchange or
debt that is not stored. -/
theorem reachable_mirrored {desk : Desk} (hreachable : desk.Reachable .increasing) :
    (∀ exchange ∈ desk.shared.exchanges.rows, ∃ sold received,
      (desk.shared.records.rows.filter (Record.isOfExchange exchange.id)).Perm
          [sold, received] ∧
        sold.Shows exchange.userId .sell exchange.sold ∧
        received.Shows exchange.userId .buy exchange.received) ∧
      (∀ debt ∈ desk.shared.debts.rows,
        List.Forall₂ debt.Moved (desk.shared.recordsWhere (Record.isOfDebt debt.id))
            debt.received ∧
          ∀ money ∈ debt.debted :: debt.received, debt.kind.Directs money) ∧
      ∀ record ∈ desk.shared.records.rows,
        (∀ id, record.source = .exchange id →
          ∃ exchange, desk.shared.exchanges.find? id = some exchange) ∧
        ∀ id, record.source = .debt id →
          ∃ debt, desk.shared.debts.find? id = some debt := by
  have hconsistent := hreachable.consistent
  refine ⟨hconsistent.exchanges, fun debt hmem => ?_, fun record hmem => ?_⟩
  · obtain ⟨hsigned, hmirrored⟩ := hconsistent.debts debt hmem
    obtain ⟨hmoved, hdirects⟩ := hmirrored.moved hconsistent.balanced.positive
    exact ⟨hmoved, List.forall_mem_cons.mpr ⟨hsigned.directs, hdirects⟩⟩
  · exact ⟨hconsistent.exchangeOf record hmem, hconsistent.debtOf record hmem⟩

theorem mirrored_evening :
    evening.shared.exchanges.rows.length = 1 ∧ evening.shared.debts.rows.length = 1 ∧
      (∀ exchange ∈ evening.shared.exchanges.rows, ∃ sold received,
        (evening.shared.records.rows.filter (Record.isOfExchange exchange.id)).Perm
            [sold, received] ∧
          sold.Shows exchange.userId .sell exchange.sold ∧
          received.Shows exchange.userId .buy exchange.received) ∧
      (∀ debt ∈ evening.shared.debts.rows,
        List.Forall₂ debt.Moved (evening.shared.recordsWhere (Record.isOfDebt debt.id))
            debt.received ∧
          ∀ money ∈ debt.debted :: debt.received, debt.kind.Directs money) ∧
      ∀ record ∈ evening.shared.records.rows,
        (∀ id, record.source = .exchange id →
          ∃ exchange, evening.shared.exchanges.find? id = some exchange) ∧
        ∀ id, record.source = .debt id →
          ∃ debt, evening.shared.debts.find? id = some debt :=
  ⟨by decide +kernel, by decide +kernel, reachable_mirrored (evening_reachable _)⟩

/-- Whatever the sessions do, a debtor's balance is the sum of the debts with that debtor,
and every debt is with a debtor who is stored, under the same user and company and in the
debtor's currency. -/
theorem reachable_owed {desk : Desk} (hreachable : desk.Reachable .distinct) :
    (∀ debtor ∈ desk.shared.debtors.rows, debtor.balance.toInt =
      ((desk.shared.debts.rows.filter fun debt => debt.debtorId = debtor.id).map
        fun debt => debt.debted.amount.toInt).sum) ∧
      ∀ debt ∈ desk.shared.debts.rows, ∃ debtor,
        desk.shared.debtors.find? debt.debtorId = some debtor ∧
          debtor.userId = debt.userId ∧ debtor.companyId = debt.companyId ∧
          debtor.currency = debt.debted.currency := by
  have howed := hreachable.consistent.owed
  refine ⟨fun debtor hmem => ?_, howed.debtor⟩
  rw [howed.balance debtor hmem, ← Table.sumOf_ite]
  apply Table.sumOf_congr
  intro debt _
  simp [Debt.against]

theorem owed_evening :
    evening.shared.debtors.rows.map (fun debtor => debtor.balance.toInt) = [-50] ∧
      (∀ debtor ∈ evening.shared.debtors.rows, debtor.balance.toInt =
        ((evening.shared.debts.rows.filter fun debt => debt.debtorId = debtor.id).map
          fun debt => debt.debted.amount.toInt).sum) ∧
      ∀ debt ∈ evening.shared.debts.rows, ∃ debtor,
        evening.shared.debtors.find? debt.debtorId = some debtor ∧
          debtor.userId = debt.userId ∧ debtor.companyId = debt.companyId ∧
          debtor.currency = debt.debted.currency :=
  ⟨by decide +kernel, reachable_owed (evening_reachable _)⟩

end Desk

end CashLedger
