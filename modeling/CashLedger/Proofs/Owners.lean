import CashLedger.Proofs.Store.Listing
import CashLedger.Proofs.Supply

/-!
# Exchanges and debts in the mirror of their records

An exchange stands in the books as one record of what was sold and one of what
was received.  A debt stands there as one record for each amount that was moved,
in the order of the amounts.  Nothing else is recorded under their names, and a
record never names an owner that is not stored.
-/

namespace CashLedger

/-- The record of a leg of some money over a user's balance. -/
structure Record.Shows (record : Record) (user : UserId) (kind : RecordKind)
    (money : Money) : Prop where
  userId : record.userId = user
  kind : record.kind = kind
  money : record.money = money

theorem Record.isOfExchange_iff {id : ExchangeId} {record : Record} :
    record.isOfExchange id = true ↔ record.source = .exchange id := by
  simp only [isOfExchange, decide_eq_true_eq]
  cases record.source <;> simp [RecordSource.exchangeId?]

theorem Record.isOfDebt_iff {id : DebtId} {record : Record} :
    record.isOfDebt id = true ↔ record.source = .debt id := by
  simp only [isOfDebt, decide_eq_true_eq]
  cases record.source <;> simp [RecordSource.debtId?]

/-- One record of what was sold and one of what was received, and no other. -/
def Exchange.Mirrored (exchange : Exchange) (records : Table Record) : Prop :=
  ∃ sold received,
    (records.rows.filter (Record.isOfExchange exchange.id)).Perm [sold, received] ∧
      sold.Shows exchange.userId .sell exchange.sold ∧
      received.Shows exchange.userId .buy exchange.received

namespace Debt

/-- A positive amount was owed, and is kept with the sign of the kind. -/
def Signed (debt : Debt) : Prop :=
  ∃ owed : Amount, 0 < owed.toInt ∧ debt.debted.amount = debt.kind.signed owed

/-- The record of one of a debt's amounts. -/
structure HasLeg (debt : Debt) (record : Record) : Prop where
  userId : record.userId = debt.userId
  kind : record.kind = .ofDirection debt.kind.direction

/-- One record for each amount that was moved, and no other; from old to young, if new
records are promised to be younger. -/
def Mirrored (promise : Promise) (debt : Debt) (records : Table Record) : Prop :=
  ∃ posted,
    (records.rows.filter (Record.isOfDebt debt.id)).Perm posted ∧
      (promise = .increasing → posted.Pairwise fun a b => Record.olderFirst a b = true) ∧
      (∀ record ∈ posted, debt.HasLeg record) ∧
      debt.received = posted.map fun record => debt.kind.signedMoney record.money

/-- What a debt adds to the balance of a debtor. -/
def against (debtor : DebtorId) (debt : Debt) : Int :=
  if debt.debtorId = debtor then debt.debted.amount.toInt else 0

end Debt

theorem Exchange.Mirrored.congr {exchange : Exchange} {records records' : Table Record}
    (hmirrored : exchange.Mirrored records)
    (hperm : (records.rows.filter (Record.isOfExchange exchange.id)).Perm
      (records'.rows.filter (Record.isOfExchange exchange.id))) :
    exchange.Mirrored records' := by
  obtain ⟨sold, received, hrows, hshows⟩ := hmirrored
  exact ⟨sold, received, hperm.symm.trans hrows, hshows⟩

theorem Exchange.Mirrored.userId_eq {exchange : Exchange} {records : Table Record}
    (hmirrored : exchange.Mirrored records) {record : Record} (hmem : record ∈ records.rows)
    (hsource : record.source = .exchange exchange.id) : record.userId = exchange.userId := by
  obtain ⟨sold, received, hrows, hsold, hreceived⟩ := hmirrored
  have hlisted : record ∈ [sold, received] :=
    hrows.subset (List.mem_filter.mpr ⟨hmem, Record.isOfExchange_iff.mpr hsource⟩)
  rcases List.mem_pair.mp hlisted with rfl | rfl
  · exact hsold.userId
  · exact hreceived.userId

/-- Two records under the name of an exchange that had none. -/
theorem Exchange.mirrored_insert {exchange : Exchange} {records : Table Record}
    {sold received : Record}
    (hnone : ∀ record ∈ records.rows, record.source ≠ .exchange exchange.id)
    (hids : sold.id ≠ received.id) (hsold : sold.source = .exchange exchange.id)
    (hreceived : received.source = .exchange exchange.id)
    (hshows : sold.Shows exchange.userId .sell exchange.sold)
    (hshows' : received.Shows exchange.userId .buy exchange.received) :
    exchange.Mirrored ((records.insert sold).insert received) := by
  have hdistinct : ([sold, received].map Record.id).Nodup := by simpa using hids
  refine ⟨sold, received, Table.filter_foldl_insert_perm hdistinct ?_ ?_, hshows, hshows'⟩
  · simp [Record.isOfExchange_iff, hsold, hreceived]
  · intro record hmem hkept
    exact absurd (Record.isOfExchange_iff.mp hkept) (hnone record hmem)

/-- The same record for the leg of its kind in other amounts. -/
structure Record.Reposted (user : UserId) (amounts : ExchangeAmounts)
    (record reposted : Record) : Prop where
  id : reposted.id = record.id
  source : reposted.source = record.source
  shows : reposted.Shows user record.kind (amounts.moneyFor record.kind)

theorem map_id_of_reposted {user : UserId} {amounts : ExchangeAmounts}
    {old posted : List Record}
    (heach : List.Forall₂ (Record.Reposted user amounts) old posted) :
    posted.map Record.id = old.map Record.id := by
  induction heach with
  | nil => rfl
  | cons hhead _ ih => rw [List.map_cons, List.map_cons, hhead.id, ih]

theorem map_source_of_reposted {user : UserId} {amounts : ExchangeAmounts}
    {old posted : List Record}
    (heach : List.Forall₂ (Record.Reposted user amounts) old posted) :
    posted.map Record.source = old.map Record.source := by
  induction heach with
  | nil => rfl
  | cons hhead _ ih => rw [List.map_cons, List.map_cons, hhead.source, ih]

/-- Other amounts posted on the two records that an exchange has. -/
theorem Exchange.Mirrored.replace {exchange after : Exchange} {records : Table Record}
    (hmirrored : exchange.Mirrored records) {old posted : List Record}
    (hold : old.Perm (records.rows.filter (Record.isOfExchange exchange.id)))
    (hid : after.id = exchange.id)
    (heach : List.Forall₂ (Record.Reposted after.userId ⟨after.received, after.sold⟩)
      old posted) :
    after.Mirrored (posted.foldl Table.insert records) := by
  obtain ⟨sold, received, hrows, hsold, hreceived⟩ := hmirrored
  have hids := map_id_of_reposted heach
  have hdistinct : (posted.map Record.id).Nodup := by
    rw [hids, (hold.map Record.id).nodup_iff]
    exact records.nodup_filter _
  have hsource : ∀ record ∈ posted, record.source = .exchange after.id := by
    intro record hmem
    have hsource : record.source ∈ posted.map Record.source := List.mem_map_of_mem hmem
    rw [map_source_of_reposted heach] at hsource
    obtain ⟨before, hbefore, heq⟩ := List.mem_map.mp hsource
    have hkept := (List.mem_filter.mp (hold.mem_iff.mp hbefore)).2
    rw [← heq, hid]
    exact Record.isOfExchange_iff.mp hkept
  have hperm : ((posted.foldl Table.insert records).rows.filter
      (Record.isOfExchange after.id)).Perm posted := by
    apply Table.filter_foldl_insert_perm hdistinct
    · exact fun record hmem => Record.isOfExchange_iff.mpr (hsource record hmem)
    · intro record hmem hkept
      change record.id ∈ posted.map Record.id
      rw [hids]
      refine List.mem_map_of_mem (hold.mem_iff.mpr (List.mem_filter.mpr ⟨hmem, ?_⟩))
      rwa [← hid]
  obtain ⟨pair, hpair, hposted⟩ := List.perm_comp_forall₂ (hold.trans hrows).symm heach
  cases hpair with
  | cons hfirst hrest =>
    cases hrest with
    | cons hsecond hnil =>
      cases hnil
      have hshows := hfirst.shows
      have hshows' := hsecond.shows
      rw [hsold.kind] at hshows
      rw [hreceived.kind] at hshows'
      exact ⟨_, _, hperm.trans hposted.symm, hshows, hshows'⟩

theorem Debt.Mirrored.congr {promise : Promise} {debt : Debt} {records records' : Table Record}
    (hmirrored : debt.Mirrored promise records)
    (hperm : (records.rows.filter (Record.isOfDebt debt.id)).Perm
      (records'.rows.filter (Record.isOfDebt debt.id))) :
    debt.Mirrored promise records' := by
  obtain ⟨posted, hrows, hposted⟩ := hmirrored
  exact ⟨posted, hperm.symm.trans hrows, hposted⟩

/-- Records posted under the name of a debt that had none, one for each amount. -/
theorem Debt.mirrored_foldl_insert {promise : Promise} {debt : Debt} {records : Table Record}
    {posted : List Record}
    (hnone : ∀ record ∈ records.rows, record.source ≠ .debt debt.id)
    (hdistinct : (posted.map Record.id).Nodup)
    (hsource : ∀ record ∈ posted, record.source = .debt debt.id)
    (hordered : promise = .increasing →
      posted.Pairwise fun a b => Record.olderFirst a b = true)
    (hlegs : ∀ record ∈ posted, debt.HasLeg record)
    (hreceived : debt.received = posted.map fun record => debt.kind.signedMoney record.money) :
    debt.Mirrored promise (posted.foldl Table.insert records) := by
  refine ⟨posted, Table.filter_foldl_insert_perm hdistinct ?_ ?_, hordered, hlegs, hreceived⟩
  · exact fun record hmem => Record.isOfDebt_iff.mpr (hsource record hmem)
  · intro record hmem hkept
    exact absurd (Record.isOfDebt_iff.mp hkept) (hnone record hmem)

theorem Exchange.Mirrored.exists_mem {exchange : Exchange} {records : Table Record}
    (hmirrored : exchange.Mirrored records) :
    ∃ record ∈ records.rows, record.source = .exchange exchange.id := by
  obtain ⟨sold, received, hrows, -⟩ := hmirrored
  have hmem := hrows.symm.subset (List.mem_cons_self : sold ∈ [sold, received])
  rw [List.mem_filter, Record.isOfExchange_iff] at hmem
  exact ⟨sold, hmem⟩

/-! ## Signs -/

theorem DebtKind.toInt_signed (kind : DebtKind) {amount : Amount} (hpositive : 0 < amount.toInt) :
    (kind.signed amount).toInt =
      match kind with
      | .lend => -amount.toInt
      | .borrow => amount.toInt := by
  have hhigh := Int64.toInt_lt amount
  cases kind with
  | lend =>
    rw [signed, Int64.toInt_neg, Int.bmod_eq_of_le (by omega) (by omega)]
  | borrow => rfl

/-- The sign of a kept amount can be turned around. -/
theorem Debt.Signed.toInt_neg {debt : Debt} (hsigned : debt.Signed) :
    (-debt.debted.amount).toInt = -debt.debted.amount.toInt := by
  obtain ⟨owed, hpositive, hamount⟩ := hsigned
  have hhigh := Int64.toInt_lt owed
  have hkept := debt.kind.toInt_signed hpositive
  rw [← hamount] at hkept
  rw [Int64.toInt_neg]
  cases hkind : debt.kind <;>
    rw [hkind] at hkept <;>
    simp only at hkept <;>
    exact Int.bmod_eq_of_le (by omega) (by omega)

/-! ## What debtors owe -/

/-- A debtor whose balance has moved, and nothing else but the time of change. -/
structure Debtor.Adjusted (debtor : Debtor) (change : Int) (after : Debtor) : Prop where
  id : after.id = debtor.id
  userId : after.userId = debtor.userId
  companyId : after.companyId = debtor.companyId
  currency : after.currency = debtor.currency
  balance : after.balance.toInt = debtor.balance.toInt + change

theorem Debtor.Adjusted.trans {first middle last : Debtor} {change change' : Int}
    (hfirst : first.Adjusted change middle) (hlast : middle.Adjusted change' last) :
    first.Adjusted (change + change') last where
  id := hlast.id.trans hfirst.id
  userId := hlast.userId.trans hfirst.userId
  companyId := hlast.companyId.trans hfirst.companyId
  currency := hlast.currency.trans hfirst.currency
  balance := by
    rw [hlast.balance, hfirst.balance]
    omega

/-- Each debtor's balance is the sum of the debts with that debtor, who is stored for
every debt. -/
structure Owed (debtors : Table Debtor) (debts : Table Debt) : Prop where
  balance : ∀ debtor ∈ debtors.rows,
    debtor.balance.toInt = debts.sumOf (Debt.against debtor.id)
  debtor : ∀ debt ∈ debts.rows, ∃ debtor, debtors.find? debt.debtorId = some debtor ∧
    debtor.userId = debt.userId ∧ debtor.companyId = debt.companyId ∧
    debtor.currency = debt.debted.currency

namespace Owed

variable {debtors debtors' : Table Debtor} {debts debts' : Table Debt}

theorem congr (howed : Owed debtors debts) (hdebtors : debtors.Same debtors')
    (hdebts : debts.Same debts') : Owed debtors' debts' where
  balance debtor hdebtor := by
    rw [← hdebts.sumOf_eq]
    exact howed.balance debtor (hdebtors.mem_iff.mpr hdebtor)
  debtor debt hdebt := by
    rw [← hdebtors]
    exact howed.debtor debt (hdebts.mem_iff.mpr hdebt)

theorem empty : Owed .empty .empty := by
  constructor <;> simp [Table.empty]

/-- A row takes the place of a debtor, and the sums over the debts move by as much as
its balance. -/
theorem revise (howed : Owed debtors debts) {debtor after : Debtor} {change : Int}
    (hmem : debtor ∈ debtors.rows) (hadjusted : debtor.Adjusted change after)
    (hsum : ∀ id, debts'.sumOf (Debt.against id) = debts.sumOf (Debt.against id) +
      if debtor.id = id then change else 0)
    (hdebts : ∀ debt ∈ debts'.rows, ∃ found, debtors.find? debt.debtorId = some found ∧
      found.userId = debt.userId ∧ found.companyId = debt.companyId ∧
      found.currency = debt.debted.currency) :
    Owed (debtors.insert after) debts' where
  balance row hrow := by
    rw [hsum]
    rcases Table.mem_rows_insert.mp hrow with rfl | ⟨hrow, hne⟩
    · rw [if_pos hadjusted.id.symm, hadjusted.id, ← howed.balance debtor hmem,
        hadjusted.balance]
    · rw [if_neg fun h => hne (h.symm.trans hadjusted.id.symm), howed.balance row hrow]
      omega
  debtor debt hdebt := by
    obtain ⟨found, hfind, huser', hcompany', hcurrency'⟩ := hdebts debt hdebt
    by_cases heq : debt.debtorId = after.id
    · have hthere : debtors.find? debtor.id = some debtor := Table.mem_rows_iff.mp hmem
      rw [heq, hadjusted.id, hthere] at hfind
      obtain rfl := Option.some.inj hfind
      refine ⟨after, ?_, hadjusted.userId.trans huser', hadjusted.companyId.trans hcompany',
        hadjusted.currency.trans hcurrency'⟩
      rw [heq]
      exact Table.find?_insert_self debtors after
    · refine ⟨found, ?_, huser', hcompany', hcurrency'⟩
      rw [Table.find?_insert_of_ne _ heq, hfind]

/-- A known debtor with another debt. -/
theorem add (howed : Owed debtors debts) {debtor after : Debtor} {debt : Debt}
    (hmem : debtor ∈ debtors.rows)
    (hadjusted : debtor.Adjusted debt.debted.amount.toInt after)
    (hnew : debts.find? debt.id = none) (hid : debt.debtorId = debtor.id)
    (huser : debtor.userId = debt.userId) (hcompany : debtor.companyId = debt.companyId)
    (hcurrency : debtor.currency = debt.debted.currency) :
    Owed (debtors.insert after) (debts.insert debt) := by
  apply howed.revise hmem hadjusted
  · intro other
    rw [Table.sumOf_insert_of_fresh hnew, Debt.against, hid]
    exact Int.add_comm _ _
  · intro other hother
    rcases Table.mem_rows_insert.mp hother with rfl | ⟨hother, -⟩
    · refine ⟨debtor, ?_, huser, hcompany, hcurrency⟩
      rw [hid]
      exact Table.mem_rows_iff.mp hmem
    · exact howed.debtor other hother

/-- A debt takes the place of another with the same debtor. -/
theorem replace (howed : Owed debtors debts) {debtor after : Debtor} {debt debt' : Debt}
    (hmem : debtor ∈ debtors.rows) (hdebt : debt ∈ debts.rows)
    (hadjusted : debtor.Adjusted
      (-debt.debted.amount.toInt + debt'.debted.amount.toInt) after)
    (hkey : debt'.id = debt.id) (hid : debt.debtorId = debtor.id)
    (hid' : debt'.debtorId = debtor.id) (huser : debtor.userId = debt'.userId)
    (hcompany : debtor.companyId = debt'.companyId)
    (hcurrency : debtor.currency = debt'.debted.currency) :
    Owed (debtors.insert after) (debts.insert debt') := by
  apply howed.revise hmem hadjusted
  · intro other
    calc
      (debts.insert debt').sumOf (Debt.against other) =
          debt'.against other + (debts.sumOf (Debt.against other) - debt.against other) :=
        Table.sumOf_insert_of_mem hdebt hkey.symm
      _ = debts.sumOf (Debt.against other) + if debtor.id = other then
          -debt.debted.amount.toInt + debt'.debted.amount.toInt else 0 := by
        rw [Debt.against, Debt.against, hid, hid']
        split <;> omega
  · intro other hother
    rcases Table.mem_rows_insert.mp hother with rfl | ⟨hother, -⟩
    · refine ⟨debtor, ?_, huser, hcompany, hcurrency⟩
      rw [hid']
      exact Table.mem_rows_iff.mp hmem
    · exact howed.debtor other hother

/-- A debt is gone. -/
theorem remove (howed : Owed debtors debts) {debtor after : Debtor} {debt : Debt}
    (hmem : debtor ∈ debtors.rows) (hdebt : debt ∈ debts.rows)
    (hadjusted : debtor.Adjusted (-debt.debted.amount.toInt) after)
    (hid : debt.debtorId = debtor.id) :
    Owed (debtors.insert after) (debts.erase debt.id) := by
  apply howed.revise hmem hadjusted
  · intro other
    calc
      (debts.erase debt.id).sumOf (Debt.against other) =
          debts.sumOf (Debt.against other) - debt.against other :=
        Table.sumOf_erase_of_mem hdebt
      _ = debts.sumOf (Debt.against other) +
          if debtor.id = other then -debt.debted.amount.toInt else 0 := by
        rw [Debt.against, hid]
        split <;> omega
  · intro other hother
    exact howed.debtor other (Table.mem_rows_erase.mp hother).1

/-- A new debtor with a first debt. -/
theorem open_first (howed : Owed debtors debts) {debtor : Debtor} {debt : Debt}
    (hfresh : debtors.find? debtor.id = none) (hnew : debts.find? debt.id = none)
    (hid : debt.debtorId = debtor.id) (huser : debt.userId = debtor.userId)
    (hcompany : debt.companyId = debtor.companyId)
    (hcurrency : debt.debted.currency = debtor.currency)
    (hbalance : debtor.balance = debt.debted.amount) :
    Owed (debtors.insert debtor) (debts.insert debt) := by
  -- No debt can be with a debtor who was not there.
  have hother : ∀ other ∈ debts.rows, other.debtorId ≠ debtor.id := by
    intro other hmem heq
    obtain ⟨found, hfind, -⟩ := howed.debtor other hmem
    rw [heq, hfresh] at hfind
    cases hfind
  constructor
  · intro row hrow
    rw [Table.sumOf_insert_of_fresh hnew, Debt.against, hid]
    rcases Table.mem_rows_insert.mp hrow with rfl | ⟨hrow, hne⟩
    · have hnone : debts.sumOf (Debt.against row.id) = 0 := by
        apply List.sum_eq_zero
        simp only [List.mem_map, forall_exists_index, and_imp, forall_apply_eq_imp_iff₂]
        exact fun other hmem => if_neg (hother other hmem)
      rw [if_pos rfl, hnone, hbalance]
      omega
    · rw [if_neg fun h => hne h.symm, howed.balance row hrow]
      omega
  · intro other hmem
    rcases Table.mem_rows_insert.mp hmem with rfl | ⟨hmem, -⟩
    · refine ⟨debtor, ?_, huser.symm, hcompany.symm, hcurrency.symm⟩
      rw [hid]
      exact Table.find?_insert_self debtors debtor
    · obtain ⟨found, hfind, hfound⟩ := howed.debtor other hmem
      refine ⟨found, ?_, hfound⟩
      rw [Table.find?_insert_of_ne _ (hother other hmem), hfind]

end Owed

end CashLedger
