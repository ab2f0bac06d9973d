import CashLedger.Proofs.Alone
import CashLedger.Proofs.Funds

/-!
# Undoing what was done

A record, an exchange or a debt can be undone exactly if the money that came in by it is still
there.  On the way no total leaves its range and no balance is missing, however many legs there
are and however they share their balances.  What is undone is then gone with its records; each
balance has moved back by the legs that lay on it, and nothing else has changed.
-/

namespace CashLedger

open Engine

/-! ## What is undone -/

/-- What amounts of records on a balance come to. -/
def Record.totalOn (balance : BalanceId) (records : List Record) : Int :=
  ((records.filter (Record.isOnBalance balance)).map fun record => record.amount.toInt).sum

/-- The tables after records were undone, with the exchanges, debtors and debts that are left. -/
structure Tables.Undone (gone : List Record) (before : Tables) (exchanges : Table Exchange)
    (debtors : Table Debtor) (debts : Table Debt) (after : Tables) : Prop where
  /-- Just these records are gone. -/
  records : ∀ record, record ∈ after.records.rows ↔
    record ∈ before.records.rows ∧ record ∉ gone
  /-- The totals of each balance have moved back by the legs of those that lay on it; where there
  was none, the row is as it was. -/
  balances : before.balances.Shifted (Record.takenBack gone) after.balances
  exchanges : after.exchanges.Same exchanges
  debtors : after.debtors.Same debtors
  debts : after.debts.Same debts
  users : after.users = before.users

/-- How the undoing of a single record ends. -/
structure Record.Undoes (before : Tables) (record : Record) (result : Except LedgerError Balance)
    (after : Tables) : Prop where
  isOk : result.isOk ↔ record.kind = .sell ∨ record.kind = .buy ∧ ∃ balance,
    before.balances.find? record.balanceId = some balance ∧
      record.amount.toInt ≤ balance.funds.toInt
  undone : result.isOk →
    Tables.Undone [record] before before.exchanges before.debtors before.debts after

/-- How the deletion of an exchange ends. -/
structure Exchange.Undoes (before : Tables) (exchange : Exchange)
    (result : Except LedgerError Exchange) (after : Tables) : Prop where
  isOk : ∃ sold received balance,
    before.recordsWhere (Record.isOfExchange exchange.id) = [sold, received] ∧
      sold.kind = .sell ∧ received.kind = .buy ∧
      before.balances.find? received.balanceId = some balance ∧
      (result.isOk ↔ exchange.received.amount.toInt ≤ balance.funds.toInt +
        if sold.balanceId = received.balanceId then exchange.sold.amount.toInt else 0)
  undone : result.isOk →
    Tables.Undone (before.recordsWhere (Record.isOfExchange exchange.id)) before
      (before.exchanges.erase exchange.id) before.debtors before.debts after

/-- How the deletion of a debt ends. -/
structure Debt.Undoes (before : Tables) (debt : Debt) (debtor : Debtor)
    (result : Except LedgerError Debtor) (after : Tables) : Prop where
  isOk : result.isOk ↔ Amount.Fits (debtor.balance.toInt - debt.debted.amount.toInt) ∧
    (debt.kind = .borrow → ∀ balance ∈ before.balances.rows,
      Record.totalOn balance.id (before.recordsWhere (Record.isOfDebt debt.id)) ≤
        balance.funds.toInt)
  undone : ∀ stored, result = .ok stored →
    stored.balance.toInt = debtor.balance.toInt - debt.debted.amount.toInt ∧
      stored = { debtor with
        balance := stored.balance, version := debtor.version + 1, updatedAt := stored.updatedAt } ∧
      Tables.Undone (before.recordsWhere (Record.isOfDebt debt.id)) before before.exchanges
        (before.debtors.insert stored) (before.debts.erase debt.id) after

namespace Tables

variable {before after : Tables} {gone : List Record} {records : Table Record}
  {exchanges : Table Exchange} {debtors : Table Debtor} {debts : Table Debt}

theorem undone_of_leaves {place : Places} {movements : List Movement} {last : Course}
    (hmoved : Moved place movements before after)
    (htally : ∀ balance ∈ before.balances.rows,
      Movement.tallyAll movements balance.id = Record.takenBack gone balance)
    (hleaves : last.Leaves before records exchanges debtors debts)
    (hsame : after.Same last.unit.working)
    (hrecords : ∀ record, record ∈ records.rows ↔ record ∈ before.records.rows ∧ record ∉ gone) :
    Undone gone before exchanges debtors debts after := by
  have hstore := hleaves.same hsame
  exact
    { records := fun record => hstore.records.mem_iff.trans (hrecords record)
      balances := hmoved.shifted htally
      exchanges := hstore.exchanges
      debtors := hstore.debtors
      debts := hstore.debts
      users := hstore.users }

theorem mem_recordsWithout_iff_notMem {chosen : Record → Bool} {record : Record} :
    record ∈ (before.recordsWithout chosen).rows ↔
      record ∈ before.records.rows ∧ record ∉ before.recordsWhere chosen := by
  rw [mem_recordsWithout, mem_recordsWhere]
  refine and_congr_right fun hmem => ?_
  rw [← Bool.not_eq_true, not_and]
  exact ⟨fun h _ => h, fun h => h hmem⟩

theorem subperm_recordsWhere (tables : Tables) (chosen : Record → Bool) :
    (tables.recordsWhere chosen).Subperm tables.records.rows :=
  (tables.recordsWhere_perm chosen).subperm.trans List.filter_sublist.subperm

end Tables

/-! ## What is still there -/

namespace Record

variable {records : List Record} {id : BalanceId}

theorem totalOn_nil (id : BalanceId) : totalOn id [] = 0 := rfl

theorem totalOn_singleton (id : BalanceId) (record : Record) :
    totalOn id [record] = if record.balanceId = id then record.amount.toInt else 0 := by
  by_cases hid : record.balanceId = id <;> simp [totalOn, isOnBalance, hid]

theorem totalOn_nonneg (hpositive : ∀ record ∈ records, 0 < record.amount.toInt)
    (id : BalanceId) : 0 ≤ totalOn id records := by
  refine List.sum_nonneg (List.forall_mem_map.mpr fun record hrecord => ?_)
  exact (hpositive record (List.mem_filter.mp hrecord).1).le

theorem totalOn_eq_sum (id : BalanceId) (records : List Record) : totalOn id records =
    (records.map fun record => if record.balanceId = id then record.amount.toInt else 0).sum := by
  rw [List.sum_map_ite]
  simp only [totalOn, List.map_const', List.sum_replicate, smul_zero, add_zero]
  rfl

theorem sum_outgoingFrom_of_sells (hsells : ∀ record ∈ records, record.kind = .sell) :
    (records.map (outgoingFrom id)).sum = totalOn id records := by
  rw [totalOn_eq_sum]
  exact congrArg _ (List.map_congr_left fun record hrecord =>
    record.outgoingFrom_of_sell id (hsells record hrecord))

theorem sum_incomingTo_of_buys (hbuys : ∀ record ∈ records, record.kind = .buy) :
    (records.map (incomingTo id)).sum = totalOn id records := by
  rw [totalOn_eq_sum]
  exact congrArg _ (List.map_congr_left fun record hrecord =>
    record.incomingTo_of_buy id (hbuys record hrecord))

end Record

/-- With what was sold given back, the funds are enough for what was bought. -/
theorem Balance.returns_append_iff {balance : Balance} {sells buys : List Record}
    (hsells : ∀ record ∈ sells, record.kind = .sell)
    (hbuys : ∀ record ∈ buys, record.kind = .buy) :
    balance.Returns (sells ++ buys) ↔ Record.totalOn balance.id buys ≤
      balance.funds.toInt + Record.totalOn balance.id sells := by
  rw [Returns, List.map_append, List.map_append, List.sum_append, List.sum_append,
    Record.sum_incomingTo_of_sells hsells, Record.sum_incomingTo_of_buys hbuys,
    Record.sum_outgoingFrom_of_sells hsells, Record.sum_outgoingFrom_of_buys hbuys, zero_add,
    add_zero]

namespace Balanced

variable {balances : Table Balance} {records : Table Record} {chosen sells buys : List Record}

/-- Records that went out, and then some that came in, can be taken back exactly if every balance
has enough for what came in. -/
theorem isSome_undoing_append_iff (hbalanced : Balanced balances records)
    (hchosen : (sells ++ buys).Subperm records.rows)
    (hsells : ∀ record ∈ sells, record.kind = .sell)
    (hbuys : ∀ record ∈ buys, record.kind = .buy) :
    (balances.accounts.moves ((sells ++ buys).map Record.undoing)).isSome ↔
      ∀ balance ∈ balances.rows, Record.totalOn balance.id buys ≤
        balance.funds.toInt + Record.totalOn balance.id sells := by
  rw [hbalanced.isSome_undoing_iff hchosen ?_]
  · simp only [Balance.returns_append_iff hsells hbuys]
  · refine List.pairwise_append.mpr ⟨?_, ?_, fun record hrecord _ _ _ => hsells record hrecord⟩
    · exact List.pairwise_of_forall_mem_list fun record hrecord _ _ _ => hsells record hrecord
    · refine List.pairwise_of_forall_mem_list fun _ _ record hrecord hsell => ?_
      rw [hbuys record hrecord] at hsell
      cases hsell

/-- What went out can always be taken back. -/
theorem isSome_undoing_of_sells (hbalanced : Balanced balances records)
    (hchosen : sells.Subperm records.rows) (hsells : ∀ record ∈ sells, record.kind = .sell) :
    (balances.accounts.moves (sells.map Record.undoing)).isSome := by
  rw [← List.append_nil sells] at hchosen
  have hiff := hbalanced.isSome_undoing_append_iff hchosen hsells nofun
  rw [List.append_nil] at hiff hchosen
  refine hiff.mpr fun balance hmem => ?_
  have hcovered := hbalanced.covered balance hmem
  have hout := Record.totalOn_nonneg
    (fun record hrecord => hbalanced.positive record (hchosen.subset hrecord)) balance.id
  rw [Record.totalOn_nil]
  omega

theorem isSome_undoing_buys_iff (hbalanced : Balanced balances records)
    (hchosen : buys.Subperm records.rows) (hbuys : ∀ record ∈ buys, record.kind = .buy) :
    (balances.accounts.moves (buys.map Record.undoing)).isSome ↔
      ∀ balance ∈ balances.rows, Record.totalOn balance.id buys ≤ balance.funds.toInt := by
  rw [← List.nil_append buys] at hchosen
  have hiff := hbalanced.isSome_undoing_append_iff hchosen nofun hbuys
  simpa only [List.nil_append, Record.totalOn_nil, add_zero] using hiff

/-- Of one record that came in only its own balance has to return something. -/
theorem isSome_undoing_buy_iff (hbalanced : Balanced balances records) {received : Record}
    (hchosen : (sells ++ [received]).Subperm records.rows)
    (hsells : ∀ record ∈ sells, record.kind = .sell) (hbuy : received.kind = .buy)
    {balance : Balance} (hfind : balances.find? received.balanceId = some balance) :
    (balances.accounts.moves ((sells ++ [received]).map Record.undoing)).isSome ↔
      received.amount.toInt ≤ balance.funds.toInt + Record.totalOn received.balanceId sells := by
  rw [hbalanced.isSome_undoing_append_iff hchosen hsells (by simpa using hbuy)]
  simp only [Record.totalOn_singleton]
  obtain ⟨hmem, hid⟩ := Table.find?_eq_some_iff.mp hfind
  change balance.id = received.balanceId at hid
  constructor
  · intro h
    have hown := h balance hmem
    rwa [if_pos hid.symm, hid] at hown
  · intro h other hother
    split
    · next hsame =>
      obtain rfl : other = balance := Table.eq_of_key_eq hother hmem (hsame.symm.trans hid.symm)
      rwa [← hsame]
    · have hcovered := hbalanced.covered other hother
      have hout := Record.totalOn_nonneg (fun record hrecord => hbalanced.positive record
        (hchosen.subset (List.mem_append_left _ hrecord))) other.id
      omega

end Balanced

/-- All records of a debt are of one kind. -/
theorem Debt.Mirrored.kind_eq {promise : Promise} {tables : Tables} {debt : Debt}
    (hmirrored : debt.Mirrored promise tables.records) :
    ∀ record ∈ tables.recordsWhere (Record.isOfDebt debt.id),
      record.kind = .ofDirection debt.kind.direction := by
  obtain ⟨posted, hperm, -, hlegs, -⟩ := hmirrored
  exact fun record hmem => (hlegs record
    (hperm.subset ((tables.recordsWhere_perm _).subset hmem))).kind

/-! ## Each of the three -/

namespace Desk

variable {promise : Promise} {limits : Limits} {desk : Desk} {supply : Supply}
  {world : World Tables}

/-- A record that went out can always be taken back, and one that came in exactly if its balance
still has the amount. -/
theorem record_undoes (hreachable : desk.Reachable promise) {record : Record}
    (hmem : record ∈ desk.shared.records.rows) (hfree : record.source.isOwned = false)
    {result : Except LedgerError Balance}
    (hrun : desk.alone limits (.rollbackRecord record.id) supply = (result, world)) :
    record.Undoes desk.shared result world.store := by
  have hbalanced := hreachable.consistent.balanced
  obtain ⟨balance, hfind, -⟩ := hbalanced.placed record hmem
  have hchosen : [record].Subperm desk.shared.records.rows :=
    List.singleton_subperm_iff.mpr hmem
  have henacted := Request.alone (enacts_rollbackRecord hbalanced.unique hmem hfree) rfl
    (by rintro _ _ ⟨⟩) hrun
  constructor
  · rw [henacted.isOk]
    change (desk.shared.balances.accounts.moves ([record].map Record.undoing)).isSome ↔ _
    cases hkind : record.kind with
    | sell =>
      refine iff_of_true (hbalanced.isSome_undoing_of_sells hchosen ?_) (.inl rfl)
      simpa using hkind
    | buy =>
      rw [← List.nil_append [record]] at hchosen ⊢
      rw [hbalanced.isSome_undoing_buy_iff hchosen nofun hkind hfind, Record.totalOn_nil, add_zero]
      simp [hfind]
  · intro hok
    obtain ⟨value, rfl⟩ := Except.exists_eq_ok hok
    obtain ⟨hmoved, last, hleaves, hsame, -⟩ := henacted.ok rfl
    refine Tables.undone_of_leaves hmoved
      (fun balance _ => Record.tallyAll_undoing [record] balance) hleaves hsame
      fun other => Table.mem_rows_erase.trans (and_congr_right fun hother => ?_)
    rw [List.mem_singleton, not_iff_not]
    exact ⟨fun hid => Table.eq_of_key_eq hother hmem hid, fun h => h ▸ rfl⟩

/-- An exchange can be deleted exactly if the balance that received it still has what it received,
with what was sold if that goes back to the same balance. -/
theorem exchange_undoes (hreachable : desk.Reachable .increasing) {exchange : Exchange}
    (hmem : exchange ∈ desk.shared.exchanges.rows) {result : Except LedgerError Exchange}
    (hrun : desk.alone limits (.deleteExchange exchange.id) supply = (result, world)) :
    exchange.Undoes desk.shared result world.store := by
  have hconsistent := hreachable.consistent
  have hbalanced := hconsistent.balanced
  obtain ⟨sold, received, hlisted, hsold, hreceived⟩ :=
    (hconsistent.exchanges exchange hmem).listed hreachable.filed.shared.records
  have hchosen : ([sold] ++ [received]).Subperm desk.shared.records.rows := by
    have hsub := desk.shared.subperm_recordsWhere (Record.isOfExchange exchange.id)
    rwa [hlisted] at hsub
  obtain ⟨balance, hfind, -⟩ := hbalanced.placed received (hchosen.subset (by simp))
  have henacted := Request.alone (enacts_deleteExchange hbalanced.unique hmem) rfl
    (by rintro _ _ ⟨⟩) hrun
  constructor
  · refine ⟨sold, received, balance, hlisted, hsold.kind, hreceived.kind, hfind, ?_⟩
    have hamounts : sold.amount = exchange.sold.amount ∧
        received.amount = exchange.received.amount :=
      ⟨congrArg Money.amount hsold.money, congrArg Money.amount hreceived.money⟩
    have hmoves := hbalanced.isSome_undoing_buy_iff hchosen (by simpa using hsold.kind)
      hreceived.kind hfind
    rw [Record.totalOn_singleton, hamounts.1, hamounts.2] at hmoves
    rw [henacted.isOk, hlisted, ← hmoves]
    rfl
  · intro hok
    obtain ⟨value, rfl⟩ := Except.exists_eq_ok hok
    obtain ⟨hmoved, last, ⟨-, hleaves⟩, hsame, -⟩ := henacted.ok rfl
    exact Tables.undone_of_leaves hmoved (fun balance _ => Record.tallyAll_undoing _ balance)
      hleaves hsame fun record => Tables.mem_recordsWithout_iff_notMem

/-- A debt can be deleted exactly if the debtor's balance can tell of what is then owed and, if it
was borrowed, all that came in is still there. -/
theorem debt_undoes (hreachable : desk.Reachable promise) {debt : Debt} {debtor : Debtor}
    (hmem : debt ∈ desk.shared.debts.rows)
    (hdebtor : desk.shared.debtors.find? debt.debtorId = some debtor)
    {result : Except LedgerError Debtor}
    (hrun : desk.alone limits (.deleteDebt debt.id) supply = (result, world)) :
    debt.Undoes desk.shared debtor result world.store := by
  have hconsistent := hreachable.consistent
  have hbalanced := hconsistent.balanced
  obtain ⟨hsigned, hmirrored⟩ := hconsistent.debts debt hmem
  have hchosen := desk.shared.subperm_recordsWhere (Record.isOfDebt debt.id)
  have henacted := Request.alone (enacts_deleteDebt hbalanced.unique hmem hdebtor) rfl
    (by rintro _ _ ⟨⟩) hrun
  constructor
  · have hmoves : result.isOk ↔ Amount.Fits (debtor.balance.toInt - debt.debted.amount.toInt) ∧
        (desk.shared.balances.accounts.moves ((desk.shared.recordsWhere
          (Record.isOfDebt debt.id)).map Record.undoing)).isSome := by
      rw [henacted.isOk, Int.sub_eq_add_neg, ← hsigned.toInt_neg, ← Amount.isSome_add?_iff]
      exact Accounts.isSome_moves_append_passed
    rw [hmoves]
    refine and_congr_right fun _ => ?_
    have hkinds := hmirrored.kind_eq
    cases hkind : debt.kind with
    | lend =>
      rw [hkind] at hkinds
      exact iff_of_true (hbalanced.isSome_undoing_of_sells hchosen hkinds) nofun
    | borrow =>
      rw [hkind] at hkinds
      rw [hbalanced.isSome_undoing_buys_iff hchosen hkinds]
      exact ⟨fun h _ => h, fun h => h rfl⟩
  · rintro stored rfl
    obtain ⟨hmoved, last, hdropped, hsame, -⟩ := henacted.ok rfl
    have hbalance := Amount.add?_eq_some_iff.mp hdropped.debtor.balance
    rw [hsigned.toInt_neg] at hbalance
    refine ⟨by rw [hbalance, Int.sub_eq_add_neg], hdropped.debtor.row, ?_⟩
    refine Tables.undone_of_leaves hmoved (fun balance _ => ?_) hdropped.leaves hsame fun record =>
      Tables.mem_recordsWithout_iff_notMem
    rw [Movement.tallyAll_append_passed]
    exact Record.tallyAll_undoing _ balance

/-- On any desk a record that may be changed by itself, an exchange or a debt can be undone by
someone alone exactly if the money that came in by it is still there; and then it is gone, the
balances have moved back, and nothing else has changed. -/
theorem reachable_undoes (hreachable : desk.Reachable .increasing) (limits : Limits)
    (supply : Supply) :
    (∀ record ∈ desk.shared.records.rows, record.source.isOwned = false →
      ∀ result world, desk.alone limits (.rollbackRecord record.id) supply = (result, world) →
        record.Undoes desk.shared result world.store) ∧
      (∀ exchange ∈ desk.shared.exchanges.rows,
        ∀ result world, desk.alone limits (.deleteExchange exchange.id) supply = (result, world) →
          exchange.Undoes desk.shared result world.store) ∧
      ∀ debt ∈ desk.shared.debts.rows, ∃ debtor,
        desk.shared.debtors.find? debt.debtorId = some debtor ∧
          ∀ result world, desk.alone limits (.deleteDebt debt.id) supply = (result, world) →
            debt.Undoes desk.shared debtor result world.store := by
  refine ⟨fun record hmem hfree result world hrun => record_undoes hreachable hmem hfree hrun,
    fun exchange hmem result world hrun => exchange_undoes hreachable hmem hrun,
    fun debt hmem => ?_⟩
  obtain ⟨debtor, hdebtor, -⟩ := hreachable.consistent.owed.debtor debt hmem
  exact ⟨debtor, hdebtor, fun result world hrun => debt_undoes hreachable hmem hdebtor hrun⟩

def refunded : Except LedgerError Balance × World Tables :=
  evening.alone .standard (.rollbackRecord deposited.id) (supplied 10)

def returned : Except LedgerError Exchange × World Tables :=
  evening.alone .standard (.deleteExchange bought.id) (supplied 10)

def recalled : Except LedgerError Debtor × World Tables :=
  evening.alone .standard (.deleteDebt lent.id) (supplied 10)

set_option maxRecDepth 100000 in
theorem isOk_refunded : refunded.1.isOk = false ∧ returned.1.isOk = true ∧
    recalled.1.isOk = true := by
  decide_cbv

/-- Of the money that came in some was lent and some was spent, so that it cannot be taken back;
but the exchange and the debt can. -/
theorem undoes_evening :
    (refunded.1.isOk = false ∧ returned.1.isOk = true ∧ recalled.1.isOk = true) ∧
      deposited.Undoes evening.shared refunded.1 refunded.2.store ∧
      bought.Undoes evening.shared returned.1 returned.2.store ∧
      ∃ debtor, evening.shared.debtors.find? lent.debtorId = some debtor ∧
        lent.Undoes evening.shared debtor recalled.1 recalled.2.store := by
  obtain ⟨hrecords, hexchanges, hdebts⟩ :=
    reachable_undoes (evening_reachable _) .standard (supplied 10)
  obtain ⟨debtor, hdebtor, hlent⟩ := hdebts lent (by decide +kernel)
  exact ⟨isOk_refunded, hrecords deposited (by decide +kernel) (by decide) _ _ rfl,
    hexchanges bought (by decide +kernel) _ _ rfl, debtor, hdebtor, hlent _ _ rfl⟩

end Desk

end CashLedger
