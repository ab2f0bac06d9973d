import CashLedger.Proofs.Engine.Twins

/-!
# Rows of twin work

What a request about a user looks up at first is the same on both stores, since they agree
on the rows of the user and a row of the user leads to rows of the same user only.  What
it writes then are rows that stand for one another.
-/

namespace CashLedger

open Keyed (key)
open Owned (owner)
open Twinned (table alike)
open Work

namespace Twins

variable {t : Twins}

/-! ## What is looked up at first -/

/-- A row of the user that both runs have found under its key. -/
structure Found {α : Type} {kind : IdKind} [Keyed α (Id kind)] [Owned α] [Twinned α] (t : Twins)
    (k : Id kind) (a b : α) : Prop where
  eq : b = a
  mem : a ∈ (table t.left : Table α).rows
  key : key a = k
  owner : owner a = t.user

section Lookup

variable {α : Type} {kind : IdKind} [Keyed α (Id kind)] [Owned α] [Twinned α]

variable (hsound : t.Sound)

include hsound

theorem Sound.exists_found {k : Id kind} (hhas : (table t.left : Table α).HasOf t.user k) :
    ∃ row : α, (table t.left).find? k = some row ∧ (table t.right).find? k = some row ∧
      t.Found k row row := by
  obtain ⟨row, hmem, hkey, howner⟩ := hhas
  have hmem' : row ∈ (table t.right : Table α).rows :=
    (Twinned.agree hsound.agree row howner).mp hmem
  exact ⟨row, Table.find?_eq_some_iff.mpr ⟨hmem, hkey⟩,
    Table.find?_eq_some_iff.mpr ⟨hmem', hkey⟩, rfl, hmem, hkey, howner⟩

omit hsound in
/-- A call that is answered alike on both stores and changes nothing. -/
theorem sync_read {request : Call} {found : request.Answer}
    {facts : request.Answer → request.Answer → Prop}
    (hleft : MemoryUnit.answer ⟨t.left, {}⟩ request = (.ok found, ⟨t.left, {}⟩))
    (hright : MemoryUnit.answer ⟨t.right, {}⟩ request = (.ok found, ⟨t.right, {}⟩))
    (hfacts : facts found found) :
    t.Sync t.Opened (ask request) (ask request) facts t.Opened := by
  refine .ask fun u v hopened => ?_
  obtain ⟨rfl, rfl⟩ := hopened
  rw [hleft, hright]
  exact .ok hfacts ⟨rfl, rfl⟩

theorem sync_findUser {id : UserId} (hid : id = t.user) :
    t.Sync t.Opened (Posting.findUser id) (Posting.findUser id)
      (fun a b => b = a ∧ a.id = t.user) t.Opened := by
  subst hid
  have hread : t.Sync t.Opened (ask (.userById t.user)) (ask (.userById t.user))
      (Option.Rel fun a b => b = a ∧ a.id = t.user) t.Opened := by
    refine @sync_read t _ (t.left.users.find? t.user) _ rfl ?_ ?_
    · simp only [MemoryUnit.answer, hsound.agree.users t.user rfl]
    · cases hfind : t.left.users.find? t.user with
      | none => exact .none
      | some user => exact .some ⟨rfl, Table.key_of_find? hfind⟩
  exact hread.bind fun _ _ hrel => .require _ hrel

/-- Looking a row of the user up. -/
theorem sync_lookup {k : Id kind} (hhas : (table t.left : Table α).HasOf t.user k)
    {look : Work (Option α)}
    (hlook : ∀ tables world, look.run Memory.backend ⟨tables, {}⟩ world =
      (.ok ((table tables).find? k), ⟨tables, {}⟩, world)) :
    t.Sync t.Opened look look (Option.Rel (t.Found k)) t.Opened := by
  rintro u v world world' ⟨rfl, rfl⟩ hstep - -
  obtain ⟨row, hleft, hright, hfound⟩ := hsound.exists_found hhas
  rw [hlook, hlook, hleft, hright]
  exact .ok (.some hfound) ⟨rfl, rfl⟩ hstep

theorem sync_findExchange {id : ExchangeId} (hhas : t.left.exchanges.HasOf t.user id) :
    t.Sync t.Opened (Engine.findExchange id) (Engine.findExchange id) (t.Found id) t.Opened :=
  (sync_lookup hsound hhas fun _ _ => rfl).bind fun _ _ hrel => .require _ hrel

theorem sync_findDebtor {id : DebtorId} (hhas : t.left.debtors.HasOf t.user id) :
    t.Sync t.Opened (Engine.findDebtor id) (Engine.findDebtor id) (t.Found id) t.Opened :=
  (sync_lookup hsound hhas fun _ _ => rfl).bind fun _ _ hrel => .require _ hrel

theorem sync_findDebt {id : DebtId} (hhas : t.left.debts.HasOf t.user id) :
    t.Sync t.Opened (Engine.findDebt id) (Engine.findDebt id) (t.Found id) t.Opened :=
  (sync_lookup hsound hhas fun _ _ => rfl).bind fun _ _ hrel => .require _ hrel

theorem sync_findFreeRecord {id : RecordId} (hhas : t.left.records.HasOf t.user id) :
    t.Sync t.Opened (Engine.findFreeRecord id) (Engine.findFreeRecord id) (t.Found id)
      t.Opened := by
  refine (sync_lookup hsound hhas fun _ _ => rfl).bind fun _ _ hrel => ?_
  refine (Sync.require _ hrel).bind fun a b hfound => ?_
  rw [hfound.eq]
  split
  · exact .fail _
  · exact .pure (hfound.eq ▸ hfound)

end Lookup

/-! ## What is listed at first -/

/-- Records that both runs have listed, all of them the user's. -/
structure Listed (t : Twins) (a b : List Record) : Prop where
  eq : b = a
  mem : ∀ record ∈ a, record ∈ t.left.records.rows
  owner : ∀ record ∈ a, record.userId = t.user

section Listing

variable (hsound : t.Sound)

include hsound

theorem Listed.hasOf_balance {a b : List Record} (hlisted : t.Listed a b) :
    ∀ record ∈ a, t.left.balances.HasOf t.user record.balanceId := fun record hrecord =>
  hlisted.owner record hrecord ▸ hsound.left.hasOf_balance (hlisted.mem record hrecord)

theorem Listed.same {a b : List Record} (hlisted : t.Listed a b) :
    List.Forall₂ t.SameRecord a b := by
  rw [hlisted.eq]
  exact List.forall₂_same.mpr fun record hrecord =>
    hsound.sameRecord_self (hlisted.mem record hrecord) (hlisted.owner record hrecord)

theorem Sound.listed {chosen : Record → Bool}
    (hleft : ∀ record ∈ t.left.records.rows, chosen record = true → record.userId = t.user)
    (hright : ∀ record ∈ t.right.records.rows, chosen record = true → record.userId = t.user) :
    t.Listed (t.left.recordsWhere chosen) (t.right.recordsWhere chosen) where
  eq := (hsound.recordsWhere_eq hleft hright).symm
  mem record hrecord := (List.mem_filter.mp (List.mem_mergeSort.mp hrecord)).1
  owner record hrecord := by
    obtain ⟨hmem, hkept⟩ := List.mem_filter.mp (List.mem_mergeSort.mp hrecord)
    exact hleft record hmem hkept

theorem sync_ask_recordsForBalance {id : BalanceId} (hhas : t.left.balances.HasOf t.user id) :
    t.Sync t.Opened (ask (.recordsForBalance id)) (ask (.recordsForBalance id)) t.Listed
      t.Opened := by
  refine .ask ?_
  rintro _ _ ⟨rfl, rfl⟩
  refine .ok (hsound.listed ?_ ?_) ⟨rfl, rfl⟩
  · exact fun _ => hsound.left.userId_of_isOnBalance hhas
  · exact fun _ => hsound.right.userId_of_isOnBalance (hsound.agree.balances.hasOf hhas)

theorem sync_ask_recordsForExchange {id : ExchangeId} (hhas : t.left.exchanges.HasOf t.user id) :
    t.Sync t.Opened (ask (.recordsForExchange id)) (ask (.recordsForExchange id)) t.Listed
      t.Opened := by
  refine .ask ?_
  rintro _ _ ⟨rfl, rfl⟩
  refine .ok (hsound.listed ?_ ?_) ⟨rfl, rfl⟩
  · exact fun _ => hsound.left.userId_of_isOfExchange hhas
  · exact fun _ => hsound.right.userId_of_isOfExchange (hsound.agree.exchanges.hasOf hhas)

theorem sync_ask_recordsForDebt {id : DebtId} (hhas : t.left.debts.HasOf t.user id) :
    t.Sync t.Opened (ask (.recordsForDebt id)) (ask (.recordsForDebt id)) t.Listed
      t.Opened := by
  refine .ask ?_
  rintro _ _ ⟨rfl, rfl⟩
  refine .ok (hsound.listed ?_ ?_) ⟨rfl, rfl⟩
  · exact fun _ => hsound.left.userId_of_isOfDebt hhas
  · exact fun _ => hsound.right.userId_of_isOfDebt (hsound.agree.debts.hasOf hhas)

theorem sync_ask_balancesForUser :
    t.Sync t.Opened (ask (.balancesForUser t.user)) (ask (.balancesForUser t.user))
      (List.Forall₂ t.SameBalance) t.Opened := by
  refine sync_read rfl ?_ (List.forall₂_same.mpr fun balance hbalance => ?_)
  · exact congrArg (fun found => (Except.ok found, _)) hsound.balancesForUser_eq.symm
  · obtain ⟨hmem, howner⟩ := List.mem_filter.mp (List.mem_mergeSort.mp hbalance)
    exact hsound.sameBalance_self hmem (of_decide_eq_true howner)

theorem sync_ask_debtorsForUser :
    t.Sync t.Opened (ask (.debtorsForUser t.user)) (ask (.debtorsForUser t.user))
      (List.Forall₂ t.SameDebtor) t.Opened := by
  refine sync_read rfl ?_ (List.forall₂_same.mpr fun debtor hdebtor => ?_)
  · exact congrArg (fun found => (Except.ok found, _)) hsound.debtorsForUser_eq.symm
  · obtain ⟨hmem, howner⟩ := List.mem_filter.mp (List.mem_mergeSort.mp hdebtor)
    exact hsound.sameDebtor_self hmem (of_decide_eq_true howner)

theorem sync_ask_debtsForDebtor {id : DebtorId} (hhas : t.left.debtors.HasOf t.user id) :
    t.Sync t.Opened (ask (.debtsForDebtor id)) (ask (.debtsForDebtor id))
      (List.Forall₂ t.SameDebt) t.Opened := by
  refine sync_read rfl ?_ (List.forall₂_same.mpr fun debt hdebt => ?_)
  · exact congrArg (fun found => (Except.ok found, _)) (hsound.debtsForDebtor_eq hhas).symm
  · obtain ⟨hmem, hdebtor⟩ := List.mem_filter.mp (List.mem_mergeSort.mp hdebt)
    exact hsound.sameDebt_self hmem
      (hsound.left.userId_of_debtorId hhas hmem (of_decide_eq_true hdebtor))

end Listing

/-! ## What is written -/

section Writing

variable (hsound : t.Sound)

include hsound

omit hsound in
/-- A change of a row that is there in both units or in neither. -/
theorem Answers.changing {present present' : Bool} (hpresent : present = present')
    (missing : LedgerError) {u v changed changed' : MemoryUnit}
    (hchanged : t.Paired changed changed') :
    Answers (fun _ _ => True) t.Paired (MemoryUnit.changing present missing u changed)
      (MemoryUnit.changing present' missing v changed') := by
  subst hpresent
  cases present with
  | true => exact .ok trivial hchanged
  | false => exact .error _ _ _

theorem sync_ask_createExchange {a b : Exchange} (hplaced : t.Placed a b) :
    t.Sync t.Paired (ask (.createExchange a)) (ask (.createExchange b)) (fun _ _ => True)
      t.Paired :=
  .ask fun _ _ hpaired => .ok trivial (hpaired.writeExchange hsound hplaced)

theorem sync_ask_createDebtor {a b : Debtor} (hplaced : t.Placed a b) :
    t.Sync t.Paired (ask (.createDebtor a)) (ask (.createDebtor b)) (fun _ _ => True) t.Paired :=
  .ask fun _ _ hpaired => .ok trivial (hpaired.createDebtor hsound hplaced)

theorem sync_ask_createDebt {a b : Debt} (hplaced : t.Placed a b) :
    t.Sync t.Paired (ask (.createDebt a)) (ask (.createDebt b)) (fun _ _ => True) t.Paired :=
  .ask fun _ _ hpaired => .ok trivial (hpaired.writeDebt hsound hplaced)

theorem sync_ask_updateRecord {a b : Record} (hkept : t.Kept a b) :
    t.Sync t.Paired (ask (.updateRecord a)) (ask (.updateRecord b)) (fun _ _ => True)
      t.Paired := by
  refine .ask fun u v hpaired => ?_
  have hid : b.id = a.id := hkept.key_eq hsound
  simp only [MemoryUnit.answer, hid]
  exact .changing (hsound.contains_eq hkept.has hpaired.rows.records hpaired.left.others.records
    hpaired.right.others.records) _ (hpaired.writeRecord hsound (hkept.placed hsound))

theorem sync_ask_updateExchange {a b : Exchange} (hkept : t.Kept a b) :
    t.Sync t.Paired (ask (.updateExchange a)) (ask (.updateExchange b)) (fun _ _ => True)
      t.Paired := by
  refine .ask fun u v hpaired => ?_
  have hid : b.id = a.id := hkept.key_eq hsound
  simp only [MemoryUnit.answer, hid]
  exact .changing (hsound.contains_eq hkept.has hpaired.rows.exchanges
    hpaired.left.others.exchanges hpaired.right.others.exchanges) _
    (hpaired.writeExchange hsound (hkept.placed hsound))

theorem sync_ask_updateDebt {a b : Debt} (hkept : t.Kept a b) :
    t.Sync t.Paired (ask (.updateDebt a)) (ask (.updateDebt b)) (fun _ _ => True)
      t.Paired := by
  refine .ask fun u v hpaired => ?_
  have hid : b.id = a.id := hkept.key_eq hsound
  simp only [MemoryUnit.answer, hid]
  exact .changing (hsound.contains_eq hkept.has hpaired.rows.debts hpaired.left.others.debts
    hpaired.right.others.debts) _ (hpaired.writeDebt hsound (hkept.placed hsound))

theorem sync_ask_deleteRecord {id : RecordId} (hhas : t.left.records.HasOf t.user id) :
    t.Sync t.Paired (ask (.deleteRecord id)) (ask (.deleteRecord id)) (fun _ _ => True)
      t.Paired :=
  .ask fun _ _ hpaired => .changing (hsound.contains_eq hhas hpaired.rows.records
    hpaired.left.others.records hpaired.right.others.records) _ (hpaired.dropRecord hsound hhas)

theorem sync_ask_deleteExchange {id : ExchangeId} (hhas : t.left.exchanges.HasOf t.user id) :
    t.Sync t.Paired (ask (.deleteExchange id)) (ask (.deleteExchange id)) (fun _ _ => True)
      t.Paired :=
  .ask fun _ _ hpaired => .changing (hsound.contains_eq hhas hpaired.rows.exchanges
    hpaired.left.others.exchanges hpaired.right.others.exchanges) _
    (hpaired.dropExchange hsound hhas)

theorem sync_ask_deleteDebt {id : DebtId} (hhas : t.left.debts.HasOf t.user id) :
    t.Sync t.Paired (ask (.deleteDebt id)) (ask (.deleteDebt id)) (fun _ _ => True)
      t.Paired :=
  .ask fun _ _ hpaired => .changing (hsound.contains_eq hhas hpaired.rows.debts
    hpaired.left.others.debts hpaired.right.others.debts) _ (hpaired.dropDebt hsound hhas)

theorem sync_ask_deleteRecordsForExchange {id : ExchangeId}
    (hhas : t.left.exchanges.HasOf t.user id) :
    t.Sync t.Paired (ask (.deleteRecordsForExchange id)) (ask (.deleteRecordsForExchange id))
      (fun _ _ => True) t.Paired := by
  refine .ask fun u v hpaired => .ok trivial (hpaired.dropRecords ?_ ?_ ?_)
  · exact fun _ => hsound.left.userId_of_isOfExchange hhas
  · exact fun _ => hsound.right.userId_of_isOfExchange (hsound.agree.exchanges.hasOf hhas)
  · exact fun hsame => hsame.isOfExchange_eq hsound hhas

theorem sync_ask_deleteRecordsForDebt {id : DebtId} (hhas : t.left.debts.HasOf t.user id) :
    t.Sync t.Paired (ask (.deleteRecordsForDebt id)) (ask (.deleteRecordsForDebt id))
      (fun _ _ => True) t.Paired := by
  refine .ask fun u v hpaired => .ok trivial (hpaired.dropRecords ?_ ?_ ?_)
  · exact fun _ => hsound.left.userId_of_isOfDebt hhas
  · exact fun _ => hsound.right.userId_of_isOfDebt (hsound.agree.debts.hasOf hhas)
  · exact fun hsame => hsame.isOfDebt_eq hsound hhas

/-! ## Debtors -/

end Writing

/-! ## Debtors -/

section Debtors

/-- Another running balance and another time. -/
theorem Kept.reviseDebtor {a b : Debtor} (hkept : t.Kept a b) {now now' : Timestamp}
    (htime : t.SameTime now now') (balance : Amount) (version : Int64) :
    t.Kept { a with balance, version, updatedAt := now }
      { b with balance, version, updatedAt := now' } where
  same := by
    obtain ⟨_, _, _, hid, hcreated, -, rfl⟩ := SameDebtor.exists_row hkept.same
    exact ⟨hid, hcreated, htime, rfl⟩
  owner := hkept.owner
  has := hkept.has

variable (hsound : t.Sound)

include hsound

/-- The two rows differ in their times only. -/
theorem Kept.exists_debtor {a b : Debtor} (hkept : t.Kept a b) :
    ∃ createdAt updatedAt, t.SameTime a.updatedAt updatedAt ∧
      b = { a with createdAt, updatedAt } := by
  have hid : b.id = a.id := hkept.key_eq hsound
  obtain ⟨id, createdAt, updatedAt, -, -, hupdated, hrow⟩ := SameDebtor.exists_row hkept.same
  refine ⟨createdAt, updatedAt, hupdated, ?_⟩
  subst hrow
  rw [show id = a.id from hid]

theorem sync_adjustDebtor {a b : Debtor} (hkept : t.Kept a b) (change : Amount)
    {pre : MemoryUnit → MemoryUnit → Prop} :
    t.Sync pre (Engine.adjustDebtor a change) (Engine.adjustDebtor b change) t.Kept pre := by
  refine Sync.now.bind fun now now' htime => .check ?_
  obtain ⟨createdAt, updatedAt, -, rfl⟩ := hkept.exists_debtor hsound
  simp only [Debtor.adjust]
  cases a.balance.add? change with
  | some balance => exact hkept.reviseDebtor htime balance a.version
  | none => rfl

/-- A new debtor's balance starts at zero and cannot run over. -/
theorem sync_openDebtor {user : User} (huser : user.id = t.user) {now now' : Timestamp}
    (htime : t.SameTime now now') {id id' : DebtorId} (htogether : t.Together id.uuid id'.uuid)
    (name : String) (phone : Option String) (currency : Currency) (change : Amount)
    {pre : MemoryUnit → MemoryUnit → Prop} :
    t.Sync pre (Engine.adjustDebtor (.new id user name phone currency now) change)
      (Engine.adjustDebtor (.new id' user name phone currency now') change)
      (t.Placed : Debtor → Debtor → Prop) pre := by
  refine Sync.now.bind fun later later' hlater => .check ?_
  have hadd : Amount.add? 0 change = some change :=
    Amount.add?_eq_some_iff.mpr (by rw [Int64.toInt_zero, Int.zero_add])
  simp only [Debtor.adjust, Debtor.new, hadd]
  exact hsound.placed_of_together ⟨.inl htogether, htime, hlater, rfl⟩ huser htogether

theorem sync_ask_updateDebtor {a b : Debtor} (hkept : t.Kept a b) :
    t.Sync t.Paired (ask (.updateDebtor a)) (ask (.updateDebtor b))
      (t.Kept : Debtor → Debtor → Prop) t.Paired := by
  refine .ask fun u v hpaired => ?_
  have hrel : Option.Rel t.SameDebtor (u.working.debtors.find? a.id)
      (v.working.debtors.find? a.id) :=
    hsound.find?_rel hkept.has hpaired.rows.debtors hpaired.left.others.debtors
      hpaired.right.others.debtors
  obtain ⟨createdAt, updatedAt, hupdated, rfl⟩ := hkept.exists_debtor hsound
  simp only [MemoryUnit.answer, MemoryUnit.updateDebtor]
  cases hfind : u.working.debtors.find? a.id <;>
    cases hfind' : v.working.debtors.find? a.id <;> rw [hfind, hfind'] at hrel <;>
    cases hrel
  · exact .error _ _ _
  · next current current' hcurrent =>
    obtain ⟨_, _, _, -, -, -, rfl⟩ := hcurrent.exists_row
    simp only
    split
    · have hstored := hkept.reviseDebtor hupdated a.balance (a.version + 1)
      have hwritten := hpaired.writeDebtor hsound (hstored.placed hsound) hfind hfind'
      exact .ok hstored hwritten
    · exact .error _ _ _

end Debtors

end Twins

end CashLedger
