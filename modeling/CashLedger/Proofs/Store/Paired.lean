import CashLedger.Proofs.Engine.Posting
import CashLedger.Proofs.Store.Listing
import CashLedger.Proofs.Store.Sole

/-!
# Twin units

Two units on which one request about a user is at work, each on tables of its own.  The
tables are consistent, so records lie on balances of their own user, and exchanges, debts
and debtors are linked to rows of their own user as well.  That is why a request that is
handed the identifier of one row of the user never gets to see the row of another.
-/

namespace CashLedger

open Keyed (key)
open Owned (owner)
open Twinned (table alike)

/-! ## Links between rows of one user -/

theorem Table.HasOf.user_unique {α κ : Type} [Keyed α κ] [Owned α] [DecidableEq κ]
    {table : Table α} {k : κ} {user other : UserId} (hhas : table.HasOf user k)
    (hother : table.HasOf other k) : other = user := by
  obtain ⟨row, hmem, hkey, rfl⟩ := hhas
  obtain ⟨row', hmem', hkey', rfl⟩ := hother
  rw [Table.eq_of_key_eq hmem' hmem (hkey'.trans hkey.symm)]

namespace Tables.Consistent

variable {promise : Promise} {tables : Tables}

theorem hasOf_balance (hconsistent : tables.Consistent promise) {record : Record}
    (hmem : record ∈ tables.records.rows) :
    tables.balances.HasOf record.userId record.balanceId := by
  obtain ⟨balance, hfind, huser, -⟩ := hconsistent.balanced.placed record hmem
  obtain ⟨hbalance, hid⟩ := Table.find?_eq_some_iff.mp hfind
  exact ⟨balance, hbalance, hid, huser⟩

theorem hasOf_exchange (hconsistent : tables.Consistent promise) {record : Record}
    (hmem : record ∈ tables.records.rows) {id : ExchangeId}
    (hsource : record.source = .exchange id) :
    tables.exchanges.HasOf record.userId id := by
  obtain ⟨exchange, hfind⟩ := hconsistent.exchangeOf record hmem id hsource
  obtain ⟨hexchange, rfl⟩ := Table.find?_eq_some_iff.mp hfind
  have hmirrored := hconsistent.exchanges exchange hexchange
  exact ⟨exchange, hexchange, rfl, (hmirrored.userId_eq hmem hsource).symm⟩

theorem hasOf_debt (hconsistent : tables.Consistent promise) {record : Record}
    (hmem : record ∈ tables.records.rows) {id : DebtId} (hsource : record.source = .debt id) :
    tables.debts.HasOf record.userId id := by
  obtain ⟨debt, hfind⟩ := hconsistent.debtOf record hmem id hsource
  obtain ⟨hdebt, rfl⟩ := Table.find?_eq_some_iff.mp hfind
  obtain ⟨-, posted, hrows, -, hlegs, -⟩ := hconsistent.debts debt hdebt
  have hposted : record ∈ posted :=
    hrows.subset (List.mem_filter.mpr ⟨hmem, Record.isOfDebt_iff.mpr hsource⟩)
  exact ⟨debt, hdebt, rfl, (hlegs record hposted).userId.symm⟩

theorem hasOf_debtor (hconsistent : tables.Consistent promise) {debt : Debt}
    (hmem : debt ∈ tables.debts.rows) : tables.debtors.HasOf debt.userId debt.debtorId := by
  obtain ⟨debtor, hfind, huser, -⟩ := hconsistent.owed.debtor debt hmem
  obtain ⟨hdebtor, hid⟩ := Table.find?_eq_some_iff.mp hfind
  exact ⟨debtor, hdebtor, hid, huser⟩

variable {user : UserId} {record : Record}

theorem userId_of_isOnBalance (hconsistent : tables.Consistent promise) {id : BalanceId}
    (hhas : tables.balances.HasOf user id) (hmem : record ∈ tables.records.rows)
    (hchosen : record.isOnBalance id = true) : record.userId = user := by
  obtain rfl : record.balanceId = id := by simpa [Record.isOnBalance] using hchosen
  exact hhas.user_unique (hconsistent.hasOf_balance hmem)

theorem userId_of_isOfExchange (hconsistent : tables.Consistent promise) {id : ExchangeId}
    (hhas : tables.exchanges.HasOf user id) (hmem : record ∈ tables.records.rows)
    (hchosen : record.isOfExchange id = true) : record.userId = user :=
  hhas.user_unique (hconsistent.hasOf_exchange hmem (Record.isOfExchange_iff.mp hchosen))

theorem userId_of_isOfDebt (hconsistent : tables.Consistent promise) {id : DebtId}
    (hhas : tables.debts.HasOf user id) (hmem : record ∈ tables.records.rows)
    (hchosen : record.isOfDebt id = true) : record.userId = user :=
  hhas.user_unique (hconsistent.hasOf_debt hmem (Record.isOfDebt_iff.mp hchosen))

theorem userId_of_debtorId (hconsistent : tables.Consistent promise) {id : DebtorId}
    (hhas : tables.debtors.HasOf user id) {debt : Debt} (hmem : debt ∈ tables.debts.rows)
    (hdebtor : debt.debtorId = id) : debt.userId = user := by
  subst hdebtor
  exact hhas.user_unique (hconsistent.hasOf_debtor hmem)

end Tables.Consistent

namespace Twins

variable {t : Twins}

/-- Runs on consistent tables that agree on the rows of the user, with supplies that give out
nothing twice and nothing that is there. -/
structure Sound (t : Twins) : Prop where
  fresh : t.Fresh
  agree : t.left.AgreeWhere (· = t.user) t.right
  left : t.left.Consistent .distinct
  right : t.right.Consistent .distinct

/-! ## Rows that were there -/

section Rows

variable {α : Type} {kind : IdKind} [Keyed α (Id kind)] [Owned α] [Twinned α]

theorem Sound.sameUuid_self (hsound : t.Sound) {uuid : Uuid} (hleft : uuid ∈ t.left.uuids)
    (hright : uuid ∈ t.right.uuids) : t.SameUuid uuid uuid :=
  .inr ⟨rfl, fun hdrawn => hsound.fresh.left uuid hdrawn hleft,
    fun hdrawn => hsound.fresh.right uuid hdrawn hright⟩

/-- The rows of the user are in both tables under the same keys. -/
theorem Sound.hasOf_right (hsound : t.Sound) {k : Id kind}
    (hhas : (table t.left : Table α).HasOf t.user k) :
    (table t.right : Table α).HasOf t.user k :=
  (Twinned.agree hsound.agree).hasOf hhas

theorem Sound.sameId_self (hsound : t.Sound) {k : Id kind}
    (hhas : (table t.left : Table α).HasOf t.user k) : t.SameId k k := by
  obtain ⟨row', hmem', hkey', -⟩ := hsound.hasOf_right hhas
  obtain ⟨row, hmem, rfl, -⟩ := hhas
  refine hsound.sameUuid_self (Twinned.mem_uuids hmem) ?_
  rw [← hkey']
  exact Twinned.mem_uuids hmem'

/-- Rows of the user that stand for one another, under keys that are not another user's. -/
structure Placed (t : Twins) (a b : α) : Prop where
  same : alike t a b
  owner : owner a = t.user
  left : (table t.left : Table α).Under t.user (key a)
  right : (table t.right : Table α).Under t.user (key b)

theorem Placed.owner_right {a b : α} (hplaced : t.Placed a b) : Owned.owner b = t.user :=
  (Twinned.owner_eq hplaced.same).trans hplaced.owner

/-- Rows in the place of one that was there. -/
theorem Sound.placed_of_hasOf (hsound : t.Sound) {a b : α} (hsame : alike t a b)
    (howner : Owned.owner a = t.user)
    (hhas : (table t.left : Table α).HasOf t.user (key a)) : t.Placed a b where
  same := hsame
  owner := howner
  left := hhas.under
  right := by
    have hkey := SameId.right_eq hsound.fresh (Twinned.sameId hsame) (hsound.sameId_self hhas)
    rw [hkey]
    exact (hsound.hasOf_right hhas).under

/-- New rows. -/
theorem Sound.placed_of_together (hsound : t.Sound) {a b : α} (hsame : alike t a b)
    (howner : Owned.owner a = t.user) (htogether : t.Together (key a).uuid (key b).uuid) :
    t.Placed a b where
  same := hsame
  owner := howner
  left row hfind := by
    obtain ⟨hmem, hkey⟩ := Table.find?_eq_some_iff.mp hfind
    rw [← hkey] at htogether
    exact absurd (Twinned.mem_uuids hmem) (hsound.fresh.left _ htogether.mem_drawn.1)
  right row hfind := by
    obtain ⟨hmem, hkey⟩ := Table.find?_eq_some_iff.mp hfind
    rw [← hkey] at htogether
    exact absurd (Twinned.mem_uuids hmem) (hsound.fresh.right _ htogether.mem_drawn.2)

/-- What has become of a row of the user. -/
theorem Sound.find?_rel (hsound : t.Sound) {k : Id kind}
    (hhas : (table t.left : Table α).HasOf t.user k) {left right : Table α}
    (hmatches : t.Matches left right) (hleft : (table t.left).AgreeWhere (· ≠ t.user) left)
    (hright : (table t.right).AgreeWhere (· ≠ t.user) right) :
    Option.Rel (alike t) (left.find? k) (right.find? k) :=
  hmatches.find? hsound.fresh (hsound.sameId_self hhas) (hleft.under hhas.under)
    (hright.under (hsound.hasOf_right hhas).under)

theorem Sound.contains_eq (hsound : t.Sound) {k : Id kind}
    (hhas : (table t.left : Table α).HasOf t.user k) {left right : Table α}
    (hmatches : t.Matches left right) (hleft : (table t.left).AgreeWhere (· ≠ t.user) left)
    (hright : (table t.right).AgreeWhere (· ≠ t.user) right) :
    left.contains k = right.contains k := by
  have hrel := hsound.find?_rel hhas hmatches hleft hright
  simp only [Table.contains]
  generalize left.find? k = found, right.find? k = found' at hrel
  cases hrel <;> rfl

end Rows

namespace Sound

variable (hsound : t.Sound)

include hsound

theorem sameBalance_self {balance : Balance} (hmem : balance ∈ t.left.balances.rows)
    (huser : balance.userId = t.user) : t.SameBalance balance balance where
  id := @sameId_self t Balance _ _ _ _ hsound _ ⟨balance, hmem, rfl, huser⟩
  createdAt := .refl _
  updatedAt := .refl _
  rest := rfl

theorem sameExchange_self {exchange : Exchange} (hmem : exchange ∈ t.left.exchanges.rows)
    (huser : exchange.userId = t.user) : t.SameExchange exchange exchange where
  id := @sameId_self t Exchange _ _ _ _ hsound _ ⟨exchange, hmem, rfl, huser⟩
  createdAt := .refl _
  updatedAt := .refl _
  rest := rfl

theorem sameDebtor_self {debtor : Debtor} (hmem : debtor ∈ t.left.debtors.rows)
    (huser : debtor.userId = t.user) : t.SameDebtor debtor debtor where
  id := @sameId_self t Debtor _ _ _ _ hsound _ ⟨debtor, hmem, rfl, huser⟩
  createdAt := .refl _
  updatedAt := .refl _
  rest := rfl

theorem sameDebt_self {debt : Debt} (hmem : debt ∈ t.left.debts.rows)
    (huser : debt.userId = t.user) : t.SameDebt debt debt where
  id := @sameId_self t Debt _ _ _ _ hsound _ ⟨debt, hmem, rfl, huser⟩
  debtorId := @sameId_self t Debtor _ _ _ _ hsound _ (huser ▸ hsound.left.hasOf_debtor hmem)
  createdAt := .refl _
  updatedAt := .refl _
  rest := rfl

theorem sameSource_self {record : Record} (hmem : record ∈ t.left.records.rows)
    (huser : record.userId = t.user) : t.SameSource record.source record.source := by
  have hmem' := (hsound.agree.records record huser).mp hmem
  cases hsource : record.source with
  | manual => exact .manual
  | transaction id =>
    have hheld : ∀ {tables : Tables}, record ∈ tables.records.rows → id.uuid ∈ tables.uuids :=
      fun hmem => Tables.mem_uuids.mpr
        (.inr (.inr (.inl ⟨record, hmem, id, by rw [hsource]; rfl, rfl⟩)))
    exact .transaction (hsound.sameUuid_self (hheld hmem) (hheld hmem'))
  | exchange id =>
    exact .exchange (@sameId_self t Exchange _ _ _ _ hsound _
      (huser ▸ hsound.left.hasOf_exchange hmem hsource))
  | debt id =>
    exact .debt (@sameId_self t Debt _ _ _ _ hsound _
      (huser ▸ hsound.left.hasOf_debt hmem hsource))

theorem sameRecord_self {record : Record} (hmem : record ∈ t.left.records.rows)
    (huser : record.userId = t.user) : t.SameRecord record record where
  id := @sameId_self t Record _ _ _ _ hsound _ ⟨record, hmem, rfl, huser⟩
  balanceId := @sameId_self t Balance _ _ _ _ hsound _ (huser ▸ hsound.left.hasOf_balance hmem)
  source := hsound.sameSource_self hmem huser
  createdAt := .refl _
  updatedAt := .refl _
  rest := rfl

end Sound

/-! ## Records of one owner -/

theorem SameRecord.isOfExchange_eq (hsound : t.Sound) {id : ExchangeId}
    (hhas : t.left.exchanges.HasOf t.user id) {a b : Record} (hsame : t.SameRecord a b) :
    a.isOfExchange id = b.isOfExchange id := by
  have hid : t.SameId id id := hsound.sameId_self hhas
  rw [Bool.eq_iff_iff, Record.isOfExchange_iff, Record.isOfExchange_iff]
  have hsource := hsame.source
  generalize a.source = source, b.source = source' at hsource
  cases hsource with
  | exchange hother =>
    simp only [RecordSource.exchange.injEq]
    constructor
    · rintro rfl
      exact hother.right_eq hsound.fresh hid
    · rintro rfl
      exact hother.left_eq hsound.fresh hid
  | _ => simp

theorem SameRecord.isOfDebt_eq (hsound : t.Sound) {id : DebtId}
    (hhas : t.left.debts.HasOf t.user id) {a b : Record} (hsame : t.SameRecord a b) :
    a.isOfDebt id = b.isOfDebt id := by
  have hid : t.SameId id id := hsound.sameId_self hhas
  rw [Bool.eq_iff_iff, Record.isOfDebt_iff, Record.isOfDebt_iff]
  have hsource := hsame.source
  generalize a.source = source, b.source = source' at hsource
  cases hsource with
  | debt hother =>
    simp only [RecordSource.debt.injEq]
    constructor
    · rintro rfl
      exact hother.right_eq hsound.fresh hid
    · rintro rfl
      exact hother.left_eq hsound.fresh hid
  | _ => simp

/-! ## Units side by side -/

/-- In all tables the rows of the user stand for one another. -/
structure MatchesAll (t : Twins) (left right : Tables) : Prop where
  balances : t.Matches left.balances right.balances
  records : t.Matches left.records right.records
  exchanges : t.Matches left.exchanges right.exchanges
  debtors : t.Matches left.debtors right.debtors
  debts : t.Matches left.debts right.debts

/-- Both units have just been opened. -/
def Opened (t : Twins) (u v : MemoryUnit) : Prop := u = ⟨t.left, {}⟩ ∧ v = ⟨t.right, {}⟩

/-- Both units are at work on the rows of the user. -/
structure Paired (t : Twins) (u v : MemoryUnit) : Prop where
  left : u.Sole t.user t.left
  right : v.Sole t.user t.right
  rows : t.MatchesAll u.working v.working

/-- Both units can be committed. -/
structure Done (t : Twins) (u v : MemoryUnit) : Prop where
  left : u.Ready t.user t.left
  right : v.Ready t.user t.right
  rows : t.MatchesAll u.working v.working

theorem Paired.done {u v : MemoryUnit} (hpaired : t.Paired u v) : t.Done u v where
  left := hpaired.left.ready
  right := hpaired.right.ready
  rows := hpaired.rows

/-- What the tables agree on stands for itself. -/
theorem Sound.matches_start {α : Type} {kind : IdKind} [Keyed α (Id kind)] [Owned α]
    [Twinned α] (hsound : t.Sound)
    (hself : ∀ {row : α}, row ∈ (table t.left).rows → owner row = t.user → alike t row row) :
    t.Matches (table t.left : Table α) (table t.right) where
  forth row hmem howner :=
    ⟨row, (Twinned.agree hsound.agree row howner).mp hmem, howner, hself hmem howner⟩
  back row hmem howner := by
    have hmem' := (Twinned.agree hsound.agree row howner).mpr hmem
    exact ⟨row, hmem', howner, hself hmem' howner⟩

theorem Sound.matchesAll_start (hsound : t.Sound) : t.MatchesAll t.left t.right where
  balances := hsound.matches_start hsound.sameBalance_self
  records := hsound.matches_start hsound.sameRecord_self
  exchanges := hsound.matches_start hsound.sameExchange_self
  debtors := hsound.matches_start hsound.sameDebtor_self
  debts := hsound.matches_start hsound.sameDebt_self

theorem Opened.paired {u v : MemoryUnit} (hsound : t.Sound) (hopened : t.Opened u v) :
    t.Paired u v := by
  obtain ⟨rfl, rfl⟩ := hopened
  exact ⟨.start _ _, .start _ _, hsound.matchesAll_start⟩

/-! ## Listings of rows that were there -/

namespace Sound

variable (hsound : t.Sound)

include hsound

theorem recordsWhere_eq {chosen : Record → Bool}
    (hleft : ∀ record ∈ t.left.records.rows, chosen record = true → record.userId = t.user)
    (hright : ∀ record ∈ t.right.records.rows, chosen record = true → record.userId = t.user) :
    t.left.recordsWhere chosen = t.right.recordsWhere chosen := by
  apply mergeSort_eq_of_perm olderFirst_trans olderFirst_total
    (hsound.agree.records.filter_perm hleft hright)
  intro a ha b hb hab hba
  exact Table.eq_of_key_eq (List.mem_filter.mp ha).1 (List.mem_filter.mp hb).1
    (id_eq_of_olderFirst hab hba)

theorem debtorsForUser_eq : t.left.debtorsForUser t.user = t.right.debtorsForUser t.user := by
  apply mergeSort_eq_of_perm olderFirst_trans olderFirst_total
    (hsound.agree.debtors.filter_perm (by simp [owner]) (by simp [owner]))
  intro a ha b hb hab hba
  exact Table.eq_of_key_eq (List.mem_filter.mp ha).1 (List.mem_filter.mp hb).1
    (id_eq_of_olderFirst hab hba)

theorem debtsForDebtor_eq {id : DebtorId} (hhas : t.left.debtors.HasOf t.user id) :
    t.left.debtsForDebtor id = t.right.debtsForDebtor id := by
  have hhas' := (hsound.agree.debtors).hasOf hhas
  apply mergeSort_eq_of_perm olderFirst_trans olderFirst_total
  · apply hsound.agree.debts.filter_perm
    · exact fun debt hmem hkept =>
        hsound.left.userId_of_debtorId hhas hmem (of_decide_eq_true hkept)
    · exact fun debt hmem hkept =>
        hsound.right.userId_of_debtorId hhas' hmem (of_decide_eq_true hkept)
  · intro a ha b hb hab hba
    exact Table.eq_of_key_eq (List.mem_filter.mp ha).1 (List.mem_filter.mp hb).1
      (id_eq_of_olderFirst hab hba)

/-- A user's balances are told apart by their currencies. -/
theorem balancesForUser_eq : t.left.balancesForUser t.user = t.right.balancesForUser t.user := by
  apply mergeSort_eq_of_perm
  · intro a b c hab hbc
    simp only [Balance.currencyFirst, decide_eq_true_eq] at hab hbc ⊢
    exact String.le_trans hab hbc
  · intro a b
    simp only [Balance.currencyFirst, Bool.or_eq_true, decide_eq_true_eq]
    exact String.le_total a.currency.code b.currency.code
  · exact hsound.agree.balances.filter_perm (by simp [owner]) (by simp [owner])
  · intro a ha b hb hab hba
    obtain ⟨hleft, huser⟩ := List.mem_filter.mp ha
    obtain ⟨hright, huser'⟩ := List.mem_filter.mp hb
    simp only [decide_eq_true_eq] at huser huser'
    simp only [Balance.currencyFirst, decide_eq_true_eq] at hab hba
    have hcode : a.currency.code = b.currency.code := String.le_antisymm hab hba
    exact hsound.left.balanced.unique a hleft b hright (huser.trans huser'.symm)
      (congrArg Currency.mk hcode)

end Sound

/-! ## Balances and debtors at work -/

section Kept

variable {α : Type} {kind : IdKind} [Keyed α (Id kind)] [Owned α] [Twinned α]

/-- Rows of the user that stand for one another, in the place of one that was there. -/
structure Kept (t : Twins) (a b : α) : Prop where
  same : alike t a b
  owner : owner a = t.user
  has : (table t.left : Table α).HasOf t.user (key a)

theorem Kept.placed (hsound : t.Sound) {a b : α} (hkept : t.Kept a b) : t.Placed a b :=
  hsound.placed_of_hasOf hkept.same hkept.owner hkept.has

theorem Kept.key_eq (hsound : t.Sound) {a b : α} (hkept : t.Kept a b) : key b = key a :=
  SameId.right_eq hsound.fresh (Twinned.sameId hkept.same) (hsound.sameId_self hkept.has)

end Kept

/-- Balances that stand for one another, of one account that was there. -/
structure Account (t : Twins) (a b : Balance) : Prop where
  same : t.SameBalance a b
  owner : a.userId = t.user
  there : ∃ old ∈ t.left.balances.rows, old.SameOwner a

namespace Account

variable {a b : Balance}

theorem kept (haccount : t.Account a b) : t.Kept a b where
  same := haccount.same
  owner := haccount.owner
  has := by
    obtain ⟨old, hold, hsame⟩ := haccount.there
    exact ⟨old, hold, hsame.id.symm, hsame.userId.symm.trans haccount.owner⟩

theorem id_eq (hsound : t.Sound) (haccount : t.Account a b) : b.id = a.id :=
  haccount.kept.key_eq hsound

/-- The two rows differ in their times only. -/
theorem exists_row (hsound : t.Sound) (haccount : t.Account a b) :
    ∃ createdAt updatedAt, t.SameTime a.createdAt createdAt ∧ t.SameTime a.updatedAt updatedAt ∧
      b = { a with createdAt, updatedAt } := by
  have hid := haccount.id_eq hsound
  obtain ⟨id, createdAt, updatedAt, -, hcreated, hupdated, hrow⟩ := haccount.same.exists_row
  refine ⟨createdAt, updatedAt, hcreated, hupdated, ?_⟩
  subst hrow
  rw [show id = a.id from hid]

theorem there_right (hsound : t.Sound) (haccount : t.Account a b) :
    ∃ old ∈ t.right.balances.rows, old.SameOwner b := by
  obtain ⟨old, hold, hsame⟩ := haccount.there
  refine ⟨old, (hsound.agree.balances old (hsame.userId.symm.trans haccount.owner)).mp hold, ?_⟩
  obtain ⟨_, _, -, -, rfl⟩ := haccount.exists_row hsound
  exact ⟨hsame.id, hsame.userId, hsame.currency⟩

/-- Other amounts and another time. -/
theorem revise (haccount : t.Account a b) {now now' : Timestamp} (htime : t.SameTime now now')
    (funds outgoing incoming : Amount) (version : Int64) :
    t.Account { a with funds, outgoing, incoming, version, updatedAt := now }
      { b with funds, outgoing, incoming, version, updatedAt := now' } where
  same := by
    obtain ⟨_, _, _, hid, hcreated, -, rfl⟩ := haccount.same.exists_row
    exact ⟨hid, hcreated, htime, rfl⟩
  owner := haccount.owner
  there := by
    obtain ⟨old, hold, hsame⟩ := haccount.there
    exact ⟨old, hold, hsame.id, hsame.userId, hsame.currency⟩

end Account

/-! ## Writing side by side -/

namespace Paired

variable {u v : MemoryUnit} (hsound : t.Sound) (hpaired : t.Paired u v)

include hsound hpaired

theorem writeBalance {a b current current' : Balance} (haccount : t.Account a b)
    (hfind : u.working.balances.find? a.id = some current)
    (hfind' : v.working.balances.find? b.id = some current') :
    t.Paired (u.writeBalance a (.stored current.version))
      (v.writeBalance b (.stored current'.version)) where
  left := hpaired.left.writeBalance hfind haccount.there haccount.owner
  right := hpaired.right.writeBalance hfind' (haccount.there_right hsound)
    (haccount.kept.placed hsound).owner_right
  rows :=
    { hpaired.rows with
      balances := hpaired.rows.balances.insert hsound.fresh haccount.kept.same haccount.owner }

theorem createDebtor {a b : Debtor} (hplaced : t.Placed a b) :
    t.Paired (u.writeDebtor a .created) (v.writeDebtor b .created) where
  left := hpaired.left.createDebtor hplaced.owner hplaced.left
  right := hpaired.right.createDebtor hplaced.owner_right hplaced.right
  rows :=
    { hpaired.rows with
      debtors := hpaired.rows.debtors.insert hsound.fresh hplaced.same hplaced.owner }

theorem writeDebtor {a b current current' : Debtor} (hplaced : t.Placed a b)
    (hfind : u.working.debtors.find? a.id = some current)
    (hfind' : v.working.debtors.find? b.id = some current') :
    t.Paired (u.writeDebtor a (.stored current.version))
      (v.writeDebtor b (.stored current'.version)) where
  left := hpaired.left.writeDebtor hfind hplaced.owner hplaced.left
  right := hpaired.right.writeDebtor hfind' hplaced.owner_right hplaced.right
  rows :=
    { hpaired.rows with
      debtors := hpaired.rows.debtors.insert hsound.fresh hplaced.same hplaced.owner }

theorem writeRecord {a b : Record} (hplaced : t.Placed a b) :
    t.Paired (u.writeRecord a) (v.writeRecord b) where
  left := hpaired.left.writeRecord hplaced.owner hplaced.left
  right := hpaired.right.writeRecord hplaced.owner_right hplaced.right
  rows :=
    { hpaired.rows with
      records := hpaired.rows.records.insert hsound.fresh hplaced.same hplaced.owner }

theorem writeExchange {a b : Exchange} (hplaced : t.Placed a b) :
    t.Paired (u.writeExchange a) (v.writeExchange b) where
  left := hpaired.left.writeExchange hplaced.owner hplaced.left
  right := hpaired.right.writeExchange hplaced.owner_right hplaced.right
  rows :=
    { hpaired.rows with
      exchanges := hpaired.rows.exchanges.insert hsound.fresh hplaced.same hplaced.owner }

theorem writeDebt {a b : Debt} (hplaced : t.Placed a b) :
    t.Paired (u.writeDebt a) (v.writeDebt b) where
  left := hpaired.left.writeDebt hplaced.owner hplaced.left
  right := hpaired.right.writeDebt hplaced.owner_right hplaced.right
  rows :=
    { hpaired.rows with
      debts := hpaired.rows.debts.insert hsound.fresh hplaced.same hplaced.owner }

theorem dropRecord {id : RecordId} (hhas : t.left.records.HasOf t.user id) :
    t.Paired (u.dropRecord id) (v.dropRecord id) where
  left := hpaired.left.dropRecord hhas.under
  right := hpaired.right.dropRecord (hsound.agree.records.hasOf hhas).under
  rows :=
    { hpaired.rows with
      records := hpaired.rows.records.erase hsound.fresh (hsound.sameId_self hhas) }

theorem dropExchange {id : ExchangeId} (hhas : t.left.exchanges.HasOf t.user id) :
    t.Paired (u.dropExchange id) (v.dropExchange id) where
  left := hpaired.left.dropExchange hhas.under
  right := hpaired.right.dropExchange (hsound.agree.exchanges.hasOf hhas).under
  rows :=
    { hpaired.rows with
      exchanges := hpaired.rows.exchanges.erase hsound.fresh (hsound.sameId_self hhas) }

theorem dropDebt {id : DebtId} (hhas : t.left.debts.HasOf t.user id) :
    t.Paired (u.dropDebt id) (v.dropDebt id) where
  left := hpaired.left.dropDebt hhas.under
  right := hpaired.right.dropDebt (hsound.agree.debts.hasOf hhas).under
  rows :=
    { hpaired.rows with
      debts := hpaired.rows.debts.erase hsound.fresh (hsound.sameId_self hhas) }

omit hsound in
/-- All records that a test keeps, which keeps none of others. -/
theorem dropRecords {chosen : Record → Bool}
    (hleft : ∀ record ∈ t.left.records.rows, chosen record = true → record.userId = t.user)
    (hright : ∀ record ∈ t.right.records.rows, chosen record = true → record.userId = t.user)
    (hchosen : ∀ {a b : Record}, t.SameRecord a b → chosen a = chosen b) :
    t.Paired (Posting.dropWhere u chosen) (Posting.dropWhere v chosen) where
  left := hpaired.left.dropRecords hleft
  right := hpaired.right.dropRecords hright
  rows := by
    have hrecords := hpaired.rows.records.drop hchosen
    rw [Posting.dropWhere, Posting.dropWhere, Posting.working_dropRecords,
      Posting.working_dropRecords]
    exact { hpaired.rows with records := hrecords }

end Paired

end Twins

end CashLedger
