import CashLedger.Proofs.Legs
import CashLedger.Proofs.Store.Table
import CashLedger.Store.Memory

/-!
# Balanced books

Balances and the records that stand against them are balanced when each total is
the exact sum of its records and the funds are their difference and not
negative.  Posting a leg together with its record keeps them so, and so does
taking a leg back together with its record.  In the midst of a change the
standing records need not be the stored ones, so they are a table of their own
here.
-/

namespace CashLedger

/-- What a record took out of a balance. -/
def Record.outgoingFrom (balance : BalanceId) (record : Record) : Int :=
  if record.balanceId = balance then record.leg.outgoing else 0

/-- What a record brought into a balance. -/
def Record.incomingTo (balance : BalanceId) (record : Record) : Int :=
  if record.balanceId = balance then record.leg.incoming else 0

structure Balanced (balances : Table Balance) (records : Table Record) : Prop where
  /-- One balance for a user and currency. -/
  unique : ∀ left ∈ balances.rows, ∀ right ∈ balances.rows,
    left.userId = right.userId → left.currency = right.currency → left = right
  placed : ∀ record ∈ records.rows, ∃ balance,
    balances.find? record.balanceId = some balance ∧
      balance.userId = record.userId ∧ balance.currency = record.currency
  positive : ∀ record ∈ records.rows, 0 < record.amount.toInt
  outgoing : ∀ balance ∈ balances.rows,
    balance.outgoing.toInt = records.sumOf (Record.outgoingFrom balance.id)
  incoming : ∀ balance ∈ balances.rows,
    balance.incoming.toInt = records.sumOf (Record.incomingTo balance.id)
  funds : ∀ balance ∈ balances.rows,
    balance.funds.toInt = balance.incoming.toInt - balance.outgoing.toInt
  covered : ∀ balance ∈ balances.rows, 0 ≤ balance.funds.toInt

namespace Balance

variable {balance after : Balance} {leg : Leg} {now : Timestamp}

theorem Applied.funds_nonneg (happlied : balance.Applied leg now after)
    (hcovered : 0 ≤ balance.funds.toInt) : 0 ≤ after.funds.toInt := by
  have hfunds := happlied.funds
  have hpositive := happlied.positive
  have hcovers := happlied.covered
  cases hdirection : leg.direction <;>
    simp only [hdirection, Leg.incoming, Leg.outgoing, forall_const, reduceCtorEq,
      false_implies] at hfunds hcovers <;>
    omega

theorem Undone.funds_nonneg (hundone : balance.Undone leg now after)
    (hcovered : 0 ≤ balance.funds.toInt) : 0 ≤ after.funds.toInt := by
  have hfunds := hundone.funds
  have hpositive := hundone.positive
  have hcovers := hundone.covered
  cases hdirection : leg.direction <;>
    simp only [hdirection, Leg.incoming, Leg.outgoing, forall_const, reduceCtorEq,
      false_implies] at hfunds hcovers <;>
    omega

@[simp] theorem bump_funds (balance : Balance) : balance.bump.funds = balance.funds := rfl

@[simp] theorem bump_outgoing (balance : Balance) :
    balance.bump.outgoing = balance.outgoing := rfl

@[simp] theorem bump_incoming (balance : Balance) :
    balance.bump.incoming = balance.incoming := rfl

/-- Rows of one identifier, owner and currency. -/
structure SameOwner (balance after : Balance) : Prop where
  id : after.id = balance.id
  userId : after.userId = balance.userId
  currency : after.currency = balance.currency

theorem SameOwner.trans {first middle last : Balance} (hfirst : first.SameOwner middle)
    (hlast : middle.SameOwner last) : first.SameOwner last :=
  ⟨hlast.id.trans hfirst.id, hlast.userId.trans hfirst.userId,
    hlast.currency.trans hfirst.currency⟩

theorem SameRow.sameOwner_bump (hrow : balance.SameRow after now) :
    balance.SameOwner after.bump :=
  ⟨hrow.id_eq, hrow.userId_eq, hrow.currency_eq⟩

end Balance

/-! ## Users and currencies -/

namespace Table

/-- No two balances are of one user and in one currency. -/
def OnePerPair (balances : Table Balance) : Prop :=
  ∀ left ∈ balances.rows, ∀ right ∈ balances.rows,
    left.userId = right.userId → left.currency = right.currency → left = right

namespace OnePerPair

variable {balances : Table Balance} {balance after : Balance}

/-- A row that takes the place of a balance leaves owners and currencies alone. -/
theorem insert_sameOwner (hone : balances.OnePerPair) (hmem : balance ∈ balances.rows)
    (howner : balance.SameOwner after) : (balances.insert after).OnePerPair := by
  -- Every row of the new table stands for a row of the old one with its owner.
  have hold : ∀ row ∈ (balances.insert after).rows, ∃ old ∈ balances.rows,
      old.id = row.id ∧ old.userId = row.userId ∧ old.currency = row.currency := by
    intro row hrow
    rcases Table.mem_rows_insert.mp hrow with rfl | ⟨hrow, -⟩
    · exact ⟨balance, hmem, howner.id.symm, howner.userId.symm, howner.currency.symm⟩
    · exact ⟨row, hrow, rfl, rfl, rfl⟩
  intro left hleft right hright huser hcurrency
  obtain ⟨old, hold₁, hid₁, huser₁, hcurrency₁⟩ := hold left hleft
  obtain ⟨other, hold₂, hid₂, huser₂, hcurrency₂⟩ := hold right hright
  have heq := hone old hold₁ other hold₂ (by rw [huser₁, huser, huser₂])
    (by rw [hcurrency₁, hcurrency, hcurrency₂])
  apply Table.eq_of_key_eq hleft hright
  change left.id = right.id
  rw [← hid₁, ← hid₂, heq]

/-- A row may be put in whose user has none in its currency. -/
theorem insert_free (hone : balances.OnePerPair)
    (hfree : ∀ other ∈ balances.rows, other.userId = balance.userId →
      other.currency ≠ balance.currency) : (balances.insert balance).OnePerPair := by
  intro left hleft right hright huser hcurrency
  rcases Table.mem_rows_insert.mp hleft with rfl | ⟨hleft', -⟩
  · rcases Table.mem_rows_insert.mp hright with rfl | ⟨hright', -⟩
    · rfl
    · exact absurd hcurrency.symm (hfree right hright' huser.symm)
  · rcases Table.mem_rows_insert.mp hright with rfl | ⟨hright', -⟩
    · exact absurd hcurrency (hfree left hleft' huser)
    · exact hone left hleft' right hright' huser hcurrency

end OnePerPair

end Table

namespace Balanced

variable {balances balances' : Table Balance} {records records' : Table Record}

theorem congr (hbalanced : Balanced balances records) (hbalances : balances.Same balances')
    (hrecords : records.Same records') : Balanced balances' records' where
  unique left hleft right hright :=
    hbalanced.unique left (hbalances.mem_iff.mpr hleft) right (hbalances.mem_iff.mpr hright)
  placed record hrecord := by
    rw [← hbalances]
    exact hbalanced.placed record (hrecords.mem_iff.mpr hrecord)
  positive record hrecord := hbalanced.positive record (hrecords.mem_iff.mpr hrecord)
  outgoing balance hbalance := by
    rw [← hrecords.sumOf_eq]
    exact hbalanced.outgoing balance (hbalances.mem_iff.mpr hbalance)
  incoming balance hbalance := by
    rw [← hrecords.sumOf_eq]
    exact hbalanced.incoming balance (hbalances.mem_iff.mpr hbalance)
  funds balance hbalance := hbalanced.funds balance (hbalances.mem_iff.mpr hbalance)
  covered balance hbalance := hbalanced.covered balance (hbalances.mem_iff.mpr hbalance)

theorem empty : Balanced .empty .empty := by
  constructor <;> simp [Table.empty]

/-- The balance of a pair is the only row with that owner and currency. -/
theorem filter_pair_eq (hbalanced : Balanced balances records) {balance : Balance}
    (hmem : balance ∈ balances.rows) :
    (balances.rows.filter fun b =>
      b.userId = balance.userId && b.currency = balance.currency) = [balance] := by
  apply Table.filter_eq_singleton hmem (by simp)
  intro other hother hpair
  simp only [Bool.and_eq_true, decide_eq_true_eq] at hpair
  exact hbalanced.unique other hother balance hmem hpair.1 hpair.2

section Change

variable {balance after : Balance}

theorem placed_insert {record : Record} (howner : balance.SameOwner after)
    (hmem : balance ∈ balances.rows)
    (hplaced : ∃ found, balances.find? record.balanceId = some found ∧
      found.userId = record.userId ∧ found.currency = record.currency) :
    ∃ found, (balances.insert after).find? record.balanceId = some found ∧
      found.userId = record.userId ∧ found.currency = record.currency := by
  obtain ⟨found, hfind, huser, hcurrency⟩ := hplaced
  by_cases heq : record.balanceId = after.id
  · have hthere : balances.find? balance.id = some balance := Table.mem_rows_iff.mp hmem
    rw [heq, howner.id, hthere] at hfind
    have hsame := Option.some.inj hfind
    subst hsame
    refine ⟨after, ?_, howner.userId.trans huser, howner.currency.trans hcurrency⟩
    rw [heq]
    exact Table.find?_insert_self balances after
  · exact ⟨found, by rw [Table.find?_insert_of_ne _ heq, hfind], huser, hcurrency⟩

/-- A row takes the place of a balance, and the sums over the records move by as much
as its totals. -/
theorem revise (hbalanced : Balanced balances records) (hmem : balance ∈ balances.rows)
    (howner : balance.SameOwner after)
    (hplaced : ∀ record ∈ records'.rows, ∃ found,
      balances.find? record.balanceId = some found ∧
        found.userId = record.userId ∧ found.currency = record.currency)
    (hpositive : ∀ record ∈ records'.rows, 0 < record.amount.toInt)
    (houtgoing : ∀ id, records'.sumOf (Record.outgoingFrom id) =
      records.sumOf (Record.outgoingFrom id) +
        if balance.id = id then after.outgoing.toInt - balance.outgoing.toInt else 0)
    (hincoming : ∀ id, records'.sumOf (Record.incomingTo id) =
      records.sumOf (Record.incomingTo id) +
        if balance.id = id then after.incoming.toInt - balance.incoming.toInt else 0)
    (hfunds : after.funds.toInt = after.incoming.toInt - after.outgoing.toInt)
    (hcovered : 0 ≤ after.funds.toInt) :
    Balanced (balances.insert after) records' where
  unique := Table.OnePerPair.insert_sameOwner hbalanced.unique hmem howner
  placed record hrecord := placed_insert howner hmem (hplaced record hrecord)
  positive := hpositive
  outgoing row hrow := by
    rw [houtgoing]
    rcases Table.mem_rows_insert.mp hrow with rfl | ⟨hrow, hne⟩
    · rw [if_pos howner.id.symm, howner.id, ← hbalanced.outgoing balance hmem]
      omega
    · rw [if_neg fun h => hne (h.symm.trans howner.id.symm), hbalanced.outgoing row hrow]
      omega
  incoming row hrow := by
    rw [hincoming]
    rcases Table.mem_rows_insert.mp hrow with rfl | ⟨hrow, hne⟩
    · rw [if_pos howner.id.symm, howner.id, ← hbalanced.incoming balance hmem]
      omega
    · rw [if_neg fun h => hne (h.symm.trans howner.id.symm), hbalanced.incoming row hrow]
      omega
  funds row hrow := by
    rcases Table.mem_rows_insert.mp hrow with rfl | ⟨hrow, -⟩
    · exact hfunds
    · exact hbalanced.funds row hrow
  covered row hrow := by
    rcases Table.mem_rows_insert.mp hrow with rfl | ⟨hrow, -⟩
    · exact hcovered
    · exact hbalanced.covered row hrow

variable {record : Record} {now : Timestamp}

/-- A leg is applied to a balance and its record put with those that stand. -/
theorem post {leg : Leg} (hbalanced : Balanced balances records)
    (hmem : balance ∈ balances.rows) (happlied : balance.Applied leg now after)
    (hfresh : records.find? record.id = none) (hid : record.balanceId = balance.id)
    (huser : record.userId = balance.userId) (hcurrency : record.currency = balance.currency)
    (hleg : record.leg = leg) :
    Balanced (balances.insert after.bump) (records.insert record) := by
  subst hleg
  have hfunds := hbalanced.funds balance hmem
  have hcovered := hbalanced.covered balance hmem
  apply hbalanced.revise hmem happlied.sameRow.sameOwner_bump
  · intro row hrow
    rcases Table.mem_rows_insert.mp hrow with rfl | ⟨hrow, -⟩
    · refine ⟨balance, ?_, huser.symm, hcurrency.symm⟩
      rw [hid]
      exact Table.mem_rows_iff.mp hmem
    · exact hbalanced.placed row hrow
  · intro row hrow
    rcases Table.mem_rows_insert.mp hrow with rfl | ⟨hrow, -⟩
    · exact happlied.positive
    · exact hbalanced.positive row hrow
  · intro id
    rw [Table.sumOf_insert_of_fresh hfresh, Record.outgoingFrom, hid, Balance.bump_outgoing,
      happlied.outgoing]
    split <;> omega
  · intro id
    rw [Table.sumOf_insert_of_fresh hfresh, Record.incomingTo, hid, Balance.bump_incoming,
      happlied.incoming]
    split <;> omega
  · rw [Balance.bump_funds, Balance.bump_incoming, Balance.bump_outgoing, happlied.funds,
      happlied.incoming, happlied.outgoing]
    omega
  · exact happlied.funds_nonneg hcovered

/-- A standing record's leg is taken back and the record no longer stands. -/
theorem reverse (hbalanced : Balanced balances records) (hrecord : record ∈ records.rows)
    (hfind : balances.find? record.balanceId = some balance)
    (hundone : balance.Undone record.leg now after) :
    Balanced (balances.insert after.bump) (records.erase record.id) := by
  have hmem := Table.mem_of_find? hfind
  have hid : record.balanceId = balance.id := (Table.key_of_find? hfind).symm
  have hfunds := hbalanced.funds balance hmem
  have hcovered := hbalanced.covered balance hmem
  have hsum : ∀ quantity : Record → Int, (records.erase record.id).sumOf quantity =
      records.sumOf quantity - quantity record :=
    fun quantity => Table.sumOf_erase_of_mem hrecord
  apply hbalanced.revise hmem hundone.sameRow.sameOwner_bump
  · exact fun row hrow => hbalanced.placed row (Table.mem_rows_erase.mp hrow).1
  · exact fun row hrow => hbalanced.positive row (Table.mem_rows_erase.mp hrow).1
  · intro id
    rw [hsum, Record.outgoingFrom, hid, Balance.bump_outgoing, hundone.outgoing]
    split <;> omega
  · intro id
    rw [hsum, Record.incomingTo, hid, Balance.bump_incoming, hundone.incoming]
    split <;> omega
  · rw [Balance.bump_funds, Balance.bump_incoming, Balance.bump_outgoing, hundone.funds,
      hundone.incoming, hundone.outgoing]
    omega
  · exact hundone.funds_nonneg hcovered

/-- A new balance, of an owner who has none in its currency. -/
theorem open_zero (hbalanced : Balanced balances records) {user : User} {id : BalanceId}
    {currency : Currency} (hfresh : balances.find? id = none)
    (hfree : ∀ balance ∈ balances.rows, balance.userId = user.id →
      balance.currency ≠ currency) :
    Balanced (balances.insert (.zero id user currency now)) records := by
  -- No record can lie on a balance that was not there.
  have hunused : ∀ record ∈ records.rows, record.balanceId ≠ id := by
    intro record hrecord heq
    obtain ⟨found, hfind, -⟩ := hbalanced.placed record hrecord
    rw [heq, hfresh] at hfind
    cases hfind
  constructor
  · exact Table.OnePerPair.insert_free hbalanced.unique hfree
  · intro record hrecord
    obtain ⟨found, hfind, hplaced⟩ := hbalanced.placed record hrecord
    refine ⟨found, ?_, hplaced⟩
    rw [Table.find?_insert_of_ne _ (hunused record hrecord), hfind]
  · exact hbalanced.positive
  · intro row hrow
    rcases Table.mem_rows_insert.mp hrow with rfl | ⟨hrow, -⟩
    · symm
      apply List.sum_eq_zero
      simp only [List.mem_map, forall_exists_index, and_imp, forall_apply_eq_imp_iff₂]
      intro record hrecord
      exact if_neg (hunused record hrecord)
    · exact hbalanced.outgoing row hrow
  · intro row hrow
    rcases Table.mem_rows_insert.mp hrow with rfl | ⟨hrow, -⟩
    · symm
      apply List.sum_eq_zero
      simp only [List.mem_map, forall_exists_index, and_imp, forall_apply_eq_imp_iff₂]
      intro record hrecord
      exact if_neg (hunused record hrecord)
    · exact hbalanced.incoming row hrow
  · intro row hrow
    rcases Table.mem_rows_insert.mp hrow with rfl | ⟨hrow, -⟩
    · rfl
    · exact hbalanced.funds row hrow
  · intro row hrow
    rcases Table.mem_rows_insert.mp hrow with rfl | ⟨hrow, -⟩
    · exact le_rfl
    · exact hbalanced.covered row hrow

end Change

end Balanced

end CashLedger
