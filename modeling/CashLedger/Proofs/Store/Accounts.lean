import CashLedger.Proofs.Books
import CashLedger.Proofs.Store.Written

/-!
# Accounts

A balance is the account of one user in one currency.  Two checks keep it the only
one: a unit opens an account only if its own tables have none for the pair, and its
commit looks for one that others have opened since.  Neither is enough alone, and
both lean on updates that leave the account of a row as it is.
-/

namespace CashLedger

/-- Rows of one account: what else a balance has may differ. -/
structure Balance.SameAccount (balance after : Balance) : Prop
    extends balance.SameOwner after where
  companyId : after.companyId = balance.companyId
  createdAt : after.createdAt = balance.createdAt

namespace Balance.SameAccount

variable {first middle last : Balance}

theorem refl (balance : Balance) : balance.SameAccount balance := ⟨⟨rfl, rfl, rfl⟩, rfl, rfl⟩

theorem symm (hsame : first.SameAccount last) : last.SameAccount first :=
  ⟨⟨hsame.id.symm, hsame.userId.symm, hsame.currency.symm⟩, hsame.companyId.symm,
    hsame.createdAt.symm⟩

theorem trans (hfirst : first.SameAccount middle) (hlast : middle.SameAccount last) :
    first.SameAccount last :=
  ⟨hfirst.toSameOwner.trans hlast.toSameOwner, hlast.companyId.trans hfirst.companyId,
    hlast.createdAt.trans hfirst.createdAt⟩

/-- A leg and a new version leave the account alone. -/
theorem of_sameRow {now : Timestamp} (hrow : first.SameRow last now) :
    first.SameAccount last where
  id := hrow.id_eq
  userId := hrow.userId_eq
  currency := hrow.currency_eq
  companyId := by rw [hrow]
  createdAt := by rw [hrow]

theorem bump (hsame : first.SameAccount last) : first.SameAccount last.bump := { hsame with }

end Balance.SameAccount

namespace Table

/-- Every account is still there, and is what it was. -/
def KeepsAccounts (earlier later : Table Balance) : Prop :=
  ∀ balance ∈ earlier.rows, ∃ now ∈ later.rows, balance.SameAccount now

namespace KeepsAccounts

variable {first middle last : Table Balance}

theorem refl (balances : Table Balance) : balances.KeepsAccounts balances :=
  fun balance hmem => ⟨balance, hmem, .refl balance⟩

theorem trans (hfirst : first.KeepsAccounts middle) (hlast : middle.KeepsAccounts last) :
    first.KeepsAccounts last := by
  intro balance hmem
  obtain ⟨between, hbetween, hsame⟩ := hfirst balance hmem
  obtain ⟨now, hnow, hsame'⟩ := hlast between hbetween
  exact ⟨now, hnow, hsame.trans hsame'⟩

/-- The row of an identifier has the account that it had. -/
theorem sameAccount (hkeeps : first.KeepsAccounts last) {id : BalanceId} {balance now : Balance}
    (hfind : first.find? id = some balance) (hnow : last.find? id = some now) :
    balance.SameAccount now := by
  obtain ⟨row, hrow, hsame⟩ := hkeeps balance (mem_of_find? hfind)
  have hkey : Keyed.key now = Keyed.key row := calc
    Keyed.key now = id := key_of_find? hnow
    _ = balance.id := (key_of_find? hfind).symm
    _ = row.id := hsame.id.symm
  rw [eq_of_key_eq (mem_of_find? hnow) hrow hkey]
  exact hsame

theorem find?_eq_none (hkeeps : first.KeepsAccounts last) {id : BalanceId}
    (hnone : last.find? id = none) : first.find? id = none := by
  rw [find?_eq_none_iff] at hnone ⊢
  intro balance hmem hkey
  obtain ⟨now, hnow, hsame⟩ := hkeeps balance hmem
  exact hnone now hnow (hsame.id.trans hkey)

theorem insert_sameAccount (hkeeps : first.KeepsAccounts last) {balance after : Balance}
    (hmem : balance ∈ last.rows) (hsame : balance.SameAccount after) :
    first.KeepsAccounts (last.insert after) := by
  refine hkeeps.trans fun row hrow => ?_
  by_cases hid : row.id = after.id
  · rw [eq_of_key_eq hrow hmem (hid.trans hsame.id)]
    exact ⟨after, mem_rows_insert.mpr (.inl rfl), hsame⟩
  · exact ⟨row, mem_rows_insert.mpr (.inr ⟨hrow, hid⟩), .refl row⟩

theorem insert_fresh (hkeeps : first.KeepsAccounts last) {opened : Balance}
    (hfresh : first.find? opened.id = none) : first.KeepsAccounts (last.insert opened) := by
  intro balance hmem
  obtain ⟨now, hnow, hsame⟩ := hkeeps balance hmem
  refine ⟨now, mem_rows_insert.mpr (.inr ⟨hnow, ?_⟩), hsame⟩
  intro hkey
  exact find?_eq_none_iff.mp hfresh balance hmem (hsame.id.symm.trans hkey)

end KeepsAccounts

end Table

/-! ## The account of a pair -/

namespace Tables

/-- Whatever the order of the rows, what is found for a user and currency is their one
balance, or nothing. -/
theorem balanceFor_eq_some_iff {tables : Tables} (hone : tables.balances.OnePerPair)
    {user : UserId} {currency : Currency} {balance : Balance} :
    tables.balanceFor user currency = some balance ↔
      balance ∈ tables.balances.rows ∧ balance.userId = user ∧ balance.currency = currency := by
  rw [balanceFor, ← List.head?_filter]
  constructor
  · intro hhead
    simpa using List.mem_filter.mp (List.mem_of_head? hhead)
  · rintro ⟨hmem, rfl, rfl⟩
    rw [Table.filter_eq_singleton hmem (by simp)]
    · rfl
    · intro other hother hpair
      simp only [Bool.and_eq_true, decide_eq_true_eq] at hpair
      exact hone other hother balance hmem hpair.1 hpair.2

theorem balanceFor_eq_none_iff {tables : Tables} {user : UserId} {currency : Currency} :
    tables.balanceFor user currency = none ↔
      ∀ balance ∈ tables.balances.rows, balance.userId = user → balance.currency ≠ currency := by
  simp [balanceFor]

end Tables

/-! ## Calls -/

/-- A balance that is stored has the account of a row that is there. -/
def Call.KeepsAccount (balances : Table Balance) : Call → Prop
  | updateBalance after => ∃ balance ∈ balances.rows, balance.SameAccount after
  | _ => True

/-- The balance that a call opens. -/
def Call.opened? : Call → Option Balance
  | createBalance balance => some balance
  | _ => none

namespace MemoryUnit

variable {unit last : MemoryUnit} {request : Call} {reply : request.Answer}

theorem onePerPair_answer (hone : unit.working.balances.OnePerPair)
    (hkeeps : request.KeepsAccount unit.working.balances)
    (hanswer : unit.answer request = (.ok reply, last)) :
    last.working.balances.OnePerPair := by
  cases versionedStep_answer hanswer with
  | createsBalance balance hfree =>
    exact hone.insert_free (Tables.balanceFor_eq_none_iff.mp hfree)
  | updatesBalance after current hfind =>
    obtain ⟨balance, hmem, hsame⟩ := hkeeps
    exact hone.insert_sameOwner hmem hsame.bump.toSameOwner
  | createsDebtor debtor => exact hone
  | updatesDebtor debtor current hfind => exact hone
  | leaves hcreated hbalances hdebtors =>
    rw [hbalances.1]
    exact hone

/-- A unit keeps the accounts that it was opened on, and whatever balances it has or has
written are known ones. -/
structure Honours (known : BalanceId → Prop) (snapshot : Table Balance) (unit : MemoryUnit) :
    Prop where
  keeps : snapshot.KeepsAccounts unit.working.balances
  stands : ∀ balance ∈ unit.working.balances.rows, known balance.id
  written : ∀ id ∈ unit.writes.balanceIds, known id

namespace Honours

variable {known : BalanceId → Prop} {snapshot : Table Balance} {shared : Tables}

theorem writeBalance (hhonours : unit.Honours known snapshot) {balance : Balance} {base : Base}
    (hkeeps : snapshot.KeepsAccounts (unit.working.balances.insert balance))
    (hknown : known balance.id) : (unit.writeBalance balance base).Honours known snapshot where
  keeps := hkeeps
  stands row hrow := by
    rcases Table.mem_rows_insert.mp hrow with rfl | ⟨hrow, -⟩
    · exact hknown
    · exact hhonours.stands row hrow
  written id hid := by
    rcases WriteSet.mem_map_fst_touch.mp hid with hid | rfl
    · exact hhonours.written id hid
    · exact hknown

theorem answer (hhonours : unit.Honours known snapshot)
    (hopened : ∀ balance ∈ request.opened?, known balance.id ∧ snapshot.find? balance.id = none)
    (hkeeps : request.KeepsAccount unit.working.balances)
    (hanswer : unit.answer request = (.ok reply, last)) : last.Honours known snapshot := by
  cases versionedStep_answer hanswer with
  | createsBalance balance hfree =>
    obtain ⟨hknown, hfresh⟩ := hopened balance rfl
    exact hhonours.writeBalance (hhonours.keeps.insert_fresh hfresh) hknown
  | updatesBalance after current hfind =>
    obtain ⟨balance, hmem, hsame⟩ := hkeeps
    refine hhonours.writeBalance (hhonours.keeps.insert_sameAccount hmem hsame.bump) ?_
    exact hsame.bump.id ▸ hhonours.stands balance hmem
  | createsDebtor debtor => exact { hhonours with }
  | updatesDebtor debtor current hfind => exact { hhonours with }
  | leaves hcreated hbalances hdebtors =>
    constructor
    · rw [hbalances.1]
      exact hhonours.keeps
    · rw [hbalances.1]
      exact hhonours.stands
    · rw [WriteSet.balanceIds, hbalances.2]
      exact hhonours.written

/-- What a commit publishes keeps the accounts that others have published meanwhile. -/
theorem publish (hhonours : unit.Honours known snapshot)
    (hfollows : snapshot.KeepsAccounts shared.balances)
    (hknown : ∀ balance ∈ shared.balances.rows, known balance.id →
      ∃ old, snapshot.find? balance.id = some old) :
    shared.balances.KeepsAccounts (unit.publish shared).balances := by
  intro balance hmem
  have hpublished := unit.find?_publish_balances shared balance.id
  split at hpublished
  · next hwritten =>
    obtain ⟨old, hold⟩ := hknown balance hmem (hhonours.written _ hwritten)
    have hbefore : old.SameAccount balance :=
      hfollows.sameAccount hold (Table.mem_rows_iff.mp hmem)
    obtain ⟨now, hnow, hafter⟩ := hhonours.keeps old (Table.mem_of_find? hold)
    have hsame : balance.SameAccount now := hbefore.symm.trans hafter
    have hthere : unit.working.balances.find? now.id = some now := Table.mem_rows_iff.mp hnow
    rw [← hsame.id, hthere] at hpublished
    exact ⟨now, Table.mem_of_find? hpublished, hsame⟩
  · have hthere : shared.balances.find? balance.id = some balance := Table.mem_rows_iff.mp hmem
    rw [hthere] at hpublished
    exact ⟨balance, Table.mem_of_find? hpublished, .refl balance⟩

end Honours

/-- A commit that goes through leaves one balance for a user and currency: what it opens is
the only one in its own tables, and the check finds no other in the shared ones. -/
theorem onePerPair_publish {shared : Tables} (hcheck : unit.check shared = .ok ())
    (hworking : unit.working.balances.OnePerPair) (hshared : shared.balances.OnePerPair)
    (hkeeps : shared.balances.KeepsAccounts (unit.publish shared).balances) :
    (unit.publish shared).balances.OnePerPair := by
  -- A published row has the account of a shared one, or it is the unit's and none has its pair.
  have horigin : ∀ row ∈ (unit.publish shared).balances.rows,
      (∃ old ∈ shared.balances.rows, old.SameAccount row) ∨
        row ∈ unit.working.balances.rows ∧ ∀ other ∈ shared.balances.rows,
          other.userId = row.userId → other.currency ≠ row.currency := by
    intro row hrow
    have hpublished : (unit.publish shared).balances.find? row.id = some row :=
      Table.mem_rows_iff.mp hrow
    cases hfind : shared.balances.find? row.id with
    | some old =>
      exact .inl ⟨old, Table.mem_of_find? hfind, hkeeps.sameAccount hfind hpublished⟩
    | none =>
      rw [unit.find?_publish_balances, hfind] at hpublished
      split at hpublished
      · next hwritten =>
        obtain ⟨⟨id, base⟩, hentry, rfl⟩ := List.mem_map.mp hwritten
        have hentry := (check_eq_ok_iff.mp hcheck).1 _ hentry
        cases base with
        | stored version =>
          have hversion := checkBalance_stored_eq_ok.mp hentry
          simp [hfind] at hversion
        | created =>
          have hfree := (checkBalance_created_eq_ok hpublished).mp hentry
          refine .inr ⟨Table.mem_of_find? hpublished, fun other hother huser hcurrency => ?_⟩
          exact Table.find?_eq_none_iff.mp hfind other hother
            (hfree other hother huser hcurrency)
      · cases hpublished
  intro left hleft right hright huser hcurrency
  rcases horigin left hleft with ⟨old, hold, hsame⟩ | ⟨hleft', hfree⟩
  · rcases horigin right hright with ⟨other, hother, hsame'⟩ | ⟨-, hfree⟩
    · have heq : old = other := by
        refine hshared old hold other hother ?_ ?_
        · rw [← hsame.userId, huser, hsame'.userId]
        · rw [← hsame.currency, hcurrency, hsame'.currency]
      apply Table.eq_of_key_eq hleft hright
      calc
        left.id = old.id := hsame.id
        _ = other.id := by rw [heq]
        _ = right.id := hsame'.id.symm
    · exact absurd (hsame.currency.symm.trans hcurrency)
        (hfree old hold (hsame.userId.symm.trans huser))
  · rcases horigin right hright with ⟨other, hother, hsame⟩ | ⟨hright', -⟩
    · exact absurd (hsame.currency.symm.trans hcurrency.symm)
        (hfree other hother (hsame.userId.symm.trans huser.symm))
    · exact hworking left hleft' right hright' huser hcurrency

end MemoryUnit

end CashLedger
