import CashLedger.Proofs.Store.Accounts

/-!
# Movements over balances

A change moves money step by step: a leg is applied to a balance or taken back from one, each
time as the step before left it, and now and then something else is tested.  Whether all the
steps go through, and what they leave, is a matter of the balances alone, and not of the time.
Two steps may change places if they are over two balances, or if both only take money out.
-/

namespace CashLedger

theorem Amount.exists_toInt_eq {n : Int} (hlow : Amount.lowest ≤ n) (hhigh : n ≤ Amount.highest) :
    ∃ amount : Amount, amount.toInt = n :=
  ⟨Int64.ofInt n, Amount.toInt_ofInt hlow hhigh⟩

theorem Except.toOption_eq_some_iff {α : Type} {outcome : Except LedgerError α} {value : α} :
    outcome.toOption = some value ↔ outcome = .ok value := by
  cases outcome <;> simp [Except.toOption]

namespace Balance

/-! ## One step over one balance -/

/-- The row with nothing said of when it was last changed. -/
def timeless (balance : Balance) : Balance := { balance with updatedAt := balance.createdAt }

/-- What is stored for a balance after a leg. -/
def applied? (leg : Leg) (balance : Balance) : Option Balance :=
  (settled (balance.apply leg balance.updatedAt)).toOption.map bump

/-- What is stored for a balance after a leg was taken back. -/
def undone? (leg : Leg) (balance : Balance) : Option Balance :=
  (settled (balance.reverse leg balance.updatedAt)).toOption.map bump

section Time

variable (balance : Balance) (leg : Leg) (funds total : Option Amount) (now : Timestamp)

theorem settled_setOutgoing_timeless :
    (settled (balance.timeless.setOutgoing funds total balance.timeless.updatedAt)).toOption =
      (settled (balance.setOutgoing funds total now)).toOption.map timeless := by
  cases funds <;> cases total <;> rfl

theorem settled_setIncoming_timeless :
    (settled (balance.timeless.setIncoming funds total balance.timeless.updatedAt)).toOption =
      (settled (balance.setIncoming funds total now)).toOption.map timeless := by
  cases funds <;> cases total <;> rfl

theorem applied?_timeless :
    balance.timeless.applied? leg =
      (settled (balance.apply leg now)).toOption.map fun after => after.bump.timeless := by
  obtain ⟨direction, amount⟩ := leg
  simp only [applied?, apply]
  cases checkPositive amount with
  | error cause => rfl
  | ok _ =>
    cases direction with
    | debit =>
      have hcovers : balance.timeless.covers amount = balance.covers amount := rfl
      simp only [hcovers]
      cases balance.covers amount with
      | false => rfl
      | true =>
        simp only [if_true]
        rw [settled_setOutgoing_timeless _ _ _ now, Option.map_map]
        rfl
    | credit =>
      simp only
      rw [settled_setIncoming_timeless _ _ _ now, Option.map_map]
      rfl

/-- Why a leg is refused does not depend on any time. -/
theorem settled_apply_timeless_eq_error_iff {cause : LedgerError} (now' : Timestamp) :
    settled (balance.timeless.apply leg now') = .error cause ↔
      settled (balance.apply leg now) = .error cause := by
  obtain ⟨direction, amount⟩ := leg
  have hcovers : balance.timeless.covers amount = balance.covers amount := rfl
  simp only [apply, hcovers]
  cases checkPositive amount with
  | error other => rfl
  | ok _ =>
    cases direction with
    | debit =>
      cases balance.covers amount with
      | true =>
        change settled (setOutgoing _ (balance.funds.sub? amount) (balance.outgoing.add? amount) _) =
          _ ↔ _
        simp only [if_true]
        cases balance.funds.sub? amount <;> cases balance.outgoing.add? amount <;>
          simp [setOutgoing, settled, Except.map, overflow, timeless]
      | false => rfl
    | credit =>
      change settled (setIncoming _ (balance.funds.add? amount) (balance.incoming.add? amount) _) =
        _ ↔ _
      cases balance.funds.add? amount <;> cases balance.incoming.add? amount <;>
        simp [setIncoming, settled, Except.map, overflow, timeless]

theorem undone?_timeless :
    balance.timeless.undone? leg =
      (settled (balance.reverse leg now)).toOption.map fun after => after.bump.timeless := by
  obtain ⟨direction, amount⟩ := leg
  simp only [undone?, reverse]
  cases checkPositive amount with
  | error cause => rfl
  | ok _ =>
    cases direction with
    | debit =>
      simp only
      rw [settled_setOutgoing_timeless _ _ _ now, Option.map_map]
      rfl
    | credit =>
      have hcovers : balance.timeless.covers amount = balance.covers amount := rfl
      simp only [hcovers]
      cases balance.covers amount with
      | false => rfl
      | true =>
        simp only [if_true]
        rw [settled_setIncoming_timeless _ _ _ now, Option.map_map]
        rfl

end Time

/-! ## Two steps that take money out -/

/-- A balance after an amount was taken out of it, with what that did to the other totals. -/
structure Taken (balance : Balance) (amount : Amount) (outgoing incoming : Int)
    (now : Timestamp) (after : Balance) : Prop where
  positive : 0 < amount.toInt
  covered : amount.toInt ≤ balance.funds.toInt
  sameRow : balance.SameRow after now
  funds : after.funds.toInt = balance.funds.toInt - amount.toInt
  outgoing : after.outgoing.toInt = balance.outgoing.toInt + outgoing
  incoming : after.incoming.toInt = balance.incoming.toInt + incoming

variable {balance middle after : Balance} {leg : Leg} {now : Timestamp} {n m : Amount}

theorem applied_debit_iff :
    balance.Applied ⟨.debit, n⟩ now after ↔ balance.Taken n n.toInt 0 now after := by
  constructor
  · rintro ⟨hpositive, hcovered, hrow, hfunds, houtgoing, hincoming⟩
    exact ⟨hpositive, hcovered rfl, hrow, by simpa [Leg.incoming, Leg.outgoing] using hfunds,
      houtgoing, hincoming⟩
  · rintro ⟨hpositive, hcovered, hrow, hfunds, houtgoing, hincoming⟩
    exact ⟨hpositive, fun _ => hcovered, hrow,
      by simpa [Leg.incoming, Leg.outgoing] using hfunds, houtgoing, hincoming⟩

theorem undone_credit_iff :
    balance.Undone ⟨.credit, m⟩ now after ↔ balance.Taken m 0 (-m.toInt) now after := by
  constructor
  · rintro ⟨hpositive, hcovered, hrow, hfunds, houtgoing, hincoming⟩
    exact ⟨hpositive, hcovered rfl, hrow, by simpa [Leg.incoming, Leg.outgoing] using hfunds,
      by simpa [Leg.outgoing] using houtgoing, hincoming⟩
  · rintro ⟨hpositive, hcovered, hrow, hfunds, houtgoing, hincoming⟩
    exact ⟨hpositive, fun _ => hcovered, hrow,
      by simpa [Leg.incoming, Leg.outgoing] using hfunds,
      by simpa [Leg.outgoing] using houtgoing, hincoming⟩

theorem SameRow.trans_bump (hrow : balance.SameRow middle now)
    (hrow' : middle.bump.SameRow after now) (funds outgoing incoming : Amount) :
    Balance.SameRow (bump { balance with funds, outgoing, incoming, updatedAt := now }) after
      now := by
  refine hrow'.trans ?_
  rw [hrow]
  rfl

/-- The funds that cover both amounts one after the other cover them the other way round. -/
theorem Taken.swap {outgoing outgoing' incoming incoming' : Int}
    (hfirst : balance.Taken n outgoing incoming now middle)
    (hsecond : middle.bump.Taken m outgoing' incoming' now after)
    (houtgoing : outgoing = 0 ∨ outgoing' = 0) (hincoming : incoming = 0 ∨ incoming' = 0) :
    ∃ between, balance.Taken m outgoing' incoming' now between ∧
      between.bump.Taken n outgoing incoming now after := by
  obtain ⟨hpositive, hcovered, hrow, hfunds, hout, hin⟩ := hfirst
  obtain ⟨hpositive', hcovered', hrow', hfunds', hout', hin'⟩ := hsecond
  simp only [bump_funds, bump_outgoing, bump_incoming] at hcovered' hfunds' hout' hin'
  have hrange := Int64.toInt_lt balance.funds
  obtain ⟨funds, hbetween⟩ : ∃ funds : Amount, funds.toInt = balance.funds.toInt - m.toInt := by
    apply Amount.exists_toInt_eq <;> simp only [Amount.lowest, Amount.highest] <;> omega
  obtain ⟨out, hbetween'⟩ : ∃ total : Amount,
      total.toInt = balance.outgoing.toInt + outgoing' := by
    rcases houtgoing with h | h
    · exact ⟨after.outgoing, by omega⟩
    · exact ⟨balance.outgoing, by omega⟩
  obtain ⟨inc, hbetween''⟩ : ∃ total : Amount,
      total.toInt = balance.incoming.toInt + incoming' := by
    rcases hincoming with h | h
    · exact ⟨after.incoming, by omega⟩
    · exact ⟨balance.incoming, by omega⟩
  refine ⟨{ balance with funds, outgoing := out, incoming := inc, updatedAt := now },
    ⟨hpositive', by omega, rfl, hbetween, hbetween', hbetween''⟩,
    ⟨hpositive, ?_, hrow.trans_bump hrow' funds out inc, ?_, ?_, ?_⟩⟩ <;>
  simp only [bump_funds, bump_outgoing, bump_incoming] <;>
  omega

theorem applied?_eq_some_iff :
    balance.applied? leg = some after ↔
      ∃ middle, balance.Applied leg balance.updatedAt middle ∧ middle.bump = after := by
  simp only [applied?, Option.map_eq_some_iff, Except.toOption_eq_some_iff,
    settled_apply_eq_ok_iff]

theorem undone?_eq_some_iff :
    balance.undone? leg = some after ↔
      ∃ middle, balance.Undone leg balance.updatedAt middle ∧ middle.bump = after := by
  simp only [undone?, Option.map_eq_some_iff, Except.toOption_eq_some_iff,
    settled_reverse_eq_ok_iff]

/-- A debit and the taking back of a credit come to the same in either order. -/
theorem applied?_undone?_comm (balance : Balance) (n m : Amount) :
    (balance.applied? ⟨.debit, n⟩).bind (undone? ⟨.credit, m⟩) =
      (balance.undone? ⟨.credit, m⟩).bind (applied? ⟨.debit, n⟩) := by
  have htime : ∀ {middle : Balance}, balance.SameRow middle balance.updatedAt →
      middle.bump.updatedAt = balance.updatedAt := by
    intro middle hrow
    rw [hrow]
    rfl
  ext after
  simp only [Option.bind_eq_some_iff, applied?_eq_some_iff, undone?_eq_some_iff,
    applied_debit_iff, undone_credit_iff]
  constructor
  · rintro ⟨_, ⟨middle, hfirst, rfl⟩, last, hsecond, rfl⟩
    rw [htime hfirst.sameRow] at hsecond
    obtain ⟨between, hbetween, hlast⟩ := hfirst.swap hsecond (.inr rfl) (.inl rfl)
    refine ⟨_, ⟨between, hbetween, rfl⟩, last, ?_, rfl⟩
    rwa [htime hbetween.sameRow]
  · rintro ⟨_, ⟨middle, hfirst, rfl⟩, last, hsecond, rfl⟩
    rw [htime hfirst.sameRow] at hsecond
    obtain ⟨between, hbetween, hlast⟩ := hfirst.swap hsecond (.inl rfl) (.inr rfl)
    refine ⟨_, ⟨between, hbetween, rfl⟩, last, ?_, rfl⟩
    rwa [htime hbetween.sameRow]

end Balance

/-! ## Steps over all balances -/

/-- What there is under each identifier of a balance, but for the time of its last change. -/
abbrev Accounts := BalanceId → Option Balance

/-- What a step moves or tests. -/
inductive Movement where
  /-- A leg is applied to the balance in a place, if there is one. -/
  | applied (place : Option BalanceId) (leg : Leg)
  /-- A leg is taken back from the balance in a place. -/
  | undone (place : BalanceId) (leg : Leg)
  /-- Something that no balance shows has to be so. -/
  | passed (test : Bool)

namespace Accounts

/-- Changes the balance in a place. -/
def change (accounts : Accounts) (place : Option BalanceId) (step : Balance → Option Balance) :
    Option Accounts :=
  place.bind fun id => ((accounts id).bind step).map fun after =>
    Function.update accounts id (some after)

def move (accounts : Accounts) : Movement → Option Accounts
  | .applied place leg => accounts.change place (Balance.applied? leg)
  | .undone place leg => accounts.change (some place) (Balance.undone? leg)
  | .passed test => if test then some accounts else none

def moves (accounts : Accounts) : List Movement → Option Accounts
  | [] => some accounts
  | movement :: rest => (accounts.move movement).bind fun later => later.moves rest

variable {accounts later : Accounts} {first second : Balance → Option Balance}

theorem moves_append (accounts : Accounts) (movements more : List Movement) :
    accounts.moves (movements ++ more) =
      (accounts.moves movements).bind fun later => later.moves more := by
  induction movements generalizing accounts with
  | nil => rfl
  | cons movement rest ih =>
    simp only [List.cons_append, moves, ih, Option.bind_assoc]

/-- A test may be made at any time. -/
theorem moves_passed (accounts : Accounts) (movements more : List Movement) (test : Bool) :
    accounts.moves (movements ++ .passed test :: more) =
      accounts.moves (.passed test :: (movements ++ more)) := by
  cases test with
  | true => simp only [moves_append, moves, move, if_true, Option.bind_some]
  | false => simp [moves_append, moves, move]

theorem isSome_moves_passed {movements : List Movement} {test : Bool} :
    (accounts.moves (.passed test :: movements)).isSome ↔
      test = true ∧ (accounts.moves movements).isSome := by
  cases test <;> simp [moves, move]

theorem isSome_moves_append_passed {movements : List Movement} {test : Bool} :
    (accounts.moves (movements ++ [.passed test])).isSome ↔
      test = true ∧ (accounts.moves movements).isSome := by
  rw [moves_passed, List.append_nil, isSome_moves_passed]

/-- Two steps in one place are one. -/
theorem change_change (accounts : Accounts) (id : BalanceId)
    (first second : Balance → Option Balance) :
    ((accounts.change (some id) first).bind fun later => later.change (some id) second) =
      accounts.change (some id) fun balance => (first balance).bind second := by
  simp only [change, Option.bind_some]
  rw [← Option.bind_assoc]
  cases (accounts id).bind first with
  | none => rfl
  | some after =>
    simp only [Option.map_some, Option.bind_some, Function.update_self, Function.update_idem]

/-- Steps over one balance that commute there, or over two, may change places. -/
theorem change_comm (hcomm : ∀ balance, (first balance).bind second = (second balance).bind first)
    (accounts : Accounts) (place place' : Option BalanceId) :
    ((accounts.change place first).bind fun later => later.change place' second) =
      (accounts.change place' second).bind fun later => later.change place first := by
  rcases place with - | id
  · simp [change]
  rcases place' with - | id'
  · simp [change]
  by_cases hsame : id = id'
  · subst hsame
    simp only [change_change, hcomm]
  simp only [change, Option.bind_some]
  cases hfound : (accounts id).bind first with
  | none =>
    cases (accounts id').bind second <;> simp only [Option.map_none, Option.map_some,
      Option.bind_none, Option.bind_some, Function.update_of_ne hsame, hfound]
  | some after =>
    cases hfound' : (accounts id').bind second <;> simp only [Option.map_none, Option.map_some,
      Option.bind_none, Option.bind_some, Function.update_of_ne hsame,
      Function.update_of_ne (Ne.symm hsame), hfound, hfound', Function.update_comm hsame]

/-- A debit and the taking back of a credit may change places. -/
theorem moves_swap (accounts : Accounts) (place : Option BalanceId) (place' : BalanceId)
    (n m : Amount) (more : List Movement) :
    accounts.moves (.applied place ⟨.debit, n⟩ :: .undone place' ⟨.credit, m⟩ :: more) =
      accounts.moves (.undone place' ⟨.credit, m⟩ :: .applied place ⟨.debit, n⟩ :: more) := by
  have hcomm := change_comm (fun balance => balance.applied?_undone?_comm n m) accounts place
    (some place')
  simp only [moves, move, ← Option.bind_assoc, hcomm]

end Accounts

/-! ## The balances of a store -/

def Table.accounts (balances : Table Balance) : Accounts := fun id =>
  (balances.find? id).map Balance.timeless

theorem Table.accounts_insert (balances : Table Balance) (balance : Balance) :
    (balances.insert balance).accounts =
      Function.update balances.accounts balance.id (some balance.timeless) := by
  funext id
  rw [accounts, find?_insert]
  by_cases hid : id = balance.id
  · subst hid
    rw [Function.update_self]
    exact congrArg _ (if_pos rfl)
  · rw [Function.update_of_ne hid]
    exact congrArg _ (if_neg hid)

theorem Table.accounts_congr {balances balances' : Table Balance}
    (hsame : balances.Same balances') : balances.accounts = balances'.accounts :=
  funext fun id => congrArg _ (hsame id)

namespace Tables

/-- Where the balance of a user in a currency is. -/
def place (tables : Tables) (user : UserId) (currency : Currency) : Option BalanceId :=
  (tables.balanceFor user currency).map Balance.id

variable {tables other : Tables}

theorem place_eq_some_iff (hone : tables.balances.OnePerPair) {user : UserId}
    {currency : Currency} {id : BalanceId} :
    tables.place user currency = some id ↔
      ∃ balance ∈ tables.balances.rows, balance.id = id ∧ balance.userId = user ∧
        balance.currency = currency := by
  simp only [place, Option.map_eq_some_iff, balanceFor_eq_some_iff hone]
  constructor
  · rintro ⟨balance, ⟨hmem, huser, hcurrency⟩, hid⟩
    exact ⟨balance, hmem, hid, huser, hcurrency⟩
  · rintro ⟨balance, hmem, hid, huser, hcurrency⟩
    exact ⟨balance, ⟨hmem, huser, hcurrency⟩, hid⟩

/-- Places stay as long as each balance keeps its owner. -/
theorem place_eq (hone : tables.balances.OnePerPair) (hone' : other.balances.OnePerPair)
    (hforth : ∀ balance ∈ tables.balances.rows, ∃ after ∈ other.balances.rows,
      balance.SameOwner after)
    (hback : ∀ after ∈ other.balances.rows, ∃ balance ∈ tables.balances.rows,
      balance.SameOwner after) : other.place = tables.place := by
  funext user currency
  ext id
  rw [place_eq_some_iff hone, place_eq_some_iff hone']
  constructor
  · rintro ⟨after, hmem, rfl, rfl, rfl⟩
    obtain ⟨balance, hbalance, hsame⟩ := hback after hmem
    exact ⟨balance, hbalance, hsame.id.symm, hsame.userId.symm, hsame.currency.symm⟩
  · rintro ⟨balance, hmem, rfl, rfl, rfl⟩
    obtain ⟨after, hafter, hsame⟩ := hforth balance hmem
    exact ⟨after, hafter, hsame.id, hsame.userId, hsame.currency⟩

theorem place_congr (hone : tables.balances.OnePerPair)
    (hsame : tables.balances.Same other.balances) (hone' : other.balances.OnePerPair) :
    other.place = tables.place :=
  place_eq hone hone'
    (fun balance hmem => ⟨balance, hsame.mem_iff.mp hmem, rfl, rfl, rfl⟩)
    fun balance hmem => ⟨balance, hsame.mem_iff.mpr hmem, rfl, rfl, rfl⟩

theorem place_insert (hone : tables.balances.OnePerPair) {balance after : Balance}
    (hmem : balance ∈ tables.balances.rows) (howner : balance.SameOwner after) :
    place { tables with balances := tables.balances.insert after } = tables.place := by
  refine place_eq hone (hone.insert_sameOwner hmem howner) (fun row hrow => ?_) fun row hrow => ?_
  · by_cases hid : row.id = after.id
    · obtain rfl : row = balance := Table.eq_of_key_eq hrow hmem (hid.trans howner.id)
      exact ⟨after, Table.mem_rows_insert.mpr (.inl rfl), howner⟩
    · exact ⟨row, Table.mem_rows_insert.mpr (.inr ⟨hrow, hid⟩), rfl, rfl, rfl⟩
  · rcases Table.mem_rows_insert.mp hrow with rfl | ⟨hrow, -⟩
    · exact ⟨balance, hmem, howner⟩
    · exact ⟨row, hrow, rfl, rfl, rfl⟩

end Tables

end CashLedger
