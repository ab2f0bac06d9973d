import CashLedger.Proofs.Engine.Enactment

/-!
# What the funds allow

In balanced books the steps of a change need not be followed one by one.  Records can be taken
back exactly if on each balance what came in by them is covered, and legs can be posted exactly if
each of their balances covers or can take in what all legs in its currency come to.  The order of
the steps does not matter, nor can a total leave its range on the way.
-/

namespace CashLedger

namespace Amount

/-- An amount can tell of this many units. -/
def Fits (n : Int) : Prop := lowest ≤ n ∧ n ≤ highest

theorem fits_toInt (amount : Amount) : Fits amount.toInt :=
  ⟨Int64.le_toInt amount, Int.le_of_lt_add_one (Int64.toInt_lt amount)⟩

theorem isSome_add?_iff {a b : Amount} : (add? a b).isSome ↔ Fits (a.toInt + b.toInt) := by
  unfold add? ofInt? Fits
  split <;> simp_all

theorem ofInt?_eq_none_iff {n : Int} : ofInt? n = none ↔ ¬ Fits n := by
  unfold ofInt? Fits
  split <;> simp_all

theorem fits_of_ofInt?_eq_some {n : Int} {amount : Amount} (hamount : ofInt? n = some amount) :
    Fits n := by
  rw [← ofInt?_eq_some_iff.mp hamount]
  exact fits_toInt amount

end Amount

/-! ## Balances in order -/

namespace Record

variable {record : Record} (id : BalanceId)

theorem outgoingFrom_of_sell (hkind : record.kind = .sell) :
    record.outgoingFrom id = if record.balanceId = id then record.amount.toInt else 0 := by
  simp [outgoingFrom, leg, Leg.outgoing, hkind, RecordKind.direction]

theorem outgoingFrom_of_buy (hkind : record.kind = .buy) : record.outgoingFrom id = 0 := by
  simp [outgoingFrom, leg, Leg.outgoing, hkind, RecordKind.direction]

theorem incomingTo_of_sell (hkind : record.kind = .sell) : record.incomingTo id = 0 := by
  simp [incomingTo, leg, Leg.incoming, hkind, RecordKind.direction]

theorem incomingTo_of_buy (hkind : record.kind = .buy) :
    record.incomingTo id = if record.balanceId = id then record.amount.toInt else 0 := by
  simp [incomingTo, leg, Leg.incoming, hkind, RecordKind.direction]

end Record

theorem Record.outgoingFrom_nonneg {record : Record} (hpositive : 0 < record.amount.toInt)
    (id : BalanceId) : 0 ≤ record.outgoingFrom id := by
  unfold outgoingFrom
  split
  · exact (record.leg.nonneg hpositive).1
  · exact le_rfl

theorem Record.incomingTo_nonneg {record : Record} (hpositive : 0 < record.amount.toInt)
    (id : BalanceId) : 0 ≤ record.incomingTo id := by
  unfold incomingTo
  split
  · exact (record.leg.nonneg hpositive).2
  · exact le_rfl

theorem Record.sum_outgoingFrom_nonneg {records : List Record}
    (hpositive : ∀ record ∈ records, 0 < record.amount.toInt) (id : BalanceId) :
    0 ≤ (records.map (Record.outgoingFrom id)).sum := by
  refine List.sum_nonneg fun quantity hquantity => ?_
  obtain ⟨record, hrecord, rfl⟩ := List.mem_map.mp hquantity
  exact record.outgoingFrom_nonneg (hpositive record hrecord) id

theorem Record.sum_incomingTo_nonneg {records : List Record}
    (hpositive : ∀ record ∈ records, 0 < record.amount.toInt) (id : BalanceId) :
    0 ≤ (records.map (Record.incomingTo id)).sum := by
  refine List.sum_nonneg fun quantity hquantity => ?_
  obtain ⟨record, hrecord, rfl⟩ := List.mem_map.mp hquantity
  exact record.incomingTo_nonneg (hpositive record hrecord) id

theorem Record.sum_outgoingFrom_of_buys {records : List Record}
    (hbuys : ∀ record ∈ records, record.kind = .buy) (id : BalanceId) :
    (records.map (Record.outgoingFrom id)).sum = 0 :=
  List.sum_eq_zero (List.forall_mem_map.mpr fun record hrecord =>
    record.outgoingFrom_of_buy id (hbuys record hrecord))

theorem Record.sum_incomingTo_of_sells {records : List Record}
    (hsells : ∀ record ∈ records, record.kind = .sell) (id : BalanceId) :
    (records.map (Record.incomingTo id)).sum = 0 :=
  List.sum_eq_zero (List.forall_mem_map.mpr fun record hrecord =>
    record.incomingTo_of_sell id (hsells record hrecord))

namespace Balanced

variable {balances : Table Balance} {records : Table Record}

theorem balance_inOrder (hbalanced : Balanced balances records) {balance : Balance}
    (hmem : balance ∈ balances.rows) : balance.InOrder where
  funds := hbalanced.funds balance hmem
  outgoing := by
    rw [hbalanced.outgoing balance hmem]
    exact Record.sum_outgoingFrom_nonneg hbalanced.positive balance.id
  covered := by
    have hfunds := hbalanced.funds balance hmem
    have hcovered := hbalanced.covered balance hmem
    omega

end Balanced

theorem Table.accounts_eq_some_iff {balances : Table Balance} {id : BalanceId}
    {account : Balance} :
    balances.accounts id = some account ↔
      ∃ balance ∈ balances.rows, balance.id = id ∧ balance.timeless = account := by
  simp only [accounts, Option.map_eq_some_iff, find?_eq_some_iff, and_assoc]
  rfl

theorem Balanced.inOrder {balances : Table Balance} {records : Table Record}
    (hbalanced : Balanced balances records) : balances.accounts.InOrder := by
  intro id account haccount
  obtain ⟨balance, hmem, -, rfl⟩ := Table.accounts_eq_some_iff.mp haccount
  have horder := hbalanced.balance_inOrder hmem
  exact ⟨horder.funds, horder.outgoing, horder.covered⟩

theorem Table.bears_accounts_iff {balances : Table Balance} {tally : BalanceId → Tally} :
    balances.accounts.Bears tally ↔
      ∀ balance ∈ balances.rows, balance.Bears (tally balance.id) := by
  constructor
  · intro h balance hmem
    have hbalance := h balance.id _ (accounts_eq_some_iff.mpr ⟨balance, hmem, rfl, rfl⟩)
    exact ⟨hbalance.covered, hbalance.told⟩
  · intro h id account haccount
    obtain ⟨balance, hmem, rfl, rfl⟩ := accounts_eq_some_iff.mp haccount
    exact ⟨(h balance hmem).covered, (h balance hmem).told⟩

/-- In balanced books steps of one sort go through exactly if each of them stands and every
balance bears what each beginning of them comes to. -/
theorem Balanced.isSome_moves_map_iff {balances : Table Balance} {records : Table Record}
    (hbalanced : Balanced balances records) {α : Type} {step : α → Movement}
    {tally : List α → Balance → Tally}
    (htally : ∀ items, ∀ balance ∈ balances.rows,
      Movement.tallyAll (items.map step) balance.id = tally items balance)
    {items : List α} (hpositive : ∀ item ∈ items, (step item).Positive)
    (hundo : ∀ early, early <+: items → ∀ balance ∈ balances.rows,
      0 ≤ balance.outgoing.toInt + (tally early balance).outgoing) :
    (balances.accounts.moves (items.map step)).isSome ↔
      (∀ item ∈ items, (step item).Stands balances.accounts) ∧
        ∀ early, early <+: items → ∀ balance ∈ balances.rows,
          balance.Bears (tally early balance) := by
  have hmapped : ∀ {movements}, movements <+: items.map step →
      ∃ early, early <+: items ∧ movements = early.map step := by
    intro movements hearly
    rw [List.prefix_iff_eq_take, ← List.map_take] at hearly
    exact ⟨_, List.take_prefix _ _, hearly⟩
  rw [hbalanced.inOrder.isSome_moves_iff ?_ ?_, List.forall_mem_map]
  · refine and_congr_right fun _ => ⟨fun hbears early hearly balance hmem => ?_,
      fun hbears movements hearly => Table.bears_accounts_iff.mpr fun balance hmem => ?_⟩
    · rw [← htally early balance hmem]
      exact Table.bears_accounts_iff.mp (hbears _ (hearly.map step)) balance hmem
    · obtain ⟨early, hearlier, rfl⟩ := hmapped hearly
      rw [htally early balance hmem]
      exact hbears early hearlier balance hmem
  · exact List.forall_mem_map.mpr hpositive
  · intro movements hearly id account haccount
    obtain ⟨early, hearlier, rfl⟩ := hmapped hearly
    obtain ⟨balance, hmem, rfl, rfl⟩ := Table.accounts_eq_some_iff.mp haccount
    rw [htally early balance hmem]
    exact hundo early hearlier balance hmem

/-! ## Taking records back -/

/-- What it comes to over a balance to take records back. -/
def Record.takenBack (records : List Record) (balance : Balance) : Tally where
  outgoing := -(records.map (Record.outgoingFrom balance.id)).sum
  incoming := -(records.map (Record.incomingTo balance.id)).sum
  count := records.countP fun record => record.balanceId = balance.id

theorem Record.tally_undoing (record : Record) (id : BalanceId) :
    record.undoing.tally id = ⟨-record.outgoingFrom id, -record.incomingTo id,
      if record.balanceId = id then 1 else 0⟩ := by
  simp only [undoing, Movement.tally, outgoingFrom, incomingTo]
  by_cases hid : record.balanceId = id
  · subst hid
    simp
  · rw [Pi.single_eq_of_ne (Ne.symm hid)]
    simp only [hid, if_false]
    rfl

theorem Record.tallyAll_undoing (records : List Record) (balance : Balance) :
    Movement.tallyAll (records.map undoing) balance.id = takenBack records balance := by
  induction records with
  | nil => rfl
  | cons record rest ih =>
    rw [List.map_cons, Movement.tallyAll, Pi.add_apply, ih, tally_undoing]
    ext
    · simp only [takenBack, Tally.add_outgoing, List.map_cons, List.sum_cons]
      omega
    · simp only [takenBack, Tally.add_incoming, List.map_cons, List.sum_cons]
      omega
    · simp only [takenBack, Tally.add_count, List.countP_cons, decide_eq_true_eq]
      omega

/-- What came in over a balance by some records can be given back. -/
def Balance.Returns (balance : Balance) (records : List Record) : Prop :=
  (records.map (Record.incomingTo balance.id)).sum ≤
    balance.funds.toInt + (records.map (Record.outgoingFrom balance.id)).sum

namespace Balanced

variable {balances : Table Balance} {records : Table Record} {chosen : List Record}

/-- What some of the records took out of a balance is no more than all that went out. -/
theorem sum_outgoingFrom_le (hbalanced : Balanced balances records)
    (hchosen : chosen.Subperm records.rows) {balance : Balance}
    (hmem : balance ∈ balances.rows) :
    (chosen.map (Record.outgoingFrom balance.id)).sum ≤ balance.outgoing.toInt := by
  obtain ⟨listed, hperm, hsub⟩ := hchosen
  rw [← (hperm.map (Record.outgoingFrom balance.id)).sum_eq, hbalanced.outgoing balance hmem]
  refine (hsub.map _).sum_le_sum fun quantity hquantity => ?_
  obtain ⟨record, hrecord, rfl⟩ := List.mem_map.mp hquantity
  exact record.outgoingFrom_nonneg (hbalanced.positive record hrecord) balance.id

theorem bears_takenBack_iff (hbalanced : Balanced balances records)
    (hpositive : ∀ record ∈ chosen, 0 < record.amount.toInt) {balance : Balance}
    (hmem : balance ∈ balances.rows) :
    balance.Bears (Record.takenBack chosen balance) ↔ balance.Returns chosen := by
  have hfunds := hbalanced.funds balance hmem
  have htold := Balance.toInt_le_highest balance.incoming
  have hin := Record.sum_incomingTo_nonneg hpositive balance.id
  unfold Balance.Returns
  constructor
  · intro h
    have hcovered := h.covered
    simp only [Record.takenBack] at hcovered
    omega
  · intro h
    constructor <;> simp only [Record.takenBack] <;> omega

/-- Of records that first went out and then came in, what is returned in the end is enough on the
way. -/
theorem returns_of_prefix (hbalanced : Balanced balances records)
    (hpositive : ∀ record ∈ chosen, 0 < record.amount.toInt)
    (hsells : chosen.Pairwise fun a b => b.kind = .sell → a.kind = .sell) {early : List Record}
    (hearly : early <+: chosen) {balance : Balance} (hmem : balance ∈ balances.rows)
    (hreturns : balance.Returns chosen) : balance.Returns early := by
  obtain ⟨late, rfl⟩ := hearly
  have hcovered := hbalanced.covered balance hmem
  obtain ⟨hpositive, hpositive'⟩ := List.forall_mem_append.mp hpositive
  have hout := Record.sum_outgoingFrom_nonneg hpositive balance.id
  have hin := Record.sum_incomingTo_nonneg hpositive' balance.id
  unfold Balance.Returns at hreturns ⊢
  by_cases hbuys : ∃ record ∈ early, record.kind = .buy
  · -- After something that came in there is nothing more that went out.
    obtain ⟨record, hrecord, hkind⟩ := hbuys
    have hlate : ∀ other ∈ late, other.kind = .buy := by
      intro other hother
      have hsell := (List.pairwise_append.mp hsells).2.2 record hrecord other hother
      cases hother' : other.kind with
      | sell =>
        rw [hkind] at hsell
        cases hsell hother'
      | buy => rfl
    have hnone := Record.sum_outgoingFrom_of_buys hlate balance.id
    rw [List.map_append, List.map_append, List.sum_append, List.sum_append] at hreturns
    omega
  · have hnone : ∀ record ∈ early, record.kind = .sell := by
      intro record hrecord
      cases hkind : record.kind with
      | sell => rfl
      | buy => exact absurd ⟨record, hrecord, hkind⟩ hbuys
    have hin := Record.sum_incomingTo_of_sells hnone balance.id
    omega

/-- Records of which the outgoing ones come first can be taken back exactly if every balance
returns them. -/
theorem isSome_undoing_iff (hbalanced : Balanced balances records)
    (hchosen : chosen.Subperm records.rows)
    (hsells : chosen.Pairwise fun a b => b.kind = .sell → a.kind = .sell) :
    (balances.accounts.moves (chosen.map Record.undoing)).isSome ↔
      ∀ balance ∈ balances.rows, balance.Returns chosen := by
  have hpositive : ∀ record ∈ chosen, 0 < record.amount.toInt := fun record hmem =>
    hbalanced.positive record (hchosen.subset hmem)
  rw [hbalanced.isSome_moves_map_iff (fun items balance _ => Record.tallyAll_undoing items balance)
    hpositive fun early hearly balance hmem => ?_]
  · constructor
    · rintro ⟨-, hbears⟩ balance hmem
      exact (hbalanced.bears_takenBack_iff hpositive hmem).mp
        (hbears chosen List.prefix_rfl balance hmem)
    · refine fun hreturns => ⟨fun record hrecord => ?_, fun early hearly balance hmem => ?_⟩
      · obtain ⟨balance, hfind, -⟩ := hbalanced.placed record (hchosen.subset hrecord)
        simp [Record.undoing, Movement.Stands, Table.accounts, hfind]
      · exact (hbalanced.bears_takenBack_iff
          (fun record hrecord => hpositive record (hearly.subset hrecord)) hmem).mpr
          (hbalanced.returns_of_prefix hpositive hsells hearly hmem (hreturns balance hmem))
  · have hle := hbalanced.sum_outgoingFrom_le (hearly.sublist.subperm.trans hchosen) hmem
    simp only [Record.takenBack]
    omega

end Balanced

/-! ## Posting legs -/

namespace Money

/-- What amounts come to in a currency. -/
def totalIn (currency : Currency) (legs : List Money) : Int :=
  ((legs.filter fun money => money.currency = currency).map fun money => money.amount.toInt).sum

/-- How many amounts are in a currency. -/
def countIn (currency : Currency) (legs : List Money) : Nat :=
  legs.countP fun money => money.currency = currency

variable {legs : List Money} {currency : Currency}

theorem totalIn_cons (currency : Currency) (money : Money) (legs : List Money) :
    totalIn currency (money :: legs) =
      (if money.currency = currency then money.amount.toInt else 0) + totalIn currency legs := by
  by_cases hcurrency : money.currency = currency <;> simp [totalIn, hcurrency]

theorem countIn_cons (currency : Currency) (money : Money) (legs : List Money) :
    countIn currency (money :: legs) =
      (if money.currency = currency then 1 else 0) + countIn currency legs := by
  by_cases hcurrency : money.currency = currency <;>
    simp [countIn, hcurrency, Nat.add_comm]

theorem totalIn_append (currency : Currency) (legs more : List Money) :
    totalIn currency (legs ++ more) = totalIn currency legs + totalIn currency more := by
  simp [totalIn]

theorem totalIn_nonneg (hpositive : ∀ money ∈ legs, 0 < money.amount.toInt)
    (currency : Currency) : 0 ≤ totalIn currency legs := by
  refine List.sum_nonneg fun quantity hquantity => ?_
  obtain ⟨money, hmoney, rfl⟩ := List.mem_map.mp hquantity
  exact (hpositive money (List.mem_filter.mp hmoney).1).le

theorem totalIn_eq_zero (hnone : ∀ money ∈ legs, money.currency ≠ currency) :
    totalIn currency legs = 0 := by
  have hempty : (legs.filter fun money => money.currency = currency) = [] :=
    List.filter_eq_nil_iff.mpr fun money hmoney => by simpa using hnone money hmoney
  rw [totalIn, hempty]
  rfl

theorem totalIn_perm {more : List Money} (hperm : legs.Perm more) (currency : Currency) :
    totalIn currency legs = totalIn currency more :=
  ((hperm.filter _).map _).sum_eq

theorem countIn_perm {more : List Money} (hperm : legs.Perm more) (currency : Currency) :
    countIn currency legs = countIn currency more :=
  hperm.countP_eq _

end Money

/-- What it comes to to move a total this way in some steps. -/
def Direction.tally (direction : Direction) (total : Int) (count : Nat) : Tally :=
  match direction with
  | .debit => ⟨total, 0, count⟩
  | .credit => ⟨0, total, count⟩

theorem Direction.tally_zero (direction : Direction) : direction.tally 0 0 = 0 := by
  cases direction <;> rfl

theorem Direction.tally_add (direction : Direction) (total more : Int) (count others : Nat) :
    direction.tally total count + direction.tally more others =
      direction.tally (total + more) (count + others) := by
  cases direction <;> ext <;> simp [tally]

theorem Money.tally_posting (place : Places) (user : UserId) (direction : Direction)
    (money : Money) (id : BalanceId) :
    (money.posting place user direction).tally id =
      if place user money.currency = some id then direction.tally money.amount.toInt 1
      else 0 := by
  rw [posting]
  cases place user money.currency with
  | none => rfl
  | some found =>
    by_cases hid : found = id
    · subst hid
      rw [if_pos rfl, Movement.tally, Pi.single_eq_same]
      cases direction <;> rfl
    · rw [if_neg fun h => hid (Option.some.inj h), Movement.tally,
        Pi.single_eq_of_ne (Ne.symm hid)]

/-- What it comes to over a balance to post legs of a user. -/
def Money.postedOn (user : UserId) (direction : Direction) (legs : List Money)
    (balance : Balance) : Tally :=
  if balance.userId = user then
    direction.tally (totalIn balance.currency legs) (countIn balance.currency legs)
  else 0

theorem Money.postedOn_cons (user : UserId) (direction : Direction) (money : Money)
    (rest : List Money) (balance : Balance) :
    postedOn user direction (money :: rest) balance =
      (if balance.userId = user ∧ balance.currency = money.currency then
        direction.tally money.amount.toInt 1 else 0) + postedOn user direction rest balance := by
  simp only [postedOn, totalIn_cons, countIn_cons, ← Direction.tally_add]
  by_cases huser : balance.userId = user
  · by_cases hcurrency : money.currency = balance.currency
    · simp only [huser, hcurrency, and_self, if_true]
    · simp only [huser, hcurrency, Ne.symm hcurrency, and_false, if_true, if_false,
        Direction.tally_zero]
  · simp only [huser, false_and, if_false, Tally.zero_add]

/-- The balance covers a total that goes out, or can tell of one that comes in. -/
def Balance.Allows (balance : Balance) (direction : Direction) (total : Int) : Prop :=
  match direction with
  | .debit => total ≤ balance.funds.toInt
  | .credit => balance.incoming.toInt + total ≤ Amount.highest

namespace Tables

/-- In each currency of the legs the user has a balance that allows all of them. -/
def Affords (tables : Tables) (user : UserId) (direction : Direction) (legs : List Money) :
    Prop :=
  ∀ money ∈ legs, ∃ balance, tables.balanceFor user money.currency = some balance ∧
    balance.Allows direction (Money.totalIn money.currency legs)

variable {tables : Tables} {balance : Balance} {user : UserId}

theorem place_eq_id_iff (hone : tables.balances.OnePerPair)
    (hmem : balance ∈ tables.balances.rows) {currency : Currency} :
    tables.place user currency = some balance.id ↔
      balance.userId = user ∧ balance.currency = currency := by
  rw [place_eq_some_iff hone]
  constructor
  · rintro ⟨other, hother, hid, rfl, rfl⟩
    obtain rfl : other = balance := Table.eq_of_key_eq hother hmem hid
    exact ⟨rfl, rfl⟩
  · rintro ⟨huser, hcurrency⟩
    exact ⟨balance, hmem, rfl, huser, hcurrency⟩

theorem tallyAll_posting (hone : tables.balances.OnePerPair)
    (hmem : balance ∈ tables.balances.rows) (user : UserId) (direction : Direction)
    (legs : List Money) :
    Movement.tallyAll (legs.map (Money.posting tables.place user direction)) balance.id =
      Money.postedOn user direction legs balance := by
  induction legs with
  | nil =>
    refine Eq.symm ((ite_congr rfl (fun _ => ?_) fun _ => rfl).trans (ite_self _))
    exact direction.tally_zero
  | cons money rest ih =>
    rw [List.map_cons, Movement.tallyAll, Pi.add_apply, ih, Money.postedOn_cons,
      Money.tally_posting]
    simp only [place_eq_id_iff hone hmem]

end Tables

namespace Balance

variable {balance : Balance} {direction : Direction} {total : Int} {count : Nat}

theorem InOrder.bears_tally_iff (horder : balance.InOrder) (htotal : 0 ≤ total) :
    balance.Bears (direction.tally total count) ↔ balance.Allows direction total := by
  obtain ⟨hfunds, -, hcovered⟩ := horder
  have htold := toInt_le_highest balance.incoming
  unfold Allows
  cases direction with
  | debit =>
    simp only [Direction.tally]
    exact ⟨fun h => by have := h.covered; simp only at this; omega,
      fun h => ⟨by simp only; omega, by simp only; omega⟩⟩
  | credit =>
    simp only [Direction.tally]
    exact ⟨fun h => h.told, fun h => ⟨by simp only; omega, h⟩⟩

theorem InOrder.allows_zero (horder : balance.InOrder) : balance.Allows direction 0 := by
  have htold := toInt_le_highest balance.incoming
  obtain ⟨hfunds, -, hcovered⟩ := horder
  unfold Allows
  cases direction <;> simp only <;> omega

theorem Allows.mono {less : Int} (hallows : balance.Allows direction total)
    (hless : less ≤ total) : balance.Allows direction less := by
  unfold Allows at hallows ⊢
  cases direction <;> simp only at hallows ⊢ <;> omega

end Balance

namespace Balanced

variable {tables : Tables} (hbalanced : Balanced tables.balances tables.records)

include hbalanced

theorem stands_posting_iff {user : UserId} {direction : Direction} {money : Money} :
    (money.posting tables.place user direction).Stands tables.balances.accounts ↔
      ∃ balance, tables.balanceFor user money.currency = some balance := by
  simp only [Money.posting, Movement.Stands, Tables.place, Option.map_eq_some_iff]
  constructor
  · rintro ⟨id, ⟨balance, hfound, -⟩, -⟩
    exact ⟨balance, hfound⟩
  · rintro ⟨balance, hfound⟩
    obtain ⟨hmem, -⟩ := (Tables.balanceFor_eq_some_iff hbalanced.unique).mp hfound
    refine ⟨balance.id, ⟨balance, hfound, rfl⟩, ?_⟩
    rw [Table.accounts_eq_some_iff.mpr ⟨balance, hmem, rfl, rfl⟩]
    rfl

/-- To afford legs is to have a balance for each of them and to bear them on every balance. -/
theorem affords_iff {user : UserId} {direction : Direction} {legs : List Money}
    (hpositive : ∀ money ∈ legs, 0 < money.amount.toInt) :
    tables.Affords user direction legs ↔
      (∀ money ∈ legs, ∃ balance, tables.balanceFor user money.currency = some balance) ∧
        ∀ balance ∈ tables.balances.rows,
          balance.Bears (Money.postedOn user direction legs balance) := by
  have hone : tables.balances.OnePerPair := hbalanced.unique
  constructor
  · refine fun hafford => ⟨fun money hmoney => (hafford money hmoney).imp fun _ h => h.1,
      fun balance hmem => ?_⟩
    have horder := hbalanced.balance_inOrder hmem
    rw [Money.postedOn]
    split
    · next huser =>
      rw [horder.bears_tally_iff (Money.totalIn_nonneg hpositive _)]
      by_cases hthere : ∃ money ∈ legs, money.currency = balance.currency
      · obtain ⟨money, hmoney, hcurrency⟩ := hthere
        obtain ⟨found, hfound, hallows⟩ := hafford money hmoney
        have hsame := (Tables.balanceFor_eq_some_iff hone).mpr ⟨hmem, huser, hcurrency.symm⟩
        obtain rfl : balance = found := Option.some.inj (hsame.symm.trans hfound)
        exact hcurrency ▸ hallows
      · rw [Money.totalIn_eq_zero fun money hmoney hcurrency => hthere ⟨money, hmoney, hcurrency⟩]
        exact horder.allows_zero
    · exact horder.bears_zero
  · rintro ⟨hthere, hbears⟩ money hmoney
    obtain ⟨balance, hfound⟩ := hthere money hmoney
    obtain ⟨hmem, huser, hcurrency⟩ := (Tables.balanceFor_eq_some_iff hone).mp hfound
    have hall := hbears balance hmem
    rw [Money.postedOn, if_pos huser, (hbalanced.balance_inOrder hmem).bears_tally_iff
      (Money.totalIn_nonneg hpositive _), hcurrency] at hall
    exact ⟨balance, hfound, hall⟩

/-- A balance that bears all legs bears the first of them. -/
theorem bears_of_prefix {user : UserId} {direction : Direction} {early legs : List Money}
    (hpositive : ∀ money ∈ legs, 0 < money.amount.toInt) (hearly : early <+: legs)
    {balance : Balance} (hmem : balance ∈ tables.balances.rows)
    (hbears : balance.Bears (Money.postedOn user direction legs balance)) :
    balance.Bears (Money.postedOn user direction early balance) := by
  obtain ⟨late, rfl⟩ := hearly
  have horder := hbalanced.balance_inOrder hmem
  have htotal := Money.totalIn_nonneg hpositive balance.currency
  obtain ⟨hpositive, hpositive'⟩ := List.forall_mem_append.mp hpositive
  unfold Money.postedOn at hbears ⊢
  by_cases huser : balance.userId = user
  · rw [if_pos huser, horder.bears_tally_iff htotal, Money.totalIn_append] at hbears
    rw [if_pos huser, horder.bears_tally_iff (Money.totalIn_nonneg hpositive _)]
    exact hbears.mono (Int.le_add_of_nonneg_right (Money.totalIn_nonneg hpositive' _))
  · rw [if_neg huser]
    exact horder.bears_zero

/-- Legs of one direction can be posted exactly if the user can afford them. -/
theorem isSome_posting_iff (user : UserId) (direction : Direction) {legs : List Money}
    (hpositive : ∀ money ∈ legs, 0 < money.amount.toInt) :
    (tables.balances.accounts.moves
        (legs.map (Money.posting tables.place user direction))).isSome ↔
      tables.Affords user direction legs := by
  rw [hbalanced.isSome_moves_map_iff
    (fun items balance hmem => Tables.tallyAll_posting hbalanced.unique hmem user direction items)
    hpositive fun early hearly balance hmem => ?_, hbalanced.affords_iff hpositive]
  · simp only [hbalanced.stands_posting_iff]
    exact and_congr_right fun _ => ⟨fun hbears => hbears legs List.prefix_rfl,
      fun hbears early hearly balance hmem =>
        hbalanced.bears_of_prefix hpositive hearly hmem (hbears balance hmem)⟩
  · have hnonneg := (hbalanced.balance_inOrder hmem).outgoing
    have happlied : ∀ movement ∈ early.map (Money.posting tables.place user direction),
        ∃ place leg, movement = .applied place leg ∧ 0 < leg.amount.toInt :=
      List.forall_mem_map.mpr fun money hmoney => ⟨tables.place user money.currency,
        ⟨direction, money.amount⟩, rfl, hpositive money (hearly.subset hmoney)⟩
    have hposted := Movement.outgoing_tallyAll_nonneg happlied balance.id
    rw [Tables.tallyAll_posting hbalanced.unique hmem] at hposted
    omega

end Balanced

/-! ## Selling and receiving -/

namespace Money

/-- What it comes to over a balance of a user to sell something and receive something else. -/
def exchangedOn (user : UserId) (sold received : Money) (balance : Balance) : Tally :=
  postedOn user .debit [sold] balance + postedOn user .credit [received] balance

variable {user : UserId} {sold received : Money} {balance : Balance} {legs : List Money}

theorem incoming_postedOn_debit :
    (postedOn user .debit legs balance).incoming = 0 := by
  unfold postedOn
  split <;> rfl

theorem outgoing_postedOn_credit :
    (postedOn user .credit legs balance).outgoing = 0 := by
  unfold postedOn
  split <;> rfl

end Money

theorem Tables.tallyAll_exchanging {tables : Tables} {balance : Balance}
    (hone : tables.balances.OnePerPair) (hmem : balance ∈ tables.balances.rows) (user : UserId)
    (sold received : Money) :
    Movement.tallyAll [sold.posting tables.place user .debit,
        received.posting tables.place user .credit] balance.id =
      Money.exchangedOn user sold received balance := by
  rw [Money.exchangedOn, ← tallyAll_posting hone hmem, ← tallyAll_posting hone hmem,
    ← Pi.add_apply, ← Movement.tallyAll_append]
  rfl

namespace Balanced

variable {tables : Tables} (hbalanced : Balanced tables.balances tables.records)

include hbalanced

/-- A balance bears what was sold, and then what was received too, exactly if it bears each of
them alone. -/
theorem bears_exchangedOn_iff {user : UserId} {sold received : Money}
    (hreceived : 0 < received.amount.toInt) {balance : Balance}
    (hmem : balance ∈ tables.balances.rows)
    (hbears : balance.Bears (Money.postedOn user .debit [sold] balance)) :
    balance.Bears (Money.exchangedOn user sold received balance) ↔
      balance.Bears (Money.postedOn user .credit [received] balance) := by
  have horder := hbalanced.balance_inOrder hmem
  have hnonneg : 0 ≤ (Money.postedOn user .credit [received] balance).incoming := by
    unfold Money.postedOn
    split
    · exact Money.totalIn_nonneg (by simpa using hreceived) _
    · exact le_rfl
  have hcovered := hbears.covered
  rw [Money.incoming_postedOn_debit] at hcovered
  have hin : (Money.exchangedOn user sold received balance).incoming =
      (Money.postedOn user .credit [received] balance).incoming := by
    rw [Money.exchangedOn, Tally.add_incoming, Money.incoming_postedOn_debit, Int.zero_add]
  have hout : (Money.exchangedOn user sold received balance).outgoing =
      (Money.postedOn user .debit [sold] balance).outgoing := by
    rw [Money.exchangedOn, Tally.add_outgoing, Money.outgoing_postedOn_credit, Int.add_zero]
  constructor
  · intro h
    have horder' := horder.covered
    exact ⟨by rw [Money.outgoing_postedOn_credit]; omega, hin ▸ h.told⟩
  · intro h
    exact ⟨by rw [hin, hout]; omega, hin.symm ▸ h.told⟩

/-- Something can be sold and something else received exactly if the one is covered and there is
room for the other, each on its own balance; it does not matter if that is the same. -/
theorem isSome_exchanging_iff (user : UserId) {sold received : Money}
    (hsold : 0 < sold.amount.toInt) (hreceived : 0 < received.amount.toInt) :
    (tables.balances.accounts.moves [sold.posting tables.place user .debit,
        received.posting tables.place user .credit]).isSome ↔
      tables.Affords user .debit [sold] ∧ tables.Affords user .credit [received] := by
  have hone : tables.balances.OnePerPair := hbalanced.unique
  have hsold' : ∀ money ∈ [sold], 0 < money.amount.toInt := by simpa using hsold
  have hreceived' : ∀ money ∈ [received], 0 < money.amount.toInt := by simpa using hreceived
  have hfirst : ∀ balance ∈ tables.balances.rows,
      Movement.tallyAll [sold.posting tables.place user .debit] balance.id =
        Money.postedOn user .debit [sold] balance := fun balance hmem =>
    Tables.tallyAll_posting hone hmem user .debit [sold]
  have hboth : ∀ balance ∈ tables.balances.rows, _ = _ := fun balance hmem =>
    Tables.tallyAll_exchanging hone hmem user sold received
  rw [hbalanced.inOrder.isSome_moves_iff ?_ ?_, hbalanced.affords_iff hsold',
    hbalanced.affords_iff hreceived']
  · simp only [List.forall_mem_cons, hbalanced.stands_posting_iff]
    constructor
    · rintro ⟨⟨hthere, hthere', -⟩, hbears⟩
      have hbearsFirst : ∀ balance ∈ tables.balances.rows, _ := fun balance hmem =>
        hfirst balance hmem ▸ Table.bears_accounts_iff.mp (hbears [_] ⟨[_], rfl⟩) balance hmem
      refine ⟨⟨⟨hthere, nofun⟩, hbearsFirst⟩, ⟨hthere', nofun⟩, fun balance hmem => ?_⟩
      rw [← hbalanced.bears_exchangedOn_iff hreceived hmem (hbearsFirst balance hmem),
        ← hboth balance hmem]
      exact Table.bears_accounts_iff.mp (hbears _ List.prefix_rfl) balance hmem
    · rintro ⟨⟨⟨hthere, -⟩, hbears⟩, ⟨hthere', -⟩, hbears'⟩
      refine ⟨⟨hthere, hthere', nofun⟩, fun early hearly => ?_⟩
      rw [Table.bears_accounts_iff]
      intro balance hmem
      rcases List.prefix_cons_iff.mp hearly with rfl | ⟨rest, rfl, hrest⟩
      · exact (hbalanced.balance_inOrder hmem).bears_zero
      rcases List.prefix_cons_iff.mp hrest with rfl | ⟨rest', rfl, hrest'⟩
      · rw [hfirst balance hmem]
        exact hbears balance hmem
      · rw [List.prefix_nil.mp hrest', hboth balance hmem,
          hbalanced.bears_exchangedOn_iff hreceived hmem (hbears balance hmem)]
        exact hbears' balance hmem
  · simp only [List.forall_mem_cons]
    exact ⟨hsold, hreceived, nofun⟩
  · intro early hearly id account haccount
    have hnonneg := (hbalanced.inOrder id account haccount).outgoing
    have happlied : ∀ movement ∈ early, ∃ place leg, movement = Movement.applied place leg ∧
        0 < leg.amount.toInt := by
      intro movement hmovement
      rcases List.mem_pair.mp (hearly.subset hmovement) with rfl | rfl
      · exact ⟨_, _, rfl, hsold⟩
      · exact ⟨_, _, rfl, hreceived⟩
    have hposted := Movement.outgoing_tallyAll_nonneg happlied id
    omega

end Balanced

end CashLedger
