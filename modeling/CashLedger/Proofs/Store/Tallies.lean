import CashLedger.Proofs.Store.Movements

/-!
# What movements come to

Over each balance a list of movements comes to one tally: how much goes out, how much comes in,
and how many of its steps there are.  Movements that go through shift every balance by its tally.
On balances in order they go through exactly if each balance bears the tally of every beginning
of the list: it never has less in than out, nor more in than an amount can tell.
-/

namespace CashLedger

/-- What some steps come to over one balance; what they take back counts below nothing. -/
@[ext]
structure Tally where
  outgoing : Int
  incoming : Int
  /-- How many steps are over the balance. -/
  count : Nat

namespace Tally

instance : Zero Tally := ⟨⟨0, 0, 0⟩⟩

instance : Add Tally :=
  ⟨fun s t => ⟨s.outgoing + t.outgoing, s.incoming + t.incoming, s.count + t.count⟩⟩

variable (s t : Tally)

@[simp] theorem zero_outgoing : (0 : Tally).outgoing = 0 := rfl

@[simp] theorem zero_incoming : (0 : Tally).incoming = 0 := rfl

@[simp] theorem zero_count : (0 : Tally).count = 0 := rfl

@[simp] theorem add_outgoing : (s + t).outgoing = s.outgoing + t.outgoing := rfl

@[simp] theorem add_incoming : (s + t).incoming = s.incoming + t.incoming := rfl

@[simp] theorem add_count : (s + t).count = s.count + t.count := rfl

theorem add_assoc (s t u : Tally) : s + t + u = s + (t + u) := by
  ext <;> simp [Int.add_assoc, Nat.add_assoc]

theorem zero_add (t : Tally) : 0 + t = t := by
  ext <;> simp

theorem add_zero (t : Tally) : t + 0 = t := by
  ext <;> simp

end Tally

namespace Movement

/-- What a movement comes to over each balance. -/
def tally : Movement → BalanceId → Tally
  | applied none _ => 0
  | applied (some place) leg => Pi.single place ⟨leg.outgoing, leg.incoming, 1⟩
  | undone place leg => Pi.single place ⟨-leg.outgoing, -leg.incoming, 1⟩
  | passed _ => 0

/-- What movements come to over each balance. -/
def tallyAll : List Movement → BalanceId → Tally
  | [] => 0
  | movement :: rest => movement.tally + tallyAll rest

theorem tallyAll_singleton (movement : Movement) : tallyAll [movement] = movement.tally :=
  funext fun _ => Tally.add_zero _

theorem tallyAll_append (movements more : List Movement) :
    tallyAll (movements ++ more) = tallyAll movements + tallyAll more := by
  induction movements with
  | nil => exact funext fun _ => (Tally.zero_add _).symm
  | cons movement rest ih =>
    funext id
    simp only [List.cons_append, tallyAll, ih, Pi.add_apply, Tally.add_assoc]

theorem tallyAll_passed (test : Bool) (movements : List Movement) :
    tallyAll (.passed test :: movements) = tallyAll movements :=
  funext fun _ => Tally.zero_add _

theorem tallyAll_append_passed (movements : List Movement) (test : Bool) :
    tallyAll (movements ++ [.passed test]) = tallyAll movements := by
  rw [tallyAll_append, tallyAll_singleton]
  exact funext fun _ => Tally.add_zero _

end Movement

/-! ## One balance -/

theorem Leg.nonneg (leg : Leg) (hpositive : 0 < leg.amount.toInt) :
    0 ≤ leg.outgoing ∧ 0 ≤ leg.incoming := by
  unfold Leg.outgoing Leg.incoming
  cases leg.direction <;> simp only <;> omega

/-- Legs that are only applied take nothing back. -/
theorem Movement.outgoing_tallyAll_nonneg {movements : List Movement}
    (happlied : ∀ movement ∈ movements, ∃ place leg, movement = .applied place leg ∧
      0 < leg.amount.toInt) (id : BalanceId) : 0 ≤ (tallyAll movements id).outgoing := by
  induction movements with
  | nil => exact le_rfl
  | cons movement rest ih =>
    obtain ⟨⟨place, leg, rfl, hpositive⟩, hrest⟩ := List.forall_mem_cons.mp happlied
    have hhead : 0 ≤ (tally (.applied place leg) id).outgoing := by
      cases place with
      | none => exact le_rfl
      | some place =>
        rw [tally, Pi.single_apply]
        split
        · exact (leg.nonneg hpositive).1
        · exact le_rfl
    exact Int.add_nonneg hhead (ih hrest)

namespace Balance

/-- A balance after all that a tally stands for; nothing but the totals, the version and the time
of change is another. -/
structure Shifted (balance : Balance) (tally : Tally) (after : Balance) : Prop where
  row : after = { balance with
    funds := after.funds, outgoing := after.outgoing, incoming := after.incoming,
    version := balance.version + Int64.ofNat tally.count, updatedAt := after.updatedAt }
  funds : after.funds.toInt = balance.funds.toInt + tally.incoming - tally.outgoing
  outgoing : after.outgoing.toInt = balance.outgoing.toInt + tally.outgoing
  incoming : after.incoming.toInt = balance.incoming.toInt + tally.incoming
  still : tally.count = 0 → after = balance

/-- A balance that holds what came in and has not gone out. -/
structure InOrder (balance : Balance) : Prop where
  funds : balance.funds.toInt = balance.incoming.toInt - balance.outgoing.toInt
  outgoing : 0 ≤ balance.outgoing.toInt
  covered : balance.outgoing.toInt ≤ balance.incoming.toInt

/-- With the tally there is no less in than out, and no more in than an amount can tell. -/
structure Bears (balance : Balance) (tally : Tally) : Prop where
  covered : balance.outgoing.toInt + tally.outgoing ≤ balance.incoming.toInt + tally.incoming
  told : balance.incoming.toInt + tally.incoming ≤ Amount.highest

theorem toInt_le_highest (amount : Amount) : amount.toInt ≤ Amount.highest :=
  Int.le_of_lt_add_one (Int64.toInt_lt amount)

variable {balance middle after : Balance} {s t : Tally} {leg : Leg} {now : Timestamp}

theorem Shifted.refl (balance : Balance) : balance.Shifted 0 balance where
  row := by simp
  funds := by simp
  outgoing := by simp
  incoming := by simp
  still _ := rfl

theorem Shifted.trans (hfirst : balance.Shifted s middle) (hlast : middle.Shifted t after) :
    balance.Shifted (s + t) after where
  row := by
    rw [hlast.row, hfirst.row, Tally.add_count, Int64.ofNat_add, Int64.add_assoc]
  funds := by
    rw [hlast.funds, hfirst.funds, Tally.add_incoming, Tally.add_outgoing]
    omega
  outgoing := by rw [hlast.outgoing, hfirst.outgoing, Tally.add_outgoing, Int.add_assoc]
  incoming := by rw [hlast.incoming, hfirst.incoming, Tally.add_incoming, Int.add_assoc]
  still hcount := by
    rw [Tally.add_count, Nat.add_eq_zero_iff] at hcount
    rw [hlast.still hcount.2, hfirst.still hcount.1]

/-- One tally leads to one balance, but for the time of its last change. -/
theorem Shifted.timeless_eq {after' : Balance} (hshifted : balance.Shifted s after)
    (hshifted' : balance.Shifted s after') : after.timeless = after'.timeless := by
  have hfunds : after.funds = after'.funds :=
    Int64.toInt_inj.mp (hshifted.funds.trans hshifted'.funds.symm)
  have houtgoing : after.outgoing = after'.outgoing :=
    Int64.toInt_inj.mp (hshifted.outgoing.trans hshifted'.outgoing.symm)
  have hincoming : after.incoming = after'.incoming :=
    Int64.toInt_inj.mp (hshifted.incoming.trans hshifted'.incoming.symm)
  rw [hshifted.row, hshifted'.row, hfunds, houtgoing, hincoming]
  rfl

theorem Applied.shifted (happlied : balance.Applied leg now after) :
    balance.Shifted ⟨leg.outgoing, leg.incoming, 1⟩ after.bump where
  row := by
    rw [happlied.sameRow]
    rfl
  funds := happlied.funds
  outgoing := happlied.outgoing
  incoming := happlied.incoming
  still := nofun

theorem Undone.shifted (hundone : balance.Undone leg now after) :
    balance.Shifted ⟨-leg.outgoing, -leg.incoming, 1⟩ after.bump where
  row := by
    rw [hundone.sameRow]
    rfl
  funds := by
    simp only [bump_funds, hundone.funds]
    omega
  outgoing := hundone.outgoing
  incoming := hundone.incoming
  still := nofun

theorem InOrder.bears_zero (horder : balance.InOrder) : balance.Bears 0 where
  covered := by simpa using horder.covered
  told := by simpa using toInt_le_highest balance.incoming

theorem InOrder.shifted (horder : balance.InOrder) (hshifted : balance.Shifted s after)
    (houtgoing : 0 ≤ balance.outgoing.toInt + s.outgoing) (hbears : balance.Bears s) :
    after.InOrder where
  funds := by
    rw [hshifted.funds, hshifted.incoming, hshifted.outgoing, horder.funds]
    omega
  outgoing := by rwa [hshifted.outgoing]
  covered := by
    rw [hshifted.outgoing, hshifted.incoming]
    exact hbears.covered

theorem Shifted.bears_iff (hshifted : balance.Shifted s middle) :
    middle.Bears t ↔ balance.Bears (s + t) := by
  have hin : middle.incoming.toInt + t.incoming = balance.incoming.toInt + (s + t).incoming := by
    rw [hshifted.incoming, Tally.add_incoming, Int.add_assoc]
  have hout : middle.outgoing.toInt + t.outgoing = balance.outgoing.toInt + (s + t).outgoing := by
    rw [hshifted.outgoing, Tally.add_outgoing, Int.add_assoc]
  constructor
  · exact fun h => ⟨hout ▸ hin ▸ h.covered, hin ▸ h.told⟩
  · exact fun h => ⟨hout.symm ▸ hin.symm ▸ h.covered, hin.symm ▸ h.told⟩

/-- A step over a balance in order goes through exactly if the balance bears it. -/
theorem InOrder.isSome_applied?_iff (horder : balance.InOrder) (hpositive : 0 < leg.amount.toInt) :
    (balance.applied? leg).isSome ↔ balance.Bears ⟨leg.outgoing, leg.incoming, 1⟩ := by
  obtain ⟨hfunds, hnonneg, hcovered⟩ := horder
  have htold := toInt_le_highest balance.incoming
  simp only [Option.isSome_iff_exists, applied?_eq_some_iff]
  constructor
  · rintro ⟨_, middle, happlied, -⟩
    refine ⟨?_, ?_⟩
    · have hafter := happlied.funds_nonneg (by omega)
      have hmiddle := happlied.funds
      simp only
      omega
    · rw [← happlied.incoming]
      exact toInt_le_highest _
  · rintro ⟨hbears, htells⟩
    obtain ⟨hout, hin⟩ := leg.nonneg hpositive
    simp only at hbears htells
    have hlowest : Amount.lowest ≤ 0 := by decide
    obtain ⟨funds, hfunds'⟩ := Amount.exists_toInt_eq
      (n := balance.funds.toInt + leg.incoming - leg.outgoing) (by omega) (by omega)
    obtain ⟨outgoing, houtgoing⟩ := Amount.exists_toInt_eq
      (n := balance.outgoing.toInt + leg.outgoing) (by omega) (by omega)
    obtain ⟨incoming, hincoming⟩ := Amount.exists_toInt_eq
      (n := balance.incoming.toInt + leg.incoming) (by omega) (by omega)
    refine ⟨_, { balance with funds, outgoing, incoming }, ⟨hpositive, fun hdebit => ?_, rfl,
      hfunds', houtgoing, hincoming⟩, rfl⟩
    rw [Leg.outgoing, Leg.incoming, hdebit] at hbears
    simp only at hbears
    omega

/-- A step is taken back from a balance in order exactly if the balance bears it. -/
theorem InOrder.isSome_undone?_iff (horder : balance.InOrder) (hpositive : 0 < leg.amount.toInt)
    (hthere : 0 ≤ balance.outgoing.toInt - leg.outgoing) :
    (balance.undone? leg).isSome ↔ balance.Bears ⟨-leg.outgoing, -leg.incoming, 1⟩ := by
  obtain ⟨hfunds, hnonneg, hcovered⟩ := horder
  have htold := toInt_le_highest balance.incoming
  obtain ⟨hout, hin⟩ := leg.nonneg hpositive
  simp only [Option.isSome_iff_exists, undone?_eq_some_iff]
  constructor
  · rintro ⟨_, middle, hundone, -⟩
    have hafter := hundone.funds_nonneg (by omega)
    have hmiddle := hundone.funds
    constructor <;> simp only <;> omega
  · rintro ⟨hbears, -⟩
    simp only at hbears
    have hlowest : Amount.lowest ≤ 0 := by decide
    obtain ⟨funds, hfunds'⟩ := Amount.exists_toInt_eq
      (n := balance.funds.toInt - leg.incoming + leg.outgoing) (by omega) (by omega)
    obtain ⟨outgoing, houtgoing⟩ := Amount.exists_toInt_eq
      (n := balance.outgoing.toInt - leg.outgoing) (by omega) (by omega)
    obtain ⟨incoming, hincoming⟩ := Amount.exists_toInt_eq
      (n := balance.incoming.toInt - leg.incoming) (by omega) (by omega)
    refine ⟨_, { balance with funds, outgoing, incoming }, ⟨hpositive, fun hcredit => ?_, rfl,
      hfunds', houtgoing, hincoming⟩, rfl⟩
    rw [Leg.outgoing, Leg.incoming, hcredit] at hbears
    simp only at hbears
    omega

end Balance

/-! ## All balances -/

namespace Accounts

/-- Under every identifier the balance has shifted by its tally; there is none where there was
none. -/
def Shifted (accounts : Accounts) (tally : BalanceId → Tally) (later : Accounts) : Prop :=
  ∀ id, Option.Rel (Balance.Shifted · (tally id)) (accounts id) (later id)

/-- Every balance is in order. -/
def InOrder (accounts : Accounts) : Prop :=
  ∀ id balance, accounts id = some balance → balance.InOrder

/-- Every balance bears its tally. -/
def Bears (accounts : Accounts) (tally : BalanceId → Tally) : Prop :=
  ∀ id balance, accounts id = some balance → balance.Bears (tally id)

end Accounts

namespace Movement

/-- What a movement moves is more than nothing. -/
def Positive : Movement → Prop
  | applied _ leg | undone _ leg => 0 < leg.amount.toInt
  | passed _ => True

/-- There is the balance that a movement is over, and what it tests is so. -/
def Stands (accounts : Accounts) : Movement → Prop
  | applied place _ => ∃ id, place = some id ∧ (accounts id).isSome
  | undone place _ => (accounts place).isSome
  | passed test => test = true

end Movement

namespace Accounts

open Movement

variable {accounts later last : Accounts} {s t : BalanceId → Tally} {movement : Movement}
  {movements : List Movement}

namespace Shifted

theorem refl (accounts : Accounts) : accounts.Shifted 0 accounts := by
  intro id
  cases accounts id with
  | none => exact .none
  | some balance => exact .some (.refl balance)

theorem trans (hfirst : accounts.Shifted s later) (hlast : later.Shifted t last) :
    accounts.Shifted (s + t) last := by
  intro id
  have hmiddle := hfirst id
  have hafter := hlast id
  generalize accounts id = before, later id = middle, last id = after at hmiddle hafter ⊢
  cases hmiddle with
  | none =>
    cases hafter
    exact .none
  | some hmiddle =>
    cases hafter with
    | some hafter => exact .some (hmiddle.trans hafter)

theorem isSome_eq (hshifted : accounts.Shifted s later) (id : BalanceId) :
    (later id).isSome = (accounts id).isSome := by
  have hid := hshifted id
  generalize accounts id = before, later id = after at hid ⊢
  cases hid <;> rfl

theorem stands_iff (hshifted : accounts.Shifted s later) :
    movement.Stands later ↔ movement.Stands accounts := by
  cases movement <;> simp only [Stands, hshifted.isSome_eq]

theorem exists_later (hshifted : accounts.Shifted s later) {id : BalanceId} {balance : Balance}
    (hbefore : accounts id = some balance) :
    ∃ after, later id = some after ∧ balance.Shifted (s id) after := by
  have hid := hshifted id
  rw [hbefore] at hid
  generalize later id = found at hid ⊢
  cases hid with
  | some hbalance => exact ⟨_, rfl, hbalance⟩

theorem exists_before (hshifted : accounts.Shifted s later) {id : BalanceId} {after : Balance}
    (hafter : later id = some after) :
    ∃ balance, accounts id = some balance ∧ balance.Shifted (s id) after := by
  have hid := hshifted id
  rw [hafter] at hid
  generalize accounts id = found at hid ⊢
  cases hid with
  | some hbalance => exact ⟨_, rfl, hbalance⟩

theorem bears_iff (hshifted : accounts.Shifted s later) :
    later.Bears t ↔ accounts.Bears (s + t) := by
  constructor
  · intro h id balance hbefore
    obtain ⟨after, hafter, hbalance⟩ := hshifted.exists_later hbefore
    exact hbalance.bears_iff.mp (h id after hafter)
  · intro h id after hafter
    obtain ⟨balance, hbefore, hbalance⟩ := hshifted.exists_before hafter
    exact hbalance.bears_iff.mpr (h id balance hbefore)

end Shifted

/-! ## Moving -/

theorem shifted_of_change {id : BalanceId} {step : Balance → Option Balance} {tally : Tally}
    (hstep : ∀ {balance after}, step balance = some after → balance.Shifted tally after)
    (hchange : accounts.change (some id) step = some later) :
    accounts.Shifted (Pi.single id tally) later := by
  rw [change, Option.bind_some, Option.map_eq_some_iff] at hchange
  obtain ⟨after, hafter, rfl⟩ := hchange
  obtain ⟨balance, hbefore, hdone⟩ := Option.bind_eq_some_iff.mp hafter
  intro other
  by_cases hid : id = other
  · subst hid
    rw [hbefore, Function.update_self, Pi.single_eq_same]
    exact .some (hstep hdone)
  · rw [Function.update_of_ne (Ne.symm hid), Pi.single_eq_of_ne (Ne.symm hid)]
    exact Shifted.refl accounts other

/-- A movement that goes through shifts each balance by what it comes to there. -/
theorem shifted_of_move (hmove : accounts.move movement = some later) :
    accounts.Shifted movement.tally later := by
  cases movement with
  | applied place leg =>
    cases place with
    | none => cases hmove
    | some place =>
      refine shifted_of_change (fun hstep => ?_) hmove
      obtain ⟨middle, happlied, rfl⟩ := Balance.applied?_eq_some_iff.mp hstep
      exact happlied.shifted
  | undone place leg =>
    refine shifted_of_change (fun hstep => ?_) hmove
    obtain ⟨middle, hundone, rfl⟩ := Balance.undone?_eq_some_iff.mp hstep
    exact hundone.shifted
  | passed test =>
    cases test with
    | false => cases hmove
    | true =>
      cases hmove
      exact .refl _

/-- Movements that go through shift each balance by what they come to there. -/
theorem shifted_of_moves (hmoves : accounts.moves movements = some later) :
    accounts.Shifted (tallyAll movements) later := by
  induction movements generalizing accounts with
  | nil =>
    cases hmoves
    exact .refl _
  | cons movement rest ih =>
    obtain ⟨middle, hmove, hrest⟩ := Option.bind_eq_some_iff.mp hmoves
    exact (shifted_of_move hmove).trans (ih hrest)

/-! ## Going through -/

theorem isSome_change (id : BalanceId) (step : Balance → Option Balance) :
    (accounts.change (some id) step).isSome ↔
      ∃ balance, accounts id = some balance ∧ (step balance).isSome := by
  cases hfound : accounts id <;> simp [change, hfound]

/-- Balances of which no more is taken back than ever went out. -/
def CanUndo (accounts : Accounts) (tally : BalanceId → Tally) : Prop :=
  ∀ id balance, accounts id = some balance → 0 ≤ balance.outgoing.toInt + (tally id).outgoing

theorem InOrder.shifted (horder : accounts.InOrder) (hshifted : accounts.Shifted s later)
    (hundo : accounts.CanUndo s) (hbears : accounts.Bears s) : later.InOrder := by
  intro id after hafter
  obtain ⟨balance, hbefore, hbalance⟩ := hshifted.exists_before hafter
  exact (horder id balance hbefore).shifted hbalance (hundo id balance hbefore)
    (hbears id balance hbefore)

theorem InOrder.bears_zero (horder : accounts.InOrder) : accounts.Bears 0 :=
  fun id balance hbefore => (horder id balance hbefore).bears_zero

/-- What comes to nothing but over one balance is borne if that balance bears it. -/
theorem InOrder.bears_single_iff (horder : accounts.InOrder) {id : BalanceId} {tally : Tally}
    {balance : Balance} (hbefore : accounts id = some balance) :
    accounts.Bears (Pi.single id tally) ↔ balance.Bears tally := by
  constructor
  · intro h
    have hid := h id balance hbefore
    rwa [Pi.single_eq_same] at hid
  · intro h other found hfound
    by_cases hid : id = other
    · subst hid
      rw [hbefore] at hfound
      rw [Pi.single_eq_same, ← Option.some.inj hfound]
      exact h
    · rw [Pi.single_eq_of_ne (Ne.symm hid)]
      exact horder.bears_zero other found hfound

/-- A movement over balances in order goes through exactly if it stands and they bear it. -/
theorem InOrder.isSome_move_iff (horder : accounts.InOrder) (hpositive : movement.Positive)
    (hundo : accounts.CanUndo movement.tally) :
    (accounts.move movement).isSome ↔
      movement.Stands accounts ∧ accounts.Bears movement.tally := by
  cases movement with
  | applied place leg =>
    cases place with
    | none => exact iff_of_false nofun fun h => by simpa [Stands] using h.1
    | some place =>
      rw [move, isSome_change]
      simp only [Stands, Option.some.injEq, exists_eq_left', Movement.tally]
      constructor
      · rintro ⟨balance, hbefore, hstep⟩
        rw [(horder place balance hbefore).isSome_applied?_iff hpositive] at hstep
        exact ⟨hbefore ▸ rfl, (horder.bears_single_iff hbefore).mpr hstep⟩
      · rintro ⟨hthere, hbears⟩
        obtain ⟨balance, hbefore⟩ := Option.isSome_iff_exists.mp hthere
        refine ⟨balance, hbefore, ?_⟩
        rw [(horder place balance hbefore).isSome_applied?_iff hpositive]
        exact (horder.bears_single_iff hbefore).mp hbears
  | undone place leg =>
    have hthere : ∀ balance, accounts place = some balance →
        0 ≤ balance.outgoing.toInt - leg.outgoing := by
      intro balance hbefore
      have hback := hundo place balance hbefore
      rwa [Movement.tally, Pi.single_eq_same] at hback
    rw [move, isSome_change]
    simp only [Stands, Movement.tally]
    constructor
    · rintro ⟨balance, hbefore, hstep⟩
      rw [(horder place balance hbefore).isSome_undone?_iff hpositive
        (hthere balance hbefore)] at hstep
      exact ⟨hbefore ▸ rfl, (horder.bears_single_iff hbefore).mpr hstep⟩
    · rintro ⟨hfound, hbears⟩
      obtain ⟨balance, hbefore⟩ := Option.isSome_iff_exists.mp hfound
      refine ⟨balance, hbefore, ?_⟩
      rw [(horder place balance hbefore).isSome_undone?_iff hpositive (hthere balance hbefore)]
      exact (horder.bears_single_iff hbefore).mp hbears
  | passed test =>
    have hmove : (accounts.move (.passed test)).isSome = test := by cases test <;> rfl
    rw [hmove]
    exact (and_iff_left horder.bears_zero).symm

/-- Movements over balances in order go through exactly if each of them stands and the balances
bear what every beginning of them comes to. -/
theorem InOrder.isSome_moves_iff (horder : accounts.InOrder)
    (hpositive : ∀ movement ∈ movements, movement.Positive)
    (hundo : ∀ early, early <+: movements → accounts.CanUndo (tallyAll early)) :
    (accounts.moves movements).isSome ↔
      (∀ movement ∈ movements, movement.Stands accounts) ∧
        ∀ early, early <+: movements → accounts.Bears (tallyAll early) := by
  induction movements generalizing accounts with
  | nil =>
    refine iff_of_true rfl ⟨by simp, fun early hearly => ?_⟩
    rw [List.prefix_nil.mp hearly]
    exact horder.bears_zero
  | cons movement rest ih =>
    obtain ⟨hhead, hrest⟩ := List.forall_mem_cons.mp hpositive
    have hone : [movement] <+: movement :: rest := ⟨rest, rfl⟩
    have hundoHead := hundo _ hone
    rw [tallyAll_singleton] at hundoHead
    have hstep := horder.isSome_move_iff hhead hundoHead
    -- What is left to do after the first step starts from balances in order again.
    have hmore : ∀ later, accounts.move movement = some later → ((later.moves rest).isSome ↔
        (∀ other ∈ rest, other.Stands accounts) ∧ ∀ early, early <+: rest →
          accounts.Bears (tallyAll (movement :: early))) := by
      intro later hmove
      have hshifted := shifted_of_move hmove
      obtain ⟨-, hbears⟩ := hstep.mp (hmove ▸ rfl)
      have horder' := horder.shifted hshifted hundoHead hbears
      rw [ih horder' hrest fun early hearly id after hafter => ?_]
      · simp only [hshifted.stands_iff, hshifted.bears_iff, tallyAll]
      · obtain ⟨balance, hbefore, hbalance⟩ := hshifted.exists_before hafter
        have hback := hundo (movement :: early) (List.prefix_cons_inj movement |>.mpr hearly) id
          balance hbefore
        rw [hbalance.outgoing]
        simp only [tallyAll, Pi.add_apply, Tally.add_outgoing] at hback
        omega
    change ((accounts.move movement).bind fun later => later.moves rest).isSome ↔ _
    rw [List.forall_mem_cons]
    constructor
    · intro hsome
      obtain ⟨later, hmove⟩ : ∃ later, accounts.move movement = some later := by
        cases hmove : accounts.move movement with
        | none =>
          rw [hmove] at hsome
          cases hsome
        | some later => exact ⟨later, rfl⟩
      rw [hmove, Option.bind_some, hmore later hmove] at hsome
      refine ⟨⟨(hstep.mp (hmove ▸ rfl)).1, hsome.1⟩, fun early hearly => ?_⟩
      rcases List.prefix_cons_iff.mp hearly with rfl | ⟨more, rfl, hearlier⟩
      · exact horder.bears_zero
      · exact hsome.2 more hearlier
    · rintro ⟨⟨hstands, hothers⟩, hbears⟩
      have hbearsHead := hbears _ hone
      rw [tallyAll_singleton] at hbearsHead
      obtain ⟨later, hmove⟩ := Option.isSome_iff_exists.mp (hstep.mpr ⟨hstands, hbearsHead⟩)
      rw [hmove, Option.bind_some, hmore later hmove]
      exact ⟨hothers, fun early hearly =>
        hbears _ (List.prefix_cons_inj movement |>.mpr hearly)⟩

end Accounts

/-! ## The balances of a store -/

namespace Balance

variable {balance after : Balance} {tally : Tally}

theorem Shifted.of_timeless (hshifted : balance.timeless.Shifted tally after.timeless)
    (hstill : tally.count = 0 → after = balance) : balance.Shifted tally after where
  row := by
    have hrow := hshifted.row
    obtain ⟨⟩ := balance
    obtain ⟨⟩ := after
    simp only [timeless, Balance.mk.injEq] at hrow ⊢
    simp_all
  funds := hshifted.funds
  outgoing := hshifted.outgoing
  incoming := hshifted.incoming
  still := hstill

end Balance

namespace Table

/-- Every balance has shifted by its tally, and there is none that was not there before. -/
def Shifted (balances : Table Balance) (tally : Balance → Tally) (after : Table Balance) : Prop :=
  ∀ id, Option.Rel (fun balance => balance.Shifted (tally balance)) (balances.find? id)
    (after.find? id)

variable {balances after after' : Table Balance} {tally : Balance → Tally}

theorem shifted_of_accounts {tallies : BalanceId → Tally}
    (hshifted : balances.accounts.Shifted tallies after.accounts)
    (hstill : ∀ id, (tallies id).count = 0 → after.find? id = balances.find? id)
    (htally : ∀ balance ∈ balances.rows, tallies balance.id = tally balance) :
    balances.Shifted tally after := by
  intro id
  have hid := hshifted id
  have hsame := hstill id
  simp only [accounts] at hid
  cases hbefore : balances.find? id with
  | none =>
    rw [hbefore] at hid
    cases hafter : after.find? id with
    | none => exact .none
    | some row =>
      rw [hafter] at hid
      cases hid
  | some balance =>
    have hkey : balance.id = id := key_of_find? hbefore
    rw [hbefore] at hid hsame
    cases hafter : after.find? id with
    | none =>
      rw [hafter] at hid
      cases hid
    | some row =>
      rw [hafter] at hid hsame
      refine .some (.of_timeless ?_ fun hcount => ?_)
      · rw [← htally balance (mem_of_find? hbefore), hkey]
        cases hid with
        | some hbalance => exact hbalance
      · rw [← htally balance (mem_of_find? hbefore), hkey] at hcount
        exact Option.some.inj (hsame hcount)

/-- What balances shift by is all that matters to where they end. -/
theorem Shifted.accounts_eq (hshifted : balances.Shifted tally after)
    (hshifted' : balances.Shifted tally after') : after.accounts = after'.accounts := by
  funext id
  have hid := hshifted id
  have hid' := hshifted' id
  simp only [accounts]
  generalize balances.find? id = before, after.find? id = left, after'.find? id = right
    at hid hid' ⊢
  cases hid with
  | none =>
    cases hid'
    rfl
  | some hleft =>
    cases hid' with
    | some hright => exact congrArg some (hleft.timeless_eq hright)

end Table

end CashLedger
