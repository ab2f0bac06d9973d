import CashLedger.Store.Tables
import Mathlib

/-!
# Legs over balances

What a leg that goes through does to the three totals, in exact integers: a
debit raises what went out, a credit what came in, and the funds follow.  Taking
a leg back undoes both.  A step goes through exactly when the new totals exist
and the funds cover what leaves them.
-/

namespace CashLedger

namespace Amount

theorem add?_eq_some_iff {a b sum : Amount} :
    add? a b = some sum ↔ sum.toInt = a.toInt + b.toInt :=
  ofInt?_eq_some_iff

theorem sub?_eq_some_iff {a b difference : Amount} :
    sub? a b = some difference ↔ difference.toInt = a.toInt - b.toInt :=
  ofInt?_eq_some_iff

end Amount

theorem checkPositive_eq_ok_iff {amount : Amount} :
    checkPositive amount = .ok () ↔ 0 < amount.toInt := by
  simp only [checkPositive, Int64.le_iff_toInt_le, Int64.toInt_zero]
  split <;> simp_all

/-- What a leg takes out of a balance. -/
def Leg.outgoing (leg : Leg) : Int :=
  match leg.direction with
  | .debit => leg.amount.toInt
  | .credit => 0

/-- What a leg brings into a balance. -/
def Leg.incoming (leg : Leg) : Int :=
  match leg.direction with
  | .debit => 0
  | .credit => leg.amount.toInt

namespace Balance

/-- The same balance but for the totals and the time of change. -/
def SameRow (balance after : Balance) (now : Timestamp) : Prop :=
  after = { balance with
    funds := after.funds, outgoing := after.outgoing, incoming := after.incoming,
    updatedAt := now }

/-- A balance after a leg that went through. -/
structure Applied (balance : Balance) (leg : Leg) (now : Timestamp) (after : Balance) :
    Prop where
  positive : 0 < leg.amount.toInt
  covered : leg.direction = .debit → leg.amount.toInt ≤ balance.funds.toInt
  sameRow : balance.SameRow after now
  funds : after.funds.toInt = balance.funds.toInt + leg.incoming - leg.outgoing
  outgoing : after.outgoing.toInt = balance.outgoing.toInt + leg.outgoing
  incoming : after.incoming.toInt = balance.incoming.toInt + leg.incoming

/-- A balance after a leg that was taken back. -/
structure Undone (balance : Balance) (leg : Leg) (now : Timestamp) (after : Balance) :
    Prop where
  positive : 0 < leg.amount.toInt
  covered : leg.direction = .credit → leg.amount.toInt ≤ balance.funds.toInt
  sameRow : balance.SameRow after now
  funds : after.funds.toInt = balance.funds.toInt - leg.incoming + leg.outgoing
  outgoing : after.outgoing.toInt = balance.outgoing.toInt - leg.outgoing
  incoming : after.incoming.toInt = balance.incoming.toInt - leg.incoming

theorem settled_setOutgoing_eq_ok_iff {balance after : Balance}
    {funds outgoing : Option Amount} {now : Timestamp} :
    settled (balance.setOutgoing funds outgoing now) = .ok after ↔
      balance.SameRow after now ∧ funds = some after.funds ∧
        outgoing = some after.outgoing ∧ after.incoming = balance.incoming := by
  rcases funds with - | funds
  · simp [settled, setOutgoing, Except.map]
  rcases outgoing with - | outgoing
  · simp [settled, setOutgoing, Except.map]
  obtain ⟨⟩ := after
  simp only [settled, setOutgoing, Except.map, Except.ok.injEq, SameRow, Balance.mk.injEq,
    Option.some.injEq]
  constructor
  · rintro ⟨rfl, rfl, rfl, rfl, rfl, rfl, rfl, rfl, rfl, rfl⟩
    simp
  · rintro ⟨⟨rfl, rfl, rfl, rfl, -, -, -, rfl, rfl, rfl⟩, rfl, rfl, rfl⟩
    simp

theorem settled_setIncoming_eq_ok_iff {balance after : Balance}
    {funds incoming : Option Amount} {now : Timestamp} :
    settled (balance.setIncoming funds incoming now) = .ok after ↔
      balance.SameRow after now ∧ funds = some after.funds ∧
        incoming = some after.incoming ∧ after.outgoing = balance.outgoing := by
  rcases funds with - | funds
  · simp [settled, setIncoming, Except.map]
  rcases incoming with - | incoming
  · simp [settled, setIncoming, Except.map]
  obtain ⟨⟩ := after
  simp only [settled, setIncoming, Except.map, Except.ok.injEq, SameRow, Balance.mk.injEq,
    Option.some.injEq]
  constructor
  · rintro ⟨rfl, rfl, rfl, rfl, rfl, rfl, rfl, rfl, rfl, rfl⟩
    simp
  · rintro ⟨⟨rfl, rfl, rfl, rfl, -, -, -, rfl, rfl, rfl⟩, rfl, rfl, rfl⟩
    simp

theorem covers_iff {balance : Balance} {amount : Amount} :
    balance.covers amount = true ↔ amount.toInt ≤ balance.funds.toInt := by
  simp [covers, Int64.le_iff_toInt_le]

theorem settled_apply_eq_ok_iff {balance after : Balance} {leg : Leg} {now : Timestamp} :
    settled (balance.apply leg now) = .ok after ↔ balance.Applied leg now after := by
  obtain ⟨direction, amount⟩ := leg
  have hpositive := @checkPositive_eq_ok_iff amount
  simp only [apply]
  cases hcheck : checkPositive amount with
  | error cause =>
    rw [hcheck] at hpositive
    simp only [settled, Except.map, reduceCtorEq, false_iff]
    exact fun h => by simpa using hpositive.mpr h.positive
  | ok done =>
    replace hpositive := hpositive.mp hcheck
    cases direction with
    | debit =>
      by_cases hcovers : balance.covers amount = true
      · simp only [hcovers, if_true]
        rw [settled_setOutgoing_eq_ok_iff, Amount.sub?_eq_some_iff, Amount.add?_eq_some_iff]
        rw [covers_iff] at hcovers
        constructor
        · rintro ⟨hrow, hfunds, houtgoing, hincoming⟩
          exact ⟨hpositive, fun _ => hcovers, hrow, by simp [Leg.incoming, Leg.outgoing, hfunds],
            by simp [Leg.outgoing, houtgoing], by simp [Leg.incoming, hincoming]⟩
        · intro h
          refine ⟨h.sameRow, ?_, h.outgoing, ?_⟩
          · simpa [Leg.incoming, Leg.outgoing] using h.funds
          · simpa [Leg.incoming, Int64.toInt_inj] using h.incoming
      · simp only [hcovers, settled, Except.map]
        simp only [Bool.false_eq_true, if_false, reduceCtorEq, false_iff]
        exact fun h => hcovers (covers_iff.mpr (h.covered rfl))
    | credit =>
      simp only
      rw [settled_setIncoming_eq_ok_iff, Amount.add?_eq_some_iff, Amount.add?_eq_some_iff]
      constructor
      · rintro ⟨hrow, hfunds, hincoming, houtgoing⟩
        exact ⟨hpositive, nofun, hrow, by simp [Leg.incoming, Leg.outgoing, hfunds],
          by simp [Leg.outgoing, houtgoing], by simp [Leg.incoming, hincoming]⟩
      · intro h
        refine ⟨h.sameRow, ?_, h.incoming, ?_⟩
        · simpa [Leg.incoming, Leg.outgoing] using h.funds
        · simpa [Leg.outgoing, Int64.toInt_inj] using h.outgoing

theorem settled_reverse_eq_ok_iff {balance after : Balance} {leg : Leg} {now : Timestamp} :
    settled (balance.reverse leg now) = .ok after ↔ balance.Undone leg now after := by
  obtain ⟨direction, amount⟩ := leg
  have hpositive := @checkPositive_eq_ok_iff amount
  simp only [reverse]
  cases hcheck : checkPositive amount with
  | error cause =>
    rw [hcheck] at hpositive
    simp only [settled, Except.map, reduceCtorEq, false_iff]
    exact fun h => by simpa using hpositive.mpr h.positive
  | ok done =>
    replace hpositive := hpositive.mp hcheck
    cases direction with
    | debit =>
      simp only
      rw [settled_setOutgoing_eq_ok_iff, Amount.add?_eq_some_iff, Amount.sub?_eq_some_iff]
      constructor
      · rintro ⟨hrow, hfunds, houtgoing, hincoming⟩
        exact ⟨hpositive, nofun, hrow, by simp [Leg.incoming, Leg.outgoing, hfunds],
          by simp [Leg.outgoing, houtgoing], by simp [Leg.incoming, hincoming]⟩
      · intro h
        refine ⟨h.sameRow, ?_, h.outgoing, ?_⟩
        · simpa [Leg.incoming, Leg.outgoing] using h.funds
        · simpa [Leg.incoming, Int64.toInt_inj] using h.incoming
    | credit =>
      by_cases hcovers : balance.covers amount = true
      · simp only [hcovers, if_true]
        rw [settled_setIncoming_eq_ok_iff, Amount.sub?_eq_some_iff, Amount.sub?_eq_some_iff]
        rw [covers_iff] at hcovers
        constructor
        · rintro ⟨hrow, hfunds, hincoming, houtgoing⟩
          exact ⟨hpositive, fun _ => hcovers, hrow,
            by simp [Leg.incoming, Leg.outgoing, hfunds], by simp [Leg.outgoing, houtgoing],
            by simp [Leg.incoming, hincoming]⟩
        · intro h
          refine ⟨h.sameRow, ?_, h.incoming, ?_⟩
          · simpa [Leg.incoming, Leg.outgoing] using h.funds
          · simpa [Leg.outgoing, Int64.toInt_inj] using h.outgoing
      · simp only [hcovers, settled, Except.map]
        simp only [Bool.false_eq_true, if_false, reduceCtorEq, false_iff]
        exact fun h => hcovers (covers_iff.mpr (h.covered rfl))

namespace SameRow

variable {balance after : Balance} {now : Timestamp}

theorem id_eq (hrow : balance.SameRow after now) : after.id = balance.id := by rw [hrow]

theorem userId_eq (hrow : balance.SameRow after now) : after.userId = balance.userId := by
  rw [hrow]

theorem currency_eq (hrow : balance.SameRow after now) :
    after.currency = balance.currency := by rw [hrow]

end SameRow

/-- The row that is stored for an updated balance. -/
def bump (balance : Balance) : Balance :=
  { balance with version := balance.version + 1 }

end Balance

end CashLedger
