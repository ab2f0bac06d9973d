import CashLedger.Proofs.Funds

/-!
# Legs that fail

A leg changes two totals of a balance, the funds first and then what went out or came in.  If only
the second new total leaves the range, the leg fails when the funds have already changed.  This is
the one way in which a leg that fails changes a balance: a leg refused for its amount, for want of
funds, or because the new funds leave the range changes nothing.
-/

namespace CashLedger

theorem checkPositive_eq_error {amount : Amount} {cause : LedgerError}
    (hcheck : checkPositive amount = .error cause) :
    ¬ 0 < amount.toInt ∧ cause = .invalidAmount amount := by
  refine ⟨fun hpositive => ?_, ?_⟩
  · rw [checkPositive_eq_ok_iff.mpr hpositive] at hcheck
    cases hcheck
  · unfold checkPositive at hcheck
    split at hcheck
    · exact (Except.error.inj hcheck).symm
    · cases hcheck

namespace Balance

/-- The total of all that moved in a direction. -/
def turnover (balance : Balance) : Direction → Amount
  | .debit => balance.outgoing
  | .credit => balance.incoming

/-- Neither the amount nor the funds speak against applying a leg. -/
def CanApply (balance : Balance) (leg : Leg) : Prop :=
  0 < leg.amount.toInt ∧ (leg.direction = .debit → leg.amount.toInt ≤ balance.funds.toInt)

/-- Neither the amount nor the funds speak against taking a leg back. -/
def CanReverse (balance : Balance) (leg : Leg) : Prop :=
  0 < leg.amount.toInt ∧ (leg.direction = .credit → leg.amount.toInt ≤ balance.funds.toInt)

/-- How a balance comes out of a leg that fails.  The leg would bring the funds to `funds` and the
turnover to `turnover`; `ready` says that neither its amount nor the funds speak against it. -/
structure Halted (balance : Balance) (ready : Prop) (funds turnover : Int)
    (step : Balance × Except LedgerError Unit) : Prop where
  row : step.1 = { balance with funds := step.1.funds }
  torn_iff : step.1.funds ≠ balance.funds ↔
    ready ∧ Amount.Fits funds ∧ ¬ Amount.Fits turnover
  torn : step.1.funds ≠ balance.funds → step.1.funds.toInt = funds
  overflow_iff : step.2 = .error balance.overflow ↔
    ready ∧ ¬ (Amount.Fits funds ∧ Amount.Fits turnover)

variable {balance : Balance} {ready : Prop} {funds turnover : Int} {now : Timestamp}

theorem Halted.of_not_ready (hready : ¬ ready) {cause : LedgerError}
    (hcause : cause ≠ balance.overflow) :
    balance.Halted ready funds turnover (balance, .error cause) where
  row := rfl
  torn_iff := by simp [hready]
  torn := fun hmoved => absurd rfl hmoved
  overflow_iff := by simp [hready, hcause]

/-- The first total does not exist. -/
theorem Halted.untouched (hready : ready) (hfunds : ¬ Amount.Fits funds) :
    balance.Halted ready funds turnover (balance, .error balance.overflow) where
  row := rfl
  torn_iff := by simp [hfunds]
  torn := fun hmoved => absurd rfl hmoved
  overflow_iff := by simp [hready, hfunds]

/-- The second total does not exist, when the first one is already there. -/
theorem Halted.half (hready : ready) (hmoved : funds ≠ balance.funds.toInt) {sum : Amount}
    (hsum : Amount.ofInt? funds = some sum) (hturnover : ¬ Amount.Fits turnover) :
    balance.Halted ready funds turnover
      ({ balance with funds := sum }, .error balance.overflow) := by
  have hvalue : sum.toInt = funds := Amount.ofInt?_eq_some_iff.mp hsum
  have hfits : Amount.Fits funds := Amount.fits_of_ofInt?_eq_some hsum
  have hdiffers : sum ≠ balance.funds := by
    rintro rfl
    exact hmoved hvalue.symm
  exact {
    row := rfl
    torn_iff := iff_of_true hdiffers ⟨hready, hfits, hturnover⟩
    torn := fun _ => hvalue
    overflow_iff := by simp [hready, hturnover] }

theorem halted_setOutgoing (hready : ready) (hmoved : funds ≠ balance.funds.toInt)
    (hfails : (balance.setOutgoing (Amount.ofInt? funds) (Amount.ofInt? turnover) now).2 ≠ .ok ()) :
    balance.Halted ready funds turnover
      (balance.setOutgoing (Amount.ofInt? funds) (Amount.ofInt? turnover) now) := by
  cases hsum : Amount.ofInt? funds with
  | none => exact .untouched hready (Amount.ofInt?_eq_none_iff.mp hsum)
  | some sum =>
    cases htotal : Amount.ofInt? turnover with
    | none => exact .half hready hmoved hsum (Amount.ofInt?_eq_none_iff.mp htotal)
    | some total => exact absurd (by rw [hsum, htotal]; rfl) hfails

theorem halted_setIncoming (hready : ready) (hmoved : funds ≠ balance.funds.toInt)
    (hfails : (balance.setIncoming (Amount.ofInt? funds) (Amount.ofInt? turnover) now).2 ≠ .ok ()) :
    balance.Halted ready funds turnover
      (balance.setIncoming (Amount.ofInt? funds) (Amount.ofInt? turnover) now) := by
  cases hsum : Amount.ofInt? funds with
  | none => exact .untouched hready (Amount.ofInt?_eq_none_iff.mp hsum)
  | some sum =>
    cases htotal : Amount.ofInt? turnover with
    | none => exact .half hready hmoved hsum (Amount.ofInt?_eq_none_iff.mp htotal)
    | some total => exact absurd (by rw [hsum, htotal]; rfl) hfails

theorem halted_apply (balance : Balance) (leg : Leg) (now : Timestamp)
    (hfails : (balance.apply leg now).2 ≠ .ok ()) :
    balance.Halted (balance.CanApply leg)
      (balance.funds.toInt + leg.incoming - leg.outgoing)
      ((balance.turnover leg.direction).toInt + leg.amount.toInt) (balance.apply leg now) := by
  obtain ⟨direction, amount⟩ := leg
  simp only [apply] at hfails ⊢
  cases hcheck : checkPositive amount with
  | error cause =>
    obtain ⟨hnot, rfl⟩ := checkPositive_eq_error hcheck
    exact .of_not_ready (fun hready => hnot hready.1) fun h => by cases h
  | ok done =>
    have hpositive := checkPositive_eq_ok_iff.mp hcheck
    rw [hcheck] at hfails
    cases direction with
    | debit =>
      by_cases hcovers : balance.covers amount = true
      · simp only [hcovers, if_true] at hfails ⊢
        simp only [Leg.incoming, Leg.outgoing, add_zero, turnover]
        exact halted_setOutgoing ⟨hpositive, fun _ => covers_iff.mp hcovers⟩ (by omega) hfails
      · simp only [hcovers]
        exact .of_not_ready (fun hready => hcovers (covers_iff.mpr (hready.2 rfl)))
          fun h => by cases h
    | credit =>
      simp only [Leg.incoming, Leg.outgoing, sub_zero, turnover]
      exact halted_setIncoming ⟨hpositive, fun h => by cases h⟩ (by omega) hfails

theorem halted_reverse (balance : Balance) (leg : Leg) (now : Timestamp)
    (hfails : (balance.reverse leg now).2 ≠ .ok ()) :
    balance.Halted (balance.CanReverse leg)
      (balance.funds.toInt - leg.incoming + leg.outgoing)
      ((balance.turnover leg.direction).toInt - leg.amount.toInt) (balance.reverse leg now) := by
  obtain ⟨direction, amount⟩ := leg
  simp only [reverse] at hfails ⊢
  cases hcheck : checkPositive amount with
  | error cause =>
    obtain ⟨hnot, rfl⟩ := checkPositive_eq_error hcheck
    exact .of_not_ready (fun hready => hnot hready.1) fun h => by cases h
  | ok done =>
    have hpositive := checkPositive_eq_ok_iff.mp hcheck
    rw [hcheck] at hfails
    cases direction with
    | debit =>
      simp only [Leg.incoming, Leg.outgoing, sub_zero, turnover]
      exact halted_setOutgoing ⟨hpositive, fun h => by cases h⟩ (by omega) hfails
    | credit =>
      by_cases hcovers : balance.covers amount = true
      · simp only [hcovers, if_true] at hfails ⊢
        simp only [Leg.incoming, Leg.outgoing, add_zero, turnover]
        exact halted_setIncoming ⟨hpositive, fun _ => covers_iff.mp hcovers⟩ (by omega) hfails
      · simp only [hcovers]
        exact .of_not_ready (fun hready => hcovers (covers_iff.mpr (hready.2 rfl)))
          fun h => by cases h

/-- Whatever the totals are, a leg that fails leaves what went out, what came in, the version and
the time of change as they were.  It leaves the funds too, unless they took their new value before
the turnover was found to leave the range. -/
theorem failing_leg (balance : Balance) (leg : Leg) (now : Timestamp) :
    ((balance.apply leg now).2 ≠ .ok () →
      balance.Halted (balance.CanApply leg)
        (balance.funds.toInt + leg.incoming - leg.outgoing)
        ((balance.turnover leg.direction).toInt + leg.amount.toInt) (balance.apply leg now)) ∧
    ((balance.reverse leg now).2 ≠ .ok () →
      balance.Halted (balance.CanReverse leg)
        (balance.funds.toInt - leg.incoming + leg.outgoing)
        ((balance.turnover leg.direction).toInt - leg.amount.toInt) (balance.reverse leg now)) :=
  ⟨halted_apply balance leg now, halted_reverse balance leg now⟩

/-- A balance that took in all that it can tell of and gave all of it out again. -/
def drained : Balance where
  id := ⟨⟨1⟩⟩
  userId := ⟨⟨2⟩⟩
  companyId := ⟨⟨3⟩⟩
  currency := ⟨"USD"⟩
  funds := 0
  outgoing := Int64.maxValue
  incoming := Int64.maxValue
  version := 0
  createdAt := .ofNanos 0
  updatedAt := .ofNanos 2

theorem failing_leg_drained :
    (drained.apply ⟨.credit, 1⟩ (.ofNanos 3)).2 ≠ .ok () ∧
      (drained.apply ⟨.credit, 1⟩ (.ofNanos 3)).1.outgoing = drained.outgoing ∧
      (drained.apply ⟨.credit, 1⟩ (.ofNanos 3)).1.incoming = drained.incoming ∧
      (drained.reverse ⟨.credit, 1⟩ (.ofNanos 3)).2 ≠ .ok () ∧
      (drained.reverse ⟨.credit, 1⟩ (.ofNanos 3)).1.funds = drained.funds := by
  have happly : (drained.apply ⟨.credit, 1⟩ (.ofNanos 3)).2 ≠ .ok () := by decide +kernel
  have hreverse : (drained.reverse ⟨.credit, 1⟩ (.ofNanos 3)).2 ≠ .ok () := by decide +kernel
  have happlied := (failing_leg drained ⟨.credit, 1⟩ (.ofNanos 3)).1 happly
  have hreversed := (failing_leg drained ⟨.credit, 1⟩ (.ofNanos 3)).2 hreverse
  refine ⟨happly, by rw [happlied.row], by rw [happlied.row], hreverse, ?_⟩
  -- nothing is there that could be taken back
  by_contra hmoved
  have hcovered := (hreversed.torn_iff.mp hmoved).1.2 rfl
  exact absurd hcovered (by decide)

/-- The drained balance is reached from an empty one, and a credit that it refuses has raised its
funds. -/
theorem exists_torn_credit :
    ∃ empty full : Balance,
      empty = .zero drained.id ⟨drained.userId, drained.companyId⟩ drained.currency (.ofNanos 0) ∧
        settled (empty.apply ⟨.credit, Int64.maxValue⟩ (.ofNanos 1)) = .ok full ∧
        settled (full.apply ⟨.debit, Int64.maxValue⟩ (.ofNanos 2)) = .ok drained ∧
        drained.apply ⟨.credit, 1⟩ (.ofNanos 3) =
          ({ drained with funds := 1 }, .error drained.overflow) ∧
        drained.funds ≠ 1 :=
  ⟨_, { drained with
        funds := Int64.maxValue, outgoing := 0, updatedAt := .ofNanos 1 }, rfl,
    by decide +kernel, by decide +kernel, by decide +kernel, by decide⟩

end Balance

end CashLedger
