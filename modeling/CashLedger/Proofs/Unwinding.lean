import CashLedger.Proofs.Books

/-!
# Unwinding

Legs that a balance has taken one after the other can be taken back from it.  Back to front this
always goes through, whatever the turnover is: as long as no more goes out than is there, each leg
finds the totals that it left.  In another order a leg can be refused on the way; but where all of
them go through the totals are what they were, since no order changes what legs come to.
-/

namespace CashLedger

/-- All that legs bring into a balance. -/
def Leg.totalIn (legs : List Leg) : Int := (legs.map Leg.incoming).sum

/-- All that legs take out of a balance. -/
def Leg.totalOut (legs : List Leg) : Int := (legs.map Leg.outgoing).sum

theorem Leg.totals_perm {legs others : List Leg} (hperm : legs.Perm others) :
    totalIn legs = totalIn others ∧ totalOut legs = totalOut others :=
  ⟨(hperm.map _).sum_eq, (hperm.map _).sum_eq⟩

namespace Balance

/-- Applies legs in order, each at its time, up to the first that fails. -/
def applyAll (balance : Balance) (entries : List (Leg × Timestamp)) : Except LedgerError Balance :=
  entries.foldlM (fun balance (leg, now) => settled (balance.apply leg now)) balance

/-- Takes back legs in order, each at its time, up to the first that fails. -/
def reverseAll (balance : Balance) (entries : List (Leg × Timestamp)) :
    Except LedgerError Balance :=
  entries.foldlM (fun balance (leg, now) => settled (balance.reverse leg now)) balance

/-- The same balance but for the time of its last change. -/
def Restored (balance after : Balance) : Prop :=
  after = { balance with updatedAt := after.updatedAt }

/-- The same balance but for the totals and the time of change, when so much more has come in and
gone out. -/
structure Moved (balance : Balance) (incoming outgoing : Int) (after : Balance) : Prop where
  sameRow : balance.SameRow after after.updatedAt
  funds : after.funds.toInt = balance.funds.toInt + incoming - outgoing
  outgoing : after.outgoing.toInt = balance.outgoing.toInt + outgoing
  incoming : after.incoming.toInt = balance.incoming.toInt + incoming

variable {balance middle after : Balance} {leg : Leg} {now : Timestamp}
  {entries rest undoing : List (Leg × Timestamp)}

namespace Moved

variable {inflow outflow moreIn moreOut : Int}

theorem refl (balance : Balance) : balance.Moved 0 0 balance where
  sameRow := rfl
  funds := by omega
  outgoing := by omega
  incoming := by omega

theorem trans (hfirst : balance.Moved inflow outflow middle)
    (hlast : middle.Moved moreIn moreOut after) :
    balance.Moved (inflow + moreIn) (outflow + moreOut) after where
  sameRow := by
    rw [hlast.sameRow, hfirst.sameRow]
    rfl
  funds := by
    rw [hlast.funds, hfirst.funds]
    omega
  outgoing := by rw [hlast.outgoing, hfirst.outgoing, Int.add_assoc]
  incoming := by rw [hlast.incoming, hfirst.incoming, Int.add_assoc]

/-- Totals that are the same integers are the same amounts. -/
theorem restored (hmoved : balance.Moved 0 0 after) : balance.Restored after := by
  have hfunds : after.funds = balance.funds := Int64.toInt_inj.mp (by rw [hmoved.funds]; omega)
  have houtgoing : after.outgoing = balance.outgoing :=
    Int64.toInt_inj.mp (by rw [hmoved.outgoing, Int.add_zero])
  have hincoming : after.incoming = balance.incoming :=
    Int64.toInt_inj.mp (by rw [hmoved.incoming, Int.add_zero])
  have hrow := hmoved.sameRow
  rwa [SameRow, hfunds, houtgoing, hincoming] at hrow

end Moved

theorem Applied.moved (happlied : balance.Applied leg now after) :
    balance.Moved leg.incoming leg.outgoing after where
  sameRow := by
    rw [happlied.sameRow]
    rfl
  funds := happlied.funds
  outgoing := happlied.outgoing
  incoming := happlied.incoming

theorem Undone.moved (hundone : balance.Undone leg now after) :
    balance.Moved (-leg.incoming) (-leg.outgoing) after where
  sameRow := by
    rw [hundone.sameRow]
    rfl
  funds := by
    rw [hundone.funds]
    omega
  outgoing := hundone.outgoing
  incoming := hundone.incoming

/-- A leg that has just been applied can be taken back: the funds were not negative before it. -/
theorem Applied.undone (happlied : balance.Applied leg now middle)
    (hfunds : 0 ≤ balance.funds.toInt) (hrestored : middle.Restored after) (later : Timestamp) :
    after.Undone leg later { balance with updatedAt := later } where
  positive := happlied.positive
  covered hcredit := by
    have hmiddle := happlied.funds
    rw [Leg.incoming, Leg.outgoing, hcredit] at hmiddle
    rw [hrestored, hmiddle]
    simp only
    omega
  sameRow := by
    rw [hrestored, happlied.sameRow]
    rfl
  funds := by
    rw [hrestored, happlied.funds]
    simp only
    omega
  outgoing := by
    rw [hrestored, happlied.outgoing]
    simp only
    omega
  incoming := by
    rw [hrestored, happlied.incoming]
    simp only
    omega

/-! ## Lists of legs -/

theorem applyAll_cons_eq_ok_iff :
    balance.applyAll ((leg, now) :: rest) = .ok after ↔
      ∃ middle, balance.Applied leg now middle ∧ middle.applyAll rest = .ok after := by
  simp only [applyAll, List.foldlM_cons, ← settled_apply_eq_ok_iff]
  cases settled (balance.apply leg now) <;> simp [bind, Except.bind]

theorem reverseAll_cons_eq_ok_iff :
    balance.reverseAll ((leg, now) :: rest) = .ok after ↔
      ∃ middle, balance.Undone leg now middle ∧ middle.reverseAll rest = .ok after := by
  simp only [reverseAll, List.foldlM_cons, ← settled_reverse_eq_ok_iff]
  cases settled (balance.reverse leg now) <;> simp [bind, Except.bind]

theorem reverseAll_append_of_eq_ok (hundone : balance.reverseAll undoing = .ok middle) :
    balance.reverseAll (undoing ++ rest) = middle.reverseAll rest := by
  rw [reverseAll, List.foldlM_append, ← reverseAll, hundone]
  rfl

theorem moved_of_applyAll (happly : balance.applyAll entries = .ok after) :
    balance.Moved (Leg.totalIn (entries.map Prod.fst)) (Leg.totalOut (entries.map Prod.fst))
      after := by
  induction entries generalizing balance with
  | nil =>
    cases happly
    exact .refl _
  | cons entry rest ih =>
    obtain ⟨middle, happlied, hrest⟩ := applyAll_cons_eq_ok_iff.mp happly
    exact happlied.moved.trans (ih hrest)

theorem moved_of_reverseAll (hreverse : balance.reverseAll entries = .ok after) :
    balance.Moved (-Leg.totalIn (entries.map Prod.fst)) (-Leg.totalOut (entries.map Prod.fst))
      after := by
  induction entries generalizing balance with
  | nil =>
    cases hreverse
    exact .refl _
  | cons entry rest ih =>
    obtain ⟨middle, hundone, hrest⟩ := reverseAll_cons_eq_ok_iff.mp hreverse
    have hmoved := hundone.moved.trans (ih hrest)
    rwa [← Int.neg_add, ← Int.neg_add] at hmoved

/-- Back to front every leg can be taken back, the first one last. -/
theorem exists_restored_of_reverse (hfunds : 0 ≤ balance.funds.toInt)
    (happly : balance.applyAll entries = .ok after)
    (hlegs : undoing.map Prod.fst = (entries.map Prod.fst).reverse) :
    ∃ undone, after.reverseAll undoing = .ok undone ∧ balance.Restored undone := by
  induction entries generalizing balance undoing with
  | nil =>
    cases happly
    rw [List.map_nil, List.reverse_nil, List.map_eq_nil_iff] at hlegs
    exact ⟨after, by rw [hlegs]; rfl, rfl⟩
  | cons entry rest ih =>
    obtain ⟨middle, happlied, hrest⟩ := applyAll_cons_eq_ok_iff.mp happly
    rw [List.map_cons, List.reverse_cons] at hlegs
    obtain ⟨sooner, last, rfl, hsooner, hlast⟩ := List.map_eq_append_iff.mp hlegs
    obtain ⟨⟨leg, later⟩, rfl, rfl⟩ := List.map_eq_singleton_iff.mp hlast
    obtain ⟨before, hbefore, hrestored⟩ := ih (happlied.funds_nonneg hfunds) hrest hsooner
    refine ⟨{ balance with updatedAt := later }, ?_, rfl⟩
    rw [reverseAll_append_of_eq_ok hbefore, reverseAll_cons_eq_ok_iff]
    exact ⟨_, happlied.undone hfunds hrestored later, rfl⟩

/-- In whatever order the legs are taken back, the totals do not tell. -/
theorem restored_of_perm (happly : balance.applyAll entries = .ok middle)
    (hreverse : middle.reverseAll undoing = .ok after)
    (hperm : (undoing.map Prod.fst).Perm (entries.map Prod.fst)) : balance.Restored after := by
  have hmoved := (moved_of_applyAll happly).trans (moved_of_reverseAll hreverse)
  rw [(Leg.totals_perm hperm).1, (Leg.totals_perm hperm).2, Int.add_right_neg,
    Int.add_right_neg] at hmoved
  exact hmoved.restored

/-- How the legs that have led from one balance to another can be taken back. -/
structure Unwinds (balance : Balance) (legs : List Leg) (after : Balance) : Prop where
  backwards : ∀ undoing : List (Leg × Timestamp), undoing.map Prod.fst = legs.reverse →
    ∃ undone, after.reverseAll undoing = .ok undone ∧ balance.Restored undone
  reordered : ∀ undoing : List (Leg × Timestamp), (undoing.map Prod.fst).Perm legs →
    (∃ cause, after.reverseAll undoing = .error cause) ∨
      ∃ undone, after.reverseAll undoing = .ok undone ∧ balance.Restored undone

/-- Whatever a balance that is not overdrawn has taken can be taken back from it, the last leg
first; any other order ends in the same totals or does not end. -/
theorem unwinds (hfunds : 0 ≤ balance.funds) (happly : balance.applyAll entries = .ok after) :
    balance.Unwinds (entries.map Prod.fst) after where
  backwards undoing hlegs := by
    have hnonneg : 0 ≤ balance.funds.toInt := by
      simpa [Int64.le_iff_toInt_le] using hfunds
    exact exists_restored_of_reverse hnonneg happly hlegs
  reordered undoing hperm := by
    cases hreverse : after.reverseAll undoing with
    | error cause => exact .inl ⟨cause, rfl⟩
    | ok undone => exact .inr ⟨undone, rfl, restored_of_perm happly hreverse hperm⟩

/-- A balance whose turnover does not tell how its funds came about. -/
def till : Balance where
  id := ⟨⟨1⟩⟩
  userId := ⟨⟨2⟩⟩
  companyId := ⟨⟨3⟩⟩
  currency := ⟨"USD"⟩
  funds := 100
  outgoing := -5
  incoming := 3
  version := 4
  createdAt := .ofNanos 0
  updatedAt := .ofNanos 0

/-- Money comes in, and with it more can go out than was there. -/
def trade : List (Leg × Timestamp) :=
  [(⟨.credit, 50⟩, .ofNanos 1), (⟨.debit, 120⟩, .ofNanos 2), (⟨.credit, 10⟩, .ofNanos 3)]

def traded : Balance :=
  { till with funds := 40, outgoing := 115, incoming := 63, updatedAt := .ofNanos 3 }

/-- The first credit cannot be taken back before the debit, but after it in either order. -/
theorem unwinds_trade :
    till.applyAll trade = .ok traded ∧ till.Unwinds (trade.map Prod.fst) traded ∧
      traded.reverseAll [(⟨.credit, 50⟩, .ofNanos 4)] = .error (traded.shortage 50) ∧
      ∃ undone, traded.reverseAll [(⟨.debit, 120⟩, .ofNanos 4), (⟨.credit, 50⟩, .ofNanos 5),
        (⟨.credit, 10⟩, .ofNanos 6)] = .ok undone ∧ till.Restored undone := by
  have happly : till.applyAll trade = .ok traded := by decide +kernel
  have hunwinds := unwinds (by decide) happly
  refine ⟨happly, hunwinds, by decide +kernel, ?_⟩
  have hperm : [(⟨.debit, 120⟩ : Leg), ⟨.credit, 50⟩, ⟨.credit, 10⟩].Perm
      (trade.map Prod.fst) := by decide
  rcases hunwinds.reordered [(⟨.debit, 120⟩, .ofNanos 4), (⟨.credit, 50⟩, .ofNanos 5),
    (⟨.credit, 10⟩, .ofNanos 6)] hperm with ⟨cause, hcause⟩ | hdone
  · have hgoes : (traded.reverseAll [(⟨.debit, 120⟩, .ofNanos 4), (⟨.credit, 50⟩, .ofNanos 5),
        (⟨.credit, 10⟩, .ofNanos 6)]).isOk = true := by decide +kernel
    rw [hcause] at hgoes
    cases hgoes
  · exact hdone

end Balance

end CashLedger
