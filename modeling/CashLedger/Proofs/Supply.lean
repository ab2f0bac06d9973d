import CashLedger.Supply
import Mathlib

/-!
# What supplies give out

What has been taken from a supply stays taken.  Of identifiers it may be promised
that they differ, or that they increase together with the times; only the order in
which rows are listed rests on the stronger promise.
-/

namespace CashLedger

namespace Supply

/-- A supply from which more may have been taken. -/
structure Leads (first last : Supply) : Prop where
  moment_eq : last.moment = first.moment
  uuid_eq : last.uuid = first.uuid
  readings_le : first.readings ≤ last.readings
  issued_le : first.issued ≤ last.issued

theorem Leads.refl (supply : Supply) : supply.Leads supply := ⟨rfl, rfl, le_rfl, le_rfl⟩

theorem Leads.trans {first middle last : Supply} (hfirst : first.Leads middle)
    (hlast : middle.Leads last) : first.Leads last where
  moment_eq := hlast.moment_eq.trans hfirst.moment_eq
  uuid_eq := hlast.uuid_eq.trans hfirst.uuid_eq
  readings_le := hfirst.readings_le.trans hlast.readings_le
  issued_le := hfirst.issued_le.trans hlast.issued_le

theorem leads_clock (supply : Supply) : supply.Leads supply.clock.2 :=
  ⟨rfl, rfl, Nat.le_succ _, le_rfl⟩

theorem leads_draw (supply : Supply) : supply.Leads supply.draw.2 :=
  ⟨rfl, rfl, le_rfl, Nat.le_succ _⟩

theorem mem_drawn {supply : Supply} {id : Uuid} :
    id ∈ supply.drawn ↔ ∃ n < supply.issued, supply.uuid n = id := by
  simp [drawn]

/-- What was drawn in between is among what has been drawn in the end. -/
theorem Leads.draw_mem {first last : Supply} (hleads : first.draw.2.Leads last) :
    first.uuid first.issued ∈ last.drawn :=
  Supply.mem_drawn.mpr ⟨first.issued, Nat.lt_of_lt_of_le (Nat.lt_succ_self _) hleads.issued_le,
    congrFun hleads.uuid_eq _⟩

/-- No identifier has been given out twice so far. -/
def Distinct (supply : Supply) : Prop :=
  ∀ j < supply.issued, ∀ i < j, supply.uuid j ≠ supply.uuid i

instance (supply : Supply) : Decidable supply.Distinct :=
  inferInstanceAs (Decidable (∀ j < supply.issued, ∀ i < j, supply.uuid j ≠ supply.uuid i))

theorem Distinct.eq_of_uuid_eq {supply : Supply} (hdistinct : supply.Distinct) {i j : Nat}
    (hi : i < supply.issued) (hj : j < supply.issued) (huuid : supply.uuid i = supply.uuid j) :
    i = j := by
  rcases Nat.lt_trichotomy i j with hlt | rfl | hlt
  · exact absurd huuid.symm (hdistinct j hj i hlt)
  · rfl
  · exact absurd huuid (hdistinct i hi j hlt)

theorem increasing_iff {supply : Supply} :
    supply.Increasing ↔
      (∀ j < supply.readings, ∀ i < j, supply.moment i ≤ supply.moment j) ∧
        ∀ j < supply.issued, ∀ i < j, supply.uuid i < supply.uuid j :=
  ⟨fun h => ⟨fun _ hj _ hij => h.moment_le hij hj, fun _ hj _ hij => h.uuid_lt hij hj⟩,
    fun h => ⟨fun hij hj => h.1 _ hj _ hij, fun hij hj => h.2 _ hj _ hij⟩⟩

instance (supply : Supply) : Decidable supply.Increasing :=
  decidable_of_iff _ increasing_iff.symm

/-- What came earlier was in order if what came later is. -/
theorem Leads.increasing {first last : Supply} (hleads : first.Leads last)
    (hincreasing : last.Increasing) : first.Increasing where
  moment_le hlt hbound := by
    have hle := hincreasing.moment_le hlt (hbound.trans_le hleads.readings_le)
    rwa [hleads.moment_eq] at hle
  uuid_lt hlt hbound := by
    have hlt := hincreasing.uuid_lt hlt (hbound.trans_le hleads.issued_le)
    rwa [hleads.uuid_eq] at hlt

theorem Leads.distinct {first last : Supply} (hleads : first.Leads last)
    (hdistinct : last.Distinct) : first.Distinct := by
  intro j hj i hij
  have hne := hdistinct j (hj.trans_le hleads.issued_le) i hij
  rwa [hleads.uuid_eq] at hne

theorem Increasing.distinct {supply : Supply} (hincreasing : supply.Increasing) :
    supply.Distinct := by
  intro j hj i hij heq
  have hlt := hincreasing.uuid_lt hij hj
  rw [heq] at hlt
  exact Nat.lt_irrefl _ hlt

end Supply

/-- What is promised of supplies. -/
inductive Promise where
  /-- No identifier is given out twice. -/
  | distinct
  /-- Identifiers increase, and times do not decrease. -/
  | increasing
  deriving DecidableEq

namespace Supply

def Keeps (promise : Promise) (supply : Supply) : Prop :=
  match promise with
  | .distinct => supply.Distinct
  | .increasing => supply.Increasing

instance (promise : Promise) (supply : Supply) : Decidable (supply.Keeps promise) :=
  match promise with
  | .distinct => inferInstanceAs (Decidable supply.Distinct)
  | .increasing => inferInstanceAs (Decidable supply.Increasing)

theorem Keeps.distinct {promise : Promise} {supply : Supply} (hkeeps : supply.Keeps promise) :
    supply.Distinct := by
  cases promise with
  | distinct => exact hkeeps
  | increasing => exact Increasing.distinct hkeeps

theorem Keeps.increasing {promise : Promise} {supply : Supply} (hkeeps : supply.Keeps promise)
    (hpromise : promise = .increasing) : supply.Increasing := by
  subst hpromise
  exact hkeeps

end Supply

end CashLedger
