import CashLedger.Engine.Operation
import Mathlib

/-!
# Backends and what runs on them

What an operation does to a world it does through its backend alone.  So it has the
same result on a backend whose world says more, and what each function of the backend
keeps true of the world stays true along the whole run.
-/

namespace CashLedger

variable {α U V W : Type}

/-! ## Backends that know more -/

namespace Backend

/-- A backend that does what a plainer one does, and whose world says more. -/
structure Refines (detailed : Backend V U) (plain : Backend W U) (forget : V → W) : Prop where
  begin : ∀ world, plain.begin (forget world) = (detailed.begin world).map id forget
  answer : ∀ request unit world,
    plain.answer request unit (forget world) =
      (detailed.answer request unit world).map id (Prod.map id forget)
  commit : ∀ unit world,
    plain.commit unit (forget world) = (detailed.commit unit world).map id forget
  rollback : ∀ unit world,
    plain.rollback unit (forget world) = (detailed.rollback unit world).map id forget
  clock : ∀ world, plain.clock (forget world) = (detailed.clock world).map id forget
  draw : ∀ world, plain.draw (forget world) = (detailed.draw world).map id forget
  note : ∀ event world, plain.note event (forget world) = forget (detailed.note event world)

namespace Refines

variable {detailed : Backend V U} {plain : Backend W U} {forget : V → W}

theorem run (hrefines : detailed.Refines plain forget) (work : Work α) (unit : U) (world : V) :
    work.run plain unit (forget world) =
      (work.run detailed unit world).map id (Prod.map id forget) := by
  induction work generalizing unit world with
  | done value => rfl
  | fail cause => rfl
  | call request next ih =>
    simp only [Work.run, hrefines.answer]
    rcases detailed.answer request unit world with ⟨answer | cause, unit, world⟩
    · rfl
    · exact ih _ unit world
  | clock next ih =>
    simp only [Work.run, hrefines.clock]
    exact ih _ unit _
  | draw next ih =>
    simp only [Work.run, hrefines.draw]
    exact ih _ unit _

theorem notes (hrefines : detailed.Refines plain forget) (events : List Event) (world : V) :
    plain.notes events (forget world) = forget (detailed.notes events world) := by
  induction events generalizing world with
  | nil => rfl
  | cons event rest ih =>
    simp only [Backend.notes, List.foldl_cons] at ih ⊢
    rw [hrefines.note]
    exact ih _

theorem close (hrefines : detailed.Refines plain forget) (operation : Operation α)
    (result : Except LedgerError α) (unit : U) (world : V) :
    operation.close plain result unit (forget world) =
      (operation.close detailed result unit world).map id forget := by
  unfold Operation.close
  cases operation.purpose with
  | change =>
    cases result with
    | ok value =>
      simp only [Operation.settle, hrefines.commit]
      rcases detailed.commit unit world with ⟨cause | done, world⟩
      · simp [hrefines.note]
      · rfl
    | error cause =>
      simp only [Operation.settle, hrefines.note, hrefines.rollback]
      rcases detailed.rollback unit _ with ⟨second | done, world⟩
      · simp [hrefines.note]
      · rfl
  | query =>
    simp only [Operation.discard, hrefines.rollback]
    rcases detailed.rollback unit world with ⟨cause | done, world⟩ <;> rfl

/-- An operation has the same result on both. -/
theorem run_operation (hrefines : detailed.Refines plain forget) (operation : Operation α)
    (world : V) :
    operation.run plain (forget world) = (operation.run detailed world).map id forget := by
  simp only [Operation.run, hrefines.notes]
  cases operation.check with
  | error cause => rfl
  | ok done =>
    simp only [hrefines.begin]
    rcases detailed.begin (detailed.notes operation.opening world) with ⟨cause | unit, world⟩
    · rfl
    · simp only [Prod.map, id, hrefines.run, hrefines.close]
      rcases operation.close detailed _ _ _ with ⟨cause | value, world⟩
      · rfl
      · simp [hrefines.notes]

end Refines

end Backend

/-! ## What a backend keeps -/

namespace Backend

/-- Whatever a backend does to its world, this stays true of it. -/
structure Keeps (backend : Backend W U) (holds : W → Prop) : Prop where
  begin : ∀ world, holds world → holds (backend.begin world).2
  answer : ∀ request unit world, holds world → holds (backend.answer request unit world).2.2
  commit : ∀ unit world, holds world → holds (backend.commit unit world).2
  rollback : ∀ unit world, holds world → holds (backend.rollback unit world).2
  clock : ∀ world, holds world → holds (backend.clock world).2
  draw : ∀ world, holds world → holds (backend.draw world).2
  note : ∀ event world, holds world → holds (backend.note event world)

namespace Keeps

variable {backend : Backend W U} {holds : W → Prop} {world : W}

theorem run (hkeeps : backend.Keeps holds) (work : Work α) (unit : U) (hworld : holds world) :
    holds (work.run backend unit world).2.2 := by
  induction work generalizing unit world with
  | done value => exact hworld
  | fail cause => exact hworld
  | call request next ih =>
    have hanswer := hkeeps.answer request unit world hworld
    simp only [Work.run]
    generalize backend.answer request unit world = asked at hanswer ⊢
    rcases asked with ⟨cause | answer, unit, world⟩
    · exact hanswer
    · exact ih answer unit hanswer
  | clock next ih => exact ih _ unit (hkeeps.clock world hworld)
  | draw next ih => exact ih _ unit (hkeeps.draw world hworld)

theorem notes (hkeeps : backend.Keeps holds) (events : List Event) (hworld : holds world) :
    holds (backend.notes events world) := by
  induction events generalizing world with
  | nil => exact hworld
  | cons event rest ih => exact ih (hkeeps.note event world hworld)

theorem close (hkeeps : backend.Keeps holds) (operation : Operation α)
    (result : Except LedgerError α) (unit : U) (hworld : holds world) :
    holds (operation.close backend result unit world).2 := by
  unfold Operation.close
  cases operation.purpose with
  | change =>
    cases result with
    | ok value =>
      have hcommit := hkeeps.commit unit world hworld
      simp only [Operation.settle]
      generalize backend.commit unit world = closed at hcommit ⊢
      rcases closed with ⟨cause | done, world⟩
      · exact hkeeps.note _ world hcommit
      · exact hcommit
    | error cause =>
      have hrollback := hkeeps.rollback unit _ (hkeeps.note (.entry .warn .engine
        "Rolling back unit of work" (Operation.failureFields operation.name cause)) world hworld)
      simp only [Operation.settle]
      generalize backend.rollback unit _ = closed at hrollback ⊢
      rcases closed with ⟨second | done, world⟩
      · exact hkeeps.note _ world hrollback
      · exact hrollback
  | query =>
    have hrollback := hkeeps.rollback unit world hworld
    simp only [Operation.discard]
    generalize backend.rollback unit world = closed at hrollback ⊢
    rcases closed with ⟨cause | done, world⟩ <;> exact hrollback

theorem run_operation (hkeeps : backend.Keeps holds) (operation : Operation α)
    (hworld : holds world) : holds (operation.run backend world).2 := by
  have hopening := hkeeps.notes operation.opening hworld
  simp only [Operation.run]
  cases operation.check with
  | error cause => exact hopening
  | ok done =>
    have hbegin := hkeeps.begin _ hopening
    simp only
    generalize backend.begin (backend.notes operation.opening world) = begun at hbegin ⊢
    rcases begun with ⟨cause | unit, world⟩
    · exact hbegin
    · have hclose := hkeeps.close operation (operation.work.run backend unit world).1
        (operation.work.run backend unit world).2.1 (hkeeps.run operation.work unit hbegin)
      simp only
      generalize operation.close backend _ _ _ = closed at hclose ⊢
      rcases closed with ⟨cause | value, world⟩
      · exact hclose
      · exact hkeeps.notes _ hclose

end Keeps

end Backend

end CashLedger
