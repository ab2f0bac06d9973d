import CashLedger.Engine.Request
import CashLedger.Store.Memory
import CashLedger.Proofs.Store.Table
import CashLedger.Proofs.Supply

/-!
# The course of a unit of work

Between its start and its end a unit in memory sees nothing but its own copy of
the tables, the clock and the new identifiers it draws.  `Work.perform` follows
work through a unit on these alone and also keeps the calls that were answered;
it agrees with running the work on the memory backend.
-/

namespace CashLedger

/-- A unit on its way: what it is now, the supply it draws from, and the calls
it has answered so far. -/
structure Course where
  unit : MemoryUnit
  supply : Supply
  calls : List Call := []

namespace Course

/-- A unit that has just been opened on tables. -/
def start (tables : Tables) (supply : Supply) : Course where
  unit := ⟨tables, {}⟩
  supply := supply

/-- After a call that left the unit so. -/
def answered (course : Course) (request : Call) (unit : MemoryUnit) : Course :=
  { course with unit, calls := course.calls ++ [request] }

/-- After a reading of the clock. -/
def clocked (course : Course) : Course := { course with supply := course.supply.clock.2 }

/-- After a new identifier was drawn. -/
def drew (course : Course) : Course := { course with supply := course.supply.draw.2 }

variable (course : Course) (request : Call) (unit : MemoryUnit)

@[simp] theorem answered_unit : (course.answered request unit).unit = unit := rfl

@[simp] theorem answered_calls :
    (course.answered request unit).calls = course.calls ++ [request] := rfl

@[simp] theorem clocked_unit : course.clocked.unit = course.unit := rfl

end Course

namespace Work

variable {α β : Type}

/-- Does the work in a unit, up to the first error. -/
def perform : Work α → Course → Except LedgerError (α × Course)
  | done value, course => .ok (value, course)
  | fail cause, _ => .error cause
  | call request next, course =>
    match course.unit.answer request with
    | (.ok answer, unit) => (next answer).perform (course.answered request unit)
    | (.error cause, _) => .error cause
  | clock next, course => (next course.supply.clock.1).perform course.clocked
  | draw next, course => (next course.supply.draw.1).perform course.drew

section Steps

variable (course : Course)

theorem perform_done (value : α) : (done value).perform course = .ok (value, course) := rfl

theorem perform_fail (cause : LedgerError) :
    (fail cause : Work α).perform course = .error cause := rfl

theorem perform_call (request : Call) (next : request.Answer → Work α) :
    (call request next).perform course =
      match course.unit.answer request with
      | (.ok answer, unit) => (next answer).perform (course.answered request unit)
      | (.error cause, _) => .error cause := by
  rw [perform]

theorem perform_clock (next : Timestamp → Work α) :
    (clock next).perform course = (next course.supply.clock.1).perform course.clocked := rfl

theorem perform_draw (next : Uuid → Work α) :
    (draw next).perform course = (next course.supply.draw.1).perform course.drew := rfl

end Steps

theorem perform_bind (work : Work α) (next : α → Work β) (course : Course) :
    (work.bind next).perform course =
      (work.perform course).bind fun done => (next done.1).perform done.2 := by
  induction work generalizing course with
  | done value => rfl
  | fail cause => rfl
  | call request rest ih =>
    simp only [bind, perform_call]
    cases course.unit.answer request with
    | mk result unit =>
      cases result with
      | ok answer => exact ih answer _
      | error cause => rfl
  | clock rest ih => exact ih _ _
  | draw rest ih => exact ih _ _

theorem perform_bind_eq_ok {work : Work α} {next : α → Work β} {course last : Course}
    {value : β} :
    (work >>= next).perform course = .ok (value, last) ↔
      ∃ first middle, work.perform course = .ok (first, middle) ∧
        (next first).perform middle = .ok (value, last) := by
  change (work.bind next).perform course = _ ↔ _
  rw [perform_bind]
  cases hwork : work.perform course with
  | error cause => simp [Except.bind]
  | ok result =>
    constructor
    · exact fun h => ⟨result.1, result.2, rfl, h⟩
    · rintro ⟨first, middle, hfirst, hnext⟩
      cases hfirst
      exact hnext

theorem perform_pure_eq_ok {value result : α} {course last : Course} :
    (pure value : Work α).perform course = .ok (result, last) ↔
      value = result ∧ last = course := by
  change perform (done value) course = _ ↔ _
  simp [perform_done, @eq_comm _ course]

theorem perform_ask_eq_ok {request : Call} {course last : Course}
    {answer : request.Answer} :
    (ask request).perform course = .ok (answer, last) ↔
      ∃ unit, course.unit.answer request = (.ok answer, unit) ∧
        last = course.answered request unit := by
  simp only [ask, perform_call, perform_done]
  cases hanswer : course.unit.answer request with
  | mk result unit =>
    cases result with
    | error cause => simp
    | ok found =>
      simp only [Except.ok.injEq, Prod.mk.injEq]
      constructor
      · rintro ⟨rfl, rfl⟩
        exact ⟨unit, ⟨rfl, rfl⟩, rfl⟩
      · rintro ⟨unit', ⟨rfl, rfl⟩, rfl⟩
        exact ⟨rfl, rfl⟩

/-- A call that leaves the unit as it is. -/
theorem perform_read_eq_ok {request : Call} {course last : Course}
    {found answer : request.Answer}
    (hread : course.unit.answer request = (.ok found, course.unit)) :
    (ask request).perform course = .ok (answer, last) ↔
      found = answer ∧ last = course.answered request course.unit := by
  rw [perform_ask_eq_ok, hread]
  constructor
  · rintro ⟨unit, hanswer, rfl⟩
    cases hanswer
    exact ⟨rfl, rfl⟩
  · rintro ⟨rfl, rfl⟩
    exact ⟨course.unit, rfl, rfl⟩

theorem perform_now_eq_ok {course last : Course} {moment : Timestamp} :
    now.perform course = .ok (moment, last) ↔
      moment = course.supply.moment course.supply.readings ∧ last = course.clocked := by
  simp only [now, perform_clock, perform_done, Supply.clock, Except.ok.injEq, Prod.mk.injEq]
  constructor <;> rintro ⟨h, h'⟩ <;> exact ⟨h.symm, h'.symm⟩

theorem perform_newId_eq_ok {kind : IdKind} {course last : Course} {id : Id kind} :
    newId.perform course = .ok (id, last) ↔
      id = ⟨course.supply.uuid course.supply.issued⟩ ∧ last = course.drew := by
  simp only [newId, perform_draw, perform_done, Supply.draw, Except.ok.injEq, Prod.mk.injEq]
  constructor <;> rintro ⟨h, h'⟩ <;> exact ⟨h.symm, h'.symm⟩

theorem perform_check_eq_ok {outcome : Except LedgerError α} {course last : Course}
    {value : α} :
    (check outcome).perform course = .ok (value, last) ↔
      outcome = .ok value ∧ last = course := by
  cases outcome with
  | error cause => simp [check, perform_fail]
  | ok result =>
    simp only [check, perform_done, Except.ok.injEq, Prod.mk.injEq]
    exact and_congr_right fun _ => eq_comm

theorem perform_require_eq_ok {cause : LedgerError} {found : Option α}
    {course last : Course} {value : α} :
    (require cause found).perform course = .ok (value, last) ↔
      found = some value ∧ last = course := by
  cases found with
  | none => simp [require, perform_fail]
  | some result =>
    simp only [require, perform_done, Except.ok.injEq, Prod.mk.injEq, Option.some.injEq]
    exact and_congr_right fun _ => eq_comm

/-! ## Agreement with the memory backend -/

theorem run_of_perform_ok {work : Work α} {course last : Course} {value : α}
    {world : World Tables} (hperform : work.perform course = .ok (value, last))
    (hsupply : world.supply = course.supply) :
    work.run Memory.backend course.unit world =
      (.ok value, last.unit, { world with supply := last.supply }) := by
  induction work generalizing course world with
  | done result =>
    obtain ⟨rfl, rfl⟩ := Prod.mk.inj (Except.ok.inj hperform)
    rw [← hsupply]
    rfl
  | fail cause => cases hperform
  | call request next ih =>
    simp only [perform_call] at hperform
    simp only [run, Memory.backend]
    cases hanswer : course.unit.answer request with
    | mk result unit =>
      rw [hanswer] at hperform
      cases result with
      | error cause => cases hperform
      | ok answer => exact ih answer hperform hsupply
  | clock next ih =>
    simp only [perform_clock] at hperform
    simp only [run, Memory.backend, World.clock, hsupply]
    exact @ih _ course.clocked _ hperform rfl
  | draw next ih =>
    simp only [perform_draw] at hperform
    simp only [run, Memory.backend, World.draw, hsupply]
    exact @ih _ course.drew _ hperform rfl

theorem run_of_perform_error {work : Work α} {course : Course} {cause : LedgerError}
    {world : World Tables} (hperform : work.perform course = .error cause)
    (hsupply : world.supply = course.supply) :
    ∃ unit supply, work.run Memory.backend course.unit world =
      (.error cause, unit, { world with supply }) := by
  induction work generalizing course world with
  | done result => cases hperform
  | fail other =>
    cases hperform
    exact ⟨course.unit, world.supply, rfl⟩
  | call request next ih =>
    simp only [perform_call] at hperform
    simp only [run, Memory.backend]
    cases hanswer : course.unit.answer request with
    | mk result unit =>
      rw [hanswer] at hperform
      cases result with
      | error other =>
        cases hperform
        exact ⟨unit, world.supply, rfl⟩
      | ok answer => exact ih answer hperform hsupply
  | clock next ih =>
    simp only [perform_clock] at hperform
    simp only [run, Memory.backend, World.clock, hsupply]
    exact @ih _ course.clocked _ hperform rfl
  | draw next ih =>
    simp only [perform_draw] at hperform
    simp only [run, Memory.backend, World.draw, hsupply]
    exact @ih _ course.drew _ hperform rfl

end Work

/-! ## What only grows -/

/-- A later point of the same course. -/
structure Course.Leads (first last : Course) : Prop where
  supply : first.supply.Leads last.supply
  calls : first.calls <+: last.calls

theorem Course.Leads.refl (course : Course) : course.Leads course :=
  ⟨.refl _, List.prefix_rfl⟩

theorem Work.leads_of_perform {α : Type} {work : Work α} {course last : Course} {value : α}
    (hperform : work.perform course = .ok (value, last)) : course.Leads last := by
  induction work generalizing course with
  | done result =>
    obtain ⟨rfl, rfl⟩ := Prod.mk.inj (Except.ok.inj hperform)
    exact .refl _
  | fail cause => cases hperform
  | call request next ih =>
    simp only [perform_call] at hperform
    cases hanswer : course.unit.answer request with
    | mk result unit =>
      rw [hanswer] at hperform
      cases result with
      | error cause => cases hperform
      | ok answer =>
        have hrest := ih answer hperform
        exact ⟨hrest.supply, (List.prefix_append _ _).trans hrest.calls⟩
  | clock next ih =>
    have hrest := ih _ hperform
    exact ⟨course.supply.leads_clock.trans hrest.supply, hrest.calls⟩
  | draw next ih =>
    have hrest := ih _ hperform
    exact ⟨course.supply.leads_draw.trans hrest.supply, hrest.calls⟩

/-! ## The points of a course -/

namespace Work

/-- The points that work comes past in a unit, up to the first error. -/
inductive Passes {α : Type} : Work α → Course → Course → Prop
  | here (work : Work α) (course : Course) : Passes work course course
  | call {request : Call} {next : request.Answer → Work α} {course point : Course}
      {unit : MemoryUnit} {answer : request.Answer}
      (hanswer : course.unit.answer request = (.ok answer, unit))
      (hrest : Passes (next answer) (course.answered request unit) point) :
      Passes (call request next) course point
  | clock {next : Timestamp → Work α} {course point : Course}
      (hrest : Passes (next course.supply.clock.1) course.clocked point) :
      Passes (clock next) course point
  | draw {next : Uuid → Work α} {course point : Course}
      (hrest : Passes (next course.supply.draw.1) course.drew point) :
      Passes (draw next) course point

variable {α : Type} {work : Work α} {course point last : Course}

theorem passes_of_perform {value : α} (hperform : work.perform course = .ok (value, last)) :
    work.Passes course last := by
  induction work generalizing course with
  | done result =>
    obtain ⟨rfl, rfl⟩ := Prod.mk.inj (Except.ok.inj hperform)
    exact .here _ _
  | fail cause => cases hperform
  | call request next ih =>
    simp only [perform_call] at hperform
    cases hanswer : course.unit.answer request with
    | mk result unit =>
      rw [hanswer] at hperform
      cases result with
      | error cause => cases hperform
      | ok answer => exact .call hanswer (ih answer hperform)
  | clock next ih => exact .clock (ih _ hperform)
  | draw next ih => exact .draw (ih _ hperform)

theorem Passes.calls_subset (hpasses : work.Passes course point) : course.calls ⊆ point.calls := by
  induction hpasses with
  | here work course => exact List.Subset.refl _
  | call hanswer hrest ih => exact List.Subset.trans (List.subset_append_left _ _) ih
  | clock hrest ih => exact ih
  | draw hrest ih => exact ih

end Work

end CashLedger
