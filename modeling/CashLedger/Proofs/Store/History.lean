import CashLedger.Proofs.Store.Written

/-!
# Histories of units on one store

Any number of units are open on a store in memory, and each makes whatever calls it
likes, between those of the others.  Beside the store a history keeps what each
open unit found at its start and what it wrote, and all that was committed.
-/

namespace CashLedger

/-- A unit that is open on a store. -/
structure Visit where
  /-- The store's tables when the unit began. -/
  snapshot : Tables
  unit : MemoryUnit
  /-- How much had happened by then. -/
  began : Nat
  created : List RowName := []
  updated : List RowName := []
  deleted : List RowName := []

namespace Visit

/-- The rows that the unit's answered calls created, updated or deleted. -/
def written (visit : Visit) : List RowName :=
  visit.created ++ visit.updated ++ visit.deleted

/-- The visit when a call has been answered. -/
def after (visit : Visit) (request : Call) (unit : MemoryUnit) : Visit :=
  { visit with
    unit
    created := visit.created ++ request.created?.toList
    updated := visit.updated ++ request.updated?.toList
    deleted := visit.deleted ++ request.deleted visit.unit.working }

end Visit

/-- What others can notice of a store. -/
inductive Happening where
  | committed (written : List RowName)
  | joined (user : User)
  deriving DecidableEq

def Happening.written : Happening → List RowName
  | committed written => written
  | joined _ => []

/-- A store with the units that are open on it. -/
structure History where
  world : World Tables
  visits : Nat → Option Visit := fun _ => none
  happened : List Happening := []
  /-- The rows that any unit has created so far, committed or not. -/
  created : List RowName := []

/-- What comes next: a user is added, or a unit begins, is asked, commits or is rolled
back. -/
inductive Step where
  | joins (user : User)
  | begins (n : Nat)
  | asks (n : Nat) (request : Call)
  | commits (n : Nat)
  | rollsBack (n : Nat)

namespace History

def shared (history : History) : Tables := history.world.store

/-- What has happened since the unit began. -/
def since (history : History) (visit : Visit) : List Happening :=
  history.happened.drop visit.began

/-- Somebody has committed the row since the unit began. -/
def WrittenSince (history : History) (visit : Visit) (name : RowName) : Prop :=
  ∃ happening ∈ history.since visit, name ∈ happening.written

instance (history : History) (visit : Visit) (name : RowName) :
    Decidable (history.WrittenSince visit name) :=
  inferInstanceAs (Decidable (∃ happening ∈ history.since visit, name ∈ happening.written))

def begins (history : History) (n : Nat) : History :=
  match Memory.backend.begin history.world with
  | (.ok unit, world) =>
    { history with
      world
      visits := Function.update history.visits n
        (some ⟨history.shared, unit, history.happened.length, [], [], []⟩) }
  | (.error _, world) => { history with world }

/-- A call that stops the program does nothing; others may go on, and so may the unit. -/
def asks (history : History) (n : Nat) (visit : Visit) (request : Call) : History :=
  if visit.unit.stops request then history
  else
    match Memory.backend.answer request visit.unit history.world with
    | (.ok _, unit, world) =>
      { history with
        world
        visits := Function.update history.visits n (some (visit.after request unit))
        created := history.created ++ request.created?.toList }
    | (.error _, unit, world) =>
      { history with
        world
        visits := Function.update history.visits n (some { visit with unit }) }

def commits (history : History) (n : Nat) (visit : Visit) : History :=
  let closed := Function.update history.visits n none
  match Memory.backend.commit visit.unit history.world with
  | (.ok (), world) =>
    { history with
      world
      visits := closed
      happened := history.happened ++ [.committed visit.written] }
  | (.error _, world) => { history with world, visits := closed }

def rollsBack (history : History) (n : Nat) (visit : Visit) : History :=
  { history with
    world := (Memory.backend.rollback visit.unit history.world).2
    visits := Function.update history.visits n none }

/-- What asks for a unit that is not open is passed over, and so is a second beginning. -/
def step (history : History) : Step → History
  | .joins user =>
    { history with
      world := { history.world with store := history.shared.insertUser user }
      happened := history.happened ++ [.joined user] }
  | .begins n =>
    match history.visits n with
    | none => history.begins n
    | some _ => history
  | .asks n request => (history.visits n).elim history (history.asks n · request)
  | .commits n => (history.visits n).elim history (history.commits n)
  | .rollsBack n => (history.visits n).elim history (history.rollsBack n)

def run (history : History) (steps : List Step) : History := steps.foldl step history

/-- No row is created that was created before, and there is a next version for what is
updated. -/
def Permits (history : History) (request : Call) : Prop :=
  (∀ name ∈ request.created?, name ∉ history.created) ∧ request.HasRoom

instance (history : History) (request : Call) : Decidable (history.Permits request) :=
  inferInstanceAs
    (Decidable ((∀ name ∈ request.created?, name ∉ history.created) ∧ request.HasRoom))

/-- A call that is refused may be any call. -/
def Allows (history : History) : Step → Prop
  | .asks n request =>
    ∀ visit ∈ history.visits n,
      (Memory.backend.answer request visit.unit history.world).1.isOk → history.Permits request
  | _ => True

instance (history : History) : (step : Step) → Decidable (history.Allows step)
  | .asks n request => inferInstanceAs (Decidable (∀ visit ∈ history.visits n,
      (Memory.backend.answer request visit.unit history.world).1.isOk →
        history.Permits request))
  | .joins _ | .begins _ | .commits _ | .rollsBack _ => .isTrue trivial

/-- Each step is allowed when it comes. -/
def AllowsAll : History → List Step → Prop
  | _, [] => True
  | history, step :: rest => history.Allows step ∧ AllowsAll (history.step step) rest

instance AllowsAll.decidable : (history : History) → (steps : List Step) →
    Decidable (history.AllowsAll steps)
  | _, [] => .isTrue trivial
  | history, step :: rest =>
    have := AllowsAll.decidable (history.step step) rest
    inferInstanceAs
      (Decidable (history.Allows step ∧ (history.step step).AllowsAll rest))

/-- Histories of a store that starts with nothing but users. -/
inductive Reachable : History → Prop
  | start (users : Table User) (supply : Supply) : Reachable { world := ⟨{ users }, supply, []⟩ }
  | step {history : History} (step : Step) (hreachable : Reachable history)
      (hallows : history.Allows step) : Reachable (history.step step)

theorem Reachable.run {history : History} {steps : List Step}
    (hreachable : history.Reachable) (hallows : history.AllowsAll steps) :
    (history.run steps).Reachable := by
  induction steps generalizing history with
  | nil => exact hreachable
  | cons step rest ih => exact ih (hreachable.step step hallows.1) hallows.2

/-! ## What a step comes to -/

/-- What is asked of a unit that is not open comes to nothing, and so does a call that is refused or
does not come back; a commit that is refused closes the unit as a rollback does. -/
inductive Proceeds (history : History) : Step → History → Prop
  | idle (step : Step) : Proceeds history step history
  | joins (user : User) :
      Proceeds history (.joins user) { history with
        world := { history.world with store := history.shared.insertUser user }
        happened := history.happened ++ [.joined user] }
  | begins (n : Nat) : Proceeds history (.begins n) (history.begins n)
  | answered {n : Nat} {visit : Visit} {request : Call} {answer : request.Answer}
      {unit : MemoryUnit} (hopen : visit ∈ history.visits n)
      (hreturns : visit.unit.stops request = false)
      (hanswer : visit.unit.answer request = (.ok answer, unit)) :
      Proceeds history (.asks n request) { history with
        visits := Function.update history.visits n (some (visit.after request unit))
        created := history.created ++ request.created?.toList }
  | published {n : Nat} {visit : Visit} {world : World Tables} (hopen : visit ∈ history.visits n)
      (hcheck : visit.unit.check history.shared = .ok ())
      (hstore : world.store = visit.unit.publish history.shared) :
      Proceeds history (.commits n) { history with
        world
        visits := Function.update history.visits n none
        happened := history.happened ++ [.committed visit.written] }
  | closed {step : Step} (n : Nat) {world : World Tables} (hstore : world.store = history.shared) :
      Proceeds history step { history with
        world
        visits := Function.update history.visits n none }

theorem proceeds (history : History) (step : Step) :
    history.Proceeds step (history.step step) := by
  cases step with
  | joins user => exact .joins user
  | begins n =>
    simp only [step]
    split
    · exact .begins n
    · exact .idle _
  | asks n request =>
    simp only [step]
    cases hopen : history.visits n with
    | none => exact .idle _
    | some visit =>
      simp only [Option.elim_some, asks]
      split
      · exact .idle _
      · next hreturns =>
        simp only [Memory.backend]
        cases hanswer : visit.unit.answer request with
        | mk result unit =>
          cases result with
          | error cause =>
            have hsame : Function.update history.visits n (some { visit with unit }) =
                history.visits := by
              rw [MemoryUnit.eq_of_answer_error hanswer, Function.update_eq_self_iff]
              exact hopen.symm
            simp only [hsame]
            exact .idle _
          | ok answer => exact .answered hopen (Bool.eq_false_iff.mpr hreturns) hanswer
  | commits n =>
    simp only [step]
    cases hopen : history.visits n with
    | none => exact .idle _
    | some visit =>
      simp only [Option.elim_some, commits, Memory.backend]
      cases hcommit : visit.unit.commit history.world.store with
      | error cause => exact .closed n rfl
      | ok published =>
        obtain ⟨hcheck, rfl⟩ := MemoryUnit.commit_eq_ok_iff.mp hcommit
        exact .published hopen hcheck rfl
  | rollsBack n =>
    simp only [step]
    cases history.visits n with
    | none => exact .idle _
    | some visit => exact .closed n rfl

end History

end CashLedger
