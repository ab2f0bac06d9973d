import CashLedger.Proofs.Store.Commit
import CashLedger.Proofs.Store.Succession

/-!
# Versions

Units can ask of a store in memory whatever they like, as long as no balance or debtor is created
under the name of another.  Then a balance or debtor that is stored stays there, and its version
counts how often it has been updated by units that committed: a commit that writes the row raises
the version, nothing lowers it, and no two contents have one version.  The count does not run over
either: no call comes back that would update a row with the last of all versions.
-/

namespace CashLedger

namespace History

variable {history next : History} {visit : Visit} {n : Nat} {name : RowName}

/-- No balance or debtor is created that was created before. -/
def NamesAnew (history : History) (request : Call) : Prop :=
  ∀ name ∈ request.created?, name.isVersioned = true → name ∉ history.created

instance (history : History) (request : Call) : Decidable (history.NamesAnew request) :=
  inferInstanceAs
    (Decidable (∀ name ∈ request.created?, name.isVersioned = true → name ∉ history.created))

/-- Every call is taken but one that creates a balance or debtor under a name that was in use. -/
def Takes (history : History) : Step → Prop
  | .asks n request =>
    ∀ visit ∈ history.visits n,
      (Memory.backend.answer request visit.unit history.world).1.isOk → history.NamesAnew request
  | _ => True

instance (history : History) : (step : Step) → Decidable (history.Takes step)
  | .asks n request => inferInstanceAs (Decidable (∀ visit ∈ history.visits n,
      (Memory.backend.answer request visit.unit history.world).1.isOk →
        history.NamesAnew request))
  | .joins _ | .begins _ | .commits _ | .rollsBack _ => .isTrue trivial

/-- Each step is taken when it comes. -/
def TakesAll : History → List Step → Prop
  | _, [] => True
  | history, step :: rest => history.Takes step ∧ TakesAll (history.step step) rest

instance TakesAll.decidable : (history : History) → (steps : List Step) →
    Decidable (history.TakesAll steps)
  | _, [] => .isTrue trivial
  | history, step :: rest =>
    have := TakesAll.decidable (history.step step) rest
    inferInstanceAs (Decidable (history.Takes step ∧ (history.step step).TakesAll rest))

/-- Histories of a store that starts with nothing but users, in which no balance or debtor takes
the name of another. -/
inductive Anew : History → Prop
  | start (users : Table User) (supply : Supply) : Anew { world := ⟨{ users }, supply, []⟩ }
  | step {history : History} (step : Step) (hanew : Anew history) (htakes : history.Takes step) :
      Anew (history.step step)

theorem Anew.run {steps : List Step} (hanew : history.Anew) (htakes : history.TakesAll steps) :
    (history.run steps).Anew := by
  induction steps generalizing history with
  | nil => exact hanew
  | cons step rest ih => exact ih (hanew.step step htakes.1) htakes.2

/-- How often units that committed have written the row. -/
def writes (history : History) (name : RowName) : Nat :=
  (history.happened.flatMap Happening.written).count name

/-- How an open unit stands to the store and to the names in use. -/
structure Hosts (history : History) (visit : Visit) : Prop where
  counted : visit.Counted
  issued : visit.created ⊆ history.created
  known : ∀ name, name.isVersioned = true → (visit.unit.working.row? name).isSome = true →
    name ∈ history.created
  unseen : ∀ name ∈ visit.created, name.isVersioned = true → history.shared.row? name = none

/-- What holds of the names of balances and debtors in a store and in its open units. -/
structure Named (history : History) : Prop where
  known : ∀ name, name.isVersioned = true → (history.shared.row? name).isSome = true →
    name ∈ history.created
  hosts : ∀ n, ∀ visit ∈ history.visits n, history.Hosts visit
  apart : ∀ m n, m ≠ n → ∀ first ∈ history.visits m, ∀ second ∈ history.visits n,
    ∀ name ∈ first.created, name.isVersioned = true → name ∉ second.created

namespace Hosts

/-- What a unit has found and created stays its own while more names come into use. -/
theorem mono (hhosts : history.Hosts visit) (hcreated : history.created ⊆ next.created)
    (hunseen : ∀ name ∈ visit.created, name.isVersioned = true →
      next.shared.row? name = none) : next.Hosts visit where
  counted := hhosts.counted
  issued := List.Subset.trans hhosts.issued hcreated
  known name hversioned hsome := hcreated (hhosts.known name hversioned hsome)
  unseen := hunseen

theorem not_has (hhosts : history.Hosts visit) (hversioned : name.isVersioned = true)
    (hnew : name ∉ history.created) : ¬visit.unit.writes.Has name := by
  refine hhosts.counted.not_has (fun h => hnew (hhosts.issued h)) ?_ hversioned
  by_contra hsome
  exact hnew (hhosts.known name hversioned (Option.isSome_iff_ne_none.mpr hsome))

/-- A unit's creation is its own when the name is new to all. -/
theorem answered (hhosts : history.Hosts visit)
    (hknown : ∀ name, name.isVersioned = true → (history.shared.row? name).isSome = true →
      name ∈ history.created) {request : Call} {answer : request.Answer} {unit : MemoryUnit}
    (hreturns : visit.unit.stops request = false)
    (hanswer : visit.unit.answer request = (.ok answer, unit)) (hnew : history.NamesAnew request)
    (hshared : next.shared = history.shared)
    (hcreated : next.created = history.created ++ request.created?.toList) :
    next.Hosts (visit.after request unit) where
  counted := hhosts.counted.after hreturns hanswer fun name hname hversioned =>
    hhosts.not_has hversioned (hnew name hname hversioned)
  issued name hname := by
    rw [hcreated, List.mem_append, Option.mem_toList]
    exact (Visit.mem_created_after.mp hname).imp (fun h => hhosts.issued h) id
  known name hversioned hsome := by
    rw [hcreated, List.mem_append, Option.mem_toList]
    exact ((MemoryUnit.isSome_row?_answer hversioned hanswer).mp hsome).imp
      (hhosts.known name hversioned) id
  unseen name hname hversioned := by
    rw [hshared]
    rcases Visit.mem_created_after.mp hname with h | h
    · exact hhosts.unseen name h hversioned
    · by_contra hsome
      exact hnew name h hversioned
        (hknown name hversioned (Option.isSome_iff_ne_none.mpr hsome))

/-- A commit leaves rows alone that the store does not have and the unit did not create. -/
theorem row?_publish_eq_none (hhosts : history.Hosts visit)
    (hcheck : visit.unit.check history.shared = .ok ()) (hversioned : name.isVersioned = true)
    (hnone : history.shared.row? name = none) (hcreated : name ∉ visit.created) :
    (visit.unit.publish history.shared).row? name = none := by
  rw [MemoryUnit.row?_publish_of_not_has, hnone]
  intro hhas
  obtain ⟨base, hnotes⟩ := (WriteSet.has_iff_notes hversioned).mp hhas
  cases base with
  | created => exact hcreated (hhosts.counted.created name hnotes)
  | stored version =>
    have hversion := MemoryUnit.version_of_check hcheck hnotes
    rw [hnone] at hversion
    cases hversion

end Hosts

namespace Named

theorem start (users : Table User) (supply : Supply) :
    Named { world := ⟨{ users }, supply, []⟩ } where
  known name _ hsome := by cases name <;> cases hsome
  hosts := nofun
  apart := nofun

/-- Nothing comes to the store or to its units, but users can join and units be closed. -/
theorem keeps (hnamed : history.Named)
    (hrows : ∀ name, next.shared.row? name = history.shared.row? name)
    (hcreated : next.created = history.created)
    (hvisits : ∀ m visit, visit ∈ next.visits m → visit ∈ history.visits m) : next.Named where
  known name hversioned hsome := by
    rw [hcreated]
    rw [hrows] at hsome
    exact hnamed.known name hversioned hsome
  hosts m visit hmem := by
    have hhosts := hnamed.hosts m visit (hvisits m visit hmem)
    refine hhosts.mono (hcreated ▸ List.Subset.refl _) fun name hname hversioned => ?_
    rw [hrows, hhosts.unseen name hname hversioned]
  apart m k hne first hfirst second hsecond :=
    hnamed.apart m k hne first (hvisits m first hfirst) second (hvisits k second hsecond)

theorem closed (hnamed : history.Named) (hshared : next.shared = history.shared)
    (hcreated : next.created = history.created)
    (hvisits : next.visits = Function.update history.visits n none) : next.Named := by
  refine hnamed.keeps (fun name => by rw [hshared]) hcreated fun m visit hmem => ?_
  rw [hvisits, mem_update] at hmem
  exact hmem.elim (fun h => nomatch h.2) And.right

theorem begins (hnamed : history.Named) (n : Nat) : (history.begins n).Named where
  known := hnamed.known
  hosts m visit hmem := by
    rcases mem_update.mp hmem with ⟨-, ⟨⟩⟩ | ⟨-, hmem⟩
    · exact ⟨.opening _ _, List.nil_subset _, hnamed.known, nofun⟩
    · have hhosts := hnamed.hosts m visit hmem
      exact hhosts.mono (List.Subset.refl _) hhosts.unseen
  apart m k hne first hfirst second hsecond := by
    rcases mem_update.mp hfirst with ⟨-, ⟨⟩⟩ | ⟨-, hfirst⟩
    · exact nofun
    · rcases mem_update.mp hsecond with ⟨-, ⟨⟩⟩ | ⟨-, hsecond⟩
      · exact fun _ _ _ => List.not_mem_nil
      · exact hnamed.apart m k hne first hfirst second hsecond

/-- What a unit creates is new to the others. -/
theorem notMem_created_after (hnamed : history.Named) (hopen : visit ∈ history.visits n)
    {request : Call} {unit : MemoryUnit} (hnew : history.NamesAnew request) {m : Nat} (hne : m ≠ n)
    {other : Visit} (hother : other ∈ history.visits m) (hversioned : name.isVersioned = true)
    (hmem : name ∈ other.created) : name ∉ (visit.after request unit).created := by
  rw [Visit.mem_created_after, not_or]
  exact ⟨hnamed.apart m n hne other hother visit hopen name hmem hversioned, fun h =>
    hnew name h hversioned ((hnamed.hosts m other hother).issued hmem)⟩

theorem answered (hnamed : history.Named) (hopen : visit ∈ history.visits n) {request : Call}
    {answer : request.Answer} {unit : MemoryUnit} (hreturns : visit.unit.stops request = false)
    (hanswer : visit.unit.answer request = (.ok answer, unit)) (hnew : history.NamesAnew request)
    (hshared : next.shared = history.shared)
    (hcreated : next.created = history.created ++ request.created?.toList)
    (hvisits : next.visits =
      Function.update history.visits n (some (visit.after request unit))) : next.Named := by
  have hmore : history.created ⊆ next.created := by
    rw [hcreated]
    exact List.subset_append_left _ _
  constructor
  case known =>
    rw [hshared]
    exact fun name hversioned hsome => hmore (hnamed.known name hversioned hsome)
  case hosts =>
    intro m other hmem
    rw [hvisits] at hmem
    rcases mem_update.mp hmem with ⟨-, ⟨⟩⟩ | ⟨-, hmem⟩
    · exact (hnamed.hosts n visit hopen).answered hnamed.known hreturns hanswer hnew hshared
        hcreated
    · have hother := hnamed.hosts m other hmem
      exact hother.mono hmore (hshared ▸ hother.unseen)
  case apart =>
    intro m k hne first hfirst second hsecond name hmem hversioned
    rw [hvisits] at hfirst hsecond
    rcases mem_update.mp hfirst with ⟨hm, ⟨⟩⟩ | ⟨hm, hfirst⟩
    · rcases mem_update.mp hsecond with ⟨hk, -⟩ | ⟨hk, hsecond⟩
      · exact absurd (hm.trans hk.symm) hne
      · exact fun hboth =>
          hnamed.notMem_created_after hopen hnew hk hsecond hversioned hboth hmem
    · rcases mem_update.mp hsecond with ⟨-, ⟨⟩⟩ | ⟨-, hsecond⟩
      · exact hnamed.notMem_created_after hopen hnew hm hfirst hversioned hmem
      · exact hnamed.apart m k hne first hfirst second hsecond name hmem hversioned

theorem published (hnamed : history.Named) (hopen : visit ∈ history.visits n)
    (hcheck : visit.unit.check history.shared = .ok ())
    (hshared : next.shared = visit.unit.publish history.shared)
    (hcreated : next.created = history.created)
    (hvisits : next.visits = Function.update history.visits n none) : next.Named where
  known name hversioned hsome := by
    rw [hcreated]
    rw [hshared] at hsome
    by_cases hhas : visit.unit.writes.Has name
    · rw [MemoryUnit.row?_publish_of_has _ hhas] at hsome
      exact (hnamed.hosts n visit hopen).known name hversioned hsome
    · rw [MemoryUnit.row?_publish_of_not_has _ hhas] at hsome
      exact hnamed.known name hversioned hsome
  hosts m other hmem := by
    rw [hvisits] at hmem
    rcases mem_update.mp hmem with ⟨-, ⟨⟩⟩ | ⟨hm, hmem⟩
    have hother := hnamed.hosts m other hmem
    refine hother.mono (hcreated ▸ List.Subset.refl _) fun name hname hversioned => ?_
    rw [hshared]
    exact (hnamed.hosts n visit hopen).row?_publish_eq_none hcheck hversioned
      (hother.unseen name hname hversioned)
      (hnamed.apart m n hm other hmem visit hopen name hname hversioned)
  apart m k hne first hfirst second hsecond := by
    rw [hvisits] at hfirst hsecond
    rcases mem_update.mp hfirst with ⟨-, ⟨⟩⟩ | ⟨-, hfirst⟩
    rcases mem_update.mp hsecond with ⟨-, ⟨⟩⟩ | ⟨-, hsecond⟩
    exact hnamed.apart m k hne first hfirst second hsecond

theorem step (hnamed : history.Named) {step : Step} (htakes : history.Takes step) :
    (history.step step).Named := by
  have hproceeds := history.proceeds step
  generalize history.step step = next at hproceeds ⊢
  cases hproceeds with
  | idle => exact hnamed
  | joins user => exact hnamed.keeps (fun name => by cases name <;> rfl) rfl fun _ _ hmem => hmem
  | begins n => exact hnamed.begins n
  | answered hopen hreturns hanswer =>
    refine hnamed.answered hopen hreturns hanswer (htakes _ hopen ?_) rfl rfl rfl
    simp only [Memory.backend, hanswer]
    rfl
  | published hopen hcheck hstore => exact hnamed.published hopen hcheck hstore rfl rfl
  | closed n hstore => exact hnamed.closed hstore rfl rfl

end Named

theorem Anew.named (hanew : history.Anew) : history.Named := by
  induction hanew with
  | start users supply => exact .start users supply
  | step step _ htakes ih => exact ih.step htakes

/-! ## What a history does to a row -/

/-- The row is there later too, and what its version has grown by is how often it has been written
since. -/
def Continues (history next : History) (name : RowName) (before : name.Row) : Prop :=
  ∃ after writes, next.shared.row? name = some after ∧
    next.writes name = history.writes name + writes ∧ name.Succession writes before after

variable {before : name.Row}

/-- Nobody has written the row. -/
theorem Continues.still (hbefore : history.shared.row? name = some before)
    (hrow : next.shared.row? name = history.shared.row? name)
    (hwrites : next.writes name = history.writes name) : history.Continues next name before :=
  ⟨before, 0, hrow.trans hbefore, hwrites, .refl before⟩

namespace Named

theorem notMem_created (hnamed : history.Named) (hopen : visit ∈ history.visits n)
    (hversioned : name.isVersioned = true) (hbefore : history.shared.row? name = some before) :
    name ∉ visit.created := by
  intro hmem
  rw [(hnamed.hosts n visit hopen).unseen name hmem hversioned] at hbefore
  cases hbefore

theorem continues_step (hnamed : history.Named) (step : Step)
    (hversioned : name.isVersioned = true) (hbefore : history.shared.row? name = some before) :
    history.Continues (history.step step) name before := by
  have hproceeds := history.proceeds step
  generalize history.step step = next at hproceeds ⊢
  cases hproceeds with
  | idle | begins n | answered hopen hreturns hanswer => exact .still hbefore rfl rfl
  | joins user =>
    refine .still hbefore (by cases name <;> rfl) ?_
    simp [writes, Happening.written]
  | @published n visit world hopen hcheck hstore =>
    have hcounted := (hnamed.hosts n visit hopen).counted
    have hcreated := hnamed.notMem_created hopen hversioned hbefore
    obtain ⟨after, hrow, hsuccession⟩ := hcounted.publish hcheck hversioned hbefore hcreated
    refine ⟨after, visit.updated.count name, ?_, ?_, hsuccession⟩
    · rw [shared, hstore, hrow]
    · rw [← hcounted.count_written hversioned hcreated]
      simp [writes, Happening.written]
  | closed n hstore => exact .still hbefore (by rw [shared, hstore]) rfl

theorem continues_run (hnamed : history.Named) {steps : List Step}
    (htakes : history.TakesAll steps) (hversioned : name.isVersioned = true)
    (hbefore : history.shared.row? name = some before) :
    history.Continues (history.run steps) name before := by
  induction steps generalizing history before with
  | nil => exact .still hbefore rfl rfl
  | cons step rest ih =>
    obtain ⟨middle, writes, hmiddle, hwrites, hfirst⟩ :=
      hnamed.continues_step step hversioned hbefore
    obtain ⟨after, more, hafter, hmore, hlast⟩ := ih (hnamed.step htakes.1) htakes.2 hmiddle
    exact ⟨after, writes + more, hafter, by rw [run, List.foldl_cons, ← run, hmore, hwrites,
      Nat.add_assoc], hfirst.trans hlast⟩

end Named

theorem shared_step_commits (hopen : visit ∈ history.visits n) :
    (history.step (.commits n)).shared =
      (Memory.backend.commit visit.unit history.world).2.store := by
  have hstep : history.step (.commits n) = history.commits n visit := by
    rw [step, show history.visits n = some visit from hopen]
    rfl
  rw [hstep, commits]
  split <;> simp_all [shared]

/-- What the versions of a balance or debtor that is stored tell from now on. -/
structure Versions (history : History) (name : RowName) (before : name.Row) : Prop where
  /-- In every later state. -/
  later : ∀ steps, history.TakesAll steps → ∃ after writes,
    (history.run steps).shared.row? name = some after ∧
      (history.run steps).writes name = history.writes name + writes ∧
        name.Follows writes before after
  /-- When a unit that has written the row commits. -/
  committed : ∀ n, ∀ visit ∈ history.visits n,
    (Memory.backend.commit visit.unit history.world).1 = .ok () → visit.unit.writes.Has name →
      0 < visit.updated.count name ∧ ∃ after,
        (history.step (.commits n)).shared.row? name = some after ∧
          name.Follows (visit.updated.count name) before after

/-- Whatever is asked of a store in which no balance or debtor takes the name of another, their
versions count how often they have been written. -/
theorem Anew.versions (hanew : history.Anew) (hversioned : name.isVersioned = true)
    (hbefore : history.shared.row? name = some before) : history.Versions name before where
  later steps htakes := by
    obtain ⟨after, writes, hafter, hwrites, hsuccession⟩ :=
      hanew.named.continues_run htakes hversioned hbefore
    exact ⟨after, writes, hafter, hwrites, hsuccession.follows⟩
  committed n visit hopen hcommit hhas := by
    have hcounted := (hanew.named.hosts n visit hopen).counted
    have hcreated := hanew.named.notMem_created hopen hversioned hbefore
    obtain ⟨after, hafter, hsuccession⟩ := hcounted.publish (Memory.commit_eq_ok_iff.mp hcommit)
      hversioned hbefore hcreated
    refine ⟨hcounted.count_pos hhas hversioned hcreated, after, ?_, hsuccession.follows⟩
    rw [shared_step_commits hopen, Memory.store_of_committed hcommit]
    exact hafter

/-! ## Runs -/

def purse : Balance := .zero purseId ⟨⟨⟨1⟩⟩, ⟨⟨2⟩⟩⟩ ⟨"USD"⟩ (.ofNanos 0)

/-- A balance is opened by a user who has just come. -/
def opening (balance : Balance) : List Step :=
  [.joins ⟨balance.userId, balance.companyId⟩, .begins 0, .asks 0 (.createBalance balance),
    .commits 0]

def nothing : History := { world := { store := { users := .empty }, supply := .standard 0 } }

/-- Two units have made different rows of the purse, both with its next version, and one has gone on
from there. -/
def contested : History :=
  nothing.run (opening purse ++
    [.begins 1, .begins 2, .asks 1 (.updateBalance { purse with funds := 5 }),
      .asks 2 (.updateBalance { purse with funds := 7 }),
      .asks 1 (.updateBalance { purse with funds := 6, version := 1 })])

/-- Both commit, the second in vain, and another unit goes on. -/
def settlement : List Step :=
  [.commits 1, .commits 2, .begins 3,
    .asks 3 (.updateBalance { purse with funds := 8, version := 2 }), .commits 3]

theorem versions_contested :
    contested.Versions (.balance purseId) purse ∧
      ∃ after : Balance,
        (contested.run settlement).shared.row? (.balance purseId) = some after ∧
          purse.version < after.version ∧ after.version = 3 := by
  have hanew : contested.Anew := (Anew.start .empty (.standard 0)).run (by decide +kernel)
  have hbefore : contested.shared.row? (.balance purseId) = some purse := by decide +kernel
  have hversions := hanew.versions rfl hbefore
  obtain ⟨after, writes, hafter, hwrites, hfollows⟩ :=
    hversions.later settlement (by decide +kernel)
  have hfirst : contested.writes (.balance purseId) = 1 := by decide +kernel
  have hlast : (contested.run settlement).writes (.balance purseId) = 4 := by decide +kernel
  obtain rfl : writes = 3 := by omega
  exact ⟨hversions, after, hafter, hfollows.raised (by decide), Int64.toInt_inj.mp hfollows.counts⟩

/-- An update of a balance that was opened with the last of all versions does not come back, and
what is committed then has nothing of it. -/
example :
    let worn : Balance := { purse with version := Int64.maxValue }
    let history := nothing.run (opening worn ++
      [.begins 1, .asks 1 (.updateBalance { worn with funds := 5 }), .commits 1])
    history.shared.row? (.balance purseId) = some worn := by
  decide +kernel

end History

end CashLedger
