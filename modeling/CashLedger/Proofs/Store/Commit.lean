import CashLedger.Proofs.Store.Visit

/-!
# Exact commits

A unit commits exactly if nobody else has committed a row that it updated or a
balance that stands in the way of one it created.  Then the store takes over the
rows that it wrote and no others; otherwise it stays as it is.
-/

namespace CashLedger

namespace History

/-- What holds of the store and of each open unit. -/
structure Sound (history : History) : Prop where
  known : ∀ name, name.isVersioned = true → (history.shared.row? name).isSome = true →
    name ∈ history.created
  recorded : ∀ n, ∀ visit ∈ history.visits n, visit.Recorded
  placed : ∀ n, ∀ visit ∈ history.visits n, visit.Placed history
  apart : ∀ m n, m ≠ n → ∀ first ∈ history.visits m, ∀ second ∈ history.visits n,
    first.created.Disjoint second.created

variable {history next : History} {visit : Visit} {n : Nat}

theorem mem_update {visits : Nat → Option Visit} {entry : Option Visit} {m : Nat} :
    visit ∈ Function.update visits n entry m ↔
      m = n ∧ visit ∈ entry ∨ m ≠ n ∧ visit ∈ visits m := by
  by_cases h : m = n
  · simp [h]
  · simp [h]

theorem Sound.start (users : Table User) (supply : Supply) :
    Sound { world := ⟨{ users }, supply, []⟩ } where
  known name _ hsome := by cases name <;> cases hsome
  recorded := nofun
  placed := nofun
  apart := nofun

/-- As long as nothing happens to the store, units can be closed. -/
theorem Sound.closed (hsound : history.Sound) (hshared : next.shared = history.shared)
    (hhappened : next.happened = history.happened) (hcreated : next.created = history.created)
    (hvisits : next.visits = Function.update history.visits n none) : next.Sound := by
  have hopen : ∀ {m visit}, visit ∈ next.visits m → visit ∈ history.visits m := by
    intro m visit hmem
    rw [hvisits, mem_update] at hmem
    exact hmem.elim (fun h => nomatch h.2) And.right
  exact
    { known := by
        rw [hshared, hcreated]
        exact hsound.known
      recorded := fun m visit hmem => hsound.recorded m visit (hopen hmem)
      placed := fun m visit hmem =>
        (hsound.placed m visit (hopen hmem)).congr hshared hhappened (hcreated ▸ List.Subset.refl _)
      apart := fun m k hne first hfirst second hsecond =>
        hsound.apart m k hne first (hopen hfirst) second (hopen hsecond) }

theorem Sound.joins (hsound : history.Sound) (user : User) :
    (history.step (.joins user)).Sound where
  known name hversioned hsome := by
    apply hsound.known name hversioned
    cases name <;> exact hsome
  recorded := hsound.recorded
  placed m visit hmem := (hsound.placed m visit hmem).joins rfl rfl rfl
  apart := hsound.apart

theorem Sound.begins (hsound : history.Sound) (n : Nat) : (history.begins n).Sound where
  known := hsound.known
  recorded m visit hmem := by
    rcases mem_update.mp hmem with ⟨-, ⟨⟩⟩ | ⟨-, hmem⟩
    · exact .opening _ _
    · exact hsound.recorded m visit hmem
  placed m visit hmem := by
    rcases mem_update.mp hmem with ⟨-, ⟨⟩⟩ | ⟨-, hmem⟩
    · exact (Visit.Placed.opening history _ hsound.known).congr rfl rfl (List.Subset.refl _)
    · exact (hsound.placed m visit hmem).congr rfl rfl (List.Subset.refl _)
  apart m k hne first hfirst second hsecond := by
    rcases mem_update.mp hfirst with ⟨-, ⟨⟩⟩ | ⟨-, hfirst⟩
    · exact List.disjoint_nil_left _
    · rcases mem_update.mp hsecond with ⟨-, ⟨⟩⟩ | ⟨-, hsecond⟩
      · exact List.disjoint_nil_right _
      · exact hsound.apart m k hne first hfirst second hsecond

/-- What a unit creates is new to all. -/
theorem Sound.answered (hsound : history.Sound) (hopen : visit ∈ history.visits n)
    {request : Call} {answer : request.Answer} {unit : MemoryUnit}
    (hanswer : visit.unit.answer request = (.ok answer, unit))
    (hpermits : history.Permits request) (hshared : next.shared = history.shared)
    (hhappened : next.happened = history.happened)
    (hcreated : next.created = history.created ++ request.created?.toList)
    (hvisits : next.visits =
      Function.update history.visits n (some (visit.after request unit))) : next.Sound := by
  obtain ⟨hnew, hroom⟩ := hpermits
  have hmore : history.created ⊆ next.created := by
    rw [hcreated]
    exact List.subset_append_left _ _
  have hplaced := hsound.placed n visit hopen
  have hfresh : ∀ name, request.created? = some name → name.isVersioned = true →
      name ∉ visit.created ∧ visit.snapshot.row? name = none := by
    intro name hname hversioned
    have hunused := hnew name hname
    refine ⟨fun hmem => hunused (hplaced.issued hmem), ?_⟩
    by_contra hsome
    exact hunused (hplaced.known name hversioned (Option.isSome_iff_ne_none.mpr hsome))
  have hunseen : ∀ name, request.created? = some name → name.isVersioned = true →
      history.shared.row? name = none := by
    intro name hname hversioned
    by_contra hsome
    exact hnew name hname
      (hsound.known name hversioned (Option.isSome_iff_ne_none.mpr hsome))
  have hdisjoint : ∀ m, m ≠ n → ∀ other ∈ history.visits m,
      other.created.Disjoint (visit.after request unit).created := by
    intro m hne other hother name hmem hafter
    rcases Visit.mem_created_after.mp hafter with h | h
    · exact hsound.apart m n hne other hother visit hopen hmem h
    · exact hnew name h ((hsound.placed m other hother).issued hmem)
  constructor
  case known =>
    rw [hshared]
    exact fun name hversioned hsome => hmore (hsound.known name hversioned hsome)
  case recorded =>
    intro m other hmem
    rw [hvisits] at hmem
    rcases mem_update.mp hmem with ⟨-, ⟨⟩⟩ | ⟨-, hmem⟩
    · exact (hsound.recorded n visit hopen).after hanswer hfresh hroom
    · exact hsound.recorded m other hmem
  case placed =>
    intro m other hmem
    rw [hvisits] at hmem
    rcases mem_update.mp hmem with ⟨-, ⟨⟩⟩ | ⟨-, hmem⟩
    · exact hplaced.after hshared hhappened hcreated hunseen
    · exact (hsound.placed m other hmem).congr hshared hhappened hmore
  case apart =>
    intro m k hne first hfirst second hsecond
    rw [hvisits] at hfirst hsecond
    rcases mem_update.mp hfirst with ⟨hm, ⟨⟩⟩ | ⟨hm, hfirst⟩
    · rcases mem_update.mp hsecond with ⟨hk, -⟩ | ⟨hk, hsecond⟩
      · exact absurd (hm.trans hk.symm) hne
      · exact (hdisjoint k hk second hsecond).symm
    · rcases mem_update.mp hsecond with ⟨hk, ⟨⟩⟩ | ⟨hk, hsecond⟩
      · exact hdisjoint m hm first hfirst
      · exact hsound.apart m k hne first hfirst second hsecond

theorem Sound.published (hsound : history.Sound) (hopen : visit ∈ history.visits n)
    (hcheck : visit.unit.check history.shared = .ok ())
    (hshared : next.shared = visit.unit.publish history.shared)
    (hhappened : next.happened = history.happened ++ [.committed visit.written])
    (hcreated : next.created = history.created)
    (hvisits : next.visits = Function.update history.visits n none) : next.Sound := by
  have hrecorded := hsound.recorded n visit hopen
  have hother : ∀ {m other}, other ∈ next.visits m → m ≠ n ∧ other ∈ history.visits m := by
    intro m other hmem
    rw [hvisits, mem_update] at hmem
    exact hmem.elim (fun h => nomatch h.2) id
  constructor
  case known =>
    intro name hversioned hsome
    rw [hcreated]
    rw [hshared] at hsome
    by_cases hmem : name ∈ visit.written
    · rcases hrecorded.created_or_raised hcheck hversioned hmem with h | ⟨before, -, hbefore, -⟩
      · exact (hsound.placed n visit hopen).issued h
      · exact hsound.known name hversioned (Option.isSome_iff_exists.mpr ⟨before, hbefore⟩)
    · rw [visit.unit.row?_publish_of_not_has _ (mt (hrecorded.has name).mp hmem)] at hsome
      exact hsound.known name hversioned hsome
  case recorded => exact fun m other hmem => hsound.recorded m other (hother hmem).2
  case placed =>
    intro m other hmem
    obtain ⟨hm, hopen'⟩ := hother hmem
    exact (hsound.placed m other hopen').commits hrecorded (hsound.placed n visit hopen)
      (hsound.apart n m hm.symm visit hopen other hopen') hcheck hshared hhappened hcreated
  case apart =>
    exact fun m k hne first hfirst second hsecond =>
      hsound.apart m k hne first (hother hfirst).2 second (hother hsecond).2

theorem Sound.step (hsound : history.Sound) {step : Step} (hallows : history.Allows step) :
    (history.step step).Sound := by
  have hproceeds := history.proceeds step
  generalize history.step step = next at hproceeds ⊢
  cases hproceeds with
  | idle => exact hsound
  | joins user => exact hsound.joins user
  | begins n => exact hsound.begins n
  | answered hopen hreturns hanswer =>
    refine hsound.answered hopen hanswer (hallows _ hopen ?_) rfl rfl rfl rfl
    simp only [Memory.backend, hanswer]
    rfl
  | published hopen hcheck hstore => exact hsound.published hopen hcheck hstore rfl rfl rfl
  | closed n hstore => exact hsound.closed hstore rfl rfl rfl

theorem Reachable.sound (hreachable : history.Reachable) : history.Sound := by
  induction hreachable with
  | start users supply => exact .start users supply
  | step step _ hallows ih => exact ih.step hallows

end History

/-! ## What a commit does -/

namespace Memory

variable {unit : MemoryUnit} {world : World Tables}

theorem commit_eq_ok_iff :
    (backend.commit unit world).1 = .ok () ↔ unit.check world.store = .ok () := by
  simp only [backend, MemoryUnit.commit]
  cases unit.check world.store <;> simp [bind, Except.bind, pure, Except.pure]

theorem store_of_committed (hcommit : (backend.commit unit world).1 = .ok ()) :
    (backend.commit unit world).2.store = unit.publish world.store := by
  have hpublished :=
    MemoryUnit.commit_eq_ok_iff.mpr ⟨commit_eq_ok_iff.mp hcommit, Eq.refl (unit.publish _)⟩
  simp only [backend, hpublished]
  rfl

theorem store_of_refused (hcommit : (backend.commit unit world).1 ≠ .ok ()) :
    (backend.commit unit world).2.store = world.store := by
  cases hresult : unit.commit world.store with
  | error cause => simp only [backend, hresult]
  | ok published => simp [backend, hresult] at hcommit

theorem users_commit : (backend.commit unit world).2.store.users = world.store.users := by
  by_cases hcommit : (backend.commit unit world).1 = .ok ()
  · rw [store_of_committed hcommit, MemoryUnit.publish_users]
  · rw [store_of_refused hcommit]

end Memory

namespace History

variable {history : History} {visit : Visit} {n : Nat}

/-- Nobody has committed a balance or debtor that the unit updated and did not create. -/
def Untouched (history : History) (visit : Visit) : Prop :=
  ∀ name ∈ visit.updated, name.isVersioned = true → name ∉ visit.created →
    ¬history.WrittenSince visit name

/-- No committed balance has the owner and currency of one that the unit created. -/
def Unrivalled (history : History) (visit : Visit) : Prop :=
  ∀ id, .balance id ∈ visit.created → visit.unit.Unrivalled history.shared id

theorem Sound.check_eq_ok_iff (hsound : history.Sound) (hopen : visit ∈ history.visits n) :
    visit.unit.check history.shared = .ok () ↔
      history.Untouched visit ∧ history.Unrivalled visit := by
  have hrecorded := hsound.recorded n visit hopen
  have hplaced := hsound.placed n visit hopen
  rw [hrecorded.check_eq_ok_iff]
  apply and_congr_left'
  refine forall_congr' fun name => forall_congr' fun hupdated => forall_congr' fun hversioned =>
    forall_congr' fun hcreated => ?_
  obtain ⟨row, hrow, -⟩ := (hrecorded.created_or_stored hversioned
    (Visit.mem_written.mpr (.inr (.inl hupdated)))).resolve_left hcreated
  have hsnapshot : (visit.snapshot.row? name).map name.version = some (name.version row) := by
    rw [hrow, Option.map_some]
  rw [← hplaced.version_eq_iff hversioned hsnapshot]
  constructor
  · rintro ⟨version, hfound, hshared⟩
    rw [hshared, ← hfound, hsnapshot]
  · exact fun hshared => ⟨_, hsnapshot, hshared⟩

/-- What a unit can do to the store. -/
structure CommitsExactly (history : History) (visit : Visit) : Prop where
  asks_alone : ∀ request,
    (Memory.backend.answer request visit.unit history.world).2.2.store = history.shared
  rollback_alone :
    (Memory.backend.rollback visit.unit history.world).2.store = history.shared
  commits_iff : (Memory.backend.commit visit.unit history.world).1 = .ok () ↔
    history.Untouched visit ∧ history.Unrivalled visit
  refused : (Memory.backend.commit visit.unit history.world).1 ≠ .ok () →
    (Memory.backend.commit visit.unit history.world).2.store = history.shared
  users : (Memory.backend.commit visit.unit history.world).2.store.users =
    history.shared.users
  published : (Memory.backend.commit visit.unit history.world).1 = .ok () → ∀ name,
    (Memory.backend.commit visit.unit history.world).2.store.row? name =
      if name ∈ visit.written then visit.unit.working.row? name
      else history.shared.row? name
  undisturbed : (Memory.backend.commit visit.unit history.world).1 = .ok () →
    history.since visit = [] →
    (Memory.backend.commit visit.unit history.world).2.store.Same visit.unit.working

/-- Whatever the units of a store do, each commits exactly what it wrote, and only where
nobody has come before it. -/
theorem Reachable.commitsExactly (hreachable : history.Reachable)
    (hopen : visit ∈ history.visits n) : history.CommitsExactly visit where
  asks_alone _ := rfl
  rollback_alone := rfl
  commits_iff := Memory.commit_eq_ok_iff.trans (hreachable.sound.check_eq_ok_iff hopen)
  refused := Memory.store_of_refused
  users := Memory.users_commit
  published hcommit name := by
    have hhas := (hreachable.sound.recorded n visit hopen).has name
    rw [Memory.store_of_committed hcommit]
    split
    · next hmem => exact MemoryUnit.row?_publish_of_has _ (hhas.mpr hmem)
    · next hmem => exact MemoryUnit.row?_publish_of_not_has _ (mt hhas.mp hmem)
  undisturbed hcommit hsince := by
    have hstill : history.world.store = visit.snapshot :=
      (hreachable.sound.placed n visit hopen).still hsince
    rw [Memory.store_of_committed hcommit, hstill]
    exact (hreachable.sound.recorded n visit hopen).tracks.publish_same

/-! ## A run -/

def purseId : BalanceId := ⟨⟨3⟩⟩

/-- A balance is opened; then two units update it at once and one of them commits, while a
third opens another one. -/
def rivalSteps : List Step :=
  let clerk : User := ⟨⟨⟨1⟩⟩, ⟨⟨2⟩⟩⟩
  let purse : Balance := .zero purseId clerk ⟨"USD"⟩ (.ofNanos 0)
  [.joins clerk, .begins 0, .asks 0 (.createBalance purse), .commits 0, .begins 1, .begins 2,
    .begins 3, .asks 1 (.updateBalance { purse with funds := 5 }),
    .asks 2 (.updateBalance { purse with funds := 7 }),
    .asks 3 (.createBalance (.zero ⟨⟨4⟩⟩ clerk ⟨"EUR"⟩ (.ofNanos 0))), .commits 1]

def rivals : History :=
  run { world := { store := { users := .empty }, supply := .standard 0 } } rivalSteps

theorem rivals_reachable : rivals.Reachable :=
  (Reachable.start .empty (.standard 0)).run (by decide +kernel)

/-- The second update comes too late, and the other balance is opened. -/
theorem commitsExactly_rivals :
    (∃ visit, rivals.visits 2 = some visit ∧
      (Memory.backend.commit visit.unit rivals.world).1 = .error (.conflict .balance purseId) ∧
      rivals.CommitsExactly visit) ∧
    ∃ visit, rivals.visits 3 = some visit ∧
      (Memory.backend.commit visit.unit rivals.world).1 = .ok () ∧
      rivals.CommitsExactly visit := by
  have hlate : (rivals.visits 2).map
      (fun visit => (Memory.backend.commit visit.unit rivals.world).1) =
        some (.error (.conflict .balance purseId)) := by
    decide +kernel
  have hapart : (rivals.visits 3).map
      (fun visit => (Memory.backend.commit visit.unit rivals.world).1) = some (.ok ()) := by
    decide +kernel
  obtain ⟨late, hopen, hrefused⟩ := Option.map_eq_some_iff.mp hlate
  obtain ⟨apart, hother, hdone⟩ := Option.map_eq_some_iff.mp hapart
  exact ⟨⟨late, hopen, hrefused, rivals_reachable.commitsExactly hopen⟩,
    apart, hother, hdone, rivals_reachable.commitsExactly hother⟩

end History

end CashLedger
