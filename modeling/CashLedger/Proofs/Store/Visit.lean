import CashLedger.Proofs.Store.History

/-!
# Units among others

What an open unit did can be read off its tables and its write set.  What the others
did meanwhile shows in the versions of the rows it found: as long as nobody
commits a row its version stands, and every commit of it raises the version.
-/

namespace CashLedger

/-! ## What a unit did -/

/-- A unit's tables and write set say what its calls wrote. -/
structure Visit.Recorded (visit : Visit) : Prop where
  tracks : MemoryUnit.Tracks visit.snapshot visit.unit
  has : ∀ name, visit.unit.writes.Has name ↔ name ∈ visit.written
  undeleted : ∀ name ∈ visit.deleted, name.isVersioned = false
  noted : ∀ name, name.isVersioned = true →
    (visit.unit.writes.Notes .created name ↔ name ∈ visit.created)
  stands : ∀ name, name.isVersioned = true →
    ((visit.unit.working.row? name).isSome = true ↔
      (visit.snapshot.row? name).isSome = true ∨ name ∈ visit.created)

namespace Visit

variable {visit : Visit} {name : RowName}

theorem mem_written :
    name ∈ visit.written ↔
      name ∈ visit.created ∨ name ∈ visit.updated ∨ name ∈ visit.deleted := by
  rw [written, List.mem_append, List.mem_append, or_assoc]

theorem mem_written_after {request : Call} {unit : MemoryUnit} :
    name ∈ (visit.after request unit).written ↔
      name ∈ visit.written ∨ request.Writes visit.unit.working name := by
  simp only [mem_written, after, List.mem_append, Option.mem_toList, Call.Writes]
  tauto

theorem mem_created_after {request : Call} {unit : MemoryUnit} :
    name ∈ (visit.after request unit).created ↔
      name ∈ visit.created ∨ request.created? = some name := by
  simp [after]

namespace Recorded

theorem opening (snapshot : Tables) (began : Nat) :
    Recorded ⟨snapshot, ⟨snapshot, {}⟩, began, [], [], []⟩ where
  tracks := .refl snapshot
  has name := by cases name <;> simp [WriteSet.Has, WriteSet.balanceIds, WriteSet.debtorIds,
    mem_written]
  undeleted := nofun
  noted name _ := by cases name <;> simp [WriteSet.Notes]
  stands name _ := by simp

/-- A balance or debtor that was written is either new or was there with a version. -/
theorem created_or_stored (hrecorded : visit.Recorded) (hversioned : name.isVersioned = true)
    (hmem : name ∈ visit.written) :
    name ∈ visit.created ∨
      ∃ row, visit.snapshot.row? name = some row ∧
        visit.unit.writes.Notes (.stored (name.version row)) name := by
  obtain ⟨base, hnotes⟩ :=
    (WriteSet.has_iff_notes hversioned).mp ((hrecorded.has name).mpr hmem)
  have hbase := hrecorded.tracks.base_of_notes hnotes
  cases hrow : visit.snapshot.row? name with
  | none =>
    rw [hrow] at hbase
    subst hbase
    exact .inl ((hrecorded.noted name hversioned).mp hnotes)
  | some row =>
    rw [hrow] at hbase
    subst hbase
    exact .inr ⟨row, rfl, hnotes⟩

/-- What was found with a version was updated and not created. -/
theorem of_notes_stored (hrecorded : visit.Recorded) {version : Int64}
    (hnotes : visit.unit.writes.Notes (.stored version) name) :
    name ∈ visit.updated ∧ name ∉ visit.created ∧
      (visit.snapshot.row? name).map name.version = some version := by
  have hversioned := hnotes.isVersioned
  have hbase := hrecorded.tracks.base_of_notes hnotes
  have hcreated : name ∉ visit.created := by
    intro hmem
    have hother :=
      hrecorded.tracks.base_of_notes ((hrecorded.noted name hversioned).mpr hmem)
    rw [← hbase] at hother
    cases hother
  refine ⟨?_, hcreated, ?_⟩
  · have hwritten := (hrecorded.has name).mp
      ((WriteSet.has_iff_notes hversioned).mpr ⟨_, hnotes⟩)
    rcases mem_written.mp hwritten with h | h | h
    · exact absurd h hcreated
    · exact h
    · rw [hrecorded.undeleted name h] at hversioned
      cases hversioned
  · cases hrow : visit.snapshot.row? name with
    | none =>
      rw [hrow] at hbase
      cases hbase
    | some row =>
      rw [hrow] at hbase
      exact congrArg some (Base.stored.inj hbase).symm

/-- The check of a commit compares what the unit updated and did not create with what it
found, and looks for rivals of what it created. -/
theorem check_eq_ok_iff (hrecorded : visit.Recorded) {shared : Tables} :
    visit.unit.check shared = .ok () ↔
      (∀ name ∈ visit.updated, name.isVersioned = true → name ∉ visit.created →
        ∃ version, (visit.snapshot.row? name).map name.version = some version ∧
          (shared.row? name).map name.version = some version) ∧
      ∀ id, .balance id ∈ visit.created → visit.unit.Unrivalled shared id := by
  have hthere : ∀ id, visit.unit.writes.Notes .created (.balance id) →
      ∃ own, visit.unit.working.balances.find? id = some own := by
    intro id hnotes
    apply Option.isSome_iff_exists.mp
    exact (hrecorded.stands (.balance id) rfl).mpr
      (.inr ((hrecorded.noted (.balance id) rfl).mp hnotes))
  rw [MemoryUnit.check_eq_ok_iff_notes hthere]
  apply and_congr
  · constructor
    · intro hstored name hupdated hversioned hcreated
      rcases hrecorded.created_or_stored hversioned (mem_written.mpr (.inr (.inl hupdated))) with
        h | ⟨row, hrow, hnotes⟩
      · exact absurd h hcreated
      · exact ⟨name.version row, by rw [hrow]; rfl, hstored name _ hnotes⟩
    · intro hkept name version hnotes
      obtain ⟨hupdated, hcreated, hfound⟩ := hrecorded.of_notes_stored hnotes
      obtain ⟨_, hsnapshot, hshared⟩ := hkept name hupdated hnotes.isVersioned hcreated
      rw [hfound] at hsnapshot
      exact hshared.trans hsnapshot.symm
  · exact forall_congr' fun id => imp_congr_left (hrecorded.noted (.balance id) rfl)

/-- What has been written but not created has a higher version now. -/
theorem created_or_raised (hrecorded : visit.Recorded) {shared : Tables}
    (hcheck : visit.unit.check shared = .ok ()) (hversioned : name.isVersioned = true)
    (hmem : name ∈ visit.written) :
    name ∈ visit.created ∨
      ∃ before now, shared.row? name = some before ∧
        visit.unit.working.row? name = some now ∧ name.version before < name.version now := by
  by_cases hcreated : name ∈ visit.created
  · exact .inl hcreated
  · obtain ⟨row, hrow, hnotes⟩ :=
      (hrecorded.created_or_stored hversioned hmem).resolve_left hcreated
    obtain ⟨now, hnow, hlt⟩ := hrecorded.tracks.lt_of_notes hnotes
    obtain ⟨version, hsnapshot, hshared⟩ := (hrecorded.check_eq_ok_iff.mp hcheck).1 name
      (hrecorded.of_notes_stored hnotes).1 hversioned hcreated
    rw [hrow, Option.map_some, Option.some.injEq] at hsnapshot
    obtain ⟨before, hbefore, heq⟩ := Option.map_eq_some_iff.mp hshared
    refine .inr ⟨before, now, hbefore, hnow, ?_⟩
    rw [heq, ← hsnapshot]
    exact hlt

theorem after (hrecorded : visit.Recorded) {request : Call} {answer : request.Answer}
    {unit : MemoryUnit} (hanswer : visit.unit.answer request = (.ok answer, unit))
    (hfresh : ∀ name, request.created? = some name → name.isVersioned = true →
      name ∉ visit.created ∧ visit.snapshot.row? name = none)
    (hroom : request.HasRoom) : (visit.after request unit).Recorded where
  tracks := by
    apply hrecorded.tracks.answer hanswer _ hroom
    cases request with
    | createBalance balance => exact (hfresh (.balance balance.id) rfl rfl).2
    | createDebtor debtor => exact (hfresh (.debtor debtor.id) rfl rfl).2
    | _ => trivial
  has name := by
    rw [mem_written_after, ← hrecorded.has]
    exact MemoryUnit.has_answer hanswer
  undeleted name hname := by
    rcases List.mem_append.mp hname with h | h
    · exact hrecorded.undeleted name h
    · exact Call.isVersioned_of_deleted h
  noted name hversioned := by
    rw [mem_created_after, ← hrecorded.noted name hversioned]
    apply MemoryUnit.notes_created_answer hversioned hanswer
    intro hnew hhas
    obtain ⟨hcreated, hrow⟩ := hfresh name hnew hversioned
    rcases hrecorded.created_or_stored hversioned ((hrecorded.has name).mp hhas) with
      h | ⟨row, hfound, -⟩
    · exact hcreated h
    · rw [hrow] at hfound
      cases hfound
  stands name hversioned := by
    rw [mem_created_after]
    apply (MemoryUnit.isSome_row?_answer hversioned hanswer).trans
    rw [hrecorded.stands name hversioned, or_assoc]
    rfl

end Recorded

end Visit

/-! ## What others did -/

/-- How an open unit stands to the store. -/
structure Visit.Placed (history : History) (visit : Visit) : Prop where
  began : visit.began ≤ history.happened.length
  issued : visit.created ⊆ history.created
  known : ∀ name, name.isVersioned = true → (visit.snapshot.row? name).isSome = true →
    name ∈ history.created
  unseen : ∀ name, name.isVersioned = true → name ∈ visit.created →
    history.shared.row? name = none
  /-- A row has a higher version since exactly if somebody wrote it. -/
  passed : ∀ name row, name.isVersioned = true → visit.snapshot.row? name = some row →
    ∃ now, history.shared.row? name = some now ∧
      if history.WrittenSince visit name then name.version row < name.version now
      else now = row
  still : history.since visit = [] → history.shared = visit.snapshot

namespace Visit

variable {history next : History} {visit other : Visit} {name : RowName}

namespace Placed

/-- As long as nothing happens to the store, more names can be in use. -/
theorem congr (hplaced : visit.Placed history) (hshared : next.shared = history.shared)
    (hhappened : next.happened = history.happened) (hcreated : history.created ⊆ next.created) :
    visit.Placed next where
  began := hhappened ▸ hplaced.began
  issued := List.Subset.trans hplaced.issued hcreated
  known name hversioned hsome := hcreated (hplaced.known name hversioned hsome)
  unseen name hversioned hmem := hshared ▸ hplaced.unseen name hversioned hmem
  passed := by
    simp only [History.WrittenSince, History.since, hshared, hhappened]
    exact hplaced.passed
  still := by
    simp only [History.since, hshared, hhappened]
    exact hplaced.still

/-- The version says whether somebody has committed the row. -/
theorem version_eq_iff (hplaced : visit.Placed history) (hversioned : name.isVersioned = true)
    {version : Int64}
    (hsnapshot : (visit.snapshot.row? name).map name.version = some version) :
    (history.shared.row? name).map name.version = some version ↔
      ¬history.WrittenSince visit name := by
  obtain ⟨row, hrow, rfl⟩ := Option.map_eq_some_iff.mp hsnapshot
  obtain ⟨now, hnow, hpassed⟩ := hplaced.passed name row hversioned hrow
  rw [hnow, Option.map_some, Option.some.injEq]
  constructor
  · intro heq hwritten
    rw [if_pos hwritten, heq] at hpassed
    exact Int64.lt_irrefl hpassed
  · intro hwritten
    rw [if_neg hwritten] at hpassed
    rw [hpassed]

theorem opening (history : History) (unit : MemoryUnit)
    (hknown : ∀ name, name.isVersioned = true → (history.shared.row? name).isSome = true →
      name ∈ history.created) :
    Placed history ⟨history.shared, unit, history.happened.length, [], [], []⟩ where
  began := le_rfl
  issued := List.nil_subset _
  known := hknown
  unseen := nofun
  passed name row _ hrow := by
    refine ⟨row, hrow, ?_⟩
    rw [if_neg]
    rintro ⟨happening, hmem, -⟩
    simp [History.since] at hmem
  still _ := rfl

/-- What the unit has created is in use now, and nobody else has it. -/
theorem after (hplaced : visit.Placed history) {request : Call} {unit : MemoryUnit}
    (hshared : next.shared = history.shared) (hhappened : next.happened = history.happened)
    (hcreated : next.created = history.created ++ request.created?.toList)
    (hunseen : ∀ name, request.created? = some name → name.isVersioned = true →
      history.shared.row? name = none) :
    (visit.after request unit).Placed next := by
  have hmore : history.created ⊆ next.created := by
    rw [hcreated]
    exact List.subset_append_left _ _
  have hlater := hplaced.congr hshared hhappened hmore
  exact
    { hlater with
      issued := by
        intro name hmem
        rw [hcreated, List.mem_append, Option.mem_toList]
        exact (mem_created_after.mp hmem).imp_left fun h => hplaced.issued h
      unseen := by
        intro name hversioned hmem
        rcases mem_created_after.mp hmem with h | h
        · exact hlater.unseen name hversioned h
        · rw [hshared]
          exact hunseen name h hversioned }

theorem joins (hplaced : visit.Placed history) {user : User}
    (hshared : next.shared = history.shared.insertUser user)
    (hhappened : next.happened = history.happened ++ [.joined user])
    (hcreated : next.created = history.created) : visit.Placed next := by
  have hrow : ∀ name, next.shared.row? name = history.shared.row? name := by
    intro name
    rw [hshared]
    cases name <;> rfl
  have hsince : next.since visit = history.since visit ++ [.joined user] := by
    rw [History.since, hhappened, List.drop_append_of_le_length hplaced.began]
    rfl
  have hwritten : ∀ name, next.WrittenSince visit name ↔ history.WrittenSince visit name := by
    simp [History.WrittenSince, hsince, Happening.written]
  exact
    { began := by
        rw [hhappened, List.length_append]
        exact Nat.le_add_right_of_le hplaced.began
      issued := hcreated ▸ hplaced.issued
      known := hcreated ▸ hplaced.known
      unseen := fun name hversioned hmem =>
        (hrow name).trans (hplaced.unseen name hversioned hmem)
      passed := by
        simp only [hrow, hwritten]
        exact hplaced.passed
      still := by simp [hsince] }

/-- A commit of another unit raises the version of each row that it writes. -/
theorem commits (hplaced : visit.Placed history) (hother : other.Recorded)
    (hunseen : other.Placed history) (happart : other.created.Disjoint visit.created)
    (hcheck : other.unit.check history.shared = .ok ())
    (hshared : next.shared = other.unit.publish history.shared)
    (hhappened : next.happened = history.happened ++ [.committed other.written])
    (hcreated : next.created = history.created) : visit.Placed next where
  began := by
    rw [hhappened, List.length_append]
    exact Nat.le_add_right_of_le hplaced.began
  issued := hcreated ▸ hplaced.issued
  known := hcreated ▸ hplaced.known
  unseen name hversioned hmem := by
    have hnone := hplaced.unseen name hversioned hmem
    rw [hshared, MemoryUnit.row?_publish_of_not_has, hnone]
    intro hhas
    rcases hother.created_or_raised hcheck hversioned ((hother.has name).mp hhas) with
      h | ⟨before, now, hbefore, -⟩
    · exact happart h hmem
    · rw [hnone] at hbefore
      cases hbefore
  passed name row hversioned hrow := by
    obtain ⟨now, hnow, hpassed⟩ := hplaced.passed name row hversioned hrow
    have hsince : next.WrittenSince visit name ↔
        history.WrittenSince visit name ∨ name ∈ other.written := by
      rw [History.WrittenSince, History.since, hhappened,
        List.drop_append_of_le_length hplaced.began]
      simp [History.WrittenSince, History.since, Happening.written, or_and_right, exists_or]
    by_cases hmem : name ∈ other.written
    · rw [hshared, MemoryUnit.row?_publish_of_has _ ((hother.has name).mpr hmem)]
      rcases hother.created_or_raised hcheck hversioned hmem with
        h | ⟨before, later, hbefore, hlater, hlt⟩
      · rw [hunseen.unseen name hversioned h] at hnow
        cases hnow
      · rw [hnow] at hbefore
        cases hbefore
        refine ⟨later, hlater, ?_⟩
        rw [if_pos (hsince.mpr (.inr hmem))]
        split at hpassed
        · exact Int64.lt_trans hpassed hlt
        · exact hpassed ▸ hlt
    · rw [hshared, MemoryUnit.row?_publish_of_not_has _ (mt (hother.has name).mp hmem)]
      refine ⟨now, hnow, ?_⟩
      simp only [hsince, hmem, or_false]
      exact hpassed
  still := by
    rw [History.since, hhappened, List.drop_append_of_le_length hplaced.began]
    simp

end Placed

end Visit

end CashLedger
