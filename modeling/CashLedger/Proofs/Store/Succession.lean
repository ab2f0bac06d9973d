import CashLedger.Proofs.Store.Visit

/-!
# Succession

A row of a balance or debtor is succeeded by one with the next version each time it is updated, and
the program stops where there is no next version.  So the version of a row says how many updates lie
between it and an earlier one, and a version stands for one content.  What an open unit makes of a
row is counted on from the version that it found, and a commit goes through only if that is still
the version of the row: it adds the updates of the unit to those of all before it.
-/

namespace CashLedger

/-! ## What a call does to a row -/

namespace MemoryUnit

variable {unit last : MemoryUnit} {name : RowName}

/-- A call that comes back with an answer creates a balance or debtor, raises its version by one, or
leaves it alone. -/
inductive RowStep (unit : MemoryUnit) (request : Call) (last : MemoryUnit) (name : RowName) : Prop
  | creates (hcreated : request.created? = some name)
      (hnotes : ∀ base, last.writes.Notes base name ↔
        unit.writes.Notes base name ∨ base = .created ∧ ¬unit.writes.Has name)
  | raises (hcreated : request.created? ≠ some name) (hupdated : request.updated? = some name)
      (current next : name.Row) (hfind : unit.working.row? name = some current)
      (hrow : last.working.row? name = some next)
      (hversion : (name.version next).toInt = (name.version current).toInt + 1)
      (hnotes : ∀ base, last.writes.Notes base name ↔ unit.writes.Notes base name ∨
        base = .stored (name.version current) ∧ ¬unit.writes.Has name)
  | leaves (hcreated : request.created? ≠ some name) (hupdated : request.updated? ≠ some name)
      (hrow : last.working.row? name = unit.working.row? name)
      (hnotes : ∀ base, last.writes.Notes base name ↔ unit.writes.Notes base name)

theorem row?_writeBalance_of_ne {balance : Balance} {base : Base}
    (hne : name ≠ .balance balance.id) :
    (unit.writeBalance balance base).working.row? name = unit.working.row? name := by
  cases name with
  | balance id => exact Table.find?_insert_of_ne _ fun hid => hne (congrArg RowName.balance hid)
  | _ => rfl

theorem row?_writeDebtor_of_ne {debtor : Debtor} {base : Base} (hne : name ≠ .debtor debtor.id) :
    (unit.writeDebtor debtor base).working.row? name = unit.working.row? name := by
  cases name with
  | debtor id => exact Table.find?_insert_of_ne _ fun hid => hne (congrArg RowName.debtor hid)
  | _ => rfl

theorem rowStep_answer {request : Call} {answer : request.Answer}
    (hversioned : name.isVersioned = true) (hreturns : unit.stops request = false)
    (hanswer : unit.answer request = (.ok answer, last)) : unit.RowStep request last name := by
  have hroom := hasRoom_of_answer hreturns hanswer
  cases request with
  | createBalance balance =>
    obtain ⟨-, rfl⟩ := createBalance_eq_ok.mp hanswer
    by_cases hname : name = .balance balance.id
    · subst hname
      exact .creates rfl fun base => by simp [notes_writeBalance]
    · exact .leaves (fun h => hname (Option.some.inj h).symm) nofun (row?_writeBalance_of_ne hname)
        fun base => by simp [notes_writeBalance, hname]
  | updateBalance balance =>
    obtain ⟨current, hfind, hversion, rfl, rfl⟩ := updateBalance_eq_ok.mp hanswer
    have hnext := Int64.toInt_add_one_of_ne_max fun hmax => hroom (congrArg some hmax)
    by_cases hname : name = .balance balance.id
    · subst hname
      exact .raises nofun rfl current _ hfind (Table.find?_insert_self _ _)
        (hversion ▸ hnext) fun base => by simp [notes_writeBalance, RowName.version]
    · exact .leaves nofun (fun h => hname (Option.some.inj h).symm) (row?_writeBalance_of_ne hname)
        fun base => by simp [notes_writeBalance, hname]
  | createDebtor debtor =>
    cases hanswer
    by_cases hname : name = .debtor debtor.id
    · subst hname
      exact .creates rfl fun base => by simp [notes_writeDebtor]
    · exact .leaves (fun h => hname (Option.some.inj h).symm) nofun (row?_writeDebtor_of_ne hname)
        fun base => by simp [notes_writeDebtor, hname]
  | updateDebtor debtor =>
    obtain ⟨current, hfind, hversion, rfl, rfl⟩ := updateDebtor_eq_ok.mp hanswer
    have hnext := Int64.toInt_add_one_of_ne_max fun hmax => hroom (congrArg some hmax)
    by_cases hname : name = .debtor debtor.id
    · subst hname
      exact .raises nofun rfl current _ hfind (Table.find?_insert_self _ _)
        (hversion ▸ hnext) fun base => by simp [notes_writeDebtor, RowName.version]
    · exact .leaves nofun (fun h => hname (Option.some.inj h).symm) (row?_writeDebtor_of_ne hname)
        fun base => by simp [notes_writeDebtor, hname]
  | _ =>
    cases versionedStep_answer hanswer with
    | leaves hcreated hbalances hdebtors =>
      refine .leaves (fun h => ?_) ?_ (row?_congr hversioned hbalances.1 hdebtors.1)
        fun base => notes_congr hbalances.2 hdebtors.2
      · rw [hcreated name h] at hversioned
        cases hversioned
      · rintro ⟨⟩ <;> cases hversioned

/-- What a unit found with a version has that version still when its commit goes through. -/
theorem version_of_check {shared : Tables} {version : Int64}
    (hcheck : unit.check shared = .ok ()) (hnotes : unit.writes.Notes (.stored version) name) :
    (shared.row? name).map name.version = some version := by
  obtain ⟨hbalances, hdebtors⟩ := check_eq_ok_iff.mp hcheck
  cases name with
  | balance id => exact checkBalance_stored_eq_ok.mp (hbalances _ hnotes)
  | debtor id => exact checkDebtor_stored_eq_ok.mp (hdebtors _ hnotes)
  | _ => exact hnotes.elim

end MemoryUnit

/-! ## Rows of one name -/

namespace RowName

variable {name : RowName} {before middle after : name.Row} {writes more : Nat}

/-- How a row comes out of an earlier one that has been written so many times since. -/
structure Succession (name : RowName) (writes : Nat) (before after : name.Row) : Prop where
  counts : (name.version after).toInt = (name.version before).toInt + writes
  still : writes = 0 → after = before

theorem Succession.refl (row : name.Row) : name.Succession 0 row row where
  counts := (Int.add_zero _).symm
  still _ := rfl

theorem Succession.trans (hfirst : name.Succession writes before middle)
    (hlast : name.Succession more middle after) : name.Succession (writes + more) before after where
  counts := by rw [hlast.counts, hfirst.counts, Int.natCast_add, Int.add_assoc]
  still hnone := by
    obtain ⟨hwrites, hmore⟩ := Nat.add_eq_zero_iff.mp hnone
    rw [hlast.still hmore, hfirst.still hwrites]

/-- What the versions of two rows say about them, the later of which has been written so many times
since the earlier one. -/
structure Follows (name : RowName) (writes : Nat) (before after : name.Row) : Prop extends
    name.Succession writes before after where
  never_lower : name.version before ≤ name.version after
  raised : 0 < writes → name.version before < name.version after
  identified : name.version after = name.version before → after = before

theorem Succession.follows (hrow : name.Succession writes before after) :
    name.Follows writes before after where
  toSuccession := hrow
  never_lower := by
    rw [Int64.le_iff_toInt_le, hrow.counts]
    omega
  raised hwrites := by
    rw [Int64.lt_iff_toInt_lt, hrow.counts]
    omega
  identified hsame := by
    have hcounts := hrow.counts
    rw [hsame] at hcounts
    exact hrow.still (by omega)

end RowName

/-! ## What a unit did -/

namespace Visit

variable {visit : Visit} {name : RowName}

/-- A unit's write set has the names it wrote, and what it updated has a version that counts the
updates, from the one that was found. -/
structure Counted (visit : Visit) : Prop where
  has : ∀ name, visit.unit.writes.Has name ↔ name ∈ visit.written
  undeleted : ∀ name ∈ visit.deleted, name.isVersioned = false
  created : ∀ name, visit.unit.writes.Notes .created name → name ∈ visit.created
  stored : ∀ name version, visit.unit.writes.Notes (.stored version) name →
    name ∉ visit.created ∧ ∃ row, visit.unit.working.row? name = some row ∧
      (name.version row).toInt = version.toInt + visit.updated.count name

namespace Counted

theorem opening (snapshot : Tables) (began : Nat) :
    Counted ⟨snapshot, ⟨snapshot, {}⟩, began, [], [], []⟩ where
  has name := by cases name <;> simp [WriteSet.Has, WriteSet.balanceIds, WriteSet.debtorIds,
    mem_written]
  undeleted := nofun
  created name := by cases name <;> simp [WriteSet.Notes]
  stored name version := by cases name <;> simp [WriteSet.Notes]

theorem not_has (hcounted : visit.Counted) (hnew : name ∉ visit.created)
    (hnone : visit.unit.working.row? name = none) (hversioned : name.isVersioned = true) :
    ¬visit.unit.writes.Has name := by
  intro hhas
  obtain ⟨base, hnotes⟩ := (WriteSet.has_iff_notes hversioned).mp hhas
  cases base with
  | created => exact hnew (hcounted.created name hnotes)
  | stored version =>
    obtain ⟨-, row, hrow, -⟩ := hcounted.stored name version hnotes
    rw [hnone] at hrow
    cases hrow

theorem after (hcounted : visit.Counted) {request : Call} {answer : request.Answer}
    {unit : MemoryUnit} (hreturns : visit.unit.stops request = false)
    (hanswer : visit.unit.answer request = (.ok answer, unit))
    (hfresh : ∀ name, request.created? = some name → name.isVersioned = true →
      ¬visit.unit.writes.Has name) : (visit.after request unit).Counted where
  has name := by
    rw [mem_written_after, ← hcounted.has]
    exact MemoryUnit.has_answer hanswer
  undeleted name hname := by
    rcases List.mem_append.mp hname with h | h
    · exact hcounted.undeleted name h
    · exact Call.isVersioned_of_deleted h
  created name hnoted := by
    rw [mem_created_after]
    cases MemoryUnit.rowStep_answer hnoted.isVersioned hreturns hanswer with
    | creates hcreated hnotes => exact .inr hcreated
    | raises hcreated hupdated current next hfind hrow hversion hnotes =>
      rcases (hnotes _).mp hnoted with h | ⟨h, -⟩
      · exact .inl (hcounted.created name h)
      · cases h
    | leaves hcreated hupdated hrow hnotes =>
      exact .inl (hcounted.created name ((hnotes _).mp hnoted))
  stored name version hnoted := by
    rw [mem_created_after, not_or]
    cases MemoryUnit.rowStep_answer hnoted.isVersioned hreturns hanswer with
    | creates hcreated hnotes =>
      rcases (hnotes _).mp hnoted with h | ⟨h, -⟩
      · exact absurd ((WriteSet.has_iff_notes hnoted.isVersioned).mpr ⟨_, h⟩)
          (hfresh name hcreated hnoted.isVersioned)
      · cases h
    | raises hcreated hupdated current next hfind hrow hversion hnotes =>
      have hcount : (visit.after request unit).updated.count name =
          visit.updated.count name + 1 := by
        simp [Visit.after, hupdated]
      rw [hcount, Int.natCast_add, ← Int.add_assoc]
      rcases (hnotes _).mp hnoted with h | ⟨h, hnew⟩
      · obtain ⟨hold, row, hfound, hcounts⟩ := hcounted.stored name version h
        rw [hfind] at hfound
        cases hfound
        exact ⟨⟨hold, hcreated⟩, next, hrow, by rw [hversion, hcounts]; rfl⟩
      · -- the first write of the row
        cases h
        rw [hcounted.has, mem_written, not_or, not_or] at hnew
        rw [List.count_eq_zero.mpr hnew.2.1]
        exact ⟨⟨hnew.1, hcreated⟩, next, hrow, by rw [hversion]; simp⟩
    | leaves hcreated hupdated hrow hnotes =>
      have hcount : (visit.after request unit).updated.count name = visit.updated.count name := by
        simp [Visit.after, List.count_append, List.count_eq_zero, hupdated]
      obtain ⟨hold, row, hfound, hcounts⟩ := hcounted.stored name version ((hnotes _).mp hnoted)
      exact ⟨⟨hold, hcreated⟩, row, hrow.trans hfound, by rw [hcounts, hcount]⟩

/-- A balance or debtor that the unit did not create has been written by its updates. -/
theorem count_written (hcounted : visit.Counted) (hversioned : name.isVersioned = true)
    (hcreated : name ∉ visit.created) : visit.written.count name = visit.updated.count name := by
  have hdeleted : name ∉ visit.deleted := by
    intro h
    rw [hcounted.undeleted name h] at hversioned
    cases hversioned
  rw [written, List.count_append, List.count_append, List.count_eq_zero.mpr hcreated,
    List.count_eq_zero.mpr hdeleted, Nat.zero_add, Nat.add_zero]

theorem count_pos (hcounted : visit.Counted) (hhas : visit.unit.writes.Has name)
    (hversioned : name.isVersioned = true) (hcreated : name ∉ visit.created) :
    0 < visit.updated.count name := by
  rw [← hcounted.count_written hversioned hcreated, List.count_pos_iff]
  exact (hcounted.has name).mp hhas

/-- A commit counts the updates of a row on from its version. -/
theorem publish (hcounted : visit.Counted) {shared : Tables}
    (hcheck : visit.unit.check shared = .ok ()) (hversioned : name.isVersioned = true)
    {before : name.Row} (hbefore : shared.row? name = some before)
    (hcreated : name ∉ visit.created) :
    ∃ after, (visit.unit.publish shared).row? name = some after ∧
      name.Succession (visit.updated.count name) before after := by
  by_cases hhas : visit.unit.writes.Has name
  · obtain ⟨base, hnotes⟩ := (WriteSet.has_iff_notes hversioned).mp hhas
    cases base with
    | created => exact absurd (hcounted.created name hnotes) hcreated
    | stored version =>
      obtain ⟨-, row, hrow, hcounts⟩ := hcounted.stored name version hnotes
      have hversion := MemoryUnit.version_of_check hcheck hnotes
      rw [hbefore, Option.map_some, Option.some.injEq] at hversion
      have hpositive := hcounted.count_pos hhas hversioned hcreated
      refine ⟨row, (MemoryUnit.row?_publish_of_has shared hhas).trans hrow, ?_, fun hnone => ?_⟩
      · rw [hcounts, hversion]
      · exact absurd hnone hpositive.ne'
  · refine ⟨before, (MemoryUnit.row?_publish_of_not_has shared hhas).trans hbefore, ?_⟩
    rw [hcounted.has, mem_written, not_or, not_or] at hhas
    rw [List.count_eq_zero.mpr hhas.2.1]
    exact .refl before

end Counted

end Visit

end CashLedger
