import CashLedger.Proofs.Store.Table

/-!
# The order of listings

Rows are listed by age: by the moment of their creation and, within one moment,
by identifier.  No two rows of a table are of the same age, so a listing is the
only order of its rows that goes from old to young.
-/

namespace CashLedger

namespace Timestamp

theorem lt_or_eq_of_le {a b : Timestamp} (hle : a ≤ b) : a < b ∨ a = b := by
  obtain ⟨seconds, nanos, _, _⟩ := a
  obtain ⟨seconds', nanos', _, _⟩ := b
  change seconds < seconds' ∨ seconds = seconds' ∧ nanos ≤ nanos' at hle
  rcases hle with h | ⟨rfl, h⟩
  · exact .inl (.inl h)
  · rcases Nat.lt_or_eq_of_le h with h | rfl
    · exact .inl (.inr ⟨rfl, h⟩)
    · exact .inr rfl

theorem lt_trans {a b c : Timestamp} (hab : a < b) (hbc : b < c) : a < c := by
  change a.seconds < b.seconds ∨ a.seconds = b.seconds ∧ a.nanos < b.nanos at hab
  change b.seconds < c.seconds ∨ b.seconds = c.seconds ∧ b.nanos < c.nanos at hbc
  change a.seconds < c.seconds ∨ a.seconds = c.seconds ∧ a.nanos < c.nanos
  omega

theorem lt_asymm {a b : Timestamp} (hab : a < b) : ¬b < a := by
  change a.seconds < b.seconds ∨ a.seconds = b.seconds ∧ a.nanos < b.nanos at hab
  change ¬(b.seconds < a.seconds ∨ b.seconds = a.seconds ∧ b.nanos < a.nanos)
  omega

theorem lt_trichotomy (a b : Timestamp) : a < b ∨ a = b ∨ b < a := by
  obtain ⟨seconds, nanos, _, _⟩ := a
  obtain ⟨seconds', nanos', _, _⟩ := b
  simp only [Timestamp.mk.injEq]
  change (seconds < seconds' ∨ seconds = seconds' ∧ nanos < nanos') ∨ _ ∨
    (seconds' < seconds ∨ seconds' = seconds ∧ nanos' < nanos)
  omega

end Timestamp

theorem Id.eq_of_le_of_le {kind : IdKind} {a b : Id kind} (hab : a ≤ b) (hba : b ≤ a) :
    a = b := by
  obtain ⟨⟨left⟩⟩ := a
  obtain ⟨⟨right⟩⟩ := b
  change left.toNat ≤ right.toNat at hab
  change right.toNat ≤ left.toNat at hba
  rw [BitVec.eq_of_toNat_eq (Nat.le_antisymm hab hba)]

section OlderFirst

variable {α : Type} {kind : IdKind} {createdAt : α → Timestamp} {id : α → Id kind}

theorem olderFirst_eq_true_iff {a b : α} :
    olderFirst createdAt id a b = true ↔
      createdAt a < createdAt b ∨ createdAt a = createdAt b ∧ id a ≤ id b := by
  simp [olderFirst]

theorem olderFirst_trans (a b c : α) (hab : olderFirst createdAt id a b = true)
    (hbc : olderFirst createdAt id b c = true) : olderFirst createdAt id a c = true := by
  rw [olderFirst_eq_true_iff] at *
  rcases hab with hab | ⟨hab, hle⟩ <;> rcases hbc with hbc | ⟨hbc, hle'⟩
  · exact .inl (Timestamp.lt_trans hab hbc)
  · exact .inl (hbc ▸ hab)
  · exact .inl (hab ▸ hbc)
  · exact .inr ⟨hab.trans hbc, Nat.le_trans hle hle'⟩

theorem olderFirst_total (a b : α) :
    (olderFirst createdAt id a b || olderFirst createdAt id b a) = true := by
  rw [Bool.or_eq_true, olderFirst_eq_true_iff, olderFirst_eq_true_iff]
  rcases Timestamp.lt_trichotomy (createdAt a) (createdAt b) with h | h | h
  · exact .inl (.inl h)
  · rcases Nat.le_total (id a).uuid.value.toNat (id b).uuid.value.toNat with hle | hle
    · exact .inl (.inr ⟨h, hle⟩)
    · exact .inr (.inr ⟨h.symm, hle⟩)
  · exact .inr (.inl h)

theorem id_eq_of_olderFirst {a b : α} (hab : olderFirst createdAt id a b = true)
    (hba : olderFirst createdAt id b a = true) : id a = id b := by
  rw [olderFirst_eq_true_iff] at hab hba
  rcases hab with hab | ⟨hab, hle⟩ <;> rcases hba with hba | ⟨hba, hle'⟩
  · exact absurd hba (Timestamp.lt_asymm hab)
  · rw [hba] at hab
    exact absurd hab (Timestamp.lt_asymm hab)
  · rw [hab] at hba
    exact absurd hba (Timestamp.lt_asymm hba)
  · exact Id.eq_of_le_of_le hle hle'

end OlderFirst

/-- The order of the rows does not show in a listing that tells all of them apart. -/
theorem mergeSort_eq_of_perm {α : Type} {before : α → α → Bool}
    (htrans : ∀ a b c, before a b = true → before b c = true → before a c = true)
    (htotal : ∀ a b, (before a b || before b a) = true) {rows others : List α}
    (hperm : rows.Perm others)
    (hanti : ∀ a ∈ rows, ∀ b ∈ rows, before a b = true → before b a = true → a = b) :
    rows.mergeSort before = others.mergeSort before := by
  have hrows := List.mergeSort_perm rows before
  have hothers := List.mergeSort_perm others before
  apply List.Perm.eq_of_pairwise _ (List.pairwise_mergeSort htrans htotal rows)
    (List.pairwise_mergeSort htrans htotal others)
    (hrows.trans (hperm.trans hothers.symm))
  intro a b ha hb hab hba
  exact hanti a (hrows.mem_iff.mp ha) b (hperm.mem_iff.mpr (hothers.mem_iff.mp hb)) hab hba

namespace Tables

theorem recordsWhere_perm (tables : Tables) (chosen : Record → Bool) :
    (tables.recordsWhere chosen).Perm (tables.records.rows.filter chosen) :=
  List.mergeSort_perm _ _

theorem mem_recordsWhere {tables : Tables} {chosen : Record → Bool} {record : Record} :
    record ∈ tables.recordsWhere chosen ↔
      record ∈ tables.records.rows ∧ chosen record = true := by
  rw [(tables.recordsWhere_perm chosen).mem_iff, List.mem_filter]

/-- What goes from old to young and has the chosen rows is their listing. -/
theorem recordsWhere_eq {tables : Tables} {chosen : Record → Bool} {listed : List Record}
    (hperm : (tables.records.rows.filter chosen).Perm listed)
    (hordered : listed.Pairwise fun a b => Record.olderFirst a b = true) :
    tables.recordsWhere chosen = listed := by
  have hsorted : (tables.recordsWhere chosen).Pairwise
      fun a b => Record.olderFirst a b = true :=
    List.pairwise_mergeSort olderFirst_trans olderFirst_total _
  apply List.Perm.eq_of_pairwise _ hsorted hordered
    ((tables.recordsWhere_perm chosen).trans hperm)
  intro a b ha hb hab hba
  rw [← hperm.mem_iff] at hb
  exact Table.eq_of_key_eq (mem_recordsWhere.mp ha).1 (List.mem_filter.mp hb).1
    (id_eq_of_olderFirst hab hba)

end Tables

end CashLedger
