import CashLedger.Store.Tables
import Mathlib

/-!
# Rows of tables

The order of a table's rows means nothing, so its content is what it finds under
each key.  These lemmas say what insertion, erasure and the copying of rows do
to that content, to the rows that a test keeps and to sums over all rows.
-/

namespace CashLedger.Table

open Keyed (key)

variable {α κ : Type} [Keyed α κ] [DecidableEq κ]

theorem mem_rows_iff {table : Table α} {row : α} :
    row ∈ table.rows ↔ table.find? (key row) = some row := by
  simp [find?_eq_some_iff]

theorem mem_of_find? {table : Table α} {k : κ} {row : α}
    (hfind : table.find? k = some row) : row ∈ table.rows :=
  (find?_eq_some_iff.mp hfind).1

theorem key_of_find? {table : Table α} {k : κ} {row : α}
    (hfind : table.find? k = some row) : key row = k :=
  (find?_eq_some_iff.mp hfind).2

theorem find?_eq_none_iff {table : Table α} {k : κ} :
    table.find? k = none ↔ ∀ row ∈ table.rows, key row ≠ k := by
  simp [find?]

theorem eq_of_key_eq {table : Table α} {left right : α}
    (hleft : left ∈ table.rows) (hright : right ∈ table.rows)
    (hkey : key left = key right) : left = right := by
  rw [mem_rows_iff] at hleft hright
  rw [hkey, hright] at hleft
  exact (Option.some.inj hleft).symm

omit [DecidableEq κ] in
theorem nodup_rows (table : Table α) : table.rows.Nodup :=
  table.nodup.of_map key

theorem mem_rows_erase {table : Table α} {k : κ} {row : α} :
    row ∈ (table.erase k).rows ↔ row ∈ table.rows ∧ key row ≠ k := by
  simp [erase, filter]

theorem mem_rows_insert {table : Table α} {row other : α} :
    other ∈ (table.insert row).rows ↔
      other = row ∨ other ∈ table.rows ∧ key other ≠ key row := by
  simp [insert, mem_rows_erase]

theorem find?_insert_self (table : Table α) (row : α) :
    (table.insert row).find? (key row) = some row := by
  simp [find?_insert]

theorem find?_insert_of_ne (table : Table α) {row : α} {k : κ} (hne : k ≠ key row) :
    (table.insert row).find? k = table.find? k := by
  simp [find?_insert, hne]

/-! ## Tables of the same content -/

/-- The same row, or none, under every key. -/
def Same (left right : Table α) : Prop := ∀ k, left.find? k = right.find? k

namespace Same

variable {left right : Table α}

theorem refl (table : Table α) : Same table table := fun _ => rfl

theorem symm (hsame : Same left right) : Same right left := fun k => (hsame k).symm

theorem mem_iff (hsame : Same left right) {row : α} :
    row ∈ left.rows ↔ row ∈ right.rows := by
  rw [mem_rows_iff, mem_rows_iff, hsame]

theorem perm (hsame : Same left right) : left.rows.Perm right.rows :=
  (List.perm_ext_iff_of_nodup left.nodup_rows right.nodup_rows).mpr
    fun _ => hsame.mem_iff

end Same

/-- A row inserted in place of one that was taken out first. -/
theorem same_insert_erase (table : Table α) (row : α) :
    Same ((table.erase (key row)).insert row) (table.insert row) := by
  intro k
  rw [find?_insert, find?_insert, find?_erase]
  split <;> simp_all

/-! ## Rows that a test keeps -/

variable {keep : α → Bool}

theorem filter_erase (table : Table α) (k : κ) :
    (table.erase k).rows.filter keep =
      (table.rows.filter keep).filter fun row => key row ≠ k := by
  simp only [erase, filter, List.filter_filter]
  congr 1
  funext row
  exact Bool.and_comm _ _

theorem filter_insert (table : Table α) (row : α) :
    (table.insert row).rows.filter keep =
      (if keep row then [row] else []) ++
        (table.rows.filter keep).filter fun other => key other ≠ key row := by
  rw [← filter_erase, insert, List.filter_cons]
  split <;> rfl

theorem filter_erase_of_not_keep {table : Table α} {k : κ}
    (hold : ∀ row, table.find? k = some row → keep row = false) :
    (table.erase k).rows.filter keep = table.rows.filter keep := by
  rw [filter_erase, List.filter_eq_self]
  intro row hrow
  obtain ⟨hmem, hkeep⟩ := List.mem_filter.mp hrow
  rw [decide_eq_true_eq]
  rintro rfl
  have := hold row (mem_rows_iff.mp hmem)
  simp_all

theorem filter_insert_of_not_keep {table : Table α} {row : α}
    (hnew : keep row = false)
    (hold : ∀ other, table.find? (key row) = some other → keep other = false) :
    (table.insert row).rows.filter keep = table.rows.filter keep := by
  rw [insert, List.filter_cons_of_neg (by simp [hnew]), filter_erase_of_not_keep hold]

theorem head?_filter_key (table : Table α) (k : κ) :
    (table.rows.filter fun row => key row = k).head? = table.find? k := by
  rw [List.head?_filter, find?]

omit [DecidableEq κ] in
/-- The rows that a test keeps, when it keeps one only. -/
theorem filter_eq_singleton {table : Table α} {row : α} (hmem : row ∈ table.rows)
    (hkeep : keep row = true) (honly : ∀ other ∈ table.rows, keep other = true → other = row) :
    table.rows.filter keep = [row] := by
  rw [← List.perm_singleton]
  apply (List.perm_ext_iff_of_nodup (table.nodup_rows.filter _) (List.nodup_singleton _)).mpr
  intro other
  rw [List.mem_filter, List.mem_singleton]
  constructor
  · exact fun h => honly other h.1 h.2
  · rintro rfl
    exact ⟨hmem, hkeep⟩

theorem filter_key_eq (table : Table α) (k : κ) :
    (table.rows.filter fun row => key row = k) = (table.find? k).toList := by
  cases hfind : table.find? k with
  | none =>
    rw [Option.toList_none, List.filter_eq_nil_iff]
    intro row hrow
    simpa using find?_eq_none_iff.mp hfind row hrow
  | some row =>
    obtain ⟨hmem, rfl⟩ := find?_eq_some_iff.mp hfind
    apply filter_eq_singleton hmem (by simp)
    intro other hother hkey
    exact eq_of_key_eq hother hmem (by simpa using hkey)

/-! ## Copying rows -/

theorem find?_foldl_copyRow (source table : Table α) (keys : List κ) (k : κ) :
    (keys.foldl (copyRow source) table).find? k =
      if k ∈ keys then source.find? k else table.find? k := by
  induction keys generalizing table with
  | nil => simp
  | cons head rest ih =>
    rw [List.foldl_cons, ih, find?_copyRow]
    by_cases hrest : k ∈ rest
    · simp [hrest]
    · by_cases hhead : k = head <;> simp [hrest, hhead]

theorem filter_copyRow (source table : Table α) {k : κ}
    (hold : ∀ row, table.find? k = some row → keep row = false)
    (hnew : ∀ row, source.find? k = some row → keep row = false) :
    (copyRow source table k).rows.filter keep = table.rows.filter keep := by
  unfold copyRow
  split
  · next row hfind =>
    have hkey := key_of_find? hfind
    apply filter_insert_of_not_keep (hnew row hfind)
    rw [hkey]
    exact hold
  · exact filter_erase_of_not_keep hold

/-- Copying rows that a test keeps neither before nor after leaves the kept rows
and their order alone. -/
theorem filter_foldl_copyRow (source table : Table α) {keys : List κ}
    (hold : ∀ k ∈ keys, ∀ row, table.find? k = some row → keep row = false)
    (hnew : ∀ k ∈ keys, ∀ row, source.find? k = some row → keep row = false) :
    (keys.foldl (copyRow source) table).rows.filter keep = table.rows.filter keep := by
  induction keys generalizing table with
  | nil => rfl
  | cons head rest ih =>
    have hstep := filter_copyRow source table (hold head (by simp)) (hnew head (by simp))
    rw [List.foldl_cons, ih _ _ fun k hk => hnew k (by simp [hk]), hstep]
    intro k hk row hfind
    rw [find?_copyRow] at hfind
    split at hfind
    · next heq => exact hnew head (by simp) row hfind
    · exact hold k (by simp [hk]) row hfind

/-! ## Many rows at once -/

theorem mem_rows_foldl_insert {rows : List α} (hdistinct : (rows.map key).Nodup)
    (table : Table α) {row : α} :
    row ∈ (rows.foldl insert table).rows ↔
      row ∈ rows ∨ row ∈ table.rows ∧ key row ∉ rows.map key := by
  induction rows generalizing table with
  | nil => simp
  | cons head rest ih =>
    obtain ⟨hother, hdistinct⟩ := List.nodup_cons.mp hdistinct
    rw [List.foldl_cons, ih hdistinct, mem_rows_insert, List.mem_cons, List.map_cons,
      List.mem_cons]
    constructor
    · rintro (hrest | ⟨rfl | ⟨htable, hne⟩, hnot⟩)
      · exact .inl (.inr hrest)
      · exact .inl (.inl rfl)
      · exact .inr ⟨htable, not_or.mpr ⟨hne, hnot⟩⟩
    · rintro ((rfl | hrest) | ⟨htable, hnot⟩)
      · exact .inr ⟨.inl rfl, hother⟩
      · exact .inl hrest
      · exact .inr ⟨.inr ⟨htable, (not_or.mp hnot).1⟩, (not_or.mp hnot).2⟩

/-- Rows under keys that the table does not have come to those that it has. -/
theorem foldl_insert_perm {rows : List α} (hdistinct : (rows.map key).Nodup) {table : Table α}
    (hnew : ∀ row ∈ table.rows, key row ∉ rows.map key) :
    (rows.foldl insert table).rows.Perm (rows ++ table.rows) := by
  have hapart : rows.Disjoint table.rows := fun row hrow hmem =>
    hnew row hmem (List.mem_map_of_mem hrow)
  apply (List.perm_ext_iff_of_nodup (nodup_rows _)
    ((hdistinct.of_map key).append table.nodup_rows hapart)).mpr
  intro row
  rw [mem_rows_foldl_insert hdistinct, List.mem_append]
  exact or_congr_right (and_iff_left_of_imp (hnew row))

/-- Rows put in the place of all that a test kept are all that it keeps. -/
theorem filter_foldl_insert_perm {rows : List α} (hdistinct : (rows.map key).Nodup)
    {table : Table α} (hkeep : ∀ row ∈ rows, keep row = true)
    (hold : ∀ row ∈ table.rows, keep row = true → key row ∈ rows.map key) :
    ((rows.foldl insert table).rows.filter keep).Perm rows := by
  apply (List.perm_ext_iff_of_nodup (nodup_rows _ |>.filter _) (hdistinct.of_map key)).mpr
  intro row
  rw [List.mem_filter, mem_rows_foldl_insert hdistinct]
  constructor
  · rintro ⟨hrow | ⟨hrow, hnot⟩, hkept⟩
    · exact hrow
    · exact absurd (hold row hrow hkept) hnot
  · exact fun hrow => ⟨.inl hrow, hkeep row hrow⟩

theorem find?_foldl_erase (keys : List κ) (table : Table α) (k : κ) :
    (keys.foldl erase table).find? k = if k ∈ keys then none else table.find? k := by
  induction keys generalizing table with
  | nil => simp
  | cons head rest ih =>
    rw [List.foldl_cons, ih, find?_erase]
    by_cases hrest : k ∈ rest
    · simp [hrest]
    · by_cases hhead : k = head <;> simp [hrest, hhead]

/-- Erasing the keys of all rows that a test keeps leaves the others. -/
theorem mem_rows_foldl_erase_filter {table : Table α} {row : α} :
    row ∈ (((table.rows.filter keep).map key).foldl erase table).rows ↔
      row ∈ table.rows ∧ keep row = false := by
  rw [mem_rows_iff, find?_foldl_erase]
  constructor
  · intro hfind
    split at hfind
    · cases hfind
    · next hnot =>
      have hmem := mem_of_find? hfind
      refine ⟨hmem, Bool.eq_false_iff.mpr fun hkeep => hnot ?_⟩
      exact List.mem_map.mpr ⟨row, List.mem_filter.mpr ⟨hmem, hkeep⟩, rfl⟩
  · rintro ⟨hmem, hkeep⟩
    rw [if_neg, mem_rows_iff.mp hmem]
    intro hkey
    obtain ⟨other, hother, heq⟩ := List.mem_map.mp hkey
    obtain ⟨hother, hkept⟩ := List.mem_filter.mp hother
    rw [eq_of_key_eq hother hmem heq, hkeep] at hkept
    cases hkept

/-! ## Sums over rows -/

/-- The sum of a quantity over all rows. -/
def sumOf (quantity : α → Int) (table : Table α) : Int :=
  (table.rows.map quantity).sum

variable {quantity : α → Int}

theorem Same.sumOf_eq {left right : Table α} (hsame : Same left right) :
    left.sumOf quantity = right.sumOf quantity :=
  (hsame.perm.map quantity).sum_eq

theorem perm_cons_erase {table : Table α} {row : α} (hmem : row ∈ table.rows) :
    table.rows.Perm (row :: (table.erase (key row)).rows) := by
  have hsame : Same table (table.insert row) := by
    intro k
    rw [find?_insert]
    split
    · next heq => rw [heq, mem_rows_iff.mp hmem]
    · rfl
  exact hsame.perm

theorem sumOf_insert (table : Table α) (row : α) :
    (table.insert row).sumOf quantity =
      quantity row + (table.erase (key row)).sumOf quantity := rfl

theorem sumOf_erase_of_mem {table : Table α} {row : α} (hmem : row ∈ table.rows) :
    (table.erase (key row)).sumOf quantity = table.sumOf quantity - quantity row := by
  have hsum := ((perm_cons_erase hmem).map quantity).sum_eq
  rw [List.map_cons, List.sum_cons] at hsum
  simp only [sumOf]
  omega

theorem erase_eq_self {table : Table α} {k : κ} (hfresh : table.find? k = none) :
    table.erase k = table := by
  have hrows : (table.erase k).rows = table.rows := by
    simp only [erase, filter, List.filter_eq_self, decide_eq_true_eq]
    exact find?_eq_none_iff.mp hfresh
  cases table
  simp_all [erase, filter]

theorem sumOf_insert_of_fresh {table : Table α} {row : α}
    (hfresh : table.find? (key row) = none) :
    (table.insert row).sumOf quantity = quantity row + table.sumOf quantity := by
  rw [sumOf_insert, erase_eq_self hfresh]

theorem sumOf_insert_of_mem {table : Table α} {row old : α} (hmem : old ∈ table.rows)
    (hkey : key old = key row) :
    (table.insert row).sumOf quantity =
      quantity row + (table.sumOf quantity - quantity old) := by
  rw [sumOf_insert, ← hkey, sumOf_erase_of_mem hmem]

omit [DecidableEq κ] in
/-- A quantity that only the rows have that a test keeps. -/
theorem sumOf_ite (keep : α → Bool) (quantity : α → Int) (table : Table α) :
    (table.sumOf fun row => if keep row then quantity row else 0) =
      ((table.rows.filter keep).map quantity).sum := by
  rw [sumOf, List.sum_map_ite]
  simp

omit [DecidableEq κ] in
theorem sumOf_congr {table : Table α} {other : α → Int}
    (heq : ∀ row ∈ table.rows, quantity row = other row) :
    table.sumOf quantity = table.sumOf other := by
  rw [sumOf, sumOf, List.map_congr_left heq]

end CashLedger.Table
