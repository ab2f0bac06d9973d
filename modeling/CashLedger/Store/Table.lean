import CashLedger.Exchange
import CashLedger.Debt

/-!
# Tables

A table holds rows of one type, at most one under each key. The order of the rows means
nothing: whatever is listed from a table is sorted first.
-/

namespace CashLedger

/-- Rows that are told apart by a key. -/
class Keyed (α : Type) (κ : outParam Type) where
  key : α → κ

open Keyed (key)

instance : Keyed User UserId := ⟨User.id⟩
instance : Keyed Balance BalanceId := ⟨Balance.id⟩
instance : Keyed Record RecordId := ⟨Record.id⟩
instance : Keyed Exchange ExchangeId := ⟨Exchange.id⟩
instance : Keyed Debtor DebtorId := ⟨Debtor.id⟩
instance : Keyed Debt DebtId := ⟨Debt.id⟩

structure Table (α : Type) {κ : Type} [Keyed α κ] where
  rows : List α
  nodup : (rows.map key).Nodup

namespace Table

variable {α κ : Type} [Keyed α κ]

def empty : Table α := ⟨[], List.nodup_nil⟩

instance : Inhabited (Table α) := ⟨empty⟩

theorem nodup_filter (table : Table α) (keep : α → Bool) :
    ((table.rows.filter keep).map key).Nodup :=
  table.nodup.sublist (List.filter_sublist.map key)

/-- The rows that a test keeps. -/
def filter (keep : α → Bool) (table : Table α) : Table α :=
  ⟨table.rows.filter keep, table.nodup_filter keep⟩

variable [DecidableEq κ]

def find? (table : Table α) (k : κ) : Option α := table.rows.find? fun row => key row = k

def contains (table : Table α) (k : κ) : Bool := (table.find? k).isSome

def erase (table : Table α) (k : κ) : Table α := table.filter fun row => key row ≠ k

theorem key_notMem_erase (table : Table α) (k : κ) : k ∉ (table.erase k).rows.map key := by
  simp [erase, filter]

/-- Adds a row in place of the one with its key. -/
def insert (table : Table α) (row : α) : Table α :=
  ⟨row :: (table.erase (key row)).rows,
    List.nodup_cons.mpr ⟨table.key_notMem_erase (key row), (table.erase (key row)).nodup⟩⟩

theorem find?_eq_some_iff {table : Table α} {k : κ} {row : α} :
    table.find? k = some row ↔ row ∈ table.rows ∧ key row = k := by
  obtain ⟨rows, distinct⟩ := table
  simp only [find?]
  induction rows with
  | nil => simp
  | cons head rest ih =>
    obtain ⟨fresh, distinct⟩ := List.nodup_cons.mp distinct
    by_cases found : key head = k
    · rw [List.find?_cons_of_pos (by simpa using found)]
      constructor
      · rintro ⟨⟩
        exact ⟨List.mem_cons_self, found⟩
      · rintro ⟨member, same⟩
        rcases List.mem_cons.mp member with rfl | member
        · rfl
        · exact absurd (List.mem_map.mpr ⟨row, member, same.trans found.symm⟩) fresh
    · rw [List.find?_cons_of_neg (by simpa using found), ih distinct]
      constructor
      · exact fun ⟨member, same⟩ => ⟨List.mem_cons_of_mem head member, same⟩
      · rintro ⟨member, same⟩
        rcases List.mem_cons.mp member with rfl | member
        · exact absurd same found
        · exact ⟨member, same⟩

theorem find?_erase (table : Table α) (k other : κ) :
    (table.erase k).find? other = if other = k then none else table.find? other := by
  simp only [find?, erase, filter, List.find?_filter]
  split
  · next same =>
    rw [List.find?_eq_none]
    intro row _
    simp [same]
  · next differ =>
    congr 1
    funext row
    by_cases found : key row = other <;> simp [found, differ]

theorem find?_insert (table : Table α) (row : α) (k : κ) :
    (table.insert row).find? k = if k = key row then some row else table.find? k := by
  have rest := table.find?_erase (key row) k
  by_cases same : k = key row
  · simp [find?, insert, same]
  · rw [if_neg same] at rest ⊢
    rw [← rest]
    exact List.find?_cons_of_neg (by simpa using Ne.symm same)

/-- Brings the row of a key in line with another table, where it may be missing. -/
def copyRow (source : Table α) (table : Table α) (k : κ) : Table α :=
  match source.find? k with
  | some row => table.insert row
  | none => table.erase k

theorem find?_copyRow (source table : Table α) (k other : κ) :
    (source.copyRow table k).find? other =
      if other = k then source.find? k else table.find? other := by
  unfold copyRow
  split
  · next row found =>
    obtain ⟨_, rfl⟩ := find?_eq_some_iff.mp found
    rw [find?_insert, found]
  · next missing => rw [find?_erase, missing]

end Table

end CashLedger
