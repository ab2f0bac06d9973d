import CashLedger.Proofs.Store.Accounts
import CashLedger.Proofs.Store.Listing

/-!
# Listings in strict order

Listings are sorted by keys that are not those of the tables: balances by currency or by owner and
currency, all else by age.  No two rows that are listed together have the same place in their
order, though, so a listing goes strictly upwards, and there is only one for its rows.
-/

namespace CashLedger

/-! ## Places in the order -/

namespace Balance

/-- Before the other by currency. -/
def CurrencyBelow (a b : Balance) : Prop := a.currency.code < b.currency.code

/-- Before the other by owner, and of one owner by currency. -/
def OwnerBelow (a b : Balance) : Prop :=
  a.userId < b.userId ∨ a.userId = b.userId ∧ a.currency.code < b.currency.code

end Balance

/-- Before the other by the moment of creation, and of one moment by identifier. -/
def Older {α : Type} {kind : IdKind} (createdAt : α → Timestamp) (id : α → Id kind) (a b : α) :
    Prop :=
  createdAt a < createdAt b ∨ createdAt a = createdAt b ∧ id a < id b

def Record.Older : Record → Record → Prop := CashLedger.Older createdAt id

def Debtor.Older : Debtor → Debtor → Prop := CashLedger.Older createdAt id

def Debt.Older : Debt → Debt → Prop := CashLedger.Older createdAt id

namespace Id

variable {kind : IdKind} {a b c : Id kind}

theorem lt_irrefl (a : Id kind) : ¬a < a := Nat.lt_irrefl a.uuid.value.toNat

theorem lt_trans (hab : a < b) (hbc : b < c) : a < c := Nat.lt_trans hab hbc

theorem lt_asymm (hab : a < b) : ¬b < a := Nat.lt_asymm hab

theorem lt_of_le_of_ne (hle : a ≤ b) (hne : a ≠ b) : a < b :=
  Nat.lt_of_not_le fun hba => hne (eq_of_le_of_le hle hba)

theorem lt_trichotomy (a b : Id kind) : a < b ∨ a = b ∨ b < a := by
  by_cases hab : a ≤ b
  · by_cases heq : a = b
    · exact .inr (.inl heq)
    · exact .inl (lt_of_le_of_ne hab heq)
  · exact .inr (.inr (Nat.lt_of_not_le hab))

end Id

/-! ## Sorting -/

/-- Some rows can be sorted: they all have different places in the order. -/
structure Sortable {α : Type} (before : α → α → Bool) (below : α → α → Prop) (rows : List α) :
    Prop where
  trans : ∀ a b c, before a b = true → before b c = true → before a c = true
  total : ∀ a b, (before a b || before b a) = true
  asymm : ∀ a b, below a b → ¬below b a
  strict : ∀ a ∈ rows, ∀ b ∈ rows, a ≠ b → before a b = true → below a b

/-- The chosen rows, each of them once, and each below all that come after it. -/
structure Listing {α : Type} (below : α → α → Prop) (rows : List α) (chosen : α → Prop)
    (listed : List α) : Prop where
  mem_iff : ∀ row, row ∈ listed ↔ row ∈ rows ∧ chosen row
  nodup : listed.Nodup
  increasing : listed.Pairwise below

namespace Sortable

variable {α : Type} {before : α → α → Bool} {below : α → α → Prop} {rows others : List α}

theorem increasing (hsortable : Sortable before below rows) (hnodup : rows.Nodup) :
    (rows.mergeSort before).Pairwise below := by
  have hperm := List.mergeSort_perm rows before
  have hsorted := List.pairwise_mergeSort hsortable.trans hsortable.total rows
  have hdistinct : (rows.mergeSort before).Pairwise (· ≠ ·) := hperm.nodup_iff.mpr hnodup
  refine (hsorted.and hdistinct).imp_of_mem fun {a b} ha hb ⟨hbefore, hne⟩ => ?_
  exact hsortable.strict a (hperm.mem_iff.mp ha) b (hperm.mem_iff.mp hb) hne hbefore

theorem listing {chosen : α → Bool} (hsortable : Sortable before below (rows.filter chosen))
    (hnodup : rows.Nodup) :
    Listing below rows (chosen · = true) ((rows.filter chosen).mergeSort before) where
  mem_iff row := by rw [(List.mergeSort_perm _ before).mem_iff, List.mem_filter]
  nodup := (List.mergeSort_perm _ before).nodup_iff.mpr (hnodup.filter _)
  increasing := hsortable.increasing (hnodup.filter _)

/-- The order in which the rows come does not show. -/
theorem mergeSort_eq (hsortable : Sortable before below rows) (hperm : others.Perm rows) :
    others.mergeSort before = rows.mergeSort before := by
  refine (mergeSort_eq_of_perm hsortable.trans hsortable.total hperm.symm ?_).symm
  intro a ha b hb hab hba
  by_contra hne
  exact hsortable.asymm a b (hsortable.strict a ha b hb hne hab)
    (hsortable.strict b hb a ha (Ne.symm hne) hba)

end Sortable

/-! ## The orders of the ledger -/

section Age

variable {α : Type} {kind : IdKind} {createdAt : α → Timestamp} {id : α → Id kind}

theorem sortable_olderFirst {rows : List α}
    (hids : ∀ a ∈ rows, ∀ b ∈ rows, id a = id b → a = b) :
    Sortable (olderFirst createdAt id) (Older createdAt id) rows where
  trans := olderFirst_trans
  total := olderFirst_total
  asymm a b := by
    rintro (hab | ⟨hab, hlt⟩) (hba | ⟨hba, hlt'⟩)
    · exact Timestamp.lt_asymm hab hba
    · rw [hba] at hab
      exact Timestamp.lt_asymm hab hab
    · rw [hab] at hba
      exact Timestamp.lt_asymm hba hba
    · exact Id.lt_asymm hlt hlt'
  strict a ha b hb hne hbefore := by
    rcases olderFirst_eq_true_iff.mp hbefore with hlt | ⟨heq, hle⟩
    · exact .inl hlt
    · exact .inr ⟨heq, Id.lt_of_le_of_ne hle fun hid => hne (hids a ha b hb hid)⟩

theorem Table.sortable_olderFirst [Keyed α (Id kind)] (table : Table α) (chosen : α → Bool)
    (hkey : ∀ row, Keyed.key row = id row) :
    Sortable (olderFirst createdAt id) (Older createdAt id) (table.rows.filter chosen) := by
  refine CashLedger.sortable_olderFirst fun a ha b hb hid => ?_
  refine Table.eq_of_key_eq (List.mem_filter.mp ha).1 (List.mem_filter.mp hb).1 ?_
  rw [hkey, hkey, hid]

end Age

namespace Tables

variable (tables : Tables)

theorem sortable_records (chosen : Record → Bool) :
    Sortable Record.olderFirst Record.Older (tables.records.rows.filter chosen) :=
  tables.records.sortable_olderFirst chosen fun _ => rfl

theorem sortable_debtors (chosen : Debtor → Bool) :
    Sortable Debtor.olderFirst Debtor.Older (tables.debtors.rows.filter chosen) :=
  tables.debtors.sortable_olderFirst chosen fun _ => rfl

theorem sortable_debts (chosen : Debt → Bool) :
    Sortable Debt.olderFirst Debt.Older (tables.debts.rows.filter chosen) :=
  tables.debts.sortable_olderFirst chosen fun _ => rfl

end Tables

namespace Balance

variable {rows : List Balance}

theorem sortable_currencyFirst
    (hcurrencies : ∀ a ∈ rows, ∀ b ∈ rows, a.currency = b.currency → a = b) :
    Sortable currencyFirst CurrencyBelow rows where
  trans a b c hab hbc :=
    decide_eq_true (String.le_trans (of_decide_eq_true hab) (of_decide_eq_true hbc))
  total a b := by
    simp only [currencyFirst, Bool.or_eq_true, decide_eq_true_eq]
    exact String.le_total _ _
  asymm _ _ := String.lt_asymm
  strict a ha b hb hne hbefore := by
    refine Std.lt_of_le_of_ne (of_decide_eq_true hbefore) fun hcode => hne ?_
    exact hcurrencies a ha b hb (congrArg Currency.mk hcode)

theorem ownerFirst_eq_true_iff {a b : Balance} :
    ownerFirst a b = true ↔
      a.userId < b.userId ∨ a.userId = b.userId ∧ a.currency.code ≤ b.currency.code := by
  simp only [ownerFirst, currencyFirst, Bool.or_eq_true, Bool.and_eq_true, decide_eq_true_eq]
  rfl

theorem sortable_ownerFirst
    (hone : ∀ a ∈ rows, ∀ b ∈ rows, a.userId = b.userId → a.currency = b.currency → a = b) :
    Sortable ownerFirst OwnerBelow rows where
  trans a b c hab hbc := by
    rw [ownerFirst_eq_true_iff] at *
    rcases hab with hab | ⟨hab, hle⟩ <;> rcases hbc with hbc | ⟨hbc, hle'⟩
    · exact .inl (Id.lt_trans hab hbc)
    · exact .inl (hbc ▸ hab)
    · exact .inl (hab ▸ hbc)
    · exact .inr ⟨hab.trans hbc, String.le_trans hle hle'⟩
  total a b := by
    rw [Bool.or_eq_true, ownerFirst_eq_true_iff, ownerFirst_eq_true_iff]
    rcases Id.lt_trichotomy a.userId b.userId with h | h | h
    · exact .inl (.inl h)
    · rcases String.le_total a.currency.code b.currency.code with hle | hle
      · exact .inl (.inr ⟨h, hle⟩)
      · exact .inr (.inr ⟨h.symm, hle⟩)
    · exact .inr (.inl h)
  asymm a b := by
    rintro (hab | ⟨hab, hlt⟩) (hba | ⟨hba, hlt'⟩)
    · exact Id.lt_asymm hab hba
    · exact Id.lt_irrefl _ (hba ▸ hab)
    · exact Id.lt_irrefl _ (hab ▸ hba)
    · exact String.lt_asymm hlt hlt'
  strict a ha b hb hne hbefore := by
    rcases ownerFirst_eq_true_iff.mp hbefore with hlt | ⟨huser, hle⟩
    · exact .inl hlt
    · refine .inr ⟨huser, Std.lt_of_le_of_ne hle fun hcode => hne ?_⟩
      exact hone a ha b hb huser (congrArg Currency.mk hcode)

end Balance

namespace Table.OnePerPair

variable {balances : Table Balance}

theorem sortable_user (hone : balances.OnePerPair) (user : UserId) :
    Sortable Balance.currencyFirst Balance.CurrencyBelow
      (balances.rows.filter fun balance => balance.userId = user) := by
  refine Balance.sortable_currencyFirst fun a ha b hb hcurrency => ?_
  obtain ⟨ha, huser⟩ := List.mem_filter.mp ha
  obtain ⟨hb, huser'⟩ := List.mem_filter.mp hb
  exact hone a ha b hb ((of_decide_eq_true huser).trans (of_decide_eq_true huser').symm) hcurrency

theorem sortable_filter (hone : balances.OnePerPair) (chosen : Balance → Bool) :
    Sortable Balance.ownerFirst Balance.OwnerBelow (balances.rows.filter chosen) :=
  Balance.sortable_ownerFirst fun a ha b hb =>
    hone a (List.mem_filter.mp ha).1 b (List.mem_filter.mp hb).1

end Table.OnePerPair

end CashLedger
