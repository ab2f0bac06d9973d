import CashLedger.Proofs.Twins

/-!
# Tables of twin runs

A run about a user writes rows of that user only, so whatever stands under a key of the
user stays with the user, and the rows of all others stay as they were.  As long as twin
runs write rows that stand for one another, so do all the rows of the user, and what the
one run finds under a key is what the other finds under the same key.
-/

namespace CashLedger

open Keyed (key)
open Owned (owner)

/-! ## Rows of one user -/

namespace Table

variable {α κ : Type} [Keyed α κ] [Owned α] {user : UserId} {chosen : UserId → Prop}

theorem AgreeWhere.refl (table : Table α) : table.AgreeWhere chosen table := fun _ _ => .rfl

theorem AgreeWhere.hasOf {left right : Table α} (hagree : left.AgreeWhere (· = user) right)
    {k : κ} (hhas : left.HasOf user k) : right.HasOf user k := by
  obtain ⟨row, hmem, hkey, howner⟩ := hhas
  exact ⟨row, (hagree row howner).mp hmem, hkey, howner⟩

theorem AgreeWhere.filter_perm {left right : Table α} (hagree : left.AgreeWhere (· = user) right)
    {keep : α → Bool} (hleft : ∀ row ∈ left.rows, keep row = true → owner row = user)
    (hright : ∀ row ∈ right.rows, keep row = true → owner row = user) :
    (left.rows.filter keep).Perm (right.rows.filter keep) := by
  apply (List.perm_ext_iff_of_nodup (left.nodup_rows.filter _) (right.nodup_rows.filter _)).mpr
  intro row
  rw [List.mem_filter, List.mem_filter]
  constructor
  · exact fun ⟨hmem, hkept⟩ => ⟨(hagree row (hleft row hmem hkept)).mp hmem, hkept⟩
  · exact fun ⟨hmem, hkept⟩ => ⟨(hagree row (hright row hmem hkept)).mpr hmem, hkept⟩

variable [DecidableEq κ]

/-- What stands under the key, if anything does, belongs to the user. -/
def Under (user : UserId) (table : Table α) (k : κ) : Prop :=
  ∀ row, table.find? k = some row → owner row = user

theorem HasOf.under {table : Table α} {k : κ} (hhas : table.HasOf user k) :
    table.Under user k := by
  obtain ⟨row, hmem, rfl, howner⟩ := hhas
  intro other hfind
  rw [mem_rows_iff.mp hmem] at hfind
  cases hfind
  exact howner

/-- In an agreement about all others, what is the user's stays so. -/
theorem AgreeWhere.under {before after : Table α} {k : κ}
    (hothers : before.AgreeWhere (· ≠ user) after) (hunder : before.Under user k) :
    after.Under user k := by
  intro row hfind
  by_contra hother
  obtain ⟨hmem, rfl⟩ := find?_eq_some_iff.mp hfind
  exact hother (hunder row (mem_rows_iff.mp ((hothers row hother).mpr hmem)))

namespace AgreeWhere

variable {before after : Table α} {row : α} {k : κ}

theorem insert (hothers : before.AgreeWhere (· ≠ user) after) (howner : owner row = user)
    (hunder : before.Under user (key row)) : before.AgreeWhere (· ≠ user) (after.insert row) := by
  intro other hother
  rw [mem_rows_insert, hothers other hother]
  constructor
  · intro hmem
    refine .inr ⟨hmem, fun hkey => hother ?_⟩
    exact hothers.under (hkey ▸ hunder) other (mem_rows_iff.mp hmem)
  · rintro (rfl | ⟨hmem, -⟩)
    · exact absurd howner hother
    · exact hmem

theorem erase (hothers : before.AgreeWhere (· ≠ user) after) (hunder : before.Under user k) :
    before.AgreeWhere (· ≠ user) (after.erase k) := by
  intro other hother
  rw [mem_rows_erase, hothers other hother]
  refine ⟨fun hmem => ⟨hmem, fun hkey => hother ?_⟩, And.left⟩
  exact hothers.under (hkey ▸ hunder) other (mem_rows_iff.mp hmem)

end AgreeWhere

/-! ## Rows that stand for one another -/

/-- Each row of the user has one in the other table that it stands for. -/
def Covers (user : UserId) (alike : α → α → Prop) (left right : Table α) : Prop :=
  ∀ a ∈ left.rows, owner a = user → ∃ b ∈ right.rows, owner b = user ∧ alike a b

namespace Covers

variable {alike : α → α → Prop} {left right : Table α}

theorem insert (hcovers : left.Covers user alike right) {a b : α} (halike : alike a b)
    (howner : owner b = user) (hkey : ∀ x y, alike x y → key y = key b → key x = key a) :
    (left.insert a).Covers user alike (right.insert b) := by
  intro x hx hmine
  rcases mem_rows_insert.mp hx with rfl | ⟨hx, hne⟩
  · exact ⟨b, mem_rows_insert.mpr (.inl rfl), howner, halike⟩
  · obtain ⟨y, hy, hmine', hsame⟩ := hcovers x hx hmine
    exact ⟨y, mem_rows_insert.mpr (.inr ⟨hy, fun h => hne (hkey x y hsame h)⟩), hmine', hsame⟩

theorem erase (hcovers : left.Covers user alike right) {k k' : κ}
    (hkey : ∀ x y, alike x y → key y = k' → key x = k) :
    (left.erase k).Covers user alike (right.erase k') := by
  intro x hx hmine
  obtain ⟨hx, hne⟩ := mem_rows_erase.mp hx
  obtain ⟨y, hy, hmine', hsame⟩ := hcovers x hx hmine
  exact ⟨y, mem_rows_erase.mpr ⟨hy, fun h => hne (hkey x y hsame h)⟩, hmine', hsame⟩

theorem drop (hcovers : left.Covers user alike right) {dropped : α → Bool}
    (hdropped : ∀ x y, alike x y → dropped x = dropped y) :
    (((left.rows.filter dropped).map key).foldl Table.erase left).Covers user alike
      (((right.rows.filter dropped).map key).foldl Table.erase right) := by
  intro x hx hmine
  obtain ⟨hx, hkept⟩ := mem_rows_foldl_erase_filter.mp hx
  obtain ⟨y, hy, hmine', hsame⟩ := hcovers x hx hmine
  exact ⟨y, mem_rows_foldl_erase_filter.mpr ⟨hy, hdropped x y hsame ▸ hkept⟩, hmine', hsame⟩

end Covers

end Table

theorem Tables.mem_uuids {tables : Tables} {uuid : Uuid} :
    uuid ∈ tables.uuids ↔
      (∃ balance ∈ tables.balances.rows, balance.id.uuid = uuid) ∨
        (∃ record ∈ tables.records.rows, record.id.uuid = uuid) ∨
        (∃ record ∈ tables.records.rows, ∃ id, record.source.transactionId? = some id ∧
          id.uuid = uuid) ∨
        (∃ exchange ∈ tables.exchanges.rows, exchange.id.uuid = uuid) ∨
        (∃ debtor ∈ tables.debtors.rows, debtor.id.uuid = uuid) ∨
        ∃ debt ∈ tables.debts.rows, debt.id.uuid = uuid := by
  simp [uuids]

/-- Rows of a table of the ledger, and which of them stand for one another in twin runs: only
rows of one owner, and under keys that do so. -/
class Twinned (α : Type) {kind : outParam IdKind} [Keyed α (Id kind)] [Owned α] where
  table : Tables → Table α
  mem_uuids : ∀ {tables : Tables} {row : α}, row ∈ (table tables).rows →
    (key row).uuid ∈ tables.uuids
  agree : ∀ {chosen : UserId → Prop} {left right : Tables}, left.AgreeWhere chosen right →
    (table left).AgreeWhere chosen (table right)
  alike : Twins → α → α → Prop
  sameId : ∀ {t : Twins} {a b : α}, alike t a b → t.SameId (key a) (key b)
  owner_eq : ∀ {t : Twins} {a b : α}, alike t a b → owner b = owner a

open Twinned (table alike)

instance : Twinned Balance where
  table := Tables.balances
  mem_uuids hmem := Tables.mem_uuids.mpr (.inl ⟨_, hmem, rfl⟩)
  agree hagree := hagree.balances
  alike := Twins.SameBalance
  sameId hsame := hsame.id
  owner_eq hsame := by rw [hsame.rest]; rfl

instance : Twinned Record where
  table := Tables.records
  mem_uuids hmem := Tables.mem_uuids.mpr (.inr (.inl ⟨_, hmem, rfl⟩))
  agree hagree := hagree.records
  alike := Twins.SameRecord
  sameId hsame := hsame.id
  owner_eq hsame := by rw [hsame.rest]; rfl

instance : Twinned Exchange where
  table := Tables.exchanges
  mem_uuids hmem := Tables.mem_uuids.mpr (.inr (.inr (.inr (.inl ⟨_, hmem, rfl⟩))))
  agree hagree := hagree.exchanges
  alike := Twins.SameExchange
  sameId hsame := hsame.id
  owner_eq hsame := by rw [hsame.rest]; rfl

instance : Twinned Debtor where
  table := Tables.debtors
  mem_uuids hmem := Tables.mem_uuids.mpr (.inr (.inr (.inr (.inr (.inl ⟨_, hmem, rfl⟩)))))
  agree hagree := hagree.debtors
  alike := Twins.SameDebtor
  sameId hsame := hsame.id
  owner_eq hsame := by rw [hsame.rest]; rfl

instance : Twinned Debt where
  table := Tables.debts
  mem_uuids hmem := Tables.mem_uuids.mpr (.inr (.inr (.inr (.inr (.inr ⟨_, hmem, rfl⟩)))))
  agree hagree := hagree.debts
  alike := Twins.SameDebt
  sameId hsame := hsame.id
  owner_eq hsame := by rw [hsame.rest]; rfl

namespace Twins

variable {t : Twins} {α : Type} {kind : IdKind} [Keyed α (Id kind)] [Owned α] [Twinned α]

/-- The rows of the user in two tables stand for one another. -/
structure Matches (t : Twins) (left right : Table α) : Prop where
  forth : left.Covers t.user (alike t) right
  back : right.Covers t.user (fun b a => alike t a b) left

/-- No identifier was given out twice, nor one that the tables hold. -/
structure Fresh (t : Twins) : Prop where
  first : t.first.Distinct
  second : t.second.Distinct
  left : ∀ uuid ∈ t.first.drawn, uuid ∉ t.left.uuids
  right : ∀ uuid ∈ t.second.drawn, uuid ∉ t.right.uuids

theorem SameId.right_eq (hfresh : t.Fresh) {a b c : Id kind} (hb : t.SameId a b)
    (hc : t.SameId a c) : b = c := by
  obtain ⟨b⟩ := b
  obtain ⟨c⟩ := c
  exact congrArg Id.mk (hb.right_unique hfresh.first hc)

theorem SameId.left_eq (hfresh : t.Fresh) {a b c : Id kind} (ha : t.SameId a c)
    (hb : t.SameId b c) : a = b := by
  obtain ⟨a⟩ := a
  obtain ⟨b⟩ := b
  exact congrArg Id.mk (ha.left_unique hfresh.second hb)

namespace Matches

variable {left right : Table α} {a b : α} {k k' : Id kind}

theorem insert (hfresh : t.Fresh) (hmatches : t.Matches left right) (hsame : alike t a b)
    (howner : owner a = t.user) : t.Matches (left.insert a) (right.insert b) where
  forth := by
    refine hmatches.forth.insert hsame ((Twinned.owner_eq hsame).trans howner) ?_
    rintro x y hother hkey
    have hid := Twinned.sameId hother
    rw [hkey] at hid
    exact hid.left_eq hfresh (Twinned.sameId hsame)
  back := by
    refine hmatches.back.insert hsame howner ?_
    rintro y x hother hkey
    have hid := Twinned.sameId hother
    rw [hkey] at hid
    exact hid.right_eq hfresh (Twinned.sameId hsame)

theorem erase (hfresh : t.Fresh) (hmatches : t.Matches left right) (hk : t.SameId k k') :
    t.Matches (left.erase k) (right.erase k') where
  forth := by
    refine hmatches.forth.erase fun x y hsame hkey => ?_
    have hid := Twinned.sameId hsame
    rw [hkey] at hid
    exact hid.left_eq hfresh hk
  back := by
    refine hmatches.back.erase fun y x hsame hkey => ?_
    have hid := Twinned.sameId hsame
    rw [hkey] at hid
    exact hid.right_eq hfresh hk

theorem drop (hmatches : t.Matches left right) {dropped : α → Bool}
    (hdropped : ∀ {a b : α}, alike t a b → dropped a = dropped b) :
    t.Matches (((left.rows.filter dropped).map key).foldl Table.erase left)
      (((right.rows.filter dropped).map key).foldl Table.erase right) where
  forth := hmatches.forth.drop fun _ _ hsame => hdropped hsame
  back := hmatches.back.drop fun _ _ hsame => (hdropped hsame).symm

/-- Under keys of the user that stand for one another, both tables have a row or neither. -/
theorem find? (hfresh : t.Fresh) (hmatches : t.Matches left right) (hk : t.SameId k k')
    (hleft : left.Under t.user k) (hright : right.Under t.user k') :
    Option.Rel (alike t) (left.find? k) (right.find? k') := by
  cases hfind : left.find? k with
  | some a =>
    obtain ⟨hmem, rfl⟩ := Table.find?_eq_some_iff.mp hfind
    obtain ⟨b, hb, -, hsame⟩ := hmatches.forth a hmem (hleft a hfind)
    rw [← SameId.right_eq hfresh (Twinned.sameId hsame) hk, Table.mem_rows_iff.mp hb]
    exact .some hsame
  | none =>
    cases hfind' : right.find? k' with
    | none => exact .none
    | some b =>
      obtain ⟨hmem, rfl⟩ := Table.find?_eq_some_iff.mp hfind'
      obtain ⟨a, ha, -, hsame⟩ := hmatches.back b hmem (hright b hfind')
      rw [SameId.left_eq hfresh hk (Twinned.sameId hsame), Table.mem_rows_iff.mp ha] at hfind
      cases hfind

theorem exists_partners (hmatches : t.Matches left right) {rows : List α}
    (hrows : ∀ a ∈ rows, a ∈ left.rows ∧ owner a = t.user) :
    ∃ others, List.Forall₂ (alike t) rows others ∧
      (∀ a ∈ rows, ∃ b ∈ others, alike t a b) ∧
      ∀ b ∈ others, b ∈ right.rows ∧ owner b = t.user := by
  induction rows with
  | nil => exact ⟨[], .nil, nofun, nofun⟩
  | cons a rest ih =>
    obtain ⟨hhead, hrest⟩ := List.forall_mem_cons.mp hrows
    obtain ⟨b, hb, howner, hsame⟩ := hmatches.forth a hhead.1 hhead.2
    obtain ⟨others, heach, hcovered, hothers⟩ := ih hrest
    refine ⟨b :: others, .cons hsame heach, List.forall_mem_cons.mpr ⟨⟨b, by simp, hsame⟩, ?_⟩,
      List.forall_mem_cons.mpr ⟨⟨hb, howner⟩, hothers⟩⟩
    intro x hx
    obtain ⟨y, hy, hsame'⟩ := hcovered x hx
    exact ⟨y, List.mem_cons_of_mem b hy, hsame'⟩

/-- Since no key occurs twice, the rows stand for one another one by one. -/
theorem oneForOne (hfresh : t.Fresh) (hmatches : t.Matches left right) :
    left.OneForOne t.user (alike t) right := by
  have hrows : ∀ a ∈ left.rows.filter (fun row => owner row = t.user),
      a ∈ left.rows ∧ owner a = t.user := by simp
  obtain ⟨others, heach, hcovered, hothers⟩ := hmatches.exists_partners hrows
  have hkeys : List.Forall₂ t.SameId
      ((left.rows.filter fun row => owner row = t.user).map key) (others.map key) := by
    rw [List.forall₂_map_left_iff, List.forall₂_map_right_iff]
    exact heach.imp fun _ _ => Twinned.sameId
  have hunique : Relator.BiUnique (t.SameId : Id kind → Id kind → Prop) :=
    ⟨fun _ _ _ ha hb => ha.left_eq hfresh hb, fun _ _ _ hb hc => hb.right_eq hfresh hc⟩
  have hnodup : (others.map key).Nodup :=
    (List.rel_nodup hunique hkeys).mp (left.nodup_filter _)
  refine ⟨others, ?_, heach⟩
  apply (List.perm_ext_iff_of_nodup (right.nodup_rows.filter _) hnodup.of_map).mpr
  intro b
  rw [List.mem_filter, decide_eq_true_eq]
  constructor
  · rintro ⟨hb, hmine⟩
    obtain ⟨a, ha, howner, hsame⟩ := hmatches.back b hb hmine
    obtain ⟨c, hc, hother⟩ := hcovered a (List.mem_filter.mpr ⟨ha, by simpa using howner⟩)
    have hkey := SameId.right_eq hfresh (Twinned.sameId hother) (Twinned.sameId hsame)
    rwa [← Table.eq_of_key_eq (hothers c hc).1 hb hkey]
  · exact hothers b

end Matches

end Twins

end CashLedger
