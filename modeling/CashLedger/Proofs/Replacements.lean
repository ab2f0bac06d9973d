import CashLedger.Proofs.Alone
import CashLedger.Proofs.Filed

/-!
# Changing what is there and making it anew

An exchange or a debt may be changed, or it may be taken back and made anew with the other
amounts.  What both ways have in common does not depend on which of the two it is: with the same
movements they go through for the same stores and leave the same balances, and the rows that
neither touches stay.
-/

namespace CashLedger

/-- Records of one leg over one balance. -/
structure Record.SameLeg (left right : Record) : Prop where
  balanceId : left.balanceId = right.balanceId
  kind : left.kind = right.kind
  money : left.money = right.money

/-! ## Success -/

/-- One change goes through exactly if two do of which the second goes on where the first ends,
when the movements are the same and what is checked; and then both ways leave the same
balances. -/
theorem Tables.Enacted.replaces {α β γ : Type} {checked : Bool} {place : Places}
    {steps undone made : List Movement} {before between left right : Tables} {post : α → Prop}
    {post' : β → Prop} {post'' : β → γ → Prop} {updated : Except LedgerError α}
    {deleted : Except LedgerError β} {created : Except LedgerError γ}
    (hsteps : before.balances.accounts.moves steps =
      before.balances.accounts.moves (undone ++ made))
    (hupdated : Enacted checked place steps before left post updated)
    (hdeleted : Enacted true place undone before between post' deleted)
    (hcreated : ∀ {gone}, Moved place undone before between → post' gone →
      Enacted checked place made between right (post'' gone) created) :
    (updated.isOk ↔ deleted.isOk ∧ created.isOk) ∧
      ∀ changed, updated = .ok changed → ∃ gone renewed, created = .ok renewed ∧
        left.balances.accounts = right.balances.accounts ∧ between.place = place ∧
        post changed ∧ post' gone ∧ post'' gone renewed := by
  have hiff : updated.isOk ↔ deleted.isOk ∧ created.isOk := by
    rw [hupdated.isOk, hsteps, Accounts.moves_append]
    cases hdone : deleted with
    | error cause =>
      have hnone := hdeleted.isOk
      rw [hdone, Bool.true_and] at hnone
      rw [Option.isNone_iff_eq_none.mp (Option.isSome_eq_false_iff.mp hnone.symm),
        Option.bind_none, Option.isSome_none, Bool.and_false]
      exact ⟨nofun, fun h => h.1⟩
    | ok gone =>
      obtain ⟨hmoved, hgone⟩ := hdeleted.ok hdone
      rw [(hcreated hmoved hgone).isOk, hmoved.moves, Option.bind_some]
      exact (and_iff_right rfl).symm
  refine ⟨hiff, fun changed hchanged => ?_⟩
  obtain ⟨hdone, hmade⟩ := hiff.mp (hchanged ▸ rfl)
  obtain ⟨gone, hdone⟩ := Except.exists_eq_ok hdone
  obtain ⟨renewed, hmade⟩ := Except.exists_eq_ok hmade
  obtain ⟨hmovedLeft, hpost⟩ := hupdated.ok hchanged
  obtain ⟨hmoved, hgone⟩ := hdeleted.ok hdone
  obtain ⟨hmovedRight, hrenewed⟩ := (hcreated hmoved hgone).ok hmade
  have hbalances := hmovedLeft.moves
  rw [hsteps, Accounts.moves_append, hmoved.moves, Option.bind_some, hmovedRight.moves]
    at hbalances
  exact ⟨gone, renewed, hmade, (Option.some.inj hbalances).symm, hmoved.place_eq, hpost, hgone,
    hrenewed⟩

namespace Tables

/-! ## Rows that stay -/

section Apart

variable {owner owner' : RecordSource} {before between left right : Tables}

/-- The same rows but for what two owners have. -/
structure AlikeBut (owner owner' : RecordSource) (left right : Tables) : Prop where
  users : left.users = right.users
  records : ∀ record, record.source ≠ owner → record.source ≠ owner' →
    (record ∈ left.records.rows ↔ record ∈ right.records.rows)
  exchanges : ∀ id, owner ≠ .exchange id → owner' ≠ .exchange id →
    left.exchanges.find? id = right.exchanges.find? id
  debts : ∀ id, owner ≠ .debt id → owner' ≠ .debt id →
    left.debts.find? id = right.debts.find? id

/-- Records that are left when an owner has lost all that it had were there before. -/
theorem Apart.mem_of_none (hapart : Apart owner before between)
    (hnone : ∀ record ∈ between.records.rows, record.source ≠ owner) {record : Record}
    (hmem : record ∈ between.records.rows) : record ∈ before.records.rows :=
  (hapart.records record (hnone record hmem)).mp hmem

/-- An owner that has no records gets none by what another one does. -/
theorem Apart.none_of_none (hapart : Apart owner' between right) (hother : owner' ≠ owner)
    (hnone : ∀ record ∈ between.records.rows, record.source ≠ owner) :
    ∀ record ∈ right.records.rows, record.source ≠ owner := by
  intro record hmem hsource
  exact hnone record ((hapart.records record (hsource ▸ hother.symm)).mp hmem) hsource

theorem Apart.alikeBut (hleft : Apart owner before left) (hbetween : Apart owner before between)
    (hright : Apart owner' between right) (husers : left.users = right.users) :
    AlikeBut owner owner' left right where
  users := husers
  records record howner howner' := by
    rw [hleft.records record howner, hright.records record howner', hbetween.records record howner]
  exchanges id howner howner' := by
    rw [hleft.exchanges id howner, hright.exchanges id howner', hbetween.exchanges id howner]
  debts id howner howner' := by
    rw [hleft.debts id howner, hright.debts id howner', hbetween.debts id howner]

end Apart

end Tables

/-! ## At the end of the day -/

namespace Desk

theorem evening_reachableUnder : evening.ReachableUnder .standard .increasing :=
  (ReachableUnder.start _).run (by decide +kernel) (by decide +kernel)

end Desk

end CashLedger
