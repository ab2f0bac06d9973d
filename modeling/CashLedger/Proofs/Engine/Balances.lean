import CashLedger.Proofs.Engine.Outcome

/-!
# Opening a balance

A new balance is empty, and its owner has no other in its currency.
-/

namespace CashLedger.Engine

open Work

variable {promise : Promise} {snapshot : Tables} {supply : Supply} {last : Course}

theorem settled_openBalance (hopening : Opening promise snapshot last) {user : UserId}
    {currency : Currency} {opened : Balance}
    (hperform : (openBalance user currency).work.perform (.start snapshot supply) =
      .ok (opened, last)) :
    ∃ owner, Mandate.Settled promise ⟨snapshot, owner, last⟩ := by
  obtain ⟨owner, _, hfind, hrest⟩ := perform_bind_eq_ok.mp hperform
  obtain ⟨-, rfl⟩ := Posting.perform_findUser_eq_ok.mp hfind
  obtain ⟨now, _, hnow, hrest⟩ := perform_bind_eq_ok.mp hrest
  obtain ⟨-, rfl⟩ := perform_now_eq_ok.mp hnow
  obtain ⟨id, _, hdraw, hrest⟩ := perform_bind_eq_ok.mp hrest
  obtain ⟨rfl, rfl⟩ := perform_newId_eq_ok.mp hdraw
  obtain ⟨_, _, hask, hpure⟩ := perform_bind_eq_ok.mp hrest
  obtain ⟨unit, hanswer, rfl⟩ := perform_ask_eq_ok.mp hask
  obtain ⟨hfree, rfl⟩ := MemoryUnit.createBalance_eq_ok.mp hanswer
  obtain ⟨-, hlast⟩ := perform_pure_eq_ok.mp hpure
  have hstart := hopening.standing .manual supply
  have hstanding := (hstart.answered (.userById user) _ rfl trivial).clocked.drew
  have hdrawn : supply.uuid supply.issued ∈ last.supply.drawn := by
    subst hlast
    exact (Supply.Leads.refl supply.draw.2).draw_mem
  have hnew : snapshot.balances.find? ⟨supply.uuid supply.issued⟩ = none :=
    (hopening.mandate_fresh .manual).balance hdrawn
  refine ⟨.manual, .of_free rfl ?_ ?_ ?_⟩
  · subst hlast
    apply Course.within_answered hstanding.calls
    refine ⟨hdrawn, hfree, MemoryUnit.mem_balanceIds_writeBalance _ _ _, ?_⟩
    exact Table.find?_insert_self snapshot.balances _
  · subst hlast
    apply hopening.consistent.balanced.open_zero hnew
    intro balance hmem huser hcurrency
    rw [Tables.balanceFor, List.find?_eq_none] at hfree
    exact hfree balance hmem (by simp [huser, hcurrency, Balance.zero])
  · subst hlast
    exact hopening.consistent.owed

end CashLedger.Engine
