import CashLedger.Proofs.Desk

/-!
# A change made over again

A change that goes through was worked out on a snapshot, and the shared tables may have moved
on since.  It could as well have been made on the shared tables as they were met at the end, but
for users who have been added; and these tables then come to what was worked out on them.
-/

namespace CashLedger

/-- The course that a change takes on the shared tables, and the tables that it leaves. -/
structure Session.Redone (promise : Promise) (session : Session) (shared next : Tables)
    (value : session.request.Answer) (last : Course) : Prop where
  opening : Opening promise { shared with users := session.snapshot.users } last
  performs : session.operation.work.perform
    (.start { shared with users := session.snapshot.users } session.supply) = .ok (value, last)
  same : Tables.Same { next with users := session.snapshot.users } last.unit.working
  users : next.users = shared.users

namespace Session

variable {promise : Promise} {session : Session} {used : List Uuid} {shared next : Tables}
  {value : session.request.Answer}

theorem Current.redone (hcurrent : session.Current promise used shared)
    (hshared : shared.Sound promise used) (hchange : session.request.isChange = true)
    (hregular : session.Regular shared promise used)
    (hfinish : session.finish shared = (.ok value, next)) :
    ∃ last, session.Redone promise shared next value last := by
  have husers := finish_users hfinish
  obtain ⟨hcheck, last, hcourse, hended⟩ := finish_eq_ok_iff.mp hfinish
  have hlast : last.Regular promise used :=
    hregular _ (ending?_eq_some_iff.mpr ⟨hcourse, hfinish⟩)
  rw [if_pos hchange] at hended
  obtain ⟨unit, hreplayed, hcommit⟩ :=
    hcurrent.replay hshared hchange hcheck hcourse hlast hended
  obtain ⟨-, rfl⟩ := MemoryUnit.commit_eq_ok_iff.mp hcommit
  have hstart := hshared.withUsers session.snapshot.users
  have hlast' : Course.Regular promise used { last with unit } := { hlast with }
  have hpublished := @publish_same promise
    (session.on { shared with users := session.snapshot.users }) used _ value hstart hchange
    hcheck hreplayed hlast'
  exact ⟨_, hstart.opening hlast', hreplayed, hpublished, husers⟩

end Session

end CashLedger
