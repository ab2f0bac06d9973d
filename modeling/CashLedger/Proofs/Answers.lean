import CashLedger.Proofs.Engine.Answers
import CashLedger.Proofs.Redone

/-!
# What is answered is what is stored

Whoever else is at work on a desk, a change that goes through answers rows as the shared tables
have them right after its commit: with the versions and times that they are stored with, and for a
debt with all the records that a query then lists for it.
-/

namespace CashLedger

/-- Asked for the records of a debt, the store lists them. -/
theorem Engine.recordsForDebt_run (id : DebtId) (world : World Tables) :
    ((recordsForDebt id).run Memory.backend world).1 =
      .ok (world.store.recordsWhere (Record.isOfDebt id)) := by
  have hperform : (recordsForDebt id).work.perform (.start world.store world.supply) = _ :=
    (Work.perform_read_eq_ok rfl).mpr ⟨rfl, rfl⟩
  have hrun := Operation.run_memory (recordsForDebt id) world rfl
  rw [Operation.conclude_memory, hperform] at hrun
  exact congrArg Prod.fst hrun

/-- A query for the records of the debt gives those of the posting, and in their order if new
records are promised to be younger. -/
def DebtPosting.IsListed (promise : Promise) (posting : DebtPosting) (tables : Tables) : Prop :=
  ∀ world : World Tables, world.store = tables → ∃ listed,
    ((Engine.recordsForDebt posting.debt.id).run Memory.backend world).1 = .ok listed ∧
      listed.Perm posting.records ∧ (promise = .increasing → listed = posting.records)

theorem DebtPosting.Entire.isListed {promise : Promise} {posting : DebtPosting} {tables : Tables}
    (hentire : posting.Entire promise tables) : posting.IsListed promise tables := by
  rintro world rfl
  exact ⟨_, Engine.recordsForDebt_run _ world, hentire.perm, hentire.listed⟩

namespace Session

variable {promise : Promise} {session : Session} {shared next : Tables} {last : Course}
  {value : session.request.Answer}

theorem Redone.truthful (hredone : session.Redone promise shared next value last)
    (hchange : session.request.isChange = true) :
    session.request.Truthful promise shared value next := by
  have htruthful := Request.truthful hchange hredone.opening hredone.same hredone.performs
  exact
    { rows := { htruthful.rows with }
      deleted := htruthful.deleted
      postings := fun posting hposting => { htruthful.postings posting hposting with } }

end Session

namespace Desk

variable {promise : Promise} {desk : Desk}

/-- Of a change that goes through, whatever others have done since it was opened: each row of the
answer is the one that its commit leaves under that identifier; an exchange that was deleted is
answered as it was stored, and is stored no more; and the records of a debt that was posted are
those that are listed for it from then on. -/
theorem reachable_truthful (hreachable : desk.Reachable promise) {place : Nat}
    {session : Session} (hsession : desk.sessions[place]? = some session)
    (hallows : desk.Allows promise (.ends place)) (hchange : session.request.isChange = true)
    {value : session.request.Answer} {next : Tables}
    (hfinish : session.finish desk.shared = (.ok value, next)) :
    (session.request.rows value).StoredIn next ∧
      (∀ exchange ∈ session.request.deleted? value,
        desk.shared.exchanges.find? exchange.id = some exchange ∧
          next.exchanges.find? exchange.id = none) ∧
      ∀ posting ∈ session.request.posting? value, posting.IsListed promise next := by
  have hsound := hreachable.sound
  have hcurrent := hsound.sessions session (List.mem_of_getElem? hsession)
  obtain ⟨last, hredone⟩ :=
    hcurrent.redone hsound.shared hchange (hallows session hsession) hfinish
  have htruthful := hredone.truthful hchange
  exact ⟨htruthful.rows, htruthful.deleted,
    fun posting hposting => (htruthful.postings posting hposting).isListed⟩

/-- Some of the debt of the day comes back while another exchange is made. -/
def reckoning : Desk :=
  evening.run [opens 9 (.createExchange ⟨cashier.id, ⟨3, ⟨"EUR"⟩⟩, ⟨5, ⟨"USD"⟩⟩, none⟩),
    opens 10 (.settleDebt
      ⟨lent.debtorId, .borrow, ⟨20, ⟨"EUR"⟩⟩, [⟨10, ⟨"USD"⟩⟩, ⟨5, ⟨"USD"⟩⟩], none⟩)]

theorem truthful_reckoning :
    ∃ exchanging settling, reckoning.sessions = [settling, exchanging] ∧
      (exchanging.finish reckoning.shared).1.isOk ∧ (settling.finish reckoning.shared).1.isOk ∧
      (∀ value next, exchanging.finish reckoning.shared = (.ok value, next) →
        (exchanging.request.rows value).StoredIn next) ∧
      ∀ value next, settling.finish reckoning.shared = (.ok value, next) →
        (settling.request.rows value).StoredIn next ∧
          ∀ posting ∈ settling.request.posting? value, posting.IsListed .increasing next := by
  have hreachable : reckoning.Reachable .increasing :=
    (evening_reachable _).run ⟨trivial, trivial, trivial⟩
  refine ⟨_, _, rfl, by decide +kernel, by decide +kernel, fun value next hfinish => ?_,
    fun value next hfinish => ?_⟩
  · exact (@reachable_truthful _ _ hreachable 1 _ rfl (by decide +kernel) rfl _ _ hfinish).1
  · obtain ⟨hrows, -, hpostings⟩ :=
      @reachable_truthful _ _ hreachable 0 _ rfl (by decide +kernel) rfl _ _ hfinish
    exact ⟨hrows, hpostings⟩

end Desk

end CashLedger
