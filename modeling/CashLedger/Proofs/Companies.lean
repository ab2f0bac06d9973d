import CashLedger.Proofs.Accounts
import CashLedger.Proofs.Engine.Companies
import CashLedger.Proofs.Redone

/-!
# Records and the companies of their balances

A user may come back with another company.  Balances that are opened from then on are of the new
company, and those that there are stay with the old one; a record that is posted is of the company
of its balance.  Only one thing parts a record from the company of its balance: being moved, by a
change of the record or of its exchange, to a balance of the user's other company.
-/

namespace CashLedger

/-- A record of the user and the company of some balance. -/
def Record.Homed (balances : Table Balance) (record : Record) : Prop :=
  ∃ home ∈ balances.rows, home.userId = record.userId ∧ home.companyId = record.companyId

/-- All balances of a user are of one company. -/
def Table.OneCompany (balances : Table Balance) (user : UserId) : Prop :=
  ∀ left ∈ balances.rows, ∀ right ∈ balances.rows, left.userId = user → right.userId = user →
    left.companyId = right.companyId

namespace Record

variable {balances after : Table Balance} {record before : Record}

theorem Carries.homed (hcarries : record.Carries balances) : record.Homed balances := by
  obtain ⟨balance, hfind, hsame⟩ := hcarries
  exact ⟨balance, Table.mem_of_find? hfind, hsame⟩

theorem Homed.later (hhomed : record.Homed balances) (hkeeps : balances.KeepsAccounts after) :
    record.Homed after := by
  obtain ⟨home, hmem, huser, hcompany⟩ := hhomed
  obtain ⟨now, hnow, hsame⟩ := hkeeps home hmem
  exact ⟨now, hnow, hsame.userId.trans huser, hsame.companyId.trans hcompany⟩

theorem Homed.of_sameHome (hhomed : before.Homed balances) (hsame : before.SameHome record) :
    record.Homed balances := by
  obtain ⟨home, hmem, huser, hcompany⟩ := hhomed
  exact ⟨home, hmem, huser.trans hsame.userId.symm, hcompany.trans hsame.companyId.symm⟩

/-- With one company to choose from, the record is of the company of its balance. -/
theorem Homed.carries (hhomed : record.Homed balances)
    (hplaced : ∃ balance, balances.find? record.balanceId = some balance ∧
      balance.userId = record.userId)
    (hone : balances.OneCompany record.userId) : record.Carries balances := by
  obtain ⟨home, hhome, huser, hcompany⟩ := hhomed
  obtain ⟨balance, hfind, howner⟩ := hplaced
  have hsame := hone balance (Table.mem_of_find? hfind) home hhome howner huser
  exact ⟨balance, hfind, howner, hsame.trans hcompany⟩

end Record

namespace Session

variable {promise : Promise} {session : Session} {shared next : Tables} {last : Course}
  {value : session.request.Answer}

theorem Redone.attributed (hredone : session.Redone promise shared next value last)
    (hchange : session.request.isChange = true) :
    next.Attributed session.request.Reposts shared.records := by
  have hattributed := Request.attributed hchange hredone.performs
  intro record hmem
  rcases hattributed record (hredone.same.records.mem_iff.mp hmem) with
    hold | ⟨balance, hfind, hsame⟩ | hmoved
  · exact .inl hold
  · exact .inr (.inl ⟨balance, (hredone.same.balances _).trans hfind, hsame⟩)
  · exact .inr (.inr hmoved)

end Session

namespace Desk

variable {promise : Promise} {desk : Desk}

/-- What a turn may move from one balance to another: records that the request of an ending
session reposts. -/
def Reposts (desk : Desk) : Turn → Record → Prop
  | .ends place, record => ∃ session, desk.sessions[place]? = some session ∧
      session.request.Reposts record
  | _, _ => False

theorem Reachable.keepsAccounts (hreachable : desk.Reachable promise) {turn : Turn}
    (hallows : desk.Allows promise turn) :
    desk.shared.balances.KeepsAccounts (desk.turn turn).shared.balances :=
  (hreachable.orderly.turn (hreachable.sound.opensAnew hallows)).2

theorem Sound.attributed (hsound : desk.Sound promise) {turn : Turn}
    (hallows : desk.Allows promise turn) :
    (desk.turn turn).shared.Attributed (desk.Reposts turn) desk.shared.records := by
  cases turn with
  | opens limits request moment uuid => exact .start _ desk.shared
  | joins user => exact .start _ desk.shared
  | ends place =>
    simp only [Desk.turn]
    split
    · next session hsession =>
      have hcurrent := hsound.sessions session (List.mem_of_getElem? hsession)
      unfold Desk.ended
      split
      · next value last next hending =>
        obtain ⟨-, hfinish⟩ := Session.ending?_eq_some_iff.mp hending
        cases hchange : session.request.isChange with
        | true =>
          obtain ⟨_, hredone⟩ :=
            hcurrent.redone hsound.shared hchange (hallows session hsession) hfinish
          intro record hmem
          rcases hredone.attributed hchange record hmem with hold | hcarries | ⟨hmoved, hbefore⟩
          · exact .inl hold
          · exact .inr (.inl hcarries)
          · exact .inr (.inr ⟨⟨session, hsession, hmoved⟩, hbefore⟩)
        | false =>
          obtain ⟨-, _, -, hended⟩ := Session.finish_eq_ok_iff.mp hfinish
          rw [hchange] at hended
          subst hended
          exact .start _ desk.shared
      · next hending =>
        rw [Session.finish_of_ending?_eq_none hending]
        exact .start _ desk.shared
    · exact .start _ desk.shared

theorem Reachable.homed (hreachable : desk.Reachable promise) :
    ∀ record ∈ desk.shared.records.rows, record.Homed desk.shared.balances := by
  induction hreachable with
  | start users => exact nofun
  | turn turn hreachable hallows ih =>
    have hkeeps := hreachable.keepsAccounts hallows
    intro record hmem
    rcases hreachable.sound.attributed hallows record hmem with
      hold | hcarries | ⟨-, before, hbefore, hsame⟩
    · exact (ih record hold).later hkeeps
    · exact hcarries.homed
    · exact ((ih before hbefore).later hkeeps).of_sameHome hsame

/-- A record is of a company that one of its user's balances is of, so of that of its own balance
if there is no other.  It comes to differ from its balance in just one way: the session that ends
moves it, and it keeps the company that it had. -/
theorem reachable_attributed (hreachable : desk.Reachable promise) :
    (∀ record ∈ desk.shared.records.rows, record.Homed desk.shared.balances ∧
      (desk.shared.balances.OneCompany record.userId → record.Carries desk.shared.balances)) ∧
    ∀ turn, desk.Allows promise turn → ∀ record ∈ (desk.turn turn).shared.records.rows,
      ¬ record.Carries (desk.turn turn).shared.balances →
        record ∈ desk.shared.records.rows ∧ ¬ record.Carries desk.shared.balances ∨
          desk.Reposts turn record ∧
            ∃ before ∈ desk.shared.records.rows, before.SameHome record := by
  refine ⟨fun record hmem => ?_, fun turn hallows record hmem hstray => ?_⟩
  · have hhomed := hreachable.homed record hmem
    obtain ⟨balance, hfind, huser, -⟩ := hreachable.consistent.balanced.placed record hmem
    exact ⟨hhomed, hhomed.carries ⟨balance, hfind, huser⟩⟩
  · rcases hreachable.sound.attributed hallows record hmem with hold | hcarries | hmoved
    · have hkeeps := hreachable.keepsAccounts hallows
      exact .inl ⟨hold, fun hcarries => hstray (hcarries.later hkeeps)⟩
    · exact absurd hcarries hstray
    · exact .inr hmoved

/-- The cashier has come to another company, and has a balance with each. -/
def relocated : Desk :=
  run { shared := { users := Table.empty.insert cashier } }
    [opens 1 (.openBalance cashier.id ⟨"USD"⟩), .ends 0,
     .joins { cashier with companyId := ⟨⟨3⟩⟩ },
     opens 2 (.openBalance cashier.id ⟨"EUR"⟩), .ends 0,
     opens 3 (.postBalanceRecord cashier.id .buy ⟨100, ⟨"USD"⟩⟩ none), .ends 0]

theorem relocated_reachable : relocated.Reachable .increasing :=
  (Reachable.start _).run (by decide +kernel)

/-- What came in with the old company is put down to the balance with the new one. -/
def reassigned : Desk := relocated.run [opens 4 (.updateRecord ⟨⟨3000⟩⟩ .buy ⟨50, ⟨"EUR"⟩⟩)]

theorem reassigned_reachable : reassigned.Reachable .increasing :=
  relocated_reachable.run ⟨trivial, trivial⟩

theorem attributed_reassigned :
    (∀ record ∈ reassigned.shared.records.rows, record.Homed reassigned.shared.balances) ∧
      reassigned.Allows .increasing (.ends 0) ∧
      ∀ record ∈ (reassigned.turn (.ends 0)).shared.records.rows,
        ¬ record.Carries (reassigned.turn (.ends 0)).shared.balances →
          record ∈ reassigned.shared.records.rows ∧
              ¬ record.Carries reassigned.shared.balances ∨
            reassigned.Reposts (.ends 0) record ∧
              ∃ before ∈ reassigned.shared.records.rows, before.SameHome record := by
  have hallows : reassigned.Allows .increasing (.ends 0) := by decide +kernel
  obtain ⟨hrecords, hturns⟩ := reachable_attributed reassigned_reachable
  exact ⟨fun record hmem => (hrecords record hmem).1, hallows, hturns (.ends 0) hallows⟩

/-- A record that was moved is of another company than its balance. -/
theorem exists_stray_company :
    ∃ desk : Desk, desk.Reachable .increasing ∧ ∃ record ∈ desk.shared.records.rows,
      ∃ balance ∈ desk.shared.balances.rows, balance.id = record.balanceId ∧
        balance.companyId ≠ record.companyId := by
  refine ⟨reassigned.turn (.ends 0), reassigned_reachable.turn _ (by decide +kernel), ?_⟩
  decide +kernel

end Desk

end CashLedger
