import CashLedger.Proofs.Engine.Balances
import CashLedger.Proofs.Engine.Debts
import CashLedger.Proofs.Engine.Exchanges
import CashLedger.Proofs.Engine.Records
import CashLedger.Proofs.Store.Follows

/-!
# Sessions

A session is an operation on its way in a store in memory.  Its unit was opened on
a snapshot of the shared tables and works there, drawing from a supply of its own;
when the session ends, it meets the shared tables as they have become.  A change
that goes through then has the same result, and leaves the same tables, as if it
had been made there from the start.
-/

namespace CashLedger

open Work

/-! ## Changes -/

/-- A change that is done has settled what it was to do. -/
theorem Request.settled {promise : Promise} {limits : Limits} {request : Request}
    {snapshot : Tables} {supply : Supply} {value : request.Answer} {last : Course}
    (hchange : request.isChange = true) (hopening : Opening promise snapshot last)
    (hcheck : (request.operation limits).check = .ok ())
    (hperform : (request.operation limits).work.perform (.start snapshot supply) =
      .ok (value, last)) :
    ∃ owner, Mandate.Settled promise ⟨snapshot, owner, last⟩ := by
  cases request with
  | openBalance user currency => exact Engine.settled_openBalance hopening hperform
  | performBalanceRecord wanted => exact Engine.settled_performBalanceRecord hopening hperform
  | postBalanceRecord user kind money details =>
    exact Engine.settled_postBalanceRecord hopening hperform
  | rollbackRecord id => exact Engine.settled_rollbackRecord hopening hperform
  | updateRecord id kind money => exact Engine.settled_updateRecord hopening hperform
  | createExchange wanted => exact Engine.settled_createExchange hopening hperform
  | updateExchange id amounts => exact Engine.settled_updateExchange hopening hperform
  | deleteExchange id => exact Engine.settled_deleteExchange hopening hperform
  | createDebt wanted => exact Engine.settled_createDebt hopening hcheck hperform
  | settleDebt wanted => exact Engine.settled_settleDebt hopening hcheck hperform
  | updateDebt id amounts => exact Engine.settled_updateDebt hopening hcheck hperform
  | deleteDebt id => exact Engine.settled_deleteDebt hopening hperform
  | _ => cases hchange

/-! ## How an operation ends in memory -/

namespace Operation

variable {α : Type} {operation : Operation α}

/-- What is answered, and what becomes of the shared tables, once the work is over. -/
def outcome (purpose : Purpose) (done : Except LedgerError (α × Course)) (shared : Tables) :
    Except LedgerError α × Tables :=
  match done, purpose with
  | .error cause, _ => (.error cause, shared)
  | .ok (value, _), .query => (.ok value, shared)
  | .ok (value, last), .change =>
    match last.unit.commit shared with
    | .ok next => (.ok value, next)
    | .error cause => (.error cause, shared)

/-- Whatever fails leaves the shared tables alone. -/
theorem eq_of_outcome_error {purpose : Purpose} {done : Except LedgerError (α × Course)}
    {shared next : Tables} {cause : LedgerError}
    (houtcome : outcome purpose done shared = (.error cause, next)) : next = shared := by
  cases done with
  | error other => exact (Prod.mk.inj houtcome).2.symm
  | ok result =>
    cases purpose with
    | query => cases houtcome
    | change =>
      simp only [outcome] at houtcome
      cases hcommit : result.2.unit.commit shared with
      | ok published =>
        rw [hcommit] at houtcome
        cases houtcome
      | error other =>
        rw [hcommit] at houtcome
        exact (Prod.mk.inj houtcome).2.symm

theorem notes_memory (events : List Event) (world : World Tables) :
    Memory.backend.notes events world = { world with log := world.log ++ events } := by
  induction events generalizing world with
  | nil => simp [Backend.notes]
  | cons event rest ih =>
    have hrest := ih (Memory.backend.note event world)
    simp only [Backend.notes, List.foldl_cons] at hrest ⊢
    rw [hrest]
    simp [Memory.backend, World.note]

/-- The work in an open unit and the end of that unit. -/
def conclude (operation : Operation α) (snapshot : Tables) (world : World Tables) :
    Except LedgerError α × World Tables :=
  let (result, unit, world) := operation.work.run Memory.backend ⟨snapshot, {}⟩ world
  operation.close Memory.backend result unit world

theorem conclude_memory (operation : Operation α) (snapshot : Tables)
    (world : World Tables) :
    Prod.map id World.store (operation.conclude snapshot world) =
      outcome operation.purpose
        (operation.work.perform (.start snapshot world.supply)) world.store := by
  cases hperform : operation.work.perform (.start snapshot world.supply) with
  | error cause =>
    obtain ⟨unit, supply, hrun⟩ := @run_of_perform_error α _ _ _ world hperform rfl
    simp only [Course.start] at hrun
    simp only [conclude, hrun, close, outcome]
    cases operation.purpose <;> rfl
  | ok done =>
    obtain ⟨value, last⟩ := done
    have hrun := @run_of_perform_ok α _ _ _ _ world hperform rfl
    simp only [Course.start] at hrun
    simp only [conclude, hrun, close]
    cases operation.purpose with
    | query => rfl
    | change =>
      simp only [settle, outcome, Memory.backend]
      cases last.unit.commit world.store <;> rfl

/-- Alone, an operation opens its unit on the tables that it meets at the end. -/
theorem run_memory (operation : Operation α) (world : World Tables)
    (hcheck : operation.check = .ok ()) :
    Prod.map id World.store (operation.run Memory.backend world) =
      Prod.map id World.store (operation.conclude world.store
        { world with log := world.log ++ operation.opening }) := by
  have hbegin : ∀ world, Memory.backend.begin world = (.ok ⟨world.store, {}⟩, world) :=
    fun _ => rfl
  simp only [run, hcheck, notes_memory, hbegin, conclude]
  generalize operation.close Memory.backend _ _ _ = ended
  obtain ⟨_ | value, world⟩ := ended <;> rfl

end Operation

/-! ## Sessions -/

/-- A request, the tables its unit was opened on, and what the clock and the source of
new identifiers give it. -/
structure Session where
  limits : Limits
  request : Request
  snapshot : Tables
  moment : Nat → Timestamp
  uuid : Nat → Uuid

namespace Session

variable (session : Session)

def operation : Operation session.request.Answer := session.request.operation session.limits

/-- Nothing has been taken from it yet. -/
def supply : Supply where
  moment := session.moment
  uuid := session.uuid

/-- Ends the session on the shared tables. -/
def finish (shared : Tables) : Except LedgerError session.request.Answer × Tables :=
  match session.operation.check with
  | .error cause => (.error cause, shared)
  | .ok () =>
    Prod.map id World.store
      (session.operation.conclude session.snapshot ⟨shared, session.supply, []⟩)

/-- The same operation on its own. -/
def runAlone (tables : Tables) : Except LedgerError session.request.Answer × Tables :=
  Prod.map id World.store
    (session.operation.run Memory.backend ⟨tables, session.supply, []⟩)

/-- The work of the session, as far as its unit and supply go. -/
def course : Except LedgerError (session.request.Answer × Course) :=
  session.operation.work.perform (.start session.snapshot session.supply)

/-- The same session, opened on other tables. -/
def on (tables : Tables) : Session := { session with snapshot := tables }

variable {session} {shared next : Tables} {value : session.request.Answer}

theorem finish_eq (hcheck : session.operation.check = .ok ()) :
    session.finish shared =
      Operation.outcome session.operation.purpose session.course shared := by
  simp only [finish, hcheck, Operation.conclude_memory]
  rfl

theorem outcome_eq_ok_iff {done : Except LedgerError (session.request.Answer × Course)} :
    Operation.outcome session.operation.purpose done shared = (.ok value, next) ↔
      ∃ last, done = .ok (value, last) ∧
        if session.request.isChange then last.unit.commit shared = .ok next
        else next = shared := by
  simp only [operation, Request.purpose_operation]
  cases done with
  | error cause => simp [Operation.outcome]
  | ok result =>
    obtain ⟨found, last⟩ := result
    cases session.request.isChange with
    | false => simp [Operation.outcome, @eq_comm _ next]
    | true =>
      simp only [Operation.outcome, if_true]
      cases hcommit : last.unit.commit shared <;> simp [hcommit]

/-- A session that ends well has done its work, and its unit was committed if it makes
a change. -/
theorem finish_eq_ok_iff :
    session.finish shared = (.ok value, next) ↔
      session.operation.check = .ok () ∧ ∃ last, session.course = .ok (value, last) ∧
        if session.request.isChange then last.unit.commit shared = .ok next
        else next = shared := by
  cases hcheck : session.operation.check with
  | error cause => simp [finish, hcheck]
  | ok _ =>
    rw [finish_eq hcheck, outcome_eq_ok_iff]
    exact ⟨fun h => ⟨rfl, h⟩, And.right⟩

/-- A session that ends with an error leaves the shared tables alone. -/
theorem eq_of_finish_error {cause : LedgerError}
    (hfinish : session.finish shared = (.error cause, next)) : next = shared := by
  cases hcheck : session.operation.check with
  | error other =>
    simp only [finish, hcheck, Prod.mk.injEq] at hfinish
    exact hfinish.2.symm
  | ok _ =>
    rw [finish_eq hcheck] at hfinish
    exact Operation.eq_of_outcome_error hfinish

theorem finish_users (hfinish : session.finish shared = (.ok value, next)) :
    next.users = shared.users := by
  obtain ⟨-, last, -, hended⟩ := finish_eq_ok_iff.mp hfinish
  split at hended
  · obtain ⟨-, rfl⟩ := MemoryUnit.commit_eq_ok_iff.mp hended
    exact last.unit.publish_users shared
  · rw [hended]

/-- Alone, a session is opened on the tables that it ends on. -/
theorem runAlone_eq (session : Session) (tables : Tables) :
    session.runAlone tables = (session.on tables).finish tables := by
  cases hcheck : session.operation.check with
  | error cause =>
    have hon : (session.on tables).operation.check = .error cause := hcheck
    simp only [runAlone, finish, hon, Operation.run, hcheck, Operation.notes_memory]
    rfl
  | ok _ =>
    have hon : (session.on tables).operation.check = .ok () := hcheck
    simp only [runAlone, finish, hon, Operation.run_memory _ _ hcheck,
      Operation.conclude_memory]
    rfl

end Session

/-! ## At the commit of a change -/

/-- Consistent tables all of whose identifiers are in use. -/
structure Tables.Sound (promise : Promise) (used : List Uuid) (tables : Tables) : Prop where
  consistent : tables.Consistent promise
  known : tables.IdsIn (· ∈ used)

theorem Tables.IdsIn.imp {tables : Tables} {allowed other : Uuid → Prop}
    (hids : tables.IdsIn allowed) (himp : ∀ uuid, allowed uuid → other uuid) :
    tables.IdsIn other where
  balances id row hfind := himp _ (hids.balances id row hfind)
  records id row hfind := himp _ (hids.records id row hfind)
  exchanges id row hfind := himp _ (hids.exchanges id row hfind)
  debtors id row hfind := himp _ (hids.debtors id row hfind)
  debts id row hfind := himp _ (hids.debts id row hfind)

/-- Which rows there are under a key is all that counts. -/
theorem Tables.IdsIn.congr {left right : Tables} {allowed : Uuid → Prop}
    (hids : left.IdsIn allowed) (hsame : right.Same left) : right.IdsIn allowed where
  balances id row hfind := hids.balances id row ((hsame.balances id).symm.trans hfind)
  records id row hfind := hids.records id row ((hsame.records id).symm.trans hfind)
  exchanges id row hfind := hids.exchanges id row ((hsame.exchanges id).symm.trans hfind)
  debtors id row hfind := hids.debtors id row ((hsame.debtors id).symm.trans hfind)
  debts id row hfind := hids.debts id row ((hsame.debts id).symm.trans hfind)

/-- Who the users are does not count. -/
theorem Tables.Sound.withUsers {promise : Promise} {used : List Uuid} {tables : Tables}
    (hsound : tables.Sound promise used) (users : Table User) :
    Tables.Sound promise used { tables with users } where
  consistent := hsound.consistent.congr (.refl _) (.refl _) (.refl _) (.refl _) (.refl _)
  known := { hsound.known with }

/-- Of a course: its supply has kept what is promised and given out what is not in use,
and no version has overflowed, for no row that it updated was at the last one. -/
structure Course.Regular (promise : Promise) (used : List Uuid) (last : Course) : Prop where
  keeps : last.supply.Keeps promise
  fresh : ∀ uuid ∈ last.supply.drawn, uuid ∉ used
  room : ∀ request ∈ last.calls, request.HasRoom

instance (promise : Promise) (used : List Uuid) (last : Course) :
    Decidable (last.Regular promise used) :=
  decidable_of_iff
    (last.supply.Keeps promise ∧ (∀ uuid ∈ last.supply.drawn, uuid ∉ used) ∧
      ∀ request ∈ last.calls, request.HasRoom)
    ⟨fun h => ⟨h.1, h.2.1, h.2.2⟩, fun h => ⟨h.keeps, h.fresh, h.room⟩⟩

theorem Tables.Sound.opening {promise : Promise} {used : List Uuid} {tables : Tables}
    {last : Course} (hsound : tables.Sound promise used)
    (hregular : last.Regular promise used) : Opening promise tables last where
  consistent := hsound.consistent
  keeps := hregular.keeps
  fresh := hsound.known.imp fun uuid hused hdrawn => hregular.fresh uuid hdrawn hused

namespace Session

/-- A session on sound tables that the shared ones have followed since. -/
structure Current (promise : Promise) (used : List Uuid) (shared : Tables)
    (session : Session) : Prop where
  sound : session.snapshot.Sound promise used
  follows : session.snapshot.Follows shared

section Commit

variable {promise : Promise} {session : Session} {used : List Uuid}
  {shared next : Tables} {last : Course} {value : session.request.Answer}

/-- A change on sound tables has settled what it was to do, and has written nothing else. -/
theorem exists_settled (hsound : session.snapshot.Sound promise used)
    (hchange : session.request.isChange = true)
    (hcheck : session.operation.check = .ok ())
    (hcourse : session.course = .ok (value, last)) (hregular : last.Regular promise used) :
    ∃ owner, Mandate.Settled promise ⟨session.snapshot, owner, last⟩ ∧
      MemoryUnit.Tracks session.snapshot last.unit ∧
      MemoryUnit.Confined ⟨session.snapshot, owner, last⟩ last.unit := by
  have hopening := hsound.opening hregular
  obtain ⟨owner, hsettled⟩ := Request.settled hchange hopening hcheck hcourse
  exact ⟨owner, hsettled, hsettled.fulfilled.tracks_confined (hopening.mandate_fresh owner)
    hregular.room hcourse⟩

/-- On the tables that a change was opened on it publishes just what it worked out. -/
theorem publish_same (hsound : session.snapshot.Sound promise used)
    (hchange : session.request.isChange = true)
    (hcheck : session.operation.check = .ok ())
    (hcourse : session.course = .ok (value, last)) (hregular : last.Regular promise used) :
    (last.unit.publish session.snapshot).Same last.unit.working := by
  obtain ⟨-, -, htracks, -⟩ := exists_settled hsound hchange hcheck hcourse hregular
  exact htracks.publish_same

/-- What a change on sound tables publishes there. -/
theorem publish_sound (hsound : session.snapshot.Sound promise used)
    (hchange : session.request.isChange = true)
    (hcheck : session.operation.check = .ok ())
    (hcourse : session.course = .ok (value, last)) (hregular : last.Regular promise used) :
    (last.unit.publish session.snapshot).Sound promise (used ++ last.supply.drawn) ∧
      session.snapshot.Follows (last.unit.publish session.snapshot) := by
  obtain ⟨owner, hsettled, htracks, hconfined⟩ :=
    exists_settled hsound hchange hcheck hcourse hregular
  have hconsistent := hsettled.consistent hsound.consistent htracks hconfined
  have hknown := hsettled.fulfilled.idsIn
    (hsound.known.imp fun uuid hused => List.mem_append_left _ hused)
    (fun uuid hdrawn => List.mem_append_right _ hdrawn) hcourse
  have hsame := htracks.publish_same
  refine ⟨⟨?_, ?_⟩, ?_⟩
  · exact hconsistent.congr hsame.balances.symm hsame.records.symm hsame.exchanges.symm
      hsame.debtors.symm hsame.debts.symm
  · exact hknown.congr hsame
  · exact hsettled.fulfilled.follows_publish hsound.consistent htracks hconfined

/-- At its commit a change could be made over again on the shared tables, but for users
that have been added, and would come to the same. -/
theorem Current.replay (hcurrent : session.Current promise used shared)
    (hshared : shared.Sound promise used) (hchange : session.request.isChange = true)
    (hcheck : session.operation.check = .ok ())
    (hcourse : session.course = .ok (value, last)) (hregular : last.Regular promise used)
    (hcommit : last.unit.commit shared = .ok next) :
    ∃ unit, (session.on { shared with users := session.snapshot.users }).course =
        .ok (value, { last with unit }) ∧ unit.commit shared = .ok next := by
  have hopening := hcurrent.sound.opening hregular
  obtain ⟨owner, hsettled, htracks, -⟩ :=
    exists_settled hcurrent.sound hchange hcheck hcourse hregular
  have hpasses : Mandate.Passes promise ⟨session.snapshot, owner, last⟩ shared :=
    { fulfilled := hsettled.fulfilled
      tracks := htracks
      consistent := hcurrent.sound.consistent
      shared_consistent := hshared.consistent
      follows := hcurrent.follows
      check := (MemoryUnit.commit_eq_ok_iff.mp hcommit).1
      new := (hshared.opening hregular).fresh }
  have hagree := hpasses.agree (hopening.mandate_fresh owner)
  have halike : MemoryUnit.Alike last.calls ⟨session.snapshot, {}⟩
      ⟨{ shared with users := session.snapshot.users }, {}⟩ :=
    .start rfl fun request hmem => { hagree request hmem with }
  obtain ⟨unit, hreplayed, hlike⟩ := halike.perform hcourse
  exact ⟨unit, hreplayed, hlike.commit_eq.symm.trans hcommit⟩

/-- A commit keeps the shared tables sound and lets them follow those before it. -/
theorem Current.commit (hcurrent : session.Current promise used shared)
    (hshared : shared.Sound promise used) (hchange : session.request.isChange = true)
    (hcheck : session.operation.check = .ok ())
    (hcourse : session.course = .ok (value, last)) (hregular : last.Regular promise used)
    (hcommit : last.unit.commit shared = .ok next) :
    next.Sound promise (used ++ last.supply.drawn) ∧ shared.Follows next := by
  obtain ⟨unit, hreplayed, hcommit⟩ :=
    hcurrent.replay hshared hchange hcheck hcourse hregular hcommit
  obtain ⟨-, rfl⟩ := MemoryUnit.commit_eq_ok_iff.mp hcommit
  have hpublished := @publish_sound promise
    (session.on { shared with users := session.snapshot.users }) used _ value
    (hshared.withUsers session.snapshot.users) hchange hcheck hreplayed { hregular with }
  obtain ⟨hsound, hfollows⟩ := hpublished
  exact ⟨hsound.withUsers shared.users, { hfollows with }⟩

/-- If nobody was added, a change ends as it does alone. -/
theorem Current.runAlone (hcurrent : session.Current promise used shared)
    (hshared : shared.Sound promise used) (husers : session.snapshot.users = shared.users)
    (hchange : session.request.isChange = true) (hregular : last.Regular promise used)
    (hcourse : session.course = .ok (value, last))
    (hfinish : session.finish shared = (.ok value, next)) :
    session.runAlone shared = (.ok value, next) := by
  obtain ⟨hcheck, last', hcourse', hcommit⟩ := finish_eq_ok_iff.mp hfinish
  rw [hcourse] at hcourse'
  cases hcourse'
  rw [if_pos hchange] at hcommit
  obtain ⟨unit, hreplayed, hcommit⟩ :=
    hcurrent.replay hshared hchange hcheck hcourse hregular hcommit
  rw [husers] at hreplayed
  have hended : (session.on shared).finish shared = (.ok value, next) := by
    apply finish_eq_ok_iff.mpr
    have hon : (session.on shared).request.isChange = true := hchange
    refine ⟨hcheck, _, hreplayed, ?_⟩
    rw [if_pos hon]
    exact hcommit
  exact (session.runAlone_eq shared).trans hended

end Commit

end Session

end CashLedger
