import CashLedger.Proofs.Desk
import CashLedger.Proofs.Engine.TwinRequests
import CashLedger.Proofs.Store.Commit

/-!
# Isolation of users

What a request about a user answers and does depends on the rows of that user only.  On
two stores that agree on them, whatever else they hold, it comes to the same but for the
times and identifiers that it is given; and on both it leaves the rows of all others alone.
-/

namespace CashLedger

/-! ## How a run in memory ends -/

theorem Work.store_run {α : Type} (work : Work α) (unit : MemoryUnit) (world : World Tables) :
    (work.run Memory.backend unit world).2.2.store = world.store := by
  induction work generalizing unit world with
  | done value => rfl
  | fail cause => rfl
  | call request next ih =>
    simp only [run, Memory.backend]
    cases unit.answer request with
    | mk result unit =>
      cases result with
      | error cause => rfl
      | ok answer => exact ih answer unit world
  | clock next ih => exact ih _ unit world.clock.2
  | draw next ih => exact ih _ unit world.draw.2

namespace Operation

variable {α : Type} {operation : Operation α} {result : Except LedgerError α} {value : α}
  {unit : MemoryUnit} {world : World Tables}

theorem supply_close :
    (operation.close Memory.backend result unit world).2.supply = world.supply := by
  simp only [close, settle, discard, Memory.backend]
  cases operation.purpose with
  | query => rfl
  | change =>
    cases result with
    | error cause => rfl
    | ok value =>
      cases unit.commit world.store <;> rfl

theorem close_error (cause : LedgerError) :
    Prod.map id World.store (operation.close Memory.backend (.error cause) unit world) =
      (.error cause, world.store) := by
  simp only [close]
  cases operation.purpose <;> rfl

theorem close_query (hpurpose : operation.purpose = .query) :
    Prod.map id World.store (operation.close Memory.backend result unit world) =
      (result, world.store) := by
  simp only [close, hpurpose]
  rfl

theorem close_change (hpurpose : operation.purpose = .change)
    (hcheck : unit.check world.store = .ok ()) :
    Prod.map id World.store (operation.close Memory.backend (.ok value) unit world) =
      (.ok value, unit.publish world.store) := by
  have hcommit : unit.commit world.store = .ok (unit.publish world.store) :=
    MemoryUnit.commit_eq_ok_iff.mpr ⟨hcheck, rfl⟩
  simp only [close, hpurpose, settle, Memory.backend, hcommit]
  rfl

theorem supply_run (operation : Operation α) (world : World Tables)
    (hcheck : operation.check = .ok ()) :
    (operation.run Memory.backend world).2.supply =
      (operation.conclude world.store { world with log := world.log ++ operation.opening
        }).2.supply := by
  have hbegin : ∀ world, Memory.backend.begin world = (.ok ⟨world.store, {}⟩, world) :=
    fun _ => rfl
  simp only [run, hcheck, notes_memory, hbegin, conclude]
  generalize operation.close Memory.backend _ _ _ = ended
  obtain ⟨_ | value, world⟩ := ended <;> rfl

end Operation

/-! ## Twin runs -/

namespace Twins

variable {t : Twins}

theorem Matches.congr {α : Type} {kind : IdKind} [Keyed α (Id kind)] [Owned α] [Twinned α]
    {left right before after : Table α} (hmatches : t.Matches left right)
    (hleft : before.Same left) (hright : after.Same right) : t.Matches before after where
  forth a ha howner := by
    obtain ⟨b, hb, hrest⟩ := hmatches.forth a (hleft.mem_iff.mp ha) howner
    exact ⟨b, hright.mem_iff.mpr hb, hrest⟩
  back b hb howner := by
    obtain ⟨a, ha, hrest⟩ := hmatches.back b (hright.mem_iff.mp hb) howner
    exact ⟨a, hleft.mem_iff.mpr ha, hrest⟩

theorem MatchesAll.congr {left right before after : Tables} (hmatches : t.MatchesAll left right)
    (hleft : before.Same left) (hright : after.Same right) : t.MatchesAll before after where
  balances := hmatches.balances.congr hleft.balances hright.balances
  records := hmatches.records.congr hleft.records hright.records
  exchanges := hmatches.exchanges.congr hleft.exchanges hright.exchanges
  debtors := hmatches.debtors.congr hleft.debtors hright.debtors
  debts := hmatches.debts.congr hleft.debts hright.debts

theorem MatchesAll.sameRows {left right : Tables} (hmatches : t.MatchesAll left right)
    (hfresh : t.Fresh) (husers : left.users.find? t.user = right.users.find? t.user) :
    t.SameRows left right where
  users := husers
  balances := hmatches.balances.oneForOne hfresh
  records := hmatches.records.oneForOne hfresh
  exchanges := hmatches.exchanges.oneForOne hfresh
  debtors := hmatches.debtors.oneForOne hfresh
  debts := hmatches.debts.oneForOne hfresh

/-- What the runs of one request come to: both have the same outcome, and leave the rows of
the user the same and those of all others alone. -/
structure Isolated (t : Twins) (request : Request)
    (ended ended' : Except LedgerError request.Answer × Tables) : Prop where
  outcome : SameOutcome (t.SameAnswer request) ended.1 ended'.1
  rows : t.SameRows ended.2 ended'.2
  left : t.left.AgreeWhere (· ≠ t.user) ended.2
  right : t.right.AgreeWhere (· ≠ t.user) ended'.2

namespace Sound

variable {request : Request} (hsound : t.Sound)

include hsound

theorem isolated_unchanged {result result' : Except LedgerError request.Answer}
    (hsame : SameOutcome (t.SameAnswer request) result result') :
    t.Isolated request (result, t.left) (result', t.right) where
  outcome := hsame
  rows := hsound.matchesAll_start.sameRows hsound.fresh (hsound.agree.users t.user rfl)
  left := .refl t.left
  right := .refl t.right

theorem isolated_published {value value' : request.Answer}
    (hsame : t.SameAnswer request value value') {u v : MemoryUnit} (hdone : t.Done u v) :
    t.Isolated request (.ok value, u.publish t.left) (.ok value', v.publish t.right) where
  outcome := hsame
  rows :=
    (hdone.rows.congr hdone.left.published hdone.right.published).sameRows hsound.fresh
      (hsound.agree.users t.user rfl)
  left := hdone.left.others.of_same hdone.left.published
  right := hdone.right.others.of_same hdone.right.published

/-- Closing the units of twin work. -/
theorem isolated_close {limits : Limits}
    {ended ended' : Except LedgerError request.Answer × MemoryUnit × World Tables}
    (hends : Ends (t.SameAnswer request) t.Done ended ended') (hleft : ended.2.2.store = t.left)
    (hright : ended'.2.2.store = t.right) :
    t.Isolated request
      (Prod.map id World.store
        ((request.operation limits).close Memory.backend ended.1 ended.2.1 ended.2.2))
      (Prod.map id World.store
        ((request.operation limits).close Memory.backend ended'.1 ended'.2.1 ended'.2.2)) := by
  cases hends with
  | error cause u v world world' =>
    rw [Operation.close_error, Operation.close_error, hleft, hright]
    exact hsound.isolated_unchanged rfl
  | ok hsame hdone hstep =>
    cases hpurpose : (request.operation limits).purpose with
    | query =>
      rw [Operation.close_query hpurpose, Operation.close_query hpurpose, hleft, hright]
      exact hsound.isolated_unchanged hsame
    | change =>
      rw [Operation.close_change hpurpose (hleft ▸ hdone.left.check),
        Operation.close_change hpurpose (hright ▸ hdone.right.check), hleft, hright]
      exact hsound.isolated_published hsame hdone

theorem isolated_run {limits : Limits} (haddressed : request.AddressedTo t.user t.left)
    {world world' : World Tables} (hleft : world.store = t.left) (hright : world'.store = t.right)
    (hstep : world.supply.InStep world'.supply)
    (hfirst : ((request.operation limits).run Memory.backend world).2.supply = t.first)
    (hsecond : ((request.operation limits).run Memory.backend world').2.supply = t.second) :
    t.Isolated request
      (Prod.map id World.store ((request.operation limits).run Memory.backend world))
      (Prod.map id World.store ((request.operation limits).run Memory.backend world')) := by
  cases hcheck : (request.operation limits).check with
  | error cause =>
    simp only [Operation.run, hcheck, Operation.notes_memory, Prod.map, id_eq, hleft, hright]
    exact hsound.isolated_unchanged rfl
  | ok _ =>
    rw [Operation.supply_run _ _ hcheck, Operation.conclude, Operation.supply_close]
      at hfirst hsecond
    rw [Operation.run_memory _ _ hcheck, Operation.run_memory _ _ hcheck]
    -- Nobody else is at work, so each unit is closed on the tables that it was opened on.
    have hsync := hsound.sync_request limits request haddressed
    have hends := hsync ⟨world.store, {}⟩ ⟨world'.store, {}⟩
      { world with log := world.log ++ (request.operation limits).opening }
      { world' with log := world'.log ++ (request.operation limits).opening }
      ⟨by rw [hleft], by rw [hright]⟩ hstep (hfirst ▸ .refl _) (hsecond ▸ .refl _)
    apply hsound.isolated_close hends
    · rw [Work.store_run, ← hleft]
    · rw [Work.store_run, ← hright]

end Sound

end Twins

namespace Desk

/-- A request made alone on the store of a desk, with all times and identifiers that it may
need. -/
def alone (desk : Desk) (limits : Limits) (request : Request) (supply : Supply) :
    Except LedgerError request.Answer × World Tables :=
  (request.operation limits).run Memory.backend ⟨desk.shared, supply, []⟩

/-- On two stores that agree on the rows of a user, a request about that user comes to the
same, made on each of them alone: the same error or the same answer, and the same rows of
the user, but for times and identifiers that are new.  The rows of all others stay. -/
theorem reachable_isolated {left right : Desk} (hleft : left.Reachable .distinct)
    (hright : right.Reachable .distinct) {user : UserId}
    (hagree : left.shared.AgreeWhere (· = user) right.shared) {limits : Limits}
    {request : Request} (haddressed : request.AddressedTo user left.shared)
    {moment moment' : Nat → Timestamp} {uuid uuid' : Nat → Uuid}
    {result result' : Except LedgerError request.Answer} {world world' : World Tables}
    (hrun : left.alone limits request { moment, uuid } = (result, world))
    (hrun' : right.alone limits request { moment := moment', uuid := uuid' } = (result', world'))
    (hdistinct : world.supply.Distinct) (hdistinct' : world'.supply.Distinct)
    (hfresh : ∀ uuid ∈ world.supply.drawn, uuid ∉ left.shared.uuids)
    (hfresh' : ∀ uuid ∈ world'.supply.drawn, uuid ∉ right.shared.uuids) :
    Twins.Isolated ⟨user, left.shared, right.shared, world.supply, world'.supply⟩ request
      (result, world.store) (result', world'.store) := by
  have hsound : Twins.Sound ⟨user, left.shared, right.shared, world.supply, world'.supply⟩ :=
    { fresh := ⟨hdistinct, hdistinct', hfresh, hfresh'⟩
      agree := hagree
      left := hleft.consistent
      right := hright.consistent }
  have hisolated := @Twins.Sound.isolated_run _ request hsound limits haddressed
    ⟨left.shared, { moment, uuid }, []⟩
    ⟨right.shared, { moment := moment', uuid := uuid' }, []⟩ rfl rfl ⟨rfl, rfl⟩
    (congrArg (fun ended => ended.2.supply) hrun) (congrArg (fun ended => ended.2.supply) hrun')
  rw [alone] at hrun hrun'
  rwa [hrun, hrun'] at hisolated

def broker : User := ⟨⟨⟨3⟩⟩, ⟨⟨2⟩⟩⟩

/-- The same day, with a second user at work. -/
def busyEvening : Desk :=
  Desk.run { shared := { users := (Table.empty.insert cashier).insert broker } }
    (dayTurns ++
      [opens 8 (.openBalance broker.id ⟨"USD"⟩), .ends 0,
       opens 9 (.postBalanceRecord broker.id .buy ⟨70, ⟨"USD"⟩⟩ none), .ends 0])

theorem busyEvening_reachable (promise : Promise) : busyEvening.Reachable promise :=
  (Reachable.start _).run (by cases promise <;> decide +kernel)

/-- The debtor of the day pays some money back. -/
def installment : Request :=
  .settleDebt ⟨⟨⟨5000⟩⟩, .borrow, ⟨20, ⟨"EUR"⟩⟩, [⟨15, ⟨"USD"⟩⟩], none⟩

/-- The installment alone, with the times and identifiers of the `n`th request. -/
def paid (desk : Desk) (n : Nat) : Except LedgerError DebtPosting × World Tables :=
  desk.alone .standard installment
    { moment := fun k => .ofNanos (1000 * n + k : Nat)
      uuid := fun k => ⟨BitVec.ofNat 128 (1000 * n + k)⟩ }

theorem isolated_installment :
    evening.shared.balances.rows.length = 2 ∧ busyEvening.shared.balances.rows.length = 3 ∧
      (evening.paid 10).1.isOk ∧
      Twins.Isolated ⟨cashier.id, evening.shared, busyEvening.shared, (evening.paid 10).2.supply,
          (busyEvening.paid 11).2.supply⟩
        installment ((evening.paid 10).1, (evening.paid 10).2.store)
        ((busyEvening.paid 11).1, (busyEvening.paid 11).2.store) := by
  refine ⟨by decide +kernel, by decide +kernel, by decide +kernel, ?_⟩
  have haddressed : installment.AddressedTo cashier.id evening.shared :=
    show evening.shared.debtors.HasOf cashier.id ⟨⟨5000⟩⟩ by decide +kernel
  exact reachable_isolated (evening_reachable _) (busyEvening_reachable _) (by decide +kernel)
    haddressed (@rfl _ (evening.paid 10)) (@rfl _ (busyEvening.paid 11)) (by decide +kernel)
    (by decide +kernel) (by decide +kernel) (by decide +kernel)

end Desk

end CashLedger
