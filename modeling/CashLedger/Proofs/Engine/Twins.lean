import CashLedger.Proofs.Store.Accounts
import CashLedger.Proofs.Store.Paired

/-!
# Twin work

Work on two units in step.  As long as it goes through on both, the units and what was
found there stay related; where it fails on one it fails on the other, with the same
error.  One rule for each way to go on, and from these one lemma for each step that the
changes are made of.
-/

namespace CashLedger

open Keyed (key)
open Owned (owner)
open Twinned (table alike)
open Work

/-- As many times and identifiers were taken from the one as from the other. -/
structure Supply.InStep (first second : Supply) : Prop where
  readings : first.readings = second.readings
  issued : first.issued = second.issued

theorem Work.leads_run {α : Type} (work : Work α) (unit : MemoryUnit) (world : World Tables) :
    world.supply.Leads (work.run Memory.backend unit world).2.2.supply := by
  induction work generalizing unit world with
  | done value => exact .refl _
  | fail cause => exact .refl _
  | call request next ih =>
    simp only [run, Memory.backend]
    cases unit.answer request with
    | mk result unit =>
      cases result with
      | error cause => exact .refl _
      | ok answer => exact ih answer unit world
  | clock next ih => exact world.supply.leads_clock.trans (ih _ unit world.clock.2)
  | draw next ih => exact world.supply.leads_draw.trans (ih _ unit world.draw.2)

/-- What the first part takes from the supply is among what the whole takes. -/
theorem Work.leads_run_bind {α β : Type} (work : Work α) (next : α → Work β) (unit : MemoryUnit)
    (world : World Tables) :
    (work.run Memory.backend unit world).2.2.supply.Leads
      ((work.bind next).run Memory.backend unit world).2.2.supply := by
  rw [run_bind]
  obtain ⟨result, unit, later⟩ := work.run Memory.backend unit world
  cases result with
  | ok value => exact (next value).leads_run unit later
  | error cause => exact .refl _

namespace Twins

variable {t : Twins} {α β γ δ : Type} {pre mid last : MemoryUnit → MemoryUnit → Prop}

/-- How two calls are answered: both go through, or both are refused for one cause. -/
inductive Answers (facts : α → β → Prop) (last : MemoryUnit → MemoryUnit → Prop) :
    Except LedgerError α × MemoryUnit → Except LedgerError β × MemoryUnit → Prop
  | ok {a : α} {b : β} {u v : MemoryUnit} (hfacts : facts a b) (hlast : last u v) :
      Answers facts last (.ok a, u) (.ok b, v)
  | error (cause : LedgerError) (u v : MemoryUnit) :
      Answers facts last (.error cause, u) (.error cause, v)

/-- How two pieces of work end: both are done, with supplies in step, or both have failed for
one cause. -/
inductive Ends (facts : α → β → Prop) (last : MemoryUnit → MemoryUnit → Prop) :
    Except LedgerError α × MemoryUnit × World Tables →
      Except LedgerError β × MemoryUnit × World Tables → Prop
  | ok {a : α} {b : β} {u v : MemoryUnit} {world world' : World Tables} (hfacts : facts a b)
      (hlast : last u v) (hstep : world.supply.InStep world'.supply) :
      Ends facts last (.ok a, u, world) (.ok b, v, world')
  | error (cause : LedgerError) (u v : MemoryUnit) (world world' : World Tables) :
      Ends facts last (.error cause, u, world) (.error cause, v, world')

/-- From units that are related so, the work ends in step. -/
def Sync (t : Twins) (pre : MemoryUnit → MemoryUnit → Prop) (work : Work α) (work' : Work β)
    (facts : α → β → Prop) (last : MemoryUnit → MemoryUnit → Prop) : Prop :=
  ∀ u v (world world' : World Tables), pre u v → world.supply.InStep world'.supply →
    (work.run Memory.backend u world).2.2.supply.Leads t.first →
    (work'.run Memory.backend v world').2.2.supply.Leads t.second →
    Ends facts last (work.run Memory.backend u world) (work'.run Memory.backend v world')

namespace Sync

variable {work : Work α} {work' : Work β} {facts : α → β → Prop}

theorem bind {next : α → Work γ} {next' : β → Work δ} {facts' : γ → δ → Prop}
    (hwork : t.Sync pre work work' facts mid)
    (hnext : ∀ a b, facts a b → t.Sync mid (next a) (next' b) facts' last) :
    t.Sync pre (work >>= next) (work' >>= next') facts' last := by
  intro u v world world' hpre hstep hfirst hsecond
  have hends := hwork u v world world' hpre hstep ((leads_run_bind work next u world).trans hfirst)
    ((leads_run_bind work' next' v world').trans hsecond)
  have hrun : (work >>= next).run Memory.backend u world = _ := run_bind _ work next u world
  have hrun' : (work' >>= next').run Memory.backend v world' = _ :=
    run_bind _ work' next' v world'
  rw [hrun] at hfirst ⊢
  rw [hrun'] at hsecond ⊢
  generalize work.run Memory.backend u world = ended,
    work'.run Memory.backend v world' = ended' at hends hfirst hsecond
  cases hends with
  | ok hfacts hmid hstep => exact hnext _ _ hfacts _ _ _ _ hmid hstep hfirst hsecond
  | error cause _ _ _ _ => exact .error cause _ _ _ _

theorem weaken (hwork : t.Sync pre work work' facts mid) (hpre : ∀ u v, last u v → pre u v)
    {facts' : α → β → Prop} (hfacts : ∀ a b, facts a b → facts' a b)
    {after : MemoryUnit → MemoryUnit → Prop} (hafter : ∀ u v, mid u v → after u v) :
    t.Sync last work work' facts' after := by
  intro u v world world' hlast hstep hfirst hsecond
  have hends := hwork u v world world' (hpre u v hlast) hstep hfirst hsecond
  generalize work.run Memory.backend u world = ended,
    work'.run Memory.backend v world' = ended' at hends
  cases hends with
  | ok hholds hmid hstep => exact .ok (hfacts _ _ hholds) (hafter _ _ hmid) hstep
  | error cause _ _ _ _ => exact .error cause _ _ _ _

theorem pure {a : α} {b : β} (hfacts : facts a b) :
    t.Sync pre (Pure.pure a : Work α) (Pure.pure b : Work β) facts pre :=
  fun _ _ _ _ hpre hstep _ _ => .ok hfacts hpre hstep

theorem fail (cause : LedgerError) : t.Sync pre (fail cause) (fail cause) facts last :=
  fun _ _ _ _ _ _ _ _ => .error cause _ _ _ _

/-- One check on both sides. -/
theorem guard (outcome : Except LedgerError α) :
    t.Sync pre (check outcome) (check outcome) (fun _ _ => True) pre := by
  cases outcome with
  | ok value => exact .pure trivial
  | error cause => exact .fail cause

theorem check {outcome : Except LedgerError α} {outcome' : Except LedgerError β}
    (hsame : SameOutcome facts outcome outcome') :
    t.Sync pre (check outcome) (check outcome') facts pre := by
  match outcome, outcome', hsame with
  | .ok _, .ok _, hfacts => exact .pure hfacts
  | .error cause, .error _, .refl _ => exact .fail cause

theorem require {found : Option α} {found' : Option β} (cause : LedgerError)
    (hrel : Option.Rel facts found found') :
    t.Sync pre (require cause found) (require cause found') facts pre := by
  cases hrel with
  | none => exact .fail cause
  | some hfacts => exact .pure hfacts

theorem ask {request request' : Call} {facts : request.Answer → request'.Answer → Prop}
    (hanswer : ∀ u v, pre u v → Answers facts last (u.answer request) (v.answer request')) :
    t.Sync pre (ask request) (ask request') facts last := by
  intro u v world world' hpre hstep _ _
  have hanswers := hanswer u v hpre
  simp only [Work.ask, run, Memory.backend]
  generalize u.answer request = answered, v.answer request' = answered' at hanswers
  cases hanswers with
  | ok hfacts hlast => exact .ok hfacts hlast hstep
  | error cause _ _ => exact .error cause _ _ _ _

theorem now : t.Sync pre now now t.SameTime pre := by
  intro u v world world' hpre hstep hfirst hsecond
  simp only [Work.now, run, Memory.backend, World.clock, Supply.clock] at hfirst hsecond ⊢
  refine .ok (.inr ⟨world.supply.readings, ?_, ?_, ?_, ?_⟩) hpre
    ⟨congrArg (· + 1) hstep.readings, hstep.issued⟩
  · exact hfirst.readings_le
  · rw [hstep.readings]
    exact hsecond.readings_le
  · rw [hfirst.moment_eq]
  · rw [hsecond.moment_eq, hstep.readings]

theorem newId {kind : IdKind} :
    t.Sync pre (newId : Work (Id kind)) (newId : Work (Id kind))
      (fun a b => t.Together a.uuid b.uuid) pre := by
  intro u v world world' hpre hstep hfirst hsecond
  simp only [Work.newId, run, Memory.backend, World.draw, Supply.draw] at hfirst hsecond ⊢
  refine .ok ⟨world.supply.issued, ?_, ?_, ?_, ?_⟩ hpre
    ⟨hstep.readings, congrArg (· + 1) hstep.issued⟩
  · exact hfirst.issued_le
  · rw [hstep.issued]
    exact hsecond.issued_le
  · rw [hfirst.uuid_eq]
  · rw [hsecond.uuid_eq, hstep.issued]

end Sync

/-! ## Legs -/

namespace Account

variable {a b : Balance} {now now' : Timestamp}

theorem setOutgoing {createdAt updatedAt : Timestamp}
    (haccount : t.Account a { a with createdAt, updatedAt }) (htime : t.SameTime now now')
    (funds outgoing : Option Amount) :
    SameOutcome t.Account (Balance.settled (a.setOutgoing funds outgoing now))
      (Balance.settled (Balance.setOutgoing { a with createdAt, updatedAt } funds outgoing now')) :=
  match funds, outgoing with
  | none, _ | some _, none => rfl
  | some funds, some outgoing => haccount.revise htime funds outgoing a.incoming a.version

theorem setIncoming {createdAt updatedAt : Timestamp}
    (haccount : t.Account a { a with createdAt, updatedAt }) (htime : t.SameTime now now')
    (funds incoming : Option Amount) :
    SameOutcome t.Account (Balance.settled (a.setIncoming funds incoming now))
      (Balance.settled (Balance.setIncoming { a with createdAt, updatedAt } funds incoming now')) :=
  match funds, incoming with
  | none, _ | some _, none => rfl
  | some funds, some incoming => haccount.revise htime funds a.outgoing incoming a.version

theorem apply (hsound : t.Sound) (haccount : t.Account a b) (htime : t.SameTime now now')
    (leg : Leg) :
    SameOutcome t.Account (Balance.settled (a.apply leg now))
      (Balance.settled (b.apply leg now')) := by
  obtain ⟨createdAt, updatedAt, -, -, rfl⟩ := haccount.exists_row hsound
  have hcovers : Balance.covers { a with createdAt, updatedAt } leg.amount =
    a.covers leg.amount := rfl
  simp only [Balance.apply, hcovers]
  cases checkPositive leg.amount with
  | error cause => rfl
  | ok done =>
    cases leg.direction with
    | credit => exact haccount.setIncoming htime _ _
    | debit =>
      cases a.covers leg.amount with
      | true => exact haccount.setOutgoing htime _ _
      | false => rfl

theorem reverse (hsound : t.Sound) (haccount : t.Account a b) (htime : t.SameTime now now')
    (leg : Leg) :
    SameOutcome t.Account (Balance.settled (a.reverse leg now))
      (Balance.settled (b.reverse leg now')) := by
  obtain ⟨createdAt, updatedAt, -, -, rfl⟩ := haccount.exists_row hsound
  have hcovers : Balance.covers { a with createdAt, updatedAt } leg.amount =
    a.covers leg.amount := rfl
  simp only [Balance.reverse, hcovers]
  cases checkPositive leg.amount with
  | error cause => rfl
  | ok done =>
    cases leg.direction with
    | debit => exact haccount.setOutgoing htime _ _
    | credit =>
      cases a.covers leg.amount with
      | true => exact haccount.setIncoming htime _ _
      | false => rfl

end Account

section Steps

variable (hsound : t.Sound)

include hsound

/-- The accounts of a row under a key of the user. -/
theorem Paired.find?_balance {u v : MemoryUnit} (hpaired : t.Paired u v) {id : BalanceId}
    (hhas : t.left.balances.HasOf t.user id) :
    Option.Rel t.Account (u.working.balances.find? id) (v.working.balances.find? id) := by
  have hunder := hpaired.left.others.balances.under hhas.under
  have hrel := hsound.find?_rel hhas hpaired.rows.balances hpaired.left.others.balances
    hpaired.right.others.balances
  cases hfind : u.working.balances.find? id <;>
    cases hfind' : v.working.balances.find? id <;> rw [hfind, hfind'] at hrel <;>
    cases hrel
  · exact .none
  · next a b hsame =>
    exact .some ⟨hsame, hunder a hfind, hpaired.left.accounts a (Table.mem_of_find? hfind)⟩

theorem Paired.balanceFor {u v : MemoryUnit} (hpaired : t.Paired u v) (currency : Currency) :
    Option.Rel t.Account (u.working.balanceFor t.user currency)
      (v.working.balanceFor t.user currency) := by
  have hone := hpaired.left.onePerPair hsound.left.balanced.unique
  have hone' := hpaired.right.onePerPair hsound.right.balanced.unique
  cases hfind : u.working.balanceFor t.user currency with
  | some a =>
    obtain ⟨hmem, huser, hcurrency⟩ := (Tables.balanceFor_eq_some_iff hone).mp hfind
    obtain ⟨b, hb, hsame⟩ := hpaired.rows.balances.forth a hmem huser
    have hfind' : v.working.balanceFor t.user currency = some b := by
      refine (Tables.balanceFor_eq_some_iff hone').mpr ⟨hb, hsame.1, ?_⟩
      obtain ⟨_, _, _, -, -, -, rfl⟩ := hsame.2.exists_row
      exact hcurrency
    rw [hfind']
    exact .some ⟨hsame.2, huser, hpaired.left.accounts a hmem⟩
  | none =>
    cases hfind' : v.working.balanceFor t.user currency with
    | none => exact .none
    | some b =>
      obtain ⟨hmem, huser, hcurrency⟩ := (Tables.balanceFor_eq_some_iff hone').mp hfind'
      obtain ⟨a, ha, hsame⟩ := hpaired.rows.balances.back b hmem huser
      refine absurd ?_ (Tables.balanceFor_eq_none_iff.mp hfind a ha hsame.1)
      obtain ⟨_, _, _, -, -, -, rfl⟩ := hsame.2.exists_row
      exact hcurrency

theorem sync_findBalance (currency : Currency) :
    t.Sync t.Paired (Posting.findBalance t.user currency) (Posting.findBalance t.user currency)
      t.Account t.Paired := by
  refine Sync.bind (.ask fun u v hpaired => .ok ?_ hpaired) fun _ _ hrel => .require _ hrel
  exact hpaired.balanceFor hsound currency

theorem sync_ask_balanceById {id : BalanceId} (hhas : t.left.balances.HasOf t.user id) :
    t.Sync t.Paired (ask (.balanceById id)) (ask (.balanceById id)) (Option.Rel t.Account)
      t.Paired :=
  .ask fun _ _ hpaired => .ok (hpaired.find?_balance hsound hhas) hpaired

theorem sync_ask_updateBalance {a b : Balance} (haccount : t.Account a b) :
    t.Sync t.Paired (ask (.updateBalance a)) (ask (.updateBalance b)) t.Account t.Paired := by
  refine .ask fun u v hpaired => ?_
  have hrel : Option.Rel t.Account (u.working.balances.find? a.id)
      (v.working.balances.find? a.id) := hpaired.find?_balance hsound haccount.kept.has
  obtain ⟨createdAt, updatedAt, -, hupdated, rfl⟩ := haccount.exists_row hsound
  simp only [MemoryUnit.answer, MemoryUnit.updateBalance]
  cases hfind : u.working.balances.find? a.id <;>
    cases hfind' : v.working.balances.find? a.id <;> rw [hfind, hfind'] at hrel <;>
    cases hrel
  · exact .error _ _ _
  · next current current' hcurrent =>
    obtain ⟨_, _, -, -, rfl⟩ := hcurrent.exists_row hsound
    simp only
    split
    · have hstored := haccount.revise hupdated a.funds a.outgoing a.incoming (a.version + 1)
      have hwritten := hpaired.writeBalance hsound hstored hfind hfind'
      exact .ok hstored hwritten
    · exact .error _ _ _

theorem sync_applyLeg (money : Money) (direction : Direction) :
    t.Sync t.Paired (Posting.applyLeg t.user money direction)
      (Posting.applyLeg t.user money direction) t.Account t.Paired := by
  refine (sync_findBalance hsound money.currency).bind fun a b haccount => ?_
  refine Sync.now.bind fun now now' htime => ?_
  refine (Sync.check (haccount.apply hsound htime _)).bind fun a b haccount => ?_
  exact sync_ask_updateBalance hsound haccount

theorem sync_reverseRecord {record : Record}
    (hhas : t.left.balances.HasOf t.user record.balanceId) :
    t.Sync t.Paired (Posting.reverseRecord record) (Posting.reverseRecord record)
      t.Account t.Paired := by
  refine (sync_ask_balanceById hsound hhas).bind fun found found' hrel => ?_
  refine (Sync.require _ hrel).bind fun a b haccount => ?_
  refine Sync.now.bind fun now now' htime => ?_
  refine (Sync.check (haccount.reverse hsound htime _)).bind fun a b haccount => ?_
  exact sync_ask_updateBalance hsound haccount

theorem sync_reverseRecords {records : List Record}
    (hhas : ∀ record ∈ records, t.left.balances.HasOf t.user record.balanceId) :
    t.Sync t.Paired (Posting.reverseRecords records) (Posting.reverseRecords records)
      (fun _ _ => True) t.Paired := by
  induction records with
  | nil => exact .pure trivial
  | cons record rest ih =>
    obtain ⟨hhead, hrest⟩ := List.forall_mem_cons.mp hhas
    exact (sync_reverseRecord hsound hhead).bind fun _ _ _ => ih hrest

theorem sync_ask_createRecord {a b : Record} (hplaced : t.Placed a b) :
    t.Sync t.Paired (ask (.createRecord a)) (ask (.createRecord b)) (fun _ _ => True) t.Paired :=
  .ask fun _ _ hpaired => .ok trivial (hpaired.writeRecord hsound hplaced)

/-- The record of a leg over an account. -/
theorem Account.sameRecord_posted {a b : Balance} (haccount : t.Account a b) {id id' : RecordId}
    (hid : t.SameId id id') {now now' : Timestamp} (htime : t.SameTime now now')
    {source source' : RecordSource} (hsource : t.SameSource source source') (leg : Leg)
    (details : Option String) :
    t.SameRecord (.posted id a leg source details now)
      (.posted id' b leg source' details now') := by
  obtain ⟨_, _, -, -, rfl⟩ := haccount.exists_row hsound
  exact ⟨hid, haccount.same.id, hsource, htime, htime, rfl⟩

theorem sync_postLeg (money : Money) (direction : Direction) {source source' : RecordSource}
    (hsource : t.SameSource source source') (details : Option String) :
    t.Sync t.Paired (Posting.postLeg t.user money direction source details)
      (Posting.postLeg t.user money direction source' details) t.SameRecord t.Paired := by
  refine (sync_applyLeg hsound money direction).bind fun a b haccount => ?_
  refine Sync.now.bind fun now now' htime => Sync.newId.bind fun id id' htogether => ?_
  have hplaced : t.Placed
      (Record.posted id a ⟨direction, money.amount⟩ source details now)
      (Record.posted id' b ⟨direction, money.amount⟩ source' details now') :=
    hsound.placed_of_together
      (haccount.sameRecord_posted hsound (.inl htogether) htime hsource _ details)
      haccount.owner htogether
  exact (sync_ask_createRecord hsound hplaced).bind fun _ _ _ => .pure hplaced.same

end Steps

end Twins

end CashLedger
