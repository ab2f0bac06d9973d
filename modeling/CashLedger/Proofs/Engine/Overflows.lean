import CashLedger.Proofs.Engine.Refusals
import CashLedger.Proofs.Halted

/-!
# What overflows

Work that fails because a total of a balance leaves its range fails in one of its movements: all
before it went through, and this one is a leg whose new totals do not exist on the balance that
they left.  Nothing else that the engine does over balances fails like that.
-/

namespace CashLedger

/-! ## One leg -/

namespace Balance

variable {balance : Balance} {leg : Leg} {now : Timestamp} {subject : OverflowSubject}
  {cause : LedgerError}

theorem settled_eq_error_iff {step : Balance × Except LedgerError Unit} :
    settled step = .error cause ↔ step.2 = .error cause := by
  obtain ⟨after, result⟩ := step
  cases result <;> simp [settled, Except.map]

/-- Why a leg is not taken back does not depend on any time. -/
theorem settled_reverse_timeless_eq_error_iff (now' : Timestamp) :
    settled (balance.timeless.reverse leg now') = .error cause ↔
      settled (balance.reverse leg now) = .error cause := by
  obtain ⟨direction, amount⟩ := leg
  have hcovers : balance.timeless.covers amount = balance.covers amount := rfl
  simp only [reverse, hcovers]
  cases checkPositive amount with
  | error other => rfl
  | ok _ =>
    cases direction with
    | debit =>
      change settled (setOutgoing _ (balance.funds.add? amount) (balance.outgoing.sub? amount) _) =
        _ ↔ _
      cases balance.funds.add? amount <;> cases balance.outgoing.sub? amount <;>
        simp [setOutgoing, settled, Except.map, overflow, timeless]
    | credit =>
      cases balance.covers amount with
      | true =>
        change settled
          (setIncoming _ (balance.funds.sub? amount) (balance.incoming.sub? amount) _) = _ ↔ _
        simp only [if_true]
        cases balance.funds.sub? amount <;> cases balance.incoming.sub? amount <;>
          simp [setIncoming, settled, Except.map, overflow, timeless]
      | false => rfl

theorem overflow_of_setOutgoing {funds outgoing : Option Amount}
    (hfails : (balance.setOutgoing funds outgoing now).2 = .error cause) :
    cause = balance.overflow := by
  cases funds <;> cases outgoing <;> cases hfails <;> rfl

theorem overflow_of_setIncoming {funds incoming : Option Amount}
    (hfails : (balance.setIncoming funds incoming now).2 = .error cause) :
    cause = balance.overflow := by
  cases funds <;> cases incoming <;> cases hfails <;> rfl

/-- A leg overflows nothing but the balance that it is applied to. -/
theorem overflow_of_apply (hfails : (balance.apply leg now).2 = .error (.amountOverflow subject)) :
    subject = .balance balance.id := by
  obtain ⟨direction, amount⟩ := leg
  have hoverflow : (LedgerError.amountOverflow subject) = balance.overflow := by
    simp only [apply] at hfails
    cases hcheck : checkPositive amount with
    | error cause =>
      rw [hcheck, (checkPositive_eq_error hcheck).2] at hfails
      cases hfails
    | ok _ =>
      rw [hcheck] at hfails
      cases direction with
      | debit =>
        simp only at hfails
        split at hfails
        · exact overflow_of_setOutgoing hfails
        · cases hfails
      | credit => exact overflow_of_setIncoming hfails
  exact LedgerError.amountOverflow.inj hoverflow

theorem overflow_of_reverse
    (hfails : (balance.reverse leg now).2 = .error (.amountOverflow subject)) :
    subject = .balance balance.id := by
  obtain ⟨direction, amount⟩ := leg
  have hoverflow : (LedgerError.amountOverflow subject) = balance.overflow := by
    simp only [reverse] at hfails
    cases hcheck : checkPositive amount with
    | error cause =>
      rw [hcheck, (checkPositive_eq_error hcheck).2] at hfails
      cases hfails
    | ok _ =>
      rw [hcheck] at hfails
      cases direction with
      | debit => exact overflow_of_setOutgoing hfails
      | credit =>
        simp only at hfails
        split at hfails
        · exact overflow_of_setIncoming hfails
        · cases hfails
  exact LedgerError.amountOverflow.inj hoverflow

end Balance

/-! ## Movements -/

/-- A new total of this balance does not exist. -/
def Movement.Overflows (accounts : Accounts) (id : BalanceId) : Movement → Prop
  | .applied place leg => place = some id ∧ ∃ balance, accounts id = some balance ∧
      (balance.apply leg balance.updatedAt).2 = .error balance.overflow
  | .undone place leg => place = id ∧ ∃ balance, accounts id = some balance ∧
      (balance.reverse leg balance.updatedAt).2 = .error balance.overflow
  | .passed _ => False

/-- Of some movements one overflows a balance, after all before it went through. -/
def Accounts.Overflow (accounts : Accounts) (movements : List Movement) (id : BalanceId) : Prop :=
  ∃ early movement late middle, movements = early ++ movement :: late ∧
    accounts.moves early = some middle ∧ movement.Overflows middle id

namespace Accounts.Overflow

variable {accounts later : Accounts} {movements more : List Movement} {id : BalanceId}

theorem append_right (hoverflow : accounts.Overflow movements id) (more : List Movement) :
    accounts.Overflow (movements ++ more) id := by
  obtain ⟨early, movement, late, middle, rfl, hmoves, hmovement⟩ := hoverflow
  exact ⟨early, movement, late ++ more, middle, by simp, hmoves, hmovement⟩

theorem append_left (hmoves : accounts.moves movements = some later)
    (hoverflow : later.Overflow more id) : accounts.Overflow (movements ++ more) id := by
  obtain ⟨early, movement, late, middle, rfl, hmore, hmovement⟩ := hoverflow
  refine ⟨movements ++ early, movement, late, middle, by simp, ?_, hmovement⟩
  rw [Accounts.moves_append, hmoves, Option.bind_some, hmore]

theorem single {movement : Movement} (hmovement : movement.Overflows accounts id) :
    accounts.Overflow [movement] id :=
  ⟨[], movement, [], accounts, rfl, rfl, hmovement⟩

end Accounts.Overflow

/-! ## Work -/

namespace Work

variable {α β : Type} {place : Places} {first middle : Course} {movements more : List Movement}
  {work : Work α} {next : α → Work β} {value : α} {cause : LedgerError}

/-- The work never fails with an overflow. -/
def Calm (work : Work α) : Prop :=
  ∀ course subject, work.perform course ≠ .error (.amountOverflow subject)

/-- If the work fails from a point on because a total of a balance overflows, it is one of these
movements that overflows it; other than that, only a debtor overflows. -/
def Blames (work : Work α) (first : Course) (movements : List Movement) : Prop :=
  ∀ subject, work.perform first = .error (.amountOverflow subject) →
    (∃ debtor, subject = .debtor debtor) ∨
      ∃ id, subject = .balance id ∧ first.accounts.Overflow movements id

theorem calm_pure (value : α) : (pure value : Work α).Calm := nofun

theorem calm_now : now.Calm := nofun

theorem calm_newId {kind : IdKind} : (newId : Work (Id kind)).Calm := nofun

theorem calm_fail (hcause : ∀ subject, cause ≠ .amountOverflow subject) :
    (fail cause : Work α).Calm := by
  intro course subject hperform
  exact hcause subject (Except.error.inj hperform)

theorem calm_check {checked : Except LedgerError α}
    (hchecked : ∀ subject, checked ≠ .error (.amountOverflow subject)) : (check checked).Calm := by
  cases checked with
  | ok value => exact calm_pure value
  | error cause => exact calm_fail fun subject hcause => hchecked subject (congrArg _ hcause)

theorem calm_require {found : Option α} (hcause : ∀ subject, cause ≠ .amountOverflow subject) :
    (require cause found).Calm := by
  cases found with
  | some value => exact calm_pure value
  | none => exact calm_fail hcause

theorem answer_ne_overflow (unit : MemoryUnit) (request : Call) (subject : OverflowSubject) :
    (unit.answer request).1 ≠ .error (.amountOverflow subject) := by
  intro hanswer
  cases request <;> simp only [MemoryUnit.answer, MemoryUnit.createBalance,
    MemoryUnit.updateBalance, MemoryUnit.updateDebtor, MemoryUnit.changing,
    MemoryUnit.deleteRecordsWhere] at hanswer <;> grind [LedgerError.notFound, LedgerError.conflict]

/-- A store tells of no overflow. -/
theorem calm_ask (request : Call) : (ask request).Calm := by
  intro course subject hperform
  rw [ask, perform_call] at hperform
  cases hanswer : course.unit.answer request with
  | mk result unit =>
    rw [hanswer] at hperform
    cases result with
    | ok answer => cases hperform
    | error cause =>
      cases hperform
      exact answer_ne_overflow course.unit request subject (congrArg Prod.fst hanswer)

theorem Calm.bind (hwork : work.Calm) (hnext : ∀ value, (next value).Calm) :
    (work >>= next).Calm := by
  intro course subject hperform
  cases hfirst : work.perform course with
  | error cause =>
    rw [perform_bind_of_error hfirst] at hperform
    cases hperform
    exact hwork course subject hfirst
  | ok done =>
    have hdone : work.perform course = .ok (done.1, done.2) := hfirst
    rw [perform_bind_of_ok hdone] at hperform
    exact hnext done.1 done.2 subject hperform

/-- A row that is asked for and has to be there. -/
theorem calm_askRequire {α : Type} {request : Call} {cause : LedgerError}
    {found : request.Answer → Option α} (hcause : ∀ subject, cause ≠ .amountOverflow subject) :
    (do let answer ← ask request
        require cause (found answer)).Calm :=
  (calm_ask request).bind fun _ => calm_require hcause

theorem Calm.blames (hwork : work.Calm) : work.Blames first movements :=
  fun subject hperform => absurd hperform (hwork first subject)

theorem blames_of_error (hperform : work.perform first = .error cause)
    (hcause : ∀ subject, cause ≠ .amountOverflow subject) : work.Blames first movements := by
  intro subject hfails
  rw [hperform] at hfails
  exact absurd (Except.error.inj hfails) (hcause subject)

/-- If the work goes through, it is for the rest to say what overflows, on the balances that the
work left. -/
theorem Blames.bind {post : α → Course → Prop} (hwork : work.Blames first movements)
    (henacts : work.Enacts place first movements post)
    (hnext : ∀ {value middle}, work.perform first = .ok (value, middle) → middle.Placed place →
      post value middle → (next value).Blames middle more) :
    (work >>= next).Blames first (movements ++ more) := by
  intro subject hperform
  cases hfirst : work.perform first with
  | error cause =>
    rw [perform_bind_of_error hfirst] at hperform
    cases hperform
    refine (hwork subject hfirst).imp_right fun ⟨id, hid, hoverflow⟩ => ?_
    exact ⟨id, hid, hoverflow.append_right more⟩
  | ok done =>
    obtain ⟨value, middle⟩ := done
    obtain ⟨hmoves, hplaced, hpost⟩ := henacts.ok hfirst
    rw [perform_bind_of_ok hfirst] at hperform
    refine (hnext hfirst hplaced hpost subject hperform).imp_right fun ⟨id, hid, hoverflow⟩ => ?_
    exact ⟨id, hid, hoverflow.append_left hmoves.accounts⟩

/-- What follows cannot overflow. -/
theorem Blames.bind_calm (hwork : work.Blames first movements)
    (hnext : ∀ value, (next value).Calm) : (work >>= next).Blames first movements := by
  intro subject hperform
  cases hfirst : work.perform first with
  | error cause =>
    rw [perform_bind_of_error hfirst] at hperform
    cases hperform
    exact hwork subject hfirst
  | ok done =>
    rw [perform_bind_of_ok (show work.perform first = .ok (done.1, done.2) from hfirst)] at hperform
    exact absurd hperform (hnext done.1 done.2 subject)

/-- The work is sure to go through and moves nothing. -/
theorem blames_bind (hperform : work.perform first = .ok (value, middle))
    (hstill : middle.unit.working.balances = first.unit.working.balances)
    (hnext : (next value).Blames middle movements) : (work >>= next).Blames first movements := by
  intro subject hfails
  rw [perform_bind_of_ok hperform] at hfails
  have haccounts : middle.accounts = first.accounts := congrArg Table.accounts hstill
  rw [← haccounts]
  exact hnext subject hfails

/-- The work may fail, though not with an overflow; if it goes through it has moved nothing. -/
theorem Calm.bind_blames (hwork : work.Calm)
    (hnext : ∀ {value middle}, work.perform first = .ok (value, middle) →
      middle.unit.working.balances = first.unit.working.balances ∧
        (next value).Blames middle movements) : (work >>= next).Blames first movements := by
  cases hfirst : work.perform first with
  | error cause =>
    exact blames_of_error (perform_bind_of_error hfirst) fun subject hcause =>
      hwork first subject (hcause ▸ hfirst)
  | ok done =>
    obtain ⟨value, middle⟩ := done
    exact blames_bind hfirst (hnext hfirst).1 (hnext hfirst).2

/-- Work that goes on after a check. -/
theorem blames_bind_check {checked : Except LedgerError α}
    (hchecked : ∀ subject, checked ≠ .error (.amountOverflow subject))
    (hplaced : first.Placed place)
    (hnext : ∀ {value}, checked = .ok value → (next value).Blames first movements) :
    (check checked >>= next).Blames first (.passed checked.isOk :: movements) := by
  have hcheck : (check checked).Enacts place first [.passed checked.isOk] fun value middle =>
      checked = .ok value ∧ middle = first := enacts_check hplaced fun hvalue => ⟨hvalue, rfl⟩
  refine .bind (calm_check hchecked).blames hcheck fun _ _ hdone => ?_
  obtain ⟨hvalue, rfl⟩ := hdone
  exact hnext hvalue

end Work

namespace Posting

open Work

variable {place : Places} {first : Course}

theorem blames_applyLeg (hplaced : first.Placed place) (user : UserId) (money : Money)
    (direction : Direction) :
    (applyLeg user money direction).Blames first [money.posting place user direction] := by
  intro subject hperform
  rw [perform_applyLeg_eq_error_iff hplaced] at hperform
  cases hplace : place user money.currency with
  | none =>
    rw [hplace] at hperform
    cases hperform
  | some id =>
    cases haccount : first.accounts id with
    | none =>
      rw [hplace, Option.bind_some, haccount] at hperform
      cases hperform
    | some account =>
      rw [hplace, Option.bind_some, haccount] at hperform
      have hleg := Balance.settled_eq_error_iff.mp hperform
      obtain ⟨balance, -, rfl, rfl⟩ := Table.accounts_eq_some_iff.mp haccount
      obtain rfl := Balance.overflow_of_apply hleg
      refine .inr ⟨balance.id, rfl, .single ?_⟩
      rw [Money.posting, hplace]
      exact ⟨rfl, _, haccount, hleg⟩

theorem blames_reverseRecord (record : Record) :
    (reverseRecord record).Blames first [record.undoing] := by
  intro subject hperform
  cases hfound : first.unit.working.balances.find? record.balanceId with
  | none =>
    have hrequire : (require (.notFound .balance record.balanceId)
        (first.unit.working.balances.find? record.balanceId)).perform
          (first.answered (.balanceById record.balanceId) first.unit) =
        .error (.notFound .balance record.balanceId) := by
      rw [hfound]
      rfl
    rw [reverseRecord, perform_bind_of_ok (perform_ask_eq_ok.mpr ⟨_, rfl, rfl⟩),
      perform_bind_of_error hrequire] at hperform
    cases hperform
  | some balance =>
    have hid : balance.id = record.balanceId := Table.key_of_find? hfound
    have haccount : first.accounts record.balanceId = some balance.timeless := congrArg _ hfound
    rw [reverseRecord, perform_bind_of_ok (perform_ask_eq_ok.mpr ⟨_, rfl, rfl⟩),
      perform_bind_of_ok (perform_require_eq_ok.mpr ⟨hfound, rfl⟩)] at hperform
    have hstep := (@perform_restore_eq_error_iff
      (first.answered (.balanceById record.balanceId) first.unit) balance
      (Table.mem_of_find? hfound) (fun now => Balance.settled (balance.reverse record.leg now))
      (fun hstep => (Balance.settled_reverse_eq_ok_iff.mp hstep).sameRow) _).mp hperform
    rw [← Balance.settled_reverse_timeless_eq_error_iff balance.timeless.updatedAt,
      Balance.settled_eq_error_iff] at hstep
    obtain rfl := Balance.overflow_of_reverse hstep
    exact .inr ⟨record.balanceId, congrArg _ hid, .single ⟨rfl, _, haccount, hstep⟩⟩

theorem blames_reverseRecords (hplaced : first.Placed place) (records : List Record) :
    (reverseRecords records).Blames first (records.map Record.undoing) := by
  induction records generalizing first with
  | nil => exact (calm_pure ()).blames
  | cons record rest ih =>
    exact .bind (blames_reverseRecord record) (enacts_reverseRecord hplaced record)
      fun _ hplaced' _ => ih hplaced'

theorem blames_postLeg (hplaced : first.Placed place) (user : UserId) (money : Money)
    (direction : Direction) (source : RecordSource) (details : Option String) :
    (postLeg user money direction source details).Blames first
      [money.posting place user direction] :=
  (blames_applyLeg hplaced user money direction).bind_calm fun _ =>
    calm_now.bind fun _ => calm_newId.bind fun _ => (calm_ask _).bind fun _ => calm_pure _

end Posting

end CashLedger
