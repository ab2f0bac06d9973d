import CashLedger.Proofs.Engine.Effects

/-!
# Why work is refused

Why a leg is refused depends on the accounts and on where they are, and neither on times and
identifiers nor on any other rows.  So two pieces of work that post the same legs from points with
the same accounts are refused for the same causes, whatever else they do.
-/

namespace CashLedger

open Posting

namespace Work

variable {α β γ δ : Type} {work : Work α} {work' : Work β} {next : α → Work γ}
  {next' : β → Work δ} {first first' middle : Course} {value : α}

/-- From these two points the pieces of work are refused for the same causes. -/
def RefusedAlike (work : Work α) (work' : Work β) (first first' : Course) : Prop :=
  ∀ cause, work.perform first = .error cause ↔ work'.perform first' = .error cause

theorem perform_bind_of_ok (hperform : work.perform first = .ok (value, middle)) :
    (work >>= next).perform first = (next value).perform middle := by
  change (work.bind next).perform first = _
  rw [perform_bind, hperform]
  rfl

theorem perform_bind_of_error {cause : LedgerError}
    (hperform : work.perform first = .error cause) :
    (work >>= next).perform first = .error cause := by
  change (work.bind next).perform first = _
  rw [perform_bind, hperform]
  rfl

namespace RefusedAlike

theorem symm (halike : RefusedAlike work work' first first') :
    RefusedAlike work' work first' first := fun cause => (halike cause).symm

/-- What is sure to go through is not refused. -/
theorem of_ok {done : α × Course} {done' : β × Course} (hperform : work.perform first = .ok done)
    (hperform' : work'.perform first' = .ok done') : RefusedAlike work work' first first' := by
  intro cause
  rw [hperform, hperform']
  exact iff_of_false nofun nofun

theorem of_error {cause : LedgerError} (hperform : work.perform first = .error cause)
    (hperform' : work'.perform first' = .error cause) : RefusedAlike work work' first first' := by
  intro other
  rw [hperform, hperform']
  exact ⟨fun h => congrArg _ (Except.error.inj h), fun h => congrArg _ (Except.error.inj h)⟩

theorem bind_left (hperform : work.perform first = .ok (value, middle))
    (hnext : RefusedAlike (next value) work' middle first') :
    RefusedAlike (work >>= next) work' first first' := by
  intro cause
  rw [perform_bind_of_ok hperform]
  exact hnext cause

/-- If both start alike and leave the same accounts, it is for the rest to go on alike. -/
theorem bind {place : Places} {movements : List Movement} {post : α → Course → Prop}
    {post' : β → Course → Prop} (hwork : work.Enacts place first movements post)
    (hwork' : work'.Enacts place first' movements post')
    (haccounts : first.accounts = first'.accounts)
    (halike : RefusedAlike work work' first first')
    (hnext : ∀ {value middle value' middle'}, middle.Placed place → middle'.Placed place →
      middle.accounts = middle'.accounts →
        RefusedAlike (next value) (next' value') middle middle') :
    RefusedAlike (work >>= next) (work' >>= next') first first' := by
  intro cause
  cases hperform : work.perform first with
  | error other =>
    exact of_error (perform_bind_of_error hperform)
      (perform_bind_of_error ((halike other).mp hperform)) cause
  | ok done =>
    obtain ⟨value, middle⟩ := done
    cases hperform' : work'.perform first' with
    | error other =>
      rw [(halike other).mpr hperform'] at hperform
      cases hperform
    | ok done' =>
      obtain ⟨value', middle'⟩ := done'
      obtain ⟨hmoves, hplaced, -⟩ := hwork.ok hperform
      obtain ⟨hmoves', hplaced', -⟩ := hwork'.ok hperform'
      have hsame := hmoves.accounts.symm.trans (haccounts ▸ hmoves'.accounts)
      rw [perform_bind_of_ok hperform, perform_bind_of_ok hperform']
      exact hnext hplaced hplaced' (Option.some.inj hsame) cause

end RefusedAlike

end Work

open Work

namespace Posting

variable {place : Places} {first first' : Course}

theorem perform_findUser_of_none {id : UserId}
    (hnone : first.unit.working.users.find? id = none) :
    (findUser id).perform first = .error (.notFound .user id) := by
  change (require _ (first.unit.working.users.find? id)).perform _ = _
  rw [hnone]
  rfl

theorem perform_restore_eq_error_iff {balance : Balance}
    (hmem : balance ∈ first.unit.working.balances.rows)
    {step : Timestamp → Except LedgerError Balance}
    (hrow : ∀ {now after}, step now = .ok after → balance.SameRow after now)
    {cause : LedgerError} :
    (restore step).perform first = .error cause ↔ step first.supply.clock.1 = .error cause := by
  rw [perform_restore hmem hrow]
  cases step first.supply.clock.1 <;> simp [Except.map]

/-- Why a leg is refused. -/
theorem perform_applyLeg_eq_error_iff (hplaced : first.Placed place) {user : UserId}
    {money : Money} {direction : Direction} {cause : LedgerError} :
    (applyLeg user money direction).perform first = .error cause ↔
      match (place user money.currency).bind first.accounts with
      | none => cause = .currencyNotFound user money.currency
      | some account =>
        Balance.settled (account.apply ⟨direction, money.amount⟩ account.updatedAt) =
          .error cause := by
  have hplace : place user money.currency =
      (first.unit.working.balanceFor user money.currency).map Balance.id := by
    rw [← hplaced.place_eq]
    rfl
  cases hfound : first.unit.working.balanceFor user money.currency with
  | none =>
    have hfind : (findBalance user money.currency).perform first =
        .error (.currencyNotFound user money.currency) := by
      change (require _ (first.unit.working.balanceFor user money.currency)).perform _ = _
      rw [hfound]
      rfl
    rw [hplace, hfound, applyLeg, perform_bind_of_error hfind]
    exact ⟨fun h => (Except.error.inj h).symm, fun h => congrArg _ h.symm⟩
  | some balance =>
    obtain ⟨hmem, -⟩ := balanceFor_eq_some hfound
    have hfind : first.accounts balance.id = some balance.timeless :=
      congrArg _ (Table.mem_rows_iff.mp hmem)
    rw [hplace, hfound, Option.map_some, Option.bind_some, hfind, applyLeg,
      perform_bind_of_ok (perform_findBalance_eq_ok.mpr ⟨hfound, rfl⟩)]
    simp only
    rw [balance.settled_apply_timeless_eq_error_iff _ first.supply.clock.1]
    exact @perform_restore_eq_error_iff
      (first.answered (.balanceFor user money.currency) first.unit) balance hmem
      (fun now => Balance.settled (balance.apply ⟨direction, money.amount⟩ now))
      (fun hstep => (Balance.settled_apply_eq_ok_iff.mp hstep).sameRow) cause

theorem refusedAlike_applyLeg (hplaced : first.Placed place) (hplaced' : first'.Placed place)
    (haccounts : first.accounts = first'.accounts) (user : UserId) (money : Money)
    (direction : Direction) :
    RefusedAlike (applyLeg user money direction) (applyLeg user money direction) first first' := by
  intro cause
  rw [perform_applyLeg_eq_error_iff hplaced, perform_applyLeg_eq_error_iff hplaced', haccounts]

/-- What a leg is recorded for does not matter. -/
theorem refusedAlike_postLeg (hplaced : first.Placed place) (hplaced' : first'.Placed place)
    (haccounts : first.accounts = first'.accounts) (user : UserId) (money : Money)
    (direction : Direction) (source source' : RecordSource) (details : Option String) :
    RefusedAlike (postLeg user money direction source details)
      (postLeg user money direction source' details) first first' := by
  refine .bind (enacts_applyLeg hplaced user money direction)
    (enacts_applyLeg hplaced' user money direction) haccounts
    (refusedAlike_applyLeg hplaced hplaced' haccounts user money direction) fun _ _ _ => ?_
  exact .of_ok rfl rfl

theorem refusedAlike_postPair (hplaced : first.Placed place) (hplaced' : first'.Placed place)
    (haccounts : first.accounts = first'.accounts) (user : UserId) (sold received : Money)
    (source source' : RecordSource) (details : Option String) {α β : Type}
    {answer : Record → Record → α} {answer' : Record → Record → β} :
    RefusedAlike
      (do let record ← postLeg user sold .debit source details
          let other ← postLeg user received .credit source details
          return answer record other)
      (do let record ← postLeg user sold .debit source' details
          let other ← postLeg user received .credit source' details
          return answer' record other) first first' := by
  refine .bind (enacts_postLeg hplaced user sold .debit source details)
    (enacts_postLeg hplaced' user sold .debit source' details) haccounts
    (refusedAlike_postLeg hplaced hplaced' haccounts _ _ _ _ _ _) fun hmiddle hmiddle' hsame => ?_
  refine .bind (enacts_postLeg hmiddle user received .credit source details)
    (enacts_postLeg hmiddle' user received .credit source' details) hsame
    (refusedAlike_postLeg hmiddle hmiddle' hsame _ _ _ _ _ _) fun _ _ _ => ?_
  exact .of_ok rfl rfl

end Posting

namespace Engine

variable {limits : Limits} {tables : Tables} {supply supply' : Supply}

theorem perform_findDebtor_of_none {id : DebtorId} {first : Course}
    (hnone : first.unit.working.debtors.find? id = none) :
    (findDebtor id).perform first = .error (.notFound .debtor id) := by
  change (require _ (first.unit.working.debtors.find? id)).perform _ = _
  rw [hnone]
  rfl

/-- To sell something and receive something else is refused for the same causes if it is an
exchange and if it is not. -/
theorem refusedAlike_createExchange (hone : tables.balances.OnePerPair) (user : UserId)
    (received sold : Money) (details : Option String) :
    RefusedAlike (createExchange limits ⟨user, received, sold, details⟩).work
      (performBalanceRecord limits ⟨user, received, sold, details⟩).work
      (.start tables supply) (.start tables supply') := by
  have hplaced : ∀ supply, (Course.start tables supply).Placed tables.place :=
    fun _ => ⟨hone, rfl⟩
  cases hfind : tables.users.find? user with
  | none =>
    exact .of_error (perform_bind_of_error (perform_findUser_of_none hfind))
      (perform_bind_of_error (perform_findUser_of_none hfind))
  | some owner =>
    refine .bind_left (perform_findUser_eq_ok.mpr ⟨hfind, rfl⟩) (.bind_left rfl (.bind_left rfl
      (.bind_left rfl ?_)))
    refine .symm (.bind_left (perform_findUser_eq_ok.mpr ⟨hfind, rfl⟩) (.bind_left rfl ?_))
    refine @refusedAlike_postPair tables.place _ _ ?_ ?_ ?_ owner.id sold received _ _ details
      _ _ _ _
    · exact (hplaced supply').still rfl
    · exact (hplaced supply).still rfl
    · rfl

end Engine

end CashLedger
