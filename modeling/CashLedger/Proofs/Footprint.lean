import CashLedger.Proofs.Engine.Footprints
import CashLedger.Proofs.Engine.Refusals
import CashLedger.Proofs.Redone

/-!
# The footprint of a change

On a desk a change that goes through touches the rows that its request names or creates, the
balances that carry a leg which it removed or added, and no others.  So a record of an exchange or
a debt stays as it is until just that exchange or debt is changed or deleted; to take such a record
back by itself, or to repost it, is refused.
-/

namespace CashLedger

open Engine Work

/-! ## Requests -/

namespace Request

variable {promise : Promise} {limits : Limits} {request : Request} {before after : Tables}
  {supply : Supply} {value : request.Answer} {last : Course}

theorem footprint (hchange : request.isChange = true) (hopening : Opening promise before last)
    (hsame : after.Same last.unit.working)
    (hperform : (request.operation limits).work.perform (.start before supply) =
      .ok (value, last)) : request.Footprint before value after := by
  cases request with
  | openBalance user currency => exact footprint_openBalance hopening hsame hperform
  | performBalanceRecord wanted => exact footprint_performBalanceRecord hopening hsame hperform
  | postBalanceRecord user kind money details =>
    exact footprint_postBalanceRecord hopening hsame hperform
  | rollbackRecord id => exact footprint_rollbackRecord hopening hsame hperform
  | updateRecord id kind money => exact footprint_updateRecord hopening hsame hperform
  | createExchange wanted => exact footprint_createExchange hopening hsame hperform
  | updateExchange id amounts => exact footprint_updateExchange hopening hsame hperform
  | deleteExchange id => exact footprint_deleteExchange hopening hsame hperform
  | createDebt wanted => exact footprint_createDebt hopening hsame hperform
  | settleDebt wanted => exact footprint_settleDebt hopening hsame hperform
  | updateDebt id amounts => exact footprint_updateDebt hopening hsame hperform
  | deleteDebt id => exact footprint_deleteDebt hopening hsame hperform
  | _ => cases hchange

/-- A record that is not taken back stays. -/
theorem Rebooks.mem {record : Record} (hrebooks : request.Rebooks before value after)
    (hmem : record ∈ before.records.rows) (hkept : record ∉ request.removed before) :
    record ∈ after.records.rows := by
  cases request with
  | openBalance user currency => exact hrebooks.records.mem_iff.mpr hmem
  | _ =>
    obtain ⟨user, added, -, hrebooked, -⟩ := hrebooks
    refine hrebooked.records.mem_iff.mpr (List.mem_append_right _ (List.mem_filter.mpr ⟨hmem, ?_⟩))
    exact decide_eq_true hkept

/-- A record of an exchange or a debt changes or disappears only with it. -/
theorem Footprint.revised (hfootprint : request.Footprint before value after) {record : Record}
    (hmem : record ∈ before.records.rows) (howned : record.source.isOwned = true)
    (hgone : record ∉ after.records.rows) : request.revised? = some record.source := by
  by_contra hother
  exact hgone (hfootprint.rebooks.mem hmem fun hremoved =>
    hother (hfootprint.removed record hremoved howned))

/-- Who the users are does not count. -/
theorem Rebooks.of_users {users : Table User}
    (hrebooks : request.Rebooks { before with users } value { after with users }) :
    request.Rebooks before value after := by
  cases request with
  | openBalance user currency => exact { hrebooks with }
  | _ =>
    obtain ⟨user, added, haddressed, hrebooked, hnew⟩ := hrebooks
    exact ⟨user, added, haddressed, { hrebooked with }, hnew⟩

theorem Footprint.of_users {users : Table User}
    (hfootprint : request.Footprint { before with users } value { after with users })
    (husers : after.users = before.users) : request.Footprint before value after where
  rebooks := hfootprint.rebooks.of_users
  removed := hfootprint.removed
  exchanges := hfootprint.exchanges
  debts := hfootprint.debts
  debtors := hfootprint.debtors
  users := husers

/-- A request that is to take a record back by itself, or to repost it with an amount that passes
the check. -/
def Edits (id : RecordId) : Request → Prop
  | .rollbackRecord other => other = id
  | .updateRecord other _ money => other = id ∧ 0 < money.amount.toInt
  | _ => False

end Request

namespace Engine

theorem perform_findFreeRecord_of_owned {first : Course} {record : Record}
    (hmem : record ∈ first.unit.working.records.rows) (howned : record.source.isOwned = true) :
    (findFreeRecord record.id).perform first = .error (.sourceOwned record.id) := by
  have hfind : first.unit.working.records.find? record.id = some record :=
    Table.mem_rows_iff.mp hmem
  rw [findFreeRecord, perform_bind_of_ok ((perform_read_eq_ok rfl).mpr ⟨rfl, rfl⟩),
    perform_bind_of_ok (perform_require_eq_ok.mpr ⟨hfind, rfl⟩), if_pos howned]
  rfl

end Engine

/-! ## Sessions -/

namespace Session

variable {promise : Promise} {session : Session} {used : List Uuid} {shared next : Tables}
  {value : session.request.Answer}

theorem Current.footprint (hcurrent : session.Current promise used shared)
    (hshared : shared.Sound promise used) (hchange : session.request.isChange = true)
    (hregular : session.Regular shared promise used)
    (hfinish : session.finish shared = (.ok value, next)) :
    session.request.Footprint shared value next := by
  obtain ⟨last, hredone⟩ := hcurrent.redone hshared hchange hregular hfinish
  exact .of_users (Request.footprint hchange hredone.opening hredone.same hredone.performs)
    hredone.users

theorem finish_of_course_error {cause : LedgerError} (hcheck : session.operation.check = .ok ())
    (hcourse : session.course = .error cause) :
    session.finish shared = (.error cause, shared) := by
  rw [finish_eq hcheck, hcourse]
  rfl

/-- To take back a record of an exchange or a debt by itself, or to repost it, is refused. -/
theorem finish_of_owned {record : Record} (hmem : record ∈ session.snapshot.records.rows)
    (howned : record.source.isOwned = true) (hedits : session.request.Edits record.id) :
    session.finish shared = (.error (.sourceOwned record.id), shared) := by
  obtain ⟨limits, request, snapshot, moment, uuid⟩ := session
  cases request with
  | rollbackRecord id =>
    obtain rfl : id = record.id := hedits
    exact finish_of_course_error rfl
      (perform_bind_of_error (perform_findFreeRecord_of_owned hmem howned))
  | updateRecord id kind money =>
    obtain ⟨rfl, hpositive⟩ : id = record.id ∧ 0 < money.amount.toInt := hedits
    exact finish_of_course_error (checkPositive_eq_ok_iff.mpr hpositive)
      (perform_bind_of_error (perform_findFreeRecord_of_owned hmem howned))
  | _ => exact hedits.elim

end Session

namespace Desk

variable {promise : Promise} {desk : Desk}

/-- A change that goes through touches only the rows of its footprint, whoever else has been at
work since it was opened; a record of an exchange or a debt then changes or disappears only with
that exchange or debt.  To take such a record back by itself, or to repost it, is refused. -/
theorem reachable_footprint (hreachable : desk.Reachable promise) {place : Nat}
    {session : Session} (hsession : desk.sessions[place]? = some session)
    (hallows : desk.Allows promise (.ends place)) :
    (∀ value next, session.request.isChange = true →
      session.finish desk.shared = (.ok value, next) →
        session.request.Footprint desk.shared value next ∧
          ∀ record ∈ desk.shared.records.rows, record.source.isOwned = true →
            record ∉ next.records.rows → session.request.revised? = some record.source) ∧
      ∀ record ∈ session.snapshot.records.rows, record.source.isOwned = true →
        session.request.Edits record.id →
          session.finish desk.shared = (.error (.sourceOwned record.id), desk.shared) := by
  have hsound := hreachable.sound
  refine ⟨fun value next hchange hfinish => ?_, fun record hmem howned hedits =>
    Session.finish_of_owned hmem howned hedits⟩
  have hcurrent := hsound.sessions session (List.mem_of_getElem? hsession)
  have hfootprint := hcurrent.footprint hsound.shared hchange (hallows session hsession) hfinish
  exact ⟨hfootprint, fun record hmem howned hgone => hfootprint.revised hmem howned hgone⟩

/-- The record of what was given for the exchange of the day. -/
def spent : Record :=
  ⟨⟨⟨7001⟩⟩, ⟨⟨1000⟩⟩, cashier.id, cashier.companyId, .sell, 20, ⟨"USD"⟩, .exchange bought.id, none,
    .ofNanos 7002, .ofNanos 7002⟩

/-- Somebody wants to take back what was given, and some of the debt of the day comes back. -/
def overtime : Desk :=
  evening.run [opens 9 (.rollbackRecord spent.id), opens 10 (.settleDebt
    ⟨lent.debtorId, .borrow, ⟨20, ⟨"EUR"⟩⟩, [⟨10, ⟨"USD"⟩⟩], none⟩)]

theorem footprint_overtime :
    ∃ refused repaying, overtime.sessions = [repaying, refused] ∧
      refused.finish overtime.shared = (.error (.sourceOwned spent.id), overtime.shared) ∧
      (repaying.finish overtime.shared).1.isOk ∧
      ∀ value next, repaying.finish overtime.shared = (.ok value, next) →
        repaying.request.Footprint overtime.shared value next := by
  have hreachable : overtime.Reachable .distinct :=
    (evening_reachable _).run ⟨trivial, trivial, trivial⟩
  obtain ⟨-, hrefused⟩ := @reachable_footprint _ _ hreachable 1 _ rfl (by decide +kernel)
  obtain ⟨hchange, -⟩ := @reachable_footprint _ _ hreachable 0 _ rfl (by decide +kernel)
  exact ⟨_, _, rfl, hrefused spent (by decide +kernel) rfl rfl, by decide +kernel,
    fun value next hfinish => (hchange value next rfl hfinish).1⟩

/-- An amount of nothing is refused before anybody asks whose the record is. -/
theorem exists_unasked_owner :
    ∃ record ∈ evening.shared.records.rows, record.source.isOwned = true ∧
      (evening.alone .standard (.updateRecord record.id .sell ⟨0, ⟨"USD"⟩⟩) (supplied 10)).1 =
        .error (.invalidAmount 0) ∧
      (evening.alone .standard (.updateRecord record.id .sell ⟨0, ⟨"USD"⟩⟩) (supplied 10)).1 ≠
        .error (.sourceOwned record.id) :=
  ⟨spent, by decide +kernel, rfl, rfl, by rintro ⟨⟩⟩

end Desk

end CashLedger
