import CashLedger.Proofs.Alone
import CashLedger.Proofs.Engine.Refusals
import CashLedger.Proofs.Funds

/-!
# Selling and receiving

Something can be sold and something else received by an exchange or by a transaction of two legs.
Both are checked in the same order and refused for the same causes, and both go through exactly if
what is sold is covered and there is room for what is received.  Then they leave the same balances
and two records each, which are alike but for their names, their source and their times.
-/

namespace CashLedger

open Engine

/-- The same request for a transaction. -/
def NewExchange.transaction (request : NewExchange) : ManualExchange :=
  ⟨request.userId, request.received, request.sold, request.details⟩

/-- The same record but for its name, its source and its times. -/
def Record.Alike (record other : Record) : Prop :=
  other = { record with
    id := other.id, source := other.source, createdAt := other.createdAt,
    updatedAt := other.updatedAt }

theorem Record.alike_of_posted {accounts : Accounts} {place : Places} {user : UserId}
    {direction : Direction} {source source' : RecordSource} {details : Option String}
    {money : Money} {record other : Record}
    (hposted : record.Posted place user direction source details money)
    (hposted' : other.Posted place user direction source' details money)
    (hcompany : record.OfCompany accounts) (hcompany' : other.OfCompany accounts) :
    record.Alike other := by
  have hbalance : record.balanceId = other.balanceId :=
    Option.some.inj (hposted.place.symm.trans hposted'.place)
  have hmoney : record.amount = other.amount ∧ record.currency = other.currency :=
    Money.mk.inj (hposted.money.trans hposted'.money.symm)
  have hsame : record.companyId = other.companyId := by
    obtain ⟨balance, hfind, hid⟩ := hcompany
    obtain ⟨balance', hfind', hid'⟩ := hcompany'
    rw [hbalance, hfind'] at hfind
    rw [hid, hid', Option.some.inj hfind]
  rw [Alike, hbalance, hposted.userId.trans hposted'.userId.symm, hsame,
    hposted.kind.trans hposted'.kind.symm, hmoney.1, hmoney.2,
    hposted.details.trans hposted'.details.symm]

/-- The tables after something was sold and something else received, with the two records of it
and the exchanges that there are then. -/
structure Money.Bartered (before : Tables) (user : UserId) (sold received : Money)
    (record other : Record) (exchanges : Table Exchange) (last : Supply) (after : Tables) :
    Prop where
  shows : record.Shows user .sell sold ∧ other.Shows user .buy received
  /-- The balance of the one has lost it and that of the other has gained it, which may be the
  same balance; all others are the same rows. -/
  balances : before.balances.Shifted (Money.exchangedOn user sold received) after.balances
  others : after.Same { before with
    balances := after.balances, records := (before.records.insert record).insert other, exchanges }
  added : last.New before → after.records.rows.Perm ([record, other] ++ before.records.rows)

theorem Money.bartered {before after : Tables} {user : UserId} {sold received : Money}
    {source : RecordSource} {details : Option String} {record other : Record}
    {exchanges : Table Exchange} {last : Course} {supply : Supply}
    (hmoved : Tables.Moved before.place [sold.posting before.place user .debit,
      received.posting before.place user .credit] before after)
    (hone : before.balances.OnePerPair)
    (hpair : PairPosted before user sold received source details record other supply)
    (hleaves : last.Leaves before ((before.records.insert record).insert other) exchanges
      before.debtors before.debts)
    (hsame : after.Same last.unit.working) :
    Money.Bartered before user sold received record other exchanges supply after where
  shows := ⟨⟨hpair.sold.userId, hpair.sold.kind, hpair.sold.money⟩,
    ⟨hpair.received.userId, hpair.received.kind, hpair.received.money⟩⟩
  balances := hmoved.shifted fun _ hmem => Tables.tallyAll_exchanging hone hmem user sold received
  others := hleaves.same_of_moved hsame
  added hnew := hnew.perm (by simpa using hpair.drawn)
    (by simpa using hpair.distinct hnew.distinct) (hleaves.same hsame).records

theorem Engine.positive_of_checkNewExchange {limits : Limits} {request : NewExchange}
    (hcheck : (createExchange limits request).check = .ok ()) :
    0 < request.sold.amount.toInt ∧ 0 < request.received.amount.toInt := by
  rw [← Except.isOk_iff, isOk_check_createExchange, Bool.and_eq_true, Bool.and_eq_true] at hcheck
  exact ⟨checkPositive_eq_ok_iff.mp (Except.isOk_iff.mp hcheck.1),
    checkPositive_eq_ok_iff.mp (Except.isOk_iff.mp hcheck.2.1)⟩

/-- What an exchange and a transaction for the same request come to. -/
structure NewExchange.Agrees (before : Tables) (request : NewExchange) (created : Exchange)
    (posted : List Record) (left right : World Tables) : Prop where
  /-- Every balance is the same but for the time of its last change. -/
  balances : left.store.balances.accounts = right.store.balances.accounts
  records : ∃ sold received sold' received', posted = [sold', received'] ∧
    sold.Alike sold' ∧ received.Alike received' ∧
    Money.Bartered before request.userId request.sold request.received sold received
      (before.exchanges.insert created) left.supply left.store ∧
    Money.Bartered before request.userId request.sold request.received sold' received'
      before.exchanges right.supply right.store

theorem Tables.affords_singleton_iff {tables : Tables} {user : UserId} {direction : Direction}
    {money : Money} :
    tables.Affords user direction [money] ↔
      ∃ balance, tables.balanceFor user money.currency = some balance ∧
        balance.Allows direction money.amount.toInt := by
  simp [Affords, Money.totalIn]

namespace Request

variable {limits : Limits} {request request' : Request} {world world' last last' : World Tables}
  {result : Except LedgerError request.Answer} {result' : Except LedgerError request'.Answer}

/-- Two changes made alone, with the same checks and with work that is refused for the same
causes, end with the same errors. -/
theorem eq_error_iff_of_refusedAlike (hchange : request.isChange = true ∧ request'.isChange = true)
    (hopens : ∀ user currency,
      request ≠ .openBalance user currency ∧ request' ≠ .openBalance user currency)
    (hrun : (request.operation limits).run Memory.backend world = (result, last))
    (hrun' : (request'.operation limits).run Memory.backend world' = (result', last'))
    (hcheck : (request.operation limits).check = (request'.operation limits).check)
    (hrefused : Work.RefusedAlike (request.operation limits).work (request'.operation limits).work
      (.start world.store world.supply) (.start world'.store world'.supply))
    (cause : LedgerError) : result = .error cause ↔ result' = .error cause := by
  cases hpassed : (request.operation limits).check with
  | error other =>
    obtain ⟨rfl, -⟩ := eq_of_run_refused hrun hpassed
    obtain ⟨rfl, -⟩ := eq_of_run_refused hrun' (hcheck ▸ hpassed)
    simp only [Except.error.injEq]
  | ok _ =>
    have hpassed' := hcheck ▸ hpassed
    cases hperform : (request.operation limits).work.perform
        (.start world.store world.supply) with
    | error other =>
      obtain ⟨rfl, -⟩ := eq_of_run_failed hrun hpassed hperform
      obtain ⟨rfl, -⟩ := eq_of_run_failed hrun' hpassed' ((hrefused other).mp hperform)
      simp only [Except.error.injEq]
    | ok done =>
      cases hperform' : (request'.operation limits).work.perform
          (.start world'.store world'.supply) with
      | error other =>
        rw [(hrefused other).mpr hperform'] at hperform
        cases hperform
      | ok done' =>
        obtain ⟨rfl, -⟩ := eq_of_run_done hrun hchange.1
          (fun user currency => (hopens user currency).1) hpassed hperform
        obtain ⟨rfl, -⟩ := eq_of_run_done hrun' hchange.2
          (fun user currency => (hopens user currency).2) hpassed' hperform'
        exact iff_of_false nofun nofun

end Request

namespace Desk

variable {promise : Promise} {limits : Limits} {desk : Desk} {request : NewExchange}
  {supply supply' : Supply} {created : Except LedgerError Exchange}
  {posted : Except LedgerError (List Record)} {left right : World Tables}

theorem createExchange_isOk_iff (hreachable : desk.Reachable promise)
    (hcreate : desk.alone limits (.createExchange request) supply = (created, left))
    (hcheck : (createExchange limits request).check = .ok ()) :
    created.isOk ↔ (∃ user, desk.shared.users.find? request.userId = some user) ∧
      (∃ balance,
        desk.shared.balanceFor request.userId request.sold.currency = some balance ∧
          request.sold.amount.toInt ≤ balance.funds.toInt) ∧
      ∃ balance,
        desk.shared.balanceFor request.userId request.received.currency = some balance ∧
          balance.incoming.toInt + request.received.amount.toInt ≤ Amount.highest := by
  have hbalanced := hreachable.consistent.balanced
  cases hfind : desk.shared.users.find? request.userId with
  | none =>
    obtain ⟨rfl, -⟩ := Request.eq_of_run_failed hcreate hcheck
      (Work.perform_bind_of_error (Posting.perform_findUser_of_none hfind))
    exact iff_of_false nofun fun h => by simpa using h.1
  | some user =>
    obtain ⟨hsold, hreceived⟩ := positive_of_checkNewExchange hcheck
    have henacted := Request.alone (enacts_createExchange hbalanced.unique hfind) rfl
      (by rintro _ _ ⟨⟩) hcreate
    refine (henacted.isOk_iff (congrArg Except.isOk hcheck)).trans ?_
    refine (hbalanced.isSome_exchanging_iff request.userId hsold hreceived).trans ?_
    rw [Tables.affords_singleton_iff, Tables.affords_singleton_iff]
    exact (and_iff_right ⟨user, rfl⟩).symm

theorem agrees_of_alone (hone : desk.shared.balances.OnePerPair) {user : User}
    (huser : desk.shared.users.find? request.userId = some user) {exchange : Exchange}
    {records : List Record}
    (hcreate : desk.alone limits (.createExchange request) supply = (.ok exchange, left))
    (hpost : desk.alone limits (.performBalanceRecord request.transaction) supply' =
      (.ok records, right)) : request.Agrees desk.shared exchange records left right := by
  obtain ⟨hmoved, last, hmade, hsame, hsupply⟩ := (Request.alone (enacts_createExchange hone huser)
    rfl (by rintro _ _ ⟨⟩) hcreate).ok rfl
  obtain ⟨hmoved', last', hposted, hsame', hsupply'⟩ := (Request.alone
    (@enacts_performBalanceRecord limits _ supply' hone request.transaction user huser) rfl
    (by rintro _ _ ⟨⟩) hpost).ok rfl
  obtain ⟨sold, received, hpair, hleaves⟩ := hmade.legs
  obtain ⟨transaction, sold', received', rfl, hpair'⟩ := hposted.legs
  rw [← hsupply] at hpair
  rw [← hsupply'] at hpair'
  exact
    { balances := Option.some.inj (hmoved.moves.symm.trans hmoved'.moves)
      records := ⟨sold, received, sold', received', rfl,
        Record.alike_of_posted hpair.sold hpair'.sold hpair.company.1 hpair'.company.1,
        Record.alike_of_posted hpair.received hpair'.received hpair.company.2 hpair'.company.2,
        Money.bartered hmoved hone hpair hleaves hsame,
        Money.bartered hmoved' hone hpair' hposted.leaves hsame'⟩ }

/-- Whether it is by an exchange or by a transaction that someone sells something and receives
something else, it is refused for the same causes, goes through under the same conditions, and
comes to the same. -/
theorem exchange_agrees (hreachable : desk.Reachable promise)
    (hcreate : desk.alone limits (.createExchange request) supply = (created, left))
    (hpost : desk.alone limits (.performBalanceRecord request.transaction) supply' =
      (posted, right)) :
    (∀ cause, created = .error cause ↔ posted = .error cause) ∧
      ((createExchange limits request).check = .ok () →
        (created.isOk ↔ (∃ user, desk.shared.users.find? request.userId = some user) ∧
          (∃ balance,
            desk.shared.balanceFor request.userId request.sold.currency = some balance ∧
              request.sold.amount.toInt ≤ balance.funds.toInt) ∧
          ∃ balance,
            desk.shared.balanceFor request.userId request.received.currency = some balance ∧
              balance.incoming.toInt + request.received.amount.toInt ≤ Amount.highest)) ∧
      ∀ exchange, created = .ok exchange → ∃ records, posted = .ok records ∧
        request.Agrees desk.shared exchange records left right := by
  have hone := hreachable.consistent.balanced.unique
  have herrors : ∀ cause, created = .error cause ↔ posted = .error cause := by
    refine Request.eq_error_iff_of_refusedAlike ⟨rfl, rfl⟩ ?_ hcreate hpost rfl ?_
    · rintro _ _
      exact ⟨by rintro ⟨⟩, by rintro ⟨⟩⟩
    · exact refusedAlike_createExchange hone request.userId request.received request.sold
        request.details
  refine ⟨herrors, createExchange_isOk_iff hreachable hcreate, ?_⟩
  rintro exchange rfl
  cases posted with
  | error cause => cases (herrors cause).mpr rfl
  | ok records =>
    obtain ⟨⟨user, huser⟩, -⟩ := (createExchange_isOk_iff hreachable hcreate
      (Request.check_of_run_ok hcreate)).mp rfl
    exact ⟨records, rfl, agrees_of_alone hone huser hcreate hpost⟩

/-- Some of the dollars are sold for fewer dollars. -/
def swap : NewExchange := ⟨cashier.id, ⟨20, ⟨"USD"⟩⟩, ⟨25, ⟨"USD"⟩⟩, some "worn notes"⟩

def exchanged : Except LedgerError Exchange × World Tables :=
  evening.alone .standard (.createExchange swap) (supplied 10)

def transacted : Except LedgerError (List Record) × World Tables :=
  evening.alone .standard (.performBalanceRecord swap.transaction) (supplied 11)

set_option maxRecDepth 100000 in
theorem isOk_exchanged : exchanged.1.isOk = true := by decide_cbv

set_option maxRecDepth 100000 in
theorem supply_exchanged :
    exchanged.2.supply = { supplied 10 with readings := 5, issued := 3 } := by
  cbv

theorem exchange_agrees_swap :
    exchanged.1.isOk ∧ exchanged.2.supply.New evening.shared ∧
      (∀ cause, exchanged.1 = .error cause ↔ transacted.1 = .error cause) ∧
      ∀ exchange, exchanged.1 = .ok exchange → ∃ records, transacted.1 = .ok records ∧
        swap.Agrees evening.shared exchange records exchanged.2 transacted.2 := by
  have hnew : exchanged.2.supply.New evening.shared := by
    rw [supply_exchanged]
    exact ⟨by decide +kernel, by decide +kernel⟩
  obtain ⟨herrors, -, hagrees⟩ := exchange_agrees (evening_reachable .distinct)
    (@rfl _ exchanged) (@rfl _ transacted)
  exact ⟨isOk_exchanged, hnew, herrors, hagrees⟩

end Desk

end CashLedger
