import CashLedger.Proofs.Engine.Revisions

/-!
# What is opened

A balance comes into being only when somebody asks for one, and a debtor only with a
first debt; both are in the currency that was asked for.  All other work asks the
store for balances and debtors that are there.
-/

namespace CashLedger

/-- Calls that put a new balance or debtor into the store. -/
def Call.isOpening : Call → Bool
  | createBalance _ | createDebtor _ => true
  | _ => false

theorem Call.isOpening_of_isRead {request : Call} (hread : request.isRead = true) :
    request.isOpening = false := by
  cases request with
  | createBalance _ | createDebtor _ => cases hread
  | _ => rfl

/-- What is opened was asked for, and in this currency. -/
def Call.OpenedBy (request : Request) : Call → Prop
  | createBalance balance => ∃ user, request = .openBalance user balance.currency
  | createDebtor debtor => ∃ wanted, request = .createDebt wanted ∧
      wanted.debted.currency = debtor.currency
  | _ => True

theorem Call.openedBy_of_not_isOpening {request : Request} {call : Call}
    (hplain : call.isOpening = false) : call.OpenedBy request := by
  cases call with
  | createBalance _ | createDebtor _ => cases hplain
  | _ => trivial

open Work

/-! ## Steps that open nothing -/

section Steps

variable {allowed : Call → Prop}
  (hplain : ∀ {call : Call}, call.isOpening = false → allowed call)

include hplain

namespace Posting

theorem asks_findBalance (user : UserId) (currency : Currency) :
    (findBalance user currency).Asks allowed :=
  (asks_ask (hplain rfl)).bind fun _ => asks_require _ _

theorem asks_applyLeg (user : UserId) (money : Money) (direction : Direction) :
    (applyLeg user money direction).Asks allowed := by
  refine (asks_findBalance hplain user money.currency).bind fun balance => ?_
  refine asks_now.bind fun now => (asks_check _).bind fun after => ?_
  exact asks_ask (hplain rfl)

theorem asks_postLeg (user : UserId) (money : Money) (direction : Direction)
    (source : RecordSource) (details : Option String) :
    (postLeg user money direction source details).Asks allowed := by
  refine (asks_applyLeg hplain user money direction).bind fun balance => ?_
  refine asks_now.bind fun now => asks_newId.bind fun id => ?_
  exact (asks_ask (hplain rfl)).bind fun _ => asks_pure _

theorem asks_reverseRecord (record : Record) : (reverseRecord record).Asks allowed := by
  refine (asks_ask (hplain rfl)).bind fun found => (asks_require _ _).bind fun balance => ?_
  refine asks_now.bind fun now => (asks_check _).bind fun after => ?_
  exact asks_ask (hplain rfl)

theorem asks_reverseRecords (records : List Record) : (reverseRecords records).Asks allowed := by
  induction records with
  | nil => exact asks_pure _
  | cons record rest ih => exact (asks_reverseRecord hplain record).bind fun _ => ih

end Posting

namespace Engine

open Posting

theorem asks_repostRecords (user : UserId) (amounts : ExchangeAmounts) (records : List Record) :
    (repostRecords user amounts records).Asks allowed := by
  induction records with
  | nil => exact asks_pure _
  | cons record rest ih =>
    refine (asks_reverseRecord hplain record).bind fun _ => ?_
    refine (asks_applyLeg hplain user _ _).bind fun balance => asks_now.bind fun now => ?_
    exact (asks_ask (hplain rfl)).bind fun _ => ih

theorem asks_postDebtLegs (debt : Debt) (legs : List Money) :
    (postDebtLegs debt legs).Asks allowed := by
  induction legs with
  | nil => exact asks_pure _
  | cons money rest ih =>
    refine (asks_postLeg hplain debt.userId money _ _ _).bind fun record => ?_
    exact ih.bind fun records => asks_pure _

theorem asks_findFreeRecord (id : RecordId) : (findFreeRecord id).Asks allowed := by
  refine (asks_ask (hplain rfl)).bind fun found => (asks_require _ _).bind fun record => ?_
  split
  · exact fun _ => trivial
  · exact asks_pure record

theorem asks_findExchange (id : ExchangeId) : (findExchange id).Asks allowed :=
  (asks_ask (hplain rfl)).bind fun _ => asks_require _ _

theorem asks_findDebtor (id : DebtorId) : (findDebtor id).Asks allowed :=
  (asks_ask (hplain rfl)).bind fun _ => asks_require _ _

theorem asks_findDebt (id : DebtId) : (findDebt id).Asks allowed :=
  (asks_ask (hplain rfl)).bind fun _ => asks_require _ _

omit hplain in
theorem asks_adjustDebtor (debtor : Debtor) (change : Amount) :
    (adjustDebtor debtor change).Asks allowed :=
  asks_now.bind fun _ => asks_check _

omit hplain in
theorem asks_newDebt (debtor : Debtor) (status : DebtStatus) (amounts : DebtAmounts)
    (details : Option String) : (newDebt debtor status amounts details).Asks allowed :=
  asks_now.bind fun _ => asks_newId.bind fun _ => asks_pure _

theorem asks_unpostDebt (debt : Debt) (debtor : Debtor) :
    (unpostDebt debt debtor).Asks allowed := by
  refine (asks_ask (hplain rfl)).bind fun records => ?_
  refine (asks_reverseRecords hplain records).bind fun _ => ?_
  exact (asks_ask (hplain rfl)).bind fun _ => asks_adjustDebtor debtor _

end Engine

end Steps

theorem Posting.asks_findUser {allowed : Call → Prop} (id : UserId)
    (hplain : ∀ {call : Call}, call.isOpening = false → allowed call) :
    (findUser id).Asks allowed :=
  (asks_ask (hplain rfl)).bind fun _ => asks_require _ _

/-! ## Requests -/

namespace Request

variable {limits : Limits}

theorem opens_openBalance (user : UserId) (currency : Currency) :
    ((openBalance user currency).operation limits).work.Asks
      (Call.OpenedBy (.openBalance user currency)) := by
  refine (Posting.asks_findUser user Call.openedBy_of_not_isOpening).bind fun owner => ?_
  refine asks_now.bind fun now => asks_newId.bind fun id => ?_
  exact (asks_ask ⟨user, rfl⟩).bind fun _ => asks_pure _

theorem opens_createDebt (wanted : NewDebt) :
    ((createDebt wanted).operation limits).work.Asks (Call.OpenedBy (.createDebt wanted)) := by
  refine (Posting.asks_findUser wanted.userId Call.openedBy_of_not_isOpening).bind fun user => ?_
  refine asks_now.bind fun now => asks_newId.bind fun id past => ?_
  refine obeys_bind.mpr (obeys_bind.mpr fun moment => obeys_check.mpr fun debtor hadjust => ?_)
  obtain ⟨_, hrow⟩ := (Debtor.Revised.of_adjust hadjust).sameRow
  have hcurrency : wanted.debted.currency = debtor.currency := by rw [hrow, Debtor.new]
  have hopens : Call.OpenedBy (.createDebt wanted) (.createDebtor debtor) :=
    ⟨wanted, rfl, hcurrency⟩
  refine (asks_ask hopens).bind (fun _ => ?_) past
  refine (Engine.asks_newDebt debtor .opening _ _).bind fun debt => ?_
  refine (asks_ask (Call.openedBy_of_not_isOpening rfl)).bind fun _ => ?_
  exact (Engine.asks_postDebtLegs Call.openedBy_of_not_isOpening debt _).bind fun _ => asks_pure _

/-- Whatever the store answers, a request opens only what it is about. -/
theorem opens (limits : Limits) (request : Request) :
    (request.operation limits).work.Asks (Call.OpenedBy request) := by
  have hplain : ∀ {call : Call}, call.isOpening = false → call.OpenedBy request :=
    Call.openedBy_of_not_isOpening
  cases request with
  | openBalance user currency => exact opens_openBalance user currency
  | createDebt wanted => exact opens_createDebt wanted
  | performBalanceRecord wanted =>
    refine (Posting.asks_findUser _ hplain).bind fun user => asks_newId.bind fun id => ?_
    refine (Posting.asks_postLeg hplain _ _ _ _ _).bind fun sold => ?_
    exact (Posting.asks_postLeg hplain _ _ _ _ _).bind fun received => asks_pure _
  | postBalanceRecord user kind money details =>
    refine (Posting.asks_findUser _ hplain).bind fun owner => ?_
    exact Posting.asks_postLeg hplain _ _ _ _ _
  | rollbackRecord id =>
    refine (Engine.asks_findFreeRecord hplain id).bind fun record => ?_
    refine (Posting.asks_reverseRecord hplain record).bind fun balance => ?_
    exact (asks_ask (hplain rfl)).bind fun _ => asks_pure _
  | updateRecord id kind money =>
    refine (Engine.asks_findFreeRecord hplain id).bind fun record => ?_
    refine (Posting.asks_reverseRecord hplain record).bind fun _ => ?_
    refine (Posting.asks_applyLeg hplain _ _ _).bind fun balance => asks_now.bind fun now => ?_
    exact (asks_ask (hplain rfl)).bind fun _ => asks_pure _
  | createExchange wanted =>
    refine (Posting.asks_findUser _ hplain).bind fun user => ?_
    refine asks_now.bind fun now => asks_newId.bind fun id => ?_
    refine (asks_ask (hplain rfl)).bind fun _ => ?_
    refine (Posting.asks_postLeg hplain _ _ _ _ _).bind fun sold => ?_
    exact (Posting.asks_postLeg hplain _ _ _ _ _).bind fun received => asks_pure _
  | updateExchange id amounts =>
    refine (Engine.asks_findExchange hplain id).bind fun exchange => ?_
    refine (asks_ask (hplain rfl)).bind fun records => ?_
    refine (Engine.asks_repostRecords hplain _ _ _).bind fun _ => asks_now.bind fun now => ?_
    exact (asks_ask (hplain rfl)).bind fun _ => asks_pure _
  | deleteExchange id =>
    refine (Engine.asks_findExchange hplain id).bind fun exchange => ?_
    refine (asks_ask (hplain rfl)).bind fun records => ?_
    refine (Posting.asks_reverseRecords hplain _).bind fun _ => ?_
    refine (asks_ask (hplain rfl)).bind fun _ => ?_
    exact (asks_ask (hplain rfl)).bind fun _ => asks_pure _
  | settleDebt wanted =>
    refine (Engine.asks_findDebtor hplain _).bind fun debtor => (asks_check _).bind fun _ => ?_
    refine (Engine.asks_newDebt debtor _ _ _).bind fun debt => ?_
    refine (asks_ask (hplain rfl)).bind fun _ => ?_
    refine (Engine.asks_postDebtLegs hplain _ _).bind fun records => ?_
    refine (Engine.asks_adjustDebtor debtor _).bind fun after => ?_
    exact (asks_ask (hplain rfl)).bind fun _ => asks_pure _
  | updateDebt id amounts =>
    refine (Engine.asks_findDebt hplain id).bind fun debt => ?_
    refine (Engine.asks_findDebtor hplain _).bind fun debtor => (asks_check _).bind fun _ => ?_
    refine (Engine.asks_unpostDebt hplain debt debtor).bind fun cleared => ?_
    refine asks_now.bind fun now => (Engine.asks_postDebtLegs hplain _ _).bind fun records => ?_
    refine (Engine.asks_adjustDebtor cleared _).bind fun after => ?_
    refine (asks_ask (hplain rfl)).bind fun stored => ?_
    exact (asks_ask (hplain rfl)).bind fun _ => asks_pure _
  | deleteDebt id =>
    refine (Engine.asks_findDebt hplain id).bind fun debt => ?_
    refine (Engine.asks_findDebtor hplain _).bind fun debtor => ?_
    refine (Engine.asks_unpostDebt hplain debt debtor).bind fun cleared => ?_
    refine (asks_ask (hplain rfl)).bind fun stored => ?_
    exact (asks_ask (hplain rfl)).bind fun _ => asks_pure _
  | _ =>
    refine ((onlyReads limits _ rfl).mono_rule fun _ _ hread => ?_).asks
    exact hplain (Call.isOpening_of_isRead hread)

end Request

end CashLedger
