import CashLedger.Proofs.Alone.Debts
import CashLedger.Proofs.Engine.Overflows

/-!
# What requests move

For each request the movements that its work enacts, in their order, on the tables that it sees.
If the work fails with an overflow of a balance, it is one of these that overflows.
-/

namespace CashLedger

open Work Posting Engine

/-- What a request moves and tests over balances. -/
@[simp] def Request.movements (tables : Tables) : Request → List Movement
  | .performBalanceRecord wanted =>
    [wanted.sold.posting tables.place wanted.userId .debit,
      wanted.received.posting tables.place wanted.userId .credit]
  | .postBalanceRecord user kind money _ => [money.posting tables.place user kind.direction]
  | .rollbackRecord id =>
    (tables.records.find? id).elim [] fun record => [record.undoing]
  | .updateRecord id kind money =>
    (tables.records.find? id).elim [] fun record =>
      [record.undoing, money.posting tables.place record.userId kind.direction]
  | .createExchange wanted =>
    [wanted.sold.posting tables.place wanted.userId .debit,
      wanted.received.posting tables.place wanted.userId .credit]
  | .updateExchange id amounts =>
    (tables.exchanges.find? id).elim [] fun exchange =>
      (tables.recordsWhere (Record.isOfExchange id)).flatMap
        (Record.restating tables.place exchange.userId amounts)
  | .deleteExchange id => (tables.recordsWhere (Record.isOfExchange id)).map Record.undoing
  | .createDebt wanted =>
    .passed (Amount.add? 0 (wanted.kind.signed wanted.debted.amount)).isSome ::
      wanted.received.map (Money.posting tables.place wanted.userId wanted.kind.direction)
  | .settleDebt wanted =>
    (tables.debtors.find? wanted.debtorId).elim [] fun debtor =>
      .passed (debtor.checkCurrency wanted.debted.currency).isOk ::
        postingLegs tables.place debtor.userId wanted.amounts (some debtor.balance)
  | .updateDebt id amounts =>
    (tables.debts.find? id).elim [] fun debt =>
      (tables.debtors.find? debt.debtorId).elim [] fun debtor =>
        .passed (debtor.checkCurrency amounts.debted.currency).isOk ::
          (unposting tables debt debtor ++
            postingLegs tables.place debt.userId amounts
              (debtor.balance.add? (-debt.debted.amount)))
  | .deleteDebt id =>
    (tables.debts.find? id).elim [] fun debt =>
      (tables.debtors.find? debt.debtorId).elim [] fun debtor => unposting tables debt debtor
  | _ => []

namespace Engine

variable {place : Places} {limits : Limits} {tables : Tables} {supply : Supply} {first : Course}
  {movements : List Movement}

/-! ## Steps of the engine -/

theorem calm_findUser (id : UserId) : (findUser id).Calm :=
  calm_askRequire fun _ h => by cases h

theorem calm_findFreeRecord (id : RecordId) : (findFreeRecord id).Calm := by
  refine (calm_ask _).bind fun _ => (calm_require fun _ h => by cases h).bind fun record => ?_
  split
  · exact calm_fail fun _ h => by cases h
  · exact calm_pure record

theorem calm_findExchange (id : ExchangeId) : (findExchange id).Calm :=
  calm_askRequire fun _ h => by cases h

theorem calm_findDebt (id : DebtId) : (findDebt id).Calm :=
  calm_askRequire fun _ h => by cases h

theorem calm_findDebtor (id : DebtorId) : (findDebtor id).Calm :=
  calm_askRequire fun _ h => by cases h

theorem checkCurrency_ne_overflow (debtor : Debtor) (currency : Currency)
    (subject : OverflowSubject) :
    debtor.checkCurrency currency ≠ .error (.amountOverflow subject) := by
  unfold Debtor.checkCurrency
  split <;> exact fun h => by cases h

theorem blames_adjustDebtor (debtor : Debtor) (change : Amount) :
    (adjustDebtor debtor change).Blames first movements := by
  intro subject hperform
  rw [adjustDebtor, perform_bind_of_ok (perform_now_eq_ok.mpr ⟨rfl, rfl⟩)] at hperform
  cases hsum : debtor.balance.add? change with
  | some balance =>
    simp only [Debtor.adjust, hsum] at hperform
    cases hperform
  | none =>
    simp only [Debtor.adjust, hsum] at hperform
    cases hperform
    exact .inl ⟨debtor.id, rfl⟩

theorem blames_postPair (hplaced : first.Placed place) (user : UserId) (sold received : Money)
    (source : RecordSource) (details : Option String) {α : Type} (answer : Record → Record → α) :
    (do let record ← postLeg user sold .debit source details
        let other ← postLeg user received .credit source details
        return answer record other).Blames first
      [sold.posting place user .debit, received.posting place user .credit] :=
  .bind (blames_postLeg hplaced user sold .debit source details)
    (enacts_postLeg hplaced user sold .debit source details) fun _ hplaced' _ =>
      (blames_postLeg hplaced' user received .credit source details).bind_calm fun _ => calm_pure _

theorem blames_repostRecords (hplaced : first.Placed place) (user : UserId)
    (amounts : ExchangeAmounts) (records : List Record) :
    (repostRecords user amounts records).Blames first
      (records.flatMap (Record.restating place user amounts)) := by
  induction records generalizing first with
  | nil => exact (calm_pure ()).blames
  | cons record rest ih =>
    have hreverse := enacts_reverseRecord hplaced record
    refine (blames_reverseRecord record).bind hreverse fun _ hplaced₁ _ => ?_
    have happly := enacts_applyLeg hplaced₁ user (amounts.moneyFor record.kind)
      record.kind.direction
    refine (blames_applyLeg hplaced₁ user _ _).bind happly fun {balance applied} _ hplaced₂ _ => ?_
    refine blames_bind (perform_now_eq_ok.mpr ⟨rfl, rfl⟩) rfl ?_
    refine (calm_ask _).bind_blames fun hupdate => ?_
    obtain ⟨unit, hanswer, rfl⟩ := perform_ask_eq_ok.mp hupdate
    obtain ⟨-, rfl⟩ := MemoryUnit.changing_eq_ok.mp hanswer
    refine ⟨rfl, ih ?_⟩
    exact hplaced₂.still rfl

theorem blames_postDebtLegs (hplaced : first.Placed place) (debt : Debt) (legs : List Money) :
    (postDebtLegs debt legs).Blames first
      (legs.map (Money.posting place debt.userId debt.kind.direction)) := by
  induction legs generalizing first with
  | nil => exact (calm_pure _).blames
  | cons money rest ih =>
    have hpost := enacts_postLeg hplaced debt.userId money debt.kind.direction (.debt debt.id)
      debt.details
    exact (blames_postLeg hplaced debt.userId money debt.kind.direction _ _).bind hpost
      fun _ hplaced' _ => (ih hplaced').bind_calm fun _ => calm_pure _

theorem blames_unpostDebt (hplaced : first.Placed place) (debt : Debt) (debtor : Debtor) :
    (unpostDebt debt debtor).Blames first
      ((first.unit.working.recordsWhere (Record.isOfDebt debt.id)).map Record.undoing ++
        [.passed (debtor.balance.add? (-debt.debted.amount)).isSome]) := by
  have hplaced' : (first.answered (.recordsForDebt debt.id) first.unit).Placed place :=
    hplaced.still rfl
  refine blames_bind (perform_ask_eq_ok.mpr ⟨_, rfl, rfl⟩) rfl ?_
  refine (blames_reverseRecords hplaced' _).bind (enacts_reverseRecords hplaced' _)
    fun {_ middle} _ _ hrestates => ?_
  have hdropped := hrestates.dropWhere (.deleteRecordsForDebt debt.id) (Record.isOfDebt debt.id)
  exact blames_bind (perform_ask_eq_ok.mpr ⟨_, rfl, rfl⟩) hdropped.2 (blames_adjustDebtor _ _)

/-! ## Changes -/

section Changes

variable (hone : tables.balances.OnePerPair)

include hone

theorem blames_performBalanceRecord (wanted : ManualExchange) :
    (performBalanceRecord limits wanted).work.Blames (.start tables supply)
      ((Request.performBalanceRecord wanted).movements tables) := by
  have hplaced : (Course.start tables supply).Placed tables.place := ⟨hone, rfl⟩
  refine (calm_findUser _).bind_blames fun {user _} hfind => ?_
  obtain ⟨huser, rfl⟩ := perform_findUser_eq_ok.mp hfind
  have hid : user.id = wanted.userId := Table.key_of_find? huser
  refine ⟨rfl, blames_bind (perform_newId_eq_ok.mpr ⟨rfl, rfl⟩) rfl ?_⟩
  rw [Request.movements, ← hid]
  exact blames_postPair (hplaced.still (by rfl)) user.id wanted.sold wanted.received _
    wanted.details _

theorem blames_postBalanceRecord (id : UserId) (kind : RecordKind) (money : Money)
    (details : Option String) :
    (postBalanceRecord limits id kind money details).work.Blames (.start tables supply)
      ((Request.postBalanceRecord id kind money details).movements tables) := by
  have hplaced : (Course.start tables supply).Placed tables.place := ⟨hone, rfl⟩
  refine (calm_findUser _).bind_blames fun {user _} hfind => ?_
  obtain ⟨huser, rfl⟩ := perform_findUser_eq_ok.mp hfind
  obtain rfl : user.id = id := Table.key_of_find? huser
  exact ⟨rfl, blames_postLeg (hplaced.still (by rfl)) user.id money kind.direction .manual details⟩

omit hone in
theorem blames_rollbackRecord (id : RecordId) :
    (rollbackRecord id).work.Blames (.start tables supply)
      ((Request.rollbackRecord id).movements tables) := by
  refine (calm_findFreeRecord _).bind_blames fun {record _} hfree => ?_
  obtain ⟨hfind, -, rfl⟩ := perform_findFreeRecord hfree
  rw [Request.movements, show tables.records.find? id = some record from hfind]
  exact ⟨rfl, (blames_reverseRecord record).bind_calm fun _ =>
    (calm_ask _).bind fun _ => calm_pure _⟩

theorem blames_updateRecord (id : RecordId) (kind : RecordKind) (money : Money) :
    (updateRecord id kind money).work.Blames (.start tables supply)
      ((Request.updateRecord id kind money).movements tables) := by
  have hplaced : (Course.start tables supply).Placed tables.place := ⟨hone, rfl⟩
  refine (calm_findFreeRecord _).bind_blames fun {record _} hfree => ?_
  obtain ⟨hfind, -, rfl⟩ := perform_findFreeRecord hfree
  rw [Request.movements, show tables.records.find? id = some record from hfind]
  refine ⟨rfl, (blames_reverseRecord record).bind
    (enacts_reverseRecord (hplaced.still (by rfl)) record) fun _ hplaced' _ => ?_⟩
  exact (blames_applyLeg hplaced' record.userId money kind.direction).bind_calm fun _ =>
    calm_now.bind fun _ => (calm_ask _).bind fun _ => calm_pure _

theorem blames_createExchange (wanted : NewExchange) :
    (createExchange limits wanted).work.Blames (.start tables supply)
      ((Request.createExchange wanted).movements tables) := by
  have hplaced : (Course.start tables supply).Placed tables.place := ⟨hone, rfl⟩
  refine (calm_findUser _).bind_blames fun {user _} hfind => ?_
  obtain ⟨huser, rfl⟩ := perform_findUser_eq_ok.mp hfind
  have hid : user.id = wanted.userId := Table.key_of_find? huser
  refine ⟨rfl, blames_bind (perform_now_eq_ok.mpr ⟨rfl, rfl⟩) rfl ?_⟩
  refine blames_bind (perform_newId_eq_ok.mpr ⟨rfl, rfl⟩) rfl ?_
  refine blames_bind (perform_ask_eq_ok.mpr ⟨_, rfl, rfl⟩) rfl ?_
  rw [Request.movements, ← hid]
  exact blames_postPair (hplaced.still (by rfl)) user.id wanted.sold wanted.received _
    wanted.details _

theorem blames_updateExchange (id : ExchangeId) (amounts : ExchangeAmounts) :
    (updateExchange id amounts).work.Blames (.start tables supply)
      ((Request.updateExchange id amounts).movements tables) := by
  have hplaced : (Course.start tables supply).Placed tables.place := ⟨hone, rfl⟩
  refine (calm_findExchange _).bind_blames fun {exchange _} hexchange => ?_
  obtain ⟨hfind, rfl⟩ := perform_findExchange hexchange
  rw [Request.movements, show tables.exchanges.find? id = some exchange from hfind]
  refine ⟨rfl, blames_bind (perform_ask_eq_ok.mpr ⟨_, rfl, rfl⟩) rfl ?_⟩
  exact (blames_repostRecords (hplaced.still (by rfl)) exchange.userId amounts _).bind_calm fun _ =>
    calm_now.bind fun _ => (calm_ask _).bind fun _ => calm_pure _

theorem blames_deleteExchange (id : ExchangeId) :
    (deleteExchange id).work.Blames (.start tables supply)
      ((Request.deleteExchange id).movements tables) := by
  have hplaced : (Course.start tables supply).Placed tables.place := ⟨hone, rfl⟩
  refine (calm_findExchange _).bind_blames fun hexchange => ?_
  obtain ⟨-, rfl⟩ := perform_findExchange hexchange
  refine ⟨rfl, blames_bind (perform_ask_eq_ok.mpr ⟨_, rfl, rfl⟩) rfl ?_⟩
  exact (blames_reverseRecords (hplaced.still (by rfl)) _).bind_calm fun _ =>
    (calm_ask _).bind fun _ => (calm_ask _).bind fun _ => calm_pure _

theorem blames_createDebt (wanted : NewDebt) :
    (createDebt limits wanted).work.Blames (.start tables supply)
      ((Request.createDebt wanted).movements tables) := by
  have hplaced : (Course.start tables supply).Placed tables.place := ⟨hone, rfl⟩
  refine (calm_findUser _).bind_blames fun {user _} hfind => ?_
  obtain ⟨huser, rfl⟩ := perform_findUser_eq_ok.mp hfind
  have hid : user.id = wanted.userId := Table.key_of_find? huser
  refine ⟨rfl, blames_bind (perform_now_eq_ok.mpr ⟨rfl, rfl⟩) rfl ?_⟩
  refine blames_bind (perform_newId_eq_ok.mpr ⟨rfl, rfl⟩) rfl ?_
  refine (blames_adjustDebtor _ _).bind (enacts_adjustDebtor (hplaced.still (by rfl)) _ _)
    fun {debtor _} _ hplaced' hadjusted => ?_
  obtain ⟨hcounts, rfl⟩ := hadjusted
  have howner : debtor.userId = wanted.userId := by
    rw [hcounts.row, ← hid]
    rfl
  rw [← howner]
  refine blames_bind (perform_ask_eq_ok.mpr ⟨_, rfl, rfl⟩) rfl ?_
  refine blames_bind (perform_bind_eq_ok.mpr ⟨_, _, perform_now_eq_ok.mpr ⟨rfl, rfl⟩,
    perform_bind_eq_ok.mpr ⟨_, _, perform_newId_eq_ok.mpr ⟨rfl, rfl⟩,
      perform_pure_eq_ok.mpr ⟨rfl, rfl⟩⟩⟩) rfl ?_
  refine blames_bind (perform_ask_eq_ok.mpr ⟨_, rfl, rfl⟩) rfl ?_
  exact (blames_postDebtLegs (hplaced'.still (by rfl)) _ _).bind_calm fun _ => calm_pure _

theorem blames_settleDebt (wanted : DebtInstallment) :
    (settleDebt limits wanted).work.Blames (.start tables supply)
      ((Request.settleDebt wanted).movements tables) := by
  have hplaced : (Course.start tables supply).Placed tables.place := ⟨hone, rfl⟩
  refine (calm_findDebtor _).bind_blames fun {debtor _} hdebtor => ?_
  obtain ⟨hfind, rfl⟩ := perform_findDebtor hdebtor
  rw [Request.movements, show tables.debtors.find? wanted.debtorId = some debtor from hfind]
  refine ⟨rfl, blames_bind_check (checkCurrency_ne_overflow debtor _) (hplaced.still (by rfl))
    fun _ => ?_⟩
  refine blames_bind (perform_bind_eq_ok.mpr ⟨_, _, perform_now_eq_ok.mpr ⟨rfl, rfl⟩,
    perform_bind_eq_ok.mpr ⟨_, _, perform_newId_eq_ok.mpr ⟨rfl, rfl⟩,
      perform_pure_eq_ok.mpr ⟨rfl, rfl⟩⟩⟩) rfl ?_
  refine blames_bind (perform_ask_eq_ok.mpr ⟨_, rfl, rfl⟩) rfl ?_
  refine (blames_postDebtLegs (hplaced.still (by rfl)) _ _).bind
    (enacts_postDebtLegs (hplaced.still (by rfl)) _ _) fun _ _ _ => ?_
  exact (blames_adjustDebtor _ _).bind_calm fun _ => (calm_ask _).bind fun _ => calm_pure _

theorem blames_updateDebt (id : DebtId) (amounts : DebtAmounts) :
    (updateDebt limits id amounts).work.Blames (.start tables supply)
      ((Request.updateDebt id amounts).movements tables) := by
  have hplaced : (Course.start tables supply).Placed tables.place := ⟨hone, rfl⟩
  refine (calm_findDebt _).bind_blames fun {debt _} hdebt => ?_
  obtain ⟨hfind, rfl⟩ := perform_findDebt hdebt
  refine ⟨rfl, (calm_findDebtor _).bind_blames fun {debtor _} hdebtor => ?_⟩
  obtain ⟨hfind', rfl⟩ := perform_findDebtor hdebtor
  rw [Request.movements, show tables.debts.find? id = some debt from hfind, Option.elim_some,
    show tables.debtors.find? debt.debtorId = some debtor from hfind', Option.elim_some]
  refine ⟨rfl, blames_bind_check (checkCurrency_ne_overflow debtor _) (hplaced.still (by rfl))
    fun _ => ?_⟩
  refine (blames_unpostDebt (hplaced.still (by rfl)) debt debtor).bind
    (enacts_unpostDebt (hplaced.still (by rfl)) debt debtor) fun _ hplaced' _ => ?_
  refine blames_bind (perform_now_eq_ok.mpr ⟨rfl, rfl⟩) rfl ?_
  refine (blames_postDebtLegs (hplaced'.still (by rfl)) _ _).bind
    (enacts_postDebtLegs (hplaced'.still (by rfl)) _ _) fun _ _ _ => ?_
  exact (blames_adjustDebtor _ _).bind_calm fun _ =>
    (calm_ask _).bind fun _ => (calm_ask _).bind fun _ => calm_pure _

theorem blames_deleteDebt (id : DebtId) :
    (deleteDebt id).work.Blames (.start tables supply)
      ((Request.deleteDebt id).movements tables) := by
  have hplaced : (Course.start tables supply).Placed tables.place := ⟨hone, rfl⟩
  refine (calm_findDebt _).bind_blames fun {debt _} hdebt => ?_
  obtain ⟨hfind, rfl⟩ := perform_findDebt hdebt
  refine ⟨rfl, (calm_findDebtor _).bind_blames fun {debtor _} hdebtor => ?_⟩
  obtain ⟨hfind', rfl⟩ := perform_findDebtor hdebtor
  rw [Request.movements, show tables.debts.find? id = some debt from hfind, Option.elim_some,
    show tables.debtors.find? debt.debtorId = some debtor from hfind', Option.elim_some]
  exact ⟨rfl, (blames_unpostDebt (hplaced.still (by rfl)) debt debtor).bind_calm fun _ =>
    (calm_ask _).bind fun _ => (calm_ask _).bind fun _ => calm_pure _⟩

end Changes

end Engine

end CashLedger
