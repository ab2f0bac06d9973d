import CashLedger.Proofs.Engine.TwinRows

/-!
# Requests of twin runs

What follows the first look at the store goes on in step, for each request that names a
user or a row of that user: it writes rows of the user only, answers alike on both stores,
and leaves units that can be committed.
-/

namespace CashLedger

open Work

namespace Twins

variable {t : Twins} {α β : Type}

/-! ## From the start to the commit -/

namespace Sync

variable {work : Work α} {work' : Work β} {facts : α → β → Prop}
  {pre last : MemoryUnit → MemoryUnit → Prop}

theorem opened (hwork : t.Sync t.Paired work work' facts last) (hsound : t.Sound) :
    t.Sync t.Opened work work' facts last :=
  hwork.weaken (fun _ _ => Opened.paired hsound) (fun _ _ => id) fun _ _ => id

theorem done (hwork : t.Sync pre work work' facts t.Paired) :
    t.Sync pre work work' facts t.Done :=
  hwork.weaken (fun _ _ => id) (fun _ _ => id) fun _ _ => Paired.done

theorem queried (hwork : t.Sync t.Opened work work' facts t.Opened) (hsound : t.Sound) :
    t.Sync t.Opened work work' facts t.Done :=
  hwork.weaken (fun _ _ => id) (fun _ _ => id) fun _ _ hopened => (hopened.paired hsound).done

theorem forget (hwork : t.Sync pre work work' facts last) {facts' : α → β → Prop}
    (hfacts : ∀ a b, facts a b → facts' a b) : t.Sync pre work work' facts' last :=
  hwork.weaken (fun _ _ => id) hfacts fun _ _ => id

end Sync

section Requests

variable (hsound : t.Sound)

include hsound

/-! ## Balances -/

theorem sync_ask_createBalance {a b : Balance} (hplaced : t.Placed a b) :
    t.Sync t.Opened (ask (.createBalance a)) (ask (.createBalance b)) (fun _ _ => True)
      t.Done := by
  refine .ask fun u v hopened => ?_
  have hrel := Paired.balanceFor hsound (hopened.paired hsound) a.currency
  have huser : a.userId = t.user := hplaced.owner
  have huser' : b.userId = t.user := hplaced.owner_right
  have hcurrency : b.currency = a.currency := by
    obtain ⟨_, _, _, -, -, -, rfl⟩ := SameBalance.exists_row hplaced.same
    rfl
  obtain ⟨rfl, rfl⟩ := hopened
  simp only [MemoryUnit.answer, MemoryUnit.createBalance, huser, huser', hcurrency]
  cases hfind : t.left.balanceFor t.user a.currency <;>
    cases hfind' : t.right.balanceFor t.user a.currency <;> rw [hfind, hfind'] at hrel <;>
    cases hrel
  · refine .ok trivial ⟨?_, ?_, ?_⟩
    · exact MemoryUnit.ready_createBalance (huser ▸ hfind) huser hplaced.left
    · exact MemoryUnit.ready_createBalance (huser' ▸ hcurrency ▸ hfind') huser' hplaced.right
    · exact { hsound.matchesAll_start with
        balances := hsound.matchesAll_start.balances.insert hsound.fresh hplaced.same huser }
  · exact .error _ _ _

theorem sync_openBalance (currency : Currency) :
    t.Sync t.Opened (Engine.openBalance t.user currency).work
      (Engine.openBalance t.user currency).work t.SameBalance t.Done := by
  refine (sync_findUser hsound rfl).bind fun _ user hfound => ?_
  obtain ⟨rfl, huser⟩ := hfound
  refine Sync.now.bind fun now now' htime => Sync.newId.bind fun id id' htogether => ?_
  have hplaced : t.Placed (Balance.zero id user currency now)
      (Balance.zero id' user currency now') :=
    hsound.placed_of_together ⟨.inl htogether, htime, htime, rfl⟩ huser htogether
  exact (sync_ask_createBalance hsound hplaced).bind fun _ _ _ => .pure hplaced.same

theorem sync_balance (currency : Currency) :
    t.Sync t.Opened (Engine.balance t.user currency).work (Engine.balance t.user currency).work
      t.SameBalance t.Paired :=
  ((sync_findBalance hsound currency).opened hsound).forget fun _ _ => Account.same

theorem sync_balanceById {id : BalanceId} (hhas : t.left.balances.HasOf t.user id) :
    t.Sync t.Opened (Engine.balanceById id).work (Engine.balanceById id).work t.SameBalance
      t.Paired := by
  refine ((sync_ask_balanceById hsound hhas).opened hsound).bind fun _ _ hrel => ?_
  exact (Sync.require _ hrel).forget fun _ _ => Account.same

/-! ## Records -/

theorem sync_postBalanceRecord (limits : Limits) (kind : RecordKind) (money : Money)
    (details : Option String) :
    t.Sync t.Opened (Engine.postBalanceRecord limits t.user kind money details).work
      (Engine.postBalanceRecord limits t.user kind money details).work t.SameRecord t.Paired := by
  refine (sync_findUser hsound rfl).bind fun _ user hfound => ?_
  obtain ⟨rfl, huser⟩ := hfound
  rw [huser]
  exact (sync_postLeg hsound money kind.direction .manual details).opened hsound

theorem sync_performBalanceRecord (limits : Limits) {wanted : ManualExchange}
    (hwanted : wanted.userId = t.user) :
    t.Sync t.Opened (Engine.performBalanceRecord limits wanted).work
      (Engine.performBalanceRecord limits wanted).work (List.Forall₂ t.SameRecord) t.Paired := by
  refine (sync_findUser hsound hwanted).bind fun _ user hfound => ?_
  obtain ⟨rfl, huser⟩ := hfound
  refine Sync.bind Sync.newId fun id id' htogether => Sync.opened ?_ hsound
  have hsource : t.SameSource (.transaction id) (.transaction id') := .transaction (.inl htogether)
  rw [huser]
  refine (sync_postLeg hsound _ _ hsource _).bind fun sold sold' hsold => ?_
  refine (sync_postLeg hsound _ _ hsource _).bind fun received received' hreceived => ?_
  exact .pure (.cons hsold (.cons hreceived .nil))

theorem sync_rollbackRecord {id : RecordId} (hhas : t.left.records.HasOf t.user id) :
    t.Sync t.Opened (Engine.rollbackRecord id).work (Engine.rollbackRecord id).work
      t.SameBalance t.Paired := by
  refine (sync_findFreeRecord hsound hhas).bind fun _ record hfound => Sync.opened ?_ hsound
  obtain ⟨rfl, hmem, -, huser⟩ := hfound
  have hbalance := hsound.left.hasOf_balance hmem
  rw [show record.userId = t.user from huser] at hbalance
  refine (sync_reverseRecord hsound hbalance).bind fun a b haccount => ?_
  exact (sync_ask_deleteRecord hsound hhas).bind fun _ _ _ => .pure haccount.same

/-- A record of the user, posted anew on an account. -/
theorem Account.kept_repost {a b : Balance} (haccount : t.Account a b) {record : Record}
    (hmem : record ∈ t.left.records.rows) (huser : record.userId = t.user) (leg : Leg)
    {now now' : Timestamp} (htime : t.SameTime now now') :
    t.Kept (record.repost a leg now) (record.repost b leg now') where
  same := by
    have hself := hsound.sameRecord_self hmem huser
    obtain ⟨_, _, -, -, rfl⟩ := haccount.exists_row hsound
    exact ⟨hself.id, haccount.same.id, hself.source, hself.createdAt, htime, rfl⟩
  owner := huser
  has := ⟨record, hmem, rfl, huser⟩

theorem sync_updateRecord {id : RecordId} (hhas : t.left.records.HasOf t.user id)
    (kind : RecordKind) (money : Money) :
    t.Sync t.Opened (Engine.updateRecord id kind money).work
      (Engine.updateRecord id kind money).work t.SameRecord t.Paired := by
  refine (sync_findFreeRecord hsound hhas).bind fun _ record hfound => Sync.opened ?_ hsound
  obtain ⟨rfl, hmem, -, huser⟩ := hfound
  have huser : record.userId = t.user := huser
  have hbalance := hsound.left.hasOf_balance hmem
  rw [huser] at hbalance
  refine (sync_reverseRecord hsound hbalance).bind fun _ _ _ => ?_
  rw [huser]
  refine (sync_applyLeg hsound money kind.direction).bind fun a b haccount => ?_
  refine Sync.now.bind fun now now' htime => ?_
  have hkept := haccount.kept_repost hsound hmem huser ⟨kind.direction, money.amount⟩ htime
  exact (sync_ask_updateRecord hsound hkept).bind fun _ _ _ => .pure hkept.same

theorem sync_record {id : RecordId} (hhas : t.left.records.HasOf t.user id) :
    t.Sync t.Opened (Engine.record id).work (Engine.record id).work t.SameRecord t.Opened := by
  refine (sync_lookup hsound hhas fun _ _ => rfl).bind fun _ _ hrel =>
    (Sync.require _ hrel).forget ?_
  rintro _ record ⟨rfl, hmem, -, huser⟩
  exact hsound.sameRecord_self hmem huser

/-! ## Exchanges -/

theorem sync_createExchange (limits : Limits) {wanted : NewExchange}
    (hwanted : wanted.userId = t.user) :
    t.Sync t.Opened (Engine.createExchange limits wanted).work
      (Engine.createExchange limits wanted).work t.SameExchange t.Paired := by
  refine (sync_findUser hsound hwanted).bind fun _ user hfound => Sync.opened ?_ hsound
  obtain ⟨rfl, huser⟩ := hfound
  refine Sync.now.bind fun now now' htime => Sync.newId.bind fun id id' htogether => ?_
  have hplaced : t.Placed (Exchange.new id user wanted now) (Exchange.new id' user wanted now') :=
    hsound.placed_of_together ⟨.inl htogether, htime, htime, rfl⟩ huser htogether
  have hsource : t.SameSource (.exchange id) (.exchange id') := .exchange (.inl htogether)
  refine (sync_ask_createExchange hsound hplaced).bind fun _ _ _ => ?_
  rw [huser]
  refine (sync_postLeg hsound _ _ hsource _).bind fun _ _ _ => ?_
  refine (sync_postLeg hsound _ _ hsource _).bind fun _ _ _ => ?_
  exact .pure hplaced.same

theorem sync_repostRecords (amounts : ExchangeAmounts) {records : List Record}
    (hmem : ∀ record ∈ records, record ∈ t.left.records.rows)
    (huser : ∀ record ∈ records, record.userId = t.user) :
    t.Sync t.Paired (Engine.repostRecords t.user amounts records)
      (Engine.repostRecords t.user amounts records) (fun _ _ => True) t.Paired := by
  induction records with
  | nil => exact .pure trivial
  | cons record rest ih =>
    obtain ⟨hhead, hrest⟩ := List.forall_mem_cons.mp hmem
    obtain ⟨hmine, hothers⟩ := List.forall_mem_cons.mp huser
    have hbalance := hsound.left.hasOf_balance hhead
    rw [hmine] at hbalance
    refine (sync_reverseRecord hsound hbalance).bind fun _ _ _ => ?_
    refine (sync_applyLeg hsound _ _).bind fun a b haccount => ?_
    refine Sync.now.bind fun now now' htime => ?_
    have hkept := haccount.kept_repost hsound hhead hmine
      ⟨record.kind.direction, (amounts.moneyFor record.kind).amount⟩ htime
    exact (sync_ask_updateRecord hsound hkept).bind fun _ _ _ => ih hrest hothers

theorem sync_updateExchange {id : ExchangeId} (hhas : t.left.exchanges.HasOf t.user id)
    (amounts : ExchangeAmounts) :
    t.Sync t.Opened (Engine.updateExchange id amounts).work
      (Engine.updateExchange id amounts).work t.SameExchange t.Paired := by
  refine (sync_findExchange hsound hhas).bind fun _ exchange hfound => ?_
  obtain ⟨rfl, hmem, -, huser⟩ := hfound
  refine (sync_ask_recordsForExchange hsound hhas).bind fun _ records hlisted => ?_
  obtain ⟨rfl, hmem', huser'⟩ := hlisted
  have hself := hsound.sameExchange_self hmem huser
  rw [show exchange.userId = t.user from huser]
  refine ((sync_repostRecords hsound amounts hmem' huser').opened hsound).bind fun _ _ _ => ?_
  refine Sync.now.bind fun now now' htime => ?_
  have hkept : t.Kept (exchange.amend amounts now) (exchange.amend amounts now') :=
    ⟨⟨hself.id, hself.createdAt, htime, rfl⟩, huser, exchange, hmem, rfl, huser⟩
  exact (sync_ask_updateExchange hsound hkept).bind fun _ _ _ => .pure hkept.same

theorem sync_deleteExchange {id : ExchangeId} (hhas : t.left.exchanges.HasOf t.user id) :
    t.Sync t.Opened (Engine.deleteExchange id).work (Engine.deleteExchange id).work
      t.SameExchange t.Paired := by
  refine (sync_findExchange hsound hhas).bind fun _ exchange hfound => ?_
  obtain ⟨rfl, hmem, -, huser⟩ := hfound
  refine (sync_ask_recordsForExchange hsound hhas).bind fun _ records hlisted => ?_
  have hbalances := hlisted.hasOf_balance hsound
  obtain rfl := hlisted.eq
  refine ((sync_reverseRecords hsound hbalances).opened hsound).bind fun _ _ _ => ?_
  refine (sync_ask_deleteRecordsForExchange hsound hhas).bind fun _ _ _ => ?_
  refine (sync_ask_deleteExchange hsound hhas).bind fun _ _ _ => ?_
  exact .pure (hsound.sameExchange_self hmem huser)

theorem sync_exchange {id : ExchangeId} (hhas : t.left.exchanges.HasOf t.user id) :
    t.Sync t.Opened (Engine.exchange id).work (Engine.exchange id).work t.SameExchange
      t.Opened := by
  refine (sync_findExchange hsound hhas).forget ?_
  rintro _ exchange ⟨rfl, hmem, -, huser⟩
  exact hsound.sameExchange_self hmem huser

/-! ## Debts -/

theorem sync_newDebt {a b : Debtor} (hsame : t.SameDebtor a b) (huser : a.userId = t.user)
    (status : DebtStatus) (amounts : DebtAmounts) (details : Option String)
    {pre : MemoryUnit → MemoryUnit → Prop} :
    t.Sync pre (Engine.newDebt a status amounts details) (Engine.newDebt b status amounts details)
      (t.Placed : Debt → Debt → Prop) pre := by
  refine Sync.now.bind fun now now' htime => Sync.newId.bind fun id id' htogether => .pure ?_
  obtain ⟨_, _, _, hid, -, -, rfl⟩ := hsame.exists_row
  exact hsound.placed_of_together ⟨.inl htogether, hid, htime, htime, rfl⟩ huser htogether

theorem sync_postDebtLegs {a b : Debt} (hsame : t.SameDebt a b) (huser : a.userId = t.user)
    (legs : List Money) :
    t.Sync t.Paired (Engine.postDebtLegs a legs) (Engine.postDebtLegs b legs)
      (List.Forall₂ t.SameRecord) t.Paired := by
  induction legs with
  | nil => exact .pure .nil
  | cons money rest ih =>
    have hleg := sync_postLeg hsound money a.kind.direction (.debt hsame.id) a.details
    rw [← huser] at hleg
    obtain ⟨_, _, _, _, -, -, -, -, rfl⟩ := hsame.exists_row
    refine Sync.bind hleg fun record record' hrecord => ?_
    exact Sync.bind ih fun records records' hrecords => .pure (.cons hrecord hrecords)

theorem sync_unpostDebt {debt : Debt} (hdebt : t.left.debts.HasOf t.user debt.id)
    {debtor : Debtor} (hdebtor : t.Kept debtor debtor) :
    t.Sync t.Opened (Engine.unpostDebt debt debtor) (Engine.unpostDebt debt debtor)
      (t.Kept : Debtor → Debtor → Prop) t.Paired := by
  -- Nothing has been written yet, so both list the very same records.
  refine (sync_ask_recordsForDebt hsound hdebt).bind fun _ records hlisted => ?_
  have hbalances := hlisted.hasOf_balance hsound
  obtain rfl := hlisted.eq
  refine ((sync_reverseRecords hsound hbalances).opened hsound).bind fun _ _ _ => ?_
  refine (sync_ask_deleteRecordsForDebt hsound hdebt).bind fun _ _ _ => ?_
  exact sync_adjustDebtor hsound hdebtor _

theorem Found.kept_debtor {id : DebtorId} {a b : Debtor} (hfound : t.Found id a b) :
    t.Kept a a where
  same := hsound.sameDebtor_self hfound.mem hfound.owner
  owner := hfound.owner
  has := ⟨a, hfound.mem, rfl, hfound.owner⟩

theorem sync_createDebt (limits : Limits) {wanted : NewDebt}
    (hwanted : wanted.userId = t.user) :
    t.Sync t.Opened (Engine.createDebt limits wanted).work (Engine.createDebt limits wanted).work
      t.SamePosting t.Paired := by
  refine (sync_findUser hsound hwanted).bind fun _ user hfound => Sync.opened ?_ hsound
  obtain ⟨rfl, huser⟩ := hfound
  refine Sync.now.bind fun now now' htime => Sync.newId.bind fun id id' htogether => ?_
  refine (sync_openDebtor hsound huser htime htogether _ _ _ _).bind fun _ _ hdebtor => ?_
  refine (sync_ask_createDebtor hsound hdebtor).bind fun _ _ _ => ?_
  refine (sync_newDebt hsound hdebtor.same hdebtor.owner _ _ _).bind fun debt debt' hdebt => ?_
  refine (sync_ask_createDebt hsound hdebt).bind fun _ _ _ => ?_
  refine (sync_postDebtLegs hsound hdebt.same hdebt.owner _).bind fun _ _ hrecords => ?_
  exact .pure ⟨hdebtor.same, hdebt.same, hrecords⟩

theorem sync_settleDebt (limits : Limits) {wanted : DebtInstallment}
    (hhas : t.left.debtors.HasOf t.user wanted.debtorId) :
    t.Sync t.Opened (Engine.settleDebt limits wanted).work (Engine.settleDebt limits wanted).work
      t.SamePosting t.Paired := by
  refine (sync_findDebtor hsound hhas).bind fun debtor _ hfound => Sync.opened ?_ hsound
  have hkept := hfound.kept_debtor hsound
  obtain rfl := hfound.eq
  refine (Sync.guard _).bind fun _ _ _ => ?_
  refine (sync_newDebt hsound hkept.same hkept.owner _ _ _).bind fun debt debt' hdebt => ?_
  refine (sync_ask_createDebt hsound hdebt).bind fun _ _ _ => ?_
  refine (sync_postDebtLegs hsound hdebt.same hdebt.owner _).bind fun _ _ hrecords => ?_
  have hamount : debt'.debted.amount = debt.debted.amount := by
    obtain ⟨_, _, _, _, -, -, -, -, rfl⟩ := SameDebt.exists_row hdebt.same
    rfl
  rw [hamount]
  refine (sync_adjustDebtor hsound hkept _).bind fun moved moved' hmoved => ?_
  refine (sync_ask_updateDebtor hsound hmoved).bind fun stored stored' hstored => ?_
  exact .pure ⟨hstored.same, hdebt.same, hrecords⟩

/-- A debt of the user with other amounts. -/
theorem Sound.kept_reset {debt : Debt} (hmem : debt ∈ t.left.debts.rows)
    (huser : debt.userId = t.user) (amounts : DebtAmounts) {now now' : Timestamp}
    (htime : t.SameTime now now') : t.Kept (debt.reset amounts now) (debt.reset amounts now') where
  same := by
    have hself := hsound.sameDebt_self hmem huser
    exact ⟨hself.id, hself.debtorId, hself.createdAt, htime, rfl⟩
  owner := huser
  has := ⟨debt, hmem, rfl, huser⟩

theorem sync_updateDebt (limits : Limits) {id : DebtId} (hhas : t.left.debts.HasOf t.user id)
    (amounts : DebtAmounts) :
    t.Sync t.Opened (Engine.updateDebt limits id amounts).work
      (Engine.updateDebt limits id amounts).work t.SamePosting t.Paired := by
  refine (sync_findDebt hsound hhas).bind fun _ debt hfound => ?_
  obtain ⟨rfl, hmem, rfl, huser⟩ := hfound
  -- No check compares the users of debt and debtor; that they are one is an invariant.
  have hdebtor := hsound.left.hasOf_debtor hmem
  rw [show debt.userId = t.user from huser] at hdebtor
  refine (sync_findDebtor hsound hdebtor).bind fun debtor _ hfound => ?_
  have hkept := hfound.kept_debtor hsound
  obtain rfl := hfound.eq
  refine (Sync.guard _).bind fun _ _ _ => ?_
  refine (sync_unpostDebt hsound hhas hkept).bind fun freed freed' hfreed => ?_
  refine Sync.now.bind fun now now' htime => ?_
  have hreset := hsound.kept_reset hmem huser amounts htime
  refine (sync_postDebtLegs hsound hreset.same huser _).bind fun _ _ hrecords => ?_
  refine (sync_adjustDebtor hsound hfreed _).bind fun moved moved' hmoved => ?_
  refine (sync_ask_updateDebtor hsound hmoved).bind fun stored stored' hstored => ?_
  refine (sync_ask_updateDebt hsound hreset).bind fun _ _ _ => ?_
  exact .pure ⟨hstored.same, hreset.same, hrecords⟩

theorem sync_deleteDebt {id : DebtId} (hhas : t.left.debts.HasOf t.user id) :
    t.Sync t.Opened (Engine.deleteDebt id).work (Engine.deleteDebt id).work t.SameDebtor
      t.Paired := by
  refine (sync_findDebt hsound hhas).bind fun _ debt hfound => ?_
  obtain ⟨rfl, hmem, rfl, huser⟩ := hfound
  have hdebtor := hsound.left.hasOf_debtor hmem
  rw [show debt.userId = t.user from huser] at hdebtor
  refine (sync_findDebtor hsound hdebtor).bind fun debtor _ hfound => ?_
  have hkept := hfound.kept_debtor hsound
  obtain rfl := hfound.eq
  refine (sync_unpostDebt hsound hhas hkept).bind fun freed freed' hfreed => ?_
  refine (sync_ask_updateDebtor hsound hfreed).bind fun stored stored' hstored => ?_
  exact (sync_ask_deleteDebt hsound hhas).bind fun _ _ _ => .pure hstored.same

theorem sync_debtor {id : DebtorId} (hhas : t.left.debtors.HasOf t.user id) :
    t.Sync t.Opened (Engine.debtor id).work (Engine.debtor id).work t.SameDebtor t.Opened := by
  refine (sync_findDebtor hsound hhas).forget ?_
  rintro _ debtor ⟨rfl, hmem, -, huser⟩
  exact hsound.sameDebtor_self hmem huser

theorem sync_debt {id : DebtId} (hhas : t.left.debts.HasOf t.user id) :
    t.Sync t.Opened (Engine.debt id).work (Engine.debt id).work t.SameDebt t.Opened := by
  refine (sync_findDebt hsound hhas).forget ?_
  rintro _ debt ⟨rfl, hmem, -, huser⟩
  exact hsound.sameDebt_self hmem huser

/-! ## All requests -/

/-- A request about the user ends in step, whatever it is. -/
theorem Sound.sync_request (limits : Limits) (request : Request)
    (haddressed : request.AddressedTo t.user t.left) :
    t.Sync t.Opened (request.operation limits).work (request.operation limits).work
      (t.SameAnswer request) t.Done := by
  cases request with
  | openBalance user currency =>
    subst haddressed
    exact sync_openBalance hsound currency
  | balance user currency =>
    subst haddressed
    exact (sync_balance hsound currency).done
  | balanceById id => exact (sync_balanceById hsound haddressed).done
  | balancesForUser user =>
    subst haddressed
    exact (sync_ask_balancesForUser hsound).queried hsound
  | balancesForCompany company => exact haddressed.elim
  | recordsForBalance id =>
    have hlisted := (sync_ask_recordsForBalance hsound haddressed).queried hsound
    exact hlisted.forget fun _ _ => Listed.same hsound
  | performBalanceRecord wanted => exact (sync_performBalanceRecord hsound limits haddressed).done
  | postBalanceRecord user kind money details =>
    subst haddressed
    exact (sync_postBalanceRecord hsound limits kind money details).done
  | rollbackRecord id => exact (sync_rollbackRecord hsound haddressed).done
  | updateRecord id kind money => exact (sync_updateRecord hsound haddressed kind money).done
  | record id => exact (sync_record hsound haddressed).queried hsound
  | createExchange wanted => exact (sync_createExchange hsound limits haddressed).done
  | updateExchange id amounts => exact (sync_updateExchange hsound haddressed amounts).done
  | deleteExchange id => exact (sync_deleteExchange hsound haddressed).done
  | exchange id => exact (sync_exchange hsound haddressed).queried hsound
  | recordsForExchange id =>
    have hlisted := (sync_ask_recordsForExchange hsound haddressed).queried hsound
    exact hlisted.forget fun _ _ => Listed.same hsound
  | createDebt wanted => exact (sync_createDebt hsound limits haddressed).done
  | settleDebt wanted => exact (sync_settleDebt hsound limits haddressed).done
  | updateDebt id amounts => exact (sync_updateDebt hsound limits haddressed amounts).done
  | deleteDebt id => exact (sync_deleteDebt hsound haddressed).done
  | debtor id => exact (sync_debtor hsound haddressed).queried hsound
  | debt id => exact (sync_debt hsound haddressed).queried hsound
  | debtorsForUser user =>
    subst haddressed
    exact (sync_ask_debtorsForUser hsound).queried hsound
  | debtsForDebtor id => exact (sync_ask_debtsForDebtor hsound haddressed).queried hsound
  | recordsForDebt id =>
    have hlisted := (sync_ask_recordsForDebt hsound haddressed).queried hsound
    exact hlisted.forget fun _ _ => Listed.same hsound
  | verifyIntegrity => exact haddressed.elim

end Requests

end Twins

end CashLedger
