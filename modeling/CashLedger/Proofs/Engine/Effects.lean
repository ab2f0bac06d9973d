import CashLedger.Proofs.Engine.Debts
import CashLedger.Proofs.Engine.Enactment
import CashLedger.Proofs.Engine.Exchanges
import CashLedger.Proofs.Engine.Records

/-!
# What each change comes to

A change on some tables goes through exactly if the movements do that it is made of, and then
leaves these rows: the balances that the movements leave, its records, and its exchange, debt or
debtor.  All other rows are left as they are.
-/

namespace CashLedger

/-- A debtor who was stored with a balance, if there is one. -/
structure Debtor.Rebalanced (debtor : Debtor) (balance : Option Amount) (stored : Debtor) :
    Prop where
  balance : balance = some stored.balance
  row : stored = { debtor with
    balance := stored.balance, version := debtor.version + 1, updatedAt := stored.updatedAt }

/-- The records that a test does not choose. -/
def Tables.recordsWithout (tables : Tables) (chosen : Record → Bool) : Table Record :=
  ((tables.records.rows.filter chosen).map Record.id).foldl Table.erase tables.records

theorem Tables.mem_recordsWithout {tables : Tables} {chosen : Record → Bool} {record : Record} :
    record ∈ (tables.recordsWithout chosen).rows ↔
      record ∈ tables.records.rows ∧ chosen record = false :=
  Table.mem_rows_foldl_erase_filter

/-- The tables where a course started, with its balances and other records, exchanges, debtors
and debts. -/
def Course.Leaves (tables : Tables) (last : Course) (records : Table Record)
    (exchanges : Table Exchange) (debtors : Table Debtor) (debts : Table Debt) : Prop :=
  last.unit.working = ⟨tables.users, last.unit.working.balances, records, exchanges, debtors, debts⟩

theorem Course.Restates.dropWhere {first middle : Course} (hrestates : first.Restates middle
    first.unit.working.records) (request : Call) (chosen : Record → Bool) :
    first.Restates (middle.answered request (Posting.dropWhere middle.unit chosen))
        (first.unit.working.recordsWithout chosen) ∧
      (Posting.dropWhere middle.unit chosen).working.balances = middle.unit.working.balances := by
  rw [Posting.dropWhere, Posting.working_dropRecords]
  refine ⟨?_, rfl⟩
  rw [Course.Restates, Course.answered_unit, Posting.working_dropRecords, hrestates]
  rfl

namespace Engine

open Work Posting

variable {limits : Limits} {tables : Tables} {supply : Supply} {first : Course}

/-! ## Finding rows -/

theorem perform_findExchange_of_find? {id : ExchangeId} {exchange : Exchange}
    (hfind : first.unit.working.exchanges.find? id = some exchange) :
    (findExchange id).perform first =
      .ok (exchange, first.answered (.exchangeById id) first.unit) :=
  perform_bind_eq_ok.mpr ⟨_, _, (perform_read_eq_ok rfl).mpr ⟨rfl, rfl⟩,
    perform_require_eq_ok.mpr ⟨hfind, rfl⟩⟩

theorem perform_findDebtor_of_find? {id : DebtorId} {debtor : Debtor}
    (hfind : first.unit.working.debtors.find? id = some debtor) :
    (findDebtor id).perform first = .ok (debtor, first.answered (.debtorById id) first.unit) :=
  perform_bind_eq_ok.mpr ⟨_, _, (perform_read_eq_ok rfl).mpr ⟨rfl, rfl⟩,
    perform_require_eq_ok.mpr ⟨hfind, rfl⟩⟩

theorem perform_findDebt_of_find? {id : DebtId} {debt : Debt}
    (hfind : first.unit.working.debts.find? id = some debt) :
    (findDebt id).perform first = .ok (debt, first.answered (.debtById id) first.unit) :=
  perform_bind_eq_ok.mpr ⟨_, _, (perform_read_eq_ok rfl).mpr ⟨rfl, rfl⟩,
    perform_require_eq_ok.mpr ⟨hfind, rfl⟩⟩

/-! ## Balances -/

theorem leaves_openBalance {user : UserId} {currency : Currency} {opened : Balance}
    {last : Course}
    (hperform : (openBalance user currency).work.perform (.start tables supply) =
      .ok (opened, last)) :
    last.Leaves tables tables.records tables.exchanges tables.debtors tables.debts := by
  obtain ⟨owner, _, hfind, hrest⟩ := perform_bind_eq_ok.mp hperform
  obtain ⟨-, rfl⟩ := perform_findUser_eq_ok.mp hfind
  obtain ⟨now, _, hnow, hrest⟩ := perform_bind_eq_ok.mp hrest
  obtain ⟨-, rfl⟩ := perform_now_eq_ok.mp hnow
  obtain ⟨id, _, hdraw, hrest⟩ := perform_bind_eq_ok.mp hrest
  obtain ⟨rfl, rfl⟩ := perform_newId_eq_ok.mp hdraw
  obtain ⟨_, _, hask, hpure⟩ := perform_bind_eq_ok.mp hrest
  obtain ⟨unit, hanswer, rfl⟩ := perform_ask_eq_ok.mp hask
  obtain ⟨-, rfl⟩ := MemoryUnit.createBalance_eq_ok.mp hanswer
  obtain ⟨-, rfl⟩ := perform_pure_eq_ok.mp hpure
  rfl

/-! ## Two legs -/

/-- The record of what was sold and the record of what was received, made one after the other. -/
structure PairPosted (tables : Tables) (user : UserId) (sold received : Money)
    (source : RecordSource) (details : Option String) (record other : Record) (last : Supply) :
    Prop where
  sold : record.Posted tables.place user .debit source details sold
  received : other.Posted tables.place user .credit source details received
  company : record.OfCompany tables.balances.accounts ∧ other.OfCompany tables.balances.accounts
  drawn : record.id.uuid ∈ last.drawn ∧ other.id.uuid ∈ last.drawn
  distinct : last.Distinct → record.id ≠ other.id
  ordered : last.Increasing → Record.olderFirst record other = true ∧ record.id ≠ other.id

theorem enacts_postPair (tables : Tables) (hplaced : first.Placed tables.place)
    (haccounts : first.accounts = tables.balances.accounts) (user : UserId)
    (sold received : Money) (source : RecordSource) (details : Option String) {β : Type}
    {next : Record → Record → Work β} {post : β → Course → Prop}
    (hnext : ∀ {record other last}, last.Placed tables.place →
      PairPosted tables user sold received source details record other last.supply →
      first.supply.Leads last.supply →
      first.Restates last ((first.unit.working.records.insert record).insert other) →
      (next record other).Enacts tables.place last [] post) :
    (do let record ← postLeg user sold .debit source details
        let other ← postLeg user received .credit source details
        next record other).Enacts tables.place first
      [sold.posting tables.place user .debit, received.posting tables.place user .credit]
      post := by
  have hfirst := enacts_postLeg hplaced user sold .debit source details
  refine hfirst.bind fun {record middle} hperform hplaced₁ hrecord => ?_
  refine .bind_still (enacts_postLeg hplaced₁ user received .credit source details)
    fun {other last} hperform' hplaced₂ hother => ?_
  have hleads := (leads_of_perform hperform).supply
  have hleads' := (leads_of_perform hperform').supply
  have hrestates := hrecord.restates.trans hother.restates
  rw [hrecord.restates.records_eq] at hrestates
  have hshifted := Accounts.shifted_of_moves (hfirst.ok hperform).1.accounts
  rw [haccounts] at hshifted
  refine hnext hplaced₂ ⟨hrecord.posted, hother.posted, ⟨haccounts ▸ hrecord.company, ?_⟩, ?_,
    ?_, ?_⟩ (hleads.trans hleads') hrestates
  · exact hother.company.before hshifted
  · exact ⟨(hrecord.made.of_earlier hleads').mem_drawn, hother.made.mem_drawn⟩
  · exact hrecord.made.id_ne hother.made hleads'
  · exact hrecord.made.olderFirst hother.made hleads'

/-! ## Manual postings -/

/-- The records of a transaction, which are new. -/
structure TransactionPosted (tables : Tables) (request : ManualExchange) (records : List Record)
    (last : Course) : Prop where
  legs : ∃ (transaction : TransactionId) (sold received : Record),
    records = [sold, received] ∧
      PairPosted tables request.userId request.sold request.received (.transaction transaction)
        request.details sold received last.supply
  leaves : last.Leaves tables (records.foldl Table.insert tables.records) tables.exchanges
    tables.debtors tables.debts

theorem enacts_performBalanceRecord (hone : tables.balances.OnePerPair)
    {request : ManualExchange} {user : User}
    (huser : tables.users.find? request.userId = some user) :
    (performBalanceRecord limits request).work.Enacts tables.place (.start tables supply)
      [request.sold.posting tables.place request.userId .debit,
        request.received.posting tables.place request.userId .credit]
      (TransactionPosted tables request) := by
  have hid : user.id = request.userId := Table.key_of_find? huser
  have hplaced : (Course.start tables supply).Placed tables.place := ⟨hone, rfl⟩
  rw [← hid]
  refine enacts_bind (perform_findUser_eq_ok.mpr ⟨huser, rfl⟩) rfl ?_
  refine enacts_bind (perform_newId_eq_ok.mpr ⟨rfl, rfl⟩) rfl ?_
  refine enacts_postPair tables ?_ rfl _ _ _ _ _
    fun {sold received last} hplaced' hpair _ hrestates => enacts_pure hplaced' ?_
  · exact hplaced.still rfl
  · exact ⟨⟨_, sold, received, rfl, hid ▸ hpair⟩, hrestates⟩

/-- The record of one leg, which is new. -/
structure LegPosted (tables : Tables) (user : UserId) (direction : Direction) (money : Money)
    (details : Option String) (record : Record) (last : Course) : Prop where
  posted : record.Posted tables.place user direction .manual details money
  drawn : record.id.uuid ∈ last.supply.drawn
  leaves : last.Leaves tables (tables.records.insert record) tables.exchanges tables.debtors
    tables.debts

theorem enacts_postBalanceRecord (hone : tables.balances.OnePerPair) {user : User} {id : UserId}
    (huser : tables.users.find? id = some user) (kind : RecordKind) (money : Money)
    (details : Option String) :
    (postBalanceRecord limits id kind money details).work.Enacts tables.place
      (.start tables supply) [money.posting tables.place id kind.direction]
      (LegPosted tables id kind.direction money details) := by
  have hid : user.id = id := Table.key_of_find? huser
  have hplaced : (Course.start tables supply).Placed tables.place := ⟨hone, rfl⟩
  rw [← hid] at huser ⊢
  refine enacts_bind (perform_findUser_eq_ok.mpr ⟨huser, rfl⟩) rfl ?_
  refine .mono (enacts_postLeg ?_ user.id money kind.direction .manual details) fun hposted => ?_
  · exact hplaced.still rfl
  exact ⟨hposted.posted, hposted.made.mem_drawn, hposted.restates⟩

theorem perform_findFreeRecord_of_mem {record : Record}
    (hmem : record ∈ first.unit.working.records.rows) (hfree : record.source.isOwned = false) :
    (findFreeRecord record.id).perform first =
      .ok (record, first.answered (.recordById record.id) first.unit) := by
  have hfind : first.unit.working.records.find? record.id = some record :=
    Table.mem_rows_iff.mp hmem
  refine perform_bind_eq_ok.mpr ⟨_, _, (perform_read_eq_ok rfl).mpr ⟨rfl, rfl⟩, ?_⟩
  refine perform_bind_eq_ok.mpr ⟨_, _, perform_require_eq_ok.mpr ⟨hfind, rfl⟩, ?_⟩
  rw [if_neg (by simp [hfree])]
  exact perform_pure_eq_ok.mpr ⟨rfl, rfl⟩

theorem enacts_rollbackRecord (hone : tables.balances.OnePerPair) {record : Record}
    (hmem : record ∈ tables.records.rows) (hfree : record.source.isOwned = false) :
    (rollbackRecord record.id).work.Enacts tables.place (.start tables supply)
      [record.undoing] fun _ last =>
        last.Leaves tables (tables.records.erase record.id) tables.exchanges tables.debtors
          tables.debts := by
  have hplaced : (Course.start tables supply).Placed tables.place := ⟨hone, rfl⟩
  have hthere : tables.records.find? record.id = some record := Table.mem_rows_iff.mp hmem
  refine enacts_bind (perform_findFreeRecord_of_mem hmem hfree) rfl ?_
  refine .bind_still (enacts_reverseRecord ?_ record) fun {_ middle} _ hplaced' hrestates => ?_
  · exact hplaced.still rfl
  have hanswer : middle.unit.answer (.deleteRecord record.id) =
      (.ok (), middle.unit.dropRecord record.id) := by
    refine MemoryUnit.changing_eq_ok.mpr ⟨?_, rfl⟩
    rw [hrestates]
    exact congrArg Option.isSome hthere
  refine enacts_bind (perform_ask_eq_ok.mpr ⟨_, hanswer, rfl⟩) rfl ?_
  refine enacts_pure (hplaced'.still rfl) ?_
  change ({ middle.unit.working with
    records := middle.unit.working.records.erase record.id } : Tables) = _
  rw [hrestates]
  rfl

/-- A record for another leg of the same user. -/
structure LegReplaced (tables : Tables) (record : Record) (kind : RecordKind) (money : Money)
    (after : Record) (last : Course) : Prop where
  row : ∃ balance : Balance, tables.place record.userId money.currency = some balance.id ∧
    balance.currency = money.currency ∧
    after = record.repost balance ⟨kind.direction, money.amount⟩ after.updatedAt
  leaves : last.Leaves tables (tables.records.insert after) tables.exchanges tables.debtors
    tables.debts

theorem enacts_updateRecord (hone : tables.balances.OnePerPair) {record : Record}
    (hmem : record ∈ tables.records.rows) (hfree : record.source.isOwned = false)
    (kind : RecordKind) (money : Money) :
    (updateRecord record.id kind money).work.Enacts tables.place (.start tables supply)
      [record.undoing, money.posting tables.place record.userId kind.direction]
      (LegReplaced tables record kind money) := by
  have hplaced : (Course.start tables supply).Placed tables.place := ⟨hone, rfl⟩
  have hthere : tables.records.find? record.id = some record := Table.mem_rows_iff.mp hmem
  refine enacts_bind (perform_findFreeRecord_of_mem hmem hfree) rfl ?_
  refine .bind (enacts_reverseRecord ?_ record) fun {_ middle} _ hplaced₁ hunmoved => ?_
  · exact hplaced.still rfl
  refine .bind_still (enacts_applyLeg hplaced₁ record.userId money kind.direction)
    fun {balance applied} _ hplaced₂ hmoved => ?_
  refine enacts_bind (perform_now_eq_ok.mpr ⟨rfl, rfl⟩) rfl ?_
  have hrestates := hunmoved.trans hmoved.restates
  rw [hunmoved.records_eq] at hrestates
  refine Posting.enacts_updateRecord ?_ (enacts_pure (hplaced₂.still rfl) ?_)
  · rw [Course.clocked_unit, hrestates]
    exact congrArg Option.isSome hthere
  · exact ⟨⟨balance, hmoved.place, hmoved.currency, rfl⟩, hrestates.insert rfl⟩

/-! ## Exchanges -/

/-- What comes of an exchange that was made. -/
structure ExchangeMade (tables : Tables) (request : NewExchange) (created : Exchange)
    (last : Course) : Prop where
  row : ∃ user now, tables.users.find? request.userId = some user ∧
    created = .new created.id user request now
  drawn : created.id.uuid ∈ last.supply.drawn
  legs : ∃ sold received,
    PairPosted tables request.userId request.sold request.received (.exchange created.id)
        request.details sold received last.supply ∧
      last.Leaves tables ((tables.records.insert sold).insert received)
        (tables.exchanges.insert created) tables.debtors tables.debts

theorem enacts_createExchange (hone : tables.balances.OnePerPair) {request : NewExchange}
    {user : User} (huser : tables.users.find? request.userId = some user) :
    (createExchange limits request).work.Enacts tables.place (.start tables supply)
      [request.sold.posting tables.place request.userId .debit,
        request.received.posting tables.place request.userId .credit]
      (ExchangeMade tables request) := by
  have hid : user.id = request.userId := Table.key_of_find? huser
  have hplaced : (Course.start tables supply).Placed tables.place := ⟨hone, rfl⟩
  rw [← hid]
  refine enacts_bind (perform_findUser_eq_ok.mpr ⟨huser, rfl⟩) rfl ?_
  refine enacts_bind (perform_now_eq_ok.mpr ⟨rfl, rfl⟩) rfl ?_
  refine enacts_bind (perform_newId_eq_ok.mpr ⟨rfl, rfl⟩) rfl ?_
  refine enacts_bind (perform_ask_eq_ok.mpr ⟨_, rfl, rfl⟩) rfl ?_
  refine enacts_postPair tables ?_ rfl _ _ _ _ _
    fun {sold received last} hplaced' hpair hleads hrestates => enacts_pure hplaced' ?_
  · exact hplaced.still rfl
  · exact
      { row := ⟨user, _, huser, rfl⟩
        drawn := hleads.draw_mem
        legs := ⟨sold, received, hid ▸ hpair, hrestates⟩ }

/-- What comes of an exchange that was changed. -/
structure ExchangeAmended (tables : Tables) (exchange : Exchange) (amounts : ExchangeAmounts)
    (changed : Exchange) (last : Course) : Prop where
  row : changed = exchange.amend amounts changed.updatedAt
  legs : ∃ posted,
    List.Forall₂ (Record.Restated tables.place exchange.userId amounts)
        (tables.recordsWhere (Record.isOfExchange exchange.id)) posted ∧
      last.Leaves tables (posted.foldl Table.insert tables.records)
        (tables.exchanges.insert changed) tables.debtors tables.debts

theorem enacts_updateExchange (hone : tables.balances.OnePerPair) {exchange : Exchange}
    (hmem : exchange ∈ tables.exchanges.rows) (hmirrored : exchange.Mirrored tables.records)
    (amounts : ExchangeAmounts) :
    (updateExchange exchange.id amounts).work.Enacts tables.place (.start tables supply)
      ((tables.recordsWhere (Record.isOfExchange exchange.id)).flatMap
        (Record.restating tables.place exchange.userId amounts))
      (ExchangeAmended tables exchange amounts) := by
  have hplaced : (Course.start tables supply).Placed tables.place := ⟨hone, rfl⟩
  have hfind : tables.exchanges.find? exchange.id = some exchange := Table.mem_rows_iff.mp hmem
  refine enacts_bind (perform_findExchange_of_find? hfind) rfl ?_
  refine enacts_bind (perform_ask_eq_ok.mpr ⟨_, rfl, rfl⟩) rfl ?_
  refine .bind_still (enacts_repostRecords ?_ exchange.userId amounts ?_)
    fun {_ middle} hperform hplaced' hrestated => ?_
  · exact hplaced.still rfl
  · intro record hrecord
    obtain ⟨hmem', hchosen⟩ := Tables.mem_recordsWhere.mp hrecord
    have hthere : tables.records.find? record.id = some record := Table.mem_rows_iff.mp hmem'
    exact ⟨hmirrored.userId_eq hmem' (Record.isOfExchange_iff.mp hchosen),
      congrArg Option.isSome hthere⟩
  refine enacts_bind (perform_now_eq_ok.mpr ⟨rfl, rfl⟩) rfl ?_
  obtain ⟨posted, heach, hrestates⟩ := hrestated
  have hanswer : middle.clocked.unit.answer (.updateExchange (exchange.amend amounts
      (middle.supply.moment middle.supply.readings))) = (.ok (), middle.unit.writeExchange
        (exchange.amend amounts (middle.supply.moment middle.supply.readings))) := by
    refine MemoryUnit.changing_eq_ok.mpr ⟨?_, rfl⟩
    rw [Course.clocked_unit, hrestates]
    exact congrArg Option.isSome hfind
  refine enacts_bind (perform_ask_eq_ok.mpr ⟨_, hanswer, rfl⟩) rfl ?_
  refine enacts_pure (hplaced'.still rfl) ⟨rfl, posted, heach, ?_⟩
  change ({ middle.unit.working with
    exchanges := middle.unit.working.exchanges.insert _ } : Tables) = _
  rw [hrestates]
  rfl

theorem enacts_deleteExchange (hone : tables.balances.OnePerPair) {exchange : Exchange}
    (hmem : exchange ∈ tables.exchanges.rows) :
    (deleteExchange exchange.id).work.Enacts tables.place (.start tables supply)
      ((tables.recordsWhere (Record.isOfExchange exchange.id)).map Record.undoing)
      fun deleted last => deleted = exchange ∧
        last.Leaves tables (tables.recordsWithout (Record.isOfExchange exchange.id))
          (tables.exchanges.erase exchange.id) tables.debtors tables.debts := by
  have hplaced : (Course.start tables supply).Placed tables.place := ⟨hone, rfl⟩
  have hfind : tables.exchanges.find? exchange.id = some exchange := Table.mem_rows_iff.mp hmem
  refine enacts_bind (perform_findExchange_of_find? hfind) rfl ?_
  refine enacts_bind (perform_ask_eq_ok.mpr ⟨_, rfl, rfl⟩) rfl ?_
  refine .bind_still (enacts_reverseRecords ?_ _) fun {_ middle} _ hplaced' hrestates => ?_
  · exact hplaced.still rfl
  have hdropped := hrestates.dropWhere (.deleteRecordsForExchange exchange.id)
    (Record.isOfExchange exchange.id)
  refine enacts_bind (perform_ask_eq_ok.mpr ⟨_, rfl, rfl⟩) hdropped.2 ?_
  have hanswer : (dropWhere middle.unit (Record.isOfExchange exchange.id)).answer
      (.deleteExchange exchange.id) = (.ok (),
        (dropWhere middle.unit (Record.isOfExchange exchange.id)).dropExchange exchange.id) := by
    refine MemoryUnit.changing_eq_ok.mpr ⟨?_, rfl⟩
    rw [show (dropWhere middle.unit (Record.isOfExchange exchange.id)).working = _ from
      hdropped.1]
    exact congrArg Option.isSome hfind
  refine enacts_bind (perform_ask_eq_ok.mpr ⟨_, hanswer, rfl⟩) rfl ?_
  refine enacts_pure (hplaced'.still hdropped.2) ⟨rfl, ?_⟩
  change ({ (dropWhere middle.unit (Record.isOfExchange exchange.id)).working with
    exchanges := Table.erase _ _ } : Tables) = _
  rw [show (dropWhere middle.unit (Record.isOfExchange exchange.id)).working = _ from hdropped.1]
  rfl

/-! ## Debts -/

/-- The records of a debt's legs. -/
structure DebtLegs (place : Places) (debt : Debt) (legs : List Money) (records : List Record)
    (last : Supply) : Prop where
  posted : List.Forall₂ (Record.Posted place debt.userId debt.kind.direction (.debt debt.id)
    debt.details) legs records
  drawn : ∀ record ∈ records, record.id.uuid ∈ last.drawn
  distinct : last.Distinct → (records.map Record.id).Nodup
  ordered : last.Increasing →
    records.Pairwise fun a b => Record.olderFirst a b = true ∧ a.id ≠ b.id

theorem AllRecorded.legs {place : Places} {debt : Debt} {legs : List Money}
    {records : List Record} {middle : Course} {last : Supply}
    (hrecorded : AllRecorded place debt legs first records middle)
    (hleads : middle.supply.Leads last) : DebtLegs place debt legs records last where
  posted := hrecorded.posted
  drawn record hmem := ((hrecorded.made record hmem).of_earlier hleads).mem_drawn
  distinct hdistinct := hrecorded.distinct (hleads.distinct hdistinct)
  ordered hincreasing := hrecorded.ordered (hleads.increasing hincreasing)

theorem enacts_unpostDebt {place : Places} (hplaced : first.Placed place) (debt : Debt)
    (debtor : Debtor) :
    (unpostDebt debt debtor).Enacts place first
      ((first.unit.working.recordsWhere (Record.isOfDebt debt.id)).map Record.undoing ++
        [.passed (debtor.balance.add? (-debt.debted.amount)).isSome])
      fun after last => debtor.Counts (-debt.debted.amount) after ∧
        first.Restates last (first.unit.working.recordsWithout (Record.isOfDebt debt.id)) := by
  refine enacts_bind (perform_ask_eq_ok.mpr ⟨_, rfl, rfl⟩) rfl ?_
  refine .bind (enacts_reverseRecords ?_ _) fun {_ middle} _ hplaced' hrestates => ?_
  · exact hplaced.still rfl
  have hdropped := hrestates.dropWhere (.deleteRecordsForDebt debt.id) (Record.isOfDebt debt.id)
  refine enacts_bind (perform_ask_eq_ok.mpr ⟨_, rfl, rfl⟩) hdropped.2 ?_
  refine .mono (enacts_adjustDebtor ?_ debtor _) ?_
  · exact hplaced'.still hdropped.2
  · rintro after last ⟨hcounts, rfl⟩
    exact ⟨hcounts, hdropped.1⟩

/-- A debtor who was found is stored with the balance that has moved. -/
theorem enacts_updateDebtor {place : Places} {β : Type} {next : Debtor → Work β}
    {movements : List Movement} {post : β → Course → Prop} {debtor after : Debtor}
    (hfind : first.unit.working.debtors.find? debtor.id = some debtor)
    (hrow : after = { debtor with balance := after.balance, updatedAt := after.updatedAt })
    (hnext : ∀ {stored}, debtor.Rebalanced (some after.balance) stored →
      (next stored).Enacts place (first.answered (.updateDebtor after)
        (first.unit.writeDebtor stored (.stored debtor.version))) movements post) :
    (Work.ask (.updateDebtor after) >>= next).Enacts place first movements post := by
  have hid : after.id = debtor.id := by rw [hrow]
  have hversion : debtor.version = after.version := by rw [hrow]
  have hstored : debtor.Rebalanced (some after.balance)
      { after with version := after.version + 1 } := by
    refine ⟨rfl, ?_⟩
    rw [← hversion, hrow]
  have hanswer : first.unit.answer (.updateDebtor after) =
      (.ok { after with version := after.version + 1 }, first.unit.writeDebtor
        { after with version := after.version + 1 } (.stored debtor.version)) :=
    MemoryUnit.updateDebtor_eq_ok.mpr ⟨debtor, hid ▸ hfind, hversion, rfl, rfl⟩
  exact enacts_bind (perform_ask_eq_ok.mpr ⟨_, hanswer, rfl⟩) rfl (hnext hstored)

/-- What comes of a debt that was deleted. -/
structure DebtDropped (tables : Tables) (debt : Debt) (debtor stored : Debtor) (last : Course) :
    Prop where
  debtor : debtor.Rebalanced (debtor.balance.add? (-debt.debted.amount)) stored
  leaves : last.Leaves tables (tables.recordsWithout (Record.isOfDebt debt.id)) tables.exchanges
    (tables.debtors.insert stored) (tables.debts.erase debt.id)

theorem enacts_deleteDebt (hone : tables.balances.OnePerPair) {debt : Debt} {debtor : Debtor}
    (hmem : debt ∈ tables.debts.rows) (hdebtor : tables.debtors.find? debt.debtorId = some debtor) :
    (deleteDebt debt.id).work.Enacts tables.place (.start tables supply)
      ((tables.recordsWhere (Record.isOfDebt debt.id)).map Record.undoing ++
        [.passed (debtor.balance.add? (-debt.debted.amount)).isSome])
      (DebtDropped tables debt debtor) := by
  have hplaced : (Course.start tables supply).Placed tables.place := ⟨hone, rfl⟩
  have hfind : tables.debts.find? debt.id = some debt := Table.mem_rows_iff.mp hmem
  have hid : debtor.id = debt.debtorId := Table.key_of_find? hdebtor
  refine enacts_bind (perform_findDebt_of_find? hfind) rfl ?_
  refine enacts_bind (perform_findDebtor_of_find? hdebtor) rfl ?_
  refine .bind_still (enacts_unpostDebt ?_ debt debtor)
    fun {relieved middle} _ hplaced' ⟨hcounts, hrestates⟩ => ?_
  · exact hplaced.still rfl
  refine enacts_updateDebtor ?_ hcounts.row fun {stored} hstored => ?_
  · rw [hrestates, hid]
    exact hdebtor
  have hanswer : (middle.unit.writeDebtor stored (.stored debtor.version)).answer
      (.deleteDebt debt.id) =
      (.ok (), (middle.unit.writeDebtor stored (.stored debtor.version)).dropDebt debt.id) := by
    refine MemoryUnit.changing_eq_ok.mpr ⟨?_, rfl⟩
    change Table.contains middle.unit.working.debts debt.id = true
    rw [hrestates]
    exact congrArg Option.isSome hfind
  refine enacts_bind (perform_ask_eq_ok.mpr ⟨_, hanswer, rfl⟩) rfl ?_
  refine enacts_pure (hplaced'.still rfl) ⟨hcounts.balance ▸ hstored, ?_⟩
  change ({ middle.unit.working with
    debtors := middle.unit.working.debtors.insert stored
    debts := middle.unit.working.debts.erase debt.id } : Tables) = _
  rw [hrestates]
  rfl

/-- What comes of a first debt, and its debtor. -/
structure DebtOpened (tables : Tables) (request : NewDebt) (posting : DebtPosting)
    (last : Course) : Prop where
  debtor : ∃ user now, tables.users.find? request.userId = some user ∧
    (Debtor.new posting.debtor.id user (Text.trim request.debtorName) request.debtorPhone
      request.debted.currency now).Counts (request.kind.signed request.debted.amount)
      posting.debtor
  row : ∃ now, posting.debt = .new posting.debt.id posting.debtor .opening request.amounts
    request.details now
  drawn : posting.debtor.id.uuid ∈ last.supply.drawn ∧ posting.debt.id.uuid ∈ last.supply.drawn
  legs : DebtLegs tables.place posting.debt request.received posting.records last.supply
  leaves : last.Leaves tables (posting.records.foldl Table.insert tables.records)
    tables.exchanges (tables.debtors.insert posting.debtor) (tables.debts.insert posting.debt)

theorem enacts_createDebt (hone : tables.balances.OnePerPair) {request : NewDebt} {user : User}
    (huser : tables.users.find? request.userId = some user) :
    (createDebt limits request).work.Enacts tables.place (.start tables supply)
      (.passed (Amount.add? 0 (request.kind.signed request.debted.amount)).isSome ::
        request.received.map
          (Money.posting tables.place request.userId request.kind.direction))
      (DebtOpened tables request) := by
  have hid : user.id = request.userId := Table.key_of_find? huser
  have hplaced : (Course.start tables supply).Placed tables.place := ⟨hone, rfl⟩
  rw [← hid]
  refine enacts_bind (perform_findUser_eq_ok.mpr ⟨huser, rfl⟩) rfl ?_
  refine enacts_bind (perform_now_eq_ok.mpr ⟨rfl, rfl⟩) rfl ?_
  refine enacts_bind (perform_newId_eq_ok.mpr ⟨rfl, rfl⟩) rfl ?_
  refine .bind (enacts_adjustDebtor ?_ _ _) fun {debtor middle} _ hplaced₁ hadjusted => ?_
  · exact hplaced.still rfl
  obtain ⟨hcounts, rfl⟩ := hadjusted
  refine enacts_bind (perform_ask_eq_ok.mpr ⟨_, rfl, rfl⟩) rfl ?_
  refine enacts_bind (perform_bind_eq_ok.mpr ⟨_, _, perform_now_eq_ok.mpr ⟨rfl, rfl⟩,
    perform_bind_eq_ok.mpr ⟨_, _, perform_newId_eq_ok.mpr ⟨rfl, rfl⟩,
      perform_pure_eq_ok.mpr ⟨rfl, rfl⟩⟩⟩) rfl ?_
  refine enacts_bind (perform_ask_eq_ok.mpr ⟨_, rfl, rfl⟩) rfl ?_
  have howner : debtor.userId = user.id := by
    rw [hcounts.row]
    rfl
  rw [← howner]
  refine .bind_still (enacts_postDebtLegs ?_ _ _) fun {records last} hperform hplaced₂ hrecorded =>
    enacts_pure hplaced₂ ?_
  · exact hplaced₁.still rfl
  have hleads := (leads_of_perform hperform).supply
  have hdrawn := Supply.Leads.draw_mem hleads
  have hsince : supply.clock.2.draw.2.Leads last.supply :=
    (((Supply.leads_clock _).trans (Supply.leads_clock _)).trans (Supply.leads_draw _)).trans
      hleads
  have hname : debtor.id = ⟨supply.clock.2.uuid supply.clock.2.issued⟩ := by
    rw [hcounts.row]
    rfl
  exact
    { debtor := ⟨user, _, huser, hname ▸ hcounts⟩
      row := ⟨_, rfl⟩
      drawn := ⟨hname ▸ hsince.draw_mem, hdrawn⟩
      legs := hrecorded.legs (.refl _)
      leaves := hrecorded.restates }

/-- What comes of one more debt with a debtor. -/
structure DebtSettled (tables : Tables) (debtor : Debtor) (request : DebtInstallment)
    (posting : DebtPosting) (last : Course) : Prop where
  row : ∃ now, posting.debt = .new posting.debt.id debtor .installment request.amounts
    request.details now
  drawn : posting.debt.id.uuid ∈ last.supply.drawn
  debtor : debtor.Rebalanced
    (debtor.balance.add? (request.kind.signed request.debted.amount)) posting.debtor
  legs : DebtLegs tables.place posting.debt request.received posting.records last.supply
  leaves : last.Leaves tables (posting.records.foldl Table.insert tables.records)
    tables.exchanges (tables.debtors.insert posting.debtor) (tables.debts.insert posting.debt)

theorem enacts_settleDebt (hone : tables.balances.OnePerPair) {request : DebtInstallment}
    {debtor : Debtor} (hdebtor : tables.debtors.find? request.debtorId = some debtor) :
    (settleDebt limits request).work.Enacts tables.place (.start tables supply)
      (.passed (debtor.checkCurrency request.debted.currency).isOk ::
        (request.received.map (Money.posting tables.place debtor.userId request.kind.direction) ++
          [.passed (debtor.balance.add? (request.kind.signed request.debted.amount)).isSome]))
      (DebtSettled tables debtor request) := by
  have hplaced : (Course.start tables supply).Placed tables.place := ⟨hone, rfl⟩
  have hid : debtor.id = request.debtorId := Table.key_of_find? hdebtor
  refine enacts_bind (perform_findDebtor_of_find? hdebtor) rfl ?_
  refine enacts_bind_check (hplaced.still rfl) fun _ => ?_
  refine enacts_bind (perform_bind_eq_ok.mpr ⟨_, _, perform_now_eq_ok.mpr ⟨rfl, rfl⟩,
    perform_bind_eq_ok.mpr ⟨_, _, perform_newId_eq_ok.mpr ⟨rfl, rfl⟩,
      perform_pure_eq_ok.mpr ⟨rfl, rfl⟩⟩⟩) rfl ?_
  refine enacts_bind (perform_ask_eq_ok.mpr ⟨_, rfl, rfl⟩) rfl ?_
  refine .bind (enacts_postDebtLegs ?_ _ _) fun {records posted} hperform hplaced₁ hrecorded => ?_
  · exact hplaced.still rfl
  refine .bind_still (enacts_adjustDebtor hplaced₁ debtor _)
    fun {after last} hperform' hplaced₂ ⟨hcounts, hlast⟩ => ?_
  subst hlast
  have hleads := (leads_of_perform hperform).supply
  have hdrawn := Supply.Leads.draw_mem (hleads.trans posted.supply.leads_clock)
  refine enacts_updateDebtor ?_ hcounts.row fun {stored} hstored => ?_
  · rw [Course.clocked_unit, hrecorded.restates, hid]
    exact hdebtor
  refine enacts_pure (hplaced₂.still rfl)
    { row := ⟨_, rfl⟩
      drawn := hdrawn
      debtor := hcounts.balance ▸ hstored
      legs := hrecorded.legs posted.supply.leads_clock
      leaves := ?_ }
  change ({ posted.unit.working with
    debtors := posted.unit.working.debtors.insert stored } : Tables) = _
  rw [hrecorded.restates]
  rfl

/-- What comes of a debt that was changed. -/
structure DebtReset (tables : Tables) (debt : Debt) (debtor : Debtor) (amounts : DebtAmounts)
    (posting : DebtPosting) (last : Course) : Prop where
  row : posting.debt = debt.reset amounts posting.debt.updatedAt
  debtor : debtor.Rebalanced ((debtor.balance.add? (-debt.debted.amount)).bind fun relieved =>
    relieved.add? (amounts.kind.signed amounts.debted.amount)) posting.debtor
  legs : DebtLegs tables.place posting.debt amounts.received posting.records last.supply
  leaves : last.Leaves tables
    (posting.records.foldl Table.insert (tables.recordsWithout (Record.isOfDebt debt.id)))
    tables.exchanges (tables.debtors.insert posting.debtor) (tables.debts.insert posting.debt)

theorem enacts_updateDebt (hone : tables.balances.OnePerPair) {debt : Debt} {debtor : Debtor}
    (hmem : debt ∈ tables.debts.rows) (hdebtor : tables.debtors.find? debt.debtorId = some debtor)
    (amounts : DebtAmounts) :
    (updateDebt limits debt.id amounts).work.Enacts tables.place (.start tables supply)
      (.passed (debtor.checkCurrency amounts.debted.currency).isOk ::
        ((tables.recordsWhere (Record.isOfDebt debt.id)).map Record.undoing ++
            [.passed (debtor.balance.add? (-debt.debted.amount)).isSome]) ++
          (amounts.received.map (Money.posting tables.place debt.userId amounts.kind.direction) ++
            [.passed ((debtor.balance.add? (-debt.debted.amount)).bind fun relieved =>
              relieved.add? (amounts.kind.signed amounts.debted.amount)).isSome]))
      (DebtReset tables debt debtor amounts) := by
  have hplaced : (Course.start tables supply).Placed tables.place := ⟨hone, rfl⟩
  have hfind : tables.debts.find? debt.id = some debt := Table.mem_rows_iff.mp hmem
  have hid : debtor.id = debt.debtorId := Table.key_of_find? hdebtor
  refine enacts_bind (perform_findDebt_of_find? hfind) rfl ?_
  refine enacts_bind (perform_findDebtor_of_find? hdebtor) rfl ?_
  refine enacts_bind_check (hplaced.still rfl) fun _ => ?_
  refine .bind (enacts_unpostDebt ?_ debt debtor)
    fun {relieved middle} _ hplaced₁ ⟨hcounts, hrestates⟩ => ?_
  · exact hplaced.still rfl
  rw [hcounts.balance, Option.bind_some]
  refine enacts_bind (perform_now_eq_ok.mpr ⟨rfl, rfl⟩) rfl ?_
  refine .bind (enacts_postDebtLegs ?_ _ _) fun {records posted} hperform hplaced₂ hrecorded => ?_
  · exact hplaced₁.still rfl
  refine .bind_still (enacts_adjustDebtor hplaced₂ relieved _)
    fun {after last} _ hplaced₃ ⟨hcounts', hlast⟩ => ?_
  subst hlast
  have hboth := hrestates.trans hrecorded.restates
  rw [Course.clocked_unit, hrestates.records_eq] at hboth
  have hrow : after = { debtor with balance := after.balance, updatedAt := after.updatedAt } := by
    rw [hcounts'.row, hcounts.row]
  refine enacts_updateDebtor ?_ hrow fun {stored} hstored => ?_
  · rw [Course.clocked_unit, hboth, hid]
    exact hdebtor
  have hanswer : (posted.unit.writeDebtor stored (.stored debtor.version)).answer
      (.updateDebt (debt.reset amounts (middle.supply.moment middle.supply.readings))) =
      (.ok (), (posted.unit.writeDebtor stored (.stored debtor.version)).writeDebt
        (debt.reset amounts (middle.supply.moment middle.supply.readings))) := by
    refine MemoryUnit.changing_eq_ok.mpr ⟨?_, rfl⟩
    change Table.contains posted.unit.working.debts debt.id = true
    rw [hboth]
    exact congrArg Option.isSome hfind
  refine enacts_bind (perform_ask_eq_ok.mpr ⟨_, hanswer, rfl⟩) rfl ?_
  refine enacts_pure (hplaced₃.still rfl)
    { row := rfl
      debtor := ?_
      legs := hrecorded.legs posted.supply.leads_clock
      leaves := ?_ }
  · rw [hcounts.balance, Option.bind_some]
    exact hcounts'.balance ▸ hstored
  change ({ posted.unit.working with
    debtors := posted.unit.working.debtors.insert stored
    debts := posted.unit.working.debts.insert _ } : Tables) = _
  rw [hboth]
  rfl

end Engine

end CashLedger
