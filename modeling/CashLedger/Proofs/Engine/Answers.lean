import CashLedger.Proofs.Engine.Footprints

/-!
# Answers are stored rows

What a change answers was put together on the way, before its other legs and rows were written.
None of what it writes later touches it: each row that is answered is the row that is stored under
its identifier, and the records of a debt that are answered are all that the debt has.
-/

namespace CashLedger

/-! ## Rows of answers -/

/-- Rows that are shown to somebody. -/
structure Rows where
  balances : List Balance := []
  records : List Record := []
  exchanges : List Exchange := []
  debtors : List Debtor := []
  debts : List Debt := []

/-- Each row is just what is stored under its identifier. -/
structure Rows.StoredIn (rows : Rows) (tables : Tables) : Prop where
  balances : ∀ balance ∈ rows.balances, tables.balances.find? balance.id = some balance
  records : ∀ record ∈ rows.records, tables.records.find? record.id = some record
  exchanges : ∀ exchange ∈ rows.exchanges, tables.exchanges.find? exchange.id = some exchange
  debtors : ∀ debtor ∈ rows.debtors, tables.debtors.find? debtor.id = some debtor
  debts : ∀ debt ∈ rows.debts, tables.debts.find? debt.id = some debt

def DebtPosting.rows (posting : DebtPosting) : Rows where
  records := posting.records
  debtors := [posting.debtor]
  debts := [posting.debt]

namespace Request

/-- The rows that a change answers, but for an exchange that it has deleted. -/
def rows : (request : Request) → request.Answer → Rows
  | .openBalance _ _, opened => { balances := [opened] }
  | .performBalanceRecord _, records => { records }
  | .postBalanceRecord _ _ _ _, posted => { records := [posted] }
  | .rollbackRecord _, stored => { balances := [stored] }
  | .updateRecord _ _ _, reposted => { records := [reposted] }
  | .createExchange _, created => { exchanges := [created] }
  | .updateExchange _ _, changed => { exchanges := [changed] }
  | .createDebt _, posting => posting.rows
  | .settleDebt _, posting => posting.rows
  | .updateDebt _ _, posting => posting.rows
  | .deleteDebt _, stored => { debtors := [stored] }
  | _, _ => {}

/-- The exchange that was deleted. -/
def deleted? : (request : Request) → request.Answer → Option Exchange
  | .deleteExchange _, deleted => some deleted
  | _, _ => none

/-- The debt that was posted, with its records. -/
def posting? : (request : Request) → request.Answer → Option DebtPosting
  | .createDebt _, posting => some posting
  | .settleDebt _, posting => some posting
  | .updateDebt _ _, posting => some posting
  | _, _ => none

end Request

/-- The records of the posting are all that the debt has, and come as they are listed if new ones
are promised to be younger. -/
structure DebtPosting.Entire (promise : Promise) (posting : DebtPosting) (tables : Tables) :
    Prop where
  perm : (tables.recordsWhere (Record.isOfDebt posting.debt.id)).Perm posting.records
  listed : promise = .increasing →
    tables.recordsWhere (Record.isOfDebt posting.debt.id) = posting.records

/-- What is answered to a request that led from some tables to others. -/
structure Request.Truthful (promise : Promise) (before : Tables) (request : Request)
    (value : request.Answer) (after : Tables) : Prop where
  rows : (request.rows value).StoredIn after
  deleted : ∀ exchange ∈ request.deleted? value,
    before.exchanges.find? exchange.id = some exchange ∧
      after.exchanges.find? exchange.id = none
  postings : ∀ posting ∈ request.posting? value, posting.Entire promise after

namespace Table

variable {α κ : Type} [DecidableEq κ] [Keyed α κ] {table after : Table α}

open Keyed (key)

theorem find?_of_insert {row : α} (hsame : after.Same (table.insert row)) :
    after.find? (key row) = some row :=
  (hsame (key row)).trans (table.find?_insert_self row)

theorem find?_of_foldl_insert {rows : List α} (hdistinct : (rows.map key).Nodup)
    (hsame : after.Same (rows.foldl insert table)) :
    ∀ row ∈ rows, after.find? (key row) = some row := by
  intro row hmem
  rw [← mem_rows_iff, hsame.mem_iff]
  exact (mem_rows_foldl_insert hdistinct table).mpr (.inl hmem)

end Table

/-- An answer of rows, none of which is an exchange that is gone or a debt with its records. -/
theorem Request.truthful_of_rows {promise : Promise} {before after : Tables} {request : Request}
    {value : request.Answer} (hrows : (request.rows value).StoredIn after)
    (hdeleted : request.deleted? value = none) (hposting : request.posting? value = none) :
    request.Truthful promise before value after where
  rows := hrows
  deleted := by simp [hdeleted]
  postings := by simp [hposting]

namespace Rows

variable {tables : Tables}

theorem storedIn_balance {balance : Balance}
    (hfind : tables.balances.find? balance.id = some balance) :
    StoredIn { balances := [balance] } tables where
  balances := List.forall_mem_singleton.mpr hfind
  records := List.forall_mem_nil _
  exchanges := List.forall_mem_nil _
  debtors := List.forall_mem_nil _
  debts := List.forall_mem_nil _

theorem storedIn_records {records : List Record}
    (hfind : ∀ record ∈ records, tables.records.find? record.id = some record) :
    StoredIn { records } tables where
  balances := List.forall_mem_nil _
  records := hfind
  exchanges := List.forall_mem_nil _
  debtors := List.forall_mem_nil _
  debts := List.forall_mem_nil _

theorem storedIn_exchange {exchange : Exchange}
    (hfind : tables.exchanges.find? exchange.id = some exchange) :
    StoredIn { exchanges := [exchange] } tables where
  balances := List.forall_mem_nil _
  records := List.forall_mem_nil _
  exchanges := List.forall_mem_singleton.mpr hfind
  debtors := List.forall_mem_nil _
  debts := List.forall_mem_nil _

theorem storedIn_debtor {debtor : Debtor}
    (hfind : tables.debtors.find? debtor.id = some debtor) :
    StoredIn { debtors := [debtor] } tables where
  balances := List.forall_mem_nil _
  records := List.forall_mem_nil _
  exchanges := List.forall_mem_nil _
  debtors := List.forall_mem_singleton.mpr hfind
  debts := List.forall_mem_nil _

theorem storedIn_posting {posting : DebtPosting}
    (hrecords : ∀ record ∈ posting.records, tables.records.find? record.id = some record)
    (hdebtor : tables.debtors.find? posting.debtor.id = some posting.debtor)
    (hdebt : tables.debts.find? posting.debt.id = some posting.debt) :
    posting.rows.StoredIn tables where
  balances := List.forall_mem_nil _
  records := hrecords
  exchanges := List.forall_mem_nil _
  debtors := List.forall_mem_singleton.mpr hdebtor
  debts := List.forall_mem_singleton.mpr hdebt

end Rows

namespace Engine

open Work Posting Table

section Changes

variable {promise : Promise} {limits : Limits} {tables store : Tables} {supply : Supply}
  {last : Course} (hopening : Opening promise tables last) (hsame : store.Same last.unit.working)

/-! ## Free records -/

include hsame in
theorem truthful_openBalance {user : UserId} {currency : Currency} {opened : Balance}
    (hperform : (openBalance user currency).work.perform (.start tables supply) =
      .ok (opened, last)) :
    (Request.openBalance user currency).Truthful promise tables opened store := by
  obtain ⟨owner, _, hfound, hrest⟩ := perform_bind_eq_ok.mp hperform
  obtain ⟨-, rfl⟩ := perform_findUser_eq_ok.mp hfound
  obtain ⟨now, _, hnow, hrest⟩ := perform_bind_eq_ok.mp hrest
  obtain ⟨-, rfl⟩ := perform_now_eq_ok.mp hnow
  obtain ⟨id, _, hdraw, hrest⟩ := perform_bind_eq_ok.mp hrest
  obtain ⟨rfl, rfl⟩ := perform_newId_eq_ok.mp hdraw
  obtain ⟨_, _, hask, hpure⟩ := perform_bind_eq_ok.mp hrest
  obtain ⟨unit, hanswer, rfl⟩ := perform_ask_eq_ok.mp hask
  obtain ⟨-, rfl⟩ := MemoryUnit.createBalance_eq_ok.mp hanswer
  obtain ⟨rfl, rfl⟩ := perform_pure_eq_ok.mp hpure
  exact Request.truthful_of_rows (Rows.storedIn_balance (find?_of_insert hsame.balances)) rfl rfl

include hsame in
/-- The balance that a record is taken back from is answered as it is stored, with the next
version. -/
theorem truthful_rollbackRecord {id : RecordId} {balance : Balance}
    (hperform : (rollbackRecord id).work.perform (.start tables supply) = .ok (balance, last)) :
    (Request.rollbackRecord id).Truthful promise tables balance store := by
  obtain ⟨record, _, hfound, hrest⟩ := perform_bind_eq_ok.mp hperform
  obtain ⟨-, -, rfl⟩ := perform_findFreeRecord hfound
  obtain ⟨stored, _, hreverse, hrest⟩ := perform_bind_eq_ok.mp hrest
  obtain ⟨old, after, now, -, -, rfl, rfl⟩ := perform_reverseRecord hreverse
  obtain ⟨_, _, hask, hpure⟩ := perform_bind_eq_ok.mp hrest
  obtain ⟨unit, hanswer, rfl⟩ := perform_ask_eq_ok.mp hask
  obtain ⟨-, rfl⟩ := MemoryUnit.changing_eq_ok.mp hanswer
  obtain ⟨rfl, rfl⟩ := perform_pure_eq_ok.mp hpure
  exact Request.truthful_of_rows (Rows.storedIn_balance (find?_of_insert hsame.balances)) rfl rfl

include hopening hsame

theorem truthful_postBalanceRecord {user : UserId} {kind : RecordKind} {money : Money}
    {details : Option String} {record : Record}
    (hperform : (postBalanceRecord limits user kind money details).work.perform
      (.start tables supply) = .ok (record, last)) :
    (Request.postBalanceRecord user kind money details).Truthful promise tables record store := by
  obtain ⟨owner, _, hfound, -⟩ := perform_bind_eq_ok.mp hperform
  obtain ⟨hfind, -⟩ := perform_findUser_eq_ok.mp hfound
  obtain ⟨-, -, hposted⟩ := (enacts_postBalanceRecord hopening.consistent.balanced.unique hfind
    kind money details).ok hperform
  have hstore := hposted.leaves.same hsame
  exact Request.truthful_of_rows (Rows.storedIn_records
    (List.forall_mem_singleton.mpr (find?_of_insert hstore.records))) rfl rfl

theorem truthful_performBalanceRecord {request : ManualExchange} {records : List Record}
    (hperform : (performBalanceRecord limits request).work.perform (.start tables supply) =
      .ok (records, last)) :
    (Request.performBalanceRecord request).Truthful promise tables records store := by
  obtain ⟨owner, _, hfound, -⟩ := perform_bind_eq_ok.mp hperform
  obtain ⟨hfind, -⟩ := perform_findUser_eq_ok.mp hfound
  obtain ⟨-, -, hposted⟩ :=
    (enacts_performBalanceRecord hopening.consistent.balanced.unique hfind).ok hperform
  have hstore := hposted.leaves.same hsame
  obtain ⟨transaction, sold, received, rfl, hpair⟩ := hposted.legs
  have hdistinct : ([sold, received].map Record.id).Nodup := by
    simpa using hpair.distinct hopening.keeps.distinct
  exact Request.truthful_of_rows
    (Rows.storedIn_records (find?_of_foldl_insert hdistinct hstore.records)) rfl rfl

theorem truthful_updateRecord {id : RecordId} {kind : RecordKind} {money : Money}
    {after : Record}
    (hperform : (updateRecord id kind money).work.perform (.start tables supply) =
      .ok (after, last)) :
    (Request.updateRecord id kind money).Truthful promise tables after store := by
  obtain ⟨record, _, hfound, -⟩ := perform_bind_eq_ok.mp hperform
  obtain ⟨hfind, hfree, -⟩ := perform_findFreeRecord hfound
  obtain rfl : record.id = id := Table.key_of_find? hfind
  obtain ⟨-, -, hreplaced⟩ := (enacts_updateRecord hopening.consistent.balanced.unique
    (Table.mem_of_find? hfind) hfree kind money).ok hperform
  have hstore := hreplaced.leaves.same hsame
  exact Request.truthful_of_rows (Rows.storedIn_records
    (List.forall_mem_singleton.mpr (find?_of_insert hstore.records))) rfl rfl

/-! ## Exchanges -/

theorem truthful_createExchange {request : NewExchange} {created : Exchange}
    (hperform : (createExchange limits request).work.perform (.start tables supply) =
      .ok (created, last)) :
    (Request.createExchange request).Truthful promise tables created store := by
  obtain ⟨owner, _, hfound, -⟩ := perform_bind_eq_ok.mp hperform
  obtain ⟨hfind, -⟩ := perform_findUser_eq_ok.mp hfound
  obtain ⟨-, -, hmade⟩ :=
    (enacts_createExchange hopening.consistent.balanced.unique hfind).ok hperform
  obtain ⟨sold, received, -, hleaves⟩ := hmade.legs
  have hstore := hleaves.same hsame
  exact Request.truthful_of_rows
    (Rows.storedIn_exchange (find?_of_insert hstore.exchanges)) rfl rfl

theorem truthful_updateExchange {id : ExchangeId} {amounts : ExchangeAmounts}
    {changed : Exchange}
    (hperform : (updateExchange id amounts).work.perform (.start tables supply) =
      .ok (changed, last)) :
    (Request.updateExchange id amounts).Truthful promise tables changed store := by
  obtain ⟨exchange, _, hfound, -⟩ := perform_bind_eq_ok.mp hperform
  obtain ⟨hfind, -⟩ := perform_findExchange hfound
  have hmem : exchange ∈ tables.exchanges.rows := Table.mem_of_find? hfind
  obtain rfl : exchange.id = id := Table.key_of_find? hfind
  obtain ⟨-, -, hamended⟩ := (enacts_updateExchange hopening.consistent.balanced.unique hmem
    (hopening.consistent.exchanges exchange hmem) amounts).ok hperform
  obtain ⟨posted, -, hleaves⟩ := hamended.legs
  have hstore := hleaves.same hsame
  exact Request.truthful_of_rows
    (Rows.storedIn_exchange (find?_of_insert hstore.exchanges)) rfl rfl

/-- The exchange is answered as it was stored, and is gone. -/
theorem truthful_deleteExchange {id : ExchangeId} {deleted : Exchange}
    (hperform : (deleteExchange id).work.perform (.start tables supply) = .ok (deleted, last)) :
    (Request.deleteExchange id).Truthful promise tables deleted store := by
  obtain ⟨exchange, _, hfound, -⟩ := perform_bind_eq_ok.mp hperform
  obtain ⟨hfind, -⟩ := perform_findExchange hfound
  obtain rfl : exchange.id = id := Table.key_of_find? hfind
  obtain ⟨-, -, rfl, hleaves⟩ := (enacts_deleteExchange hopening.consistent.balanced.unique
    (Table.mem_of_find? hfind)).ok hperform
  have hstore := hleaves.same hsame
  have hgone : store.exchanges.find? deleted.id = none := by
    rw [hstore.exchanges, find?_erase, if_pos rfl]
  refine ⟨by constructor <;> exact List.forall_mem_nil _, ?_, nofun⟩
  rintro _ ⟨⟩
  exact ⟨hfind, hgone⟩

/-! ## Debts -/

omit hsame in
/-- The records of a debt that had none before are all that it has. -/
theorem entire_of_legs {posting : DebtPosting} {legs : List Money} {kept : Table Record}
    (hlegs : DebtLegs tables.place posting.debt legs posting.records last.supply)
    (hrecords : store.records.Same (posting.records.foldl Table.insert kept))
    (hnone : ∀ record ∈ kept.rows, record.source ≠ .debt posting.debt.id) :
    posting.Entire promise store ∧
      ∀ record ∈ posting.records, store.records.find? record.id = some record := by
  have hdistinct := hlegs.distinct hopening.keeps.distinct
  have hsource : ∀ record ∈ posting.records, Record.isOfDebt posting.debt.id record = true := by
    intro record hmem
    obtain ⟨money, -, hposted⟩ := exists_related_of_mem hlegs.posted hmem
    exact Record.isOfDebt_iff.mpr hposted.source
  have hperm := (hrecords.perm.filter (Record.isOfDebt posting.debt.id)).trans
    (filter_foldl_insert_perm hdistinct hsource fun record hmem hchosen =>
      absurd (Record.isOfDebt_iff.mp hchosen) (hnone record hmem))
  refine ⟨⟨(store.recordsWhere_perm _).trans hperm, fun hpromise => ?_⟩,
    find?_of_foldl_insert hdistinct hrecords⟩
  have hordered := hlegs.ordered (hopening.keeps.increasing hpromise)
  exact Tables.recordsWhere_eq hperm (hordered.imp fun h => h.1)

omit hsame in
/-- No record that was there is of a debt that has just come. -/
theorem source_ne_of_drawn {id : DebtId} (hdrawn : id.uuid ∈ last.supply.drawn) :
    ∀ record ∈ tables.records.rows, record.source ≠ .debt id := by
  intro record hmem hsource
  obtain ⟨debt, hfind⟩ := hopening.consistent.debtOf record hmem id hsource
  exact Option.some_ne_none _ (hfind.symm.trans ((hopening.mandate_fresh .manual).debt hdrawn))

theorem truthful_createDebt {request : NewDebt} {posting : DebtPosting}
    (hperform : (createDebt limits request).work.perform (.start tables supply) =
      .ok (posting, last)) :
    (Request.createDebt request).Truthful promise tables posting store := by
  obtain ⟨owner, _, hfound, -⟩ := perform_bind_eq_ok.mp hperform
  obtain ⟨hfind, -⟩ := perform_findUser_eq_ok.mp hfound
  obtain ⟨-, -, hopened⟩ :=
    (enacts_createDebt hopening.consistent.balanced.unique hfind).ok hperform
  have hstore := hopened.leaves.same hsame
  obtain ⟨hentire, hrecords⟩ := entire_of_legs hopening hopened.legs hstore.records
    (source_ne_of_drawn hopening hopened.drawn.2)
  refine ⟨Rows.storedIn_posting hrecords (find?_of_insert hstore.debtors)
    (find?_of_insert hstore.debts), nofun, ?_⟩
  rintro _ ⟨⟩
  exact hentire

theorem truthful_settleDebt {request : DebtInstallment} {posting : DebtPosting}
    (hperform : (settleDebt limits request).work.perform (.start tables supply) =
      .ok (posting, last)) :
    (Request.settleDebt request).Truthful promise tables posting store := by
  obtain ⟨debtor, _, hfound, -⟩ := perform_bind_eq_ok.mp hperform
  obtain ⟨hfind, -⟩ := perform_findDebtor hfound
  obtain ⟨-, -, hsettled⟩ :=
    (enacts_settleDebt hopening.consistent.balanced.unique hfind).ok hperform
  have hstore := hsettled.leaves.same hsame
  obtain ⟨hentire, hrecords⟩ := entire_of_legs hopening hsettled.legs hstore.records
    (source_ne_of_drawn hopening hsettled.drawn)
  refine ⟨Rows.storedIn_posting hrecords (find?_of_insert hstore.debtors)
    (find?_of_insert hstore.debts), nofun, ?_⟩
  rintro _ ⟨⟩
  exact hentire

theorem truthful_updateDebt {id : DebtId} {amounts : DebtAmounts} {posting : DebtPosting}
    (hperform : (updateDebt limits id amounts).work.perform (.start tables supply) =
      .ok (posting, last)) :
    (Request.updateDebt id amounts).Truthful promise tables posting store := by
  obtain ⟨debt, _, hfound, hrest⟩ := perform_bind_eq_ok.mp hperform
  obtain ⟨hfind, rfl⟩ := perform_findDebt hfound
  obtain ⟨debtor, _, hfound', -⟩ := perform_bind_eq_ok.mp hrest
  obtain ⟨hdebtor, -⟩ := perform_findDebtor hfound'
  obtain rfl : debt.id = id := Table.key_of_find? hfind
  obtain ⟨-, -, hreset⟩ := (enacts_updateDebt hopening.consistent.balanced.unique
    (Table.mem_of_find? hfind) hdebtor amounts).ok hperform
  have hstore := hreset.leaves.same hsame
  have hid : posting.debt.id = debt.id := by
    rw [hreset.row]
    rfl
  obtain ⟨hentire, hrecords⟩ := entire_of_legs hopening hreset.legs hstore.records
    fun record hmem hsource => by
      have hdropped := (Tables.mem_recordsWithout.mp hmem).2
      rw [Record.isOfDebt_iff.mpr (hid ▸ hsource)] at hdropped
      cases hdropped
  refine ⟨Rows.storedIn_posting hrecords (find?_of_insert hstore.debtors)
    (find?_of_insert hstore.debts), nofun, ?_⟩
  rintro _ ⟨⟩
  exact hentire

theorem truthful_deleteDebt {id : DebtId} {stored : Debtor}
    (hperform : (deleteDebt id).work.perform (.start tables supply) = .ok (stored, last)) :
    (Request.deleteDebt id).Truthful promise tables stored store := by
  obtain ⟨debt, _, hfound, hrest⟩ := perform_bind_eq_ok.mp hperform
  obtain ⟨hfind, rfl⟩ := perform_findDebt hfound
  obtain ⟨debtor, _, hfound', -⟩ := perform_bind_eq_ok.mp hrest
  obtain ⟨hdebtor, -⟩ := perform_findDebtor hfound'
  obtain rfl : debt.id = id := Table.key_of_find? hfind
  obtain ⟨-, -, hdropped⟩ := (enacts_deleteDebt hopening.consistent.balanced.unique
    (Table.mem_of_find? hfind) hdebtor).ok hperform
  have hstore := hdropped.leaves.same hsame
  exact Request.truthful_of_rows
    (Rows.storedIn_debtor (find?_of_insert hstore.debtors)) rfl rfl

end Changes

end Engine

/-- Whatever the request, the rows that it answers are those that are stored. -/
theorem Request.truthful {promise : Promise} {limits : Limits} {request : Request}
    {before after : Tables} {supply : Supply} {value : request.Answer} {last : Course}
    (hchange : request.isChange = true) (hopening : Opening promise before last)
    (hsame : after.Same last.unit.working)
    (hperform : (request.operation limits).work.perform (.start before supply) =
      .ok (value, last)) : request.Truthful promise before value after := by
  cases request with
  | openBalance user currency => exact Engine.truthful_openBalance hsame hperform
  | performBalanceRecord wanted =>
    exact Engine.truthful_performBalanceRecord hopening hsame hperform
  | postBalanceRecord user kind money details =>
    exact Engine.truthful_postBalanceRecord hopening hsame hperform
  | rollbackRecord id => exact Engine.truthful_rollbackRecord hsame hperform
  | updateRecord id kind money => exact Engine.truthful_updateRecord hopening hsame hperform
  | createExchange wanted => exact Engine.truthful_createExchange hopening hsame hperform
  | updateExchange id amounts => exact Engine.truthful_updateExchange hopening hsame hperform
  | deleteExchange id => exact Engine.truthful_deleteExchange hopening hsame hperform
  | createDebt wanted => exact Engine.truthful_createDebt hopening hsame hperform
  | settleDebt wanted => exact Engine.truthful_settleDebt hopening hsame hperform
  | updateDebt id amounts => exact Engine.truthful_updateDebt hopening hsame hperform
  | deleteDebt id => exact Engine.truthful_deleteDebt hopening hsame hperform
  | _ => cases hchange

end CashLedger
