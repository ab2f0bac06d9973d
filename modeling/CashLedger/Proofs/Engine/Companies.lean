import CashLedger.Proofs.Engine.Effects
import CashLedger.Proofs.Store.Accounts

/-!
# Whose record it is

A record that is posted gets the company of its balance.  One that is posted anew, by a
change of the record or of its exchange, goes to the balance of the new leg and keeps the
company that it had.  Nothing else that is done in a unit comes near the company of a
record, and balances stay with their companies.
-/

namespace CashLedger

/-- A record of the user and the company of its balance. -/
def Record.Carries (balances : Table Balance) (record : Record) : Prop :=
  ∃ balance, balances.find? record.balanceId = some balance ∧
    balance.userId = record.userId ∧ balance.companyId = record.companyId

/-- The same record, or a later state of it that is of the same user and company. -/
structure Record.SameHome (old record : Record) : Prop where
  id : record.id = old.id
  userId : record.userId = old.userId
  companyId : record.companyId = old.companyId
  source : record.source = old.source

theorem Record.Carries.later {balances later : Table Balance} {record : Record}
    (hcarries : record.Carries balances) (hkeeps : balances.KeepsAccounts later) :
    record.Carries later := by
  obtain ⟨balance, hfind, huser, hcompany⟩ := hcarries
  obtain ⟨now, hmem, hsame⟩ := hkeeps balance (Table.mem_of_find? hfind)
  have hid : now.id = record.balanceId := hsame.id.trans (Table.key_of_find? hfind)
  exact ⟨now, Table.find?_eq_some_iff.mpr ⟨hmem, hid⟩, hsame.userId.trans huser,
    hsame.companyId.trans hcompany⟩

/-- Each record is one of the old ones, or is of the company of its balance, or is an old
one that has been moved. -/
def Tables.Attributed (moved : Record → Prop) (old : Table Record) (tables : Tables) : Prop :=
  ∀ record ∈ tables.records.rows, record ∈ old.rows ∨ record.Carries tables.balances ∨
    moved record ∧ ∃ before ∈ old.rows, before.SameHome record

namespace Tables.Attributed

variable {moved : Record → Prop} {old : Table Record} {tables later : Tables}

theorem start (moved : Record → Prop) (tables : Tables) :
    tables.Attributed moved tables.records := fun _ hmem => .inl hmem

/-- Records may go, and balances change, as long as they stay the accounts that they are. -/
theorem mono (hattributed : tables.Attributed moved old)
    (hrecords : later.records.rows ⊆ tables.records.rows)
    (hbalances : tables.balances.KeepsAccounts later.balances) :
    later.Attributed moved old := by
  intro record hmem
  rcases hattributed record (hrecords hmem) with hold | hcarries | hmoved
  · exact .inl hold
  · exact .inr (.inl (hcarries.later hbalances))
  · exact .inr (.inr hmoved)

theorem insert (hattributed : tables.Attributed moved old) {record : Record}
    (hrecord : record.Carries tables.balances ∨
      moved record ∧ ∃ before ∈ old.rows, before.SameHome record) :
    Tables.Attributed moved old { tables with records := tables.records.insert record } := by
  intro other hmem
  rcases Table.mem_rows_insert.mp hmem with rfl | ⟨hmem, -⟩
  · exact .inr hrecord
  · exact hattributed other hmem

end Tables.Attributed

/-! ## Work that attributes its records -/

/-- Calls that neither open or change a balance nor write a record. -/
def Call.sparesBooks : Call → Bool
  | createBalance _ | updateBalance _ | createRecord _ | updateRecord _ => false
  | _ => true

theorem MemoryUnit.attributed_answer {moved : Record → Prop} {old : Table Record}
    {unit last : MemoryUnit} {request : Call} {reply : request.Answer}
    (hattributed : unit.working.Attributed moved old) (hspares : request.sparesBooks = true)
    (hanswer : unit.answer request = (.ok reply, last)) :
    last.working.Attributed moved old := by
  have hdropped (chosen : Record → Bool) :
      (Posting.dropWhere unit chosen).working.Attributed moved old := by
    refine hattributed.mono (fun record hmem => (Posting.mem_records_dropWhere.mp hmem).1) ?_
    rw [Posting.dropWhere, Posting.working_dropRecords]
    exact .refl _
  cases request with
  | createBalance _ | updateBalance _ | createRecord _ | updateRecord _ => cases hspares
  | deleteRecord id =>
    obtain ⟨-, rfl⟩ := changing_eq_ok.mp hanswer
    exact hattributed.mono (fun record hmem => (Table.mem_rows_erase.mp hmem).1) (.refl _)
  | deleteRecordsForExchange id =>
    cases hanswer
    exact hdropped _
  | deleteRecordsForDebt id =>
    cases hanswer
    exact hdropped _
  | updateExchange _ | deleteExchange _ | updateDebt _ | deleteDebt _ =>
    obtain ⟨-, rfl⟩ := changing_eq_ok.mp hanswer
    exact hattributed
  | updateDebtor debtor =>
    obtain ⟨-, -, -, -, rfl⟩ := updateDebtor_eq_ok.mp hanswer
    exact hattributed
  | _ =>
    cases hanswer
    exact hattributed

namespace Work

variable {α β : Type} {moved : Record → Prop} {old : Table Record}

/-- Wherever the work goes through, it leaves the records attributed. -/
def Attributes (moved : Record → Prop) (old : Table Record) (work : Work α) : Prop :=
  ∀ ⦃first last : Course⦄ ⦃value : α⦄, work.perform first = .ok (value, last) →
    first.unit.working.Attributed moved old → last.unit.working.Attributed moved old

theorem Attributes.bind {work : Work α} {next : α → Work β} (hwork : work.Attributes moved old)
    (hnext : ∀ value, (next value).Attributes moved old) :
    (work >>= next).Attributes moved old := by
  intro first last value hperform hfirst
  obtain ⟨found, middle, hperform, hrest⟩ := perform_bind_eq_ok.mp hperform
  exact hnext found hrest (hwork hperform hfirst)

theorem attributes_pure (value : α) : (pure value : Work α).Attributes moved old := by
  intro first last found hperform hfirst
  obtain ⟨-, rfl⟩ := perform_pure_eq_ok.mp hperform
  exact hfirst

theorem attributes_now : now.Attributes moved old := by
  intro first last found hperform hfirst
  obtain ⟨-, rfl⟩ := perform_now_eq_ok.mp hperform
  exact hfirst

theorem attributes_newId {kind : IdKind} : (newId : Work (Id kind)).Attributes moved old := by
  intro first last found hperform hfirst
  obtain ⟨-, rfl⟩ := perform_newId_eq_ok.mp hperform
  exact hfirst

theorem attributes_check (checked : Except LedgerError α) :
    (check checked).Attributes moved old := by
  intro first last found hperform hfirst
  obtain ⟨-, rfl⟩ := perform_check_eq_ok.mp hperform
  exact hfirst

theorem attributes_require (cause : LedgerError) (found : Option α) :
    (require cause found).Attributes moved old := by
  intro first last value hperform hfirst
  obtain ⟨-, rfl⟩ := perform_require_eq_ok.mp hperform
  exact hfirst

theorem attributes_ask {request : Call} (hspares : request.sparesBooks = true) :
    (ask request).Attributes moved old := by
  intro first last value hperform hfirst
  obtain ⟨unit, hanswer, rfl⟩ := perform_ask_eq_ok.mp hperform
  exact MemoryUnit.attributed_answer hfirst hspares hanswer

end Work

open Work

/-! ## Legs -/

namespace Posting

variable {moved : Record → Prop} {old : Table Record} {first last : Course}

theorem attributes_findUser (id : UserId) : (findUser id).Attributes moved old :=
  (attributes_ask rfl).bind fun _ => attributes_require _ _

theorem keepsAccounts_applyLeg {user : UserId} {money : Money} {direction : Direction}
    {stored : Balance}
    (hperform : (applyLeg user money direction).perform first = .ok (stored, last)) :
    first.unit.working.balances.KeepsAccounts last.unit.working.balances ∧
      last.unit.working.balances.find? stored.id = some stored ∧
      last.unit.working.records = first.unit.working.records := by
  obtain ⟨balance, after, now, hfind, happlied, rfl, rfl⟩ := perform_applyLeg hperform
  have hsame := (Balance.SameAccount.of_sameRow happlied.sameRow).bump
  exact ⟨(Table.KeepsAccounts.refl _).insert_sameAccount (balanceFor_eq_some hfind).1 hsame,
    Table.find?_insert_self _ _, rfl⟩

theorem attributes_applyLeg (user : UserId) (money : Money) (direction : Direction) :
    (applyLeg user money direction).Attributes moved old := by
  intro first last stored hperform hfirst
  obtain ⟨hkeeps, -, hrecords⟩ := keepsAccounts_applyLeg hperform
  exact hfirst.mono (hrecords ▸ List.Subset.refl _) hkeeps

/-- A record that is posted is of the company of its balance. -/
theorem attributes_postLeg (user : UserId) (money : Money) (direction : Direction)
    (source : RecordSource) (details : Option String) :
    (postLeg user money direction source details).Attributes moved old := by
  intro first last record hperform hfirst
  obtain ⟨stored, middle, happly, hrest⟩ := perform_bind_eq_ok.mp hperform
  obtain ⟨now, _, hnow, hrest⟩ := perform_bind_eq_ok.mp hrest
  obtain ⟨-, rfl⟩ := perform_now_eq_ok.mp hnow
  obtain ⟨id, _, hdraw, hrest⟩ := perform_bind_eq_ok.mp hrest
  obtain ⟨-, rfl⟩ := perform_newId_eq_ok.mp hdraw
  obtain ⟨_, _, hask, hpure⟩ := perform_bind_eq_ok.mp hrest
  obtain ⟨unit, hanswer, rfl⟩ := perform_ask_eq_ok.mp hask
  cases hanswer
  obtain ⟨-, rfl⟩ := perform_pure_eq_ok.mp hpure
  have hfind := (keepsAccounts_applyLeg happly).2.1
  exact (attributes_applyLeg user money direction happly hfirst).insert
    (.inl ⟨stored, hfind, rfl, rfl⟩)

theorem attributes_reverseRecord (record : Record) :
    (reverseRecord record).Attributes moved old := by
  intro first last stored hperform hfirst
  obtain ⟨balance, after, now, hfind, hundone, rfl, rfl⟩ := perform_reverseRecord hperform
  have hsame := (Balance.SameAccount.of_sameRow hundone.sameRow).bump
  exact hfirst.mono (List.Subset.refl _)
    ((Table.KeepsAccounts.refl _).insert_sameAccount (Table.mem_of_find? hfind) hsame)

theorem attributes_reverseRecords (records : List Record) :
    (reverseRecords records).Attributes moved old := by
  induction records with
  | nil => exact attributes_pure ()
  | cons record rest ih => exact (attributes_reverseRecord record).bind fun _ => ih

/-- A record that is moved to another balance stays with the company that it had. -/
theorem attributes_repost {record : Record} (hmem : record ∈ old.rows)
    (hmoved : ∀ after, record.SameHome after → moved after) (balance : Balance) (leg : Leg)
    (now : Timestamp) :
    (ask (.updateRecord (record.repost balance leg now))).Attributes moved old := by
  intro first last value hperform hfirst
  obtain ⟨unit, hanswer, rfl⟩ := perform_ask_eq_ok.mp hperform
  obtain ⟨-, rfl⟩ := MemoryUnit.changing_eq_ok.mp hanswer
  have hhome : record.SameHome (record.repost balance leg now) := ⟨rfl, rfl, rfl, rfl⟩
  exact hfirst.insert (.inr ⟨hmoved _ hhome, record, hmem, hhome⟩)

end Posting

/-! ## Operations -/

/-- The records that a request may move to other balances. -/
def Request.Reposts : Request → Record → Prop
  | updateRecord id _ _, moved => moved.id = id
  | updateExchange id _, moved => moved.source = .exchange id
  | _, _ => False

namespace Engine

open Posting

variable {moved : Record → Prop} {old : Table Record} {limits : Limits}

/-- A balance that is opened has no records. -/
theorem attributed_openBalance {tables : Tables} {supply : Supply} {last : Course}
    {user : UserId} {currency : Currency} {opened : Balance}
    (hperform : (openBalance user currency).work.perform (.start tables supply) =
      .ok (opened, last)) : last.unit.working.Attributed moved tables.records := by
  rw [leaves_openBalance hperform]
  exact fun record hmem => .inl hmem

theorem attributes_performBalanceRecord (request : ManualExchange) :
    (performBalanceRecord limits request).work.Attributes moved old :=
  (attributes_findUser _).bind fun _ => attributes_newId.bind fun _ =>
    (attributes_postLeg _ _ _ _ _).bind fun _ =>
      (attributes_postLeg _ _ _ _ _).bind fun _ => attributes_pure _

theorem attributes_postBalanceRecord (user : UserId) (kind : RecordKind) (money : Money)
    (details : Option String) :
    (postBalanceRecord limits user kind money details).work.Attributes moved old :=
  (attributes_findUser _).bind fun _ => attributes_postLeg _ _ _ _ _

theorem attributes_findFreeRecord (id : RecordId) :
    (findFreeRecord id).Attributes moved old := by
  intro first last record hperform hfirst
  obtain ⟨-, -, rfl⟩ := perform_findFreeRecord hperform
  exact hfirst

theorem attributes_rollbackRecord (id : RecordId) :
    (rollbackRecord id).work.Attributes moved old :=
  (attributes_findFreeRecord id).bind fun record => (attributes_reverseRecord record).bind
    fun balance => (attributes_ask rfl).bind fun _ => attributes_pure balance

theorem attributed_updateRecord {tables : Tables} {supply : Supply} {last : Course}
    {id : RecordId} {kind : RecordKind} {money : Money} {record : Record}
    (hperform : (updateRecord id kind money).work.perform (.start tables supply) =
      .ok (record, last)) :
    last.unit.working.Attributed (Request.updateRecord id kind money).Reposts
      tables.records := by
  obtain ⟨found, _, hfound, hrest⟩ := perform_bind_eq_ok.mp hperform
  obtain ⟨hfind, -, rfl⟩ := perform_findFreeRecord hfound
  have hmem : found ∈ tables.records.rows := Table.mem_of_find? hfind
  have hid : found.id = id := Table.key_of_find? hfind
  have hmoved : ∀ after, found.SameHome after →
      (Request.updateRecord id kind money).Reposts after :=
    fun after hhome => hhome.id.trans hid
  refine Attributes.bind (attributes_reverseRecord found) (fun _ => ?_) hrest (.start _ tables)
  refine (attributes_applyLeg _ _ _).bind fun balance => attributes_now.bind fun now => ?_
  exact (attributes_repost hmem hmoved balance ⟨kind.direction, money.amount⟩ now).bind
    fun _ => attributes_pure _

theorem attributes_createExchange (request : NewExchange) :
    (createExchange limits request).work.Attributes moved old :=
  (attributes_findUser _).bind fun _ => attributes_now.bind fun _ =>
    attributes_newId.bind fun _ => (attributes_ask rfl).bind fun _ =>
      (attributes_postLeg _ _ _ _ _).bind fun _ =>
        (attributes_postLeg _ _ _ _ _).bind fun _ => attributes_pure _

theorem attributes_findExchange (id : ExchangeId) : (findExchange id).Attributes moved old :=
  (attributes_ask rfl).bind fun _ => attributes_require _ _

theorem attributes_repostRecords (user : UserId) (amounts : ExchangeAmounts)
    {records : List Record} (hold : ∀ record ∈ records, record ∈ old.rows)
    (hmoved : ∀ record ∈ records, ∀ after, record.SameHome after → moved after) :
    (repostRecords user amounts records).Attributes moved old := by
  induction records with
  | nil => exact attributes_pure ()
  | cons record rest ih =>
    obtain ⟨hmem, hrest⟩ := List.forall_mem_cons.mp hold
    obtain ⟨hhead, htail⟩ := List.forall_mem_cons.mp hmoved
    refine (attributes_reverseRecord record).bind fun _ => ?_
    refine (attributes_applyLeg _ _ _).bind fun balance => attributes_now.bind fun _ => ?_
    exact (attributes_repost hmem hhead _ _ _).bind fun _ => ih hrest htail

theorem attributed_updateExchange {tables : Tables} {supply : Supply} {last : Course}
    {id : ExchangeId} {amounts : ExchangeAmounts} {exchange : Exchange}
    (hperform : (updateExchange id amounts).work.perform (.start tables supply) =
      .ok (exchange, last)) :
    last.unit.working.Attributed (Request.updateExchange id amounts).Reposts
      tables.records := by
  obtain ⟨found, _, hfound, hrest⟩ := perform_bind_eq_ok.mp hperform
  obtain ⟨-, rfl⟩ := perform_findExchange hfound
  obtain ⟨listed, _, hask, hrest⟩ := perform_bind_eq_ok.mp hrest
  obtain ⟨rfl, rfl⟩ := (perform_read_eq_ok rfl).mp hask
  have hmoved : ∀ record ∈ tables.recordsWhere (Record.isOfExchange id), ∀ after,
      record.SameHome after → (Request.updateExchange id amounts).Reposts after :=
    fun record hmem after hhome => hhome.source.trans
      (Record.isOfExchange_iff.mp (Tables.mem_recordsWhere.mp hmem).2)
  refine Attributes.bind (attributes_repostRecords _ _ (fun record hmem => ?_) hmoved)
    (fun _ => ?_) hrest (.start _ tables)
  · exact (Tables.mem_recordsWhere.mp hmem).1
  · exact attributes_now.bind fun _ => (attributes_ask rfl).bind fun _ => attributes_pure _

theorem attributes_deleteExchange (id : ExchangeId) :
    (deleteExchange id).work.Attributes moved old :=
  (attributes_findExchange id).bind fun _ => (attributes_ask rfl).bind fun records =>
    (attributes_reverseRecords records).bind fun _ => (attributes_ask rfl).bind fun _ =>
      (attributes_ask rfl).bind fun _ => attributes_pure _

theorem attributes_findDebtor (id : DebtorId) : (findDebtor id).Attributes moved old :=
  (attributes_ask rfl).bind fun _ => attributes_require _ _

theorem attributes_findDebt (id : DebtId) : (findDebt id).Attributes moved old :=
  (attributes_ask rfl).bind fun _ => attributes_require _ _

theorem attributes_adjustDebtor (debtor : Debtor) (change : Amount) :
    (adjustDebtor debtor change).Attributes moved old :=
  attributes_now.bind fun _ => attributes_check _

theorem attributes_postDebtLegs (debt : Debt) (legs : List Money) :
    (postDebtLegs debt legs).Attributes moved old := by
  induction legs with
  | nil => exact attributes_pure []
  | cons money rest ih =>
    exact (attributes_postLeg _ _ _ _ _).bind fun record => ih.bind fun _ =>
      attributes_pure _

theorem attributes_unpostDebt (debt : Debt) (debtor : Debtor) :
    (unpostDebt debt debtor).Attributes moved old :=
  (attributes_ask rfl).bind fun records => (attributes_reverseRecords records).bind fun _ =>
    (attributes_ask rfl).bind fun _ => attributes_adjustDebtor _ _

theorem attributes_newDebt (debtor : Debtor) (status : DebtStatus) (amounts : DebtAmounts)
    (details : Option String) : (newDebt debtor status amounts details).Attributes moved old :=
  attributes_now.bind fun _ => attributes_newId.bind fun _ => attributes_pure _

theorem attributes_createDebt (request : NewDebt) :
    (createDebt limits request).work.Attributes moved old :=
  (attributes_findUser _).bind fun _ => attributes_now.bind fun _ =>
    attributes_newId.bind fun _ => (attributes_adjustDebtor _ _).bind fun _ =>
      (attributes_ask rfl).bind fun _ => (attributes_newDebt _ _ _ _).bind fun _ =>
        (attributes_ask rfl).bind fun _ => (attributes_postDebtLegs _ _).bind fun _ =>
          attributes_pure _

theorem attributes_settleDebt (request : DebtInstallment) :
    (settleDebt limits request).work.Attributes moved old :=
  (attributes_findDebtor _).bind fun _ => (attributes_check _).bind fun _ =>
    (attributes_newDebt _ _ _ _).bind fun _ => (attributes_ask rfl).bind fun _ =>
      (attributes_postDebtLegs _ _).bind fun _ =>
        (attributes_adjustDebtor _ _).bind fun _ => (attributes_ask rfl).bind fun _ =>
          attributes_pure _

theorem attributes_updateDebt (id : DebtId) (amounts : DebtAmounts) :
    (updateDebt limits id amounts).work.Attributes moved old :=
  (attributes_findDebt _).bind fun _ => (attributes_findDebtor _).bind fun _ =>
    (attributes_check _).bind fun _ => (attributes_unpostDebt _ _).bind fun _ =>
      attributes_now.bind fun _ => (attributes_postDebtLegs _ _).bind fun _ =>
        (attributes_adjustDebtor _ _).bind fun _ => (attributes_ask rfl).bind fun _ =>
          (attributes_ask rfl).bind fun _ => attributes_pure _

theorem attributes_deleteDebt (id : DebtId) : (deleteDebt id).work.Attributes moved old :=
  (attributes_findDebt _).bind fun _ => (attributes_findDebtor _).bind fun _ =>
    (attributes_unpostDebt _ _).bind fun _ => (attributes_ask rfl).bind fun _ =>
      (attributes_ask rfl).bind fun _ => attributes_pure _

end Engine

/-- Whatever the request, a record that it leaves was there, or is of the company of its balance,
or was moved by the request. -/
theorem Request.attributed {limits : Limits} {request : Request} {before : Tables}
    {supply : Supply} {value : request.Answer} {last : Course}
    (hchange : request.isChange = true)
    (hperform : (request.operation limits).work.perform (.start before supply) =
      .ok (value, last)) :
    last.unit.working.Attributed request.Reposts before.records := by
  have hstart : before.Attributed request.Reposts before.records := .start _ before
  cases request with
  | openBalance user currency => exact Engine.attributed_openBalance hperform
  | performBalanceRecord wanted =>
    exact Engine.attributes_performBalanceRecord wanted hperform hstart
  | postBalanceRecord user kind money details =>
    exact Engine.attributes_postBalanceRecord user kind money details hperform hstart
  | rollbackRecord id => exact Engine.attributes_rollbackRecord id hperform hstart
  | updateRecord id kind money => exact Engine.attributed_updateRecord hperform
  | createExchange wanted => exact Engine.attributes_createExchange wanted hperform hstart
  | updateExchange id amounts => exact Engine.attributed_updateExchange hperform
  | deleteExchange id => exact Engine.attributes_deleteExchange id hperform hstart
  | createDebt wanted => exact Engine.attributes_createDebt wanted hperform hstart
  | settleDebt wanted => exact Engine.attributes_settleDebt wanted hperform hstart
  | updateDebt id amounts => exact Engine.attributes_updateDebt id amounts hperform hstart
  | deleteDebt id => exact Engine.attributes_deleteDebt id hperform hstart
  | _ => cases hchange

end CashLedger
