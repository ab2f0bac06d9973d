import CashLedger.Proofs.Engine.Revisions

/-!
# What calls stand on

A row is stored for another row only after that one was met: a record after its balance
and its exchange or debt, a debt after its debtor.  An update is of a row that was found, and
an exchange or debt goes only after its records have gone.  The rows that the store answers
may be any rows.
-/

namespace CashLedger

/-! ## Rows written over others -/

/-- A row in which an update has put its own values for what it sets. -/
def Balance.onto (after before : Balance) : Balance :=
  { before with
    funds := after.funds, outgoing := after.outgoing, incoming := after.incoming,
    updatedAt := after.updatedAt }

@[inherit_doc Balance.onto]
def Record.onto (after before : Record) : Record :=
  { before with
    balanceId := after.balanceId, kind := after.kind, amount := after.amount,
    currency := after.currency, details := after.details, updatedAt := after.updatedAt }

@[inherit_doc Balance.onto]
def Exchange.onto (after before : Exchange) : Exchange :=
  { before with
    received := after.received, sold := after.sold, details := after.details,
    updatedAt := after.updatedAt }

@[inherit_doc Balance.onto]
def Debtor.onto (after before : Debtor) : Debtor :=
  { before with
    name := after.name, phone := after.phone, balance := after.balance,
    updatedAt := after.updatedAt }

@[inherit_doc Balance.onto]
def Debt.onto (after before : Debt) : Debt :=
  { before with
    kind := after.kind, status := after.status, debted := after.debted,
    received := after.received, details := after.details, updatedAt := after.updatedAt }

theorem Balance.Revised.onto_eq {before after : Balance} (hrevised : before.Revised after) :
    after.onto before = after := by
  obtain ⟨now, hrow⟩ := hrevised.exists_sameRow
  have htime : after.updatedAt = now := by rw [hrow]
  rw [onto, htime]
  exact hrow.symm

theorem Debtor.Revised.onto_eq {before after : Debtor} {change : Int}
    (hrevised : before.Revised change after) : after.onto before = after := by
  obtain ⟨now, hrow⟩ := hrevised.sameRow
  have hname : after.name = before.name := by rw [hrow]
  have hphone : after.phone = before.phone := by rw [hrow]
  have htime : after.updatedAt = now := by rw [hrow]
  rw [onto, hname, hphone, htime]
  exact hrow.symm

/-! ## The rule -/

namespace Answered

/-- The call found a record or listed it. -/
inductive Lists (record : Record) : Answered → Prop
  | byId (id : RecordId) : Lists record ⟨.recordById id, some record⟩
  | ofExchange (id : ExchangeId) {records : List Record} (hmem : record ∈ records) :
      Lists record ⟨.recordsForExchange id, records⟩

/-- The call stored an exchange or found it. -/
inductive Meets (exchange : Exchange) : Answered → Prop
  | stored : Meets exchange ⟨.createExchange exchange, ()⟩
  | found (id : ExchangeId) : Meets exchange ⟨.exchangeById id, some exchange⟩

/-- The call stored a debt or found it. -/
inductive MeetsDebt (debt : Debt) : Answered → Prop
  | stored : MeetsDebt debt ⟨.createDebt debt, ()⟩
  | found (id : DebtId) : MeetsDebt debt ⟨.debtById id, some debt⟩

/-- The call stored a debtor or found them. -/
inductive MeetsDebtor (debtor : Debtor) : Answered → Prop
  | stored : MeetsDebtor debtor ⟨.createDebtor debtor, ()⟩
  | found (id : DebtorId) : MeetsDebtor debtor ⟨.debtorById id, some debtor⟩

end Answered

/-- The exchange or debt that a source names was met. -/
def RecordSource.Met (past : List Answered) : RecordSource → Prop
  | manual | transaction _ => True
  | exchange id => ∃ answered ∈ past, ∃ exchange, answered.Meets exchange ∧ exchange.id = id
  | debt id => ∃ answered ∈ past, ∃ debt, answered.MeetsDebt debt ∧ debt.id = id

/-- A record of money that was moved over a balance. -/
structure Record.Grounded (past : List Answered) (record : Record) : Prop where
  positive : 0 < record.amount.toInt
  moved : ∃ after stored, ⟨.updateBalance after, stored⟩ ∈ past ∧ record.balanceId = stored.id

/-- What a call needs to have been heard before. -/
def Call.Grounded (past : List Answered) : Call → Prop
  | createRecord record => record.Grounded past ∧ record.source.Met past
  | updateRecord after => after.Grounded past ∧
    ∃ answered ∈ past, ∃ record, answered.Lists record ∧ after.onto record = after
  | updateExchange after => ∃ id exchange, ⟨exchangeById id, some exchange⟩ ∈ past ∧
    after.onto exchange = after
  | createDebt debt => ∃ answered ∈ past, ∃ debtor, answered.MeetsDebtor debtor ∧
    debtor.id = debt.debtorId
  | updateDebt after => ∃ id debt, ⟨debtById id, some debt⟩ ∈ past ∧ after.onto debt = after
  | deleteExchange id => ∃ earlier count, past = earlier ++ [⟨deleteRecordsForExchange id, count⟩]
  | deleteDebt id => ∃ earlier debt count after stored, ⟨debtById id, some debt⟩ ∈ past ∧
    past = earlier ++ [⟨deleteRecordsForDebt debt.id, count⟩, ⟨updateDebtor after, stored⟩]
  | _ => True

/-- Calls that need nothing. -/
def Call.isFree : Call → Bool
  | createRecord _ | updateRecord _ | updateExchange _ | createDebt _ | updateDebt _
  | deleteExchange _ | deleteDebt _ => false
  | _ => true

theorem Call.grounded_of_isFree {past : List Answered} {request : Call}
    (hfree : request.isFree = true) : request.Grounded past := by
  cases request with
  | createRecord _ | updateRecord _ | updateExchange _ | createDebt _ | updateDebt _
  | deleteExchange _ | deleteDebt _ => cases hfree
  | _ => trivial

theorem Call.grounded_of_isRead {past : List Answered} {request : Call}
    (hread : request.isRead = true) : request.Grounded past := by
  apply grounded_of_isFree
  cases request with
  | createRecord _ | updateRecord _ | updateExchange _ | createDebt _ | updateDebt _
  | deleteExchange _ | deleteDebt _ => cases hread
  | _ => rfl

theorem RecordSource.Met.mono {past later : List Answered} {source : RecordSource}
    (hmet : source.Met past) (hlater : past ⊆ later) : source.Met later := by
  cases source with
  | manual | transaction _ => trivial
  | exchange id | debt id =>
    obtain ⟨answered, hmem, hmeets⟩ := hmet
    exact ⟨answered, hlater hmem, hmeets⟩

open Work

/-! ## Steps -/

namespace Work

variable {α β : Type} {rule : List Answered → Call → Prop} {past : List Answered}

/-- What was heard stays heard. -/
theorem Obeys.extends {post : List Answered → α → Prop} {work : Work α}
    (hobeys : work.Obeys rule post past) :
    work.Obeys rule (fun later value => past <+: later ∧ post later value) past := by
  induction work generalizing past with
  | done value => exact ⟨List.prefix_rfl, hobeys⟩
  | fail cause => trivial
  | call request next ih =>
    refine ⟨hobeys.1, fun answer => (ih answer (hobeys.2 answer)).mono fun later value hlater => ?_⟩
    exact ⟨(List.prefix_append past _).trans hlater.1, hlater.2⟩
  | clock next ih => exact fun moment => ih moment (hobeys moment)
  | draw next ih => exact fun uuid => ih uuid (hobeys uuid)

/-- Who obeys two rules obeys both at once. -/
theorem Obeys.and {other : List Answered → Call → Prop} {post more : List Answered → α → Prop}
    {work : Work α} (hobeys : work.Obeys rule post past) (hother : work.Obeys other more past) :
    work.Obeys (fun later request => rule later request ∧ other later request)
      (fun later value => post later value ∧ more later value) past := by
  induction work generalizing past with
  | done value => exact ⟨hobeys, hother⟩
  | fail cause => trivial
  | call request next ih =>
    exact ⟨⟨hobeys.1, hother.1⟩, fun answer => ih answer (hobeys.2 answer) (hother.2 answer)⟩
  | clock next ih => exact fun moment => ih moment (hobeys moment) (hother moment)
  | draw next ih => exact fun uuid => ih uuid (hobeys uuid) (hother uuid)

/-- Work that asks for nothing that needs a reason may come first. -/
theorem Asks.obeys_bind {allowed : Call → Prop} {post : List Answered → β → Prop} {work : Work α}
    {next : α → Work β} (hasks : work.Asks allowed)
    (hrule : ∀ later request, allowed request → rule later request)
    (hnext : ∀ more value, (next value).Obeys rule post (past ++ more)) :
    (work >>= next).Obeys rule post past := by
  refine Work.obeys_bind.mpr (((hasks past).mono_rule hrule).extends.mono ?_)
  rintro _ value ⟨⟨more, rfl⟩, -⟩
  exact hnext more value

end Work

/-- Work that any reason, or none, is enough for. -/
abbrev Work.Free {α : Type} (work : Work α) : Prop := work.Asks fun request => request.isFree = true

theorem Work.free_ask {request : Call} (hfree : request.isFree = true) : (ask request).Free :=
  asks_ask hfree

namespace Posting

theorem free_findUser (id : UserId) : (findUser id).Free :=
  (free_ask rfl).bind fun _ => asks_require _ _

theorem free_reverseRecord (record : Record) : (reverseRecord record).Free := by
  refine (free_ask rfl).bind fun found => (asks_require _ _).bind fun balance => ?_
  exact asks_now.bind fun now => (asks_check _).bind fun after => free_ask rfl

theorem free_reverseRecords (records : List Record) : (reverseRecords records).Free := by
  induction records with
  | nil => exact asks_pure _
  | cons record rest ih => exact (free_reverseRecord record).bind fun _ => ih

end Posting

section Steps

variable {past : List Answered}

theorem Posting.grounded_applyLeg {user : UserId} {money : Money} {direction : Direction}
    {post : List Answered → Balance → Prop}
    (hpost : 0 < money.amount.toInt → ∀ more after stored,
      ⟨.updateBalance after, stored⟩ ∈ past ++ more → post (past ++ more) stored) :
    (applyLeg user money direction).Obeys Call.Grounded post past := by
  refine obeys_bind.mpr (obeys_bind.mpr ⟨trivial, fun found => ?_⟩)
  refine obeys_require.mpr fun balance _ => ?_
  refine obeys_bind.mpr fun now => obeys_bind.mpr (obeys_check.mpr fun after hafter => ?_)
  have happlied := Balance.settled_apply_eq_ok_iff.mp hafter
  refine ⟨trivial, fun stored => ?_⟩
  rw [List.append_assoc]
  exact hpost happlied.positive _ after stored (by simp)

theorem Posting.grounded_postLeg {user : UserId} {money : Money} {direction : Direction}
    {source : RecordSource} {details : Option String} {post : List Answered → Record → Prop}
    (hmet : source.Met past) (hpost : ∀ more record, post (past ++ more) record) :
    (postLeg user money direction source details).Obeys Call.Grounded post past := by
  refine obeys_bind.mpr (grounded_applyLeg fun hpositive more after stored hmem => ?_)
  refine obeys_bind.mpr fun now => obeys_bind.mpr fun uuid => obeys_bind.mpr ⟨?_, fun _ => ?_⟩
  · exact ⟨⟨hpositive, after, stored, hmem, rfl⟩, hmet.mono (List.subset_append_left _ _)⟩
  · rw [List.append_assoc]
    exact hpost _ _

theorem Engine.grounded_repostRecords {user : UserId} {amounts : ExchangeAmounts}
    {records : List Record} {post : List Answered → Unit → Prop}
    (hlisted : ∀ record ∈ records, ∃ answered ∈ past, answered.Lists record)
    (hpost : ∀ more done, post (past ++ more) done) :
    (repostRecords user amounts records).Obeys Call.Grounded post past := by
  induction records generalizing past with
  | nil =>
    have hdone := hpost [] ()
    rw [List.append_nil] at hdone
    exact hdone
  | cons record rest ih =>
    obtain ⟨hfirst, hrest⟩ := List.forall_mem_cons.mp hlisted
    refine (Posting.free_reverseRecord record).obeys_bind
      (fun _ _ => Call.grounded_of_isFree) fun more _ => ?_
    refine obeys_bind.mpr (Posting.grounded_applyLeg fun hpositive others after stored hmem => ?_)
    refine obeys_bind.mpr fun now => obeys_bind.mpr ⟨⟨?_, ?_⟩, fun _ => ih ?_ fun last done => ?_⟩
    · exact ⟨hpositive, after, stored, hmem, rfl⟩
    · obtain ⟨answered, hanswered, hlists⟩ := hfirst
      exact ⟨answered, by simp [hanswered], record, hlists, rfl⟩
    · intro other hother
      obtain ⟨answered, hanswered, hlists⟩ := hrest other hother
      exact ⟨answered, by simp [hanswered], hlists⟩
    · simpa using hpost (more ++ (others ++ (_ :: last))) done

theorem Engine.grounded_postDebtLegs {debt : Debt} {legs : List Money}
    {post : List Answered → List Record → Prop} (hmet : (RecordSource.debt debt.id).Met past)
    (hpost : ∀ more records, post (past ++ more) records) :
    (postDebtLegs debt legs).Obeys Call.Grounded post past := by
  induction legs generalizing past post with
  | nil =>
    have hdone := hpost [] []
    rw [List.append_nil] at hdone
    exact hdone
  | cons money rest ih =>
    refine obeys_bind.mpr (Posting.grounded_postLeg hmet fun more record => ?_)
    refine obeys_bind.mpr (ih (hmet.mono (List.subset_append_left _ _)) fun others records => ?_)
    change post _ _
    rw [List.append_assoc]
    exact hpost _ _

theorem Engine.grounded_findFreeRecord {id : RecordId} {post : List Answered → Record → Prop}
    (hpost : ∀ record, post (past ++ [⟨.recordById id, some record⟩]) record) :
    (findFreeRecord id).Obeys Call.Grounded post past := by
  refine obeys_bind.mpr ⟨trivial, fun found => obeys_bind.mpr ?_⟩
  refine obeys_require.mpr fun record (hfound : found = some record) => ?_
  subst hfound
  split
  · trivial
  · exact hpost record

theorem Engine.grounded_findExchange {id : ExchangeId} {post : List Answered → Exchange → Prop}
    (hpost : ∀ exchange, post (past ++ [⟨.exchangeById id, some exchange⟩]) exchange) :
    (findExchange id).Obeys Call.Grounded post past := by
  refine obeys_bind.mpr ⟨trivial, fun found => obeys_require.mpr fun exchange hfound => ?_⟩
  rw [show found = some exchange from hfound]
  exact hpost exchange

theorem Engine.grounded_findDebtor {id : DebtorId} {post : List Answered → Debtor → Prop}
    (hpost : ∀ debtor, post (past ++ [⟨.debtorById id, some debtor⟩]) debtor) :
    (findDebtor id).Obeys Call.Grounded post past := by
  refine obeys_bind.mpr ⟨trivial, fun found => obeys_require.mpr fun debtor hfound => ?_⟩
  rw [show found = some debtor from hfound]
  exact hpost debtor

theorem Engine.grounded_findDebt {id : DebtId} {post : List Answered → Debt → Prop}
    (hpost : ∀ debt, post (past ++ [⟨.debtById id, some debt⟩]) debt) :
    (findDebt id).Obeys Call.Grounded post past := by
  refine obeys_bind.mpr ⟨trivial, fun found => obeys_require.mpr fun debt hfound => ?_⟩
  rw [show found = some debt from hfound]
  exact hpost debt

/-- Nothing comes between the deletion of the records and what follows. -/
theorem Engine.grounded_unpostDebt {debt : Debt} {debtor : Debtor}
    {post : List Answered → Debtor → Prop}
    (hpost : ∀ more count after,
      post (past ++ more ++ [⟨.deleteRecordsForDebt debt.id, count⟩]) after) :
    (unpostDebt debt debtor).Obeys Call.Grounded post past := by
  refine obeys_bind.mpr ⟨trivial, fun records => ?_⟩
  refine (Posting.free_reverseRecords records).obeys_bind
    (fun _ _ => Call.grounded_of_isFree) fun more _ => ?_
  refine obeys_bind.mpr ⟨trivial, fun count => ?_⟩
  refine obeys_bind.mpr fun now => obeys_check.mpr fun after _ => ?_
  rw [List.append_assoc past]
  exact hpost _ count after

end Steps

/-! ## Requests -/

namespace Request

variable {limits : Limits}

theorem grounded_createExchange (wanted : NewExchange) :
    ((createExchange wanted).operation limits).work.Obeys Call.Grounded (fun _ _ => True) [] := by
  refine (Posting.free_findUser _).obeys_bind (fun _ _ => Call.grounded_of_isFree)
    fun past user => ?_
  refine obeys_bind.mpr fun now => obeys_bind.mpr fun uuid => ?_
  refine obeys_bind.mpr ⟨trivial, fun _ => ?_⟩
  have hmet : (RecordSource.exchange ⟨uuid⟩).Met
      (past ++ [⟨.createExchange (.new ⟨uuid⟩ user wanted now), ()⟩]) :=
    ⟨_, List.mem_append_right _ (List.mem_singleton_self _), _, .stored, rfl⟩
  refine obeys_bind.mpr (Posting.grounded_postLeg hmet fun more _ => ?_)
  exact obeys_bind.mpr (Posting.grounded_postLeg (hmet.mono (List.subset_append_left _ _))
    fun _ _ => trivial)

theorem grounded_updateExchange (id : ExchangeId) (amounts : ExchangeAmounts) :
    ((updateExchange id amounts).operation limits).work.Obeys
      Call.Grounded (fun _ _ => True) [] := by
  refine obeys_bind.mpr (Engine.grounded_findExchange fun exchange => ?_)
  refine obeys_bind.mpr ⟨trivial, fun records => ?_⟩
  refine obeys_bind.mpr (Engine.grounded_repostRecords (fun record hmem => ?_) fun more _ => ?_)
  · exact ⟨_, by simp, .ofExchange id hmem⟩
  · refine obeys_bind.mpr fun now => obeys_bind.mpr ⟨?_, fun _ => trivial⟩
    exact ⟨id, exchange, by simp, rfl⟩

theorem grounded_deleteExchange (id : ExchangeId) :
    ((deleteExchange id).operation limits).work.Obeys Call.Grounded (fun _ _ => True) [] := by
  refine obeys_bind.mpr (Engine.grounded_findExchange fun exchange => ?_)
  refine obeys_bind.mpr ⟨trivial, fun records => ?_⟩
  refine (Posting.free_reverseRecords records).obeys_bind
    (fun _ _ => Call.grounded_of_isFree) fun more _ => ?_
  refine obeys_bind.mpr ⟨trivial, fun count => ?_⟩
  exact obeys_bind.mpr ⟨⟨_, count, rfl⟩, fun _ => trivial⟩

theorem grounded_createDebt (wanted : NewDebt) :
    ((createDebt wanted).operation limits).work.Obeys Call.Grounded (fun _ _ => True) [] := by
  refine (Posting.free_findUser _).obeys_bind (fun _ _ => Call.grounded_of_isFree)
    fun past user => ?_
  refine obeys_bind.mpr fun now => obeys_bind.mpr fun uuid => ?_
  refine obeys_bind.mpr (obeys_bind.mpr fun later => obeys_check.mpr fun debtor _ => ?_)
  refine obeys_bind.mpr ⟨trivial, fun _ => ?_⟩
  refine obeys_bind.mpr (obeys_bind.mpr fun now => obeys_bind.mpr fun other => ?_)
  refine obeys_bind.mpr ⟨⟨_, by simp, debtor, .stored, rfl⟩, fun _ => ?_⟩
  refine obeys_bind.mpr (Engine.grounded_postDebtLegs ?_ fun _ _ => trivial)
  exact ⟨_, by simp, _, .stored, rfl⟩

theorem grounded_settleDebt (wanted : DebtInstallment) :
    ((settleDebt wanted).operation limits).work.Obeys Call.Grounded (fun _ _ => True) [] := by
  refine obeys_bind.mpr (Engine.grounded_findDebtor fun debtor => ?_)
  refine obeys_bind.mpr (obeys_check.mpr fun _ _ => ?_)
  refine obeys_bind.mpr (obeys_bind.mpr fun now => obeys_bind.mpr fun uuid => ?_)
  refine obeys_bind.mpr ⟨⟨_, by simp, debtor, .found wanted.debtorId, rfl⟩, fun _ => ?_⟩
  refine obeys_bind.mpr (Engine.grounded_postDebtLegs ?_ fun more records => ?_)
  · exact ⟨_, by simp, _, .stored, rfl⟩
  · refine obeys_bind.mpr (obeys_bind.mpr fun now => obeys_check.mpr fun after _ => ?_)
    exact obeys_bind.mpr ⟨trivial, fun _ => trivial⟩

theorem grounded_updateDebt (id : DebtId) (amounts : DebtAmounts) :
    ((updateDebt id amounts).operation limits).work.Obeys Call.Grounded (fun _ _ => True) [] := by
  refine obeys_bind.mpr (Engine.grounded_findDebt fun debt => ?_)
  refine obeys_bind.mpr (Engine.grounded_findDebtor fun debtor => ?_)
  refine obeys_bind.mpr (obeys_check.mpr fun _ _ => ?_)
  refine obeys_bind.mpr (Engine.grounded_unpostDebt fun more count cleared => ?_)
  refine obeys_bind.mpr fun now => ?_
  refine obeys_bind.mpr (Engine.grounded_postDebtLegs ?_ fun others records => ?_)
  · exact ⟨⟨.debtById id, some debt⟩, by simp, debt, .found id, rfl⟩
  · refine obeys_bind.mpr (obeys_bind.mpr fun later => obeys_check.mpr fun after _ => ?_)
    refine obeys_bind.mpr ⟨trivial, fun stored => obeys_bind.mpr ⟨?_, fun _ => trivial⟩⟩
    exact ⟨id, debt, by simp, rfl⟩

theorem grounded_deleteDebt (id : DebtId) :
    ((deleteDebt id).operation limits).work.Obeys Call.Grounded (fun _ _ => True) [] := by
  refine obeys_bind.mpr (Engine.grounded_findDebt fun debt => ?_)
  refine obeys_bind.mpr (Engine.grounded_findDebtor fun debtor => ?_)
  refine obeys_bind.mpr (Engine.grounded_unpostDebt fun more count cleared => ?_)
  refine obeys_bind.mpr ⟨trivial, fun stored => obeys_bind.mpr ⟨?_, fun _ => trivial⟩⟩
  refine ⟨_, debt, count, cleared, stored, by simp, List.append_assoc _ _ _⟩

theorem grounded_updateRecord (id : RecordId) (kind : RecordKind) (money : Money) :
    ((updateRecord id kind money).operation limits).work.Obeys
      Call.Grounded (fun _ _ => True) [] := by
  refine obeys_bind.mpr (Engine.grounded_findFreeRecord fun record => ?_)
  refine (Posting.free_reverseRecord record).obeys_bind
    (fun _ _ => Call.grounded_of_isFree) fun more _ => ?_
  refine obeys_bind.mpr (Posting.grounded_applyLeg fun hpositive others after stored hmem => ?_)
  refine obeys_bind.mpr fun now => obeys_bind.mpr ⟨⟨?_, ?_⟩, fun _ => trivial⟩
  · exact ⟨hpositive, after, stored, hmem, rfl⟩
  · exact ⟨⟨.recordById id, some record⟩, by simp, record, .byId id, rfl⟩

/-- Whatever the store answers, a request makes no call before it has heard what the call
needs. -/
theorem grounded (limits : Limits) (request : Request) :
    (request.operation limits).work.Obeys Call.Grounded (fun _ _ => True) [] := by
  cases request with
  | openBalance user currency =>
    refine (Posting.free_findUser _).obeys_bind (fun _ _ => Call.grounded_of_isFree)
      fun _ owner => ?_
    refine obeys_bind.mpr fun now => obeys_bind.mpr fun uuid => ?_
    exact obeys_bind.mpr ⟨trivial, fun _ => trivial⟩
  | performBalanceRecord wanted =>
    refine (Posting.free_findUser _).obeys_bind (fun _ _ => Call.grounded_of_isFree)
      fun _ user => ?_
    refine obeys_bind.mpr fun uuid => ?_
    refine obeys_bind.mpr (Posting.grounded_postLeg trivial fun _ _ => ?_)
    exact obeys_bind.mpr (Posting.grounded_postLeg trivial fun _ _ => trivial)
  | postBalanceRecord user kind money details =>
    refine (Posting.free_findUser _).obeys_bind (fun _ _ => Call.grounded_of_isFree)
      fun _ owner => ?_
    exact Posting.grounded_postLeg trivial fun _ _ => trivial
  | rollbackRecord id =>
    refine obeys_bind.mpr (Engine.grounded_findFreeRecord fun record => ?_)
    refine (Posting.free_reverseRecord record).obeys_bind
      (fun _ _ => Call.grounded_of_isFree) fun more _ => ?_
    exact obeys_bind.mpr ⟨trivial, fun _ => trivial⟩
  | updateRecord id kind money => exact grounded_updateRecord id kind money
  | createExchange wanted => exact grounded_createExchange wanted
  | updateExchange id amounts => exact grounded_updateExchange id amounts
  | deleteExchange id => exact grounded_deleteExchange id
  | createDebt wanted => exact grounded_createDebt wanted
  | settleDebt wanted => exact grounded_settleDebt wanted
  | updateDebt id amounts => exact grounded_updateDebt id amounts
  | deleteDebt id => exact grounded_deleteDebt id
  | _ => exact (onlyReads limits _ rfl).mono_rule fun _ _ => Call.grounded_of_isRead

end Request

end CashLedger
