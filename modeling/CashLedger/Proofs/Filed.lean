import CashLedger.Proofs.Desk
import CashLedger.Proofs.Engine.Effects

/-!
# What is on file

While the limits of the engine stay what they are, an exchange could be asked for once more
as it is on file, and so could a debt or a record that may be changed by itself: its user is known
and its details are not too long.  If what is new is younger, then of the two records of an
exchange the one for what was sold is the older one; this holds under any limits.
-/

namespace CashLedger

open Posting

theorem Except.isOk_bind {cause β : Type} (first : Except cause Unit) (second : Except cause β) :
    (first.bind fun _ => second).isOk = (first.isOk && second.isOk) := by
  cases first <;> rfl

theorem Except.isOk_iff {cause : Type} {checked : Except cause Unit} :
    checked.isOk = true ↔ checked = .ok () := by
  cases checked <;> simp [Except.isOk, Except.toBool]

theorem Except.exists_eq_ok {cause α : Type} {outcome : Except cause α}
    (hok : outcome.isOk = true) : ∃ value, outcome = .ok value := by
  cases outcome with
  | error other => cases hok
  | ok value => exact ⟨value, rfl⟩

namespace Table

variable {α κ : Type} [Keyed α κ] [DecidableEq κ] {table : Table α} {row : α} {holds : α → Prop}

theorem forall_insert (hall : ∀ other ∈ table.rows, holds other) (hrow : holds row) :
    ∀ other ∈ (table.insert row).rows, holds other := by
  intro other hother
  rcases mem_rows_insert.mp hother with rfl | ⟨hother, -⟩
  · exact hrow
  · exact hall other hother

theorem forall_erase (hall : ∀ other ∈ table.rows, holds other) (k : κ) :
    ∀ other ∈ (table.erase k).rows, holds other :=
  fun other hother => hall other (mem_rows_erase.mp hother).1

theorem forall_foldl_insert (hall : ∀ other ∈ table.rows, holds other) {rows : List α}
    (hrows : ∀ row ∈ rows, holds row) :
    ∀ other ∈ (rows.foldl insert table).rows, holds other := by
  induction rows generalizing table with
  | nil => exact hall
  | cons row rest ih =>
    obtain ⟨hrow, hrest⟩ := List.forall_mem_cons.mp hrows
    exact ih (forall_insert hall hrow) hrest

end Table

/-! ## The records of an exchange -/

/-- The same record as far as its identifier, its age, its owner and its kind go. -/
structure Record.Continues (old record : Record) : Prop where
  id : record.id = old.id
  createdAt : record.createdAt = old.createdAt
  source : record.source = old.source
  kind : record.kind = old.kind

namespace Record.Continues

theorem refl (record : Record) : record.Continues record := ⟨rfl, rfl, rfl, rfl⟩

theorem olderFirst_eq {left right left' right' : Record} (hleft : left.Continues left')
    (hright : right.Continues right') :
    Record.olderFirst left' right' = Record.olderFirst left right := by
  simp only [Record.olderFirst, CashLedger.olderFirst, hleft.id, hleft.createdAt, hright.id,
    hright.createdAt]

end Record.Continues

/-- Of an exchange what was sold is older than what was received. -/
def Table.SoldFirst (records : Table Record) : Prop :=
  ∀ sold ∈ records.rows, ∀ received ∈ records.rows, ∀ id : ExchangeId,
    sold.source = .exchange id → received.source = .exchange id →
    sold.kind = .sell → received.kind = .buy → Record.olderFirst sold received = true

/-- A record that stands for one of the records, if it is one of an exchange. -/
def Record.Within (records : Table Record) (record : Record) : Prop :=
  ∀ id : ExchangeId, record.source = .exchange id →
    ∃ old ∈ records.rows, old.Continues record

namespace Table.SoldFirst

variable {records records' : Table Record}

theorem of_within (hfirst : records.SoldFirst)
    (hwithin : ∀ record ∈ records'.rows, record.Within records) : records'.SoldFirst := by
  intro sold hsold received hreceived id hsource hsource' hkind hkind'
  obtain ⟨old, hold, hsame⟩ := hwithin sold hsold id hsource
  obtain ⟨old', hold', hsame'⟩ := hwithin received hreceived id hsource'
  rw [hsame.olderFirst_eq hsame']
  exact hfirst old hold old' hold' id (hsame.source ▸ hsource) (hsame'.source ▸ hsource')
    (hsame.kind ▸ hkind) (hsame'.kind ▸ hkind')

theorem congr (hfirst : records.SoldFirst) (hsame : records'.Same records) : records'.SoldFirst :=
  fun sold hsold received hreceived =>
    hfirst sold (hsame.mem_iff.mp hsold) received (hsame.mem_iff.mp hreceived)

/-- Two records under the name of an exchange that had none. -/
theorem insert_pair (hfirst : records.SoldFirst) {id : ExchangeId} {sold received : Record}
    (hnone : ∀ record ∈ records.rows, record.source ≠ .exchange id)
    (hsource : sold.source = .exchange id) (hsource' : received.source = .exchange id)
    (hkind : sold.kind = .sell) (hkind' : received.kind = .buy)
    (hordered : Record.olderFirst sold received = true) :
    ((records.insert sold).insert received).SoldFirst := by
  have heach : ∀ record ∈ ((records.insert sold).insert received).rows,
      (record = sold ∨ record = received) ∨
        record ∈ records.rows ∧ record.source ≠ .exchange id :=
    forall_insert (forall_insert (fun record hmem => .inr ⟨hmem, hnone record hmem⟩)
      (.inl (.inl rfl))) (.inl (.inr rfl))
  intro left hleft right hright other hleftSource hrightSource hsell hbuy
  by_cases hid : other = id
  · subst hid
    -- Of the two new records only the first is a sale, and only the second a purchase.
    have hleft := (heach left hleft).resolve_right fun h => h.2 hleftSource
    have hright := (heach right hright).resolve_right fun h => h.2 hrightSource
    have hleft : left = sold := hleft.resolve_right fun h => by
      rw [h, hkind'] at hsell
      cases hsell
    have hright : right = received := hright.resolve_left fun h => by
      rw [h, hkind] at hbuy
      cases hbuy
    rwa [hleft, hright]
  · have hold : ∀ record ∈ ((records.insert sold).insert received).rows,
        record.source = .exchange other → record ∈ records.rows := by
      intro record hmem hrecord
      rcases heach record hmem with (rfl | rfl) | ⟨hmem, -⟩
      · exact absurd (RecordSource.exchange.inj (hrecord.symm.trans hsource)) hid
      · exact absurd (RecordSource.exchange.inj (hrecord.symm.trans hsource')) hid
      · exact hmem
    exact hfirst left (hold left hleft hleftSource) right (hold right hright hrightSource) other
      hleftSource hrightSource hsell hbuy

end Table.SoldFirst

theorem Record.within_of_mem {records : Table Record} {record : Record}
    (hmem : record ∈ records.rows) : record.Within records := fun _ _ => ⟨record, hmem, .refl _⟩

theorem Record.Posted.within {place : Places} {user : UserId} {direction : Direction}
    {source : RecordSource} {details : Option String} {money : Money} {record : Record}
    {records : Table Record} (hposted : record.Posted place user direction source details money)
    (hsource : ∀ id : ExchangeId, source ≠ .exchange id) : record.Within records :=
  fun id hrecord => absurd (hposted.source.symm.trans hrecord) (hsource id)

theorem exists_related_of_mem {α β : Type} {related : α → β → Prop} {left : List α}
    {right : List β} (heach : List.Forall₂ related left right) {b : β} (hmem : b ∈ right) :
    ∃ a ∈ left, related a b := by
  induction heach with
  | nil => cases hmem
  | cons hhead _ ih =>
    rcases List.mem_cons.mp hmem with rfl | hmem
    · exact ⟨_, List.mem_cons_self, hhead⟩
    · obtain ⟨a, ha, hrelated⟩ := ih hmem
      exact ⟨a, List.mem_cons_of_mem _ ha, hrelated⟩

theorem Record.Restated.continues {place : Places} {user : UserId} {amounts : ExchangeAmounts}
    {record after : Record} (hrestated : record.Restated place user amounts after) :
    record.Continues after where
  id := hrestated.id
  createdAt := hrestated.createdAt
  source := hrestated.source
  kind := hrestated.shows.kind

/-- The records of an exchange from old to young. -/
theorem Exchange.Mirrored.listed {tables : Tables} {exchange : Exchange}
    (hmirrored : exchange.Mirrored tables.records) (hfirst : tables.records.SoldFirst) :
    ∃ sold received,
      tables.recordsWhere (Record.isOfExchange exchange.id) = [sold, received] ∧
        sold.Shows exchange.userId .sell exchange.sold ∧
        received.Shows exchange.userId .buy exchange.received := by
  obtain ⟨sold, received, hrows, hsold, hreceived⟩ := hmirrored
  have hstored : ∀ record ∈ [sold, received],
      record ∈ tables.records.rows ∧ record.source = .exchange exchange.id := by
    intro record hmem
    obtain ⟨hmem, hchosen⟩ := List.mem_filter.mp (hrows.mem_iff.mpr hmem)
    exact ⟨hmem, Record.isOfExchange_iff.mp hchosen⟩
  obtain ⟨hmem, hsource⟩ := hstored sold (by simp)
  obtain ⟨hmem', hsource'⟩ := hstored received (by simp)
  refine ⟨sold, received, Tables.recordsWhere_eq hrows ?_, hsold, hreceived⟩
  rw [List.pairwise_pair]
  exact hfirst sold hmem received hmem' exchange.id hsource hsource' hsold.kind hreceived.kind

/-! ## On file -/

/-- A record that may be changed by itself is of a known user, with details that would pass. -/
def Record.Fit (short : Option String → Prop) (known : UserId → Prop) (record : Record) : Prop :=
  record.source.isOwned = false → known record.userId ∧ short record.details

theorem Record.fit_of_isOwned {short : Option String → Prop} {known : UserId → Prop}
    {record : Record} {source : RecordSource} (howned : source.isOwned = true)
    (hsource : record.source = source) : record.Fit short known := by
  intro hfree
  rw [hsource, howned] at hfree
  cases hfree

theorem Record.Posted.fit {short : Option String → Prop} {known : UserId → Prop} {place : Places}
    {user : UserId} {direction : Direction} {source : RecordSource} {details : Option String}
    {money : Money} {record : Record}
    (hposted : record.Posted place user direction source details money) (hknown : known user)
    (hshort : short details) : record.Fit short known := by
  rw [Record.Fit, hposted.userId, hposted.details]
  exact fun _ => ⟨hknown, hshort⟩

namespace Tables

/-- Exchanges and records that may be changed by themselves are of known users, and what is on
file has details that would pass. -/
structure Filed (promise : Promise) (short : Option String → Prop) (known : UserId → Prop)
    (tables : Tables) : Prop where
  exchanges : ∀ exchange ∈ tables.exchanges.rows, known exchange.userId ∧ short exchange.details
  debts : ∀ debt ∈ tables.debts.rows, short debt.details
  free : ∀ record ∈ tables.records.rows, record.Fit short known
  ordered : promise = .increasing → tables.records.SoldFirst

variable {promise : Promise} {short : Option String → Prop} {known more : UserId → Prop}
  {tables other : Tables}

theorem Filed.records (hfiled : tables.Filed .increasing short known) :
    tables.records.SoldFirst := hfiled.ordered rfl

theorem Filed.kept (hfiled : tables.Filed promise short known) {record : Record}
    (hmem : record ∈ tables.records.rows) :
    record.Within tables.records ∧ record.Fit short known :=
  ⟨Record.within_of_mem hmem, hfiled.free record hmem⟩

theorem Filed.mono (hfiled : tables.Filed promise short known)
    (hmore : ∀ id, known id → more id) : tables.Filed promise short more :=
  { hfiled with
    exchanges := fun exchange hmem =>
      ⟨hmore _ (hfiled.exchanges exchange hmem).1, (hfiled.exchanges exchange hmem).2⟩
    free := fun record hmem hfree =>
      ⟨hmore _ (hfiled.free record hmem hfree).1, (hfiled.free record hmem hfree).2⟩ }

theorem Filed.congr (hfiled : tables.Filed promise short known)
    (hrecords : other.records.Same tables.records)
    (hexchanges : other.exchanges.Same tables.exchanges) (hdebts : other.debts.Same tables.debts) :
    other.Filed promise short known where
  exchanges exchange hmem := hfiled.exchanges exchange (hexchanges.mem_iff.mp hmem)
  debts debt hmem := hfiled.debts debt (hdebts.mem_iff.mp hmem)
  free record hmem := hfiled.free record (hrecords.mem_iff.mp hmem)
  ordered hpromise := (hfiled.ordered hpromise).congr hrecords

/-- A store that holds only users. -/
theorem filed_of_users (users : Table User) : Filed promise short known { users } where
  exchanges _ h := by cases h
  debts _ h := by cases h
  free _ h := by cases h
  ordered _ _ h := by cases h

end Tables

namespace Engine

open Work

variable {promise : Promise} {short : Option String → Prop} {limits : Limits}
  {known : UserId → Prop} {tables : Tables} {supply : Supply} {last : Course}
  {records : Table Record} {exchanges : Table Exchange} {debtors : Table Debtor}
  {debts : Table Debt}

theorem isOk_check_createExchange (limits : Limits) (request : NewExchange) :
    (createExchange limits request).check.isOk = ((checkLeg request.sold).isOk &&
      ((checkLeg request.received).isOk && (checkDetails limits request.details).isOk)) := by
  change ((checkLeg request.sold).bind fun _ => (checkLeg request.received).bind fun _ =>
    checkDetails limits request.details).isOk = _
  rw [Except.isOk_bind, Except.isOk_bind]

theorem isOk_checkDebt (limits : Limits) (amounts : DebtAmounts) (details : Option String) :
    (checkDebt limits amounts details).isOk = ((checkLeg amounts.debted).isOk &&
      (decide (amounts.received.length ≤ limits.maxDebtLegs) &&
        ((checkLegs amounts.received).isOk && (checkDetails limits details).isOk))) := by
  unfold checkDebt
  refine (Except.isOk_bind _ _).trans (congrArg _ ?_)
  split
  · next hmore =>
    rw [decide_eq_false (Nat.not_le.mpr hmore), Bool.false_and]
    rfl
  · next hfew =>
    rw [decide_eq_true (Nat.not_lt.mp hfew), Bool.true_and]
    exact Except.isOk_bind _ _

theorem details_of_checkTransaction {request : ManualExchange}
    (hcheck : (performBalanceRecord limits request).check = .ok ()) :
    checkDetails limits request.details = .ok () := by
  change ((checkLeg request.sold).bind fun _ => (checkLeg request.received).bind fun _ =>
    checkDetails limits request.details) = _ at hcheck
  rw [← Except.isOk_iff, Except.isOk_bind, Except.isOk_bind, Bool.and_eq_true, Bool.and_eq_true]
    at hcheck
  exact Except.isOk_iff.mp hcheck.2.2

theorem isOk_check_postBalanceRecord (limits : Limits) (user : UserId) (kind : RecordKind)
    (money : Money) (details : Option String) :
    (postBalanceRecord limits user kind money details).check.isOk =
      ((checkLeg money).isOk && (checkDetails limits details).isOk) :=
  Except.isOk_bind _ _

theorem details_of_checkLeg {user : UserId} {kind : RecordKind} {money : Money}
    {details : Option String}
    (hcheck : (postBalanceRecord limits user kind money details).check = .ok ()) :
    checkDetails limits details = .ok () := by
  rw [← Except.isOk_iff, isOk_check_postBalanceRecord, Bool.and_eq_true] at hcheck
  exact Except.isOk_iff.mp hcheck.2

theorem details_of_checkNewExchange {request : NewExchange}
    (hcheck : (createExchange limits request).check = .ok ()) :
    checkDetails limits request.details = .ok () := by
  rw [← Except.isOk_iff, isOk_check_createExchange, Bool.and_eq_true, Bool.and_eq_true] at hcheck
  exact Except.isOk_iff.mp hcheck.2.2

theorem details_of_checkDebt {amounts : DebtAmounts} {details : Option String}
    (hcheck : checkDebt limits amounts details = .ok ()) :
    checkDetails limits details = .ok () := by
  rw [← Except.isOk_iff, isOk_checkDebt] at hcheck
  simp only [Bool.and_eq_true] at hcheck
  exact Except.isOk_iff.mp hcheck.2.2.2

theorem check_createDebt_eq_ok_iff {request : NewDebt} :
    (createDebt limits request).check = .ok () ↔ checkName request.debtorName = .ok () ∧
      checkDebt limits request.amounts request.details = .ok () := by
  change ((checkName request.debtorName).bind fun _ =>
    checkDebt limits request.amounts request.details) = .ok () ↔ _
  simp only [← Except.isOk_iff, Except.isOk_bind, Bool.and_eq_true]

/-- A change that posts no record of a new exchange. -/
theorem filed_of_within (hfiled : tables.Filed promise short known)
    (hleaves : last.Leaves tables records exchanges debtors debts)
    (hexchanges : ∀ exchange ∈ exchanges.rows, known exchange.userId ∧ short exchange.details)
    (hdebts : ∀ debt ∈ debts.rows, short debt.details)
    (hrecords : ∀ record ∈ records.rows,
      record.Within tables.records ∧ record.Fit short known) :
    last.unit.working.Filed promise short known := by
  rw [hleaves]
  exact
    { exchanges := hexchanges
      debts := hdebts
      free := fun record hmem => (hrecords record hmem).2
      ordered := fun hpromise => (hfiled.ordered hpromise).of_within
        fun record hmem => (hrecords record hmem).1 }

/-- A change that touches neither exchanges nor debts, and posts no record of an exchange. -/
theorem filed_of_records (hfiled : tables.Filed promise short known)
    (hleaves : last.Leaves tables records tables.exchanges debtors tables.debts)
    (hrecords : ∀ record ∈ records.rows,
      record.Within tables.records ∧ record.Fit short known) :
    last.unit.working.Filed promise short known :=
  filed_of_within hfiled hleaves hfiled.exchanges hfiled.debts hrecords

/-- A change that puts a debt on file and posts its records. -/
theorem filed_of_debt (hfiled : tables.Filed promise short known) {place : Places} {debt : Debt}
    {legs : List Money} {posted : List Record} {supply : Supply} {kept : Table Record}
    (hleaves : last.Leaves tables (posted.foldl Table.insert kept) tables.exchanges debtors
      (tables.debts.insert debt))
    (hkept : ∀ record ∈ kept.rows, record ∈ tables.records.rows)
    (hdetails : short debt.details)
    (hlegs : DebtLegs place debt legs posted supply) :
    last.unit.working.Filed promise short known := by
  refine filed_of_within hfiled hleaves hfiled.exchanges
    (Table.forall_insert hfiled.debts hdetails) (Table.forall_foldl_insert
      (fun record hmem => hfiled.kept (hkept record hmem)) fun record hmem => ?_)
  obtain ⟨money, -, hposted⟩ := exists_related_of_mem hlegs.posted hmem
  exact ⟨hposted.within nofun, Record.fit_of_isOwned rfl hposted.source⟩

variable (hopening : Opening promise tables last) (hfiled : tables.Filed promise short known)

include hopening hfiled

section New

variable (hknown : ∀ id user, tables.users.find? id = some user → known id)
  (hshort : ∀ details, checkDetails limits details = .ok () → short details)

include hknown hshort

theorem filed_performBalanceRecord {request : ManualExchange} {posted : List Record}
    (hcheck : (performBalanceRecord limits request).check = .ok ())
    (hperform : (performBalanceRecord limits request).work.perform (.start tables supply) =
      .ok (posted, last)) : last.unit.working.Filed promise short known := by
  obtain ⟨owner, _, hfind, -⟩ := perform_bind_eq_ok.mp hperform
  obtain ⟨huser, -⟩ := perform_findUser_eq_ok.mp hfind
  obtain ⟨-, -, hposted⟩ :=
    (enacts_performBalanceRecord hopening.consistent.balanced.unique huser).ok hperform
  obtain ⟨transaction, sold, received, rfl, hpair⟩ := hposted.legs
  have howner := hknown _ owner huser
  have hdetails := hshort _ (details_of_checkTransaction hcheck)
  refine filed_of_records hfiled hposted.leaves
    (Table.forall_foldl_insert (fun _ => hfiled.kept) ?_)
  simp only [List.forall_mem_cons]
  exact ⟨⟨hpair.sold.within nofun, hpair.sold.fit howner hdetails⟩,
    ⟨hpair.received.within nofun, hpair.received.fit howner hdetails⟩, nofun⟩

theorem filed_postBalanceRecord {user : UserId} {kind : RecordKind} {money : Money}
    {details : Option String} {record : Record}
    (hcheck : (postBalanceRecord limits user kind money details).check = .ok ())
    (hperform : (postBalanceRecord limits user kind money details).work.perform
      (.start tables supply) = .ok (record, last)) :
    last.unit.working.Filed promise short known := by
  obtain ⟨owner, _, hfind, -⟩ := perform_bind_eq_ok.mp hperform
  obtain ⟨huser, -⟩ := perform_findUser_eq_ok.mp hfind
  obtain ⟨-, -, hposted⟩ := (enacts_postBalanceRecord hopening.consistent.balanced.unique huser
    kind money details).ok hperform
  exact filed_of_records hfiled hposted.leaves (Table.forall_insert (fun _ => hfiled.kept)
    ⟨hposted.posted.within nofun,
      hposted.posted.fit (hknown _ owner huser) (hshort _ (details_of_checkLeg hcheck))⟩)

theorem filed_createExchange {request : NewExchange} {created : Exchange}
    (hcheck : (createExchange limits request).check = .ok ())
    (hperform : (createExchange limits request).work.perform (.start tables supply) =
      .ok (created, last)) : last.unit.working.Filed promise short known := by
  obtain ⟨owner, _, hfind, -⟩ := perform_bind_eq_ok.mp hperform
  obtain ⟨huser, -⟩ := perform_findUser_eq_ok.mp hfind
  obtain ⟨-, -, hmade⟩ :=
    (enacts_createExchange hopening.consistent.balanced.unique huser).ok hperform
  obtain ⟨user, now, hfound, hrow⟩ := hmade.row
  obtain ⟨sold, received, hpair, hleaves⟩ := hmade.legs
  have hid : user.id = request.userId := Table.key_of_find? hfound
  have hunknown : tables.exchanges.find? created.id = none :=
    Option.eq_none_iff_forall_ne_some.mpr fun row hrow =>
      hopening.fresh.exchanges _ row hrow hmade.drawn
  rw [hleaves]
  refine ⟨Table.forall_insert hfiled.exchanges ?_, hfiled.debts,
    Table.forall_insert (Table.forall_insert hfiled.free ?_) ?_, fun hpromise => ?_⟩
  · rw [hrow]
    rw [← hid] at hfound
    exact ⟨hknown _ user hfound, hshort _ (details_of_checkNewExchange hcheck)⟩
  · exact Record.fit_of_isOwned rfl hpair.sold.source
  · exact Record.fit_of_isOwned rfl hpair.received.source
  · exact (hfiled.ordered hpromise).insert_pair (hopening.consistent.source_ne_exchange hunknown)
      hpair.sold.source hpair.received.source hpair.sold.kind hpair.received.kind
      (hpair.ordered (hopening.keeps.increasing hpromise)).1

end New

theorem filed_rollbackRecord {id : RecordId} {balance : Balance}
    (hperform : (rollbackRecord id).work.perform (.start tables supply) = .ok (balance, last)) :
    last.unit.working.Filed promise short known := by
  obtain ⟨record, _, hfind, -⟩ := perform_bind_eq_ok.mp hperform
  obtain ⟨hstored, hfree, -⟩ := perform_findFreeRecord hfind
  obtain ⟨hmem, rfl⟩ := Table.find?_eq_some_iff.mp hstored
  obtain ⟨-, -, hleaves⟩ :=
    (enacts_rollbackRecord hopening.consistent.balanced.unique hmem hfree).ok hperform
  exact filed_of_records hfiled hleaves (Table.forall_erase (fun _ => hfiled.kept) _)

theorem filed_updateRecord {id : RecordId} {kind : RecordKind} {money : Money} {changed : Record}
    (hperform : (updateRecord id kind money).work.perform (.start tables supply) =
      .ok (changed, last)) : last.unit.working.Filed promise short known := by
  obtain ⟨record, _, hfind, -⟩ := perform_bind_eq_ok.mp hperform
  obtain ⟨hstored, hfree, -⟩ := perform_findFreeRecord hfind
  obtain ⟨hmem, rfl⟩ := Table.find?_eq_some_iff.mp hstored
  obtain ⟨-, -, hreplaced⟩ := (enacts_updateRecord hopening.consistent.balanced.unique hmem
    hfree kind money).ok hperform
  obtain ⟨balance, -, -, hrow⟩ := hreplaced.row
  refine filed_of_records hfiled hreplaced.leaves
    (Table.forall_insert (fun _ => hfiled.kept) ⟨fun id hsource => ?_, ?_⟩)
  · -- A record that may be changed by itself is of no exchange.
    rw [hrow] at hsource
    change record.source = .exchange id at hsource
    rw [hsource] at hfree
    cases hfree
  · rw [hrow]
    exact hfiled.free record hmem

theorem filed_updateExchange {id : ExchangeId} {amounts : ExchangeAmounts} {changed : Exchange}
    (hperform : (updateExchange id amounts).work.perform (.start tables supply) =
      .ok (changed, last)) : last.unit.working.Filed promise short known := by
  obtain ⟨exchange, _, hfind, -⟩ := perform_bind_eq_ok.mp hperform
  obtain ⟨hfound, -⟩ := perform_findExchange hfind
  obtain ⟨hmem, rfl⟩ := Table.find?_eq_some_iff.mp hfound
  obtain ⟨-, -, hamended⟩ := (enacts_updateExchange hopening.consistent.balanced.unique hmem
    (hopening.consistent.exchanges exchange hmem) amounts).ok hperform
  obtain ⟨posted, heach, hleaves⟩ := hamended.legs
  refine filed_of_within hfiled hleaves (Table.forall_insert hfiled.exchanges ?_) hfiled.debts
    (Table.forall_foldl_insert (fun _ => hfiled.kept) fun record hrecord => ?_)
  · rw [hamended.row]
    exact hfiled.exchanges exchange hmem
  · obtain ⟨old, hold, hrestated⟩ := exists_related_of_mem heach hrecord
    obtain ⟨hold, hchosen⟩ := Tables.mem_recordsWhere.mp hold
    exact ⟨fun _ _ => ⟨old, hold, hrestated.continues⟩, Record.fit_of_isOwned rfl
      (hrestated.source.trans (Record.isOfExchange_iff.mp hchosen))⟩

theorem filed_deleteExchange {id : ExchangeId} {deleted : Exchange}
    (hperform : (deleteExchange id).work.perform (.start tables supply) = .ok (deleted, last)) :
    last.unit.working.Filed promise short known := by
  obtain ⟨exchange, _, hfind, -⟩ := perform_bind_eq_ok.mp hperform
  obtain ⟨hfound, -⟩ := perform_findExchange hfind
  obtain ⟨hmem, rfl⟩ := Table.find?_eq_some_iff.mp hfound
  obtain ⟨-, -, -, hleaves⟩ :=
    (enacts_deleteExchange hopening.consistent.balanced.unique hmem).ok hperform
  exact filed_of_within hfiled hleaves (Table.forall_erase hfiled.exchanges _) hfiled.debts
    fun record hrecord => hfiled.kept (Tables.mem_recordsWithout.mp hrecord).1

section NewDebt

variable (hshort : ∀ details, checkDetails limits details = .ok () → short details)

include hshort

theorem filed_createDebt {request : NewDebt} {posting : DebtPosting}
    (hcheck : (createDebt limits request).check = .ok ())
    (hperform : (createDebt limits request).work.perform (.start tables supply) =
      .ok (posting, last)) : last.unit.working.Filed promise short known := by
  obtain ⟨owner, _, hfind, -⟩ := perform_bind_eq_ok.mp hperform
  obtain ⟨huser, -⟩ := perform_findUser_eq_ok.mp hfind
  obtain ⟨-, -, hopened⟩ :=
    (enacts_createDebt hopening.consistent.balanced.unique huser).ok hperform
  obtain ⟨now, hrow⟩ := hopened.row
  refine filed_of_debt hfiled hopened.leaves (fun _ hmem => hmem) ?_ hopened.legs
  rw [hrow]
  exact hshort _ (details_of_checkDebt (check_createDebt_eq_ok_iff.mp hcheck).2)

theorem filed_settleDebt {request : DebtInstallment} {posting : DebtPosting}
    (hcheck : (settleDebt limits request).check = .ok ())
    (hperform : (settleDebt limits request).work.perform (.start tables supply) =
      .ok (posting, last)) : last.unit.working.Filed promise short known := by
  obtain ⟨debtor, _, hfind, -⟩ := perform_bind_eq_ok.mp hperform
  obtain ⟨hdebtor, -⟩ := perform_findDebtor hfind
  obtain ⟨-, -, hsettled⟩ :=
    (enacts_settleDebt hopening.consistent.balanced.unique hdebtor).ok hperform
  obtain ⟨now, hrow⟩ := hsettled.row
  refine filed_of_debt hfiled hsettled.leaves (fun _ hmem => hmem) ?_ hsettled.legs
  rw [hrow]
  exact hshort _ (details_of_checkDebt hcheck)

end NewDebt

theorem filed_updateDebt {id : DebtId} {amounts : DebtAmounts} {posting : DebtPosting}
    (hperform : (updateDebt limits id amounts).work.perform (.start tables supply) =
      .ok (posting, last)) : last.unit.working.Filed promise short known := by
  obtain ⟨debt, _, hfind, -⟩ := perform_bind_eq_ok.mp hperform
  obtain ⟨hfound, -⟩ := perform_findDebt hfind
  obtain ⟨hmem, rfl⟩ := Table.find?_eq_some_iff.mp hfound
  obtain ⟨debtor, hdebtor, -⟩ := hopening.consistent.owed.debtor debt hmem
  obtain ⟨-, -, hreset⟩ := (enacts_updateDebt hopening.consistent.balanced.unique hmem hdebtor
    amounts).ok hperform
  refine filed_of_debt hfiled hreset.leaves
    (fun _ hmem => (Tables.mem_recordsWithout.mp hmem).1) ?_ hreset.legs
  rw [hreset.row]
  exact hfiled.debts debt hmem

theorem filed_deleteDebt {id : DebtId} {answer : Debtor}
    (hperform : (deleteDebt id).work.perform (.start tables supply) = .ok (answer, last)) :
    last.unit.working.Filed promise short known := by
  obtain ⟨debt, _, hfind, -⟩ := perform_bind_eq_ok.mp hperform
  obtain ⟨hfound, -⟩ := perform_findDebt hfind
  obtain ⟨hmem, rfl⟩ := Table.find?_eq_some_iff.mp hfound
  obtain ⟨debtor, hdebtor, -⟩ := hopening.consistent.owed.debtor debt hmem
  obtain ⟨-, -, hdropped⟩ :=
    (enacts_deleteDebt hopening.consistent.balanced.unique hmem hdebtor).ok hperform
  exact filed_of_within hfiled hdropped.leaves hfiled.exchanges
    (Table.forall_erase hfiled.debts _)
    fun record hrecord => hfiled.kept (Tables.mem_recordsWithout.mp hrecord).1

end Engine

/-- Whatever is done, all that is on file could be asked for once more. -/
theorem Request.filed {promise : Promise} {short : Option String → Prop} {limits : Limits}
    {request : Request} {known : UserId → Prop} {tables : Tables} {supply : Supply}
    {value : request.Answer} {last : Course}
    (hchange : request.isChange = true) (hopening : Opening promise tables last)
    (hknown : ∀ id user, tables.users.find? id = some user → known id)
    (hshort : ∀ details, checkDetails limits details = .ok () → short details)
    (hfiled : tables.Filed promise short known)
    (hcheck : (request.operation limits).check = .ok ())
    (hperform : (request.operation limits).work.perform (.start tables supply) =
      .ok (value, last)) : last.unit.working.Filed promise short known := by
  cases request with
  | openBalance user currency =>
    exact Engine.filed_of_records hfiled (Engine.leaves_openBalance hperform)
      fun _ => hfiled.kept
  | performBalanceRecord wanted =>
    exact Engine.filed_performBalanceRecord hopening hfiled hknown hshort hcheck hperform
  | postBalanceRecord user kind money details =>
    exact Engine.filed_postBalanceRecord hopening hfiled hknown hshort hcheck hperform
  | rollbackRecord id => exact Engine.filed_rollbackRecord hopening hfiled hperform
  | updateRecord id kind money => exact Engine.filed_updateRecord hopening hfiled hperform
  | createExchange wanted =>
    exact Engine.filed_createExchange hopening hfiled hknown hshort hcheck hperform
  | updateExchange id amounts => exact Engine.filed_updateExchange hopening hfiled hperform
  | deleteExchange id => exact Engine.filed_deleteExchange hopening hfiled hperform
  | createDebt wanted => exact Engine.filed_createDebt hopening hfiled hshort hcheck hperform
  | settleDebt wanted => exact Engine.filed_settleDebt hopening hfiled hshort hcheck hperform
  | updateDebt id amounts => exact Engine.filed_updateDebt hopening hfiled hperform
  | deleteDebt id => exact Engine.filed_deleteDebt hopening hfiled hperform
  | _ => cases hchange

/-! ## At a desk -/

/-- Who comes with a request comes under these limits. -/
def Turn.Under (limits : Limits) : Turn → Prop
  | .opens own _ _ _ => own = limits
  | _ => True

instance (limits : Limits) : (turn : Turn) → Decidable (turn.Under limits)
  | .opens own _ _ _ => inferInstanceAs (Decidable (own = limits))
  | .ends _ | .joins _ => .isTrue trivial

/-- Who comes with a request lets only such details pass. -/
def Turn.Passes (short : Option String → Prop) : Turn → Prop
  | .opens own _ _ _ => ∀ details, checkDetails own details = .ok () → short details
  | _ => True

theorem Turn.Under.passes {limits : Limits} {turn : Turn} (hunder : turn.Under limits) :
    turn.Passes fun details => checkDetails limits details = .ok () := by
  cases turn with
  | opens own request moment uuid =>
    obtain rfl : own = limits := hunder
    exact fun _ hdetails => hdetails
  | ends place => exact trivial
  | joins user => exact trivial

namespace Desk

/-- Desks that come of a store that holds only users while the limits stay the same. -/
inductive ReachableUnder (limits : Limits) (promise : Promise) : Desk → Prop
  | start (users : Table User) : ReachableUnder limits promise { shared := { users } }
  | turn {desk : Desk} (turn : Turn) (hreachable : ReachableUnder limits promise desk)
      (hallows : desk.Allows promise turn) (hunder : turn.Under limits) :
      ReachableUnder limits promise (desk.turn turn)

variable {limits : Limits} {promise : Promise} {desk : Desk}

theorem ReachableUnder.reachable (hreachable : desk.ReachableUnder limits promise) :
    desk.Reachable promise := by
  induction hreachable with
  | start users => exact .start users
  | turn turn _ hallows _ ih => exact ih.turn turn hallows

theorem ReachableUnder.run {turns : List Turn} (hreachable : desk.ReachableUnder limits promise)
    (hallows : desk.AllowsAll promise turns) (hunder : ∀ turn ∈ turns, turn.Under limits) :
    (desk.run turns).ReachableUnder limits promise := by
  induction turns generalizing desk with
  | nil => exact hreachable
  | cons turn rest ih =>
    obtain ⟨hturn, hrest⟩ := List.forall_mem_cons.mp hunder
    exact ih (hreachable.turn turn hallows.1 hturn) hallows.2 hrest

def Knows (desk : Desk) (id : UserId) : Prop := ∃ user, desk.shared.users.find? id = some user

/-- All is on file as it should be, and whoever is at work lets only such details pass. -/
structure Filed (promise : Promise) (short : Option String → Prop) (desk : Desk) : Prop where
  shared : desk.shared.Filed promise short desk.Knows
  short : ∀ session ∈ desk.sessions, ∀ details,
    checkDetails session.limits details = .ok () → short details
  users : ∀ session ∈ desk.sessions, ∀ id user, session.snapshot.users.find? id = some user →
    desk.Knows id

end Desk

/-- A commit leaves the tables as filed as they were. -/
theorem Session.Current.filed {promise : Promise} {short : Option String → Prop}
    {session : Session} {used : List Uuid} {shared next : Tables} {last : Course}
    {value : session.request.Answer} {known : UserId → Prop}
    (hcurrent : session.Current promise used shared)
    (hshared : shared.Sound promise used) (hchange : session.request.isChange = true)
    (hshort : ∀ details, checkDetails session.limits details = .ok () → short details)
    (hknown : ∀ id user, session.snapshot.users.find? id = some user → known id)
    (hfiled : shared.Filed promise short known) (hcheck : session.operation.check = .ok ())
    (hcourse : session.course = .ok (value, last)) (hregular : last.Regular promise used)
    (hcommit : last.unit.commit shared = .ok next) : next.Filed promise short known := by
  obtain ⟨unit, hreplayed, hcommit⟩ :=
    hcurrent.replay hshared hchange hcheck hcourse hregular hcommit
  obtain ⟨-, rfl⟩ := MemoryUnit.commit_eq_ok_iff.mp hcommit
  -- The change is as good as one that was made on the tables that it meets at its end.
  have hstart := hshared.withUsers session.snapshot.users
  have hregular' : Course.Regular promise used { last with unit } := { hregular with }
  have hsame := @Session.publish_same promise
    (session.on { shared with users := session.snapshot.users }) used _ value hstart hchange
    hcheck hreplayed hregular'
  have hdone := Request.filed hchange (hstart.opening hregular') hknown hshort { hfiled with }
    hcheck hreplayed
  exact hdone.congr hsame.records hsame.exchanges hsame.debts

namespace Desk

variable {promise : Promise} {short : Option String → Prop} {limits : Limits} {desk : Desk}

theorem Filed.ended (hfiled : desk.Filed promise short) (hsound : desk.Sound promise)
    {session : Session} {rest : List Session} (hmem : session ∈ desk.sessions)
    (hrest : rest ⊆ desk.sessions)
    (hregular : session.Regular desk.shared promise desk.used) :
    (desk.ended session rest).Filed promise short := by
  have hothers : ∀ other ∈ rest, ∀ details,
      checkDetails other.limits details = .ok () → short details :=
    fun other hother => hfiled.short other (hrest hother)
  unfold Desk.ended
  split
  · next value last next hending =>
    obtain ⟨hcourse, hfinish⟩ := Session.ending?_eq_some_iff.mp hending
    obtain ⟨hcheck, last', hcourse', hended⟩ := Session.finish_eq_ok_iff.mp hfinish
    rw [hcourse] at hcourse'
    cases hcourse'
    have husers : next.users = desk.shared.users := Session.finish_users hfinish
    refine ⟨?_, hothers, fun other hother id user hfind => ?_⟩
    · have hnext : next.Filed promise short desk.Knows := by
        split at hended
        · next hchange =>
          exact (hsound.sessions session hmem).filed hsound.shared hchange
            (hfiled.short session hmem) (hfiled.users session hmem) hfiled.shared hcheck hcourse
            (hregular _ hending) hended
        · rw [hended]
          exact hfiled.shared
      exact hnext.mono fun id hknown => by rwa [Knows, husers]
    · rw [Knows, husers]
      exact hfiled.users other (hrest hother) id user hfind
  · next hending =>
    rw [Session.finish_of_ending?_eq_none hending]
    exact ⟨hfiled.shared, hothers, fun other hother => hfiled.users other (hrest hother)⟩

theorem Filed.turn (hfiled : desk.Filed promise short) (hsound : desk.Sound promise) {turn : Turn}
    (hallows : desk.Allows promise turn) (hshort : turn.Passes short) :
    (desk.turn turn).Filed promise short := by
  cases turn with
  | opens own request moment uuid =>
    refine ⟨hfiled.shared, fun session hmem => ?_, fun session hmem => ?_⟩
    · rcases List.mem_cons.mp hmem with rfl | hmem
      · exact hshort
      · exact hfiled.short session hmem
    · rcases List.mem_cons.mp hmem with rfl | hmem
      · exact fun id user hfind => ⟨user, hfind⟩
      · exact hfiled.users session hmem
  | joins user =>
    have hmore : ∀ id, desk.Knows id → (desk.turn (.joins user)).Knows id := by
      rintro id ⟨old, hfind⟩
      change ∃ found, (desk.shared.users.insert user).find? id = some found
      rw [Table.find?_insert]
      split
      · exact ⟨user, rfl⟩
      · exact ⟨old, hfind⟩
    exact ⟨{ hfiled.shared.mono hmore with }, hfiled.short,
      fun session hmem id old hfind => hmore id (hfiled.users session hmem id old hfind)⟩
  | ends place =>
    simp only [Desk.turn]
    split
    · next session hsession =>
      exact hfiled.ended hsound (List.mem_of_getElem? hsession) List.eraseIdx_subset
        (hallows session hsession)
    · exact hfiled

theorem filed_of_users (users : Table User) : Filed promise short { shared := { users } } where
  shared := Tables.filed_of_users users
  short := nofun
  users := nofun

theorem ReachableUnder.filed (hreachable : desk.ReachableUnder limits promise) :
    desk.Filed promise fun details => checkDetails limits details = .ok () := by
  induction hreachable with
  | start users => exact filed_of_users users
  | turn turn hreachable hallows hunder ih =>
    exact ih.turn hreachable.reachable.sound hallows hunder.passes

/-- Under any limits all details are such as passed once. -/
theorem Reachable.filed (hreachable : desk.Reachable promise) :
    desk.Filed promise fun _ => True := by
  induction hreachable with
  | start users => exact filed_of_users users
  | turn turn hreachable hallows ih =>
    refine ih.turn hreachable.sound hallows ?_
    cases turn with
    | opens own request moment uuid => exact fun _ _ => trivial
    | ends place => exact trivial
    | joins user => exact trivial

end Desk

end CashLedger
