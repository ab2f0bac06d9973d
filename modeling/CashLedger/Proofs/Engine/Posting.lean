import CashLedger.Proofs.Store.Mandate

/-!
# Posting within a mandate

Every change is made of a few steps: finding a row, applying a leg, recording it,
and taking a recorded leg back.  On its way through them the books stay balanced,
not with the stored records but with those that stand, which the steps post and
take back one by one; and each call stays within the change's mandate.
-/

namespace CashLedger

open Work

/-! ## Points on the way -/

/-- A point from which the end of the change is reached. -/
structure Course.Toward (mandate : Mandate) (course : Course) : Prop where
  supply : course.supply.Leads mandate.last.supply
  writes : course.unit.writes.Grows mandate.last.unit.writes

/-- What a step on balances and records leaves alone. -/
structure Course.Frame (first last : Course) : Prop where
  users : last.unit.working.users = first.unit.working.users
  exchanges : last.unit.working.exchanges = first.unit.working.exchanges
  debtors : last.unit.working.debtors = first.unit.working.debtors
  debts : last.unit.working.debts = first.unit.working.debts

/-- The standing records at a point of a change: they balance, no identifier that is
still to be drawn is one of theirs, and all calls so far are within the mandate. -/
structure Standing (mandate : Mandate) (course : Course) (records : Table Record) :
    Prop where
  balanced : Balanced course.unit.working.balances records
  unissued : ∀ record ∈ records.rows, ∀ n, course.supply.issued ≤ n →
    n < mandate.last.supply.issued → mandate.last.supply.uuid n ≠ record.id.uuid
  owners : ∀ balance ∈ course.unit.working.balances.rows, ∃ old,
    mandate.snapshot.balances.find? balance.id = some old ∧ old.SameOwner balance
  calls : ∀ request ∈ course.calls, request.Within mandate

section Way

variable {α : Type} {mandate : Mandate} {first middle last : Course}
  {records : Table Record}

theorem Course.Toward.end (snapshot : Tables) (owner : RecordSource) (last : Course) :
    last.Toward ⟨snapshot, owner, last⟩ :=
  ⟨.refl _, .refl _⟩

theorem Course.Toward.of_perform {work : Work α} {value : α}
    (htoward : last.Toward mandate) (hperform : work.perform first = .ok (value, last)) :
    first.Toward mandate :=
  ⟨(leads_of_perform hperform).supply.trans htoward.supply,
    (MemoryUnit.writes_grow_of_perform hperform).trans htoward.writes⟩

theorem Course.Frame.refl (course : Course) : course.Frame course := ⟨rfl, rfl, rfl, rfl⟩

theorem Course.Frame.trans (hfirst : first.Frame middle) (hlast : middle.Frame last) :
    first.Frame last :=
  ⟨hlast.users.trans hfirst.users, hlast.exchanges.trans hfirst.exchanges,
    hlast.debtors.trans hfirst.debtors, hlast.debts.trans hfirst.debts⟩

theorem Course.Frame.owed (hframe : first.Frame last)
    (howed : Owed first.unit.working.debtors first.unit.working.debts) :
    Owed last.unit.working.debtors last.unit.working.debts := by
  rw [hframe.debtors, hframe.debts]
  exact howed

/-- A change starts with the stored records standing. -/
theorem Standing.start
    (hbalanced : Balanced mandate.snapshot.balances mandate.snapshot.records)
    (hfresh : mandate.Fresh) {supply : Supply} :
    Standing mandate (.start mandate.snapshot supply) mandate.snapshot.records where
  balanced := hbalanced
  unissued record hmem n _ hlt heq := by
    apply hfresh.records record.id record (Table.mem_rows_iff.mp hmem)
    exact Supply.mem_drawn.mpr ⟨n, hlt, heq⟩
  owners balance hmem := ⟨balance, Table.mem_rows_iff.mp hmem, rfl, rfl, rfl⟩
  calls _ h := by cases h

theorem Course.within_answered {request : Call} {unit : MemoryUnit}
    (hcalls : ∀ request ∈ first.calls, request.Within mandate)
    (hwithin : request.Within mandate) :
    ∀ other ∈ (first.answered request unit).calls, other.Within mandate := by
  intro other hother
  rcases List.mem_append.mp hother with hother | hother
  · exact hcalls other hother
  · rwa [List.mem_singleton.mp hother]

/-- A call that leaves balances and standing records alone. -/
theorem Standing.answered (hstanding : Standing mandate first records) (request : Call)
    (unit : MemoryUnit) (hbalances : unit.working.balances = first.unit.working.balances)
    (hwithin : request.Within mandate) :
    Standing mandate (first.answered request unit) records where
  balanced := by
    rw [Course.answered_unit, hbalances]
    exact hstanding.balanced
  unissued := hstanding.unissued
  owners := by
    rw [Course.answered_unit, hbalances]
    exact hstanding.owners
  calls := Course.within_answered hstanding.calls hwithin

theorem Standing.clocked (hstanding : Standing mandate first records) :
    Standing mandate first.clocked records := { hstanding with }

theorem Standing.drew (hstanding : Standing mandate first records) :
    Standing mandate first.drew records :=
  { hstanding with
    unissued := fun record hmem n hle =>
      hstanding.unissued record hmem n (Nat.le_of_succ_le hle) }

theorem Standing.congr (hstanding : Standing mandate first records)
    {records' : Table Record} (hsame : records.Same records') :
    Standing mandate first records' :=
  { hstanding with
    balanced := hstanding.balanced.congr (.refl _) hsame
    unissued := fun record hmem => hstanding.unissued record (hsame.mem_iff.mpr hmem) }

end Way

namespace Posting

variable {mandate : Mandate} {first last : Course} {records : Table Record}

/-! ## Finding rows -/

theorem perform_findUser_eq_ok {id : UserId} {user : User} :
    (findUser id).perform first = .ok (user, last) ↔
      first.unit.working.users.find? id = some user ∧
        last = first.answered (.userById id) first.unit := by
  rw [findUser, perform_bind_eq_ok]
  constructor
  · rintro ⟨found, middle, hask, hrequire⟩
    obtain ⟨rfl, rfl⟩ := (perform_read_eq_ok rfl).mp hask
    exact perform_require_eq_ok.mp hrequire
  · rintro ⟨hfind, rfl⟩
    exact ⟨_, _, (perform_read_eq_ok rfl).mpr ⟨rfl, rfl⟩,
      perform_require_eq_ok.mpr ⟨hfind, rfl⟩⟩

theorem perform_findBalance_eq_ok {user : UserId} {currency : Currency} {balance : Balance} :
    (findBalance user currency).perform first = .ok (balance, last) ↔
      first.unit.working.balanceFor user currency = some balance ∧
        last = first.answered (.balanceFor user currency) first.unit := by
  rw [findBalance, perform_bind_eq_ok]
  constructor
  · rintro ⟨found, middle, hask, hrequire⟩
    obtain ⟨rfl, rfl⟩ := (perform_read_eq_ok rfl).mp hask
    exact perform_require_eq_ok.mp hrequire
  · rintro ⟨hfind, rfl⟩
    exact ⟨_, _, (perform_read_eq_ok rfl).mpr ⟨rfl, rfl⟩,
      perform_require_eq_ok.mpr ⟨hfind, rfl⟩⟩

theorem balanceFor_eq_some {tables : Tables} {user : UserId} {currency : Currency}
    {balance : Balance} (hfind : tables.balanceFor user currency = some balance) :
    balance ∈ tables.balances.rows ∧ balance.userId = user ∧ balance.currency = currency := by
  have hpair := List.find?_some hfind
  rw [Bool.and_eq_true, decide_eq_true_eq, decide_eq_true_eq] at hpair
  exact ⟨List.mem_of_find?_eq_some hfind, hpair⟩

/-- A changed balance is stored with the next version. -/
theorem perform_updateBalance {balance after stored : Balance}
    (hperform : (ask (.updateBalance after)).perform first = .ok (stored, last))
    (hmem : balance ∈ first.unit.working.balances.rows) (hid : after.id = balance.id) :
    stored = after.bump ∧ last = first.answered (.updateBalance after)
      (first.unit.writeBalance after.bump (.stored balance.version)) := by
  obtain ⟨unit, hanswer, rfl⟩ := perform_ask_eq_ok.mp hperform
  obtain ⟨current, hfind, -, rfl, rfl⟩ := MemoryUnit.updateBalance_eq_ok.mp hanswer
  have hthere : first.unit.working.balances.find? balance.id = some balance :=
    Table.mem_rows_iff.mp hmem
  rw [hid, hthere] at hfind
  cases hfind
  exact ⟨rfl, rfl⟩

/-! ## Balances that are changed on the way -/

/-- A balance that stands in the unit and has been written is a held one. -/
theorem holdsBalance (hstanding : Standing mandate first records)
    (htoward : last.Toward mandate) {balance : Balance}
    (hmem : balance ∈ first.unit.working.balances.rows)
    (hwritten : balance.id ∈ last.unit.writes.balanceIds) :
    mandate.HoldsBalance balance.id := by
  obtain ⟨old, hfind, -⟩ := hstanding.owners balance hmem
  exact ⟨⟨old, hfind⟩, htoward.writes.balances hwritten⟩

/-- The balance of a pair that stands in the unit and has been written was found for
that pair in the snapshot already. -/
theorem within_balanceFor (hstanding : Standing mandate first records)
    (htoward : last.Toward mandate) {balance : Balance}
    (hmem : balance ∈ first.unit.working.balances.rows)
    (hwritten : balance.id ∈ last.unit.writes.balanceIds) :
    (Call.balanceFor balance.userId balance.currency).Within mandate := by
  obtain ⟨old, hfind, howner⟩ := hstanding.owners balance hmem
  obtain ⟨hold, hkey⟩ := Table.find?_eq_some_iff.mp hfind
  refine ⟨old, hold, howner.userId.symm, howner.currency.symm, ?_⟩
  exact htoward.writes.balances (howner.id ▸ hwritten)

theorem owners_insert (hstanding : Standing mandate first records) {balance after : Balance}
    (hmem : balance ∈ first.unit.working.balances.rows) (howner : balance.SameOwner after) :
    ∀ row ∈ (first.unit.working.balances.insert after).rows, ∃ old,
      mandate.snapshot.balances.find? row.id = some old ∧ old.SameOwner row := by
  intro row hrow
  rcases Table.mem_rows_insert.mp hrow with rfl | ⟨hrow, -⟩
  · obtain ⟨old, hfind, hsame⟩ := hstanding.owners balance hmem
    exact ⟨old, howner.id ▸ hfind, hsame.trans howner⟩
  · exact hstanding.owners row hrow

/-! ## Applying a leg -/

theorem perform_applyLeg {user : UserId} {money : Money} {direction : Direction}
    {stored : Balance}
    (hperform : (applyLeg user money direction).perform first = .ok (stored, last)) :
    ∃ balance after now,
      first.unit.working.balanceFor user money.currency = some balance ∧
      balance.Applied ⟨direction, money.amount⟩ now after ∧ stored = after.bump ∧
      last = (first.answered (.balanceFor user money.currency) first.unit).clocked.answered
        (.updateBalance after)
        (first.unit.writeBalance after.bump (.stored balance.version)) := by
  obtain ⟨balance, _, hfind, hrest⟩ := perform_bind_eq_ok.mp hperform
  obtain ⟨hfound, rfl⟩ := perform_findBalance_eq_ok.mp hfind
  obtain ⟨now, _, hnow, hrest⟩ := perform_bind_eq_ok.mp hrest
  obtain ⟨-, rfl⟩ := perform_now_eq_ok.mp hnow
  obtain ⟨after, _, hcheck, hupdate⟩ := perform_bind_eq_ok.mp hrest
  obtain ⟨happlied, rfl⟩ := perform_check_eq_ok.mp hcheck
  rw [Balance.settled_apply_eq_ok_iff] at happlied
  obtain ⟨rfl, rfl⟩ := perform_updateBalance hupdate (balanceFor_eq_some hfound).1
    happlied.sameRow.id_eq
  exact ⟨balance, after, now, hfound, happlied, rfl, rfl⟩

/-- What comes of a leg that was applied. -/
structure LegApplied (mandate : Mandate) (user : UserId) (money : Money)
    (direction : Direction) (first last : Course) (records : Table Record)
    (stored : Balance) : Prop where
  frame : first.Frame last
  records_eq : last.unit.working.records = first.unit.working.records
  userId : stored.userId = user
  currency : stored.currency = money.currency
  issued : last.supply.issued = first.supply.issued
  /-- The books balance again with a record of the leg. -/
  balanced : ∀ record : Record, records.find? record.id = none →
    record.balanceId = stored.id → record.userId = user →
    record.currency = stored.currency → record.leg = ⟨direction, money.amount⟩ →
    Balanced last.unit.working.balances (records.insert record)
  owners : ∀ balance ∈ last.unit.working.balances.rows, ∃ old,
    mandate.snapshot.balances.find? balance.id = some old ∧ old.SameOwner balance
  calls : ∀ request ∈ last.calls, request.Within mandate

theorem legApplied (hstanding : Standing mandate first records)
    (htoward : last.Toward mandate) {user : UserId} {money : Money} {direction : Direction}
    {stored : Balance}
    (hperform : (applyLeg user money direction).perform first = .ok (stored, last)) :
    LegApplied mandate user money direction first last records stored := by
  obtain ⟨balance, after, now, hfind, happlied, rfl, rfl⟩ := perform_applyLeg hperform
  obtain ⟨hmem, huser, hcurrency⟩ := balanceFor_eq_some hfind
  have howner := happlied.sameRow.sameOwner_bump
  have hwritten := first.unit.mem_balanceIds_writeBalance after.bump (.stored balance.version)
  rw [howner.id] at hwritten
  refine ⟨⟨rfl, rfl, rfl, rfl⟩, rfl, howner.userId.trans huser,
    howner.currency.trans hcurrency, rfl, ?_, owners_insert hstanding hmem howner, ?_⟩
  · intro record hfresh hid hrecord hmoney hleg
    exact hstanding.balanced.post hmem happlied hfresh (hid.trans howner.id)
      (hrecord.trans huser.symm) (hmoney.trans howner.currency) hleg
  · have hfound := within_balanceFor hstanding htoward hmem hwritten
    have hheld : (Call.updateBalance after).Within mandate := by
      have hheld := holdsBalance hstanding htoward hmem hwritten
      rwa [← happlied.sameRow.id_eq] at hheld
    rw [huser, hcurrency] at hfound
    apply Course.within_answered _ hheld
    exact @Course.within_answered _ first _ first.unit hstanding.calls hfound

/-! ## Posting a leg -/

/-- What comes of a leg that was posted. -/
structure LegPosted (mandate : Mandate) (user : UserId) (money : Money)
    (direction : Direction) (source : RecordSource) (first last : Course)
    (records : Table Record) (record : Record) : Prop where
  frame : first.Frame last
  records_eq : last.unit.working.records = first.unit.working.records.insert record
  standing : Standing mandate last (records.insert record)
  fresh : records.find? record.id = none
  shows : record.Shows user (.ofDirection direction) money
  source : record.source = source
  drawn : record.id.uuid = mandate.last.supply.uuid first.supply.issued
  issued : first.supply.issued < last.supply.issued
  createdAt : ∃ n, first.supply.readings ≤ n ∧ n < last.supply.readings ∧
    record.createdAt = mandate.last.supply.moment n

theorem legPosted (hdistinct : mandate.last.supply.Distinct)
    (hstanding : Standing mandate first records) (htoward : last.Toward mandate)
    {user : UserId} {money : Money} {direction : Direction} {source : RecordSource}
    {details : Option String} {record : Record} (hsource : source = mandate.owner)
    (hperform : (postLeg user money direction source details).perform first =
      .ok (record, last)) :
    LegPosted mandate user money direction source first last records record := by
  obtain ⟨stored, middle, hleg, hrest⟩ := perform_bind_eq_ok.mp hperform
  have happlied := legApplied hstanding (htoward.of_perform hrest) hleg
  obtain ⟨now, _, hnow, hrest⟩ := perform_bind_eq_ok.mp hrest
  obtain ⟨rfl, rfl⟩ := perform_now_eq_ok.mp hnow
  obtain ⟨id, _, hdraw, hrest⟩ := perform_bind_eq_ok.mp hrest
  obtain ⟨rfl, rfl⟩ := perform_newId_eq_ok.mp hdraw
  obtain ⟨_, _, hask, hpure⟩ := perform_bind_eq_ok.mp hrest
  obtain ⟨unit, hanswer, rfl⟩ := perform_ask_eq_ok.mp hask
  cases hanswer
  obtain ⟨rfl, rfl⟩ := perform_pure_eq_ok.mp hpure
  have hissued := happlied.issued
  have hmiddle := (leads_of_perform hleg).supply
  have huuid : mandate.last.supply.uuid = middle.supply.uuid := htoward.supply.uuid_eq
  have hmoment : mandate.last.supply.moment = middle.supply.moment := htoward.supply.moment_eq
  have hlast : middle.supply.issued < mandate.last.supply.issued :=
    Nat.lt_of_lt_of_le (Nat.lt_succ_self _) htoward.supply.issued_le
  have hfresh : records.find? ⟨middle.supply.uuid middle.supply.issued⟩ = none := by
    rw [Table.find?_eq_none_iff]
    intro row hrow hkey
    apply hstanding.unissued row hrow middle.supply.issued hissued.ge hlast
    rw [huuid]
    exact (congrArg Id.uuid hkey).symm
  refine ⟨happlied.frame.trans ⟨rfl, rfl, rfl, rfl⟩, ?_, ?_, hfresh, ?_, rfl, ?_, ?_, ?_⟩
  · exact congrArg (Table.insert · _) happlied.records_eq
  · constructor
    · apply happlied.balanced _ hfresh rfl happlied.userId rfl
      simp [Record.leg, Record.posted, RecordKind.direction_ofDirection]
    · intro row hrow n hle hlt
      rcases Table.mem_rows_insert.mp hrow with rfl | ⟨hrow, -⟩
      · change _ ≠ middle.supply.uuid middle.supply.issued
        rw [← huuid]
        exact hdistinct n hlt _ hle
      · exact hstanding.unissued row hrow n (hissued.ge.trans (Nat.le_of_succ_le hle)) hlt
    · exact happlied.owners
    · apply Course.within_answered
      · exact happlied.calls
      exact ⟨Supply.mem_drawn.mpr ⟨middle.supply.issued, hlast, huuid ▸ rfl⟩, hsource⟩
  · exact ⟨happlied.userId, rfl, by simp [Record.money, Record.posted, happlied.currency]⟩
  · rw [huuid, ← hissued]
    rfl
  · rw [← hissued]
    exact Nat.lt_succ_self _
  · refine ⟨middle.supply.readings, hmiddle.readings_le, Nat.lt_succ_self _, ?_⟩
    rw [hmoment]
    rfl

/-! ## Taking legs back -/

theorem perform_reverseRecord {record : Record} {stored : Balance}
    (hperform : (reverseRecord record).perform first = .ok (stored, last)) :
    ∃ balance after now,
      first.unit.working.balances.find? record.balanceId = some balance ∧
      balance.Undone record.leg now after ∧ stored = after.bump ∧
      last = (first.answered (.balanceById record.balanceId) first.unit).clocked.answered
        (.updateBalance after)
        (first.unit.writeBalance after.bump (.stored balance.version)) := by
  obtain ⟨found, _, hask, hrest⟩ := perform_bind_eq_ok.mp hperform
  obtain ⟨rfl, rfl⟩ := (perform_read_eq_ok rfl).mp hask
  obtain ⟨balance, _, hrequire, hrest⟩ := perform_bind_eq_ok.mp hrest
  obtain ⟨hfound, rfl⟩ := perform_require_eq_ok.mp hrequire
  obtain ⟨now, _, hnow, hrest⟩ := perform_bind_eq_ok.mp hrest
  obtain ⟨-, rfl⟩ := perform_now_eq_ok.mp hnow
  obtain ⟨after, _, hcheck, hupdate⟩ := perform_bind_eq_ok.mp hrest
  obtain ⟨hundone, rfl⟩ := perform_check_eq_ok.mp hcheck
  rw [Balance.settled_reverse_eq_ok_iff] at hundone
  obtain ⟨rfl, rfl⟩ := perform_updateBalance hupdate (Table.mem_of_find? hfound)
    hundone.sameRow.id_eq
  exact ⟨balance, after, now, hfound, hundone, rfl, rfl⟩

theorem held_of_reverseRecord {record : Record} {stored : Balance}
    (hperform : (reverseRecord record).perform first = .ok (stored, last)) :
    record.balanceId ∈ last.unit.writes.balanceIds := by
  obtain ⟨balance, after, now, hfind, hundone, rfl, rfl⟩ := perform_reverseRecord hperform
  have hwritten := first.unit.mem_balanceIds_writeBalance after.bump (.stored balance.version)
  have hid : after.bump.id = record.balanceId :=
    hundone.sameRow.id_eq.trans (Table.key_of_find? hfind)
  rwa [hid] at hwritten

/-- What comes of a leg that was taken back. -/
structure LegReversed (mandate : Mandate) (record : Record) (first last : Course)
    (records : Table Record) : Prop where
  frame : first.Frame last
  records_eq : last.unit.working.records = first.unit.working.records
  standing : Standing mandate last (records.erase record.id)
  held : record.balanceId ∈ last.unit.writes.balanceIds

theorem legReversed (hstanding : Standing mandate first records)
    (htoward : last.Toward mandate) {record : Record} {stored : Balance}
    (hrecord : record ∈ records.rows)
    (hperform : (reverseRecord record).perform first = .ok (stored, last)) :
    LegReversed mandate record first last records := by
  have hwritten := held_of_reverseRecord hperform
  obtain ⟨balance, after, now, hfind, hundone, rfl, rfl⟩ := perform_reverseRecord hperform
  have hmem := Table.mem_of_find? hfind
  have hid : balance.id = record.balanceId := Table.key_of_find? hfind
  have howner := hundone.sameRow.sameOwner_bump
  have hheld := holdsBalance hstanding htoward hmem (hid.symm ▸ hwritten)
  refine ⟨⟨rfl, rfl, rfl, rfl⟩, rfl, ⟨?_, ?_, ?_, ?_⟩, hwritten⟩
  · exact hstanding.balanced.reverse hrecord hfind hundone
  · exact fun row hrow => hstanding.unissued row (Table.mem_rows_erase.mp hrow).1
  · exact owners_insert hstanding hmem howner
  · have hfound : (Call.balanceById record.balanceId).Within mandate := hid ▸ hheld
    have hupdate : (Call.updateBalance after).Within mandate := by
      rwa [← hundone.sameRow.id_eq] at hheld
    apply Course.within_answered _ hupdate
    exact @Course.within_answered _ first _ first.unit hstanding.calls hfound

/-- What comes of legs that were taken back one after the other. -/
structure LegsReversed (mandate : Mandate) (reversed : List Record) (first last : Course)
    (records : Table Record) : Prop where
  frame : first.Frame last
  records_eq : last.unit.working.records = first.unit.working.records
  standing : Standing mandate last ((reversed.map Record.id).foldl Table.erase records)
  held : ∀ record ∈ reversed, record.balanceId ∈ last.unit.writes.balanceIds

theorem legsReversed {reversed : List Record} (hdistinct : (reversed.map Record.id).Nodup)
    (hstanding : Standing mandate first records) (htoward : last.Toward mandate)
    (hrecords : ∀ record ∈ reversed, record ∈ records.rows)
    (hperform : (reverseRecords reversed).perform first = .ok ((), last)) :
    LegsReversed mandate reversed first last records := by
  induction reversed generalizing first records with
  | nil =>
    obtain ⟨-, rfl⟩ := perform_pure_eq_ok.mp hperform
    exact ⟨.refl _, rfl, hstanding, nofun⟩
  | cons record rest ih =>
    obtain ⟨hother, hdistinct⟩ := List.nodup_cons.mp hdistinct
    obtain ⟨stored, middle, hleg, hrest⟩ := perform_bind_eq_ok.mp hperform
    have hhead := legReversed hstanding (htoward.of_perform hrest) (hrecords record (by simp))
      hleg
    have hremaining : ∀ row ∈ rest, row ∈ (records.erase record.id).rows := by
      intro row hrow
      refine Table.mem_rows_erase.mpr ⟨hrecords row (by simp [hrow]), fun heq => hother ?_⟩
      exact List.mem_map.mpr ⟨row, hrow, heq⟩
    have htail := ih hdistinct hhead.standing hremaining hrest
    refine ⟨hhead.frame.trans htail.frame, htail.records_eq.trans hhead.records_eq,
      htail.standing, ?_⟩
    intro row hrow
    rcases List.mem_cons.mp hrow with rfl | hrow
    · exact (MemoryUnit.writes_grow_of_perform hrest).balances hhead.held
    · exact htail.held row hrow

/-- A unit without the records that a test keeps. -/
def dropWhere (unit : MemoryUnit) (chosen : Record → Bool) : MemoryUnit :=
  ((unit.working.records.rows.filter chosen).map Record.id).foldl MemoryUnit.dropRecord unit

theorem perform_deleteRecordsForExchange {id : ExchangeId} {count : Nat}
    (hperform : (ask (.deleteRecordsForExchange id)).perform first = .ok (count, last)) :
    last = first.answered (.deleteRecordsForExchange id)
      (dropWhere first.unit (Record.isOfExchange id)) := by
  obtain ⟨unit, hanswer, rfl⟩ := perform_ask_eq_ok.mp hperform
  cases hanswer
  rfl

theorem perform_deleteRecordsForDebt {id : DebtId} {count : Nat}
    (hperform : (ask (.deleteRecordsForDebt id)).perform first = .ok (count, last)) :
    last = first.answered (.deleteRecordsForDebt id)
      (dropWhere first.unit (Record.isOfDebt id)) := by
  obtain ⟨unit, hanswer, rfl⟩ := perform_ask_eq_ok.mp hperform
  cases hanswer
  rfl

theorem working_dropRecords (unit : MemoryUnit) (ids : List RecordId) :
    (ids.foldl MemoryUnit.dropRecord unit).working =
      { unit.working with records := ids.foldl Table.erase unit.working.records } := by
  induction ids generalizing unit with
  | nil => rfl
  | cons id rest ih => exact ih (unit.dropRecord id)

theorem mem_records_dropWhere {unit : MemoryUnit} {chosen : Record → Bool} {record : Record} :
    record ∈ (dropWhere unit chosen).working.records.rows ↔
      record ∈ unit.working.records.rows ∧ chosen record = false := by
  rw [dropWhere, working_dropRecords]
  exact Table.mem_rows_foldl_erase_filter

/-- What comes of the records that a test keeps, all taken back and deleted. -/
structure LegsDropped (mandate : Mandate) (chosen : Record → Bool) (first last : Course) :
    Prop where
  frame : first.Frame last
  standing : Standing mandate last last.unit.working.records
  remaining : ∀ record ∈ last.unit.working.records.rows, chosen record = false
  held : ∀ record ∈ first.unit.working.records.rows, chosen record = true →
    record.balanceId ∈ last.unit.writes.balanceIds

theorem LegsDropped.source_ne_exchange {id : ExchangeId}
    (hdropped : LegsDropped mandate (Record.isOfExchange id) first last) :
    ∀ record ∈ last.unit.working.records.rows, record.source ≠ .exchange id := by
  intro record hmem hsource
  have hother := hdropped.remaining record hmem
  rw [Record.isOfExchange_iff.mpr hsource] at hother
  cases hother

theorem LegsDropped.source_ne_debt {id : DebtId}
    (hdropped : LegsDropped mandate (Record.isOfDebt id) first last) :
    ∀ record ∈ last.unit.working.records.rows, record.source ≠ .debt id := by
  intro record hmem hsource
  have hother := hdropped.remaining record hmem
  rw [Record.isOfDebt_iff.mpr hsource] at hother
  cases hother

theorem legsDropped {listed : List Record} {chosen : Record → Bool}
    (hstanding : Standing mandate first first.unit.working.records)
    (htoward : last.Toward mandate)
    (hlisted : first.unit.working.recordsWhere chosen = listed)
    (hperform : (reverseRecords listed).perform first = .ok ((), last))
    (request : Call) (hwithin : request.Within mandate) :
    LegsDropped mandate chosen first (last.answered request (dropWhere last.unit chosen)) := by
  have hperm : listed.Perm (first.unit.working.records.rows.filter chosen) := by
    rw [← hlisted]
    exact Tables.recordsWhere_perm first.unit.working chosen
  have hdistinct : (listed.map Record.id).Nodup := by
    rw [(hperm.map Record.id).nodup_iff]
    exact first.unit.working.records.nodup_filter chosen
  have hlegs := legsReversed hdistinct hstanding htoward
    (fun record hmem => (List.mem_filter.mp (hperm.mem_iff.mp hmem)).1) hperform
  have hbalances : (dropWhere last.unit chosen).working.balances =
      last.unit.working.balances := by
    rw [dropWhere, working_dropRecords]
  constructor
  · apply hlegs.frame.trans
    constructor <;> simp [dropWhere, working_dropRecords]
  · -- Taking the records back one by one and deleting them leaves the same ones.
    apply (hlegs.standing.answered request _ hbalances hwithin).congr
    intro id
    rw [Course.answered_unit, dropWhere, working_dropRecords, Table.find?_foldl_erase,
      Table.find?_foldl_erase, hlegs.records_eq]
    simp only [(hperm.map Record.id).mem_iff]
  · intro record hmem
    exact (mem_records_dropWhere.mp hmem).2
  · intro record hmem hchosen
    apply (MemoryUnit.writes_grow_dropRecords _ _).balances
    exact hlegs.held record (hperm.mem_iff.mpr (List.mem_filter.mpr ⟨hmem, hchosen⟩))

/-! ## Posting recorded legs anew -/

/-- What comes of a record whose leg was taken back and another posted on it. -/
structure LegReposted (mandate : Mandate) (user : UserId) (money : Money)
    (kind : RecordKind) (record : Record) (first last : Course) (records : Table Record)
    (reposted : Record) : Prop where
  frame : first.Frame last
  records_eq : last.unit.working.records = first.unit.working.records.insert reposted
  standing : Standing mandate last (records.insert reposted)
  id : reposted.id = record.id
  source : reposted.source = record.source
  shows : reposted.Shows user kind money
  held : record.balanceId ∈ last.unit.writes.balanceIds

theorem legReposted (hstanding : Standing mandate first records)
    {user : UserId} {money : Money} {kind : RecordKind} {record : Record}
    {reversed balance : Balance} {middle applied : Course} {now : Timestamp}
    (hrecord : record ∈ records.rows) (huser : record.userId = user)
    (hstored : mandate.snapshot.records.find? record.id = some record)
    (hsource : record.source = mandate.owner)
    (hreverse : (reverseRecord record).perform first = .ok (reversed, middle))
    (happly : (applyLeg user money kind.direction).perform middle = .ok (balance, applied))
    (hupdate : (ask (.updateRecord
      (record.repost balance ⟨kind.direction, money.amount⟩ now))).perform applied.clocked =
      .ok ((), last))
    (htoward : last.Toward mandate) :
    LegReposted mandate user money kind record first last records
      (record.repost balance ⟨kind.direction, money.amount⟩ now) := by
  obtain ⟨unit, hanswer, rfl⟩ := perform_ask_eq_ok.mp hupdate
  obtain ⟨-, rfl⟩ := MemoryUnit.changing_eq_ok.mp hanswer
  have hsupply := applied.supply.leads_clock
  have htoward' : applied.Toward mandate :=
    ⟨hsupply.trans htoward.supply, htoward.writes.balances, htoward.writes.debtors⟩
  have hback := legReversed hstanding (htoward'.of_perform happly) hrecord hreverse
  have hleg := legApplied hback.standing htoward' happly
  have hgrows := MemoryUnit.writes_grow_of_perform happly
  have hheld := hgrows.balances hback.held
  have hfirst := (leads_of_perform hreverse).supply.trans (leads_of_perform happly).supply
  have hsame : ((records.erase record.id).insert
      (record.repost balance ⟨kind.direction, money.amount⟩ now)).Same
      (records.insert (record.repost balance ⟨kind.direction, money.amount⟩ now)) :=
    Table.same_insert_erase records _
  refine ⟨(hback.frame.trans hleg.frame).trans ⟨rfl, rfl, rfl, rfl⟩, ?_, ?_, rfl, rfl, ?_,
    hheld⟩
  · exact congrArg (Table.insert · _) (hleg.records_eq.trans hback.records_eq)
  · apply Standing.congr _ hsame
    constructor
    · apply hleg.balanced (record.repost balance ⟨kind.direction, money.amount⟩ now) _ rfl
        huser rfl
      · simp [Record.leg, Record.repost, RecordKind.direction_ofDirection]
      · exact (records.find?_erase record.id record.id).trans (if_pos rfl)
    · intro row hrow n hle hlt
      have hle' := (hfirst.trans hsupply).issued_le.trans hle
      rcases Table.mem_rows_insert.mp hrow with rfl | ⟨hrow, -⟩
      · exact hstanding.unissued record hrecord n hle' hlt
      · exact hstanding.unissued row (Table.mem_rows_erase.mp hrow).1 n hle' hlt
    · exact hleg.owners
    · apply Course.within_answered
      · exact hleg.calls
      exact ⟨⟨record, hstored, hsource, fun _ => htoward.writes.balances hheld⟩, hsource⟩
  · exact ⟨huser, RecordKind.ofDirection_direction kind,
      by simp [Record.money, Record.repost, hleg.currency]⟩

end Posting

end CashLedger
